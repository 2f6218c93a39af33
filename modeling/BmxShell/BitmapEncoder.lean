import BmxShell.FrameRuns

/-!
The container encoder of `com/wic/encoder/mod.rs`, `BitmapEncoder`. Its state is `inner`:
nothing before `Initialize`, then the palette set on it and whether it has handed out its
frame. The stream `Initialize` is given is where the frame's `Commit` writes; the model of
`Commit` returns the bytes it writes, so the stream is not kept. Over every run of calls,
`CreateNewFrame` returns `Ok` at most once, and never before `Initialize` has.
-/

namespace BmxShell.Encoder

/-- `BitmapEncoderData` without the imaging factory and the stream. -/
structure EncoderState where
  palette : Option WicPalette
  hasFrame : Bool

/-- The encoder as its frame reads it. -/
def EncoderState.parent (e : EncoderState) : BitmapEncoderData := ⟨e.palette⟩

/-- `BitmapEncoder::Initialize`; `createFactory` is its `CoCreateInstance` of the imaging
factory. -/
def initializeEncoder (e : Option EncoderState) (stream : Option Stream)
    (createFactory : Except ComError Unit) : Outcome (Option EncoderState) Unit :=
  match stream with
  | none => .error (.ofCode .E_INVALIDARG) e
  | some _ =>
  match e with
  | some _ => .error (.ofCode .ERROR_ALREADY_INITIALIZED) e
  | none =>
  match createFactory with
  | .error err => .error err e
  | .ok () => .ok () (some ⟨none, false⟩)

/-- What `IWICBitmapEncoderInfo::DoesSupportMultiframe` answers on the component info of
the encoder's class. -/
structure EncoderInfo where
  doesSupportMultiframe : Except ComError Bool

/-- `BitmapEncoder::GetEncoderInfo`: `info` is what `CreateComponentInfo` and the cast
return. -/
def getEncoderInfo (e : Option EncoderState) (info : Except ComError EncoderInfo) :
    Except ComError EncoderInfo :=
  match e with
  | none => .error (.ofCode .E_UNEXPECTED)
  | some _ => info

/-- `BitmapEncoder::SetPalette`. -/
def setEncoderPalette (e : Option EncoderState) (palette : Option WicPalette) :
    Outcome (Option EncoderState) Unit :=
  match palette with
  | none => .error (.ofCode .E_POINTER) e
  | some palette =>
  match e with
  | none => .error (.ofCode .E_UNEXPECTED) e
  | some st => .ok () (some { st with palette := some palette })

/-- `BitmapEncoder::CreateNewFrame`: the new frame, `FrameEncoder::new`. -/
def createNewFrame (e : Option EncoderState) : Outcome (Option EncoderState) FrameEncoderData :=
  match e with
  | none => .error (.ofCode .E_UNEXPECTED) e
  | some st =>
    if st.hasFrame then .error (.ofCode .WINCODEC_ERR_UNSUPPORTEDOPERATION) e
    else .ok .new (some { st with hasFrame := true })

/-- The calls on a `BitmapEncoder`. `SetColorContexts`, `SetThumbnail` and `SetPreview`
fail with `WINCODEC_ERR_UNSUPPORTEDOPERATION`, `GetMetadataQueryWriter` with `E_NOTIMPL`,
and `Commit` returns `Ok`; none of them reads or writes the state. -/
inductive EncoderCall
  | initializeEncoder (stream : Option Stream) (createFactory : Except ComError Unit)
  | getEncoderInfo (info : Except ComError EncoderInfo)
  | setPalette (palette : Option WicPalette)
  | createNewFrame
  | stateless (result : Except ComError Unit)

/-- One call; its `Ok` value is whether it was a `CreateNewFrame` that returned `Ok`. -/
def encoderStep (e : Option EncoderState) : EncoderCall → Outcome (Option EncoderState) Bool
  | .initializeEncoder stream createFactory =>
    (initializeEncoder e stream createFactory).map fun _ => false
  | .getEncoderInfo info =>
    match getEncoderInfo e info with
    | .ok _ => .ok false e
    | .error err => .error err e
  | .setPalette palette => (setEncoderPalette e palette).map fun _ => false
  | .createNewFrame => (createNewFrame e).map fun _ => true
  | .stateless result =>
    match result with
    | .ok () => .ok false e
    | .error err => .error err e

/-- The state after `calls`, each made whatever the ones before returned, and how many
frames they created. -/
def encoderRun : Option EncoderState → List EncoderCall → Option EncoderState × Nat
  | e, [] => (e, 0)
  | e, call :: calls =>
    match encoderStep e call with
    | .ok created e' => let r := encoderRun e' calls; (r.1, r.2 + if created then 1 else 0)
    | .error _ e' => encoderRun e' calls
    | .panic _ => (e, 0)

/-- How many more frames an encoder in state `e` can hand out. -/
def framesLeft : Option EncoderState → Nat
  | none => 1
  | some st => if st.hasFrame then 0 else 1

/-- A call that returns `Ok` after creating a frame uses up the encoder's one frame; no
other call gives one back. -/
theorem encoderStep_framesLeft {e e' : Option EncoderState} {call : EncoderCall} {created : Bool}
    (h : encoderStep e call = .ok created e') :
    framesLeft e' + (if created then 1 else 0) ≤ framesLeft e := by
  cases call <;> simp only [encoderStep, initializeEncoder, setEncoderPalette, createNewFrame] at h <;>
    repeat' (first | split at h | simp only [Outcome.map, reduceCtorEq, Outcome.ok.injEq] at h)
  -- in each case that returns `Ok`, the new state and whether a frame was created are known
  all_goals obtain ⟨rfl, rfl⟩ := h; simp [framesLeft, *]

/-- A call that fails leaves the encoder as it was. -/
theorem encoderStep_error {e e' : Option EncoderState} {call : EncoderCall} {err : ComError}
    (h : encoderStep e call = .error err e') : e' = e := by
  cases call <;> simp only [encoderStep, initializeEncoder, setEncoderPalette, createNewFrame] at h <;>
    repeat' (first | split at h | simp only [Outcome.map, reduceCtorEq, Outcome.error.injEq] at h)
  all_goals exact h.2.symm

/-- On an encoder not yet initialized, a call is an `Initialize` that returns `Ok`, or it leaves
the encoder uninitialized and creates no frame, whatever calls follow. -/
theorem encoderRun_none_cons (call : EncoderCall) :
    (∃ stream createFactory, call = .initializeEncoder stream createFactory ∧
        initializeEncoder none stream createFactory = .ok () (some ⟨none, false⟩)) ∨
      ∀ calls, encoderRun none (call :: calls) = encoderRun none calls := by
  cases call with
  | initializeEncoder stream createFactory =>
    cases stream with
    | none => exact .inr fun _ => rfl
    | some st =>
      cases createFactory with
      | error err => exact .inr fun _ => rfl
      | ok u => exact .inl ⟨_, _, rfl, rfl⟩
  | getEncoderInfo info => exact .inr fun _ => rfl
  | setPalette palette => cases palette <;> exact .inr fun _ => rfl
  | createNewFrame => exact .inr fun _ => rfl
  | stateless result => cases result <;> exact .inr fun _ => by simp [encoderRun, encoderStep]

/-- Every run of calls on an encoder creates at most as many frames as it had left: one
from a new encoder, whatever the calls and whatever each of them returned. From a new encoder,
the calls before the first `Initialize` that returns `Ok` leave it uninitialized and create no
frame; without such an `Initialize`, the whole run does. -/
theorem encoderRun_frames_le (e : Option EncoderState) (calls : List EncoderCall) :
    (encoderRun e calls).2 + framesLeft (encoderRun e calls).1 ≤ framesLeft e ∧
      (encoderRun none calls = (none, 0) ∨
        ∃ pre stream createFactory rest,
          calls = pre ++ .initializeEncoder stream createFactory :: rest ∧
          encoderRun none pre = (none, 0) ∧
          initializeEncoder none stream createFactory = .ok () (some ⟨none, false⟩)) := by
  refine ⟨?_, ?_⟩
  · induction calls generalizing e with
    | nil => simp [encoderRun]
    | cons call calls ih =>
      simp only [encoderRun]
      split
      · rename_i created e' hstep
        have h1 := encoderStep_framesLeft hstep
        have h2 := ih e'
        dsimp only
        cases created <;> simp only [if_true, if_false, Bool.false_eq_true] at h1 ⊢ <;> omega
      · rename_i err e' hstep
        rw [encoderStep_error hstep]
        exact ih e
      · simp
  · induction calls with
    | nil => exact .inl rfl
    | cons call calls ih =>
      rcases encoderRun_none_cons call with ⟨stream, createFactory, rfl, hinit⟩ | hrun
      · exact .inr ⟨[], stream, createFactory, calls, rfl, rfl, hinit⟩
      · rw [hrun calls]
        rcases ih with h | ⟨pre, stream, createFactory, rest, rfl, hpre, hinit⟩
        · exact .inl h
        · exact .inr ⟨call :: pre, stream, createFactory, rest, rfl, by rw [hrun pre, hpre],
            hinit⟩

end BmxShell.Encoder
