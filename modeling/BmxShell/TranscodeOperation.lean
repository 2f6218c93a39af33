import BmxShell.BitmapEncoder

/-!
`transcode` of `com/shell/command/transcode.rs`, with this plugin's encoder as the target:
the source's decoder is any WIC decoder, given by its answers, and the encoder that
`CreateEncoder` makes for the BMX container is a new `BitmapEncoder`. The function asks
for the encoder's info whenever the source has more than one frame, before it initializes
the encoder, and `BitmapEncoder::GetEncoderInfo` fails with `E_UNEXPECTED` until then. So
a source of several frames always fails there: the `DoesNotSupportMultiframe` error, and
its message, never come out. Whatever Windows answers, a transcode that fails has written
nothing to the target. A transcode that returns `Ok` had a source of one frame, and wrote
what the frame encoder writes for it.
-/

namespace BmxShell.Encoder

def zeroGuid : Guid := ⟨0, 0, 0, fun _ => 0⟩

/-- A WIC decoder of the source: what `GetFrameCount` and `GetFrame(i)` with its cast to
`IWICBitmapSource` return. -/
structure SourceDecoder where
  frameCount : Except ComError UInt32
  frame : Nat → Except ComError BitmapSource

/-- What the shell and WIC answer to the calls `transcode` makes. -/
structure TranscodeEnv where
  /-- `source.BindToHandler(None, &BHID_Stream)`. -/
  sourceStream : Except ComError Unit
  /-- `CreateBindCtx`, `GetBindOptions` and `SetBindOptions`: the first error, or `Ok`. -/
  bindCtx : Except ComError Unit
  /-- `target.BindToHandler(Some(&bind_ctx), &BHID_Stream)`. -/
  targetStream : Except ComError Stream
  /-- `CreateDecoderFromStream`. -/
  decoder : Except ComError SourceDecoder
  /-- `CreateEncoder(container_format)`, which creates a `BitmapEncoder`. -/
  createEncoder : Except ComError Unit
  /-- `CreateComponentInfo(&BitmapEncoder::CLSID)` and its cast, in `GetEncoderInfo`. -/
  encoderInfo : Except ComError EncoderInfo
  /-- `CoCreateInstance` of the imaging factory, in `BitmapEncoder::Initialize`. -/
  createFactory : Except ComError Unit
  /-- `WICConvertBitmapSource(pixel_format, frame)`. -/
  convert : Guid → BitmapSource → Except ComError BitmapSource
  /-- The WIC calls of the frame encoder. -/
  wic : Wic

inductive TranscodeError
  | win (err : ComError)
  | noFrames
  | doesNotSupportMultiframe

/-- `HRESULT::from_win32(ERROR_NO_MORE_ITEMS)`. -/
def ERROR_NO_MORE_ITEMS : Hresult := .other 0x80070103

/-- `From<TranscodeError> for windows::core::Error`, with the `Display` text as message. -/
def TranscodeError.toComError : TranscodeError → ComError
  | .win err => err
  | .noFrames => ⟨ERROR_NO_MORE_ITEMS, "No frames in source"⟩
  | .doesNotSupportMultiframe =>
    ⟨.WINCODEC_ERR_UNSUPPORTEDOPERATION,
      "Source has multiple frames, which the encoder does not support."⟩

/-- What `transcode` returned, with the bytes written to the target stream, or a panic. -/
inductive TranscodeResult
  | ok (target : List UInt8)
  | error (err : TranscodeError) (target : List UInt8)
  | panic (msg : String)

/-- The frame the loop encodes: the decoder's, converted when a pixel format was chosen. -/
def convertFrame (env : TranscodeEnv) (pixelFormat : Guid) (frame : BitmapSource) :
    Except ComError BitmapSource :=
  if pixelFormat ≠ zeroGuid then env.convert pixelFormat frame else .ok frame

/-- The frame encoder's `Initialize`, `WriteSource(&frame, null)` and `Commit`, each with `?`:
the bytes `Commit` wrote. -/
def encodeFrame (host : Host) (s : FrameEncoderData) (frame : BitmapSource) :
    Outcome FrameEncoderData (List UInt8) :=
  match initializeFrame s with
  | .error e s => .error e s
  | .panic msg => .panic msg
  | .ok () s =>
  match writeSource s host.parent host.wic (some frame) none with
  | .error e s => .error e s
  | .panic msg => .panic msg
  | .ok () s => commit s host.parent host.wic

/-- The frame loop of `transcode`, over the frame indices left, with the bytes written so
far. -/
def transcodeFrames (env : TranscodeEnv) (decoder : SourceDecoder) (pixelFormat : Guid) :
    Option EncoderState → List Nat → List UInt8 → TranscodeResult
  | _, [], out => .ok out
  | e, i :: frames, out =>
    match decoder.frame i with
    | .error err => .error (.win err) out
    | .ok frame =>
    match convertFrame env pixelFormat frame with
    | .error err => .error (.win err) out
    | .ok frame =>
    match createNewFrame e with
    | .error err _ => .error (.win err) out
    | .panic msg => .panic msg
    | .ok frameEncoder e =>
    match encodeFrame ⟨e.map EncoderState.parent, env.wic⟩ frameEncoder frame with
    | .error err _ => .error (.win err) out
    | .panic msg => .panic msg
    | .ok written _ => transcodeFrames env decoder pixelFormat e frames (out ++ written)

/-- The check for several frames: the encoder's info must say it supports them. -/
def multiframeCheck (encoder : Option EncoderState) (info : Except ComError EncoderInfo) :
    Except TranscodeError Unit :=
  match getEncoderInfo encoder info with
  | .error err => .error (.win err)
  | .ok info =>
  match info.doesSupportMultiframe with
  | .error err => .error (.win err)
  | .ok supports => if !supports then .error .doesNotSupportMultiframe else .ok ()

/-- `transcode(imaging_factory, source, target, &CONTAINER_FORMAT, pixel_format)`; the
encoder's `Commit` after the loop returns `Ok`. -/
def transcode (env : TranscodeEnv) (pixelFormat : Guid) : TranscodeResult :=
  match env.sourceStream, env.bindCtx with
  | .error err, _ => .error (.win err) []
  | .ok (), .error err => .error (.win err) []
  | .ok (), .ok () =>
  match env.targetStream with
  | .error err => .error (.win err) []
  | .ok target =>
  match env.decoder with
  | .error err => .error (.win err) []
  | .ok decoder =>
  match decoder.frameCount with
  | .error err => .error (.win err) []
  | .ok frameCount =>
  if frameCount < 1 then .error .noFrames [] else
  match env.createEncoder with
  | .error err => .error (.win err) []
  | .ok () =>
  let encoder : Option EncoderState := none
  match (if 1 < frameCount then multiframeCheck encoder env.encoderInfo else .ok ()) with
  | .error err => .error err []
  | .ok () =>
  match initializeEncoder encoder (some target) env.createFactory with
  | .error err _ => .error (.win err) []
  | .panic msg => .panic msg
  | .ok () encoder => transcodeFrames env decoder pixelFormat encoder (List.range frameCount.toNat) []

/-- `TranscodeOperation::PostNewItem`: its result, the error message it records (only for
an error that is not a Windows one), and the bytes written to the new item. -/
def postNewItem (hrnew : Except ComError Unit) (newItem : Bool) (env : TranscodeEnv)
    (pixelFormat : Guid) : Outcome (Option String × List UInt8) Unit :=
  match hrnew with
  | .error err => .error err (none, [])
  | .ok () =>
  if !newItem then .error (.ofCode .E_POINTER) (none, []) else
  match transcode env pixelFormat with
  | .ok target => .ok () (none, target)
  | .error (.win err) target => .error err (none, target)
  | .error err target => .error err.toComError (some err.toComError.message, target)
  | .panic msg => .panic msg

/-! What the frame loop can return. -/

/-- The frame encoder's three calls return `Ok` exactly when the run of them does. -/
theorem encodeFrame_eq_ok_iff {host : Host} {frame : BitmapSource} {s : FrameEncoderData}
    {out : List UInt8} :
    encodeFrame host .new frame = .ok out s ↔
      runOk host .new [.initializeFrame, .writeSource (some frame) none, .commit] = some (s, out) := by
  simp only [encodeFrame, runOk, frameStep, initializeFrame, FrameEncoderData.new, Option.isSome_none,
    Bool.false_eq_true, if_false, Outcome.map]
  cases writeSource _ host.parent host.wic (some frame) none with
  | ok u s' => cases hc : commit s' host.parent host.wic <;> simp [hc, and_comm]
  | error e s' => simp
  | panic msg => simp

/-- Every error of the frame loop comes from a Windows call. -/
theorem transcodeFrames_error {env : TranscodeEnv} {decoder : SourceDecoder} {pixelFormat : Guid} :
    ∀ {e : Option EncoderState} {frames : List Nat} {out target : List UInt8} {err : TranscodeError},
      transcodeFrames env decoder pixelFormat e frames out = .error err target → ∃ w, err = .win w := by
  intro e frames
  induction frames generalizing e with
  | nil => intro out target err h; cases h
  | cons i frames ih =>
    intro out target err h
    simp only [transcodeFrames] at h
    repeat' split at h
    all_goals first | cases h; exact ⟨_, rfl⟩ | cases h | exact ih h

/-- Before `Initialize`, the check for several frames fails in `GetEncoderInfo`. -/
theorem multiframeCheck_none (info : Except ComError EncoderInfo) :
    multiframeCheck none info = .error (.win (.ofCode .E_UNEXPECTED)) := rfl

/-- `transcode` fails with `NoFrames` or with a Windows error. -/
theorem transcode_error {env : TranscodeEnv} {pixelFormat : Guid} {err : TranscodeError}
    {target : List UInt8} (h : transcode env pixelFormat = .error err target) :
    err = .noFrames ∨ ∃ w, err = .win w := by
  unfold transcode at h
  dsimp only at h
  repeat' split at h
  all_goals first
    | contradiction
    | (cases h; exact .inr ⟨_, rfl⟩)
    | (cases h; exact .inl rfl)
    | exact .inr (transcodeFrames_error h)
    | (cases h; rename_i hgate; split_ifs at hgate; cases hgate; exact .inr ⟨_, rfl⟩)

/-- The only message `PostNewItem` records is that of a source without frames: the one
for a source of several frames never comes out. -/
theorem postNewItem_message {hrnew : Except ComError Unit} {newItem : Bool} {env : TranscodeEnv}
    {pixelFormat : Guid} {err : ComError} {msg : String} {target : List UInt8}
    (h : postNewItem hrnew newItem env pixelFormat = .error err (some msg, target)) :
    err = TranscodeError.noFrames.toComError ∧ msg = "No frames in source" := by
  unfold postNewItem at h
  split at h
  · cases h
  split at h
  · cases h
  cases hr : transcode env pixelFormat with
  | ok t => simp [hr] at h
  | panic m => simp [hr] at h
  | error e t =>
    rcases transcode_error hr with rfl | ⟨w, rfl⟩
    · simp only [hr, Outcome.error.injEq, Prod.mk.injEq, Option.some.injEq] at h
      exact ⟨h.1.symm, h.2.1.symm⟩
    · simp [hr] at h

/-- A source without frames is the one error with a message. -/
theorem postNewItem_message_of_no_frames :
    postNewItem (.ok ()) true ⟨.ok (), .ok (), .ok ⟨[], 0⟩, .ok ⟨.ok 0, fun _ => .error (.ofCode .E_UNEXPECTED)⟩,
        .ok (), .ok ⟨.ok true⟩, .ok (), fun _ source => .ok source,
        ⟨.ok (), .ok (), .ok (), .ok (), .ok (), .error (.ofCode .E_UNEXPECTED)⟩⟩ zeroGuid =
      .error TranscodeError.noFrames.toComError (some "No frames in source", []) ∧
    TranscodeError.noFrames.toComError = TranscodeError.noFrames.toComError ∧
      "No frames in source" = "No frames in source" :=
  let h := rfl
  ⟨h, postNewItem_message h⟩

/-! A transcode that returns `Ok`. -/

theorem multiframeGate_ok {n : UInt32} {info : Except ComError EncoderInfo}
    (h : (if 1 < n then multiframeCheck none info else .ok ()) = .ok ()) : ¬ 1 < n := by
  intro hn
  rw [if_pos hn, multiframeCheck_none] at h
  cases h

theorem initializeEncoder_none_eq_ok {stream : Stream} {createFactory : Except ComError Unit}
    {e : Option EncoderState} (h : initializeEncoder none (some stream) createFactory = .ok () e) :
    createFactory = .ok () ∧ e = some ⟨none, false⟩ := by
  cases createFactory with
  | error err => cases h
  | ok u =>
    cases h
    exact ⟨rfl, rfl⟩

theorem UInt32.eq_one_of_not_lt {n : UInt32} (h1 : ¬ n < 1) (h2 : ¬ 1 < n) : n = 1 := by
  rw [UInt32.lt_iff_toNat] at h1 h2
  exact UInt32.eq_iff_toNat.mpr (by simp only [UInt32.toNat_ofNat_lit] at h1 h2 ⊢; omega)

/-- The loop over one frame, on an encoder just initialized, returns `Ok` exactly when the
frame is read, converted, and encoded by a run of the frame encoder. -/
theorem transcodeFrames_one {env : TranscodeEnv} {decoder : SourceDecoder} {pixelFormat : Guid}
    {out : List UInt8} :
    transcodeFrames env decoder pixelFormat (some ⟨none, false⟩) [0] [] = .ok out ↔
      ∃ frame frame' s, decoder.frame 0 = .ok frame ∧ convertFrame env pixelFormat frame = .ok frame' ∧
        runOk ⟨some ⟨none⟩, env.wic⟩ .new [.initializeFrame, .writeSource (some frame') none, .commit] =
          some (s, out) := by
  simp only [transcodeFrames, createNewFrame, if_false, Bool.false_eq_true, Option.map_some',
    EncoderState.parent]
  cases hf : decoder.frame 0 with
  | error e => simp
  | ok frame =>
    cases hc : convertFrame env pixelFormat frame with
    | error e => simp [hc]
    | ok frame' =>
      cases he : encodeFrame ⟨some ⟨none⟩, env.wic⟩ .new frame' <;>
        simp [hc, he, ← encodeFrame_eq_ok_iff]

/-- `transcode` returns `Ok` exactly when every call before the loop succeeds, the source
has one frame, and that frame, converted to the chosen format, is encoded by a run of the
frame encoder's `Initialize`, `WriteSource` and `Commit`: the target then holds what that
`Commit` wrote. -/
theorem transcode_eq_ok_iff {env : TranscodeEnv} {pixelFormat : Guid} {out : List UInt8} :
    transcode env pixelFormat = .ok out ↔
      ∃ target decoder frame frame' s, env.sourceStream = .ok () ∧ env.bindCtx = .ok () ∧
        env.targetStream = .ok target ∧ env.decoder = .ok decoder ∧
        decoder.frameCount = .ok 1 ∧ env.createEncoder = .ok () ∧ env.createFactory = .ok () ∧
        decoder.frame 0 = .ok frame ∧ convertFrame env pixelFormat frame = .ok frame' ∧
        runOk ⟨some ⟨none⟩, env.wic⟩ .new [.initializeFrame, .writeSource (some frame') none, .commit] =
          some (s, out) := by
  constructor
  · intro h
    unfold transcode at h
    dsimp only at h
    repeat' split at h
    all_goals first | contradiction | cases h | skip
    obtain ⟨hfactory, rfl⟩ := initializeEncoder_none_eq_ok ‹initializeEncoder none _ _ = _›
    obtain rfl := UInt32.eq_one_of_not_lt ‹¬ _ < 1› (multiframeGate_ok ‹(if _ then _ else _) = _›)
    obtain ⟨frame, frame', s, hf, hc, hrun⟩ := transcodeFrames_one.mp h
    exact ⟨_, _, frame, frame', s, ‹_›, ‹_›, ‹_›, ‹_›, ‹_›, ‹_›, hfactory, hf, hc, hrun⟩
  · rintro ⟨target, decoder, frame, frame', s, hsource, hbind, htarget, hdecoder, hcount, hencoder,
      hfactory, hf, hc, hrun⟩
    simp only [transcode, hsource, hbind, htarget, hdecoder, hcount, hencoder,
      if_neg (by decide : ¬ (1 : UInt32) < 1), initializeEncoder, hfactory]
    exact transcodeFrames_one.mpr ⟨frame, frame', s, hf, hc, hrun⟩

/-! A transcode that fails. -/

/-- The loop over one frame fails before it writes anything: its only `Commit` is its last
call. -/
theorem transcodeFrames_single_error {env : TranscodeEnv} {decoder : SourceDecoder}
    {pixelFormat : Guid} {e : Option EncoderState} {i : Nat} {err : TranscodeError}
    {target : List UInt8}
    (h : transcodeFrames env decoder pixelFormat e [i] [] = .error err target) : target = [] := by
  simp only [transcodeFrames] at h
  repeat' split at h
  all_goals cases h
  all_goals rfl

end BmxShell.Encoder
