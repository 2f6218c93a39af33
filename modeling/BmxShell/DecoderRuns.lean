import BmxShell.EncodeDecode

/-!
The rest of the decoder of `com/wic/decoder/mod.rs`: the queries of `BitmapDecoder` and of
its `FrameDecoder`, and the decoder as a state machine. A frame decoder holds its parent and
reads the parent's state on every call, so each query is a function of that state. Only
`Initialize` and `CopyPixels` write it: the first fills an empty decoder from a header that
validates, the second moves the decoder's stream. Every header a reachable decoder holds
therefore validates, and `GetPixelFormat` never takes its `E_UNEXPECTED` branch for a bit
depth it does not know: it answers an indexed format that maps back to the header's bit
depth. Over the bytes a frame's `Commit` wrote, a decoder reports the frame's size.
-/

namespace BmxShell.Decoder

open Bmx

/-! The queries. -/

/-- `BitmapDecoder::GetDecoderInfo`: `info` is what `CreateComponentInfo` and the cast
return. -/
def getDecoderInfo (d : Option BitmapDecoderData) (info : Except ComError Unit) :
    Except ComError Unit :=
  match d with
  | none => .error (.ofCode .E_UNEXPECTED)
  | some _ => info

def getFrameCount : Except ComError UInt32 := .ok 1

/-- `BitmapDecoder::GetFrame`: a frame decoder over this decoder, for index 0 only. -/
def getFrame (index : UInt32) : Except ComError Unit :=
  if index > 0 then .error (.ofCode .E_INVALIDARG) else .ok ()

/-- `GetColorContexts`, the same on the decoder and on its frames. `colorContexts` is the
caller's array, as its number of slots, or `none` for a null pointer. With no array it
writes a count of 0 when asked for none; with one, it sets the first slot to `None` and
fails. That write lies outside an array of no slots: undefined behaviour, `none`. -/
def getColorContexts (count : UInt32) (colorContexts : Option Nat) :
    Option (Except ComError UInt32) :=
  match colorContexts with
  | none => some (if count > 0 then .error (.ofCode .E_INVALIDARG) else .ok 0)
  | some slots => if 0 < slots then some (.error (.ofCode .E_INVALIDARG)) else none

/-- `BitmapDecoder::CopyPalette`: the colours `GetColors` gives out of the decoder's palette,
into an array of 256, handed to `InitializeCustom` of the caller's palette, which then holds
them. `getColors` and `initializeCustom` are what those two calls return. -/
def copyPalette (d : Option BitmapDecoderData) (palette : Option Unit)
    (getColors initializeCustom : Except ComError Unit) : Except ComError (List UInt32) :=
  match palette with
  | none => .error (.ofCode .E_INVALIDARG)
  | some () =>
  match d with
  | none => .error (.ofCode .E_UNEXPECTED)
  | some p =>
  match getColors with
  | .error e => .error e
  | .ok () =>
  match initializeCustom with
  | .error e => .error e
  | .ok () => .ok (p.palette.take 256)

/-- `FrameDecoder::CopyPalette`: the parent's, once the caller's palette is checked. -/
def frameCopyPalette (d : Option BitmapDecoderData) (palette : Option Unit)
    (getColors initializeCustom : Except ComError Unit) : Except ComError (List UInt32) :=
  match palette with
  | none => .error (.ofCode .E_INVALIDARG)
  | some () => copyPalette d (some ()) getColors initializeCustom

/-- `FrameDecoder::GetPixelFormat`, on the parent's state. -/
def getPixelFormat (d : Option BitmapDecoderData) : Except ComError Guid :=
  match d with
  | none => .error (.ofCode .E_UNEXPECTED)
  | some p =>
    match bitDepthToPixelFormat p.header.bitDepth with
    | some g => .ok g
    | none => .error (.ofCode .E_UNEXPECTED)

/-- `FrameDecoder::GetSize`, on the parent's state: the header's width and height, widened
to `u32` by `as _`. -/
def getSize (d : Option BitmapDecoderData) : Except ComError (UInt32 × UInt32) :=
  match d with
  | none => .error (.ofCode .E_UNEXPECTED)
  | some p => .ok (p.header.width.toUInt32, p.header.height.toUInt32)

/-! The decoder as a state machine. -/

/-- The calls that write a decoder's state. Every other method of the decoder and of its
frames only reads it. -/
inductive DecoderCall
  | initializeDecoder (stream : Option Stream) (wic : Wic)
  | copyPixels (rect : Option WicRect) (stride bufferSize : UInt32) (dest : Nat → UInt8)

/-- The decoder's state after a call, or `none` when the call wrote outside the caller's
buffer. -/
def decoderStep (d : Option BitmapDecoderData) : DecoderCall → Option (Option BitmapDecoderData)
  | .initializeDecoder stream wic => (initializeDecoder d stream wic).state?
  | .copyPixels rect stride bufferSize dest =>
    (copyPixels d rect stride bufferSize dest).bind fun o => o.state?.map Prod.fst

/-- The states a new decoder reaches through any calls, each made whatever the ones before
returned. -/
inductive DecoderReachable : Option BitmapDecoderData → Prop
  | new : DecoderReachable none
  | step {d d' : Option BitmapDecoderData} (call : DecoderCall) :
      DecoderReachable d → decoderStep d call = some d' → DecoderReachable d'

/-- What every reachable decoder satisfies: the header it holds validates. -/
def DecoderInv (d : Option BitmapDecoderData) : Prop :=
  ∀ p, d = some p → p.header.validate = .ok ()

/-! What one call does. -/

/-- A header that validates has a bit depth BMX allows. -/
theorem bitDepth_mem_of_validate {h : FileHeader} (hv : h.validate = .ok ()) :
    h.bitDepth ∈ [1, 2, 4, 8] := by
  by_contra hn
  unfold FileHeader.validate at hv
  rw [if_pos hn] at hv
  split at hv <;> (try split at hv) <;> cases hv

/-- Each bit depth BMX allows has an indexed pixel format, which maps back to it. -/
theorem bitDepthToPixelFormat_of_mem {bitDepth : UInt8} (h : bitDepth ∈ [1, 2, 4, 8]) :
    ∃ g, bitDepthToPixelFormat bitDepth = some g ∧ pixelFormatToBitDepth g = some bitDepth := by
  simp only [List.mem_cons, List.mem_singleton, List.not_mem_nil, or_false] at h
  rcases h with rfl | rfl | rfl | rfl <;> exact ⟨_, rfl, by decide⟩

/-- Over a header that validates, `GetPixelFormat` answers a format that maps back to the
header's bit depth. -/
theorem getPixelFormat_of_validate {p : BitmapDecoderData} (hv : p.header.validate = .ok ()) :
    ∃ g, getPixelFormat (some p) = .ok g ∧ pixelFormatToBitDepth g = some p.header.bitDepth := by
  obtain ⟨g, hg, hback⟩ := bitDepthToPixelFormat_of_mem (bitDepth_mem_of_validate hv)
  exact ⟨g, by simp only [getPixelFormat, hg], hback⟩

/-- `CopyPixels` leaves the decoder as it was or moves its stream, and writes nothing else. -/
theorem copyPixels_state {d d' : Option BitmapDecoderData} {rect : Option WicRect}
    {stride bufferSize : UInt32} {dest : Nat → UInt8}
    {o : Outcome (Option BitmapDecoderData × (Nat → UInt8)) Unit}
    (h : copyPixels d rect stride bufferSize dest = some o) (hd : o.state?.map Prod.fst = some d') :
    d' = d ∨ ∃ p s, d = some p ∧ d' = some { p with stream := s } := by
  unfold copyPixels at h
  dsimp only at h
  repeat' split at h
  all_goals first
    | (cases h; cases hd; exact .inl rfl)
    | (obtain ⟨sb, -, rfl⟩ := Option.map_eq_some'.mp h; cases hd; exact .inr ⟨_, _, rfl, rfl⟩)

/-- Each call keeps every header a decoder holds one that validates. -/
theorem decoderStep_inv {d d' : Option BitmapDecoderData} {call : DecoderCall}
    (hi : DecoderInv d) (h : decoderStep d call = some d') : DecoderInv d' := by
  cases call with
  | initializeDecoder stream wic =>
    rw [decoderStep] at h
    cases ho : initializeDecoder d stream wic with
    | ok _ s =>
      rw [ho] at h
      cases h
      intro p hp
      subst hp
      obtain ⟨-, host, -, hs, -⟩ := initializeDecoder_ok_state ho
      exact validate_of_fromStream hs
    | error e s =>
      rw [ho] at h
      cases h
      rw [initializeDecoder_error ho]
      exact hi
    | panic msg => rw [ho] at h; cases h
  | copyPixels rect stride bufferSize dest =>
    obtain ⟨o, ho, hd⟩ := Option.bind_eq_some.mp h
    rcases copyPixels_state ho hd with rfl | ⟨p, s, rfl, rfl⟩
    · exact hi
    · intro q hq
      cases hq
      exact hi p rfl

theorem DecoderReachable.inv {d : Option BitmapDecoderData} (hd : DecoderReachable d) :
    DecoderInv d := by
  induction hd with
  | new => intro p hp; cases hp
  | step _ _ hstep ih => exact decoderStep_inv ih hstep

/-- Whatever calls a decoder went through, once it holds a header, `GetPixelFormat` returns
`Ok`, with an indexed format that maps back to the header's bit depth: its `E_UNEXPECTED`
for an unknown bit depth cannot happen. -/
theorem DecoderReachable.getPixelFormat_ok {p : BitmapDecoderData}
    (hd : DecoderReachable (some p)) :
    ∃ g, getPixelFormat (some p) = .ok g ∧ pixelFormatToBitDepth g = some p.header.bitDepth :=
  getPixelFormat_of_validate (hd.inv p rfl)

theorem getPixelFormat_ok_of_one_pixel_image :
    ∃ p, initializeDecoder none (some ⟨(indexed8Header 1 1).memoryImage ++ [0, 0, 0], 0⟩)
        ⟨.ok (), .ok (), .ok (), .ok (), .ok (), .error (.ofCode .E_UNEXPECTED)⟩ = .ok () (some p) ∧
      DecoderReachable (some p) ∧
      ∃ g, getPixelFormat (some p) = .ok g ∧ pixelFormatToBitDepth g = some p.header.bitDepth :=
  ⟨_, let h := rfl;
    let hr := DecoderReachable.step (.initializeDecoder _ _) .new (by rw [decoderStep, h]; rfl);
    ⟨h, hr, hr.getPixelFormat_ok⟩⟩

/-! Over the bytes a frame's `Commit` wrote. -/

/-- A decoder initialized over the bytes a frame's `Commit` wrote, wherever they stand in its
stream, with WIC's calls succeeding, reports through `GetSize` the frame's width and height,
and through `GetPixelFormat` an indexed format that maps back to the frame's bit depth. -/
theorem commit_output_frame_info {s s' : Encoder.FrameEncoderData}
    {parent : Option Encoder.BitmapEncoderData} {wic : Wic} {out : List UInt8}
    (hc : Encoder.commit s parent wic = .ok out s') (pre : List UInt8) {wic' : Wic}
    (hw : wic'.DecoderCallsSucceed) :
    ∃ frame p g, s.header = some frame ∧
      initializeDecoder none (some ⟨pre ++ out, pre.length⟩) wic' = .ok () (some p) ∧
      getSize (some p) = .ok (frame.width.toUInt32, frame.height.toUInt32) ∧
      getPixelFormat (some p) = .ok g ∧ pixelFormatToBitDepth g = some frame.bitDepth := by
  obtain ⟨frame, register, par, palette, pixels, hframe, -, -, -, -, -, -, hvalid, -, -, rfl⟩ :=
    Encoder.commit_eq_ok.mp hc
  have hstream : (fromStream ⟨pre ++ ((Encoder.completeHeader frame register
      palette.colors.length).memoryImage ++ Encoder.paletteBytes palette.colors ++ pixels),
      pre.length⟩).1 = .ok (Encoder.completeHeader frame register palette.colors.length) :=
    fromStream_fst_of_fromBytes (by
      simp only [List.drop_left, Encoder.take_output]; exact FileHeader.fromBytes_memoryImage hvalid)
  obtain ⟨p, hinit, hheader, -⟩ := initializeDecoder_of_fromStream hstream hw
  obtain ⟨g, hg, hback⟩ := getPixelFormat_of_validate (hheader ▸ hvalid)
  refine ⟨frame, p, g, hframe, hinit, ?_, hg, ?_⟩
  · rw [getSize, hheader]; rfl
  · rw [hback, hheader]; rfl

theorem commit_output_frame_info_of_one_pixel_frame :
    let host : Encoder.Host :=
      ⟨some ⟨none⟩, ⟨.ok (), .ok (), .ok (), .ok (), .ok (), .error (.ofCode .E_UNEXPECTED)⟩⟩
    ∃ r out s', Encoder.runOk host .new [.initializeFrame, .setSize 1 1,
        .setPixelFormat (some GUID_WICPixelFormat8bppIndexed),
        .setPalette (some ⟨[0xFF123456], by decide⟩), .writePixels 1 1 1 (some fun _ => 5)] =
        some r ∧
      Encoder.commit r.1 host.parent host.wic = .ok out s' ∧ host.wic.DecoderCallsSucceed ∧
      ∃ frame p g, r.1.header = some frame ∧
        initializeDecoder none (some ⟨[] ++ out, 0⟩) host.wic = .ok () (some p) ∧
        getSize (some p) = .ok (frame.width.toUInt32, frame.height.toUInt32) ∧
        getPixelFormat (some p) = .ok g ∧ pixelFormatToBitDepth g = some frame.bitDepth :=
  ⟨_, _, _, let hrun := rfl; let hc := rfl;
    ⟨hrun, hc, ⟨rfl, rfl, rfl, rfl, rfl⟩, commit_output_frame_info hc [] ⟨rfl, rfl, rfl, rfl, rfl⟩⟩⟩

end BmxShell.Decoder
