import BmxShell.Commit

/-!
The frame encoder as a state machine. A call is one of the frame's COM methods with its
arguments, and the parent encoder and WIC may answer differently at every call. A state
is reachable when some sequence of calls leads to it from `FrameEncoder::new`, whatever
each call returned, as long as none panicked. A method that fails leaves the state as it
was; `Commit` does so only while its three checks fail, since past them it has already
set the VERA register.
-/

namespace BmxShell.Encoder

open Bmx

/-- The parent encoder and WIC, as one call of the frame sees them. -/
structure Host where
  parent : Option BitmapEncoderData
  wic : Wic

inductive FrameCall
  | initializeFrame
  | setSize (width height : UInt32)
  | setResolution
  | setPixelFormat (pixelformat : Option Guid)
  | setColorContexts
  | setPalette (palette : Option WicPalette)
  | setThumbnail
  | writePixels (lineCount stride bufferSize : UInt32) (pixels : Option (Nat → UInt8))
  | writeSource (source : Option BitmapSource) (rect : Option WicRect)
  | commit

/-- One call on the frame; its `Ok` value is what it wrote to the encoder's stream. -/
def frameStep (host : Host) (s : FrameEncoderData) : FrameCall → Outcome FrameEncoderData (List UInt8)
  | .initializeFrame => (initializeFrame s).map fun _ => []
  | .setSize width height => (setSize s width height).map fun _ => []
  | .setResolution => (setResolution s).map fun _ => []
  | .setPixelFormat pixelformat => ((setPixelFormat s pixelformat).mapState Prod.fst).map fun _ => []
  | .setColorContexts => (unsupported s).map fun _ => []
  | .setPalette palette => (setPalette s palette).map fun _ => []
  | .setThumbnail => (unsupported s).map fun _ => []
  | .writePixels lineCount stride bufferSize pixels =>
    (writePixels s lineCount stride bufferSize pixels).map fun _ => []
  | .writeSource source rect => (writeSource s host.parent host.wic source rect).map fun _ => []
  | .commit => commit s host.parent host.wic

inductive Reachable : FrameEncoderData → Prop
  | new : Reachable .new
  | step {s s' : FrameEncoderData} (host : Host) (call : FrameCall) :
      Reachable s → (frameStep host s call).state? = some s' → Reachable s'

/-- The state after `calls` and the bytes they wrote, if every call returned `Ok`. -/
def runOk (host : Host) : FrameEncoderData → List FrameCall → Option (FrameEncoderData × List UInt8)
  | s, [] => some (s, [])
  | s, call :: calls =>
    match frameStep host s call with
    | .ok written s' => (runOk host s' calls).map fun r => (r.1, written ++ r.2)
    | _ => none

theorem Reachable.runOk {host : Host} {s : FrameEncoderData} (hs : Reachable s) :
    ∀ {calls : List FrameCall} {r}, Encoder.runOk host s calls = some r → Reachable r.1 := by
  intro calls
  induction calls generalizing s with
  | nil =>
    intro r h
    cases h
    exact hs
  | cons call calls ih =>
    intro r h
    simp only [Encoder.runOk] at h
    split at h
    · rename_i written s' hstep
      obtain ⟨r', hr', rfl⟩ := Option.map_eq_some'.mp h
      exact (ih (hs.step host call (by simp [hstep, Outcome.state?])) hr' :)
    · cases h

/-- A run whose calls all return `Ok` starts with a call that returns `Ok`. -/
theorem runOk_cons_eq_some {host : Host} {s : FrameEncoderData} {call : FrameCall}
    {calls : List FrameCall} {r : FrameEncoderData × List UInt8}
    (h : runOk host s (call :: calls) = some r) :
    ∃ written s' r', frameStep host s call = .ok written s' ∧ runOk host s' calls = some r' ∧
      r = (r'.1, written ++ r'.2) := by
  simp only [runOk] at h
  split at h
  · obtain ⟨r', hr', rfl⟩ := Option.map_eq_some'.mp h
    exact ⟨_, _, r', ‹_›, hr', rfl⟩
  · cases h

/-- `WritePixels` keeps all `buffer_size` bytes it is given, and `Commit` writes a chunk
whose stride is the line size whole: a frame of one line of four 8bpp pixels, written
with an eight-byte buffer, is committed with eight bytes of pixels after its 34 bytes of
header and palette. -/
theorem commit_writes_whole_pixel_buffer (parent : BitmapEncoderData) (wic : Wic) :
    (runOk ⟨some parent, wic⟩ .new
      [.initializeFrame, .setSize 4 1, .setPixelFormat (some GUID_WICPixelFormat8bppIndexed),
        .setPalette (some ⟨[0xFF123456], by decide⟩), .writePixels 1 4 8 (some UInt8.ofNat),
        .commit]).map (fun r => r.2.drop 34) =
      some [0, 1, 2, 3, 4, 5, 6, 7] := rfl

/-- The scanline check adds in `u16`: after one line of a two-line frame, a call with
65535 lines passes it, since `1 + 65535` wraps to 0, and the frame then holds 65536 lines
while counting 0. -/
theorem writePixels_line_count_wraps (parent : Option BitmapEncoderData) (wic : Wic) :
    (runOk ⟨parent, wic⟩ .new
      [.initializeFrame, .setSize 4 2, .setPixelFormat (some GUID_WICPixelFormat8bppIndexed),
        .writePixels 1 4 4 (some fun _ => 0), .writePixels 65535 4 4 (some fun _ => 0)]).map
      (fun r => (r.1.accumulatedHeight, (r.1.imageData.map fun c => c.lines.toNat).sum)) =
      some (0, 65536) := rfl

/-- Every call of this run returns `Ok`: `Commit` twice, and between them a `WritePixels`
of no lines. The two commits write 35 and 36 bytes. -/
theorem commit_ok_twice :
    (runOk ⟨some ⟨none⟩, ⟨.ok (), .ok (), .ok (), .ok (), .ok (), .error (.ofCode .E_UNEXPECTED)⟩⟩
      .new [.initializeFrame, .setSize 1 1, .setPixelFormat (some GUID_WICPixelFormat8bppIndexed),
        .setPalette (some ⟨[0xFF123456], by decide⟩), .writePixels 1 1 1 (some fun _ => 0),
        .commit, .writePixels 0 1 1 (some fun _ => 0), .commit]).map (fun r => r.2.length) =
      some 71 := rfl

/-! A failed call leaves the state as it was. -/

section Failures

variable {s s' : FrameEncoderData} {e : ComError}

theorem initializeFrame_error (h : initializeFrame s = .error e s') : s' = s := by
  unfold initializeFrame at h
  split at h <;> cases h
  rfl

theorem setSize_error {width height : UInt32} (h : setSize s width height = .error e s') :
    s' = s := by
  unfold setSize at h
  repeat' split at h
  all_goals first | (cases h; rfl) | cases h

theorem setPixelFormat_error {p p' : Option Guid}
    (h : setPixelFormat s p = .error e (s', p')) : s' = s ∧ p' = p := by
  unfold setPixelFormat at h
  repeat' split at h
  all_goals first | (cases h; exact ⟨rfl, rfl⟩) | cases h

theorem setPalette_error {p : Option WicPalette} (h : setPalette s p = .error e s') : s' = s := by
  unfold setPalette at h
  split at h <;> cases h
  rfl

theorem writePixels_error {lineCount stride bufferSize : UInt32} {pixels : Option (Nat → UInt8)}
    (h : writePixels s lineCount stride bufferSize pixels = .error e s') : s' = s := by
  unfold writePixels at h
  repeat' split at h
  all_goals first | (cases h; rfl) | cases h

theorem writeSource_error {parent : Option BitmapEncoderData} {wic : Wic}
    {source : Option BitmapSource} {rect : Option WicRect}
    (h : writeSource s parent wic source rect = .error e s') : s' = s := by
  unfold writeSource at h
  cases hc : writeSourceChecks s parent wic source rect with
  | error e' => simp only [hc] at h; cases h; rfl
  | ok w =>
    simp only [hc] at h
    split_ifs at h
    all_goals first | cases h | (split at h <;> first | (cases h; rfl) | cases h)

/-- `Commit`'s three checks, on a frame with a header. -/
def CommitChecksPass (s : FrameEncoderData) : Prop :=
  ∃ header, s.header = some header ∧ header.bitDepth ≠ 0 ∧ header.width ≠ 0 ∧
    sumLines s.imageData = header.height

theorem commit_error_of_checks_fail {parent : Option BitmapEncoderData} {wic : Wic}
    (h : commit s parent wic = .error e s') (hc : ¬ CommitChecksPass s) :
    s' = s := by
  unfold commit at h
  split at h
  · cases h; rfl
  rename_i header hheader
  split at h
  · cases h; rfl
  split at h
  · cases h; rfl
  split at h
  · cases h; rfl
  rename_i hbd hw hsum
  exact absurd ⟨header, hheader, hbd, hw, not_not.mp hsum⟩ hc

end Failures

/-! What a call can do to the frame's header. -/

/-- The header fields no frame method writes: the magic, the version, `pal_start`,
`compressed`, the border colour and the reserved bytes. -/
structure FieldsKept (h h' : FileHeader) : Prop where
  fileId : h'.fileId = h.fileId
  version : h'.version = h.version
  palStart : h'.palStart = h.palStart
  compressed : h'.compressed = h.compressed
  veraBorderColor : h'.veraBorderColor = h.veraBorderColor
  reserved : h'.reserved = h.reserved

theorem FieldsKept.refl (h : FileHeader) : FieldsKept h h := ⟨rfl, rfl, rfl, rfl, rfl, rfl⟩

theorem FieldsKept.trans {h₁ h₂ h₃ : FileHeader} (a : FieldsKept h₁ h₂) (b : FieldsKept h₂ h₃) :
    FieldsKept h₁ h₃ :=
  ⟨b.fileId.trans a.fileId, b.version.trans a.version, b.palStart.trans a.palStart,
    b.compressed.trans a.compressed, b.veraBorderColor.trans a.veraBorderColor,
    b.reserved.trans a.reserved⟩

/-- What one call can do to the frame's header and line count. -/
inductive FrameEffect (s s' : FrameEncoderData) : Prop
  /-- Both as they were. -/
  | keep : s'.header = s.header → s'.accumulatedHeight = s.accumulatedHeight → FrameEffect s s'
  /-- `Initialize`: the default header on a frame that had none. -/
  | create : s.header = none → s'.header = some FileHeader.default →
      s'.accumulatedHeight = s.accumulatedHeight → FrameEffect s s'
  /-- The header's writable fields edited, to a bit depth BMX allows, with the line count
  within the new height, or kept while the height is kept or was unset. -/
  | edit {h h' : FileHeader} : s.header = some h → s'.header = some h' → FieldsKept h h' →
      (h'.bitDepth = h.bitDepth ∨ h'.bitDepth ∈ [1, 2, 4, 8]) →
      (s'.accumulatedHeight ≤ h'.height ∨
        s'.accumulatedHeight = s.accumulatedHeight ∧ (h'.height = h.height ∨ h.height = 0)) →
      FrameEffect s s'

/-- What every reachable frame satisfies. -/
structure FrameInv (s : FrameEncoderData) : Prop where
  fresh : s.header = none → s.accumulatedHeight = 0
  kept : ∀ {h}, s.header = some h → FieldsKept FileHeader.default h
  bitDepth : ∀ {h}, s.header = some h → h.bitDepth ∈ [0, 1, 2, 4, 8]
  lines : ∀ {h}, s.header = some h → s.accumulatedHeight ≤ h.height

theorem FrameInv.new : FrameInv .new :=
  ⟨fun _ => rfl, fun h => (nomatch h), fun h => (nomatch h), fun h => (nomatch h)⟩

theorem FrameEffect.frameInv {s s' : FrameEncoderData} (hi : FrameInv s) :
    FrameEffect s s' → FrameInv s'
  | .keep hh ha => ⟨fun h => ha ▸ hi.fresh (hh ▸ h), fun h => hi.kept (hh ▸ h),
      fun h => hi.bitDepth (hh ▸ h), fun h => ha ▸ hi.lines (hh ▸ h)⟩
  | .create h0 hh ha => by
    refine ⟨fun h => (nomatch hh.symm.trans h), fun h => ?_, fun h => ?_, fun h => ?_⟩ <;>
      cases hh.symm.trans h
    · exact .refl _
    · decide
    · rw [ha, hi.fresh h0]
      exact UInt16.le_iff_toNat.mpr (Nat.zero_le _)
  | .edit hh hh' hk hbd hlines => by
    refine ⟨fun h => (nomatch hh'.symm.trans h), fun h => ?_, fun h => ?_, fun h => ?_⟩ <;>
      cases hh'.symm.trans h
    · exact (hi.kept hh).trans hk
    · rcases hbd with hbd | hbd
      · exact hbd ▸ hi.bitDepth hh
      · exact List.mem_cons_of_mem _ hbd
    · have hle := UInt16.le_iff_toNat.mp (hi.lines hh)
      rcases hlines with hlines | ⟨ha, hheight | hheight⟩
      · exact hlines
      · rw [ha, hheight]
        exact hi.lines hh
      · rw [ha, UInt16.le_iff_toNat]
        rw [hheight] at hle
        simp at hle
        omega

section Effects

variable {s s' : FrameEncoderData}

theorem initializeFrame_effect (h : (initializeFrame s).state? = some s') : FrameEffect s s' := by
  unfold initializeFrame at h
  split at h <;> cases h
  · exact .keep rfl rfl
  · exact .create (Option.not_isSome_iff_eq_none.mp ‹_›) rfl rfl

theorem setSize_effect {width height : UInt32} (h : (setSize s width height).state? = some s') :
    FrameEffect s s' := by
  unfold setSize at h
  repeat' split at h
  all_goals cases h
  all_goals first
    | exact .keep rfl rfl
    | have hheader : s.header = some _ := ‹_›
      refine .edit hheader rfl ⟨rfl, rfl, rfl, rfl, rfl, rfl⟩ (.inl rfl) (.inr ⟨rfl, ?_⟩)
      -- the size check lets the height change only while it is unset
      have hguard : ¬(_ ∨ _) := ‹_›
      exact (em _).elim .inr fun h0 => .inl (by_contra fun hne => hguard (.inr ⟨h0, Ne.symm hne⟩))

theorem setPixelFormat_effect {p p' : Option Guid}
    (h : (setPixelFormat s p).state? = some (s', p')) : FrameEffect s s' := by
  unfold setPixelFormat at h
  repeat' split at h
  all_goals cases h
  all_goals first
    | exact .keep rfl rfl
    | have hheader : s.header = some _ := ‹_›
      refine .edit hheader rfl ⟨rfl, rfl, rfl, rfl, rfl, rfl⟩ (.inr ?_) (.inr ⟨rfl, .inl rfl⟩)
      first | exact pixelFormatToBitDepth_mem ‹_› | exact (by decide : (8 : UInt8) ∈ [1, 2, 4, 8])

theorem setPalette_effect {p : Option WicPalette} (h : (setPalette s p).state? = some s') :
    FrameEffect s s' := by
  unfold setPalette at h
  split at h <;> cases h <;> exact .keep rfl rfl

theorem writePixels_effect {lineCount stride bufferSize : UInt32}
    {pixels : Option (Nat → UInt8)}
    (h : (writePixels s lineCount stride bufferSize pixels).state? = some s') :
    FrameEffect s s' := by
  unfold writePixels at h
  repeat' split at h
  all_goals cases h
  all_goals first
    | exact .keep rfl rfl
    | have hheader : s.header = some _ := ‹_›
      exact .edit hheader hheader (.refl _) (.inl rfl) (.inl (UInt16.not_lt.mp ‹_›))

theorem writeSource_effect {parent : Option BitmapEncoderData} {wic : Wic}
    {source : Option BitmapSource} {rect : Option WicRect}
    (h : (writeSource s parent wic source rect).state? = some s') : FrameEffect s s' := by
  unfold writeSource at h
  split at h
  · cases h; exact .keep rfl rfl
  rename_i w hw
  obtain ⟨hheader, hbd, hlines⟩ := writeSourceChecks_ok hw
  dsimp only at h
  repeat' split at h
  all_goals cases h
  all_goals first
    | exact .keep rfl rfl
    | exact .edit hheader rfl ⟨rfl, rfl, rfl, rfl, rfl, rfl⟩ (.inr hbd)
        (.inl (UInt16.le_iff_toNat.mpr (Nat.le_refl _)))
    | exact .edit hheader rfl (.refl _) (.inl rfl) (.inl (UInt16.not_lt.mp (hlines ‹_›)))

theorem commit_effect {parent : Option BitmapEncoderData} {wic : Wic}
    (h : (commit s parent wic).state? = some s') : FrameEffect s s' := by
  unfold commit at h
  dsimp only at h
  repeat' split at h
  all_goals cases h
  all_goals first
    | exact .keep rfl rfl
    | have hheader : s.header = some _ := ‹_›
      exact .edit hheader rfl ⟨rfl, rfl, rfl, rfl, rfl, rfl⟩ (.inl rfl) (.inr ⟨rfl, .inl rfl⟩)

theorem frameStep_effect {host : Host} {call : FrameCall}
    (h : (frameStep host s call).state? = some s') : FrameEffect s s' := by
  cases call with
  | initializeFrame => exact initializeFrame_effect (by simpa [frameStep] using h)
  | setSize width height => exact setSize_effect (by simpa [frameStep] using h)
  | setResolution => cases h; exact .keep rfl rfl
  | setPixelFormat p =>
    simp only [frameStep, Outcome.state?_map, Outcome.state?_mapState, Option.map_eq_some'] at h
    obtain ⟨⟨s₁, p'⟩, h₁, rfl⟩ := h
    exact setPixelFormat_effect h₁
  | setColorContexts => cases h; exact .keep rfl rfl
  | setPalette p => exact setPalette_effect (by simpa [frameStep] using h)
  | setThumbnail => cases h; exact .keep rfl rfl
  | writePixels lineCount stride bufferSize pixels =>
    exact writePixels_effect (by simpa [frameStep] using h)
  | writeSource source rect => exact writeSource_effect (by simpa [frameStep] using h)
  | commit => exact commit_effect h

end Effects

theorem Reachable.frameInv {s : FrameEncoderData} (hs : Reachable s) : FrameInv s := by
  induction hs with
  | new => exact .new
  | step _ _ _ hstep ih => exact (frameStep_effect hstep).frameInv ih

/-- Every header a reachable frame holds agrees with `FileHeader::default()` on the fields
no method writes: it has the magic and version and is uncompressed. -/
theorem Reachable.fieldsKept {s : FrameEncoderData} (hs : Reachable s) {h : FileHeader}
    (hh : s.header = some h) : FieldsKept FileHeader.default h :=
  hs.frameInv.kept hh

/-- Whatever the calls, the line counter of a reachable frame never passes the frame's
height: the scanline checks compare against the same wrapping `u16` sum that becomes the
new counter. -/
theorem Reachable.accumulatedHeight_le {s : FrameEncoderData} (hs : Reachable s)
    {h : FileHeader} (hh : s.header = some h) : s.accumulatedHeight ≤ h.height :=
  hs.frameInv.lines hh

/-- The counter stays within the height even after a call whose lines wrapped it. -/
theorem accumulatedHeight_le_after_wrap :
    ∃ r h, runOk ⟨none, ⟨.ok (), .ok (), .ok (), .ok (), .ok (), .error (.ofCode .E_UNEXPECTED)⟩⟩
        .new [.initializeFrame, .setSize 4 2, .setPixelFormat (some GUID_WICPixelFormat8bppIndexed),
          .writePixels 1 4 4 (some fun _ => 0), .writePixels 65535 4 4 (some fun _ => 0)] = some r ∧
      Reachable r.1 ∧ r.1.header = some h ∧ r.1.accumulatedHeight ≤ h.height :=
  ⟨_, _, let hrun := rfl; let hh := rfl;
    ⟨hrun, Reachable.new.runOk hrun, hh, Reachable.accumulatedHeight_le (Reachable.new.runOk hrun) hh⟩⟩

/-- `Commit` on a reachable frame never reaches its `unreachable!()`: a frame's bit depth
is 0 or one BMX allows, and past the check for 0 each has a VERA register. -/
theorem Reachable.commit_not_unreachable {s : FrameEncoderData} (hs : Reachable s)
    {parent : Option BitmapEncoderData} {wic : Wic} {msg : String}
    (h : commit s parent wic = .panic msg) : msg ≠ "internal error: entered unreachable code" := by
  unfold commit at h
  dsimp only at h
  repeat' split at h
  all_goals cases h
  all_goals first
    | decide
    | (intro heq
       rcases serializePixels_error_head ‹_› with h | h <;> rw [heq] at h <;> cases h)
    | exfalso
      rcases List.mem_cons.mp (hs.frameInv.bitDepth ‹s.header = some _›) with h0 | hmem
      · exact absurd h0 (by assumption)
      · exact veraRegister_ne_none hmem ‹_›

/-- A reachable frame whose `Commit` panics, though not at `unreachable!()`: rows written
with a stride shorter than the line cannot be cut to `bytes_per_line`. -/
theorem commit_not_unreachable_of_short_stride :
    ∃ r, runOk ⟨some ⟨none⟩, ⟨.ok (), .ok (), .ok (), .ok (), .ok (), .error (.ofCode .E_UNEXPECTED)⟩⟩
        .new [.initializeFrame, .setSize 4 1, .setPixelFormat (some GUID_WICPixelFormat8bppIndexed),
          .setPalette (some ⟨[0xFF123456], by decide⟩), .writePixels 1 2 4 (some fun _ => 0)] =
        some r ∧ Reachable r.1 ∧
      commit r.1 (some ⟨none⟩) ⟨.ok (), .ok (), .ok (), .ok (), .ok (), .error (.ofCode .E_UNEXPECTED)⟩ =
        .panic "range end index 4 out of range for slice of length 2" ∧
      "range end index 4 out of range for slice of length 2" ≠
        "internal error: entered unreachable code" :=
  ⟨_, let hrun := rfl; let hc := rfl;
    ⟨hrun, Reachable.new.runOk hrun, hc, Reachable.commit_not_unreachable (Reachable.new.runOk hrun) hc⟩⟩

/-- On a reachable frame that passes `Commit`'s three checks the bit depth is one BMX allows,
so the register match takes an arm, and the header completed for a palette of `n ≤ 256`
colours validates exactly when `n ≠ 0`: a palette with no colours makes the assertion fire. -/
theorem Reachable.commit_header_validates_iff {s : FrameEncoderData} (hs : Reachable s)
    (hc : CommitChecksPass s) {n : Nat} (hn : n ≤ 256) :
    ∃ header register, s.header = some header ∧ header.bitDepth ∈ [1, 2, 4, 8] ∧
      veraRegister header.bitDepth = some register ∧
      ((completeHeader header register n).validate = .ok () ↔ n ≠ 0) := by
  obtain ⟨header, hh, hbd, -, -⟩ := hc
  have hmem : header.bitDepth ∈ [1, 2, 4, 8] :=
    (List.mem_cons.mp (hs.frameInv.bitDepth hh)).resolve_left hbd
  obtain ⟨register, hreg⟩ := Option.ne_none_iff_exists'.mp (veraRegister_ne_none hmem)
  have hk := hs.frameInv.kept hh
  exact ⟨header, register, hh, hmem, hreg, completeHeader_validate_iff hk.fileId hk.version hreg hn⟩

/-- A reachable frame given an empty palette: it passes the checks, and its `Commit` panics
at the assertion. -/
theorem commit_header_validates_iff_of_empty_palette :
    ∃ r, runOk ⟨some ⟨none⟩, ⟨.ok (), .ok (), .ok (), .ok (), .ok (), .error (.ofCode .E_UNEXPECTED)⟩⟩
        .new [.initializeFrame, .setSize 1 1, .setPixelFormat (some GUID_WICPixelFormat8bppIndexed),
          .setPalette (some ⟨[], by decide⟩), .writePixels 1 1 1 (some fun _ => 0)] = some r ∧
      Reachable r.1 ∧ CommitChecksPass r.1 ∧
      commit r.1 (some ⟨none⟩) ⟨.ok (), .ok (), .ok (), .ok (), .ok (), .error (.ofCode .E_UNEXPECTED)⟩ =
        .panic "assertion failed: header.validate().is_ok()" ∧
      ∃ header register, r.1.header = some header ∧ header.bitDepth ∈ [1, 2, 4, 8] ∧
        veraRegister header.bitDepth = some register ∧
        ((completeHeader header register 0).validate = .ok () ↔ 0 ≠ 0) :=
  ⟨_, let hrun := rfl
    ⟨hrun, let hs := Reachable.new.runOk hrun
      let hc : CommitChecksPass _ := ⟨_, rfl, by decide, by decide, rfl⟩
      ⟨hs, hc, rfl, Reachable.commit_header_validates_iff hs hc (by decide)⟩⟩⟩

end BmxShell.Encoder
