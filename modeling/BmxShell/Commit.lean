import BmxShell.Encoder
import Mathlib.Data.List.GetD

/-!
`FrameEncoder::Commit`. After three checks on the frame it sets the VERA register from
the bit depth (this mutation stays even when a later step fails), resolves the palette
(frame's own, then the encoder's, then the bitmap source's, then WIC's 256-colour
halftone palette), fills in `pal_used` and `data_start`, asserts that the header
validates, and writes the header's memory image, the palette entries and the pixels.
A chunk whose stride is the line size is written whole; any other is cut into
`stride`-byte rows, of which the first `bytes_per_line` bytes are written. The bytes
written to the encoder's stream are `Commit`'s result. Chunks laid out as `WritePixels`
documents its buffer serialize without a panic to the frame's rows, one line each.
-/

namespace BmxShell.Encoder

open Bmx

/-- `image_data.iter().map(|chunk| chunk.lines).sum::<u16>()`, wrapping. -/
def sumLines (chunks : List Chunk) : UInt16 := (chunks.map Chunk.lines).foldl (· + ·) 0

/-- The VERA color depth register for a bit depth; `none` is the `unreachable!()` arm. -/
def veraRegister (bitDepth : UInt8) : Option UInt8 :=
  if bitDepth = 1 then some 0
  else if bitDepth = 2 then some 1
  else if bitDepth = 4 then some 2
  else if bitDepth = 8 then some 3
  else none

/-- Every bit depth BMX allows has a VERA register. -/
theorem veraRegister_ne_none {bitDepth : UInt8} (h : bitDepth ∈ [1, 2, 4, 8]) :
    veraRegister bitDepth ≠ none := by
  simp only [List.mem_cons, List.mem_singleton, List.not_mem_nil, or_false] at h
  rcases h with rfl | rfl | rfl | rfl <;> decide

/-- The palette `Commit` writes. -/
def resolvePalette (palette : Option PaletteToUse) (parent : BitmapEncoderData) (wic : Wic) :
    Except ComError WicPalette :=
  match palette with
  | some (.frame palette) => .ok palette
  | some (.bitmapSource palette) => .ok (parent.palette.getD palette)
  | none =>
    match parent.palette with
    | some palette => .ok palette
    | none =>
      match wic.createPalette with
      | .error e => .error e
      | .ok () => wic.fixedHalftone256

/-- `slice::chunks_exact(n)`: the whole `n`-byte pieces, the remainder dropped. -/
def chunksExact (n : Nat) (data : List UInt8) : List (List UInt8) :=
  (List.range (data.length / n)).map fun i => (data.drop (i * n)).take n

/-- The bytes one chunk contributes, or the message of its panic: `chunks_exact(0)`, or
`&line[..bytes_per_line]` past the end of a row. -/
def serializeChunk (bytesPerLine : UInt16) (chunk : Chunk) : Except String (List UInt8) :=
  if chunk.stride = bytesPerLine then .ok chunk.data
  else if chunk.stride = 0 then .error "chunk size must be non-zero"
  else
    let lines := chunksExact chunk.stride.toNat chunk.data
    if chunk.stride < bytesPerLine ∧ lines ≠ [] then
      .error s!"range end index {bytesPerLine} out of range for slice of length {chunk.stride}"
    else .ok (lines.map (List.take bytesPerLine.toNat)).flatten

/-- The pixel bytes of all chunks, in order, or the message of the first chunk's panic. -/
def serializePixels (bytesPerLine : UInt16) (chunks : List Chunk) : Except String (List UInt8) :=
  (chunks.mapM (serializeChunk bytesPerLine)).map List.flatten

/-! Chunks laid out as their writer documents them. -/

/-- A chunk laid out as `WritePixels` documents its buffer: `lines` rows `stride` bytes
apart, each holding a line of `bytesPerLine` bytes, and nothing after the last row. -/
structure Chunk.WellLaid (bytesPerLine : Nat) (c : Chunk) : Prop where
  line_le_stride : bytesPerLine ≤ c.stride.toNat
  length_data : c.data.length = c.lines.toNat * c.stride.toNat

instance (bytesPerLine : Nat) (c : Chunk) : Decidable (c.WellLaid bytesPerLine) :=
  decidable_of_iff (bytesPerLine ≤ c.stride.toNat ∧ c.data.length = c.lines.toNat * c.stride.toNat)
    ⟨fun ⟨h1, h2⟩ => ⟨h1, h2⟩, fun ⟨h1, h2⟩ => ⟨h1, h2⟩⟩

/-- The number of rows the chunks hold, without wrapping. -/
def totalLines (chunks : List Chunk) : Nat := (chunks.map fun c => c.lines.toNat).sum

/-- Byte `col` of row `row` of the frame the chunks hold, as their writer laid them out:
the chunks' rows in order, row `r` of a chunk starting `r * stride` bytes into its data. -/
def pixelAt : List Chunk → Nat → Nat → UInt8
  | [], _, _ => 0
  | c :: cs, row, col =>
    if row < c.lines.toNat then c.data.getD (row * c.stride.toNat + col) 0
    else pixelAt cs (row - c.lines.toNat) col

/-- The `u16` sum `Commit` compares with the height is the row count modulo `2^16`. -/
theorem sumLines_toNat (chunks : List Chunk) :
    (sumLines chunks).toNat = totalLines chunks % 65536 := by
  suffices h : ∀ (a : UInt16) (cs : List Chunk),
      ((cs.map Chunk.lines).foldl (· + ·) a).toNat = (a.toNat + totalLines cs) % 65536 by
    simpa using h 0 chunks
  intro a cs
  induction cs generalizing a with
  | nil => simp [totalLines, Nat.mod_eq_of_lt a.toNat_lt']
  | cons c cs ih =>
    simp only [List.map_cons, List.foldl_cons, ih, UInt16.toNat_add', totalLines, List.sum_cons]
    omega

theorem chunksExact_of_length {k n : Nat} {data : List UInt8} (hk : 0 < k)
    (h : data.length = n * k) :
    chunksExact k data = (List.range n).map fun i => (data.drop (i * k)).take k := by
  rw [chunksExact, h, Nat.mul_div_cancel _ hk]

theorem length_flatten_map_range {k : Nat} {f : Nat → List UInt8} :
    ∀ {n : Nat}, (∀ i < n, (f i).length = k) → ((List.range n).map f).flatten.length = n * k
  | 0, _ => by simp
  | n + 1, hf => by
    rw [List.range_succ, List.map_append, List.flatten_append, List.length_append,
      length_flatten_map_range fun i hi => hf i (by omega)]
    simp [hf n (by omega), Nat.succ_mul]

theorem getD_flatten_map_range {k r c : Nat} {f : Nat → List UInt8} (hc : c < k) :
    ∀ {n : Nat}, (∀ i < n, (f i).length = k) → r < n →
      ((List.range n).map f).flatten.getD (r * k + c) 0 = (f r).getD c 0
  | 0, _, hr => absurd hr (Nat.not_lt_zero r)
  | n + 1, hf, hr => by
    have hlen := length_flatten_map_range (n := n) fun i hi => hf i (by omega)
    rw [List.range_succ, List.map_append, List.flatten_append]
    rcases Nat.lt_or_ge r n with hrn | hrn
    · rw [List.getD_append _ _ _ _ (hlen ▸ row_offset_lt hrn hc),
        getD_flatten_map_range hc (fun i hi => hf i (by omega)) hrn]
    · obtain rfl : r = n := by omega
      rw [List.getD_append_right _ _ _ _ (by rw [hlen]; omega), hlen]
      simp

/-- The chunk `WriteSource` pushes holds its rows `stride` bytes apart, each at least a
line long, while the line leaves `stride`'s `u16` sum room and the height fits 16 bits. -/
theorem SourceWrite.chunk_wellLaid {w : SourceWrite} (data : Nat → UInt8)
    (hline : (bytesPerLine w.effective.width.toU16 w.bitDepth).toNat ≤ 65532)
    (hh₀ : 0 ≤ w.effective.height.toInt) (hh : w.effective.height.toInt < 65536) :
    (w.chunk data).WellLaid (bytesPerLine w.effective.width.toU16 w.bitDepth).toNat := by
  have hstride : w.stride.toNat =
      ((bytesPerLine w.effective.width.toU16 w.bitDepth).toNat + 3) / 4 * 4 := by
    rw [SourceWrite.stride, UInt16.toNat_and_not_three, UInt16.toNat_add',
      show (3 : UInt16).toNat = 3 from rfl, Nat.mod_eq_of_lt (by omega)]
  have hlines : w.effective.height.toU16.toNat = w.effective.height.toInt.toNat := by
    rw [I32.toU16_toNat]
    omega
  have husize : w.effective.height.toUsize = w.effective.height.toInt.toNat := by
    simp only [I32.toUsize]
    omega
  have hprod : w.stride.toNat * w.effective.height.toInt.toNat < 18446744073709551616 :=
    calc w.stride.toNat * w.effective.height.toInt.toNat ≤ 65535 * 65535 :=
          Nat.mul_le_mul (by omega) (by omega)
      _ < 18446744073709551616 := by decide
  refine ⟨by simp only [SourceWrite.chunk]; omega, ?_⟩
  simp only [SourceWrite.chunk, readMemory, List.length_map, List.length_range, SourceWrite.size,
    husize, hlines, Nat.mod_eq_of_lt hprod]
  exact Nat.mul_comm _ _

/-- `Commit` serializes a well-laid chunk without panicking, as its rows in order, each cut
to the line. -/
theorem serializeChunk_of_wellLaid {bpl : UInt16} {c : Chunk} (hc : c.WellLaid bpl.toNat) :
    ∃ b, serializeChunk bpl c = .ok b ∧ b.length = c.lines.toNat * bpl.toNat ∧
      ∀ row < c.lines.toNat, ∀ col < bpl.toNat,
        b.getD (row * bpl.toNat + col) 0 = c.data.getD (row * c.stride.toNat + col) 0 := by
  obtain ⟨hle, hlen⟩ := hc
  by_cases heq : c.stride = bpl
  · have hs : c.stride.toNat = bpl.toNat := congrArg UInt16.toNat heq
    exact ⟨c.data, by simp [serializeChunk, heq], by rw [hlen, hs], fun _ _ _ _ => by rw [hs]⟩
  · have hlt : bpl.toNat < c.stride.toNat :=
      Nat.lt_of_le_of_ne hle fun h => heq (UInt16.eq_iff_toNat.mpr h.symm)
    have hne0 : c.stride ≠ 0 := fun h => by rw [h] at hlt; exact Nat.not_lt_zero _ hlt
    have hnlt : ¬ c.stride < bpl := fun h => absurd (UInt16.lt_iff_toNat.mp h) (Nat.not_lt.mpr hle)
    have hrow : ∀ i < c.lines.toNat,
        ((c.data.drop (i * c.stride.toNat)).take bpl.toNat).length = bpl.toNat := by
      intro i hi
      have := row_offset_lt hi hlt
      simp only [List.length_take, List.length_drop, hlen]
      omega
    have hlines : (chunksExact c.stride.toNat c.data).map (List.take bpl.toNat) =
        (List.range c.lines.toNat).map fun i => (c.data.drop (i * c.stride.toNat)).take bpl.toNat := by
      rw [chunksExact_of_length (by omega) hlen, List.map_map]
      exact List.map_congr_left fun i _ => by simp [List.take_take, Nat.min_eq_left hle]
    refine ⟨_, by simp only [serializeChunk, if_neg heq, if_neg hne0, hnlt, false_and, if_false,
      hlines], length_flatten_map_range hrow, fun row hr col hcol => ?_⟩
    rw [getD_flatten_map_range hcol hrow hr, getD_take_drop _ hcol]

/-- `Commit` serializes well-laid chunks without panicking, as their rows in order, each cut
to the line: line `row` of the pixel bytes is the frame's row `row`. -/
theorem serializePixels_of_wellLaid {bpl : UInt16} :
    ∀ {chunks : List Chunk}, (∀ c ∈ chunks, c.WellLaid bpl.toNat) →
      ∃ pixels, serializePixels bpl chunks = .ok pixels ∧
        pixels.length = totalLines chunks * bpl.toNat ∧
        ∀ row < totalLines chunks, ∀ col < bpl.toNat,
          pixels.getD (row * bpl.toNat + col) 0 = pixelAt chunks row col
  | [], _ => ⟨[], rfl, by simp [totalLines], fun row hr => absurd hr (by simp [totalLines])⟩
  | c :: cs, hlaid => by
    obtain ⟨b, hb, hblen, hbget⟩ := serializeChunk_of_wellLaid (hlaid c (List.mem_cons_self c cs))
    obtain ⟨ps, hps, hpslen, hpsget⟩ :=
      serializePixels_of_wellLaid fun c' hc' => hlaid c' (List.mem_cons_of_mem c hc')
    have htotal : totalLines (c :: cs) = c.lines.toNat + totalLines cs := by simp [totalLines]
    refine ⟨b ++ ps, ?_, by rw [List.length_append, hblen, hpslen, htotal, Nat.add_mul],
      fun row hr col hcol => ?_⟩
    · rw [serializePixels, List.mapM_cons, hb]
      cases hxs : cs.mapM (serializeChunk bpl) with
      | error e => rw [serializePixels, hxs] at hps; cases hps
      | ok xs =>
        rw [serializePixels, hxs] at hps
        cases hps
        rfl
    · rw [htotal] at hr
      by_cases hrow : row < c.lines.toNat
      · rw [List.getD_append _ _ _ _ (hblen ▸ row_offset_lt hrow hcol), hbget row hrow col hcol,
          pixelAt, if_pos hrow]
      · have hskip := Nat.mul_le_mul_right bpl.toNat (Nat.not_lt.mp hrow)
        rw [List.getD_append_right _ _ _ _ (by omega), hblen, pixelAt, if_neg hrow,
          ← hpsget (row - c.lines.toNat) (by omega) col hcol, Nat.sub_mul]
        congr 1
        omega

/-- The serialization panics only with the messages of `chunks_exact(0)` and of a slice index
past the end: they start with `c` and `r`, never as `unreachable!()`'s does. -/
theorem serializeChunk_error_head {bpl : UInt16} {c : Chunk} {msg : String}
    (h : serializeChunk bpl c = .error msg) :
    msg.data.head? = some 'c' ∨ msg.data.head? = some 'r' := by
  unfold serializeChunk at h
  dsimp only at h
  split_ifs at h <;> cases h
  exacts [.inl rfl, .inr rfl]

theorem serializePixels_error_head {bpl : UInt16} {chunks : List Chunk} {msg : String}
    (h : serializePixels bpl chunks = .error msg) :
    msg.data.head? = some 'c' ∨ msg.data.head? = some 'r' := by
  induction chunks with
  | nil => cases h
  | cons c cs ih =>
    simp only [serializePixels, List.mapM_cons] at h ih
    cases hc : serializeChunk bpl c with
    | error e => rw [hc] at h; cases h; exact serializeChunk_error_head hc
    | ok b =>
      rw [hc] at h
      cases hr : cs.mapM (serializeChunk bpl) with
      | error e => rw [hr] at h ih; cases h; exact ih rfl
      | ok bs => rw [hr] at h; cases h

/-- The header `Commit` completes for a palette of `n` colours. -/
def completeHeader (header : FileHeader) (register : UInt8) (n : Nat) : FileHeader :=
  { header with
    veraColorDepthRegister := register
    palUsed := if n = 256 then 0 else UInt8.ofNat n
    dataStart := UInt16.ofNat (sizeOfFileHeader + sizeOfPaletteEntry * n) }

@[simp] theorem completeHeader_width (h : FileHeader) (r : UInt8) (n : Nat) :
    (completeHeader h r n).width = h.width := rfl

@[simp] theorem completeHeader_height (h : FileHeader) (r : UInt8) (n : Nat) :
    (completeHeader h r n).height = h.height := rfl

@[simp] theorem completeHeader_bitDepth (h : FileHeader) (r : UInt8) (n : Nat) :
    (completeHeader h r n).bitDepth = h.bitDepth := rfl

@[simp] theorem completeHeader_compressed (h : FileHeader) (r : UInt8) (n : Nat) :
    (completeHeader h r n).compressed = h.compressed := rfl

/-- Completing a completed header again changes nothing. -/
@[simp] theorem completeHeader_completeHeader (h : FileHeader) (r : UInt8) (n : Nat) :
    completeHeader (completeHeader h r n) r n = completeHeader h r n := rfl

@[simp] theorem completeHeader_fileId (h : FileHeader) (r : UInt8) (n : Nat) :
    (completeHeader h r n).fileId = h.fileId := rfl

@[simp] theorem completeHeader_version (h : FileHeader) (r : UInt8) (n : Nat) :
    (completeHeader h r n).version = h.version := rfl

@[simp] theorem completeHeader_veraColorDepthRegister (h : FileHeader) (r : UInt8) (n : Nat) :
    (completeHeader h r n).veraColorDepthRegister = r := rfl

/-- `data_start` is `32 + 2n`, which fits in a `u16` for every palette. -/
theorem completeHeader_dataStart_toNat {h : FileHeader} {r : UInt8} {n : Nat} (hn : n ≤ 256) :
    (completeHeader h r n).dataStart.toNat = sizeOfFileHeader + sizeOfPaletteEntry * n := by
  simp only [completeHeader, UInt16.toNat_ofNat', sizeOfFileHeader, sizeOfPaletteEntry]
  omega

/-- `pal_used` reads back as the `n` colours, except that none reads back as 256. -/
theorem completeHeader_paletteEntryCount {h : FileHeader} {r : UInt8} {n : Nat} (hn : n ≤ 256) :
    (completeHeader h r n).paletteEntryCount = if n = 0 then 256 else n := by
  by_cases h256 : n = 256
  · simp [FileHeader.paletteEntryCount, completeHeader, h256]
  · have hpal : (completeHeader h r n).palUsed.toNat = n := by
      simp only [completeHeader, if_neg h256, UInt8.toNat_ofNat']
      omega
    have h0 : (completeHeader h r n).palUsed = 0 ↔ n = 0 := by
      rw [UInt8.eq_iff_toNat, hpal]
      rfl
    simp only [FileHeader.paletteEntryCount, h0, hpal]

/-- A completed header that validates counts exactly the palette's `n` colours: `n = 0`
would leave `pal_used = 0`, read as 256 entries, which the data start cannot hold. -/
theorem completeHeader_palette {h : FileHeader} {r : UInt8} {n : Nat} (hn : n ≤ 256)
    (hv : (completeHeader h r n).validate = .ok ()) :
    (completeHeader h r n).paletteEntryCount = n ∧
      (completeHeader h r n).dataStart.toNat = sizeOfFileHeader + sizeOfPaletteEntry * n := by
  have hroom := FileHeader.dataStart_of_validate hv
  rw [completeHeader_dataStart_toNat hn, completeHeader_paletteEntryCount hn] at hroom
  refine ⟨?_, completeHeader_dataStart_toNat hn⟩
  rw [completeHeader_paletteEntryCount hn]
  split_ifs at hroom ⊢ with h0
  · simp only [sizeOfFileHeader, sizeOfPaletteEntry, h0] at hroom
    omega
  · rfl

/-- The register `veraRegister` picks pairs with the bit depth as `validate` requires. -/
theorem veraRegister_eq_some {bitDepth register : UInt8}
    (h : veraRegister bitDepth = some register) :
    (bitDepth, register) ∈ FileHeader.depthRegisterPairs := by
  unfold veraRegister at h
  split_ifs at h <;> cases h <;> subst_vars <;> decide

/-- A completed header with the magic and version validates exactly when the palette has
colours: none leaves `pal_used = 0`, read as 256 entries that `data_start` leaves no room
for. -/
theorem completeHeader_validate_iff {h : FileHeader} {r : UInt8} {n : Nat}
    (hid : h.fileId = FileHeader.default.fileId) (hver : h.version = 1)
    (hreg : veraRegister h.bitDepth = some r) (hn : n ≤ 256) :
    (completeHeader h r n).validate = .ok () ↔ n ≠ 0 := by
  constructor
  · intro hv h0
    have hcount := (completeHeader_palette hn hv).1
    rw [completeHeader_paletteEntryCount hn, if_pos h0] at hcount
    omega
  · intro h0
    have hpair := veraRegister_eq_some hreg
    simp only [FileHeader.depthRegisterPairs, List.mem_cons, List.mem_singleton, Prod.mk.injEq,
      List.not_mem_nil, or_false] at hpair
    unfold FileHeader.validate
    simp only [completeHeader_fileId, hid, completeHeader_version, hver,
      completeHeader_bitDepth, completeHeader_veraColorDepthRegister,
      completeHeader_dataStart_toNat hn, completeHeader_paletteEntryCount hn, if_neg h0,
      lt_irrefl, if_false]
    rcases hpair with ⟨hb, rfl⟩ | ⟨hb, rfl⟩ | ⟨hb, rfl⟩ | ⟨hb, rfl⟩ <;> rw [hb] <;> decide

/-- The palette entries `Commit` writes for the given colours: `bmx_palette[..actual_colors]`,
each entry made by `PaletteEntry::from_wic`. -/
def paletteBytes (colors : List UInt32) : List UInt8 :=
  ((colors.map PaletteEntry.fromWic).map PaletteEntry.memoryImage).flatten

@[simp] theorem length_paletteBytes (colors : List UInt32) :
    (paletteBytes colors).length = sizeOfPaletteEntry * colors.length := by
  induction colors with
  | nil => rfl
  | cons c colors ih =>
    simp only [paletteBytes, List.map_cons, List.flatten_cons, List.length_append] at ih ⊢
    rw [ih]
    simp [PaletteEntry.memoryImage, sizeOfPaletteEntry]
    omega

/-- `FrameEncoder::Commit`, with the encoder `parent`; on `Ok`, the bytes it wrote. -/
def commit (s : FrameEncoderData) (parent : Option BitmapEncoderData) (wic : Wic) :
    Outcome FrameEncoderData (List UInt8) :=
  match s.header with
  | none => .error (.ofCode .E_UNEXPECTED) s
  | some header =>
  if header.bitDepth = 0 then
    .error ⟨.E_ILLEGAL_STATE_CHANGE, "Pixel format must be set before committing"⟩ s
  else if header.width = 0 then
    .error ⟨.WINCODEC_ERR_UNEXPECTEDSIZE, "Size must be set before committing"⟩ s
  else if sumLines s.imageData ≠ header.height then
    .error ⟨.WINCODEC_ERR_UNEXPECTEDSIZE, "Not enough scanlines written"⟩ s
  else
  match veraRegister header.bitDepth with
  | none => .panic "internal error: entered unreachable code"
  | some register =>
  let registered := { s with header := some { header with veraColorDepthRegister := register } }
  match parent with
  | none => .error (.ofCode .E_UNEXPECTED) registered
  | some parent =>
  match resolvePalette s.palette parent wic with
  | .error e => .error e registered
  | .ok palette =>
  let header := completeHeader header register palette.colors.length
  let s := { s with header := some header }
  if header.validate ≠ .ok () then .panic "assertion failed: header.validate().is_ok()" else
  match serializePixels (bytesPerLine header.width header.bitDepth) s.imageData with
  | .error msg => .panic msg
  | .ok pixels =>
  .ok (header.memoryImage ++ paletteBytes palette.colors ++ pixels) s

/-- A `Commit` that returns `Ok` passed its checks, resolved a palette, completed a
header that validates and serialized every chunk; the state keeps the completed header. -/
theorem commit_eq_ok {s s' : FrameEncoderData} {parent : Option BitmapEncoderData} {wic : Wic}
    {out : List UInt8} :
    commit s parent wic = .ok out s' ↔
      ∃ header register par palette pixels,
        s.header = some header ∧ header.bitDepth ≠ 0 ∧ header.width ≠ 0 ∧
        sumLines s.imageData = header.height ∧ veraRegister header.bitDepth = some register ∧
        parent = some par ∧ resolvePalette s.palette par wic = .ok palette ∧
        (completeHeader header register palette.colors.length).validate = .ok () ∧
        serializePixels (bytesPerLine header.width header.bitDepth) s.imageData = .ok pixels ∧
        s' = { s with header := some (completeHeader header register palette.colors.length) } ∧
        out = (completeHeader header register palette.colors.length).memoryImage ++
          paletteBytes palette.colors ++ pixels := by
  constructor
  · intro h
    unfold commit at h
    dsimp only at h
    repeat' split at h
    all_goals cases h
    exact ⟨_, _, _, _, _, ‹_›, ‹_›, ‹_›, not_not.mp ‹_›, ‹_›, rfl, ‹_›, not_not.mp ‹_›, ‹_›, rfl,
      rfl⟩
  · rintro ⟨header, register, par, palette, pixels, hheader, hbd, hw, hsum, hreg, rfl, hpal, hvalid,
      hpix, rfl, rfl⟩
    simp [commit, hheader, hbd, hw, hsum, hreg, hpal, hvalid, hpix]

/-- The bytes a `Commit` of well-laid chunks writes: the completed header, which validates
and starts the data after the palette, the palette, and then at least `height` lines of
pixels, line `r` the frame's row `r`. -/
theorem commit_output_rows {s s' : FrameEncoderData} {parent : Option BitmapEncoderData}
    {wic : Wic} {out : List UInt8} {frame : FileHeader}
    (hc : commit s parent wic = .ok out s') (hframe : s.header = some frame)
    (hlaid : ∀ c ∈ s.imageData, c.WellLaid (bytesPerLine frame.width frame.bitDepth).toNat) :
    ∃ register colors pixels,
      out = (completeHeader frame register colors.length).memoryImage ++ paletteBytes colors ++
        pixels ∧
      (completeHeader frame register colors.length).validate = .ok () ∧
      (completeHeader frame register colors.length).dataStart.toNat =
        sizeOfFileHeader + sizeOfPaletteEntry * colors.length ∧
      frame.height.toNat * (bytesPerLine frame.width frame.bitDepth).toNat ≤ pixels.length ∧
      ∀ row < frame.height.toNat, ∀ col < (bytesPerLine frame.width frame.bitDepth).toNat,
        pixels.getD (row * (bytesPerLine frame.width frame.bitDepth).toNat + col) 0 =
          pixelAt s.imageData row col := by
  obtain ⟨header, register, par, palette, pixels, hheader, -, -, hsum, -, rfl, -, hvalid, hpix, -,
    rfl⟩ := commit_eq_ok.mp hc
  obtain rfl : frame = header := Option.some.inj (hframe.symm.trans hheader)
  obtain ⟨pixels', hpix', hlen, hget⟩ := serializePixels_of_wellLaid hlaid
  obtain rfl : pixels' = pixels := Except.ok.inj (hpix'.symm.trans hpix)
  -- The `u16` line sum equals the height, so at least `height` rows were serialized.
  have hH : frame.height.toNat ≤ totalLines s.imageData := by
    rw [← hsum, sumLines_toNat]
    exact Nat.mod_le _ _
  exact ⟨register, palette.colors, pixels', rfl, hvalid,
    (completeHeader_palette palette.length_le hvalid).2, hlen ▸ Nat.mul_le_mul_right _ hH,
    fun r hr c hc => hget r (by omega) c hc⟩

/-- `Commit` keeps no record of having committed: once it has returned `Ok`, calling it
again with the same encoder and WIC returns `Ok` with the same bytes and state. -/
theorem commit_again {s s' : FrameEncoderData} {parent : Option BitmapEncoderData} {wic : Wic}
    {out : List UInt8} (h : commit s parent wic = .ok out s') : commit s' parent wic = .ok out s' := by
  obtain ⟨header, register, par, palette, pixels, hheader, hbd, hw, hsum, hreg, rfl, hpal, hvalid,
    hpix, rfl, rfl⟩ := commit_eq_ok.mp h
  exact commit_eq_ok.mpr ⟨_, register, par, palette, pixels, rfl, hbd, hw, hsum, hreg, rfl, hpal,
    by simpa using hvalid, hpix, rfl, rfl⟩

theorem commit_again_of_one_pixel_frame :
    ∃ out s', commit ⟨some { FileHeader.default with width := 1, height := 1, bitDepth := 8 },
        some (.frame ⟨[0xFF123456], by decide⟩), [⟨[5], 1, 1⟩], 1⟩ (some ⟨none⟩)
        ⟨.ok (), .ok (), .ok (), .ok (), .ok (), .error (.ofCode .E_UNEXPECTED)⟩ = .ok out s' ∧
      commit s' (some ⟨none⟩)
        ⟨.ok (), .ok (), .ok (), .ok (), .ok (), .error (.ofCode .E_UNEXPECTED)⟩ = .ok out s' :=
  ⟨_, _, let h := rfl; ⟨h, commit_again h⟩⟩

end BmxShell.Encoder
