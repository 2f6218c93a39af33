import BmxShell.Decoder
import BmxShell.HeaderCodec

/-!
What the decoder's methods do, one spec lemma each. `Initialize` succeeds exactly on a
stream whose header parses, when WIC's calls succeed, and a failed `Initialize` leaves
the decoder as it was. It stores the parsed header and the palette entries it reads after
it, but never checks `compressed`, which only `QueryCapability` reads. The full-image
branch of `CopyPixels` copies every row of an image that starts its stream into a buffer
that holds the rows `stride` bytes apart; small images show where the row arithmetic of
the other cases departs from the image.
-/

namespace BmxShell.Decoder

open Bmx

/-- `from_stream` returns the header `from_bytes` reads from the 32 bytes at the stream's
position. -/
theorem fromStream_fst_of_fromBytes {s : Stream} {h : FileHeader}
    (hb : FileHeader.fromBytes ((s.data.drop s.pos).take sizeOfFileHeader) = .ok h) :
    (fromStream s).1 = .ok h := by
  have hlen := FileHeader.length_of_fromBytes hb
  simp only [sizeOfFileHeader] at hb hlen
  simp [fromStream, Stream.read, sizeOfFileHeader, hlen, hb]

theorem validate_of_fromStream {s : Stream} {h : FileHeader} (hs : (fromStream s).1 = .ok h) :
    h.validate = .ok () := by
  unfold fromStream at hs
  dsimp only at hs
  split at hs
  · cases hs
    exact FileHeader.validate_of_fromBytes ‹_›
  · cases hs

theorem queryCapability_of_fromStream {s : Stream} {h : FileHeader}
    (hs : (fromStream s).1 = .ok h) :
    queryCapability (some s) = .ok (if h.compressed = 0 then canDecodeAllAndSome else 0) := by
  simp [queryCapability, hs]

/-! `Initialize`. -/

theorem initializeDecoder_error {d d' : Option BitmapDecoderData} {stream : Option Stream}
    {wic : Wic} {e : ComError} (h : initializeDecoder d stream wic = .error e d') : d' = d := by
  unfold initializeDecoder at h
  dsimp only at h
  repeat' split at h
  all_goals first | (cases h; rfl) | cases h

/-- An `Initialize` that succeeds found an uninitialized decoder, stored the header
`from_stream` parsed at the stream's position, and left its stream over the image's region
of the caller's stream, at `begin_position + data_start`. -/
theorem initializeDecoder_ok_state {d : Option BitmapDecoderData} {stream : Option Stream}
    {wic : Wic} {p : BitmapDecoderData} (h : initializeDecoder d stream wic = .ok () (some p)) :
    d = none ∧ ∃ host, stream = some host ∧ (fromStream host).1 = .ok p.header ∧
      p.stream = ⟨(host.data.drop host.pos).take (imageSize p.header),
        host.pos + p.header.dataStart.toNat⟩ := by
  unfold initializeDecoder at h
  dsimp only at h
  repeat' split at h
  all_goals cases h
  exact ⟨rfl, _, rfl, ‹_›, rfl⟩

/-- On a stream whose header parses, `Initialize` succeeds when WIC's calls do; it reads
the palette from offset 32 of the image's region. -/
theorem initializeDecoder_of_fromStream {host : Stream} {header : FileHeader} {wic : Wic}
    (hs : (fromStream host).1 = .ok header) (hw : wic.DecoderCallsSucceed) :
    ∃ p, initializeDecoder none (some host) wic = .ok () (some p) ∧ p.header = header ∧
      p.palette = (readPaletteEntries ((host.region host.pos (imageSize header)).seek
        sizeOfFileHeader) header.paletteEntryCount).1.map PaletteEntry.toWic := by
  obtain ⟨h1, h2, h3, h4, h5⟩ := hw
  simp only [initializeDecoder, hs, h1, h2, h3, h4, h5]
  exact ⟨_, rfl, rfl, rfl⟩

/-- A valid header of a `width` by `height` image at 8 bits per pixel, with one palette
colour. -/
def indexed8Header (width height : UInt16) : FileHeader :=
  { FileHeader.default with
    bitDepth := 8
    veraColorDepthRegister := 3
    width
    height
    palUsed := 1
    dataStart := 34 }

/-- `Initialize` stores a header that validates and that `QueryCapability` reads from the
same stream: it reports the image decodable exactly when the header is uncompressed. -/
theorem initializeDecoder_ok_queryCapability {d : Option BitmapDecoderData}
    {stream : Option Stream} {wic : Wic} {p : BitmapDecoderData}
    (h : initializeDecoder d stream wic = .ok () (some p)) :
    p.header.validate = .ok () ∧
      queryCapability stream = .ok (if p.header.compressed = 0 then canDecodeAllAndSome else 0) := by
  obtain ⟨-, host, rfl, hs, -⟩ := initializeDecoder_ok_state h
  exact ⟨validate_of_fromStream hs, queryCapability_of_fromStream hs⟩

theorem initializeDecoder_ok_queryCapability_of_one_pixel_image :
    ∃ p, initializeDecoder none (some ⟨(indexed8Header 1 1).memoryImage ++ [0, 0, 0], 0⟩)
        ⟨.ok (), .ok (), .ok (), .ok (), .ok (), .error (.ofCode .E_UNEXPECTED)⟩ = .ok () (some p) ∧
      p.header.validate = .ok () ∧
      queryCapability (some ⟨(indexed8Header 1 1).memoryImage ++ [0, 0, 0], 0⟩) =
        .ok (if p.header.compressed = 0 then canDecodeAllAndSome else 0) :=
  ⟨_, let h := rfl; ⟨h, initializeDecoder_ok_queryCapability h⟩⟩

/-- `Initialize` accepts a compressed image that `QueryCapability` reports it cannot
decode. -/
theorem initializeDecoder_accepts_compressed :
    let s : Stream := ⟨{ indexed8Header 1 1 with compressed := 1 }.memoryImage ++ [0, 0, 0], 0⟩
    queryCapability (some s) = .ok 0 ∧
      ∃ p, initializeDecoder none (some s)
        ⟨.ok (), .ok (), .ok (), .ok (), .ok (), .error (.ofCode .E_UNEXPECTED)⟩ = .ok () (some p) ∧
        p.header.compressed = 1 :=
  ⟨rfl, _, rfl, rfl⟩

/-! Palette entries. -/

theorem getD_flatten_memoryImage (es : List PaletteEntry) {i : Nat} (hi : i < es.length) :
    (es.map PaletteEntry.memoryImage).flatten.getD (2 * i) 0 = es[i].gb ∧
      (es.map PaletteEntry.memoryImage).flatten.getD (2 * i + 1) 0 = es[i].r := by
  induction es generalizing i with
  | nil => cases hi
  | cons e es ih =>
    cases i with
    | zero => simp [PaletteEntry.memoryImage]
    | succ i =>
      have hi' : i < es.length := Nat.lt_of_succ_lt_succ hi
      simpa [PaletteEntry.memoryImage, Nat.mul_succ] using ih hi'

/-- Reading as many entries as a stream holds memory images of gives those entries back. -/
theorem readPaletteEntries_of_memoryImage {s : Stream} {es : List PaletteEntry}
    (h : (s.data.drop s.pos).take (sizeOfPaletteEntry * es.length) =
      (es.map PaletteEntry.memoryImage).flatten) :
    (readPaletteEntries s es.length).1 = es := by
  simp only [readPaletteEntries, Stream.read_fst, h]
  apply List.ext_getElem (by simp)
  intro i hi _
  have hi' : i < es.length := by simpa using hi
  obtain ⟨hgb, hr⟩ := getD_flatten_memoryImage es hi'
  simp only [List.getElem_map, List.getElem_range]
  rw [hgb, hr]

/-! `CopyPixels` of the whole image. -/

/-- The row loop without skips, over a stream that holds every row, into a buffer that
holds every row: row `k` is read from `k * bpl` bytes past the stream's position and
stored `stride` bytes after row `k - 1`, leaving the bytes before the first row alone. -/
theorem copyRows_rows {bpl stride : Nat} (hstride : bpl ≤ stride) :
    ∀ {rows i : Nat} {s : Stream} {b : Buffer}, s.pos + rows * bpl ≤ s.data.length →
      (∀ k < rows, (i + k) * stride + bpl ≤ b.size) →
      ∃ b', copyRows 0 bpl stride rows i (s, b) = some (s.seek (s.pos + rows * bpl), b') ∧
        (∀ k < rows, ∀ c < bpl,
          b'.bytes ((i + k) * stride + c) = s.data.getD (s.pos + k * bpl + c) 0) ∧
        ∀ j < i * stride, b'.bytes j = b.bytes j := by
  intro rows
  induction rows with
  | zero =>
    intro i s b _ _
    exact ⟨b, by simp [copyRows, Stream.seek], fun k hk => absurd hk (Nat.not_lt_zero k),
      fun _ _ => rfl⟩
  | succ rows ih =>
    intro i s b hdata hfit
    rw [Nat.succ_mul] at hdata
    have hlen : ((s.data.drop s.pos).take bpl).length = bpl := by
      simp only [List.length_take, List.length_drop]
      omega
    have hrow : i * stride + bpl ≤ b.size := by simpa using hfit 0 (Nat.succ_pos _)
    obtain ⟨b', hrun, hrows, hframe⟩ := @ih (i + 1) (s.read bpl).2
      (b.write (i * stride) (s.read bpl).1)
      (by simp only [Stream.read_snd_pos, Stream.read_snd_data, hlen]; omega)
      (fun k hk => by simpa [Nat.add_assoc, Nat.add_comm 1 k] using hfit (k + 1) (by omega))
    have hwin : (i + 1) * stride = i * stride + stride := Nat.succ_mul i stride
    refine ⟨b', ?_, ?_, ?_⟩
    · rw [copyRows_zero_succ, readInto, if_pos hrow, Option.some_bind, hrun]
      simp only [Stream.seek, Stream.read, hlen, Option.some.injEq, Prod.mk.injEq,
        Stream.mk.injEq, true_and, and_true, Nat.succ_mul]
      omega
    · intro k hk c hc
      cases k with
      | zero =>
        rw [Nat.add_zero, hframe _ (by omega),
          Buffer.write_bytes_of_mem (by rw [Stream.read_fst, hlen]; exact hc), Stream.read_fst,
          getD_take_drop _ hc]
        simp
      | succ k =>
        have e1 : i + (k + 1) = i + 1 + k := by omega
        have e2 : s.pos + (k + 1) * bpl + c = s.pos + bpl + k * bpl + c := by
          rw [Nat.succ_mul]; omega
        rw [e1, e2, hrows k (by omega) c hc, Stream.read_snd_data, Stream.read_snd_pos, hlen]
    · intro j hj
      rw [hframe j (by omega), Buffer.write_bytes_of_lt hj]

/-- A buffer that holds every row, `stride ≥ bytes_per_line` bytes after the one before,
passes the `min_buffer_size` check: the check's `u32` product is at most the buffer's size
and does not wrap. -/
theorem not_lt_minBufferSize {h : FileHeader} {stride bufferSize : UInt32}
    (hbs : (bytesPerLine h.width h.bitDepth).toNat ≤ stride.toNat)
    (hfit : ∀ r < h.height.toNat,
      r * stride.toNat + (bytesPerLine h.width h.bitDepth).toNat ≤ bufferSize.toNat) :
    ¬ bufferSize < minBufferSize h none := by
  have hall : (bytesPerLine h.width h.bitDepth).toNat * h.height.toNat ≤ bufferSize.toNat := by
    cases hH : h.height.toNat with
    | zero => exact Nat.zero_le _
    | succ n =>
      calc (bytesPerLine h.width h.bitDepth).toNat * (n + 1)
          = (bytesPerLine h.width h.bitDepth).toNat * n + (bytesPerLine h.width h.bitDepth).toNat :=
            Nat.mul_succ _ _
        _ ≤ n * stride.toNat + (bytesPerLine h.width h.bitDepth).toNat :=
            Nat.add_le_add_right (by rw [Nat.mul_comm n]; exact Nat.mul_le_mul_right n hbs) _
        _ ≤ bufferSize.toNat := hfit n (by omega)
  rw [UInt32.lt_iff_toNat, minBufferSize, UInt32.toNat_mul', UInt16.toNat_toUInt32,
    UInt16.toNat_toUInt32]
  exact Nat.not_lt.mpr (Nat.le_trans (Nat.mod_le _ _) hall)

/-- The full-image branch of `CopyPixels` on a decoder whose stream holds every row from
its position, into a buffer that holds every row `stride ≥ bytes_per_line` bytes after the
one before: row `r` is the line that starts `r` lines past the stream's position. -/
theorem copyPixels_none_rows {p : BitmapDecoderData} {stride bufferSize : UInt32}
    {dest : Nat → UInt8}
    (hdata : p.stream.pos + p.header.height.toNat *
      (bytesPerLine p.header.width p.header.bitDepth).toNat ≤ p.stream.data.length)
    (hstride : bytesPerLine p.header.width p.header.bitDepth ≤ stride.toUInt16)
    (hfit : ∀ r < p.header.height.toNat,
      r * stride.toNat + (bytesPerLine p.header.width p.header.bitDepth).toNat ≤ bufferSize.toNat) :
    ∃ dest', copyPixels (some p) none stride bufferSize dest =
        some (.ok () (some { p with stream := p.stream.seek (p.stream.pos + p.header.height.toNat *
          (bytesPerLine p.header.width p.header.bitDepth).toNat) }, dest')) ∧
      ∀ r < p.header.height.toNat, ∀ c < (bytesPerLine p.header.width p.header.bitDepth).toNat,
        dest' (r * stride.toNat + c) = p.stream.data.getD
          (p.stream.pos + r * (bytesPerLine p.header.width p.header.bitDepth).toNat + c) 0 := by
  have hlt : ¬ stride.toUInt16 < bytesPerLine p.header.width p.header.bitDepth :=
    fun h => absurd (UInt16.lt_iff_toNat.mp h) (Nat.not_lt.mpr (UInt16.le_iff_toNat.mp hstride))
  have hbs : (bytesPerLine p.header.width p.header.bitDepth).toNat ≤ stride.toNat := by
    have := UInt16.le_iff_toNat.mp hstride
    rw [UInt32.toNat_toUInt16] at this
    omega
  obtain ⟨b', hrun, hrows, -⟩ := @copyRows_rows _ _ hbs p.header.height.toNat 0 p.stream
    ⟨bufferSize.toNat, dest⟩ hdata (fun k hk => by simpa using hfit k hk)
  refine ⟨b'.bytes, ?_, fun r hr c hc => by simpa using hrows r hr c hc⟩
  simp only [copyPixels, if_neg hlt, if_neg (not_lt_minBufferSize hbs hfit), hrun, Option.map_some']

/-- The full-image branch of `CopyPixels`, on an image decoded from the start of its
stream, into a buffer that holds every row `stride` bytes after the one before: row `r`
of the image lands at offset `r * stride`, and the stream is left at the image's end. -/
theorem copyPixels_full_copies_rows {image : List UInt8} {wic : Wic} {p : BitmapDecoderData}
    {stride bufferSize : UInt32} {dest : Nat → UInt8}
    (hinit : initializeDecoder none (some ⟨image, 0⟩) wic = .ok () (some p))
    (himage : imageSize p.header ≤ image.length)
    (hstride : bytesPerLine p.header.width p.header.bitDepth ≤ stride.toUInt16)
    (hfit : ∀ r < p.header.height.toNat,
      r * stride.toNat + (bytesPerLine p.header.width p.header.bitDepth).toNat ≤ bufferSize.toNat) :
    ∃ dest', copyPixels (some p) none stride bufferSize dest =
        some (.ok () (some { p with stream := p.stream.seek (imageSize p.header) }, dest')) ∧
      ∀ r < p.header.height.toNat, ∀ c < (bytesPerLine p.header.width p.header.bitDepth).toNat,
        dest' (r * stride.toNat + c) = image.getD
          (p.header.dataStart.toNat + r * (bytesPerLine p.header.width p.header.bitDepth).toNat + c) 0 := by
  obtain ⟨-, host, hhost, -, hstream⟩ := initializeDecoder_ok_state hinit
  cases hhost
  dsimp only at hstream
  have hend : p.stream.pos + p.header.height.toNat *
      (bytesPerLine p.header.width p.header.bitDepth).toNat = imageSize p.header := by
    rw [hstream, imageSize, Nat.zero_add, Nat.mul_comm]
  obtain ⟨dest', hcopy, hrows⟩ := copyPixels_none_rows (by
    rw [hend, hstream]
    simp only [List.drop_zero, List.length_take]
    exact le_inf le_rfl himage) hstride hfit
  refine ⟨dest', hend ▸ hcopy, fun r hr c hc => ?_⟩
  have hin := row_offset_lt hr hc
  have hrow := hrows r hr c hc
  rw [hstream] at hrow
  dsimp only at hrow
  rw [hrow, getD_take_drop image (by rw [imageSize, Nat.mul_comm _ p.header.height.toNat]; omega)]
  simp only [Nat.zero_add]

theorem copyPixels_full_copies_rows_of_two_by_two_image :
    let image := (indexed8Header 2 2).memoryImage ++ [0, 0] ++ [0, 1, 2, 3]
    ∃ p, initializeDecoder none (some ⟨image, 0⟩)
        ⟨.ok (), .ok (), .ok (), .ok (), .ok (), .error (.ofCode .E_UNEXPECTED)⟩ = .ok () (some p) ∧
      imageSize p.header ≤ image.length ∧
      bytesPerLine p.header.width p.header.bitDepth ≤ (3 : UInt32).toUInt16 ∧
      (∀ r < p.header.height.toNat,
        r * (3 : UInt32).toNat + (bytesPerLine p.header.width p.header.bitDepth).toNat ≤
          (5 : UInt32).toNat) ∧
      ∃ dest', copyPixels (some p) none 3 5 (fun _ => 0) =
          some (.ok () (some { p with stream := p.stream.seek (imageSize p.header) }, dest')) ∧
        ∀ r < p.header.height.toNat, ∀ c < (bytesPerLine p.header.width p.header.bitDepth).toNat,
          dest' (r * (3 : UInt32).toNat + c) = image.getD
            (p.header.dataStart.toNat + r * (bytesPerLine p.header.width p.header.bitDepth).toNat + c)
            0 :=
  ⟨_, let h := rfl; ⟨h, by decide, by decide, by decide,
    copyPixels_full_copies_rows h (by decide) (by decide) (by decide)⟩⟩

/-! `CopyPixels` on a 2 by 2 image with pixel rows `0 1` and `2 3`. -/

/-- The rectangle of column 0 copied with stride 2 holds `0` and then `1`, not `2`: between
rows the rectangle branch skips `rect.X` bytes, here none, where the image has the one byte
right of the rectangle. -/
theorem copyPixels_rect_skips_x_bytes (halftone : Except ComError WicPalette) :
    ∃ p p' dest,
      initializeDecoder none (some ⟨(indexed8Header 2 2).memoryImage ++ [0, 0] ++ [0, 1, 2, 3], 0⟩)
        ⟨.ok (), .ok (), .ok (), .ok (), .ok (), halftone⟩ = .ok () (some p) ∧
      copyPixels (some p) (some ⟨0, 0, 1, 2⟩) 2 4 (fun _ => 0) = some (.ok () (p', dest)) ∧
      (List.range 4).map dest = [0, 0, 1, 0] :=
  ⟨_, _, _, rfl, rfl, rfl⟩

/-- The full-image branch reads from where `Initialize` left the region's seek pointer,
`begin_position + data_start` in the region's own offsets. An image at the start of its
stream is copied whole; the same image after one byte is copied from its second pixel. -/
theorem copyPixels_full_reads_after_begin_position (halftone : Except ComError WicPalette) :
    let image := (indexed8Header 2 2).memoryImage ++ [0, 0] ++ [0, 1, 2, 3]
    let wic : Wic := ⟨.ok (), .ok (), .ok (), .ok (), .ok (), halftone⟩
    (∃ p p' dest, initializeDecoder none (some ⟨image, 0⟩) wic = .ok () (some p) ∧
      copyPixels (some p) none 2 4 (fun _ => 0) = some (.ok () (p', dest)) ∧
      (List.range 4).map dest = [0, 1, 2, 3]) ∧
    (∃ p p' dest, initializeDecoder none (some ⟨7 :: image, 1⟩) wic = .ok () (some p) ∧
      copyPixels (some p) none 2 4 (fun _ => 0) = some (.ok () (p', dest)) ∧
      (List.range 4).map dest = [1, 2, 3, 0]) :=
  ⟨⟨_, _, _, rfl, rfl, rfl⟩, ⟨_, _, _, rfl, rfl, rfl⟩⟩

/-- `min_buffer_size` counts `bytes_per_line` per row while rows are written `stride`
apart: a 1 by 2 image copied with stride 2 into the two bytes it asks for writes its
second row at offset 2, past the buffer. -/
theorem copyPixels_writes_past_buffer (halftone : Except ComError WicPalette) :
    ∃ p, initializeDecoder none (some ⟨(indexed8Header 1 2).memoryImage ++ [0, 0] ++ [5, 6], 0⟩)
        ⟨.ok (), .ok (), .ok (), .ok (), .ok (), halftone⟩ = .ok () (some p) ∧
      bytesPerLine p.header.width p.header.bitDepth = 1 ∧ minBufferSize p.header none = 2 ∧
      copyPixels (some p) none 2 2 (fun _ => 0) = none :=
  ⟨_, rfl, rfl, rfl, rfl⟩

/-! The rectangle check of `CopyPixels`. -/

/-- The rectangle lies in the image, over unbounded integers: what the rectangle branch of
`CopyPixels` is documented to check. -/
def RectInImage (h : FileHeader) (rect : WicRect) : Prop :=
  0 ≤ rect.x.toInt ∧ 0 ≤ rect.y.toInt ∧ 0 ≤ rect.width.toInt ∧ 0 ≤ rect.height.toInt ∧
    rect.x.toInt + rect.width.toInt ≤ h.width.toNat ∧ rect.y.toInt + rect.height.toInt ≤ h.height.toNat

instance (h : FileHeader) (rect : WicRect) : Decidable (RectInImage h rect) := by
  unfold RectInImage; infer_instance

/-- The check never looks at the rectangle's height: a rectangle of negative height that
passes the other checks is copied as no rows, and `CopyPixels` returns `Ok` with the
destination untouched, though the rectangle is not in the image. -/
theorem copyPixels_negative_height_ok {p : BitmapDecoderData} {rect : WicRect}
    {stride bufferSize : UInt32} {dest : Nat → UInt8}
    (hstride : ¬ stride.toUInt16 < bytesPerLine p.header.width p.header.bitDepth)
    (hbuf : ¬ bufferSize < minBufferSize p.header (some rect))
    (hcheck : ¬ rectOutOfBounds p.header rect) (hneg : rect.height.toInt < 0) :
    ¬ RectInImage p.header rect ∧
      ∃ p', copyPixels (some p) (some rect) stride bufferSize dest = some (.ok () (some p', dest)) := by
  have h0 : rect.height.toInt.toNat = 0 := Int.toNat_eq_zero.mpr hneg.le
  refine ⟨fun hin => absurd hin.2.2.2.1 (not_le.mpr hneg), ?_⟩
  simp only [copyPixels, if_neg hstride, if_neg hbuf, if_neg hcheck, h0, copyRows, Option.map_some']
  exact ⟨_, rfl⟩

/-- A rectangle of height -1 on a 2 by 2 image is copied with `Ok`, and so is one whose
`X + Width` wraps past `i32::MAX` to a negative sum. -/
theorem copyPixels_negative_height_ok_of_two_by_two_image :
    ∃ p, initializeDecoder none (some ⟨(indexed8Header 2 2).memoryImage ++ [0, 0] ++ [0, 1, 2, 3], 0⟩)
        ⟨.ok (), .ok (), .ok (), .ok (), .ok (), .error (.ofCode .E_UNEXPECTED)⟩ = .ok () (some p) ∧
      (¬ RectInImage p.header ⟨0, 0, 0, I32.ofInt (-1)⟩ ∧
        ∃ p', copyPixels (some p) (some ⟨0, 0, 0, I32.ofInt (-1)⟩) 2 4 (fun _ => 0) =
          some (.ok () (some p', fun _ => 0))) ∧
      ¬ RectInImage p.header ⟨2147483647, 0, 2, 1⟩ ∧
        ∃ p' dest', copyPixels (some p) (some ⟨2147483647, 0, 2, 1⟩) 2 4 (fun _ => 0) =
          some (.ok () (some p', dest')) :=
  ⟨_, let h := rfl
    ⟨h, copyPixels_negative_height_ok (by decide) (by decide) (by decide) (by decide),
      by decide, _, _, rfl⟩⟩

end BmxShell.Decoder
