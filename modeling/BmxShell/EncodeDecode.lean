import BmxShell.DecoderSpec
import BmxShell.FrameRuns

/-!
The two halves together. The bytes a successful `Commit` writes start with a header that
`from_bytes` accepts, with the frame's geometry and the palette `Commit` resolved, and a
decoder initialized over them, wherever they stand in its stream, reads that palette back
as its 12-bit colours. At the start of a stream, the decoder's `CopyPixels` then gives back
the rows of chunks laid out as documented. Failed calls on either side leave their object
as it was.
-/

namespace BmxShell.Encoder

open Bmx Decoder

/-- What the bytes `out`, written by `Commit` for the frame header `frame` and the palette
`colors`, read back as: a header with the frame's geometry, its VERA register and one
palette entry per colour, and each colour cut to its top four bits per channel. -/
structure ReadsBack (frame : FileHeader) (colors : List UInt32) (out : List UInt8)
    (header : FileHeader) : Prop where
  parses : FileHeader.fromBytes (out.take sizeOfFileHeader) = .ok header
  width : header.width = frame.width
  height : header.height = frame.height
  bitDepth : header.bitDepth = frame.bitDepth
  register : veraRegister header.bitDepth = some header.veraColorDepthRegister
  compressed : header.compressed = 0
  paletteEntryCount : header.paletteEntryCount = colors.length
  dataStart : header.dataStart.toNat = sizeOfFileHeader + sizeOfPaletteEntry * colors.length
  decodes : ∀ (pre : List UInt8) (wic : Wic), wic.DecoderCallsSucceed →
    ∃ p, initializeDecoder none (some ⟨pre ++ out, pre.length⟩) wic = .ok () (some p) ∧
      p.header = header ∧ p.palette = colors.map fun c => 0xFF000000 ||| (c &&& 0x00F0F0F0)

section Output

variable {header : FileHeader} {colors : List UInt32} {pixels pre : List UInt8}

theorem take_output :
    (header.memoryImage ++ paletteBytes colors ++ pixels).take sizeOfFileHeader =
      header.memoryImage := by
  rw [List.append_assoc]
  exact List.take_left' (by simp [FileHeader.memoryImage, sizeOfFileHeader])

/-- A decoder reads the palette entries back from the image's region. -/
theorem readPaletteEntries_output
    (hd : header.dataStart.toNat = sizeOfFileHeader + sizeOfPaletteEntry * colors.length) :
    (readPaletteEntries
      ((Stream.region ⟨pre ++ (header.memoryImage ++ paletteBytes colors ++ pixels), pre.length⟩
        pre.length (imageSize header)).seek sizeOfFileHeader) colors.length).1 =
      colors.map PaletteEntry.fromWic := by
  have hsize : sizeOfFileHeader + sizeOfPaletteEntry * colors.length ≤ imageSize header := by
    rw [← hd, imageSize]
    exact Nat.le_add_right _ _
  have hmem : header.memoryImage.length = sizeOfFileHeader := by
    simp [FileHeader.memoryImage, sizeOfFileHeader]
  rw [← List.length_map colors PaletteEntry.fromWic]
  apply readPaletteEntries_of_memoryImage
  simp only [Stream.region, Stream.seek_data, Stream.seek_pos, List.drop_left, List.length_map,
    List.drop_take, List.append_assoc]
  rw [← hmem, List.drop_left, List.take_take, Nat.min_eq_left (by omega)]
  exact List.take_left' (length_paletteBytes colors)

theorem length_output :
    (header.memoryImage ++ paletteBytes colors ++ pixels).length =
      sizeOfFileHeader + sizeOfPaletteEntry * colors.length + pixels.length := by
  simp [FileHeader.memoryImage, sizeOfFileHeader, Nat.add_assoc]

/-- The pixel bytes start at the header's `data_start`. -/
theorem getD_output
    (hd : header.dataStart.toNat = sizeOfFileHeader + sizeOfPaletteEntry * colors.length)
    (i : Nat) :
    (header.memoryImage ++ paletteBytes colors ++ pixels).getD (header.dataStart.toNat + i) 0 =
      pixels.getD i 0 := by
  have hprefix : (header.memoryImage ++ paletteBytes colors).length = header.dataStart.toNat := by
    simp [hd, FileHeader.memoryImage, sizeOfFileHeader]
  rw [List.getD_append_right _ _ _ _ (by omega), hprefix, Nat.add_sub_cancel_left]

/-- A decoder over a BMX image at the start of its stream (a header that validates, its
palette, and at least `height` lines of pixels) copies line `r` of the pixels to offset
`r * stride`, given a stride of at least a line and a buffer that holds every row. -/
theorem copyPixels_output {wic : Wic} {stride bufferSize : UInt32} {dest : Nat → UInt8}
    (hv : header.validate = .ok ())
    (hd : header.dataStart.toNat = sizeOfFileHeader + sizeOfPaletteEntry * colors.length)
    (hlen : header.height.toNat * (bytesPerLine header.width header.bitDepth).toNat ≤ pixels.length)
    (hw : wic.DecoderCallsSucceed)
    (hstride : bytesPerLine header.width header.bitDepth ≤ stride.toUInt16)
    (hfit : ∀ r < header.height.toNat,
      r * stride.toNat + (bytesPerLine header.width header.bitDepth).toNat ≤ bufferSize.toNat) :
    ∃ p p' dest', initializeDecoder none
        (some ⟨header.memoryImage ++ paletteBytes colors ++ pixels, 0⟩) wic = .ok () (some p) ∧
      copyPixels (some p) none stride bufferSize dest = some (.ok () (p', dest')) ∧
      ∀ r < header.height.toNat, ∀ c < (bytesPerLine header.width header.bitDepth).toNat,
        dest' (r * stride.toNat + c) =
          pixels.getD (r * (bytesPerLine header.width header.bitDepth).toNat + c) 0 := by
  have hstream : (fromStream ⟨header.memoryImage ++ paletteBytes colors ++ pixels, 0⟩).1 =
      .ok header :=
    fromStream_fst_of_fromBytes (by
      rw [List.drop_zero, take_output]; exact FileHeader.fromBytes_memoryImage hv)
  obtain ⟨p, hinit, hph, -⟩ := initializeDecoder_of_fromStream hstream hw
  obtain ⟨-, host, hhost, -, hpstream⟩ := initializeDecoder_ok_state hinit
  cases hhost
  subst hph
  dsimp only at hpstream
  have hsize : imageSize p.header = p.header.dataStart.toNat +
      p.header.height.toNat * (bytesPerLine p.header.width p.header.bitDepth).toNat := by
    rw [imageSize, Nat.mul_comm _ p.header.height.toNat]
  obtain ⟨dest', hcopy, hcopied⟩ := copyPixels_none_rows (by
      rw [hpstream]
      simp only [List.drop_zero, List.length_take, length_output, hsize, hd]
      exact le_inf (by omega) (by omega)) hstride hfit
  refine ⟨p, _, dest', hinit, hcopy, fun r hr c hc => ?_⟩
  have hin := row_offset_lt hr hc
  rw [hcopied r hr c hc, hpstream]
  dsimp only
  rw [getD_take_drop _ (by omega), Nat.zero_add, Nat.zero_add, Nat.add_assoc, getD_output hd]

end Output

/-- The bytes a reachable frame's `Commit` writes when it returns `Ok` read back as the
frame's header and the palette `Commit` resolved. -/
theorem commit_output_reads_back {s s' : FrameEncoderData} {parent : Option BitmapEncoderData}
    {wic : Wic} {out : List UInt8} (hs : Reachable s) (hc : commit s parent wic = .ok out s') :
    ∃ frame par palette header, s.header = some frame ∧ parent = some par ∧
      resolvePalette s.palette par wic = .ok palette ∧ ReadsBack frame palette.colors out header := by
  obtain ⟨frame, register, par, palette, pixels, hframe, -, -, -, hreg, rfl, hpal, hvalid, -, -,
    rfl⟩ := commit_eq_ok.mp hc
  obtain ⟨hcount, hdata⟩ := completeHeader_palette palette.length_le hvalid
  have hparse := FileHeader.fromBytes_memoryImage hvalid
  refine ⟨frame, par, palette, completeHeader frame register palette.colors.length, hframe, rfl,
    hpal,
    { parses := by rw [take_output]; exact hparse
      width := rfl
      height := rfl
      bitDepth := rfl
      register := hreg
      compressed := by rw [completeHeader_compressed, (hs.fieldsKept hframe).compressed]; rfl
      paletteEntryCount := hcount
      dataStart := hdata
      decodes := fun pre wic' hw => ?_ }⟩
  have hstream : (fromStream ⟨pre ++ ((completeHeader frame register palette.colors.length).memoryImage ++
      paletteBytes palette.colors ++ pixels), pre.length⟩).1 =
      .ok (completeHeader frame register palette.colors.length) :=
    fromStream_fst_of_fromBytes (by simp only [List.drop_left, take_output]; exact hparse)
  obtain ⟨p, hinit, hheader, hpalette⟩ := initializeDecoder_of_fromStream hstream hw
  refine ⟨p, hinit, hheader, ?_⟩
  rw [hpalette, hcount, readPaletteEntries_output hdata, List.map_map]
  exact List.map_congr_left fun c _ => PaletteEntry.toWic_fromWic c

theorem commit_output_reads_back_of_one_pixel_frame :
    let host : Host :=
      ⟨some ⟨none⟩, ⟨.ok (), .ok (), .ok (), .ok (), .ok (), .error (.ofCode .E_UNEXPECTED)⟩⟩
    ∃ r out s', runOk host .new [.initializeFrame, .setSize 1 1,
        .setPixelFormat (some GUID_WICPixelFormat8bppIndexed),
        .setPalette (some ⟨[0xFF123456], by decide⟩), .writePixels 1 1 1 (some fun _ => 5)] =
        some r ∧
      Reachable r.1 ∧ commit r.1 host.parent host.wic = .ok out s' ∧
      ∃ frame par palette header, r.1.header = some frame ∧ host.parent = some par ∧
        resolvePalette r.1.palette par host.wic = .ok palette ∧
        ReadsBack frame palette.colors out header :=
  ⟨_, _, _, let hrun := rfl; let hc := rfl;
    ⟨hrun, Reachable.new.runOk hrun, hc, commit_output_reads_back (Reachable.new.runOk hrun) hc⟩⟩

/-- What `Commit` writes for chunks laid out as documented decodes to the frame's rows: a
decoder initialized over the bytes, copying the whole image with a stride of at least a
line into a buffer that holds every row, stores at offset `r * stride` the first
`bytes_per_line` bytes of the frame's row `r` as the caller laid it out. -/
theorem commit_output_copies_rows {s s' : FrameEncoderData} {parent : Option BitmapEncoderData}
    {wic wic' : Wic} {out : List UInt8} {frame : FileHeader} {stride bufferSize : UInt32}
    {dest : Nat → UInt8}
    (hc : commit s parent wic = .ok out s') (hframe : s.header = some frame)
    (hlaid : ∀ c ∈ s.imageData, c.WellLaid (bytesPerLine frame.width frame.bitDepth).toNat)
    (hw : wic'.DecoderCallsSucceed)
    (hstride : bytesPerLine frame.width frame.bitDepth ≤ stride.toUInt16)
    (hfit : ∀ r < frame.height.toNat,
      r * stride.toNat + (bytesPerLine frame.width frame.bitDepth).toNat ≤ bufferSize.toNat) :
    ∃ p p' dest', initializeDecoder none (some ⟨out, 0⟩) wic' = .ok () (some p) ∧
      copyPixels (some p) none stride bufferSize dest = some (.ok () (p', dest')) ∧
      ∀ r < frame.height.toNat, ∀ c < (bytesPerLine frame.width frame.bitDepth).toNat,
        dest' (r * stride.toNat + c) = pixelAt s.imageData r c := by
  obtain ⟨register, colors, pixels, rfl, hvalid, hdata, hlen, hget⟩ :=
    commit_output_rows hc hframe hlaid
  obtain ⟨p, p', dest', hinit, hcopy, hrows⟩ :=
    @copyPixels_output _ _ _ _ _ _ dest hvalid hdata hlen hw hstride hfit
  exact ⟨p, p', dest', hinit, hcopy, fun r hr c hc => (hrows r hr c hc).trans (hget r hr c hc)⟩

theorem commit_output_copies_rows_of_two_chunks :
    let frame : FileHeader := { FileHeader.default with width := 2, height := 2, bitDepth := 8 }
    let s : FrameEncoderData := ⟨some frame, some (.frame ⟨[0xFF123456], by decide⟩),
      [⟨[1, 2, 9, 9], 4, 1⟩, ⟨[3, 4], 2, 1⟩], 2⟩
    let wic : Wic := ⟨.ok (), .ok (), .ok (), .ok (), .ok (), .error (.ofCode .E_UNEXPECTED)⟩
    ∃ out s', commit s (some ⟨none⟩) wic = .ok out s' ∧ s.header = some frame ∧
      (∀ c ∈ s.imageData, c.WellLaid (bytesPerLine frame.width frame.bitDepth).toNat) ∧
      wic.DecoderCallsSucceed ∧ bytesPerLine frame.width frame.bitDepth ≤ (2 : UInt32).toUInt16 ∧
      (∀ r < frame.height.toNat,
        r * (2 : UInt32).toNat + (bytesPerLine frame.width frame.bitDepth).toNat ≤
          (4 : UInt32).toNat) ∧
      ∃ p p' dest', initializeDecoder none (some ⟨out, 0⟩) wic = .ok () (some p) ∧
        copyPixels (some p) none 2 4 (fun _ => 0) = some (.ok () (p', dest')) ∧
        ∀ r < frame.height.toNat, ∀ c < (bytesPerLine frame.width frame.bitDepth).toNat,
          dest' (r * (2 : UInt32).toNat + c) = pixelAt s.imageData r c :=
  ⟨_, _, let hc := rfl; ⟨hc, rfl, by decide, ⟨rfl, rfl, rfl, rfl, rfl⟩, by decide, by decide,
    commit_output_copies_rows hc rfl (by decide) ⟨rfl, rfl, rfl, rfl, rfl⟩ (by decide) (by decide)⟩⟩

/-- Without a rectangle, `WriteSource` works on the source's whole extent: its lines are the
source's width and count, and its buffer holds a stride for each line. -/
theorem SourceWrite.whole_extent {w : SourceWrite} {W H : UInt32}
    (heff : w.effective = effectiveRect W H none) (hW : W.toNat < 65536) (hH : H.toNat < 65536) :
    w.effective.width.toU16 = W.toUInt16 ∧ w.effective.height.toInt = H.toNat ∧
      w.effective.height.toU16.toNat = H.toNat ∧ w.size = w.stride.toNat * H.toNat := by
  have hwidth : w.effective.width.toU16 = W.toUInt16 := by
    rw [heff, UInt16.eq_iff_toNat, I32.toU16_toNat, UInt32.toNat_toUInt16]
    simp only [effectiveRect, I32.ofU32]
    rw [I32.toInt_ofInt_of_range (by omega) (by omega)]
    omega
  have hheight : w.effective.height.toInt = H.toNat := by
    rw [heff]
    simp only [effectiveRect, I32.ofU32]
    rw [I32.toInt_ofInt_of_range (by omega) (by omega)]
  have hprod : w.stride.toNat * H.toNat < 18446744073709551616 :=
    calc w.stride.toNat * H.toNat ≤ 65535 * 65535 :=
          Nat.mul_le_mul (by have := w.stride.toNat_lt'; omega) (by omega)
      _ < 18446744073709551616 := by decide
  refine ⟨hwidth, hheight, by rw [I32.toU16_toNat, hheight]; omega, ?_⟩
  simp only [SourceWrite.size, I32.toUsize, hheight]
  rw [show ((H.toNat : Int) % 18446744073709551616).toNat = H.toNat by omega, Nat.mod_eq_of_lt hprod]

/-- The frame path of the shell's Transcode command (`Initialize`, `WriteSource(frame, null)`
and `Commit` on a new frame, each returning `Ok`) gives back the source's pixels: a decoder
over the written bytes copies, to offset `r * stride`, the line the source delivered `r`
rows into the buffer `WriteSource` handed it. -/
theorem transcode_frame_copies_rows {host : Host} {source : BitmapSource}
    {r : FrameEncoderData × List UInt8} {W H : UInt32} {fmt : Guid} {d : UInt8} {wic : Wic}
    {stride bufferSize : UInt32} {dest : Nat → UInt8}
    (hrun : runOk host .new [.initializeFrame, .writeSource (some source) none, .commit] = some r)
    (hsize : source.size = .ok (W, H)) (hfmt : source.pixelFormat = .ok fmt)
    (hd : pixelFormatToBitDepth fmt = some d) (hW : W.toNat < 65536) (hH : H.toNat < 65536)
    (hline : (bytesPerLine W.toUInt16 d).toNat ≤ 65532) (hw : wic.DecoderCallsSucceed)
    (hstride : bytesPerLine W.toUInt16 d ≤ stride.toUInt16)
    (hfit : ∀ i < H.toNat,
      i * stride.toNat + (bytesPerLine W.toUInt16 d).toNat ≤ bufferSize.toNat) :
    ∃ data p p' dest',
      source.copyPixels none ((bytesPerLine W.toUInt16 d + 3) &&& ~~~3).toUInt32
        (((bytesPerLine W.toUInt16 d + 3) &&& ~~~3).toNat * H.toNat) = .ok data ∧
      initializeDecoder none (some ⟨r.2, 0⟩) wic = .ok () (some p) ∧
      copyPixels (some p) none stride bufferSize dest = some (.ok () (p', dest')) ∧
      ∀ i < H.toNat, ∀ c < (bytesPerLine W.toUInt16 d).toNat,
        dest' (i * stride.toNat + c) =
          data (i * ((bytesPerLine W.toUInt16 d + 3) &&& ~~~3).toNat + c) := by
  obtain ⟨_, s₀, r₀, h₀, hrun₀, rfl⟩ := runOk_cons_eq_some hrun
  obtain ⟨_, s₁, r₁, h₁, hrun₁, rfl⟩ := runOk_cons_eq_some hrun₀
  obtain ⟨out, s₂, r₂, h₂, hrun₂, rfl⟩ := runOk_cons_eq_some hrun₁
  cases hrun₂
  simp only [frameStep] at h₀ h₁ h₂
  obtain ⟨_, h₀, rfl⟩ := Outcome.map_eq_ok.mp h₀
  cases h₀
  obtain ⟨_, hws, rfl⟩ := Outcome.map_eq_ok.mp h₁
  obtain ⟨w, data, hchecks, hcopy, hheader, himage⟩ := writeSource_ok_of_width_zero rfl rfl hws
  obtain ⟨rfl, W', H', fmt', hsize', hfmt', hd', heff⟩ := writeSourceChecks_source hchecks
  obtain ⟨rfl, rfl⟩ := Prod.mk.inj (Except.ok.inj (hsize'.symm.trans hsize))
  obtain rfl := Except.ok.inj (hfmt'.symm.trans hfmt)
  obtain rfl : w.bitDepth = d := Option.some.inj (hd'.symm.trans hd)
  obtain ⟨hwidth, hheight, hlines, hsz⟩ := SourceWrite.whole_extent heff hW hH
  have hstrideW : w.stride = (bytesPerLine W'.toUInt16 w.bitDepth + 3) &&& ~~~3 := by
    rw [SourceWrite.stride, hwidth]
  have hchunk := SourceWrite.chunk_wellLaid data (hwidth ▸ hline) (by omega) (by omega)
  have hlaid : ∀ c ∈ s₁.imageData,
      c.WellLaid (bytesPerLine w.effective.width.toU16 w.bitDepth).toNat := by
    rw [himage]
    rintro c hc
    rwa [List.mem_singleton.mp hc]
  obtain ⟨register, colors, pixels, rfl, hvalid, hdata, hlen, hget⟩ :=
    commit_output_rows h₂ hheader hlaid
  obtain ⟨p, p', dest', hinit, hcopy', hrows⟩ := @copyPixels_output _ _ _ _ _ _ dest hvalid hdata
    hlen hw (by show bytesPerLine w.effective.width.toU16 w.bitDepth ≤ _; rw [hwidth]; exact hstride)
    (by
      show ∀ i < w.effective.height.toU16.toNat,
        i * stride.toNat + (bytesPerLine w.effective.width.toU16 w.bitDepth).toNat ≤ _
      rw [hlines, hwidth]
      exact hfit)
  refine ⟨data, p, p', dest', by rw [← hstrideW, ← hsz]; exact hcopy,
    by simp only [List.nil_append, List.append_nil]; exact hinit, hcopy', fun i hi c hc => ?_⟩
  have hc' : c < (bytesPerLine w.effective.width.toU16 w.bitDepth).toNat := hwidth ▸ hc
  have hi' : i < w.effective.height.toU16.toNat := hlines ▸ hi
  calc dest' (i * stride.toNat + c)
      = pixels.getD (i * (bytesPerLine w.effective.width.toU16 w.bitDepth).toNat + c) 0 :=
        hrows i hi' c hc'
    _ = pixelAt s₁.imageData i c := hget i hi' c hc'
    _ = data (i * w.stride.toNat + c) := by
        simp only [himage, pixelAt, SourceWrite.chunk, if_pos hi']
        exact getD_readMemory data (by
          rw [hsz, Nat.mul_comm w.stride.toNat]
          exact row_offset_lt hi (Nat.lt_of_lt_of_le hc' hchunk.1))
    _ = data (i * ((bytesPerLine W'.toUInt16 w.bitDepth + 3) &&& ~~~3).toNat + c) := by
        rw [hstrideW]

theorem transcode_frame_copies_rows_of_two_by_two_source :
    let source : BitmapSource := ⟨.ok (2, 2), .ok (96, 96), .ok GUID_WICPixelFormat8bppIndexed,
      .ok ⟨[0xFF123456], by decide⟩, fun _ _ _ => .ok fun n => n.toUInt8⟩
    let wic : Wic := ⟨.ok (), .ok (), .ok (), .ok (), .ok (), .error (.ofCode .E_UNEXPECTED)⟩
    ∃ r, runOk ⟨some ⟨none⟩, wic⟩ .new
        [.initializeFrame, .writeSource (some source) none, .commit] = some r ∧
      ∃ data p p' dest',
        source.copyPixels none ((bytesPerLine (2 : UInt32).toUInt16 8 + 3) &&& ~~~3).toUInt32
          (((bytesPerLine (2 : UInt32).toUInt16 8 + 3) &&& ~~~3).toNat * (2 : UInt32).toNat) =
          .ok data ∧
        initializeDecoder none (some ⟨r.2, 0⟩) wic = .ok () (some p) ∧
        copyPixels (some p) none 2 4 (fun _ => 0) = some (.ok () (p', dest')) ∧
        ∀ i < (2 : UInt32).toNat, ∀ c < (bytesPerLine (2 : UInt32).toUInt16 8).toNat,
          dest' (i * (2 : UInt32).toNat + c) =
            data (i * ((bytesPerLine (2 : UInt32).toUInt16 8 + 3) &&& ~~~3).toNat + c) := by
  intro source wic
  -- The DPI check compares rationals, which `rfl` cannot evaluate: settle it first.
  have hdpi : ¬ ((1 / 2 : ℚ) < |96 - 96| ∨ (1 / 2 : ℚ) < |96 - 96|) := by norm_num
  obtain ⟨r, hrun⟩ : ∃ r, runOk ⟨some ⟨none⟩, wic⟩ .new
      [.initializeFrame, .writeSource (some source) none, .commit] = some r := by
    simp only [runOk, frameStep, writeSource, writeSourceChecks, source, bind, Except.bind, hdpi,
      if_false]
    exact ⟨_, rfl⟩
  exact ⟨r, hrun, transcode_frame_copies_rows hrun rfl rfl rfl (by decide) (by decide)
    (by decide) ⟨rfl, rfl, rfl, rfl, rfl⟩ (by decide) (by decide)⟩

/-- A call that fails leaves its object as it was: the frame, and `SetPixelFormat`'s
out-parameter, after any failed method but `Commit`, and after a `Commit` whose checks
failed; the decoder after a failed `Initialize`. -/
theorem failed_calls_keep_state :
    (∀ {s s' e}, initializeFrame s = .error e s' → s' = s) ∧
    (∀ {s s' e width height}, setSize s width height = .error e s' → s' = s) ∧
    (∀ {s s' e p p'}, setPixelFormat s p = .error e (s', p') → s' = s ∧ p' = p) ∧
    (∀ {s s' e p}, setPalette s p = .error e s' → s' = s) ∧
    (∀ {s s' e lineCount stride bufferSize pixels},
      writePixels s lineCount stride bufferSize pixels = .error e s' → s' = s) ∧
    (∀ {s s' e parent wic source rect}, writeSource s parent wic source rect = .error e s' → s' = s) ∧
    (∀ {s s' e parent wic}, commit s parent wic = .error e s' → ¬ CommitChecksPass s → s' = s) ∧
    (∀ {d d' stream wic e}, initializeDecoder d stream wic = .error e d' → d' = d) :=
  ⟨initializeFrame_error, setSize_error, setPixelFormat_error, setPalette_error, writePixels_error,
    writeSource_error, commit_error_of_checks_fail, initializeDecoder_error⟩

end BmxShell.Encoder
