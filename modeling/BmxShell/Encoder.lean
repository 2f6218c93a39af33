import BmxShell.Com
import Mathlib.Algebra.Order.Ring.Rat

/-!
The frame encoder of `com/wic/encoder/mod.rs`, up to `Commit`. The frame's state is
`FrameEncoderData` without its `parent`: the parent encoder is read only for its palette
(and, in `Commit`, its stream), so it is passed to the methods that read it. A bitmap
source is given by the answers it returns. DPI values are the rationals the source's
`f64`s denote. Every method checks first and mutates last, except `WriteSource`, which
makes all its fallible calls before its first mutation.
-/

namespace BmxShell.Encoder

open Bmx

inductive PaletteToUse
  | frame (palette : WicPalette)
  | bitmapSource (palette : WicPalette)

structure Chunk where
  data : List UInt8
  stride : UInt16
  lines : UInt16

/-- `BitmapEncoderData` as a frame sees it: the palette set on the encoder. -/
structure BitmapEncoderData where
  palette : Option WicPalette

structure FrameEncoderData where
  header : Option FileHeader
  palette : Option PaletteToUse
  imageData : List Chunk
  accumulatedHeight : UInt16

def FrameEncoderData.new : FrameEncoderData := ⟨none, none, [], 0⟩

/-- An `IWICBitmapSource`, by the answers it gives. `copyPixels rect stride size` is the
content of a `size`-byte buffer after `CopyPixels(rect, stride, buffer)`. -/
structure BitmapSource where
  size : Except ComError (UInt32 × UInt32)
  resolution : Except ComError (ℚ × ℚ)
  pixelFormat : Except ComError Guid
  palette : Except ComError WicPalette
  copyPixels : Option WicRect → UInt32 → Nat → Except ComError (Nat → UInt8)

def initializeFrame (s : FrameEncoderData) : Outcome FrameEncoderData Unit :=
  if s.header.isSome then .error (.ofCode .ERROR_ALREADY_INITIALIZED) s
  else .ok () { s with header := some FileHeader.default }

def setSize (s : FrameEncoderData) (width height : UInt32) : Outcome FrameEncoderData Unit :=
  match tryIntoU16 width, tryIntoU16 height with
  | none, _ => .error ⟨.E_INVALIDARG, tryFromIntErrorMessage⟩ s
  | some _, none => .error ⟨.E_INVALIDARG, tryFromIntErrorMessage⟩ s
  | some width, some height =>
  if width = 0 then .error ⟨.E_INVALIDARG, "width must not be 0"⟩ s
  else if height = 0 then .error ⟨.E_INVALIDARG, "height must not be 0"⟩ s
  else match s.header with
  | none => .error (.ofCode .E_UNEXPECTED) s
  | some header =>
    if (header.width ≠ 0 ∧ header.width ≠ width) ∨ (header.height ≠ 0 ∧ header.height ≠ height)
    then .error ⟨.E_INVALIDARG, "Size has already been set"⟩ s
    else .ok () { s with header := some { header with width, height } }

/-- `FrameEncoder::SetResolution` ignores the resolution. -/
def setResolution (s : FrameEncoderData) : Outcome FrameEncoderData Unit := .ok () s

/-- `FrameEncoder::SetColorContexts` and `SetThumbnail` are unsupported. -/
def unsupported (s : FrameEncoderData) : Outcome FrameEncoderData Unit :=
  .error (.ofCode .WINCODEC_ERR_UNSUPPORTEDOPERATION) s

/-- `FrameEncoder::SetPixelFormat`. Its state includes the caller's `GUID`, which the
method rewrites to 8bpp indexed when it falls back. The inline match of the source is the
table of `pixel_format_to_bit_depth`. -/
def setPixelFormat (s : FrameEncoderData) (pixelformat : Option Guid) :
    Outcome (FrameEncoderData × Option Guid) Unit :=
  match pixelformat with
  | none => .error (.ofCode .E_POINTER) (s, pixelformat)
  | some format =>
  match s.header with
  | none => .error (.ofCode .E_UNEXPECTED) (s, pixelformat)
  | some header =>
    match pixelFormatToBitDepth format with
    | some bitDepth => .ok () ({ s with header := some { header with bitDepth } }, pixelformat)
    | none => .ok () ({ s with header := some { header with bitDepth := 8 } },
        some GUID_WICPixelFormat8bppIndexed)

def setPalette (s : FrameEncoderData) (palette : Option WicPalette) :
    Outcome FrameEncoderData Unit :=
  match palette with
  | none => .error (.ofCode .E_POINTER) s
  | some palette => .ok () { s with palette := some (.frame palette) }

/-- `std::slice::from_raw_parts(pixels, n).to_vec()` over the caller's memory. -/
def readMemory (pixels : Nat → UInt8) (n : Nat) : List UInt8 := (List.range n).map pixels

theorem getD_readMemory (pixels : Nat → UInt8) {n i : Nat} (hi : i < n) :
    (readMemory pixels n).getD i 0 = pixels i := by
  simp [readMemory, hi]

def writePixels (s : FrameEncoderData) (lineCount stride bufferSize : UInt32)
    (pixels : Option (Nat → UInt8)) : Outcome FrameEncoderData Unit :=
  match pixels with
  | none => .error (.ofCode .E_POINTER) s
  | some pixels =>
  if bufferSize < stride then
    .error ⟨.E_INVALIDARG, "Buffer size must not be smaller than stride"⟩ s
  else match tryIntoU16 lineCount with
  | none => .error ⟨.E_INVALIDARG, "line count out of range"⟩ s
  | some lineCount =>
  match s.header with
  | none => .error (.ofCode .E_UNEXPECTED) s
  | some header =>
  if header.bitDepth = 0 then
    .error ⟨.E_ILLEGAL_STATE_CHANGE, "Pixel format must be set before writing pixels"⟩ s
  else if header.width = 0 then
    .error ⟨.E_ILLEGAL_STATE_CHANGE, "Size must be set before writing pixels"⟩ s
  else if header.height < s.accumulatedHeight + lineCount then
    .error ⟨.WINCODEC_ERR_CODECTOOMANYSCANLINES, "Too many scanlines"⟩ s
  else .ok ()
    { s with
      imageData := s.imageData ++ [⟨readMemory pixels bufferSize.toNat, stride.toUInt16, lineCount⟩]
      accumulatedHeight := s.accumulatedHeight + lineCount }

/-! `FrameEncoder::WriteSource`. -/

/-- `WICRectExt::intersect`, in `i32` arithmetic. -/
def intersect (a b : WicRect) : WicRect :=
  let x := a.x.max b.x
  let y := a.y.max b.y
  let width := (a.x + a.width).min (b.x + b.width) - x
  let height := (a.y + a.height).min (b.y + b.height) - y
  if width < 0 ∨ height < 0 then ⟨0, 0, 0, 0⟩ else ⟨x, y, width, height⟩

/-- The checks on the caller's rectangle. -/
def rectError : Option WicRect → Option ComError
  | none => none
  | some r =>
    if r.x < 0 ∨ r.y < 0 ∨ r.width ≤ 0 ∨ r.height ≤ 0 then some ⟨.E_INVALIDARG, "Invalid rect"⟩
    else if 65535 < r.width.toInt ∨ 65535 < r.height.toInt then
      some ⟨.E_INVALIDARG, "Rect too large"⟩
    else none

/-- The source's palette, copied into a new WIC palette when the frame has none yet. -/
def sourcePalette (palette : Option PaletteToUse) (parent : Option BitmapEncoderData) (wic : Wic)
    (source : BitmapSource) : Except ComError (Option WicPalette) :=
  if palette.isSome then .ok none else
  match parent, wic.createPalette with
  | none, _ => .error (.ofCode .E_UNEXPECTED)
  | some _, .error e => .error e
  | some _, .ok () => source.palette.map some

/-- The source's extent, cut to the caller's rectangle if there is one. -/
def effectiveRect (sourceWidth sourceHeight : UInt32) (rect : Option WicRect) : WicRect :=
  let full : WicRect := ⟨0, 0, I32.ofU32 sourceWidth, I32.ofU32 sourceHeight⟩
  match rect with
  | some rect => intersect full rect
  | none => full

/-- The frame's palette after `WriteSource`: the copied source palette if it had none. -/
def paletteAfterSource : Option PaletteToUse → Option WicPalette → Option PaletteToUse
  | none, some copied => some (.bitmapSource copied)
  | palette, _ => palette

/-- `isize::MAX` on a 64-bit target: `vec!` panics above it. -/
def isizeMax : Nat := 9223372036854775807

/-- What `WriteSource`'s checks leave it to work with. -/
structure SourceWrite where
  source : BitmapSource
  header : FileHeader
  bitDepth : UInt8
  effective : WicRect
  copied : Option WicPalette

/-! `{}` of an `f64` (Rust's `Display`), which the DPI error prints: the shortest decimal that
reads back as the same double, the closest to it when several are shortest, written out
without an exponent. A positive value is handled as a fraction `n / d` of naturals. -/

/-- `b ^ e` for an integer exponent, as a fraction `(num, den)`. -/
def powFrac (b : Nat) (e : Int) : Nat × Nat :=
  if 0 ≤ e then (b ^ e.toNat, 1) else (1, b ^ (-e).toNat)

/-- `⌊log_b n⌋` of a positive `n`: one less than its number of digits in base `b`. -/
def natLog (b n : Nat) : Nat := (Nat.toDigits b n).length - 1

/-- `⌊log_b (n / d)⌋` for positive `n` and `d`, from their digit counts:
the quotient lies within a factor `b` of `b ^ (log n - log d)`. -/
def floorLog (b n d : Nat) : Int :=
  let e : Int := (natLog b n : Int) - natLog b d
  let (p, r) := powFrac b e
  if n * r < p * d then e - 1 else e

/-- `n / d` rounded to an integer, ties to even. -/
def roundHalfEven (n d : Nat) : Nat :=
  if 2 * (n % d) < d then n / d
  else if d < 2 * (n % d) then n / d + 1
  else if (n / d) % 2 = 0 then n / d else n / d + 1

/-- The `f64` nearest to `n / d`, as `(m, e)` with value `m * 2 ^ e`: a 53-bit mantissa, with
`2 ^ 52 ≤ m` unless the value is subnormal (`e = -1074`). -/
def f64Parts (n d : Nat) : Nat × Int :=
  let e := if floorLog 2 n d - 52 < -1074 then -1074 else floorLog 2 n d - 52
  let (p, r) := powFrac 2 e
  let m := roundHalfEven (n * r) (d * p)
  if m = 2 ^ 53 then (2 ^ 52, e + 1) else (m, e)

/-- Whether `x / y` reads back as the double `m * 2 ^ e`: whether it lies within half a gap
of it, the ends included for an even mantissa. Scaled by `2 ^ (2 - e)`, the double is `4m`
and the gaps are 4, or 2 below a power of two. -/
def roundsTo (m : Nat) (e : Int) (x y : Nat) : Bool :=
  let (p, r) := powFrac 2 (2 - e)
  let lo := 4 * m - (if m = 2 ^ 52 ∧ -1074 < e then 1 else 2)
  let hi := 4 * m + 2
  if m % 2 = 0 then lo * (y * r) ≤ x * p ∧ x * p ≤ hi * (y * r)
  else lo * (y * r) < x * p ∧ x * p < hi * (y * r)

/-- The `k`-digit decimal `c * 10 ^ q` that reads back as `m * 2 ^ e`, the closest one, ties
to an even last digit; `none` when no `k`-digit decimal does. -/
def shortestOfLength (m : Nat) (e : Int) (k : Nat) : Option (Nat × Int) :=
  let (vn, vd) := powFrac 2 e
  let q := floorLog 10 (m * vn) vd - k + 1
  let (p, r) := powFrac 10 q
  let c := m * vn * r / (vd * p)
  let lowIn := roundsTo m e (c * p) r
  let highIn := roundsTo m e ((c + 1) * p) r
  if lowIn ∧ highIn then
    if 2 * m * vn * r < (2 * c + 1) * p * vd then some (c, q)
    else if (2 * c + 1) * p * vd < 2 * m * vn * r then some (c + 1, q)
    else if c % 2 = 0 then some (c, q) else some (c + 1, q)
  else if lowIn then some (c, q)
  else if highIn then some (c + 1, q)
  else none

/-- `c * 10 ^ q` without the trailing zeros of `c`. -/
def stripZeros : Nat → Nat → Int → Nat × Int
  | 0, c, q => (c, q)
  | fuel + 1, c, q => if c ≠ 0 ∧ c % 10 = 0 then stripZeros fuel (c / 10) (q + 1) else (c, q)

/-- `c * 10 ^ q` written out in full, without an exponent. -/
def decimalText (c : Nat) (q : Int) : String :=
  let s := Nat.toDigits 10 c
  if 0 ≤ q then String.mk (s ++ List.replicate q.toNat '0')
  else
    let f := (-q).toNat
    if f < s.length then String.mk (s.take (s.length - f) ++ '.' :: s.drop (s.length - f))
    else String.mk ('0' :: '.' :: List.replicate (f - s.length) '0' ++ s)

/-- `{}` of the positive `f64` nearest to `n / d`. -/
def displayPositive (n d : Nat) : String :=
  let (m, e) := f64Parts n d
  if m = 0 then "0"
  else if 971 < e then "inf"
  else
    let (c, q) := ((List.range 17).findSome? fun k => shortestOfLength m e (k + 1)).getD (m, e)
    let (c, q) := stripZeros 17 c q
    decimalText c q

/-- `{}` of an `f64`, given as the rational it denotes. -/
def displayF64 (x : ℚ) : String :=
  if x = 0 then "0"
  else (if x < 0 then "-" else "") ++ displayPositive x.num.natAbs x.den

example : displayPositive 145 2 = "72.5" := by decide
example : displayPositive 1 10 = "0.1" := by decide
example : displayPositive 2 3 = "0.6666666666666666" := by decide

/-- `FrameEncoder::WriteSource` up to its allocation: every check and every fallible call
before it, in the source's order. They read the frame but do not change it. -/
def writeSourceChecks (s : FrameEncoderData) (parent : Option BitmapEncoderData) (wic : Wic)
    (bitmapSource : Option BitmapSource) (rect : Option WicRect) : Except ComError SourceWrite := do
  let some source := bitmapSource | throw (.ofCode .E_POINTER)
  if let some e := rectError rect then throw e
  let (sourceWidth, sourceHeight) ← source.size
  let (dpiX, dpiY) ← source.resolution
  if 1 / 2 < |96 - dpiX| ∨ 1 / 2 < |96 - dpiY| then
    throw ⟨.WINCODEC_ERR_UNSUPPORTEDOPERATION,
      s!"DPI must be 96, got {displayF64 dpiX}x{displayF64 dpiY}"⟩
  let pixelFormat ← source.pixelFormat
  let some bitDepth := pixelFormatToBitDepth pixelFormat
    | throw ⟨.WINCODEC_ERR_UNSUPPORTEDOPERATION, "Invalid pixel format"⟩
  let some header := s.header | throw (.ofCode .E_UNEXPECTED)
  if header.bitDepth ≠ 0 ∧ header.bitDepth ≠ bitDepth then
    throw ⟨.E_INVALIDARG, s!"Mismatch between pixel format and bit depth (header: {header.bitDepth}, pixel format: {bitDepth}"⟩
  let effective := effectiveRect sourceWidth sourceHeight rect
  if header.width ≠ 0 then
    if header.width ≠ effective.width.toU16 then
      throw ⟨.WINCODEC_ERR_SOURCERECTDOESNOTMATCHDIMENSIONS, "Width mismatch between source and frame"⟩
    if header.height < s.accumulatedHeight + effective.height.toU16 then
      throw ⟨.WINCODEC_ERR_CODECTOOMANYSCANLINES, "Too many scanlines"⟩
  let copied ← sourcePalette s.palette parent wic source
  return ⟨source, header, bitDepth, effective, copied⟩

/-- What checks that pass establish: the source was given, the frame's own header was used,
the region and the bit depth came from the source's size and pixel format, the frame's bit
depth was unset or the source's, and a frame whose width is set has the region's width and
room for its lines. -/
theorem writeSourceChecks_eq_ok {s : FrameEncoderData} {parent : Option BitmapEncoderData}
    {wic : Wic} {source : Option BitmapSource} {rect : Option WicRect} {w : SourceWrite}
    (h : writeSourceChecks s parent wic source rect = .ok w) :
    source = some w.source ∧ s.header = some w.header ∧
      ∃ W H fmt, w.source.size = .ok (W, H) ∧ w.source.pixelFormat = .ok fmt ∧
        pixelFormatToBitDepth fmt = some w.bitDepth ∧ w.effective = effectiveRect W H rect ∧
        (w.header.bitDepth = 0 ∨ w.header.bitDepth = w.bitDepth) ∧
        (w.header.width ≠ 0 → w.header.width = w.effective.width.toU16 ∧
          ¬ w.header.height < s.accumulatedHeight + w.effective.height.toU16) := by
  unfold writeSourceChecks at h
  simp only [bind, Except.bind, pure, Except.pure] at h
  repeat' split at h
  all_goals first
    | cases h
      exact ⟨rfl, ‹_›, _, _, _, ‹_›, ‹_›, ‹_›, rfl,
        (not_and_or.mp ‹¬(_ ∧ _)›).imp not_not.mp not_not.mp,
        fun hw => by first | exact ⟨not_not.mp ‹_›, ‹_›⟩ | contradiction⟩
    | cases h

/-- Checks that pass worked with the frame's own header and a bit depth BMX allows, and
left room for the source's lines in a frame whose size is set. -/
theorem writeSourceChecks_ok {s : FrameEncoderData} {parent : Option BitmapEncoderData}
    {wic : Wic} {source : Option BitmapSource} {rect : Option WicRect} {w : SourceWrite}
    (h : writeSourceChecks s parent wic source rect = .ok w) :
    s.header = some w.header ∧ w.bitDepth ∈ [1, 2, 4, 8] ∧
      (w.header.width ≠ 0 → ¬ w.header.height < s.accumulatedHeight + w.effective.height.toU16) := by
  obtain ⟨-, hh, _, _, _, -, -, hd, -, -, hw⟩ := writeSourceChecks_eq_ok h
  exact ⟨hh, pixelFormatToBitDepth_mem hd, fun h0 => (hw h0).2⟩

/-- `stride` in `WriteSource`: the region's line rounded up to four bytes, in `u16`. -/
def SourceWrite.stride (w : SourceWrite) : UInt16 :=
  (bytesPerLine w.effective.width.toU16 w.bitDepth + 3) &&& ~~~3

/-- The length of `WriteSource`'s `vec!`: `stride as usize * height as usize`, wrapping. -/
def SourceWrite.size (w : SourceWrite) : Nat :=
  w.stride.toNat * w.effective.height.toUsize % 18446744073709551616

/-- The chunk `WriteSource` pushes for the bytes `data` the source copied. -/
def SourceWrite.chunk (w : SourceWrite) (data : Nat → UInt8) : Chunk :=
  ⟨readMemory data w.size, w.stride, w.effective.height.toU16⟩

/-- `FrameEncoder::WriteSource`: the checks, the `vec!` of `stride * height` bytes, the
source's `CopyPixels` into it, and then the mutations. A frame without a width adopts
the region's geometry and drops the rows buffered before. -/
def writeSource (s : FrameEncoderData) (parent : Option BitmapEncoderData) (wic : Wic)
    (bitmapSource : Option BitmapSource) (rect : Option WicRect) : Outcome FrameEncoderData Unit :=
  match writeSourceChecks s parent wic bitmapSource rect with
  | .error e => .error e s
  | .ok w =>
  if isizeMax < w.size then .panic "capacity overflow" else
  match w.source.copyPixels rect w.stride.toUInt32 w.size with
  | .error e => .error e s
  | .ok data =>
  let lines := w.effective.height.toU16
  let palette := paletteAfterSource s.palette w.copied
  if w.header.width = 0 then
    .ok () { header := some { w.header with width := w.effective.width.toU16, height := lines,
                                            bitDepth := w.bitDepth }
             palette, imageData := [w.chunk data], accumulatedHeight := lines }
  else
    .ok () { header := some w.header, palette, imageData := s.imageData ++ [w.chunk data]
             accumulatedHeight := s.accumulatedHeight + lines }

/-- Checks that pass used the source's size and pixel format: the region is the source's
extent cut to the rectangle, and the bit depth is the pixel format's. -/
theorem writeSourceChecks_source {s : FrameEncoderData} {parent : Option BitmapEncoderData}
    {wic : Wic} {source : BitmapSource} {rect : Option WicRect} {w : SourceWrite}
    (h : writeSourceChecks s parent wic (some source) rect = .ok w) :
    w.source = source ∧ ∃ W H fmt, source.size = .ok (W, H) ∧ source.pixelFormat = .ok fmt ∧
      pixelFormatToBitDepth fmt = some w.bitDepth ∧ w.effective = effectiveRect W H rect := by
  obtain ⟨hs, -, W, H, fmt, hsize, hfmt, hd, heff, -⟩ := writeSourceChecks_eq_ok h
  obtain rfl := Option.some.inj hs
  exact ⟨rfl, W, H, fmt, hsize, hfmt, hd, heff⟩

/-- A `WriteSource` that returns `Ok` on a frame without a width gives the frame the
region's width and height and the source's bit depth, and keeps only the chunk it
copied. -/
theorem writeSource_ok_of_width_zero {s s' : FrameEncoderData} {parent : Option BitmapEncoderData}
    {wic : Wic} {source : Option BitmapSource} {rect : Option WicRect} {header : FileHeader}
    (hh : s.header = some header) (hw0 : header.width = 0)
    (h : writeSource s parent wic source rect = .ok () s') :
    ∃ w data, writeSourceChecks s parent wic source rect = .ok w ∧
      w.source.copyPixels rect w.stride.toUInt32 w.size = .ok data ∧
      s'.header = some { header with width := w.effective.width.toU16,
                                     height := w.effective.height.toU16, bitDepth := w.bitDepth } ∧
      s'.imageData = [w.chunk data] := by
  unfold writeSource at h
  split at h
  · cases h
  rename_i w hw
  obtain rfl : w.header = header := Option.some.inj ((writeSourceChecks_ok hw).1.symm.trans hh)
  dsimp only at h
  repeat' split at h
  all_goals cases h
  exact ⟨w, _, hw, ‹_›, rfl, rfl⟩

/-- After a `WriteSource` that returns `Ok`, the frame's width is the region's, and its bit
depth is the source's unless the frame had a width but no bit depth: that branch checks
the width and leaves the bit depth at 0. -/
theorem writeSource_ok_header {s s' : FrameEncoderData} {parent : Option BitmapEncoderData}
    {wic : Wic} {source : BitmapSource} {rect : Option WicRect} {W H : UInt32} {fmt : Guid}
    {d : UInt8} (hsize : source.size = .ok (W, H)) (hfmt : source.pixelFormat = .ok fmt)
    (hd : pixelFormatToBitDepth fmt = some d)
    (h : writeSource s parent wic (some source) rect = .ok () s') :
    ∃ header header', s.header = some header ∧ s'.header = some header' ∧
      header'.width = (effectiveRect W H rect).width.toU16 ∧
      header'.bitDepth = if header.width ≠ 0 ∧ header.bitDepth = 0 then 0 else d := by
  unfold writeSource at h
  split at h
  · cases h
  rename_i w hw
  obtain ⟨hs, hh, W', H', fmt', hsize', hfmt', hd', heff, hbd, hwidth⟩ := writeSourceChecks_eq_ok hw
  obtain rfl := Option.some.inj hs
  obtain ⟨rfl, rfl⟩ := Prod.mk.inj (Except.ok.inj (hsize'.symm.trans hsize))
  obtain rfl := Except.ok.inj (hfmt'.symm.trans hfmt)
  obtain rfl := Option.some.inj (hd'.symm.trans hd)
  dsimp only at h
  repeat' split at h
  all_goals cases h
  · refine ⟨w.header, _, hh, rfl, heff ▸ rfl, ?_⟩
    simp [*]
  · refine ⟨w.header, _, hh, rfl, heff ▸ (hwidth ‹_›).1, ?_⟩
    rcases hbd with hbd | hbd
    · simp [*]
    · rw [hbd]
      split_ifs with h0
      exacts [h0.2, rfl]

theorem writeSource_ok_header_of_sized_frame :
    let source : BitmapSource := ⟨.ok (4, 1), .ok (96, 96), .ok GUID_WICPixelFormat8bppIndexed,
      .ok ⟨[0xFF123456], by decide⟩, fun _ _ _ => .ok fun _ => 0⟩
    let wic : Wic := ⟨.ok (), .ok (), .ok (), .ok (), .ok (), .error (.ofCode .E_UNEXPECTED)⟩
    ∃ s₁ s₂ s', initializeFrame .new = .ok () s₁ ∧ setSize s₁ 4 1 = .ok () s₂ ∧
      writeSource s₂ (some ⟨none⟩) wic (some source) none = .ok () s' ∧
      source.size = .ok (4, 1) ∧ source.pixelFormat = .ok GUID_WICPixelFormat8bppIndexed ∧
      pixelFormatToBitDepth GUID_WICPixelFormat8bppIndexed = some 8 ∧
      ∃ header header', s₂.header = some header ∧ s'.header = some header' ∧
        header'.width = (effectiveRect 4 1 none).width.toU16 ∧
        header'.bitDepth = if header.width ≠ 0 ∧ header.bitDepth = 0 then 0 else 8 := by
  intro source wic
  -- The DPI check compares rationals, which `rfl` cannot evaluate: settle it first.
  have hdpi : ¬ ((1 / 2 : ℚ) < |96 - 96| ∨ (1 / 2 : ℚ) < |96 - 96|) := by
    rw [sub_self, abs_zero, or_self, not_lt]
    exact div_nonneg zero_le_one zero_le_two
  obtain ⟨s', h⟩ : ∃ s', writeSource ⟨some { FileHeader.default with width := 4, height := 1 },
      none, [], 0⟩ (some ⟨none⟩) wic (some source) none = .ok () s' := by
    simp only [writeSource, writeSourceChecks, source, bind, Except.bind, hdpi, if_false]
    exact ⟨_, rfl⟩
  exact ⟨_, ⟨some { FileHeader.default with width := 4, height := 1 }, none, [], 0⟩, s', rfl, rfl,
    h, rfl, rfl, rfl, writeSource_ok_header rfl rfl
      (show pixelFormatToBitDepth GUID_WICPixelFormat8bppIndexed = some 8 from rfl) h⟩

end BmxShell.Encoder
