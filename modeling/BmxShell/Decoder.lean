import BmxShell.Com

/-!
The decoder of `com/wic/decoder/mod.rs`. `Initialize` parses the header at the caller's
stream position, opens a WIC stream over the image's region of that stream, reads the
palette and seeks the region to `begin_position + data_start`. `CopyPixels` copies rows
into the caller's buffer: the rectangle branch seeks first and discards `rect.X` bytes
before every row after the first; the full-image branch reads from wherever the stream
is. The buffer is `buffer_size` bytes, and a slice handed to the stream must lie inside
it: one that does not is undefined behaviour, modelled as `none`.
-/

namespace BmxShell.Decoder

open Bmx

/-- `BitmapDecoderData`, without the imaging factory, which only `GetDecoderInfo` uses. -/
structure BitmapDecoderData where
  stream : Stream
  header : FileHeader
  palette : List UInt32

/-- `WICBitmapDecoderCapabilityCanDecodeAllImages | WICBitmapDecoderCapabilityCanDecodeSomeImages`. -/
def canDecodeAllAndSome : UInt32 := 0x2 ||| 0x4

/-- `BitmapDecoder::QueryCapability`. The position preserver puts the stream back. -/
def queryCapability (stream : Option Stream) : Except ComError UInt32 :=
  match stream with
  | none => .error (.ofCode .E_INVALIDARG)
  | some s =>
    match (fromStream s).1 with
    | .error e => .error e
    | .ok header => .ok (if header.compressed = 0 then canDecodeAllAndSome else 0)

/-- `stream_read_exact_items` into the first `count` of 256 default palette entries:
entry `i` is made of bytes `2i` and `2i+1` read, zero where the read stopped short. -/
def readPaletteEntries (s : Stream) (count : Nat) : List PaletteEntry × Stream :=
  let (got, s') := s.read (sizeOfPaletteEntry * count)
  ((List.range count).map fun i => ⟨got.getD (2 * i) 0, got.getD (2 * i + 1) 0⟩, s')

/-- `image_size` in `Initialize`: the header, the palette and the pixel rows, in `u64`
arithmetic, which cannot overflow here. -/
def imageSize (header : FileHeader) : Nat :=
  header.dataStart.toNat + (bytesPerLine header.width header.bitDepth).toNat * header.height.toNat

/-- `BitmapDecoder::Initialize`. The state is the decoder's `inner`; the caller's stream
is put back where it was by the position preserver. -/
def initializeDecoder (d : Option BitmapDecoderData) (stream : Option Stream) (wic : Wic) :
    Outcome (Option BitmapDecoderData) Unit :=
  match stream with
  | none => .error (.ofCode .E_INVALIDARG) d
  | some host =>
  match d with
  | some _ => .error (.ofCode .ERROR_ALREADY_INITIALIZED) d
  | none =>
  let position := host.pos
  let beginPosition := host.pos
  match (fromStream host).1 with
  | .error e => .error e d
  | .ok header =>
  match wic.createFactory with
  | .error e => .error e d
  | .ok () =>
  match wic.createStream, wic.initializeRegion with
  | .error e, _ => .error e d
  | .ok (), .error e => .error e d
  | .ok (), .ok () =>
  let region := (host.region position (imageSize header)).seek sizeOfFileHeader
  match wic.createPalette with
  | .error e => .error e d
  | .ok () =>
  let (entries, region) := readPaletteEntries region header.paletteEntryCount
  match wic.initializeCustom with
  | .error e => .error e d
  | .ok () =>
  .ok () (some ⟨region.seek (beginPosition + header.dataStart.toNat), header,
    entries.map PaletteEntry.toWic⟩)

/-! `FrameDecoder::CopyPixels`. -/

/-- The caller's buffer: `size` bytes, with their contents. -/
structure Buffer where
  size : Nat
  bytes : Nat → UInt8

/-- Store `src` at offset `off`. -/
def Buffer.write (b : Buffer) (off : Nat) (src : List UInt8) : Buffer :=
  { b with bytes := fun j => if off ≤ j ∧ j < off + src.length then src.getD (j - off) 0
                              else b.bytes j }

@[simp] theorem Buffer.size_write (b : Buffer) (off : Nat) (src : List UInt8) :
    (b.write off src).size = b.size := rfl

theorem Buffer.write_bytes_of_lt {b : Buffer} {off j : Nat} {src : List UInt8} (hj : j < off) :
    (b.write off src).bytes j = b.bytes j := by
  simp [Buffer.write]
  omega

theorem Buffer.write_bytes_of_mem {b : Buffer} {off c : Nat} {src : List UInt8}
    (hc : c < src.length) : (b.write off src).bytes (off + c) = src.getD c 0 := by
  simp [Buffer.write, hc]

/-- `stream_read_exact(stream, slice::from_raw_parts_mut(buffer + off, n))`: `none` when
the slice does not lie in the buffer. -/
def readInto (s : Stream) (b : Buffer) (off n : Nat) : Option (Stream × Buffer) :=
  if off + n ≤ b.size then some ((s.read n).2, b.write off (s.read n).1) else none

/-- The row loop, from row `i` with `rows` rows left: before every row but the first,
read `skip` bytes into the row's start; then read `bpl` bytes there; the destination
advances by `stride` per row. -/
def copyRows (skip bpl stride : Nat) : Nat → Nat → Stream × Buffer → Option (Stream × Buffer)
  | 0, _, sb => some sb
  | rows + 1, i, (s, b) => do
    let (s, b) ← if 0 < i ∧ 0 < skip then readInto s b (i * stride) skip else some (s, b)
    let sb ← readInto s b (i * stride) bpl
    copyRows skip bpl stride rows (i + 1) sb

/-- Without a skip, a row is one read into the buffer. -/
theorem copyRows_zero_succ (bpl stride rows i : Nat) (s : Stream) (b : Buffer) :
    copyRows 0 bpl stride (rows + 1) i (s, b) =
      (readInto s b (i * stride) bpl).bind (copyRows 0 bpl stride rows (i + 1)) := by
  simp only [copyRows, Nat.lt_irrefl, and_false, if_false]
  rfl

/-- `min_buffer_size`, in `u32` arithmetic. -/
def minBufferSize (h : FileHeader) : Option WicRect → UInt32
  | some rect => (bytesPerLine rect.width.toU16 h.bitDepth).toUInt32 * rect.height.toU32
  | none => (bytesPerLine h.width h.bitDepth).toUInt32 * h.height.toUInt32

/-- The bounds check of the rectangle branch, in `i32` arithmetic. -/
def rectOutOfBounds (h : FileHeader) (rect : WicRect) : Prop :=
  rect.x < 0 ∨ rect.y < 0 ∨ I32.ofInt h.width.toNat < rect.x + rect.width ∨
    I32.ofInt h.height.toNat < rect.y + rect.height

instance (h : FileHeader) (rect : WicRect) : Decidable (rectOutOfBounds h rect) := by
  unfold rectOutOfBounds; infer_instance

/-- `FrameDecoder::CopyPixels` on the decoder `d` with the destination `dest` of
`buffer_size` bytes: the decoder (its stream moved) and the destination afterwards, or
`none` for a write outside the destination. -/
def copyPixels (d : Option BitmapDecoderData) (rect : Option WicRect) (stride bufferSize : UInt32)
    (dest : Nat → UInt8) : Option (Outcome (Option BitmapDecoderData × (Nat → UInt8)) Unit) :=
  match d with
  | none => some (.error (.ofCode .E_UNEXPECTED) (d, dest))
  | some p =>
  let h := p.header
  if stride.toUInt16 < bytesPerLine h.width h.bitDepth then
    some (.error (.ofCode .WINCODEC_ERR_INSUFFICIENTBUFFER) (d, dest))
  else if bufferSize < minBufferSize h rect then
    some (.error (.ofCode .WINCODEC_ERR_INSUFFICIENTBUFFER) (d, dest))
  else
  let finish := fun (sb : Stream × Buffer) =>
    Outcome.ok () (some { p with stream := sb.1 }, sb.2.bytes)
  match rect with
  | some rect =>
    if rectOutOfBounds h rect then some (.error (.ofCode .E_INVALIDARG) (d, dest)) else
    let offset := (bytesPerLine h.width h.bitDepth).toUInt32 * rect.y.toU32 + rect.x.toU32
    let s := p.stream.seek (h.dataStart.toNat + offset.toNat)
    let bpl := bytesPerLine rect.width.toU16 h.bitDepth
    (copyRows rect.x.toUsize bpl.toNat stride.toNat rect.height.toInt.toNat 0
      (s, ⟨bufferSize.toNat, dest⟩)).map finish
  | none =>
    let bpl := bytesPerLine h.width h.bitDepth
    (copyRows 0 bpl.toNat stride.toNat h.height.toNat 0 (p.stream, ⟨bufferSize.toNat, dest⟩)).map
      finish

end BmxShell.Decoder
