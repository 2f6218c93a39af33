import BmxShell.Machine
import Mathlib.Data.Fin.VecNotation
import Mathlib.Data.Fintype.Basic
import Mathlib.Data.List.OfFn

/-!
The BMX file header and palette entry of `bmx.rs`. `FileHeader` is the `repr(C)` struct:
its three file-id bytes are `NonZeroU8`, so a header with a zero magic byte cannot be
built, and `reserved` is a 16-byte array. `from_bytes` parses a slice and runs `validate`;
`to_bytes` writes every multi-byte field little-endian except `data_start`, which it writes
big-endian. The encoder does not use `to_bytes`: it writes the struct's memory image, which
on the little-endian targets Windows runs on has `data_start` little-endian too. Both are
kept, as `toBytes` and `memoryImage`.
-/

namespace BmxShell.Bmx

structure NonZeroU8 where
  get : UInt8
  ne_zero : get ≠ 0
deriving DecidableEq

def NonZeroU8.new (b : UInt8) : Option NonZeroU8 :=
  if h : b = 0 then none else some ⟨b, h⟩

def u16FromLeBytes (lo hi : UInt8) : UInt16 := lo.toUInt16 + hi.toUInt16 * 256

/-- `u16::to_le_bytes`, as a pair of bytes in memory order. -/
def u16ToLeBytes (x : UInt16) : UInt8 × UInt8 := (x.toUInt8, (x / 256).toUInt8)

/-- `u16::to_be_bytes`, as a pair of bytes in memory order. -/
def u16ToBeBytes (x : UInt16) : UInt8 × UInt8 := ((x / 256).toUInt8, x.toUInt8)

structure FileHeader where
  fileId : Fin 3 → NonZeroU8
  version : UInt8
  bitDepth : UInt8
  veraColorDepthRegister : UInt8
  width : UInt16
  height : UInt16
  palUsed : UInt8
  palStart : UInt8
  dataStart : UInt16
  compressed : Int8
  veraBorderColor : UInt8
  reserved : Fin 16 → UInt8
deriving DecidableEq

inductive FileHeaderError
  | invalidHeaderSize
  | invalidFileId
  | invalidVersion
  | invalidBitDepth
  | invalidVeraColorDepthRegister
  | bitDepthMismatch
  | invalidDataStart
  | invalidVeraBorderColor
deriving DecidableEq, Repr

/-- `impl Display for FileHeaderError`. -/
def FileHeaderError.toString : FileHeaderError → String
  | .invalidHeaderSize => "Invalid header size"
  | .invalidFileId => "Invalid file ID"
  | .invalidVersion => "Invalid version"
  | .invalidBitDepth => "Invalid bit depth"
  | .invalidVeraColorDepthRegister => "Invalid VERA color depth register"
  | .bitDepthMismatch => "Mismatch between bit depth and VERA color depth register"
  | .invalidDataStart => "Invalid data start"
  | .invalidVeraBorderColor => "Invalid Vera border color"

def sizeOfFileHeader : Nat := 32

def sizeOfPaletteEntry : Nat := 2

namespace FileHeader

def paletteEntryCount (h : FileHeader) : Nat :=
  if h.palUsed = 0 then 256 else h.palUsed.toNat

/-- The bit depth and VERA register pairs that `validate` accepts. -/
def depthRegisterPairs : List (UInt8 × UInt8) := [(1, 0), (2, 1), (4, 2), (8, 3)]

/-- `FileHeader::validate`. The magic bytes are `b'B'`, `b'M'`, `b'X'`. -/
def validate (h : FileHeader) : Except FileHeaderError Unit :=
  if (h.fileId 0).get ≠ 66 ∨ (h.fileId 1).get ≠ 77 ∨ (h.fileId 2).get ≠ 88 then
    .error .invalidFileId
  else if h.version ≠ 1 then .error .invalidVersion
  else if h.bitDepth ∉ [1, 2, 4, 8] then .error .invalidBitDepth
  else if ¬ h.veraColorDepthRegister ≤ 3 then .error .invalidVeraColorDepthRegister
  else if (h.bitDepth, h.veraColorDepthRegister) ∉ depthRegisterPairs then
    .error .bitDepthMismatch
  else if h.dataStart.toNat < sizeOfFileHeader + sizeOfPaletteEntry * h.paletteEntryCount then
    .error .invalidDataStart
  else .ok ()

/-- `FileHeader::from_bytes`. After the length check every index is in range, so
`bytes[i]` is read as `bytes.getD i 0`. -/
def fromBytes (bytes : List UInt8) : Except FileHeaderError FileHeader :=
  if bytes.length ≠ 32 then .error .invalidHeaderSize else
  match NonZeroU8.new (bytes.getD 0 0), NonZeroU8.new (bytes.getD 1 0),
      NonZeroU8.new (bytes.getD 2 0) with
  | some b0, some b1, some b2 =>
    let header : FileHeader :=
      { fileId := ![b0, b1, b2]
        version := bytes.getD 3 0
        bitDepth := bytes.getD 4 0
        veraColorDepthRegister := bytes.getD 5 0
        width := u16FromLeBytes (bytes.getD 6 0) (bytes.getD 7 0)
        height := u16FromLeBytes (bytes.getD 8 0) (bytes.getD 9 0)
        palUsed := bytes.getD 10 0
        palStart := bytes.getD 11 0
        dataStart := u16FromLeBytes (bytes.getD 12 0) (bytes.getD 13 0)
        compressed := ⟨bytes.getD 14 0⟩
        veraBorderColor := bytes.getD 15 0
        reserved := fun i => bytes.getD (16 + i) 0 }
    match header.validate with
    | .ok () => .ok header
    | .error err => .error err
  | _, _, _ => .error .invalidFileId

/-- The 32 bytes of a header, with the two given bytes at offsets 12 and 13. -/
def layout (h : FileHeader) (dataStart : UInt8 × UInt8) : List UInt8 :=
  [(h.fileId 0).get, (h.fileId 1).get, (h.fileId 2).get, h.version, h.bitDepth,
    h.veraColorDepthRegister, (u16ToLeBytes h.width).1, (u16ToLeBytes h.width).2,
    (u16ToLeBytes h.height).1, (u16ToLeBytes h.height).2, h.palUsed, h.palStart,
    dataStart.1, dataStart.2, h.compressed.toUInt8, h.veraBorderColor] ++ List.ofFn h.reserved

/-- `FileHeader::to_bytes`: `data_start` is written with `to_be_bytes`. -/
def toBytes (h : FileHeader) : List UInt8 := h.layout (u16ToBeBytes h.dataStart)

/-- The `repr(C)` memory image of a header on a little-endian target, which
`stream_write_exact_items(&stream, std::slice::from_ref(header))` writes. -/
def memoryImage (h : FileHeader) : List UInt8 := h.layout (u16ToLeBytes h.dataStart)

/-- `FileHeader::default()`: magic `BMX`, version 1, every other field zero. -/
def default : FileHeader :=
  { fileId := ![⟨66, by decide⟩, ⟨77, by decide⟩, ⟨88, by decide⟩]
    version := 1
    bitDepth := 0
    veraColorDepthRegister := 0
    width := 0
    height := 0
    palUsed := 0
    palStart := 0
    dataStart := 0
    compressed := ⟨0⟩
    veraBorderColor := 0
    reserved := fun _ => 0 }

end FileHeader

structure PaletteEntry where
  gb : UInt8
  r : UInt8
deriving DecidableEq, Repr

namespace PaletteEntry

/-- `PaletteEntry::from_rgb`: the high nibble of each channel. -/
def fromRgb (r g b : UInt8) : PaletteEntry :=
  ⟨(g >>> 4) <<< 4 ||| (b >>> 4), r >>> 4⟩

def toRgb (e : PaletteEntry) : UInt8 × UInt8 × UInt8 :=
  let r := e.r
  let g := e.gb >>> 4
  let b := e.gb &&& 0x0F
  (r <<< 4, g <<< 4, b <<< 4)

/-- `PaletteEntry::from_wic`: the red, green and blue bytes of a `0xAARRGGBB` colour. -/
def fromWic (color : UInt32) : PaletteEntry :=
  let r := (color >>> 16).toUInt8
  let g := (color >>> 8).toUInt8
  let b := color.toUInt8
  fromRgb r g b

def toWic (e : PaletteEntry) : UInt32 :=
  let (r, g, b) := e.toRgb
  (0xFF000000 : UInt32) ||| r.toUInt32 <<< 16 ||| g.toUInt32 <<< 8 ||| b.toUInt32

/-- The `repr(C)` memory image of an entry: `gb`, then `r`. -/
def memoryImage (e : PaletteEntry) : List UInt8 := [e.gb, e.r]

end PaletteEntry

/-! Small facts about the definitions, used instead of unfolding them. -/

@[simp] theorem u16FromLeBytes_toNat (lo hi : UInt8) :
    (u16FromLeBytes lo hi).toNat = lo.toNat + 256 * hi.toNat := by
  have := lo.toNat_lt'
  have := hi.toNat_lt'
  simp only [u16FromLeBytes, UInt16.toNat_add', UInt16.toNat_mul', UInt8.toNat_toUInt16,
    UInt16.toNat_ofNat_lit]
  omega

theorem u16FromLeBytes_toLeBytes (x : UInt16) :
    u16FromLeBytes (u16ToLeBytes x).1 (u16ToLeBytes x).2 = x := by
  have := x.toNat_lt'
  rw [UInt16.eq_iff_toNat, u16FromLeBytes_toNat]
  simp only [u16ToLeBytes, UInt16.toNat_toUInt8, UInt16.toNat_div, UInt16.toNat_ofNat_lit, Nat.reduceMod]
  omega

theorem u16ToLeBytes_fromLeBytes (lo hi : UInt8) :
    u16ToLeBytes (u16FromLeBytes lo hi) = (lo, hi) := by
  have := lo.toNat_lt'
  have := hi.toNat_lt'
  simp only [u16ToLeBytes, Prod.mk.injEq, UInt8.eq_iff_toNat, UInt16.toNat_toUInt8,
    UInt16.toNat_div, u16FromLeBytes_toNat, UInt16.toNat_ofNat_lit, Nat.reduceMod]
  omega

@[simp] theorem NonZeroU8.new_get (b : NonZeroU8) : NonZeroU8.new b.get = some b := by
  simp [NonZeroU8.new, b.ne_zero]

theorem FileHeader.paletteEntryCount_le (h : FileHeader) : h.paletteEntryCount ≤ 256 := by
  have := h.palUsed.toNat_lt'
  unfold FileHeader.paletteEntryCount
  split <;> omega

theorem FileHeader.paletteEntryCount_pos (h : FileHeader) : 0 < h.paletteEntryCount := by
  unfold FileHeader.paletteEntryCount
  split
  · omega
  · rename_i h0
    rw [UInt8.eq_iff_toNat] at h0
    simpa [Nat.pos_iff_ne_zero] using h0

/-- A header that validates leaves room for its palette before its pixel data. -/
theorem FileHeader.dataStart_of_validate {h : FileHeader} (hv : h.validate = .ok ()) :
    sizeOfFileHeader + sizeOfPaletteEntry * h.paletteEntryCount ≤ h.dataStart.toNat := by
  unfold FileHeader.validate at hv
  repeat' split at hv
  all_goals first | exact Nat.le_of_not_lt ‹_› | cases hv

@[simp] theorem FileHeader.length_layout (h : FileHeader) (d : UInt8 × UInt8) :
    (h.layout d).length = 32 := by
  simp [FileHeader.layout]

end BmxShell.Bmx
