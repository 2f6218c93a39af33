import BmxShell.Bmx

/-!
The COM and WIC surface the codec runs against (`com/mod.rs`, `com/wic/util.rs`).
Errors are `windows::core::Error` values: an HRESULT and a message. A method of a COM
object returns `Ok` or an error and, either way, leaves its object as its body left it;
a panic aborts the process (an `extern "system"` method cannot unwind). Streams follow
the `IStream` contract: `Read` stops early at the end of the data and still reports
success, and `Seek` may move past the end. The WIC runtime's own calls (creating the
factory, streams and palettes) are inputs that either succeed or fail.
-/

namespace BmxShell

open Bmx

/-- The HRESULTs the codec returns by name; `other` stands for any code a collaborator
reports. `ERROR_ALREADY_INITIALIZED` is `HRESULT::from_win32(ERROR_ALREADY_INITIALIZED.0)`. -/
inductive Hresult
  | E_INVALIDARG
  | E_POINTER
  | E_UNEXPECTED
  | E_ILLEGAL_STATE_CHANGE
  | ERROR_ALREADY_INITIALIZED
  | WINCODEC_ERR_BADHEADER
  | WINCODEC_ERR_CODECTOOMANYSCANLINES
  | WINCODEC_ERR_INSUFFICIENTBUFFER
  | WINCODEC_ERR_SOURCERECTDOESNOTMATCHDIMENSIONS
  | WINCODEC_ERR_UNEXPECTEDSIZE
  | WINCODEC_ERR_UNSUPPORTEDOPERATION
  | other (code : UInt32)
deriving DecidableEq, Repr

/-- `windows::core::Error`. An error made from a bare HRESULT (`E_POINTER.into()`) has the
empty message. -/
structure ComError where
  code : Hresult
  message : String
deriving DecidableEq, Repr

/-- `code.into()`. -/
def ComError.ofCode (code : Hresult) : ComError := ⟨code, ""⟩

/-- What a COM method did: returned `Ok a` or an error, with its object in state `s`
afterwards, or panicked. -/
inductive Outcome (σ α : Type)
  | ok (a : α) (s : σ)
  | error (e : ComError) (s : σ)
  | panic (msg : String)

/-- The state a method left behind, unless it panicked. -/
def Outcome.state? {σ α : Type} : Outcome σ α → Option σ
  | .ok _ s => some s
  | .error _ s => some s
  | .panic _ => none

def Outcome.ok? {σ α : Type} : Outcome σ α → Option α
  | .ok a _ => some a
  | _ => none

def Outcome.map {σ α β : Type} (f : α → β) : Outcome σ α → Outcome σ β
  | .ok a s => .ok (f a) s
  | .error e s => .error e s
  | .panic msg => .panic msg

def Outcome.mapState {σ τ α : Type} (g : σ → τ) : Outcome σ α → Outcome τ α
  | .ok a s => .ok a (g s)
  | .error e s => .error e (g s)
  | .panic msg => .panic msg

@[simp] theorem Outcome.state?_map {σ α β : Type} (f : α → β) (o : Outcome σ α) :
    (o.map f).state? = o.state? := by
  cases o <;> rfl

theorem Outcome.map_eq_ok {σ α β : Type} {f : α → β} {o : Outcome σ α} {b : β} {s : σ} :
    o.map f = .ok b s ↔ ∃ a, o = .ok a s ∧ f a = b := by
  cases o with
  | ok a s' =>
    simp only [Outcome.map, Outcome.ok.injEq]
    exact ⟨fun ⟨hb, hs⟩ => ⟨a, ⟨rfl, hs⟩, hb⟩, fun ⟨_, ⟨rfl, hs⟩, hb⟩ => ⟨hb, hs⟩⟩
  | error e s' => simp [Outcome.map]
  | panic msg => simp [Outcome.map]

@[simp] theorem Outcome.state?_mapState {σ τ α : Type} (g : σ → τ) (o : Outcome σ α) :
    (o.mapState g).state? = o.state?.map g := by
  cases o <;> rfl

/-! Streams. -/

/-- An `IStream`: its bytes and its seek pointer. -/
structure Stream where
  data : List UInt8
  pos : Nat
deriving DecidableEq

namespace Stream

/-- `IStream::Read` of `n` bytes: those from the seek pointer on, fewer at the end. -/
def read (s : Stream) (n : Nat) : List UInt8 × Stream :=
  let got := (s.data.drop s.pos).take n
  (got, { s with pos := s.pos + got.length })

/-- `IStream::Seek` with `STREAM_SEEK_SET`. -/
def seek (s : Stream) (p : Nat) : Stream := { s with pos := p }

/-- `IWICStream::InitializeFromIStreamRegion(stream, offset, size)`: a stream over the
`size` bytes from `offset` on, with its own seek pointer at 0. -/
def region (s : Stream) (offset size : Nat) : Stream :=
  { data := (s.data.drop offset).take size, pos := 0 }

@[simp] theorem read_fst (s : Stream) (n : Nat) : (s.read n).1 = (s.data.drop s.pos).take n := rfl

@[simp] theorem read_snd_data (s : Stream) (n : Nat) : (s.read n).2.data = s.data := rfl

@[simp] theorem read_snd_pos (s : Stream) (n : Nat) :
    (s.read n).2.pos = s.pos + ((s.data.drop s.pos).take n).length := rfl

@[simp] theorem seek_data (s : Stream) (p : Nat) : (s.seek p).data = s.data := rfl

@[simp] theorem seek_pos (s : Stream) (p : Nat) : (s.seek p).pos = p := rfl

end Stream

/-- Byte `c` of the `n` bytes from offset `p` on, for `c < n`, is byte `p + c`. -/
theorem getD_take_drop (l : List UInt8) {p n c : Nat} (hc : c < n) :
    ((l.drop p).take n).getD c 0 = l.getD (p + c) 0 := by
  simp [List.getElem?_take, hc]

/-- Byte `c` of row `r`, in rows of `k` bytes, lies within the first `n > r` rows. -/
theorem row_offset_lt {r n c k : Nat} (hr : r < n) (hc : c < k) : r * k + c < n * k :=
  calc r * k + c < (r + 1) * k := by rw [Nat.succ_mul]; omega
    _ ≤ n * k := Nat.mul_le_mul_right k hr

def Bmx.FileHeaderError.toWinError (e : FileHeaderError) : ComError :=
  ⟨.WINCODEC_ERR_BADHEADER, e.toString⟩

/-- `FileHeaderExt::from_stream`: `stream_read_exact` into a zeroed 32-byte array, then
`from_bytes`. The stream is left after the bytes read. -/
def fromStream (s : Stream) : Except ComError FileHeader × Stream :=
  let (got, s') := s.read sizeOfFileHeader
  let header := got ++ List.replicate (sizeOfFileHeader - got.length) 0
  match FileHeader.fromBytes header with
  | .ok h => (.ok h, s')
  | .error e => (.error e.toWinError, s')

/-! Pixel formats and scanlines (`com/wic/util.rs`). -/

structure Guid where
  data1 : UInt32
  data2 : UInt16
  data3 : UInt16
  data4 : Fin 8 → UInt8
deriving DecidableEq

/-- `GUID_WICPixelFormatNbppIndexed`, `{6fddc324-4e03-4bfe-b185-3d77768dc9NN}` with
`NN` = 01, 02, 03, 04 for 1, 2, 4, 8 bits per pixel. -/
def wicPixelFormatIndexed (last : UInt8) : Guid :=
  ⟨0x6fddc324, 0x4e03, 0x4bfe, ![0xb1, 0x85, 0x3d, 0x77, 0x76, 0x8d, 0xc9, last]⟩

def GUID_WICPixelFormat1bppIndexed : Guid := wicPixelFormatIndexed 0x01
def GUID_WICPixelFormat2bppIndexed : Guid := wicPixelFormatIndexed 0x02
def GUID_WICPixelFormat4bppIndexed : Guid := wicPixelFormatIndexed 0x03
def GUID_WICPixelFormat8bppIndexed : Guid := wicPixelFormatIndexed 0x04

/-- `bytes_per_line`: `((width as u32 * bit_depth as u32 + 7) / 8) as u16`. -/
def bytesPerLine (width : UInt16) (bitDepth : UInt8) : UInt16 :=
  ((width.toUInt32 * bitDepth.toUInt32 + 7) / 8).toUInt16

def pixelFormatToBitDepth (pixelFormat : Guid) : Option UInt8 :=
  if pixelFormat = GUID_WICPixelFormat1bppIndexed then some 1
  else if pixelFormat = GUID_WICPixelFormat2bppIndexed then some 2
  else if pixelFormat = GUID_WICPixelFormat4bppIndexed then some 4
  else if pixelFormat = GUID_WICPixelFormat8bppIndexed then some 8
  else none

/-- The bit depths `pixel_format_to_bit_depth` returns are those a BMX file allows. -/
theorem pixelFormatToBitDepth_mem {pixelFormat : Guid} {bitDepth : UInt8}
    (h : pixelFormatToBitDepth pixelFormat = some bitDepth) : bitDepth ∈ [1, 2, 4, 8] := by
  unfold pixelFormatToBitDepth at h
  split_ifs at h <;> cases h <;> decide

def bitDepthToPixelFormat (bitDepth : UInt8) : Option Guid :=
  if bitDepth = 1 then some GUID_WICPixelFormat1bppIndexed
  else if bitDepth = 2 then some GUID_WICPixelFormat2bppIndexed
  else if bitDepth = 4 then some GUID_WICPixelFormat4bppIndexed
  else if bitDepth = 8 then some GUID_WICPixelFormat8bppIndexed
  else none

/-- For a bit depth of at most 8 the `u32` arithmetic does not overflow and the
result fits a `u16`: `bytes_per_line` is the ceiling of `width * bit_depth / 8`. -/
theorem bytesPerLine_toNat {width : UInt16} {bitDepth : UInt8} (hd : bitDepth.toNat ≤ 8) :
    (bytesPerLine width bitDepth).toNat = (width.toNat * bitDepth.toNat + 7) / 8 := by
  have := width.toNat_lt'
  have hmul : width.toNat * bitDepth.toNat ≤ width.toNat * 8 := Nat.mul_le_mul_left _ hd
  simp only [bytesPerLine, UInt32.toNat_toUInt16, UInt32.toNat_div, UInt32.toNat_add',
    UInt32.toNat_mul', UInt16.toNat_toUInt32, UInt8.toNat_toUInt32, UInt32.toNat_ofNat_lit,
    Nat.reduceMod]
  omega

/-- `u32::try_into::<u16>`; its error displays as the message below. -/
def tryIntoU16 (x : UInt32) : Option UInt16 :=
  if x.toNat < 65536 then some x.toUInt16 else none

/-- `TryFromIntError`'s `Display`. -/
def tryFromIntErrorMessage : String := "out of range integral type conversion attempted"

theorem tryIntoU16_toNat {x : UInt32} {y : UInt16} (h : tryIntoU16 x = some y) :
    y.toNat = x.toNat := by
  unfold tryIntoU16 at h
  split at h
  · cases h
    simp only [UInt32.toNat_toUInt16]
    omega
  · cases h

structure WicRect where
  x : I32
  y : I32
  width : I32
  height : I32
deriving DecidableEq

/-! The WIC runtime. -/

/-- An `IWICPalette`: the colours `GetColors` returns. A WIC palette holds at most 256. -/
structure WicPalette where
  colors : List UInt32
  length_le : colors.length ≤ 256

/-- The outcomes of the WIC runtime's calls: each succeeds or fails with an error. -/
structure Wic where
  /-- `CoCreateInstance(&CLSID_WICImagingFactory, ..)`. -/
  createFactory : Except ComError Unit
  createStream : Except ComError Unit
  /-- `IWICStream::InitializeFromIStreamRegion`. -/
  initializeRegion : Except ComError Unit
  createPalette : Except ComError Unit
  initializeCustom : Except ComError Unit
  /-- `IWICPalette::InitializePredefined(WICBitmapPaletteTypeFixedHalftone256, false)`. -/
  fixedHalftone256 : Except ComError WicPalette

/-- The WIC calls `BitmapDecoder::Initialize` makes all succeed. -/
def Wic.DecoderCallsSucceed (wic : Wic) : Prop :=
  wic.createFactory = .ok () ∧ wic.createStream = .ok () ∧ wic.initializeRegion = .ok () ∧
    wic.createPalette = .ok () ∧ wic.initializeCustom = .ok ()

end BmxShell
