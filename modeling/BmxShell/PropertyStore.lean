import BmxShell.DecoderRuns
import BmxShell.Transcode

/-!
The shell property handler of `com/shell/property_store.rs`, `PropertyStore`. `Initialize`
reads the BMX header at the stream's seek pointer and fills an in-memory property store that
is read-only from then on: the MIME type, the bit depth, the dimensions as text and as
numbers, and the compression. Its access check masks `grfmode` with `STGM_READ | STGM_WRITE`,
which is `STGM_WRITE` alone since `STGM_READ` is 0, so a read-write mode passes it. Over
every run of calls the store is written at most once, by the first `Initialize` that returns
`Ok`. Over every stream the decoder's `Initialize` accepts it reports the size and the bit
depth the decoder's frame reports; over the bytes a frame's `Commit` writes, the frame's
geometry and bit depth, uncompressed.
-/

namespace BmxShell.PropertyStore

open Bmx

def STG_E_ACCESSDENIED : Hresult := .other 0x80030005

def E_OUTOFMEMORY : Hresult := .other 0x8007000E

/-- `S_FALSE`, which `IsPropertyWritable` returns as its error. -/
def S_FALSE : Hresult := .other 1

def STGM_READ : UInt32 := 0

def STGM_WRITE : UInt32 := 1

def MIME_TYPE : String := "image/vnd.X16BMX.bmx"

/-- The `PROPERTYKEY`s the handler sets, by name; `other` is any key a caller asks for. -/
inductive PropertyKey
  | PKEY_MIMEType
  | PKEY_Image_BitDepth
  | PKEY_Image_Dimensions
  | PKEY_Image_HorizontalSize
  | PKEY_Image_VerticalSize
  | PKEY_Image_Compression
  | PKEY_Image_CompressionText
  | other (fmtid : Guid) (pid : UInt32)
deriving DecidableEq

/-- A `PROPVARIANT` of the handler: `VT_EMPTY`, a `VT_LPWSTR` made by
`propvariant_init_lpwstr` (its UTF-16 code units before the NUL), or the `VT_UI4` and
`VT_UI2` that `PROPVARIANT::from` makes of a `u32` and a `u16`. -/
inductive PropertyValue
  | empty
  | lpwstr (value : List UInt16)
  | ui4 (value : UInt32)
  | ui2 (value : UInt16)
deriving DecidableEq

/-- What the handler's calls into Windows answer: `PSCreateMemoryPropertyStore`, and whether
`CoTaskMemAlloc` of a number of bytes returns memory. -/
structure PropertyEnv where
  createStore : Except ComError Unit
  alloc : Nat → Bool

/-- `propvariant_init_lpwstr`; `none` is a null `PCWSTR`. It asks `CoTaskMemAlloc` for
`size_of::<usize>()` bytes, 8 on a 64-bit target, per code unit and for the NUL. -/
def propvariantInitLpwstr (alloc : Nat → Bool) (string : Option (List UInt16)) :
    Except ComError PropertyValue :=
  match string with
  | none => .error (.ofCode .E_INVALIDARG)
  | some string =>
    if alloc ((string.length + 1) * 8) then .ok (.lpwstr string)
    else .error (.ofCode E_OUTOFMEMORY)

/-- `propvariant_init_string`: the text as an `HSTRING`, whose pointer is never null. -/
def propvariantInitString (alloc : Nat → Bool) (string : String) : Except ComError PropertyValue :=
  propvariantInitLpwstr alloc (some (Shell.wide string))

/-- The in-memory store of `PSCreateMemoryPropertyStore`: its keys and values, in the order
the keys were first set. -/
abbrev Properties := List (PropertyKey × PropertyValue)

/-- `IPropertyStoreCache::SetValueAndState`: the value replaces the key's if the store holds
it, and is added last otherwise. The state, `PSC_READONLY`, is not kept: nothing reads it. -/
def setValueAndState (properties : Properties) (key : PropertyKey) (value : PropertyValue) :
    Properties :=
  if (properties.lookup key).isSome then
    properties.map fun p => if p.1 = key then (key, value) else p
  else properties ++ [(key, value)]

/-- The `set_properties!` macro: each value in turn is made, returning its error through `?`,
and set. -/
def setProperties : List (PropertyKey × Except ComError PropertyValue) → Properties →
    Except ComError Properties
  | [], properties => .ok properties
  | (key, value) :: rest, properties =>
    match value with
    | .error e => .error e
    | .ok value => setProperties rest (setValueAndState properties key value)

/-- The compression that `initialize_from_header` sets for `compressed`: 1 when it is 0;
`u16::MAX - 1` and the text `LZSA` when it is 1; `u16::MAX` and `Unknown` otherwise. -/
def compressionProperties (alloc : Nat → Bool) (compressed : Int8) :
    List (PropertyKey × Except ComError PropertyValue) :=
  if compressed = 0 then [(.PKEY_Image_Compression, .ok (.ui2 1))]
  else if compressed = 1 then
    [(.PKEY_Image_Compression, .ok (.ui2 (65535 - 1))),
      (.PKEY_Image_CompressionText, propvariantInitLpwstr alloc (some (Shell.wide "LZSA")))]
  else
    [(.PKEY_Image_Compression, .ok (.ui2 65535)),
      (.PKEY_Image_CompressionText, propvariantInitLpwstr alloc (some (Shell.wide "Unknown")))]

def initializeFromHeader (env : PropertyEnv) (header : FileHeader) : Except ComError Properties :=
  match env.createStore with
  | .error e => .error e
  | .ok () =>
    setProperties
      ([(.PKEY_MIMEType, propvariantInitLpwstr env.alloc (some (Shell.wide MIME_TYPE))),
        (.PKEY_Image_BitDepth, .ok (.ui4 header.bitDepth.toUInt32)),
        (.PKEY_Image_Dimensions, propvariantInitString env.alloc
          (toString header.width ++ "x" ++ toString header.height)),
        (.PKEY_Image_HorizontalSize, .ok (.ui4 header.width.toUInt32)),
        (.PKEY_Image_VerticalSize, .ok (.ui4 header.height.toUInt32))] ++
        compressionProperties env.alloc header.compressed) []

structure PropertyStoreData where
  properties : Properties

/-- `PropertyStore::with_property_store`: `E_UNEXPECTED` before `Initialize`. -/
def withPropertyStore {α : Type} (inner : Option PropertyStoreData)
    (op : Properties → Except ComError α) : Except ComError α :=
  match inner with
  | none => .error (.ofCode .E_UNEXPECTED)
  | some data => op data.properties

def getCount (inner : Option PropertyStoreData) : Except ComError UInt32 :=
  withPropertyStore inner fun properties => .ok properties.length.toUInt32

/-- `GetAt`: the key at `index`, `E_INVALIDARG` past the end. -/
def getAt (inner : Option PropertyStoreData) (index : UInt32) : Except ComError PropertyKey :=
  withPropertyStore inner fun properties =>
    match properties[index.toNat]? with
    | some (key, _) => .ok key
    | none => .error (.ofCode .E_INVALIDARG)

/-- `GetValue`: `VT_EMPTY` for a key the store does not hold. -/
def getValue (inner : Option PropertyStoreData) (key : PropertyKey) :
    Except ComError PropertyValue :=
  withPropertyStore inner fun properties => .ok ((properties.lookup key).getD .empty)

def setValue : Except ComError Unit := .error (.ofCode STG_E_ACCESSDENIED)

def commit : Except ComError Unit := .error (.ofCode STG_E_ACCESSDENIED)

/-- `IsPropertyWritable`: `S_FALSE`, whatever the key. -/
def isPropertyWritable : Except ComError Unit := .error (.ofCode S_FALSE)

def initializeWithStream (inner : Option PropertyStoreData) (stream : Option Stream)
    (grfmode : UInt32) (env : PropertyEnv) : Outcome (Option PropertyStoreData) Unit :=
  if grfmode &&& (STGM_READ ||| STGM_WRITE) ≠ 0 then .error (.ofCode STG_E_ACCESSDENIED) inner
  else
  match stream with
  | none => .error (.ofCode .E_INVALIDARG) inner
  | some stream =>
  match inner with
  | some _ => .error (.ofCode .ERROR_ALREADY_INITIALIZED) inner
  | none =>
  match (fromStream stream).1 with
  | .error e => .error e inner
  | .ok header =>
  match initializeFromHeader env header with
  | .error e => .error e inner
  | .ok properties => .ok () (some ⟨properties⟩)

inductive PropertyCall
  | initializeWithStream (stream : Option Stream) (grfmode : UInt32) (env : PropertyEnv)
  | getCount
  | getAt (index : UInt32)
  | getValue (key : PropertyKey)
  | setValue
  | commit
  | isPropertyWritable

/-- What a call returns with `Ok`. -/
inductive Reply
  | unit
  | count (count : UInt32)
  | key (key : PropertyKey)
  | value (value : PropertyValue)

/-- The answer of a call that only reads the store, which it leaves as it was. -/
def answer {α : Type} (inner : Option PropertyStoreData) (reply : α → Reply) :
    Except ComError α → Outcome (Option PropertyStoreData) Reply
  | .ok a => .ok (reply a) inner
  | .error e => .error e inner

/-- One call on the handler. -/
def propertyStep (inner : Option PropertyStoreData) :
    PropertyCall → Outcome (Option PropertyStoreData) Reply
  | .initializeWithStream stream grfmode env =>
    (initializeWithStream inner stream grfmode env).map fun () => .unit
  | .getCount => answer inner .count (getCount inner)
  | .getAt index => answer inner .key (getAt inner index)
  | .getValue key => answer inner .value (getValue inner key)
  | .setValue => answer inner (fun () => .unit) setValue
  | .commit => answer inner (fun () => .unit) commit
  | .isPropertyWritable => answer inner (fun () => .unit) isPropertyWritable

/-- The store after `calls`, each made whatever the ones before returned. -/
def propertyRun : Option PropertyStoreData → List PropertyCall → Option PropertyStoreData
  | inner, [] => inner
  | inner, call :: calls => propertyRun ((propertyStep inner call).state?.getD inner) calls

/-! What one call does. -/

/-- The access check refuses exactly the modes with the `STGM_WRITE` bit: the odd ones. -/
theorem accessMask_ne_zero_iff (grfmode : UInt32) :
    grfmode &&& (STGM_READ ||| STGM_WRITE) ≠ 0 ↔ grfmode.toNat % 2 = 1 := by
  have hmask : STGM_READ ||| STGM_WRITE = 1 := rfl
  rw [hmask, ne_eq, UInt32.eq_iff_toNat, UInt32.and_toNat, UInt32.toNat_ofNat_lit,
    Nat.and_one_is_mod]
  simp only [UInt32.toNat_ofNat_lit]
  omega

@[simp] theorem answer_state? {α : Type} (inner : Option PropertyStoreData) (reply : α → Reply)
    (r : Except ComError α) : (answer inner reply r).state? = some inner := by
  cases r <;> rfl

/-- `Initialize` with a mode without the `STGM_WRITE` bit, on a store not yet initialized,
over a stream whose bytes at the seek pointer parse as a header, fills the store from it. -/
theorem initializeWithStream_ok {s : Stream} {header : FileHeader} {properties : Properties}
    {grfmode : UInt32} {env : PropertyEnv} (hm : grfmode.toNat % 2 = 0)
    (hs : (fromStream s).1 = .ok header) (hi : initializeFromHeader env header = .ok properties) :
    initializeWithStream none (some s) grfmode env = .ok () (some ⟨properties⟩) := by
  rw [initializeWithStream, if_neg fun h => by have := (accessMask_ne_zero_iff grfmode).mp h; omega]
  simp only [hs, hi]

/-- `Initialize` fails and leaves the store as it was, or fills a store that had nothing. -/
theorem initializeWithStream_cases (inner : Option PropertyStoreData) (stream : Option Stream)
    (grfmode : UInt32) (env : PropertyEnv) :
    (∃ e, initializeWithStream inner stream grfmode env = .error e inner) ∨
      ∃ d, inner = none ∧ initializeWithStream inner stream grfmode env = .ok () (some d) := by
  unfold initializeWithStream
  repeat' split
  all_goals first | exact .inl ⟨_, rfl⟩ | exact .inr ⟨_, rfl, rfl⟩

/-- Every call but an `Initialize` that returns `Ok` leaves the store as it was; that one
fills a store that had nothing. -/
theorem propertyStep_state (inner : Option PropertyStoreData) (call : PropertyCall) :
    (propertyStep inner call).state? = some inner ∨
      ∃ stream grfmode env d, inner = none ∧ call = .initializeWithStream stream grfmode env ∧
        initializeWithStream none stream grfmode env = .ok () (some d) ∧
        (propertyStep inner call).state? = some (some d) := by
  cases call
  case initializeWithStream stream grfmode env =>
    rcases initializeWithStream_cases inner stream grfmode env with ⟨e, he⟩ | ⟨d, rfl, hd⟩
    · left
      rw [propertyStep, Outcome.state?_map, he]; rfl
    · right
      refine ⟨stream, grfmode, env, d, rfl, rfl, hd, ?_⟩
      rw [propertyStep, Outcome.state?_map, hd]; rfl
  all_goals exact .inl (by simp only [propertyStep, answer_state?])

/-- The store is written at most once. Over every run of calls, whatever each returns, it
ends as it began, or it began empty and ends as the first `Initialize` that returned `Ok`
filled it, every call before that one having left it empty. -/
theorem propertyRun_write_once (inner : Option PropertyStoreData) (calls : List PropertyCall) :
    propertyRun inner calls = inner ∨
      ∃ pre stream grfmode env rest d, inner = none ∧
        calls = pre ++ .initializeWithStream stream grfmode env :: rest ∧
        propertyRun none pre = none ∧
        initializeWithStream none stream grfmode env = .ok () (some d) ∧
        propertyRun inner calls = some d := by
  induction calls generalizing inner with
  | nil => exact .inl rfl
  | cons call calls ih =>
    rcases propertyStep_state inner call with h | ⟨stream, grfmode, env, d, rfl, rfl, hinit, h⟩
    · have hrun : propertyRun inner (call :: calls) = propertyRun inner calls := by
        simp only [propertyRun, h, Option.getD_some]
      rw [hrun]
      rcases ih inner with h' | ⟨pre, stream, grfmode, env, rest, d, rfl, rfl, hpre, hinit, h'⟩
      · exact .inl h'
      · exact .inr ⟨call :: pre, stream, grfmode, env, rest, d, rfl, rfl,
          by simp only [propertyRun, h, Option.getD_some, hpre], hinit, h'⟩
    · have hkeep : propertyRun (some d) calls = some d := by
        rcases ih (some d) with h' | ⟨_, _, _, _, _, _, hnone, -⟩
        exacts [h', nomatch hnone]
      refine .inr ⟨[], stream, grfmode, env, calls, d, rfl, rfl, rfl, hinit, ?_⟩
      simp only [propertyRun, h, Option.getD_some, hkeep]

/-! Over the bytes a frame's `Commit` wrote. -/

/-- Setting a key the store does not hold adds it last. -/
theorem setValueAndState_of_not_mem {properties : Properties} {key : PropertyKey}
    (value : PropertyValue) (h : key ∉ properties.map Prod.fst) :
    setValueAndState properties key value = properties ++ [(key, value)] := by
  rw [setValueAndState, if_neg]
  simp only [List.lookup_isSome_iff, beq_iff_eq, not_exists, not_and]
  intro p hp hk
  exact h (List.mem_map.mpr ⟨p, hp, hk.symm⟩)

/-- Values that are all made without error, under keys new to the store and each set once,
are added last in their order. -/
theorem setProperties_of_nodup (entries properties : Properties)
    (h : (properties.map Prod.fst ++ entries.map Prod.fst).Nodup) :
    setProperties (entries.map fun e => (e.1, .ok e.2)) properties = .ok (properties ++ entries) := by
  induction entries generalizing properties with
  | nil => simp [setProperties]
  | cons e entries ih =>
    have hfresh : e.1 ∉ properties.map Prod.fst :=
      fun hm => (List.nodup_append.mp h).2.2 hm (List.mem_cons_self _ _)
    rw [List.map_cons, setProperties, setValueAndState_of_not_mem _ hfresh,
      ih _ (by simpa using h), List.append_assoc, List.singleton_append]

/-- A header without compression, with every call into Windows succeeding, fills the store
with the MIME type, the bit depth, the dimensions as text and as numbers, and compression 1,
each key once. -/
theorem initializeFromHeader_uncompressed {env : PropertyEnv} {header : FileHeader}
    (hstore : env.createStore = .ok ()) (halloc : ∀ n, env.alloc n = true)
    (hc : header.compressed = 0) :
    initializeFromHeader env header = .ok
      [(.PKEY_MIMEType, .lpwstr (Shell.wide MIME_TYPE)),
        (.PKEY_Image_BitDepth, .ui4 header.bitDepth.toUInt32),
        (.PKEY_Image_Dimensions,
          .lpwstr (Shell.wide (toString header.width ++ "x" ++ toString header.height))),
        (.PKEY_Image_HorizontalSize, .ui4 header.width.toUInt32),
        (.PKEY_Image_VerticalSize, .ui4 header.height.toUInt32),
        (.PKEY_Image_Compression, .ui2 1)] := by
  simp only [initializeFromHeader, hstore, compressionProperties, hc, if_true,
    propvariantInitString, propvariantInitLpwstr, halloc, List.cons_append, List.nil_append]
  exact setProperties_of_nodup [(.PKEY_MIMEType, _), (.PKEY_Image_BitDepth, _),
    (.PKEY_Image_Dimensions, _), (.PKEY_Image_HorizontalSize, _), (.PKEY_Image_VerticalSize, _),
    (.PKEY_Image_Compression, _)] [] (by simp)

/-- With every call into Windows succeeding, any header fills the store, first with the MIME
type, the bit depth, the dimensions as text and the width and height as numbers, then with its
compression. -/
theorem initializeFromHeader_eq_ok {env : PropertyEnv} {header : FileHeader}
    (hstore : env.createStore = .ok ()) (halloc : ∀ n, env.alloc n = true) :
    ∃ rest, initializeFromHeader env header = .ok
      ([(.PKEY_MIMEType, .lpwstr (Shell.wide MIME_TYPE)),
        (.PKEY_Image_BitDepth, .ui4 header.bitDepth.toUInt32),
        (.PKEY_Image_Dimensions,
          .lpwstr (Shell.wide (toString header.width ++ "x" ++ toString header.height))),
        (.PKEY_Image_HorizontalSize, .ui4 header.width.toUInt32),
        (.PKEY_Image_VerticalSize, .ui4 header.height.toUInt32)] ++ rest) := by
  simp only [initializeFromHeader, hstore, compressionProperties, propvariantInitString,
    propvariantInitLpwstr, halloc, if_true, List.cons_append, List.nil_append]
  split_ifs
  · exact ⟨_, setProperties_of_nodup [(.PKEY_MIMEType, _), (.PKEY_Image_BitDepth, _),
      (.PKEY_Image_Dimensions, _), (.PKEY_Image_HorizontalSize, _), (.PKEY_Image_VerticalSize, _),
      (.PKEY_Image_Compression, _)] [] (by simp)⟩
  all_goals exact ⟨_, setProperties_of_nodup [(.PKEY_MIMEType, _), (.PKEY_Image_BitDepth, _),
    (.PKEY_Image_Dimensions, _), (.PKEY_Image_HorizontalSize, _), (.PKEY_Image_VerticalSize, _),
    (.PKEY_Image_Compression, _), (.PKEY_Image_CompressionText, _)] [] (by simp)⟩

/-- A handler initialized over the bytes a reachable frame's `Commit` wrote, wherever they
stand in its stream, with a mode without the `STGM_WRITE` bit and a Windows whose calls
succeed, returns `Ok` and reports the MIME type of BMX, the frame's bit depth, its
dimensions as text and as numbers, and no compression. -/
theorem commit_output_properties {s s' : Encoder.FrameEncoderData}
    {parent : Option Encoder.BitmapEncoderData} {wic : Wic} {out : List UInt8}
    (hs : Encoder.Reachable s) (hc : Encoder.commit s parent wic = .ok out s') (pre : List UInt8)
    {grfmode : UInt32} (hmode : grfmode.toNat % 2 = 0) {env : PropertyEnv}
    (hstore : env.createStore = .ok ()) (halloc : ∀ n, env.alloc n = true) :
    ∃ frame, s.header = some frame ∧
      initializeWithStream none (some ⟨pre ++ out, pre.length⟩) grfmode env = .ok ()
        (some ⟨[(.PKEY_MIMEType, .lpwstr (Shell.wide MIME_TYPE)),
          (.PKEY_Image_BitDepth, .ui4 frame.bitDepth.toUInt32),
          (.PKEY_Image_Dimensions,
            .lpwstr (Shell.wide (toString frame.width ++ "x" ++ toString frame.height))),
          (.PKEY_Image_HorizontalSize, .ui4 frame.width.toUInt32),
          (.PKEY_Image_VerticalSize, .ui4 frame.height.toUInt32),
          (.PKEY_Image_Compression, .ui2 1)]⟩) := by
  obtain ⟨frame, register, par, palette, pixels, hframe, -, -, -, -, -, -, hvalid, -, -, rfl⟩ :=
    Encoder.commit_eq_ok.mp hc
  have hstream : (fromStream ⟨pre ++ ((Encoder.completeHeader frame register
      palette.colors.length).memoryImage ++ Encoder.paletteBytes palette.colors ++ pixels),
      pre.length⟩).1 = .ok (Encoder.completeHeader frame register palette.colors.length) :=
    Decoder.fromStream_fst_of_fromBytes (by
      simp only [List.drop_left, Encoder.take_output]; exact FileHeader.fromBytes_memoryImage hvalid)
  have hcomp : (Encoder.completeHeader frame register palette.colors.length).compressed = 0 := by
    rw [Encoder.completeHeader_compressed, (hs.fieldsKept hframe).compressed]; rfl
  exact ⟨frame, hframe, initializeWithStream_ok hmode hstream
    (initializeFromHeader_uncompressed hstore halloc hcomp)⟩

theorem commit_output_properties_of_one_pixel_frame :
    let host : Encoder.Host :=
      ⟨some ⟨none⟩, ⟨.ok (), .ok (), .ok (), .ok (), .ok (), .error (.ofCode .E_UNEXPECTED)⟩⟩
    let env : PropertyEnv := ⟨.ok (), fun _ => true⟩
    ∃ r out s', Encoder.runOk host .new [.initializeFrame, .setSize 1 1,
        .setPixelFormat (some GUID_WICPixelFormat8bppIndexed),
        .setPalette (some ⟨[0xFF123456], by decide⟩), .writePixels 1 1 1 (some fun _ => 5)] =
        some r ∧
      Encoder.Reachable r.1 ∧ Encoder.commit r.1 host.parent host.wic = .ok out s' ∧
      (2 : UInt32).toNat % 2 = 0 ∧ env.createStore = .ok () ∧ (∀ n, env.alloc n = true) ∧
      ∃ frame, r.1.header = some frame ∧
        initializeWithStream none (some ⟨[] ++ out, 0⟩) 2 env = .ok ()
          (some ⟨[(.PKEY_MIMEType, .lpwstr (Shell.wide MIME_TYPE)),
            (.PKEY_Image_BitDepth, .ui4 frame.bitDepth.toUInt32),
            (.PKEY_Image_Dimensions,
              .lpwstr (Shell.wide (toString frame.width ++ "x" ++ toString frame.height))),
            (.PKEY_Image_HorizontalSize, .ui4 frame.width.toUInt32),
            (.PKEY_Image_VerticalSize, .ui4 frame.height.toUInt32),
            (.PKEY_Image_Compression, .ui2 1)]⟩) :=
  ⟨_, _, _, let hrun := rfl; let hc := rfl;
    ⟨hrun, Encoder.Reachable.new.runOk hrun, hc, rfl, rfl, fun _ => rfl,
      commit_output_properties (Encoder.Reachable.new.runOk hrun) hc [] (by decide) rfl
        fun _ => rfl⟩⟩

/-! Against the decoder. -/

/-- The handler and the decoder read one header through `from_stream`. Over every stream the
decoder's `Initialize` accepts, compressed or not, a handler initialized with a mode without
the `STGM_WRITE` bit and a Windows whose calls succeed returns `Ok`, and its horizontal and
vertical size and its bit depth are the size the frame's `GetSize` reports and the depth of
the pixel format its `GetPixelFormat` reports. -/
theorem initializeWithStream_agrees_with_decoder {s : Stream} {wic : Wic}
    {p : Decoder.BitmapDecoderData}
    (hd : Decoder.initializeDecoder none (some s) wic = .ok () (some p)) {grfmode : UInt32}
    (hmode : grfmode.toNat % 2 = 0) {env : PropertyEnv} (hstore : env.createStore = .ok ())
    (halloc : ∀ n, env.alloc n = true) :
    ∃ properties width height g d,
      initializeWithStream none (some s) grfmode env = .ok () (some ⟨properties⟩) ∧
      Decoder.getSize (some p) = .ok (width, height) ∧
      Decoder.getPixelFormat (some p) = .ok g ∧ pixelFormatToBitDepth g = some d ∧
      getValue (some ⟨properties⟩) .PKEY_Image_HorizontalSize = .ok (.ui4 width) ∧
      getValue (some ⟨properties⟩) .PKEY_Image_VerticalSize = .ok (.ui4 height) ∧
      getValue (some ⟨properties⟩) .PKEY_Image_BitDepth = .ok (.ui4 d.toUInt32) := by
  obtain ⟨-, _, ⟨⟩, hs, -⟩ := Decoder.initializeDecoder_ok_state hd
  obtain ⟨g, hg, hback⟩ := Decoder.getPixelFormat_of_validate (Decoder.validate_of_fromStream hs)
  obtain ⟨rest, hi⟩ := @initializeFromHeader_eq_ok env p.header hstore halloc
  exact ⟨_, _, _, g, _, initializeWithStream_ok hmode hs hi, rfl, hg, hback, rfl, rfl, rfl⟩

/-- A compressed image, opened read-write (`STGM_READWRITE`, 2). -/
theorem initializeWithStream_agrees_with_decoder_of_compressed_image :
    let s : Stream :=
      ⟨{ Decoder.indexed8Header 1 1 with compressed := 1 }.memoryImage ++ [0, 0, 0], 0⟩
    let env : PropertyEnv := ⟨.ok (), fun _ => true⟩
    ∃ p, Decoder.initializeDecoder none (some s)
        ⟨.ok (), .ok (), .ok (), .ok (), .ok (), .error (.ofCode .E_UNEXPECTED)⟩ = .ok () (some p) ∧
      (2 : UInt32).toNat % 2 = 0 ∧ env.createStore = .ok () ∧ (∀ n, env.alloc n = true) ∧
      ∃ properties width height g d,
        initializeWithStream none (some s) 2 env = .ok () (some ⟨properties⟩) ∧
        Decoder.getSize (some p) = .ok (width, height) ∧
        Decoder.getPixelFormat (some p) = .ok g ∧ pixelFormatToBitDepth g = some d ∧
        getValue (some ⟨properties⟩) .PKEY_Image_HorizontalSize = .ok (.ui4 width) ∧
        getValue (some ⟨properties⟩) .PKEY_Image_VerticalSize = .ok (.ui4 height) ∧
        getValue (some ⟨properties⟩) .PKEY_Image_BitDepth = .ok (.ui4 d.toUInt32) :=
  ⟨_, let h := rfl;
    ⟨h, rfl, rfl, fun _ => rfl, initializeWithStream_agrees_with_decoder h (by decide) rfl
      fun _ => rfl⟩⟩

end BmxShell.PropertyStore
