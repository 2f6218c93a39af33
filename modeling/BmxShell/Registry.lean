import BmxShell.PropertyStore
import BmxShell.Guid

/-!
Registration of `registry.rs`. `register_server` and `unregister_server` run a fixed sequence
of registry calls in one kernel transaction, which `Transaction::commit` applies at the end;
any call that fails returns through `?`, the transaction is dropped uncommitted and rolled
back, and the registry stays as it was. Two calls of `register_com_extension` have their
results dropped, so an error ends only that call. The registry is modelled as the keys that
exist, each with the options it was created with, and the values under each key.

Unregistration does not undo registration: `register_server` writes the `.bmx` kind under
`CurrentVersion\Explorer\KindMap`, while `unregister_server` deletes it from
`CurrentVersion\KindMap`, and nothing removes the transcode command's keys. Everything else
of the handler's own keys is gone after every unregistration. The detection pattern
registered for the decoder is the first four bytes of every header `from_bytes` accepts.
-/

namespace BmxShell.Registration

open Bmx

/-- `E_BLUETOOTH_ATT_ATTRIBUTE_NOT_FOUND`, the error of a module path without its NUL. -/
def E_BLUETOOTH_ATT_ATTRIBUTE_NOT_FOUND : Hresult := .other 0x8065000A

/-- `ERROR_FILE_NOT_FOUND` as an `HRESULT`. -/
def ERROR_FILE_NOT_FOUND : Hresult := .other 0x80070002

def HKEY_CLASSES_ROOT : String := "HKEY_CLASSES_ROOT"

def HKEY_LOCAL_MACHINE : String := "HKEY_LOCAL_MACHINE"

/-! GUIDs and the classes. -/

/-- The name a `PCWSTR` over `to_wide` reads: the printed GUID, up to its NUL. -/
def guidName (g : Guid) : String := String.mk (GuidWrapper.fmt g)

/-- `GuidExt::to_wide`: the printed GUID and its NUL, one code unit a byte. -/
def guidWide (g : Guid) : List UInt16 := (asciiBytes (GuidWrapper.fmt g) ++ [0]).map UInt8.toUInt16

structure CoClass where
  CLSID : Guid
  PROG_ID : String
  VERSION_INDEPENDENT_PROG_ID : String

/-- `BitmapDecoder`'s `CoClass`, `from_str("5c8a66da-1c32-4d8e-8ead-c579214a6522")`. -/
def BitmapDecoder : CoClass :=
  ⟨⟨0x5c8a66da, 0x1c32, 0x4d8e, ![0x8e, 0xad, 0xc5, 0x79, 0x21, 0x4a, 0x65, 0x22]⟩,
    "X16BMX.BMXDecoder.1", "X16BMX.BMXDecoder"⟩

example : Guid.fromStr (asciiBytes "5c8a66da-1c32-4d8e-8ead-c579214a6522".toList) =
    .ok BitmapDecoder.CLSID := by
  decide

/-- `BitmapEncoder`'s `CoClass`, `from_str("9d718e6d-4c95-4dc9-abd1-156a50488ebd")`. -/
def BitmapEncoder : CoClass :=
  ⟨⟨0x9d718e6d, 0x4c95, 0x4dc9, ![0xab, 0xd1, 0x15, 0x6a, 0x50, 0x48, 0x8e, 0xbd]⟩,
    "X16BMX.BMXEncoder.1", "X16BMX.BMXEncoder"⟩

/-- `PropertyStore`'s `CoClass`, `from_str("04f579e2-ace3-481c-81ee-f153ffd42551")`. -/
def PropertyStore : CoClass :=
  ⟨⟨0x04f579e2, 0xace3, 0x481c, ![0x81, 0xee, 0xf1, 0x53, 0xff, 0xd4, 0x25, 0x51]⟩,
    "X16BMX.PropertyStore.1", "X16BMX.PropertyStore"⟩

/-- `Transcode`'s `CoClass`, `from_u128(0xbe8b5162_693a_4d66_9efb_01ea923c1f4d)`. -/
def Transcode : CoClass :=
  ⟨⟨0xbe8b5162, 0x693a, 0x4d66, ![0x9e, 0xfb, 0x01, 0xea, 0x92, 0x3c, 0x1f, 0x4d]⟩,
    "X16BMX.Transcode.1", "X16BMX.Transcode"⟩

def CONTAINER_FORMAT : Guid :=
  ⟨0x858f0257, 0x3fa7, 0x4014, ![0xbc, 0xfa, 0x3c, 0x03, 0x3a, 0x0c, 0xab, 0x52]⟩

def VENDOR : Guid :=
  ⟨0x9cac5e90, 0xf9e5, 0x4870, ![0xac, 0x97, 0x9f, 0xef, 0x9a, 0x3c, 0xee, 0x41]⟩

def PROG_ID : String := "bmxfile"

def EXTENSION : String := ".bmx"

def PREVIEW_DETAILS : String :=
  "prop:System.Image.Dimensions;System.Image.BitDepth;System.Image.Compression"

def CATID_WICBitmapDecoders : Guid :=
  ⟨0x7ed96837, 0x96f0, 0x4812, ![0xb2, 0x11, 0xf1, 0x3c, 0x24, 0x11, 0x7e, 0xd3]⟩

def CATID_WICBitmapEncoders : Guid :=
  ⟨0xac757296, 0x3522, 0x4e11, ![0x98, 0x62, 0xc1, 0x7b, 0xe5, 0xa1, 0x76, 0x7e]⟩

def IThumbnailProvider_IID : Guid :=
  ⟨0xe357fccd, 0xa995, 0x4576, ![0xb0, 0x1f, 0x23, 0x46, 0x30, 0x15, 0x4e, 0x96]⟩

/-! The registry. -/

/-- A key: the names from a predefined key down. The code writes each name the same way
wherever it uses it, so comparing names as written agrees with the registry's comparison,
which ignores case. -/
abbrev KeyPath := List String

inductive RegValueType
  | REG_SZ
  | REG_EXPAND_SZ
  | REG_DWORD
  | REG_BINARY
deriving DecidableEq

/-- The data `RegSetValueExW` is given: a slice of `u16` or of `u8`. -/
inductive RegData
  | units (data : List UInt16)
  | bytes (data : List UInt8)
deriving DecidableEq

structure RegValue where
  valueType : RegValueType
  data : RegData
deriving DecidableEq

/-- `REG_OPTION_VOLATILE` or `REG_OPTION_NON_VOLATILE`: a volatile key does not survive a
restart. -/
inductive KeyOptions
  | volatile
  | nonVolatile
deriving DecidableEq

/-- The registry: the keys that exist, with the options each was created with, and the
values under each key by name. A null value name is the default value, `""`. -/
structure Registry where
  key : KeyPath → Option KeyOptions
  value : KeyPath → String → Option RegValue

/-- A registry call, on the key at its path. -/
inductive RegOp
  /-- `RegCreateKeyTransactedW`: the key and every missing key above it. -/
  | createKey (path : KeyPath)
  /-- `RegOpenKeyTransactedW`. -/
  | openKey (path : KeyPath)
  /-- `RegSetValueExW`. -/
  | setValue (path : KeyPath) (name : String) (value : RegValue)
  /-- `RegSetValueExW` of a `REG_SZ` holding the module path up to its first NUL: what
  `set_pcwstr` writes from a `PCWSTR` over the path `register_server` was given. -/
  | setModulePath (path : KeyPath) (name : String)
  /-- `RegDeleteTreeW`: the key and everything below it. -/
  | deleteTree (path : KeyPath)
  /-- `RegDeleteValueW`. -/
  | deleteValue (path : KeyPath) (name : String)

/-- The registry with the value `name` under `path` set. -/
def Registry.setValue (r : Registry) (path : KeyPath) (name : String) (value : RegValue) :
    Registry :=
  { r with value := fun k n => if k = path ∧ n = name then some value else r.value k n }

namespace RegOp

/-- What a call that succeeds does to the registry; `options` are the transaction's and
`modulePath` the path `register_server` was given. -/
def apply (options : KeyOptions) (modulePath : List UInt16) (r : Registry) : RegOp → Registry
  | .createKey path =>
    { r with key := fun k =>
        match r.key k with
        | some o => some o
        | none => if k ≠ [] ∧ k.isPrefixOf path = true then some options else none }
  | .openKey _ => r
  | .setValue path name value => r.setValue path name value
  | .setModulePath path name => r.setValue path name ⟨.REG_SZ, .units (modulePath.takeWhile (· != 0))⟩
  | .deleteTree path =>
    { key := fun k => if path.isPrefixOf k = true then none else r.key k
      value := fun k n => if path.isPrefixOf k = true then none else r.value k n }
  | .deleteValue path name =>
    { r with value := fun k n => if k = path ∧ n = name then none else r.value k n }

/-- Whether the call can change the value `name` under the key `k`. -/
def touchesValue (k : KeyPath) (name : String) : RegOp → Bool
  | .setValue path n _ => path == k && n == name
  | .setModulePath path n => path == k && n == name
  | .deleteValue path n => path == k && n == name
  | .deleteTree path => path.isPrefixOf k
  | _ => false

/-- Whether the call can delete the key `k`. -/
def deletesKey (k : KeyPath) : RegOp → Bool
  | .deleteTree path => path.isPrefixOf k
  | _ => false

/-- Whether the call can create the key `k` or a key below it. -/
def createsBelow (k : KeyPath) : RegOp → Bool
  | .createKey path => k.isPrefixOf path
  | _ => false

end RegOp

/-- What the registry calls and the transaction answer. A call on a key that does not exist
is the registry's own answer; `call` is every other failure, such as access denied. -/
structure RegEnv where
  createTransaction : Except ComError Unit
  /-- `get_this_module_path`: the module's path, with its NUL. -/
  modulePath : Except ComError (List UInt16)
  /-- What the registry answers a call, other than for a key that does not exist. -/
  call : RegOp → Except ComError Unit
  commitTransaction : Except ComError Unit

/-- One call. Opening a key that does not exist fails with `ERROR_FILE_NOT_FOUND`; deleting
one does not, as `delete_tree_internal` and `delete_value` take that error for success. -/
def applyOp (env : RegEnv) (options : KeyOptions) (modulePath : List UInt16) (r : Registry)
    (op : RegOp) : Except ComError Registry :=
  match op with
  | .openKey path =>
    if r.key path = none then .error (.ofCode ERROR_FILE_NOT_FOUND)
    else (env.call op).map fun () => r
  | _ => (env.call op).map fun () => op.apply options modulePath r

/-- Calls in turn, up to the first that fails; the registry as the ones before it left it. -/
def runDropped (env : RegEnv) (options : KeyOptions) (modulePath : List UInt16) :
    List RegOp → Registry → Registry
  | [], r => r
  | op :: ops, r =>
    match applyOp env options modulePath r op with
    | .error _ => r
    | .ok r' => runDropped env options modulePath ops r'

/-- A statement of `register_server` or `unregister_server`: a call whose error returns
through `?`, or a `register_com_extension` whose result is dropped. -/
inductive Stmt
  | call (op : RegOp)
  | dropped (ops : List RegOp)

/-- The calls a statement can make. -/
def Stmt.ops : Stmt → List RegOp
  | .call op => [op]
  | .dropped ops => ops

/-- Statements in turn, returning the first error. -/
def runStmts (env : RegEnv) (options : KeyOptions) (modulePath : List UInt16) :
    List Stmt → Registry → Except ComError Registry
  | [], r => .ok r
  | .call op :: rest, r =>
    match applyOp env options modulePath r op with
    | .error e => .error e
    | .ok r' => runStmts env options modulePath rest r'
  | .dropped ops :: rest, r =>
    runStmts env options modulePath rest (runDropped env options modulePath ops r)

/-- Calls whose errors all return through `?`. -/
def calls (ops : List RegOp) : List Stmt := ops.map .call

/-! The `Key` methods. -/

/-- A key under `HKEY_CLASSES_ROOT`. -/
def hkcr (names : List String) : KeyPath := HKEY_CLASSES_ROOT :: names

/-- A key under `HKEY_LOCAL_MACHINE`. -/
def hklm (names : List String) : KeyPath := HKEY_LOCAL_MACHINE :: names

/-- `Key::predefined`: it calls `RegCreateKeyTransactedW` twice, and keeps the second. -/
def predefined (path : KeyPath) : List RegOp := [.createKey path, .createKey path]

/-- `Key::set_pcwstr`: a `REG_SZ` of the text's code units, without its NUL (`as_wide`). -/
def setPcwstr (path : KeyPath) (name value : String) : RegOp :=
  .setValue path name ⟨.REG_SZ, .units (Shell.wide value)⟩

def setPcwstrExpand (path : KeyPath) (name value : String) : RegOp :=
  .setValue path name ⟨.REG_EXPAND_SZ, .units (Shell.wide value)⟩

/-- `Key::set_guid`: a `REG_SZ` of the 39 code units of `to_wide`, its NUL included. -/
def setGuid (path : KeyPath) (name : String) (g : Guid) : RegOp :=
  .setValue path name ⟨.REG_SZ, .units (guidWide g)⟩

/-- `Key::set_u32`: a `REG_DWORD` of `to_le_bytes`. -/
def setU32 (path : KeyPath) (name : String) (value : UInt32) : RegOp :=
  .setValue path name
    ⟨.REG_DWORD, .bytes [value.toUInt8, (value >>> 8).toUInt8, (value >>> 16).toUInt8,
      (value >>> 24).toUInt8]⟩

def setBinary (path : KeyPath) (name : String) (value : List UInt8) : RegOp :=
  .setValue path name ⟨.REG_BINARY, .bytes value⟩

/-! `register_server`. -/

/-- `register_com_extension`: the class's key under `CLSID`, with its description, ProgIDs,
server and threading model, and the two ProgID keys pointing back at it. -/
def registerComExtension (T : CoClass) (description apartmentType : String) : List RegOp :=
  let comObject := hkcr ["CLSID", guidName T.CLSID]
  [.createKey (hkcr ["CLSID"]), .createKey comObject,
    setPcwstr comObject "" description,
    .createKey (comObject ++ ["ProgId"]),
    setPcwstr (comObject ++ ["ProgId"]) "" T.PROG_ID,
    .createKey (comObject ++ ["VersionIndependentProgId"]),
    setPcwstr (comObject ++ ["VersionIndependentProgId"]) "" T.VERSION_INDEPENDENT_PROG_ID,
    .createKey (comObject ++ ["InprocServer32"]),
    .setModulePath (comObject ++ ["InprocServer32"]) "",
    setPcwstr (comObject ++ ["InprocServer32"]) "ThreadingModel" apartmentType,
    .createKey (hkcr [T.PROG_ID]), .createKey (hkcr [T.PROG_ID, "CLSID"]),
    setGuid (hkcr [T.PROG_ID, "CLSID"]) "" T.CLSID,
    .createKey (hkcr [T.VERSION_INDEPENDENT_PROG_ID]),
    .createKey (hkcr [T.VERSION_INDEPENDENT_PROG_ID, "CLSID"]),
    setGuid (hkcr [T.VERSION_INDEPENDENT_PROG_ID, "CLSID"]) "" T.CLSID]

/-- The first block: the `bmxfile` ProgID, its verbs and its thumbnail handler. -/
def progIdStmts : List Stmt :=
  let progId := hkcr [PROG_ID]
  let shell := progId ++ ["shell"]
  let thumbnailProvider := progId ++ ["ShellEx", guidName IThumbnailProvider_IID]
  calls [.createKey progId, setPcwstr progId "" "BMX File",
    .createKey (progId ++ ["DropTarget"]),
    setPcwstr (progId ++ ["DropTarget"]) "" "\x7bFFE2A43C-56B9-4bf5-9A79-CC6D4285608A\x7d",
    .createKey shell,
    .createKey (shell ++ ["open"]),
    setPcwstrExpand (shell ++ ["open"]) "MuiVerb"
      "@%PROGRAMFILES%\\Windows Photo Viewer\\photoviewer.dll,-3043",
    .createKey (shell ++ ["open", "command"]),
    setPcwstrExpand (shell ++ ["open", "command"]) ""
      "%SystemRoot%\\System32\\rundll32.exe \"%ProgramFiles%\\Windows Photo Viewer\\PhotoViewer.dll\", ImageView_Fullscreen %1",
    .createKey (shell ++ ["printto"]),
    .createKey (shell ++ ["printto", "command"]),
    setPcwstrExpand (shell ++ ["printto", "command"]) "Name"
      "%SystemRoot%\\System32\\rundll32.exe \"%SystemRoot%\\System32\\shimgvw.dll\", ImageView_PrintTo /pt \"%1\" \"%2\" \"%3\" \"%4\"",
    .createKey (progId ++ ["ShellEx"]),
    .createKey thumbnailProvider,
    setPcwstr thumbnailProvider "" "\x7bC7657C4A-9F68-40fa-A4DF-96BC08EB3551\x7d"]

/-- The pixel formats both codecs list under `Formats`. -/
def formatKeys (codec : KeyPath) : List RegOp :=
  [.createKey (codec ++ ["Formats"]),
    .createKey (codec ++ ["Formats", guidName GUID_WICPixelFormat1bppIndexed]),
    .createKey (codec ++ ["Formats", guidName GUID_WICPixelFormat2bppIndexed]),
    .createKey (codec ++ ["Formats", guidName GUID_WICPixelFormat4bppIndexed]),
    .createKey (codec ++ ["Formats", guidName GUID_WICPixelFormat8bppIndexed])]

/-- The WIC codec values both codecs set, with their name. -/
def codecValues (codec : KeyPath) (name : String) : List RegOp :=
  [setPcwstr codec "Author" "Fulgen", setGuid codec "ContainerFormat" CONTAINER_FORMAT,
    setPcwstr codec "Description" name, setPcwstr codec "FileExtensions" EXTENSION,
    setPcwstr codec "FriendlyName" name, setPcwstr codec "MimeTypes" PropertyStore.MIME_TYPE,
    setU32 codec "SupportLossless" 1, setGuid codec "VendorGUID" VENDOR]

/-- The key of the decoder's detection pattern. -/
def patternKey : KeyPath := hkcr ["CLSID", guidName BitmapDecoder.CLSID, "Patterns", "0"]

/-- The second block: the decoder's class, its WIC values, formats and detection pattern. -/
def decoderStmts : List Stmt :=
  let decoder := hkcr ["CLSID", guidName BitmapDecoder.CLSID]
  calls (registerComExtension BitmapDecoder "BMX File" "Both" ++
    codecValues decoder "BMX Decoder" ++ formatKeys decoder ++
    [.createKey (decoder ++ ["Patterns"]), .createKey patternKey,
      setU32 patternKey "Position" 0, setBinary patternKey "Pattern" [0x42, 0x4D, 0x58, 0x01],
      setBinary patternKey "Mask" [0xFF, 0xFF, 0xFF, 0xFF], setU32 patternKey "Length" 4])

/-- A codec's entry under its WIC category's `Instance` key. -/
def categoryStmts (category : Guid) (T : CoClass) (name : String) : List Stmt :=
  let entry := hkcr ["CLSID", guidName category, "Instance", guidName T.CLSID]
  calls [.createKey (hkcr ["CLSID"]), .createKey (hkcr ["CLSID", guidName category]),
    .createKey (hkcr ["CLSID", guidName category, "Instance"]), .createKey entry,
    setGuid entry "CLSID" T.CLSID, setPcwstr entry "FriendlyName" name]

/-- The fourth block: the encoder's class, its WIC values and formats. -/
def encoderStmts : List Stmt :=
  let encoder := hkcr ["CLSID", guidName BitmapEncoder.CLSID]
  calls (registerComExtension BitmapEncoder "BMX File" "Both" ++
    codecValues encoder "BMX Encoder" ++ formatKeys encoder)

/-- The sixth block: the `.bmx` extension. -/
def extensionStmts : List Stmt :=
  let bmx := hkcr [EXTENSION]
  calls [.createKey bmx, setPcwstr bmx "" PROG_ID,
    setPcwstr bmx "Content Type" PropertyStore.MIME_TYPE, setPcwstr bmx "PerceivedType" "image",
    .createKey (bmx ++ ["OpenWithList"]), .createKey (bmx ++ ["OpenWithList", "PhotoViewer.dll"])]

/-- The seventh block: the extension's system file associations. -/
def systemFileAssociationsStmts : List Stmt :=
  let bmx := hkcr ["SystemFileAssociations", EXTENSION]
  let thumbnailProvider := bmx ++ ["ShellEx", guidName IThumbnailProvider_IID]
  calls [.createKey (hkcr ["SystemFileAssociations"]), .createKey bmx,
    setPcwstr bmx "PreviewDetails" PREVIEW_DETAILS,
    .createKey (bmx ++ ["OpenWithList"]), .createKey (bmx ++ ["OpenWithList", "PhotoViewer.dll"]),
    .createKey (bmx ++ ["ShellEx"]), .createKey thumbnailProvider,
    setPcwstr thumbnailProvider "" "\x7bC7657C4A-9F68-40fa-A4DF-96BC08EB3551\x7d",
    .createKey (bmx ++ ["ContextMenuHandlers"]),
    .createKey (bmx ++ ["ContextMenuHandlers", "ShellImagePreview"]),
    setPcwstr (bmx ++ ["ContextMenuHandlers", "ShellImagePreview"]) ""
      "\x7bFFE2A43C-56B9-4bf5-9A79-CC6D4285608A\x7d"]

def currentVersion : KeyPath := hklm ["Software", "Microsoft", "Windows", "CurrentVersion"]

/-- The key `register_server` writes the kind under: `Explorer\KindMap` below it. -/
def kindMapKey : KeyPath := currentVersion ++ ["Explorer", "KindMap"]

/-- The eighth block: the extension's kind. -/
def kindMapStmts : List Stmt :=
  calls (predefined currentVersion ++
    [.createKey kindMapKey, setPcwstr kindMapKey EXTENSION "Picture"])

/-- `PropertySystem\PropertyHandlers` below `CurrentVersion`. -/
def propertyHandlers : KeyPath := currentVersion ++ ["PropertySystem", "PropertyHandlers"]

/-- The ninth block: the property store's class, its result dropped, and its handler entry. -/
def propertyStoreStmts : List Stmt :=
  .dropped (registerComExtension PropertyStore "BMXPropertyStore" "Both") ::
    calls (predefined propertyHandlers ++
      [.createKey (propertyHandlers ++ [EXTENSION]),
        setGuid (propertyHandlers ++ [EXTENSION]) "" PropertyStore.CLSID])

/-- The key of the transcode command on every file. -/
def transcodeVerbKey : KeyPath := hkcr ["*", "shell", "Transcode"]

/-- The tenth block: the transcode command's class, its result dropped, and its verb. -/
def transcodeStmts : List Stmt :=
  .dropped (registerComExtension Transcode "Transcode" "Both") ::
    calls [.createKey (hkcr ["*"]), .createKey (hkcr ["*", "shell"]), .createKey transcodeVerbKey,
      setGuid transcodeVerbKey "ExplorerCommandHandler" Transcode.CLSID]

/-- The statements of `register_server`, block by block. -/
def registerStmts : List Stmt :=
  progIdStmts ++ decoderStmts ++ categoryStmts CATID_WICBitmapDecoders BitmapDecoder "BMX Decoder" ++
    encoderStmts ++ categoryStmts CATID_WICBitmapEncoders BitmapEncoder "BMX Encoder" ++
    extensionStmts ++ systemFileAssociationsStmts ++ kindMapStmts ++ propertyStoreStmts ++
    transcodeStmts

/-- `NullTerminatedSlice::new`, its error mapped as `register_server` maps it. -/
def nullTerminatedSlice (slice : List UInt16) : Except ComError (List UInt16) :=
  if slice.getLast? ≠ some 0 then .error (.ofCode E_BLUETOOTH_ATT_ATTRIBUTE_NOT_FOUND)
  else .ok slice

/-- `register_server`: the registry after the transaction commits. An error leaves the
registry as it was: the transaction is rolled back. -/
def registerServer (env : RegEnv) (options : KeyOptions) (r : Registry)
    (modulePath : List UInt16) : Except ComError Registry :=
  match nullTerminatedSlice modulePath with
  | .error e => .error e
  | .ok modulePath =>
  match runStmts env options modulePath registerStmts r with
  | .error e => .error e
  | .ok r' => env.commitTransaction.map fun () => r'

/-! `unregister_server`. -/

/-- `unregister_com_extension`: the class's key, found through the path `CLSID\{clsid}`, and
its two ProgID keys. -/
def unregisterComExtension (T : CoClass) : List RegOp :=
  [.deleteTree (hkcr ["CLSID", guidName T.CLSID]), .deleteTree (hkcr [T.PROG_ID]),
    .deleteTree (hkcr [T.VERSION_INDEPENDENT_PROG_ID])]

/-- A codec's entry under its WIC category, through keys that must exist. -/
def unregisterCategory (category : Guid) (T : CoClass) : List RegOp :=
  [.openKey (hkcr ["CLSID", guidName category]),
    .openKey (hkcr ["CLSID", guidName category, "Instance"]),
    .deleteTree (hkcr ["CLSID", guidName category, "Instance", guidName T.CLSID])]

/-- The key `unregister_server` deletes the kind from: `KindMap` right below
`CurrentVersion`, which `Key::predefined` creates. -/
def unregisterKindMapKey : KeyPath := currentVersion ++ ["KindMap"]

/-- The statements of `unregister_server`. -/
def unregisterStmts : List Stmt :=
  calls ([.deleteTree (hkcr [PROG_ID])] ++ unregisterComExtension BitmapDecoder ++
    unregisterComExtension BitmapEncoder ++ unregisterComExtension PropertyStore ++
    [.openKey (hkcr ["CLSID"])] ++ unregisterCategory CATID_WICBitmapDecoders BitmapDecoder ++
    unregisterCategory CATID_WICBitmapEncoders BitmapEncoder ++
    [.deleteTree (hkcr [EXTENSION]), .openKey (hkcr ["SystemFileAssociations"]),
      .deleteTree (hkcr ["SystemFileAssociations", EXTENSION])] ++
    predefined unregisterKindMapKey ++ [.deleteValue unregisterKindMapKey EXTENSION] ++
    predefined propertyHandlers ++ [.deleteTree (propertyHandlers ++ [EXTENSION])])

/-- `unregister_server`. It writes no value, so no module path is given to its calls. -/
def unregisterServer (env : RegEnv) (options : KeyOptions) (r : Registry) :
    Except ComError Registry :=
  match runStmts env options [] unregisterStmts r with
  | .error e => .error e
  | .ok r' => env.commitTransaction.map fun () => r'

/-! What the calls do. -/

def Registry.empty : Registry := ⟨fun _ => none, fun _ _ => none⟩

/-- No key at or below `p` exists. -/
def Registry.Cleared (r : Registry) (p : KeyPath) : Prop :=
  ∀ k, p.isPrefixOf k = true → r.key k = none

/-- Whether no call of the statements can change the value `name` under `k`. -/
def untouched (k : KeyPath) (name : String) (stmts : List Stmt) : Bool :=
  stmts.all fun s => s.ops.all fun op => !op.touchesValue k name

/-- Whether no call of the statements can delete the key `k`. -/
def undeleted (k : KeyPath) (stmts : List Stmt) : Bool :=
  stmts.all fun s => s.ops.all fun op => !op.deletesKey k

/-- Whether no call of the statements can create a key at or below `p`. -/
def uncreated (p : KeyPath) (stmts : List Stmt) : Bool :=
  stmts.all fun s => s.ops.all fun op => !op.createsBelow p

/-- Whether a call of the statements deletes the tree at `p`, and none after it can create a
key there. -/
def clearsTree (p : KeyPath) : List Stmt → Bool
  | [] => false
  | s :: rest =>
    (match s with
      | .call (.deleteTree q) => q == p && uncreated p rest
      | _ => false) || clearsTree p rest

/-- Whether a call of the statements sets the value `name` under `k` to `v`, and none after
it can change that value. -/
def setsValue (k : KeyPath) (name : String) (v : RegValue) : List Stmt → Bool
  | [] => false
  | s :: rest =>
    (match s with
      | .call (.setValue path n v') => path == k && n == name && v' == v && untouched k name rest
      | _ => false) || setsValue k name v rest

/-- Whether a call of the statements creates the key `k`, and none after it can delete it. -/
def createsKey (k : KeyPath) : List Stmt → Bool
  | [] => false
  | s :: rest =>
    (match s with
      | .call (.createKey path) => k != [] && k.isPrefixOf path && undeleted k rest
      | _ => false) || createsKey k rest

/-- A call answering `Ok` gives the registry it was mapped to. -/
theorem map_const_eq_ok {x : Except ComError Unit} {r₀ r' : Registry}
    (h : (x.map fun () => r₀) = .ok r') : r' = r₀ := by
  cases x with
  | error e => cases h
  | ok u => cases h; rfl

theorem applyOp_eq_ok {env : RegEnv} {options : KeyOptions} {modulePath : List UInt16}
    {r r' : Registry} {op : RegOp} (h : applyOp env options modulePath r op = .ok r') :
    r' = op.apply options modulePath r := by
  unfold applyOp at h
  split at h
  · split at h
    · cases h
    · exact map_const_eq_ok h
  · exact map_const_eq_ok h

theorem Registry.setValue_value_of_ne (r : Registry) {path k : KeyPath} {n name : String}
    (v : RegValue) (ht : (path == k && n == name) = false) :
    (r.setValue path n v).value k name = r.value k name := by
  simp only [Bool.and_eq_false_iff, beq_eq_false_iff_ne, ne_eq] at ht
  exact if_neg fun ⟨h₁, h₂⟩ => ht.elim (· h₁.symm) (· h₂.symm)

theorem RegOp.apply_value (op : RegOp) (options : KeyOptions) (modulePath : List UInt16)
    (r : Registry) {k : KeyPath} {name : String} (ht : op.touchesValue k name = false) :
    (op.apply options modulePath r).value k name = r.value k name := by
  cases op with
  | setValue path n v => exact r.setValue_value_of_ne v ht
  | setModulePath path n => exact r.setValue_value_of_ne _ ht
  | deleteValue path n =>
    simp only [touchesValue, Bool.and_eq_false_iff, beq_eq_false_iff_ne, ne_eq] at ht
    exact if_neg fun ⟨h₁, h₂⟩ => ht.elim (· h₁.symm) (· h₂.symm)
  | deleteTree path => exact if_neg (ne_true_of_eq_false ht)
  | createKey _ => rfl
  | openKey _ => rfl

/-- A created key keeps the options it was first created with. -/
theorem RegOp.apply_createKey_of_some {options : KeyOptions} {modulePath : List UInt16}
    {r : Registry} {path k : KeyPath} {o : KeyOptions} (hk : r.key k = some o) :
    ((RegOp.createKey path).apply options modulePath r).key k = some o := by
  simp only [apply, hk]

theorem RegOp.apply_key_ne_none (op : RegOp) (options : KeyOptions) (modulePath : List UInt16)
    {r : Registry} {k : KeyPath} (hd : op.deletesKey k = false) (hk : r.key k ≠ none) :
    (op.apply options modulePath r).key k ≠ none := by
  cases op with
  | createKey path =>
    obtain ⟨o, ho⟩ := Option.ne_none_iff_exists'.mp hk
    exact (apply_createKey_of_some ho).trans_ne (Option.some_ne_none o)
  | deleteTree path => exact (if_neg (ne_true_of_eq_false hd)).trans_ne hk
  | openKey _ => exact hk
  | setValue _ _ _ => exact hk
  | setModulePath _ _ => exact hk
  | deleteValue _ _ => exact hk

theorem RegOp.apply_cleared (op : RegOp) (options : KeyOptions) (modulePath : List UInt16)
    {r : Registry} {p : KeyPath} (hc : op.createsBelow p = false) (hr : r.Cleared p) :
    (op.apply options modulePath r).Cleared p := by
  intro k hk
  cases op with
  | createKey path =>
    simp only [apply, hr k hk]
    refine if_neg fun ⟨_, hkp⟩ => ?_
    rw [List.isPrefixOf_iff_prefix] at hk hkp
    simp only [createsBelow, Bool.eq_false_iff, ne_eq, List.isPrefixOf_iff_prefix] at hc
    exact hc (hk.trans hkp)
  | deleteTree path =>
    show (if _ then _ else _) = none
    split_ifs
    exacts [rfl, hr k hk]
  | openKey _ => exact hr k hk
  | setValue _ _ _ => exact hr k hk
  | setModulePath _ _ => exact hr k hk
  | deleteValue _ _ => exact hr k hk

/-- The tree a deleting call removes is gone. -/
theorem applyOp_deleteTree_cleared {env : RegEnv} {options : KeyOptions} {modulePath : List UInt16}
    {r r' : Registry} {p : KeyPath} (h : applyOp env options modulePath r (.deleteTree p) = .ok r') :
    r'.Cleared p := by
  rw [applyOp_eq_ok h]
  intro k hk
  exact if_pos hk

section Runs

variable {env : RegEnv} {options : KeyOptions} {modulePath : List UInt16}

theorem runStmts_cons_call {op : RegOp} {rest : List Stmt} {r r' : Registry}
    (h : runStmts env options modulePath (.call op :: rest) r = .ok r') :
    ∃ r₀, applyOp env options modulePath r op = .ok r₀ ∧
      runStmts env options modulePath rest r₀ = .ok r' := by
  simp only [runStmts] at h
  cases ho : applyOp env options modulePath r op
  · simp only [ho, reduceCtorEq] at h
  · simp only [ho] at h
    exact ⟨_, rfl, h⟩

theorem runDropped_preserves {P : Registry → Prop} (ops : List RegOp) {r : Registry}
    (hstep : ∀ op ∈ ops, ∀ r, P r → P (op.apply options modulePath r)) (hr : P r) :
    P (runDropped env options modulePath ops r) := by
  induction ops generalizing r with
  | nil => exact hr
  | cons op ops ih =>
    simp only [runDropped]
    split
    · exact hr
    · rename_i r' h
      refine ih (fun o ho => hstep o (List.mem_cons_of_mem _ ho)) ?_
      exact applyOp_eq_ok h ▸ hstep op (List.mem_cons_self _ _) r hr

/-- What every call of the statements keeps holds after a run of them that returns `Ok`,
also across the calls of a statement whose result is dropped. -/
theorem runStmts_preserves {P : Registry → Prop} {stmts : List Stmt} {r r' : Registry}
    (h : runStmts env options modulePath stmts r = .ok r')
    (hstep : ∀ s ∈ stmts, ∀ op ∈ s.ops, ∀ r, P r → P (op.apply options modulePath r))
    (hr : P r) : P r' := by
  induction stmts generalizing r with
  | nil => cases h; exact hr
  | cons s rest ih =>
    have hrest := fun s' hs' => hstep s' (List.mem_cons_of_mem s hs')
    cases s with
    | call op =>
      obtain ⟨r₀, ho, hrun⟩ := runStmts_cons_call h
      exact ih hrun hrest (applyOp_eq_ok ho ▸ hstep _ (List.mem_cons_self _ _) op
        (List.mem_singleton_self op) r hr)
    | dropped ops =>
      exact ih h hrest (runDropped_preserves ops (hstep _ (List.mem_cons_self _ _)) hr)

/-- A check `stmts.all fun s => s.ops.all fun op => !f op` rules out `f` on every call. -/
theorem eq_false_of_all_ops {f : RegOp → Bool} {stmts : List Stmt}
    (h : (stmts.all fun s => s.ops.all fun op => !f op) = true) {s : Stmt} (hs : s ∈ stmts)
    {op : RegOp} (hop : op ∈ s.ops) : f op = false := by
  simpa using List.all_eq_true.mp (List.all_eq_true.mp h s hs) op hop

/-- Statements that cannot change a value leave it as it was. -/
theorem runStmts_value {k : KeyPath} {name : String} {stmts : List Stmt} {r r' : Registry}
    (h : runStmts env options modulePath stmts r = .ok r') (ht : untouched k name stmts = true) :
    r'.value k name = r.value k name :=
  runStmts_preserves (P := fun r₁ => r₁.value k name = r.value k name) h
    (fun _ hs op hop _ h₁ => (op.apply_value _ _ _ (eq_false_of_all_ops ht hs hop)).trans h₁) rfl

/-- A value set by a call that no later call can change holds what was set. -/
theorem runStmts_setsValue {k : KeyPath} {name : String} {v : RegValue} {stmts : List Stmt}
    {r r' : Registry} (h : runStmts env options modulePath stmts r = .ok r')
    (hs : setsValue k name v stmts = true) : r'.value k name = some v := by
  induction stmts generalizing r with
  | nil => cases hs
  | cons s rest ih =>
    simp only [setsValue, Bool.or_eq_true] at hs
    cases s with
    | call op =>
      obtain ⟨r₀, ho, hrest⟩ := runStmts_cons_call h
      rcases hs with hs | hs
      · cases op <;> simp only [Bool.and_eq_true, beq_iff_eq, reduceCtorEq] at hs
        obtain ⟨⟨⟨rfl, rfl⟩, rfl⟩, hu⟩ := hs
        rw [runStmts_value hrest hu, applyOp_eq_ok ho]
        exact if_pos ⟨rfl, rfl⟩
      · exact ih hrest hs
    | dropped ops =>
      simp only [reduceCtorEq, false_or] at hs
      exact ih h hs

/-- Statements that cannot delete a key that exists leave it there. -/
theorem runStmts_key_ne_none {k : KeyPath} {stmts : List Stmt} {r r' : Registry}
    (h : runStmts env options modulePath stmts r = .ok r') (hd : undeleted k stmts = true)
    (hk : r.key k ≠ none) : r'.key k ≠ none :=
  runStmts_preserves (P := fun r₁ => r₁.key k ≠ none) h
    (fun _ hs op hop _ h₁ => op.apply_key_ne_none _ _ (eq_false_of_all_ops hd hs hop) h₁) hk

/-- A call that creates a key below `k`, or `k` itself, leaves `k` there. -/
theorem applyOp_createKey {path k : KeyPath} {r r' : Registry}
    (h : applyOp env options modulePath r (.createKey path) = .ok r') (hk : k ≠ [])
    (hkp : k.isPrefixOf path = true) : r'.key k ≠ none := by
  rw [applyOp_eq_ok h]
  cases ho : r.key k with
  | some o => exact (RegOp.apply_createKey_of_some ho).trans_ne (Option.some_ne_none o)
  | none => simp only [RegOp.apply, ho, ne_eq, hk, not_false_eq_true, hkp, and_self, if_true,
      reduceCtorEq]

/-- A key created by a call that no later call can delete exists. -/
theorem runStmts_createsKey {k : KeyPath} {stmts : List Stmt} {r r' : Registry}
    (h : runStmts env options modulePath stmts r = .ok r') (hc : createsKey k stmts = true) :
    r'.key k ≠ none := by
  induction stmts generalizing r with
  | nil => cases hc
  | cons s rest ih =>
    simp only [createsKey, Bool.or_eq_true] at hc
    cases s with
    | call op =>
      obtain ⟨r₀, ho, hrest⟩ := runStmts_cons_call h
      rcases hc with hc | hc
      · cases op <;> simp only [Bool.and_eq_true, bne_iff_ne, ne_eq, reduceCtorEq] at hc
        obtain ⟨⟨hk, hkp⟩, hd⟩ := hc
        exact runStmts_key_ne_none hrest hd (applyOp_createKey ho hk hkp)
      · exact ih hrest hc
    | dropped ops =>
      simp only [reduceCtorEq, false_or] at hc
      exact ih h hc

/-- Statements that create nothing at or below `p` keep it empty. -/
theorem runStmts_cleared {p : KeyPath} {stmts : List Stmt} {r r' : Registry}
    (h : runStmts env options modulePath stmts r = .ok r') (hc : uncreated p stmts = true)
    (hr : r.Cleared p) : r'.Cleared p :=
  runStmts_preserves (P := (·.Cleared p)) h
    (fun _ hs op hop _ h₁ => op.apply_cleared _ _ (eq_false_of_all_ops hc hs hop) h₁) hr

/-- Statements that delete a tree and create nothing in it after leave it empty. -/
theorem runStmts_clearsTree {p : KeyPath} {stmts : List Stmt} {r r' : Registry}
    (h : runStmts env options modulePath stmts r = .ok r') (hc : clearsTree p stmts = true) :
    r'.Cleared p := by
  induction stmts generalizing r with
  | nil => cases hc
  | cons s rest ih =>
    simp only [clearsTree, Bool.or_eq_true] at hc
    cases s with
    | call op =>
      obtain ⟨r₀, ho, hrest⟩ := runStmts_cons_call h
      rcases hc with hc | hc
      · cases op <;> simp only [Bool.and_eq_true, beq_iff_eq, reduceCtorEq] at hc
        obtain ⟨rfl, hu⟩ := hc
        exact runStmts_cleared hrest hu (applyOp_deleteTree_cleared ho)
      · exact ih hrest hc
    | dropped ops =>
      simp only [reduceCtorEq, false_or] at hc
      exact ih h hc

end Runs

/-! The exports of `export.rs`. -/

/-- `DllRegisterServer`: a volatile transaction, `HKEY_CLASSES_ROOT` opened through
`Key::predefined`, the module's path, then `register_server`. -/
def dllRegisterServer (env : RegEnv) (r : Registry) : Except ComError Registry :=
  match env.createTransaction with
  | .error e => .error e
  | .ok () =>
  match runStmts env .volatile [] (calls (predefined (hkcr []))) r with
  | .error e => .error e
  | .ok r' =>
  match env.modulePath with
  | .error e => .error e
  | .ok modulePath => registerServer env .volatile r' modulePath

def dllUnregisterServer (env : RegEnv) (r : Registry) : Except ComError Registry :=
  match env.createTransaction with
  | .error e => .error e
  | .ok () =>
  match runStmts env .volatile [] (calls (predefined (hkcr []))) r with
  | .error e => .error e
  | .ok r' => unregisterServer env .volatile r'

/-! Registration and unregistration. -/

theorem registerServer_eq_ok {env : RegEnv} {options : KeyOptions} {r r' : Registry}
    {modulePath : List UInt16} (h : registerServer env options r modulePath = .ok r') :
    runStmts env options modulePath registerStmts r = .ok r' := by
  unfold registerServer nullTerminatedSlice at h
  split_ifs at h
  dsimp only at h
  split at h
  · cases h
  · rename_i r₀ hrun
    rwa [map_const_eq_ok h]

theorem unregisterServer_eq_ok {env : RegEnv} {options : KeyOptions} {r r' : Registry}
    (h : unregisterServer env options r = .ok r') :
    runStmts env options [] unregisterStmts r = .ok r' := by
  unfold unregisterServer at h
  split at h
  · cases h
  · rename_i r₀ hrun
    rwa [map_const_eq_ok h]

/-- Unregistering after registering leaves the kind of `.bmx` behind: registration writes it
under `Explorer\KindMap`, unregistration deletes it under `KindMap`. It leaves the transcode
command's verb on every file too, with its handler: nothing unregisters the command. -/
theorem unregister_after_register_leaves {env : RegEnv} {options : KeyOptions}
    {r r₁ r₂ : Registry} {modulePath : List UInt16}
    (hreg : registerServer env options r modulePath = .ok r₁)
    (hunreg : unregisterServer env options r₁ = .ok r₂) :
    r₂.value kindMapKey EXTENSION = some ⟨.REG_SZ, .units (Shell.wide "Picture")⟩ ∧
      r₂.key transcodeVerbKey ≠ none ∧
      r₂.value transcodeVerbKey "ExplorerCommandHandler" =
        some ⟨.REG_SZ, .units (guidWide Transcode.CLSID)⟩ := by
  have h₁ := registerServer_eq_ok hreg
  have h₂ := unregisterServer_eq_ok hunreg
  refine ⟨?_, runStmts_key_ne_none h₂ (by decide) (runStmts_createsKey h₁ (by decide)), ?_⟩
  · rw [runStmts_value h₂ (by decide)]
    exact runStmts_setsValue h₁ (by decide)
  · rw [runStmts_value h₂ (by decide)]
    exact runStmts_setsValue h₁ (by decide)

theorem unregister_after_register_leaves_of_empty_registry :
    let env : RegEnv := ⟨.ok (), .ok [0x43, 0], fun _ => .ok (), .ok ()⟩
    ∃ r₁ r₂, registerServer env .volatile Registry.empty [0x43, 0] = .ok r₁ ∧
      unregisterServer env .volatile r₁ = .ok r₂ ∧
      r₂.value kindMapKey EXTENSION = some ⟨.REG_SZ, .units (Shell.wide "Picture")⟩ ∧
      r₂.key transcodeVerbKey ≠ none ∧
      r₂.value transcodeVerbKey "ExplorerCommandHandler" =
        some ⟨.REG_SZ, .units (guidWide Transcode.CLSID)⟩ :=
  ⟨_, _, let h₁ := rfl; let h₂ := rfl; ⟨h₁, h₂, unregister_after_register_leaves h₁ h₂⟩⟩

/-- The keys of its own that `unregister_server` deletes. -/
def unregisteredKeys : List KeyPath :=
  [hkcr [PROG_ID]] ++
    ([BitmapDecoder, BitmapEncoder, PropertyStore].flatMap fun T =>
      [hkcr ["CLSID", guidName T.CLSID], hkcr [T.PROG_ID], hkcr [T.VERSION_INDEPENDENT_PROG_ID]]) ++
    [hkcr ["CLSID", guidName CATID_WICBitmapDecoders, "Instance", guidName BitmapDecoder.CLSID],
      hkcr ["CLSID", guidName CATID_WICBitmapEncoders, "Instance", guidName BitmapEncoder.CLSID],
      hkcr [EXTENSION], hkcr ["SystemFileAssociations", EXTENSION], propertyHandlers ++ [EXTENSION]]

/-- Whatever the registry held, after every unregistration that returns `Ok` no key is left at
or below the handler's ProgID, the keys of its decoder, encoder and property store classes
and their ProgIDs, its codecs' category entries, its extension and file associations, and
its property handler entry: no later call of unregistration creates one again. -/
theorem unregisterServer_clears {env : RegEnv} {options : KeyOptions} {r r' : Registry}
    (h : unregisterServer env options r = .ok r') : ∀ p ∈ unregisteredKeys, r'.Cleared p := by
  have hall : unregisteredKeys.all (clearsTree · unregisterStmts) = true := by
    set_option maxRecDepth 4000 in decide
  exact fun p hp => runStmts_clearsTree (unregisterServer_eq_ok h) (List.all_eq_true.mp hall p hp)

theorem unregisterServer_clears_of_full_registry :
    let env : RegEnv := ⟨.ok (), .ok [0x43, 0], fun _ => .ok (), .ok ()⟩
    ∃ r', unregisterServer env .volatile ⟨fun _ => some .nonVolatile, fun _ _ => none⟩ = .ok r' ∧
      ∀ p ∈ unregisteredKeys, r'.Cleared p :=
  ⟨_, let h := rfl; ⟨h, unregisterServer_clears h⟩⟩

/-! The decoder's detection pattern. -/

/-- A header that validates has the magic `BMX` and the version 1. -/
theorem magic_of_validate {h : FileHeader} (hv : h.validate = .ok ()) :
    (h.fileId 0).get = 66 ∧ (h.fileId 1).get = 77 ∧ (h.fileId 2).get = 88 ∧ h.version = 1 := by
  unfold FileHeader.validate at hv
  split at hv
  · cases hv
  split at hv
  · cases hv
  rename_i h₁ h₂
  simp only [not_or, not_not] at h₁ h₂
  exact ⟨h₁.1, h₁.2.1, h₁.2.2, h₂⟩

/-- Every byte string `from_bytes` accepts starts with `BMX` and the version 1. -/
theorem take_four_of_fromBytes {b : List UInt8} {h : FileHeader}
    (hb : FileHeader.fromBytes b = .ok h) : b.take 4 = [0x42, 0x4D, 0x58, 0x01] := by
  obtain ⟨h0, h1, h2, hv⟩ := magic_of_validate (FileHeader.validate_of_fromBytes hb)
  rw [← FileHeader.memoryImage_fromBytes hb]
  simp [FileHeader.memoryImage, FileHeader.layout, h0, h1, h2, hv]

/-- Registration gives the decoder a detection pattern every BMX file matches: WIC compares
the 4 bytes at offset 0, under a mask of all ones, with the registered pattern, which are the
first 4 bytes of every header `from_bytes` accepts. -/
theorem registerServer_pattern {env : RegEnv} {options : KeyOptions} {r r' : Registry}
    {modulePath : List UInt16} (h : registerServer env options r modulePath = .ok r') :
    ∃ pattern, r'.value patternKey "Pattern" = some ⟨.REG_BINARY, .bytes pattern⟩ ∧
      r'.value patternKey "Position" = some ⟨.REG_DWORD, .bytes [0, 0, 0, 0]⟩ ∧
      r'.value patternKey "Length" = some ⟨.REG_DWORD, .bytes [4, 0, 0, 0]⟩ ∧
      r'.value patternKey "Mask" = some ⟨.REG_BINARY, .bytes [0xFF, 0xFF, 0xFF, 0xFF]⟩ ∧
      pattern.length = 4 ∧
      ∀ b header, FileHeader.fromBytes b = .ok header → b.take pattern.length = pattern := by
  have hrun := registerServer_eq_ok h
  exact ⟨[0x42, 0x4D, 0x58, 0x01], runStmts_setsValue hrun (by decide),
    runStmts_setsValue hrun (by decide), runStmts_setsValue hrun (by decide),
    runStmts_setsValue hrun (by decide), rfl, fun _ _ hb => take_four_of_fromBytes hb⟩

theorem registerServer_pattern_of_empty_registry :
    let env : RegEnv := ⟨.ok (), .ok [0x43, 0], fun _ => .ok (), .ok ()⟩
    ∃ r', registerServer env .volatile Registry.empty [0x43, 0] = .ok r' ∧
      ∃ pattern, r'.value patternKey "Pattern" = some ⟨.REG_BINARY, .bytes pattern⟩ ∧
        r'.value patternKey "Position" = some ⟨.REG_DWORD, .bytes [0, 0, 0, 0]⟩ ∧
        r'.value patternKey "Length" = some ⟨.REG_DWORD, .bytes [4, 0, 0, 0]⟩ ∧
        r'.value patternKey "Mask" = some ⟨.REG_BINARY, .bytes [0xFF, 0xFF, 0xFF, 0xFF]⟩ ∧
        pattern.length = 4 ∧
        ∀ b header, FileHeader.fromBytes b = .ok header → b.take pattern.length = pattern :=
  ⟨_, let h := rfl; ⟨h, registerServer_pattern h⟩⟩

end BmxShell.Registration
