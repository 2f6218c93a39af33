import BmxShell.Registry

/-!
Activation, as `export.rs` and `com/wic/class_factory.rs` do it. COM finds the module through
the `InprocServer32` key registration wrote under a class's CLSID, asks `DllGetClassObject` for
a factory of that CLSID, and has the factory's `CreateInstance` make the object. Every
`InprocServer32` value a registration writes holds the module path, under the CLSID of a class
`DllGetClassObject` makes a factory for; every ProgID of the decoder and the encoder names its
class's CLSID in the form `guid::from_str` reads back. `get_module_path` doubles its buffer
until the module's file name fits, and returns the whole name with its NUL, which is the
`NullTerminatedSlice` registration needs. `LockServer` counts in a `usize` that wraps, so one
unlock more than the locks leaves `can_unload_now` false.
-/

namespace BmxShell.Registration

def CLASS_E_NOAGGREGATION : Hresult := .other 0x80040110

def CLASS_E_CLASSNOTAVAILABLE : Hresult := .other 0x80040111

/-- The classes the module's class factories construct. -/
inductive ServedClass
  | bitmapDecoder
  | bitmapEncoder
  | propertyStore
  | transcode
deriving DecidableEq

def ServedClass.coClass : ServedClass → CoClass
  | .bitmapDecoder => BitmapDecoder
  | .bitmapEncoder => BitmapEncoder
  | .propertyStore => PropertyStore
  | .transcode => Transcode

/-- `ClassFactory`: its `constructor` makes a new object of one class and queries it. -/
structure ClassFactory where
  constructor : ServedClass
deriving DecidableEq

/-- The `match` of `DllGetClassObject` on the CLSID, arm by arm: the factory it makes. -/
def classFactoryOf (clsid : Guid) : Option ClassFactory :=
  if clsid = BitmapDecoder.CLSID then some ⟨.bitmapDecoder⟩
  else if clsid = BitmapEncoder.CLSID then some ⟨.bitmapEncoder⟩
  else if clsid = PropertyStore.CLSID then some ⟨.propertyStore⟩
  else if clsid = Transcode.CLSID then some ⟨.transcode⟩
  else none

/-- What `IUnknown::query` answers for an interface on a new class factory and on a new object
of a class: `S_OK`, or an `HRESULT` such as `E_NOINTERFACE`, by the interfaces
`#[implement]` gave its type. -/
structure QueryEnv where
  factory : Guid → Except Hresult Unit
  object : ServedClass → Guid → Except Hresult Unit

/-- `DllGetClassObject`; a null `clsid` or `iid` is `none`, and `ppv` is whether the out
pointer is not null. It returns the `HRESULT` of the query on the new factory. -/
def dllGetClassObject (q : QueryEnv) (clsid iid : Option Guid) (ppv : Bool) : Except Hresult Unit :=
  match clsid, iid with
  | none, _ => .error .E_POINTER
  | _, none => .error .E_POINTER
  | some clsid, some iid =>
    if !ppv then .error .E_POINTER
    else
      match classFactoryOf clsid with
      | none => .error CLASS_E_CLASSNOTAVAILABLE
      | some _ => q.factory iid

/-- `ClassFactory::CreateInstance`; `outer` is whether an outer object was given, and the
constructor's `HRESULT` goes through `HRESULT::ok`. -/
def ClassFactory.createInstance (q : QueryEnv) (f : ClassFactory) (outer : Bool)
    (iid : Option Guid) (ppv : Bool) : Except ComError Unit :=
  if outer then .error (.ofCode CLASS_E_NOAGGREGATION)
  else
    match iid with
    | none => .error (.ofCode .E_POINTER)
    | some iid =>
      if !ppv then .error (.ofCode .E_POINTER)
      else (q.object f.constructor iid).mapError ComError.ofCode

/-- Each class's CLSID reaches its own arm: no two classes share a CLSID. -/
theorem classFactoryOf_coClass (c : ServedClass) : classFactoryOf c.coClass.CLSID = some ⟨c⟩ := by
  cases c <;> decide

theorem dllGetClassObject_coClass (q : QueryEnv) (c : ServedClass) (iid : Guid) :
    dllGetClassObject q (some c.coClass.CLSID) (some iid) true = q.factory iid := by
  simp only [dllGetClassObject, Bool.not_true, Bool.false_eq_true, if_false, classFactoryOf_coClass]

/-! What registration points COM at. -/

/-- Whether `(k, name)` is the default value of a key `HKCR\CLSID\<CLSID>\InprocServer32`. -/
def isInprocServer (k : KeyPath) (name : String) : Bool :=
  k.getLast? == some "InprocServer32" && name == "" && k.length == 4 && k.take 2 == hkcr ["CLSID"]

/-- The `InprocServer32` keys of the served classes. -/
def servedInprocKeys : List KeyPath :=
  [ServedClass.bitmapDecoder, .bitmapEncoder, .propertyStore, .transcode].map fun c =>
    hkcr ["CLSID", guidName c.coClass.CLSID, "InprocServer32"]

/-- Whether the call, if it can change an `InprocServer32` default value, writes the module
path there for one of `keys`. -/
def RegOp.writesModulePathOnly (keys : List KeyPath) : RegOp → Bool
  | .setModulePath path n => !isInprocServer path n || keys.contains path
  | .setValue path n _ => !isInprocServer path n
  | .deleteValue path n => !isInprocServer path n
  | .deleteTree _ => false
  | .createKey _ => true
  | .openKey _ => true

/-- The `REG_SZ` the module path gives: its code units up to the first NUL. -/
def modulePathValue (modulePath : List UInt16) : RegValue :=
  ⟨.REG_SZ, .units (modulePath.takeWhile (· != 0))⟩

/-- One call that writes only the module path to `InprocServer32` values keeps such a value
as it was, or makes it the module path under one of `keys`. -/
theorem RegOp.apply_inproc {keys : List KeyPath} {op : RegOp} (hop : op.writesModulePathOnly keys = true)
    (options : KeyOptions) (modulePath : List UInt16) {k : KeyPath} {name : String}
    (hk : isInprocServer k name = true) {v : Option RegValue} {r : Registry}
    (hr : r.value k name = v ∨ r.value k name = some (modulePathValue modulePath) ∧ k ∈ keys) :
    (op.apply options modulePath r).value k name = v ∨
      (op.apply options modulePath r).value k name = some (modulePathValue modulePath) ∧ k ∈ keys := by
  by_cases ht : op.touchesValue k name = true
  · cases op with
    | setModulePath path n =>
      simp only [touchesValue, Bool.and_eq_true, beq_iff_eq] at ht
      obtain ⟨rfl, rfl⟩ := ht
      simp only [writesModulePathOnly, hk, Bool.not_true, Bool.false_or, List.elem_iff] at hop
      exact .inr ⟨if_pos ⟨rfl, rfl⟩, hop⟩
    | setValue path n _ | deleteValue path n =>
      simp only [touchesValue, Bool.and_eq_true, beq_iff_eq] at ht
      obtain ⟨rfl, rfl⟩ := ht
      simp only [writesModulePathOnly, hk, Bool.not_true, Bool.false_eq_true] at hop
    | deleteTree _ => cases hop
    | createKey _ | openKey _ => cases ht
  · rwa [op.apply_value options modulePath r (eq_false_of_ne_true ht)]

/-- Statements whose calls write only the module path to `InprocServer32` values leave each
such value as it was, or the module path under one of `keys`. -/
theorem runStmts_inproc {env : RegEnv} {options : KeyOptions} {modulePath : List UInt16}
    {keys : List KeyPath} {stmts : List Stmt} {r r' : Registry}
    (h : runStmts env options modulePath stmts r = .ok r')
    (hw : (stmts.all fun s => s.ops.all (RegOp.writesModulePathOnly keys)) = true)
    {k : KeyPath} {name : String} (hk : isInprocServer k name = true) :
    r'.value k name = r.value k name ∨
      r'.value k name = some (modulePathValue modulePath) ∧ k ∈ keys :=
  runStmts_preserves (P := fun r₁ => r₁.value k name = r.value k name ∨
      r₁.value k name = some (modulePathValue modulePath) ∧ k ∈ keys) h
    (fun _ hs op hop _ h₁ => RegOp.apply_inproc
      (List.all_eq_true.mp (List.all_eq_true.mp hw _ hs) op hop) options modulePath hk h₁)
    (.inl rfl)

/-- Every `InprocServer32` default value that a registration returning `Ok` changes holds the
module path up to its NUL, under the CLSID of a class whose own factory `DllGetClassObject`
makes: the registry never points COM at this module for a class it does not serve. -/
theorem registerServer_inproc_served {env : RegEnv} {options : KeyOptions} {r r' : Registry}
    {modulePath : List UInt16} (h : registerServer env options r modulePath = .ok r')
    (name : String)
    (hchanged : r'.value (hkcr ["CLSID", name, "InprocServer32"]) "" ≠
      r.value (hkcr ["CLSID", name, "InprocServer32"]) "") :
    r'.value (hkcr ["CLSID", name, "InprocServer32"]) "" =
        some ⟨.REG_SZ, .units (modulePath.takeWhile (· != 0))⟩ ∧
      ∃ c : ServedClass, name = guidName c.coClass.CLSID ∧
        classFactoryOf c.coClass.CLSID = some ⟨c⟩ ∧
        ∀ q iid, dllGetClassObject q (some c.coClass.CLSID) (some iid) true = q.factory iid := by
  have hw : (registerStmts.all fun s => s.ops.all (RegOp.writesModulePathOnly servedInprocKeys)) =
      true := by
    decide
  rcases runStmts_inproc (registerServer_eq_ok h) hw
    (show isInprocServer (hkcr ["CLSID", name, "InprocServer32"]) "" = true from rfl)
    with hsame | ⟨hv, hmem⟩
  · exact absurd hsame hchanged
  refine ⟨hv, ?_⟩
  obtain ⟨c, -, hc⟩ := List.mem_map.mp hmem
  simp only [hkcr, List.cons.injEq, and_true, true_and] at hc
  exact ⟨c, hc.symm, classFactoryOf_coClass c, fun q iid => dllGetClassObject_coClass q c iid⟩

theorem registerServer_inproc_served_of_empty_registry :
    let env : RegEnv := ⟨.ok (), .ok [0x43, 0], fun _ => .ok (), .ok ()⟩
    ∃ r', registerServer env .volatile Registry.empty [0x43, 0] = .ok r' ∧
      r'.value (hkcr ["CLSID", guidName BitmapDecoder.CLSID, "InprocServer32"]) "" ≠
        Registry.empty.value (hkcr ["CLSID", guidName BitmapDecoder.CLSID, "InprocServer32"]) "" ∧
      r'.value (hkcr ["CLSID", guidName BitmapDecoder.CLSID, "InprocServer32"]) "" =
          some ⟨.REG_SZ, .units ([0x43, 0].takeWhile (· != 0))⟩ ∧
        ∃ c : ServedClass, guidName BitmapDecoder.CLSID = guidName c.coClass.CLSID ∧
          classFactoryOf c.coClass.CLSID = some ⟨c⟩ ∧
          ∀ q iid, dllGetClassObject q (some c.coClass.CLSID) (some iid) true = q.factory iid :=
  ⟨_, let h := rfl; let hchanged := by decide
    ⟨h, hchanged, registerServer_inproc_served h _ hchanged⟩⟩

/-- Every registration that returns `Ok` has each ProgID of the decoder and of the encoder name
its class's CLSID, as a NUL-terminated string that `guid::from_str` reads back to a CLSID
whose factory `DllGetClassObject` makes for that class. -/
theorem registerServer_progIds_served {env : RegEnv} {options : KeyOptions} {r r' : Registry}
    {modulePath : List UInt16} (h : registerServer env options r modulePath = .ok r')
    {c : ServedClass} (hc : c = .bitmapDecoder ∨ c = .bitmapEncoder) {progId : String}
    (hp : progId = c.coClass.PROG_ID ∨ progId = c.coClass.VERSION_INDEPENDENT_PROG_ID) :
    ∃ text clsid, r'.value (hkcr [progId, "CLSID"]) "" =
        some ⟨.REG_SZ, .units ((text ++ [0]).map UInt8.toUInt16)⟩ ∧
      Guid.fromStr text = .ok clsid ∧ classFactoryOf clsid = some ⟨c⟩ := by
  refine ⟨_, _, runStmts_setsValue (registerServer_eq_ok h) ?_,
    fromStr_asciiBytes_fmt c.coClass.CLSID, classFactoryOf_coClass c⟩
  rcases hc with rfl | rfl <;> rcases hp with rfl | rfl <;> decide

theorem registerServer_progIds_served_of_empty_registry :
    let env : RegEnv := ⟨.ok (), .ok [0x43, 0], fun _ => .ok (), .ok ()⟩
    ∃ r', registerServer env .volatile Registry.empty [0x43, 0] = .ok r' ∧
      ServedClass.bitmapDecoder = .bitmapDecoder ∧
      BitmapDecoder.PROG_ID = ServedClass.bitmapDecoder.coClass.PROG_ID ∧
      ∃ text clsid, r'.value (hkcr [BitmapDecoder.PROG_ID, "CLSID"]) "" =
          some ⟨.REG_SZ, .units ((text ++ [0]).map UInt8.toUInt16)⟩ ∧
        Guid.fromStr text = .ok clsid ∧ classFactoryOf clsid = some ⟨.bitmapDecoder⟩ :=
  ⟨_, let h := rfl; ⟨h, rfl, rfl, registerServer_progIds_served h (.inl rfl) (.inl rfl)⟩⟩

/-! The module's path, from `util.rs`. -/

/-- `GetModuleFileNameW` into a buffer of `n` code units, for a module whose file name is
`name`: the count it returns, and the buffer after. A name that fits is copied with its NUL,
and its length returned. A longer one is cut to `n - 1` code units and a NUL, and `n` is
returned. -/
def getModuleFileName (name : List UInt16) (n : Nat) : Nat × List UInt16 :=
  if name.length < n then (name.length, name ++ 0 :: List.replicate (n - name.length - 1) 0)
  else (n, name.take (n - 1) ++ [0])

/-- The loop of `get_module_path` with a buffer of `len` code units; `lastError` is what
`Error::from_win32` reads after a call that returned 0. -/
def getModulePathLoop (name : List UInt16) (lastError : ComError) (len : Nat) (hlen : 0 < len) :
    Except ComError (List UInt16) :=
  match h : getModuleFileName name len with
  | (size, path) =>
    if size = 0 then .error lastError
    else if size ≠ len then .ok (path.take (size + 1))
    else getModulePathLoop name lastError (len * 2) (by omega)
termination_by name.length + 1 - len
decreasing_by
  -- the name did not fit, so the buffer was at most its length
  unfold getModuleFileName at h
  split at h <;> simp only [Prod.mk.injEq] at h <;> omega

/-- `get_module_path`, for the module whose file name is `name`: a buffer of 1024 code units
first. -/
def getModulePath (name : List UInt16) (lastError : ComError) : Except ComError (List UInt16) :=
  getModulePathLoop name lastError 1024 (by decide)

/-- `get_this_module_path`: `module` is what `GetModuleHandleExW` answers, as the file name of
the module it finds. -/
def getThisModulePath (module : Except ComError (List UInt16)) (lastError : ComError) :
    Except ComError (List UInt16) :=
  match module with
  | .error e => .error e
  | .ok name => getModulePath name lastError

theorem getModulePathLoop_eq_ok (name : List UInt16) (hne : name ≠ []) (lastError : ComError) :
    ∀ len (hlen : 0 < len), getModulePathLoop name lastError len hlen = .ok (name ++ [0]) := by
  intro len hlen
  induction' hm : name.length + 1 - len using Nat.strong_induction_on with m ih generalizing len
  have hpos : name.length ≠ 0 := fun h => hne (List.eq_nil_of_length_eq_zero h)
  rw [getModulePathLoop]
  by_cases hfit : name.length < len
  · simp only [getModuleFileName, hfit, if_true, hpos, if_false, ne_eq, Nat.ne_of_lt hfit,
      not_false_eq_true, List.take_append_eq_append_take]
    simp
  · -- the buffer was full: the loop doubles it, which shrinks the measure
    simp only [getModuleFileName, hfit, if_false, Nat.pos_iff_ne_zero.mp hlen, ne_eq,
      not_true_eq_false]
    exact ih _ (by omega) _ (by omega) rfl

/-- For every nonempty module file name without a NUL, `get_module_path` returns the whole name
and its NUL, however long the name is. `register_server` accepts that as a
`NullTerminatedSlice`, so its `E_BLUETOOTH_ATT_ATTRIBUTE_NOT_FOUND` never comes out, and the
`InprocServer32` value it writes from it is the whole name. -/
theorem getModulePath_registers (name : List UInt16) (hne : name ≠ []) (h0 : (0 : UInt16) ∉ name)
    (lastError : ComError) :
    getModulePath name lastError = .ok (name ++ [0]) ∧
      nullTerminatedSlice (name ++ [0]) = .ok (name ++ [0]) ∧
      modulePathValue (name ++ [0]) = ⟨.REG_SZ, .units name⟩ := by
  refine ⟨getModulePathLoop_eq_ok name hne lastError _ _, by simp [nullTerminatedSlice], ?_⟩
  rw [modulePathValue, List.takeWhile_append_of_pos fun a ha =>
    bne_iff_ne.mpr fun (he : a = 0) => h0 (he ▸ ha)]
  simp

theorem getModulePath_registers_of_dll_name :
    Shell.wide "C:/bmx.dll" ≠ [] ∧ (0 : UInt16) ∉ Shell.wide "C:/bmx.dll" ∧
      getModulePath (Shell.wide "C:/bmx.dll") (.ofCode .E_UNEXPECTED) =
        .ok (Shell.wide "C:/bmx.dll" ++ [0]) ∧
      nullTerminatedSlice (Shell.wide "C:/bmx.dll" ++ [0]) = .ok (Shell.wide "C:/bmx.dll" ++ [0]) ∧
      modulePathValue (Shell.wide "C:/bmx.dll" ++ [0]) = ⟨.REG_SZ, .units (Shell.wide "C:/bmx.dll")⟩ :=
  ⟨by decide, by decide, getModulePath_registers _ (by decide) (by decide) _⟩

/-! `LockServer` and `can_unload_now`. -/

/-- `LockServer(flock)` on `LOCK_COUNT`, a `usize` of a 64-bit target: `fetch_add` and
`fetch_sub` wrap. -/
def lockServer (count : UInt64) (flock : Bool) : UInt64 :=
  if flock then count + 1 else count - 1

def canUnloadNow (count : UInt64) : Bool := count == 0

/-- `LOCK_COUNT` after `LockServer` calls in the order their updates took effect. Each update
is one atomic read-modify-write, so calls from any threads take effect one at a time. -/
def lockRun (count : UInt64) (calls : List Bool) : UInt64 := calls.foldl lockServer count

theorem UInt64.toNat_add_one' (a : UInt64) : (a + 1).toNat = (a.toNat + 1) % 2 ^ 64 :=
  UInt64.toNat_add a 1

theorem UInt64.toNat_sub_one' (a : UInt64) : (a - 1).toNat = (2 ^ 64 - 1 + a.toNat) % 2 ^ 64 :=
  UInt64.toNat_sub a 1

theorem lockServer_toNat (count : UInt64) (flock : Bool) :
    ((lockServer count flock).toNat : Int) =
      (count.toNat + (if flock then 1 else -1) : Int) % 2 ^ 64 := by
  have hlt : count.toNat < 2 ^ 64 := count.toNat_lt_size
  cases flock
  · simp only [lockServer, Bool.false_eq_true, if_false, UInt64.toNat_sub_one']
    omega
  · simp only [lockServer, if_true, UInt64.toNat_add_one']
    omega

/-- After any run of `LockServer` calls the count is the one it started from, plus the locks,
less the unlocks, modulo the word size. -/
theorem lockRun_toNat (count : UInt64) (calls : List Bool) :
    ((lockRun count calls).toNat : Int) =
      (count.toNat + calls.count true - calls.count false : Int) % 2 ^ 64 := by
  induction calls generalizing count with
  | nil =>
    have hlt : count.toNat < 2 ^ 64 := count.toNat_lt_size
    simp only [lockRun, List.foldl_nil, List.count_nil]
    omega
  | cons b calls ih =>
    have hstep := lockServer_toNat count b
    simp only [lockRun, List.foldl_cons] at ih ⊢
    rw [ih]
    cases b <;> simp only [List.count_cons, beq_self_eq_true, if_true, if_false] at hstep ⊢ <;>
      simp at hstep ⊢ <;> omega

/-- From a new module, `can_unload_now` holds after a run of `LockServer` calls exactly when the
locks and the unlocks differ by a multiple of the word size: an unlock with no lock before it
wraps the count to its maximum instead of stopping at 0. -/
theorem canUnloadNow_lockRun_iff (calls : List Bool) :
    canUnloadNow (lockRun 0 calls) = true ↔
      ((calls.count true : Int) - calls.count false) % 2 ^ 64 = 0 := by
  have h := lockRun_toNat 0 calls
  simp only [UInt64.toNat_zero, Nat.cast_zero, zero_add] at h
  rw [canUnloadNow, beq_iff_eq, ← h]
  exact ⟨fun h0 => by rw [h0]; rfl, fun h0 => UInt64.toNat.inj (by rw [UInt64.toNat_zero]; omega)⟩

end BmxShell.Registration
