import BmxShell.Transcode

/-!
The subcommands of the transcode command, `TranscodeSubcommand` of
`com/shell/command/transcode.rs`. `Invoke` asks the save dialog where the result goes and queues
`NewItem` calls on an `IFileOperation`, each with a `TranscodeOperation` sink. For one selected
item it queues one call: the file the dialog chose, in that file's folder. For any other number
of items it queues one call per item, in the folder the dialog chose, named after the item's name
without its last extension, followed by the codec's first extension. `item_name_without_extension`
cuts a name at its last dot. Splitting the codec's extensions on commas always gives a first one,
so with every call into Windows answering `Ok`, `Invoke` returns `Ok`: the `E_UNEXPECTED` of a
missing extension never comes out.

`SaveDialog::show` stores what `Invoke` gives it and shows the dialog. Its combo box keeps the
selected item at 0 or an index of the pixel formats, so `do_show` panics exactly when it was given
none. `GetFileTypeIndex` counts the file types from 1 and `do_show` indexes the extensions from 0
with it, so in file mode the extension it returns is that of the type after the chosen one.
-/

namespace BmxShell.Shell

/-- What a `PCWSTR` over a buffer reads: its code units up to the first NUL. -/
def readPcwstr (buffer : List UInt16) : List UInt16 := buffer.takeWhile (· != 0)

/-- The loop of `item_name_without_extension` over the indices below `i`, from the last down:
the first `.` it meets becomes a NUL, and the loop stops there. -/
def truncateAtLastDot (name : List UInt16) : Nat → List UInt16
  | 0 => name
  | i + 1 => if name.getD i 0 = 46 then name.set i 0 else truncateAtLastDot name i

/-- `TranscodeSubcommand::item_name_without_extension`, as its callers read it: the item's name
(`GetDisplayName(SIGDN_PARENTRELATIVEPARSING)`, up to its NUL) up to the NUL the loop writes. -/
def itemNameWithoutExtension (displayName : Except ComError (List UInt16)) :
    Except ComError (List UInt16) :=
  displayName.map fun name => readPcwstr (truncateAtLastDot name name.length)

/-- `extensions.split(|c| *c == b',' as u16).next().ok_or(E_UNEXPECTED)` in
`transcode_items`. -/
def firstExtension (extensions : List UInt16) : Except ComError (List UInt16) :=
  match (extensions.splitOn 44).head? with
  | some extension => .ok extension
  | none => .error (.ofCode .E_UNEXPECTED)

inductive SaveDialogMode
  | folder
  | file
deriving DecidableEq

/-- What `SaveDialog::show` is given: the file name to offer (`none` for a null one), the mode,
the default folder, the codec's extensions and the known pixel formats. -/
structure SaveDialogRequest (α : Type) where
  fileName : Option (List UInt16)
  mode : SaveDialogMode
  defaultFolder : α
  fileExtensions : List UInt16
  pixelFormats : List Guid

/-- `SaveDialogResult`: the chosen pixel format, the chosen file or folder, and the extension
of the chosen file type. -/
structure SaveDialogResult (α : Type) where
  pixelFormat : Guid
  item : α
  extension : Option (List UInt16)

/-- An `IShellItemArray` of shell items of type `α`: what `GetCount` and `GetItemAt(i)`
return. -/
structure ShellItemArray (α : Type) where
  count : Except ComError Nat
  itemAt : Nat → Except ComError α

/-- A queued `IFileOperation::NewItem` call: the destination folder, the new item's name as its
`PCWSTR` reads, and the source item, container format and pixel format of its
`TranscodeOperation` sink. -/
structure NewItemCall (α : Type) where
  folder : α
  name : List UInt16
  source : α
  containerFormat : Guid
  pixelFormat : Guid

/-- What the shell, WIC and the user answer to the calls of `Invoke`. -/
structure SubcommandEnv (α : Type) where
  /-- `GetDisplayName(SIGDN_PARENTRELATIVEPARSING)` of an item, up to its NUL. -/
  displayName : α → Except ComError (List UInt16)
  /-- `GetParent` of an item. -/
  parent : α → Except ComError α
  /-- `get_with_buffer!(codec_info, GetFileExtensions)`: the comma-separated extensions, and
  the buffer's NUL. -/
  fileExtensions : Except ComError (List UInt16)
  /-- `get_with_buffer!(codec_info, GetPixelFormats)`. -/
  pixelFormats : Except ComError (List Guid)
  containerFormat : Except ComError Guid
  /-- `SaveDialog::show`. -/
  dialog : SaveDialogRequest α → Except ComError (SaveDialogResult α)
  /-- `CoCreateInstance(&FileOperation, ..)` and `SetOwnerWindow`: the first error, or `Ok`. -/
  createOperation : Except ComError Unit
  newItem : NewItemCall α → Except ComError Unit
  performOperations : Except ComError Unit

/-- `TranscodeSubcommand::GetState`, the same as `Transcode::GetState`: a subcommand is enabled
exactly when the command is. -/
def subcommandGetState (known : Guid → Bool) (decoders : Option Decoders)
    (items : Option (Except ComError (List ShellItem))) (okToBeSlow : Bool) :
    Except ComError UInt32 :=
  getState known decoders items okToBeSlow

section Invoke

variable {α : Type} (env : SubcommandEnv α)

/-- One turn of the loop of `transcode_items`, for the item at `i`. -/
def transcodeItemsStep (items : ShellItemArray α) (result : SaveDialogResult α)
    (containerFormat : Guid) (i : Nat) : Except ComError (NewItemCall α) := do
  let item ← items.itemAt i
  let extensions ← env.fileExtensions
  let extension ← firstExtension extensions
  let stem ← itemNameWithoutExtension (env.displayName item)
  let call : NewItemCall α :=
    ⟨result.item, readPcwstr (stem ++ extension ++ [0]), item, containerFormat, result.pixelFormat⟩
  env.newItem call
  return call

/-- `TranscodeSubcommand::transcode_items`: the `NewItem` calls it queued, in order, when
`PerformOperations` returned `Ok`. -/
def transcodeItems (items : ShellItemArray α) (result : SaveDialogResult α)
    (containerFormat : Guid) : Except ComError (List (NewItemCall α)) := do
  env.createOperation
  let count ← items.count
  let calls ← (List.range count).mapM (transcodeItemsStep env items result containerFormat)
  env.performOperations
  return calls

/-- `TranscodeSubcommand::transcode_item`. The message box it shows when `PerformOperations`
fails does not change what it returns. -/
def transcodeItem (item : α) (result : SaveDialogResult α) (containerFormat : Guid) :
    Except ComError (NewItemCall α) := do
  env.createOperation
  let filename ← env.displayName result.item
  let name := match result.extension with
    | some extension => readPcwstr (filename ++ extension ++ [0])
    | none => readPcwstr filename
  let folder ← env.parent result.item
  let call : NewItemCall α := ⟨folder, name, item, containerFormat, result.pixelFormat⟩
  env.newItem call
  env.performOperations
  return call

/-- The file name `Invoke` offers the dialog: with one item, its name without its extension;
else a null one. -/
def offeredFileName (items : ShellItemArray α) (oneItem : Bool) :
    Except ComError (Option (List UInt16)) :=
  if oneItem then do
    let item ← items.itemAt 0
    let name ← itemNameWithoutExtension (env.displayName item)
    pure (some name)
  else pure none

/-- `TranscodeSubcommand::Invoke` on the selected items (`none` for a null array), with `known`
the table of `pixel_format_is_known`. The subcommands `Next` makes always hold their data, and
the owner window does not change what is queued. -/
def invoke (known : Guid → Bool) (items : Option (ShellItemArray α)) :
    Except ComError (List (NewItemCall α)) := do
  let some items := items | throw (.ofCode .E_POINTER)
  let count ← items.count
  let oneItem := count == 1
  let mode := if oneItem then SaveDialogMode.file else .folder
  let fileName ← offeredFileName env items oneItem
  let first ← items.itemAt 0
  let defaultFolder ← env.parent first
  let fileExtensions ← env.fileExtensions
  let pixelFormats ← env.pixelFormats
  let result ← env.dialog ⟨fileName, mode, defaultFolder, fileExtensions, pixelFormats.filter known⟩
  let containerFormat ← env.containerFormat
  match mode with
  | .folder => transcodeItems env items result containerFormat
  | .file => do
    let item ← items.itemAt 0
    let call ← transcodeItem env item result containerFormat
    return [call]

end Invoke

/-! The name of a new file. -/

theorem readPcwstr_append_nul (buffer : List UInt16) :
    readPcwstr (buffer ++ [0]) = readPcwstr buffer := by
  induction buffer with
  | nil => rfl
  | cons c cs ih =>
    simp only [readPcwstr, List.cons_append, List.takeWhile_cons] at ih ⊢
    rw [ih]

theorem readPcwstr_of_not_mem {buffer : List UInt16} (h0 : 0 ∉ buffer) (rest : List UInt16) :
    readPcwstr (buffer ++ 0 :: rest) = buffer := by
  rw [readPcwstr, List.takeWhile_append_of_pos fun a ha =>
    bne_iff_ne.mpr fun (he : a = 0) => h0 (he ▸ ha)]
  simp

/-- Indices that hold no dot leave the loop going on to the ones below them. -/
theorem truncateAtLastDot_of_no_dot (name : List UInt16) (i k : Nat)
    (h : ∀ j, i ≤ j → j < i + k → name.getD j 0 ≠ 46) :
    truncateAtLastDot name (i + k) = truncateAtLastDot name i := by
  induction k with
  | zero => rfl
  | succ k ih =>
    rw [← Nat.add_assoc, truncateAtLastDot, if_neg (h (i + k) (by omega) (by omega))]
    exact ih fun j h₁ h₂ => h j h₁ (by omega)

theorem getD_of_lt_not_mem {l : List UInt16} {j : Nat} (hj : j < l.length) (h : (46 : UInt16) ∉ l) :
    l.getD j 0 ≠ 46 := by
  rw [List.getD_eq_getElem?_getD, List.getElem?_eq_getElem hj, Option.getD_some]
  exact fun he => h (he ▸ List.getElem_mem hj)

/-- A name with a dot is the part before its last dot, the dot, and a part with no dot. -/
theorem exists_last_dot {name : List UInt16} (h : (46 : UInt16) ∈ name) :
    ∃ pre ext, name = pre ++ 46 :: ext ∧ (46 : UInt16) ∉ ext := by
  induction name with
  | nil => cases h
  | cons a rest ih =>
    by_cases hr : (46 : UInt16) ∈ rest
    · obtain ⟨pre, ext, rfl, hext⟩ := ih hr
      exact ⟨a :: pre, ext, rfl, hext⟩
    · obtain rfl : a = 46 := ((List.mem_cons.mp h).resolve_right hr).symm
      exact ⟨[], rest, rfl, hr⟩

/-- The loop writes its NUL over the last dot. -/
theorem truncateAtLastDot_last_dot (pre ext : List UInt16) (hext : (46 : UInt16) ∉ ext) :
    truncateAtLastDot (pre ++ 46 :: ext) (pre ++ 46 :: ext).length = pre ++ 0 :: ext := by
  have hlen : (pre ++ 46 :: ext).length = pre.length + 1 + ext.length := by simp; omega
  have hext' : ∀ j, pre.length + 1 ≤ j → j < pre.length + 1 + ext.length →
      (pre ++ 46 :: ext).getD j 0 ≠ 46 := by
    intro j h₁ h₂
    rw [List.getD_eq_getElem?_getD, List.getElem?_append_right (by omega),
      show j - pre.length = (j - pre.length - 1) + 1 by omega, List.getElem?_cons_succ,
      ← List.getD_eq_getElem?_getD]
    exact getD_of_lt_not_mem (by omega) hext
  have hdot : (pre ++ 46 :: ext).getD pre.length 0 = 46 := by
    rw [List.getD_eq_getElem?_getD, List.getElem?_append_right (le_refl _), Nat.sub_self,
      List.getElem?_cons_zero, Option.getD_some]
  rw [hlen, truncateAtLastDot_of_no_dot _ _ _ hext', truncateAtLastDot, if_pos hdot,
    List.set_append_right _ _ le_rfl, Nat.sub_self]
  rfl

/-- The loop leaves a name with no dot as it is. -/
theorem truncateAtLastDot_no_dot {name : List UInt16} (h : (46 : UInt16) ∉ name) :
    truncateAtLastDot name name.length = name := by
  simpa using truncateAtLastDot_of_no_dot name 0 name.length
    fun j _ hj => getD_of_lt_not_mem (by omega) h

/-- For every name it reads, `item_name_without_extension` gives the part before the name's
last dot, or the whole name when it has no dot. -/
theorem itemNameWithoutExtension_eq_ok (name : List UInt16) (h0 : (0 : UInt16) ∉ name) :
    ∃ stem, itemNameWithoutExtension (.ok name) = .ok stem ∧
      ((∃ ext, (46 : UInt16) ∉ ext ∧ name = stem ++ 46 :: ext) ∨
        ((46 : UInt16) ∉ name ∧ stem = name)) := by
  by_cases hdot : (46 : UInt16) ∈ name
  · obtain ⟨pre, ext, rfl, hext⟩ := exists_last_dot hdot
    refine ⟨pre, ?_, .inl ⟨ext, hext, rfl⟩⟩
    rw [itemNameWithoutExtension, Except.map, truncateAtLastDot_last_dot pre ext hext,
      readPcwstr_of_not_mem fun h => h0 (List.mem_append_left _ h)]
  · refine ⟨name, ?_, .inr ⟨hdot, rfl⟩⟩
    rw [itemNameWithoutExtension, Except.map, truncateAtLastDot_no_dot hdot, readPcwstr,
      List.takeWhile_eq_self_iff.mpr fun a ha => bne_iff_ne.mpr fun (he : a = 0) => h0 (he ▸ ha)]

theorem itemNameWithoutExtension_of_three_parts :
    (0 : UInt16) ∉ wide "a.b.bmx" ∧
      ∃ stem, itemNameWithoutExtension (.ok (wide "a.b.bmx")) = .ok stem ∧
        ((∃ ext, (46 : UInt16) ∉ ext ∧ wide "a.b.bmx" = stem ++ 46 :: ext) ∨
          ((46 : UInt16) ∉ wide "a.b.bmx" ∧ stem = wide "a.b.bmx")) :=
  ⟨by decide, itemNameWithoutExtension_eq_ok _ (by decide)⟩

example : itemNameWithoutExtension (.ok (wide "a.b.bmx")) = .ok (wide "a.b") := by decide

/-- Splitting on a separator always gives a first part: what comes before the first
separator. -/
theorem head?_splitOnP {β : Type} (p : β → Bool) (l : List β) :
    (l.splitOnP p).head? = some (l.takeWhile fun a => !p a) := by
  induction l with
  | nil => rfl
  | cons a l ih =>
    rw [List.splitOnP_cons]
    by_cases hp : p a = true
    · simp [hp]
    · obtain ⟨t, ht⟩ : ∃ t, l.splitOnP p = (l.takeWhile fun a => !p a) :: t := by
        cases hs : l.splitOnP p with
        | nil => simp [hs] at ih
        | cons x t => simp only [hs, List.head?_cons, Option.some.injEq] at ih; exact ⟨t, ih ▸ rfl⟩
      simp [hp, ht]

/-- `transcode_items` always finds a first extension: the `E_UNEXPECTED` never comes out. -/
theorem firstExtension_eq_ok (extensions : List UInt16) :
    firstExtension extensions = .ok (extensions.takeWhile (· != 44)) := by
  simp only [firstExtension, List.splitOn, head?_splitOnP]
  congr 2

/-! What `Invoke` queues. -/

theorem bind_eq_ok {ε β γ : Type} {x : Except ε β} {f : β → Except ε γ} {c : γ} :
    (x >>= f) = .ok c ↔ ∃ b, x = .ok b ∧ f b = .ok c := by
  cases x <;> simp [bind, Except.bind]

theorem pure_eq_ok {ε β : Type} {b c : β} : (pure b : Except ε β) = .ok c ↔ b = c := by
  simp [pure, Except.pure]

theorem forall₂_of_mapM_eq_ok {ε β γ : Type} {f : β → Except ε γ} :
    ∀ {l : List β} {ys : List γ}, l.mapM f = .ok ys → List.Forall₂ (fun a b => f a = .ok b) l ys
  | [], ys, h => by
    rw [List.mapM_nil, pure_eq_ok] at h
    exact h ▸ .nil
  | a :: l, ys, h => by
    rw [List.mapM_cons] at h
    obtain ⟨b, hf, bs, hl, h⟩ := bind_eq_ok.mp h |>.imp fun _ => And.imp_right bind_eq_ok.mp
    exact pure_eq_ok.mp h ▸ .cons hf (forall₂_of_mapM_eq_ok hl)

theorem mapM_eq_ok_of_forall {ε β γ : Type} {f : β → Except ε γ} :
    ∀ {l : List β}, (∀ a ∈ l, ∃ b, f a = .ok b) → ∃ ys, l.mapM f = .ok ys
  | [], _ => ⟨[], rfl⟩
  | a :: l, h => by
    obtain ⟨b, hb⟩ := h a (List.mem_cons_self _ _)
    obtain ⟨ys, hys⟩ := mapM_eq_ok_of_forall fun a ha => h a (List.mem_cons_of_mem _ ha)
    exact ⟨b :: ys, by rw [List.mapM_cons, hb, hys]; rfl⟩

section Invoke

variable {α : Type} {env : SubcommandEnv α}

theorem transcodeItemsStep_eq_ok {items : ShellItemArray α} {result : SaveDialogResult α}
    {containerFormat : Guid} {i : Nat} {call : NewItemCall α}
    (h : transcodeItemsStep env items result containerFormat i = .ok call) :
    ∃ item stem extensions, items.itemAt i = .ok item ∧ env.fileExtensions = .ok extensions ∧
      itemNameWithoutExtension (env.displayName item) = .ok stem ∧
      call = ⟨result.item, readPcwstr (stem ++ extensions.takeWhile (· != 44) ++ [0]), item,
        containerFormat, result.pixelFormat⟩ := by
  simp only [transcodeItemsStep, firstExtension_eq_ok] at h
  obtain ⟨item, hi, h⟩ := bind_eq_ok.mp h
  obtain ⟨extensions, he, h⟩ := bind_eq_ok.mp h
  obtain ⟨extension, hx, h⟩ := bind_eq_ok.mp h
  obtain ⟨stem, hs, h⟩ := bind_eq_ok.mp h
  obtain ⟨_, -, h⟩ := bind_eq_ok.mp h
  cases hx
  exact ⟨item, stem, extensions, hi, he, hs, (pure_eq_ok.mp h).symm⟩

/-- `transcode_items` returning `Ok` queued one call per item, in order, each as its loop turn
made it. -/
theorem transcodeItems_eq_ok {items : ShellItemArray α} {result : SaveDialogResult α}
    {containerFormat : Guid} {calls : List (NewItemCall α)}
    (h : transcodeItems env items result containerFormat = .ok calls) :
    ∃ count, items.count = .ok count ∧ calls.length = count ∧
      ∀ i (hi : i < calls.length),
        transcodeItemsStep env items result containerFormat i = .ok (calls.get ⟨i, hi⟩) := by
  obtain ⟨_, -, h⟩ := bind_eq_ok.mp h
  obtain ⟨count, hc, h⟩ := bind_eq_ok.mp h
  obtain ⟨calls', hm, h⟩ := bind_eq_ok.mp h
  obtain ⟨_, -, h⟩ := bind_eq_ok.mp h
  obtain rfl := pure_eq_ok.mp h
  obtain ⟨hlen, hget⟩ := List.forall₂_iff_get.mp (forall₂_of_mapM_eq_ok hm)
  rw [List.length_range] at hlen
  refine ⟨count, hc, hlen.symm, fun i hi => ?_⟩
  simpa using hget i (by rw [List.length_range]; omega) hi

/-- `transcode_item` returning `Ok` queued one call: in the folder of the file the dialog chose,
under that file's name followed by the chosen type's extension. -/
theorem transcodeItem_eq_ok {item : α} {result : SaveDialogResult α} {containerFormat : Guid}
    {call : NewItemCall α} (h : transcodeItem env item result containerFormat = .ok call) :
    ∃ folder filename, env.displayName result.item = .ok filename ∧
      env.parent result.item = .ok folder ∧
      call = ⟨folder, readPcwstr (filename ++ result.extension.getD [] ++ [0]), item,
        containerFormat, result.pixelFormat⟩ := by
  obtain ⟨_, -, h⟩ := bind_eq_ok.mp h
  obtain ⟨filename, hd, h⟩ := bind_eq_ok.mp h
  obtain ⟨folder, hp, h⟩ := bind_eq_ok.mp h
  obtain ⟨_, -, h⟩ := bind_eq_ok.mp h
  obtain ⟨_, -, h⟩ := bind_eq_ok.mp h
  refine ⟨folder, filename, hd, hp, (pure_eq_ok.mp h).symm.trans ?_⟩
  cases hx : result.extension <;> simp [hx, readPcwstr_append_nul]

/-- Every `Invoke` that returns `Ok` asked the dialog in file mode exactly when one item was
selected. With one item it queued one call, for that item, into the folder of the file the
dialog chose and under that file's name with the chosen type's extension. With any other number
it queued one call per item, in order, into the folder the dialog chose, each under its item's
name without its last extension, followed by the codec's first extension. -/
theorem invoke_queues {known : Guid → Bool} {items : ShellItemArray α}
    {calls : List (NewItemCall α)} (h : invoke env known (some items) = .ok calls) :
    ∃ count request result containerFormat, items.count = .ok count ∧
      env.dialog request = .ok result ∧ env.containerFormat = .ok containerFormat ∧
      request.mode = (if count = 1 then .file else .folder) ∧
      (count = 1 → ∃ item folder filename, items.itemAt 0 = .ok item ∧
        env.displayName result.item = .ok filename ∧ env.parent result.item = .ok folder ∧
        calls = [⟨folder, readPcwstr (filename ++ result.extension.getD [] ++ [0]), item,
          containerFormat, result.pixelFormat⟩]) ∧
      (count ≠ 1 → calls.length = count ∧ ∀ i (hi : i < calls.length),
        ∃ item stem extensions, items.itemAt i = .ok item ∧
          env.fileExtensions = .ok extensions ∧
          itemNameWithoutExtension (env.displayName item) = .ok stem ∧
          calls.get ⟨i, hi⟩ = ⟨result.item, readPcwstr (stem ++ extensions.takeWhile (· != 44) ++ [0]),
            item, containerFormat, result.pixelFormat⟩) := by
  obtain ⟨count, hc, h⟩ := bind_eq_ok.mp h
  obtain ⟨fileName, -, h⟩ := bind_eq_ok.mp h
  obtain ⟨first, -, h⟩ := bind_eq_ok.mp h
  obtain ⟨_, -, h⟩ := bind_eq_ok.mp h
  obtain ⟨_, -, h⟩ := bind_eq_ok.mp h
  obtain ⟨_, -, h⟩ := bind_eq_ok.mp h
  obtain ⟨result, hd, h⟩ := bind_eq_ok.mp h
  obtain ⟨containerFormat, hcf, h⟩ := bind_eq_ok.mp h
  refine ⟨count, _, result, containerFormat, hc, hd, hcf, by simp only [beq_iff_eq], ?_, ?_⟩
  · intro h1
    simp only [h1, beq_self_eq_true, if_true] at h
    obtain ⟨item, hi, h⟩ := bind_eq_ok.mp h
    obtain ⟨call, ht, h⟩ := bind_eq_ok.mp h
    obtain ⟨folder, filename, hd', hp, rfl⟩ := transcodeItem_eq_ok ht
    exact ⟨item, folder, filename, hi, hd', hp, (pure_eq_ok.mp h).symm⟩
  · intro h1
    simp only [beq_iff_eq, h1, if_false] at h
    obtain ⟨count', hc', hlen, hstep⟩ := transcodeItems_eq_ok h
    rw [hc] at hc'
    cases hc'
    exact ⟨hlen, fun i hi => transcodeItemsStep_eq_ok (hstep i hi)⟩

/-- Every call `Invoke` makes into the shell, WIC and the dialog answers `Ok`, whatever it is
given, over a selection of `count` items. -/
def SubcommandEnv.CallsSucceed (env : SubcommandEnv α) (items : ShellItemArray α) (count : Nat) :
    Prop :=
  items.count = .ok count ∧ (∀ i, ∃ item, items.itemAt i = .ok item) ∧
    (∀ item, ∃ name, env.displayName item = .ok name) ∧
    (∀ item, ∃ folder, env.parent item = .ok folder) ∧
    (∃ extensions, env.fileExtensions = .ok extensions) ∧
    (∃ pixelFormats, env.pixelFormats = .ok pixelFormats) ∧
    (∀ request, ∃ result, env.dialog request = .ok result) ∧
    (∃ containerFormat, env.containerFormat = .ok containerFormat) ∧
    env.createOperation = .ok () ∧ (∀ call, env.newItem call = .ok ()) ∧
    env.performOperations = .ok ()

theorem invoke_eq_ok_of_callsSucceed {known : Guid → Bool} {items : ShellItemArray α}
    {count : Nat} (h : env.CallsSucceed items count) :
    ∃ calls, invoke env known (some items) = .ok calls := by
  obtain ⟨hcount, hitem, hname, hparent, ⟨extensions, hext⟩, ⟨pixelFormats, hpf⟩, hdialog,
    ⟨containerFormat, hcf⟩, hop, hnew, hperform⟩ := h
  obtain ⟨first, hfirst⟩ := hitem 0
  obtain ⟨folder, hfolder⟩ := hparent first
  obtain ⟨name, hn⟩ := hname first
  by_cases h1 : count = 1
  · obtain ⟨result, hresult⟩ := hdialog ⟨some (readPcwstr (truncateAtLastDot name name.length)),
      .file, folder, extensions, pixelFormats.filter known⟩
    obtain ⟨filename, hfn⟩ := hname result.item
    obtain ⟨parent, hp⟩ := hparent result.item
    simp only [invoke, offeredFileName, itemNameWithoutExtension, transcodeItem, h1, hcount, hfirst,
      hfolder, hn, hext, hpf, hresult, hcf, hop, hfn, hp, hnew, hperform, beq_self_eq_true,
      if_true, bind, Except.bind, pure, Except.pure, Except.map]
    exact ⟨_, rfl⟩
  · obtain ⟨result, hresult⟩ :=
      hdialog ⟨none, .folder, folder, extensions, pixelFormats.filter known⟩
    obtain ⟨calls, hm⟩ : ∃ calls, (List.range count).mapM
        (transcodeItemsStep env items result containerFormat) = .ok calls :=
      mapM_eq_ok_of_forall fun i _ => by
        obtain ⟨item, hi⟩ := hitem i
        obtain ⟨stem, hs⟩ := hname item
        simp only [transcodeItemsStep, hi, hext, firstExtension_eq_ok, itemNameWithoutExtension, hs,
          hnew, bind, Except.bind, pure, Except.pure, Except.map]
        exact ⟨_, rfl⟩
    simp only [invoke, offeredFileName, transcodeItems, h1, hcount, hfirst, hfolder, hext, hpf,
      hresult, hcf, hop, hm, hperform, beq_iff_eq, if_false, bind, Except.bind, pure, Except.pure]
    exact ⟨_, rfl⟩

end Invoke

/-! `SaveDialog`, whose result `Invoke` reads. -/

def E_NOTIMPL : Hresult := .other 0x80004001

structure SaveDialogData where
  mode : SaveDialogMode
  extensions : Option (List (List UInt16))
  pixelFormats : List Guid
  selectedItem : UInt32

/-- `SaveDialog::COMBO_BOX_CONTROL_ID`: one more than `u32::from_le_bytes(*b"BMX\0")`. -/
def COMBO_BOX_CONTROL_ID : UInt32 := 0x00584D42 + 1

/-- `SaveDialog::OnItemSelected`. The dialog's other events answer `E_NOTIMPL` and change
nothing. -/
def onItemSelected (inner : Option SaveDialogData) (controlId itemId : UInt32) :
    Outcome (Option SaveDialogData) Unit :=
  if controlId = COMBO_BOX_CONTROL_ID then
    match inner with
    | none => .error (.ofCode .E_UNEXPECTED) none
    | some d =>
      if itemId < d.pixelFormats.length.toUInt32 then .ok () (some { d with selectedItem := itemId })
      else .error (.ofCode .E_INVALIDARG) (some d)
  else .error (.ofCode E_NOTIMPL) inner

/-- The dialog's state after the combo box events `selections`, each handled whatever the ones
before returned. -/
def selectionRun (inner : Option SaveDialogData) : List (UInt32 × UInt32) → Option SaveDialogData
  | [] => inner
  | (controlId, itemId) :: rest =>
    match onItemSelected inner controlId itemId with
    | .ok () inner' => selectionRun inner' rest
    | .error _ inner' => selectionRun inner' rest
    | .panic _ => inner

/-- The spec of "All Image Files": `*` and each extension, joined by commas, the last comma
made a NUL. -/
def allImageFiles (extensions : List (List UInt16)) : List UInt16 :=
  (extensions.flatMap fun ext => 42 :: ext ++ [44]).dropLast ++ [0]

/-- The file types `show` gives the dialog in file mode, as `(name, spec)` read up to their
NULs: one for each extension the shell names, then "All Image Files" and "All Files". -/
def fileTypes (typeName : List UInt16 → Option (List UInt16)) (extensions : List (List UInt16)) :
    List (List UInt16 × List UInt16) :=
  extensions.filterMap (fun ext => (typeName ext).map fun name => (name, readPcwstr (42 :: ext ++ [0]))) ++
    [(wide "All Image Files", readPcwstr (allImageFiles extensions)), (wide "All Files", wide "*.*")]

/-- What the pointer `show` gives `SetDefaultExtension` points at, to the end of its buffer: the
first extension, past its dot. The dialog reads it up to a NUL. -/
def defaultExtensionBuffer (fileExtensions : List UInt16) : List UInt16 :=
  ((fileExtensions.splitOn 44).headD []).drop 1

/-- What the Common Item Dialog, the shell and the user answer `SaveDialog::show`. -/
structure DialogEnv (α : Type) where
  /-- The calls that create and set up the dialog, up to `Advise`, on what `show` was given and,
  in file mode, the file types and default extension it computed: the first error, or `Ok`. -/
  setup : SaveDialogRequest α → Option (List (List UInt16 × List UInt16) × List UInt16) →
    Except ComError Unit
  /-- `SHGetFileInfoW(.., SHGFI_TYPENAME | SHGFI_USEFILEATTRIBUTES)` on an extension: its type
  name, or `none` when it returns 0. -/
  typeName : List UInt16 → Option (List UInt16)
  /-- The `OnItemSelected` events while the dialog is shown: control id and item id. -/
  selections : List (UInt32 × UInt32)
  showDialog : Except ComError Unit
  /-- `GetFileTypeIndex`: the one-based index of the chosen entry of the file types. -/
  fileTypeIndex : Except ComError UInt32
  result : Except ComError α
  unadvise : Except ComError Unit

/-- Whatever the combo box events, the selected item stays 0 or an index of the pixel formats,
and the rest of the dialog's data stays as `show` stored it. -/
theorem selectionRun_selected (d : SaveDialogData) (s : UInt32)
    (hs : s = 0 ∨ s.toNat < d.pixelFormats.length) (selections : List (UInt32 × UInt32)) :
    ∃ s', selectionRun (some { d with selectedItem := s }) selections =
      some { d with selectedItem := s' } ∧ (s' = 0 ∨ s'.toNat < d.pixelFormats.length) := by
  induction selections generalizing s with
  | nil => exact ⟨s, rfl, hs⟩
  | cons e rest ih =>
    obtain ⟨controlId, itemId⟩ := e
    simp only [selectionRun, onItemSelected]
    split_ifs with hc hi
    · -- the item is below the count, which `as u32` can only lower
      refine ih itemId (.inr ?_)
      rw [UInt32.lt_iff_toNat] at hi
      have : d.pixelFormats.length.toUInt32.toNat ≤ d.pixelFormats.length := by
        simp only [Nat.toUInt32, UInt32.toNat_ofNat']; exact Nat.mod_le _ _
      simpa using Nat.lt_of_lt_of_le hi this
    · exact ih s hs
    · exact ih s hs

section Dialog

variable {α : Type} (env : DialogEnv α)

/-- The `extension` of `do_show`: in file mode the one at `GetFileTypeIndex`, if there is one. -/
def chosenExtension (extensions : Option (List (List UInt16))) :
    Except ComError (Option (List UInt16)) :=
  match extensions with
  | some extensions => env.fileTypeIndex.map fun i => extensions[i.toNat]?
  | none => .ok none

/-- `SaveDialog::do_show`, on the dialog's state once `Show` has returned; `none` is the panic of
indexing `pixel_formats` past its end. -/
def doShow (inner : Option SaveDialogData) : Option (Except ComError (SaveDialogResult α)) :=
  match env.showDialog with
  | .error e => some (.error e)
  | .ok () =>
    match inner with
    | none => some (.error (.ofCode .E_UNEXPECTED))
    | some d =>
      match d.pixelFormats[d.selectedItem.toNat]? with
      | none => none
      | some pixelFormat => some do
        let extension ← chosenExtension env d.extensions
        let item ← env.result
        pure ⟨pixelFormat, item, extension⟩

/-- What `show` gives `SetFileTypes` and `SetDefaultExtension`, in file mode only. -/
def fileModeSetup (request : SaveDialogRequest α) :
    Option (List (List UInt16 × List UInt16) × List UInt16) :=
  match request.mode with
  | .file => some (fileTypes env.typeName (request.fileExtensions.splitOn 44),
      defaultExtensionBuffer request.fileExtensions)
  | .folder => none

/-- The `SaveDialogData` that `show` stores: in file mode the codec's extensions split at commas. -/
def dialogData (request : SaveDialogRequest α) : SaveDialogData where
  mode := request.mode
  extensions := match request.mode with
    | .file => some (request.fileExtensions.splitOn 44)
    | .folder => none
  pixelFormats := request.pixelFormats
  selectedItem := 0

/-- `SaveDialog::show` on a dialog in state `inner`, with what `Invoke` gives it; `none` is a
panic. In file mode the dialog offers `fileTypes` of the codec's extensions. -/
def saveDialogShow (inner : Option SaveDialogData) (request : SaveDialogRequest α) :
    Option (Except ComError (SaveDialogResult α)) :=
  if inner.isSome then some (.error (.ofCode .ERROR_ALREADY_INITIALIZED))
  else
    match env.setup request (fileModeSetup env request) with
    | .error e => some (.error e)
    | .ok () =>
      match doShow env (selectionRun (some (dialogData request)) env.selections) with
      | none => none
      | some result =>
        match env.unadvise with
        | .error e => some (.error e)
        | .ok () => some result

/-- `do_show` panics exactly when `Show` returns `Ok` and the selected item is past the pixel
formats. -/
theorem doShow_eq_none_iff (d : SaveDialogData) :
    doShow env (some d) = none ↔
      env.showDialog = .ok () ∧ d.pixelFormats[d.selectedItem.toNat]? = none := by
  unfold doShow
  cases h : env.showDialog with
  | error e => simp
  | ok u => simp only [true_and]; split <;> simp_all

/-- `show` panics exactly when its setup returns `Ok` and `do_show` panics. -/
theorem saveDialogShow_eq_none_iff_doShow (request : SaveDialogRequest α) :
    saveDialogShow env none request = none ↔ env.setup request (fileModeSetup env request) = .ok () ∧
      doShow env (selectionRun (some (dialogData request)) env.selections) = none := by
  unfold saveDialogShow
  cases env.setup request (fileModeSetup env request) with
  | error e => simp
  | ok u =>
    simp only [Option.isSome_none, Bool.false_eq_true, if_false, true_and]
    split
    · simp_all
    · split <;> simp_all

/-- The extension `do_show` returns in file mode is the `GetFileTypeIndex`-th of the codec's,
counted from 0. -/
theorem doShow_extension {d : SaveDialogData} {result : SaveDialogResult α}
    {extensions : List (List UInt16)} {k : UInt32} (h : doShow env (some d) = some (.ok result))
    (hd : d.extensions = some extensions) (hk : env.fileTypeIndex = .ok k) :
    result.extension = extensions[k.toNat]? := by
  simp only [doShow] at h
  split at h
  · simp at h
  · split at h
    · simp at h
    · obtain ⟨extension, hext, hr⟩ := bind_eq_ok.1 (Option.some_inj.1 h)
      obtain ⟨item, -, hr⟩ := bind_eq_ok.1 hr
      rw [pure_eq_ok] at hr
      simp only [chosenExtension, hd, hk, Except.map, Except.ok.injEq] at hext
      rw [← hr, hext]

/-- A result a new dialog's `show` returns is one `do_show` returned on the data `show` stored,
with some selected item. -/
theorem saveDialogShow_doShow {request : SaveDialogRequest α} {result : SaveDialogResult α}
    (h : saveDialogShow env none request = some (.ok result)) :
    ∃ s, doShow env (some { dialogData request with selectedItem := s }) = some (.ok result) := by
  obtain ⟨s, hrun, -⟩ := selectionRun_selected (dialogData request) 0 (.inl rfl) env.selections
  refine ⟨s, ?_⟩
  unfold saveDialogShow at h
  rw [show dialogData request = { dialogData request with selectedItem := 0 } from rfl, hrun] at h
  simp only [Option.isSome_none, Bool.false_eq_true, if_false] at h
  split at h
  · simp at h
  · split at h
    · simp at h
    · rename_i hr
      split at h <;> simp_all

end Dialog

/-- A selected item that is 0 or below the count is past the pixel formats only when there are
none. -/
theorem getElem?_selected_eq_none_iff (pixelFormats : List Guid) {s : UInt32}
    (hs : s = 0 ∨ s.toNat < pixelFormats.length) :
    pixelFormats[s.toNat]? = none ↔ pixelFormats = [] := by
  rw [List.getElem?_eq_none_iff]
  rcases hs with rfl | hs
  · simp [List.length_eq_zero]
  · constructor
    · omega
    · rintro rfl; simp at hs

/-- For every answer of the dialog and every combo box event, a new dialog's `show` panics
exactly when its setup and `Show` return `Ok` and it was given no pixel format: `do_show` then
indexes an empty `pixel_formats`. -/
theorem saveDialogShow_eq_none_iff {α : Type} (env : DialogEnv α) (request : SaveDialogRequest α) :
    saveDialogShow env none request = none ↔
      env.setup request (fileModeSetup env request) = .ok () ∧ env.showDialog = .ok () ∧
        request.pixelFormats = [] := by
  obtain ⟨s, hrun, hs⟩ := selectionRun_selected (dialogData request) 0 (.inl rfl) env.selections
  rw [saveDialogShow_eq_none_iff_doShow, show dialogData request = { dialogData request with
    selectedItem := 0 } from rfl, hrun, doShow_eq_none_iff, getElem?_selected_eq_none_iff _ hs]
  rfl

theorem saveDialogShow_eq_none_of_no_pixel_format :
    let env : DialogEnv Nat := ⟨fun _ _ => .ok (), fun _ => none, [(COMBO_BOX_CONTROL_ID, 0)],
      .ok (), .ok 1, .ok 3, .ok ()⟩
    let request : SaveDialogRequest Nat := ⟨some (wide "a"), .file, 5, wide ".png" ++ [0], []⟩
    (saveDialogShow env none request = none ↔
      env.setup request (fileModeSetup env request) = .ok () ∧ env.showDialog = .ok () ∧
        request.pixelFormats = []) ∧
      saveDialogShow env none request = none :=
  ⟨saveDialogShow_eq_none_iff _ _, rfl⟩

/-- Indexing the results of a `filterMap` that keeps every element, followed by more entries. -/
theorem getElem?_filterMap_append {β γ : Type} {f : β → Option γ} {l : List β}
    (hf : ∀ x ∈ l, (f x).isSome) (tail : List γ) {i : Nat} (hi : i < l.length) :
    (l.filterMap f ++ tail)[i]? = f l[i] := by
  induction l generalizing i with
  | nil => simp at hi
  | cons x xs ih =>
    obtain ⟨y, hy⟩ := Option.isSome_iff_exists.1 (hf x (List.mem_cons_self x xs))
    rw [List.filterMap_cons_some hy]
    cases i with
    | zero => simp [hy]
    | succ i =>
      simp only [List.cons_append, List.getElem?_cons_succ, List.getElem_cons_succ]
      exact ih (fun x hx => hf x (List.mem_cons_of_mem _ hx)) (by simpa using hi)

/-- When the shell names every extension, the `i`-th file type the dialog offers is the `i`-th
extension's. -/
theorem fileTypes_getElem? {typeName : List UInt16 → Option (List UInt16)}
    {extensions : List (List UInt16)} (hnames : ∀ ext ∈ extensions, (typeName ext).isSome)
    {i : Nat} (hi : i < extensions.length) :
    ∃ name, (fileTypes typeName extensions)[i]? =
      some (name, readPcwstr (42 :: extensions[i] ++ [0])) := by
  obtain ⟨name, hname⟩ := Option.isSome_iff_exists.1 (hnames _ (List.getElem_mem hi))
  exact ⟨name, by rw [fileTypes, getElem?_filterMap_append (by simpa using hnames) _ hi, hname]; rfl⟩

/-- In file mode, when the shell names each of the codec's extensions and they are distinct, the
extension a new dialog's `show` returns is never that of the file type the user chose:
`GetFileTypeIndex` is one-based and `do_show` indexes the extensions from 0 with it, so it
returns the next type's extension, or none after the last. -/
theorem saveDialogShow_extension_off_by_one {α : Type} {env : DialogEnv α}
    {request : SaveDialogRequest α} {result : SaveDialogResult α} {k : UInt32}
    (hmode : request.mode = .file)
    (hnames : ∀ ext ∈ request.fileExtensions.splitOn 44, (env.typeName ext).isSome)
    (hnodup : (request.fileExtensions.splitOn 44).Nodup) (hk : env.fileTypeIndex = .ok k)
    (hk1 : 1 ≤ k.toNat) (hkn : k.toNat ≤ (request.fileExtensions.splitOn 44).length)
    (h : saveDialogShow env none request = some (.ok result)) :
    ∃ name ext, (fileTypes env.typeName (request.fileExtensions.splitOn 44))[k.toNat - 1]? =
        some (name, readPcwstr (42 :: ext ++ [0])) ∧
      result.extension = (request.fileExtensions.splitOn 44)[k.toNat]? ∧
      result.extension ≠ some ext := by
  have hi : k.toNat - 1 < (request.fileExtensions.splitOn 44).length := by omega
  obtain ⟨s, hs⟩ := saveDialogShow_doShow env h
  have hext := doShow_extension env hs (show (dialogData request).extensions =
    some (request.fileExtensions.splitOn 44) by simp [dialogData, hmode]) hk
  obtain ⟨name, hname⟩ := fileTypes_getElem? hnames hi
  refine ⟨name, _, hname, hext, fun heq => ?_⟩
  -- the chosen type's extension sits at `k - 1`, the returned one at `k`
  have : k.toNat - 1 = k.toNat :=
    List.getElem?_inj hi hnodup (by rw [List.getElem?_eq_getElem hi, ← heq, hext])
  omega

theorem saveDialogShow_extension_off_by_one_of_png :
    let env : DialogEnv Nat := ⟨fun _ _ => .ok (), fun _ => some (wide "PNG image"), [], .ok (),
      .ok 1, .ok 3, .ok ()⟩
    let request : SaveDialogRequest Nat :=
      ⟨none, .file, 5, wide ".png,.PNG" ++ [0], [GUID_WICPixelFormat8bppIndexed]⟩
    request.mode = .file ∧
      (∀ ext ∈ request.fileExtensions.splitOn 44, (env.typeName ext).isSome) ∧
      (request.fileExtensions.splitOn 44).Nodup ∧ env.fileTypeIndex = .ok 1 ∧
      1 ≤ (1 : UInt32).toNat ∧ (1 : UInt32).toNat ≤ (request.fileExtensions.splitOn 44).length ∧
      saveDialogShow env none request =
        some (.ok ⟨GUID_WICPixelFormat8bppIndexed, 3, some (wide ".PNG" ++ [0])⟩) ∧
      ∃ name ext, (fileTypes env.typeName (request.fileExtensions.splitOn 44))[(1 : UInt32).toNat - 1]? =
          some (name, readPcwstr (42 :: ext ++ [0])) ∧
        (some (wide ".PNG" ++ [0]) : Option (List UInt16)) =
          (request.fileExtensions.splitOn 44)[(1 : UInt32).toNat]? ∧
        (some (wide ".PNG" ++ [0]) : Option (List UInt16)) ≠ some ext :=
  let h := rfl
  ⟨rfl, by decide, by decide, rfl, by decide, by decide, h,
    saveDialogShow_extension_off_by_one rfl (by decide) (by decide) rfl
      (by decide) (by decide) h⟩

/-- For the codec's extensions `xs` and the NUL of their buffer, the first extension that
`SetDefaultExtension` is pointed into has a NUL exactly when there is no comma: when the codec
lists more than one extension, the dialog reads past the end of its buffer. -/
theorem defaultExtensionBuffer_nul_iff (xs : List UInt16) (hne : xs ≠ [])
    (h0 : (0 : UInt16) ∉ xs) :
    (0 : UInt16) ∈ defaultExtensionBuffer (xs ++ [0]) ↔ (44 : UInt16) ∉ xs := by
  rw [defaultExtensionBuffer, List.splitOn, List.headD_eq_head?_getD, head?_splitOnP,
    Option.getD_some]
  by_cases h44 : (44 : UInt16) ∈ xs
  · -- the first extension ends at the first comma, inside `xs`
    have hlen : (xs.takeWhile fun a => !(a == 44)).length ≠ xs.length := fun hl => by
      have := List.takeWhile_eq_self_iff.1 ((List.takeWhile_prefix _).eq_of_length hl) 44 h44
      simp at this
    rw [List.takeWhile_append, if_neg hlen]
    simp only [h44, not_true_eq_false, iff_false]
    exact fun h => h0 ((List.takeWhile_prefix _).subset (List.mem_of_mem_drop h))
  · -- the first extension is all of `xs` and the NUL
    have hall : ∀ a ∈ xs, (!(a == 44)) = true := fun a ha => by
      simpa using ne_of_mem_of_not_mem ha h44
    have hlen : 1 ≤ xs.length := List.length_pos.2 hne
    rw [List.takeWhile_append_of_pos hall, List.drop_append_of_le_length hlen]
    simp [h44]

theorem defaultExtensionBuffer_nul_iff_of_jpeg :
    wide ".jpeg,.jpg" ≠ [] ∧ (0 : UInt16) ∉ wide ".jpeg,.jpg" ∧
      ((0 : UInt16) ∈ defaultExtensionBuffer (wide ".jpeg,.jpg" ++ [0]) ↔
        (44 : UInt16) ∉ wide ".jpeg,.jpg") :=
  ⟨by decide, by decide, defaultExtensionBuffer_nul_iff _ (by decide) (by decide)⟩

end BmxShell.Shell
