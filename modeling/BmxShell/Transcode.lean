import BmxShell.Com
import Mathlib.Data.List.Basic

/-!
The transcode command of `com/shell/command/transcode.rs`, where it decides and enumerates.
`GetState` shows the command when `item_array_has_matching_decoders` answers `Ok(true)`:
its loop stops at the first item that is no picture or has no MIME type, with `Ok(false)`,
but also at the first item some decoder matches, with `Ok(true)`, so the items after that
one are never looked at; and a decoder's MIME type matches every item MIME type it
begins, unless it is the last in the decoder's list. `TranscodeEnumSubcommands::Next`
fetches from the encoders' `IEnumUnknown` in batches of at most 20 and writes a command
for each component that casts to `IWICBitmapCodecInfo`: over a finite sequence it ends,
writes `*fetched` commands, and answers `S_OK` exactly when it wrote all it was asked for.
Wide strings are their UTF-16 code units before the terminating NUL.
-/

namespace BmxShell.Shell

/-! Wide strings. -/

/-- `w!(s)` for ASCII text, without its NUL. -/
def wide (s : String) : List UInt16 := s.toList.map fun c => c.toNat.toUInt16

/-- `towlower` on a UTF-16 code unit in the C locale: only `A` to `Z` fold. -/
def toLowerAscii (c : UInt16) : UInt16 := if 65 ≤ c ∧ c ≤ 90 then c + 32 else c

/-- `_wcsnicmp(a, b, count) == 0`. Past its end `a` reads as NUL; the comparison stops at
the first pair that differs after folding, after a NUL of `a`, or after `count` pairs. -/
def wcsnicmpEq : List UInt16 → List UInt16 → Nat → Bool
  | _, _, 0 => true
  | a, b, count + 1 =>
    let f := toLowerAscii (a.headD 0)
    let l := toLowerAscii (b.headD 0)
    if f ≠ l then false
    else if f = 0 then true
    else wcsnicmpEq a.tail b.tail count

/-- `pcwstr_is_equal_to_slice_no_case`: `_wcsnicmp` over the slice's length. -/
def pcwstrIsEqualToSliceNoCase (first second : List UInt16) : Bool :=
  wcsnicmpEq first second second.length

/-- `pcwstr_is_equal_to_pcwstr_no_case`: `_wcsicmp`, which stops by the NUL of `first`, so
`_wcsnicmp` with room for that NUL. -/
def pcwstrIsEqualToPcwstrNoCase (first second : List UInt16) : Bool :=
  wcsnicmpEq first second (first.length + 1)

theorem toLowerAscii_ne_zero {c : UInt16} (h : c ≠ 0) : toLowerAscii c ≠ 0 := by
  unfold toLowerAscii
  split_ifs with hr
  · intro h0
    have hlo := UInt16.le_iff_toNat.mp hr.1
    have hhi := UInt16.le_iff_toNat.mp hr.2
    have hsum := congrArg UInt16.toNat h0
    simp only [UInt16.toNat_add', UInt16.toNat_ofNat_lit] at hlo hhi hsum
    omega
  · exact h

/-- `_wcsnicmp` over the length of a string without NUL finds it equal to every string it
begins. -/
theorem wcsnicmpEq_append {a : List UInt16} (s : List UInt16) (ha : ∀ c ∈ a, c ≠ 0) :
    wcsnicmpEq (a ++ s) a a.length = true := by
  induction a with
  | nil => rfl
  | cons c cs ih =>
    have hc := toLowerAscii_ne_zero (ha c (List.mem_cons_self _ _))
    simp only [List.length_cons, List.cons_append, wcsnicmpEq, List.headD_cons, List.tail_cons,
      ne_eq, not_true_eq_false, if_false, hc, ite_false]
    exact ih fun x hx => ha x (List.mem_cons_of_mem _ hx)

/-! Shell items and decoders. -/

/-- A `PROPVARIANT` as `propvariant_to_lpwstr` and `propvariant_to_lpwstr_slice` read it:
a `VT_LPWSTR`, a `VT_VECTOR | VT_LPWSTR`, or any other type. -/
inductive PropVariant
  | lpwstr (value : List UInt16)
  | lpwstrVector (values : List (List UInt16))
  | other

/-- An item's property store: what `GetValue(&PKEY_Kind)` and `GetValue(&PKEY_MIMEType)`
return. -/
structure PropertyStore where
  kind : Except ComError PropVariant
  mimeType : Except ComError PropVariant

/-- A selected item: what `GetItemAt(i)` and then `BindToHandler(None, &BHID_PropertyStore)`
return. -/
structure ShellItem where
  store : Except ComError PropertyStore

/-- An `IWICBitmapCodecInfo`: what `GetPixelFormats` and `GetMimeTypes` return through
`get_with_buffer!`. The MIME types are comma-separated, and the buffer ends with the NUL. -/
structure CodecInfo where
  pixelFormats : Except ComError (List Guid)
  mimeTypes : Except ComError (List UInt16)

/-- The decoders as `get_component_iterator::<IWICBitmapCodecInfo>(.., WICDecoder, ..)`
yields them: creating the enumerator, then each component or the error of its `Next` or
cast. After a failed `Next` the iterator calls `Next` again, so the list is the answers of
successive calls, taken to end in `S_FALSE` after finitely many. -/
abbrev Decoders := Except ComError (List (Except ComError CodecInfo))

def E_PENDING : Hresult := .other 0x8000000A

def ECS_ENABLED : UInt32 := 0

def ECS_HIDDEN : UInt32 := 2

section Matching

/-! `known` is `pixel_format_is_known`: whether `pixel_format_friendly_name` names the
format. The table itself is left open, and every result holds for any table. -/

variable (known : Guid → Bool)

/-- The closure given to `any` over the decoders: the decoder has a known pixel format and
one of its MIME types, compared over its own length, matches the item's. -/
def decoderMatches (mime : List UInt16) (decoder : CodecInfo) : Bool :=
  match decoder.pixelFormats with
  | .error _ => false
  | .ok pixelFormats =>
    if !pixelFormats.any known then false
    else match decoder.mimeTypes with
      | .error _ => false
      | .ok mimeTypes => (mimeTypes.splitOn 44).any (pcwstrIsEqualToSliceNoCase mime ·)

/-- One turn of the item loop of `item_array_has_matching_decoders`: `some b` returns
`Ok(b)`, `none` goes on to the next item. -/
def itemStep (decoders : Decoders) (item : ShellItem) : Except ComError (Option Bool) := do
  let store ← item.store
  let .lpwstrVector kinds ← store.kind | return some false
  if !kinds.any (pcwstrIsEqualToPcwstrNoCase · (wide "picture")) then return some false
  let .lpwstr mime ← store.mimeType | return some false
  let decoders ← decoders
  if (decoders.filterMap Except.toOption).any (decoderMatches known mime) then return some true
  return none

/-- The item loop: the first turn that returns decides, and `Ok(false)` after the last. -/
def itemLoop (decoders : Decoders) : List ShellItem → Except ComError Bool
  | [] => .ok false
  | item :: items => do
    match ← itemStep known decoders item with
    | some result => return result
    | none => itemLoop decoders items

/-- `item_array_has_matching_decoders`, on what `GetCount` and `GetItemAt` give. -/
def itemArrayHasMatchingDecoders (items : Except ComError (List ShellItem))
    (decoders : Decoders) : Except ComError Bool := do
  itemLoop known decoders (← items)

/-- `Transcode::GetState`. `decoders` is `none` before `Initialize`, else the decoders of
the command's imaging factory. -/
def getState (decoders : Option Decoders) (items : Option (Except ComError (List ShellItem)))
    (okToBeSlow : Bool) : Except ComError UInt32 := do
  let some items := items | throw (.ofCode .E_POINTER)
  if !okToBeSlow then throw (.ofCode E_PENDING)
  let some decoders := decoders | throw (.ofCode .E_UNEXPECTED)
  if ← itemArrayHasMatchingDecoders known items decoders then return ECS_ENABLED
  else return ECS_HIDDEN

/-- The item loop answers `Ok(true)` exactly when some item is matched and every item
before it went on: a picture with a MIME type that no decoder matched. -/
theorem itemLoop_eq_ok_true_iff {decoders : Decoders} {items : List ShellItem} :
    itemLoop known decoders items = .ok true ↔
      ∃ pre item post, items = pre ++ item :: post ∧
        (∀ x ∈ pre, itemStep known decoders x = .ok none) ∧
        itemStep known decoders item = .ok (some true) := by
  induction items with
  | nil => simp [itemLoop]
  | cons x xs ih =>
    -- A split of `x :: xs` starts at `x`, or puts `x` first in the items before.
    have hsplit : (∃ pre item post, x :: xs = pre ++ item :: post ∧
        (∀ y ∈ pre, itemStep known decoders y = .ok none) ∧
        itemStep known decoders item = .ok (some true)) ↔
        itemStep known decoders x = .ok (some true) ∨ (itemStep known decoders x = .ok none ∧
          ∃ pre item post, xs = pre ++ item :: post ∧
            (∀ y ∈ pre, itemStep known decoders y = .ok none) ∧
            itemStep known decoders item = .ok (some true)) := by
      constructor
      · rintro ⟨pre, item, post, heq, hpre, hitem⟩
        rcases List.cons_eq_append_iff.mp heq with ⟨rfl, hxs⟩ | ⟨pre', rfl, hxs⟩
        · obtain ⟨rfl, rfl⟩ := List.cons.inj hxs
          exact Or.inl hitem
        · exact Or.inr ⟨hpre x (List.mem_cons_self _ _), pre', item, post, hxs,
            fun y hy => hpre y (List.mem_cons_of_mem _ hy), hitem⟩
      · rintro (hx | ⟨hx, pre, item, post, rfl, hpre, hitem⟩)
        · exact ⟨[], x, xs, rfl, fun _ h => absurd h (List.not_mem_nil _), hx⟩
        · exact ⟨x :: pre, item, post, rfl, List.forall_mem_cons.mpr ⟨hx, hpre⟩, hitem⟩
    rw [hsplit, ← ih]
    cases hx : itemStep known decoders x with
    | error e => simp [itemLoop, hx, bind, Except.bind]
    | ok r => cases r <;> simp [itemLoop, hx, bind, Except.bind, pure, Except.pure]

/-- A decoder with a known pixel format matches every item MIME type that begins with one
of its MIME types, as long as that one has no NUL: all but the last of the list. -/
theorem decoderMatches_append {pixelFormats : List Guid} {mimeTypes entry : List UInt16}
    (hknown : pixelFormats.any known = true) (hentry : entry ∈ mimeTypes.splitOn 44)
    (hnul : ∀ c ∈ entry, c ≠ 0) (suffix : List UInt16) :
    decoderMatches known (entry ++ suffix) ⟨.ok pixelFormats, .ok mimeTypes⟩ = true := by
  simp only [decoderMatches, hknown, Bool.not_true, Bool.false_eq_true, if_false, List.any_eq_true]
  exact ⟨entry, hentry, wcsnicmpEq_append suffix hnul⟩

theorem decoderMatches_image_bmpx :
    wide "image/bmpx" ∉ (wide "image/bmp,image/x-bmp" ++ [0]).splitOn 44 ∧
    decoderMatches (fun _ => true) (wide "image/bmp" ++ wide "x")
      ⟨.ok [GUID_WICPixelFormat8bppIndexed], .ok (wide "image/bmp,image/x-bmp" ++ [0])⟩ = true :=
  ⟨by decide, decoderMatches_append _ (by rfl) (by decide) (by decide) _⟩

theorem getState_eq_enabled_iff_itemLoop {decoders : Decoders} {items : List ShellItem} :
    getState known (some decoders) (some (.ok items)) true = .ok ECS_ENABLED ↔
      itemLoop known decoders items = .ok true := by
  simp only [getState, itemArrayHasMatchingDecoders, Bool.not_true, Bool.false_eq_true, if_false]
  cases h : itemLoop known decoders items with
  | error e => simp [h, bind, Except.bind, pure, Except.pure]
  | ok b => cases b <;> simp [h, bind, Except.bind, pure, Except.pure, ECS_ENABLED, ECS_HIDDEN]

/-- `GetState` shows the command exactly when some item is matched and every item before it
is a picture with a MIME type that no decoder matched. -/
theorem getState_eq_enabled_iff {decoders : Decoders} {items : List ShellItem} :
    getState known (some decoders) (some (.ok items)) true = .ok ECS_ENABLED ↔
      ∃ pre item post, items = pre ++ item :: post ∧
        (∀ x ∈ pre, itemStep known decoders x = .ok none) ∧
        itemStep known decoders item = .ok (some true) :=
  getState_eq_enabled_iff_itemLoop known |>.trans (itemLoop_eq_ok_true_iff known)

/-- Once the first item is matched, `GetState` shows the command whatever the other items
are. -/
theorem getState_enabled_of_first_match {decoders : Decoders} {item : ShellItem}
    (hitem : itemStep known decoders item = .ok (some true)) (post : List ShellItem) :
    getState known (some decoders) (some (.ok (item :: post))) true = .ok ECS_ENABLED := by
  rw [getState_eq_enabled_iff_itemLoop, itemLoop, hitem]
  rfl

end Matching

/-- A picture of MIME type `image/bmp`, a text document, and a decoder for BMP whose MIME
types are `image/bmp,image/x-bmp`. -/
theorem getState_enabled_for_picture_and_document :
    itemStep (fun _ => true) (.ok [.ok ⟨.ok [GUID_WICPixelFormat8bppIndexed],
        .ok (wide "image/bmp,image/x-bmp" ++ [0])⟩])
      ⟨.ok ⟨.ok (.lpwstrVector [wide "picture"]), .ok (.lpwstr (wide "image/bmp"))⟩⟩ =
        .ok (some true) ∧
    itemStep (fun _ => true) (.ok [.ok ⟨.ok [GUID_WICPixelFormat8bppIndexed],
        .ok (wide "image/bmp,image/x-bmp" ++ [0])⟩])
      ⟨.ok ⟨.ok (.lpwstrVector [wide "document"]), .ok (.lpwstr (wide "text/plain"))⟩⟩ =
        .ok (some false) ∧
    getState (fun _ => true) (some (.ok [.ok ⟨.ok [GUID_WICPixelFormat8bppIndexed],
        .ok (wide "image/bmp,image/x-bmp" ++ [0])⟩]))
      (some (.ok [⟨.ok ⟨.ok (.lpwstrVector [wide "picture"]), .ok (.lpwstr (wide "image/bmp"))⟩⟩,
        ⟨.ok ⟨.ok (.lpwstrVector [wide "document"]), .ok (.lpwstr (wide "text/plain"))⟩⟩])) true =
        .ok ECS_ENABLED :=
  let hitem := by decide
  ⟨hitem, by decide, getState_enabled_of_first_match _ hitem _⟩

section Enumeration

/-- What `IEnumUnknown::Next` puts in one slot: no object, an object that casts to
`IWICBitmapCodecInfo` (with the command made from it), or one that does not cast. -/
inductive Component (α : Type)
  | absent
  | codec (command : α)
  | other

/-- The command a slot gives, if it casts. -/
def Component.codec? {α : Type} : Component α → Option α
  | .codec command => some command
  | _ => none

variable {α : Type}

/-- `IEnumUnknown::Next(celt)` on an enumerator that follows the contract over a finite
sequence: the next `celt` components, with `S_OK` (`true`) when there were that many and
`S_FALSE` when the sequence ended first. A position of the sequence may instead hold an
error, which the call that reaches it returns. -/
def enumNext (rest : List (Except ComError (Component α))) (celt : Nat) :
    Except ComError (List (Component α) × Bool × List (Except ComError (Component α))) :=
  match (rest.take celt).mapM id with
  | .error e => .error e
  | .ok got => .ok (got, decide (got.length = celt), rest.drop celt)

inductive NextResult
  | sOk
  | sFalse
  | error (e : ComError)
deriving DecidableEq

/-- The batch loop of `TranscodeEnumSubcommands::Next` with `fuel` turns at most, `none`
when they run out. Each turn asks for `count.min(20)` components and writes a command for
each that casts (`inner_fetched` counts those); it stops on an error, on `S_FALSE`, or when
`count` reaches 0. The state is `count`, `total_count`, the commands written to
`commands[0..]`, and the inner enumerator. -/
def nextLoop : Nat → Nat → Nat → List α → List (Except ComError (Component α)) →
    Option (NextResult × Nat × List α × List (Except ComError (Component α)))
  | 0, _, _, _, _ => none
  | fuel + 1, count, total, written, inner =>
    match enumNext inner (count.min 20) with
    | .error e => some (.error e, total, written, inner)
    | .ok (batch, full, inner') =>
      let commands := batch.filterMap Component.codec?
      let total := total + commands.length
      let count := count - commands.length
      let written := written ++ commands
      if ¬ full ∨ count = 0 then some (if full then .sOk else .sFalse, total, written, inner')
      else nextLoop fuel count total written inner'

/-- `TranscodeEnumSubcommands::Next(count, commands, fetched)`: the HRESULT, what it
writes to `*fetched` (`none` when `fetched` is null), the commands written to `commands`,
and the inner enumerator afterwards. The loop is given one turn more than the sequence
has components; `none` would mean that was not enough. -/
def next (count : Nat) (commandsNull fetchedNull : Bool) (inner : List (Except ComError (Component α))) :
    Option (NextResult × Option Nat × List α × List (Except ComError (Component α))) :=
  if count = 0 then some (.sOk, if fetchedNull then none else some 0, [], inner)
  else if commandsNull then some (.error (.ofCode .E_POINTER), none, [], inner)
  else (nextLoop (inner.length + 1) count 0 [] inner).map fun (r, total, written, inner') =>
    (r, if fetchedNull then none else some total, written, inner')

theorem mapM_id_eq_ok {ε β : Type} {l : List (Except ε β)} {got : List β} :
    l.mapM id = .ok got ↔ l = got.map .ok := by
  induction l generalizing got with
  | nil => rw [List.mapM_nil]; cases got <;> simp [pure, Except.pure]
  | cons x xs ih =>
    rw [List.mapM_cons]
    cases x with
    | error e => cases got <;> simp [bind, Except.bind]
    | ok a =>
      cases h : xs.mapM id with
      | error e =>
        have hne : ∀ g : List β, xs ≠ g.map .ok := fun g hg => by rw [ih.mpr hg] at h; cases h
        cases got <;> simp [bind, Except.bind, hne]
      | ok rest =>
        obtain rfl := ih.mp h
        cases got <;>
          simp [bind, Except.bind, pure, Except.pure,
            (List.map_injective_iff.mpr fun _ _ => Except.ok.inj).eq_iff]

/-- A call that returns components hands back the next ones of the sequence, at most
`celt`, reports `S_OK` exactly when it got `celt`, and fewer only at the sequence's end,
which it leaves empty. -/
theorem enumNext_ok {rest rest' : List (Except ComError (Component α))} {celt : Nat}
    {got : List (Component α)} {full : Bool} (h : enumNext rest celt = .ok (got, full, rest')) :
    rest.take got.length = got.map .ok ∧ got.length ≤ celt ∧ rest' = rest.drop got.length ∧
      (full = true ↔ got.length = celt) ∧ (full = false → rest' = []) := by
  unfold enumNext at h
  split at h
  · cases h
  rename_i got' hgot
  cases h
  have htake := mapM_id_eq_ok.mp hgot
  have hlen : got.length = min celt rest.length := by
    rw [← List.length_map got Except.ok, ← htake, List.length_take]
  rcases Nat.le_total celt rest.length with h | h
  · rw [Nat.min_eq_left h] at hlen
    exact ⟨by rw [hlen, htake], hlen.le, by rw [hlen], decide_eq_true_iff,
      fun hshort => absurd hlen (of_decide_eq_false hshort)⟩
  · rw [Nat.min_eq_right h] at hlen
    refine ⟨by rw [← htake, List.take_of_length_le h, hlen, List.take_length], by omega, ?_,
      decide_eq_true_iff, fun _ => List.drop_eq_nil_of_le h⟩
    rw [hlen, List.drop_length, List.drop_eq_nil_of_le h]

/-- A run of the batch loop with more turns than components left ends. It has taken a
prefix `consumed` of the sequence and written the commands of its castable components, in
order, at most `count` of them; when no call failed, the enumerator has moved past
`consumed`, and the loop returns `S_OK` exactly when it wrote `count` commands. It returns
`S_FALSE` only with the enumerator at its end. -/
theorem nextLoop_spec {fuel count total : Nat} {written : List α}
    {inner : List (Except ComError (Component α))} (hfuel : inner.length < fuel) (hcount : 0 < count) :
    ∃ r, ∃ consumed : List (Component α), ∃ inner', nextLoop fuel count total written inner =
        some (r, total + (consumed.filterMap Component.codec?).length,
          written ++ consumed.filterMap Component.codec?, inner') ∧
      inner.take consumed.length = consumed.map .ok ∧
      (consumed.filterMap Component.codec?).length ≤ count ∧
      ((∀ e, r ≠ .error e) → inner' = inner.drop consumed.length ∧
        (r = .sOk ↔ (consumed.filterMap Component.codec?).length = count)) ∧
      (r = .sFalse → inner' = []) := by
  induction fuel generalizing count total written inner with
  | zero => omega
  | succ fuel ih =>
    rw [nextLoop]
    cases hnext : enumNext inner (count.min 20) with
    | error e =>
      exact ⟨.error e, [], inner, by simp, by simp, by simp, fun h => absurd rfl (h e), nofun⟩
    | ok res =>
      obtain ⟨batch, full, rest⟩ := res
      obtain ⟨htake, hle, rfl, hfull, hend⟩ := enumNext_ok hnext
      have hcmd := List.length_filterMap_le Component.codec? batch
      have hcelt : count.min 20 ≤ count ∧ 0 < count.min 20 :=
        ⟨Nat.min_le_left _ _, Nat.lt_min.mpr ⟨hcount, by decide⟩⟩
      dsimp only
      by_cases hstop : ¬ full ∨ count - (batch.filterMap Component.codec?).length = 0
      · rw [if_pos hstop]
        refine ⟨_, batch, _, rfl, htake, by omega, fun _ => ⟨rfl, ?_⟩, ?_⟩
        · cases full <;> simp at hfull hstop ⊢ <;> omega
        · cases full
          exacts [fun _ => hend rfl, nofun]
      · rw [if_neg hstop]
        simp only [not_or, not_not] at hstop
        have hbatch : batch.length = count.min 20 := hfull.mp hstop.1
        have hinner : batch.length ≤ inner.length := by
          simpa using congrArg List.length htake
        obtain ⟨r, consumed, inner', hrun, htake', hle', hres, hend'⟩ :=
          @ih (count - (batch.filterMap Component.codec?).length)
            (total + (batch.filterMap Component.codec?).length)
            (written ++ batch.filterMap Component.codec?) (inner.drop batch.length)
            (by simp; omega) (by omega)
        refine ⟨r, batch ++ consumed, inner', ?_, ?_, ?_, fun hr => ?_, hend'⟩
        · rw [hrun, List.filterMap_append, List.length_append, List.append_assoc, Nat.add_assoc]
        · rw [List.length_append, List.take_add, htake, htake', List.map_append]
        · rw [List.filterMap_append, List.length_append]; omega
        · obtain ⟨hrest, hok⟩ := hres hr
          refine ⟨by rw [hrest, List.length_append, List.drop_drop, Nat.add_comm], ?_⟩
          rw [hok, List.filterMap_append, List.length_append]
          omega

/-- `Next` with a positive `count` and both pointers given ends over every finite sequence
of components. It writes `*fetched` commands, at most `count`: those of the castable
components of the prefix it consumed, in order. When no inner call failed, the enumerator has
moved past that prefix, and `Next` returns `S_OK` exactly when `*fetched = count`; it
returns `S_FALSE` only with the enumerator at its end. -/
theorem next_writes_fetched_commands {count : Nat} (hcount : 0 < count)
    (inner : List (Except ComError (Component α))) :
    ∃ r fetched, ∃ written : List α, ∃ inner',
      next count false false inner = some (r, some fetched, written, inner') ∧
      written.length = fetched ∧ fetched ≤ count ∧
      ∃ consumed : List (Component α), inner.take consumed.length = consumed.map .ok ∧
        written = consumed.filterMap Component.codec? ∧
        ((∀ e, r ≠ .error e) → inner' = inner.drop consumed.length ∧ (r = .sOk ↔ fetched = count)) ∧
        (r = .sFalse → inner' = []) := by
  obtain ⟨r, consumed, inner', hrun, htake, hle, hres, hend⟩ :=
    @nextLoop_spec α (inner.length + 1) count 0 [] inner (Nat.lt_succ_self _) hcount
  refine ⟨r, _, _, inner', ?_, rfl, hle, consumed, htake, rfl, hres, hend⟩
  rw [next, if_neg hcount.ne', if_neg Bool.false_ne_true, hrun]
  simp

theorem next_writes_fetched_commands_of_skipped_components :
    (0 : Nat) < 2 ∧ ∃ r fetched, ∃ written : List Nat, ∃ inner',
      next 2 false false [.ok (.codec 1), .ok .other, .ok .absent, .ok (.codec 2), .ok (.codec 3)] =
        some (r, some fetched, written, inner') ∧
      written.length = fetched ∧ fetched ≤ 2 ∧
      ∃ consumed : List (Component Nat),
        ([.ok (.codec 1), .ok .other, .ok .absent, .ok (.codec 2), .ok (.codec 3)] :
          List (Except ComError (Component Nat))).take consumed.length = consumed.map .ok ∧
        written = consumed.filterMap Component.codec? ∧
        ((∀ e, r ≠ .error e) → inner' =
          ([.ok (.codec 1), .ok .other, .ok .absent, .ok (.codec 2), .ok (.codec 3)] :
            List (Except ComError (Component Nat))).drop consumed.length ∧
          (r = .sOk ↔ fetched = 2)) ∧
        (r = .sFalse → inner' = []) :=
  ⟨by decide, next_writes_fetched_commands (by decide) _⟩

/-- Two components of the first batch do not cast, so a second batch of two is asked for. -/
example : next 2 false false [.ok (.codec 1), .ok .other, .ok .absent, .ok (.codec 2), .ok (.codec 3)] =
    some (.sOk, some 2, [1, 2], [.ok (.codec 3)]) := rfl

/-! Successive calls of `Next` on an enumerator whose components all come without error. -/

theorem enumNext_map_ok (l : List (Component α)) (celt : Nat) :
    enumNext (l.map .ok) celt =
      .ok (l.take celt, decide ((l.take celt).length = celt), (l.drop celt).map .ok) := by
  rw [enumNext, ← List.map_take, mapM_id_eq_ok.mpr rfl, List.map_drop]

/-- The batch loop over components without error takes a prefix of them, returns `S_OK`
having written `count` commands or, having taken them all, `S_FALSE`, and writes the commands
of that prefix. -/
theorem nextLoop_delivers {fuel count total : Nat} {written : List α} {l : List (Component α)}
    (hfuel : l.length < fuel) (hcount : 0 < count) :
    ∃ r n, nextLoop fuel count total written (l.map .ok) =
        some (r, total + ((l.take n).filterMap Component.codec?).length,
          written ++ (l.take n).filterMap Component.codec?, (l.drop n).map .ok) ∧
      n ≤ l.length ∧ (r = .sOk ∨ (r = .sFalse ∧ n = l.length)) ∧
      (r = .sOk → ((l.take n).filterMap Component.codec?).length = count) := by
  induction fuel generalizing count total written l with
  | zero => omega
  | succ fuel ih =>
    rw [nextLoop, enumNext_map_ok]
    dsimp only
    have hcelt : count.min 20 ≤ count ∧ 0 < count.min 20 :=
      ⟨Nat.min_le_left _ _, Nat.lt_min.mpr ⟨hcount, by decide⟩⟩
    have hcmd := List.length_filterMap_le Component.codec? (l.take (count.min 20))
    by_cases hstop : ¬ decide ((l.take (count.min 20)).length = count.min 20) = true ∨
        count - ((l.take (count.min 20)).filterMap Component.codec?).length = 0
    · rw [if_pos hstop]
      by_cases hle : count.min 20 ≤ l.length
      · -- The batch was full: `S_OK`, with `count` commands written.
        have hfull : (l.take (count.min 20)).length = count.min 20 := List.length_take_of_le hle
        have hleft : count - ((l.take (count.min 20)).filterMap Component.codec?).length = 0 :=
          hstop.resolve_left (not_not_intro (decide_eq_true hfull))
        exact ⟨_, count.min 20, rfl, hle, .inl (if_pos (decide_eq_true hfull)), fun _ => by omega⟩
      · -- The batch ran past the end: `S_FALSE`, with every component taken.
        have hlt : l.length ≤ count.min 20 := by omega
        have hshort : (l.take (count.min 20)).length ≠ count.min 20 := by
          rw [List.length_take]; omega
        refine ⟨.sFalse, l.length, ?_, le_rfl, .inr ⟨rfl, rfl⟩, nofun⟩
        rw [if_neg fun h => hshort (of_decide_eq_true h), List.take_of_length_le hlt, List.take_length,
          List.drop_eq_nil_of_le hlt, List.drop_length]
    · rw [if_neg hstop]
      simp only [not_or, not_not, decide_eq_true_eq] at hstop
      obtain ⟨hfull, hleft⟩ := hstop
      have hle : count.min 20 ≤ l.length := by
        have := List.length_take_le' (count.min 20) l
        rw [List.length_take] at hfull
        omega
      obtain ⟨r, n, hrun, hn, hr, hok⟩ :=
        @ih (count - ((l.take (count.min 20)).filterMap Component.codec?).length)
        (total + ((l.take (count.min 20)).filterMap Component.codec?).length)
        (written ++ (l.take (count.min 20)).filterMap Component.codec?) (l.drop (count.min 20))
        (by simp only [List.length_drop]; omega) (by omega)
      have htake : l.take (count.min 20 + n) =
          l.take (count.min 20) ++ (l.drop (count.min 20)).take n := List.take_add _ _ _
      refine ⟨r, count.min 20 + n, ?_, by simp only [List.length_drop] at hn; omega, ?_, fun hr => ?_⟩
      · rw [hrun, htake, List.filterMap_append, List.length_append, List.drop_drop,
          Nat.add_assoc, List.append_assoc]
      · rcases hr with hr | ⟨hr, hall⟩
        · exact .inl hr
        · simp only [List.length_drop] at hall
          exact .inr ⟨hr, by omega⟩
      · rw [htake, List.filterMap_append, List.length_append, hok hr]
        omega

/-- One `Next` over components without error, with both pointers given, whatever the
count: a prefix taken, its commands written and counted in `*fetched`, all `count` of them
when it returns `S_OK`. -/
theorem next_delivers (count : Nat) (l : List (Component α)) :
    ∃ r n, next count false false (l.map .ok) =
        some (r, some ((l.take n).filterMap Component.codec?).length,
          (l.take n).filterMap Component.codec?, (l.drop n).map .ok) ∧
      n ≤ l.length ∧ (r = .sOk ∨ (r = .sFalse ∧ n = l.length)) ∧
      (r = .sOk → ((l.take n).filterMap Component.codec?).length = count) := by
  rcases Nat.eq_zero_or_pos count with rfl | hcount
  · exact ⟨.sOk, 0, by simp [next], Nat.zero_le _, .inl rfl, fun _ => by simp⟩
  · obtain ⟨r, n, hrun, hn, hr, hok⟩ :=
      @nextLoop_delivers α (l.length + 1) count 0 [] l (Nat.lt_succ_self _) hcount
    refine ⟨r, n, ?_, hn, hr, hok⟩
    rw [next, if_neg hcount.ne', if_neg Bool.false_ne_true, List.length_map, hrun]
    simp

/-- Successive `Next(count)` calls on one enumerator, each with both pointers given: the
result and the commands of each call, and the inner enumerator after the last. -/
def nextCalls : List Nat → List (Except ComError (Component α)) →
    Option (List (NextResult × List α) × List (Except ComError (Component α)))
  | [], inner => some ([], inner)
  | count :: counts, inner =>
    match next count false false inner with
    | none => none
    | some (r, _, written, inner') =>
      (nextCalls counts inner').map fun (results, rest) => ((r, written) :: results, rest)

/-- Over components that come without error, any sequence of `Next` calls delivers each
castable component's command once and in order: the commands of all the calls, one after
the other, are those of the components taken so far, and the rest are still to come. A call
that returns `S_OK` wrote as many commands as it asked for; once a call has returned
`S_FALSE`, every component has been taken. -/
theorem nextCalls_delivers (counts : List Nat) (l : List (Component α)) :
    ∃ results n, nextCalls counts (l.map .ok) = some (results, (l.drop n).map .ok) ∧
      n ≤ l.length ∧ (results.map Prod.snd).flatten = (l.take n).filterMap Component.codec? ∧
      (∀ r ∈ results.map Prod.fst, r = .sOk ∨ (r = .sFalse ∧ n = l.length)) ∧
      List.Forall₂ (fun count result => result.1 = .sOk → result.2.length = count) counts
        results := by
  induction counts generalizing l with
  | nil => exact ⟨[], 0, by simp [nextCalls], Nat.zero_le _, by simp, by simp, .nil⟩
  | cons count counts ih =>
    obtain ⟨r, n₁, hnext, hn₁, hr, hok⟩ := next_delivers count l
    obtain ⟨results, n₂, hcalls, hn₂, hflat, hrs, hoks⟩ := ih (l.drop n₁)
    rw [List.length_drop] at hn₂ hrs
    refine ⟨(r, (l.take n₁).filterMap Component.codec?) :: results, n₁ + n₂, ?_, by omega, ?_, ?_,
      .cons hok hoks⟩
    · simp only [nextCalls, hnext, hcalls, Option.map_some', List.drop_drop]
    · rw [List.map_cons, List.flatten_cons, hflat, List.take_add, List.filterMap_append]
    · intro x hx
      rcases List.mem_cons.mp hx with rfl | hx
      · rcases hr with hr | ⟨hr, hall⟩
        exacts [.inl hr, .inr ⟨hr, by omega⟩]
      · rcases hrs x hx with hr | ⟨hr, hall⟩
        exacts [.inl hr, .inr ⟨hr, by omega⟩]

end Enumeration

end BmxShell.Shell
