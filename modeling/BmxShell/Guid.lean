import BmxShell.Com
import Mathlib.Data.Nat.Digits
import Mathlib.Tactic.FinCases

/-!
The GUID helpers of `util.rs`. `GuidWrapper`'s `Display` prints a GUID braced, its fields
in lowercase hex, each zero-padded to its width; `to_ascii_with_nul` writes that text into
a cursor over 39 zero bytes and asserts that it took 38. `from_str`, the `const fn` every
`CoClass::CLSID` constant is built with, parses the 36 hex-and-dash bytes, bare or braced.
A string is its bytes, and a panic is an error carrying its message. The printed text
always has 38 bytes, and `from_str` reads it back as the GUID printed.
-/

namespace BmxShell

/-! The printer. -/

/-- `{:0width$x}`: the lowercase hex digits of `n`, most significant first and without
leading zeros (core's `Nat.toDigits`, the digit loop of `fmt_int`), padded on the left
with `0` to `width`. -/
def lowerHex (width n : Nat) : List Char :=
  List.replicate (width - (Nat.toDigits 16 n).length) '0' ++ Nat.toDigits 16 n

/-- `GuidWrapper`'s `Display::fmt`: the GUID braced, its fields in lowercase hex, each
zero-padded to its width. -/
def GuidWrapper.fmt (g : Guid) : List Char :=
  ['{'] ++ lowerHex 8 g.data1.toNat ++ ['-'] ++ lowerHex 4 g.data2.toNat ++ ['-'] ++
    lowerHex 4 g.data3.toNat ++ ['-'] ++ lowerHex 2 (g.data4 0).toNat ++
    lowerHex 2 (g.data4 1).toNat ++ ['-'] ++ lowerHex 2 (g.data4 2).toNat ++
    lowerHex 2 (g.data4 3).toNat ++ lowerHex 2 (g.data4 4).toNat ++ lowerHex 2 (g.data4 5).toNat ++
    lowerHex 2 (g.data4 6).toNat ++ lowerHex 2 (g.data4 7).toNat ++ ['}']

/-- The bytes of ASCII text, one per character. -/
def asciiBytes (text : List Char) : List UInt8 := text.map fun c => c.toNat.toUInt8

/-- `GuidExt::to_ascii_with_nul`: `write!` of the GUID into a cursor over 39 zero bytes,
then `assert!(cursor.position() == 38)`. Text longer than the buffer fails the write and
`unwrap` panics; a panic is an error with its message. -/
def Guid.toAsciiWithNul (g : Guid) : Except String (List UInt8) :=
  let text := asciiBytes (GuidWrapper.fmt g)
  if 39 < text.length then .error "failed to write whole buffer"
  else if text.length ≠ 38 then .error "assertion failed: cursor.position() == 38"
  else .ok (text ++ List.replicate (39 - text.length) 0)

/-! The parser. -/

/-- `char::to_digit(16)` on a byte. -/
def toDigit (c : UInt8) : Option Nat :=
  if 48 ≤ c ∧ c ≤ 57 then some (c.toNat - 48)
  else if 97 ≤ c ∧ c ≤ 102 then some (c.toNat - 87)
  else if 65 ≤ c ∧ c ≤ 70 then some (c.toNat - 55)
  else none

/-- One step of `from_str_radix`'s loop: the next hex digit shifted in. -/
def pushDigit (acc : Option Nat) (c : UInt8) : Option Nat :=
  acc.bind fun v => (toDigit c).map (v * 16 + ·)

/-- `uN::from_str_radix(s, 16)` for an unsigned type of `bits` bits: an optional `+`, then
at least one hex digit, the value below `2 ^ bits`. -/
def fromStrRadix (bits : Nat) (s : List UInt8) : Option Nat :=
  let digits := if s.head? = some 43 then s.tail else s
  if digits = [] then none
  else (digits.foldl pushDigit (some 0)).bind fun v => if v < 2 ^ bits then some v else none

/-- `to_hex` in `from_str`: the byte two hex digits spell. -/
def toHex (value1 value2 : UInt8) : Except String UInt8 :=
  match fromStrRadix 8 [value1, value2] with
  | some v => .ok v.toUInt8
  | none => .error "Invalid GUID data4"

/-- 36 bytes with `-` at offsets 8, 13, 18 and 23. -/
def dashed (v : List UInt8) : Bool :=
  v.length = 36 ∧ v.getD 8 0 = 45 ∧ v.getD 13 0 = 45 ∧ v.getD 18 0 = 45 ∧ v.getD 23 0 = 45

/-- The two slice patterns of `from_str`: the 36 dashed bytes, bare or between `{` and `}`. -/
def guidBody (value : List UInt8) : Option (List UInt8) :=
  if dashed value then some value
  else if value.head? = some 123 ∧ value.getLast? = some 125 ∧ dashed value.tail.dropLast then
    some value.tail.dropLast
  else none

/-- `guid::from_str` on the bytes of a string; a panic is an error with its message. -/
def Guid.fromStr (value : List UInt8) : Except String Guid := do
  if ¬ value.all (· < 128) then throw "Invalid GUID characters"
  let some body := guidBody value | throw "Invalid GUID"
  let some data1 := fromStrRadix 32 (body.take 8) | throw "Invalid GUID data1"
  let some data2 := fromStrRadix 16 ((body.drop 9).take 4) | throw "Invalid GUID data2"
  let some data3 := fromStrRadix 16 ((body.drop 14).take 4) | throw "Invalid GUID data3"
  let d0 ← toHex (body.getD 19 0) (body.getD 20 0)
  let d1 ← toHex (body.getD 21 0) (body.getD 22 0)
  let e0 ← toHex (body.getD 24 0) (body.getD 25 0)
  let e1 ← toHex (body.getD 26 0) (body.getD 27 0)
  let e2 ← toHex (body.getD 28 0) (body.getD 29 0)
  let e3 ← toHex (body.getD 30 0) (body.getD 31 0)
  let e4 ← toHex (body.getD 32 0) (body.getD 33 0)
  let e5 ← toHex (body.getD 34 0) (body.getD 35 0)
  return ⟨data1.toUInt32, data2.toUInt16, data3.toUInt16, ![d0, d1, e0, e1, e2, e3, e4, e5]⟩

/-! Fixed-width hex digits. -/

/-- The `width` lowest hex digits of `n`, most significant first. -/
def hexDigitsOfWidth : Nat → Nat → List Char
  | 0, _ => []
  | w + 1, n => hexDigitsOfWidth w (n / 16) ++ [Nat.digitChar (n % 16)]

theorem length_hexDigitsOfWidth (w n : Nat) : (hexDigitsOfWidth w n).length = w := by
  induction w generalizing n with
  | zero => rfl
  | succ w ih => simp [hexDigitsOfWidth, ih]

/-- Core's digit loop puts the digits of `n` before what it has, given fuel past `n`. -/
theorem toDigitsCore_sixteen (n : Nat) :
    ∀ {fuel : Nat} (ds : List Char), n < fuel →
      Nat.toDigitsCore 16 fuel n ds = Nat.toDigits 16 n ++ ds := by
  induction n using Nat.strong_induction_on with
  | _ n ih =>
    intro fuel ds hfuel
    obtain ⟨fuel, rfl⟩ : ∃ f, fuel = f + 1 := ⟨fuel - 1, by omega⟩
    unfold Nat.toDigits
    simp only [Nat.toDigitsCore]
    split_ifs with h0
    · rfl
    · have hlt : n / 16 < n := Nat.div_lt_self (by omega) (by norm_num)
      rw [ih _ hlt _ (by omega), ih _ hlt _ (by omega), List.append_assoc]
      rfl

theorem toDigits_sixteen_of_lt {n : Nat} (h : n < 16) :
    Nat.toDigits 16 n = [Nat.digitChar n] := by
  simp [Nat.toDigits, Nat.toDigitsCore, Nat.div_eq_of_lt h, Nat.mod_eq_of_lt h]

theorem toDigits_sixteen_of_le {n : Nat} (h : 16 ≤ n) :
    Nat.toDigits 16 n = Nat.toDigits 16 (n / 16) ++ [Nat.digitChar (n % 16)] := by
  have h0 : n / 16 ≠ 0 := by omega
  rw [Nat.toDigits, Nat.toDigitsCore]
  simp only [h0, if_false]
  exact toDigitsCore_sixteen _ _ (Nat.div_lt_self (by omega) (by norm_num))

/-- Below `16 ^ width`, the padded digits are the `width` lowest digits. -/
theorem lowerHex_eq_hexDigitsOfWidth {w n : Nat} (hw : 0 < w) (hn : n < 16 ^ w) :
    lowerHex w n = hexDigitsOfWidth w n := by
  induction w generalizing n with
  | zero => omega
  | succ w ih =>
    rcases Nat.eq_zero_or_pos w with rfl | hw'
    · have h16 : n < 16 := by simpa using hn
      simp [lowerHex, hexDigitsOfWidth, toDigits_sixteen_of_lt h16, Nat.div_eq_of_lt h16,
        Nat.mod_eq_of_lt h16]
    have hdiv : n / 16 < 16 ^ w := by rw [pow_succ] at hn; omega
    rw [hexDigitsOfWidth, ← ih hw' hdiv]
    by_cases h16 : n < 16
    · -- One digit, padded with one more zero than `n / 16 = 0` is.
      obtain ⟨k, rfl⟩ : ∃ k, w = k + 1 := ⟨w - 1, by omega⟩
      simp only [lowerHex, toDigits_sixteen_of_lt h16, Nat.div_eq_of_lt h16,
        toDigits_sixteen_of_lt (show 0 < 16 by norm_num), Nat.mod_eq_of_lt h16,
        List.length_singleton, Nat.add_sub_cancel, List.append_assoc, List.singleton_append]
      rw [List.replicate_succ', List.append_assoc]
      rfl
    · rw [lowerHex, lowerHex, toDigits_sixteen_of_le (by omega)]
      simp only [List.length_append, List.length_singleton, List.append_assoc]
      congr 2
      omega

/-- Each hex digit is an ASCII byte other than `+` that `to_digit(16)` reads back. -/
theorem digitChar_byte : ∀ d, d < 16 → toDigit (Nat.digitChar d).toNat.toUInt8 = some d ∧
    (Nat.digitChar d).toNat.toUInt8 < 128 ∧ (Nat.digitChar d).toNat.toUInt8 ≠ 43 := by
  decide

/-- The bytes of the `width` lowest hex digits of `n`. -/
def hexBytes (w n : Nat) : List UInt8 := asciiBytes (hexDigitsOfWidth w n)

@[simp] theorem length_hexBytes (w n : Nat) : (hexBytes w n).length = w := by
  simp [hexBytes, asciiBytes, length_hexDigitsOfWidth]

theorem hexBytes_succ (w n : Nat) :
    hexBytes (w + 1) n = hexBytes w (n / 16) ++ [(Nat.digitChar (n % 16)).toNat.toUInt8] := by
  simp [hexBytes, hexDigitsOfWidth, asciiBytes]

theorem hexBytes_two (n : Nat) :
    hexBytes 2 n =
      [(Nat.digitChar (n / 16 % 16)).toNat.toUInt8, (Nat.digitChar (n % 16)).toNat.toUInt8] := by
  simp [hexBytes, hexDigitsOfWidth, asciiBytes]

theorem exists_hexBytes (w n : Nat) : ∃ l : Fin w → UInt8, hexBytes w n = List.ofFn l :=
  ⟨fun i => (hexBytes w n).getD i 0, by
    apply List.ext_getElem (by simp)
    intro i h1 _
    simp [List.getD_eq_getElem?_getD, h1]⟩

theorem mem_hexBytes {w n : Nat} {c : UInt8} (hc : c ∈ hexBytes w n) :
    toDigit c ≠ none ∧ c < 128 ∧ c ≠ 43 := by
  induction w generalizing n with
  | zero => simp [hexBytes, hexDigitsOfWidth, asciiBytes] at hc
  | succ w ih =>
    rw [hexBytes_succ, List.mem_append, List.mem_singleton] at hc
    rcases hc with hc | rfl
    · exact ih hc
    · obtain ⟨h1, h2, h3⟩ := digitChar_byte _ (Nat.mod_lt n (by norm_num))
      exact ⟨by simp [h1], h2, h3⟩

theorem all_hexBytes (w n : Nat) : (hexBytes w n).all (· < 128) = true :=
  List.all_eq_true.mpr fun _ hc => decide_eq_true (mem_hexBytes hc).2.1

/-- The digit loop of `from_str_radix` over `width` digits gives `n` below `16 ^ width`. -/
theorem foldl_pushDigit_hexBytes (w n : Nat) :
    (hexBytes w n).foldl pushDigit (some 0) = some (n % 16 ^ w) := by
  induction w generalizing n with
  | zero => simp [hexBytes, hexDigitsOfWidth, asciiBytes, Nat.mod_one]
  | succ w ih =>
    rw [hexBytes_succ, List.foldl_append, ih, List.foldl_cons, List.foldl_nil, pushDigit,
      (digitChar_byte _ (Nat.mod_lt n (by norm_num))).1, pow_succ', Nat.mod_mul]
    simp only [Option.some_bind, Option.map_some']
    rw [Nat.add_comm, Nat.mul_comm]

/-- `from_str_radix` reads back the hex digits of every value that fits. -/
theorem fromStrRadix_hexBytes {bits w n : Nat} (hw : 0 < w) (hn : n < 16 ^ w)
    (hb : n < 2 ^ bits) : fromStrRadix bits (hexBytes w n) = some n := by
  have hne : hexBytes w n ≠ [] := List.length_pos.mp (by rwa [length_hexBytes])
  have hplus : (hexBytes w n).head? ≠ some 43 := fun h =>
    (mem_hexBytes (List.mem_of_mem_head? h)).2.2 rfl
  simp only [fromStrRadix, if_neg hplus, if_neg hne, foldl_pushDigit_hexBytes, Nat.mod_eq_of_lt hn,
    Option.some_bind, if_pos hb]

/-- `to_hex` reads back the two digits of a byte. -/
theorem toHex_hexBytes (b : UInt8) :
    toHex (Nat.digitChar (b.toNat / 16 % 16)).toNat.toUInt8
      (Nat.digitChar (b.toNat % 16)).toNat.toUInt8 = .ok b := by
  have := b.toNat_lt'
  rw [toHex, ← hexBytes_two, fromStrRadix_hexBytes (by norm_num) (by omega) (by omega)]
  exact congrArg Except.ok (UInt8.eq_iff_toNat.mpr (by simp [Nat.toUInt8, this]))

/-! The printed GUID read back. -/

/-- The 36 bytes between the braces that `GuidWrapper` prints. -/
def hexBody (g : Guid) : List UInt8 :=
  hexBytes 8 g.data1.toNat ++ 45 :: hexBytes 4 g.data2.toNat ++ 45 :: hexBytes 4 g.data3.toNat ++
    45 :: hexBytes 2 (g.data4 0).toNat ++ hexBytes 2 (g.data4 1).toNat ++
    45 :: hexBytes 2 (g.data4 2).toNat ++ hexBytes 2 (g.data4 3).toNat ++
    hexBytes 2 (g.data4 4).toNat ++ hexBytes 2 (g.data4 5).toNat ++
    hexBytes 2 (g.data4 6).toNat ++ hexBytes 2 (g.data4 7).toNat

/-- Every field fits its width, so the printer writes `{`, the 36 bytes and `}`. -/
theorem asciiBytes_fmt (g : Guid) :
    asciiBytes (GuidWrapper.fmt g) = 123 :: hexBody g ++ [125] := by
  have h1 := g.data1.toNat_lt'
  have h2 := g.data2.toNat_lt'
  have h3 := g.data3.toNat_lt'
  have h4 : ∀ i, (g.data4 i).toNat < 16 ^ 2 := fun i => (g.data4 i).toNat_lt'
  simp only [GuidWrapper.fmt,
    lowerHex_eq_hexDigitsOfWidth (show 0 < 8 by norm_num) (show g.data1.toNat < 16 ^ 8 by omega),
    lowerHex_eq_hexDigitsOfWidth (show 0 < 4 by norm_num) (show g.data2.toNat < 16 ^ 4 by omega),
    lowerHex_eq_hexDigitsOfWidth (show 0 < 4 by norm_num) (show g.data3.toNat < 16 ^ 4 by omega),
    fun i => lowerHex_eq_hexDigitsOfWidth (show 0 < 2 by norm_num) (h4 i), asciiBytes, hexBody,
    hexBytes, List.map_append, List.map_cons, List.map_nil, List.cons_append, List.nil_append,
    List.append_assoc]
  rfl

theorem dashed_hexBody (g : Guid) : dashed (hexBody g) = true := by
  obtain ⟨a, ha⟩ := exists_hexBytes 8 g.data1.toNat
  obtain ⟨b, hb⟩ := exists_hexBytes 4 g.data2.toNat
  obtain ⟨c, hc⟩ := exists_hexBytes 4 g.data3.toNat
  simp only [dashed, hexBody, ha, hb, hc, hexBytes_two, List.ofFn_succ, List.ofFn_zero,
    List.cons_append, List.nil_append, length_hexBytes]
  simp

/-- The braced pattern of `from_str` takes the 36 dashed bytes between the braces. -/
theorem guidBody_braced {body : List UInt8} (h : dashed body = true) :
    guidBody (123 :: body ++ [125]) = some body := by
  have hlen : body.length = 36 := by simp only [dashed, decide_eq_true_eq] at h; exact h.1
  have hnot : dashed (123 :: body ++ [125]) = false := by simp [dashed, hlen]
  have hmid : (123 :: body ++ [125]).tail.dropLast = body := by
    rw [List.cons_append, List.tail_cons, List.dropLast_concat]
  rw [guidBody, if_neg (by rw [hnot]; decide),
    if_pos ⟨rfl, List.getLast?_concat _, by rw [hmid]; exact h⟩, hmid]

/-- `from_str` reads the printed text back as the GUID printed. -/
theorem fromStr_asciiBytes_fmt (g : Guid) :
    Guid.fromStr (asciiBytes (GuidWrapper.fmt g)) = .ok g := by
  have hascii : (123 :: hexBody g ++ [125]).all (· < 128) = true := by
    simp only [hexBody, List.all_append, List.all_cons, all_hexBytes]
    decide
  -- Name the digits of the three wide fields, so that the slices of the body compute.
  obtain ⟨a, ha⟩ := exists_hexBytes 8 g.data1.toNat
  obtain ⟨b, hb⟩ := exists_hexBytes 4 g.data2.toNat
  obtain ⟨c, hc⟩ := exists_hexBytes 4 g.data3.toNat
  simp only [List.ofFn_succ, List.ofFn_zero] at ha hb hc
  rw [Guid.fromStr, asciiBytes_fmt, if_neg (by simpa using hascii),
    guidBody_braced (dashed_hexBody g)]
  simp only [bind, Except.bind, pure, Except.pure, hexBody, ha, hb, hc, hexBytes_two,
    List.cons_append, List.nil_append, List.take_succ_cons, List.take_zero, List.drop_succ_cons,
    List.drop_zero, List.getD_cons_succ, List.getD_cons_zero]
  have h1 := g.data1.toNat_lt'
  have h2 := g.data2.toNat_lt'
  have h3 := g.data3.toNat_lt'
  rw [← ha, ← hb, ← hc, fromStrRadix_hexBytes (by norm_num) (by omega) (by omega),
    fromStrRadix_hexBytes (by norm_num) (by omega) (by omega),
    fromStrRadix_hexBytes (by norm_num) (by omega) (by omega)]
  simp only [toHex_hexBytes]
  obtain ⟨d1, d2, d3, d4⟩ := g
  refine congrArg Except.ok (Guid.mk.injEq .. ▸ ⟨UInt32.eq_iff_toNat.mpr ?_,
    UInt16.eq_iff_toNat.mpr ?_, UInt16.eq_iff_toNat.mpr ?_, funext fun i => ?_⟩)
  · simp [Nat.toUInt32, h1]
  · simp [Nat.toUInt16, h2]
  · simp [Nat.toUInt16, h3]
  · fin_cases i <;> rfl

/-- `to_ascii_with_nul` writes 38 bytes and the NUL after them, so its assertion holds, and
`from_str` reads the 38 bytes back as the GUID printed. -/
theorem fromStr_toAsciiWithNul (g : Guid) :
    ∃ text, g.toAsciiWithNul = .ok (text ++ [0]) ∧ text.length = 38 ∧
      Guid.fromStr text = .ok g := by
  have hlen : (asciiBytes (GuidWrapper.fmt g)).length = 38 := by
    rw [asciiBytes_fmt]
    simp [hexBody]
  refine ⟨asciiBytes (GuidWrapper.fmt g), ?_, hlen, fromStr_asciiBytes_fmt g⟩
  simp only [Guid.toAsciiWithNul, hlen]
  rfl

example : Guid.fromStr (asciiBytes "\x7b6fddc324-4e03-4bfe-b185-3d77768dc904\x7d".toList) =
    .ok GUID_WICPixelFormat8bppIndexed := by
  decide

end BmxShell
