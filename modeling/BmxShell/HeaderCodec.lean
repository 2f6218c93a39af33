import BmxShell.Bmx
import Mathlib.Tactic.FinCases
import Mathlib.Tactic.IntervalCases

/-!
The header codec. Parsing a laid-out header gives back every field except `data_start`,
which is read little-endian from whatever two bytes were written. So the memory image the
encoder writes and `from_bytes` are inverse on valid headers, in both directions, while
`to_bytes` is inverse to `from_bytes` only when `data_start`'s two bytes are equal.
On any slice, `from_bytes` accepts exactly the bytes that pass its checks read off the
bytes, and otherwise reports the first that fails. The palette entry keeps the high
nibble of each channel of a WIC colour.
-/

namespace BmxShell.Bmx

theorem NonZeroU8.get_of_new {x : UInt8} {y : NonZeroU8} (h : NonZeroU8.new x = some y) :
    y.get = x := by
  unfold NonZeroU8.new at h
  split at h
  · cases h
  · cases h; rfl

private theorem ofFn_getD_eq {α : Type} (l : List α) (d : α) {n : Nat} (hl : l.length = n) :
    List.ofFn (fun i : Fin n => l.getD i d) = l := by
  subst hl
  apply List.ext_getElem (by simp)
  intro i _ h2
  simp [List.getD_eq_getElem?_getD, h2]

namespace FileHeader

/-- Parsing a laid-out header recovers every field but `data_start`, which is the
little-endian reading of the two bytes at offsets 12 and 13, as long as the header read
validates. -/
theorem fromBytes_layout {h : FileHeader} {d : UInt8 × UInt8}
    (hv : ({ h with dataStart := u16FromLeBytes d.1 d.2 } : FileHeader).validate = .ok ()) :
    fromBytes (h.layout d) = .ok { h with dataStart := u16FromLeBytes d.1 d.2 } := by
  have hid : ![h.fileId 0, h.fileId 1, h.fileId 2] = h.fileId := by
    funext i; fin_cases i <;> rfl
  have hres : (fun i : Fin 16 => (h.layout d).getD (16 + i) 0) = h.reserved := by
    funext i
    rw [layout, List.getD_eq_getElem?_getD, List.getElem?_append_right (by simp)]
    simp [-List.ofFn_succ, List.getElem?_ofFn]
  have hcomp : ({ toUInt8 := h.compressed.toUInt8 } : Int8) = h.compressed := rfl
  simp only [fromBytes, length_layout, ne_eq, not_true_eq_false, if_false, hres]
  simp only [layout, List.cons_append, List.getD_cons_succ, List.getD_cons_zero,
    NonZeroU8.new_get, u16FromLeBytes_toLeBytes, hid, hcomp, hv]

/-- `from_bytes` accepts the memory image of every valid header and returns that header. -/
theorem fromBytes_memoryImage {h : FileHeader} (hv : h.validate = .ok ()) :
    fromBytes h.memoryImage = .ok h := by
  have hd := u16FromLeBytes_toLeBytes h.dataStart
  rw [memoryImage, fromBytes_layout (by rw [hd]; exact hv), hd]

/-- Whatever `from_bytes` accepts is the memory image of the header it returns. -/
theorem memoryImage_fromBytes {b : List UInt8} {h : FileHeader}
    (hb : fromBytes b = .ok h) : h.memoryImage = b := by
  unfold fromBytes at hb
  split at hb
  · cases hb
  rename_i hlen
  split at hb
  · rename_i b0 b1 b2 h0 h1 h2
    dsimp only at hb
    split at hb
    · cases hb
      conv_rhs => rw [← ofFn_getD_eq b 0 (not_not.mp hlen)]
      simp only [memoryImage, layout, NonZeroU8.get_of_new h0, NonZeroU8.get_of_new h1,
        NonZeroU8.get_of_new h2, u16ToLeBytes_fromLeBytes, Matrix.cons_val_zero,
        Matrix.cons_val_one, Matrix.head_cons, Matrix.cons_val_two, Matrix.tail_cons]
      rfl
    · cases hb
  · cases hb

/-- A header `from_bytes` accepts validates. -/
theorem validate_of_fromBytes {b : List UInt8} {h : FileHeader} (hb : fromBytes b = .ok h) :
    h.validate = .ok () := by
  unfold fromBytes at hb
  dsimp only at hb
  repeat' split at hb
  all_goals cases hb
  assumption

theorem length_of_fromBytes {b : List UInt8} {h : FileHeader} (hb : fromBytes b = .ok h) :
    b.length = 32 := by
  rw [← memoryImage_fromBytes hb, memoryImage, length_layout]

/-- `from_bytes` accepts exactly the memory images of valid headers, and returns the
header each is the image of. -/
theorem fromBytes_eq_ok {b : List UInt8} {h : FileHeader} :
    fromBytes b = .ok h ↔ h.validate = .ok () ∧ h.memoryImage = b :=
  ⟨fun hb => ⟨validate_of_fromBytes hb, memoryImage_fromBytes hb⟩,
    fun ⟨hv, hb⟩ => hb ▸ fromBytes_memoryImage hv⟩

/-! `from_bytes` on the bytes themselves. -/

/-- The checks of `from_bytes` read off the bytes, in the order the documentation lists
them: the length, the magic `BMX` (a zero byte fails it too), the version, the bit depth,
the register's range, the pairing, and `data_start` (little-endian at offset 12) against
the palette that `pal_used` (offset 10) announces. -/
def checkHeaderBytes (b : List UInt8) : Except FileHeaderError Unit :=
  if b.length ≠ 32 then .error .invalidHeaderSize
  else if b.getD 0 0 ≠ 66 ∨ b.getD 1 0 ≠ 77 ∨ b.getD 2 0 ≠ 88 then .error .invalidFileId
  else if b.getD 3 0 ≠ 1 then .error .invalidVersion
  else if b.getD 4 0 ∉ [1, 2, 4, 8] then .error .invalidBitDepth
  else if ¬ b.getD 5 0 ≤ 3 then .error .invalidVeraColorDepthRegister
  else if (b.getD 4 0, b.getD 5 0) ∉ [(1, 0), (2, 1), (4, 2), (8, 3)] then .error .bitDepthMismatch
  else if (b.getD 12 0).toNat + 256 * (b.getD 13 0).toNat <
      32 + 2 * (if b.getD 10 0 = 0 then 256 else (b.getD 10 0).toNat) then .error .invalidDataStart
  else .ok ()

/-- The bytes of a header `from_bytes` should accept: 32 of them, `BMX`, version 1, a bit
depth paired with its register, and room for the palette before `data_start`. -/
def HeaderBytesValid (b : List UInt8) : Prop :=
  b.length = 32 ∧ b.getD 0 0 = 66 ∧ b.getD 1 0 = 77 ∧ b.getD 2 0 = 88 ∧ b.getD 3 0 = 1 ∧
    (b.getD 4 0, b.getD 5 0) ∈ [(1, 0), (2, 1), (4, 2), (8, 3)] ∧
    32 + 2 * (if b.getD 10 0 = 0 then 256 else (b.getD 10 0).toNat) ≤
      (b.getD 12 0).toNat + 256 * (b.getD 13 0).toNat

instance (b : List UInt8) : Decidable (HeaderBytesValid b) := by
  unfold HeaderBytesValid; infer_instance

/-- A check that returns an error when its condition holds passes exactly when the
condition fails and the checks after it pass. -/
theorem ite_error_eq_ok {ε : Type} {c : Prop} [Decidable c] {e : ε} {x : Except ε Unit} :
    (if c then .error e else x) = .ok () ↔ ¬ c ∧ x = .ok () := by
  by_cases hc : c <;> simp [hc]

/-- The byte checks pass exactly on the bytes listed by `HeaderBytesValid`: the pairing
subsumes the bit depth and register checks before it. -/
theorem checkHeaderBytes_eq_ok {b : List UInt8} :
    checkHeaderBytes b = .ok () ↔ HeaderBytesValid b := by
  simp only [checkHeaderBytes, ite_error_eq_ok, ne_eq, not_or, not_not, not_lt, and_true,
    HeaderBytesValid]
  constructor
  · rintro ⟨hl, ⟨h0, h1, h2⟩, h3, -, -, hp, hd⟩
    exact ⟨hl, h0, h1, h2, h3, hp, hd⟩
  · rintro ⟨hl, h0, h1, h2, h3, hp, hd⟩
    -- The pair fixes the bit depth and the register, which so pass their own checks.
    have hbr : b.getD 4 0 ∈ [1, 2, 4, 8] ∧ b.getD 5 0 ≤ 3 := by
      simp only [List.mem_cons, Prod.mk.injEq, List.mem_singleton, List.not_mem_nil, or_false] at hp
      rcases hp with ⟨hb, hr⟩ | ⟨hb, hr⟩ | ⟨hb, hr⟩ | ⟨hb, hr⟩ <;> rw [hb, hr] <;> decide
    exact ⟨hl, ⟨h0, h1, h2⟩, h3, hbr.1, hbr.2, hp, hd⟩

/-- `from_bytes` fails exactly as the byte checks do: a zero magic byte is caught by the
`NonZeroU8` reads, and every other check of `validate` reads one field that is one or two
of the bytes. -/
theorem fromBytes_map_eq (b : List UInt8) :
    (fromBytes b).map (fun _ => ()) = checkHeaderBytes b := by
  rw [fromBytes, checkHeaderBytes]
  by_cases hlen : b.length ≠ 32
  · rw [if_pos hlen, if_pos hlen]
    rfl
  rw [if_neg hlen, if_neg hlen]
  split
  · rename_i b0 b1 b2 h0 h1 h2
    dsimp only
    split
    all_goals
      rename_i hv
      simp only [validate, paletteEntryCount, depthRegisterPairs, u16FromLeBytes_toNat,
        sizeOfFileHeader, sizeOfPaletteEntry, Matrix.cons_val_zero, Matrix.cons_val_one,
        Matrix.head_cons, Matrix.cons_val_two, Matrix.tail_cons, NonZeroU8.get_of_new h0,
        NonZeroU8.get_of_new h1, NonZeroU8.get_of_new h2] at hv
      rw [hv]
      rfl
  · rename_i hnone
    have hmagic : b.getD 0 0 ≠ 66 ∨ b.getD 1 0 ≠ 77 ∨ b.getD 2 0 ≠ 88 := by
      by_contra hm
      simp only [not_or, not_not] at hm
      exact hnone _ _ _ (by rw [hm.1]; rfl) (by rw [hm.2.1]; rfl) (by rw [hm.2.2]; rfl)
    rw [if_pos hmagic]
    rfl

/-- On a header's memory image the byte checks are `validate`'s. -/
theorem checkHeaderBytes_memoryImage (h : FileHeader) :
    checkHeaderBytes h.memoryImage = h.validate := by
  have hds : (u16ToLeBytes h.dataStart).1.toNat + 256 * (u16ToLeBytes h.dataStart).2.toNat =
      h.dataStart.toNat := by
    rw [← u16FromLeBytes_toNat, u16FromLeBytes_toLeBytes]
  rw [checkHeaderBytes, if_neg (by rw [memoryImage, length_layout]; exact not_not.mpr rfl)]
  simp only [memoryImage, layout, validate, paletteEntryCount, depthRegisterPairs, sizeOfFileHeader,
    sizeOfPaletteEntry, List.cons_append, List.getD_cons_succ, List.getD_cons_zero, hds]

/-- `from_bytes` returns `Ok h` exactly on the bytes `HeaderBytesValid` lists, and then `h`
is the header whose memory image they are: each field is the byte at its offset, and
`width`, `height` and `data_start` are read little-endian. Otherwise its error is the first
byte check that fails. -/
theorem fromBytes_iff_headerBytes (b : List UInt8) :
    (∀ h, fromBytes b = .ok h ↔ HeaderBytesValid b ∧ h.memoryImage = b) ∧
      ∀ e, fromBytes b = .error e ↔ checkHeaderBytes b = .error e := by
  have hmap := fromBytes_map_eq b
  refine ⟨fun h => ⟨fun hb => ?_, fun ⟨hv, hb⟩ => ?_⟩, fun e => ?_⟩
  · rw [hb] at hmap
    exact ⟨checkHeaderBytes_eq_ok.mp hmap.symm, memoryImage_fromBytes hb⟩
  · subst hb
    exact fromBytes_memoryImage ((checkHeaderBytes_memoryImage h).symm.trans
      (checkHeaderBytes_eq_ok.mpr hv))
  · rw [← hmap]
    cases fromBytes b <;> simp [Except.map]

/-- `to_bytes` on a valid header with `data_start = 34` (one palette entry at 8 bits per
pixel): the bytes `00 22` come back as `data_start = 0x2200`, so the round trip changes
the header. -/
theorem fromBytes_toBytes_swaps_dataStart :
    let h : FileHeader :=
      { default with
        bitDepth := 8
        veraColorDepthRegister := 3
        palUsed := 1
        dataStart := 34 }
    h.validate = .ok () ∧ fromBytes h.toBytes = .ok { h with dataStart := 8704 } := by
  refine ⟨by decide, ?_⟩
  rw [toBytes, fromBytes_layout (by decide)]
  decide

end FileHeader

/-- A palette entry keeps the high nibble of each colour channel, and `to_wic` makes the
colour opaque. -/
theorem PaletteEntry.toWic_fromWic (c : UInt32) :
    (PaletteEntry.fromWic c).toWic = 0xFF000000 ||| (c &&& 0x00F0F0F0) := by
  apply UInt32.eq_of_toBitVec_eq
  apply BitVec.eq_of_getLsbD_eq
  intro ⟨i, hi⟩
  simp only [PaletteEntry.toWic, PaletteEntry.fromWic, PaletteEntry.toRgb, PaletteEntry.fromRgb]
  simp only [UInt32.toBitVec_or, UInt32.toBitVec_ofNat, UInt32.toBitVec_shiftLeft,
    UInt8.toBitVec_toUInt32, UInt8.toBitVec_shiftLeft, UInt8.toBitVec_shiftRight,
    UInt32.toBitVec_toUInt8, UInt32.toBitVec_shiftRight, BitVec.ofNat_eq_ofNat, BitVec.reduceMod,
    BitVec.ushiftRight_eq', BitVec.toNat_ofNat, Nat.reducePow, Nat.reduceMod, UInt8.toBitVec_ofNat,
    BitVec.shiftLeft_eq', UInt8.toBitVec_or, UInt8.toBitVec_and, BitVec.getLsbD_or,
    BitVec.getLsbD_shiftLeft, BitVec.getLsbD_setWidth, BitVec.getLsbD_ushiftRight,
    add_lt_iff_neg_left, not_lt_zero', decide_False, Bool.not_false, Bool.and_true,
    add_tsub_cancel_left, Bool.and_self_left, BitVec.getLsbD_and, UInt32.toBitVec_and]
  -- Bit `i` of both sides, with the constant masks evaluated.
  interval_cases i <;> simp only [BitVec.reduceGetLsb, Nat.reduceLT, Nat.reduceAdd, Nat.reduceSub,
    Nat.reduceLeDiff, decide_True, decide_False, Bool.not_true, Bool.not_false, Bool.and_false,
    Bool.false_and, Bool.true_and, Bool.and_true, Bool.and_self, Bool.or_self, Bool.or_false,
    Bool.false_or, Nat.sub_eq_zero_of_le, Nat.ofNat_pos, zero_le, add_zero, lt_self_iff_false,
    tsub_self, Nat.lt_add_one, Nat.one_lt_ofNat, Nat.one_le_ofNat]

end BmxShell.Bmx
