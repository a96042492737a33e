import ClientForge.Text.Order
import Mathlib.Data.List.Basic
import Mathlib.Order.Basic

/-!
The order in which keys are sorted. Texts compare by code points, and that is the order of their
bytes in UTF-8: of two characters the greater one has the greater encoding, whatever follows.

Results:
1. `lt_iff_bytes_lt`: a text is below another one when its bytes are.
2. `sortOn_sorted`, `sortOn_strict`: sorting sorts, strictly if no text occurs twice.
3. `sortOn_of_sorted`: what is sorted already stays as it is.
4. `filter_sortOn`: elements with one key keep their order.
5. `keys_sortOn_eq_iff`: lists sorted by their keys have the same keys in the same places when they
   had the same keys in some order.
-/

namespace ClientForge.Text

/-! ## Bytes -/

/-- The UTF-8 encoding of a text. -/
def bytes (s : String) : List UInt8 := s.toUTF8.data.toList

theorem bytes_eq_flatMap (s : String) : bytes s = s.toList.flatMap String.utf8EncodeChar := by
  rw [bytes, String.toUTF8_eq_toByteArray, ← String.utf8Encode_toList, List.utf8Encode]
  simp

theorem bytes_injective : Function.Injective bytes := fun _ _ h =>
  String.toByteArray_inj.mp (ByteArray.ext (Array.toList_inj.mp h))

/-- The first of four digits to the base 64 that differs decides. -/
theorem digits_lt {m n : Nat} (h : m < n) :
    m / 262144 < n / 262144 ∨ m / 262144 = n / 262144 ∧
      (m / 4096 % 64 < n / 4096 % 64 ∨ m / 4096 % 64 = n / 4096 % 64 ∧
        (m / 64 % 64 < n / 64 % 64 ∨ m / 64 % 64 = n / 64 % 64 ∧ m % 64 < n % 64)) := by
  omega

/-- A smaller character has a smaller encoding, which does not begin the encoding of the other. -/
theorem encodeChar_lt {c d : Char} (h : c < d) (u v : List UInt8) :
    String.utf8EncodeChar c ++ u < String.utf8EncodeChar d ++ v := by
  have hcd : c.val.toNat < d.val.toNat := h
  have hd : d.val.toNat < 0x110000 := by
    rcases d.valid with h | h <;> omega
  unfold String.utf8EncodeChar
  dsimp only
  generalize c.val.toNat = m at *
  generalize d.val.toNat = n at *
  have hdigits := digits_lt hcd
  -- a longer encoding has a greater first byte; equally long ones differ in a digit
  split_ifs <;>
    simp (disch := omega) only [List.cons_append, List.nil_append, List.cons_lt_cons_iff,
      UInt8.lt_iff_toNat_lt, ← UInt8.toNat_inj, UInt8.toNat_ofNat', Nat.mod_eq_of_lt] <;>
    omega

theorem encode_lt {cs ds : List Char} (h : cs < ds) :
    cs.flatMap String.utf8EncodeChar < ds.flatMap String.utf8EncodeChar := by
  induction cs generalizing ds with
  | nil =>
    cases ds with
    | nil => exact absurd h (List.lt_irrefl _)
    | cons d ds =>
      obtain ⟨b, bs, hd⟩ := List.exists_cons_of_ne_nil (String.utf8EncodeChar_ne_nil (c := d))
      rw [List.flatMap_nil, List.flatMap_cons, hd]
      exact List.nil_lt_cons _ _
  | cons c cs ih =>
    cases ds with
    | nil => exact absurd h (List.not_lt_nil _)
    | cons d ds =>
      rw [List.flatMap_cons, List.flatMap_cons]
      rcases List.cons_lt_cons_iff.mp h with hlt | ⟨rfl, hrest⟩
      · exact encodeChar_lt hlt _ _
      · exact List.append_left_lt (ih hrest)

/-- The order of texts is that of their bytes. -/
theorem lt_iff_bytes_lt {s t : String} : s < t ↔ bytes s < bytes t := by
  have forwards : ∀ {s t : String}, s < t → bytes s < bytes t := by
    intro s t h
    rw [bytes_eq_flatMap, bytes_eq_flatMap]
    exact encode_lt h
  refine ⟨forwards, fun h => ?_⟩
  by_contra hst
  rcases String.le_total s t with hle | hle
  · have heq : s = t := String.le_antisymm hle (String.not_lt.mp hst)
    exact List.lt_irrefl _ (heq ▸ h)
  · by_cases hts : t < s
    · exact List.lt_asymm h (forwards hts)
    · have heq : s = t := String.le_antisymm (String.not_lt.mp hts) hle
      exact List.lt_irrefl _ (heq ▸ h)

/-! ## Sorting -/

section

variable {α : Type} {key : α → String} {x : α} {xs : List α}

theorem insertOn_sorted (h : xs.Pairwise fun a b => key a ≤ key b) :
    (insertOn key x xs).Pairwise fun a b => key a ≤ key b := by
  induction xs with
  | nil => exact List.pairwise_singleton _ _
  | cons y rest ih =>
    obtain ⟨hy, hrest⟩ := List.pairwise_cons.mp h
    rw [insertOn]
    by_cases hlt : key y < key x
    · rw [if_pos hlt, List.pairwise_cons]
      refine ⟨fun z hz => ?_, ih hrest⟩
      rcases List.mem_cons.mp ((insertOn_perm key x rest).mem_iff.mp hz) with rfl | hz
      · exact String.not_lt.mp (String.lt_asymm hlt)
      · exact hy z hz
    · have hxy : key x ≤ key y := String.not_lt.mp hlt
      rw [if_neg hlt, List.pairwise_cons]
      refine ⟨fun z hz => ?_, h⟩
      rcases List.mem_cons.mp hz with rfl | hz
      · exact hxy
      · exact String.le_trans hxy (hy z hz)

theorem sortOn_sorted (key : α → String) (xs : List α) :
    (sortOn key xs).Pairwise fun a b => key a ≤ key b := by
  induction xs with
  | nil => exact .nil
  | cons x xs ih => exact insertOn_sorted ih

theorem sortOn_of_sorted (h : xs.Pairwise fun a b => key a ≤ key b) : sortOn key xs = xs := by
  induction xs with
  | nil => rfl
  | cons x xs ih =>
    obtain ⟨hx, hxs⟩ := List.pairwise_cons.mp h
    rw [sortOn, List.foldr_cons, ← sortOn, ih hxs]
    cases xs with
    | nil => rfl
    | cons y rest =>
      rw [insertOn, if_neg (String.not_lt.mpr (hx y List.mem_cons_self))]

theorem sortOn_strict (h : (xs.map key).Nodup) :
    (sortOn key xs).Pairwise fun a b => key a < key b := by
  have hnodup : (sortOn key xs).Pairwise fun a b => key a ≠ key b :=
    List.pairwise_map.mp (((sortOn_perm key xs).map key).nodup_iff.mpr h)
  refine (sortOn_sorted key xs).imp₂ (fun a b hle hne => ?_) hnodup
  by_contra hlt
  exact hne (String.le_antisymm hle (String.not_lt.mp hlt))

theorem filter_insertOn (k : String) :
    (insertOn key x xs).filter (key · = k) = (x :: xs).filter (key · = k) := by
  induction xs with
  | nil => rfl
  | cons y rest ih =>
    rw [insertOn]
    by_cases hlt : key y < key x
    · rw [if_pos hlt, List.filter_cons, ih]
      -- the two that change places do not have one key
      have hne : key y ≠ key x := fun h => String.lt_irrefl _ (h ▸ hlt)
      grind
    · rw [if_neg hlt]

/-- Sorting keeps the order of elements with one key. -/
theorem filter_sortOn (key : α → String) (xs : List α) (k : String) :
    (sortOn key xs).filter (key · = k) = xs.filter (key · = k) := by
  induction xs with
  | nil => rfl
  | cons x xs ih =>
    rw [sortOn, List.foldr_cons, ← sortOn, filter_insertOn, List.filter_cons, List.filter_cons, ih]

/-- Once sorted, lists with the same keys have them in the same places. -/
theorem keys_sortOn_eq_iff {ys : List α} :
    (sortOn key xs).map key = (sortOn key ys).map key ↔ (xs.map key).Perm (ys.map key) := by
  have hxs := (sortOn_perm key xs).map key
  have hys := (sortOn_perm key ys).map key
  constructor
  · intro h
    exact hxs.symm.trans (h ▸ hys)
  · intro h
    have hsorted (zs : List α) : ((sortOn key zs).map key).Pairwise (· ≤ ·) :=
      List.pairwise_map.mpr (sortOn_sorted key zs)
    exact List.Perm.eq_of_pairwise (fun _ _ _ _ hab hba => String.le_antisymm hab hba)
      (hsorted xs) (hsorted ys) (hxs.trans (h.trans hys.symm))

end

end ClientForge.Text
