import ClientForge.Text.Case
import Mathlib

/-!
Two notions of equal names: up to the case of ASCII letters, and equal in full lower case. The
second one is coarser only by the Kelvin sign, which is a `k` in lower case: no other character that
is not ASCII becomes ASCII, and the dotted capital `İ` becomes an `i` with a dot that stays.

Results:
1. `lowerChar_foreign`: what a character that is not ASCII leaves in lower case.
2. `same_of_lowercase_eq`: a name that is an ASCII word without `k` in full lower case is this word
   up to the case of ASCII letters.
3. `sameIgnoringAsciiCase_iff`: for a word that is in lower case the two notions are one.
-/

namespace ClientForge.Text

/-- Only ASCII characters become this one in lower case: it is ASCII, and neither `k` nor the
character that stands in for invalid ones. -/
def IsNative (c : Char) : Prop := c.toNat < 0x80 ∧ c ≠ 'k' ∧ c ≠ '\x00'

instance (c : Char) : Decidable (IsNative c) := inferInstanceAs (Decidable (_ ∧ _ ∧ _))

/-- What holds of every ASCII character, looked at one by one. -/
theorem forall_ascii {P : Char → Prop} (h : ∀ n < 0x80, P (Char.ofNat n)) {c : Char}
    (hc : c.toNat < 0x80) : P c := by
  have hcode := h c.toNat hc
  rwa [Char.ofNat_toNat] at hcode

theorem ofNat_not_native {n : Nat} (hn : 0x80 ≤ n) : ¬ IsNative (Char.ofNat n) := by
  rintro ⟨hascii, _, hzero⟩
  by_cases hvalid : n.isValidChar
  · rw [Char.toNat_ofNat, if_pos hvalid] at hascii
    omega
  · refine hzero ?_
    rw [Char.ofNat, dif_neg hvalid]
    rfl

theorem lowerLong_foreign :
    ∀ row ∈ CaseTable.lowerLong, ∃ n ∈ row.2, ¬ IsNative (Char.ofNat n) := by
  decide +kernel

/-- All rows stay above ASCII, except the one that maps the Kelvin sign. -/
theorem lower_rows :
    ∀ row ∈ CaseTable.lower, 0x80 ≤ row.first + row.delta ∨
      row.first = row.last ∧ row.first + row.delta = 'k'.toNat := by
  decide +kernel

theorem shifted_foreign {c : Char} (hc : 0x80 ≤ c.toNat) :
    ¬ IsNative (shifted CaseTable.lower c) := by
  unfold shifted
  split
  · next row hrow =>
    have hcontains := List.find?_some hrow
    simp only [Shift.contains, Bool.and_eq_true, decide_eq_true_eq] at hcontains
    rcases lower_rows row (List.mem_of_find?_eq_some hrow) with hrow | ⟨hone, hkelvin⟩
    · exact ofNat_not_native (by omega)
    · have hk : (c.toNat + row.delta).toNat = 'k'.toNat := by omega
      rw [hk]
      decide
  · exact fun h => absurd h.1 (by omega)

/-- What a character that is not ASCII leaves in lower case. -/
theorem lowerChar_foreign {c : Char} (hc : isAscii c = false) :
    ∃ d ∈ lowerChar c, ¬ IsNative d := by
  have hcode : 0x80 ≤ c.toNat := by simpa [isAscii] using hc
  unfold lowerChar
  rw [hc, if_neg Bool.false_ne_true]
  split
  · next image hlong =>
    obtain ⟨before, after, hrows, _⟩ := List.lookup_eq_some_iff.mp hlong
    have hrow : (c.toNat, image) ∈ CaseTable.lowerLong := by
      rw [hrows]
      exact List.mem_append_right _ List.mem_cons_self
    obtain ⟨n, hn, hforeign⟩ := lowerLong_foreign _ hrow
    exact ⟨_, List.mem_map_of_mem hn, hforeign⟩
  · exact ⟨_, List.mem_singleton_self _, shifted_foreign hcode⟩

/-- By induction on the text: every character of it is an ASCII character of the word. -/
theorem map_toLower_of_lowerFrom {before cs word : List Char} (hword : ∀ c ∈ word, IsNative c)
    (h : lowerFrom before cs = word) : cs.map Char.toLower = word := by
  induction cs generalizing before word with
  | nil => exact h
  | cons c rest ih =>
    rw [lowerFrom] at h
    by_cases hsigma : c = 'Σ'
    · rw [if_pos hsigma] at h
      have hmem := hword _ (h ▸ List.mem_append_left _ (List.mem_singleton_self _))
      exfalso
      revert hmem
      split_ifs <;> decide
    · rw [if_neg hsigma] at h
      by_cases hascii : isAscii c
      · rw [lowerChar, if_pos hascii, List.singleton_append] at h
        rw [← h, List.forall_mem_cons] at hword
        rw [List.map_cons, ih hword.2 rfl, h]
      · obtain ⟨d, hd, hforeign⟩ := lowerChar_foreign (Bool.not_eq_true _ ▸ hascii)
        exact absurd (hword d (h ▸ List.mem_append_left _ hd)) hforeign

/-- A name that is an ASCII word without `k` in full lower case is this word up to the case of ASCII
letters. -/
theorem same_of_lowercase_eq {name word : String} (hword : ∀ c ∈ word.toList, IsNative c)
    (h : lowercase name = word) : sameIgnoringAsciiCase name word = true := by
  have hlower : lowerFrom [] name.toList = word.toList := by
    rw [← h, lowercase, String.toList_ofList, lower]
  have hmap := map_toLower_of_lowerFrom hword hlower
  rw [sameIgnoringAsciiCase, beq_iff_eq, ← hmap, List.map_map]
  exact List.map_congr_left fun c _ => (Char.toLower_toLower_eq_toLower c).symm

/-- By induction on the text: small ASCII letters come from ASCII letters only. -/
theorem lowerFrom_of_map_toLower {before cs word : List Char} (hword : ∀ c ∈ word, IsNative c)
    (h : cs.map Char.toLower = word) : lowerFrom before cs = word := by
  induction cs generalizing before word with
  | nil => exact h
  | cons c rest ih =>
    rw [List.map_cons] at h
    rw [← h, List.forall_mem_cons] at hword
    have hascii : isAscii c = true := by
      have hsmall : c.toLower.toNat < 0x80 := hword.1.1
      by_cases hupper : c.isUpper = true
      · simp only [Char.isUpper, decide_eq_true_eq, UInt32.le_iff_toNat_le] at hupper
        exact decide_eq_true (Nat.lt_of_le_of_lt hupper.2 (by decide))
      · rw [Char.toLower_eq_of_not_isUpper hupper] at hsmall
        exact decide_eq_true hsmall
    have hsigma : c ≠ 'Σ' := by
      rintro rfl
      exact absurd hascii (by decide)
    rw [lowerFrom, if_neg hsigma, lowerChar, if_pos hascii, ih hword.2 rfl, List.singleton_append, h]

/-- For an ASCII word without `k` both notions of equal names are one. -/
theorem sameIgnoringAsciiCase_iff {name word : String} (hword : ∀ c ∈ word.toList, IsNative c)
    (hlower : lowercase word = word) :
    sameIgnoringAsciiCase name word = true ↔ lowercase name = word := by
  refine ⟨fun h => ?_, same_of_lowercase_eq hword⟩
  have hsmall : word.toList.map Char.toLower = word.toList := by
    have hself := congrArg String.toList hlower
    rw [lowercase, String.toList_ofList] at hself
    exact map_toLower_of_lowerFrom hword hself
  rw [sameIgnoringAsciiCase, beq_iff_eq, hsmall] at h
  rw [lowercase, lower, lowerFrom_of_map_toLower hword h, String.ofList_toList]

end ClientForge.Text
