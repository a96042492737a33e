import ClientForge.Api.TypeName
import ClientForge.Proofs.LowerCase
import Mathlib.Data.List.DropRight

/-!
What is in lower case stays as it is: no character that a mapping yields is mapped itself, none of
them is a capital sigma, and none is blank that was not blank before. So a text without blanks at its
ends has none in lower case either, and a semantic type name is its own semantic type.

Results:
1. `lowerChar_settled`: what the lower case of one character is made of.
2. `lower_lower`, `trim_lowercase_trim`: a text in lower case stays, and is trimmed if the text was.
3. `semanticType_semanticType`: so does a semantic type name.
-/

namespace ClientForge.Text

/-! ## Definitions -/

/-- A character that lower case leaves alone, whatever stands around it. -/
def IsSettled (c : Char) : Prop := c ≠ 'Σ' ∧ lowerChar c = [c]

instance (c : Char) : Decidable (IsSettled c) := inferInstanceAs (Decidable (_ ∧ _))

/-- No code point of `r` is mapped to one of `s`: the images are elsewhere or, with steps of two,
between them. -/
def Shift.avoids (r s : Shift) : Bool :=
  let first := (r.first + r.delta).toNat
  let last := (r.last + r.delta).toNat
  Nat.blt last s.first || Nat.blt s.last first ||
    ((r.first == r.last || r.step == 2) && s.step == 2 && (first + s.first) % 2 == 1)

/-- No character at the ends satisfies `p`. -/
def IsStripped (p : Char → Bool) (cs : List Char) : Prop :=
  (∀ c ∈ cs.head?, p c = false) ∧ ∀ c ∈ cs.getLast?, p c = false

/-! ## One character -/

theorem ascii_settled {c : Char} (h : c.toNat < 0x80) : IsSettled c.toLower ∧
    (isBlank c.toLower → isBlank c) :=
  forall_ascii (P := fun c => IsSettled c.toLower ∧ (isBlank c.toLower → isBlank c))
    (by decide +kernel) h

theorem lowerLong_settled : ∀ row ∈ CaseTable.lowerLong, row.2 ≠ [] ∧
    ∀ n ∈ row.2, IsSettled (Char.ofNat n) ∧ isBlank (Char.ofNat n) = false := by
  decide +kernel

theorem small_sigma_settled : IsSettled 'ς' ∧ IsSettled 'σ' := by decide +kernel

theorem lower_avoids_lower : (CaseTable.lower.all fun r => CaseTable.lower.all r.avoids) = true := by
  decide +kernel

theorem lower_avoids_lowerLong : ∀ r ∈ CaseTable.lower, ∀ row ∈ CaseTable.lowerLong,
    r.avoids ⟨row.1, row.1, 1, 0⟩ := by
  decide +kernel

theorem lower_avoids_blanks : (CaseTable.lower.all fun r =>
    blanks.all fun c => r.avoids ⟨c.toNat, c.toNat, 1, 0⟩) = true := by
  decide +kernel

theorem Shift.not_contains_of_avoids {r s : Shift} (h : r.avoids s) (hlow : 0 ≤ r.first + r.delta)
    {n : Nat} (hn : r.contains n) : s.contains (n + r.delta).toNat = false := by
  rw [Bool.eq_false_iff]
  intro hs
  simp only [Shift.contains, Bool.and_eq_true, decide_eq_true_eq, beq_iff_eq] at hn hs
  simp only [Shift.avoids, Bool.or_eq_true, Bool.and_eq_true, beq_iff_eq, Nat.blt_eq] at h
  rcases h with (hbelow | habove) | ⟨⟨hstep, htwo⟩, hodd⟩
  · omega
  · omega
  · rw [htwo] at hs
    rcases hstep with hone | hstep
    · omega
    · rw [hstep] at hn
      omega

/-- A character that stands in no row of the table is its own lower case. -/
theorem lowerChar_of_free {c : Char} (hascii : isAscii c = false)
    (hlong : ∀ row ∈ CaseTable.lowerLong, row.1 ≠ c.toNat)
    (hrows : ∀ s ∈ CaseTable.lower, s.contains c.toNat = false) : lowerChar c = [c] := by
  have hnone : CaseTable.lowerLong.lookup c.toNat = none :=
    List.lookup_eq_none_iff.mpr fun row hrow => by simpa using (hlong row hrow).symm
  have hunshifted : CaseTable.lower.find? (·.contains c.toNat) = none :=
    List.find?_eq_none.mpr fun s hs => by simp [hrows s hs]
  rw [lowerChar, hascii, if_neg Bool.false_ne_true, hnone]
  rw [shifted, hunshifted]

theorem contains_self (n : Nat) : Shift.contains ⟨n, n, 1, 0⟩ n := by simp [Shift.contains]

/-- What a row maps to is settled and not blank. -/
theorem image_settled {r : Shift} (hr : r ∈ CaseTable.lower) {n : Nat} (hn : r.contains n) :
    IsSettled (Char.ofNat (n + r.delta).toNat) ∧
      isBlank (Char.ofNat (n + r.delta).toNat) = false := by
  have hrow := lower_rows r hr
  have hlow : 0 ≤ r.first + r.delta := by omega
  have havoids := List.all_eq_true.mp lower_avoids_lower r hr
  generalize hm : (n + r.delta).toNat = m
  have hfree (s : Shift) (hs : r.avoids s) : s.contains m = false :=
    hm ▸ Shift.not_contains_of_avoids hs hlow hn
  by_cases hvalid : m.isValidChar
  · have hcode : (Char.ofNat m).toNat = m := by rw [Char.toNat_ofNat, if_pos hvalid]
    have hrange : 0x80 ≤ m ∨ m = 'k'.toNat := by
      simp only [Shift.contains, Bool.and_eq_true, decide_eq_true_eq] at hn
      omega
    rcases hrange with hforeign | rfl
    · refine ⟨⟨fun hsigma => ?_, lowerChar_of_free ?_ ?_ ?_⟩, ?_⟩
      · -- a capital sigma is in a row itself
        obtain ⟨s, hs, hsigmaRow⟩ :
            ∃ s ∈ CaseTable.lower, s.contains (Char.ofNat m).toNat := by
          rw [hsigma]
          decide +kernel
        rw [hcode, hfree s (List.all_eq_true.mp havoids s hs)] at hsigmaRow
        cases hsigmaRow
      · rw [isAscii, hcode]
        simpa using hforeign
      · intro row hrow heq
        have hapart := hfree _ (lower_avoids_lowerLong r hr row hrow)
        rw [heq, hcode, contains_self] at hapart
        cases hapart
      · intro s hs
        rw [hcode]
        exact hfree s (List.all_eq_true.mp havoids s hs)
      · rw [Bool.eq_false_iff, isBlank]
        intro hblank
        have hapart := hfree _ (List.all_eq_true.mp
          (List.all_eq_true.mp lower_avoids_blanks r hr) _ (List.contains_iff_mem.mp hblank))
        rw [hcode, contains_self] at hapart
        cases hapart
    · decide
  · have hzero : Char.ofNat m = '\x00' := by
      rw [Char.ofNat, dif_neg hvalid]
      rfl
    rw [hzero]
    decide

/-- What the lower case of one character is made of. -/
theorem lowerChar_settled {c : Char} (hc : c ≠ 'Σ') : lowerChar c ≠ [] ∧
    ∀ d ∈ lowerChar c, IsSettled d ∧ (isBlank d → isBlank c) := by
  by_cases hascii : isAscii c
  · have hsettled := ascii_settled (by simpa [isAscii] using hascii)
    rw [lowerChar, if_pos hascii]
    exact ⟨List.cons_ne_nil _ _, List.forall_mem_singleton.mpr hsettled⟩
  rw [Bool.not_eq_true] at hascii
  cases hlong : CaseTable.lowerLong.lookup c.toNat with
  | some image =>
    obtain ⟨before, after, hrows, _⟩ := List.lookup_eq_some_iff.mp hlong
    have hrow : (c.toNat, image) ∈ CaseTable.lowerLong := by
      rw [hrows]
      exact List.mem_append_right _ List.mem_cons_self
    obtain ⟨hne, hsettled⟩ := lowerLong_settled _ hrow
    rw [lowerChar, hascii, if_neg Bool.false_ne_true, hlong]
    refine ⟨by simpa using hne, List.forall_mem_map.mpr fun n hn => ?_⟩
    obtain ⟨hn, hnonblank⟩ := hsettled n hn
    exact ⟨hn, fun hblank => absurd hblank (by rw [hnonblank]; decide)⟩
  | none =>
    cases hrow : CaseTable.lower.find? (·.contains c.toNat) with
    | some r =>
      have hcontains : r.contains c.toNat := by simpa using List.find?_some hrow
      obtain ⟨hsettled, hnonblank⟩ :=
        image_settled (List.mem_of_find?_eq_some hrow) hcontains
      rw [lowerChar, hascii, if_neg Bool.false_ne_true, hlong]
      rw [shifted, hrow]
      refine ⟨List.cons_ne_nil _ _, List.forall_mem_singleton.mpr ⟨hsettled, fun hblank => ?_⟩⟩
      exact absurd hblank (by rw [hnonblank]; decide)
    | none =>
      have hself : lowerChar c = [c] := by
        rw [lowerChar, hascii, if_neg Bool.false_ne_true, hlong]
        rw [shifted, hrow]
      rw [hself]
      exact ⟨List.cons_ne_nil _ _, List.forall_mem_singleton.mpr ⟨⟨hc, hself⟩, id⟩⟩

/-! ## Texts -/

/-- Lower case goes through a text piece by piece. -/
theorem lowerFrom_cons (before : List Char) (c : Char) (rest : List Char) :
    ∃ image, lowerFrom before (c :: rest) = image ++ lowerFrom (c :: before) rest ∧
      image ≠ [] ∧ ∀ d ∈ image, IsSettled d ∧ (isBlank d → isBlank c) := by
  rw [lowerFrom]
  by_cases hsigma : c = 'Σ'
  · refine ⟨_, rfl, ?_⟩
    rw [if_pos hsigma]
    refine ⟨List.cons_ne_nil _ _, List.forall_mem_singleton.mpr ?_⟩
    split_ifs
    · exact ⟨small_sigma_settled.1, fun hblank => absurd hblank (by decide)⟩
    · exact ⟨small_sigma_settled.2, fun hblank => absurd hblank (by decide)⟩
  · refine ⟨_, rfl, ?_⟩
    rw [if_neg hsigma]
    exact lowerChar_settled hsigma

theorem settled_lowerFrom (before cs : List Char) : ∀ d ∈ lowerFrom before cs, IsSettled d := by
  induction cs generalizing before with
  | nil => exact fun d hd => nomatch hd
  | cons c rest ih =>
    obtain ⟨image, himage, _, hsettled⟩ := lowerFrom_cons before c rest
    rw [himage]
    exact List.forall_mem_append.mpr ⟨fun d hd => (hsettled d hd).1, ih _⟩

theorem lowerFrom_of_settled (before : List Char) {cs : List Char} (h : ∀ c ∈ cs, IsSettled c) :
    lowerFrom before cs = cs := by
  induction cs generalizing before with
  | nil => rfl
  | cons c rest ih =>
    obtain ⟨⟨hsigma, hself⟩, hrest⟩ := List.forall_mem_cons.mp h
    rw [lowerFrom, if_neg hsigma, hself, ih _ hrest, List.singleton_append]

/-- What is in lower case stays as it is. -/
theorem lower_lower (cs : List Char) : lower (lower cs) = lower cs :=
  lowerFrom_of_settled [] (settled_lowerFrom [] cs)

theorem lowercase_lowercase (s : String) : lowercase (lowercase s) = lowercase s := by
  rw [lowercase, lowercase, String.toList_ofList, lower_lower]

/-! ## Ends of a text -/

theorem dropEndWhile_eq_self_iff {p : Char → Bool} {cs : List Char} :
    dropEndWhile p cs = cs ↔ ∀ c ∈ cs.getLast?, p c = false := by
  refine (List.rdropWhile_eq_self_iff).trans ?_
  rcases List.eq_nil_or_concat cs with rfl | ⟨front, last, rfl⟩
  · simp
  · simp

theorem strip_eq_self {p : Char → Bool} {cs : List Char} (h : IsStripped p cs) :
    strip p cs = cs := by
  have hstart : cs.dropWhile p = cs := by
    cases cs with
    | nil => rfl
    | cons c rest => simp [h.1 c rfl]
  rw [strip, hstart]
  exact dropEndWhile_eq_self_iff.mpr h.2

section

variable {p q : Char → Bool} (h : ∀ c, p c = true → q c = false)
include h

theorem filter_dropWhile (cs : List Char) : (cs.dropWhile p).filter q = cs.filter q := by
  have hnone : (cs.takeWhile p).filter q = [] :=
    List.filter_eq_nil_iff.mpr fun c hc => Bool.eq_false_iff.mp (h c (List.mem_takeWhile_imp hc))
  calc (cs.dropWhile p).filter q
      = (cs.takeWhile p).filter q ++ (cs.dropWhile p).filter q := by rw [hnone, List.nil_append]
    _ = cs.filter q := by rw [← List.filter_append, List.takeWhile_append_dropWhile]

theorem filter_dropEndWhile (cs : List Char) : (dropEndWhile p cs).filter q = cs.filter q := by
  rw [dropEndWhile, List.filter_reverse, filter_dropWhile h, List.filter_reverse,
    List.reverse_reverse]

/-- Stripping loses nothing that a filter keeps. -/
theorem filter_strip (cs : List Char) : (strip p cs).filter q = cs.filter q := by
  rw [strip, filter_dropEndWhile h, filter_dropWhile h]

end

theorem strip_isStripped (p : Char → Bool) (cs : List Char) : IsStripped p (strip p cs) := by
  have hprefix : strip p cs <+: cs.dropWhile p := List.rdropWhile_prefix p _
  constructor
  · intro c hc
    obtain ⟨rest, hstrip⟩ := List.head?_eq_some_iff.mp hc
    obtain ⟨after, hdropped⟩ := hprefix
    rw [hstrip] at hdropped
    have hhead := List.head?_dropWhile_not p cs
    rw [← hdropped] at hhead
    simpa using hhead
  · intro c hc
    have hne : strip p cs ≠ [] := fun hnil => by simp [hnil] at hc
    have hlast := List.rdropWhile_last_not p (cs.dropWhile p) hne
    have hlast? : (strip p cs).getLast? = some ((strip p cs).getLast hne) :=
      List.getLast?_eq_some_getLast hne
    rw [Option.mem_def, hlast?] at hc
    rw [← Option.some.inj hc]
    exact Bool.eq_false_iff.mpr hlast

/-- By induction on the text: its first and its last character leave the ends of its lower case. -/
theorem lowerFrom_isStripped {before cs : List Char} (h : IsStripped isBlank cs) :
    IsStripped isBlank (lowerFrom before cs) := by
  constructor
  · cases cs with
    | nil => exact fun d hd => nomatch hd
    | cons c rest =>
      obtain ⟨image, himage, hne, hsettled⟩ := lowerFrom_cons before c rest
      intro d hd
      rw [himage, List.head?_append_of_ne_nil _ hne] at hd
      have hblank := (hsettled d (List.mem_of_mem_head? hd)).2
      exact Bool.eq_false_iff.mpr fun hd => absurd (hblank hd) (by rw [h.1 c rfl]; decide)
  · have hlast := h.2
    clear h
    induction cs generalizing before with
    | nil => exact fun d hd => nomatch hd
    | cons c rest ih =>
      obtain ⟨image, himage, hne, hsettled⟩ := lowerFrom_cons before c rest
      intro d hd
      cases rest with
      | nil =>
        rw [himage, lowerFrom, List.append_nil] at hd
        have hblank := (hsettled d (List.mem_of_mem_getLast? hd)).2
        exact Bool.eq_false_iff.mpr fun hd => absurd (hblank hd) (by rw [hlast c rfl]; decide)
      | cons c' rest =>
        have hrest : lowerFrom (c :: before) (c' :: rest) ≠ [] := by
          obtain ⟨image', himage', hne', _⟩ := lowerFrom_cons (c :: before) c' rest
          rw [himage']
          exact List.append_ne_nil_of_left_ne_nil hne' _
        rw [himage, List.getLast?_append_of_ne_nil _ hrest] at hd
        exact ih (fun e he => hlast e he) d hd

/-- A trimmed text has no blanks at its ends in lower case either. -/
theorem trim_lowercase_trim (s : String) :
    trim (lowercase (trim s)) = lowercase (trim s) := by
  rw [trim, lowercase, trim, String.toList_ofList, String.toList_ofList]
  exact congrArg String.ofList
    (strip_eq_self (lowerFrom_isStripped (strip_isStripped isBlank s.toList)))

end ClientForge.Text

namespace ClientForge.Api

theorem shortTypeNames_stable : ∀ row ∈ shortTypeNames, semanticType row.2 = row.2 := by
  decide +kernel

/-- A semantic type name is its own semantic type. -/
theorem semanticType_semanticType (declared : String) :
    semanticType (semanticType declared) = semanticType declared := by
  suffices stable : ∀ name, semanticType declared = name → semanticType name = name from
    stable _ rfl
  intro name hname
  cases hshort : shortTypeNames.lookup (Text.lowercase (Text.trim declared)) with
  | some short =>
    rw [semanticType, hshort, Option.getD_some] at hname
    subst hname
    obtain ⟨before, after, hrows, _⟩ := List.lookup_eq_some_iff.mp hshort
    have hrow : (Text.lowercase (Text.trim declared), short) ∈ shortTypeNames := by
      rw [hrows]
      exact List.mem_append_right _ List.mem_cons_self
    have hstable := shortTypeNames_stable _ hrow
    exact hstable
  | none =>
    rw [semanticType, hshort, Option.getD_none] at hname
    subst hname
    rw [semanticType, Text.trim_lowercase_trim, Text.lowercase_lowercase, hshort, Option.getD_none]

end ClientForge.Api
