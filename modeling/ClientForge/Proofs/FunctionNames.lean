import ClientForge.Proofs.Identifiers
import Mathlib.Data.List.Forall2

/-!
Names of methods, for operation ids of ASCII characters. Snake case is made in one pass that carries
two flags; the first one is set exactly while the text so far ends in an underscore, and then the
second one is not, so that no underscore ever follows another one. Letters and digits go through in
their order, and of everything else only underscores are left.

Results:
1. `snakeFrom_step`: what the pass does to one character.
2. `snakeFrom_single`: no two underscores are adjacent, whatever came before.
3. `snakeFrom_letters`: the letters and digits, in lower case and in their order.
4. `snakeFrom_self`: what is in snake case stays as it is.
5. `functionName_forms`: what the name of a method is.
-/

namespace ClientForge.Text

theorem strip_isInfix (p : Char → Bool) (cs : List Char) : strip p cs <:+: cs :=
  (List.rdropWhile_prefix p _).isInfix.trans (List.dropWhile_suffix p).isInfix

end ClientForge.Text

namespace ClientForge.Naming

open Text

/-! ## Definitions -/

/-- No two underscores are adjacent. -/
def IsSingle (cs : List Char) : Prop := cs.IsChain fun c d => c ≠ '_' ∨ d ≠ '_'

/-- Small letters, digits and underscores, each underscore alone and none in front, and no reserved
word: those are marked by an underscore at the end, which nothing else has. -/
structure IsMethodName (name : String) : Prop where
  consists : ∀ c ∈ name.toList, c.isLower ∨ c.isDigit ∨ c = '_'
  starts : ∀ c ∈ name.toList.head?, c ≠ '_'
  single : IsSingle name.toList
  avoids : AvoidsReserved name

/-- The second text is the first one with underscores for some of its hyphens and spaces. -/
def Respells (s t : String) : Prop :=
  List.Forall₂ (fun c d => d = c ∨ (c = '-' ∨ c = ' ') ∧ d = '_') s.toList t.toList

/-- What the pass writes for one ASCII character, with the two flags before and after it. -/
inductive Step (c : Char) : Bool → Bool → List Char → Bool → Bool → Prop
  | capital {broken rising : Bool} : c.isUpper = true →
      Step c broken rising ((if rising then ['_'] else []) ++ [c.toLower]) false false
  | small {broken rising : Bool} : c.isUpper = false → c.isAlphanum = true →
      Step c broken rising [c] false true
  | separator {rising : Bool} : c = '-' ∨ c = '_' ∨ c = ' ' → Step c false rising ['_'] true false
  | dropped {broken rising : Bool} : c.isAlphanum = false →
      (c = '-' ∨ c = '_' ∨ c = ' ' → broken = true) → Step c broken rising [] broken rising

/-! ## One step -/

theorem snakeFrom_separator {c : Char} (h : c = '-' ∨ c = '_' ∨ c = ' ') (broken rising : Bool)
    (cs : List Char) :
    snakeFrom broken rising (c :: cs) =
      if broken then snakeFrom true rising cs else '_' :: snakeFrom true false cs := by
  rcases h with rfl | rfl | rfl <;> cases broken <;> rfl

theorem snakeFrom_step {c : Char} (h : isAscii c = true) (broken rising : Bool) :
    ∃ written broken' rising', Step c broken rising written broken' rising' ∧
      ∀ cs, snakeFrom broken rising (c :: cs) = written ++ snakeFrom broken' rising' cs := by
  have hupper : isUpper c = c.isUpper := if_pos h
  have halnum : isAlphanumeric c = c.isAlphanum := if_pos h
  have hlower : isLower c = c.isLower := if_pos h
  have hsmall : lowerChar c = [c.toLower] := if_pos h
  by_cases hcapital : c.isUpper
  · refine ⟨_, _, _, .capital hcapital, fun cs => ?_⟩
    rw [snakeFrom, hupper, if_pos hcapital, hsmall]
  rw [Bool.not_eq_true] at hcapital
  by_cases hletter : c.isAlphanum
  · have hrising : (c.isLower || c.isDigit) = true := by
      rwa [Char.isAlphanum, Char.isAlpha, hcapital, Bool.false_or] at hletter
    refine ⟨_, _, _, .small hcapital hletter, fun cs => ?_⟩
    rw [snakeFrom, hupper, hcapital, halnum, if_pos hletter, hlower, hrising]
    rfl
  rw [Bool.not_eq_true] at hletter
  by_cases hseparator : (c = '-' ∨ c = '_' ∨ c = ' ') ∧ broken = false
  · obtain ⟨hseparator, rfl⟩ := hseparator
    exact ⟨_, _, _, .separator hseparator, fun cs => snakeFrom_separator hseparator false rising cs⟩
  · refine ⟨_, _, _, .dropped hletter fun hc => ?_, fun cs => ?_⟩
    · exact Bool.eq_true_of_not_eq_false fun hbroken => hseparator ⟨hc, hbroken⟩
    · rw [snakeFrom, hupper, hcapital, halnum, hletter, if_neg hseparator]
      rfl

/-- Lower case keeps a letter a letter and a digit a digit. -/
theorem toLower_alphanum {c : Char} (h : c.isAlphanum = true) :
    c.toLower.isAlphanum = true ∧ IsSnakeChar c.toLower ∧ c.toLower.isAlpha = c.isAlpha ∧
      (c.isUpper = false → c.toLower = c) :=
  forall_ascii (P := fun c => c.isAlphanum = true → c.toLower.isAlphanum = true ∧
      (c.toLower.isLower ∨ c.toLower.isDigit ∨ c.toLower = '_') ∧
      c.toLower.isAlpha = c.isAlpha ∧ (c.isUpper = false → c.toLower = c))
    (by decide +kernel) (toNat_lt_of_isAlphanum h) h

theorem isAlphanum_of_isUpper {c : Char} (h : c.isUpper = true) : c.isAlphanum = true := by
  rw [Char.isAlphanum, Char.isAlpha, h, Bool.true_or, Bool.true_or]

theorem ne_underscore_of_isAlphanum {c : Char} (h : c.isAlphanum = true) : c ≠ '_' := by
  rintro rfl
  exact absurd h (by decide)

/-! ## The whole pass -/

theorem snakeFrom_consists {cs : List Char} (h : ∀ c ∈ cs, isAscii c = true)
    (broken rising : Bool) : ∀ d ∈ snakeFrom broken rising cs, IsSnakeChar d := by
  induction cs generalizing broken rising with
  | nil => exact fun d hd => nomatch hd
  | cons c cs ih =>
    obtain ⟨hc, hcs⟩ := List.forall_mem_cons.mp h
    obtain ⟨written, broken', rising', hstep, hpass⟩ := snakeFrom_step hc broken rising
    rw [hpass]
    refine List.forall_mem_append.mpr ⟨?_, ih hcs broken' rising'⟩
    cases hstep with
    | capital hupper =>
      have hsmall := (toLower_alphanum (isAlphanum_of_isUpper hupper)).2.1
      refine List.forall_mem_append.mpr ⟨fun d hd => ?_, List.forall_mem_singleton.mpr hsmall⟩
      split_ifs at hd
      · exact .inr (.inr (List.mem_singleton.mp hd))
      · cases hd
    | small hupper hletter =>
      obtain ⟨_, hsmall, _, hself⟩ := toLower_alphanum hletter
      rw [hself hupper] at hsmall
      exact List.forall_mem_singleton.mpr hsmall
    | separator _ => exact List.forall_mem_singleton.mpr (.inr (.inr rfl))
    | dropped _ _ => exact fun d hd => nomatch hd

/-- The letters and digits go through, in lower case and in their order. -/
theorem snakeFrom_letters {cs : List Char} (h : ∀ c ∈ cs, isAscii c = true) (broken rising : Bool) :
    (snakeFrom broken rising cs).filter Char.isAlphanum =
      (cs.filter Char.isAlphanum).map Char.toLower := by
  induction cs generalizing broken rising with
  | nil => rfl
  | cons c cs ih =>
    obtain ⟨hc, hcs⟩ := List.forall_mem_cons.mp h
    obtain ⟨written, broken', rising', hstep, hpass⟩ := snakeFrom_step hc broken rising
    rw [hpass, List.filter_append, ih hcs]
    cases hstep with
    | capital hupper =>
      have hletter := isAlphanum_of_isUpper hupper
      have hmark : (if rising then ['_'] else []).filter Char.isAlphanum = [] := by
        cases rising <;> rfl
      rw [List.filter_append, hmark, List.filter_cons_of_pos (toLower_alphanum hletter).1,
        List.filter_cons_of_pos hletter]
      rfl
    | small hupper hletter =>
      rw [List.filter_cons_of_pos hletter, List.filter_cons_of_pos hletter, List.map_cons,
        (toLower_alphanum hletter).2.2.2 hupper]
      rfl
    | separator hseparator =>
      have hother : ¬ c.isAlphanum = true := by
        rcases hseparator with rfl | rfl | rfl <;> decide
      rw [List.filter_cons_of_neg hother]
      rfl
    | dropped hother _ =>
      rw [List.filter_cons_of_neg (Bool.eq_false_iff.mp hother)]
      rfl

/-- What the text before the pass leaves of itself: an underscore if it ends in one. -/
def lastMark (broken : Bool) : List Char := if broken then ['_'] else []

theorem isSingle_cons {c : Char} (hc : c ≠ '_') {cs : List Char} (h : IsSingle cs) :
    IsSingle (c :: cs) := List.isChain_cons.mpr ⟨fun _ _ => .inl hc, h⟩

theorem isSingle_lastMark_cons {c : Char} (hc : c ≠ '_') {cs : List Char} (h : IsSingle cs)
    (broken : Bool) : IsSingle (lastMark broken ++ c :: cs) := by
  cases broken with
  | false => exact isSingle_cons hc h
  | true => exact List.isChain_cons_cons.mpr ⟨.inr hc, isSingle_cons hc h⟩

/-- No two underscores are adjacent, not even across the start of the pass. The flags are never set
both, so that a capital writes no underscore behind another one. -/
theorem snakeFrom_single {cs : List Char} (h : ∀ c ∈ cs, isAscii c = true) {broken rising : Bool}
    (hflags : broken = true → rising = false) :
    IsSingle (lastMark broken ++ snakeFrom broken rising cs) := by
  induction cs generalizing broken rising with
  | nil =>
    cases broken with
    | false => exact List.isChain_nil
    | true => exact List.isChain_singleton _
  | cons c cs ih =>
    obtain ⟨hc, hcs⟩ := List.forall_mem_cons.mp h
    obtain ⟨written, broken', rising', hstep, hpass⟩ := snakeFrom_step hc broken rising
    rw [hpass]
    cases hstep with
    | capital hupper =>
      have hrest : IsSingle (lastMark false ++ snakeFrom false false cs) := ih hcs fun _ => rfl
      have hne := ne_underscore_of_isAlphanum (toLower_alphanum (isAlphanum_of_isUpper hupper)).1
      cases rising with
      | false => exact isSingle_lastMark_cons hne hrest broken
      | true =>
        cases broken with
        | false => exact isSingle_lastMark_cons hne hrest true
        | true => exact absurd (hflags rfl) (by decide)
    | small hupper hletter =>
      have hrest : IsSingle (lastMark false ++ snakeFrom false true cs) := ih hcs fun h => nomatch h
      exact isSingle_lastMark_cons (ne_underscore_of_isAlphanum hletter) hrest broken
    | separator _ =>
      have hrest : IsSingle (lastMark true ++ snakeFrom true false cs) := ih hcs fun _ => rfl
      exact hrest
    | dropped _ _ => exact ih hcs hflags

/-- What is in snake case stays as it is. -/
theorem snakeFrom_self {cs : List Char} (h : ∀ c ∈ cs, IsSnakeChar c) {broken : Bool}
    (rising : Bool) (hsingle : IsSingle (lastMark broken ++ cs)) :
    snakeFrom broken rising cs = cs := by
  induction cs generalizing broken rising with
  | nil => rfl
  | cons c cs ih =>
    obtain ⟨hc, hcs⟩ := List.forall_mem_cons.mp h
    have hrest : IsSingle (c :: cs) := by
      cases broken with
      | false => exact hsingle
      | true => exact (List.isChain_cons.mp hsingle).2
    by_cases hmark : c = '_'
    · subst hmark
      cases broken with
      | false =>
        have hself : snakeFrom true false cs = cs := ih hcs false hrest
        rw [snakeFrom_separator (.inr (.inl rfl)), hself]
        rfl
      | true => exact absurd (List.isChain_cons_cons.mp hsingle).1 (by simp)
    · obtain ⟨written, broken', rising', hstep, hpass⟩ :=
        snakeFrom_step (decide_eq_true (hc.toNat_lt)) broken rising
      have hletter := hc.isAlphanum hmark
      rw [hpass]
      cases hstep with
      | capital hupper =>
        rw [hc.kept.1] at hupper
        cases hupper
      | small _ _ =>
        have hself : snakeFrom false true cs = cs := ih hcs true (List.isChain_cons.mp hrest).2
        rw [hself]
        rfl
      | separator hseparator =>
        rcases hseparator with rfl | rfl | rfl <;> exact absurd hletter (by decide)
      | dropped hother _ =>
        rw [hletter] at hother
        cases hother

/-- Hyphens, spaces and underscores are the same to the pass. -/
theorem snakeFrom_respelled {cs ds : List Char}
    (h : List.Forall₂ (fun c d => d = c ∨ (c = '-' ∨ c = ' ') ∧ d = '_') cs ds)
    (broken rising : Bool) : snakeFrom broken rising ds = snakeFrom broken rising cs := by
  induction h generalizing broken rising with
  | nil => rfl
  | @cons c d cs ds hcd _ ih =>
    rcases hcd with rfl | ⟨hc, rfl⟩
    · simp only [snakeFrom, ih]
    · have hseparator : c = '-' ∨ c = '_' ∨ c = ' ' := hc.imp_right .inr
      rw [snakeFrom_separator (.inr (.inl rfl)), snakeFrom_separator hseparator, ih, ih]

/-! ## Names of methods -/

section

variable {s : String} (hascii : ∀ c ∈ s.toList, isAscii c = true)

include hascii

theorem snakeCase_consists : ∀ c ∈ (snakeCase s).toList, IsSnakeChar c := by
  rw [snakeCase, String.toList_ofList]
  exact fun c hc => snakeFrom_consists hascii false false c (mem_of_mem_strip hc)

theorem snakeCase_single : IsSingle (snakeCase s).toList := by
  rw [snakeCase, String.toList_ofList]
  have hsingle : IsSingle (lastMark false ++ snakeFrom false false s.toList) :=
    snakeFrom_single hascii fun _ => rfl
  exact List.IsChain.infix hsingle (strip_isInfix _ _)

theorem snakeCase_letters : (snakeCase s).toList.filter Char.isAlphanum =
    (s.toList.filter Char.isAlphanum).map Char.toLower := by
  rw [snakeCase, String.toList_ofList, filter_strip, snakeFrom_letters hascii]
  intro c hc
  rw [beq_iff_eq.mp hc]
  rfl

end

theorem snakeCase_stripped (s : String) : IsStripped (· == '_') (snakeCase s).toList := by
  rw [snakeCase, String.toList_ofList]
  exact strip_isStripped _ _

/-- The mark of a reserved word is stripped again. -/
theorem snakeCase_escapeReserved {name : String} (hconsists : ∀ c ∈ name.toList, IsSnakeChar c)
    (hsingle : IsSingle (escapeReserved name).toList)
    (hstripped : IsStripped (· == '_') name.toList) : snakeCase (escapeReserved name) = name := by
  have hchars : ∀ c ∈ (escapeReserved name).toList, IsSnakeChar c := fun c hc =>
    (mem_of_mem_escapeReserved hc).elim (hconsists c) fun hmark => .inr (.inr hmark)
  have hself : snakeFrom false false (escapeReserved name).toList = (escapeReserved name).toList :=
    snakeFrom_self hchars false hsingle
  have hstrip : strip (· == '_') (escapeReserved name).toList = name.toList := by
    unfold escapeReserved
    split_ifs
    · have hmark : ∀ c ∈ "_".toList, (c == '_') = true := by simp
      rw [String.toList_append, strip_append_of_forall hmark, strip_eq_self hstripped]
    · exact strip_eq_self hstripped
  rw [snakeCase, hself, hstrip, String.ofList_toList]

theorem isSingle_escapeReserved {name : String} (hsingle : IsSingle name.toList)
    (hends : ∀ c ∈ name.toList.getLast?, c ≠ '_') : IsSingle (escapeReserved name).toList := by
  unfold escapeReserved
  split_ifs
  · rw [String.toList_append]
    exact List.isChain_append.mpr
      ⟨hsingle, List.isChain_singleton _, fun c hc _ _ => .inl (hends c hc)⟩
  · exact hsingle

theorem filter_escapeReserved (name : String) :
    (escapeReserved name).toList.filter Char.isAlphanum = name.toList.filter Char.isAlphanum := by
  unfold escapeReserved
  split_ifs
  · rw [String.toList_append, List.filter_append]
    exact List.append_nil _
  · rfl

/-- A name that starts with no underscore starts with its first letter or digit. -/
theorem head?_filter_of_stripped {cs : List Char} (hconsists : ∀ c ∈ cs, IsSnakeChar c)
    (hstripped : IsStripped (· == '_') cs) : cs.head? = (cs.filter Char.isAlphanum).head? := by
  cases cs with
  | nil => rfl
  | cons c cs =>
    have hne : c ≠ '_' := beq_eq_false_iff_ne.mp (hstripped.1 c rfl)
    rw [List.filter_cons_of_pos ((hconsists c (.head _)).isAlphanum hne)]
    rfl

/-- The name of a method starts as the first letter or digit does. -/
theorem head?_functionName {s : String} (hascii : ∀ c ∈ s.toList, isAscii c = true) :
    (functionName s).toList.head? = (s.toList.find? Char.isAlphanum).map Char.toLower := by
  rw [functionName, head?_escapeReserved,
    head?_filter_of_stripped (snakeCase_consists hascii) (snakeCase_stripped s),
    snakeCase_letters hascii, List.head?_map, List.head?_filter]

theorem functionName_isMethodName {s : String} (hascii : ∀ c ∈ s.toList, isAscii c = true) :
    IsMethodName (functionName s) := by
  have hends : ∀ c ∈ (snakeCase s).toList.getLast?, c ≠ '_' := fun c hc =>
    beq_eq_false_iff_ne.mp ((snakeCase_stripped s).2 c hc)
  refine ⟨fun c hc => ?_, fun c hc => ?_,
    isSingle_escapeReserved (snakeCase_single hascii) hends, escapeReserved_avoids hends⟩
  · exact (mem_of_mem_escapeReserved hc).elim (snakeCase_consists hascii c) fun hmark =>
      .inr (.inr hmark)
  · rw [functionName, head?_escapeReserved] at hc
    exact beq_eq_false_iff_ne.mp ((snakeCase_stripped s).1 c hc)

/-- What the name of a method is, made of the text `s`: nothing exactly if there is no letter or
digit in it, and in any case well formed. It is its own name, and the same with underscores for
hyphens and spaces. -/
structure NamesMethod (s name : String) : Prop where
  empty_iff : name = "" ↔ ∀ c ∈ s.toList, c.isAlphanum = false
  formed : IsMethodName name
  letter_iff : (∃ c ∈ name.toList.head?, c.isAlpha = true) ↔
    ∃ c ∈ s.toList.find? Char.isAlphanum, c.isAlpha = true
  letters : name.toList.filter Char.isAlphanum =
    (s.toList.filter Char.isAlphanum).map Char.toLower
  stable : functionName name = name
  respelled : ∀ t, Respells s t → functionName t = name

/-- What the name of a method is. -/
theorem functionName_forms {s : String} (hascii : ∀ c ∈ s.toList, isAscii c = true) :
    NamesMethod s (functionName s) := by
  have hhead := head?_functionName hascii
  refine ⟨?_, functionName_isMethodName hascii, ?_, ?_, ?_, fun t ht => ?_⟩
  · rw [← String.toList_eq_nil_iff, ← List.head?_eq_none_iff, hhead, Option.map_eq_none_iff,
      List.find?_eq_none]
    simp only [Bool.not_eq_true]
  · rw [hhead]
    cases hfirst : s.toList.find? Char.isAlphanum with
    | none => simp
    | some c => simp [(toLower_alphanum (List.find?_some hfirst)).2.2.1]
  · rw [functionName, filter_escapeReserved, snakeCase_letters hascii]
  · have hsingle := (functionName_isMethodName hascii).single
    rw [functionName] at hsingle
    rw [functionName, functionName, snakeCase_escapeReserved (snakeCase_consists hascii) hsingle
      (snakeCase_stripped s)]
  · rw [functionName, functionName, snakeCase, snakeCase, snakeFrom_respelled ht]

theorem functionName_forms_match :
    NamesMethod " Ma.tch-" "match_" ∧ Respells " Ma.tch-" "_Ma.tch-" ∧
      functionName "_Ma.tch-" = "match_" := by
  have hname : functionName " Ma.tch-" = "match_" := by decide +kernel
  have hascii : ∀ c ∈ " Ma.tch-".toList, isAscii c = true := List.all_eq_true.mp (by decide +kernel)
  have hforms := functionName_forms hascii
  rw [hname] at hforms
  have hrespells : Respells " Ma.tch-" "_Ma.tch-" := by simp [Respells]
  exact ⟨hforms, hrespells, hforms.respelled _ hrespells⟩

end ClientForge.Naming
