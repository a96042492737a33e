import ClientForge.Proofs.FunctionNames
import ClientForge.Proofs.VisibleText
import Mathlib.Data.List.SplitBy

/-!
The words of an operation id, and when two ids become the same name. Of an id only letters, digits
and separators count. The text between separators is cut before every capital that follows a small
letter or an ASCII digit, and the pieces are put in lower case. The name of a method says these words
and nothing else, so that it does not tell how they were set apart.

Results:
1. `cutWords_cons`: how one more letter in front changes the words.
2. `snakeFrom_words`: the pass of snake case writes the words, with an underscore between any two.
3. `functionName_eq_iff`: two ids have the same name exactly if they have the same words.
-/

namespace ClientForge.Naming

open Text

/-! ## Definitions -/

/-- Letters and numbers of any script. -/
def isLetter (c : Char) : Bool := isUpper c || isAlphanumeric c

def isSeparator (c : Char) : Bool := c == '-' || c == '_' || c == ' '

def isSpelled (c : Char) : Bool := isLetter c || isSeparator c

/-- A capital opens a new word behind it. -/
def isRising (c : Char) : Bool := !isUpper c && (isLower c || c.isDigit)

/-- Neighbours in one word. -/
def staysWith (a b : Char) : Bool := !(isRising a && isUpper b)

/-- The words of a text of letters and separators. -/
def cutWords (cs : List Char) : List (List Char) :=
  (cs.splitOnP isSeparator).flatMap (·.splitBy staysWith)

def smallLetter (c : Char) : List Char := if isUpper c then lowerChar c else [c]

/-- The words in lower case. -/
def smallWords (cs : List Char) : List (List Char) := (cutWords cs).map (·.flatMap smallLetter)

/-- The words of an operation id. -/
def methodWords (s : String) : List (List Char) := smallWords (s.toList.filter isSpelled)

/-! ## Cutting -/

/-- Elements that belong together stay together. -/
theorem splitBy_cons_of_true {r : Char → Char → Bool} {a b : Char} (h : r a b = true)
    (bs : List Char) :
    (a :: b :: bs).splitBy r = ((b :: bs).splitBy r).modifyHead (a :: ·) := by
  obtain ⟨g, gs, hgroups⟩ :=
    List.exists_cons_of_ne_nil (List.splitBy_ne_nil (r := r).mpr (List.cons_ne_nil b bs))
  obtain ⟨hflat, hnil, hchains, hbreaks⟩ := List.splitBy_eq_iff.mp hgroups
  have hg : g ≠ [] := fun heq => hnil (heq ▸ List.mem_cons_self)
  obtain ⟨c, g, rfl⟩ := List.exists_cons_of_ne_nil hg
  obtain ⟨rfl, hrest⟩ := List.cons_eq_cons.mp hflat
  rw [hgroups, List.modifyHead_cons, List.splitBy_eq_iff]
  refine ⟨congrArg (a :: ·) hflat, ?_, ?_, ?_⟩
  · simpa using hnil
  · intro w hw
    rcases List.mem_cons.mp hw with rfl | hw
    · exact List.isChain_cons_cons.mpr ⟨h, hchains _ List.mem_cons_self⟩
    · exact hchains w (List.mem_cons_of_mem _ hw)
  · rw [List.isChain_cons] at hbreaks ⊢
    refine ⟨fun w hw => ?_, hbreaks.2⟩
    obtain ⟨_, hne, hbreak⟩ := hbreaks.1 w hw
    exact ⟨List.cons_ne_nil _ _, hne, by rwa [List.getLast_cons hg]⟩

theorem cutWords_separator {s : Char} (h : isSeparator s = true) (cs : List Char) :
    cutWords (s :: cs) = cutWords cs := by
  rw [cutWords, List.splitOnP_cons_eq_if_modifyHead, if_pos h]
  rfl

/-- The letter goes on with the word that the text begins with, if it does. -/
def joins (a : Char) : List Char → Bool
  | [] => false
  | c :: _ => !isSeparator c && staysWith a c

theorem cutWords_cons {a : Char} (h : isSeparator a = false) (cs : List Char) :
    cutWords (a :: cs) =
      if joins a cs then (cutWords cs).modifyHead (a :: ·) else [a] :: cutWords cs := by
  have hsplit : (a :: cs).splitOnP isSeparator = (cs.splitOnP isSeparator).modifyHead (a :: ·) := by
    rw [List.splitOnP_cons_eq_if_modifyHead, if_neg (Bool.eq_false_iff.mp h)]
  rw [cutWords, hsplit]
  cases cs with
  | nil => rfl
  | cons c cs =>
    by_cases hc : isSeparator c = true
    · rw [cutWords_separator hc, List.splitOnP_cons_eq_if_modifyHead, if_pos hc, joins, hc]
      rfl
    · rw [Bool.not_eq_true] at hc
      obtain ⟨part, parts, hparts⟩ :=
        List.exists_cons_of_ne_nil (List.splitOnP_ne_nil isSeparator cs)
      rw [cutWords, List.splitOnP_cons_eq_if_modifyHead, if_neg (Bool.eq_false_iff.mp hc), hparts]
      simp only [List.modifyHead_cons, List.flatMap_cons, joins, hc, Bool.not_false, Bool.true_and]
      cases hstays : staysWith a c with
      | false =>
        have hbreak : (a :: c :: part).splitBy staysWith = [a] :: (c :: part).splitBy staysWith :=
          List.splitBy_append_cons (l := [a]) part (by simp [hstays])
        rw [hbreak]
        rfl
      | true =>
        rw [splitBy_cons_of_true hstays]
        obtain ⟨g, gs, hgroups⟩ := List.exists_cons_of_ne_nil
          (List.splitBy_ne_nil (r := staysWith).mpr (List.cons_ne_nil c part))
        rw [hgroups]
        rfl

theorem isSeparator_of_joins {a c : Char} {cs : List Char} (h : joins a (c :: cs) = true) :
    isSeparator c = false := by
  rw [joins, Bool.and_eq_true, Bool.not_eq_true'] at h
  exact h.1

theorem cutWords_cons_ne_nil {c : Char} (h : isSeparator c = false) (cs : List Char) :
    cutWords (c :: cs) ≠ [] := by
  induction cs generalizing c with
  | nil => rw [cutWords_cons h]; exact List.cons_ne_nil _ _
  | cons d cs ih =>
    rw [cutWords_cons h]
    split_ifs with hjoins
    · exact List.modifyHead_eq_nil_iff.not.mpr (ih (isSeparator_of_joins hjoins))
    · exact List.cons_ne_nil _ _

/-- A letter that goes on with a word has a word to go on with. -/
theorem exists_of_joins {a : Char} {cs : List Char} (h : joins a cs = true) :
    ∃ w ws, cutWords cs = w :: ws := by
  cases cs with
  | nil => cases h
  | cons c cs =>
    exact List.exists_cons_of_ne_nil (cutWords_cons_ne_nil (isSeparator_of_joins h) cs)

/-- The words hold something, and nothing but letters of the text. -/
theorem cutWords_formed {cs w : List Char} (h : w ∈ cutWords cs) :
    w ≠ [] ∧ ∀ c ∈ w, c ∈ cs ∧ isSeparator c = false := by
  induction cs generalizing w with
  | nil => cases h
  | cons a cs ih =>
    have hlater {w : List Char} (hw : w ∈ cutWords cs) :
        w ≠ [] ∧ ∀ c ∈ w, c ∈ a :: cs ∧ isSeparator c = false :=
      ⟨(ih hw).1, fun c hc => ((ih hw).2 c hc).imp_left (List.mem_cons_of_mem _)⟩
    cases ha : isSeparator a with
    | true => exact hlater (cutWords_separator ha cs ▸ h)
    | false =>
      rw [cutWords_cons ha] at h
      split_ifs at h with hjoins
      · obtain ⟨v, ws, hwords⟩ := exists_of_joins hjoins
        rw [hwords, List.modifyHead_cons, List.mem_cons] at h
        rcases h with rfl | hw
        · exact ⟨List.cons_ne_nil _ _, List.forall_mem_cons.mpr
            ⟨⟨List.mem_cons_self, ha⟩, (hlater (hwords ▸ List.mem_cons_self)).2⟩⟩
        · exact hlater (hwords ▸ List.mem_cons_of_mem _ hw)
      · rcases List.mem_cons.mp h with rfl | hw
        · exact ⟨List.cons_ne_nil _ _,
            List.forall_mem_singleton.mpr ⟨List.mem_cons_self, ha⟩⟩
        · exact hlater hw

/-! ## Small letters -/

theorem smallLetter_ne_nil (c : Char) : smallLetter c ≠ [] := by
  unfold smallLetter
  split
  · by_cases hsigma : c = 'Σ'
    · subst hsigma
      decide +kernel
    · exact (lowerChar_settled hsigma).1
  · exact List.cons_ne_nil _ _

/-- Lower case makes no underscore. -/
theorem underscore_not_mem_smallLetter {c : Char} (h : isSeparator c = false) :
    '_' ∉ smallLetter c := by
  have hne : c ≠ '_' := by
    rintro rfl
    cases h
  unfold smallLetter
  split
  · rw [mem_lowerChar_iff (by decide)]
    exact hne.symm
  · exact fun hmem => hne (List.mem_singleton.mp hmem).symm

/-- The words of a name hold something, and no underscore. -/
theorem smallWords_formed {cs w : List Char} (h : w ∈ smallWords cs) : w ≠ [] ∧ '_' ∉ w := by
  obtain ⟨v, hv, rfl⟩ := List.mem_map.mp h
  obtain ⟨hne, hletters⟩ := cutWords_formed hv
  constructor
  · obtain ⟨c, v, rfl⟩ := List.exists_cons_of_ne_nil hne
    rw [List.flatMap_cons]
    exact List.append_ne_nil_of_left_ne_nil (smallLetter_ne_nil c) _
  · intro hmem
    obtain ⟨c, hc, hmem⟩ := List.mem_flatMap.mp hmem
    exact underscore_not_mem_smallLetter (hletters c hc).2 hmem

theorem smallWords_cons {a : Char} (h : isSeparator a = false) (cs : List Char) :
    smallWords (a :: cs) =
      if joins a cs then (smallWords cs).modifyHead (smallLetter a ++ ·)
      else smallLetter a :: smallWords cs := by
  rw [smallWords, cutWords_cons h]
  split_ifs with hjoins
  · obtain ⟨w, ws, hwords⟩ := exists_of_joins hjoins
    rw [smallWords, hwords]
    rfl
  · rw [List.map_cons, List.flatMap_singleton]
    rfl

theorem smallWords_cons_ne_nil {c : Char} (h : isSeparator c = false) (cs : List Char) :
    smallWords (c :: cs) ≠ [] := by
  rw [smallWords, ne_eq, List.map_eq_nil_iff]
  exact cutWords_cons_ne_nil h cs

/-! ## The pass -/

theorem isSeparator_iff {c : Char} : isSeparator c = true ↔ c = '-' ∨ c = '_' ∨ c = ' ' := by
  simp [isSeparator, or_assoc]

/-- Letters and separators alone count. -/
theorem snakeFrom_filter (broken rising : Bool) (cs : List Char) :
    snakeFrom broken rising (cs.filter isSpelled) = snakeFrom broken rising cs := by
  induction cs generalizing broken rising with
  | nil => rfl
  | cons c cs ih =>
    by_cases hkept : isSpelled c = true
    · rw [List.filter_cons_of_pos hkept, snakeFrom, snakeFrom]
      simp only [ih]
    · have hdropped := hkept
      rw [Bool.not_eq_true, isSpelled, Bool.or_eq_false_iff, isLetter, Bool.or_eq_false_iff,
        ← Bool.not_eq_true (isSeparator c), isSeparator_iff] at hdropped
      obtain ⟨⟨hupper, hletter⟩, hseparator⟩ := hdropped
      rw [List.filter_cons_of_neg hkept, ih, snakeFrom, hupper, hletter,
        if_neg Bool.false_ne_true, if_neg Bool.false_ne_true, if_neg fun h => hseparator h.1]

theorem snakeFrom_letter {c : Char} (h : isLetter c = true) (broken rising : Bool)
    (cs : List Char) : snakeFrom broken rising (c :: cs) =
      lastMark (rising && isUpper c) ++ smallLetter c ++ snakeFrom false (isRising c) cs := by
  rw [snakeFrom, smallLetter, isRising]
  cases hupper : isUpper c with
  | true => cases rising <;> rfl
  | false =>
    have hletter : isAlphanumeric c = true := by
      rwa [isLetter, hupper, Bool.false_or] at h
    rw [hletter]
    cases rising <;> rfl

theorem isSeparator_of_isLetter {c : Char} (h : isLetter c = true) : isSeparator c = false := by
  rw [← Bool.not_eq_true, isSeparator_iff]
  rintro (rfl | rfl | rfl) <;> exact absurd h (by decide)

theorem joinWith_append_cons (separator u w : List Char) (ws : List (List Char)) :
    joinWith separator ((u ++ w) :: ws) = u ++ joinWith separator (w :: ws) := by
  cases ws with
  | nil => rfl
  | cons v vs => simp [joinWith_cons_cons]

/-- The pass writes the words, with an underscore between any two of them and perhaps one at the
end. Behind a letter it goes on with the word of this letter, and behind a separator with the next
word. -/
theorem snakeFrom_words {cs : List Char} (h : ∀ c ∈ cs, isSpelled c = true) :
    (∀ a, isLetter a = true → ∃ ended, smallLetter a ++ snakeFrom false (isRising a) cs =
      joinWith ['_'] (smallWords (a :: cs)) ++ lastMark ended) ∧
    ∃ ended, snakeFrom true false cs = joinWith ['_'] (smallWords cs) ++ lastMark ended ∧
      (smallWords cs = [] → ended = false) := by
  induction cs with
  | nil =>
    refine ⟨fun a ha => ⟨false, ?_⟩, false, rfl, fun _ => rfl⟩
    rw [smallWords_cons (isSeparator_of_isLetter ha)]
    exact (List.append_nil _).trans (List.append_nil _).symm
  | cons c cs ih =>
    obtain ⟨hc, hcs⟩ := List.forall_mem_cons.mp h
    obtain ⟨hletter, ended, hbroken, hends⟩ := ih hcs
    rcases Bool.eq_false_or_eq_true (isSeparator c) with hsep | hsep
    · have hwords : smallWords (c :: cs) = smallWords cs := by
        rw [smallWords, cutWords_separator hsep, smallWords]
      refine ⟨fun a ha => ?_, ended, ?_, fun hnone => hends (hwords ▸ hnone)⟩
      · have hjoins : ¬ joins a (c :: cs) = true := by simp [joins, hsep]
        rw [snakeFrom_separator (isSeparator_iff.mp hsep), if_neg Bool.false_ne_true, hbroken,
          smallWords_cons (isSeparator_of_isLetter ha), if_neg hjoins, hwords]
        cases hnone : smallWords cs with
        | nil => exact ⟨true, by rw [hends hnone]; rfl⟩
        | cons w ws => exact ⟨ended, by rw [joinWith_cons_cons]; simp⟩
      · rw [snakeFrom_separator (isSeparator_iff.mp hsep), if_pos rfl, hwords, hbroken]
    · have hc : isLetter c = true := by
        rwa [isSpelled, hsep, Bool.or_false] at hc
      obtain ⟨ended, hrest⟩ := hletter c hc
      obtain ⟨w, ws, hwords⟩ := List.exists_cons_of_ne_nil (smallWords_cons_ne_nil hsep cs)
      refine ⟨fun a ha => ⟨ended, ?_⟩, ended, ?_, fun hnone => ?_⟩
      · have hjoins : joins a (c :: cs) = staysWith a c := by rw [joins, hsep]; rfl
        rw [snakeFrom_letter hc, smallWords_cons (isSeparator_of_isLetter ha), hjoins, staysWith,
          List.append_assoc, hrest, hwords]
        cases isRising a && isUpper c with
        | true => rw [Bool.not_true, if_neg Bool.false_ne_true, joinWith_cons_cons]; simp [lastMark]
        | false =>
          rw [Bool.not_false, if_pos rfl, List.modifyHead_cons, joinWith_append_cons]
          simp [lastMark]
      · rw [snakeFrom_letter hc]
        exact hrest
      · rw [hwords] at hnone
        cases hnone

/-! ## Names -/

theorem strip_lastMark_append (marked : Bool) (cs : List Char) :
    strip (· == '_') (lastMark marked ++ cs) = strip (· == '_') cs := by
  cases marked <;> rfl

/-- Joined words begin and end as words do. -/
theorem joinWith_isStripped {ws : List (List Char)} (h : ∀ w ∈ ws, w ≠ [] ∧ '_' ∉ w) :
    IsStripped (· == '_') (joinWith ['_'] ws) := by
  have hword {w : List Char} (hw : w ∈ ws) {c : Char} (hc : c ∈ w) : (c == '_') = false :=
    beq_eq_false_iff_ne.mpr fun heq => (h w hw).2 (heq ▸ hc)
  cases ws with
  | nil => exact isStripped_nil
  | cons w ws =>
    constructor
    · intro c hc
      obtain ⟨d, w, rfl⟩ := List.exists_cons_of_ne_nil (h w List.mem_cons_self).1
      obtain ⟨rest, hrest⟩ := joinWith_cons ['_'] (d :: w) ws
      rw [hrest] at hc
      cases hc
      exact hword List.mem_cons_self List.mem_cons_self
    · intro c hc
      obtain ⟨v, hv, hlast⟩ := getLast?_joinWith (fun v hv => (h v hv).1) hc
      exact hword hv (List.mem_of_getLast? hlast)

/-- Joined words are told apart by the underscores. -/
theorem joinWith_injective {ws vs : List (List Char)} (hws : ∀ w ∈ ws, w ≠ [] ∧ '_' ∉ w)
    (hvs : ∀ v ∈ vs, v ≠ [] ∧ '_' ∉ v) (h : joinWith ['_'] ws = joinWith ['_'] vs) : ws = vs := by
  have hempty {ws : List (List Char)} (hws : ∀ w ∈ ws, w ≠ [] ∧ '_' ∉ w)
      (hnone : joinWith ['_'] ws = []) : ws = [] := by
    cases ws with
    | nil => rfl
    | cons w ws =>
      obtain ⟨rest, hrest⟩ := joinWith_cons ['_'] w ws
      rw [hrest, List.append_eq_nil_iff] at hnone
      exact absurd hnone.1 (hws w List.mem_cons_self).1
  by_cases hnone : ws = []
  · subst hnone
    exact (hempty hvs h.symm).symm
  · have hne : vs ≠ [] := by
      rintro rfl
      exact hnone (hempty hws h)
    rw [joinWith_eq_intercalate, joinWith_eq_intercalate] at h
    rw [← List.splitOn_intercalate '_' (fun w hw => (hws w hw).2) hnone, h,
      List.splitOn_intercalate '_' (fun v hv => (hvs v hv).2) hne]

theorem methodWords_formed {s : String} : ∀ w ∈ methodWords s, w ≠ [] ∧ '_' ∉ w :=
  fun _ hw => smallWords_formed hw

/-- The name is made of the words, with an underscore between any two of them. -/
theorem snakeCase_words (s : String) :
    (snakeCase s).toList = joinWith ['_'] (methodWords s) := by
  have hwritten : ∃ marked ended, snakeFrom false false s.toList =
      lastMark marked ++ (joinWith ['_'] (methodWords s) ++ lastMark ended) := by
    have hspelled : ∀ c ∈ s.toList.filter isSpelled, isSpelled c = true := fun c hc =>
      (List.mem_filter.mp hc).2
    rw [← snakeFrom_filter, methodWords]
    cases hcs : s.toList.filter isSpelled with
    | nil => exact ⟨false, false, rfl⟩
    | cons c cs =>
      rw [hcs] at hspelled
      obtain ⟨hc, hcs⟩ := List.forall_mem_cons.mp hspelled
      obtain ⟨hletter, ended, hbroken, _⟩ := snakeFrom_words hcs
      rcases Bool.eq_false_or_eq_true (isSeparator c) with hsep | hsep
      · refine ⟨true, ended, ?_⟩
        rw [snakeFrom_separator (isSeparator_iff.mp hsep), hbroken, smallWords, smallWords,
          cutWords_separator hsep]
        rfl
      · have hc : isLetter c = true := by
          rwa [isSpelled, hsep, Bool.or_false] at hc
        obtain ⟨ended, hrest⟩ := hletter c hc
        exact ⟨false, ended, (snakeFrom_letter hc false false cs).trans hrest⟩
  obtain ⟨marked, ended, hwritten⟩ := hwritten
  rw [snakeCase, String.toList_ofList, hwritten, strip_lastMark_append, strip_append_of_forall,
    strip_eq_self (joinWith_isStripped methodWords_formed)]
  cases ended <;> simp [lastMark]

theorem snakeCase_eq_iff {s t : String} :
    snakeCase s = snakeCase t ↔ methodWords s = methodWords t := by
  rw [← String.toList_inj, snakeCase_words, snakeCase_words]
  exact ⟨joinWith_injective methodWords_formed methodWords_formed, congrArg _⟩

/-- Two ids have the same name exactly if they have the same words. -/
theorem functionName_eq_iff {s t : String} :
    functionName s = functionName t ↔ methodWords s = methodWords t := by
  have hends (s : String) : ∀ c ∈ (snakeCase s).toList.getLast?, c ≠ '_' := fun c hc =>
    beq_eq_false_iff_ne.mp ((snakeCase_stripped s).2 c hc)
  rw [functionName, functionName, ← snakeCase_eq_iff]
  exact ⟨eq_of_escapeReserved (hends s) (hends t), congrArg _⟩

example : methodWords "getV2 HTTPServer-of_ÄrzteListe" =
    ["get", "v2", "httpserver", "of", "ärzte", "liste"].map String.toList := by decide +kernel

end ClientForge.Naming
