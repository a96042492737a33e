import ClientForge.Proofs.Characters
import ClientForge.Proofs.LowerStable

/-!
Identifiers of arguments. The words of a name are cut before they are put in lower case, and only then
are foreign characters replaced; so what a character leaves does not hang on its neighbours, and
characters that leave nothing but underscores can be dropped from both ends of a name. A reserved
word is told from an identifier by the underscore that marks it.

Results:
1. `escapeReserved_avoids`: a name without underscore at the end avoids the reserved words.
2. `parameterWord_eq`: the characters of a word, one by one.
3. `parameterStem_strip`, `stem_snakeCase`: blanks around a name do not matter, and a name with a
   letter becomes one in snake case.
4. `parameterName_snakeCase`: a name in snake case is kept, up to the mark of reserved words.
5. `parameterName_identifies`: what the identifier of any name is.
-/

namespace ClientForge.Text

/-! ## Ends and separators -/

theorem strip_append_of_forall {p : Char → Bool} {cs bs : List Char} (h : ∀ b ∈ bs, p b = true) :
    strip p (cs ++ bs) = strip p cs := by
  have hend (xs : List Char) : dropEndWhile p (xs ++ bs) = dropEndWhile p xs := by
    rw [dropEndWhile, dropEndWhile, List.reverse_append,
      List.dropWhile_append_of_pos fun b hb => h b (List.mem_reverse.mp hb)]
  rw [strip, strip, List.dropWhile_append]
  split_ifs with hnone
  · have hdropped : bs.dropWhile p = [] := List.dropWhile_eq_nil_iff.mpr h
    rw [hdropped, List.isEmpty_iff.mp hnone]
  · exact hend _

/-- A text that starts with a character that stays still does so. -/
theorem strip_cons_of_stays {p : Char → Bool} {c : Char} (h : p c = false) (cs : List Char) :
    ∃ rest, strip p (c :: cs) = c :: rest := by
  have hstays : ¬ p c = true := Bool.eq_false_iff.mp h
  rw [strip, List.dropWhile_cons_of_neg hstays, dropEndWhile, List.reverse_cons,
    List.dropWhile_append, List.dropWhile_cons_of_neg hstays]
  split_ifs
  · exact ⟨[], rfl⟩
  · exact ⟨_, List.reverse_append⟩

theorem joinWith_cons (separator w : List Char) (ws : List (List Char)) :
    ∃ rest, joinWith separator (w :: ws) = w ++ rest := by
  cases ws with
  | nil => exact ⟨[], (List.append_nil w).symm⟩
  | cons v vs => exact ⟨_, List.append_assoc ..⟩

/-- Joined words end as one of them does. -/
theorem getLast?_joinWith {separator : List Char} {ws : List (List Char)} (hne : ∀ w ∈ ws, w ≠ [])
    {c : Char} (hc : c ∈ (joinWith separator ws).getLast?) : ∃ w ∈ ws, c ∈ w.getLast? := by
  induction ws with
  | nil => cases hc
  | cons w ws ih =>
    cases ws with
    | nil => exact ⟨w, .head _, hc⟩
    | cons v vs =>
      obtain ⟨rest, hrest⟩ := joinWith_cons separator v vs
      have hnonempty : joinWith separator (v :: vs) ≠ [] := by
        rw [hrest]
        exact List.append_ne_nil_of_left_ne_nil (hne v (.tail _ (.head _))) _
      change c ∈ (w ++ separator ++ joinWith separator (v :: vs)).getLast? at hc
      rw [List.getLast?_append_of_ne_nil _ hnonempty] at hc
      obtain ⟨u, hu, hlast⟩ := ih (fun u hu => hne u (.tail _ hu)) hc
      exact ⟨u, .tail _ hu, hlast⟩

end ClientForge.Text

namespace ClientForge.Naming

open Text

/-! ## Reserved words -/

/-- The name is no reserved word, and an underscore at its end is the mark of one. -/
structure AvoidsReserved (name : String) : Prop where
  unreserved : isReserved name = false
  marked_iff : (∃ word, name = word ++ "_") ↔
    ∃ word, isReserved word = true ∧ name = word ++ "_"

theorem ne_append_mark {name word : String} (h : ∀ c ∈ name.toList.getLast?, c ≠ '_') :
    name ≠ word ++ "_" := by
  intro heq
  have hlast : name.toList.getLast? = some '_' := by
    rw [heq, String.toList_append]
    exact List.getLast?_concat ..
  exact h '_' hlast rfl

theorem reservedWords_ends :
    (reservedWords.all fun word => word.toList.getLast? != some '_') = true := by
  decide +kernel

theorem isReserved_append_mark (word : String) : isReserved (word ++ "_") = false := by
  rw [Bool.eq_false_iff, isReserved]
  intro hreserved
  have hend := List.all_eq_true.mp reservedWords_ends _ (List.contains_iff_mem.mp hreserved)
  have hends : ∀ c ∈ (word ++ "_").toList.getLast?, c ≠ '_' := fun c hc hmark => by
    rw [hmark] at hc
    exact bne_iff_ne.mp hend hc
  exact ne_append_mark hends rfl

/-- A name without underscore at the end avoids the reserved words. -/
theorem escapeReserved_avoids {name : String} (h : ∀ c ∈ name.toList.getLast?, c ≠ '_') :
    AvoidsReserved (escapeReserved name) := by
  unfold escapeReserved
  split_ifs with hreserved
  · exact ⟨isReserved_append_mark name, fun _ => ⟨name, hreserved, rfl⟩,
      fun ⟨word, _, hword⟩ => ⟨word, hword⟩⟩
  · exact ⟨Bool.not_eq_true _ ▸ hreserved, fun ⟨_, hword⟩ => absurd hword (ne_append_mark h),
      fun ⟨word, _, hword⟩ => ⟨word, hword⟩⟩

/-- Names without underscore at the end are still told apart when reserved words are marked. -/
theorem eq_of_escapeReserved {a b : String} (ha : ∀ c ∈ a.toList.getLast?, c ≠ '_')
    (hb : ∀ c ∈ b.toList.getLast?, c ≠ '_') (h : escapeReserved a = escapeReserved b) : a = b := by
  unfold escapeReserved at h
  -- a mark on one side only would be the last character of the other name
  split_ifs at h
  · exact String.append_left_inj "_" |>.mp h
  · exact absurd h.symm (ne_append_mark hb)
  · exact absurd h (ne_append_mark ha)
  · exact h

theorem head?_escapeReserved (name : String) :
    (escapeReserved name).toList.head? = name.toList.head? := by
  unfold escapeReserved
  split_ifs with hreserved
  · have hne : name.toList ≠ [] := by
      intro hempty
      rw [String.toList_eq_nil_iff.mp hempty] at hreserved
      exact absurd hreserved (by decide)
    rw [String.toList_append, List.head?_append_of_ne_nil _ hne]
  · rfl

/-! ## One character -/

/-- What a character leaves in a word. -/
def wordChars (c : Char) : List Char := (lowerChar c).map fun d => if d.isAlphanum then d else '_'

/-- The characters of a word, one by one: a capital sigma leaves an underscore in either form. -/
theorem parameterWord_eq (word : List Char) :
    parameterWord word = strip (· == '_') (word.flatMap wordChars) := by
  have hmap (before cs : List Char) : (lowerFrom before cs).map
      (fun c => if c.isAlphanum then c else '_') = cs.flatMap wordChars := by
    induction cs generalizing before with
    | nil => rfl
    | cons c rest ih =>
      rw [lowerFrom, List.map_append, ih, List.flatMap_cons]
      by_cases hsigma : c = 'Σ'
      · have hsmall : wordChars 'Σ' = ['_'] := by decide +kernel
        rw [if_pos hsigma, hsigma, hsmall]
        split_ifs <;> rfl
      · rw [if_neg hsigma, wordChars]
  rw [parameterWord, lower, hmap]

/-- Small letters, digits and underscores. -/
def IsSnakeChar (c : Char) : Prop := c.isLower ∨ c.isDigit ∨ c = '_'

theorem toNat_lt_of_isAlphanum {c : Char} (h : c.isAlphanum = true) : c.toNat < 0x80 := by
  simp only [Char.isAlphanum, Char.isAlpha, Char.isUpper, Char.isLower, Char.isDigit,
    Bool.or_eq_true, Bool.and_eq_true, decide_eq_true_eq, UInt32.le_iff_toNat_le] at h
  rcases h with (h | h) | h <;> exact Nat.lt_of_le_of_lt h.2 (by decide)

theorem isAlphanum_of_isAlpha {c : Char} (h : c.isAlpha = true) : c.isAlphanum = true := by
  rw [Char.isAlphanum, h, Bool.true_or]

theorem IsSnakeChar.isAlphanum {c : Char} (h : IsSnakeChar c) (hne : c ≠ '_') :
    c.isAlphanum = true := by
  rcases h with hlower | hdigit | hmark
  · rw [Char.isAlphanum, Char.isAlpha, hlower, Bool.or_true, Bool.true_or]
  · rw [Char.isAlphanum, hdigit, Bool.or_true]
  · exact absurd hmark hne

theorem IsSnakeChar.toNat_lt {c : Char} (h : IsSnakeChar c) : c.toNat < 0x80 := by
  by_cases hmark : c = '_'
  · rw [hmark]
    decide
  · exact toNat_lt_of_isAlphanum (h.isAlphanum hmark)

theorem wordChars_letter {c : Char} (h : c.isAlpha) :
    wordChars c = [c.toLower] ∧ c.toLower.isLower :=
  forall_ascii (P := fun c => c.isAlpha → wordChars c = [c.toLower] ∧ c.toLower.isLower)
    (by decide +kernel) (toNat_lt_of_isAlphanum (isAlphanum_of_isAlpha h)) h

theorem not_isUpper_of_isSettled {c : Char} (h : IsSettled c) : c.isUpper = false := by
  by_contra hupper
  rw [Bool.not_eq_false] at hupper
  have hletter : c.isAlpha = true := by rw [Char.isAlpha, hupper, Bool.true_or]
  have hsmall := forall_ascii (P := fun c => IsSettled c → c.isUpper = false) (by decide +kernel)
    (toNat_lt_of_isAlphanum (isAlphanum_of_isAlpha hletter)) h
  rw [hupper] at hsmall
  cases hsmall

theorem lowerChar_not_isUpper {c d : Char} (hd : d ∈ lowerChar c) : d.isUpper = false := by
  by_cases hsigma : c = 'Σ'
  · have hsmall : lowerChar 'Σ' = ['σ'] := by decide +kernel
    rw [hsigma, hsmall, List.mem_singleton] at hd
    rw [hd]
    decide
  · exact not_isUpper_of_isSettled ((lowerChar_settled hsigma).2 d hd).1

/-- Lower case leaves no capitals, and what is neither letter nor digit is replaced. -/
theorem wordChars_snake {c d : Char} (hd : d ∈ wordChars c) : IsSnakeChar d := by
  obtain ⟨e, he, rfl⟩ := List.mem_map.mp hd
  split_ifs with halnum
  · rw [Char.isAlphanum, Char.isAlpha, lowerChar_not_isUpper he, Bool.false_or, Bool.or_eq_true]
      at halnum
    exact halnum.imp_right .inl
  · exact .inr (.inr rfl)

/-- A character that leaves nothing where a name ends. -/
def IsFiller (c : Char) : Prop := c.isAlpha = false ∧ wordChars c = ['_']

instance (c : Char) : Decidable (IsFiller c) := inferInstanceAs (Decidable (_ ∧ _))

theorem isFiller_of_isBlank {c : Char} (h : isBlank c) : IsFiller c := by
  have hblanks : (blanks.all fun c => decide (IsFiller c)) = true := by decide +kernel
  exact of_decide_eq_true (List.all_eq_true.mp hblanks c (List.contains_iff_mem.mp h))

theorem isFiller_underscore : IsFiller '_' := by decide +kernel

/-! ## Words -/

theorem splitAtCapitals_of_small {cs : List Char} (hne : cs ≠ [])
    (hsmall : ∀ c ∈ cs, c.isUpper = false) : splitAtCapitals cs = [cs] := by
  induction cs with
  | nil => exact absurd rfl hne
  | cons c cs ih =>
    cases cs with
    | nil => rfl
    | cons d cs =>
      rw [splitAtCapitals, ih (List.cons_ne_nil d cs) fun e he => hsmall e (.tail c he)]
      exact if_neg (Bool.eq_false_iff.mp (hsmall d (.tail c (.head cs))))

/-- The first word starts where the text does. -/
theorem splitAtCapitals_cons (c : Char) (cs : List Char) :
    ∃ w ws, splitAtCapitals (c :: cs) = (c :: w) :: ws := by
  rw [splitAtCapitals]
  split
  · split_ifs
    · exact ⟨_, _, rfl⟩
    · exact ⟨_, _, rfl⟩
  · exact ⟨_, _, rfl⟩

theorem splitAtCapitals_cons_cons (c d : Char) (cs : List Char) :
    splitAtCapitals (c :: d :: cs) =
      if d.isUpper then [c] :: splitAtCapitals (d :: cs)
      else (splitAtCapitals (d :: cs)).modifyHead (c :: ·) := by
  obtain ⟨w, ws, hcut⟩ := splitAtCapitals_cons d cs
  rw [splitAtCapitals, hcut]
  rfl

/-- What holds no capital goes to the last word. -/
theorem splitAtCapitals_append {cs bs : List Char} (hne : cs ≠ [])
    (hsmall : ∀ b ∈ bs, b.isUpper = false) :
    ∃ ws w, splitAtCapitals cs = ws ++ [w] ∧ splitAtCapitals (cs ++ bs) = ws ++ [w ++ bs] := by
  induction cs with
  | nil => exact absurd rfl hne
  | cons c cs ih =>
    cases cs with
    | nil =>
      refine ⟨[], [c], rfl, ?_⟩
      cases bs with
      | nil => rfl
      | cons b bs =>
        rw [List.singleton_append, splitAtCapitals_cons_cons,
          if_neg (Bool.eq_false_iff.mp (hsmall b (.head bs))),
          splitAtCapitals_of_small (List.cons_ne_nil b bs) hsmall]
        rfl
    | cons d cs =>
      obtain ⟨ws, w, hcut, hcut'⟩ := ih (List.cons_ne_nil d cs)
      rw [List.cons_append] at hcut'
      rw [List.cons_append, List.cons_append, splitAtCapitals_cons_cons, splitAtCapitals_cons_cons,
        hcut, hcut']
      by_cases hupper : d.isUpper
      · rw [if_pos hupper, if_pos hupper]
        exact ⟨[c] :: ws, w, rfl, rfl⟩
      · rw [if_neg hupper, if_neg hupper]
        cases ws with
        | nil => exact ⟨[], c :: w, rfl, rfl⟩
        | cons u us => exact ⟨(c :: u) :: us, w, rfl, rfl⟩

/-- Without an ASCII letter there are no words. -/
theorem words_of_no_letter {cs : List Char} (h : ∀ c ∈ cs, c.isAlpha = false) : words cs = [] := by
  have hdropped : cs.dropWhile (!·.isAlpha) = [] :=
    List.dropWhile_eq_nil_iff.mpr fun c hc => by rw [h c hc]; rfl
  rw [words, hdropped, splitAtCapitals]

/-- With one, the first word starts with a letter. -/
theorem words_of_letter {cs : List Char} (h : ∃ c ∈ cs, c.isAlpha = true) :
    ∃ c w ws, words cs = (c :: w) :: ws ∧ c.isAlpha = true := by
  obtain ⟨d, hd, hletter⟩ := h
  cases hdropped : cs.dropWhile (!·.isAlpha) with
  | nil =>
    have hnone := List.dropWhile_eq_nil_iff.mp hdropped d hd
    rw [hletter] at hnone
    cases hnone
  | cons c rest =>
    have hstart := List.head?_dropWhile_not (!·.isAlpha) cs
    rw [hdropped] at hstart
    obtain ⟨w, ws, hcut⟩ := splitAtCapitals_cons c rest
    refine ⟨c, w, ws, by rw [words, hdropped, hcut], by simpa using hstart⟩

/-! ## The identifier before it is marked -/

/-- The words in lower case, joined. -/
def parameterStem (cs : List Char) : List Char :=
  joinWith ['_'] (((words cs).map parameterWord).filter (!·.isEmpty))

theorem parameterName_eq (name : String) :
    parameterName name = escapeReserved (String.ofList (parameterStem name.toList)) := rfl

theorem parameterWord_append {word bs : List Char} (h : ∀ b ∈ bs, IsFiller b) :
    parameterWord (word ++ bs) = parameterWord word := by
  rw [parameterWord_eq, parameterWord_eq, List.flatMap_append]
  refine strip_append_of_forall fun d hd => ?_
  obtain ⟨b, hb, hd⟩ := List.mem_flatMap.mp hd
  rw [(h b hb).2, List.mem_singleton] at hd
  rw [hd]
  rfl

/-- Fillers at the end of a name leave nothing. -/
theorem parameterStem_append {cs bs : List Char} (h : ∀ b ∈ bs, IsFiller b) :
    parameterStem (cs ++ bs) = parameterStem cs := by
  have hnone (b : Char) (hb : b ∈ bs) : (!b.isAlpha) = true := by rw [(h b hb).1]; rfl
  have hsmall (b : Char) (hb : b ∈ bs) : b.isUpper = false :=
    (Bool.or_eq_false_iff.mp (h b hb).1).1
  rw [parameterStem, parameterStem, words, words, List.dropWhile_append]
  cases hdropped : cs.dropWhile (!·.isAlpha) with
  | nil => rw [List.isEmpty_nil, if_pos rfl, List.dropWhile_eq_nil_iff.mpr hnone]
  | cons c rest =>
    obtain ⟨ws, w, hcut, hcut'⟩ := splitAtCapitals_append (List.cons_ne_nil c rest) hsmall
    rw [List.isEmpty_cons, if_neg Bool.false_ne_true, hcut, hcut', List.map_append, List.map_append,
      List.map_singleton, List.map_singleton, parameterWord_append h]

/-- Blanks around a name do not matter. -/
theorem parameterStem_strip (cs : List Char) :
    parameterStem (strip isBlank cs) = parameterStem cs := by
  have hstart : words (cs.dropWhile isBlank) = words cs := by
    have hnone : ∀ c ∈ cs.takeWhile isBlank, (!c.isAlpha) = true := fun c hc => by
      rw [(isFiller_of_isBlank (List.mem_takeWhile_imp hc)).1]
      rfl
    rw [words, words, ← List.dropWhile_append_of_pos hnone, List.takeWhile_append_dropWhile]
  have hend : strip isBlank cs ++ (cs.dropWhile isBlank).rtakeWhile isBlank =
      cs.dropWhile isBlank := List.rdropWhile_append_rtakeWhile
  calc parameterStem (strip isBlank cs)
      = parameterStem (strip isBlank cs ++ (cs.dropWhile isBlank).rtakeWhile isBlank) :=
        (parameterStem_append fun b hb => isFiller_of_isBlank (List.mem_rtakeWhile_imp hb)).symm
    _ = parameterStem (cs.dropWhile isBlank) := by rw [hend]
    _ = parameterStem cs := by rw [parameterStem, hstart, ← parameterStem]

/-! ## Names in snake case -/

/-- A small letter, then small letters, digits and underscores; the last is no underscore. -/
structure IsSnakeCase (name : String) : Prop where
  starts : ∃ c ∈ name.toList.head?, c.isLower
  consists : ∀ c ∈ name.toList, c.isLower ∨ c.isDigit ∨ c = '_'
  ends : ∀ c ∈ name.toList.getLast?, c ≠ '_'

/-- A word that starts with a letter keeps it, in lower case. -/
theorem parameterWord_letter {c : Char} (h : c.isAlpha = true) (w : List Char) :
    ∃ rest, parameterWord (c :: w) = c.toLower :: rest := by
  obtain ⟨hchars, hlower⟩ := wordChars_letter h
  rw [parameterWord_eq, List.flatMap_cons, hchars, List.singleton_append]
  have hstays : (c.toLower == '_') = false := beq_eq_false_iff_ne.mpr fun hmark => by
    rw [hmark] at hlower
    exact absurd hlower (by decide)
  exact strip_cons_of_stays (p := (· == '_')) hstays _

theorem parameterWord_snake {word : List Char} {c : Char} (hc : c ∈ parameterWord word) :
    IsSnakeChar c := by
  rw [parameterWord_eq] at hc
  obtain ⟨d, _, hd⟩ := List.mem_flatMap.mp (mem_of_mem_strip hc)
  exact wordChars_snake hd

theorem getLast?_parameterWord {word : List Char} {c : Char}
    (hc : c ∈ (parameterWord word).getLast?) : c ≠ '_' := by
  have hend := (strip_isStripped (· == '_') (word.flatMap wordChars)).2 c
  rw [← parameterWord_eq] at hend
  exact beq_eq_false_iff_ne.mp (hend hc)

/-- A name with an ASCII letter becomes one in snake case. -/
theorem stem_snakeCase {name : String} (h : ∃ c ∈ name.toList, c.isAlpha = true) :
    IsSnakeCase (String.ofList (parameterStem name.toList)) := by
  obtain ⟨c, w, ws, hwords, hletter⟩ := words_of_letter h
  obtain ⟨rest, hfirst⟩ := parameterWord_letter hletter w
  -- the first word is not empty, so that it is joined as the first
  obtain ⟨others, hparts⟩ : ∃ others, ((words name.toList).map parameterWord).filter (!·.isEmpty) =
      (c.toLower :: rest) :: others := by
    rw [hwords, List.map_cons, hfirst]
    exact ⟨_, rfl⟩
  have hword : ∀ u ∈ ((words name.toList).map parameterWord).filter (!·.isEmpty),
      u ≠ [] ∧ ∃ v, parameterWord v = u := by
    intro u hu
    obtain ⟨hmem, hne⟩ := List.mem_filter.mp hu
    obtain ⟨v, _, hv⟩ := List.mem_map.mp hmem
    exact ⟨by simpa using hne, v, hv⟩
  constructor
  · obtain ⟨after, hjoined⟩ := joinWith_cons ['_'] (c.toLower :: rest) others
    rw [String.toList_ofList, parameterStem, hparts, hjoined]
    exact ⟨c.toLower, rfl, (wordChars_letter hletter).2⟩
  · intro d hd
    rw [String.toList_ofList] at hd
    rcases mem_of_mem_joinWith hd with hseparator | ⟨u, hu, hmem⟩
    · exact .inr (.inr (List.mem_singleton.mp hseparator))
    · obtain ⟨_, v, rfl⟩ := hword u hu
      exact parameterWord_snake hmem
  · intro d hd
    rw [String.toList_ofList] at hd
    obtain ⟨u, hu, hlast⟩ := getLast?_joinWith (fun u hu => (hword u hu).1) hd
    obtain ⟨_, v, rfl⟩ := hword u hu
    exact getLast?_parameterWord hlast

theorem stem_of_no_letter {cs : List Char} (h : ∀ c ∈ cs, c.isAlpha = false) :
    parameterStem cs = [] := by
  rw [parameterStem, words_of_no_letter h]
  rfl

/-- What the passes do to one character of a name in snake case: nothing. -/
theorem IsSnakeChar.kept {c : Char} (h : IsSnakeChar c) :
    c.isUpper = false ∧ IsSettled c ∧ (if c.isAlphanum then c else '_') = c :=
  forall_ascii (P := fun c => c.isLower ∨ c.isDigit ∨ c = '_' →
      c.isUpper = false ∧ IsSettled c ∧ (if c.isAlphanum then c else '_') = c)
    (by decide +kernel) h.toNat_lt h

theorem IsSnakeCase.parameterWord_eq {name : String} (h : IsSnakeCase name) :
    parameterWord name.toList = name.toList := by
  have hlower : lower name.toList = name.toList :=
    lowerFrom_of_settled [] fun c hc => (IsSnakeChar.kept (h.consists c hc)).2.1
  have hmap : (name.toList.map fun c => if c.isAlphanum then c else '_') = name.toList :=
    (List.map_congr_left fun c hc => (IsSnakeChar.kept (h.consists c hc)).2.2).trans (List.map_id _)
  rw [parameterWord, hlower, hmap]
  refine strip_eq_self ⟨fun c hc => ?_, fun c hc => ?_⟩
  · obtain ⟨d, hd, hsmall⟩ := h.starts
    obtain rfl : d = c := Option.some.inj (hd.symm.trans hc)
    exact Bool.eq_false_iff.mpr fun hunderscore => by
      rw [beq_iff_eq.mp hunderscore] at hsmall
      exact absurd hsmall (by decide)
  · simpa using h.ends c hc

/-- An identifier in snake case is kept, up to the mark of reserved words. -/
theorem parameterName_snakeCase {name : String} (h : IsSnakeCase name) :
    parameterName name = escapeReserved name := by
  obtain ⟨c, hc, hsmall⟩ := h.starts
  obtain ⟨cs, hcs⟩ := List.head?_eq_some_iff.mp hc
  have hletter : (!c.isAlpha) = false := by simp [Char.isAlpha, hsmall]
  -- the first letter is the first character, and no capital opens a second word
  have hwords : words name.toList = [name.toList] := by
    rw [words, hcs, List.dropWhile_cons_of_neg (by simp [hletter]), ← hcs]
    exact splitAtCapitals_of_small (by simp [hcs]) fun d hd =>
      (IsSnakeChar.kept (h.consists d hd)).1
  have hnonempty : [name.toList].filter (!·.isEmpty) = [name.toList] := by simp [hcs]
  rw [parameterName, hwords, List.map_singleton, h.parameterWord_eq, hnonempty, joinWith,
    String.ofList_toList]

/-- Names in snake case with one identifier are one name. -/
theorem IsSnakeCase.eq_of_parameterName {a b : String} (ha : IsSnakeCase a) (hb : IsSnakeCase b)
    (h : parameterName a = parameterName b) : a = b := by
  rw [parameterName_snakeCase ha, parameterName_snakeCase hb] at h
  exact eq_of_escapeReserved ha.ends hb.ends h

/-! ## Identifiers -/

/-- A small letter, then small letters, digits and underscores, and no reserved word: those are
marked by an underscore at the end, which nothing else has. -/
structure IsArgumentName (name : String) : Prop where
  starts : ∃ c ∈ name.toList.head?, c.isLower
  consists : ∀ c ∈ name.toList, c.isLower ∨ c.isDigit ∨ c = '_'
  avoids : AvoidsReserved name

theorem IsSnakeCase.isArgumentName {name : String} (h : IsSnakeCase name) :
    IsArgumentName (escapeReserved name) := by
  refine ⟨?_, fun c hc => ?_, escapeReserved_avoids h.ends⟩
  · rw [head?_escapeReserved]
    exact h.starts
  · rcases mem_of_mem_escapeReserved hc with hc | hmark
    · exact h.consists c hc
    · exact .inr (.inr hmark)

theorem parameterName_of_no_letter {name : String} (h : ∀ c ∈ name.toList, c.isAlpha = false) :
    parameterName name = "" := by
  rw [parameterName_eq, stem_of_no_letter h]
  decide

theorem parameterName_append_mark (name : String) :
    parameterName (name ++ "_") = parameterName name := by
  have hfiller : ∀ b ∈ "_".toList, IsFiller b := by simpa using isFiller_underscore
  rw [parameterName_eq, String.toList_append, parameterStem_append hfiller, parameterName_eq]

theorem parameterName_escapeReserved (name : String) :
    parameterName (escapeReserved name) = parameterName name := by
  unfold escapeReserved
  split_ifs
  · exact parameterName_append_mark name
  · rfl

theorem parameterName_of_letter {name : String} (h : ∃ c ∈ name.toList, c.isAlpha = true) :
    IsArgumentName (parameterName name) := (stem_snakeCase h).isArgumentName

/-- Only a name without ASCII letters has no identifier. -/
theorem parameterName_eq_empty_iff (name : String) :
    parameterName name = "" ↔ ∀ c ∈ name.toList, c.isAlpha = false := by
  refine ⟨fun hempty c hc => ?_, parameterName_of_no_letter⟩
  by_contra hletter
  obtain ⟨d, hd, _⟩ := (parameterName_of_letter ⟨c, hc, Bool.not_eq_false _ ▸ hletter⟩).starts
  rw [hempty] at hd
  cases hd

/-- An identifier is its own identifier. -/
theorem parameterName_parameterName (name : String) :
    parameterName (parameterName name) = parameterName name := by
  by_cases hletter : ∃ c ∈ name.toList, c.isAlpha = true
  · rw [parameterName_eq name, parameterName_escapeReserved,
      parameterName_snakeCase (stem_snakeCase hletter)]
  · push Not at hletter
    rw [parameterName_of_no_letter fun c hc => Bool.eq_false_iff.mpr (hletter c hc)]
    decide

/-- Blanks around a name do not matter. -/
theorem parameterName_trim (name : String) : parameterName (trim name) = parameterName name := by
  rw [parameterName_eq, trim, String.toList_ofList, parameterStem_strip, parameterName_eq]

/-- What the identifier of a name is: nothing, exactly if the name has no ASCII letter, or else the
name of an argument. It is its own identifier, and blanks around the name do not matter. -/
theorem parameterName_identifies (name : String) :
    (parameterName name = "" ↔ ∀ c ∈ name.toList, c.isAlpha = false) ∧
      (parameterName name = "" ∨ IsArgumentName (parameterName name)) ∧
      parameterName (parameterName name) = parameterName name ∧
      parameterName (trim name) = parameterName name := by
  refine ⟨parameterName_eq_empty_iff name, ?_, parameterName_parameterName name,
    parameterName_trim name⟩
  by_cases hletter : ∃ c ∈ name.toList, c.isAlpha = true
  · exact .inr (parameterName_of_letter hletter)
  · push Not at hletter
    exact .inl (parameterName_of_no_letter fun c hc => Bool.eq_false_iff.mpr (hletter c hc))

end ClientForge.Naming
