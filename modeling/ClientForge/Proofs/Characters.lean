import ClientForge.Naming.Identifier
import ClientForge.Naming.Title
import ClientForge.Proofs.LowerCase
import ClientForge.Text.Comment

/-!
Which characters the text functions let through. Case mappings neither make nor lose a mark, an
ASCII character that is no letter; the lines of a text hold no line feed, and neither does anything
that is made of one line; identifiers and type names hold letters, digits and underscores.

Results:
1. `mem_lower_iff`: a mark is in a text in lower case if and only if it is in the text.
2. `docLine_single`, `docLines_single`: what is written into comments is made of single lines.
3. `parameterName_word`, `typeName_single`: names that stand in the code.
-/

namespace ClientForge.Text

/-! ## Marks and case -/

/-- An ASCII character that is no letter, and not the one that stands in for invalid ones. -/
def IsMark (c : Char) : Prop := c.toNat < 0x80 ∧ c.isAlpha = false ∧ c ≠ '\x00'

instance (c : Char) : Decidable (IsMark c) := inferInstanceAs (Decidable (_ ∧ _ ∧ _))

theorem IsMark.native {c : Char} (h : IsMark c) : IsNative c := by
  refine ⟨h.1, ?_, h.2.2⟩
  rintro rfl
  exact absurd h.2.1 (by decide)

theorem ascii_lower_mark {c : Char} (h : c.toNat < 0x80) :
    IsMark c.toLower ∨ IsMark c → c.toLower = c :=
  forall_ascii (P := fun c => IsMark c.toLower ∨ IsMark c → c.toLower = c) (by decide +kernel) h

theorem ascii_upper_mark {c : Char} (h : c.toNat < 0x80) :
    IsMark c.toUpper ∨ IsMark c → c.toUpper = c :=
  forall_ascii (P := fun c => IsMark c.toUpper ∨ IsMark c → c.toUpper = c) (by decide +kernel) h

theorem long_rows_mark : ∀ row ∈ CaseTable.lowerLong ++ CaseTable.upperLong,
    ∀ n ∈ row.2, ¬ IsMark (Char.ofNat n) := by
  decide +kernel

/-- A row stays above ASCII, or it maps one character to a letter. -/
theorem rows_mark : ∀ row ∈ CaseTable.lower ++ CaseTable.upper,
    0x80 ≤ row.first + row.delta ∨
      row.first = row.last ∧ ¬ IsMark (Char.ofNat (row.first + row.delta).toNat) := by
  decide +kernel

theorem shifted_not_mark {table : List Shift} (htable : table ⊆ CaseTable.lower ++ CaseTable.upper)
    {c : Char} (hc : 0x80 ≤ c.toNat) : ¬ IsMark (shifted table c) := by
  unfold shifted
  split
  · next row hrow =>
    have hcontains := List.find?_some hrow
    simp only [Shift.contains, Bool.and_eq_true, decide_eq_true_eq] at hcontains
    rcases rows_mark row (htable (List.mem_of_find?_eq_some hrow)) with habove | ⟨hone, hletter⟩
    · exact fun h => ofNat_not_native (by omega) h.native
    · have hcode : c.toNat = row.first := by omega
      rwa [hcode]
  · exact fun h => absurd h.1 (by omega)

/-- The shape that the mappings of both cases have. -/
theorem mem_mapped_iff {long : List (Nat × List Nat)} {table : List Shift} {ascii : Char → Char}
    (hlong : long ⊆ CaseTable.lowerLong ++ CaseTable.upperLong)
    (htable : table ⊆ CaseTable.lower ++ CaseTable.upper)
    (hascii : ∀ {c : Char}, c.toNat < 0x80 → IsMark (ascii c) ∨ IsMark c → ascii c = c)
    {m : Char} (hm : IsMark m) (c : Char) :
    (m ∈ if isAscii c then [ascii c]
      else match long.lookup c.toNat with
        | some image => image.map Char.ofNat
        | none => [shifted table c]) ↔ m = c := by
  by_cases hc : isAscii c
  · rw [if_pos hc, List.mem_singleton]
    have hkept := hascii (c := c) (by simpa [isAscii] using hc)
    constructor
    · rintro rfl
      exact hkept (.inl hm)
    · rintro rfl
      exact (hkept (.inr hm)).symm
  · have hforeign : 0x80 ≤ c.toNat := by simpa [isAscii] using hc
    rw [if_neg hc]
    constructor
    · split
      · next image hlookup =>
        obtain ⟨before, after, hrows, _⟩ := List.lookup_eq_some_iff.mp hlookup
        have hrow : (c.toNat, image) ∈ long := by
          rw [hrows]
          exact List.mem_append_right _ List.mem_cons_self
        intro hmem
        obtain ⟨n, hn, rfl⟩ := List.mem_map.mp hmem
        exact absurd hm (long_rows_mark _ (hlong hrow) n hn)
      · intro hmem
        rw [List.mem_singleton.mp hmem] at hm
        exact absurd hm (shifted_not_mark htable hforeign)
    · rintro rfl
      exact absurd hm.1 (by omega)

theorem mem_lowerChar_iff {m : Char} (hm : IsMark m) (c : Char) : m ∈ lowerChar c ↔ m = c :=
  mem_mapped_iff (List.subset_append_left ..) (List.subset_append_left ..)
    ascii_lower_mark hm c

theorem mem_upperChar_iff {m : Char} (hm : IsMark m) (c : Char) : m ∈ upperChar c ↔ m = c :=
  mem_mapped_iff (List.subset_append_right ..) (List.subset_append_right ..)
    ascii_upper_mark hm c

theorem mem_lowerFrom_iff {m : Char} (hm : IsMark m) (before cs : List Char) :
    m ∈ lowerFrom before cs ↔ m ∈ cs := by
  induction cs generalizing before with
  | nil => rfl
  | cons c rest ih =>
    rw [lowerFrom, List.mem_append, List.mem_cons, ih]
    by_cases hsigma : c = 'Σ'
    · rw [if_pos hsigma, hsigma]
      have hsigmas : ∀ d, d = 'ς' ∨ d = 'σ' ∨ d = 'Σ' → ¬ IsMark d := by
        rintro d (rfl | rfl | rfl) <;> exact fun h => absurd h.1 (by decide)
      refine or_congr_left ⟨fun h => absurd hm (hsigmas m ?_), fun h => absurd hm (hsigmas m ?_)⟩
      · rw [List.mem_singleton.mp h]
        split_ifs <;> simp
      · exact .inr (.inr h)
    · rw [if_neg hsigma, mem_lowerChar_iff hm]

/-- Lower case neither makes nor loses a mark. -/
theorem mem_lower_iff {m : Char} (hm : IsMark m) (cs : List Char) : m ∈ lower cs ↔ m ∈ cs :=
  mem_lowerFrom_iff hm [] cs

/-! ## Pieces of a text -/

theorem mem_of_mem_dropEndWhile {p : Char → Bool} {c : Char} {cs : List Char}
    (h : c ∈ dropEndWhile p cs) : c ∈ cs := by
  rw [dropEndWhile, List.mem_reverse] at h
  exact List.mem_reverse.mp ((List.dropWhile_suffix p).subset h)

theorem mem_of_mem_strip {p : Char → Bool} {c : Char} {cs : List Char} (h : c ∈ strip p cs) :
    c ∈ cs :=
  (List.dropWhile_suffix p).subset (mem_of_mem_dropEndWhile h)

theorem mem_of_mem_joinWith {separator : List Char} {c : Char} {ws : List (List Char)}
    (h : c ∈ joinWith separator ws) : c ∈ separator ∨ ∃ w ∈ ws, c ∈ w := by
  induction ws with
  | nil => cases h
  | cons w ws ih =>
    cases ws with
    | nil => exact .inr ⟨w, .head _, h⟩
    | cons v vs =>
      change c ∈ w ++ separator ++ joinWith separator (v :: vs) at h
      rw [List.mem_append, List.mem_append] at h
      rcases h with (hw | hseparator) | hrest
      · exact .inr ⟨w, .head _, hw⟩
      · exact .inl hseparator
      · rcases ih hrest with hseparator | ⟨u, hu, hc⟩
        · exact .inl hseparator
        · exact .inr ⟨u, .tail _ hu, hc⟩

theorem mem_of_mem_splitTerminators {c : Char} {cs : List Char} (h : c ∈ splitTerminators cs) :
    c = ' ' ∨ c ∈ cs := by
  induction cs using splitTerminators.induct with
  | case1 cs ih =>
    rw [splitTerminators] at h
    simp only [List.mem_cons] at h ⊢
    rcases h with h | h | h | h
    · exact .inr (.inl h)
    · exact .inl h
    · exact .inr (.inr (.inl h))
    · exact (ih h).imp_right fun h => .inr (.inr h)
  | case2 d cs hne ih =>
    rw [splitTerminators.eq_2 _ _ hne] at h
    rcases List.mem_cons.mp h with rfl | h
    · exact .inr (.head _)
    · exact (ih h).imp_right (.tail _)
  | case3 => cases h

theorem mem_of_mem_collapse {c : Char} {cs : List Char} (h : c ∈ collapse cs) :
    c = ' ' ∨ c ∈ cs := by
  induction cs with
  | nil => cases h
  | cons d cs ih =>
    rw [collapse] at h
    split_ifs at h
    · exact (ih h).imp_right (.tail _)
    · rcases List.mem_cons.mp h with rfl | h
      · exact .inl rfl
      · exact (ih h).imp_right (.tail _)
    · rcases List.mem_cons.mp h with rfl | h
      · exact .inr (.head _)
      · exact (ih h).imp_right (.tail _)

/-! ## Lines -/

/-- A text on one line. -/
def IsSingleLine (cs : List Char) : Prop := '\n' ∉ cs

instance (cs : List Char) : Decidable (IsSingleLine cs) := inferInstanceAs (Decidable (_ ∉ _))

/-- By the cases of the definition: a line feed always ends a line. -/
theorem lines_single {cs line : List Char} (h : line ∈ lines cs) : IsSingleLine line := by
  induction cs using lines.induct generalizing line with
  | case1 => cases h
  | case2 cs ih =>
    rw [lines] at h
    rcases List.mem_cons.mp h with rfl | h
    · exact List.not_mem_nil
    · exact ih h
  | case3 cs ih =>
    rw [lines] at h
    rcases List.mem_cons.mp h with rfl | h
    · exact List.not_mem_nil
    · exact ih h
  | case4 c cs hreturn hfeed hnil ih =>
    rw [lines.eq_4 c cs hreturn hfeed, hnil] at h
    rw [List.mem_singleton.mp h, IsSingleLine, List.mem_singleton]
    exact fun hc => hfeed hc.symm
  | case5 c cs hreturn hfeed first others hcons ih =>
    rw [lines.eq_4 c cs hreturn hfeed, hcons] at h
    rcases List.mem_cons.mp h with rfl | h
    · exact List.not_mem_cons_of_ne_of_not_mem (fun hc => hfeed hc.symm) (ih (hcons ▸ .head _))
    · exact ih (hcons ▸ .tail _ h)

/-- Nothing but line feeds becomes a line feed. -/
theorem plainPunctuation_lineFeed {c : Char} (h : plainPunctuation c = '\n') : c = '\n' := by
  unfold plainPunctuation at h
  split_ifs at h
  · exact absurd h (by decide)
  · exact absurd h (by decide)
  · exact absurd h (by decide)
  · exact h

theorem commentLine_single {line : List Char} (h : IsSingleLine line) :
    IsSingleLine (commentLine line) := by
  intro hmem
  have hspace : '\n' ≠ ' ' := by decide
  have hcollapsed := (mem_of_mem_splitTerminators hmem).resolve_left hspace
  have hstripped := (mem_of_mem_collapse hcollapsed).resolve_left hspace
  obtain ⟨c, hc, hplain⟩ := List.mem_map.mp (mem_of_mem_strip hstripped)
  rw [plainPunctuation_lineFeed hplain] at hc
  exact h hc

theorem docLine_single (s : String) : IsSingleLine (docLine s).toList := by
  rw [docLine, String.toList_ofList]
  intro hmem
  rcases mem_of_mem_joinWith hmem with hspace | ⟨w, hw, hc⟩
  · exact absurd hspace (by decide)
  · obtain ⟨line, hline, rfl⟩ := List.mem_map.mp (List.mem_filter.mp hw).1
    exact commentLine_single (lines_single hline) hc

theorem docLines_single {s line : String} (h : line ∈ docLines s) : IsSingleLine line.toList := by
  obtain ⟨cs, hcs, rfl⟩ := List.mem_map.mp h
  rw [String.toList_ofList]
  intro hmem
  have hkept := (mem_of_mem_splitTerminators hmem).resolve_left (by decide)
  exact lines_single hcs (mem_of_mem_dropEndWhile hkept)

end ClientForge.Text

namespace ClientForge.Naming

open Text

/-! ## Names -/

/-- Other characters than spaces and their substitute stay. -/
theorem mem_replaceSpaces_iff {substitute c : Char} (hspace : c ≠ ' ') (hsubstitute : c ≠ substitute)
    (cs : List Char) : c ∈ replaceSpaces substitute cs ↔ c ∈ cs := by
  rw [replaceSpaces, List.mem_map]
  constructor
  · rintro ⟨d, hd, rfl⟩
    split_ifs at hsubstitute ⊢
    · exact absurd rfl hsubstitute
    · exact hd
  · exact fun h => ⟨c, h, if_neg hspace⟩

/-- An ASCII letter, a digit or an underscore. -/
def IsWordChar (c : Char) : Prop := c.isAlphanum ∨ c = '_'

theorem parameterWord_word {word : List Char} {c : Char} (h : c ∈ parameterWord word) :
    IsWordChar c := by
  obtain ⟨d, _, rfl⟩ := List.mem_map.mp (mem_of_mem_strip h)
  split_ifs with hd
  · exact .inl hd
  · exact .inr rfl

theorem mem_of_mem_escapeReserved {name : String} {c : Char}
    (h : c ∈ (escapeReserved name).toList) : c ∈ name.toList ∨ c = '_' := by
  unfold escapeReserved at h
  split_ifs at h
  · rw [String.toList_append, List.mem_append] at h
    exact h.imp_right List.mem_singleton.mp
  · exact .inl h

theorem parameterName_word {name : String} {c : Char} (h : c ∈ (parameterName name).toList) :
    IsWordChar c := by
  rcases mem_of_mem_escapeReserved h with hjoined | hmark
  · rw [String.toList_ofList] at hjoined
    rcases mem_of_mem_joinWith hjoined with hseparator | ⟨word, hword, hc⟩
    · exact .inr (List.mem_singleton.mp hseparator)
    · obtain ⟨w, _, rfl⟩ := List.mem_map.mp (List.mem_filter.mp hword).1
      exact parameterWord_word hc
  · exact .inr hmark

theorem parameterName_single (name : String) : IsSingleLine (parameterName name).toList :=
  fun h => absurd (parameterName_word h) (by rintro (h | h) <;> exact absurd h (by decide))

theorem typeName_single (displayName : String) : IsSingleLine (typeName displayName).toList := by
  rw [typeName, String.toList_ofList]
  intro hmem
  obtain ⟨word, _, hc⟩ := List.mem_flatMap.mp hmem
  have hletters : '\n' ∉ word.filter isAlphanumeric := by
    rw [List.mem_filter]
    exact fun h => absurd h.2 (by decide)
  -- only the first letter is changed
  cases hword : word.filter isAlphanumeric with
  | nil =>
    rw [hword] at hc
    cases hc
  | cons d ds =>
    rw [hword, capitalize, List.mem_append] at hc
    rw [hword, List.mem_cons, not_or] at hletters
    rcases hc with hfirst | hrest
    · exact hletters.1 ((mem_upperChar_iff (by decide) d).mp hfirst)
    · exact hletters.2 hrest

end ClientForge.Naming
