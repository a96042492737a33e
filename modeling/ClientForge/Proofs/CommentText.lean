import ClientForge.Proofs.VisibleText

/-!
The two ways in which free text is put into generated comments. A description of an argument goes on
one line: what is visible of it, in plain punctuation and with single spaces. A description of an
operation keeps its lines, and with them the blank ones between paragraphs. Neither closes a block
comment, and a text that is in order already is left as it is.

Results:
1. `commentLine_isTidy`, `IsTidy.join`: tidy lines joined by a space are tidy.
2. `docLine_tidies`: a text on one line.
3. `AreTidy.joined`: tidy lines are read again from the text they are joined to.
4. `docLines_tidies`: a text on several lines.
-/

namespace ClientForge.Text

/-! ## Definitions -/

/-- The typographic characters that comments do without, each with what it becomes. -/
def plainForms : List (Char × Char) :=
  [('\u2018', '\''), ('\u2019', '\''), ('\u201c', '"'), ('\u201d', '"'), ('\u2014', '-')]

/-- The text with its typographic characters replaced. -/
def inPlainForm (cs : List Char) : List Char := cs.map fun c => (plainForms.lookup c).getD c

/-- Safe on a comment line: nothing in it closes a comment, no typographic character is left, and
the only blanks are single spaces between what can be seen. -/
structure IsTidy (cs : List Char) : Prop where
  unclosed : Apart '*' '/' cs
  plain : ∀ row ∈ plainForms, row.1 ∉ cs
  spaces : ∀ c ∈ cs, isBlank c = true → c = ' '
  single : Apart ' ' ' ' cs
  stripped : IsStripped isBlank cs

/-- What becomes of one line of several. -/
def textLine (line : List Char) : List Char := splitTerminators (dropEndWhile isBlank line)

/-- The lines of a comment. The first one begins and the last one ends with something visible, so
that blank lines stand between others only; no line has blanks at its end, and none closes a
comment. -/
structure AreTidy (ls : List (List Char)) : Prop where
  first : ∀ line ∈ ls.head?, ∃ c ∈ line.head?, isBlank c = false
  last : ∀ line ∈ ls.getLast?, ∃ c ∈ line.getLast?, isBlank c = false
  single : ∀ line ∈ ls, IsSingleLine line
  ended : ∀ line ∈ ls, ∀ c ∈ line.getLast?, isBlank c = false
  unclosed : ∀ line ∈ ls, Apart '*' '/' line

/-- Every line shows what the line of the trimmed text shows that stands in its place. -/
def ShowsLines (s : String) (ls : List String) : Prop :=
  List.Forall₂ (fun line written => visible written.toList = visible line)
    (lines (trim s).toList) ls

/-! ## Punctuation -/

theorem plainPunctuation_eq (c : Char) : plainPunctuation c = (plainForms.lookup c).getD c := by
  unfold plainPunctuation
  split_ifs with hsingle hdouble hdash
  · rcases hsingle with rfl | rfl <;> rfl
  · rcases hdouble with rfl | rfl <;> rfl
  · rw [hdash]; rfl
  · have hnone : plainForms.lookup c = none := by
      simp only [plainForms, List.lookup_eq_none_iff, bne_iff_ne]
      grind
    rw [hnone, Option.getD_none]

theorem map_plainPunctuation (cs : List Char) : cs.map plainPunctuation = inPlainForm cs :=
  List.map_congr_left fun c _ => plainPunctuation_eq c

/-- A character is replaced as the table says, or it is none of the table and stays. -/
theorem plainPunctuation_cases (c : Char) :
    (∃ row ∈ plainForms, c = row.1 ∧ plainPunctuation c = row.2) ∨
      (∀ row ∈ plainForms, c ≠ row.1) ∧ plainPunctuation c = c := by
  rw [plainPunctuation_eq]
  cases h : plainForms.lookup c with
  | some d =>
    obtain ⟨before, after, hrows, _⟩ := List.lookup_eq_some_iff.mp h
    exact .inl ⟨(c, d), hrows ▸ List.mem_append_right _ List.mem_cons_self, rfl, rfl⟩
  | none => exact .inr ⟨fun row hrow => bne_iff_ne.mp (List.lookup_eq_none_iff.mp h row hrow), rfl⟩

theorem isBlank_plainPunctuation (c : Char) : isBlank (plainPunctuation c) = isBlank c := by
  have hrows : ∀ row ∈ plainForms, isBlank row.2 = isBlank row.1 := by decide
  rcases plainPunctuation_cases c with ⟨row, hrow, rfl, heq⟩ | ⟨_, heq⟩
  · rw [heq, hrows row hrow]
  · rw [heq]

theorem plainPunctuation_ne (c : Char) : ∀ row ∈ plainForms, plainPunctuation c ≠ row.1 := by
  have hrows : ∀ row ∈ plainForms, ∀ other ∈ plainForms, row.2 ≠ other.1 := by decide
  rcases plainPunctuation_cases c with ⟨row, hrow, rfl, heq⟩ | ⟨hne, heq⟩
  · rw [heq]
    exact hrows row hrow
  · rw [heq]
    exact hne

theorem plainPunctuation_eq_self {c : Char} (h : ∀ row ∈ plainForms, c ≠ row.1) :
    plainPunctuation c = c := by
  rcases plainPunctuation_cases c with ⟨row, hrow, hc, _⟩ | ⟨_, heq⟩
  · exact absurd hc (h row hrow)
  · exact heq

theorem visible_map_plainPunctuation (cs : List Char) :
    visible (cs.map plainPunctuation) = (visible cs).map plainPunctuation := by
  rw [visible, List.filter_map]
  exact congrArg _ (List.filter_congr fun c _ => congrArg _ (isBlank_plainPunctuation c))

/-! ## One line -/

theorem visible_commentLine (line : List Char) :
    visible (commentLine line) = visible (line.map plainPunctuation) := by
  rw [commentLine, visible_splitTerminators, visible_collapse, visible_strip]

theorem commentLine_isTidy (line : List Char) : IsTidy (commentLine line) := by
  have hstripped := strip_isStripped isBlank (line.map plainPunctuation)
  -- what is replaced does not come back: only spaces are written in
  have hmem {c : Char} (h : c ∈ commentLine line) :
      c = ' ' ∨ ∃ d ∈ line, plainPunctuation d = c := by
    rcases mem_of_mem_splitTerminators h with h | h
    · exact .inl h
    · rcases mem_of_mem_collapse h with h | h
      · exact .inl h
      · exact .inr (List.mem_map.mp (mem_of_mem_strip h))
  exact {
    unclosed := splitTerminators_apart _
    plain := fun row hrow h => by
      have hspace : ∀ row ∈ plainForms, row.1 ≠ ' ' := by decide
      rcases hmem h with h | ⟨d, _, h⟩
      · exact hspace row hrow h
      · exact plainPunctuation_ne d row hrow h
    spaces := fun c hc hblank => by
      rcases mem_of_mem_splitTerminators hc with h | h
      · exact h
      · exact eq_space_of_mem_collapse h hblank
    single := (collapse_apart _).splitTerminators
    stripped := isStripped_splitTerminators (collapse_isStripped hstripped) }

theorem isTidy_nil : IsTidy [] where
  unclosed := apart_nil
  plain _ _ h := nomatch h
  spaces _ h := nomatch h
  single := apart_nil
  stripped := isStripped_nil

theorem IsTidy.join {us vs : List Char} (hus : IsTidy us) (hvs : IsTidy vs) (husne : us ≠ [])
    (hvsne : vs ≠ []) : IsTidy (us ++ ' ' :: vs) where
  unclosed := hus.unclosed.append (apart_cons.mpr ⟨by simp, hvs.unclosed⟩) (by simp)
  plain row hrow h := by
    rcases List.mem_append.mp h with h | h
    · exact hus.plain row hrow h
    · have hspace : ∀ row ∈ plainForms, row.1 ≠ ' ' := by decide
      exact hvs.plain row hrow ((List.mem_cons.mp h).resolve_left (hspace row hrow))
  spaces c hc hblank := by
    rcases List.mem_append.mp hc with hc | hc
    · exact hus.spaces c hc hblank
    · exact (List.mem_cons.mp hc).elim id fun hc => hvs.spaces c hc hblank
  single := by
    -- the texts on both sides of the new space neither end nor begin with one
    have hspace : isBlank ' ' ≠ false := by decide
    refine hus.single.append (apart_cons.mpr ⟨fun h => ?_, hvs.single⟩) fun h => ?_
    · exact hspace (hvs.stripped.1 ' ' h.2)
    · exact hspace (hus.stripped.2 ' ' h.1)
  stripped := by
    rw [IsStripped, List.head?_append_of_ne_nil _ husne,
      List.getLast?_append_of_ne_nil _ (List.cons_ne_nil _ _), List.getLast?_cons_of_ne_nil hvsne]
    exact ⟨hus.stripped.1, hvs.stripped.2⟩

theorem joinWith_isTidy {ws : List (List Char)} (h : ∀ w ∈ ws, IsTidy w) (hne : ∀ w ∈ ws, w ≠ []) :
    IsTidy (joinWith [' '] ws) := by
  induction ws with
  | nil => exact isTidy_nil
  | cons w ws ih =>
    obtain ⟨hw, hws⟩ := List.forall_mem_cons.mp h
    obtain ⟨hwne, hwsne⟩ := List.forall_mem_cons.mp hne
    cases ws with
    | nil => exact hw
    | cons v vs =>
      have hrest : joinWith [' '] (v :: vs) ≠ [] := by
        obtain ⟨rest, hrest⟩ := joinWith_cons [' '] v vs
        exact hrest ▸ List.append_ne_nil_of_left_ne_nil (hwsne v List.mem_cons_self) rest
      have hjoin : joinWith [' '] (w :: v :: vs) = w ++ ' ' :: joinWith [' '] (v :: vs) :=
        List.append_assoc w [' '] _
      exact hjoin ▸ hw.join (ih hws hwsne) hwne hrest

/-- A tidy text is a comment line already. -/
theorem commentLine_eq_self {line : List Char} (h : IsTidy line) : commentLine line = line := by
  have hplain : line.map plainPunctuation = line :=
    (List.map_congr_left fun c hc => plainPunctuation_eq_self fun row hrow heq =>
      h.plain row hrow (heq ▸ hc)).trans (List.map_id line)
  rw [commentLine, hplain, strip_eq_self h.stripped, collapse_eq_self h.spaces h.single,
    splitTerminators_eq_self h.unclosed]

theorem docLine_eq_self {s : String} (h : IsTidy s.toList) : docLine s = s := by
  have hsingle : IsSingleLine s.toList := fun hfeed =>
    absurd (h.spaces _ hfeed (by decide)) (by decide)
  rw [docLine]
  by_cases hempty : s.toList = []
  · rw [hempty, String.toList_eq_nil_iff.mp hempty]
    rfl
  · rw [lines_of_single hsingle hempty, List.map_singleton, commentLine_eq_self h,
      List.filter_cons_of_pos (by simpa using hempty), List.filter_nil, joinWith,
      String.ofList_toList]

theorem docLine_isTidy (s : String) : IsTidy (docLine s).toList := by
  rw [docLine, String.toList_ofList]
  refine joinWith_isTidy (fun w hw => ?_) fun w hw => ?_
  · obtain ⟨line, _, rfl⟩ := List.mem_map.mp (List.mem_filter.mp hw).1
    exact commentLine_isTidy line
  · simpa using (List.mem_filter.mp hw).2

theorem visible_docLine (s : String) :
    visible (docLine s).toList = visible (inPlainForm s.toList) := by
  have hlines (ls : List (List Char)) :
      visible (ls.map commentLine).flatten = (visible ls.flatten).map plainPunctuation := by
    induction ls with
    | nil => rfl
    | cons line ls ih =>
      rw [List.map_cons, List.flatten_cons, visible_append, ih, visible_commentLine,
        visible_map_plainPunctuation, List.flatten_cons, visible_append, List.map_append]
  calc visible (docLine s).toList
      = visible ((lines s.toList).map commentLine).flatten := by
        rw [docLine, String.toList_ofList, visible_joinWith (by decide),
          List.flatten_filter_not_isEmpty]
    _ = (visible s.toList).map plainPunctuation := by
        rw [hlines, (hasLines_lines s.toList).visible_eq]
    _ = visible (inPlainForm s.toList) := by
        rw [← visible_map_plainPunctuation, map_plainPunctuation]

/-- A text on one line is tidy, stays as it is, and shows what the text shows in plain form. -/
theorem docLine_tidies (s : String) :
    IsTidy (docLine s).toList ∧ docLine (docLine s) = docLine s ∧
      visible (docLine s).toList = visible (inPlainForm s.toList) :=
  ⟨docLine_isTidy s, docLine_eq_self (docLine_isTidy s), visible_docLine s⟩

example : docLine "**//\r\n\t‘a’ —\u3000b" = "** // 'a' - b" := by decide

/-! ## Several lines -/

theorem docLines_eq (s : String) :
    docLines s =
      (lines (strip isBlank s.toList)).map fun line => String.ofList (textLine line) := rfl

theorem map_toList_docLines (s : String) :
    (docLines s).map String.toList = (lines (strip isBlank s.toList)).map textLine := by
  rw [docLines_eq, List.map_map]
  exact List.map_congr_left fun line _ => String.toList_ofList

theorem visible_textLine (line : List Char) : visible (textLine line) = visible line := by
  rw [textLine, visible_splitTerminators]
  exact visible_dropEndWhile line

theorem textLine_single {line : List Char} (h : IsSingleLine line) :
    IsSingleLine (textLine line) := fun hmem =>
  h (mem_of_mem_dropEndWhile ((mem_of_mem_splitTerminators hmem).resolve_left (by decide)))

theorem textLine_ended (line : List Char) : ∀ c ∈ (textLine line).getLast?, isBlank c = false := by
  rw [textLine, getLast?_splitTerminators]
  exact getLast?_dropEndWhile isBlank line

theorem textLine_begins {line : List Char} (h : ∃ c ∈ line.head?, isBlank c = false) :
    ∃ c ∈ (textLine line).head?, isBlank c = false := by
  obtain ⟨c, hhead, hc⟩ := h
  rw [textLine, head?_splitTerminators]
  exact ⟨c, head?_dropEndWhile hhead hc, hc⟩

theorem textLine_ends {line : List Char} (h : ∃ c ∈ line.getLast?, isBlank c = false) :
    ∃ c ∈ (textLine line).getLast?, isBlank c = false := by
  obtain ⟨c, hlast, hc⟩ := h
  have hkept : dropEndWhile isBlank line = line :=
    dropEndWhile_eq_self_iff.mpr fun d hd => by rwa [← Option.mem_unique hlast hd]
  rw [textLine, getLast?_splitTerminators, hkept]
  exact ⟨c, hlast, hc⟩

theorem textLine_eq_self {line : List Char} (hended : ∀ c ∈ line.getLast?, isBlank c = false)
    (hunclosed : Apart '*' '/' line) : textLine line = line := by
  rw [textLine, dropEndWhile_eq_self_iff.mpr hended, splitTerminators_eq_self hunclosed]

/-- What tidy lines are joined to has no blanks at its ends, and is read as the same lines. -/
theorem AreTidy.joined {ls : List (List Char)} (h : AreTidy ls) :
    IsStripped isBlank (joinWith ['\n'] ls) ∧ lines (joinWith ['\n'] ls) = ls := by
  have hfirst : ∀ line ∈ ls.head?, line ≠ [] := by
    rintro line hline rfl
    obtain ⟨c, hc, _⟩ := h.first [] hline
    cases hc
  have hlast : ∀ line ∈ ls.getLast?, line ≠ [] := by
    rintro line hline rfl
    obtain ⟨c, hc, _⟩ := h.last [] hline
    cases hc
  have hreturn : ∀ line ∈ ls, line.getLast? ≠ some '\r' := fun line hline hr =>
    absurd (h.ended line hline '\r' hr) (by decide)
  refine ⟨?_, lines_joinWith h.single hreturn hlast⟩
  cases hhead : ls.head? with
  | none =>
    rw [List.head?_eq_none_iff.mp hhead]
    exact isStripped_nil
  | some first =>
    obtain ⟨others, rfl⟩ := List.head?_eq_some_iff.mp hhead
    have hend := List.getLast?_eq_some_getLast (List.cons_ne_nil first others)
    rw [IsStripped, head?_joinWith _ hhead (hfirst _ hhead),
      getLast?_joinWith_of_last _ hend (hlast _ hend)]
    obtain ⟨c, hc, hvisible⟩ := h.first _ hhead
    refine ⟨fun d hd => ?_, h.ended _ (List.mem_of_mem_getLast? hend)⟩
    rwa [← Option.mem_unique hc hd]

/-- Tidy lines, joined, are read as the same lines again. -/
theorem docLines_eq_self {ls : List String} (h : AreTidy (ls.map String.toList)) :
    docLines ("\n".intercalate ls) = ls := by
  have htoList : ("\n".intercalate ls).toList = joinWith ['\n'] (ls.map String.toList) := by
    rw [String.toList_intercalate, joinWith_eq_intercalate]
    rfl
  obtain ⟨hstripped, hlines⟩ := h.joined
  rw [docLines_eq, htoList, strip_eq_self hstripped, hlines, List.map_map]
  refine (List.map_congr_left fun line hline => ?_).trans (List.map_id ls)
  have hmem : line.toList ∈ ls.map String.toList := List.mem_map_of_mem hline
  rw [Function.comp_apply, textLine_eq_self (h.ended _ hmem) (h.unclosed _ hmem),
    String.ofList_toList, id]

/-- The lines of a text without blanks at its ends. -/
theorem textLines_areTidy {cs : List Char} (h : IsStripped isBlank cs) :
    AreTidy ((lines cs).map textLine) where
  first line hline := by
    rw [List.head?_map] at hline
    obtain ⟨read, hread, rfl⟩ := Option.mem_map.mp hline
    exact textLine_begins ((hasLines_lines cs).first_visible h.1 read hread)
  last line hline := by
    rw [List.getLast?_map] at hline
    obtain ⟨read, hread, rfl⟩ := Option.mem_map.mp hline
    exact textLine_ends ((hasLines_lines cs).last_visible h.2 read hread)
  single line hline := by
    obtain ⟨read, hread, rfl⟩ := List.mem_map.mp hline
    exact textLine_single (lines_single hread)
  ended line hline := by
    obtain ⟨read, _, rfl⟩ := List.mem_map.mp hline
    exact textLine_ended read
  unclosed line hline := by
    obtain ⟨read, _, rfl⟩ := List.mem_map.mp hline
    exact splitTerminators_apart _

theorem docLines_areTidy (s : String) : AreTidy ((docLines s).map String.toList) := by
  rw [map_toList_docLines]
  exact textLines_areTidy (strip_isStripped isBlank s.toList)

theorem docLines_eq_nil_iff (s : String) : docLines s = [] ↔ ∀ c ∈ s.toList, isBlank c = true := by
  rw [← strip_eq_nil_iff, docLines_eq, List.map_eq_nil_iff]
  exact (hasLines_lines _).eq_nil_iff

theorem length_docLines {s : String} (h : docLines s ≠ []) :
    (docLines s).length = (trim s).toList.count '\n' + 1 := by
  have hne : strip isBlank s.toList ≠ [] := fun hnil =>
    h ((docLines_eq_nil_iff s).mpr (strip_eq_nil_iff.mp hnil))
  have hlast : (strip isBlank s.toList).getLast? ≠ some '\n' := fun hfeed =>
    absurd ((strip_isStripped isBlank s.toList).2 '\n' hfeed) (by decide)
  rw [docLines_eq, List.length_map, (hasLines_lines _).length_eq hne hlast, trim,
    String.toList_ofList]

theorem docLines_showsLines (s : String) : ShowsLines s (docLines s) := by
  rw [ShowsLines, trim, String.toList_ofList, docLines_eq, List.forall₂_map_right_iff]
  exact List.forall₂_same.mpr fun line _ => by rw [String.toList_ofList, visible_textLine]

theorem visible_docLines (s : String) :
    visible (String.join (docLines s)).toList = visible s.toList := by
  have hlines (ls : List (List Char)) :
      visible (String.join (ls.map fun line => String.ofList (textLine line))).toList =
        visible ls.flatten := by
    induction ls with
    | nil => rfl
    | cons line ls ih =>
      rw [List.map_cons, String.toList_join, List.flatMap_cons, visible_append,
        String.toList_ofList, visible_textLine, List.flatten_cons, visible_append, ← ih,
        String.toList_join]
  rw [docLines_eq, hlines, (hasLines_lines _).visible_eq]
  exact visible_strip s.toList

/-- A text on several lines. There are none for a blank text; else they are tidy and read as they
are, there are as many as the trimmed text has, each shows what the line in its place shows, and all
of them together what the text shows. -/
theorem docLines_tidies (s : String) :
    (docLines s = [] ↔ ∀ c ∈ s.toList, isBlank c = true) ∧
      AreTidy ((docLines s).map String.toList) ∧
      docLines ("\n".intercalate (docLines s)) = docLines s ∧
      (docLines s ≠ [] → (docLines s).length = (trim s).toList.count '\n' + 1) ∧
      ShowsLines s (docLines s) ∧
      visible (String.join (docLines s)).toList = visible s.toList :=
  ⟨docLines_eq_nil_iff s, docLines_areTidy s, docLines_eq_self (docLines_areTidy s),
    length_docLines, docLines_showsLines s, visible_docLines s⟩

end ClientForge.Text
