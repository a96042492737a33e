import ClientForge.Proofs.Characters
import ClientForge.Proofs.Identifiers

/-!
What free text loses on its way into a comment, one pass at a time. Everything that can be seen goes
through every pass; what the passes take away or put in are blanks. A terminator is pulled apart for
good, since the space that is written into one neither touches another space nor makes a terminator
of what follows.

Results:
1. `splitTerminators_apart`, `Apart.splitTerminators`: no terminator is left, and no two spaces come
   to stand side by side.
2. `collapse_apart`, `collapse_eq_self`: runs of blanks become single spaces, which stay.
3. `HasLines`: how a text is cut into lines, and what its lines tell of it.
4. `lines_joinWith`: joined lines are read again.
-/

namespace ClientForge.Text

/-! ## Definitions -/

/-- What can be seen of a text: all of it but the blanks. -/
def visible (cs : List Char) : List Char := cs.filter (!isBlank ·)

/-- Nowhere in the text is `x` followed by `y`. -/
def Apart (x y : Char) (cs : List Char) : Prop := ¬ [x, y] <:+: cs

/-- The text consists of these lines, each but perhaps the last one with a line end behind it. -/
inductive HasLines : List Char → List (List Char) → Prop
  | empty : HasLines [] []
  | feed {cs : List Char} {ls : List (List Char)} :
      HasLines cs ls → HasLines ('\n' :: cs) ([] :: ls)
  | pair {cs : List Char} {ls : List (List Char)} :
      HasLines cs ls → HasLines ('\r' :: '\n' :: cs) ([] :: ls)
  | last {c : Char} : c ≠ '\n' → HasLines [c] [[c]]
  | char {c : Char} {cs first : List Char} {others : List (List Char)} : c ≠ '\n' →
      HasLines cs (first :: others) → HasLines (c :: cs) ((c :: first) :: others)

theorem visible_append (us vs : List Char) : visible (us ++ vs) = visible us ++ visible vs :=
  List.filter_append us vs

/-! ## Neighbours -/

section

variable {x y c : Char} {cs us vs : List Char}

theorem apart_nil : Apart x y [] := fun h => nomatch List.infix_nil.mp h

theorem apart_cons : Apart x y (c :: cs) ↔ ¬ (c = x ∧ cs.head? = some y) ∧ Apart x y cs := by
  have hstart : [x, y] <+: c :: cs ↔ c = x ∧ cs.head? = some y := by
    rw [List.cons_prefix_cons, eq_comm, List.head?_eq_some_iff]
    exact and_congr_right' ⟨fun ⟨rest, h⟩ => ⟨rest, h.symm⟩, fun ⟨rest, h⟩ => ⟨rest, h.symm⟩⟩
  rw [Apart, List.infix_cons_iff, hstart, not_or, Apart]

theorem Apart.append (hus : Apart x y us) (hvs : Apart x y vs)
    (hbetween : ¬ (us.getLast? = some x ∧ vs.head? = some y)) : Apart x y (us ++ vs) := by
  induction us with
  | nil => exact hvs
  | cons c us ih =>
    obtain ⟨hc, hus⟩ := apart_cons.mp hus
    rw [List.cons_append, apart_cons]
    cases us with
    | nil => exact ⟨fun h => hbetween ⟨congrArg some h.1, h.2⟩, hvs⟩
    | cons d us => exact ⟨hc, ih hus hbetween⟩

end

/-! ## Terminators -/

theorem head?_splitTerminators (cs : List Char) : (splitTerminators cs).head? = cs.head? := by
  cases cs using splitTerminators.fun_cases with
  | case1 cs => rfl
  | case2 c cs hne => rw [splitTerminators.eq_2 _ _ hne]; rfl
  | case3 => rfl

theorem getLast?_splitTerminators (cs : List Char) :
    (splitTerminators cs).getLast? = cs.getLast? := by
  induction cs using splitTerminators.induct with
  | case1 cs ih => simp [splitTerminators, List.getLast?_cons, ih]
  | case2 c cs hne ih =>
    rw [splitTerminators.eq_2 _ _ hne, List.getLast?_cons, ih, List.getLast?_cons]
  | case3 => rfl

theorem visible_splitTerminators (cs : List Char) : visible (splitTerminators cs) = visible cs := by
  induction cs using splitTerminators.induct with
  | case1 cs ih =>
    have hspace : isBlank ' ' = true := by decide
    simp only [visible] at ih ⊢
    simp [splitTerminators, List.filter_cons, hspace, ih]
  | case2 c cs hne ih =>
    simp only [visible] at ih ⊢
    rw [splitTerminators.eq_2 _ _ hne, List.filter_cons, List.filter_cons, ih]
  | case3 => rfl

theorem splitTerminators_apart (cs : List Char) : Apart '*' '/' (splitTerminators cs) := by
  induction cs using splitTerminators.induct with
  | case1 cs ih =>
    rw [splitTerminators, apart_cons, apart_cons, apart_cons]
    exact ⟨by simp, by simp, by simp, ih⟩
  | case2 c cs hne ih =>
    rw [splitTerminators.eq_2 _ _ hne, apart_cons, head?_splitTerminators]
    refine ⟨?_, ih⟩
    rintro ⟨hstar, hslash⟩
    obtain ⟨rest, hrest⟩ := List.head?_eq_some_iff.mp hslash
    exact hne rest hstar hrest
  | case3 => exact apart_nil

/-- The spaces that are written in have no spaces next to them. -/
theorem Apart.splitTerminators {cs : List Char} (h : Apart ' ' ' ' cs) :
    Apart ' ' ' ' (splitTerminators cs) := by
  induction cs using splitTerminators.induct with
  | case1 cs ih =>
    have hcs := (apart_cons.mp (apart_cons.mp h).2).2
    rw [Text.splitTerminators, apart_cons, apart_cons, apart_cons]
    exact ⟨by simp, by simp, by simp, ih hcs⟩
  | case2 c cs hne ih =>
    obtain ⟨hc, hcs⟩ := apart_cons.mp h
    rw [splitTerminators.eq_2 _ _ hne, apart_cons, head?_splitTerminators]
    exact ⟨hc, ih hcs⟩
  | case3 => exact apart_nil

theorem splitTerminators_eq_self {cs : List Char} (h : Apart '*' '/' cs) :
    splitTerminators cs = cs := by
  induction cs using splitTerminators.induct with
  | case1 cs => exact absurd ⟨rfl, rfl⟩ (apart_cons.mp h).1
  | case2 c cs hne ih => rw [splitTerminators.eq_2 _ _ hne, ih (apart_cons.mp h).2]
  | case3 => rfl

/-! ## Runs of blanks -/

theorem collapse_of_visible {c : Char} (hc : isBlank c = false) (cs : List Char) :
    collapse (c :: cs) = c :: collapse cs := by
  rw [collapse, if_neg (by simp [hc])]

/-- A blank adds a space unless there is one already. -/
theorem collapse_of_blank {c : Char} (hc : isBlank c = true) (cs : List Char) :
    collapse (c :: cs) = collapse cs ∧ (collapse cs).head? = some ' ' ∨
      collapse (c :: cs) = ' ' :: collapse cs ∧ (collapse cs).head? ≠ some ' ' := by
  rw [collapse, if_pos hc]
  by_cases hspace : (collapse cs).head? = some ' '
  · exact .inl ⟨if_pos hspace, hspace⟩
  · exact .inr ⟨if_neg hspace, hspace⟩

theorem visible_collapse (cs : List Char) : visible (collapse cs) = visible cs := by
  induction cs with
  | nil => rfl
  | cons c cs ih =>
    have hspace : isBlank ' ' = true := by decide
    simp only [visible] at ih ⊢
    cases hc : isBlank c with
    | false => simp [collapse_of_visible hc, hc, ih]
    | true =>
      rcases collapse_of_blank hc cs with ⟨h, _⟩ | ⟨h, _⟩
      · simp [h, hc, ih]
      · simp [h, hc, hspace, ih]

theorem eq_space_of_mem_collapse {c : Char} {cs : List Char} (h : c ∈ collapse cs)
    (hc : isBlank c = true) : c = ' ' := by
  induction cs with
  | nil => cases h
  | cons d cs ih =>
    cases hd : isBlank d with
    | false =>
      rw [collapse_of_visible hd] at h
      rcases List.mem_cons.mp h with rfl | h
      · exact absurd hc (by simp [hd])
      · exact ih h
    | true =>
      rcases collapse_of_blank hd cs with ⟨heq, _⟩ | ⟨heq, _⟩
      · exact ih (heq ▸ h)
      · rw [heq] at h
        exact (List.mem_cons.mp h).elim id ih

theorem collapse_apart (cs : List Char) : Apart ' ' ' ' (collapse cs) := by
  induction cs with
  | nil => exact apart_nil
  | cons c cs ih =>
    cases hc : isBlank c with
    | false =>
      rw [collapse_of_visible hc, apart_cons]
      exact ⟨fun ⟨h, _⟩ => absurd hc (by rw [h]; decide), ih⟩
    | true =>
      rcases collapse_of_blank hc cs with ⟨heq, _⟩ | ⟨heq, hhead⟩
      · exact heq ▸ ih
      · rw [heq, apart_cons]
        exact ⟨fun h => hhead h.2, ih⟩

/-- The last character stays, unless it is blank. -/
theorem getLast?_collapse {cs : List Char} (h : ∀ c ∈ cs.getLast?, isBlank c = false) :
    (collapse cs).getLast? = cs.getLast? := by
  induction cs with
  | nil => rfl
  | cons c cs ih =>
    cases cs with
    | nil => rw [collapse_of_visible (h c rfl)]; rfl
    | cons d cs =>
      have hrest : (collapse (d :: cs)).getLast? = (d :: cs).getLast? := ih h
      rw [List.getLast?_cons_cons, ← hrest]
      cases hc : isBlank c with
      | false =>
        rw [collapse_of_visible hc, List.getLast?_cons, hrest, List.getLast?_cons, Option.getD_some]
      | true =>
        rcases collapse_of_blank hc (d :: cs) with ⟨heq, _⟩ | ⟨heq, _⟩
        · rw [heq]
        · rw [heq, List.getLast?_cons, hrest, List.getLast?_cons, Option.getD_some]

theorem collapse_isStripped {cs : List Char} (h : IsStripped isBlank cs) :
    IsStripped isBlank (collapse cs) := by
  refine ⟨?_, (getLast?_collapse h.2).symm ▸ h.2⟩
  cases cs with
  | nil => exact h.1
  | cons c cs =>
    rw [collapse_of_visible (h.1 c rfl)]
    exact h.1

theorem collapse_eq_self {cs : List Char} (hspaces : ∀ c ∈ cs, isBlank c = true → c = ' ')
    (h : Apart ' ' ' ' cs) : collapse cs = cs := by
  induction cs with
  | nil => rfl
  | cons c cs ih =>
    obtain ⟨hc, hcs⟩ := apart_cons.mp h
    obtain ⟨hspace, hspaces⟩ := List.forall_mem_cons.mp hspaces
    have hrest := ih hspaces hcs
    cases hblank : isBlank c with
    | false => rw [collapse_of_visible hblank, hrest]
    | true =>
      have hc' := hspace hblank
      rcases collapse_of_blank hblank cs with ⟨_, hhead⟩ | ⟨heq, _⟩
      · exact absurd ⟨hc', hrest ▸ hhead⟩ hc
      · rw [heq, hrest, hc']

/-! ## Ends -/

theorem isStripped_nil {p : Char → Bool} : IsStripped p [] :=
  ⟨fun _ h => (nomatch h), fun _ h => (nomatch h)⟩

theorem isStripped_splitTerminators {p : Char → Bool} {cs : List Char} (h : IsStripped p cs) :
    IsStripped p (splitTerminators cs) := by
  rw [IsStripped, head?_splitTerminators, getLast?_splitTerminators]
  exact h

theorem visible_strip (cs : List Char) : visible (strip isBlank cs) = visible cs :=
  filter_strip (fun c hc => by rw [hc]; rfl) cs

theorem visible_dropEndWhile (cs : List Char) : visible (dropEndWhile isBlank cs) = visible cs :=
  filter_dropEndWhile (fun c hc => by rw [hc]; rfl) cs

theorem strip_eq_nil_iff {cs : List Char} :
    strip isBlank cs = [] ↔ ∀ c ∈ cs, isBlank c = true := by
  constructor
  · intro h c hc
    have hnone : visible cs = [] := by rw [← visible_strip, h]; rfl
    simpa using List.filter_eq_nil_iff.mp hnone c hc
  · intro h
    rw [strip, List.dropWhile_eq_nil_iff.mpr h]
    rfl

theorem getLast?_dropEndWhile (p : Char → Bool) (cs : List Char) :
    ∀ c ∈ (dropEndWhile p cs).getLast?, p c = false := by
  intro c hc
  rw [dropEndWhile, List.getLast?_reverse] at hc
  have h := List.head?_dropWhile_not p cs.reverse
  rw [Option.mem_def.mp hc] at h
  simpa using h

theorem head?_dropEndWhile {p : Char → Bool} {c : Char} {cs : List Char} (h : cs.head? = some c)
    (hc : p c = false) : (dropEndWhile p cs).head? = some c := by
  obtain ⟨rest, rfl⟩ := List.head?_eq_some_iff.mp h
  obtain ⟨kept, hkept⟩ := strip_cons_of_stays hc rest
  rw [strip, List.dropWhile_cons_of_neg (by simp [hc])] at hkept
  rw [hkept, List.head?_cons]

/-! ## Joined texts -/

theorem joinWith_cons_cons (separator w v : List Char) (vs : List (List Char)) :
    joinWith separator (w :: v :: vs) = w ++ separator ++ joinWith separator (v :: vs) := rfl

theorem joinWith_eq_intercalate (separator : List Char) (ws : List (List Char)) :
    joinWith separator ws = separator.intercalate ws := by
  induction ws with
  | nil => rfl
  | cons w ws ih =>
    cases ws with
    | nil => exact (List.intercalate_singleton ..).symm
    | cons v vs => rw [joinWith_cons_cons, List.intercalate_cons_cons, ih]

theorem visible_joinWith {separator : List Char} (h : visible separator = [])
    (ws : List (List Char)) : visible (joinWith separator ws) = visible ws.flatten := by
  induction ws with
  | nil => rfl
  | cons w ws ih =>
    cases ws with
    | nil => exact congrArg visible (List.append_nil w).symm
    | cons v vs =>
      rw [joinWith_cons_cons, visible_append, visible_append, h, List.append_nil, ih,
        ← visible_append]
      rfl

theorem head?_joinWith (separator : List Char) {ws : List (List Char)} {w : List Char}
    (h : ws.head? = some w) (hne : w ≠ []) : (joinWith separator ws).head? = w.head? := by
  obtain ⟨rest, rfl⟩ := List.head?_eq_some_iff.mp h
  obtain ⟨after, hafter⟩ := joinWith_cons separator w rest
  rw [hafter, List.head?_append_of_ne_nil _ hne]

theorem getLast?_joinWith_of_last (separator : List Char) {ws : List (List Char)} {w : List Char}
    (h : ws.getLast? = some w) (hne : w ≠ []) :
    (joinWith separator ws).getLast? = w.getLast? := by
  induction ws with
  | nil => cases h
  | cons u ws ih =>
    cases ws with
    | nil =>
      obtain rfl : u = w := Option.some.inj h
      rfl
    | cons v vs =>
      have hlast : w.getLast? = some (w.getLast hne) := List.getLast?_eq_some_getLast hne
      rw [joinWith_cons_cons, List.getLast?_append, ih h, hlast, Option.some_or]

/-! ## Lines -/

theorem lines_feed (cs : List Char) : lines ('\n' :: cs) = [] :: lines cs := by
  rw [lines]

theorem lines_cons {c : Char} {cs : List Char} (hfeed : c ≠ '\n')
    (hreturn : ¬ (c = '\r' ∧ cs.head? = some '\n')) :
    lines (c :: cs) = match lines cs with
      | [] => [[c]]
      | l :: ls => (c :: l) :: ls :=
  lines.eq_4 c cs (fun _ hc hcs => hreturn ⟨hc, hcs ▸ rfl⟩) hfeed

theorem lines_of_single {cs : List Char} (h : IsSingleLine cs) (hne : cs ≠ []) :
    lines cs = [cs] := by
  induction cs with
  | nil => exact absurd rfl hne
  | cons c cs ih =>
    obtain ⟨hc, hcs⟩ := not_or.mp (List.mem_cons.not.mp h)
    have hreturn : ¬ (c = '\r' ∧ cs.head? = some '\n') :=
      fun h => hcs (List.mem_of_mem_head? h.2)
    rw [lines_cons (Ne.symm hc) hreturn]
    cases cs with
    | nil => rfl
    | cons d cs => rw [ih hcs (List.cons_ne_nil _ _)]

/-- A line that does not end in a carriage return is read up to its line feed. -/
theorem lines_append {line : List Char} (h : IsSingleLine line) (hlast : line.getLast? ≠ some '\r')
    (rest : List Char) : lines (line ++ '\n' :: rest) = line :: lines rest := by
  induction line with
  | nil => exact lines_feed rest
  | cons c line ih =>
    obtain ⟨hc, hline⟩ := not_or.mp (List.mem_cons.not.mp h)
    have hreturn : ¬ (c = '\r' ∧ (line ++ '\n' :: rest).head? = some '\n') := by
      rintro ⟨rfl, hhead⟩
      cases line with
      | nil => exact hlast rfl
      | cons d line => exact hline (List.mem_of_mem_head? hhead)
    rw [List.cons_append, lines_cons (Ne.symm hc) hreturn]
    cases line with
    | nil => rw [List.nil_append, lines_feed]
    | cons d line => rw [ih hline hlast]

/-- Lines that are joined are read again, unless the last one is empty. -/
theorem lines_joinWith {ls : List (List Char)} (h : ∀ line ∈ ls, IsSingleLine line)
    (hreturn : ∀ line ∈ ls, line.getLast? ≠ some '\r') (hlast : ∀ line ∈ ls.getLast?, line ≠ []) :
    lines (joinWith ['\n'] ls) = ls := by
  induction ls with
  | nil => rfl
  | cons line ls ih =>
    obtain ⟨hline, hls⟩ := List.forall_mem_cons.mp h
    obtain ⟨hend, hreturn⟩ := List.forall_mem_cons.mp hreturn
    cases ls with
    | nil => exact lines_of_single hline (hlast line rfl)
    | cons next ls =>
      rw [joinWith_cons_cons, List.append_assoc, List.singleton_append, lines_append hline hend,
        ih hls hreturn hlast]

theorem hasLines_lines (cs : List Char) : HasLines cs (lines cs) := by
  induction cs using lines.induct with
  | case1 => exact .empty
  | case2 cs ih =>
    rw [lines]
    exact .pair ih
  | case3 cs ih =>
    rw [lines]
    exact .feed ih
  | case4 c cs hreturn hfeed hnil ih =>
    rw [lines.eq_4 c cs hreturn hfeed, hnil]
    rw [hnil] at ih
    cases ih
    exact .last hfeed
  | case5 c cs hreturn hfeed first others hcons ih =>
    rw [lines.eq_4 c cs hreturn hfeed, hcons]
    exact .char hfeed (hcons ▸ ih)

namespace HasLines

variable {cs : List Char} {ls : List (List Char)}

theorem eq_nil_iff (h : HasLines cs ls) : ls = [] ↔ cs = [] := by
  cases h <;> simp

/-- Reading lines loses line ends only. -/
theorem visible_eq (h : HasLines cs ls) : visible ls.flatten = visible cs := by
  induction h with
  | empty => rfl
  | feed _ ih => exact ih
  | pair _ ih => exact ih
  | last => rfl
  | @char c cs first others _ _ ih =>
    have hcons (ds : List Char) : visible (c :: ds) = visible [c] ++ visible ds :=
      List.filter_append [c] ds
    rw [List.flatten_cons, List.cons_append, hcons, ← List.flatten_cons, ih, ← hcons]

/-- The first line begins with something visible if the text does. -/
theorem first_visible (h : HasLines cs ls) (hcs : ∀ c ∈ cs.head?, isBlank c = false) :
    ∀ line ∈ ls.head?, ∃ c ∈ line.head?, isBlank c = false := by
  cases h with
  | empty => exact fun _ hline => nomatch hline
  | feed => exact absurd (hcs '\n' rfl) (by decide)
  | pair => exact absurd (hcs '\r' rfl) (by decide)
  | @last c _ | @char c _ _ _ _ _ =>
    rintro line hline
    obtain rfl := Option.some.inj hline
    exact ⟨c, rfl, hcs c rfl⟩

/-- The last line ends as the text does. -/
theorem exists_last {c : Char} (h : HasLines cs ls) (hc : cs.getLast? = some c)
    (hfeed : c ≠ '\n') : ∃ line, ls.getLast? = some line ∧ line.getLast? = some c := by
  induction h with
  | empty => cases hc
  | feed h ih | pair h ih =>
    cases h with
    | empty => exact absurd (Option.some.inj hc).symm hfeed
    | _ =>
      obtain ⟨line, hline, hlast⟩ := ih hc
      exact ⟨line, hline, hlast⟩
  | last => exact ⟨_, rfl, hc⟩
  | @char d cs first others _ h ih =>
    have hrest : cs.getLast? = some c := by cases h <;> exact hc
    obtain ⟨line, hline, hlast⟩ := ih hrest
    cases others with
    | nil =>
      obtain rfl : first = line := Option.some.inj hline
      exact ⟨d :: first, rfl, by rw [List.getLast?_cons, hlast, Option.getD_some]⟩
    | cons next others => exact ⟨line, hline, hlast⟩

/-- The last line ends with something visible if the text does. -/
theorem last_visible (h : HasLines cs ls) (hcs : ∀ c ∈ cs.getLast?, isBlank c = false) :
    ∀ line ∈ ls.getLast?, ∃ c ∈ line.getLast?, isBlank c = false := by
  intro line hline
  cases hend : cs.getLast? with
  | none =>
    rw [h.eq_nil_iff.mpr (List.getLast?_eq_none_iff.mp hend)] at hline
    cases hline
  | some c =>
    have hc := hcs c hend
    have hfeed : c ≠ '\n' := by
      rintro rfl
      exact absurd hc (by decide)
    obtain ⟨last, hlast, hends⟩ := h.exists_last hend hfeed
    obtain rfl := Option.mem_unique hlast hline
    exact ⟨c, hends, hc⟩

/-- Every line feed begins another line, unless it is the last character. -/
theorem length_eq (h : HasLines cs ls) (hne : cs ≠ []) (hlast : cs.getLast? ≠ some '\n') :
    ls.length = cs.count '\n' + 1 := by
  induction h with
  | empty => exact absurd rfl hne
  | feed h ih | pair h ih =>
    cases h with
    | empty => exact absurd rfl hlast
    | _ => simpa [List.count_cons] using ih (List.cons_ne_nil _ _) hlast
  | last hc => simp [hc]
  | char hc h ih =>
    have hrest := ih (by cases h <;> exact List.cons_ne_nil _ _) (by cases h <;> exact hlast)
    rw [List.count_cons_of_ne hc, ← hrest]
    rfl

end HasLines

end ClientForge.Text
