import ClientForge.Codegen.UrlPath
import ClientForge.Proofs.ArgumentNames

/-!
The placeholders of a path. A placeholder is a brace, a name and a closing brace, and it starts
wherever these stand: since names hold no braces, no two of them overlap, and the pass over a path
that keeps what follows an open brace finds them all. What is written in the place of a name has no
brace either; so the same placeholders are found in the new path, except those whose new name is
empty.

Results:
1. `scan_replaces`, `Replaces.unique`: the pass replaces the placeholders from left to right.
2. `mem_scan_iff`: it finds every placeholder.
3. `scan_written`: the pieces of the new path.
4. `argument_of_named`: the argument of a placeholder is the identifier of its name.
5. `curate_rewrites_path`: what becomes of a path.
-/

namespace ClientForge.Codegen.UrlPath

open Api.Curation

/-! ## Definitions -/

def isBrace (c : Char) : Bool := c == '\x7b' || c == '\x7d'

/-- A text without braces. -/
def IsPlain (cs : List Char) : Prop := ∀ c ∈ cs, isBrace c = false

/-- What a placeholder can hold. -/
structure IsName (name : List Char) : Prop where
  nonempty : name ≠ []
  plain : IsPlain name

/-- A placeholder of this name stands somewhere in the text. -/
def HasPlaceholder (name cs : List Char) : Prop :=
  IsName name ∧ ∃ before after, cs = before ++ '\x7b' :: (name ++ '\x7d' :: after)

/-- The text starts with a placeholder. -/
def StartsPlaceholder (cs : List Char) : Prop :=
  ∃ name after, IsName name ∧ cs = '\x7b' :: (name ++ '\x7d' :: after)

/-- From left to right, the name of every placeholder is replaced, and what was replaced is passed
over; a character where no placeholder starts is kept. -/
inductive Replaces (f : List Char → List Char) : List Char → List Char → Prop
  | nil : Replaces f [] []
  | placeholder {name rest text : List Char} : IsName name → Replaces f rest text →
      Replaces f ('\x7b' :: (name ++ '\x7d' :: rest)) ('\x7b' :: (f name ++ '\x7d' :: text))
  | literal {c : Char} {rest text : List Char} : ¬ StartsPlaceholder (c :: rest) →
      Replaces f rest text → Replaces f (c :: rest) (c :: text)

/-- The text of pieces, with new names. -/
def textOf (f : List Char → List Char) (pieces : List Piece) : List Char :=
  pieces.flatMap (Piece.mapName f)

/-- The piece that is read where the name has been replaced: without a name it is no placeholder. -/
def Piece.rename (f : List Char → List Char) : Piece → Piece
  | .literal text => .literal text
  | .placeholder name => if f name = [] then .literal ['\x7b', '\x7d'] else .placeholder (f name)

/-! ## Braces -/

theorem isBrace_iff {c : Char} : isBrace c = true ↔ c = '\x7b' ∨ c = '\x7d' := by
  rw [isBrace, Bool.or_eq_true, beq_iff_eq, beq_iff_eq]

/-- The first brace of a text is in one place only. -/
theorem plain_append_inj {xs ys rest rest' : List Char} {c d : Char} (hxs : IsPlain xs)
    (hys : IsPlain ys) (hc : isBrace c = true) (hd : isBrace d = true)
    (h : xs ++ c :: rest = ys ++ d :: rest') : xs = ys ∧ c = d ∧ rest = rest' := by
  induction xs generalizing ys with
  | nil =>
    cases ys with
    | nil =>
      obtain ⟨rfl, rfl⟩ := List.cons.inj h
      exact ⟨rfl, rfl, rfl⟩
    | cons y ys =>
      obtain ⟨rfl, _⟩ := List.cons.inj h
      rw [hys c (.head _)] at hc
      cases hc
  | cons x xs ih =>
    obtain ⟨hx, hxs⟩ := List.forall_mem_cons.mp hxs
    cases ys with
    | nil =>
      obtain ⟨rfl, _⟩ := List.cons.inj h
      rw [hx] at hd
      cases hd
    | cons y ys =>
      obtain ⟨rfl, htail⟩ := List.cons.inj h
      obtain ⟨rfl, hrest⟩ := ih hxs (List.forall_mem_cons.mp hys).2 htail
      exact ⟨rfl, hrest⟩

theorem ne_open {c : Char} (h : isBrace c = false) : c ≠ '\x7b' := by
  rintro rfl
  cases h

theorem ne_close {c : Char} (h : isBrace c = false) : c ≠ '\x7d' := by
  rintro rfl
  cases h

/-! ## Where no placeholder starts -/

theorem not_starts_of_ne {c : Char} {cs : List Char} (h : c ≠ '\x7b') :
    ¬ StartsPlaceholder (c :: cs) := by
  rintro ⟨_, _, _, heq⟩
  exact h (List.cons.inj heq).1

theorem not_starts_unclosed {plain : List Char} (hplain : IsPlain plain) :
    ¬ StartsPlaceholder ('\x7b' :: plain) := by
  rintro ⟨name, after, _, heq⟩
  have hclose : '\x7d' ∈ plain := by
    rw [(List.cons.inj heq).2]
    exact List.mem_append_right _ (.head _)
  exact ne_close (hplain _ hclose) rfl

theorem not_starts_reopened {plain : List Char} (hplain : IsPlain plain) (cs : List Char) :
    ¬ StartsPlaceholder ('\x7b' :: (plain ++ '\x7b' :: cs)) := by
  rintro ⟨name, after, hname, heq⟩
  obtain ⟨_, hbrace, _⟩ := plain_append_inj hplain hname.plain rfl rfl (List.cons.inj heq).2
  exact absurd hbrace (by decide)

theorem not_starts_empty (cs : List Char) : ¬ StartsPlaceholder ('\x7b' :: '\x7d' :: cs) := by
  rintro ⟨name, after, hname, heq⟩
  have hnil : IsPlain [] := nofun
  obtain ⟨hempty, _⟩ := plain_append_inj hnil hname.plain rfl rfl (List.cons.inj heq).2
  exact hname.nonempty hempty.symm

/-! ## Replaced placeholders -/

theorem Replaces.unique {f : List Char → List Char} {cs text text' : List Char}
    (h : Replaces f cs text) (h' : Replaces f cs text') : text = text' := by
  induction h generalizing text' with
  | nil =>
    cases h' with
    | nil => rfl
  | @placeholder name rest text hname _ ih =>
    generalize hcs : '\x7b' :: (name ++ '\x7d' :: rest) = cs at h'
    cases h' with
    | nil => cases hcs
    | @placeholder name' rest' text' hname' h' =>
      obtain ⟨rfl, _, rfl⟩ := plain_append_inj hname.plain hname'.plain rfl rfl (List.cons.inj hcs).2
      rw [ih h']
    | literal hnone _ => exact absurd ⟨name, rest, hname, hcs.symm⟩ hnone
  | @literal c rest text hnone _ ih =>
    generalize hcs : c :: rest = cs at h'
    cases h' with
    | nil => cases hcs
    | placeholder hname' _ => exact absurd ⟨_, _, hname', hcs⟩ hnone
    | literal _ h' =>
      obtain ⟨rfl, rfl⟩ := List.cons.inj hcs
      rw [ih h']

/-- Where no brace opens, nothing is replaced. -/
theorem Replaces.append_plain {f : List Char → List Char} {plain rest text : List Char}
    (hplain : IsPlain plain) (h : Replaces f rest text) :
    Replaces f (plain ++ rest) (plain ++ text) := by
  induction plain with
  | nil => exact h
  | cons c plain ih =>
    obtain ⟨hc, hplain⟩ := List.forall_mem_cons.mp hplain
    exact .literal (not_starts_of_ne (ne_open hc)) (ih hplain)

/-! ## The pass -/

theorem scan_plain {plain : List Char} (hplain : IsPlain plain) (opened rest : List Char) :
    scan (some opened) (plain ++ rest) = scan (some (plain.reverse ++ opened)) rest := by
  induction plain generalizing opened with
  | nil => rfl
  | cons c plain ih =>
    obtain ⟨hc, hplain⟩ := List.forall_mem_cons.mp hplain
    rw [List.cons_append, scan, if_neg (ne_open hc), if_neg (ne_close hc), ih hplain,
      List.reverse_cons, List.append_assoc, List.singleton_append]

/-- A brace is kept until it is known whether it opens a placeholder. -/
theorem scan_open {plain : List Char} (hplain : IsPlain plain) (rest : List Char) :
    scan none ('\x7b' :: (plain ++ rest)) = scan (some plain.reverse) rest := by
  rw [scan, if_pos rfl, scan_plain hplain, List.append_nil]

theorem scan_other {c : Char} (hc : c ≠ '\x7b') (cs : List Char) :
    scan none (c :: cs) = .literal [c] :: scan none cs := by
  rw [scan, if_neg hc]

theorem scan_unclosed {plain : List Char} (hplain : IsPlain plain) :
    scan none ('\x7b' :: plain) = [.literal ('\x7b' :: plain)] := by
  have hscan := scan_open hplain []
  rwa [List.append_nil, scan, List.reverse_reverse] at hscan

theorem scan_reopened {plain : List Char} (hplain : IsPlain plain) (cs : List Char) :
    scan none ('\x7b' :: (plain ++ '\x7b' :: cs)) =
      .literal ('\x7b' :: plain) :: scan none ('\x7b' :: cs) := by
  have hopened : scan none ('\x7b' :: cs) = scan (some []) cs := by rw [scan, if_pos rfl]
  rw [scan_open hplain, hopened, scan, if_pos rfl, List.reverse_reverse]

theorem scan_empty (cs : List Char) :
    scan none ('\x7b' :: '\x7d' :: cs) = .literal ['\x7b', '\x7d'] :: scan none cs := rfl

theorem scan_placeholder {name : List Char} (hname : IsName name) (cs : List Char) :
    scan none ('\x7b' :: (name ++ '\x7d' :: cs)) = .placeholder name :: scan none cs := by
  have hne : ¬ name.reverse.isEmpty = true := by simpa using hname.nonempty
  rw [scan_open hname.plain, scan, if_neg (by decide), if_pos rfl, if_neg hne, List.reverse_reverse]

/-- How a text can begin: with another character than an open brace, or with an open brace and what
stands before the next brace, if there is one. -/
@[elab_as_elim]
theorem placeholder_induction {motive : List Char → Prop} (nil : motive [])
    (other : ∀ c cs, c ≠ '\x7b' → motive cs → motive (c :: cs))
    (unclosed : ∀ plain, IsPlain plain → motive ('\x7b' :: plain))
    (reopened : ∀ plain cs, IsPlain plain → motive ('\x7b' :: cs) →
      motive ('\x7b' :: (plain ++ '\x7b' :: cs)))
    (empty : ∀ cs, motive cs → motive ('\x7b' :: '\x7d' :: cs))
    (placeholder : ∀ name cs, IsName name → motive cs → motive ('\x7b' :: (name ++ '\x7d' :: cs)))
    (cs : List Char) : motive cs := by
  induction hlength : cs.length using Nat.strong_induction_on generalizing cs with
  | _ n ih =>
  cases cs with
  | nil => exact nil
  | cons c cs =>
    have htail (ds : List Char) (h : ds.length ≤ cs.length) : motive ds :=
      ih ds.length (by rw [← hlength]; exact Nat.lt_succ_of_le h) ds rfl
    by_cases hc : c = '\x7b'
    · subst hc
      have hplain : IsPlain (cs.takeWhile (!isBrace ·)) := fun c hc => by
        simpa using List.mem_takeWhile_imp hc
      have hsplit := List.takeWhile_append_dropWhile (p := (!isBrace ·)) (l := cs)
      have hhead := List.head?_dropWhile_not (!isBrace ·) cs
      generalize cs.takeWhile (!isBrace ·) = plain at hplain hsplit
      cases hrest : cs.dropWhile (!isBrace ·) with
      | nil =>
        rw [hrest, List.append_nil] at hsplit
        exact hsplit ▸ unclosed plain hplain
      | cons d ds =>
        rw [hrest] at hsplit hhead
        have hbrace : isBrace d = true := by simpa using hhead
        subst hsplit
        rcases isBrace_iff.mp hbrace with rfl | rfl
        · exact reopened plain ds hplain (htail _ (by simp))
        · have hds : motive ds := htail ds (by simp; omega)
          cases plain with
          | nil => exact empty ds hds
          | cons x xs => exact placeholder (x :: xs) ds ⟨List.cons_ne_nil x xs, hplain⟩ hds
    · exact other c cs hc (htail cs le_rfl)

/-! ## The text of the pieces -/

theorem textOf_literal (f : List Char → List Char) (text : List Char) (pieces : List Piece) :
    textOf f (.literal text :: pieces) = text ++ textOf f pieces := List.flatMap_cons

theorem textOf_placeholder (f : List Char → List Char) (name : List Char) (pieces : List Piece) :
    textOf f (.placeholder name :: pieces) = '\x7b' :: (f name ++ '\x7d' :: textOf f pieces) := by
  rw [textOf, List.flatMap_cons, Piece.mapName, List.cons_append, List.cons_append,
    List.append_assoc, List.singleton_append]
  rfl

/-- The pass replaces the placeholders from left to right. -/
theorem scan_replaces (f : List Char → List Char) (cs : List Char) :
    Replaces f cs (textOf f (scan none cs)) := by
  induction cs using placeholder_induction with
  | nil => exact .nil
  | other c cs hc ih =>
    rw [scan_other hc, textOf_literal]
    exact .literal (not_starts_of_ne hc) ih
  | unclosed plain hplain =>
    have hrest := Replaces.append_plain hplain (.nil (f := f))
    rw [List.append_nil] at hrest
    rw [scan_unclosed hplain, textOf_literal, textOf, List.flatMap_nil, List.append_nil]
    exact .literal (not_starts_unclosed hplain) hrest
  | reopened plain cs hplain ih =>
    rw [scan_reopened hplain, textOf_literal]
    exact .literal (not_starts_reopened hplain cs) (.append_plain hplain ih)
  | empty cs ih =>
    rw [scan_empty, textOf_literal]
    exact .literal (not_starts_empty cs) (.literal (not_starts_of_ne (by decide)) ih)
  | placeholder name cs hname ih =>
    rw [scan_placeholder hname, textOf_placeholder]
    exact .placeholder hname ih

/-- What starts with an open brace still does. -/
theorem textOf_open (f : List Char → List Char) (cs : List Char) :
    ∃ rest, textOf f (scan none ('\x7b' :: cs)) = '\x7b' :: rest := by
  have h := scan_replaces f ('\x7b' :: cs)
  generalize textOf f (scan none ('\x7b' :: cs)) = text at h
  generalize hopen : '\x7b' :: cs = ds at h
  cases h with
  | nil => cases hopen
  | placeholder => exact ⟨_, rfl⟩
  | literal => exact ⟨_, by rw [(List.cons.inj hopen).1]⟩

/-- The pieces of the new text. -/
theorem scan_written {f : List Char → List Char} (hf : ∀ name, IsPlain (f name)) (cs : List Char) :
    scan none (textOf f (scan none cs)) = (scan none cs).map (Piece.rename f) := by
  induction cs using placeholder_induction with
  | nil => rfl
  | other c cs hc ih =>
    rw [scan_other hc, textOf_literal, List.singleton_append, scan_other hc, ih, List.map_cons]
    rfl
  | unclosed plain hplain =>
    rw [scan_unclosed hplain, textOf_literal, textOf, List.flatMap_nil, List.append_nil,
      scan_unclosed hplain]
    rfl
  | reopened plain cs hplain ih =>
    obtain ⟨rest, hrest⟩ := textOf_open f cs
    rw [hrest] at ih
    rw [scan_reopened hplain, textOf_literal, hrest, List.cons_append, scan_reopened hplain, ih,
      List.map_cons]
    rfl
  | empty cs ih =>
    rw [scan_empty, textOf_literal, List.cons_append, List.singleton_append, scan_empty, ih,
      List.map_cons]
    rfl
  | placeholder name cs hname ih =>
    rw [scan_placeholder hname, textOf_placeholder, List.map_cons, Piece.rename, ← ih]
    split_ifs with hempty
    · rw [hempty, List.nil_append, scan_empty]
    · exact scan_placeholder ⟨hempty, hf name⟩ _

/-! ## Which placeholders there are -/

theorem hasPlaceholder_cons_iff {name cs : List Char} {c : Char} :
    HasPlaceholder name (c :: cs) ↔
      (IsName name ∧ ∃ after, c :: cs = '\x7b' :: (name ++ '\x7d' :: after)) ∨
        HasPlaceholder name cs := by
  constructor
  · rintro ⟨hname, before, after, heq⟩
    cases before with
    | nil => exact .inl ⟨hname, after, heq⟩
    | cons b before => exact .inr ⟨hname, before, after, (List.cons.inj heq).2⟩
  · rintro (⟨hname, after, heq⟩ | ⟨hname, before, after, rfl⟩)
    · exact ⟨hname, [], after, heq⟩
    · exact ⟨hname, c :: before, after, rfl⟩

theorem hasPlaceholder_cons_of_not_starts {name cs : List Char} {c : Char}
    (h : ¬ StartsPlaceholder (c :: cs)) :
    HasPlaceholder name (c :: cs) ↔ HasPlaceholder name cs := by
  rw [hasPlaceholder_cons_iff, or_iff_right]
  rintro ⟨hname, after, heq⟩
  exact h ⟨name, after, hname, heq⟩

theorem hasPlaceholder_append_plain {name plain : List Char} (hplain : IsPlain plain)
    (cs : List Char) : HasPlaceholder name (plain ++ cs) ↔ HasPlaceholder name cs := by
  induction plain with
  | nil => rfl
  | cons c plain ih =>
    obtain ⟨hc, hplain⟩ := List.forall_mem_cons.mp hplain
    rw [List.cons_append, hasPlaceholder_cons_of_not_starts (not_starts_of_ne (ne_open hc)),
      ih hplain]

theorem not_hasPlaceholder_nil (name : List Char) : ¬ HasPlaceholder name [] := by
  rintro ⟨_, before, after, heq⟩
  exact List.append_ne_nil_of_right_ne_nil before (List.cons_ne_nil _ _) heq.symm

/-- The pass finds every placeholder: they do not overlap. -/
theorem mem_scan_iff (name cs : List Char) :
    .placeholder name ∈ scan none cs ↔ HasPlaceholder name cs := by
  have hliteral (text : List Char) (pieces : List Piece) :
      .placeholder name ∈ Piece.literal text :: pieces ↔ .placeholder name ∈ pieces := by
    rw [List.mem_cons, or_iff_right nofun]
  induction cs using placeholder_induction with
  | nil => exact iff_of_false nofun (not_hasPlaceholder_nil name)
  | other c cs hc ih =>
    rw [scan_other hc, hliteral, hasPlaceholder_cons_of_not_starts (not_starts_of_ne hc)]
    exact ih
  | unclosed plain hplain =>
    rw [scan_unclosed hplain, hliteral,
      hasPlaceholder_cons_of_not_starts (not_starts_unclosed hplain), ← List.append_nil plain,
      hasPlaceholder_append_plain hplain]
    exact iff_of_false nofun (not_hasPlaceholder_nil name)
  | reopened plain cs hplain ih =>
    rw [scan_reopened hplain, hliteral,
      hasPlaceholder_cons_of_not_starts (not_starts_reopened hplain cs),
      hasPlaceholder_append_plain hplain]
    exact ih
  | empty cs ih =>
    rw [scan_empty, hliteral, hasPlaceholder_cons_of_not_starts (not_starts_empty cs),
      hasPlaceholder_cons_of_not_starts (not_starts_of_ne (by decide))]
    exact ih
  | placeholder found cs hfound ih =>
    have hhere : (IsName name ∧ ∃ after, '\x7b' :: (found ++ '\x7d' :: cs) =
        '\x7b' :: (name ++ '\x7d' :: after)) ↔ name = found := by
      constructor
      · rintro ⟨hname, after, heq⟩
        exact (plain_append_inj hfound.plain hname.plain rfl rfl (List.cons.inj heq).2).1.symm
      · rintro rfl
        exact ⟨hfound, cs, rfl⟩
    rw [scan_placeholder hfound, List.mem_cons, Piece.placeholder.injEq, hasPlaceholder_cons_iff,
      hhere, hasPlaceholder_append_plain hfound.plain,
      hasPlaceholder_cons_of_not_starts (not_starts_of_ne (by decide))]
    exact or_congr_right ih

theorem hasPlaceholders_iff (path : String) :
    hasPlaceholders path = true ↔ ∃ name, HasPlaceholder name path.toList := by
  rw [hasPlaceholders, pieces, List.any_eq_true]
  constructor
  · rintro ⟨piece, hmem, hplaceholder⟩
    cases piece with
    | literal => cases hplaceholder
    | placeholder name => exact ⟨name, (mem_scan_iff name _).mp hmem⟩
  · rintro ⟨name, hname⟩
    exact ⟨.placeholder name, (mem_scan_iff name _).mpr hname, rfl⟩

/-! ## New names -/

/-- Without a new name a placeholder is written as two braces. -/
theorem textOf_rename {f : List Char → List Char} (hidem : ∀ name, f (f name) = f name)
    (pieces : List Piece) : textOf f (pieces.map (Piece.rename f)) = textOf f pieces := by
  induction pieces with
  | nil => rfl
  | cons piece pieces ih =>
    cases piece with
    | literal text => rw [List.map_cons, Piece.rename, textOf_literal, textOf_literal, ih]
    | placeholder name =>
      rw [List.map_cons, Piece.rename]
      split_ifs with hempty
      · rw [textOf_literal, textOf_placeholder, ih, hempty]
        rfl
      · rw [textOf_placeholder, textOf_placeholder, ih, hidem]

theorem any_rename_iff (f : List Char → List Char) (pieces : List Piece) :
    (pieces.map (Piece.rename f)).any Piece.isPlaceholder = true ↔
      ∃ name, .placeholder name ∈ pieces ∧ f name ≠ [] := by
  rw [List.any_map, List.any_eq_true]
  constructor
  · rintro ⟨piece, hmem, hplaceholder⟩
    cases piece with
    | literal => cases hplaceholder
    | placeholder name =>
      refine ⟨name, hmem, fun hempty => ?_⟩
      rw [Function.comp_apply, Piece.rename, if_pos hempty] at hplaceholder
      cases hplaceholder
  · rintro ⟨name, hmem, hne⟩
    refine ⟨.placeholder name, hmem, ?_⟩
    rw [Function.comp_apply, Piece.rename, if_neg hne]
    rfl

/-! ## Arguments -/

/-- The identifier of a name. -/
def argumentName (name : List Char) : List Char :=
  (Naming.parameterName (String.ofList name)).toList

theorem argumentName_plain (name : List Char) : IsPlain (argumentName name) := by
  intro c hc
  rw [Bool.eq_false_iff]
  intro hbrace
  have hword := Naming.parameterName_word hc
  rcases isBrace_iff.mp hbrace with rfl | rfl
  · exact absurd hword (by simp [Naming.IsWordChar])
  · exact absurd hword (by simp [Naming.IsWordChar])

theorem argumentName_argumentName (name : List Char) :
    argumentName (argumentName name) = argumentName name := by
  rw [argumentName, argumentName, String.ofList_toList, Naming.parameterName_parameterName]

theorem argumentName_ne_nil_iff (name : List Char) :
    argumentName name ≠ [] ↔ ∃ c ∈ name, c.isAlpha = true := by
  rw [argumentName, ne_eq, String.toList_eq_nil_iff, Naming.parameterName_eq_empty_iff,
    String.toList_ofList]
  push Not
  simp

/-- The lookup and the fallback agree. -/
theorem argument_of_named {list : List Api.Parameter} (hnamed : ∀ p ∈ list, IsNamed p)
    (name : String) : argument list name = Naming.parameterName name := by
  rw [argument]
  split
  · next p hfind =>
    have hmatch := List.find?_some hfind
    simp only [Bool.and_eq_true, beq_iff_eq] at hmatch
    rw [hnamed p (List.mem_of_find?_eq_some hfind), hmatch.2]
  · rfl

theorem withArguments_of_named {list : List Api.Parameter} (hnamed : ∀ p ∈ list, IsNamed p)
    (path : String) :
    (withArguments list path).toList = textOf argumentName (scan none path.toList) := by
  have hargument : (fun name => (argument list (String.ofList name)).toList) = argumentName :=
    funext fun name => congrArg String.toList (argument_of_named hnamed _)
  rw [withArguments, String.toList_ofList, hargument]
  rfl

/-- Every parameter of the final list has the identifier of its name. -/
theorem curate_named {table : Api.ReferenceTable} {rules : Api.ConvenienceRules}
    {declared : List Json} {operation : Json} {curated : Api.Curated}
    (hrules : ∀ rule ∈ rules, ∀ p ∈ rule.replacements, IsNamed p)
    (success : Api.curate table rules declared operation = .ok curated) :
    ∀ p ∈ curated.list, IsNamed p := by
  obtain ⟨resolved, hresolves⟩ := curate_resolves success
  have harranges := hresolves.arranges success
  have hresolved := hresolves.forall_mem hrules fun _ _ => resolve_named
  exact fun p hp => forall_candidates hresolved payload_named selector_named p
    (harranges.mem_iff.mp hp).mem

/-- The identifier of a declared parameter is the one of its name as it is written. -/
theorem resolve_ident {table : Api.ReferenceTable} {d value : Json} {origin : Option String}
    {p : Api.Parameter} {name : String} (hdefinition : definition table d = .ok (value, origin))
    (hname : value.string? "name" = some name) (hp : resolve table d = .ok p) :
    p.ident = Naming.parameterName name := by
  obtain ⟨_, _, hdefinition', hdescribe⟩ := resolve_ok hp
  rw [hdefinition] at hdefinition'
  cases hdefinition'
  obtain ⟨trimmed, _, _, htrimmed, _, _, rfl⟩ := describe_ok hdescribe
  rw [nameOf, hname] at htrimmed
  rw [described, ← Except.ok.inj htrimmed, Naming.parameterName_trim]

/-- What becomes of a path once the arguments of a final list stand in it. Every placeholder, from
left to right, names the identifier of what it held, and nothing else is changed. Looking a name up
makes no difference, with blanks around it where it is declared or in the path, or without. A
placeholder without identifier is none any more; and there is nothing left to be replaced. -/
structure RewritesPath (table : Api.ReferenceTable) (list : List Api.Parameter) (path : String) :
    Prop where
  replaces_iff : ∀ text, Replaces argumentName path.toList text ↔
    text = (withArguments list path).toList
  argument_eq : ∀ name, argument list name = Naming.parameterName name
  padded : ∀ p ∈ list, ∀ name, Text.trim name = Text.trim p.name → argument list name = p.ident
  declared : ∀ d value origin name p, definition table d = .ok (value, origin) →
    value.string? "name" = some name → resolve table d = .ok p →
    ∀ written, Text.trim written = Text.trim name → argument list written = p.ident
  pieces_eq : pieces (withArguments list path) = (pieces path).map (Piece.rename argumentName)
  matches_iff : hasPlaceholders (withArguments list path) = true ↔
    ∃ name, HasPlaceholder name path.toList ∧ ∃ c ∈ name, c.isAlpha = true
  placeholders_iff : hasPlaceholders (withArguments list path) = true ↔
    ∃ name, HasPlaceholder name (withArguments list path).toList
  stable : withArguments list (withArguments list path) = withArguments list path

theorem rewritesPath (table : Api.ReferenceTable) {list : List Api.Parameter}
    (hnamed : ∀ p ∈ list, IsNamed p) (path : String) : RewritesPath table list path := by
  have htext := withArguments_of_named hnamed
  have hpieces : pieces (withArguments list path) =
      (pieces path).map (Piece.rename argumentName) := by
    rw [pieces, htext]
    exact scan_written argumentName_plain path.toList
  have hblanks {name written : String} (h : Text.trim written = Text.trim name) :
      argument list written = Naming.parameterName name := by
    rw [argument_of_named hnamed, ← Naming.parameterName_trim, h, Naming.parameterName_trim]
  refine ⟨fun text => ?_, argument_of_named hnamed, ?_, ?_, hpieces, ?_, hasPlaceholders_iff _, ?_⟩
  · rw [htext]
    constructor
    · exact fun h => h.unique (scan_replaces argumentName path.toList)
    · rintro rfl
      exact scan_replaces argumentName path.toList
  · exact fun p hp name htrim => (hblanks htrim).trans (hnamed p hp).symm
  · intro d value origin name p hdefinition hname hp written htrim
    exact (hblanks htrim).trans (resolve_ident hdefinition hname hp).symm
  · rw [hasPlaceholders, hpieces, any_rename_iff]
    exact exists_congr fun name => and_congr (mem_scan_iff name _) (argumentName_ne_nil_iff name)
  · apply String.toList_injective
    rw [htext, ← pieces, hpieces, textOf_rename argumentName_argumentName, htext]
    rfl

/-- What becomes of any path, for the final list of any curation. -/
theorem curate_rewrites_path {table : Api.ReferenceTable} {rules : Api.ConvenienceRules}
    {declared : List Json} {operation : Json} {curated : Api.Curated}
    (hrules : rules = .standard ∨ rules = [])
    (success : Api.curate table rules declared operation = .ok curated) (path : String) :
    RewritesPath table curated.list path := by
  refine rewritesPath table (curate_named ?_ success) path
  rcases hrules with rfl | rfl
  · exact standard_named
  · exact nofun

/-- A path parameter with blanks around its name. -/
def paddedParameters : List Json :=
  [.object [("name", .string " itemId "), ("in", .string "path")]]

/-- Placeholders next to braces that open none or close none, and one without a letter. -/
def bracedPath : String :=
  "/a/\x7b itemId \x7d\x7b\x7bitemId\x7d/\x7b1\x7d\x7b\x7d/\x7bx\x7btype\x7db\x7d/\x7bc"

theorem curate_rewrites_path_braced :
    ∃ curated, Api.curate ⟨[]⟩ .standard paddedParameters (.object []) = .ok curated ∧
      curated.list.map (·.name) = ["itemId"] ∧
      withArguments curated.list bracedPath =
        "/a/\x7bitem_id\x7d\x7b\x7bitem_id\x7d/\x7b\x7d\x7b\x7d/\x7bx\x7btype_\x7db\x7d/\x7bc" ∧
      RewritesPath ⟨[]⟩ curated.list bracedPath := by
  obtain ⟨curated, hcurate, hnames, htext⟩ : ∃ curated,
      Api.curate ⟨[]⟩ .standard paddedParameters (.object []) = .ok curated ∧
      curated.list.map (·.name) = ["itemId"] ∧
      withArguments curated.list bracedPath =
        "/a/\x7bitem_id\x7d\x7b\x7bitem_id\x7d/\x7b\x7d\x7b\x7d/\x7bx\x7btype_\x7db\x7d/\x7bc" :=
    ⟨_, rfl, by decide +kernel, by decide +kernel⟩
  exact ⟨curated, hcurate, hnames, htext, curate_rewrites_path (.inl rfl) hcurate bracedPath⟩

end ClientForge.Codegen.UrlPath
