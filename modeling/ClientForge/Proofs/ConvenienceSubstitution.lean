import ClientForge.Api.Convenience
import Mathlib.Data.List.Perm.Basic
import Mathlib.Data.List.Induction

/-!
What the convenience rules make of a list of declared parameters, against a description that knows
nothing of the pass. The parameters of a path and those of an operation are put behind one another
before the rules are applied to them; the results can be put together just as well.

Results:
1. `ruleFor?_eq_some_iff`: a parameter is replaced by the first rule for the reference it spells.
2. `Substitutes.add`: one more parameter; `substitute_substitutes`: and so a whole pass.
3. `substitute_eq`: the pass makes the sources and the kinds that a curation goes on with.
4. `Substitutes.eq`: the description leaves no choice.
5. `substitute_append`: a pass over two lists, one behind the other.
6. `substitute_compositional`: these together.
-/

namespace ClientForge.Api

/-! ## Definitions -/

/-- One substitution behind another: of its kinds those are added that are not there. -/
def Substitution.followedBy (s t : Substitution) : Substitution :=
  ⟨s.sources ++ t.sources, s.applied ++ t.applied.filter (· ∉ s.applied)⟩

namespace ConvenienceRules

/-- The declared parameter is a reference, spelled as the rule has it. -/
def Spells (declared : Json) (rule : ConvenienceRule) : Prop :=
  declared.get? "$ref" = some (.string rule.reference)

/-- `rule` is the first of the rules for the reference that the declared parameter spells. -/
def Matches (rules : ConvenienceRules) (declared : Json) (rule : ConvenienceRule) : Prop :=
  Spells declared rule ∧ ∃ earlier later, rules = earlier ++ rule :: later ∧
    ∀ other ∈ earlier, ¬ Spells declared other

/-- A rule of that kind matches the declared parameter. -/
def Fires (rules : ConvenienceRules) (declared : Json) (kind : ConvenienceKind) : Prop :=
  ∃ rule, rules.Matches declared rule ∧ rule.kind = kind

/-- `first` fires at a declared parameter up to which `second` does not. -/
def FiresBefore (rules : ConvenienceRules) (declared : List Json) (first second : ConvenienceKind) :
    Prop :=
  ∃ earlier d later, declared = earlier ++ d :: later ∧ rules.Fires d first ∧
    ∀ d' ∈ earlier ++ [d], ¬ rules.Fires d' second

/-- What stands for the declared parameters: for one that a rule matches the replacements of the
rule, for every other one itself. -/
inductive Rewrites (rules : ConvenienceRules) : List Json → List ParameterSource → Prop
  | nil : Rewrites rules [] []
  | kept {d : Json} {ds : List Json} {sources : List ParameterSource} :
      (∀ rule ∈ rules, ¬ Spells d rule) → Rewrites rules ds sources →
      Rewrites rules (d :: ds) (.declared d :: sources)
  | replaced {d : Json} {ds : List Json} {sources : List ParameterSource} {rule : ConvenienceRule} :
      rules.Matches d rule → Rewrites rules ds sources →
      Rewrites rules (d :: ds) (rule.replacements.map .replacement ++ sources)

/-- The substitution of the declared parameters: they are rewritten, and the kinds that fire are
recorded in the order in which they first do. -/
structure Substitutes (rules : ConvenienceRules) (declared : List Json) (s : Substitution) :
    Prop where
  rewritten : rules.Rewrites declared s.sources
  recorded : ∀ kind, kind ∈ s.applied ↔ ∃ d ∈ declared, rules.Fires d kind
  in_order : s.applied.Pairwise (rules.FiresBefore declared)

variable {rules : ConvenienceRules}

/-! ## Rules -/

theorem string?_eq_some_iff {declared : Json} {key text : String} :
    declared.string? key = some text ↔ declared.get? key = some (.string text) := by
  rw [Json.string?, Option.bind_eq_some_iff]
  constructor
  · rintro ⟨value, hvalue, htext⟩
    cases value with
    | string s =>
      cases htext
      exact hvalue
    | _ => cases htext
  · exact fun h => ⟨_, h, rfl⟩

theorem ruleFor?_eq_some_iff {declared : Json} {rule : ConvenienceRule} :
    rules.ruleFor? declared = some rule ↔ rules.Matches declared rule := by
  rw [ruleFor?, Option.bind_eq_some_iff]
  constructor
  · rintro ⟨reference, hreference, hfound⟩
    rw [string?_eq_some_iff] at hreference
    obtain ⟨hsame, earlier, later, hrules, hearlier⟩ := List.find?_eq_some_iff_append.mp hfound
    obtain rfl : rule.reference = reference := by simpa using hsame
    refine ⟨hreference, earlier, later, hrules, fun other hother hspells => ?_⟩
    rw [Spells, hreference, Option.some.injEq, Json.string.injEq] at hspells
    simpa [hspells] using hearlier other hother
  · rintro ⟨hspells, earlier, later, rfl, hearlier⟩
    refine ⟨rule.reference, string?_eq_some_iff.mpr hspells, ?_⟩
    refine List.find?_eq_some_iff_append.mpr ⟨beq_self_eq_true _, earlier, later, rfl, ?_⟩
    intro other hother
    rw [Bool.not_eq_true', beq_eq_false_iff_ne]
    intro hsame
    exact hearlier other hother (by rw [Spells, hspells, hsame])

theorem ruleFor?_eq_none_iff {declared : Json} :
    rules.ruleFor? declared = none ↔ ∀ rule ∈ rules, ¬ Spells declared rule := by
  rw [ruleFor?, Option.bind_eq_none_iff]
  constructor
  · intro h rule hrule hspells
    have hnone := h rule.reference (string?_eq_some_iff.mpr hspells)
    exact List.find?_eq_none.mp hnone rule hrule (beq_self_eq_true _)
  · intro h reference hreference
    refine List.find?_eq_none.mpr fun rule hrule hsame => h rule hrule ?_
    rw [Spells, beq_iff_eq.mp hsame]
    exact string?_eq_some_iff.mp hreference

theorem Matches.unique {d : Json} {rule rule' : ConvenienceRule} (h : rules.Matches d rule)
    (h' : rules.Matches d rule') : rule = rule' := by
  rw [← ruleFor?_eq_some_iff] at h h'
  exact Option.some.inj (h.symm.trans h')

theorem Matches.not_kept {d : Json} {rule : ConvenienceRule} (h : rules.Matches d rule) :
    ¬ ∀ other ∈ rules, ¬ Spells d other := by
  obtain ⟨hspells, earlier, later, rfl, _⟩ := h
  exact fun hkept => hkept rule (by simp) hspells

theorem not_fires {d : Json} (h : ∀ rule ∈ rules, ¬ Spells d rule) (kind : ConvenienceKind) :
    ¬ rules.Fires d kind :=
  fun ⟨_, hmatches, _⟩ => hmatches.not_kept h

theorem Matches.fires_iff {d : Json} {rule : ConvenienceRule} (h : rules.Matches d rule)
    {kind : ConvenienceKind} : rules.Fires d kind ↔ rule.kind = kind := by
  constructor
  · rintro ⟨rule', hmatches, hkind⟩
    rwa [h.unique hmatches]
  · exact fun hkind => ⟨rule, h, hkind⟩

/-! ## One more parameter -/

/-- What taking in one more parameter can do. -/
theorem add_cases (rules : ConvenienceRules) (s : Substitution) (d : Json) :
    (∃ rule, rules.Matches d rule ∧ s.add rules d =
      ⟨s.sources ++ rule.replacements.map .replacement,
        if rule.kind ∈ s.applied then s.applied else s.applied ++ [rule.kind]⟩) ∨
    ((∀ rule ∈ rules, ¬ Spells d rule) ∧
      s.add rules d = ⟨s.sources ++ [.declared d], s.applied⟩) := by
  rw [Substitution.add]
  cases h : rules.ruleFor? d with
  | some rule => exact .inl ⟨rule, ruleFor?_eq_some_iff.mp h, rfl⟩
  | none => exact .inr ⟨ruleFor?_eq_none_iff.mp h, rfl⟩

theorem Rewrites.append {ds ds' : List Json} {sources sources' : List ParameterSource}
    (h : rules.Rewrites ds sources) (h' : rules.Rewrites ds' sources') :
    rules.Rewrites (ds ++ ds') (sources ++ sources') := by
  induction h with
  | nil => exact h'
  | kept hkept _ ih => exact .kept hkept ih
  | replaced hmatches _ ih =>
    rw [List.append_assoc]
    exact .replaced hmatches ih

theorem FiresBefore.append {ds : List Json} {first second : ConvenienceKind}
    (h : rules.FiresBefore ds first second) (ds' : List Json) :
    rules.FiresBefore (ds ++ ds') first second := by
  obtain ⟨earlier, d, later, rfl, hfires, hnot⟩ := h
  exact ⟨earlier, d, later ++ ds', by simp, hfires, hnot⟩

/-- A kind that is recorded has fired before every kind that is not. -/
theorem Substitutes.before_new {ds : List Json} {s : Substitution} (h : rules.Substitutes ds s)
    {kind new : ConvenienceKind} (hkind : kind ∈ s.applied) (hnew : new ∉ s.applied) :
    rules.FiresBefore ds kind new := by
  obtain ⟨d, hd, hfires⟩ := (h.recorded kind).mp hkind
  obtain ⟨earlier, later, rfl⟩ := List.append_of_mem hd
  have hprefix : earlier ++ [d] <+: earlier ++ d :: later := ⟨later, by simp⟩
  refine ⟨earlier, d, later, rfl, hfires, ?_⟩
  intro d' hd' hfires'
  exact hnew ((h.recorded new).mpr ⟨d', hprefix.subset hd', hfires'⟩)

/-- What one more parameter does to a substitution. -/
theorem Substitutes.add {ds : List Json} {s : Substitution} (h : rules.Substitutes ds s)
    (d : Json) : rules.Substitutes (ds ++ [d]) (s.add rules d) := by
  have hordered : s.applied.Pairwise (rules.FiresBefore (ds ++ [d])) :=
    h.in_order.imp fun hbefore => hbefore.append [d]
  obtain ⟨rule, hmatches, hadd⟩ | ⟨hkept, hadd⟩ := add_cases rules s d
  · rw [hadd]
    have hrecorded : ∀ kind, (∃ d' ∈ ds ++ [d], rules.Fires d' kind) ↔
        kind ∈ s.applied ∨ rule.kind = kind := by
      intro kind
      simp [or_and_right, exists_or, ← h.recorded, hmatches.fires_iff]
    have hsources : rules.Rewrites (ds ++ [d])
        (s.sources ++ rule.replacements.map .replacement) := by
      simpa using h.rewritten.append (.replaced hmatches .nil)
    split
    · next hthere =>
      refine ⟨hsources, fun kind => ?_, hordered⟩
      rw [hrecorded, or_iff_left_of_imp]
      rintro rfl
      exact hthere
    · next hnew =>
      refine ⟨hsources, fun kind => ?_, ?_⟩
      · rw [hrecorded, List.mem_append, List.mem_singleton, eq_comm]
      · refine List.pairwise_append.mpr ⟨hordered, List.pairwise_singleton _ _, ?_⟩
        intro kind hkind _ hlast
        obtain rfl := List.mem_singleton.mp hlast
        exact (h.before_new hkind hnew).append [d]
  · rw [hadd]
    refine ⟨h.rewritten.append (.kept hkept .nil), fun kind => ?_, hordered⟩
    rw [h.recorded]
    simp [or_and_right, exists_or, not_fires hkept]

/-! ## A pass -/

theorem substitute_concat (rules : ConvenienceRules) (ds : List Json) (d : Json) :
    rules.substitute (ds ++ [d]) = (rules.substitute ds).add rules d :=
  List.foldl_concat ..

/-- By induction from the end of the list, where the pass takes the next parameter in. -/
theorem substitute_substitutes (rules : ConvenienceRules) (declared : List Json) :
    rules.Substitutes declared (rules.substitute declared) := by
  induction declared using List.reverseRecOn with
  | nil => exact ⟨.nil, fun _ => by simp [substitute], .nil⟩
  | append_singleton ds d ih =>
    rw [substitute_concat]
    exact ih.add d

theorem substitute_eq (rules : ConvenienceRules) (declared : List Json) :
    rules.substitute declared = ⟨rules.sources declared, rules.applied declared⟩ := by
  induction declared using List.reverseRecOn with
  | nil => rfl
  | append_singleton ds d ih =>
    rw [substitute_concat, ih, Substitution.add, sources, sources, applied, applied,
      List.flatMap_append, List.flatMap_singleton, expand, List.filterMap_append,
      List.eraseDups_append]
    cases hrule : rules.ruleFor? d with
    | none => simp [hrule, List.removeAll]
    | some rule =>
      have hlast : [d].filterMap (fun d => (rules.ruleFor? d).map (·.kind)) = [rule.kind] := by
        simp [hrule]
      rw [hlast]
      generalize ds.filterMap (fun d => (rules.ruleFor? d).map (·.kind)) = fired
      by_cases hfired : rule.kind ∈ fired <;> simp [List.removeAll, List.eraseDups_cons, hfired]

/-! ## Nothing else is a substitution -/

theorem Rewrites.unique {ds : List Json} {sources sources' : List ParameterSource}
    (h : rules.Rewrites ds sources) (h' : rules.Rewrites ds sources') : sources = sources' := by
  induction h generalizing sources' with
  | nil =>
    cases h'
    rfl
  | kept hkept _ ih =>
    cases h' with
    | kept _ hrest => rw [ih hrest]
    | replaced hmatches _ => exact absurd hkept hmatches.not_kept
  | replaced hmatches _ ih =>
    cases h' with
    | kept hkept _ => exact absurd hkept hmatches.not_kept
    | replaced hmatches' hrest => rw [hmatches.unique hmatches', ih hrest]

theorem FiresBefore.asymm {ds : List Json} {first second : ConvenienceKind}
    (h : rules.FiresBefore ds first second) : ¬ rules.FiresBefore ds second first := by
  obtain ⟨earlier, d, later, hsplit, hfires, hnot⟩ := h
  rintro ⟨earlier', d', later', hsplit', hfires', hnot'⟩
  have hprefix : earlier ++ [d] <+: ds := ⟨later, by simp [hsplit]⟩
  have hprefix' : earlier' ++ [d'] <+: ds := ⟨later', by simp [hsplit']⟩
  -- the shorter of the two prefixes ends at a parameter that is in the other one
  rcases List.prefix_or_prefix_of_prefix hprefix hprefix' with hshort | hlong
  · exact hnot' d (hshort.subset (by simp)) hfires
  · exact hnot d' (hlong.subset (by simp)) hfires'

theorem Substitutes.nodup {ds : List Json} {s : Substitution} (h : rules.Substitutes ds s) :
    s.applied.Nodup := by
  refine List.Pairwise.imp ?_ h.in_order
  rintro kind _ hbefore rfl
  exact hbefore.asymm hbefore

theorem Substitutes.eq {ds : List Json} {s t : Substitution} (hs : rules.Substitutes ds s)
    (ht : rules.Substitutes ds t) : s = t := by
  have hsources : s.sources = t.sources := hs.rewritten.unique ht.rewritten
  have hsame : s.applied.Perm t.applied := (List.perm_ext_iff_of_nodup hs.nodup ht.nodup).mpr
    fun kind => (hs.recorded kind).trans (ht.recorded kind).symm
  have happlied : s.applied = t.applied :=
    hsame.eq_of_pairwise (fun _ _ _ _ h h' => (h.asymm h').elim) hs.in_order ht.in_order
  cases s
  cases t
  cases hsources
  cases happlied
  rfl

/-! ## Two lists -/

theorem add_followedBy (rules : ConvenienceRules) (s t : Substitution) (d : Json) :
    (s.followedBy t).add rules d = s.followedBy (t.add rules d) := by
  rw [Substitution.add, Substitution.add]
  cases rules.ruleFor? d with
  | none => simp [Substitution.followedBy]
  | some rule =>
    dsimp only [Substitution.followedBy]
    rw [List.append_assoc]
    congr 1
    by_cases hs : rule.kind ∈ s.applied <;> by_cases ht : rule.kind ∈ t.applied <;> simp [hs, ht]

theorem substitute_append (rules : ConvenienceRules) (xs ys : List Json) :
    rules.substitute (xs ++ ys) = (rules.substitute xs).followedBy (rules.substitute ys) := by
  induction ys using List.reverseRecOn with
  | nil => simp [Substitution.followedBy, substitute]
  | append_singleton ys y ih =>
    rw [← List.append_assoc, substitute_concat, substitute_concat, ih, add_followedBy]

/-- A pass over two lists, one behind the other, makes what the passes over each of them make: the
sources of both, and the kinds of the first list before those that only the second one adds. -/
theorem substitute_compositional (rules : ConvenienceRules) (xs ys : List Json) :
    rules.substitute xs = ⟨rules.sources xs, rules.applied xs⟩ ∧
      (∀ s, rules.Substitutes xs s ↔ s = rules.substitute xs) ∧
      (rules.substitute (xs ++ ys)).sources =
        (rules.substitute xs).sources ++ (rules.substitute ys).sources ∧
      (rules.substitute (xs ++ ys)).applied = (rules.substitute xs).applied ++
        (rules.substitute ys).applied.filter (· ∉ (rules.substitute xs).applied) ∧
      (rules.substitute (xs ++ ys)).applied.Nodup := by
  refine ⟨substitute_eq rules xs, fun s => ⟨fun h => h.eq (substitute_substitutes rules xs), ?_⟩,
    ?_, ?_, (substitute_substitutes rules _).nodup⟩
  · rintro rfl
    exact substitute_substitutes rules xs
  · rw [substitute_append, Substitution.followedBy]
  · rw [substitute_append, Substitution.followedBy]

end ConvenienceRules

end ClientForge.Api
