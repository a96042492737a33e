import ClientForge.Proofs.Components

/-!
When curation fails. It fails because of a declared parameter that no rule replaces, and of several
faulty ones the first is reported. `Fault` says what is wrong with a declared parameter, without
going through resolution: its reference leads nowhere, or its definition has a flaw. A definition
is read in a fixed order, and its first flaw counts.

Results:
1. `describe_eq_error_iff`, `resolve_eq_error_iff`: a definition is refused for its flaw, and a
   declared parameter for its fault.
2. `resolveAll_eq_error_iff`: a list is refused for the fault of its first faulty parameter.
3. `curate_eq_error_iff`: the same of curation, whatever the operation says of its request body and
   its responses.
-/

namespace ClientForge.Api.Curation

/-! ## Definitions -/

/-- The first thing that is wrong with a definition; `origin` is the reference that led to it. The
name is looked at first, then the location, and then the schema. -/
inductive Flaw (table : ReferenceTable) (definition : Json) (origin : Option String) :
    Failure → Prop
  | nameless : definition.string? "name" = none →
      Flaw table definition origin (.invalidDocument (.parameterWithoutName origin))
  | unlocated {name : String} : definition.string? "name" = some name →
      definition.string? "in" = none →
      Flaw table definition origin (.invalidDocument (.parameterWithoutLocation (Text.trim name)))
  | misplaced {name location : String} : definition.string? "name" = some name →
      definition.string? "in" = some location → location ∉ ["path", "query", "header", "cookie"] →
      Flaw table definition origin (.invalidDocument (.unsupportedLocation location))
  | unresolvedSchema {name location reference : String} {schema : Json} :
      definition.string? "name" = some name →
      definition.string? "in" = some location → location ∈ ["path", "query", "header", "cookie"] →
      definition.get? "schema" = some schema → schema.string? "$ref" = some reference →
      table.find? reference = none →
      Flaw table definition origin (.unresolvedReference reference)

/-- What is wrong with a declared parameter: it refers to a component that does not exist, or its
definition, in place or a component, has a flaw. -/
inductive Fault (table : ReferenceTable) (declared : Json) : Failure → Prop
  | unresolved {reference : String} : declared.string? "$ref" = some reference →
      table.find? reference = none → Fault table declared (.unresolvedReference reference)
  | inline {e : Failure} : declared.string? "$ref" = none → Flaw table declared none e →
      Fault table declared e
  | component {reference : String} {component : Json} {e : Failure} :
      declared.string? "$ref" = some reference → table.find? reference = some component →
      Flaw table component (some reference) e → Fault table declared e

/-- The fault of a parameter that has to be resolved, as no rule replaces it. -/
def FaultUnder (table : ReferenceTable) (rules : ConvenienceRules) (declared : Json)
    (e : Failure) : Prop :=
  rules.ruleFor? declared = none ∧ Fault table declared e

/-- The fault of the first faulty parameter of a list. -/
def FirstFault (table : ReferenceTable) (rules : ConvenienceRules) (declared : List Json)
    (e : Failure) : Prop :=
  ∃ earlier d later, declared = earlier ++ d :: later ∧
    (∀ d' ∈ earlier, ∀ e', ¬ FaultUnder table rules d' e') ∧ FaultUnder table rules d e

/-! ## Definitions with a flaw -/

section

variable {table : ReferenceTable} {definition declared : Json} {origin : Option String}
  {e : Failure}

theorem require_eq_error_iff {reference : String} :
    table.require reference = .error e ↔
      table.find? reference = none ∧ e = .unresolvedReference reference := by
  rw [ReferenceTable.require]
  cases table.find? reference with
  | none => simp [eq_comm]
  | some component => simp

theorem nameOf_eq_error_iff : nameOf definition origin = .error e ↔
    definition.string? "name" = none ∧ e = .invalidDocument (.parameterWithoutName origin) := by
  rw [nameOf]
  cases definition.string? "name" with
  | none => simp [eq_comm]
  | some name => simp

theorem nameOf_eq_ok_iff {name : String} : nameOf definition origin = .ok name ↔
    ∃ written, definition.string? "name" = some written ∧ Text.trim written = name := by
  rw [nameOf]
  cases definition.string? "name" with
  | none => simp
  | some written => simp

/-- Only the four places that a parameter can be declared for are read. -/
theorem parse_eq_error_iff {location : String} : Location.parse location = .error e ↔
    location ∉ ["path", "query", "header", "cookie"] ∧
      e = .invalidDocument (.unsupportedLocation location) := by
  have hfound : (Location.declarable.find? (·.text == location)) = none ↔
      location ∉ ["path", "query", "header", "cookie"] := by
    simp [List.find?_eq_none, Location.declarable, Location.text, eq_comm (a := location)]
  rw [Location.parse, ← hfound]
  cases Location.declarable.find? (·.text == location) with
  | none => simp [eq_comm]
  | some place => simp

/-- A definition with one of these places has a location, whatever its name. -/
theorem locationOf_ok {location : String} (h : definition.string? "in" = some location)
    (hdeclarable : location ∈ ["path", "query", "header", "cookie"]) (name : String) :
    ∃ place, locationOf definition name = .ok place := by
  rw [locationOf, h]
  cases hparse : Location.parse location with
  | error e => exact absurd hdeclarable (parse_eq_error_iff.mp hparse).1
  | ok place => exact ⟨place, hparse⟩

theorem locationOf_eq_error_iff {name : String} : locationOf definition name = .error e ↔
    definition.string? "in" = none ∧ e = .invalidDocument (.parameterWithoutLocation name) ∨
      ∃ location, definition.string? "in" = some location ∧
        location ∉ ["path", "query", "header", "cookie"] ∧
        e = .invalidDocument (.unsupportedLocation location) := by
  rw [locationOf]
  cases definition.string? "in" with
  | none => simp [eq_comm]
  | some location => simp [parse_eq_error_iff]

theorem locationOf_eq_ok {name : String} {place : Location}
    (h : locationOf definition name = .ok place) :
    ∃ location, definition.string? "in" = some location ∧
      location ∈ ["path", "query", "header", "cookie"] := by
  rw [locationOf] at h
  cases hlocation : definition.string? "in" with
  | none =>
    rw [hlocation] at h
    cases h
  | some location =>
    rw [hlocation] at h
    refine ⟨location, rfl, ?_⟩
    by_contra hnot
    cases h.symm.trans (parse_eq_error_iff.mpr ⟨hnot, rfl⟩)

theorem schemaType_eq_error_iff {schema : Json} : schemaType table schema = .error e ↔
    ∃ reference, schema.string? "$ref" = some reference ∧ table.find? reference = none ∧
      e = .unresolvedReference reference := by
  rw [schemaType]
  cases schema.string? "$ref" with
  | none => simp
  | some reference =>
    simp only [Option.some.injEq, exists_eq_left', ← require_eq_error_iff]
    cases table.require reference with
    | error e' => simp [Except.map]
    | ok component => simp [Except.map]

theorem declaredType_eq_error_iff : declaredType table definition = .error e ↔
    ∃ schema reference, definition.get? "schema" = some schema ∧
      schema.string? "$ref" = some reference ∧ table.find? reference = none ∧
      e = .unresolvedReference reference := by
  rw [declaredType]
  cases definition.get? "schema" with
  | none => simp
  | some schema => simp [schemaType_eq_error_iff]

/-- A definition is refused for its flaw. -/
theorem describe_eq_error_iff :
    describe table definition origin = .error e ↔ Flaw table definition origin e := by
  rw [describe, Outcome.bind_eq_error_iff]
  constructor
  · rintro (hname | ⟨name, hname, hrest⟩)
    · obtain ⟨hnone, rfl⟩ := nameOf_eq_error_iff.mp hname
      exact .nameless hnone
    obtain ⟨written, hwritten, rfl⟩ := nameOf_eq_ok_iff.mp hname
    rcases Outcome.bind_eq_error_iff.mp hrest with hlocation | ⟨place, hlocation, hrest⟩
    · rcases locationOf_eq_error_iff.mp hlocation with
        ⟨hnone, rfl⟩ | ⟨location, hsome, hother, rfl⟩
      · exact .unlocated hwritten hnone
      · exact .misplaced hwritten hsome hother
    obtain ⟨location, hsome, hdeclarable⟩ := locationOf_eq_ok hlocation
    rcases Outcome.bind_eq_error_iff.mp hrest with htype | ⟨type, _, hreturn⟩
    · obtain ⟨schema, reference, hschema, href, hmissing, rfl⟩ := declaredType_eq_error_iff.mp htype
      exact .unresolvedSchema hwritten hsome hdeclarable hschema href hmissing
    · cases hreturn
  · have named {written : String} (h : definition.string? "name" = some written) :
        nameOf definition origin = .ok (Text.trim written) := nameOf_eq_ok_iff.mpr ⟨_, h, rfl⟩
    intro h
    cases h with
    | nameless hnone => exact .inl (nameOf_eq_error_iff.mpr ⟨hnone, rfl⟩)
    | unlocated hname hnone =>
      refine .inr ⟨_, named hname, Outcome.bind_eq_error_iff.mpr (.inl ?_)⟩
      exact locationOf_eq_error_iff.mpr (.inl ⟨hnone, rfl⟩)
    | misplaced hname hsome hother =>
      refine .inr ⟨_, named hname, Outcome.bind_eq_error_iff.mpr (.inl ?_)⟩
      exact locationOf_eq_error_iff.mpr (.inr ⟨_, hsome, hother, rfl⟩)
    | unresolvedSchema hname hsome hdeclarable hschema href hmissing =>
      obtain ⟨place, hplace⟩ := locationOf_ok hsome hdeclarable (Text.trim _)
      refine .inr ⟨_, named hname, Outcome.bind_eq_error_iff.mpr (.inr ⟨place, hplace, ?_⟩)⟩
      refine Outcome.bind_eq_error_iff.mpr (.inl ?_)
      exact declaredType_eq_error_iff.mpr ⟨_, _, hschema, href, hmissing, rfl⟩

/-- A declared parameter is refused for its fault. -/
theorem resolve_eq_error_iff : resolve table declared = .error e ↔ Fault table declared e := by
  cases href : declared.string? "$ref" with
  | none =>
    rw [resolve_inline href, describe_eq_error_iff]
    constructor
    · exact .inline href
    · intro h
      cases h with
      | inline _ hflaw => exact hflaw
      | unresolved h _ => cases href.symm.trans h
      | component h _ _ => cases href.symm.trans h
  | some reference =>
    cases hfound : table.find? reference with
    | none =>
      have hresolve : resolve table declared = .error (.unresolvedReference reference) := by
        rw [resolve, definition, href]
        change (table.require reference).map (·, some reference) >>= _ = _
        rw [require_eq_error_iff.mpr ⟨hfound, rfl⟩]
        rfl
      rw [hresolve]
      constructor
      · intro h
        cases h
        exact .unresolved href hfound
      · intro h
        cases h with
        | inline h _ => cases href.symm.trans h
        | unresolved h _ =>
          cases href.symm.trans h
          rfl
        | component h h' _ =>
          cases href.symm.trans h
          cases hfound.symm.trans h'
    | some component =>
      have hrequire : table.require reference = .ok component := by
        rw [ReferenceTable.require, hfound]
      rw [resolve_component href hrequire, describe_eq_error_iff]
      constructor
      · exact .component href hfound
      · intro h
        cases h with
        | inline h _ => cases href.symm.trans h
        | unresolved h h' =>
          cases href.symm.trans h
          cases hfound.symm.trans h'
        | component h h' hflaw =>
          cases href.symm.trans h
          cases hfound.symm.trans h'
          exact hflaw

end

/-! ## Lists -/

section

variable {table : ReferenceTable} {rules : ConvenienceRules} {d : Json} {declared : List Json}
  {e : Failure}

theorem firstFault_cons : FirstFault table rules (d :: declared) e ↔
    FaultUnder table rules d e ∨
      (∀ e', ¬ FaultUnder table rules d e') ∧ FirstFault table rules declared e := by
  constructor
  · rintro ⟨earlier, d', later, hsplit, hearlier, hfault⟩
    cases earlier with
    | nil =>
      obtain ⟨rfl, rfl⟩ := List.cons.inj hsplit
      exact .inl hfault
    | cons first earlier =>
      obtain ⟨rfl, rfl⟩ := List.cons.inj hsplit
      rw [List.forall_mem_cons] at hearlier
      exact .inr ⟨hearlier.1, earlier, d', later, rfl, hearlier.2, hfault⟩
  · rintro (hfault | ⟨hfirst, earlier, d', later, rfl, hearlier, hfault⟩)
    · exact ⟨[], d, declared, rfl, by simp, hfault⟩
    · exact ⟨d :: earlier, d', later, rfl, List.forall_mem_cons.mpr ⟨hfirst, hearlier⟩, hfault⟩

/-- A list that has a faulty parameter has a first one. -/
theorem exists_firstFault_iff : (∃ e, FirstFault table rules declared e) ↔
    ∃ d ∈ declared, ∃ e, FaultUnder table rules d e := by
  induction declared with
  | nil => simp [FirstFault]
  | cons d declared ih =>
    simp only [firstFault_cons, exists_or, exists_and_left, ih, List.exists_mem_cons_iff]
    by_cases h : ∃ e, FaultUnder table rules d e
    · exact iff_of_true (.inl h) (.inl h)
    · rw [or_iff_right h, or_iff_right h, and_iff_right (not_exists.mp h)]

theorem resolveAll_cons_error {source : ParameterSource} {sources : List ParameterSource} :
    resolveAll table (source :: sources) = .error e ↔ resolveSource table source = .error e ∨
      (∃ p, resolveSource table source = .ok p) ∧ resolveAll table sources = .error e := by
  rw [resolveAll, Outcome.bind_eq_error_iff]
  constructor
  · rintro (hfirst | ⟨p, hp, hrest⟩)
    · exact .inl hfirst
    · rcases Outcome.bind_eq_error_iff.mp hrest with hrest | ⟨_, _, hreturn⟩
      · exact .inr ⟨⟨p, hp⟩, hrest⟩
      · cases hreturn
  · rintro (hfirst | ⟨⟨p, hp⟩, hrest⟩)
    · exact .inl hfirst
    · exact .inr ⟨p, hp, Outcome.bind_eq_error_iff.mpr (.inl hrest)⟩

/-- The parameters that rules put in place are not looked at. -/
theorem resolveAll_replacements_error (replacements : List Parameter)
    {sources : List ParameterSource} :
    resolveAll table (replacements.map .replacement ++ sources) = .error e ↔
      resolveAll table sources = .error e := by
  induction replacements with
  | nil => rfl
  | cons p replacements ih =>
    rw [List.map_cons, List.cons_append, resolveAll_cons_error, ih, resolveSource]
    simp

/-- By induction on the list: a parameter that can be resolved leaves the failure to the rest. -/
theorem resolveAll_eq_error_iff :
    resolveAll table (rules.sources declared) = .error e ↔ FirstFault table rules declared e := by
  induction declared with
  | nil => simp [ConvenienceRules.sources, resolveAll, FirstFault]
  | cons d declared ih =>
    rw [firstFault_cons, ConvenienceRules.sources, List.flatMap_cons, ConvenienceRules.expand]
    rw [ConvenienceRules.sources] at ih
    cases hrule : rules.ruleFor? d with
    | some rule =>
      have hnone (e' : Failure) : ¬ FaultUnder table rules d e' := fun h => by
        cases hrule.symm.trans h.1
      rw [resolveAll_replacements_error, ih, or_iff_right (hnone e), and_iff_right hnone]
    | none =>
      have hfault (e' : Failure) : FaultUnder table rules d e' ↔ resolve table d = .error e' :=
        (and_iff_right hrule).trans resolve_eq_error_iff.symm
      have hgood : (∀ e', ¬ FaultUnder table rules d e') ↔ ∃ p, resolve table d = .ok p := by
        simp only [hfault]
        cases resolve table d <;> simp
      rw [List.singleton_append, resolveAll_cons_error, resolveSource, hfault, hgood, ih]

variable {operation : Json}

/-- What comes after the parameters does not fail, whatever the operation says. -/
theorem curate_fails_iff : curate table rules declared operation = .error e ↔
    FirstFault table rules declared e := by
  rw [curate, Outcome.bind_eq_error_iff, resolveAll_eq_error_iff]
  simp [pure, Except.pure]

theorem Flaw.ne_template {definition : Json} {origin : Option String}
    (h : Flaw table definition origin e) : e ≠ .template := by
  cases h <;> exact Failure.noConfusion

/-- Curation never fails at a template. -/
theorem curate_ne_template : curate table rules declared operation ≠ .error .template := by
  intro h
  obtain ⟨_, _, _, _, _, _, hfault⟩ := curate_fails_iff.mp h
  cases hfault with
  | inline _ hflaw => exact hflaw.ne_template rfl
  | component _ _ hflaw => exact hflaw.ne_template rfl

end

/-- Curation fails exactly if a declared parameter that no rule replaces is faulty, and for the
fault of the first such parameter. -/
theorem curate_eq_error_iff (table : ReferenceTable) (rules : ConvenienceRules)
    (declared : List Json) (operation : Json) :
    ((∃ e, curate table rules declared operation = .error e) ↔
      ∃ d ∈ declared, rules.ruleFor? d = none ∧ ∃ e, Fault table d e) ∧
    ∀ e, curate table rules declared operation = .error e ↔ FirstFault table rules declared e := by
  refine ⟨?_, fun e => curate_fails_iff⟩
  simp only [curate_fails_iff, exists_firstFault_iff, FaultUnder, exists_and_left]

end ClientForge.Api.Curation
