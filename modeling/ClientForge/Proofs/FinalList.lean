import ClientForge.Api.Curation
import ClientForge.Proofs.Outcome
import Mathlib.Data.Finset.Dedup
import Mathlib.Data.Finset.Card

/-!
The final list of a curation, against a description of it that knows nothing of the passes.

`candidates` are the parameters that compete for a place: the declared ones, resolved and with the
replacements of the rules in their places, less those a generated parameter displaces, and then the
generated ones. `Arranges` says which list of candidates is the final one: of every name, compared
in lower case, the first candidate and no other; required ones before optional ones; nothing else
moved.

Results:
1. `resolveAll_eq_ok_iff`: resolution is `Resolves`, one declared parameter after the other.
2. `withGenerated_eq_candidates`: adding the generated parameters one by one makes `candidates`.
3. `curate_arranges`: the list of every successful curation arranges its candidates.
-/

namespace ClientForge.Api.Curation

open ClientForge.Text

/-! ## Definitions -/

/-- The parameters that `declared` stands for, in its order: a parameter that a rule matches stands
for the rule's replacements, every other one for what it resolves to. -/
inductive Resolves (table : ReferenceTable) (rules : ConvenienceRules) :
    List Json → List Parameter → Prop
  | nil : Resolves table rules [] []
  | replaced {d : Json} {ds : List Json} {ps : List Parameter} {rule : ConvenienceRule} :
      rules.ruleFor? d = some rule → Resolves table rules ds ps →
      Resolves table rules (d :: ds) (rule.replacements ++ ps)
  | resolved {d : Json} {ds : List Json} {p : Parameter} {ps : List Parameter} :
      rules.ruleFor? d = none → resolve table d = .ok p → Resolves table rules ds ps →
      Resolves table rules (d :: ds) (p :: ps)

/-- The content types of the success responses, normalised. -/
def distinctTypes (table : ReferenceTable) (operation : Json) : Finset String :=
  ((responseContents table operation).map fun c => normalizeContentType c.contentType).toFinset

/-- A generated parameter takes the place of `p`. -/
def IsDisplaced (table : ReferenceTable) (operation : Json) (p : Parameter) : Prop :=
  (operation.get? "requestBody").isSome ∧ sameIgnoringAsciiCase p.name "payload" ∨
  1 < (distinctTypes table operation).card ∧ sameIgnoringAsciiCase p.name "response_content_type"

instance (table : ReferenceTable) (operation : Json) (p : Parameter) :
    Decidable (IsDisplaced table operation p) :=
  inferInstanceAs (Decidable (_ ∧ _ ∨ _ ∧ _))

/-- The parameters that compete for a place in the final list. -/
def candidates (table : ReferenceTable) (operation : Json) (resolved : List Parameter) :
    List Parameter :=
  resolved.filter (fun p => ¬ IsDisplaced table operation p) ++
  (if (operation.get? "requestBody").isSome then [payload] else []) ++
  if 1 < (distinctTypes table operation).card then
    ((responseContents table operation).head?.map fun first =>
      contentTypeSelector (normalizeContentType first.contentType)).toList
  else []

/-- Where the first parameter with the name of `p` is, names compared in lower case. -/
def position (list : List Parameter) (p : Parameter) : Nat :=
  list.findIdx fun q => lowercase q.name == lowercase p.name

/-- `list` is `candidates` without later parameters of a name, required parameters first. -/
structure Arranges (candidates list : List Parameter) : Prop where
  distinct : list.Pairwise fun p q => lowercase p.name ≠ lowercase q.name
  complete : ∀ p ∈ candidates, ∃ q ∈ list, lowercase q.name = lowercase p.name
  earliest : ∀ p ∈ list, candidates[position candidates p]? = some p
  required_first : list.Pairwise fun p q => q.required → p.required
  in_order : list.Pairwise fun p q =>
    p.required = q.required → position candidates p < position candidates q

/-! ## Resolution -/

theorem resolveAll_declared {table : ReferenceTable} {d : Json} {sources : List ParameterSource}
    {ps : List Parameter} :
    resolveAll table (.declared d :: sources) = .ok ps ↔
      ∃ p qs, resolve table d = .ok p ∧ resolveAll table sources = .ok qs ∧ ps = p :: qs := by
  rw [resolveAll, resolveSource, Outcome.bind_eq_ok_iff]
  constructor
  · rintro ⟨p, hp, hrest⟩
    obtain ⟨qs, hqs, hps⟩ := Outcome.bind_eq_ok_iff.mp hrest
    exact ⟨p, qs, hp, hqs, (Outcome.pure_eq_ok_iff.mp hps).symm⟩
  · rintro ⟨p, qs, hp, hqs, rfl⟩
    exact ⟨p, hp, Outcome.bind_eq_ok_iff.mpr ⟨qs, hqs, rfl⟩⟩

theorem resolveAll_replacements {table : ReferenceTable} (rs : List Parameter)
    {sources : List ParameterSource} {ps : List Parameter} :
    resolveAll table (rs.map .replacement ++ sources) = .ok ps ↔
      ∃ qs, resolveAll table sources = .ok qs ∧ ps = rs ++ qs := by
  induction rs generalizing ps with
  | nil => simp
  | cons r rs ih =>
    rw [List.map_cons, List.cons_append, resolveAll, resolveSource, Outcome.bind_eq_ok_iff]
    constructor
    · rintro ⟨_, hr, hrest⟩
      obtain ⟨tail, htail, hps⟩ := Outcome.bind_eq_ok_iff.mp hrest
      obtain ⟨qs, hqs, rfl⟩ := ih.mp htail
      cases hr
      exact ⟨qs, hqs, (Outcome.pure_eq_ok_iff.mp hps).symm⟩
    · rintro ⟨qs, hqs, rfl⟩
      exact ⟨r, rfl, Outcome.bind_eq_ok_iff.mpr ⟨rs ++ qs, ih.mpr ⟨qs, hqs, rfl⟩, rfl⟩⟩

theorem resolveAll_eq_ok_iff {table : ReferenceTable} {rules : ConvenienceRules}
    {declared : List Json} {ps : List Parameter} :
    resolveAll table (rules.sources declared) = .ok ps ↔ Resolves table rules declared ps := by
  constructor
  · intro h
    induction declared generalizing ps with
    | nil =>
      cases h
      exact .nil
    | cons d ds ih =>
      rw [ConvenienceRules.sources, List.flatMap_cons, ConvenienceRules.expand] at h
      cases hrule : rules.ruleFor? d with
      | none =>
        rw [hrule] at h
        obtain ⟨p, qs, hp, hqs, rfl⟩ := resolveAll_declared.mp h
        exact .resolved hrule hp (ih hqs)
      | some rule =>
        rw [hrule] at h
        obtain ⟨qs, hqs, rfl⟩ := (resolveAll_replacements _).mp h
        exact .replaced hrule (ih hqs)
  · intro h
    induction h with
    | nil => rfl
    | replaced hrule _ ih =>
      rw [ConvenienceRules.sources, List.flatMap_cons, ConvenienceRules.expand, hrule]
      exact (resolveAll_replacements _).mpr ⟨_, ih, rfl⟩
    | resolved hrule hp _ ih =>
      rw [ConvenienceRules.sources, List.flatMap_cons, ConvenienceRules.expand, hrule]
      exact resolveAll_declared.mpr ⟨_, _, hp, ih, rfl⟩

/-- A rule that matches is one of the rules. -/
theorem mem_of_ruleFor? {rules : ConvenienceRules} {d : Json} {rule : ConvenienceRule}
    (h : rules.ruleFor? d = some rule) : rule ∈ rules := by
  obtain ⟨reference, _, hfind⟩ := Option.bind_eq_some_iff.mp h
  exact List.mem_of_find?_eq_some hfind

/-- The resolved parameters are what each declared one stands for. -/
theorem Resolves.mem_iff {table : ReferenceTable} {rules : ConvenienceRules} {declared : List Json}
    {ps : List Parameter} (h : Resolves table rules declared ps) {p : Parameter} :
    p ∈ ps ↔ ∃ d ∈ declared,
      (∃ rule, rules.ruleFor? d = some rule ∧ p ∈ rule.replacements) ∨
        rules.ruleFor? d = none ∧ resolve table d = .ok p := by
  induction h with
  | nil => simp
  | replaced hrule _ ih => simp [ih, hrule]
  | resolved hrule hq _ ih => simp [ih, hrule, hq, eq_comm]

/-- What holds of the replacements and of what declared parameters resolve to holds of all. -/
theorem Resolves.forall_mem {table : ReferenceTable} {rules : ConvenienceRules} {P : Parameter → Prop}
    (hrules : ∀ rule ∈ rules, ∀ p ∈ rule.replacements, P p)
    (hdeclared : ∀ d p, resolve table d = .ok p → P p) {declared : List Json} {ps : List Parameter}
    (h : Resolves table rules declared ps) : ∀ p ∈ ps, P p := by
  intro p hp
  obtain ⟨d, _, ⟨rule, hrule, hmem⟩ | ⟨_, hresolve⟩⟩ := h.mem_iff.mp hp
  · exact hrules rule (mem_of_ruleFor? hrule) p hmem
  · exact hdeclared d p hresolve

/-! ## Generated parameters -/

theorem any_ne_iff_one_lt_card {α : Type} [DecidableEq α] (x : α) (xs : List α) :
    xs.any (· != x) = true ↔ 1 < (x :: xs).toFinset.card := by
  rw [Finset.one_lt_card_iff]
  constructor
  · intro h
    obtain ⟨y, hy, hne⟩ := List.any_eq_true.mp h
    exact ⟨y, x, by simp [hy], by simp, by simpa using hne⟩
  · rintro ⟨a, b, ha, hb, hab⟩
    rw [List.mem_toFinset] at ha hb
    rw [List.any_eq_true]
    by_cases hax : a = x
    · exact ⟨b, by grind, by grind⟩
    · exact ⟨a, by grind, by grind⟩

theorem severalTypes_iff (table : ReferenceTable) (operation : Json) :
    severalTypes (responseContents table operation) = true ↔
      1 < (distinctTypes table operation).card := by
  rw [severalTypes, distinctTypes]
  cases (responseContents table operation).map fun c => normalizeContentType c.contentType with
  | nil => simp
  | cons type types => exact any_ne_iff_one_lt_card type types

theorem displace_payload (resolved : List Parameter) :
    displace payload resolved =
      resolved.filter (fun p => ¬ sameIgnoringAsciiCase p.name "payload") ++ [payload] := by
  simp [displace, payload]

theorem displace_selector (default : String) (resolved : List Parameter) :
    displace (contentTypeSelector default) resolved =
      resolved.filter (fun p => ¬ sameIgnoringAsciiCase p.name "response_content_type") ++
        [contentTypeSelector default] := by
  simp [displace, contentTypeSelector]

/-- The selector leaves the argument of the request body alone. -/
theorem payload_not_selector :
    sameIgnoringAsciiCase payload.name "response_content_type" = false := by decide +kernel

theorem withGenerated_eq_candidates (table : ReferenceTable) (operation : Json)
    (resolved : List Parameter) :
    withGenerated table operation resolved = candidates table operation resolved := by
  have several := severalTypes_iff table operation
  rw [withGenerated, generated, candidates, hasPayload]
  cases hcontents : responseContents table operation with
  | nil =>
    have none_several : ¬ 1 < (distinctTypes table operation).card := by
      rw [← several, hcontents]
      simp [severalTypes]
    cases hbody : operation.get? "requestBody" <;>
      simp [IsDisplaced, none_several, displace_payload, hbody]
  | cons first rest =>
    rw [hcontents] at several
    by_cases h : 1 < (distinctTypes table operation).card
    · cases hbody : operation.get? "requestBody" <;>
        simp [IsDisplaced, h, several.mpr h, displace_payload, displace_selector,
          payload_not_selector, hbody, Bool.and_comm]
    · have single : severalTypes (first :: rest) = false := by
        simpa using mt several.mp h
      cases hbody : operation.get? "requestBody" <;>
        simp [IsDisplaced, h, single, displace_payload, hbody]

/-! ## Equal names and order -/

theorem position_cons_self (p : Parameter) (ps : List Parameter) : position (p :: ps) p = 0 := by
  simp [position, List.findIdx_cons]

theorem position_cons_of_ne {p q : Parameter} {ps : List Parameter}
    (hne : lowercase q.name ≠ lowercase p.name) :
    position (p :: ps) q = position ps q + 1 := by
  have hbeq : (lowercase p.name == lowercase q.name) = false := by simpa using hne.symm
  simp [position, List.findIdx_cons, hbeq]

theorem firstOfName_distinct (ps : List Parameter) :
    (firstOfName ps).Pairwise fun p q => lowercase p.name ≠ lowercase q.name := by
  induction ps with
  | nil => exact .nil
  | cons p ps ih =>
    rw [firstOfName, List.pairwise_cons]
    refine ⟨fun q hq => ?_, ih.filter _⟩
    have hne := (List.mem_filter.mp hq).2
    exact fun heq => by simp [heq] at hne

theorem firstOfName_complete (ps : List Parameter) :
    ∀ p ∈ ps, ∃ q ∈ firstOfName ps, lowercase q.name = lowercase p.name := by
  induction ps with
  | nil => intro p hp; cases hp
  | cons p ps ih =>
    intro r hr
    by_cases heq : lowercase r.name = lowercase p.name
    · exact ⟨p, by simp [firstOfName], heq.symm⟩
    · have hmem : r ∈ ps := (List.mem_cons.mp hr).resolve_left fun h => heq (by rw [h])
      obtain ⟨q, hq, hname⟩ := ih r hmem
      refine ⟨q, List.mem_cons_of_mem _ (List.mem_filter.mpr ⟨hq, ?_⟩), hname⟩
      simpa [hname] using heq

theorem firstOfName_earliest (ps : List Parameter) :
    ∀ p ∈ firstOfName ps, ps[position ps p]? = some p := by
  induction ps with
  | nil => intro p hp; cases hp
  | cons p ps ih =>
    intro q hq
    rw [firstOfName, List.mem_cons, List.mem_filter] at hq
    rcases hq with rfl | ⟨hq, hne⟩
    · rw [position_cons_self, List.getElem?_cons_zero]
    · rw [position_cons_of_ne (by simpa using hne), List.getElem?_cons_succ]
      exact ih q hq

theorem firstOfName_in_order (ps : List Parameter) :
    (firstOfName ps).Pairwise fun p q => position ps p < position ps q := by
  induction ps with
  | nil => exact .nil
  | cons p ps ih =>
    rw [firstOfName, List.pairwise_cons]
    constructor
    · intro q hq
      rw [position_cons_self, position_cons_of_ne (by simpa using (List.mem_filter.mp hq).2)]
      exact Nat.succ_pos _
    · refine (List.Pairwise.filter _ ih).imp_of_mem fun {q r} hq hr hlt => ?_
      rw [position_cons_of_ne (by simpa using (List.mem_filter.mp hq).2),
        position_cons_of_ne (by simpa using (List.mem_filter.mp hr).2)]
      exact Nat.succ_lt_succ hlt

theorem mem_requiredFirst {p : Parameter} {ps : List Parameter} :
    p ∈ requiredFirst ps ↔ p ∈ ps := by
  cases hp : p.required <;> simp [requiredFirst, hp]

/-- What holds of the pairs of a list in either order holds of the pairs once required ones come
first; inside the two groups no order is given up. -/
theorem pairwise_requiredFirst {R : Parameter → Parameter → Prop} {ps : List Parameter}
    (hsame : ps.Pairwise fun p q => p.required = q.required → R p q)
    (hcross : ∀ p ∈ ps, ∀ q ∈ ps, p.required → q.required = false → R p q) :
    (requiredFirst ps).Pairwise R := by
  rw [requiredFirst, List.pairwise_append]
  refine ⟨?_, ?_, ?_⟩
  · refine (hsame.filter _).imp_of_mem fun {p q} hp hq h => h ?_
    rw [(List.mem_filter.mp hp).2, (List.mem_filter.mp hq).2]
  · refine (hsame.filter _).imp_of_mem fun {p q} hp hq h => h ?_
    have hp' := (List.mem_filter.mp hp).2
    have hq' := (List.mem_filter.mp hq).2
    grind
  · intro p hp q hq
    obtain ⟨hp, hreq⟩ := List.mem_filter.mp hp
    obtain ⟨hq, hopt⟩ := List.mem_filter.mp hq
    exact hcross p hp q hq hreq (by simpa using hopt)

theorem requiredFirst_firstOfName_arranges (ps : List Parameter) :
    Arranges ps (requiredFirst (firstOfName ps)) where
  distinct := by
    apply pairwise_requiredFirst
    · refine (firstOfName_distinct ps).imp ?_
      intro p q hne _
      exact hne
    · intro p hp q hq hreq hopt heq
      have hpos : position ps p = position ps q := by rw [position, heq, position]
      have hsame : some p = some q := by
        rw [← firstOfName_earliest ps p hp, ← firstOfName_earliest ps q hq, hpos]
      simp [Option.some.inj hsame, hopt] at hreq
  complete := by
    intro p hp
    obtain ⟨q, hq, hname⟩ := firstOfName_complete ps p hp
    exact ⟨q, mem_requiredFirst.mpr hq, hname⟩
  earliest := fun p hp => firstOfName_earliest ps p (mem_requiredFirst.mp hp)
  required_first :=
    pairwise_requiredFirst (List.pairwise_of_forall fun _ _ h hq => h ▸ hq)
      fun _ _ _ _ hreq _ _ => hreq
  in_order :=
    pairwise_requiredFirst ((firstOfName_in_order ps).imp fun h _ _ => h)
      fun p _ q _ hreq hopt heq => by simp [heq, hopt] at hreq

/-! ## Who is in the list -/

/-- The first parameter of a name, names compared in lower case. -/
def first? (parameters : List Parameter) (name : String) : Option Parameter :=
  parameters.find? fun q => lowercase q.name == lowercase name

/-- No parameter before `p` has its name. -/
def IsFirst (parameters : List Parameter) (p : Parameter) : Prop :=
  first? parameters p.name = some p

theorem first?_eq_position (parameters : List Parameter) (p : Parameter) :
    first? parameters p.name = parameters[position parameters p]? :=
  List.find?_eq_getElem?_findIdx

theorem IsFirst.mem {parameters : List Parameter} {p : Parameter} (h : IsFirst parameters p) :
    p ∈ parameters := List.mem_of_find?_eq_some h

theorem IsFirst.eq {parameters : List Parameter} {p q : Parameter} (hp : IsFirst parameters p)
    (hq : IsFirst parameters q) (h : lowercase p.name = lowercase q.name) : p = q := by
  rw [IsFirst, first?, h] at hp
  exact Option.some.inj (hp.symm.trans hq)

/-- The first candidate of each name is in the list, and nothing else. -/
theorem Arranges.mem_iff {candidates list : List Parameter} (h : Arranges candidates list)
    {p : Parameter} : p ∈ list ↔ IsFirst candidates p := by
  have hfirst : ∀ q ∈ list, IsFirst candidates q := fun q hq =>
    (first?_eq_position candidates q).trans (h.earliest q hq)
  constructor
  · exact hfirst p
  · intro hp
    obtain ⟨q, hq, hname⟩ := h.complete p hp.mem
    exact (hfirst q hq).eq hp hname ▸ hq

theorem Arranges.nodup {candidates list : List Parameter} (h : Arranges candidates list) :
    list.Nodup := by
  refine h.distinct.imp fun {p q} hne heq => hne ?_
  rw [heq]

/-! ## The final list -/

theorem curate_resolves {table : ReferenceTable} {rules : ConvenienceRules} {declared : List Json}
    {operation : Json} {curated : Curated}
    (success : curate table rules declared operation = .ok curated) :
    ∃ resolved, Resolves table rules declared resolved := by
  obtain ⟨resolved, hall, _⟩ := Outcome.bind_eq_ok_iff.mp success
  exact ⟨resolved, resolveAll_eq_ok_iff.mp hall⟩

theorem Resolves.arranges {table : ReferenceTable} {rules : ConvenienceRules} {declared : List Json}
    {operation : Json} {resolved : List Parameter} {curated : Curated}
    (h : Resolves table rules declared resolved)
    (success : curate table rules declared operation = .ok curated) :
    Arranges (candidates table operation resolved) curated.list := by
  obtain ⟨_, hall, hreturn⟩ := Outcome.bind_eq_ok_iff.mp success
  cases (resolveAll_eq_ok_iff.mpr h).symm.trans hall
  cases hreturn
  rw [← withGenerated_eq_candidates]
  exact requiredFirst_firstOfName_arranges _

/-- The list of a curation arranges the candidates that its declared parameters resolve to. -/
theorem curate_arranges {table : ReferenceTable} {rules : ConvenienceRules} {declared : List Json}
    {operation : Json} {curated : Curated}
    (success : curate table rules declared operation = .ok curated) :
    ∃ resolved, Resolves table rules declared resolved ∧
      Arranges (candidates table operation resolved) curated.list := by
  obtain ⟨resolved, hresolves⟩ := curate_resolves success
  exact ⟨resolved, hresolves, hresolves.arranges success⟩

/-- A reference that a rule replaces, a name that a generated parameter takes, one name in two
cases, and required parameters behind optional ones. -/
def mixedParameters : List Json :=
  [.object [("$ref", .string "#/components/parameters/DBBranchNameParam")],
   .object [("name", .string "Payload"), ("in", .string "query")],
   .object [("name", .string "columns"), ("in", .string "query")],
   .object [("name", .string " COLUMNS"), ("in", .string "header"), ("required", .bool true)],
   .object [("name", .string "id"), ("in", .string "path")]]

/-- An operation with a request body and two response content types. -/
def mixedOperation : Json :=
  .object
    [("requestBody", .object []),
     ("responses", .object
       [("200", .object
         [("content", .object [("text/csv", .null), ("application/json", .null)])])])]

theorem curate_arranges_mixed :
    ∃ curated, curate ⟨[]⟩ .standard mixedParameters mixedOperation = .ok curated ∧
      curated.list.map (·.name) =
        ["id", "payload", "db_name", "branch_name", "columns", "response_content_type"] ∧
      ∃ resolved, Resolves ⟨[]⟩ .standard mixedParameters resolved ∧
        Arranges (candidates ⟨[]⟩ mixedOperation resolved) curated.list :=
  ⟨_, rfl, by decide +kernel, curate_arranges rfl⟩

end ClientForge.Api.Curation
