import ClientForge.Proofs.ArgumentNames
import ClientForge.Proofs.PathArguments

/-!
The arguments that the client's own values are asked with. A method asks for such a value when a
rule has replaced a reference to it, by the arguments that the rule puts there. These have to keep
their places in the final list, where only the first parameter of a name stays.

Results:
1. `first?_replacement_iff`: a replacement comes first among the resolved parameters exactly when
   the reference stands before every declared parameter of its name.
2. `Arranges.replacement_mem_iff`: nothing but that decides whether it stays.
3. `curate_conveniences`: which values a method asks for, and which of the arguments are there.
-/

namespace ClientForge

namespace Api.Curation

open Text

/-! ## Definitions -/

/-- A path segment that the caller may leave out. -/
structure IsOptionalSegment (ident : String) (p : Parameter) : Prop where
  identified : p.ident = ident
  located : p.location = .path
  optional : p.required = false
  typed : p.type = "str"

/-- A reference that the rule replaces stands before every declared parameter of the name. -/
inductive StandsFirst (table : ReferenceTable) (rule : ConvenienceRule) (name : String) :
    List Json → Prop
  | here {d : Json} {ds : List Json} : ConvenienceRules.standard.ruleFor? d = some rule →
      StandsFirst table rule name (d :: ds)
  | later {d : Json} {ds : List Json} :
      (∀ p, ConvenienceRules.standard.ruleFor? d = none → resolve table d = .ok p →
        lowercase p.name ≠ name) →
      StandsFirst table rule name ds → StandsFirst table rule name (d :: ds)

/-! ## The standard rules -/

/-- Every replacement is an optional segment; its name is in lower case and no generated one. -/
structure IsReplacement (p : Parameter) : Prop where
  segment : IsOptionalSegment p.ident p
  lower : lowercase p.name = p.name
  ungenerated : sameIgnoringAsciiCase p.name "payload" = false ∧
    sameIgnoringAsciiCase p.name "response_content_type" = false

theorem standard_isReplacement :
    ∀ rule ∈ ConvenienceRules.standard, ∀ r ∈ rule.replacements, IsReplacement r := by
  have hsegments : ∀ rule ∈ ConvenienceRules.standard, ∀ r ∈ rule.replacements,
      (r.location = .path ∧ r.required = false ∧ r.type = "str") ∧ lowercase r.name = r.name ∧
        sameIgnoringAsciiCase r.name "payload" = false ∧
        sameIgnoringAsciiCase r.name "response_content_type" = false := by
    decide +kernel
  intro rule hrule r hr
  obtain ⟨⟨hpath, hoptional, htype⟩, hlower, hungenerated⟩ := hsegments rule hrule r hr
  exact ⟨⟨rfl, hpath, hoptional, htype⟩, hlower, hungenerated⟩

/-- A replacement is known by its name and by its identifier, and so is the rule that it is of. -/
theorem standard_unique : ∀ rule ∈ ConvenienceRules.standard, ∀ r ∈ rule.replacements,
    ∀ rule' ∈ ConvenienceRules.standard, ∀ r' ∈ rule'.replacements,
    r.name = r'.name ∨ r.ident = r'.ident → rule = rule' ∧ r = r' := by
  simp only [ConvenienceRules.standard, List.forall_mem_cons, List.not_mem_nil, false_imp_iff,
    implies_true, and_true, ConvenienceRules.optionalSegment]
  simp

theorem standard_kind_unique : ∀ rule ∈ ConvenienceRules.standard,
    ∀ rule' ∈ ConvenienceRules.standard, rule.kind = rule'.kind → rule = rule' := by
  simp [ConvenienceRules.standard]

section

variable {table : ReferenceTable} {operation : Json} {declared : List Json}
  {resolved list : List Parameter} {rule rule' : ConvenienceRule} {r r' : Parameter}

theorem standard_same (hrule : rule ∈ ConvenienceRules.standard) (hr : r ∈ rule.replacements)
    (hrule' : rule' ∈ ConvenienceRules.standard) (hr' : r' ∈ rule'.replacements)
    (h : lowercase r'.name = lowercase r.name) : rule = rule' ∧ r = r' := by
  rw [(standard_isReplacement rule hrule r hr).lower,
    (standard_isReplacement rule' hrule' r' hr').lower] at h
  exact standard_unique rule hrule r hr rule' hrule' r' hr' (.inl h.symm)

theorem first?_replacements (hrule : rule ∈ ConvenienceRules.standard) (hr : r ∈ rule.replacements) :
    first? rule.replacements r.name = some r := by
  obtain ⟨q, hq⟩ := exists_first? hr
  have hname : lowercase q.name = lowercase r.name := by simpa using List.find?_some hq
  obtain ⟨_, rfl⟩ := standard_same hrule hr hrule (List.mem_of_find?_eq_some hq) hname
  exact hq

theorem first?_replacements_other (hrule : rule ∈ ConvenienceRules.standard)
    (hr : r ∈ rule.replacements) (hrule' : rule' ∈ ConvenienceRules.standard) (hne : rule ≠ rule') :
    first? rule'.replacements r.name = none := by
  rw [first?, List.find?_eq_none]
  intro q hq hname
  exact hne (standard_same hrule hr hrule' hq (by simpa using hname)).1

/-! ## Which replacements come first -/

/-- A declared parameter is none of the replacements: in the path it is required. -/
theorem resolve_ne_replacement {d : Json} {p : Parameter} (h : resolve table d = .ok p)
    (hr : IsReplacement r) : p ≠ r := by
  rintro rfl
  have hrequired := Codegen.resolve_required h hr.segment.located
  rw [hr.segment.optional] at hrequired
  cases hrequired

/-- By induction on the declared parameters: the first of them that concerns the name decides. -/
theorem first?_replacement_iff (hrule : rule ∈ ConvenienceRules.standard)
    (hr : r ∈ rule.replacements) (h : Resolves table .standard declared resolved) :
    first? resolved r.name = some r ↔ StandsFirst table rule r.name declared := by
  have hreplacement := standard_isReplacement rule hrule r hr
  induction h with
  | nil => exact iff_of_false (fun h => nomatch h) (fun h => nomatch h)
  | @replaced d ds ps rule' hrule' _ ih =>
    rw [first?_append]
    by_cases hsame : rule = rule'
    · rw [← hsame, first?_replacements hrule hr]
      exact iff_of_true rfl (.here (hsame ▸ hrule'))
    · rw [first?_replacements_other hrule hr (mem_of_ruleFor? hrule') hsame, Option.none_or]
      refine Iff.trans ih ⟨?_, ?_⟩
      · exact .later fun p hnone => by rw [hrule'] at hnone; cases hnone
      · rintro (hhere | ⟨_, hlater⟩)
        · rw [hrule'] at hhere
          exact absurd (Option.some.inj hhere).symm hsame
        · exact hlater
  | @resolved d ds p ps hnone hp _ ih =>
    rw [first?, List.find?_cons]
    by_cases hname : lowercase p.name = lowercase r.name
    · rw [beq_iff_eq.mpr hname]
      refine iff_of_false (fun h => ?_) ?_
      · exact resolve_ne_replacement hp hreplacement (Option.some.inj h)
      · rintro (hhere | ⟨hother, _⟩)
        · rw [hnone] at hhere
          cases hhere
        · exact hother p hnone hp (hname.trans hreplacement.lower)
    · rw [beq_eq_false_iff_ne.mpr hname]
      refine Iff.trans ih ⟨.later fun q _ hq => ?_, ?_⟩
      · rw [hp] at hq
        cases hq
        rwa [← hreplacement.lower]
      · rintro (hhere | ⟨_, hlater⟩)
        · rw [hnone] at hhere
          cases hhere
        · exact hlater

/-! ## Which replacements stay -/

theorem IsReplacement.not_displaced (hr : IsReplacement r) : ¬ IsDisplaced table operation r := by
  rw [IsDisplaced, hr.ungenerated.1, hr.ungenerated.2]
  simp

/-- Nothing but its place among the resolved parameters decides whether a replacement stays. -/
theorem Arranges.replacement_mem_iff (h : Arranges (candidates table operation resolved) list)
    (hr : IsReplacement r) : r ∈ list ↔ first? resolved r.name = some r := by
  rw [h.mem_iff]
  exact ⟨fun hfirst => (hfirst.of_candidates hr.segment.located).2,
    fun hfirst => IsFirst.candidates hfirst hr.not_displaced⟩

/-- Some parameter of the name stays, and only a replacement can be an optional segment. -/
theorem Arranges.holds_name (h : Arranges (candidates table operation resolved) list)
    (hr : IsReplacement r) (hmem : r ∈ resolved) : ∃ p ∈ list, lowercase p.name = r.name := by
  obtain ⟨p, hp⟩ := exists_first? hmem
  have hname : lowercase p.name = lowercase r.name := by simpa using List.find?_some hp
  have hfirst : IsFirst resolved p := by
    rw [IsFirst, first?, hname]
    exact hp
  have hkept : ¬ IsDisplaced table operation p := (IsDisplaced.congr hname).not.mpr hr.not_displaced
  exact ⟨p, h.mem_iff.mpr (hfirst.candidates hkept), hname.trans hr.lower⟩

theorem optional_segment_replaces (h : Resolves table .standard declared resolved) :
    ∀ p ∈ resolved, p.location = .path → p.required = false →
      ∃ rule ∈ ConvenienceRules.standard, p ∈ rule.replacements :=
  h.forall_mem (fun rule hrule p hp _ _ => ⟨rule, hrule, hp⟩) fun d p hp hpath hoptional => by
    rw [Codegen.resolve_required hp hpath] at hoptional
    cases hoptional

theorem Arranges.optional_segment_iff (h : Arranges (candidates table operation resolved) list)
    (hresolves : Resolves table .standard declared resolved)
    (hrule : rule ∈ ConvenienceRules.standard) (hr : r ∈ rule.replacements) :
    (∃ p ∈ list, IsOptionalSegment r.ident p) ↔ r ∈ list := by
  constructor
  · rintro ⟨p, hp, hsegment⟩
    have hfirst := ((h.mem_iff.mp hp).of_candidates hsegment.located).2
    obtain ⟨rule', hrule', hp'⟩ := optional_segment_replaces hresolves p hfirst.mem
      hsegment.located hsegment.optional
    obtain ⟨_, rfl⟩ := standard_unique rule hrule r hr rule' hrule' p hp'
      (.inr hsegment.identified.symm)
    exact hp
  · exact fun hmem => ⟨r, hmem, (standard_isReplacement rule hrule r hr).segment⟩

end

end Api.Curation

namespace Codegen

open Api Api.Curation Template

/-! ## The values that a method asks for -/

/-- How a curated method asks for the value of a rule. It does when a rule's reference is declared,
with the identifiers of the replacements. Each of these is an optional text of the method's own
exactly when the reference stands before every declared parameter of the name; otherwise a declared
parameter has the name. -/
structure AsksFor (table : ReferenceTable) (declared : List Json) (curated : Curated)
    (rule : ConvenienceRule) : Prop where
  recorded_iff : rule.kind ∈ curated.conveniences ↔
    ∃ d ∈ declared, ConvenienceRules.standard.ruleFor? d = some rule
  asked : convenienceArguments rule.kind = rule.replacements.map (·.ident)
  written : ∀ scope input name,
    Builtin.endpoint.render (Endpoint.context scope input curated name) =
      some (GeneratedMethod.ofEndpoint scope input curated name).text ∧
    (rule.kind ∈ (GeneratedMethod.ofEndpoint scope input curated name).conveniences ↔
      rule.kind ∈ curated.conveniences)
  upload_written : ∀ scope input name,
    Builtin.endpointBinary.render (Endpoint.context scope input curated name) =
      some (GeneratedMethod.ofUpload scope input curated name).text ∧
    (rule.kind ∈ (GeneratedMethod.ofUpload scope input curated name).conveniences ↔
      rule.kind ∈ curated.conveniences)
  stays_iff : ∀ r ∈ rule.replacements,
    (∃ p ∈ curated.list, IsOptionalSegment r.ident p) ↔ StandsFirst table rule r.name declared
  passed : ∀ r ∈ rule.replacements, StandsFirst table rule r.name declared →
    (r.ident, "Option<&str>") ∈ arguments curated ∧
      (r.ident, "Option<&str>") ∈ uploadArguments curated
  held : rule.kind ∈ curated.conveniences → ∀ r ∈ rule.replacements,
    ∃ p ∈ curated.list, Text.lowercase p.name = r.name

theorem mem_applied_iff (declared : List Json) {rule : ConvenienceRule}
    (hrule : rule ∈ ConvenienceRules.standard) :
    rule.kind ∈ ConvenienceRules.standard.applied declared ↔
      ∃ d ∈ declared, ConvenienceRules.standard.ruleFor? d = some rule := by
  rw [ConvenienceRules.applied, List.mem_eraseDups, List.mem_filterMap]
  refine exists_congr fun d => and_congr_right fun _ => ?_
  rw [Option.map_eq_some_iff]
  constructor
  · rintro ⟨rule', hrule', hkind⟩
    rw [hrule', standard_kind_unique _ (mem_of_ruleFor? hrule') _ hrule hkind]
  · exact fun h => ⟨rule, h, rfl⟩

theorem mem_conveniencesOf_iff {curated : Curated} (kind : ConvenienceKind) :
    kind ∈ conveniencesOf curated ↔ kind ∈ curated.conveniences := by
  rw [conveniencesOf, List.mem_filter, List.contains_iff_mem]
  refine and_iff_right ?_
  cases kind <;> simp

theorem convenienceArguments_eq : ∀ rule ∈ ConvenienceRules.standard,
    convenienceArguments rule.kind = rule.replacements.map (·.ident) := by
  decide

theorem argumentOf_segment {p : Parameter} {ident : String} (h : IsOptionalSegment ident p) :
    argumentOf p = (ident, "Option<&str>") ∧ uploadArgumentOf p = (ident, "Option<&str>") := by
  have htype : argumentType "str" false = "Option<&str>" := by decide
  rw [argumentOf, uploadArgumentOf, h.identified, h.located, h.typed, h.optional, htype]
  exact ⟨rfl, rfl⟩

/-- Which of the client's values a curated method asks for, and which of the arguments it asks with
are there. -/
theorem curate_conveniences {table : ReferenceTable} {declared : List Json} {operation : Json}
    {curated : Curated} (success : curate table .standard declared operation = .ok curated) :
    ∀ rule ∈ ConvenienceRules.standard, AsksFor table declared curated rule := by
  intro rule hrule
  obtain ⟨resolved, hresolves⟩ := curate_resolves success
  have harranges := hresolves.arranges success
  have hconveniences : curated.conveniences = ConvenienceRules.standard.applied declared := by
    obtain ⟨_, _, hreturn⟩ := Outcome.bind_eq_ok_iff.mp success
    cases hreturn
    rfl
  have hrecorded := mem_applied_iff declared hrule
  rw [← hconveniences] at hrecorded
  have hstays : ∀ r ∈ rule.replacements,
      r ∈ curated.list ↔ StandsFirst table rule r.name declared := fun r hr =>
    (harranges.replacement_mem_iff (standard_isReplacement rule hrule r hr)).trans
      (first?_replacement_iff hrule hr hresolves)
  refine ⟨hrecorded, convenienceArguments_eq rule hrule,
    fun _ _ _ => ⟨endpoint_text, mem_conveniencesOf_iff _⟩,
    fun _ _ _ => ⟨endpointBinary_text, mem_conveniencesOf_iff _⟩, fun r hr => ?_,
    fun r hr hfirst => ?_, fun hkind r hr => ?_⟩
  · exact (harranges.optional_segment_iff hresolves hrule hr).trans (hstays r hr)
  · obtain ⟨hargument, hupload⟩ := argumentOf_segment (standard_isReplacement rule hrule r hr).segment
    have hmem := (hstays r hr).mpr hfirst
    refine ⟨?_, List.mem_append_left _ ?_⟩
    · exact hargument ▸ List.mem_map_of_mem hmem
    · exact hupload ▸ List.mem_map_of_mem hmem
  · obtain ⟨d, hd, hfor⟩ := hrecorded.mp hkind
    exact harranges.holds_name (standard_isReplacement rule hrule r hr)
      (hresolves.mem_iff.mpr ⟨d, hd, .inl ⟨rule, hfor, hr⟩⟩)

/-- A reference to a database branch, and another parameter behind it. -/
def branchParameters : List Json :=
  [.object [("$ref", .string "#/components/parameters/DBBranchNameParam")],
   .object [("name", .string "DB_Name"), ("in", .string "query")]]

theorem curate_conveniences_branch :
    ∃ curated, curate ⟨[]⟩ .standard branchParameters (.object []) = .ok curated ∧
      curated.conveniences = [.dbBranchName] ∧
      arguments curated = [("db_name", "Option<&str>"), ("branch_name", "Option<&str>")] ∧
      ∀ rule ∈ ConvenienceRules.standard, AsksFor ⟨[]⟩ branchParameters curated rule :=
  ⟨_, rfl, by decide +kernel, by decide +kernel, curate_conveniences rfl⟩

/-- The same the other way round, the other parameter being a number. -/
def shadowedParameters : List Json :=
  [.object
    [("name", .string "db_name"), ("in", .string "query"),
     ("schema", .object [("type", .string "integer")])],
   .object [("$ref", .string "#/components/parameters/DBBranchNameParam")]]

/-- The method asks for a database branch with an argument that is a number. -/
theorem convenience_argument_lost :
    ∃ curated, curate ⟨[]⟩ .standard shadowedParameters (.object []) = .ok curated ∧
      .dbBranchName ∈ curated.conveniences ∧
      arguments curated = [("db_name", "Option<i64>"), ("branch_name", "Option<&str>")] ∧
      ¬ ∃ p ∈ curated.list, IsOptionalSegment "db_name" p := by
  obtain ⟨curated, hcurate, hrecorded, harguments, hlocations⟩ : ∃ curated,
      curate ⟨[]⟩ .standard shadowedParameters (.object []) = .ok curated ∧
      .dbBranchName ∈ curated.conveniences ∧
      arguments curated = [("db_name", "Option<i64>"), ("branch_name", "Option<&str>")] ∧
      ∀ p ∈ curated.list, p.ident = "db_name" → p.location = .query :=
    ⟨_, rfl, by decide +kernel, by decide +kernel, by decide +kernel⟩
  refine ⟨curated, hcurate, hrecorded, harguments, ?_⟩
  rintro ⟨p, hp, hsegment⟩
  have hquery := hlocations p hp hsegment.identified
  rw [hsegment.located] at hquery
  cases hquery

end Codegen

end ClientForge
