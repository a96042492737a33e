import ClientForge.Proofs.GeneratedParameters
import ClientForge.Proofs.Identifiers
import ClientForge.Proofs.MethodText

/-!
Whether the arguments of a generated method have distinct names. Parameters are told apart by their
names in lower case, arguments by the identifiers made of these; different names may have one
identifier, and the template for uploads has an argument that no parameter knows of.

Results:
1. `Resolves.named`: a parameter has the identifier of its name.
2. `curate_argument_names`: when the names of the arguments are distinct.
-/

namespace ClientForge

namespace Api.Curation

open Text

/-! ## The identifiers of the candidates -/

/-- The identifier of the parameter is the one of its name. -/
def IsNamed (p : Parameter) : Prop := p.ident = Naming.parameterName p.name

instance (p : Parameter) : Decidable (IsNamed p) := inferInstanceAs (Decidable (_ = _))

theorem resolve_named {table : ReferenceTable} {declared : Json} {p : Parameter}
    (h : resolve table declared = .ok p) : IsNamed p := by
  obtain ⟨_, _, _, hdescribe⟩ := resolve_ok h
  obtain ⟨_, _, _, _, _, _, rfl⟩ := describe_ok hdescribe
  rw [IsNamed, described]

theorem standard_named : ∀ rule ∈ ConvenienceRules.standard, ∀ p ∈ rule.replacements, IsNamed p := by
  decide +kernel

theorem Resolves.named {table : ReferenceTable} {declared : List Json} {ps : List Parameter}
    (h : Resolves table .standard declared ps) : ∀ p ∈ ps, IsNamed p :=
  h.forall_mem standard_named fun _ _ => resolve_named

/-- A candidate is a resolved parameter or a generated one. -/
theorem forall_candidates {table : ReferenceTable} {operation : Json} {resolved : List Parameter}
    {P : Parameter → Prop} (hresolved : ∀ p ∈ resolved, P p) (hpayload : P payload)
    (hselector : ∀ default, P (contentTypeSelector default)) :
    ∀ p ∈ candidates table operation resolved, P p := by
  intro p hp
  rw [candidates_eq, List.mem_append, List.mem_append] at hp
  rcases hp with hkept | hbody | hchoice
  · exact hresolved p (List.mem_of_mem_filter hkept)
  · obtain rfl : payload = p := by
      split_ifs at hbody
      · exact (List.mem_singleton.mp hbody).symm
      · cases hbody
    exact hpayload
  · obtain ⟨_, first, _, _, rfl⟩ := selector?_eq_some (Option.mem_toList.mp hchoice)
    exact hselector _

theorem payload_named : IsNamed payload := by decide +kernel

theorem selector_named (default : String) : IsNamed (contentTypeSelector default) := by
  have hname : "response_content_type" = Naming.parameterName "response_content_type" := by
    decide +kernel
  exact hname

/-- Candidates of different names have different identifiers. -/
def Separates (candidates : List Parameter) : Prop :=
  ∀ p q, IsFirst candidates p → IsFirst candidates q →
    Naming.parameterName p.name = Naming.parameterName q.name → lowercase p.name = lowercase q.name

theorem Arranges.idents_nodup_iff {candidates list : List Parameter} (h : Arranges candidates list)
    (hnamed : ∀ p ∈ candidates, IsNamed p) :
    (list.map (·.ident)).Nodup ↔ Separates candidates := by
  rw [List.nodup_map_iff_inj_on h.nodup]
  constructor
  · intro hinj p q hp hq hname
    have hident : p.ident = q.ident := by rw [hnamed p hp.mem, hnamed q hq.mem, hname]
    rw [hinj p (h.mem_iff.mpr hp) q (h.mem_iff.mpr hq) hident]
  · intro hseparates p hp q hq hident
    have hfirst := h.mem_iff.mp hp
    have hfirst' := h.mem_iff.mp hq
    rw [hnamed p hfirst.mem, hnamed q hfirst'.mem] at hident
    exact hfirst.eq hfirst' (hseparates p q hfirst hfirst' hident)

/-- The same with one more identifier behind those of the list. -/
theorem Arranges.idents_append_nodup_iff {candidates list : List Parameter}
    (h : Arranges candidates list) (hnamed : ∀ p ∈ candidates, IsNamed p) (ident : String) :
    (list.map (·.ident) ++ [ident]).Nodup ↔ Separates candidates ∧
      ∀ p, IsFirst candidates p → Naming.parameterName p.name ≠ ident := by
  rw [List.nodup_append, h.idents_nodup_iff hnamed]
  refine and_congr_right fun _ => ?_
  constructor
  · rintro ⟨_, hne⟩ p hp hname
    exact hne _ (List.mem_map_of_mem (h.mem_iff.mpr hp)) ident (List.mem_singleton_self _)
      ((hnamed p hp.mem).trans hname)
  · intro hne
    refine ⟨List.nodup_singleton _, List.forall_mem_map.mpr fun p hp => ?_⟩
    have hfirst := h.mem_iff.mp hp
    exact List.forall_mem_singleton.mpr fun hident =>
      hne p hfirst ((hnamed p hfirst.mem).symm.trans hident)

theorem separates_of_snakeCase {candidates : List Parameter}
    (h : ∀ p ∈ candidates, Naming.IsSnakeCase p.name) : Separates candidates := by
  intro p q hp hq hname
  rw [(h p hp.mem).eq_of_parameterName (h q hq.mem) hname]

end Api.Curation

/-! ## The arguments of a method -/

namespace Codegen

open Api Api.Curation

def argumentNames (arguments : List Argument) : List String := arguments.map (·.1)

theorem argumentNames_arguments (curated : Curated) :
    argumentNames (arguments curated) = curated.list.map (·.ident) := by
  rw [argumentNames, arguments, List.map_map]
  rfl

theorem argumentNames_uploadArguments (curated : Curated) :
    argumentNames (uploadArguments curated) = curated.list.map (·.ident) ++ ["content_type"] := by
  rw [argumentNames, uploadArguments, List.map_append, List.map_map]
  rfl

theorem payload_snakeCase : Naming.IsSnakeCase "payload" := by constructor <;> simp

theorem selector_snakeCase : Naming.IsSnakeCase "response_content_type" := by constructor <;> simp

theorem content_type_snakeCase : Naming.IsSnakeCase "content_type" := by constructor <;> simp

theorem selector_name_ne {default : String} :
    (contentTypeSelector default).name ≠ "content_type" := by
  have hne : "response_content_type" ≠ "content_type" := by decide +kernel
  exact hne

theorem content_type_named : "content_type" = Naming.parameterName "content_type" := by
  decide +kernel

/-- Whether the arguments of a curated method have distinct names, for an upload and otherwise: exactly
when no two candidates of different names have one identifier, and, for an upload, none has that of
the argument which the template adds. -/
structure NamesArguments (candidates resolved : List Parameter) (curated : Curated) : Prop where
  distinct_iff : (argumentNames (arguments curated)).Nodup ↔ Separates candidates
  upload_distinct_iff : (argumentNames (uploadArguments curated)).Nodup ↔
    Separates candidates ∧
      ∀ p, IsFirst candidates p → Naming.parameterName p.name ≠ "content_type"
  snakeCase_distinct : (∀ p ∈ resolved, Naming.IsSnakeCase p.name) →
    (argumentNames (arguments curated)).Nodup
  snakeCase_upload_distinct : (∀ p ∈ resolved, Naming.IsSnakeCase p.name) →
    (∀ p ∈ resolved, p.name ≠ "content_type") → (argumentNames (uploadArguments curated)).Nodup
  declares : ∀ scope input name source,
    Template.Builtin.endpoint.render (Endpoint.context scope input curated name) = some source →
    DeclaresMethod source name (arguments curated)
  upload_declares : ∀ scope input name source,
    Template.Builtin.endpointBinary.render (Endpoint.context scope input curated name) =
      some source → DeclaresMethod source name (uploadArguments curated)

/-- When the arguments of a method have distinct names. -/
theorem curate_argument_names {table : ReferenceTable} {declared : List Json} {operation : Json}
    {curated : Curated} (success : curate table .standard declared operation = .ok curated) :
    ∃ resolved, Resolves table .standard declared resolved ∧
      NamesArguments (candidates table operation resolved) resolved curated := by
  obtain ⟨resolved, hresolves⟩ := curate_resolves success
  have harranges := hresolves.arranges success
  have hnamed : ∀ p ∈ candidates table operation resolved, IsNamed p :=
    forall_candidates hresolves.named payload_named selector_named
  have hsnake (h : ∀ p ∈ resolved, Naming.IsSnakeCase p.name) :
      ∀ p ∈ candidates table operation resolved, Naming.IsSnakeCase p.name :=
    forall_candidates h payload_snakeCase fun _ => selector_snakeCase
  have hdistinct := harranges.idents_nodup_iff hnamed
  have hupload := harranges.idents_append_nodup_iff hnamed "content_type"
  rw [← argumentNames_arguments] at hdistinct
  rw [← argumentNames_uploadArguments] at hupload
  refine ⟨resolved, hresolves, hdistinct, hupload, fun h => ?_, fun h hother => ?_, ?_, ?_⟩
  · exact hdistinct.mpr (separates_of_snakeCase (hsnake h))
  · refine hupload.mpr ⟨separates_of_snakeCase (hsnake h), fun p hp hname => ?_⟩
    have hnone : ∀ p ∈ candidates table operation resolved, p.name ≠ "content_type" :=
      forall_candidates hother (by decide +kernel) fun _ => selector_name_ne
    rw [content_type_named] at hname
    exact hnone p hp.mem ((hsnake h p hp.mem).eq_of_parameterName content_type_snakeCase hname)
  · exact fun _ _ _ _ => endpoint_signature
  · exact fun _ _ _ _ => endpointBinary_signature

/-- A reference that a rule replaces, a reserved word, and one name in two cases. -/
def requestParameters : List Json :=
  [.object [("$ref", .string "#/components/parameters/WorkspaceIDParam")],
   .object [("name", .string "type"), ("in", .string "query")],
   .object [("name", .string "X-Request-Id"), ("in", .string "header")],
   .object [("name", .string "x-request-id"), ("in", .string "query")]]

theorem curate_argument_names_request :
    ∃ curated, curate ⟨[]⟩ .standard requestParameters (.object [("requestBody", .object [])]) =
        .ok curated ∧
      argumentNames (arguments curated) = ["payload", "workspace_id", "type_", "x_request_id"] ∧
      ∃ resolved, Resolves ⟨[]⟩ .standard requestParameters resolved ∧
        NamesArguments (candidates ⟨[]⟩ (.object [("requestBody", .object [])]) resolved) resolved
          curated :=
  ⟨_, rfl, by decide +kernel, curate_argument_names rfl⟩

/-- A header and a query parameter of different names that have one identifier. -/
def clashingParameters : List Json :=
  [.object [("name", .string "X-Request-Id"), ("in", .string "header")],
   .object [("name", .string "x_request_id"), ("in", .string "query")]]

/-- A header that has the name of the argument for uploads. -/
def typedUpload : List Json := [.object [("name", .string "Content-Type"), ("in", .string "header")]]

theorem clashing_arguments :
    (∃ curated, curate ⟨[]⟩ .standard clashingParameters (.object []) = .ok curated ∧
      (∀ p ∈ curated.list, p.name.toList.any Char.isAlpha = true) ∧
      argumentNames (arguments curated) = ["x_request_id", "x_request_id"] ∧
      ¬ (argumentNames (arguments curated)).Nodup) ∧
    ∃ curated, curate ⟨[]⟩ .standard typedUpload (.object [("requestBody", .object [])]) =
        .ok curated ∧
      (∀ p ∈ curated.list, p.name.toList.any Char.isAlpha = true) ∧
      argumentNames (uploadArguments curated) = ["payload", "content_type", "content_type"] ∧
      ¬ (argumentNames (uploadArguments curated)).Nodup := by
  refine ⟨⟨_, rfl, by decide +kernel, by decide +kernel, ?_⟩,
    ⟨_, rfl, by decide +kernel, by decide +kernel, ?_⟩⟩
  · decide +kernel
  · decide +kernel

end Codegen

end ClientForge
