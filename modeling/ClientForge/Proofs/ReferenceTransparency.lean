import ClientForge.Proofs.Components
import Mathlib.Data.List.Forall2

/-!
References are as good as what they refer to: a parameter or a response may be written where it is
used or be a component that is referred to, and curation comes to the same. The component of a
parameter is read from the reference table, that of a response as well; neither the keys beside a
parameter's reference nor the way the reference is written matter.

Results:
1. `StandsFor.resolve`: a parameter resolves alike in place and behind a reference.
2. `ResponseStandsFor.responseCode_eq`, `ResponseStandsFor.contentsOf_eq`: so does a response.
3. `curate_referring`: curation with references comes to what it comes to without.
-/

namespace ClientForge

/-! ## Outcomes -/

/-- The failures have one cause. They are the same, but that a parameter without a name is reported
under the reference that led to it. -/
inductive Failure.Alike : Failure → Failure → Prop
  | refl (e : Failure) : Alike e e
  | nameless (origin origin' : Option String) :
      Alike (.invalidDocument (.parameterWithoutName origin))
        (.invalidDocument (.parameterWithoutName origin'))

/-- Both succeed with one result, or they fail alike. -/
inductive Outcome.Alike {α : Type} : Except Failure α → Except Failure α → Prop
  | ok (a : α) : Alike (.ok a) (.ok a)
  | error {e e' : Failure} : e.Alike e' → Alike (.error e) (.error e')

namespace Outcome.Alike

variable {α β : Type} {x x' : Except Failure α}

theorem refl (x : Except Failure α) : Alike x x := by
  cases x with
  | ok a => exact .ok a
  | error e => exact .error (.refl e)

theorem of_eq (h : x = x') : Alike x x' := h ▸ refl x

theorem bind {next next' : α → Except Failure β} (h : Alike x x')
    (hnext : ∀ a, Alike (next a) (next' a)) : Alike (x >>= next) (x' >>= next') := by
  cases h with
  | ok a => exact hnext a
  | error he => exact .error he

end Outcome.Alike

namespace Api

open ReferenceTable

/-! ## Definitions -/

/-- `d'` may stand in the place of the declared parameter `d`: it is `d`, or it refers to a component
that equals `d`, and no rule replaces the reference. -/
inductive StandsFor (document : Json) (rules : ConvenienceRules) : Json → Json → Prop
  | same (d : Json) : StandsFor document rules d d
  | component {d d' : Json} {reference : String} :
      d.string? "$ref" = none → d'.string? "$ref" = some reference →
      rules.find? reference = none → component? document reference = some d →
      StandsFor document rules d d'

/-- The same for a response under its status code. Here the reference stands alone. -/
inductive ResponseStandsFor (document : Json) : String × Json → String × Json → Prop
  | same (row : String × Json) : ResponseStandsFor document row row
  | component {code reference : String} {response : Json} :
      response.string? "$ref" = none → component? document reference = some response →
      ResponseStandsFor document (code, response)
        (code, .object [("$ref", .string reference)])

/-- `operation'` is `operation`, except that other responses may stand for some of its responses. The
parameters are left open: they are curated apart. -/
structure OperationStandsFor (document operation operation' : Json) : Prop where
  responses : List.Forall₂ (ResponseStandsFor document) (Curation.responsesOf operation)
    (Curation.responsesOf operation')
  elsewhere : ∀ key, key ≠ "parameters" → key ≠ "responses" →
    operation'.get? key = operation.get? key

/-! ## Parameters -/

namespace Curation

theorem nameOf_origin (d : Json) (origin origin' : Option String) :
    Outcome.Alike (nameOf d origin) (nameOf d origin') := by
  unfold nameOf
  split
  · exact .ok _
  · exact .error (.nameless origin origin')

theorem describe_origin (table : ReferenceTable) (d : Json) (origin origin' : Option String) :
    Outcome.Alike (describe table d origin) (describe table d origin') :=
  (nameOf_origin d origin origin').bind fun _ => .refl _

end Curation

open Curation

section

variable {document : Json} {rules : ConvenienceRules}

namespace StandsFor

variable {d d' : Json}

/-- A parameter resolves alike in place and behind a reference. -/
theorem resolve (h : StandsFor document rules d d') :
    Outcome.Alike (resolve (.ofDocument document) d) (resolve (.ofDocument document) d') := by
  cases h with
  | same => exact .refl _
  | component hinline href _ hfound =>
    rw [(Declares.inline hinline).resolve_eq, (Declares.component href hfound).resolve_eq]
    exact describe_origin _ d _ _

theorem ruleFor?_eq (h : StandsFor document rules d d') : rules.ruleFor? d' = rules.ruleFor? d := by
  cases h with
  | same => rfl
  | component hinline href hrule _ =>
    rw [ConvenienceRules.ruleFor?, ConvenienceRules.ruleFor?, hinline, href]
    exact hrule

theorem expand (h : StandsFor document rules d d') :
    List.Forall₂ (fun s s' => Outcome.Alike (resolveSource (.ofDocument document) s)
      (resolveSource (.ofDocument document) s')) (rules.expand d) (rules.expand d') := by
  rw [ConvenienceRules.expand, ConvenienceRules.expand, h.ruleFor?_eq]
  cases rules.ruleFor? d with
  | none => exact .cons h.resolve .nil
  | some rule => exact List.forall₂_same.mpr fun s _ => .refl _

end StandsFor

theorem resolveAll_alike {table : ReferenceTable} {sources sources' : List ParameterSource}
    (h : List.Forall₂ (fun s s' => Outcome.Alike (resolveSource table s) (resolveSource table s'))
      sources sources') :
    Outcome.Alike (resolveAll table sources) (resolveAll table sources') := by
  induction h with
  | nil => exact .refl _
  | cons hsource _ ih => exact hsource.bind fun p => ih.bind fun ps => .refl _

variable {declared declared' : List Json}

theorem sources_alike (h : List.Forall₂ (StandsFor document rules) declared declared') :
    Outcome.Alike (resolveAll (.ofDocument document) (rules.sources declared))
      (resolveAll (.ofDocument document) (rules.sources declared')) := by
  apply resolveAll_alike
  induction h with
  | nil => exact .nil
  | cons hd _ ih => exact List.rel_append hd.expand ih

theorem applied_eq (h : List.Forall₂ (StandsFor document rules) declared declared') :
    rules.applied declared' = rules.applied declared := by
  rw [ConvenienceRules.applied, ConvenienceRules.applied]
  congr 1
  induction h with
  | nil => rfl
  | cons hd _ ih => rw [List.filterMap_cons, List.filterMap_cons, hd.ruleFor?_eq, ih]

end

/-! ## Responses -/

section

variable {document operation operation' : Json}

namespace ResponseStandsFor

variable {row row' : String × Json}

theorem definition_get? {reference : String} {response : Json} {key : String}
    (hkey : key ≠ "type") (hfound : component? document reference = some response) :
    (responseDefinition (.ofDocument document) (.object [("$ref", .string reference)])).get? key =
      response.get? key := by
  have hdefinition : responseDefinition (.ofDocument document)
      (.object [("$ref", .string reference)]) = normalizeComponent response := by
    change ((ofDocument document).find? reference).getD _ = _
    rw [find?_ofDocument, hfound]
    rfl
  rw [hdefinition, get?_normalizeComponent response hkey]

theorem responseDefinition_inline {response : Json} (hinline : response.string? "$ref" = none) :
    responseDefinition (.ofDocument document) response = response := by
  rw [responseDefinition, hinline]
  rfl

theorem responseCode_eq (h : ResponseStandsFor document row row') :
    responseCode (.ofDocument document) row'.1 row'.2 =
      responseCode (.ofDocument document) row.1 row.2 := by
  cases h with
  | same => rfl
  | component hinline hfound =>
    rw [responseCode, responseCode, definition_get? (by decide) hfound,
      responseDefinition_inline hinline, Option.or_self]
    rfl

theorem contentsOf_eq (h : ResponseStandsFor document row row') :
    contentsOf (.ofDocument document) row'.1 row'.2 =
      contentsOf (.ofDocument document) row.1 row.2 := by
  cases h with
  | same => rfl
  | component hinline hfound =>
    rw [contentsOf, contentsOf, object?_congr (definition_get? (by decide) hfound),
      responseDefinition_inline hinline]

end ResponseStandsFor

namespace OperationStandsFor

theorem responseCodes_eq (h : OperationStandsFor document operation operation') :
    responseCodes (.ofDocument document) operation' =
      responseCodes (.ofDocument document) operation := by
  have hrows := h.responses
  rw [responseCodes, responseCodes]
  generalize responsesOf operation = rows, responsesOf operation' = rows' at hrows ⊢
  induction hrows with
  | nil => rfl
  | cons hrow _ ih => exact congrArg₂ List.cons hrow.responseCode_eq ih

theorem responseContents_eq (h : OperationStandsFor document operation operation') :
    responseContents (.ofDocument document) operation' =
      responseContents (.ofDocument document) operation := by
  have hrows := h.responses
  rw [responseContents, responseContents]
  generalize responsesOf operation = rows, responsesOf operation' = rows' at hrows ⊢
  induction hrows with
  | nil => rfl
  | cons hrow _ ih =>
    rw [List.flatMap_cons, List.flatMap_cons]
    exact congrArg₂ (· ++ ·) hrow.contentsOf_eq ih

theorem hasPayload_eq (h : OperationStandsFor document operation operation') :
    hasPayload operation' = hasPayload operation := by
  rw [hasPayload, hasPayload, h.elsewhere "requestBody" (by decide) (by decide)]

theorem generated_eq (h : OperationStandsFor document operation operation') :
    generated (.ofDocument document) operation' = generated (.ofDocument document) operation := by
  rw [generated, generated, h.hasPayload_eq, h.responseContents_eq]

end OperationStandsFor

end

/-! ## Curation -/

/-- Curation with references in the place of parameters and responses comes to what it comes to
without: the same list, flags, conveniences, response codes and content types, or a failure of the
same cause. -/
theorem curate_referring {document operation operation' : Json} {rules : ConvenienceRules}
    {declared declared' : List Json}
    (hdeclared : List.Forall₂ (StandsFor document rules) declared declared')
    (hoperation : OperationStandsFor document operation operation') :
    Outcome.Alike (curate (.ofDocument document) rules declared operation)
      (curate (.ofDocument document) rules declared' operation') := by
  refine (sources_alike hdeclared).bind fun resolved => .of_eq ?_
  rw [withGenerated, withGenerated, hoperation.generated_eq, hoperation.hasPayload_eq,
    hoperation.responseContents_eq, hoperation.responseCodes_eq, applied_eq hdeclared]

/-- A parameter with a `type` beside its schema, so that its component is normalised. -/
def pageSize : Json :=
  .object
    [("name", .string "size"), ("in", .string "query"), ("type", .string "Integer"),
     ("schema", .object [("type", .string "integer"), ("default", .ofInt 20)])]

def csvResponse : Json :=
  .object [("description", .string "OK"), ("content", .object [("text/csv", .null)])]

def pageDocument : Json :=
  .object [("components", .object
    [("parameters", .object [("PageSize", pageSize)]),
     ("responses", .object [("Csv", csvResponse)])])]

/-- A reference that a rule replaces. -/
def workspaceReference : Json :=
  .object [("$ref", .string "#/components/parameters/WorkspaceIDParam")]

/-- A reference by key, with keys beside it that are not looked at. -/
def pageReference : Json :=
  .object [("name", .string "other"), ("$ref", .string "parameters/PageSize")]

def pageOperation (response : Json) : Json :=
  .object
    [("requestBody", .object []),
     ("responses", .object
       [("200", response), ("201", .object [("content", .object [("text/plain", .null)])])])]

theorem curate_referring_page :
    List.Forall₂ (StandsFor pageDocument .standard) [workspaceReference, pageSize]
      [workspaceReference, pageReference] ∧
    OperationStandsFor pageDocument (pageOperation csvResponse)
      (pageOperation (.object [("$ref", .string "#/components/responses/Csv")])) ∧
    (∃ curated, curate (.ofDocument pageDocument) .standard [workspaceReference, pageSize]
        (pageOperation csvResponse) = .ok curated ∧
      curated.list.map (·.name) = ["payload", "workspace_id", "size", "response_content_type"]) ∧
    Outcome.Alike
      (curate (.ofDocument pageDocument) .standard [workspaceReference, pageSize]
        (pageOperation csvResponse))
      (curate (.ofDocument pageDocument) .standard [workspaceReference, pageReference]
        (pageOperation (.object [("$ref", .string "#/components/responses/Csv")]))) := by
  have hdeclared : List.Forall₂ (StandsFor pageDocument .standard) [workspaceReference, pageSize]
      [workspaceReference, pageReference] :=
    .cons (.same _) (.cons (.component rfl rfl (by rfl) (by rfl)) .nil)
  have hoperation : OperationStandsFor pageDocument (pageOperation csvResponse)
      (pageOperation (.object [("$ref", .string "#/components/responses/Csv")])) := by
    refine ⟨.cons (.component rfl (by rfl)) (.cons (.same _) .nil), fun key _ hkey => ?_⟩
    have hresponses : (key == "responses") = false := by simpa using hkey
    simp [pageOperation, Json.get?, List.lookup_cons, hresponses]
  exact ⟨hdeclared, hoperation, ⟨_, rfl, by decide +kernel⟩, curate_referring hdeclared hoperation⟩

end Api

end ClientForge
