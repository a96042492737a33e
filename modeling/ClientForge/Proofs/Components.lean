import ClientForge.Api.Curation
import ClientForge.Proofs.Outcome

/-!
The components of a document, and what curation reads of a definition. `component?` looks a
reference up in the document itself. The reference table holds the same components, except that the
`type` of each is normalised; what stands under any other key is the same in both.

Results:
1. `find?_ofDocument`: the table finds the component of the document, normalised.
2. `get?_normalizeComponent`: normalising changes nothing but the `type`.
3. `resolve_ok`, `describe_ok`: when a declared parameter resolves, and to what.
4. `Declares.resolve_eq`: a parameter resolves to what its definition in the document describes.
-/

namespace ClientForge.Api

/-! ## Definitions -/

namespace ReferenceTable

/-- The components of every group, as they are in the document. -/
def written (document : Json) : List (String × Json) :=
  ((document.object? "components").getD []).flatMap fun (group, members) =>
    (members.asObject?.getD []).map fun (name, component) => (group ++ "/" ++ name, component)

/-- The component that a reference resolves to, of several with one key the last. -/
def component? (document : Json) (reference : String) : Option Json :=
  (written document).reverse.lookup (key reference)

end ReferenceTable

namespace Curation

/-- The parameter of a definition, once its name, location and type are known. -/
def described (definition : Json) (name : String) (location : Location) (type : Option String) :
    Parameter where
  name
  ident := Naming.parameterName name
  location
  type := type.getD anyType
  required := location == .path || ((definition.get? "required").bind Json.asBool?).getD false
  description := Text.trim ((definition.string? "description").getD "")
  default := (definition.get? "schema").bind (·.get? "default")

/-- The parameter that a definition describes; `origin` is the reference that led to it. -/
def describe (table : ReferenceTable) (definition : Json) (origin : Option String) :
    Except Failure Parameter := do
  let name ← nameOf definition origin
  let location ← locationOf definition name
  let type ← declaredType table definition
  return described definition name location type

/-- The declared parameter has the definition `d`: it is `d` itself, or refers to a component that
equals `d`; `origin` is the reference. -/
inductive Declares (document : Json) : Json → Json → Option String → Prop
  | inline {d : Json} : d.string? "$ref" = none → Declares document d d none
  | component {declared d : Json} {reference : String} :
      declared.string? "$ref" = some reference →
      ReferenceTable.component? document reference = some d →
      Declares document declared d (some reference)

end Curation

/-! ## Components -/

namespace ReferenceTable

theorem components_eq (document : Json) :
    components document = (written document).map fun (k, c) => (k, normalizeComponent c) := by
  simp only [components, written, List.map_flatMap, List.map_map]
  rfl

/-- The table finds the component of the document, normalised. -/
theorem find?_ofDocument (document : Json) (reference : String) :
    (ofDocument document).find? reference =
      (component? document reference).map normalizeComponent := by
  rw [find?, ofDocument, Table.lookup_ofRows, components_eq, ← List.map_reverse,
    Table.lookup_map, component?]

theorem require_of_component? {document component : Json} {reference : String}
    (h : component? document reference = some component) :
    (ofDocument document).require reference = .ok (normalizeComponent component) := by
  rw [require, find?_ofDocument, h, Option.map_some]

/-- Normalising changes nothing but the `type`. -/
theorem get?_normalizeComponent (component : Json) {key : String} (hkey : key ≠ "type") :
    (normalizeComponent component).get? key = component.get? key := by
  unfold normalizeComponent
  split
  · split
    · rw [Json.get?, Json.get?, Table.lookup_insert, if_neg hkey]
    · rfl
  · rfl

theorem string?_type_normalizeComponent (component : Json) :
    (normalizeComponent component).string? "type" =
      (component.string? "type").map semanticType := by
  cases component with
  | object fields =>
    cases htype : (Json.object fields).string? "type" with
    | none => rw [normalizeComponent, htype, htype, Option.map_none]
    | some type =>
      rw [normalizeComponent, htype, Json.string?, Json.get?, Table.lookup_insert, if_pos rfl]
      rfl
  | _ => rfl

end ReferenceTable

/-! ## Definitions read by key -/

section

variable {d d' : Json} {key : String}

theorem string?_congr (h : d'.get? key = d.get? key) : d'.string? key = d.string? key := by
  rw [Json.string?, Json.string?, h]

theorem object?_congr (h : d'.get? key = d.get? key) : d'.object? key = d.object? key := by
  rw [Json.object?, Json.object?, h]

end

namespace Curation

variable {table : ReferenceTable} {d d' : Json} {origin : Option String}

/-- What a definition has to have for a parameter to come of it. -/
theorem describe_ok {p : Parameter} (h : describe table d origin = .ok p) :
    ∃ name location type, nameOf d origin = .ok name ∧ locationOf d name = .ok location ∧
      declaredType table d = .ok type ∧ p = described d name location type := by
  obtain ⟨name, hname, h⟩ := Outcome.bind_eq_ok_iff.mp h
  obtain ⟨location, hlocation, h⟩ := Outcome.bind_eq_ok_iff.mp h
  obtain ⟨type, htype, h⟩ := Outcome.bind_eq_ok_iff.mp h
  exact ⟨name, location, type, hname, hlocation, htype, (Outcome.pure_eq_ok_iff.mp h).symm⟩

/-- A declared parameter resolves to what its definition in the table describes. -/
theorem resolve_ok {declared : Json} {p : Parameter} (h : resolve table declared = .ok p) :
    ∃ d origin, definition table declared = .ok (d, origin) ∧ describe table d origin = .ok p := by
  obtain ⟨⟨d, origin⟩, hdefinition, h⟩ := Outcome.bind_eq_ok_iff.mp h
  exact ⟨d, origin, hdefinition, h⟩

theorem resolve_inline (h : d.string? "$ref" = none) : resolve table d = describe table d none := by
  rw [resolve, definition, h]
  rfl

theorem resolve_component {component : Json} {reference : String}
    (href : d.string? "$ref" = some reference)
    (hfound : table.require reference = .ok component) :
    resolve table d = describe table component (some reference) := by
  rw [resolve, definition, href]
  change (table.require reference).map (·, some reference) >>= _ = _
  rw [hfound]
  rfl

theorem nameOf_congr (h : d'.get? "name" = d.get? "name") : nameOf d' origin = nameOf d origin := by
  rw [nameOf, nameOf, string?_congr h]

theorem locationOf_congr (h : d'.get? "in" = d.get? "in") : locationOf d' = locationOf d := by
  funext name
  rw [locationOf, locationOf, string?_congr h]

theorem declaredType_congr (h : d'.get? "schema" = d.get? "schema") :
    declaredType table d' = declaredType table d := by
  rw [declaredType, declaredType, h]

/-- A parameter is described alike by definitions that agree up to their `type`. -/
theorem describe_congr (h : ∀ key, key ≠ "type" → d'.get? key = d.get? key) :
    describe table d' origin = describe table d origin := by
  have hdescribed : described d' = described d := by
    funext name location type
    rw [described, described, h "required" (by decide), string?_congr (h "description" (by decide)),
      h "schema" (by decide)]
  rw [describe, describe, nameOf_congr (h "name" (by decide)),
    locationOf_congr (h "in" (by decide)), declaredType_congr (h "schema" (by decide)), hdescribed]

/-- A declared parameter resolves to what its definition describes, be it in place or a component. -/
theorem Declares.resolve_eq {document declared : Json} (h : Declares document declared d origin) :
    resolve (.ofDocument document) declared = describe (.ofDocument document) d origin := by
  cases h with
  | inline hinline => exact resolve_inline hinline
  | component href hfound =>
    -- the table has the component with another `type`, which no parameter is read from
    rw [resolve_component href (ReferenceTable.require_of_component? hfound)]
    exact describe_congr fun key hkey => ReferenceTable.get?_normalizeComponent d hkey

end Curation

end ClientForge.Api
