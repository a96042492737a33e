import ClientForge.Proofs.Components
import ClientForge.Proofs.LowerStable

/-!
What becomes of a parameter when its schema is moved into a component and referred to. The type is
found behind the reference: there it has been normalised once already, and a second time changes
nothing. The default is looked for beside the reference, where there is none; this is the one thing
that the move loses.

Results:
1. `declaredType_referred`: the declared type is the same.
2. `describe_referred`: so is everything but the default.
3. `resolve_schema_referred`: what the parameter resolves to, in place or a component itself.
-/

namespace ClientForge.Api

open ReferenceTable

/-! ## Definitions -/

/-- The parameter without its default. -/
def Parameter.withoutDefault (p : Parameter) : Parameter := { p with default := none }

namespace Curation

/-- `d'` is the definition `d`, but that its schema is a reference. -/
structure RefersSchema (reference : String) (d d' : Json) : Prop where
  schema : d'.get? "schema" = some (.object [("$ref", .string reference)])
  elsewhere : ∀ key, key ≠ "schema" → d'.get? key = d.get? key

/-! ## What is described -/

section

variable {document document' d d' schema : Json} {reference : String} {origin : Option String}

theorem schemaType_inline {table : ReferenceTable} (h : schema.string? "$ref" = none) :
    schemaType table schema = .ok ((schema.string? "type").map semanticType) := by
  rw [schemaType, h]

/-- A component is normalised in the table and again behind the reference. -/
theorem schemaType_component (h : component? document reference = some schema) :
    schemaType (.ofDocument document) (.object [("$ref", .string reference)]) =
      .ok ((schema.string? "type").map semanticType) := by
  change ((ofDocument document).require reference).map
    (fun s => (s.string? "type").map semanticType) = _
  rw [require_of_component? h]
  change Except.ok (((normalizeComponent schema).string? "type").map semanticType) = _
  have htwice : semanticType ∘ semanticType = semanticType := by
    funext declared
    rw [Function.comp_apply, semanticType_semanticType]
  rw [string?_type_normalizeComponent, Option.map_map, htwice]

variable (hschema : d.get? "schema" = some schema) (hinline : schema.string? "$ref" = none)
  (hfound : component? document' reference = some schema) (hrefers : RefersSchema reference d d')

include hschema hinline hfound hrefers

/-- The declared type is the same behind the reference. -/
theorem declaredType_referred :
    declaredType (.ofDocument document') d' = declaredType (.ofDocument document) d := by
  rw [declaredType, declaredType, hrefers.schema, hschema]
  exact (schemaType_component hfound).trans (schemaType_inline hinline).symm

omit hschema hinline hfound in
theorem described_referred (name : String) (location : Location) (type : Option String) :
    described d' name location type = (described d name location type).withoutDefault := by
  have hnone : Json.get? (.object [("$ref", .string reference)]) "default" = none := rfl
  rw [described, described, Parameter.withoutDefault, hrefers.elsewhere "required" (by decide),
    string?_congr (hrefers.elsewhere "description" (by decide)), hrefers.schema, Option.bind_some,
    hnone]

/-- Everything but the default is the same. -/
theorem describe_referred :
    describe (.ofDocument document') d' origin =
      (describe (.ofDocument document) d origin).map Parameter.withoutDefault := by
  rw [describe, describe, nameOf_congr (hrefers.elsewhere "name" (by decide)),
    locationOf_congr (hrefers.elsewhere "in" (by decide)),
    declaredType_referred hschema hinline hfound hrefers]
  -- the steps fail alike, and their results are put together with and without the default
  cases nameOf d origin with
  | error e => rfl
  | ok name =>
    change (locationOf d name >>= _) = Except.map _ (locationOf d name >>= _)
    cases locationOf d name with
    | error e => rfl
    | ok location =>
      change (declaredType _ d >>= _) = Except.map _ (declaredType _ d >>= _)
      cases declaredType (.ofDocument document) d with
      | error e => rfl
      | ok type => exact congrArg Except.ok (described_referred hrefers name location type)

end

theorem describe_default {table : ReferenceTable} {d : Json} {origin : Option String}
    {p : Parameter} (h : describe table d origin = .ok p) :
    p.default = (d.get? "schema").bind (·.get? "default") := by
  obtain ⟨name, location, type, _, _, _, rfl⟩ := describe_ok h
  rfl

theorem withoutDefault_eq_self {p : Parameter} : p.withoutDefault = p ↔ p.default = none := by
  constructor
  · intro h
    rw [← h, Parameter.withoutDefault]
  · intro h
    rw [Parameter.withoutDefault, ← h]

/-! ## Parameters -/

/-- A parameter resolves to the same, less its default, when its schema is moved into a component;
so to the same exactly if the schema has no default. -/
theorem resolve_schema_referred {document document' declared declared' d d' schema : Json}
    {reference : String} {origin : Option String} (hdeclared : Declares document declared d origin)
    (hdeclared' : Declares document' declared' d' origin)
    (hschema : d.get? "schema" = some schema) (hinline : schema.string? "$ref" = none)
    (hfound : component? document' reference = some schema)
    (hrefers : RefersSchema reference d d') :
    resolve (.ofDocument document') declared' =
      (resolve (.ofDocument document) declared).map Parameter.withoutDefault ∧
    ∀ p, resolve (.ofDocument document) declared = .ok p →
      (resolve (.ofDocument document') declared' = .ok p ↔ schema.get? "default" = none) := by
  have hmove : resolve (.ofDocument document') declared' =
      (resolve (.ofDocument document) declared).map Parameter.withoutDefault := by
    rw [hdeclared.resolve_eq, hdeclared'.resolve_eq]
    exact describe_referred hschema hinline hfound hrefers
  refine ⟨hmove, fun p hp => ?_⟩
  have hdefault : p.default = schema.get? "default" := by
    rw [hdeclared.resolve_eq] at hp
    rw [describe_default hp, hschema, Option.bind_some]
  rw [hmove, hp, ← hdefault, ← withoutDefault_eq_self]
  exact ⟨Except.ok.inj, congrArg _⟩

def sizeSchema : Json := .object [("type", .string " Integer"), ("default", .ofInt 20)]

def sizeReference : Json := .object [("$ref", .string "#/components/schemas/PageSize")]

def sizeParameter (schema : Json) : Json :=
  .object
    [("name", .string "size"), ("in", .string "query"), ("schema", schema),
     ("required", .bool true)]

/-- A parameter that is a component with the given schema, beside a schema that is one. -/
def sizeDocument (schema : Json) : Json :=
  .object [("components", .object
    [("parameters", .object [("Size", sizeParameter schema)]),
     ("schemas", .object [("PageSize", sizeSchema)])])]

theorem sizeParameter_refers :
    RefersSchema "#/components/schemas/PageSize" (sizeParameter sizeSchema)
      (sizeParameter sizeReference) := by
  refine ⟨rfl, fun key hkey => ?_⟩
  have hschema : (key == "schema") = false := by simpa using hkey
  simp [sizeParameter, Json.get?, List.lookup_cons, hschema]

theorem resolve_schema_referred_component :
    (∃ p, resolve (.ofDocument (sizeDocument sizeSchema))
        (.object [("$ref", .string "parameters/Size")]) = .ok p ∧
      p.type = "int" ∧ p.default = some (.ofInt 20)) ∧
    resolve (.ofDocument (sizeDocument sizeReference))
        (.object [("$ref", .string "parameters/Size")]) =
      (resolve (.ofDocument (sizeDocument sizeSchema))
        (.object [("$ref", .string "parameters/Size")])).map Parameter.withoutDefault :=
  ⟨⟨_, rfl, by decide +kernel, rfl⟩,
    (resolve_schema_referred (.component (by rfl) (by rfl)) (.component (by rfl) (by rfl)) (by rfl)
      (by rfl) (by rfl) sizeParameter_refers).1⟩

/-- With a default in the schema the move does not leave the parameter as it was. -/
theorem schema_default_lost :
    component? (sizeDocument .null) "#/components/schemas/PageSize" = some sizeSchema ∧
    RefersSchema "#/components/schemas/PageSize" (sizeParameter sizeSchema)
      (sizeParameter sizeReference) ∧
    (∃ p, resolve (.ofDocument (sizeDocument .null)) (sizeParameter sizeSchema) = .ok p ∧
      p.default = some (.ofInt 20)) ∧
    (∃ p, resolve (.ofDocument (sizeDocument .null)) (sizeParameter sizeReference) = .ok p ∧
      p.default = none) :=
  ⟨by rfl, sizeParameter_refers, ⟨_, rfl, rfl⟩, ⟨_, rfl, rfl⟩⟩

end Curation

end ClientForge.Api
