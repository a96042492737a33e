import ClientForge.Api.Convenience
import ClientForge.Api.Reference
import ClientForge.Api.Warning
import ClientForge.Naming.Identifier

/-!
Curation: from the parameters an operation declares to the arguments of its generated method. The
declared list is expanded by the convenience rules and resolved; a request body and a choice of
response content types add an argument each, displacing a declared one of the same name; of equally
named parameters the first stays; required ones come first.
-/

namespace ClientForge.Api

/-- One declared response status. -/
structure ResponseCode where
  code : String
  description : String
deriving DecidableEq, Repr

/-- A content type that a success response declares. -/
structure ResponseContent where
  contentType : String
  code : String
deriving DecidableEq, Repr

structure Curated where
  list : List Parameter
  hasPayload : Bool
  hasMultipleContentTypes : Bool
  conveniences : List ConvenienceKind
  responseCodes : List ResponseCode
  responseContents : List ResponseContent

namespace Curated

def hasLocation (c : Curated) (p : Location → Bool) : Bool := c.list.any (p ·.location)

def hasPath (c : Curated) : Bool := c.hasLocation (· == .path)

def hasQuery (c : Curated) : Bool := c.hasLocation (· == .query)

/-- Cookies are headers too. -/
def hasHeader (c : Curated) : Bool := c.hasLocation fun l => l == .header || l == .cookie

def hasOptional (c : Curated) : Bool := c.list.any (!·.required)

def find? (c : Curated) (name : String) : Option Parameter := c.list.find? (·.name == name)

end Curated

/-! ## Resolving one declared parameter -/

namespace Curation

/-- The definition a declared parameter stands for, and the reference that led to it. -/
def definition (table : ReferenceTable) (declared : Json) : Except Failure (Json × Option String) :=
  match declared.string? "$ref" with
  | some reference => (table.require reference).map (·, some reference)
  | none => .ok (declared, none)

/-- The type of a schema, one reference followed; `none` when the schema does not tell. -/
def schemaType (table : ReferenceTable) (schema : Json) : Except Failure (Option String) :=
  match schema.string? "$ref" with
  | some reference => (table.require reference).map fun s => (s.string? "type").map semanticType
  | none => .ok ((schema.string? "type").map semanticType)

/-- The declared type of a definition, if it has a schema that tells. -/
def declaredType (table : ReferenceTable) (definition : Json) : Except Failure (Option String) :=
  match definition.get? "schema" with
  | some schema => schemaType table schema
  | none => .ok none

def nameOf (definition : Json) (origin : Option String) : Except Failure String :=
  match definition.string? "name" with
  | some name => .ok (Text.trim name)
  | none => .error (.invalidDocument (.parameterWithoutName origin))

def locationOf (definition : Json) (name : String) : Except Failure Location :=
  match definition.string? "in" with
  | some location => Location.parse location
  | none => .error (.invalidDocument (.parameterWithoutLocation name))

/-- A path parameter is always required: a segment cannot be left out of a URL. -/
def resolve (table : ReferenceTable) (declared : Json) : Except Failure Parameter := do
  let (definition, origin) ← definition table declared
  let name ← nameOf definition origin
  let location ← locationOf definition name
  let type ← declaredType table definition
  return {
    name
    ident := Naming.parameterName name
    location
    type := type.getD anyType
    required := location == .path || ((definition.get? "required").bind Json.asBool?).getD false
    description := Text.trim ((definition.string? "description").getD "")
    default := (definition.get? "schema").bind (·.get? "default")
  }

def resolveSource (table : ReferenceTable) : ParameterSource → Except Failure Parameter
  | .declared value => resolve table value
  | .replacement parameter => .ok parameter

def resolveAll (table : ReferenceTable) : List ParameterSource → Except Failure (List Parameter)
  | [] => .ok []
  | source :: sources => do
    let p ← resolveSource table source
    let ps ← resolveAll table sources
    return p :: ps

/-! ## Responses -/

/-- The response itself, or the component it refers to if there is one. -/
def responseDefinition (table : ReferenceTable) (response : Json) : Json :=
  ((response.string? "$ref").bind table.find?).getD response

def responseCode (table : ReferenceTable) (code : String) (response : Json) : ResponseCode :=
  let description := (response.get? "description").or
    ((responseDefinition table response).get? "description")
  ⟨code, Text.trim ((description.bind Json.asString?).getD "")⟩

/-- A number from 200 to 299, leading zeros and one plus sign allowed. -/
def isSuccess (code : String) : Bool :=
  let digits := match code.toList with
    | '+' :: ds => ds
    | ds => ds
  let n := digits.foldl (fun n d => n * 10 + (d.toNat - '0'.toNat)) 0
  !digits.isEmpty && digits.all Char.isDigit && 200 ≤ n && n ≤ 299

def contentsOf (table : ReferenceTable) (code : String) (response : Json) : List ResponseContent :=
  if isSuccess code then
    (((responseDefinition table response).object? "content").getD []).map fun (type, _) => ⟨type, code⟩
  else []

def responsesOf (operation : Json) : List (String × Json) := (operation.object? "responses").getD []

def responseCodes (table : ReferenceTable) (operation : Json) : List ResponseCode :=
  (responsesOf operation).map fun (code, response) => responseCode table code response

def responseContents (table : ReferenceTable) (operation : Json) : List ResponseContent :=
  (responsesOf operation).flatMap fun (code, response) => contentsOf table code response

def normalizeContentType (type : String) : String := Text.lowercase (Text.trim type)

/-- Two of the content types differ once normalised. -/
def severalTypes (contents : List ResponseContent) : Bool :=
  match contents.map fun c => normalizeContentType c.contentType with
  | [] => false
  | type :: types => types.any (· != type)

/-! ## The final list -/

/-- The argument that carries the request body. -/
def payload : Parameter := ⟨"payload", "payload", .requestBody, "dict", true, "content", none⟩

/-- The argument that chooses among response content types. -/
def contentTypeSelector (default : String) : Parameter :=
  ⟨"response_content_type", "response_content_type", .responseBody, "str", false,
    "Content type of the response. Default: " ++ default, some (.string default)⟩

/-- Appends a generated parameter in the place of every one of its name. -/
def displace (generated : Parameter) (list : List Parameter) : List Parameter :=
  list.filter (!Text.sameIgnoringAsciiCase ·.name generated.name) ++ [generated]

/-- Keeps the first parameter of each name, names compared in lower case. -/
def firstOfName : List Parameter → List Parameter
  | [] => []
  | p :: ps =>
    p :: (firstOfName ps).filter fun q => Text.lowercase q.name != Text.lowercase p.name

def requiredFirst (list : List Parameter) : List Parameter :=
  list.filter (·.required) ++ list.filter (!·.required)

def hasPayload (operation : Json) : Bool := (operation.get? "requestBody").isSome

/-- The generated parameters of an operation, in the order in which they are added. -/
def generated (table : ReferenceTable) (operation : Json) : List Parameter :=
  let contents := responseContents table operation
  (if hasPayload operation then [payload] else []) ++
    match contents with
    | first :: _ =>
      if severalTypes contents then [contentTypeSelector (normalizeContentType first.contentType)]
      else []
    | [] => []

def withGenerated (table : ReferenceTable) (operation : Json) (resolved : List Parameter) :
    List Parameter :=
  (generated table operation).foldl (fun list p => displace p list) resolved

end Curation

open Curation in
/-- Curates `declared`, the parameters of the path followed by those of the operation. -/
def curate (table : ReferenceTable) (rules : ConvenienceRules) (declared : List Json)
    (operation : Json) : Except Failure Curated := do
  let resolved ← resolveAll table (rules.sources declared)
  return {
    list := requiredFirst (firstOfName (withGenerated table operation resolved))
    hasPayload := hasPayload operation
    hasMultipleContentTypes := severalTypes (responseContents table operation)
    conveniences := rules.applied declared
    responseCodes := responseCodes table operation
    responseContents := responseContents table operation
  }

/-! ## Warnings -/

namespace Curation

/-- What resolving a declared parameter warns of, if it succeeds. -/
def declaredWarnings (table : ReferenceTable) (declared : Json) : List Warning :=
  match definition table declared, resolve table declared with
  | .ok (definition, _), .ok p =>
    match definition.get? "schema" with
    | none => [.parameterWithoutSchema p.name]
    | some schema =>
      match schemaType table schema with
      | .ok none => [.untypedSchema p.name]
      | _ => []
  | _, _ => []

def sourceWarnings (table : ReferenceTable) : ParameterSource → List Warning
  | .declared value => declaredWarnings table value
  | .replacement _ => []

def shadowed (p : Parameter) (list : List Parameter) : List Warning :=
  (list.filter (Text.sameIgnoringAsciiCase ·.name p.name)).map (.shadowedParameter ·.name)

def displacementWarnings (list : List Parameter) : List Parameter → List Warning
  | [] => []
  | p :: ps => shadowed p list ++ displacementWarnings (displace p list) ps

end Curation

open Curation in
/-- What curation warns of: each parameter resolved before the first bad one, then, if there is none,
each one displaced. -/
def curationWarnings (table : ReferenceTable) (rules : ConvenienceRules) (declared : List Json)
    (operation : Json) : List Warning :=
  let sources := rules.sources declared
  let resolvable := sources.takeWhile fun s => (resolveSource table s).toBool
  resolvable.flatMap (sourceWarnings table) ++
    match resolveAll table sources with
    | .ok resolved => displacementWarnings resolved (generated table operation)
    | .error _ => []

end ClientForge.Api
