import ClientForge.Codegen.Declaration
import ClientForge.Codegen.Manifest
import ClientForge.Codegen.Rename
import ClientForge.Codegen.UrlPath

/-!
The generated method of an operation, and its record in the manifest.
-/

namespace ClientForge.Codegen

/-- What methods are generated with. -/
structure Toolkit where
  registry : Template.Registry
  renames : RenameMapping
  rules : Api.ConvenienceRules

/-- An operation to generate a method for. -/
structure EndpointInput where
  owner : Api.Namespace
  path : String
  method : Api.Method
  operation : Json
  /-- Parameters that the path item declares for all its operations. -/
  pathParameters : List Json

structure Endpoint where
  template : String
  source : String
  entry : ManifestEntry

namespace Endpoint

/-- The declared parameters, those of the path first. -/
def declared (input : EndpointInput) : List Json :=
  input.pathParameters ++ (input.operation.array? "parameters").getD []

def operationId (input : EndpointInput) : String :=
  (input.operation.string? "operationId").getD (input.method.key ++ "_" ++ input.path)

def summary (input : EndpointInput) : String := (input.operation.string? "summary").getD ""

/-- The operation's description, else its summary. -/
def description (input : EndpointInput) : String :=
  match input.operation.string? "description" with
  | some d => Text.trim d
  | none => Text.trim (summary input)

def status (input : EndpointInput) : Status :=
  if (input.operation.get? "x-experimental").isSome then .experimental else .ga

/-- The method's name and its template. -/
def naming (renames : RenameMapping) (input : EndpointInput) : Rename :=
  match renames.find? (Naming.fileStem input.owner.name) (operationId input) with
  | some rename => rename
  | none => ⟨Naming.functionName (operationId input), Template.Registry.endpointName⟩

def parameterContext (p : Api.Parameter) : Json :=
  .object
    [("name", .string p.name), ("ident", .string p.ident), ("location", .string p.location.text),
     ("type", .string p.type), ("required", .bool p.required),
     ("description", .string p.description)]

/-- The content type that is asked for when the caller does not choose. -/
def defaultContentType (curated : Api.Curated) : String :=
  (((curated.find? "response_content_type").bind (·.default)).bind Json.asString?).getD ""

def context (scope : Scope) (input : EndpointInput) (curated : Api.Curated) (name : String) : Json :=
  let urlPath := UrlPath.withArguments curated.list input.path
  .object
    [("class_name", .string (Naming.typeName input.owner.displayName)),
     ("fn_name", .string name),
     ("operation_id", .string (operationId input)),
     ("description_lines", Declaration.texts (Text.docLines (description input))),
     ("http_method", .string input.method.verb),
     ("path", .string input.path),
     ("url_path", .string urlPath),
     ("url_has_placeholders", .bool (UrlPath.hasPlaceholders urlPath)),
     ("params", .array (curated.list.map parameterContext)),
     ("has_request_options", .bool (curated.hasLocation (· != .path))),
     ("has_db_branch_name", .bool (curated.conveniences.contains .dbBranchName)),
     ("has_workspace_id", .bool (curated.conveniences.contains .workspaceId)),
     ("has_payload", .bool curated.hasPayload),
     ("default_content_type", .string (defaultContentType curated)),
     ("status", .string (status input).text),
     ("docs_url", .string (Naming.docsUrl scope.docsBaseUrl input.path (summary input))),
     ("scope", .string scope.name),
     ("base_url", .string scope.baseUrl)]

def record (input : EndpointInput) (curated : Api.Curated) (name : String) : ManifestEntry where
  ownerName := input.owner.name
  name := summary input
  operationId := operationId input
  generatedName := name
  description := description input
  verb := input.method.verb
  urlPath := input.path
  responses := curated.responseCodes
  status := status input
  parameters := curated.list.map (·.summary)

/-- Curates, names and renders an operation. -/
def render (toolkit : Toolkit) (table : Api.ReferenceTable) (scope : Scope) (input : EndpointInput) :
    Except Failure Endpoint := do
  let curated ← Api.curate table toolkit.rules (declared input) input.operation
  let naming := naming toolkit.renames input
  let source ← toolkit.registry.render naming.template (context scope input curated naming.name)
  return ⟨naming.template, source, record input curated naming.name⟩

/-- What rendering warns of, up to the point where it fails. -/
def warnings (toolkit : Toolkit) (table : Api.ReferenceTable) (input : EndpointInput) :
    List Api.Warning :=
  Api.curationWarnings table toolkit.rules (declared input) input.operation ++
    match Api.curate table toolkit.rules (declared input) input.operation with
    | .error _ => []
    | .ok _ =>
      (match input.operation.string? "operationId" with
        | some _ => []
        | none => [.operationWithoutId input.path input.method.key (operationId input)]) ++
      (match input.operation.string? "description", input.operation.string? "summary" with
        | none, none => [.operationWithoutText (operationId input)]
        | _, _ => [])

end Endpoint

end ClientForge.Codegen
