import ClientForge.Api.Curation
import ClientForge.Codegen.Scope
import ClientForge.Digest.Sha256
import ClientForge.Json.Canonical

/-!
The manifest of a scope: every emitted operation, with a checksum of the description that does not
depend on the order of its keys.
-/

namespace ClientForge.Codegen

inductive Status where
  | ga
  | experimental
deriving DecidableEq, Repr

def Status.text : Status → String
  | .ga => "GA"
  | .experimental => "experimental"

/-- One emitted operation. -/
structure ManifestEntry where
  ownerName : String
  /-- The operation's summary. -/
  name : String
  operationId : String
  generatedName : String
  description : String
  verb : String
  urlPath : String
  responses : List Api.ResponseCode
  status : Status
  parameters : List Api.ParameterSummary
deriving DecidableEq, Repr

structure Manifest where
  scope : String
  specVersion : String
  checksum : String
  generatedOn : String
  baseUrl : String
  endpoints : List ManifestEntry

def checksum (document : Json) : String := Digest.sha256Hex document.canonicalText

namespace Manifest

def responseJson (r : Api.ResponseCode) : Json :=
  .object [("code", .string r.code), ("description", .string r.description)]

def parameterJson (p : Api.ParameterSummary) : Json :=
  .object
    [("name", .string p.name), ("description", .string p.description),
     ("in", .string p.location.text), ("required", .bool p.required)]

def entryJson (e : ManifestEntry) : Json :=
  .object
    [("namespace", .string e.ownerName), ("name", .string e.name),
     ("operation_id", .string e.operationId), ("generated_name", .string e.generatedName),
     ("description", .string e.description), ("method", .string e.verb),
     ("url_path", .string e.urlPath), ("responses", .array (e.responses.map responseJson)),
     ("status", .string e.status.text), ("parameters", .array (e.parameters.map parameterJson))]

def json (m : Manifest) : Json :=
  .object
    [("scope", .string m.scope), ("version_spec", .string m.specVersion),
     ("version_codegen", .string generatorVersion), ("checksum", .string m.checksum),
     ("generated_on", .string m.generatedOn), ("base_url", .string m.baseUrl),
     ("endpoints", .array (m.endpoints.map entryJson))]

def text (m : Manifest) : String := m.json.pretty

end Manifest

end ClientForge.Codegen
