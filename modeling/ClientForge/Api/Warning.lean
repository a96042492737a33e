/-!
Things noticed during a run that do not stop it.
-/

namespace ClientForge.Api

inductive Warning where
  | operationWithoutTags (path method : String)
  | undeclaredTag (path method tag : String)
  | parameterWithoutSchema (name : String)
  | untypedSchema (name : String)
  | shadowedParameter (name : String)
  | operationWithoutId (path method operationId : String)
  | operationWithoutText (operationId : String)
  | namespaceWithoutDescription (name : String)
  | documentWithoutVersion (scope : String)
deriving DecidableEq, Repr

namespace Warning

def message : Warning → String
  | operationWithoutTags .. => "operation without tags"
  | undeclaredTag .. => "operation tagged with undeclared tag"
  | parameterWithoutSchema .. => "parameter without schema, typing as any"
  | untypedSchema .. => "could not determine schema type, typing as any"
  | shadowedParameter .. => "declared parameter shadowed by generated one, dropping it"
  | operationWithoutId .. => "operation has no operationId"
  | operationWithoutText .. => "operation has neither description nor summary"
  | namespaceWithoutDescription .. => "namespace has no description, using its display name"
  | documentWithoutVersion .. => "spec has no info.version"

/-- What the warning is about, by field name. -/
def fields : Warning → List (String × String)
  | operationWithoutTags path method => [("path", path), ("method", method)]
  | undeclaredTag path method tag => [("path", path), ("method", method), ("tag", tag)]
  | parameterWithoutSchema name => [("parameter", name)]
  | untypedSchema name => [("parameter", name)]
  | shadowedParameter name => [("parameter", name)]
  | operationWithoutId path method operationId =>
    [("path", path), ("method", method), ("operation_id", operationId)]
  | operationWithoutText operationId => [("operation_id", operationId)]
  | namespaceWithoutDescription name => [("namespace", name)]
  | documentWithoutVersion scope => [("scope", scope)]

end Warning

end ClientForge.Api
