import ClientForge.Codegen.Endpoint
import ClientForge.Codegen.Plan

/-!
The generation of one scope from its description: a declaration for every namespace that owns an
operation, the methods of these operations behind it, and the manifest at the end.
-/

namespace ClientForge.Codegen

/-- What the generation of a scope has produced. -/
structure Summary where
  scope : String
  checksum : String
  /-- Files of the namespaces, in the order of the tags. -/
  namespaceFiles : List String
  /-- Number of generated methods. -/
  endpoints : Nat
  manifestPath : String
deriving DecidableEq, Repr

namespace Description

/-- The version that the description gives itself. -/
def version? (document : Json) : Option String := (document.get? "info").bind (·.string? "version")

def warnings (scope : String) (document : Json) : List Api.Warning :=
  if (version? document).isNone then [.documentWithoutVersion scope] else []

def paths (document : Json) : Except Failure (List (String × Json)) :=
  match document.object? "paths" with
  | some paths => .ok paths
  | none => .error (.invalidDocument .noPaths)

end Description

/-- The namespace that an operation goes to; of several with one name the last. -/
def owner? (namespaces : List Api.Namespace) (operation : Api.Operation) : Option Api.Namespace :=
  namespaces.reverse.find? fun n => operation.isOwnedBy n.name

def endpointInput (owner : Api.Namespace) (operation : Api.Operation) : EndpointInput where
  owner
  path := operation.path
  method := operation.method
  operation := operation.body
  pathParameters := (operation.item.array? "parameters").getD []

/-- Starts a namespace's file with its declaration. -/
def declare (toolkit : Toolkit) (scope : Scope) (n : Api.Namespace) : Plan String := do
  Plan.warnings (Declaration.warnings n)
  let source ← Plan.ofExcept (Declaration.render toolkit.registry scope n)
  Plan.step (.write .replace (scope.namespaceFile n) source)
  return scope.namespaceFile n

/-- Appends an operation's method to its namespace's file. -/
def emit (toolkit : Toolkit) (table : Api.ReferenceTable) (scope : Scope) (input : EndpointInput) :
    Plan ManifestEntry := do
  Plan.warnings (Endpoint.warnings toolkit table input)
  let endpoint ← Plan.ofExcept (Endpoint.render toolkit table scope input)
  Plan.step (.write .append (scope.namespaceFile input.owner) endpoint.source)
  return endpoint.entry

/-- The generation of a scope whose description has been loaded. -/
def scopePlan (toolkit : Toolkit) (config : Config) (settings : ScopeConfig) (now : String)
    (document : Json) : Plan Summary := do
  Plan.warnings (Description.warnings settings.name document)
  let paths ← Plan.ofExcept (Description.paths document)
  let declared ← Plan.ofExcept (Api.Namespace.declared document)
  let operations := Api.operations paths
  Plan.warnings (operations.filterMap (·.ownershipWarning declared))
  let namespaces := Api.Namespace.owning declared operations
  let table := Api.ReferenceTable.ofDocument document
  let scope := Scope.ofConfig config settings ((Description.version? document).getD "")
  Plan.step (.ensureDirectory scope.outputDir)
  let namespaceFiles ← namespaces.mapM (declare toolkit scope)
  let inputs := operations.filterMap fun operation =>
    (owner? namespaces operation).map (endpointInput · operation)
  let entries ← inputs.mapM (emit toolkit table scope)
  let checksum := checksum document
  let manifest : Manifest :=
    ⟨settings.name, scope.specVersion, checksum, now, settings.baseUrl, entries⟩
  Plan.step (.write .replace scope.manifestFile manifest.text)
  return ⟨settings.name, checksum, namespaceFiles, entries.length, scope.manifestFile⟩

end ClientForge.Codegen
