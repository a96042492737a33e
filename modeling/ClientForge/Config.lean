import ClientForge.Failure
import ClientForge.Text.Blank

/-!
Settings of a run: where the generated files go, and the scopes, each one API with a description and
a host of its own.
-/

namespace ClientForge

structure ScopeConfig where
  name : String
  /-- URL or path of the description. -/
  specUrl : String
  baseUrl : String
deriving DecidableEq, Repr

structure Config where
  outputDir : String
  /-- Extension of the namespace files. -/
  fileExtension : String
  /-- Directory of further templates. -/
  templateDir : Option String
  /-- File of operation renames. -/
  renameMapping : Option String
  docsBaseUrl : String
  /-- Module path that the generated code imports its client from. -/
  runtimePath : String
  scopes : List ScopeConfig
deriving DecidableEq, Repr

namespace Config

def standard : Config where
  outputDir := "codegen/ws"
  fileExtension := "rs"
  templateDir := none
  renameMapping := none
  docsBaseUrl := "https://xata.io/docs/api-reference"
  runtimePath := "apigen::client"
  scopes :=
    [⟨"core", "https://xata.io/api/openapi?scope=core", "https://api.xata.io"⟩,
     ⟨"workspace", "https://xata.io/api/openapi?scope=workspace",
       "https://\x7bworkspaceId\x7d.\x7bregionId\x7d.xata.sh"⟩]

def scope? (config : Config) (name : String) : Option ScopeConfig :=
  config.scopes.find? (·.name == name)

/-- The first fault of a list of scopes whose earlier names are `seen`. -/
def scopeFault? (seen : List String) : List ScopeConfig → Option Misconfiguration
  | [] => none
  | scope :: rest =>
    if (Text.trim scope.name).isEmpty then some .emptyScopeName
    else if seen.contains scope.name then some (.duplicateScope scope.name)
    else scopeFault? (scope.name :: seen) rest

/-- There is a scope, and every one has a name of its own that is not blank. -/
def validate (config : Config) : Except Failure Config :=
  if config.scopes.isEmpty then .error (.configuration .noScope)
  else
    match scopeFault? [] config.scopes with
    | some fault => .error (.configuration fault)
    | none => .ok config

def scopeNamed (config : Config) (name : String) : Except Failure ScopeConfig :=
  match config.scope? name with
  | some scope => .ok scope
  | none => .error (.configuration (.unknownScope name))

/-- The named scopes, in the order of the names. -/
def scopesNamed (config : Config) (names : List String) : Except Failure (List ScopeConfig) :=
  names.mapM config.scopeNamed

/-- Keeps only the named scopes of the settings at hand, in the order of the names; no names keep
them all. Nothing changes before every name has been looked up. -/
def selectScopes (names : List String) : ExceptT Failure (StateM Config) Unit := do
  unless names.isEmpty do
    let config ← get
    let scopes ← config.scopesNamed names
    set { config with scopes }

/-- The settings once the named scopes have been selected. -/
def select (config : Config) (names : List String) : Except Failure Config :=
  let (outcome, chosen) := (selectScopes names).run.run config
  outcome.map fun () => chosen

end Config

end ClientForge
