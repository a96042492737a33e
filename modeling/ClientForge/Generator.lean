import ClientForge.Codegen.ScopePlan
import ClientForge.Config.File
import ClientForge.Source

/-!
A run: the templates and renames that its settings name are loaded first, and then every scope is
generated, one after another.
-/

namespace ClientForge

/-- A run that is ready to start. -/
structure Generator where
  config : Config
  toolkit : Codegen.Toolkit

/-- Loads the description that a scope's source stands for. -/
abbrev Loader (m : Type → Type) := String → Doing m Json

namespace Generator

variable {m : Type → Type} [Monad m]

/-- The settings that a file spells. -/
def loadConfig (host : Host m) (path : String) : Doing m Config := do
  match ← host.readText path with
  | .ok text => Config.parse text
  | .error cause => throw (.configuration (.unreadable path cause))

/-- The templates in a directory, by name, in the order in which it lists its files. -/
def templateSources (host : Host m) (directory : String) :
    List String → Doing m (List (String × String))
  | [] => return []
  | fileName :: rest =>
    match Template.Registry.templateName? fileName with
    | none => templateSources host directory rest
    | some name => do
      match ← host.readText (Disk.Path.join directory fileName) with
      | .ok source => return (name, source) :: (← templateSources host directory rest)
      | .error cause => throw (.io cause)

/-- The built-in templates with those of a directory on top. -/
def loadTemplates (host : Host m) (directory : Option String) : Doing m Template.Registry := do
  match directory with
  | none => return .builtin
  | some directory =>
    match ← host.list directory with
    | .ok fileNames => Template.Registry.builtin.override (← templateSources host directory fileNames)
    | .error cause => throw (.configuration (.templatesUnreadable directory cause))

def loadRenames (host : Host m) (path : Option String) : Doing m Codegen.RenameMapping := do
  match path with
  | none => return .empty
  | some path =>
    match ← host.readText path with
    | .ok text => Codegen.RenameMapping.parse text
    | .error cause => throw (.configuration (.renamesUnreadable path cause))

/-- Templates that the run may need: those every run uses, and those that renames ask for. -/
def neededTemplates (renames : Codegen.RenameMapping) : List String :=
  [Template.Registry.namespaceName, Template.Registry.endpointName] ++ renames.templates

/-- A run with these templates and renames, unless a template that it may need is missing. -/
def start (config : Config) (registry : Template.Registry) (renames : Codegen.RenameMapping)
    (rules : Api.ConvenienceRules) : Except Failure Generator := do
  registry.ensure (neededTemplates renames)
  return ⟨config, registry, renames, rules⟩

/-- Loads the templates and the renames that the settings name. -/
def prepare (host : Host m) (rules : Api.ConvenienceRules) (config : Config) :
    Doing m Generator := do
  let registry ← loadTemplates host config.templateDir
  let renames ← loadRenames host config.renameMapping
  start config registry renames rules

/-- Loads a scope's description and generates the scope. -/
def generateScopeFrom (host : Host m) (load : Loader m) (generator : Generator) (scope : ScopeConfig) :
    Doing m Codegen.Summary := do
  let document ← load scope.specUrl
  host.carryOut (Codegen.scopePlan generator.toolkit generator.config scope (← host.now) document)

/-- Generates the scopes in order, up to the first that fails. -/
def generateAllFrom (host : Host m) (load : Loader m) (generator : Generator) :
    Doing m (List Codegen.Summary) :=
  generator.config.scopes.mapM (generator.generateScopeFrom host load)

def generateScope (host : Host m) (source : Source) (generator : Generator) (scope : ScopeConfig) :
    Doing m Codegen.Summary :=
  generator.generateScopeFrom host (source.load host) scope

def generateAll (host : Host m) (source : Source) (generator : Generator) :
    Doing m (List Codegen.Summary) :=
  generator.generateAllFrom host (source.load host)

end Generator

end ClientForge
