import ClientForge.CommandLine.Arguments
import ClientForge.Generator

/-!
Running a command line: what is printed, what is reported, and the exit status.
-/

namespace ClientForge.CommandLine

/-- What a run shows to the outside, apart from the files it writes. -/
structure Report where
  exitCode : Nat
  stdout : String
  /-- Failures reported on the other stream. -/
  errors : List String
deriving DecidableEq, Repr

/-- A failure, and what was being done. -/
structure Trouble where
  activity : Option String
  failure : Failure

def Trouble.message (trouble : Trouble) : String :=
  ((trouble.activity.map (· ++ ": ")).getD "") ++ trouble.failure.report

def programName : String := "apigen"

def versionText : String := programName ++ " " ++ Codegen.generatorVersion ++ "\n"

def helpText : String :=
  "Usage: " ++ programName ++ " [--verbose] <COMMAND>\n\nCommands:\n" ++
  "  generate [--config <FILE>] [--output-dir <DIR>] [--template-dir <DIR>]\n" ++
  "           [--rename-mapping <FILE>] [--scope <NAME>]... [--spec-url <SOURCE>]\n" ++
  "  checksum <SOURCE>\n  help\n"

def Notice.report : Notice → Report
  | .version => ⟨0, versionText, []⟩
  | .help => ⟨0, helpText, []⟩
  | .misuse => ⟨2, "", []⟩

/-- Settings with the overrides of the command line. -/
def Overrides.apply (o : Overrides) (config : Config) : Config :=
  { config with
    outputDir := o.outputDir.getD config.outputDir
    templateDir := o.templateDir.or config.templateDir
    renameMapping := o.renameMapping.or config.renameMapping }

/-- Replaces the source of the only scope. -/
def withSource (config : Config) (specUrl : Option String) : Except Failure Config :=
  match specUrl, config.scopes with
  | none, _ => .ok config
  | some specUrl, [scope] => .ok { config with scopes := [{ scope with specUrl }] }
  | some _, _ => .error (.configuration .sourceForSeveralScopes)

variable {m : Type → Type} [Monad m]

/-- Does something on the host, telling what it is if it fails. -/
def during {α : Type} (activity : Option String) (doing : Doing m α) : ExceptT Trouble m α :=
  doing.adapt fun failure => ⟨activity, failure⟩

/-- The settings of a generation; trouble with their file is told with its path. -/
def settingsOf (host : Host m) (o : Overrides) : ExceptT Trouble m Config := do
  let config ← match o.config with
    | none => pure Config.standard
    | some path => during (some ("loading " ++ path)) (Generator.loadConfig host path)
  during none do
    let chosen ← (o.apply config).select o.scopes
    withSource chosen o.specUrl

def generate (host : Host m) (o : Overrides) : ExceptT Trouble m String := do
  let config ← settingsOf host o
  during none do
    let generator ← Generator.prepare host .standard config
    discard (generator.generateAll host .anywhere)
    return ""

def checksum (host : Host m) (place : String) : ExceptT Trouble m String :=
  during none do
    let document ← Source.anywhere.load host place
    return Codegen.checksum document ++ "\n"

/-- Runs a command; what comes of it is its standard output. -/
def Command.run (host : Host m) : Command → ExceptT Trouble m String
  | .generate overrides => CommandLine.generate host overrides
  | .checksum place => CommandLine.checksum host place

def run (host : Host m) (arguments : List String) : m Report :=
  match parse arguments with
  | .error notice => pure notice.report
  | .ok command => do
    match ← (command.run host).run with
    | .ok stdout => return ⟨0, stdout, []⟩
    | .error trouble => return ⟨trouble.failure.exitCode, "", [trouble.message]⟩

end ClientForge.CommandLine
