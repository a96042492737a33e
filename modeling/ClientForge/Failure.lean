import ClientForge.Disk.IoError

/-!
Everything that can stop a generation, by cause, with the text and the exit code of each. Texts that
would quote a parser's own complaint end where it would begin.
-/

namespace ClientForge

/-- What is wrong with an API description. -/
inductive Defect where
  | neitherJsonNorYaml
  | noPaths
  | tagWithoutName
  /-- `origin` is the reference that led to the parameter, if one did. -/
  | parameterWithoutName (origin : Option String)
  | parameterWithoutLocation (name : String)
  | unsupportedLocation (location : String)
deriving DecidableEq, Repr

def Defect.message : Defect → String
  | .neitherJsonNorYaml => "not JSON or YAML: "
  | .noPaths => "document has no paths object"
  | .tagWithoutName => "tag without a name"
  | .parameterWithoutName origin => origin.getD "inline parameter" ++ " has no name"
  | .parameterWithoutLocation name => "parameter '" ++ name ++ "' has no location"
  | .unsupportedLocation location => "unsupported parameter location '" ++ location ++ "'"

/-- What is wrong with the settings of a run. -/
inductive Misconfiguration where
  | unreadable (path : String) (cause : Disk.IoError)
  | malformed
  | noScope
  | emptyScopeName
  | duplicateScope (name : String)
  | unknownScope (name : String)
  | sourceForSeveralScopes
  | renamesUnreadable (path : String) (cause : Disk.IoError)
  | renamesMalformed
  | templatesUnreadable (path : String) (cause : Disk.IoError)
  | missingTemplate (name : String) (available : List String)
deriving DecidableEq, Repr

def Misconfiguration.message : Misconfiguration → String
  | .unreadable path cause => "Failed to read " ++ path ++ ": " ++ cause.message
  | .malformed => "Invalid configuration: "
  | .noScope => "At least one scope is required"
  | .emptyScopeName => "Scope name cannot be empty"
  | .duplicateScope name => "Scope '" ++ name ++ "' is declared twice"
  | .unknownScope name => "Unknown scope '" ++ name ++ "'"
  | .sourceForSeveralScopes => "--spec-url needs exactly one selected scope"
  | .renamesUnreadable path cause =>
    "Failed to read rename mapping " ++ path ++ ": " ++ cause.message
  | .renamesMalformed => "Invalid rename mapping: "
  | .templatesUnreadable path cause =>
    "Failed to read template directory " ++ path ++ ": " ++ cause.message
  | .missingTemplate name available =>
    "template '" ++ name ++ "' does not exist (available: " ++ ", ".intercalate available ++ ")"

inductive Failure where
  | sourceUnavailable (source reason : String)
  | unresolvedReference (reference : String)
  | invalidDocument (defect : Defect)
  | unwritable (path : String) (cause : Disk.IoError)
  | io (cause : Disk.IoError)
  | malformedJson
  | malformedYaml
  | template
  | configuration (cause : Misconfiguration)
deriving DecidableEq, Repr

namespace Failure

def message : Failure → String
  | sourceUnavailable source reason => "could not fetch spec at " ++ source ++ ": " ++ reason
  | unresolvedReference reference =>
    "could not resolve reference " ++ reference ++ " in the lookup"
  | invalidDocument defect => "invalid specification: " ++ defect.message
  | unwritable path cause => "failed to write " ++ path ++ ": " ++ cause.message
  | io cause => "I/O error: " ++ cause.message
  | malformedJson => "JSON parsing error: "
  | malformedYaml => "YAML parsing error: "
  | template => "Template engine error: "
  | configuration cause => "Configuration error: " ++ cause.message

/-- Exit status of the command line. -/
def exitCode : Failure → Nat
  | sourceUnavailable .. => 10
  | unresolvedReference .. => 11
  | _ => 1

/-- The message followed by that of the file operation underneath, if there is one. -/
def report (failure : Failure) : String :=
  match failure with
  | unwritable _ cause => failure.message ++ ": " ++ cause.message
  | io cause => failure.message ++ ": " ++ cause.message
  | _ => failure.message

end Failure

end ClientForge
