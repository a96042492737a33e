/-!
Command-line arguments. Every option is given at most once, except scopes, which are collected.
-/

namespace ClientForge.CommandLine

/-- What replaces the settings of a generation. -/
structure Overrides where
  /-- File with the settings. -/
  config : Option String
  outputDir : Option String
  templateDir : Option String
  renameMapping : Option String
  /-- The scopes to generate; none stands for all. -/
  scopes : List String
  specUrl : Option String
deriving DecidableEq, Repr

inductive Command where
  | generate (overrides : Overrides)
  /-- Prints the checksum of the description at a place. -/
  | checksum (place : String)
deriving DecidableEq, Repr

/-- What is answered instead of running a command. -/
inductive Notice where
  | version
  | help
  | misuse
deriving DecidableEq, Repr

/-! ## Flags -/

/-- Reads the letters of a short flag: whether the run is to be verbose from here on. `top` holds
before the command, where the version can be asked for. -/
def shortFlags (top : Bool) (verbose : Bool) : List Char → Except Notice Bool
  | [] => .ok verbose
  | c :: cs =>
    if c = 'h' then .error .help
    else if c = 'V' ∧ top then .error .version
    else if c = 'v' ∧ !verbose then shortFlags top true cs
    else .error .misuse

/-- Reads a flag that takes no value. -/
def flag (top : Bool) (verbose : Bool) (argument : String) : Except Notice Bool :=
  if argument = "--help" then .error .help
  else if argument = "--version" ∧ top then .error .version
  else if argument = "--verbose" then (if verbose then .error .misuse else .ok true)
  else if argument.startsWith "--" then .error .misuse
  else shortFlags top verbose (argument.toList.drop 1)

/-- An argument that is a flag or an option and no value: it starts with a hyphen, which is not all. -/
def isFlag (argument : String) : Bool := argument.startsWith "-" && argument != "-"

/-! ## Options -/

inductive Setting where
  | config
  | outputDir
  | templateDir
  | renameMapping
  | scope
  | specUrl
deriving DecidableEq, Repr

def Setting.option : Setting → String
  | .config => "--config"
  | .outputDir => "--output-dir"
  | .templateDir => "--template-dir"
  | .renameMapping => "--rename-mapping"
  | .scope => "--scope"
  | .specUrl => "--spec-url"

def settings : List Setting :=
  [.config, .outputDir, .templateDir, .renameMapping, .scope, .specUrl]

/-- The option of an argument, and the value behind its equals sign if there is one. -/
def setting? (argument : String) : Option (Setting × Option String) :=
  let cs := argument.toList
  let name := String.ofList (cs.takeWhile (· != '='))
  (settings.find? (·.option == name)).map fun s =>
    (s, if cs.contains '=' then some (String.ofList ((cs.dropWhile (· != '=')).drop 1)) else none)

/-- Notes a value that has not been given before. Paths must not be empty. -/
def once (isPath : Bool) (old : Option String) (new : String) : Except Notice (Option String) :=
  if old.isSome ∨ (isPath ∧ new.isEmpty) then .error .misuse else .ok (some new)

def Overrides.add (o : Overrides) (setting : Setting) (given : String) : Except Notice Overrides :=
  match setting with
  | .config => (once true o.config given).map fun x => { o with config := x }
  | .outputDir => (once true o.outputDir given).map fun x => { o with outputDir := x }
  | .templateDir => (once true o.templateDir given).map fun x => { o with templateDir := x }
  | .renameMapping => (once true o.renameMapping given).map fun x => { o with renameMapping := x }
  | .scope => .ok { o with scopes := o.scopes ++ [given] }
  | .specUrl => (once false o.specUrl given).map fun x => { o with specUrl := x }

/-! ## Commands -/

/-- Reads the arguments of a generation. Nothing but options may stand there; `--` may end them. -/
def generateArguments (verbose : Bool) (o : Overrides) : List String → Except Notice Overrides
  | [] => .ok o
  | "--" :: rest => if rest.isEmpty then .ok o else .error .misuse
  | argument :: rest =>
    match setting? argument with
    | some (setting, some given) => do
      generateArguments verbose (← o.add setting given) rest
    | some (setting, none) =>
      match rest with
      | given :: rest => do
        if isFlag given then .error .misuse
        else generateArguments verbose (← o.add setting given) rest
      | [] => .error .misuse
    | none => do
      if isFlag argument then generateArguments (← flag false verbose argument) o rest
      else .error .misuse

/-- Reads the arguments of a checksum: one place, which may follow `--`. -/
def checksumArguments (verbose : Bool) (place : Option String) : List String → Except Notice String
  | [] =>
    match place with
    | some place => .ok place
    | none => .error .misuse
  | "--" :: rest =>
    match place, rest with
    | some place, [] => .ok place
    | none, [place] => .ok place
    | _, _ => .error .misuse
  | argument :: rest => do
    if isFlag argument then checksumArguments (← flag false verbose argument) place rest
    else if place.isSome then .error .misuse
    else checksumArguments verbose (some argument) rest

def commandNames : List String := ["generate", "checksum", "help"]

/-- Reads the arguments of a call for help: commands one below the other. -/
def helpArguments : List String → Notice
  | [] => .help
  | [name] => if commandNames.contains name then .help else .misuse
  | _ => .misuse

/-- Reads a command line. -/
def parseFrom (verbose : Bool) : List String → Except Notice Command
  | [] => .error .misuse
  | "generate" :: rest =>
    (generateArguments false ⟨none, none, none, none, [], none⟩ rest).map .generate
  | "checksum" :: rest => (checksumArguments false none rest).map .checksum
  | "help" :: rest => .error (helpArguments rest)
  | argument :: rest => do
    if isFlag argument then parseFrom (← flag true verbose argument) rest else .error .misuse

def parse (arguments : List String) : Except Notice Command := parseFrom false arguments

example : (parse ["-v", "checksum", "--", "-x"]).toOption = some (.checksum "-x") := by decide +kernel
example : (parse ["generate", "--config="]).toOption = none := by decide +kernel
example : (parse ["generate", "--scope", "a", "--scope=b"]).toOption =
    some (.generate ⟨none, none, none, none, ["a", "b"], none⟩) := by decide +kernel

end ClientForge.CommandLine
