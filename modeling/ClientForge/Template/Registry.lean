import ClientForge.Failure
import ClientForge.Table
import ClientForge.Template.Builtin
import ClientForge.Template.Parse
import ClientForge.Template.Render
import ClientForge.Text.Order

/-!
The templates of a run, by name: the built-in ones, replaced or joined by those of a directory.
-/

namespace ClientForge.Template

structure Registry where
  entries : List (String × Template)

namespace Registry

def namespaceName : String := "namespace"

def endpointName : String := "endpoint"

def builtin : Registry :=
  ⟨[(namespaceName, Builtin.namespaceHeader), (endpointName, Builtin.endpoint),
    ("endpoint_binary", Builtin.endpointBinary)]⟩

def contains (registry : Registry) (name : String) : Bool :=
  (registry.entries.lookup name).isSome

/-- The names in order. -/
def names (registry : Registry) : List String := Text.sorted (registry.entries.map (·.1))

/-- Every name is there; otherwise the first one missing is reported. -/
def ensure (registry : Registry) (names : List String) : Except Failure Unit :=
  match names.find? (!registry.contains ·) with
  | none => .ok ()
  | some name => .error (.configuration (.missingTemplate name registry.names))

def render (registry : Registry) (name : String) (context : Json) : Except Failure String :=
  match (registry.entries.lookup name).bind (·.render context) with
  | some text => .ok text
  | none => .error .template

/-- What follows the last dot of a file name, unless that dot is its first character. -/
def extension? (fileName : String) : Option String :=
  match (fileName.toList.splitOn '.').reverse with
  | last :: before =>
    if before.length = 0 ∨ before = [[]] then none else some (String.ofList last)
  | [] => none

/-- The template that a file of the directory holds: `endpoint.tera` and `endpoint.x.tera` are both
`endpoint`, and a file with another extension holds none. -/
def templateName? (fileName : String) : Option String :=
  if extension? fileName = some "tera" then
    (fileName.toList.splitOn '.').head?.map String.ofList
  else none

/-- Reads named sources, all of them or none. -/
def parseAll : List (String × String) → Option (List (String × Template))
  | [] => some []
  | (name, source) :: rest => do
    let template ← Template.parse? source
    let templates ← parseAll rest
    return (name, template) :: templates

/-- Adds templates by name, given as they are listed: a later one replaces an earlier one. -/
def override (registry : Registry) (sources : List (String × String)) : Except Failure Registry :=
  match parseAll (Text.sortOn Prod.fst sources) with
  | some templates =>
    .ok ⟨templates.foldl (fun entries (k, v) => Table.insert k v entries) registry.entries⟩
  | none => .error .template

example : templateName? "endpoint.rs.tera" = some "endpoint" := by decide +kernel
example : templateName? ".hidden.tera" = some "" := by decide +kernel
example : templateName? ".tera" = none := by decide +kernel
example : templateName? "tera" = none := by decide +kernel

end Registry

end ClientForge.Template
