import ClientForge.Api.TypeName
import ClientForge.Failure
import ClientForge.Json.Basic
import ClientForge.Table

/-!
References to the shared components of a description. A component is known by its group and name,
`parameters/Limit`; a reference may also be written in full, `#/components/parameters/Limit`.
-/

namespace ClientForge.Api

/-- The components of a description by key, a repeated key with its last component. -/
structure ReferenceTable where
  entries : List (String × Json)

namespace ReferenceTable

def root : List Char := ['#', '/', 'c', 'o', 'm', 'p', 'o', 'n', 'e', 'n', 't', 's', '/']

/-- Removes the leading `#/components/` once. -/
def key (reference : String) : String :=
  let cs := reference.toList
  if root.isPrefixOf cs then String.ofList (cs.drop root.length) else reference

/-- A component whose `type` is a string gets the semantic type in its place. -/
def normalizeComponent (component : Json) : Json :=
  match component with
  | .object fields =>
    match component.string? "type" with
    | some type => .object (Table.insert "type" (.string (semanticType type)) fields)
    | none => component
  | _ => component

/-- Every component of every group, in document order. -/
def components (document : Json) : List (String × Json) :=
  ((document.object? "components").getD []).flatMap fun (group, members) =>
    (members.asObject?.getD []).map fun (name, component) =>
      (group ++ "/" ++ name, normalizeComponent component)

def ofDocument (document : Json) : ReferenceTable :=
  ⟨Table.ofRows (components document)⟩

def find? (table : ReferenceTable) (reference : String) : Option Json :=
  table.entries.lookup (key reference)

def require (table : ReferenceTable) (reference : String) : Except Failure Json :=
  match table.find? reference with
  | some component => .ok component
  | none => .error (.unresolvedReference reference)

def size (table : ReferenceTable) : Nat := table.entries.length

example : key "#/components/#/components/a" = "#/components/a" := by decide +kernel

end ReferenceTable

end ClientForge.Api
