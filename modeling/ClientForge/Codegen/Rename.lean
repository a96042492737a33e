import ClientForge.Failure
import ClientForge.Json.Parse
import ClientForge.Table
import ClientForge.Template.Registry

/-!
Renames: for single operations, another method name and another template. They are read from a JSON
object of namespaces, each an object of operation ids.
-/

namespace ClientForge.Codegen

structure Rename where
  name : String
  template : String
deriving DecidableEq, Repr

/-- Renames by namespace file stem and then by operation id. -/
structure RenameMapping where
  entries : List (String × List (String × Rename))

namespace RenameMapping

def empty : RenameMapping := ⟨[]⟩

def occurrences (key : String) (fields : List (String × Json)) : Nat := (fields.map (·.1)).count key

/-- A rename is an object with a `name` and perhaps a `template`, neither of them twice, or the list
of the two. -/
def rename? : Json → Option Rename
  | .object fields =>
    if 1 < occurrences "name" fields ∨ 1 < occurrences "template" fields then none
    else do
      let name ← (← fields.lookup "name").asString?
      match fields.lookup "template" with
      | some template => return ⟨name, ← template.asString?⟩
      | none => return ⟨name, Template.Registry.endpointName⟩
  | .array [.string name] => some ⟨name, Template.Registry.endpointName⟩
  | .array [.string name, .string template] => some ⟨name, template⟩
  | _ => none

def rows? {α : Type} (read : Json → Option α) : List (String × Json) → Option (List (String × α))
  | [] => some []
  | (key, value) :: rest => do
    let x ← read value
    let xs ← rows? read rest
    return (key, x) :: xs

def namespace? (document : Json) : Option (List (String × Rename)) :=
  (document.asObject?.bind (rows? rename?)).map Table.ofRows

def ofDocument? (document : Json) : Option RenameMapping :=
  (document.asObject?.bind (rows? namespace?)).map fun rows => ⟨Table.ofRows rows⟩

def parse (text : String) : Except Failure RenameMapping :=
  match (Json.parseRaw? Json.nestingLimit text).bind ofDocument? with
  | some renames => .ok renames
  | none => .error (.configuration .renamesMalformed)

def find? (renames : RenameMapping) (fileStem operationId : String) : Option Rename :=
  (renames.entries.lookup fileStem).bind (·.lookup operationId)

def all (renames : RenameMapping) : List Rename :=
  renames.entries.flatMap fun (_, operations) => operations.map (·.2)

def size (renames : RenameMapping) : Nat := renames.all.length

/-- The templates that some rename asks for, in order, each once. -/
def templates (renames : RenameMapping) : List String :=
  (Text.sorted (renames.all.map (·.template))).eraseDups

end RenameMapping

end ClientForge.Codegen
