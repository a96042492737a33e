import ClientForge.Codegen.Scope
import ClientForge.Template.Registry
import ClientForge.Text.Comment

/-!
The declaration that opens a namespace's file.
-/

namespace ClientForge.Codegen

namespace Declaration

/-- The description, unless it is blank. -/
def description? (n : Api.Namespace) : Option String :=
  match n.description.map Text.trim with
  | some d => if d.isEmpty then none else some d
  | none => none

def texts (lines : List String) : Json := .array (lines.map .string)

def context (scope : Scope) (n : Api.Namespace) : Json :=
  .object
    [("class_name", .string (Naming.typeName n.displayName)),
     ("display_name", .string n.displayName),
     ("description_lines", texts (Text.docLines ((description? n).getD n.displayName))),
     ("scope", .string scope.name),
     ("spec_version", .string scope.specVersion),
     ("base_url", .string scope.baseUrl),
     ("runtime_path", .string scope.runtimePath),
     ("version", .string generatorVersion)]

def render (registry : Template.Registry) (scope : Scope) (n : Api.Namespace) :
    Except Failure String :=
  registry.render Template.Registry.namespaceName (context scope n)

def warnings (n : Api.Namespace) : List Api.Warning :=
  if (description? n).isSome then [] else [.namespaceWithoutDescription n.name]

end Declaration

end ClientForge.Codegen
