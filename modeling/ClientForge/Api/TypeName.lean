import ClientForge.Text.Blank
import ClientForge.Text.Case

/-!
Semantic type names. The five primitive names of a schema have short forms; every other name is kept
in lower case.
-/

namespace ClientForge.Api

def shortTypeNames : List (String × String) :=
  [("integer", "int"), ("boolean", "bool"), ("array", "list"), ("object", "dict"), ("string", "str")]

def semanticType (declared : String) : String :=
  let name := Text.lowercase (Text.trim declared)
  (shortTypeNames.lookup name).getD name

/-- The type of a parameter whose schema does not tell. -/
def anyType : String := "any"

example : semanticType " Integer " = "int" := by decide +kernel
example : semanticType "Number" = "number" := by decide +kernel

end ClientForge.Api
