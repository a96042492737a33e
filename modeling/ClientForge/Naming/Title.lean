import ClientForge.Text.Blank
import ClientForge.Text.Case

/-!
Names derived from a tag's display name or an operation's summary: types, files and documentation
links.
-/

namespace ClientForge.Naming

open ClientForge.Text

def capitalize : List Char → List Char
  | [] => []
  | c :: cs => upperChar c ++ cs

/-- The words between spaces, reduced to letters and numbers, capitalised and joined. -/
def typeName (displayName : String) : String :=
  String.ofList <|
    ((lower displayName.toList).splitOn ' ').flatMap fun word => capitalize (word.filter isAlphanumeric)

def replaceSpaces (substitute : Char) (cs : List Char) : List Char :=
  cs.map fun c => if c = ' ' then substitute else c

/-- File name, without extension, of a tag. -/
def fileStem (name : String) : String := String.ofList (lower (replaceSpaces '_' name.toList))

/-- The path without its braces, then the summary as a fragment. -/
def docsUrl (base path summary : String) : String :=
  base ++ String.ofList ((strip isBlank path.toList).filter fun c => c ≠ '\x7b' ∧ c ≠ '\x7d')
    ++ "#" ++ String.ofList (replaceSpaces '-' (lower summary.toList))

example : typeName "API Keys (beta)" = "ApiKeysBeta" := by decide +kernel
example : fileStem "API Keys" = "api_keys" := by decide +kernel
example : docsUrl "d" "/k/\x7bid\x7d" "Get it" = "d/k/id#get-it" := by decide +kernel

end ClientForge.Naming
