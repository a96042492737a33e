import ClientForge.Naming.Reserved
import ClientForge.Text.Blank
import ClientForge.Text.Case

/-!
Identifiers of the generated code: `functionName` for methods, from operation ids, and `parameterName`
for arguments, from declared parameter names. The two differ: a method name keeps letters of any
script and breaks where case rises, an argument name is ASCII and breaks before every capital.
-/

namespace ClientForge.Naming

open ClientForge.Text

/-- Snake case of the characters still to come. `broken`: the text so far ends in an underscore.
`rising`: it ends in a small letter or a digit, so that a capital opens a new word. -/
def snakeFrom (broken rising : Bool) : List Char → List Char
  | [] => []
  | c :: cs =>
    if isUpper c then
      (if rising then ['_'] else []) ++ lowerChar c ++ snakeFrom false false cs
    else if isAlphanumeric c then
      c :: snakeFrom false (isLower c || c.isDigit) cs
    else if (c = '-' ∨ c = '_' ∨ c = ' ') ∧ broken = false then
      '_' :: snakeFrom true false cs
    else snakeFrom broken rising cs

def snakeCase (s : String) : String :=
  String.ofList (strip (· == '_') (snakeFrom false false s.toList))

def functionName (s : String) : String := escapeReserved (snakeCase s)

/-- Cuts before every ASCII capital. -/
def splitAtCapitals : List Char → List (List Char)
  | [] => []
  | c :: cs =>
    match splitAtCapitals cs with
    | (d :: w) :: ws => if d.isUpper then [c] :: (d :: w) :: ws else (c :: d :: w) :: ws
    | _ => [[c]]

/-- The words of a declared name: the first starts at the first ASCII letter, every further one at
an ASCII capital. -/
def words (cs : List Char) : List (List Char) := splitAtCapitals (cs.dropWhile (!·.isAlpha))

def parameterWord (word : List Char) : List Char :=
  strip (· == '_') ((lower word).map fun c => if c.isAlphanum then c else '_')

def parameterName (s : String) : String :=
  escapeReserved <| String.ofList <|
    joinWith ['_'] (((words s.toList).map parameterWord).filter (!·.isEmpty))

example : snakeCase "findPetsByStatus" = "find_pets_by_status" := by decide +kernel
example : functionName "get HTTP Response" = "get_http_response" := by decide +kernel
example : parameterName "HTTPServer" = "h_t_t_p_server" := by decide +kernel
example : parameterName "type" = "type_" := by decide +kernel

end ClientForge.Naming
