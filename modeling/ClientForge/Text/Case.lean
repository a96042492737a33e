import ClientForge.Text.CaseTable
import ClientForge.Text.Letter

/-!
Full Unicode case conversion: of one character, and of a text, where a capital sigma depends on its
neighbours.
-/

namespace ClientForge.Text

/-- Lower case of a character by itself; `İ` becomes two characters. -/
def lowerChar (c : Char) : List Char :=
  if isAscii c then [c.toLower]
  else match CaseTable.lowerLong.lookup c.toNat with
    | some image => image.map Char.ofNat
    | none => [shifted CaseTable.lower c]

/-- Upper case of a character; `ß` becomes two characters. -/
def upperChar (c : Char) : List Char :=
  if isAscii c then [c.toUpper]
  else match CaseTable.upperLong.lookup c.toNat with
    | some image => image.map Char.ofNat
    | none => [shifted CaseTable.upper c]

/-- The first character that is not ignorable exists and is cased. -/
def leadsCased (cs : List Char) : Bool :=
  match cs.dropWhile isCaseIgnorable with
  | c :: _ => isCased c
  | [] => false

/-- Lower case of a text whose preceding characters, nearest first, are `before`: a capital sigma
that ends a word becomes a final one. -/
def lowerFrom (before : List Char) : List Char → List Char
  | [] => []
  | c :: rest =>
    (if c = 'Σ' then [if leadsCased before && !leadsCased rest then 'ς' else 'σ'] else lowerChar c)
      ++ lowerFrom (c :: before) rest

def lower (cs : List Char) : List Char := lowerFrom [] cs

def lowercase (s : String) : String := String.ofList (lower s.toList)

/-- Equality up to the case of ASCII letters. -/
def sameIgnoringAsciiCase (a b : String) : Bool :=
  a.toList.map Char.toLower == b.toList.map Char.toLower

example : lowercase "ΟΔΟΣ ΑΣΒ" = "οδος ασβ" := by decide +kernel
example : lowerChar 'İ' = ['i', '\u0307'] := by decide +kernel
example : upperChar 'ß' = ['S', 'S'] := by decide +kernel

end ClientForge.Text
