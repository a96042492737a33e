import ClientForge.Text.Blank

/-!
Free text made safe to stand in a generated comment. No blank survives but single spaces, and `*/`
is pulled apart so that it cannot close a block comment.
-/

namespace ClientForge.Text

/-- Typographic quotes and the em dash become their ASCII counterparts. -/
def plainPunctuation (c : Char) : Char :=
  if c = '\u2018' ∨ c = '\u2019' then '\''
  else if c = '\u201c' ∨ c = '\u201d' then '"'
  else if c = '\u2014' then '-'
  else c

/-- Writes a space into every `*/`, from the left and without overlaps. -/
def splitTerminators : List Char → List Char
  | '*' :: '/' :: cs => '*' :: ' ' :: '/' :: splitTerminators cs
  | c :: cs => c :: splitTerminators cs
  | [] => []

def commentLine (line : List Char) : List Char :=
  splitTerminators (collapse (strip isBlank (line.map plainPunctuation)))

/-- The whole text on one line, its empty lines dropped. -/
def docLine (s : String) : String :=
  String.ofList (joinWith [' '] (((lines s.toList).map commentLine).filter (!·.isEmpty)))

/-- The text line by line, blank ends dropped and inner paragraph breaks kept. -/
def docLines (s : String) : List String :=
  (lines (strip isBlank s.toList)).map fun line =>
    String.ofList (splitTerminators (dropEndWhile isBlank line))

example : docLine "a list\n\n  of   existing—keys */" = "a list of existing-keys * /" := by decide
example : docLines " x \n\ny*/ " = ["x", "", "y* /"] := by decide

end ClientForge.Text
