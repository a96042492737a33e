import ClientForge.Text.LetterTable

/-!
Letter classes of a character. ASCII is decided by comparison, everything above by table.
-/

namespace ClientForge.Text

def isAscii (c : Char) : Bool := c.toNat < 0x80

def isUpper (c : Char) : Bool :=
  if isAscii c then c.isUpper else LetterTable.uppercase.any (·.contains c.toNat)

def isLower (c : Char) : Bool :=
  if isAscii c then c.isLower else LetterTable.lowercase.any (·.contains c.toNat)

/-- Letters and numbers of any script. -/
def isAlphanumeric (c : Char) : Bool :=
  if isAscii c then c.isAlphanum else LetterTable.alphanumeric.any (·.contains c.toNat)

/-- Upper, lower and title case together. -/
def isCased (c : Char) : Bool :=
  isUpper c || isLower c || LetterTable.titlecase.any (·.contains c.toNat)

/-- Marks and punctuation that a word may hold between its cased letters. -/
def isCaseIgnorable (c : Char) : Bool :=
  if isAscii c then c == '\'' || c == '.' || c == ':' || c == '^' || c.toNat == 0x60
  else LetterTable.caseIgnorable.any (·.contains c.toNat)

end ClientForge.Text
