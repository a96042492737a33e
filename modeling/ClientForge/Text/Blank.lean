/-!
White space, and the lines and words it separates. Blank means the Unicode property `White_Space`,
25 characters; a line ends only at a line feed, with or without a carriage return before it.
-/

namespace ClientForge.Text

def blanks : List Char :=
  ['\t', '\n', '\x0b', '\x0c', '\r', ' ', '\u0085', '\u00a0', '\u1680', '\u2000', '\u2001', '\u2002',
   '\u2003', '\u2004', '\u2005', '\u2006', '\u2007', '\u2008', '\u2009', '\u200a', '\u2028', '\u2029',
   '\u202f', '\u205f', '\u3000']

def isBlank (c : Char) : Bool := blanks.contains c

def dropEndWhile (p : Char → Bool) (cs : List Char) : List Char :=
  (cs.reverse.dropWhile p).reverse

/-- Drops the characters that satisfy `p` from both ends. -/
def strip (p : Char → Bool) (cs : List Char) : List Char := dropEndWhile p (cs.dropWhile p)

def trim (s : String) : String := String.ofList (strip isBlank s.toList)

/-- The lines of a text without their ends; nothing follows a final line end. -/
def lines : List Char → List (List Char)
  | [] => []
  | '\r' :: '\n' :: cs => [] :: lines cs
  | '\n' :: cs => [] :: lines cs
  | c :: cs =>
    match lines cs with
    | [] => [[c]]
    | l :: ls => (c :: l) :: ls

/-- Every run of blanks becomes one space. -/
def collapse : List Char → List Char
  | [] => []
  | c :: cs =>
    let rest := collapse cs
    if isBlank c then (if rest.head? = some ' ' then rest else ' ' :: rest) else c :: rest

def joinWith (separator : List Char) : List (List Char) → List Char
  | [] => []
  | [w] => w
  | w :: ws => w ++ separator ++ joinWith separator ws

example : blanks.length = 25 := by decide
example : lines "a\r\nb\n\nc\r".toList = [['a'], ['b'], [], ['c', '\r']] := by decide

end ClientForge.Text
