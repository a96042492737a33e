/-!
Finding and replacing a fixed text.
-/

namespace ClientForge.Text

/-- The text occurs somewhere in the characters. -/
def occurs (text : List Char) : List Char → Bool
  | [] => text.isEmpty
  | c :: cs => text.isPrefixOf (c :: cs) || occurs text cs

/-- Passes over `skipped` characters, then puts `new` in the place of every occurrence of `old`, from
left to right and without overlaps. -/
def replaceFrom (old new : List Char) : Nat → List Char → List Char
  | _, [] => []
  | skipped + 1, _ :: cs => replaceFrom old new skipped cs
  | 0, c :: cs =>
    if old ≠ [] ∧ old.isPrefixOf (c :: cs) then new ++ replaceFrom old new (old.length - 1) cs
    else c :: replaceFrom old new 0 cs

def replace (old new cs : List Char) : List Char := replaceFrom old new 0 cs

example : replace "aa".toList "b".toList "aaaxaa".toList = "baxb".toList := by decide +kernel

end ClientForge.Text
