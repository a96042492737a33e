/-!
Words of the generated language that cannot be used as identifiers.
-/

namespace ClientForge.Naming

def reservedWords : List String :=
  ["as", "async", "await", "break", "const", "continue", "crate", "dyn", "else", "enum",
   "extern", "false", "fn", "for", "if", "impl", "in", "let", "loop", "match", "mod", "move",
   "mut", "pub", "ref", "return", "self", "static", "struct", "super", "trait", "true", "try",
   "type", "unsafe", "use", "where", "while", "abstract", "become", "box", "do", "final",
   "gen", "macro", "override", "priv", "typeof", "unsized", "virtual", "yield"]

def isReserved (word : String) : Bool := reservedWords.contains word

/-- A reserved word gets a trailing underscore. -/
def escapeReserved (word : String) : String := if isReserved word then word ++ "_" else word

end ClientForge.Naming
