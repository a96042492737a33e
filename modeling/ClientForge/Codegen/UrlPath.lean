import ClientForge.Api.Curation

/-!
Placeholders of URL paths: a name in braces, not empty and itself without braces. In generated code a
placeholder names an argument.
-/

namespace ClientForge.Codegen.UrlPath

inductive Piece where
  | literal (text : List Char)
  | placeholder (name : List Char)
deriving DecidableEq, Repr

/-- Cuts a path into its placeholders and the text around them. `opened` holds, last character first,
what followed a brace that may still open a placeholder. -/
def scan : Option (List Char) → List Char → List Piece
  | none, [] => []
  | some name, [] => [.literal ('\x7b' :: name.reverse)]
  | none, c :: cs => if c = '\x7b' then scan (some []) cs else .literal [c] :: scan none cs
  | some name, c :: cs =>
    if c = '\x7b' then .literal ('\x7b' :: name.reverse) :: scan (some []) cs
    else if c = '\x7d' then
      if name.isEmpty then .literal ['\x7b', '\x7d'] :: scan none cs
      else .placeholder name.reverse :: scan none cs
    else scan (some (c :: name)) cs

def pieces (path : String) : List Piece := scan none path.toList

def Piece.isPlaceholder : Piece → Bool
  | .placeholder _ => true
  | .literal _ => false

def hasPlaceholders (path : String) : Bool := (pieces path).any Piece.isPlaceholder

def Piece.mapName (f : List Char → List Char) : Piece → List Char
  | .literal text => text
  | .placeholder name => '\x7b' :: f name ++ ['\x7d']

/-- The argument that a placeholder stands for: of the path parameter of that name, if there is one. -/
def argument (parameters : List Api.Parameter) (name : String) : String :=
  match parameters.find? fun p => p.location == .path && p.name == name with
  | some p => p.ident
  | none => Naming.parameterName name

/-- Writes arguments in the place of the names. -/
def withArguments (parameters : List Api.Parameter) (path : String) : String :=
  String.ofList <| (pieces path).flatMap <|
    Piece.mapName fun name => (argument parameters (String.ofList name)).toList

end ClientForge.Codegen.UrlPath
