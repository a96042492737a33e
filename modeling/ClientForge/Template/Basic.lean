/-!
Templates: text with values, conditions and loops in between.
-/

namespace ClientForge.Template

/-- What an expression starts from. -/
inductive Operand where
  /-- A variable and the fields below it. -/
  | path (name : String) (fields : List String)
  | text (value : String)
  | integer (value : Int)
  | bool (value : Bool)
deriving DecidableEq, Repr

/-- An operand sent through filters, by name. -/
structure Expression where
  operand : Operand
  filters : List String
deriving DecidableEq, Repr

inductive Condition where
  /-- Neither empty nor zero nor absent. -/
  | holds (e : Expression)
  | equals (left right : Expression)
  | exceeds (left right : Expression)
deriving DecidableEq, Repr

inductive Node where
  | text (value : String)
  | value (e : Expression)
  | branch (condition : Condition) (yes no : List Node)
  | each (name : String) (container : Expression) (body : List Node)
deriving Repr

end ClientForge.Template

namespace ClientForge

abbrev Template := List Template.Node

end ClientForge
