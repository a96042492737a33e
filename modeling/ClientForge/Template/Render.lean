import ClientForge.Template.Basic
import ClientForge.Template.Filter

/-!
Rendering. A template is rendered against a context, an object whose fields are its variables; a loop
adds its own variable. Rendering fails on an absent value and on a filter that does not apply.
-/

namespace ClientForge.Template

/-- One run of an enclosing loop: its variable, the value it has, and how far the loop is. -/
structure LoopFrame where
  name : String
  value : Json
  index : Nat
  count : Nat

/-- The variables in sight: those of the loops, innermost first, then the fields of the context. -/
structure Scope where
  loops : List LoopFrame
  context : Json

/-- A list index without sign and without leading zeros. -/
def listIndex? (field : String) : Option Nat :=
  let ds := field.toList
  if ds.isEmpty || !ds.all Char.isDigit || (ds.head? == some '0' && ds.length != 1) then none
  else some (ds.foldl (fun n d => n * 10 + (d.toNat - '0'.toNat)) 0)

/-- The value below `value` that a chain of fields leads to. -/
def descend (value : Json) : List String → Option Json
  | [] => some value
  | field :: fields =>
    match value with
    | .object members => (members.lookup field).bind (descend · fields)
    | .array items => ((listIndex? field).bind (items[·]?)).bind (descend · fields)
    | _ => none

def loopField (frame : LoopFrame) (field : String) : Option Json :=
  if field = "index" then some (Json.ofInt (frame.index + 1))
  else if field = "index0" then some (Json.ofInt frame.index)
  else if field = "first" then some (.bool (frame.index == 0))
  else if field = "last" then some (.bool (frame.index + 1 == frame.count))
  else none

def LoopFrame.find? (frame : LoopFrame) (name : String) (fields : List String) : Option Json :=
  if name = "loop" then fields.head?.bind (loopField frame)
  else if name = frame.name then descend frame.value fields
  else none

/-- The value of a variable: of the first loop that leads to one, else of the context. -/
def Scope.find? (scope : Scope) (name : String) (fields : List String) : Option Json :=
  match scope.loops.findSome? (·.find? name fields) with
  | some value => some value
  | none => (scope.context.get? name).bind (descend · fields)

def Operand.eval (scope : Scope) : Operand → Option Json
  | .path name fields => scope.find? name fields
  | .text s => some (.string s)
  | .integer n => some (Json.ofInt n)
  | .bool b => some (.bool b)

def applyFilters : List String → Json → Option Json
  | [], value => some value
  | name :: names, value => (applyFilter name value).bind (applyFilters names)

def Expression.eval (scope : Scope) (e : Expression) : Option Json :=
  (e.operand.eval scope).bind (applyFilters e.filters)

def isTruthy : Json → Bool
  | .null => false
  | .bool b => b
  | .number (.integer n) => n != 0
  | .number (.binary x) => !x.isZero
  | .string s => !s.isEmpty
  | .array items => !items.isEmpty
  | .object fields => !fields.isEmpty

def asInteger? : Json → Option Int
  | .number (.integer n) => some n
  | _ => none

/-- Equality of the scalars; lists and objects equal nothing. -/
def sameScalar : Json → Json → Bool
  | .null, .null => true
  | .bool a, .bool b => a == b
  | .number a, .number b => a == b
  | .string a, .string b => a == b
  | _, _ => false

def Condition.eval (scope : Scope) : Condition → Option Bool
  | .holds e => some (((e.eval scope).map isTruthy).getD false)
  | .equals left right => do return sameScalar (← left.eval scope) (← right.eval scope)
  | .exceeds left right => do
    let a ← (left.eval scope).bind asInteger?
    let b ← (right.eval scope).bind asInteger?
    return decide (b < a)

mutual

/-- The text a value is shown as. -/
def display : Json → String
  | .null => ""
  | .bool true => "true"
  | .bool false => "false"
  | .number (.integer n) => toString n
  | .number (.binary x) => x.toPlainText
  | .string s => s
  | .array [] => "[]"
  | .array (item :: items) => "[" ++ display item ++ displayItems items ++ "]"
  | .object _ => "[object]"

def displayItems : List Json → String
  | [] => ""
  | item :: items => ", " ++ display item ++ displayItems items

end

/-- What a loop runs over: the items of a list, or the characters of a text. -/
def loopItems : Json → Option (List Json)
  | .array items => some items
  | .string s => some (s.toList.map fun c => .string (String.ofList [c]))
  | _ => none

/-- Renders each item with its position, and joins the results. -/
def renderEach (render : Json → Nat → Option String) : List Json → Nat → Option String
  | [], _ => some ""
  | item :: items, index => do
    let first ← render item index
    let rest ← renderEach render items (index + 1)
    return first ++ rest

mutual

def Node.render (scope : Scope) : Node → Option String
  | .text value => some value
  | .value e => (e.eval scope).map display
  | .branch condition yes no =>
    match condition.eval scope with
    | some true => renderNodes scope yes
    | some false => renderNodes scope no
    | none => none
  | .each name container body =>
    match (container.eval scope).bind loopItems with
    | some items =>
      renderEach
        (fun item index =>
          renderNodes { scope with loops := ⟨name, item, index, items.length⟩ :: scope.loops } body)
        items 0
    | none => none

def renderNodes (scope : Scope) : List Node → Option String
  | [] => some ""
  | node :: nodes => do
    let first ← node.render scope
    let rest ← renderNodes scope nodes
    return first ++ rest

end

end ClientForge.Template

namespace ClientForge

/-- The text of a template in a context; `none` when it cannot be rendered. -/
def Template.render (template : Template) (context : Json) : Option String :=
  Template.renderNodes ⟨[], context⟩ template

end ClientForge
