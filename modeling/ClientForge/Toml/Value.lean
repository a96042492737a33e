/-!
TOML documents, and the rules for putting a value or a table header into one. A table may be opened by
one header only; a table that dotted keys opened takes further dotted keys but no header; an inline
table takes nothing.
-/

namespace ClientForge.Toml

/-- What brought a table into being. -/
inductive Origin where
  | header
  /-- It lies above a header's table. -/
  | implied
  | dotted
  | inline
deriving DecidableEq, Repr

inductive Value where
  | text (value : String)
  /-- A number, a boolean or a date. -/
  | scalar
  | array (items : List Value)
  | table (origin : Origin) (rows : List (String × Value))
  /-- Tables under one array header, in order. -/
  | tables (items : List (List (String × Value)))
deriving Repr, Inhabited

abbrev Rows := List (String × Value)

def replace (key : String) (value : Value) : Rows → Rows
  | [] => [(key, value)]
  | (k, v) :: rest => if k = key then (k, value) :: rest else (k, v) :: replace key value rest

/-- Replaces the last element by what `f` makes of it. -/
def updateLast? {α : Type} (f : α → Option α) : List α → Option (List α)
  | [] => none
  | [x] => (f x).map ([·])
  | x :: xs => (updateLast? f xs).map (x :: ·)

/-- Applies `f` to the table that a path leads to, with its origin. Missing tables come into being;
of an array of tables the last one is meant. Dotted keys do not enter a table that has a header. -/
def descend? (dotted : Bool) (f : Origin → Rows → Option Rows) :
    List String → Origin → Rows → Option Rows
  | [], origin, rows => f origin rows
  | key :: path, _, rows =>
    match rows.lookup key with
    | none =>
      let origin := if dotted then .dotted else .implied
      (descend? dotted f path origin []).map fun inner => replace key (.table origin inner) rows
    | some (.table origin inner) =>
      if origin = .inline ∨ (dotted ∧ origin = .header) then none
      else
        (descend? dotted f path origin inner).map fun inner => replace key (.table origin inner) rows
    | some (.tables items) =>
      (updateLast? (fun inner => descend? dotted f path .header inner) items).map fun items =>
        replace key (.tables items) rows
    | some _ => none

/-- Adds a value under a dotted key. -/
def assign? (path : List String) (value : Value) (origin : Origin) (rows : Rows) : Option Rows :=
  match path.reverse with
  | [] => none
  | key :: above =>
    descend? true
      (fun origin rows =>
        if (rows.lookup key).isSome ∨ (!above.isEmpty ∧ origin ≠ .dotted) then none
        else some (rows ++ [(key, value)]))
      above.reverse origin rows

/-- Opens the table of a header. -/
def openTable? (path : List String) (document : Rows) : Option Rows :=
  match path.reverse with
  | [] => none
  | key :: above =>
    descend? false
      (fun _ rows =>
        match rows.lookup key with
        | none => some (rows ++ [(key, .table .header [])])
        | some (.table .implied inner) => some (replace key (.table .header inner) rows)
        | some _ => none)
      above.reverse .header document

/-- Opens a further table of an array header. -/
def openElement? (path : List String) (document : Rows) : Option Rows :=
  match path.reverse with
  | [] => none
  | key :: above =>
    descend? false
      (fun _ rows =>
        match rows.lookup key with
        | none => some (rows ++ [(key, .tables [[]])])
        | some (.tables items) => some (replace key (.tables (items ++ [[]])) rows)
        | some _ => none)
      above.reverse .header document

end ClientForge.Toml
