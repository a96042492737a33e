import ClientForge.Json.Binary64

/-!
JSON documents. Objects keep the order of their fields; everything read from text has distinct keys
in every object.
-/

namespace ClientForge

/-- Integers stay integers in the range of 64-bit words, signed or unsigned; every other number is a
double. -/
inductive Json.Number where
  | integer (value : Int)
  | binary (value : Json.Binary64)
deriving DecidableEq, Repr, Inhabited

inductive Json where
  | null
  | bool (value : Bool)
  | number (value : Json.Number)
  | string (value : String)
  | array (items : List Json)
  | object (fields : List (String × Json))
deriving Repr, Inhabited

namespace Json

/-- The value under a key, when the document is an object that has it. -/
def get? (document : Json) (key : String) : Option Json :=
  match document with
  | .object fields => fields.lookup key
  | _ => none

def asString? : Json → Option String
  | .string s => some s
  | _ => none

def asBool? : Json → Option Bool
  | .bool b => some b
  | _ => none

def asArray? : Json → Option (List Json)
  | .array items => some items
  | _ => none

def asObject? : Json → Option (List (String × Json))
  | .object fields => some fields
  | _ => none

def string? (document : Json) (key : String) : Option String :=
  (document.get? key).bind asString?

def array? (document : Json) (key : String) : Option (List Json) :=
  (document.get? key).bind asArray?

def object? (document : Json) (key : String) : Option (List (String × Json)) :=
  (document.get? key).bind asObject?

/-- The integers a document can hold exactly. -/
def isWord (n : Int) : Bool := -0x8000000000000000 ≤ n && n < 0x10000000000000000

def ofInt (n : Int) : Json := .number (.integer n)

end Json

end ClientForge
