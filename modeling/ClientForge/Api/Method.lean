/-!
The HTTP methods an API description is searched for.
-/

namespace ClientForge.Api

inductive Method where
  | get
  | put
  | post
  | delete
  | patch
deriving DecidableEq, Repr

namespace Method

/-- In the order in which the operations of one path are emitted. -/
def all : List Method := [get, put, post, delete, patch]

/-- Key of the method's operation in a path item. -/
def key : Method → String
  | get => "get"
  | put => "put"
  | post => "post"
  | delete => "delete"
  | patch => "patch"

/-- The method as sent on the wire. -/
def verb : Method → String
  | get => "GET"
  | put => "PUT"
  | post => "POST"
  | delete => "DELETE"
  | patch => "PATCH"

def ofKey? (key : String) : Option Method := all.find? (·.key == key)

theorem mem_all (m : Method) : m ∈ all := by cases m <;> decide

theorem ofKey?_key (m : Method) : ofKey? m.key = some m := by cases m <;> rfl

end Method

end ClientForge.Api
