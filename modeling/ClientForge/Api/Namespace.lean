import ClientForge.Api.Method
import ClientForge.Api.Warning
import ClientForge.Failure
import ClientForge.Json.Basic

/-!
Namespaces: the tags of a description, each owning the operations whose first tag it is.
-/

namespace ClientForge.Api

structure Namespace where
  name : String
  displayName : String
  description : Option String
deriving DecidableEq, Repr

namespace Namespace

def ofTag (tag : Json) : Except Failure Namespace :=
  match tag.string? "name" with
  | some name =>
    .ok ⟨name, (tag.string? "x-displayName").getD name, tag.string? "description"⟩
  | none => .error (.invalidDocument .tagWithoutName)

/-- The declared tags in document order. -/
def declared (document : Json) : Except Failure (List Namespace) :=
  ((document.array? "tags").getD []).mapM ofTag

end Namespace

/-- The first tag of an operation. -/
def ownerTag (operation : Json) : Option String :=
  ((operation.array? "tags").bind List.head?).bind Json.asString?

/-- An operation in its place. -/
structure Operation where
  path : String
  /-- The path item that holds the operation. -/
  item : Json
  method : Method
  body : Json

/-- Every operation of a description, by path in document order and then by method. -/
def operations (paths : List (String × Json)) : List Operation :=
  paths.flatMap fun (path, item) =>
    Method.all.filterMap fun method =>
      (item.get? method.key).map fun body => ⟨path, item, method, body⟩

/-- The operation's first tag is `name`. -/
def Operation.isOwnedBy (operation : Operation) (name : String) : Bool :=
  ownerTag operation.body == some name

/-- The namespaces that own an operation. -/
def Namespace.owning (namespaces : List Namespace) (operations : List Operation) : List Namespace :=
  namespaces.filter fun n => operations.any (·.isOwnedBy n.name)

/-- What is said of an operation that no namespace owns. -/
def Operation.ownershipWarning (namespaces : List Namespace) (operation : Operation) :
    Option Warning :=
  match ownerTag operation.body with
  | none => some (.operationWithoutTags operation.path operation.method.key)
  | some tag =>
    if namespaces.any (·.name == tag) then none
    else some (.undeclaredTag operation.path operation.method.key tag)

end ClientForge.Api
