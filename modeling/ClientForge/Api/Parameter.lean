import ClientForge.Failure
import ClientForge.Json.Basic

/-!
The inputs of an operation.
-/

namespace ClientForge.Api

/-- Where an input travels. The last two are never declared: they carry the request body and the
choice among several response content types. -/
inductive Location where
  | path
  | query
  | header
  | cookie
  | requestBody
  | responseBody
deriving DecidableEq, Repr

namespace Location

def text : Location → String
  | path => "path"
  | query => "query"
  | header => "header"
  | cookie => "cookie"
  | requestBody => "requestBody"
  | responseBody => "responseBody"

/-- The locations a parameter can be declared with. -/
def declarable : List Location := [path, query, header, cookie]

def parse (s : String) : Except Failure Location :=
  match declarable.find? (·.text == s) with
  | some location => .ok location
  | none => .error (.invalidDocument (.unsupportedLocation s))

end Location

structure Parameter where
  /-- As declared, without blanks around it. -/
  name : String
  /-- The argument it becomes in the generated code. -/
  ident : String
  location : Location
  type : String
  required : Bool
  description : String
  default : Option Json

/-- A parameter as the manifest lists it. -/
structure ParameterSummary where
  name : String
  description : String
  location : Location
  required : Bool
deriving DecidableEq, Repr

def Parameter.summary (p : Parameter) : ParameterSummary :=
  ⟨p.name, p.description, p.location, p.required⟩

end ClientForge.Api
