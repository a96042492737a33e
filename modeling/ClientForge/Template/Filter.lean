import ClientForge.Json.Basic
import ClientForge.Naming.Identifier
import ClientForge.Text.Comment

/-!
The filters of the templates. `rust_type` and `query_value` take a parameter, an object with at least
the fields they read; `fn_name` and `doc_line` take a text.
-/

namespace ClientForge.Template

/-- Type of an argument of the generated method. -/
def argumentType (type : String) (required : Bool) : String :=
  let base :=
    if type = "str" then "&str"
    else if type = "int" then "i64"
    else if type = "number" then "f64"
    else if type = "bool" then "bool"
    else if type = "list" then "&[&str]"
    else "serde_json::Value"
  if required then base else "Option<" ++ base ++ ">"

/-- Expression that turns an argument into the text of a query or header value. -/
def argumentText (type ident : String) : String :=
  if type = "str" then ident
  else if type = "list" then ident ++ ".join(\",\")"
  else ident ++ ".to_string()"

/-- Applies a filter; `none` when there is no such filter or the value does not suit it. -/
def applyFilter (name : String) (value : Json) : Option Json :=
  if name = "fn_name" then value.asString?.map fun s => .string (Naming.functionName s)
  else if name = "doc_line" then value.asString?.map fun s => .string (Text.docLine s)
  else if name = "rust_type" then do
    let type ← value.get? "type"
    let required ← value.get? "required"
    return .string (argumentType (type.asString?.getD "any") (required.asBool?.getD false))
  else if name = "query_value" then do
    let type ← value.get? "type"
    let ident ← (← value.get? "ident").asString?
    return .string (argumentText (type.asString?.getD "any") ident)
  else if name = "length" then
    match value with
    | .array items => some (Json.ofInt items.length)
    | .object fields => some (Json.ofInt fields.length)
    | .string s => some (Json.ofInt s.length)
    | _ => none
  else none

end ClientForge.Template
