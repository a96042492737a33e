import ClientForge.Api.Method
import ClientForge.Http.Exchange
import ClientForge.Text.Search

/-!
The client that generated methods call: it holds the key and the defaults of an API's user, and turns
a path, a query, headers and a body into one request.
-/

namespace ClientForge

/-- What a user of the API has configured. -/
structure Client where
  apiKey : String
  workspaceId : Option String
  region : String
  dbName : Option String
  branchName : String
  /-- Where every request goes, whatever the API's own address. -/
  baseUrl : Option String
deriving DecidableEq, Repr

namespace Client

inductive Error where
  /-- A value was neither given nor configured. -/
  | missingValue (name : String)
  | http (fault : Http.Fault)
deriving DecidableEq, Repr

def Error.message : Error → String
  | .missingValue name => "no " ++ name ++ " given and no default configured on the client"
  | .http fault => "HTTP request failed: " ++ fault.message

def defaultRegion : String := "us-east-1"

def defaultBranch : String := "main"

def standard (apiKey : String) : Client := ⟨apiKey, none, defaultRegion, none, defaultBranch, none⟩

/-- Sends every request to another address, given with or without slashes at its end. -/
def withBaseUrl (client : Client) (url : String) : Client :=
  { client with baseUrl := some (String.ofList (Text.dropEndWhile (· == '/') url.toList)) }

/-! ## Defaults -/

/-- Database and branch, each the given one or else the client's. -/
def dbBranchName (client : Client) (dbName branchName : Option String) : Except Error String :=
  match dbName.or client.dbName with
  | some db => .ok (db ++ ":" ++ branchName.getD client.branchName)
  | none => .error (.missingValue "db_name")

def workspace (client : Client) (workspaceId : Option String) : Except Error String :=
  match workspaceId.or client.workspaceId with
  | some id => .ok id
  | none => .error (.missingValue "workspace_id")

def regionMarker : List Char := "\x7bregionId\x7d".toList

def workspaceMarker : List Char := "\x7bworkspaceId\x7d".toList

/-- The address of an API: the client's own if it has one, else the template with the region and then
the workspace filled in. -/
def resolveBaseUrl (client : Client) (template : String) : Except Error String :=
  match client.baseUrl with
  | some url => .ok url
  | none =>
    let url := Text.replace regionMarker client.region.toList template.toList
    if Text.occurs workspaceMarker url then
      (client.workspace none).map fun id => String.ofList (Text.replace workspaceMarker id.toList url)
    else .ok (String.ofList url)

/-! ## Requests -/

/-- Query, headers and body of one call, each in the order in which they were added. -/
structure Options where
  query : List (String × String)
  headers : Http.Headers
  body : Http.Body

namespace Options

def none : Options := ⟨[], [], .absent⟩

def addQuery (options : Options) (key value : String) : Options :=
  { options with query := options.query ++ [(key, value)] }

def addHeader (options : Options) (name value : String) : Options :=
  { options with headers := options.headers ++ [(name, value)] }

/-- The last body counts. -/
def withJson (options : Options) (document : Json) : Options := { options with body := .json document }

def withBytes (options : Options) (content : ByteArray) : Options :=
  { options with body := .bytes content }

/-- An absent value adds nothing. -/
def addQuery? (options : Options) (key : String) (value : Option String) : Options :=
  match value with
  | some v => options.addQuery key v
  | .none => options

def addHeader? (options : Options) (name : String) (value : Option String) : Options :=
  match value with
  | some v => options.addHeader name v
  | .none => options

end Options

/-- The call that the client makes for a path of the API. -/
def call (client : Client) (method template path : String) (options : Options) :
    Except Error Http.Call := do
  let base ← client.resolveBaseUrl template
  return ⟨method, base ++ path, some client.apiKey, options.query, options.headers, options.body⟩

/-- What a client hands its calls to. -/
abbrev Transport (m : Type → Type) := Http.Call → m (Except Http.Fault Http.Response)

/-- Hands a call over, unless a value for it is missing. -/
def deliver {m : Type → Type} [Monad m] (transport : Transport m)
    (outcome : Except Error Http.Call) : m (Except Error Http.Response) :=
  match outcome with
  | .error e => pure (.error e)
  | .ok call => do return (← transport call).mapError .http

/-- Hands a call over to the network. -/
def send {m : Type → Type} [Monad m] (network : Http.Network m)
    (outcome : Except Error Http.Call) : m (Except Error Http.Response) :=
  deliver (fun call => call.send network) outcome

end Client

end ClientForge
