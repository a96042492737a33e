import ClientForge.Http.Message

/-!
Sending a request until a response stands: redirects are followed, at most ten.
-/

namespace ClientForge.Http

/-- Why there is no response. -/
inductive Fault where
  /-- The request cannot be sent as it is. -/
  | malformed
  /-- No answer came; the URL is the one first asked for. -/
  | unanswered (url : String)
  | tooManyRedirects (url : String)
deriving DecidableEq, Repr

def Fault.message : Fault → String
  | .malformed => "builder error"
  | .unanswered url => "error sending request for url (" ++ url ++ ")"
  | .tooManyRedirects url => "error following redirect for url (" ++ url ++ ")"

/-- One request and its answer, if there is one. -/
abbrev Network (m : Type → Type) := Request → m (Option Response)

/-- A network that reaches nobody. -/
def Network.unreachable {m : Type → Type} [Monad m] : Network m := fun _ => pure none

def maxRedirects : Nat := 10

/-- A redirect after which the request is made again as a plain one. -/
def becomesGet (status : Nat) (method : String) : Bool :=
  (status == 303 && method != "GET" && method != "HEAD") ||
    ([301, 302].contains status && method == "POST")

/-- Headers that describe a body. -/
def contentHeaders : List String :=
  ["content-type", "content-length", "content-encoding", "transfer-encoding"]

/-- Headers that are meant for one server only. -/
def privateHeaders : List String :=
  ["authorization", "cookie", "proxy-authorization", "www-authenticate"]

/-- The page that a request comes from, told to the next one unless that is less secure. -/
def referer? (current next : Url) : Option String :=
  if current.secure ∧ !next.secure then none else some { current with fragment := none }.text

/-- The request that a response redirects to, if it does. -/
def redirect? (request : Request) (response : Response) : Option Request := do
  guard ([301, 302, 303, 307, 308].contains response.status)
  let url ← request.url.join? (← response.headers.value? "location")
  let headers := request.headers.without ["referer"] ++
    ((referer? request.url url).map fun page => [("referer", page)]).getD []
  let headers :=
    if request.url.host = url.host ∧ request.url.portNumber = url.portNumber then headers
    else headers.without privateHeaders
  if becomesGet response.status request.method then
    return ⟨"GET", url, headers.without contentHeaders, .empty⟩
  else return ⟨request.method, url, headers, request.body⟩

variable {m : Type → Type} [Monad m]

/-- What comes of an answer; `redirected` is done about a redirect. -/
def settle (asked : String) (request : Request)
    (redirected : Request → m (Except Fault Response)) :
    Option Response → m (Except Fault Response)
  | none => return .error (.unanswered asked)
  | some response =>
    match redirect? request response with
    | none => return .ok response
    | some next => redirected next

/-- Sends a request and follows up to `redirects` redirects. -/
def follow (network : Network m) (asked : String) : Nat → Request → m (Except Fault Response)
  | 0, request => do
    settle asked request (fun _ => return .error (.tooManyRedirects request.url.text))
      (← network request)
  | redirects + 1, request => do
    settle asked request (follow network asked redirects) (← network request)

def Call.send (call : Call) (network : Network m) : m (Except Fault Response) :=
  match call.request? with
  | some request => follow network request.url.text maxRedirects request
  | none => return .error .malformed

end ClientForge.Http
