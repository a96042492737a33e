import ClientForge.Proofs.ClientAddress
import ClientForge.Proofs.RequestTargets

/-!
What a client hands to its HTTP client. A value that is missing is noticed before: then no call is
handed over. Else it is exactly one, with what was added to its options, and what goes wrong with it
is an error of HTTP.

Results:
1. `Http.Call.request?_conveys`: what the request says that is made for a call.
2. `Client.refuses_iff`, `Client.handsOver_iff`: what a client hands over for an outcome.
3. `Client.carries_of`: query, headers and body of options that were put together;
   `Client.Options.exists_of`: there are no others.
4. `Client.Core.Invocation.outcome_cases`: the outcome of every method of the core API.
5. `Client.requests_handed_over`: these together.
-/

namespace ClientForge

open Http Http.Url

/-! ## Definitions -/

/-- The request says what the call says. -/
structure Http.Request.Conveys (request : Request) (call : Call) : Prop where
  method : request.method = call.method
  url : ∃ url, parse? call.url = some url ∧ request.url = url.addQuery call.query
  /-- In the order of the call, before the headers that are added to all requests. -/
  headers : ∃ rows, rows <+: request.headers ∧ List.Forall₂ (fun row sent =>
    sent.1.toList = row.1.toList.map Char.toLower ∧ sent.2 = row.2) call.rows rows
  body : request.body = call.body.content

namespace Client

/-- A transport that also notes which calls it is handed. -/
def recording {m : Type → Type} [Monad m] (transport : Transport m) :
    Transport (StateT (List Call) m) :=
  fun call log => do return (← transport call, log ++ [call])

/-- The error is returned, and nothing is handed over. -/
structure Refuses (outcome : Except Error Call) (e : Error) : Prop where
  unsent : ∀ {m : Type → Type} [Monad m] (network : Network m),
    send network outcome = pure (.error e)
  nothing : ∀ {m : Type → Type} [Monad m] [LawfulMonad m] (transport : Transport m)
    (log : List Call), (deliver (recording transport) outcome).run log = pure (.error e, log)

/-- The call is handed over once, and its response is returned; an error then is one of HTTP. A
request that is made for the call says what the call says. -/
structure HandsOver (outcome : Except Error Call) (call : Call) : Prop where
  sent : ∀ {m : Type → Type} [Monad m] [LawfulMonad m] (network : Network m),
    send network outcome = (·.mapError .http) <$> call.send network
  once : ∀ {m : Type → Type} [Monad m] [LawfulMonad m] (transport : Transport m)
    (log : List Call), (deliver (recording transport) outcome).run log =
      (fun response => (response.mapError .http, log ++ [call])) <$> transport call
  conveyed : ∀ request, call.request? = some request → request.Conveys call

/-- One step in which options are put together. -/
inductive Addition where
  | query (key : String) (value : Option String)
  | header (name : String) (value : Option String)
  | json (document : Json)
  | bytes (content : ByteArray)

namespace Addition

def pair? : Addition → Option (String × String)
  | query key value => value.map (key, ·)
  | _ => none

def row? : Addition → Option (String × String)
  | header name value => value.map (name, ·)
  | _ => none

def body? : Addition → Option Body
  | json document => some (.json document)
  | bytes content => some (.bytes content)
  | _ => none

end Addition

def Options.add (options : Options) : Addition → Options
  | .query key value => options.addQuery? key value
  | .header name value => options.addHeader? name value
  | .json document => options.withJson document
  | .bytes content => options.withBytes content

/-- The options after these additions. -/
def Options.of (additions : List Addition) : Options := additions.foldl add none

/-- The call has the key of the client, and from the additions those that are not absent, in their
order, and the last body. -/
structure Carries (client : Client) (method : String) (additions : List Addition) (call : Call) :
    Prop where
  method : call.method = method
  bearer : call.bearer = some client.apiKey
  query : call.query = additions.filterMap Addition.pair?
  headers : call.headers = additions.filterMap Addition.row?
  body : call.body = (additions.filterMap Addition.body?).getLast?.getD .absent

namespace Core

/-- A method of the core API with its arguments. -/
inductive Invocation where
  | listKeys
  | createKey (name : String)
  | deleteKey (name : String)
  | getUser (columns : Option (List String)) (requestId : Option String)
  | updateUser (payload : Json)
  | deleteUser
  | getFile (place : FilePlace) (responseContentType : Option String)
  | putFile (place : FilePlace) (payload : ByteArray) (checksum contentType : Option String)

namespace Invocation

def outcome (client : Client) : Invocation → Except Error Call
  | listKeys => Core.listKeys client
  | createKey name => Core.createKey client name
  | deleteKey name => Core.deleteKey client name
  | getUser columns requestId => Core.getUser client columns requestId
  | updateUser payload => Core.updateUser client payload
  | deleteUser => Core.deleteUser client
  | getFile place responseContentType => Core.getFile client place responseContentType
  | putFile place payload checksum contentType =>
    Core.putFile client place payload checksum contentType

def method : Invocation → Api.Method
  | listKeys | getUser .. | getFile .. => .get
  | createKey _ => .post
  | updateUser _ | putFile .. => .put
  | deleteKey _ | deleteUser => .delete

/-- The file that the method is about. -/
def place? : Invocation → Option FilePlace
  | getFile place _ | putFile place _ _ _ => some place
  | _ => none

/-- Database and branch that are told: those of the call before those of the client. -/
def database (client : Client) (place : FilePlace) : String :=
  place.dbName.getD (client.dbName.getD "") ++ ":" ++ place.branchName.getD client.branchName

def segments (client : Client) : Invocation → List String
  | listKeys => ["user", "keys"]
  | createKey name | deleteKey name => keySegments name
  | getUser .. | updateUser _ | deleteUser => ["user"]
  | getFile place _ | putFile place _ _ _ => fileSegments (database client place) place

def additions : Invocation → List Addition
  | getUser columns requestId =>
    [.query "columns" (columns.map (",".intercalate ·)), .header "X-Request-Id" requestId]
  | updateUser payload => [.json payload]
  | getFile _ responseContentType =>
    [.header "Accept" (responseContentType.getD defaultContentType)]
  | putFile _ payload checksum contentType =>
    [.header "Content-Type" (contentType.getD defaultContentType), .bytes payload,
      .header "X-Checksum" checksum]
  | _ => []

/-- It is about a file, and neither the call nor the client tells a database. -/
def LacksDatabase (client : Client) (invocation : Invocation) : Prop :=
  ∃ place, invocation.place? = some place ∧ place.dbName = none ∧ client.dbName = none

end Invocation

end Core

end Client

/-! ## Requests -/

namespace Http

theorem headerRows?_forall₂ {headers rows : Headers} (h : headerRows? headers = some rows) :
    List.Forall₂ (fun row sent =>
      sent.1.toList = row.1.toList.map Char.toLower ∧ sent.2 = row.2) headers rows := by
  induction headers generalizing rows with
  | nil => cases h; exact .nil
  | cons row headers ih =>
    obtain ⟨sent, hsent, h⟩ := Option.bind_eq_some_iff.mp h
    obtain ⟨rest, hrest, h⟩ := Option.bind_eq_some_iff.mp h
    cases h
    rw [header?] at hsent
    split at hsent
    · cases hsent
      exact .cons ⟨String.toList_ofList, rfl⟩ (ih hrest)
    · cases hsent

theorem Headers.prefix_default (headers : Headers) (name value : String) :
    headers <+: headers.default name value := by
  rw [Headers.default]
  split
  · exact List.prefix_rfl
  · exact List.prefix_append ..

/-- A request says what its call says. -/
theorem Call.request?_conveys {call : Call} {request : Request} (h : call.request? = some request) :
    request.Conveys call := by
  rw [Call.request?] at h
  obtain ⟨url, hurl, h⟩ := Option.bind_eq_some_iff.mp h
  obtain ⟨rows, hrows, h⟩ := Option.bind_eq_some_iff.mp h
  cases h
  refine ⟨rfl, ⟨url, hurl, rfl⟩, ⟨rows, ?_, headerRows?_forall₂ hrows⟩, rfl⟩
  have hwritten {sent : Headers} (h : rows <+: sent) (isEmpty : Bool) (size : String) :
      rows <+: if isEmpty then (sent.default "accept" "*/*").default "user-agent" userAgent
        else ((sent.default "accept" "*/*").default "user-agent" userAgent).default
          "content-length" size := by
    have hagent := h.trans
      ((Headers.prefix_default _ "accept" "*/*").trans (Headers.prefix_default _ "user-agent" userAgent))
    split
    · exact hagent
    · exact hagent.trans (Headers.prefix_default ..)
  refine hwritten ?_ _ _
  split
  · exact rows.prefix_default ..
  · exact List.prefix_rfl

end Http

/-! ## Handing over -/

namespace Client

section

variable {m : Type → Type} [Monad m] {outcome : Except Error Call} {call : Call} {e : Error}

theorem refuses_error (e : Error) : Refuses (.error e) e := ⟨fun _ => rfl, fun _ _ => rfl⟩

theorem handsOver_ok (call : Call) : HandsOver (.ok call) call where
  sent network := bind_pure_comp ..
  once transport log := by
    have hrun : (recording transport call).run log = (·, log ++ [call]) <$> transport call :=
      bind_pure_comp ..
    simp [deliver, hrun]
  conveyed _ := Call.request?_conveys

/-- A transport without answers. -/
def silent : Transport Id := fun _ => .error .malformed

theorem refuses_iff : Refuses outcome e ↔ outcome = .error e := by
  constructor
  · intro h
    have hrun := h.nothing silent []
    cases outcome with
    | error e' => cases hrun; rfl
    | ok call => cases hrun
  · rintro rfl
    exact refuses_error e

theorem handsOver_iff : HandsOver outcome call ↔ outcome = .ok call := by
  constructor
  · intro h
    have hrun := h.once silent []
    cases outcome with
    | error e' => cases hrun
    | ok call' => cases hrun; rfl
  · rintro rfl
    exact handsOver_ok call

end

/-! ## Options -/

namespace Options

theorem add_query (options : Options) (a : Addition) :
    (options.add a).query = options.query ++ a.pair?.toList := by
  cases a with
  | query key value => cases value <;> simp [add, addQuery?, addQuery, Addition.pair?]
  | header name value => cases value <;> simp [add, addHeader?, addHeader, Addition.pair?]
  | json | bytes => exact (List.append_nil _).symm

theorem add_headers (options : Options) (a : Addition) :
    (options.add a).headers = options.headers ++ a.row?.toList := by
  cases a with
  | query key value => cases value <;> simp [add, addQuery?, addQuery, Addition.row?]
  | header name value => cases value <;> simp [add, addHeader?, addHeader, Addition.row?]
  | json | bytes => exact (List.append_nil _).symm

theorem add_body (options : Options) (a : Addition) :
    (options.add a).body = a.body?.getD options.body := by
  cases a with
  | query key value => cases value <;> rfl
  | header name value => cases value <;> rfl
  | json | bytes => rfl

theorem query_foldl (additions : List Addition) (options : Options) :
    (additions.foldl add options).query = options.query ++ additions.filterMap Addition.pair? := by
  induction additions generalizing options with
  | nil => exact (List.append_nil _).symm
  | cons a additions ih =>
    rw [List.foldl_cons, ih, add_query, List.filterMap_cons]
    cases a.pair? <;> simp

theorem headers_foldl (additions : List Addition) (options : Options) :
    (additions.foldl add options).headers =
      options.headers ++ additions.filterMap Addition.row? := by
  induction additions generalizing options with
  | nil => exact (List.append_nil _).symm
  | cons a additions ih =>
    rw [List.foldl_cons, ih, add_headers, List.filterMap_cons]
    cases a.row? <;> simp

theorem body_foldl (additions : List Addition) (options : Options) :
    (additions.foldl add options).body =
      (additions.filterMap Addition.body?).getLast?.getD options.body := by
  induction additions generalizing options with
  | nil => rfl
  | cons a additions ih =>
    rw [List.foldl_cons, ih, add_body, List.filterMap_cons]
    cases a.body? with
    | none => rfl
    | some body => rw [List.getLast?_cons]; rfl

/-- There are no options but those that additions make. -/
theorem exists_of (options : Options) : ∃ additions, of additions = options := by
  obtain ⟨query, headers, body⟩ := options
  let pairs := query.map fun pair => Addition.query pair.1 (some pair.2)
  let rows := headers.map fun row => Addition.header row.1 (some row.2)
  have hpairs : pairs.filterMap Addition.pair? = query ∧ pairs.filterMap Addition.row? = [] ∧
      pairs.filterMap Addition.body? = [] := by
    simp [pairs, List.filterMap_map, Function.comp_def, Addition.pair?, Addition.row?,
      Addition.body?]
  have hrows : rows.filterMap Addition.pair? = [] ∧ rows.filterMap Addition.row? = headers ∧
      rows.filterMap Addition.body? = [] := by
    simp [rows, List.filterMap_map, Function.comp_def, Addition.pair?, Addition.row?,
      Addition.body?]
  have hbody : ∃ a : List Addition, a.filterMap Addition.pair? = [] ∧
      a.filterMap Addition.row? = [] ∧
      (a.filterMap Addition.body?).getLast?.getD .absent = body := by
    cases body with
    | absent => exact ⟨[], rfl, rfl, rfl⟩
    | json document => exact ⟨[.json document], rfl, rfl, rfl⟩
    | bytes content => exact ⟨[.bytes content], rfl, rfl, rfl⟩
  obtain ⟨a, hquery, hheaders, hbody⟩ := hbody
  refine ⟨pairs ++ rows ++ a, congr (congr (congrArg Options.mk ?_) ?_) ?_⟩
  · simp [query_foldl, hpairs, hrows, hquery, none]
  · simp [headers_foldl, hpairs, hrows, hheaders, none]
  · rw [body_foldl, List.filterMap_append, List.filterMap_append, hpairs.2.2, hrows.2.2]
    exact hbody

end Options

theorem carries_of (client : Client) (method url : String) (additions : List Addition) :
    Carries client method additions ⟨method, url, some client.apiKey, (Options.of additions).query,
      (Options.of additions).headers, (Options.of additions).body⟩ where
  method := rfl
  bearer := rfl
  query := Options.query_foldl additions .none
  headers := Options.headers_foldl additions .none
  body := Options.body_foldl additions .none

/-! ## Methods of the core API -/

namespace Core.Invocation

variable {client : Client} {invocation : Invocation}

theorem dbBranchName_eq (client : Client) (place : FilePlace) :
    client.dbBranchName place.dbName place.branchName =
      if place.dbName = none ∧ client.dbName = none then .error (.missingValue "db_name")
      else .ok (database client place) := by
  rw [dbBranchName, database]
  cases place.dbName with
  | some db => simp
  | none => cases client.dbName <;> simp

theorem lacksDatabase_iff {place : FilePlace} (h : invocation.place? = some place) :
    invocation.LacksDatabase client ↔ place.dbName = none ∧ client.dbName = none := by
  simp [LacksDatabase, h]

theorem not_lacksDatabase (h : invocation.place? = none) : ¬ invocation.LacksDatabase client := by
  simp [LacksDatabase, h]

/-- A method about a file fails for a database that is missing, or it makes its call. -/
theorem file_cases (client : Client) (place : FilePlace) (method : Api.Method) (options : Options) :
    let outcome := do
      let path ← filePath client place
      Core.call client method path options
    (place.dbName = none ∧ client.dbName = none) ∧ outcome = .error (.missingValue "db_name") ∨
      ¬ (place.dbName = none ∧ client.dbName = none) ∧ ∃ path,
        path.toList = written ((fileSegments (database client place) place).map String.toList) ∧
        outcome = Core.call client method path options := by
  by_cases hmissing : place.dbName = none ∧ client.dbName = none
  · refine .inl ⟨hmissing, ?_⟩
    simp only [filePath, dbBranchName_eq, if_pos hmissing]
    rfl
  · obtain ⟨path, hpath, hsegments⟩ :=
      filePath_ok ((dbBranchName_eq client place).trans (if_neg hmissing))
    refine .inr ⟨hmissing, path, hsegments, ?_⟩
    simp only [hpath]
    rfl

theorem outcome_cases (client : Client) (invocation : Invocation) :
    invocation.LacksDatabase client ∧
        invocation.outcome client = .error (.missingValue "db_name") ∨
      ¬ invocation.LacksDatabase client ∧ ∃ path,
        path.toList = written ((invocation.segments client).map String.toList) ∧
        invocation.outcome client =
          Core.call client invocation.method path (.of invocation.additions) := by
  cases invocation with
  | listKeys => exact .inr ⟨not_lacksDatabase rfl, "/user/keys", rfl, rfl⟩
  | createKey name | deleteKey name =>
    exact .inr ⟨not_lacksDatabase rfl, keyPath name, keyPath_toList name, rfl⟩
  | getUser columns requestId => exact .inr ⟨not_lacksDatabase rfl, "/user", rfl, rfl⟩
  | updateUser payload => exact .inr ⟨not_lacksDatabase rfl, "/user", rfl, rfl⟩
  | deleteUser => exact .inr ⟨not_lacksDatabase rfl, "/user", rfl, rfl⟩
  | getFile place accept =>
    rw [lacksDatabase_iff rfl]
    exact file_cases client place .get (.of (getFile place accept).additions)
  | putFile place payload checksum contentType =>
    rw [lacksDatabase_iff rfl]
    exact file_cases client place .put (.of (putFile place payload checksum contentType).additions)

end Core.Invocation

/-! ## Clients -/

/-- What becomes of the calls of a client. -/
structure HandsOverRequests (client : Client) : Prop where
  /-- A request is refused exactly for a missing workspace. -/
  unaddressed : ∀ (method template path : String) (additions : List Addition) (e : Error),
    Refuses (client.call method template path (.of additions)) e ↔
      e = .missingValue "workspace_id" ∧ client.LacksWorkspace template
  /-- Else it goes to the address that is filled in, and then to the path. -/
  addressed : ∀ (method template path : String) (additions : List Addition),
    ¬ client.LacksWorkspace template → ∃ base call, client.Address template base ∧
      HandsOver (client.call method template path (.of additions)) call ∧
      call.url = base ++ path ∧ client.Carries method additions call
  /-- A method of the core API is refused exactly for a missing database. -/
  unnamed : ∀ (invocation : Core.Invocation) (e : Error), Refuses (invocation.outcome client) e ↔
    e = .missingValue "db_name" ∧ invocation.LacksDatabase client
  /-- Else it asks for the segments that it means, with what the arguments tell before what the
  client does. -/
  named : ∀ invocation : Core.Invocation, ¬ invocation.LacksDatabase client → ∃ base path call,
    client.Address Core.baseUrl base ∧ HandsOver (invocation.outcome client) call ∧
    call.url = base ++ path ∧
    path.toList = written ((invocation.segments client).map String.toList) ∧
    client.Carries invocation.method.verb invocation.additions call
  /-- An address that is given counts without the slashes at its end. -/
  given : ∀ given template base : String, (client.withBaseUrl given).Address template base ↔
    IsTrimmed given base

variable {client : Client} {template : String}

theorem call_eq_error_iff {method path : String} {options : Options} {e : Error} :
    client.call method template path options = .error e ↔
      e = .missingValue "workspace_id" ∧ client.LacksWorkspace template := by
  rw [← resolveBaseUrl_eq_error_iff, call, Outcome.bind_eq_error_iff]
  simp [pure, Except.pure]

theorem call_of_address {base : String} (h : client.Address template base)
    (method path : String) (options : Options) : client.call method template path options =
      .ok ⟨method, base ++ path, some client.apiKey, options.query, options.headers,
        options.body⟩ := by
  rw [call, h.resolves]
  rfl

/-- A client hands over one call, or none because a workspace or a database is missing. -/
theorem requests_handed_over (client : Client) : HandsOverRequests client where
  unaddressed method template path additions e := refuses_iff.trans call_eq_error_iff
  addressed method template path additions h := by
    obtain ⟨base, hbase⟩ := exists_address h
    exact ⟨base, _, hbase, handsOver_iff.mpr (call_of_address hbase method path _), rfl,
      carries_of client method _ additions⟩
  unnamed invocation e := by
    rw [refuses_iff]
    rcases invocation.outcome_cases client with ⟨hlacks, hfails⟩ | ⟨hhas, path, _, hcall⟩
    · simp [hfails, hlacks, eq_comm]
    · simp [hcall, Core.call_eq, hhas]
  named invocation h := by
    obtain ⟨hlacks, _⟩ | ⟨_, path, hpath, hcall⟩ := invocation.outcome_cases client
    · exact absurd hlacks h
    · have hbase := resolveBaseUrl_eq_ok_iff.mp (Core.resolveBaseUrl_core client)
      exact ⟨_, path, _, hbase, handsOver_iff.mpr (hcall.trans (Core.call_eq client _ path _)), rfl,
        hpath, carries_of client ..⟩
  given given template base := address_withBaseUrl_iff

example : Options.of (Core.Invocation.getUser none none).additions = .none := rfl

end Client

end ClientForge
