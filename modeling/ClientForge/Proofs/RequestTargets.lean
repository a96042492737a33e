import ClientForge.Client.Core
import ClientForge.Proofs.Outcome
import ClientForge.Proofs.UrlPaths

/-!
What the methods of the core API ask for. They put their arguments into the path of the URL as they
are, unlike those of a query, which are encoded. So the request for a key or for a file asks for the
segments that were meant exactly if these are plain, and it is certain only for plain segments that
different ones are asked for at different targets.

Results:
1. `Addresses.call_ok`: the call that a method makes.
2. `Addresses.exists_request?_iff`: when a request can be made for it.
3. `Requests.asksFor_iff`, `Requests.target_injective`: what the request asks for, and when it tells
   segments apart.
4. `arePlain_keySegments_iff`, `arePlain_fileSegments_iff`: which names of keys and which places of
   files are plain.
5. `requests_for_segments`: these together.
-/

namespace ClientForge

open Http Http.Url

/-! ## Definitions -/

namespace Client.Core

/-- Where the requests of a client go. -/
def address (client : Client) : String := client.baseUrl.getD baseUrl

def keySegments (name : String) : List String := ["user", "keys", name]

def fileSegments (db : String) (place : FilePlace) : List String :=
  ["db", db, "tables", place.table, "data", place.record, "column", place.column, "file"]

/-- Methods that put arguments into the path, with the segments that they mean. -/
inductive Addresses (client : Client) : List String → Except Error Call → Prop
  | createKey (name : String) : Addresses client (keySegments name) (createKey client name)
  | deleteKey (name : String) : Addresses client (keySegments name) (deleteKey client name)
  | getFile {db : String} (place : FilePlace) (accept : Option String) :
      client.dbBranchName place.dbName place.branchName = .ok db →
      Addresses client (fileSegments db place) (getFile client place accept)
  | putFile {db : String} (place : FilePlace) (payload : ByteArray)
      (checksum contentType : Option String) :
      client.dbBranchName place.dbName place.branchName = .ok db →
      Addresses client (fileSegments db place) (putFile client place payload checksum contentType)

/-- The request is made for these segments. -/
def Requests (client : Client) (segments : List String) (request : Request) : Prop :=
  ∃ call, Addresses client segments (.ok call) ∧ call.request? = some request

end Client.Core

/-- The request asks for the segments below the address, and it has no query. -/
def Http.Request.AsksFor (request : Request) (base : Url) (segments : List String) : Prop :=
  request.url.query = none ∧
    ∃ encoded, request.url.path = base.path.dropLast ++ encoded ∧
      encoded.map (decode ·.toList) = segments.map Text.bytes

/-! ## Requests -/

namespace Http

theorem header?_isSome_iff {name value : String} : (header? name value).isSome ↔
    (!name.isEmpty && name.toList.all isNameChar) ∧ value.toList.all isValueChar := by
  rw [header?, ← Bool.and_eq_true]
  split <;> simp_all

theorem headerRows?_isSome_iff {headers : Headers} :
    (headerRows? headers).isSome ↔ ∀ row ∈ headers, (header? row.1 row.2).isSome := by
  induction headers with
  | nil => simp [headerRows?]
  | cons row headers ih =>
    obtain ⟨name, value⟩ := row
    rw [List.forall_mem_cons, ← ih, headerRows?]
    cases header? name value <;> cases headerRows? headers <;> simp

/-- The headers of a call, that of the key first. -/
def Call.rows (call : Call) : Headers :=
  (call.bearer.map fun key => [("authorization", "Bearer " ++ key)]).getD [] ++ call.headers

theorem Call.request?_ok {call : Call} {request : Request} (h : call.request? = some request) :
    ∃ url, parse? call.url = some url ∧ request.url = url.addQuery call.query := by
  rw [Call.request?] at h
  obtain ⟨url, hurl, h⟩ := Option.bind_eq_some_iff.mp h
  obtain ⟨headers, _, h⟩ := Option.bind_eq_some_iff.mp h
  cases h
  exact ⟨url, hurl, rfl⟩

theorem Call.exists_request?_iff {call : Call} : (∃ request, call.request? = some request) ↔
    (parse? call.url).isSome ∧ ∀ row ∈ call.rows, (header? row.1 row.2).isSome := by
  rw [← headerRows?_isSome_iff, ← Option.isSome_iff_exists, Call.rows]
  simp only [Call.request?]
  cases parse? call.url <;> cases headerRows? (_ ++ call.headers) <;> simp

end Http

/-! ## Methods -/

namespace Client.Core

variable {client : Client} {segments : List String} {outcome : Except Error Call}

theorem resolveBaseUrl_core (client : Client) :
    client.resolveBaseUrl baseUrl = .ok (address client) := by
  rw [resolveBaseUrl, address]
  cases client.baseUrl with
  | some url => rfl
  | none => rfl

theorem call_eq (client : Client) (method : Api.Method) (path : String) (options : Options) :
    call client method path options =
      .ok ⟨method.verb, address client ++ path, some client.apiKey, options.query, options.headers,
        options.body⟩ := by
  rw [call, Client.call, resolveBaseUrl_core]
  rfl

theorem keyPath_toList (name : String) :
    (keyPath name).toList = written ((keySegments name).map String.toList) := by
  simp [keyPath, keySegments, written]

theorem filePath_ok {place : FilePlace} {db : String}
    (h : client.dbBranchName place.dbName place.branchName = .ok db) :
    ∃ path, filePath client place = .ok path ∧
      path.toList = written ((fileSegments db place).map String.toList) := by
  rw [filePath, h]
  refine ⟨_, rfl, ?_⟩
  simp [fileSegments, written]

/-- Headers that methods with arguments in the path add. -/
def headerNames : List String := ["Accept", "Content-Type", "X-Checksum"]

/-- A method makes a call for its segments behind the address. -/
theorem Addresses.call_ok (h : Addresses client segments outcome) :
    ∃ call path, outcome = .ok call ∧ call.url = address client ++ path ∧
      path.toList = written (segments.map String.toList) ∧ segments ≠ [] ∧ call.query = [] ∧
      call.bearer = some client.apiKey ∧ ∀ row ∈ call.headers, row.1 ∈ headerNames := by
  cases h with
  | createKey name =>
    exact ⟨_, keyPath name, call_eq client .post _ .none, rfl, keyPath_toList name,
      List.cons_ne_nil _ _, rfl, rfl, fun _ hrow => nomatch hrow⟩
  | deleteKey name =>
    exact ⟨_, keyPath name, call_eq client .delete _ .none, rfl, keyPath_toList name,
      List.cons_ne_nil _ _, rfl, rfl, fun _ hrow => nomatch hrow⟩
  | getFile place accept hdb =>
    obtain ⟨path, hpath, hsegments⟩ := filePath_ok hdb
    rw [Core.getFile, hpath]
    refine ⟨_, path, call_eq client .get path _, rfl, hsegments, List.cons_ne_nil _ _, rfl, rfl, ?_⟩
    intro row hrow
    obtain rfl := List.mem_singleton.mp hrow
    exact List.mem_cons_self
  | putFile place payload checksum contentType hdb =>
    obtain ⟨path, hpath, hsegments⟩ := filePath_ok hdb
    rw [Core.putFile, hpath]
    refine ⟨_, path, call_eq client .put path _, rfl, hsegments, List.cons_ne_nil _ _, ?_, rfl, ?_⟩
    · cases checksum <;> rfl
    · cases checksum with
      | none => simp [Options.addHeader?, Options.addHeader, Options.withBytes, Options.none,
          headerNames]
      | some sum => simp [Options.addHeader?, Options.addHeader, Options.withBytes, Options.none,
          headerNames]

/-- A request can be made exactly if the values of its headers can be sent. -/
theorem Addresses.exists_request?_iff {call : Call} {base : Url}
    (h : Addresses client segments (.ok call)) (hbase : IsBase (address client) base) :
    (∃ request, call.request? = some request) ↔
      ∀ row ∈ ("authorization", "Bearer " ++ client.apiKey) :: call.headers,
        row.2.toList.all isValueChar := by
  obtain ⟨_, path, heq, hurl, hpath, hne, _, hbearer, hnames⟩ := h.call_ok
  cases heq
  have hparsed : (parse? call.url).isSome := by
    obtain ⟨_, hfound, _⟩ := hbase.parse?_below
      (hpath.trans (written_eq_intercalate (List.map_eq_nil_iff.not.mpr hne)))
    rw [hurl, hfound]
    rfl
  have hrows : call.rows = ("authorization", "Bearer " ++ client.apiKey) :: call.headers := by
    rw [Call.rows, hbearer]
    rfl
  have hvalid : ∀ name ∈ "authorization" :: headerNames,
      (!name.isEmpty && name.toList.all isNameChar) := by decide
  rw [Call.exists_request?_iff, and_iff_right hparsed, hrows]
  refine forall₂_congr fun row hrow => header?_isSome_iff.trans (and_iff_right (hvalid _ ?_))
  rcases List.mem_cons.mp hrow with rfl | hrow
  · exact List.mem_cons_self
  · exact List.mem_cons_of_mem _ (hnames row hrow)

/-! ## Targets -/

variable {base : Url} {request : Request}

theorem Requests.url_eq (h : Requests client segments request) :
    ∃ path found, path.toList = written (segments.map String.toList) ∧
      segments.map String.toList ≠ [] ∧ parse? (address client ++ path) = some found ∧
      request.url = found.addQuery [] := by
  obtain ⟨call, haddresses, hrequest⟩ := h
  obtain ⟨_, path, heq, hurl, hpath, hne, hquery, _⟩ := haddresses.call_ok
  cases heq
  obtain ⟨found, hfound, hadded⟩ := Call.request?_ok hrequest
  rw [hurl] at hfound
  rw [hquery] at hadded
  exact ⟨path, found, hpath, List.map_eq_nil_iff.not.mpr hne, hfound, hadded⟩

theorem addQuery_nil {url : Url} (h : url.query = none) : (url.addQuery []).query = none := by
  rw [addQuery, h]
  rfl

/-- A request that is made goes to the server of the address. -/
theorem Requests.origin_eq (h : Requests client segments request)
    (hbase : IsBase (address client) base) : request.url.origin = base.origin := by
  obtain ⟨path, found, hpath, hne, hfound, hurl⟩ := h.url_eq
  obtain ⟨_, hparse, horigin, _⟩ := hbase.parse?_below (hpath.trans (written_eq_intercalate hne))
  cases hfound.symm.trans hparse
  rw [hurl, ← horigin]
  rfl

/-- It asks for its segments exactly if they are plain. -/
theorem Requests.asksFor_iff (h : Requests client segments request)
    (hbase : IsBase (address client) base) :
    request.AsksFor base segments ↔ ArePlain (segments.map String.toList) := by
  obtain ⟨path, found, hpath, hne, hfound, hurl⟩ := h.url_eq
  have hbytes : (segments.map String.toList).map utf8 = segments.map Text.bytes := by
    rw [List.map_map]
    exact List.map_congr_left fun s _ => utf8_toList s
  rw [← hbase.below_iff hne hpath hfound, Http.Request.AsksFor, hurl, hbytes]
  refine and_iff_right_of_imp fun hasks => addQuery_nil ?_
  have hplain := (hbase.below_iff hne hpath hfound).mp (by rwa [hbytes])
  exact (hbase.below_plain hne hpath hfound hplain).2

/-- What a request for plain segments asks for. -/
theorem Requests.path_eq (h : Requests client segments request)
    (hbase : IsBase (address client) base) (hplain : ArePlain (segments.map String.toList)) :
    request.url.path = base.path.dropLast ++
        segments.map (fun s => String.ofList (encode pathSpecial s.toList)) ∧
      request.url.query = none := by
  obtain ⟨path, found, hpath, hne, hfound, hurl⟩ := h.url_eq
  obtain ⟨hsegments, hquery⟩ := hbase.below_plain hne hpath hfound hplain
  rw [hurl]
  exact ⟨hsegments.trans (by rw [List.map_map]; rfl), addQuery_nil hquery⟩

theorem target_toList {url : Url} (hquery : url.query = none) (hpath : url.path ≠ []) :
    url.target.toList = written (url.path.map String.toList) := by
  have hpath' : url.path.map String.toList ≠ [] := List.map_eq_nil_iff.not.mpr hpath
  rw [target, queryText, hquery, pathText, written_eq_intercalate hpath']
  simp

/-- Plain segments that differ are asked for at targets that differ. -/
theorem Requests.target_injective {others : List String} {other : Request}
    (h : Requests client segments request) (hother : Requests client others other)
    (hbase : IsBase (address client) base) (hplain : ArePlain (segments.map String.toList))
    (hplain' : ArePlain (others.map String.toList)) (htarget : request.url.target = other.url.target) :
    segments = others := by
  have hread {segments : List String} {request : Request} (h : Requests client segments request)
      (hplain : ArePlain (segments.map String.toList)) : request.url.target.toList =
        written (base.path.dropLast.map String.toList) ++
          written ((segments.map String.toList).map (encode pathSpecial)) := by
    obtain ⟨hpath, hquery⟩ := h.path_eq hbase hplain
    obtain ⟨_, _, _, hne, _⟩ := h.url_eq
    have hpath' : request.url.path ≠ [] := by
      rw [hpath]
      exact List.append_ne_nil_of_right_ne_nil _ (by simpa using hne)
    rw [target_toList hquery hpath', hpath, List.map_append, written, List.flatMap_append]
    simp [written, List.map_map, Function.comp_def]
  have hwritten := congrArg String.toList htarget
  rw [hread h hplain, hread hother hplain', List.append_cancel_left_eq] at hwritten
  exact List.map_injective_iff.mpr (fun _ _ => String.toList_injective)
    (hplain.eq_of_encoded hplain' hwritten)

/-! ## Keys and files -/

/-- The name of a key ends its path, so it must not end in a blank. -/
theorem arePlain_keySegments_iff {name : String} :
    ArePlain ((keySegments name).map String.toList) ↔
      IsPlain name.toList ∧ ∀ c ∈ name.toList.getLast?, isEdgeBlank c = false := by
  constructor
  · intro h
    exact ⟨h.plain _ (by simp [keySegments]), h.last _ (by simp [keySegments])⟩
  · rintro ⟨hplain, hlast⟩
    refine ⟨?_, ?_⟩
    · simp only [keySegments, List.map_cons, List.map_nil, List.forall_mem_cons]
      exact ⟨isPlain_of_ordinary (by decide), isPlain_of_ordinary (by decide), hplain, by simp⟩
    · simpa [keySegments] using hlast

theorem arePlain_fileSegments_iff {db : String} {place : FilePlace} :
    ArePlain ((fileSegments db place).map String.toList) ↔
      IsPlain db.toList ∧ IsPlain place.table.toList ∧ IsPlain place.record.toList ∧
        IsPlain place.column.toList := by
  constructor
  · intro h
    exact ⟨h.plain _ (by simp [fileSegments]), h.plain _ (by simp [fileSegments]),
      h.plain _ (by simp [fileSegments]), h.plain _ (by simp [fileSegments])⟩
  · rintro ⟨hdb, htable, hrecord, hcolumn⟩
    refine ⟨?_, ?_⟩
    · simp only [fileSegments, List.map_cons, List.map_nil, List.forall_mem_cons]
      exact ⟨isPlain_of_ordinary (by decide), hdb, isPlain_of_ordinary (by decide), htable,
        isPlain_of_ordinary (by decide), hrecord, isPlain_of_ordinary (by decide), hcolumn,
        isPlain_of_ordinary (by decide), by simp⟩
    · simp [fileSegments]
      decide

/-- For an address without query and fragment, every method that puts its arguments into the path
makes a call, and a request for it unless the address ends in a blank that no server has in its
name, or the value of a header cannot be sent. The request goes to the server of the address,
without a query and with the meant segments behind those of the address, exactly if the segments are
plain. Plain segments are then encoded one by one, and different ones are asked for at different
targets. -/
theorem requests_for_segments (client : Client) {root : Url}
    (hroot : parse? (address client) = some root) (hquery : root.query = none)
    (hfragment : root.fragment = none) :
    (∀ segments outcome, Addresses client segments outcome → ∃ call, outcome = .ok call ∧
      ((∃ request, call.request? = some request) ↔ (parse? (address client ++ "/")).isSome ∧
        ∀ row ∈ ("authorization", "Bearer " ++ client.apiKey) :: call.headers,
          row.2.toList.all isValueChar)) ∧
    (∀ segments request, Requests client segments request →
      ∃ base, parse? (address client ++ "/") = some base ∧ request.url.origin = base.origin ∧
        (request.AsksFor base segments ↔ ArePlain (segments.map String.toList)) ∧
        (ArePlain (segments.map String.toList) →
          request.url.target = "/" ++ "/".intercalate (base.path.dropLast ++
            segments.map fun s => String.ofList (encode pathSpecial s.toList)))) ∧
    ∀ segments others request other, Requests client segments request →
      Requests client others other → ArePlain (segments.map String.toList) →
      ArePlain (others.map String.toList) → segments ≠ others →
      request.url.target ≠ other.url.target := by
  have hbelow {segments : List String} {request : Request} (h : Requests client segments request) :
      ∃ base, IsBase (address client) base := by
    obtain ⟨path, found, hpath, hne, hfound, _⟩ := h.url_eq
    refine (IsBase.of_parse? hroot hquery hfragment).resolve_right fun hnone => ?_
    cases hfound.symm.trans (hnone path _ (hpath.trans (written_eq_intercalate hne)))
  refine ⟨fun segments outcome h => ?_, fun segments request h => ?_,
    fun segments others request other h hother hplain hplain' hne htarget => ?_⟩
  · obtain ⟨call, _, rfl, _⟩ := h.call_ok
    refine ⟨call, rfl, ?_⟩
    constructor
    · rintro ⟨request, hrequest⟩
      obtain ⟨base, hbase⟩ := hbelow ⟨call, h, hrequest⟩
      exact ⟨by rw [hbase.parsed]; rfl, (h.exists_request?_iff hbase).mp ⟨request, hrequest⟩⟩
    · rintro ⟨hslash, hvalues⟩
      rcases IsBase.of_parse? hroot hquery hfragment with ⟨base, hbase⟩ | hnone
      · exact (h.exists_request?_iff hbase).mpr hvalues
      · rw [hnone "/" [] (by simp)] at hslash
        cases hslash
  · obtain ⟨base, hbase⟩ := hbelow h
    refine ⟨base, hbase.parsed, h.origin_eq hbase, h.asksFor_iff hbase, fun hplain => ?_⟩
    obtain ⟨hpath, hnone⟩ := h.path_eq hbase hplain
    rw [target, pathText, queryText, hpath, hnone]
    exact String.append_empty
  · obtain ⟨base, hbase⟩ := hbelow h
    exact hne (h.target_injective hother hbase hplain hplain' htarget)

/-- The address of the core API. -/
def coreUrl : Url := ⟨true, "api.xata.io", none, [""], none, none⟩

/-- A file in a column with a blank in its name. -/
def photoPlace : FilePlace := ⟨"people", "rec_1", "passport photo", some "db", none⟩

theorem requests_for_segments_photo :
    ∃ request other, Requests (.standard "k") (keySegments "ci key") request ∧
      Requests (.standard "k") (fileSegments "db:main" photoPlace) other ∧
      request.AsksFor coreUrl ["user", "keys", "ci key"] ∧
      request.url.target = "/user/keys/ci%20key" ∧
      other.AsksFor coreUrl (fileSegments "db:main" photoPlace) ∧
      request.url.target ≠ other.url.target := by
  have hroot : parse? (address (.standard "k")) = some coreUrl := by decide +kernel
  have hbase : parse? (address (.standard "k") ++ "/") = some coreUrl := by decide +kernel
  obtain ⟨hcalls, hrequests, hdiffer⟩ := requests_for_segments (.standard "k") hroot rfl rfl
  have hkey : ArePlain ((keySegments "ci key").map String.toList) :=
    arePlain_keySegments_iff.mpr ⟨isPlain_of_ordinary (by decide), by simp [isEdgeBlank]⟩
  have hphoto : ArePlain ((fileSegments "db:main" photoPlace).map String.toList) :=
    arePlain_fileSegments_iff.mpr ⟨isPlain_of_ordinary (by decide),
      isPlain_of_ordinary (by decide), isPlain_of_ordinary (by decide),
      isPlain_of_ordinary (by decide)⟩
  have hmade {segments : List String} {call : Call}
      (h : Addresses (.standard "k") segments (.ok call))
      (hvalues : ∀ row ∈ ("authorization", "Bearer k") :: call.headers,
        row.2.toList.all isValueChar) : ∃ request, Requests (.standard "k") segments request := by
    obtain ⟨_, heq, hmakes⟩ := hcalls _ _ h
    cases heq
    obtain ⟨request, hrequest⟩ := hmakes.mpr ⟨by rw [hbase]; rfl, hvalues⟩
    exact ⟨request, call, h, hrequest⟩
  obtain ⟨request, hrequest⟩ := hmade (.deleteKey "ci key") (by decide +kernel)
  obtain ⟨other, hother⟩ := hmade (.getFile photoPlace none rfl) (by decide +kernel)
  obtain ⟨base, hfound, _, hasks, htarget⟩ := hrequests _ _ hrequest
  cases hbase.symm.trans hfound
  obtain ⟨base, hfound, _, hasks', _⟩ := hrequests _ _ hother
  cases hbase.symm.trans hfound
  refine ⟨request, other, hrequest, hother, hasks.mpr hkey, (htarget hkey).trans (by decide +kernel),
    hasks'.mpr hphoto, hdiffer _ _ _ _ hrequest hother hkey hphoto (by decide)⟩

/-- What a call asks for. -/
def target? (outcome : Except Error Call) : Option String :=
  outcome.toOption.bind fun call => call.request?.map (·.url.target)

/-- A name with dot segments deletes another key. -/
theorem deleteKey_same_target :
    target? (deleteKey (.standard "k") "ci") = some "/user/keys/ci" ∧
      target? (deleteKey (.standard "k") "old/../ci") = some "/user/keys/ci" ∧
      target? (deleteKey (.standard "k") "ci?x#y") = some "/user/keys/ci?x" := by
  decide +kernel

end Client.Core

end ClientForge
