import ClientForge.Client

/-!
The methods of the core API: API keys, the user, and files in database columns.
-/

namespace ClientForge.Client.Core

/-- Address of the core API. -/
def baseUrl : String := "https://api.xata.io"

def call (client : Client) (method : Api.Method) (path : String) (options : Options) :
    Except Error Http.Call :=
  client.call method.verb baseUrl path options

/-! ## API keys -/

def keyPath (keyName : String) : String := "/user/keys/" ++ keyName

def listKeys (client : Client) : Except Error Http.Call := call client .get "/user/keys" .none

def createKey (client : Client) (keyName : String) : Except Error Http.Call :=
  call client .post (keyPath keyName) .none

def deleteKey (client : Client) (keyName : String) : Except Error Http.Call :=
  call client .delete (keyPath keyName) .none

/-! ## The user -/

def getUser (client : Client) (columns : Option (List String)) (requestId : Option String) :
    Except Error Http.Call :=
  call client .get "/user" <|
    (Options.none.addQuery? "columns" (columns.map (",".intercalate ·))).addHeader? "X-Request-Id"
      requestId

def updateUser (client : Client) (payload : Json) : Except Error Http.Call :=
  call client .put "/user" (Options.none.withJson payload)

def deleteUser (client : Client) : Except Error Http.Call := call client .delete "/user" .none

/-! ## Files -/

/-- A file in a column of a record. -/
structure FilePlace where
  table : String
  record : String
  column : String
  /-- The client's database unless given. -/
  dbName : Option String
  /-- The client's branch unless given. -/
  branchName : Option String

def filePath (client : Client) (place : FilePlace) : Except Error String := do
  let db ← client.dbBranchName place.dbName place.branchName
  return "/db/" ++ db ++ "/tables/" ++ place.table ++ "/data/" ++ place.record ++ "/column/" ++
    place.column ++ "/file"

def defaultContentType : String := "application/octet-stream"

/-- Downloads a file as the content type asked for. -/
def getFile (client : Client) (place : FilePlace) (responseContentType : Option String) :
    Except Error Http.Call := do
  let path ← filePath client place
  call client .get path
    (Options.none.addHeader "Accept" (responseContentType.getD defaultContentType))

/-- Uploads a file, perhaps with a checksum of its content. -/
def putFile (client : Client) (place : FilePlace) (payload : ByteArray)
    (checksum contentType : Option String) : Except Error Http.Call := do
  let path ← filePath client place
  let options := Options.none.addHeader "Content-Type" (contentType.getD defaultContentType)
  call client .put path ((options.withBytes payload).addHeader? "X-Checksum" checksum)

end ClientForge.Client.Core
