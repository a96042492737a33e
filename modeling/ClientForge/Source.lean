import ClientForge.Host
import ClientForge.Json.Parse
import ClientForge.Text.Lossy
import ClientForge.Text.Search
import ClientForge.Yaml.Document

/-!
Loading API descriptions from files and from the web, in JSON or YAML.
-/

namespace ClientForge

/-- Where descriptions may come from. -/
inductive Source where
  | files
  | web
  /-- The web for HTTP URLs, files for everything else. -/
  | anywhere
deriving DecidableEq, Repr

namespace Source

def isWebAddress (source : String) : Bool :=
  source.startsWith "http://" || source.startsWith "https://"

inductive Format where
  | json
  | yaml
  /-- JSON if it is that, else YAML. -/
  | either
deriving DecidableEq, Repr

/-- The format that a content type or a file name tells, in any case of letters. -/
def Format.ofHint (hint : String) : Format :=
  let cs := Text.lower hint.toList
  if Text.occurs "json".toList cs then .json
  else if Text.occurs "yaml".toList cs ∨ ".yml".toList.isSuffixOf cs then .yaml
  else .either

def Format.parse (format : Format) (text : String) : Except Failure Json :=
  match format with
  | .json =>
    match Json.parse? text with
    | some document => .ok document
    | none => .error .malformedJson
  | .yaml =>
    match Yaml.parse? text with
    | some document => .ok document
    | none => .error .malformedYaml
  | .either =>
    match (Json.parse? text).or (Yaml.parse? text) with
    | some document => .ok document
    | none => .error (.invalidDocument .neitherJsonNorYaml)

def parse (text hint : String) : Except Failure Json := (Format.ofHint hint).parse text

variable {m : Type → Type} [Monad m]

def loadFile (host : Host m) (path : String) : Doing m Json := do
  match ← host.readText path with
  | .ok text => parse text path
  | .error cause => throw (.sourceUnavailable path cause.message)

/-- A GET request without anything else. -/
def get (url : String) : Http.Call := ⟨"GET", url, none, [], [], .absent⟩

/-- Content types are only believed when they are printable ASCII. -/
def contentType (response : Http.Response) : String :=
  let isPlain (c : Char) : Bool := c == '\t' || (0x20 ≤ c.toNat && c.toNat < 0x7F)
  match response.headers.value? "content-type" with
  | some type => if type.toList.all isPlain then type else ""
  | none => ""

/-- The document of a response, which must have the status 200. Its content type, or else its URL,
tells the format. -/
def ofResponse (url : String) (response : Http.Response) : Except Failure Json :=
  if response.status ≠ 200 then
    .error (.sourceUnavailable url ("HTTP " ++ Http.statusText response.status))
  else
    match response.body with
    | none => .error (.sourceUnavailable url "error decoding response body")
    | some content =>
      let type := contentType response
      parse (Text.lossy content.toList) (if type.isEmpty then url else type)

def loadWeb (host : Host m) (url : String) : Doing m Json := do
  if isWebAddress url then
    match ← (get url).send host.network |> ExceptT.lift with
    | .ok response => ofResponse url response
    | .error fault => throw (.sourceUnavailable url fault.message)
  else throw (.sourceUnavailable url "not an HTTP(S) URL")

/-- Loads the description that a URL or a path stands for. -/
def load (host : Host m) (source : Source) (place : String) : Doing m Json :=
  match source with
  | .files => loadFile host place
  | .web => loadWeb host place
  | .anywhere => if isWebAddress place then loadWeb host place else loadFile host place

end Source

end ClientForge
