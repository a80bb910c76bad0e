import Screencast.Effect.Event
import Screencast.Effect.Terminal
import Screencast.Http.StaticFiles

/-!
# Responses

What a terminal is turned into when it is sent: a status, headers and bytes.
-/

namespace Screencast

namespace Http

/-- A response. -/
structure Response where
  status : Status
  headers : List (String × String)
  body : Bytes
  deriving Inhabited

namespace Response

/-- The response in the place of one whose headers are malformed. -/
def invalid : Response where
  status := Status.internalError
  headers := []
  body := Text.encode genericMessage

/-- The headers as they are sent: names in lower case, sorted by name and then by value. -/
def sentHeaders (headers : Headers) : List (String × String) :=
  (headers.map fun (name, value) => (lowerName name, value)).mergeSort fun left right =>
    left.1 < right.1 || (left.1 = right.1 && left.2 ≤ right.2)

/-- Put a response together. -/
def build (status : Status) (headers : Headers) (body : Bytes) : Response :=
  match Terminal.headerFault? headers with
  | none => { status, headers := sentHeaders headers, body }
  | some _ => invalid

/-- The headers of a text, which has a content type in any case. -/
def textHeaders (headers : Headers) : Headers :=
  if headers.any fun (name, _) => Text.equalIgnoringCase name "content-type" then headers
  else headers.put "content-type" "text/plain; charset=utf-8"

/-- The headers of a page. -/
def pageHeaders : Headers := [("Content-Type", "text/html; charset=utf-8")]

/-- The response for a page. -/
def ofPage (node : Html.Node) (status : Status) : Response :=
  build status pageHeaders (Text.encode node.renderDocument)

/-- The message for files that cannot be served. -/
def fileNotFound : String := "The file you requested could not be found."

/-- The entry of the log for a path that is refused. -/
def refusedEntry (path : String) : LogEntry where
  level := Level.warning
  message := "refusing static path"
  fields := [("path", path)]

/-- The headers of a file. -/
def fileHeaders (path : String) (maxAge : Option Nat) : Headers :=
  let cached : Headers :=
    match maxAge with
    | some seconds => [("cache-control", "public, max-age=" ++ toString seconds ++ ", immutable")]
    | none => []
  cached ++ [("content-type", StaticFiles.contentType path)]

/-- The response for a file that cannot be served. -/
def missingFile : Response :=
  let error := ServerError.notFound fileNotFound
  ofPage error.page error.status

/-- The response for a file. -/
def ofFile (files : StaticFiles) (path : String) (maxAge : Option Nat) :
    Response × List LogEntry :=
  if StaticFiles.isSafe path then
    match files.read? path with
    | some content => (build Status.ok (fileHeaders path maxAge) content, [])
    | none => (missingFile, [])
  else (missingFile, [refusedEntry path])

/-- The response for a terminal, with the entries of the log that looking for a file makes. -/
def ofTerminal (files : StaticFiles) : Terminal → Response × List LogEntry
  | Terminal.text body status headers =>
    (build status (textHeaders headers) (Text.encode body), [])
  | Terminal.binary bytes status headers => (build status headers bytes, [])
  | Terminal.html node status => (ofPage node status, [])
  | Terminal.file path maxAge => ofFile files path maxAge
  | Terminal.redirect path headers =>
    (build Status.found (Terminal.redirectHeaders path headers) [], [])

end Response

end Http

end Screencast
