import Screencast.Http.Response

/-!
# What a terminal is sent as

What a visitor gets for a terminal, said without the order in which a response is put together: the
status, the bytes and the headers of the terminal with the headers that every response of its kind
has, the content of a file or the page for a missing one, and a general failure in the place of a
response whose headers cannot be sent.
-/

namespace Screencast

/-- Whether all headers can be sent. -/
def Headers.AreSendable (headers : Headers) : Prop :=
  ∀ header ∈ headers,
    Http.isName header.1 = true ∧ Http.isValue (Text.encode header.2) = true

namespace Terminal

/-- Nothing is wrong with headers exactly if they can be sent. -/
theorem headerFault?_eq_none_iff (headers : Headers) :
    headerFault? headers = none ↔ headers.AreSendable := by
  unfold headerFault?
  rw [List.findSome?_eq_none_iff]
  refine forall_congr' fun header => imp_congr_right fun _ => ?_
  obtain ⟨name, value⟩ := header
  cases named : Http.isName name <;> cases valued : Http.isValue (Text.encode value) <;>
    simp [named, valued]

end Terminal

namespace Http

namespace Response

/-- A response carries a status, headers and bytes, unless the headers cannot be sent. -/
structure Carries (response : Response) (status : Status) (headers : Headers) (body : Bytes) :
    Prop where
  /-- The status and the bytes are those that are given, and so are the headers, with their names
  in lower case. -/
  whole :
    headers.AreSendable →
      response.status = status ∧ response.body = body ∧
        response.headers.Perm (headers.map fun (name, value) => (lowerName name, value))
  /-- A general failure takes the place of headers that cannot be sent. -/
  failed :
    ¬ headers.AreSendable →
      response.status = Status.internalError ∧ response.headers = [] ∧
        response.body = Text.encode genericMessage

/-- Putting a response together makes one that carries everything. -/
theorem carries_build (status : Status) (headers : Headers) (body : Bytes) :
    (build status headers body).Carries status headers body := by
  constructor
  case whole =>
    intro sendable
    simp only [build, (Terminal.headerFault?_eq_none_iff headers).2 sendable, true_and]
    exact List.mergeSort_perm _ _
  case failed =>
    intro isNot
    have found : ∃ detail, Terminal.headerFault? headers = some detail := by
      refine Option.ne_none_iff_exists'.1 fun isNone => isNot ?_
      exact (Terminal.headerFault?_eq_none_iff headers).1 isNone
    obtain ⟨detail, found⟩ := found
    simp [build, found, invalid]

theorem carries_ofPage (node : Html.Node) (status : Status) :
    (ofPage node status).Carries status [("Content-Type", "text/html; charset=utf-8")]
      (Text.encode node.renderDocument) :=
  carries_build status pageHeaders _

theorem carries_missingFile :
    missingFile.Carries Status.notFound [("Content-Type", "text/html; charset=utf-8")]
      (Text.encode (ServerError.notFound fileNotFound).page.renderDocument) :=
  carries_ofPage _ _

/-- The headers of a file are its content type, and how long it may be kept. -/
theorem fileHeaders_eq (path : String) (maxAge : Option Nat) :
    fileHeaders path maxAge =
      (maxAge.toList.map fun seconds =>
          ("cache-control", "public, max-age=" ++ toString seconds ++ ", immutable")) ++
        [("content-type", StaticFiles.contentType path)] := by
  cases maxAge with
  | none => rfl
  | some seconds => rfl

end Response

end Http

namespace Terminal

open Http

/-- A response is what a terminal is sent as. -/
def IsSentAs (files : StaticFiles) (terminal : Terminal) (response : Response) : Prop :=
  match terminal with
  | text body status headers =>
      response.Carries status
        (if headers.any fun (name, _) => Text.equalIgnoringCase name "content-type" then headers
          else headers.put "content-type" "text/plain; charset=utf-8")
        (Text.encode body)
  | binary bytes status headers => response.Carries status headers bytes
  | html node status =>
      response.Carries status [("Content-Type", "text/html; charset=utf-8")]
        (Text.encode node.renderDocument)
  | file path maxAge =>
      match if StaticFiles.isSafe path then files.read? path else none with
      | some content =>
          response.Carries Status.ok
            ((maxAge.toList.map fun seconds =>
                ("cache-control", "public, max-age=" ++ toString seconds ++ ", immutable")) ++
              [("content-type", StaticFiles.contentType path)])
            content
      | none =>
          response.Carries Status.notFound [("Content-Type", "text/html; charset=utf-8")]
            (Text.encode (ServerError.notFound Response.fileNotFound).page.renderDocument)
  | redirect path headers => response.Carries Status.found (headers.put "location" path) []

/-- The response for a terminal is what the terminal is sent as. -/
theorem isSentAs_ofTerminal (files : StaticFiles) (terminal : Terminal) :
    terminal.IsSentAs files (Response.ofTerminal files terminal).1 := by
  cases terminal with
  | text body status headers => exact Response.carries_build _ _ _
  | binary bytes status headers => exact Response.carries_build _ _ _
  | html node status => exact Response.carries_ofPage node status
  | redirect path headers => exact Response.carries_build _ _ _
  | file path maxAge =>
      simp only [IsSentAs, Response.ofTerminal, Response.ofFile, ← Response.fileHeaders_eq]
      cases safe : StaticFiles.isSafe path with
      | false => exact Response.carries_missingFile
      | true =>
          cases content : files.read? path with
          | none => exact Response.carries_missingFile
          | some content => exact Response.carries_build _ _ _

end Terminal

end Screencast
