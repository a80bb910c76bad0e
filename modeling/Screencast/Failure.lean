import Screencast.Html.Node
import Screencast.Text.Quoted

/-!
# Failures

Queries and tasks fail with a detail that is only ever written to the log. What a visitor gets to
see is the public message of a server error, together with its status.
-/

namespace Screencast

/-- The status of a response. -/
structure Status where
  code : Nat
  deriving DecidableEq, Repr, Inhabited

namespace Status

/-- The status of a request that was answered. -/
def ok : Status := ⟨200⟩

/-- The status of a redirect. -/
def found : Status := ⟨302⟩

/-- The status of a request that makes no sense. -/
def badRequest : Status := ⟨400⟩

/-- The status of a request for something that is not there. -/
def notFound : Status := ⟨404⟩

/-- The status of a request that failed through no fault of its own. -/
def internalError : Status := ⟨500⟩

/-- Whether the request is at fault. -/
def isClientError (status : Status) : Bool := 400 ≤ status.code && status.code < 500

/-- Whether the server is at fault. -/
def isServerError (status : Status) : Bool := 500 ≤ status.code && status.code < 600

/-- Whether a status reports an error. -/
def isError (status : Status) : Bool := status.isClientError || status.isServerError

/-- The reason phrases of server errors. -/
def reasons : List (Nat × String) :=
  [(500, "Internal Server Error"), (501, "Not Implemented"), (502, "Bad Gateway"),
    (503, "Service Unavailable"), (504, "Gateway Timeout"), (505, "HTTP Version Not Supported"),
    (506, "Variant Also Negotiates"), (507, "Insufficient Storage"), (508, "Loop Detected"),
    (510, "Not Extended"), (511, "Network Authentication Required")]

/-- A server error status with its reason phrase. -/
def text (status : Status) : String :=
  toString status.code ++ " " ++ (reasons.lookup status.code).getD "<unknown status code>"

end Status

/-- Why a row does not hold a record, or a value cannot be written as a row. -/
inductive RowError
  | missingField (name : String)
  | wrongType (found expected : String)
  | outOfRange (value : Int) (expected : String)
  | malformedUuid
  | malformedTimestamp
  | unwritableTimestamp
  | missingItems
  | notAnObject (found : String)
  | other (detail : String)
  deriving DecidableEq, Repr

namespace RowError

/-- The detail that describes a row error. -/
def detail : RowError → String
  | missingField name => "missing field `" ++ name ++ "`"
  | wrongType found expected => "invalid type: " ++ found ++ ", expected " ++ expected
  | outOfRange value expected =>
    "invalid value: integer `" ++ toString value ++ "`, expected " ++ expected
  | malformedUuid => "malformed identifier"
  | malformedTimestamp => "malformed timestamp"
  | unwritableTimestamp => "timestamp without a written form"
  | missingItems => "too few items"
  | notAnObject found => "expected an object, found " ++ found
  | other detail => detail

end RowError

/-- A failure of a query. -/
inductive QueryError
  | acquire (detail : String)
  | execute (detail : String)
  | parse (cause : RowError)
  deriving DecidableEq, Repr

namespace QueryError

/-- The message of a query failure. -/
def message : QueryError → String
  | acquire detail => "connection acquisition failed: " ++ detail
  | execute detail => "statement execution failed: " ++ detail
  | parse cause => "failed to parse rows: " ++ cause.detail

end QueryError

/-- A failure of a task. -/
inductive TaskError
  | failed (detail : String)
  | cancelled
  | stub (detail : String)
  deriving DecidableEq, Repr

namespace TaskError

/-- The message of a task failure. -/
def message : TaskError → String
  | failed detail => "task failed: " ++ detail
  | cancelled => "task cancelled before completion"
  | stub detail => "stub value mismatch: " ++ detail

end TaskError

/-- The public message of every failure that is not the visitor's. -/
def genericMessage : String := "Something went wrong, please try again later."

/-- A failure with a message for the log and a message for the visitor. -/
structure ServerError where
  privateMessage : String
  publicMessage : String
  status : Status := Status.internalError
  deriving DecidableEq, Repr

namespace ServerError

/-- The failure of a request that makes no sense. -/
def badRequest (privateMessage publicMessage : String) : ServerError :=
  { privateMessage, publicMessage, status := Status.badRequest }

/-- The failure of a request for something that is not there. -/
def notFound (publicMessage : String) : ServerError :=
  { privateMessage := "not found: " ++ publicMessage, publicMessage, status := Status.notFound }

/-- What a failed query is to the visitor. -/
def ofQuery (error : QueryError) : ServerError :=
  { privateMessage := error.message, publicMessage := genericMessage }

/-- What a failed task is to the visitor. -/
def ofTask (error : TaskError) : ServerError :=
  { privateMessage := error.message, publicMessage := genericMessage }

/-- The page that reports a failure. -/
def page (error : ServerError) : Html.Node := Html.errorPage error.publicMessage

@[simp] theorem publicMessage_ofQuery (error : QueryError) :
    (ofQuery error).publicMessage = genericMessage := rfl

@[simp] theorem publicMessage_ofTask (error : TaskError) :
    (ofTask error).publicMessage = genericMessage := rfl

end ServerError

end Screencast
