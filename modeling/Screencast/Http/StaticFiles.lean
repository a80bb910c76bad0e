import Screencast.KeyMap
import Screencast.Text.Split
import Screencast.Text.Utf8

/-!
# Static files

Files are served from below one folder. A path that could lead out of it is refused before anything
is looked up.
-/

namespace Screencast

namespace Http

/-- The files below the folder, by their paths from it. -/
abbrev StaticFiles := KeyMap Bytes

namespace StaticFiles

/-- The parts of a path from the folder, with the empty ones. -/
def parts (path : String) : List String := Text.split '/' (Text.trimLeading '/' path)

/-- The parts that lead to another place than the one before. -/
def steps (path : String) : List String :=
  (parts path).filter fun part => part ≠ "" && part ≠ "."

/-- Whether a path stays below the folder: it is not empty, no part leads upwards, and it does not
begin with the folder itself. -/
def isSafe (path : String) : Bool :=
  path ≠ "" && !(parts path).contains ".." && (parts path).head? ≠ some "."

/-- Whether a path ends in a file name. -/
def namesFile (path : String) : Bool :=
  match (parts path).getLast? with
  | some part => part ≠ "" && part ≠ "."
  | none => false

/-- The content of the file at a safe path. -/
def read? (files : StaticFiles) (path : String) : Option Bytes :=
  if namesFile path then KeyMap.find? ("/".intercalate (steps path)) files else none

/-- What stands after the last dot of a file name that does not begin with it. -/
def extension? (name : String) : Option String :=
  let reversed := name.toList.reverse
  let ending := reversed.takeWhile (· ≠ '.')
  match reversed.drop ending.length with
  | '.' :: _ :: _ => some (String.ofList ending.reverse)
  | _ => none

/-- The content types by the endings of file names. -/
def contentTypes : List (String × String) :=
  [("html", "text/html; charset=utf-8"), ("css", "text/css"), ("js", "application/javascript"),
    ("json", "application/json"), ("svg", "image/svg+xml"), ("png", "image/png"),
    ("jpg", "image/jpeg"), ("jpeg", "image/jpeg"), ("mp4", "video/mp4"), ("woff2", "font/woff2"),
    ("txt", "text/plain; charset=utf-8")]

/-- The content type of a file. -/
def contentType (path : String) : String :=
  match (steps path).getLast? >>= extension? >>= fun ending => contentTypes.lookup ending with
  | some contentType => contentType
  | none => "application/octet-stream"

end StaticFiles

end Http

end Screencast
