import Screencast.Config.Options
import Screencast.Site.Dispatch
import Screencast.Store.Snapshot
import Std.Time.DateTime.Timestamp

/-!
# The command line

The program loads its configuration, its catalog and its tables, and answers the requests that stand
on the lines of the standard input. Responses go to the standard output and entries of the log to
the standard error. At the end of the input the tables are saved.
-/

namespace Screencast

namespace CommandLine

/-- The content of a file, if it can be read. -/
def content? (path : String) : IO (Option Bytes) := do
  try
    let content ← IO.FS.readBinFile path
    return some content.toList
  catch _ => return none

/-- The part of the environment that the configuration looks at. -/
def environment : IO (KeyMap String) := do
  let names :=
    ["BITSERVE_ADDRESS", "BITSERVE_BASE_URL", "BITSERVE_STATIC_ROOT", "BITSERVE_DATA_PATH",
      "BITSERVE_LOG", "BITSERVE_MAX_CONNECTIONS"]
  let entries ← names.filterMapM fun name => do
    return (← IO.getEnv name).map fun value => (name, value)
  return KeyMap.ofList entries

/-- The configuration that the options, the settings file and the environment make up. -/
def configure (options : Options) : IO (Except Config.Error Config) := do
  let source ←
    match options.configPath with
    | none => pure Config.Source.defaults
    | some path =>
      match ← content? path with
      | some content => pure (Config.Source.file content)
      | none => pure Config.Source.missingFile
  let environment ← environment
  let config :=
    (Config.load source).bind (Config.applyEnvironment fun name => environment.find? name)
  return config.map options.apply

/-- The point in time at present. -/
def now : IO Timestamp := do
  let time ← Std.Time.Timestamp.now
  let nanoseconds := time.toNanosecondsSinceUnixEpoch.toInt
  return Timestamp.ofUnix (nanoseconds / 1000000000) (nanoseconds % 1000000000).toNat

/-- The only file that a request can be answered by, if there is one. -/
def file (config : Config) (site : Site) (request : Http.Request) : IO Http.StaticFiles := do
  match (Site.head request).route? with
  | some (Route.staticFile segments) =>
    let name := "/".intercalate segments
    let path := (site.assets.resolve? name).getD name
    if Http.StaticFiles.isSafe path then
      let below := "/".intercalate (Http.StaticFiles.steps path)
      return (← content? (config.staticRoot ++ "/" ++ below)).toList.map fun content =>
        (below, content)
    else return []
  | _ => return []

/-- Write an entry of the log. -/
def report (entry : LogEntry) : IO Unit :=
  IO.eprintln
    (" ".intercalate
      (entry.level.text :: entry.message ::
        entry.fields.map fun (name, value) => name ++ "=" ++ Text.quoted value))

/-- Answer one request, and return what has changed. -/
def answer (config : Config) (site : Site) (request : Http.Request)
    (shared : Serve.Shared World) : IO (Serve.Shared World) := do
  let files ← file config site request
  let wallClock ← now
  let system :=
    { site with now := wallClock, wallClock }.handle
      (Site.setup files config.taskTimeoutMillis) request shared
  (Event.entries system.shared.journal).forM report
  match system.response with
  | some response =>
    IO.println (toString response.status.code)
    response.headers.forM fun (name, value) => IO.println (name ++ ": " ++ value)
    IO.println ""
    IO.println (Text.decodeLossy response.body)
  | none => IO.eprintln "no response"
  return { system.shared with journal := [] }

/-- Answer the requests of the standard input. -/
partial def loop (config : Config) (site : Site) (input : IO.FS.Stream)
    (shared : Serve.Shared World) : IO (Serve.Shared World) := do
  let line ← input.getLine
  if line.isEmpty then return shared
  else
    match Http.Request.ofLine? line with
    | some request => loop config site input (← answer config site request shared)
    | none =>
      IO.eprintln "malformed request"
      loop config site input shared

/-- The pool with the saved tables, if there are any. -/
def restored (config : Config) : IO (Except String Pool) := do
  match config.pool?, config.dataPath with
  | none, _ => return Except.error "too many connections"
  | some pool, none => return Except.ok pool
  | some pool, some path =>
    match ← content? path with
    | none => return Except.ok pool
    | some content =>
      match pool.restore? content with
      | some pool => return Except.ok pool
      | none => return Except.error "failed to restore tables"

/-- Load what is needed, answer the requests, and save the tables. -/
def run (config : Config) : IO UInt32 := do
  let source : Except Catalog.Error Catalog ←
    match config.catalogPath with
    | none => pure (Except.ok Catalog.empty)
    | some path => pure (Catalog.load (← content? path))
  let manifest : Option Bytes ←
    match config.assetManifest with
    | none => pure none
    | some path => content? path
  match source, ← restored config with
  | Except.error error, _ =>
    IO.eprintln error.message
    return 1
  | Except.ok _, Except.error message =>
    IO.eprintln message
    return 1
  | Except.ok catalog, Except.ok pool =>
    let site : Site :=
      { assets := Assets.load manifest
        baseUrl := config.baseUrl
        githubClientId := config.githubClientId
        now := ← now }
    let drawn ← IO.rand 0 140737488355328
    let shared ← loop config site (← IO.getStdin) { pool, world := { catalog, source }, drawn }
    match config.dataPath with
    | some path => IO.FS.writeBinFile path ⟨shared.pool.save.toArray⟩
    | none => pure ()
    return 0

end CommandLine

end Screencast

/-- Answer the requests of the standard input. -/
def main (arguments : List String) : IO UInt32 := do
  match Screencast.Options.parse? arguments with
  | none =>
    IO.eprintln Screencast.Options.usage
    return 2
  | some options =>
    match ← Screencast.CommandLine.configure options with
    | Except.ok config => Screencast.CommandLine.run config
    | Except.error error =>
      IO.eprintln error.message
      return 1
