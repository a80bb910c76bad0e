import Screencast.Config.SocketAddress
import Screencast.Config.Toml
import Screencast.Store.Pool
import Screencast.Text.Quoted

/-!
# The configuration of the server

The configuration starts from defaults, takes over what a settings file says, and then what the
environment says.
-/

namespace Screencast

/-- The configuration of the server. -/
structure Config where
  address : SocketAddress := SocketAddress.v4 [127, 0, 0, 1] 8080
  baseUrl : String := "http://localhost:8080"
  staticRoot : String := "static"
  catalogPath : Option String := none
  assetManifest : Option String := none
  dataPath : Option String := none
  logFilter : String := "info"
  maxConnections : Nat := 16
  acquireTimeoutMillis : Nat := 5000
  taskTimeoutMillis : Option Nat := some 30000
  githubClientId : String := ""
  deriving DecidableEq

namespace Config

/-- Why a configuration cannot be used. -/
inductive Error
  | unreadable
  | malformed
  | environment (name value : String)
  deriving DecidableEq, Repr

namespace Error

/-- The message of a configuration error. -/
def message : Error → String
  | unreadable => "failed to read config"
  | malformed => "invalid config"
  | environment name value =>
    "invalid value for " ++ name ++ ": " ++ Text.quoted value

end Error

/-! ## The settings file -/

/-- A text. -/
def textOf? : Toml.Value → Option String
  | Toml.Value.text value => some value
  | _ => none

/-- A number that is not negative. -/
def numberOf? : Toml.Value → Option Nat
  | Toml.Value.integer value => if 0 ≤ value then some value.toNat else none
  | _ => none

/-- Take over one setting. -/
def set? (config : Config) (key : String) (value : Toml.Value) : Option Config :=
  match key with
  | "address" => do
    let address ← textOf? value >>= SocketAddress.parse?
    pure { config with address }
  | "base_url" => (textOf? value).map fun baseUrl => { config with baseUrl }
  | "static_root" => (textOf? value).map fun staticRoot => { config with staticRoot }
  | "catalog_path" => (textOf? value).map fun path => { config with catalogPath := some path }
  | "asset_manifest" => (textOf? value).map fun path => { config with assetManifest := some path }
  | "data_path" => (textOf? value).map fun path => { config with dataPath := some path }
  | "log_filter" => (textOf? value).map fun logFilter => { config with logFilter }
  | "max_connections" =>
    (numberOf? value).map fun maxConnections => { config with maxConnections }
  | "acquire_timeout_ms" =>
    (numberOf? value).map fun acquireTimeoutMillis => { config with acquireTimeoutMillis }
  | "task_timeout_ms" =>
    (numberOf? value).map fun millis => { config with taskTimeoutMillis := some millis }
  | "github_client_id" => (textOf? value).map fun githubClientId => { config with githubClientId }
  | _ => none

/-- The configuration that a settings file describes. -/
def ofToml? (text : String) : Option Config := do
  let settings ← Toml.read? text
  settings.foldlM (fun config (key, value) => config.set? key value) {}

/-- Where the settings come from. -/
inductive Source
  | defaults
  | missingFile
  | file (content : Bytes)

/-- Load the configuration. -/
def load : Source → Except Error Config
  | Source.defaults => Except.ok {}
  | Source.missingFile => Except.error Error.unreadable
  | Source.file content =>
    match Text.decode? content with
    | none => Except.error Error.unreadable
    | some text =>
      match ofToml? text with
      | some config => Except.ok config
      | none => Except.error Error.malformed

/-! ## The environment -/

/-- The number in a variable: decimal digits, with or without a plus sign, that make up a positive
number of at most 64 bits. -/
def positive? (value : String) : Option Nat :=
  let digits :=
    match value.toList with
    | '+' :: rest => rest
    | chars => chars
  if digits.isEmpty || !digits.all Char.isDigit then none
  else
    let number := digits.foldl (fun number char => number * 10 + (char.toNat - '0'.toNat)) 0
    if 0 < number ∧ number ≤ Bounds.greatestLong then some number else none

/-- Take over the address from the environment. -/
def applyAddress (environment : String → Option String) (config : Config) : Except Error Config :=
  match environment "BITSERVE_ADDRESS" with
  | none => Except.ok config
  | some value =>
    match SocketAddress.parse? value with
    | some address => Except.ok { config with address }
    | none => Except.error (Error.environment "BITSERVE_ADDRESS" value)

/-- Take over the texts from the environment. -/
def applyTexts (environment : String → Option String) (config : Config) : Config :=
  { config with
    baseUrl := (environment "BITSERVE_BASE_URL").getD config.baseUrl
    staticRoot := (environment "BITSERVE_STATIC_ROOT").getD config.staticRoot
    dataPath := environment "BITSERVE_DATA_PATH" <|> config.dataPath
    logFilter := (environment "BITSERVE_LOG").getD config.logFilter }

/-- Take over the number of connections from the environment. -/
def applyConnections (environment : String → Option String) (config : Config) :
    Except Error Config :=
  match environment "BITSERVE_MAX_CONNECTIONS" with
  | none => Except.ok config
  | some value =>
    match positive? value with
    | some maxConnections => Except.ok { config with maxConnections }
    | none => Except.error (Error.environment "BITSERVE_MAX_CONNECTIONS" value)

/-- Take over what the environment says. -/
def applyEnvironment (environment : String → Option String) (config : Config) :
    Except Error Config := do
  let config ← applyAddress environment config
  applyConnections environment (applyTexts environment config)

/-- An empty pool with the connections of a configuration, unless they are too many. -/
def pool? (config : Config) : Option Pool :=
  Pool.ofCapacity? config.maxConnections config.acquireTimeoutMillis

/-! ## Showing a configuration -/

/-- The JSON value of a configuration. -/
def toJson (config : Config) : Json :=
  let text? := Json.ofOption Json.string
  Json.object
    [("address", Json.string config.address.text), ("base_url", Json.string config.baseUrl),
      ("static_root", Json.string config.staticRoot), ("catalog_path", text? config.catalogPath),
      ("asset_manifest", text? config.assetManifest), ("data_path", text? config.dataPath),
      ("log_filter", Json.string config.logFilter),
      ("max_connections", Json.integer config.maxConnections),
      ("acquire_timeout_ms", Json.integer config.acquireTimeoutMillis),
      ("task_timeout_ms",
        Json.ofOption (fun millis : Nat => Json.integer millis) config.taskTimeoutMillis),
      ("github_client_id", Json.string config.githubClientId)]

end Config

end Screencast
