import Screencast.Config.Settings
import Screencast.Proofs.Store.Record
import Screencast.Proofs.Text.Utf8

/-!
# The connections of a configuration

The number of connections comes from the environment, from the settings file or from the defaults,
in this order. The environment is asked for a positive number, the file only for a number. A pool
hands out a first connection exactly if the number is positive and not more than a pool can have.
-/

namespace Screencast

namespace Toml

/-- No key stands on two lines. -/
theorem nodup_keys_of_readLines
    {fuel : Nat}
    {chars : List Char}
    {settings : List (String × Value)}
    (read : readLines fuel chars = some settings) :
    (KeyMap.keys settings).Nodup := by
  induction fuel generalizing chars settings with
  | zero =>
      unfold readLines at read
      split at read
      · obtain rfl := Option.some.inj read
        exact List.nodup_nil
      · cases read
  | succ fuel inductionHypothesis =>
      unfold readLines at read
      split at read
      · obtain rfl := Option.some.inj read
        exact List.nodup_nil
      split at read
      · exact inductionHypothesis read
      · simp only [Option.bind_eq_bind, Option.bind_eq_some_iff] at read
        obtain ⟨⟨entry, rest⟩, -, entries, readRest, kept⟩ := read
        split at kept
        case isTrue => cases kept
        case isFalse isNew =>
          obtain rfl := Option.some.inj kept
          refine List.nodup_cons.2 ⟨fun present => isNew ?_, inductionHypothesis readRest⟩
          exact List.contains_iff_mem.2 present

theorem nodup_keys_of_read?
    {text : String}
    {settings : List (String × Value)}
    (read : read? text = some settings) :
    (KeyMap.keys settings).Nodup :=
  nodup_keys_of_readLines read

end Toml

namespace Pool

variable {capacity timeoutMillis : Nat}

/-- No pool can be had for too many connections, and only for these. -/
theorem ofCapacity?_eq_none_iff :
    ofCapacity? capacity timeoutMillis = none ↔ greatestCapacity < capacity := by
  rw [ofCapacity?, ite_eq_right_iff, ← Nat.not_le]
  exact forall_congr' fun few => by simp

/-- The first connection of a new pool is handed out at once or not in time, however soon the time
for waiting is over. -/
theorem acquire_of_ofCapacity?
    {pool : Pool}
    (isPool : ofCapacity? capacity timeoutMillis = some pool) :
    pool.acquire =
      if 0 < capacity then (Except.ok (), pool.grant)
      else (Except.error pool.acquireTimeout, pool) := by
  obtain ⟨_, same⟩ := Option.ite_none_right_eq_some.1 isPool
  obtain rfl := Option.some.inj same
  by_cases positive : 0 < capacity <;>
    simp [acquire, request, takeFault, isAvailable, positive]

end Pool

namespace Config

variable {config next : Config}

/-! ## The settings file -/

theorem numberOf?_of_set?
    {value : Toml.Value}
    (taken : config.set? "max_connections" value = some next) :
    numberOf? value = some next.maxConnections := by
  obtain ⟨number, isNumber, rfl⟩ := Option.map_eq_some_iff.1 taken
  exact isNumber

/-- Other settings leave the number of connections alone. -/
theorem maxConnections_of_set?
    {key : String}
    {value : Toml.Value}
    (isOther : key ≠ "max_connections")
    (taken : config.set? key value = some next) :
    next.maxConnections = config.maxConnections := by
  unfold set? at taken
  split at taken
  case h_1 =>
    obtain ⟨address, -, same⟩ := Option.bind_eq_some_iff.1 taken
    obtain rfl := Option.some.inj same
    rfl
  case h_8 => exact absurd rfl isOther
  case h_12 => cases taken
  all_goals
    obtain ⟨setting, -, rfl⟩ := Option.map_eq_some_iff.1 taken
    rfl

/-- Among settings with different keys, the one for the number of connections decides. -/
theorem maxConnections_of_foldlM
    {settings : List (String × Toml.Value)}
    (distinct : (KeyMap.keys settings).Nodup)
    (taken : settings.foldlM (fun config (key, value) => config.set? key value) config =
      some next) :
    next.maxConnections =
      ((KeyMap.find? "max_connections" settings).bind numberOf?).getD config.maxConnections := by
  induction settings generalizing config with
  | nil =>
      obtain rfl := Option.some.inj taken
      rfl
  | cons setting rest inductionHypothesis =>
      obtain ⟨key, value⟩ := setting
      obtain ⟨isNew, restDistinct⟩ := List.nodup_cons.1 distinct
      obtain ⟨between, isTaken, restTaken⟩ := Option.bind_eq_some_iff.1 taken
      rw [inductionHypothesis restDistinct restTaken, KeyMap.find?]
      split
      case isTrue isKey =>
        subst isKey
        rw [KeyMap.find?_eq_none_of_not_mem isNew, Option.bind_some, numberOf?_of_set? isTaken]
        rfl
      case isFalse isOther => rw [maxConnections_of_set? isOther isTaken]

/-- The number of connections that a settings file asks for, if it does. -/
def Source.connections? : Source → Option Nat
  | defaults => none
  | missingFile => none
  | file content => do
    let text ← Text.decode? content
    let settings ← Toml.read? text
    let value ← KeyMap.find? "max_connections" settings
    numberOf? value

/-- The number of connections is the one of the settings file, or sixteen. -/
theorem maxConnections_of_load
    {source : Source}
    (loaded : load source = Except.ok config) :
    config.maxConnections = source.connections?.getD 16 := by
  cases source with
  | defaults =>
      obtain rfl := Except.ok.inj loaded
      rfl
  | missingFile => cases loaded
  | file content =>
      simp only [load] at loaded
      cases isText : Text.decode? content with
      | none =>
          rw [isText] at loaded
          cases loaded
      | some text =>
          rw [isText] at loaded
          cases isRead : ofToml? text with
          | none =>
              simp only [isRead] at loaded
              cases loaded
          | some read =>
              simp only [isRead] at loaded
              obtain rfl := Except.ok.inj loaded
              obtain ⟨settings, areSettings, taken⟩ := Option.bind_eq_some_iff.1 isRead
              rw [maxConnections_of_foldlM (Toml.nodup_keys_of_read? areSettings) taken]
              simp only [Source.connections?, isText, areSettings, Option.bind_eq_bind,
                Option.bind_some]

/-! ## The environment -/

/-- The variable for the number of connections. -/
def connectionsVariable : String := "BITSERVE_MAX_CONNECTIONS"

/-- A number that the environment is asked for is positive. -/
theorem pos_of_positive?
    {value : String}
    {number : Nat}
    (isNumber : positive? value = some number) :
    0 < number := by
  unfold positive? at isNumber
  extract_lets digits read at isNumber
  split at isNumber
  · cases isNumber
  · split at isNumber
    case isTrue within =>
      obtain rfl := Option.some.inj isNumber
      exact within.1
    case isFalse => cases isNumber

variable {environment : String → Option String}

/-- What the environment says of the address leaves the number of connections alone. -/
theorem maxConnections_of_applyAddress
    (applied : applyAddress environment config = Except.ok next) :
    next.maxConnections = config.maxConnections := by
  unfold applyAddress at applied
  split at applied
  · rw [Except.ok.inj applied]
  · split at applied
    · obtain rfl := Except.ok.inj applied
      rfl
    · cases applied

/-- The number of connections is the one of the environment, or stays as it is. -/
theorem maxConnections_of_applyEnvironment
    (applied : applyEnvironment environment config = Except.ok next) :
    match environment connectionsVariable with
    | none => next.maxConnections = config.maxConnections
    | some value => positive? value = some next.maxConnections := by
  obtain ⟨between, isAddress, isApplied⟩ := bind_eq_ok_iff.1 applied
  have kept := maxConnections_of_applyAddress isAddress
  unfold applyConnections at isApplied
  cases isSet : environment connectionsVariable with
  | none =>
      rw [connectionsVariable] at isSet
      simp only [isSet] at isApplied
      obtain rfl := Except.ok.inj isApplied
      exact kept
  | some value =>
      rw [connectionsVariable] at isSet
      simp only [isSet] at isApplied
      cases isNumber : positive? value with
      | none =>
          rw [isNumber] at isApplied
          cases isApplied
      | some number =>
          rw [isNumber] at isApplied
          obtain rfl := Except.ok.inj isApplied
          exact isNumber

/-! ## The first connection -/

/-- A pool can be had for a configuration, and it hands out a first connection. -/
def Serves (config : Config) : Prop :=
  ∃ pool, config.pool? = some pool ∧ pool.acquire = (Except.ok (), pool.grant)

/-- A first connection is handed out exactly if there are connections, and not too many of them. -/
theorem serves_iff (config : Config) :
    config.Serves ↔ 0 < config.maxConnections ∧ config.maxConnections ≤ Pool.greatestCapacity := by
  by_cases few : config.maxConnections ≤ Pool.greatestCapacity
  case pos =>
    have isPool : config.pool? = some _ := if_pos few
    have acquired := Pool.acquire_of_ofCapacity? isPool
    by_cases positive : 0 < config.maxConnections
    case pos =>
      rw [if_pos positive] at acquired
      exact iff_of_true ⟨_, isPool, acquired⟩ ⟨positive, few⟩
    case neg =>
      rw [if_neg positive] at acquired
      refine iff_of_false ?_ fun both => positive both.1
      rintro ⟨pool, isSame, granted⟩
      obtain rfl := Option.some.inj (isPool.symm.trans isSame)
      cases congrArg Prod.fst (acquired.symm.trans granted)
  case neg =>
    have noPool : config.pool? = none := if_neg few
    refine iff_of_false ?_ fun both => few both.2
    rintro ⟨pool, isPool, _⟩
    cases noPool.symm.trans isPool

/-- The number of connections that is asked for: the one of the environment, or the one of the
settings file, or sixteen. -/
def askedFor (source : Source) (environment : String → Option String) : Nat :=
  (((environment connectionsVariable).bind positive?).or source.connections?).getD 16

variable {source : Source}

/-- A configuration has the connections that are asked for. -/
theorem maxConnections_of_configured
    (configured : (load source >>= applyEnvironment environment) = Except.ok config) :
    config.maxConnections = askedFor source environment := by
  obtain ⟨loaded, isLoaded, isApplied⟩ := bind_eq_ok_iff.1 configured
  have applied := maxConnections_of_applyEnvironment isApplied
  unfold askedFor
  cases isSet : environment connectionsVariable with
  | none =>
      simp only [isSet] at applied
      rw [applied, maxConnections_of_load isLoaded]
      rfl
  | some value =>
      simp only [isSet] at applied
      rw [Option.bind_some, applied]
      rfl

/-- A configuration has no connection exactly if the settings file asks for none and the
environment does not overrule it. -/
theorem maxConnections_eq_zero_iff
    (configured : (load source >>= applyEnvironment environment) = Except.ok config) :
    config.maxConnections = 0 ↔
      environment connectionsVariable = none ∧ source.connections? = some 0 := by
  obtain ⟨loaded, isLoaded, isApplied⟩ := bind_eq_ok_iff.1 configured
  have applied := maxConnections_of_applyEnvironment isApplied
  cases isSet : environment connectionsVariable with
  | none =>
      simp only [isSet] at applied
      rw [applied, maxConnections_of_load isLoaded]
      cases source.connections? <;> simp
  | some value =>
      simp only [isSet] at applied
      simp [Nat.pos_iff_ne_zero.1 (pos_of_positive? applied)]

/-- The first connection of every configuration that can be had. It has the connections that are
asked for. They are none exactly if the settings file asks for none and the environment does not
overrule it: then there is a pool, and whoever asks it for a connection waits in vain. No pool can
be had exactly if more connections are asked for than a pool can have. In all other cases the first
connection is handed out. -/
theorem serves_of_configured
    (configured : (load source >>= applyEnvironment environment) = Except.ok config) :
    let asksForNone := environment connectionsVariable = none ∧ source.connections? = some 0
    let tooMany := Pool.greatestCapacity < askedFor source environment
    config.maxConnections = askedFor source environment ∧
    (config.maxConnections = 0 ↔ asksForNone) ∧
    (asksForNone → ∃ pool, config.pool? = some pool ∧
      pool.acquire = (Except.error pool.acquireTimeout, pool)) ∧
    (config.pool? = none ↔ tooMany) ∧
    (config.Serves ↔ ¬ asksForNone ∧ ¬ tooMany) := by
  intro asksForNone tooMany
  have isAsked := maxConnections_of_configured configured
  have isNone : config.maxConnections = 0 ↔ asksForNone := maxConnections_eq_zero_iff configured
  refine ⟨isAsked, isNone, ?waits, ?missing, ?serves⟩
  case waits =>
    intro asked
    have none := isNone.2 asked
    have isPool : config.pool? = some _ := if_pos (none ▸ Nat.zero_le _)
    refine ⟨_, isPool, ?_⟩
    rw [Pool.acquire_of_ofCapacity? isPool, none, if_neg (Nat.lt_irrefl 0)]
  case missing => rw [pool?, Pool.ofCapacity?_eq_none_iff, isAsked]
  case serves => rw [serves_iff, Nat.pos_iff_ne_zero, ne_eq, isNone, ← Nat.not_lt, isAsked]

/-- A settings file that asks for a number of connections. -/
def asking (number : String) : Source :=
  Source.file (Text.encode ("max_connections = " ++ number))

/-- The environment in which one variable alone is set. -/
def setting (value : String) : String → Option String :=
  fun name => if name = connectionsVariable then some value else none

theorem load_asking
    {number : String}
    (read : ofToml? ("max_connections = " ++ number) = some config) :
    load (asking number) = Except.ok config := by
  simp only [asking, load, Text.decode?_encode, read]

/-- A settings file that asks for no connection is taken over, and whoever asks for the first one
waits in vain. An environment that asks for one more than a pool can have is taken over, and no pool
can be had. -/
theorem configured_without_connection :
    (∃ config pool, (load (asking "0") >>= applyEnvironment fun _ => none) = Except.ok config ∧
      config.maxConnections = 0 ∧ config.pool? = some pool ∧
      pool.acquire =
        (Except.error (QueryError.acquire "no connection available within 5s"), pool)) ∧
    ∃ config, (load Source.defaults >>= applyEnvironment (setting "2305843009213693952")) =
        Except.ok config ∧
      config.pool? = none := by
  have loaded : load (asking "0") = Except.ok { maxConnections := 0 } :=
    load_asking (by decide +kernel)
  have seconds : Duration.text 5000 = "5s" := by decide +kernel
  refine ⟨⟨{ maxConnections := 0 }, { capacity := 0 }, ?_, rfl, rfl, ?_⟩,
    ⟨{ maxConnections := 2305843009213693952 }, ?_, Pool.ofCapacity?_eq_none_iff.2 (by decide)⟩⟩
  · rw [loaded]
    rfl
  · change (Except.error (Pool.acquireTimeout { capacity := 0 }), _) = _
    rw [Pool.acquireTimeout, seconds]
    rfl
  · rfl

/-- The environment overrules a settings file that asks for no connection, and the first connection
is handed out. -/
theorem serves_of_configured_by_environment :
    (load (asking "0") >>= applyEnvironment (setting "+4")) =
        Except.ok { maxConnections := 4 } ∧
      Serves { maxConnections := 4 } := by
  have loaded : load (asking "0") = Except.ok { maxConnections := 0 } :=
    load_asking (by decide +kernel)
  have configured : (load (asking "0") >>= applyEnvironment (setting "+4")) =
      Except.ok { maxConnections := 4 } := by
    rw [loaded]
    rfl
  have isSet : setting "+4" connectionsVariable = some "+4" := by decide
  obtain ⟨isAsked, _, _, _, serves⟩ := serves_of_configured configured
  refine ⟨configured, serves.2 ⟨fun asksForNone => ?_, ?_⟩⟩
  · exact Option.some_ne_none _ (isSet.symm.trans asksForNone.1)
  · rw [← isAsked]
    decide

end Config

end Screencast
