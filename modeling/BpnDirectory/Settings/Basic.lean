import BpnDirectory.Cache.Basic
import BpnDirectory.Failure
import BpnDirectory.Resolver.Policy
import BpnDirectory.Settings.Environment
import BpnDirectory.Settings.LogFilter
import BpnDirectory.Store.Backend

namespace BpnDirectory

/-!
The settings of the service.

Settings are read from the environment first and checked afterwards.  Reading
refuses values that make no sense by themselves; the check refuses settings that
the service could not work with.  Either reports the first defect only, in the
order in which the settings are listed here.
-/

structure ServiceSettings where
  hostname : String
  directoryPort : UInt16
  managementPort : UInt16
  did : String
  deriving DecidableEq, Repr

/-- Where records are kept. -/
structure StorageSettings where
  kind : Store.Kind
  databasePath : String
  maxConnections : UInt32
  migrates : Bool
  retries : UInt32
  backoffMillis : UInt64
  deriving DecidableEq, Repr

/-- What is kept in the cache. -/
structure CachingSettings where
  enabled : Bool
  capacity : UInt64
  shards : UInt64
  /-- Zero lets entries live for ever. -/
  ttlSeconds : UInt64
  deriving DecidableEq, Repr

structure LimitSettings where
  batch : UInt64
  pageUsual : UInt64
  pageGreatest : UInt64
  deriving DecidableEq, Repr

structure JobSettings where
  pollSeconds : UInt64
  /-- Without it, the first poll comes at a random time. -/
  pollDelaySeconds : Option UInt64
  reconcileSeconds : UInt64
  deriving DecidableEq, Repr

/-- Who may do what. -/
structure AccessSettings where
  trustedIssuers : List String
  keysFile : Option String
  audience : Option String
  membershipType : String
  managementType : Option String
  /-- DIDs and BPNs that may manage records. -/
  managementPrincipals : List String
  managementApiKey : Option String
  deriving DecidableEq, Repr

inductive LogFormat where
  | text
  | json
  deriving DecidableEq, Repr

def LogFormat.name : LogFormat → String
  | .text => "text"
  | .json => "json"

structure LogSettings where
  filter : String
  format : LogFormat
  deriving DecidableEq, Repr

/-- The settings of the service. -/
structure Settings where
  service : ServiceSettings
  storage : StorageSettings
  caching : CachingSettings
  limits : LimitSettings
  jobs : JobSettings
  access : AccessSettings
  log : LogSettings
  deriving DecidableEq, Repr

namespace Settings

def serviceVersion : String := "0.1.0"

/-- What is logged if nothing else is asked for. -/
def usualLogFilter : String := "bdrs_server=info,tower_http=info"

/-- The log format of an environment.  Its name has to be written exactly. -/
def logFormat (environment : Environment) : Except BadValue LogFormat :=
  match environment.find? "BDRS_LOG_FORMAT" with
  | none | some "text" => .ok .text
  | some "json" => .ok .json
  | some other => .error ⟨"BDRS_LOG_FORMAT", other⟩

/-- A number of 64 bits that may be left out. -/
def number64? (environment : Environment) (name : String) :
    Except BadValue (Option UInt64) :=
  match environment.find? name with
  | none => .ok none
  | some _ => (environment.number64 name 0).map some

/-- The settings of an environment. -/
def ofEnvironment (environment : Environment) : Except BadValue Settings := do
  let hostname := environment.text "BDRS_HOSTNAME" "0.0.0.0"
  let directoryPort ← environment.port "BDRS_DIRECTORY_PORT" 8080
  let managementPort ← environment.port "BDRS_MANAGEMENT_PORT" 8081
  let kind ← environment.parsed "BDRS_STORE_BACKEND" .tables Store.Kind.ofName?
  let format ← logFormat environment
  let maxConnections ← environment.number32 "BDRS_DB_MAX_CONNECTIONS" 10
  let migrates ← environment.flag "BDRS_MIGRATIONS_ENABLED" true
  let retries ← environment.number32 "BDRS_STORE_RETRY_ATTEMPTS" 3
  let backoffMillis ← environment.number64 "BDRS_STORE_RETRY_BACKOFF_MS" 50
  let enabled ← environment.flag "BDRS_CACHE_ENABLED" true
  let capacity ← environment.number64 "BDRS_CACHE_CAPACITY" 10000
  let shards ← environment.number64 "BDRS_CACHE_SHARDS" 16
  let ttlSeconds ← environment.number64 "BDRS_CACHE_TTL_SECS" 300
  let batch ← environment.number64 "BDRS_BATCH_MAX_SIZE" 1000
  let pageUsual ← environment.number64 "BDRS_PAGE_SIZE_DEFAULT" 100
  let pageGreatest ← environment.number64 "BDRS_PAGE_SIZE_MAX" 500
  let pollSeconds ← environment.number64 "BDRS_DIRECTORY_POLL_PERIOD_SECS" 60
  let pollDelaySeconds ← number64? environment "BDRS_DIRECTORY_POLL_INITIAL_DELAY_SECS"
  let reconcileSeconds ← environment.number64 "BDRS_RECONCILE_PERIOD_SECS" 30
  pure
    { service :=
        { hostname, directoryPort, managementPort
          did := environment.text "BDRS_SERVICE_DID" ("did:web:" ++ hostname) }
      storage :=
        { kind, maxConnections, migrates, retries, backoffMillis
          databasePath := environment.text "BDRS_DATABASE_PATH" "./data/bdrs.sqlite" }
      caching := { enabled, capacity, shards, ttlSeconds }
      limits := { batch, pageUsual, pageGreatest }
      jobs := { pollSeconds, pollDelaySeconds, reconcileSeconds }
      access :=
        { trustedIssuers := environment.texts "BDRS_TRUSTED_ISSUERS"
          keysFile := environment.filled? "BDRS_DID_KEYS_FILE"
          audience := environment.filled? "BDRS_EXPECTED_AUDIENCE"
          membershipType :=
            environment.text "BDRS_MEMBERSHIP_CREDENTIAL_TYPE" "MembershipCredential"
          managementType := environment.filled? "BDRS_MANAGEMENT_CREDENTIAL_TYPE"
          managementPrincipals := environment.texts "BDRS_MANAGEMENT_PRINCIPALS"
          managementApiKey := environment.filled? "BDRS_MANAGEMENT_API_KEY" }
      log :=
        { format
          filter := (environment.filled? "RUST_LOG").getD usualLogFilter } }

def cache (settings : Settings) : Cache.Settings where
  enabled := settings.caching.enabled
  capacity := settings.caching.capacity.toNat
  shards := settings.caching.shards.toNat
  ttl :=
    if settings.caching.ttlSeconds = 0 then none
    else some (Time.Span.ofSeconds settings.caching.ttlSeconds.toNat)

/-- The longest delay between two attempts to reach the store. -/
def longestBackoff : Time.Span := Time.Span.ofSeconds 2

def policy (settings : Settings) : Resolver.Policy where
  batchLimit := settings.limits.batch.toNat
  pageSize := settings.limits.pageUsual
  pageLimit := settings.limits.pageGreatest
  retry :=
    { attempts := settings.storage.retries.toNat
      base := Time.Span.ofMillis settings.storage.backoffMillis.toNat
      longest := longestBackoff }

end Settings
end BpnDirectory
