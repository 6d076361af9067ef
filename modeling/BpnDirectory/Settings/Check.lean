import BpnDirectory.Settings.Basic

namespace BpnDirectory
namespace Settings

/-!
The check of settings.

Settings that pass give every part of the service what it needs: two ports, a
store that can be reached, a cache that can hold something if it is to be used,
pages and batches with room for a record, and jobs that do not run all the time.
-/

/-- Why the service cannot be set up. -/
inductive Defect where
  | unreadable (value : BadValue)
  | noHostname
  | samePorts
  | noConnections
  | emptyCache
  | emptyBatches
  | pageSizes
  | jobPeriods
  | noMembershipType
  | logFilter (filter : String)
  | shortApiKey
  deriving DecidableEq, Repr

/-- The least number of octets of a management key. -/
def leastApiKeyLength : Nat := 16

/-- The wording of a defect. -/
def Defect.message : Defect → String
  | .unreadable value => s!"Invalid value for {value.name}: {value.value}"
  | .noHostname => "Hostname cannot be empty"
  | .samePorts => "Directory and management APIs need distinct ports"
  | .noConnections => "BDRS_DB_MAX_CONNECTIONS must be at least 1"
  | .emptyCache => "Cache capacity and shard count must be positive"
  | .emptyBatches => "BDRS_BATCH_MAX_SIZE must be positive"
  | .pageSizes => "Default page size must be between 1 and the maximum page size"
  | .jobPeriods => "Job periods must be positive"
  | .noMembershipType => "Membership credential type cannot be empty"
  | .logFilter filter => s!"Invalid RUST_LOG filter {filter}"
  | .shortApiKey => s!"Management API key must be at least {leastApiKeyLength} characters"

/-- The failure of a start with defective settings. -/
def Defect.toFailure (defect : Defect) : Failure := .invalidInput defect.message

/-- Refuses settings for a reason that applies to them. -/
def refuse (applies : Bool) (defect : Defect) : Except Defect Unit :=
  if applies then .error defect else .ok ()

/-- The check of settings. -/
def check (settings : Settings) : Except Defect Unit := do
  let ⟨service, storage, caching, limits, jobs, access, log⟩ := settings
  refuse service.hostname.isEmpty .noHostname
  refuse (service.directoryPort == service.managementPort) .samePorts
  refuse (storage.maxConnections == 0) .noConnections
  refuse (caching.enabled && (caching.capacity == 0 || caching.shards == 0)) .emptyCache
  refuse (limits.batch == 0) .emptyBatches
  refuse (limits.pageUsual == 0 || limits.pageUsual > limits.pageGreatest) .pageSizes
  refuse (jobs.pollSeconds == 0 || jobs.reconcileSeconds == 0) .jobPeriods
  refuse access.membershipType.isEmpty .noMembershipType
  refuse (!LogFilter.isFilter log.filter) (.logFilter log.filter)
  refuse (access.managementApiKey.any fun key => key.utf8ByteSize < leastApiKeyLength)
    .shortApiKey

/-- The settings of an environment, without the check. -/
def read (environment : Environment) : Except Defect Settings :=
  (ofEnvironment environment).mapError .unreadable

end Settings
end BpnDirectory
