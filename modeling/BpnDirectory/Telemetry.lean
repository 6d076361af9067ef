import BpnDirectory.Digest.Hash
import BpnDirectory.Text.Utf8

namespace BpnDirectory
namespace Telemetry

/-!
Telemetry of the service.

The service counts what it does.  What it did is kept as a list of events, each
of which raises one or two samples by one; a sample has the name under which it
is exposed and labels.  Durations are not counted: of a histogram, only the number
of its observations is.

The samples of one name are told apart by a hash of the values of their labels,
one value right behind the other.  Samples whose values run together into the same
text are thus one, which keeps the labels that it was first raised with.
-/

/-- A sample by its name and its labels, in the order in which their values are
hashed. -/
structure Sample where
  name : String
  labels : List (String × String)
  deriving DecidableEq, Repr

def Sample.hash (sample : Sample) : UInt64 :=
  Digest.fnv (sample.labels.flatMap fun label => Text.Utf8.octets label.2)

/-- Whether two samples are counted as one. -/
def Sample.isSame (sample other : Sample) : Bool :=
  sample.name == other.name && sample.hash == other.hash

/-- What the service does and counts. -/
inductive Event where
  | httpRequest (method path : String) (status : Nat)
  | storeCall (operation outcome : String)
  | storeRetry (operation : String)
  | versionConflict (operation : String)
  | cacheAccess (hit : Bool)
  | cacheInvalidation (scope : String)
  | cacheEviction
  | authAttempt (surface : String) (success : Bool)
  | job (name status : String)
  | failure (code place : String)
  deriving DecidableEq, Repr

/-- The samples that an event raises. -/
def Event.samples : Event → List Sample
  | .httpRequest method path status =>
    [⟨"http_requests_total", [("method", method), ("path", path), ("status", toString status)]⟩,
      ⟨"http_request_duration_seconds_count", [("method", method), ("path", path)]⟩]
  | .storeCall operation outcome =>
    [⟨"store_operations_total", [("operation", operation), ("outcome", outcome)]⟩,
      ⟨"store_operation_duration_seconds_count", [("operation", operation)]⟩]
  | .storeRetry operation => [⟨"store_retries_total", [("operation", operation)]⟩]
  | .versionConflict operation => [⟨"version_conflicts_total", [("operation", operation)]⟩]
  | .cacheAccess true => [⟨"cache_hits_total", []⟩]
  | .cacheAccess false => [⟨"cache_misses_total", []⟩]
  | .cacheInvalidation scope => [⟨"cache_invalidations_total", [("scope", scope)]⟩]
  | .cacheEviction => [⟨"cache_evictions_total", []⟩]
  | .authAttempt surface success =>
    [⟨"auth_attempts_total",
      [("surface", surface), ("outcome", if success then "success" else "failure")]⟩]
  | .job name status =>
    [⟨"background_jobs_total", [("job_type", name), ("status", status)]⟩,
      ⟨"background_job_duration_seconds_count", [("job_type", name)]⟩]
  | .failure code place => [⟨"errors_total", [("error_type", code), ("module", place)]⟩]

/-- A label value with the characters escaped that the exposition format
reserves. -/
def escapeLabel (value : String) : String :=
  String.ofList (value.toList.flatMap fun c =>
    match c with
    | '\\' => ['\\', '\\']
    | '"' => ['\\', '"']
    | '\n' => ['\\', 'n']
    | c => [c])

/-- The text under which a sample is exposed, with its labels in the order of their
names. -/
def Sample.text (sample : Sample) : String :=
  if sample.labels.isEmpty then sample.name
  else
    let labels := sample.labels.mergeSort fun label other => label.1 ≤ other.1
    let parts := labels.map fun label =>
      label.1 ++ "=\"" ++ escapeLabel label.2 ++ "\""
    sample.name ++ "\x7b" ++ ",".intercalate parts ++ "\x7d"

/-- The value of a sample after events, which may come in any order. -/
def count (events : List Event) (sample : Sample) : Nat :=
  events.countP fun event => event.samples.any sample.isSame

/-- The samples that events raise, each of them once.  The latest event comes
first. -/
def raised (events : List Event) : List Sample :=
  (events.reverse.flatMap Event.samples).eraseDupsBy Sample.isSame

/-- What was counted, with the gauges that are set and not counted. -/
structure Ledger where
  /-- Events, the latest first. -/
  events : List Event
  /-- Directory version as last seen in the store. -/
  directoryVersion : Int
  /-- Requests that were begun and not finished.  One that is dropped stays counted. -/
  activeRequests : Int

/-- The ledger before anything was counted. -/
def Ledger.empty : Ledger := ⟨[], 0, 0⟩

def Ledger.record (ledger : Ledger) (event : Event) : Ledger :=
  { ledger with events := event :: ledger.events }

def Ledger.gauges (ledger : Ledger) : List (Sample × Int) :=
  [(⟨"directory_version", []⟩, ledger.directoryVersion),
    (⟨"http_requests_active", []⟩, ledger.activeRequests)]

def Ledger.samples (ledger : Ledger) : List (Sample × Int) :=
  (raised ledger.events).map (fun sample => (sample, Int.ofNat (count ledger.events sample)))
    ++ ledger.gauges

/-- Samples as they are exposed, one to a line. -/
def expose (samples : List (Sample × Int)) : String :=
  "".intercalate (samples.map fun entry => s!"{entry.1.text} {entry.2}\n")

end Telemetry
end BpnDirectory
