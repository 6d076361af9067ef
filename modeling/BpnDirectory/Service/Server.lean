import BpnDirectory.Access.Gate
import BpnDirectory.Resolver.Node
import BpnDirectory.Schedule.Heartbeat
import BpnDirectory.Schedule.Timetable
import BpnDirectory.Settings.Basic
import BpnDirectory.Store.Backend

namespace BpnDirectory
namespace Service

/-!
The state of the service.

What the service was set up with stays as it is while the service runs.  What
changes is the state of its node, the heartbeats of its background jobs and the
timers that set them off.
-/

open Resolver (Node)
open Schedule (Heartbeats Timetable)
open Store (Backend)

/-- What does not change while the service runs. -/
structure Setup where
  settings : Settings
  gate : Access.Gate

def Setup.policy (setup : Setup) : Resolver.Policy := setup.settings.policy

/-- The jobs that the service does in the background. -/
inductive Job where
  | directoryPoll
  | reconcile
  | healthCheck
  deriving DecidableEq, Repr

def Job.name : Job → String
  | .directoryPoll => "directory_poll"
  | .reconcile => "reconcile"
  | .healthCheck => "health_check"

structure Server where
  node : Node Backend
  beats : Heartbeats
  timetable : Timetable Job

namespace Server

variable {α : Type}

def withNode (server : Server) (node : Node Backend) : Server :=
  { server with node }

/-- A program of the node as a program of the server. -/
def onNode (program : Program (Node Backend) α) : Program Server α :=
  program.within Server.node withNode

def record (event : Telemetry.Event) : Program Server Unit :=
  onNode (Program.change (Node.record event))

/-- Adds to the number of requests that are under way. -/
def countActive (change : Int) (server : Server) : Server :=
  let ledger := server.node.ledger
  let ledger := { ledger with activeRequests := ledger.activeRequests + change }
  server.withNode { server.node with ledger }

def beat (name : String) (succeeded : Bool) (server : Server) : Server :=
  { server with beats := server.beats.record server.node.ticks name succeeded }

/-- Starts to track a job, if the clock can show when its first run is due. -/
def track? (name : String) (period delay : Time.Span) (server : Server) : Option Server := do
  let beats ← server.beats.register? server.node.ticks name period delay
  return { server with beats }

/-- The states of the jobs at present, if they can be told. -/
def jobStatus? (server : Server) : Option (List Schedule.JobStatus) :=
  server.beats.status? server.node.ticks

end Server
end Service
end BpnDirectory
