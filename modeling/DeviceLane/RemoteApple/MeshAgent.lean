/-
**The mesh agent.**

An agent asks the registry for jobs with heartbeats, one after the other. It starts an Apple job that it
does not have: first it tells the registry, again and again until it is told that the registry knows, or
until it gives up; then a thread of its own looks at the grant and at the host, runs the tool, and reports
the end until the registry has taken it. Only then the agent forgets the job.

Every message of the agent goes over a connection of its own. Messages get lost, answers get lost, and
the registry may come to a message late, when the agent does not wait for the answer any more.

Main definitions:

* `RemoteApple.World` — the registry, the agent, and what is on its way between them.
-/

import DeviceLane.Registry.Handle
import DeviceLane.RemoteApple.Jobs

namespace RemoteApple

open Registry

/-! ### The agent -/

inductive Stage
  | starting
  | prepared (acknowledged : Bool)
  | executing
  | reporting (events : List NetworkEvent)
  deriving DecidableEq

structure Flow where
  operation : AppleRequest
  grant : Option LeaseGrant
  cancelled : Bool
  stage : Stage

structure Agent where
  running : Map String Flow
  starting : Option String

/-- What an agent is started with: its name and its host, whether it has a tool, and how it checks the
signatures of the registry. -/
structure AgentConfig where
  peerId : String
  hostId : String
  tool : Bool
  verify : List UInt8 → List UInt8 → Bool

structure Report where
  jobId : String
  events : List NetworkEvent
  terminal : Bool
  deriving DecidableEq

def startReport (jobId : String) : Report :=
  { jobId
    events := [{ sequence := 1, kind := "started", payload := "" }]
    terminal := false }

def endReport (jobId : String) (events : List NetworkEvent) : Report :=
  { jobId
    events
    terminal := true }

def Stage.report (jobId : String) : Stage → Option Report
  | .starting => some (startReport jobId)
  | .reporting events => some (endReport jobId events)
  | _ => none

def validateLeaseGrant (config : AgentConfig) (operation : AppleRequest) (jobId : String)
    (grant : Option LeaseGrant) : Except String Unit :=
  if operation.operation.mutatesDevice = false then .ok ()
  else
    match grant with
    | none => .error "lease_grant_missing"
    | some grant =>
      if grant.jobId ≠ jobId then .error "lease_grant_job_mismatch"
      else if operation.deviceId ≠ some grant.deviceId then .error "lease_grant_device_mismatch"
      else if operation.leaseId ≠ some grant.leaseId then .error "lease_grant_id_mismatch"
      else if config.verify grant.signedPayload grant.signature then .ok ()
      else .error "lease_grant_signature_invalid"

theorem validateLeaseGrant_of_matches {config : AgentConfig} {operation : AppleRequest} {jobId : String}
    {grant : LeaseGrant} (hjob : grant.jobId = jobId) (hdevice : operation.deviceId = some grant.deviceId)
    (hlease : operation.leaseId = some grant.leaseId)
    (hverify : config.verify grant.signedPayload grant.signature = true) :
    validateLeaseGrant config operation jobId (some grant) = .ok () := by
  unfold validateLeaseGrant
  dsimp only
  rw [if_neg (not_not.2 hjob), if_neg (not_not.2 hdevice), if_neg (not_not.2 hlease), if_pos hverify,
    ite_self]

def jobTerminalEvent (sequence : ℕ) (cancelled toolSucceeded : Bool)
    (artifactId rejectionCode : Option String) : NetworkEvent :=
  if cancelled then
    { sequence, kind := "cancelled", payload := "cancelled" }
  else if toolSucceeded then
    match artifactId.filter fun id => id ≠ "" with
    | some id => { sequence, kind := "completed", payload := id }
    | none => { sequence, kind := "rejected", payload := "artifact_publish_failed" }
  else
    { sequence, kind := "rejected", payload := rejectionCode.getD "tool_failed" }

namespace Agent

def empty : Agent := ⟨∅, none⟩

def setStage (agent : Agent) (jobId : String) (flow : Flow) (stage : Stage) : Agent :=
  { agent with running := agent.running.insert jobId { flow with stage } }

def cancelJobs (agent : Agent) (jobIds : Finset String) : Agent :=
  { agent with
    running := agent.running.mapValues fun jobId flow =>
      { flow with cancelled := flow.cancelled || decide (jobId ∈ jobIds) } }

/-- A job is started: the loop of the agent sends the first report. -/
def start (agent : Agent) (jobId : String) (operation : AppleRequest) (grant : Option LeaseGrant) :
    Agent :=
  { running := agent.running.insert jobId
      { operation
        grant
        cancelled := false
        stage := .starting }
    starting := some jobId }

/-- **The answer to a heartbeat**: some jobs are to be cancelled, and there may be a job that is new. -/
def receive (config : AgentConfig) (answer : Response) (agent : Agent) : Agent :=
  let told := agent.cancelJobs answer.cancelJobs
  match answer.jobId, answer.appleOperation with
  | some jobId, some operation =>
    if config.tool = true ∧ (told.running.lookup jobId).isNone then
      told.start jobId operation answer.leaseGrant
    else
      told
  | _, _ => told

/-- **A report has been accepted**: the job goes on, or the agent forgets it. -/
def acknowledge (agent : Agent) (report : Report) : Agent :=
  match agent.running.lookup report.jobId with
  | none => agent
  | some flow =>
    if flow.stage.report report.jobId = some report then
      match flow.stage with
      | .starting =>
        { agent.setStage report.jobId flow (.prepared true) with starting := none }
      | _ => { agent with running := agent.running.erase report.jobId }
    else
      agent

def hear (agent : Agent) (read : Bool) (report : Report) (answer : Option Response) : Agent :=
  if read = true ∧ answer.any (fun answer => answer.accepted) = true then agent.acknowledge report
  else agent

end Agent

/-! ### Agent and registry -/

/-- **The registry and an agent**, with the answers to the heartbeats of the agent, the reports that it
has sent, the report of the thread that keeps the state of the registry, and the jobs whose tool has been
run. -/
structure World where
  registry : Runtime
  agent : Agent
  offers : List Response
  sent : List Report
  held : Option Report
  executed : List String

def World.empty : World :=
  { registry := Runtime.empty
    agent := Agent.empty
    offers := []
    sent := []
    held := none
    executed := [] }

/-- What happens next. The registry gets an input; it comes to a report of the agent, or to the end of
one, and the agent may read the answer; the agent gets an answer to one of its heartbeats, gives up the
start of a job, runs the tool of a job, or has its result. -/
inductive Move
  | registry (input : Input)
  | report (env : Env) (report : Report) (read : Bool)
  | settle (env : Env) (read : Bool)
  | receive (answer : Response)
  | giveUp (jobId : String)
  | execute (jobId : String) (site : Site) (ready : Bool)
  | conclude (jobId : String) (output : List NetworkEvent) (succeeded : Bool)
      (artifactId rejectionCode : Option String)

def reportsAs (config : AgentConfig) : Input → Bool
  | .event _ (.request peerId (.appleProgress _ _ _)) => decide (peerId = config.peerId)
  | _ => false

section

variable [Sha256]

def offered (config : Config) (agentConfig : AgentConfig) (runtime : Runtime) : Input → List Response
  | .event env (.resume (.online hostId)) =>
    if hostId = agentConfig.hostId then
      ((handle config env (.resume (.online hostId)) runtime).2).toList
    else
      []
  | _ => []

namespace World

def stillHeld (world : World) (after : Runtime) : Option Report :=
  if after.holder.isSome then world.held else none

/-- The registry gets an input that is no report of the agent. -/
def input (config : Config) (agentConfig : AgentConfig) (input : Input) (world : World) : World :=
  let after := world.registry.next config input
  { world with
    registry := after
    offers := world.offers ++ offered config agentConfig world.registry input
    held :=
      match input with
      | .event _ _ => world.stillHeld after
      | .start _ _ _ _ => none }

def report (config : Config) (agentConfig : AgentConfig) (env : Env) (report : Report) (read : Bool)
    (world : World) : World :=
  let result := handle config env
    (.request agentConfig.peerId (.appleProgress report.jobId report.events report.terminal))
    world.registry
  { world with
    registry := result.1
    held :=
      if world.registry.holder = none ∧ result.1.holder.isSome then some report
      else world.stillHeld result.1
    agent := world.agent.hear read report result.2 }

def settle (config : Config) (env : Env) (read : Bool) (world : World) : World :=
  let result := handle config env .settle world.registry
  { world with
    registry := result.1
    held := world.stillHeld result.1
    agent := world.held.elim world.agent fun report => world.agent.hear read report result.2 }

def receive (config : AgentConfig) (answer : Response) (world : World) : World :=
  let agent := world.agent.receive config answer
  { world with
    agent
    sent := world.sent ++ (agent.starting.map startReport).toList }

def giveUp (jobId : String) (world : World) : World :=
  match world.agent.running.lookup jobId with
  | none => world
  | some flow =>
    if flow.stage = .starting then
      { world with
        agent := { world.agent.setStage jobId flow (.prepared false) with starting := none } }
    else
      world

/-- **The tool of a job is run**: the registry knows of the job, and the grant, the request and the host
are as they should be. -/
def execute (config : AgentConfig) (jobId : String) (site : Site) (ready : Bool) (world : World) :
    World :=
  match world.agent.running.lookup jobId with
  | none => world
  | some flow =>
    if flow.stage = .prepared true ∧
        (validateLeaseGrant config flow.operation jobId flow.grant).isOk = true ∧
        (validate site flow.operation).isOk = true ∧ ready = true then
      { world with
        agent := world.agent.setStage jobId flow .executing
        executed := world.executed ++ [jobId] }
    else
      world

def reportEnd (jobId : String) (flow : Flow) (events : List NetworkEvent) (world : World) : World :=
  { world with
    agent := world.agent.setStage jobId flow (.reporting events)
    sent := world.sent ++ [endReport jobId events] }

/-- The result of a job: what the tool has said, or why it has not been run. -/
def conclude (jobId : String) (output : List NetworkEvent) (succeeded : Bool)
    (artifactId rejectionCode : Option String) (world : World) : World :=
  match world.agent.running.lookup jobId with
  | none => world
  | some flow =>
    match flow.stage with
    | .prepared _ =>
      world.reportEnd jobId flow [jobTerminalEvent 2 flow.cancelled false none rejectionCode]
    | .executing =>
      world.reportEnd jobId flow
        (output ++ [jobTerminalEvent (output.length + 2) flow.cancelled succeeded artifactId
          rejectionCode])
    | _ => world

/-- **What may happen next**; where a move is not possible, nothing happens. -/
def next (config : Config) (agentConfig : AgentConfig) (world : World) : Move → World
  | .registry input =>
    if reportsAs agentConfig input then world else world.input config agentConfig input
  | .report env report read =>
    if report ∈ world.sent then world.report config agentConfig env report read else world
  | .settle env read => world.settle config env read
  | .receive answer =>
    if answer ∈ world.offers ∧ world.agent.starting = none then world.receive agentConfig answer
    else world
  | .giveUp jobId => world.giveUp jobId
  | .execute jobId site ready => world.execute agentConfig jobId site ready
  | .conclude jobId output succeeded artifactId rejectionCode =>
    world.conclude jobId output succeeded artifactId rejectionCode

def runMoves (config : Config) (agentConfig : AgentConfig) (moves : List Move) (world : World) : World :=
  moves.foldl (next config agentConfig) world

end World

end

end RemoteApple
