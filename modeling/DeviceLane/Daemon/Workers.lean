/-
**The workers of the daemon.**

A worker carries out one execution. It acquires a lease of the device, has the job run, and polls for its
events, while the records of the activity follow what it finds. It calls the mesh without the lock of the
daemon, and takes the lock for one change at a time, so that other workers and requests come in between.

Main definitions:

* `Daemon.Stage`, `Daemon.Phase` — where a worker has got to.
-/

import DeviceLane.Daemon.State

namespace Daemon

open Dashboard Effect

/-! ### What a worker knows -/

/-- What has gone on between a worker and the mesh: a call with its answer, a request that is not waited
for, and a job whose end has been recorded. -/
inductive Exchange
  | called (request : Registry.Request) (answer : Except RemoteExecutionFailure Registry.Response)
  | sent (request : Registry.Request)
  | completed (jobId : String)

structure RemoteCleanupGuard where
  leaseId : String
  dispatchedJobId : Option String
  deriving DecidableEq, Repr

namespace RemoteCleanupGuard

def new (leaseId : String) : RemoteCleanupGuard := ⟨leaseId, none⟩

def dispatched (jobId : String) (guard : RemoteCleanupGuard) : RemoteCleanupGuard :=
  { guard with dispatchedJobId := some jobId }

def completed (guard : RemoteCleanupGuard) : RemoteCleanupGuard :=
  { guard with dispatchedJobId := none }

end RemoteCleanupGuard

structure Polling where
  jobId : String
  after : ℕ
  reconnecting : Bool
  lastFailure : RemoteExecutionFailure
  deriving DecidableEq, Repr

inductive Stage
  | granted
  | observing
  | requesting
  | accepted (jobId : String)
  | starting (jobId : String)
  | polling (loop : Polling)
  | stalling (loop : Polling)
  | resuming (loop : Polling) (response : Registry.Response)
  | ending (jobId : String) (state : ActivityState) (message : MessageCode)
  | dropping (result : Except RemoteExecutionFailure Unit)

/-- Where a worker has got to. One that has failed looks at the record of its activity, and goes by what
it has seen. -/
inductive Phase
  | acquiring
  | holding (guard : RemoteCleanupGuard) (stage : Stage)
  | failed (failure : RemoteExecutionFailure)
  | looking (failure : RemoteExecutionFailure)
  | closing (failure : RemoteExecutionFailure) (current : ActivityEvent)
  | concluding (failure : RemoteExecutionFailure) (current : ActivityEvent)
  | leaving
  | done

structure Worker where
  job : RemoteExecutionJob
  phase : Phase
  log : List Exchange

/-- What a step of a worker meets outside: the answer of the mesh, what comes of observing the controller,
whether the time is up, and the clock. -/
structure Outside where
  answer : Except RemoteExecutionFailure Registry.Response
  observed : Except DashboardServiceError Unit
  expired : Bool
  nowMs : ℕ

/-! ### Requests and events -/

def RemoteExecutionJob.appleRun (job : RemoteExecutionJob) (leaseId : String) : Registry.Request :=
  .appleRun
    { version := ⟨1, 0⟩
      requestId := job.requestId
      idempotencyKey := job.requestId
      capability := "apple.simulator@1"
      workspacePath := job.workspacePath
      deviceId := job.activity.deviceId.map ValidatedId.text
      leaseId := some leaseId
      operation := .installApp job.appPath }

def isTerminalKind (event : Registry.NetworkEvent) : Bool :=
  event.kind = "completed" || event.kind = "rejected" || event.kind = "cancelled"

def terminalEvent (events : List Registry.NetworkEvent) : Option Registry.NetworkEvent :=
  events.reverse.find? isTerminalKind

def terminalOutcome (terminal : Registry.NetworkEvent) : ActivityState × MessageCode :=
  if terminal.kind = "completed" then (.succeeded, .operationSucceeded)
  else if terminal.kind = "cancelled" then (.failed, .operationCancelled)
  else (.failed, (classifyRemoteRejection (some terminal.payload)).messageCode)

def acquireFailure (failure : RemoteExecutionFailure) : RemoteExecutionFailure :=
  if failure = .registryDisconnected then .targetOffline else failure

/-! ### Steps without the daemon -/

namespace Worker

/-- A worker that has been told about its job. -/
def new (job : RemoteExecutionJob) : Worker := ⟨job, .acquiring, []⟩

def activityId (w : Worker) : ActivityId := w.job.activity.activityId

def enter (phase : Phase) (w : Worker) : Worker := { w with phase }

def note (exchange : Exchange) (w : Worker) : Worker := { w with log := w.log ++ [exchange] }

def hold (guard : RemoteCleanupGuard) (stage : Stage) (w : Worker) : Worker :=
  w.enter (.holding guard stage)

def drop (guard : RemoteCleanupGuard) (result : Except RemoteExecutionFailure Unit) (w : Worker) :
    Worker :=
  w.hold guard (.dropping result)

def acquire (answer : Except RemoteExecutionFailure Registry.Response) (w : Worker) : Worker :=
  match w.job.activity.deviceId with
  | none => w.enter (.failed .policyDenied)
  | some deviceId =>
    let w := w.note (.called (.lease (.acquire deviceId.text 30000)) answer)
    match answer with
    | .error failure => w.enter (.failed (acquireFailure failure))
    | .ok lease =>
      match lease.leaseGrant with
      | none => w.enter (.failed (classifyRemoteRejection lease.error))
      | some grant => w.hold (.new grant.leaseId) .granted

def request (guard : RemoteCleanupGuard) (answer : Except RemoteExecutionFailure Registry.Response)
    (w : Worker) : Worker :=
  let w := w.note (.called (w.job.appleRun guard.leaseId) answer)
  match answer with
  | .error failure => w.drop guard (.error failure)
  | .ok accepted =>
    if accepted.accepted then
      match accepted.jobId with
      | none => w.drop guard (.error .agentIncompatible)
      | some jobId => w.hold (guard.dispatched jobId) (.accepted jobId)
    else if accepted.error.isNone then
      w.drop guard (.error .agentIncompatible)
    else
      w.drop guard (.error (classifyRemoteRejection accepted.error))

def read (guard : RemoteCleanupGuard) (loop : Polling) (response : Registry.Response) (w : Worker) :
    Worker :=
  match terminalEvent response.events with
  | some terminal =>
    w.hold guard (.ending loop.jobId (terminalOutcome terminal).1 (terminalOutcome terminal).2)
  | none =>
    w.hold guard <| .polling
      { loop with
        after := (response.events.map Registry.NetworkEvent.sequence).foldl max loop.after
        reconnecting := false }

/-- One round of the loop. A poll that is cut short by the cancel token is not kept. -/
def poll (guard : RemoteCleanupGuard) (loop : Polling) (cancelled : Bool) (o : Outside) (w : Worker) :
    Worker :=
  if o.expired then
    w.drop guard (.error loop.lastFailure)
  else if cancelled then
    w.drop guard (.error .cancelled)
  else
    let w := w.note (.called (.events loop.jobId loop.after) o.answer)
    match o.answer with
    | .ok response =>
      if response.accepted = false then
        w.drop guard (.error (classifyRemoteRejection response.error))
      else if loop.reconnecting then
        w.hold guard (.resuming loop response)
      else
        w.read guard loop response
    | .error failure =>
      if failure = .cancelled then
        w.drop guard (.error .cancelled)
      else if loop.reconnecting then
        w.hold guard (.polling { loop with lastFailure := failure })
      else
        w.hold guard (.stalling { loop with lastFailure := failure })

/-- A job whose end has not been recorded is cancelled, and the lease is released. -/
def cleanUp (guard : RemoteCleanupGuard) (result : Except RemoteExecutionFailure Unit) (w : Worker) :
    Worker :=
  let w :=
    match guard.dispatchedJobId with
    | none => w
    | some jobId => w.note (.sent (.appleCancel jobId))
  let w := w.note (.sent (.lease (.release guard.leaseId)))
  match result with
  | .ok _ => w.enter .leaving
  | .error failure => w.enter (.failed failure)

end Worker

/-! ### Steps -/

variable [Sha256]

def transitionExecution (activityId : ActivityId) (state : ActivityState) (message : MessageCode)
    (nowMs : ℕ) : DaemonEff Unit := do
  let _ ← DaemonState.onDashboard
    (DashboardService.transitionActivity activityId state unavailableMetrics (some ⟨message, []⟩) nowMs)
  pure ()

def recordAuditUnavailable (activityId : ActivityId) (nowMs : ℕ) : DaemonEff Unit := do
  let _ ← DaemonState.onDashboard
    (DashboardService.recordAuditUnavailableTerminal activityId unavailableMetrics nowMs)
  pure ()

namespace Worker

def observe (guard : RemoteCleanupGuard) (state : ActivityState) (message : MessageCode) (nowMs : ℕ)
    (onward : Worker → Worker) (d : DaemonState) (w : Worker) : DaemonState × Worker :=
  match (transitionExecution w.activityId state message nowMs).exec d with
  | (.ok _, d) => (d, onward w)
  | (.error fault, d) => (d, w.drop guard (.error (mapTransitionFailure fault)))

def stepHolding (guard : RemoteCleanupGuard) (o : Outside) (d : DaemonState) (w : Worker) :
    Stage → DaemonState × Worker
  | .granted =>
    (d, if w.job.cancelled ∈ d.raised then w.drop guard (.error .cancelled)
      else w.hold guard .observing)
  | .observing =>
    (d, if w.job.generation ≠ d.remoteExecutionGeneration then w.hold guard .requesting
      else
        match o.observed with
        | .ok _ => w.hold guard .requesting
        | .error error =>
          w.drop guard (.error (mapTransitionFailure (.returned (mapDashboardError error)))))
  | .requesting => (d, w.request guard o.answer)
  | .accepted jobId =>
    (d, if w.job.cancelled ∈ d.raised then w.drop guard (.error .cancelled)
      else w.hold guard (.starting jobId))
  | .starting jobId =>
    w.observe guard .running .activityStarted o.nowMs
      (hold guard (.polling ⟨jobId, 0, false, .registryDisconnected⟩)) d
  | .polling loop => (d, w.poll guard loop (w.job.cancelled ∈ d.raised) o)
  | .stalling loop =>
    w.observe guard .reconnecting .registryStale o.nowMs
      (hold guard (.polling { loop with reconnecting := true })) d
  | .resuming loop response =>
    w.observe guard .running .activityStarted o.nowMs (read guard loop response) d
  | .ending jobId state message =>
    w.observe guard state message o.nowMs
      (fun w => (w.note (.completed jobId)).drop guard.completed (.ok ())) d
  | .dropping result => (d, w.cleanUp guard result)

/-- What a worker does next. The steps of a failed one are one after the other under the lock of their
own, and go on whether their change is refused or not. -/
def step (o : Outside) (d : DaemonState) (w : Worker) : DaemonState × Worker :=
  match w.phase with
  | .acquiring => (d, w.acquire o.answer)
  | .holding guard stage => w.stepHolding guard o d stage
  | .failed failure =>
    if failure = .auditUnavailable then
      (((recordAuditUnavailable w.activityId o.nowMs).exec d).2, w.enter (.looking failure))
    else
      (d, w.enter (.looking failure))
  | .looking failure =>
    match d.dashboard.activities.lookup w.activityId with
    | none => (d, w.enter .leaving)
    | some current => (d, w.enter (.closing failure current))
  | .closing failure current =>
    if current.state = .queued then
      (((transitionExecution w.activityId .reconnecting failure.messageCode o.nowMs).exec d).2,
        w.enter (.concluding failure current))
    else
      (d, w.enter (.concluding failure current))
  | .concluding failure current =>
    if current.state.isTerminal then
      (d, w.enter .leaving)
    else
      (((transitionExecution w.activityId .failed failure.messageCode o.nowMs).exec d).2,
        w.enter .leaving)
  | .leaving =>
    ({ d with inflightExecutions := d.inflightExecutions.erase w.activityId }, w.enter .done)
  | .done => (d, w)

end Worker

end Daemon
