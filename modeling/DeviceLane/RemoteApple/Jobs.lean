/-
**Jobs of an agent.**

An agent takes requests for Apple jobs, checks them against what the host has, and keeps the events of
every job: numbers from one on, and nothing after the end of the job.

Main definitions:

* `RemoteApple.sameOperation` — two requests ask for the same.

Main results:

* `RemoteApple.Orderly.append` — **events are numbered, and the end comes last**.
-/

import DeviceLane.Registry.Protocol

namespace RemoteApple

open Effect
open Registry (AppleRequest ProtocolError validateRequestEnvelope)

variable {left right : AppleRequest}

/-! ### Requests -/

/-- What a host has, when a request is looked at: what it can do, its devices, and which paths of the
workspace lead to a place inside of it. -/
structure Site where
  capabilities : Finset String
  devices : Finset String
  inside : String → Bool

def validate (site : Site) (request : AppleRequest) : Except ProtocolError Unit := do
  validateRequestEnvelope request
  failIf (request.capability ∉ site.capabilities)
    ⟨"unsupported_capability", "capability is not available"⟩
  failIf (site.inside request.workspacePath = false)
    ⟨"workspace_path_denied", "workspace path is outside the workspace"⟩
  failIf ((∃ deviceId, request.deviceId = some deviceId ∧ deviceId ∉ site.devices) ∨
      request.operation.requiresDevice = true ∧ request.deviceId = none)
    ⟨"unknown_device", "device is not available"⟩

def sampleSite : Site :=
  { capabilities := {"apple.device@1"}
    devices := {"phone"}
    inside := fun _ => true }

def sameOperation (left right : AppleRequest) : Bool :=
  left.version = right.version && left.capability = right.capability &&
    left.workspacePath = right.workspacePath && left.deviceId = right.deviceId &&
    left.leaseId = right.leaseId && left.operation = right.operation

theorem sameOperation_iff : sameOperation left right = true ↔
    left.version = right.version ∧ left.capability = right.capability ∧
      left.workspacePath = right.workspacePath ∧ left.deviceId = right.deviceId ∧
      left.leaseId = right.leaseId ∧ left.operation = right.operation := by
  simp only [sameOperation, Bool.and_eq_true, decide_eq_true_eq, and_assoc]

theorem sameOperation_self (request : AppleRequest) : sameOperation request request = true :=
  sameOperation_iff.2 ⟨rfl, rfl, rfl, rfl, rfl, rfl⟩

theorem sameOperation_symm (h : sameOperation left right = true) :
    sameOperation right left = true := by
  obtain ⟨hversion, hcapability, hpath, hdevice, hlease, hoperation⟩ := sameOperation_iff.1 h
  exact sameOperation_iff.2
    ⟨hversion.symm, hcapability.symm, hpath.symm, hdevice.symm, hlease.symm, hoperation.symm⟩

theorem sameOperation_trans {middle : AppleRequest} (h : sameOperation left middle = true)
    (h' : sameOperation middle right = true) : sameOperation left right = true := by
  obtain ⟨hversion, hcapability, hpath, hdevice, hlease, hoperation⟩ := sameOperation_iff.1 h
  obtain ⟨hversion', hcapability', hpath', hdevice', hlease', hoperation'⟩ := sameOperation_iff.1 h'
  exact sameOperation_iff.2 ⟨hversion.trans hversion', hcapability.trans hcapability',
    hpath.trans hpath', hdevice.trans hdevice', hlease.trans hlease', hoperation.trans hoperation'⟩

def idempotencyConflict (message : String) : ProtocolError := ⟨"idempotency_conflict", message⟩

def Shares (left right : AppleRequest) : Prop :=
  left.requestId = right.requestId ∨ left.idempotencyKey = right.idempotencyKey

/-! ### Events -/

structure ProgressEvent where
  sequence : ℕ
  kind : String
  payload : String
  terminal : Bool
  deriving DecidableEq, Repr

def acceptedEvents : List ProgressEvent :=
  [{ sequence := 1
     kind := "accepted"
     payload := ""
     terminal := false }]

/-- An event of a job; one that comes after the end of the job is dropped. -/
def append (events : List ProgressEvent) (kind payload : String) (terminal : Bool) :
    List ProgressEvent :=
  if events.any fun event => event.terminal then events
  else
    events ++
      [{ sequence := events.length + 1
         kind
         payload
         terminal }]

/-- **The events of a job**: numbered from one on, and only the last one may be the end. -/
structure Orderly (events : List ProgressEvent) : Prop where
  numbered : events.map ProgressEvent.sequence = List.range' 1 events.length
  last : ∀ before event after, events = before ++ event :: after → event.terminal = true → after = []

theorem orderly_acceptedEvents : Orderly acceptedEvents where
  numbered := rfl
  last before event after h hterminal := by
    cases before with
    | nil =>
      rw [acceptedEvents, List.nil_append, List.cons.injEq] at h
      exact h.2.symm
    | cons =>
      rw [acceptedEvents, List.cons_append, List.cons.injEq] at h
      exact absurd h.2.symm (by simp)

variable {events : List ProgressEvent}

/-- **Events are numbered, and the end comes last.** -/
theorem Orderly.append (h : Orderly events) (kind payload : String) (terminal : Bool) :
    Orderly (append events kind payload terminal) := by
  unfold RemoteApple.append
  split
  · exact h
  · rename_i hopen
    refine ⟨?_, fun before event after happend hterminal => ?_⟩
    · rw [List.map_append, h.numbered, List.length_append, List.length_singleton,
        List.range'_concat, Nat.one_mul, Nat.add_comm 1]
      rfl
    · -- what comes before the new event has not ended the job
      rcases List.eq_nil_or_concat after with rfl | ⟨middle, last, rfl⟩
      · rfl
      · exfalso
        have hsplit : events = before ++ event :: middle := by
          rw [List.concat_eq_append, ← List.cons_append, ← List.append_assoc] at happend
          exact (List.append_inj' happend rfl).1
        refine hopen (List.any_eq_true.2 ⟨event, ?_, hterminal⟩)
        rw [hsplit]
        exact List.mem_append_right _ List.mem_cons_self

end RemoteApple
