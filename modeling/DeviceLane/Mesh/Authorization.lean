/-
**Who may use a device.**

Operations on a device need a role, a capability and a lease. Leases end by themselves or are revoked,
and a device may be leased again as soon as none of its leases is active. As time does not run backwards,
a lease that has ended stays ended, so that no two leases of a device are active at once.

Main definitions:

* `Authorization.PolicyEngine` — principals and leases, with `grant`, `acquireLease`, `revokeLease` and
  `execute`.

Main results:

* `Authorization.deviceOperations_exclusive` — **operations on a device need its only active lease**.
-/

import DeviceLane.Library.Map
import Mathlib.Data.Finset.Insert

namespace Authorization

/-! ### Operations -/

inductive Role
  | operator
  | observer
deriving DecidableEq, Repr

inductive Operation
  | discoverDevices
  | leaseDevice
  | readLogs
  | startProcess (deviceId : String)
  | stopProcess (deviceId : String)
  | installDevice (deviceId : String)
  | readDeviceLogs (deviceId : String)
  | readArtifact (deviceId : String)
  | attachDebugger (deviceId : String)
  | simulatorLifecycle (deviceId : String)
  | simulatorScreenshot (deviceId : String)
  | simulatorLocation (deviceId : String)
  | simulatorPrivacy (deviceId : String)
  | simulatorMedia (deviceId : String)
  | appleInstall (deviceId : String)
  | appleLaunch (deviceId : String)
  | appleTerminate (deviceId : String)
  | appleUninstall (deviceId : String)
  | appleLogStream (deviceId : String)
  | appleDeviceInfo
  | appleReadReleasedLogs
  | appleDebug (deviceId : String)
deriving DecidableEq, Repr

def Operation.capability : Operation → String
  | .discoverDevices => "device.discover"
  | .leaseDevice => "device.lease"
  | .readLogs => "logs.read"
  | .startProcess _ => "process.start"
  | .stopProcess _ => "process.stop"
  | .installDevice _ => "device.install"
  | .readDeviceLogs _ => "logs.read"
  | .readArtifact _ => "artifact.read"
  | .attachDebugger _ => "debug.attach"
  | .simulatorLifecycle _ => "simulator.lifecycle"
  | .simulatorScreenshot _ => "simulator.screenshot"
  | .simulatorLocation _ => "simulator.location"
  | .simulatorPrivacy _ => "simulator.privacy"
  | .simulatorMedia _ => "simulator.media"
  | .appleInstall _ => "apple.app.install@1"
  | .appleLaunch _ => "apple.app.launch@1"
  | .appleTerminate _ => "apple.app.terminate@1"
  | .appleUninstall _ => "apple.app.uninstall@1"
  | .appleLogStream _ => "apple.app.logs@1"
  | .appleDeviceInfo => "apple.device.info@1"
  | .appleReadReleasedLogs => "apple.app.logs.read@1"
  | .appleDebug _ => "apple.debug@1"

def Operation.deviceId : Operation → Option String
  | .discoverDevices | .leaseDevice | .readLogs | .appleDeviceInfo | .appleReadReleasedLogs => none
  | .startProcess deviceId | .stopProcess deviceId | .installDevice deviceId | .readDeviceLogs deviceId
  | .readArtifact deviceId | .attachDebugger deviceId => some deviceId
  | .simulatorLifecycle deviceId | .simulatorScreenshot deviceId | .simulatorLocation deviceId
  | .simulatorPrivacy deviceId | .simulatorMedia deviceId => some deviceId
  | .appleInstall deviceId | .appleLaunch deviceId | .appleTerminate deviceId | .appleUninstall deviceId
  | .appleLogStream deviceId => some deviceId
  | .appleDebug deviceId => some deviceId

inductive AuthorizationError
  | capabilityDenied
  | deviceAlreadyLeased
  | leaseInactive
  | observerReadOnly
deriving DecidableEq, Repr

/-! ### The engine -/

structure LeaseId where
  value : UInt64
deriving DecidableEq, Repr

structure Lease where
  deviceId : String
  holder : String
  expiresAt : ℕ
  revoked : Bool
deriving DecidableEq

structure Principal where
  role : Role
  capabilities : Finset String

structure PolicyEngine where
  principals : Map String Principal
  leases : Map LeaseId Lease
  nextLeaseId : UInt64

def Lease.isActive (lease : Lease) (now : ℕ) : Bool := !lease.revoked && decide (now < lease.expiresAt)

namespace PolicyEngine

def new : PolicyEngine := ⟨∅, ∅, 1⟩

def grant (engine : PolicyEngine) (actor : String) (role : Role) (capability : String) : PolicyEngine :=
  let capabilities := (engine.principals.lookup actor).elim ∅ Principal.capabilities
  { engine with principals := engine.principals.insert actor ⟨role, insert capability capabilities⟩ }

/-- The call panics, and answers nothing, where the end of the lease is past the latest instant that the
clock can tell. The number of the lease has been used up by then. -/
def acquireLease (engine : PolicyEngine) (latest : ℕ) (deviceId holder : String) (lifetime now : ℕ) :
    Option (Except AuthorizationError LeaseId) × PolicyEngine :=
  if (engine.principals.lookup holder).map Principal.role ≠ some .operator then
    (some (.error .observerReadOnly), engine)
  else if engine.leases.values.any fun lease => decide (lease.deviceId = deviceId) && lease.isActive now then
    (some (.error .deviceAlreadyLeased), engine)
  else
    let id : LeaseId := ⟨engine.nextLeaseId⟩
    let counted := { engine with nextLeaseId := engine.nextLeaseId + 1 }
    if latest < now + lifetime then (none, counted)
    else (some (.ok id),
      { counted with leases := counted.leases.insert id ⟨deviceId, holder, now + lifetime, false⟩ })

def revokeLease (engine : PolicyEngine) (leaseId : LeaseId) : PolicyEngine :=
  match engine.leases.lookup leaseId with
  | some lease => { engine with leases := engine.leases.insert leaseId { lease with revoked := true } }
  | none => engine

/-- The adapter runs exactly where its result is the answer. -/
def execute {T : Type} (engine : PolicyEngine) (actor : String) (operation : Operation)
    (leaseId : Option LeaseId) (now : ℕ) (adapter : Unit → T) : Except AuthorizationError T :=
  match engine.principals.lookup actor with
  | none => .error .capabilityDenied
  | some principal =>
    if operation.capability ∉ principal.capabilities then .error .capabilityDenied
    else if principal.role = .observer ∧ ¬ (operation = .readLogs ∨ operation = .appleReadReleasedLogs) then
      .error .observerReadOnly
    else match operation.deviceId with
      | none => .ok (adapter ())
      | some deviceId =>
        match leaseId with
        | none => .error .leaseInactive
        | some leaseId =>
          let activeForDevice := (engine.leases.lookup leaseId).any fun lease =>
            decide (lease.deviceId = deviceId) && decide (lease.holder = actor) && lease.isActive now
          if activeForDevice then .ok (adapter ()) else .error .leaseInactive

end PolicyEngine

/-! ### Calls -/

/-- The calls that change an engine. -/
inductive Call
  | grant (actor : String) (role : Role) (capability : String)
  | acquireLease (deviceId holder : String) (lifetime : ℕ)
  | revokeLease (leaseId : LeaseId)
deriving DecidableEq

def PolicyEngine.perform (engine : PolicyEngine) (latest : ℕ) : Call → ℕ → PolicyEngine
  | .grant actor role capability, _ => engine.grant actor role capability
  | .acquireLease deviceId holder lifetime, now =>
    (engine.acquireLease latest deviceId holder lifetime now).2
  | .revokeLease leaseId, _ => engine.revokeLease leaseId

/-- An engine after calls at times that do not decrease, the last one at a time. -/
inductive Reachable (latest : ℕ) : ℕ → PolicyEngine → Prop
  | new (now : ℕ) : Reachable latest now .new
  | call {now later : ℕ} {engine : PolicyEngine} (call : Call) (hengine : Reachable latest now engine)
      (hle : now ≤ later) : Reachable latest later (engine.perform latest call later)

/-- A lease of a device is active. -/
structure Active (engine : PolicyEngine) (instant : ℕ) (deviceId : String) (id : LeaseId)
    (lease : Lease) : Prop where
  lookup : engine.leases.lookup id = some lease
  device : lease.deviceId = deviceId
  active : lease.isActive instant = true

def Exclusive (engine : PolicyEngine) (now : ℕ) : Prop :=
  ∀ instant, now ≤ instant → ∀ deviceId id id' lease lease',
    Active engine instant deviceId id lease → Active engine instant deviceId id' lease' → id = id'

section

variable {latest now later instant lifetime : ℕ} {engine : PolicyEngine} {deviceId holder actor : String}
  {id id' leaseId : LeaseId} {lease lease' : Lease} {operation : Operation}

theorem Lease.isActive_of_le (h : lease.isActive later = true) (hle : now ≤ later) :
    lease.isActive now = true := by
  simp only [Lease.isActive, Bool.and_eq_true, Bool.not_eq_true', decide_eq_true_eq] at h ⊢
  exact ⟨h.1, by omega⟩

theorem Exclusive.mono (h : Exclusive engine now) (hle : now ≤ later) : Exclusive engine later :=
  fun instant hinstant => h instant (hle.trans hinstant)

theorem Exclusive.of_fewer {engine' : PolicyEngine} (h : Exclusive engine now)
    (hfewer : ∀ instant deviceId id lease, Active engine' instant deviceId id lease →
      ∃ before, Active engine instant deviceId id before) : Exclusive engine' now := by
  intro instant hle deviceId id id' lease lease' hfirst hsecond
  obtain ⟨before, hbefore⟩ := hfewer instant deviceId id lease hfirst
  obtain ⟨before', hbefore'⟩ := hfewer instant deviceId id' lease' hsecond
  exact h instant hle deviceId id id' before before' hbefore hbefore'

theorem Exclusive.revokeLease (h : Exclusive engine now) (leaseId : LeaseId) :
    Exclusive (engine.revokeLease leaseId) now := by
  refine h.of_fewer fun instant deviceId id lease hactive => ?_
  unfold PolicyEngine.revokeLease at hactive
  split at hactive
  · next found hfound =>
      have hlookup : (Map.insert _ _ _).lookup id = some lease := hactive.lookup
      rw [Map.lookup_insert] at hlookup
      split at hlookup
      · -- the lease that has been revoked is not active
        obtain rfl := Option.some.inj hlookup
        exact absurd hactive.active (by simp [Lease.isActive])
      · exact ⟨lease, hlookup, hactive.device, hactive.active⟩
  · exact ⟨lease, hactive⟩

theorem Exclusive.acquireLease (h : Exclusive engine now) (latest : ℕ) (deviceId holder : String)
    (lifetime : ℕ) : Exclusive (engine.acquireLease latest deviceId holder lifetime now).2 now := by
  unfold PolicyEngine.acquireLease
  split
  · exact h
  · split
    · exact h
    · next hfree =>
        dsimp only
        split
        · exact h.of_fewer fun _ _ _ lease hactive => ⟨lease, hactive.lookup, hactive.device, hactive.active⟩
        · -- an older active lease of the device would have been active at the time of the call
          have hnone : ∀ instant, now ≤ instant → ∀ id lease, engine.leases.lookup id = some lease →
              lease.deviceId = deviceId → lease.isActive instant = true → False := by
            intro instant hle id lease hlookup hdevice hactive
            refine hfree (List.any_eq_true.2 ⟨lease, Map.mem_values.2 ⟨id, hlookup⟩, ?_⟩)
            rw [hdevice, Lease.isActive_of_le hactive hle]
            simp
          intro instant hle other id id' lease lease' hfirst hsecond
          have hlookup : (Map.insert _ _ _).lookup id = some lease := hfirst.lookup
          have hlookup' : (Map.insert _ _ _).lookup id' = some lease' := hsecond.lookup
          rw [Map.lookup_insert] at hlookup hlookup'
          split at hlookup <;> split at hlookup'
          · next hid hid' => rw [hid, hid']
          · obtain rfl := Option.some.inj hlookup
            have hdevice : lease'.deviceId = deviceId := hsecond.device.trans hfirst.device.symm
            exact (hnone instant hle id' lease' hlookup' hdevice hsecond.active).elim
          · obtain rfl := Option.some.inj hlookup'
            have hdevice : lease.deviceId = deviceId := hfirst.device.trans hsecond.device.symm
            exact (hnone instant hle id lease hlookup hdevice hfirst.active).elim
          · exact h instant hle other id id' lease lease' ⟨hlookup, hfirst.device, hfirst.active⟩
              ⟨hlookup', hsecond.device, hsecond.active⟩

/-- **Every call keeps leases exclusive.** -/
theorem Exclusive.perform (h : Exclusive engine now) (latest : ℕ) (call : Call) :
    Exclusive (engine.perform latest call now) now := by
  cases call with
  | grant =>
    refine h.of_fewer fun _ _ _ lease hactive => ?_
    exact ⟨lease, hactive.lookup, hactive.device, hactive.active⟩
  | acquireLease deviceId holder lifetime => exact h.acquireLease latest deviceId holder lifetime
  | revokeLease leaseId => exact h.revokeLease leaseId

theorem Reachable.exclusive (h : Reachable latest now engine) : Exclusive engine now := by
  induction h with
  | new =>
    intro _ _ _ _ _ lease _ hfirst
    cases hfirst.lookup
  | call call _ hle ih => exact (ih.mono hle).perform latest call

/-! ### Operations on a device -/

/-- An actor may use a device: an operator with the capability holds a lease of it that is active. -/
structure Allowed (engine : PolicyEngine) (instant : ℕ) (actor : String) (operation : Operation)
    (deviceId : String) (id : LeaseId) : Prop where
  principal : ∃ principal, engine.principals.lookup actor = some principal ∧ principal.role = .operator ∧
    operation.capability ∈ principal.capabilities
  lease : ∃ lease, Active engine instant deviceId id lease ∧ lease.holder = actor

theorem execute_ok {T : Type} {leaseId : Option LeaseId} {adapter : Unit → T} {result : T}
    (hdevice : operation.deviceId = some deviceId)
    (h : engine.execute actor operation leaseId instant adapter = .ok result) :
    ∃ id, leaseId = some id ∧ Allowed engine instant actor operation deviceId id := by
  unfold PolicyEngine.execute at h
  split at h
  · cases h
  · next principal hprincipal =>
      split at h
      · cases h
      · next hcapability =>
          split at h
          · cases h
          · next hrole =>
              -- the operations that an observer may ask for are not bound to a device
              have hrole : principal.role = .operator := by
                cases hobserver : principal.role with
                | operator => rfl
                | observer =>
                  refine absurd ⟨hobserver, ?_⟩ hrole
                  rintro (rfl | rfl) <;> cases hdevice
              rw [hdevice] at h
              dsimp only at h
              split at h
              · cases h
              · next id =>
                  split at h
                  · next hactive =>
                      obtain ⟨lease, hlookup, hlease⟩ := (Option.any_eq_true _ _).1 hactive
                      simp only [Bool.and_eq_true, decide_eq_true_eq] at hlease
                      exact ⟨id, rfl, ⟨principal, hprincipal, hrole, not_not.1 hcapability⟩, lease,
                        ⟨hlookup, hlease.1.1, hlease.2⟩, hlease.1.2⟩
                  · cases h

/-- **Operations on a device need its only active lease.** -/
theorem deviceOperations_exclusive (h : Reachable latest now engine) (hle : now ≤ instant) :
    (∀ deviceId id id' lease lease', Active engine instant deviceId id lease →
      Active engine instant deviceId id' lease' → id = id') ∧
    (∀ {T : Type} (actor : String) (operation : Operation) (deviceId : String)
      (leaseId : Option LeaseId) (adapter : Unit → T) (result : T),
      operation.deviceId = some deviceId →
        engine.execute actor operation leaseId instant adapter = .ok result →
          ∃ id, leaseId = some id ∧ Allowed engine instant actor operation deviceId id) ∧
    ∀ {T T' : Type} (actor actor' : String) (operation operation' : Operation) (deviceId : String)
      (leaseId leaseId' : Option LeaseId) (adapter : Unit → T) (adapter' : Unit → T') (result : T)
      (result' : T'),
      operation.deviceId = some deviceId → operation'.deviceId = some deviceId →
        engine.execute actor operation leaseId instant adapter = .ok result →
          engine.execute actor' operation' leaseId' instant adapter' = .ok result' → actor = actor' := by
  have hexclusive := h.exclusive instant hle
  refine ⟨hexclusive, fun _ _ _ _ _ _ hdevice hresult => execute_ok hdevice hresult, ?_⟩
  intro T T' actor actor' operation operation' deviceId leaseId leaseId' adapter adapter' result result'
    hdevice hdevice' hresult hresult'
  obtain ⟨id, -, -, lease, hlease, hholder⟩ := execute_ok hdevice hresult
  obtain ⟨id', -, -, lease', hlease', hholder'⟩ := execute_ok hdevice' hresult'
  obtain rfl := hexclusive deviceId id id' lease lease' hlease hlease'
  obtain rfl := Option.some.inj (hlease.lookup.symm.trans hlease'.lookup)
  exact hholder.symm.trans hholder'

/-! ### A lease of a device -/

/-- An operator that has leased a device. -/
def sampleEngine : PolicyEngine :=
  (PolicyEngine.new.perform 100 (.grant "amy" .operator "process.start") 0).perform 100
    (.acquireLease "mac" "amy" 10) 5

theorem reachable_sampleEngine : Reachable 100 5 sampleEngine :=
  .call _ (.call _ (.new 0) (Nat.le_refl 0)) (Nat.zero_le 5)

theorem sampleEngine_exclusive :
    sampleEngine.execute "amy" (.startProcess "mac") (some ⟨1⟩) 7 (fun _ => true) = .ok true ∧
      ∀ id lease, Active sampleEngine 7 "mac" id lease → id = ⟨1⟩ := by
  have hheld : Active sampleEngine 7 "mac" ⟨1⟩ ⟨"mac", "amy", 15, false⟩ := ⟨by decide, rfl, by decide⟩
  refine ⟨by decide, fun id lease hactive => ?_⟩
  exact (deviceOperations_exclusive reachable_sampleEngine (by omega)).1 "mac" id ⟨1⟩ lease _ hactive
    hheld

end

end Authorization
