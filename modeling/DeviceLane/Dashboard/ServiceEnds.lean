/-
**Bringing activities to an end.**

An activity ends by an observation, by a cancellation, by a pause that cancels all activities, or by
a restart. Each of these writes a closing for every record it ends, and succeeds where these are
clear of what stands in the journal and of the bounds of the checkpoint. A closing need not be clear:
its key may be too long, or taken, and the clock may have been set back.

Main definitions:

* `Dashboard.DashboardService.CanEnd` — every activity can be brought to an end.

Main results:

* `canEnd_of_clear` — **in every state without obstacles every activity can be brought to an end**.
-/

import DeviceLane.Dashboard.ServiceClosings

namespace Dashboard

open Effect

variable [Sha256]

namespace DashboardService

variable {nowMs n : ℕ} {s s' : DashboardService} {closings : List Closing} {ids : List ActivityId}
  {id : ActivityId} {operation : OperationId} {event : ActivityEvent}

/-! ### Observations -/

omit [Sha256] in
theorem validTransition_self (state : ActivityState) : validTransition state state = false := by
  cases state <;> rfl

theorem transitionActivity_ok {current : ActivityEvent} {state : ActivityState}
    {metrics : MetricSnapshot} {message : Option DisplayMessage}
    (hlookup : s.activities.lookup current.activityId = some current)
    (hvalid : validTransition current.state state = true)
    (hfollows : (Closing.observing current state metrics message nowMs).Follows)
    (hclear : Clear s [.observing current state metrics message nowMs]) (hstores : s.Stores)
    (hworks : ((transitionActivity current.activityId state metrics message nowMs).exec s).2.AuditWorks) :
    ((transitionActivity current.activityId state metrics message nowMs).exec s).1 = .ok true := by
  have hbefore := fullFrame_auditWorked.transitionActivity _ _ _ _ _ s hworks
  have hnext := hbefore.next_lt
  have hstate : current.state ≠ state := by
    intro hsame
    rw [hsame, validTransition_self] at hvalid
    cases hvalid
  have hsequence : checkedAdd current.sequence 1 = some (current.sequence + 1) :=
    if_pos (Nat.le_of_lt hfollows.sequence_lt)
  have hchecked : (current.observed (current.sequence + 1) state metrics message nowMs).validate
      = .ok () := (toVec_isOk_iff.1 hfollows.serializes).1
  rw [transitionActivity, exec_bind_ok (exec_get s), hlookup, exec_okOr_some_bind, exec_ite,
    if_neg hstate, exec_throwIf_bind, if_neg (by simp [hvalid]), hsequence,
    exec_okOr_some_bind] at hworks ⊢
  dsimp only at hworks ⊢
  rw [exec_throwIf_bind, if_neg (not_not_intro hchecked)] at hworks ⊢
  cases hresult : state.auditResult with
  | none =>
    simp only [hresult] at hworks ⊢
    obtain ⟨s', hrecorded, -⟩ := hclear.recordActivity hfollows hstores (by omega)
    exact congrArg Prod.fst (exec_bind_ok hrecorded)
  | some =>
    simp only [hresult] at hworks ⊢
    obtain ⟨_, haudited, hexec⟩ := (audits_auditAccessFromEvent _ _ _ _).bind hworks
    have hadvanced := Advanced.of_audited haudited
    have hdistinct : Distinct [Closing.observing current state metrics message nowMs] :=
      List.pairwise_singleton _ _
    obtain ⟨s', hrecorded, -⟩ := (Clear.of_advanced hadvanced hclear hdistinct).recordActivity hfollows
      (hadvanced.stores hstores) (by rw [hadvanced.nextAuditSequence]; omega)
    rw [hexec]
    exact congrArg Prod.fst (exec_bind_ok hrecorded)

/-! ### Cancellations -/

theorem cancelActivityInner_ok {current : ActivityEvent}
    (hlookup : s.activities.lookup current.activityId = some current)
    (hactive : current.state.isTerminal = false)
    (hfollows : (Closing.cancelling nowMs current).Follows)
    (hclear : Clear s (.cancelling nowMs current :: closings))
    (hdistinct : Distinct (.cancelling nowMs current :: closings)) (hstores : s.Stores)
    (hworks : ((cancelActivityInner current.activityId nowMs).exec s).2.AuditWorks) :
    ∃ s', (cancelActivityInner current.activityId nowMs).exec s = (.ok true, s') ∧
      Advanced s [.cancelling nowMs current] 2 s' := by
  have hnext := (fullFrame_auditWorked.cancelActivityInner _ _ s hworks).next_lt
  rw [cancelActivityInner, exec_bind_ok (exec_get s)] at hworks ⊢
  simp only [hlookup] at hworks ⊢
  rw [exec_ite, if_neg (by simp [hactive])] at hworks ⊢
  have hattempted : Audits (auditAccessFromEvent current .attempted nowMs) :=
    audits_auditAccessFromEvent _ _ none _
  obtain ⟨s₁, haudited, hexec⟩ := hattempted.bind hworks
  rw [hexec] at hworks ⊢
  have hfirst := Advanced.of_audited haudited
  obtain ⟨_, hrecorded, hsecond⟩ := (Clear.of_advanced hfirst hclear hdistinct).recordActivity hfollows
    (hfirst.stores hstores) (by rw [hfirst.nextAuditSequence]; omega)
  change (recordActivity (current.cancelled nowMs) ("cancel:" ++ current.activityId.text)).exec s₁ = _
    at hrecorded
  rw [exec_bind_ok (exec_attempt_of hrecorded)] at hworks ⊢
  obtain ⟨s₃, haudited, hexec⟩ := (audits_auditAccessFromEvent _ _ _ _).bind hworks
  exact ⟨s₃, hexec, (hfirst.trans hsecond).trans (.of_audited haudited)⟩

omit [Sha256] in
theorem distinct_of_nodup (hnodup : (closings.map fun c => c.current.activityId).Nodup)
    (hkeys : ∀ c ∈ closings, ∀ d ∈ closings, c.idempotencyKey = d.idempotencyKey →
      c.current.activityId = d.current.activityId) : Distinct closings := by
  refine List.Pairwise.imp_of_mem (fun {c d} hc hd hne => ?_) (List.pairwise_map.1 hnodup)
  exact ⟨hne, fun hsame => hne (hkeys c hc d hd hsame)⟩

def cancellings (activities : Map ActivityId ActivityEvent) (nowMs : ℕ) (ids : List ActivityId) :
    List Closing :=
  ((ids.filterMap activities.lookup).filter fun current => !current.state.isTerminal).map
    (Closing.cancelling nowMs)

section Cancellings

variable {activities : Map ActivityId ActivityEvent} {nowMs : ℕ} {id : ActivityId}
  {ids : List ActivityId}

section

omit [Sha256]

theorem cancellings_cons_of_none (h : activities.lookup id = none) :
    cancellings activities nowMs (id :: ids) = cancellings activities nowMs ids := by
  rw [cancellings, List.filterMap_cons_none h]
  rfl

theorem cancellings_cons_of_terminal {current : ActivityEvent}
    (h : activities.lookup id = some current) (hterminal : current.state.isTerminal = true) :
    cancellings activities nowMs (id :: ids) = cancellings activities nowMs ids := by
  rw [cancellings, List.filterMap_cons_some h, List.filter_cons_of_neg (by simp [hterminal])]
  rfl

theorem cancellings_cons_of_active {current : ActivityEvent}
    (h : activities.lookup id = some current) (hactive : current.state.isTerminal = false) :
    cancellings activities nowMs (id :: ids) =
      .cancelling nowMs current :: cancellings activities nowMs ids := by
  rw [cancellings, List.filterMap_cons_some h, List.filter_cons_of_pos (by simp [hactive])]
  rfl

theorem cancellings_congr {activities' : Map ActivityId ActivityEvent}
    (h : ∀ id ∈ ids, activities'.lookup id = activities.lookup id) :
    cancellings activities' nowMs ids = cancellings activities nowMs ids := by
  rw [cancellings, List.filterMap_congr h]
  rfl

theorem mem_cancellings {c : Closing} (h : c ∈ cancellings activities nowMs ids) :
    c = .cancelling nowMs c.current ∧ c.current.state.isTerminal = false ∧
      ∃ id ∈ ids, activities.lookup id = some c.current := by
  obtain ⟨_, hmem, rfl⟩ := List.mem_map.1 h
  obtain ⟨hmem, hactive⟩ := List.mem_filter.1 hmem
  rw [Bool.not_eq_true'] at hactive
  exact ⟨rfl, hactive, List.mem_filterMap.1 hmem⟩

theorem sublist_cancellings
    (h : ∀ id ∈ ids, ∀ current, activities.lookup id = some current → current.activityId = id) :
    ((cancellings activities nowMs ids).map fun c => c.current.activityId).Sublist ids := by
  induction ids with
  | nil => exact List.Sublist.refl _
  | cons id ids ih =>
    have hrest := ih (List.forall_mem_cons.1 h).2
    cases hlookup : activities.lookup id with
    | none =>
      rw [cancellings_cons_of_none hlookup]
      exact hrest.cons id
    | some current =>
      by_cases hterminal : current.state.isTerminal = true
      · rw [cancellings_cons_of_terminal hlookup hterminal]
        exact hrest.cons id
      · rw [cancellings_cons_of_active hlookup (Bool.eq_false_iff.2 hterminal), List.map_cons]
        change (current.activityId :: _).Sublist _
        rw [h id List.mem_cons_self current hlookup]
        exact hrest.cons_cons id

theorem distinct_cancellings (hnodup : ids.Nodup)
    (h : ∀ id ∈ ids, ∀ current, activities.lookup id = some current → current.activityId = id) :
    Distinct (cancellings activities nowMs ids) := by
  refine distinct_of_nodup ((sublist_cancellings h).nodup hnodup) fun c hc d hd hsame => ?_
  rw [(mem_cancellings hc).1, (mem_cancellings hd).1] at hsame
  exact ValidatedId.ext ((String.append_right_inj "cancel:").1 hsame)

end

end Cancellings

structure Continues (id : ActivityId) (current : ActivityEvent) : Prop where
  activityId : current.activityId = id
  serializes : current.toVec.isOk = true
  sequence_lt : current.sequence + 1 < u64Max

/-- **The loop of a pause** cancels the activities if their closings are clear. -/
theorem cancelAll_ok (hnodup : ids.Nodup)
    (hcontinues : ∀ id ∈ ids, ∀ current, s.activities.lookup id = some current → Continues id current)
    (hclear : Clear s (cancellings s.activities nowMs ids)) (hstores : s.Stores)
    (hworks : ((cancelAll nowMs ids).exec s).2.AuditWorks) :
    ∃ s', (cancelAll nowMs ids).exec s = (.ok (), s') ∧
      Advanced s (cancellings s.activities nowMs ids)
        (2 * (cancellings s.activities nowMs ids).length) s' := by
  induction ids generalizing s with
  | nil => exact ⟨s, rfl, .refl s⟩
  | cons id ids ih =>
    have hrest : ∀ id ∈ ids, ∀ current, s.activities.lookup id = some current →
        Continues id current := (List.forall_mem_cons.1 hcontinues).2
    rw [cancelAll] at hworks ⊢
    cases hlookup : s.activities.lookup id with
    | none =>
      have hexec : (cancelActivityInner id nowMs).exec s = (.ok false, s) := by
        rw [cancelActivityInner, exec_bind_ok (exec_get s), hlookup]
        rfl
      rw [exec_bind_ok hexec] at hworks ⊢
      rw [cancellings_cons_of_none hlookup] at hclear ⊢
      exact ih hnodup.of_cons hrest hclear hstores hworks
    | some current =>
      obtain ⟨rfl, hserializes, hlt⟩ := hcontinues id List.mem_cons_self current hlookup
      by_cases hterminal : current.state.isTerminal = true
      · have hexec : (cancelActivityInner current.activityId nowMs).exec s = (.ok false, s) := by
          rw [cancelActivityInner, exec_bind_ok (exec_get s), hlookup]
          simp only [hterminal, if_true]
          rfl
        rw [exec_bind_ok hexec] at hworks ⊢
        rw [cancellings_cons_of_terminal hlookup hterminal] at hclear ⊢
        exact ih hnodup.of_cons hrest hclear hstores hworks
      · have hactive := Bool.eq_false_iff.2 hterminal
        have hdistinct : Distinct (cancellings s.activities nowMs (current.activityId :: ids)) :=
          distinct_cancellings hnodup fun id hmem other hother =>
            (hcontinues id hmem other hother).activityId
        rw [cancellings_cons_of_active hlookup hactive] at hclear hdistinct ⊢
        have hfollows : (Closing.cancelling nowMs current).Follows :=
          Closing.follows_cancelling hserializes hlt (hclear.passes _ List.mem_cons_self).started_le
        have hfirst := auditWorks_of_bind
          (fun _ => fullFrame_auditWorked.toWrites.cancelAll nowMs ids) hworks
        obtain ⟨s₁, hexec, hadvanced⟩ :=
          cancelActivityInner_ok hlookup hactive hfollows hclear hdistinct hstores hfirst
        rw [exec_bind_ok hexec] at hworks ⊢
        -- The other activities are as they were.
        have hsame : ∀ id ∈ ids, s₁.activities.lookup id = s.activities.lookup id := by
          intro id hmem
          rw [hadvanced.activities]
          refine Map.lookup_insert_ne ?_ _
          rintro rfl
          exact (List.nodup_cons.1 hnodup).1 hmem
        have hcancellings : cancellings s₁.activities nowMs ids = cancellings s.activities nowMs ids :=
          cancellings_congr hsame
        obtain ⟨s', hexec', hadvanced'⟩ := ih hnodup.of_cons
          (fun id hmem other hother => hrest id hmem other (by rwa [hsame id hmem] at hother))
          (by rw [hcancellings]; exact .of_advanced hadvanced hclear hdistinct)
          (hadvanced.stores hstores) hworks
        rw [hcancellings] at hadvanced'
        refine ⟨s', hexec', ?_⟩
        have hboth := hadvanced.trans hadvanced'
        rw [List.length_cons, Nat.mul_add, Nat.add_comm (2 * _)]
        exact hboth

/-! ### Restarts -/

section

omit [Sha256]

theorem append_colon_inj {xs ys ds es : List Char} (hds : ':' ∉ ds) (hes : ':' ∉ es)
    (h : xs ++ ':' :: ds = ys ++ ':' :: es) : xs = ys := by
  rcases List.append_eq_append_iff.1 h with ⟨zs, rfl, hrest⟩ | ⟨zs, rfl, hrest⟩
  · cases zs with
    | nil => exact (List.append_nil xs).symm
    | cons z zs =>
      rw [List.cons_append, List.cons.injEq] at hrest
      exact absurd (hrest.2 ▸ List.mem_append_right zs List.mem_cons_self) hds
  · cases zs with
    | nil => exact List.append_nil ys
    | cons z zs =>
      rw [List.cons_append, List.cons.injEq] at hrest
      exact absurd (hrest.2 ▸ List.mem_append_right zs List.mem_cons_self) hes

theorem colon_notMem_repr (n : ℕ) : ':' ∉ (Nat.repr n).toList := by
  intro hmem
  rw [Nat.repr_eq_ofList_toDigits, String.toList_ofList] at hmem
  have hdigit := Nat.isDigit_of_mem_toDigits (by decide) (by decide) hmem
  exact absurd hdigit (by decide)

theorem restartKey_inj {id' : ActivityId} {m : ℕ}
    (h : "restart:" ++ id.text ++ ":" ++ Nat.repr m = "restart:" ++ id'.text ++ ":" ++ Nat.repr n) :
    id = id' := by
  simp only [String.append_assoc, String.append_right_inj] at h
  have hchars := congrArg String.toList h
  simp only [String.toList_append] at hchars
  exact ValidatedId.ext
    (String.toList_inj.1 (append_colon_inj (colon_notMem_repr m) (colon_notMem_repr n) hchars))

theorem distinct_restartings {events : List ActivityEvent}
    (hnodup : (events.map ActivityEvent.activityId).Nodup) :
    Distinct (events.map (Closing.restarting nowMs)) := by
  refine distinct_of_nodup (by rwa [List.map_map]) fun c hc d hd hsame => ?_
  obtain ⟨_, -, rfl⟩ := List.mem_map.1 hc
  obtain ⟨_, -, rfl⟩ := List.mem_map.1 hd
  exact restartKey_inj hsame

end

/-- **The loop of a restart** ends the activities if their closings are clear. -/
theorem reconcile_clear {events : List ActivityEvent}
    (hnodup : (events.map ActivityEvent.activityId).Nodup)
    (hcontinues : ∀ event ∈ events, Continues event.activityId event)
    (hclear : Clear s (events.map (Closing.restarting nowMs))) (hstores : s.Stores)
    (hworks : ((reconcile nowMs events).exec s).2.AuditWorks) :
    ((reconcile nowMs events).exec s).1 = .ok () := by
  induction events generalizing s with
  | nil => rfl
  | cons event events ih =>
    have hnext := (fullFrame_auditWorked.toWrites.reconcile _ _ s hworks).next_lt
    have hdistinct : Distinct ((event :: events).map (Closing.restarting nowMs)) :=
      distinct_restartings hnodup
    rw [List.map_cons] at hclear hdistinct
    obtain ⟨-, hserializes, hlt⟩ := hcontinues event List.mem_cons_self
    have hfollows : (Closing.restarting nowMs event).Follows :=
      Closing.follows_restarting hserializes hlt (hclear.passes _ List.mem_cons_self).started_le
    rw [reconcile] at hworks ⊢
    obtain ⟨s₁, haudited, hexec⟩ := (audits_auditAccessFromEvent _ _ _ _).bind hworks
    rw [hexec] at hworks ⊢
    have hfirst := Advanced.of_audited haudited
    obtain ⟨_, hrecorded, hsecond⟩ := (Clear.of_advanced hfirst hclear hdistinct).recordActivity
      hfollows (hfirst.stores hstores) (by rw [hfirst.nextAuditSequence]; omega)
    have hadvanced := hfirst.trans hsecond
    change (recordActivity (event.failedWith .daemonRestarted nowMs) ("restart:"
      ++ (event.failedWith .daemonRestarted nowMs).activityId.text ++ ":"
      ++ Nat.repr (event.failedWith .daemonRestarted nowMs).sequence)).exec s₁ = _ at hrecorded
    rw [exec_bind_ok hrecorded] at hworks ⊢
    exact ih hnodup.of_cons (List.forall_mem_cons.1 hcontinues).2
      (.of_advanced hadvanced hclear hdistinct) (hadvanced.stores hstores) hworks

structure Reloaded (checkpoint : ActivityCheckpoint) (s s' : DashboardService) : Prop where
  fits : ¬Oversized checkpoint.payload
  digest : checkpoint.payload.digest = .ok checkpoint.digest
  restored : ∃ restored engine,
    (restoreActivities checkpoint.payload.activities).exec s = (.ok (), restored) ∧
      (PolicyEngine.restoreCheckpoint checkpoint.payload.policy).exec restored.policy
        = (.ok ⟨⟩, engine) ∧
      s' = restored.withPayload checkpoint.payload engine

def blank (localHostId : HostId) (epoch snapshotRevision : ℕ) (audit : AuditState)
    (policy : PolicyEngine) (checkpoint : ActivityCheckpoint) : DashboardService :=
  { new localHostId (EventJournal.new epoch snapshotRevision) audit policy with
    checkpoint := some ⟨some checkpoint, []⟩ }

structure ClearOnRestart (s : DashboardService) (closings : List Closing) : Prop where
  started_le : ∀ c ∈ closings, ∀ started ∈ c.current.startedAtMs, started ≤ c.event.occurredAtMs
  key_le : ∀ c ∈ closings, c.idempotencyKey.utf8ByteSize ≤ 256
  fits : ∀ c ∈ closings, c.event.toJson.toVec.length ≤ s.events.maxBytes
  room : ∀ before c, before ++ [c] <+: closings → s.Room (closeAll (before ++ [c]) s.activities)

omit [Sha256] in
theorem checkpoint_restoreActivities (activities : List ActivityEvent) (s : DashboardService) :
    ((restoreActivities activities).exec s).2.checkpoint = s.checkpoint := by
  let R : DashboardService → DashboardService → Prop := fun s s' => s'.checkpoint = s.checkpoint
  have : Std.Refl R := ⟨fun _ => rfl⟩
  have : IsTrans DashboardService R := ⟨fun _ _ _ h h' => h'.trans h⟩
  have hevents : ∀ (s : DashboardService) (events : EventJournal), R s { s with events } :=
    fun _ _ => rfl
  have hactivities : ∀ (s : DashboardService) (activities : Map ActivityId ActivityEvent),
      R s { s with activities } := fun _ _ => rfl
  exact within_restoreActivities hevents hactivities activities s

section Reloaded

variable {localHostId : HostId} {epoch snapshotRevision : ℕ} {audit : AuditState}
  {policy : PolicyEngine} {checkpoint : ActivityCheckpoint} {s : DashboardService}

def restartings (s : DashboardService) (hash : HashOrder ActivityEvent) (nowMs : ℕ) : List Closing :=
  (hash.order s.activeActivities).map (Closing.restarting nowMs)

/-- **The closings of a restart** are clear but for the clock, long identifiers and the bounds of the
checkpoint. -/
theorem Reloaded.reconcileAfterRestart_ok
    (h : Reloaded checkpoint (blank localHostId epoch snapshotRevision audit policy checkpoint) s)
    {hash : HashOrder ActivityEvent} {nowMs : ℕ} (hclear : ClearOnRestart s (s.restartings hash nowMs))
    (hsequence : ∀ event ∈ s.activeActivities, event.sequence + 1 < u64Max)
    (hworks : ((reconcileAfterRestart hash nowMs).exec s).2.AuditWorks) :
    ((reconcileAfterRestart hash nowMs).exec s).1 = .ok s.activeActivities.length := by
  obtain ⟨restored, engine, hactivities, -, rfl⟩ := h.restored
  have hserializes := (serializes_of_digest h.digest).activities
  have hsound := soundActivities_of_restored rfl hserializes hactivities
  obtain ⟨-, -, _, _⟩ := restoreActivities_ok hactivities
  obtain ⟨⟨_, hevents⟩, hsequences, -⟩ := events_of_restoreActivities hactivities
  have hstores : restored.Stores := by
    have hcheckpoint := checkpoint_restoreActivities checkpoint.payload.activities
      (blank localHostId epoch snapshotRevision audit policy checkpoint)
    rw [hactivities] at hcheckpoint
    intro _ hmem
    dsimp only at hcheckpoint
    rw [hcheckpoint] at hmem
    cases hmem
    rfl
  have hids : ∀ id event, restored.activities.lookup id = some event → event.activityId = id :=
    fun id event hlookup => (hsound id event hlookup).1
  have hnodup := nodup_activeActivities hids hash
  have hperm := hash.perm restored.activeActivities
  have hactive : ∀ event ∈ hash.order restored.activeActivities,
      restored.activities.lookup event.activityId = some event ∧ event ∈ checkpoint.payload.activities ∧
        event.sequence + 1 < u64Max := by
    intro event hmem
    have hmem := hperm.mem_iff.1 hmem
    obtain ⟨id, hlookup⟩ := Map.mem_values.1 (List.mem_filter.1 hmem).1
    obtain rfl := hids id event hlookup
    exact ⟨hlookup, (mem_of_restored rfl hactivities hlookup).1, hsequence event hmem⟩
  have hlength : (hash.order restored.activeActivities).length ≤ 1000 := by
    have hsub : (hash.order restored.activeActivities).map ActivityEvent.activityId
        ⊆ checkpoint.payload.activities.map ActivityEvent.activityId := by
      intro id hmem
      obtain ⟨event, hevent, rfl⟩ := List.mem_map.1 hmem
      exact List.mem_map_of_mem (hactive event hevent).2.1
    have hle := (hnodup.subperm hsub).length_le
    have hfits := h.fits
    simp only [Oversized, not_or, List.length_map] at hfits hle
    omega
  have hfull : Clear (restored.withPayload checkpoint.payload engine)
      ((hash.order restored.activeActivities).map (Closing.restarting nowMs)) := by
    refine ⟨fun c hmem => ?_, ?_, hclear.room⟩
    · obtain ⟨event, hevent, rfl⟩ := List.mem_map.1 hmem
      obtain ⟨-, hpayload, -⟩ := hactive event hevent
      exact
        { started_le := hclear.started_le _ hmem
          key_le := hclear.key_le _ hmem
          fresh := by
            change restored.events.idempotency.lookup _ = none
            rw [hevents]
            rfl
          inStep := hsequences event hpayload
          capacity := by
            change restored.events.maxEvents ≠ 0
            rw [hevents]
            change (1000 : ℕ) ≠ 0
            omega
          fits := hclear.fits _ hmem }
    · change restored.events.nextCursorSequence + _ ≤ u64Max
      have hmax : u64Max = 18446744073709551615 := rfl
      rw [hevents, List.length_map]
      change 1 + _ ≤ u64Max
      omega
  rw [reconcileAfterRestart, exec_bind_ok (exec_get _)] at hworks ⊢
  have hfirst := auditWorks_of_bind (fun _ => Within.pure _) hworks
  have hend := reconcile_clear hnodup
    (fun event hmem => ⟨rfl, hserializes event (hactive event hmem).2.1, (hactive event hmem).2.2⟩)
    hfull hstores hfirst
  have hexec := exec_bind_ok (f := fun _ => pure (hash.order restored.activeActivities).length)
    (Prod.ext hend rfl)
  refine (congrArg Prod.fst hexec).trans ?_
  exact congrArg Except.ok hperm.length_eq

end Reloaded

/-! ### Events of the local user -/

/-- What an event of the local user interface needs after some closings: its identifier and its key
are new to the journal, and there is room for it. -/
structure LocalClear (s : DashboardService) (closings : List Closing) (activityId : ActivityId)
    (operation : OperationId) (nowMs : ℕ) : Prop where
  unknown : s.events.activitySequences.lookup activityId = none
  fresh : s.events.idempotency.lookup (localKey activityId.text operation) = none
  capacity : s.events.maxEvents ≠ 0
  fits : (localEvent s.localHostId activityId operation nowMs).toJson.toVec.length
    ≤ s.events.maxBytes
  epoch_lt : s.events.epoch < u64Max
  cursor_lt : s.events.nextCursorSequence + closings.length < u64Max
  room : s.Room ((closeAll closings s.activities).insert activityId
    (localEvent s.localHostId activityId operation nowMs))

section

omit [Sha256]

theorem isWhiteSpace_of_isDigit {c : Char} (h : c.isDigit = true) : isWhiteSpace c = false := by
  rw [Char.isDigit, Bool.and_eq_true, decide_eq_true_eq, decide_eq_true_eq] at h
  have hlow : 48 ≤ c.toNat := h.1
  have hhigh : c.toNat ≤ 57 := h.2
  rw [isWhiteSpace]
  refine decide_eq_false ?_
  omega

theorem idText_local (hlength : operation.text.toList.length ≤ 20)
    (hchars : ∀ c ∈ operation.text.toList, isWhiteSpace c = false) (hn : n ≤ u64Max) :
    IdText ("admin-" ++ Nat.repr n ++ "-" ++ operation.text) ∧
      ("admin-" ++ Nat.repr n ++ "-" ++ operation.text).utf8ByteSize ≤ 200 := by
  have hdigits : (Nat.repr n).toList.length ≤ 20 := by
    rw [String.length_toList]
    refine (Nat.length_repr_le_iff (by decide)).2 ?_
    have hmax : u64Max = 18446744073709551615 := rfl
    omega
  have htext : "admin-" ++ Nat.repr n ++ "-" ++ operation.text = String.ofList ("admin-".toList
      ++ (Nat.repr n).toList ++ "-".toList ++ operation.text.toList) := by
    simp only [String.ofList_append, String.ofList_toList]
  have hsum : ("admin-".toList ++ (Nat.repr n).toList ++ "-".toList
      ++ operation.text.toList).length ≤ 47 := by
    have hstart : "admin-".toList.length = 6 := by decide
    have hdash : "-".toList.length = 1 := by decide
    simp only [List.length_append]
    omega
  have hstart : "admin-".toList.all (isWhiteSpace · == false) = true := by decide
  have hdash : "-".toList.all (isWhiteSpace · == false) = true := by decide
  rw [htext]
  constructor
  · refine idText_ofList (by simp) (by omega) fun c hc => ?_
    simp only [List.mem_append] at hc
    rcases hc with ((hc | hc) | hc) | hc
    · exact eq_of_beq (List.all_eq_true.1 hstart c hc)
    · rw [Nat.repr_eq_ofList_toDigits, String.toList_ofList] at hc
      exact isWhiteSpace_of_isDigit (Nat.isDigit_of_mem_toDigits (by decide) (by decide) hc)
    · exact eq_of_beq (List.all_eq_true.1 hdash c hc)
    · exact hchars c hc
  · exact Nat.le_trans (utf8ByteSize_ofList_le _) (by omega)

theorem localKey_le (hoperation : operation.text.utf8ByteSize ≤ 30) {activity : String}
    (hactivity : activity.utf8ByteSize ≤ 200) : (localKey activity operation).utf8ByteSize ≤ 256 := by
  have hstart : "local-mutation:".utf8ByteSize = 15 := by decide
  have hcolon : ":".utf8ByteSize = 1 := by decide
  rw [localKey]
  simp only [String.utf8ByteSize_append]
  omega

theorem localKey_ne_cancel (activity id : String) (operation : OperationId) :
    localKey activity operation ≠ "cancel:" ++ id := by
  intro heq
  have hchar := congrArg (fun text : String => text.toList[0]?) heq
  rw [localKey] at hchar
  simp only [String.toList_append] at hchar
  exact absurd hchar (by simp)

end

/-- **An event of the local user interface that is clear** is published after some closings. -/
theorem appendLocalEvent_ok {audits : ℕ} {activityId : ActivityId}
    (hclear : LocalClear s closings activityId operation nowMs)
    (hadvanced : Advanced s closings audits s') (hpasses : ∀ c ∈ closings, c.Passes s.events)
    (hkeys : ∀ c ∈ closings, localKey activityId.text operation ≠ c.idempotencyKey)
    (hkey_le : (localKey activityId.text operation).utf8ByteSize ≤ 256)
    (htext : "admin-" ++ Nat.repr (s'.nextAuditSequence - 1) ++ "-" ++ operation.text = activityId.text)
    (hstores : s.Stores) (hnext : s'.nextAuditSequence - 1 ≤ u64Max) (hnow : nowMs ≤ u64Max) :
    ∃ s'', (appendLocalEvent operation nowMs).exec s' = (.ok (), s'') ∧
      s''.activities = s'.activities.insert activityId
        (localEvent s'.localHostId activityId operation nowMs) := by
  obtain ⟨hchecked, -⟩ := checkEvent_localEvent s'.localHostId activityId operation hnow
  have hparse : parseId ("admin-" ++ Nat.repr (s'.nextAuditSequence - 1) ++ "-" ++ operation.text)
      = .ok activityId := by
    rw [htext]
    exact parseId_of_idText activityId.valid
  have hblank : trim (localKey activityId.text operation) ≠ "" := by
    change trim ("local-mutation:" ++ activityId.text ++ ":" ++ operation.text) ≠ ""
    rw [String.append_assoc, String.append_assoc]
    exact EventJournal.trim_append_ne_empty "local-mutation:" _ (c := 'l') rfl rfl
  have hunknown : s'.events.activitySequences.lookup activityId = none := by
    rw [hadvanced.sequences, hclear.unknown]
    rintro c hmem rfl
    have hstep := (hpasses c hmem).inStep
    rw [hclear.unknown] at hstep
    cases hstep
  have haccepts : s'.events.Accepts (localKey activityId.text operation)
      (localEvent s'.localHostId activityId operation nowMs)
      (localEvent s'.localHostId activityId operation nowMs).toJson.toVec :=
    { checked := hchecked _ hblank hkey_le
      fresh := hadvanced.fresh _ hkeys hclear.fresh
      sequence_ne := by
        change 1 ≠ u64Max
        decide
      capacity := by
        rw [hadvanced.maxEvents]
        exact hclear.capacity
      fits := by
        rw [hadvanced.maxBytes, hadvanced.localHostId]
        exact hclear.fits
      expected := by
        change EventJournal.expectedSequence (s'.events.activitySequences.lookup activityId) = some 1
        rw [hunknown]
        rfl
      epoch_lt := fun _ => by
        rw [hadvanced.epoch]
        exact hclear.epoch_lt
      cursor_lt := fun _ => by
        rw [hadvanced.cursor]
        exact hclear.cursor_lt }
  have hroom : s'.Room (s'.activities.insert activityId
      (localEvent s'.localHostId activityId operation nowMs)) := by
    rw [hadvanced.activities, hadvanced.localHostId]
    exact hadvanced.sameRoom.room hclear.room
  obtain ⟨s'', hexec, hrecorded⟩ := recordActivity_ok haccepts (hadvanced.stores hstores) hroom hnext
  refine ⟨s'', ?_, hrecorded.activities⟩
  rw [appendLocalEvent, exec_bind_ok (exec_get _), hparse, exec_bind_ok (exec_orThrow _ _ _)]
  exact hexec

/-! ### A pause -/

omit [Sha256] in
theorem lookup_closeAll {activities : Map ActivityId ActivityEvent}
    (h : (closeAll closings activities).lookup id = some event) :
    (∃ c ∈ closings, event = c.event) ∨
      activities.lookup id = some event ∧ ∀ c ∈ closings, c.event.activityId ≠ id := by
  induction closings generalizing activities with
  | nil => exact .inr ⟨h, List.forall_mem_nil _⟩
  | cons c closings ih =>
    rcases ih h with ⟨d, hmem, rfl⟩ | ⟨hlookup, hother⟩
    · exact .inl ⟨d, List.mem_cons_of_mem _ hmem, rfl⟩
    · rw [Map.lookup_insert] at hlookup
      split at hlookup
      · cases hlookup
        exact .inl ⟨c, List.mem_cons_self, rfl⟩
      · rename_i hne
        refine .inr ⟨hlookup, fun d hmem => ?_⟩
        rcases List.mem_cons.1 hmem with rfl | hmem
        · exact Ne.symm hne
        · exact hother d hmem

omit [Sha256] in
theorem isTerminal_of_closeAll {activities : Map ActivityId ActivityEvent}
    (hids : ∀ id, id ∈ activities.keys → id ∈ ids)
    (hown : ∀ id event, activities.lookup id = some event → event.activityId = id)
    (h : (closeAll (cancellings activities nowMs ids) activities).lookup id = some event) :
    event.state.isTerminal = true := by
  rcases lookup_closeAll h with ⟨_, hmem, rfl⟩ | ⟨hlookup, hother⟩
  · rw [(mem_cancellings hmem).1]
    rfl
  · by_contra hactive
    have hmem : Closing.cancelling nowMs event ∈ cancellings activities nowMs ids := by
      refine List.mem_map_of_mem (List.mem_filter.2 ⟨?_, by simpa using hactive⟩)
      exact List.mem_filterMap.2 ⟨id, hids id (Map.mem_keys.2 ⟨event, hlookup⟩), hlookup⟩
    exact hother _ hmem (hown id event hlookup)

theorem Clear.congr (h : Clear s closings) (hevents : s'.events = s.events)
    (hactivities : s'.activities = s.activities)
    (hroom : ∀ activities, s.Room activities → s'.Room activities) : Clear s' closings := by
  refine ⟨?_, ?_, fun before c hprefix => ?_⟩
  · rw [hevents]
    exact h.passes
  · rw [hevents]
    exact h.cursor_le
  · rw [hactivities]
    exact hroom _ (h.room before c hprefix)

theorem LocalClear.congr {activityId : ActivityId}
    (h : LocalClear s closings activityId operation nowMs) (hhost : s'.localHostId = s.localHostId)
    (hevents : s'.events = s.events) (hactivities : s'.activities = s.activities)
    (hroom : ∀ activities, s.Room activities → s'.Room activities) :
    LocalClear s' closings activityId operation nowMs := by
  refine ⟨?_, ?_, ?_, ?_, ?_, ?_, ?_⟩
  · rw [hevents]
    exact h.unknown
  · rw [hevents]
    exact h.fresh
  · rw [hevents]
    exact h.capacity
  · rw [hevents, hhost]
    exact h.fits
  · rw [hevents]
    exact h.epoch_lt
  · rw [hevents]
    exact h.cursor_lt
  · rw [hactivities, hhost]
    exact hroom _ h.room

structure ClearToPause (s : DashboardService) (hash : HashOrder ActivityId) (nowMs : ℕ) : Prop where
  closings : Clear s (cancellings s.activities nowMs (hash.order s.activities.keys))
  announced : ∀ activityId : ActivityId,
    activityId.text = "admin-" ++ Nat.repr (s.nextAuditSequence
        + 2 * (cancellings s.activities nowMs (hash.order s.activities.keys)).length)
      ++ "-" ++ remoteAccessPause.text →
    LocalClear s (cancellings s.activities nowMs (hash.order s.activities.keys)) activityId
      remoteAccessPause nowMs

def Authorizes (s : DashboardService) (operation : OperationId) (nowMs : ℕ) : Prop :=
  ((authorizeAdmin operation .deviceLaneService none nowMs).exec s).1 = .ok ()

def servicePause : OperationId := ⟨"devicelane.service.pause", idText_servicePause⟩

def activityCancel : OperationId := ⟨"devicelane.activity.cancel", idText_activityCancel⟩

theorem exec_publishPaused_ok {m : ServiceEff Unit} {previous : Bool} (h : m.exec s = (.ok (), s')) :
    (publishPaused operation m previous nowMs).exec s = (.ok (), s') := by
  rw [publishPaused, exec_bind_ok (exec_attempt_of h)]
  rfl

theorem auditWorks_of_publishPaused {m : ServiceEff Unit} {previous : Bool}
    (hworks : ((publishPaused operation m previous nowMs).exec s).2.AuditWorks) :
    (m.exec s).2.AuditWorks := by
  refine auditWorks_of_bind (m := attempt m) (fun outcome => ?_) hworks
  cases outcome with
  | ok => exact .pure _
  | error =>
    exact Within.bind (.modify fun _ h => ⟨h.healthy, h.next_lt⟩) fun _ =>
      Within.bind (fullFrame_auditWorked.toWrites.auditLocal _ _ _) fun _ => .throw _

theorem cancelAndAnnounce_ok (hids : ids.Perm s.activities.keys) (hsound : s.SoundActivities)
    (hsequence : ∀ id event, s.activities.lookup id = some event → event.sequence + 1 < u64Max)
    (hstores : s.Stores) (hnow : nowMs ≤ u64Max) (hnext : s.nextAuditSequence = n + 1)
    (hclear : Clear s (cancellings s.activities nowMs ids))
    (hannounced : ∀ activityId : ActivityId, activityId.text = "admin-"
        ++ Nat.repr (n + 2 * (cancellings s.activities nowMs ids).length) ++ "-"
        ++ remoteAccessPause.text →
      LocalClear s (cancellings s.activities nowMs ids) activityId remoteAccessPause nowMs)
    (hworks : ((publishPaused remoteAccessPause (cancelAll nowMs ids) false nowMs >>= fun _ =>
      publishPaused remoteAccessPause (appendLocalEvent remoteAccessPause nowMs) false nowMs).exec
        s).2.AuditWorks) :
    ∃ s', (publishPaused remoteAccessPause (cancelAll nowMs ids) false nowMs >>= fun _ =>
        publishPaused remoteAccessPause (appendLocalEvent remoteAccessPause nowMs) false nowMs).exec s
          = (.ok (), s') ∧
      ∀ id event, s'.activities.lookup id = some event → event.state.isTerminal = true := by
  have hnodup : ids.Nodup := hids.nodup_iff.2 (Map.nodup_keys _)
  have hown : ∀ id event, s.activities.lookup id = some event → event.activityId = id :=
    fun id event hlookup => (hsound id event hlookup).1
  have hframe : Within AuditWorked
      (publishPaused remoteAccessPause (appendLocalEvent remoteAccessPause nowMs) false nowMs) :=
    fullFrame_auditWorked.toFrame.publishPaused _ (fullFrame_auditWorked.toWrites.appendLocalEvent _ _)
      _ _
  have hfirst := auditWorks_of_publishPaused (auditWorks_of_bind (fun _ => hframe) hworks)
  obtain ⟨s₁, hcancelled, hadvanced⟩ := cancelAll_ok hnodup
    (fun id _ current hlookup =>
      ⟨(hsound id current hlookup).1, (hsound id current hlookup).2, hsequence id current hlookup⟩)
    hclear hstores hfirst
  rw [exec_bind_ok (exec_publishPaused_ok hcancelled)] at hworks ⊢
  have hlt := (hframe s₁ hworks).next_lt
  have hsum := hadvanced.nextAuditSequence
  have hchars : remoteAccessPause.text.toList.all (isWhiteSpace · == false) = true := by decide
  have hbounds : IdText ("admin-" ++ Nat.repr (s₁.nextAuditSequence - 1) ++ "-"
      ++ remoteAccessPause.text) ∧ _ :=
    idText_local (by decide) (fun c hc => eq_of_beq (List.all_eq_true.1 hchars c hc)) (by omega)
  obtain ⟨hidText, hshort⟩ := hbounds
  obtain ⟨activityId, htext⟩ : ∃ activityId : ActivityId, "admin-"
      ++ Nat.repr (s₁.nextAuditSequence - 1) ++ "-" ++ remoteAccessPause.text = activityId.text :=
    ⟨⟨_, hidText⟩, rfl⟩
  have hnumber : s₁.nextAuditSequence - 1 = n + 2 * (cancellings s.activities nowMs ids).length := by
    omega
  have hlocal := hannounced activityId (by rw [← htext, hnumber])
  have hkeys : ∀ c ∈ cancellings s.activities nowMs ids,
      localKey activityId.text remoteAccessPause ≠ c.idempotencyKey := by
    intro c hmem hsame
    rw [(mem_cancellings hmem).1] at hsame
    exact localKey_ne_cancel _ _ _ hsame
  rw [htext] at hshort
  obtain ⟨s₂, hexec, hactivities⟩ := appendLocalEvent_ok hlocal hadvanced hclear.passes hkeys
    (localKey_le (by decide) hshort) htext hstores (by omega) hnow
  refine ⟨s₂, exec_publishPaused_ok hexec, fun id event hlookup => ?_⟩
  rw [hactivities, Map.lookup_insert] at hlookup
  split at hlookup
  · cases hlookup
    rfl
  · rw [hadvanced.activities] at hlookup
    exact isTerminal_of_closeAll (fun id hmem => hids.mem_iff.2 hmem) hown hlookup

/-- **A pause with clear closings** cancels all activities. -/
theorem pause_ok {hash : HashOrder ActivityId} (hsound : s.SoundActivities)
    (hclear : s.ClearToPause hash nowMs)
    (hsequence : ∀ id event, s.activities.lookup id = some event → event.sequence + 1 < u64Max)
    (hstores : s.Stores) (hnow : nowMs ≤ u64Max) (hauthorizes : s.Authorizes servicePause nowMs)
    (hworks : ((pause .cancel hash nowMs).exec s).2.AuditWorks) :
    ∃ s', (pause .cancel hash nowMs).exec s = (.ok (), s') ∧
      ∀ id event, s'.activities.lookup id = some event → event.state.isTerminal = true := by
  obtain ⟨s₁, hauthorize⟩ : ∃ s₁, (authorizeAdmin ⟨"devicelane.service.pause", idText_servicePause⟩
      .deviceLaneService none nowMs).exec s = (.ok (), s₁) := ⟨_, Prod.ext hauthorizes rfl⟩
  obtain ⟨⟨adminGrants, file, rfl⟩, hgrants, hcheckpoint, hkeeps⟩ := authorizeAdmin_ok hauthorize
  rw [pause, exec_bind_ok hauthorize] at hworks ⊢
  obtain ⟨_, ⟨audit, rfl⟩, hexec⟩ := (audits_auditLocal _ _ _).bind hworks
  rw [hexec, exec_bind_ok (exec_modify _ _), exec_bind_ok (exec_get _)] at hworks ⊢
  have hsame : SameRoom s { s with
      adminGrants
      checkpoint := file
      audit
      nextAuditSequence := s.nextAuditSequence + 1
      paused := true } := ⟨hcheckpoint, rfl, rfl, hgrants⟩
  have hroom := fun activities (h : s.Room activities) => hsame.room h
  exact cancelAndAnnounce_ok (hash.perm _) hsound hsequence (hkeeps hstores) hnow rfl
    (hclear.closings.congr rfl rfl hroom)
    (fun activityId htext => (hclear.announced activityId htext).congr rfl rfl rfl hroom) hworks

/-! ### All ways to an end -/

def LoadedFrom (s : DashboardService) (checkpoint : ActivityCheckpoint) (reloaded : DashboardService) :
    Prop :=
  (∃ file ∈ s.checkpoint, file.content = some checkpoint) ∧
    ∃ localHostId epoch snapshotRevision audit policy,
      Reloaded checkpoint (blank localHostId epoch snapshotRevision audit policy checkpoint) reloaded

structure Observes (s : DashboardService) (current : ActivityEvent) (state : ActivityState)
    (metrics : MetricSnapshot) (message : Option DisplayMessage) : Prop where
  recorded : s.activities.lookup current.activityId = some current
  valid : validTransition current.state state = true
  sequence_lt : current.sequence + 1 < u64Max
  metrics : metrics.validate = .ok ()
  message : ∀ m ∈ message, m.validate = .ok ()

/-- A current record of an activity that has not ended. -/
structure Active (s : DashboardService) (current : ActivityEvent) : Prop where
  recorded : s.activities.lookup current.activityId = some current
  active : current.state.isTerminal = false
  sequence_lt : current.sequence + 1 < u64Max

/-- Every activity can be brought to an end, by calls during which the audit store works. -/
structure CanEnd (s : DashboardService) (nowMs : ℕ) : Prop where
  transition : ∀ current state metrics message, s.Observes current state metrics message →
    ((transitionActivity current.activityId state metrics message nowMs).exec s).2.AuditWorks →
    ((transitionActivity current.activityId state metrics message nowMs).exec s).1 = .ok true
  cancel : ∀ current, s.Active current → s.Authorizes activityCancel nowMs →
    ((cancelActivity current.activityId nowMs).exec s).2.AuditWorks →
    ∃ s' event, (cancelActivity current.activityId nowMs).exec s = (.ok true, s') ∧
      s'.activities.lookup current.activityId = some event ∧ event.state = .cancelled
  pause : ∀ hash, (∀ id event, s.activities.lookup id = some event → event.sequence + 1 < u64Max) →
    s.Authorizes servicePause nowMs → ((pause .cancel hash nowMs).exec s).2.AuditWorks →
    ∃ s', (pause .cancel hash nowMs).exec s = (.ok (), s') ∧
      ∀ id event, s'.activities.lookup id = some event → event.state.isTerminal = true
  restart : ∀ checkpoint reloaded hash, s.LoadedFrom checkpoint reloaded →
    (∀ event ∈ reloaded.activeActivities, event.sequence + 1 < u64Max) →
    ((reconcileAfterRestart hash nowMs).exec reloaded).2.AuditWorks →
    ((reconcileAfterRestart hash nowMs).exec reloaded).1 = .ok reloaded.activeActivities.length

/-- Nothing stands in the way of the closings. -/
structure ClearToEnd (s : DashboardService) (nowMs : ℕ) : Prop where
  transition : ∀ current state metrics message, s.Observes current state metrics message →
    Clear s [.observing current state metrics message nowMs]
  cancel : ∀ current, s.Active current → Clear s [.cancelling nowMs current]
  pause : ∀ hash, s.ClearToPause hash nowMs
  restart : ∀ checkpoint reloaded hash, s.LoadedFrom checkpoint reloaded →
    ClearOnRestart reloaded (reloaded.restartings hash nowMs)

theorem clearToEnd_managedService : managedService.ClearToEnd 0 where
  transition current state metrics message hobserves := by cases hobserves.recorded
  cancel current hactive := by cases hactive.recorded
  pause hash := by
    have hnone : cancellings managedService.activities 0 (hash.order managedService.activities.keys)
        = [] := by
      rw [(hash.perm managedService.activities.keys).eq_nil]
      rfl
    refine ⟨⟨?_, ?_, ?_⟩, fun activityId _ => ?_⟩
    · rw [hnone]
      exact List.forall_mem_nil _
    · rw [hnone]
      exact (by decide : 1 + 0 ≤ u64Max)
    · exact fun _ _ _ => .inl rfl
    · have hlength := (checkEvent_localEvent managedService.localHostId activityId remoteAccessPause
        (Nat.zero_le u64Max)).2
      have hmax : managedService.events.maxBytes = 8388608 := rfl
      exact
        { unknown := rfl
          fresh := rfl
          capacity := (by decide : 1000 ≠ 0)
          fits := by omega
          epoch_lt := (by decide : 1 < u64Max)
          cursor_lt := by
            rw [hnone]
            exact (by decide : 1 + 0 < u64Max)
          room := .inl rfl }
  restart checkpoint reloaded hash hloaded := by
    obtain ⟨⟨_, hmem, -⟩, -⟩ := hloaded
    cases hmem

section

omit [Sha256]

theorem idText_long : IdText (String.ofList (List.replicate 64 '𝄞')) := by
  refine idText_ofList (by simp) (by simp) fun c hc => ?_
  rw [List.eq_of_mem_replicate hc]
  decide

theorem utf8ByteSize_replicate (n : ℕ) : (String.ofList (List.replicate n '𝄞')).utf8ByteSize = 4 * n := by
  induction n with
  | zero => rfl
  | succ n ih =>
    have hone : (String.ofList ['𝄞']).utf8ByteSize = 4 := by decide
    rw [List.replicate_succ, ← List.singleton_append, String.ofList_append,
      String.utf8ByteSize_append, hone, ih]
    omega

theorem exists_longId : ∃ id : ActivityId, id.text.utf8ByteSize = 256 :=
  ⟨⟨_, idText_long⟩, utf8ByteSize_replicate 64⟩

end

omit [Sha256] in
def eventOf (id : ActivityId) : ActivityEvent := { EventJournal.sampleEvent with activityId := id }

def serviceOf (id : ActivityId) : DashboardService :=
  { managedService with
    events := managedService.events.pushed "long" (eventOf id)
    activities := managedService.activities.insert id (eventOf id) }

theorem exec_eventOf (id : ActivityId) :
    (recordActivity (eventOf id) "long").exec managedService = (.ok (), serviceOf id) ∧
      (serviceOf id).Calm 1 := by
  have hvalid : (eventOf id).validate = .ok () := rfl
  have hmessage : ∀ m ∈ (eventOf id).message, m.validate = .ok () :=
    fun _ hm => absurd hm (Option.not_mem_none _)
  have hchecked : EventJournal.checkEvent "long" (eventOf id) = .ok (eventOf id).toJson.toVec :=
    EventJournal.checkEvent_eq_ok hvalid hmessage (by decide) (by decide)
  have hnum : (eventOf id).InU64 :=
    { sequence_le := EventJournal.inU64_sampleEvent.sequence_le
      occurredAtMs_le := EventJournal.inU64_sampleEvent.occurredAtMs_le
      metrics := EventJournal.inU64_sampleEvent.metrics
      startedAtMs_le := EventJournal.inU64_sampleEvent.startedAtMs_le
      finishedAtMs_le := EventJournal.inU64_sampleEvent.finishedAtMs_le
      digest_le := EventJournal.inU64_sampleEvent.digest_le }
  have hlength := ActivityEvent.length_toJson_le hnum hvalid hmessage
  exact calm_managedService.recordActivity (by decide) hchecked (by omega) rfl
    (by decide : (1 : ℕ) ≠ u64Max) rfl

omit [Sha256] in
theorem checkEvent_long (hlong : id.text.utf8ByteSize = 256) (hvalid : event.validate = .ok ())
    (rest : String) :
    EventJournal.checkEvent ("observer:" ++ id.text ++ rest) event = .error .idempotencyKeyTooLong := by
  have hblank : trim ("observer:" ++ id.text ++ rest) ≠ "" := by
    rw [String.append_assoc]
    exact EventJournal.trim_append_ne_empty "observer:" _ (c := 'o') rfl rfl
  have hstart : "observer:".utf8ByteSize = 9 := by decide
  rw [EventJournal.checkEvent_of_valid hvalid, if_neg hblank, if_pos]
  rw [String.utf8ByteSize_append, String.utf8ByteSize_append]
  omega

theorem exec_transition_long (hlong : id.text.utf8ByteSize = 256) :
    (transitionActivity id .running unavailableMetrics none 0).exec (serviceOf id)
      = (.error (.returned .limitExceeded), serviceOf id) := by
  have hlookup : (serviceOf id).activities.lookup id = some (eventOf id) :=
    Map.lookup_insert_self _ _ _
  have hvalid : ((eventOf id).observed 2 .running unavailableMetrics none 0).validate = .ok () := rfl
  have hcheck := checkEvent_long hlong hvalid (":" ++ Nat.repr 2 ++ ":" ++ ActivityState.running.debugName)
  have hplan : (serviceOf id).events.plan
      ("observer:" ++ id.text ++ ":" ++ Nat.repr 2 ++ ":" ++ ActivityState.running.debugName)
      ((eventOf id).observed 2 .running unavailableMetrics none 0) = .error .idempotencyKeyTooLong := by
    simp only [String.append_assoc] at hcheck ⊢
    rw [EventJournal.plan, hcheck]
    rfl
  have hsequence : checkedAdd (eventOf id).sequence 1 = some 2 := rfl
  have hstate : ¬(eventOf id).state = .running := by
    change ¬ActivityState.queued = .running
    decide
  have htable : ¬validTransition (eventOf id).state .running = false := by
    change ¬validTransition .queued .running = false
    decide
  rw [transitionActivity, exec_bind_ok (exec_get _), hlookup, exec_okOr_some_bind, exec_ite,
    if_neg hstate, exec_throwIf_bind, if_neg htable, hsequence, exec_okOr_some_bind]
  dsimp only
  rw [exec_throwIf_bind, if_neg (not_not_intro hvalid)]
  exact exec_bind_error (exec_recordActivity_refused hplan)

/-- A service can bring its activities to an end. -/
def AlwaysCanEnd : Prop :=
  ∀ (s : DashboardService) (nowMs : ℕ), s.Reachable → s.Stores → nowMs ≤ u64Max → s.CanEnd nowMs

end DashboardService

end Dashboard
