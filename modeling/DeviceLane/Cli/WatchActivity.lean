/-
**Watching activities from the command line.**

The watcher polls the journal of the daemon for events of its own host, prints what it is sent and
acknowledges it before its cursor moves on. A page without events of the host moves no cursor, and a
watcher that is given none starts before the first event of the first epoch. So it keeps up exactly while
the journal still has everything after the cursor, whether that is for the watcher or not.

Main definitions:

* `Cli.WatchActivity` — the watcher and the daemon, while other calls change the journal.

Main results:

* `Cli.WatchActivity.watches_of_run` — **a watcher keeps up in every run whose steps do**.
-/

import DeviceLane.Daemon.Protocol
import DeviceLane.Dashboard.EventLogRead
import DeviceLane.Dashboard.ServiceProgress
import DeviceLane.Library.Runs

namespace Dashboard

open Effect

namespace EventJournal

/-! ### Pages that begin -/

variable {eventLimit byteLimit next pageBytes : ℕ} {included : ActivityEvent → Bool}
  {entries : List StoredEvent} {events : List ActivityEvent}

theorem fillPage_isSome_of_ne_nil (h : events ≠ []) :
    (fillPage eventLimit byteLimit included entries events next pageBytes).isSome = true := by
  induction entries generalizing events next pageBytes with
  | nil => rfl
  | cons entry entries ih =>
    rw [fillPage, if_neg h]
    split
    · rfl
    · split
      · exact ih h
      · split
        · rfl
        · exact ih (List.append_ne_nil_of_left_ne_nil h _)

theorem fillPage_first (hlimit : eventLimit ≠ 0) :
    ((fillPage eventLimit byteLimit included entries [] next 2).isSome = true ↔
      ∀ stored ∈ (entries.filter fun stored => included stored.event).head?,
        ¬saturatingAdd (saturatingAdd 2 (separator [])) stored.serializedBytes > byteLimit) ∧
    ∀ page next', fillPage eventLimit byteLimit included entries [] next 2 = some (page, next') →
      page.head? = (entries.filter fun stored => included stored.event).head?.map StoredEvent.event := by
  induction entries generalizing next with
  | nil =>
    refine ⟨⟨fun _ _ h => absurd h (Option.not_mem_none _), fun _ => rfl⟩, fun page next' h => ?_⟩
    obtain rfl := (Prod.mk.inj (Option.some.inj h)).1
    rfl
  | cons entry entries ih =>
    rw [fillPage, if_neg (by simpa using hlimit.symm)]
    by_cases hincluded : included entry.event = false
    · rw [if_pos hincluded, List.filter_cons_of_neg (by simp [hincluded])]
      exact ih
    · rw [if_neg hincluded, List.filter_cons_of_pos (by simpa using hincluded), List.head?_cons]
      split
      · next hlarge =>
          rw [if_pos rfl]
          refine ⟨⟨fun h => ?_, fun h => absurd hlarge (h entry rfl)⟩, fun _ _ h => ?_⟩ <;> cases h
      · next hfits =>
          rw [List.nil_append]
          refine ⟨⟨fun _ stored h => ?_, fun _ => fillPage_isSome_of_ne_nil (by simp)⟩,
            fun page next' h => ?_⟩
          · obtain rfl := Option.some.inj h
            exact hfits
          · obtain ⟨_, -, -, rfl, -⟩ := exists_of_fillPage h
            rfl

variable [Sha256] {inner : EventJournal} {log : List Entry} {cursor : EventCursor} {count : ℕ}

/-- The journal has everything after a cursor. -/
structure InWindow (inner : EventJournal) (cursor : EventCursor) : Prop where
  epoch_eq : cursor.epoch = inner.epoch
  sequence_lt : cursor.sequence < inner.nextCursorSequence
  oldest_le : inner.nextCursorSequence - inner.events.length ≤ cursor.sequence + 1

def ahead (inner : EventJournal) (cursor : EventCursor) (included : ActivityEvent → Bool) :
    List StoredEvent :=
  (inner.events.filter fun stored => cursor.sequence < stored.cursorSequence).filter fun stored =>
    included stored.event

/-- The first event that a reader asks for fits into a page. -/
def FirstFits (inner : EventJournal) (cursor : EventCursor) (included : ActivityEvent → Bool) : Prop :=
  ∀ stored ∈ (inner.ahead cursor included).head?, FitsPage stored.event

/-- **A reader is sent a page** exactly if its cursor is in the window and the first event fits. -/
theorem Consistent.answered_iff (h : inner.Consistent log) (hcount : 0 < count) :
    (∃ page next, inner.readFiltered cursor ⟨count, maxPageBytes⟩ included = .events page next) ↔
      inner.InWindow cursor ∧ inner.FirstFits cursor included := by
  have hlimit : min count maxPageEvents ≠ 0 := by
    have : 0 < maxPageEvents := by decide
    omega
  have hfits : (∀ stored ∈ (inner.ahead cursor included).head?,
      ¬saturatingAdd (saturatingAdd 2 (separator [])) stored.serializedBytes > maxPageBytes) ↔
        inner.FirstFits cursor included := by
    refine forall₂_congr fun stored hstored => ?_
    have hmem : stored ∈ inner.events :=
      List.mem_of_mem_filter (List.mem_of_mem_filter (List.mem_of_mem_head? hstored))
    have hmax : 2 ≤ u64Max ∧ maxPageBytes < u64Max := by decide
    rw [h.sizes stored hmem, FitsPage, saturatingAdd, saturatingAdd, separator, if_pos rfl]
    omega
  constructor
  · rintro ⟨page, next, hread⟩
    obtain ⟨hepoch, hlt, hle, -, hfill⟩ := h.of_readFiltered hread
    rw [min_self] at hfill
    exact ⟨⟨hepoch, hlt, hle⟩, hfits.1 ((fillPage_first hlimit).1.1 (Option.isSome_of_mem hfill))⟩
  · rintro ⟨hwindow, hfirst⟩
    rw [h.readFiltered_current hcount hwindow.epoch_eq hwindow.sequence_lt hwindow.oldest_le included]
    obtain ⟨⟨page, next⟩, hfill⟩ := Option.isSome_iff_exists.1 ((fillPage_first hlimit).1.2 (hfits.2 hfirst))
    rw [hfill]
    exact ⟨page, ⟨inner.epoch, next⟩, rfl⟩

theorem Consistent.head_of_answered (h : inner.Consistent log) (hcount : 0 < count)
    {page : List ActivityEvent} {next : EventCursor}
    (hread : inner.readFiltered cursor ⟨count, maxPageBytes⟩ included = .events page next) :
    page.head? = (inner.ahead cursor included).head?.map StoredEvent.event := by
  obtain ⟨-, -, -, -, hfill⟩ := h.of_readFiltered hread
  have hlimit : min count maxPageEvents ≠ 0 := by
    have : 0 < maxPageEvents := by decide
    omega
  exact (fillPage_first hlimit).2 page next.sequence hfill

theorem Consistent.exec_acknowledge_inWindow (h : inner.Consistent log) (hwindow : inner.InWindow cursor)
    {id : SubscriberId} {subscriber : Subscriber} (hlookup : inner.subscribers.lookup id = some subscriber)
    (nowMs : ℕ) : ∃ subscribers,
      (acknowledge id cursor nowMs).exec inner = (.ok (), { inner with subscribers }) := by
  rw [acknowledge, exec_bind_ok (exec_get _), exec_throwIf_bind, exec_throwIf_bind,
    if_neg (not_not.2 hwindow.epoch_eq), if_neg (Nat.not_le.2 hwindow.sequence_lt)]
  have holdest := h.oldest
  cases hhead : inner.events.head? with
  | none =>
    rw [hlookup]
    exact ⟨_, rfl⟩
  | some oldest =>
    have hne : inner.events ≠ [] := by
      rintro heq
      rw [heq] at hhead
      cases hhead
    rw [hhead, if_neg hne] at holdest
    have hsequence : oldest.cursorSequence = inner.nextCursorSequence - inner.events.length :=
      Option.some.inj holdest
    have hle := hwindow.oldest_le
    dsimp only
    rw [exec_throwIf_bind, if_neg (by omega), hlookup]
    exact ⟨_, rfl⟩

end EventJournal

def EventJournal.HasPlace (inner : EventJournal) (id : SubscriberId) (nowMs : ℕ) : Prop :=
  ((inner.expireIdle nowMs).2.subscribers.lookup id).isSome = true ∨
    (inner.expireIdle nowMs).2.subscribers.len < maxSubscribers

theorem DashboardService.exec_acknowledge_inWindow [Sha256] {service : DashboardService}
    {log : List EventJournal.Entry} (h : service.events.Consistent log) {cursor : EventCursor}
    (hwindow : service.events.InWindow cursor) {id : SubscriberId} {nowMs : ℕ}
    (hplace : service.events.HasPlace id nowMs) : ∃ subscribers,
      (acknowledge id cursor nowMs).exec service =
        (.ok (), { service with events := { service.events with subscribers } }) := by
  have hexpired : (service.events.expireIdle nowMs).2.Consistent log := h.subscribers _
  -- once the subscriber is there, its cursor is brought up
  have hacknowledge : ∀ events : EventJournal, events.Consistent log → events.InWindow cursor →
      (events.subscribers.lookup id).isSome = true → ∃ subscribers,
        (onPart DashboardService.events (fun events s => { s with events })
          (fun error => .returned (mapAcknowledgeError error))
          (EventJournal.acknowledge id cursor nowMs) : ServiceEff Unit).exec { service with events } =
            (.ok (), { service with events := { events with subscribers } }) := by
    intro events hevents hin hsome
    obtain ⟨subscriber, hlookup⟩ := Option.isSome_iff_exists.1 hsome
    obtain ⟨subscribers, hexec⟩ := hevents.exec_acknowledge_inWindow hin hlookup nowMs
    refine ⟨subscribers, ?_⟩
    rw [exec_onPart]
    dsimp only
    rw [hexec]
    rfl
  rw [acknowledge, expireIdle, exec_bind_ok (exec_modify _ _), exec_bind_ok (exec_attempt _ _), exec_onPart]
  dsimp only
  rw [EventJournal.exec_subscribe]
  by_cases hsome : ((service.events.expireIdle nowMs).2.subscribers.lookup id).isSome = true
  · rw [if_pos hsome]
    exact hacknowledge _ hexpired ⟨hwindow.1, hwindow.2, hwindow.3⟩ hsome
  · have hroom := hplace.resolve_left hsome
    rw [if_neg hsome, if_neg (Nat.not_le.2 hroom)]
    refine hacknowledge _ (hexpired.subscribers _) ⟨hwindow.1, hwindow.2, hwindow.3⟩ ?_
    rw [Map.lookup_insert_self]
    rfl

end Dashboard

namespace Cli

open Dashboard Effect EventJournal Runs

/-! ### The watcher -/

def cur (given : Option EventCursor) : EventCursor := given.getD ⟨1, 0⟩

def lim (given : Option ℕ) : Except String ℕ :=
  let n := given.getD 100
  if 1 ≤ n ∧ n ≤ 256 then .ok n else .error "--limit must be between 1 and 256"

inductive WatchFailure
  | transport
  | daemon (code message : String)
deriving DecidableEq

def errorResponse : Daemon.LocalProtocolError → WatchFailure
  | .cursorAhead => .daemon "cursor_ahead" "dashboard cursor is ahead"
  | .resyncRequired => .daemon "resync_required" "dashboard resynchronization required"
  | .limitExceeded => .daemon "limit_exceeded" "dashboard limit exceeded"
  | .unauthorized => .daemon "unauthorized" "local IPC peer is not authorized"
  | .featureUnavailable => .daemon "feature_unavailable" "dashboard feature was not negotiated"
  | .permissionDenied => .daemon "permission_denied" "dashboard permission denied"
  | .approvalExpired => .daemon "approval_expired" "dashboard approval expired"
  | .auditUnavailable => .daemon "audit_unavailable" "dashboard audit unavailable"
  | .revisionConflict => .daemon "revision_conflict" "dashboard revision conflict"
  | .targetOffline => .daemon "target_offline"
      "target is offline; reconnect the paired target before requesting approval"
  | .meshIdentityMismatch => .daemon "mesh_identity_mismatch"
      "mesh identity does not match the signed authenticated session"
  | .invalidFrame => .daemon "invalid_request" "invalid local IPC frame"
  | .io => .daemon "invalid_request" "local IPC I/O failed"

def failureOf : Fault DashboardServiceError → WatchFailure
  | .returned error => errorResponse (Daemon.mapDashboardError error)
  | .panicked => .transport

inductive Phase
  | polling
  | acknowledging (nextCursor : EventCursor)
  | failed (failure : WatchFailure)
deriving DecidableEq

/-- The events of a host, as it shows them. -/
def isLocal (localHostId : HostId) (event : ActivityEvent) : Bool :=
  decide (event.sourceHostId = localHostId ∨ event.targetHostId = localHostId)

/-- The watcher and the daemon, with all that the journal has taken in and the watcher has printed and
acknowledged. A page and its answer are one exchange: nothing is lost or changed on the way. -/
structure WatchActivity where
  service : DashboardService
  log : List Entry
  start : EventCursor
  cursor : EventCursor
  limit : ℕ
  subscriberId : SubscriberId
  phase : Phase
  printed : List ActivityEvent
  acknowledged : List EventCursor
  polls : ℕ

inductive WatchStep
  | call (entries : List Entry) (service : DashboardService)
  | poll (nowMs : ℕ)
  | acknowledge (nowMs : ℕ)

def watchActivity (service : DashboardService) (log : List Entry) (cursor : EventCursor) (limit : ℕ)
    (subscriberId : SubscriberId) : WatchActivity :=
  ⟨service, log, cursor, cursor, limit, subscriberId, .polling, [], [], 0⟩

namespace WatchActivity

def included (s : WatchActivity) : ActivityEvent → Bool := isLocal s.service.localHostId

/-- The events in the scope of the daemon's own host. -/
def events (s : WatchActivity) : EventRead :=
  s.service.events.readFiltered s.cursor ⟨s.limit, maxPageBytes⟩ s.included

def receive (s : WatchActivity) : EventRead → WatchActivity
  | .events events nextCursor =>
    { s with
      printed := s.printed ++ events
      phase := if events.isEmpty then .polling else .acknowledging nextCursor }
  | .cursorAhead _ =>
    { s with
      phase := .failed (.daemon "cursor_ahead" "activity cursor is ahead of the available stream") }
  | .resyncRequired _ _ =>
    { s with phase := .failed (.daemon "resync_required" "activity cursor requires a fresh snapshot") }
  | .limitExceeded =>
    { s with phase := .failed (.daemon "limit_exceeded" "activity page exceeds the safe size limit") }

def next (s : WatchActivity) : WatchStep → WatchActivity
  | .call entries service => { s with service, log := s.log ++ entries }
  | .poll nowMs =>
    match s.phase with
    | .polling =>
      let s := { s with
        service := ((DashboardService.expireIdle nowMs).exec s.service).2
        polls := s.polls + 1 }
      s.receive s.events
    | _ => s
  | .acknowledge nowMs =>
    match s.phase with
    | .acknowledging nextCursor =>
      match (DashboardService.acknowledge s.subscriberId nextCursor nowMs).exec s.service with
      | (.ok _, service) =>
        { s with
          service
          cursor := nextCursor
          acknowledged := s.acknowledged ++ [nextCursor]
          phase := .polling }
      | (.error fault, service) => { s with service, phase := .failed (failureOf fault) }
    | _ => s

/-- What else happens is a call on the journal, of the service of the same host. -/
def Legal [Sha256] (s : WatchActivity) : WatchStep → Prop
  | .call entries service =>
    service.localHostId = s.service.localHostId ∧ Step s.service.events entries service.events
  | _ => True

def appended (s : WatchActivity) : List ActivityEvent :=
  wanted s.included s.log s.start (published s.log s.start.epoch).length

/-- The watcher goes on, has printed what there was in order, and has acknowledged nothing else. -/
structure KeepsUp (s : WatchActivity) : Prop where
  goesOn : ∀ failure, s.phase ≠ .failed failure
  inOrder : s.printed <+: s.appended
  acknowledged : ∀ cursor ∈ s.acknowledged,
    wanted s.included s.log s.start cursor.sequence <+: s.printed

/-- What is there in one state has been printed in another as soon as there were as many polls. -/
def Prints (s s' : WatchActivity) : Prop :=
  s.polls + s.appended.length ≤ s'.polls → s.appended <+: s'.printed

/-- At a poll the journal has everything after the cursor, and the first event for the watcher fits a
page; at an acknowledgement it still has everything after the page, and a place for the subscriber. -/
def Undisturbed (s : WatchActivity) : WatchStep → Prop
  | .call _ _ => True
  | .poll _ => s.phase = .polling →
      s.service.events.InWindow s.cursor ∧ s.service.events.FirstFits s.cursor s.included
  | .acknowledge nowMs => ∀ nextCursor, s.phase = .acknowledging nextCursor →
      s.service.events.InWindow nextCursor ∧ s.service.events.HasPlace s.subscriberId nowMs

end WatchActivity

/-- A watcher that is given no cursor is sent a page first, and what it begins with is the oldest event
that the journal still has for it. -/
def BeginsWithOldest (service : DashboardService) (limit : ℕ) (subscriberId : SubscriberId) : Prop :=
  ∃ page next, (watchActivity service [] (cur none) limit subscriberId).events = .events page next ∧
    page.head? = ((service.events.events.filter fun stored =>
      isLocal service.localHostId stored.event).head?).map StoredEvent.event

section

variable [Sha256] {s s' : WatchActivity}

namespace WatchActivity

/-! ### Keeping up -/

def position (s : WatchActivity) : EventCursor :=
  match s.phase with
  | .acknowledging nextCursor => nextCursor
  | _ => s.cursor

structure Follows (s : WatchActivity) : Prop where
  consistent : s.service.events.Consistent s.log
  limit_pos : 0 < s.limit
  delivered : Delivered s.included s.start s.log s.position s.printed
  acknowledged : ∀ cursor ∈ s.acknowledged, cursor.sequence ≤ s.position.sequence
  goesOn : ∀ failure, s.phase ≠ .failed failure

omit [Sha256] in
theorem printed_subset_appended (h : Delivered s.included s.start s.log s.position s.printed) :
    s.printed <+: s.appended := by
  rw [h.delivered_eq]
  rcases h.within with hstart | hle
  · -- nothing has been printed at the start
    rw [hstart, wanted_start]
    exact List.nil_prefix
  · exact wanted_le hle

theorem Follows.keepsUp (h : Follows s) : KeepsUp s := by
  refine ⟨h.goesOn, printed_subset_appended h.delivered, fun cursor hcursor => ?_⟩
  rw [h.delivered.delivered_eq]
  exact wanted_le (h.acknowledged cursor hcursor)

/-- One state after another: nothing is forgotten, and each poll prints an event unless all has been. -/
structure Since (s s' : WatchActivity) : Prop where
  included_eq : s'.included = s.included
  start_eq : s'.start = s.start
  grows : s.log <+: s'.log
  polls_le : s.polls ≤ s'.polls
  progress : min s.appended.length (s'.polls - s.polls) ≤ s'.printed.length

omit [Sha256] in
theorem Since.appended_subset (h : Since s s') : s.appended <+: s'.appended := by
  obtain ⟨entries, hentries⟩ := h.grows
  rw [appended, appended, h.included_eq, h.start_eq, ← hentries, published_append, List.length_append,
    ← wanted_append (Nat.le_refl (published s.log s.start.epoch).length) entries]
  exact wanted_le (Nat.le_add_right _ _)

theorem Since.prints (h : Since s s') (hfollows : Follows s') : Prints s s' := by
  intro _
  have hprogress := h.progress
  exact List.prefix_of_prefix_length_le h.appended_subset (printed_subset_appended hfollows.delivered)
    (by omega)

/-! ### Steps -/

structure Moves (s s' : WatchActivity) : Prop where
  included_eq : s'.included = s.included
  start_eq : s'.start = s.start
  grows : s.log <+: s'.log
  printed : s'.polls = s.polls ∧ s'.printed = s.printed ∨ s'.polls = s.polls + 1 ∧
    (s.printed.length < s'.printed.length ∨ s'.printed = s'.appended)

omit [Sha256] in
theorem Since.moves {s₀ : WatchActivity} (h : Since s₀ s) (hmoves : Moves s s') : Since s₀ s' := by
  have hincluded := hmoves.included_eq.trans h.included_eq
  have hstart := hmoves.start_eq.trans h.start_eq
  have hgrows := h.grows.trans hmoves.grows
  have hprogress := h.progress
  have hle := h.polls_le
  rcases hmoves.printed with ⟨hpolls, hprinted⟩ | ⟨hpolls, _ | hall⟩
  · exact ⟨hincluded, hstart, hgrows, hpolls ▸ hle, by rw [hpolls, hprinted]; exact hprogress⟩
  · exact ⟨hincluded, hstart, hgrows, by omega, by omega⟩
  · refine ⟨hincluded, hstart, hgrows, by omega, ?_⟩
    have hsince : Since s₀ { s' with polls := s₀.polls } :=
      ⟨hincluded, hstart, hgrows, Nat.le_refl _, by simp⟩
    have hlength := hsince.appended_subset.length_le
    rw [hall]
    exact Nat.le_trans (Nat.min_le_left _ _) hlength

omit [Sha256] in
theorem limit_min (h : 0 < s.limit) : 0 < min s.limit maxPageEvents := Nat.lt_min.2 ⟨h, by decide⟩

theorem Follows.call (h : Follows s) {entries : List Entry} {service : DashboardService}
    (hhost : service.localHostId = s.service.localHostId)
    (hstep : Step s.service.events entries service.events) :
    Follows { s with service, log := s.log ++ entries } ∧
      Moves s { s with service, log := s.log ++ entries } := by
  have hincluded : included { s with service, log := s.log ++ entries } = s.included := by
    rw [included, included, hhost]
  refine ⟨⟨h.consistent.change (hstep.change h.consistent.bounded), h.limit_pos, ?_, h.acknowledged,
    h.goesOn⟩, hincluded, rfl, List.prefix_append _ _, .inl ⟨rfl, rfl⟩⟩
  rw [hincluded]
  exact h.delivered.append entries

theorem Follows.poll (h : Follows s) (hphase : s.phase = .polling)
    (hwindow : s.service.events.InWindow s.cursor)
    (hfirst : s.service.events.FirstFits s.cursor s.included) (nowMs : ℕ) :
    Follows (s.next (.poll nowMs)) ∧ Moves s (s.next (.poll nowMs)) := by
  obtain ⟨page, next, hread⟩ := (h.consistent.answered_iff h.limit_pos).2 ⟨hwindow, hfirst⟩
  have hposition : s.position = s.cursor := by rw [position, hphase]
  have hdelivered := h.delivered
  rw [hposition] at hdelivered
  have hpage := hdelivered.read h.consistent hread
  have hnext : s.next (.poll nowMs) =
      { s with
        service := ((DashboardService.expireIdle nowMs).exec s.service).2
        polls := s.polls + 1
        printed := s.printed ++ page
        phase := if page.isEmpty then .polling else .acknowledging next } := by
    rw [WatchActivity.next, hphase]
    exact congrArg (receive _) hread
  rw [hnext]
  have hconsistent := h.consistent.subscribers
    ((s.service.events.expireIdle nowMs).2.subscribers)
  obtain ⟨-, -, _, _, -⟩ := h.consistent.page_eq hread
  have hacknowledged : ∀ cursor ∈ s.acknowledged, cursor.sequence ≤ s.cursor.sequence := by
    intro cursor hcursor
    exact hposition ▸ h.acknowledged cursor hcursor
  by_cases hempty : page = []
  · -- the cursor stays, but what the page has been searched for is at its end
    subst hempty
    have hend := (h.consistent.page_ne_nil_or (limit_min h.limit_pos) hread).resolve_left fun hne => hne rfl
    refine ⟨⟨hconsistent, h.limit_pos, ?_, hacknowledged, fun _ hfailed => nomatch hfailed⟩, rfl, rfl,
      List.prefix_refl _, .inr ⟨rfl, .inr ?_⟩⟩
    · exact (List.append_nil s.printed).symm ▸ hdelivered
    · rw [← hwindow.epoch_eq, hdelivered.epoch_eq] at hend
      exact hpage.delivered_eq.trans (congrArg _ hend)
  · have hphase' : (if page.isEmpty then Phase.polling else .acknowledging next) = .acknowledging next := by
      rw [if_neg (by simpa using hempty)]
    rw [hphase']
    refine ⟨⟨hconsistent, h.limit_pos, hpage, fun cursor hcursor => ?_, fun _ hfailed => nomatch hfailed⟩,
      rfl, rfl, List.prefix_refl _, .inr ⟨rfl, .inl ?_⟩⟩
    · have hle := hacknowledged cursor hcursor
      change cursor.sequence ≤ next.sequence
      omega
    · have hpos := List.length_pos_iff.2 hempty
      change _ < (s.printed ++ page).length
      rw [List.length_append]
      omega

theorem Follows.acknowledge (h : Follows s) {nextCursor : EventCursor}
    (hphase : s.phase = .acknowledging nextCursor) (hwindow : s.service.events.InWindow nextCursor)
    {nowMs : ℕ} (hplace : s.service.events.HasPlace s.subscriberId nowMs) :
    Follows (s.next (.acknowledge nowMs)) ∧ Moves s (s.next (.acknowledge nowMs)) := by
  obtain ⟨subscribers, hexec⟩ := DashboardService.exec_acknowledge_inWindow h.consistent hwindow hplace
  have hposition : s.position = nextCursor := by rw [position, hphase]
  have hdelivered := h.delivered
  have hacknowledged := h.acknowledged
  rw [hposition] at hdelivered hacknowledged
  rw [WatchActivity.next, hphase]
  dsimp only
  rw [hexec]
  refine ⟨⟨h.consistent.subscribers subscribers, h.limit_pos, hdelivered, fun cursor hcursor => ?_,
    fun _ hfailed => nomatch hfailed⟩, rfl, rfl, List.prefix_refl _, .inl ⟨rfl, rfl⟩⟩
  rcases List.mem_append.1 hcursor with hcursor | hcursor
  · exact hacknowledged cursor hcursor
  · exact Nat.le_of_eq (congrArg EventCursor.sequence (List.mem_singleton.1 hcursor))

/-- **A step that leaves the cursor in the window keeps up.** -/
theorem Follows.next (h : Follows s) (step : WatchStep) (hlegal : s.Legal step)
    (hundisturbed : s.Undisturbed step) : Follows (s.next step) ∧ Moves s (s.next step) := by
  have hstay : Follows s ∧ Moves s s := ⟨h, rfl, rfl, List.prefix_refl _, .inl ⟨rfl, rfl⟩⟩
  cases step with
  | call => exact h.call hlegal.1 hlegal.2
  | poll nowMs =>
    cases hphase : s.phase with
    | polling =>
      obtain ⟨hwindow, hfirst⟩ := hundisturbed hphase
      exact h.poll hphase hwindow hfirst nowMs
    | acknowledging =>
      rw [WatchActivity.next, hphase]
      exact hstay
    | failed failure => exact absurd hphase (h.goesOn failure)
  | acknowledge =>
    cases hphase : s.phase with
    | acknowledging nextCursor =>
      obtain ⟨hwindow, hplace⟩ := hundisturbed nextCursor hphase
      exact h.acknowledge hphase hwindow hplace
    | polling =>
      rw [WatchActivity.next, hphase]
      exact hstay
    | failed failure => exact absurd hphase (h.goesOn failure)

/-! ### Runs -/

theorem Follows.run {steps : List WatchStep} (h : Follows s)
    (hsteps : AllSteps WatchActivity.next (fun s step => s.Legal step ∧ s.Undisturbed step) steps s) :
    Always WatchActivity.next Follows steps s :=
  hsteps.always (fun _ step hfollows hstep => (hfollows.next step hstep.1 hstep.2).1) h

omit [Sha256] in
theorem since_refl (s : WatchActivity) : Since s s :=
  ⟨rfl, rfl, List.prefix_refl _, Nat.le_refl _, by simp⟩

theorem Follows.since {steps : List WatchStep} (h : Follows s)
    (hsteps : AllSteps WatchActivity.next (fun s step => s.Legal step ∧ s.Undisturbed step) steps s) :
    Since s (steps.foldl WatchActivity.next s) := by
  have hinvariant := hsteps.always (I := fun s' => Follows s' ∧ Since s s')
    (fun s' step hs' hstep => by
      obtain ⟨hfollows, hmoves⟩ := hs'.1.next step hstep.1 hstep.2
      exact ⟨hfollows, hs'.2.moves hmoves⟩) ⟨h, since_refl s⟩
  exact hinvariant.last.2

theorem follows_watchActivity {service : DashboardService} {log : List Entry} {limit : ℕ}
    (hconsistent : service.events.Consistent log) (hlimit : 0 < limit) (cursor : EventCursor)
    (subscriberId : SubscriberId) : Follows (watchActivity service log cursor limit subscriberId) := by
  exact ⟨hconsistent, hlimit, ⟨rfl, Nat.le_refl _, .inl rfl, (wanted_start _ _ _).symm⟩,
    fun _ hmem => (nomatch hmem), fun _ hfailed => (nomatch hfailed)⟩

omit [Sha256] in
theorem lim_pos {given : Option ℕ} {limit : ℕ} (h : lim given = .ok limit) : 0 < limit := by
  unfold lim at h
  dsimp only at h
  split at h
  · next hrange =>
      cases h
      exact hrange.1
  · cases h

theorem beginsWithOldest_iff {service : DashboardService} {log : List Entry} {limit : ℕ}
    (h : service.events.Consistent log) (hlimit : 0 < limit) (subscriberId : SubscriberId) :
    BeginsWithOldest service limit subscriberId ↔ service.events.InWindow ⟨1, 0⟩ ∧
      service.events.FirstFits ⟨1, 0⟩ (isLocal service.localHostId) := by
  have hlt := h.length_le
  have hahead : service.events.ahead ⟨1, 0⟩ (isLocal service.localHostId) =
      service.events.events.filter fun stored => isLocal service.localHostId stored.event := by
    have hfirst : 0 + 1 ≤ service.events.nextCursorSequence - service.events.events.length := by omega
    rw [ahead, filter_eq_drop h.consecutive, Nat.sub_eq_zero_of_le hfirst, List.drop_zero]
  refine Iff.trans ?_ (h.answered_iff hlimit)
  constructor
  · rintro ⟨page, next, hread, -⟩
    exact ⟨page, next, hread⟩
  · rintro ⟨page, next, hread⟩
    exact ⟨page, next, hread, (h.head_of_answered hlimit hread).trans (by rw [hahead])⟩

/-- **A watcher keeps up in every run whose steps leave its cursor in the window**, and without a cursor it
begins with the oldest event exactly in a first epoch that has lost none. -/
theorem watches_of_run :
    (∀ (service : DashboardService) (given : Option ℕ) (limit : ℕ) (subscriberId : SubscriberId),
      Reachable service.events → lim given = .ok limit →
        (BeginsWithOldest service limit subscriberId ↔ service.events.InWindow ⟨1, 0⟩ ∧
          service.events.FirstFits ⟨1, 0⟩ (isLocal service.localHostId))) ∧
    ∀ (service : DashboardService) (maxEvents maxBytes : ℕ) (log : List Entry) (cursor : EventCursor)
      (given : Option ℕ) (limit : ℕ) (subscriberId : SubscriberId) (steps : List WatchStep),
      History maxEvents maxBytes service.events log → lim given = .ok limit →
        AllSteps next (fun s step => s.Legal step ∧ s.Undisturbed step) steps
          (watchActivity service log cursor limit subscriberId) →
        Always next KeepsUp steps (watchActivity service log cursor limit subscriberId) ∧
          ∀ before after, steps = before ++ after →
            Prints (before.foldl next (watchActivity service log cursor limit subscriberId))
              (steps.foldl next (watchActivity service log cursor limit subscriberId)) := by
  constructor
  · intro service given limit subscriberId hreachable hlimit
    obtain ⟨maxEvents, maxBytes, log, hlog⟩ := reachable_iff_history.1 hreachable
    exact beginsWithOldest_iff (consistent_of_history hlog) (lim_pos hlimit) subscriberId
  · intro service maxEvents maxBytes log cursor given limit subscriberId steps hlog hlimit hsteps
    have hfollows := (follows_watchActivity (consistent_of_history hlog) (lim_pos hlimit) cursor
      subscriberId).run hsteps
    refine ⟨fun before after happend => (hfollows before after happend).keepsUp, ?_⟩
    rintro before after rfl
    have hbefore := hfollows before after rfl
    have hsince := hbefore.since (allSteps_append.1 hsteps).2
    rw [← List.foldl_append] at hsince
    exact hsince.prints hfollows.last

omit [Sha256] in
/-- The watcher of the host itself prints its event. -/
theorem watches_sampleJournal : letI := eventHash
    let service := { DashboardService.sampleService with events := sampleJournal }
    BeginsWithOldest service 100 ⟨"cli-1", by decide⟩ ∧
      Always next KeepsUp [.poll 0]
        (watchActivity service [.published 1 "key" sampleEvent] ⟨1, 0⟩ 100 ⟨"cli-1", by decide⟩) := by
  let _ := eventHash
  have hwindow : sampleJournal.InWindow ⟨1, 0⟩ := ⟨rfl, (by decide : 0 < 2), Nat.le_refl 1⟩
  have hfits : ∀ included, sampleJournal.FirstFits ⟨1, 0⟩ included := by
    intro included stored hstored
    have hmem := List.mem_of_mem_filter (List.mem_of_mem_filter (List.mem_of_mem_head? hstored))
    rw [List.mem_singleton.1 hmem]
    exact fitsPage_of_inU64 inU64_sampleEvent validate_sampleEvent nofun
  constructor
  · exact (watches_of_run.1 _ none 100 _ (reachable_iff_history.2 ⟨_, _, _, history_sampleJournal⟩)
      rfl).2 ⟨hwindow, hfits _⟩
  · exact (watches_of_run.2 { DashboardService.sampleService with events := sampleJournal } _ _ _ ⟨1, 0⟩
      none 100 _ [.poll 0] history_sampleJournal rfl ⟨⟨trivial, fun _ => ⟨hwindow, hfits _⟩⟩, trivial⟩).1

/-! ### Where the watcher is pushed out -/

/-- Every watcher without a cursor begins with what there is. -/
def AlwaysBegins : Prop :=
  ∀ (service : DashboardService) (given : Option ℕ) (limit : ℕ) (subscriberId : SubscriberId),
    Reachable service.events → lim given = .ok limit → BeginsWithOldest service limit subscriberId

def Paced (capacity : ℕ) : ℕ → List WatchStep → Prop
  | _, [] => True
  | taken, .call entries _ :: steps => Paced capacity (taken + entries.length) steps
  | taken, .poll _ :: steps => taken < capacity ∧ Paced capacity 0 steps
  | taken, .acknowledge _ :: steps => Paced capacity taken steps

def Calm (s : WatchActivity) : WatchStep → Prop
  | .call _ service => service.events.epoch = s.service.events.epoch ∧
      ∀ stored ∈ service.events.events, FitsPage stored.event
  | _ => True

/-- Every watcher that polls often enough keeps up. -/
def AlwaysKeepsUp : Prop :=
  ∀ (service : DashboardService) (maxEvents maxBytes : ℕ) (log : List Entry) (cursor : EventCursor)
    (given : Option ℕ) (limit : ℕ) (subscriberId : SubscriberId) (steps : List WatchStep),
    History maxEvents maxBytes service.events log → lim given = .ok limit →
      service.events.InWindow cursor → Paced service.events.maxEvents 0 steps →
        AllSteps next (fun s step => s.Legal step ∧ s.Calm step) steps
          (watchActivity service log cursor limit subscriberId) →
        Always next KeepsUp steps (watchActivity service log cursor limit subscriberId)

def numberedKey (n : ℕ) : String := ["one", "two", "three"].getD n ""

def numberedEntry (n : ℕ) : Entry := .published 1 (numberedKey n) { sampleEvent with sequence := n + 1 }

structure Holds (n : ℕ) (inner : EventJournal) : Prop where
  history : History 2 maxEventBytes inner ((List.range n).map numberedEntry)
  epoch_eq : inner.epoch = 1
  subscribers_eq : inner.subscribers = ∅

variable {n : ℕ} {inner : EventJournal}

omit [Sha256] in
theorem inU64_numbered (hn : n < 3) : ({ sampleEvent with sequence := n + 1 } : ActivityEvent).InU64 := by
  have hmax : 3 ≤ u64Max := by decide
  exact { inU64_sampleEvent with sequence_le := Nat.le_trans hn hmax }

theorem Holds.of_stored (h : Holds n inner) {stored : StoredEvent} (hstored : stored ∈ inner.events) :
    ∃ i < n, stored.idempotencyKey = numberedKey i ∧
      stored.event = { sampleEvent with sequence := i + 1 } := by
  have hpublished := (consistent_of_history h.history).exists_published hstored
  obtain ⟨i, hi, hentry⟩ := List.mem_map.1 hpublished
  obtain ⟨-, hkey, hevent⟩ := Entry.published.inj hentry
  exact ⟨i, List.mem_range.1 hi, hkey.symm, hevent.symm⟩

theorem Holds.length_published (h : Holds n inner) :
    inner.nextCursorSequence = n + 1 := by
  have hall : ∀ m, (published ((List.range m).map numberedEntry) 1).length = m := by
    intro m
    induction m with
    | zero => rfl
    | succ m ih =>
      rw [List.range_succ, List.map_append, published_append, List.length_append, ih]
      rfl
  rw [(consistent_of_history h.history).cursor_eq, h.epoch_eq, hall]

theorem Holds.append (h : Holds n inner) (hn : n < 3)
    (hroom : ¬inner.needsRotation { sampleEvent with sequence := n + 1 }) :
    ∃ inner', Step inner [numberedEntry n] inner' ∧ Holds (n + 1) inner' := by
  have hconsistent := consistent_of_history h.history
  obtain ⟨hevents, hbytes⟩ := bounds_of_history h.history
  have hkeys : ∀ n < 3, trim (numberedKey n) ≠ "" ∧ (numberedKey n).utf8ByteSize ≤ 256 ∧
      ∀ i < n, numberedKey i ≠ numberedKey n := by decide
  obtain ⟨hblank, hsize, hfresh⟩ := hkeys n hn
  have hmax : 5 ≤ u64Max := by decide
  have hlast : ((numbers ((List.range n).map numberedEntry) 1 sampleEvent.activityId).getLast?) =
      if n = 0 then none else some n := by
    cases n with
    | zero => rfl
    | succ =>
      rw [List.range_succ, List.map_append]
      exact getLast?_numbers_append_published _ 1 1 _ _ _
  have haccepts : inner.Accepts (numberedKey n) { sampleEvent with sequence := n + 1 }
      ({ sampleEvent with sequence := n + 1 } : ActivityEvent).toJson.toVec :=
    { checked := checkEvent_eq_ok rfl nofun hblank hsize
      fresh := by
        by_contra hknown
        obtain ⟨_, hrecord⟩ := Option.ne_none_iff_exists'.1 hknown
        obtain ⟨_, hstored, hkey, -⟩ := (hconsistent.idempotency_iff _ _).1 hrecord
        obtain ⟨i, hi, hkey', -⟩ := h.of_stored hstored
        exact hfresh i hi (hkey'.symm.trans hkey)
      sequence_ne := by
        change n + 1 ≠ u64Max
        omega
      capacity := by
        rw [hevents]
        decide
      fits := by
        have hlength := ActivityEvent.length_toJson_le (inU64_numbered hn) rfl nofun
        have hroom : 2 ^ 18 ≤ inner.maxBytes := by
          rw [hbytes]
          decide
        omega
      expected := by
        rw [hconsistent.last, h.epoch_eq, hlast]
        split
        · next hzero =>
            subst hzero
            rfl
        · exact if_pos (by omega)
      epoch_lt := fun hfull => absurd hfull hroom
      cursor_lt := fun _ => by
        rw [h.length_published]
        omega }
  have hstep := Step.of_accepts haccepts (pure () : Eff Unit Unit Unit) () rfl
  rw [opened, if_neg hroom, h.epoch_eq] at hstep
  refine ⟨_, hstep, ?_, (epoch_publish _ _ _ _ _).trans h.epoch_eq, ?_⟩
  · have hhistory := h.history.step hstep
    rw [List.range_succ, List.map_append]
    exact hhistory
  · obtain ⟨_, _, _, -, heq⟩ := publish_eq inner (numberedKey n) { sampleEvent with sequence := n + 1 }
      ({ sampleEvent with sequence := n + 1 } : ActivityEvent).toJson.toVec (inner.nextCursorSequence + 1)
    rw [heq]
    exact h.subscribers_eq

theorem poll_cases {s : WatchActivity} {log : List Entry} (h : s.service.events.Consistent log)
    (hlimit : 0 < s.limit) (hphase : s.phase = .polling)
    (hnone : s.service.events.ahead s.cursor s.included = []) (nowMs : ℕ) :
    (∃ failure, (s.next (.poll nowMs)).phase = .failed failure) ∨
      s.service.events.InWindow s.cursor ∧ (s.next (.poll nowMs)).phase = .polling ∧
        (s.next (.poll nowMs)).cursor = s.cursor ∧ (s.next (.poll nowMs)).limit = s.limit := by
  rw [WatchActivity.next, hphase]
  dsimp only
  generalize hread : events _ = answer
  cases answer with
  | events page next =>
    have hanswer : s.events = .events page next := hread
    have hwindow := ((h.answered_iff hlimit).1 ⟨page, next, hanswer⟩).1
    have hhead := h.head_of_answered hlimit hanswer
    obtain rfl : page = [] := by
      rw [hnone] at hhead
      exact List.head?_eq_none_iff.1 hhead
    exact .inr ⟨hwindow, rfl, rfl, rfl⟩
  | cursorAhead | resyncRequired | limitExceeded => exact .inl ⟨_, rfl⟩

omit [Sha256] in
theorem service_poll {s : WatchActivity} (h : s.service.events.subscribers = ∅) (nowMs : ℕ) :
    (s.next (.poll nowMs)).service = s.service := by
  have hexpired : ((DashboardService.expireIdle nowMs).exec s.service).2 = s.service := by
    have hsame : (s.service.events.expireIdle nowMs).2 = s.service.events := by
      rw [expireIdle, h]
      exact congrArg (fun subscribers => { s.service.events with subscribers }) h.symm
    exact congrArg (fun events => { s.service with events }) hsame
  rw [WatchActivity.next]
  split
  · dsimp only
    rw [hexpired]
    generalize events _ = answer
    cases answer <;> rfl
  · rfl

def deskService (inner : EventJournal) : DashboardService :=
  { DashboardService.sampleService with localHostId := ⟨"desk", by decide⟩, events := inner }

theorem Holds.ahead_eq_nil (h : Holds n inner) (cursor : EventCursor) :
    inner.ahead cursor (isLocal (deskService inner).localHostId) = [] := by
  refine List.filter_eq_nil_iff.2 fun stored hstored => ?_
  obtain ⟨_, -, -, hevent⟩ := h.of_stored (List.mem_of_mem_filter hstored)
  rw [hevent]
  have hfar : isLocal ⟨"desk", by decide⟩ sampleEvent = false := by decide
  exact Bool.eq_false_iff.1 hfar

theorem Holds.not_needsRotation (h : Holds (n + 1) inner) (m : ℕ) :
    ¬inner.needsRotation { sampleEvent with sequence := m } := by
  intro hfull
  have hlast := (consistent_of_history h.history).last sampleEvent.activityId
  rw [h.epoch_eq, List.range_succ, List.map_append] at hlast
  have hnone := hfull.1.symm.trans hlast
  rw [List.map_singleton, numberedEntry, getLast?_numbers_append_published] at hnone
  cases hnone

theorem exists_journals : ∃ first second third : EventJournal,
    Holds 1 first ∧ Step first [numberedEntry 1] second ∧ Holds 2 second ∧
      Step second [numberedEntry 2] third ∧ Holds 3 third := by
  have hnew : Holds 0 (withBounds 1 0 2 maxEventBytes) := ⟨.withBounds 1 0, rfl, rfl⟩
  obtain ⟨first, -, hfirst⟩ := hnew.append (by omega) fun hfull => absurd hfull.2 (by decide)
  obtain ⟨second, hstep, hsecond⟩ := hfirst.append (by omega) (hfirst.not_needsRotation _)
  obtain ⟨third, hstep', hthird⟩ := hsecond.append (by omega) (hsecond.not_needsRotation _)
  exact ⟨first, second, third, hfirst, hstep, hsecond, hstep', hthird⟩

theorem Holds.not_inWindow (h : Holds 3 inner) : ¬inner.InWindow ⟨1, 0⟩ := by
  intro hwindow
  have hle : inner.nextCursorSequence - inner.events.length ≤ 0 + 1 := hwindow.oldest_le
  have hlength := (consistent_of_history h.history).bounded.events_le
  rw [(bounds_of_history h.history).1] at hlength
  rw [h.length_published] at hle
  have hmax : min 2 Dashboard.maxEvents = 2 := by decide
  omega

def deskSteps (second third : EventJournal) : List WatchStep :=
  [.poll 0, .call [numberedEntry 1] (deskService second), .poll 0,
    .call [numberedEntry 2] (deskService third), .poll 0]

section

omit [Sha256]

theorem not_alwaysBegins : ¬∃ _ : Sha256, AlwaysBegins := by
  rintro ⟨_, hbegins⟩
  obtain ⟨-, -, third, -, -, -, -, hthird⟩ := exists_journals
  have hreachable : Reachable (deskService third).events :=
    reachable_iff_history.2 ⟨_, _, _, hthird.history⟩
  have hbegin := hbegins (deskService third) none 100 ⟨"cli-1", by decide⟩ hreachable rfl
  exact hthird.not_inWindow
    ((beginsWithOldest_iff (consistent_of_history hthird.history) (by omega) _).1 hbegin).1

theorem not_alwaysKeepsUp : ¬∃ _ : Sha256, AlwaysKeepsUp := by
  rintro ⟨_, hkeepsUp⟩
  obtain ⟨first, second, third, hfirst, hstep, hsecond, hstep', hthird⟩ := exists_journals
  have hfits : ∀ n inner, n ≤ 3 → Holds n inner → ∀ stored ∈ inner.events, FitsPage stored.event := by
    intro n inner _ hholds stored hstored
    obtain ⟨_, _, -, hevent⟩ := hholds.of_stored hstored
    exact hevent ▸ fitsPage_of_inU64 (inU64_numbered (by omega)) rfl nofun
  have hwindow : first.InWindow ⟨1, 0⟩ := by
    have hconsistent := consistent_of_history hfirst.history
    have hne : first.events ≠ [] := fun hempty =>
      absurd (hconsistent.first_eq_one hempty) (by rw [hfirst.length_published]; decide)
    have hpos := List.length_pos_iff.2 hne
    refine ⟨hfirst.epoch_eq.symm, ?_, ?_⟩ <;> rw [hfirst.length_published] <;> dsimp only <;> omega
  let s₀ := watchActivity (deskService first) ((List.range 1).map numberedEntry) ⟨1, 0⟩ 100 ⟨"cli-1", by decide⟩
  let s₁ := s₀.next (.poll 0)
  let s₂ := s₁.next (.call [numberedEntry 1] (deskService second))
  let s₃ := s₂.next (.poll 0)
  let s₄ := s₃.next (.call [numberedEntry 2] (deskService third))
  have h₁ : s₁.service = deskService first := service_poll hfirst.subscribers_eq 0
  have h₃ : s₃.service = deskService second := service_poll (s := s₂) hsecond.subscribers_eq 0
  have hpaced : Paced (deskService first).events.maxEvents 0 (deskSteps second third) := by
    have hcapacity : (deskService first).events.maxEvents = 2 := (bounds_of_history hfirst.history).1
    rw [hcapacity]
    simp [deskSteps, Paced]
  have hsteps : AllSteps next (fun s step => s.Legal step ∧ s.Calm step) (deskSteps second third) s₀ := by
    refine ⟨⟨trivial, trivial⟩, ⟨⟨?_, ?_⟩, ?_, hfits 2 second (by omega) hsecond⟩, ⟨trivial, trivial⟩,
      ⟨⟨?_, ?_⟩, ?_, hfits 3 third (by omega) hthird⟩, ⟨trivial, trivial⟩, trivial⟩
    · exact (congrArg DashboardService.localHostId h₁).symm
    · exact h₁.symm ▸ hstep
    · exact hsecond.epoch_eq.trans (h₁.symm ▸ hfirst.epoch_eq.symm)
    · exact (congrArg DashboardService.localHostId h₃).symm
    · exact h₃.symm ▸ hstep'
    · exact hthird.epoch_eq.trans (h₃.symm ▸ hsecond.epoch_eq.symm)
  have hrun := hkeepsUp (deskService first) 2 maxEventBytes _ ⟨1, 0⟩ none 100 ⟨"cli-1", by decide⟩
    (deskSteps second third) hfirst.history rfl hwindow hpaced hsteps
  have hpolled : ∀ s : WatchActivity, ∀ n inner, Holds n inner → s.service = deskService inner →
      s.phase = .polling → 0 < s.limit → KeepsUp (s.next (.poll 0)) →
        inner.InWindow s.cursor ∧ (s.next (.poll 0)).phase = .polling ∧
          (s.next (.poll 0)).cursor = s.cursor ∧ (s.next (.poll 0)).limit = s.limit := by
    intro s n inner hholds hservice hphase hlimit hkeeps
    have hnone : s.service.events.ahead s.cursor s.included = [] := by
      rw [included, hservice]
      exact hholds.ahead_eq_nil s.cursor
    have hconsistent : s.service.events.Consistent ((List.range n).map numberedEntry) :=
      hservice ▸ consistent_of_history hholds.history
    rcases poll_cases hconsistent hlimit hphase hnone 0 with ⟨failure, hfailed⟩ | hstays
    · exact absurd hfailed (hkeeps.goesOn failure)
    · rw [hservice] at hstays
      exact hstays
  have hkeeps := hrun.last
  have hlimit : 0 < s₀.limit := Nat.succ_pos 99
  -- the first two polls have not moved the cursor, and the third finds that an event is gone
  obtain ⟨-, hphase₁, hcursor₁, hlimit₁⟩ := hpolled s₀ 1 first hfirst rfl rfl hlimit
    (hrun [.poll 0] _ rfl)
  obtain ⟨-, hphase₃, hcursor₃, hlimit₃⟩ := hpolled s₂ 2 second hsecond rfl hphase₁
    (Nat.lt_of_lt_of_eq hlimit hlimit₁.symm) (hrun [.poll 0, .call [numberedEntry 1] (deskService second),
      .poll 0] _ rfl)
  obtain ⟨hin, -⟩ := hpolled s₄ 3 third hthird rfl hphase₃
    (Nat.lt_of_lt_of_eq hlimit (hlimit₃.trans hlimit₁).symm) hkeeps
  have hcursor : s₄.cursor = ⟨1, 0⟩ := hcursor₃.trans hcursor₁
  rw [hcursor] at hin
  exact hthird.not_inWindow hin

/-- **Watchers do not always keep up.** -/
theorem not_alwaysWatches : (¬∃ _ : Sha256, AlwaysBegins) ∧ ¬∃ _ : Sha256, AlwaysKeepsUp :=
  ⟨not_alwaysBegins, not_alwaysKeepsUp⟩

end

end WatchActivity

end

end Cli
