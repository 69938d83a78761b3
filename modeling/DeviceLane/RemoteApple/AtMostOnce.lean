/-
**Tools are run at most once.**

The agent runs the tool of a job only after the registry has told it that the job still waits and that it
is known to be under way. A job that is known to be under way is not given out again, and its agent
forgets it only when the registry has stored its end; so no tool is run twice, whatever gets lost.

A client may cancel a job that is under way, though: where a heartbeat has given a job out once more and
its state could not be stored, the registry takes the job back that the agent has got already, and ends it
when it is cancelled, as if it had never been given out.

Main definitions:

* `RemoteApple.Sound` — what holds of the registry, the agent and the messages between them.

Main results:

* `RemoteApple.atMostOnce_of_run` — **no tool is run twice or too late, in every careful run**.
-/

import DeviceLane.RemoteApple.MeshAgent
import DeviceLane.RemoteApple.Reports

namespace RemoteApple

open Registry
open Runs (AllSteps)

variable {jobId : String}

/-! ### Where the agent is -/

def Stage.Late : Stage → Prop
  | .executing => True
  | .reporting _ => True
  | _ => False

namespace Agent

def stageOf (agent : Agent) (jobId : String) : Option Stage :=
  (agent.running.lookup jobId).map Flow.stage

theorem stageOf_setStage (agent : Agent) (jobId : String) (flow : Flow) (stage : Stage) (other : String) :
    (agent.setStage jobId flow stage).stageOf other
      = if other = jobId then some stage else agent.stageOf other := by
  change (Map.lookup (Map.insert _ _ _) other).map Flow.stage = _
  rw [Map.lookup_insert]
  split
  · rfl
  · rfl

@[simp] theorem stageOf_cancelJobs (agent : Agent) (jobIds : Finset String) (jobId : String) :
    (agent.cancelJobs jobIds).stageOf jobId = agent.stageOf jobId := by
  change (Map.lookup (Map.mapValues _ _) jobId).map Flow.stage = _
  rw [Map.lookup_mapValues, Option.map_map]
  rfl

theorem stageOf_start (agent : Agent) (jobId : String) (operation : AppleRequest)
    (grant : Option LeaseGrant) (other : String) :
    (agent.start jobId operation grant).stageOf other
      = if other = jobId then some .starting else agent.stageOf other := by
  change (Map.lookup (Map.insert _ _ _) other).map Flow.stage = _
  rw [Map.lookup_insert]
  split
  · rfl
  · rfl

theorem stageOf_receive (config : AgentConfig) (answer : Response) (agent : Agent) :
    (∀ jobId, (agent.receive config answer).stageOf jobId = agent.stageOf jobId) ∨
      ∃ jobId, agent.stageOf jobId = none ∧
        ∀ other, (agent.receive config answer).stageOf other
          = if other = jobId then some .starting else agent.stageOf other := by
  have htold := agent.stageOf_cancelJobs answer.cancelJobs
  unfold receive
  dsimp only
  generalize agent.cancelJobs answer.cancelJobs = told at htold
  split
  · rename_i jobId operation hjob hoperation
    split
    · rename_i hnew
      refine .inr ⟨jobId, ?_, fun other => ?_⟩
      · rw [← htold, stageOf, Option.isNone_iff_eq_none.1 hnew.2]
        rfl
      · rw [stageOf_start, htold]
    · exact .inl htold
  · exact .inl htold

theorem stageOf_acknowledge_ne (agent : Agent) {report : Report} {jobId : String}
    (h : jobId ≠ report.jobId) : (agent.acknowledge report).stageOf jobId = agent.stageOf jobId := by
  unfold acknowledge
  split
  · rfl
  · split
    · split
      · change (agent.setStage report.jobId _ _).stageOf jobId = _
        rw [stageOf_setStage, if_neg h]
      · change (Map.lookup (Map.erase _ _) jobId).map Flow.stage = _
        rw [Map.lookup_erase, if_neg h]
        rfl
    · rfl

/-- **What becomes of a job with a report that is accepted**: nothing, or the start or the end of the job
is over. -/
theorem stageOf_acknowledge (agent : Agent) (report : Report) :
    (agent.acknowledge report).stageOf report.jobId = agent.stageOf report.jobId ∨
    agent.stageOf report.jobId = some .starting ∧ report.terminal = false ∧
      (agent.acknowledge report).stageOf report.jobId = some (.prepared true) ∨
    report.terminal = true ∧ (agent.acknowledge report).stageOf report.jobId = none := by
  unfold acknowledge
  split
  · exact .inl rfl
  · rename_i flow hflow
    have hstage : agent.stageOf report.jobId = some flow.stage := by
      rw [stageOf, hflow]
      rfl
    split
    · rename_i hreport
      split
      · rename_i hstarting
        rw [hstarting] at hstage hreport
        refine .inr (.inl ⟨hstage, ?_, ?_⟩)
        · rw [← Option.some.inj hreport]
          rfl
        · change (agent.setStage report.jobId _ _).stageOf report.jobId = _
          rw [stageOf_setStage, if_pos rfl]
      · rename_i hstarting
        refine .inr (.inr ⟨?_, ?_⟩)
        · cases hlast : flow.stage with
          | starting => exact absurd hlast hstarting
          | reporting =>
            rw [hlast] at hreport
            rw [← Option.some.inj hreport]
            rfl
          | _ =>
            rw [hlast] at hreport
            cases hreport
        · change (Map.lookup (Map.erase _ _) report.jobId).map Flow.stage = _
          rw [Map.lookup_erase, if_pos rfl]
          rfl
    · exact .inl rfl

theorem hear_cases (agent : Agent) (read : Bool) (report : Report) (answer : Option Response) :
    agent.hear read report answer = agent ∨
      ∃ accepted, answer = some accepted ∧ accepted.accepted = true ∧
        agent.hear read report answer = agent.acknowledge report := by
  unfold hear
  split
  · rename_i hread
    obtain ⟨accepted, hsome, haccepted⟩ := (Option.any_eq_true _ _).1 hread.2
    exact .inr ⟨accepted, hsome, haccepted, rfl⟩
  · exact .inl rfl

end Agent

/-! ### What holds of registry and agent -/

def Reported (sent : List Report) (jobId : String) : Prop :=
  ∃ report ∈ sent, report.jobId = jobId ∧ report.terminal = true

/-- **What holds of a job**, in terms of where the agent is with it: where its tool has been run or its end
has been reported, the agent is past it, or the registry has stored the end; and where the agent is about
to run the tool, this is the first time, and the registry knows. -/
structure JobSound (peerId jobId : String) (registry : Runtime) (stage : Option Stage)
    (executed reported : Prop) : Prop where
  late : executed → (registry.Lasts fun state => Ended state jobId) ∨
    ∃ late, stage = some late ∧ late.Late
  told : reported → (registry.Lasts fun state => Ended state jobId) ∨
    ∃ events, stage = some (.reporting events)
  first : stage = some (.prepared true) → ¬ executed ∧ registry.Lasts (Underway peerId jobId)

/-- What holds of all jobs; and the end of a job that is on the disk is known. -/
structure Joint (peerId : String) (registry : Runtime) (agent : Agent) (executed : List String)
    (sent : List Report) : Prop where
  guarded : registry.Guarded
  ahead : ∀ jobId, Ended registry.storedState jobId → registry.Lasts fun state => Ended state jobId
  jobs : ∀ jobId, JobSound peerId jobId registry (agent.stageOf jobId) (jobId ∈ executed)
    (Reported sent jobId)

/-- **What holds of the registry, an agent and the messages between them.** -/
structure Sound (peerId : String) (world : World) : Prop where
  joint : Joint peerId world.registry world.agent world.executed world.sent
  nodup : world.executed.Nodup
  heldEnd : ∀ report, world.held = some report → report.terminal = true →
    world.registry.Lasts fun state => Ended state report.jobId
  heldStart : ∀ report, world.held = some report → report.terminal = false →
    ∃ other, world.registry.holder = some (.rollingBack other)

theorem sound_empty (peerId : String) : Sound peerId World.empty where
  joint :=
    { guarded := fun _ => rfl
      ahead := fun jobId hended => by cases hended.1
      jobs := fun jobId => by
        refine ⟨fun hmem => absurd hmem List.not_mem_nil, ?_, fun hstage => by cases hstage⟩
        rintro ⟨report, hmem, -⟩
        exact absurd hmem List.not_mem_nil }
  nodup := List.nodup_nil
  heldEnd report hheld := by cases hheld
  heldStart report hheld := by cases hheld

section

variable [Sha256] {config : Config} {peerId : String} {registry : Runtime} {agent : Agent}
  {executed : List String} {sent : List Report}

/-- **The registry takes a step**: new jobs get new names, and jobs that the agent is about to run are
left alone. -/
theorem Joint.next (h : Joint peerId registry agent executed sent) {input : Input}
    (hfresh : Meets FreshName registry input)
    (hspares : ∀ jobId, agent.stageOf jobId = some (.prepared true) →
      registry.Lasts (Underway peerId jobId) → Meets (Spares peerId jobId) registry input) :
    Joint peerId (registry.next config input) agent executed sent := by
  have hended : ∀ jobId, (registry.Lasts fun state => Ended state jobId) →
      (registry.next config input).Lasts fun state => Ended state jobId :=
    fun jobId hlasts => (ended_lasting config jobId).next h.guarded hlasts hfresh
  refine ⟨guarded_next h.guarded input, fun jobId hstored => ?_, fun jobId => ⟨fun hexecuted => ?_,
    fun hreported => ?_, fun hstage => ?_⟩⟩
  · have hdisk : (registry.next config input).storedState = registry.storedState ∨
        (registry.next config input).storedState.core = (registry.next config input).state.core := by
      cases input with
      | event env event => exact (handle_stores config env event registry).state
      | start env again unreadable debris =>
        unfold Runtime.next
        dsimp only
        split
        · obtain ⟨-, -, -, hstart, -⟩ := start_cases env again unreadable debris registry
          exact hstart
        · exact .inl rfl
    rcases hdisk with hsame | hcore
    · rw [hsame] at hstored
      exact hended jobId (h.ahead jobId hstored)
    · exact ⟨.inr ((ended_of_core hcore).1 hstored), hstored⟩
  · exact ((h.jobs jobId).late hexecuted).imp_left (hended jobId)
  · exact ((h.jobs jobId).told hreported).imp_left (hended jobId)
  · obtain ⟨hnot, hunderway⟩ := (h.jobs jobId).first hstage
    exact ⟨hnot, (underway_lasting config peerId jobId).next h.guarded hunderway
      (hspares jobId hstage hunderway)⟩

omit [Sha256] in
/-- **A report is accepted**: the registry knows of the start, or it has stored the end. -/
theorem Joint.acknowledge (h : Joint peerId registry agent executed sent) {report : Report}
    (hstart : report.terminal = false → agent.stageOf report.jobId = some .starting →
      report.jobId ∉ executed ∧ registry.Lasts (Underway peerId report.jobId))
    (hend : report.terminal = true → registry.Lasts fun state => Ended state report.jobId) :
    Joint peerId registry (agent.acknowledge report) executed sent := by
  refine ⟨h.guarded, h.ahead, fun jobId => ?_⟩
  have hjob := h.jobs jobId
  by_cases hsame : jobId = report.jobId
  · subst hsame
    rcases agent.stageOf_acknowledge report with hkept | ⟨hstage, hstarts, hafter⟩ | ⟨hends, hafter⟩
    · rw [hkept]
      exact hjob
    · rw [hafter]
      rw [hstage] at hjob
      refine ⟨fun hexecuted => ?_, fun hreported => ?_, fun _ => hstart hstarts hstage⟩
      · exact absurd hexecuted (hstart hstarts hstage).1
      · refine .inl ((hjob.told hreported).resolve_right ?_)
        rintro ⟨_, hreporting⟩
        cases hreporting
    · rw [hafter]
      exact ⟨fun _ => .inl (hend hends), fun _ => .inl (hend hends), fun hstage => by cases hstage⟩
  · rw [agent.stageOf_acknowledge_ne hsame]
    exact hjob

omit [Sha256] in
theorem Joint.hear (h : Joint peerId registry agent executed sent) (read : Bool) {report : Report}
    {answer : Option Response}
    (hstart : ∀ accepted, answer = some accepted → accepted.accepted = true → report.terminal = false →
      agent.stageOf report.jobId = some .starting →
        report.jobId ∉ executed ∧ registry.Lasts (Underway peerId report.jobId))
    (hend : ∀ accepted, answer = some accepted → accepted.accepted = true → report.terminal = true →
      registry.Lasts fun state => Ended state report.jobId) :
    Joint peerId registry (agent.hear read report answer) executed sent := by
  rcases agent.hear_cases read report answer with hsame | ⟨accepted, hanswer, haccepted, hafter⟩
  · rw [hsame]
    exact h
  · rw [hafter]
    exact h.acknowledge (hstart accepted hanswer haccepted) (hend accepted hanswer haccepted)

end

/-! ### The moves of the registry -/

section

variable [Sha256] {config : Config} {agentConfig : AgentConfig} {world : World}

/-- New jobs get new names, and a cancel does not end a job that its agent has reported on. -/
structure Considerate (runtime : Runtime) (event : Event) : Prop where
  fresh : FreshName runtime event
  cancel : ∀ client jobId, event = .request client (.appleCancel jobId) →
    runtime.state.jobClients.lookup jobId = some client →
    (runtime.state.applePending.lookup jobId).isSome →
    jobId ∉ runtime.state.dispatched → jobId ∉ runtime.state.acknowledged

/-- What the registry gets is considerate. -/
def Careful (world : World) : Move → Prop
  | .registry input => Meets Considerate world.registry input
  | _ => True

theorem sound_input {input : Input} (h : Sound agentConfig.peerId world)
    (hcareful : Meets Considerate world.registry input) (hother : reportsAs agentConfig input = false) :
    Sound agentConfig.peerId (world.input config agentConfig input) := by
  have hfresh : Meets FreshName world.registry input := by
    cases input with
    | event => exact hcareful.fresh
    | start => trivial
  have hlasts : ∀ jobId, (world.registry.Lasts fun state => Ended state jobId) →
      (world.registry.next config input).Lasts fun state => Ended state jobId :=
    fun jobId hlasts => (ended_lasting config jobId).next h.joint.guarded hlasts hfresh
  refine ⟨h.joint.next hfresh fun jobId _ _ => ?_, h.nodup, ?_, ?_⟩
  · cases input with
    | start => trivial
    | event =>
      refine ⟨hfresh, fun client => hcareful.cancel client jobId, fun events hevent => ?_⟩
      rw [hevent] at hother
      exact absurd (decide_eq_true rfl) (Bool.eq_false_iff.1 hother)
  · intro report hheld hterminal
    cases input with
    | start => cases hheld
    | event =>
      change (if _ then world.held else none) = some report at hheld
      split at hheld
      · exact hlasts report.jobId (h.heldEnd report hheld hterminal)
      · cases hheld
  · intro report hheld hterminal
    cases input with
    | start => cases hheld
    | event env event =>
      change (if _ then world.held else none) = some report at hheld
      change ∃ other, (handle config env event world.registry).1.holder = _
      split at hheld
      · rename_i hkept
        obtain ⟨other, hholder⟩ := h.heldStart report hheld hterminal
        refine ⟨other, ?_⟩
        by_cases hsettle : event = .settle
        · subst hsettle
          rcases settle_rollingBack config env hholder with hnone | hsame
          · change (handle config env .settle world.registry).1.holder.isSome = true at hkept
            rw [hnone] at hkept
            cases hkept
          · rw [hsame]
            exact hholder
        · exact holder_kept hholder hsettle
      · cases hheld

/-- **The registry comes to a report of the agent.** -/
theorem sound_report (h : Sound agentConfig.peerId world) (env : Env) {report : Report}
    (hsent : report ∈ world.sent) (read : Bool) :
    Sound agentConfig.peerId (world.report config agentConfig env report read) := by
  have hfresh : FreshName world.registry
      (.request agentConfig.peerId (.appleProgress report.jobId report.events report.terminal)) := by
    rintro client operation (hevent | hevent)
    · cases hevent
    · cases hevent
  have hlasts : ∀ jobId, (world.registry.Lasts fun state => Ended state jobId) →
      (handle config env (.request agentConfig.peerId
        (.appleProgress report.jobId report.events report.terminal)) world.registry).1.Lasts
          fun state => Ended state jobId := by
    intro jobId hlasts
    have hmeets : Meets FreshName world.registry (.event env _) := hfresh
    exact (ended_lasting config jobId).next h.joint.guarded hlasts hmeets
  have hjoint : Joint agentConfig.peerId (handle config env (.request agentConfig.peerId
      (.appleProgress report.jobId report.events report.terminal)) world.registry).1 world.agent
        world.executed world.sent := by
    have hmeets : Meets FreshName world.registry (.event env _) := hfresh
    refine h.joint.next hmeets fun jobId hstage hunderway =>
      ⟨hfresh, fun client hevent => ?_, fun events hevent => ?_⟩
    · cases hevent
    · -- a job whose end has been reported is not about to be run
      rw [Event.request.injEq, Request.appleProgress.injEq] at hevent
      rcases (h.joint.jobs jobId).told ⟨report, hsent, hevent.2.1, hevent.2.2.2⟩ with
        hended | ⟨events, hreporting⟩
      · exact hunderway.stored.not_ended hended.stored
      · rw [hstage] at hreporting
        cases hreporting
  have hnotAccepted : ∀ accepted, (handle config env (.request agentConfig.peerId
      (.appleProgress report.jobId report.events report.terminal)) world.registry).2 = some accepted →
      accepted.accepted = true → report.terminal = false := by
    intro accepted hanswer haccepted
    by_contra hterminal
    rw [Bool.not_eq_false] at hterminal
    rw [hterminal] at hanswer
    rw [not_accepted_of_terminal hanswer] at haccepted
    cases haccepted
  refine ⟨hjoint.hear read ?_ ?_, h.nodup, ?_, ?_⟩
  · intro accepted hanswer haccepted hterminal hstage
    rw [hterminal] at hanswer ⊢
    obtain ⟨hrecovery, hpending, hunderway⟩ := underway_of_accepted hanswer haccepted
    refine ⟨fun hexecuted => ?_, hunderway⟩
    rcases (h.joint.jobs report.jobId).late hexecuted with hended | ⟨late, hlate, hrun⟩
    · rcases hended.state with hsome | ⟨-, hnone⟩
      · rw [hrecovery] at hsome
        cases hsome
      · rw [hnone] at hpending
        cases hpending
    · rw [hstage] at hlate
      obtain rfl := Option.some.inj hlate
      exact hrun
  · intro accepted hanswer haccepted hterminal
    rw [hnotAccepted accepted hanswer haccepted] at hterminal
    cases hterminal
  · intro held hheld hterminal
    change (if _ then some report else world.stillHeld _) = some held at hheld
    split at hheld
    · rename_i hholds
      obtain rfl := Option.some.inj hheld
      change (handle _ _ _ _).1.Lasts _
      rw [hterminal] at hholds ⊢
      exact ended_of_held hholds.1 hholds.2
    · change (if _ then world.held else none) = some held at hheld
      split at hheld
      · exact hlasts held.jobId (h.heldEnd held hheld hterminal)
      · cases hheld
  · intro held hheld hterminal
    change (if _ then some report else world.stillHeld _) = some held at hheld
    change ∃ other, (handle _ _ _ _).1.holder = _
    split at hheld
    · rename_i hholds
      obtain rfl := Option.some.inj hheld
      rw [hterminal] at hholds ⊢
      exact rollingBack_of_held hholds.1 hholds.2
    · change (if _ then world.held else none) = some held at hheld
      split at hheld
      · obtain ⟨other, hholder⟩ := h.heldStart held hheld hterminal
        exact ⟨other, holder_kept hholder fun hevent => by cases hevent⟩
      · cases hheld

/-- **The thread that keeps the state finishes.** -/
theorem sound_settle (h : Sound agentConfig.peerId world) (env : Env) (read : Bool) :
    Sound agentConfig.peerId (world.settle config env read) := by
  have hfresh : FreshName world.registry .settle := by
    rintro client operation (hevent | hevent)
    · cases hevent
    · cases hevent
  have hmeets : Meets FreshName world.registry (.event env .settle) := hfresh
  have hlasts : ∀ jobId, (world.registry.Lasts fun state => Ended state jobId) →
      (handle config env .settle world.registry).1.Lasts fun state => Ended state jobId :=
    fun jobId hlasts => (ended_lasting config jobId).next h.joint.guarded hlasts hmeets
  have hjoint : Joint agentConfig.peerId (handle config env .settle world.registry).1 world.agent
      world.executed world.sent := by
    refine h.joint.next hmeets fun jobId _ _ =>
      ⟨hfresh, fun client hevent => ?_, fun events hevent => ?_⟩
    · cases hevent
    · cases hevent
  refine ⟨?_, h.nodup, fun report hheld hterminal => ?_, fun report hheld hterminal => ?_⟩
  · unfold World.settle
    dsimp only
    cases hheld : world.held with
    | none => exact hjoint
    | some report =>
      refine hjoint.hear read ?_ fun _ _ _ hterminal => hlasts _ (h.heldEnd report hheld hterminal)
      intro accepted hanswer haccepted hterminal
      obtain ⟨other, hholder⟩ := h.heldStart report hheld hterminal
      rw [not_accepted_of_rollingBack hholder hanswer] at haccepted
      cases haccepted
  · change (if _ then world.held else none) = some report at hheld
    split at hheld
    · exact hlasts report.jobId (h.heldEnd report hheld hterminal)
    · cases hheld
  · change (if _ then world.held else none) = some report at hheld
    split at hheld
    · rename_i hkept
      obtain ⟨other, hholder⟩ := h.heldStart report hheld hterminal
      refine ⟨other, ?_⟩
      change (handle config env .settle world.registry).1.holder = _
      rcases settle_rollingBack config env hholder with hnone | hsame
      · rw [hnone] at hkept
        cases hkept
      · rw [hsame]
        exact hholder
    · cases hheld

end

/-! ### The moves of the agent -/

theorem Joint.setStage {peerId : String} {registry : Runtime} {agent after : Agent}
    {executed executed' : List String} {sent sent' : List Report}
    (h : Joint peerId registry agent executed sent) {stage : Stage}
    (hafter : ∀ other, after.stageOf other = if other = jobId then some stage else agent.stageOf other)
    (hexecuted : ∀ other, other ≠ jobId → other ∈ executed' → other ∈ executed)
    (hsent : ∀ other, other ≠ jobId → Reported sent' other → Reported sent other)
    (hjob : JobSound peerId jobId registry (some stage) (jobId ∈ executed') (Reported sent' jobId)) :
    Joint peerId registry after executed' sent' := by
  refine ⟨h.guarded, h.ahead, fun other => ?_⟩
  rw [hafter]
  split
  · rename_i hsame
    rw [hsame]
    exact hjob
  · rename_i hne
    have hother := h.jobs other
    refine ⟨fun hmem => hother.late (hexecuted other hne hmem),
      fun hreported => hother.told (hsent other hne hreported), fun hstage => ?_⟩
    obtain ⟨hnot, hunderway⟩ := hother.first hstage
    exact ⟨fun hmem => hnot (hexecuted other hne hmem), hunderway⟩

theorem reported_append {sent : List Report} {report : Report} :
    Reported (sent ++ [report]) jobId ↔
      Reported sent jobId ∨ report.jobId = jobId ∧ report.terminal = true := by
  constructor
  · rintro ⟨found, hmem, hfound⟩
    rcases List.mem_append.1 hmem with hbefore | hlast
    · exact .inl ⟨found, hbefore, hfound⟩
    · obtain rfl := List.mem_singleton.1 hlast
      exact .inr hfound
  · rintro (⟨found, hmem, hfound⟩ | hlast)
    · exact ⟨found, List.mem_append_left _ hmem, hfound⟩
    · exact ⟨report, List.mem_append_right _ List.mem_cons_self, hlast⟩

theorem Agent.stageOf_of_lookup {agent : Agent} {flow : Flow}
    (h : agent.running.lookup jobId = some flow) : agent.stageOf jobId = some flow.stage := by
  rw [Agent.stageOf, h]
  rfl

section

variable {agentConfig : AgentConfig} {world : World}

theorem reported_start {sent : List Report} {starting : Option String} {jobId : String} :
    Reported (sent ++ (starting.map startReport).toList) jobId ↔ Reported sent jobId := by
  cases starting with
  | none => rw [Option.map_none, Option.toList_none, List.append_nil]
  | some =>
    rw [Option.map_some, Option.toList_some, reported_append]
    refine or_iff_left ?_
    rintro ⟨-, hterminal⟩
    cases hterminal

/-- **The agent gets an answer to a heartbeat.** -/
theorem sound_receive (h : Sound agentConfig.peerId world) (answer : Response) :
    Sound agentConfig.peerId (world.receive agentConfig answer) := by
  refine ⟨?_, h.nodup, h.heldEnd, h.heldStart⟩
  rcases world.agent.stageOf_receive agentConfig answer with hsame | ⟨jobId, hnone, hafter⟩
  · refine ⟨h.joint.guarded, h.joint.ahead, fun jobId => ?_⟩
    have hjob := h.joint.jobs jobId
    change JobSound _ _ _ ((world.agent.receive agentConfig answer).stageOf jobId) _ _
    rw [hsame]
    exact ⟨hjob.late, fun hreported => hjob.told (reported_start.1 hreported), hjob.first⟩
  · -- the agent does not have the job, so that its end is stored if it was there before
    have hjob := h.joint.jobs jobId
    rw [hnone] at hjob
    refine h.joint.setStage hafter (fun _ _ hmem => hmem) (fun _ _ => reported_start.1)
      ⟨fun hmem => .inl ((hjob.late hmem).resolve_right ?_), fun hreported =>
        .inl ((hjob.told (reported_start.1 hreported)).resolve_right ?_), fun hstage => by cases hstage⟩
    · rintro ⟨_, hlate, -⟩
      cases hlate
    · rintro ⟨_, hreporting⟩
      cases hreporting

theorem sound_giveUp (h : Sound agentConfig.peerId world) (jobId : String) :
    Sound agentConfig.peerId (world.giveUp jobId) := by
  unfold World.giveUp
  split
  · exact h
  · rename_i flow hflow
    split
    · rename_i hstarting
      have hjob := h.joint.jobs jobId
      rw [Agent.stageOf_of_lookup hflow, hstarting] at hjob
      refine ⟨h.joint.setStage (fun other => Agent.stageOf_setStage _ jobId flow _ other)
        (fun _ _ hmem => hmem) (fun _ _ hreported => hreported)
        ⟨fun hmem => .inl ((hjob.late hmem).resolve_right ?_), fun hreported =>
          .inl ((hjob.told hreported).resolve_right ?_), fun hstage => ?_⟩, h.nodup, h.heldEnd,
        h.heldStart⟩
      · rintro ⟨late, hlate, hrun⟩
        obtain rfl := Option.some.inj hlate
        exact hrun
      · rintro ⟨events, hreporting⟩
        cases hreporting
      · rw [Option.some.injEq, Stage.prepared.injEq] at hstage
        cases hstage
    · exact h

/-- **A tool is run**: for the first time, and the registry knows that the job is under way. -/
theorem execute_cases (h : Sound agentConfig.peerId world) (jobId : String) (site : Site) (ready : Bool) :
    world.execute agentConfig jobId site ready = world ∨
      ∃ flow, world.execute agentConfig jobId site ready
          = { world with
              agent := world.agent.setStage jobId flow .executing
              executed := world.executed ++ [jobId] } ∧
        world.agent.stageOf jobId = some (.prepared true) ∧ jobId ∉ world.executed ∧
        world.registry.Lasts (Underway agentConfig.peerId jobId) := by
  unfold World.execute
  split
  · exact .inl rfl
  · rename_i flow hflow
    split
    · rename_i hruns
      have hstage := Agent.stageOf_of_lookup hflow
      rw [hruns.1] at hstage
      obtain ⟨hnot, hunderway⟩ := (h.joint.jobs jobId).first hstage
      exact .inr ⟨flow, rfl, hstage, hnot, hunderway⟩
    · exact .inl rfl

theorem sound_execute (h : Sound agentConfig.peerId world) (jobId : String) (site : Site)
    (ready : Bool) : Sound agentConfig.peerId (world.execute agentConfig jobId site ready) := by
  rcases execute_cases h jobId site ready with
    hsame | ⟨flow, hruns, hstage, hnot, hunderway⟩
  · rw [hsame]
    exact h
  · rw [hruns]
    refine ⟨h.joint.setStage (fun other => Agent.stageOf_setStage _ jobId flow _ other)
      (fun other hne hmem => ?_) (fun _ _ hreported => hreported)
      ⟨fun _ => .inr ⟨_, rfl, trivial⟩, fun hreported => .inl ?_, fun hstage => by cases hstage⟩, ?_,
      h.heldEnd, h.heldStart⟩
    · rcases List.mem_append.1 hmem with hbefore | hlast
      · exact hbefore
      · exact absurd (List.mem_singleton.1 hlast) hne
    · refine ((h.joint.jobs jobId).told hreported).resolve_right ?_
      rintro ⟨_, hreporting⟩
      rw [hstage] at hreporting
      cases hreporting
    · exact List.nodup_append.2 ⟨h.nodup, List.nodup_singleton _, fun other hmem last hlast =>
        fun heq => hnot (List.mem_singleton.1 hlast ▸ heq ▸ hmem)⟩

theorem sound_reportEnd (h : Sound agentConfig.peerId world) (jobId : String) (flow : Flow)
    (events : List NetworkEvent) : Sound agentConfig.peerId (world.reportEnd jobId flow events) := by
  refine ⟨h.joint.setStage (fun other => Agent.stageOf_setStage _ jobId flow _ other)
    (fun _ _ hmem => hmem) (fun other hne hreported => ?_)
    ⟨fun _ => .inr ⟨_, rfl, trivial⟩, fun _ => .inr ⟨events, rfl⟩, fun hstage => by cases hstage⟩,
    h.nodup, h.heldEnd, h.heldStart⟩
  refine (reported_append.1 hreported).resolve_right ?_
  rintro ⟨hjob, -⟩
  exact hne hjob.symm

theorem sound_conclude (h : Sound agentConfig.peerId world) (jobId : String)
    (output : List NetworkEvent) (succeeded : Bool) (artifactId rejectionCode : Option String) :
    Sound agentConfig.peerId
      (world.conclude jobId output succeeded artifactId rejectionCode) := by
  unfold World.conclude
  split
  · exact h
  · split
    · exact sound_reportEnd h jobId _ _
    · exact sound_reportEnd h jobId _ _
    · exact h

end

/-! ### Runs -/

section

variable [Sha256] {config : Config} {agentConfig : AgentConfig} {world : World}

variable {move : Move}

/-- **A move keeps what holds.** -/
theorem sound_next (h : Sound agentConfig.peerId world) (hcareful : Careful world move) :
    Sound agentConfig.peerId (world.next config agentConfig move) := by
  cases move with
  | registry =>
    change Sound _ (if _ then world else _)
    split
    · exact h
    · rename_i hother
      exact sound_input h hcareful (Bool.not_eq_true _ ▸ hother)
  | report env report read =>
    change Sound _ (if _ then _ else world)
    split
    · rename_i hsent
      exact sound_report h env hsent read
    · exact h
  | settle env read => exact sound_settle h env read
  | receive answer =>
    change Sound _ (if _ then _ else world)
    split
    · exact sound_receive h answer
    · exact h
  | giveUp jobId => exact sound_giveUp h jobId
  | execute jobId site ready => exact sound_execute h jobId site ready
  | conclude jobId output succeeded artifactId rejectionCode =>
    exact sound_conclude h jobId output succeeded artifactId rejectionCode

theorem executed_next (h : Sound agentConfig.peerId world)
    (hran : jobId ∈ (world.next config agentConfig move).executed) (hnot : jobId ∉ world.executed) :
    world.registry.Lasts (Underway agentConfig.peerId jobId) := by
  have hsame : ∀ {after : World}, after.executed = world.executed → jobId ∈ after.executed → False := by
    intro after hafter hmem
    exact hnot (hafter ▸ hmem)
  cases move with
  | registry =>
    refine (hsame ?_ hran).elim
    change (if _ then world else _ : World).executed = _
    split <;> rfl
  | report =>
    refine (hsame ?_ hran).elim
    change (if _ then _ else world : World).executed = _
    split <;> rfl
  | settle => exact (hsame rfl hran).elim
  | receive =>
    refine (hsame ?_ hran).elim
    change (if _ then _ else world : World).executed = _
    split <;> rfl
  | giveUp other =>
    refine (hsame ?_ hran).elim
    change (world.giveUp other).executed = _
    unfold World.giveUp
    split
    · rfl
    · split <;> rfl
  | execute other site ready =>
    change jobId ∈ (world.execute agentConfig other site ready).executed at hran
    rcases execute_cases h other site ready with hkept | ⟨flow, hruns, -, -, hunderway⟩
    · rw [hkept] at hran
      exact absurd hran hnot
    · rw [hruns] at hran
      rcases List.mem_append.1 hran with hbefore | hlast
      · exact absurd hbefore hnot
      · obtain rfl := List.mem_singleton.1 hlast
        exact hunderway
  | conclude other output succeeded artifactId rejectionCode =>
    refine (hsame ?_ hran).elim
    change (world.conclude other output succeeded artifactId rejectionCode).executed = _
    unfold World.conclude
    split
    · rfl
    · split <;> rfl

theorem ended_next (h : Sound agentConfig.peerId world) (hcareful : Careful world move)
    (hended : Ended world.registry.storedState jobId) :
    Ended (world.next config agentConfig move).registry.storedState jobId := by
  have hlasts : ∀ {input : Input}, Meets FreshName world.registry input →
      Ended (world.registry.next config input).storedState jobId :=
    fun hfresh => ((ended_lasting config jobId).next h.joint.guarded (h.joint.ahead jobId hended)
      hfresh).stored
  cases move with
  | registry input =>
    change Ended (if _ then world else _ : World).registry.storedState jobId
    split
    · exact hended
    · refine hlasts ?_
      cases input with
      | event => exact hcareful.fresh
      | start => trivial
  | report env report =>
    change Ended (if _ then _ else world : World).registry.storedState jobId
    split
    · have hfresh : Meets FreshName world.registry (.event env (.request agentConfig.peerId
          (.appleProgress report.jobId report.events report.terminal))) := by
        rintro client operation (hevent | hevent)
        · cases hevent
        · cases hevent
      exact hlasts hfresh
    · exact hended
  | settle env =>
    have hfresh : Meets FreshName world.registry (.event env .settle) := by
      rintro client operation (hevent | hevent)
      · cases hevent
      · cases hevent
    exact hlasts hfresh
  | receive =>
    change Ended (if _ then _ else world : World).registry.storedState jobId
    split
    · exact hended
    · exact hended
  | giveUp other =>
    change Ended (world.giveUp other).registry.storedState jobId
    unfold World.giveUp
    split
    · exact hended
    · split
      · exact hended
      · exact hended
  | execute other site ready =>
    change Ended (world.execute agentConfig other site ready).registry.storedState jobId
    rcases execute_cases h other site ready with hkept | ⟨flow, hruns, -⟩
    · rw [hkept]
      exact hended
    · rw [hruns]
      exact hended
  | conclude other output succeeded artifactId rejectionCode =>
    change Ended (world.conclude other output succeeded artifactId rejectionCode).registry.storedState
      jobId
    unfold World.conclude
    split
    · exact hended
    · split
      · exact hended
      · exact hended
      · exact hended

theorem sound_run (h : Sound agentConfig.peerId world) {moves : List Move}
    (hcareful : AllSteps (World.next config agentConfig) Careful moves world) :
    Sound agentConfig.peerId (world.runMoves config agentConfig moves) :=
  (Runs.AllSteps.always (I := Sound agentConfig.peerId)
    (fun _ _ hsound hmove => sound_next hsound hmove) h hcareful).last

theorem ended_run (h : Sound agentConfig.peerId world) {moves : List Move}
    (hcareful : AllSteps (World.next config agentConfig) Careful moves world)
    (hended : Ended world.registry.storedState jobId) :
    Ended (world.runMoves config agentConfig moves).registry.storedState jobId :=
  (Runs.AllSteps.always
    (I := fun world => Sound agentConfig.peerId world ∧ Ended world.registry.storedState jobId)
    (fun _ _ hboth hmove => ⟨sound_next hboth.1 hmove, ended_next hboth.1 hmove hboth.2⟩) ⟨h, hended⟩
    hcareful).last.2

/-- **No tool is run twice, or after the end of its job has been stored.** -/
structure AtMostOnce (config : Config) (agentConfig : AgentConfig) (moves : List Move) : Prop where
  once : (World.empty.runMoves config agentConfig moves).executed.Nodup
  timely : ∀ before move after, moves = before ++ move :: after → ∀ jobId,
    jobId ∈ ((World.empty.runMoves config agentConfig before).next config agentConfig move).executed →
    jobId ∉ (World.empty.runMoves config agentConfig before).executed →
    ∀ earlier later, before = earlier ++ later →
      ¬ Ended (World.empty.runMoves config agentConfig earlier).registry.storedState jobId

/-- **No tool is run twice or too late, in every careful run.** -/
theorem atMostOnce_of_run (config : Config) (agentConfig : AgentConfig) (moves : List Move)
    (h : AllSteps (World.next config agentConfig) Careful moves World.empty) :
    AtMostOnce config agentConfig moves := by
  refine ⟨(sound_run (sound_empty _) h).nodup, ?_⟩
  rintro before move after rfl jobId hran hnot earlier later rfl hended
  rw [Runs.allSteps_append, Runs.allSteps_append] at h
  obtain ⟨⟨hearlier, hlater⟩, -⟩ := h
  have hsound := sound_run (sound_empty agentConfig.peerId) hearlier
  have hlast := ended_run hsound hlater hended
  have hbefore := sound_run hsound hlater
  have hsplit : World.empty.runMoves config agentConfig (earlier ++ later)
      = (World.empty.runMoves config agentConfig earlier).runMoves config agentConfig later :=
    List.foldl_append
  rw [hsplit] at hran hnot
  exact (executed_next hbefore hran hnot).stored.not_ended hlast

end

/-! ### Moves of the registry alone -/

def isPlain (agentConfig : AgentConfig) : Event → Bool
  | .request peerId (.appleProgress _ _ _) => decide (peerId ≠ agentConfig.peerId)
  | .resume (.online _) => false
  | _ => true

def isQuiet : Event → Bool
  | .request _ (.appleRun _) => false
  | .request _ (.appleCancel _) => false
  | .resume (.leased _ _) => false
  | _ => true

def registryMoves (steps : List (Env × Event)) : List Move :=
  steps.map fun input => .registry (.event input.1 input.2)

section

variable [Sha256] {config : Config} {agentConfig : AgentConfig} {world : World}

variable {env : Env}

theorem runMoves_concat (moves : List Move) (move : Move) :
    world.runMoves config agentConfig (moves ++ [move])
      = (world.runMoves config agentConfig moves).next config agentConfig move := by
  rw [World.runMoves, List.foldl_append, List.foldl_cons, List.foldl_nil]
  rfl

theorem considerate_of_quiet {runtime : Runtime} {event : Event} (h : isQuiet event = true) :
    Considerate runtime event := by
  refine ⟨fun client operation hevent => ?_, fun client jobId hevent => ?_⟩
  · rcases hevent with rfl | rfl
    · cases h
    · cases h
  · subst hevent
    cases h

theorem next_plain {input : Env × Event} (hplain : isPlain agentConfig input.2 = true)
    (hheld : world.held = none) :
    world.next config agentConfig (.registry (.event input.1 input.2))
      = { world with registry := world.registry.step config input } := by
  obtain ⟨env, event⟩ := input
  have hother : reportsAs agentConfig (.event env event) = false := by
    unfold reportsAs
    split
    · rename_i peerId jobId events terminal heq
      obtain ⟨-, rfl⟩ := Input.event.inj heq
      exact decide_eq_false (of_decide_eq_true hplain)
    · rfl
  have hoffered : offered config agentConfig world.registry (.event env event) = [] := by
    unfold offered
    split
    · rename_i hostId heq
      obtain ⟨-, rfl⟩ := Input.event.inj heq
      cases hplain
    · rfl
  have hstill : ∀ after, world.stillHeld after = world.held := by
    intro after
    rw [World.stillHeld, hheld, ite_self]
  have hnext : world.next config agentConfig (.registry (.event env event))
      = world.input config agentConfig (.event env event) :=
    if_neg (Bool.eq_false_iff.1 hother)
  rw [hnext]
  unfold World.input
  dsimp only
  rw [hoffered, List.append_nil, hstill]
  rfl

/-- **Steps of the registry change the registry alone.** -/
theorem runMoves_plain {steps : List (Env × Event)}
    (hplain : ∀ input ∈ steps, isPlain agentConfig input.2 = true) (hheld : world.held = none) :
    world.runMoves config agentConfig (registryMoves steps)
      = { world with registry := steps.foldl (Runtime.step config) world.registry } := by
  induction steps generalizing world with
  | nil => rfl
  | cons input steps ih =>
    have hnext : world.next config agentConfig (.registry (.event input.1 input.2)) = _ :=
      next_plain (hplain input List.mem_cons_self) hheld
    change (world.next config agentConfig _).runMoves config agentConfig (registryMoves steps) = _
    rw [hnext]
    exact ih (List.forall_mem_cons.1 hplain).2 hheld

theorem next_online {hostId : String} {registry after : Runtime} {answer : Option Response}
    (hhandle : handle config env (.resume (.online hostId)) registry = (after, answer))
    (hhost : hostId = agentConfig.hostId) (hregistry : world.registry = registry)
    (hheld : world.held = none) :
    world.next config agentConfig (.registry (.event env (.resume (.online hostId))))
      = { world with
          registry := after
          offers := world.offers ++ answer.toList } := by
  have hoffered : offered config agentConfig world.registry
      (.event env (.resume (.online hostId))) = answer.toList := by
    refine (if_pos hhost).trans ?_
    rw [hregistry, hhandle]
  have hnext : world.registry.next config (.event env (.resume (.online hostId))) = after :=
    (congrArg (fun registry => (handle config env _ registry).1) hregistry).trans
      (congrArg Prod.fst hhandle)
  have hstill : world.stillHeld after = world.held := by
    rw [World.stillHeld, hheld, ite_self]
  change world.input config agentConfig _ = _
  unfold World.input
  dsimp only
  rw [hnext, hoffered, hstill]

theorem next_report {report : Report} {read : Bool} {registry after : Runtime}
    {answer : Option Response} (hsent : report ∈ world.sent) {event : Event}
    (hhandle : handle config env event registry = (after, answer))
    (hevent : event = .request agentConfig.peerId
      (.appleProgress report.jobId report.events report.terminal))
    (hregistry : world.registry = registry) (hheld : world.held = none) (hholder : after.holder = none) :
    world.next config agentConfig (.report env report read)
      = { world with
          registry := after
          agent := world.agent.hear read report answer } := by
  have hstill : world.stillHeld after = world.held := by
    rw [World.stillHeld, hheld, ite_self]
  have hnone : ¬ (world.registry.holder = none ∧ after.holder.isSome = true) := by
    rw [hholder]
    exact fun hboth => Bool.false_ne_true hboth.2
  refine (if_pos hsent).trans ?_
  unfold World.report
  dsimp only
  rw [hregistry, ← hevent, hhandle]
  dsimp only
  rw [← hregistry, if_neg hnone, hstill]

theorem next_settle {read : Bool} (hheld : world.held = none) :
    world.next config agentConfig (.settle env read)
      = { world with registry := (handle config env .settle world.registry).1 } := by
  have hstill : ∀ after, world.stillHeld after = world.held := by
    intro after
    rw [World.stillHeld, hheld, ite_self]
  change world.settle config env read = _
  unfold World.settle
  dsimp only
  rw [hstill, hheld]
  rfl

theorem careful_plain {steps : List (Env × Event)}
    (hplain : ∀ input ∈ steps, isPlain agentConfig input.2 = true) (hheld : world.held = none)
    (hconsiderate : AllSteps (Runtime.step config) (fun runtime input => Considerate runtime input.2)
      steps world.registry) :
    AllSteps (World.next config agentConfig) Careful (registryMoves steps) world := by
  induction steps generalizing world with
  | nil => trivial
  | cons input steps ih =>
    have hnext : world.next config agentConfig (.registry (.event input.1 input.2)) = _ :=
      next_plain (hplain input List.mem_cons_self) hheld
    refine ⟨hconsiderate.1, ?_⟩
    rw [hnext]
    exact ih (List.forall_mem_cons.1 hplain).2 hheld hconsiderate.2

end

/-! ### A tool that is run too late -/

def sampleFailing : Env := { sampleEnv with stateWrite := .failed }

section

variable [Sha256]

def sampleAnswer : Response :=
  { response with
    appleOperation := some sampleOperation
    jobId := some sampleAppleId
    leaseGrant := some (grantOf sampleConfig.sign sampleLease sampleAppleId 0)
    cancelJobs := ∅ }

def sampleTakenBack : Runtime :=
  { sampleDispatched with
    state := (sampleDispatched.state.dispatch sampleAppleId).undispatch sampleAppleId
    holder := some .reconciling }

theorem heartbeatDispatch_sampleDispatched :
    heartbeatDispatch sampleConfig sampleFailing "host" sampleDispatched = (sampleTakenBack, none) := by
  have happle : sampleDispatched.state.nextApple sampleDispatched.leases sampleFailing.orders "host"
      = some (sampleAppleId, sampleOperation) := by
    refine DurableState.nextApple_eq_of_only (Map.lookup_insert_self _ _ _) (Map.lookup_insert_self _ _ _)
      (Finset.notMem_empty _) ?_ fun other operation hother => Map.eq_of_lookup_insert_empty hother
    exact decide_eq_true rfl
  have hclient : sampleDispatched.state.jobClients.lookup sampleAppleId = some "client" :=
    client_sampleDispatched
  have hexpire : sampleDispatched.leases.expire sampleFailing.orders.active sampleFailing.nowMs
      = sampleDispatched.leases := rfl
  have hleaseOf : sampleDispatched.leases.leaseOf "phone" (leaseIdOf 1) (some "client")
      = some sampleLease := leaseOf_sampleLeases
  have hneeds : leaseNeeded sampleOperation = some ("phone", leaseIdOf 1) := rfl
  have hwriter : sampleDispatched.leases.setWriter "phone" sampleAppleId = sampleDispatched.leases := rfl
  unfold heartbeatDispatch
  dsimp only
  rw [happle]
  change dispatchApple sampleConfig sampleFailing sampleAppleId sampleOperation response
    sampleDispatched = _
  unfold dispatchApple
  rw [hneeds]
  dsimp only
  rw [hexpire, hclient, hleaseOf]
  dsimp only
  rw [hwriter]
  rfl

def sampleReconciled : Runtime :=
  { sampleTakenBack with
    leases :=
      { sampleLeases with
        writers := (sampleLeases.setWriter "phone" sampleAppleId).writers.erase "phone" }
    storedLeases :=
      { sampleLeases with
        writers := (sampleLeases.setWriter "phone" sampleAppleId).writers.erase "phone" }
    holder := none }

theorem handle_sampleTakenBack :
    (handle sampleConfig sampleEnv .settle sampleTakenBack).1 = sampleReconciled := by
  have horphaned : orphanedDevices sampleTakenBack.locked sampleEnv.orders = ["phone"] := by
    change (List.filter _ [("phone", (⟨sampleAppleId⟩ : DeviceWriter))]).map Prod.fst = _
    rw [List.filter_cons_of_pos]
    · rfl
    · rw [Bool.or_eq_true]
      exact .inl (decide_eq_true (Finset.notMem_empty _))
  have hsettle : (perform sampleConfig sampleEnv .settle sampleTakenBack).1 = sampleReconciled := by
    change (settle sampleEnv sampleTakenBack .reconciling).1 = _
    unfold settle reconcileRuntimeState
    dsimp only
    rw [horphaned]
    rfl
  have hnext : (perform sampleConfig sampleEnv .settle sampleTakenBack).1.leases.nextId
      ≤ Dashboard.u64Max := by
    rw [hsettle]
    exact Nat.le_of_ble_eq_true rfl
  rw [handle, if_pos hnext, hsettle]

def sampleKnown : Runtime :=
  { sampleReconciled with
    state := (sampleReconciled.state.progress sampleAppleId (startReport sampleAppleId).events).acknowledge
      sampleAppleId
    leases := sampleReconciled.leases.setWriter "phone" sampleAppleId
    storedState := (sampleReconciled.state.progress sampleAppleId
      (startReport sampleAppleId).events).acknowledge sampleAppleId
    storedLeases := sampleReconciled.leases.setWriter "phone" sampleAppleId }

theorem restored_sampleReconciled :
    restoreAcknowledgedWriter sampleReconciled.state sampleReconciled.leases sampleEnv.orders
      sampleEnv.nowMs sampleAppleId
      = (.ok true, sampleReconciled.leases.setWriter "phone" sampleAppleId) := by
  have hpending : sampleReconciled.state.applePending.lookup sampleAppleId = some sampleOperation :=
    pending_sampleDispatched
  have hclient : sampleReconciled.state.jobClients.lookup sampleAppleId = some "client" :=
    client_sampleDispatched
  have hexpire : sampleReconciled.leases.expire sampleEnv.orders.active sampleEnv.nowMs
      = sampleReconciled.leases := rfl
  have hleaseOf : sampleReconciled.leases.leaseOf "phone" (leaseIdOf 1) (some "client")
      = some sampleLease := leaseOf_sampleLeases
  have hwriters : sampleReconciled.leases.writers.lookup "phone" = none := rfl
  have hmutates : ¬ sampleOperation.operation.mutatesDevice = false := by decide
  have hdevice : sampleOperation.deviceId = some "phone" := rfl
  have hlease : sampleOperation.leaseId = some (leaseIdOf 1) := rfl
  unfold restoreAcknowledgedWriter
  rw [hpending]
  dsimp only
  rw [if_neg hmutates, hdevice, hlease, hclient]
  dsimp only
  rw [hexpire, hleaseOf, hwriters]
  rfl

theorem handle_sampleReconciled :
    handle sampleConfig sampleEnv (.request "agent" (.appleProgress sampleAppleId
      (startReport sampleAppleId).events false)) sampleReconciled = (sampleKnown, some response) := by
  have hagent : sampleReconciled.state.jobAgents.lookup sampleAppleId = some "agent" :=
    agent_sampleDispatched
  have hprogress : appleProgress sampleEnv "agent" sampleAppleId (startReport sampleAppleId).events false
      sampleReconciled = (sampleKnown, some response) := by
    unfold appleProgress
    rw [if_neg (not_not.2 hagent), if_neg Bool.false_ne_true]
    unfold progressOngoing
    rw [restored_sampleReconciled]
    rfl
  have hperform : perform sampleConfig sampleEnv (.request "agent" (.appleProgress sampleAppleId
      (startReport sampleAppleId).events false)) sampleReconciled = (sampleKnown, some response) :=
    (perform_request rfl rfl).trans hprogress
  rw [handle, hperform, if_pos (Nat.le_of_ble_eq_true rfl)]

theorem handle_sampleKnown :
    Ended (handle sampleConfig sampleEnv (.request "client" (.appleCancel sampleAppleId))
      sampleKnown).1.storedState sampleAppleId := by
  have hclient : sampleKnown.state.jobClients.lookup sampleAppleId = some "client" :=
    client_sampleDispatched
  have hpending : sampleKnown.state.applePending.lookup sampleAppleId = some sampleOperation :=
    pending_sampleDispatched
  have hsome : ¬ (some sampleOperation).isNone = true := Bool.false_ne_true
  have hdispatched : sampleAppleId ∉ sampleKnown.state.dispatched := Finset.notMem_erase _ _
  have hcancel : (appleCancel sampleEnv "client" sampleAppleId sampleKnown).1
      = { sampleKnown with
          state := sampleKnown.state.dismiss sampleAppleId "cancelled" ""
          storedState := sampleKnown.state.dismiss sampleAppleId "cancelled" "" } := by
    unfold appleCancel
    rw [if_neg (not_not.2 hclient), hpending, if_neg hsome]
    dsimp only
    rw [if_neg hdispatched]
    rfl
  have hperform : (perform sampleConfig sampleEnv (.request "client" (.appleCancel sampleAppleId))
      sampleKnown).1 = _ :=
    (congrArg Prod.fst (perform_request rfl rfl)).trans hcancel
  have hnext : (perform sampleConfig sampleEnv (.request "client" (.appleCancel sampleAppleId))
      sampleKnown).1.leases.nextId ≤ Dashboard.u64Max := by
    rw [hperform]
    exact Nat.le_of_ble_eq_true rfl
  rw [handle, if_pos hnext, hperform]
  exact ended_dismiss _ _ _ _

def sampleAgentConfig : AgentConfig :=
  { peerId := "agent"
    hostId := "host"
    tool := true
    verify := fun _ _ => true }

def sampleSteps : List (Env × Event) := sampleHostSteps ++ sampleJobSteps ++ sampleHeartbeat

def sampleWaiting : Runtime :=
  { sampleAccepted with flights := [.online "host", .online "host"] }

theorem foldl_sampleSteps :
    sampleSteps.foldl (Runtime.step sampleConfig) Runtime.empty = sampleWaiting := by
  rw [sampleSteps, List.foldl_append, List.foldl_append, foldl_sampleHostSteps, foldl_sampleJobSteps]
  exact foldl_sampleHeartbeat rfl rfl rfl rfl rfl rfl rfl (Nat.le_of_ble_eq_true rfl)

theorem handle_sampleWaiting :
    handle sampleConfig sampleEnv (.resume (.online "host")) sampleWaiting
      = ({ sampleDispatched with flights := [.online "host"] }, some sampleAnswer) := by
  have hperform : perform sampleConfig sampleEnv (.resume (.online "host")) sampleWaiting
      = ({ sampleDispatched with flights := [.online "host"] }, some sampleAnswer) :=
    (perform_resume List.mem_cons_self rfl).trans (heartbeatDispatch_sampleAccepted [.online "host"])
  rw [handle, hperform, if_pos (Nat.le_of_ble_eq_true rfl)]

theorem handle_sampleAgain :
    handle sampleConfig sampleFailing (.resume (.online "host"))
      { sampleDispatched with flights := [.online "host"] } = (sampleTakenBack, none) := by
  have hperform : perform sampleConfig sampleFailing (.resume (.online "host"))
      { sampleDispatched with flights := [.online "host"] } = (sampleTakenBack, none) :=
    (perform_resume List.mem_cons_self rfl).trans heartbeatDispatch_sampleDispatched
  rw [handle, hperform, if_pos (Nat.le_of_ble_eq_true rfl)]

def sampleFlow (stage : Stage) : Flow :=
  { operation := sampleOperation
    grant := some (grantOf sampleConfig.sign sampleLease sampleAppleId 0)
    cancelled := false
    stage }

def sampleMoves : List Move :=
  registryMoves sampleSteps ++
    [.registry (.event sampleEnv (.resume (.online "host"))),
      .receive sampleAnswer,
      .registry (.event sampleFailing (.resume (.online "host"))),
      .settle sampleEnv false,
      .report sampleEnv (startReport sampleAppleId) true]

def sampleReady (registry : Runtime) : World :=
  { registry
    agent :=
      { running := (((∅ : Map String Flow).insert sampleAppleId (sampleFlow .starting)).insert
          sampleAppleId (sampleFlow (.prepared true)))
        starting := none }
    offers := [sampleAnswer]
    sent := [startReport sampleAppleId]
    held := none
    executed := [] }

def sampleStarting (registry : Runtime) : World :=
  { registry
    agent :=
      { running := (∅ : Map String Flow).insert sampleAppleId (sampleFlow .starting)
        starting := some sampleAppleId }
    offers := [sampleAnswer]
    sent := [startReport sampleAppleId]
    held := none
    executed := [] }

theorem next_receive_sample (registry : Runtime) :
    ({ World.empty with
      registry
      offers := [sampleAnswer] } : World).next sampleConfig sampleAgentConfig (.receive sampleAnswer)
      = sampleStarting registry :=
  if_pos ⟨List.mem_singleton_self _, rfl⟩

theorem next_report_sample :
    (sampleStarting sampleReconciled).next sampleConfig sampleAgentConfig
      (.report sampleEnv (startReport sampleAppleId) true) = sampleReady sampleKnown := by
  have hagent : (sampleStarting sampleReconciled).agent.hear true (startReport sampleAppleId)
      (some response) = (sampleReady sampleKnown).agent := by
    have hflow : (sampleStarting sampleReconciled).agent.running.lookup sampleAppleId
        = some (sampleFlow .starting) := Map.lookup_insert_self _ _ _
    refine (if_pos ⟨rfl, rfl⟩).trans ?_
    unfold Agent.acknowledge
    rw [show (startReport sampleAppleId).jobId = sampleAppleId from rfl, hflow]
    exact if_pos rfl
  refine (next_report (List.mem_singleton_self _) handle_sampleReconciled rfl rfl rfl rfl).trans ?_
  rw [hagent]
  rfl

theorem next_online_sampleWaiting :
    ({ World.empty with registry := sampleWaiting } : World).next sampleConfig
      sampleAgentConfig (.registry (.event sampleEnv (.resume (.online "host"))))
      = { World.empty with
          registry := { sampleDispatched with flights := [.online "host"] }
          offers := [sampleAnswer] } :=
  next_online handle_sampleWaiting rfl rfl rfl

theorem next_online_sampleAgain :
    (sampleStarting { sampleDispatched with flights := [.online "host"] }).next sampleConfig
      sampleAgentConfig (.registry (.event sampleFailing (.resume (.online "host"))))
      = sampleStarting sampleTakenBack :=
  next_online handle_sampleAgain rfl rfl rfl

theorem next_settle_sampleTakenBack :
    (sampleStarting sampleTakenBack).next sampleConfig sampleAgentConfig
      (.settle sampleEnv false) = sampleStarting sampleReconciled :=
  (next_settle rfl).trans (congrArg sampleStarting handle_sampleTakenBack)

omit [Sha256] in
theorem isPlain_sampleSteps : ∀ input ∈ sampleSteps, isPlain sampleAgentConfig input.2 = true := by decide

theorem runMoves_sampleSteps :
    World.empty.runMoves sampleConfig sampleAgentConfig (registryMoves sampleSteps)
      = { World.empty with registry := sampleWaiting } := by
  rw [runMoves_plain isPlain_sampleSteps rfl]
  exact congrArg (fun registry => { World.empty with registry }) foldl_sampleSteps

theorem runMoves_sampleMoves :
    World.empty.runMoves sampleConfig sampleAgentConfig sampleMoves = sampleReady sampleKnown := by
  rw [sampleMoves, World.runMoves, List.foldl_append]
  change List.foldl _ (World.empty.runMoves sampleConfig sampleAgentConfig (registryMoves sampleSteps))
    _ = _
  rw [runMoves_sampleSteps, List.foldl_cons, next_online_sampleWaiting, List.foldl_cons,
    next_receive_sample, List.foldl_cons, next_online_sampleAgain, List.foldl_cons,
    next_settle_sampleTakenBack, List.foldl_cons, next_report_sample, List.foldl_nil]

theorem next_execute_sample (registry : Runtime) :
    ((sampleReady registry).next sampleConfig sampleAgentConfig
      (.execute sampleAppleId sampleSite true)).executed = [sampleAppleId] := by
  have hflow : (sampleReady registry).agent.running.lookup sampleAppleId
      = some (sampleFlow (.prepared true)) := Map.lookup_insert_self _ _ _
  have hvalid : (validate sampleSite sampleOperation).isOk = true := by decide
  have hgrant : (validateLeaseGrant sampleAgentConfig sampleOperation sampleAppleId
      (sampleFlow (.prepared true)).grant).isOk = true := by
    have hok : validateLeaseGrant sampleAgentConfig sampleOperation sampleAppleId
        (sampleFlow (.prepared true)).grant = .ok () := validateLeaseGrant_of_matches rfl rfl rfl rfl
    rw [hok]
    rfl
  change ((sampleReady registry).execute sampleAgentConfig sampleAppleId sampleSite true).executed = _
  unfold World.execute
  rw [hflow]
  dsimp only
  rw [if_pos ⟨rfl, hgrant, hvalid, rfl⟩]
  rfl

theorem next_cancel_sample (registry : Runtime) :
    (sampleReady registry).next sampleConfig sampleAgentConfig
      (.registry (.event sampleEnv (.request "client" (.appleCancel sampleAppleId))))
      = sampleReady (registry.step sampleConfig
          (sampleEnv, .request "client" (.appleCancel sampleAppleId))) :=
  @next_plain _ sampleConfig sampleAgentConfig (sampleReady registry)
    (sampleEnv, .request "client" (.appleCancel sampleAppleId)) rfl rfl

theorem careful_sampleMoves :
    AllSteps (World.next sampleConfig sampleAgentConfig) Careful sampleMoves World.empty := by
  have horderly := orderly_sampleAppleSteps
  rw [sampleAppleSteps, Runs.allSteps_append] at horderly
  have hconsiderate : AllSteps (Runtime.step sampleConfig)
      (fun runtime input => Considerate runtime input.2) sampleSteps Runtime.empty := by
    rw [sampleSteps, Runs.allSteps_append]
    refine ⟨horderly.1.mono fun runtime input hmem h => ⟨h.fresh, fun client jobId hevent => ?_⟩, ?_⟩
    · have hother := isCancel_sampleAppleSteps input (List.mem_append_left _ hmem)
      rw [hevent] at hother
      cases hother
    · exact ⟨considerate_of_quiet rfl, considerate_of_quiet rfl,
        considerate_of_quiet rfl, trivial⟩
  rw [sampleMoves, Runs.allSteps_append]
  exact ⟨careful_plain isPlain_sampleSteps rfl hconsiderate, considerate_of_quiet rfl, trivial,
    considerate_of_quiet rfl, trivial, trivial, trivial⟩

end

/-- The tool of a job is run once, although the job has been taken back. -/
theorem atMostOnce_sample : letI := sampleHash
    AtMostOnce sampleConfig sampleAgentConfig
      (sampleMoves ++ [.execute sampleAppleId sampleSite true]) ∧
    (World.empty.runMoves sampleConfig sampleAgentConfig
      (sampleMoves ++ [.execute sampleAppleId sampleSite true])).executed = [sampleAppleId] := by
  let _ := sampleHash
  refine ⟨atMostOnce_of_run _ _ _ (Runs.allSteps_append.2 ⟨careful_sampleMoves, trivial, trivial⟩), ?_⟩
  rw [runMoves_concat, runMoves_sampleMoves, next_execute_sample]

/-- Tools are run at most once, and in time, in every run. -/
def AlwaysAtMostOnce [Sha256] : Prop :=
  ∀ (config : Config) (agentConfig : AgentConfig) (moves : List Move),
    AtMostOnce config agentConfig moves

/-- A job that has been taken back is cancelled, and its tool is run all the same. -/
theorem not_alwaysAtMostOnce : ¬ ∃ _ : Sha256, AlwaysAtMostOnce := by
  rintro ⟨_, h⟩
  have hmoves : World.empty.runMoves sampleConfig sampleAgentConfig
      (sampleMoves ++ [.registry (.event sampleEnv (.request "client" (.appleCancel sampleAppleId)))])
      = sampleReady (sampleKnown.step sampleConfig
          (sampleEnv, .request "client" (.appleCancel sampleAppleId))) := by
    rw [runMoves_concat, runMoves_sampleMoves, next_cancel_sample]
  refine (h sampleConfig sampleAgentConfig _).timely
    (sampleMoves ++ [.registry (.event sampleEnv (.request "client" (.appleCancel sampleAppleId)))])
    (.execute sampleAppleId sampleSite true) [] rfl sampleAppleId ?_ ?_ _ [] (List.append_nil _).symm ?_
  · rw [hmoves, next_execute_sample]
    exact List.mem_singleton_self _
  · rw [hmoves]
    exact List.not_mem_nil
  · rw [hmoves]
    exact handle_sampleKnown

end RemoteApple
