/-
**The wire between the desktop application and its web page.**

What the application hands to the page it rewrites, so that no number of 64 bits loses digits in
JavaScript: every number becomes the text of its digits, in the parts of a value too. What the page hands
back is read by the commands of the application. Cursors and expected revisions arrive as texts and are
parsed; rules and filters are read by the readers that the daemon derives for them.

Main definitions:

* `Desktop.Client` — the part of the page that calls the commands.

Main results:

* `agrees_iff` — **the two ends agree** exactly on the filters without times.
-/

import DeviceLane.Daemon.Protocol
import DeviceLane.Dashboard.ModelReads

namespace Desktop

open Dashboard JsonCodec
open Daemon (LocalRequest)

variable {rule : PolicyRule} {wire : Json} {filter : AuditFilter}

/-! ### What the page receives -/

mutual

def stringifyUnsignedNumbers : Json → Json
  | .arr values => .arr (stringifyItems values)
  | .obj values => .obj (stringifyFields values)
  | .num number => .str (toString number)
  | .null => .null
  | .bool b => .bool b
  | .str s => .str s

def stringifyItems : List Json → List Json
  | [] => []
  | item :: items => stringifyUnsignedNumbers item :: stringifyItems items

def stringifyFields : List (String × Json) → List (String × Json)
  | [] => []
  | (key, value) :: fields => (key, stringifyUnsignedNumbers value) :: stringifyFields fields

end

def policyRules (rules : List PolicyRule) : Except ValidationError Json := do
  rules.forM PolicyRule.validate
  pure (stringifyUnsignedNumbers (.arr (rules.map PolicyRule.toJson)))

theorem stringifyItems_eq (items : List Json) :
    stringifyItems items = items.map stringifyUnsignedNumbers := by
  induction items with
  | nil => rfl
  | cons item items ih => rw [stringifyItems, ih, List.map_cons]

theorem lookup_stringifyFields (fields : List (String × Json)) (key : String) :
    (stringifyFields fields).lookup key = (fields.lookup key).map stringifyUnsignedNumbers := by
  induction fields with
  | nil => rfl
  | cons field fields ih =>
    obtain ⟨name, _⟩ := field
    rw [stringifyFields, List.lookup_cons, List.lookup_cons, ih]
    cases key == name <;> rfl

/-! ### Digits -/

def parseDigits (raw : String) : Option ℕ :=
  if raw ≠ "" ∧ raw.toList.all Char.isDigit = true then
    some (Nat.ofDigitChars 10 raw.toList 0)
  else
    none

@[simp] theorem parseDigits_toString (n : ℕ) : parseDigits (toString n) = some n := by
  have htext : (toString n).toList = Nat.toDigits 10 n := String.toList_ofList
  have hne : toString n ≠ "" := by
    intro h
    rw [h] at htext
    exact Nat.toDigits_ne_nil htext.symm
  have hdigits : (toString n).toList.all Char.isDigit = true := by
    rw [htext, List.all_eq_true]
    intro _ hc
    exact Nat.isDigit_of_mem_toDigits (by omega) (by omega) hc
  rw [parseDigits, if_pos ⟨hne, hdigits⟩, htext]
  exact congrArg some (Nat.ofDigitChars_toDigits (by omega) (by omega))

def parseU64Decimal (name raw : String) : Except String ℕ :=
  match parseDigits raw with
  | none => .error (name ++ " must be an unsigned decimal string")
  | some n => if n ≤ u64Max then .ok n else .error (name ++ " exceeds u64")

theorem parseU64Decimal_toString {n : ℕ} (name : String) (h : n ≤ u64Max) :
    parseU64Decimal name (toString n) = .ok n := by
  rw [parseU64Decimal, parseDigits_toString]
  exact if_pos h

/-! ### Commands -/

inductive Command
  | putPolicyRule
  | requestAdminPolicyPut
  | auditQuery
  | deleteAudit
  | requestAdminAuditDelete
  deriving DecidableEq, Repr

/-- A call of a command, with its arguments under the names that the page knows them by. -/
structure Invocation where
  command : Command
  args : List (String × Json)

/-- What comes of a call: an argument is not what the command takes, the command fails, or it sends a
request to the daemon. -/
inductive Outcome
  | rejected
  | failed (message : String)
  | sent (request : LocalRequest)
  | queried (filter : AuditFilter) (cursor : Option EventCursor) (limit : ℕ)

/-- What the command does with an argument that may not be what it takes. -/
def Outcome.given {α : Type} (argument : Option α) (f : α → Outcome) : Outcome :=
  match argument with
  | none => rejected
  | some a => f a

def Outcome.parsed {α : Type} (argument : Except String α) (f : α → Outcome) : Outcome :=
  match argument with
  | .error message => failed message
  | .ok a => f a

structure WireEventCursor where
  epoch : String
  sequence : String
  deriving DecidableEq

def WireEventCursor.fromJson (j : Json) : Option WireEventCursor := do
  let fields ← j.fieldsOf ["epoch", "sequence"]
  let epoch ← Json.required fields "epoch"
  let sequence ← Json.required fields "sequence"
  some { epoch, sequence }

def WireEventCursor.toCursor (value : WireEventCursor) : Except String EventCursor := do
  let epoch ← parseU64Decimal "cursor.epoch" value.epoch
  let sequence ← parseU64Decimal "cursor.sequence" value.sequence
  pure { epoch, sequence }

def cursorArgument (args : List (String × Json)) : Option (Option WireEventCursor) :=
  match args.lookup "cursor" with
  | none => some none
  | some .null => some none
  | some j => (WireEventCursor.fromJson j).map some

def approvalLifetimeMs : ℕ := 5 * 60 * 1000

def putPolicyRule (args : List (String × Json)) : Outcome :=
  .given (args.lookup "rule" >>= PolicyRule.fromJson) fun rule => .sent (.putPolicyRule rule)

def requestAdminPolicyPut (args : List (String × Json)) : Outcome :=
  .given (args.lookup "rule" >>= PolicyRule.fromJson) fun rule =>
    .given (Json.required args "expectedRevision") fun expectedRevision =>
      .parsed (parseU64Decimal "expected_revision" expectedRevision) fun revision =>
        .sent (.requestAdminMutationApproval (.policyPut rule revision) approvalLifetimeMs)

def auditQuery (args : List (String × Json)) : Outcome :=
  .given (args.lookup "filter" >>= AuditFilter.fromJson) fun filter =>
    .given (cursorArgument args) fun cursor =>
      .given (Json.requiredU64 args "limit") fun limit =>
        .parsed (cursor.mapM WireEventCursor.toCursor) fun cursor => .queried filter cursor limit

def deleteAudit (args : List (String × Json)) : Outcome :=
  .given (args.lookup "scope" >>= AuditDeletionScope.fromJson) fun scope =>
    .given (args.lookup "filter" >>= AuditFilter.fromJson) fun filter =>
      .sent (.auditDelete scope filter)

def requestAdminAuditDelete (args : List (String × Json)) : Outcome :=
  .given (args.lookup "scope" >>= AuditDeletionScope.fromJson) fun scope =>
    .given (args.lookup "filter" >>= AuditFilter.fromJson) fun filter =>
      .sent (.requestAdminMutationApproval (.auditDelete scope filter) approvalLifetimeMs)

def Invocation.perform (invocation : Invocation) : Outcome :=
  match invocation.command with
  | .putPolicyRule => putPolicyRule invocation.args
  | .requestAdminPolicyPut => requestAdminPolicyPut invocation.args
  | .auditQuery => auditQuery invocation.args
  | .deleteAudit => deleteAudit invocation.args
  | .requestAdminAuditDelete => requestAdminAuditDelete invocation.args

/-! ### The page -/

namespace Client

structure AdminMutationCall where
  mutation : Invocation
  approval : Invocation

def previousRevision (revision : String) : Option String :=
  (parseDigits revision).map fun value => toString (if value > 0 then value - 1 else 0)

def revisionOf : Json → Option String
  | .obj fields => Json.required fields "revision"
  | _ => none

def putPolicyRule (rule : Json) : Option AdminMutationCall := do
  let revision ← revisionOf rule
  let expectedRevision ← previousRevision revision
  some
    { mutation := ⟨.putPolicyRule, [("rule", rule)]⟩
      approval :=
        ⟨.requestAdminPolicyPut, [("rule", rule), ("expectedRevision", .str expectedRevision)]⟩ }

def u64Decimal : Option ℕ → Json
  | none => .null
  | some n => .str (toString n)

def filterOf (filter : AuditFilter) : Json :=
  .obj
    [("from_ms", u64Decimal filter.fromMs), ("through_ms", u64Decimal filter.throughMs),
      ("principal_id", optionToJson filter.principalId),
      ("source_host_id", optionToJson filter.sourceHostId),
      ("target_host_id", optionToJson filter.targetHostId),
      ("device_id", optionToJson filter.deviceId), ("operation", optionToJson filter.operation),
      ("resource", optionToJson filter.resource), ("decision", optionToJson filter.decision),
      ("result", optionToJson filter.result)]

def cursorOf : Option EventCursor → Json
  | none => .null
  | some cursor =>
    .obj [("epoch", .str (toString cursor.epoch)), ("sequence", .str (toString cursor.sequence))]

def auditQuery (filter cursor : Json) (limit : ℕ) : Invocation :=
  ⟨.auditQuery, [("filter", filter), ("cursor", cursor), ("limit", .num limit)]⟩

def deleteAudit (scope : AuditDeletionScope) (filter : Json) : AdminMutationCall :=
  { mutation := ⟨.deleteAudit, [("scope", .str scope.name), ("filter", filter)]⟩
    approval := ⟨.requestAdminAuditDelete, [("scope", .str scope.name), ("filter", filter)]⟩ }

end Client

/-! ### Rules on their way back -/

/-- What the page holds of a rule: an item of an answer to `policy_rules`. -/
def Received (rule : PolicyRule) (wire : Json) : Prop :=
  ∃ (rules : List PolicyRule) (items : List Json) (index : ℕ),
    policyRules rules = .ok (.arr items) ∧ rules[index]? = some rule ∧ items[index]? = some wire

theorem Received.eq (h : Received rule wire) : wire = .obj (stringifyFields rule.fields) := by
  obtain ⟨rules, items, _, hanswer, hrule, hwire⟩ := h
  have hitems : items = rules.map fun rule => stringifyUnsignedNumbers rule.toJson := by
    cases hvalid : rules.forM PolicyRule.validate with
    | error =>
      rw [policyRules, hvalid] at hanswer
      cases hanswer
    | ok =>
      rw [policyRules, hvalid] at hanswer
      have harr := Except.ok.inj hanswer
      rw [stringifyUnsignedNumbers, stringifyItems_eq, List.map_map] at harr
      exact (Json.arr.inj harr).symm
  rw [hitems, List.getElem?_map, hrule] at hwire
  exact (Option.some_inj.1 hwire).symm

theorem received_of_valid (h : rule.validate = .ok ()) :
    Received rule (.obj (stringifyFields rule.fields)) := by
  refine ⟨[rule], [.obj (stringifyFields rule.fields)], 0, ?_, rfl, rfl⟩
  change (rule.validate >>= fun _ => pure PUnit.unit) >>= _ = _
  rw [h]
  rfl

theorem revision_of_received (rule : PolicyRule) :
    (stringifyFields rule.fields).lookup "revision" = some (.str (toString rule.revision)) := by
  rw [lookup_stringifyFields]
  rfl

/-- The change that the daemon carries out when it is told to put a rule. -/
def executed (rule : PolicyRule) : AdminMutation := .policyPut rule (rule.revision - 1)

theorem putPolicyRule_eq [Sha256] (rule : PolicyRule) (nowMs : ℕ) :
    DashboardService.putPolicyRule rule nowMs
      = DashboardService.putPolicyRuleExact rule (rule.revision - 1) nowMs := rfl

theorem previousRevision_toString (n : ℕ) :
    Client.previousRevision (toString n) = some (toString (n - 1)) := by
  rw [Client.previousRevision, parseDigits_toString]
  refine congrArg (fun value => some (toString value)) ?_
  split_ifs <;> omega

/-- **The page derives from a rule the revision that the daemon expects.** -/
theorem putPolicyRule_of_received (h : Received rule wire) :
    Client.putPolicyRule wire
      = some
        { mutation := ⟨.putPolicyRule, [("rule", wire)]⟩
          approval :=
            ⟨.requestAdminPolicyPut,
              [("rule", wire), ("expectedRevision", .str (toString (rule.revision - 1)))]⟩ } := by
  have hread : Client.revisionOf wire = some (toString rule.revision) := by
    rw [h.eq]
    exact Json.required_of_lookup (revision_of_received rule)
  rw [Client.putPolicyRule, hread]
  exact Json.bind_of_eq_some rfl (Json.bind_of_eq_some (previousRevision_toString _) rfl)

theorem fromJson_of_received (h : Received rule wire) : PolicyRule.fromJson wire = none := by
  rw [h.eq]
  exact PolicyRule.fromJson_of_revision (revision_of_received rule)

theorem putPolicyRule_toJson (h : rule.validate = .ok ()) (hu64 : rule.InU64) :
    putPolicyRule [("rule", rule.toJson)] = .sent (.putPolicyRule rule) := by
  change Outcome.given (PolicyRule.fromJson rule.toJson) _ = _
  rw [PolicyRule.fromJson_toJson h hu64]
  rfl

/-! ### Filters on their way back -/

theorem filterOf_of_undated (hfrom : filter.fromMs = none) (hthrough : filter.throughMs = none) :
    Client.filterOf filter = filter.toJson := by
  rw [Client.filterOf, AuditFilter.toJson, hfrom, hthrough]
  rfl

theorem fromJson_filterOf :
    AuditFilter.fromJson (Client.filterOf filter) = some filter ↔
      filter.fromMs = none ∧ filter.throughMs = none := by
  constructor
  · intro hread
    cases hfrom : filter.fromMs with
    | some fromMs =>
      have htext : some (Client.u64Decimal filter.fromMs) = some (.str (toString fromMs)) := by
        rw [hfrom]
        rfl
      have hnone : AuditFilter.fromJson (Client.filterOf filter) = none :=
        AuditFilter.fromJson_of_time (.inl rfl) htext
      rw [hnone] at hread
      cases hread
    | none =>
      cases hthrough : filter.throughMs with
      | some throughMs =>
        have htext : some (Client.u64Decimal filter.throughMs) = some (.str (toString throughMs)) := by
          rw [hthrough]
          rfl
        have hnone : AuditFilter.fromJson (Client.filterOf filter) = none :=
          AuditFilter.fromJson_of_time (.inr rfl) htext
        rw [hnone] at hread
        cases hread
      | none => exact ⟨rfl, rfl⟩
  · rintro ⟨hfrom, hthrough⟩
    rw [filterOf_of_undated hfrom hthrough]
    refine AuditFilter.fromJson_toJson ⟨?_, ?_⟩
    · rw [hfrom]
      intro _ h
      cases h
    · rw [hthrough]
      intro _ h
      cases h

structure CursorInU64 (cursor : EventCursor) : Prop where
  epoch_le : cursor.epoch ≤ u64Max
  sequence_le : cursor.sequence ≤ u64Max

theorem toCursor_toString {cursor : EventCursor} (h : CursorInU64 cursor) :
    WireEventCursor.toCursor ⟨toString cursor.epoch, toString cursor.sequence⟩ = .ok cursor := by
  rw [WireEventCursor.toCursor, parseU64Decimal_toString _ h.epoch_le,
    parseU64Decimal_toString _ h.sequence_le]
  rfl

theorem cursorArgument_cursorOf {args : List (String × Json)} {cursor : Option EventCursor}
    (hcursor : ∀ c ∈ cursor, CursorInU64 c)
    (h : args.lookup "cursor" = some (Client.cursorOf cursor)) :
    ∃ value, cursorArgument args = some value ∧
      value.mapM WireEventCursor.toCursor = (.ok cursor : Except String (Option EventCursor)) := by
  cases cursor with
  | none => exact ⟨none, by rw [cursorArgument, h]; rfl, rfl⟩
  | some cursor =>
    refine ⟨some ⟨toString cursor.epoch, toString cursor.sequence⟩, ?_, ?_⟩
    · rw [cursorArgument, h]
      rfl
    · change (WireEventCursor.toCursor _ >>= fun c => pure (some c)) = _
      rw [toCursor_toString (hcursor cursor rfl)]
      rfl

theorem auditQuery_of_reads {args : List (String × Json)} {value : Option WireEventCursor}
    {cursor : Option EventCursor} {limit : ℕ}
    (hfilter : args.lookup "filter" >>= AuditFilter.fromJson = some filter)
    (hcursor : cursorArgument args = some value)
    (hparsed : value.mapM WireEventCursor.toCursor = (.ok cursor : Except String (Option EventCursor)))
    (hlimit : Json.requiredU64 args "limit" = some limit) :
    auditQuery args = .queried filter cursor limit := by
  rw [auditQuery, hfilter, Outcome.given, hcursor, Outcome.given, hlimit, Outcome.given, hparsed]
  rfl

/-! ### Agreement -/

/-- What the page hands to the commands. -/
inductive Handed
  | rule (rule : PolicyRule)
  | filter (filter : AuditFilter)
  deriving DecidableEq

namespace Handed

/-- A value of the source: a rule that passes its own check, numbers of 64 bits. -/
def Valid : Handed → Prop
  | .rule r => r.validate = .ok () ∧ r.InU64
  | .filter f => f.InU64

/-- The commands take what the page hands on for what it is: a rule to put, with the approval of the very
change that the daemon then carries out, and a filter to query or delete by. -/
def Agrees : Handed → Prop
  | .rule r =>
    ∀ wire, Received r wire →
      ∃ call, Client.putPolicyRule wire = some call ∧
        call.mutation.perform = .sent (.putPolicyRule r) ∧
        call.approval.perform
          = .sent (.requestAdminMutationApproval (executed r) approvalLifetimeMs)
  | .filter f =>
    (∀ (cursor : Option EventCursor) (limit : ℕ), (∀ c ∈ cursor, CursorInU64 c) → limit ≤ u64Max →
      (Client.auditQuery (Client.filterOf f) (Client.cursorOf cursor) limit).perform
        = .queried f cursor limit) ∧
    ∀ scope,
      (Client.deleteAudit scope (Client.filterOf f)).mutation.perform
        = .sent (.auditDelete scope f) ∧
      (Client.deleteAudit scope (Client.filterOf f)).approval.perform
        = .sent (.requestAdminMutationApproval (.auditDelete scope f) approvalLifetimeMs)

/-- The page sends, with a rule, the revision that the daemon expects. -/
def ExpectsRevision : Handed → Prop
  | .rule r =>
    ∀ wire, Received r wire →
      ∃ call text revision, Client.putPolicyRule wire = some call ∧
        Json.required call.approval.args "expectedRevision" = some text ∧
        parseU64Decimal "expected_revision" text = .ok revision ∧
        executed r = .policyPut r revision
  | .filter _ => True

/-- There is no number in it. -/
def Undated : Handed → Prop
  | .rule _ => False
  | .filter f => f.fromMs = none ∧ f.throughMs = none

theorem not_agrees_rule {rule : PolicyRule} (h : rule.validate = .ok ()) : ¬(Handed.rule rule).Agrees := by
  intro hagrees
  have hreceived := received_of_valid h
  obtain ⟨_, hcall, hperform, -⟩ := hagrees _ hreceived
  rw [putPolicyRule_of_received hreceived] at hcall
  cases hcall
  have hrejected : Outcome.given (PolicyRule.fromJson (.obj (stringifyFields rule.fields)))
      (fun rule => .sent (.putPolicyRule rule)) = .sent (.putPolicyRule rule) := hperform
  rw [fromJson_of_received hreceived] at hrejected
  cases hrejected

theorem expectsRevision {handed : Handed} (h : handed.Valid) : handed.ExpectsRevision := by
  cases handed with
  | filter => trivial
  | rule rule =>
    intro _ hreceived
    have hle : rule.revision - 1 ≤ u64Max := (Nat.sub_le _ _).trans h.2.revision_le
    exact ⟨_, _, _, putPolicyRule_of_received hreceived, rfl, parseU64Decimal_toString _ hle, rfl⟩

theorem agrees_filter_iff {filter : AuditFilter} :
    (Handed.filter filter).Agrees ↔
      AuditFilter.fromJson (Client.filterOf filter) = some filter := by
  constructor
  · rintro ⟨-, hdelete⟩
    have hsent : Outcome.given (AuditFilter.fromJson (Client.filterOf filter))
        (fun filter => .sent (.auditDelete .allRetained filter)) = .sent (.auditDelete .allRetained filter) :=
      (hdelete .allRetained).1
    cases hread : AuditFilter.fromJson (Client.filterOf filter) with
    | none =>
      rw [hread] at hsent
      cases hsent
    | some =>
      rw [hread] at hsent
      cases hsent
      rfl
  · intro hread
    refine ⟨?_, fun scope => ⟨?_, ?_⟩⟩
    · intro cursor limit hcursor hlimit
      have hargs : List.lookup "cursor" [("filter", Client.filterOf filter),
          ("cursor", Client.cursorOf cursor), ("limit", Json.num limit)]
          = some (Client.cursorOf cursor) := rfl
      obtain ⟨_, hvalue, hparsed⟩ := cursorArgument_cursorOf hcursor hargs
      exact auditQuery_of_reads hread hvalue hparsed (Json.requiredU64_of_lookup hlimit rfl)
    · change Outcome.given (AuditDeletionScope.fromJson (.str scope.name)) _ = _
      rw [AuditDeletionScope.fromJson_name]
      change Outcome.given (AuditFilter.fromJson (Client.filterOf filter)) _ = _
      rw [hread]
      rfl
    · change Outcome.given (AuditDeletionScope.fromJson (.str scope.name)) _ = _
      rw [AuditDeletionScope.fromJson_name]
      change Outcome.given (AuditFilter.fromJson (Client.filterOf filter)) _ = _
      rw [hread]
      rfl

/-- **The two ends agree** exactly on the filters without times; the page always derives the revision that
the daemon expects. -/
theorem agrees_iff (handed : Handed) (h : handed.Valid) :
    (handed.Agrees ↔ handed.Undated) ∧ handed.ExpectsRevision := by
  refine ⟨?_, expectsRevision h⟩
  cases handed with
  | rule rule => exact iff_of_false (not_agrees_rule h.1) id
  | filter filter => exact agrees_filter_iff.trans fromJson_filterOf

theorem idText_rule : IdText "rule" := by decide

/-- A rule as a user first writes it. -/
def sampleRule : PolicyRule :=
  { id := ⟨"rule", idText_rule⟩
    revision := 1
    effect := .deny
    principalId := none
    sourceHostId := none
    targetHostId := none
    deviceId := none
    operation := none
    resources := [.signing]
    expiresAtMs := none
    requireUserPresence := false
    userPresence := none
    physicalDevice := none
    matchDeviceExact := false
    matchResourcesExact := false
    enabled := true
    origin := .user }

theorem valid_sampleRule : (Handed.rule sampleRule).Valid := by
  refine ⟨rfl, by decide, ?_⟩
  intro _ h
  cases h

theorem valid_default : (Handed.filter .default).Valid := by
  constructor <;> intro _ h <;> cases h

/-- The filter that is not set agrees, and the first revision of a rule is expected to follow none. -/
theorem agrees_default :
    (Handed.filter .default).Agrees ∧ (Handed.rule sampleRule).ExpectsRevision :=
  ⟨(agrees_iff (.filter .default) valid_default).1.2 ⟨rfl, rfl⟩,
    (agrees_iff (.rule sampleRule) valid_sampleRule).2⟩

/-- The commands agree with the page on all rules and filters. -/
def AlwaysAgrees : Prop := ∀ handed : Handed, handed.Valid → handed.Agrees

/-- **The commands take no rule back**: its revision has become a text. -/
theorem not_alwaysAgrees : ¬AlwaysAgrees := by
  intro h
  exact not_agrees_rule valid_sampleRule.1 (h (.rule sampleRule) valid_sampleRule)

end Handed

end Desktop
