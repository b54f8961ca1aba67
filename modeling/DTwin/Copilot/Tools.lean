import DTwin.Copilot.Evidence
import DTwin.Copilot.Records
import DTwin.Rules.Notify

/-!
# DTwin.Copilot.Tools — the tool calls of a task

`execute` and `runSpecialistTools` of `apps/web/lib/copilot/tools/index.ts`, `reportFinding` of `report.ts` and the
`agent` and `tools` nodes of `specialist.ts`.  The calls of a turn start together, in order; each ends when its reply
is there, and when all have ended they are answered in the order they were made in.  What a tool or the schema of a
finding makes of an input is not modelled, and a draft is any type.

`tools_exact_iff` is the result over the runs of a task: a turn is answered call by call whatever order its calls end
in, and what a task is charged with is the calls that spend its budget exactly as long as no turn calls
`report_finding`.
-/

namespace DTwin.Copilot.Tools

open Machine Records

/-! ## Tools and who has them -/

inductive SpecialistRole | diagnose | analyse | simulate | control
deriving DecidableEq

def SpecialistRole.text : SpecialistRole → String
  | .diagnose => "diagnose"
  | .analyse => "analyse"
  | .simulate => "simulate"
  | .control => "control"

inductive ToolName
  | zoneConditions | zoneHistory | zoneTimeline | equipmentStatus | listAlerts | controlHistory | energyByEndUse
  | meterConsumption | compareZones | listZones | controlEnvelope | dryRunSetpoint | simulateScenarios | proposePlan
  | reportFinding
deriving DecidableEq

def ToolName.text : ToolName → String
  | .zoneConditions => "zone_conditions"
  | .zoneHistory => "zone_history"
  | .zoneTimeline => "zone_timeline"
  | .equipmentStatus => "equipment_status"
  | .listAlerts => "list_alerts"
  | .controlHistory => "control_history"
  | .energyByEndUse => "energy_by_end_use"
  | .meterConsumption => "meter_consumption"
  | .compareZones => "compare_zones"
  | .listZones => "list_zones"
  | .controlEnvelope => "control_envelope"
  | .dryRunSetpoint => "dry_run_setpoint"
  | .simulateScenarios => "simulate_scenarios"
  | .proposePlan => "propose_plan"
  | .reportFinding => "report_finding"

def DIAGNOSE_TOOLS : List ToolName :=
  [.zoneConditions, .zoneHistory, .zoneTimeline, .equipmentStatus, .listAlerts, .controlHistory, .reportFinding]

def ANALYSE_TOOLS : List ToolName := [.energyByEndUse, .meterConsumption, .compareZones, .reportFinding]

def SIMULATE_TOOLS : List ToolName := [.simulateScenarios, .reportFinding]

def CONTROL_TOOLS : List ToolName := [.listZones, .controlEnvelope, .dryRunSetpoint, .proposePlan, .reportFinding]

def ROLE_TOOLS : SpecialistRole → List ToolName
  | .diagnose => DIAGNOSE_TOOLS
  | .analyse => ANALYSE_TOOLS
  | .simulate => SIMULATE_TOOLS
  | .control => CONTROL_TOOLS

/-- What a role is offered: `propose_plan` only to a controller that may propose. -/
def offeredTools (role : SpecialistRole) (mode : Option ControlMode) : List ToolName :=
  if role = .control ∧ mode ≠ some .propose then (ROLE_TOOLS role).filter (· ≠ .proposePlan) else ROLE_TOOLS role

/-- The service of an evidence tool. -/
def ToolName.service : ToolName → Option String
  | .controlEnvelope | .dryRunSetpoint => some "control service"
  | .simulateScenarios => some "simulator"
  | .proposePlan | .reportFinding => none
  | _ => some "database"

/-- The limits of a task's tools. -/
structure ToolLimits where
  maxSpecialistTurns : ℕ
  maxToolCallsPerTurn : ℕ
  maxToolCallsPerTask : ℕ
  maxEvidenceBytes : ℕ
  maxEvidencePerRequest : ℕ

def ToolLimits.DEFAULT_LIMITS : ToolLimits where
  maxSpecialistTurns := 6
  maxToolCallsPerTurn := 6
  maxToolCallsPerTask := 12
  maxEvidenceBytes := 8 * 1024
  maxEvidencePerRequest := 60

/-! ## A call -/

structure Claim where
  text : String
  evidenceIds : List String
deriving DecidableEq

inductive FindingReportStatus | answered | someOfIt | cannotAnswer
deriving DecidableEq

structure ReportFindingInput where
  status : FindingReportStatus
  summary : String
  claims : List Claim
  openQuestions : List String
  caveats : List CaveatId
deriving DecidableEq

structure ToolCall (ι : Type) where
  id : String
  name : String
  input : ι
deriving DecidableEq

/-- A refusal, with the simulation runs that were started before it. -/
structure Refused (ρ : Type) where
  refused : String
  simRuns : List ρ

/-- What an evidence tool answers. -/
inductive ToolReply (δ ρ : Type)
  /-- By `prepare` or by `execute`. -/
  | refused (r : Refused ρ)
  /-- A `ServiceError`. -/
  | serviceError (message : String)
  | throws
  /-- A draft, and the hint that is given when it is too large. -/
  | draft (draft : δ) (hint : String)

/-- What `proposePlan` answers. -/
inductive PlanReply (π ρ : Type)
  | refused (r : Refused ρ)
  | throws
  | plan (content : String) (proposal : π)

/-- What a call that runs is told. -/
structure Reply (δ π ρ : Type) where
  tool : ToolReply δ ρ
  plan : PlanReply π ρ

inductive Outcome (δ π ρ : Type)
  | error (content : String) (simRuns : List ρ)
  | evidence (draft : δ)
  | proposal (content : String) (proposal : π)
  | report (content : String) (report : ReportFindingInput)

/-- What the tools of a request rest on: the schema of a finding, and the size and the runs of a draft. -/
structure Kit (ι δ ρ : Type) where
  /-- `ReportFindingInput.safeParse`, with `zodIssues` of the failure. -/
  safeParse : ι → Except String ReportFindingInput
  bytes : δ → ℕ
  simRuns : δ → List ρ

/-- A task, as its tools see it. -/
structure ToolTask where
  role : SpecialistRole
  taskId : String
  inputEvidenceIds : List String
  mode : Option ControlMode

variable {ι δ π ρ : Type}

def error (r : Refused ρ) : Outcome δ π ρ := .error r.refused r.simRuns

/-- As much of a name as a text shows. -/
def shown (name : String) : String := String.ofList (Notify.sliceUnits 64 name.toList)

/-- Kilobytes, to a tenth. -/
def kb (bytes : ℕ) : String :=
  if bytes % 1024 = 0 then toString (bytes / 1024) ++ " KB"
  else
    let tenths := (bytes * 10 + 512) / 1024
    toString (tenths / 10) ++ "." ++ toString (tenths % 10) ++ " KB"

def orderCaveats (ids : List CaveatId) : List CaveatId := CAVEAT_IDS.filter fun id => id ∈ ids

/-- `report_finding`: every id that is cited is one that the task has. -/
def reportFinding (safeParse : ι → Except String ReportFindingInput) (known : List String) (input : ι) :
    Outcome δ π ρ :=
  match safeParse input with
  | .error issues => .error ("invalid finding: " ++ issues) []
  | .ok report =>
    match (report.claims.flatMap Claim.evidenceIds).eraseDups.filter fun id => id ∉ known with
    | [] => .report "finding recorded" { report with caveats := orderCaveats report.caveats }
    | unknown =>
      .error ("unknown evidence id(s): " ++ ", ".intercalate unknown
        ++ " — cite only ids from your tool results or your inputs") []

/-- `execute`, up to the evidence id; `none` if it throws. -/
def execute (kit : Kit ι δ ρ) (limits : ToolLimits) (task : ToolTask) (produced : List String)
    (interrupted : Option BudgetReason) (call : ToolCall ι) (reply : Reply δ π ρ) : Option (Outcome δ π ρ) :=
  match (offeredTools task.role task.mode).find? fun name => name.text = call.name with
  | none =>
    some (.error (if task.role = .control ∧ call.name = ToolName.proposePlan.text then
        "propose_plan is not offered in check mode: report what you found instead"
      else shown call.name ++ " is not offered to " ++ task.role.text) [])
  | some .reportFinding => some (reportFinding kit.safeParse (task.inputEvidenceIds ++ produced) call.input)
  | some name =>
    match interrupted with
    | some .stopped => some (.error "the request was stopped: report what you have" [])
    | some _ => some (.error "the request passed its deadline: report what you have" [])
    | none =>
      match name.service with
      | none =>
        match reply.plan with
        | .refused r => some (error r)
        | .throws => none
        | .plan content proposal => some (.proposal content proposal)
      | some service =>
        match reply.tool with
        | .refused r => some (error r)
        | .serviceError message => some (.error message [])
        | .throws => some (.error (name.text ++ " failed inside the copilot (not a " ++ service ++ " fault)") [])
        | .draft draft hint =>
          if limits.maxEvidenceBytes < kit.bytes draft then
            some (.error
              ("result too large (" ++ kb (kit.bytes draft) ++ " > " ++ kb limits.maxEvidenceBytes ++ "); " ++ hint)
              (kit.simRuns draft))
          else some (.evidence draft)

/-- What a call that runs comes to. -/
def outcome (kit : Kit ι δ ρ) (limits : ToolLimits) (task : ToolTask) (produced : List String)
    (interrupted : Option BudgetReason) (call : ToolCall ι) (reply : Reply δ π ρ) : Outcome δ π ρ :=
  (execute kit limits task produced interrupted call reply).getD
    (.error (shown call.name ++ " failed inside the copilot") [])

/-! ## A turn -/

/-- A call of a turn. -/
inductive Slot (δ π ρ : Type)
  /-- Past a bound: it does not run. -/
  | capped (content : String)
  /-- Running, with what `interrupted` said when it started. -/
  | running (interrupted : Option BudgetReason)
  | settled (outcome : Outcome δ π ρ)

def Slot.isCapped : Slot δ π ρ → Bool
  | .capped _ => true
  | _ => false

def Slot.outcome? : Slot δ π ρ → Option (Outcome δ π ρ)
  | .capped content => some (.error content [])
  | .running _ => none
  | .settled outcome => some outcome

/-- The calls of a turn, from the `i`th on: those within both bounds start. -/
def dispatch (limits : ToolLimits) (interrupted : ℕ → Option BudgetReason) :
    ℕ → ℕ → List (ToolCall ι) → List (Slot δ π ρ)
  | _, _, [] => []
  | i, budget, call :: calls =>
    if limits.maxToolCallsPerTurn ≤ i then
      .capped ("at most " ++ toString limits.maxToolCallsPerTurn ++ " tool calls per turn: call again next turn")
        :: dispatch limits interrupted (i + 1) budget calls
    else if call.name = ToolName.reportFinding.text then
      .running (interrupted i) :: dispatch limits interrupted (i + 1) budget calls
    else if budget = 0 then
      .capped ("at most " ++ toString limits.maxToolCallsPerTask ++ " tool calls per task: call report_finding now")
        :: dispatch limits interrupted (i + 1) budget calls
    else .running (interrupted i) :: dispatch limits interrupted (i + 1) (budget - 1) calls

/-- The content of a `tool_result`: a text, or the JSON of a record. -/
inductive Content (δ : Type)
  | text (s : String)
  | record (record : Record δ)
deriving DecidableEq

structure SpecialistToolResult (δ π ρ : Type) where
  content : Content δ
  isError : Bool
  evidence : Option (Record δ)
  proposal : Option π
  report : Option ReportFindingInput
  simRuns : List ρ

inductive UserBlock (δ : Type)
  | toolResult (toolUseId : String) (content : Content δ) (isError : Bool)
  | text (s : String)
deriving DecidableEq

structure ToolTurnResult (δ π ρ : Type) where
  blocks : List (UserBlock δ)
  results : List (SpecialistToolResult δ π ρ)
  evidence : List (Record δ)
  proposal : Option π
  report : Option ReportFindingInput
  simRuns : List ρ
  ledgerFull : Bool
  /-- The count of the ledger. -/
  evidenceCount : Option ℕ

def SpecialistToolResult.refusal (content : String) (simRuns : List ρ) : SpecialistToolResult δ π ρ :=
  ⟨.text content, true, none, none, none, simRuns⟩

/-- The result of an outcome, after the results of the calls before it; `seq` is what the task has numbered before. -/
def resultOf (kit : Kit ι δ ρ) (max : ℕ) (taskId : String) (seq : ℕ) (out : ToolTurnResult δ π ρ) :
    Outcome δ π ρ → SpecialistToolResult δ π ρ × Option ℕ
  | .error content simRuns => (.refusal content simRuns, out.evidenceCount)
  | .evidence draft =>
    match nextId max taskId (seq + out.evidence.length) out.evidenceCount with
    | (none, count) =>
      (.refusal ("evidence ledger full (" ++ toString max ++ "): report what you have") (kit.simRuns draft), count)
    | (some id, count) =>
      (⟨.record ⟨id, taskId, draft⟩, false, some ⟨id, taskId, draft⟩, none, none, kit.simRuns draft⟩, count)
  | .proposal content proposal =>
    if out.proposal.isSome then (.refusal "only one plan per turn; the first was kept" [], out.evidenceCount)
    else (⟨.text content, false, none, some proposal, none, []⟩, out.evidenceCount)
  | .report content report =>
    if out.report.isSome then
      (.refusal "a finding was already recorded this turn; the first was kept" [], out.evidenceCount)
    else (⟨.text content, false, none, none, some report, []⟩, out.evidenceCount)

def Outcome.isEvidence : Outcome δ π ρ → Bool
  | .evidence _ => true
  | _ => false

/-- The next call of a turn is answered. -/
def push (kit : Kit ι δ ρ) (max : ℕ) (taskId : String) (seq : ℕ) (out : ToolTurnResult δ π ρ)
    (c : ToolCall ι × Outcome δ π ρ) : ToolTurnResult δ π ρ :=
  let (result, count) := resultOf kit max taskId seq out c.2
  { blocks := out.blocks ++ [.toolResult c.1.id result.content result.isError]
    results := out.results ++ [result]
    evidence := out.evidence ++ result.evidence.toList
    proposal := out.proposal.or result.proposal
    report := out.report.or result.report
    simRuns := out.simRuns ++ result.simRuns
    ledgerFull := out.ledgerFull || (c.2.isEvidence && result.isError)
    evidenceCount := count }

/-- The answer to a turn, once all its calls have ended. -/
def answer (kit : Kit ι δ ρ) (max : ℕ) (taskId : String) (seq : ℕ) (count : Option ℕ)
    (cs : List (ToolCall ι × Outcome δ π ρ)) : ToolTurnResult δ π ρ :=
  cs.foldl (push kit max taskId seq) ⟨[], [], [], none, none, [], false, count⟩

/-! ## A task -/

structure Turn (ι δ π ρ : Type) where
  calls : List (ToolCall ι)
  slots : List (Slot δ π ρ)

/-- The private state of a task. -/
structure Sys (ι δ π ρ : Type) where
  turns : ℕ
  toolCalls : ℕ
  evidenceSeq : ℕ
  /-- The ids of the task's own records. -/
  own : List String
  report : Option ReportFindingInput
  draftPlan : Option π
  /-- The task ends because the ledger is full. -/
  failed : Bool
  turn : Option (Turn ι δ π ρ)

inductive Act (ι δ π ρ : Type)
  /-- The model makes its calls, and they start. -/
  | ask (calls : List (ToolCall ι)) (interrupted : ℕ → Option BudgetReason)
  | settle (i : ℕ) (reply : Reply δ π ρ)
  /-- All have ended, and the ledger has this count. -/
  | join (count : Option ℕ)

/-- A turn that was answered. -/
structure Answered (ι δ π ρ : Type) where
  calls : List (ToolCall ι)
  /-- The calls that ran. -/
  ran : List (ToolCall ι)
  message : List (UserBlock δ)
  result : ToolTurnResult δ π ρ

def LAST_TURN_NUDGE : String := "[system] Last turn: call report_finding now with what you have."

def Turn.outcomes (t : Turn ι δ π ρ) : List (Outcome δ π ρ) := t.slots.filterMap Slot.outcome?

def Turn.isSettled (t : Turn ι δ π ρ) : Bool := t.slots.all fun slot => slot.outcome?.isSome

def Turn.ran (t : Turn ι δ π ρ) : List (ToolCall ι) :=
  (t.calls.zip (t.slots.map Slot.isCapped)).filterMap fun c => if c.2 then none else some c.1

def Sys.init : Sys ι δ π ρ := ⟨0, 0, 0, [], none, none, false, none⟩

variable (kit : Kit ι δ ρ) (limits : ToolLimits) (task : ToolTask)

def step (s : Sys ι δ π ρ) : Act ι δ π ρ → Option (Sys ι δ π ρ × List (Answered ι δ π ρ))
  | .ask calls interrupted =>
    if s.turn.isNone && s.report.isNone && !s.failed && decide (s.turns < limits.maxSpecialistTurns)
        && !calls.isEmpty then
      let budget := limits.maxToolCallsPerTask - s.toolCalls
      some ({ s with turns := s.turns + 1, turn := some ⟨calls, dispatch limits interrupted 0 budget calls⟩ }, [])
    else none
  | .settle i reply =>
    match s.turn with
    | none => none
    | some t =>
      match t.calls[i]?, t.slots[i]? with
      | some call, some (.running interrupted) =>
        let slots := t.slots.set i (.settled (outcome kit limits task s.own interrupted call reply))
        some ({ s with turn := some { t with slots } }, [])
      | _, _ => none
  | .join count =>
    match s.turn with
    | none => none
    | some t =>
      if t.isSettled then
        let out := answer kit limits.maxEvidencePerRequest task.taskId s.evidenceSeq count (t.calls.zip t.outcomes)
        let nudge := if s.turns + 1 = limits.maxSpecialistTurns ∧ out.report.isNone then [.text LAST_TURN_NUDGE] else []
        let full := out.ledgerFull || !canClaim limits.maxEvidencePerRequest out.evidenceCount
        some ({ s with
          toolCalls := s.toolCalls + t.ran.length
          evidenceSeq := s.evidenceSeq + out.evidence.length
          own := s.own ++ out.evidence.map (·.id)
          report := out.report.or s.report
          draftPlan := if task.role = .control then out.proposal.or s.draftPlan else s.draftPlan
          failed := out.report.isNone && full
          turn := none }, [⟨t.calls, t.ran, out.blocks ++ nudge, out⟩])
      else none

def tools : Machine (Sys ι δ π ρ) (Act ι δ π ρ) (Answered ι δ π ρ) := ⟨step kit limits task⟩

/-! ## What starts -/

section Starts

variable {kit : Kit ι δ ρ} {limits : ToolLimits} {task : ToolTask}

/-- The calls of a list that run, of those whose names are capped or not. -/
def ranOf (calls : List (ToolCall ι)) (capped : List Bool) : List (ToolCall ι) :=
  (calls.zip capped).filterMap fun c => if c.2 then none else some c.1

theorem ranOf_cons (call : ToolCall ι) (calls : List (ToolCall ι)) (b : Bool) (capped : List Bool) :
    ranOf (call :: calls) (b :: capped) = if b then ranOf calls capped else call :: ranOf calls capped := by
  cases b <;> rfl

theorem length_dispatch (limits : ToolLimits) (interrupted : ℕ → Option BudgetReason) (calls : List (ToolCall ι))
    (i budget : ℕ) : (dispatch limits interrupted i budget calls : List (Slot δ π ρ)).length = calls.length := by
  induction calls generalizing i budget with
  | nil => rfl
  | cons call calls ih =>
    unfold dispatch
    split_ifs <;> rw [List.length_cons, List.length_cons, ih]

/-- Past the bound of a turn nothing runs. -/
theorem ranOf_dispatch_past (interrupted : ℕ → Option BudgetReason) (calls : List (ToolCall ι)) {i : ℕ} (budget : ℕ)
    (hi : limits.maxToolCallsPerTurn ≤ i) :
    ranOf calls ((dispatch limits interrupted i budget calls : List (Slot δ π ρ)).map Slot.isCapped) = [] := by
  induction calls generalizing i with
  | nil => rfl
  | cons call calls ih =>
    unfold dispatch
    rw [if_pos hi, List.map_cons, ranOf_cons]
    exact ih (by omega)

/-- **A finding is never turned away at the budget**: the calls of a turn that run hold none exactly if the calls within
the bound of the turn hold none. -/
theorem no_finding_ran_iff (interrupted : ℕ → Option BudgetReason) (calls : List (ToolCall ι)) (i budget : ℕ) :
    (∀ call ∈ ranOf calls ((dispatch limits interrupted i budget calls : List (Slot δ π ρ)).map Slot.isCapped),
        call.name ≠ ToolName.reportFinding.text) ↔
      ∀ call ∈ calls.take (limits.maxToolCallsPerTurn - i), call.name ≠ ToolName.reportFinding.text := by
  induction calls generalizing i budget with
  | nil => simp [ranOf]
  | cons call calls ih =>
    by_cases hi : limits.maxToolCallsPerTurn ≤ i
    · have hnone : limits.maxToolCallsPerTurn - i = 0 := by omega
      rw [ranOf_dispatch_past interrupted (call :: calls) budget hi, hnone]
      simp
    · have hsome : limits.maxToolCallsPerTurn - i = limits.maxToolCallsPerTurn - (i + 1) + 1 := by omega
      rw [hsome, List.take_succ_cons]
      unfold dispatch
      rw [if_neg hi]
      split_ifs with hname hbudget
      · rw [List.map_cons, ranOf_cons]
        simp [Slot.isCapped, hname]
      · rw [List.map_cons, ranOf_cons]
        simpa [Slot.isCapped, hname] using ih (i + 1) budget
      · rw [List.map_cons, ranOf_cons]
        simpa [Slot.isCapped, hname] using ih (i + 1) (budget - 1)

/-- A turn whose calls started within the bounds. -/
def Turn.Started (limits : ToolLimits) (t : Turn ι δ π ρ) : Prop :=
  ∃ interrupted budget, t.slots.map Slot.isCapped
    = (dispatch limits interrupted 0 budget t.calls : List (Slot δ π ρ)).map Slot.isCapped

theorem Turn.Started.length_slots {t : Turn ι δ π ρ} (h : t.Started limits) : t.slots.length = t.calls.length := by
  obtain ⟨interrupted, budget, hslots⟩ := h
  have hlength := congrArg List.length hslots
  rwa [List.length_map, List.length_map, length_dispatch] at hlength

theorem Turn.Started.no_finding_iff {t : Turn ι δ π ρ} (h : t.Started limits) :
    (∀ call ∈ t.ran, call.name ≠ ToolName.reportFinding.text) ↔
      ∀ call ∈ t.calls.take limits.maxToolCallsPerTurn, call.name ≠ ToolName.reportFinding.text := by
  obtain ⟨interrupted, budget, hslots⟩ := h
  show (∀ call ∈ ranOf t.calls (t.slots.map Slot.isCapped), _) ↔ _
  rw [hslots]
  exact no_finding_ran_iff interrupted t.calls 0 budget

/-- A call that ends stays one that ran. -/
theorem Turn.Started.settle {t : Turn ι δ π ρ} (h : t.Started limits) {i : ℕ} {interrupted : Option BudgetReason}
    (hi : t.slots[i]? = some (.running interrupted)) (o : Outcome δ π ρ) :
    Turn.Started limits ({ t with slots := t.slots.set i (.settled o) } : Turn ι δ π ρ) := by
  obtain ⟨interrupted', budget, hslots⟩ := h
  refine ⟨interrupted', budget, ?_⟩
  rw [← hslots]
  show (t.slots.set i (.settled o)).map Slot.isCapped = t.slots.map Slot.isCapped
  refine List.ext_getElem? fun j => ?_
  rw [List.getElem?_map, List.getElem?_map, List.getElem?_set]
  split_ifs with hij hlt
  · subst hij
    rw [hi]
    rfl
  · subst hij
    rw [List.getElem?_eq_none (by omega)]
  · rfl

end Starts

/-! ## What is answered -/

section Answers

variable {kit : Kit ι δ ρ} {limits : ToolLimits} {task : ToolTask} {max seq : ℕ} {taskId : String}

/-- The `tool_use` that a block answers. -/
def UserBlock.toolUseId : UserBlock δ → Option String
  | .toolResult id _ _ => some id
  | .text _ => none

def Outcome.draft? : Outcome δ π ρ → Option δ
  | .evidence draft => some draft
  | _ => none

/-- **One result per call, in call order.** -/
theorem toolUseIds_foldl_push (kit : Kit ι δ ρ) (max : ℕ) (taskId : String) (seq : ℕ)
    (cs : List (ToolCall ι × Outcome δ π ρ)) (out : ToolTurnResult δ π ρ) :
    (cs.foldl (push kit max taskId seq) out).blocks.filterMap UserBlock.toolUseId
        = out.blocks.filterMap UserBlock.toolUseId ++ cs.map (·.1.id) ∧
      (cs.foldl (push kit max taskId seq) out).results.length = out.results.length + cs.length := by
  induction cs generalizing out with
  | nil => simp
  | cons c cs ih =>
    obtain ⟨hblocks, hresults⟩ := ih (push kit max taskId seq out c)
    rw [List.foldl_cons, hblocks, hresults]
    refine ⟨?_, ?_⟩
    · show (out.blocks ++ [_]).filterMap UserBlock.toolUseId ++ _ = _
      rw [List.filterMap_append, List.append_assoc]
      rfl
    · show (out.results ++ [_]).length + _ = _
      rw [List.length_append, List.length_singleton, List.length_cons]
      omega

/-- What a call adds to the records is what the allocator seals of its draft. -/
theorem push_evidence (kit : Kit ι δ ρ) (max : ℕ) (taskId : String) (seq : ℕ) (out : ToolTurnResult δ π ρ)
    (c : ToolCall ι × Outcome δ π ρ) :
    (push kit max taskId seq out c).evidence = out.evidence
        ++ (sealDrafts max taskId (seq + out.evidence.length) out.evidenceCount c.2.draft?.toList).1 ∧
      (push kit max taskId seq out c).evidenceCount
        = (sealDrafts max taskId (seq + out.evidence.length) out.evidenceCount c.2.draft?.toList).2 := by
  obtain ⟨call, o⟩ := c
  cases o with
  | error content simRuns => exact ⟨rfl, rfl⟩
  | proposal content proposal =>
    unfold push resultOf
    split_ifs <;> exact ⟨rfl, rfl⟩
  | report content report =>
    unfold push resultOf
    split_ifs <;> exact ⟨rfl, rfl⟩
  | evidence draft =>
    unfold push resultOf Outcome.draft? Option.toList sealDrafts
    rcases nextId max taskId (seq + out.evidence.length) out.evidenceCount with ⟨_ | id, count⟩ <;> exact ⟨rfl, rfl⟩

theorem sealDrafts_refused {n : ℕ} {count count' : Option ℕ} (h : nextId max taskId n count = (none, count')) (d : δ)
    (ds : List δ) : sealDrafts max taskId n count (d :: ds) = sealDrafts max taskId n count' ds := by
  rw [sealDrafts, h]

theorem sealDrafts_sealed {n : ℕ} {count count' : Option ℕ} {id : String}
    (h : nextId max taskId n count = (some id, count')) (d : δ) (ds : List δ) :
    sealDrafts max taskId n count (d :: ds)
      = (⟨id, taskId, d⟩ :: (sealDrafts max taskId (n + 1) count' ds).1,
          (sealDrafts max taskId (n + 1) count' ds).2) := by
  rw [sealDrafts, h]

theorem sealDrafts_append (n : ℕ) (count : Option ℕ) (ds ds' : List δ) :
    sealDrafts max taskId n count (ds ++ ds')
      = ((sealDrafts max taskId n count ds).1
            ++ (sealDrafts max taskId (n + (sealDrafts max taskId n count ds).1.length)
              (sealDrafts max taskId n count ds).2 ds').1,
          (sealDrafts max taskId (n + (sealDrafts max taskId n count ds).1.length)
            (sealDrafts max taskId n count ds).2 ds').2) := by
  induction ds generalizing n count with
  | nil => rfl
  | cons d ds ih =>
    rcases hnext : nextId max taskId n count with ⟨_ | id, count'⟩
    · rw [List.cons_append, sealDrafts_refused hnext, sealDrafts_refused hnext]
      exact ih n count'
    · have hnumber : n + 1 + (sealDrafts max taskId (n + 1) count' ds).1.length
          = n + ((sealDrafts max taskId (n + 1) count' ds).1.length + 1) := by omega
      rw [List.cons_append, sealDrafts_sealed hnext, sealDrafts_sealed hnext, ih, hnumber]
      rfl

/-- **The records of a turn are numbered in call order**: they are what the allocator seals of the drafts. -/
theorem answer_evidence (count : Option ℕ) (cs : List (ToolCall ι × Outcome δ π ρ)) :
    (answer kit max taskId seq count cs).evidence
      = (sealDrafts max taskId seq count (cs.filterMap fun c => c.2.draft?)).1 := by
  have hfold : ∀ (cs : List (ToolCall ι × Outcome δ π ρ)) (out : ToolTurnResult δ π ρ),
      (cs.foldl (push kit max taskId seq) out).evidence = out.evidence
        ++ (sealDrafts max taskId (seq + out.evidence.length) out.evidenceCount
          (cs.filterMap fun c => c.2.draft?)).1 := by
    intro cs
    induction cs with
    | nil => intro out; simp [sealDrafts]
    | cons c cs ih =>
      intro out
      obtain ⟨hevidence, hcount⟩ := push_evidence kit max taskId seq out c
      have hdrafts : (c :: cs).filterMap (fun c => c.2.draft?)
          = c.2.draft?.toList ++ cs.filterMap fun c => c.2.draft? := by
        rw [List.filterMap_cons]
        cases c.2.draft? <;> rfl
      rw [List.foldl_cons, ih, hevidence, hcount, hdrafts, sealDrafts_append, List.append_assoc, List.length_append]
      simp only [Nat.add_assoc]
  exact hfold cs _

end Answers

/-! ## The runs of a task -/

section Runs

variable {kit : Kit ι δ ρ} {limits : ToolLimits} {task : ToolTask} {s s' : Sys ι δ π ρ}

/-- A call ends. -/
theorem settle_iff {i : ℕ} {reply : Reply δ π ρ} {o : List (Answered ι δ π ρ)} :
    (tools kit limits task).step s (.settle i reply) = some (s', o) ↔ ∃ t call interrupted, s.turn = some t ∧
      t.calls[i]? = some call ∧ t.slots[i]? = some (.running interrupted) ∧
      s' = { s with turn := some { t with
        slots := t.slots.set i (.settled (outcome kit limits task s.own interrupted call reply)) } } ∧ o = [] := by
  unfold tools Tools.step
  constructor
  · intro hstep
    cases hturn : s.turn with
    | none => simp [hturn] at hstep
    | some t =>
      simp only [hturn] at hstep
      split at hstep
      · rename_i call interrupted hcall hslot
        obtain ⟨rfl, rfl⟩ := Prod.mk.inj (Option.some.inj hstep)
        exact ⟨t, call, interrupted, rfl, hcall, hslot, rfl, rfl⟩
      · cases hstep
  · rintro ⟨t, call, interrupted, hturn, hcall, hslot, rfl, rfl⟩
    simp only [hturn, hcall, hslot]

/-- **Two calls may end in either order.** -/
theorem settle_settle {i j : ℕ} {reply reply' : Reply δ π ρ} {r : Sys ι δ π ρ × List (Answered ι δ π ρ)}
    (hrun : (tools kit limits task).exec s [.settle i reply, .settle j reply'] = some r) :
    (tools kit limits task).exec s [.settle j reply', .settle i reply] = some r := by
  obtain ⟨s₂, h⟩ := r
  obtain ⟨s₁, o₁, o₂, hfirst, hrest, rfl⟩ := exec_cons_iff.mp hrun
  obtain ⟨t, call, interrupted, hturn, hcall, hslot, rfl, rfl⟩ := settle_iff.mp hfirst
  rw [exec_singleton] at hrest
  obtain ⟨t₁, call', interrupted', hturn₁, hcall', hslot', rfl, rfl⟩ := settle_iff.mp hrest
  obtain rfl := Option.some.inj hturn₁
  have hcall'' : t.calls[j]? = some call' := hcall'
  have hset : (t.slots.set i (.settled (outcome kit limits task s.own interrupted call reply)))[j]?
      = some (.running interrupted') := hslot'
  have hij : i ≠ j := by
    rintro rfl
    rw [List.getElem?_set_self (List.getElem?_eq_some_iff.mp hslot).1] at hset
    cases hset
  rw [List.getElem?_set_ne hij] at hset
  refine exec_cons_iff.mpr ⟨_, [], [], settle_iff.mpr ⟨t, call', interrupted', hturn, hcall'', hset, rfl, rfl⟩, ?_, rfl⟩
  rw [exec_singleton]
  refine settle_iff.mpr ⟨_, call, interrupted, rfl, hcall, ?_, ?_, rfl⟩
  · show (t.slots.set j _)[i]? = _
    rw [List.getElem?_set_ne hij.symm]
    exact hslot
  · show Sys.mk _ _ _ _ _ _ _ (some (Turn.mk _ ((t.slots.set i _).set j _))) = Sys.mk _ _ _ _ _ _ _ (some (Turn.mk _ _))
    rw [List.set_comm _ _ hij]

/-- **The order in which calls end tells nothing.** -/
theorem settles_perm {settles settles' : List (ℕ × Reply δ π ρ)} (hperm : settles.Perm settles') (s : Sys ι δ π ρ) :
    (tools kit limits task).exec s (settles.map fun e => .settle e.1 e.2)
      = (tools kit limits task).exec s (settles'.map fun e => .settle e.1 e.2) := by
  let IsSettle : Act ι δ π ρ → Prop := fun a => ∃ i reply, a = .settle i reply
  have hcomm : ∀ {s : Sys ι δ π ρ} {a b : Act ι δ π ρ}, IsSettle a → IsSettle b →
      (tools kit limits task).exec s [a, b] = (tools kit limits task).exec s [b, a] := by
    rintro s _ _ ⟨i, reply, rfl⟩ ⟨j, reply', rfl⟩
    exact Option.ext fun r => ⟨settle_settle, settle_settle⟩
  refine exec_perm (C := IsSettle) hcomm (hperm.map _) (fun a ha => ?_) s
  obtain ⟨e, -, rfl⟩ := List.mem_map.mp ha
  exact ⟨e.1, e.2, rfl⟩

/-- One result for each call, in call order. -/
def Answered.Exactly (x : Answered ι δ π ρ) : Prop :=
  x.message.filterMap UserBlock.toolUseId = x.calls.map (·.id) ∧ x.result.results.length = x.calls.length

/-- How many of the calls that ran spend the budget. -/
def dataCalls (h : List (Answered ι δ π ρ)) : ℕ :=
  (h.map fun x => (x.ran.filter fun call => call.name ≠ ToolName.reportFinding.text).length).sum

/-- No call within the bound of the turn is `report_finding`, where a turn is answered. -/
def NoFinding (limits : ToolLimits) (s : Sys ι δ π ρ) : Act ι δ π ρ → Prop
  | .join _ => ∀ t, s.turn = some t → t.isSettled = true →
    ∀ call ∈ t.calls.take limits.maxToolCallsPerTurn, call.name ≠ ToolName.reportFinding.text
  | _ => True

theorem length_outcomes {slots : List (Slot δ π ρ)} (hall : ∀ slot ∈ slots, slot.outcome?.isSome = true) :
    (slots.filterMap Slot.outcome?).length = slots.length := by
  induction slots with
  | nil => rfl
  | cons slot slots ih =>
    obtain ⟨o, ho⟩ := Option.isSome_iff_exists.mp (hall slot List.mem_cons_self)
    rw [List.filterMap_cons_some ho, List.length_cons, List.length_cons,
      ih fun slot' hmem => hall slot' (List.mem_cons_of_mem slot hmem)]

/-- A turn is answered when all its calls have ended, and is charged with those that ran. -/
theorem join_spec {count : Option ℕ} {o : List (Answered ι δ π ρ)}
    (hstep : (tools kit limits task).step s (.join count) = some (s', o)) : ∃ t x, s.turn = some t ∧
      t.isSettled = true ∧ o = [x] ∧ x.calls = t.calls ∧ x.ran = t.ran ∧
      x.result = answer kit limits.maxEvidencePerRequest task.taskId s.evidenceSeq count (t.calls.zip t.outcomes) ∧
      (∃ nudge, x.message = x.result.blocks ++ nudge ∧ nudge.filterMap UserBlock.toolUseId = []) ∧
      s'.toolCalls = s.toolCalls + t.ran.length ∧ s'.turn = none := by
  unfold tools Tools.step at hstep
  cases hturn : s.turn with
  | none => simp [hturn] at hstep
  | some t =>
    simp only [hturn] at hstep
    by_cases hsettled : t.isSettled = true
    · rw [if_pos hsettled] at hstep
      obtain ⟨rfl, rfl⟩ := Prod.mk.inj (Option.some.inj hstep)
      refine ⟨t, _, rfl, hsettled, rfl, rfl, rfl, rfl, ⟨_, rfl, ?_⟩, rfl, rfl⟩
      split_ifs <;> rfl
    · rw [if_neg hsettled] at hstep
      cases hstep

/-- **Every turn is answered exactly.** -/
theorem exactly_of_join {t : Turn ι δ π ρ} (hstarted : t.Started limits) (hsettled : t.isSettled = true) {max seq : ℕ}
    {taskId : String} {count : Option ℕ} {x : Answered ι δ π ρ} (hcalls : x.calls = t.calls)
    (hresult : x.result = answer kit max taskId seq count (t.calls.zip t.outcomes))
    (hmessage : ∃ nudge, x.message = x.result.blocks ++ nudge ∧ nudge.filterMap UserBlock.toolUseId = []) :
    x.Exactly := by
  obtain ⟨nudge, hmessage, hnudge⟩ := hmessage
  have hlength : t.outcomes.length = t.calls.length :=
    (length_outcomes (List.all_eq_true.mp hsettled)).trans hstarted.length_slots
  obtain ⟨hblocks, hresults⟩ := toolUseIds_foldl_push kit max taskId seq (t.calls.zip t.outcomes)
    ⟨[], [], [], none, none, [], false, count⟩
  constructor
  · have hcallsOf : (t.calls.zip t.outcomes).map Prod.fst = t.calls := List.map_fst_zip hlength.ge
    have hids : (t.calls.zip t.outcomes).map (·.1.id) = t.calls.map (·.id) := by
      conv_rhs => rw [← hcallsOf, List.map_map]
      rfl
    rw [hmessage, List.filterMap_append, hnudge, List.append_nil, hresult, hcalls]
    exact hblocks.trans hids
  · rw [hresult, hcalls]
    refine hresults.trans ?_
    rw [List.length_zip, hlength, Nat.min_self]
    exact Nat.zero_add _

theorem ask_spec {calls : List (ToolCall ι)} {interrupted : ℕ → Option BudgetReason} {o : List (Answered ι δ π ρ)}
    (hstep : (tools kit limits task).step s (.ask calls interrupted) = some (s', o)) : o = [] ∧
      s'.toolCalls = s.toolCalls ∧ ∃ budget, s'.turn = some ⟨calls, dispatch limits interrupted 0 budget calls⟩ := by
  have hask : (if s.turn.isNone && s.report.isNone && !s.failed && decide (s.turns < limits.maxSpecialistTurns)
      && !calls.isEmpty then _ else none) = some (s', o) := hstep
  split_ifs at hask
  obtain ⟨rfl, rfl⟩ := Prod.mk.inj (Option.some.inj hask)
  exact ⟨rfl, rfl, _, rfl⟩

/-- The turn that runs was started within the bounds. -/
theorem Started.step (hI : ∀ t, s.turn = some t → t.Started limits) {a : Act ι δ π ρ} {o : List (Answered ι δ π ρ)}
    (hstep : (tools kit limits task).step s a = some (s', o)) : ∀ t, s'.turn = some t → t.Started limits := by
  cases a with
  | ask calls interrupted =>
    obtain ⟨-, -, budget, hturn⟩ := ask_spec hstep
    intro t ht
    obtain rfl := Option.some.inj (hturn.symm.trans ht)
    exact ⟨interrupted, budget, rfl⟩
  | settle i reply =>
    obtain ⟨t, call, interrupted, hturn, -, hslot, rfl, -⟩ := settle_iff.mp hstep
    intro t' ht'
    obtain rfl := Option.some.inj ht'
    exact (hI t hturn).settle hslot _
  | join count =>
    obtain ⟨-, -, -, -, -, -, -, -, -, -, hnone⟩ := join_spec hstep
    intro t ht
    rw [hnone] at ht
    cases ht

theorem dataCalls_append (h : List (Answered ι δ π ρ)) (x : Answered ι δ π ρ) :
    dataCalls (h ++ [x]) = dataCalls h + (x.ran.filter fun call => call.name ≠ ToolName.reportFinding.text).length := by
  simp [dataCalls]

/-- What only starts or ends calls answers none, and charges nothing. -/
theorem quiet_of_not_join {a : Act ι δ π ρ} (ha : ∀ count, a ≠ .join count) {o : List (Answered ι δ π ρ)}
    (hstep : (tools kit limits task).step s a = some (s', o)) : o = [] ∧ s'.toolCalls = s.toolCalls := by
  cases a with
  | ask calls interrupted =>
    obtain ⟨hnone, hsame, -⟩ := ask_spec hstep
    exact ⟨hnone, hsame⟩
  | settle i reply =>
    obtain ⟨t, call, interrupted, -, -, -, rfl, rfl⟩ := settle_iff.mp hstep
    exact ⟨rfl, rfl⟩
  | join count => exact absurd rfl (ha count)

/-- Every turn so far was answered exactly, and the task is charged with the calls that spend its budget. -/
def Charged (s : Sys ι δ π ρ) (h : List (Answered ι δ π ρ)) : Prop :=
  (∀ x ∈ h, x.Exactly) ∧ s.toolCalls = dataCalls h

/-- A step keeps the charge exact if and only if it answers no turn with a finding in it. -/
theorem charged_step_iff {h : List (Answered ι δ π ρ)} (hI : ∀ t, s.turn = some t → t.Started limits) (hP : Charged s h)
    {a : Act ι δ π ρ} {o : List (Answered ι δ π ρ)} (hstep : (tools kit limits task).step s a = some (s', o)) :
    Charged s' (h ++ o) ↔ NoFinding limits s a := by
  obtain ⟨hexact, hcharge⟩ := hP
  by_cases hjoin : ∃ count, a = .join count
  · obtain ⟨count, rfl⟩ := hjoin
    obtain ⟨t, x, hturn, hsettled, rfl, hcalls, hran, hresult, hmessage, htotal, -⟩ := join_spec hstep
    have hx : x.Exactly := exactly_of_join (hI t hturn) hsettled hcalls hresult hmessage
    have hall : ∀ y ∈ h ++ [x], y.Exactly := by
      intro y hy
      rcases List.mem_append.mp hy with hy | hy
      · exact hexact y hy
      · rw [List.mem_singleton.mp hy]
        exact hx
    have hiff : s'.toolCalls = dataCalls (h ++ [x]) ↔ ∀ call ∈ t.ran, call.name ≠ ToolName.reportFinding.text := by
      rw [htotal, hcharge, dataCalls_append, hran, Nat.add_left_cancel_iff, eq_comm, List.length_filter_eq_length_iff]
      simp
    unfold Charged
    rw [hiff, (hI t hturn).no_finding_iff]
    refine ⟨fun hnone t' ht' _ => ?_, fun hnone => ⟨hall, hnone t hturn hsettled⟩⟩
    obtain rfl := Option.some.inj (hturn.symm.trans ht')
    exact hnone.2
  · have hother : ∀ count, a ≠ .join count := fun count heq => hjoin ⟨count, heq⟩
    obtain ⟨rfl, hsame⟩ := quiet_of_not_join hother hstep
    have hnone : NoFinding limits s a := by
      cases a with
      | join count => exact absurd rfl (hother count)
      | _ => trivial
    rw [List.append_nil]
    exact iff_of_true ⟨hexact, hsame.trans hcharge⟩ hnone

/-- **The tool calls of a task.**  Every turn is answered with one result for each call, in call order, and what is
known after any of its calls have ended does not depend on the order in which they did; and what the task is charged
with is the calls that spend its budget.  All that holds in every state of a run if and only if no turn that is answered
in it has a `report_finding` among the calls that the bound of a turn lets through. -/
theorem tools_exact_iff (kit : Kit ι δ ρ) (limits : ToolLimits) (task : ToolTask) (as : List (Act ι δ π ρ)) :
    ((tools kit limits task).Along Charged .init [] as ∧
        ∀ (s : Sys ι δ π ρ) (settles settles' : List (ℕ × Reply δ π ρ)), settles.Perm settles' →
          (tools kit limits task).exec s (settles.map fun e => .settle e.1 e.2)
            = (tools kit limits task).exec s (settles'.map fun e => .settle e.1 e.2)) ↔
      (tools kit limits task).Meets (fun s _ a => NoFinding limits s a) .init [] as := by
  have hstarted : ∀ t, (Sys.init : Sys ι δ π ρ).turn = some t → t.Started limits := nofun
  have hcharged : Charged (Sys.init : Sys ι δ π ρ) [] := ⟨fun x hx => absurd hx List.not_mem_nil, rfl⟩
  have hrefused : ∀ {s : Sys ι δ π ρ} {a : Act ι δ π ρ}, (tools kit limits task).step s a = none →
      NoFinding limits s a := by
    intro s a hnone
    cases a with
    | join count =>
      intro t hturn hsettled
      simp [tools, step, hturn, hsettled] at hnone
    | _ => trivial
  have hiff : (tools kit limits task).Along Charged .init [] as
      ↔ (tools kit limits task).Meets (fun s _ a => NoFinding limits s a) .init [] as :=
    along_iff_meets (I := fun s _ => ∀ t, s.turn = some t → t.Started limits) (fun hI hs => Started.step hI hs)
      (fun hI hP hs => charged_step_iff hI hP hs) (fun _ hs => hrefused hs) hstarted hcharged
  rw [hiff]
  exact and_iff_left fun s settles settles' hperm => settles_perm hperm s

/-! ### A finding that is refused -/

/-- A finding that cites a record of its own turn. -/
def early : ReportFindingInput := ⟨.answered, "The zone is warm.", [⟨"It is 26 °C.", ["T1.E1"]⟩], [], []⟩

/-- Tools that answer with small drafts. -/
def someKit : Kit ReportFindingInput ℕ Unit := ⟨.ok, fun _ => 100, fun _ => []⟩

def someTask : ToolTask := ⟨.diagnose, "T1", [], none⟩

def someReply : Reply ℕ Unit Unit := ⟨.draft 7 "narrow the window", .throws⟩

def dataCall (i : ℕ) : ToolCall ReportFindingInput := ⟨"toolu_" ++ toString i, "zone_conditions", early⟩

/-- The calls are made, end and are answered. -/
def wholeTurn (calls : List (ToolCall ReportFindingInput)) (count : ℕ) : List (Act ReportFindingInput ℕ Unit Unit) :=
  .ask calls (fun _ => none) :: (List.range calls.length).map (fun i => .settle i someReply) ++ [.join (some count)]

/-- A finding is refused, with five calls beside it; then six calls are made, and then one more. -/
def earlyRun : List (Act ReportFindingInput ℕ Unit Unit) :=
  wholeTurn (⟨"toolu_0", "report_finding", early⟩ :: [1, 2, 3, 4, 5].map dataCall) 0
    ++ wholeTurn ([6, 7, 8, 9, 10, 11].map dataCall) 5 ++ [.ask [dataCall 12] fun _ => none, .join (some 11)]

/-- **The finding has spent a call**: eleven others ran, twelve are charged, and the twelfth is turned away. -/
theorem finding_spends_a_call :
    ((tools someKit .DEFAULT_LIMITS someTask).exec .init earlyRun).map (fun r =>
        (r.1.toolCalls, dataCalls r.2, (r.2.getLast?.map Answered.message).getD []))
      = some (12, 11, [.toolResult "toolu_12" (.text "at most 12 tool calls per task: call report_finding now") true]) ∧
    ¬ (tools someKit .DEFAULT_LIMITS someTask).Along Charged .init [] earlyRun := by
  refine ⟨by decide +kernel, fun halong => ?_⟩
  have hrun : ((tools someKit .DEFAULT_LIMITS someTask).exec .init earlyRun).map (fun r =>
      (r.1.toolCalls, dataCalls r.2)) = some (12, 11) := by decide +kernel
  obtain ⟨⟨s, h⟩, hexec, hvalues⟩ := Option.map_eq_some_iff.mp hrun
  have hcharged : s.toolCalls = dataCalls h := (halong.at_end hexec).2
  have htotal : s.toolCalls = 12 := congrArg Prod.fst hvalues
  have hdata : dataCalls h = 11 := congrArg Prod.snd hvalues
  omega

end Runs

end DTwin.Copilot.Tools
