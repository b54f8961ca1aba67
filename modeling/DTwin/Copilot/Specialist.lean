import DTwin.Copilot.Graph
import DTwin.Lib.Ranking

/-!
# DTwin.Copilot.Specialist — the graph inside a specialist

`apps/web/lib/copilot/specialist.ts`: the agent asks the model, its tools run, and so on until it reports or fails.
What the model answers and what the tools return is given for each superstep.  A specialist ends within
`2 * maxSpecialistTurns + 2` supersteps (`specialist_ends`).
-/

namespace DTwin.Copilot

open Ranking

/-- The limits of a turn. -/
structure TurnLimits extends Limits where
  maxWaves : ℕ
  maxTasksPerWave : ℕ
  maxTasksPerRequest : ℕ
  maxSimulateTasksPerRequest : ℕ
  maxPlannerRepairs : ℕ
  maxSpecialistTurns : ℕ
  recursionLimit : ℕ

def TurnLimits.DEFAULT_LIMITS : TurnLimits where
  deadlineS := 300
  planTtlS := 600
  grantTtlS := 120
  maxModelCalls := 40
  maxPlanCommands := 12
  maxDrafts := 3
  maxWaves := 3
  maxTasksPerWave := 4
  maxTasksPerRequest := 8
  maxSimulateTasksPerRequest := 1
  maxPlannerRepairs := 1
  maxSpecialistTurns := 6
  recursionLimit := 40

inductive FailureStatus | failed | unfinished | refused
deriving DecidableEq

inductive FindingReason
  | turnLimit | toolLimit | budget | deadline | stopped | noReport | modelError | evidenceFull
deriving DecidableEq

def BudgetReason.finding : BudgetReason → FindingReason
  | .stopped => .stopped
  | .deadline => .deadline
  | .budget => .budget

structure SpecialistFailure where
  status : FailureStatus
  reason : Option FindingReason
deriving DecidableEq

/-- What `report_finding` was called with. -/
structure Report where
  summary : String

inductive SubNode | agent | tools | finish | ended
deriving DecidableEq

/-- The state of a specialist's graph, and what runs next. -/
structure Sub where
  node : SubNode := .agent
  turns : ℕ := 0
  /-- The tool calls of the last message. -/
  toolUses : List String := []
  report : Option Report := none
  failure : Option SpecialistFailure := none
  draftPlan : Option ProposedPlan := none

inductive AgentReply
  /-- The registry refuses the call. -/
  | refused (reason : BudgetReason)
  | throws
  /-- The model declines. -/
  | refusal
  /-- The reply stops at its token limit, or at that of the context. -/
  | cut
  | content (toolUses : List String)

structure ToolsReply where
  report : Option Report
  proposal : Option ProposedPlan
  ledgerFull : Bool

/-- What is told a superstep of a specialist's graph. -/
structure SubWorld where
  agent : AgentReply
  tools : ToolsReply

section Nodes

variable (limits : TurnLimits) (control viewed : Bool)

/-- `agent`; `viewed` says whether there is a task to look at. -/
def Sub.agent (s : Sub) (reply : AgentReply) : Sub :=
  if !viewed then { s with failure := some ⟨.failed, some .modelError⟩ }
  else if limits.maxSpecialistTurns ≤ s.turns then { s with failure := some ⟨.unfinished, some .turnLimit⟩ }
  else
    match reply with
    | .refused reason => { s with failure := some ⟨.unfinished, some reason.finding⟩ }
    | .throws => { s with failure := some ⟨.failed, some .modelError⟩ }
    | .refusal => { s with turns := s.turns + 1, failure := some ⟨.refused, none⟩ }
    | .cut => { s with turns := s.turns + 1, failure := some ⟨.unfinished, some .noReport⟩ }
    | .content toolUses => { s with turns := s.turns + 1, toolUses }

def Sub.afterAgent (s : Sub) : SubNode := if s.failure.isNone && !s.toolUses.isEmpty then .tools else .finish

/-- `tools`. -/
def Sub.runTools (s : Sub) (reply : ToolsReply) : Sub where
  node := s.node
  turns := s.turns
  toolUses := []
  report := reply.report.orElse fun _ => s.report
  failure := if reply.report.isNone && reply.ledgerFull then some ⟨.unfinished, some .evidenceFull⟩ else s.failure
  draftPlan := if control && reply.proposal.isSome then reply.proposal else s.draftPlan

def Sub.afterTools (s : Sub) : SubNode := if s.report.isSome || s.failure.isSome then .finish else .agent

/-- A superstep of a specialist's graph. -/
def Sub.superstep (w : SubWorld) (s : Sub) : Option Sub :=
  match s.node with
  | .agent =>
    let s := s.agent limits viewed w.agent
    some { s with node := s.afterAgent }
  | .tools =>
    let s := s.runTools control w.tools
    some { s with node := s.afterTools }
  | .finish => some { s with node := .ended }
  | .ended => none

def Sub.isEnded (s : Sub) : Bool := s.node = .ended

/-- A specialist's graph, run until it ends or until the recursion limit. -/
def specialistRun (world : ℕ → SubWorld) : Ended Sub :=
  run (Sub.superstep limits control viewed) Sub.isEnded world limits.recursionLimit 0 {}

end Nodes

/-! ## What a specialist returns -/

/-- `UNREPORTED`: the summary of a task that ended without a report. -/
def FindingReason.unreported : FindingReason → String
  | .turnLimit => "Stopped at the turn limit before reporting a finding."
  | .toolLimit => "Stopped at the tool-call limit before reporting a finding."
  | .budget => "Stopped: the request used its model-call budget before this task reported."
  | .deadline => "Stopped: the request reached its deadline before this task reported."
  | .stopped => "Stopped at the operator's request before this task reported."
  | .noReport => "Ended without reporting a finding."
  | .modelError => "The model call failed; this task could not continue."
  | .evidenceFull => "Stopped: the request's evidence ledger is full."

def SpecialistFailure.unreported (f : SpecialistFailure) : String :=
  match f.reason, f.status with
  | some reason, _ => reason.unreported
  | none, .refused => "The model declined this task; nothing was acted on."
  | none, _ => FindingReason.noReport.unreported

def Sub.finding (s : Sub) (taskId : String) : Finding :=
  ⟨taskId, match s.report with
    | some report => report.summary
    | none => (s.failure.getD ⟨.unfinished, some .noReport⟩).unreported⟩

/-- A plan does not survive a refusal, the operator's Stop or the deadline. -/
def Sub.withdrawn (s : Sub) : Bool :=
  s.report.isNone && match s.failure with
    | none => false
    | some f => f.status = .refused || f.reason = some .stopped || f.reason = some .deadline

def findingOf (s : Sub) (taskId : String) : OrderedMap String Finding := OrderedMap.empty.set taskId (s.finding taskId)

/-- What `diagnose`, `analyse` or `simulate` returns for the task it was sent. -/
def workerUpdate (s : Sub) (taskId : Option String) : Update where
  findings := some (some (match taskId with
    | none => .empty
    | some taskId => findingOf s taskId))

/-- The controller has a task to look at. -/
def State.controlViewed (s : State) : Bool := s.controlTask.isSome && s.context.isSome && s.request.isSome

/-- What `control` returns. -/
def controlUpdate (held : State) (s : Sub) : Update :=
  match held.controlTask with
  | some task =>
    if held.controlViewed then
      { findings := some (some (findingOf s "K"))
        controlTask := some (some { task with status := .done })
        proposal := some (if task.mode = .propose ∧ s.withdrawn = false then s.draftPlan else none) }
    else { findings := some (some .empty), controlTask := some (some task), proposal := some none }
  | none => { findings := some (some .empty), controlTask := some none, proposal := some none }

/-- How many supersteps are left at a node after so many turns, at most. -/
def SubNode.left (limits : TurnLimits) (turns : ℕ) : SubNode → ℕ
  | .agent => 2 * (limits.maxSpecialistTurns - turns) + 2
  | .tools => 2 * (limits.maxSpecialistTurns - turns) + 3
  | .finish => 1
  | .ended => 0

def Sub.rank (limits : TurnLimits) (s : Sub) : ℕ := s.node.left limits s.turns

section Ends

variable (limits : TurnLimits) (control viewed : Bool)

theorem Sub.agent_spec (s : Sub) (reply : AgentReply) : (s.agent limits viewed reply).failure ≠ none ∨
    (s.turns < limits.maxSpecialistTurns ∧ (s.agent limits viewed reply).turns = s.turns + 1) := by
  unfold Sub.agent
  split_ifs with hviewed hturns
  · exact Or.inl (by simp)
  · exact Or.inl (by simp)
  · cases reply with
    | refused _ => exact Or.inl (by simp)
    | throws => exact Or.inl (by simp)
    | refusal => exact Or.inl (by simp)
    | cut => exact Or.inl (by simp)
    | content _ => exact Or.inr ⟨Nat.lt_of_not_le hturns, rfl⟩

theorem Sub.superstep_agent (w : SubWorld) {s : Sub} (hnode : s.node = .agent) :
    s.superstep limits control viewed w =
      some { s.agent limits viewed w.agent with node := (s.agent limits viewed w.agent).afterAgent } := by
  rw [Sub.superstep, hnode]

theorem Sub.superstep_tools (w : SubWorld) {s : Sub} (hnode : s.node = .tools) :
    s.superstep limits control viewed w =
      some { s.runTools control w.tools with node := (s.runTools control w.tools).afterTools } := by
  rw [Sub.superstep, hnode]

/-- Every superstep of a specialist's graph brings it nearer to its end. -/
theorem Sub.descends : Descends (Sub.superstep limits control viewed) Sub.isEnded (fun _ => True)
    (Sub.rank limits) := by
  intro w s _ hend
  cases hnode : s.node with
  | agent =>
    refine ⟨_, Sub.superstep_agent limits control viewed w hnode, trivial, ?_⟩
    have hrank : s.rank limits = 2 * (limits.maxSpecialistTurns - s.turns) + 2 := by rw [Sub.rank, hnode, SubNode.left]
    rw [hrank]
    show SubNode.left limits (s.agent limits viewed w.agent).turns (s.agent limits viewed w.agent).afterAgent < _
    obtain hfailed | ⟨hlt, hturns⟩ := Sub.agent_spec limits viewed s w.agent
    · have hnext : (s.agent limits viewed w.agent).afterAgent = .finish := by
        simp [Sub.afterAgent, hfailed]
      rw [hnext, SubNode.left]
      omega
    · rw [hturns, Sub.afterAgent]
      split_ifs
      · rw [SubNode.left]
        omega
      · rw [SubNode.left]
        omega
  | tools =>
    refine ⟨_, Sub.superstep_tools limits control viewed w hnode, trivial, ?_⟩
    have hrank : s.rank limits = 2 * (limits.maxSpecialistTurns - s.turns) + 3 := by rw [Sub.rank, hnode, SubNode.left]
    rw [hrank]
    show SubNode.left limits s.turns (s.runTools control w.tools).afterTools < _
    rw [Sub.afterTools]
    split_ifs
    · rw [SubNode.left]
      omega
    · rw [SubNode.left]
      omega
  | finish =>
    exact ⟨{ s with node := .ended }, by rw [Sub.superstep, hnode], trivial, by simp [Sub.rank, SubNode.left, hnode]⟩
  | ended => simp [Sub.isEnded, hnode] at hend

/-- **A specialist ends** within two supersteps a turn and two more. -/
theorem specialist_ends (world : ℕ → SubWorld) (hlimit : 2 * limits.maxSpecialistTurns + 2 ≤ limits.recursionLimit) :
    ∃ n s, specialistRun limits control viewed world = .done n s ∧ n ≤ 2 * limits.maxSpecialistTurns + 2 := by
  obtain ⟨n, s, hrun, hn, -⟩ := run_ends (Sub.descends limits control viewed) world limits.recursionLimit 0 {} trivial
    hlimit
  exact ⟨n, s, hrun, by simpa [Sub.rank, SubNode.left] using hn⟩

end Ends

end DTwin.Copilot
