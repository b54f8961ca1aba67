import DTwin.Copilot.Ledger
import DTwin.Copilot.Registry

/-!
# DTwin.Copilot.State — the channels of the graph and its routers

`apps/web/lib/copilot/state.ts`, `fanout.ts`, and the routers of `graph.ts` and `lifecycle.ts`.  An `Update` is
what a node returns; `WRITES` says which channels each node may name in one.  Dialogue, evidence, simulation
runs and usage, which no router reads, are left out, and of an answer it is only kept whether there is one.
-/

namespace DTwin.Copilot

open OrderedMap

inductive Node
  | intake | orient | planner | diagnose | analyse | simulate | join | compose | verify | control | planCheck
  | confirm | apply | declined | finish
deriving DecidableEq

inductive SpecialistNode | diagnose | analyse | simulate
deriving DecidableEq

def SpecialistNode.node : SpecialistNode → Node
  | .diagnose => .diagnose
  | .analyse => .analyse
  | .simulate => .simulate

inductive NoticeCode
  | planSuperseded | contextUnavailable | controlUnavailable | multipleBuildings | waveLimit | budget | deadline
  | stopped | modelRefused | plannerUnavailable | controlNotPermitted | composeUnavailable | verifyFailed
  | messageUnverified | planRefused | planDeclined | planStale | planExpired | applyRefused
deriving DecidableEq

inductive Param
  | text (s : String)
  | number (n : ℕ)
deriving DecidableEq

structure Notice where
  code : NoticeCode
  params : List (String × Param) := []
deriving DecidableEq

structure InboxMessage where
  requestId : String
  text : String
  mayCommand : Bool

structure RequestStamp where
  requestId : String
  seq : ℕ
  text : String
  mayCommand : Bool

structure DirectoryRow where
  id : String
  name : String

structure OrientContext where
  directory : List DirectoryRow

inductive ScopeSource | planner | fallback
deriving DecidableEq

/-- The authority a request was given. -/
structure Scope where
  allowControl : Bool
  allowSimulation : Bool
  source : ScopeSource
deriving DecidableEq

inductive PlannerNext | dispatch | compose | control | finish
deriving DecidableEq

structure PlannerRoute where
  next : PlannerNext
  taskIds : List String

inductive TaskStatus | running | done
deriving DecidableEq

structure TaskSpec where
  taskId : String
  specialist : SpecialistNode
  goal : String
  zoneIds : List String
  wave : ℕ
  status : TaskStatus

structure Finding where
  taskId : String
  summary : String

inductive ControlMode | propose | check
deriving DecidableEq

inductive ControlTaskStatus | pending | done
deriving DecidableEq

structure ControlTask where
  mode : ControlMode
  brief : String
  status : ControlTaskStatus

structure ProposedCommand where
  zoneId : String
  setpointTempC : ℚ
  durationS : Option ℚ
  reason : String
deriving DecidableEq

structure ProposedPlan where
  summary : String
  commands : List ProposedCommand
deriving DecidableEq

/-- A dry run that the envelope allows. -/
structure Verdict where
  previousTempC : ℚ
  durationS : ℚ
  effectiveUntil : String
deriving DecidableEq

structure ReviewedCommand where
  zoneId : String
  setpointTempC : ℚ
  durationS : Option ℚ
  reason : String
  zoneName : String
  verdict : Verdict
deriving DecidableEq

/-- A plan after `plan_check`: freshly dry-run, identified, hashed and timed. -/
structure ReviewedPlan where
  planId : String
  planHash : String
  checkedAt : ℤ
  expiresAt : ℤ
  summary : String
  commands : List ReviewedCommand
deriving DecidableEq

inductive Decision | approved | declined | stale | expired
deriving DecidableEq

inductive IssueResult
  | ok (commandId state effectiveUntil : String)
  | refused (refusal message : String)
deriving DecidableEq

structure Outcome where
  zoneName : String
  setpointTempC : ℚ
  result : IssueResult
deriving DecidableEq

/-- The request channels. -/
structure State where
  inbox : Option InboxMessage := none
  request : Option RequestStamp := none
  context : Option OrientContext := none
  scope : Option Scope := none
  plannerRoute : Option PlannerRoute := none
  waves : ℕ := 0
  taskSeq : ℕ := 0
  tasks : OrderedMap String TaskSpec := .empty
  findings : OrderedMap String Finding := .empty
  controlTask : Option ControlTask := none
  proposal : Option ProposedPlan := none
  answer : Bool := false
  violations : List String := []
  drafts : ℕ := 0
  notices : List Notice := []
  pendingPlan : Option ReviewedPlan := none
  decision : Option Decision := none
  outcomes : List Outcome := []

/-! ## Updates -/

inductive Channel
  | inbox | request | context | scope | plannerRoute | waves | taskSeq | tasks | findings | controlTask
  | proposal | answer | violations | drafts | notices | pendingPlan | decision | outcomes
deriving DecidableEq

def Channel.all : List Channel :=
  [.inbox, .request, .context, .scope, .plannerRoute, .waves, .taskSeq, .tasks, .findings, .controlTask, .proposal,
    .answer, .violations, .drafts, .notices, .pendingPlan, .decision, .outcomes]

theorem Channel.mem_all (c : Channel) : c ∈ Channel.all := by
  cases c <;> decide

inductive NoticesUpdate
  | append (l : List Notice)
  | replace (l : List Notice)

/-- What a node returns: `none` for a channel it does not name. -/
structure Update where
  inbox : Option (Option InboxMessage) := none
  request : Option (Option RequestStamp) := none
  context : Option (Option OrientContext) := none
  /-- `some none` is `RESET`. -/
  scope : Option (Option Scope) := none
  plannerRoute : Option (Option PlannerRoute) := none
  waves : Option ℕ := none
  taskSeq : Option ℕ := none
  tasks : Option (Option (OrderedMap String TaskSpec)) := none
  findings : Option (Option (OrderedMap String Finding)) := none
  controlTask : Option (Option ControlTask) := none
  proposal : Option (Option ProposedPlan) := none
  answer : Option Bool := none
  violations : Option (List String) := none
  drafts : Option ℕ := none
  notices : Option NoticesUpdate := none
  pendingPlan : Option (Option ReviewedPlan) := none
  decision : Option (Option Decision) := none
  outcomes : Option (List Outcome) := none

/-- Whether an update names a channel. -/
def Update.names (u : Update) : Channel → Bool
  | .inbox => u.inbox.isSome
  | .request => u.request.isSome
  | .context => u.context.isSome
  | .scope => u.scope.isSome
  | .plannerRoute => u.plannerRoute.isSome
  | .waves => u.waves.isSome
  | .taskSeq => u.taskSeq.isSome
  | .tasks => u.tasks.isSome
  | .findings => u.findings.isSome
  | .controlTask => u.controlTask.isSome
  | .proposal => u.proposal.isSome
  | .answer => u.answer.isSome
  | .violations => u.violations.isSome
  | .drafts => u.drafts.isSome
  | .notices => u.notices.isSome
  | .pendingPlan => u.pendingPlan.isSome
  | .decision => u.decision.isSome
  | .outcomes => u.outcomes.isSome

/-- Which node may write which channel. -/
def WRITES : Node → List Channel
  | .intake => Channel.all
  | .orient => [.request, .context, .notices]
  | .planner => [.scope, .plannerRoute, .waves, .taskSeq, .tasks, .controlTask, .notices]
  | .diagnose => [.findings]
  | .analyse => [.findings]
  | .simulate => [.findings]
  | .join => [.tasks]
  | .compose => [.answer, .drafts, .notices]
  | .verify => [.violations, .notices]
  | .control => [.findings, .controlTask, .proposal]
  | .planCheck => [.pendingPlan, .controlTask, .notices]
  | .confirm => [.decision]
  | .apply => [.outcomes, .pendingPlan, .decision, .notices]
  | .declined => [.pendingPlan, .decision, .notices]
  | .finish => []

/-- The update names only channels that the node may write. -/
def Update.Within (u : Update) (node : Node) : Prop := ∀ c, u.names c = true → c ∈ WRITES node

instance (u : Update) (node : Node) : Decidable (u.Within node) :=
  decidable_of_iff (∀ c ∈ Channel.all, u.names c = true → c ∈ WRITES node)
    ⟨fun h c => h c c.mem_all, fun h c _ => h c⟩

/-- `mergeRecord`. -/
def mergeRecord {ν : Type} (held : OrderedMap String ν) : Option (OrderedMap String ν) → OrderedMap String ν
  | none => .empty
  | some inc => inc.entries.foldl (fun m e => m.set e.1 e.2) held

/-- The reducer of `scope`: the first write wins until it is reset. -/
def mergeScope (held : Option Scope) : Option Scope → Option Scope
  | none => none
  | some inc => some (held.getD inc)

def mergeNotices (held : List Notice) : NoticesUpdate → List Notice
  | .append l => held ++ l
  | .replace l => l

/-- The state after an update, channel by channel. -/
def State.merge (s : State) (u : Update) : State where
  inbox := u.inbox.getD s.inbox
  request := u.request.getD s.request
  context := u.context.getD s.context
  scope := (u.scope.map (mergeScope s.scope)).getD s.scope
  plannerRoute := u.plannerRoute.getD s.plannerRoute
  waves := u.waves.getD s.waves
  taskSeq := u.taskSeq.getD s.taskSeq
  tasks := (u.tasks.map (mergeRecord s.tasks)).getD s.tasks
  findings := (u.findings.map (mergeRecord s.findings)).getD s.findings
  controlTask := u.controlTask.getD s.controlTask
  proposal := u.proposal.getD s.proposal
  answer := u.answer.getD s.answer
  violations := u.violations.getD s.violations
  drafts := u.drafts.getD s.drafts
  notices := (u.notices.map (mergeNotices s.notices)).getD s.notices
  pendingPlan := u.pendingPlan.getD s.pendingPlan
  decision := u.decision.getD s.decision
  outcomes := u.outcomes.getD s.outcomes

/-! ## Routers -/

/-- What runs in a superstep: a node, or a specialist that was sent a task. -/
structure Task where
  node : Node
  taskId : Option String := none
deriving DecidableEq

def afterOrient (s : State) : Node :=
  if s.context.isNone || s.notices.any (·.code = .contextUnavailable) then .finish else .planner

/-- The control task of a request that may control. -/
def State.mayControl (s : State) : Bool :=
  (s.controlTask.map fun t => decide (t.status = .pending)).getD false && (s.scope.map Scope.allowControl).getD false &&
    (s.request.map RequestStamp.mayCommand).getD false

/-- The running tasks of a dispatch. -/
def sends (s : State) (taskIds : List String) : List Task :=
  taskIds.filterMap fun taskId =>
    match s.tasks.get? taskId with
    | none => none
    | some t => if t.status = .running then some ⟨t.specialist.node, some t.taskId⟩ else none

def afterPlanner (s : State) : List Task :=
  let hasFindings := 0 < s.findings.size
  let onward : List Task := if hasFindings then [⟨.compose, none⟩] else [⟨.finish, none⟩]
  match s.plannerRoute with
  | none => onward
  | some route =>
    match route.next with
    | .dispatch =>
      if s.context.isNone || s.request.isNone then onward
      else if (sends s route.taskIds).isEmpty then onward else sends s route.taskIds
    | .control =>
      if hasFindings then [⟨.compose, none⟩] else if s.mayControl then [⟨.control, none⟩] else onward
    | .compose => [⟨.compose, none⟩]
    | .finish => [⟨.finish, none⟩]

def afterVerify (s : State) (maxDrafts : ℕ) : Node :=
  if !s.violations.isEmpty && s.answer && s.drafts < maxDrafts then .compose
  else if s.mayControl then .control
  else .finish

def afterControl (s : State) : Node := if s.proposal.isSome then .planCheck else .compose

def afterPlanCheck (s : State) : Node := if s.pendingPlan.isSome then .confirm else .finish

def afterConfirm (s : State) : Node := if s.decision = some .approved then .apply else .declined

/-- The edges out of a node. -/
def edges (limits : Limits) (s : State) : Node → List Task
  | .intake => [⟨.orient, none⟩]
  | .orient => [⟨afterOrient s, none⟩]
  | .planner => afterPlanner s
  | .diagnose => [⟨.join, none⟩]
  | .analyse => [⟨.join, none⟩]
  | .simulate => [⟨.join, none⟩]
  | .join => [⟨.planner, none⟩]
  | .compose => [⟨.verify, none⟩]
  | .verify => [⟨afterVerify s limits.maxDrafts, none⟩]
  | .control => [⟨afterControl s, none⟩]
  | .planCheck => [⟨afterPlanCheck s, none⟩]
  | .confirm => [⟨afterConfirm s, none⟩]
  | .apply => [⟨.finish, none⟩]
  | .declined => [⟨.finish, none⟩]
  | .finish => []

/-- The tasks of the next superstep; a node that several tasks lead to runs once. -/
def nextTasks (limits : Limits) (s : State) (tasks : List Task) : List Task :=
  (tasks.flatMap fun t => edges limits s t.node).dedup

end DTwin.Copilot
