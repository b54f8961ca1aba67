import DTwin.Copilot.State
import DTwin.Lib.Machine
import DTwin.Lib.Text
import Mathlib.Data.List.Dedup

/-!
# DTwin.Copilot.Graph — a graph and the turns run on it

`apps/web/lib/copilot/plan-check.ts`, `confirm.ts`, `apply.ts`, `lifecycle.ts` and `session.ts`, for the graph of
one person.  A turn runs its thread superstep by superstep from the checkpoint; it is cut where `plan_check`
and `apply` wait for the control service.  What the models (and the tools they call) make the other nodes
return is in the label, and so is every clock reading: one for each stretch between two waits.

A turn holds its thread's lock while it is in `runs`.  `drawn` is no part of the process: the ids that
`randomUUID` has given, which it does not give again.
-/

namespace DTwin.Copilot

open OrderedMap

structure Config where
  limits : Limits
  hash : Hash
  /-- The schema library's test for a UUID. -/
  isUuid : String → Bool
  /-- The violations of the wording rules. -/
  verifyText : String → Option OrientContext → List String
  /-- Whether a pending plan matches the protocol. -/
  presentable : String → ReviewedPlan → Bool

def Limits.ledger (limits : Limits) : LedgerOptions := ⟨limits.grantTtlS, limits.planTtlS, limits.maxPlanCommands⟩

/-! ## plan_check -/

def trim (s : String) : String := String.ofList (Text.trim s.toList)

/-- The trimmed string, if its length is within the bounds. -/
def parseText (least most : ℕ) (s : String) : Option String :=
  if least ≤ Text.utf16Length (trim s) ∧ Text.utf16Length (trim s) ≤ most then some (trim s) else none

def ProposedCommand.safeParse (c : ProposedCommand) (cfg : Config) : Option ProposedCommand :=
  if cfg.isUuid c.zoneId ∧ ∀ d ∈ c.durationS, d.isInt ∧ 0 < d ∧ d ≤ 86400 then
    (parseText 3 300 c.reason).map fun reason => { c with reason }
  else none

def MAX_PLAN_COMMANDS : ℕ := 12

def ProposedPlan.safeParse (plan : ProposedPlan) (cfg : Config) : Option ProposedPlan :=
  match parseText 3 500 plan.summary, plan.commands.mapM (·.safeParse cfg) with
  | some summary, some commands =>
    if 1 ≤ commands.length ∧ commands.length ≤ MAX_PLAN_COMMANDS then some ⟨summary, commands⟩ else none
  | _, _ => none

/-- The plan is dropped, with a notice. -/
def dropPlan (notice : Notice) : Update := { pendingPlan := some none, notices := some (.append [notice]) }

def refuse (zone message : String) : Update :=
  dropPlan ⟨.planRefused, [("zone", .text zone), ("message", .text message)]⟩

def budgetNotice (limits : Limits) : BudgetReason → Notice
  | .budget => ⟨.budget, [("calls", .number limits.maxModelCalls)]⟩
  | .deadline => ⟨.deadline, [("seconds", .number limits.deadlineS)]⟩
  | .stopped => ⟨.stopped, []⟩

def State.directory (s : State) : OrderedMap String DirectoryRow :=
  ofList DirectoryRow.id ((s.context.map OrientContext.directory).getD [])

def State.zoneName (s : State) (zoneId : String) : String :=
  ((s.directory.get? zoneId).map DirectoryRow.name).getD ""

/-- Every zone is in the directory, and none appears twice. -/
def checkZones (s : State) : List String → List ProposedCommand → Option Update
  | _, [] => none
  | seen, c :: commands =>
    match s.directory.get? c.zoneId with
    | none => some (refuse "the plan" "it names a zone that is not in the directory")
    | some zone =>
      if c.zoneId ∈ seen then some (refuse zone.name "the zone appears twice")
      else checkZones s (c.zoneId :: seen) commands

/-- `plan_check` before its dry runs: an update that ends the request, or the plan to dry-run. -/
def planCheck (cfg : Config) (s : State) (interrupted : Option BudgetReason) : Except Update ProposedPlan :=
  match interrupted with
  | some why => .error (dropPlan (budgetNotice cfg.limits why))
  | none =>
    if !((s.scope.map Scope.allowControl).getD false && (s.request.map RequestStamp.mayCommand).getD false) then
      .error (dropPlan ⟨.controlNotPermitted, []⟩)
    else
      match s.proposal.bind (·.safeParse cfg) with
      | none => .error (refuse "the plan" "it is not a well-formed plan")
      | some plan =>
        if cfg.limits.maxPlanCommands < plan.commands.length then
          .error (refuse "the plan" ("it has more than " ++ toString cfg.limits.maxPlanCommands ++ " commands"))
        else
          match checkZones s [] plan.commands with
          | some u => .error u
          | none =>
            if 0 < (cfg.verifyText plan.summary s.context).length then
              .error (refuse "the plan" "its summary states a figure or a word the copilot may not use")
            else
              match plan.commands.find? fun c => 0 < (cfg.verifyText c.reason s.context).length with
              | some c =>
                .error (refuse (s.zoneName c.zoneId) "its reason states a figure or a word the copilot may not use")
              | none => .ok plan

inductive DryRun
  | allowed (verdict : Verdict)
  | refused (message : String)
  | unreachable

/-- The commands as reviewed by their dry runs, which stop at the first that does not allow; none if the replies
are not those to the dry runs. -/
def review (s : State) : List ProposedCommand → List DryRun → Option (Except Update (List ReviewedCommand))
  | [], [] => some (.ok [])
  | c :: commands, .allowed v :: replies =>
    (review s commands replies).map fun r => r.map fun reviewed =>
      ⟨c.zoneId, c.setpointTempC, some (c.durationS.getD v.durationS), c.reason, s.zoneName c.zoneId, v⟩ :: reviewed
  | c :: _, [.refused message] => some (.error (refuse (s.zoneName c.zoneId) message))
  | _ :: _, [.unreachable] => some (.error (dropPlan ⟨.controlUnavailable, []⟩))
  | _, _ => none

def ReviewedCommand.sent (c : ReviewedCommand) : SentCommand := ⟨c.zoneId, c.setpointTempC, c.durationS, c.reason⟩

/-- The plan that a person is asked to approve. -/
def reviewedPlan (cfg : Config) (plan : ProposedPlan) (commands : List ReviewedCommand) (planId : String) (now : ℤ) :
    ReviewedPlan :=
  ⟨planId, cfg.hash (commands.map ReviewedCommand.sent), now, now + cfg.limits.planTtlS * 1000, plan.summary, commands⟩

/-! ## The other nodes -/

def intake (s : State) (inbox : InboxMessage) : Update where
  inbox := some none
  request := some (some ⟨inbox.requestId, (s.request.map RequestStamp.seq).getD 0 + 1, inbox.text, inbox.mayCommand⟩)
  context := some none
  scope := some none
  plannerRoute := some none
  waves := some 0
  taskSeq := some 0
  tasks := some none
  findings := some none
  controlTask := some none
  proposal := some none
  answer := some false
  violations := some []
  drafts := some 0
  notices := some (.replace (if s.pendingPlan.isSome then [⟨.planSuperseded, []⟩] else []))
  pendingPlan := some none
  decision := some none
  outcomes := some []

/-- Each running task that has a finding is done. -/
def join (s : State) : Update where
  tasks := some (some ((s.tasks.entries.filterMap fun e =>
    if e.2.status = .running ∧ (s.findings.get? e.1).isSome then some (e.1, { e.2 with status := .done })
    else none).foldl (fun m e => m.set e.1 e.2) .empty))

def declined (s : State) : Update where
  pendingPlan := some none
  decision := some none
  notices := some (.append [⟨match s.decision with
    | some .expired => .planExpired
    | some .declined => .planDeclined
    | _ => .planStale, []⟩])

inductive Resolution | approved | declined
deriving DecidableEq

/-- What a decision resumes `confirm` with. -/
structure ResumeValue where
  decision : Resolution
  planId : String
  planHash : String
deriving DecidableEq

def ReviewedCommand.grantable (c : ReviewedCommand) : GrantableCommand :=
  ⟨.string c.zoneId, .string c.zoneName, .number c.setpointTempC,
    match c.durationS with
    | none => .undefined
    | some d => .number d,
    .string c.reason⟩

def ReviewedPlan.grantable (plan : ReviewedPlan) : GrantablePlan :=
  ⟨.string plan.planId, .string plan.planHash, some (plan.commands.map ReviewedCommand.grantable)⟩

/-- `confirm`, resumed. -/
def confirm (cfg : Config) (ledger : Ledger) (now : ℤ) (threadId : String) (s : State) (resume : ResumeValue) :
    Ledger × Decision :=
  match s.pendingPlan with
  | none => (ledger, .stale)
  | some plan =>
    if resume.planId ≠ plan.planId ∨ resume.planHash ≠ plan.planHash ∨
        cfg.hash (plan.commands.map ReviewedCommand.sent) ≠ plan.planHash then (ledger, .stale)
    else if plan.expiresAt ≤ now then (ledger, .expired)
    else
      match resume.decision with
      | .declined => (ledger, .declined)
      | .approved =>
        let (ledger, granted) := ledger.grant cfg.hash cfg.limits.ledger now threadId (some plan.grantable)
        (ledger, if granted then .approved else .stale)

/-- A call of the issuer. -/
structure CommandSpec where
  zoneId : String
  setpointTempC : ℚ
  durationS : Option ℚ
  reason : String
deriving DecidableEq

def GrantedCommand.spec (c : GrantedCommand) : CommandSpec :=
  ⟨c.zoneId, c.setpointTempC, c.durationS, "copilot (operator-approved): " ++ c.reason⟩

def stoppedResult : IssueResult := .refused "stopped" "not issued: stopped by the operator"

def unreachableResult : IssueResult := .refused "transport" "control service unreachable"

def GrantedCommand.outcome (c : GrantedCommand) (result : IssueResult) : Outcome :=
  ⟨c.zoneName, c.setpointTempC, result⟩

/-- What `apply` returns when it found no grant for the plan. -/
def applyRefused : Update where
  pendingPlan := some none
  decision := some none
  notices := some (.append [⟨.applyRefused, []⟩])

def applied (outcomes : List Outcome) (halted : Bool) : Update where
  outcomes := some outcomes
  pendingPlan := some none
  decision := some none
  notices := if halted then some (.append [⟨.stopped, []⟩]) else none

/-! ## Threads and turns -/

/-- A thread as it is checkpointed: the channels, what runs next, and the interrupt that `confirm` raised. -/
structure Thread where
  values : State := {}
  next : List Task := []
  interrupt : Option (String × Option ReviewedPlan) := none

/-- Where the turn is that holds a thread's lock. -/
inductive Phase
  /-- Before a superstep, which resumes `confirm` if there is a value. -/
  | ready (resume : Option ResumeValue)
  /-- `plan_check` waits for its dry runs. -/
  | checking (plan : ProposedPlan)
  /-- `apply` waits for the issuer to answer for the first of the `rest`. -/
  | applying (grant : Grant) (outcomes : List Outcome) (rest : List GrantedCommand)
  /-- The graph has stopped, at the end or for a person. -/
  | ended
deriving DecidableEq

structure Sys where
  threads : String → Thread
  runs : String → Option Phase
  ledger : Ledger
  registry : Registry
  drawn : List String

structure DecisionRequest extends ResumeValue where
  interruptId : String
deriving DecidableEq

inductive Obs
  | conflict (threadId : String)
  | nothingPending (threadId : String)
  | planExpired (threadId : String)
  | decided (threadId : String) (d : DecisionRequest) (now : ℤ)
  | stopping (threadId : String) (answer : Bool)
  | planned (threadId : String) (plan : ReviewedPlan)
  | applyRefused (threadId : String)
  | issued (threadId : String) (planId : String) (command : CommandSpec)
  | applied (threadId : String) (planId : String) (outcomes : List Outcome)
  | failed (threadId : String)
deriving DecidableEq

inductive Act
  /-- A message of a person who may, or may not, command. -/
  | message (threadId requestId text : String) (mayCommand : Bool)
  | decide (threadId : String) (d : DecisionRequest) (now : ℤ)
  | stop (threadId : String)
  /-- A superstep of a node that asks no model and no service, or its first stretch. -/
  | node (threadId : String) (now : ℤ)
  /-- A superstep of the other nodes: what each of its tasks returns. -/
  | model (threadId : String) (updates : List Update)
  /-- `confirm` pauses for a person. -/
  | pause (threadId interruptId : String)
  | dryRuns (threadId : String) (replies : List DryRun) (planId : String) (now : ℤ)
  /-- The issuer answers, or throws. -/
  | answered (threadId : String) (result : Option IssueResult)
  /-- The turn is over and released. -/
  | done (threadId : String)
  /-- It failed. -/
  | fail (threadId : String)
  /-- Whether any thread has an open request is asked. -/
  | anyOpen (now : ℤ)
  /-- The checkpointer lets a thread go that has no open request. -/
  | evict (threadId : String)
  /-- The process, or only this graph, is started anew. -/
  | restart

def Sys.init : Sys := ⟨fun _ => {}, fun _ => none, .init, .init, []⟩

def Sys.setThread (s : Sys) (threadId : String) (t : Thread) : Sys :=
  { s with threads := fun i => if i = threadId then t else s.threads i }

def Sys.setRun (s : Sys) (threadId : String) (p : Option Phase) : Sys :=
  { s with runs := fun i => if i = threadId then p else s.runs i }

/-- The superstep is over: its updates are merged and checkpointed with what runs next. -/
def Sys.complete (s : Sys) (cfg : Config) (threadId : String) (updates : List Update) : Sys :=
  let t := s.threads threadId
  let values := updates.foldl State.merge t.values
  let next := nextTasks cfg.limits values t.next
  (s.setThread threadId ⟨values, next, none⟩).setRun threadId (some (if next.isEmpty then .ended else .ready none))

/-- `abandon`: close a request that failed. -/
def Sys.abandon (s : Sys) (threadId : String) : Sys :=
  { s with registry := s.registry.close threadId, ledger := s.ledger.revoke threadId }

/-- `apply` from one command on: the rest is kept back if the operator has pressed Stop. -/
def Sys.proceed (s : Sys) (cfg : Config) (threadId : String) (grant : Grant) (outcomes : List Outcome)
    (rest : List GrantedCommand) : Sys × List Obs :=
  match rest with
  | [] => (s.complete cfg threadId [applied outcomes false], [.applied threadId grant.planId outcomes])
  | c :: rest =>
    if s.registry.stopRequested threadId then
      let outcomes := outcomes ++ (c :: rest).map (·.outcome stoppedResult)
      (s.complete cfg threadId [applied outcomes true], [.applied threadId grant.planId outcomes])
    else
      (s.setRun threadId (some (.applying grant outcomes (c :: rest))), [.issued threadId grant.planId c.spec])

/-- `pendingPlanOf`: the one interrupt of the thread, if it is `confirm`'s and agrees with the state. -/
def Thread.pendingPlan (t : Thread) (cfg : Config) : Option (String × ReviewedPlan) :=
  match t.interrupt, t.values.pendingPlan with
  | some (interruptId, some plan), some held =>
    if plan.planId = held.planId ∧ plan.planHash = held.planHash ∧ plan.expiresAt = held.expiresAt ∧
        cfg.presentable interruptId plan then some (interruptId, plan) else none
  | _, _ => none

/-- The nodes whose updates the models decide. -/
def modelNodes : List Node := [.orient, .planner, .diagnose, .analyse, .simulate, .compose, .verify, .control]

/-- A superstep of `tasks` may return these updates. -/
def Returns (tasks : List Task) (updates : List Update) : Prop :=
  (∀ task ∈ tasks, task.node ∈ modelNodes) ∧ updates.length = tasks.length ∧
    ∀ x ∈ tasks.zip updates, x.2.Within x.1.node

instance (tasks : List Task) (updates : List Update) : Decidable (Returns tasks updates) :=
  inferInstanceAs (Decidable (_ ∧ _ ∧ _))

/-- The node that runs alone, before any wait. -/
def nodeStep (cfg : Config) (s : Sys) (threadId : String) (now : ℤ) (resume : Option ResumeValue) :
    List Node → Option (Sys × List Obs)
  | [.intake] =>
    (s.threads threadId).values.inbox.map fun inbox =>
      let s := { s with
        ledger := s.ledger.revoke threadId
        registry := s.registry.begin cfg.limits now threadId inbox.requestId }
      (s.complete cfg threadId [intake (s.threads threadId).values inbox], [])
  | [.join] => some (s.complete cfg threadId [join (s.threads threadId).values], [])
  | [.planCheck] =>
    match planCheck cfg (s.threads threadId).values (s.registry.interrupted now threadId) with
    | .error u => some (s.complete cfg threadId [u], [])
    | .ok plan => some (s.setRun threadId (some (.checking plan)), [])
  | [.confirm] =>
    resume.map fun resume =>
      let (ledger, decision) := confirm cfg s.ledger now threadId (s.threads threadId).values resume
      ({ s with ledger }.complete cfg threadId [{ decision := some (some decision) }], [])
  | [.apply] =>
    let (ledger, grant) := s.ledger.take cfg.limits.ledger now threadId
    let s := { s with ledger }
    match grant with
    | none => some (s.complete cfg threadId [applyRefused], [.applyRefused threadId])
    | some grant =>
      if (s.threads threadId).values.pendingPlan.map ReviewedPlan.planId = some grant.planId then
        some (s.proceed cfg threadId grant [] grant.commands)
      else some (s.complete cfg threadId [applyRefused], [.applyRefused threadId])
  | [.declined] => some (s.complete cfg threadId [declined (s.threads threadId).values], [])
  | [.finish] =>
    some ({ s with registry := s.registry.close threadId }.complete cfg threadId [{}], [])
  | _ => none

def step (cfg : Config) (s : Sys) : Act → Option (Sys × List Obs)
  | .message threadId requestId text mayCommand =>
    match s.runs threadId with
    | some _ => some (s, [.conflict threadId])
    | none =>
      let values := { (s.threads threadId).values with inbox := some ⟨requestId, text, mayCommand⟩ }
      some ((s.setThread threadId ⟨values, [⟨.intake, none⟩], none⟩).setRun threadId (some (.ready none)), [])
  | .decide threadId d now =>
    match s.runs threadId with
    | some _ => some (s, [.conflict threadId])
    | none =>
      match (s.threads threadId).pendingPlan cfg with
      | none => some (s, [.nothingPending threadId])
      | some (interruptId, plan) =>
        if interruptId ≠ d.interruptId ∨ plan.planId ≠ d.planId ∨ plan.planHash ≠ d.planHash then
          some (s, [.nothingPending threadId])
        else if plan.expiresAt ≤ now then some (s, [.planExpired threadId])
        else
          some ({ s with registry := s.registry.clearStop threadId }.setRun threadId
            (some (.ready (some d.toResumeValue))), [.decided threadId d now])
  | .stop threadId =>
    let (registry, answer) := s.registry.stop threadId
    some ({ s with registry }, [.stopping threadId answer])
  | .node threadId now =>
    match s.runs threadId with
    | some (.ready resume) => nodeStep cfg s threadId now resume ((s.threads threadId).next.map Task.node)
    | _ => none
  | .model threadId updates =>
    match s.runs threadId with
    | some (.ready _) =>
      if Returns (s.threads threadId).next updates then some (s.complete cfg threadId updates, []) else none
    | _ => none
  | .pause threadId interruptId =>
    match s.runs threadId with
    | some (.ready none) =>
      let t := s.threads threadId
      if t.next.map Task.node = [.confirm] then
        some ((s.setThread threadId { t with interrupt := some (interruptId, t.values.pendingPlan) }).setRun threadId
          (some .ended), [])
      else none
    | _ => none
  | .dryRuns threadId replies planId now =>
    match s.runs threadId with
    | some (.checking plan) =>
      match review (s.threads threadId).values plan.commands replies with
      | none => none
      | some (.error u) => some (s.complete cfg threadId [u], [])
      | some (.ok commands) =>
        match s.registry.interrupted now threadId with
        | some why => some (s.complete cfg threadId [dropPlan (budgetNotice cfg.limits why)], [])
        | none =>
          if planId ∈ s.drawn then none
          else
            let plan := reviewedPlan cfg plan commands planId now
            some ({ s with drawn := planId :: s.drawn }.complete cfg threadId [{ pendingPlan := some (some plan) }],
              [.planned threadId plan])
    | _ => none
  | .answered threadId result =>
    match s.runs threadId with
    | some (.applying grant outcomes (c :: rest)) =>
      some (s.proceed cfg threadId grant (outcomes ++ [c.outcome (result.getD unreachableResult)]) rest)
    | _ => none
  | .done threadId =>
    match s.runs threadId with
    | some .ended => some (s.setRun threadId none, [])
    | _ => none
  | .fail threadId =>
    match s.runs threadId with
    | none => none
    | some (.applying ..) => none
    | some _ => some ((s.abandon threadId).setRun threadId none, [.failed threadId])
  | .anyOpen now => some ({ s with registry := s.registry.sweep cfg.limits now }, [])
  | .evict threadId =>
    match s.runs threadId, s.registry.entries.get? threadId with
    | none, none => some (s.setThread threadId {}, [])
    | _, _ => none
  | .restart => some ({ Sys.init with drawn := s.drawn }, [])

def copilot (cfg : Config) : Machine Sys Act Obs := ⟨step cfg⟩

end DTwin.Copilot
