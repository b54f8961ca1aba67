import DTwin.Copilot.SimSlot
import DTwin.Copilot.Specialist
import DTwin.Lib.Table
import DTwin.Lib.Text
import DTwin.Panel.Wire
import Mathlib.Algebra.Order.Floor.Defs
import Mathlib.Data.Rat.Floor

/-!
# DTwin.Panel.Run — what the panel shows of a run

`apps/web/lib/copilot-panel/run.ts`: the reducers over the events and turns of a run, and the cards and chips that are
drawn of their state.  A task is listed once in every run that is reached (`run_listed`).

Of a turn its dialogue, answer, plan, outcomes, notices and usage are left out; no function here reads them.
-/

namespace DTwin.Panel

open Table (upsert map_upsert nodup_upsert mem_upsert_iff)
open Copilot (Node FindingReason)
open Copilot.SimSlot (SimStatus)

/-! ## Turns and events -/

/-- `T1` to `T8`, or the controller's. -/
inductive TaskId
  | t (n : Fin 8)
  | k
deriving DecidableEq

inductive Specialist | diagnose | analyse | simulate | control
deriving DecidableEq

inductive TaskStatus | pending | running | done | answered | partly | cannotAnswer | failed | refused
deriving DecidableEq

structure Task where
  taskId : TaskId
  specialist : Specialist
  goal : Option String
  status : TaskStatus
  reason : Option FindingReason

/-- What an evidence event and a card both say. -/
structure EvidenceFacts where
  label : String
  source : String
  kind : String
  window : Option (String × String)
  /-- Good and expected. -/
  coverage : Option (ℕ × ℕ)
  flaggedExcludedCount : Option ℕ
  /-- Total and limit. -/
  truncated : Option (ℕ × ℕ)

structure EvidenceMeta where
  id : String
  taskId : TaskId
  tool : String
  facts : EvidenceFacts

structure Card where
  id : String
  facts : EvidenceFacts
  headline : List (String × String)
  caveatLines : List String

/-- `CopilotTurn`.  A task is listed once: `turnFromState` takes them from a record by id. -/
structure CopilotTurn where
  requestId : Option String
  running : Bool
  cards : List Card
  tasks : List Task
  hasPendingPlan : Bool
  distinct : (tasks.map (·.taskId)).Nodup

structure SimMeta where
  taskId : TaskId
  runId : String
  isBaseline : Bool
  scenario : String
  status : SimStatus
  progressPct : ℚ

structure PlanMarker where
  interruptId : String
  planId : String
  planHash : String
  expiresAt : String

inductive CopilotEvent
  | accepted (requestId : Option String)
  | step (node : Node)
  | task (taskId : TaskId) (specialist : Specialist) (goal : Option String) (status : TaskStatus)
  | activity (taskId : TaskId) (tool label : String)
  | evidence (e : EvidenceMeta)
  | sim (s : SimMeta)
  | plan (p : PlanMarker)
  | ping
  | turn (turn : CopilotTurn)
  | error (requestId : Option String)

/-! ## The state -/

inductive ActivityClass | read | dryRun | scratch | propose | report | other
deriving DecidableEq

/-- `ACTIVITY_CLASS`, with `other` for the tools it does not have. -/
def activityClass (tool : String) : ActivityClass :=
  if tool ∈ ["zone_conditions", "zone_history", "zone_timeline", "equipment_status", "list_alerts", "control_history",
      "energy_by_end_use", "meter_consumption", "compare_zones", "list_zones", "control_envelope"] then .read
  else if tool = "dry_run_setpoint" then .dryRun
  else if tool = "simulate_scenarios" then .scratch
  else if tool = "propose_plan" then .propose
  else if tool = "report_finding" then .report
  else .other

def TaskStatus.finished : TaskStatus → Bool
  | .pending => false
  | .running => false
  | _ => true

/-- `isSpecialist`. -/
def specialist? : Node → Option Specialist
  | .diagnose => some .diagnose
  | .analyse => some .analyse
  | .simulate => some .simulate
  | .control => some .control
  | _ => none

def Specialist.node : Specialist → Node
  | .diagnose => .diagnose
  | .analyse => .analyse
  | .simulate => .simulate
  | .control => .control

structure Activity where
  taskId : TaskId
  counts : ActivityClass → ℕ
  last : String

inductive Decision | approved | declined
deriving DecidableEq

/-- What started a run: the operator's words, or a decision on a plan. -/
inductive Start
  | message (asked : String)
  | decision (decision : Decision)

def Start.isDecision : Start → Bool
  | .message _ => false
  | .decision _ => true

/-- A run without the one it replaced. -/
structure Run where
  start : Start
  requestId : Option String
  streaming : Bool
  ended : Option StreamEnd
  lastStep : Option Node
  /-- Of each specialist, the tasks that have ended before its own step arrived. -/
  finishing : Specialist → ℕ
  tasks : List Task
  activity : List Activity
  evidence : List EvidenceMeta
  sims : List SimMeta
  plan : Option PlanMarker

/-- A run and, one level back only, the run it replaced on screen. -/
structure LiveRun extends Run where
  previous : Option Run

structure PanelState where
  turn : Option CopilotTurn
  live : Option LiveRun

def EMPTY : PanelState := ⟨none, none⟩

/-! ## The reducers -/

def freshRun (start : Start) (previous : Option LiveRun) : LiveRun where
  start := start
  requestId := none
  streaming := true
  ended := none
  lastStep := none
  finishing := fun _ => 0
  tasks := []
  activity := []
  evidence := []
  sims := []
  plan := none
  previous := previous.map (·.toRun)

def beginMessage (s : PanelState) (text : String) : PanelState :=
  { s with live := some (freshRun (.message text) s.live) }

def beginDecision (s : PanelState) (decision : Decision) : PanelState :=
  let next := freshRun (.decision decision) s.live
  { s with
    live := match s.live with
      | some prev => some { next with
          requestId := prev.requestId, tasks := prev.tasks, activity := prev.activity, evidence := prev.evidence,
          sims := prev.sims }
      | none => some next }

def mergeTasks (live turn : List Task) : List Task :=
  turn.foldl (fun out t => upsert (·.taskId) (fun _ t => t) t out) live

def foldStep (live : LiveRun) (node : Node) : LiveRun :=
  { live with
    lastStep := some node,
    finishing := fun sp => if specialist? node = some sp then live.finishing sp - 1 else live.finishing sp }

def foldTask (live : LiveRun) (task : Task) : LiveRun :=
  let before := live.tasks.find? fun t => t.taskId = task.taskId
  let ends := task.status.finished && !(before.any (·.status.finished))
  { live with
    -- the end of a task carries no goal, its dispatch did
    tasks := upsert (·.taskId) (fun old t => { t with goal := t.goal.or old.goal }) task live.tasks,
    finishing := fun sp => if ends ∧ sp = task.specialist then live.finishing sp + 1 else live.finishing sp }

def foldActivity (live : LiveRun) (taskId : TaskId) (tool label : String) : LiveRun :=
  let prev := live.activity.find? fun a => a.taskId = taskId
  let counts := fun c => (prev.elim 0 fun a => a.counts c) + if c = activityClass tool then 1 else 0
  { live with activity := upsert (·.taskId) (fun _ a => a) ⟨taskId, counts, label⟩ live.activity }

def foldEvent (s : PanelState) : CopilotEvent → PanelState
  | .turn turn =>
    ⟨some turn, s.live.map fun live => { live with tasks := mergeTasks live.tasks turn.tasks, ended := some .turn }⟩
  | .accepted requestId => { s with live := s.live.map fun live =>
    { live with requestId := requestId.or live.requestId } }
  | .step node => { s with live := s.live.map fun live => foldStep live node }
  | .task taskId specialist goal status =>
    { s with live := s.live.map fun live => foldTask live ⟨taskId, specialist, goal, status, none⟩ }
  | .activity taskId tool label => { s with live := s.live.map fun live => foldActivity live taskId tool label }
  | .evidence e =>
    { s with
      live := s.live.map fun live =>
        if live.evidence.any (·.id = e.id) then live else { live with evidence := live.evidence ++ [e] } }
  | .sim sim => { s with live := s.live.map fun live =>
    { live with sims := upsert (·.runId) (fun _ m => m) sim live.sims } }
  | .plan p => { s with live := s.live.map fun live => { live with plan := some p } }
  | .error requestId =>
    { s with live := s.live.map fun live =>
      { live with ended := some .error, requestId := requestId.or live.requestId } }
  | .ping => s

def applyEvents (s : PanelState) (events : List CopilotEvent) : PanelState := events.foldl foldEvent s

def endStream (s : PanelState) (how : StreamEnd) : PanelState :=
  { s with live := s.live.map fun live => { live with streaming := false, ended := live.ended.or (some how) } }

def applyTurn (s : PanelState) (turn : CopilotTurn) : PanelState :=
  match s.live with
  | none => ⟨some turn, none⟩
  | some live =>
    if live.streaming = false ∧ live.requestId ≠ none ∧ live.requestId = turn.requestId then
      ⟨some turn, some { live with tasks := mergeTasks live.tasks turn.tasks }⟩
    else if live.streaming then { s with turn := some turn }
    else ⟨some turn, none⟩

def refuse (s : PanelState) : PanelState :=
  { s with live := s.live.bind fun live => live.previous.map fun run => ⟨run, none⟩ }

/-- What folds into the state. -/
inductive Fold
  | beginMessage (text : String)
  | beginDecision (decision : Decision)
  | applyEvents (events : List CopilotEvent)
  | endStream (how : StreamEnd)
  | applyTurn (turn : CopilotTurn)
  | refuse

def PanelState.fold (s : PanelState) : Fold → PanelState
  | .beginMessage text => Panel.beginMessage s text
  | .beginDecision decision => Panel.beginDecision s decision
  | .applyEvents events => Panel.applyEvents s events
  | .endStream how => Panel.endStream s how
  | .applyTurn turn => Panel.applyTurn s turn
  | .refuse => Panel.refuse s

/-- The state after a sequence of folds. -/
def run (folds : List Fold) : PanelState := folds.foldl PanelState.fold EMPTY

/-! ## What is shown -/

/-- The turn of the run on screen. -/
def currentTurn (s : PanelState) : Option CopilotTurn :=
  match s.turn, s.live with
  | none, _ => none
  | some turn, none => some turn
  | some turn, some live =>
    if live.start.isDecision ∨ (live.requestId ≠ none ∧ live.requestId = turn.requestId) then some turn else none

/-- The card of an evidence event, until the turn comes. -/
def EvidenceMeta.card (e : EvidenceMeta) : Card := ⟨e.id, e.facts, [], []⟩

def evidenceCards (s : PanelState) : List Card :=
  match currentTurn s with
  | some turn => turn.cards
  | none => (s.live.elim [] (·.evidence)).map EvidenceMeta.card

def isRunning (s : PanelState) : Bool := s.live.any (·.streaming) || s.turn.any (·.running)

def likelyNext (last : Option Node) (hasFindings : Bool) (decision : Option Decision) : Option Node :=
  match last with
  | none => if decision.isSome then some .confirm else some .intake
  | some .intake => some .orient
  | some .orient => some .planner
  | some .planner => if hasFindings then some .compose else some .control
  | some .diagnose | some .analyse | some .simulate => some .join
  | some .join => some .planner
  | some .compose => some .verify
  | some .confirm =>
    match decision with
    | some .approved => some .apply
    | some .declined => some .declined
    | none => none
  | some .apply | some .declined => some .finish
  | some .verify | some .control | some .planCheck | some .finish => none

def Start.decision? : Start → Option Decision
  | .message _ => none
  | .decision d => some d

def activeNodes (s : PanelState) : List Node :=
  if isRunning s = false then if s.turn.any (·.hasPendingPlan) then [.confirm] else []
  else
    match s.live with
    | none => []
    | some live =>
      if live.streaming = false then []
      else if live.plan.isSome then [.confirm]
      else
        let running := ((live.tasks.filter (·.status = .running)).map (·.specialist)) ++
          [Specialist.diagnose, .analyse, .simulate, .control].filter (0 < live.finishing ·)
        let planning := live.lastStep = some .orient ∨ live.lastStep = some .join
        if running ≠ [] then
          ((if planning then [Node.planner] else []) ++ running.map Specialist.node).dedup
        else
          (likelyNext live.lastStep (live.tasks.any fun t => t.specialist ≠ .control && t.status.finished)
            live.start.decision?).toList

def VERB : Specialist → String
  | .diagnose => "Diagnosing"
  | .analyse => "Analysing"
  | .simulate => "Simulating"
  | .control => "Dry-running"

def PHASE : Node → Option String
  | .intake => some "Starting"
  | .orient => some "Reading the building"
  | .join => some "Planning"
  | .planner => some "Planning"
  | .compose => some "Composing"
  | .verify => some "Checking figures"
  | .control => some "Dry-running"
  | .planCheck => some "Re-checking the plan"
  | .confirm => some "Recording your decision"
  | .apply => some "Issuing"
  | .declined => some "Setting the plan aside"
  | .finish => some "Finishing"
  | _ => none

def ENDING : TaskStatus → String
  | .pending => " · waiting"
  | .running => ""
  | .done => " ✓"
  | .answered => " ✓"
  | .partly => " · partial"
  | .cannotAnswer => " · no answer"
  | .failed => " · failed"
  | .refused => " · refused"

inductive ChipTone | running | done | warn | failed | waiting
deriving DecidableEq

def toneOf : TaskStatus → ChipTone
  | .running => .running
  | .done | .answered => .done
  | .failed | .refused => .failed
  | .pending => .waiting
  | .partly | .cannotAnswer => .warn

inductive ChipKey
  | task (taskId : TaskId)
  | phase
deriving DecidableEq

/-- A chip; its text is `verb`, `ending` and, of a simulation that is running, how far it is. -/
structure Chip where
  key : ChipKey
  verb : String
  ending : String
  progress : Option ℤ
  tone : ChipTone
  title : Option String

def Chip.text (c : Chip) : String := c.verb ++ c.ending ++ c.progress.elim "" fun p => s!" {p}%"

/-- A reason with blanks for its underscores. -/
def reasonText : FindingReason → String
  | .turnLimit => "turn limit"
  | .toolLimit => "tool limit"
  | .budget => "budget"
  | .deadline => "deadline"
  | .stopped => "stopped"
  | .noReport => "no report"
  | .modelError => "model error"
  | .evidenceFull => "evidence full"

/-- The planner's goal, with the reason the task stopped. -/
def titleOf (t : Task) : Option String :=
  match t.reason with
  | some reason => some (String.ofList (Text.trim (t.goal.getD "" ++ " (" ++ reasonText reason ++ ")").toList))
  | none => t.goal

inductive SocketStatus | running | completed | failed
deriving DecidableEq

/-- A socket's view of a simulation run. -/
structure SocketRun where
  progressPct : ℚ
  status : SocketStatus

structure SimRow where
  runId : String
  taskId : TaskId
  label : String
  status : SimStatus
  progressPct : ℚ

/-- A `sim` event with what the socket says of its run. -/
def simRow (socket : String → Option SocketRun) (m : SimMeta) : SimRow :=
  let (status, progressPct) :=
    match socket m.runId with
    | none => (m.status, m.progressPct)
    | some w =>
      if m.status.terminal then (m.status, m.progressPct)
      else
        match w.status with
        | .completed => (.completed, 100)
        | .failed => (.failed, m.progressPct)
        | .running => (m.status, max m.progressPct w.progressPct)
  ⟨m.runId, m.taskId, if m.isBaseline then "baseline" else m.scenario, status,
    if status = .completed then 100 else progressPct⟩

/-- `simRows` without a limit. -/
def simRows (s : PanelState) (socket : String → Option SocketRun) : List SimRow :=
  let rows := (s.live.elim [] (·.sims)).map (simRow socket)
  rows.filter (!·.status.terminal) ++ rows.filter (·.status.terminal)

def taskChip (rows : List SimRow) (t : Task) : Chip where
  key := .task t.taskId
  verb := VERB t.specialist
  ending := ENDING t.status
  progress :=
    let mine := rows.filter (·.taskId = t.taskId)
    if t.specialist = .simulate ∧ t.status = .running ∧ mine ≠ [] then
      some ⌊(mine.map (·.progressPct)).sum / mine.length⌋
    else none
  tone := toneOf t.status
  title := titleOf t

/-- The tasks that have chips. -/
def shownTasks (s : PanelState) : List Task :=
  match s.live, s.turn with
  | some live, _ => live.tasks
  | none, some turn => turn.tasks
  | none, none => []

/-- The chip for where the graph is, while no specialist is lit. -/
def phaseChip (s : PanelState) : Option Chip :=
  match s.live with
  | none => none
  | some live =>
    if live.streaming ∧ (activeNodes s).all fun node => (specialist? node).isNone then
      let text := if live.plan.isSome then "Awaiting your decision" else
        ((activeNodes s).head?.bind PHASE).getD "Working"
      some ⟨.phase, text, "", none, .running, none⟩
    else none

def chips (s : PanelState) (socket : String → Option SocketRun) : List Chip :=
  (shownTasks s).map (taskChip (simRows s socket)) ++ (phaseChip s).toList

/-! ## A task is listed once -/

/-- The ids of some tasks. -/
def ids (tasks : List Task) : List TaskId := tasks.map (·.taskId)

/-- The run on screen, and the one it replaced, list a task once. -/
def Listed (s : PanelState) : Prop :=
  ∀ live ∈ s.live, (ids live.tasks).Nodup ∧ ∀ run ∈ live.previous, (ids run.tasks).Nodup

variable {s : PanelState} {live : LiveRun} {tasks turn : List Task}

theorem nodup_mergeTasks (htasks : (ids tasks).Nodup) : (ids (mergeTasks tasks turn)).Nodup := by
  induction turn generalizing tasks with
  | nil => exact htasks
  | cons t turn ih => exact ih (nodup_upsert (fun _ _ => rfl) htasks)

/-- The turn's tasks, and those of the run that it does not list. -/
theorem mem_mergeTasks (htasks : (ids tasks).Nodup) (hturn : (ids turn).Nodup) {t : Task} :
    t ∈ mergeTasks tasks turn ↔ t ∈ turn ∨ t ∈ tasks ∧ t.taskId ∉ ids turn := by
  induction turn generalizing tasks with
  | nil =>
    show t ∈ tasks ↔ _
    rw [or_iff_right List.not_mem_nil]
    exact (and_iff_left List.not_mem_nil).symm
  | cons u turn ih =>
    obtain ⟨hu, hturn⟩ := List.nodup_cons.mp hturn
    have hput : (ids (upsert (·.taskId) (fun _ t => t) u tasks)).Nodup := nodup_upsert (fun _ _ => rfl) htasks
    show t ∈ mergeTasks (upsert _ _ u tasks) turn ↔ _
    have hids : t.taskId ∉ ids (u :: turn) ↔ t.taskId ≠ u.taskId ∧ t.taskId ∉ ids turn := List.mem_cons.not.trans not_or
    rw [ih hput hturn, mem_upsert_iff htasks, List.mem_cons, hids]
    constructor
    · rintro (ht | ⟨rfl | ht, hnot⟩)
      · exact Or.inl (Or.inr ht)
      · exact Or.inl (Or.inl rfl)
      · exact Or.inr ⟨ht.1, ht.2, hnot⟩
    · rintro ((rfl | ht) | ⟨ht, hne, hnot⟩)
      · exact Or.inr ⟨Or.inl rfl, hu⟩
      · exact Or.inl ht
      · exact Or.inr ⟨Or.inr ⟨ht, hne⟩, hnot⟩

/-- A change of the run that leaves its tasks listed once. -/
theorem Listed.map {turn : Option CopilotTurn} (h : Listed s) (f : LiveRun → LiveRun)
    (hf : ∀ live, (ids live.tasks).Nodup → (ids (f live).tasks).Nodup ∧ (f live).previous = live.previous) :
    Listed ⟨turn, s.live.map f⟩ := by
  intro live hlive
  obtain ⟨before, hbefore, rfl⟩ := Option.map_eq_some_iff.mp hlive
  obtain ⟨htasks, hprevious⟩ := h before hbefore
  obtain ⟨hafter, hsame⟩ := hf before htasks
  exact ⟨hafter, hsame ▸ hprevious⟩

theorem Listed.foldEvent (h : Listed s) (e : CopilotEvent) : Listed (foldEvent s e) := by
  cases e with
  | turn turn => exact h.map _ fun live htasks => ⟨nodup_mergeTasks htasks, rfl⟩
  | accepted requestId => exact h.map _ fun live htasks => ⟨htasks, rfl⟩
  | step node => exact h.map _ fun live htasks => ⟨htasks, rfl⟩
  | task taskId specialist goal status => exact h.map _ fun live htasks => ⟨nodup_upsert (fun _ _ => rfl) htasks, rfl⟩
  | activity taskId tool label => exact h.map _ fun live htasks => ⟨htasks, rfl⟩
  | evidence e =>
    refine h.map _ fun live htasks => ?_
    split_ifs
    · exact ⟨htasks, rfl⟩
    · exact ⟨htasks, rfl⟩
  | sim sim => exact h.map _ fun live htasks => ⟨htasks, rfl⟩
  | plan p => exact h.map _ fun live htasks => ⟨htasks, rfl⟩
  | ping => exact h
  | error requestId => exact h.map _ fun live htasks => ⟨htasks, rfl⟩

theorem Listed.applyEvents (h : Listed s) (events : List CopilotEvent) : Listed (applyEvents s events) := by
  induction events generalizing s with
  | nil => exact h
  | cons e events ih => exact ih (h.foldEvent e)

theorem Listed.previous (h : Listed s) : ∀ run ∈ s.live.map (·.toRun), (ids run.tasks).Nodup := by
  intro run hrun
  obtain ⟨live, hlive, rfl⟩ := Option.map_eq_some_iff.mp hrun
  exact (h live hlive).1

theorem Listed.fold (h : Listed s) (f : Fold) : Listed (s.fold f) := by
  cases f with
  | beginMessage text =>
    intro live hlive
    cases hlive
    exact ⟨List.nodup_nil, h.previous⟩
  | beginDecision decision =>
    intro live hlive
    have hprevious := h.previous
    unfold PanelState.fold Panel.beginDecision at hlive
    cases hs : s.live with
    | none =>
      rw [hs] at hlive hprevious
      cases hlive
      exact ⟨List.nodup_nil, hprevious⟩
    | some prev =>
      have htasks := (h prev hs).1
      rw [hs] at hlive hprevious
      cases hlive
      exact ⟨htasks, hprevious⟩
  | applyEvents events => exact h.applyEvents events
  | endStream how => exact h.map _ fun live htasks => ⟨htasks, rfl⟩
  | applyTurn turn =>
    intro live hlive
    unfold PanelState.fold Panel.applyTurn at hlive
    cases hs : s.live with
    | none =>
      rw [hs] at hlive
      cases hlive
    | some before =>
      obtain ⟨htasks, hprevious⟩ := h before hs
      simp only [hs] at hlive
      split_ifs at hlive
      · cases hlive
        exact ⟨nodup_mergeTasks htasks, hprevious⟩
      · exact h live (hs ▸ hlive)
      · cases hlive
  | refuse =>
    intro live hlive
    obtain ⟨before, hbefore, hrun⟩ := Option.bind_eq_some_iff.mp hlive
    obtain ⟨run, hprevious, rfl⟩ := Option.map_eq_some_iff.mp hrun
    refine ⟨(h before hbefore).2 run hprevious, ?_⟩
    intro none hnone
    cases hnone

/-- After every sequence of folds. -/
theorem run_listed (folds : List Fold) : Listed (run folds) := by
  have hempty : Listed EMPTY := by
    intro live hlive
    cases hlive
  unfold run
  generalize EMPTY = s at hempty
  induction folds generalizing s with
  | nil => exact hempty
  | cons f folds ih => exact ih (s.fold f) (hempty.fold f)

end DTwin.Panel
