import DTwin.Copilot.Planner
import DTwin.Copilot.Door
import DTwin.Lib.Result

/-!
# DTwin.Copilot.Supersteps — the copilot as a graph

`apps/web/lib/copilot/graph.ts` with its nodes: `orient.ts`, `compose.ts`, and those of the modules before.  A superstep
runs every scheduled task on the same state, merges what they return and schedules what the edges lead to.  What the
outside answers in a superstep (the database, the models, the control service, the registry and the ledger) is
its `World`.

A `Turn` is a thread while a turn runs on it.  That the supersteps here are steps of the graph as `Graph` has it, where
what these nodes return is given, is `superstep_model`.
-/

namespace DTwin.Copilot

open OrderedMap Ranking Result

inductive OrientReply
  /-- The database cannot be read, or holds no building. -/
  | unreadable
  /-- What it holds: whether the building's time zone is known, whether the envelope could be read, and the name of
  the building if there are several. -/
  | read (directory : List DirectoryRow) (zoneKnown envelope : Bool) (multiple : Option String)

inductive ComposeReply
  /-- The registry refuses the call, or ends it. -/
  | refused (reason : BudgetReason)
  | throws
  /-- The model declines. -/
  | refusal
  | malformed
  | answer

/-- What a superstep is told. -/
structure World where
  orient : OrientReply
  planner : PlannerWorld
  /-- By the id of the task; the controller's is `K`. -/
  specialist : String → ℕ → SubWorld
  compose : ComposeReply
  /-- Whether a specialist's model declined its task. -/
  findingRefused : Bool
  /-- The violations of an answer, if there is one. -/
  violations : List String
  /-- Stop or the deadline, before the dry runs and after them. -/
  interrupted : Option BudgetReason
  interruptedAfter : Option BudgetReason
  dryRun : ProposedCommand → DryRun
  planId : String
  now : ℤ
  ledger : Ledger
  threadId : String
  /-- Stop, as read before each command. -/
  stopped : ℕ → Bool
  issued : ℕ → Option IssueResult

/-! ## Nodes -/

def contextUnavailable : Update := { context := some none, notices := some (.append [⟨.contextUnavailable, []⟩]) }

def orient (s : State) : OrientReply → Update
  | .unreadable => contextUnavailable
  | .read directory zoneKnown envelope multiple =>
    if s.request.isSome && !zoneKnown then contextUnavailable
    else
      { request := s.request.map some
        context := some (some ⟨directory⟩)
        notices := some (.append ((if envelope then [] else [⟨.controlUnavailable, []⟩]) ++
          match multiple with
          | none => []
          | some building => [⟨.multipleBuildings, [("building", .text building)]⟩])) }

def compose (cfg : TurnConfig) (s : State) (findingRefused : Bool) (reply : ComposeReply) : Update :=
  let said := if findingRefused && !(s.notices.any (·.code = .modelRefused)) then [⟨.modelRefused, []⟩] else []
  let unavailable (extra : List Notice) : Update :=
    { answer := some false, drafts := some (s.drafts + 1),
      notices := some (.append (said ++ extra ++ [⟨.composeUnavailable, []⟩])) }
  if cfg.limits.maxDrafts ≤ s.drafts then { notices := if said.isEmpty then none else some (.append said) }
  else
    match reply with
    | .refused reason =>
      let spent := budgetNotice cfg.limits.toLimits reason
      unavailable (if s.notices.any (·.code = spent.code) then [] else [spent])
    | .throws => unavailable []
    | .refusal => unavailable []
    | .malformed => unavailable []
    | .answer =>
      { answer := some true, drafts := some (s.drafts + 1)
        notices := if said.isEmpty then none else some (.append said) }

def verify (cfg : TurnConfig) (s : State) (violations : List String) : Update :=
  if s.answer = false then { violations := some [] }
  else
    { violations := some violations
      notices := if 0 < violations.length ∧ cfg.limits.maxDrafts ≤ s.drafts then some (.append [⟨.verifyFailed, []⟩])
        else none }

/-- The replies to the dry runs, which stop at the first that does not allow. -/
def askDryRuns (dryRun : ProposedCommand → DryRun) : List ProposedCommand → List DryRun
  | [] => []
  | c :: commands =>
    match dryRun c with
    | .allowed v => .allowed v :: askDryRuns dryRun commands
    | reply => [reply]

/-- `plan_check`, with its dry runs. -/
def checked (cfg : TurnConfig) (s : State) (w : World) : Option Update :=
  match planCheck cfg.toConfig s w.interrupted with
  | .error u => some u
  | .ok plan =>
    (review s plan.commands (askDryRuns w.dryRun plan.commands)).map fun reviewed =>
      match reviewed with
      | .error u => u
      | .ok commands =>
        match w.interruptedAfter with
        | some why => dropPlan (budgetNotice cfg.limits.toLimits why)
        | none => { pendingPlan := some (some (reviewedPlan cfg.toConfig plan commands w.planId w.now)) }

/-- The commands issued one after the other, from the `n`-th on, until the operator presses Stop. -/
def issueAll (w : World) : ℕ → Bool → List GrantedCommand → List Outcome × Bool
  | _, halted, [] => ([], halted)
  | n, halted, c :: rest =>
    let halted := halted || w.stopped n
    let r := issueAll w (n + 1) halted rest
    (c.outcome (if halted then stoppedResult else (w.issued n).getD unreachableResult) :: r.1, r.2)

def applyNode (cfg : TurnConfig) (s : State) (w : World) : Update :=
  match (w.ledger.take cfg.toConfig.limits.ledger w.now w.threadId).2 with
  | none => applyRefused
  | some grant =>
    if s.pendingPlan.map ReviewedPlan.planId = some grant.planId then
      let r := issueAll w 0 false grant.commands
      applied r.1 r.2
    else applyRefused

/-- A specialist that was sent a task; none if its graph came to the recursion limit. -/
def worker (cfg : TurnConfig) (w : World) (taskId : Option String) : Option Update :=
  match specialistRun cfg.limits false taskId.isSome (w.specialist (taskId.getD "")) with
  | .done _ sub => some (workerUpdate sub taskId)
  | _ => none

def control (cfg : TurnConfig) (s : State) (w : World) : Option Update :=
  match specialistRun cfg.limits true s.controlViewed (w.specialist "K") with
  | .done _ sub => some (controlUpdate s sub)
  | _ => none

/-- What a task returns; none if it throws, or if `confirm` has nothing to resume with. -/
def nodeUpdate (cfg : TurnConfig) (w : World) (s : State) (resume : Option ResumeValue) (task : Task) : Option Update :=
  match task.node with
  | .intake => s.inbox.map (intake s)
  | .orient => some (orient s w.orient)
  | .planner => some (planner cfg s w.planner)
  | .diagnose => worker cfg w task.taskId
  | .analyse => worker cfg w task.taskId
  | .simulate => worker cfg w task.taskId
  | .join => some (join s)
  | .compose => some (compose cfg s w.findingRefused w.compose)
  | .verify => some (verify cfg s w.violations)
  | .control => control cfg s w
  | .planCheck => checked cfg s w
  | .confirm =>
    resume.map fun resume =>
      { decision := some (some (confirm cfg.toConfig w.ledger w.now w.threadId s resume).2) }
  | .apply => some (applyNode cfg s w)
  | .declined => some (declined s)
  | .finish => some {}

/-! ## Turns -/

structure Turn where
  values : State := {}
  next : List Task := []
  /-- What `confirm` is resumed with. -/
  resume : Option ResumeValue := none

/-- A turn whose supersteps returned `updates`. -/
def Turn.advance (cfg : TurnConfig) (t : Turn) (updates : List Update) : Turn where
  values := updates.foldl State.merge t.values
  next := nextTasks cfg.toConfig.limits (updates.foldl State.merge t.values) t.next
  resume := none

def superstep (cfg : TurnConfig) (w : World) (t : Turn) : Option Turn :=
  (t.next.mapM (nodeUpdate cfg w t.values t.resume)).map (t.advance cfg)

/-- At the end, or paused for a person. -/
def Turn.isOver (t : Turn) : Bool := t.next.isEmpty || (t.next = [⟨.confirm, none⟩] && t.resume.isNone)

/-! ## What a superstep does -/

section Merge

variable (s : State)

theorem merge_worker (sub : Sub) (taskId : Option String) : ∃ findings,
    s.merge (workerUpdate sub taskId) = { s with findings } := ⟨_, rfl⟩

theorem merge_workers : ∀ (updates : List Update) (s : State), (∀ u ∈ updates, ∃ sub id, u = workerUpdate sub id) →
    ∃ findings, updates.foldl State.merge s = { s with findings }
  | [], s, _ => ⟨s.findings, rfl⟩
  | u :: updates, s, h => by
    obtain ⟨sub, id, rfl⟩ := h u List.mem_cons_self
    obtain ⟨f, hf⟩ := merge_worker s sub id
    obtain ⟨f', hf'⟩ := merge_workers updates { s with findings := f } fun u hu => h u (List.mem_cons_of_mem _ hu)
    exact ⟨f', by rw [List.foldl_cons, hf, hf']⟩

end Merge

/-- A wave: specialists, each sent a task. -/
def Wave (tasks : List Task) : Prop :=
  tasks ≠ [] ∧ ∀ task ∈ tasks, ∃ (specialist : SpecialistNode) (taskId : String), task = ⟨specialist.node, some taskId⟩

/-- What can be scheduled: one node that is no specialist, or a wave, or nothing. -/
inductive Scheduled : List Task → Prop
  | nothing : Scheduled []
  | single (node : Node) (hnode : ∀ specialist : SpecialistNode, node ≠ specialist.node) : Scheduled [⟨node, none⟩]
  | wave {tasks : List Task} (hwave : Wave tasks) : Scheduled tasks

theorem wave_sends {s : State} {taskIds : List String} (h : sends s taskIds ≠ []) : Wave (sends s taskIds) := by
  refine ⟨h, ?_⟩
  intro task htask
  obtain ⟨taskId, -, hsend⟩ := List.mem_filterMap.mp htask
  cases hspec : s.tasks.get? taskId with
  | none => simp [hspec] at hsend
  | some spec =>
    simp only [hspec, Option.ite_none_right_eq_some, Option.some.injEq] at hsend
    exact ⟨spec.specialist, spec.taskId, hsend.2.symm⟩

theorem Wave.dedup {tasks : List Task} (h : Wave tasks) : Wave tasks.dedup := by
  refine ⟨fun hnil => h.1 ((List.dedup_eq_nil _).mp hnil), ?_⟩
  intro task htask
  exact h.2 task (List.mem_dedup.mp htask)

/-- Where the planner's edges lead. -/
theorem afterPlanner_cases (s : State) : afterPlanner s = [⟨.compose, none⟩] ∨ afterPlanner s = [⟨.finish, none⟩] ∨
    (afterPlanner s = [⟨.control, none⟩] ∧ s.mayControl = true ∧ s.findings.size = 0) ∨
    ∃ route, s.plannerRoute = some route ∧ route.next = .dispatch ∧ afterPlanner s = sends s route.taskIds ∧
      Wave (afterPlanner s) := by
  have hgo : ∀ tasks, (if 0 < s.findings.size then [(⟨.compose, none⟩ : Task)] else [⟨.finish, none⟩]) = tasks →
      tasks = [⟨.compose, none⟩] ∨ tasks = [⟨.finish, none⟩] := by
    rintro _ rfl
    split_ifs
    · exact Or.inl rfl
    · exact Or.inr rfl
  unfold afterPlanner
  cases hroute : s.plannerRoute with
  | none => exact (hgo _ rfl).imp id Or.inl
  | some route =>
    cases hnext : route.next with
    | dispatch =>
      simp only [hnext]
      by_cases hmissing : (s.context.isNone || s.request.isNone) = true
      · rw [if_pos hmissing]
        exact (hgo _ rfl).imp id Or.inl
      · rw [if_neg hmissing]
        by_cases hempty : (sends s route.taskIds).isEmpty = true
        · rw [if_pos hempty]
          exact (hgo _ rfl).imp id Or.inl
        · rw [if_neg hempty]
          exact Or.inr (Or.inr (Or.inr ⟨route, rfl, hnext, rfl, wave_sends (by simpa using hempty)⟩))
    | control =>
      simp only [hnext]
      split_ifs with hfindings hmay
      · exact Or.inl rfl
      · exact Or.inr (Or.inr (Or.inl ⟨rfl, hmay, by omega⟩))
      · exact Or.inr (Or.inl rfl)
    | compose => exact Or.inl (by simp [hnext])
    | finish => exact Or.inr (Or.inl (by simp [hnext]))

/-- The edges out of a node that is no specialist lead to what can be scheduled. -/
theorem scheduled_edges (limits : Limits) (s : State) (node : Node) : Scheduled (edges limits s node).dedup := by
  have hsingle : ∀ n : Node, (∀ specialist : SpecialistNode, n ≠ specialist.node) →
      Scheduled ([(⟨n, none⟩ : Task)]).dedup := by
    intro n hn
    rw [(List.nodup_singleton _).dedup]
    exact .single n hn
  cases node with
  | planner =>
    obtain h | h | ⟨h, -⟩ | ⟨route, -, -, h, hwave⟩ := afterPlanner_cases s
    · rw [edges, h]
      exact hsingle _ (by rintro (_ | _) <;> decide)
    · rw [edges, h]
      exact hsingle _ (by rintro (_ | _) <;> decide)
    · rw [edges, h]
      exact hsingle _ (by rintro (_ | _) <;> decide)
    · exact .wave hwave.dedup
  | finish => exact .nothing
  | orient =>
    refine hsingle _ ?_
    unfold afterOrient
    split_ifs <;> rintro (_ | _) <;> decide
  | verify =>
    refine hsingle _ ?_
    unfold afterVerify
    split_ifs <;> rintro (_ | _) <;> decide
  | control =>
    refine hsingle _ ?_
    unfold afterControl
    split_ifs <;> rintro (_ | _) <;> decide
  | planCheck =>
    refine hsingle _ ?_
    unfold afterPlanCheck
    split_ifs <;> rintro (_ | _) <;> decide
  | confirm =>
    refine hsingle _ ?_
    unfold afterConfirm
    split_ifs <;> rintro (_ | _) <;> decide
  | _ => exact hsingle _ (by rintro (_ | _) <;> decide)

/-- After a wave, the join, once. -/
theorem next_of_wave (limits : Limits) (s : State) {tasks : List Task} (h : Wave tasks) :
    nextTasks limits s tasks = [⟨.join, none⟩] := by
  have hedges : ∀ task ∈ tasks, edges limits s task.node = [⟨.join, none⟩] := by
    intro task htask
    obtain ⟨specialist, taskId, rfl⟩ := h.2 task htask
    cases specialist <;> rfl
  have hflat : tasks.flatMap (fun t => edges limits s t.node) = List.replicate tasks.length ⟨.join, none⟩ := by
    rw [List.eq_replicate_iff]
    refine ⟨?_, ?_⟩
    · rw [List.length_flatMap, List.map_congr_left fun task ht => congrArg List.length (hedges task ht)]
      simp
    · intro x hx
      obtain ⟨task, htask, hx⟩ := List.mem_flatMap.mp hx
      rw [hedges task htask] at hx
      exact List.mem_singleton.mp hx
  rw [nextTasks, hflat, List.replicate_dedup (by simpa using h.1)]

section Step

variable {cfg : TurnConfig} {w : World} {t t' : Turn}

theorem superstep_single {node : Node} (hnext : t.next = [⟨node, none⟩]) : superstep cfg w t =
    (nodeUpdate cfg w t.values t.resume ⟨node, none⟩).map fun u =>
      ⟨t.values.merge u, (edges cfg.limits.toLimits (t.values.merge u) node).dedup, none⟩ := by
  cases hu : nodeUpdate cfg w t.values t.resume ⟨node, none⟩ with
  | none => simp [superstep, hnext, hu]
  | some u => simp [superstep, hnext, hu, Turn.advance, nextTasks, TurnConfig.toConfig]

theorem worker_spec {taskId : Option String} {u : Update} (h : worker cfg w taskId = some u) :
    ∃ sub, u = workerUpdate sub taskId := by
  unfold worker at h
  split at h
  · exact ⟨_, (Option.some.inj h).symm⟩
  · cases h

theorem nodeUpdate_wave {s : State} {resume : Option ResumeValue} (specialist : SpecialistNode) (taskId : String) :
    nodeUpdate cfg w s resume ⟨specialist.node, some taskId⟩ = worker cfg w (some taskId) := by
  cases specialist <;> rfl

/-- **A wave** records findings and changes nothing else. -/
theorem superstep_wave (hwave : Wave t.next) (h : superstep cfg w t = some t') :
    ∃ findings, t' = ⟨{ t.values with findings }, [⟨.join, none⟩], none⟩ := by
  obtain ⟨updates, hupdates, rfl⟩ := Option.map_eq_some_iff.mp h
  obtain ⟨findings, hf⟩ := merge_workers updates t.values (by
    intro u hu
    obtain ⟨task, htask, hrun⟩ := exists_of_mem_right (mapM_eq_some.mp hupdates) hu
    obtain ⟨specialist, taskId, rfl⟩ := hwave.2 task htask
    rw [nodeUpdate_wave] at hrun
    obtain ⟨sub, rfl⟩ := worker_spec hrun
    exact ⟨sub, _, rfl⟩)
  exact ⟨findings, by rw [Turn.advance, hf, next_of_wave _ _ hwave]⟩

/-- **What a superstep does.** -/
theorem superstep_cases (hscheduled : Scheduled t.next) (h : superstep cfg w t = some t') :
    (t.next = [] ∧ t' = ⟨t.values, [], none⟩) ∨
    (∃ node u, t.next = [⟨node, none⟩] ∧ nodeUpdate cfg w t.values t.resume ⟨node, none⟩ = some u ∧
      t' = ⟨t.values.merge u, (edges cfg.limits.toLimits (t.values.merge u) node).dedup, none⟩) ∨
    (Wave t.next ∧ ∃ findings, t' = ⟨{ t.values with findings }, [⟨.join, none⟩], none⟩) := by
  cases hnext : t.next with
  | nil =>
    left
    simp only [superstep, hnext, List.mapM_nil, Option.pure_def, Option.map_some, Option.some.injEq] at h
    exact ⟨rfl, by rw [← h, Turn.advance, hnext]; rfl⟩
  | cons task rest =>
    rw [hnext] at hscheduled
    generalize htasks : task :: rest = tasks at hscheduled hnext
    cases hscheduled with
    | nothing => cases htasks
    | single node hnode =>
      right; left
      rw [superstep_single hnext] at h
      obtain ⟨u, hu, rfl⟩ := Option.map_eq_some_iff.mp h
      exact ⟨node, u, rfl, hu, rfl⟩
    | wave hwave =>
      right; right
      exact ⟨hwave, superstep_wave (hnext ▸ hwave) h⟩

end Step

/-! ## What a node may write -/

/-- The channels that an update leaves alone are those it does not name. -/
theorem Update.within_of {u : Update} {node : Node} (h : ∀ c, c ∉ WRITES node → u.names c = false) : u.Within node := by
  intro c hc
  by_contra hmem
  rw [h c hmem] at hc
  cases hc

theorem orient_within (s : State) (reply : OrientReply) : (orient s reply).Within .orient := by
  cases reply with
  | unreadable => exact (by decide : contextUnavailable.Within .orient)
  | read directory zoneKnown envelope multiple =>
    unfold orient
    dsimp only
    by_cases hzone : (s.request.isSome && !zoneKnown) = true
    · rw [if_pos hzone]
      decide
    · rw [if_neg hzone]
      apply Update.within_of
      intro c hc
      cases c <;> first | rfl | exact absurd (by decide) hc

theorem planner_within (cfg : TurnConfig) (s : State) (w : PlannerWorld) : (planner cfg s w).Within .planner := by
  have hdid := planner_did cfg s w
  generalize planner cfg s w = u at hdid
  apply Update.within_of
  intro c hc
  cases hdid with
  | moves notices => cases c <;> first | rfl | exact absurd (by decide) hc
  | refuses => cases c <;> first | rfl | exact absurd (by decide) hc
  | falls _ _ => cases c <;> first | rfl | exact absurd (by decide) hc
  | accepts _ _ _ => cases c <;> first | rfl | exact absurd (by decide) hc

theorem compose_within (cfg : TurnConfig) (s : State) (findingRefused : Bool) (reply : ComposeReply) :
    (compose cfg s findingRefused reply).Within .compose := by
  apply Update.within_of
  intro c hc
  unfold compose
  dsimp only
  by_cases hdrafts : cfg.limits.maxDrafts ≤ s.drafts
  · rw [if_pos hdrafts]
    cases c <;> first | rfl | exact absurd (by decide) hc
  · rw [if_neg hdrafts]
    cases reply <;> cases c <;> first | rfl | exact absurd (by decide) hc

theorem verify_within (cfg : TurnConfig) (s : State) (violations : List String) :
    (verify cfg s violations).Within .verify := by
  apply Update.within_of
  intro c hc
  rw [verify]
  by_cases hanswer : s.answer = false
  · rw [if_pos hanswer]
    cases c <;> first | rfl | exact absurd (by decide) hc
  · rw [if_neg hanswer]
    cases c <;> first | rfl | exact absurd (by decide) hc

theorem worker_within {cfg : TurnConfig} {w : World} {taskId : Option String} {u : Update} (specialist : SpecialistNode)
    (h : worker cfg w taskId = some u) : u.Within specialist.node := by
  obtain ⟨sub, rfl⟩ := worker_spec h
  apply Update.within_of
  intro c hc
  cases specialist <;> cases c <;> first | rfl | exact absurd (by decide) hc

theorem control_spec {cfg : TurnConfig} {s : State} {w : World} {u : Update} (h : control cfg s w = some u) :
    ∃ sub, u = controlUpdate s sub := by
  unfold control at h
  split at h
  · exact ⟨_, (Option.some.inj h).symm⟩
  · cases h

theorem control_within {cfg : TurnConfig} {s : State} {w : World} {u : Update} (h : control cfg s w = some u) :
    u.Within .control := by
  obtain ⟨sub, rfl⟩ := control_spec h
  apply Update.within_of
  intro c hc
  unfold controlUpdate
  cases s.controlTask with
  | none => cases c <;> first | rfl | exact absurd (by decide) hc
  | some task =>
    by_cases hviewed : s.controlViewed = true
    · simp only [hviewed, if_true]
      cases c <;> first | rfl | exact absurd (by decide) hc
    · simp only [hviewed]
      cases c <;> first | rfl | exact absurd (by decide) hc

theorem checked_spec {cfg : TurnConfig} {s : State} {w : World} {u : Update} (h : checked cfg s w = some u) :
    (∃ notice, u = dropPlan notice) ∨ ∃ plan, u = { pendingPlan := some (some plan) } := by
  unfold checked at h
  cases hcheck : planCheck cfg.toConfig s w.interrupted with
  | error u' =>
    simp only [hcheck, Option.some.injEq] at h
    exact Or.inl (h ▸ planCheck_error hcheck)
  | ok plan =>
    simp only [hcheck, Option.map_eq_some_iff] at h
    obtain ⟨reviewed, hreview, rfl⟩ := h
    cases reviewed with
    | error u' => exact Or.inl (review_error hreview)
    | ok commands =>
      cases w.interruptedAfter with
      | some why => exact Or.inl ⟨_, rfl⟩
      | none => exact Or.inr ⟨_, rfl⟩

theorem applyNode_spec (cfg : TurnConfig) (s : State) (w : World) :
    applyNode cfg s w = applyRefused ∨ ∃ outcomes halted, applyNode cfg s w = applied outcomes halted := by
  unfold applyNode
  split
  · exact Or.inl rfl
  · split_ifs
    · exact Or.inr ⟨_, _, rfl⟩
    · exact Or.inl rfl

theorem planner_of {cfg : TurnConfig} {w : World} {s : State} {resume : Option ResumeValue} {u : Update}
    (hu : nodeUpdate cfg w s resume ⟨.planner, none⟩ = some u) : PlannerDid cfg s u := by
  simp only [nodeUpdate, Option.some.injEq] at hu
  exact hu ▸ planner_did cfg s w.planner

/-- **A node writes only the channels of its row.** -/
theorem nodeUpdate_within {cfg : TurnConfig} {w : World} {s : State} {resume : Option ResumeValue} {task : Task}
    {u : Update} (h : nodeUpdate cfg w s resume task = some u) : u.Within task.node := by
  unfold nodeUpdate at h
  cases hnode : task.node with
  | intake =>
    intro c _
    exact c.mem_all
  | orient =>
    simp only [hnode, Option.some.injEq] at h
    exact h ▸ orient_within s w.orient
  | planner =>
    simp only [hnode, Option.some.injEq] at h
    exact h ▸ planner_within cfg s w.planner
  | diagnose =>
    simp only [hnode] at h
    exact worker_within .diagnose h
  | analyse =>
    simp only [hnode] at h
    exact worker_within .analyse h
  | simulate =>
    simp only [hnode] at h
    exact worker_within .simulate h
  | join =>
    simp only [hnode, Option.some.injEq] at h
    subst h
    exact Update.within_of fun c hc => by cases c <;> first | rfl | exact absurd (by decide) hc
  | compose =>
    simp only [hnode, Option.some.injEq] at h
    exact h ▸ compose_within cfg s w.findingRefused w.compose
  | verify =>
    simp only [hnode, Option.some.injEq] at h
    exact h ▸ verify_within cfg s w.violations
  | control =>
    simp only [hnode] at h
    exact control_within h
  | planCheck =>
    simp only [hnode] at h
    refine Update.within_of fun c hc => ?_
    obtain ⟨notice, rfl⟩ | ⟨plan, rfl⟩ := checked_spec h
    · cases c <;> first | rfl | exact absurd (by decide) hc
    · cases c <;> first | rfl | exact absurd (by decide) hc
  | confirm =>
    simp only [hnode, Option.map_eq_some_iff] at h
    obtain ⟨_, _, rfl⟩ := h
    exact Update.within_of fun c hc => by cases c <;> first | rfl | exact absurd (by decide) hc
  | apply =>
    simp only [hnode, Option.some.injEq] at h
    refine Update.within_of fun c hc => ?_
    obtain hrefused | ⟨outcomes, halted, happlied⟩ := applyNode_spec cfg s w
    · rw [← h, hrefused]
      cases c <;> first | rfl | exact absurd (by decide) hc
    · rw [← h, happlied]
      cases c <;> first | rfl | exact absurd (by decide) hc
  | declined =>
    simp only [hnode, Option.some.injEq] at h
    subst h
    exact Update.within_of fun c hc => by cases c <;> first | rfl | exact absurd (by decide) hc
  | finish =>
    simp only [hnode, Option.some.injEq] at h
    subst h
    exact Update.within_of fun c hc => by cases c <;> rfl

/-! ## What the nodes leave alone -/

section Frame

variable {s : State} {u : Update} {node : Node}

theorem Update.Within.unnamed (h : u.Within node) {c : Channel} (hc : c ∉ WRITES node) : u.names c = false := by
  by_contra hnames
  exact hc (h c (by simpa using hnames))

theorem Update.Within.scope (h : u.Within node) (hc : .scope ∉ WRITES node) : u.scope = none := by
  simpa [Update.names] using h.unnamed hc

theorem Update.Within.merge_scope (h : u.Within node) (hc : .scope ∉ WRITES node) : (s.merge u).scope = s.scope := by
  simp [State.merge, h.scope hc]

theorem Update.Within.merge_request (h : u.Within node) (hc : .request ∉ WRITES node) :
    (s.merge u).request = s.request := by
  have hu : u.request = none := by simpa [Update.names] using h.unnamed hc
  simp [State.merge, hu]

theorem Update.Within.merge_waves (h : u.Within node) (hc : .waves ∉ WRITES node) : (s.merge u).waves = s.waves := by
  have hu : u.waves = none := by simpa [Update.names] using h.unnamed hc
  simp [State.merge, hu]

theorem Update.Within.merge_tasks (h : u.Within node) (hc : .tasks ∉ WRITES node) : (s.merge u).tasks = s.tasks := by
  have hu : u.tasks = none := by simpa [Update.names] using h.unnamed hc
  simp [State.merge, hu]

theorem Update.Within.merge_findings (h : u.Within node) (hc : .findings ∉ WRITES node) :
    (s.merge u).findings = s.findings := by
  have hu : u.findings = none := by simpa [Update.names] using h.unnamed hc
  simp [State.merge, hu]

end Frame

/-! ## The graph as it was -/

/-- **A superstep of nodes that the models decide** is one that the graph allows, and leads where it leads. -/
theorem superstep_model {cfg : TurnConfig} {w : World} {s : Sys} {threadId : String} {r : Option ResumeValue}
    {t' : Turn}
    (hrun : s.runs threadId = some (.ready r)) (hmodel : ∀ task ∈ (s.threads threadId).next, task.node ∈ modelNodes)
    (h : superstep cfg w ⟨(s.threads threadId).values, (s.threads threadId).next, r⟩ = some t') :
    ∃ updates, step cfg.toConfig s (.model threadId updates) = some (s.complete cfg.toConfig threadId updates, []) ∧
      (s.complete cfg.toConfig threadId updates).threads threadId = ⟨t'.values, t'.next, none⟩ := by
  obtain ⟨updates, hupdates, rfl⟩ := Option.map_eq_some_iff.mp h
  have hall : List.Forall₂ (fun task u => nodeUpdate cfg w (s.threads threadId).values r task = some u)
      (s.threads threadId).next updates := mapM_eq_some.mp hupdates
  have hreturns : Returns (s.threads threadId).next updates := by
    refine ⟨hmodel, hall.length_eq.symm, ?_⟩
    intro x hx
    obtain ⟨i, hi, rfl⟩ := List.getElem_of_mem hx
    rw [List.getElem_zip]
    have hlt : i < min (s.threads threadId).next.length updates.length := by simpa using hi
    exact nodeUpdate_within (hall.get (by omega) (by omega))
  refine ⟨updates, ?_, ?_⟩
  · simp only [step, hrun, if_pos hreturns]
  · simp [Sys.complete, Sys.setThread, Sys.setRun, Turn.advance]

end DTwin.Copilot
