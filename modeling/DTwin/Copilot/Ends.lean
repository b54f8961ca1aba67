import DTwin.Copilot.Authority

/-!
# DTwin.Copilot.Ends — every turn ends

A turn runs from a new message, or from a decision that resumes `confirm`, until the graph is at its end or paused for
a person, whatever the outside answers.  Each superstep brings it nearer: the waves the planner may still send, the
drafts that may still be written and the one run of the controller are counted by `Node.left`.  The recursion limit of
the graph (`turn_within`), and that of each specialist's graph (`specialist_ends`), is never reached.
-/

namespace DTwin.Copilot

open OrderedMap Ranking Result

/-- A turn, run until it is over or until the recursion limit. -/
def turnRun (cfg : TurnConfig) (world : ℕ → World) (t : Turn) : Ended Turn :=
  run (superstep cfg) Turn.isOver world cfg.limits.recursionLimit 0 t

/-- Where a turn starts: a new message on what the thread holds, or a decision on a plan that waits there. -/
inductive Turn.Starts : Turn → Prop
  | message (values : State) (inbox : InboxMessage) :
      Turn.Starts ⟨{ values with inbox := some inbox }, [⟨.intake, none⟩], none⟩
  | decision (values : State) (resume : ResumeValue) : Turn.Starts ⟨values, [⟨.confirm, none⟩], some resume⟩

/-! ## How much is left -/

section Left

variable (limits : TurnLimits)

/-- The drafts that may still be written, one at least being asked for. -/
def draftsLeft (s : State) : ℕ := max 1 (limits.maxDrafts - s.drafts)

def composeLeft (s : State) : ℕ := 2 * draftsLeft limits s + 1 + if s.mayControl then 3 else 0

/-- From the first draft on, with a controller to come. -/
def answerLeft : ℕ := 2 * max 1 limits.maxDrafts + 4

def plannerLeft (waves : ℕ) : ℕ := 1 + 3 * (limits.maxWaves - waves) + answerLeft limits

/-- How many supersteps are left from a node on, at most. -/
def Node.left (s : State) (resumed : Bool) : Node → ℕ
  | .intake => plannerLeft limits 0 + 2
  | .orient => plannerLeft limits s.waves + 1
  | .planner => plannerLeft limits s.waves
  | .diagnose => plannerLeft limits s.waves + 2
  | .analyse => plannerLeft limits s.waves + 2
  | .simulate => plannerLeft limits s.waves + 2
  | .join => plannerLeft limits s.waves + 1
  | .compose => composeLeft limits s
  | .verify => if s.drafts < limits.maxDrafts then composeLeft limits s + 1 else 2 + if s.mayControl then 3 else 0
  | .control => 2 * draftsLeft limits s + 2
  | .planCheck => 2
  | .confirm => if resumed then 3 else 0
  | .apply => 2
  | .declined => 2
  | .finish => 1

def Turn.rank (t : Turn) : ℕ :=
  match t.next with
  | [] => 0
  | task :: _ => task.node.left limits t.values t.resume.isSome

theorem composeLeft_le (s : State) : composeLeft limits s ≤ answerLeft limits := by
  unfold composeLeft answerLeft draftsLeft
  split_ifs
  · omega
  · omega

theorem controlLeft_le (s : State) : 2 * draftsLeft limits s + 2 ≤ answerLeft limits := by
  unfold answerLeft draftsLeft
  omega

end Left

/-- What a node needs to do its part. -/
def Ready (s : State) : Node → Prop
  | .intake => s.inbox.isSome = true
  | .planner => s.context.isSome = true
  | .diagnose => s.context.isSome = true
  | .analyse => s.context.isSome = true
  | .simulate => s.context.isSome = true
  | .join => s.context.isSome = true
  | .compose => s.context.isSome = true
  | .verify => s.context.isSome = true
  | .control => s.controlViewed = true
  | _ => True

/-- What holds at every superstep of a turn. -/
structure Running (t : Turn) : Prop where
  scheduled : Scheduled t.next
  ready : ∀ task ∈ t.next, Ready t.values task.node

/-! ## Every node returns -/

section Returns

variable {cfg : TurnConfig} {w : World} {s : State}

theorem review_askDryRuns (dryRun : ProposedCommand → DryRun) : ∀ commands : List ProposedCommand,
    ∃ reviewed, review s commands (askDryRuns dryRun commands) = some reviewed := by
  intro commands
  induction commands with
  | nil => exact ⟨_, rfl⟩
  | cons c commands ih =>
    unfold askDryRuns
    cases dryRun c with
    | allowed v =>
      obtain ⟨reviewed, hreviewed⟩ := ih
      exact ⟨_, by rw [review, hreviewed]; rfl⟩
    | refused message => exact ⟨_, rfl⟩
    | unreachable => exact ⟨_, rfl⟩

theorem checked_returns (s : State) (w : World) : ∃ u, checked cfg s w = some u := by
  unfold checked
  cases planCheck cfg.toConfig s w.interrupted with
  | error u => exact ⟨u, rfl⟩
  | ok plan =>
    obtain ⟨reviewed, hreviewed⟩ := review_askDryRuns (s := s) w.dryRun plan.commands
    dsimp only
    rw [hreviewed]
    exact ⟨_, rfl⟩

theorem worker_returns (hlimit : 2 * cfg.limits.maxSpecialistTurns + 2 ≤ cfg.limits.recursionLimit)
    (taskId : Option String) : ∃ u, worker cfg w taskId = some u := by
  obtain ⟨n, sub, hrun, -⟩ := specialist_ends cfg.limits false taskId.isSome (w.specialist (taskId.getD "")) hlimit
  exact ⟨workerUpdate sub taskId, by rw [worker, hrun]⟩

theorem control_returns (hlimit : 2 * cfg.limits.maxSpecialistTurns + 2 ≤ cfg.limits.recursionLimit) :
    ∃ u, control cfg s w = some u := by
  obtain ⟨n, sub, hrun, -⟩ := specialist_ends cfg.limits true s.controlViewed (w.specialist "K") hlimit
  exact ⟨controlUpdate s sub, by rw [control, hrun]⟩

theorem nodeUpdate_returns (hlimit : 2 * cfg.limits.maxSpecialistTurns + 2 ≤ cfg.limits.recursionLimit)
    {resume : Option ResumeValue} {task : Task} (hready : Ready s task.node)
    (hresume : task.node = .confirm → resume.isSome = true) : ∃ u, nodeUpdate cfg w s resume task = some u := by
  unfold nodeUpdate
  cases hnode : task.node with
  | intake =>
    rw [hnode] at hready
    obtain ⟨inbox, hinbox⟩ := Option.isSome_iff_exists.mp hready
    exact ⟨intake s inbox, by rw [hinbox]; rfl⟩
  | diagnose => exact worker_returns hlimit task.taskId
  | analyse => exact worker_returns hlimit task.taskId
  | simulate => exact worker_returns hlimit task.taskId
  | control => exact control_returns hlimit
  | planCheck => exact checked_returns s w
  | confirm =>
    obtain ⟨v, rfl⟩ := Option.isSome_iff_exists.mp (hresume hnode)
    exact ⟨_, rfl⟩
  | _ => exact ⟨_, rfl⟩

end Returns

/-! ## Every superstep brings a turn nearer to its end -/

section Descends

variable {cfg : TurnConfig} {w : World} {s : State} {resume : Option ResumeValue} {u : Update}

theorem Update.Within.merge_context {node : Node} (h : u.Within node) (hc : .context ∉ WRITES node) :
    (s.merge u).context = s.context := by
  have hu : u.context = none := by simpa [Update.names] using h.unnamed hc
  simp [State.merge, hu]

theorem Update.Within.merge_drafts {node : Node} (h : u.Within node) (hc : .drafts ∉ WRITES node) :
    (s.merge u).drafts = s.drafts := by
  have hu : u.drafts = none := by simpa [Update.names] using h.unnamed hc
  simp [State.merge, hu]

theorem Update.Within.merge_mayControl {node : Node} (h : u.Within node) (htask : .controlTask ∉ WRITES node)
    (hscope : .scope ∉ WRITES node) (hrequest : .request ∉ WRITES node) : (s.merge u).mayControl = s.mayControl := by
  have hu : u.controlTask = none := by simpa [Update.names] using h.unnamed htask
  have hkept : (s.merge u).controlTask = s.controlTask := by simp [State.merge, hu]
  rw [State.mayControl, hkept, h.merge_scope hscope, h.merge_request hrequest, State.mayControl]

theorem viewed_of_mayControl (hcontext : s.context.isSome = true) (hmay : s.mayControl = true) :
    s.controlViewed = true := by
  simp only [State.mayControl, Bool.and_eq_true] at hmay
  have htask : s.controlTask.isSome = true := by
    cases htask : s.controlTask with
    | none => simp [htask] at hmay
    | some task => rfl
  have hrequest : s.request.isSome = true := by
    cases hrequest : s.request with
    | none => simp [hrequest] at hmay
    | some request => rfl
  simp [State.controlViewed, htask, hcontext, hrequest]

/-- A controller that had a task to look at has done it. -/
theorem control_done (hviewed : s.controlViewed = true) (sub : Sub) :
    (s.merge (controlUpdate s sub)).mayControl = false := by
  cases htask : s.controlTask with
  | none => simp [State.controlViewed, htask] at hviewed
  | some task => simp [State.mayControl, State.merge, controlUpdate, htask, hviewed]

theorem compose_drafts (s : State) (findingRefused : Bool) (reply : ComposeReply) :
    (s.merge (compose cfg s findingRefused reply)).drafts =
      if cfg.limits.maxDrafts ≤ s.drafts then s.drafts else s.drafts + 1 := by
  unfold compose
  dsimp only
  by_cases hdrafts : cfg.limits.maxDrafts ≤ s.drafts
  · rw [if_pos hdrafts, if_pos hdrafts]
    rfl
  · rw [if_neg hdrafts, if_neg hdrafts]
    cases reply <;> rfl

/-- **The edges** lead to nodes from which less is left, and which have what they need. -/
theorem edges_descend {node : Node} (hready : Ready s node) (hu : nodeUpdate cfg w s resume ⟨node, none⟩ = some u) :
    ∀ task ∈ edges cfg.limits.toLimits (s.merge u) node, Ready (s.merge u) task.node ∧
      task.node.left cfg.limits (s.merge u) false < node.left cfg.limits s resume.isSome := by
  have hwithin : u.Within node := nodeUpdate_within hu
  intro task htask
  cases node with
  | intake =>
    simp only [nodeUpdate, Option.map_eq_some_iff] at hu
    obtain ⟨inbox, -, rfl⟩ := hu
    rw [List.mem_singleton.mp htask]
    refine ⟨trivial, ?_⟩
    show plannerLeft cfg.limits 0 + 1 < plannerLeft cfg.limits 0 + 2
    omega
  | orient =>
    rw [List.mem_singleton.mp htask]
    dsimp only
    unfold afterOrient
    split_ifs with hcontext
    · refine ⟨trivial, ?_⟩
      show 1 < plannerLeft cfg.limits s.waves + 1
      unfold plannerLeft
      omega
    · refine ⟨?_, ?_⟩
      · simp only [Bool.or_eq_true, not_or, Bool.not_eq_true, Option.isNone_eq_false_iff] at hcontext
        exact hcontext.1
      · show plannerLeft cfg.limits (s.merge u).waves < plannerLeft cfg.limits s.waves + 1
        rw [hwithin.merge_waves (by decide)]
        omega
  | planner =>
    have hcontext : (s.merge u).context.isSome = true := by
      rw [hwithin.merge_context (by decide)]
      exact hready
    have hanswer : answerLeft cfg.limits < plannerLeft cfg.limits s.waves := by
      unfold plannerLeft
      omega
    obtain hgo | hgo | ⟨hgo, hmay, -⟩ | ⟨route, hroute, hnext, hgo, hwave⟩ := afterPlanner_cases (s.merge u)
    · rw [edges, hgo] at htask
      rw [List.mem_singleton.mp htask]
      refine ⟨hcontext, ?_⟩
      exact Nat.lt_of_le_of_lt (composeLeft_le cfg.limits (s.merge u)) hanswer
    · rw [edges, hgo] at htask
      rw [List.mem_singleton.mp htask]
      refine ⟨trivial, ?_⟩
      show 1 < plannerLeft cfg.limits s.waves
      unfold plannerLeft answerLeft
      omega
    · rw [edges, hgo] at htask
      rw [List.mem_singleton.mp htask]
      refine ⟨viewed_of_mayControl hcontext hmay, ?_⟩
      exact Nat.lt_of_le_of_lt (controlLeft_le cfg.limits (s.merge u)) hanswer
    · obtain ⟨-, hwaves, hlt⟩ := planner_dispatch (planner_of hu) hroute hnext
      obtain ⟨specialist, taskId, rfl⟩ := hwave.2 task htask
      have hleft : plannerLeft cfg.limits (s.merge u).waves + 2 < plannerLeft cfg.limits s.waves := by
        rw [hwaves]
        unfold plannerLeft
        omega
      cases specialist with
      | diagnose => exact ⟨hcontext, hleft⟩
      | analyse => exact ⟨hcontext, hleft⟩
      | simulate => exact ⟨hcontext, hleft⟩
  | join =>
    rw [List.mem_singleton.mp htask]
    refine ⟨?_, ?_⟩
    · show (s.merge u).context.isSome = true
      rw [hwithin.merge_context (by decide)]
      exact hready
    · show plannerLeft cfg.limits (s.merge u).waves < plannerLeft cfg.limits s.waves + 1
      rw [hwithin.merge_waves (by decide)]
      omega
  | compose =>
    rw [List.mem_singleton.mp htask]
    refine ⟨?_, ?_⟩
    · show (s.merge u).context.isSome = true
      rw [hwithin.merge_context (by decide)]
      exact hready
    · have hmay := hwithin.merge_mayControl (s := s) (by decide) (by decide) (by decide)
      have hdrafts : (s.merge u).drafts = if cfg.limits.maxDrafts ≤ s.drafts then s.drafts else s.drafts + 1 := by
        simp only [nodeUpdate, Option.some.injEq] at hu
        rw [← hu]
        exact compose_drafts s _ _
      simp only [Node.left, composeLeft, draftsLeft, hmay, hdrafts]
      split_ifs
      all_goals omega
  | verify =>
    have hcontext : (s.merge u).context.isSome = true := by
      rw [hwithin.merge_context (by decide)]
      exact hready
    have hmay := hwithin.merge_mayControl (s := s) (by decide) (by decide) (by decide)
    have hdrafts := hwithin.merge_drafts (s := s) (by decide)
    rw [List.mem_singleton.mp htask]
    dsimp only
    unfold afterVerify
    split_ifs with hredraft hcontrol
    · refine ⟨hcontext, ?_⟩
      simp only [Bool.and_eq_true, decide_eq_true_eq] at hredraft
      have hlt : s.drafts < cfg.limits.maxDrafts := hdrafts ▸ hredraft.2
      simp only [Node.left, composeLeft, draftsLeft, hmay, hdrafts, if_pos hlt]
      omega
    · refine ⟨viewed_of_mayControl hcontext hcontrol, ?_⟩
      rw [hmay] at hcontrol
      simp only [Node.left, composeLeft, draftsLeft, hcontrol, hdrafts, if_true]
      split_ifs
      all_goals omega
    · refine ⟨trivial, ?_⟩
      simp only [Node.left, composeLeft, draftsLeft]
      split_ifs
      all_goals omega
  | control =>
    have hcontext : (s.merge u).context.isSome = true := by
      rw [hwithin.merge_context (by decide)]
      simp only [Ready, State.controlViewed, Bool.and_eq_true] at hready
      exact hready.1.2
    have hdrafts := hwithin.merge_drafts (s := s) (by decide)
    have hdone : (s.merge u).mayControl = false := by
      obtain ⟨sub, rfl⟩ := control_spec hu
      exact control_done hready sub
    rw [List.mem_singleton.mp htask]
    dsimp only
    unfold afterControl
    split_ifs
    · refine ⟨trivial, ?_⟩
      simp only [Node.left, draftsLeft]
      omega
    · refine ⟨hcontext, ?_⟩
      simp only [Node.left, composeLeft, draftsLeft, hdone, hdrafts, Bool.false_eq_true, if_false]
      omega
  | planCheck =>
    rw [List.mem_singleton.mp htask]
    dsimp only
    unfold afterPlanCheck
    split_ifs
    · exact ⟨trivial, by simp [Node.left]⟩
    · exact ⟨trivial, by simp [Node.left]⟩
  | confirm =>
    have hresume : resume.isSome = true := by
      simp only [nodeUpdate, Option.map_eq_some_iff] at hu
      obtain ⟨v, rfl, -⟩ := hu
      rfl
    rw [List.mem_singleton.mp htask]
    dsimp only
    unfold afterConfirm
    split_ifs
    · exact ⟨trivial, by simp [Node.left, hresume]⟩
    · exact ⟨trivial, by simp [Node.left, hresume]⟩
  | apply =>
    rw [List.mem_singleton.mp htask]
    exact ⟨trivial, by simp [Node.left]⟩
  | declined =>
    rw [List.mem_singleton.mp htask]
    exact ⟨trivial, by simp [Node.left]⟩
  | finish => cases htask
  | _ =>
    rw [List.mem_singleton.mp htask]
    refine ⟨?_, ?_⟩
    · show (s.merge u).context.isSome = true
      rw [hwithin.merge_context (by decide)]
      exact hready
    · show plannerLeft cfg.limits (s.merge u).waves + 1 < plannerLeft cfg.limits s.waves + 2
      rw [hwithin.merge_waves (by decide)]
      omega

/-- The rank is what is left from the first of the scheduled nodes. -/
theorem rank_lt {t : Turn} {n : ℕ} (hpos : 0 < n)
    (h : ∀ task ∈ t.next, task.node.left cfg.limits t.values t.resume.isSome < n) : t.rank cfg.limits < n := by
  unfold Turn.rank
  cases hnext : t.next with
  | nil => exact hpos
  | cons task rest => exact h task (hnext ▸ List.mem_cons_self)

theorem rank_wave {t : Turn} (hwave : Wave t.next) : t.rank cfg.limits = plannerLeft cfg.limits t.values.waves + 2 := by
  unfold Turn.rank
  cases hnext : t.next with
  | nil => exact absurd hnext hwave.1
  | cons task rest =>
    obtain ⟨specialist, taskId, rfl⟩ := hwave.2 task (hnext ▸ List.mem_cons_self)
    cases specialist <;> rfl

theorem left_pos (node : Node) (hconfirm : node = .confirm → resume.isSome = true) :
    0 < node.left cfg.limits s resume.isSome := by
  cases node with
  | confirm => simp [Node.left, hconfirm rfl]
  | compose =>
    simp only [Node.left, composeLeft]
    omega
  | planner =>
    simp only [Node.left, plannerLeft]
    omega
  | verify =>
    simp only [Node.left]
    split_ifs
    all_goals omega
  | _ => exact Nat.succ_pos _

/-- A turn that is not over and comes to `confirm` has a decision to resume it with. -/
theorem resumed_of_not_over {t : Turn} (hscheduled : Scheduled t.next) (hover : t.isOver = false) {task : Task}
    (htask : task ∈ t.next) (hnode : task.node = .confirm) : t.resume.isSome = true := by
  by_contra hnone
  have hresume : t.resume.isNone = true := by simpa using hnone
  generalize hnext : t.next = tasks at hscheduled htask
  cases hscheduled with
  | nothing => cases htask
  | single node _ =>
    rw [List.mem_singleton.mp htask] at hnode
    subst hnode
    simp [Turn.isOver, hnext, hresume] at hover
  | wave hwave =>
    obtain ⟨specialist, taskId, rfl⟩ := hwave.2 task htask
    cases specialist <;> cases hnode

/-- **A superstep** is defined while the turn is not over, and brings it nearer to its end. -/
theorem turn_descends (hlimit : 2 * cfg.limits.maxSpecialistTurns + 2 ≤ cfg.limits.recursionLimit) :
    Descends (superstep cfg) Turn.isOver Running (Turn.rank cfg.limits) := by
  intro w t hrunning hover
  obtain ⟨updates, hupdates⟩ := exists_mapM fun task htask => nodeUpdate_returns hlimit (hrunning.ready task htask)
    (resumed_of_not_over hrunning.scheduled hover htask)
  have hs : superstep cfg w t = some (t.advance cfg updates) := by
    rw [superstep, hupdates]
    rfl
  refine ⟨_, hs, ?_⟩
  obtain ⟨hnil, -⟩ | ⟨node, u, hnext, hu, hadvance⟩ | ⟨hwave, findings, hadvance⟩ :=
    superstep_cases hrunning.scheduled hs
  · simp [Turn.isOver, hnil] at hover
  · have hmem : (⟨node, none⟩ : Task) ∈ t.next := hnext ▸ List.mem_singleton_self _
    have hedges := edges_descend (hrunning.ready _ hmem) hu
    have hrank : t.rank cfg.limits = node.left cfg.limits t.values t.resume.isSome := by rw [Turn.rank, hnext]
    rw [hadvance]
    refine ⟨⟨scheduled_edges _ _ _, ?_⟩, ?_⟩
    · intro task htask
      exact (hedges task (List.mem_dedup.mp htask)).1
    · rw [hrank]
      refine rank_lt (left_pos node ?_) ?_
      · intro hnode
        exact resumed_of_not_over hrunning.scheduled hover hmem hnode
      · intro task htask
        exact (hedges task (List.mem_dedup.mp htask)).2
  · have hcontext : t.values.context.isSome = true := by
      obtain ⟨task, htask⟩ := List.exists_mem_of_ne_nil _ hwave.1
      have hready := hrunning.ready task htask
      obtain ⟨specialist, taskId, rfl⟩ := hwave.2 task htask
      cases specialist <;> exact hready
    rw [hadvance, rank_wave hwave]
    refine ⟨⟨.single .join (by rintro (_ | _) <;> decide), ?_⟩, ?_⟩
    · intro task htask
      rw [List.mem_singleton.mp htask]
      exact hcontext
    · show plannerLeft cfg.limits t.values.waves + 1 < plannerLeft cfg.limits t.values.waves + 2
      omega

theorem running_of_starts {t : Turn} (h : t.Starts) : Running t := by
  cases h with
  | message values inbox =>
    refine ⟨.single .intake (by rintro (_ | _) <;> decide), ?_⟩
    intro task htask
    rw [List.mem_singleton.mp htask]
    rfl
  | decision values resume =>
    refine ⟨.single .confirm (by rintro (_ | _) <;> decide), ?_⟩
    intro task htask
    rw [List.mem_singleton.mp htask]
    trivial

theorem rank_of_starts {t : Turn} (h : t.Starts) : t.rank cfg.limits ≤ plannerLeft cfg.limits 0 + 2 := by
  cases h with
  | message values inbox => exact Nat.le_refl _
  | decision values resume =>
    show 3 ≤ plannerLeft cfg.limits 0 + 2
    unfold plannerLeft
    omega

/-- **A turn ends** within what is left at its start, if the recursion limit allows as much. -/
theorem turn_within {t : Turn} (h : t.Starts) (world : ℕ → World)
    (hspecialist : 2 * cfg.limits.maxSpecialistTurns + 2 ≤ cfg.limits.recursionLimit)
    (hlimit : plannerLeft cfg.limits 0 + 2 ≤ cfg.limits.recursionLimit) :
    ∃ n t', turnRun cfg world t = .done n t' ∧ n ≤ plannerLeft cfg.limits 0 + 2 ∧ t'.isOver = true := by
  have hrank : t.rank cfg.limits ≤ plannerLeft cfg.limits 0 + 2 := rank_of_starts h
  obtain ⟨n, t', hrun, hn, hover, -⟩ := run_ends (turn_descends hspecialist) world cfg.limits.recursionLimit 0 t
    (running_of_starts h) (by omega)
  exact ⟨n, t', hrun, by omega, hover⟩

end Descends

/-- **Every turn ends.**  With the default limits, whatever is answered to it, the graph comes to its end or to the
pause at `confirm` in fewer supersteps than its recursion limit, and so does a specialist's graph within two a turn
and two more. -/
theorem every_turn_ends (cfg : TurnConfig) (hlimits : cfg.limits = .DEFAULT_LIMITS) (world : ℕ → World) (t : Turn)
    (ht : t.Starts) :
    (∃ n t', turnRun cfg world t = .done n t' ∧ n < cfg.limits.recursionLimit ∧
      (t'.next = [] ∨ t'.next = [⟨.confirm, none⟩])) ∧
    ∀ (control viewed : Bool) (specialist : ℕ → SubWorld), ∃ n s,
      specialistRun cfg.limits control viewed specialist = .done n s ∧ n ≤ 2 * cfg.limits.maxSpecialistTurns + 2 := by
  have hspecialist : 2 * cfg.limits.maxSpecialistTurns + 2 ≤ cfg.limits.recursionLimit := by
    rw [hlimits]
    decide
  have hleft : plannerLeft cfg.limits 0 + 2 < cfg.limits.recursionLimit := by
    rw [hlimits]
    decide
  refine ⟨?_, fun control viewed specialist => specialist_ends cfg.limits control viewed specialist hspecialist⟩
  obtain ⟨n, t', hrun, hn, hover⟩ := turn_within ht world hspecialist hleft.le
  refine ⟨n, t', hrun, by omega, ?_⟩
  simp only [Turn.isOver, Bool.or_eq_true, List.isEmpty_iff, Bool.and_eq_true, decide_eq_true_eq] at hover
  exact hover.imp id And.left

/-- A planner that only ever sends tasks. -/
theorem every_turn_ends_oneTask :
    (∃ n t', turnRun twoWavesConfig (fun _ => oneTask "z1") ⟨{ inbox := some ⟨"r1", "Why is it warm?", true⟩ },
        [⟨.intake, none⟩], none⟩ = .done n t' ∧ n < twoWavesConfig.limits.recursionLimit ∧
      (t'.next = [] ∨ t'.next = [⟨.confirm, none⟩])) ∧
    ∀ (control viewed : Bool) (specialist : ℕ → SubWorld), ∃ n s,
      specialistRun twoWavesConfig.limits control viewed specialist = .done n s ∧
        n ≤ 2 * twoWavesConfig.limits.maxSpecialistTurns + 2 :=
  every_turn_ends twoWavesConfig rfl (fun _ => oneTask "z1") _ (.message {} ⟨"r1", "Why is it warm?", true⟩)

end DTwin.Copilot
