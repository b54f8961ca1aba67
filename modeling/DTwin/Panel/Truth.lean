import DTwin.Panel.Run

/-!
# DTwin.Panel.Truth — does the panel show what the turn says?

`Truth`: the cards are the turn's, every task of the turn has one chip with the turn's status, and no chip shows a task
as running that is not running in the turn.  What the state before the turn must be for that is `EventAgrees` for a turn
that comes as an event, and `TurnAgrees` for one that is read whole (`turn_is_truth_iff`).
-/

namespace DTwin.Panel

/-- The panel shows what `turn` says. -/
structure Truth (turn : CopilotTurn) (socket : String → Option SocketRun) (s : PanelState) : Prop where
  cards : evidenceCards s = turn.cards
  tasks : ∀ t ∈ turn.tasks, ∃ c, (chips s socket).filter (·.key = .task t.taskId) = [c] ∧
    c.tone = toneOf t.status ∧ c.ending = ENDING t.status
  running : ∀ c ∈ chips s socket, ∀ taskId, c.key = .task taskId → c.tone = .running →
    ∃ t ∈ turn.tasks, t.taskId = taskId ∧ t.status = .running

/-- The cards beside the run are the turn's: the turn is the run's, or says no more than its evidence events did. -/
def CardsAgree (turn : CopilotTurn) (live : LiveRun) : Prop :=
  live.start.isDecision = true ∨ (live.requestId ≠ none ∧ live.requestId = turn.requestId) ∨
    live.evidence.map EvidenceMeta.card = turn.cards

/-- The turn lists every task that the run still has running. -/
def RunningListed (turn : CopilotTurn) (live : LiveRun) : Prop :=
  ∀ t ∈ live.tasks, t.status = .running → t.taskId ∈ ids turn.tasks

/-- The run's tasks are shown as the turn has them. -/
def TasksAgree (turn : CopilotTurn) (tasks : List Task) : Prop :=
  (∀ t ∈ turn.tasks, ∃ u ∈ tasks, u.taskId = t.taskId ∧ toneOf u.status = toneOf t.status ∧
    ENDING u.status = ENDING t.status) ∧
    ∀ u ∈ tasks, u.status = .running → ∃ t ∈ turn.tasks, t.taskId = u.taskId ∧ t.status = .running

def EventAgrees (turn : CopilotTurn) (s : PanelState) : Prop :=
  ∀ live ∈ s.live, CardsAgree turn live ∧ RunningListed turn live

/-- While a stream is open the turn does not reach the run's tasks. -/
def TurnAgrees (turn : CopilotTurn) (s : PanelState) : Prop :=
  ∀ live ∈ s.live,
    (live.streaming = true → CardsAgree turn live ∧ TasksAgree turn live.tasks) ∧
      (live.streaming = false → live.requestId ≠ none → live.requestId = turn.requestId → RunningListed turn live)

variable {s : PanelState} {turn : CopilotTurn} {live : LiveRun} {socket : String → Option SocketRun}

/-! ## Chips -/

theorem toneOf_eq_running {status : TaskStatus} : toneOf status = .running ↔ status = .running := by
  constructor
  · intro h
    cases status with
    | running => rfl
    | _ => cases h
  · rintro rfl
    rfl

theorem phaseChip_key {c : Chip} (hc : c ∈ phaseChip s) : c.key = .phase := by
  unfold phaseChip at hc
  cases hlive : s.live with
  | none =>
    rw [hlive] at hc
    cases hc
  | some live =>
    simp only [hlive] at hc
    by_cases hlit : live.streaming = true ∧ ((activeNodes s).all fun node => (specialist? node).isNone) = true
    · rw [if_pos hlit] at hc
      cases hc
      rfl
    · rw [if_neg hlit] at hc
      cases hc

/-- The chips of a task are those of the tasks shown under its id. -/
theorem filter_chips (taskId : TaskId) :
    (chips s socket).filter (·.key = .task taskId) =
      ((shownTasks s).filter (·.taskId = taskId)).map (taskChip (simRows s socket)) := by
  have hphase : (phaseChip s).toList.filter (·.key = .task taskId) = [] := by
    refine List.filter_eq_nil_iff.mpr fun c hc => ?_
    rw [phaseChip_key (Option.mem_toList.mp hc), decide_eq_true_iff]
    exact ChipKey.noConfusion
  have hkey : ∀ t : Task, (taskChip (simRows s socket) t).key = .task taskId ↔ t.taskId = taskId :=
    fun t => ⟨ChipKey.task.inj, congrArg ChipKey.task⟩
  rw [chips, List.filter_append, hphase, List.append_nil, List.filter_map]
  congr 1
  refine List.filter_congr fun t _ => ?_
  rw [Function.comp_apply, decide_eq_decide]
  exact hkey t

theorem filter_id {tasks : List Task} (htasks : (ids tasks).Nodup) {u : Task} (hu : u ∈ tasks) :
    tasks.filter (·.taskId = u.taskId) = [u] := by
  induction tasks with
  | nil => cases hu
  | cons t tasks ih =>
    obtain ⟨hnot, hrest⟩ := List.nodup_cons.mp htasks
    rcases List.mem_cons.mp hu with rfl | hu
    · have hnone : tasks.filter (·.taskId = u.taskId) = [] := by
        refine List.filter_eq_nil_iff.mpr fun t ht => ?_
        rw [decide_eq_true_iff]
        exact fun h => hnot (List.mem_map.mpr ⟨t, ht, h⟩)
      have hself : decide (u.taskId = u.taskId) = true := decide_eq_true rfl
      rw [List.filter_cons, if_pos hself, hnone]
    · have hne : ¬ t.taskId = u.taskId := fun h => hnot (List.mem_map.mpr ⟨u, hu, h.symm⟩)
      rw [List.filter_cons_of_neg (by rwa [decide_eq_true_iff]), ih hrest hu]

/-- What the chips show is what the tasks are. -/
theorem truth_iff (hlisted : (ids (shownTasks s)).Nodup) :
    Truth turn socket s ↔ evidenceCards s = turn.cards ∧ TasksAgree turn (shownTasks s) := by
  constructor
  · rintro ⟨hcards, htasks, hrunning⟩
    refine ⟨hcards, fun t ht => ?_, fun u hu hstatus => ?_⟩
    · obtain ⟨c, hc, htone, hending⟩ := htasks t ht
      rw [filter_chips] at hc
      have hmem : c ∈ ((shownTasks s).filter (·.taskId = t.taskId)).map (taskChip (simRows s socket)) :=
        hc ▸ List.mem_singleton_self c
      obtain ⟨u, hu, rfl⟩ := List.mem_map.mp hmem
      obtain ⟨hshown, hid⟩ := List.mem_filter.mp hu
      exact ⟨u, hshown, of_decide_eq_true hid, htone, hending⟩
    · exact hrunning (taskChip (simRows s socket) u) (List.mem_append_left _ (List.mem_map_of_mem hu)) u.taskId rfl
        (toneOf_eq_running.mpr hstatus)
  · rintro ⟨hcards, htasks, hrunning⟩
    refine ⟨hcards, fun t ht => ?_, fun c hc taskId hkey htone => ?_⟩
    · obtain ⟨u, hu, hid, htone, hending⟩ := htasks t ht
      refine ⟨taskChip (simRows s socket) u, ?_, htone, hending⟩
      rw [filter_chips, ← hid, filter_id hlisted hu, List.map_singleton]
    · rcases List.mem_append.mp hc with hc | hc
      · obtain ⟨u, hu, rfl⟩ := List.mem_map.mp hc
        obtain ⟨t, ht, hid, hstatus⟩ := hrunning u hu (toneOf_eq_running.mp htone)
        exact ⟨t, ht, hid.trans (ChipKey.task.inj hkey), hstatus⟩
      · rw [phaseChip_key (Option.mem_toList.mp hc)] at hkey
        cases hkey

/-- The same with a run on screen. -/
theorem truth_live_iff (hlive : (ids live.tasks).Nodup) :
    Truth turn socket ⟨some turn, some live⟩ ↔
      evidenceCards ⟨some turn, some live⟩ = turn.cards ∧ TasksAgree turn live.tasks := by
  have hlisted : (ids (shownTasks ⟨some turn, some live⟩)).Nodup := hlive
  exact truth_iff hlisted

/-! ## Cards -/

theorem evidenceCards_none : evidenceCards ⟨some turn, none⟩ = turn.cards := rfl

theorem evidenceCards_some : evidenceCards ⟨some turn, some live⟩ = turn.cards ↔ CardsAgree turn live := by
  unfold evidenceCards currentTurn CardsAgree
  by_cases hown : live.start.isDecision = true ∨ (live.requestId ≠ none ∧ live.requestId = turn.requestId)
  · simp only [if_pos hown, true_iff]
    rcases hown with hdecision | hid
    · exact Or.inl hdecision
    · exact Or.inr (Or.inl hid)
  · simp only [if_neg hown]
    rw [← or_assoc, or_iff_right hown]
    rfl

/-! ## Tasks -/

theorem tasksAgree_self (turn : CopilotTurn) : TasksAgree turn turn.tasks :=
  ⟨fun t ht => ⟨t, ht, rfl, rfl, rfl⟩, fun t ht hstatus => ⟨t, ht, rfl, hstatus⟩⟩

/-- Of the merged tasks only those may be running elsewhere that the turn does not list. -/
theorem tasksAgree_merge (hlive : (ids live.tasks).Nodup) :
    TasksAgree turn (mergeTasks live.tasks turn.tasks) ↔ RunningListed turn live := by
  constructor
  · rintro ⟨-, hrunning⟩ u hu hstatus
    by_contra hnot
    obtain ⟨t, ht, hid, -⟩ := hrunning u ((mem_mergeTasks hlive turn.distinct).mpr (Or.inr ⟨hu, hnot⟩)) hstatus
    exact hnot (List.mem_map.mpr ⟨t, ht, hid⟩)
  · intro hlisted
    refine ⟨fun t ht => ⟨t, (mem_mergeTasks hlive turn.distinct).mpr (Or.inl ht), rfl, rfl, rfl⟩, ?_⟩
    intro u hu hstatus
    rcases (mem_mergeTasks hlive turn.distinct).mp hu with ht | ⟨hu, hnot⟩
    · exact ⟨u, ht, rfl, hstatus⟩
    · exact absurd (hlisted u hu hstatus) hnot

/-! ## The last turn -/

/-- With no run on screen the turn is all there is. -/
theorem truth_alone : Truth turn socket ⟨some turn, none⟩ := by
  have hlisted : (ids (shownTasks ⟨some turn, none⟩)).Nodup := turn.distinct
  exact (truth_iff hlisted).mpr ⟨evidenceCards_none, tasksAgree_self turn⟩

theorem truth_event_iff (hlisted : Listed s) :
    Truth turn socket (foldEvent s (.turn turn)) ↔ EventAgrees turn s := by
  cases hs : s.live with
  | none =>
    have hfold : foldEvent s (.turn turn) = ⟨some turn, none⟩ := by rw [foldEvent, hs]; rfl
    rw [hfold]
    refine iff_of_true truth_alone fun live hlive => ?_
    rw [hs] at hlive
    cases hlive
  | some live =>
    have hlive := (hlisted live hs).1
    have hfold : foldEvent s (.turn turn) =
        ⟨some turn, some { live with tasks := mergeTasks live.tasks turn.tasks, ended := some .turn }⟩ := by
      rw [foldEvent, hs]
      rfl
    have hagrees : EventAgrees turn s ↔ CardsAgree turn live ∧ RunningListed turn live := by
      unfold EventAgrees
      rw [hs]
      exact ⟨fun h => h live rfl, fun h live' hlive' => Option.some.inj hlive' ▸ h⟩
    rw [hfold, hagrees, truth_live_iff (nodup_mergeTasks hlive), evidenceCards_some]
    exact and_congr Iff.rfl (tasksAgree_merge hlive)

theorem truth_turn_iff (hlisted : Listed s) : Truth turn socket (applyTurn s turn) ↔ TurnAgrees turn s := by
  cases hs : s.live with
  | none =>
    have happly : applyTurn s turn = ⟨some turn, none⟩ := by rw [applyTurn, hs]
    rw [happly]
    refine iff_of_true truth_alone fun live hlive => ?_
    rw [hs] at hlive
    cases hlive
  | some live =>
    have hlive := (hlisted live hs).1
    have hagrees : TurnAgrees turn s ↔
        (live.streaming = true → CardsAgree turn live ∧ TasksAgree turn live.tasks) ∧
          (live.streaming = false → live.requestId ≠ none → live.requestId = turn.requestId →
            RunningListed turn live) := by
      unfold TurnAgrees
      rw [hs]
      exact ⟨fun h => h live rfl, fun h live' hlive' => Option.some.inj hlive' ▸ h⟩
    rw [hagrees]
    cases hstreaming : live.streaming with
    | true =>
      have happly : applyTurn s turn = ⟨some turn, some live⟩ := by
        rw [applyTurn, hs]
        simp only [hstreaming, Bool.true_eq_false, false_and, if_false, if_true]
      rw [happly, truth_live_iff hlive, evidenceCards_some]
      exact ⟨fun h => ⟨fun _ => h, fun hf => Bool.noConfusion hf⟩, fun h => h.1 rfl⟩
    | false =>
      by_cases hid : live.requestId ≠ none ∧ live.requestId = turn.requestId
      · have happly : applyTurn s turn =
            ⟨some turn, some { live with tasks := mergeTasks live.tasks turn.tasks }⟩ := by
          rw [applyTurn, hs]
          exact if_pos ⟨hstreaming, hid⟩
        have hcards : CardsAgree turn { live with tasks := mergeTasks live.tasks turn.tasks } := Or.inr (Or.inl hid)
        rw [happly, truth_live_iff (nodup_mergeTasks hlive), evidenceCards_some, and_iff_right hcards]
        refine (tasksAgree_merge hlive).trans ⟨fun h => ⟨fun hf => Bool.noConfusion hf, fun _ _ _ => h⟩, fun h => ?_⟩
        exact h.2 rfl hid.1 hid.2
      · have happly : applyTurn s turn = ⟨some turn, none⟩ := by
          rw [applyTurn, hs]
          simp only [hstreaming, true_and, if_neg hid, Bool.false_eq_true, if_false]
        rw [happly]
        refine iff_of_true truth_alone ⟨fun hf => Bool.noConfusion hf, fun _ hne heq => absurd ⟨hne, heq⟩ hid⟩

/-- **The turn is the truth.**  After any folds, and whatever the socket says, the panel shows what the turn folded last
says exactly if the run before it agrees. -/
theorem turn_is_truth_iff (folds : List Fold) (events : List CopilotEvent) (turn : CopilotTurn)
    (socket : String → Option SocketRun) :
    (Truth turn socket (applyEvents (run folds) (events ++ [.turn turn])) ↔
        EventAgrees turn (applyEvents (run folds) events)) ∧
      (Truth turn socket (applyTurn (run folds) turn) ↔ TurnAgrees turn (run folds)) := by
  refine ⟨?_, truth_turn_iff (run_listed folds)⟩
  rw [applyEvents, List.foldl_append]
  exact truth_event_iff ((run_listed folds).applyEvents events)

/-- A turn of request `r` without tasks. -/
def emptyTurn : CopilotTurn := ⟨some "r", false, [], [], false, List.nodup_nil⟩

/-- The run on screen is the turn's, and a task that the turn does not list is shown as running. -/
theorem unlisted_task_runs :
    let s := run [.beginMessage "q", .applyEvents [.accepted (some "r"), .task (.t 0) .diagnose none .running,
      .turn emptyTurn]]
    (∀ live ∈ s.live, live.requestId = emptyTurn.requestId) ∧ s.live.isSome = true ∧
      ¬ Truth emptyTurn (fun _ => none) s := by
  refine ⟨fun live hlive => ?_, rfl, fun h => ?_⟩
  · cases hlive
    rfl
  · obtain ⟨t, ht, -⟩ := h.running _ (List.mem_append_left _ (.head _)) (.t 0) rfl rfl
    cases ht

end DTwin.Panel
