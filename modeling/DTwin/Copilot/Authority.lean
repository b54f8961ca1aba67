import DTwin.Copilot.Supersteps

/-!
# DTwin.Copilot.Authority — authority before data

The thread of one conversation, turn after turn: new messages, decisions that resume it, supersteps with whatever the
outside answers, and the checkpointer letting it go.  What is observed is every run of a task, with the state it ran
on and what it returned.

A request's scope is written at most once, by a planner that has seen no finding; `plan_check` and `confirm` come up
only where the scope allows control and the person may command; `simulate` only where the scope allows simulation
(`authority_before_data`).
-/

namespace DTwin.Copilot

open OrderedMap Result

/-- A task was run. -/
structure Ran where
  task : Task
  before : State
  update : Update

inductive ThreadAct
  | message (inbox : InboxMessage)
  | decide (resume : ResumeValue)
  | superstep (w : World)
  /-- The checkpointer lets the thread go. -/
  | evict

def threadStep (cfg : TurnConfig) (t : Turn) : ThreadAct → Option (Turn × List Ran)
  | .message inbox => some (⟨{ t.values with inbox := some inbox }, [⟨.intake, none⟩], none⟩, [])
  | .decide resume => if t.next = [⟨.confirm, none⟩] then some ({ t with resume := some resume }, []) else none
  | .superstep w =>
    if t.isOver then none
    else (t.next.mapM (nodeUpdate cfg w t.values t.resume)).map fun updates =>
      (t.advance cfg updates, (t.next.zip updates).map fun e => ⟨e.1, t.values, e.2⟩)
  | .evict => some ({}, [])

def thread (cfg : TurnConfig) : Machine Turn ThreadAct Ran := ⟨threadStep cfg⟩

/-- The request may control. -/
def State.controls (s : State) : Bool :=
  (s.scope.map Scope.allowControl).getD false && (s.request.map RequestStamp.mayCommand).getD false

/-- The request may simulate. -/
def State.simulates (s : State) : Bool := (s.scope.map Scope.allowSimulation).getD false

/-- A scope was written; `RESET` writes none. -/
def Ran.writesScope (r : Ran) : Bool := r.update.scope.join.isSome

def countScope (n : ℕ) (r : Ran) : ℕ := if r.task.node = .intake then 0 else if r.writesScope then n + 1 else n

/-- How often the scope was written since the last intake. -/
def scopeWrites (h : List Ran) : ℕ := h.foldl countScope 0

/-- Where a node may run. -/
def Permitted (s : State) : Node → Prop
  | .orient => s.scope = none
  | .planner => s.scope ≠ none → 0 < s.waves
  | .diagnose => s.scope ≠ none ∧ 0 < s.waves
  | .analyse => s.scope ≠ none ∧ 0 < s.waves
  | .simulate => s.simulates = true ∧ 0 < s.waves
  | .join => s.scope ≠ none ∧ 0 < s.waves
  | .control => s.controls = true
  | .planCheck => s.controls = true
  | .confirm => s.controls = true
  | _ => True

/-- What holds of a thread at every superstep. -/
structure Bounded (t : Turn) (h : List Ran) : Prop where
  scheduled : Scheduled t.next
  permitted : ∀ task ∈ t.next, Permitted t.values task.node
  unscoped : t.values.scope = none → t.values.findings.size = 0
  simulated : ∀ id spec, t.values.tasks.get? id = some spec → spec.specialist = .simulate → t.values.simulates = true
  once : scopeWrites h ≤ 1
  unwritten : t.values.scope = none → (∀ task ∈ t.next, task.node = .intake) ∨ scopeWrites h = 0
  past : ∀ r ∈ h, r.writesScope = true →
    r.task.node = .planner ∧ r.before.scope = none ∧ r.before.findings.size = 0

/-! ## The tasks -/

theorem Update.Within.merge_controls {s : State} {u : Update} {node : Node} (h : u.Within node)
    (hscope : .scope ∉ WRITES node) (hrequest : .request ∉ WRITES node) : (s.merge u).controls = s.controls := by
  rw [State.controls, h.merge_scope hscope, h.merge_request hrequest, State.controls]

theorem mem_foldl_set {ν : Type} {k : String} {v : ν} : ∀ (l : List (String × ν)) (m : OrderedMap String ν),
    (l.foldl (fun m e => m.set e.1 e.2) m).get? k = some v → (k, v) ∈ l ∨ m.get? k = some v
  | [], _, h => Or.inr h
  | e :: l, m, h => by
    obtain hmem | hset := mem_foldl_set l (m.set e.1 e.2) h
    · exact Or.inl (List.mem_cons_of_mem e hmem)
    · rw [get?_set] at hset
      split_ifs at hset with hk
      · left
        rw [← Option.some.inj hset, ← hk]
        exact List.mem_cons_self
      · exact Or.inr hset

theorem mem_mergeRecord {ν : Type} {held inc : OrderedMap String ν} {k : String} {v : ν}
    (h : (mergeRecord held (some inc)).get? k = some v) : inc.get? k = some v ∨ held.get? k = some v := by
  obtain hmem | hheld := mem_foldl_set inc.entries held h
  · exact Or.inl (mem_entries.mp hmem)
  · exact Or.inr hheld

/-- The join keeps the specialist of every task. -/
theorem join_specialist {s : State} {id : String} {spec : TaskSpec} (h : (s.merge (join s)).tasks.get? id = some spec) :
    ∃ spec', s.tasks.get? id = some spec' ∧ spec'.specialist = spec.specialist := by
  obtain hdone | hheld := mem_mergeRecord h
  · obtain hmem | hempty := mem_foldl_set _ _ hdone
    · obtain ⟨e, he, hsome⟩ := List.mem_filterMap.mp hmem
      simp only [Option.ite_none_right_eq_some, Option.some.injEq, Prod.mk.injEq] at hsome
      obtain ⟨-, rfl, rfl⟩ := hsome
      exact ⟨e.2, mem_entries.mp he, rfl⟩
    · cases hempty
  · exact ⟨spec, hheld, rfl⟩

theorem dispatched_specialist {s : State} {d : PlannerDecision} {spec : TaskSpec} (h : spec ∈ dispatched s d) :
    ∃ t ∈ d.tasks, t.specialist = spec.specialist := by
  obtain ⟨e, he, rfl⟩ := List.mem_map.mp h
  exact ⟨e.1, (List.mem_zipIdx' he).2 ▸ List.getElem_mem _, rfl⟩

/-! ## The planner -/

section Planner

variable {cfg : TurnConfig} {s : State} {u : Update}

theorem accept_simulates {d : PlannerDecision} {v : PlanValidation} {first : Option FirstFlags}
    (hfirst : s.scope = none → first.isSome = true) :
    (s.merge (accept cfg s d v first)).simulates = (effectiveScope s first).allowSimulation := by
  have hscope := accept_scope cfg d v hfirst
  cases hs : (s.merge (accept cfg s d v first)).scope with
  | none => simp [hs] at hscope
  | some scope =>
    simp only [hs, Option.map_some, Option.some.injEq] at hscope
    rw [State.simulates, hs, ← hscope]
    rfl

/-- The planner writes a scope only where none is held. -/
theorem planner_scope (hdid : PlannerDid cfg s u) (hwaves : s.scope ≠ none → 0 < s.waves)
    (hwrites : u.scope.join.isSome = true) : s.scope = none := by
  cases hdid with
  | moves notices => cases hwrites
  | refuses => cases hwrites
  | falls hrequest hmay =>
    by_contra hscope
    have := hwaves hscope
    simp only [mayFallBack, Bool.and_eq_true, decide_eq_true_eq] at hmay
    omega
  | accepts _ _ _ =>
    cases hs : s.scope with
    | none => rfl
    | some held => simp [accept, hs] at hwrites

/-- Once a scope is held, the planner keeps it. -/
theorem planner_keeps (hdid : PlannerDid cfg s u) (hwaves : s.scope ≠ none → 0 < s.waves) (hscope : s.scope ≠ none) :
    (s.merge u).scope = s.scope := by
  cases hu : u.scope with
  | none => simp [State.merge, hu]
  | some inc =>
    cases inc with
    | none =>
      cases hdid with
      | moves notices => cases hu
      | refuses => cases hu
      | falls _ _ => cases hu
      | accepts _ _ _ =>
        obtain ⟨held, hs⟩ := Option.ne_none_iff_exists'.mp hscope
        simp [accept, hs] at hu
    | some scope => exact absurd (planner_scope hdid hwaves (by simp [hu])) hscope

/-- The planner sends nothing to simulate that the request may not simulate. -/
theorem planner_simulated (hdid : PlannerDid cfg s u) (hwaves : s.scope ≠ none → 0 < s.waves)
    (hsimulated : ∀ id spec, s.tasks.get? id = some spec → spec.specialist = .simulate → s.simulates = true) :
    ∀ id spec, (s.merge u).tasks.get? id = some spec → spec.specialist = .simulate → (s.merge u).simulates = true := by
  have hheld : ∀ id spec, s.tasks.get? id = some spec → spec.specialist = .simulate → (s.merge u).simulates = true := by
    intro id spec hget hsim
    have hs := hsimulated id spec hget hsim
    have hscope : s.scope ≠ none := by
      intro hnone
      simp [State.simulates, hnone] at hs
    rw [State.simulates, planner_keeps hdid hwaves hscope]
    exact hs
  intro id spec hget hsim
  cases hdid with
  | moves notices => exact hheld id spec hget hsim
  | refuses => exact hheld id spec hget hsim
  | falls _ _ => exact hheld id spec hget hsim
  | @accepts d first evidenceIds _ hfirst hvalid =>
    cases htasks : (accept cfg s d (validatePlan cfg evidenceIds s (effectiveScope s first) d) first).tasks with
    | none =>
      rw [State.merge] at hget
      simp only [htasks, Option.map_none, Option.getD_none] at hget
      exact hheld id spec hget hsim
    | some inc =>
      have hinc : inc = some (ofList TaskSpec.taskId (dispatched s d)) := by
        simp only [accept] at htasks
        split_ifs at htasks
        exact (Option.some.inj htasks).symm
      rw [State.merge] at hget
      simp only [htasks, Option.map_some, Option.getD_some, hinc] at hget
      obtain hnew | hold := mem_mergeRecord hget
      · rw [get?_ofList] at hnew
        obtain ⟨t, ht, heq⟩ := dispatched_specialist (lastOf_some hnew).1
        rw [accept_simulates hfirst]
        exact simulate_of_valid hvalid ht (heq.trans hsim)
      · exact hheld id spec hold hsim

end Planner

/-! ## What a superstep keeps -/

section Single

variable {cfg : TurnConfig} {w : World} {s : State} {resume : Option ResumeValue} {u : Update} {h : List Ran}

/-- The state after a node that writes no scope, as far as authority goes. -/
theorem simulates_of_within {node : Node} (hu : u.Within node) (hscope : .scope ∉ WRITES node) :
    (s.merge u).simulates = s.simulates := by
  rw [State.simulates, hu.merge_scope hscope, State.simulates]

theorem intake_of (hu : nodeUpdate cfg w s resume ⟨.intake, none⟩ = some u) : ∃ inbox, u = intake s inbox := by
  simp only [nodeUpdate, Option.map_eq_some_iff] at hu
  obtain ⟨inbox, -, rfl⟩ := hu
  exact ⟨inbox, rfl⟩

theorem mayControl_controls (h : s.mayControl = true) : s.controls = true := by
  simp only [State.mayControl, Bool.and_eq_true] at h
  simp only [State.controls, Bool.and_eq_true]
  exact ⟨h.1.2, h.2⟩

theorem scope_of_controls (h : s.controls = true) : s.scope ≠ none := by
  intro hnone
  simp [State.controls, hnone] at h

theorem scope_of_simulates (h : s.simulates = true) : s.scope ≠ none := by
  intro hnone
  simp [State.simulates, hnone] at h

/-- **The edges** lead only where a node may run. -/
theorem permitted_edges {node : Node} (hp : Permitted s node)
    (hsimulated : ∀ id spec, s.tasks.get? id = some spec → spec.specialist = .simulate → s.simulates = true)
    (hu : nodeUpdate cfg w s resume ⟨node, none⟩ = some u) :
    ∀ task ∈ edges cfg.limits.toLimits (s.merge u) node, Permitted (s.merge u) task.node := by
  have hwithin : u.Within node := nodeUpdate_within hu
  intro task htask
  cases node with
  | intake =>
    obtain ⟨inbox, rfl⟩ := intake_of hu
    rw [List.mem_singleton.mp htask]
    rfl
  | orient =>
    rw [List.mem_singleton.mp htask]
    dsimp only
    unfold afterOrient
    split_ifs
    · trivial
    · intro hscope
      exact absurd ((hwithin.merge_scope (by decide)).trans hp) hscope
  | planner =>
    have hdid := planner_of hu
    obtain hgo | hgo | ⟨hgo, hmay, -⟩ | ⟨route, hroute, hnext, hgo, hwave⟩ := afterPlanner_cases (s.merge u)
    · rw [edges, hgo] at htask
      rw [List.mem_singleton.mp htask]
      trivial
    · rw [edges, hgo] at htask
      rw [List.mem_singleton.mp htask]
      trivial
    · rw [edges, hgo] at htask
      rw [List.mem_singleton.mp htask]
      exact mayControl_controls hmay
    · obtain ⟨hscope, hwaves, -⟩ := planner_dispatch hdid hroute hnext
      have hbegun : 0 < (s.merge u).waves := by omega
      rw [edges, hgo] at htask
      obtain ⟨taskId, -, hsend⟩ := List.mem_filterMap.mp htask
      cases hspec : (s.merge u).tasks.get? taskId with
      | none => simp [hspec] at hsend
      | some spec =>
        simp only [hspec, Option.ite_none_right_eq_some, Option.some.injEq] at hsend
        rw [← hsend.2]
        cases hsim : spec.specialist with
        | diagnose => exact ⟨hscope, hbegun⟩
        | analyse => exact ⟨hscope, hbegun⟩
        | simulate => exact ⟨planner_simulated hdid hp hsimulated taskId spec hspec hsim, hbegun⟩
  | join =>
    rw [List.mem_singleton.mp htask]
    intro _
    rw [hwithin.merge_waves (by decide)]
    exact hp.2
  | compose =>
    rw [List.mem_singleton.mp htask]
    trivial
  | verify =>
    rw [List.mem_singleton.mp htask]
    dsimp only
    unfold afterVerify
    split_ifs with hredraft hmay
    · trivial
    · exact mayControl_controls hmay
    · trivial
  | control =>
    rw [List.mem_singleton.mp htask]
    dsimp only
    unfold afterControl
    split_ifs
    · exact (hwithin.merge_controls (by decide) (by decide)).trans hp
    · trivial
  | planCheck =>
    rw [List.mem_singleton.mp htask]
    dsimp only
    unfold afterPlanCheck
    split_ifs
    · exact (hwithin.merge_controls (by decide) (by decide)).trans hp
    · trivial
  | confirm =>
    rw [List.mem_singleton.mp htask]
    dsimp only
    unfold afterConfirm
    split_ifs
    · trivial
    · trivial
  | apply =>
    rw [List.mem_singleton.mp htask]
    trivial
  | declined =>
    rw [List.mem_singleton.mp htask]
    trivial
  | finish => cases htask
  | _ =>
    rw [List.mem_singleton.mp htask]
    refine ⟨?_, ?_⟩
    · rw [hwithin.merge_scope (by decide)]
      first | exact hp.1 | exact scope_of_simulates hp.1
    · rw [hwithin.merge_waves (by decide)]
      exact hp.2

/-- While no scope is held there are no findings. -/
theorem unscoped_merge {node : Node} (hp : Permitted s node) (hunscoped : s.scope = none → s.findings.size = 0)
    (hu : nodeUpdate cfg w s resume ⟨node, none⟩ = some u) (hnone : (s.merge u).scope = none) :
    (s.merge u).findings.size = 0 := by
  have hwithin : u.Within node := nodeUpdate_within hu
  have hkept : .scope ∉ WRITES node → s.scope = none := fun hc => (hwithin.merge_scope hc).symm.trans hnone
  cases node with
  | intake =>
    obtain ⟨inbox, rfl⟩ := intake_of hu
    rfl
  | planner =>
    rw [hwithin.merge_findings (by decide)]
    apply hunscoped
    by_contra hscope
    exact hscope ((planner_keeps (planner_of hu) hp hscope).symm.trans hnone)
  | control => exact absurd (hkept (by decide)) (scope_of_controls hp)
  | diagnose => exact absurd (hkept (by decide)) hp.1
  | analyse => exact absurd (hkept (by decide)) hp.1
  | simulate => exact absurd (hkept (by decide)) (scope_of_simulates hp.1)
  | _ =>
    rw [hwithin.merge_findings (by decide)]
    exact hunscoped (hkept (by decide))

/-- Every task that simulates is one that the request may simulate. -/
theorem simulated_merge {node : Node} (hp : Permitted s node)
    (hsimulated : ∀ id spec, s.tasks.get? id = some spec → spec.specialist = .simulate → s.simulates = true)
    (hu : nodeUpdate cfg w s resume ⟨node, none⟩ = some u) :
    ∀ id spec, (s.merge u).tasks.get? id = some spec → spec.specialist = .simulate → (s.merge u).simulates = true := by
  have hwithin : u.Within node := nodeUpdate_within hu
  intro id spec hget hsim
  cases node with
  | intake =>
    obtain ⟨inbox, rfl⟩ := intake_of hu
    cases hget
  | planner => exact planner_simulated (planner_of hu) hp hsimulated id spec hget hsim
  | join =>
    simp only [nodeUpdate, Option.some.injEq] at hu
    subst hu
    obtain ⟨spec', hget', heq⟩ := join_specialist hget
    exact hsimulated id spec' hget' (heq.trans hsim)
  | _ =>
    rw [hwithin.merge_tasks (by decide)] at hget
    rw [simulates_of_within hwithin (by decide)]
    exact hsimulated id spec hget hsim

/-- A node that writes a scope is the planner, and none was held. -/
theorem writes_planner {node : Node} (hp : Permitted s node) (hu : nodeUpdate cfg w s resume ⟨node, none⟩ = some u)
    (hwrites : u.scope.join.isSome = true) : node = .planner ∧ s.scope = none := by
  have hwithin : u.Within node := nodeUpdate_within hu
  cases node with
  | planner => exact ⟨rfl, planner_scope (planner_of hu) hp hwrites⟩
  | intake =>
    obtain ⟨inbox, rfl⟩ := intake_of hu
    cases hwrites
  | _ =>
    rw [hwithin.scope (by decide)] at hwrites
    cases hwrites

theorem scopeWrites_concat (h : List Ran) (r : Ran) : scopeWrites (h ++ [r]) = countScope (scopeWrites h) r := by
  rw [scopeWrites, List.foldl_append]
  rfl

/-- Runs that write no scope and take in no message leave the count alone. -/
theorem scopeWrites_append : ∀ (rs h : List Ran), (∀ r ∈ rs, r.task.node ≠ .intake ∧ r.writesScope = false) →
    scopeWrites (h ++ rs) = scopeWrites h
  | [], h, _ => by rw [List.append_nil]
  | r :: rs, h, hquiet => by
    obtain ⟨hnode, hwrites⟩ := hquiet r List.mem_cons_self
    rw [List.append_cons h r rs, scopeWrites_append rs _ fun r hr => hquiet r (List.mem_cons_of_mem _ hr),
      scopeWrites_concat, countScope, if_neg hnode, hwrites]
    rfl

end Single

/-! ## Runs -/

section Runs

variable {cfg : TurnConfig} {t t' : Turn} {h o : List Ran}

theorem bounded_init : Bounded {} [] where
  scheduled := .nothing
  permitted := by
    intro task htask
    cases htask
  unscoped := fun _ => rfl
  simulated := by
    intro id spec hget
    cases hget
  once := Nat.zero_le 1
  unwritten := fun _ => Or.inr rfl
  past := by
    intro r hr
    cases hr

theorem bounded_message (inbox : InboxMessage) (hb : Bounded t h) :
    Bounded ⟨{ t.values with inbox := some inbox }, [⟨.intake, none⟩], none⟩ h where
  scheduled := .single .intake (by rintro (_ | _) <;> decide)
  permitted := by
    intro task htask
    rw [List.mem_singleton.mp htask]
    trivial
  unscoped := hb.unscoped
  simulated := hb.simulated
  once := hb.once
  unwritten := by
    intro _
    left
    intro task htask
    rw [List.mem_singleton.mp htask]
  past := hb.past

theorem bounded_evict (hb : Bounded t h) : Bounded {} h where
  scheduled := .nothing
  permitted := bounded_init.permitted
  unscoped := fun _ => rfl
  simulated := bounded_init.simulated
  once := hb.once
  unwritten := by
    intro _
    left
    intro task htask
    cases htask
  past := hb.past

/-- A superstep of one node. -/
theorem bounded_single {w : World} {node : Node} {u : Update} (hb : Bounded t h) (hnext : t.next = [⟨node, none⟩])
    (hu : nodeUpdate cfg w t.values t.resume ⟨node, none⟩ = some u) :
    Bounded ⟨t.values.merge u, (edges cfg.limits.toLimits (t.values.merge u) node).dedup, none⟩
      (h ++ [⟨⟨node, none⟩, t.values, u⟩]) := by
  have hp : Permitted t.values node := hb.permitted ⟨node, none⟩ (hnext ▸ List.mem_singleton_self _)
  have hwithin : u.Within node := nodeUpdate_within hu
  have hfresh : node ≠ .intake → t.values.scope = none → scopeWrites h = 0 := by
    intro hnode hscope
    obtain hintake | hzero := hb.unwritten hscope
    · exact absurd (hintake ⟨node, none⟩ (hnext ▸ List.mem_singleton_self _)) hnode
    · exact hzero
  refine ⟨scheduled_edges _ _ _, ?_, unscoped_merge hp hb.unscoped hu, simulated_merge hp hb.simulated hu, ?_, ?_, ?_⟩
  · intro task htask
    exact permitted_edges hp hb.simulated hu task (List.mem_dedup.mp htask)
  · rw [scopeWrites_concat, countScope]
    by_cases hintake : node = .intake
    · rw [if_pos hintake]
      exact Nat.zero_le 1
    · rw [if_neg hintake]
      split_ifs with hwrites
      · rw [hfresh hintake (writes_planner hp hu hwrites).2]
      · exact hb.once
  · intro hnone
    right
    rw [scopeWrites_concat, countScope]
    by_cases hintake : node = .intake
    · rw [if_pos hintake]
    · rw [if_neg hintake]
      have hscope : t.values.scope = none := by
        by_contra hheld
        by_cases hplanner : node = .planner
        · subst hplanner
          exact hheld ((planner_keeps (planner_of hu) hp hheld).symm.trans hnone)
        · refine hheld ((hwithin.merge_scope ?_).symm.trans hnone)
          cases node <;> first | decide | exact absurd rfl hintake | exact absurd rfl hplanner
      split_ifs with hwrites
      · exfalso
        obtain ⟨scope, hjoin⟩ := Option.isSome_iff_exists.mp hwrites
        have hinc : u.scope = some (some scope) := Option.join_eq_some_iff.mp hjoin
        simp [State.merge, hinc, mergeScope] at hnone
      · exact hfresh hintake hscope
  · intro r hr hwrites
    obtain hr | hr := List.mem_append.mp hr
    · exact hb.past r hr hwrites
    · rw [List.mem_singleton.mp hr] at hwrites ⊢
      obtain ⟨hnode, hscope⟩ := writes_planner hp hu hwrites
      exact ⟨hnode, hscope, hb.unscoped hscope⟩

/-- A wave. -/
theorem bounded_wave {w : World} {updates : List Update} (hb : Bounded t h) (hwave : Wave t.next)
    (hupdates : t.next.mapM (nodeUpdate cfg w t.values t.resume) = some updates) :
    Bounded (t.advance cfg updates) (h ++ (t.next.zip updates).map fun e => ⟨e.1, t.values, e.2⟩) := by
  have hs : superstep cfg w t = some (t.advance cfg updates) := by
    rw [superstep, hupdates]
    rfl
  obtain ⟨findings, hadvance⟩ := superstep_wave hwave hs
  have hheld : t.values.scope ≠ none ∧ 0 < t.values.waves := by
    obtain ⟨task, htask⟩ := List.exists_mem_of_ne_nil _ hwave.1
    have hp := hb.permitted task htask
    obtain ⟨specialist, taskId, rfl⟩ := hwave.2 task htask
    cases specialist with
    | diagnose => exact hp
    | analyse => exact hp
    | simulate => exact ⟨scope_of_simulates hp.1, hp.2⟩
  have hquiet : ∀ r ∈ (t.next.zip updates).map (fun e => (⟨e.1, t.values, e.2⟩ : Ran)),
      r.task.node ≠ .intake ∧ r.writesScope = false := by
    intro r hr
    obtain ⟨⟨task, u⟩, he, rfl⟩ := List.mem_map.mp hr
    have htask : task ∈ t.next := (List.of_mem_zip he).1
    have hall := mapM_eq_some.mp hupdates
    obtain ⟨task', htask', hrun⟩ := exists_of_mem_right hall (List.of_mem_zip he).2
    obtain ⟨specialist', taskId', rfl⟩ := hwave.2 task' htask'
    rw [nodeUpdate_wave] at hrun
    obtain ⟨sub, rfl⟩ := worker_spec hrun
    obtain ⟨specialist, taskId, rfl⟩ := hwave.2 task htask
    refine ⟨?_, rfl⟩
    cases specialist <;> simp [SpecialistNode.node]
  rw [hadvance]
  refine ⟨.single .join (by rintro (_ | _) <;> decide), ?_, ?_, hb.simulated, ?_, ?_, ?_⟩
  · intro task htask
    rw [List.mem_singleton.mp htask]
    exact hheld
  · intro hnone
    exact absurd hnone hheld.1
  · rw [scopeWrites_append _ _ hquiet]
    exact hb.once
  · intro hnone
    exact absurd hnone hheld.1
  · intro r hr hwrites
    obtain hr | hr := List.mem_append.mp hr
    · exact hb.past r hr hwrites
    · rw [(hquiet r hr).2] at hwrites
      cases hwrites

theorem bounded_step {a : ThreadAct} (hb : Bounded t h) (hs : (thread cfg).step t a = some (t', o)) :
    Bounded t' (h ++ o) := by
  cases a with
  | message inbox =>
    simp only [thread, threadStep, Option.some.injEq, Prod.mk.injEq] at hs
    obtain ⟨rfl, rfl⟩ := hs
    rw [List.append_nil]
    exact bounded_message inbox hb
  | decide resume =>
    simp only [thread, threadStep, Option.ite_none_right_eq_some, Option.some.injEq, Prod.mk.injEq] at hs
    obtain ⟨-, rfl, rfl⟩ := hs
    rw [List.append_nil]
    exact ⟨hb.scheduled, hb.permitted, hb.unscoped, hb.simulated, hb.once, hb.unwritten, hb.past⟩
  | superstep w =>
    simp only [thread, threadStep] at hs
    split_ifs at hs with hover
    obtain ⟨updates, hupdates, heq⟩ := Option.map_eq_some_iff.mp hs
    simp only [Prod.mk.injEq] at heq
    obtain ⟨rfl, rfl⟩ := heq
    have hsuper : superstep cfg w t = some (t.advance cfg updates) := by rw [superstep, hupdates]; rfl
    obtain ⟨hnil, -⟩ | ⟨node, u, hnext, hu, hadvance⟩ | ⟨hwave, -⟩ := superstep_cases hb.scheduled hsuper
    · simp [Turn.isOver, hnil] at hover
    · have hone : updates = [u] := by
        rw [hnext] at hupdates
        simpa [hu] using hupdates.symm
      rw [hadvance, hnext, hone]
      exact bounded_single hb hnext hu
    · exact bounded_wave hb hwave hupdates
  | evict =>
    simp only [thread, threadStep, Option.some.injEq, Prod.mk.injEq] at hs
    obtain ⟨rfl, rfl⟩ := hs
    rw [List.append_nil]
    exact bounded_evict hb

theorem bounded_of_reaches (hr : (thread cfg).Reaches {} t h) : Bounded t h :=
  hr.hist bounded_step bounded_init

end Runs

/-- **Authority before data**: in every run of a thread the scope is written at most once between two intakes, and by a
planner that finds none held and no finding recorded; and what is scheduled to check a plan, or to ask for its approval,
or to simulate, the scope allows. -/
theorem authority_before_data (cfg : TurnConfig) (t : Turn) (h : List Ran) (hr : (thread cfg).Reaches {} t h) :
    scopeWrites h ≤ 1 ∧
    (∀ r ∈ h, r.writesScope = true →
      r.task.node = .planner ∧ r.before.scope = none ∧ r.before.findings.size = 0) ∧
    ∀ task ∈ t.next,
      (task.node = .planCheck ∨ task.node = .confirm → t.values.controls = true) ∧
      (task.node = .simulate → t.values.simulates = true) := by
  have hb := bounded_of_reaches hr
  refine ⟨hb.once, hb.past, ?_⟩
  intro task htask
  have hp := hb.permitted task htask
  refine ⟨?_, ?_⟩
  · rintro (hnode | hnode)
    · rw [hnode] at hp
      exact hp
    · rw [hnode] at hp
      exact hp
  · intro hnode
    rw [hnode] at hp
    exact hp.1

/-! ## A request of two waves -/

def twoWavesConfig : TurnConfig where
  limits := TurnLimits.DEFAULT_LIMITS
  hash := fun _ => ""
  isUuid := fun _ => true
  verifyText := fun _ _ => []
  presentable := fun _ _ => true
  simAvailable := false

/-- The planner asks for one task on `zone`; a specialist reports at once. -/
def oneTask (zone : String) : World where
  orient := .read [⟨"z1", "Office"⟩, ⟨"z2", "Hall"⟩] true true none
  planner :=
    { refusal := none
      replies := fun _ => .decision ⟨.diagnose, false, false, .dispatch, [⟨.diagnose, "why is it warm", [zone], []⟩],
        none, none⟩
      evidenceIds := [] }
  specialist := fun _ _ => ⟨.content ["report_finding"], ⟨some ⟨"The fan is off."⟩, none, false⟩⟩
  compose := .answer
  findingRefused := false
  violations := []
  interrupted := none
  interruptedAfter := none
  dryRun := fun _ => .unreachable
  planId := ""
  now := 0
  ledger := .init
  threadId := ""
  stopped := fun _ => false
  issued := fun _ => none

/-- A question, and two waves of one task each: on the office, and then on the hall. -/
def twoWaves : List ThreadAct :=
  .message ⟨"r1", "Why is it warm?", true⟩ :: List.replicate 5 (.superstep (oneTask "z1")) ++
    [.superstep (oneTask "z2")]

theorem authority_before_data_twoWaves : ∃ t h, (thread twoWavesConfig).Reaches {} t h ∧ 1 ≤ scopeWrites h ∧
    scopeWrites h ≤ 1 ∧
    (∀ r ∈ h, r.writesScope = true →
      r.task.node = .planner ∧ r.before.scope = none ∧ r.before.findings.size = 0) ∧
    ∀ task ∈ t.next,
      (task.node = .planCheck ∨ task.node = .confirm → t.values.controls = true) ∧
      (task.node = .simulate → t.values.simulates = true) := by
  have hgo : ∃ r ∈ (thread twoWavesConfig).exec {} twoWaves, 1 ≤ scopeWrites r.2 := by decide +kernel
  obtain ⟨⟨t, h⟩, hr, hwrites⟩ := hgo
  exact ⟨t, h, ⟨twoWaves, hr⟩, hwrites, authority_before_data twoWavesConfig t h ⟨twoWaves, hr⟩⟩

/-- A planner run that finds findings recorded, and sends a task to a zone that no task before it was sent to. -/
def Ran.widensZones (r : Ran) : Bool :=
  r.task.node = .planner && 0 < r.before.findings.size &&
    match r.update.tasks with
    | some (some tasks) => tasks.values.any fun spec => spec.zoneIds.any fun zone =>
        r.before.tasks.values.all fun held => !held.zoneIds.contains zone
    | _ => false

/-- The zones of a request are no part of its scope: they are named wave by wave, after findings too. -/
theorem zones_named_after_findings : ∃ t h, (thread twoWavesConfig).Reaches {} t h ∧
    h.any Ran.widensZones = true := by
  have hgo : ∃ r ∈ (thread twoWavesConfig).exec {} twoWaves, r.2.any Ran.widensZones = true := by decide +kernel
  obtain ⟨⟨t, h⟩, hr, hwidens⟩ := hgo
  exact ⟨t, h, ⟨twoWaves, hr⟩, hwidens⟩

end DTwin.Copilot
