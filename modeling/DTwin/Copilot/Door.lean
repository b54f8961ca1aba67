import DTwin.Copilot.Graph

/-!
# DTwin.Copilot.Door — the one door to the building

Whatever the models return and in whatever order messages, decisions and Stops come: the calls of the issuer for a
plan are the first of the commands that were frozen, in order and each once, and they hash to the hash that a
person's approval named, with the plan's id, before the plan expired (`one_door`).

What carries it: a plan is checked once, under an id not drawn before; while it waits at `confirm` nothing has
been issued for it; and a grant in the ledger is for a plan for which nothing has been issued.
-/

namespace DTwin.Copilot

open OrderedMap Machine

/-! ## What is issued -/

def Obs.issues (planId : String) : Obs → List CommandSpec
  | .issued _ planId' command => if planId' = planId then [command] else []
  | _ => []

/-- The calls of the issuer for a plan, in order. -/
def issuedOf (planId : String) (h : List Obs) : List CommandSpec := h.flatMap (Obs.issues planId)

@[simp] theorem issuedOf_append (planId : String) (h o : List Obs) :
    issuedOf planId (h ++ o) = issuedOf planId h ++ issuedOf planId o := List.flatMap_append

/-- A person's resume approved the plan, by its id and its hash, before it expired. -/
structure Approved (h : List Obs) (threadId : String) (plan : ReviewedPlan) : Prop where
  planned : .planned threadId plan ∈ h
  decided : ∃ interruptId now, .decided threadId ⟨⟨.approved, plan.planId, plan.planHash⟩, interruptId⟩ now ∈ h ∧
    now < plan.expiresAt

/-- The commands are those of the plan, and are what its hash is of. -/
structure Frozen (cfg : Config) (plan : ReviewedPlan) (commands : List GrantedCommand) : Prop where
  sent : commands.map GrantedCommand.sent = plan.commands.map ReviewedCommand.sent
  hashed : hashCommands cfg.hash commands = plan.planHash

/-- Every call of the issuer is for a plan that a person approved, and the calls for a plan are the first of its
frozen commands. -/
def OneDoor (cfg : Config) (h : List Obs) : Prop :=
  ∀ planId, issuedOf planId h ≠ [] → ∃ threadId plan commands, plan.planId = planId ∧ Approved h threadId plan ∧
    Frozen cfg plan commands ∧ issuedOf planId h <+: commands.map GrantedCommand.spec

/-! ## What holds of each thread -/

/-- A grant is for an approved plan. -/
def Granted (cfg : Config) (h : List Obs) (threadId : String) (g : Grant) : Prop :=
  ∃ plan, plan.planId = g.planId ∧ Approved h threadId plan ∧ Frozen cfg plan g.commands

/-- A thread with the turn on it and the grant it holds. -/
structure Kept (cfg : Config) (h : List Obs) (threadId : String) (t : Thread) (p : Option Phase)
    (grant : Option Grant) : Prop where
  pending : ∀ plan, t.values.pendingPlan = some plan → .planned threadId plan ∈ h
  unspent : ∀ plan, t.values.pendingPlan = some plan → t.next.map Task.node = [.confirm] →
    issuedOf plan.planId h = []
  resume : ∀ v, p = some (.ready (some v)) → ∃ plan interruptId now, t.values.pendingPlan = some plan ∧
    v.planId = plan.planId ∧ v.planHash = plan.planHash ∧ .decided threadId ⟨v, interruptId⟩ now ∈ h ∧
    now < plan.expiresAt
  granted : ∀ g, grant = some g → Granted cfg h threadId g ∧ issuedOf g.planId h = []
  applying : ∀ g outcomes rest, p = some (.applying g outcomes rest) → t.next.map Task.node = [.apply] ∧
    grant = none ∧ Granted cfg h threadId g ∧
    issuedOf g.planId h ++ rest.tail.map GrantedCommand.spec = g.commands.map GrantedCommand.spec

structure Guarded (cfg : Config) (s : Sys) (h : List Obs) : Prop where
  drawn : ∀ threadId plan, .planned threadId plan ∈ h → plan.planId ∈ s.drawn
  once : ∀ threadId plan threadId' plan', .planned threadId plan ∈ h → .planned threadId' plan' ∈ h →
    plan.planId = plan'.planId → threadId = threadId'
  door : OneDoor cfg h
  kept : ∀ threadId, Kept cfg h threadId (s.threads threadId) (s.runs threadId) (s.ledger.grants.get? threadId)

variable {cfg : Config} {s s' : Sys} {h o : List Obs} {threadId : String} {t : Thread} {p : Option Phase}
  {grant : Option Grant}

theorem Approved.mono {plan : ReviewedPlan} (hA : Approved h threadId plan) (o : List Obs) :
    Approved (h ++ o) threadId plan := by
  obtain ⟨interruptId, now, hmem, hnow⟩ := hA.decided
  exact ⟨List.mem_append_left _ hA.planned, interruptId, now, List.mem_append_left _ hmem, hnow⟩

theorem Granted.mono {g : Grant} (hg : Granted cfg h threadId g) (o : List Obs) :
    Granted cfg (h ++ o) threadId g := by
  obtain ⟨plan, hid, hA, hF⟩ := hg
  exact ⟨plan, hid, hA.mono o, hF⟩

theorem Granted.planned {g : Grant} (hg : Granted cfg h threadId g) :
    ∃ plan, .planned threadId plan ∈ h ∧ plan.planId = g.planId := by
  obtain ⟨plan, hid, hA, -⟩ := hg
  exact ⟨plan, hA.planned, hid⟩

/-- What is observed since issues nothing for the plan. -/
theorem OneDoor.quiet (hD : OneDoor cfg h) {planId : String} (hissued : issuedOf planId o = [])
    (hne : issuedOf planId (h ++ o) ≠ []) : ∃ threadId plan commands, plan.planId = planId ∧
      Approved (h ++ o) threadId plan ∧ Frozen cfg plan commands ∧
      issuedOf planId (h ++ o) <+: commands.map GrantedCommand.spec := by
  rw [issuedOf_append, hissued, List.append_nil] at hne ⊢
  obtain ⟨threadId, plan, commands, hid, hA, hF, hprefix⟩ := hD planId hne
  exact ⟨threadId, plan, commands, hid, hA.mono o, hF, hprefix⟩

/-- What is observed since issues nothing for the plans of the thread. -/
theorem Kept.mono (hK : Kept cfg h threadId t p grant)
    (ho : ∀ plan, .planned threadId plan ∈ h → issuedOf plan.planId o = []) :
    Kept cfg (h ++ o) threadId t p grant where
  pending plan hplan := List.mem_append_left _ (hK.pending plan hplan)
  unspent plan hplan hnext := by
    rw [issuedOf_append, hK.unspent plan hplan hnext, ho plan (hK.pending plan hplan), List.append_nil]
  resume v hv := by
    obtain ⟨plan, interruptId, now, hplan, hid, hhash, hmem, hnow⟩ := hK.resume v hv
    exact ⟨plan, interruptId, now, hplan, hid, hhash, List.mem_append_left _ hmem, hnow⟩
  granted g hg := by
    obtain ⟨hG, hnone⟩ := hK.granted g hg
    obtain ⟨plan, hplan, hid⟩ := hG.planned
    exact ⟨hG.mono o, by rw [issuedOf_append, hnone, ← hid, ho plan hplan, List.append_nil]⟩
  applying g outcomes rest hp := by
    obtain ⟨hnext, hnone, hG, hrest⟩ := hK.applying g outcomes rest hp
    obtain ⟨plan, hplan, hid⟩ := hG.planned
    refine ⟨hnext, hnone, hG.mono o, ?_⟩
    rw [issuedOf_append, ← hid, ho plan hplan, List.append_nil, hid]
    exact hrest

/-- A grant may be dropped. -/
theorem Kept.dropGrant (hK : Kept cfg h threadId t p grant) {grant' : Option Grant}
    (hgrant : ∀ g, grant' = some g → grant = some g) : Kept cfg h threadId t p grant' where
  pending := hK.pending
  unspent := hK.unspent
  resume := hK.resume
  granted g hg := hK.granted g (hgrant g hg)
  applying g outcomes rest hp := by
    obtain ⟨hnext, hnone, hrest⟩ := hK.applying g outcomes rest hp
    refine ⟨hnext, Option.eq_none_iff_forall_ne_some.mpr fun g' hg' => ?_, hrest⟩
    rw [hgrant g' hg'] at hnone
    cases hnone

/-- The turn is released, or is at the start of a superstep with nobody's word. -/
theorem Kept.setPhase (hK : Kept cfg h threadId t p grant) {q : Option Phase}
    (hready : ∀ v, q ≠ some (.ready (some v))) (happlying : ∀ g outcomes rest, q ≠ some (.applying g outcomes rest)) :
    Kept cfg h threadId t q grant where
  pending := hK.pending
  unspent := hK.unspent
  resume v hv := absurd hv (hready v)
  granted := hK.granted
  applying g outcomes rest hp := absurd hp (happlying g outcomes rest)

theorem kept_init (h : List Obs) (threadId : String) : Kept cfg h threadId (Sys.init.threads threadId)
    (Sys.init.runs threadId) (Sys.init.ledger.grants.get? threadId) :=
  ⟨by simp [Sys.init], by simp [Sys.init], by simp [Sys.init], by simp [Sys.init, Ledger.init], by simp [Sys.init]⟩

/-! ## The superstep -/

/-- The update sets no plan. -/
def Update.Unplanned (u : Update) : Prop := ∀ plan, u.pendingPlan ≠ some (some plan)

theorem unplanned_singleton {u : Update} (hu : u.Unplanned) : ∀ v ∈ [u], v.Unplanned := by
  intro v hv
  rwa [List.mem_singleton.mp hv]

theorem dropPlan_unplanned (notice : Notice) : (dropPlan notice).Unplanned := by simp [Update.Unplanned, dropPlan]

theorem merge_pendingPlan {u : Update} (hu : u.Unplanned) {values : State} {plan : ReviewedPlan}
    (hplan : (values.merge u).pendingPlan = some plan) : values.pendingPlan = some plan := by
  simp only [State.merge] at hplan
  cases hp : u.pendingPlan with
  | none => simpa [hp] using hplan
  | some r =>
    rw [hp, Option.getD_some] at hplan
    exact absurd (hplan ▸ hp) (hu plan)

theorem foldl_merge_pendingPlan {plan : ReviewedPlan} : ∀ {updates : List Update} {values : State},
    (∀ u ∈ updates, u.Unplanned) → (updates.foldl State.merge values).pendingPlan = some plan →
    values.pendingPlan = some plan
  | [], _, _, hplan => hplan
  | u :: _, _, hu, hplan =>
    merge_pendingPlan (hu u List.mem_cons_self)
      (foldl_merge_pendingPlan (fun v hv => hu v (List.mem_cons_of_mem u hv)) hplan)

theorem sends_node {values : State} {taskIds : List String} {task : Task} (htask : task ∈ sends values taskIds) :
    ∃ specialist : SpecialistNode, task.node = specialist.node := by
  obtain ⟨taskId, -, htask⟩ := List.mem_filterMap.mp htask
  split at htask
  · cases htask
  · rename_i spec _
    split_ifs at htask
    rw [← Option.some.inj htask]
    exact ⟨spec.specialist, rfl⟩

/-- The planner leads to specialists, `compose`, `control` and `finish`. -/
theorem afterPlanner_node {values : State} {task : Task} (htask : task ∈ afterPlanner values) :
    (∃ specialist : SpecialistNode, task.node = specialist.node) ∨ task.node ∈ [Node.compose, .control, .finish] := by
  have hone : ∀ node ∈ [Node.compose, .control, .finish], task ∈ ([⟨node, none⟩] : List Task) →
      (∃ specialist : SpecialistNode, task.node = specialist.node) ∨ task.node ∈ [Node.compose, .control, .finish] := by
    intro node hnode hmem
    rw [List.mem_singleton.mp hmem]
    exact Or.inr hnode
  have honward : task ∈ (if 0 < values.findings.size then [⟨.compose, none⟩] else [⟨.finish, none⟩] : List Task) →
      (∃ specialist : SpecialistNode, task.node = specialist.node) ∨ task.node ∈ [Node.compose, .control, .finish] := by
    intro hmem
    split_ifs at hmem
    · exact hone _ (by simp) hmem
    · exact hone _ (by simp) hmem
  unfold afterPlanner at htask
  cases hroute : values.plannerRoute with
  | none => exact honward (by simpa only [hroute] using htask)
  | some route =>
    simp only [hroute] at htask
    cases hnext : route.next with
    | dispatch =>
      simp only [hnext] at htask
      by_cases hread : (values.context.isNone || values.request.isNone) = true
      · rw [if_pos hread] at htask
        exact honward htask
      · rw [if_neg hread] at htask
        by_cases hempty : (sends values route.taskIds).isEmpty = true
        · rw [if_pos hempty] at htask
          exact honward htask
        · rw [if_neg hempty] at htask
          exact Or.inl (sends_node htask)
    | control =>
      simp only [hnext] at htask
      by_cases hfound : 0 < values.findings.size
      · rw [if_pos hfound] at htask
        exact hone _ (by simp) htask
      · rw [if_neg hfound] at htask
        by_cases hmay : values.mayControl = true
        · rw [if_pos hmay] at htask
          exact hone _ (by simp) htask
        · rw [if_neg hmay] at htask
          exact honward htask
    | compose =>
      simp only [hnext] at htask
      exact hone _ (by simp) htask
    | finish =>
      simp only [hnext] at htask
      exact hone _ (by simp) htask

/-- Only `plan_check` leads to `confirm`. -/
theorem edges_confirm {limits : Limits} {values : State} {node : Node} {task : Task}
    (htask : task ∈ edges limits values node) (hconfirm : task.node = .confirm) : node = .planCheck := by
  have hone : ∀ next : Node, task ∈ ([⟨next, none⟩] : List Task) → next = .confirm := by
    intro next hmem
    rw [List.mem_singleton.mp hmem] at hconfirm
    exact hconfirm
  cases node with
  | planCheck => rfl
  | planner =>
    obtain ⟨specialist, hnode⟩ | hnode := afterPlanner_node htask
    · rw [hconfirm] at hnode
      cases specialist <;> cases hnode
    · simp [hconfirm] at hnode
  | finish => exact absurd htask List.not_mem_nil
  | orient =>
    have hnext := hone _ htask
    unfold afterOrient at hnext
    split_ifs at hnext
  | verify =>
    have hnext := hone _ htask
    unfold afterVerify at hnext
    split_ifs at hnext
  | control =>
    have hnext := hone _ htask
    unfold afterControl at hnext
    split_ifs at hnext
  | confirm =>
    have hnext := hone _ htask
    unfold afterConfirm at hnext
    split_ifs at hnext
  | _ => exact absurd (hone _ htask) (by decide)

theorem nextTasks_confirm {limits : Limits} {values : State} {tasks : List Task}
    (hnext : (nextTasks limits values tasks).map Task.node = [.confirm]) : ∃ task ∈ tasks, task.node = .planCheck := by
  have hmem : Node.confirm ∈ (nextTasks limits values tasks).map Task.node := by simp [hnext]
  obtain ⟨task, htask, hconfirm⟩ := List.mem_map.mp hmem
  obtain ⟨before, hbefore, htask⟩ := List.mem_flatMap.mp (List.mem_dedup.mp htask)
  exact ⟨before, hbefore, edges_confirm htask hconfirm⟩

/-- The thread and the turn after a superstep. -/
theorem complete_self (s : Sys) (cfg : Config) (threadId : String) (updates : List Update) :
    ((s.complete cfg threadId updates).threads threadId).values =
      updates.foldl State.merge (s.threads threadId).values ∧
    ((s.complete cfg threadId updates).threads threadId).next =
      nextTasks cfg.limits (updates.foldl State.merge (s.threads threadId).values) (s.threads threadId).next ∧
    ((s.complete cfg threadId updates).runs threadId = some .ended ∨
      (s.complete cfg threadId updates).runs threadId = some (.ready none)) := by
  refine ⟨by simp [Sys.complete, Sys.setThread, Sys.setRun], by simp [Sys.complete, Sys.setThread, Sys.setRun], ?_⟩
  simp only [Sys.complete, Sys.setRun, if_true]
  split_ifs
  · exact Or.inl rfl
  · exact Or.inr rfl

/-- **A superstep** that sets no plan, and after which none waits at `confirm`. -/
theorem Kept.complete (hK : Kept cfg h threadId (s.threads threadId) p grant) {updates : List Update}
    (hupdates : ∀ u ∈ updates, u.Unplanned)
    (hnext : (∀ task ∈ (s.threads threadId).next, task.node ≠ .planCheck) ∨
      (updates.foldl State.merge (s.threads threadId).values).pendingPlan = none) :
    Kept cfg h threadId ((s.complete cfg threadId updates).threads threadId)
      ((s.complete cfg threadId updates).runs threadId) grant := by
  obtain ⟨hvalues, hnext', hrun⟩ := complete_self s cfg threadId updates
  refine ⟨fun plan hplan => ?_, fun plan hplan hconfirm => ?_, fun v hv => ?_, hK.granted, fun g outcomes rest hp => ?_⟩
  · rw [hvalues] at hplan
    exact hK.pending plan (foldl_merge_pendingPlan hupdates hplan)
  · rw [hvalues] at hplan
    rw [hnext'] at hconfirm
    obtain ⟨task, htask, hcheck⟩ := nextTasks_confirm hconfirm
    rcases hnext with hnext | hnone
    · exact absurd hcheck (hnext task htask)
    · rw [hnone] at hplan
      cases hplan
  · rcases hrun with hrun | hrun <;> rw [hrun] at hv <;> cases hv
  · rcases hrun with hrun | hrun <;> rw [hrun] at hp <;> cases hp

/-! ## One step -/

/-- A step of another thread. -/
structure Apart (threadId : String) (s s' : Sys) : Prop where
  threads : ∀ i, i ≠ threadId → s'.threads i = s.threads i
  runs : ∀ i, i ≠ threadId → s'.runs i = s.runs i
  grants : ∀ i, i ≠ threadId → ∀ g, s'.ledger.grants.get? i = some g → s.ledger.grants.get? i = some g

theorem apart_setThread (s : Sys) (threadId : String) (t : Thread) : Apart threadId s (s.setThread threadId t) :=
  ⟨fun _ hi => if_neg hi, fun _ _ => rfl, fun _ _ _ hg => hg⟩

theorem apart_setRun (s : Sys) (threadId : String) (p : Option Phase) : Apart threadId s (s.setRun threadId p) :=
  ⟨fun _ _ => rfl, fun _ hi => if_neg hi, fun _ _ _ hg => hg⟩

theorem Apart.trans {r : Sys} (h₁ : Apart threadId s r) (h₂ : Apart threadId r s') : Apart threadId s s' :=
  ⟨fun i hi => (h₂.threads i hi).trans (h₁.threads i hi), fun i hi => (h₂.runs i hi).trans (h₁.runs i hi),
    fun i hi g hg => h₁.grants i hi g (h₂.grants i hi g hg)⟩

theorem apart_complete (s : Sys) (cfg : Config) (threadId : String) (updates : List Update) :
    Apart threadId s (s.complete cfg threadId updates) :=
  (apart_setThread s threadId _).trans (apart_setRun _ threadId _)

/-- The ledger is changed for the thread only. -/
theorem apart_ledger (s : Sys) (threadId : String) {ledger : Ledger} {registry : Registry} {drawn : List String}
    (hgrants : ∀ i, i ≠ threadId → ∀ g, ledger.grants.get? i = some g → s.ledger.grants.get? i = some g) :
    Apart threadId s { s with ledger, registry, drawn } :=
  ⟨fun _ _ => rfl, fun _ _ => rfl, hgrants⟩

/-- **A step that plans and issues nothing.** -/
theorem Guarded.on (hG : Guarded cfg s h) (hapart : Apart threadId s s') (hdrawn : s.drawn ⊆ s'.drawn)
    (hplanned : ∀ i plan, .planned i plan ∉ o) (hissued : ∀ planId, issuedOf planId o = [])
    (hself : Kept cfg (h ++ o) threadId (s'.threads threadId) (s'.runs threadId)
      (s'.ledger.grants.get? threadId)) : Guarded cfg s' (h ++ o) := by
  have hold : ∀ {i plan}, .planned i plan ∈ h ++ o → .planned i plan ∈ h := fun hmem =>
    (List.mem_append.mp hmem).resolve_right (hplanned _ _)
  refine ⟨fun i plan hmem => hdrawn (hG.drawn i plan (hold hmem)),
    fun i plan j plan' hi hj hid => hG.once i plan j plan' (hold hi) (hold hj) hid,
    fun planId hne => hG.door.quiet (hissued planId) hne, fun i => ?_⟩
  by_cases hi : i = threadId
  · rw [hi]
    exact hself
  · rw [hapart.threads i hi, hapart.runs i hi]
    exact ((hG.kept i).mono fun plan _ => hissued plan.planId).dropGrant (hapart.grants i hi)

/-- A superstep that sets no plan. -/
theorem Guarded.complete {r : Sys} (hG : Guarded cfg s h) (hapart : Apart threadId s r)
    (hthread : r.threads threadId = s.threads threadId) (hdrawn : s.drawn ⊆ r.drawn)
    (hgrant : ∀ g, r.ledger.grants.get? threadId = some g →
      Granted cfg h threadId g ∧ issuedOf g.planId h = [])
    {updates : List Update} (hupdates : ∀ u ∈ updates, u.Unplanned)
    (hnext : (∀ task ∈ (s.threads threadId).next, task.node ≠ .planCheck) ∨
      (updates.foldl State.merge (s.threads threadId).values).pendingPlan = none)
    (hplanned : ∀ i plan, .planned i plan ∉ o) (hissued : ∀ planId, issuedOf planId o = []) :
    Guarded cfg (r.complete cfg threadId updates) (h ++ o) := by
  have hK := hG.kept threadId
  have hbefore : Kept cfg h threadId (r.threads threadId) none (r.ledger.grants.get? threadId) := by
    rw [hthread]
    exact ⟨hK.pending, hK.unspent, by simp, hgrant, by simp⟩
  rw [← hthread] at hnext
  exact hG.on (hapart.trans (apart_complete r cfg threadId updates)) hdrawn hplanned hissued
    ((hbefore.complete hupdates hnext).mono fun plan _ => hissued plan.planId)

/-! ## The approval -/

theorem projectCommand_grantable {c : ReviewedCommand} {g : GrantedCommand}
    (hg : projectCommand c.grantable = some g) : g.sent = c.sent := by
  obtain ⟨zoneId, setpointTempC, durationS, reason, zoneName, verdict⟩ := c
  cases durationS with
  | none =>
    cases hg
    rfl
  | some d =>
    obtain ⟨durationS, hduration, hg⟩ := Option.map_eq_some_iff.mp hg
    simp only [ReviewedCommand.grantable, projectDuration] at hduration
    split_ifs at hduration
    cases hduration
    rw [← hg]
    rfl

theorem mapM_grantable : ∀ {commands : List ReviewedCommand} {granted : List GrantedCommand},
    (commands.map ReviewedCommand.grantable).mapM projectCommand = some granted →
    granted.map GrantedCommand.sent = commands.map ReviewedCommand.sent
  | [], _, hg => by
    cases hg
    rfl
  | c :: commands, granted, hg => by
    simp only [List.map_cons, List.mapM_cons, Option.bind_eq_bind, Option.bind_eq_some_iff, Option.pure_def,
      Option.some.injEq] at hg
    obtain ⟨g, hc, rest, hrest, rfl⟩ := hg
    rw [List.map_cons, List.map_cons, projectCommand_grantable hc, mapM_grantable hrest]

/-- What is granted for a plan under review is frozen. -/
theorem frozen_of_read {plan : ReviewedPlan} {opt : LedgerOptions} {now : ℤ} {g : Grant}
    (hg : plan.grantable.read cfg.hash opt now = some g) : plan.planId = g.planId ∧ Frozen cfg plan g.commands := by
  obtain ⟨hid, hhash, hproject, hhashed, -⟩ := read_spec hg
  refine ⟨Value.string.inj hid, ?_, hhashed.trans (Value.string.inj hhash).symm⟩
  simp only [project, ReviewedPlan.grantable] at hproject
  split_ifs at hproject
  exact mapM_grantable hproject

/-- **`confirm`.**  What is granted after it was, or is for the plan that waits, which a person approved. -/
theorem confirm_grants {resume : ResumeValue} (hK : Kept cfg h threadId t (some (.ready (some resume))) grant)
    {l l' : Ledger} {now : ℤ} {decided : Decision}
    (hconfirm : confirm cfg l now threadId t.values resume = (l', decided))
    {thread : String} {g : Grant} (hg : l'.grants.get? thread = some g) :
    l.grants.get? thread = some g ∨ thread = threadId ∧ Granted cfg h threadId g ∧
      ∃ plan, t.values.pendingPlan = some plan ∧ plan.planId = g.planId := by
  obtain ⟨plan, interruptId, decidedAt, hplan, hid, hhash, hmem, hnow⟩ := hK.resume resume rfl
  obtain ⟨decision, planId, planHash⟩ := resume
  obtain rfl : planId = plan.planId := hid
  obtain rfl : planHash = plan.planHash := hhash
  simp only [confirm, hplan] at hconfirm
  by_cases hstale : plan.planId ≠ plan.planId ∨ plan.planHash ≠ plan.planHash ∨
      cfg.hash (plan.commands.map ReviewedCommand.sent) ≠ plan.planHash
  · rw [if_pos hstale] at hconfirm
    cases hconfirm
    exact Or.inl hg
  · rw [if_neg hstale] at hconfirm
    by_cases hexpired : plan.expiresAt ≤ now
    · rw [if_pos hexpired] at hconfirm
      cases hconfirm
      exact Or.inl hg
    · rw [if_neg hexpired] at hconfirm
      cases decision with
      | declined =>
        cases hconfirm
        exact Or.inl hg
      | approved =>
        cases hconfirm
        obtain hg | ⟨hthread, -, p, hp, hread⟩ := grant_grants hg
        · exact Or.inl hg
        · obtain ⟨hgid, hF⟩ := frozen_of_read (Option.some.inj hp ▸ hread)
          have hA : Approved h threadId plan := ⟨hK.pending plan hplan, interruptId, decidedAt, hmem, hnow⟩
          exact Or.inr ⟨hthread, ⟨plan, hgid, hA, hF⟩, plan, hplan, hgid⟩

/-! ## The calls -/

theorem issuedOf_issued (planId threadId : String) (g : Grant) (command : CommandSpec) :
    issuedOf planId [.issued threadId g.planId command] = if g.planId = planId then [command] else [] := by
  simp [issuedOf, Obs.issues]

/-- **A call of the issuer.**  It is for the first of the commands that are left. -/
theorem Guarded.issue {r : Sys} (hG : Guarded cfg s h) (hapart : Apart threadId s r)
    (hthread : r.threads threadId = s.threads threadId) (hdrawn : s.drawn ⊆ r.drawn)
    (hgrant : r.ledger.grants.get? threadId = none)
    (hnext : (s.threads threadId).next.map Task.node = [.apply]) {g : Grant} (hGr : Granted cfg h threadId g)
    {c : GrantedCommand} {rest : List GrantedCommand}
    (hrest : issuedOf g.planId h ++ (c :: rest).map GrantedCommand.spec = g.commands.map GrantedCommand.spec)
    (outcomes : List Outcome) :
    Guarded cfg (r.setRun threadId (some (.applying g outcomes (c :: rest))))
      (h ++ [.issued threadId g.planId c.spec]) := by
  have hold : ∀ {i plan}, .planned i plan ∈ h ++ [.issued threadId g.planId c.spec] → .planned i plan ∈ h :=
    fun hmem => (List.mem_append.mp hmem).resolve_right (by simp)
  have hafter : issuedOf g.planId (h ++ [.issued threadId g.planId c.spec]) ++ rest.map GrantedCommand.spec =
      g.commands.map GrantedCommand.spec := by
    rw [issuedOf_append, issuedOf_issued, if_pos rfl, List.append_assoc]
    exact hrest
  refine ⟨fun i plan hmem => hdrawn (hG.drawn i plan (hold hmem)),
    fun i plan j plan' hi hj hid => hG.once i plan j plan' (hold hi) (hold hj) hid, fun planId hne => ?_, fun i => ?_⟩
  · by_cases hid : g.planId = planId
    · subst hid
      obtain ⟨plan, hplan, hA, hF⟩ := hGr
      exact ⟨threadId, plan, g.commands, hplan, hA.mono _, hF, _, hafter⟩
    · exact hG.door.quiet (by rw [issuedOf_issued, if_neg hid]) hne
  · by_cases hi : i = threadId
    · subst hi
      have hK := hG.kept i
      simp only [Sys.setRun, if_true, hthread, hgrant]
      refine ⟨fun plan hplan => List.mem_append_left _ (hK.pending plan hplan), fun plan _ hconfirm => ?_, by simp,
        by simp, fun g' outcomes' rest' hp => ?_⟩
      · rw [hnext] at hconfirm
        cases hconfirm
      · cases hp
        exact ⟨hnext, rfl, hGr.mono _, hafter⟩
    · have hother : ∀ plan, .planned i plan ∈ h → issuedOf plan.planId [.issued threadId g.planId c.spec] = [] := by
        intro plan hplan
        obtain ⟨plan', hplan', hid⟩ := hGr.planned
        rw [issuedOf_issued, if_neg]
        intro heq
        exact hi (hG.once i plan threadId plan' hplan hplan' (heq.symm.trans hid.symm))
      have hapart' := hapart.trans (apart_setRun r threadId (some (.applying g outcomes (c :: rest))))
      rw [hapart'.threads i hi, hapart'.runs i hi]
      exact ((hG.kept i).mono hother).dropGrant (hapart'.grants i hi)

/-- **`apply`, from one command on.** -/
theorem Guarded.proceed {r : Sys} (hG : Guarded cfg s h) (hapart : Apart threadId s r)
    (hthread : r.threads threadId = s.threads threadId) (hdrawn : s.drawn ⊆ r.drawn)
    (hgrant : r.ledger.grants.get? threadId = none)
    (hnext : (s.threads threadId).next.map Task.node = [.apply]) {g : Grant} (hGr : Granted cfg h threadId g)
    {outcomes : List Outcome} {rest : List GrantedCommand}
    (hrest : issuedOf g.planId h ++ rest.map GrantedCommand.spec = g.commands.map GrantedCommand.spec)
    (hs : r.proceed cfg threadId g outcomes rest = (s', o)) : Guarded cfg s' (h ++ o) := by
  have hdone : ∀ outcomes halted, Guarded cfg (r.complete cfg threadId [applied outcomes halted])
      (h ++ [.applied threadId g.planId outcomes]) := fun outcomes halted =>
    hG.complete hapart hthread hdrawn (fun g' hg' => by rw [hgrant] at hg'; cases hg')
      (unplanned_singleton (by simp [Update.Unplanned, applied])) (Or.inr rfl) (by simp) fun _ => rfl
  cases rest with
  | nil =>
    cases hs
    exact hdone outcomes false
  | cons c rest =>
    simp only [Sys.proceed] at hs
    by_cases hstop : r.registry.stopRequested threadId = true
    · rw [if_pos hstop] at hs
      cases hs
      exact hdone _ true
    · rw [if_neg hstop] at hs
      cases hs
      exact hG.issue hapart hthread hdrawn hgrant hnext hGr hrest outcomes

/-! ## Every step -/

theorem checkZones_dropPlan {values : State} : ∀ {commands : List ProposedCommand} {seen : List String} {u : Update},
    checkZones values seen commands = some u → ∃ notice, u = dropPlan notice
  | [], _, _, hu => nomatch hu
  | c :: commands, seen, u, hu => by
    simp only [checkZones] at hu
    split at hu
    · cases hu
      exact ⟨_, rfl⟩
    · split_ifs at hu
      · cases hu
        exact ⟨_, rfl⟩
      · exact checkZones_dropPlan hu

/-- What `plan_check` returns early drops the plan. -/
theorem planCheck_error {values : State} {interrupted : Option BudgetReason} {u : Update}
    (hu : planCheck cfg values interrupted = .error u) : ∃ notice, u = dropPlan notice := by
  unfold planCheck at hu
  split at hu
  · cases hu
    exact ⟨_, rfl⟩
  · split at hu
    · cases hu
      exact ⟨_, rfl⟩
    · split at hu
      · cases hu
        exact ⟨_, rfl⟩
      · split at hu
        · cases hu
          exact ⟨_, rfl⟩
        · split at hu
          · rename_i hzones
            cases hu
            exact checkZones_dropPlan hzones
          · split at hu
            · cases hu
              exact ⟨_, rfl⟩
            · split at hu
              · cases hu
                exact ⟨_, rfl⟩
              · cases hu

theorem review_error {values : State} {commands : List ProposedCommand} {replies : List DryRun} {u : Update}
    (hu : review values commands replies = some (.error u)) : ∃ notice, u = dropPlan notice := by
  induction commands generalizing replies with
  | nil => cases replies <;> simp [review] at hu
  | cons c commands ih =>
    cases replies with
    | nil => simp [review] at hu
    | cons reply replies =>
      cases reply with
      | allowed v =>
        simp only [review, Option.map_eq_some_iff] at hu
        obtain ⟨r, hr, hu⟩ := hu
        cases r with
        | ok reviewed => cases hu
        | error u' =>
          cases hu
          exact ih hr
      | refused message =>
        cases replies with
        | nil =>
          cases hu
          exact ⟨_, rfl⟩
        | cons => simp [review] at hu
      | unreachable =>
        cases replies with
        | nil =>
          cases hu
          exact ⟨_, rfl⟩
        | cons => simp [review] at hu

/-- The thread's superstep is of `node` alone. -/
theorem node_ne_planCheck {tasks : List Task} {node : Node} (hnext : tasks.map Task.node = [node])
    (hne : node ≠ .planCheck) : ∀ task ∈ tasks, task.node ≠ .planCheck := by
  intro task htask
  have hmem : task.node ∈ tasks.map Task.node := List.mem_map_of_mem htask
  rw [hnext] at hmem
  rwa [List.mem_singleton.mp hmem]

theorem Guarded.quiet (hG : Guarded cfg s h) {updates : List Update} (hupdates : ∀ u ∈ updates, u.Unplanned)
    (hnext : (∀ task ∈ (s.threads threadId).next, task.node ≠ .planCheck) ∨
      (updates.foldl State.merge (s.threads threadId).values).pendingPlan = none)
    {registry : Registry} : Guarded cfg ({ s with registry }.complete cfg threadId updates) (h ++ []) :=
  hG.complete (r := { s with registry }) (apart_ledger s threadId fun _ _ _ hg => hg) rfl (List.Subset.refl _)
    (hG.kept threadId).granted hupdates hnext (by simp) fun _ => rfl

theorem Guarded.nodeStep (hG : Guarded cfg s h) {now : ℤ} {resume : Option ResumeValue}
    (hrun : s.runs threadId = some (.ready resume))
    (hs : nodeStep cfg s threadId now resume ((s.threads threadId).next.map Task.node) = some (s', o)) :
    Guarded cfg s' (h ++ o) := by
  have hK := hG.kept threadId
  generalize hnext : (s.threads threadId).next.map Task.node = nodes at hs
  unfold Copilot.nodeStep at hs
  split at hs
  · -- intake
    obtain ⟨inbox, hinbox, hs⟩ := Option.map_eq_some_iff.mp hs
    cases hs
    exact hG.complete (apart_ledger s threadId fun i _ g hg => (get?_revoke hg).2) rfl (List.Subset.refl _)
      (fun g hg => absurd rfl (get?_revoke hg).1) (unplanned_singleton (by simp [Update.Unplanned, intake]))
      (Or.inr rfl) (by simp) fun _ => rfl
  · -- join
    cases hs
    exact hG.quiet (unplanned_singleton (by simp [Update.Unplanned, join]))
      (Or.inl (node_ne_planCheck hnext (by decide)))
  · -- plan_check
    cases hcheck : planCheck cfg (s.threads threadId).values (s.registry.interrupted now threadId) with
    | error u =>
      simp only [hcheck] at hs
      cases hs
      obtain ⟨notice, rfl⟩ := planCheck_error hcheck
      exact hG.quiet (unplanned_singleton (dropPlan_unplanned notice)) (Or.inr rfl)
    | ok plan =>
      simp only [hcheck] at hs
      cases hs
      refine hG.on (apart_setRun s threadId _) (List.Subset.refl _) (by simp) (fun _ => rfl) ?_
      have hphase := (hK.setPhase (q := some (.checking plan)) (by simp) (by simp)).mono (o := []) fun _ _ => rfl
      simpa [Sys.setRun] using hphase
  · -- confirm
    obtain ⟨v, rfl, hdone⟩ := Option.map_eq_some_iff.mp hs
    obtain ⟨⟨ledger, decision⟩, hconfirm⟩ :
        ∃ r, confirm cfg s.ledger now threadId (s.threads threadId).values v = r := ⟨_, rfl⟩
    simp only [hconfirm] at hdone
    cases hdone
    rw [hrun] at hK
    have hgrants : ∀ i g, ledger.grants.get? i = some g → s.ledger.grants.get? i = some g ∨
        i = threadId ∧ Granted cfg h threadId g ∧
          ∃ plan, (s.threads threadId).values.pendingPlan = some plan ∧ plan.planId = g.planId :=
      fun i g hg => confirm_grants hK hconfirm hg
    refine hG.complete (r := { s with ledger }) (apart_ledger s threadId fun i hi g hg => ?_) rfl
      (List.Subset.refl _) (fun g hg => ?_) (unplanned_singleton (by simp [Update.Unplanned]))
      (Or.inl (node_ne_planCheck hnext (by decide))) (by simp) fun _ => rfl
    · exact (hgrants i g hg).resolve_right fun hnew => hi hnew.1
    · obtain hg | ⟨-, hGr, plan, hplan, hid⟩ := hgrants threadId g hg
      · exact hK.granted g hg
      · exact ⟨hGr, hid ▸ hK.unspent plan hplan hnext⟩
  · -- apply
    obtain ⟨⟨ledger, taken⟩, htake⟩ : ∃ r, s.ledger.take cfg.limits.ledger now threadId = r := ⟨_, rfl⟩
    have hgrants : ∀ i g, ledger.grants.get? i = some g → i ≠ threadId ∧ s.ledger.grants.get? i = some g :=
      fun i g hg => take_grants htake hg
    have hapart : Apart threadId s { s with ledger } := apart_ledger s threadId fun i _ g hg => (hgrants i g hg).2
    have hrefused : Guarded cfg ({ s with ledger }.complete cfg threadId [applyRefused])
        (h ++ [.applyRefused threadId]) :=
      hG.complete hapart rfl (List.Subset.refl _) (fun g hg => absurd rfl (hgrants threadId g hg).1)
        (unplanned_singleton (by simp [Update.Unplanned, applyRefused])) (Or.inr rfl) (by simp) fun _ => rfl
    simp only [htake] at hs
    cases taken with
    | none =>
      cases hs
      exact hrefused
    | some g =>
      simp only at hs
      split_ifs at hs with hsame
      · obtain ⟨hGr, hnone⟩ := hK.granted g (take_spec htake).1
        refine hG.proceed hapart rfl (List.Subset.refl _) ?_ hnext hGr (by rw [hnone, List.nil_append])
          (Option.some.inj hs)
        exact Option.eq_none_iff_forall_ne_some.mpr fun g' hg' => (hgrants threadId g' hg').1 rfl
      · cases hs
        exact hrefused
  · -- declined
    cases hs
    exact hG.quiet (unplanned_singleton (by simp [Update.Unplanned, declined])) (Or.inr rfl)
  · -- finish
    cases hs
    exact hG.quiet (unplanned_singleton (by simp [Update.Unplanned]))
      (Or.inl (node_ne_planCheck hnext (by decide)))
  · cases hs

theorem Returns.within {tasks : List Task} {updates : List Update} (hreturns : Returns tasks updates) {u : Update}
    (hu : u ∈ updates) : ∃ node ∈ modelNodes, u.Within node := by
  obtain ⟨htasks, hlength, hwithin⟩ := hreturns
  rw [← List.map_snd_zip hlength.le] at hu
  obtain ⟨x, hx, rfl⟩ := List.mem_map.mp hu
  exact ⟨x.1.node, htasks x.1 (List.of_mem_zip hx).1, hwithin x hx⟩

theorem modelNodes_unplanned : ∀ node ∈ modelNodes, Channel.pendingPlan ∉ WRITES node := by decide

/-- No node that a model decides sets a plan. -/
theorem unplanned_of_within {u : Update} {node : Node} (hnode : node ∈ modelNodes) (hu : u.Within node) :
    u.Unplanned := fun _ hplan =>
  modelNodes_unplanned node hnode (hu .pendingPlan (by simp [Update.names, hplan]))

theorem planCheck_not_model {node : Node} (hnode : node ∈ modelNodes) : node ≠ .planCheck := by
  rintro rfl
  revert hnode
  decide

/-- The plan that a decision may act on is the one in state. -/
theorem pendingPlan_spec {interruptId : String} {plan : ReviewedPlan}
    (hplan : t.pendingPlan cfg = some (interruptId, plan)) : ∃ held, t.values.pendingPlan = some held ∧
      plan.planId = held.planId ∧ plan.planHash = held.planHash ∧ plan.expiresAt = held.expiresAt := by
  unfold Thread.pendingPlan at hplan
  split at hplan
  · rename_i held _ hheld
    split_ifs at hplan with hagree
    cases hplan
    exact ⟨held, hheld, hagree.1, hagree.2.1, hagree.2.2.1⟩
  · cases hplan

/-- Nothing has been issued under an id that has not been drawn. -/
theorem Guarded.unissued (hG : Guarded cfg s h) {planId : String} (hfresh : planId ∉ s.drawn) :
    issuedOf planId h = [] := by
  by_contra hne
  obtain ⟨i, plan, commands, hid, hA, -⟩ := hG.door planId hne
  exact hfresh (hid ▸ hG.drawn i plan hA.planned)

theorem Guarded.still (hG : Guarded cfg s h) (registry : Registry) (hplanned : ∀ i plan, .planned i plan ∉ o)
    (hissued : ∀ planId, issuedOf planId o = []) : Guarded cfg { s with registry } (h ++ o) :=
  hG.on (apart_ledger s "" fun _ _ _ hg => hg) (List.Subset.refl _) hplanned hissued
    ((hG.kept "").mono fun plan _ => hissued plan.planId)

theorem Guarded.message (hG : Guarded cfg s h) {requestId text : String} {mayCommand : Bool}
    (hs : step cfg s (.message threadId requestId text mayCommand) = some (s', o)) : Guarded cfg s' (h ++ o) := by
  have hK := hG.kept threadId
  simp only [step] at hs
  cases hrun : s.runs threadId with
  | some p =>
    simp only [hrun] at hs
    cases hs
    exact hG.still s.registry (by simp) fun _ => rfl
  | none =>
    simp only [hrun] at hs
    cases hs
    refine hG.on ((apart_setThread s threadId _).trans (apart_setRun _ threadId _)) (List.Subset.refl _) (by simp)
      (fun _ => rfl) ?_
    simp only [Sys.setRun, Sys.setThread, if_true, List.append_nil]
    refine ⟨hK.pending, fun plan _ hconfirm => ?_, by simp, hK.granted, by simp⟩
    cases hconfirm

theorem Guarded.decide (hG : Guarded cfg s h) {d : DecisionRequest} {now : ℤ}
    (hs : step cfg s (.decide threadId d now) = some (s', o)) : Guarded cfg s' (h ++ o) := by
  have hK := hG.kept threadId
  simp only [step] at hs
  cases hrun : s.runs threadId with
  | some p =>
    simp only [hrun] at hs
    cases hs
    exact hG.still s.registry (by simp) fun _ => rfl
  | none =>
    simp only [hrun] at hs
    obtain hpending | ⟨⟨interruptId, plan⟩, hpending⟩ :=
      ((s.threads threadId).pendingPlan cfg).eq_none_or_eq_some
    · simp only [hpending] at hs
      cases hs
      exact hG.still s.registry (by simp) fun _ => rfl
    · simp only [hpending] at hs
      split_ifs at hs with hother hexpired
      · cases hs
        exact hG.still s.registry (by simp) fun _ => rfl
      · cases hs
        exact hG.still s.registry (by simp) fun _ => rfl
      · cases hs
        push Not at hother hexpired
        obtain ⟨-, hid, hhash⟩ := hother
        obtain ⟨held, hheld, hid', hhash', hexpires⟩ := pendingPlan_spec hpending
        have hmono := hK.mono (o := [.decided threadId d now]) fun _ _ => rfl
        refine hG.on ((apart_ledger s threadId fun _ _ _ hg => hg).trans (apart_setRun _ threadId _))
          (List.Subset.refl _) (by simp) (fun _ => rfl) ?_
        simp only [Sys.setRun, if_true]
        refine ⟨hmono.pending, hmono.unspent, fun v hv => ?_, hmono.granted, by simp⟩
        cases hv
        exact ⟨held, d.interruptId, now, hheld, hid.symm.trans hid', hhash.symm.trans hhash', by simp,
          hexpires ▸ hexpired⟩

/-- **A plan is checked**, under an id not drawn before. -/
theorem Guarded.planned (hG : Guarded cfg s h) {plan : ReviewedPlan} (hfresh : plan.planId ∉ s.drawn) :
    Guarded cfg ({ s with drawn := plan.planId :: s.drawn }.complete cfg threadId
      [{ pendingPlan := some (some plan) }]) (h ++ [.planned threadId plan]) := by
  have hnew : ∀ {i plan'}, .planned i plan' ∈ h ++ [.planned threadId plan] →
      .planned i plan' ∈ h ∨ i = threadId ∧ plan' = plan := by
    intro i plan' hmem
    exact (List.mem_append.mp hmem).imp_right fun hlast => by simpa using hlast
  have hunissued : issuedOf plan.planId (h ++ [.planned threadId plan]) = [] := by
    rw [issuedOf_append, hG.unissued hfresh]
    rfl
  have hapart : Apart threadId s ({ s with drawn := plan.planId :: s.drawn }.complete cfg threadId
      [{ pendingPlan := some (some plan) }]) :=
    (apart_ledger s threadId fun _ _ _ hg => hg).trans (apart_complete _ cfg threadId _)
  refine ⟨fun i plan' hmem => ?_, fun i plan' j plan'' hi hj hid => ?_, fun planId hne => ?_, fun i => ?_⟩
  · obtain hold | ⟨-, rfl⟩ := hnew hmem
    · exact List.mem_cons_of_mem _ (hG.drawn i plan' hold)
    · exact List.mem_cons_self
  · obtain hi' | ⟨hi', rfl⟩ := hnew hi
    · obtain hj' | ⟨-, rfl⟩ := hnew hj
      · exact hG.once i plan' j plan'' hi' hj' hid
      · exact absurd (hid ▸ hG.drawn i plan' hi') hfresh
    · obtain hj' | ⟨hj', -⟩ := hnew hj
      · exact absurd (hid ▸ hG.drawn j plan'' hj') hfresh
      · exact hi'.trans hj'.symm
  · exact hG.door.quiet rfl hne
  · by_cases hi : i = threadId
    · subst hi
      have hmono := (hG.kept i).mono (o := [.planned i plan]) fun _ _ => rfl
      obtain ⟨hvalues, -, hrun⟩ := complete_self { s with drawn := plan.planId :: s.drawn } cfg i
        [{ pendingPlan := some (some plan) }]
      have hplan : ∀ plan', (({ s with drawn := plan.planId :: s.drawn }.complete cfg i
          [{ pendingPlan := some (some plan) }]).threads i).values.pendingPlan = some plan' → plan' = plan := by
        intro plan' hplan'
        rw [hvalues] at hplan'
        exact (Option.some.inj hplan').symm
      refine ⟨fun plan' hplan' => ?_, fun plan' hplan' _ => ?_, fun v hv => ?_, hmono.granted,
        fun g outcomes rest hp => ?_⟩
      · rw [hplan plan' hplan']
        simp
      · rw [hplan plan' hplan']
        exact hunissued
      · rcases hrun with hrun | hrun <;> rw [hrun] at hv <;> cases hv
      · rcases hrun with hrun | hrun <;> rw [hrun] at hp <;> cases hp
    · rw [hapart.threads i hi, hapart.runs i hi]
      exact ((hG.kept i).mono fun _ _ => rfl).dropGrant (hapart.grants i hi)

theorem Guarded.dryRuns (hG : Guarded cfg s h) {replies : List DryRun} {planId : String} {now : ℤ}
    (hs : step cfg s (.dryRuns threadId replies planId now) = some (s', o)) : Guarded cfg s' (h ++ o) := by
  have hdrop : ∀ notice, Guarded cfg (s.complete cfg threadId [dropPlan notice]) (h ++ []) := fun notice =>
    hG.quiet (unplanned_singleton (dropPlan_unplanned notice)) (Or.inr rfl)
  simp only [step] at hs
  split at hs
  · split at hs
    · cases hs
    · rename_i u hreview
      cases hs
      obtain ⟨notice, rfl⟩ := review_error hreview
      exact hdrop notice
    · split at hs
      · cases hs
        exact hdrop _
      · split_ifs at hs with hfresh
        cases hs
        exact hG.planned hfresh
  · cases hs

theorem Guarded.fail (hG : Guarded cfg s h) (hs : step cfg s (.fail threadId) = some (s', o)) :
    Guarded cfg s' (h ++ o) := by
  simp only [step] at hs
  split at hs
  · cases hs
  · cases hs
  · cases hs
    refine hG.on (((apart_ledger s threadId fun i _ g hg => (get?_revoke hg).2) :
      Apart threadId s (s.abandon threadId)).trans (apart_setRun _ threadId _)) (List.Subset.refl _) (by simp)
      (fun _ => rfl) ?_
    have hmono : Kept cfg (h ++ [.failed threadId]) threadId (s.threads threadId) none
        ((s.ledger.revoke threadId).grants.get? threadId) :=
      (((hG.kept threadId).setPhase (by simp) (by simp)).mono fun _ _ => rfl).dropGrant fun g hg => (get?_revoke hg).2
    simpa [Sys.setRun, Sys.abandon] using hmono

/-- **One step** keeps the door. -/
theorem Guarded.step {a : Act} (hG : Guarded cfg s h) (hs : (copilot cfg).step s a = some (s', o)) :
    Guarded cfg s' (h ++ o) := by
  change Copilot.step cfg s a = some (s', o) at hs
  cases a with
  | message threadId requestId text mayCommand => exact hG.message hs
  | decide threadId d now => exact hG.decide hs
  | stop threadId =>
    cases hs
    exact hG.still _ (by simp) fun _ => rfl
  | node threadId now =>
    simp only [Copilot.step] at hs
    split at hs
    · rename_i resume hrun
      exact hG.nodeStep hrun hs
    · cases hs
  | model threadId updates =>
    simp only [Copilot.step] at hs
    split at hs
    · split_ifs at hs with hreturns
      cases hs
      refine hG.quiet (fun u hu => ?_) (Or.inl fun task htask => planCheck_not_model (hreturns.1 task htask))
      obtain ⟨node, hnode, hwithin⟩ := hreturns.within hu
      exact unplanned_of_within hnode hwithin
    · cases hs
  | pause threadId interruptId =>
    simp only [Copilot.step] at hs
    split at hs
    · split_ifs at hs
      cases hs
      refine hG.on ((apart_setThread s threadId _).trans (apart_setRun _ threadId _)) (List.Subset.refl _) (by simp)
        (fun _ => rfl) ?_
      have hK := hG.kept threadId
      simp only [Sys.setRun, Sys.setThread, if_true, List.append_nil]
      exact ⟨hK.pending, hK.unspent, by simp, hK.granted, by simp⟩
    · cases hs
  | dryRuns threadId replies planId now => exact hG.dryRuns hs
  | answered threadId result =>
    simp only [Copilot.step] at hs
    split at hs
    · rename_i g outcomes c rest hrun
      obtain ⟨hnext, hnone, hGr, hrest⟩ := (hG.kept threadId).applying g outcomes (c :: rest) hrun
      exact hG.proceed (r := s) ⟨fun _ _ => rfl, fun _ _ => rfl, fun _ _ _ hg => hg⟩ rfl (List.Subset.refl _) hnone
        hnext hGr hrest (Option.some.inj hs)
    · cases hs
  | done threadId =>
    simp only [Copilot.step] at hs
    split at hs
    · cases hs
      refine hG.on (apart_setRun s threadId _) (List.Subset.refl _) (by simp) (fun _ => rfl) ?_
      have hphase := ((hG.kept threadId).setPhase (q := none) (by simp) (by simp)).mono (o := []) fun _ _ => rfl
      simpa [Sys.setRun] using hphase
    · cases hs
  | fail threadId => exact hG.fail hs
  | anyOpen now =>
    cases hs
    exact hG.still _ (by simp) fun _ => rfl
  | evict threadId =>
    simp only [Copilot.step] at hs
    split at hs
    · rename_i hrun _
      cases hs
      refine hG.on (apart_setThread s threadId _) (List.Subset.refl _) (by simp) (fun _ => rfl) ?_
      have hK := hG.kept threadId
      simp only [Sys.setThread, if_true, List.append_nil, hrun]
      exact ⟨by simp, by simp, by simp, hK.granted, by simp⟩
    · cases hs
  | restart =>
    cases hs
    rw [List.append_nil]
    exact ⟨hG.drawn, hG.once, hG.door, kept_init h⟩

theorem guarded_init (cfg : Config) : Guarded cfg .init [] :=
  ⟨by simp, by simp, fun _ hne => absurd rfl hne, kept_init []⟩

/-- **One door to the building**, in every run. -/
theorem one_door (hr : (copilot cfg).Reaches .init s h) : OneDoor cfg h :=
  (hr.hist (fun hG hs => hG.step hs) (guarded_init cfg)).door

def room : String := "0b9d2c1e-5a53-4c5f-9d5e-3f8f0c2a7b11"

def coolerPlan : String := "c2c1a6de-4d0b-4a53-8a39-0f9f4c1d2e77"

/-- The hash of one command: the room at 23 °C for an hour. -/
def coolerHash : String := "a2ee6a8f9de71029615893cecaf8d2d13f3fd90a490c89ed0c67dd6880ac1b87"

def siteGraph : Config where
  limits := ⟨300, 600, 120, 40, 12, 3⟩
  hash commands := if commands = [⟨room, 23, some 3600, "too warm"⟩] then coolerHash else ""
  isUuid s := s.length = 36
  verifyText _ _ := []
  presentable _ _ := true

/-- A plan is proposed, checked, approved and issued. -/
def approvedRun : List Act :=
  [.message "u:1" "r1" "make the room cooler" true, .node "u:1" 0,
    .model "u:1" [{ context := some (some ⟨[⟨room, "Room 1"⟩]⟩) }],
    .model "u:1" [{
      scope := some (some ⟨true, false, .planner⟩)
      controlTask := some (some ⟨.propose, "make the room cooler", .pending⟩)
      plannerRoute := some (some ⟨.control, []⟩) }],
    .model "u:1" [{
      controlTask := some (some ⟨.propose, "make the room cooler", .done⟩)
      proposal := some (some ⟨"lower one room", [⟨room, 23, none, "too warm"⟩]⟩) }],
    .node "u:1" 1000, .dryRuns "u:1" [.allowed ⟨24, 3600, "2026-09-28T13:40:00Z"⟩] coolerPlan 2000,
    .pause "u:1" "i1", .done "u:1", .decide "u:1" ⟨⟨.approved, coolerPlan, coolerHash⟩, "i1"⟩ 60000,
    .node "u:1" 60000, .node "u:1" 60001]

theorem one_door_approvedRun : ∃ s h, (copilot siteGraph).Reaches .init s h ∧
    issuedOf coolerPlan h = [⟨room, 23, some 3600, "copilot (operator-approved): too warm"⟩] ∧ OneDoor siteGraph h := by
  have hgo : ∃ r ∈ (copilot siteGraph).exec .init approvedRun,
      issuedOf coolerPlan r.2 = [⟨room, 23, some 3600, "copilot (operator-approved): too warm"⟩] := by decide +kernel
  obtain ⟨⟨s, h⟩, hr, hissued⟩ := hgo
  exact ⟨s, h, ⟨approvedRun, hr⟩, hissued, one_door ⟨approvedRun, hr⟩⟩

end DTwin.Copilot
