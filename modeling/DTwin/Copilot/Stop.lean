import DTwin.Copilot.Door

/-!
# DTwin.Copilot.Stop — does Stop stop?

`apply` asks the registry before every command whether the operator has pressed Stop, and the answer is in the
request's entry.  The sweep drops an entry that is older than a deadline and a plan TTL, and so the Stop in it, also
while `apply` waits for the issuer: the next command is issued (`swept_stop_issues`).  If the Stop finds the request
and no sweep drops it while commands are left, Stop stops (`stop_means_stop`).
-/

namespace DTwin.Copilot

open OrderedMap Machine

/-! ## The condition -/

/-- The thread's `apply` waits for the issuer, with commands left to issue. -/
def Sys.halfway (s : Sys) (threadId : String) : Bool :=
  match s.runs threadId with
  | some (.applying _ _ (_ :: _ :: _)) => true
  | _ => false

/-- When a step sweeps the registry. -/
def Sys.sweeps (s : Sys) : Act → Option ℤ
  | .anyOpen now => some now
  | .node threadId now => if (s.threads threadId).next.map Task.node = [.intake] then some now else none
  | _ => none

/-- The thread that a step stops. -/
def Act.stops : Act → Option String
  | .stop threadId => some threadId
  | _ => none

/-- The Stop of an `apply` that has commands left finds the request, and no sweep drops it after. -/
structure KeepsStop (cfg : Config) (s : Sys) (_ : List Obs) (a : Act) : Prop where
  held : ∀ threadId ∈ a.stops, s.halfway threadId = true → (s.registry.entries.get? threadId).isSome = true
  kept : ∀ now ∈ s.sweeps a, ∀ x ∈ s.registry.entries.entries, x.2.stopRequested = true → s.halfway x.1 = true →
    now - x.2.startedAt < ((cfg.limits.deadlineS : ℤ) + cfg.limits.planTtlS) * 1000

instance (cfg : Config) (s : Sys) (h : List Obs) (a : Act) : Decidable (KeepsStop cfg s h a) :=
  decidable_of_iff
    ((∀ threadId ∈ a.stops, s.halfway threadId = true → (s.registry.entries.get? threadId).isSome = true) ∧
    ∀ now ∈ s.sweeps a, ∀ x ∈ s.registry.entries.entries, x.2.stopRequested = true → s.halfway x.1 = true →
      now - x.2.startedAt < ((cfg.limits.deadlineS : ℤ) + cfg.limits.planTtlS) * 1000)
    ⟨fun hC => ⟨hC.1, hC.2⟩, fun hC => ⟨hC.held, hC.kept⟩⟩

variable {cfg : Config} {s s' : Sys} {h o : List Obs} {a : Act} {i j threadId : String}

/-! ## What a step calls for -/

/-- The step is one of `apply` on the thread: it takes a grant for the plan, or has the issuer's answer. -/
inductive Calls (s : Sys) (a : Act) (j planId : String) : Prop
  | first {now : ℤ} {g : Grant} (ha : a = .node j now)
      (hg : s.ledger.grants.get? j = some g) (hid : g.planId = planId)
  | next {result : Option IssueResult} {g : Grant} {outcomes : List Outcome} {rest : List GrantedCommand}
      (ha : a = .answered j result) (hrun : s.runs j = some (.applying g outcomes rest)) (hid : g.planId = planId)

/-- The thread has an apply in progress, for this plan. -/
def Sys.Applies (s : Sys) (j planId : String) : Prop :=
  ∃ g outcomes rest, s.runs j = some (.applying g outcomes rest) ∧ g.planId = planId

/-- What a step issues and reports was called for, and an apply that it begins is one it issues for. -/
structure Called (s : Sys) (a : Act) (s' : Sys) (o : List Obs) : Prop where
  issues : ∀ j planId command, .issued j planId command ∈ o → Calls s a j planId
  reports : ∀ j planId outcomes, .applied j planId outcomes ∈ o → Calls s a j planId
  runs : ∀ j planId, s'.Applies j planId → s.Applies j planId ∨ ∃ command, .issued j planId command ∈ o

theorem Called.quiet (hruns : ∀ j, s'.runs j = s.runs j ∨
      ∀ g outcomes rest, s'.runs j ≠ some (.applying g outcomes rest))
    (ho : ∀ x ∈ o, (∀ j planId command, x ≠ .issued j planId command) ∧
      ∀ j planId outcomes, x ≠ .applied j planId outcomes) :
    Called s a s' o where
  issues j planId command hmem := absurd rfl ((ho _ hmem).1 j planId command)
  reports j planId outcomes hmem := absurd rfl ((ho _ hmem).2 j planId outcomes)
  runs j planId := by
    rintro ⟨g, outcomes, rest, hrun, hid⟩
    obtain hsame | hnone := hruns j
    · exact Or.inl ⟨g, outcomes, rest, hsame ▸ hrun, hid⟩
    · exact absurd hrun (hnone g outcomes rest)

theorem complete_runs (s : Sys) (cfg : Config) (threadId : String) (updates : List Update) (j : String) :
    (s.complete cfg threadId updates).runs j = s.runs j ∨
      ∀ g outcomes rest, (s.complete cfg threadId updates).runs j ≠ some (.applying g outcomes rest) := by
  by_cases hj : j = threadId
  · subst hj
    refine Or.inr fun g outcomes rest heq => ?_
    obtain hrun | hrun := (complete_self s cfg j updates).2.2 <;> rw [hrun] at heq <;> cases heq
  · exact Or.inl ((apart_complete s cfg threadId updates).runs j hj)

theorem setRun_runs (s : Sys) (threadId : String) {p : Option Phase}
    (hp : ∀ g outcomes rest, p ≠ some (.applying g outcomes rest)) (j : String) :
    (s.setRun threadId p).runs j = s.runs j ∨
      ∀ g outcomes rest, (s.setRun threadId p).runs j ≠ some (.applying g outcomes rest) := by
  by_cases hj : j = threadId
  · subst hj
    exact Or.inr fun g outcomes rest => by simpa [Sys.setRun] using hp g outcomes rest
  · exact Or.inl (if_neg hj)

/-- `apply` from one command on, of a thread and a plan that were called for. -/
theorem Called.proceed {r : Sys} (hruns : r.runs = s.runs) {g : Grant} {outcomes : List Outcome}
    {rest : List GrantedCommand} (hcalls : Calls s a threadId g.planId)
    (hs : r.proceed cfg threadId g outcomes rest = (s', o)) : Called s a s' o := by
  have hdone : ∀ outcomes halted, Called s a (r.complete cfg threadId [applied outcomes halted])
      [.applied threadId g.planId outcomes] := by
    intro outcomes halted
    refine ⟨by simp, fun j planId out hmem => ?_, fun j planId => ?_⟩
    · cases List.mem_singleton.mp hmem
      exact hcalls
    · rintro ⟨g', outcomes', rest', hrun, hid⟩
      obtain hsame | hnone := complete_runs r cfg threadId [applied outcomes halted] j
      · exact Or.inl ⟨g', outcomes', rest', by rw [← hruns, ← hsame, hrun], hid⟩
      · exact absurd hrun (hnone g' outcomes' rest')
  cases rest with
  | nil =>
    cases hs
    exact hdone outcomes false
  | cons c rest =>
    simp only [Sys.proceed] at hs
    by_cases hstop : r.registry.stopRequested threadId = true
    · rw [if_pos hstop] at hs
      cases hs
      exact hdone _ true
    · rw [if_neg hstop] at hs
      cases hs
      refine ⟨fun j planId command hmem => ?_, by simp, fun j planId => ?_⟩
      · cases List.mem_singleton.mp hmem
        exact hcalls
      · rintro ⟨g', outcomes', rest', hrun, hid⟩
        by_cases hj : j = threadId
        · subst hj
          have hself : (r.setRun j (some (.applying g outcomes (c :: rest)))).runs j = _ := if_pos rfl
          cases hself.symm.trans hrun
          exact Or.inr ⟨c.spec, by simp [hid]⟩
        · have hother : (r.setRun threadId (some (.applying g outcomes (c :: rest)))).runs j = r.runs j := if_neg hj
          exact Or.inl ⟨g', outcomes', rest', by rw [← hruns, ← hother, hrun], hid⟩

theorem Called.complete {ledger : Ledger} {registry : Registry} {drawn : List String} {updates : List Update}
    (ho : ∀ x ∈ o, (∀ j planId command, x ≠ .issued j planId command) ∧
      ∀ j planId outcomes, x ≠ .applied j planId outcomes) :
    Called s a ({ s with ledger, registry, drawn }.complete cfg threadId updates) o :=
  Called.quiet (fun j => complete_runs { s with ledger, registry, drawn } cfg threadId updates j) ho

theorem Called.nodeStep {now : ℤ} {resume : Option ResumeValue} {nodes : List Node}
    (hs : nodeStep cfg s threadId now resume nodes = some (s', o)) : Called s (.node threadId now) s' o := by
  unfold Copilot.nodeStep at hs
  split at hs
  · -- intake
    obtain ⟨inbox, -, hdone⟩ := Option.map_eq_some_iff.mp hs
    cases hdone
    exact Called.complete (by simp)
  · -- join
    cases hs
    exact Called.complete (by simp)
  · -- plan_check
    split at hs
    · cases hs
      exact Called.complete (by simp)
    · cases hs
      exact Called.quiet (fun j => setRun_runs s threadId (by simp) j) (by simp)
  · -- confirm
    obtain ⟨v, -, hdone⟩ := Option.map_eq_some_iff.mp hs
    obtain ⟨⟨ledger, decision⟩, hconfirm⟩ :
        ∃ r, confirm cfg s.ledger now threadId (s.threads threadId).values v = r := ⟨_, rfl⟩
    simp only [hconfirm] at hdone
    cases hdone
    exact Called.complete (by simp)
  · -- apply
    obtain ⟨⟨ledger, taken⟩, htake⟩ : ∃ r, s.ledger.take cfg.limits.ledger now threadId = r := ⟨_, rfl⟩
    simp only [htake] at hs
    cases taken with
    | none =>
      cases hs
      exact Called.complete (by simp)
    | some g =>
      simp only at hs
      split_ifs at hs
      · exact Called.proceed (r := { s with ledger }) rfl (.first rfl (take_spec htake).1 rfl) (Option.some.inj hs)
      · cases hs
        exact Called.complete (by simp)
  · -- declined
    cases hs
    exact Called.complete (by simp)
  · -- finish
    cases hs
    exact Called.complete (by simp)
  · cases hs

/-- **What any step issues, reports or begins to apply was called for.** -/
theorem step_called (hs : (copilot cfg).step s a = some (s', o)) : Called s a s' o := by
  change Copilot.step cfg s a = some (s', o) at hs
  cases a with
  | message threadId requestId text mayCommand =>
    simp only [Copilot.step] at hs
    split at hs
    · cases hs
      exact Called.quiet (fun _ => Or.inl rfl) (by simp)
    · cases hs
      exact Called.quiet (fun j => setRun_runs _ threadId (by simp) j) (by simp)
  | decide threadId d now =>
    simp only [Copilot.step] at hs
    split at hs
    · cases hs
      exact Called.quiet (fun _ => Or.inl rfl) (by simp)
    · split at hs
      · cases hs
        exact Called.quiet (fun _ => Or.inl rfl) (by simp)
      · split_ifs at hs
        · cases hs
          exact Called.quiet (fun _ => Or.inl rfl) (by simp)
        · cases hs
          exact Called.quiet (fun _ => Or.inl rfl) (by simp)
        · cases hs
          exact Called.quiet (fun j => setRun_runs _ threadId (by simp) j) (by simp)
  | stop threadId =>
    cases hs
    exact Called.quiet (fun _ => Or.inl rfl) (by simp)
  | node threadId now =>
    simp only [Copilot.step] at hs
    split at hs
    · exact Called.nodeStep hs
    · cases hs
  | model threadId updates =>
    simp only [Copilot.step] at hs
    split at hs
    · split_ifs at hs
      cases hs
      exact Called.complete (by simp)
    · cases hs
  | pause threadId interruptId =>
    simp only [Copilot.step] at hs
    split at hs
    · split_ifs at hs
      cases hs
      exact Called.quiet (fun j => setRun_runs _ threadId (by simp) j) (by simp)
    · cases hs
  | dryRuns threadId replies planId now =>
    simp only [Copilot.step] at hs
    split at hs
    · split at hs
      · cases hs
      · cases hs
        exact Called.complete (by simp)
      · split at hs
        · cases hs
          exact Called.complete (by simp)
        · split_ifs at hs
          cases hs
          exact Called.complete (by simp)
    · cases hs
  | answered threadId result =>
    simp only [Copilot.step] at hs
    split at hs
    · rename_i g outcomes c rest hrun
      exact Called.proceed (r := s) rfl (.next rfl hrun rfl) (Option.some.inj hs)
    · cases hs
  | done threadId =>
    simp only [Copilot.step] at hs
    split at hs
    · cases hs
      exact Called.quiet (fun j => setRun_runs s threadId (by simp) j) (by simp)
    · cases hs
  | fail threadId =>
    simp only [Copilot.step] at hs
    split at hs
    · cases hs
    · cases hs
    · cases hs
      exact Called.quiet (fun j => setRun_runs _ threadId (by simp) j) (by simp)
  | anyOpen now =>
    cases hs
    exact Called.quiet (fun _ => Or.inl rfl) (by simp)
  | evict threadId =>
    simp only [Copilot.step] at hs
    split at hs
    · cases hs
      exact Called.quiet (fun _ => Or.inl rfl) (by simp)
    · cases hs
  | restart =>
    cases hs
    exact Called.quiet (fun _ => Or.inr (by simp [Sys.init])) (by simp)

/-! ## An apply that waits -/

theorem stopRequested_iff {r : Registry} :
    r.stopRequested threadId = true ↔ ∃ e, r.entries.get? threadId = some e ∧ e.stopRequested = true := by
  unfold Registry.stopRequested
  cases r.entries.get? threadId with
  | none => simp
  | some e => simp

/-- `proceed` touches its own turn only, and no request. -/
theorem proceed_beside {r : Sys} {g : Grant} {outcomes : List Outcome} {rest : List GrantedCommand}
    (hs : r.proceed cfg threadId g outcomes rest = (s', o)) :
    (∀ i, i ≠ threadId → s'.runs i = r.runs i) ∧ s'.registry = r.registry := by
  cases rest with
  | nil =>
    cases hs
    exact ⟨(apart_complete r cfg threadId _).runs, rfl⟩
  | cons c rest =>
    simp only [Sys.proceed] at hs
    split_ifs at hs
    · cases hs
      exact ⟨(apart_complete r cfg threadId _).runs, rfl⟩
    · cases hs
      exact ⟨(apart_setRun r threadId _).runs, rfl⟩

/-- A superstep touches its own turn only; `intake` begins the thread's request and `finish` ends it. -/
theorem nodeStep_beside {now : ℤ} {resume : Option ResumeValue} {nodes : List Node}
    (hs : nodeStep cfg s threadId now resume nodes = some (s', o)) :
    (∀ i, i ≠ threadId → s'.runs i = s.runs i) ∧
      (s'.registry = s.registry ∨ s'.registry = s.registry.close threadId ∨
        nodes = [.intake] ∧ ∃ requestId, s'.registry = s.registry.begin cfg.limits now threadId requestId) := by
  have hsame : ∀ ledger updates, (∀ i, i ≠ threadId →
      ({ s with ledger }.complete cfg threadId updates).runs i = s.runs i) := fun ledger updates =>
    (apart_complete { s with ledger } cfg threadId updates).runs
  unfold Copilot.nodeStep at hs
  split at hs
  · -- intake
    obtain ⟨inbox, -, hdone⟩ := Option.map_eq_some_iff.mp hs
    cases hdone
    exact ⟨fun i hi => if_neg hi, Or.inr (Or.inr ⟨rfl, inbox.requestId, rfl⟩)⟩
  · -- join
    cases hs
    exact ⟨hsame _ _, Or.inl rfl⟩
  · -- plan_check
    split at hs
    · cases hs
      exact ⟨hsame _ _, Or.inl rfl⟩
    · cases hs
      exact ⟨(apart_setRun s threadId _).runs, Or.inl rfl⟩
  · -- confirm
    obtain ⟨v, -, hdone⟩ := Option.map_eq_some_iff.mp hs
    cases hdone
    exact ⟨hsame _ _, Or.inl rfl⟩
  · -- apply
    obtain ⟨⟨ledger, taken⟩, htake⟩ : ∃ r, s.ledger.take cfg.limits.ledger now threadId = r := ⟨_, rfl⟩
    simp only [htake] at hs
    cases taken with
    | none =>
      cases hs
      exact ⟨hsame _ _, Or.inl rfl⟩
    | some g =>
      simp only at hs
      split_ifs at hs
      · obtain ⟨hruns, hregistry⟩ := proceed_beside (r := { s with ledger }) (Option.some.inj hs)
        exact ⟨hruns, Or.inl hregistry⟩
      · cases hs
        exact ⟨hsame _ _, Or.inl rfl⟩
  · -- declined
    cases hs
    exact ⟨hsame _ _, Or.inl rfl⟩
  · -- finish
    cases hs
    exact ⟨fun i hi => if_neg hi, Or.inr (Or.inl rfl)⟩
  · cases hs

/-- A sweep that keeps Stops keeps this one. -/
theorem KeepsStop.sweep (hC : KeepsStop cfg s h a) {now : ℤ} (hsweep : now ∈ s.sweeps a) {e : Entry}
    (hhalf : s.halfway i = true) (he : s.registry.entries.get? i = some e) (hstop : e.stopRequested = true) :
    (s.registry.sweep cfg.limits now).entries.get? i = some e :=
  get?_sweep_entries he (hC.kept now hsweep (i, e) (mem_entries.mpr he) hstop hhalf)

/-- **While an apply waits** no step of another kind than its answer changes its turn, or takes back its Stop. -/
theorem step_waiting {g : Grant} {outcomes : List Outcome} {rest : List GrantedCommand}
    (hrun : s.runs i = some (.applying g outcomes rest)) (hans : ∀ result, a ≠ .answered i result)
    (hrestart : a ≠ .restart) (hs : (copilot cfg).step s a = some (s', o)) :
    s'.runs i = s.runs i ∧ (KeepsStop cfg s h a → s.halfway i = true → s.registry.stopRequested i = true →
      s'.registry.stopRequested i = true) := by
  have hother : ∀ {j p}, s.runs j = p → (∀ g outcomes rest, p ≠ some (.applying g outcomes rest)) → i ≠ j := by
    rintro j p hj hne rfl
    exact hne _ _ _ (hj.symm.trans hrun)
  change Copilot.step cfg s a = some (s', o) at hs
  cases a with
  | message j requestId text mayCommand =>
    simp only [Copilot.step] at hs
    split at hs
    · cases hs
      exact ⟨rfl, fun _ _ hstop => hstop⟩
    · rename_i hj
      cases hs
      exact ⟨if_neg (hother hj (by simp)), fun _ _ hstop => hstop⟩
  | decide j d now =>
    simp only [Copilot.step] at hs
    split at hs
    · cases hs
      exact ⟨rfl, fun _ _ hstop => hstop⟩
    · rename_i hj
      split at hs
      · cases hs
        exact ⟨rfl, fun _ _ hstop => hstop⟩
      · split_ifs at hs
        · cases hs
          exact ⟨rfl, fun _ _ hstop => hstop⟩
        · cases hs
          exact ⟨rfl, fun _ _ hstop => hstop⟩
        · cases hs
          have hne := hother hj (by simp)
          refine ⟨if_neg hne, fun _ _ hstop => ?_⟩
          rw [stopRequested_iff] at hstop ⊢
          simpa only [Sys.setRun, get?_clearStop_entries hne] using hstop
  | stop j =>
    cases hs
    refine ⟨rfl, fun _ _ hstop => ?_⟩
    obtain ⟨e, he, hpressed⟩ := stopRequested_iff.mp hstop
    obtain ⟨e', he', hkept, -⟩ := get?_stop_entries j he
    exact stopRequested_iff.mpr ⟨e', he', hkept hpressed⟩
  | node j now =>
    simp only [Copilot.step] at hs
    split at hs
    · rename_i resume hj
      have hne := hother hj (by simp)
      obtain ⟨hruns, hregistry⟩ := nodeStep_beside hs
      refine ⟨hruns i hne, fun hC hhalf hstop => ?_⟩
      obtain ⟨e, he, hpressed⟩ := stopRequested_iff.mp hstop
      rw [stopRequested_iff]
      obtain hsame | hclose | ⟨hnext, requestId, hbegin⟩ := hregistry
      · exact ⟨e, hsame ▸ he, hpressed⟩
      · exact ⟨e, by rw [hclose, get?_close_entries hne, he], hpressed⟩
      · have hsweep : now ∈ s.sweeps (.node j now) := by simp [Sys.sweeps, hnext]
        exact ⟨e, by rw [hbegin, get?_begin_entries hne, hC.sweep hsweep hhalf he hpressed], hpressed⟩
    · cases hs
  | model j updates =>
    simp only [Copilot.step] at hs
    split at hs
    · rename_i hj
      split_ifs at hs
      cases hs
      exact ⟨(apart_complete s cfg j updates).runs i (hother hj (by simp)), fun _ _ hstop => hstop⟩
    · cases hs
  | pause j interruptId =>
    simp only [Copilot.step] at hs
    split at hs
    · rename_i hj
      split_ifs at hs
      cases hs
      exact ⟨if_neg (hother hj (by simp)), fun _ _ hstop => hstop⟩
    · cases hs
  | dryRuns j replies planId now =>
    simp only [Copilot.step] at hs
    split at hs
    · rename_i hj
      have hne := hother hj (by simp)
      split at hs
      · cases hs
      · cases hs
        exact ⟨(apart_complete s cfg j _).runs i hne, fun _ _ hstop => hstop⟩
      · split at hs
        · cases hs
          exact ⟨(apart_complete s cfg j _).runs i hne, fun _ _ hstop => hstop⟩
        · split_ifs at hs
          cases hs
          exact ⟨(apart_complete { s with drawn := planId :: s.drawn } cfg j _).runs i hne, fun _ _ hstop => hstop⟩
    · cases hs
  | answered j result =>
    simp only [Copilot.step] at hs
    split at hs
    · have hne : i ≠ j := by
        rintro rfl
        exact hans result rfl
      obtain ⟨hruns, hregistry⟩ := proceed_beside (Option.some.inj hs)
      exact ⟨hruns i hne, fun _ _ hstop => hregistry ▸ hstop⟩
    · cases hs
  | done j =>
    simp only [Copilot.step] at hs
    split at hs
    · rename_i hj
      cases hs
      exact ⟨if_neg (hother hj (by simp)), fun _ _ hstop => hstop⟩
    · cases hs
  | fail j =>
    simp only [Copilot.step] at hs
    split at hs
    · cases hs
    · cases hs
    · rename_i p hidle hj
      cases hs
      have hne' : i ≠ j := hother hj fun g outcomes rest heq => hidle g outcomes rest (Option.some.inj heq)
      refine ⟨if_neg hne', fun _ _ hstop => ?_⟩
      rw [stopRequested_iff] at hstop ⊢
      simpa only [Sys.setRun, Sys.abandon, get?_close_entries hne'] using hstop
  | anyOpen now =>
    cases hs
    refine ⟨rfl, fun hC hhalf hstop => ?_⟩
    obtain ⟨e, he, hpressed⟩ := stopRequested_iff.mp hstop
    exact stopRequested_iff.mpr ⟨e, hC.sweep rfl hhalf he hpressed, hpressed⟩
  | evict j =>
    simp only [Copilot.step] at hs
    split at hs
    · cases hs
      exact ⟨rfl, fun _ _ hstop => hstop⟩
    · cases hs
  | restart => exact absurd rfl hrestart

/-! ## After the Stop -/

/-- What is left of an apply when Stop was pressed: it waits for the answer it was waiting for, or is over. -/
inductive Left (s : Sys) (i : String) (g : Grant) (outcomes : List Outcome) (c : GrantedCommand)
    (rest : List GrantedCommand) : Prop
  | waiting (hrun : s.runs i = some (.applying g outcomes (c :: rest)))
      (hstop : rest ≠ [] → s.registry.stopRequested i = true)
  | ended (hnone : ∀ j, ¬ s.Applies j g.planId)

/-- The report of an apply whose commands after the first are kept back. -/
def keptBack (outcomes : List Outcome) (c : GrantedCommand) (rest : List GrantedCommand)
    (result : Option IssueResult) : List Outcome :=
  outcomes ++ c.outcome (result.getD unreachableResult) :: rest.map (·.outcome stoppedResult)

/-- Nothing is issued for the plan, and the thread's report, if there is one, says that the rest was kept back. -/
structure Silent (i planId : String) (outcomes : List Outcome) (c : GrantedCommand) (rest : List GrantedCommand)
    (o : List Obs) : Prop where
  issues : ∀ j command, .issued j planId command ∉ o
  reports : ∀ j out, .applied j planId out ∈ o → j = i ∧ ∃ result, out = keptBack outcomes c rest result

theorem Silent.append {planId : String} {outcomes : List Outcome} {c : GrantedCommand} {rest : List GrantedCommand}
    (h₁ : Silent i planId outcomes c rest h) (h₂ : Silent i planId outcomes c rest o) :
    Silent i planId outcomes c rest (h ++ o) where
  issues j command hmem := (List.mem_append.mp hmem).elim (h₁.issues j command) (h₂.issues j command)
  reports j out hmem := (List.mem_append.mp hmem).elim (h₁.reports j out) (h₂.reports j out)

/-- The answer of the issuer ends a stopped apply. -/
theorem answered_stopped (cfg : Config) {g : Grant} {outcomes : List Outcome} {c : GrantedCommand}
    {rest : List GrantedCommand}
    (hrun : s.runs i = some (.applying g outcomes (c :: rest)))
    (hstop : rest ≠ [] → s.registry.stopRequested i = true) (result : Option IssueResult) :
    ∃ halted, (copilot cfg).step s (.answered i result) =
      some (s.complete cfg i [applied (keptBack outcomes c rest result) halted],
        [.applied i g.planId (keptBack outcomes c rest result)]) := by
  change ∃ halted, Copilot.step cfg s (.answered i result) = _
  simp only [Copilot.step, hrun]
  cases rest with
  | nil => exact ⟨false, rfl⟩
  | cons d rest =>
    refine ⟨true, ?_⟩
    rw [Sys.proceed, if_pos (hstop (List.cons_ne_nil d rest)), keptBack, List.append_assoc, List.singleton_append]

/-- A plan that is applied has been issued for. -/
theorem applies_issued (hr : (copilot cfg).Reaches .init s h) :
    ∀ j planId, s.Applies j planId → issuedOf planId h ≠ [] := by
  refine hr.hist (I := fun s h => ∀ j planId, s.Applies j planId → issuedOf planId h ≠ []) ?_ ?_
  · intro s h a s' o hI hs j planId happlies
    rw [issuedOf_append]
    obtain hbefore | ⟨command, hmem⟩ := (step_called hs).runs j planId happlies
    · exact List.append_ne_nil_of_left_ne_nil (hI j planId hbefore) _
    · refine List.append_ne_nil_of_right_ne_nil _ (List.ne_nil_of_mem (a := command) ?_)
      exact List.mem_flatMap.mpr ⟨_, hmem, by simp [Obs.issues]⟩
  · rintro j planId ⟨g, outcomes, rest, hrun, -⟩
    cases hrun

/-- **One step after the Stop.** -/
theorem Left.step {g : Grant} {outcomes : List Outcome} {c : GrantedCommand} {rest : List GrantedCommand}
    (hG : Guarded cfg s h) (hissued : issuedOf g.planId h ≠ [])
    (hplanned : ∃ plan, .planned i plan ∈ h ∧ plan.planId = g.planId) (hL : Left s i g outcomes c rest)
    (hC : KeepsStop cfg s h a) (hs : (copilot cfg).step s a = some (s', o)) :
    Left s' i g outcomes c rest ∧ Silent i g.planId outcomes c rest o := by
  obtain ⟨plan, hplan, hid⟩ := hplanned
  -- the plan is this thread's
  have hmine : ∀ j, s.Applies j g.planId → j = i := by
    rintro j ⟨g', outcomes', rest', hrun', hid'⟩
    obtain ⟨-, -, hGr, -⟩ := (hG.kept j).applying g' outcomes' rest' hrun'
    obtain ⟨plan', hplan', hplanId'⟩ := hGr.planned
    exact hG.once j plan' i plan hplan' hplan (hplanId'.trans (hid'.trans hid.symm))
  -- a grant for it would be for a plan not issued
  have hcalls : ∀ j, Calls s a j g.planId → s.Applies j g.planId ∧ ∃ result, a = .answered j result := by
    rintro j (⟨-, hg, hid'⟩ | ⟨ha, hrun', hid'⟩)
    · exact absurd (hid' ▸ ((hG.kept j).granted _ hg).2) hissued
    · exact ⟨⟨_, _, _, hrun', hid'⟩, _, ha⟩
  have hcalled := step_called hs
  have hquiet : (∀ j, ¬ Calls s a j g.planId) → Silent i g.planId outcomes c rest o := fun hnone =>
    ⟨fun j command hmem => hnone j (hcalled.issues j _ command hmem),
      fun j out hmem => absurd (hcalled.reports j _ out hmem) (hnone j)⟩
  have hend : (∀ j, ¬ Calls s a j g.planId) → (∀ j, ¬ s.Applies j g.planId) → ∀ j, ¬ s'.Applies j g.planId := by
    intro hnone hover j happlies
    obtain hbefore | ⟨command, hmem⟩ := hcalled.runs j _ happlies
    · exact hover j hbefore
    · exact hnone j (hcalled.issues j _ command hmem)
  cases hL with
  | ended hover =>
    have hnone : ∀ j, ¬ Calls s a j g.planId := fun j hcall => hover j (hcalls j hcall).1
    exact ⟨.ended (hend hnone hover), hquiet hnone⟩
  | waiting hrun hstop =>
    by_cases hans : ∃ result, a = .answered i result
    · obtain ⟨result, rfl⟩ := hans
      obtain ⟨halted, hstep⟩ := answered_stopped cfg hrun hstop result
      cases hstep.symm.trans hs
      refine ⟨.ended ?_, by simp, fun j out hmem => ?_⟩
      · rintro j ⟨g', outcomes', rest', hrun', hid'⟩
        obtain hsame | hnone := complete_runs s cfg i [applied (keptBack outcomes c rest result) halted] j
        · obtain rfl := hmine j ⟨g', outcomes', rest', hsame ▸ hrun', hid'⟩
          obtain hself | hself := (complete_self s cfg j [applied (keptBack outcomes c rest result) halted]).2.2
          · rw [hself] at hrun'
            cases hrun'
          · rw [hself] at hrun'
            cases hrun'
        · exact absurd hrun' (hnone g' outcomes' rest')
      · cases List.mem_singleton.mp hmem
        exact ⟨rfl, result, rfl⟩
    · have hnone : ∀ j, ¬ Calls s a j g.planId := by
        intro j hcall
        obtain ⟨happlies, result, ha⟩ := hcalls j hcall
        exact hans ⟨result, hmine j happlies ▸ ha⟩
      refine ⟨?_, hquiet hnone⟩
      by_cases hrestart : a = .restart
      · subst hrestart
        cases hs
        refine .ended ?_
        rintro j ⟨g', outcomes', rest', hrun', -⟩
        cases hrun'
      · obtain ⟨hsame, hkept⟩ := step_waiting hrun (fun result ha => hans ⟨result, ha⟩) hrestart hs
        refine .waiting (hsame.trans hrun) fun hne => hkept hC ?_ (hstop hne)
        obtain ⟨d, rest', rfl⟩ := List.exists_cons_of_ne_nil hne
        simp [Sys.halfway, hrun]

/-- What a run after the Stop keeps. -/
structure Stopped (cfg : Config) (i : String) (g : Grant) (outcomes : List Outcome) (c : GrantedCommand)
    (rest : List GrantedCommand) (before : List Obs) (s : Sys) (h : List Obs) : Prop where
  guarded : Guarded cfg s h
  begun : issuedOf g.planId h ≠ []
  planned : ∃ plan, .planned i plan ∈ h ∧ plan.planId = g.planId
  left : Left s i g outcomes c rest
  since : ∃ o, h = before ++ o ∧ Silent i g.planId outcomes c rest o

theorem Stopped.step {g : Grant} {outcomes : List Outcome} {c : GrantedCommand} {rest : List GrantedCommand}
    {before : List Obs} (hS : Stopped cfg i g outcomes c rest before s h) (hC : KeepsStop cfg s h a)
    (hs : (copilot cfg).step s a = some (s', o)) : Stopped cfg i g outcomes c rest before s' (h ++ o) := by
  obtain ⟨hleft, hsilent⟩ := hS.left.step hS.guarded hS.begun hS.planned hC hs
  refine ⟨hS.guarded.step hs, ?_, ?_, hleft, ?_⟩
  · rw [issuedOf_append]
    exact List.append_ne_nil_of_left_ne_nil hS.begun _
  · obtain ⟨plan, hplan, hid⟩ := hS.planned
    exact ⟨plan, List.mem_append_left _ hplan, hid⟩
  · obtain ⟨o', rfl, hsince⟩ := hS.since
    exact ⟨o' ++ o, List.append_assoc _ _ _, hsince.append hsilent⟩

/-- **The Stop** of an apply that waits. -/
theorem stopped_stop {g : Grant} {outcomes : List Outcome} {c : GrantedCommand} {rest : List GrantedCommand}
    (hr : (copilot cfg).Reaches .init s h) (hrun : s.runs i = some (.applying g outcomes (c :: rest)))
    (hC : KeepsStop cfg s h (.stop i)) (hs : (copilot cfg).step s (.stop i) = some (s', o)) :
    Stopped cfg i g outcomes c rest h s' (h ++ o) := by
  have hG : Guarded cfg s h := hr.hist (fun hG hs => hG.step hs) (guarded_init cfg)
  have happlies : s.Applies i g.planId := ⟨g, outcomes, c :: rest, hrun, rfl⟩
  obtain ⟨-, -, hGr, -⟩ := (hG.kept i).applying g outcomes (c :: rest) hrun
  refine ⟨hG.step hs, ?_, ?_, ?_, o, rfl, ?_⟩
  · rw [issuedOf_append]
    exact List.append_ne_nil_of_left_ne_nil (applies_issued hr i g.planId happlies) _
  · obtain ⟨plan, hplan, hid⟩ := hGr.planned
    exact ⟨plan, List.mem_append_left _ hplan, hid⟩
  · cases hs
    refine .waiting hrun fun hne => ?_
    obtain ⟨d, rest', rfl⟩ := List.exists_cons_of_ne_nil hne
    have hhalf : s.halfway i = true := by simp [Sys.halfway, hrun]
    obtain ⟨e, he⟩ := Option.isSome_iff_exists.mp (hC.held i rfl hhalf)
    obtain ⟨e', he', -, hpressed⟩ := get?_stop_entries i he
    exact stopRequested_iff.mpr ⟨e', he', hpressed rfl⟩
  · cases hs
    exact ⟨by simp, by simp⟩

/-- **Stop means stop**, if the Stop of an apply finds its request and no sweep drops it: nothing more is issued for
the plan, whatever comes between, and the apply reports the rest as kept back as soon as the issuer answers. -/
theorem stop_means_stop {bs : List Act} {g : Grant} {outcomes : List Outcome} {c : GrantedCommand}
    {rest : List GrantedCommand} (hr : (copilot cfg).Reaches .init s h)
    (hrun : s.runs i = some (.applying g outcomes (c :: rest)))
    (he : (copilot cfg).exec s (.stop i :: bs) = some (s', o))
    (hC : (copilot cfg).Meets (KeepsStop cfg) s h (.stop i :: bs)) :
    Silent i g.planId outcomes c rest o ∧
      (s'.runs i = some (.applying g outcomes (c :: rest)) → ∀ result, ∃ r,
        (copilot cfg).step s' (.answered i result) =
          some (r, [.applied i g.planId (keptBack outcomes c rest result)])) := by
  obtain ⟨s₁, o₁, o₂, hs, he', rfl⟩ := exec_cons_iff.mp he
  have hstopped : Stopped cfg i g outcomes c rest h s' (h ++ o₁ ++ o₂) :=
    exec_hist_of_meets (fun hS hC hs => hS.step hC hs) (stopped_stop hr hrun hC.1 hs) (hC.2 s₁ o₁ hs) he'
  obtain ⟨o', ho', hsilent⟩ := hstopped.since
  rw [List.append_assoc, List.append_right_inj] at ho'
  refine ⟨ho' ▸ hsilent, fun hrun' result => ?_⟩
  cases hstopped.left with
  | ended hnone => exact absurd ⟨g, outcomes, c :: rest, hrun', rfl⟩ (hnone i)
  | waiting _ hstop =>
    obtain ⟨halted, hstep⟩ := answered_stopped cfg hrun' hstop result
    exact ⟨_, hstep⟩

def lab : String := "5f1c3b7a-2e64-4d0c-8b1e-9a7d6c5e4f30"

def twoRooms : List SentCommand := [⟨room, 23, some 3600, "too warm"⟩, ⟨lab, 23, some 3600, "too warm"⟩]

/-- The hash of `twoRooms`. -/
def twoRoomsHash : String := "a09b784a9e07577a34bfa52e2ccb92ce532e736dad70c547a6a4edf7c0ce96bb"

def twoRoomsGraph : Config := { siteGraph with hash commands := if commands = twoRooms then twoRoomsHash else "" }

/-- A plan for two rooms is checked 299 s after its request began, and approved at `now`; the issuer is called for the
first room. -/
def halfwayRun (now : ℤ) : List Act :=
  [.message "u:1" "r1" "make the rooms cooler" true, .node "u:1" 0,
    .model "u:1" [{ context := some (some ⟨[⟨room, "Room 1"⟩, ⟨lab, "Lab"⟩]⟩) }],
    .model "u:1" [{
      scope := some (some ⟨true, false, .planner⟩)
      controlTask := some (some ⟨.propose, "make the rooms cooler", .pending⟩)
      plannerRoute := some (some ⟨.control, []⟩) }],
    .model "u:1" [{
      controlTask := some (some ⟨.propose, "make the rooms cooler", .done⟩)
      proposal := some (some ⟨"lower two rooms", [⟨room, 23, none, "too warm"⟩, ⟨lab, 23, none, "too warm"⟩]⟩) }],
    .node "u:1" 298000,
    .dryRuns "u:1" [.allowed ⟨24, 3600, "2026-09-28T13:40:00Z"⟩, .allowed ⟨24, 3600, "2026-09-28T13:40:00Z"⟩]
      coolerPlan 299000,
    .pause "u:1" "i1", .done "u:1", .decide "u:1" ⟨⟨.approved, coolerPlan, twoRoomsHash⟩, "i1"⟩ now, .node "u:1" now,
    .node "u:1" now]

/-- Stop is pressed while the issuer is at the first room; another thread's request begins at `now`; the issuer
answers. -/
def stopRun (now : ℤ) : List Act :=
  [.stop "u:1", .message "u:2" "r2" "how warm is the lab?" true, .node "u:2" now,
    .answered "u:1" (some (.ok "c1" "active" "2026-09-28T13:40:00Z"))]

def roomCommand : GrantedCommand := ⟨room, "Room 1", 23, some 3600, "too warm"⟩

def labCommand : GrantedCommand := ⟨lab, "Lab", 23, some 3600, "too warm"⟩

def twoRoomsGrant (now : ℤ) : Grant := ⟨coolerPlan, twoRoomsHash, [roomCommand, labCommand], now⟩

theorem stop_means_stop_stopRun : ∃ s h s' o, (copilot twoRoomsGraph).Reaches .init s h ∧
    s.runs "u:1" = some (.applying (twoRoomsGrant 898000) [] [roomCommand, labCommand]) ∧
    (copilot twoRoomsGraph).exec s (stopRun 899999) = some (s', o) ∧
    Silent "u:1" coolerPlan [] roomCommand [labCommand] o := by
  have hgo : ∃ r ∈ (copilot twoRoomsGraph).exec .init (halfwayRun 898000),
      r.1.runs "u:1" = some (.applying (twoRoomsGrant 898000) [] [roomCommand, labCommand]) ∧
      (copilot twoRoomsGraph).Meets (KeepsStop twoRoomsGraph) r.1 r.2 (stopRun 899999) ∧
      ((copilot twoRoomsGraph).exec r.1 (stopRun 899999)).isSome = true := by decide +kernel
  obtain ⟨⟨s, h⟩, hr, hrun, hC, hsome⟩ := hgo
  obtain ⟨⟨s', o⟩, he⟩ := Option.isSome_iff_exists.mp hsome
  exact ⟨s, h, s', o, ⟨_, hr⟩, hrun, he, (stop_means_stop ⟨_, hr⟩ hrun he hC).1⟩

/-- The Stop is swept: both rooms are issued for. -/
theorem swept_stop_issues : ∃ s h s' o, (copilot twoRoomsGraph).Reaches .init s h ∧
    s.runs "u:1" = some (.applying (twoRoomsGrant 898000) [] [roomCommand, labCommand]) ∧
    (copilot twoRoomsGraph).exec s (stopRun 900000) = some (s', o) ∧
    .stopping "u:1" true ∈ o ∧ .issued "u:1" coolerPlan labCommand.spec ∈ o := by
  have hgo : ∃ r ∈ (copilot twoRoomsGraph).exec .init (halfwayRun 898000),
      r.1.runs "u:1" = some (.applying (twoRoomsGrant 898000) [] [roomCommand, labCommand]) ∧
      ∃ r' ∈ (copilot twoRoomsGraph).exec r.1 (stopRun 900000),
        .stopping "u:1" true ∈ r'.2 ∧ .issued "u:1" coolerPlan labCommand.spec ∈ r'.2 := by decide +kernel
  obtain ⟨⟨s, h⟩, hr, hrun, ⟨s', o⟩, he, hstopping, hissued⟩ := hgo
  exact ⟨s, h, s', o, ⟨_, hr⟩, hrun, he, hstopping, hissued⟩

end DTwin.Copilot
