import DTwin.Ingest.Conserved

/-!
# DTwin.Ingest.Shutdown — what is stored when `stop` returns?

`stop` awaits one call of `flush`, which returns at once when a flush is in progress: it does not wait for that
one, and does not flush what has come since.  So `stop` stores what it should exactly when there is no flush
in progress, or one with nothing left to do (`stop_drains_iff`).
-/

namespace DTwin.Ingest

open Control OrderedMap Machine

variable {sensors : Sensors}

/-- What may happen until the call `i` of `stop` returns: the database accepts every statement and nothing is
enqueued. -/
def Quiet (i : ℕ) : Act sensors → Prop
  | .enqueue .. => False
  | .answer .ok _ => True
  | .answer .. => False
  | .stop j _ => j ≠ i
  | .resolve j => j ≠ i
  | _ => True

/-- From `s` the call `i` of `stop` is made at `now` and returns in `s'`. -/
def Stops (cfg : Config) (i : ℕ) (now : ℤ) (s s' : Sys sensors) : Prop :=
  ∃ as o, (∀ a ∈ as, Quiet i a) ∧ (writing cfg).exec s (.stop i now :: (as ++ [.resolve i])) = some (s', o)

/-- A reading that was enqueued, and not dropped as often. -/
def Owed (h : List (Obs sensors)) (r : OwnedReading sensors) : Prop :=
  (droppedOf h).count r < (enqueuedOf h).count r

theorem Accounted.owed_iff {cfg : Config} {t₀ : List TelemetryRow} {s : Sys sensors} {h : List (Obs sensors)}
    (hA : Accounted cfg t₀ s h) {r : OwnedReading sensors} :
    Owed h r ↔ r ∈ s.buffer ∨ r ∈ s.inFlight ∨ r ∈ settledOf h := by
  have hcount := hA.perm.count_eq r
  simp only [List.count_append] at hcount
  rw [Owed, ← List.count_pos_iff, ← List.count_pos_iff, ← List.count_pos_iff]
  omega

/-! ## While `stop` waits -/

/-- What is owed, is stored or in the flush, and stored when the call returns. -/
structure Draining (i : ℕ) (owed : OwnedReading sensors → Prop) (s : Sys sensors) : Prop where
  empty : s.buffer = []
  inFlight : ∀ r, owed r → Stored s.table r.key ∨ r ∈ s.inFlight
  returned : i ∈ s.returned → ∀ r, owed r → Stored s.table r.key

theorem Draining.proceed {t₀ : List TelemetryRow} {i : ℕ} {owed : OwnedReading sensors → Prop}
    {s : Sys sensors} {h : List (Obs sensors)} (hD : Draining i owed s) (hP : Progress t₀ s h) {f : Flush sensors}
    (hf : s.flushing = some f) (now : ℤ) : Draining i owed (s.proceed f now).1 := by
  unfold Sys.proceed
  split_ifs with hdone
  · have hall : ∀ r, owed r → Stored s.table r.key := by
      intro r hr
      refine (hD.inFlight r hr).elim id fun hin => ?_
      rw [Sys.inFlight, hf] at hin
      exact hP.stored hf hin (by simp [hdone.1])
    exact ⟨hD.empty, fun r hr => Or.inl (hall r hr), fun _ => hall⟩
  · exact hD

theorem Draining.answer (cfg : Config) {t₀ : List TelemetryRow} {i : ℕ} {owed : OwnedReading sensors → Prop}
    {s : Sys sensors} {h : List (Obs sensors)} (hD : Draining i owed s) (hP : Progress t₀ s h) {f : Flush sensors}
    (hf : s.flushing = some f) (now : ℤ) : Draining i owed (s.answer cfg f .ok now).1 := by
  unfold Sys.answer
  split
  next tenantId group groups hg =>
    have hmono : s.table <+: (s.insert f tenantId group groups).1.table := prefix_insertReadings _ _ _
    have hD' : Draining i owed (s.insert f tenantId group groups).1 := by
      refine ⟨hD.empty, fun r hr => ?_, fun hi r hr => (hD.returned hi r hr).mono hmono⟩
      refine (hD.inFlight r hr).imp (fun hs => hs.mono hmono) fun hin => ?_
      rw [Sys.inFlight, hf] at hin
      exact hin
    exact hD'.proceed (hP.step (move_insert cfg hf hg)) rfl now
  next tenantId ids seen hg hs =>
    have hD' : Draining i owed { s with flushing := some { f with seen := seen } } := by
      refine ⟨hD.empty, fun r hr => (hD.inFlight r hr).imp_right fun hin => ?_, hD.returned⟩
      rw [Sys.inFlight, hf] at hin
      exact hin
    exact hD'.proceed (hP.step (move_see cfg hf hg hs)) rfl now
  next => exact hD

theorem flush_of_empty {s : Sys sensors} (hempty : s.buffer = []) (waiter : Option ℕ) (now : ℤ) :
    s.flush waiter now = ({ s with returned := s.returned ++ waiter.toList }, []) :=
  if_pos (Or.inr hempty)

theorem Draining.step {cfg : Config} {t₀ : List TelemetryRow} {i : ℕ} {owed : OwnedReading sensors → Prop}
    {s s' : Sys sensors} {h o : List (Obs sensors)} {a : Act sensors} (hD : Draining i owed s)
    (hP : Progress t₀ s h) (hq : Quiet i a) (hs : step cfg s a = some (s', o)) : Draining i owed s' := by
  cases a with
  | start =>
    cases hs
    exact ⟨hD.empty, hD.inFlight, hD.returned⟩
  | timer now =>
    simp only [Ingest.step] at hs
    split_ifs at hs
    rw [flush_of_empty hD.empty] at hs
    cases hs
    exact ⟨hD.empty, hD.inFlight, fun hi => hD.returned (by simpa using hi)⟩
  | enqueue readings now => exact hq.elim
  | answer outcome now =>
    obtain ⟨f, hf, heq⟩ := Option.map_eq_some_iff.mp hs
    cases outcome with
    | ok =>
      have hans := hD.answer cfg hP hf now
      rwa [heq] at hans
    | failed message => exact hq.elim
    | lost message => exact hq.elim
  | stop j now =>
    simp only [Ingest.step, flush_of_empty (s := { s with timer := false }) hD.empty] at hs
    cases hs
    refine ⟨hD.empty, hD.inFlight, fun hi => hD.returned ?_⟩
    have hne : i ≠ j := fun h => hq h.symm
    simpa [hne] using hi
  | resolve j =>
    simp only [Ingest.step] at hs
    split_ifs at hs
    cases hs
    exact ⟨hD.empty, hD.inFlight, fun hi => hD.returned (List.mem_of_mem_erase hi)⟩

/-- No flush is in progress, or one that leaves nothing to do. -/
def Sys.Idle (s : Sys sensors) : Prop :=
  ∀ f, s.flushing = some f → s.buffer = [] ∧ ∀ r ∈ f.batch, Stored s.table r.key

theorem draining_stop {cfg : Config} {t₀ : List TelemetryRow} {i : ℕ} {s : Sys sensors}
    {h : List (Obs sensors)} (hA : Accounted cfg t₀ s h) (hi : i ∉ s.returned) (hidle : s.Idle) (now : ℤ) :
    Draining i (Owed h) (Sys.flush { s with timer := false } (some i) now).1 := by
  obtain hf | ⟨f, hf⟩ := s.flushing.eq_none_or_eq_some
  · have howed : ∀ r, Owed h r → Stored s.table r.key ∨ r ∈ s.buffer := by
      intro r hr
      rcases hA.owed_iff.mp hr with hin | hin | hin
      · exact Or.inr hin
      · rw [Sys.inFlight, hf] at hin
        exact absurd hin List.not_mem_nil
      · exact Or.inl (hA.stored r hin)
    unfold Sys.flush
    split_ifs with hno
    · have hempty : s.buffer = [] := by simpa [hf] using hno
      have hall : ∀ r, Owed h r → Stored s.table r.key := by
        intro r hr
        refine (howed r hr).elim id fun hin => ?_
        rw [hempty] at hin
        exact absurd hin List.not_mem_nil
      exact ⟨hempty, fun r hr => Or.inl (hall r hr), fun _ => hall⟩
    · exact ⟨rfl, howed, fun hin => absurd hin hi⟩
  · obtain ⟨hempty, hbatch⟩ := hidle f hf
    have hall : ∀ r, Owed h r → Stored s.table r.key := by
      intro r hr
      rcases hA.owed_iff.mp hr with hin | hin | hin
      · rw [hempty] at hin
        exact absurd hin List.not_mem_nil
      · rw [Sys.inFlight, hf] at hin
        exact hbatch r hin
      · exact hA.stored r hin
    rw [flush_of_empty (s := { s with timer := false }) hempty]
    exact ⟨hempty, fun r hr => Or.inl (hall r hr), fun _ => hall⟩

/-! ## `stop` returns -/

/-- The flush of a call of `stop` ends, and the call returns. -/
theorem exists_returned (cfg : Config) (i : ℕ) (now : ℤ) : ∀ (n : ℕ) {s : Sys sensors} {f : Flush sensors},
    s.flushing = some f → f.waiter = some i → f.groups.length + f.seen.length = n →
    ∃ as s' o, (∀ a ∈ as, Quiet i a) ∧ (writing cfg).exec (s.proceed f now).1 as = some (s', o) ∧
      i ∈ s'.returned := by
  intro n
  induction n with
  | zero =>
    intro s f hf hw hlen
    have hdone : f.groups = [] ∧ f.seen = [] :=
      ⟨List.eq_nil_of_length_eq_zero (by omega), List.eq_nil_of_length_eq_zero (by omega)⟩
    refine ⟨[], _, [], nofun, rfl, ?_⟩
    rw [Sys.proceed, if_pos hdone]
    simp [Sys.finish, hw]
  | succ n ih =>
    intro s f hf hw hlen
    have hmore : ¬ (f.groups = [] ∧ f.seen = []) := by
      rintro ⟨hg, hs⟩
      simp [hg, hs] at hlen
    -- One more statement is accepted, and the flush is one shorter.
    obtain ⟨s₁, f₁, o₁, hans, hf₁, hw₁, hlen₁⟩ : ∃ s₁ f₁ o₁,
        s.answer cfg f .ok now = ((Sys.proceed s₁ f₁ now).1, o₁) ∧ s₁.flushing = some f₁ ∧
          f₁.waiter = some i ∧ f₁.groups.length + f₁.seen.length = n := by
      unfold Sys.answer
      split
      next tenantId group groups hg =>
        refine ⟨_, _, _, rfl, rfl, hw, ?_⟩
        rw [hg, List.length_cons] at hlen
        simp only [Flush.count]
        omega
      next tenantId ids seen hg hs =>
        refine ⟨_, _, _, rfl, rfl, hw, ?_⟩
        rw [hs, List.length_cons] at hlen
        simp only
        omega
      next hg hs => exact absurd ⟨hg, hs⟩ hmore
    obtain ⟨as, s', o, hq, he, hret⟩ := ih hf₁ hw₁ hlen₁
    have hstep : (writing cfg).step s (.answer .ok now) = some ((s₁.proceed f₁ now).1, o₁) := by
      rw [← hans]
      exact congrArg (Option.map _) hf
    refine ⟨.answer .ok now :: as, s', o₁ ++ o, List.forall_mem_cons.mpr ⟨trivial, hq⟩, ?_, hret⟩
    rw [Sys.proceed, if_neg hmore]
    exact exec_cons_iff.mpr ⟨_, _, _, hstep, he, rfl⟩

/-- A batch has a group to insert. -/
theorem groupByTenant_ne_nil {batch : List (OwnedReading sensors)} (hne : batch ≠ []) :
    groupByTenant (dedupe batch) ≠ [] := by
  obtain ⟨r, hr⟩ := List.exists_mem_of_ne_nil batch hne
  obtain ⟨w, hw, -⟩ := exists_winner hr
  obtain ⟨group, hgroup⟩ := exists_groupByTenant hw
  exact List.ne_nil_of_mem hgroup

theorem stops_of_returned {cfg : Config} {i : ℕ} {now : ℤ} {s s₁ : Sys sensors} (as : List (Act sensors))
    {o : List (Obs sensors)} (hq : ∀ a ∈ as, Quiet i a)
    (he : (writing cfg).exec (Sys.flush { s with timer := false } (some i) now).1 as = some (s₁, o))
    (hret : i ∈ s₁.returned) : Stops cfg i now s { s₁ with returned := s₁.returned.erase i } := by
  have hresolve : (writing cfg).exec s₁ [.resolve i] =
      some ({ s₁ with returned := s₁.returned.erase i }, [.stopped i]) :=
    (exec_singleton ..).trans (if_pos hret)
  exact ⟨as, _, hq, exec_cons_iff.mpr ⟨_, _, _, rfl,
    exec_append_iff.mpr ⟨s₁, o, _, he, hresolve, rfl⟩, rfl⟩⟩

/-- If the database accepts every statement, `stop` returns. -/
theorem exists_stops (cfg : Config) (i : ℕ) (now : ℤ) (s : Sys sensors) : ∃ s', Stops cfg i now s s' := by
  by_cases hno : s.flushing.isSome ∨ s.buffer = []
  · have hflush : Sys.flush { s with timer := false } (some i) now =
        ({ s with timer := false, returned := s.returned ++ [i] }, []) := if_pos hno
    refine ⟨_, stops_of_returned [] nofun rfl ?_⟩
    rw [hflush]
    exact List.mem_append_right _ List.mem_cons_self
  · have hflush : Sys.flush { s with timer := false } (some i) now =
        Sys.begin { s with timer := false } (some i) now := if_neg hno
    have hgroups := groupByTenant_ne_nil fun hempty => hno (Or.inr hempty)
    obtain ⟨as, s', o, hq, he, hret⟩ := exists_returned cfg i now _
      (s := (Sys.begin { s with timer := false } (some i) now).1) rfl rfl rfl
    rw [Sys.proceed, if_neg fun hdone => hgroups hdone.1, ← hflush] at he
    exact ⟨_, stops_of_returned as hq he hret⟩

/-- **Shutdown.**  If the database accepts every statement and nothing more is enqueued, a call of `stop`
returns, and it returns with the buffer empty and everything owed stored exactly when it was made with no
flush in progress, or one that left nothing to do. -/
theorem stop_drains_iff {cfg : Config} {t₀ : List TelemetryRow} {s : Sys sensors} {h : List (Obs sensors)}
    (hr : (writing cfg).Reaches (.init t₀) s h) {i : ℕ} (hi : i ∉ s.returned) (now : ℤ) :
    (∃ s', Stops cfg i now s s') ∧
    ((∀ s', Stops cfg i now s s' → s'.buffer = [] ∧ ∀ r, Owed h r → Stored s'.table r.key) ↔ s.Idle) := by
  obtain ⟨hA, hP⟩ := accounted hr
  refine ⟨exists_stops cfg i now s, fun hall f hf => ?_, ?_⟩
  · have hflush : Sys.flush { s with timer := false } (some i) now =
        ({ s with timer := false, returned := s.returned ++ [i] }, []) := by
      exact if_pos (Or.inl (by simp [hf]))
    have hstops : Stops cfg i now s _ := stops_of_returned [] nofun rfl (by
      rw [hflush]
      exact List.mem_append_right _ List.mem_cons_self)
    rw [hflush] at hstops
    obtain ⟨hempty, hstored⟩ := hall _ hstops
    refine ⟨hempty, fun r hr => hstored r (hA.owed_iff.mpr (Or.inr (Or.inl ?_)))⟩
    rwa [Sys.inFlight, hf]
  · rintro hidle s' ⟨as, o, hq, he⟩
    obtain ⟨s₁, o₁, _, hstop, hrest, rfl⟩ := exec_cons_iff.mp he
    obtain ⟨s₂, o₂, _, hrun, hresolve, rfl⟩ := exec_append_iff.mp hrest
    rw [exec_singleton] at hresolve
    have hD : Draining i (Owed h) s₁ := by
      have hstart := draining_stop hA hi hidle now
      rwa [Option.some.inj hstop] at hstart
    have hP₁ : Progress t₀ s₁ (h ++ o₁) := (accounted (hr.step hstop)).2
    have hend : Draining i (Owed h) s₂ ∧ Progress t₀ s₂ (h ++ o₁ ++ o₂) :=
      exec_hist_of_meets (M := writing cfg)
        (I := fun s h' => Draining i (Owed h) s ∧ Progress t₀ s h') (C := fun _ _ a => Quiet i a)
        (fun hI hq hs => ⟨hI.1.step hI.2 hq hs, step_of_moves Progress.step hI.2 hs⟩) ⟨hD, hP₁⟩
        (meets_of_forall fun a ha _ _ => hq a ha) hrun
    obtain ⟨hret, hs'⟩ : i ∈ s₂.returned ∧ s' = { s₂ with returned := s₂.returned.erase i } := by
      simp only [writing, step] at hresolve
      split_ifs at hresolve with hret
      exact ⟨hret, (Prod.mk.inj (Option.some.inj hresolve)).1.symm⟩
    rw [hs']
    exact ⟨hend.1.empty, hend.1.returned hret⟩

def buffered : List (Act ownSensors) := [.start, .enqueue [ownReading 1 0 20] 0]

theorem buffered_isSome : ((writing roomyBuffer).exec (.init []) buffered).isSome = true := by
  decide +kernel

theorem stop_drains_buffered : ∃ s h, (writing roomyBuffer).exec (.init []) buffered = some (s, h) ∧
    ∀ s', Stops roomyBuffer 0 1 s s' → s'.buffer = [] ∧ ∀ r, Owed h r → Stored s'.table r.key := by
  let r := ((writing roomyBuffer).exec (.init []) buffered).get buffered_isSome
  have he : (writing roomyBuffer).exec (.init []) buffered = some (r.1, r.2) :=
    (Option.some_get buffered_isSome).symm
  have hreturned : 0 ∉ r.1.returned := by decide +kernel
  have hidle : r.1.flushing.isNone = true := by decide +kernel
  refine ⟨r.1, r.2, he, (stop_drains_iff ⟨_, he⟩ hreturned 1).2.mpr fun f hf => ?_⟩
  rw [Option.isNone_iff_eq_none.mp hidle] at hf
  exact absurd hf nofun

/-- A flush is in progress, and a reading has come since. -/
def overlapping : List (Act ownSensors) := buffered ++ [.timer 1, .enqueue [ownReading 1 1 21] 2]

theorem overlapping_isSome : ((writing roomyBuffer).exec (.init []) overlapping).isSome = true := by
  decide +kernel

/-- `stop` returns with the second reading in the buffer and neither stored. -/
theorem stop_overlaps : ∃ s h s', (writing roomyBuffer).exec (.init []) overlapping = some (s, h) ∧
    0 ∉ s.returned ∧ Stops roomyBuffer 0 3 s s' ∧ s'.buffer = [ownReading 1 1 21] ∧
    ∀ r ∈ enqueuedOf h, ¬ Stored s'.table r.key := by
  let r := ((writing roomyBuffer).exec (.init []) overlapping).get overlapping_isSome
  have hreturned : 0 ∉ r.1.returned := by decide +kernel
  have hresult : (Sys.flush { r.1 with timer := false } (some 0) 3).1.buffer = [ownReading 1 1 21] ∧
      0 ∈ (Sys.flush { r.1 with timer := false } (some 0) 3).1.returned ∧
      ∀ x ∈ enqueuedOf r.2, ¬ Stored (Sys.flush { r.1 with timer := false } (some 0) 3).1.table x.key := by
    decide +kernel
  exact ⟨r.1, r.2, _, (Option.some_get overlapping_isSome).symm, hreturned,
    stops_of_returned [] nofun rfl hresult.2.1, hresult.1, hresult.2.2⟩

end DTwin.Ingest
