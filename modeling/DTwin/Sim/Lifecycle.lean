import DTwin.Sim.Execute

/-!
# DTwin.Sim.Lifecycle — what a run's terminal status is worth

`Settled`: a terminal status that was written is never overwritten, a cancellation that was answered with 200
stands, and a run whose `_execute` has returned is in a terminal status.  `mark_cancelled` looks at the status it
replaces and the other writers do not, so this holds in a run of the system exactly when `_execute` never writes
after someone who has ended the run: `settled_iff`.
-/

namespace DTwin.Sim

open Machine

/-- Does a statement of `_execute` on `simulation_runs` itself fail? -/
def Act.databaseFails : Act → Bool
  | .markRunning (some _) | .markCompleted (some _) | .markFailed (some _) => true
  | _ => false

/-- Every interleaving of `cancel_run` requests with one `_execute`, the database's own statements succeeding. -/
def lifecycle : Machine Run Act Obs where
  step run a := if a.databaseFails then none else run.step a

/-- What the history `h` promises of the run. -/
structure Settled (run : Run) (h : List Obs) : Prop where
  absorbed : ∀ st : Status, st.Terminal → .wrote st ∈ h → run.row.status = st
  stopped : .cancelled200 ∈ h → run.row.status = .cancelled
  ended : run.phase = .returned → run.row.status.Terminal

/-- `_execute` does not write over the end of the run: `mark_running` and `mark_completed` find no cancellation
before them, `mark_failed` neither a cancellation nor a completion. -/
def Undisturbed (run : Run) (h : List Obs) : Act → Prop
  | .markRunning none => run.phase = .markingRunning → .wrote .cancelled ∉ h
  | .markCompleted none => run.phase = .markingCompleted → .wrote .cancelled ∉ h
  | .markFailed none => ∀ message, run.phase = .failing message → .wrote .cancelled ∉ h ∧ .wrote .completed ∉ h
  | _ => True

/-! ### What a step can do -/

/-- The moves of `_execute` that leave the status alone. -/
inductive Silent (cancelled : Bool) : Phase → Phase → Prop
  | enter : Silent cancelled .scheduled .markingRunning
  | goesOn : Silent cancelled .engine .engine
  | unwinds (hc : cancelled = true) : Silent cancelled .engine .unwinding
  | ran : Silent cancelled .engine .markingCompleted
  | engineRaises (message : String) : Silent cancelled .engine (.failing message)
  | summarised : Silent cancelled .summarising .leaving
  | summaryRaises (message : String) : Silent cancelled .summarising (.failing message)
  | toldCancelled : Silent cancelled .unwinding .leaving
  | toldFailed (message : String) : Silent cancelled (.reporting message) .leaving

/-- The writes of `_execute`: from which phase, which status, to which phase. -/
inductive Writes : Phase → Status → Phase → Prop
  | running : Writes .markingRunning .running .engine
  | completed : Writes .markingCompleted .completed .summarising
  | failed (message : String) : Writes (.failing message) .failed (.reporting message)

/-- What a write of `st` must not come after. -/
def Unended (h : List Obs) : Status → Prop
  | .running | .completed => .wrote .cancelled ∉ h
  | .failed => .wrote .cancelled ∉ h ∧ .wrote .completed ∉ h
  | .queued | .cancelled => True

/-- What a step of `lifecycle` from `run` to `run'` is, observing `o`. -/
inductive Moves (run : Run) : Act → Run → List Obs → Prop
  | stops (hs : ¬ run.row.status.Terminal) (run' : Run) (hst : run'.row.status = .cancelled)
      (hc : run'.cancelled = run.cancelled) (hp : run'.phase = run.phase) :
      Moves run .cancelRow run' [.wrote .cancelled]
  | tooLate : Moves run .cancelRow run [.finished409]
  | flags (hw : 0 < run.stopping) (run' : Run) (hst : run'.row = run.row) (hp : run'.phase = run.phase) :
      Moves run .cancelFlag run' [.cancelled200]
  | silent (a : Act) (run' : Run) (hst : run'.row.status = run.row.status) (hc : run'.cancelled = run.cancelled)
      (hw : run'.stopping = run.stopping) (hp : Silent run.cancelled run.phase run'.phase)
      (hu : ∀ h, Undisturbed run h a) : Moves run a run' []
  | writes (a : Act) (run' : Run) (st : Status) (hst : run'.row.status = st) (hc : run'.cancelled = run.cancelled)
      (hw : run'.stopping = run.stopping) (hp : Writes run.phase st run'.phase)
      (hu : ∀ h, Undisturbed run h a ↔ Unended h st) : Moves run a run' [.wrote st]
  | leaves (run' : Run) (hst : run'.row = run.row) (hc : run'.cancelled = false) (hw : run'.stopping = run.stopping)
      (hl : run.phase = .leaving) (hp : run'.phase = .returned) : Moves run .leave run' [.released]

theorem moves_of_step {run run' : Run} {a : Act} {o : List Obs} (hs : lifecycle.step run a = some (run', o)) :
    Moves run a run' o := by
  simp only [lifecycle] at hs
  split at hs
  · cases hs
  rename_i hdb
  unfold Run.step at hs
  split at hs
  case h_1 =>
    rcases run.row.markCancelled_cases with ⟨hlive, hm⟩ | ⟨-, hm⟩
    · simp only [hm, if_true, Option.some.injEq, Prod.mk.injEq] at hs
      obtain ⟨rfl, rfl⟩ := hs
      exact .stops hlive _ rfl rfl rfl
    · simp only [hm, Bool.false_eq_true, if_false, Option.some.injEq, Prod.mk.injEq] at hs
      obtain ⟨rfl, rfl⟩ := hs
      exact .tooLate
  case h_2 =>
    split at hs
    · rename_i hw
      simp only [Option.some.injEq, Prod.mk.injEq] at hs
      obtain ⟨rfl, rfl⟩ := hs
      exact .flags hw _ rfl rfl
    · cases hs
  case h_3 hp =>
    simp only [tenantScope_tenant, Option.some.injEq, Prod.mk.injEq] at hs
    obtain ⟨rfl, rfl⟩ := hs
    exact .silent _ _ rfl rfl rfl (by rw [hp]; exact .enter) fun _ => trivial
  case h_4 raised hp =>
    cases raised with
    | some message => exact absurd rfl hdb
    | none =>
      simp only [Option.some.injEq, Prod.mk.injEq] at hs
      obtain ⟨rfl, rfl⟩ := hs
      exact .writes _ _ _ rfl rfl rfl (by rw [hp]; exact .running) fun h => by simp [Undisturbed, Unended, hp]
  case h_5 raised hp =>
    dsimp only at hs
    split at hs
    · rename_i hc
      simp only [Option.some.injEq, Prod.mk.injEq] at hs
      obtain ⟨rfl, rfl⟩ := hs
      exact .silent _ _ rfl rfl rfl (by rw [hp]; exact .unwinds hc) fun _ => trivial
    · simp only [Option.some.injEq, Prod.mk.injEq] at hs
      obtain ⟨rfl, rfl⟩ := hs
      refine .silent _ _ rfl rfl rfl ?_ fun _ => trivial
      rw [hp]
      cases raised with
      | none => exact .goesOn
      | some message => exact .engineRaises message
  case h_6 raised hp =>
    simp only [Option.some.injEq, Prod.mk.injEq] at hs
    obtain ⟨rfl, rfl⟩ := hs
    refine .silent _ _ rfl rfl rfl ?_ fun _ => trivial
    rw [hp]
    cases raised with
    | none => exact .ran
    | some message => exact .engineRaises message
  case h_7 raised hp =>
    cases raised with
    | some message => exact absurd rfl hdb
    | none =>
      simp only [Option.some.injEq, Prod.mk.injEq] at hs
      obtain ⟨rfl, rfl⟩ := hs
      exact .writes _ _ _ rfl rfl rfl (by rw [hp]; exact .completed) fun h => by simp [Undisturbed, Unended, hp]
  case h_8 raised hp =>
    simp only [Option.some.injEq, Prod.mk.injEq] at hs
    obtain ⟨rfl, rfl⟩ := hs
    refine .silent _ _ rfl rfl rfl ?_ fun _ => trivial
    rw [hp]
    cases raised with
    | none => exact .summarised
    | some message => exact .summaryRaises message
  case h_9 hp =>
    simp only [Option.some.injEq, Prod.mk.injEq] at hs
    obtain ⟨rfl, rfl⟩ := hs
    exact .silent _ _ rfl rfl rfl (by rw [hp]; exact .toldCancelled) fun _ => trivial
  case h_10 raised message hp =>
    cases raised with
    | some text => exact absurd rfl hdb
    | none =>
      simp only [Option.some.injEq, Prod.mk.injEq] at hs
      obtain ⟨rfl, rfl⟩ := hs
      exact .writes _ _ _ rfl rfl rfl (by rw [hp]; exact .failed message) fun h => by
        simp [Undisturbed, Unended, hp]
  case h_11 message hp =>
    simp only [Option.some.injEq, Prod.mk.injEq] at hs
    obtain ⟨rfl, rfl⟩ := hs
    exact .silent _ _ rfl rfl rfl (by rw [hp]; exact .toldFailed message) fun _ => trivial
  case h_12 hp =>
    simp only [Option.some.injEq, Prod.mk.injEq] at hs
    obtain ⟨rfl, rfl⟩ := hs
    exact .leaves _ rfl rfl rfl hp rfl
  case h_13 => cases hs

/-! ### What holds along every run -/

/-- What has been written by the time `_execute` stands at a phase. -/
def Past (h : List Obs) : Phase → Prop
  | .scheduled | .markingRunning | .engine | .markingCompleted => .wrote .completed ∉ h ∧ .wrote .failed ∉ h
  | .summarising => .wrote .completed ∈ h ∧ .wrote .failed ∉ h
  | .unwinding => .wrote .cancelled ∈ h
  | .failing _ => .wrote .failed ∉ h
  | .reporting _ => .wrote .failed ∈ h
  | .leaving | .returned => ∃ st : Status, st.Terminal ∧ .wrote st ∈ h

/-- What every interleaving keeps, good or bad. -/
structure Inv (run : Run) (h : List Obs) : Prop where
  past : Past h run.phase
  flagged : run.cancelled = true → .wrote .cancelled ∈ h
  pending : 0 < run.stopping → .wrote .cancelled ∈ h
  answered : .cancelled200 ∈ h → .wrote .cancelled ∈ h

/-- An observation that is no write of `_execute` moves nothing. -/
theorem Past.frame {h : List Obs} {p : Phase} (hp : Past h p) {x : Obs} (hc : x ≠ .wrote .completed)
    (hf : x ≠ .wrote .failed) : Past (h ++ [x]) p := by
  have hmem : ∀ {y : Obs}, y ≠ x → y ∈ h ++ [x] → y ∈ h := by
    intro y hne hy
    rcases List.mem_append.mp hy with hy | hy
    · exact hy
    · exact absurd (List.mem_singleton.mp hy) hne
  cases p with
  | scheduled | markingRunning | engine | markingCompleted =>
    exact ⟨fun hy => hp.1 (hmem hc.symm hy), fun hy => hp.2 (hmem hf.symm hy)⟩
  | summarising => exact ⟨List.mem_append_left _ hp.1, fun hy => hp.2 (hmem hf.symm hy)⟩
  | unwinding => exact List.mem_append_left _ hp
  | failing message => exact fun hy => hp (hmem hf.symm hy)
  | reporting message => exact List.mem_append_left _ hp
  | leaving | returned => exact Exists.imp (fun st hst => ⟨hst.1, List.mem_append_left _ hst.2⟩) hp

theorem Past.silent {h : List Obs} {c : Bool} {p p' : Phase} (hp : Past h p) (hs : Silent c p p')
    (hc : c = true → .wrote .cancelled ∈ h) : Past h p' := by
  cases hs with
  | enter => exact hp
  | goesOn => exact hp
  | unwinds hflag => exact hc hflag
  | ran => exact hp
  | engineRaises message => exact hp.2
  | summarised => exact ⟨.completed, trivial, hp.1⟩
  | summaryRaises message => exact hp.2
  | toldCancelled => exact ⟨.cancelled, trivial, hp⟩
  | toldFailed message => exact ⟨.failed, trivial, hp⟩

theorem Past.writes {h : List Obs} {p p' : Phase} {st : Status} (hp : Past h p) (hw : Writes p st p') :
    Past (h ++ [.wrote st]) p' := by
  cases hw with
  | running => simpa [Past] using hp
  | completed => simpa [Past] using hp.2
  | failed message => simp [Past]

theorem inv_step {run run' : Run} {h : List Obs} {a : Act} {o : List Obs} (hi : Inv run h)
    (hs : lifecycle.step run a = some (run', o)) : Inv run' (h ++ o) := by
  cases moves_of_step hs with
  | stops hlive run' hst hc hp =>
    have hm : Obs.wrote .cancelled ∈ h ++ [.wrote .cancelled] := by simp
    exact ⟨hp ▸ hi.past.frame (by simp) (by simp), fun _ => hm, fun _ => hm, fun _ => hm⟩
  | tooLate =>
    refine ⟨hi.past.frame (by simp) (by simp), ?_, ?_, ?_⟩
    · exact fun hf => List.mem_append_left _ (hi.flagged hf)
    · exact fun hw => List.mem_append_left _ (hi.pending hw)
    · exact fun ha => List.mem_append_left _ (hi.answered (by simpa using ha))
  | flags hw run' hst hp =>
    have hm : Obs.wrote .cancelled ∈ h ++ [.cancelled200] := List.mem_append_left _ (hi.pending hw)
    exact ⟨hp ▸ hi.past.frame (by simp) (by simp), fun _ => hm, fun _ => hm, fun _ => hm⟩
  | silent a run' hst hc hw hp hu =>
    rw [List.append_nil]
    exact ⟨hi.past.silent hp hi.flagged, hc ▸ hi.flagged, hw ▸ hi.pending, hi.answered⟩
  | writes a run' st hst hc hw hp hu =>
    refine ⟨hi.past.writes hp, ?_, ?_, ?_⟩
    · exact fun hf => List.mem_append_left _ (hi.flagged (hc ▸ hf))
    · exact fun hpos => List.mem_append_left _ (hi.pending (hw ▸ hpos))
    · exact fun ha => List.mem_append_left _ (hi.answered (by simpa using ha))
  | leaves run' hst hc hw hl hp =>
    refine ⟨?_, ?_, ?_, ?_⟩
    · have hpast := hi.past.frame (x := .released) (by simp) (by simp)
      rw [hl] at hpast
      rw [hp]
      exact hpast
    · intro hf
      rw [hc] at hf
      cases hf
    · exact fun hpos => List.mem_append_left _ (hi.pending (hw ▸ hpos))
    · exact fun ha => List.mem_append_left _ (hi.answered (by simpa using ha))

/-! ### Which steps keep the promise -/

/-- A status that is written keeps the promise when no other terminal one was. -/
theorem settled_of_fresh {run run' : Run} {h : List Obs} {st : Status} (hi : Inv run h)
    (hst : run'.row.status = st) (hret : run'.phase ≠ .returned) (hcan : .wrote .cancelled ∉ h)
    (hall : ∀ st' : Status, st'.Terminal → .wrote st' ∈ h → st' = st) : Settled run' (h ++ [.wrote st]) := by
  refine ⟨fun st' ht hw => ?_, fun ha => ?_, fun hr => absurd hr hret⟩
  · rw [hst]
    rcases List.mem_append.mp hw with hw | hw
    · exact (hall st' ht hw).symm
    · injection (List.mem_singleton.mp hw).symm
  · exact absurd (hi.answered (by simpa using ha)) hcan

theorem Settled.fresh {run' : Run} {h : List Obs} {st : Status} (hs : Settled run' (h ++ [.wrote st]))
    (hst : run'.row.status = st) {st' : Status} (ht : st'.Terminal) (hne : st' ≠ st) : .wrote st' ∉ h := by
  intro hw
  have heq : run'.row.status = st' := hs.absorbed st' ht (List.mem_append_left _ hw)
  exact hne (heq.symm.trans hst)

theorem Writes.not_returned {p p' : Phase} {st : Status} (hp : Writes p st p') : p' ≠ .returned := by
  rintro rfl
  cases hp

/-- A write of `_execute` keeps the promise exactly when the run has not been ended before it. -/
theorem settled_writes_iff {run run' : Run} {h : List Obs} {st : Status} (hi : Inv run h)
    (hst : run'.row.status = st) (hp : Writes run.phase st run'.phase) :
    Settled run' (h ++ [.wrote st]) ↔ Unended h st := by
  have hpast := hi.past
  have hret := hp.not_returned
  generalize run.phase = p at hp hpast
  generalize hp' : run'.phase = p' at hp
  cases hp with
  | running =>
    refine ⟨fun hs => hs.fresh hst trivial (by simp), fun hcan => settled_of_fresh hi hst hret hcan ?_⟩
    intro st' ht hw
    cases st' with
    | queued | running => cases ht
    | completed => exact absurd hw hpast.1
    | failed => exact absurd hw hpast.2
    | cancelled => exact absurd hw hcan
  | completed =>
    refine ⟨fun hs => hs.fresh hst trivial (by simp), fun hcan => settled_of_fresh hi hst hret hcan ?_⟩
    intro st' ht hw
    cases st' with
    | queued | running => cases ht
    | completed => rfl
    | failed => exact absurd hw hpast.2
    | cancelled => exact absurd hw hcan
  | failed message =>
    refine ⟨fun hs => ⟨hs.fresh hst trivial (by simp), hs.fresh hst trivial (by simp)⟩, ?_⟩
    rintro ⟨hcan, hcom⟩
    refine settled_of_fresh hi hst hret hcan fun st' ht hw => ?_
    cases st' with
    | queued | running => cases ht
    | completed => exact absurd hw hcom
    | failed => rfl
    | cancelled => exact absurd hw hcan

/-- An observation that is no write and no 200 promises nothing new. -/
theorem Settled.frame {run run' : Run} {h : List Obs} {x : Obs} (hset : Settled run h)
    (hst : run'.row.status = run.row.status) (hx : ∀ st, x ≠ .wrote st) (hans : x ≠ .cancelled200)
    (hret : run'.phase = .returned → run'.row.status.Terminal) : Settled run' (h ++ [x]) := by
  refine ⟨fun st ht hw => ?_, fun ha => ?_, hret⟩
  · rw [hst]
    refine hset.absorbed st ht ?_
    simpa [(hx st).symm] using hw
  · rw [hst]
    exact hset.stopped (by simpa [hans.symm] using ha)

theorem Silent.not_returned {c : Bool} {p p' : Phase} (hp : Silent c p p') : p' ≠ .returned := by
  rintro rfl
  cases hp

/-- **Which steps keep the promise**: exactly the undisturbed ones. -/
theorem settled_step_iff {run run' : Run} {h : List Obs} {a : Act} {o : List Obs} (hi : Inv run h)
    (hset : Settled run h) (hs : lifecycle.step run a = some (run', o)) :
    Settled run' (h ++ o) ↔ Undisturbed run h a := by
  cases moves_of_step hs with
  | stops hlive run' hst hc hp =>
    refine iff_of_true ⟨fun st ht hw => ?_, fun _ => hst, fun _ => by rw [hst]; trivial⟩ trivial
    rcases List.mem_append.mp hw with hw | hw
    · rw [← hset.absorbed st ht hw] at ht
      exact absurd ht hlive
    · injection List.mem_singleton.mp hw with heq
      rw [hst, heq]
  | tooLate => exact iff_of_true (hset.frame rfl (by simp) (by simp) hset.ended) trivial
  | flags hw run' hst hp =>
    have hcan : run.row.status = .cancelled := hset.absorbed .cancelled trivial (hi.pending hw)
    refine iff_of_true ⟨fun st ht hw => ?_, fun _ => by rw [hst, hcan], fun _ => by rw [hst, hcan]; trivial⟩ trivial
    rw [hst]
    exact hset.absorbed st ht (by simpa using hw)
  | silent a run' hst hc hw hp hu =>
    rw [List.append_nil]
    refine iff_of_true ⟨fun st ht hw => ?_, fun ha => ?_, fun hr => absurd hr hp.not_returned⟩ (hu h)
    · rw [hst]
      exact hset.absorbed st ht hw
    · rw [hst]
      exact hset.stopped ha
  | writes a run' st hst hc hw hp hu => rw [settled_writes_iff hi hst hp, hu h]
  | leaves run' hst hc hw hl hp =>
    refine iff_of_true (hset.frame (by rw [hst]) (by simp) (by simp) fun _ => ?_) trivial
    -- whoever brought `_execute` here has written a terminal status, and it still stands
    have hpast := hi.past
    rw [hl] at hpast
    obtain ⟨st, ht, hw⟩ := hpast
    rw [hst, hset.absorbed st ht hw]
    exact ht

theorem undisturbed_of_none {run : Run} {h : List Obs} {a : Act} (hs : lifecycle.step run a = none) :
    Undisturbed run h a := by
  unfold Undisturbed
  split
  · intro hp
    simp [lifecycle, Act.databaseFails, Run.step, hp] at hs
  · intro hp
    simp [lifecycle, Act.databaseFails, Run.step, hp] at hs
  · intro message hp
    simp [lifecycle, Act.databaseFails, Run.step, hp] at hs
  · trivial

theorem inv_admitted (tenant : Tenant) : Inv (.admitted tenant) [] where
  past := by simp [Run.admitted, Past]
  flagged := by simp [Run.admitted]
  pending := by simp [Run.admitted]
  answered := by simp

theorem settled_admitted (tenant : Tenant) : Settled (.admitted tenant) [] where
  absorbed := by simp
  stopped := by simp
  ended := by simp [Run.admitted]

/-- **When a run's end stands**: in every state of an interleaving the terminal statuses are absorbing, an answered
cancellation stands and a returned `_execute` leaves a terminal status, if and only if `_execute` never calls
`mark_running` or `mark_completed` after a cancellation, nor `mark_failed` after a cancellation or a completion. -/
theorem settled_iff (tenant : Tenant) (acts : List Act) :
    lifecycle.Along Settled (.admitted tenant) [] acts ↔ lifecycle.Meets Undisturbed (.admitted tenant) [] acts :=
  along_iff_meets (I := Inv) inv_step settled_step_iff (fun _ hs => undisturbed_of_none hs) (inv_admitted tenant)
    (settled_admitted tenant)

/-- Cancelled while queued and answered 200, the run starts all the same, is unwound at its first progress step and
is left `running`. -/
theorem cancelled_while_queued_is_left_running :
    ¬ ∀ (tenant : Tenant) (acts : List Act), lifecycle.Along Settled (.admitted tenant) [] acts := by
  intro hall
  have hset := (hall ⟨"t1", by decide⟩ [.cancelRow, .cancelFlag, .enter, .markRunning none, .progress 2 none,
    .notifyCancelled none, .leave]).at_end rfl
  have hrunning : Status.Terminal .running := hset.ended rfl
  exact hrunning

end DTwin.Sim
