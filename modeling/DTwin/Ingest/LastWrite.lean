import DTwin.Ingest.Conserved

/-!
# DTwin.Ingest.LastWrite — which of two readings with one key is stored?

`dedupe` decides it within a batch, and for the later one; `ON CONFLICT DO NOTHING` decides it between
batches, and for the earlier one.  So the last reading of a key is stored if no reading of another value
comes after the batch of the first (`AgreesOn`), and then wherever the batches end (`last_write_wins`);
otherwise the timer decides (`first_write_wins`).
-/

namespace DTwin.Ingest

open Control OrderedMap Machine

variable {sensors : Sensors}

/-! ## When do the two agree? -/

/-- The insert that is awaited will store for `k` the row of the last reading that waits in the buffer, if one
does. -/
def Sys.InsertAgrees (s : Sys sensors) (k : Key) : Prop :=
  ∀ f tenantId group groups, s.flushing = some f → f.groups = (tenantId, group) :: groups →
    ¬ Stored s.table k → ∀ w ∈ group, w.key = k →
      ∀ r, lastOf OwnedReading.key k s.buffer = some r → r.row = w.row

/-- A reading of `k` that is enqueued last is that of the row stored. -/
def Sys.EnqueueAgrees (s : Sys sensors) (k : Key) (readings : List (OwnedReading sensors)) : Prop :=
  ∀ t ∈ s.table, rowKey t = k → ∀ r, lastOf OwnedReading.key k readings = some r → r.row = t

/-- No step brings a second value for `k` after the batch of the first. -/
def AgreesOn (k : Key) (s : Sys sensors) (_ : List (Obs sensors)) : Act sensors → Prop
  | .enqueue readings _ => s.EnqueueAgrees k readings
  | .answer (.failed _) _ => True
  | .answer _ _ => s.InsertAgrees k
  | _ => True

/-- The same for moves. -/
def MoveAgreesOn (k : Key) (s : Sys sensors) (_ : List (Obs sensors)) : Move sensors → Prop
  | .push readings => s.EnqueueAgrees k readings
  | .insert => s.InsertAgrees k
  | _ => True

theorem leave_agrees (K : Key → Prop) :
    Leave fun (s : Sys sensors) h m => ∀ k, K k → MoveAgreesOn k s h m := by
  intro s h m hfree k _
  cases m with
  | push readings => exact hfree.elim
  | insert => exact hfree.elim
  | _ => trivial

theorem allows_agrees {cfg : Config} {K : Key → Prop} {s : Sys sensors} {h : List (Obs sensors)}
    {a : Act sensors} (hC : ∀ k, K k → AgreesOn k s h a) :
    Allows cfg (fun s h m => ∀ k, K k → MoveAgreesOn k s h m) s h a where
  push readings now ha := by
    subst ha
    exact hC
  insert outcome now ha hok := by
    subst ha
    cases outcome with
    | failed message => exact absurd rfl (hok message)
    | ok => exact hC
    | lost message => exact hC
  fail _ _ _ _ _ := trivial
  lost _ _ _ := ⟨fun _ _ _ _ _ => trivial, fun _ _ _ => trivial⟩

/-! ## What a run keeps of a key -/

/-- No reading of `k` has been dropped. -/
def Undropped (k : Key) (h : List (Obs sensors)) : Prop := ∀ r ∈ droppedOf h, r.key ≠ k

/-- If `k` is stored, its row is that of the last reading enqueued; if not, that reading is still waiting. -/
structure LastKept (k : Key) (s : Sys sensors) (h : List (Obs sensors)) : Prop where
  stored : ∀ t ∈ s.table, rowKey t = k → ∀ r, lastOf OwnedReading.key k (enqueuedOf h) = some r → r.row = t
  waiting : ¬ Stored s.table k →
    lastOf OwnedReading.key k (enqueuedOf h) = lastOf OwnedReading.key k (s.inFlight ++ s.buffer)

theorem lastKept_init (k : Key) (t₀ : List TelemetryRow) : LastKept k (.init t₀ : Sys sensors) [] where
  stored _ _ _ _ hr := absurd hr.symm (Option.some_ne_none _)
  waiting _ := rfl

theorem lastOf_kept {cfg : Config} {k : Key} {buffer : List (OwnedReading sensors)}
    (hno : ∀ r ∈ cfg.overflow buffer, r.key ≠ k) :
    lastOf OwnedReading.key k (cfg.kept buffer) = lastOf OwnedReading.key k buffer := by
  calc lastOf OwnedReading.key k (cfg.kept buffer)
      = lastOf OwnedReading.key k (cfg.overflow buffer ++ cfg.kept buffer) := by
        rw [lastOf_append, lastOf_eq_none.mpr hno, Option.or_none]
    _ = lastOf OwnedReading.key k buffer := by rw [overflow_append_kept]

/-- A batch that has no group left and nothing of `k` stored has no reading of `k`. -/
theorem Progress.lastOf_batch {t₀ : List TelemetryRow} {s : Sys sensors} {h : List (Obs sensors)}
    (hP : Progress t₀ s h) {f : Flush sensors} (hf : s.flushing = some f) (hg : f.groups = []) {k : Key}
    (hk : ¬ Stored s.table k) : lastOf OwnedReading.key k f.batch = none := by
  refine lastOf_eq_none.mpr fun r hr hrk => hk ?_
  rw [← hrk]
  exact hP.stored hf hr (by simp [hg])

theorem LastKept.move {cfg : Config} {t₀ : List TelemetryRow} {k : Key} {s s' : Sys sensors}
    {h o : List (Obs sensors)} {m : Move sensors} (hL : LastKept k s h) (hP : Progress t₀ s h)
    (hC : MoveAgreesOn k s h m) (hno : Undropped k o) (hm : move cfg s m = some (s', o)) :
    LastKept k s' (h ++ o) := by
  obtain ⟨hstored, hwaiting⟩ := hL
  cases moves_of_move hm with
  | aside timer returned stopped =>
    exact ⟨by simpa using hstored, by simpa [Sys.inFlight] using hwaiting⟩
  | push readings =>
    have hover : ∀ r ∈ cfg.overflow (s.buffer ++ readings), r.key ≠ k := by simpa [Undropped] using hno
    constructor
    · intro t ht hk r hr
      simp only [enqueuedOf_append, enqueuedOf_cons, enqueuedOf_nil, Obs.enqueues, List.append_nil,
        lastOf_append] at hr
      cases hlast : lastOf OwnedReading.key k readings with
      | some r' =>
        rw [hlast, Option.some_or] at hr
        exact hC t ht hk r (hlast.trans hr)
      | none =>
        rw [hlast, Option.none_or] at hr
        exact hstored t ht hk r hr
    · intro hk
      have hbuf := lastOf_kept hover
      simp only [Sys.push, Sys.inFlight, enqueuedOf_append, enqueuedOf_cons, enqueuedOf_nil, Obs.enqueues,
        List.append_nil, lastOf_append] at hwaiting hbuf ⊢
      rw [hwaiting hk, hbuf, Option.or_assoc]
  | begin waiter now hidle hne =>
    refine ⟨by simpa [Sys.begin] using hstored, fun hk => ?_⟩
    simpa [Sys.begin, Sys.inFlight, hidle] using hwaiting hk
  | @insert f hf tenantId group groups hg =>
    have hbatch : ∀ w ∈ group, lastOf OwnedReading.key w.key f.batch = some w := by
      intro w hw
      obtain ⟨-, -, -, -, -, hsuf, -⟩ := hP.flush f hf
      have hgroup := mem_groupByTenant (hsuf.subset (hg ▸ List.mem_cons_self))
      rw [hgroup] at hw
      exact mem_dedupe.mp (List.mem_filter.mp hw).1
    constructor
    · intro t ht hk r hr
      have ht' : t ∈ s.table ++ insertedRows tenantId group s.table := by
        rwa [← insertReadings_append]
      simp only [enqueuedOf_append, enqueuedOf_cons, enqueuedOf_nil, Obs.enqueues, List.append_nil] at hr
      rcases List.mem_append.mp ht' with ht' | ht'
      · exact hstored t ht' hk r hr
      · obtain ⟨w, hw, rfl, -, hnew⟩ := mem_insertedRows ht'
        obtain rfl : w.key = k := hk
        rw [hwaiting hnew, lastOf_append] at hr
        cases hlast : lastOf OwnedReading.key w.key s.buffer with
        | some r' =>
          rw [hlast, Option.some_or] at hr
          exact hC f tenantId group groups hf hg hnew w hw rfl r (hlast.trans hr)
        | none =>
          rw [hlast, Option.none_or, Sys.inFlight, hf, Option.map_some, Option.getD_some, hbatch w hw] at hr
          exact congrArg OwnedReading.row (Option.some.inj hr).symm
    · intro hk
      have hold : ¬ Stored s.table k := fun hs => hk (hs.mono (prefix_insertReadings tenantId group s.table))
      simpa [Sys.insert, Flush.count, Sys.inFlight, hf] using hwaiting hold
  | see hf hg hs => exact ⟨by simpa using hstored, by simpa [Sys.inFlight, hf] using hwaiting⟩
  | finish hf hg hs now =>
    refine ⟨by simpa [Sys.finish] using hstored, fun hk => ?_⟩
    have hnone := hP.lastOf_batch hf hg hk
    simpa [Sys.finish, Sys.inFlight, hf, lastOf_append, hnone] using hwaiting hk
  | @fail f hf message =>
    have hover : ∀ r ∈ cfg.overflow (f.batch ++ s.buffer), r.key ≠ k := by simpa [Undropped] using hno
    refine ⟨by simpa [Sys.fail] using hstored, fun hk => ?_⟩
    have hbuf := lastOf_kept hover
    simpa [Sys.fail, Sys.inFlight, hf, hbuf] using hwaiting hk

/-! ## Every run -/

/-- The step agrees on every key. -/
def Agrees (s : Sys sensors) (h : List (Obs sensors)) (a : Act sensors) : Prop := ∀ k, True → AgreesOn k s h a

/-- With nothing dropped and nothing waiting, the table is that of the readings enqueued: for each key the row
it had, or that of the last reading. -/
def LastWriteWins (t₀ : List TelemetryRow) (s : Sys sensors) (h : List (Obs sensors)) : Prop :=
  droppedOf h = [] → s.flushing = none → s.buffer = [] → ∀ row,
    row ∈ s.table ↔ row ∈ t₀ ∨ ∃ r, lastOf OwnedReading.key (rowKey row) (enqueuedOf h) = some r ∧ r.row = row

/-- What every key keeps, with nothing waiting. -/
theorem LastKept.row_iff {cfg : Config} {t₀ : List TelemetryRow} {s : Sys sensors} {h : List (Obs sensors)}
    {row : TelemetryRow} (hL : LastKept (rowKey row) s h) (hA : Accounted cfg t₀ s h) (hP : Progress t₀ s h)
    (hidle : ¬ Stored s.table (rowKey row) →
      lastOf OwnedReading.key (rowKey row) (s.inFlight ++ s.buffer) = none) :
    row ∈ s.table ↔
      row ∈ t₀ ∨ ∃ r, lastOf OwnedReading.key (rowKey row) (enqueuedOf h) = some r ∧ r.row = row := by
  constructor
  · intro hrow
    have hrow' := hrow
    rw [hP.table] at hrow'
    refine (List.mem_append.mp hrow').imp_right fun hin => ?_
    obtain ⟨r, hr, rfl⟩ := hA.source row hin
    obtain ⟨w, hw⟩ := exists_lastOf OwnedReading.key hr
    exact ⟨w, hw, hL.stored r.row hrow rfl w hw⟩
  · rintro (hrow | ⟨r, hr, hrow⟩)
    · rw [hP.table]
      exact List.mem_append_left _ hrow
    · by_cases hs : Stored s.table (rowKey row)
      · obtain ⟨t, ht, hk⟩ := hs
        rw [← hrow, hL.stored t ht hk r hr]
        exact ht
      · rw [hL.waiting hs, hidle hs] at hr
        exact absurd hr nofun

/-- **Last write wins.**  In a run whose steps agree on every key, in every state with nothing waiting and
nothing dropped so far, the table is a function of the readings enqueued. -/
theorem last_write_wins {cfg : Config} {t₀ : List TelemetryRow} {as : List (Act sensors)}
    (hC : (writing cfg).Meets Agrees (.init t₀) [] as) :
    (writing cfg).Along (LastWriteWins t₀) (.init t₀) [] as := by
  let I : Sys sensors → List (Obs sensors) → Prop := fun s h =>
    (Accounted cfg t₀ s h ∧ Progress t₀ s h) ∧ ∀ k, Undropped k h → LastKept k s h
  have hmove : ∀ {s h m s' o}, I s h → (∀ k, True → MoveAgreesOn k s h m) → move cfg s m = some (s', o) →
      I s' (h ++ o) := by
    intro s h m s' o hI hD hm
    refine ⟨⟨hI.1.1.move hI.1.2 hm, hI.1.2.step hm⟩, fun k hno => ?_⟩
    rw [Undropped, droppedOf_append, List.forall_mem_append] at hno
    exact (hI.2 k hno.1).move hI.1.2 (hD k trivial) hno.2 hm
  have hinit : I (.init t₀) [] :=
    ⟨⟨accounted_init cfg t₀, progress_init t₀⟩, fun k _ => lastKept_init k t₀⟩
  refine along_of_meets (I := I) (C := Agrees) ?_ ?_ hinit hC
  · refine hist_of_refines (N := moving cfg) ?_ hmove
    intro s h a s' o hC hs
    exact step_moves (leave_agrees _) (allows_agrees hC) hs
  · rintro s h ⟨⟨hA, hP⟩, hL⟩ hdropped hidle hempty row
    refine (hL (rowKey row) ?_).row_iff hA hP ?_
    · simp [Undropped, hdropped]
    · simp [Sys.inFlight, hidle, hempty]

/-- A gateway sends a value, then its correction. -/
def sentThenCorrected : List (Act ownSensors) :=
  [.start, .enqueue [ownReading 1 0 20] 0, .enqueue [ownReading 1 0 21] 1]

/-- The flush of one batch of one tenant. -/
def flushed (now : ℤ) : List (Act ownSensors) := [.timer now, .answer .ok now, .answer .ok now]

theorem last_write_wins_corrected :
    (writing roomyBuffer).Along (LastWriteWins []) (.init []) [] (sentThenCorrected ++ flushed 2) := by
  refine last_write_wins ⟨fun _ _ => trivial, fun s o hs => ?_⟩
  cases hs
  refine ⟨fun k _ => nofun, fun s o hs => ?_⟩
  cases hs
  refine ⟨fun k _ => nofun, fun s o hs => ?_⟩
  cases hs
  refine ⟨fun _ _ => trivial, fun s o hs => ?_⟩
  cases hs
  refine ⟨fun k _ f tenantId group groups _ _ _ w _ _ => nofun, fun s o hs => ?_⟩
  cases hs
  exact ⟨fun k _ f tenantId group groups _ _ _ w _ _ => nofun, fun _ _ _ => trivial⟩

/-- The same readings, with a flush between. -/
def sentFlushedCorrected : List (Act ownSensors) :=
  [.start, .enqueue [ownReading 1 0 20] 0] ++ flushed 1 ++ [.enqueue [ownReading 1 0 21] 2] ++ flushed 3

theorem sentFlushedCorrected_isSome :
    ((writing roomyBuffer).exec (.init []) sentFlushedCorrected).isSome = true := by decide +kernel

/-- The correction is not stored. -/
theorem first_write_wins : ∃ (s : Sys ownSensors) (h : List (Obs ownSensors)),
    (writing roomyBuffer).Reaches (.init []) s h ∧ ¬ LastWriteWins [] s h := by
  let r := ((writing roomyBuffer).exec (.init []) sentFlushedCorrected).get sentFlushedCorrected_isSome
  have hdropped : droppedOf r.2 = [] := by decide +kernel
  have hidle : r.1.flushing.isNone = true := by decide +kernel
  have hempty : r.1.buffer = [] := by decide +kernel
  have hlast : lastOf OwnedReading.key (1, 0) (enqueuedOf r.2) = some (ownReading 1 0 21) := by
    decide +kernel
  have hnot : (ownReading 1 0 21).row ∉ r.1.table := by decide +kernel
  refine ⟨r.1, r.2, ⟨_, (Option.some_get sentFlushedCorrected_isSome).symm⟩, fun hwins => hnot ?_⟩
  exact (hwins hdropped (Option.isNone_iff_eq_none.mp hidle) hempty _).mpr (Or.inr ⟨_, hlast, rfl⟩)

end DTwin.Ingest
