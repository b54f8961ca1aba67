import DTwin.Ingest.Pipeline
import DTwin.Ingest.Shutdown

/-!
# DTwin.Ingest.Poison — can every accepted reading be stored?

What a reading may be is said in three places: the schema of a batch, the clock check of `ingestRaw`, and the casts of
the statement of `insertReadings`.  Only the last says how old it may be.  `persisting` is the writer of
`Ingest.Writer` behind `ingestRaw`, and its database refuses a statement that carries a row it has no value for.

No flush fails for what it carries, and what is pending is stored by the retries (`Unpoisoned`), all along a run
exactly when every reading accepted is of a time the column has (`unpoisoned_iff`).
-/

namespace DTwin.Ingest

open Control OrderedMap Machine

variable {sensors : Sensors}

/-! ## The casts of the statement -/

def bigint? (n : ℤ) : Option ℤ := if -2 ^ 63 ≤ n ∧ n < 2 ^ 63 then some n else none

def smallint? (n : ℤ) : Option ℤ := if -2 ^ 15 ≤ n ∧ n < 2 ^ 15 then some n else none

/-- Midnight of 24 November 4714 BC, the first instant of `timestamptz`. -/
def timestampMin : ℤ := -210866803200000

/-- The end of the year 294276. -/
def timestampEnd : ℤ := 9224318016000000

/-- `to_timestamp(ts / 1000.0)`. -/
def toTimestamp? (ts : ℤ) : Option ℤ := if timestampMin ≤ ts ∧ ts < timestampEnd then some ts else none

/-- What the statement selects for a reading; `double precision` has every value there is. -/
def selectRow (r : OwnedReading sensors) : Option TelemetryRow :=
  (bigint? r.ts).bind fun ts =>
    (smallint? r.quality.code).bind fun _ =>
      (toTimestamp? ts).map fun time => ⟨r.tenantId, r.sensorId, time, r.value, r.quality⟩

/-- The statement has a row for the reading. -/
def Storable (r : OwnedReading sensors) : Prop := selectRow r = some r.row

instance (r : OwnedReading sensors) : Decidable (Storable r) := inferInstanceAs (Decidable (_ = _))

/-- Is `ts` a time of the column? -/
def OfColumn (ts : ℤ) : Prop := timestampMin ≤ ts ∧ ts < timestampEnd

instance (ts : ℤ) : Decidable (OfColumn ts) := inferInstanceAs (Decidable (_ ∧ _))

theorem smallint?_code (quality : Quality) : smallint? quality.code = some (quality.code : ℤ) := by
  cases quality <;> rfl

theorem storable_iff {r : OwnedReading sensors} : Storable r ↔ OfColumn r.ts := by
  rw [Storable, selectRow, bigint?, smallint?_code, Option.bind_eq_some_iff]
  simp only [Option.bind_some, Option.map_eq_some_iff, toTimestamp?, OfColumn]
  constructor
  · rintro ⟨ts, hts, time, htime, -⟩
    split_ifs at hts htime with hbig hcol
    cases hts
    exact hcol
  · intro hcol
    have hbig : -2 ^ 63 ≤ r.ts ∧ r.ts < 2 ^ 63 := by
      simp only [timestampMin, timestampEnd] at hcol
      omega
    exact ⟨r.ts, if_pos hbig, r.ts, if_pos hcol, rfl⟩

/-! ## The service -/

inductive Event (sensors : Sensors)
  | start
  | receive (registry : Registry sensors) (tenantId : Uuid) (batch : RawTelemetryBatch) (now : ℤ)
  | timer (now : ℤ)
  /-- `refusal` is the database's text when it cannot execute the statement -/
  | answer (outcome : Outcome) (refusal : String) (now : ℤ)
  | stop (i : ℕ) (now : ℤ)
  | resolve (i : ℕ)

/-- The readings of the awaited insert. -/
def Sys.awaited (s : Sys sensors) : List (OwnedReading sensors) :=
  match s.flushing.map Flush.groups with
  | some ((_, group) :: _) => group
  | _ => []

/-- How the awaited statement ends, if one that can be executed ends with `outcome`. -/
def Sys.outcome (s : Sys sensors) (outcome : Outcome) (refusal : String) : Outcome :=
  if ∀ r ∈ s.awaited, Storable r then outcome else .failed refusal

def persist (cfg : PipelineConfig) (s : Sys sensors) : Event sensors → Option (Sys sensors × List (Obs sensors))
  | .start => step cfg.toConfig s .start
  | .receive registry tenantId batch now =>
    let readings := accepted cfg registry tenantId batch now
    if readings = [] then some (s, []) else step cfg.toConfig s (.enqueue readings now)
  | .timer now => step cfg.toConfig s (.timer now)
  | .answer outcome refusal now => step cfg.toConfig s (.answer (s.outcome outcome refusal) now)
  | .stop i now => step cfg.toConfig s (.stop i now)
  | .resolve i => step cfg.toConfig s (.resolve i)

def persisting (cfg : PipelineConfig) : Machine (Sys sensors) (Event sensors) (Obs sensors) := ⟨persist cfg⟩

/-- The timer fires, and the database executes every statement it can. -/
def Event.Healthy : Event sensors → Prop
  | .timer _ => True
  | .answer .ok _ _ => True
  | _ => False

/-- Every reading accepted can be stored, the awaited insert can be executed, and as long as there are retries they
store everything pending. -/
structure Unpoisoned (cfg : PipelineConfig) (s : Sys sensors) (h : List (Obs sensors)) : Prop where
  storable : ∀ r ∈ enqueuedOf h, Storable r
  executable : ∀ r ∈ s.awaited, Storable r
  persists : s.timer = true → ∃ es s' o, (∀ e ∈ es, Event.Healthy e) ∧
    (persisting cfg).exec s es = some (s', o) ∧ ∀ r ∈ s.buffer ++ s.inFlight, Stored s'.table r.key

/-- Every reading that the batch has for a known sensor and that is not ahead of the clock is of a time of the column.
-/
def InRange (cfg : PipelineConfig) : Event sensors → Prop
  | .receive registry tenantId batch now => ∀ raw ∈ batch.readings, (registry tenantId raw.externalId).isSome →
      ¬ cfg.FutureDated now (raw.ts.getD now) → OfColumn (raw.ts.getD now)
  | _ => True

theorem storable_accepted_iff {cfg : PipelineConfig} {registry : Registry sensors} {tenantId : Uuid}
    {batch : RawTelemetryBatch} {now : ℤ} :
    (∀ r ∈ accepted cfg registry tenantId batch now, Storable r) ↔
      InRange cfg (.receive registry tenantId batch now) := by
  constructor
  · intro h raw hraw hlookup hfuture
    obtain ⟨sensor, hsensor⟩ := Option.isSome_iff_exists.mp hlookup
    exact storable_iff.mp (h (readingOf sensor now raw) (mem_accepted.mpr ⟨raw, hraw, sensor, hsensor, hfuture, rfl⟩))
  · intro h r hr
    obtain ⟨raw, hraw, sensor, hsensor, hfuture, rfl⟩ := mem_accepted.mp hr
    exact storable_iff.mpr (h raw hraw (Option.isSome_iff_exists.mpr ⟨sensor, hsensor⟩) hfuture)

/-! ## One step -/

/-- A flush in progress has a statement left. -/
def Busy (s : Sys sensors) : Prop := ∀ f, s.flushing = some f → ¬ (f.groups = [] ∧ f.seen = [])

theorem busy_flush {s : Sys sensors} (hs : Busy s) (waiter : Option ℕ) (now : ℤ) : Busy (s.flush waiter now).1 := by
  unfold Sys.flush
  split_ifs with hno
  · exact hs
  · intro f hf hdone
    cases hf
    exact groupByTenant_ne_nil (fun hempty => hno (Or.inr hempty)) hdone.1

theorem busy_proceed {s : Sys sensors} {f : Flush sensors} (hf : s.flushing = some f) (now : ℤ) :
    Busy (s.proceed f now).1 := by
  unfold Sys.proceed
  split_ifs with hdone
  · exact nofun
  · intro g hg
    rwa [Option.some.inj (hf.symm.trans hg)] at hdone

theorem busy_answer (cfg : Config) {s : Sys sensors} (hs : Busy s) (f : Flush sensors) (outcome : Outcome)
    (now : ℤ) : Busy (s.answer cfg f outcome now).1 := by
  unfold Sys.answer
  split
  next tenantId group groups hg =>
    cases outcome with
    | ok => exact busy_proceed rfl now
    | failed message => exact nofun
    | lost message => exact nofun
  next tenantId ids seen hg hseen =>
    cases outcome with
    | ok => exact busy_proceed rfl now
    | failed message => exact nofun
    | lost message => exact nofun
  next hg hseen => exact hs

theorem busy_step {cfg : Config} {s s' : Sys sensors} {a : Act sensors} {o : List (Obs sensors)} (hs : Busy s)
    (hstep : step cfg s a = some (s', o)) : Busy s' := by
  cases a with
  | start =>
    cases hstep
    exact hs
  | timer now =>
    simp only [step] at hstep
    split_ifs at hstep
    have hbusy := busy_flush hs none now
    rwa [Option.some.inj hstep] at hbusy
  | enqueue readings now =>
    have hbusy := busy_flush (s := (s.push cfg readings).1) hs none now
    simp only [step, andThen, Option.some.injEq, Prod.mk.injEq] at hstep
    rw [← hstep.1]
    split_ifs
    · exact hbusy
    · exact hs
  | answer outcome now =>
    obtain ⟨f, -, heq⟩ := Option.map_eq_some_iff.mp hstep
    have hbusy := busy_answer cfg hs f outcome now
    rwa [heq] at hbusy
  | stop i now =>
    have hbusy := busy_flush (s := { s with timer := false }) hs (some i) now
    rwa [Option.some.inj hstep] at hbusy
  | resolve i =>
    simp only [step] at hstep
    split_ifs at hstep
    cases hstep
    exact hs

/-! ## What an event enqueues -/

def Event.readings (cfg : PipelineConfig) : Event sensors → List (OwnedReading sensors)
  | .receive registry tenantId batch now => accepted cfg registry tenantId batch now
  | _ => []

theorem enqueuedOf_flush (s : Sys sensors) (waiter : Option ℕ) (now : ℤ) : enqueuedOf (s.flush waiter now).2 = [] := by
  unfold Sys.flush
  split_ifs <;> rfl

theorem enqueuedOf_proceed (s : Sys sensors) (f : Flush sensors) (now : ℤ) : enqueuedOf (s.proceed f now).2 = [] := by
  unfold Sys.proceed
  split_ifs <;> rfl

theorem enqueuedOf_answer (cfg : Config) (s : Sys sensors) (f : Flush sensors) (outcome : Outcome) (now : ℤ) :
    enqueuedOf (s.answer cfg f outcome now).2 = [] := by
  unfold Sys.answer
  split
  next tenantId group groups hg =>
    cases outcome with
    | ok => simp [andThen, Sys.insert, enqueuedOf_proceed]
    | failed message => rfl
    | lost message => rfl
  next tenantId ids seen hg hseen =>
    cases outcome with
    | ok => exact enqueuedOf_proceed ..
    | failed message => rfl
    | lost message => rfl
  next => rfl

theorem enqueuedOf_persist {cfg : PipelineConfig} {s s' : Sys sensors} {e : Event sensors} {o : List (Obs sensors)}
    (hstep : persist cfg s e = some (s', o)) : enqueuedOf o = e.readings cfg := by
  cases e with
  | start =>
    cases hstep
    rfl
  | receive registry tenantId batch now =>
    simp only [persist] at hstep
    split_ifs at hstep with hnone
    · cases hstep
      exact hnone.symm
    · simp only [step, andThen, Option.some.injEq, Prod.mk.injEq] at hstep
      rw [← hstep.2]
      split_ifs
      · simp [Sys.push, enqueuedOf_flush, Event.readings]
      · simp [Sys.push, Event.readings]
  | timer now =>
    simp only [persist, step] at hstep
    split_ifs at hstep
    have hflush := enqueuedOf_flush s none now
    rwa [Option.some.inj hstep] at hflush
  | answer outcome refusal now =>
    obtain ⟨f, -, heq⟩ := Option.map_eq_some_iff.mp hstep
    have hanswer := enqueuedOf_answer cfg.toConfig s f (s.outcome outcome refusal) now
    rwa [heq] at hanswer
  | stop i now =>
    have hflush := enqueuedOf_flush { s with timer := false } (some i) now
    rwa [Option.some.inj hstep] at hflush
  | resolve i =>
    simp only [persist, step] at hstep
    split_ifs at hstep
    cases hstep
    rfl

/-- An event is a step of the writer, or nothing. -/
theorem persist_step {cfg : PipelineConfig} {s s' : Sys sensors} {e : Event sensors} {o : List (Obs sensors)}
    (hstep : persist cfg s e = some (s', o)) :
    (∃ a, step cfg.toConfig s a = some (s', o)) ∨ (s' = s ∧ o = []) := by
  cases e with
  | receive registry tenantId batch now =>
    simp only [persist] at hstep
    split_ifs at hstep
    · cases hstep
      exact Or.inr ⟨rfl, rfl⟩
    · exact Or.inl ⟨_, hstep⟩
  | start => exact Or.inl ⟨.start, hstep⟩
  | timer now => exact Or.inl ⟨.timer now, hstep⟩
  | answer outcome refusal now => exact Or.inl ⟨.answer (s.outcome outcome refusal) now, hstep⟩
  | stop i now => exact Or.inl ⟨.stop i now, hstep⟩
  | resolve i => exact Or.inl ⟨.resolve i, hstep⟩

/-- What the writer keeps: the account of its readings, and that a flush in progress has a statement left. -/
structure Served (cfg : PipelineConfig) (t₀ : List TelemetryRow) (s : Sys sensors) (h : List (Obs sensors)) : Prop where
  accounted : Accounted cfg.toConfig t₀ s h
  progress : Progress t₀ s h
  busy : Busy s

theorem served_init (cfg : PipelineConfig) (t₀ : List TelemetryRow) : Served cfg t₀ (.init t₀ : Sys sensors) [] :=
  ⟨accounted_init cfg.toConfig t₀, progress_init t₀, nofun⟩

theorem Served.persist {cfg : PipelineConfig} {t₀ : List TelemetryRow} {s s' : Sys sensors} {h o : List (Obs sensors)}
    {e : Event sensors} (hS : Served cfg t₀ s h) (hstep : persist cfg s e = some (s', o)) :
    Served cfg t₀ s' (h ++ o) := by
  rcases persist_step hstep with ⟨a, ha⟩ | ⟨rfl, rfl⟩
  · obtain ⟨hA, hP⟩ := step_of_moves (I := fun s h => Accounted cfg.toConfig t₀ s h ∧ Progress t₀ s h)
      (fun hI hm => ⟨hI.1.move hI.2 hm, hI.2.step hm⟩) ⟨hS.accounted, hS.progress⟩ ha
    exact ⟨hA, hP, busy_step hS.busy ha⟩
  · rwa [List.append_nil]

/-! ## The retries -/

/-- The buffer and the timer are as they were, and nothing is enqueued or dropped. -/
structure Still (s s' : Sys sensors) (o : List (Obs sensors)) : Prop where
  buffer : s'.buffer = s.buffer
  timer : s'.timer = s.timer
  enqueued : enqueuedOf o = []
  dropped : droppedOf o = []

theorem still_proceed (s : Sys sensors) (f : Flush sensors) (now : ℤ) :
    Still s (s.proceed f now).1 (s.proceed f now).2 := by
  unfold Sys.proceed
  split_ifs
  · exact ⟨rfl, rfl, rfl, rfl⟩
  · exact ⟨rfl, rfl, rfl, rfl⟩

/-- Only a flush with a statement left goes on. -/
theorem flushing_proceed {s : Sys sensors} {f g : Flush sensors} {now : ℤ}
    (hg : (s.proceed f now).1.flushing = some g) : s.flushing = some g := by
  unfold Sys.proceed at hg
  split_ifs at hg
  · exact absurd hg nofun
  · exact hg

/-- An executed statement brings the flush one nearer to its end. -/
theorem still_answer (cfg : Config) {s : Sys sensors} (hs : Busy s) {f : Flush sensors} (hf : s.flushing = some f)
    (now : ℤ) :
    Still s (s.answer cfg f .ok now).1 (s.answer cfg f .ok now).2 ∧
      ∀ g, (s.answer cfg f .ok now).1.flushing = some g →
        g.groups.length + g.seen.length < f.groups.length + f.seen.length := by
  unfold Sys.answer
  split
  next tenantId group groups hg =>
    have hstill := still_proceed (s.insert f tenantId group groups).1 (f.count s.table tenantId group groups) now
    refine ⟨⟨hstill.buffer, hstill.timer, ?_, ?_⟩, fun g hflushing => ?_⟩
    · simpa [andThen, Sys.insert] using hstill.enqueued
    · simpa [andThen, Sys.insert] using hstill.dropped
    · obtain rfl : f.count s.table tenantId group groups = g := Option.some.inj (flushing_proceed hflushing)
      simp only [Flush.count, hg, List.length_cons]
      omega
  next tenantId ids seen hg hseen =>
    have hstill := still_proceed { s with flushing := some { f with seen := seen } } { f with seen := seen } now
    refine ⟨⟨hstill.buffer, hstill.timer, hstill.enqueued, hstill.dropped⟩, fun g hflushing => ?_⟩
    obtain rfl : { f with seen := seen } = g := Option.some.inj (flushing_proceed hflushing)
    simp only [hseen, List.length_cons]
    omega
  next hg hseen => exact absurd ⟨hg, hseen⟩ (hs f hf)

theorem mem_batch_of_awaited {t₀ : List TelemetryRow} {s : Sys sensors} {h : List (Obs sensors)}
    (hP : Progress t₀ s h) {r : OwnedReading sensors} (hr : r ∈ s.awaited) : r ∈ s.inFlight := by
  unfold Sys.awaited at hr
  cases hf : s.flushing with
  | none => simp [hf] at hr
  | some f =>
    rcases hgroups : f.groups with _ | ⟨⟨tenantId, group⟩, groups⟩
    · simp [hf, hgroups] at hr
    · simp only [hf, Option.map_some, hgroups] at hr
      rw [hP.group hf hgroups] at hr
      rw [Sys.inFlight, hf]
      exact mem_of_mem_dedupe (List.mem_filter.mp hr).1

/-- What is pending was enqueued. -/
theorem Served.enqueued_of_awaited {cfg : PipelineConfig} {t₀ : List TelemetryRow} {s : Sys sensors}
    {h : List (Obs sensors)} (hS : Served cfg t₀ s h) {r : OwnedReading sensors} (hr : r ∈ s.awaited) :
    r ∈ enqueuedOf h := by
  have hin := mem_batch_of_awaited hS.progress hr
  exact hS.accounted.perm.symm.subset (by simp [hin])

/-- A flush whose rows can all be stored ends. -/
theorem exists_ended {cfg : PipelineConfig} {t₀ : List TelemetryRow} : ∀ (n : ℕ) {s : Sys sensors}
    {h : List (Obs sensors)}, Served cfg t₀ s h → (∀ r ∈ enqueuedOf h, Storable r) →
    (∀ f, s.flushing = some f → f.groups.length + f.seen.length ≤ n) →
    ∃ es s' o, (∀ e ∈ es, Event.Healthy e) ∧ (persisting cfg).exec s es = some (s', o) ∧ Still s s' o ∧
      s'.flushing = none := by
  intro n
  induction n with
  | zero =>
    intro s h hS hall hn
    refine ⟨[], s, [], nofun, rfl, ⟨rfl, rfl, rfl, rfl⟩, ?_⟩
    cases hf : s.flushing with
    | none => rfl
    | some f =>
      have hlen := hn f hf
      have hdone : f.groups = [] ∧ f.seen = [] :=
        ⟨List.eq_nil_of_length_eq_zero (by omega), List.eq_nil_of_length_eq_zero (by omega)⟩
      exact absurd hdone (hS.busy f hf)
  | succ n ih =>
    intro s h hS hall hn
    cases hf : s.flushing with
    | none => exact ⟨[], s, [], nofun, rfl, ⟨rfl, rfl, rfl, rfl⟩, hf⟩
    | some f =>
      have hok : s.outcome .ok "" = .ok := if_pos fun r hr => hall r (hS.enqueued_of_awaited hr)
      have hstep : persist cfg s (.answer .ok "" 0) = some (s.answer cfg.toConfig f .ok 0) := by
        simp only [persist, step, hok, hf, Option.map_some]
      obtain ⟨hstill, hless⟩ := still_answer cfg.toConfig hS.busy hf 0
      generalize s.answer cfg.toConfig f .ok 0 = r at hstep hstill hless
      have hall' : ∀ x ∈ enqueuedOf (h ++ r.2), Storable x := by
        rwa [enqueuedOf_append, hstill.enqueued, List.append_nil]
      obtain ⟨es, s', o, hes, he, hstill', hend⟩ := ih (hS.persist hstep) hall' fun g hg => by
        have hlt := hless g hg
        have hle := hn f hf
        omega
      refine ⟨.answer .ok "" 0 :: es, s', r.2 ++ o, List.forall_mem_cons.mpr ⟨trivial, hes⟩,
        exec_cons_iff.mpr ⟨r.1, r.2, o, hstep, he, rfl⟩, ⟨?_, ?_, ?_, ?_⟩, hend⟩
      · rw [hstill'.buffer, hstill.buffer]
      · rw [hstill'.timer, hstill.timer]
      · rw [enqueuedOf_append, hstill.enqueued, hstill'.enqueued, List.append_nil]
      · rw [droppedOf_append, hstill.dropped, hstill'.dropped, List.append_nil]

/-- **Retries.**  If all that was accepted can be stored, the flush in progress ends and the next one empties the
buffer. -/
theorem exists_drained {cfg : PipelineConfig} {t₀ : List TelemetryRow} {s : Sys sensors} {h : List (Obs sensors)}
    (hS : Served cfg t₀ s h) (hall : ∀ r ∈ enqueuedOf h, Storable r) (htimer : s.timer = true) :
    ∃ es s' o, (∀ e ∈ es, Event.Healthy e) ∧ (persisting cfg).exec s es = some (s', o) ∧ s'.buffer = [] ∧
      s'.flushing = none ∧ enqueuedOf o = [] ∧ droppedOf o = [] := by
  obtain ⟨es₁, s₁, o₁, hes₁, he₁, hstill₁, hend₁⟩ := exists_ended
    ((s.flushing.map fun f => f.groups.length + f.seen.length).getD 0) hS hall fun f hf => by simp [hf]
  by_cases hempty : s₁.buffer = []
  · exact ⟨es₁, s₁, o₁, hes₁, he₁, hempty, hend₁, hstill₁.enqueued, hstill₁.dropped⟩
  -- The timer takes what is in the buffer, and its flush ends as the first did.
  have hbegin : persist cfg s₁ (.timer 0) = some (s₁.begin none 0) := by
    have hidle : ¬ (s₁.flushing.isSome ∨ s₁.buffer = []) := by simp [hend₁, hempty]
    have hon : s₁.timer = true := hstill₁.timer.trans htimer
    simp only [persist, step, hon, if_true, Sys.flush, if_neg hidle]
  have hS₁ : Served cfg t₀ s₁ (h ++ o₁) := exec_hist (M := persisting cfg) (fun hS hs => hS.persist hs) hS he₁
  have hS₂ := hS₁.persist hbegin
  have hall₂ : ∀ r ∈ enqueuedOf (h ++ o₁ ++ (s₁.begin none 0).2), Storable r := by
    simpa [Sys.begin, hstill₁.enqueued] using hall
  obtain ⟨es₃, s₃, o₃, hes₃, he₃, hstill₃, hend₃⟩ := exists_ended
    ((groupByTenant (dedupe s₁.buffer)).length + (s₁.touched.entries.filter (·.2 ≠ [])).length) hS₂ hall₂
    fun f hf => by
      cases hf
      exact le_rfl
  refine ⟨es₁ ++ .timer 0 :: es₃, s₃, o₁ ++ ((s₁.begin none 0).2 ++ o₃), ?_, ?_, hstill₃.buffer, hend₃, ?_, ?_⟩
  · exact List.forall_mem_append.mpr ⟨hes₁, List.forall_mem_cons.mpr ⟨trivial, hes₃⟩⟩
  · exact exec_append_iff.mpr ⟨s₁, o₁, _, he₁, exec_cons_iff.mpr ⟨_, _, o₃, hbegin, he₃, rfl⟩, rfl⟩
  · simp [hstill₁.enqueued, hstill₃.enqueued, Sys.begin]
  · simp [hstill₁.dropped, hstill₃.dropped, Sys.begin]

theorem unpoisoned_of_storable {cfg : PipelineConfig} {t₀ : List TelemetryRow} {s : Sys sensors}
    {h : List (Obs sensors)} (hS : Served cfg t₀ s h) (hall : ∀ r ∈ enqueuedOf h, Storable r) :
    Unpoisoned cfg s h where
  storable := hall
  executable r hr := hall r (hS.enqueued_of_awaited hr)
  persists htimer := by
    obtain ⟨es, s', o, hes, he, hbuffer, hflushing, henq, hdrop⟩ := exists_drained hS hall htimer
    refine ⟨es, s', o, hes, he, fun r hr => ?_⟩
    have hS' : Served cfg t₀ s' (h ++ o) := exec_hist (M := persisting cfg) (fun hS hs => hS.persist hs) hS he
    have howed : Owed h r := hS.accounted.owed_iff.mpr (by
      rw [← or_assoc]
      exact Or.inl (List.mem_append.mp hr))
    have howed' : Owed (h ++ o) r := by
      rwa [Owed, droppedOf_append, enqueuedOf_append, henq, hdrop, List.append_nil, List.append_nil]
    rcases hS'.accounted.owed_iff.mp howed' with hin | hin | hin
    · rw [hbuffer] at hin
      exact absurd hin List.not_mem_nil
    · rw [Sys.inFlight, hflushing] at hin
      exact absurd hin List.not_mem_nil
    · exact hS'.accounted.stored r hin

/-! ## Every run -/

theorem inRange_iff {cfg : PipelineConfig} {e : Event sensors} :
    (∀ r ∈ e.readings cfg, Storable r) ↔ InRange cfg e := by
  cases e with
  | receive registry tenantId batch now => exact storable_accepted_iff
  | _ => exact ⟨fun _ => trivial, fun _ => nofun⟩

/-- **Poison.**  All along a run every accepted reading can be stored, no awaited insert is refused for what it carries
and the retries store whatever is pending, exactly when every reading accepted is of a time of the column. -/
theorem unpoisoned_iff (cfg : PipelineConfig) (t₀ : List TelemetryRow) (es : List (Event sensors)) :
    (persisting cfg).Along (Unpoisoned cfg) (.init t₀) [] es ↔
      (persisting cfg).Meets (fun _ _ e => InRange cfg e) (.init t₀) [] es := by
  refine along_iff_meets (I := Served cfg t₀) (fun hS hs => hS.persist hs) ?_ ?_ (served_init cfg t₀)
    (unpoisoned_of_storable (served_init cfg t₀) nofun)
  · intro s h e s' o hS hU hstep
    rw [← inRange_iff, ← enqueuedOf_persist hstep]
    constructor
    · exact fun hU' r hr => hU'.storable r (by simp [hr])
    · intro hnew
      refine unpoisoned_of_storable (hS.persist hstep) ?_
      rw [enqueuedOf_append]
      exact List.forall_mem_append.mpr ⟨hU.storable, hnew⟩
  · intro s h e _ hnone
    cases e with
    | receive registry tenantId batch now =>
      simp only [persisting, persist, step] at hnone
      split_ifs at hnone
    | _ => trivial

/-! ## A reading that cannot be stored -/

theorem ownSensors_apply (id : Uuid) : ownSensors id = some id := rfl

/-- One point for each tenant. -/
def ownPoint (id : Uuid) : RegisteredSensor ownSensors where
  id := id
  tenantId := id
  metric := .temperatureC
  equipmentId := none
  zoneId := none
  floorId := none
  buildingId := none
  minPlausible := none
  maxPlausible := none
  owned := ownSensors_apply id

def ownRegistry : Registry ownSensors := fun tenantId _ => some (ownPoint tenantId)

theorem pointName_ne : "p" ≠ "" := by decide

theorem twenty_ne : (20 : JsNumber) ≠ .nan := by
  rintro ⟨⟩

def rawAt (ts : ℤ) : RawReading := ⟨"p", some ts, 20, none, pointName_ne, twenty_ne⟩

theorem one_le_length (ts : ℤ) : 1 ≤ [rawAt ts].length := Nat.le_refl 1

theorem length_le (ts : ℤ) : [rawAt ts].length ≤ 10000 := Nat.le_add_left 1 9999

def batchAt (ts : ℤ) : RawTelemetryBatch := ⟨[rawAt ts], one_le_length ts, length_le ts⟩

theorem minute_pos : 0 < 60000 := by decide

def roomyPipeline : PipelineConfig := ⟨roomyBuffer, 60000, minute_pos⟩

/-- A reading of the year 4714 BC, a millisecond before the first instant of the column. -/
def poison : OwnedReading ownSensors := ownReading 1 (-210866803200001) 20

/-- A reading of another tenant. -/
def victim : OwnedReading ownSensors := ownReading 2 0 20

def poisonedRun : List (Event ownSensors) :=
  [.start, .receive ownRegistry 1 (batchAt (-210866803200001)) 1767225600000,
    .receive ownRegistry 2 (batchAt 0) 1767225600001]

/-- Both are pending, the first ahead of the second, and nothing is stored. -/
def Stuck (s : Sys ownSensors) : Prop :=
  s.table = [] ∧
    ((s.flushing = none ∧ s.buffer = [poison, victim]) ∨
      ∃ f, s.flushing = some f ∧ s.buffer = [] ∧ f.batch = [poison, victim] ∧
        f.groups = [(1, [poison]), (2, [victim])])

theorem groups_stuck : groupByTenant (dedupe [poison, victim]) = [(1, [poison]), (2, [victim])] := by
  decide +kernel

theorem stuck_flush {s : Sys ownSensors} (hs : Stuck s) (now : ℤ) : Stuck (s.flush none now).1 := by
  obtain ⟨htable, ⟨hidle, hbuffer⟩ | ⟨f, hf, hrest⟩⟩ := hs
  · have hgo : ¬ (s.flushing.isSome ∨ s.buffer = []) := by simp [hidle, hbuffer]
    rw [Sys.flush, if_neg hgo]
    refine ⟨htable, Or.inr ⟨_, rfl, rfl, hbuffer, ?_⟩⟩
    rw [hbuffer]
    exact groups_stuck
  · have hno : s.flushing.isSome ∨ s.buffer = [] := Or.inl (by simp [hf])
    rw [Sys.flush, if_pos hno]
    exact ⟨htable, Or.inr ⟨f, hf, hrest⟩⟩

theorem not_storable_poison : ¬ Storable poison := by decide +kernel

theorem stuck_healthy {s s' : Sys ownSensors} {e : Event ownSensors} {o : List (Obs ownSensors)} (hs : Stuck s)
    (he : e.Healthy) (hstep : persist roomyPipeline s e = some (s', o)) : Stuck s' := by
  cases e with
  | timer now =>
    simp only [persist, step] at hstep
    split_ifs at hstep
    have hflush := stuck_flush hs now
    rwa [Option.some.inj hstep] at hflush
  | answer outcome refusal now =>
    obtain ⟨htable, ⟨hidle, hbuffer⟩ | ⟨f, hf, hbuffer, hbatch, hgroups⟩⟩ := hs
    · simp [persist, step, hidle] at hstep
    · have hawaited : s.awaited = [poison] := by
        simp only [Sys.awaited, hf, Option.map_some, hgroups]
      have hrefused : s.outcome outcome refusal = .failed refusal := by
        refine if_neg fun hall => not_storable_poison (hall poison ?_)
        rw [hawaited]
        exact List.mem_cons_self
      simp only [persist, step, hrefused, hf, Option.map_some, Option.some.injEq] at hstep
      rw [Sys.answer, hgroups] at hstep
      have hs' : s' = (s.fail roomyPipeline.toConfig f refusal).1 := congrArg Prod.fst hstep.symm
      rw [hs']
      refine ⟨htable, Or.inl ⟨rfl, ?_⟩⟩
      simp only [Sys.fail, hbatch, hbuffer]
      rfl
  | start => exact he.elim
  | receive registry tenantId batch now => exact he.elim
  | stop i now => exact he.elim
  | resolve i => exact he.elim

theorem poisonedRun_isSome : ((persisting roomyPipeline).exec (.init []) poisonedRun).isSome = true := by
  decide +kernel

/-- One tenant's reading is accepted and can never be stored, and however often the flush is retried over a database
that executes all it can, the other tenant's reading is not stored either. -/
theorem poison_blocks : ∃ s h, (persisting roomyPipeline).exec (.init []) poisonedRun = some (s, h) ∧
    poison ∈ enqueuedOf h ∧ ¬ Storable poison ∧ victim ∈ s.buffer ∧ victim.tenantId ≠ poison.tenantId ∧
    ∀ es s' o, (∀ e ∈ es, Event.Healthy e) → (persisting roomyPipeline).exec s es = some (s', o) →
      ¬ Stored s'.table victim.key := by
  let r := ((persisting roomyPipeline).exec (.init []) poisonedRun).get poisonedRun_isSome
  have hend : poison ∈ enqueuedOf r.2 ∧ r.1.buffer = [poison, victim] ∧ r.1.table = [] ∧
      r.1.flushing.isNone = true := by decide +kernel
  obtain ⟨hmem, hbuffer, htable, hidle⟩ := hend
  refine ⟨r.1, r.2, (Option.some_get poisonedRun_isSome).symm, hmem, not_storable_poison, ?_, by decide, ?_⟩
  · rw [hbuffer]
    exact List.mem_cons_of_mem _ List.mem_cons_self
  · intro es s' o hes he
    have hstuck : Stuck r.1 := ⟨htable, Or.inl ⟨Option.isNone_iff_eq_none.mp hidle, hbuffer⟩⟩
    have hstuck' : Stuck s' := exec_hist_of_meets (M := persisting roomyPipeline) (I := fun s _ => Stuck s)
      (C := fun _ _ e => Event.Healthy e) (h := []) (fun hs he hstep => stuck_healthy hs he hstep) hstuck
      (meets_of_forall fun e he _ _ => hes e he) he
    rw [hstuck'.1]
    rintro ⟨t, ht, -⟩
    exact absurd ht List.not_mem_nil

end DTwin.Ingest
