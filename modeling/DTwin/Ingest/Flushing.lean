import DTwin.Ingest.Writer

/-!
# DTwin.Ingest.Flushing — what a flush does to its batch

The facts about `dedupe`, `groupByTenant` and the insert that every account of the writer uses, the
decomposition of a step into moves (`step_moves`), and the one thing to know of a flush in progress
(`Progress`): what it has no group left for is stored.
-/

namespace DTwin.Ingest

open Control OrderedMap Machine

variable {sensors : Sensors}

/-! ## Batches -/

/-- The winners of a batch. -/
theorem mem_dedupe {l : List (OwnedReading sensors)} {r : OwnedReading sensors} :
    r ∈ dedupe l ↔ lastOf OwnedReading.key r.key l = some r := by
  unfold dedupe
  split_ifs with hlen
  · rcases l with _ | ⟨a, _ | ⟨b, l⟩⟩
    · simp
    · rw [lastOf_singleton, List.mem_singleton]
      constructor
      · rintro rfl
        simp
      · intro h
        split_ifs at h
        exact (Option.some.inj h).symm
    · simp only [List.length_cons] at hlen
      omega
  · exact mem_values_ofList

theorem mem_of_mem_dedupe {l : List (OwnedReading sensors)} {r : OwnedReading sensors}
    (h : r ∈ dedupe l) : r ∈ l :=
  (lastOf_some (mem_dedupe.mp h)).1

/-- Two winners with one key are one. -/
theorem dedupe_inj {l : List (OwnedReading sensors)} {r r' : OwnedReading sensors} (h : r ∈ dedupe l)
    (h' : r' ∈ dedupe l) (hk : r.key = r'.key) : r = r' := by
  have hr := mem_dedupe.mp h
  have hr' := mem_dedupe.mp h'
  rw [hk] at hr
  exact Option.some.inj (hr.symm.trans hr')

/-- The tenant of a reading is that of its sensor. -/
theorem tenantId_eq_of_key {r r' : OwnedReading sensors} (h : r.key = r'.key) :
    r.tenantId = r'.tenantId := by
  have hs : r.sensorId = r'.sensorId := congrArg Prod.fst h
  have hr := r.resolved
  rw [hs, r'.resolved] at hr
  exact (Option.some.inj hr).symm

/-- Every reading has its winner, of its tenant. -/
theorem exists_winner {l : List (OwnedReading sensors)} {r : OwnedReading sensors} (h : r ∈ l) :
    ∃ w ∈ dedupe l, w.key = r.key ∧ w.tenantId = r.tenantId := by
  obtain ⟨w, hw⟩ := exists_lastOf OwnedReading.key h
  have hk := (lastOf_some hw).2
  refine ⟨w, mem_dedupe.mpr ?_, hk, tenantId_eq_of_key hk⟩
  rwa [hk]

theorem mem_groupByTenant {l : List (OwnedReading sensors)} {tenantId : Uuid}
    {group : List (OwnedReading sensors)} (h : (tenantId, group) ∈ groupByTenant l) :
    group = l.filter (fun r => r.tenantId = tenantId) :=
  (eq_of_mem_groupBy h).1

theorem exists_groupByTenant {l : List (OwnedReading sensors)} {r : OwnedReading sensors} (h : r ∈ l) :
    ∃ group, (r.tenantId, group) ∈ groupByTenant l := by
  obtain ⟨e, he, hk⟩ := List.mem_map.mp (mem_keys_groupBy OwnedReading.tenantId h)
  exact ⟨e.2, hk ▸ he⟩

/-! ## The insert -/

theorem insertReading_eq (tenantId : Uuid) (table : List TelemetryRow) (r : OwnedReading sensors) :
    insertReading tenantId table r =
      if r.tenantId = tenantId ∧ ¬ Stored table r.key then table ++ [r.row] else table := by
  unfold insertReading
  simp only [r.resolved]
  rfl

theorem prefix_insertReading (tenantId : Uuid) (table : List TelemetryRow) (r : OwnedReading sensors) :
    table <+: insertReading tenantId table r := by
  rw [insertReading_eq]
  split_ifs
  · exact List.prefix_append _ _
  · exact List.prefix_rfl

theorem prefix_insertReadings (tenantId : Uuid) : ∀ (group : List (OwnedReading sensors))
    (table : List TelemetryRow), table <+: insertReadings tenantId group table
  | [], _ => List.prefix_rfl
  | r :: group, table =>
    (prefix_insertReading tenantId table r).trans (prefix_insertReadings tenantId group _)

theorem Stored.mono {table table' : List TelemetryRow} {k : Key} (h : Stored table k)
    (ht : table <+: table') : Stored table' k := by
  obtain ⟨t, ht', hk⟩ := h
  exact ⟨t, ht.subset ht', hk⟩

theorem insertReadings_append (tenantId : Uuid) (group : List (OwnedReading sensors))
    (table : List TelemetryRow) :
    insertReadings tenantId group table = table ++ insertedRows tenantId group table := by
  obtain ⟨rows, hrows⟩ := prefix_insertReadings tenantId group table
  rw [insertedRows, ← hrows, List.drop_left]

theorem stored_append {table table' : List TelemetryRow} {k : Key} :
    Stored (table ++ table') k ↔ Stored table k ∨ Stored table' k := by
  simp only [Stored, List.mem_append, or_and_right, exists_or]

/-- A row the insert adds is that of a reading whose key was not stored. -/
theorem mem_insertedRows {tenantId : Uuid} {t : TelemetryRow} :
    ∀ {group : List (OwnedReading sensors)} {table : List TelemetryRow},
      t ∈ insertedRows tenantId group table →
        ∃ r ∈ group, t = r.row ∧ r.tenantId = tenantId ∧ ¬ Stored table r.key
  | [], table, h => by simp [insertedRows, insertReadings] at h
  | r :: group, table, h => by
    have hcons : insertReading tenantId table r ++
        insertedRows tenantId group (insertReading tenantId table r) =
          table ++ insertedRows tenantId (r :: group) table := by
      rw [← insertReadings_append, ← insertReadings_append]
      rfl
    rw [insertReading_eq] at hcons
    split_ifs at hcons with hins
    · rw [List.append_assoc, List.append_cancel_left_eq] at hcons
      rw [← hcons, List.singleton_append, List.mem_cons] at h
      rcases h with rfl | h
      · exact ⟨r, List.mem_cons_self, rfl, hins⟩
      · obtain ⟨r', hr', rfl, htenant, hnot⟩ := mem_insertedRows h
        exact ⟨r', List.mem_cons_of_mem r hr', rfl, htenant, fun hs =>
          hnot (stored_append.mpr (Or.inl hs))⟩
    · rw [List.append_cancel_left_eq] at hcons
      rw [← hcons] at h
      obtain ⟨r', hr', rfl, hnot⟩ := mem_insertedRows h
      exact ⟨r', List.mem_cons_of_mem r hr', rfl, hnot⟩

/-- After the insert every reading of the group has its key stored. -/
theorem stored_insertReadings {tenantId : Uuid} {r : OwnedReading sensors}
    (htenant : r.tenantId = tenantId) : ∀ {group : List (OwnedReading sensors)}
    {table : List TelemetryRow}, r ∈ group → Stored (insertReadings tenantId group table) r.key
  | a :: group, table, h => by
    rcases List.mem_cons.mp h with rfl | h
    · refine Stored.mono ?_ (prefix_insertReadings tenantId group _)
      rw [insertReading_eq]
      by_cases hs : Stored table r.key
      · rwa [if_neg fun h => h.2 hs]
      · rw [if_pos ⟨htenant, hs⟩]
        exact ⟨r.row, by simp, rfl⟩
    · show Stored (insertReadings tenantId group (insertReading tenantId table a)) r.key
      exact stored_insertReadings htenant h

theorem nodup_insertReadings (tenantId : Uuid) : ∀ (group : List (OwnedReading sensors))
    {table : List TelemetryRow}, (table.map rowKey).Nodup →
      ((insertReadings tenantId group table).map rowKey).Nodup
  | [], _, h => h
  | r :: group, table, h => by
    refine nodup_insertReadings tenantId group ?_
    rw [insertReading_eq]
    split_ifs with hins
    · rw [List.map_append, List.map_singleton, rowKey_row]
      refine List.nodup_append.mpr ⟨h, List.nodup_singleton _, ?_⟩
      rintro k hk _ hk' rfl
      obtain ⟨t, ht, rfl⟩ := List.mem_map.mp hk
      exact hins.2 ⟨t, ht, List.mem_singleton.mp hk'⟩
    · exact h

/-- In a group without two readings of one key, the rows added are those of the readings whose keys were
not stored. -/
theorem row_mem_insertedRows {tenantId : Uuid} {group : List (OwnedReading sensors)}
    (hinj : ∀ r ∈ group, ∀ r' ∈ group, r.key = r'.key → r = r') {w : OwnedReading sensors}
    (hw : w ∈ group) (htenant : w.tenantId = tenantId) (table : List TelemetryRow) :
    w.row ∈ insertedRows tenantId group table ↔ ¬ Stored table w.key := by
  constructor
  · intro h hs
    obtain ⟨r, -, hrow, -, hnot⟩ := mem_insertedRows h
    rw [← rowKey_row r, ← hrow, rowKey_row] at hnot
    exact hnot hs
  · intro hnot
    have hs : Stored (insertReadings tenantId group table) w.key := stored_insertReadings htenant hw
    rw [insertReadings_append, stored_append] at hs
    obtain ⟨t, ht, hk⟩ := hs.resolve_left hnot
    obtain ⟨r, hr, rfl, -⟩ := mem_insertedRows ht
    obtain rfl : r = w := hinj r hr w hw hk
    exact ht

/-! ## Steps as moves -/

theorem move_insert (cfg : Config) {s : Sys sensors} {f : Flush sensors} (hf : s.flushing = some f)
    {tenantId : Uuid} {group : List (OwnedReading sensors)}
    {groups : List (Uuid × List (OwnedReading sensors))} (hg : f.groups = (tenantId, group) :: groups) :
    move cfg s .insert = some (s.insert f tenantId group groups) := by
  simp only [move, hf, Option.bind_some, hg]

theorem move_insert_nil (cfg : Config) {s : Sys sensors} {f : Flush sensors} (hf : s.flushing = some f)
    (hg : f.groups = []) : move cfg s .insert = none := by
  simp only [move, hf, Option.bind_some, hg]

theorem move_see (cfg : Config) {s : Sys sensors} {f : Flush sensors} (hf : s.flushing = some f)
    (hg : f.groups = []) {e : Uuid × List Uuid} {seen : List (Uuid × List Uuid)} (hs : f.seen = e :: seen) :
    move cfg s .see = some ({ s with flushing := some { f with seen := seen } }, []) := by
  simp only [move, hf, Option.bind_some, hg, hs]

theorem move_fail (cfg : Config) {s : Sys sensors} {f : Flush sensors} (hf : s.flushing = some f)
    (message : String) : move cfg s (.fail message) = some (s.fail cfg f message) := by
  simp only [move, hf, Option.map_some]

/-- `C` allows the move that the condition lets through. -/
def Leave (C : Sys sensors → List (Obs sensors) → Move sensors → Prop) : Prop :=
  ∀ s h m, m.IsFree → C s h m

theorem flush_moves (cfg : Config) {C : Sys sensors → List (Obs sensors) → Move sensors → Prop}
    (hfree : Leave C) (s : Sys sensors) (h : List (Obs sensors)) (waiter : Option ℕ) (now : ℤ) :
    ∃ ms, (moving cfg).exec s ms = some (s.flush waiter now) ∧ (moving cfg).Meets C s h ms := by
  unfold Sys.flush
  split_ifs with hno
  · exact ⟨[.aside s.timer (s.returned ++ waiter.toList) []], rfl, hfree _ _ _ trivial, fun _ _ _ => trivial⟩
  · exact ⟨[.begin waiter now], (exec_singleton ..).trans (if_neg hno), hfree _ _ _ trivial,
      fun _ _ _ => trivial⟩

theorem proceed_moves (cfg : Config) {C : Sys sensors → List (Obs sensors) → Move sensors → Prop}
    (hfree : Leave C) {s : Sys sensors} (h : List (Obs sensors)) {f : Flush sensors} (now : ℤ)
    (hf : s.flushing = some f) :
    ∃ ms, (moving cfg).exec s ms = some (s.proceed f now) ∧ (moving cfg).Meets C s h ms := by
  unfold Sys.proceed
  split_ifs with hdone
  · refine ⟨[.finish now], (exec_singleton ..).trans ?_, hfree _ _ _ trivial, fun _ _ _ => trivial⟩
    show s.flushing.bind _ = _
    rw [hf]
    exact if_pos hdone
  · exact ⟨[], rfl, trivial⟩

/-- One move, then what the rest of the step is made of. -/
theorem andThen_moves {cfg : Config} {C : Sys sensors → List (Obs sensors) → Move sensors → Prop}
    {s : Sys sensors} {h : List (Obs sensors)} {m : Move sensors} {r : Sys sensors × List (Obs sensors)}
    (hm : move cfg s m = some r) (hC : C s h m) {k : Sys sensors → Sys sensors × List (Obs sensors)}
    (hk : ∃ ms, (moving cfg).exec r.1 ms = some (k r.1) ∧ (moving cfg).Meets C r.1 (h ++ r.2) ms) :
    ∃ ms, (moving cfg).exec s ms = some (andThen r k) ∧ (moving cfg).Meets C s h ms := by
  obtain ⟨ms, hms, hmeets⟩ := hk
  refine ⟨m :: ms, exec_cons_iff.mpr ⟨r.1, r.2, (k r.1).2, hm, hms, rfl⟩, hC, fun s' o hs => ?_⟩
  obtain ⟨rfl, rfl⟩ : r.1 = s' ∧ r.2 = o := Prod.mk.inj (Option.some.inj (hm.symm.trans hs))
  exact hmeets

/-- The condition that `C` puts on the moves of a step which need leave. -/
structure Allows (cfg : Config) (C : Sys sensors → List (Obs sensors) → Move sensors → Prop)
    (s : Sys sensors) (h : List (Obs sensors)) (a : Act sensors) : Prop where
  push : ∀ readings now, a = .enqueue readings now → C s h (.push readings)
  insert : ∀ outcome now, a = .answer outcome now → (∀ message, outcome ≠ .failed message) → C s h .insert
  fail : ∀ message now, a = .answer (.failed message) now → C s h (.fail message)
  lost : ∀ message now, a = .answer (.lost message) now →
    (∀ s₁ o₁, move cfg s .insert = some (s₁, o₁) → C s₁ (h ++ o₁) (.fail message)) ∧
      (move cfg s .insert = none → C s h (.fail message))

theorem answer_moves {cfg : Config} {C : Sys sensors → List (Obs sensors) → Move sensors → Prop}
    (hfree : Leave C) {s : Sys sensors} {h : List (Obs sensors)} {f : Flush sensors} {outcome : Outcome}
    {now : ℤ} (hC : Allows cfg C s h (.answer outcome now)) (hf : s.flushing = some f) :
    ∃ ms, (moving cfg).exec s ms = some (s.answer cfg f outcome now) ∧ (moving cfg).Meets C s h ms := by
  have hfail (message : String) (hleave : C s h (.fail message)) :
      ∃ ms, (moving cfg).exec s ms = some (s.fail cfg f message) ∧ (moving cfg).Meets C s h ms :=
    ⟨[.fail message], (exec_singleton ..).trans (move_fail cfg hf message), hleave, fun _ _ _ => trivial⟩
  unfold Sys.answer
  split
  next tenantId group groups hgroups =>
    have hinsert := move_insert cfg hf hgroups
    cases outcome with
    | ok =>
      exact andThen_moves hinsert (hC.insert _ now rfl nofun) (proceed_moves cfg hfree _ now rfl)
    | failed message => exact hfail message (hC.fail message now rfl)
    | lost message =>
      have hlost := move_fail cfg (s := (s.insert f tenantId group groups).1) rfl message
      exact andThen_moves hinsert (hC.insert _ now rfl nofun)
        ⟨[.fail message], (exec_singleton ..).trans hlost, (hC.lost message now rfl).1 _ _ hinsert,
          fun _ _ _ => trivial⟩
  next tenantId ids seen hgroups hseen =>
    have hnone : move cfg s .insert = none := move_insert_nil cfg hf hgroups
    cases outcome with
    | ok =>
      obtain ⟨ms, hms, hmeets⟩ := proceed_moves cfg hfree
        (s := { s with flushing := some { f with seen := seen } }) h now rfl
      have hsee := move_see cfg hf hgroups hseen
      refine ⟨.see :: ms, exec_cons_iff.mpr ⟨_, [], _, hsee, hms, rfl⟩, hfree _ _ _ trivial,
        fun s' o hs => ?_⟩
      obtain ⟨rfl, rfl⟩ := Prod.mk.inj (Option.some.inj (hsee.symm.trans hs))
      simpa using hmeets
    | failed message => exact hfail message (hC.fail message now rfl)
    | lost message => exact hfail message ((hC.lost message now rfl).2 hnone)
  next => exact ⟨[], rfl, trivial⟩

/-- **Decomposition.**  Every step is a run of moves. -/
theorem step_moves {cfg : Config} {C : Sys sensors → List (Obs sensors) → Move sensors → Prop}
    (hfree : Leave C) {s s' : Sys sensors} {h : List (Obs sensors)} {a : Act sensors}
    {o : List (Obs sensors)} (hC : Allows cfg C s h a) (hstep : step cfg s a = some (s', o)) :
    ∃ ms, (moving cfg).exec s ms = some (s', o) ∧ (moving cfg).Meets C s h ms := by
  cases a with
  | start =>
    cases hstep
    exact ⟨[.aside true s.returned []], rfl, hfree _ _ _ trivial, fun _ _ _ => trivial⟩
  | timer now =>
    simp only [step] at hstep
    split_ifs at hstep
    exact hstep ▸ flush_moves cfg hfree s h none now
  | enqueue readings now =>
    simp only [step] at hstep
    rw [← hstep]
    refine andThen_moves (m := .push readings) rfl (hC.push readings now rfl) ?_
    split_ifs
    · exact flush_moves cfg hfree _ _ none now
    · exact ⟨[], rfl, trivial⟩
  | answer outcome now =>
    obtain ⟨f, hf, heq⟩ := Option.map_eq_some_iff.mp hstep
    rw [← heq]
    exact answer_moves hfree hC hf
  | stop i now =>
    simp only [step] at hstep
    rw [← hstep]
    obtain ⟨ms, hms, hmeets⟩ := flush_moves cfg hfree { s with timer := false } h (some i) now
    refine ⟨.aside false s.returned [] :: ms, exec_cons_iff.mpr ⟨_, [], _, rfl, hms, rfl⟩,
      hfree _ _ _ trivial, fun s' o hs => ?_⟩
    cases hs
    simpa using hmeets
  | resolve i =>
    simp only [step] at hstep
    split_ifs at hstep
    cases hstep
    exact ⟨[.aside s.timer (s.returned.erase i) [i]], rfl, hfree _ _ _ trivial, fun _ _ _ => trivial⟩

/-- What every move keeps, every step keeps. -/
theorem step_of_moves {cfg : Config} {I : Sys sensors → List (Obs sensors) → Prop}
    (hmove : ∀ {s h m s' o}, I s h → move cfg s m = some (s', o) → I s' (h ++ o))
    {s s' : Sys sensors} {h : List (Obs sensors)} {a : Act sensors} {o : List (Obs sensors)} (hI : I s h)
    (hstep : step cfg s a = some (s', o)) : I s' (h ++ o) :=
  hist_of_refines (M := writing cfg) (N := moving cfg) (C := fun _ _ _ => True) (D := fun _ _ _ => True)
    (fun _ hs => step_moves (fun _ _ _ _ => trivial) ⟨fun _ _ _ => trivial, fun _ _ _ _ => trivial,
      fun _ _ _ => trivial,
      fun _ _ _ => ⟨fun _ _ _ => trivial, fun _ => trivial⟩⟩ hs)
    (fun hI _ hm => hmove hI hm) hI trivial hstep

/-- A move, by what it does. -/
inductive Moves (cfg : Config) (s : Sys sensors) : Move sensors → Sys sensors → List (Obs sensors) → Prop
  | aside (timer : Bool) (returned stopped : List ℕ) :
    Moves cfg s (.aside timer returned stopped) { s with timer := timer, returned := returned }
      (stopped.map .stopped)
  | push (readings : List (OwnedReading sensors)) :
    Moves cfg s (.push readings) (s.push cfg readings).1
      [.enqueued readings, .dropped (cfg.overflow (s.buffer ++ readings))]
  | begin (waiter : Option ℕ) (now : ℤ) (hidle : s.flushing = none) (hne : s.buffer ≠ []) :
    Moves cfg s (.begin waiter now) (s.begin waiter now).1 [.began s.buffer]
  | insert {f : Flush sensors} (hf : s.flushing = some f) {tenantId : Uuid}
    {group : List (OwnedReading sensors)} {groups : List (Uuid × List (OwnedReading sensors))}
    (hg : f.groups = (tenantId, group) :: groups) :
    Moves cfg s .insert (s.insert f tenantId group groups).1 [.inserted (insertedRows tenantId group s.table)]
  | see {f : Flush sensors} (hf : s.flushing = some f) (hg : f.groups = []) {e : Uuid × List Uuid}
    {seen : List (Uuid × List Uuid)} (hs : f.seen = e :: seen) :
    Moves cfg s .see { s with flushing := some { f with seen := seen } } []
  | finish {f : Flush sensors} (hf : s.flushing = some f) (hg : f.groups = []) (hs : f.seen = [])
    (now : ℤ) :
    Moves cfg s (.finish now) (s.finish f now).1 [.settled f.batch f.written]
  | fail {f : Flush sensors} (hf : s.flushing = some f) (message : String) :
    Moves cfg s (.fail message) (s.fail cfg f message).1
      [.failed f.batch f.written, .dropped (cfg.overflow (f.batch ++ s.buffer))]

theorem moves_of_move {cfg : Config} {s s' : Sys sensors} {m : Move sensors} {o : List (Obs sensors)}
    (h : move cfg s m = some (s', o)) : Moves cfg s m s' o := by
  cases m with
  | aside timer returned stopped =>
    cases h
    exact .aside timer returned stopped
  | push readings =>
    cases h
    exact .push readings
  | begin waiter now =>
    simp only [move] at h
    split_ifs at h with hno
    cases h
    have hidle : s.flushing = none := by simpa using fun hf => hno (Or.inl hf)
    exact .begin waiter now hidle fun hb => hno (Or.inr hb)
  | insert =>
    obtain ⟨f, hf, h⟩ := Option.bind_eq_some_iff.mp h
    split at h
    next tenantId group groups hg =>
      cases h
      exact .insert hf hg
    next => cases h
  | see =>
    obtain ⟨f, hf, h⟩ := Option.bind_eq_some_iff.mp h
    split at h
    next e seen hg hs =>
      cases h
      exact .see hf hg hs
    next => cases h
  | finish now =>
    obtain ⟨f, hf, h⟩ := Option.bind_eq_some_iff.mp h
    split_ifs at h with hdone
    cases h
    exact .finish hf hdone.1 hdone.2 now
  | fail message =>
    obtain ⟨f, hf, h⟩ := Option.map_eq_some_iff.mp h
    cases h
    exact .fail hf message

/-! ## What is observed -/

@[simp] def Obs.enqueues : Obs sensors → List (OwnedReading sensors)
  | .enqueued readings => readings
  | _ => []

@[simp] def Obs.drops : Obs sensors → List (OwnedReading sensors)
  | .dropped readings => readings
  | _ => []

@[simp] def Obs.settles : Obs sensors → List (OwnedReading sensors)
  | .settled batch _ => batch
  | _ => []

@[simp] def Obs.inserts : Obs sensors → List TelemetryRow
  | .inserted rows => rows
  | _ => []

/-- Every reading enqueued, in order. -/
def enqueuedOf (h : List (Obs sensors)) : List (OwnedReading sensors) := h.flatMap Obs.enqueues

/-- Every reading counted in `dropped`. -/
def droppedOf (h : List (Obs sensors)) : List (OwnedReading sensors) := h.flatMap Obs.drops

/-- The batches of the flushes that have completed. -/
def settledOf (h : List (Obs sensors)) : List (OwnedReading sensors) := h.flatMap Obs.settles

/-- Every row inserted, by flushes that completed and by others. -/
def insertedOf (h : List (Obs sensors)) : List TelemetryRow := h.flatMap Obs.inserts

@[simp] theorem enqueuedOf_nil : enqueuedOf ([] : List (Obs sensors)) = [] := rfl

@[simp] theorem enqueuedOf_cons (x : Obs sensors) (h : List (Obs sensors)) :
    enqueuedOf (x :: h) = x.enqueues ++ enqueuedOf h := rfl

@[simp] theorem enqueuedOf_append (h o : List (Obs sensors)) :
    enqueuedOf (h ++ o) = enqueuedOf h ++ enqueuedOf o := List.flatMap_append

@[simp] theorem droppedOf_nil : droppedOf ([] : List (Obs sensors)) = [] := rfl

@[simp] theorem droppedOf_cons (x : Obs sensors) (h : List (Obs sensors)) :
    droppedOf (x :: h) = x.drops ++ droppedOf h := rfl

@[simp] theorem droppedOf_append (h o : List (Obs sensors)) :
    droppedOf (h ++ o) = droppedOf h ++ droppedOf o := List.flatMap_append

@[simp] theorem settledOf_nil : settledOf ([] : List (Obs sensors)) = [] := rfl

@[simp] theorem settledOf_cons (x : Obs sensors) (h : List (Obs sensors)) :
    settledOf (x :: h) = x.settles ++ settledOf h := rfl

@[simp] theorem settledOf_append (h o : List (Obs sensors)) :
    settledOf (h ++ o) = settledOf h ++ settledOf o := List.flatMap_append

@[simp] theorem insertedOf_nil : insertedOf ([] : List (Obs sensors)) = [] := rfl

@[simp] theorem insertedOf_cons (x : Obs sensors) (h : List (Obs sensors)) :
    insertedOf (x :: h) = x.inserts ++ insertedOf h := rfl

@[simp] theorem insertedOf_append (h o : List (Obs sensors)) :
    insertedOf (h ++ o) = insertedOf h ++ insertedOf o := List.flatMap_append

@[simp] theorem ofs_stopped : ∀ stopped : List ℕ,
    enqueuedOf (stopped.map (Obs.stopped : ℕ → Obs sensors)) = [] ∧
      droppedOf (stopped.map (Obs.stopped : ℕ → Obs sensors)) = [] ∧
      settledOf (stopped.map (Obs.stopped : ℕ → Obs sensors)) = [] ∧
      insertedOf (stopped.map (Obs.stopped : ℕ → Obs sensors)) = []
  | [] => ⟨rfl, rfl, rfl, rfl⟩
  | _ :: stopped => ofs_stopped stopped

/-! ## A flush in progress -/

/-- The account of a batch that found the rows `base` and has inserted the rows `rows`: the winners of the
tenants still `pending` have no row among them, and those of the others have one exactly when their key
was not stored before. -/
structure Flushed (base rows : List TelemetryRow) (batch : List (OwnedReading sensors))
    (pending : List Uuid) : Prop where
  waiting : ∀ w ∈ dedupe batch, w.tenantId ∈ pending → ¬ Stored rows w.key
  done : ∀ w ∈ dedupe batch, w.tenantId ∉ pending → (w.row ∈ rows ↔ ¬ Stored base w.key)

theorem flushed_begin (base : List TelemetryRow) (batch : List (OwnedReading sensors)) :
    Flushed base [] batch ((groupByTenant (dedupe batch)).map Prod.fst) where
  waiting := by
    rintro w - - ⟨t, ht, -⟩
    exact absurd ht List.not_mem_nil
  done := by
    intro w hw hnot
    obtain ⟨group, hgroup⟩ := exists_groupByTenant hw
    exact absurd (List.mem_map_of_mem (f := Prod.fst) hgroup) hnot

theorem Flushed.insert {base rows : List TelemetryRow} {batch : List (OwnedReading sensors)}
    {tenantId : Uuid} {pending : List Uuid} (hF : Flushed base rows batch (tenantId :: pending))
    (hnot : tenantId ∉ pending) :
    Flushed base
      (rows ++ insertedRows tenantId ((dedupe batch).filter (fun r => r.tenantId = tenantId)) (base ++ rows))
      batch pending where
  waiting := by
    intro w hw hp
    rw [stored_append]
    rintro (hs | ⟨t, ht, hk⟩)
    · exact hF.waiting w hw (List.mem_cons_of_mem tenantId hp) hs
    · obtain ⟨r, -, rfl, htenant, -⟩ := mem_insertedRows ht
      rw [← tenantId_eq_of_key hk, htenant] at hp
      exact hnot hp
  done := by
    intro w hw hp
    rw [List.mem_append]
    by_cases htenant : w.tenantId = tenantId
    · have hrows : ¬ Stored rows w.key := hF.waiting w hw (by simp [htenant])
      have hnew : w.row ∉ rows := fun h => hrows ⟨w.row, h, rfl⟩
      have hmem : w ∈ (dedupe batch).filter (fun r => r.tenantId = tenantId) :=
        List.mem_filter.mpr ⟨hw, by simpa using htenant⟩
      rw [or_iff_right hnew, row_mem_insertedRows ?_ hmem htenant, stored_append, or_iff_left hrows]
      intro r hr r' hr' hk
      exact dedupe_inj (List.mem_filter.mp hr).1 (List.mem_filter.mp hr').1 hk
    · rw [hF.done w hw (by simp [htenant, hp]), or_iff_left]
      intro h
      obtain ⟨r, -, hrow, hr, -⟩ := mem_insertedRows h
      exact htenant ((congrArg TelemetryRow.tenantId hrow).trans hr)

/-- What a flush has no group left for is stored. -/
theorem Flushed.stored {base rows : List TelemetryRow} {batch : List (OwnedReading sensors)}
    {pending : List Uuid} (hF : Flushed base rows batch pending) {r : OwnedReading sensors} (hr : r ∈ batch)
    (hnot : r.tenantId ∉ pending) : Stored (base ++ rows) r.key := by
  obtain ⟨w, hw, hk, htenant⟩ := exists_winner hr
  rw [← hk, stored_append]
  by_cases hs : Stored base w.key
  · exact Or.inl hs
  · exact Or.inr ⟨w.row, (hF.done w hw (htenant ▸ hnot)).mpr hs, rfl⟩

/-- The account of the run: the table, and the flush in progress, which has seen the history `g₁` before it
began and `g₂` since. -/
structure Progress (t₀ : List TelemetryRow) (s : Sys sensors) (h : List (Obs sensors)) : Prop where
  table : s.table = t₀ ++ insertedOf h
  flush : ∀ f, s.flushing = some f → ∃ g₁ g₂, h = g₁ ++ .began f.batch :: g₂ ∧ (∀ b, .began b ∉ g₂) ∧
    Flushed (t₀ ++ insertedOf g₁) (insertedOf g₂) f.batch (f.groups.map Prod.fst) ∧
    f.groups <:+ groupByTenant (dedupe f.batch) ∧ f.written = (insertedOf g₂).length

/-- The group of the awaited insert. -/
theorem Progress.group {t₀ : List TelemetryRow} {s : Sys sensors} {h : List (Obs sensors)}
    (hP : Progress t₀ s h) {f : Flush sensors} (hf : s.flushing = some f) {tenantId : Uuid}
    {group : List (OwnedReading sensors)} {groups : List (Uuid × List (OwnedReading sensors))}
    (hg : f.groups = (tenantId, group) :: groups) :
    group = (dedupe f.batch).filter (fun r => r.tenantId = tenantId) := by
  obtain ⟨-, -, -, -, -, hsuf, -⟩ := hP.flush f hf
  exact mem_groupByTenant (hsuf.subset (hg ▸ List.mem_cons_self))

theorem Progress.stored {t₀ : List TelemetryRow} {s : Sys sensors} {h : List (Obs sensors)}
    (hP : Progress t₀ s h) {f : Flush sensors} (hf : s.flushing = some f) {r : OwnedReading sensors}
    (hr : r ∈ f.batch) (hnot : r.tenantId ∉ f.groups.map Prod.fst) : Stored s.table r.key := by
  have htable := hP.table
  obtain ⟨g₁, g₂, rfl, -, hF, -, -⟩ := hP.flush f hf
  rw [htable, insertedOf_append, ← List.append_assoc]
  exact hF.stored hr hnot

theorem progress_init (t₀ : List TelemetryRow) : Progress t₀ (.init t₀ : Sys sensors) [] :=
  ⟨(List.append_nil t₀).symm, nofun⟩

/-- Moves that insert nothing and begin nothing. -/
theorem Progress.quiet {t₀ : List TelemetryRow} {s s' : Sys sensors} {h o : List (Obs sensors)}
    (hP : Progress t₀ s h) (htable : s'.table = s.table) (hins : insertedOf o = [])
    (hbegan : ∀ b, .began b ∉ o)
    (hflush : ∀ f', s'.flushing = some f' → ∃ f, s.flushing = some f ∧ f'.batch = f.batch ∧
      f'.groups = f.groups ∧ f'.written = f.written) : Progress t₀ s' (h ++ o) where
  table := by rw [htable, insertedOf_append, hins, List.append_nil, hP.table]
  flush f' hf' := by
    obtain ⟨f, hf, hbatch, hgroups, hwritten⟩ := hflush f' hf'
    obtain ⟨g₁, g₂, rfl, hno, hF, hsuf, hw⟩ := hP.flush f hf
    rw [hbatch, hgroups, hwritten]
    refine ⟨g₁, g₂ ++ o, by simp, fun b hb => ?_, ?_, hsuf, ?_⟩
    · exact (List.mem_append.mp hb).elim (hno b) (hbegan b)
    · rwa [insertedOf_append, hins, List.append_nil]
    · rwa [insertedOf_append, hins, List.append_nil]

theorem Progress.step {cfg : Config} {t₀ : List TelemetryRow} {s s' : Sys sensors} {h o : List (Obs sensors)}
    {m : Move sensors} (hP : Progress t₀ s h) (hm : move cfg s m = some (s', o)) :
    Progress t₀ s' (h ++ o) := by
  cases moves_of_move hm with
  | aside timer returned stopped =>
    exact hP.quiet rfl (by simp) (by simp) fun f hf => ⟨f, hf, rfl, rfl, rfl⟩
  | push readings => exact hP.quiet rfl rfl (by simp) fun f hf => ⟨f, hf, rfl, rfl, rfl⟩
  | begin waiter now hidle hne =>
    refine ⟨by simpa [Sys.begin] using hP.table, fun f hf => ?_⟩
    cases hf
    exact ⟨h, [], rfl, fun _ => List.not_mem_nil, flushed_begin _ _, List.suffix_rfl, rfl⟩
  | @insert f hf tenantId group groups hg =>
    have htable := hP.table
    obtain ⟨g₁, g₂, rfl, hno, hF, hsuf, hw⟩ := hP.flush f hf
    rw [hg] at hF hsuf
    have hgroup := mem_groupByTenant (hsuf.subset List.mem_cons_self)
    have hnodup := (groupBy OwnedReading.tenantId (dedupe f.batch)).nodup.sublist
      (hsuf.sublist.map Prod.fst)
    have htable' : s.table = t₀ ++ insertedOf g₁ ++ insertedOf g₂ := by
      rw [htable, insertedOf_append, List.append_assoc]
      rfl
    refine ⟨?_, fun g hg' => ?_⟩
    · rw [insertedOf_append, ← List.append_assoc, ← htable]
      simp [Sys.insert, insertReadings_append]
    · cases hg'
      refine ⟨g₁, g₂ ++ [.inserted (insertedRows tenantId group s.table)], by simp [Flush.count],
        by simpa using hno, ?_, (List.suffix_cons _ _).trans hsuf, ?_⟩
      · have hins := hF.insert (List.nodup_cons.mp hnodup).1
        rw [← hgroup, ← htable'] at hins
        simpa [Flush.count] using hins
      · simp [Flush.count, hw]
  | see hf hg hs =>
    refine hP.quiet rfl rfl (by simp) fun g hg' => ?_
    cases hg'
    exact ⟨_, hf, rfl, rfl, rfl⟩
  | finish hf hg hs now => exact hP.quiet rfl rfl (by simp) nofun
  | fail hf message => exact hP.quiet rfl rfl (by simp) nofun

end DTwin.Ingest
