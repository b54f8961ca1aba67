import DTwin.Ingest.Flushing

/-!
# DTwin.Ingest.Conserved — where is every enqueued reading?

In the buffer, in the batch being flushed, counted in `dropped`, or in the batch of a flush that has
completed (`Accounted`); and what became of it there (`Fate`).  The batch of a flush that fails goes back
to the buffer whole, the part that was inserted with it, so that a reading can be in the buffer and in the
table (`half_inserted`).
-/

namespace DTwin.Ingest

open Control OrderedMap Machine

variable {sensors : Sensors}

/-- The batch being flushed. -/
def Sys.inFlight (s : Sys sensors) : List (OwnedReading sensors) := (s.flushing.map Flush.batch).getD []

/-- The rows that the flush in progress has inserted. -/
def Sys.pendingRows (s : Sys sensors) : ℕ := (s.flushing.map Flush.written).getD 0

/-- The rows a failed flush had inserted. -/
def Obs.abandons : Obs sensors → ℕ
  | .failed _ written => written
  | _ => 0

def abandonedOf (h : List (Obs sensors)) : ℕ := (h.map Obs.abandons).sum

/-- The last flush began in the history `h` with this batch: each of its readings has a winner, the last of its
key there, and the flush has inserted the row of the winner exactly when no row had its key when it began. -/
def Fate (t₀ : List TelemetryRow) (h : List (Obs sensors)) (batch : List (OwnedReading sensors)) : Prop :=
  ∃ g₁ g₂, h = g₁ ++ .began batch :: g₂ ∧ (∀ b, .began b ∉ g₂) ∧
    ∀ r ∈ batch, ∃ w, lastOf OwnedReading.key r.key batch = some w ∧
      (w.row ∈ insertedOf g₂ ↔ ¬ Stored (t₀ ++ insertedOf g₁) w.key)

structure Accounted (cfg : Config) (t₀ : List TelemetryRow) (s : Sys sensors) (h : List (Obs sensors)) :
    Prop where
  perm : (enqueuedOf h).Perm (s.buffer ++ s.inFlight ++ droppedOf h ++ settledOf h)
  dropped : s.stats.dropped = (droppedOf h).length
  cap : s.buffer.length ≤ cfg.bufferMaxRows
  written : s.stats.written + s.pendingRows + abandonedOf h = (insertedOf h).length
  source : ∀ row ∈ insertedOf h, ∃ r ∈ enqueuedOf h, r.row = row
  stored : ∀ r ∈ settledOf h, Stored s.table r.key
  fate : ∀ h₁ b n, h₁ ++ [.settled b n] <+: h → Fate t₀ h₁ b

/-! ## One move -/

theorem overflow_append_kept (cfg : Config) (buffer : List (OwnedReading sensors)) :
    cfg.overflow buffer ++ cfg.kept buffer = buffer := List.take_append_drop _ _

theorem length_kept (cfg : Config) (buffer : List (OwnedReading sensors)) :
    (cfg.kept buffer).length ≤ cfg.bufferMaxRows := by
  rw [Config.kept, List.length_drop]
  omega

theorem perm_move {cfg : Config} {s s' : Sys sensors} {h o : List (Obs sensors)} {m : Move sensors}
    (hperm : (enqueuedOf h).Perm (s.buffer ++ s.inFlight ++ droppedOf h ++ settledOf h))
    (hm : move cfg s m = some (s', o)) :
    (enqueuedOf (h ++ o)).Perm
      (s'.buffer ++ s'.inFlight ++ droppedOf (h ++ o) ++ settledOf (h ++ o)) := by
  refine List.perm_iff_count.mpr fun r => ?_
  have hcount := hperm.count_eq r
  simp only [List.count_append] at hcount
  cases moves_of_move hm with
  | aside timer returned stopped => simpa [Sys.inFlight, Nat.add_assoc] using hcount
  | push readings =>
    have hsplit := congrArg (List.count r) (overflow_append_kept cfg (s.buffer ++ readings))
    simp only [List.count_append] at hsplit
    simp [Sys.push, Sys.inFlight] at hcount ⊢
    omega
  | begin waiter now hidle hne =>
    simp [Sys.begin, Sys.inFlight, hidle] at hcount ⊢
    omega
  | insert hf hg =>
    simp [Sys.insert, Flush.count, Sys.inFlight, hf] at hcount ⊢
    omega
  | see hf hg hs =>
    simpa [Sys.inFlight, hf, Nat.add_assoc] using hcount
  | finish hf hg hs now =>
    simp [Sys.finish, Sys.inFlight, hf] at hcount ⊢
    omega
  | @fail f hf message =>
    have hsplit := congrArg (List.count r) (overflow_append_kept cfg (f.batch ++ s.buffer))
    simp only [List.count_append] at hsplit
    simp [Sys.fail, Sys.inFlight, hf] at hcount ⊢
    omega

theorem dropped_move {cfg : Config} {s s' : Sys sensors} {h o : List (Obs sensors)} {m : Move sensors}
    (hdropped : s.stats.dropped = (droppedOf h).length) (hm : move cfg s m = some (s', o)) :
    s'.stats.dropped = (droppedOf (h ++ o)).length := by
  cases moves_of_move hm <;> simp [Sys.push, Sys.begin, Sys.insert, Sys.finish, Sys.fail, hdropped]

theorem cap_move {cfg : Config} {s s' : Sys sensors} {o : List (Obs sensors)} {m : Move sensors}
    (hcap : s.buffer.length ≤ cfg.bufferMaxRows) (hm : move cfg s m = some (s', o)) :
    s'.buffer.length ≤ cfg.bufferMaxRows := by
  cases moves_of_move hm with
  | push readings => exact length_kept cfg _
  | begin waiter now hidle hne => exact Nat.zero_le _
  | fail hf message => exact length_kept cfg _
  | _ => exact hcap

@[simp] theorem abandonedOf_append (h o : List (Obs sensors)) :
    abandonedOf (h ++ o) = abandonedOf h + abandonedOf o := by
  simp [abandonedOf]

@[simp] theorem abandonedOf_stopped : ∀ stopped : List ℕ,
    abandonedOf (stopped.map (Obs.stopped : ℕ → Obs sensors)) = 0
  | [] => rfl
  | _ :: stopped => (Nat.zero_add _).trans (abandonedOf_stopped stopped)

theorem written_move {cfg : Config} {s s' : Sys sensors} {h o : List (Obs sensors)} {m : Move sensors}
    (hwritten : s.stats.written + s.pendingRows + abandonedOf h = (insertedOf h).length)
    (hm : move cfg s m = some (s', o)) :
    s'.stats.written + s'.pendingRows + abandonedOf (h ++ o) = (insertedOf (h ++ o)).length := by
  cases moves_of_move hm with
  | aside timer returned stopped => simpa [Sys.pendingRows] using hwritten
  | push readings =>
    simpa [Sys.push, Sys.pendingRows, abandonedOf, Obs.abandons] using hwritten
  | begin waiter now hidle hne =>
    simpa [Sys.begin, Sys.pendingRows, hidle, abandonedOf, Obs.abandons] using hwritten
  | insert hf hg =>
    simp [Sys.insert, Flush.count, Sys.pendingRows, hf, abandonedOf, Obs.abandons] at hwritten ⊢
    omega
  | see hf hg hs => simpa [Sys.pendingRows, hf] using hwritten
  | finish hf hg hs now =>
    simpa [Sys.finish, Sys.pendingRows, hf, abandonedOf, Obs.abandons] using hwritten
  | fail hf message =>
    simp [Sys.fail, Sys.pendingRows, hf, abandonedOf, Obs.abandons] at hwritten ⊢
    omega

theorem source_move {cfg : Config} {t₀ : List TelemetryRow} {s s' : Sys sensors} {h o : List (Obs sensors)}
    {m : Move sensors} (hA : Accounted cfg t₀ s h) (hP : Progress t₀ s h)
    (hm : move cfg s m = some (s', o)) : ∀ row ∈ insertedOf (h ++ o), ∃ r ∈ enqueuedOf (h ++ o), r.row = row := by
  intro row hrow
  have hold : row ∈ insertedOf h → ∃ r ∈ enqueuedOf (h ++ o), r.row = row := by
    intro hin
    obtain ⟨r, hr, hrow⟩ := hA.source row hin
    exact ⟨r, by simp [hr], hrow⟩
  rw [insertedOf_append] at hrow
  refine (List.mem_append.mp hrow).elim hold fun hnew => ?_
  cases moves_of_move hm with
  | @insert f hf tenantId group groups hg =>
    rw [insertedOf_cons, insertedOf_nil, List.append_nil] at hnew
    obtain ⟨r, hr, rfl, -⟩ := mem_insertedRows hnew
    rw [hP.group hf hg] at hr
    have hbatch : r ∈ s.inFlight := by
      rw [Sys.inFlight, hf]
      exact mem_of_mem_dedupe (List.mem_filter.mp hr).1
    have henq : r ∈ enqueuedOf h := hA.perm.symm.subset (by simp [hbatch])
    exact ⟨r, by simp [henq], rfl⟩
  | _ => simp at hnew

theorem table_move {cfg : Config} {s s' : Sys sensors} {o : List (Obs sensors)} {m : Move sensors}
    (hm : move cfg s m = some (s', o)) : s.table <+: s'.table := by
  cases moves_of_move hm with
  | insert hf hg => exact prefix_insertReadings _ _ _
  | _ => exact List.prefix_rfl

theorem stored_move {cfg : Config} {t₀ : List TelemetryRow} {s s' : Sys sensors} {h o : List (Obs sensors)}
    {m : Move sensors} (hP : Progress t₀ s h) (hstored : ∀ r ∈ settledOf h, Stored s.table r.key)
    (hm : move cfg s m = some (s', o)) : ∀ r ∈ settledOf (h ++ o), Stored s'.table r.key := by
  rw [settledOf_append]
  refine List.forall_mem_append.mpr ⟨fun r hr => (hstored r hr).mono (table_move hm), ?_⟩
  cases moves_of_move hm with
  | finish hf hg hs now =>
    intro r hr
    exact hP.stored hf (by simpa using hr) (by simp [hg])
  | _ => simp

/-! ## The fate of a batch -/

/-- A flush with nothing left to insert has decided on its batch. -/
theorem Progress.fate {t₀ : List TelemetryRow} {s : Sys sensors} {h : List (Obs sensors)}
    (hP : Progress t₀ s h) {f : Flush sensors} (hf : s.flushing = some f) (hg : f.groups = []) :
    Fate t₀ h f.batch := by
  obtain ⟨g₁, g₂, rfl, hno, hF, -, -⟩ := hP.flush f hf
  refine ⟨g₁, g₂, rfl, hno, fun r hr => ?_⟩
  obtain ⟨w, hw, hk, -⟩ := exists_winner hr
  refine ⟨w, hk ▸ mem_dedupe.mp hw, hF.done w hw ?_⟩
  simp [hg]

/-- A new observation is made after the old ones. -/
theorem snoc_prefix_append {β : Type*} {h₁ h o : List β} {x : β} (hp : h₁ ++ [x] <+: h ++ o) :
    h₁ ++ [x] <+: h ∨ x ∈ o := by
  rcases List.prefix_or_prefix_of_prefix hp (List.prefix_append h o) with hle | hle
  · exact Or.inl hle
  · rcases List.prefix_concat_iff.mp hle with rfl | hle
    · exact Or.inl List.prefix_rfl
    · obtain ⟨l, rfl⟩ := hle
      rw [List.append_assoc, List.prefix_append_right_inj] at hp
      exact Or.inr (hp.subset (by simp))

theorem fate_move {cfg : Config} {t₀ : List TelemetryRow} {s s' : Sys sensors} {h o : List (Obs sensors)}
    {m : Move sensors} (hP : Progress t₀ s h)
    (hfate : ∀ h₁ b n, h₁ ++ [.settled b n] <+: h → Fate t₀ h₁ b) (hm : move cfg s m = some (s', o)) :
    ∀ h₁ b n, h₁ ++ [.settled b n] <+: h ++ o → Fate t₀ h₁ b := by
  intro h₁ b n hp
  cases moves_of_move hm with
  | @finish f hf hg hs now =>
    rcases List.prefix_concat_iff.mp hp with heq | hp
    · obtain ⟨rfl, hlast⟩ := List.append_inj' heq rfl
      cases hlast
      exact hP.fate hf hg
    · exact hfate h₁ b n hp
  | _ =>
    rcases snoc_prefix_append hp with hp | hin
    · exact hfate h₁ b n hp
    · simp at hin

/-! ## Every run -/

theorem accounted_init (cfg : Config) (t₀ : List TelemetryRow) :
    Accounted cfg t₀ (.init t₀ : Sys sensors) [] where
  perm := List.Perm.refl _
  dropped := rfl
  cap := Nat.zero_le _
  written := rfl
  source := nofun
  stored := nofun
  fate h₁ _ _ hp := absurd (List.prefix_nil.mp hp) (List.append_ne_nil_of_right_ne_nil h₁ nofun)

theorem Accounted.move {cfg : Config} {t₀ : List TelemetryRow} {s s' : Sys sensors}
    {h o : List (Obs sensors)} {m : Move sensors} (hA : Accounted cfg t₀ s h) (hP : Progress t₀ s h)
    (hm : move cfg s m = some (s', o)) : Accounted cfg t₀ s' (h ++ o) where
  perm := perm_move hA.perm hm
  dropped := dropped_move hA.dropped hm
  cap := cap_move hA.cap hm
  written := written_move hA.written hm
  source := source_move hA hP hm
  stored := stored_move hP hA.stored hm
  fate := fate_move hP hA.fate hm

theorem accounted {cfg : Config} {t₀ : List TelemetryRow} {s : Sys sensors} {h : List (Obs sensors)}
    (hr : (writing cfg).Reaches (.init t₀) s h) : Accounted cfg t₀ s h ∧ Progress t₀ s h :=
  hr.hist (I := fun s h => Accounted cfg t₀ s h ∧ Progress t₀ s h)
    (step_of_moves (I := fun s h => Accounted cfg t₀ s h ∧ Progress t₀ s h)
      fun hI hm => ⟨hI.1.move hI.2 hm, hI.2.step hm⟩)
    ⟨accounted_init cfg t₀, progress_init t₀⟩

/-- **Conservation.**  In every run each reading enqueued is exactly one of: in the buffer, in the batch being
flushed, counted in `dropped`, or in the batch of a flush that has completed, where it has met its fate; the
buffer is under its cap, and if no flush failed half-way every row inserted is counted in `written`, or will be
when the flush in progress completes. -/
theorem writer_conserved {cfg : Config} {t₀ : List TelemetryRow} {s : Sys sensors} {h : List (Obs sensors)}
    (hr : (writing cfg).Reaches (.init t₀) s h) :
    (enqueuedOf h).Perm (s.buffer ++ s.inFlight ++ droppedOf h ++ settledOf h) ∧
    s.stats.dropped = (droppedOf h).length ∧
    (∀ h₁ batch n, h₁ ++ [.settled batch n] <+: h → Fate t₀ h₁ batch) ∧
    s.table = t₀ ++ insertedOf h ∧
    s.buffer.length ≤ cfg.bufferMaxRows ∧
    ((∀ batch n, .failed batch n ∈ h → n = 0) → s.stats.written + s.pendingRows = (insertedOf h).length) := by
  obtain ⟨hA, hP⟩ := accounted hr
  refine ⟨hA.perm, hA.dropped, hA.fate, hP.table, hA.cap, fun hclean => ?_⟩
  have hnone : abandonedOf h = 0 := by
    refine List.sum_eq_zero fun n hn => ?_
    obtain ⟨x, hx, rfl⟩ := List.mem_map.mp hn
    cases x with
    | failed batch n => exact hclean batch n hx
    | _ => rfl
  have hwritten := hA.written
  rwa [hnone, Nat.add_zero] at hwritten

/-- Every sensor is a tenant of its own. -/
def ownSensors : Sensors := some

def ownReading (sensorId : Uuid) (ts : ℤ) (value : JsNumber) : OwnedReading ownSensors :=
  { sensorId := sensorId, ts := ts, value := value, quality := .good, tenantId := sensorId, resolved := rfl }

def roomyBuffer : Config := ⟨100, 100, Nat.succ_pos 99, Nat.succ_pos 99⟩

/-- Two tenants in one batch; the first insert succeeds, the second fails. -/
def halfRun : List (Act ownSensors) :=
  [.start, .enqueue [ownReading 2 0 20, ownReading 1 0 21] 0, .timer 1000, .answer .ok 1001,
    .answer (.failed "timeout") 1002]

/-- The same, and the retry. -/
def retriedRun : List (Act ownSensors) := halfRun ++ [.timer 2000, .answer .ok 2001, .answer .ok 2002,
  .answer .ok 2003, .answer .ok 2004]

theorem writer_conserved_retried :
    ∃ s h, (writing roomyBuffer).exec (.init []) retriedRun = some (s, h) ∧
      (enqueuedOf h).Perm (s.buffer ++ s.inFlight ++ droppedOf h ++ settledOf h) ∧
      s.buffer.length ≤ 100 := by
  have hrun : ((writing roomyBuffer).exec (.init []) retriedRun).isSome = true := by decide +kernel
  obtain ⟨⟨s, h⟩, he⟩ := Option.isSome_iff_exists.mp hrun
  have hc := writer_conserved ⟨retriedRun, he⟩
  exact ⟨s, h, he, hc.1, hc.2.2.2.2.1⟩

theorem halfRun_isSome : ((writing roomyBuffer).exec (.init []) halfRun).isSome = true := by
  decide +kernel

/-- A reading in the buffer and in the table, and a row inserted that no counter has. -/
theorem half_inserted : ∃ s h, (writing roomyBuffer).Reaches (.init []) s h ∧
    ownReading 2 0 20 ∈ s.buffer ∧ (ownReading 2 0 20).row ∈ s.table ∧
    s.stats.written ≠ (insertedOf h).length := by
  let r := ((writing roomyBuffer).exec (.init []) halfRun).get halfRun_isSome
  have hboth : ownReading 2 0 20 ∈ r.1.buffer ∧ (ownReading 2 0 20).row ∈ r.1.table ∧
      r.1.stats.written ≠ (insertedOf r.2).length := by decide +kernel
  exact ⟨r.1, r.2, ⟨halfRun, (Option.some_get halfRun_isSome).symm⟩, hboth⟩

end DTwin.Ingest
