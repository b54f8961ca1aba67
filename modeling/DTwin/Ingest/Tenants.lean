import DTwin.Ingest.LastWrite

/-!
# DTwin.Ingest.Tenants — what does one tenant's failure cost another?

One buffer, flushed in a loop over tenants: a failed insert abandons the tenants behind it
(`failure_spreads`), and one tenant's backlog can fill the buffer.  If neither happens to a tenant
(`Spares`), its rows are those of its own readings whatever the others do: two runs with the same readings
of it leave it the same rows (`tenant_isolated`).
-/

namespace DTwin.Ingest

open Control OrderedMap Machine

variable {sensors : Sensors}

/-- The keys of a tenant. -/
def KeyOf (sensors : Sensors) (tenantId : Uuid) (k : Key) : Prop := sensors k.1 = some tenantId

theorem keyOf_iff {tenantId : Uuid} {r : OwnedReading sensors} :
    KeyOf sensors tenantId r.key ↔ r.tenantId = tenantId := by
  show sensors r.sensorId = some tenantId ↔ _
  rw [r.resolved, Option.some_inj]

/-- None of these readings is the tenant's. -/
def Without (tenantId : Uuid) (readings : List (OwnedReading sensors)) : Prop :=
  ∀ r ∈ readings, r.tenantId ≠ tenantId

/-- The flush has no insert of the tenant to come, and the buffer with its batch put back has nothing of the
tenant over the cap. -/
structure Flush.Spares (f : Flush sensors) (cfg : Config) (tenantId : Uuid)
    (buffer : List (OwnedReading sensors)) (groups : List (Uuid × List (OwnedReading sensors))) : Prop where
  groups : tenantId ∉ groups.map Prod.fst
  overflow : Without tenantId (cfg.overflow (f.batch ++ buffer))

/-- The step drops no reading of the tenant and fails no flush with an insert of the tenant to come, and
agrees on the tenant's keys. -/
def Spares (cfg : Config) (tenantId : Uuid) (s : Sys sensors) (_ : List (Obs sensors)) :
    Act sensors → Prop
  | .enqueue readings _ => Without tenantId (cfg.overflow (s.buffer ++ readings)) ∧
    ∀ k, KeyOf sensors tenantId k → s.EnqueueAgrees k readings
  | .answer .ok _ => ∀ k, KeyOf sensors tenantId k → s.InsertAgrees k
  | .answer (.failed _) _ => ∀ f, s.flushing = some f → f.Spares cfg tenantId s.buffer f.groups
  | .answer (.lost _) _ => (∀ k, KeyOf sensors tenantId k → s.InsertAgrees k) ∧
    ∀ f, s.flushing = some f → f.Spares cfg tenantId s.buffer f.groups.tail
  | _ => True

/-- The same for moves. -/
def MoveSpares (cfg : Config) (tenantId : Uuid) (s : Sys sensors) (_ : List (Obs sensors)) :
    Move sensors → Prop
  | .push readings => Without tenantId (cfg.overflow (s.buffer ++ readings)) ∧
    ∀ k, KeyOf sensors tenantId k → s.EnqueueAgrees k readings
  | .insert => ∀ k, KeyOf sensors tenantId k → s.InsertAgrees k
  | .fail _ => ∀ f, s.flushing = some f → f.Spares cfg tenantId s.buffer f.groups
  | _ => True

theorem leave_spares (cfg : Config) (tenantId : Uuid) :
    Leave (MoveSpares cfg tenantId : Sys sensors → List (Obs sensors) → Move sensors → Prop) := by
  intro s h m hfree
  cases m with
  | push readings => exact hfree.elim
  | insert => exact hfree.elim
  | fail message => exact hfree.elim
  | _ => trivial

theorem allows_spares {cfg : Config} {tenantId : Uuid} {s : Sys sensors} {h : List (Obs sensors)}
    {a : Act sensors} (hC : Spares cfg tenantId s h a) : Allows cfg (MoveSpares cfg tenantId) s h a where
  push readings now ha := by
    subst ha
    exact hC
  insert outcome now ha hok := by
    subst ha
    cases outcome with
    | failed message => exact absurd rfl (hok message)
    | ok => exact hC
    | lost message => exact hC.1
  fail message now ha := by
    subst ha
    exact hC
  lost message now ha := by
    subst ha
    constructor
    · intro s₁ o₁ hm
      cases moves_of_move hm with
      | insert hf hg =>
        rintro g hg'
        cases hg'
        have hspares := hC.2 _ hf
        rw [hg] at hspares
        exact ⟨hspares.groups, hspares.overflow⟩
    · intro hnone f hf
      cases hg : f.groups with
      | nil =>
        have hspares := hC.2 f hf
        rwa [hg] at hspares
      | cons g groups =>
        rw [move_insert cfg hf hg] at hnone
        exact absurd hnone nofun

/-! ## What a run keeps of a tenant -/

def catchUp (tenantId : Uuid) (caught : Bool) : Obs sensors → Bool
  | .began _ => true
  | .enqueued readings => caught && readings.all (·.tenantId ≠ tenantId)
  | _ => caught

/-- A flush has begun since the tenant's last reading. -/
def caughtUp (tenantId : Uuid) (h : List (Obs sensors)) : Bool := h.foldl (catchUp tenantId) true

theorem caughtUp_append (tenantId : Uuid) (h o : List (Obs sensors)) :
    caughtUp tenantId (h ++ o) = o.foldl (catchUp tenantId) (caughtUp tenantId h) := List.foldl_append

theorem foldl_catchUp_stopped (tenantId : Uuid) (caught : Bool) : ∀ stopped : List ℕ,
    (stopped.map (Obs.stopped : ℕ → Obs sensors)).foldl (catchUp tenantId) caught = caught
  | [] => rfl
  | _ :: stopped => foldl_catchUp_stopped tenantId caught stopped

/-- The tenant's account: every key of it is kept, none of its readings is dropped, and once a flush has begun
with all of them what is not stored is in that flush. -/
structure Spared (tenantId : Uuid) (s : Sys sensors) (h : List (Obs sensors)) : Prop where
  kept : ∀ k, KeyOf sensors tenantId k → LastKept k s h
  undropped : Without tenantId (droppedOf h)
  caught : caughtUp tenantId h = true → ∀ r ∈ s.buffer, r.tenantId = tenantId → Stored s.table r.key

theorem spared_init (tenantId : Uuid) (t₀ : List TelemetryRow) :
    Spared tenantId (.init t₀ : Sys sensors) [] :=
  ⟨fun k _ => lastKept_init k t₀, fun _ hr => absurd hr List.not_mem_nil, fun _ _ hr => absurd hr List.not_mem_nil⟩

theorem moveAgrees_of_spares {cfg : Config} {tenantId : Uuid} {s : Sys sensors} {h : List (Obs sensors)}
    {m : Move sensors} (hC : MoveSpares cfg tenantId s h m) {k : Key} (hk : KeyOf sensors tenantId k) :
    MoveAgreesOn k s h m := by
  cases m with
  | push readings => exact hC.2 k hk
  | insert => exact hC k hk
  | _ => trivial

theorem without_dropped {cfg : Config} {tenantId : Uuid} {s s' : Sys sensors} {h o : List (Obs sensors)}
    {m : Move sensors} (hC : MoveSpares cfg tenantId s h m) (hm : move cfg s m = some (s', o)) :
    Without tenantId (droppedOf o) := by
  cases moves_of_move hm with
  | push readings => simpa using hC.1
  | fail hf message => simpa using (hC _ hf).overflow
  | _ => simp [Without]

theorem caught_move {cfg : Config} {t₀ : List TelemetryRow} {tenantId : Uuid} {s s' : Sys sensors}
    {h o : List (Obs sensors)} {m : Move sensors} (hP : Progress t₀ s h)
    (hcaught : caughtUp tenantId h = true → ∀ r ∈ s.buffer, r.tenantId = tenantId → Stored s.table r.key)
    (hC : MoveSpares cfg tenantId s h m) (hm : move cfg s m = some (s', o))
    (hup : caughtUp tenantId (h ++ o) = true) :
    ∀ r ∈ s'.buffer, r.tenantId = tenantId → Stored s'.table r.key := by
  rw [caughtUp_append] at hup
  cases moves_of_move hm with
  | aside timer returned stopped =>
    rw [foldl_catchUp_stopped] at hup
    exact hcaught hup
  | push readings =>
    obtain ⟨hup, hnone⟩ : caughtUp tenantId h = true ∧ ∀ r ∈ readings, r.tenantId ≠ tenantId := by
      simpa [catchUp] using hup
    intro r hr htenant
    rcases List.mem_append.mp (List.mem_of_mem_drop hr) with hr | hr
    · exact hcaught hup r hr htenant
    · exact absurd htenant (hnone r hr)
  | begin waiter now hidle hne => exact nofun
  | insert hf hg =>
    intro r hr htenant
    exact (hcaught hup r hr htenant).mono (prefix_insertReadings _ _ _)
  | see hf hg hs => exact hcaught hup
  | finish hf hg hs now => exact hcaught hup
  | @fail f hf message =>
    intro r hr htenant
    rcases List.mem_append.mp (List.mem_of_mem_drop hr) with hr | hr
    · exact hP.stored hf hr (htenant ▸ (hC f hf).groups)
    · exact hcaught hup r hr htenant

theorem Spared.move {cfg : Config} {t₀ : List TelemetryRow} {tenantId : Uuid} {s s' : Sys sensors}
    {h o : List (Obs sensors)} {m : Move sensors} (hS : Spared tenantId s h) (hP : Progress t₀ s h)
    (hC : MoveSpares cfg tenantId s h m) (hm : move cfg s m = some (s', o)) :
    Spared tenantId s' (h ++ o) where
  kept k hk := by
    refine (hS.kept k hk).move hP (moveAgrees_of_spares hC hk) (fun r hr hrk => ?_) hm
    exact without_dropped hC hm r hr (keyOf_iff.mp (hrk ▸ hk))
  undropped := by
    rw [droppedOf_append]
    exact List.forall_mem_append.mpr ⟨hS.undropped, without_dropped hC hm⟩
  caught := caught_move hP hS.caught hC hm

/-! ## Every run -/

theorem spared {cfg : Config} {t₀ : List TelemetryRow} {tenantId : Uuid} {as : List (Act sensors)}
    {s : Sys sensors} {h : List (Obs sensors)} (hC : (writing cfg).Meets (Spares cfg tenantId) (.init t₀) [] as)
    (he : (writing cfg).exec (.init t₀) as = some (s, h)) :
    (Accounted cfg t₀ s h ∧ Progress t₀ s h) ∧ Spared tenantId s h := by
  let I : Sys sensors → List (Obs sensors) → Prop := fun s h =>
    (Accounted cfg t₀ s h ∧ Progress t₀ s h) ∧ Spared tenantId s h
  have hmove : ∀ {s h m s' o}, I s h → MoveSpares cfg tenantId s h m → move cfg s m = some (s', o) →
      I s' (h ++ o) := fun hI hD hm =>
    ⟨⟨hI.1.1.move hI.1.2 hm, hI.1.2.step hm⟩, hI.2.move hI.1.2 hD hm⟩
  have hinit : I (.init t₀) [] := ⟨⟨accounted_init cfg t₀, progress_init t₀⟩, spared_init tenantId t₀⟩
  refine exec_hist_of_meets (I := I) ?_ hinit hC he
  refine hist_of_refines (N := moving cfg) ?_ hmove
  intro s h a s' o hC hs
  exact step_moves (leave_spares cfg tenantId) (allows_spares hC) hs

/-- The rows of a tenant whose readings have all been through a flush are those of its last readings. -/
theorem row_iff_of_spared {cfg : Config} {t₀ : List TelemetryRow} {tenantId : Uuid} {as : List (Act sensors)}
    {s : Sys sensors} {h : List (Obs sensors)} (hC : (writing cfg).Meets (Spares cfg tenantId) (.init t₀) [] as)
    (he : (writing cfg).exec (.init t₀) as = some (s, h)) (hup : caughtUp tenantId h = true)
    (hidle : s.flushing = none) {row : TelemetryRow} (hrow : row.tenantId = tenantId) :
    row ∈ s.table ↔ row ∈ t₀ ∨ ∃ r, lastOf OwnedReading.key (rowKey row)
      ((enqueuedOf h).filter (·.tenantId = tenantId)) = some r ∧ r.row = row := by
  obtain ⟨⟨hA, hP⟩, hS⟩ := spared hC he
  by_cases hk : KeyOf sensors tenantId (rowKey row)
  · rw [(hS.kept _ hk).row_iff hA hP, lastOf_filter]
    · intro r _ hr
      simpa using keyOf_iff.mp (hr ▸ hk)
    · intro hnot
      refine lastOf_eq_none.mpr fun r hr hrk => hnot ?_
      rw [Sys.inFlight, hidle] at hr
      rw [← hrk]
      exact hS.caught hup r hr (keyOf_iff.mp (hrk ▸ hk))
  · have hnone : ∀ r : OwnedReading sensors, r.row ≠ row := by
      rintro r rfl
      exact hk (keyOf_iff.mpr hrow)
    constructor
    · intro hin
      rw [hP.table] at hin
      refine (List.mem_append.mp hin).imp_right fun hin => ?_
      obtain ⟨r, -, hr⟩ := hA.source row hin
      exact absurd hr (hnone r)
    · rintro (hin | ⟨r, -, hr⟩)
      · rw [hP.table]
        exact List.mem_append_left _ hin
      · exact absurd hr (hnone r)

/-- **Isolation.**  Two runs whose steps spare a tenant, with the same readings of it in the same order and
whatever else, leave it the same rows once its readings have been through a flush, and drop none of them. -/
theorem tenant_isolated {cfg : Config} {t₀ : List TelemetryRow} {tenantId : Uuid} {as as' : List (Act sensors)}
    {s s' : Sys sensors} {h h' : List (Obs sensors)}
    (hC : (writing cfg).Meets (Spares cfg tenantId) (.init t₀) [] as)
    (hC' : (writing cfg).Meets (Spares cfg tenantId) (.init t₀) [] as')
    (he : (writing cfg).exec (.init t₀) as = some (s, h))
    (he' : (writing cfg).exec (.init t₀) as' = some (s', h'))
    (hsame : (enqueuedOf h).filter (·.tenantId = tenantId) = (enqueuedOf h').filter (·.tenantId = tenantId))
    (hup : caughtUp tenantId h = true) (hup' : caughtUp tenantId h' = true) (hidle : s.flushing = none)
    (hidle' : s'.flushing = none) :
    (∀ row, row.tenantId = tenantId → (row ∈ s.table ↔ row ∈ s'.table)) ∧
      Without tenantId (droppedOf h) ∧ Without tenantId (droppedOf h') := by
  refine ⟨fun row hrow => ?_, (spared hC he).2.undropped, (spared hC' he').2.undropped⟩
  rw [row_iff_of_spared hC he hup hidle hrow, row_iff_of_spared hC' he' hup' hidle' hrow, hsame]

/-- The second tenant's reading, alone. -/
def aloneRun : List (Act ownSensors) := [.start, .enqueue [ownReading 2 0 20] 0] ++ flushed 1

/-- The same after which the first tenant's insert fails. -/
def besideRun : List (Act ownSensors) :=
  [.start, .enqueue [ownReading 2 0 20, ownReading 1 0 21] 0, .timer 1, .answer .ok 1,
    .answer (.failed "timeout") 1]

theorem aloneRun_spares : (writing roomyBuffer).Meets (Spares roomyBuffer 2) (.init []) [] aloneRun := by
  refine ⟨trivial, fun s o hs => ?_⟩
  cases hs
  refine ⟨⟨nofun, fun k _ => nofun⟩, fun s o hs => ?_⟩
  cases hs
  refine ⟨trivial, fun s o hs => ?_⟩
  cases hs
  refine ⟨fun k _ f tenantId group groups _ _ _ w _ _ => nofun, fun s o hs => ?_⟩
  cases hs
  exact ⟨fun k _ f tenantId group groups _ _ _ w _ _ => nofun, fun _ _ _ => trivial⟩

theorem besideRun_spares : (writing roomyBuffer).Meets (Spares roomyBuffer 2) (.init []) [] besideRun := by
  refine ⟨trivial, fun s o hs => ?_⟩
  cases hs
  refine ⟨⟨nofun, fun k _ => nofun⟩, fun s o hs => ?_⟩
  cases hs
  refine ⟨trivial, fun s o hs => ?_⟩
  cases hs
  refine ⟨fun k _ f tenantId group groups _ _ _ w _ _ => nofun, fun s o hs => ?_⟩
  cases hs
  refine ⟨fun f hf => ?_, fun _ _ _ => trivial⟩
  cases hf
  exact ⟨by decide, nofun⟩

theorem tenant_isolated_beside : ∃ s h s' h',
    (writing roomyBuffer).exec (.init []) besideRun = some (s, h) ∧
    (writing roomyBuffer).exec (.init []) aloneRun = some (s', h') ∧
    ∀ row, row.tenantId = 2 → (row ∈ s.table ↔ row ∈ s'.table) := by
  have hgo : ∃ r ∈ (writing roomyBuffer).exec (.init []) besideRun,
      ∃ r' ∈ (writing roomyBuffer).exec (.init []) aloneRun,
      (enqueuedOf r.2).filter (·.tenantId = 2) = (enqueuedOf r'.2).filter (·.tenantId = 2) ∧
      caughtUp 2 r.2 = true ∧ caughtUp 2 r'.2 = true ∧
      r.1.flushing.isNone = true ∧ r'.1.flushing.isNone = true := by decide +kernel
  obtain ⟨⟨s, h⟩, he, ⟨s', h'⟩, he', hsame, hup, hup', hidle, hidle'⟩ := hgo
  exact ⟨s, h, s', h', he, he', (tenant_isolated besideRun_spares aloneRun_spares he he' hsame hup hup'
    (Option.isNone_iff_eq_none.mp hidle) (Option.isNone_iff_eq_none.mp hidle')).1⟩

def tinyBuffer : Config := { roomyBuffer with bufferMaxRows := 2, bufferMaxRows_pos := Nat.succ_pos 1 }

/-- The first tenant's insert fails before the second's is tried, and its next readings fill the buffer. -/
def spreadingRun : List (Act ownSensors) :=
  [.start, .enqueue [ownReading 1 0 21, ownReading 2 0 20] 0, .timer 1, .answer (.failed "timeout") 1,
    .enqueue [ownReading 1 1 22, ownReading 1 2 23] 2]

/-- The second tenant's reading is dropped and not stored; alone, it is stored. -/
theorem failure_spreads : ∃ s h s' h',
    (writing tinyBuffer).exec (.init []) spreadingRun = some (s, h) ∧
    (writing tinyBuffer).exec (.init []) aloneRun = some (s', h') ∧
    (enqueuedOf h).filter (·.tenantId = 2) = (enqueuedOf h').filter (·.tenantId = 2) ∧
    ownReading 2 0 20 ∈ droppedOf h ∧ droppedOf h' = [] ∧
    (ownReading 2 0 20).row ∉ s.table ∧ (ownReading 2 0 20).row ∈ s'.table := by
  have hgo : ∃ r ∈ (writing tinyBuffer).exec (.init []) spreadingRun,
      ∃ r' ∈ (writing tinyBuffer).exec (.init []) aloneRun,
      (enqueuedOf r.2).filter (·.tenantId = 2) = (enqueuedOf r'.2).filter (·.tenantId = 2) ∧
      ownReading 2 0 20 ∈ droppedOf r.2 ∧ droppedOf r'.2 = [] ∧
      (ownReading 2 0 20).row ∉ r.1.table ∧ (ownReading 2 0 20).row ∈ r'.1.table := by decide +kernel
  obtain ⟨⟨s, h⟩, he, ⟨s', h'⟩, he', hcompare⟩ := hgo
  exact ⟨s, h, s', h', he, he', hcompare⟩

end DTwin.Ingest
