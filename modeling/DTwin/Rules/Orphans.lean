import DTwin.Rules.Engine

/-!
# DTwin.Rules.Orphans — can the engine still resolve what it opened?

An alert the engine opened is reachable while its id is the `openAlertId` of its target's object, or
travels towards it in the reply of an `#open` in progress.  `Tracked` is the invariant; every
synchronous piece of the engine keeps it (`Tracked.evaluateTarget`, `Tracked.refresh`), and so does
every step that meets `KeepsAlerts` (`Tracked.step`).  `no_orphans` is the result over runs, and
`pruned_orphan` the run in which a refresh drops the object an `#open` in progress would write.
-/

namespace DTwin.Rules

open Table Machine

/-! ## Where an alert is -/

/-- The alert is in the table and not resolved. -/
def Unresolved (t : List AlertRow) (id : Uuid) : Prop := ∃ r ∈ t, r.id = id ∧ r.unresolved = true

/-- The target's object names the alert. -/
def Engine.Holds (e : Engine) (key : Key) (id : Uuid) : Prop :=
  ∃ ts, e.targetState key = some ts ∧ ts.openAlertId = some id

/-- An `#open` in progress is about to be told of the alert. -/
def Engine.Awaits (e : Engine) (key : Key) (id : Uuid) : Prop :=
  ∃ target value, e.tasks key = some (.opening target value (some (.inserted id)))

/-- While no call for a key is in progress, the unresolved alerts the engine has opened for it are
held. -/
def NoOrphans (s : Sys) (h : List Obs) : Prop :=
  ∀ key id, .opened key id ∈ h → s.engine.tasks key = none → Unresolved s.alerts id →
    s.engine.Holds key id

/-- The steps that lose no alert: a transaction of `openAlert` that inserts reports it; the target's
object is there when an `#open` resumes with an alert not resolved meanwhile; and no adoption
replaces the object of an unresolved alert of this engine by one naming another. -/
def KeepsAlerts (s : Sys) (h : List Obs) : Act → Prop
  | .commitOpen key _ lost =>
    lost = true → (s.alerts.any fun r => r.unresolved && r.key == key) = true
  | .resume key => ∀ target value id,
    s.engine.tasks key = some (.opening target value (some (.inserted id))) →
      Unresolved s.alerts id → (s.engine.targetState key).isSome = true
  | .adopt => ∀ live, s.boot = .adopting (some live) → ∀ key id, (key, id) ∈ live → ∀ held,
    s.engine.Holds key held → .opened key held ∈ h → Unresolved s.alerts held → held = id
  | _ => True

/-- The invariant. -/
structure Tracked (s : Sys) (h : List Obs) : Prop where
  keyed : ∀ key task, s.engine.tasks key = some task → task.target.key = key
  fresh : ∀ key ts, s.engine.targetState key = some ts → ts.ref < s.engine.nextRef
  /-- a `#close` in progress names what its object names, if the object is still in the map -/
  closing : ∀ key target ref id now reply,
    s.engine.tasks key = some (.closing target ref id now reply) →
      ref < s.engine.nextRef ∧
      (∀ ts, s.engine.targetState key = some ts → ts.ref = ref → ts.openAlertId = some id) ∧
      (reply = some .done → .opened key id ∈ h → ¬ Unresolved s.alerts id)
  ids : (s.alerts.map (·.id)).Nodup
  oneOpen : UniqueOn (fun r : AlertRow => r.unresolved = true) (·.key) (·.id) s.alerts
  loaded : ∀ live, s.boot = .adopting (some live) → (live.map (·.1)).Nodup
  rows : ∀ key id, .opened key id ∈ h → ∃ r ∈ s.alerts, r.id = id ∧ r.key = key
  /-- the alert an `#open` is told of is the only unresolved one the engine has opened for the key -/
  awaited : ∀ key id, s.engine.Awaits key id → ∀ id', .opened key id' ∈ h →
    Unresolved s.alerts id' → id' = id
  tracked : ∀ key id, .opened key id ∈ h → Unresolved s.alerts id →
    s.engine.Holds key id ∨ s.engine.Awaits key id

theorem Tracked.noOrphans {s : Sys} {h : List Obs} (ht : Tracked s h) : NoOrphans s h := by
  intro key id ho hidle hu
  rcases ht.tracked key id ho hu with hh | ⟨target, value, hw⟩
  · exact hh
  · rw [hidle] at hw
    cases hw

/-! ## The synchronous code -/

variable {s : Sys} {h : List Obs}

/-- The engine of a state, replaced. -/
def Sys.withEngine (s : Sys) (e : Engine) : Sys := { s with engine := e }

@[simp] theorem withEngine_engine (s : Sys) (e : Engine) : (s.withEngine e).engine = e := rfl

@[simp] theorem withEngine_alerts (s : Sys) (e : Engine) : (s.withEngine e).alerts = s.alerts := rfl

@[simp] theorem withEngine_boot (s : Sys) (e : Engine) : (s.withEngine e).boot = s.boot := rfl

/-- The invariant looks at three fields of the engine only. -/
theorem Tracked.congr (ht : Tracked s h) {e : Engine} (hs : e.targetState = s.engine.targetState)
    (hk : e.tasks = s.engine.tasks) (hn : e.nextRef = s.engine.nextRef) :
    Tracked (s.withEngine e) h := by
  obtain ⟨keyed, fresh, closing, ids, oneOpen, loaded, rows, awaited, tracked⟩ := ht
  refine ⟨?_, ?_, ?_, ids, oneOpen, loaded, rows, ?_, ?_⟩
  · simpa [hk] using keyed
  · simpa [hs, hn] using fresh
  · simpa [hs, hk, hn] using closing
  · simpa [Engine.Awaits, hk] using awaited
  · simpa [Engine.Holds, Engine.Awaits, hs, hk] using tracked

/-- An update of the objects that keeps every identity and every open alert, and may add an object
without one. -/
theorem Tracked.setState (ht : Tracked s h) {e : Engine} (hk : e.tasks = s.engine.tasks)
    (hn : s.engine.nextRef ≤ e.nextRef)
    (hkeep : ∀ key ts, s.engine.targetState key = some ts → ts.openAlertId.isSome = true →
      ∃ ts', e.targetState key = some ts' ∧ ts'.openAlertId = ts.openAlertId)
    (hback : ∀ key ts', e.targetState key = some ts' → (∃ ts, s.engine.targetState key = some ts ∧
      ts'.ref = ts.ref ∧ ts'.openAlertId = ts.openAlertId) ∨
      (s.engine.nextRef ≤ ts'.ref ∧ ts'.ref < e.nextRef)) :
    Tracked (s.withEngine e) h where
  keyed := by simpa [hk] using ht.keyed
  fresh := by
    intro key ts' hts'
    rcases hback key ts' hts' with ⟨ts, hts, href, -⟩ | ⟨-, hlt⟩
    · rw [href]
      exact (ht.fresh key ts hts).trans_le hn
    · exact hlt
  closing := by
    intro key target ref id now reply htask
    rw [withEngine_engine, hk] at htask
    obtain ⟨hlt, hobj, hdone⟩ := ht.closing key target ref id now reply htask
    refine ⟨hlt.trans_le hn, ?_, hdone⟩
    intro ts' hts' href
    rcases hback key ts' hts' with ⟨ts, hts, href', hopen⟩ | ⟨hge, -⟩
    · rw [hopen]
      exact hobj ts hts (href'.symm.trans href)
    · omega
  ids := ht.ids
  oneOpen := ht.oneOpen
  loaded := ht.loaded
  rows := ht.rows
  awaited := by simpa [Engine.Awaits, hk] using ht.awaited
  tracked := by
    intro key id ho hu
    rcases ht.tracked key id ho hu with ⟨ts, hts, hopen⟩ | hw
    · obtain ⟨ts', hts', hopen'⟩ := hkeep key ts hts (by simp [hopen])
      exact Or.inl ⟨ts', hts', hopen'.trans hopen⟩
    · exact Or.inr (by simpa [Engine.Awaits, hk] using hw)

/-- A call started for an idle key, awaiting its transaction. -/
theorem Tracked.startTask (ht : Tracked s h) {key : Key} {task : Task}
    (hidle : s.engine.tasks key = none) (hkey : task.target.key = key)
    (htask : (∃ target value, task = .opening target value none) ∨
      ∃ target ts id now, task = .closing target ts.ref id now none ∧
        s.engine.targetState key = some ts ∧ ts.openAlertId = some id) :
    Tracked (s.withEngine
      { s.engine with tasks := Function.update s.engine.tasks key (some task) }) h := by
  have hawait : ∀ key' id,
      Engine.Awaits { s.engine with tasks := Function.update s.engine.tasks key (some task) } key' id ↔
        s.engine.Awaits key' id := by
    intro key' id
    by_cases hk : key' = key
    · subst hk
      rcases htask with ⟨target, value, rfl⟩ | ⟨target, ts, id', now, rfl, -⟩ <;>
        simp [Engine.Awaits, hidle]
    · simp [Engine.Awaits, hk]
  refine ⟨?_, ht.fresh, ?_, ht.ids, ht.oneOpen, ht.loaded, ht.rows, ?_, ?_⟩
  · intro key' task' ht'
    by_cases hk : key' = key
    · subst hk
      obtain rfl : task = task' := by simpa using ht'
      exact hkey
    · exact ht.keyed key' task' (by simpa [hk] using ht')
  · intro key' target ref id now reply ht'
    by_cases hk : key' = key
    · subst hk
      have heq : task = .closing target ref id now reply := by simpa using ht'
      rcases htask with ⟨target', value, rfl⟩ | ⟨target', ts, id', now', rfl, hts, hopen⟩
      · cases heq
      · cases heq
        refine ⟨ht.fresh key' ts hts, fun ts' hts' _ => ?_, nofun⟩
        rw [withEngine_engine, hts] at hts'
        cases hts'
        exact hopen
    · exact ht.closing key' target ref id now reply (by simpa [hk] using ht')
  · intro key' id hw
    exact ht.awaited key' id ((hawait key' id).mp hw)
  · intro key' id ho hu
    exact (ht.tracked key' id ho hu).imp_right (hawait key' id).mpr

theorem Tracked.ensure (ht : Tracked s h) (key : Key) :
    Tracked (s.withEngine (s.engine.ensure key).1) h ∧
      (s.engine.ensure key).1.targetState key = some (s.engine.ensure key).2 := by
  unfold Engine.ensure
  cases hts : s.engine.targetState key with
  | some ts => exact ⟨ht, hts⟩
  | none =>
    refine ⟨ht.setState rfl (Nat.le_succ _) ?_ ?_, Function.update_self ..⟩
    · intro key' ts' hts' _
      by_cases hk : key' = key
      · rw [hk, hts] at hts'
        cases hts'
      · exact ⟨ts', by simp [hk, hts'], rfl⟩
    · intro key' ts' hts'
      by_cases hk : key' = key
      · subst hk
        have : ts' = ⟨s.engine.nextRef, 0, 0, none, 0⟩ := by simpa using hts'.symm
        exact Or.inr ⟨by simp [this], by simp [this]⟩
      · exact Or.inl ⟨ts', by simpa [hk] using hts', rfl, rfl⟩

/-- Writing the counters of an object. -/
theorem Tracked.put (ht : Tracked s h) {key : Key} {ts ts' : TargetState}
    (hts : s.engine.targetState key = some ts) (href : ts'.ref = ts.ref)
    (hopen : ts'.openAlertId = ts.openAlertId) : Tracked (s.withEngine (s.engine.put key ts')) h := by
  refine ht.setState rfl le_rfl ?_ ?_
  · intro key' u hu _
    by_cases hk : key' = key
    · subst hk
      obtain rfl : ts = u := Option.some.inj (hts.symm.trans hu)
      exact ⟨ts', Function.update_self .., hopen⟩
    · exact ⟨u, by simp [Engine.put, hk, hu], rfl⟩
  · intro key' u hu
    by_cases hk : key' = key
    · subst hk
      obtain rfl : ts' = u := by simpa [Engine.put] using hu
      exact Or.inl ⟨ts, hts, href, hopen⟩
    · exact Or.inl ⟨u, by simpa [Engine.put, hk] using hu, rfl, rfl⟩

theorem Tracked.startOpen (ht : Tracked s h) (target : RuleTarget) (value : Option ℚ) :
    Tracked (s.withEngine (s.engine.startOpen target value)) h := by
  unfold Engine.startOpen
  cases hidle : s.engine.tasks target.key with
  | some task => exact ht
  | none => exact ht.startTask hidle rfl (Or.inl ⟨target, value, rfl⟩)

theorem Tracked.startClose (ht : Tracked s h) (target : RuleTarget) (now : ℤ) :
    Tracked (s.withEngine (s.engine.startClose target now)) h := by
  unfold Engine.startClose
  split
  · exact ht
  · rename_i ref alertId hobj
    obtain ⟨ts, hts, hid⟩ := Option.bind_eq_some_iff.mp hobj
    obtain ⟨id, hid, heq⟩ := Option.map_eq_some_iff.mp hid
    cases heq
    cases hidle : s.engine.tasks target.key with
    | some task => exact ht
    | none => exact ht.startTask hidle rfl (Or.inr ⟨target, ts, alertId, now, rfl, hts, hid⟩)

theorem Tracked.debounce (ht : Tracked s h) (target : RuleTarget) (v : Verdict) (now : ℤ) :
    Tracked (s.withEngine (s.engine.debounce target v now)) h := by
  obtain ⟨hens, hts⟩ := ht.ensure target.key
  have hput (ts' : TargetState) (href : ts'.ref = (s.engine.ensure target.key).2.ref)
      (hopen : ts'.openAlertId = (s.engine.ensure target.key).2.openAlertId) :
      Tracked (s.withEngine ((s.engine.ensure target.key).1.put target.key ts')) h :=
    hens.put hts href hopen
  let ts := (s.engine.ensure target.key).2
  have hbreach := hput { ts with clears := 0, breaches := ts.breaches + 1 } rfl rfl
  have hclear := hput { ts with breaches := 0, clears := ts.clears + 1 } rfl rfl
  unfold Engine.debounce
  dsimp only
  split_ifs
  · exact hbreach
  · exact hbreach.congr rfl rfl rfl
  · exact hbreach.startOpen target v.value
  · exact hput { ts with breaches := 0 } rfl rfl
  · exact hclear
  · exact hclear.startClose target now

theorem Tracked.evaluateTarget (ht : Tracked s h) (target : RuleTarget) (state : Option SensorState)
    (now : ℤ) : Tracked (s.withEngine (s.engine.evaluateTarget target state now)) h := by
  unfold Engine.evaluateTarget
  cases s.engine.verdict target state now with
  | none => exact ht
  | some v =>
    have hlive : Tracked (s.withEngine
        { s.engine with liveSetpoints := (s.engine.setpointFor target.sensor now).2 }) h :=
      ht.congr rfl rfl rfl
    exact hlive.debounce target v now

/-- What every evaluation keeps, a pass over the targets keeps. -/
theorem Tracked.foldl {state : Engine → RuleTarget → Option SensorState} {now : ℤ} :
    ∀ (targets : List RuleTarget) {s : Sys}, Tracked s h →
      Tracked (s.withEngine
        (targets.foldl (fun e t => e.evaluateTarget t (state e t) now) s.engine)) h
  | [], _, ht => ht
  | t :: targets, s, ht =>
    Tracked.foldl targets (ht.evaluateTarget t (state s.engine t) now)

theorem Tracked.onReading (ht : Tracked s h) (sensor : RegisteredSensor) (reading : Reading)
    (now : ℤ) : Tracked (s.withEngine (s.engine.onReading sensor reading now)) h := by
  have hrec : Tracked (s.withEngine (s.engine.record sensor reading)) h := ht.congr rfl rfl rfl
  exact hrec.foldl _

theorem Tracked.sweep (ht : Tracked s h) (now : ℤ) :
    Tracked (s.withEngine (s.engine.sweep now)) h := ht.foldl _

/-- A refresh forgets only objects without an open alert. -/
theorem Tracked.refresh (ht : Tracked s h) (rules : List AlertRuleRow)
    (registry : List RegisteredSensor) :
    Tracked (s.withEngine (s.engine.refresh rules registry)) h := by
  refine ht.setState rfl le_rfl ?_ ?_
  · intro key ts hts hopen
    refine ⟨ts, ?_, rfl⟩
    simp [Engine.refresh, hts, hopen]
  · intro key ts' hts'
    obtain ⟨hts, -⟩ := Option.filter_eq_some_iff.mp hts'
    exact Or.inl ⟨ts', hts, rfl, rfl⟩

/-- The start of the engine, and the end of its adoptions. -/
theorem Tracked.setBoot (ht : Tracked s h) {boot : Boot}
    (hloaded : ∀ live, boot = .adopting (some live) → (live.map (·.1)).Nodup) :
    Tracked { s with boot := boot } h :=
  { ht with loaded := hloaded }

/-- One adoption, of an alert that replaces no other of this engine. -/
theorem Tracked.adoptOne (ht : Tracked s h) {live : Key × Uuid}
    (hc : ∀ held, s.engine.Holds live.1 held → .opened live.1 held ∈ h →
      Unresolved s.alerts held → held = live.2) :
    Tracked (s.withEngine (s.engine.adoptOne live)) h where
  keyed := ht.keyed
  fresh := by
    intro key ts hts
    by_cases hk : key = live.1
    · subst hk
      have : ts = ⟨s.engine.nextRef, 0, 0, some live.2, 0⟩ := by
        simpa [Engine.adoptOne] using hts.symm
      simp [this, Engine.adoptOne]
    · exact (ht.fresh key ts (by simpa [Engine.adoptOne, hk] using hts)).trans (Nat.lt_succ_self _)
  closing := by
    intro key target ref id now reply htask
    obtain ⟨hlt, hobj, hdone⟩ := ht.closing key target ref id now reply htask
    refine ⟨hlt.trans (Nat.lt_succ_self _), ?_, hdone⟩
    intro ts hts href
    by_cases hk : key = live.1
    · subst hk
      have : ts = ⟨s.engine.nextRef, 0, 0, some live.2, 0⟩ := by
        simpa [Engine.adoptOne] using hts.symm
      rw [this] at href
      exact absurd href hlt.ne'
    · exact hobj ts (by simpa [Engine.adoptOne, hk] using hts) href
  ids := ht.ids
  oneOpen := ht.oneOpen
  loaded := ht.loaded
  rows := ht.rows
  awaited := ht.awaited
  tracked := by
    intro key id ho hu
    rcases ht.tracked key id ho hu with ⟨ts, hts, hopen⟩ | hw
    · by_cases hk : key = live.1
      · subst hk
        refine Or.inl ⟨⟨s.engine.nextRef, 0, 0, some live.2, 0⟩, Function.update_self .., ?_⟩
        exact congrArg some (hc id ⟨ts, hts, hopen⟩ ho hu).symm
      · exact Or.inl ⟨ts, by simp [Engine.adoptOne, hk, hts], hopen⟩
    · exact Or.inr hw

theorem Tracked.adopt : ∀ (live : List (Key × Uuid)) {s : Sys}, Tracked s h →
    (live.map (·.1)).Nodup →
    (∀ key id, (key, id) ∈ live → ∀ held, s.engine.Holds key held → .opened key held ∈ h →
      Unresolved s.alerts held → held = id) →
    Tracked (s.withEngine (s.engine.adopt live)) h
  | [], _, ht, _, _ => ht
  | l :: live, s, ht, hn, hc => by
    have hl : Tracked (s.withEngine (s.engine.adoptOne l)) h :=
      ht.adoptOne fun held => hc l.1 l.2 List.mem_cons_self held
    rw [List.map_cons, List.nodup_cons] at hn
    refine Tracked.adopt live hl hn.2 ?_
    rintro key id hmem held ⟨ts, hts, hopen⟩ ho hu
    -- the key was not adopted before, so its object is the old one
    have hk : key ≠ l.1 := by
      rintro rfl
      exact hn.1 (List.mem_map.mpr ⟨(l.1, id), hmem, rfl⟩)
    refine hc key id (List.mem_cons_of_mem _ hmem) held ⟨ts, ?_, hopen⟩ ho hu
    simpa [Engine.adoptOne, hk] using hts

/-! ## The table -/

theorem Unresolved.of_updateWhere {t : List AlertRow} {p : AlertRow → Bool}
    {f : AlertRow → AlertRow} (hid : ∀ r, (f r).id = r.id)
    (hf : ∀ r, p r = true → (f r).unresolved = true → r.unresolved = true) {id : Uuid}
    (hu : Unresolved (updateWhere p f t) id) : Unresolved t id := by
  obtain ⟨r', hr', rfl, hr'u⟩ := hu
  rcases mem_updateWhere_cases hr' with ⟨r, hr, hp, rfl⟩ | ⟨hr, -⟩
  · exact ⟨r, hr, (hid r).symm, hf r hp hr'u⟩
  · exact ⟨r', hr, rfl, hr'u⟩

theorem not_unresolved_resolveAlert (id : Uuid) (t : List AlertRow) :
    ¬ Unresolved (resolveAlert id t) id := by
  rintro ⟨r', hr', rfl, hu⟩
  rcases mem_updateWhere_cases hr' with ⟨r, -, -, rfl⟩ | ⟨-, hnot⟩
  · simp [AlertRow.unresolved] at hu
  · simp [hu] at hnot

theorem Unresolved.of_append {t : List AlertRow} {r : AlertRow} {id : Uuid} (hne : id ≠ r.id)
    (hu : Unresolved (t ++ [r]) id) : Unresolved t id := by
  obtain ⟨r', hr', rfl, hr'u⟩ := hu
  rcases List.mem_append.mp hr' with hr' | hr'
  · exact ⟨r', hr', rfl, hr'u⟩
  · rw [List.mem_singleton.mp hr'] at hne
    exact absurd rfl hne

/-- An alert the engine has opened is in the table, so a row with a new id is another. -/
theorem Tracked.ne_fresh (ht : Tracked s h) {key : Key} {id id' : Uuid}
    (hfresh : ∀ r ∈ s.alerts, r.id ≠ id) (ho : .opened key id' ∈ h) : id' ≠ id := by
  obtain ⟨r, hr, rfl, -⟩ := ht.rows key id' ho
  exact hfresh r hr

/-- A statement that keeps ids and keys and brings nothing back. -/
theorem Tracked.updateAlerts (ht : Tracked s h) {p : AlertRow → Bool} {f : AlertRow → AlertRow}
    (hid : ∀ r, (f r).id = r.id) (hkey : ∀ r, (f r).key = r.key)
    (hf : ∀ r, p r = true → (f r).unresolved = true → r.unresolved = true) :
    Tracked { s with alerts := updateWhere p f s.alerts } h := by
  have hback : ∀ {id}, Unresolved (updateWhere p f s.alerts) id → Unresolved s.alerts id :=
    Unresolved.of_updateWhere hid hf
  refine ⟨ht.keyed, ht.fresh, ?_, ?_, ?_, ht.loaded, ?_, ?_, ?_⟩
  · intro key target ref id now reply htask
    obtain ⟨hlt, hobj, hdone⟩ := ht.closing key target ref id now reply htask
    exact ⟨hlt, hobj, fun hr ho hu => hdone hr ho (hback hu)⟩
  · have := ht.ids
    rwa [← map_updateWhere (i := fun r : AlertRow => r.id) (p := p) hid] at this
  · exact ht.oneOpen.updateWhere_of_mem hkey hid fun r _ => hf r
  · intro key id ho
    obtain ⟨r, hr, hri, hrk⟩ := ht.rows key id ho
    refine ⟨if p r then f r else r, mem_updateWhere.mpr ⟨r, hr, rfl⟩, ?_, ?_⟩ <;> split_ifs <;>
      simp [hid, hkey, hri, hrk]
  · exact fun key id hw id' ho hu => ht.awaited key id hw id' ho (hback hu)
  · exact fun key id ho hu => ht.tracked key id ho (hback hu)

theorem Tracked.resolveAlert (ht : Tracked s h) (id : Uuid) :
    Tracked { s with alerts := resolveAlert id s.alerts } h :=
  ht.updateAlerts (fun _ => rfl) (fun _ => rfl) fun r _ hr => by simp [AlertRow.unresolved] at hr

theorem Tracked.acknowledgeAlert (ht : Tracked s h) (id : Uuid) :
    Tracked { s with alerts := acknowledgeAlert id s.alerts } h :=
  ht.updateAlerts (fun _ => rfl) (fun _ => rfl) fun r hp _ => by
    have hopen : r.state = .open := by simpa using (Bool.and_eq_true_iff.mp hp).2
    simp [AlertRow.unresolved, hopen]

/-- What a successful `INSERT` says. -/
theorem openAlert_some {id tenantId : Uuid} {key : Key} {t t' : List AlertRow}
    (ho : openAlert id tenantId key t = some t') :
    t' = t ++ [⟨id, tenantId, key, .open⟩] ∧ ∀ r ∈ t, r.unresolved = true → r.key ≠ key := by
  unfold openAlert at ho
  split_ifs at ho with hany
  refine ⟨(Option.some.inj ho).symm, fun r hr hu hk => hany ?_⟩
  exact List.any_eq_true.mpr ⟨r, hr, by simp [hu, hk]⟩

/-- Another alert appears: another replica's. -/
theorem Tracked.insertOther (ht : Tracked s h) {id tenantId : Uuid} {key : Key}
    {alerts : List AlertRow} (hfresh : ∀ r ∈ s.alerts, r.id ≠ id)
    (ho : openAlert id tenantId key s.alerts = some alerts) :
    Tracked { s with alerts := alerts } h := by
  obtain ⟨rfl, hfree⟩ := openAlert_some ho
  have hback : ∀ {key' id'}, .opened key' id' ∈ h →
      Unresolved (s.alerts ++ [⟨id, tenantId, key, .open⟩]) id' → Unresolved s.alerts id' :=
    fun ho' hu => hu.of_append (ht.ne_fresh hfresh ho')
  refine ⟨ht.keyed, ht.fresh, ?_, ?_, ht.oneOpen.append hfree, ht.loaded, ?_, ?_, ?_⟩
  · intro key' target ref id' now reply htask
    obtain ⟨hlt, hobj, hdone⟩ := ht.closing key' target ref id' now reply htask
    exact ⟨hlt, hobj, fun hr ho' hu => hdone hr ho' (hback ho' hu)⟩
  · rw [List.map_append, List.nodup_append]
    refine ⟨ht.ids, by simp, ?_⟩
    intro x hx y hy
    obtain ⟨r, hr, rfl⟩ := List.mem_map.mp hx
    rw [List.map_singleton, List.mem_singleton] at hy
    rw [hy]
    exact hfresh r hr
  · intro key' id' ho'
    obtain ⟨r, hr, hri⟩ := ht.rows key' id' ho'
    exact ⟨r, List.mem_append_left _ hr, hri⟩
  · exact fun key' id' hw id'' ho' hu => ht.awaited key' id' hw id'' ho' (hback ho' hu)
  · exact fun key' id' ho' hu => ht.tracked key' id' ho' (hback ho' hu)

/-! ## Replies -/

/-- The reply of a transaction that has inserted nothing. -/
theorem Tracked.setReply (ht : Tracked s h) {key : Key} {task : Task}
    (hnot : ∀ id, ¬ s.engine.Awaits key id) (hkey : task.target.key = key)
    (hopen : ∀ target value id, task ≠ .opening target value (some (.inserted id)))
    (hclose : ∀ target ref id now reply, task = .closing target ref id now reply →
      ref < s.engine.nextRef ∧
      (∀ ts, s.engine.targetState key = some ts → ts.ref = ref → ts.openAlertId = some id) ∧
      (reply = some .done → .opened key id ∈ h → ¬ Unresolved s.alerts id)) :
    Tracked (s.setTask key task) h := by
  have hawait : ∀ key' id, (s.setTask key task).engine.Awaits key' id ↔ s.engine.Awaits key' id := by
    intro key' id
    by_cases hk : key' = key
    · subst hk
      refine iff_of_false ?_ (hnot id)
      rintro ⟨target, value, hw⟩
      exact hopen target value id (by simpa [Sys.setTask] using hw)
    · simp [Engine.Awaits, Sys.setTask, hk]
  refine ⟨?_, ht.fresh, ?_, ht.ids, ht.oneOpen, ht.loaded, ht.rows, ?_, ?_⟩
  · intro key' task' htask
    by_cases hk : key' = key
    · subst hk
      obtain rfl : task = task' := by simpa [Sys.setTask] using htask
      exact hkey
    · exact ht.keyed key' task' (by simpa [Sys.setTask, hk] using htask)
  · intro key' target ref id now reply htask
    by_cases hk : key' = key
    · subst hk
      exact hclose target ref id now reply (by simpa [Sys.setTask] using htask)
    · exact ht.closing key' target ref id now reply (by simpa [Sys.setTask, hk] using htask)
  · exact fun key' id hw => ht.awaited key' id ((hawait key' id).mp hw)
  · exact fun key' id ho hu => (ht.tracked key' id ho hu).imp_right (hawait key' id).mpr

/-- The engine's transaction inserts its alert, and says so. -/
theorem Tracked.insertOwn (ht : Tracked s h) {target : RuleTarget} {value : Option ℚ} {id : Uuid}
    {alerts : List AlertRow} (hfresh : ∀ r ∈ s.alerts, r.id ≠ id)
    (hins : openAlert id target.sensor.tenantId target.key s.alerts = some alerts) :
    Tracked { s.setTask target.key (.opening target value (some (.inserted id))) with
      alerts := alerts } (h ++ [.opened target.key id]) := by
  have hbase : Tracked { s with alerts := alerts } h := ht.insertOther hfresh hins
  obtain ⟨rfl, hfree⟩ := openAlert_some hins
  set alerts := s.alerts ++ [⟨id, target.sensor.tenantId, target.key, .open⟩] with halerts
  -- before the insert the engine had no unresolved alert for the key
  have hnone : ∀ id', .opened target.key id' ∈ h → ¬ Unresolved alerts id' := by
    intro id' ho hu
    obtain ⟨r, hr, hri, hru⟩ := hu.of_append (ht.ne_fresh hfresh ho)
    obtain ⟨r', hr', hri', hrk'⟩ := ht.rows target.key id' ho
    obtain rfl : r' = r := eq_of_id_eq ht.ids hr' hr (hri'.trans hri.symm)
    exact hfree r' hr' hru hrk'
  have hnew : ∀ {key' id'}, .opened key' id' ∈ h ++ [Obs.opened target.key id] →
      .opened key' id' ∈ h ∨ (key' = target.key ∧ id' = id) := by
    intro key' id' ho
    rcases List.mem_append.mp ho with ho | ho
    · exact Or.inl ho
    · rw [List.mem_singleton, Obs.opened.injEq] at ho
      exact Or.inr ho
  refine ⟨?_, ht.fresh, ?_, hbase.ids, hbase.oneOpen, ht.loaded, ?_, ?_, ?_⟩
  · intro key' task' htask'
    by_cases hk : key' = target.key
    · subst hk
      obtain rfl : Task.opening target value (some (.inserted id)) = task' := by
        simpa [Sys.setTask] using htask'
      rfl
    · exact ht.keyed key' task' (by simpa [Sys.setTask, hk] using htask')
  · intro key' target' ref id' now reply htask'
    by_cases hk : key' = target.key
    · subst hk
      simp [Sys.setTask] at htask'
    · obtain ⟨hlt, hobj, hdone⟩ := hbase.closing key' target' ref id' now reply
        (by simpa [Sys.setTask, hk] using htask')
      refine ⟨hlt, hobj, fun hr ho hu => ?_⟩
      rcases hnew ho with ho | ⟨rfl, -⟩
      · exact hdone hr ho hu
      · exact hk rfl
  · intro key' id' ho
    rcases hnew ho with ho | ⟨rfl, rfl⟩
    · exact hbase.rows key' id' ho
    · exact ⟨⟨id', target.sensor.tenantId, target.key, .open⟩, by simp [halerts], rfl, rfl⟩
  · rintro key' id' ⟨target', value', hw⟩ id'' ho hu
    by_cases hk : key' = target.key
    · subst hk
      have hw' : target = target' ∧ value = value' ∧ id = id' := by simpa [Sys.setTask] using hw
      rcases hnew ho with ho | ⟨-, rfl⟩
      · exact absurd hu (hnone id'' ho)
      · exact hw'.2.2
    · rcases hnew ho with ho | ⟨rfl, -⟩
      · exact hbase.awaited key' id' ⟨target', value', by simpa [Sys.setTask, hk] using hw⟩ id'' ho hu
      · exact absurd rfl hk
  · intro key' id' ho hu
    rcases hnew ho with ho | ⟨rfl, rfl⟩
    · by_cases hk : key' = target.key
      · subst hk
        exact absurd hu (hnone id' ho)
      · refine (hbase.tracked key' id' ho hu).imp_right ?_
        rintro ⟨target', value', hw⟩
        exact ⟨target', value', by simpa [Sys.setTask, hk] using hw⟩
    · exact Or.inr ⟨target, value, by simp [Sys.setTask]⟩

/-! ## Resuming -/

/-- A call ends: what its key has unresolved must be held. -/
theorem Tracked.finish (ht : Tracked s h) {key : Key}
    (hheld : ∀ id, .opened key id ∈ h → Unresolved s.alerts id → s.engine.Holds key id) :
    Tracked (s.withEngine { s.engine with tasks := Function.update s.engine.tasks key none }) h := by
  let e : Engine := { s.engine with tasks := Function.update s.engine.tasks key none }
  have hold : ∀ {key' task}, e.tasks key' = some task → s.engine.tasks key' = some task := by
    intro key' task ht'
    by_cases hk : key' = key
    · simp [e, hk] at ht'
    · simpa [e, hk] using ht'
  refine ⟨fun key' task ht' => ht.keyed key' task (hold ht'), ht.fresh, ?_, ht.ids, ht.oneOpen,
    ht.loaded, ht.rows, ?_, ?_⟩
  · exact fun key' target ref id now reply ht' => ht.closing key' target ref id now reply (hold ht')
  · rintro key' id ⟨target, value, hw⟩
    exact ht.awaited key' id ⟨target, value, hold hw⟩
  · intro key' id ho hu
    by_cases hk : key' = key
    · subst hk
      exact Or.inl (hheld id ho hu)
    · refine (ht.tracked key' id ho hu).imp_right ?_
      rintro ⟨target, value, hw⟩
      exact ⟨target, value, by simpa [e, hk] using hw⟩

/-- Writing the alert of an object: no call may be closing it, and what its key has unresolved must be
named or on its way. -/
theorem Tracked.putAlert (ht : Tracked s h) {key : Key} {ts ts' : TargetState}
    (hts : s.engine.targetState key = some ts) (href : ts'.ref = ts.ref)
    (hclose : ∀ target ref id now reply,
      s.engine.tasks key ≠ some (.closing target ref id now reply))
    (hkeep : ∀ id, .opened key id ∈ h → Unresolved s.alerts id →
      ts'.openAlertId = some id ∨ s.engine.Awaits key id) :
    Tracked (s.withEngine (s.engine.put key ts')) h := by
  have hother : ∀ {key'} (_ : key' ≠ key), (s.engine.put key ts').targetState key' =
      s.engine.targetState key' := fun hk => Function.update_of_ne hk ..
  refine ⟨ht.keyed, ?_, ?_, ht.ids, ht.oneOpen, ht.loaded, ht.rows, ht.awaited, ?_⟩
  · intro key' u hu
    by_cases hk : key' = key
    · subst hk
      obtain rfl : ts' = u := by simpa [Engine.put] using hu
      rw [href]
      exact ht.fresh key' ts hts
    · exact ht.fresh key' u ((hother hk).symm.trans hu)
  · intro key' target ref id now reply htask
    have hk : key' ≠ key := by
      rintro rfl
      exact hclose target ref id now reply htask
    obtain ⟨hlt, hobj, hdone⟩ := ht.closing key' target ref id now reply htask
    exact ⟨hlt, fun u hu => hobj u ((hother hk).symm.trans hu), hdone⟩
  · intro key' id ho hu
    by_cases hk : key' = key
    · subst hk
      exact (hkeep id ho hu).imp_left fun hopen => ⟨ts', Function.update_self .., hopen⟩
    · refine (ht.tracked key' id ho hu).imp_left ?_
      rintro ⟨u, hu', hopen⟩
      exact ⟨u, (hother hk).trans hu', hopen⟩

/-- `#open` resumes: when it was told of an alert, the target's object takes it. -/
theorem Tracked.resumeOpen (ht : Tracked s h) {target : RuleTarget} {value : Option ℚ}
    {reply : OpenReply} (htask : s.engine.tasks target.key = some (.opening target value (some reply)))
    (hc : ∀ id, reply = .inserted id → Unresolved s.alerts id →
      (s.engine.targetState target.key).isSome = true) :
    Tracked (s.withEngine (s.engine.resumeOpen target reply)) h := by
  have nothing_inserted (hno : ∀ id, reply ≠ .inserted id) : Tracked (s.withEngine
      { s.engine with tasks := Function.update s.engine.tasks target.key none }) h := by
    refine ht.finish fun id ho hu => (ht.tracked _ id ho hu).resolve_right ?_
    rintro ⟨target', value', hw⟩
    rw [htask] at hw
    cases hw
    exact hno id rfl
  cases reply with
  | held => exact nothing_inserted fun id => by simp
  | failed => exact nothing_inserted fun id => by simp
  | inserted id =>
    have honly : ∀ id', .opened target.key id' ∈ h → Unresolved s.alerts id' → id' = id :=
      ht.awaited target.key id ⟨target, value, htask⟩
    simp only [Engine.resumeOpen]
    cases hts : s.engine.targetState target.key with
    | none =>
      -- no object: by the condition nothing of the key is unresolved
      refine (ht.finish fun id' ho hu => ?_).congr rfl rfl rfl
      have := hc id rfl (honly id' ho hu ▸ hu)
      rw [hts] at this
      cases this
    | some ts =>
      have hnamed : Tracked (s.withEngine
          (s.engine.put target.key { ts with openAlertId := some id, clears := 0 })) h :=
        ht.putAlert hts rfl (by simp [htask]) fun id' ho hu =>
          Or.inl (congrArg some (honly id' ho hu).symm)
      refine (hnamed.finish fun id' ho hu => ?_).congr rfl rfl rfl
      exact ⟨_, Function.update_self .., congrArg some (honly id' ho hu).symm⟩

/-- `#close` resumes: the alert its object named is resolved. -/
theorem Tracked.resumeClose (ht : Tracked s h) {target : RuleTarget} {ref : ℕ} {alertId : Uuid}
    {now : ℤ} {reply : CloseReply}
    (htask : s.engine.tasks target.key = some (.closing target ref alertId now (some reply))) :
    Tracked (s.withEngine (s.engine.resumeClose target ref now reply)) h := by
  have hfinished : Tracked (s.withEngine
      { s.engine with tasks := Function.update s.engine.tasks target.key none }) h := by
    refine ht.finish fun id ho hu => (ht.tracked _ id ho hu).resolve_right ?_
    rintro ⟨target', value', hw⟩
    rw [htask] at hw
    cases hw
  cases reply with
  | failed => exact hfinished
  | done =>
    obtain ⟨-, hobj, hdone⟩ := ht.closing _ _ _ _ _ _ htask
    simp only [Engine.resumeClose]
    cases hts : s.engine.targetState target.key with
    | none => exact hfinished.congr rfl rfl rfl
    | some ts =>
      dsimp only
      split_ifs with href
      · have hcleared : Tracked ((s.withEngine
            { s.engine with tasks := Function.update s.engine.tasks target.key none }).withEngine
            (Engine.put { s.engine with tasks := Function.update s.engine.tasks target.key none }
              target.key { ts with openAlertId := none, lastResolvedAt := now, clears := 0 })) h := by
          refine hfinished.putAlert hts rfl (by simp) fun id ho hu => ?_
          rcases hfinished.tracked target.key id ho hu with ⟨ts', hts', hopen⟩ | hw
          · -- the object named the alert that has been resolved
            obtain rfl : ts = ts' := Option.some.inj (hts.symm.trans hts')
            rw [hobj ts hts href] at hopen
            obtain rfl : alertId = id := Option.some.inj hopen
            exact absurd hu (hdone rfl ho)
          · exact Or.inr hw
        exact hcleared.congr rfl rfl rfl
      · exact hfinished.congr rfl rfl rfl

/-! ## Runs -/

/-- A call that is not an `#open` told of an alert awaits none. -/
theorem not_awaits {key : Key} {task : Task} (htask : s.engine.tasks key = some task)
    (hno : ∀ target value id, task ≠ .opening target value (some (.inserted id))) (id : Uuid) :
    ¬ s.engine.Awaits key id := by
  rintro ⟨target, value, hw⟩
  exact hno target value id (Option.some.inj (htask.symm.trans hw))

theorem Tracked.commitOpen (ht : Tracked s h) {target : RuleTarget} {value : Option ℚ} {id : Uuid}
    {lost : Bool} {s' : Sys} {o : List Obs}
    (htask : s.engine.tasks target.key = some (.opening target value none))
    (hc : lost = true → (s.alerts.any fun r => r.unresolved && r.key == target.key) = true)
    (hs : s.commitOpen target value id lost = some (s', o)) : Tracked s' (h ++ o) := by
  simp only [Sys.commitOpen, Option.ite_none_left_eq_some] at hs
  obtain ⟨hid, hs⟩ := hs
  have hfresh : ∀ r ∈ s.alerts, r.id ≠ id := by simpa using hid
  have hnot := not_awaits htask fun _ _ _ => by simp
  cases hins : openAlert id target.sensor.tenantId target.key s.alerts with
  | none =>
    simp only [hins, Option.some.injEq, Prod.mk.injEq] at hs
    obtain ⟨rfl, rfl⟩ := hs
    rw [List.append_nil]
    refine ht.setReply hnot rfl (fun _ _ id' => ?_) (fun _ _ _ _ _ heq => by cases heq)
    cases lost <;> simp
  | some alerts =>
    simp only [hins, Option.some.injEq, Prod.mk.injEq] at hs
    obtain ⟨rfl, rfl⟩ := hs
    cases lost with
    | false => exact ht.insertOwn hfresh hins
    | true =>
      obtain ⟨r, hr, hrk⟩ := List.any_eq_true.mp (hc rfl)
      simp only [Bool.and_eq_true, beq_iff_eq] at hrk
      exact absurd hrk.2 ((openAlert_some hins).2 r hr hrk.1)

/-- **Step lemma.** -/
theorem Tracked.step {s' : Sys} {a : Act} {o : List Obs} (ht : Tracked s h) (hc : KeepsAlerts s h a)
    (hs : step s a = some (s', o)) : Tracked s' (h ++ o) := by
  cases a with
  | start now profileSetpoints =>
    simp only [DTwin.Rules.step] at hs
    split at hs
    · cases hs
      rw [List.append_nil]
      exact (ht.congr (e := { s.engine with startedAt := now, profileSetpoints := profileSetpoints })
        rfl rfl rfl).setBoot fun _ hb => by cases hb
    · cases hs
  | refresh rules registry =>
    simp only [DTwin.Rules.step] at hs
    split at hs
    · cases hs
      rw [List.append_nil]
      exact (ht.refresh rules registry).setBoot fun _ hb => by cases hb
    · cases hs
      rw [List.append_nil]
      exact ht.refresh rules registry
    · cases hs
  | load tenantId =>
    simp only [DTwin.Rules.step] at hs
    split at hs
    · cases hs
      rw [List.append_nil]
      refine ht.setBoot fun live hlive => ?_
      cases hlive
      -- one unresolved alert per key, so no key is loaded twice
      rw [loadLiveAlerts, List.map_map]
      refine (List.Nodup.of_map (·.id) (ht.ids.sublist (List.filter_sublist.map _))).map_on ?_
      intro r hr r' hr' hk
      obtain ⟨hrt, hru⟩ := List.mem_filter.mp hr
      obtain ⟨hrt', hru'⟩ := List.mem_filter.mp hr'
      refine eq_of_id_eq ht.ids hrt hrt' (ht.oneOpen r hrt r' hrt' ?_ ?_ hk)
      · exact (Bool.and_eq_true_iff.mp hru).2
      · exact (Bool.and_eq_true_iff.mp hru').2
    · cases hs
  | adopt =>
    simp only [DTwin.Rules.step] at hs
    split at hs
    · rename_i live hboot
      cases hs
      rw [List.append_nil]
      exact (ht.adopt live (ht.loaded live hboot) (hc live hboot)).setBoot fun _ hb => by cases hb
    · cases hs
  | ready =>
    simp only [DTwin.Rules.step] at hs
    split at hs
    · cases hs
      rw [List.append_nil]
      exact ht.setBoot fun _ hb => by cases hb
    · cases hs
  | reading sensor reading now =>
    cases hs
    rw [List.append_nil]
    exact ht.onReading sensor reading now
  | sweep now =>
    simp only [DTwin.Rules.step] at hs
    split at hs
    · cases hs
      rw [List.append_nil]
      exact ht.sweep now
    · cases hs
  | commitOpen key id lost =>
    simp only [DTwin.Rules.step] at hs
    split at hs
    · rename_i target value htask
      obtain rfl : target.key = key := ht.keyed key _ htask
      exact ht.commitOpen htask hc hs
    · cases hs
  | failOpen key =>
    simp only [DTwin.Rules.step] at hs
    split at hs
    · rename_i target value htask
      obtain rfl : target.key = key := ht.keyed key _ htask
      cases hs
      rw [List.append_nil]
      exact ht.setReply (not_awaits htask fun _ _ _ => by simp) rfl (fun _ _ _ => by simp)
        fun _ _ _ _ _ heq => by cases heq
    · cases hs
  | commitClose key lost =>
    simp only [DTwin.Rules.step] at hs
    split at hs
    · rename_i target ref alertId now htask
      obtain rfl : target.key = key := ht.keyed key _ htask
      cases hs
      rw [List.append_nil]
      have hres := ht.resolveAlert alertId
      refine hres.setReply (not_awaits htask fun _ _ _ => by simp) rfl (fun _ _ _ => by simp) ?_
      intro target' ref' id' now' reply heq
      cases heq
      obtain ⟨hlt, hobj, -⟩ := ht.closing _ _ _ _ _ _ htask
      exact ⟨hlt, hobj, fun _ _ => not_unresolved_resolveAlert alertId s.alerts⟩
    · cases hs
  | failClose key =>
    simp only [DTwin.Rules.step] at hs
    split at hs
    · rename_i target ref alertId now htask
      obtain rfl : target.key = key := ht.keyed key _ htask
      cases hs
      rw [List.append_nil]
      refine ht.setReply (not_awaits htask fun _ _ _ => by simp) rfl (fun _ _ _ => by simp) ?_
      intro target' ref' id' now' reply heq
      cases heq
      obtain ⟨hlt, hobj, -⟩ := ht.closing _ _ _ _ _ _ htask
      exact ⟨hlt, hobj, fun hr => by cases hr⟩
    · cases hs
  | resume key =>
    simp only [DTwin.Rules.step] at hs
    split at hs
    · rename_i target value reply htask
      obtain rfl : target.key = key := ht.keyed key _ htask
      cases hs
      rw [List.append_nil]
      refine ht.resumeOpen htask fun id hreply => hc target value id ?_
      rw [htask, hreply]
    · rename_i target ref alertId now reply htask
      obtain rfl : target.key = key := ht.keyed key _ htask
      cases hs
      rw [List.append_nil]
      exact ht.resumeClose htask
    · cases hs
  | otherOpen id tenantId key =>
    simp only [DTwin.Rules.step] at hs
    split_ifs at hs with hid
    have hfresh : ∀ r ∈ s.alerts, r.id ≠ id := by simpa using hid
    split at hs
    · cases hs
    · rename_i alerts hins
      cases hs
      rw [List.append_nil]
      exact ht.insertOther hfresh hins
  | otherResolve id =>
    cases hs
    rw [List.append_nil]
    exact ht.resolveAlert id
  | acknowledge id =>
    cases hs
    rw [List.append_nil]
    exact ht.acknowledgeAlert id

/-- The constraints of `alerts`: its primary key, and one live alert per target. -/
structure LawfulAlerts (t : List AlertRow) : Prop where
  ids : (t.map (·.id)).Nodup
  oneOpen : UniqueOn (fun r : AlertRow => r.unresolved = true) (·.key) (·.id) t

theorem LawfulAlerts.nil : LawfulAlerts [] := ⟨List.nodup_nil, by simp [UniqueOn]⟩

theorem Tracked.init {alerts : List AlertRow} (hl : LawfulAlerts alerts) :
    Tracked (.init alerts) [] where
  keyed _ _ htask := by cases htask
  fresh _ _ hts := by cases hts
  closing _ _ _ _ _ _ htask := by cases htask
  ids := hl.ids
  oneOpen := hl.oneOpen
  loaded _ hboot := by cases hboot
  rows _ _ ho := absurd ho List.not_mem_nil
  awaited _ _ hw := by
    obtain ⟨_, _, hw⟩ := hw
    cases hw
  tracked _ _ ho := absurd ho List.not_mem_nil

/-- **No orphans.**  In every run whose steps keep the engine's alerts, in every state: while no call
for a key is in progress, the unresolved alerts the engine has opened for it are held. -/
theorem no_orphans {alerts : List AlertRow} (hl : LawfulAlerts alerts) {as : List Act}
    (hc : alerting.Meets KeepsAlerts (.init alerts) [] as) :
    alerting.Along NoOrphans (.init alerts) [] as :=
  along_of_meets (I := Tracked) (fun ht hc hs => ht.step hc hs) Tracked.noOrphans (Tracked.init hl) hc

/-- Above 30 °C, one breach opens. -/
def hotRule : AlertRuleRow where
  id := 1
  tenantId := 1
  buildingId := none
  floorId := none
  zoneId := none
  equipmentId := none
  sensorId := some 1
  metric := none
  condition := .thresholdAbove
  threshold := some 30
  windowS := none
  consecutiveBreaches := 1
  cooldownS := 0
  window_ck := by simp
  breaches_ck := le_rfl
  cooldown_ck := le_rfl
  threshold_present := Or.inr rfl
  window_present := Or.inl (by decide)

def roomSensor : RegisteredSensor := ⟨1, 1, .temperatureC, none, some 1, none, none⟩

/-- The engine starts with the rule, reads 35 °C, and its `#open` awaits. -/
def openingRun : List Act :=
  [.start 0 fun _ => none, .refresh [hotRule] [roomSensor], .ready,
    .reading roomSensor ⟨1, 1000, 35, .good⟩ 1000]

theorem no_orphans_openingRun :
    alerting.Along NoOrphans (.init []) []
      (openingRun ++ [.commitOpen (1, 1) 7 false] ++ [.resume (1, 1)]) := by
  refine no_orphans LawfulAlerts.nil (Meets.append ?_ fun s o he => ?_)
  · refine meets_of_forall fun a ha s h => ?_
    simp only [openingRun, List.cons_append, List.nil_append, List.mem_cons, List.not_mem_nil,
      or_false] at ha
    rcases ha with rfl | rfl | rfl | rfl | rfl <;> simp [KeepsAlerts]
  · refine ⟨fun target value id _ _ => ?_, fun _ _ _ => trivial⟩
    have hobj : (alerting.exec (.init []) (openingRun ++ [.commitOpen (1, 1) 7 false])).all
        (fun r => (r.1.engine.targetState (1, 1)).isSome) = true := by decide +kernel
    simpa [he] using hobj

/-- The same, but the rule is disabled and a refresh runs before the transaction commits. -/
def prunedRun : List Act :=
  openingRun ++ [.refresh [] [roomSensor], .commitOpen (1, 1) 7 false, .resume (1, 1)]

theorem prunedRun_isSome : (alerting.exec (.init []) prunedRun).isSome = true := by decide +kernel

/-- The refresh forgets the target, the `#open` resumes without an object, and nobody holds the alert. -/
theorem pruned_orphan : ∃ s h, alerting.Reaches (.init []) s h ∧ ¬ NoOrphans s h := by
  let r := (alerting.exec (.init []) prunedRun).get prunedRun_isSome
  refine ⟨r.1, r.2, ⟨prunedRun, (Option.some_get prunedRun_isSome).symm⟩, fun hno => ?_⟩
  have hopened : Obs.opened (1, 1) 7 ∈ r.2 := by decide +kernel
  have hidle : (r.1.engine.tasks (1, 1)).isNone = true := by decide +kernel
  have hrow : ⟨7, 1, (1, 1), .open⟩ ∈ r.1.alerts := by decide +kernel
  have hobj : (r.1.engine.targetState (1, 1)).isNone = true := by decide +kernel
  obtain ⟨ts, hts, -⟩ := hno (1, 1) 7 hopened (Option.isNone_iff_eq_none.mp hidle) ⟨_, hrow, rfl, rfl⟩
  rw [Option.isNone_iff_eq_none.mp hobj] at hts
  cases hts

end DTwin.Rules
