import DTwin.Rules.Engine

/-!
# DTwin.Rules.Steps — what a step of the engine changes

* `Frame`: evaluating rules changes nothing of what the engine knows of the sensors;
* `step_engineStep`: what each step does to the engine, the steps of the database and of the calls in
  progress being `Calm`;
* `step_sensorState`: only its own readings change what the engine knows of a sensor;
* `callsHeld_of_reaches`: a call in progress is kept under its target's key, and the object of a
  target being closed still names an alert.
-/

namespace DTwin.Rules

open Machine

/-! ## What evaluation leaves alone -/

/-- The part of the engine rules are judged by, the live setpoints apart. -/
structure Frame (e e' : Engine) : Prop where
  startedAt : e'.startedAt = e.startedAt
  targets : e'.targets = e.targets
  needHistory : e'.needHistory = e.needHistory
  profileSetpoints : e'.profileSetpoints = e.profileSetpoints
  sensorState : e'.sensorState = e.sensorState

theorem Frame.refl (e : Engine) : Frame e e := ⟨rfl, rfl, rfl, rfl, rfl⟩

theorem Frame.trans {a b c : Engine} (h₁ : Frame a b) (h₂ : Frame b c) : Frame a c :=
  ⟨h₂.startedAt.trans h₁.startedAt, h₂.targets.trans h₁.targets,
    h₂.needHistory.trans h₁.needHistory, h₂.profileSetpoints.trans h₁.profileSetpoints,
    h₂.sensorState.trans h₁.sensorState⟩

theorem frame_ensure (e : Engine) (key : Key) : Frame e (e.ensure key).1 := by
  unfold Engine.ensure
  split <;> exact ⟨rfl, rfl, rfl, rfl, rfl⟩

theorem frame_startOpen (e : Engine) (target : RuleTarget) (value : Option ℚ) :
    Frame e (e.startOpen target value) := by
  unfold Engine.startOpen
  split <;> exact ⟨rfl, rfl, rfl, rfl, rfl⟩

theorem frame_startClose (e : Engine) (target : RuleTarget) (now : ℤ) :
    Frame e (e.startClose target now) := by
  unfold Engine.startClose
  split
  · exact .refl e
  · split <;> exact ⟨rfl, rfl, rfl, rfl, rfl⟩

theorem frame_debounce (e : Engine) (target : RuleTarget) (v : Verdict) (now : ℤ) :
    Frame e (e.debounce target v now) := by
  have hput (ts : TargetState) : Frame e ((e.ensure target.key).1.put target.key ts) :=
    (frame_ensure e target.key).trans ⟨rfl, rfl, rfl, rfl, rfl⟩
  let ts := (e.ensure target.key).2
  have hbreach := hput { ts with clears := 0, breaches := ts.breaches + 1 }
  have hclear := hput { ts with breaches := 0, clears := ts.clears + 1 }
  unfold Engine.debounce
  dsimp only
  split_ifs
  · exact hbreach
  · exact hbreach.trans ⟨rfl, rfl, rfl, rfl, rfl⟩
  · exact hbreach.trans (frame_startOpen ..)
  · exact hput _
  · exact hclear
  · exact hclear.trans (frame_startClose ..)

theorem frame_evaluateTarget (e : Engine) (target : RuleTarget) (state : Option SensorState)
    (now : ℤ) : Frame e (e.evaluateTarget target state now) := by
  unfold Engine.evaluateTarget
  split
  · exact .refl e
  · have hd := frame_debounce { e with liveSetpoints := (e.setpointFor target.sensor now).2 } target
    exact ⟨(hd _ now).startedAt, (hd _ now).targets, (hd _ now).needHistory,
      (hd _ now).profileSetpoints, (hd _ now).sensorState⟩

theorem frame_foldl (state : Engine → RuleTarget → Option SensorState) (now : ℤ) :
    ∀ (targets : List RuleTarget) (e : Engine),
      Frame e (targets.foldl (fun e t => e.evaluateTarget t (state e t) now) e)
  | [], e => .refl e
  | _ :: targets, _ => (frame_evaluateTarget ..).trans (frame_foldl state now targets _)

theorem frame_sweep (e : Engine) (now : ℤ) : Frame e (e.sweep now) := frame_foldl ..

theorem frame_adopt : ∀ (live : List (Key × Uuid)) (e : Engine), Frame e (e.adopt live)
  | [], e => .refl e
  | l :: live, e =>
    have hl : Frame e (e.adoptOne l) := ⟨rfl, rfl, rfl, rfl, rfl⟩
    hl.trans (frame_adopt live _)

/-- A reading is recorded, and evaluating it changes nothing of what is recorded. -/
theorem frame_onReading (e : Engine) (sensor : RegisteredSensor) (reading : Reading) (now : ℤ) :
    Frame (e.record sensor reading) (e.onReading sensor reading now) := frame_foldl ..

/-! ## One step -/

/-- The consecutive breaches counted for a target. -/
def Engine.breachesOf (e : Engine) (key : Key) : ℕ := ((e.targetState key).map (·.breaches)).getD 0

/-- What a step leaves alone when it is no reading, sweep or refresh: all but the calls in progress and
the alert an object names. -/
structure Calm (e e' : Engine) : Prop extends Frame e e' where
  liveSetpoints : e'.liveSetpoints = e.liveSetpoints
  breaches : ∀ key, e'.breachesOf key = e.breachesOf key

theorem Calm.refl (e : Engine) : Calm e e := ⟨.refl e, rfl, fun _ => rfl⟩

theorem breachesOf_put (e : Engine) (key : Key) (ts : TargetState) (key' : Key) :
    (e.put key ts).breachesOf key' = if key' = key then ts.breaches else e.breachesOf key' := by
  by_cases hk : key' = key
  · subst hk
    simp [Engine.breachesOf, Engine.put]
  · simp [Engine.breachesOf, Engine.put, hk]

theorem calm_resumeOpen (e : Engine) (target : RuleTarget) (reply : OpenReply) :
    Calm e (e.resumeOpen target reply) := by
  unfold Engine.resumeOpen
  cases reply with
  | inserted id =>
    cases hts : e.targetState target.key with
    | none =>
      simp only [hts]
      exact ⟨⟨rfl, rfl, rfl, rfl, rfl⟩, rfl, fun _ => rfl⟩
    | some ts =>
      simp only [hts]
      refine ⟨⟨rfl, rfl, rfl, rfl, rfl⟩, rfl, fun key => ?_⟩
      rw [breachesOf_put]
      by_cases hk : key = target.key
      · simp [hk, Engine.breachesOf, hts]
      · rw [if_neg hk]
        rfl
  | held => exact ⟨⟨rfl, rfl, rfl, rfl, rfl⟩, rfl, fun _ => rfl⟩
  | failed => exact ⟨⟨rfl, rfl, rfl, rfl, rfl⟩, rfl, fun _ => rfl⟩

theorem calm_resumeClose (e : Engine) (target : RuleTarget) (ref : ℕ) (now : ℤ) (reply : CloseReply) :
    Calm e (e.resumeClose target ref now reply) := by
  unfold Engine.resumeClose
  cases reply with
  | done =>
    cases hts : e.targetState target.key with
    | none =>
      simp only [hts]
      exact ⟨⟨rfl, rfl, rfl, rfl, rfl⟩, rfl, fun _ => rfl⟩
    | some ts =>
      simp only [hts]
      split_ifs
      · refine ⟨⟨rfl, rfl, rfl, rfl, rfl⟩, rfl, fun key => ?_⟩
        rw [breachesOf_put]
        by_cases hk : key = target.key
        · simp [hk, Engine.breachesOf, hts]
        · rw [if_neg hk]
          rfl
      · exact ⟨⟨rfl, rfl, rfl, rfl, rfl⟩, rfl, fun _ => rfl⟩
  | failed => exact ⟨⟨rfl, rfl, rfl, rfl, rfl⟩, rfl, fun _ => rfl⟩

/-- What a step does to the engine. -/
def EngineStep (s s' : Sys) : Act → Prop
  | .start now profileSetpoints => s.boot = .new ∧
      s'.engine = { s.engine with startedAt := now, profileSetpoints := profileSetpoints }
  | .refresh rules registry => s'.engine = s.engine.refresh rules registry
  | .adopt => ∃ live, s.boot = .adopting (some live) ∧ s'.engine = s.engine.adopt live
  | .reading sensor reading now => s'.engine = s.engine.onReading sensor reading now
  | .sweep now => s'.engine = s.engine.sweep now
  | _ => Calm s.engine s'.engine

/-- **Inversion.** -/
theorem step_engineStep {s s' : Sys} {a : Act} {o : List Obs} (hs : step s a = some (s', o)) :
    EngineStep s s' a := by
  cases a with
  | start now profileSetpoints =>
    simp only [step] at hs
    split at hs
    · rename_i hboot
      cases hs
      exact ⟨hboot, rfl⟩
    · cases hs
  | refresh rules registry =>
    simp only [step] at hs
    split at hs <;> cases hs <;> rfl
  | load tenantId =>
    simp only [step] at hs
    split at hs <;> cases hs
    exact .refl _
  | adopt =>
    simp only [step] at hs
    split at hs
    · rename_i live hboot
      cases hs
      exact ⟨live, hboot, rfl⟩
    · cases hs
  | ready =>
    simp only [step] at hs
    split at hs <;> cases hs
    exact .refl _
  | reading sensor reading now =>
    cases hs
    rfl
  | sweep now =>
    simp only [step] at hs
    split at hs <;> cases hs
    rfl
  | commitOpen key id lost =>
    simp only [step] at hs
    split at hs
    · simp only [Sys.commitOpen, Option.ite_none_left_eq_some] at hs
      obtain ⟨-, hs⟩ := hs
      split at hs <;> cases hs <;> exact ⟨⟨rfl, rfl, rfl, rfl, rfl⟩, rfl, fun _ => rfl⟩
    · cases hs
  | failOpen key =>
    simp only [step] at hs
    split at hs <;> cases hs
    exact ⟨⟨rfl, rfl, rfl, rfl, rfl⟩, rfl, fun _ => rfl⟩
  | commitClose key lost =>
    simp only [step] at hs
    split at hs <;> cases hs
    exact ⟨⟨rfl, rfl, rfl, rfl, rfl⟩, rfl, fun _ => rfl⟩
  | failClose key =>
    simp only [step] at hs
    split at hs <;> cases hs
    exact ⟨⟨rfl, rfl, rfl, rfl, rfl⟩, rfl, fun _ => rfl⟩
  | resume key =>
    simp only [step] at hs
    split at hs
    · cases hs
      exact calm_resumeOpen ..
    · cases hs
      exact calm_resumeClose ..
    · cases hs
  | otherOpen id tenantId key =>
    simp only [step, Option.ite_none_left_eq_some] at hs
    obtain ⟨-, hs⟩ := hs
    split at hs <;> cases hs
    exact .refl _
  | otherResolve id =>
    cases hs
    exact .refl _
  | acknowledge id =>
    cases hs
    exact .refl _

/-- Neither the start nor a refresh: the rules in force stay as they are. -/
def Act.Steady : Act → Prop
  | .start _ _ => False
  | .refresh _ _ => False
  | _ => True

/-- The rules in force and all they are judged by besides readings. -/
structure Setting (e e' : Engine) : Prop where
  startedAt : e'.startedAt = e.startedAt
  targets : e'.targets = e.targets
  needHistory : e'.needHistory = e.needHistory
  profileSetpoints : e'.profileSetpoints = e.profileSetpoints

theorem Frame.setting {e e' : Engine} (hf : Frame e e') : Setting e e' :=
  ⟨hf.startedAt, hf.targets, hf.needHistory, hf.profileSetpoints⟩

theorem step_setting {s s' : Sys} {a : Act} {o : List Obs} (ha : a.Steady)
    (hs : step s a = some (s', o)) : Setting s.engine s'.engine := by
  have he := step_engineStep hs
  cases a with
  | start => exact ha.elim
  | refresh => exact ha.elim
  | adopt =>
    obtain ⟨live, -, he⟩ := he
    exact he ▸ (frame_adopt live s.engine).setting
  | sweep now =>
    rw [show s'.engine = s.engine.sweep now from he]
    exact (frame_sweep s.engine now).setting
  | reading sensor reading now =>
    rw [show s'.engine = s.engine.onReading sensor reading now from he]
    have hf := (frame_onReading s.engine sensor reading now).setting
    exact ⟨hf.startedAt, hf.targets, hf.needHistory, hf.profileSetpoints⟩
  | _ => exact (show Calm s.engine s'.engine from he).toFrame.setting

/-- The reading of a sensor that a step delivers. -/
def Act.readingOf (sensorId : Uuid) : Act → Option Reading
  | .reading sensor r _ => if sensor.id = sensorId then some r else none
  | _ => none

/-- The readings of a sensor delivered in a run. -/
def readingsOf (sensorId : Uuid) (as : List Act) : List Reading :=
  as.filterMap (Act.readingOf sensorId)

/-- **Only its own readings change what the engine knows of a sensor.** -/
theorem step_sensorState {s s' : Sys} {a : Act} {o : List Obs} (hs : step s a = some (s', o))
    (sensorId : Uuid) : s'.engine.sensorState sensorId =
      ((a.readingOf sensorId).map
        (nextState (s.engine.needHistory sensorId) (s.engine.sensorState sensorId))).or
        (s.engine.sensorState sensorId) := by
  have he := step_engineStep hs
  cases a with
  | start now profileSetpoints => simp [Act.readingOf, he.2]
  | refresh rules registry =>
    rw [show s'.engine = s.engine.refresh rules registry from he]
    rfl
  | adopt =>
    obtain ⟨live, -, he⟩ := he
    rw [he, (frame_adopt live s.engine).sensorState]
    rfl
  | sweep now =>
    rw [show s'.engine = s.engine.sweep now from he, (frame_sweep s.engine now).sensorState]
    rfl
  | reading sensor reading now =>
    rw [show s'.engine = s.engine.onReading sensor reading now from he,
      (frame_onReading s.engine sensor reading now).sensorState]
    by_cases hid : sensor.id = sensorId
    · subst hid
      simp [Engine.record, Act.readingOf]
    · simp [Engine.record, Act.readingOf, hid, Ne.symm hid]
  | _ =>
    have hcalm : Calm s.engine s'.engine := he
    rw [hcalm.sensorState]
    rfl

/-! ## Calls in progress -/

/-- The target's object names an alert. -/
def Engine.Open (e : Engine) (key : Key) : Prop :=
  ∃ ts, e.targetState key = some ts ∧ ts.openAlertId.isSome = true

/-- A call in progress is kept under its target's key, and a `#close` has an alert to close. -/
def CallsHeld (e : Engine) : Prop :=
  ∀ key task, e.tasks key = some task → task.target.key = key ∧
    ∀ target ref id now reply, task = .closing target ref id now reply → e.Open key

theorem CallsHeld.mono {e e' : Engine} (hc : CallsHeld e) (hk : e'.tasks = e.tasks)
    (ho : ∀ key, e.Open key → e'.Open key) : CallsHeld e' := by
  intro key task htask
  rw [hk] at htask
  obtain ⟨hkey, hclose⟩ := hc key task htask
  exact ⟨hkey, fun target ref id now reply h => ho key (hclose target ref id now reply h)⟩

theorem CallsHeld.setTask {e : Engine} (hc : CallsHeld e) (task : Task)
    (hclose : ∀ target ref id now reply, task = .closing target ref id now reply →
      e.Open task.target.key) :
    CallsHeld { e with tasks := Function.update e.tasks task.target.key (some task) } := by
  intro key task' htask
  by_cases hk : key = task.target.key
  · subst hk
    obtain rfl : task = task' := by simpa using htask
    exact ⟨rfl, hclose⟩
  · exact hc key task' (by simpa [hk] using htask)

theorem Engine.Open.update {e : Engine} {key : Key} (ts : TargetState) {key' : Key}
    (hts : key' = key → ts.openAlertId.isSome = true) (ho : e.Open key') :
    (e.put key ts).Open key' := by
  by_cases hk : key' = key
  · subst hk
    exact ⟨ts, Function.update_self .., hts rfl⟩
  · obtain ⟨ts', hts', hopen⟩ := ho
    exact ⟨ts', by simpa [Engine.put, hk] using hts', hopen⟩

theorem ensure_targetState (e : Engine) (key : Key) :
    (e.ensure key).1.targetState key = some (e.ensure key).2 := by
  unfold Engine.ensure
  cases hts : e.targetState key with
  | some ts => exact hts
  | none => exact Function.update_self ..

theorem ensure_targetState_of_some {e : Engine} (key : Key) {key' : Key} {ts : TargetState}
    (hts : e.targetState key' = some ts) : (e.ensure key).1.targetState key' = some ts := by
  unfold Engine.ensure
  cases hts' : e.targetState key with
  | some ts' => exact hts
  | none =>
    have hk : key' ≠ key := by
      rintro rfl
      simp [hts] at hts'
    simpa [hk] using hts

theorem ensure_tasks (e : Engine) (key : Key) : (e.ensure key).1.tasks = e.tasks := by
  unfold Engine.ensure
  split <;> rfl

theorem CallsHeld.startOpen {e : Engine} (hc : CallsHeld e) (target : RuleTarget) (value : Option ℚ) :
    CallsHeld (e.startOpen target value) := by
  unfold Engine.startOpen
  cases hidle : e.tasks target.key with
  | some task => exact hc
  | none => exact hc.setTask (.opening target value none) fun _ _ _ _ _ h => by cases h

theorem CallsHeld.startClose {e : Engine} (hc : CallsHeld e) (target : RuleTarget) (now : ℤ) :
    CallsHeld (e.startClose target now) := by
  unfold Engine.startClose
  split
  · exact hc
  · rename_i ref alertId hobj
    obtain ⟨ts, hts, hid⟩ := Option.bind_eq_some_iff.mp hobj
    obtain ⟨id, hid, heq⟩ := Option.map_eq_some_iff.mp hid
    cases hidle : e.tasks target.key with
    | some task => exact hc
    | none =>
      refine hc.setTask (.closing target ref alertId now none) fun _ _ _ _ _ _ => ?_
      exact ⟨ts, hts, by simp [hid]⟩

theorem CallsHeld.debounce {e : Engine} (hc : CallsHeld e) (target : RuleTarget) (v : Verdict)
    (now : ℤ) : CallsHeld (e.debounce target v now) := by
  have hput (ts : TargetState) (hts : ts.openAlertId = (e.ensure target.key).2.openAlertId) :
      CallsHeld ((e.ensure target.key).1.put target.key ts) := by
    refine hc.mono (ensure_tasks e target.key) fun key ho => ?_
    obtain ⟨ts', hts', hopen⟩ := ho
    have hens := ensure_targetState_of_some target.key hts'
    refine Engine.Open.update ts (fun hk => ?_) ⟨ts', hens, hopen⟩
    subst hk
    rw [ensure_targetState] at hens
    rw [hts, Option.some.inj hens, hopen]
  let ts := (e.ensure target.key).2
  have hbreach := hput { ts with clears := 0, breaches := ts.breaches + 1 } rfl
  have hclear := hput { ts with breaches := 0, clears := ts.clears + 1 } rfl
  unfold Engine.debounce
  dsimp only
  split_ifs
  · exact hbreach
  · exact hbreach.mono rfl fun _ ho => ho
  · exact hbreach.startOpen target v.value
  · exact hput { ts with breaches := 0 } rfl
  · exact hclear
  · exact hclear.startClose target now

theorem CallsHeld.evaluateTarget {e : Engine} (hc : CallsHeld e) (target : RuleTarget)
    (state : Option SensorState) (now : ℤ) : CallsHeld (e.evaluateTarget target state now) := by
  unfold Engine.evaluateTarget
  cases e.verdict target state now with
  | none => exact hc
  | some v =>
    have hlive : CallsHeld { e with liveSetpoints := (e.setpointFor target.sensor now).2 } :=
      hc.mono rfl fun _ ho => ho
    exact hlive.debounce target v now

theorem CallsHeld.foldl (state : Engine → RuleTarget → Option SensorState) (now : ℤ) :
    ∀ (targets : List RuleTarget) {e : Engine}, CallsHeld e →
      CallsHeld (targets.foldl (fun e t => e.evaluateTarget t (state e t) now) e)
  | [], _, hc => hc
  | t :: targets, e, hc => CallsHeld.foldl state now targets (hc.evaluateTarget t (state e t) now)

theorem CallsHeld.adopt : ∀ (live : List (Key × Uuid)) {e : Engine}, CallsHeld e →
    CallsHeld (e.adopt live)
  | [], _, hc => hc
  | l :: live, e, hc => by
    refine CallsHeld.adopt live (hc.mono rfl fun key ho => ?_)
    exact Engine.Open.update ⟨e.nextRef, 0, 0, some l.2, 0⟩ (fun _ => rfl) ho

/-- The reply of a call in progress. -/
theorem CallsHeld.setReply {s : Sys} {key : Key} {task : Task} (hc : CallsHeld s.engine)
    (task' : Task) (htask : s.engine.tasks key = some task) (htarget : task'.target = task.target)
    (hclose : ∀ target ref id now reply, task' = .closing target ref id now reply →
      ∃ ref id now reply, task = .closing target ref id now reply) :
    CallsHeld (s.setTask task'.target.key task').engine := by
  refine hc.setTask task' fun target ref id now reply h => ?_
  obtain ⟨ref, id, now, reply, ht⟩ := hclose target ref id now reply h
  rw [htarget, (hc key task htask).1]
  exact (hc key task htask).2 _ _ _ _ _ ht

/-- The end of a call, which may change the object of its target alone. -/
theorem CallsHeld.endTask {e e' : Engine} (hc : CallsHeld e) {key : Key}
    (hk : e'.tasks = Function.update e.tasks key none)
    (ho : ∀ key', key' ≠ key → e'.targetState key' = e.targetState key') : CallsHeld e' := by
  intro key' task htask
  rw [hk] at htask
  by_cases hkey : key' = key
  · simp [hkey] at htask
  · obtain ⟨ht, hclose⟩ := hc key' task (by simpa [hkey] using htask)
    refine ⟨ht, fun target ref id now reply h => ?_⟩
    obtain ⟨ts, hts, hopen⟩ := hclose target ref id now reply h
    exact ⟨ts, (ho key' hkey).trans hts, hopen⟩

theorem resumeOpen_other (e : Engine) (target : RuleTarget) (reply : OpenReply) :
    (e.resumeOpen target reply).tasks = Function.update e.tasks target.key none ∧
      ∀ key, key ≠ target.key → (e.resumeOpen target reply).targetState key = e.targetState key := by
  unfold Engine.resumeOpen
  cases reply with
  | inserted id =>
    cases hts : e.targetState target.key with
    | none => simp [hts]
    | some ts => simp +contextual [hts, Engine.put]
  | held => simp
  | failed => simp

theorem resumeClose_other (e : Engine) (target : RuleTarget) (ref : ℕ) (now : ℤ)
    (reply : CloseReply) :
    (e.resumeClose target ref now reply).tasks = Function.update e.tasks target.key none ∧
      ∀ key, key ≠ target.key →
        (e.resumeClose target ref now reply).targetState key = e.targetState key := by
  unfold Engine.resumeClose
  cases reply with
  | done =>
    cases hts : e.targetState target.key with
    | none => simp [hts]
    | some ts =>
      simp only [hts]
      split_ifs
      · simp +contextual [Engine.put]
      · simp
  | failed => simp

theorem CallsHeld.step {s s' : Sys} {a : Act} {o : List Obs} (hc : CallsHeld s.engine)
    (hs : step s a = some (s', o)) : CallsHeld s'.engine := by
  have hsame (e' : Engine) (hk : e'.tasks = s.engine.tasks)
      (ht : e'.targetState = s.engine.targetState) : CallsHeld e' :=
    hc.mono hk fun key ho => by simpa [Engine.Open, ht] using ho
  cases a with
  | start now profileSetpoints =>
    obtain ⟨-, he⟩ := step_engineStep hs
    exact hsame _ (by rw [he]) (by rw [he])
  | refresh rules registry =>
    rw [show s'.engine = s.engine.refresh rules registry from step_engineStep hs]
    refine hc.mono rfl fun key ho => ?_
    obtain ⟨ts, hts, hopen⟩ := ho
    exact ⟨ts, by simp [Engine.refresh, hts, hopen], hopen⟩
  | load tenantId =>
    simp only [DTwin.Rules.step] at hs
    split at hs <;> cases hs
    exact hc
  | adopt =>
    obtain ⟨live, -, he⟩ := step_engineStep hs
    rw [he]
    exact hc.adopt live
  | ready =>
    simp only [DTwin.Rules.step] at hs
    split at hs <;> cases hs
    exact hc
  | reading sensor reading now =>
    cases hs
    exact CallsHeld.foldl _ _ _ (hsame (s.engine.record sensor reading) rfl rfl)
  | sweep now =>
    rw [show s'.engine = s.engine.sweep now from step_engineStep hs]
    exact CallsHeld.foldl _ _ _ hc
  | commitOpen key id lost =>
    simp only [DTwin.Rules.step] at hs
    split at hs
    · rename_i target value htask
      have hreply (reply : OpenReply) := hc.setReply (.opening target value (some reply)) htask
        rfl fun _ _ _ _ _ h => by cases h
      simp only [Sys.commitOpen, Option.ite_none_left_eq_some] at hs
      obtain ⟨-, hs⟩ := hs
      split at hs <;> cases hs <;> exact hreply _
    · cases hs
  | failOpen key =>
    simp only [DTwin.Rules.step] at hs
    split at hs
    · rename_i target value htask
      cases hs
      exact hc.setReply (.opening target value (some .failed)) htask rfl
        fun _ _ _ _ _ h => by cases h
    · cases hs
  | commitClose key lost =>
    simp only [DTwin.Rules.step] at hs
    split at hs
    · rename_i target ref alertId now htask
      cases hs
      refine hc.setReply (.closing target ref alertId now (some (if lost then .failed else .done)))
        htask rfl fun _ _ _ _ _ h => ?_
      cases h
      exact ⟨ref, alertId, now, none, rfl⟩
    · cases hs
  | failClose key =>
    simp only [DTwin.Rules.step] at hs
    split at hs
    · rename_i target ref alertId now htask
      cases hs
      refine hc.setReply (.closing target ref alertId now (some .failed)) htask rfl
        fun _ _ _ _ _ h => ?_
      cases h
      exact ⟨ref, alertId, now, none, rfl⟩
    · cases hs
  | resume key =>
    simp only [DTwin.Rules.step] at hs
    split at hs
    · rename_i target value reply htask
      cases hs
      obtain ⟨hk, ho⟩ := resumeOpen_other s.engine target reply
      exact hc.endTask hk ho
    · rename_i target ref alertId now reply htask
      cases hs
      obtain ⟨hk, ho⟩ := resumeClose_other s.engine target ref now reply
      exact hc.endTask hk ho
    · cases hs
  | otherOpen id tenantId key =>
    simp only [DTwin.Rules.step, Option.ite_none_left_eq_some] at hs
    obtain ⟨-, hs⟩ := hs
    split at hs <;> cases hs
    exact hc
  | otherResolve id =>
    cases hs
    exact hc
  | acknowledge id =>
    cases hs
    exact hc

/-- **Every call in progress has its place**, in every reachable state. -/
theorem callsHeld_of_reaches {alerts : List AlertRow} {s : Sys} {h : List Obs}
    (hr : alerting.Reaches (.init alerts) s h) : CallsHeld s.engine :=
  hr.inv (I := fun s => CallsHeld s.engine) (fun hc hs => hc.step hs) fun _ _ htask => by cases htask

end DTwin.Rules
