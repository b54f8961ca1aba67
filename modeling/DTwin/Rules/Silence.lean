import DTwin.Rules.Steps

/-!
# DTwin.Rules.Silence — does the sweep notice that a sensor has stopped?

What the engine takes for a sensor's latest reading is the last one delivered (`exec_latest`), and a
`no_data` rule looks at nothing else.  `silence_detected` says when the sweep judges a silent sensor to
be breaching, and that the sweeps of a debounce then lead to an alert, subject to the cooldown;
`flagged_silence` is a sensor whose silence nobody notices.
-/

namespace DTwin.Rules

open Machine

/-! ## The latest reading -/

/-- What `no_data` and the quality gate look at. -/
def SensorState.latest (s : SensorState) : ℤ × Quality := (s.lastTs, s.lastQuality)

def Reading.latest (r : Reading) : ℤ × Quality := (r.ts, r.quality)

theorem step_latest {s s' : Sys} {a : Act} {o : List Obs} (hs : step s a = some (s', o))
    (sensorId : Uuid) : (s'.engine.sensorState sensorId).map SensorState.latest =
      ((a.readingOf sensorId).map Reading.latest).or
        ((s.engine.sensorState sensorId).map SensorState.latest) := by
  rw [step_sensorState hs]
  cases a.readingOf sensorId with
  | none => rfl
  | some r => rfl

/-- **The latest reading is the last one delivered.** -/
theorem exec_latest (sensorId : Uuid) : ∀ (as : List Act) {s s' : Sys} {o : List Obs},
    alerting.exec s as = some (s', o) →
    (s'.engine.sensorState sensorId).map SensorState.latest =
      ((readingsOf sensorId as).getLast?.map Reading.latest).or
        ((s.engine.sensorState sensorId).map SensorState.latest)
  | [], _, _, _, he => by
    cases he
    rfl
  | a :: as, s, s', o, he => by
    obtain ⟨s₁, o₁, o₂, hs, he', -⟩ := exec_cons_iff.mp he
    rw [exec_latest sensorId as he', step_latest hs sensorId, readingsOf, readingsOf,
      List.filterMap_cons]
    cases hr : a.readingOf sensorId with
    | none => simp
    | some r =>
      rw [List.getLast?_cons]
      cases (as.filterMap (Act.readingOf sensorId)).getLast? <;> simp

/-- A `no_data` rule is judged by the latest reading alone, once the gate lets it. -/
theorem verdict_noData (e : Engine) {target : RuleTarget} (hcond : target.rule.condition = .noData)
    (state : Option SensorState) (now : ℤ) :
    e.verdict target state now =
      if ∀ l ∈ state.map SensorState.latest, l.2 = .good then
        some ⟨now - ((state.map SensorState.latest).map (·.1)).getD e.startedAt > target.rule.windowMs,
          none⟩
      else none := by
  cases state with
  | none => simp [Engine.verdict, isEvaluable, evaluate, hcond]
  | some st => simp [Engine.verdict, isEvaluable, evaluate, hcond, SensorState.latest]

/-! ## The other targets -/

/-- Nothing has happened to a target. -/
def SameFor (key : Key) (e e' : Engine) : Prop :=
  e'.targetState key = e.targetState key ∧ e'.tasks key = e.tasks key

theorem debounce_other (e : Engine) {target : RuleTarget} {key : Key} (hk : key ≠ target.key)
    (v : Verdict) (now : ℤ) : SameFor key e (e.debounce target v now) := by
  have hens : (e.ensure target.key).1.targetState key = e.targetState key := by
    unfold Engine.ensure
    split
    · rfl
    · simp [hk]
  have hput (ts : TargetState) : SameFor key e ((e.ensure target.key).1.put target.key ts) :=
    ⟨by simpa [Engine.put, hk] using hens, by rw [← ensure_tasks e target.key]; rfl⟩
  let ts := (e.ensure target.key).2
  have hbreach := hput { ts with clears := 0, breaches := ts.breaches + 1 }
  have hclear := hput { ts with breaches := 0, clears := ts.clears + 1 }
  unfold Engine.debounce
  dsimp only
  split_ifs
  · exact hbreach
  · exact hbreach
  · unfold Engine.startOpen
    split
    · exact hbreach
    · exact ⟨hbreach.1, by simpa [hk] using hbreach.2⟩
  · exact hput _
  · exact hclear
  · unfold Engine.startClose
    split
    · exact hclear
    · split
      · exact hclear
      · exact ⟨hclear.1, by simpa [hk] using hclear.2⟩

theorem evaluateTarget_other (e : Engine) {target : RuleTarget} {key : Key} (hk : key ≠ target.key)
    (state : Option SensorState) (now : ℤ) : SameFor key e (e.evaluateTarget target state now) := by
  unfold Engine.evaluateTarget
  split
  · exact ⟨rfl, rfl⟩
  · exact debounce_other { e with liveSetpoints := (e.setpointFor target.sensor now).2 } hk ..

theorem foldl_other (state : Engine → RuleTarget → Option SensorState) (now : ℤ) {key : Key} :
    ∀ (targets : List RuleTarget) (e : Engine), (∀ t ∈ targets, key ≠ t.key) →
      SameFor key e (targets.foldl (fun e t => e.evaluateTarget t (state e t) now) e)
  | [], _, _ => ⟨rfl, rfl⟩
  | t :: targets, e, hne => by
    obtain ⟨h₁, h₂⟩ := evaluateTarget_other e (hne t List.mem_cons_self) (state e t) now
    obtain ⟨h₃, h₄⟩ := foldl_other state now targets (e.evaluateTarget t (state e t) now) fun u hu =>
      hne u (List.mem_cons_of_mem t hu)
    exact ⟨h₃.trans h₁, h₄.trans h₂⟩

theorem SameFor.breachesOf {key : Key} {e e' : Engine} (hsame : SameFor key e e') :
    e'.breachesOf key = e.breachesOf key := by
  unfold Engine.breachesOf
  rw [hsame.1]

/-! ## A target that keeps breaching -/

/-- A breaching target has been brought to attention: its alert is open or being opened, or the
cooldown since its last one suppresses it. -/
def Engine.Alerted (e : Engine) (target : RuleTarget) (now : ℤ) : Prop :=
  e.Open target.key ∨
    (∃ target' value reply, e.tasks target.key = some (.opening target' value reply)) ∨
    ∃ ts, e.targetState target.key = some ts ∧
      now - ts.lastResolvedAt < target.rule.cooldownS * 1000

theorem SameFor.alerted {target : RuleTarget} {now : ℤ} {e e' : Engine}
    (hsame : SameFor target.key e e') (ha : e.Alerted target now) : e'.Alerted target now := by
  obtain ⟨h₁, h₂⟩ := hsame
  unfold Engine.Alerted Engine.Open at ha ⊢
  rwa [h₁, h₂]

theorem ensure_breaches (e : Engine) (key : Key) : (e.ensure key).2.breaches = e.breachesOf key := by
  unfold Engine.ensure Engine.breachesOf
  cases e.targetState key <;> rfl

theorem startOpen_breachesOf (e : Engine) (target : RuleTarget) (value : Option ℚ) (key : Key) :
    (e.startOpen target value).breachesOf key = e.breachesOf key := by
  unfold Engine.startOpen
  split <;> rfl

/-- **A breach is counted, and from the last of the debounce on the target is alerted.** -/
theorem debounce_breaching {e : Engine} (hc : CallsHeld e) (target : RuleTarget) {v : Verdict}
    (hv : v.breaching = true) (now : ℤ) :
    (e.debounce target v now).breachesOf target.key = e.breachesOf target.key + 1 ∧
      (target.rule.consecutiveBreaches ≤ e.breachesOf target.key + 1 →
        (e.debounce target v now).Alerted target now) := by
  have hheld := hc.debounce target v now
  revert hheld
  let ts := (e.ensure target.key).2
  let counted := (e.ensure target.key).1.put target.key
    { ts with clears := 0, breaches := ts.breaches + 1 }
  have hts : counted.targetState target.key =
      some { ts with clears := 0, breaches := ts.breaches + 1 } := Function.update_self ..
  have hcount : counted.breachesOf target.key = e.breachesOf target.key + 1 := by
    rw [breachesOf_put, if_pos rfl, ← ensure_breaches]
  unfold Engine.debounce
  simp only [hv, if_true]
  split_ifs with hskip hcool
  · refine fun _ => ⟨hcount, fun hn => ?_⟩
    rcases hskip with hopen | hlt
    · exact Or.inl ⟨_, hts, hopen⟩
    · rw [ensure_breaches] at hlt
      exact absurd hn (Nat.not_le.mpr hlt)
  · exact fun _ => ⟨hcount, fun _ => Or.inr (Or.inr ⟨_, hts, hcool⟩)⟩
  · intro hheld
    refine ⟨(startOpen_breachesOf ..).trans hcount, fun _ => ?_⟩
    -- a call already in progress is an `#open`, or a `#close` of an alert still named
    cases htask : (counted.startOpen target v.value).tasks target.key with
    | none =>
      unfold Engine.startOpen at htask
      split at htask
      · rename_i task hsome
        exact absurd (hsome.symm.trans htask) (by simp)
      · simp at htask
    | some task =>
      cases task with
      | opening target' value reply => exact Or.inr (Or.inl ⟨target', value, reply, htask⟩)
      | closing target' ref id at' reply =>
        exact Or.inl ((hheld target.key _ htask).2 target' ref id at' reply rfl)

/-- The same for the sweep, whose other targets leave this one alone. -/
theorem sweep_breaching {e : Engine} (hc : CallsHeld e) {target : RuleTarget}
    (hmem : target ∈ e.targets) (hkeys : (e.targets.map RuleTarget.key).Nodup)
    (hcond : target.rule.condition = .noData) {now : ℤ} {v : Verdict}
    (hverdict : e.verdict target (e.sensorState target.sensor.id) now = some v)
    (hv : v.breaching = true) :
    (e.sweep now).breachesOf target.key = e.breachesOf target.key + 1 ∧
      (target.rule.consecutiveBreaches ≤ e.breachesOf target.key + 1 →
        (e.sweep now).Alerted target now) := by
  have hswept : target ∈ e.targets.filter fun t => !instantaneous.contains t.rule.condition :=
    List.mem_filter.mpr ⟨hmem, by rw [hcond]; decide⟩
  obtain ⟨before, after, hsplit⟩ := List.append_of_mem hswept
  have hnodup : ((e.targets.filter fun t => !instantaneous.contains t.rule.condition).map
      RuleTarget.key).Nodup := hkeys.sublist (List.filter_sublist.map _)
  rw [hsplit, List.map_append, List.map_cons, List.nodup_middle, List.nodup_cons,
    List.mem_append, not_or] at hnodup
  have hbefore : ∀ t ∈ before, target.key ≠ t.key := fun t ht h =>
    hnodup.1.1 (h ▸ List.mem_map_of_mem ht)
  have hafter : ∀ t ∈ after, target.key ≠ t.key := fun t ht h =>
    hnodup.1.2 (h ▸ List.mem_map_of_mem ht)
  unfold Engine.sweep
  rw [hsplit, List.foldl_append, List.foldl_cons]
  set e₁ := before.foldl (fun e t => e.evaluateTarget t (e.sensorState t.sensor.id) now) e with he₁
  have hframe : Frame e e₁ := frame_foldl (fun e t => e.sensorState t.sensor.id) now before e
  have hsame : SameFor target.key e e₁ :=
    foldl_other (fun e t => e.sensorState t.sensor.id) now before e hbefore
  have hheld : CallsHeld e₁ :=
    CallsHeld.foldl (fun e t => e.sensorState t.sensor.id) now before hc
  have hv₁ : e₁.verdict target (e₁.sensorState target.sensor.id) now = some v := by
    rw [← hverdict, verdict_noData e₁ hcond, verdict_noData e hcond, hframe.sensorState,
      hframe.startedAt]
  have hrest := foldl_other (fun e t => e.sensorState t.sensor.id) now after
    (e₁.evaluateTarget target (e₁.sensorState target.sensor.id) now) hafter
  obtain ⟨hcount, halert⟩ := debounce_breaching (e := { e₁ with
    liveSetpoints := (e₁.setpointFor target.sensor now).2 }) (fun key task h => hheld key task h)
      target hv now
  rw [show Engine.breachesOf { e₁ with liveSetpoints := (e₁.setpointFor target.sensor now).2 }
      target.key = e.breachesOf target.key from hsame.breachesOf] at hcount halert
  have heval : e₁.evaluateTarget target (e₁.sensorState target.sensor.id) now =
      { e₁ with liveSetpoints := (e₁.setpointFor target.sensor now).2 }.debounce target v now := by
    unfold Engine.evaluateTarget
    rw [hv₁]
  rw [heval] at hrest ⊢
  exact ⟨hrest.breachesOf.trans hcount, fun hn => hrest.alerted (halert hn)⟩

/-! ## Runs -/

/-- The primary keys of `alert_rules` and of the registry. -/
def UniqueIds (rules : List AlertRuleRow) (registry : List RegisteredSensor) : Prop :=
  (rules.map (·.id)).Nodup ∧ (registry.map (·.id)).Nodup

/-- A target is one rule and one sensor. -/
theorem expandAll_keys_nodup {rules : List AlertRuleRow} {registry : List RegisteredSensor}
    (hu : UniqueIds rules registry) : ((expandAll rules registry).map RuleTarget.key).Nodup := by
  obtain ⟨hrules, hregistry⟩ := hu
  have hone (rule : AlertRuleRow) : (expandRule rule registry).map (fun s => (rule.id, s.id)) =
      ((expandRule rule registry).map (·.id)).map (rule.id, ·) := by simp
  rw [expandAll, List.map_flatMap, List.nodup_flatMap]
  constructor
  · intro rule _
    rw [List.map_map]
    refine List.Nodup.map_on ?_ ((List.Nodup.of_map _ hregistry).sublist List.filter_sublist)
    intro s hs s' hs' heq
    have hid : s.id = s'.id := congrArg Prod.snd heq
    exact Table.eq_of_id_eq hregistry (List.mem_of_mem_filter hs) (List.mem_of_mem_filter hs') hid
  · refine (List.pairwise_map.mp hrules).imp fun {r r'} hne key hkey hkey' => hne ?_
    simp only [List.map_map, List.mem_map, Function.comp_apply, RuleTarget.key] at hkey hkey'
    obtain ⟨_, -, rfl⟩ := hkey
    obtain ⟨_, -, heq⟩ := hkey'
    exact (congrArg Prod.fst heq).symm

/-- Refreshes load what the database holds. -/
def Act.Loaded : Act → Prop
  | .refresh rules registry => UniqueIds rules registry
  | _ => True

/-- A step while the target's sensor is silent and its rule stands, from `since` on. -/
def Act.Quiet (target : RuleTarget) (since : ℤ) : Act → Prop
  | .reading sensor _ _ => sensor.id ≠ target.sensor.id
  | .sweep now => since ≤ now
  | .refresh rules registry => target ∈ expandAll rules registry
  | _ => True

def Act.isSweep : Act → Bool
  | .sweep _ => true
  | _ => false

/-- A silent target, judged to be breaching since `since` by at least `n` sweeps. -/
structure Unheard (target : RuleTarget) (since : ℤ) (n : ℕ) (s : Sys) : Prop where
  running : s.boot = .running
  calls : CallsHeld s.engine
  watched : target ∈ s.engine.targets
  keys : (s.engine.targets.map RuleTarget.key).Nodup
  breaching : ∀ now, since ≤ now →
    s.engine.verdict target (s.engine.sensorState target.sensor.id) now = some ⟨true, none⟩
  counted : n ≤ s.engine.breachesOf target.key

theorem step_keys {s s' : Sys} {a : Act} {o : List Obs} (hl : a.Loaded)
    (hkeys : (s.engine.targets.map RuleTarget.key).Nodup) (hs : step s a = some (s', o)) :
    (s'.engine.targets.map RuleTarget.key).Nodup := by
  have he := step_engineStep hs
  cases a with
  | start now profileSetpoints =>
    rw [he.2]
    exact hkeys
  | refresh rules registry =>
    rw [show s'.engine = s.engine.refresh rules registry from he]
    exact expandAll_keys_nodup hl
  | adopt =>
    obtain ⟨live, -, he⟩ := he
    rw [he, (frame_adopt live s.engine).targets]
    exact hkeys
  | sweep now =>
    rw [show s'.engine = s.engine.sweep now from he, (frame_sweep s.engine now).targets]
    exact hkeys
  | reading sensor reading now =>
    rw [show s'.engine = s.engine.onReading sensor reading now from he,
      (frame_onReading s.engine sensor reading now).targets]
    exact hkeys
  | _ =>
    have hcalm : Calm s.engine s'.engine := he
    rw [hcalm.targets]
    exact hkeys

theorem step_running {s s' : Sys} {a : Act} {o : List Obs} (hr : s.boot = .running)
    (hs : step s a = some (s', o)) : s'.boot = .running := by
  cases a with
  | commitOpen key id lost =>
    simp only [step] at hs
    split at hs
    · simp only [Sys.commitOpen, Option.ite_none_left_eq_some] at hs
      obtain ⟨-, hs⟩ := hs
      split at hs <;> cases hs <;> exact hr
    · cases hs
  | otherOpen id tenantId key =>
    simp only [step, Option.ite_none_left_eq_some] at hs
    obtain ⟨-, hs⟩ := hs
    split at hs <;> cases hs
    exact hr
  | start | load | adopt | ready => simp [step, hr] at hs
  | refresh | sweep =>
    simp only [step, hr] at hs
    cases hs
    rfl
  | failOpen | commitClose | failClose | resume =>
    simp only [step] at hs
    split at hs <;> cases hs <;> exact hr
  | reading | otherResolve | acknowledge =>
    cases hs
    exact hr

/-- **Step lemma.** -/
theorem Unheard.step {target : RuleTarget} {since : ℤ} {n : ℕ} {s s' : Sys} {a : Act} {o : List Obs}
    (hu : Unheard target since n s) (hcond : target.rule.condition = .noData) (hl : a.Loaded)
    (hq : a.Quiet target since) (hs : step s a = some (s', o)) :
    Unheard target since (n + if a.isSweep then 1 else 0) s' := by
  have he := step_engineStep hs
  -- what is left to show: the rule stands, its sensor is as before, and the breaches are counted
  have hmk (m : ℕ) (hmem : target ∈ s'.engine.targets)
      (hsense : s'.engine.sensorState target.sensor.id = s.engine.sensorState target.sensor.id)
      (hstart : s'.engine.startedAt = s.engine.startedAt)
      (hcount : n + m ≤ s'.engine.breachesOf target.key) : Unheard target since (n + m) s' := by
    refine ⟨step_running hu.running hs, hu.calls.step hs, hmem, step_keys hl hu.keys hs, ?_, hcount⟩
    intro now hnow
    rw [← hu.breaching now hnow, verdict_noData _ hcond, verdict_noData _ hcond, hsense, hstart]
  cases a with
  | start now profileSetpoints =>
    exact absurd (he.1.symm.trans hu.running) (by simp)
  | refresh rules registry =>
    replace he : s'.engine = s.engine.refresh rules registry := he
    have hkept : s'.engine.breachesOf target.key = s.engine.breachesOf target.key := by
      have hin : target.key ∈ (expandAll rules registry).map RuleTarget.key :=
        List.mem_map_of_mem hq
      unfold Engine.breachesOf
      rw [he]
      congr 2
      cases hts : s.engine.targetState target.key with
      | none => simp [Engine.refresh, hts]
      | some ts => simpa [Engine.refresh, hts] using Or.inl hin
    exact hmk 0 (he ▸ hq) (by rw [he]; rfl) (by rw [he]; rfl) (hkept ▸ hu.counted)
  | adopt =>
    obtain ⟨live, hboot, -⟩ := he
    exact absurd (hboot.symm.trans hu.running) (by simp)
  | sweep now =>
    replace he : s'.engine = s.engine.sweep now := he
    have hf := frame_sweep s.engine now
    have hcount := (sweep_breaching hu.calls hu.watched hu.keys hcond (hu.breaching now hq) rfl).1
    have hn := hu.counted
    refine hmk 1 ?_ ?_ ?_ ?_
    · rw [he, hf.targets]
      exact hu.watched
    · rw [he, hf.sensorState]
    · rw [he, hf.startedAt]
    · rw [he, hcount]
      omega
  | reading sensor reading now =>
    replace he : s'.engine = s.engine.onReading sensor reading now := he
    have hf := frame_onReading s.engine sensor reading now
    have hother : SameFor target.key (s.engine.record sensor reading)
        (s.engine.onReading sensor reading now) := by
      refine foldl_other _ now _ _ fun t ht hk => hq ?_
      have hid := (List.mem_filter.mp ht).2
      simp only [Bool.and_eq_true, beq_iff_eq] at hid
      exact hid.1.symm.trans (congrArg Prod.snd hk).symm
    have hn := hu.counted
    refine hmk 0 ?_ ?_ ?_ ?_
    · rw [he, hf.targets]
      exact hu.watched
    · rw [he, hf.sensorState]
      exact Function.update_of_ne (Ne.symm hq) _ _
    · rw [he, hf.startedAt]
      rfl
    · rw [he]
      exact hn.trans hother.breachesOf.ge
  | _ =>
    have hcalm : Calm s.engine s'.engine := he
    have hn := hu.counted
    refine hmk 0 ?_ ?_ ?_ ?_
    · rw [hcalm.targets]
      exact hu.watched
    · rw [hcalm.sensorState]
    · exact hcalm.startedAt
    · rw [hcalm.breaches]
      exact hn

/-- **Run lemma.** -/
theorem Unheard.exec {target : RuleTarget} (hcond : target.rule.condition = .noData) {since : ℤ} :
    ∀ (as : List Act) {n : ℕ} {s s' : Sys} {o : List Obs}, Unheard target since n s →
      (∀ a ∈ as, a.Loaded ∧ a.Quiet target since) → alerting.exec s as = some (s', o) →
      Unheard target since (n + as.countP Act.isSweep) s'
  | [], _, _, _, _, hu, _, he => by
    cases he
    exact hu
  | a :: as, n, s, s', o, hu, hq, he => by
    obtain ⟨s₁, o₁, o₂, hs, he', -⟩ := exec_cons_iff.mp he
    obtain ⟨hl, hqa⟩ := hq a List.mem_cons_self
    have := Unheard.exec hcond as (hu.step hcond hl hqa hs)
      (fun b hb => hq b (List.mem_cons_of_mem a hb)) he'
    rw [List.countP_cons]
    rwa [Nat.add_assoc, Nat.add_comm (if a.isSweep = true then 1 else 0)] at this

theorem exec_keys : ∀ (as : List Act) {s s' : Sys} {o : List Obs}, (∀ a ∈ as, a.Loaded) →
    (s.engine.targets.map RuleTarget.key).Nodup → alerting.exec s as = some (s', o) →
    (s'.engine.targets.map RuleTarget.key).Nodup
  | [], _, _, _, _, hkeys, he => by
    cases he
    exact hkeys
  | a :: as, _, _, _, hl, hkeys, he => by
    obtain ⟨s₁, o₁, o₂, hs, he', -⟩ := exec_cons_iff.mp he
    exact exec_keys as (fun b hb => hl b (List.mem_cons_of_mem a hb))
      (step_keys (hl a List.mem_cons_self) hkeys hs) he'

/-- The sweep finds the target breaching from `since` on, and when as many sweeps as the rule's
debounce have run without a reading, the target is alerted. -/
def Detected (s : Sys) (target : RuleTarget) (since : ℤ) : Prop :=
  (∀ now, since ≤ now →
    s.engine.verdict target (s.engine.sensorState target.sensor.id) now = some ⟨true, none⟩) ∧
  ∀ as now s' o, alerting.exec s (as ++ [.sweep now]) = some (s', o) →
    (∀ a ∈ as ++ [.sweep now], a.Loaded ∧ a.Quiet target since) →
    target.rule.consecutiveBreaches ≤ as.countP Act.isSweep + 1 → s'.engine.Alerted target now

/-- **Silence is detected exactly when it follows a Good reading or none.** -/
theorem silence_detected {alerts : List AlertRow} {as : List Act} {s : Sys} {h : List Obs}
    (he : alerting.exec (.init alerts) as = some (s, h)) (hl : ∀ a ∈ as, a.Loaded)
    (hrun : s.boot = .running) {target : RuleTarget} (hmem : target ∈ s.engine.targets)
    (hcond : target.rule.condition = .noData) {since : ℤ}
    (hsilent : ∀ r ∈ readingsOf target.sensor.id as, since - r.ts > target.rule.windowMs)
    (hnone : readingsOf target.sensor.id as = [] →
      since - s.engine.startedAt > target.rule.windowMs) :
    Detected s target since ↔
      ∀ last ∈ (readingsOf target.sensor.id as).getLast?, last.quality = .good := by
  have hlatest := exec_latest target.sensor.id as he
  rw [show (Sys.init alerts).engine.sensorState target.sensor.id = none from rfl, Option.map_none,
    Option.or_none] at hlatest
  have hverdict (now : ℤ) := verdict_noData s.engine hcond
    (s.engine.sensorState target.sensor.id) now
  simp only [hlatest] at hverdict
  constructor
  · rintro ⟨hbreach, -⟩ last hlast
    have hv := hbreach since le_rfl
    rw [hverdict] at hv
    by_contra hbad
    rw [if_neg] at hv
    · cases hv
    · rw [Option.mem_def.mp hlast]
      simpa [Reading.latest] using hbad
  · intro hgood
    have hbreach (now : ℤ) (hnow : since ≤ now) :
        s.engine.verdict target (s.engine.sensorState target.sensor.id) now = some ⟨true, none⟩ := by
      rw [hverdict, if_pos]
      · cases hlast : (readingsOf target.sensor.id as).getLast? with
        | none =>
          have := hnone (List.getLast?_eq_none_iff.mp hlast)
          simp
          omega
        | some last =>
          have := hsilent last (List.mem_of_getLast? hlast)
          simp [Reading.latest]
          omega
      · rintro l hl
        obtain ⟨last, hlast, rfl⟩ := Option.map_eq_some_iff.mp hl
        exact hgood last hlast
    refine ⟨hbreach, fun more now s' o hmore hq hn => ?_⟩
    obtain ⟨s₁, o₁, o₂, h₁, h₂, -⟩ := exec_append_iff.mp hmore
    have hstart : Unheard target since 0 s :=
      ⟨hrun, callsHeld_of_reaches ⟨as, he⟩, hmem, exec_keys as hl (s := .init alerts) List.nodup_nil he, hbreach,
        Nat.zero_le _⟩
    have hu := hstart.exec hcond more (fun a ha => hq a (List.mem_append_left _ ha)) h₁
    obtain ⟨s₂, o₃, o₄, hs, hnil, -⟩ := exec_cons_iff.mp h₂
    cases hnil
    rw [show s'.engine = s₁.engine.sweep now from
      step_engineStep (s := s₁) (a := .sweep now) hs]
    have hnow : since ≤ now := (hq (.sweep now) (by simp)).2
    refine (sweep_breaching hu.calls hu.watched hu.keys hcond (hu.breaching now hnow) rfl).2 ?_
    have := hu.counted
    omega

/-- No data for a minute, two breaches open. -/
def quietRule : AlertRuleRow where
  id := 1
  tenantId := 1
  buildingId := none
  floorId := none
  zoneId := none
  equipmentId := none
  sensorId := some 1
  metric := none
  condition := .noData
  threshold := none
  windowS := some 60
  consecutiveBreaches := 2
  cooldownS := 0
  window_ck := by simp
  breaches_ck := by decide
  cooldown_ck := Int.natCast_nonneg 0
  threshold_present := Or.inl (by decide)
  window_present := Or.inr rfl

def quietSensor : RegisteredSensor := ⟨1, 1, .temperatureC, none, some 1, none, none⟩

/-- The sensor reports once, one second after the start, and falls silent. -/
def silentRun (value : ℚ) (quality : Quality) : List Act :=
  [.start 0 fun _ => none, .refresh [quietRule] [quietSensor], .ready,
    .reading quietSensor ⟨1, 1000, value, quality⟩ 1000]

theorem silentRun_loaded (value : ℚ) (quality : Quality) : ∀ a ∈ silentRun value quality, a.Loaded := by
  intro a ha
  simp only [silentRun, List.mem_cons, List.not_mem_nil, or_false] at ha
  rcases ha with rfl | rfl | rfl | rfl <;> simp [Act.Loaded, UniqueIds]

theorem silence_detected_silentRun : ∃ s h,
    alerting.exec (.init []) (silentRun 21 .good) = some (s, h) ∧
      Detected s ⟨quietRule, quietSensor⟩ 70000 := by
  refine ⟨_, _, rfl, (silence_detected (show alerting.exec (.init []) (silentRun 21 .good) = _ from rfl)
    (silentRun_loaded 21 .good) rfl ?_ rfl ?_ ?_).mpr ?_⟩
  · exact List.mem_singleton.mpr rfl
  · decide
  · decide
  · decide

/-- Out of range, then nothing: the sweep never looks. -/
theorem flagged_silence : ∃ s h,
    alerting.exec (.init []) (silentRun 150 .outOfRange) = some (s, h) ∧ s.boot = .running ∧
      (⟨quietRule, quietSensor⟩ : RuleTarget) ∈ s.engine.targets ∧
      (∀ r ∈ readingsOf 1 (silentRun 150 .outOfRange), 70000 - r.ts > quietRule.windowMs) ∧
      ¬ Detected s ⟨quietRule, quietSensor⟩ 70000 := by
  refine ⟨_, _, rfl, rfl, List.mem_singleton.mpr rfl, by decide, ?_⟩
  rintro ⟨hbreach, -⟩
  have := hbreach 70000 le_rfl
  cases this

end DTwin.Rules
