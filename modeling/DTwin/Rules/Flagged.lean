import DTwin.Rules.Readings

/-!
# DTwin.Rules.Flagged — does flagged data reach a value alarm?

Two runs of the engine, the second delivering only the Good readings of the first, judged at a moment when
a target's latest reading is Good.  The gate looks at the latest quality alone, but every reading enters
what the engine keeps:

* a threshold and the live setpoint are safe, whatever else is delivered;
* `lastChangedAt` is the last move among all readings, so a flat line is judged alike exactly when the
  window does not part it from the last move among the Good ones;
* the regression takes every sample of its window, so a slope is safe when no flagged reading is in it.
-/

namespace DTwin.Rules

open Machine

/-! ## Two runs -/

/-- The reading a step delivers, with its sensor. -/
def Act.delivery : Act → Option (RegisteredSensor × Reading)
  | .reading sensor r _ => some (sensor, r)
  | _ => none

def deliveries (as : List Act) : List (RegisteredSensor × Reading) := as.filterMap Act.delivery

def isGood (r : Reading) : Bool := r.quality == .good

theorem readingsOf_eq (sensorId : Uuid) (as : List Act) : readingsOf sensorId as =
    (deliveries as).filterMap fun d => if d.1.id = sensorId then some d.2 else none := by
  rw [readingsOf, deliveries, List.filterMap_filterMap]
  congr 1
  funext a
  cases a <;> rfl

theorem setpointsOf_eq (zoneId : Uuid) (as : List Act) : setpointsOf zoneId as =
    (deliveries as).filterMap fun d =>
      if d.1.zoneId = some zoneId ∧ d.1.metric = .setpointTempC ∧ d.2.quality = .good then
        some ⟨d.2.value, d.2.ts⟩ else none := by
  rw [setpointsOf, deliveries, List.filterMap_filterMap]
  congr 1
  funext a
  cases a <;> rfl

section
variable {as as' : List Act} (hdel : deliveries as' = (deliveries as).filter fun d => isGood d.2)
include hdel

theorem readingsOf_good (sensorId : Uuid) :
    readingsOf sensorId as' = (readingsOf sensorId as).filter isGood := by
  rw [readingsOf_eq, readingsOf_eq, hdel, List.filterMap_filter, List.filter_filterMap]
  congr 1
  funext d
  by_cases hid : d.1.id = sensorId
  · simp [hid, Option.filter]
  · simp [hid]

/-- Flagged readings bring no setpoint. -/
theorem setpointsOf_good (zoneId : Uuid) : setpointsOf zoneId as' = setpointsOf zoneId as := by
  rw [setpointsOf_eq, setpointsOf_eq, hdel, List.filterMap_filter]
  congr 1
  funext d
  by_cases hgood : d.2.quality = .good <;> simp [isGood, hgood]

end

/-! ## Before the first reading -/

/-- The engine has rules and no reading yet. -/
structure Unread (e : Engine) : Prop where
  sensorState : ∀ sensorId, e.sensorState sensorId = none
  liveSetpoints : ∀ zoneId, e.liveSetpoints zoneId = none
  windows : ∀ sensorId, ∀ w ∈ e.needHistory sensorId, 0 ≤ w

theorem needHistoryOf_nonneg (targets : List RuleTarget) (sensorId : Uuid) :
    ∀ w ∈ needHistoryOf targets sensorId, 0 ≤ w := by
  refine List.foldlRecOn (motive := fun need : Option ℤ => ∀ w ∈ need, 0 ≤ w) targets _
    (fun _ h => by cases h) fun need h t _ => ?_
  split
  · split_ifs
    · intro v hv
      obtain rfl := Option.some.inj hv
      refine le_max_of_le_left ?_
      cases need with
      | none => exact le_rfl
      | some n => exact h n rfl
    · exact h
  · exact h

theorem unread_init (alerts : List AlertRow) : Unread (Sys.init alerts).engine :=
  ⟨fun _ => rfl, fun _ => rfl, fun _ _ h => by cases h⟩

theorem foldl_liveSetpoints (state : Engine → RuleTarget → Option SensorState) (now : ℤ) :
    ∀ (targets : List RuleTarget) (e : Engine), (∀ z, e.liveSetpoints z = none) →
      (targets.foldl (fun e t => e.evaluateTarget t (state e t) now) e).liveSetpoints =
        e.liveSetpoints
  | [], _, _ => rfl
  | t :: targets, e, hnone => by
    have hone : (e.evaluateTarget t (state e t) now).liveSetpoints = e.liveSetpoints := by
      unfold Engine.evaluateTarget
      split
      · rfl
      · rw [debounce_liveSetpoints]
        unfold Engine.setpointFor liveSetpointFor
        cases t.sensor.zoneId with
        | none => rfl
        | some z => simp [hnone]
    rw [List.foldl_cons, foldl_liveSetpoints state now targets _ (by simpa [hone] using hnone), hone]

theorem Unread.step {s s' : Sys} {a : Act} {o : List Obs} (hu : Unread s.engine)
    (ha : a.delivery = none) (hs : step s a = some (s', o)) : Unread s'.engine := by
  have he := step_engineStep hs
  cases a with
  | start now profileSetpoints =>
    rw [he.2]
    exact ⟨hu.sensorState, hu.liveSetpoints, hu.windows⟩
  | refresh rules registry =>
    rw [show s'.engine = s.engine.refresh rules registry from he]
    exact ⟨hu.sensorState, hu.liveSetpoints, needHistoryOf_nonneg _⟩
  | adopt =>
    obtain ⟨live, -, he⟩ := he
    have hf := frame_adopt live s.engine
    rw [he]
    exact ⟨hf.sensorState ▸ hu.sensorState, adopt_liveSetpoints live s.engine ▸ hu.liveSetpoints,
      hf.needHistory ▸ hu.windows⟩
  | sweep now =>
    have hf := frame_sweep s.engine now
    have hlive : (s.engine.sweep now).liveSetpoints = s.engine.liveSetpoints :=
      foldl_liveSetpoints (fun e t => e.sensorState t.sensor.id) now _ _ hu.liveSetpoints
    rw [show s'.engine = s.engine.sweep now from he]
    exact ⟨hf.sensorState ▸ hu.sensorState, hlive ▸ hu.liveSetpoints, hf.needHistory ▸ hu.windows⟩
  | reading sensor reading now => cases ha
  | _ =>
    have hcalm : Calm s.engine s'.engine := he
    exact ⟨hcalm.sensorState ▸ hu.sensorState, hcalm.liveSetpoints ▸ hu.liveSetpoints,
      hcalm.needHistory ▸ hu.windows⟩

/-- Whatever runs before the first reading leaves the engine unread. -/
theorem unread_of_exec : ∀ (as : List Act) {s s' : Sys} {o : List Obs}, Unread s.engine →
    deliveries as = [] → alerting.exec s as = some (s', o) → Unread s'.engine
  | [], _, _, _, hu, _, he => by
    cases he
    exact hu
  | a :: as, _, _, _, hu, hnone, he => by
    obtain ⟨s₁, o₁, o₂, hs, he', -⟩ := exec_cons_iff.mp he
    rw [deliveries, List.filterMap_eq_nil_iff] at hnone
    refine unread_of_exec as (hu.step (hnone a List.mem_cons_self) hs) ?_ he'
    exact List.filterMap_eq_nil_iff.mpr fun b hb => hnone b (List.mem_cons_of_mem a hb)

/-! ## The history without the flagged readings -/

/-- Flagged readings older than a window are not missed in it. -/
theorem windowSamples_good {w : ℤ} (hw : 0 ≤ w) {now windowS : ℤ} (rs : List Reading)
    (hold : ∀ r ∈ rs, r.quality ≠ .good → now - r.ts > windowS * 1000) :
    windowSamples (historyOf w (rs.filter isGood)) now windowS =
      windowSamples (historyOf w rs) now windowS := by
  induction rs using List.reverseRecOn with
  | nil => rfl
  | append_singleton rs r ih =>
    have ih := ih fun r' hr' => hold r' (List.mem_append_left _ hr')
    rw [show historyOf w (rs ++ [r]) = retain w (historyOf w rs) ⟨r.ts, r.value⟩ by
      simp [historyOf]]
    cases hgood : isGood r with
    | true =>
      rw [show historyOf w ((rs ++ [r]).filter isGood) =
        retain w (historyOf w (rs.filter isGood)) ⟨r.ts, r.value⟩ by simp [historyOf, hgood]]
      exact windowSamples_retain _ ih
    | false =>
      rw [show (rs ++ [r]).filter isGood = rs.filter isGood by simp [hgood], ih]
      refine (windowSamples_retain_old hw _ (hold r (by simp) ?_)).symm
      simpa [isGood] using hgood

theorem slopePerHour_congr {history history' : List Sample} {now windowS : ℤ}
    (hsame : windowSamples history now windowS = windowSamples history' now windowS) :
    slopePerHour history now windowS = slopePerHour history' now windowS := by
  unfold slopePerHour
  rw [hsame]

/-! ## Verdicts with and without -/

/-- The conditions that judge a measured value. -/
def valueConditions : List AlertCondition :=
  [.thresholdAbove, .thresholdBelow, .deviationFromSetpoint, .flatline, .rateOfChange]

/-- The target is found breaching in both engines, in neither, or judged in neither. -/
def SameVerdict (e e' : Engine) (target : RuleTarget) (now : ℤ) : Prop :=
  (e.judge target now).map (·.breaching) = (e'.judge target now).map (·.breaching)

/-- What keeps flagged readings out of a verdict on these readings at `now`. -/
def Untainted (rule : AlertRuleRow) (rs : List Reading) (now : ℤ) : Prop :=
  match rule.condition with
  | .flatline => ∀ t t', LastMove rs t → LastMove (rs.filter isGood) t' →
      (now - t > rule.windowMs ↔ now - t' > rule.windowMs)
  | .rateOfChange => ∀ r ∈ rs, r.quality ≠ .good → now - r.ts > rule.windowMs
  | _ => True

theorem judge_eq {e : Engine} {target : RuleTarget} {st : SensorState} {now : ℤ}
    (hst : e.sensorState target.sensor.id = some st) (hgood : st.lastQuality = .good) :
    e.judge target now = some (evaluate target.rule (some st)
      ⟨now, (e.setpointFor target.sensor now).1, e.startedAt⟩) := by
  unfold Engine.judge Engine.verdict isEvaluable
  simp [hst, hgood]

section
variable {rule : AlertRuleRow} {st st' : SensorState} (ctx ctx' : EvalContext)
  (hv : st.lastValue = st'.lastValue)
include hv

theorem evaluate_threshold (hc : rule.condition = .thresholdAbove ∨ rule.condition = .thresholdBelow) :
    evaluate rule (some st) ctx = evaluate rule (some st') ctx' := by
  unfold evaluate
  cases rule.threshold <;> rcases hc with hc | hc <;> simp only [hc, hv]

theorem evaluate_deviation (hc : rule.condition = .deviationFromSetpoint)
    (hsp : ctx.setpoint = ctx'.setpoint) :
    evaluate rule (some st) ctx = evaluate rule (some st') ctx' := by
  unfold evaluate
  simp only [hc, hsp, Option.map_some]
  cases rule.threshold <;> cases ctx'.setpoint <;> simp only [hv]

theorem evaluate_rateOfChange (hc : rule.condition = .rateOfChange)
    (hslope : ∀ w ∈ rule.windowS, st.history.map (slopePerHour · ctx.now w) =
      st'.history.map (slopePerHour · ctx'.now w)) :
    evaluate rule (some st) ctx = evaluate rule (some st') ctx' := by
  unfold evaluate
  simp only [hc, Option.bind_some, Option.map_some, hv]
  cases hw : rule.windowS with
  | none => simp
  | some w =>
    have hslope := hslope w hw
    cases hh : st.history with
    | none =>
      cases hh' : st'.history with
      | none => rfl
      | some h' => simp [hh, hh'] at hslope
    | some h =>
      cases hh' : st'.history with
      | none => simp [hh, hh'] at hslope
      | some h' =>
        have hslope : slopePerHour h ctx.now w = slopePerHour h' ctx'.now w := by
          simpa [hh, hh'] using hslope
        cases rule.threshold with
        | none => rfl
        | some threshold => simp only [hslope, hv]

end

theorem evaluate_flatline {rule : AlertRuleRow} (hc : rule.condition = .flatline) (st : SensorState)
    (ctx : EvalContext) : evaluate rule (some st) ctx =
      ⟨ctx.now - st.lastChangedAt > rule.windowMs, some st.lastValue⟩ := by
  unfold evaluate
  simp only [hc]

/-- **Flagged readings and value alarms.**  When the latest reading of a target is Good, it is judged alike
with and without the flagged readings if these leave the verdict untainted, and for all but
`rate_of_change` only then. -/
theorem flagged_unseen {alerts : List AlertRow} {setup : List Act} {s : Sys} {o₀ : List Obs}
    (hsetup : alerting.exec (.init alerts) setup = some (s, o₀)) (hnone : deliveries setup = [])
    {as as' : List Act} {s₁ s₂ : Sys} {o₁ o₂ : List Obs}
    (h₁ : alerting.exec s as = some (s₁, o₁)) (h₂ : alerting.exec s as' = some (s₂, o₂))
    (hsteady : ∀ a ∈ as, a.Steady) (hsteady' : ∀ a ∈ as', a.Steady)
    (hdel : deliveries as' = (deliveries as).filter fun d => isGood d.2)
    {target : RuleTarget} (hcond : target.rule.condition ∈ valueConditions) {now : ℤ}
    (hclock : target.rule.condition = .deviationFromSetpoint →
      (∀ a ∈ as, a.By now) ∧ ∀ a ∈ as', a.By now)
    {last : Reading} (hlast : (readingsOf target.sensor.id as).getLast? = some last)
    (hgood : last.quality = .good) :
    (Untainted target.rule (readingsOf target.sensor.id as) now →
      SameVerdict s₁.engine s₂.engine target now) ∧
    (target.rule.condition ≠ .rateOfChange → SameVerdict s₁.engine s₂.engine target now →
      Untainted target.rule (readingsOf target.sensor.id as) now) := by
  have hu := unread_of_exec setup (unread_init alerts) hnone hsetup
  have hlast' : (readingsOf target.sensor.id as').getLast? = some last := by
    obtain ⟨before, hrs⟩ := List.getLast?_eq_some_iff.mp hlast
    rw [readingsOf_good hdel, hrs, List.filter_append]
    simp [isGood, hgood]
  have hset₁ := exec_setting as hsteady h₁
  have hset₂ := exec_setting as' hsteady' h₂
  have hs₁ := exec_sensorState target.sensor.id as hsteady h₁
  have hs₂ := exec_sensorState target.sensor.id as' hsteady' h₂
  rw [hu.sensorState] at hs₁ hs₂
  obtain ⟨st₁, hst₁, hv₁, -, hq₁⟩ :=
    builtState_getLast (s.engine.needHistory target.sensor.id) hlast
  obtain ⟨st₂, hst₂, hv₂, -, hq₂⟩ :=
    builtState_getLast (s.engine.needHistory target.sensor.id) hlast'
  unfold SameVerdict
  let ctx₁ : EvalContext := ⟨now, (s₁.engine.setpointFor target.sensor now).1, s₁.engine.startedAt⟩
  let ctx₂ : EvalContext := ⟨now, (s₂.engine.setpointFor target.sensor now).1, s₂.engine.startedAt⟩
  have hj₁ : s₁.engine.judge target now = some (evaluate target.rule (some st₁) ctx₁) :=
    judge_eq (hs₁.trans hst₁) (hq₁.trans hgood)
  have hj₂ : s₂.engine.judge target now = some (evaluate target.rule (some st₂) ctx₂) :=
    judge_eq (hs₂.trans hst₂) (hq₂.trans hgood)
  have hv := hv₁.trans hv₂.symm
  rw [hj₁, hj₂]
  simp only [valueConditions, List.mem_cons, List.not_mem_nil, or_false] at hcond
  rcases hcond with hc | hc | hc | hc | hc
  · rw [evaluate_threshold ctx₁ ctx₂ hv (Or.inl hc)]
    simp [Untainted, hc]
  · rw [evaluate_threshold ctx₁ ctx₂ hv (Or.inr hc)]
    simp [Untainted, hc]
  · -- the setpoint compared with is the last Good one in both
    obtain ⟨hby, hby'⟩ := hclock hc
    have hlive (z : Uuid) : s₁.engine.liveAt z now = s₂.engine.liveAt z now := by
      rw [exec_liveAt z as hby h₁, exec_liveAt z as' hby' h₂, setpointsOf_good hdel]
    have hsp : (s₁.engine.setpointFor target.sensor now).1 =
        (s₂.engine.setpointFor target.sensor now).1 := by
      rw [setpointFor_fst, setpointFor_fst, hset₁.profileSetpoints, hset₂.profileSetpoints]
      simp only [hlive]
    rw [evaluate_deviation ctx₁ ctx₂ hv hc hsp]
    simp [Untainted, hc]
  · obtain ⟨t, ht⟩ := exists_lastMove (readingsOf target.sensor.id as) fun h => by simp [h] at hlast
    obtain ⟨t', ht'⟩ := exists_lastMove (readingsOf target.sensor.id as') fun h => by
      simp [h] at hlast'
    rw [evaluate_flatline hc, evaluate_flatline hc, ht.lastChangedAt hst₁, ht'.lastChangedAt hst₂]
    rw [readingsOf_good hdel] at ht'
    simp only [Untainted, hc, Option.map_some, Option.some.injEq, decide_eq_decide]
    refine ⟨fun hu => hu t t' ht ht', fun _ hsame u u' hu hu' => ?_⟩
    rw [hu.unique ht, hu'.unique ht']
    exact hsame
  · refine ⟨fun hold => ?_, fun hnot => absurd hc hnot⟩
    simp only [Untainted, hc] at hold
    rw [evaluate_rateOfChange ctx₁ ctx₂ hv hc]
    intro w hw
    have hh₁ := builtState_history (s.engine.needHistory target.sensor.id)
      (readingsOf target.sensor.id as)
    have hh₂ := builtState_history (s.engine.needHistory target.sensor.id)
      (readingsOf target.sensor.id as')
    rw [hst₁, if_neg fun h => by simp [h] at hlast] at hh₁
    rw [hst₂, if_neg fun h => by simp [h] at hlast'] at hh₂
    rw [show st₁.history = _ from hh₁, show st₂.history = _ from hh₂, readingsOf_good hdel]
    cases hneed : s.engine.needHistory target.sensor.id with
    | none => rfl
    | some need =>
      refine congrArg some (slopePerHour_congr (Eq.symm ?_))
      refine windowSamples_good (hu.windows _ need hneed) _ fun r hr hbad => ?_
      have := hold r hr hbad
      rwa [AlertRuleRow.windowMs, Option.mem_def.mp hw] at this

/-- A windowed rule on sensor 1. -/
def windowRule (id : Uuid) (condition : AlertCondition) (windowS : ℤ) (h : 0 < windowS) :
    AlertRuleRow where
  id := id
  tenantId := 1
  buildingId := none
  floorId := none
  zoneId := none
  equipmentId := none
  sensorId := some 1
  metric := none
  condition := condition
  threshold := some 2
  windowS := some windowS
  consecutiveBreaches := 1
  cooldownS := 0
  window_ck := by simpa using h
  breaches_ck := by decide
  cooldown_ck := by decide
  threshold_present := Or.inr rfl
  window_present := Or.inr rfl

/-- Unchanged for a minute. -/
def stuckRule : AlertRuleRow := windowRule 1 .flatline 60 (by decide)

/-- More than 2 K per hour over two minutes. -/
def steepRule : AlertRuleRow := windowRule 2 .rateOfChange 120 (by decide)

def airSensor : RegisteredSensor := ⟨1, 1, .temperatureC, none, some 1, none, none⟩

def airSetup : List Act :=
  [.start 0 fun _ => none, .refresh [stuckRule, steepRule] [airSensor], .ready]

/-- A reading of the sensor, handed over as it is taken. -/
def airReading (ts : ℤ) (value : ℚ) (quality : Quality) : Act :=
  .reading airSensor ⟨1, ts, value, quality⟩ ts

theorem flagged_unseen_airRun : ∃ s s₁ s₂ o₀ o₁ o₂,
    alerting.exec (.init []) airSetup = some (s, o₀) ∧
      alerting.exec s [airReading 1000 150 .outOfRange, airReading 200000 21 .good] = some (s₁, o₁) ∧
      alerting.exec s [airReading 200000 21 .good] = some (s₂, o₂) ∧
      SameVerdict s₁.engine s₂.engine ⟨steepRule, airSensor⟩ 210000 := by
  refine ⟨_, _, _, _, _, _, rfl, rfl, rfl,
    (flagged_unseen (show alerting.exec (.init []) airSetup = _ from rfl) rfl
      (show alerting.exec _ [airReading 1000 150 .outOfRange, airReading 200000 21 .good] = _ from rfl)
      (show alerting.exec _ [airReading 200000 21 .good] = _ from rfl) ?_ ?_ rfl (by decide)
      (fun h => by cases h) rfl rfl).1 ?_⟩
  · simp [airReading, Act.Steady]
  · simp [airReading, Act.Steady]
  · show ∀ r ∈ _, _
    decide

/-- A temperature that stands still, but for one flagged reading. -/
def stillRun : List Act :=
  [airReading 1000 21 .good, airReading 41000 150 .outOfRange, airReading 61000 21 .good]

/-- The flagged reading hides the flat line, and forges a slope. -/
theorem flagged_seen : ∃ s s₁ s₂ o₀ o₁ o₂,
    alerting.exec (.init []) airSetup = some (s, o₀) ∧ deliveries airSetup = [] ∧
      alerting.exec s stillRun = some (s₁, o₁) ∧
      alerting.exec s [airReading 1000 21 .good, airReading 61000 21 .good] = some (s₂, o₂) ∧
      deliveries [airReading 1000 21 .good, airReading 61000 21 .good] =
        (deliveries stillRun).filter (fun d => isGood d.2) ∧
      (readingsOf 1 stillRun).getLast? = some ⟨1, 61000, 21, .good⟩ ∧
      ¬ SameVerdict s₁.engine s₂.engine ⟨stuckRule, airSensor⟩ 62000 ∧
      ¬ SameVerdict s₁.engine s₂.engine ⟨steepRule, airSensor⟩ 62000 := by
  refine ⟨_, _, _, _, _, _, rfl, rfl, rfl, rfl, rfl, rfl, ?_, ?_⟩
  · unfold SameVerdict
    decide +kernel
  · unfold SameVerdict
    decide +kernel

end DTwin.Rules
