import DTwin.Rules.Steps
import Mathlib.Algebra.Order.Group.Unbundled.Abs
import Mathlib.Data.List.Chain
import Mathlib.Data.List.Induction

/-!
# DTwin.Rules.Readings — what a sequence of readings builds

While the rules in force stay as they are, whatever else happens:

* the state of a sensor is the fold of its readings (`exec_sensorState`): the latest is the last
  delivered (`builtState_concat`), `lastChangedAt` the instant of the last move (`LastMove.lastChangedAt`), the
  samples of a window those of the window as delivered (`windowSamples_retain`);
* a zone's live setpoint is the last Good setpoint reading, while fresh (`exec_liveAt`);
* a verdict depends on nothing else (`verdict_congr`), at whatever point of a pass over the targets it is
  formed (`foldl_judge`).
-/

namespace DTwin.Rules

open Machine

/-! ## The state of a sensor -/

theorem exec_setting : ∀ (as : List Act) {s s' : Sys} {o : List Obs}, (∀ a ∈ as, a.Steady) →
    alerting.exec s as = some (s', o) → Setting s.engine s'.engine
  | [], _, _, _, _, he => by
    cases he
    exact ⟨rfl, rfl, rfl, rfl⟩
  | a :: as, _, _, _, ha, he => by
    obtain ⟨s₁, o₁, o₂, hs, he', -⟩ := exec_cons_iff.mp he
    have h₁ := step_setting (ha a List.mem_cons_self) hs
    have h₂ := exec_setting as (fun b hb => ha b (List.mem_cons_of_mem a hb)) he'
    exact ⟨h₂.startedAt.trans h₁.startedAt, h₂.targets.trans h₁.targets,
      h₂.needHistory.trans h₁.needHistory, h₂.profileSetpoints.trans h₁.profileSetpoints⟩

/-- The state a sensor's readings build up. -/
def builtState (windowMs : Option ℤ) (prev : Option SensorState) (rs : List Reading) :
    Option SensorState :=
  rs.foldl (fun p r => some (nextState windowMs p r)) prev

/-- **What the engine knows of a sensor is the fold of its readings.** -/
theorem exec_sensorState (sensorId : Uuid) : ∀ (as : List Act) {s s' : Sys} {o : List Obs},
    (∀ a ∈ as, a.Steady) → alerting.exec s as = some (s', o) →
    s'.engine.sensorState sensorId =
      builtState (s.engine.needHistory sensorId) (s.engine.sensorState sensorId)
        (readingsOf sensorId as)
  | [], _, _, _, _, he => by
    cases he
    rfl
  | a :: as, s, s', o, ha, he => by
    obtain ⟨s₁, o₁, o₂, hs, he', -⟩ := exec_cons_iff.mp he
    rw [exec_sensorState sensorId as (fun b hb => ha b (List.mem_cons_of_mem a hb)) he',
      (step_setting (ha a List.mem_cons_self) hs).needHistory, step_sensorState hs, readingsOf,
      readingsOf, List.filterMap_cons]
    cases a.readingOf sensorId <;> rfl

theorem builtState_append (windowMs : Option ℤ) (prev : Option SensorState) (rs rs' : List Reading) :
    builtState windowMs prev (rs ++ rs') = builtState windowMs (builtState windowMs prev rs) rs' :=
  List.foldl_append

/-- The last reading delivered is taken for the latest. -/
theorem builtState_concat (windowMs : Option ℤ) (rs : List Reading) (r : Reading) :
    ∃ s, builtState windowMs none (rs ++ [r]) = some s ∧ s.lastValue = r.value ∧ s.lastTs = r.ts ∧
      s.lastQuality = r.quality := by
  rw [builtState_append]
  exact ⟨_, rfl, rfl, rfl, rfl⟩

theorem builtState_getLast (windowMs : Option ℤ) {rs : List Reading} {r : Reading}
    (hlast : rs.getLast? = some r) : ∃ s, builtState windowMs none rs = some s ∧
      s.lastValue = r.value ∧ s.lastTs = r.ts ∧ s.lastQuality = r.quality := by
  obtain ⟨before, rfl⟩ := List.getLast?_eq_some_iff.mp hlast
  exact builtState_concat windowMs before r

/-! ## The last move -/

/-- More than quantisation lies between two readings. -/
def Moved (a b : Reading) : Prop := |a.value - b.value| > flatlineEpsilon

/-- The readings last moved at `t`: then one differed from the one delivered before it, if any, and
none has since. -/
def LastMove (rs : List Reading) (t : ℤ) : Prop :=
  ∃ before r after, rs = before ++ r :: after ∧ r.ts = t ∧
    (∀ p ∈ before.getLast?, Moved p r) ∧ (r :: after).IsChain fun a b => ¬ Moved a b

theorem builtState_still (windowMs : Option ℤ) : ∀ (after : List Reading) {r : Reading}
    {p : SensorState}, (r :: after).IsChain (fun a b => ¬ Moved a b) → p.lastValue = r.value →
    ∃ s, builtState windowMs (some p) after = some s ∧ s.lastChangedAt = p.lastChangedAt
  | [], _, p, _, _ => ⟨p, rfl, rfl⟩
  | r' :: after, r, p, hstill, hp => by
    obtain ⟨hr, hstill⟩ := List.isChain_cons_cons.mp hstill
    obtain ⟨s, hs, hc⟩ := builtState_still windowMs after (p := nextState windowMs (some p) r') hstill
      rfl
    refine ⟨s, hs, hc.trans (if_neg ?_)⟩
    rw [hp]
    exact hr

/-- `lastChangedAt` is the instant of the last move. -/
theorem LastMove.lastChangedAt {rs : List Reading} {t : ℤ} (hm : LastMove rs t)
    {windowMs : Option ℤ} {s : SensorState} (hs : builtState windowMs none rs = some s) :
    s.lastChangedAt = t := by
  obtain ⟨before, r, after, rfl, rfl, hmove, hstill⟩ := hm
  rw [builtState_append] at hs
  obtain ⟨s', hs', hc⟩ := builtState_still windowMs after hstill
    (p := nextState windowMs (builtState windowMs none before) r) rfl
  obtain rfl : s' = s := Option.some.inj (hs'.symm.trans hs)
  rw [hc]
  cases hlast : before.getLast? with
  | none =>
    rw [List.getLast?_eq_none_iff.mp hlast]
    rfl
  | some p =>
    obtain ⟨q, hq, hv, -⟩ := builtState_getLast windowMs hlast
    rw [hq]
    refine if_pos ?_
    rw [hv]
    exact hmove p hlast

theorem exists_lastMove (rs : List Reading) (hne : rs ≠ []) : ∃ t, LastMove rs t := by
  induction rs using List.reverseRecOn with
  | nil => exact absurd rfl hne
  | append_singleton rs r ih =>
    by_cases hmove : ∀ p ∈ rs.getLast?, Moved p r
    · exact ⟨r.ts, rs, r, [], rfl, rfl, hmove, List.isChain_singleton r⟩
    · push Not at hmove
      obtain ⟨p, hp, hnot⟩ := hmove
      have hne' : rs ≠ [] := by
        rintro rfl
        cases hp
      obtain ⟨t, before, r', after, rfl, hts, hm, hstill⟩ := ih hne'
      refine ⟨t, before, r', after ++ [r], by simp, hts, hm, ?_⟩
      rw [← List.cons_append]
      refine hstill.append (List.isChain_singleton r) fun x hx y hy => ?_
      obtain rfl : r = y := by simpa using hy
      have hx' : (before ++ r' :: after).getLast? = some x := by
        rw [List.getLast?_append, hx]
        rfl
      obtain rfl : p = x := Option.some.inj (hp.symm.trans hx')
      exact hnot

theorem LastMove.getLast?_ne {rs : List Reading} {t : ℤ} (hm : LastMove rs t) :
    rs.getLast? ≠ none := by
  obtain ⟨before, r, after, rfl, -⟩ := hm
  simp

theorem LastMove.unique {rs : List Reading} {t t' : ℤ} (hm : LastMove rs t) (hm' : LastMove rs t') :
    t = t' := by
  obtain ⟨last, hlast⟩ := Option.ne_none_iff_exists'.mp hm.getLast?_ne
  obtain ⟨s, hs, -⟩ := builtState_getLast none hlast
  exact (hm.lastChangedAt hs).symm.trans (hm'.lastChangedAt hs)

/-! ## The samples of a window -/

/-- What the history has come to. -/
def historyOf (windowMs : ℤ) (rs : List Reading) : List Sample :=
  rs.foldl (fun h r => retain windowMs h ⟨r.ts, r.value⟩) []

theorem builtState_history (windowMs : Option ℤ) (rs : List Reading) :
    (builtState windowMs none rs).bind (·.history) =
      if rs = [] then none else windowMs.map (historyOf · rs) := by
  induction rs using List.reverseRecOn with
  | nil => rfl
  | append_singleton rs r ih =>
    rw [builtState_append, if_neg (by simp)]
    show (nextState windowMs (builtState windowMs none rs) r).history = _
    cases windowMs with
    | none =>
      show (builtState none none rs).bind (·.history) = none
      rw [ih]
      split <;> rfl
    | some w =>
      show some (retain w (((builtState (some w) none rs).bind (·.history)).getD []) _) = _
      rw [ih]
      by_cases hrs : rs = []
      · subst hrs
        rfl
      · simp [hrs, historyOf]

theorem filter_dropWhile {α : Type*} {p q : α → Bool} (hpq : ∀ x, p x = false → q x = true) :
    ∀ l : List α, (l.dropWhile q).filter p = (l.filter p).dropWhile q
  | [] => rfl
  | x :: l => by
    cases hp : p x with
    | false => simp [hp, hpq x hp, filter_dropWhile hpq l]
    | true =>
      cases hq : q x with
      | false => simp [hp, hq]
      | true => simp [hp, hq, filter_dropWhile hpq l]

theorem filter_dropWhile_of_disjoint {α : Type*} {p q : α → Bool}
    (hpq : ∀ x, q x = true → p x = false) :
    ∀ l : List α, (l.dropWhile q).filter p = l.filter p
  | [] => rfl
  | x :: l => by
    cases hq : q x with
    | false => simp [hq]
    | true => simp [hq, hpq x hq, filter_dropWhile_of_disjoint hpq l]

/-- A sample older than the window changes nothing in it. -/
theorem windowSamples_retain_old {w : ℤ} (hw : 0 ≤ w) (history : List Sample) {sample : Sample}
    {now windowS : ℤ} (hold : now - sample.ts > windowS * 1000) :
    windowSamples (retain w history sample) now windowS = windowSamples history now windowS := by
  unfold windowSamples retain
  rw [filter_dropWhile_of_disjoint, List.filter_append]
  · have hout : ¬ now - sample.ts ≤ windowS * 1000 := by omega
    rw [List.filter_singleton, decide_eq_false hout, cond_false, List.append_nil]
  · intro x hx
    simp only [decide_eq_true_eq, decide_eq_false_iff_not] at hx ⊢
    omega

/-- What a sample does to the window depends on the window alone. -/
theorem windowSamples_retain {w : ℤ} {history history' : List Sample} (sample : Sample)
    {now windowS : ℤ}
    (hsame : windowSamples history now windowS = windowSamples history' now windowS) :
    windowSamples (retain w history sample) now windowS =
      windowSamples (retain w history' sample) now windowS := by
  unfold windowSamples retain at *
  -- the retention either cuts before the window begins, or cuts all that lies before it
  by_cases hcut : sample.ts - w ≤ now - windowS * 1000
  · have hdisj : ∀ x : Sample, decide (x.ts < sample.ts - w) = true →
        decide (now - x.ts ≤ windowS * 1000) = false := by
      intro x hx
      simp only [decide_eq_true_eq, decide_eq_false_iff_not] at hx ⊢
      omega
    rw [filter_dropWhile_of_disjoint hdisj, filter_dropWhile_of_disjoint hdisj, List.filter_append,
      List.filter_append, hsame]
  · have hall : ∀ x : Sample, decide (now - x.ts ≤ windowS * 1000) = false →
        decide (x.ts < sample.ts - w) = true := by
      intro x hx
      simp only [decide_eq_true_eq, decide_eq_false_iff_not] at hx ⊢
      omega
    rw [filter_dropWhile hall, filter_dropWhile hall, List.filter_append, List.filter_append, hsame]

/-! ## The live setpoint -/

/-- The live setpoint of a zone, as `#liveSetpointFor` would answer at `t`. -/
def Engine.liveAt (e : Engine) (zoneId : Uuid) (t : ℤ) : Option ℚ :=
  (e.liveSetpoints zoneId).bind (·.freshAt t)

theorem setpointFor_fst (e : Engine) (sensor : RegisteredSensor) (now : ℤ) :
    (e.setpointFor sensor now).1 =
      sensor.zoneId.bind fun z => (e.liveAt z now).or (e.profileSetpoints z) := by
  unfold Engine.setpointFor
  cases sensor.zoneId with
  | none => rfl
  | some z =>
    show (liveSetpointFor e.liveSetpoints z now).1.or _ = (e.liveAt z now).or _
    congr 1
    unfold liveSetpointFor Engine.liveAt
    cases e.liveSetpoints z with
    | none => rfl
    | some held => cases hf : held.freshAt now <;> simp [hf]

theorem freshAt_of_stale {held : LiveSetpoint} {now t : ℤ} (hstale : held.freshAt now = none)
    (ht : now ≤ t) : held.freshAt t = none := by
  unfold LiveSetpoint.freshAt at *
  split_ifs at hstale with h
  rw [if_pos]
  omega

/-- Asking for a setpoint evicts only what is stale for good. -/
theorem setpointFor_liveAt (e : Engine) (sensor : RegisteredSensor) {now t : ℤ} (ht : now ≤ t)
    (zoneId : Uuid) :
    Engine.liveAt { e with liveSetpoints := (e.setpointFor sensor now).2 } zoneId t =
      e.liveAt zoneId t := by
  unfold Engine.liveAt Engine.setpointFor
  cases sensor.zoneId with
  | none => rfl
  | some z =>
    show (((liveSetpointFor e.liveSetpoints z now).2) zoneId).bind _ = _
    unfold liveSetpointFor
    cases hz : e.liveSetpoints z with
    | none => rfl
    | some held =>
      cases hf : held.freshAt now with
      | some v => simp [hf]
      | none =>
        by_cases hzone : zoneId = z
        · subst hzone
          simp [hf, hz, freshAt_of_stale hf ht]
        · simp [hf, hzone]

theorem debounce_liveSetpoints (e : Engine) (target : RuleTarget) (v : Verdict) (now : ℤ) :
    (e.debounce target v now).liveSetpoints = e.liveSetpoints := by
  have hens : (e.ensure target.key).1.liveSetpoints = e.liveSetpoints := by
    unfold Engine.ensure
    split <;> rfl
  unfold Engine.debounce
  dsimp only
  split_ifs
  · exact hens
  · exact hens
  · unfold Engine.startOpen
    split <;> exact hens
  · exact hens
  · exact hens
  · unfold Engine.startClose
    split
    · exact hens
    · split <;> exact hens

theorem evaluateTarget_liveAt (e : Engine) (target : RuleTarget) (state : Option SensorState)
    {now t : ℤ} (ht : now ≤ t) (zoneId : Uuid) :
    (e.evaluateTarget target state now).liveAt zoneId t = e.liveAt zoneId t := by
  unfold Engine.evaluateTarget
  split
  · rfl
  · rw [← setpointFor_liveAt e target.sensor ht, Engine.liveAt, debounce_liveSetpoints]
    rfl

theorem foldl_liveAt (state : Engine → RuleTarget → Option SensorState) {now t : ℤ} (ht : now ≤ t)
    (zoneId : Uuid) : ∀ (targets : List RuleTarget) (e : Engine),
      (targets.foldl (fun e t => e.evaluateTarget t (state e t) now) e).liveAt zoneId t =
        e.liveAt zoneId t
  | [], _ => rfl
  | u :: targets, e => by
    rw [List.foldl_cons, foldl_liveAt state ht zoneId targets, evaluateTarget_liveAt _ _ _ ht]

theorem adopt_liveSetpoints : ∀ (live : List (Key × Uuid)) (e : Engine),
    (e.adopt live).liveSetpoints = e.liveSetpoints
  | [], _ => rfl
  | l :: live, e => adopt_liveSetpoints live (e.adoptOne l)

/-- The live setpoint a step brings a zone. -/
def Act.setpointOf (zoneId : Uuid) : Act → Option LiveSetpoint
  | .reading sensor r _ =>
    if sensor.zoneId = some zoneId ∧ sensor.metric = .setpointTempC ∧ r.quality = .good then
      some ⟨r.value, r.ts⟩
    else none
  | _ => none

/-- A step that reads the clock reads at most `t`. -/
def Act.By (t : ℤ) : Act → Prop
  | .reading _ _ now => now ≤ t
  | .sweep now => now ≤ t
  | _ => True

theorem step_liveAt {s s' : Sys} {a : Act} {o : List Obs} {t : ℤ} (ha : a.By t)
    (hs : step s a = some (s', o)) (zoneId : Uuid) :
    s'.engine.liveAt zoneId t =
      ((a.setpointOf zoneId).map (·.freshAt t)).getD (s.engine.liveAt zoneId t) := by
  have he := step_engineStep hs
  cases a with
  | start now profileSetpoints =>
    rw [Engine.liveAt, he.2]
    rfl
  | refresh rules registry =>
    rw [show s'.engine = s.engine.refresh rules registry from he]
    rfl
  | adopt =>
    obtain ⟨live, -, he⟩ := he
    rw [Engine.liveAt, he, adopt_liveSetpoints]
    rfl
  | sweep now =>
    rw [show s'.engine = s.engine.sweep now from he, Engine.sweep, foldl_liveAt _ ha]
    rfl
  | reading sensor reading now =>
    rw [show s'.engine = s.engine.onReading sensor reading now from he, Engine.onReading,
      foldl_liveAt (fun _ _ => _) ha]
    unfold Engine.liveAt Engine.record nextSetpoint Act.setpointOf
    cases hz : sensor.zoneId with
    | none => simp [hz]
    | some z =>
      by_cases hgood : sensor.metric = .setpointTempC ∧ reading.quality = .good
      · by_cases hzone : zoneId = z
        · subst hzone
          simp [hz, hgood]
        · simp [hz, hgood, hzone, Ne.symm hzone]
      · simp [hz, hgood]
  | _ =>
    have hcalm : Calm s.engine s'.engine := he
    rw [Engine.liveAt, hcalm.liveSetpoints]
    rfl

/-- The Good setpoint readings of a zone delivered in a run. -/
def setpointsOf (zoneId : Uuid) (as : List Act) : List LiveSetpoint :=
  as.filterMap (Act.setpointOf zoneId)

/-- **A zone's live setpoint is the last Good setpoint reading delivered, while it is fresh.** -/
theorem exec_liveAt (zoneId : Uuid) {t : ℤ} : ∀ (as : List Act) {s s' : Sys} {o : List Obs},
    (∀ a ∈ as, a.By t) → alerting.exec s as = some (s', o) →
    s'.engine.liveAt zoneId t =
      ((setpointsOf zoneId as).getLast?.map (·.freshAt t)).getD (s.engine.liveAt zoneId t)
  | [], _, _, _, _, he => by
    cases he
    rfl
  | a :: as, s, s', o, ha, he => by
    obtain ⟨s₁, o₁, o₂, hs, he', -⟩ := exec_cons_iff.mp he
    rw [exec_liveAt zoneId as (fun b hb => ha b (List.mem_cons_of_mem a hb)) he',
      step_liveAt (ha a List.mem_cons_self) hs, setpointsOf, setpointsOf, List.filterMap_cons]
    cases a.setpointOf zoneId with
    | none => rfl
    | some sp =>
      rw [List.getLast?_cons]
      cases (as.filterMap (Act.setpointOf zoneId)).getLast? <;> simp

/-! ## Verdicts -/

/-- What a target is judged to be at `now`. -/
def Engine.judge (e : Engine) (target : RuleTarget) (now : ℤ) : Option Verdict :=
  e.verdict target (e.sensorState target.sensor.id) now

/-- A verdict looks at the rules in force and the live setpoint of the moment. -/
theorem verdict_congr {e e' : Engine} (hset : Setting e e') {now : ℤ}
    (hlive : ∀ z, e'.liveAt z now = e.liveAt z now) (target : RuleTarget)
    (state : Option SensorState) : e'.verdict target state now = e.verdict target state now := by
  unfold Engine.verdict
  rw [setpointFor_fst, setpointFor_fst, hset.startedAt, hset.profileSetpoints]
  simp only [hlive]

/-- **Every evaluation is a judgement.**  At its turn in a pass over the targets (of `sweep`, or of
`onReading` once the reading is recorded) a target is judged as it would be before the pass, and after
it. -/
theorem foldl_judge (state : Engine → RuleTarget → Option SensorState) (now : ℤ)
    (targets : List RuleTarget) (e : Engine) (target : RuleTarget) :
    (targets.foldl (fun e t => e.evaluateTarget t (state e t) now) e).judge target now =
      e.judge target now := by
  have hf := frame_foldl state now targets e
  unfold Engine.judge
  rw [hf.sensorState]
  exact verdict_congr hf.setting (fun z => foldl_liveAt state le_rfl z targets e) target _

end DTwin.Rules
