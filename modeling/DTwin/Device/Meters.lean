import DTwin.Device.Machine

/-!
# DTwin.Device.Meters — a meter does not lose or make up energy

Between any two readings of a counter, however the ticks fall, the clock steps and the faults come and go, the meter has
gained what its rate allows for the time between them (`meter_between`): nothing is lost while a sensor is offline, and
no fault that was shown gets into the counter.
-/

namespace DTwin.Device

open Control OrderedMap Machine

variable {cfg : Config} {now : ℤ} {draw : Uuid → ℕ → ℚ} {s s' : Sys} {sensor : RegisteredSensor} {h o : List Obs}

/-! ## The readings of one sensor -/

def Obs.readingOf (id : Uuid) : Obs → Option SimulatedReading
  | .emitted r => if r.sensor.id = id then some r else none
  | .answered .. => none

/-- The readings of a sensor, in order. -/
def readingsOf (id : Uuid) (h : List Obs) : List SimulatedReading := h.filterMap (Obs.readingOf id)

/-- One reading comes after another: not before its interval is over, with the counter moved on at a rate within its
bounds. -/
structure Follows (cfg : Config) (r r' : SimulatedReading) : Prop where
  later : intervalMs cfg r'.sensor ≤ ((r'.ts - r.ts : ℤ) : ℚ)
  atLeast : slowest r'.sensor.metric * ((r'.ts - r.ts : ℤ) / HOUR_MS) ≤ r'.accumulator - r.accumulator
  atMost : r'.accumulator - r.accumulator ≤ fastest r'.sensor.metric * ((r'.ts - r.ts : ℤ) / HOUR_MS)

/-- A counter shows what it has counted, unless a fault is applied. -/
def Shown (r : SimulatedReading) : Prop :=
  r.fault = none → counts r.sensor.metric = true → r.value = r.accumulator

theorem hour_pos : 0 < HOUR_MS := by norm_num [HOUR_MS]

theorem le_intervalMs (cfg : Config) (sensor : RegisteredSensor) : 200 ≤ intervalMs cfg sensor := le_max_left _ _

variable (cfg now sensor) in
theorem reading_accumulator (ctx : SimContext) (st : SensorState) (fault : Option Fault) (draw : ℕ → ℚ) :
    ∃ rate, slowest sensor.metric ≤ rate ∧ rate ≤ fastest sensor.metric ∧
      (reading cfg ctx sensor st fault now draw).accumulator = st.accumulator + rate * dtHours cfg sensor st now :=
  ⟨_, Moment.slowest_le_rate _ _, Moment.rate_le_fastest _ _, generate_accumulator _ _ _ _ _ _⟩

theorem reading_shown (ctx : SimContext) (st : SensorState) (fault : Option Fault) (draw : ℕ → ℚ) :
    Shown (reading cfg ctx sensor st fault now draw) := by
  rintro (rfl : fault = none) hcounts
  exact generate_value _ _ hcounts _ _ _

/-! ## Every run -/

/-- The state of a sensor is that of its last reading. -/
inductive Stands (st : Option SensorState) : List SimulatedReading → Prop
  | unread (hst : ∀ x ∈ st, x.lastEmit = 0) : Stands st []
  | read (l : List SimulatedReading) (r : SimulatedReading) (x : SensorState) (hst : st = some x)
    (hts : x.lastEmit = r.ts)
      (hpos : 0 < r.ts) (hacc : x.accumulator = r.accumulator) : Stands st (l ++ [r])

structure Metered (cfg : Config) (id : Uuid) (s : Sys) (h : List Obs) : Prop where
  stands : Stands (s.state id) (readingsOf id h)
  chain : (readingsOf id h).IsChain (Follows cfg)
  shown : ∀ r ∈ readingsOf id h, Shown r

variable {id : Uuid}

theorem readingsOf_append (h o : List Obs) : readingsOf id (h ++ o) = readingsOf id h ++ readingsOf id o :=
  List.filterMap_append

theorem readingsOf_cons {r : SimulatedReading} (hr : r.sensor.id = id) (h : List Obs) :
    readingsOf id (.emitted r :: h) = r :: readingsOf id h :=
  List.filterMap_cons_some (if_pos hr)

theorem readingsOf_emitted (r : SimulatedReading) :
    readingsOf id [.emitted r] = if r.sensor.id = id then [r] else [] := by
  simp only [readingsOf, List.filterMap_cons, Obs.readingOf, List.filterMap_nil]
  split_ifs <;> rfl

theorem Metered.same (hM : Metered cfg id s h) (hstate : s'.state id = s.state id) (ho : readingsOf id o = []) :
    Metered cfg id s' (h ++ o) := by
  have hsame : readingsOf id (h ++ o) = readingsOf id h := by rw [readingsOf_append, ho, List.append_nil]
  exact ⟨hsame ▸ hstate ▸ hM.stands, hsame ▸ hM.chain, hsame ▸ hM.shown⟩

/-- The state that is made when a sensor is first seen has no reading behind it. -/
theorem Stands.stateOf {l : List SimulatedReading} (hS : Stands (s.state sensor.id) l) :
    Stands (some (s.stateOf sensor)) l := by
  unfold Sys.stateOf
  cases hst : s.state sensor.id with
  | none =>
    rw [hst] at hS
    cases hS with
    | unread => exact .unread fun x hx => Option.some.inj hx ▸ rfl
    | read _ _ _ hnone => cases hnone
  | some x => exact hst ▸ hS

theorem now_pos {st : SensorState} (hzero : st.lastEmit = 0)
    (hdue : intervalMs cfg sensor ≤ ((now - st.lastEmit : ℤ) : ℚ)) : 0 < now := by
  have hlarge := (le_intervalMs cfg sensor).trans hdue
  rw [hzero, sub_zero] at hlarge
  exact_mod_cast lt_of_lt_of_le (by norm_num : (0 : ℚ) < 200) hlarge

/-- A reading that is due follows the one before it. -/
theorem Stands.follows {l : List SimulatedReading} {st : SensorState} (hS : Stands (some st) l)
    (hdue : intervalMs cfg sensor ≤ ((now - st.lastEmit : ℤ) : ℚ)) (ctx : SimContext) (fault : Option Fault)
    (draw : ℕ → ℚ) :
    0 < now ∧ ∀ r ∈ l.getLast?, Follows cfg r (reading cfg ctx sensor st fault now draw) := by
  cases hS with
  | unread hst => exact ⟨now_pos (hst st rfl) hdue, fun r hr => by cases hr⟩
  | read l r x hst hts hpos hacc =>
    obtain rfl := Option.some.inj hst
    have hlate : intervalMs cfg sensor ≤ ((now - r.ts : ℤ) : ℚ) := hts ▸ hdue
    have hgap : (0 : ℚ) < ((now - r.ts : ℤ) : ℚ) :=
      lt_of_lt_of_le (by norm_num) ((le_intervalMs cfg sensor).trans hlate)
    have hnow : r.ts < now := by
      have : (0 : ℤ) < now - r.ts := by exact_mod_cast hgap
      omega
    have hdt : dtHours cfg sensor st now = ((now - r.ts : ℤ) : ℚ) / HOUR_MS := by
      rw [dtHours, if_neg (by omega), hts]
    obtain ⟨rate, hslow, hfast, hacc'⟩ := reading_accumulator cfg now sensor ctx st fault draw
    have hnonneg : 0 ≤ ((now - r.ts : ℤ) : ℚ) / HOUR_MS := div_nonneg hgap.le hour_pos.le
    rw [hdt, hacc] at hacc'
    refine ⟨hpos.trans hnow, fun r' hr' => ?_⟩
    obtain rfl : r = r' := by simpa using hr'
    refine ⟨hlate, ?_, ?_⟩
    · rw [hacc', add_sub_cancel_left]
      exact mul_le_mul_of_nonneg_right hslow hnonneg
    · rw [hacc', add_sub_cancel_left]
      exact mul_le_mul_of_nonneg_right hfast hnonneg

theorem Metered.turn (hM : Metered cfg id s h) (hs : s.Turn cfg now draw sensor s' o) : Metered cfg id s' (h ++ o) := by
  by_cases hid : sensor.id = id
  · subst hid
    cases hs with
    | unknown => exact hM.same rfl rfl
    | silent hctx hnot =>
      have hsame : readingsOf sensor.id (h ++ []) = readingsOf sensor.id h := by rw [List.append_nil]
      refine ⟨?_, hsame ▸ hM.chain, hsame ▸ hM.shown⟩
      rw [hsame, show (s.withState sensor.id (s.stateOf sensor)).state sensor.id = some (s.stateOf sensor) from
        Function.update_self _ _ _]
      exact hM.stands.stateOf
    | emitted hctx hdue honline r hr =>
      have hnew : readingsOf sensor.id (h ++ [.emitted r]) = readingsOf sensor.id h ++ [r] := by
        rw [readingsOf_append, readingsOf_emitted, if_pos (by rw [hr]; rfl)]
      obtain ⟨hpos, hfollows⟩ := hM.stands.stateOf.follows hdue _ (s.faults sensor.id) (draw sensor.id)
      refine ⟨?_, ?_, ?_⟩
      · rw [hnew]
        subst hr
        exact .read _ _ _ (Function.update_self _ _ _) rfl hpos rfl
      · rw [hnew, List.isChain_append]
        refine ⟨hM.chain, List.isChain_singleton r, fun x hx y hy => ?_⟩
        obtain rfl := Option.some.inj hy
        exact hr ▸ hfollows x hx
      · intro x hx
        rw [hnew] at hx
        rcases List.mem_append.mp hx with hx | hx
        · exact hM.shown x hx
        · rw [List.mem_singleton.mp hx, hr]
          exact reading_shown _ _ _ _
  · cases hs with
    | unknown => exact hM.same rfl rfl
    | silent => exact hM.same (Function.update_of_ne (Ne.symm hid) _ _) rfl
    | emitted hctx hdue honline r hr =>
      refine hM.same (Function.update_of_ne (Ne.symm hid) _ _) ?_
      rw [readingsOf_emitted, if_neg (by rw [hr]; exact hid)]

theorem Metered.perform (hM : Metered cfg id s h) (a : Act) :
    Metered cfg id (s.perform cfg a).1 (h ++ (s.perform cfg a).2) := by
  cases a with
  | tick now draw => exact tickAll_hist (I := Metered cfg id) (fun hM hs => hM.turn hs) s.registry.all hM
  | polled tenantId overrides => exact hM.same rfl rfl
  | postFault tenantId sensorId kind magnitude now =>
    simp only [Sys.perform]
    split
    · exact hM.same rfl rfl
    · exact hM.same rfl rfl
  | deleteFault tenantId sensorId =>
    simp only [Sys.perform]
    split
    · exact hM.same rfl rfl
    · exact hM.same rfl rfl
  | deleteFaults tenantId => exact hM.same rfl rfl
  | refreshed registry => exact hM.same rfl rfl

theorem metered_of_reaches {ctx : Uuid → Option SimContext} {registry : Registry} {stored : Uuid → Option ℚ}
    (hrun : (device cfg).Reaches (.start ctx registry stored) s h) (id : Uuid) : Metered cfg id s h := by
  refine hrun.hist (I := Metered cfg id) (fun hM hs => ?_)
    ⟨.unread fun x hx => ?_, List.isChain_nil, fun _ hr => absurd hr List.not_mem_nil⟩
  · obtain ⟨rfl, rfl⟩ := Prod.mk.inj (Option.some.inj hs)
    exact hM.perform _
  · obtain ⟨sensor, -, rfl⟩ := Option.map_eq_some_iff.mp hx
    rfl

/-! ## Between two readings -/

/-- A counter's gain over a time, at a rate within its bounds. -/
structure Gains (metric : MetricType) (r r' : SimulatedReading) : Prop where
  later : r.ts < r'.ts
  atLeast : slowest metric * ((r'.ts - r.ts : ℤ) / HOUR_MS) ≤ r'.accumulator - r.accumulator
  atMost : r'.accumulator - r.accumulator ≤ fastest metric * ((r'.ts - r.ts : ℤ) / HOUR_MS)

theorem Follows.gains {r r' : SimulatedReading} (hF : Follows cfg r r') : Gains r'.sensor.metric r r' where
  later := by
    have hgap : (0 : ℚ) < ((r'.ts - r.ts : ℤ) : ℚ) :=
      lt_of_lt_of_le (by norm_num) ((le_intervalMs cfg r'.sensor).trans hF.later)
    have : (0 : ℤ) < r'.ts - r.ts := by exact_mod_cast hgap
    omega
  atLeast := hF.atLeast
  atMost := hF.atMost

theorem Gains.trans {metric : MetricType} {a b c : SimulatedReading} (h₁ : Gains metric a b) (h₂ : Gains metric b c) :
    Gains metric a c where
  later := h₁.later.trans h₂.later
  atLeast := by
    have heq : slowest metric * ((c.ts - a.ts : ℤ) / HOUR_MS) =
        slowest metric * ((b.ts - a.ts : ℤ) / HOUR_MS) + slowest metric * ((c.ts - b.ts : ℤ) / HOUR_MS) := by
      push_cast; ring
    have := h₁.atLeast
    have := h₂.atLeast
    linarith
  atMost := by
    have heq : fastest metric * ((c.ts - a.ts : ℤ) / HOUR_MS) =
        fastest metric * ((b.ts - a.ts : ℤ) / HOUR_MS) + fastest metric * ((c.ts - b.ts : ℤ) / HOUR_MS) := by
      push_cast; ring
    have := h₁.atMost
    have := h₂.atMost
    linarith

/-- Along readings of one metric, from the first to the last. -/
theorem gains_of_chain {metric : MetricType} : ∀ {r r' : SimulatedReading} {between : List SimulatedReading},
    (r :: (between ++ [r'])).IsChain (Follows cfg) → (∀ x ∈ between, x.sensor.metric = metric) →
      r'.sensor.metric = metric → Gains metric r r'
  | r, r', [], hchain, _, hlast => by
    rw [List.nil_append, List.isChain_cons_cons] at hchain
    exact hlast ▸ hchain.1.gains
  | r, r', x :: between, hchain, hmetric, hlast => by
    rw [List.cons_append, List.isChain_cons_cons] at hchain
    have hx : x.sensor.metric = metric := hmetric x List.mem_cons_self
    exact (hx ▸ hchain.1.gains).trans
      (gains_of_chain hchain.2 (fun y hy => hmetric y (List.mem_cons_of_mem x hy)) hlast)

/-- **Meters.**  Between two readings of a counter that no fault changes, whatever was shown in between and however long
the sensor was offline, the value has grown by what its rate allows for exactly that time. -/
theorem meter_between {ctx : Uuid → Option SimContext} {registry : Registry} {stored : Uuid → Option ℚ}
    (hrun : (device cfg).Reaches (.start ctx registry stored) s h) {before between after : List Obs}
    {r r' : SimulatedReading} (hh : h = before ++ .emitted r :: (between ++ .emitted r' :: after))
    (hid : r'.sensor.id = r.sensor.id) {metric : MetricType} (hcounts : counts metric = true)
    (hr : r.sensor.metric = metric ∧ r.fault = none) (hr' : r'.sensor.metric = metric ∧ r'.fault = none)
    (hmetric : ∀ x ∈ readingsOf r.sensor.id between, x.sensor.metric = metric) :
    r.ts < r'.ts ∧ slowest metric * ((r'.ts - r.ts : ℤ) / HOUR_MS) ≤ r'.value - r.value ∧
      r'.value - r.value ≤ fastest metric * ((r'.ts - r.ts : ℤ) / HOUR_MS) := by
  have hM := metered_of_reaches hrun r.sensor.id
  have hreadings : readingsOf r.sensor.id h = readingsOf r.sensor.id before ++
      (r :: (readingsOf r.sensor.id between ++ [r'])) ++ readingsOf r.sensor.id after := by
    rw [hh, readingsOf_append, readingsOf_cons rfl, readingsOf_append, readingsOf_cons hid]
    simp
  have hchain : (r :: (readingsOf r.sensor.id between ++ [r'])).IsChain (Follows cfg) := by
    have hall := hM.chain
    rw [hreadings, List.isChain_append, List.isChain_append] at hall
    exact hall.1.2.1
  have hG := gains_of_chain hchain hmetric hr'.1
  have hvalue : r.value = r.accumulator := hM.shown r (by rw [hreadings]; simp) hr.2 (hr.1 ▸ hcounts)
  have hvalue' : r'.value = r'.accumulator := hM.shown r' (by rw [hreadings]; simp) hr'.2 (hr'.1 ▸ hcounts)
  rw [hvalue, hvalue']
  exact ⟨hG.later, hG.atLeast, hG.atMost⟩

namespace Example

/-- At nine the sine is taken of 0. -/
def config : Config := ⟨10, ⟨fun _ => 0, fun _ _ => (9, 0, "Mon")⟩⟩

def mainMeter : RegisteredSensor := ⟨⟨7, 1, .energyKwh, none, none, none, none⟩, true, 60⟩

def registry : Registry := ⟨[mainMeter], List.nodup_singleton _⟩

def site : SimContext := ⟨"Asia/Riyadh", [], fun _ => none, fun _ => none, fun _ _ => none⟩

def building : Sys := .start (fun tenantId => if tenantId = 1 then some site else none) registry fun _ => none

/-- A spike is shown, then the meter is offline when it should report, then all is well. -/
def ticks : List Act :=
  [.tick 1704088800000 fun _ _ => 0, .postFault 1 7 .spike 3 1704088801000, .tick 1704088810000 fun _ _ => 0,
    .postFault 1 7 .offline 1 1704088811000, .tick 1704088820000 fun _ _ => 0, .deleteFault 1 7,
    .tick 1704088830000 fun _ _ => 0]

def clean (ts : ℤ) (value : ℚ) : SimulatedReading := ⟨mainMeter, value, ts, none, value⟩

def spiked : SimulatedReading :=
  ⟨mainMeter, 7031257087 / 1875, 1704088810000, some ⟨.spike, 3, 1704088801000⟩, 7031257087 / 5625⟩

theorem ticks_run : ∃ r ∈ (device config).exec building ticks,
    r.2 = [] ++ .emitted (clean 1704088800000 (18750007087 / 15000)) ::
      ([.answered 1 (.injected 7 .spike), .emitted spiked, .answered 1 (.injected 7 .offline),
        .answered 1 (.cleared true)] ++
        .emitted (clean 1704088830000 (3125007087 / 2500)) :: []) := by
  decide +kernel

end Example

theorem meter_between_ticks : ∃ s h, (device Example.config).Reaches Example.building s h ∧
    ∃ before between after r r', h = before ++ .emitted r :: (between ++ .emitted r' :: after) ∧
      r.value = 18750007087 / 15000 ∧ 219 * (30000 / HOUR_MS) ≤ r'.value - r.value ∧
      r'.value - r.value ≤ 440 * (30000 / HOUR_MS) := by
  obtain ⟨⟨s, h⟩, hr, hh⟩ := Example.ticks_run
  have hrun : (device Example.config).Reaches Example.building s h := ⟨_, hr⟩
  obtain ⟨-, hslow, hfast⟩ := meter_between hrun hh rfl (rfl : counts .energyKwh = true) ⟨rfl, rfl⟩ ⟨rfl, rfl⟩
    fun x hx => by
      change x ∈ [Example.spiked] at hx
      rw [List.mem_singleton.mp hx]
      rfl
  refine ⟨s, h, hrun, _, _, _, _, _, hh, rfl, ?_, ?_⟩
  · simpa [Example.clean, slowest] using hslow
  · simpa [Example.clean, fastest] using hfast

end DTwin.Device
