import Mathlib.Algebra.BigOperators.Intervals
import Mathlib.Algebra.BigOperators.Pi
import Mathlib.Algebra.Order.Ring.Rat
import Mathlib.Data.Rat.Cast.Order
import Mathlib.Tactic.FieldSimp
import Mathlib.Tactic.Linarith
import DTwin.Sim.Timeline

/-!
# DTwin.Sim.Accounting — which substep goes into which row

`run` walks two timelines with one index: the stamps of the substeps, and the starts of the intervals, each of which
takes the next `substeps_per_interval` stamps.  The physics of a substep is a parameter (`Building`), so that what is
proved is about the walk; powers are exact, and the sums of `acc` are rounded by `rnd`, or exact (`run`).  `run_eq` is
what the loop computes; `accounted_iff` compares it with what the rows are to mean.
-/

namespace DTwin.Sim

open Finset

/-- What `integrate_substep` gives `run` of one substep, a figure for each zone. -/
structure StepResult (ι : Type) where
  temperature : ι → ℚ
  latentMetW : ι → ℚ
  fanW : ι → ℚ
  coilW : ι → ℚ
  heatingNetW : ι → ℚ
  qSolarW : ι → ℚ
  qLightW : ι → ℚ
  qEquipW : ι → ℚ
  qPeopleW : ι → ℚ
  qEnvelopeW : ι → ℚ
  qVentilationW : ι → ℚ
  occupants : ι → ℚ

/-- What `run` has prepared before its loop: the zones and their arrays, and the physics of a substep from the
temperatures before it and the index of its stamp (weather, irradiance and schedule are read at that index). -/
structure Building (ι : Type) where
  zones : List ι
  integrateSubstep : (ι → ℚ) → ℕ → StepResult ι
  occupancyFraction : ℕ → ι → ℚ
  cop : ι → ℚ
  heatingCop : ι → ℚ
  setpoint : ι → ℚ
  lower : ι → ℚ
  upper : ι → ℚ
  carbonFactor : ℚ

/-- The keys of `acc`. -/
inductive Key
  | hvac | light | plug | solar | internal | envelope | ventilation | unmet | occupants | temp | latent | fan
  deriving DecidableEq

/-- A row of `simulation_results`, of one zone and one interval. -/
structure ResultRow (ι : Type) where
  zoneId : ι
  intervalStart : Instant
  hvacLoadKwh : ℚ
  lightingKwh : ℚ
  plugKwh : ℚ
  totalKwh : ℚ
  co2Kg : ℚ
  peakDemandKw : ℚ
  indoorTempC : ℚ
  solarGainKwh : ℚ
  internalGainKwh : ℚ
  envelopeLossKwh : ℚ
  ventilationLossKwh : ℚ
  occupancyCount : ℚ
  unmetHours : ℚ
  latentLoadKwh : ℚ
  fanLoadKwh : ℚ

/-- The fields of a `SimulationRequest` that bound the work, as its validators leave them. -/
structure SimulationRequest where
  periodStart : Instant
  periodEnd : Instant
  intervalS : ℤ
  minInterval : 60 ≤ intervalS
  maxInterval : intervalS ≤ 86400
  ordered : periodStart < periodEnd
  maxIntervals : periodEnd - periodStart ≤ 40000 * seconds intervalS

structure Settings where
  substepS : ℤ
  maxCells : ℕ

/-- How `run` can end without rows. -/
inductive Failure
  | noZones
  /-- `intervalS // 0`. -/
  | zeroDivision
  /-- `_timeline` with a negative step. -/
  | neverEnds
  | tooManyCells
  deriving DecidableEq

namespace Building

variable {ι : Type} (b : Building ι)

def unmetTolerance : ℚ := 1 / 2

/-- What the substep at stamp `i` adds to `acc`. -/
def contribution (dt : ℚ) (i : ℕ) (step : StepResult ι) : Key → ι → ℚ := fun key z =>
  let kwh := dt / 3600000
  match key with
  | .fan => step.fanW z * kwh
  | .hvac => (step.coilW z / b.cop z + step.heatingNetW z / b.heatingCop z + step.fanW z) * kwh
  | .latent => step.latentMetW z / b.cop z * kwh
  | .light => step.qLightW z * kwh
  | .plug => step.qEquipW z * kwh
  | .solar => step.qSolarW z * kwh
  | .internal => (step.qLightW z + step.qEquipW z + step.qPeopleW z) * kwh
  | .envelope => step.qEnvelopeW z * kwh
  | .ventilation => step.qVentilationW z * kwh
  | .unmet =>
    if 5 / 100 < b.occupancyFraction i z ∧ (b.upper z + unmetTolerance < step.temperature z ∨
      step.temperature z < b.lower z - unmetTolerance) then dt / 3600 else 0
  | .occupants => step.occupants z
  | .temp => step.temperature z

/-- The variables of the two loops. -/
structure Loop (ι : Type) where
  temperature : ι → ℚ
  stepIndex : ℕ
  acc : Key → ι → ℚ
  stepsDone : ℕ

/-- `acc[key] += …`, for every key. -/
def accumulate (rnd : ℚ → ℚ) (acc added : Key → ι → ℚ) : Key → ι → ℚ := fun key z => rnd (acc key z + rnd (added key z))

/-- One pass of the inner loop. -/
def substep (rnd : ℚ → ℚ) (dt : ℚ) (l : Loop ι) : Loop ι :=
  let step := b.integrateSubstep l.temperature l.stepIndex
  { temperature := step.temperature
    stepIndex := l.stepIndex + 1
    acc := accumulate rnd l.acc (b.contribution dt l.stepIndex step)
    stepsDone := l.stepsDone + 1 }

/-- `for _ in range(n)`, until the stamps run out. -/
def substeps (rnd : ℚ → ℚ) (dt : ℚ) (nSteps : ℕ) : ℕ → Loop ι → Loop ι
  | 0, l => l
  | n + 1, l => if nSteps ≤ l.stepIndex then l else substeps rnd dt nSteps n (b.substep rnd dt l)

/-- The row of zone `z`: what the interval has accumulated. -/
def row (intervalHours : ℚ) (intervalStart : Instant) (acc : Key → ι → ℚ) (stepsDone : ℕ) (z : ι) : ResultRow ι :=
  let totalKwh := acc .hvac z + acc .light z + acc .plug z
  { zoneId := z
    intervalStart
    hvacLoadKwh := acc .hvac z
    lightingKwh := acc .light z
    plugKwh := acc .plug z
    totalKwh
    co2Kg := totalKwh * b.carbonFactor
    peakDemandKw := totalKwh / intervalHours
    indoorTempC := acc .temp z / stepsDone
    solarGainKwh := acc .solar z
    internalGainKwh := acc .internal z
    envelopeLossKwh := acc .envelope z
    ventilationLossKwh := acc .ventilation z
    occupancyCount := acc .occupants z / stepsDone
    unmetHours := acc .unmet z
    latentLoadKwh := acc .latent z
    fanLoadKwh := acc .fan z }

/-- The outer loop from an interval on: the rows it writes, and the index it ends with. -/
def intervals (rnd : ℚ → ℚ) (dt intervalHours : ℚ) (nSteps substepsPerInterval : ℕ) :
    List Instant → (ι → ℚ) → ℕ → List (ResultRow ι) × ℕ
  | [], _, stepIndex => ([], stepIndex)
  | start :: starts, temperature, stepIndex =>
    let l := b.substeps rnd dt nSteps substepsPerInterval { temperature, stepIndex, acc := 0, stepsDone := 0 }
    if l.stepsDone = 0 then ([], l.stepIndex) else
    let rest := intervals rnd dt intervalHours nSteps substepsPerInterval starts l.temperature l.stepIndex
    (b.zones.map (b.row intervalHours start l.acc l.stepsDone) ++ rest.1, rest.2)

end Building

/-- `min(settings.substep_s, request.intervalS)`. -/
def substepS (settings : Settings) (request : SimulationRequest) : ℤ := min settings.substepS request.intervalS

/-- `max(1, request.intervalS // substep_s)`. -/
def substepsPerInterval (settings : Settings) (request : SimulationRequest) : ℕ :=
  (max 1 (request.intervalS / substepS settings request)).toNat

/-- `run`: the rows written and how many stamps were integrated. -/
def runIn {ι : Type} (rnd : ℚ → ℚ) (settings : Settings) (request : SimulationRequest) (b : Building ι) :
    Except Failure (List (ResultRow ι) × ℕ) :=
  if b.zones = [] then .error .noZones else
  if substepS settings request = 0 then .error .zeroDivision else
  match timeline request.periodStart request.periodEnd (seconds request.intervalS),
    timeline request.periodStart request.periodEnd (seconds (substepS settings request)) with
  | some intervalStarts, some stepStamps =>
    if settings.maxCells < b.zones.length * stepStamps.length then .error .tooManyCells else
    .ok (b.intervals rnd (substepS settings request) (request.intervalS / 3600) stepStamps.length
      (substepsPerInterval settings request) intervalStarts b.setpoint 0)
  | _, _ => .error .neverEnds

/-- The same with exact sums. -/
def run {ι : Type} (settings : Settings) (request : SimulationRequest) (b : Building ι) :
    Except Failure (List (ResultRow ι) × ℕ) :=
  runIn id settings request b

/-! ### What the loops compute -/

namespace Building

variable {ι : Type} (b : Building ι)

/-- The temperatures before the substep at stamp `i` when the stamps are integrated in order. -/
def trajectory : ℕ → ι → ℚ
  | 0 => b.setpoint
  | i + 1 => (b.integrateSubstep (trajectory i) i).temperature

/-- What stamp `i` adds when the stamps are integrated in order: power times `dt`. -/
def added (dt : ℚ) (i : ℕ) : Key → ι → ℚ := b.contribution dt i (b.integrateSubstep (b.trajectory i) i)

/-- A loop that has integrated the stamps before its index. -/
def Loop.at (acc : Key → ι → ℚ) (stepsDone i : ℕ) : Loop ι :=
  { temperature := b.trajectory i, stepIndex := i, acc, stepsDone }

/-- What `n` stamps from `i` on add to `acc`. -/
def accumulated (rnd : ℚ → ℚ) (dt : ℚ) (acc : Key → ι → ℚ) (i n : ℕ) : Key → ι → ℚ :=
  (List.range' i n).foldl (fun acc j => accumulate rnd acc (b.added dt j)) acc

theorem accumulated_succ (rnd : ℚ → ℚ) (dt : ℚ) (acc : Key → ι → ℚ) (i n : ℕ) :
    b.accumulated rnd dt acc i (n + 1) = b.accumulated rnd dt (accumulate rnd acc (b.added dt i)) (i + 1) n := by
  unfold accumulated
  rw [List.range'_succ, List.foldl_cons]

/-- The stamps one after the other, from the last. -/
theorem accumulated_succ' (rnd : ℚ → ℚ) (dt : ℚ) (acc : Key → ι → ℚ) (i n : ℕ) :
    b.accumulated rnd dt acc i (n + 1) = accumulate rnd (b.accumulated rnd dt acc i n) (b.added dt (i + n)) := by
  unfold accumulated
  rw [List.range'_concat, Nat.one_mul, List.foldl_append, List.foldl_cons, List.foldl_nil]

theorem accumulated_id (dt : ℚ) (acc : Key → ι → ℚ) (i n : ℕ) :
    b.accumulated id dt acc i n = acc + ∑ j ∈ Ico i (i + n), b.added dt j := by
  induction n with
  | zero => simp [accumulated]
  | succ n ih =>
    rw [accumulated_succ', ih, ← Nat.add_assoc, Finset.sum_Ico_succ_top (Nat.le_add_right i n), ← add_assoc]
    rfl

/-- **The inner loop** takes the next `n` stamps, or those that are left. -/
theorem substeps_eq (rnd : ℚ → ℚ) (dt : ℚ) {nSteps i : ℕ} (hi : i ≤ nSteps) (n : ℕ) (acc : Key → ι → ℚ)
    (stepsDone : ℕ) :
    b.substeps rnd dt nSteps n (Loop.at b acc stepsDone i) =
      Loop.at b (b.accumulated rnd dt acc i (min (i + n) nSteps - i)) (stepsDone + (min (i + n) nSteps - i))
        (min (i + n) nSteps) := by
  induction n generalizing i acc stepsDone with
  | zero => simp [substeps, accumulated, min_eq_left hi]
  | succ n ih =>
    rw [substeps]
    by_cases hend : nSteps ≤ i
    · obtain rfl : i = nSteps := le_antisymm hi hend
      simp [Loop.at, accumulated]
    · have hlt : i < nSteps := not_le.mp hend
      have hstep : b.substep rnd dt (Loop.at b acc stepsDone i) =
        Loop.at b (accumulate rnd acc (b.added dt i)) (stepsDone + 1) (i + 1) := rfl
      have hmin : min (i + 1 + n) nSteps = min (i + (n + 1)) nSteps := by rw [Nat.add_assoc, Nat.add_comm 1 n]
      have hle : i < min (i + (n + 1)) nSteps := by omega
      have hlen : min (i + (n + 1)) nSteps - i = min (i + (n + 1)) nSteps - (i + 1) + 1 := by omega
      rw [if_neg (by exact hend), hstep, ih hlt, hmin, hlen, accumulated_succ]
      congr 1
      omega

/-- The rows of interval `j`. -/
def rowsIn (rnd : ℚ → ℚ) (dt intervalHours : ℚ) (nSteps perInterval : ℕ) (start : ℕ → Instant) (j : ℕ) :
    List (ResultRow ι) :=
  b.zones.map (b.row intervalHours (start j)
    (b.accumulated rnd dt 0 (j * perInterval) (min ((j + 1) * perInterval) nSteps - j * perInterval))
    (min ((j + 1) * perInterval) nSteps - j * perInterval))

/-- The same with exact sums. -/
def rowsOf (dt intervalHours : ℚ) (nSteps perInterval : ℕ) (start : ℕ → Instant) (j : ℕ) : List (ResultRow ι) :=
  b.zones.map (b.row intervalHours (start j)
    (∑ i ∈ Ico (j * perInterval) (min ((j + 1) * perInterval) nSteps), b.added dt i)
    (min ((j + 1) * perInterval) nSteps - j * perInterval))

theorem rowsIn_id (dt intervalHours : ℚ) (nSteps perInterval : ℕ) (start : ℕ → Instant) (j : ℕ) :
    b.rowsIn id dt intervalHours nSteps perInterval start j = b.rowsOf dt intervalHours nSteps perInterval start j := by
  have hIco : Ico (j * perInterval) (j * perInterval + (min ((j + 1) * perInterval) nSteps - j * perInterval)) =
      Ico (j * perInterval) (min ((j + 1) * perInterval) nSteps) := by
    ext i
    rw [mem_Ico, mem_Ico]
    omega
  unfold rowsIn rowsOf
  rw [accumulated_id, zero_add, hIco]

/-- **The outer loop** gives interval `j` the stamps from `j * perInterval` on, while there are any. -/
theorem intervals_eq (rnd : ℚ → ℚ) (dt intervalHours : ℚ) (nSteps : ℕ) {perInterval : ℕ} (hper : 0 < perInterval)
    (start : ℕ → Instant) (len j : ℕ) (hj : ∀ j' < j + len, j' * perInterval < nSteps) :
    b.intervals rnd dt intervalHours nSteps perInterval ((List.range' j len).map start)
        (b.trajectory (min (j * perInterval) nSteps)) (min (j * perInterval) nSteps) =
      ((List.range' j len).flatMap (b.rowsIn rnd dt intervalHours nSteps perInterval start),
        min ((j + len) * perInterval) nSteps) := by
  induction len generalizing j with
  | zero => simp [intervals]
  | succ len ih =>
    have hlt : j * perInterval < nSteps := hj j (by omega)
    have hmin : min (j * perInterval) nSteps = j * perInterval := min_eq_left hlt.le
    have hsucc : (j + 1) * perInterval = j * perInterval + perInterval := by ring
    have hloop := b.substeps_eq rnd dt hlt.le perInterval 0 0
    have hpos : 0 < min ((j + 1) * perInterval) nSteps - j * perInterval := by omega
    have ih' := ih (j + 1) fun j' hj' => hj j' (by omega)
    rw [← hsucc, zero_add] at hloop
    have hstart : (Loop.mk (b.trajectory (j * perInterval)) (j * perInterval) 0 0 : Loop ι) =
        Loop.at b 0 0 (j * perInterval) := rfl
    rw [List.range'_succ, List.map_cons, intervals, hmin, hstart, hloop, if_neg (by exact hpos.ne')]
    simp only [Loop.at, ih', List.flatMap_cons, rowsIn, Prod.mk.injEq, true_and]
    rw [show j + 1 + len = j + (len + 1) by omega]

end Building

section Run

variable (settings : Settings) (request : SimulationRequest)

/-- The number of intervals, and of stamps. -/
def nIntervals : ℕ := count request.periodStart request.periodEnd (seconds request.intervalS)

def nSteps : ℕ := count request.periodStart request.periodEnd (seconds (substepS settings request))

def intervalStart (j : ℕ) : Instant := request.periodStart + j * seconds request.intervalS

def stamp (i : ℕ) : Instant := request.periodStart + i * seconds (substepS settings request)

variable {settings request}

theorem substepS_le : substepS settings request ≤ request.intervalS := min_le_right _ _

theorem substepS_pos_iff : 0 < substepS settings request ↔ 0 < settings.substepS := by
  have := request.minInterval
  unfold substepS
  omega

theorem lt_nIntervals_iff (j : ℕ) : j < nIntervals request ↔ intervalStart request j < request.periodEnd :=
  lt_count_iff (by have := request.minInterval; unfold seconds; omega) j

theorem lt_nSteps_iff (hs : 0 < substepS settings request) (i : ℕ) :
    i < nSteps settings request ↔ stamp settings request i < request.periodEnd :=
  lt_count_iff (by unfold seconds; omega) i

theorem substepsPerInterval_pos : 0 < substepsPerInterval settings request := by
  unfold substepsPerInterval
  omega

/-- The substeps of an interval do not reach past it. -/
theorem perInterval_mul_le (hs : 0 < substepS settings request) :
    substepsPerInterval settings request * substepS settings request ≤ request.intervalS := by
  have hone : 1 ≤ request.intervalS / substepS settings request :=
    (Int.le_ediv_iff_mul_le hs).mpr (by rw [one_mul]; exact substepS_le)
  have hk : (substepsPerInterval settings request : ℤ) = request.intervalS / substepS settings request := by
    unfold substepsPerInterval
    rw [max_eq_right hone]
    exact Int.toNat_of_nonneg (by omega)
  rw [hk]
  exact Int.ediv_mul_le _ hs.ne'

/-- An interval that begins within the period finds a stamp left. -/
theorem mul_perInterval_lt (hs : 0 < substepS settings request) {j : ℕ} (hj : j < nIntervals request) :
    j * substepsPerInterval settings request < nSteps settings request := by
  have hle : (j * substepsPerInterval settings request : ℕ) * seconds (substepS settings request) ≤
      j * seconds request.intervalS := by
    unfold seconds
    push_cast
    calc (j * substepsPerInterval settings request : ℤ) * (substepS settings request * 1000000)
        = j * (substepsPerInterval settings request * substepS settings request) * 1000000 := by ring
      _ ≤ j * request.intervalS * 1000000 :=
          mul_le_mul_of_nonneg_right (mul_le_mul_of_nonneg_left (perInterval_mul_le hs) (Int.natCast_nonneg j))
            (by decide)
      _ = j * (request.intervalS * 1000000) := by ring
  rw [lt_nSteps_iff hs]
  exact lt_of_le_of_lt (add_le_add_right hle _) ((lt_nIntervals_iff j).mp hj)

/-- **What `run` writes**, when nothing stops it. -/
theorem runIn_eq {ι : Type} (rnd : ℚ → ℚ) (b : Building ι) (hz : b.zones ≠ []) (hs : 0 < substepS settings request)
    (hcells : b.zones.length * nSteps settings request ≤ settings.maxCells) :
    runIn rnd settings request b = .ok ((List.range (nIntervals request)).flatMap
      (b.rowsIn rnd (substepS settings request) (request.intervalS / 3600) (nSteps settings request)
        (substepsPerInterval settings request) (intervalStart request)),
      min (nIntervals request * substepsPerInterval settings request) (nSteps settings request)) := by
  have hI : 0 < seconds request.intervalS := by have := request.minInterval; unfold seconds; omega
  have hS : 0 < seconds (substepS settings request) := by unfold seconds; omega
  have hloop := b.intervals_eq rnd (substepS settings request) (request.intervalS / 3600)
    (nSteps settings request) (substepsPerInterval_pos : 0 < substepsPerInterval settings request)
    (intervalStart request) (nIntervals request) 0 fun j hj => mul_perInterval_lt hs (by omega)
  rw [zero_mul, Nat.zero_min, zero_add, ← List.range_eq_range'] at hloop
  unfold runIn
  rw [if_neg hz, if_neg hs.ne', timeline_eq hI, timeline_eq hS]
  simp only [List.length_map, List.length_range]
  rw [if_neg (by exact not_lt.mpr hcells)]
  exact congrArg Except.ok hloop

theorem run_eq {ι : Type} (b : Building ι) (hz : b.zones ≠ []) (hs : 0 < substepS settings request)
    (hcells : b.zones.length * nSteps settings request ≤ settings.maxCells) :
    run settings request b = .ok ((List.range (nIntervals request)).flatMap
      (b.rowsOf (substepS settings request) (request.intervalS / 3600) (nSteps settings request)
        (substepsPerInterval settings request) (intervalStart request)),
      min (nIntervals request * substepsPerInterval settings request) (nSteps settings request)) := by
  rw [run, runIn_eq id b hz hs hcells]
  congr 3
  exact funext fun j => b.rowsIn_id _ _ _ _ _ j

/-! ### What the rows are to mean -/

variable (settings request)

/-- The stamps of the interval that begins at `start`: those in `[start, start + intervalS)`. -/
def ownStamps (start : Instant) : Finset ℕ :=
  (range (nSteps settings request)).filter fun i =>
    start ≤ stamp settings request i ∧ stamp settings request i < start + seconds request.intervalS

/-- What the row is to hold of `key`: the powers at its own stamps, in order of the whole run, times `dt`. -/
def ownSum {ι : Type} (b : Building ι) (row : ResultRow ι) (key : Key) : ℚ :=
  ∑ i ∈ ownStamps settings request row.intervalStart, b.added (substepS settings request) i key row.zoneId

/-- The hours the stamps of a row cover. -/
def hoursCovered (start : Instant) : ℚ :=
  (ownStamps settings request start).card * substepS settings request / 3600

/-- The row holds the energies of its own interval, and the demand is the energy over the hours it covers. -/
structure RowAccounted {ι : Type} (b : Building ι) (row : ResultRow ι) : Prop where
  hvac : row.hvacLoadKwh = ownSum settings request b row .hvac
  lighting : row.lightingKwh = ownSum settings request b row .light
  plug : row.plugKwh = ownSum settings request b row .plug
  total : row.totalKwh = row.hvacLoadKwh + row.lightingKwh + row.plugKwh
  solar : row.solarGainKwh = ownSum settings request b row .solar
  internal : row.internalGainKwh = ownSum settings request b row .internal
  envelope : row.envelopeLossKwh = ownSum settings request b row .envelope
  ventilation : row.ventilationLossKwh = ownSum settings request b row .ventilation
  latent : row.latentLoadKwh = ownSum settings request b row .latent
  fan : row.fanLoadKwh = ownSum settings request b row .fan
  peak : row.peakDemandKw = row.totalKwh / hoursCovered settings request row.intervalStart

/-- The run writes a row for each interval and zone, has integrated every stamp of the period, each belongs to one
interval, and the rows hold what they are to hold. -/
def Accounted {ι : Type} (b : Building ι) : Prop :=
  ∃ rows integrated, run settings request b = .ok (rows, integrated) ∧
    integrated = nSteps settings request ∧
    (request.periodEnd - request.periodStart ≤ integrated * seconds (substepS settings request) ∧
      integrated * seconds (substepS settings request) <
        request.periodEnd - request.periodStart + seconds (substepS settings request)) ∧
    (∀ i < nSteps settings request, ∃! j, j < nIntervals request ∧
      i ∈ ownStamps settings request (intervalStart request j)) ∧
    rows.map (fun row => (row.intervalStart, row.zoneId)) =
      (List.range (nIntervals request)).flatMap (fun j => b.zones.map fun z => (intervalStart request j, z)) ∧
    ∀ row ∈ rows, RowAccounted settings request b row

/-- The substep divides the interval, and the stamps are a whole number of intervals. -/
def Divides : Prop :=
  0 < settings.substepS ∧ substepS settings request ∣ request.intervalS ∧
    substepsPerInterval settings request ∣ nSteps settings request

variable {settings request}

theorem Divides.pos (hd : Divides settings request) : 0 < substepS settings request := substepS_pos_iff.mpr hd.1

theorem Divides.mul_eq (hd : Divides settings request) :
    substepsPerInterval settings request * substepS settings request = request.intervalS := by
  have hs := hd.pos
  have hle := perInterval_mul_le hs
  have hone : 1 ≤ request.intervalS / substepS settings request :=
    (Int.le_ediv_iff_mul_le hs).mpr (by rw [one_mul]; exact substepS_le)
  unfold substepsPerInterval
  rw [max_eq_right hone, Int.toNat_of_nonneg (by omega)]
  exact Int.ediv_mul_cancel hd.2.1

theorem intervalStart_eq_stamp (hd : Divides settings request) (j : ℕ) :
    intervalStart request j = stamp settings request (j * substepsPerInterval settings request) := by
  unfold intervalStart stamp seconds
  rw [← hd.mul_eq]
  push_cast
  ring

theorem stamp_lt_iff (hs : 0 < substepS settings request) {i j : ℕ} :
    stamp settings request i < stamp settings request j ↔ i < j := by
  have hS : 0 < seconds (substepS settings request) := by unfold seconds; omega
  unfold stamp
  rw [add_lt_add_iff_left, mul_lt_mul_iff_of_pos_right hS]
  exact Int.ofNat_lt

/-- The stamps of a period that is a whole number of intervals. -/
theorem nIntervals_mul_eq (hd : Divides settings request) :
    nIntervals request * substepsPerInterval settings request = nSteps settings request := by
  obtain ⟨c, hc⟩ := hd.2.2
  have hk : 0 < substepsPerInterval settings request := substepsPerInterval_pos
  have key : ∀ j, j < nIntervals request ↔ j < c := by
    intro j
    rw [lt_nIntervals_iff, intervalStart_eq_stamp hd, ← lt_nSteps_iff hd.pos, hc, mul_comm j]
    exact Nat.mul_lt_mul_left hk
  have heq : nIntervals request = c := by
    have h₁ := key c
    have h₂ := key (nIntervals request)
    omega
  rw [heq, hc, mul_comm]

theorem ownStamps_eq (hd : Divides settings request) {j : ℕ} (hj : j < nIntervals request) :
    ownStamps settings request (intervalStart request j) =
      Ico (j * substepsPerInterval settings request) ((j + 1) * substepsPerInterval settings request) := by
  have hend : (j + 1) * substepsPerInterval settings request ≤ nSteps settings request := by
    rw [← nIntervals_mul_eq hd]
    exact Nat.mul_le_mul_right _ hj
  have hnext : intervalStart request j + seconds request.intervalS = intervalStart request (j + 1) := by
    unfold intervalStart
    push_cast
    ring
  ext i
  rw [ownStamps, mem_filter, mem_range, mem_Ico, hnext, intervalStart_eq_stamp hd, intervalStart_eq_stamp hd,
    stamp_lt_iff hd.pos, ← not_lt, stamp_lt_iff hd.pos]
  omega

/-- A row of interval `j`, once its stamps are known to be a whole interval. -/
theorem rowAccounted (hd : Divides settings request) {ι : Type} (b : Building ι) {j : ℕ}
    (hj : j < nIntervals request) (z : ι) :
    RowAccounted settings request b (b.row (request.intervalS / 3600) (intervalStart request j)
      (∑ i ∈ Ico (j * substepsPerInterval settings request) ((j + 1) * substepsPerInterval settings request),
        b.added (substepS settings request) i) (substepsPerInterval settings request) z) := by
  have hown := ownStamps_eq hd hj
  have hsum : ∀ key, (∑ i ∈ Ico (j * substepsPerInterval settings request)
      ((j + 1) * substepsPerInterval settings request), b.added (substepS settings request) i) key z =
      ∑ i ∈ ownStamps settings request (intervalStart request j), b.added (substepS settings request) i key z := by
    intro key
    rw [hown, Finset.sum_apply, Finset.sum_apply]
  have hours : hoursCovered settings request (intervalStart request j) = request.intervalS / 3600 := by
    unfold hoursCovered
    rw [hown, Nat.card_Ico, add_mul, one_mul, Nat.add_sub_cancel_left, ← hd.mul_eq]
    push_cast
    rfl
  refine ⟨hsum _, hsum _, hsum _, rfl, hsum _, hsum _, hsum _, hsum _, hsum _, hsum _, ?_⟩
  dsimp only [Building.row]
  rw [hours]

theorem period_covered (hs : 0 < substepS settings request) :
    request.periodEnd - request.periodStart ≤ nSteps settings request * seconds (substepS settings request) ∧
      nSteps settings request * seconds (substepS settings request) <
        request.periodEnd - request.periodStart + seconds (substepS settings request) := by
  have hpos : 0 < nSteps settings request :=
    (lt_nSteps_iff hs 0).mpr (by simpa [stamp] using request.ordered)
  have hlast := (lt_nSteps_iff hs (nSteps settings request - 1)).mp (by omega)
  have hend := mt (lt_nSteps_iff hs (nSteps settings request)).mpr (lt_irrefl _)
  unfold stamp at hlast hend
  rw [Nat.cast_sub hpos, Nat.cast_one, sub_mul, one_mul] at hlast
  exact ⟨by linarith, by linarith⟩

/-- The interval of a stamp. -/
theorem exists_unique_interval (hd : Divides settings request) {i : ℕ} (hi : i < nSteps settings request) :
    ∃! j, j < nIntervals request ∧ i ∈ ownStamps settings request (intervalStart request j) := by
  have hk : 0 < substepsPerInterval settings request := substepsPerInterval_pos
  have hj : i / substepsPerInterval settings request < nIntervals request := by
    rw [Nat.div_lt_iff_lt_mul hk, nIntervals_mul_eq hd]
    exact hi
  refine ⟨i / substepsPerInterval settings request, ⟨hj, ?_⟩, ?_⟩
  · rw [ownStamps_eq hd hj, mem_Ico]
    exact ⟨Nat.div_mul_le_self _ _, by rw [add_mul, one_mul]; exact Nat.lt_div_mul_add hk⟩
  · rintro j ⟨hj', hm⟩
    rw [ownStamps_eq hd hj', mem_Ico] at hm
    exact (Nat.div_eq_of_lt_le hm.1 hm.2).symm

theorem accounted_of_divides (hd : Divides settings request) {ι : Type} (b : Building ι) (hz : b.zones ≠ [])
    (hcells : b.zones.length * nSteps settings request ≤ settings.maxCells) : Accounted settings request b := by
  have hmin : min (nIntervals request * substepsPerInterval settings request) (nSteps settings request) =
      nSteps settings request := by rw [nIntervals_mul_eq hd, min_self]
  have hrow : ∀ j < nIntervals request, b.rowsOf (substepS settings request) (request.intervalS / 3600)
      (nSteps settings request) (substepsPerInterval settings request) (intervalStart request) j =
      b.zones.map (b.row (request.intervalS / 3600) (intervalStart request j)
        (∑ i ∈ Ico (j * substepsPerInterval settings request) ((j + 1) * substepsPerInterval settings request),
          b.added (substepS settings request) i) (substepsPerInterval settings request)) := by
    intro j hj
    have hend : min ((j + 1) * substepsPerInterval settings request) (nSteps settings request) =
        (j + 1) * substepsPerInterval settings request := by
      rw [min_eq_left]
      rw [← nIntervals_mul_eq hd]
      exact Nat.mul_le_mul_right _ hj
    unfold Building.rowsOf
    rw [hend, show (j + 1) * substepsPerInterval settings request - j * substepsPerInterval settings request =
      substepsPerInterval settings request by rw [add_mul, one_mul, Nat.add_sub_cancel_left]]
  refine ⟨_, _, run_eq b hz hd.pos hcells, hmin, ?_, fun i hi => exists_unique_interval hd hi, ?_, ?_⟩
  · rw [hmin]
    exact period_covered hd.pos
  · rw [List.map_flatMap]
    refine List.flatMap_congr fun j hj => ?_
    rw [hrow j (List.mem_range.mp hj), List.map_map]
    rfl
  · intro row hm
    obtain ⟨j, hj, hm⟩ := List.mem_flatMap.mp hm
    rw [hrow j (List.mem_range.mp hj)] at hm
    obtain ⟨z, -, rfl⟩ := List.mem_map.mp hm
    exact rowAccounted hd b (List.mem_range.mp hj) z

/-! ### What a row of one lamp betrays -/

/-- Zones with lamps of a watt and nothing else. -/
def lit {ι : Type} (zones : List ι) : Building ι where
  zones
  integrateSubstep t _ :=
    { temperature := t, latentMetW := 0, fanW := 0, coilW := 0, heatingNetW := 0, qSolarW := 0, qLightW := 1,
      qEquipW := 0, qPeopleW := 0, qEnvelopeW := 0, qVentilationW := 0, occupants := 0 }
  occupancyFraction _ := 0
  cop := 1
  heatingCop := 1
  setpoint := 0
  lower := 0
  upper := 0
  carbonFactor := 0

theorem sum_added_lit {ι : Type} (zones : List ι) (dt : ℚ) (s : Finset ℕ) (z : ι) :
    (∑ i ∈ s, (lit zones).added dt i) .light z = s.card * (dt / 3600000) ∧
      (∑ i ∈ s, (lit zones).added dt i) .hvac z = 0 ∧ (∑ i ∈ s, (lit zones).added dt i) .plug z = 0 := by
  simp [Finset.sum_apply, Building.added, Building.contribution, lit]

/-- `run` writes rows only for a positive substep. -/
theorem substepS_pos_of_ok {ι : Type} {rnd : ℚ → ℚ} {b : Building ι} {r : List (ResultRow ι) × ℕ}
    (hrun : runIn rnd settings request b = .ok r) : 0 < substepS settings request := by
  by_contra hs
  unfold runIn at hrun
  split at hrun
  · cases hrun
  split at hrun
  · cases hrun
  have hneg : seconds (substepS settings request) ≤ 0 := by unfold seconds; omega
  rw [timeline_of_nonpos request.ordered hneg] at hrun
  split at hrun
  · rename_i h
    cases h
  · cases hrun

/-- The row of interval `j` is right about the lamps only if its substeps fill the interval. -/
theorem intervalS_eq_of_rowAccounted (hs : 0 < substepS settings request) {ι : Type} (zones : List ι) {z : ι} {j : ℕ}
    {steps : Finset ℕ} (hpos : 0 < steps.card)
    (hrow : RowAccounted settings request (lit zones) ((lit zones).row (request.intervalS / 3600)
      (intervalStart request j) (∑ i ∈ steps, (lit zones).added (substepS settings request) i) steps.card z)) :
    request.intervalS = steps.card * substepS settings request := by
  have hI : (0 : ℚ) < request.intervalS := by
    have := request.minInterval
    exact_mod_cast (by omega : 0 < request.intervalS)
  have hS : (0 : ℚ) < substepS settings request := by exact_mod_cast hs
  have hC : (0 : ℚ) < steps.card := by exact_mod_cast hpos
  obtain ⟨hlight, hhvac, hplug⟩ := sum_added_lit zones (substepS settings request) steps z
  -- the lamps count the stamps
  have hcard : (ownStamps settings request (intervalStart request j)).card = steps.card := by
    have heq := hrow.lighting
    unfold ownSum at heq
    dsimp only [Building.row] at heq
    rw [← Finset.sum_apply, ← Finset.sum_apply, hlight, (sum_added_lit zones _ _ z).1] at heq
    have hne : (substepS settings request : ℚ) / 3600000 ≠ 0 := (div_pos hS (by norm_num)).ne'
    exact_mod_cast (mul_right_cancel₀ hne heq).symm
  -- and the demand divides by the hours
  have hpeak := hrow.peak
  unfold hoursCovered at hpeak
  dsimp only [Building.row] at hpeak
  rw [hcard, hlight, hhvac, hplug] at hpeak
  have hne : (0 + steps.card * ((substepS settings request : ℚ) / 3600000) + 0) ≠ 0 := by
    rw [zero_add, add_zero]
    exact (mul_pos hC (div_pos hS (by norm_num))).ne'
  have heq : (request.intervalS : ℚ) / 3600 = steps.card * substepS settings request / 3600 := by
    rw [div_eq_mul_inv, div_eq_mul_inv] at hpeak
    exact inv_injective (mul_left_cancel₀ hne hpeak)
  exact_mod_cast (div_left_inj' (by norm_num : (3600 : ℚ) ≠ 0)).mp heq

theorem divides_of_accounted {ι : Type} {zones : List ι} (hz : zones ≠ [])
    (hcells : 0 < settings.substepS → zones.length * nSteps settings request ≤ settings.maxCells)
    (ha : Accounted settings request (lit zones)) : Divides settings request := by
  obtain ⟨rows, integrated, hrun, hint, -, -, -, hrows⟩ := ha
  have hs := substepS_pos_of_ok hrun
  rw [run_eq (lit zones) hz hs (hcells (substepS_pos_iff.mp hs)), Except.ok.injEq, Prod.mk.injEq] at hrun
  obtain ⟨rfl, rfl⟩ := hrun
  have hk : 0 < substepsPerInterval settings request := substepsPerInterval_pos
  -- every interval has as many stamps as the interval has substeps
  have hfull : ∀ j < nIntervals request, request.intervalS =
      (min ((j + 1) * substepsPerInterval settings request) (nSteps settings request) -
        j * substepsPerInterval settings request : ℕ) * substepS settings request := by
    intro j hj
    obtain ⟨z, hzm⟩ := List.exists_mem_of_ne_nil zones hz
    have hlt := mul_perInterval_lt hs hj
    have hsucc : (j + 1) * substepsPerInterval settings request =
      j * substepsPerInterval settings request + substepsPerInterval settings request := by ring
    have hcard := Nat.card_Ico (j * substepsPerInterval settings request)
      (min ((j + 1) * substepsPerInterval settings request) (nSteps settings request))
    have hrow := hrows _ (List.mem_flatMap.mpr ⟨j, List.mem_range.mpr hj, List.mem_map_of_mem hzm⟩)
    rw [← hcard] at hrow ⊢
    exact intervalS_eq_of_rowAccounted hs zones (by rw [hcard]; omega) hrow
  have hn : 0 < nIntervals request := (lt_nIntervals_iff 0).mpr (by simpa [intervalStart] using request.ordered)
  have hlast := hfull (nIntervals request - 1) (by omega)
  rw [Nat.sub_add_cancel hn] at hlast
  have hprev : (nIntervals request - 1) * substepsPerInterval settings request +
      substepsPerInterval settings request = nIntervals request * substepsPerInterval settings request := by
    rw [← Nat.succ_mul, Nat.succ_eq_add_one, Nat.sub_add_cancel hn]
  have hge : substepsPerInterval settings request ≤
      min (nIntervals request * substepsPerInterval settings request) (nSteps settings request) -
        (nIntervals request - 1) * substepsPerInterval settings request := by
    have hle := perInterval_mul_le hs
    rw [hlast] at hle
    exact_mod_cast le_of_mul_le_mul_right hle hs
  refine ⟨substepS_pos_iff.mp hs, ⟨_, hlast.trans (mul_comm _ _)⟩, nIntervals request, ?_⟩
  rw [mul_comm]
  omega

/-- **When the intervals account for the period**: for every physics, `run` integrates every stamp into the row of
its interval and divides by the hours it covers, if and only if the substep divides the interval and the number of
stamps is a multiple of the substeps of an interval. -/
theorem accounted_iff {ι : Type} {zones : List ι} (hz : zones ≠ [])
    (hcells : 0 < settings.substepS → zones.length * nSteps settings request ≤ settings.maxCells) :
    (∀ b : Building ι, b.zones = zones → Accounted settings request b) ↔ Divides settings request := by
  constructor
  · exact fun h => divides_of_accounted hz hcells (h (lit zones) rfl)
  · rintro hd b rfl
    exact accounted_of_divides hd b hz (hcells hd.1)

end Run

/-- An hour from the epoch. -/
def hourAt (intervalS : ℤ) (hmin : 60 ≤ intervalS) (hmax : intervalS ≤ 86400) : SimulationRequest where
  periodStart := 0
  periodEnd := seconds 3600
  intervalS
  minInterval := hmin
  maxInterval := hmax
  ordered := by decide
  maxIntervals := by
    show (3600 * 1000000 : ℤ) - 0 ≤ 40000 * (intervalS * 1000000)
    omega

/-- An hour in quarters, at the default substep. -/
theorem accounted_iff_quarters : Accounted ⟨300, 5000000⟩ (hourAt 900 (by decide) (by decide)) (lit [()]) :=
  (accounted_iff (by simp [lit]) fun _ => by decide).mpr ⟨by decide, by decide, by decide⟩ (lit [()]) rfl

/-- An hour in steps of 400 s, at the default substep of 300 s: each interval takes one stamp, and the last three of
the twelve are not integrated. -/
theorem hour_by_400_not_accounted :
    ¬ Accounted ⟨300, 5000000⟩ (hourAt 400 (by decide) (by decide)) (lit [()]) := by
  intro h
  have hdvd : (300 : ℤ) ∣ 400 := (divides_of_accounted (by simp) (fun _ => by decide) h).2.1
  exact absurd hdvd (by decide)

end DTwin.Sim
