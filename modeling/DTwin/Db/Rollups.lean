import DTwin.Db.Energy
import DTwin.Lib.Buckets
import Mathlib.Algebra.GroupWithZero.Action.Defs

/-!
# DTwin.Db.Rollups — the rollups of the samples

The continuous aggregates of `packages/db/migrations/016_rollups_exclude_flagged.sql` over the samples that the tenant
sees, and `goodMeanSql` of `packages/db/src/queries/copilot.ts` over their rows.  Instants are in milliseconds and
numbers are exact.

A row weighs as many samples as its mean is the mean of.  So over any window that begins and ends with buckets the mean
of the rows is the mean of the good samples in it, whatever the width of the buckets (`goodMean_rows`).
-/

namespace DTwin.Db.Rollups

open Series Tables Buckets

/-! ## The rollups -/

/-- The widths of the buckets. -/
inductive Width | fiveMinutes | hour | day
deriving DecidableEq

def Width.seconds : Width → ℤ
  | .fiveMinutes => 300
  | .hour => 3600
  | .day => 86400

def Width.ms (w : Width) : ℤ := w.seconds * 1000

/-- The default origin of `time_bucket`, 2000-01-03T00:00Z. -/
def ORIGIN_MS : ℤ := 946857600000

def timeBucket (w : Width) (time : ℤ) : ℤ := bucketAt ORIGIN_MS w.ms time

/-- A row of `telemetry_5m`, `telemetry_1h` or `telemetry_1d`, without the columns that no query here reads. -/
structure RollupRow where
  bucket : ℤ
  avgValue : Option ℚ
  minValue : Option ℚ
  maxValue : Option ℚ
  sampleCount : ℕ
  badQualityCount : ℕ

variable {ι : Type}

/-- The row of the samples of a sensor in a bucket. -/
def rowOf (g : ℤ × List (Sample ι)) : RollupRow where
  bucket := g.1
  avgValue := sqlAvg ((good g.2).map Sample.value)
  minValue := ((good g.2).map Sample.value).min?
  maxValue := ((good g.2).map Sample.value).max?
  sampleCount := g.2.length
  badQualityCount := (flagged g.2).length

/-- The rows of a sensor. -/
def rollup [DecidableEq ι] (w : Width) (telemetry : List (Sample ι)) (sensorId : ι) : List RollupRow :=
  (groups (fun r => timeBucket w r.time) (telemetry.filter fun r => r.sensorId = sensorId)).map rowOf

/-- The rows of a sensor for the buckets that start in a window. -/
def rowsIn [DecidableEq ι] (w : Width) (telemetry : List (Sample ι)) (fromMs toMs : ℤ) (sensorId : ι) :
    List RollupRow :=
  (rollup w telemetry sensorId).filter fun a => fromMs ≤ a.bucket ∧ a.bucket < toMs

/-! ## The mean -/

/-- `a.sample_count - a.bad_quality_count`. -/
def RollupRow.goodCount (a : RollupRow) : ℚ := a.sampleCount - a.badQualityCount

/-- `nullif`. -/
def nullIfZero (x : Option ℚ) : Option ℚ := x.filter (· ≠ 0)

/-- `goodMeanSql`: `sum(avg_value * (sample_count - bad_quality_count)) / nullif(sum(sample_count - bad_quality_count),
0)`, null if either is. -/
def goodMean (rows : List (Option RollupRow)) : Option ℚ :=
  (sqlSum (rows.map fun a => a.bind fun a => a.avgValue.map (· * a.goodCount))).bind fun total =>
    (nullIfZero (sqlSum (rows.map fun a => a.map RollupRow.goodCount))).map fun count => total / count

/-- The good samples of some sensors in a window. -/
def goodIn [DecidableEq ι] (telemetry : List (Sample ι)) (ids : List ι) (fromMs toMs : ℤ) : List (Sample ι) :=
  good (telemetry.filter fun r => (fromMs ≤ r.time ∧ r.time < toMs) ∧ r.sensorId ∈ ids)

/-! ## Buckets and samples -/

theorem ms_pos (w : Width) : 0 < w.ms := by
  cases w <;> decide

theorem ms_dvd_origin (w : Width) : w.ms ∣ ORIGIN_MS := by
  cases w
  · exact ⟨3156192, rfl⟩
  · exact ⟨263016, rfl⟩
  · exact ⟨10959, rfl⟩

theorem le_timeBucket_iff {w : Width} {a t : ℤ} (ha : w.ms ∣ a) : a ≤ timeBucket w t ↔ a ≤ t :=
  le_bucketAt_iff (ms_pos w) (ms_dvd_origin w) ha

theorem timeBucket_lt_iff {w : Width} {a t : ℤ} (ha : w.ms ∣ a) : timeBucket w t < a ↔ t < a :=
  bucketAt_lt_iff (ms_pos w) (ms_dvd_origin w) ha

/-- The counts of a row differ by its good samples. -/
theorem goodCount_rowOf (g : ℤ × List (Sample ι)) : (rowOf g).goodCount = (good g.2).length := by
  have hsplit := length_good_flagged g.2
  rw [RollupRow.goodCount, rowOf]
  show (g.2.length : ℚ) - (flagged g.2).length = _
  rw [← hsplit, add_sub_cancel_right]

/-- What a row weighs is what its good samples add up to. -/
theorem weight_rowOf (g : ℤ × List (Sample ι)) :
    ((rowOf g).avgValue.map (· * (rowOf g).goodCount)).getD 0 = ((good g.2).map Sample.value).sum := by
  rw [goodCount_rowOf]
  show ((sqlAvg ((good g.2).map Sample.value)).map (· * ((good g.2).length : ℚ))).getD 0 = _
  by_cases hnone : good g.2 = []
  · rw [hnone]
    rfl
  · have hlength : ((good g.2).length : ℚ) ≠ 0 := by simpa using hnone
    rw [sqlAvg, if_neg (by simpa using hnone), Option.map_some, Option.getD_some, List.length_map,
      div_mul_cancel₀ _ hlength]

theorem avgValue_rowOf {g : ℤ × List (Sample ι)} : (rowOf g).avgValue = none ↔ good g.2 = [] := by
  show sqlAvg ((good g.2).map Sample.value) = none ↔ _
  unfold sqlAvg
  by_cases hnone : good g.2 = []
  · simp [hnone]
  · simp [hnone]

section Rows

variable [DecidableEq ι] {w : Width} {telemetry : List (Sample ι)} {fromMs toMs : ℤ}

theorem rowsIn_eq (w : Width) (telemetry : List (Sample ι)) (fromMs toMs : ℤ) (id : ι) :
    rowsIn w telemetry fromMs toMs id =
      ((groups (fun r => timeBucket w r.time) (telemetry.filter fun r => r.sensorId = id)).filter fun g =>
        fromMs ≤ g.1 ∧ g.1 < toMs).map rowOf := by
  unfold rowsIn rollup
  rw [List.filter_map]
  rfl

/-- **What is summed over the rows** is summed over the good samples. -/
theorem sum_rowsIn (telemetry : List (Sample ι)) {ids : List ι} (hids : ids.Nodup) (hfrom : w.ms ∣ fromMs)
    (hto : w.ms ∣ toMs) {φ : RollupRow → ℚ}
    {f : Sample ι → ℚ} (hφ : ∀ g : ℤ × List (Sample ι), φ (rowOf g) = ((good g.2).map f).sum) :
    ((ids.flatMap (rowsIn w telemetry fromMs toMs)).map φ).sum =
      ((goodIn telemetry ids fromMs toMs).map f).sum := by
  have hgood : ∀ l : List (Sample ι), ((good l).map f).sum = (l.map fun r => if r.quality = 0 then f r else 0).sum := by
    intro l
    rw [sum_good_flagged, List.map_const', List.sum_replicate, smul_zero, add_zero]
  have hwindow : (telemetry.filter fun r => fromMs ≤ timeBucket w r.time ∧ timeBucket w r.time < toMs) =
      telemetry.filter fun r => fromMs ≤ r.time ∧ r.time < toMs := by
    refine List.filter_congr fun r _ => ?_
    simp only [le_timeBucket_iff hfrom, timeBucket_lt_iff hto]
  have hsensor : ∀ id : ι, ((rowsIn w telemetry fromMs toMs id).map φ).sum =
      (((telemetry.filter fun r => fromMs ≤ r.time ∧ r.time < toMs).filter fun r => r.sensorId = id).map
        fun r => if r.quality = 0 then f r else 0).sum := by
    intro id
    have hgroups := sum_groups_filter (fun r : Sample ι => timeBucket w r.time)
      (fun r => if r.quality = 0 then f r else 0) (fun b => decide (fromMs ≤ b ∧ b < toMs))
      (telemetry.filter fun r => r.sensorId = id)
    have hrow : ∀ g : ℤ × List (Sample ι), φ (rowOf g) = (g.2.map fun r => if r.quality = 0 then f r else 0).sum :=
      fun g => (hφ g).trans (hgood g.2)
    rw [rowsIn_eq, List.map_map]
    show ((List.filter _ _).map fun g => φ (rowOf g)).sum = _
    rw [List.map_congr_left fun g _ => hrow g, hgroups, List.filter_comm, hwindow]
  have hkeys := sum_filter_key hids Sample.sensorId (fun r : Sample ι => if r.quality = 0 then f r else 0)
    (telemetry.filter fun r => fromMs ≤ r.time ∧ r.time < toMs)
  rw [List.map_flatMap, List.flatMap_def, List.sum_flatten, List.map_map, goodIn, hgood]
  have hids' : ids.map (List.sum ∘ fun id => (rowsIn w telemetry fromMs toMs id).map φ) = _ :=
    List.map_congr_left fun id _ => hsensor id
  rw [hids', hkeys, List.filter_filter]
  congr 2
  refine List.filter_congr fun r _ => ?_
  simp [Bool.and_comm]

/-- **The mean of the rows** is the mean of the good samples. -/
theorem goodMean_rows {ids : List ι} (hids : ids.Nodup) (hfrom : w.ms ∣ fromMs) (hto : w.ms ∣ toMs)
    {rows : List (Option RollupRow)} (hrows : rows.reduceOption = ids.flatMap (rowsIn w telemetry fromMs toMs)) :
    goodMean rows = sqlAvg ((goodIn telemetry ids fromMs toMs).map Sample.value) := by
  have hcount : ((ids.flatMap (rowsIn w telemetry fromMs toMs)).map RollupRow.goodCount).sum =
      (goodIn telemetry ids fromMs toMs).length := by
    have hones : ∀ g : ℤ × List (Sample ι), (rowOf g).goodCount = ((good g.2).map fun _ => (1 : ℚ)).sum := by
      intro g
      rw [goodCount_rowOf, List.map_const', List.sum_replicate, nsmul_eq_mul, mul_one]
    rw [sum_rowsIn telemetry hids hfrom hto hones, List.map_const', List.sum_replicate, nsmul_eq_mul, mul_one]
  have htotal : ((ids.flatMap (rowsIn w telemetry fromMs toMs)).map fun a =>
      (a.avgValue.map (· * a.goodCount)).getD 0).sum = ((goodIn telemetry ids fromMs toMs).map Sample.value).sum :=
    sum_rowsIn telemetry hids hfrom hto weight_rowOf
  rw [← sum_filterMap] at htotal
  unfold goodMean sqlSum
  rw [List.reduceOption_map, reduceOption_bind, hrows, hcount, htotal]
  by_cases hgood : goodIn telemetry ids fromMs toMs = []
  · rw [hgood] at hcount ⊢
    have hnull : nullIfZero (if (ids.flatMap (rowsIn w telemetry fromMs toMs)).map RollupRow.goodCount = [] then none
        else some ((([] : List (Sample ι)).length : ℕ) : ℚ)) = none := by
      split_ifs <;> rfl
    rw [hnull]
    split_ifs <;> rfl
  · have hlength : ((goodIn telemetry ids fromMs toMs).length : ℚ) ≠ 0 := by simpa using hgood
    have hrow : (ids.flatMap (rowsIn w telemetry fromMs toMs)).map RollupRow.goodCount ≠ [] := by
      intro hnil
      rw [hnil] at hcount
      exact hlength hcount.symm
    have havg : (ids.flatMap (rowsIn w telemetry fromMs toMs)).filterMap
        (fun a => a.avgValue.map (· * a.goodCount)) ≠ [] := by
      intro hnil
      -- Without a mean in any row there is no good sample in any.
      refine hlength (hcount.symm.trans (List.sum_eq_zero fun x hx => ?_))
      obtain ⟨a, ha, rfl⟩ := List.mem_map.mp hx
      have hnone := Option.map_eq_none_iff.mp (List.filterMap_eq_nil_iff.mp hnil a ha)
      obtain ⟨id, -, ha⟩ := List.mem_flatMap.mp ha
      rw [rowsIn_eq] at ha
      obtain ⟨g, -, rfl⟩ := List.mem_map.mp ha
      rw [goodCount_rowOf, avgValue_rowOf.mp hnone]
      rfl
    have hnull : nullIfZero (some ((goodIn telemetry ids fromMs toMs).length : ℚ)) =
        some ((goodIn telemetry ids fromMs toMs).length : ℚ) := by
      rw [nullIfZero, Option.filter_some, if_pos (by simpa using hgood)]
    rw [if_neg havg, if_neg hrow, hnull, sqlAvg, if_neg (by simpa using hgood), List.length_map]
    rfl

end Rows

end DTwin.Db.Rollups
