import DTwin.Db.Rollups

/-!
# DTwin.Db.Comfort — two answers about the comfort of a zone

`copilotZoneConditions` and `copilotCompareZones` of `packages/db/src/queries/copilot.ts`.  Instants are in milliseconds
and numbers are exact.  Of the metrics of a zone the figures that depend on the order of the rows are left out, and of
its design all but the profile.

The first reads the minutes above the design band off the buckets of the zone, joined to its design, and its mean
temperature off the rollup of five minutes; the second off the groups of the buckets of all zones, joined to the zones
and their profiles, and off the rollup of an hour.  Over whole hours they are the same (`comfort_agrees`).
-/

namespace DTwin.Db.Comfort

open OrderedMap Series Tables Rollups

/-! ## The tables -/

structure Profile (ι : Type) where
  id : ι
  setpointTempC : ℚ
  deadbandK : ℚ

structure Database (ι : Type) extends Measured ι, Places ι String where
  profiles : List (Profile ι)
  profileIds : (profiles.map Profile.id).Nodup

variable {ι : Type} [DecidableEq ι]

section Joins

variable (db : Database ι)

/-- `sensors s JOIN telemetry_5m_t a`, for some sensors and the buckets that start in a window. -/
def Database.joined (p : Sensor ι → Bool) (fromMs toMs : ℤ) : List (Sensor ι × RollupRow) :=
  (db.sensors.filter p).flatMap fun s =>
    (rowsIn .fiveMinutes db.telemetry fromMs toMs s.id).map fun a => (s, a)

/-- `LEFT JOIN thermal_profiles p ON p.id = z.thermal_profile_id`. -/
def Database.profileRows (z : Zone ι String) : List (Option (Profile ι)) :=
  leftJoin (db.profiles.filter fun p => some p.id = z.thermalProfileId)

end Joins

/-- `max(avg_value) FILTER (WHERE metric = …)`. -/
def maxOf (metric : MetricType) (rows : List (Sensor ι × RollupRow)) : Option ℚ :=
  ((rows.filter fun r => r.1.metric = metric).map fun r => r.2.avgValue).reduceOption.max?

/-- Above the band around a setpoint; unknown if anything is. -/
def above (t setpoint deadband : Option ℚ) : Bool :=
  t.any fun t => setpoint.any fun c => deadband.any fun k => c + k / 2 < t

def below (t setpoint deadband : Option ℚ) : Bool :=
  t.any fun t => setpoint.any fun c => deadband.any fun k => t < c - k / 2

/-! ## The conditions of a zone -/

structure ConditionsQuery (ι : Type) where
  zoneId : ι
  fromMs : ℤ
  toMs : ℤ

/-- A row of `b`: a bucket with the temperature, the setpoint and the occupancy of the zone side by side. -/
structure Judged where
  bucket : ℤ
  zt : Option ℚ
  sp : Option ℚ
  occ : Option ℚ

def Judged.occupied (b : Judged) : Bool := b.occ.any (0 < ·)

structure ComfortRow where
  occupiedMin : Option ℕ
  occupiedWithTemperatureMin : Option ℕ
  aboveDesignBandMin : Option ℕ
  belowDesignBandMin : Option ℕ
  aboveEffectiveBandMin : Option ℕ
  belowEffectiveBandMin : Option ℕ

/-- `count(…) FILTER (WHERE …)`, which takes no notice of a row of nulls. -/
def count (rows : List (Option Judged)) (p : Judged → Bool) : ℕ := rows.countP fun b => b.any p

/-- `CASE WHEN … THEN NULL ELSE 5 * n END`. -/
def minutes (isNull : Prop) [Decidable isNull] (n : ℕ) : Option ℕ := if isNull then none else some (5 * n)

/-- Occupied, and no bucket in which it was with what it is judged by. -/
def NotJudged (rows : List (Option Judged)) (p : Judged → Bool) : Prop :=
  0 < count rows Judged.occupied ∧ (count rows fun b => b.occupied && p b) = 0

instance (rows : List (Option Judged)) (p : Judged → Bool) : Decidable (NotJudged rows p) :=
  inferInstanceAs (Decidable (_ ∧ _))

/-- The comfort row of a design, null where it is unknown. -/
def comfortOf (designC dbK : Option ℚ) (rows : List (Option Judged)) : ComfortRow where
  occupiedMin := minutes ((count rows fun b => b.occ.isSome) = 0) (count rows Judged.occupied)
  occupiedWithTemperatureMin :=
    minutes ((count rows fun b => b.occ.isSome) = 0) (count rows fun b => b.occupied && b.zt.isSome)
  aboveDesignBandMin :=
    minutes ((count rows fun b => b.occ.isSome) = 0 ∨ designC = none ∨ dbK = none ∨
        NotJudged rows fun b => b.zt.isSome)
      (count rows fun b => b.occupied && above b.zt designC dbK)
  belowDesignBandMin :=
    minutes ((count rows fun b => b.occ.isSome) = 0 ∨ designC = none ∨ dbK = none ∨
        NotJudged rows fun b => b.zt.isSome)
      (count rows fun b => b.occupied && below b.zt designC dbK)
  aboveEffectiveBandMin :=
    minutes ((count rows fun b => b.occ.isSome) = 0 ∨ dbK = none ∨
        NotJudged rows fun b => b.zt.isSome && b.sp.isSome)
      (count rows fun b => b.occupied && above b.zt b.sp dbK)
  belowEffectiveBandMin :=
    minutes ((count rows fun b => b.occ.isSome) = 0 ∨ dbK = none ∨
        NotJudged rows fun b => b.zt.isSome && b.sp.isSome)
      (count rows fun b => b.occupied && below b.zt b.sp dbK)

structure MetricRow where
  metric : MetricType
  mean : Option ℚ
  min : Option ℚ
  max : Option ℚ
  sensorsCount : ℕ
  goodBucketsCount : ℕ
  expectedBucketsCount : ℤ
  flaggedSamplesCount : ℕ

structure ZoneConditions (ι : Type) where
  zone : Zone ι String
  floor : Floor ι String
  metrics : List MetricRow
  comfort : ComfortRow
  design : Option (Profile ι)

section Conditions

variable (db : Database ι) (q : ConditionsQuery ι)

/-- `zones z JOIN floors f LEFT JOIN thermal_profiles p`, for the zone. -/
def ConditionsQuery.designs : List (Zone ι String × Floor ι String × Option (Profile ι)) :=
  (db.zones.filter fun z => z.id = q.zoneId).flatMap fun z =>
    (db.floors.filter fun f => f.id = z.floorId).flatMap fun f => (db.profileRows z).map fun p => (z, f, p)

/-- `pts p LEFT JOIN telemetry_5m_t a`. -/
def ConditionsQuery.points : List (Sensor ι × Option RollupRow) :=
  (db.sensors.filter fun s => s.zoneId = some q.zoneId ∧ s.isActive ∧ s.metric ∈ COPILOT_ZONE_METRICS).flatMap fun s =>
    (leftJoin (rowsIn .fiveMinutes db.telemetry q.fromMs q.toMs s.id)).map fun a => (s, a)

/-- A row of the first statement, by metric. -/
def metricRow (perSensor : ℤ) (g : MetricType × List (Sensor ι × Option RollupRow)) : MetricRow where
  metric := g.1
  mean := goodMean (g.2.map Prod.snd)
  min := (g.2.map fun r => r.2.bind RollupRow.minValue).reduceOption.min?
  max := (g.2.map fun r => r.2.bind RollupRow.maxValue).reduceOption.max?
  sensorsCount := (g.2.map fun r => r.1.id).dedup.length
  goodBucketsCount := (g.2.map fun r => r.2.bind RollupRow.avgValue).reduceOption.length
  expectedBucketsCount := (g.2.map fun r => r.1.id).dedup.length * perSensor
  flaggedSamplesCount := (g.2.filterMap fun r => r.2.map RollupRow.badQualityCount).sum

/-- `m`. -/
def ConditionsQuery.m : List (Sensor ι × RollupRow) :=
  db.joined (fun s => s.zoneId = some q.zoneId ∧ s.isActive ∧
    s.metric ∈ [MetricType.temperatureC, .setpointTempC, .occupancyCount]) q.fromMs q.toMs

/-- `b`. -/
def ConditionsQuery.b : List Judged :=
  (groupBy (fun r => r.2.bucket) (q.m db)).entries.map fun g =>
    ⟨g.1, maxOf .temperatureC g.2, maxOf .setpointTempC g.2, maxOf .occupancyCount g.2⟩

/-- `d LEFT JOIN b ON true`. -/
def ConditionsQuery.judged : List (Option (Profile ι) × Option Judged) :=
  ((db.zones.filter fun z => z.id = q.zoneId).flatMap db.profileRows).flatMap fun d =>
    (leftJoin (q.b db)).map fun b => (d, b)

/-- The comfort rows, by `d.design_c` and `d.db_k`. -/
def ConditionsQuery.comfortRows : List ComfortRow :=
  (groupBy (fun r => (r.1.map Profile.setpointTempC, r.1.map Profile.deadbandK)) (q.judged db)).entries.map fun g =>
    comfortOf g.1.1 g.1.2 (g.2.map Prod.snd)

/-- Null when the zone does not exist. -/
def copilotZoneConditions (now : ℤ) : Option (ZoneConditions ι) :=
  (q.designs db).head?.map fun (z, f, p) =>
    { zone := z
      floor := f
      metrics := (groupBy (fun r => r.1.metric) (q.points db)).entries.map
        (metricRow (Energy.expectedUpToNow q.fromMs q.toMs 300 now))
      comfort := (q.comfortRows db).head?.getD ⟨none, none, none, none, none, none⟩
      design := p }

end Conditions

/-- `metrics.temperature_c?.mean_c`. -/
def ZoneConditions.temperatureMean (c : ZoneConditions ι) : Option ℚ :=
  (c.metrics.find? fun r => r.metric = .temperatureC).bind MetricRow.mean

/-! ## The comparison of zones -/

inductive CompareMetric | temperatureC | co2Ppm | humidityPct | occupancyCount
deriving DecidableEq

def CompareMetric.type : CompareMetric → MetricType
  | .temperatureC => .temperatureC
  | .co2Ppm => .co2Ppm
  | .humidityPct => .humidityPct
  | .occupancyCount => .occupancyCount

inductive CompareOrder | mean | max | minutesAboveBand
deriving DecidableEq

structure CompareQuery (ι : Type) where
  metric : CompareMetric
  fromMs : ℤ
  toMs : ℤ
  floorLevel : Option ℤ
  orderBy : CompareOrder
  limit : ℕ
  buildingId : ι

/-- A row of `zs`. -/
structure ZoneStats (ι : Type) where
  id : ι
  zone : String
  floor : String
  level : ℤ
  areaM2 : Option ℚ
  mean : Option ℚ
  max : Option ℚ
  flagged : ℕ

/-- `minutesAboveBandMin` is there only when the rows are ordered by it. -/
structure ZoneRankRow (ι : Type) where
  zoneId : ι
  zone : String
  floor : String
  level : ℤ
  areaM2 : Option ℚ
  mean : Option ℚ
  max : Option ℚ
  goodBucketsCount : ℕ
  flaggedSamplesCount : ℕ
  minutesAboveBandMin : Option (Option ℕ)

structure FloorMeanRow where
  floor : String
  level : ℤ
  mean : Option ℚ
  zonesWithDataCount : ℕ
  zonesCount : ℕ

structure CompareZonesRows (ι : Type) where
  items : List (ZoneRankRow ι)
  total : ℕ
  limit : ℕ
  truncated : Bool
  floorMeans : List FloorMeanRow
  covered : ℤ × ℤ

/-- The hour of an instant, rounded up. -/
def hourUp (t : ℤ) : ℤ := ⌈(t : ℚ) / 3600000⌉ * 3600000

def compareCovered (fromMs toMs now : ℤ) : ℤ × ℤ := (hourUp fromMs, max (hourUp fromMs) (min (hourUp toMs) now))

/-- A row of the sub-select of `band`. -/
structure BandRow (ι : Type) where
  zoneId : Option ι
  bucket : ℤ
  zt : Option ℚ
  occ : Option ℚ

def BandRow.occupied (b : BandRow ι) : Bool := b.occ.any (0 < ·)

section Compare

variable (db : Database ι) (q : CompareQuery ι)

def CompareQuery.hoursFrom : ℤ := hourUp q.fromMs

def CompareQuery.hoursTo : ℤ := max q.hoursFrom (hourUp q.toMs)

/-- `zones z JOIN floors f`, for the building, or one level of it. -/
def CompareQuery.scope : List (Zone ι String × Floor ι String) :=
  db.zones.flatMap fun z => (db.floors.filter fun f =>
    f.id = z.floorId ∧ f.buildingId = q.buildingId ∧ (q.floorLevel = none ∨ q.floorLevel = some f.level)).map fun f =>
      (z, f)

/-- The rows of a zone in `zones z LEFT JOIN sensors s LEFT JOIN telemetry_1h_t a`. -/
def CompareQuery.hours (zoneId : ι) : List (Option RollupRow) :=
  (leftJoin (db.sensors.filter fun s =>
      s.zoneId = some zoneId ∧ s.metric = q.metric.type ∧ s.isActive)).flatMap fun s =>
    s.elim [none] fun s => leftJoin (rowsIn .hour db.telemetry q.fromMs q.toMs s.id)

def CompareQuery.zs : List (ZoneStats ι) :=
  (q.scope db).map fun (z, f) =>
    { id := z.id
      zone := z.name
      floor := f.name
      level := f.level
      areaM2 := z.areaM2
      mean := goodMean (q.hours db z.id)
      max := ((q.hours db z.id).map fun a => a.bind RollupRow.maxValue).reduceOption.max?
      flagged := ((q.hours db z.id).filterMap fun a => a.map RollupRow.badQualityCount).sum }

/-- `s.zone_id IN (SELECT id FROM zs)`. -/
def CompareQuery.ofZs (s : Sensor ι) : Bool := s.zoneId.any fun id => id ∈ (q.zs db).map ZoneStats.id

/-- `cov` of a zone: the distinct buckets with a mean, 0 without a row. -/
def CompareQuery.cov (zoneId : ι) : ℕ :=
  (((db.joined (fun s => q.ofZs db s ∧ s.metric = q.metric.type ∧ s.isActive) q.hoursFrom q.hoursTo).filter fun r =>
    r.1.zoneId = some zoneId ∧ r.2.avgValue.isSome).map fun r => r.2.bucket).dedup.length

/-- The sub-select of `band`. -/
def CompareQuery.bandRows : List (BandRow ι) :=
  (groupBy (fun r => (r.1.zoneId, r.2.bucket)) (db.joined (fun s => q.ofZs db s ∧ s.isActive ∧
    s.metric ∈ [MetricType.temperatureC, .occupancyCount]) q.hoursFrom q.hoursTo)).entries.map fun g =>
      ⟨g.1.1, g.1.2, maxOf .temperatureC g.2, maxOf .occupancyCount g.2⟩

/-- `b JOIN zones z LEFT JOIN thermal_profiles p`. -/
def CompareQuery.banded : List (BandRow ι × Option (Profile ι)) :=
  (q.bandRows db).flatMap fun b => (db.zones.filter fun z => some z.id = b.zoneId).flatMap fun z =>
    (db.profileRows z).map fun p => (b, p)

/-- The figure of `band`. -/
def minutesAboveBand (setpointTempC deadbandK : Option ℚ) (rows : List (BandRow ι)) : Option ℕ :=
  minutes ((rows.countP fun b => b.occ.isSome) = 0 ∨ setpointTempC = none ∨ deadbandK = none ∨
      (0 < rows.countP BandRow.occupied ∧ (rows.countP fun b => b.occupied && b.zt.isSome) = 0))
    (rows.countP fun b => b.occupied && above b.zt setpointTempC deadbandK)

/-- `band`: a zone with its minutes. -/
def CompareQuery.band : List (Option ι × Option ℕ) :=
  (groupBy (fun r => (r.1.zoneId, r.2.map Profile.setpointTempC, r.2.map Profile.deadbandK))
    (q.banded db)).entries.map fun g => (g.1.1, minutesAboveBand g.1.2.1 g.1.2.2 (g.2.map Prod.fst))

/-- `zs LEFT JOIN cov LEFT JOIN band`. -/
def CompareQuery.rows : List (ZoneRankRow ι) :=
  (q.zs db).flatMap fun z =>
    (if q.orderBy = .minutesAboveBand then
      (leftJoin ((q.band db).filter fun w => w.1 = some z.id)).map fun w => some (w.bind Prod.snd)
    else [none]).map fun minutesAboveBandMin =>
      { zoneId := z.id
        zone := z.zone
        floor := z.floor
        level := z.level
        areaM2 := z.areaM2
        mean := z.mean
        max := z.max
        goodBucketsCount := q.cov db z.id
        flaggedSamplesCount := z.flagged
        minutesAboveBandMin := minutesAboveBandMin }

/-- What the rows are ordered by. -/
def ZoneRankRow.figure (row : ZoneRankRow ι) : CompareOrder → Option ℚ
  | .mean => row.mean
  | .max => row.max
  | .minutesAboveBand => row.minutesAboveBandMin.join.map fun n => (n : ℚ)

/-- `DESC NULLS LAST`: is one strictly before the other? -/
def before : Option ℚ → Option ℚ → Bool
  | some x, some y => y < x
  | some _, none => true
  | none, _ => false

/-- `ORDER BY … DESC NULLS LAST, zs.level, zs.zone`; `le` is the order of the names. -/
def CompareQuery.rankLe (le : String → String → Bool) (r r' : ZoneRankRow ι) : Bool :=
  before (r.figure q.orderBy) (r'.figure q.orderBy) ||
    !before (r'.figure q.orderBy) (r.figure q.orderBy) &&
      (r.level < r'.level || r.level = r'.level && le r.zone r'.zone)

/-- The area-weighted means of the floors, over every zone in scope. -/
def CompareQuery.floorMeans : List FloorMeanRow :=
  ((groupBy (fun z => (z.floor, z.level)) (q.zs db)).entries.map fun g =>
    let weighed := g.2.filterMap fun z => z.mean.bind fun mean => z.areaM2.map fun area => (area, mean)
    { floor := g.1.1
      level := g.1.2
      mean := (sqlSum (weighed.map fun w => some (w.1 * w.2))).bind fun total =>
        (nullIfZero (sqlSum (weighed.map fun w => some w.1))).map fun area => total / area
      zonesWithDataCount := weighed.length
      zonesCount := g.2.length }).insertionSort fun f f' => f.level ≤ f'.level

def copilotCompareZones (le : String → String → Bool) (now : ℤ) : Except String (CompareZonesRows ι) :=
  if q.orderBy = .minutesAboveBand ∧ q.metric ≠ .temperatureC then
    .error "minutes_above_band ranks temperature_c only"
  else
    let ranked := (q.rows db).insertionSort fun r r' => q.rankLe le r r'
    let items := ranked.take q.limit
    .ok
      { items := items
        -- `rows[0]?.total ?? 0`.
        total := if items = [] then 0 else ranked.length
        limit := q.limit
        truncated := items.length < (if items = [] then 0 else ranked.length)
        floorMeans := q.floorMeans db
        covered := compareCovered q.fromMs q.toMs now }

end Compare

/-! ## One zone, one profile -/

/-- A zone has one profile, or none. -/
theorem exists_profileRows (db : Database ι) (z : Zone ι String) : ∃ p, db.profileRows z = [p] := by
  have hone : (db.profiles.filter fun p => some p.id = z.thermalProfileId).length ≤ 1 := by
    refine length_filter_le_one db.profileIds fun p p' hp hp' => ?_
    exact Option.some.inj ((of_decide_eq_true hp).trans (of_decide_eq_true hp').symm)
  exact List.length_eq_one_iff.mp (Energy.length_leftJoin hone)

variable {db : Database ι} {q : CompareQuery ι}

/-! ## The buckets of a zone, in both -/

omit [DecidableEq ι] in
/-- What is joined to the rows of a kind. -/
theorem filter_flatMap_pair {α β : Type} (p : α → Bool) (f : α → List β) (l : List α) :
    ((l.flatMap fun a => (f a).map fun b => (a, b)).filter fun r => p r.1) =
      (l.filter p).flatMap fun a => (f a).map fun b => (a, b) := by
  induction l with
  | nil => rfl
  | cons a l ih =>
    rw [List.flatMap_cons, List.filter_append, ih, List.filter_map]
    by_cases ha : p a = true
    · have hall : (f a).filter ((fun r : α × β => p r.1) ∘ fun b => (a, b)) = f a :=
        List.filter_eq_self.mpr fun _ _ => ha
      rw [List.filter_cons_of_pos ha, List.flatMap_cons, hall]
    · have hnone : (f a).filter ((fun r : α × β => p r.1) ∘ fun b => (a, b)) = [] :=
        List.filter_eq_nil_iff.mpr fun _ _ => ha
      rw [List.filter_cons_of_neg ha, hnone]
      rfl

theorem joined_eq_filter (db : Database ι) (p : Sensor ι → Bool) (fromMs toMs : ℤ) :
    db.joined p fromMs toMs = (db.joined (fun _ => true) fromMs toMs).filter fun r => p r.1 := by
  unfold Database.joined
  rw [List.filter_true, filter_flatMap_pair]

/-- The buckets that the comparison reads for a zone in its scope. -/
def CompareQuery.read (q : CompareQuery ι) (db : Database ι) : List (Sensor ι × RollupRow) :=
  db.joined (fun s => q.ofZs db s ∧ s.isActive ∧ s.metric ∈ [MetricType.temperatureC, .occupancyCount]) q.hoursFrom
    q.hoursTo

/-- **A metric of a zone in a bucket** is the same in both. -/
theorem maxOf_eq {zoneId : ι} (hzone : zoneId ∈ (q.zs db).map ZoneStats.id) {metric : MetricType}
    (hmetric : metric = .temperatureC ∨ metric = .occupancyCount) (b : ℤ) :
    maxOf metric (((⟨zoneId, q.hoursFrom, q.hoursTo⟩ : ConditionsQuery ι).m db).filter fun r => r.2.bucket = b) =
      maxOf metric ((q.read db).filter fun r => (r.1.zoneId, r.2.bucket) = (some zoneId, b)) := by
  unfold maxOf ConditionsQuery.m CompareQuery.read
  rw [joined_eq_filter, joined_eq_filter db fun s => decide (q.ofZs db s ∧ s.isActive ∧ _)]
  congr 3
  simp only [List.filter_filter]
  refine List.filter_congr fun r _ => ?_
  rw [Bool.eq_iff_iff]
  have hzs : r.1.zoneId = some zoneId → q.ofZs db r.1 = true := by
    intro h
    simp only [CompareQuery.ofZs, h, Option.any_some]
    exact decide_eq_true hzone
  simp only [Bool.and_eq_true, decide_eq_true_eq, Prod.mk.injEq, List.mem_cons, List.not_mem_nil, or_false]
  rcases hmetric with rfl | rfl
  · constructor
    · rintro ⟨hr, hb, hz, hactive, -⟩
      exact ⟨hr, ⟨hz, hb⟩, hzs hz, hactive, Or.inl hr⟩
    · rintro ⟨hr, ⟨hz, hb⟩, -, hactive, -⟩
      exact ⟨hr, hb, hz, hactive, Or.inl hr⟩
  · constructor
    · rintro ⟨hr, hb, hz, hactive, -⟩
      exact ⟨hr, ⟨hz, hb⟩, hzs hz, hactive, Or.inr hr⟩
    · rintro ⟨hr, ⟨hz, hb⟩, -, hactive, -⟩
      exact ⟨hr, hb, hz, hactive, Or.inr (Or.inr hr)⟩

theorem count_leftJoin (l : List Judged) (p : Judged → Bool) : count (leftJoin l) p = l.countP p := by
  unfold count leftJoin
  split_ifs with hl
  · rw [hl]
    rfl
  · rw [List.countP_map]
    rfl

/-- **The buckets of a zone that are of a kind** are as many in both, if a bucket without a figure is not of it. -/
theorem count_eq {zoneId : ι} (hzone : zoneId ∈ (q.zs db).map ZoneStats.id) (p : Option ℚ → Option ℚ → Bool)
    (hp : p none none = false) :
    count (leftJoin ((⟨zoneId, q.hoursFrom, q.hoursTo⟩ : ConditionsQuery ι).b db)) (fun b => p b.zt b.occ) =
      ((q.bandRows db).filter fun b => b.zoneId = some zoneId).countP fun b => p b.zt b.occ := by
  let kind : List (Sensor ι × RollupRow) → Bool := fun g => p (maxOf .temperatureC g) (maxOf .occupancyCount g)
  let here := (groupBy (fun r => r.2.bucket) ((⟨zoneId, q.hoursFrom, q.hoursTo⟩ : ConditionsQuery ι).m db)).entries
  let there := (groupBy (fun r => (r.1.zoneId, r.2.bucket)) (q.read db)).entries
  have hhere : count (leftJoin ((⟨zoneId, q.hoursFrom, q.hoursTo⟩ : ConditionsQuery ι).b db)) (fun b => p b.zt b.occ) =
      ((here.filter fun g => kind g.2).map Prod.fst).length := by
    rw [count_leftJoin, List.length_map, ConditionsQuery.b, List.countP_map, List.countP_eq_length_filter]
    rfl
  have hthere : ((q.bandRows db).filter fun b => b.zoneId = some zoneId).countP (fun b => p b.zt b.occ) =
      ((((there.filter fun g => kind g.2).map Prod.fst).filter fun k => k.1 = some zoneId).map Prod.snd).length := by
    rw [List.length_map, List.filter_map, List.length_map, List.filter_filter, List.countP_eq_length_filter,
      CompareQuery.bandRows, List.filter_map, List.filter_map, List.length_map, List.filter_filter]
    refine congrArg List.length (List.filter_congr fun g _ => ?_)
    exact Bool.and_comm _ _
  have hkind : kind [] = false := hp
  have hnodup : ((here.filter fun g => kind g.2).map Prod.fst).Nodup :=
    (groupBy _ _).nodup.sublist (List.filter_sublist.map Prod.fst)
  have hnodup' : ((((there.filter fun g => kind g.2).map Prod.fst).filter fun k => k.1 = some zoneId).map
      Prod.snd).Nodup := by
    have hkeys : (((there.filter fun g => kind g.2).map Prod.fst).filter fun k => k.1 = some zoneId).Nodup :=
      ((groupBy _ _).nodup.sublist (List.filter_sublist.map Prod.fst)).filter _
    refine hkeys.map_on fun k hk k' hk' hsame => ?_
    have hz := of_decide_eq_true (List.mem_filter.mp hk).2
    have hz' := of_decide_eq_true (List.mem_filter.mp hk').2
    exact Prod.ext (hz.trans hz'.symm) hsame
  rw [hhere, hthere]
  refine ((List.perm_ext_iff_of_nodup hnodup hnodup').mpr fun b => ?_).length_eq
  rw [mem_map_filter_groupBy hkind, List.mem_map]
  have hsame : kind (((⟨zoneId, q.hoursFrom, q.hoursTo⟩ : ConditionsQuery ι).m db).filter fun r => r.2.bucket = b) =
      kind ((q.read db).filter fun r => (r.1.zoneId, r.2.bucket) = (some zoneId, b)) := by
    show p _ _ = p _ _
    rw [maxOf_eq hzone (Or.inl rfl), maxOf_eq hzone (Or.inr rfl)]
  rw [hsame, ← mem_map_filter_groupBy hkind]
  constructor
  · intro hk
    exact ⟨(some zoneId, b), List.mem_filter.mpr ⟨hk, by simp⟩, rfl⟩
  · rintro ⟨⟨z, b'⟩, hk, rfl⟩
    obtain ⟨hk, hz⟩ := List.mem_filter.mp hk
    have hz' : z = some zoneId := of_decide_eq_true hz
    rwa [hz'] at hk

/-! ## The minutes -/

/-- The figure of a zone in the comparison. -/
theorem filter_band {z : Zone ι String} (hz : z ∈ db.zones) {p : Option (Profile ι)} (hp : db.profileRows z = [p]) :
    ((q.band db).filter fun w => w.1 = some z.id) =
      if ((q.bandRows db).filter fun b => b.zoneId = some z.id) = [] then []
      else [(some z.id, minutesAboveBand (p.map Profile.setpointTempC) (p.map Profile.deadbandK)
        ((q.bandRows db).filter fun b => b.zoneId = some z.id))] := by
  have hbanded : ((q.banded db).filter fun r => r.1.zoneId = some z.id) =
      ((q.bandRows db).filter fun b => b.zoneId = some z.id).map fun b => (b, p) := by
    unfold CompareQuery.banded
    induction q.bandRows db with
    | nil => rfl
    | cons b rows ih =>
      rw [List.flatMap_cons, List.filter_append, ih]
      by_cases hb : b.zoneId = some z.id
      · have hone : (db.zones.filter fun z' => some z'.id = b.zoneId) = [z] := by
          rw [← filter_key_eq db.zoneIds hz]
          refine List.filter_congr fun z' _ => ?_
          rw [hb]
          simp
        rw [hone, List.flatMap_singleton, hp, List.filter_cons_of_pos (by simpa using hb)]
        simp [hb]
      · have hnone : (((db.zones.filter fun z' => some z'.id = b.zoneId).flatMap fun z' =>
            (db.profileRows z').map fun p => (b, p)).filter fun r => r.1.zoneId = some z.id) = [] := by
          refine List.filter_eq_nil_iff.mpr fun r hr => ?_
          obtain ⟨z', -, hr⟩ := List.mem_flatMap.mp hr
          obtain ⟨p', -, rfl⟩ := List.mem_map.mp hr
          simpa using hb
        rw [hnone, List.filter_cons_of_neg (by simpa using hb)]
        rfl
  have hgroups : ((groupBy (fun r : BandRow ι × Option (Profile ι) =>
      (r.1.zoneId, r.2.map Profile.setpointTempC, r.2.map Profile.deadbandK)) (q.banded db)).entries.filter
        fun g => decide (g.1.1 = some z.id)) =
      if ((q.banded db).filter fun r => r.1.zoneId = some z.id) = [] then []
      else [((some z.id, p.map Profile.setpointTempC, p.map Profile.deadbandK),
        (q.banded db).filter fun r => r.1.zoneId = some z.id)] := by
    refine filter_groupBy (p := fun k : Option ι × Option ℚ × Option ℚ => decide (k.1 = some z.id)) (by simp) ?_
    intro r hr hzone
    have hmem : r ∈ (q.banded db).filter fun r => r.1.zoneId = some z.id := List.mem_filter.mpr ⟨hr, hzone⟩
    rw [hbanded] at hmem
    obtain ⟨b, -, rfl⟩ := List.mem_map.mp hmem
    have hzone' : b.zoneId = some z.id := of_decide_eq_true hzone
    show (b.zoneId, _, _) = _
    rw [hzone']
  rw [CompareQuery.band, List.filter_map]
  refine (congrArg (List.map _) hgroups).trans ?_
  rw [hbanded]
  by_cases hnil : ((q.bandRows db).filter fun b => b.zoneId = some z.id) = []
  · rw [hnil]
    rfl
  · rw [if_neg (by simpa using hnil), if_neg hnil, List.map_singleton, List.map_map]
    simp [Function.comp_def]

/-- The comfort row of a zone. -/
theorem comfortRows_eq {c : ConditionsQuery ι} {z : Zone ι String} (hz : z ∈ db.zones) (hid : z.id = c.zoneId)
    {p : Option (Profile ι)} (hp : db.profileRows z = [p]) : c.comfortRows db =
      [comfortOf (p.map Profile.setpointTempC) (p.map Profile.deadbandK) (leftJoin (c.b db))] := by
  have hjudged : c.judged db = (leftJoin (c.b db)).map fun b => (p, b) := by
    rw [ConditionsQuery.judged, ← hid, filter_key_eq db.zoneIds hz, List.flatMap_singleton, hp,
      List.flatMap_singleton]
  have hne : leftJoin (c.b db) ≠ [] := by
    unfold leftJoin
    split_ifs with hnil
    · exact List.cons_ne_nil _ _
    · simpa using hnil
  have hgroups : ((groupBy (fun r : Option (Profile ι) × Option Judged =>
      (r.1.map Profile.setpointTempC, r.1.map Profile.deadbandK)) (c.judged db)).entries.filter fun _ => true) =
      if ((c.judged db).filter fun _ => true) = [] then []
      else [((p.map Profile.setpointTempC, p.map Profile.deadbandK), (c.judged db).filter fun _ => true)] := by
    refine filter_groupBy (p := fun _ : Option ℚ × Option ℚ => true) rfl ?_
    intro r hr _
    rw [hjudged] at hr
    obtain ⟨b, -, rfl⟩ := List.mem_map.mp hr
    rfl
  rw [List.filter_true, List.filter_true, hjudged, if_neg (by simpa using hne)] at hgroups
  rw [ConditionsQuery.comfortRows, hjudged, hgroups, List.map_singleton, List.map_map]
  simp [Function.comp_def]

/-- **The minutes above the design band** are the same in both. -/
theorem minutes_eq {z : Zone ι String} (hz : z ∈ db.zones) (hzone : z.id ∈ (q.zs db).map ZoneStats.id)
    {p : Option (Profile ι)} (hp : db.profileRows z = [p]) :
    ((leftJoin ((q.band db).filter fun w => w.1 = some z.id)).map fun w => w.bind Prod.snd) =
      [(comfortOf (p.map Profile.setpointTempC) (p.map Profile.deadbandK)
        (leftJoin ((⟨z.id, q.hoursFrom, q.hoursTo⟩ : ConditionsQuery ι).b db))).aboveDesignBandMin] := by
  have hocc : count (leftJoin ((⟨z.id, q.hoursFrom, q.hoursTo⟩ : ConditionsQuery ι).b db)) (fun b => b.occ.isSome) =
      ((q.bandRows db).filter fun b => b.zoneId = some z.id).countP fun b => b.occ.isSome :=
    count_eq hzone (fun _ occ => occ.isSome) rfl
  have hoccupied : count (leftJoin ((⟨z.id, q.hoursFrom, q.hoursTo⟩ : ConditionsQuery ι).b db)) Judged.occupied =
      ((q.bandRows db).filter fun b => b.zoneId = some z.id).countP BandRow.occupied :=
    count_eq hzone (fun _ occ => occ.any fun n => decide (0 < n)) rfl
  have hjudged : count (leftJoin ((⟨z.id, q.hoursFrom, q.hoursTo⟩ : ConditionsQuery ι).b db))
      (fun b => b.occupied && b.zt.isSome) =
      ((q.bandRows db).filter fun b => b.zoneId = some z.id).countP fun b => b.occupied && b.zt.isSome :=
    count_eq hzone (fun zt occ => (occ.any fun n => decide (0 < n)) && zt.isSome) rfl
  have habove : count (leftJoin ((⟨z.id, q.hoursFrom, q.hoursTo⟩ : ConditionsQuery ι).b db))
      (fun b => b.occupied && above b.zt (p.map Profile.setpointTempC) (p.map Profile.deadbandK)) =
      ((q.bandRows db).filter fun b => b.zoneId = some z.id).countP fun b =>
        b.occupied && above b.zt (p.map Profile.setpointTempC) (p.map Profile.deadbandK) :=
    count_eq hzone (fun zt occ => (occ.any fun n => decide (0 < n)) &&
      above zt (p.map Profile.setpointTempC) (p.map Profile.deadbandK)) rfl
  have hminutes : (comfortOf (p.map Profile.setpointTempC) (p.map Profile.deadbandK)
      (leftJoin ((⟨z.id, q.hoursFrom, q.hoursTo⟩ : ConditionsQuery ι).b db))).aboveDesignBandMin =
      minutesAboveBand (p.map Profile.setpointTempC) (p.map Profile.deadbandK)
        ((q.bandRows db).filter fun b => b.zoneId = some z.id) := by
    simp only [comfortOf, minutesAboveBand, NotJudged, hocc, hoccupied, hjudged, habove]
  rw [filter_band hz hp, hminutes]
  split_ifs with hnil
  · -- No bucket of the zone is read, and nothing is known of its occupancy.
    rw [hnil]
    rfl
  · rfl

/-! ## The mean temperature -/

/-- The temperature points of a zone. -/
def Database.thermometers (db : Database ι) (zoneId : ι) : List (Sensor ι) :=
  db.sensors.filter fun s => s.zoneId = some zoneId ∧ s.metric = .temperatureC ∧ s.isActive

theorem nodup_thermometers (db : Database ι) (zoneId : ι) : ((db.thermometers zoneId).map Sensor.id).Nodup :=
  db.sensorIds.sublist (List.filter_sublist.map Sensor.id)

/-- The mean of the conditions is that of the good samples. -/
theorem temperatureMean_eq {c : ConditionsQuery ι} (hfrom : Width.fiveMinutes.ms ∣ c.fromMs)
    (hto : Width.fiveMinutes.ms ∣ c.toMs) {now : ℤ} {r : ZoneConditions ι}
    (hr : copilotZoneConditions db c now = some r) : r.temperatureMean =
      sqlAvg ((goodIn db.telemetry ((db.thermometers c.zoneId).map Sensor.id) c.fromMs c.toMs).map Sample.value) := by
  have hgroup : ((c.points db).filter fun r => r.1.metric = .temperatureC) =
      (db.thermometers c.zoneId).flatMap fun s =>
        (leftJoin (rowsIn .fiveMinutes db.telemetry c.fromMs c.toMs s.id)).map fun a => (s, a) := by
    rw [ConditionsQuery.points, filter_flatMap_pair fun s : Sensor ι => decide (s.metric = .temperatureC),
      List.filter_filter]
    refine congrArg (List.flatMap _) (List.filter_congr fun s _ => ?_)
    rw [Bool.eq_iff_iff]
    simp only [Bool.and_eq_true, decide_eq_true_eq]
    constructor
    · rintro ⟨hmetric, hzone, hactive, -⟩
      exact ⟨hzone, hmetric, hactive⟩
    · rintro ⟨hzone, hmetric, hactive⟩
      refine ⟨hmetric, hzone, hactive, ?_⟩
      rw [hmetric]
      decide
  have hrows : ((((c.points db).filter fun r => r.1.metric = .temperatureC).map Prod.snd).reduceOption) =
      ((db.thermometers c.zoneId).map Sensor.id).flatMap (rowsIn .fiveMinutes db.telemetry c.fromMs c.toMs) := by
    rw [hgroup, List.map_flatMap, List.flatMap_map]
    simp only [List.map_map, Function.comp_def, List.map_id']
    exact reduceOption_flatMap_leftJoin _ _
  rw [← goodMean_rows (nodup_thermometers db _) hfrom hto hrows]
  obtain ⟨d, -, rfl⟩ := Option.map_eq_some_iff.mp hr
  have hget := get?_groupBy (fun r : Sensor ι × Option RollupRow => r.1.metric) .temperatureC (c.points db)
  rw [get?] at hget
  have hfind : ∀ (n : ℤ) (groups : List (MetricType × List (Sensor ι × Option RollupRow))),
      ((groups.map (metricRow n)).find? fun r => r.metric = .temperatureC) =
        (groups.find? fun g => g.1 = .temperatureC).map (metricRow n) := fun _ _ => List.find?_map
  rw [ZoneConditions.temperatureMean, hfind]
  split_ifs at hget with hnil
  · rw [Option.map_eq_none_iff.mp hget, hnil]
    rfl
  · obtain ⟨g, hg, hsnd⟩ := Option.map_eq_some_iff.mp hget
    rw [hg, ← hsnd]
    rfl

/-- The mean of the comparison is that of the good samples. -/
theorem mean_hours (hmetric : q.metric = .temperatureC) (hfrom : Width.hour.ms ∣ q.fromMs)
    (hto : Width.hour.ms ∣ q.toMs)
    (zoneId : ι) : goodMean (q.hours db zoneId) =
      sqlAvg ((goodIn db.telemetry ((db.thermometers zoneId).map Sensor.id) q.fromMs q.toMs).map Sample.value) := by
  refine goodMean_rows (nodup_thermometers db _) hfrom hto ?_
  rw [CompareQuery.hours, reduceOption_elim_leftJoin fun s : Sensor ι =>
    rowsIn .hour db.telemetry q.fromMs q.toMs s.id, hmetric, List.flatMap_map]
  rfl

/-! ## Whole hours -/

theorem hourUp_eq {t : ℤ} (ht : Width.hour.ms ∣ t) : hourUp t = t := by
  obtain ⟨k, rfl⟩ := ht
  have hms : Width.hour.ms = 3600000 := rfl
  have hdiv : (((3600000 * k : ℤ) : ℚ)) / 3600000 = (k : ℚ) := by
    push_cast
    exact mul_div_cancel_left₀ _ (by norm_num)
  rw [hms, hourUp, hdiv, Int.ceil_intCast, mul_comm]

/-- A window that ends before it begins is empty. -/
theorem rowsIn_max (w : Width) (telemetry : List (Sample ι)) (fromMs toMs : ℤ) (id : ι) :
    rowsIn w telemetry fromMs (max fromMs toMs) id = rowsIn w telemetry fromMs toMs id := by
  unfold rowsIn
  refine List.filter_congr fun a _ => ?_
  rw [decide_eq_decide]
  omega

theorem joined_max (p : Sensor ι → Bool) (fromMs toMs : ℤ) :
    db.joined p fromMs (max fromMs toMs) = db.joined p fromMs toMs := by
  unfold Database.joined
  simp only [rowsIn_max]

/-! ## Both -/

/-- What the comparison says of a zone is what its conditions say. -/
def Agrees (db : Database ι) (q : CompareQuery ι) (now : ℤ) (row : ZoneRankRow ι) : Prop :=
  ∃ c, copilotZoneConditions db ⟨row.zoneId, q.fromMs, q.toMs⟩ now = some c ∧ row.mean = c.temperatureMean ∧
    (q.orderBy = .minutesAboveBand → row.minutesAboveBandMin = some c.comfort.aboveDesignBandMin)

theorem mem_scope {z : Zone ι String} {f : Floor ι String} (h : (z, f) ∈ q.scope db) :
    z ∈ db.zones ∧ f ∈ db.floors ∧ f.id = z.floorId := by
  obtain ⟨z', hz, hpair⟩ := List.mem_flatMap.mp h
  obtain ⟨f', hf, heq⟩ := List.mem_map.mp hpair
  obtain ⟨rfl, rfl⟩ := Prod.mk.inj heq
  obtain ⟨hmem, hfloor⟩ := List.mem_filter.mp hf
  exact ⟨hz, hmem, (of_decide_eq_true hfloor).1⟩

/-- The rows of the comparison are of the zones in its scope, each with its minutes if they are asked for. -/
theorem exists_of_mem_rows {row : ZoneRankRow ι} (h : row ∈ q.rows db) : ∃ z f, (z, f) ∈ q.scope db ∧
    row.zoneId = z.id ∧ row.mean = goodMean (q.hours db z.id) ∧ (q.orderBy = .minutesAboveBand →
      ∃ w ∈ (leftJoin ((q.band db).filter fun w => w.1 = some z.id)).map (fun w => w.bind Prod.snd),
        row.minutesAboveBandMin = some w) := by
  obtain ⟨s, hs, hrow⟩ := List.mem_flatMap.mp h
  obtain ⟨⟨z, f⟩, hscope, rfl⟩ := List.mem_map.mp hs
  obtain ⟨w, hw, rfl⟩ := List.mem_map.mp hrow
  refine ⟨z, f, hscope, rfl, rfl, fun horder => ?_⟩
  rw [if_pos horder] at hw
  obtain ⟨w', hw', rfl⟩ := List.mem_map.mp hw
  exact ⟨_, List.mem_map.mpr ⟨w', hw', rfl⟩, rfl⟩

/-- A zone has its conditions. -/
theorem exists_conditions {z : Zone ι String} {f : Floor ι String} (h : (z, f) ∈ q.scope db) {p : Option (Profile ι)}
    (hp : db.profileRows z = [p]) (now : ℤ) : ∃ c,
      copilotZoneConditions db ⟨z.id, q.fromMs, q.toMs⟩ now = some c ∧
        c.comfort = comfortOf (p.map Profile.setpointTempC) (p.map Profile.deadbandK)
          (leftJoin ((⟨z.id, q.fromMs, q.toMs⟩ : ConditionsQuery ι).b db)) := by
  obtain ⟨hz, hf, hfloor⟩ := mem_scope h
  have hne : (⟨z.id, q.fromMs, q.toMs⟩ : ConditionsQuery ι).designs db ≠ [] := by
    refine List.ne_nil_of_mem (a := (z, f, p)) ?_
    refine List.mem_flatMap.mpr ⟨z, List.mem_filter.mpr ⟨hz, by simp⟩, List.mem_flatMap.mpr ⟨f, ?_, ?_⟩⟩
    · exact List.mem_filter.mpr ⟨hf, by simpa using hfloor⟩
    · rw [hp, List.map_singleton]
      exact List.mem_singleton_self _
  obtain ⟨d, designs, hdesigns⟩ := List.exists_cons_of_ne_nil hne
  refine ⟨_, by rw [copilotZoneConditions, hdesigns, List.head?_cons, Option.map_some], ?_⟩
  show (List.head? _).getD _ = _
  rw [comfortRows_eq hz rfl hp]
  rfl

theorem agrees_of_mem_rows (hmetric : q.metric = .temperatureC) (hfrom : Width.hour.ms ∣ q.fromMs)
    (hto : Width.hour.ms ∣ q.toMs) (now : ℤ) {row : ZoneRankRow ι} (h : row ∈ q.rows db) : Agrees db q now row := by
  obtain ⟨z, f, hscope, hid, hmean, hminutes⟩ := exists_of_mem_rows h
  obtain ⟨hz, -, -⟩ := mem_scope hscope
  obtain ⟨p, hp⟩ := exists_profileRows db z
  obtain ⟨c, hc, hcomfort⟩ := exists_conditions hscope hp now
  have hhour : Width.fiveMinutes.ms ∣ Width.hour.ms := ⟨12, rfl⟩
  have hwindow : (⟨z.id, q.hoursFrom, q.hoursTo⟩ : ConditionsQuery ι).b db =
      (⟨z.id, q.fromMs, q.toMs⟩ : ConditionsQuery ι).b db := by
    have hto' : q.hoursTo = max q.fromMs q.toMs := by
      rw [CompareQuery.hoursTo, CompareQuery.hoursFrom, hourUp_eq hfrom, hourUp_eq hto]
    have hfrom' : q.hoursFrom = q.fromMs := hourUp_eq hfrom
    rw [hto', hfrom']
    unfold ConditionsQuery.b ConditionsQuery.m
    rw [joined_max]
  refine ⟨c, hid ▸ hc, ?_, fun horder => ?_⟩
  · rw [hmean, mean_hours hmetric hfrom hto,
      temperatureMean_eq (hhour.trans hfrom) (hhour.trans hto) hc]
  · obtain ⟨w, hw, hrow⟩ := hminutes horder
    have hzone : z.id ∈ (q.zs db).map ZoneStats.id := by
      rw [CompareQuery.zs, List.map_map]
      exact List.mem_map.mpr ⟨(z, f), hscope, rfl⟩
    rw [minutes_eq hz hzone hp, List.mem_singleton] at hw
    rw [hrow, hw, hwindow, hcomfort]

/-- The minutes that are joined to a zone: one row. -/
theorem exists_minutes (q : CompareQuery ι) {z : Zone ι String} {f : Floor ι String} (h : (z, f) ∈ q.scope db) :
    ∃ w, (if q.orderBy = .minutesAboveBand then
      (leftJoin ((q.band db).filter fun w => w.1 = some z.id)).map fun w => some (w.bind Prod.snd)
    else [none]) = [w] := by
  obtain ⟨hz, -, -⟩ := mem_scope h
  obtain ⟨p, hp⟩ := exists_profileRows db z
  have hzone : z.id ∈ (q.zs db).map ZoneStats.id := by
    rw [CompareQuery.zs, List.map_map]
    exact List.mem_map.mpr ⟨(z, f), h, rfl⟩
  have hone := congrArg (List.map some) (minutes_eq hz hzone hp)
  rw [List.map_map, List.map_singleton] at hone
  split_ifs
  · exact ⟨_, hone⟩
  · exact ⟨none, rfl⟩

/-- There is a row for each zone in scope. -/
theorem map_zoneId_rows (db : Database ι) (q : CompareQuery ι) :
    (q.rows db).map ZoneRankRow.zoneId = (q.scope db).map fun zf => zf.1.id := by
  unfold CompareQuery.rows CompareQuery.zs
  rw [List.flatMap_map, List.map_flatMap, ← List.flatMap_singleton' ((q.scope db).map _), List.flatMap_map]
  refine List.flatMap_congr fun zf hzf => ?_
  obtain ⟨w, hw⟩ := exists_minutes q hzf
  rw [hw]
  rfl

/-- **Two answers about comfort.**  Over whole hours, every zone that the comparison answers for has its mean
temperature and its minutes above the design band as its conditions have them, and unless the list is cut every zone in
scope is in it. -/
theorem comfort_agrees (db : Database ι) (q : CompareQuery ι) (le : String → String → Bool) (now : ℤ)
    (hmetric : q.metric = .temperatureC) (hfrom : Width.hour.ms ∣ q.fromMs) (hto : Width.hour.ms ∣ q.toMs) :
    ∃ rows, copilotCompareZones db q le now = .ok rows ∧ (∀ row ∈ rows.items, Agrees db q now row) ∧
      ((q.scope db).length ≤ q.limit → ∀ zf ∈ q.scope db, ∃ row ∈ rows.items, row.zoneId = zf.1.id) := by
  have hgo : ¬ (q.orderBy = .minutesAboveBand ∧ q.metric ≠ .temperatureC) := fun h => h.2 hmetric
  have hmem : ∀ row, row ∈ (q.rows db).insertionSort (fun r r' => q.rankLe le r r') ↔ row ∈ q.rows db := fun row =>
    List.mem_insertionSort _
  refine ⟨_, by rw [copilotCompareZones, if_neg hgo], fun row hrow => ?_, fun hlimit zf hzf => ?_⟩
  · exact agrees_of_mem_rows hmetric hfrom hto now ((hmem row).mp (List.mem_of_mem_take hrow))
  · have hlength := congrArg List.length (map_zoneId_rows db q)
    rw [List.length_map, List.length_map] at hlength
    have hid : zf.1.id ∈ (q.rows db).map ZoneRankRow.zoneId := by
      rw [map_zoneId_rows]
      exact List.mem_map.mpr ⟨zf, hzf, rfl⟩
    obtain ⟨row, hrow, heq⟩ := List.mem_map.mp hid
    refine ⟨row, ?_, heq⟩
    show row ∈ List.take _ _
    rw [List.take_of_length_le (by rwa [List.length_insertionSort, hlength])]
    exact (hmem row).mpr hrow

/-- An office of 22 ± 0.5 °C, and an hour in which it was occupied once, at 24 °C. -/
def office : Database ℕ where
  floors := [⟨1, 7, 0, "ground"⟩]
  zones := [⟨10, 1, "office", some 40, some 5⟩]
  profiles := [⟨5, 22, 1⟩]
  sensors := [⟨100, none, some 10, .temperatureC, true⟩, ⟨101, none, some 10, .occupancyCount, true⟩]
  telemetry := [⟨0, 100, 24, 0⟩, ⟨0, 101, 3, 0⟩, ⟨600000, 100, 20, 0⟩]
  floorIds := by decide
  zoneIds := by decide
  profileIds := by decide
  sensorIds := by decide
  zoneFloors := by decide

/-- The office, ranked by its minutes. -/
def officeQuery : CompareQuery ℕ := ⟨.temperatureC, 0, 3600000, none, .minutesAboveBand, 10, 7⟩

theorem comfort_agrees_office : ∃ rows, copilotCompareZones office officeQuery (fun _ _ => true) 3600000 = .ok rows ∧
    (∀ row ∈ rows.items, Agrees office officeQuery 3600000 row) ∧
      ((officeQuery.scope office).length ≤ officeQuery.limit → ∀ zf ∈ officeQuery.scope office,
        ∃ row ∈ rows.items, row.zoneId = zf.1.id) :=
  comfort_agrees office officeQuery (fun _ _ => true) 3600000 rfl ⟨0, rfl⟩ ⟨1, rfl⟩

example : ((officeQuery.rows office).map fun row => (row.mean, row.minutesAboveBandMin)) =
    [(some 22, some (some 5))] := by
  decide +kernel

end DTwin.Db.Comfort
