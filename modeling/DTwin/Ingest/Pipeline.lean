import DTwin.Ingest.Writer
import DTwin.Rules.Conditions

/-!
# DTwin.Ingest.Pipeline — from a device's batch to readings

`RawReading` and `RawTelemetryBatch` of `packages/types/src/telemetry.ts`, `apps/ingest/src/quality.ts`, and the loop of
`ingestRaw` of `apps/ingest/src/pipeline.ts`.  The registry is its `lookup`.  The refresh that an unknown id asks for
and the names a batch gives to its source are left out.
-/

namespace DTwin.Ingest

/-- A reading as a device sends it: `ts` absent means stamp on arrival, and `z.number()` refuses `NaN` only. -/
structure RawReading where
  externalId : String
  ts : Option ℤ
  value : JsNumber
  quality : Option Quality
  externalId_ne : externalId ≠ ""
  value_ne : value ≠ .nan

structure RawTelemetryBatch where
  readings : List RawReading
  nonempty : 1 ≤ readings.length
  atMost : readings.length ≤ 10000

/-- A sensor of the registry, with the range its values are plausible in. -/
structure RegisteredSensor (sensors : Sensors) extends Rules.RegisteredSensor where
  minPlausible : Option ℚ
  maxPlausible : Option ℚ
  owned : sensors id = some tenantId

/-- `lookup` of the registry: by tenant and external id. -/
abbrev Registry (sensors : Sensors) := Uuid → String → Option (RegisteredSensor sensors)

variable {sensors : Sensors}

/-- Assign a quality code to an incoming value. -/
def assessQuality (sensor : RegisteredSensor sensors) (value : JsNumber) (declared : Option Quality) : Quality :=
  match declared.filter (· ≠ .good) with
  | some quality => quality
  | none =>
    if ¬ value.isFinite then .deviceFault
    else if sensor.minPlausible.any value.below then .outOfRange
    else if sensor.maxPlausible.any value.above then .outOfRange
    else .good

/-- The configuration of the service, with how far ahead of its clock a reading may be. -/
structure PipelineConfig extends Config where
  maxClockSkewMs : ℕ
  maxClockSkewMs_pos : 0 < maxClockSkewMs

structure IngestResult where
  accepted : ℕ
  unknownIds : List String
  flagged : ℕ
  futureDated : ℕ

/-- What the loop of `ingestRaw` collects: each reading with its sensor. -/
structure Collected (sensors : Sensors) where
  readings : List (RegisteredSensor sensors × OwnedReading sensors)
  unknown : List String
  flagged : ℕ
  futureDated : ℕ

/-- Is a reading stamped `ts` refused, and not stored flagged? -/
def PipelineConfig.FutureDated (cfg : PipelineConfig) (now ts : ℤ) : Prop := now + cfg.maxClockSkewMs < ts

instance (cfg : PipelineConfig) (now ts : ℤ) : Decidable (cfg.FutureDated now ts) :=
  inferInstanceAs (Decidable (now + cfg.maxClockSkewMs < ts))

/-- The reading of a sensor that a raw reading is. -/
def readingOf (sensor : RegisteredSensor sensors) (now : ℤ) (raw : RawReading) : OwnedReading sensors where
  sensorId := sensor.id
  ts := raw.ts.getD now
  value := raw.value
  quality := assessQuality sensor raw.value raw.quality
  tenantId := sensor.tenantId
  resolved := sensor.owned

/-- One turn of the loop of `ingestRaw`. -/
def collect (cfg : PipelineConfig) (registry : Registry sensors) (tenantId : Uuid) (now : ℤ)
    (acc : Collected sensors) (raw : RawReading) : Collected sensors :=
  match registry tenantId raw.externalId with
  | none =>
    if raw.externalId ∈ acc.unknown then acc else { acc with unknown := acc.unknown ++ [raw.externalId] }
  | some sensor =>
    let reading := readingOf sensor now raw
    if cfg.FutureDated now reading.ts then { acc with futureDated := acc.futureDated + 1 }
    else
      { acc with
        readings := acc.readings ++ [(sensor, reading)]
        flagged := if reading.quality ≠ .good then acc.flagged + 1 else acc.flagged }

/-- `ingestRaw`: what it answers, and what it hands to the writer and the fanout. -/
def ingestRaw (cfg : PipelineConfig) (registry : Registry sensors) (tenantId : Uuid) (batch : RawTelemetryBatch)
    (now : ℤ) : IngestResult × List (RegisteredSensor sensors × OwnedReading sensors) :=
  let c := batch.readings.foldl (collect cfg registry tenantId now) ⟨[], [], 0, 0⟩
  (⟨c.readings.length, c.unknown, c.flagged, c.futureDated⟩, c.readings)

/-- The readings that `ingestRaw` accepts. -/
def accepted (cfg : PipelineConfig) (registry : Registry sensors) (tenantId : Uuid) (batch : RawTelemetryBatch)
    (now : ℤ) : List (OwnedReading sensors) :=
  (ingestRaw cfg registry tenantId batch now).2.map Prod.snd

/-! ## What is accepted -/

/-- The reading that one turn of the loop collects. -/
def resolve (cfg : PipelineConfig) (registry : Registry sensors) (tenantId : Uuid) (now : ℤ) (raw : RawReading) :
    Option (RegisteredSensor sensors × OwnedReading sensors) :=
  (registry tenantId raw.externalId).bind fun sensor =>
    if cfg.FutureDated now (raw.ts.getD now) then none else some (sensor, readingOf sensor now raw)

theorem readings_collect (cfg : PipelineConfig) (registry : Registry sensors) (tenantId : Uuid) (now : ℤ)
    (acc : Collected sensors) (raw : RawReading) :
    (collect cfg registry tenantId now acc raw).readings =
      acc.readings ++ (resolve cfg registry tenantId now raw).toList := by
  unfold collect resolve
  cases registry tenantId raw.externalId with
  | none =>
    simp only [Option.bind_none, Option.toList_none, List.append_nil]
    split_ifs <;> rfl
  | some sensor =>
    by_cases hfuture : cfg.FutureDated now (raw.ts.getD now)
    · simp [readingOf, hfuture]
    · simp [readingOf, hfuture]

theorem readings_foldl_collect (cfg : PipelineConfig) (registry : Registry sensors) (tenantId : Uuid) (now : ℤ) :
    ∀ (raws : List RawReading) (acc : Collected sensors),
      (raws.foldl (collect cfg registry tenantId now) acc).readings =
        acc.readings ++ raws.flatMap fun raw => (resolve cfg registry tenantId now raw).toList
  | [], acc => (List.append_nil _).symm
  | raw :: raws, acc => by
    rw [List.foldl_cons, readings_foldl_collect cfg registry tenantId now raws, readings_collect,
      List.flatMap_cons, List.append_assoc]

/-- **Acceptance.**  A reading is accepted exactly when its sensor is known to the tenant and it is not ahead of the
clock. -/
theorem mem_ingestRaw {cfg : PipelineConfig} {registry : Registry sensors} {tenantId : Uuid}
    {batch : RawTelemetryBatch} {now : ℤ} {sensor : RegisteredSensor sensors} {reading : OwnedReading sensors} :
    (sensor, reading) ∈ (ingestRaw cfg registry tenantId batch now).2 ↔
      ∃ raw ∈ batch.readings, registry tenantId raw.externalId = some sensor ∧
        ¬ cfg.FutureDated now (raw.ts.getD now) ∧ reading = readingOf sensor now raw := by
  rw [ingestRaw, readings_foldl_collect, List.nil_append, List.mem_flatMap]
  refine exists_congr fun raw => and_congr_right fun _ => ?_
  rw [Option.mem_toList, resolve, Option.bind_eq_some_iff]
  constructor
  · rintro ⟨sensor', hlookup, h⟩
    split_ifs at h with hfuture
    cases h
    exact ⟨hlookup, hfuture, rfl⟩
  · rintro ⟨hlookup, hfuture, rfl⟩
    exact ⟨sensor, hlookup, if_neg hfuture⟩

theorem mem_accepted {cfg : PipelineConfig} {registry : Registry sensors} {tenantId : Uuid}
    {batch : RawTelemetryBatch} {now : ℤ} {reading : OwnedReading sensors} :
    reading ∈ accepted cfg registry tenantId batch now ↔
      ∃ raw ∈ batch.readings, ∃ sensor, registry tenantId raw.externalId = some sensor ∧
        ¬ cfg.FutureDated now (raw.ts.getD now) ∧ reading = readingOf sensor now raw := by
  simp only [accepted, List.mem_map, Prod.exists, exists_eq_right, mem_ingestRaw]
  exact ⟨fun ⟨sensor, raw, hraw, h⟩ => ⟨raw, hraw, sensor, h⟩, fun ⟨raw, hraw, sensor, h⟩ => ⟨sensor, raw, hraw, h⟩⟩

end DTwin.Ingest
