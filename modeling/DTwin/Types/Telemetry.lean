import DTwin.Lib.Json
import Mathlib.Data.Rat.Floor
import Mathlib.Tactic.Linarith
import Mathlib.Tactic.Common

/-!
# DTwin.Types.Telemetry — readings, quality codes and the staleness rule

`packages/types/src/{telemetry,freshness,enums}.ts`.  Instants are integers, epoch milliseconds;
measured values are rationals where they are computed with (every finite double is one, and no rounding of the
arithmetic is modelled), and `JsNumber`s where they are only carried.
A `uuid` is an opaque number: only equality and the order of `ORDER BY id` are ever used.
-/

namespace DTwin

abbrev Uuid := ℕ

/-- Quality codes of `telemetry.quality`. -/
inductive Quality | good | uncertain | outOfRange | stale | deviceFault
deriving DecidableEq, Repr

/-- The number stored and sent for a quality. -/
def Quality.code : Quality → ℕ
  | good => 0
  | uncertain => 1
  | outOfRange => 2
  | stale => 3
  | deviceFault => 4

inductive MetricType
  | temperatureC | humidityPct | co2Ppm | powerKw | energyKwh | occupancyCount | pressurePa
  | airflowCmh | valvePositionPct | damperPositionPct | setpointTempC | waterM3 | illuminanceLux
deriving DecidableEq, Repr

inductive EquipmentStatus | operational | degraded | fault | offline | maintenance
deriving DecidableEq, Repr

def EquipmentStatus.name : EquipmentStatus → String
  | operational => "operational"
  | degraded => "degraded"
  | fault => "fault"
  | offline => "offline"
  | maintenance => "maintenance"

/-- A reading of one sensor, as ingest resolved it. -/
structure Reading (ν : Type := ℚ) where
  sensorId : Uuid
  ts : ℤ
  value : ν
  quality : Quality
deriving DecidableEq, Repr

/-- An hour, in milliseconds. -/
def HOUR_MS : ℤ := 3600000

/-! ## Freshness -/

/-- Missed samples before a point is considered stale. -/
def staleIntervals : ℤ := 3

def staleAfterMs (sampleIntervalS : ℤ) : ℤ := sampleIntervalS * staleIntervals * 1000

/-- Age of a reading taken at `ts` that arrived at `receivedAt`; silence before `notBefore` is not
held against it. -/
def readingAgeMs (ts receivedAt now notBefore : ℤ) : ℤ :=
  max 0 (now - max (min ts receivedAt) notBefore)

def isReadingStale (ts receivedAt : ℤ) (sampleIntervalS : ℤ) (now notBefore : ℤ) : Bool :=
  readingAgeMs ts receivedAt now notBefore > staleAfterMs sampleIntervalS

theorem isReadingStale_iff {ts receivedAt now notBefore : ℤ} {i : ℤ} :
    isReadingStale ts receivedAt i now notBefore = true ↔
      staleAfterMs i < max 0 (now - max (min ts receivedAt) notBefore) := by
  simp [isReadingStale, readingAgeMs]

/-- A later arrival, device time or floor only makes a reading fresher. -/
theorem isReadingStale_mono {ts ts' rcv rcv' now nb nb' : ℤ} {i : ℤ} (hts : ts ≤ ts')
    (hrcv : rcv ≤ rcv') (hnb : nb ≤ nb') (h : isReadingStale ts' rcv' i now nb' = true) :
    isReadingStale ts rcv i now nb = true := by
  rw [isReadingStale_iff] at h ⊢
  have : max (min ts rcv) nb ≤ max (min ts' rcv') nb' := max_le_max (min_le_min hts hrcv) hnb
  exact lt_of_lt_of_le h (max_le_max le_rfl (by omega))

/-! ## Text -/

/-- `Number.prototype.toFixed(1)`: the nearest tenth, ties away from zero, sign kept. -/
def toFixed1 (x : ℚ) : String :=
  let n : ℕ := ⌊|x| * 10 + 1 / 2⌋.toNat
  (if x < 0 then "-" else "") ++ toString (n / 10) ++ "." ++ toString (n % 10)

example : toFixed1 (51 / 2) = "25.5" := by decide +kernel

end DTwin
