import DTwin.Types.Telemetry
import Mathlib.Data.List.Count

/-!
# DTwin.Web.Live — what the dashboard may draw

`apps/web/lib/live.ts`: the reading a browser keeps for a point, the reduction of a zone's points for one
metric, and the source a zone is drawn from.  A zone is drawn live exactly when some point has a Good
reading that is not stale (`zoneSource_eq_live_iff`).
-/

namespace DTwin.Web

/-- What the browser remembers about a point: `ts` is the device's clock, `receivedAt` its own. -/
structure LiveReading where
  value : ℚ
  ts : ℤ
  quality : Quality
  receivedAt : ℤ
deriving DecidableEq

def ageMs (reading : LiveReading) (now listeningSince : ℤ) : ℤ :=
  readingAgeMs reading.ts reading.receivedAt now listeningSince

def isStale (reading : LiveReading) (sampleIntervalS now listeningSince : ℤ) : Bool :=
  isReadingStale reading.ts reading.receivedAt sampleIntervalS now listeningSince

/-- Keep the newer of two readings for a point: the latest measurement, not the latest packet. -/
def newer (held : Option LiveReading) (incoming : LiveReading) : LiveReading :=
  match held with
  | some h => if h.ts > incoming.ts then h else incoming
  | none => incoming

/-- What the browser holds once these frames have arrived, in this order. -/
def held (arrivals : List LiveReading) : Option LiveReading :=
  arrivals.foldl (fun h r => some (newer h r)) none

structure PointInput where
  sampleIntervalS : ℤ
  reading : Option LiveReading

structure ZoneLive where
  value : Option ℚ
  used : ℕ
  flagged : ℕ
  stale : ℕ
  waiting : ℕ
  silent : ℕ
  staleForMs : Option ℤ

/-- One turn of the loop of `reduceZone`, over the running sum and the counts so far. -/
def reducePoint (now listeningSince : ℤ) (acc : ℚ × ZoneLive) (p : PointInput) : ℚ × ZoneLive :=
  match p.reading with
  | none =>
    if now - listeningSince > p.sampleIntervalS * staleIntervals * 1000 then
      (acc.1, { acc.2 with silent := acc.2.silent + 1 })
    else (acc.1, { acc.2 with waiting := acc.2.waiting + 1 })
  | some reading =>
    if isStale reading p.sampleIntervalS now listeningSince then
      let age := ageMs reading now listeningSince
      (acc.1, { acc.2 with
        stale := acc.2.stale + 1
        staleForMs := some ((acc.2.staleForMs.map (min · age)).getD age) })
    else if reading.quality ≠ .good then (acc.1, { acc.2 with flagged := acc.2.flagged + 1 })
    else (acc.1 + reading.value, { acc.2 with used := acc.2.used + 1 })

/-- Reduce a zone's points for one metric to what may be drawn. -/
def reduceZone (points : List PointInput) (now listeningSince : ℤ) : ZoneLive :=
  let r := points.foldl (reducePoint now listeningSince) (0, ⟨none, 0, 0, 0, 0, 0, none⟩)
  if r.2.used > 0 then { r.2 with value := some (r.1 / r.2.used) } else r.2

inductive ZoneSource | live | baseline | stale | flagged | none
deriving DecidableEq

/-- Which source a zone is drawn from. -/
def zoneSource (live : ZoneLive) (hasBaseline : Bool) : ZoneSource :=
  if live.used > 0 then .live
  else if live.stale > 0 ∨ live.silent > 0 then .stale
  else if live.flagged > 0 then .flagged
  else if live.waiting > 0 ∧ hasBaseline then .baseline
  else .none

/-! ## When a zone is live -/

/-- A point whose reading may enter the mean. -/
def PointInput.usable (now listeningSince : ℤ) (p : PointInput) : Bool :=
  p.reading.any fun r => !isStale r p.sampleIntervalS now listeningSince && r.quality == .good

theorem reducePoint_used (now listeningSince : ℤ) (acc : ℚ × ZoneLive) (p : PointInput) :
    (reducePoint now listeningSince acc p).2.used =
      acc.2.used + if p.usable now listeningSince then 1 else 0 := by
  unfold reducePoint PointInput.usable
  cases p.reading with
  | none => dsimp only; split_ifs <;> simp_all
  | some r =>
    cases hs : isStale r p.sampleIntervalS now listeningSince <;>
      by_cases hq : r.quality = .good <;> simp [hs, hq]

theorem foldl_reducePoint_used (now listeningSince : ℤ) :
    ∀ (points : List PointInput) (acc : ℚ × ZoneLive),
      (points.foldl (reducePoint now listeningSince) acc).2.used =
        acc.2.used + points.countP (PointInput.usable now listeningSince)
  | [], _ => rfl
  | p :: points, acc => by
    rw [List.foldl_cons, foldl_reducePoint_used now listeningSince points, reducePoint_used,
      List.countP_cons]
    omega

/-- `used` counts the usable points. -/
theorem reduceZone_used (points : List PointInput) (now listeningSince : ℤ) :
    (reduceZone points now listeningSince).used =
      points.countP (PointInput.usable now listeningSince) := by
  have h := foldl_reducePoint_used now listeningSince points (0, ⟨none, 0, 0, 0, 0, 0, none⟩)
  rw [Nat.zero_add] at h
  rw [← h]
  unfold reduceZone
  dsimp only
  split_ifs <;> rfl

/-- **Drawn live**: some point has a Good reading that is not stale. -/
theorem zoneSource_eq_live_iff (points : List PointInput) (now listeningSince : ℤ)
    (hasBaseline : Bool) :
    zoneSource (reduceZone points now listeningSince) hasBaseline = .live ↔
      ∃ p ∈ points, p.usable now listeningSince = true := by
  rw [← List.countP_pos_iff, ← reduceZone_used]
  unfold zoneSource
  by_cases hu : (reduceZone points now listeningSince).used > 0
  · simp [hu]
  · simp only [hu, if_false, iff_false]
    split_ifs <;> simp

end DTwin.Web
