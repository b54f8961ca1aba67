import DTwin.Lib.Numerals
import DTwin.Sim.Accounting
import DTwin.Sim.Physics
import Mathlib.Analysis.SpecialFunctions.Trigonometric.Inverse
import Mathlib.Data.Real.Sign

/-!
# DTwin.Sim.Sun — the sun over the stamps of a run

`_local_calendar` reads the clock and the day of each stamp in the zone of the building, and the offset of the zone
from UTC once, at the first stamp.  `hour_angle_deg` takes the offset back out of the clock hour.  Over the reals
`sun_eq_iff` says exactly when two runs place the sun of a stamp alike: when the zone had one offset at their two
starts.
-/

namespace DTwin.Sim

open Physics (clip)

/-! ### The calendar -/

/-- A zone: the offset from UTC in force at an instant, in seconds. -/
structure Timezone where
  utcoffset : Instant → ℤ

/-- Seconds of the local clock since the epoch, `ts.astimezone(tz)` without its microseconds. -/
def Timezone.localSeconds (tz : Timezone) (ts : Instant) : ℤ := ts / 1000000 + tz.utcoffset ts

def isLeap (year : ℤ) : Bool := year % 4 = 0 ∧ (year % 100 ≠ 0 ∨ year % 400 = 0)

/-- `tm_yday` of a day counted from 1970-01-01, in the Gregorian calendar: the day of its year reckoned from the
first of March, moved to the first of January. -/
def yearDay (day : ℤ) : ℤ :=
  let z := day + 719468
  let dayOfEra := z % 146097
  let yearOfEra := (dayOfEra - dayOfEra / 1460 + dayOfEra / 36524 - dayOfEra / 146096) / 365
  let sinceMarch := dayOfEra - (365 * yearOfEra + yearOfEra / 4 - yearOfEra / 100)
  if 306 ≤ sinceMarch then sinceMarch - 305
  else sinceMarch + 60 + if isLeap yearOfEra then 1 else 0

example : (yearDay 0, yearDay 19782, yearDay 19813) = (1, 60, 91) := by decide

/-- `weekday()` as the index of a day type: 0 for a weekday, 1 for Saturday, 2 for Sunday. -/
def dayTypeIndex (day : ℤ) : ℕ :=
  let weekday := (day + 3) % 7
  if weekday = 5 then 1 else if weekday = 6 then 2 else 0

noncomputable section

/-- `local.hour + local.minute / 60.0 + local.second / 3600.0`. -/
def clockHour (localSeconds : ℤ) : ℝ :=
  (localSeconds / 3600 % 24 : ℤ) + (localSeconds / 60 % 60 : ℤ) / 60 + (localSeconds % 60 : ℤ) / 3600

/-- What `_local_calendar` gives a stamp. -/
structure Calendar where
  hour : ℝ
  dayOfYear : ℝ
  dayTypeIndex : ℕ

def Timezone.calendar (tz : Timezone) (ts : Instant) : Calendar where
  hour := clockHour (tz.localSeconds ts)
  dayOfYear := yearDay (tz.localSeconds ts / 86400)
  dayTypeIndex := dayTypeIndex (tz.localSeconds ts / 86400)

/-- `_local_calendar`: a calendar for each stamp, and the offset in hours at the first.  `none`: `stamps[0]` raises. -/
def localCalendar (stamps : List Instant) (tz : Timezone) : Option (List Calendar × ℝ) :=
  match stamps with
  | [] => none
  | first :: _ => some (stamps.map tz.calendar, tz.utcoffset first / 3600)

/-! ### The sun -/

def radians (deg : ℝ) : ℝ := deg * Real.pi / 180

def degrees (rad : ℝ) : ℝ := rad * 180 / Real.pi

def declinationDeg (dayOfYear : ℝ) : ℝ := 2345 / 100 * Real.sin (radians (360 * (284 + dayOfYear) / 365))

def equationOfTimeMin (dayOfYear : ℝ) : ℝ :=
  let b := radians (360 * (dayOfYear - 81) / 364)
  987 / 100 * Real.sin (2 * b) - 753 / 100 * Real.cos b - 15 / 10 * Real.sin b

def hourAngleDeg (clockHour dayOfYear longitudeEastDeg tzOffsetH : ℝ) : ℝ :=
  let correctionMin := 4 * (longitudeEastDeg - 15 * tzOffsetH) + equationOfTimeMin dayOfYear
  let solarHour := clockHour + correctionMin / 60
  15 * (solarHour - 12)

/-- Where the sun stands at a stamp. -/
structure SunPosition where
  hourAngleDeg : ℝ
  altitudeDeg : ℝ
  azimuthDeg : ℝ
  declinationDeg : ℝ

def solarPosition (dayOfYear clockHour latitudeDeg longitudeEastDeg tzOffsetH : ℝ) : SunPosition :=
  let phi := radians latitudeDeg
  let delta := radians (declinationDeg dayOfYear)
  let omega := radians (hourAngleDeg clockHour dayOfYear longitudeEastDeg tzOffsetH)
  let sinAlt := clip (Real.sin phi * Real.sin delta + Real.cos phi * Real.cos delta * Real.cos omega) (-1) 1
  let sinZenith := Real.sqrt (clip (1 - sinAlt ^ 2) 0 1)
  let denom := if sinZenith * Real.cos phi = 0 then 1 / 1000000000 else sinZenith * Real.cos phi
  let cosAzimuth := clip ((sinAlt * Real.sin phi - Real.sin delta) / denom) (-1) 1
  { hourAngleDeg := hourAngleDeg clockHour dayOfYear longitudeEastDeg tzOffsetH
    altitudeDeg := degrees (Real.arcsin sinAlt)
    azimuthDeg := degrees (Real.sign omega * |Real.arccos cosAzimuth|)
    declinationDeg := degrees delta }

/-- The columns `build` reads of a building. -/
structure Site where
  timezone : Timezone
  latitude : Option ℝ
  longitude : Option ℝ

/-- The sun of `build`, stamp by stamp; `none` when it raises for the building. -/
def sunOver (site : Site) (stamps : List Instant) : Option (List (Instant × SunPosition)) :=
  match localCalendar stamps site.timezone, site.latitude, site.longitude with
  | some (calendars, tzOffset), some latitude, some longitude =>
    some (stamps.zip (calendars.map fun c => solarPosition c.dayOfYear c.hour latitude longitude tzOffset))
  | _, _, _ => none

/-- The sun of a run, over the stamps of its period. -/
def sunOfRun (settings : Settings) (request : SimulationRequest) (site : Site) :
    Option (List (Instant × SunPosition)) :=
  (timeline request.periodStart request.periodEnd (seconds (substepS settings request))).bind (sunOver site)

/-- Where the sun of a stamp is put when the offset was taken at `start`. -/
def sunAt (tz : Timezone) (latitude longitude : ℝ) (start ts : Instant) : SunPosition :=
  let c := tz.calendar ts
  solarPosition c.dayOfYear c.hour latitude longitude (tz.utcoffset start / 3600)

end

variable {settings : Settings} {request : SimulationRequest} {site : Site}

/-- **What a run sees of the sun**: each stamp with the offset of the run's start. -/
theorem sunOfRun_eq {latitude longitude : ℝ} (hs : 0 < substepS settings request)
    (hlat : site.latitude = some latitude) (hlon : site.longitude = some longitude) :
    sunOfRun settings request site = some ((List.range (nSteps settings request)).map fun i =>
      (stamp settings request i,
        sunAt site.timezone latitude longitude request.periodStart (stamp settings request i))) := by
  have hS : 0 < seconds (substepS settings request) := by unfold seconds; omega
  have hpos : 0 < nSteps settings request := (lt_nSteps_iff hs 0).mpr (by simpa [stamp] using request.ordered)
  obtain ⟨n, hn⟩ : ∃ n, nSteps settings request = n + 1 := ⟨_, (Nat.succ_pred_eq_of_pos hpos).symm⟩
  have hstamps : timeline request.periodStart request.periodEnd (seconds (substepS settings request)) =
      some ((List.range (n + 1)).map (stamp settings request)) := by
    rw [← hn]
    exact timeline_eq hS _
  have hfirst : (List.range (n + 1)).map (stamp settings request) =
      request.periodStart :: (List.range n).map (stamp settings request ∘ Nat.succ) := by
    rw [List.range_succ_eq_map, List.map_cons, List.map_map]
    simp [stamp]
  have hcal : localCalendar ((List.range (n + 1)).map (stamp settings request)) site.timezone =
      some (((List.range (n + 1)).map (stamp settings request)).map site.timezone.calendar,
        (site.timezone.utcoffset request.periodStart : ℝ) / 3600) := by
    rw [hfirst]
    rfl
  unfold sunOfRun
  rw [hstamps, hn, Option.bind_some, sunOver, hcal, hlat, hlon]
  simp only [List.map_map, Option.some.injEq]
  exact List.zip_map'

/-- A run sees the sun only at a positive substep and where the building stands somewhere. -/
theorem located_of_sunOfRun {l : List (Instant × SunPosition)} (hl : sunOfRun settings request site = some l) :
    0 < substepS settings request ∧ ∃ latitude longitude, site.latitude = some latitude ∧
      site.longitude = some longitude := by
  unfold sunOfRun at hl
  obtain ⟨stamps, hstamps, hsun⟩ := Option.bind_eq_some_iff.mp hl
  constructor
  · by_contra hs
    have hneg : seconds (substepS settings request) ≤ 0 := by unfold seconds; omega
    rw [timeline_of_nonpos request.ordered hneg] at hstamps
    cases hstamps
  · unfold sunOver at hsun
    split at hsun
    · rename_i latitude longitude _ hlat hlon
      exact ⟨latitude, longitude, hlat, hlon⟩
    · cases hsun

theorem mem_sunOfRun {l : List (Instant × SunPosition)} {latitude longitude : ℝ} {t : Instant} {p : SunPosition}
    (hl : sunOfRun settings request site = some l) (hlat : site.latitude = some latitude)
    (hlon : site.longitude = some longitude) (hm : (t, p) ∈ l) :
    p = sunAt site.timezone latitude longitude request.periodStart t := by
  obtain ⟨hs, -⟩ := located_of_sunOfRun hl
  rw [sunOfRun_eq hs hlat hlon, Option.some.injEq] at hl
  rw [← hl] at hm
  obtain ⟨i, -, hi⟩ := List.mem_map.mp hm
  obtain ⟨rfl, rfl⟩ := Prod.mk.inj hi
  rfl

/-- The hour angle moves by 15 degrees for each hour by which the offsets differ. -/
theorem hourAngle_sunAt_sub (tz : Timezone) (latitude longitude : ℝ) (start start' t : Instant) :
    (sunAt tz latitude longitude start t).hourAngleDeg - (sunAt tz latitude longitude start' t).hourAngleDeg =
      (tz.utcoffset start' - tz.utcoffset start) / 240 := by
  unfold sunAt solarPosition hourAngleDeg
  ring

/-- **When two runs see one sun**: at an instant both have a stamp at, they put the sun in the same place if and only
if the zone's offset from UTC was the same at their two starts. -/
theorem sun_eq_iff {settings' : Settings} {request' : SimulationRequest} {l l' : List (Instant × SunPosition)}
    {t : Instant} {p p' : SunPosition} (hl : sunOfRun settings request site = some l)
    (hl' : sunOfRun settings' request' site = some l') (hm : (t, p) ∈ l) (hm' : (t, p') ∈ l') :
    p = p' ↔ site.timezone.utcoffset request.periodStart = site.timezone.utcoffset request'.periodStart := by
  obtain ⟨-, latitude, longitude, hlat, hlon⟩ := located_of_sunOfRun hl
  rw [mem_sunOfRun hl hlat hlon hm, mem_sunOfRun hl' hlat hlon hm']
  constructor
  · intro heq
    have hsub := hourAngle_sunAt_sub site.timezone latitude longitude request.periodStart request'.periodStart t
    rw [heq, sub_self, eq_comm, div_eq_zero_iff, sub_eq_zero] at hsub
    rcases hsub with hsub | hsub
    · exact_mod_cast hsub.symm
    · norm_num at hsub
  · intro heq
    unfold sunAt
    rw [heq]

/-- Central European time about the change of 31 March 2024, which comes at 01:00 UTC. -/
def centralEurope : Timezone where
  utcoffset t := if t < seconds 1711846800 then 3600 else 7200

/-- A building in that zone. -/
noncomputable def berlin : Site where
  timezone := centralEurope
  latitude := some (525 / 10)
  longitude := some (134 / 10)

/-- A run by the hour from `start` to 1 April 2024, 00:00 UTC; a start a day or two before. -/
def untilApril (start : ℤ) (hs : 1711756800 ≤ start) (he : start < 1711929600) : SimulationRequest where
  periodStart := seconds start
  periodEnd := seconds 1711929600
  intervalS := 3600
  minInterval := by decide
  maxInterval := by decide
  ordered := by
    show start * 1000000 < 1711929600 * 1000000
    omega
  maxIntervals := by
    show (1711929600 * 1000000 : ℤ) - start * 1000000 ≤ 40000 * (3600 * 1000000)
    omega

/-- Noon of 31 March is a stamp of a run from either day. -/
theorem noon_mem (start : ℤ) (hs : 1711756800 ≤ start) (he : start < 1711929600) (i : ℕ)
    (hi : start + i * 300 = 1711886400) :
    ∃ l, sunOfRun ⟨300, 5000000⟩ (untilApril start hs he) berlin = some l ∧
      (seconds 1711886400, sunAt centralEurope (525 / 10) (134 / 10) (seconds start) (seconds 1711886400)) ∈ l := by
  have hpos : 0 < substepS ⟨300, 5000000⟩ (untilApril start hs he) := by
    show (0 : ℤ) < min 300 3600
    decide
  have hstamp : stamp ⟨300, 5000000⟩ (untilApril start hs he) i = seconds 1711886400 := by
    show start * 1000000 + i * (300 * 1000000) = 1711886400 * 1000000
    omega
  refine ⟨_, sunOfRun_eq hpos rfl rfl, List.mem_map.mpr ⟨i, List.mem_range.mpr ?_, ?_⟩⟩
  · rw [lt_nSteps_iff hpos, hstamp]
    show (1711886400 * 1000000 : ℤ) < 1711929600 * 1000000
    decide
  · rw [hstamp]
    rfl

/-- Two runs that both start before the change. -/
theorem sun_eq_iff_before_change :
    sunAt centralEurope (525 / 10) (134 / 10) (seconds 1711756800) (seconds 1711886400) =
      sunAt centralEurope (525 / 10) (134 / 10) (seconds 1711800000) (seconds 1711886400) := by
  obtain ⟨l, hl, hm⟩ := noon_mem 1711756800 (by decide) (by decide) 432 (by decide)
  obtain ⟨l', hl', hm'⟩ := noon_mem 1711800000 (by decide) (by decide) 288 (by decide)
  exact (sun_eq_iff hl hl' hm hm').mpr (by decide)

/-- A run that starts before the change and one that starts after it put the noon of 31 March 15 degrees apart. -/
theorem sun_moves_with_the_start :
    ¬ ∀ (settings : Settings) (request request' : SimulationRequest) (site : Site)
      (l l' : List (Instant × SunPosition)) (t : Instant) (p p' : SunPosition),
      sunOfRun settings request site = some l → sunOfRun settings request' site = some l' →
      (t, p) ∈ l → (t, p') ∈ l' → p = p' := by
  intro hall
  obtain ⟨l, hl, hm⟩ := noon_mem 1711756800 (by decide) (by decide) 432 (by decide)
  obtain ⟨l', hl', hm'⟩ := noon_mem 1711886400 (by decide) (by decide) 0 (by decide)
  have heq := hall _ _ _ _ _ _ _ _ _ hl hl' hm hm'
  have hsub := hourAngle_sunAt_sub centralEurope (525 / 10) (134 / 10) (seconds 1711756800) (seconds 1711886400)
    (seconds 1711886400)
  rw [heq, sub_self] at hsub
  norm_num [centralEurope, seconds] at hsub

end DTwin.Sim
