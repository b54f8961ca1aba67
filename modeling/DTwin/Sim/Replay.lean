import DTwin.Lib.Polyline
import DTwin.Sim.Generate
import Mathlib.Data.List.MinMax

/-!
# DTwin.Sim.Replay — measured weather at the stamps of a run

`build` of `weather.py`, stamp by stamp.  A measured channel goes through `np.interp` with the points as they come,
and with a constant for each sample that is missing.  What `np.interp` gives is documented for increasing abscissae
only (`Documented`), so `replayed_iff` is about every function that does what the documentation says. -/

namespace DTwin.Sim.Weather

open Polyline

/-- A `WeatherPoint`, or a row of `weather_observations`: what is read of either. -/
structure WeatherPoint where
  ts : Instant
  dryBulbC : ℝ
  rhPct : Option ℝ
  ghi : Option ℝ
  dni : Option ℝ

inductive WeatherSpec
  | observed
  | inline (series : List WeatherPoint) (nonempty : series ≠ [])
  | synthetic (peakDryBulbC minDryBulbC peakGhi : ℝ)

/-- The fields of a `SimulationRequest` that `build` reads. -/
structure Request where
  periodStart : Instant
  periodEnd : Instant
  weather : WeatherSpec

/-- The channels of a `WeatherSeries` at a stamp. -/
structure Channels where
  dryBulbC : ℝ
  rhPct : ℝ
  ghi : ℝ
  dni : ℝ
  dhi : ℝ

/-- `np.interp`: the points, and where it is evaluated. -/
abbrev Interp := List (ℝ × ℝ) → ℝ → ℝ

/-- What `np.interp` is documented to do: with increasing abscissae it is the polyline. -/
def Documented (interp : Interp) : Prop := ∀ l, l ≠ [] → Increasing l → ∀ t, interp l t = polyline l t

noncomputable section

/-- `ts.timestamp()`. -/
def timestamp (ts : Instant) : ℝ := ts / 1000000

/-- `load_weather`: the rows of the period in the order of their times. -/
def loadWeather (observations : List WeatherPoint) (start finish : Instant) : List WeatherPoint :=
  (observations.filter fun p => start ≤ p.ts ∧ p.ts ≤ finish).insertionSort fun p q => p.ts ≤ q.ts

/-- `source`; `none` when there is nothing to replay. -/
def source (request : Request) (observations : List WeatherPoint) : Option (List WeatherPoint) :=
  match request.weather with
  | .observed =>
    let rows := loadWeather observations request.periodStart request.periodEnd
    if rows.isEmpty then none else some rows
  | .inline series _ => some series
  | .synthetic _ _ _ => none

/-- A nullable column of the source. -/
def column (f : WeatherPoint → Option ℝ) (points : List WeatherPoint) : List (ℝ × Option ℝ) :=
  points.map fun p => (timestamp p.ts, f p)

def dryBulbs (points : List WeatherPoint) : List (ℝ × ℝ) := points.map fun p => (timestamp p.ts, p.dryBulbC)

/-- `np.nanmean`. -/
def nanmean (samples : List (ℝ × Option ℝ)) : ℝ :=
  ((present samples).map Prod.snd).sum / (present samples).length

/-- A channel with something measured, `nan` replaced. -/
def interpFilled (interp : Interp) (nan : ℝ) (samples : List (ℝ × Option ℝ)) (ts : Instant) : ℝ :=
  interp (filled nan samples) (timestamp ts)

/-- A stamp of the `else` branch, from the sun's altitude and the day of the year. -/
def replayAt (interp : Interp) (points : List WeatherPoint) (stamps : List Instant) (altitudeDeg dayOfYear : ℝ)
    (ts : Instant) : Channels :=
  let dryBulb := interp (dryBulbs points) (timestamp ts)
  let rh := column WeatherPoint.rhPct points
  let ghi := column WeatherPoint.ghi points
  let dni := column WeatherPoint.dni points
  let coldest := ((stamps.map fun t => interp (dryBulbs points) (timestamp t)).min?).getD dryBulb
  let ghiAt := if (present ghi).isEmpty then clearSkyGhi dayOfYear altitudeDeg 950 else interpFilled interp 0 ghi ts
  let split := Physics.splitGhi ghiAt (Real.sin (radians altitudeDeg)) (extraterrestrialNormal dayOfYear)
  let dniAt := interpFilled interp 0 dni ts
  { dryBulbC := dryBulb
    rhPct := if (present rh).isEmpty then diurnalRelativeHumidity dryBulb coldest
      else interpFilled interp (nanmean rh) rh ts
    ghi := ghiAt
    dni := if (present dni).isEmpty then split.dni else dniAt
    dhi := if (present dni).isEmpty then split.dhi
      else max (ghiAt - dniAt * Real.sin (radians (max altitudeDeg 0))) 0 }

/-- A stamp of a synthetic request. -/
def syntheticAt (peakDryBulbC minDryBulbC peakGhi altitudeDeg : ℝ) (c : Calendar) : Channels :=
  let ghi := clearSkyGhi c.dayOfYear altitudeDeg peakGhi
  let dryBulb := diurnalTemperature c.hour minDryBulbC peakDryBulbC
  let split := Physics.splitGhi ghi (Real.sin (radians altitudeDeg)) (extraterrestrialNormal c.dayOfYear)
  { dryBulbC := dryBulb
    rhPct := diurnalRelativeHumidity dryBulb minDryBulbC
    ghi
    dni := split.dni
    dhi := split.dhi }

/-- `build`; `none` when it raises. -/
def build (interp : Interp) (request : Request) (observations : List WeatherPoint) (site : Site)
    (stamps : List Instant) : Option (List (Instant × Channels)) :=
  (sunOver site stamps).bind fun sun =>
    match request.weather with
    | .synthetic peak least peakGhi => some (sun.map fun (ts, position) =>
      (ts, syntheticAt peak least peakGhi position.altitudeDeg (site.timezone.calendar ts)))
    | _ => (source request observations).map fun points => sun.map fun (ts, position) =>
      (ts, replayAt interp points stamps position.altitudeDeg (site.timezone.calendar ts).dayOfYear ts)

/-! ### What was measured -/

/-- The points in the order of their times. -/
def inOrder (points : List WeatherPoint) : List WeatherPoint := points.insertionSort fun p q => p.ts ≤ q.ts

/-- The polyline through what was measured of a channel. -/
def measured (f : WeatherPoint → Option ℝ) (points : List WeatherPoint) (ts : Instant) : ℝ :=
  polyline (present (column f (inOrder points))) (timestamp ts)

/-- Something was measured of a channel. -/
def Measured (f : WeatherPoint → Option ℝ) (points : List WeatherPoint) : Prop := ∃ p ∈ points, f p ≠ none

/-- Each channel that was measured is replayed as it was. -/
structure Faithful (points : List WeatherPoint) (ts : Instant) (c : Channels) : Prop where
  dryBulb : c.dryBulbC = polyline (dryBulbs (inOrder points)) (timestamp ts)
  rh : Measured WeatherPoint.rhPct points → c.rhPct = measured WeatherPoint.rhPct points ts
  ghi : Measured WeatherPoint.ghi points → c.ghi = measured WeatherPoint.ghi points ts
  dni : Measured WeatherPoint.dni points → c.dni = measured WeatherPoint.dni points ts

/-- Where a sample of a channel is missing, what was measured passes through `d`. -/
def Through (f : WeatherPoint → Option ℝ) (d : ℝ) (points : List WeatherPoint) : Prop :=
  Measured f points → ∀ p ∈ points, f p = none → measured f points p.ts = d

/-- The points come in the order of their times, no two at one time. -/
def InTime (points : List WeatherPoint) : Prop := points.Pairwise fun p q => p.ts < q.ts

/-- Missing samples are where the constant that stands for them is what was measured. -/
structure Harmless (points : List WeatherPoint) : Prop where
  rh : Through WeatherPoint.rhPct (nanmean (column WeatherPoint.rhPct points)) points
  ghi : Through WeatherPoint.ghi 0 points
  dni : Through WeatherPoint.dni 0 points

end

/-! ### In time order -/

theorem timestamp_lt {a b : Instant} : timestamp a < timestamp b ↔ a < b := by
  unfold timestamp
  rw [div_lt_div_iff_of_pos_right (by norm_num)]
  exact Int.cast_lt

variable {points : List WeatherPoint}

theorem inOrder_eq (hin : InTime points) : inOrder points = points :=
  List.Pairwise.insertionSort_eq (hin.imp le_of_lt)

theorem column_increasing (f : WeatherPoint → Option ℝ) (hin : InTime points) :
    (column f points).Pairwise fun s s' => s.1 < s'.1 :=
  List.pairwise_map.mpr (hin.imp timestamp_lt.mpr)

theorem dryBulbs_increasing_iff : Increasing (dryBulbs points) ↔ InTime points := by
  unfold Increasing dryBulbs InTime
  rw [List.pairwise_map]
  constructor <;> exact fun h => h.imp fun hlt => by simpa [timestamp_lt] using hlt

theorem measured_iff (f : WeatherPoint → Option ℝ) : present (column f points) ≠ [] ↔ Measured f points := by
  constructor
  · intro hne
    obtain ⟨⟨x, v⟩, hm⟩ := List.exists_mem_of_ne_nil _ hne
    obtain ⟨p, hp, heq⟩ := List.mem_map.mp (mem_present.mp hm)
    refine ⟨p, hp, ?_⟩
    rw [(Prod.mk.inj heq).2]
    simp
  · rintro ⟨p, hp, hne⟩
    obtain ⟨v, hv⟩ := Option.ne_none_iff_exists'.mp hne
    have hm : (timestamp p.ts, v) ∈ present (column f points) :=
      mem_present.mpr (List.mem_map.mpr ⟨p, hp, by rw [hv]⟩)
    exact List.ne_nil_of_mem hm

/-- **One channel** in time order is replayed as it was measured exactly if its gaps are harmless. -/
theorem through_iff (f : WeatherPoint → Option ℝ) (d : ℝ) (hin : InTime points) :
    (Measured f points → ∀ ts, polyline (filled d (column f points)) (timestamp ts) = measured f points ts) ↔
      Through f d points := by
  unfold Through measured
  rw [inOrder_eq hin]
  refine imp_congr_right fun hsome => ?_
  have hstamps : ∀ s ∈ column f points, ∃ ts, s.1 = timestamp ts := by
    intro s hs
    obtain ⟨p, -, rfl⟩ := List.mem_map.mp hs
    exact ⟨p.ts, rfl⟩
  have hiff := polyline_filled_iff d (column_increasing f hin) ((measured_iff f).mpr hsome)
    (fun x => ∃ ts, x = timestamp ts) hstamps
  constructor
  · intro hall p hp hnone
    refine hiff.mp ?_ (timestamp p.ts, f p) (List.mem_map_of_mem hp) hnone
    rintro _ ⟨ts, rfl⟩
    exact hall ts
  · intro hthrough ts
    refine hiff.mpr ?_ _ ⟨ts, rfl⟩
    intro s hs hnone
    obtain ⟨p, hp, rfl⟩ := List.mem_map.mp hs
    exact hthrough p hp hnone

/-! ### The stamps of a run -/

variable {interp : Interp} {request : Request} {observations : List WeatherPoint}

theorem source_ne_nil (hsource : source request observations = some points) : points ≠ [] := by
  unfold source at hsource
  split at hsource
  · dsimp only at hsource
    split_ifs at hsource with hempty
    obtain rfl := Option.some.inj hsource
    intro hnil
    exact hempty (by rw [hnil]; rfl)
  · rename_i series hne _
    obtain rfl := Option.some.inj hsource
    exact hne
  · cases hsource

/-- What a replay has for a stamp. -/
theorem build_stamp (hsource : source request observations = some points) {site : Site} {stamps : List Instant}
    {out : List (Instant × Channels)} (hbuild : build interp request observations site stamps = some out)
    {x : Instant × Channels} (hx : x ∈ out) :
    ∃ altitudeDeg dayOfYear, x.2 = replayAt interp points stamps altitudeDeg dayOfYear x.1 := by
  obtain ⟨sun, -, hbuild⟩ := Option.bind_eq_some_iff.mp hbuild
  split at hbuild
  next peak least peakGhi hweather =>
    unfold source at hsource
    rw [hweather] at hsource
    cases hsource
  · rw [hsource, Option.map_some, Option.some.injEq] at hbuild
    rw [← hbuild] at hx
    obtain ⟨⟨ts, position⟩, -, rfl⟩ := List.mem_map.mp hx
    exact ⟨_, _, rfl⟩

/-- A building on the meridian. -/
noncomputable def meridian : Site := ⟨⟨fun _ => 0⟩, some 0, some 0⟩

/-- Every instant is the stamp of a run. -/
theorem build_at (hsource : source request observations = some points) (interp : Interp) (ts : Instant) :
    ∃ out c, build interp request observations meridian [ts] = some out ∧ (ts, c) ∈ out := by
  have hbuild : build interp request observations meridian [ts] = (source request observations).map fun points =>
      [(ts, replayAt interp points [ts] (sunAt meridian.timezone 0 0 ts ts).altitudeDeg
        (meridian.timezone.calendar ts).dayOfYear ts)] := by
    unfold build
    rcases hweather : request.weather with _ | ⟨series, hne⟩ | ⟨peak, least, peakGhi⟩
    · rfl
    · rfl
    · unfold source at hsource
      rw [hweather] at hsource
      cases hsource
  rw [hsource] at hbuild
  exact ⟨_, _, hbuild, List.mem_singleton_self _⟩

/-- What a stamp has of the measured channels. -/
theorem replayAt_faithful_iff (stamps : List Instant) (altitudeDeg dayOfYear : ℝ) (ts : Instant) :
    Faithful points ts (replayAt interp points stamps altitudeDeg dayOfYear ts) ↔
      interp (dryBulbs points) (timestamp ts) = polyline (dryBulbs (inOrder points)) (timestamp ts) ∧
      (Measured WeatherPoint.rhPct points → interpFilled interp (nanmean (column WeatherPoint.rhPct points))
        (column WeatherPoint.rhPct points) ts = measured WeatherPoint.rhPct points ts) ∧
      (Measured WeatherPoint.ghi points →
        interpFilled interp 0 (column WeatherPoint.ghi points) ts = measured WeatherPoint.ghi points ts) ∧
      (Measured WeatherPoint.dni points →
        interpFilled interp 0 (column WeatherPoint.dni points) ts = measured WeatherPoint.dni points ts) := by
  have hchannel : ∀ {f : WeatherPoint → Option ℝ}, Measured f points → (present (column f points)).isEmpty = false := by
    intro f hf
    rw [List.isEmpty_eq_false_iff]
    exact (measured_iff f).mpr hf
  have hval : ∀ {f : WeatherPoint → Option ℝ} (hf : Measured f points) (a b : ℝ),
      (if (present (column f points)).isEmpty = true then a else b) = b := by
    intro f hf a b
    rw [hchannel hf]
    rfl
  constructor
  · rintro ⟨hdry, hrh, hghi, hdni⟩
    refine ⟨hdry, fun hm => ?_, fun hm => ?_, fun hm => ?_⟩
    · rw [← hrh hm]
      exact (hval hm _ _).symm
    · rw [← hghi hm]
      exact (hval hm _ _).symm
    · rw [← hdni hm]
      exact (hval hm _ _).symm
  · rintro ⟨hdry, hrh, hghi, hdni⟩
    refine ⟨hdry, fun hm => ?_, fun hm => ?_, fun hm => ?_⟩
    · rw [← hrh hm]
      exact hval hm _ _
    · rw [← hghi hm]
      exact hval hm _ _
    · rw [← hdni hm]
      exact hval hm _ _

/-- Nothing is documented of abscissae that do not increase. -/
theorem inTime_of_documented
    (hall : ∀ interp, Documented interp → ∀ ts,
      interp (dryBulbs points) (timestamp ts) = polyline (dryBulbs (inOrder points)) (timestamp ts)) :
    InTime points := by
  classical
  by_contra hout
  have hoff : ¬ Increasing (dryBulbs points) := fun h => hout (dryBulbs_increasing_iff.mp h)
  -- a function that is one too high off its documentation
  have heq := hall (fun l t => if Increasing l then polyline l t else polyline (dryBulbs (inOrder points)) t + 1)
    (fun l _ hinc t => if_pos hinc) 0
  rw [if_neg hoff] at heq
  linarith

theorem faithful_of_inTime (hne : points ≠ []) (hin : InTime points) (hharmless : Harmless points)
    (hdoc : Documented interp) (stamps : List Instant) (altitudeDeg dayOfYear : ℝ) (ts : Instant) :
    Faithful points ts (replayAt interp points stamps altitudeDeg dayOfYear ts) := by
  have hdry : interp (dryBulbs points) (timestamp ts) = polyline (dryBulbs (inOrder points)) (timestamp ts) := by
    rw [inOrder_eq hin]
    exact hdoc _ (by simpa [dryBulbs] using hne) (dryBulbs_increasing_iff.mpr hin) _
  have hchannel : ∀ (f : WeatherPoint → Option ℝ) (d : ℝ), Through f d points → Measured f points →
      interpFilled interp d (column f points) ts = measured f points ts := by
    intro f d hthrough hsome
    have hfilled : interpFilled interp d (column f points) ts = polyline (filled d (column f points)) (timestamp ts) :=
      hdoc _ (by simpa [filled, column] using hne) (filled_increasing d (column_increasing f hin)) _
    rw [hfilled]
    exact (through_iff f d hin).mpr hthrough hsome ts
  exact (replayAt_faithful_iff stamps altitudeDeg dayOfYear ts).mpr
    ⟨hdry, hchannel _ _ hharmless.rh, hchannel _ _ hharmless.ghi, hchannel _ _ hharmless.dni⟩

/-- **When measured weather is replayed**: in every run with this source each measured channel is the polyline of its
own samples in the order of time, whatever `np.interp` does off its documentation, exactly if the points come in
strictly increasing time order and a sample is missing only where the constant that stands for it lies on that
polyline. -/
theorem replayed_iff (hsource : source request observations = some points) :
    (∀ interp, Documented interp → ∀ site stamps out, build interp request observations site stamps = some out →
      ∀ x ∈ out, Faithful points x.1 x.2) ↔ InTime points ∧ Harmless points := by
  have hne := source_ne_nil hsource
  constructor
  · intro hall
    have hstamp : ∀ interp, Documented interp → ∀ ts, ∃ altitudeDeg dayOfYear,
        Faithful points ts (replayAt interp points [ts] altitudeDeg dayOfYear ts) := by
      intro interp hdoc ts
      obtain ⟨out, c, hbuild, hmem⟩ := build_at hsource interp ts
      obtain ⟨altitudeDeg, dayOfYear, hc⟩ := build_stamp hsource hbuild hmem
      have hfaithful := hall interp hdoc meridian [ts] out hbuild (ts, c) hmem
      rw [hc] at hfaithful
      exact ⟨altitudeDeg, dayOfYear, hfaithful⟩
    have hin : InTime points := by
      refine inTime_of_documented fun interp hdoc ts => ?_
      obtain ⟨_, _, hfaithful⟩ := hstamp interp hdoc ts
      exact hfaithful.dryBulb
    refine ⟨hin, ?_, ?_, ?_⟩
    · refine (through_iff _ _ hin).mp fun hsome ts => ?_
      obtain ⟨altitudeDeg, dayOfYear, hfaithful⟩ := hstamp polyline (fun _ _ _ _ => rfl) ts
      exact ((replayAt_faithful_iff [ts] altitudeDeg dayOfYear ts).mp hfaithful).2.1 hsome
    · refine (through_iff _ _ hin).mp fun hsome ts => ?_
      obtain ⟨altitudeDeg, dayOfYear, hfaithful⟩ := hstamp polyline (fun _ _ _ _ => rfl) ts
      exact ((replayAt_faithful_iff [ts] altitudeDeg dayOfYear ts).mp hfaithful).2.2.1 hsome
    · refine (through_iff _ _ hin).mp fun hsome ts => ?_
      obtain ⟨altitudeDeg, dayOfYear, hfaithful⟩ := hstamp polyline (fun _ _ _ _ => rfl) ts
      exact ((replayAt_faithful_iff [ts] altitudeDeg dayOfYear ts).mp hfaithful).2.2.2 hsome
  · rintro ⟨hin, hharmless⟩ interp hdoc site stamps out hbuild x hx
    obtain ⟨altitudeDeg, dayOfYear, hc⟩ := build_stamp hsource hbuild hx
    rw [hc]
    exact faithful_of_inTime hne hin hharmless hdoc stamps altitudeDeg dayOfYear x.1

/-! ### A gap at noon -/

/-- Two hours of an inline series, with the irradiance of the first. -/
noncomputable def twoHours (ghi : Option ℝ) : Request where
  periodStart := 0
  periodEnd := seconds 3600
  weather := .inline [⟨0, 30, none, ghi, none⟩, ⟨seconds 3600, 31, none, some 800, none⟩] (by simp)

/-- With both measured the replay is faithful: and there is one. -/
theorem replayed_iff_twoHours :
    (∀ interp, Documented interp → ∀ site stamps out, build interp (twoHours (some 700)) [] site stamps = some out →
      ∀ x ∈ out, Faithful [⟨0, 30, none, some 700, none⟩, ⟨seconds 3600, 31, none, some 800, none⟩] x.1 x.2) ∧
    ∃ out, build polyline (twoHours (some 700)) [] meridian [seconds 3600] = some out := by
  have hsource : source (twoHours (some 700)) [] =
      some [⟨0, 30, none, some 700, none⟩, ⟨seconds 3600, 31, none, some 800, none⟩] := rfl
  constructor
  · refine (replayed_iff hsource).mpr ⟨?_, ?_, ?_, ?_⟩
    · simp [InTime, seconds]
    · rintro ⟨p, hp, hsome⟩
      exact absurd (by simp only [List.mem_cons, List.not_mem_nil, or_false] at hp; rcases hp with rfl | rfl <;> rfl)
        hsome
    · intro _ p hp hnone
      simp only [List.mem_cons, List.not_mem_nil, or_false] at hp
      rcases hp with rfl | rfl <;> simp at hnone
    · rintro ⟨p, hp, hsome⟩
      exact absurd (by simp only [List.mem_cons, List.not_mem_nil, or_false] at hp; rcases hp with rfl | rfl <;> rfl)
        hsome
  · obtain ⟨out, c, hbuild, -⟩ := build_at hsource polyline (seconds 3600)
    exact ⟨out, hbuild⟩

/-- **A missing sample is read as darkness**: with nothing measured in the first hour, its stamp has an irradiance of
zero, where the only sample is 800 W/m². -/
theorem gap_is_dark : ∃ out c, build polyline (twoHours none) [] meridian [0] = some out ∧ (0, c) ∈ out ∧ c.ghi = 0 ∧
    measured WeatherPoint.ghi [⟨0, 30, none, none, none⟩, ⟨seconds 3600, 31, none, some 800, none⟩] 0 = 800 := by
  have hsource : source (twoHours none) [] =
      some [⟨0, 30, none, none, none⟩, ⟨seconds 3600, 31, none, some 800, none⟩] := rfl
  obtain ⟨out, c, hbuild, hmem⟩ := build_at hsource polyline 0
  obtain ⟨altitudeDeg, dayOfYear, hc⟩ := build_stamp hsource hbuild hmem
  refine ⟨out, c, hbuild, hmem, ?_, ?_⟩
  · show c.ghi = 0
    have hghi := congrArg Channels.ghi hc
    rw [hghi]
    simp [replayAt, interpFilled, column, filled, present, polyline, timestamp]
  · simp [measured, inOrder, column, present, polyline, seconds]

end DTwin.Sim.Weather
