import DTwin.Sim.Irradiance
import DTwin.Sim.Sun

/-!
# DTwin.Sim.Generate — synthetic weather, and what is kept of it

`generate_rows` of `weather.py` over the reals, and `store_weather` of `repository.py`: an upsert that takes over
three of the five channels.  After any history of generations a row has the humidity of the first that covers its time
and the other channels of the latest (`stored_eq`), so the rows are those of the latest generation exactly if the two
agree in the humidity (`regenerated_iff`). -/

namespace DTwin.Sim

open Physics (clip)

noncomputable section

/-! ### The generator -/

/-- `_diurnal_temperature`. -/
def diurnalTemperature (localHour minC peakC : ℝ) : ℝ :=
  let mean := (peakC + minC) / 2
  let amplitude := (peakC - minC) / 2
  mean + amplitude * Real.sin (2 * Real.pi * (localHour - 9) / 24)

/-- `diurnal_relative_humidity`. -/
def diurnalRelativeHumidity (dryBulbC minC : ℝ) : ℝ := clip (95 - (dryBulbC - minC) * (35 / 10)) 20 95

def SOLAR_CONSTANT_W_M2 : ℝ := 1367

def extraterrestrialNormal (dayOfYear : ℝ) : ℝ :=
  SOLAR_CONSTANT_W_M2 * (1 + 33 / 1000 * Real.cos (radians (360 * dayOfYear / 365)))

def clearSkyGhi (dayOfYear altitudeDeg peakGhi : ℝ) : ℝ :=
  min (extraterrestrialNormal dayOfYear * max (Real.sin (radians altitudeDeg)) 0 * (78 / 100)) peakGhi

/-- A `WeatherGenerateRequest` for a building, as its validators leave it, with the building as it is then. -/
structure Generation where
  site : Site
  periodStart : Instant
  periodEnd : Instant
  intervalS : ℤ
  peakDryBulbC : ℝ
  minDryBulbC : ℝ
  peakGhi : ℝ
  minInterval : 60 ≤ intervalS
  maxInterval : intervalS ≤ 86400
  ordered : periodStart < periodEnd
  maxIntervals : periodEnd - periodStart ≤ 40000 * seconds intervalS
  peak_nonneg : 0 ≤ peakGhi

/-- A row of `weather_observations` of the source `synthetic`, of one building. -/
structure WeatherRow where
  time : Instant
  dryBulbC : ℝ
  rhPct : ℝ
  ghi : ℝ
  dni : ℝ
  windMS : ℝ

namespace Generation

variable (g : Generation)

/-- The row of a stamp, for a building that stands somewhere. -/
def rowAt (latitude longitude : ℝ) (ts : Instant) : WeatherRow :=
  let c := g.site.timezone.calendar ts
  let altitude := (sunAt g.site.timezone latitude longitude g.periodStart ts).altitudeDeg
  let ghi := clearSkyGhi c.dayOfYear altitude g.peakGhi
  let dryBulb := diurnalTemperature c.hour g.minDryBulbC g.peakDryBulbC
  { time := ts
    dryBulbC := dryBulb
    rhPct := diurnalRelativeHumidity dryBulb g.minDryBulbC
    ghi
    dni := (Physics.splitGhi ghi (Real.sin (radians altitude)) (extraterrestrialNormal c.dayOfYear)).dni
    windMS := 3 }

/-- `while cursor <= end`: a stamp is a whole number of microseconds. -/
def stamps : List Instant := (timeline g.periodStart (g.periodEnd + 1) (seconds g.intervalS)).getD []

/-- `generate_rows`; no rows for a building without a location, which the request is refused for. -/
def generateRows : List WeatherRow :=
  match g.site.latitude, g.site.longitude with
  | some latitude, some longitude => g.stamps.map (g.rowAt latitude longitude)
  | _, _ => []

/-- The row for a time, if the generation covers it. -/
def row (ts : Instant) : Option WeatherRow :=
  match g.site.latitude, g.site.longitude with
  | some latitude, some longitude => if ts ∈ g.stamps then some (g.rowAt latitude longitude ts) else none
  | _, _ => none

end Generation

/-! ### The store -/

/-- The rows by their time. -/
abbrev WeatherTable := Instant → Option WeatherRow

/-- `ON CONFLICT ... DO UPDATE`: what is kept of a stored row, and what is taken over. -/
def WeatherRow.update (stored excluded : WeatherRow) : WeatherRow :=
  { stored with dryBulbC := excluded.dryBulbC, ghi := excluded.ghi, dni := excluded.dni }

def upsert (table : WeatherTable) (row : WeatherRow) : WeatherTable := fun ts =>
  if ts = row.time then
    match table ts with
    | none => some row
    | some stored => some (stored.update row)
  else table ts

/-- `store_weather`. -/
def storeWeather (table : WeatherTable) (rows : List WeatherRow) : WeatherTable := rows.foldl upsert table

/-- The table after a history of generations. -/
def stored (history : List Generation) : WeatherTable :=
  history.foldl (fun table g => storeWeather table g.generateRows) fun _ => none

/-- The first generation that covers a time, and the latest. -/
def firstCovering (history : List Generation) (ts : Instant) : Option Generation :=
  history.find? fun g => (g.row ts).isSome

def latestCovering (history : List Generation) (ts : Instant) : Option Generation :=
  history.reverse.find? fun g => (g.row ts).isSome

/-- What the latest generation has for a time. -/
def latestRow (history : List Generation) (ts : Instant) : Option WeatherRow :=
  (latestCovering history ts).bind fun g => g.row ts

/-- The humidity of a generation at a time: by the swing of the day's temperature, and the hour. -/
def Generation.humidityAt (g : Generation) (ts : Instant) : ℝ :=
  let swing := g.peakDryBulbC - g.minDryBulbC
  clip (95 - 7 / 4 * swing * (1 + Real.sin (2 * Real.pi * ((g.site.timezone.calendar ts).hour - 9) / 24))) 20 95

end

/-! ### One generation -/

theorem row_time {g : Generation} {ts : Instant} {r : WeatherRow} (hr : g.row ts = some r) : r.time = ts := by
  unfold Generation.row at hr
  split at hr
  · split_ifs at hr
    obtain rfl := Option.some.inj hr
    rfl
  · cases hr

theorem row_wind {g : Generation} {ts : Instant} {r : WeatherRow} (hr : g.row ts = some r) : r.windMS = 3 := by
  unfold Generation.row at hr
  split at hr
  · split_ifs at hr
    obtain rfl := Option.some.inj hr
    rfl
  · cases hr

/-- The humidity goes by the swing. -/
theorem row_humidity {g : Generation} {ts : Instant} {r : WeatherRow} (hr : g.row ts = some r) :
    r.rhPct = g.humidityAt ts := by
  unfold Generation.row at hr
  split at hr
  · split_ifs at hr
    obtain rfl := Option.some.inj hr
    show clip _ 20 95 = clip _ 20 95
    congr 1
    unfold diurnalTemperature
    ring
  · cases hr

/-- What a row does to what is stored for its time. -/
def merge (old : Option WeatherRow) (r : WeatherRow) : Option WeatherRow :=
  match old with
  | none => some r
  | some stored => some (stored.update r)

theorem merge_idem (old : Option WeatherRow) (r : WeatherRow) : merge (merge old r) r = merge old r := by
  cases old with
  | none => rfl
  | some stored => rfl

theorem upsert_of_time (table : WeatherTable) {ts : Instant} {r : WeatherRow} (hr : r.time = ts) :
    upsert table r ts = merge (table ts) r := by
  unfold upsert
  rw [if_pos hr.symm]
  rfl

theorem upsert_of_ne (table : WeatherTable) {ts : Instant} {r : WeatherRow} (hr : r.time ≠ ts) :
    upsert table r ts = table ts := by
  unfold upsert
  rw [if_neg fun h => hr h.symm]

/-- Rows for distinct stamps, or for one twice: each time has its own row merged in. -/
theorem storeWeather_map (rowAt : Instant → WeatherRow) (htime : ∀ ts, (rowAt ts).time = ts) (ts : Instant) :
    ∀ (stamps : List Instant) (table : WeatherTable), storeWeather table (stamps.map rowAt) ts =
      if ts ∈ stamps then merge (table ts) (rowAt ts) else table ts
  | [], table => by simp [storeWeather]
  | a :: stamps, table => by
    have hrest := storeWeather_map rowAt htime ts stamps (upsert table (rowAt a))
    show storeWeather (upsert table (rowAt a)) (stamps.map rowAt) ts = _
    rw [hrest]
    by_cases ha : a = ts
    · rw [ha, upsert_of_time table (htime ts), merge_idem, if_pos List.mem_cons_self, ite_self]
    · have hmem : ts ∈ a :: stamps ↔ ts ∈ stamps := by
        rw [List.mem_cons, or_iff_right fun h => ha h.symm]
      have hkeep : upsert table (rowAt a) ts = table ts := upsert_of_ne table (by rw [htime]; exact ha)
      rw [hkeep]
      simp only [hmem]

/-- **One generation** merges its row into each time that it covers. -/
theorem storeWeather_generate (table : WeatherTable) (g : Generation) (ts : Instant) :
    storeWeather table g.generateRows ts =
      match g.row ts with
      | none => table ts
      | some r => merge (table ts) r := by
  unfold Generation.generateRows Generation.row
  rcases g.site.latitude with _ | latitude
  · rfl
  rcases g.site.longitude with _ | longitude
  · rfl
  dsimp only
  rw [storeWeather_map (g.rowAt latitude longitude) (fun _ => rfl)]
  by_cases hmem : ts ∈ g.stamps
  · rw [if_pos hmem, if_pos hmem]
  · rw [if_neg hmem, if_neg hmem]

/-! ### A history of generations -/

theorem stored_append (history : List Generation) (g : Generation) (ts : Instant) :
    stored (history ++ [g]) ts =
      match g.row ts with
      | none => stored history ts
      | some r => merge (stored history ts) r := by
  unfold stored
  rw [List.foldl_append, List.foldl_cons, List.foldl_nil, storeWeather_generate]

theorem firstCovering_append (history : List Generation) (g : Generation) (ts : Instant) :
    firstCovering (history ++ [g]) ts =
      (firstCovering history ts).or (if (g.row ts).isSome then some g else none) := by
  unfold firstCovering
  rw [List.find?_append, List.find?_cons, List.find?_nil]
  by_cases hcovers : (g.row ts).isSome = true
  · simp only [hcovers, if_true]
  · simp only [hcovers, Bool.false_eq_true, if_false]

theorem latestCovering_append (history : List Generation) (g : Generation) (ts : Instant) :
    latestCovering (history ++ [g]) ts = if (g.row ts).isSome then some g else latestCovering history ts := by
  unfold latestCovering
  rw [List.reverse_append, List.reverse_singleton, List.singleton_append, List.find?_cons]
  by_cases hcovers : (g.row ts).isSome = true
  · simp only [hcovers, if_true]
  · simp only [hcovers, Bool.false_eq_true, if_false]

/-- A time has a first covering generation exactly if it has a latest. -/
theorem first_none_iff (history : List Generation) (ts : Instant) :
    firstCovering history ts = none ↔ latestCovering history ts = none := by
  unfold firstCovering latestCovering
  simp only [List.find?_eq_none, List.mem_reverse]

theorem covers_of_latest {history : List Generation} {ts : Instant} {g : Generation}
    (hg : latestCovering history ts = some g) : ∃ r, g.row ts = some r := by
  unfold latestCovering at hg
  have hcovers := List.find?_some hg
  exact Option.isSome_iff_exists.mp hcovers

/-- **What is stored for a time** is the latest row, with the humidity of the first generation. -/
theorem stored_eq (history : List Generation) (ts : Instant) :
    stored history ts = (latestRow history ts).bind fun r =>
      (firstCovering history ts).map fun f => { r with rhPct := f.humidityAt ts } := by
  induction history using List.reverseRecOn with
  | nil => rfl
  | append_singleton history g ih =>
    rw [stored_append, latestRow, latestCovering_append, firstCovering_append]
    rcases hrow : g.row ts with _ | r
    · simp only [Option.isSome_none, Bool.false_eq_true, if_false, Option.or_none]
      exact ih
    · simp only [Option.isSome_some, if_true, Option.bind_some, hrow]
      rcases hfirst : firstCovering history ts with _ | f
      · -- nothing was stored: the row is inserted whole
        have hlatest := (first_none_iff history ts).mp hfirst
        rw [ih, latestRow, hlatest, Option.bind_none, Option.bind_none]
        show some r = some { r with rhPct := g.humidityAt ts }
        rw [← row_humidity hrow]
      · have hsome : latestCovering history ts ≠ none := fun h => by
          rw [← first_none_iff, hfirst] at h
          cases h
        obtain ⟨g', hg'⟩ := Option.ne_none_iff_exists'.mp hsome
        obtain ⟨r', hr'⟩ := covers_of_latest hg'
        have htime : r'.time = r.time := (row_time hr').trans (row_time hrow).symm
        have hwind : r'.windMS = r.windMS := (row_wind hr').trans (row_wind hrow).symm
        rw [ih, latestRow, hg', Option.bind_some, hr', hfirst]
        show some (WeatherRow.update { r' with rhPct := f.humidityAt ts } r) = some { r with rhPct := f.humidityAt ts }
        unfold WeatherRow.update
        rw [htime, hwind]

/-- **When a regeneration replaces what was stored**: after any history of generations each row is, in every channel,
the one of the latest generation that covers its time, exactly if the first that covers it has the same humidity
there. -/
theorem regenerated_iff (history : List Generation) :
    (∀ ts, stored history ts = latestRow history ts) ↔
      ∀ ts f g, firstCovering history ts = some f → latestCovering history ts = some g →
        f.humidityAt ts = g.humidityAt ts := by
  constructor
  · intro hall ts f g hf hg
    obtain ⟨r, hr⟩ := covers_of_latest hg
    have heq := hall ts
    rw [stored_eq, latestRow, hg, Option.bind_some, hr, hf] at heq
    have hrh : f.humidityAt ts = r.rhPct := congrArg WeatherRow.rhPct (Option.some.inj heq)
    rw [hrh, row_humidity hr]
  · intro hagree ts
    rw [stored_eq, latestRow]
    rcases hg : latestCovering history ts with _ | g
    · rfl
    · have hsome : firstCovering history ts ≠ none := fun h => by
        rw [first_none_iff, hg] at h
        cases h
      obtain ⟨f, hf⟩ := Option.ne_none_iff_exists'.mp hsome
      obtain ⟨r, hr⟩ := covers_of_latest hg
      rw [Option.bind_some, hr, hf]
      show some { r with rhPct := f.humidityAt ts } = some r
      rw [hagree ts f g hf hg, ← row_humidity hr]

/-! ### A swing that changes -/

noncomputable section

theorem minute_le_hour : (60 : ℤ) ≤ 3600 := by decide

theorem hour_le_day : (3600 : ℤ) ≤ 86400 := by decide

/-- Fifteen hours on the meridian, from midnight, with the given peak over 30 °C. -/
def onMeridian (peakDryBulbC : ℝ) : Generation where
  site := ⟨⟨fun _ => 0⟩, some 0, some 0⟩
  periodStart := 0
  periodEnd := seconds 54000
  intervalS := 3600
  peakDryBulbC
  minDryBulbC := 30
  peakGhi := 950
  minInterval := minute_le_hour
  maxInterval := hour_le_day
  ordered := by decide
  maxIntervals := by decide
  peak_nonneg := by norm_num

theorem onMeridian_covers (peakDryBulbC : ℝ) : ∃ r, (onMeridian peakDryBulbC).row (seconds 54000) = some r := by
  have hmem : seconds 54000 ∈ (onMeridian peakDryBulbC).stamps := by
    show seconds 54000 ∈ (timeline 0 (seconds 54000 + 1) (seconds 3600)).getD []
    rw [timeline_eq (by decide)]
    refine List.mem_map.mpr ⟨15, List.mem_range.mpr ?_, by decide⟩
    rw [lt_count_iff (by decide)]
    decide
  exact ⟨_, if_pos hmem⟩

theorem humidityAt_onMeridian (peakDryBulbC : ℝ) :
    (onMeridian peakDryBulbC).humidityAt (seconds 54000) = clip (95 - 7 / 2 * (peakDryBulbC - 30)) 20 95 := by
  have hhour : ((onMeridian peakDryBulbC).site.timezone.calendar (seconds 54000)).hour = 15 := by
    show clockHour (seconds 54000 / 1000000 + 0) = 15
    norm_num [clockHour, seconds]
  have hsin : Real.sin (2 * Real.pi * (15 - 9) / 24) = 1 := by
    rw [show 2 * Real.pi * (15 - 9) / 24 = Real.pi / 2 by ring, Real.sin_pi_div_two]
  show clip (95 - 7 / 4 * (peakDryBulbC - 30) * (1 + Real.sin (2 * Real.pi * (_ - 9) / 24))) 20 95 = _
  rw [hhour, hsin]
  congr 1
  ring

/-- **A row of two generations**: with a peak of 36 °C and then of 50 °C, the afternoon is stored with the temperature
of the second and the humidity of the first. -/
theorem stale_humidity : ∃ row, stored [onMeridian 36, onMeridian 50] (seconds 54000) = some row ∧
    row.rhPct = 74 ∧ latestRow [onMeridian 36, onMeridian 50] (seconds 54000) ≠ some row := by
  obtain ⟨r₁, hr₁⟩ := onMeridian_covers 36
  obtain ⟨r₂, hr₂⟩ := onMeridian_covers 50
  have hfirst : firstCovering [onMeridian 36, onMeridian 50] (seconds 54000) = some (onMeridian 36) := by
    simp [firstCovering, hr₁]
  have hlatest : latestCovering [onMeridian 36, onMeridian 50] (seconds 54000) = some (onMeridian 50) := by
    simp [latestCovering, hr₂]
  have hrow : latestRow [onMeridian 36, onMeridian 50] (seconds 54000) = some r₂ := by
    rw [latestRow, hlatest, Option.bind_some, hr₂]
  have hdry : (onMeridian 36).humidityAt (seconds 54000) = 74 := by
    rw [humidityAt_onMeridian]
    norm_num [clip]
  have hhot : r₂.rhPct = 25 := by
    rw [row_humidity hr₂, humidityAt_onMeridian]
    norm_num [clip]
  refine ⟨{ r₂ with rhPct := (onMeridian 36).humidityAt (seconds 54000) }, ?_, hdry, ?_⟩
  · rw [stored_eq, hrow, hfirst]
    rfl
  · rw [hrow]
    intro heq
    have hrh := congrArg WeatherRow.rhPct (Option.some.inj heq)
    rw [hhot, hdry] at hrh
    norm_num at hrh

end

end DTwin.Sim
