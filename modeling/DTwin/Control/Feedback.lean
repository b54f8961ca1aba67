import DTwin.Control.Dispatch
import DTwin.Lib.Latest
import DTwin.Web.Live

/-!
# DTwin.Control.Feedback — if we would not paint it, do we command it?

The dashboard and the control envelope apply one staleness rule to a zone's latest temperature, from
different records of it.  The browser has the frames as they arrived: it keeps the newest by device
time and dates it no later than its arrival.  The control path has the stored rows, which do not say
when they arrived, and takes a row's own timestamp for it.

Both are computed here from one list of arrivals for the zone's only temperature point.
`unpainted_refused_iff` says exactly when the two answers can part.
-/

namespace DTwin.Control

open DTwin.Web DTwin.Latest

/-- The row ingest stores for a reading. -/
def stored (tenantId sensorId : Uuid) (r : LiveReading) : TelemetryRow :=
  ⟨tenantId, sensorId, r.ts, r.value, r.quality⟩

/-- The zone has one active temperature point, `p`, and `arrivals` is what came in from it. -/
structure OnePoint (w : World) (tenantId zoneId : Uuid) (p : SensorRow)
    (arrivals : List LiveReading) : Prop where
  point : w.temperaturePoints tenantId zoneId = [p]
  rows : (w.telemetry.filter fun t => t.tenantId == tenantId && t.sensorId == p.id) =
    arrivals.map (stored tenantId p.id)
  times : (arrivals.map (·.ts)).Nodup

/-- `newest` is the reading of `arrivals` with the latest device time. -/
abbrev Newest (arrivals : List LiveReading) (newest : LiveReading) : Prop :=
  IsNewest (fun r : LiveReading => r.ts) arrivals newest

/-! ## The browser -/

theorem held_eq (arrivals : List LiveReading) :
    held arrivals = arrivals.foldl (keep fun r => r.ts) none := by
  unfold held
  congr 1
  funext h r
  cases h with
  | none => rfl
  | some h => simp only [newer, keep, gt_iff_lt]; split_ifs <;> rfl

theorem held_iff {arrivals : List LiveReading} (hn : (arrivals.map (·.ts)).Nodup) {r : LiveReading} :
    held arrivals = some r ↔ Newest arrivals r := by
  rw [held_eq]
  constructor
  · exact isNewest_foldl
  · intro h
    cases hf : arrivals.foldl (keep fun r => r.ts) none with
    | none =>
      rw [foldl_keep_eq_none.mp hf] at h
      exact absurd h.mem List.not_mem_nil
    | some m => rw [(isNewest_foldl hf).unique hn h]

/-- The zone is drawn live: its newest reading is Good and not stale by its arrival. -/
theorem painted_iff {w : World} {tenantId zoneId : Uuid} {p : SensorRow}
    {arrivals : List LiveReading} (h : OnePoint w tenantId zoneId p arrivals) (now since : ℤ)
    (hasBaseline : Bool) :
    zoneSource (reduceZone [⟨p.sampleIntervalS, held arrivals⟩] now since) hasBaseline = .live ↔
      ∃ r, Newest arrivals r ∧ r.quality = .good ∧
        isReadingStale r.ts r.receivedAt p.sampleIntervalS now since = false := by
  simp only [zoneSource_eq_live_iff, List.mem_singleton, exists_eq_left, PointInput.usable, isStale,
    Option.any_eq_true, Bool.and_eq_true, Bool.not_eq_true', beq_iff_eq, held_iff h.times]
  constructor
  · rintro ⟨r, hr, hs, hq⟩
    exact ⟨r, hr, hq, hs⟩
  · rintro ⟨r, hr, hq, hs⟩
    exact ⟨r, hr, hs, hq⟩

/-! ## The envelope -/

/-- Within the day `loadZoneContext` looks back. -/
def Recent (now : ℤ) (r : LiveReading) : Prop := now - oneDayMs < r.ts

theorem latestReading_iff {w : World} {tenantId zoneId : Uuid} {p : SensorRow}
    {arrivals : List LiveReading} (h : OnePoint w tenantId zoneId p arrivals) {now : ℤ}
    {row : TelemetryRow} :
    w.latestReading tenantId p.id now = some row ↔
      ∃ r, Newest arrivals r ∧ Recent now r ∧ row = stored tenantId p.id r := by
  let recent : TelemetryRow → Bool := fun t => decide (now - oneDayMs < t.time)
  have hrows : w.latestReading tenantId p.id now =
      newest (·.time) ((arrivals.map (stored tenantId p.id)).filter recent) := by
    rw [World.latestReading, ← h.rows, List.filter_filter]
    congr 2
    funext t
    exact Bool.and_comm _ _
  have htimes : ((arrivals.map (stored tenantId p.id)).map (·.time)).Nodup := by
    simpa [stored, Function.comp_def] using h.times
  -- the day's window is upward closed, so the newest in it is the newest of all
  have whole : ∀ {row}, w.latestReading tenantId p.id now = some row →
      IsNewest (fun t : TelemetryRow => t.time) (arrivals.map (stored tenantId p.id)) row ∧
        now - oneDayMs < row.time := by
    intro row hrow
    rw [hrows] at hrow
    have hnew := isNewest_newest hrow
    have hrec : now - oneDayMs < row.time := by
      simpa [recent] using (List.mem_filter.mp hnew.mem).2
    refine ⟨hnew.of_filter fun t _ hle => ?_, hrec⟩
    simpa [recent] using lt_of_lt_of_le hrec hle
  constructor
  · intro hrow
    obtain ⟨hnew, hrec⟩ := whole hrow
    obtain ⟨r, hr, rfl⟩ := List.mem_map.mp hnew.mem
    refine ⟨r, ⟨hr, fun a ha => hnew.le _ (List.mem_map_of_mem ha)⟩, hrec, rfl⟩
  · rintro ⟨r, hr, hrec, rfl⟩
    have hnew : IsNewest (fun t : TelemetryRow => t.time) (arrivals.map (stored tenantId p.id))
        (stored tenantId p.id r) :=
      IsNewest.map (f := stored tenantId p.id) (fun _ => rfl) hr
    cases hrow : w.latestReading tenantId p.id now with
    | none =>
      rw [hrows, newest_eq_none] at hrow
      have : stored tenantId p.id r ∈ (arrivals.map (stored tenantId p.id)).filter recent :=
        List.mem_filter.mpr ⟨hnew.mem, decide_eq_true hrec⟩
      rw [hrow] at this
      exact absurd this List.not_mem_nil
    | some row => rw [(whole hrow).1.unique htimes hnew]

/-- The envelope finds usable feedback: the newest reading is Good, of the last day, and not stale by
its own timestamp. -/
theorem usable_iff {w : World} {tenantId zoneId : Uuid} {p : SensorRow} {arrivals : List LiveReading}
    (h : OnePoint w tenantId zoneId p arrivals) (now : ℤ) :
    (∃ fb, loadFeedback w tenantId zoneId now = some fb ∧ fb.Usable now) ↔
      ∃ r, Newest arrivals r ∧ r.quality = .good ∧ Recent now r ∧
        isReadingStale r.ts r.ts p.sampleIntervalS now 0 = false := by
  have hpoint : w.point tenantId zoneId = some p := by rw [World.point, h.point]; rfl
  simp only [loadFeedback, hpoint, Option.bind_some, Option.map_eq_some_iff, latestReading_iff h]
  constructor
  · rintro ⟨_, ⟨row, ⟨r, hr, hrec, rfl⟩, rfl⟩, hq, hs⟩
    exact ⟨r, hr, hq, hrec, hs⟩
  · rintro ⟨r, hr, hq, hrec, hs⟩
    exact ⟨_, ⟨_, ⟨r, hr, hrec, rfl⟩, rfl⟩, hq, hs⟩

/-! ## Where they part -/

/-- Good and of the last day, fresh by its own timestamp and stale by its arrival. -/
structure Drifts (sampleIntervalS now since : ℤ) (r : LiveReading) : Prop where
  good : r.quality = .good
  recent : Recent now r
  fresh : isReadingStale r.ts r.ts sampleIntervalS now 0 = false
  stale : isReadingStale r.ts r.receivedAt sampleIntervalS now since = true

/-- Only a device clock ahead of the arrival can do that. -/
theorem Drifts.ahead {sampleIntervalS now since : ℤ} {r : LiveReading}
    (h : Drifts sampleIntervalS now since r) (hsince : 0 ≤ since) : r.receivedAt < r.ts := by
  by_contra hle
  have := isReadingStale_mono le_rfl (not_lt.mp hle) hsince h.stale
  rw [h.fresh] at this
  cases this

/-- The two contexts a command is evaluated in: when it is issued, and when it is dispatched. -/
def envelopeContexts (settings : ControlSettings) (role : TenantRole) (now : ℤ)
    (zone : ZoneControlContext) : List EnvelopeContext :=
  [issueContext settings role now zone, dispatchContext settings role now zone]

/-- **If we would not paint it we do not command it**, exactly when the newest reading does not drift
(or the request is refused before the feedback is looked at). -/
theorem unpainted_refused_iff {w : World} {t : List Command} {tenantId zoneId : Uuid} {p : SensorRow}
    {arrivals : List LiveReading} (h : OnePoint w tenantId zoneId p arrivals)
    {settings : ControlSettings} {role : TenantRole} {now : ℤ} {ctx : EnvelopeContext}
    (hctx : ctx ∈ envelopeContexts settings role now (loadZoneContext w t tenantId zoneId now))
    (request : EnvelopeRequest) (since : ℤ) (hasBaseline : Bool) :
    (zoneSource (reduceZone [⟨p.sampleIntervalS, held arrivals⟩] now since) hasBaseline ≠ .live →
      ∃ r, evaluate request ctx = .error r ∧ (Cleared ctx → r.refusal = .feedbackUnusable)) ↔
    (Cleared ctx → ∀ newest, Newest arrivals newest →
      ¬ Drifts p.sampleIntervalS now since newest) := by
  have hsees : ctx.feedback = loadFeedback w tenantId zoneId now ∧ ctx.now = now := by
    simp only [envelopeContexts, List.mem_cons, List.not_mem_nil, or_false] at hctx
    rcases hctx with rfl | rfl <;> exact ⟨rfl, rfl⟩
  by_cases hc : Cleared ctx
  · have hfb := hc.feedbackUnusable_iff request
    rw [hsees.1, hsees.2, usable_iff h now] at hfb
    simp only [hc, true_implies, hfb, ne_eq, painted_iff h now since hasBaseline]
    constructor
    · intro himp newest hnew hd
      refine himp ?_ ⟨newest, hnew, hd.good, hd.recent, hd.fresh⟩
      rintro ⟨r, hr, -, hs⟩
      rw [hr.unique h.times hnew, hd.stale] at hs
      cases hs
    · rintro hno hnot ⟨r, hr, hq, hrec, hfresh⟩
      refine hno r hr ⟨hq, hrec, hfresh, ?_⟩
      by_contra hs
      exact hnot ⟨r, hr, hq, by simpa using hs⟩
  · obtain ⟨r, hr⟩ := evaluate_error_of_not_cleared hc request
    simp only [hc, false_implies, and_true, iff_true]
    exact fun _ => ⟨r, hr⟩

/-- The site with one reading from its point. -/
def siteReading (r : LiveReading) : World := { site with telemetry := [stored 1 1 r] }

theorem onePoint_siteReading (r : LiveReading) :
    OnePoint (siteReading r) 1 1 ⟨1, 1, some 1, .temperatureC, true, 60⟩ [r] :=
  ⟨rfl, rfl, List.nodup_singleton _⟩

/-- A reading four minutes old when it arrived: neither painted nor commanded. -/
theorem unpainted_refused_backfill :
    let late : LiveReading := ⟨22, 1000000, .good, 1240000⟩
    let ctx := issueContext (site.getSettings 1) .operator 1250000
      (loadZoneContext (siteReading late) [] 1 1 1250000)
    ∃ r, evaluate ⟨23, none⟩ ctx = .error r ∧ (Cleared ctx → r.refusal = .feedbackUnusable) := by
  intro late ctx
  refine (unpainted_refused_iff (onePoint_siteReading late) List.mem_cons_self ⟨23, none⟩ 0
    true).mpr ?_ (by decide +kernel)
  intro _ newest hnew hd
  have : newest.receivedAt < newest.ts := hd.ahead le_rfl
  rw [List.mem_singleton.mp hnew.mem] at this
  exact absurd this (by decide)

/-- A device clock a minute ahead of the server; three minutes and twenty seconds after the arrival the
zone is drawn stale, and commanded. -/
theorem unpainted_accepted :
    let ahead : LiveReading := ⟨22, 1060000, .good, 1000000⟩
    OnePoint (siteReading ahead) 1 1 ⟨1, 1, some 1, .temperatureC, true, 60⟩ [ahead] ∧
      zoneSource (reduceZone [⟨60, held [ahead]⟩] 1200000 0) true = .stale ∧
      evaluate ⟨23, none⟩ (issueContext (site.getSettings 1) .operator 1200000
        (loadZoneContext (siteReading ahead) [] 1 1 1200000)) =
          .ok ⟨22, 3600, 1500000, 4800000⟩ := by
  intro ahead
  exact ⟨onePoint_siteReading ahead, by decide +kernel, by decide +kernel⟩

end DTwin.Control
