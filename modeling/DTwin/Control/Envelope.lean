import DTwin.Lib.Decimal
import DTwin.Lib.Result
import DTwin.Types.Control

/-!
# DTwin.Control.Envelope — may this command be issued, right now, to this zone?

`apps/ingest/src/control/envelope.ts`.  `evaluate` is a pure function of a request and a snapshot of
the world; it runs its checks in the order of the source (authority, capability, interlocks, value,
rate) and answers with the first refusal.  `Admissible` says what all of them together ask for, and
`evaluate_ok_iff` is the one fact callers use: `evaluate` answers ok exactly on admissible requests.
-/

namespace DTwin.Control

open Result

structure ServingEquipment where
  tag : String
  status : EquipmentStatus
deriving DecidableEq

/-- The zone's latest temperature: measured at `ts` (device clock), arrived at `receivedAt`. -/
structure ZoneFeedback where
  value : ℚ
  ts : ℤ
  receivedAt : ℤ
  quality : Quality
  sampleIntervalS : ℤ
deriving DecidableEq

structure EnvelopeContext where
  settings : ControlSettings
  role : TenantRole
  baselineTempC : Option ℚ
  activeOverrideTempC : Option ℚ
  equipment : List ServingEquipment
  feedback : Option ZoneFeedback
  lastCommandAt : Option ℤ
  commandInFlight : Bool
  now : ℤ

structure EnvelopeRequest where
  setpointTempC : ℚ
  durationS : Option ℤ

/-- The verdict when the command is allowed. -/
structure Accepted where
  previousTempC : ℚ
  durationS : ℤ
  expiresAt : ℤ
  effectiveUntil : ℤ
deriving DecidableEq

structure Refused where
  refusal : ControlRefusal
  message : String
deriving DecidableEq

abbrev EnvelopeVerdict := Except Refused Accepted

def refuse {α : Type} (refusal : ControlRefusal) (message : String) : Except Refused α :=
  .error ⟨refusal, message⟩

/-- Equipment states in which the zone must not be commanded; `degraded` is not one. -/
def blockingStatuses : List EquipmentStatus := [.fault, .offline, .maintenance]

/-- Setpoints closer than this are the same setpoint. -/
def setpointEpsilonK : ℚ := 1 / 20

/-- The slack of the two comparisons with a limit. -/
def limitSlack : ℚ := 1 / 10 ^ 9

/-- Seconds from `t` to `now`. -/
def sinceS (now t : ℤ) : ℚ := ((now - t : ℤ) : ℚ) / 1000

/-! ## The checks -/

/-- 1. authority -/
def authority (ctx : EnvelopeContext) : Except Refused Unit :=
  if mayCommand ctx.role then .ok ()
  else refuse .forbiddenRole s!"role '{ctx.role.name}' may not issue control commands"

/-- 2. capability: control is on and the zone has a designed setpoint. -/
def capability (ctx : EnvelopeContext) : Except Refused ℚ :=
  if !ctx.settings.enabled then
    refuse .controlDisabled "supervisory control is switched off for this tenant"
  else
    match ctx.baselineTempC with
    | none =>
      refuse .noBaseline "this zone has no thermal profile, so it has no designed setpoint"
    | some baseline => .ok baseline

/-- 3. interlocks, serving equipment -/
def equipmentInterlock (ctx : EnvelopeContext) : Except Refused Unit :=
  let blocked := ctx.equipment.filter fun e => blockingStatuses.contains e.status
  if blocked.length > 0 then
    let named := ", ".intercalate (blocked.map fun e => s!"{e.tag} ({e.status.name})")
    refuse .equipmentUnavailable s!"serving equipment is unavailable: {named}"
  else .ok ()

/-- 3. interlocks, feedback: the rule for drawing a zone, applied to acting on one. -/
def feedbackInterlock (ctx : EnvelopeContext) : Except Refused Unit :=
  match ctx.feedback with
  | none => refuse .feedbackUnusable "this zone has no temperature reading to control against"
  | some fb =>
    if fb.quality ≠ .good then
      refuse .feedbackUnusable
        s!"the zone's temperature reading is quality-flagged (code {fb.quality.code})"
    else if isReadingStale fb.ts fb.receivedAt fb.sampleIntervalS ctx.now 0 then
      let ageS := Decimal.mathRound (sinceS ctx.now (min fb.ts fb.receivedAt))
      refuse .feedbackUnusable
        s!"the zone's temperature reading is {ageS}s old and it reports every {fb.sampleIntervalS}s"
    else .ok ()

/-- 4. value -/
def valueCheck (settings : ControlSettings) (target baseline current : ℚ) : Except Refused Unit :=
  let deviation := |target - baseline|
  let step := |target - current|
  if deviation > settings.maxDeviationK + limitSlack then
    refuse .outsideEnvelope
      (s!"{toFixed1 target} °C is {toFixed1 deviation} K from this zone's designed " ++
        s!"{toFixed1 baseline} °C; the envelope allows {toFixed1 settings.maxDeviationK} K")
  else if step > settings.maxStepK + limitSlack then
    refuse .stepTooLarge
      (s!"moving {toFixed1 step} K in one command, from {toFixed1 current} °C; " ++
        s!"the limit is {toFixed1 settings.maxStepK} K")
  else if step ≤ setpointEpsilonK then
    refuse .noChange s!"this zone is already at {toFixed1 current} °C"
  else .ok ()

/-- 5. rate -/
def rateCheck (ctx : EnvelopeContext) : Except Refused Unit :=
  if ctx.commandInFlight then
    refuse .commandInFlight "a command for this zone is already waiting to be applied"
  else
    match ctx.lastCommandAt with
    | none => .ok ()
    | some last =>
      let since := sinceS ctx.now last
      if since < ctx.settings.minIntervalS then
        let waitS := ⌈(ctx.settings.minIntervalS : ℚ) - since⌉
        refuse .tooSoon
          (s!"commanded {⌊since⌋}s ago; this zone accepts one command every " ++
            s!"{ctx.settings.minIntervalS}s — {waitS}s to wait")
      else .ok ()

/-- The duration of the override: the request's, or the tenant's default. -/
def resolvedDurationS (request : EnvelopeRequest) (settings : ControlSettings) : ℤ :=
  request.durationS.getD settings.defaultDurationS

/-- The end of check 5: how long the override may hold. -/
def durationCheck (request : EnvelopeRequest) (settings : ControlSettings) : Except Refused ℤ :=
  let durationS := resolvedDurationS request settings
  if durationS > settings.maxDurationS then
    refuse .durationTooLong
      (s!"{durationS}s exceeds the {settings.maxDurationS}s maximum; an override " ++
        "is supervisory, not permanent — change the profile instead")
  else .ok durationS

/-- The setpoint in force: the active override's, or the designed one. -/
def currentTempC (ctx : EnvelopeContext) (baseline : ℚ) : ℚ :=
  ctx.activeOverrideTempC.getD baseline

/-- The verdict when nothing refuses: intent and effect lapse on different clocks. -/
def accepted (ctx : EnvelopeContext) (current : ℚ) (durationS : ℤ) : Accepted where
  previousTempC := current
  durationS := durationS
  expiresAt := ctx.now + ctx.settings.commandTtlS * 1000
  effectiveUntil := ctx.now + durationS * 1000

def evaluate (request : EnvelopeRequest) (ctx : EnvelopeContext) : EnvelopeVerdict := do
  authority ctx
  let baseline ← capability ctx
  equipmentInterlock ctx
  feedbackInterlock ctx
  let current := currentTempC ctx baseline
  valueCheck ctx.settings request.setpointTempC baseline current
  rateCheck ctx
  let durationS ← durationCheck request ctx.settings
  return accepted ctx current durationS

/-! ## What each check asks for -/

theorem authority_ok_iff {ctx : EnvelopeContext} {u : Unit} :
    authority ctx = .ok u ↔ mayCommand ctx.role = true := by
  unfold authority
  split_ifs with h <;> simp [h, refuse]

theorem capability_ok_iff {ctx : EnvelopeContext} {b : ℚ} :
    capability ctx = .ok b ↔ ctx.settings.enabled = true ∧ ctx.baselineTempC = some b := by
  unfold capability
  cases he : ctx.settings.enabled <;> cases hb : ctx.baselineTempC <;> simp [refuse]

theorem equipmentInterlock_ok_iff {ctx : EnvelopeContext} {u : Unit} :
    equipmentInterlock ctx = .ok u ↔ ∀ e ∈ ctx.equipment, e.status ∉ blockingStatuses := by
  have hlen : (ctx.equipment.filter fun e => blockingStatuses.contains e.status).length > 0 ↔
      ¬ ∀ e ∈ ctx.equipment, e.status ∉ blockingStatuses := by
    simp [List.length_pos_iff_exists_mem]
  unfold equipmentInterlock
  dsimp only
  split_ifs with h
  · simp only [refuse, reduceCtorEq, false_iff]
    exact hlen.mp h
  · simp only [true_iff]
    exact not_not.mp fun hn => h (hlen.mpr hn)

/-- What makes a feedback usable at `now`. -/
def ZoneFeedback.Usable (fb : ZoneFeedback) (now : ℤ) : Prop :=
  fb.quality = .good ∧ isReadingStale fb.ts fb.receivedAt fb.sampleIntervalS now 0 = false

theorem feedbackInterlock_ok_iff {ctx : EnvelopeContext} {u : Unit} :
    feedbackInterlock ctx = .ok u ↔ ∃ fb, ctx.feedback = some fb ∧ fb.Usable ctx.now := by
  unfold feedbackInterlock ZoneFeedback.Usable
  cases hf : ctx.feedback with
  | none => simp [refuse]
  | some fb =>
    by_cases hq : fb.quality = .good <;>
      cases hs : isReadingStale fb.ts fb.receivedAt fb.sampleIntervalS ctx.now 0 <;>
      simp [hq, hs, refuse]

/-- The feedback interlock only ever refuses with `feedback_unusable`. -/
theorem feedbackInterlock_error {ctx : EnvelopeContext} {r : Refused}
    (h : feedbackInterlock ctx = .error r) : r.refusal = .feedbackUnusable := by
  unfold feedbackInterlock at h
  cases hf : ctx.feedback with
  | none =>
    simp only [hf, refuse, Except.error.injEq] at h
    rw [← h]
  | some fb =>
    simp only [hf] at h
    split_ifs at h <;> simp only [refuse, Except.error.injEq] at h <;> rw [← h]

theorem valueCheck_ok_iff {settings : ControlSettings} {target baseline current : ℚ} {u : Unit} :
    valueCheck settings target baseline current = .ok u ↔
      |target - baseline| ≤ settings.maxDeviationK + limitSlack ∧
      |target - current| ≤ settings.maxStepK + limitSlack ∧
      setpointEpsilonK < |target - current| := by
  unfold valueCheck
  by_cases h1 : |target - baseline| > settings.maxDeviationK + limitSlack
  · simp [h1, refuse, not_le.mpr h1]
  · by_cases h2 : |target - current| > settings.maxStepK + limitSlack
    · simp [h1, h2, refuse, not_le.mpr h2]
    · by_cases h3 : |target - current| ≤ setpointEpsilonK
      · simp [h1, h2, h3, refuse, not_lt.mpr h3]
      · simp [h1, h2, h3, not_lt.mp h1, not_lt.mp h2, not_le.mp h3]

/-- Enough time since the zone was last commanded. -/
def RateAllowed (ctx : EnvelopeContext) : Prop :=
  ctx.commandInFlight = false ∧ ∀ last ∈ ctx.lastCommandAt,
    (ctx.settings.minIntervalS : ℚ) ≤ sinceS ctx.now last

theorem rateCheck_ok_iff {ctx : EnvelopeContext} {u : Unit} :
    rateCheck ctx = .ok u ↔ RateAllowed ctx := by
  unfold rateCheck RateAllowed
  cases hf : ctx.commandInFlight with
  | true => simp [refuse]
  | false =>
    cases hl : ctx.lastCommandAt with
    | none => simp
    | some last =>
      simp only [Bool.false_eq_true, if_false, Option.mem_def, Option.some.injEq, forall_eq',
        true_and]
      split_ifs with h
      · simp [refuse, not_le.mpr h]
      · simp [not_lt.mp h]

theorem durationCheck_ok_iff {request : EnvelopeRequest} {settings : ControlSettings} {d : ℤ} :
    durationCheck request settings = .ok d ↔
      d = resolvedDurationS request settings ∧ d ≤ settings.maxDurationS := by
  unfold durationCheck
  dsimp only
  split_ifs with h
  · simp only [refuse, reduceCtorEq, false_iff, not_and]
    rintro rfl
    exact not_le.mpr h
  · simp only [Except.ok.injEq]
    constructor
    · rintro rfl
      exact ⟨rfl, not_lt.mp h⟩
    · rintro ⟨rfl, -⟩
      rfl

/-- A request inside the whole envelope, measured from the `designed` setpoint, with feedback `fb`. -/
structure Admissible (request : EnvelopeRequest) (ctx : EnvelopeContext) (designed : ℚ)
    (fb : ZoneFeedback) : Prop where
  role : mayCommand ctx.role = true
  enabled : ctx.settings.enabled = true
  baseline : ctx.baselineTempC = some designed
  equipment : ∀ e ∈ ctx.equipment, e.status ∉ blockingStatuses
  feedback : ctx.feedback = some fb
  usable : fb.Usable ctx.now
  deviation : |request.setpointTempC - designed| ≤ ctx.settings.maxDeviationK + limitSlack
  step : |request.setpointTempC - currentTempC ctx designed| ≤ ctx.settings.maxStepK + limitSlack
  change : setpointEpsilonK < |request.setpointTempC - currentTempC ctx designed|
  rate : RateAllowed ctx
  duration : resolvedDurationS request ctx.settings ≤ ctx.settings.maxDurationS

/-- **The envelope.**  `evaluate` answers ok exactly on admissible requests. -/
theorem evaluate_ok_iff {request : EnvelopeRequest} {ctx : EnvelopeContext} {v : Accepted} :
    evaluate request ctx = .ok v ↔ ∃ baseline fb, Admissible request ctx baseline fb ∧
      v = accepted ctx (currentTempC ctx baseline) (resolvedDurationS request ctx.settings) := by
  simp only [evaluate, bind_eq_ok, pure, Except.pure, Except.ok.injEq,
    authority_ok_iff, capability_ok_iff, equipmentInterlock_ok_iff, feedbackInterlock_ok_iff,
    valueCheck_ok_iff, rateCheck_ok_iff, durationCheck_ok_iff]
  constructor
  · rintro ⟨-, hr, b, ⟨hen, hb⟩, -, heq, -, ⟨fb, hfb, hu⟩, -, ⟨hd, hs, hc⟩, -, hrate, d,
      ⟨rfl, hdur⟩, rfl⟩
    exact ⟨b, fb, ⟨hr, hen, hb, heq, hfb, hu, hd, hs, hc, hrate, hdur⟩, rfl⟩
  · rintro ⟨b, fb, h, rfl⟩
    exact ⟨(), h.role, b, ⟨h.enabled, h.baseline⟩, (), h.equipment, (), ⟨fb, h.feedback, h.usable⟩,
      (), ⟨h.deviation, h.step, h.change⟩, (), h.rate, _, ⟨rfl, h.duration⟩, rfl⟩

/-! ## Which check refuses -/

theorem valueCheck_error_ne {settings : ControlSettings} {target baseline current : ℚ} {r : Refused}
    (h : valueCheck settings target baseline current = .error r) :
    r.refusal ≠ .feedbackUnusable := by
  unfold valueCheck at h
  dsimp only at h
  split_ifs at h <;> simp only [refuse, Except.error.injEq] at h <;> simp [← h]

theorem rateCheck_error_ne {ctx : EnvelopeContext} {r : Refused} (h : rateCheck ctx = .error r) :
    r.refusal ≠ .feedbackUnusable := by
  unfold rateCheck at h
  cases hf : ctx.commandInFlight <;> cases hl : ctx.lastCommandAt <;>
    simp only [hf, hl, Bool.false_eq_true, if_false, if_true, reduceCtorEq] at h
  · split_ifs at h
    simp only [refuse, Except.error.injEq] at h
    simp [← h]
  all_goals
    simp only [refuse, Except.error.injEq] at h
    simp [← h]

theorem durationCheck_error_ne {request : EnvelopeRequest} {settings : ControlSettings} {r : Refused}
    (h : durationCheck request settings = .error r) : r.refusal ≠ .feedbackUnusable := by
  unfold durationCheck at h
  dsimp only at h
  split_ifs at h
  simp only [refuse, Except.error.injEq] at h
  simp [← h]

/-- Nothing is refused before the feedback is looked at. -/
structure Cleared (ctx : EnvelopeContext) : Prop where
  role : mayCommand ctx.role = true
  enabled : ctx.settings.enabled = true
  baseline : ctx.baselineTempC.isSome = true
  equipment : ∀ e ∈ ctx.equipment, e.status ∉ blockingStatuses

/-- With the earlier checks behind it, `evaluate` answers for the feedback. -/
theorem Cleared.evaluate_eq {ctx : EnvelopeContext} (h : Cleared ctx) (request : EnvelopeRequest) :
    ∃ baseline, evaluate request ctx = (do
      feedbackInterlock ctx
      valueCheck ctx.settings request.setpointTempC baseline (currentTempC ctx baseline)
      rateCheck ctx
      let durationS ← durationCheck request ctx.settings
      return accepted ctx (currentTempC ctx baseline) durationS) := by
  obtain ⟨baseline, hb⟩ := Option.isSome_iff_exists.mp h.baseline
  have h₁ : authority ctx = .ok () := authority_ok_iff.mpr h.role
  have h₂ : capability ctx = .ok baseline := capability_ok_iff.mpr ⟨h.enabled, hb⟩
  have h₃ : equipmentInterlock ctx = .ok () := equipmentInterlock_ok_iff.mpr h.equipment
  refine ⟨baseline, ?_⟩
  rw [evaluate, h₁, h₂, h₃]
  rfl

/-- A context that is not cleared is refused, whatever is asked. -/
theorem evaluate_error_of_not_cleared {ctx : EnvelopeContext} (h : ¬ Cleared ctx)
    (request : EnvelopeRequest) : ∃ r, evaluate request ctx = .error r := by
  cases he : evaluate request ctx with
  | error r => exact ⟨r, rfl⟩
  | ok v =>
    obtain ⟨baseline, fb, ha, -⟩ := evaluate_ok_iff.mp he
    exact absurd ⟨ha.role, ha.enabled, by simp [ha.baseline], ha.equipment⟩ h

/-- **Feedback.**  A cleared request is refused with `feedback_unusable` exactly when the zone has no
usable feedback. -/
theorem Cleared.feedbackUnusable_iff {ctx : EnvelopeContext} (h : Cleared ctx)
    (request : EnvelopeRequest) :
    (∃ r, evaluate request ctx = .error r ∧ r.refusal = .feedbackUnusable) ↔
      ¬ ∃ fb, ctx.feedback = some fb ∧ fb.Usable ctx.now := by
  obtain ⟨baseline, heq⟩ := h.evaluate_eq request
  rw [heq]
  cases hf : feedbackInterlock ctx with
  | error r =>
    have hunusable : ¬ ∃ fb, ctx.feedback = some fb ∧ fb.Usable ctx.now := fun hu => by
      rw [feedbackInterlock_ok_iff.mpr hu] at hf
      · cases hf
      · exact ()
    exact iff_of_true ⟨r, rfl, feedbackInterlock_error hf⟩ hunusable
  | ok u =>
    refine iff_of_false ?_ (not_not.mpr (feedbackInterlock_ok_iff.mp hf))
    rintro ⟨r, hr, hu⟩
    cases hv : valueCheck ctx.settings request.setpointTempC baseline (currentTempC ctx baseline) with
    | error r' =>
      simp only [hv, bind, Except.bind, Except.error.injEq] at hr
      exact valueCheck_error_ne (hr ▸ hv) hu
    | ok _ =>
      cases hrate : rateCheck ctx with
      | error r' =>
        simp only [hv, hrate, bind, Except.bind, Except.error.injEq] at hr
        exact rateCheck_error_ne (hr ▸ hrate) hu
      | ok _ =>
        cases hd : durationCheck request ctx.settings with
        | error r' =>
          simp only [hv, hrate, hd, bind, Except.bind, Except.error.injEq] at hr
          exact durationCheck_error_ne (hr ▸ hd) hu
        | ok d => simp [hv, hrate, hd, bind, Except.bind, pure, Except.pure] at hr

end DTwin.Control
