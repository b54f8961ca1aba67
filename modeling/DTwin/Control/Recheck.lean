import DTwin.Control.Admission

/-!
# DTwin.Control.Recheck — what a gateway is handed

`claimForGateway` evaluates every claimed command again, against the world at the claim.  It writes
the table while it does so, but only rows that are not overrides, so the setpoint in force is the same
at every re-evaluation (`overrideCandidates_updateWhere`).  `claimForGateway_within`: everything handed over
is inside the envelope, up to the slack of its comparisons.

`claimForGateway_run` connects the two models of the call: the function is one run of `control`.
-/

namespace DTwin.Control

open Table Machine

/-- The envelope a command must be inside to be handed over, in the world `w` with the table `t`:
`designed` is the setpoint of its zone's profile and `fb` the zone's feedback. -/
structure WithinEnvelope (w : World) (t : List Command) (tenantId : Uuid) (now dbNow : ℤ)
    (c : Command) (designed : ℚ) (fb : ZoneFeedback) : Prop where
  role : ∃ role, w.memberRole tenantId c.requestedBy = some role ∧ mayCommand role = true
  enabled : (w.getSettings tenantId).enabled = true
  baseline : (loadZoneContext w t tenantId c.zoneId dbNow).baselineTempC = some designed
  equipment : ∀ e ∈ (loadZoneContext w t tenantId c.zoneId dbNow).equipment,
    e.status ∉ blockingStatuses
  feedback : (loadZoneContext w t tenantId c.zoneId dbNow).feedback = some fb
  usable : fb.Usable now
  deviation : |c.setpointTempC - designed| ≤ (w.getSettings tenantId).maxDeviationK + limitSlack
  step : |c.setpointTempC - (zoneOverride tenantId c.zoneId dbNow t).getD designed| ≤
    (w.getSettings tenantId).maxStepK + limitSlack

/-! ## The overrides stay -/

/-- An update of rows that are not overrides, to rows that are not. -/
theorem overrideCandidates_updateWhere (tenantId zoneId : Uuid) (dbNow : ℤ) {p : Command → Bool}
    {f : Command → Command} : ∀ {t : List Command},
    (∀ c ∈ t, p c = true → c.state ≠ .applied ∧ (f c).state ≠ .applied) →
      overrideCandidates tenantId zoneId dbNow (updateWhere p f t) =
        overrideCandidates tenantId zoneId dbNow t
  | [], _ => rfl
  | c :: t, h => by
    have ih := overrideCandidates_updateWhere tenantId zoneId dbNow fun d hd =>
      h d (List.mem_cons_of_mem c hd)
    have hc := h c List.mem_cons_self
    simp only [overrideCandidates, updateWhere, List.map_cons, List.filter_cons] at ih ⊢
    cases hp : p c with
    | false => simp [ih]
    | true =>
      have h₁ : inForce tenantId dbNow c = false := by simp [inForce, (hc hp).1]
      have h₂ : inForce tenantId dbNow (f c) = false := by simp [inForce, (hc hp).2]
      simp [ih, h₁, h₂]

/-- The same setpoint in force in two tables, on every zone and at every time. -/
def SameOverrides (t u : List Command) : Prop :=
  ∀ tenantId zoneId dbNow, zoneOverride tenantId zoneId dbNow u = zoneOverride tenantId zoneId dbNow t

theorem SameOverrides.update {t u : List Command} (h : SameOverrides t u) {p : Command → Bool}
    {f : Command → Command}
    (hf : ∀ c ∈ u, p c = true → c.state ≠ .applied ∧ (f c).state ≠ .applied) :
    SameOverrides t (updateWhere p f u) := by
  intro tenantId zoneId dbNow
  rw [← h tenantId zoneId dbNow, zoneOverride, zoneOverride, overrideCandidates_updateWhere _ _ _ hf]

theorem SameOverrides.expireStale (tenantId : Uuid) (now : ℤ) (t : List Command) :
    SameOverrides t (expireStale tenantId now t) := by
  refine SameOverrides.update (fun _ _ _ => rfl) fun c _ hp => ?_
  simp [(staleAt_iff.mp hp).2.1, expiredRow]

theorem SameOverrides.claim {t u : List Command} (h : SameOverrides t u)
    (hn : (u.map (·.id)).Nodup) (tenantId : Uuid) (gateway : String) (limit : ℕ) (now : ℤ)
    (locked : List Uuid) :
    SameOverrides t (claimCommands tenantId gateway limit now locked u).1 := by
  refine h.update fun c hc hp => ?_
  simp [(claimable_iff.mp (claimable_of_isOneOf hn hc hp)).2.1, claimedRow]

theorem SameOverrides.release {t u : List Command} (h : SameOverrides t u) (tenantId id : Uuid)
    (detail : String) : SameOverrides t (releaseCommand tenantId id detail u) := by
  refine h.update fun c _ hp => ?_
  simp [(isRow_iff.mp hp).2.2, releasedRow]

/-! ## The re-evaluation -/

/-- A re-evaluation that answers ok, in a table with the overrides of `t`. -/
theorem recheck_ok {w : World} {t u : List Command} {tenantId : Uuid} {c : Command}
    {now dbNow : ℤ} {v : Accepted} (hsame : SameOverrides t u)
    (h : recheck w u (w.getSettings tenantId) tenantId c now dbNow = .ok v) :
    ∃ designed fb, WithinEnvelope w t tenantId now dbNow c designed fb := by
  obtain ⟨designed, fb, ha, -⟩ := evaluate_ok_iff.mp h
  refine ⟨designed, fb, ?_, ha.enabled, ha.baseline, ha.equipment, ha.feedback, ha.usable,
    ha.deviation, ?_⟩
  · -- a user who is no member would be judged as a viewer, who may not command
    have hrole : mayCommand ((w.memberRole tenantId c.requestedBy).getD .viewer) = true := ha.role
    cases hm : w.memberRole tenantId c.requestedBy with
    | none =>
      rw [hm] at hrole
      cases hrole
    | some role =>
      rw [hm] at hrole
      exact ⟨role, rfl, hrole⟩
  · rw [← hsame tenantId c.zoneId dbNow]
    exact ha.step

/-- **Step lemma** of the loop: the overrides stay, and what is handed over is inside the envelope. -/
theorem recheckStep_keeps {w : World} {t : List Command} {tenantId : Uuid} {k : Clocks}
    {acc : List Command × ClaimResult} {command : Command} (hsame : SameOverrides t acc.1)
    (hout : ∀ c ∈ acc.2.commands, ∃ designed fb,
      WithinEnvelope w t tenantId (k.now c) (k.loadAt c) c designed fb) :
    SameOverrides t (recheckStep w (w.getSettings tenantId) tenantId k acc command).1 ∧
      ∀ c ∈ (recheckStep w (w.getSettings tenantId) tenantId k acc command).2.commands,
        ∃ designed fb, WithinEnvelope w t tenantId (k.now c) (k.loadAt c) c designed fb := by
  unfold recheckStep
  cases hv : recheck w acc.1 (w.getSettings tenantId) tenantId command (k.now command)
      (k.loadAt command) with
  | error r => exact ⟨hsame.release _ _ _, hout⟩
  | ok v =>
    refine ⟨hsame, fun c hc => ?_⟩
    rcases List.mem_append.mp hc with hc | hc
    · exact hout c hc
    · rw [List.mem_singleton.mp hc]
      exact recheck_ok hsame hv

/-- **Run lemma** of the loop. -/
theorem recheckLoop_keeps {w : World} {t : List Command} {tenantId : Uuid} {k : Clocks} :
    ∀ (todo : List Command) (acc : List Command × ClaimResult), SameOverrides t acc.1 →
      (∀ c ∈ acc.2.commands, ∃ designed fb,
        WithinEnvelope w t tenantId (k.now c) (k.loadAt c) c designed fb) →
      ∀ c ∈ (todo.foldl (recheckStep w (w.getSettings tenantId) tenantId k) acc).2.commands,
        ∃ designed fb, WithinEnvelope w t tenantId (k.now c) (k.loadAt c) c designed fb
  | [], _, _, hout => hout
  | _ :: todo, _, hsame, hout =>
    recheckLoop_keeps todo _ (recheckStep_keeps hsame hout).1 (recheckStep_keeps hsame hout).2

/-- **The dispatch re-check.**  Every command `claimForGateway` returns is inside the envelope of the
world at the claim, whatever the world was when it was issued. -/
theorem claimForGateway_within (w : World) {t : List Command} (hn : (t.map (·.id)).Nodup)
    (tenantId : Uuid) (gateway : String) (limit : ℕ) (locked : List Uuid) (k : Clocks) :
    ∀ c ∈ (claimForGateway w t tenantId gateway limit locked k).2.commands,
      ∃ designed fb, WithinEnvelope w t tenantId (k.now c) (k.loadAt c) c designed fb := by
  unfold claimForGateway
  dsimp only
  split_ifs with hoff
  · exact fun c hc => absurd hc List.not_mem_nil
  · have hn₁ : ((expireStale tenantId k.expireAt t).map (·.id)).Nodup := by
      rw [expireStale, map_updateWhere (i := Command.id) (f := expiredRow k.expireAt) fun _ => rfl]
      exact hn
    refine recheckLoop_keeps _ _ ?_ fun c hc => absurd hc List.not_mem_nil
    exact (SameOverrides.expireStale tenantId k.expireAt t).claim hn₁ tenantId gateway limit
      k.claimAt locked

/-- The table after `input` was queued at time 0. -/
def queueOf (input : NewCommand)
    (hp : -50 < input.setpointTempC ∧ input.setpointTempC < 60)
    (hw : input.expiresAt < input.effectiveUntil) : List Command := [input.row 1 0 hp hw]

/-- Every clock of a call says the same. -/
def Clocks.all (now : ℤ) : Clocks := ⟨now, now, fun _ => now, fun _ => now⟩

def siteQueue : List Command := queueOf siteCommand (by decide +kernel) (by decide)

theorem claimForGateway_within_siteQueue :
    ∃ c ∈ (claimForGateway site siteQueue 1 "gw" 10 [] (.all 1000)).2.commands,
      ∃ designed fb, WithinEnvelope site siteQueue 1 1000 1000 c designed fb := by
  have hall := claimForGateway_within site (t := siteQueue) (by decide) 1 "gw" 10 [] (.all 1000)
  have hne : (claimForGateway site siteQueue 1 "gw" 10 [] (.all 1000)).2.commands.length = 1 := by
    decide +kernel
  obtain ⟨c, hc⟩ := List.length_pos_iff_exists_mem.mp (hne.symm ▸ Nat.one_pos)
  exact ⟨c, hc, hall c hc⟩

/-- 24 °C and 2⁻³⁴ K. -/
def slackQueue : List Command :=
  queueOf { siteCommand with setpointTempC := 24 + 1 / 2 ^ 34 } (by decide +kernel) (by decide)

/-- 23 °C for twelve hours. -/
def longQueue : List Command :=
  queueOf { siteCommand with effectiveUntil := 43200000 } (by decide +kernel) (by decide)

/-- The site once overrides have been capped at an hour. -/
def cappedSite : World :=
  { site with
    settings := fun _ => some { ControlSettings.default with
      enabled := true, maxDurationS := 3600, sane_ck := by decide +kernel } }

/-- Handed over: a step above `maxStepK`, by less than the slack; and an override twelve times longer
than `maxDurationS` allows. -/
theorem claimForGateway_exceeds :
    (∃ c ∈ (claimForGateway site slackQueue 1 "gw" 10 [] (.all 1000)).2.commands,
      (loadZoneContext site slackQueue 1 c.zoneId 1000).baselineTempC = some 22 ∧
        (site.getSettings 1).maxStepK <
          |c.setpointTempC - (zoneOverride 1 c.zoneId 1000 slackQueue).getD 22|) ∧
    ∃ c ∈ (claimForGateway cappedSite longQueue 1 "gw" 10 [] (.all 1000)).2.commands,
      (cappedSite.getSettings 1).maxDurationS * 1000 < c.effectiveUntil - c.requestedAt := by
  constructor <;> decide +kernel

/-! ## The function is a run of the machine -/

theorem setCall_setCall (s : Sys) (i : ℕ) (c d : Call) : (s.setCall i c).setCall i d = s.setCall i d := by
  simp [Sys.setCall]

/-- The loop, as a run: the call turns over its claimed commands, putting the refused ones back. -/
theorem recheckLoop_reaches {w : World} {settings : ControlSettings} {tenantId : Uuid} {k : Clocks}
    {i : ℕ} : ∀ (todo : List Command) (acc : List Command × ClaimResult) (s : Sys), s.world = w →
      s.commands = acc.1 →
      s.calls i = .looping ⟨tenantId, settings, todo, acc.2.commands, acc.2.withheld⟩ →
      (∀ c ∈ todo, k.loadAt c ≤ s.clock) →
      let r := todo.foldl (recheckStep w settings tenantId k) acc
      control.Reaches s { s.setCall i .idle with commands := r.1 }
        [.returned i (r.2.commands.map (·.id)) r.2.withheld]
  | [], acc, s, _, ht, hcall, _ => by
    refine ⟨[.hand i], ?_⟩
    simp [exec, control, step, hcall, ← ht, Sys.setCall]
  | c :: todo, acc, s, hw, ht, hcall, hclock => by
    have hc := hclock c List.mem_cons_self
    have htodo : ∀ d ∈ todo, k.loadAt d ≤ s.clock := fun d hd => hclock d (List.mem_cons_of_mem c hd)
    rw [List.foldl_cons]
    cases hv : recheck w acc.1 settings tenantId c (k.now c) (k.loadAt c) with
    | ok v =>
      have hacc : recheckStep w settings tenantId k acc c =
          (acc.1, { acc.2 with commands := acc.2.commands ++ [c] }) := by simp [recheckStep, hv]
      let s₁ := s.setCall i
        (.looping ⟨tenantId, settings, todo, acc.2.commands ++ [c], acc.2.withheld⟩)
      have hjudge : control.step s (.judge i (k.now c) (k.loadAt c)) = some (s₁, []) := by
        simp [control, step, hcall, hc, hw, ht, hv, s₁]
      have hrest := recheckLoop_reaches todo (recheckStep w settings tenantId k acc c) s₁ hw
        (by rw [hacc]; exact ht) (by rw [hacc]; exact Function.update_self ..) htodo
      rw [show s₁.setCall i .idle = s.setCall i .idle from setCall_setCall ..] at hrest
      exact ((Reaches.refl s).step hjudge).trans hrest
    | error r =>
      have hacc : recheckStep w settings tenantId k acc c =
          (releaseCommand tenantId c.id (withheldDetail r) acc.1,
            { acc.2 with withheld := acc.2.withheld + 1 }) := by simp [recheckStep, hv]
      let l : Loop := ⟨tenantId, settings, todo, acc.2.commands, acc.2.withheld + 1⟩
      let s₁ := s.setCall i (.releasing c (withheldDetail r) l)
      let s₂ : Sys := { s₁.setCall i (.looping l) with
        commands := releaseCommand tenantId c.id (withheldDetail r) s.commands }
      have hjudge : control.step s (.judge i (k.now c) (k.loadAt c)) = some (s₁, []) := by
        simp [control, step, hcall, hc, hw, ht, hv, s₁, l]
      have hrelease : control.step s₁ (.release i) = some (s₂, []) := by
        have hcall₁ : s₁.calls i = .releasing c (withheldDetail r) l := Function.update_self ..
        simp only [control, step, hcall₁]
        rfl
      have hrest := recheckLoop_reaches todo (recheckStep w settings tenantId k acc c) s₂ hw
        (by rw [hacc, ← ht]) (by rw [hacc]; exact Function.update_self ..) htodo
      rw [show s₂.setCall i .idle = { s.setCall i .idle with commands := s₂.commands } by
        simp [s₂, s₁, Sys.setCall]] at hrest
      exact (((Reaches.refl s).step hjudge).step hrelease).trans hrest

/-- **`claimForGateway` is a run of `control`**: of an idle call whose world nobody edits and whose
transactions no other one comes between. -/
theorem claimForGateway_run {s : Sys} {i : ℕ} {tenantId : Uuid} {gateway : String} {limit : ℕ}
    {locked : List Uuid} {k : Clocks} (hidle : s.calls i = .idle) (hexpire : k.expireAt ≤ s.clock)
    (hclaim : k.claimAt ≤ s.clock) (hload : ∀ c, k.loadAt c ≤ s.clock) :
    let r := claimForGateway s.world s.commands tenantId gateway limit locked k
    ∃ o, control.Reaches s { s.setCall i .idle with commands := r.1 } o ∧
      returnedIds o = r.2.commands.map (·.id) := by
  let s₁ : Sys := { s.setCall i (.expired tenantId gateway limit) with
    commands := expireStale tenantId k.expireAt s.commands }
  have hstart : control.step s (.start i tenantId gateway limit k.expireAt) =
      some (s₁, .ran tenantId k.expireAt ::
        settledObs (staleAt tenantId k.expireAt) s.commands) := by
    simp [control, step, hidle, hexpire, s₁]
  have hrun₁ := (Reaches.refl s).step hstart
  have hcall₁ : s₁.calls i = .expired tenantId gateway limit := Function.update_self ..
  cases hon : (s.world.getSettings tenantId).enabled with
  | false =>
    have hoff : control.step s₁ (.readSettings i) =
        some (s₁.setCall i .idle, [.returned i [] 0]) := by
      simp [control, step, s₁, Sys.setCall, hon]
    have hr : claimForGateway s.world s.commands tenantId gateway limit locked k =
        (s₁.commands, ⟨[], 0⟩) := by simp [claimForGateway, hon, s₁]
    have hrun := hrun₁.step hoff
    rw [show s₁.setCall i .idle = { s.setCall i .idle with commands := s₁.commands } by
      simp [s₁, Sys.setCall]] at hrun
    rw [hr]
    exact ⟨_, hrun, by simp⟩
  | true =>
    let settings := s.world.getSettings tenantId
    let claimed := claimCommands tenantId gateway limit k.claimAt locked s₁.commands
    let s₂ := s₁.setCall i (.enabled tenantId gateway limit settings)
    let s₃ : Sys := { s₂.setCall i (.looping ⟨tenantId, settings, claimed.2, [], 0⟩) with
      commands := claimed.1 }
    have hread : control.step s₁ (.readSettings i) = some (s₂, []) := by
      simp [control, step, s₁, s₂, settings, Sys.setCall, hon]
    have hcall₂ : s₂.calls i = .enabled tenantId gateway limit settings := Function.update_self ..
    have hclaim : control.step s₂ (.claim i locked k.claimAt) = some (s₃, []) := by
      have hle : k.claimAt ≤ s₂.clock := hclaim
      simp only [control, step, hcall₂, if_pos hle]
      rfl
    have hloop := recheckLoop_reaches (k := k) (w := s.world) claimed.2 (claimed.1, ⟨[], 0⟩) s₃ rfl rfl
      (Function.update_self ..) fun c _ => hload c
    have hr : claimForGateway s.world s.commands tenantId gateway limit locked k =
        claimed.2.foldl (recheckStep s.world settings tenantId k) (claimed.1, ⟨[], 0⟩) := by
      simp [claimForGateway, hon, claimed, settings, s₁]
    have hrun := ((hrun₁.step hread).step hclaim).trans hloop
    rw [show s₃.setCall i .idle = { s.setCall i .idle with commands := s₃.commands } by
      simp [s₃, s₂, s₁, Sys.setCall]] at hrun
    rw [hr]
    exact ⟨_, hrun, by simp⟩

end DTwin.Control
