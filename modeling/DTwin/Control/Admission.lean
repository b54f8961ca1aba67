import DTwin.Control.Dispatch

/-!
# DTwin.Control.Admission — an accepted request and the row it becomes

Three places say what a legal command is: the request schema (`SetpointCommandRequest`), the envelope
(`evaluate`) and the `CHECK`s of `control_commands` (the fields of `Command`).  `accepted_storable_iff`
says when they agree: an accepted request is stored, or refused because the zone is taken, exactly
when the TTL ends before the override does, the setpoint is not an end of the schema's range and the
reason is text PostgreSQL can store.
-/

namespace DTwin.Control

/-- The `CHECK`s of `control_commands`. -/
def NewCommand.PassesChecks (input : NewCommand) : Prop :=
  (-50 < input.setpointTempC ∧ input.setpointTempC < 60) ∧ input.expiresAt < input.effectiveUntil

/-- What an accepted request must also satisfy to pass the `CHECK`s: the intent lapses before the
effect, and the setpoint is strictly inside the range the schema closes. -/
def Fits (request : SetpointCommandRequest) (settings : ControlSettings) : Prop :=
  settings.commandTtlS < resolvedDurationS (SetpointCommandRequest.envelope request) settings ∧
    request.setpointTempC ≠ -50 ∧ request.setpointTempC ≠ 60

/-- PostgreSQL stores no NUL character. -/
def Storable (reason : String) : Prop := Char.ofNat 0 ∉ reason.toList

instance (reason : String) : Decidable (Storable reason) :=
  inferInstanceAs (Decidable (¬ _))

/-- `issueCommand` answers with the stored command, or says that the zone is taken. -/
def Answered (r : Except DbError IssueResult) : Prop :=
  (∃ c, r = .ok (.issued c)) ∨ ∃ m, r = .ok (.refused (.control .commandInFlight) m)

/-! ## The CHECKs -/

/-- The row of an accepted request passes the `CHECK`s exactly when the request fits. -/
theorem passesChecks_iff {request : SetpointCommandRequest} {ctx : EnvelopeContext} {v : Accepted}
    (tenantId userId : Uuid)
    (h : evaluate (SetpointCommandRequest.envelope request) ctx = .ok v) :
    (newCommand tenantId userId request v).PassesChecks ↔ Fits request ctx.settings := by
  obtain ⟨baseline, fb, -, rfl⟩ := evaluate_ok_iff.mp h
  obtain ⟨hlo, hhi⟩ := request.setpoint_ck
  have hwindow : ctx.now + ctx.settings.commandTtlS * 1000 <
      ctx.now + resolvedDurationS (SetpointCommandRequest.envelope request) ctx.settings * 1000 ↔
      ctx.settings.commandTtlS <
        resolvedDurationS (SetpointCommandRequest.envelope request) ctx.settings := by omega
  simp only [NewCommand.PassesChecks, Fits, newCommand, accepted, hwindow]
  constructor
  · rintro ⟨⟨h1, h2⟩, h3⟩
    exact ⟨h3, h1.ne', h2.ne⟩
  · rintro ⟨h3, h1, h2⟩
    exact ⟨⟨lt_of_le_of_ne hlo (Ne.symm h1), lt_of_le_of_ne hhi h2⟩, h3⟩

/-! ## The INSERT -/

/-- The user and the zone a row refers to are there. -/
structure Refers (w : World) (input : NewCommand) : Prop where
  user : w.users.any (·.id == input.requestedBy) = true
  zone : (w.zones.any fun z => z.id == input.zoneId && z.tenantId == input.tenantId) = true

/-- An `INSERT` whose references resolve ends in an error only for its own text and `CHECK`s. -/
theorem insertCommand_ok_iff {w : World} {input : NewCommand} {id : Uuid} {now : ℤ}
    {t : List Command} (hr : Refers w input) :
    (∃ r, insertCommand w input id now t = .ok r) ↔
      Storable input.reason ∧ input.PassesChecks := by
  unfold insertCommand Storable NewCommand.PassesChecks
  by_cases hnul : Char.ofNat 0 ∈ input.reason.toList
  · simp [hnul]
  · by_cases hp : -50 < input.setpointTempC ∧ input.setpointTempC < 60
    · by_cases hw : input.expiresAt < input.effectiveUntil
      · cases hany : t.any (input.conflicts id) with
        | true => simp [hnul, hp, hw]
        | false => simp [hnul, hp, hw, hr.user, hr.zone]
      · simp [hnul, hp, hw]
    · simp [hnul, hp]

theorem memberRole_user {w : World} {tenantId userId : Uuid} {role : TenantRole}
    (h : w.memberRole tenantId userId = some role) : w.users.any (·.id == userId) = true := by
  obtain ⟨m, hm, -⟩ := Option.map_eq_some_iff.mp h
  have hp := List.find?_some hm
  simp only [Bool.and_eq_true, beq_iff_eq, List.any_eq_true] at hp ⊢
  obtain ⟨⟨-, huser⟩, u, hu, hid, -⟩ := hp
  exact ⟨u, hu, hid.trans huser⟩

theorem zoneExists_iff {w : World} {t : List Command} {tenantId zoneId : Uuid} {dbNow : ℤ} :
    (loadZoneContext w t tenantId zoneId dbNow).zoneExists = true ↔
      (w.zones.any fun z => z.id == zoneId && z.tenantId == tenantId) = true := by
  simp [loadZoneContext]

/-- The evaluation inside `issueCommand` accepts the request with verdict `v`. -/
structure IssueAccepts (w : World) (t : List Command) (tenantId userId : Uuid)
    (request : SetpointCommandRequest) (now dbNow : ℤ) (role : TenantRole) (v : Accepted) :
    Prop where
  member : w.memberRole tenantId userId = some role
  zone : (loadZoneContext w t tenantId request.zoneId dbNow).zoneExists = true
  verdict : evaluate (SetpointCommandRequest.envelope request)
    (issueContext (w.getSettings tenantId) role now
      (loadZoneContext w t tenantId request.zoneId dbNow)) = .ok v

variable {w : World} {t : List Command} {tenantId userId id : Uuid}
  {request : SetpointCommandRequest} {now dbNow : ℤ} {role : TenantRole} {v : Accepted}

theorem IssueAccepts.refers (h : IssueAccepts w t tenantId userId request now dbNow role v) :
    Refers w (newCommand tenantId userId request v) :=
  ⟨memberRole_user h.member, zoneExists_iff.mp h.zone⟩

/-- Past the evaluation, `issueCommand` is its `INSERT`. -/
theorem IssueAccepts.answered_iff (h : IssueAccepts w t tenantId userId request now dbNow role v)
    (hdry : request.dryRun ≠ some true) :
    Answered (issueCommand w t tenantId userId request now dbNow id) ↔
      ∃ r, insertCommand w (newCommand tenantId userId request v) id dbNow t = .ok r := by
  unfold issueCommand Answered
  simp only [h.member, h.zone, h.verdict, hdry, Bool.not_true, Bool.false_eq_true, if_false]
  cases insertCommand w (newCommand tenantId userId request v) id dbNow t with
  | error e => simp
  | ok r => cases r <;> simp

/-- **Envelope and schema.**  Whatever the context: the row of an accepted request passes the
`CHECK`s exactly when the request fits.  Whatever the world: `issueCommand` stores what it accepts, or
answers `command_in_flight`, exactly when besides the reason is storable. -/
theorem accepted_storable_iff (request : SetpointCommandRequest) (tenantId userId : Uuid) :
    (∀ ctx v, evaluate (SetpointCommandRequest.envelope request) ctx = .ok v →
      ((newCommand tenantId userId request v).PassesChecks ↔ Fits request ctx.settings)) ∧
    ∀ w t now dbNow id role v, request.dryRun ≠ some true →
      IssueAccepts w t tenantId userId request now dbNow role v →
      (Answered (issueCommand w t tenantId userId request now dbNow id) ↔
        Fits request (w.getSettings tenantId) ∧ Storable request.reason) := by
  refine ⟨fun ctx v h => passesChecks_iff tenantId userId h, ?_⟩
  intro w t now dbNow id role v hdry h
  rw [h.answered_iff hdry, insertCommand_ok_iff h.refers,
    passesChecks_iff tenantId userId h.verdict, and_comm]
  rfl

/-- 23 °C for an hour. -/
def siteRequest : SetpointCommandRequest where
  zoneId := 1
  setpointTempC := 23
  reason := "too cold"
  durationS := some 3600
  dryRun := none
  setpoint_ck := by norm_num
  reason_ck := by decide
  duration_ck := by simp

theorem accepted_storable_siteRequest :
    Answered (issueCommand site [] 1 1 siteRequest 0 0 1) :=
  ((accepted_storable_iff siteRequest 1 1).2 site [] 0 0 1 .operator
    ⟨22, 3600, 300000, 3600000⟩ (by decide) ⟨by decide, by decide, by decide +kernel⟩).mpr
    ⟨⟨by decide, by decide +kernel, by decide +kernel⟩, by decide⟩

/-- The same for one minute, which the tenant's 300 s TTL outlives. -/
def shortRequest : SetpointCommandRequest :=
  { siteRequest with durationS := some 60, duration_ck := by simp }

/-- The envelope accepts it, its row breaks the window `CHECK`, and the caller gets the error. -/
theorem shortRequest_fails :
    IssueAccepts site [] 1 1 shortRequest 0 0 .operator ⟨22, 60, 300000, 60000⟩ ∧
      ¬ (newCommand 1 1 shortRequest ⟨22, 60, 300000, 60000⟩).PassesChecks ∧
      issueCommand site [] 1 1 shortRequest 0 0 1 =
        .error (.checkViolation "control_commands_window_ck") := by
  refine ⟨⟨by decide, by decide, by decide +kernel⟩, ?_, by decide +kernel⟩
  rintro ⟨-, hw⟩
  exact absurd hw (by decide)

end DTwin.Control
