import DTwin.Control.Dispatch

/-!
# DTwin.Control.Lease — when a command lapses at its own TTL

`claimCommands` calls the command's TTL its lease: a gateway that dies holding a command releases it
no later than the moment it would have expired anyway.  The statement that retires commands,
`expireStale`, looks at pending ones only.  `lapse_iff` says exactly in which runs the lease holds:
those in which no poll finds a command of its tenant past its TTL in the hands of a gateway.
-/

namespace DTwin.Control

open Table Machine

/-- When a poll has retired what was stale, for which tenant. -/
def polls (h : List Obs) : List (Uuid × ℤ) :=
  h.filterMap fun | .ran tenantId t => some (tenantId, t) | _ => none

@[simp] theorem polls_append (h o : List Obs) : polls (h ++ o) = polls h ++ polls o :=
  List.filterMap_append ..

theorem polls_settledObs (p : Command → Bool) (t : List Command) : polls (settledObs p t) = [] := by
  simp [polls, settledObs, List.filterMap_map]

/-- No command that had expired when its tenant was polled is live. -/
def Lapsed (s : Sys) (h : List Obs) : Prop :=
  ∀ p ∈ polls h, ∀ c ∈ s.commands, c.tenantId = p.1 → c.expiresAt ≤ p.2 → ¬ Live c.state

/-- The steps that keep the lease: a poll finds no command of its tenant that a gateway still holds
past its TTL, and no command is queued that had expired when its tenant was last polled. -/
def KeepsLease (s : Sys) (h : List Obs) : Act → Prop
  | .start i tenantId _ _ now =>
    s.calls i = .idle → now ≤ s.clock → ∀ c ∈ s.commands, c.tenantId = tenantId →
      c.state = .dispatched → now < c.expiresAt
  | .insert input id now =>
    now ≤ s.clock → (∃ c, insertCommand s.world input id now s.commands = .ok (some c)) →
      ∀ p ∈ polls h, p.1 = input.tenantId → p.2 < input.expiresAt
  | _ => True

/-- Every live row of `t'` was a live row of `t`. -/
def LiveFrom (t t' : List Command) : Prop :=
  ∀ c' ∈ t', Live c'.state → ∃ c ∈ t, Live c.state ∧ c'.intent = c.intent

theorem LiveFrom.refl (t : List Command) : LiveFrom t t := fun c hc hl => ⟨c, hc, hl, rfl⟩

theorem LiveFrom.update {t u : List Command} (h : LiveFrom t u) {p : Command → Bool}
    {f : Command → Command} (hi : ∀ c, (f c).intent = c.intent)
    (hl : ∀ c ∈ u, p c = true → Live (f c).state → Live c.state) :
    LiveFrom t (updateWhere p f u) := by
  intro c' hc' hlive
  rcases mem_updateWhere_cases hc' with ⟨c₁, hc₁, hp, rfl⟩ | ⟨hc₁, -⟩
  · obtain ⟨c, hc, hlc, hic⟩ := h c₁ hc₁ (hl c₁ hc₁ hp hlive)
    exact ⟨c, hc, hlc, (hi c₁).trans hic⟩
  · exact h c' hc₁ hlive

/-- **No statement revives a settled command**; only an `INSERT` brings a new live one. -/
theorem Statement.liveFrom {t : List Command} (hn : (t.map (·.id)).Nodup) :
    ∀ st : Statement, (∀ input id now c, st ≠ .insert input id now c) → LiveFrom t (st.run t)
  | .insert input id now c, h => absurd rfl (h input id now c)
  | .expire _ _, _ => (LiveFrom.refl t).update (fun _ => rfl) fun c _ _ hl => by
      simp [expiredRow, Live] at hl
  | .claim _ _ _ _ _, _ => (LiveFrom.refl t).update (fun _ => rfl) fun c hc hp _ =>
      Or.inl (claimable_iff.mp (claimable_of_isOneOf hn hc hp)).2.1
  | .release _ _ _, _ => (LiveFrom.refl t).update (fun _ => rfl) fun c _ hp _ =>
      Or.inr (isRow_iff.mp hp).2.2
  | .settle tenantId id outcome detail now, _ => by
    refine settleCommand_keeps (P := LiveFrom t) (LiveFrom.refl t) ?_ ?_
    · exact fun u hu => hu.update (fun _ => rfl) fun c _ hp _ => Or.inr (isRow_iff.mp hp).2.2
    · exact fun zoneId u hu => hu.update (fun _ => rfl) fun c _ _ hl => by
        simp [supersededRow, Live] at hl
  | .cancel _ _ _, _ => (LiveFrom.refl t).update (fun _ => rfl) fun c _ _ hl => by
      simp [cancelledRow, Live] at hl

theorem Lapsed.of_liveFrom {s s' : Sys} {h o : List Obs} (hl : Lapsed s h) (ho : polls o = [])
    (hf : LiveFrom s.commands s'.commands) : Lapsed s' (h ++ o) := by
  intro p hp c' hc' hten hexp hlive
  rw [polls_append, ho, List.append_nil] at hp
  obtain ⟨c, hc, hlc, hi⟩ := hf c' hc' hlive
  have hten' : c.tenantId = p.1 := (congrArg Intent.tenantId hi).symm.trans hten
  have hexp' : c.expiresAt = c'.expiresAt := (congrArg Intent.expiresAt hi).symm
  exact hl p hp c hc hten' (hexp' ▸ hexp) hlc

/-- A poll of `tenantId` at `now` leaves alive what a gateway holds. -/
theorem lapsed_expireStale_iff {s s' : Sys} {h o : List Obs} {tenantId : Uuid} {now : ℤ}
    (hl : Lapsed s h) (ho : polls o = [(tenantId, now)])
    (ht : s'.commands = expireStale tenantId now s.commands) :
    Lapsed s' (h ++ o) ↔ ∀ c ∈ s.commands, c.tenantId = tenantId → c.state = .dispatched →
      now < c.expiresAt := by
  constructor
  · intro hl' c hc hten hs
    by_contra hexp
    have hkeep : c ∈ s'.commands := by
      rw [ht]
      exact mem_updateWhere_of_neg hc (by simp [staleAt, hs])
    exact hl' (tenantId, now) (by simp [ho]) c hkeep hten (not_lt.mp hexp) (Or.inr hs)
  · intro hin p hp c' hc' hten hexp hlive
    rw [ht] at hc'
    rw [polls_append, ho, List.mem_append, List.mem_singleton] at hp
    rcases mem_updateWhere_cases hc' with ⟨c, -, -, rfl⟩ | ⟨hc, hnot⟩
    · simp [expiredRow, Live] at hlive
    · rcases hp with hp | rfl
      · exact hl p hp c' hc hten hexp hlive
      · rcases hlive with hs | hs
        · rw [staleAt_iff.mpr ⟨hten, hs, hexp⟩] at hnot
          cases hnot
        · exact absurd hexp (not_le.mpr (hin c' hc hten hs))

/-- A new row must not have expired at an earlier poll. -/
theorem lapsed_insert_iff {s s' : Sys} {h : List Obs} {input : NewCommand} {id : Uuid} {now : ℤ}
    {c : Command} (hl : Lapsed s h)
    (hc : insertCommand s.world input id now s.commands = .ok (some c))
    (ht : s'.commands = s.commands ++ [c]) :
    Lapsed s' (h ++ []) ↔ ∀ p ∈ polls h, p.1 = input.tenantId → p.2 < input.expiresAt := by
  obtain ⟨hfresh, hten, hexp⟩ := insertCommand_fresh hc
  rw [List.append_nil]
  constructor
  · intro hl' p hp hpt
    by_contra hle
    exact hl' p hp c (by simp [ht]) (hten.trans hpt.symm) (by omega) (Or.inl hfresh.state)
  · intro hin p hp c' hc' hten' hexp' hlive
    rw [ht, List.mem_append, List.mem_singleton] at hc'
    rcases hc' with hc' | rfl
    · exact hl p hp c' hc' hten' hexp' hlive
    · have := hin p hp (hten'.symm.trans hten)
      omega

/-- **Step lemma.** -/
theorem Took.lapsed_iff {s s' : Sys} {h : List Obs} {a : Act} {o : List Obs} (hi : Orderly s h)
    (hl : Lapsed s h) (ht : Took s a s' o) : Lapsed s' (h ++ o) ↔ KeepsLease s h a := by
  have other (ho : polls o = []) (hf : LiveFrom s.commands s'.commands) (hk : KeepsLease s h a) :
      Lapsed s' (h ++ o) ↔ KeepsLease s h a := iff_of_true (hl.of_liveFrom ho hf) hk
  have unchanged := LiveFrom.refl s.commands
  have written (st : Statement) (hst : ∀ input id now c, st ≠ .insert input id now c) :
      LiveFrom s.commands (st.run s.commands) := st.liveFrom hi.lawful.ids hst
  cases ht with
  | notInserted hno ho =>
    refine other ?_ unchanged fun _ ⟨c, hc⟩ => absurd hc (hno c)
    rcases ho with rfl | ⟨e, rfl⟩ <;> rfl
  | @inserted input id now c hnow hin =>
    rw [lapsed_insert_iff hl hin rfl]
    exact ⟨fun hk _ _ => hk, fun hk => hk hnow ⟨c, hin⟩⟩
  | @started i tenantId gateway limit now hcall hnow =>
    have hpolls : polls (.ran tenantId now :: settledObs (staleAt tenantId now) s.commands) =
        [(tenantId, now)] := congrArg (List.cons _) (polls_settledObs _ _)
    rw [lapsed_expireStale_iff hl hpolls rfl]
    exact ⟨fun hk _ _ => hk, fun hk => hk hcall hnow⟩
  | @claimed i locked now tenantId gateway limit settings hcall =>
    exact other rfl (written (.claim tenantId gateway limit now locked) (by simp)) trivial
  | @released i command detail l hcall =>
    exact other rfl (written (.release l.tenantId command.id detail) (by simp)) trivial
  | @reported tenantId id outcome detail now hnow =>
    refine other ?_ (written (.settle tenantId id outcome detail now) (by simp)) trivial
    rw [polls_append, polls_settledObs]
    split_ifs <;> rfl
  | @cancelled tenantId id now =>
    exact other (polls_settledObs _ _) (written (.cancel tenantId id now) (by simp)) trivial
  | _ => exact other rfl unchanged trivial

/-- **The lease.**  In every state of a run the commands that had expired when their tenant was
polled are settled, exactly when every step of the run keeps the lease. -/
theorem lapse_iff (clock : ℤ) (w : World) (as : List Act) :
    control.Along Lapsed (.init clock w) [] as ↔
      control.Meets KeepsLease (.init clock w) [] as := by
  refine along_iff_meets (I := Orderly) (fun hi hs => hi.step (step_took hs)) ?_ ?_
    (Orderly.init clock w) (by simp [Lapsed, polls])
  · exact fun hi hl hs => (step_took hs).lapsed_iff hi hl
  · intro s h a _ hnone
    cases a with
    | start i tenantId gateway limit now =>
      intro hcall hnow
      simp [control, step, hcall, hnow] at hnone
    | insert input id now =>
      rintro hnow ⟨c, hc⟩
      simp [control, step, hnow, hc] at hnone
    | _ => trivial

/-- A gateway claims the command and dies; its tenant is polled again after the command's TTL. -/
def deadGatewayRun : List Act :=
  [.insert siteCommand 1 0, .start 0 1 "gw" 10 0, .readSettings 0, .claim 0 [] 0, .crash 0,
    .tick 400000, .start 1 1 "gw-2" 10 400000, .readSettings 1, .claim 1 [] 400000, .hand 1]

theorem deadGatewayRun_isSome :
    (control.exec (.init 0 site) deadGatewayRun).isSome = true := by decide +kernel

/-- The second poll runs to its end and the command still blocks its zone. -/
theorem lapse_fails : ∃ s h, control.Reaches (.init 0 site) s h ∧ ¬ Lapsed s h ∧
    (loadZoneContext s.world s.commands 1 1 s.clock).commandInFlight = true := by
  let r := (control.exec (.init 0 site) deadGatewayRun).get deadGatewayRun_isSome
  refine ⟨r.1, r.2, ⟨deadGatewayRun, (Option.some_get deadGatewayRun_isSome).symm⟩, ?_,
    by decide +kernel⟩
  have hpoll : (1, 400000) ∈ polls r.2 := by decide +kernel
  have hrow : ∃ c ∈ r.1.commands, c.tenantId = 1 ∧ c.expiresAt ≤ 400000 ∧ c.state = .dispatched := by
    decide +kernel
  obtain ⟨c, hc, hten, hexp, hs⟩ := hrow
  exact fun hl => hl _ hpoll c hc hten hexp (Or.inr hs)

end DTwin.Control
