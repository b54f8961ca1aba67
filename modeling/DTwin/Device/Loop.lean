import DTwin.Control.Dispatch
import DTwin.Device.Machine

/-!
# DTwin.Device.Loop — the building follows what it was told

The simulated building beside the control service: a poll that succeeds ends by reading `activeOverrides`, and the
next ticks work to them.  `setpoint_follows`: at every tick of every run the setpoint of a zone is that of the
override in force at the last poll, though it may have lapsed since, and otherwise the designed one.
`setpoint_accounted`: a setpoint that is not the designed one is that of a command which was applied and in force then.
-/

namespace DTwin.Device

open Control OrderedMap Machine Table Latest

structure Loop where
  control : Control.Sys
  building : Sys

inductive LoopAct
  | control (a : Control.Act)
  | building (a : Act)
  /-- The end of a poll that has reached the database. -/
  | poll (tenantId : Uuid) (now : ℤ)

inductive LoopObs
  | control (o : Control.Obs)
  | building (o : Obs)
  | polled (tenantId : Uuid) (now : ℤ) (commands : List Command)
deriving DecidableEq

def Loop.step (cfg : Config) (s : Loop) : LoopAct → Option (Loop × List LoopObs)
  | .control a => (Control.step s.control a).map fun r => ({ s with control := r.1 }, r.2.map .control)
  | .building (.polled ..) => none
  | .building a =>
    let r := s.building.perform cfg a
    some ({ s with building := r.1 }, r.2.map .building)
  | .poll tenantId now =>
    if now ≤ s.control.clock then
      some ({ s with building :=
          s.building.setOverrides tenantId (activeOverrides tenantId now s.control.commands) },
        [.polled tenantId now s.control.commands])
    else none

def closedLoop (cfg : Config) : Machine Loop LoopAct LoopObs := ⟨Loop.step cfg⟩

/-- `loadSimContext`: no override until the first poll. -/
def Loop.start (clock : ℤ) (w : World) (ctx : Uuid → Option SimContext) (registry : Registry)
    (stored : Uuid → Option ℚ) : Loop :=
  ⟨.init clock w, .start (fun tenantId => (ctx tenantId).map fun c => { c with overrides := [] }) registry stored⟩

/-! ## What a poll leaves -/

/-- The last of the values that some keys have each. -/
theorem lastOf_filterMap {α κ : Type} [DecidableEq κ] {key : α → κ} {g : κ → Option α}
    (hg : ∀ k a, g k = some a → key a = k) (k : κ) :
    ∀ {l : List κ}, l.Nodup → lastOf key k (l.filterMap g) = if k ∈ l then g k else none
  | [], _ => rfl
  | k' :: l, hl => by
    obtain ⟨hnew, hl⟩ := List.nodup_cons.mp hl
    have ih := lastOf_filterMap hg k hl
    cases hk' : g k' with
    | none =>
      rw [List.filterMap_cons_none hk', ih]
      by_cases heq : k = k'
      · subst heq
        rw [if_neg hnew, if_pos List.mem_cons_self, hk']
      · simp [heq]
    | some a =>
      have hkey : key a = k' := hg k' a hk'
      rw [List.filterMap_cons_some hk', show a :: l.filterMap g = [a] ++ l.filterMap g from rfl, lastOf_append, ih,
        lastOf_singleton, hkey]
      by_cases heq : k' = k
      · subst heq
        simp [hnew, hk']
      · simp [heq, Ne.symm heq]

/-- A zone's override is found in the list as in the table. -/
theorem overrideOf_activeOverrides (tenantId zoneId : Uuid) (now : ℤ) (t : List Command) :
    overrideOf (activeOverrides tenantId now t) zoneId = zoneOverride tenantId zoneId now t := by
  have hzone : ∀ z o, ((newest (fun c : Command => c.effectiveUntil) (overrideCandidates tenantId z now t)).map fun c =>
      (⟨c.zoneId, c.setpointTempC, c.effectiveUntil⟩ : ActiveOverride)) = some o → o.zoneId = z := by
    intro z o ho
    obtain ⟨c, hc, rfl⟩ := Option.map_eq_some_iff.mp ho
    have hmem := (List.mem_filter.mp (isNewest_newest hc).mem).2
    simp only [Bool.and_eq_true, beq_iff_eq] at hmem
    exact hmem.2
  have hnodup : (((t.filter (inForce tenantId now)).map (·.zoneId)).dedup.insertionSort (· ≤ ·)).Nodup :=
    (List.perm_insertionSort _ _).nodup_iff.mpr (List.nodup_dedup _)
  rw [overrideOf, activeOverrides, lastOf_filterMap hzone zoneId hnodup, zoneOverride]
  split_ifs with hmem
  · rw [Option.map_map]
    rfl
  · have hnone : overrideCandidates tenantId zoneId now t = [] := by
      refine List.filter_eq_nil_iff.mpr fun c hc hand => hmem ?_
      obtain ⟨hforce, hz⟩ := Bool.and_eq_true _ _ ▸ hand
      rw [(List.perm_insertionSort _ _).mem_iff, List.mem_dedup]
      exact List.mem_map.mpr ⟨c, List.mem_filter.mpr ⟨hc, hforce⟩, beq_iff_eq.mp hz⟩
    rw [hnone]
    rfl

/-- What the last poll of a tenant read. -/
def LoopObs.pollOf (tenantId : Uuid) : LoopObs → Option (ℤ × List Command)
  | .polled other now commands => if other = tenantId then some (now, commands) else none
  | _ => none

def lastPoll (tenantId : Uuid) (h : List LoopObs) : Option (ℤ × List Command) :=
  (h.filterMap (LoopObs.pollOf tenantId)).getLast?

/-- The overrides that the building works to. -/
def overridesAfter (h : List LoopObs) (tenantId : Uuid) : List ActiveOverride :=
  (lastPoll tenantId h).elim [] fun p => activeOverrides tenantId p.1 p.2

theorem lastPoll_append_none {tenantId : Uuid} {h o : List LoopObs} (ho : ∀ x ∈ o, x.pollOf tenantId = none) :
    lastPoll tenantId (h ++ o) = lastPoll tenantId h := by
  have hnil : o.filterMap (LoopObs.pollOf tenantId) = [] := List.filterMap_eq_nil_iff.mpr ho
  rw [lastPoll, List.filterMap_append, hnil, List.append_nil]
  rfl

theorem lastPoll_polled (tenantId other : Uuid) (h : List LoopObs) (now : ℤ) (commands : List Command) :
    lastPoll tenantId (h ++ [.polled other now commands]) =
      if other = tenantId then some (now, commands) else lastPoll tenantId h := by
  split_ifs with heq
  · have hpoll : (LoopObs.polled other now commands).pollOf tenantId = some (now, commands) := if_pos heq
    rw [lastPoll, List.filterMap_append, List.filterMap_cons_some hpoll]
    exact List.getLast?_concat
  · exact lastPoll_append_none fun x hx => by rw [List.mem_singleton.mp hx]; exact if_neg heq

theorem lastPoll_mem {tenantId : Uuid} {h : List LoopObs} {p : ℤ × List Command} (hp : lastPoll tenantId h = some p) :
    .polled tenantId p.1 p.2 ∈ h := by
  obtain ⟨x, hx, hpoll⟩ := List.mem_filterMap.mp (List.mem_of_getLast? hp)
  cases x with
  | polled other now commands =>
    simp only [LoopObs.pollOf] at hpoll
    split_ifs at hpoll with heq
    obtain rfl := Option.some.inj hpoll
    exact heq ▸ hx
  | _ => cases hpoll

/-! ## Every run -/

/-- The setpoint of a sensor's zone, of the loaded contexts and of what was polled. -/
def setpointAfter (ctx : Uuid → Option SimContext) (h : List LoopObs) (sensor : RegisteredSensor) : ℚ :=
  effectiveSetpointC (overridesAfter h sensor.tenantId) sensor.zoneId
    ((sensor.zoneId.bind fun zoneId => (ctx sensor.tenantId).bind fun c => c.zones zoneId).map ZoneContext.setpointC)

/-- The readings that a tick shows of the setpoints of the contexts it finds. -/
def Reports (ctx : Uuid → Option SimContext) (r : SimulatedReading) : Prop :=
  r.sensor.metric = .setpointTempC → r.fault = none → ∃ c, ctx r.sensor.tenantId = some c ∧
    r.value = effectiveSetpointC c.overrides r.sensor.zoneId
      ((r.sensor.zoneId.bind c.zones).map ZoneContext.setpointC)

theorem tickAll_reports (cfg : Config) (now : ℤ) (draw : Uuid → ℕ → ℚ) (l : List RegisteredSensor) (s : Sys) :
    (tickAll cfg now draw l s).1.ctx = s.ctx ∧ ∀ r, .emitted r ∈ (tickAll cfg now draw l s).2 → Reports s.ctx r := by
  have hI : (tickAll cfg now draw l s).1.ctx = s.ctx ∧
      ∀ r, .emitted r ∈ [] ++ (tickAll cfg now draw l s).2 → Reports s.ctx r := tickAll_hist
    (I := fun t h => t.ctx = s.ctx ∧ ∀ r, .emitted r ∈ h → Reports s.ctx r)
    (fun hI hs => by
      cases hs with
      | unknown => rwa [List.append_nil]
      | silent => rw [List.append_nil]; exact hI
      | emitted hctx hdue honline r hr =>
        refine ⟨hI.1, fun q hq => ?_⟩
        rcases List.mem_append.mp hq with hq | hq
        · exact hI.2 q hq
        · obtain rfl := Obs.emitted.inj (List.mem_singleton.mp hq)
          rw [hI.1] at hctx
          intro hmetric hfault
          subst hr
          refine ⟨_, hctx, ?_⟩
          simp only [reading] at hmetric hfault ⊢
          rw [hfault, hmetric]
          rfl) l (h := []) (s := s) ⟨rfl, fun r hr => absurd hr List.not_mem_nil⟩
  rwa [List.nil_append] at hI

theorem perform_reports (cfg : Config) (s : Sys) (a : Act) (ha : ∀ t l, a ≠ .polled t l) :
    (s.perform cfg a).1.ctx = s.ctx ∧ ∀ r, .emitted r ∈ (s.perform cfg a).2 → Reports s.ctx r := by
  cases a with
  | tick now draw => exact tickAll_reports cfg now draw s.registry.all s
  | polled tenantId overrides => exact absurd rfl (ha tenantId overrides)
  | postFault tenantId sensorId kind magnitude now =>
    simp only [Sys.perform]
    split
    · exact ⟨rfl, by simp⟩
    · exact ⟨rfl, by simp⟩
  | deleteFault tenantId sensorId =>
    simp only [Sys.perform]
    split
    · exact ⟨rfl, by simp⟩
    · exact ⟨rfl, by simp⟩
  | deleteFaults tenantId => exact ⟨rfl, by simp [Sys.perform]⟩
  | refreshed registry => exact ⟨rfl, by simp [Sys.perform]⟩

/-- What holds after every history. -/
structure Followed (ctx : Uuid → Option SimContext) (s : Loop) (h : List LoopObs) : Prop where
  contexts : ∀ tenantId, s.building.ctx tenantId =
    (ctx tenantId).map fun c => { c with overrides := overridesAfter h tenantId }
  orderly : ∃ hc, Orderly s.control hc
  grown : ∀ tenantId now commands, .polled tenantId now commands ∈ h → Grows Moves commands s.control.commands
  shown : Each (fun before x => ∀ r, x = .building (.emitted r) → r.sensor.metric = .setpointTempC → r.fault = none →
    r.value = setpointAfter ctx before r.sensor) h

variable {cfg : Config} {ctx : Uuid → Option SimContext} {s s' : Loop} {h o : List LoopObs}

/-- Observations among which there is no poll. -/
theorem overridesAfter_append (ho : ∀ tenantId, ∀ x ∈ o, x.pollOf tenantId = none) (tenantId : Uuid) :
    overridesAfter (h ++ o) tenantId = overridesAfter h tenantId := by
  rw [overridesAfter, lastPoll_append_none (ho tenantId)]
  rfl

theorem Followed.control (hF : Followed ctx s h) {a : Control.Act} {c : Control.Sys} {p : List Control.Obs}
    (hs : Control.step s.control a = some (c, p)) :
    Followed ctx { s with control := c } (h ++ p.map .control) := by
  obtain ⟨hc, hO⟩ := hF.orderly
  have hgrows : Grows Moves s.control.commands c.commands :=
    reaches_grows hO ⟨[a], (exec_singleton (M := Control.control) s.control a).trans hs⟩
  have hunpolled : ∀ tenantId, ∀ x ∈ p.map LoopObs.control, x.pollOf tenantId = none := by
    intro tenantId x hx
    obtain ⟨q, -, rfl⟩ := List.mem_map.mp hx
    rfl
  refine ⟨fun tenantId => ?_, ⟨hc ++ p, hO.step (step_took hs)⟩, fun tenantId now commands hpolled => ?_,
    each_append.mpr ⟨hF.shown, each_of_forall fun x hx _ r heq => ?_⟩⟩
  · rw [overridesAfter_append hunpolled]
    exact hF.contexts tenantId
  · rcases List.mem_append.mp hpolled with hold | hnew
    · exact Grows.trans (R := Moves) Moves.trans (hF.grown tenantId now commands hold) hgrows
    · obtain ⟨q, -, hq⟩ := List.mem_map.mp hnew
      cases hq
  · obtain ⟨q, -, rfl⟩ := List.mem_map.mp hx
    cases heq

theorem Followed.building (hF : Followed ctx s h) {a : Act} (ha : ∀ t l, a ≠ .polled t l) :
    Followed ctx { s with building := (s.building.perform cfg a).1 }
      (h ++ (s.building.perform cfg a).2.map .building) := by
  obtain ⟨hctx, hreports⟩ := perform_reports cfg s.building a ha
  have hunpolled : ∀ tenantId, ∀ x ∈ (s.building.perform cfg a).2.map LoopObs.building, x.pollOf tenantId = none := by
    intro tenantId x hx
    obtain ⟨q, -, rfl⟩ := List.mem_map.mp hx
    rfl
  refine ⟨fun tenantId => ?_, hF.orderly, fun tenantId now commands hpolled => ?_, each_append.mpr ⟨hF.shown, ?_⟩⟩
  · rw [overridesAfter_append hunpolled]
    exact (congrFun hctx tenantId).trans (hF.contexts tenantId)
  · rcases List.mem_append.mp hpolled with hold | hnew
    · exact hF.grown tenantId now commands hold
    · obtain ⟨q, -, hq⟩ := List.mem_map.mp hnew
      cases hq
  · rintro before x rest heq r rfl hmetric hfault
    have hmem : .building (.emitted r) ∈ (s.building.perform cfg a).2.map LoopObs.building := by rw [heq]; simp
    obtain ⟨q, hq, hqr⟩ := List.mem_map.mp hmem
    obtain rfl := LoopObs.building.inj hqr
    have hbefore : ∀ tenantId, ∀ x ∈ before, x.pollOf tenantId = none := fun tenantId x hx =>
      hunpolled tenantId x (by rw [heq]; exact List.mem_append_left _ hx)
    obtain ⟨c, hc, hvalue⟩ := hreports r hq hmetric hfault
    obtain ⟨c₀, hc₀, rfl⟩ := Option.map_eq_some_iff.mp ((hF.contexts r.sensor.tenantId).symm.trans hc)
    rw [hvalue, setpointAfter, overridesAfter_append hbefore, hc₀]
    rfl

theorem Followed.poll (hF : Followed ctx s h) {tenantId : Uuid} {now : ℤ} :
    Followed ctx
      { s with building := s.building.setOverrides tenantId (activeOverrides tenantId now s.control.commands) }
      (h ++ [.polled tenantId now s.control.commands]) := by
  refine ⟨fun other => ?_, hF.orderly, fun other at' commands hpolled => ?_,
    each_append.mpr ⟨hF.shown, each_singleton.mpr fun r heq => by cases heq⟩⟩
  · show Function.update s.building.ctx tenantId _ other = _
    rw [overridesAfter, lastPoll_polled]
    by_cases heq : tenantId = other
    · subst heq
      rw [Function.update_self, hF.contexts, if_pos rfl, Option.map_map]
      rfl
    · rw [Function.update_of_ne (Ne.symm heq), if_neg heq]
      exact hF.contexts other
  · rcases List.mem_append.mp hpolled with hold | hnew
    · exact hF.grown other at' commands hold
    · obtain ⟨-, -, rfl⟩ := LoopObs.polled.inj (List.mem_singleton.mp hnew)
      exact .refl Moves.refl _

theorem Followed.step (hF : Followed ctx s h) {a : LoopAct} (hs : (closedLoop cfg).step s a = some (s', o)) :
    Followed ctx s' (h ++ o) := by
  cases a with
  | control a =>
    obtain ⟨⟨c, p⟩, hcp, hr⟩ := Option.map_eq_some_iff.mp hs
    obtain ⟨rfl, rfl⟩ := Prod.mk.inj hr
    exact hF.control hcp
  | building a =>
    cases a with
    | polled tenantId overrides => cases hs
    | _ =>
      obtain ⟨rfl, rfl⟩ := Prod.mk.inj (Option.some.inj hs)
      exact hF.building (fun _ _ => nofun)
  | poll tenantId now =>
    simp only [closedLoop, Loop.step] at hs
    split_ifs at hs
    obtain ⟨rfl, rfl⟩ := Prod.mk.inj (Option.some.inj hs)
    exact hF.poll

theorem followed_of_reaches {clock : ℤ} {w : World} {registry : Registry} {stored : Uuid → Option ℚ}
    (hrun : (closedLoop cfg).Reaches (.start clock w ctx registry stored) s h) : Followed ctx s h :=
  hrun.hist (I := Followed ctx) (fun hF hs => hF.step hs)
    ⟨fun _ => rfl, ⟨[], Orderly.init clock w⟩, fun _ _ _ hp => absurd hp List.not_mem_nil, each_nil _⟩

/-! ## The setpoint of a zone -/

/-- The setpoint that a zone is designed for. -/
def designedC (ctx : Uuid → Option SimContext) (tenantId zoneId : Uuid) : Option ℚ :=
  ((ctx tenantId).bind fun c => c.zones zoneId).map ZoneContext.setpointC

/-- The setpoint of a zone, of what its tenant's last poll has read. -/
theorem Followed.setpoint (hF : Followed ctx s h) {before rest : List LoopObs} {r : SimulatedReading}
    (hh : h = before ++ .building (.emitted r) :: rest) (hmetric : r.sensor.metric = .setpointTempC)
    (hfault : r.fault = none) {zoneId : Uuid} (hzone : r.sensor.zoneId = some zoneId) :
    r.value = (((lastPoll r.sensor.tenantId before).bind fun p => zoneOverride r.sensor.tenantId zoneId p.1 p.2).or
      (designedC ctx r.sensor.tenantId zoneId)).getD 23 := by
  rw [hF.shown before _ rest hh r rfl hmetric hfault, setpointAfter, effectiveSetpointC, hzone]
  have hoverride : overrideOf (overridesAfter before r.sensor.tenantId) zoneId =
      (lastPoll r.sensor.tenantId before).bind fun p => zoneOverride r.sensor.tenantId zoneId p.1 p.2 := by
    unfold overridesAfter
    cases lastPoll r.sensor.tenantId before with
    | none => rfl
    | some p => exact overrideOf_activeOverrides r.sensor.tenantId zoneId p.1 p.2
  rw [Option.bind_some, Option.bind_some, hoverride]
  rfl

/-- A setpoint that is not the designed one is that of an override which the last poll has read. -/
theorem Followed.override (hF : Followed ctx s h) {before rest : List LoopObs} {r : SimulatedReading}
    (hh : h = before ++ .building (.emitted r) :: rest) (hmetric : r.sensor.metric = .setpointTempC)
    (hfault : r.fault = none) {zoneId : Uuid} (hzone : r.sensor.zoneId = some zoneId)
    (hchanged : r.value ≠ (designedC ctx r.sensor.tenantId zoneId).getD 23) :
    ∃ now commands, lastPoll r.sensor.tenantId before = some (now, commands) ∧
      zoneOverride r.sensor.tenantId zoneId now commands = some r.value := by
  have hvalue := hF.setpoint hh hmetric hfault hzone
  cases hpoll : lastPoll r.sensor.tenantId before with
  | none =>
    rw [hpoll] at hvalue
    exact absurd hvalue hchanged
  | some p =>
    rw [hpoll, Option.bind_some] at hvalue
    refine ⟨p.1, p.2, rfl, ?_⟩
    cases hoverride : zoneOverride r.sensor.tenantId zoneId p.1 p.2 with
    | none =>
      rw [hoverride] at hvalue
      exact absurd hvalue hchanged
    | some v =>
      rw [hoverride] at hvalue
      exact congrArg some hvalue.symm

/-- An override is that of a command in force at the poll, which is on record since, applied or superseded. -/
theorem Followed.commanded (hF : Followed ctx s h) {tenantId zoneId : Uuid} {now : ℤ} {commands : List Command} {v : ℚ}
    (hpolled : .polled tenantId now commands ∈ h) (hoverride : zoneOverride tenantId zoneId now commands = some v) :
    ∃ c₀ ∈ commands, inForce tenantId now c₀ = true ∧ c₀.zoneId = zoneId ∧ c₀.setpointTempC = v ∧
      ∃ c ∈ s.control.commands, c.intent = c₀.intent ∧ (c.state = .applied ∨ c.state = .superseded) := by
  obtain ⟨c₀, hnewest, rfl⟩ := Option.map_eq_some_iff.mp hoverride
  obtain ⟨hc₀, hcandidate⟩ := List.mem_filter.mp (isNewest_newest hnewest).mem
  obtain ⟨hforce, hzone⟩ := Bool.and_eq_true _ _ ▸ hcandidate
  obtain ⟨-, happlied, -⟩ := inForce_iff.mp hforce
  obtain ⟨c, hc, hmoves⟩ := (hF.grown _ _ _ hpolled).exists_of_mem hc₀
  have hsettled : ¬ Live c₀.state := by rw [happlied]; simp [Live]
  refine ⟨c₀, hc₀, hforce, beq_iff_eq.mp hzone, rfl, c, hc, hmoves.intent, ?_⟩
  rcases path_from_settled hmoves.path hsettled with hsame | ⟨-, hsuperseded⟩
  · exact Or.inl (hsame.trans happlied)
  · exact Or.inr hsuperseded

/-- **The building follows.**  At every tick a zone's setpoint is that of the override in force when its tenant was last
polled, or else the designed one, or 23. -/
theorem setpoint_follows {clock : ℤ} {w : World} {registry : Registry} {stored : Uuid → Option ℚ}
    (hrun : (closedLoop cfg).Reaches (.start clock w ctx registry stored) s h) {before rest : List LoopObs}
    {r : SimulatedReading} (hh : h = before ++ .building (.emitted r) :: rest)
    (hmetric : r.sensor.metric = .setpointTempC) (hfault : r.fault = none) {zoneId : Uuid}
    (hzone : r.sensor.zoneId = some zoneId) :
    r.value = (((lastPoll r.sensor.tenantId before).bind fun p => zoneOverride r.sensor.tenantId zoneId p.1 p.2).or
      (designedC ctx r.sensor.tenantId zoneId)).getD 23 :=
  (followed_of_reaches hrun).setpoint hh hmetric hfault hzone

namespace Example

def nine : Config := ⟨10, ⟨fun _ => 0, fun _ _ => (9, 0, "Mon")⟩⟩

def thermostat : RegisteredSensor := ⟨⟨7, 1, .setpointTempC, none, some 1, none, none⟩, false, 60⟩

def thermostats : Registry := ⟨[thermostat], List.nodup_singleton _⟩

def room : SimContext :=
  ⟨"Asia/Riyadh", [], fun id => if id = 1 then some ⟨.office, 4, 22, none⟩ else none, fun _ => none, fun _ _ => none⟩

def shown : SimulatedReading := ⟨thermostat, 23, 1704088800000, none, 0⟩

/-- The override is applied and polled, and lapses; no poll comes before the next tick. -/
def overridden : List LoopAct :=
  Control.siteRun.map .control ++
    [.poll 1 0, .control (.tick 1704088800000), .building (.tick 1704088800000 fun _ _ => 0)]

theorem overridden_runs : ∃ r ∈ (closedLoop nine).exec
    (.start 0 Control.site (fun _ => some room) thermostats fun _ => none) overridden,
      r.2.getLast? = some (.building (.emitted shown)) := by
  decide +kernel

end Example

theorem setpoint_follows_lapsed : ∃ (s : Loop) (before : List LoopObs),
    (closedLoop Example.nine).Reaches
        (.start 0 Control.site (fun _ => some Example.room) Example.thermostats fun _ => none) s
        (before ++ [.building (.emitted Example.shown)]) ∧
      (((lastPoll 1 before).bind fun p => zoneOverride 1 1 p.1 p.2).or
        (designedC (fun _ => some Example.room) 1 1)).getD 23 = 23 := by
  obtain ⟨⟨s, h⟩, hr, hlast⟩ := Example.overridden_runs
  have hh : h.dropLast ++ [.building (.emitted Example.shown)] = h := List.dropLast_append_getLast? _ hlast
  have hrun : (closedLoop Example.nine).Reaches
      (.start 0 Control.site (fun _ => some Example.room) Example.thermostats fun _ => none) s h := ⟨_, hr⟩
  exact ⟨s, h.dropLast, hh.symm ▸ hrun, (setpoint_follows hrun hh.symm rfl rfl rfl).symm⟩

/-- **A setpoint is accounted for.**  An unfaulted setpoint that is not the designed one is that of a command which was
applied and in force when the tenant was last polled, and is on record since. -/
theorem setpoint_accounted {clock : ℤ} {w : World} {registry : Registry} {stored : Uuid → Option ℚ}
    (hrun : (closedLoop cfg).Reaches (.start clock w ctx registry stored) s h) {before rest : List LoopObs}
    {r : SimulatedReading} (hh : h = before ++ .building (.emitted r) :: rest)
    (hmetric : r.sensor.metric = .setpointTempC) (hfault : r.fault = none) {zoneId : Uuid}
    (hzone : r.sensor.zoneId = some zoneId)
    (hchanged : r.value ≠ (designedC ctx r.sensor.tenantId zoneId).getD 23) :
    ∃ now commands, lastPoll r.sensor.tenantId before = some (now, commands) ∧
      ∃ c₀ ∈ commands, inForce r.sensor.tenantId now c₀ = true ∧ c₀.zoneId = zoneId ∧ c₀.setpointTempC = r.value ∧
        ∃ c ∈ s.control.commands, c.id = c₀.id ∧ c.tenantId = r.sensor.tenantId ∧ c.zoneId = zoneId ∧
          c.setpointTempC = r.value ∧ now < c.effectiveUntil ∧ (c.state = .applied ∨ c.state = .superseded) := by
  have hF := followed_of_reaches hrun
  obtain ⟨now, commands, hpoll, hoverride⟩ := hF.override hh hmetric hfault hzone hchanged
  have hpolled : .polled r.sensor.tenantId now commands ∈ h := by
    rw [hh]
    exact List.mem_append_left _ (lastPoll_mem hpoll)
  obtain ⟨c₀, hc₀, hforce, hc₀zone, hvalue, c, hc, hintent, hstate⟩ := hF.commanded hpolled hoverride
  obtain ⟨htenant, -, hlasts⟩ := inForce_iff.mp hforce
  simp only [Command.intent, Intent.mk.injEq] at hintent
  obtain ⟨hid, hct, hcz, hcs, -, -, -, -, -, hcu⟩ := hintent
  exact ⟨now, commands, hpoll, c₀, hc₀, hforce, hc₀zone, hvalue, c, hc, hid, hct.trans htenant, hcz.trans hc₀zone,
    hcs.trans hvalue, hcu ▸ hlasts, hstate⟩

theorem setpoint_accounted_lapsed : ∃ (s : Loop) (before : List LoopObs),
    (closedLoop Example.nine).Reaches
        (.start 0 Control.site (fun _ => some Example.room) Example.thermostats fun _ => none) s
        (before ++ [.building (.emitted Example.shown)]) ∧
      ∃ now commands, lastPoll 1 before = some (now, commands) ∧
        ∃ c₀ ∈ commands, inForce 1 now c₀ = true ∧ c₀.zoneId = 1 ∧ c₀.setpointTempC = 23 ∧
          ∃ c ∈ s.control.commands, c.id = c₀.id ∧ c.tenantId = 1 ∧ c.zoneId = 1 ∧ c.setpointTempC = 23 ∧
            now < c.effectiveUntil ∧ (c.state = .applied ∨ c.state = .superseded) := by
  obtain ⟨⟨s, h⟩, hr, hlast⟩ := Example.overridden_runs
  have hh : h.dropLast ++ [.building (.emitted Example.shown)] = h := List.dropLast_append_getLast? _ hlast
  have hrun : (closedLoop Example.nine).Reaches
      (.start 0 Control.site (fun _ => some Example.room) Example.thermostats fun _ => none) s h := ⟨_, hr⟩
  have hdesigned : (23 : ℚ) ≠ (designedC (fun _ => some Example.room) 1 1).getD 23 := by
    show (23 : ℚ) ≠ 22
    norm_num
  exact ⟨s, h.dropLast, hh.symm ▸ hrun, setpoint_accounted hrun hh.symm rfl rfl rfl hdesigned⟩

end DTwin.Device
