import DTwin.Device.Meters
import DTwin.Lib.TwoRuns

/-!
# DTwin.Device.Faults — what an injected fault does not do

Two runs of the building side by side.  A fault that is shown leaves the counters and the times of the readings as they
are without it (`faults_leave_counters`).  What other tenants ask for, and what is polled for them, leaves the readings
and the answers of a tenant as they are without it (`tenants_apart`).
-/

namespace DTwin.Device

open Control OrderedMap Machine

variable {cfg : Config} {now : ℤ} {draw : Uuid → ℕ → ℚ} {s t : Sys} {γ : Type} {view : Obs → Option γ}

/-- Ticks of two buildings, sensor by sensor. -/
theorem tickAll_beside {R : Sys → Sys → Prop} :
    ∀ (l : List RegisteredSensor) {s t : Sys}, R s t → (∀ {s t}, R s t → ∀ sensor ∈ l,
      R (s.emit cfg now draw sensor).1 (t.emit cfg now draw sensor).1 ∧
        (t.emit cfg now draw sensor).2.filterMap view = (s.emit cfg now draw sensor).2.filterMap view) →
      R (tickAll cfg now draw l s).1 (tickAll cfg now draw l t).1 ∧
        (tickAll cfg now draw l t).2.filterMap view = (tickAll cfg now draw l s).2.filterMap view
  | [], s, t, hR, _ => ⟨hR, rfl⟩
  | sensor :: rest, s, t, hR, hturn => by
    obtain ⟨hR₁, hview₁⟩ := hturn hR sensor List.mem_cons_self
    obtain ⟨hR₂, hview₂⟩ := tickAll_beside rest hR₁ fun hR x hx => hturn hR x (List.mem_cons_of_mem sensor hx)
    refine ⟨hR₂, ?_⟩
    rw [tickAll, tickAll, List.filterMap_append, List.filterMap_append, hview₁, hview₂]

/-! ## Without the faults that are shown -/

def Fault.offline (f : Option Fault) : Bool := f.any fun f => f.kind = .offline

/-- A fault other than `offline` is cleared in place of being injected. -/
def Act.withoutShown : Act → Act
  | .postFault tenantId sensorId kind magnitude now =>
    if kind = .offline then .postFault tenantId sensorId kind magnitude now else .deleteFault tenantId sensorId
  | a => a

/-- What a counter says, whatever is shown of it, and the statuses of the routes. -/
def Obs.counted : Obs → Option ((RegisteredSensor × ℤ × ℚ) ⊕ (Uuid × ℕ))
  | .emitted r => some (.inl (r.sensor, r.ts, r.accumulator))
  | .answered tenantId answer => some (.inr (tenantId, answer.status))

def SensorState.counted (st : SensorState) : ℤ × ℚ := (st.lastEmit, st.accumulator)

/-- The same but for what was shown. -/
structure Alike (s t : Sys) : Prop where
  ctx : t.ctx = s.ctx
  registry : t.registry = s.registry
  offline : ∀ id, Fault.offline (t.faults id) = Fault.offline (s.faults id)
  state : ∀ id, (t.state id).map SensorState.counted = (s.state id).map SensorState.counted
  /-- No fault is shown in the second. -/
  hidden : ∀ id, ∀ f ∈ t.faults id, f.kind = .offline

theorem Alike.stateOf (hA : Alike s t) (sensor : RegisteredSensor) :
    (t.stateOf sensor).counted = (s.stateOf sensor).counted := by
  have hstate := hA.state sensor.id
  unfold Sys.stateOf
  cases hs : s.state sensor.id with
  | none =>
    rw [hs] at hstate
    rw [Option.map_eq_none_iff.mp hstate]
  | some x =>
    rw [hs] at hstate
    obtain ⟨y, hy, heq⟩ := Option.map_eq_some_iff.mp hstate
    rw [hy]
    exact heq

theorem Alike.withState (hA : Alike s t) (id : Uuid) {x y : SensorState} (heq : y.counted = x.counted) :
    Alike (s.withState id x) (t.withState id y) where
  ctx := hA.ctx
  registry := hA.registry
  offline := hA.offline
  state id' := by
    show (Function.update t.state id (some y) id').map _ = (Function.update s.state id (some x) id').map _
    by_cases hid : id' = id
    · subst hid
      rw [Function.update_self, Function.update_self]
      exact congrArg some heq
    · rw [Function.update_of_ne hid, Function.update_of_ne hid]
      exact hA.state id'
  hidden := hA.hidden

variable (cfg now) in
/-- What a reading counts depends on what was counted before. -/
theorem reading_counted (ctx : SimContext) (sensor : RegisteredSensor) {x y : SensorState} (heq : y.counted = x.counted)
    (fault fault' : Option Fault) (draw : ℕ → ℚ) :
    (reading cfg ctx sensor y fault' now draw).accumulator = (reading cfg ctx sensor x fault now draw).accumulator := by
  obtain ⟨hlast, hacc⟩ := Prod.mk.inj heq
  simp only [reading, dtHours, generate_accumulator]
  rw [hlast, hacc]

theorem Alike.emit (hA : Alike s t) (sensor : RegisteredSensor) :
    Alike (s.emit cfg now draw sensor).1 (t.emit cfg now draw sensor).1 ∧
      (t.emit cfg now draw sensor).2.filterMap Obs.counted = (s.emit cfg now draw sensor).2.filterMap Obs.counted := by
  have hcounted := hA.stateOf sensor
  obtain ⟨hlast, -⟩ := Prod.mk.inj hcounted
  have hoffline : ((t.faults sensor.id).any fun f => f.kind = .offline) =
      (s.faults sensor.id).any fun f => f.kind = .offline := hA.offline sensor.id
  unfold Sys.emit
  rw [hA.ctx]
  split
  · exact ⟨hA, rfl⟩
  · next ctx _ =>
    dsimp only
    rw [hlast, hoffline]
    split_ifs
    · exact ⟨hA.withState _ hcounted, rfl⟩
    · exact ⟨hA.withState _ hcounted, rfl⟩
    · have hacc := reading_counted cfg now ctx sensor hcounted (s.faults sensor.id)
        (t.faults sensor.id) (draw sensor.id)
      refine ⟨hA.withState _ (Prod.ext rfl hacc), ?_⟩
      simp only [List.filterMap_cons, List.filterMap_nil, Obs.counted]
      rw [hacc]
      rfl

theorem Alike.withFaults (hA : Alike s t) {f g : Uuid → Option Fault}
    (hoffline : ∀ id, Fault.offline (g id) = Fault.offline (f id)) (hhidden : ∀ id, ∀ x ∈ g id, x.kind = .offline) :
    Alike (s.withFaults f) (t.withFaults g) := ⟨hA.ctx, hA.registry, hoffline, hA.state, hhidden⟩

theorem Alike.owned (hA : Alike s t) (tenantId sensorId : Uuid) :
    t.owned tenantId sensorId = s.owned tenantId sensorId := by
  rw [Sys.owned, Sys.owned, hA.registry]

/-- One sensor has its fault set, or cleared. -/
theorem Alike.update (hA : Alike s t) (id : Uuid) {x y : Option Fault} (hoffline : Fault.offline y = Fault.offline x)
    (hhidden : ∀ f ∈ y, f.kind = .offline) :
    Alike (s.withFaults (Function.update s.faults id x)) (t.withFaults (Function.update t.faults id y)) := by
  refine hA.withFaults (fun id' => ?_) fun id' => ?_
  · by_cases hid : id' = id
    · subst hid
      rw [Function.update_self, Function.update_self, hoffline]
    · rw [Function.update_of_ne hid, Function.update_of_ne hid, hA.offline id']
  · by_cases hid : id' = id
    · subst hid
      rw [Function.update_self]
      exact hhidden
    · rw [Function.update_of_ne hid]
      exact hA.hidden id'

theorem Alike.perform (hA : Alike s t) (a : Act) :
    Alike (s.perform cfg a).1 (t.perform cfg a.withoutShown).1 ∧
      (t.perform cfg a.withoutShown).2.filterMap Obs.counted = (s.perform cfg a).2.filterMap Obs.counted := by
  cases a with
  | tick now draw =>
    simp only [Sys.perform, Act.withoutShown]
    rw [hA.registry]
    exact tickAll_beside s.registry.all hA fun hA sensor _ => hA.emit sensor
  | polled tenantId overrides =>
    refine ⟨⟨?_, hA.registry, hA.offline, hA.state, hA.hidden⟩, rfl⟩
    show Function.update t.ctx _ _ = Function.update s.ctx _ _
    rw [hA.ctx]
  | postFault tenantId sensorId kind magnitude now =>
    by_cases hkind : kind = .offline
    · rw [Act.withoutShown, if_pos hkind]
      simp only [Sys.perform]
      rw [hA.owned]
      split
      · exact ⟨hA, rfl⟩
      · exact ⟨hA.update _ rfl fun f hf => Option.some.inj hf ▸ hkind, rfl⟩
    · rw [Act.withoutShown, if_neg hkind]
      simp only [Sys.perform]
      rw [hA.owned]
      cases howned : s.owned tenantId sensorId with
      | none => exact ⟨hA, rfl⟩
      | some sensor =>
        have hid : sensor.id = sensorId := by
          have hfound := List.find?_some (Option.filter_eq_some_iff.mp howned).1
          exact of_decide_eq_true hfound
        refine ⟨?_, rfl⟩
        dsimp only
        rw [hid]
        exact hA.update sensorId (by simp [Fault.offline, hkind]) fun _ hf => by cases hf
  | deleteFault tenantId sensorId =>
    simp only [Sys.perform, Act.withoutShown]
    rw [hA.owned]
    split
    · exact ⟨hA, rfl⟩
    · exact ⟨hA.update _ rfl (fun _ hf => by cases hf), rfl⟩
  | deleteFaults tenantId =>
    refine ⟨hA.withFaults (fun id => ?_) fun id f hf => ?_, rfl⟩
    · rw [hA.owned]
      split_ifs
      · rfl
      · exact hA.offline id
    · rw [hA.owned] at hf
      split_ifs at hf
      · cases hf
      · exact hA.hidden id f hf
  | refreshed registry => exact ⟨⟨hA.ctx, rfl, hA.offline, hA.state, hA.hidden⟩, rfl⟩

/-- Where no fault is shown, every reading is what was generated. -/
structure Unshown (s : Sys) (h : List Obs) : Prop where
  hidden : ∀ id, ∀ f ∈ s.faults id, f.kind = .offline
  clean : ∀ r, .emitted r ∈ h → r.fault = none

theorem Unshown.turn {sensor : RegisteredSensor} {s' : Sys} {h o : List Obs} (hU : Unshown s h)
    (hs : s.Turn cfg now draw sensor s' o) : Unshown s' (h ++ o) := by
  cases hs with
  | unknown => rwa [List.append_nil]
  | silent => rw [List.append_nil]; exact ⟨hU.hidden, hU.clean⟩
  | emitted hctx hdue honline r hr =>
    refine ⟨hU.hidden, fun q hq => ?_⟩
    rcases List.mem_append.mp hq with hq | hq
    · exact hU.clean q hq
    · obtain rfl := Obs.emitted.inj (List.mem_singleton.mp hq)
      rw [hr]
      show s.faults sensor.id = none
      by_contra hne
      obtain ⟨f, hf⟩ := Option.ne_none_iff_exists'.mp hne
      have hoffline := hU.hidden sensor.id f hf
      rw [hf] at honline
      simp [hoffline] at honline

theorem Unshown.perform {h : List Obs} (hU : Unshown s h) (a : Act) :
    Unshown (s.perform cfg a.withoutShown).1 (h ++ (s.perform cfg a.withoutShown).2) := by
  have hsame : Alike s s := ⟨rfl, rfl, fun _ => rfl, fun _ => rfl, hU.hidden⟩
  refine ⟨((hsame.perform a).1).hidden, fun r hr => ?_⟩
  cases a with
  | tick now draw => exact (tickAll_hist (I := Unshown) (fun hU hs => hU.turn hs) s.registry.all hU).clean r hr
  | polled tenantId overrides => exact hU.clean r (by simpa [Sys.perform, Act.withoutShown] using hr)
  | postFault tenantId sensorId kind magnitude now =>
    refine hU.clean r ?_
    by_cases hkind : kind = .offline
    · rw [Act.withoutShown, if_pos hkind] at hr
      simp only [Sys.perform] at hr
      split at hr <;> simpa using hr
    · rw [Act.withoutShown, if_neg hkind] at hr
      simp only [Sys.perform] at hr
      split at hr <;> simpa using hr
  | deleteFault tenantId sensorId =>
    simp only [Sys.perform, Act.withoutShown] at hr
    refine hU.clean r ?_
    split at hr <;> simpa using hr
  | deleteFaults tenantId => exact hU.clean r (by simpa [Sys.perform, Act.withoutShown] using hr)
  | refreshed registry => exact hU.clean r (by simpa [Sys.perform, Act.withoutShown] using hr)

/-- **Faults leave the counters.**  Where every fault but `offline` is cleared in place of being injected, the same
readings come at the same times with the same counters, the routes answer with the same statuses, and no reading is
changed. -/
theorem faults_leave_counters {ctx : Uuid → Option SimContext} {registry : Registry} {stored : Uuid → Option ℚ}
    {as : List Act} {h : List Obs} (he : (device cfg).exec (.start ctx registry stored) as = some (s, h)) :
    ∃ t h', (device cfg).exec (.start ctx registry stored) (as.map Act.withoutShown) = some (t, h') ∧
      h'.filterMap Obs.counted = h.filterMap Obs.counted ∧ ∀ r, .emitted r ∈ h' → r.fault = none := by
  have hsame : Alike (.start ctx registry stored) (.start ctx registry stored) :=
    ⟨rfl, rfl, fun _ => rfl, fun _ => rfl, fun _ _ hf => by cases hf⟩
  obtain ⟨t, h', ht, -, hview⟩ := exec_map (M := device cfg) (R := Alike) (v := Obs.counted) (g := Act.withoutShown)
    (fun hA hs => by
      obtain ⟨rfl, rfl⟩ := Prod.mk.inj (Option.some.inj hs)
      exact ⟨_, _, rfl, hA.perform _⟩) hsame he
  refine ⟨t, h', ht, hview, ?_⟩
  have hU := exec_hist_of_meets (M := device cfg) (I := Unshown) (C := fun _ _ a => ∃ b : Act, a = b.withoutShown)
    (fun hU ha hs => by
      obtain ⟨b, rfl⟩ := ha
      obtain ⟨rfl, rfl⟩ := Prod.mk.inj (Option.some.inj hs)
      exact hU.perform b) (h := []) ⟨hsame.hidden, fun r hr => absurd hr List.not_mem_nil⟩
    (meets_of_forall fun a ha _ _ => by
      obtain ⟨b, -, rfl⟩ := List.mem_map.mp ha
      exact ⟨b, rfl⟩) ht
  exact hU.clean

/-- The spike of the run is seen in the reading of ten seconds later, and in no counter. -/
theorem faults_leave_counters_ticks : ∃ t h', (device Example.config).exec Example.building
    (Example.ticks.map Act.withoutShown) = some (t, h') ∧ (∀ r, .emitted r ∈ h' → r.fault = none) ∧
      h'.filterMap Obs.counted = [.inl (Example.mainMeter, 1704088800000, 18750007087 / 15000), .inr (1, 200),
        .inl (Example.mainMeter, 1704088810000, 7031257087 / 5625), .inr (1, 200), .inr (1, 200),
        .inl (Example.mainMeter, 1704088830000, 3125007087 / 2500)] := by
  obtain ⟨⟨s, h⟩, hr, hh⟩ := Example.ticks_run
  obtain ⟨t, h', ht, hview, hclean⟩ := faults_leave_counters hr
  refine ⟨t, h', ht, hclean, ?_⟩
  rw [hview, show h = _ from hh]
  rfl

/-! ## Without the other tenants -/

/-- What is left of a run for one tenant: the ticks and the registries, and what is asked or polled for it. -/
def Act.isFor (tenantId : Uuid) : Act → Bool
  | .tick .. => true
  | .polled other _ => other = tenantId
  | .postFault other .. => other = tenantId
  | .deleteFault other _ => other = tenantId
  | .deleteFaults other => other = tenantId
  | .refreshed _ => true

/-- What a tenant sees. -/
def Obs.isFor (tenantId : Uuid) : Obs → Bool
  | .emitted r => r.sensor.tenantId = tenantId
  | .answered other _ => other = tenantId

/-- Every sensor is its owner's. -/
def Registry.Owned (owner : Uuid → Uuid) (registry : Registry) : Prop :=
  ∀ sensor ∈ registry.all, sensor.tenantId = owner sensor.id

/-- No registry gives a sensor to another tenant. -/
def Act.Owned (owner : Uuid → Uuid) : Act → Prop
  | .refreshed registry => registry.Owned owner
  | _ => True

/-- The same for one tenant. -/
structure SameFor (owner : Uuid → Uuid) (tenantId : Uuid) (s t : Sys) : Prop where
  registry : t.registry = s.registry
  owned : s.registry.Owned owner
  ctx : t.ctx tenantId = s.ctx tenantId
  faults : ∀ id, owner id = tenantId → t.faults id = s.faults id
  state : ∀ id, owner id = tenantId → t.state id = s.state id

variable {owner : Uuid → Uuid} {tenantId : Uuid} {s' t' : Sys} {o : List Obs}

/-- A building that differs in what is not the tenant's. -/
theorem SameFor.left (hS : SameFor owner tenantId s t) (hregistry : s'.registry = s.registry)
    (hctx : s'.ctx tenantId = s.ctx tenantId) (hfaults : ∀ id, owner id = tenantId → s'.faults id = s.faults id)
    (hstate : ∀ id, owner id = tenantId → s'.state id = s.state id) : SameFor owner tenantId s' t where
  registry := hS.registry.trans hregistry.symm
  owned := hregistry ▸ hS.owned
  ctx := hS.ctx.trans hctx.symm
  faults id hid := (hS.faults id hid).trans (hfaults id hid).symm
  state id hid := (hS.state id hid).trans (hstate id hid).symm

theorem SameFor.symm (hS : SameFor owner tenantId s t) : SameFor owner tenantId t s where
  registry := hS.registry.symm
  owned := hS.registry ▸ hS.owned
  ctx := hS.ctx.symm
  faults id hid := (hS.faults id hid).symm
  state id hid := (hS.state id hid).symm

/-- A turn of another tenant's sensor. -/
theorem SameFor.turn (hS : SameFor owner tenantId s t) {sensor : RegisteredSensor} (hother : sensor.tenantId ≠ tenantId)
    (howner : sensor.tenantId = owner sensor.id) (hs : s.Turn cfg now draw sensor s' o) :
    SameFor owner tenantId s' t ∧ o.filter (Obs.isFor tenantId) = [] := by
  have hne : ∀ id, owner id = tenantId → id ≠ sensor.id := by
    rintro id hid rfl
    exact hother (howner.trans hid)
  cases hs with
  | unknown => exact ⟨hS, rfl⟩
  | silent => exact ⟨hS.left rfl rfl (fun _ _ => rfl) fun id hid => Function.update_of_ne (hne id hid) _ _, rfl⟩
  | emitted hctx hdue honline r hr =>
    refine ⟨hS.left rfl rfl (fun _ _ => rfl) fun id hid => Function.update_of_ne (hne id hid) _ _, ?_⟩
    have hsensor : r.sensor = sensor := by rw [hr]; rfl
    simp [Obs.isFor, hsensor, hother]

theorem SameFor.emit (hS : SameFor owner tenantId s t) {sensor : RegisteredSensor}
    (howner : sensor.tenantId = owner sensor.id) :
    SameFor owner tenantId (s.emit cfg now draw sensor).1 (t.emit cfg now draw sensor).1 ∧
      (t.emit cfg now draw sensor).2.filter (Obs.isFor tenantId) =
        (s.emit cfg now draw sensor).2.filter (Obs.isFor tenantId) := by
  by_cases hmine : sensor.tenantId = tenantId
  · have hid : owner sensor.id = tenantId := howner.symm.trans hmine
    have hstateOf : t.stateOf sensor = s.stateOf sensor := by rw [Sys.stateOf, Sys.stateOf, hS.state _ hid]
    have hwith : ∀ x, SameFor owner tenantId (s.withState sensor.id x) (t.withState sensor.id x) := fun x =>
      { hS with
        state := fun id hown => by
          show Function.update t.state sensor.id (some x) id = Function.update s.state sensor.id (some x) id
          by_cases heq : id = sensor.id
          · rw [heq, Function.update_self, Function.update_self]
          · rw [Function.update_of_ne heq, Function.update_of_ne heq, hS.state id hown] }
    unfold Sys.emit
    rw [hmine, hS.ctx, hstateOf, hS.faults _ hid]
    split
    · exact ⟨hS, rfl⟩
    · dsimp only
      split_ifs
      · exact ⟨hwith _, rfl⟩
      · exact ⟨hwith _, rfl⟩
      · exact ⟨hwith _, rfl⟩
  · obtain ⟨hleft, hnil⟩ := hS.turn hmine howner (emit_turn cfg now draw s sensor)
    obtain ⟨hright, hnil'⟩ := hleft.symm.turn hmine howner (emit_turn cfg now draw t sensor)
    exact ⟨hright.symm, hnil'.trans hnil.symm⟩

theorem SameFor.owned_eq (hS : SameFor owner tenantId s t) (other sensorId : Uuid) :
    t.owned other sensorId = s.owned other sensorId := by
  rw [Sys.owned, Sys.owned, hS.registry]

theorem owned_some {other sensorId : Uuid} {sensor : RegisteredSensor} (hfound : s.owned other sensorId = some sensor) :
    sensor ∈ s.registry.all ∧ sensor.id = sensorId ∧ sensor.tenantId = other := by
  obtain ⟨hbyId, htenant⟩ := Option.filter_eq_some_iff.mp hfound
  have hid := List.find?_some hbyId
  exact ⟨List.mem_of_find?_eq_some hbyId, of_decide_eq_true hid, of_decide_eq_true htenant⟩

/-- A sensor that another tenant's route finds is not the tenant's. -/
theorem SameFor.owner_ne (hS : SameFor owner tenantId s t) {other sensorId : Uuid} (hother : other ≠ tenantId)
    {sensor : RegisteredSensor} (hfound : s.owned other sensorId = some sensor) {id : Uuid}
    (hid : owner id = tenantId) :
    id ≠ sensor.id := by
  rintro rfl
  obtain ⟨hmem, -, htenant⟩ := owned_some hfound
  exact hother (htenant.symm.trans ((hS.owned sensor hmem).trans hid))

/-- The same faults are set in both. -/
theorem SameFor.update (hS : SameFor owner tenantId s t) (id : Uuid) (f : Option Fault) :
    SameFor owner tenantId (s.withFaults (Function.update s.faults id f))
      (t.withFaults (Function.update t.faults id f)) :=
  { hS with
    faults := fun id' hid => by
      show Function.update t.faults id f id' = Function.update s.faults id f id'
      by_cases heq : id' = id
      · rw [heq, Function.update_self, Function.update_self]
      · rw [Function.update_of_ne heq, Function.update_of_ne heq, hS.faults id' hid] }

/-- What is asked or polled for the tenant, and what concerns all, does the same in both. -/
theorem SameFor.perform (hS : SameFor owner tenantId s t) {a : Act} (hown : a.Owned owner)
    (ha : a.isFor tenantId = true) :
    SameFor owner tenantId (s.perform cfg a).1 (t.perform cfg a).1 ∧
      (t.perform cfg a).2.filter (Obs.isFor tenantId) = (s.perform cfg a).2.filter (Obs.isFor tenantId) := by
  cases a with
  | tick now draw =>
    simp only [Sys.perform, ← List.filterMap_eq_filter]
    rw [hS.registry]
    have hmem : ∀ sensor ∈ s.registry.all, sensor.tenantId = owner sensor.id := hS.owned
    refine tickAll_beside s.registry.all hS fun hS sensor hsensor => ?_
    rw [List.filterMap_eq_filter]
    exact hS.emit (hmem sensor hsensor)
  | polled other overrides =>
    obtain rfl : other = tenantId := of_decide_eq_true ha
    refine ⟨{ hS with ctx := ?_ }, rfl⟩
    show Function.update t.ctx _ _ _ = Function.update s.ctx _ _ _
    rw [Function.update_self, Function.update_self, hS.ctx]
  | postFault other sensorId kind magnitude now =>
    simp only [Sys.perform]
    rw [hS.owned_eq]
    split
    · exact ⟨hS, rfl⟩
    · exact ⟨hS.update _ _, rfl⟩
  | deleteFault other sensorId =>
    obtain rfl : other = tenantId := of_decide_eq_true ha
    simp only [Sys.perform]
    rw [hS.owned_eq]
    split
    · exact ⟨hS, rfl⟩
    · next sensor hfound =>
      obtain ⟨hmem, rfl, htenant⟩ := owned_some hfound
      rw [hS.faults sensor.id ((hS.owned sensor hmem).symm.trans htenant)]
      exact ⟨hS.update _ _, rfl⟩
  | deleteFaults other =>
    refine ⟨{ hS with faults := fun id hid => ?_ }, rfl⟩
    show (if _ then _ else _) = if _ then _ else _
    rw [hS.owned_eq, hS.faults id hid]
  | refreshed registry => exact ⟨⟨rfl, hown, hS.ctx, hS.faults, hS.state⟩, rfl⟩

/-- What is asked or polled for another tenant does nothing to this one. -/
theorem SameFor.dropped (hS : SameFor owner tenantId s t) {a : Act} (ha : a.isFor tenantId = false) :
    SameFor owner tenantId (s.perform cfg a).1 t ∧ (s.perform cfg a).2.filter (Obs.isFor tenantId) = [] := by
  cases a with
  | tick now draw => cases ha
  | polled other overrides =>
    have hother : other ≠ tenantId := of_decide_eq_false ha
    exact ⟨hS.left rfl (Function.update_of_ne (Ne.symm hother) _ _) (fun _ _ => rfl) fun _ _ => rfl, rfl⟩
  | postFault other sensorId kind magnitude now =>
    have hother : other ≠ tenantId := of_decide_eq_false ha
    simp only [Sys.perform]
    split
    · exact ⟨hS, by simp [Obs.isFor, hother]⟩
    · next sensor hfound =>
      exact ⟨hS.left rfl rfl (fun id hid => Function.update_of_ne (hS.owner_ne hother hfound hid) _ _) fun _ _ => rfl,
        by simp [Obs.isFor, hother]⟩
  | deleteFault other sensorId =>
    have hother : other ≠ tenantId := of_decide_eq_false ha
    simp only [Sys.perform]
    split
    · exact ⟨hS, by simp [Obs.isFor, hother]⟩
    · next sensor hfound =>
      obtain ⟨-, rfl, -⟩ := owned_some hfound
      exact ⟨hS.left rfl rfl (fun id hid => Function.update_of_ne (hS.owner_ne hother hfound hid) _ _) fun _ _ => rfl,
        by simp [Obs.isFor, hother]⟩
  | deleteFaults other =>
    have hother : other ≠ tenantId := of_decide_eq_false ha
    refine ⟨hS.left rfl rfl (fun id hid => ?_) fun _ _ => rfl, by simp [Sys.perform, Obs.isFor, hother]⟩
    refine if_neg fun hsome => ?_
    obtain ⟨sensor, hfound⟩ := Option.isSome_iff_exists.mp hsome
    exact hS.owner_ne hother hfound hid (owned_some hfound).2.1.symm
  | refreshed registry => cases ha

/-- **Tenants apart.**  Without what is asked and polled for the other tenants, the readings of a tenant's sensors and
the answers to its requests are the same. -/
theorem tenants_apart {ctx : Uuid → Option SimContext} {registry : Registry} {stored : Uuid → Option ℚ}
    (hregistry : registry.Owned owner) {as : List Act} (has : ∀ a ∈ as, a.Owned owner) {h : List Obs}
    (he : (device cfg).exec (.start ctx registry stored) as = some (s, h)) (tenantId : Uuid) :
    ∃ t h', (device cfg).exec (.start ctx registry stored) (as.filter (Act.isFor tenantId)) = some (t, h') ∧
      h'.filter (Obs.isFor tenantId) = h.filter (Obs.isFor tenantId) := by
  have hsame : SameFor owner tenantId (.start ctx registry stored) (.start ctx registry stored) :=
    ⟨rfl, hregistry, rfl, fun _ _ => rfl, fun _ _ => rfl⟩
  obtain ⟨t, h', ht, -, hview⟩ := exec_filterMap (M := device cfg) (R := SameFor owner tenantId)
    (f := Option.guard (Act.isFor tenantId)) (v := Option.guard (Obs.isFor tenantId)) (P := Act.Owned owner)
    (fun hown hS hf hs => by
      obtain ⟨rfl, rfl⟩ := Prod.mk.inj (Option.some.inj hs)
      obtain ⟨rfl, ha⟩ := Option.guard_eq_some_iff.mp hf
      rw [List.filterMap_eq_filter]
      exact ⟨_, _, rfl, hS.perform hown ha⟩)
    (fun hown hS hf hs => by
      obtain ⟨rfl, rfl⟩ := Prod.mk.inj (Option.some.inj hs)
      rw [List.filterMap_eq_filter]
      exact hS.dropped (by simpa [Option.guard] using hf)) has hsame he
  rw [List.filterMap_eq_filter] at ht hview
  exact ⟨t, h', ht, hview⟩

namespace Example

def otherMeter : RegisteredSensor := ⟨⟨8, 2, .energyKwh, none, none, none, none⟩, true, 60⟩

theorem both_ids : (([mainMeter, otherMeter] : List RegisteredSensor).map fun r => r.id).Nodup := by decide

def both : Registry := ⟨[mainMeter, otherMeter], both_ids⟩

def ownerOf (id : Uuid) : Uuid := if id = 7 then 1 else 2

theorem both_owned : both.Owned ownerOf := by
  intro sensor hsensor
  rcases List.mem_cons.mp hsensor with rfl | hsensor
  · rfl
  · rw [List.mem_singleton.mp hsensor]
    rfl

/-- The second tenant tries the meter of the first, which it does not find; nor has the first a fault to clear. -/
def meddling : List Act :=
  [.tick 1704088800000 fun _ _ => 0, .postFault 2 7 .offline 1 1704088801000, .deleteFaults 2,
    .postFault 2 8 .spike 3 1704088802000, .deleteFault 1 7, .tick 1704088810000 fun _ _ => 0]

theorem meddling_owned : ∀ a ∈ meddling, a.Owned ownerOf := by
  simp [meddling, Act.Owned]

end Example

theorem tenants_apart_meddling : ∃ (h : List Obs) (t : Sys) (h' : List Obs),
    (device Example.config).exec (.start (fun _ => some Example.site) Example.both fun _ => none)
        [.tick 1704088800000 fun _ _ => 0, .deleteFault 1 7, .tick 1704088810000 fun _ _ => 0] = some (t, h') ∧
      h'.filter (Obs.isFor 1) = h.filter (Obs.isFor 1) ∧ .answered 2 .unknownSensor ∈ h := by
  have hgo : ∃ r ∈ (device Example.config).exec (.start (fun _ => some Example.site) Example.both fun _ => none)
      Example.meddling, .answered 2 .unknownSensor ∈ r.2 := by decide +kernel
  obtain ⟨⟨s, h⟩, hr, hfound⟩ := hgo
  obtain ⟨t, h', ht, hsame⟩ := tenants_apart Example.both_owned Example.meddling_owned hr 1
  exact ⟨h, t, h', ht, hsame, hfound⟩

end DTwin.Device
