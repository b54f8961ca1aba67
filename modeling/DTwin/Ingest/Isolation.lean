import DTwin.Ingest.Fanout

/-!
# DTwin.Ingest.Isolation — whose topics does a connection hear?

A topic is authorised when it is subscribed, against the tenant the connection is then bound to; `authenticate`
binds it to another and keeps its topics.  A connection is in a topic under its own tenant (`Isolated`) all
along a run exactly when no step rebinds one that has topics (`isolated_iff`).
-/

namespace DTwin.Fanout

open OrderedMap Machine

variable {μ : Type}

/-! ## What was granted -/

structure Grant where
  id : Uuid
  tenantId : Uuid
  topic : Topic
  owners : Owners

def Grant.key (g : Grant) : Uuid × Topic := (g.id, g.topic)

/-- The tenant may subscribe, by the registry of the time. -/
def Grant.Allowed (g : Grant) : Prop := maySubscribe g.owners g.tenantId g.topic = true

@[simp] def Obs.grants : Obs μ → List Grant
  | .granted id tenantId topic owners => [⟨id, tenantId, topic, owners⟩]
  | _ => []

/-- Every subscription granted, in order. -/
def grantsOf (h : List (Obs μ)) : List Grant := h.flatMap Obs.grants

@[simp] theorem grantsOf_nil : grantsOf ([] : List (Obs μ)) = [] := rfl

@[simp] theorem grantsOf_cons (x : Obs μ) (h : List (Obs μ)) :
    grantsOf (x :: h) = x.grants ++ grantsOf h := rfl

@[simp] theorem grantsOf_append (h o : List (Obs μ)) : grantsOf (h ++ o) = grantsOf h ++ grantsOf o :=
  List.flatMap_append

/-- Every subscriber of a topic was last granted it under the tenant it is bound to, and every frame went to
a connection that had been granted its topic under the tenant it was bound to. -/
structure Isolated (s : Sys) (h : List (Obs μ)) : Prop where
  bound : ∀ t id, id ∈ s.byTopic.members t → ∃ g, lastOf Grant.key (id, t) (grantsOf h) = some g ∧
    s.tenantOf id = some g.tenantId ∧ g.Allowed
  sent : ∀ id tenantId t frame, .sent id tenantId t frame ∈ h → ∃ g ∈ grantsOf h, g.key = (id, t) ∧
    tenantId = some g.tenantId ∧ g.Allowed

theorem isolated_init (owners : Owners) : Isolated (μ := μ) (.init owners) [] :=
  ⟨fun t id h => by simp [Sys.init, Index.members] at h, nofun⟩

/-- Steps that grant nothing, rebind no subscriber and send to subscribers only. -/
theorem Isolated.quiet {s r : Sys} {h o : List (Obs μ)} (hP : Isolated s h) (hgrants : grantsOf o = [])
    (hmem : ∀ t id, id ∈ r.byTopic.members t → id ∈ s.byTopic.members t ∧ r.tenantOf id = s.tenantOf id)
    (hsent : ∀ id tenantId t frame, .sent id tenantId t frame ∈ o →
      id ∈ s.byTopic.members t ∧ tenantId = s.tenantOf id) : Isolated r (h ++ o) where
  bound t id hid := by
    obtain ⟨hid', htenant⟩ := hmem t id hid
    rw [htenant, grantsOf_append, hgrants, List.append_nil]
    exact hP.bound t id hid'
  sent id tenantId t frame hx := by
    rw [grantsOf_append, hgrants, List.append_nil]
    rcases List.mem_append.mp hx with hx | hx
    · exact hP.sent id tenantId t frame hx
    · obtain ⟨hid, rfl⟩ := hsent id tenantId t frame hx
      obtain ⟨g, hlast, htenant, hmay⟩ := hP.bound t id hid
      exact ⟨g, (lastOf_some hlast).1, (lastOf_some hlast).2, htenant, hmay⟩

/-- Steps that nobody sees. -/
theorem Isolated.silent {s r : Sys} {h : List (Obs μ)} (hP : Isolated s h)
    (hmem : ∀ t id, id ∈ r.byTopic.members t → id ∈ s.byTopic.members t ∧ r.tenantOf id = s.tenantOf id) :
    Isolated r (h ++ []) :=
  hP.quiet rfl hmem fun _ _ _ _ hx => absurd hx List.not_mem_nil

theorem Isolated.delivery {s : Sys} {h : List (Obs μ)} {r : Sys × List (Obs μ)} (hP : Isolated s h)
    (hD : Delivery s r) : Isolated r.1 (h ++ r.2) := by
  refine hP.quiet ?_ (fun t id hid => ⟨hD.byTopic ▸ hid, tenantOf_congr hD.subscribers id⟩) ?_
  · refine List.flatMap_eq_nil_iff.mpr fun x hx => ?_
    obtain ⟨t, id, frame, -, rfl⟩ | ⟨id, rfl⟩ := hD.obs x hx <;> rfl
  · intro id tenantId t frame hx
    obtain ⟨t', id', frame', hid, heq⟩ | ⟨id', heq⟩ := hD.obs _ hx
    · cases heq
      exact ⟨hid, rfl⟩
    · cases heq

/-- One topic of `subscribe`. -/
theorem Isolated.subscribeOne {id tenantId : Uuid} {r : Sys × List Topic × List (Obs μ)} {h : List (Obs μ)}
    (hP : Isolated r.1 (h ++ r.2.2)) (htenant : r.1.tenantOf id = some tenantId) (t : Topic) :
    Isolated (subscribeOne id tenantId r t).1 (h ++ (subscribeOne id tenantId r t).2.2) ∧
      (subscribeOne id tenantId r t).1.tenantOf id = some tenantId := by
  obtain ⟨hb, hs, ho⟩ | ⟨sub, hsub, hmay, heq, ho⟩ := subscribeOne_cases id tenantId r t
  · rw [ho, tenantOf_congr hs]
    refine ⟨?_, htenant⟩
    have hquiet := hP.silent (r := (Fanout.subscribeOne id tenantId r t).1)
      fun t' id' hid => ⟨hb ▸ hid, tenantOf_congr hs id'⟩
    rwa [List.append_nil] at hquiet
  · have htenants : ∀ id', (Fanout.subscribeOne id tenantId r t).1.tenantOf id' = r.1.tenantOf id' := by
      intro id'
      rw [heq, tenantOf_setSubscriber]
      split_ifs with hid
      · rw [← hid, tenantOf_eq hsub]
      · rfl
    refine ⟨⟨fun t' id' hid => ?_, fun id' tenantId' t' frame hx => ?_⟩, (htenants id).trans htenant⟩
    · rw [htenants, ho, ← List.append_assoc, grantsOf_append, lastOf_append]
      by_cases hkey : (id', t') = (id, t)
      · obtain ⟨rfl, rfl⟩ := Prod.mk.inj hkey
        exact ⟨⟨id', tenantId, t', r.1.owners⟩, by simp [lastOf_singleton, Grant.key], htenant, hmay⟩
      · have hold : id' ∈ r.1.byTopic.members t' := by
          rw [heq] at hid
          refine (Index.mem_join.mp hid).resolve_right ?_
          rintro ⟨rfl, rfl⟩
          exact hkey rfl
        have hne : ¬ (id, t) = (id', t') := fun h => hkey h.symm
        simpa [lastOf_singleton, Grant.key, hne] using hP.bound t' id' hold
    · rw [ho, ← List.append_assoc] at hx ⊢
      have hx' : .sent id' tenantId' t' frame ∈ h ++ r.2.2 := by simpa using hx
      obtain ⟨g, hg, hrest⟩ := hP.sent id' tenantId' t' frame hx'
      exact ⟨g, by rw [grantsOf_append]; exact List.mem_append_left _ hg, hrest⟩

theorem Isolated.subscribe {s : Sys} {h : List (Obs μ)} (hP : Isolated s h) (id : Uuid)
    (wanted : List Topic) : Isolated (s.subscribe (μ := μ) id wanted).1 (h ++ (s.subscribe id wanted).2) := by
  have hreply (s : Sys) (o : List (Obs μ)) (topics denied : List Topic) (hP : Isolated s (h ++ o)) :
      Isolated s (h ++ (o ++ [.subscribed id topics denied])) := by
    rw [← List.append_assoc]
    exact hP.quiet rfl (fun _ _ hid => ⟨hid, rfl⟩) (by simp)
  have hnil : Isolated s (h ++ []) := by rwa [List.append_nil]
  unfold Sys.subscribe
  split
  · exact hreply s [] _ _ hnil
  next sub hsub =>
    split
    · exact hreply s [] _ _ hnil
    next tenantId htenant =>
      have hfold : ∀ (wanted : List Topic) (r : Sys × List Topic × List (Obs μ)),
          Isolated r.1 (h ++ r.2.2) → r.1.tenantOf id = some tenantId →
            Isolated (wanted.foldl (Fanout.subscribeOne id tenantId) r).1
              (h ++ (wanted.foldl (Fanout.subscribeOne id tenantId) r).2.2) := by
        intro wanted
        induction wanted with
        | nil => exact fun _ hP _ => hP
        | cons t wanted ih =>
          intro r hP ht
          obtain ⟨hP', ht'⟩ := hP.subscribeOne ht t
          exact ih _ hP' ht'
      exact hreply _ _ _ _ (hfold wanted (s, [], []) hnil ((tenantOf_eq hsub).trans htenant))

theorem Isolated.unsubscribe {s : Sys} {h : List (Obs μ)} (hI : Indexed s) (hP : Isolated s h) (id : Uuid)
    (unwanted : List Topic) :
    Isolated (s.unsubscribe (μ := μ) id unwanted).1 (h ++ (s.unsubscribe id unwanted).2) := by
  have hfold : ∀ (unwanted : List Topic) (s : Sys), Indexed s → ∀ t id',
      id' ∈ (unwanted.foldl (Fanout.unsubscribeOne id) s).byTopic.members t →
        id' ∈ s.byTopic.members t ∧
          (unwanted.foldl (Fanout.unsubscribeOne id) s).tenantOf id' = s.tenantOf id' := by
    intro unwanted
    induction unwanted with
    | nil => exact fun _ _ _ _ hid => ⟨hid, rfl⟩
    | cons t unwanted ih =>
      intro s hI t' id' hid
      obtain ⟨hmem, htenant⟩ := ih _ (hI.unsubscribeOne id t) t' id' hid
      exact ⟨((mem_unsubscribeOne hI).mp hmem).1, htenant.trans (unsubscribeOne_tenantOf id s t id')⟩
  unfold Sys.unsubscribe
  split
  · exact hP.quiet rfl (fun _ _ hid => ⟨hid, rfl⟩) (by simp)
  · exact hP.quiet rfl (hfold unwanted s hI) (by simp)

/-! ## Rebinding -/

/-- No connection that has topics is bound to another tenant. -/
def KeepsTenant (s : Sys) (_ : List (Obs μ)) : Act μ → Prop
  | .authenticate id tenantId => s.topicsOf id = [] ∨ s.tenantOf id = some tenantId
  | _ => True

theorem isolated_authenticate_iff {s : Sys} {h : List (Obs μ)} (hI : Indexed s) (hP : Isolated s h)
    (id tenantId : Uuid) :
    Isolated (s.authenticate id tenantId) h ↔ (s.topicsOf id = [] ∨ s.tenantOf id = some tenantId) := by
  constructor
  · intro hP'
    refine or_iff_not_imp_left.mpr fun hne => ?_
    obtain ⟨t, ht⟩ := List.exists_mem_of_ne_nil _ hne
    have hid : id ∈ s.byTopic.members t := (hI.mem_iff t id).mpr ht
    obtain ⟨g, hlast, htenant, -⟩ := hP.bound t id hid
    obtain ⟨g', hlast', htenant', -⟩ := hP'.bound t id (by rwa [authenticate_byTopic])
    obtain rfl : g = g' := Option.some.inj (hlast.symm.trans hlast')
    rw [authenticate_tenantOf_self ht] at htenant'
    rw [htenant, htenant']
  · intro hkeeps
    have hquiet := hP.silent (r := s.authenticate id tenantId) fun t id' hid => ?_
    · rwa [List.append_nil] at hquiet
    rw [authenticate_byTopic] at hid
    refine ⟨hid, ?_⟩
    by_cases hne : id' = id
    · subst hne
      have ht := (hI.mem_iff t id').mp hid
      rw [authenticate_tenantOf_self ht]
      exact (hkeeps.resolve_left (List.ne_nil_of_mem ht)).symm
    · exact authenticate_tenantOf_other s hne

theorem isolated_step_iff {cfg : Config} {s s' : Sys} {h o : List (Obs μ)} {a : Act μ} (hI : Indexed s)
    (hP : Isolated s h) (hs : step cfg s a = some (s', o)) :
    Isolated s' (h ++ o) ↔ KeepsTenant s h a := by
  cases a with
  | authenticate id tenantId =>
    cases hs
    rw [List.append_nil]
    exact isolated_authenticate_iff hI hP id tenantId
  | add id =>
    simp only [step] at hs
    split_ifs at hs with hnew
    cases hs
    have hnone : s.subscribers.get? id = none := by simpa using hnew
    exact iff_of_true (hP.silent fun t id' hid => ⟨hid, add_tenantOf hnone id'⟩) trivial
  | remove id =>
    cases hs
    refine iff_of_true (hP.silent fun t id' hid => ?_) trivial
    obtain ⟨hid, hne⟩ := (mem_remove hI).mp hid
    exact ⟨hid, remove_tenantOf s hne⟩
  | subscribe id wanted =>
    have hP' := hP.subscribe id wanted
    rw [Option.some.inj hs] at hP'
    exact iff_of_true hP' trivial
  | unsubscribe id unwanted =>
    have hP' := hP.unsubscribe hI id unwanted
    rw [Option.some.inj hs] at hP'
    exact iff_of_true hP' trivial
  | publish sensor reading =>
    cases hs
    exact iff_of_true (hP.silent fun _ _ hid => ⟨hid, rfl⟩) trivial
  | send t message mustDeliver sockets =>
    have hD := delivery_send s cfg t message mustDeliver sockets
    rw [Option.some.inj hs] at hD
    exact iff_of_true (hP.delivery hD) trivial
  | tick now sockets =>
    have hD := delivery_tick (μ := μ) s cfg now sockets
    rw [Option.some.inj hs] at hD
    exact iff_of_true (hP.delivery hD) trivial
  | refresh owners =>
    cases hs
    exact iff_of_true (hP.silent fun _ _ hid => ⟨hid, rfl⟩) trivial

/-- **Isolation.**  Every subscriber is in its topics under its own tenant, and hears only those, in every state
of a run exactly when no step of the run binds a connection that has topics to another tenant. -/
theorem isolated_iff (cfg : Config) (owners : Owners) (as : List (Act μ)) :
    (streaming μ cfg).Along Isolated (.init owners) [] as ↔
      (streaming μ cfg).Meets KeepsTenant (.init owners) [] as := by
  refine along_iff_meets (I := fun s _ => Indexed s) (fun hI hs => hI.step hs) isolated_step_iff ?_
    (indexed_init owners) (isolated_init owners)
  intro s h a _ hnone
  cases a with
  | authenticate id tenantId => exact absurd hnone nofun
  | _ => trivial

/-! ## The frame that rebinds -/

/-- Building 7 is of tenant 1. -/
def oneBuilding : Owners := fun id => if id = 7 then some 1 else none

def roomy : Config := ⟨1000, 10⟩

/-- A connection authenticates for tenant 1, subscribes to its building and authenticates for tenant 2. -/
def reboundRun : List (Act ℕ) :=
  [.add 0, .authenticate 0 1, .subscribe 0 [⟨.building, 7⟩], .authenticate 0 2,
    .send ⟨.building, 7⟩ 0 false fun _ => ⟨true, 0⟩]

theorem reboundRun_isSome : ((streaming ℕ roomy).exec (.init oneBuilding) reboundRun).isSome = true := by
  decide +kernel

/-- The tenant of each frame written, with its topic. -/
def framesOf (h : List (Obs μ)) : List (Option Uuid × Topic) :=
  h.filterMap fun
    | .sent _ tenantId topic _ => some (tenantId, topic)
    | _ => none

theorem mem_framesOf {h : List (Obs μ)} {tenantId : Option Uuid} {t : Topic}
    (hx : (tenantId, t) ∈ framesOf h) : ∃ id frame, .sent id tenantId t frame ∈ h := by
  obtain ⟨x, hx, heq⟩ := List.mem_filterMap.mp hx
  cases x with
  | sent id tenantId' t' frame =>
    cases heq
    exact ⟨id, frame, hx⟩
  | _ => cases heq

/-- A frame of tenant 1's building is written to a connection bound to tenant 2. -/
theorem rebound_hears : ∃ s h, (streaming ℕ roomy).Reaches (.init oneBuilding) s h ∧
    (some 2, ⟨.building, 7⟩) ∈ framesOf h ∧ ¬ Isolated s h := by
  let r := ((streaming ℕ roomy).exec (.init oneBuilding) reboundRun).get reboundRun_isSome
  have hframes : (some 2, ⟨.building, 7⟩) ∈ framesOf r.2 := by decide +kernel
  have hgrants : (grantsOf r.2).map (fun g => (g.tenantId, g.topic)) = [(1, ⟨.building, 7⟩)] := by
    decide +kernel
  refine ⟨r.1, r.2, ⟨reboundRun, (Option.some_get reboundRun_isSome).symm⟩, hframes, fun hP => ?_⟩
  obtain ⟨id, frame, hx⟩ := mem_framesOf hframes
  obtain ⟨g, hg, -, htenant, -⟩ := hP.sent id _ _ frame hx
  have hmem := List.mem_map_of_mem (f := fun g => (g.tenantId, g.topic)) hg
  rw [hgrants, List.mem_singleton] at hmem
  have h1 : g.tenantId = 1 := (Prod.mk.inj hmem).1
  rw [h1] at htenant
  exact absurd (Option.some.inj htenant) (by decide)

end DTwin.Fanout
