import DTwin.Ingest.Objects

/-!
# DTwin.Ingest.ById — the objects, seen by their ids

`DTwin.Ingest.Fanout` knows a subscriber by its id, `DTwin.Ingest.Objects` as an object.  The sets of the topics hold
registered objects only, and no two of them have one id.  So each run of the second is one of the first: the same are in
the same topics, and the same is done to the sockets (`shown_of_reaches`).
-/

namespace DTwin.Fanout

variable {μ : Type}

/-- What is done to the socket of a subscriber: a frame is written to it, or it is closed. -/
def Obs.use? : Obs μ → Option (Uuid × Option (Topic × Frame μ))
  | .sent id _ topic frame => some (id, some (topic, frame))
  | .closed id => some (id, none)
  | _ => none

namespace Objects

open OrderedMap Machine

/-! ## What is shown -/

def State.idOf (s : State) (r : Ref) : Uuid := ((s.created[r]?).map (·.id)).getD 0

def State.refOf (s : State) (id : Uuid) : Ref := (s.subscribers.get? id).getD 0

/-- The same of the socket of an object, by its id. -/
def Obs.use? (s : State) : Obs μ → Option (Uuid × Option (Topic × Frame μ))
  | .sent r topic frame => some (s.idOf r, some (topic, frame))
  | .closed r => some (s.idOf r, none)
  | _ => none

/-- The call, with the sockets by ids. -/
def Act.byId (s : State) : Act μ → Fanout.Act μ
  | .add id => .add id
  | .authenticate id tenantId => .authenticate id tenantId
  | .remove id => .remove id
  | .subscribe id wanted => .subscribe id wanted
  | .unsubscribe id unwanted => .unsubscribe id unwanted
  | .publish sensor reading => .publish sensor reading
  | .send topic message mustDeliver sockets => .send topic message mustDeliver fun id => sockets (s.refOf id)
  | .tick now sockets => .tick now fun topic id => sockets topic (s.refOf id)
  | .refresh owners => .refresh owners

/-- The sets by ids. -/
def Shown (idOf : Ref → Uuid) (m m' : Index) : Prop := ∀ t, m'.get? t = (m.get? t).map (List.map idOf)

/-- The state by ids is that of the objects. -/
structure Shows (s : State) (f : Sys) : Prop where
  byTopic : Shown s.idOf s.byTopic f.byTopic
  subscribers : ∀ id, f.subscribers.get? id = (s.subscribers.get? id).map fun r => ⟨s.topicsOf r, s.tenantOf r⟩
  pending : f.pending = s.pending
  stats : f.stats = s.stats
  owners : f.owners = s.owners

/-! ## Sets -/

section Sets

variable {idOf : Ref → Uuid} {m m' : Index} {r : Ref}

/-- No other member has the id of `r`. -/
def Alone (idOf : Ref → Uuid) (m : Index) (r : Ref) : Prop := ∀ t, ∀ r' ∈ m.members t, idOf r' = idOf r → r' = r

theorem Shown.isSome (h : Shown idOf m m') (t : Topic) : (m'.get? t).isSome = (m.get? t).isSome := by
  rw [h t, Option.isSome_map]

theorem Shown.leave (h : Shown idOf m m') (halone : Alone idOf m r) (t : Topic) :
    Shown idOf (m.leave t r) (m'.leave t (idOf r)) := by
  intro t'
  unfold Index.leave
  rw [h t]
  cases hget : m.get? t with
  | none => exact h t'
  | some subs =>
    have hfilter : (subs.map idOf).filter (· ≠ idOf r) = (subs.filter (· ≠ r)).map idOf := by
      rw [List.filter_map]
      refine congrArg (List.map idOf) (List.filter_congr fun r' hr' => ?_)
      have hmem : r' ∈ m.members t := by rwa [Index.members, hget]
      have hiff : idOf r' ≠ idOf r ↔ r' ≠ r := not_congr ⟨halone t r' hmem, congrArg idOf⟩
      exact decide_eq_decide.mpr hiff
    simp only [Option.map_some, hfilter, List.map_eq_nil_iff]
    split_ifs with hempty
    · rw [get?_erase, get?_erase]
      split_ifs
      · rfl
      · exact h t'
    · rw [get?_set, get?_set]
      split_ifs
      · rfl
      · exact h t'

theorem Alone.leave (halone : Alone idOf m r) (t : Topic) : Alone idOf (m.leave t r) r :=
  fun t' r' hr' => halone t' r' (Index.mem_leave.mp hr').1

theorem Shown.foldl_leave : ∀ {ts : List Topic} {m m' : Index}, Shown idOf m m' → Alone idOf m r →
    Shown idOf (ts.foldl (fun m t => m.leave t r) m) (ts.foldl (fun m t => m.leave t (idOf r)) m')
  | [], _, _, h, _ => h
  | t :: ts, _, _, h, halone => by
    rw [List.foldl_cons, List.foldl_cons]
    exact Shown.foldl_leave (h.leave halone t) (halone.leave t)

theorem Shown.join (h : Shown idOf m m') (halone : Alone idOf m r) (t : Topic) :
    Shown idOf (m.join t r) (m'.join t (idOf r)) := by
  intro t'
  rw [Index.join, Index.join, get?_set, get?_set]
  split_ifs
  · have hnew : insertNew (idOf r) ((m.members t).map idOf) = (insertNew r (m.members t)).map idOf := by
      have hiff : idOf r ∈ (m.members t).map idOf ↔ r ∈ m.members t := by
        refine ⟨fun hmem => ?_, List.mem_map_of_mem⟩
        obtain ⟨r', hr', hid⟩ := List.mem_map.mp hmem
        rwa [← halone t r' hr' hid]
      unfold insertNew
      by_cases hmem : r ∈ m.members t
      · rw [if_pos hmem, if_pos (hiff.mpr hmem)]
      · rw [if_neg hmem, if_neg (mt hiff.mp hmem), List.map_append, List.map_singleton]
    have hmembers : (m'.get? t).getD [] = (m.members t).map idOf := by
      rw [h t, Index.members]
      cases m.get? t <;> rfl
    rw [hmembers, hnew]
    rfl
  · exact h t'

end Sets

/-! ## Objects -/

variable {s s' : State} {f : Sys} {r : Ref} {id : Uuid}

theorem Linked.idOf_eq (hL : Linked s) (hid : s.subscribers.get? id = some r) : s.idOf r = id := by
  obtain ⟨sub, hsub, hsubId⟩ := hL.object id r hid
  rw [State.idOf, hsub, Option.map_some, Option.getD_some, hsubId]

theorem Linked.refOf_idOf (hL : Linked s) (hr : s.Registered r) : s.refOf (s.idOf r) = r := by
  obtain ⟨id, hid⟩ := hr
  rw [hL.idOf_eq hid, State.refOf, hid, Option.getD_some]

theorem Linked.alone (hL : Linked s) (hr : s.Registered r) : Alone s.idOf s.byTopic r := by
  intro t r' hr' hsame
  rw [← hL.refOf_idOf ((hL.mem_iff t r').mp hr').1, hsame, hL.refOf_idOf hr]

theorem idOf_modify (s : State) (r : Ref) {f : Subscriber → Subscriber} (hf : ∀ sub, (f sub).id = sub.id) :
    (s.modify r f).idOf = s.idOf := by
  funext r'
  simp only [State.idOf, State.modify, List.getElem?_modify]
  cases s.created[r']? with
  | none => rfl
  | some sub =>
    show (if r = r' then f sub else sub).id = sub.id
    split_ifs
    · exact hf sub
    · rfl

theorem tenantOf_modify {sub : Subscriber} (h : s.created[r]? = some sub) (f : Subscriber → Subscriber) (r' : Ref) :
    (s.modify r f).tenantOf r' = if r = r' then (f sub).tenantId else s.tenantOf r' := by
  simp only [State.tenantOf, State.modify, List.getElem?_modify]
  split_ifs with hr
  · subst hr
    rw [h]
    rfl
  · simp

theorem tenantOf_eq {sub : Subscriber} (h : s.created[r]? = some sub) : s.tenantOf r = sub.tenantId := by
  rw [State.tenantOf, h]
  rfl

theorem Shows.counted (hS : Shows s f) (g : Stats → Stats) :
    Shows { s with stats := g s.stats } { f with stats := g f.stats } :=
  ⟨hS.byTopic, hS.subscribers, hS.pending, congrArg g hS.stats, hS.owners⟩

/-- One object is changed, and what its id leads to with it. -/
theorem Shows.modify (hL : Linked s) (hS : Shows s f) (hid : s.subscribers.get? id = some r)
    {g : Subscriber → Subscriber} (hg : ∀ sub, (g sub).id = sub.id) {sub : Subscriber} (hsub : s.created[r]? = some sub)
    {m m' : Index} (hm : Shown s.idOf m m') :
    Shows (({ s with byTopic := m } : State).modify r g)
      (({ f with byTopic := m' } : Sys).setSubscriber id ⟨(g sub).topics, (g sub).tenantId⟩) where
  byTopic := by
    rw [idOf_modify _ r hg]
    exact hm
  subscribers id' := by
    show (f.subscribers.set id _).get? id' = (s.subscribers.get? id').map _
    rw [get?_set, hS.subscribers id']
    split_ifs with heq
    · rw [← heq, hid, Option.map_some, State.topicsOf_modify (s := { s with byTopic := m }) hsub,
        tenantOf_modify (s := { s with byTopic := m }) hsub, if_pos rfl, if_pos rfl]
    · refine Option.map_congr fun r' hr' => ?_
      have hne : r ≠ r' := by
        rintro rfl
        exact heq (hL.id_unique hid hr')
      rw [State.topicsOf_modify (s := { s with byTopic := m }) hsub,
        tenantOf_modify (s := { s with byTopic := m }) hsub, if_neg hne, if_neg hne]
      rfl
  pending := hS.pending
  stats := hS.stats
  owners := hS.owners

/-! ## The loops over topics -/

theorem Shows.subscribeOne (hL : Linked s) (hS : Shows s f) (hid : s.subscribers.get? id = some r) (tenantId : Uuid)
    (denied : List Topic) (o : List (Fanout.Obs μ)) (t : Topic) :
    Shows (subscribeOne r tenantId (s, denied) t).1 (Fanout.subscribeOne id tenantId (f, denied, o) t).1 ∧
      (Fanout.subscribeOne id tenantId (f, denied, o) t).2.1 = (subscribeOne r tenantId (s, denied) t).2 ∧
      (Fanout.subscribeOne id tenantId (f, denied, o) t).2.2.filterMap Fanout.Obs.use? =
        o.filterMap Fanout.Obs.use? := by
  obtain ⟨sub, hsub, hsubId⟩ := hL.object id r hid
  have hheld : f.subscribers.get? id = some ⟨sub.topics, sub.tenantId⟩ := by
    rw [hS.subscribers id, hid, Option.map_some, State.topicsOf_eq hsub, tenantOf_eq hsub]
  have hjoin : Shown s.idOf (s.byTopic.join t r) (f.byTopic.join t id) := by
    have hshown := hS.byTopic.join (hL.alone ⟨id, hid⟩) t
    rwa [hL.idOf_eq hid] at hshown
  simp only [Fanout.subscribeOne, Objects.subscribeOne, hheld]
  have howners := hS.owners
  by_cases hmay : maySubscribe s.owners tenantId t = true
  · rw [if_pos hmay, if_pos (by rwa [howners])]
    have hmodify := hS.modify hL hid (g := fun sub => { sub with topics := insertNew t sub.topics }) (fun _ => rfl) hsub
      hjoin
    refine ⟨hmodify, rfl, ?_⟩
    rw [List.filterMap_append]
    exact List.append_nil _
  · rw [if_neg hmay, if_neg (by rwa [howners])]
    exact ⟨hS.counted fun stats => { stats with subscribesDenied := stats.subscribesDenied + 1 }, rfl, rfl⟩

theorem shows_subscribe {s₀ : State} (hid : s₀.subscribers.get? id = some r) (tenantId : Uuid) :
    ∀ (wanted : List Topic) (p : State × List Topic) (q : Sys × List Topic × List (Fanout.Obs μ)), Kept s₀ p.1 →
      Shows p.1 q.1 → q.2.1 = p.2 →
      Shows (wanted.foldl (subscribeOne r tenantId) p).1 (wanted.foldl (Fanout.subscribeOne id tenantId) q).1 ∧
        (wanted.foldl (Fanout.subscribeOne id tenantId) q).2.1 = (wanted.foldl (subscribeOne r tenantId) p).2 ∧
        (wanted.foldl (Fanout.subscribeOne id tenantId) q).2.2.filterMap Fanout.Obs.use? =
          q.2.2.filterMap Fanout.Obs.use?
  | [], _, _, _, hS, hdenied => ⟨hS, hdenied, rfl⟩
  | t :: wanted, (s, denied), (f, _, o), hK, hS, rfl => by
    have hid' : s.subscribers.get? id = some r := by rw [hK.subscribers, hid]
    obtain ⟨hS', hdenied', huse⟩ := hS.subscribeOne hK.linked hid' tenantId denied o t
    obtain ⟨hL, hs, hlen⟩ := hK.linked.subscribeOne ⟨id, hid'⟩ tenantId denied t
    have hkept : Kept s₀ (Objects.subscribeOne r tenantId (s, denied) t).1 :=
      ⟨hL, hs.trans hK.subscribers, hlen.trans hK.length⟩
    have hrest := shows_subscribe hid tenantId wanted _ _ hkept hS' hdenied'
    exact ⟨hrest.1, hrest.2.1, hrest.2.2.trans huse⟩

theorem Shows.unsubscribeOne (hL : Linked s) (hS : Shows s f) (hid : s.subscribers.get? id = some r) (t : Topic) :
    Shows (unsubscribeOne r s t) (Fanout.unsubscribeOne id f t) := by
  obtain ⟨sub, hsub, -⟩ := hL.object id r hid
  have hheld : f.subscribers.get? id = some ⟨sub.topics, sub.tenantId⟩ := by
    rw [hS.subscribers id, hid, Option.map_some, State.topicsOf_eq hsub, tenantOf_eq hsub]
  have hleave : Shown s.idOf (s.byTopic.leave t r) (f.byTopic.leave t id) := by
    have hshown := hS.byTopic.leave (hL.alone ⟨id, hid⟩) t
    rwa [hL.idOf_eq hid] at hshown
  simp only [Fanout.unsubscribeOne, hheld]
  exact hS.modify hL hid (g := fun sub => { sub with topics := sub.topics.filter (· ≠ t) }) (fun _ => rfl) hsub hleave

theorem shows_unsubscribe {s₀ : State} (hid : s₀.subscribers.get? id = some r) :
    ∀ (unwanted : List Topic) (s : State) (f : Sys), Kept s₀ s → Shows s f →
      Shows (unwanted.foldl (unsubscribeOne r) s) (unwanted.foldl (Fanout.unsubscribeOne id) f)
  | [], _, _, _, hS => hS
  | t :: unwanted, s, f, hK, hS => by
    have hid' : s.subscribers.get? id = some r := by rw [hK.subscribers, hid]
    have hL := hK.linked.leave ⟨id, hid'⟩ t
    exact shows_unsubscribe hid unwanted _ _ ⟨hL, hK.subscribers, (List.length_modify ..).trans hK.length⟩
      (hS.unsubscribeOne hK.linked hid' t)

/-! ## Frames -/

/-- From `s` on, the same has been done to the sockets, and nothing else has changed. -/
structure Abreast (s : State) (p : State × List (Obs μ)) (q : Sys × List (Fanout.Obs μ)) : Prop where
  created : p.1.created = s.created
  subscribers : p.1.subscribers = s.subscribers
  byTopic : p.1.byTopic = s.byTopic
  shows : Shows p.1 q.1
  use : q.2.filterMap Fanout.Obs.use? = p.2.filterMap (Obs.use? s)

theorem Abreast.deliverOne {cfg : Config} {t : Topic} {frame : Frame μ} {mustDeliver : Bool} {sockets : Ref → Socket}
    {p : State × List (Obs μ)} {q : Sys × List (Fanout.Obs μ)} (hA : Abreast s p q) (hr : s.refOf (s.idOf r) = r) :
    Abreast s (deliverOne cfg t frame mustDeliver sockets p r)
      (Fanout.deliverOne cfg t frame mustDeliver (fun id => sockets (s.refOf id)) q (s.idOf r)) := by
  obtain ⟨s₁, o⟩ := p
  obtain ⟨f₁, o'⟩ := q
  have hshows := hA.shows
  have huse : ∀ (x : Obs μ) (x' : Fanout.Obs μ), Fanout.Obs.use? x' = x.use? s →
      (o' ++ [x']).filterMap Fanout.Obs.use? = (o ++ [x]).filterMap (Obs.use? s) := by
    intro x x' hx
    have huse : o'.filterMap Fanout.Obs.use? = o.filterMap (Obs.use? s) := hA.use
    simp only [List.filterMap_append, huse, List.filterMap_cons, hx, List.filterMap_nil]
  simp only [Objects.deliverOne, Fanout.deliverOne, hr]
  split_ifs
  · exact ⟨hA.created, hA.subscribers, hA.byTopic,
      hshows.counted fun stats => { stats with backloggedClosed := stats.backloggedClosed + 1 }, huse _ _ rfl⟩
  · exact ⟨hA.created, hA.subscribers, hA.byTopic,
      hshows.counted fun stats => { stats with framesSkipped := stats.framesSkipped + 1 }, hA.use⟩
  · exact ⟨hA.created, hA.subscribers, hA.byTopic,
      hshows.counted fun stats => { stats with framesSent := stats.framesSent + 1 }, huse _ _ rfl⟩
  · exact hA

theorem Abreast.deliver {cfg : Config} {t : Topic} {frame : Frame μ} {mustDeliver : Bool} {sockets : Ref → Socket} :
    ∀ {subs : List Ref} {p : State × List (Obs μ)} {q : Sys × List (Fanout.Obs μ)}, Abreast s p q →
      (∀ r ∈ subs, s.refOf (s.idOf r) = r) →
      Abreast s (deliver cfg t subs frame mustDeliver sockets p)
        (Fanout.deliver cfg t (subs.map s.idOf) frame mustDeliver (fun id => sockets (s.refOf id)) q)
  | [], _, _, hA, _ => hA
  | r :: subs, _, _, hA, hsubs => by
    rw [List.forall_mem_cons] at hsubs
    rw [Objects.deliver, Fanout.deliver, List.map_cons, List.foldl_cons, List.foldl_cons]
    exact Abreast.deliver (hA.deliverOne hsubs.1) hsubs.2

theorem Linked.refOf_members (hL : Linked s) {t : Topic} {subs : List Ref} (hsubs : s.byTopic.get? t = some subs) :
    ∀ r ∈ subs, s.refOf (s.idOf r) = r := fun r hr =>
  hL.refOf_idOf ((hL.mem_iff t r).mp (by rwa [Index.members, hsubs])).1

theorem abreast_send (hL : Linked s) (hS : Shows s f) (cfg : Config) (t : Topic) (message : μ) (mustDeliver : Bool)
    (sockets : Ref → Socket) : Abreast s (s.send cfg t message mustDeliver sockets)
      (f.send cfg t message mustDeliver fun id => sockets (s.refOf id)) := by
  have hstart : Abreast (μ := μ) s (s, []) (f, []) := ⟨rfl, rfl, rfl, hS, rfl⟩
  unfold State.send Sys.send
  rw [hS.byTopic t]
  cases hsubs : s.byTopic.get? t with
  | none => exact hstart
  | some subs => exact hstart.deliver (hL.refOf_members hsubs)

theorem Abreast.tickOne (hL : Linked s) {cfg : Config} {now : ℤ} {sockets : Topic → Ref → Socket}
    {p : State × List (Obs μ)} {q : Sys × List (Fanout.Obs μ)} (hA : Abreast s p q) (batch : Topic × List Reading) :
    Abreast s (tickOne cfg now sockets p batch)
      (Fanout.tickOne cfg now (fun topic id => sockets topic (s.refOf id)) q batch) := by
  have hsets : q.1.byTopic.get? batch.1 = (s.byTopic.get? batch.1).map (List.map s.idOf) := by
    have hidOf : p.1.idOf = s.idOf := by
      funext r
      rw [State.idOf, hA.created, State.idOf]
    rw [hA.shows.byTopic batch.1, hA.byTopic, hidOf]
  unfold Objects.tickOne Fanout.tickOne
  rw [hsets, hA.byTopic]
  cases hsubs : s.byTopic.get? batch.1 with
  | none => exact hA
  | some subs =>
    have hB : Abreast s
        (Objects.deliver cfg batch.1 subs (.batch batch.1 batch.2 now) false (sockets batch.1) p)
        (Fanout.deliver cfg batch.1 (subs.map s.idOf) (.batch batch.1 batch.2 now) false
          (fun id => sockets batch.1 (s.refOf id)) q) := hA.deliver (hL.refOf_members hsubs)
    simp only [Option.map_some, List.length_map]
    exact ⟨hB.created, hB.subscribers, hB.byTopic, hB.shows.counted fun stats =>
      { stats with readingsSent := stats.readingsSent + batch.2.length * subs.length }, hB.use⟩

theorem abreast_tick (hL : Linked s) (hS : Shows s f) (cfg : Config) (now : ℤ) (sockets : Topic → Ref → Socket) :
    ∃ q : Sys × List (Fanout.Obs μ), f.tick cfg now (fun topic id => sockets topic (s.refOf id)) = q ∧
      Shows (s.tick cfg now sockets : State × List (Obs μ)).1 q.1 ∧
      q.2.filterMap Fanout.Obs.use? = (s.tick cfg now sockets).2.filterMap (Obs.use? s) := by
  have hstart : Abreast (μ := μ) s ({ s with pending := .empty }, []) ({ f with pending := .empty }, []) :=
    ⟨rfl, rfl, rfl, ⟨hS.byTopic, hS.subscribers, rfl, hS.stats, hS.owners⟩, rfl⟩
  have hA : Abreast s (s.tick cfg now sockets)
      (s.pending.entries.foldl (Fanout.tickOne cfg now fun topic id => sockets topic (s.refOf id))
        ({ f with pending := .empty }, [])) :=
    s.pending.entries.foldl_rel (r := Abreast s) hstart fun batch _ p q hA => hA.tickOne hL batch
  refine ⟨_, rfl, ?_⟩
  unfold Sys.tick State.tick
  rw [hS.pending]
  exact ⟨hA.shows, hA.use⟩

/-! ## Every step -/

theorem Shows.add (hL : Linked s) (hS : Shows s f) (id : Uuid) : Shows (s.add id) (f.add id) := by
  have hold : ∀ r, s.Registered r → (s.add id).created[r]? = s.created[r]? := fun r hr => by
    rw [State.add, List.getElem?_append_left (hL.lt_length hr)]
  have hidOf : ∀ r, s.Registered r → (s.add id).idOf r = s.idOf r := fun r hr => by
    rw [State.idOf, hold r hr, State.idOf]
  refine ⟨fun t => ?_, fun id' => ?_, hS.pending, hS.stats, hS.owners⟩
  · show f.byTopic.get? t = (s.byTopic.get? t).map _
    rw [hS.byTopic t]
    refine Option.map_congr fun subs hsubs => List.map_congr_left fun r hr => (hidOf r ?_).symm
    exact ((hL.mem_iff t r).mp (by rwa [Index.members, hsubs])).1
  · show (f.subscribers.set id _).get? id' = ((s.subscribers.set id _).get? id').map _
    rw [get?_set, get?_set, hS.subscribers id']
    split_ifs
    · simp [State.topicsOf, State.tenantOf, State.add]
    · refine Option.map_congr fun r hr => ?_
      rw [State.topicsOf, State.topicsOf, State.tenantOf, State.tenantOf, hold r ⟨id', hr⟩]

theorem Shows.remove (hL : Linked s) (hS : Shows s f) (hid : s.subscribers.get? id = some r) :
    Shows (s.remove id : State × List (Obs μ)).1 (f.remove id) := by
  have hheld : f.subscribers.get? id = some ⟨s.topicsOf r, s.tenantOf r⟩ := by
    rw [hS.subscribers id, hid, Option.map_some]
  have hleave : Shown s.idOf ((s.topicsOf r).foldl (fun m t => m.leave t r) s.byTopic)
      ((s.topicsOf r).foldl (fun m t => m.leave t id) f.byTopic) := by
    have hshown : Shown s.idOf ((s.topicsOf r).foldl (fun m t => m.leave t r) s.byTopic)
        ((s.topicsOf r).foldl (fun m t => m.leave t (s.idOf r)) f.byTopic) :=
      hS.byTopic.foldl_leave (hL.alone ⟨id, hid⟩)
    rwa [hL.idOf_eq hid] at hshown
  simp only [State.remove, hid, Sys.remove, hheld]
  refine ⟨hleave, fun id' => ?_, hS.pending, hS.stats, hS.owners⟩
  show (f.subscribers.erase id).get? id' = ((s.subscribers.erase id).get? id').map _
  rw [get?_erase, get?_erase, hS.subscribers id']
  split_ifs
  · rfl
  · rfl

theorem Shows.authenticate (hL : Linked s) (hS : Shows s f) (id tenantId : Uuid) :
    Shows (s.authenticate id tenantId) (f.authenticate id tenantId) := by
  unfold State.authenticate Sys.authenticate
  rw [hS.subscribers id]
  cases hid : s.subscribers.get? id with
  | none => exact hS
  | some r =>
    obtain ⟨sub, hsub, -⟩ := hL.object id r hid
    have hmodify := hS.modify hL hid (g := fun sub => { sub with tenantId := some tenantId }) (fun _ => rfl) hsub
      hS.byTopic
    rw [Option.map_some, State.topicsOf_eq hsub]
    exact hmodify

theorem Shows.publish (hS : Shows s f) (sensor : Rules.RegisteredSensor) (reading : Reading) :
    Shows (s.publish sensor reading) (f.publish sensor reading) := by
  refine ⟨hS.byTopic, hS.subscribers, ?_, hS.stats, hS.owners⟩
  unfold State.publish Sys.publish
  simp only [hS.byTopic.isSome, hS.pending]

/-- **One step of the objects is one by ids.** -/
theorem Shows.step {cfg : Config} {a : Act μ} {o : List (Obs μ)} (hL : Linked s) (hS : Shows s f)
    (hs : step cfg s a = some (s', o)) : ∃ f' o', Fanout.step cfg f (a.byId s) = some (f', o') ∧ Shows s' f' ∧
      o'.filterMap Fanout.Obs.use? = o.filterMap (Obs.use? s) := by
  cases a with
  | add id =>
    simp only [Objects.step] at hs
    split_ifs at hs with hnew
    cases hs
    have hnew' : ¬ (f.subscribers.get? id).isSome = true := by rwa [hS.subscribers id, Option.isSome_map]
    exact ⟨f.add id, [], if_neg hnew', hS.add hL id, rfl⟩
  | authenticate id tenantId =>
    cases hs
    exact ⟨_, _, rfl, hS.authenticate hL id tenantId, rfl⟩
  | remove id =>
    refine ⟨_, _, rfl, ?_, ?_⟩
    · cases hid : s.subscribers.get? id with
      | none =>
        have hnone : f.subscribers.get? id = none := by rw [hS.subscribers id, hid, Option.map_none]
        simp only [Objects.step, State.remove, hid] at hs
        cases hs
        simp only [Sys.remove, hnone]
        exact hS
      | some r =>
        have hremove := hS.remove (μ := μ) hL hid
        rwa [Option.some.inj hs] at hremove
    · simp only [Objects.step, State.remove] at hs
      split at hs
      · cases hs
        rfl
      · cases hs
        rfl
  | subscribe id wanted =>
    cases hid : s.subscribers.get? id with
    | none =>
      have hnone : f.subscribers.get? id = none := by rw [hS.subscribers id, hid, Option.map_none]
      simp only [Objects.step, State.subscribe, hid] at hs
      cases hs
      refine ⟨f, [.subscribed id [] []], ?_, hS, rfl⟩
      simp only [Act.byId, Fanout.step, Sys.subscribe, hnone]
    | some r =>
      have hheld : f.subscribers.get? id = some ⟨s.topicsOf r, s.tenantOf r⟩ := by
        rw [hS.subscribers id, hid, Option.map_some]
      simp only [Objects.step, State.subscribe, hid] at hs
      simp only [Act.byId, Fanout.step, Sys.subscribe, hheld]
      cases htenant : s.tenantOf r with
      | none =>
        simp only [htenant] at hs
        cases hs
        exact ⟨f, _, rfl, hS, rfl⟩
      | some tenantId =>
        simp only [htenant] at hs
        cases hs
        obtain ⟨hS', -, huse⟩ := shows_subscribe hid tenantId wanted (s, []) (f, [], []) hL.kept hS rfl
        refine ⟨_, _, rfl, hS', ?_⟩
        rw [List.filterMap_append, huse]
        rfl
  | unsubscribe id unwanted =>
    cases hid : s.subscribers.get? id with
    | none =>
      have hnone : f.subscribers.get? id = none := by rw [hS.subscribers id, hid, Option.map_none]
      simp only [Objects.step, State.unsubscribe, hid] at hs
      cases hs
      refine ⟨f, [.subscribed id [] []], ?_, hS, rfl⟩
      simp only [Act.byId, Fanout.step, Sys.unsubscribe, hnone]
    | some r =>
      have hheld : f.subscribers.get? id = some ⟨s.topicsOf r, s.tenantOf r⟩ := by
        rw [hS.subscribers id, hid, Option.map_some]
      simp only [Objects.step, State.unsubscribe, hid] at hs
      cases hs
      simp only [Act.byId, Fanout.step, Sys.unsubscribe, hheld]
      exact ⟨_, _, rfl, shows_unsubscribe hid unwanted s f hL.kept hS, rfl⟩
  | publish sensor reading =>
    cases hs
    exact ⟨_, _, rfl, hS.publish sensor reading, rfl⟩
  | send topic message mustDeliver sockets =>
    have hA := abreast_send hL hS cfg topic message mustDeliver sockets
    rw [Option.some.inj hs] at hA
    exact ⟨_, _, rfl, hA.shows, hA.use⟩
  | tick now sockets =>
    obtain ⟨q, hq, hS', huse⟩ := abreast_tick (μ := μ) hL hS cfg now sockets
    rw [Option.some.inj hs] at hS' huse
    exact ⟨q.1, q.2, congrArg some hq, hS', huse⟩
  | refresh owners =>
    cases hs
    exact ⟨_, _, rfl, ⟨hS.byTopic, hS.subscribers, hS.pending, hS.stats, rfl⟩, rfl⟩

/-! ## Every run -/

def State.ids (s : State) : List Uuid := s.created.map Subscriber.id

theorem ids_modify (s : State) (r : Ref) {f : Subscriber → Subscriber} (hf : ∀ sub, (f sub).id = sub.id) :
    (s.modify r f).ids = s.ids := by
  refine List.ext_getElem? fun r' => ?_
  simp only [State.ids, State.modify, List.getElem?_map, List.getElem?_modify]
  cases s.created[r']? with
  | none => rfl
  | some sub =>
    show some (if r = r' then f sub else sub).id = some sub.id
    split_ifs
    · rw [hf sub]
    · rfl

theorem prefix_of_ids (h : s'.ids = s.ids) : s.ids <+: s'.ids := ⟨[], by rw [List.append_nil, h]⟩

/-- Objects keep their ids, and their places. -/
theorem ids_step {cfg : Config} {a : Act μ} {o : List (Obs μ)} (hs : step cfg s a = some (s', o)) :
    s.ids <+: s'.ids := by
  cases a with
  | add id =>
    simp only [Objects.step] at hs
    split_ifs at hs
    cases hs
    exact ⟨[id], by simp [State.ids, State.add]⟩
  | authenticate id tenantId =>
    cases hs
    unfold State.authenticate
    split
    · exact List.prefix_rfl
    · exact prefix_of_ids (ids_modify s _ (f := fun sub => { sub with tenantId := some tenantId }) fun _ => rfl)
  | remove id =>
    simp only [Objects.step, State.remove] at hs
    split at hs
    · cases hs
      exact List.prefix_rfl
    · cases hs
      exact List.prefix_rfl
  | subscribe id wanted =>
    simp only [Objects.step, State.subscribe] at hs
    split at hs
    · cases hs
      exact List.prefix_rfl
    · split at hs
      · cases hs
        exact List.prefix_rfl
      next tenantId _ =>
        cases hs
        refine prefix_of_ids (wanted.foldlRecOn (motive := fun p : State × List Topic => p.1.ids = s.ids) _ rfl ?_)
        intro p hp t _
        simp only [Objects.subscribeOne]
        split_ifs
        · refine (ids_modify _ _ ?_).trans hp
          exact fun _ => rfl
        · exact hp
  | unsubscribe id unwanted =>
    simp only [Objects.step, State.unsubscribe] at hs
    split at hs
    · cases hs
      exact List.prefix_rfl
    next r _ =>
      cases hs
      refine prefix_of_ids (unwanted.foldlRecOn (motive := fun s₁ : State => s₁.ids = s.ids) _ rfl ?_)
      intro s₁ hs₁ t _
      refine (ids_modify { s₁ with byTopic := s₁.byTopic.leave t r } r ?_).trans hs₁
      exact fun _ => rfl
  | publish sensor reading =>
    cases hs
    exact List.prefix_rfl
  | send topic message mustDeliver sockets =>
    have hD := delivery_send s cfg topic message mustDeliver sockets
    rw [Option.some.inj hs] at hD
    exact prefix_of_ids (congrArg (List.map Subscriber.id) hD.created)
  | tick now sockets =>
    have hD := delivery_tick (μ := μ) s cfg now sockets
    rw [Option.some.inj hs] at hD
    exact prefix_of_ids (congrArg (List.map Subscriber.id) hD.created)
  | refresh owners =>
    cases hs
    exact List.prefix_rfl

theorem idOf_of_prefix (h : s.ids <+: s'.ids) (hr : r < s.created.length) : s'.idOf r = s.idOf r := by
  have hlt : r < s.ids.length := by rwa [State.ids, List.length_map]
  have hget : s'.ids[r]? = s.ids[r]? := by
    obtain ⟨new, hnew⟩ := h
    rw [← hnew, List.getElem?_append_left hlt]
  have hids : ∀ s : State, s.idOf r = s.ids[r]?.getD 0 := fun s => by rw [State.idOf, State.ids, List.getElem?_map]
  rw [hids, hids, hget]

/-- A run by ids that shows the objects, the sockets having been used alike. -/
structure Followed (cfg : Config) (owners : Owners) (s : State) (h : List (Obs μ)) : Prop where
  silent : Silent s h
  used : ∀ x ∈ h, ∀ r, x.socket = some r → r < s.created.length
  byId : ∃ f h', (streaming μ cfg).Reaches (.init owners) f h' ∧ Shows s f ∧
    h'.filterMap Fanout.Obs.use? = h.filterMap (Obs.use? s)

theorem use?_congr (h : s.ids <+: s'.ids) {x : Obs μ} (hx : ∀ r, x.socket = some r → r < s.created.length) :
    x.use? s' = x.use? s := by
  cases x with
  | sent r topic frame => simp only [Obs.use?, idOf_of_prefix h (hx r rfl)]
  | closed r => simp only [Obs.use?, idOf_of_prefix h (hx r rfl)]
  | _ => rfl

theorem Followed.step {cfg : Config} {owners : Owners} {a : Act μ} {h o : List (Obs μ)} (hF : Followed cfg owners s h)
    (hs : step cfg s a = some (s', o)) : Followed cfg owners s' (h ++ o) := by
  have hids := ids_step hs
  have hstep := hF.silent.linked.step hs
  have hnew : ∀ x ∈ o, ∀ r, x.socket = some r → r < s.created.length := fun x hx r hr =>
    hF.silent.linked.lt_length (hstep.socket x hx r hr).1
  refine ⟨hF.silent.step hs, fun x hx r hr => ?_, ?_⟩
  · refine Nat.lt_of_lt_of_le ?_ hstep.length_le
    exact (List.mem_append.mp hx).elim (fun hold => hF.used x hold r hr) fun hnow => hnew x hnow r hr
  · obtain ⟨f, h', hreach, hS, huse⟩ := hF.byId
    obtain ⟨f', o', hs', hS', huse'⟩ := hS.step hF.silent.linked hs
    refine ⟨f', h' ++ o', hreach.step hs', hS', ?_⟩
    rw [List.filterMap_append, List.filterMap_append, huse, huse']
    have hcongr : ∀ l : List (Obs μ), (∀ x ∈ l, ∀ r, x.socket = some r → r < s.created.length) →
        l.filterMap (Obs.use? s') = l.filterMap (Obs.use? s) := fun l hl =>
      List.filterMap_congr fun x hx => use?_congr hids (hl x hx)
    rw [hcongr h hF.used, hcongr o hnew]

/-- **The objects refine the ids.**  Whatever run the objects take, there is one by ids in which the same subscribers
are in the same topics for the same tenants, and the same has been done to their sockets. -/
theorem shown_of_reaches {cfg : Config} {owners : Owners} {h : List (Obs μ)}
    (hr : (subscriptions μ cfg).Reaches (.init owners) s h) :
    ∃ f h', (streaming μ cfg).Reaches (.init owners) f h' ∧ Shows s f ∧
      h'.filterMap Fanout.Obs.use? = h.filterMap (Obs.use? s) := by
  have hstart : Followed (μ := μ) cfg owners (.init owners) [] :=
    ⟨silent_init owners, nofun, _, [], .refl _, ⟨fun _ => rfl, fun _ => rfl, rfl, rfl, rfl⟩, rfl⟩
  exact (hr.hist (fun hF hs => hF.step hs) hstart).byId

end Objects

end DTwin.Fanout
