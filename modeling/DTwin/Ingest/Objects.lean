import DTwin.Ingest.Fanout

/-!
# DTwin.Ingest.Objects — the subscribers as objects

`apps/ingest/src/fanout.ts`.  A call names a subscriber by its id, but the sets of `#byTopic` hold the `Subscriber`
objects, and an object that is forgotten in one would be written to for ever, whoever has its id by then.  Here an
object is known by its place among those created, `#subscribers` leads from ids to objects, and an id may be added
again when the subscriber that had it is removed.  Each connection has a socket of its own, so that writing to a
socket is writing to that of an object.
-/

namespace DTwin.Fanout.Objects

open OrderedMap

/-- A `Subscriber` object: its place among those created. -/
abbrev Ref := ℕ

structure Subscriber where
  id : Uuid
  topics : List Topic
  tenantId : Option Uuid

structure State where
  created : List Subscriber
  /-- The sets of subscribers, by topic. -/
  byTopic : Index
  subscribers : OrderedMap Uuid Ref
  pending : OrderedMap Topic (List Reading)
  stats : Stats
  owners : Owners

variable {μ : Type}

inductive Obs (μ : Type)
  | subscribed (id : Uuid) (topics denied : List Topic)
  /-- `remove` has found this subscriber -/
  | removed (r : Ref)
  /-- written to the socket of this subscriber -/
  | sent (r : Ref) (topic : Topic) (frame : Frame μ)
  /-- the socket of this subscriber closed -/
  | closed (r : Ref)

/-- The subscriber whose socket is used. -/
def Obs.socket : Obs μ → Option Ref
  | .sent r _ _ => some r
  | .closed r => some r
  | _ => none

inductive Act (μ : Type)
  | add (id : Uuid)
  | authenticate (id tenantId : Uuid)
  | remove (id : Uuid)
  | subscribe (id : Uuid) (wanted : List Topic)
  | unsubscribe (id : Uuid) (unwanted : List Topic)
  | publish (sensor : Rules.RegisteredSensor) (reading : Reading)
  | send (topic : Topic) (message : μ) (mustDeliver : Bool) (sockets : Ref → Socket)
  | tick (now : ℤ) (sockets : Topic → Ref → Socket)
  | refresh (owners : Owners)

def State.topicsOf (s : State) (r : Ref) : List Topic := ((s.created[r]?).map (·.topics)).getD []

def State.tenantOf (s : State) (r : Ref) : Option Uuid := (s.created[r]?).bind (·.tenantId)

def State.modify (s : State) (r : Ref) (f : Subscriber → Subscriber) : State :=
  { s with created := s.created.modify r f }

/-- A new object, with no topics and no tenant. -/
def State.add (s : State) (id : Uuid) : State :=
  { s with
    created := s.created ++ [⟨id, [], none⟩]
    subscribers := s.subscribers.set id s.created.length }

def State.authenticate (s : State) (id tenantId : Uuid) : State :=
  match s.subscribers.get? id with
  | none => s
  | some r => s.modify r fun sub => { sub with tenantId := some tenantId }

/-- The object keeps its topics. -/
def State.remove (s : State) (id : Uuid) : State × List (Obs μ) :=
  match s.subscribers.get? id with
  | none => (s, [])
  | some r =>
    ({ s with
      byTopic := (s.topicsOf r).foldl (fun m t => m.leave t r) s.byTopic
      subscribers := s.subscribers.erase id }, [.removed r])

/-- One topic of `subscribe`: the state and the topics denied so far. -/
def subscribeOne (r : Ref) (tenantId : Uuid) (p : State × List Topic) (t : Topic) : State × List Topic :=
  let (s, denied) := p
  if maySubscribe s.owners tenantId t then
    (({ s with byTopic := s.byTopic.join t r } : State).modify r fun sub =>
      { sub with topics := insertNew t sub.topics }, denied)
  else ({ s with stats := { s.stats with subscribesDenied := s.stats.subscribesDenied + 1 } }, denied ++ [t])

def State.subscribe (s : State) (id : Uuid) (wanted : List Topic) : State × List (Obs μ) :=
  match s.subscribers.get? id with
  | none => (s, [.subscribed id [] []])
  | some r =>
    match s.tenantOf r with
    | none => (s, [.subscribed id (s.topicsOf r) wanted])
    | some tenantId =>
      let (s', denied) := wanted.foldl (subscribeOne r tenantId) (s, [])
      (s', [.subscribed id (s'.topicsOf r) denied])

def unsubscribeOne (r : Ref) (s : State) (t : Topic) : State :=
  ({ s with byTopic := s.byTopic.leave t r } : State).modify r fun sub =>
    { sub with topics := sub.topics.filter (· ≠ t) }

def State.unsubscribe (s : State) (id : Uuid) (unwanted : List Topic) : State × List (Obs μ) :=
  match s.subscribers.get? id with
  | none => (s, [.subscribed id [] []])
  | some r =>
    let s' := unwanted.foldl (unsubscribeOne r) s
    (s', [.subscribed id (s'.topicsOf r) []])

/-- Queue a reading for the topics it belongs to that have a subscriber. -/
def State.publish (s : State) (sensor : Rules.RegisteredSensor) (reading : Reading) : State :=
  { s with
    pending := (topicsFor sensor).foldl (fun m t =>
      if (s.byTopic.get? t).isSome then m.set t ((m.get? t).getD [] ++ [reading]) else m) s.pending }

/-- One subscriber of `#deliver`. -/
def deliverOne (cfg : Config) (topic : Topic) (frame : Frame μ) (mustDeliver : Bool) (sockets : Ref → Socket)
    (p : State × List (Obs μ)) (r : Ref) : State × List (Obs μ) :=
  let (s, o) := p
  if ¬ (sockets r).isOpen then p
  else if cfg.clientBufferMaxBytes < (sockets r).bufferedAmount then
    if mustDeliver then
      ({ s with stats := { s.stats with backloggedClosed := s.stats.backloggedClosed + 1 } }, o ++ [.closed r])
    else ({ s with stats := { s.stats with framesSkipped := s.stats.framesSkipped + 1 } }, o)
  else ({ s with stats := { s.stats with framesSent := s.stats.framesSent + 1 } }, o ++ [.sent r topic frame])

def deliver (cfg : Config) (topic : Topic) (subs : List Ref) (frame : Frame μ) (mustDeliver : Bool)
    (sockets : Ref → Socket) (p : State × List (Obs μ)) : State × List (Obs μ) :=
  subs.foldl (deliverOne cfg topic frame mustDeliver sockets) p

/-- Send a non-telemetry message immediately. -/
def State.send (s : State) (cfg : Config) (topic : Topic) (message : μ) (mustDeliver : Bool)
    (sockets : Ref → Socket) : State × List (Obs μ) :=
  match s.byTopic.get? topic with
  | none => (s, [])
  | some subs => deliver cfg topic subs (.message message) mustDeliver sockets (s, [])

/-- One topic of `tick`; the last subscriber may have left mid-window. -/
def tickOne (cfg : Config) (now : ℤ) (sockets : Topic → Ref → Socket) (p : State × List (Obs μ))
    (batch : Topic × List Reading) : State × List (Obs μ) :=
  match p.1.byTopic.get? batch.1 with
  | none => p
  | some subs =>
    let (s, o) := deliver cfg batch.1 subs (.batch batch.1 batch.2 now) false (sockets batch.1) p
    ({ s with stats := { s.stats with readingsSent := s.stats.readingsSent + batch.2.length * subs.length } }, o)

def State.tick (s : State) (cfg : Config) (now : ℤ) (sockets : Topic → Ref → Socket) : State × List (Obs μ) :=
  s.pending.entries.foldl (tickOne cfg now sockets) ({ s with pending := .empty }, [])

def step (cfg : Config) (s : State) : Act μ → Option (State × List (Obs μ))
  | .add id => if (s.subscribers.get? id).isSome then none else some (s.add id, [])
  | .authenticate id tenantId => some (s.authenticate id tenantId, [])
  | .remove id => some (s.remove id)
  | .subscribe id wanted => some (s.subscribe id wanted)
  | .unsubscribe id unwanted => some (s.unsubscribe id unwanted)
  | .publish sensor reading => some (s.publish sensor reading, [])
  | .send topic message mustDeliver sockets => some (s.send cfg topic message mustDeliver sockets)
  | .tick now sockets => some (s.tick cfg now sockets)
  | .refresh owners => some ({ s with owners := owners }, [])

def subscriptions (μ : Type) (cfg : Config) : Machine State (Act μ) (Obs μ) := ⟨step cfg⟩

def State.init (owners : Owners) : State := ⟨[], .empty, .empty, .empty, ⟨0, 0, 0, 0, 0⟩, owners⟩

/-! ## The two records of who is in which topic -/

/-- The object is one that an id leads to. -/
def State.Registered (s : State) (r : Ref) : Prop := ∃ id, s.subscribers.get? id = some r

theorem State.topicsOf_eq {s : State} {r : Ref} {sub : Subscriber} (h : s.created[r]? = some sub) :
    s.topicsOf r = sub.topics := by
  rw [State.topicsOf, h]
  rfl

/-- The topics of an object that is changed, and of the others. -/
theorem State.topicsOf_modify {s : State} {r : Ref} {sub : Subscriber} (h : s.created[r]? = some sub)
    (f : Subscriber → Subscriber) (r' : Ref) :
    (s.modify r f).topicsOf r' = if r = r' then (f sub).topics else s.topicsOf r' := by
  simp only [State.topicsOf, State.modify, List.getElem?_modify]
  split_ifs with hr
  · subst hr
    rw [h]
    rfl
  · simp

theorem State.created_modify {s : State} (r r' : Ref) (f : Subscriber → Subscriber) {sub : Subscriber}
    (h : s.created[r']? = some sub) : (s.modify r f).created[r']? = some (if r = r' then f sub else sub) := by
  simp only [State.modify, List.getElem?_modify, h]
  split_ifs <;> rfl

/-- A subscriber is in the set of a topic exactly when it is registered and has the topic; and no set is empty. -/
structure Linked (s : State) : Prop where
  object : ∀ id r, s.subscribers.get? id = some r → ∃ sub, s.created[r]? = some sub ∧ sub.id = id
  mem_iff : ∀ t r, r ∈ s.byTopic.members t ↔ s.Registered r ∧ t ∈ s.topicsOf r
  full : s.byTopic.Full

theorem Linked.lt_length {s : State} (hL : Linked s) {r : Ref} (hr : s.Registered r) : r < s.created.length := by
  obtain ⟨id, hid⟩ := hr
  obtain ⟨sub, hsub, -⟩ := hL.object id r hid
  exact (List.getElem?_eq_some_iff.mp hsub).1

/-- Two ids do not lead to one object. -/
theorem Linked.id_unique {s : State} (hL : Linked s) {id id' : Uuid} {r : Ref} (hid : s.subscribers.get? id = some r)
    (hid' : s.subscribers.get? id' = some r) : id = id' := by
  obtain ⟨sub, hsub, hsubId⟩ := hL.object id r hid
  obtain ⟨sub', hsub', hsubId'⟩ := hL.object id' r hid'
  rw [hsub] at hsub'
  rw [← hsubId, ← hsubId', Option.some.inj hsub']

/-- Objects have kept their ids and topics, and ids lead where they did. -/
theorem Linked.congr {s s' : State} (hL : Linked s) (hb : s'.byTopic = s.byTopic)
    (hs : s'.subscribers = s.subscribers)
    (hc : ∀ (r : Ref) sub, s.created[r]? = some sub →
      ∃ sub', s'.created[r]? = some sub' ∧ sub'.id = sub.id ∧ sub'.topics = sub.topics) : Linked s' where
  object id r hid := by
    rw [hs] at hid
    obtain ⟨sub, hsub, hsubId⟩ := hL.object id r hid
    obtain ⟨sub', hsub', hid', -⟩ := hc r sub hsub
    exact ⟨sub', hsub', hid'.trans hsubId⟩
  mem_iff t r := by
    have hreg : s'.Registered r ↔ s.Registered r := by rw [State.Registered, State.Registered, hs]
    rw [hb, hL.mem_iff, hreg]
    refine and_congr_right fun hr => ?_
    obtain ⟨id, hid⟩ := hr
    obtain ⟨sub, hsub, -⟩ := hL.object id r hid
    obtain ⟨sub', hsub', -, htopics⟩ := hc r sub hsub
    rw [State.topicsOf_eq hsub, State.topicsOf_eq hsub', htopics]
  full := by rw [hb]; exact hL.full

/-! ## What the operations do to it -/

theorem Linked.add {s : State} (hL : Linked s) {id : Uuid} (hnew : s.subscribers.get? id = none) :
    Linked (s.add id) where
  object id' r hid' := by
    simp only [State.add, get?_set] at hid'
    split_ifs at hid' with heq
    · obtain rfl := Option.some.inj hid'
      exact ⟨⟨id, [], none⟩, by simp [State.add], heq⟩
    · obtain ⟨sub, hsub, hsubId⟩ := hL.object id' r hid'
      refine ⟨sub, ?_, hsubId⟩
      rw [State.add, List.getElem?_append_left (List.getElem?_eq_some_iff.mp hsub).1, hsub]
  mem_iff t r := by
    show r ∈ s.byTopic.members t ↔ _
    rw [hL.mem_iff]
    by_cases hr : r = s.created.length
    · -- the new object has no topics, and no id has led to its place
      subst hr
      have hempty : (s.add id).topicsOf s.created.length = [] := by simp [State.topicsOf, State.add]
      have hnot : ¬ s.Registered s.created.length := fun h => Nat.lt_irrefl _ (hL.lt_length h)
      simp [hempty, hnot]
    · have hreg : (s.add id).Registered r ↔ s.Registered r := by
        simp only [State.Registered, State.add, get?_set]
        constructor
        · rintro ⟨id', hid'⟩
          split_ifs at hid'
          · exact absurd (Option.some.inj hid').symm hr
          · exact ⟨id', hid'⟩
        · rintro ⟨id', hid'⟩
          have hne : id ≠ id' := by
            rintro rfl
            rw [hnew] at hid'
            cases hid'
          exact ⟨id', by rw [if_neg hne]; exact hid'⟩
      rw [hreg]
      refine and_congr_right fun h => ?_
      rw [State.topicsOf, State.topicsOf, State.add, List.getElem?_append_left (hL.lt_length h)]
  full := hL.full

theorem Linked.modify {s : State} (hL : Linked s) (r : Ref) {f : Subscriber → Subscriber}
    (hf : ∀ sub, (f sub).id = sub.id ∧ (f sub).topics = sub.topics) : Linked (s.modify r f) := by
  refine hL.congr rfl rfl fun r' sub hsub => ⟨_, State.created_modify r r' f hsub, ?_⟩
  split_ifs
  · exact hf sub
  · exact ⟨rfl, rfl⟩

theorem Linked.authenticate {s : State} (hL : Linked s) (id tenantId : Uuid) : Linked (s.authenticate id tenantId) := by
  unfold State.authenticate
  split
  · exact hL
  next r hr => exact hL.modify r fun _ => ⟨rfl, rfl⟩

theorem Linked.remove {s : State} (hL : Linked s) {id : Uuid} {r : Ref} (hr : s.subscribers.get? id = some r) :
    (∀ r', (s.remove id : State × List (Obs μ)).1.Registered r' ↔ s.Registered r' ∧ r' ≠ r) ∧
      Linked (s.remove id : State × List (Obs μ)).1 := by
  simp only [State.remove, hr]
  have hreg : ∀ r', (∃ id', (s.subscribers.erase id).get? id' = some r') ↔ s.Registered r' ∧ r' ≠ r := by
    intro r'
    constructor
    · rintro ⟨id', hid'⟩
      rw [get?_erase] at hid'
      split_ifs at hid' with hne
      refine ⟨⟨id', hid'⟩, ?_⟩
      rintro rfl
      exact hne (hL.id_unique hr hid')
    · rintro ⟨⟨id', hid'⟩, hne⟩
      refine ⟨id', ?_⟩
      rw [get?_erase, if_neg, hid']
      rintro rfl
      rw [hr] at hid'
      exact hne (Option.some.inj hid').symm
  refine ⟨hreg, fun id' r' hid' => ?_, fun t r' => ?_, Index.full_foldl_leave r _ hL.full⟩
  · simp only [get?_erase] at hid'
    split_ifs at hid'
    exact hL.object id' r' hid'
  · show r' ∈ ((s.topicsOf r).foldl (fun m t => m.leave t r) s.byTopic).members t ↔ _
    rw [Index.mem_foldl_leave, hL.mem_iff]
    show _ ↔ (∃ id', (s.subscribers.erase id).get? id' = some r') ∧ t ∈ s.topicsOf r'
    rw [hreg r']
    constructor
    · rintro ⟨⟨hr', ht⟩, hnot⟩
      refine ⟨⟨hr', ?_⟩, ht⟩
      rintro rfl
      exact hnot ⟨ht, rfl⟩
    · rintro ⟨⟨hr', hne⟩, ht⟩
      exact ⟨⟨hr', ht⟩, fun h => hne h.2⟩

theorem Linked.join {s : State} (hL : Linked s) {r : Ref} (hr : s.Registered r) (t : Topic) :
    Linked (({ s with byTopic := s.byTopic.join t r } : State).modify r fun sub =>
      { sub with topics := insertNew t sub.topics }) := by
  obtain ⟨id, hid⟩ := hr
  obtain ⟨sub, hsub, hsubId⟩ := hL.object id r hid
  refine ⟨fun id' r' hid' => ?_, fun t' r' => ?_, Index.full_join hL.full t r⟩
  · obtain ⟨sub', hsub', hsubId'⟩ := hL.object id' r' hid'
    refine ⟨_, State.created_modify (s := { s with byTopic := s.byTopic.join t r }) r r' _ hsub', ?_⟩
    split_ifs <;> exact hsubId'
  · rw [State.topicsOf_modify (s := { s with byTopic := s.byTopic.join t r }) hsub]
    show r' ∈ (s.byTopic.join t r).members t' ↔ s.Registered r' ∧
      t' ∈ if r = r' then insertNew t sub.topics else s.topicsOf r'
    rw [Index.mem_join, hL.mem_iff]
    split_ifs with hr'
    · subst hr'
      have hreg : s.Registered r := ⟨id, hid⟩
      simp [mem_insertNew, State.topicsOf_eq hsub, hreg]
    · have hne : r' ≠ r := fun h => hr' h.symm
      simp [hne]

theorem Linked.leave {s : State} (hL : Linked s) {r : Ref} (hr : s.Registered r) (t : Topic) :
    Linked (unsubscribeOne r s t) := by
  obtain ⟨id, hid⟩ := hr
  obtain ⟨sub, hsub, hsubId⟩ := hL.object id r hid
  refine ⟨fun id' r' hid' => ?_, fun t' r' => ?_, Index.full_leave hL.full t r⟩
  · obtain ⟨sub', hsub', hsubId'⟩ := hL.object id' r' hid'
    refine ⟨_, State.created_modify (s := { s with byTopic := s.byTopic.leave t r }) r r' _ hsub', ?_⟩
    split_ifs <;> exact hsubId'
  · rw [unsubscribeOne, State.topicsOf_modify (s := { s with byTopic := s.byTopic.leave t r }) hsub]
    show r' ∈ (s.byTopic.leave t r).members t' ↔
      s.Registered r' ∧ t' ∈ if r = r' then sub.topics.filter (· ≠ t) else s.topicsOf r'
    rw [Index.mem_leave, hL.mem_iff]
    split_ifs with hr'
    · subst hr'
      simp [State.topicsOf_eq hsub, and_assoc]
    · have hne : r' ≠ r := fun h => hr' h.symm
      simp [hne]

theorem Linked.subscribeOne {s : State} (hL : Linked s) {r : Ref} (hr : s.Registered r) (tenantId : Uuid)
    (denied : List Topic) (t : Topic) :
    Linked (subscribeOne r tenantId (s, denied) t).1 ∧
      (subscribeOne r tenantId (s, denied) t).1.subscribers = s.subscribers ∧
      (subscribeOne r tenantId (s, denied) t).1.created.length = s.created.length := by
  simp only [Objects.subscribeOne]
  split_ifs
  · exact ⟨hL.join hr t, rfl, List.length_modify ..⟩
  · exact ⟨hL.congr rfl rfl fun _ sub hsub => ⟨sub, hsub, rfl, rfl⟩, rfl, rfl⟩

/-- What a loop over topics keeps: who is registered, and that the records agree. -/
structure Kept (s s' : State) : Prop where
  linked : Linked s'
  subscribers : s'.subscribers = s.subscribers
  length : s'.created.length = s.created.length

theorem Kept.registered {s s' : State} (hK : Kept s s') (r : Ref) : s'.Registered r ↔ s.Registered r := by
  rw [State.Registered, State.Registered, hK.subscribers]

theorem kept_subscribe {s : State} {r : Ref} (hr : s.Registered r) (tenantId : Uuid) :
    ∀ (wanted : List Topic) (p : State × List Topic), Kept s p.1 →
      Kept s (wanted.foldl (subscribeOne r tenantId) p).1
  | [], _, hK => hK
  | t :: wanted, (s₁, denied), hK => by
    obtain ⟨hL, hs, hlen⟩ := hK.linked.subscribeOne ((hK.registered r).mpr hr) tenantId denied t
    exact kept_subscribe hr tenantId wanted _ ⟨hL, hs.trans hK.subscribers, hlen.trans hK.length⟩

theorem kept_unsubscribe {s : State} {r : Ref} (hr : s.Registered r) :
    ∀ (unwanted : List Topic) (s₁ : State), Kept s s₁ → Kept s (unwanted.foldl (unsubscribeOne r) s₁)
  | [], _, hK => hK
  | t :: unwanted, s₁, hK => by
    have hL := hK.linked.leave ((hK.registered r).mpr hr) t
    exact kept_unsubscribe hr unwanted _ ⟨hL, hK.subscribers, (List.length_modify ..).trans hK.length⟩

/-! ## Frames -/

/-- Frames have gone out from `s` to subscribers of their topics, and nothing else has changed. -/
structure Delivery (s : State) (p : State × List (Obs μ)) : Prop where
  created : p.1.created = s.created
  byTopic : p.1.byTopic = s.byTopic
  subscribers : p.1.subscribers = s.subscribers
  obs : ∀ x ∈ p.2, ∃ t r, r ∈ s.byTopic.members t ∧ x.socket = some r

theorem Delivery.deliverOne {cfg : Config} {s : State} {t : Topic} {frame : Frame μ} {mustDeliver : Bool}
    {sockets : Ref → Socket} {p : State × List (Obs μ)} (hD : Delivery s p) {r : Ref}
    (hr : r ∈ s.byTopic.members t) : Delivery s (deliverOne cfg t frame mustDeliver sockets p r) := by
  obtain ⟨s₁, o⟩ := p
  have happend : ∀ x : Obs μ, x.socket = some r →
      ∀ y ∈ o ++ [x], ∃ t r, r ∈ s.byTopic.members t ∧ y.socket = some r := by
    intro x hx y hy
    rcases List.mem_append.mp hy with hold | hnew
    · exact hD.obs y hold
    · obtain rfl := List.mem_singleton.mp hnew
      exact ⟨t, r, hr, hx⟩
  simp only [Objects.deliverOne]
  split_ifs
  · exact ⟨hD.created, hD.byTopic, hD.subscribers, happend _ rfl⟩
  · exact ⟨hD.created, hD.byTopic, hD.subscribers, hD.obs⟩
  · exact ⟨hD.created, hD.byTopic, hD.subscribers, happend _ rfl⟩
  · exact hD

theorem Delivery.deliver {cfg : Config} {s : State} {t : Topic} {frame : Frame μ} {mustDeliver : Bool}
    {sockets : Ref → Socket} {subs : List Ref} (hsubs : ∀ r ∈ subs, r ∈ s.byTopic.members t)
    {p : State × List (Obs μ)} (hD : Delivery s p) : Delivery s (deliver cfg t subs frame mustDeliver sockets p) := by
  unfold Objects.deliver
  induction subs generalizing p with
  | nil => exact hD
  | cons r subs ih =>
    rw [List.forall_mem_cons] at hsubs
    exact ih hsubs.2 (hD.deliverOne hsubs.1)

theorem delivery_send (s : State) (cfg : Config) (t : Topic) (message : μ) (mustDeliver : Bool)
    (sockets : Ref → Socket) : Delivery s (s.send cfg t message mustDeliver sockets) := by
  unfold State.send
  split
  · exact ⟨rfl, rfl, rfl, nofun⟩
  next subs hsubs =>
    refine Delivery.deliver (fun r hr => ?_) ⟨rfl, rfl, rfl, nofun⟩
    rwa [Index.members, hsubs]

theorem Delivery.tickOne {cfg : Config} {s : State} {now : ℤ} {sockets : Topic → Ref → Socket}
    {p : State × List (Obs μ)} (hD : Delivery s p) (batch : Topic × List Reading) :
    Delivery s (tickOne cfg now sockets p batch) := by
  unfold Objects.tickOne
  split
  · exact hD
  next subs hsubs =>
    rw [hD.byTopic] at hsubs
    have hdeliver : Delivery s
        (Objects.deliver cfg batch.1 subs (.batch batch.1 batch.2 now) false (sockets batch.1) p) :=
      hD.deliver fun r hr => by rwa [Index.members, hsubs]
    exact ⟨hdeliver.created, hdeliver.byTopic, hdeliver.subscribers, hdeliver.obs⟩

theorem delivery_tick (s : State) (cfg : Config) (now : ℤ) (sockets : Topic → Ref → Socket) :
    Delivery s (s.tick cfg now sockets : State × List (Obs μ)) := by
  have hstart : Delivery (μ := μ) s ({ s with pending := .empty }, []) := ⟨rfl, rfl, rfl, nofun⟩
  exact s.pending.entries.foldlRecOn _ hstart fun p hD batch _ => hD.tickOne batch

/-! ## Every step -/

/-- What a step can do: keep the records in agreement; register a new object; remove one that was registered; or
use sockets of registered ones. -/
structure Stepped (s s' : State) (o : List (Obs μ)) : Prop where
  linked : Linked s'
  length_le : s.created.length ≤ s'.created.length
  registered : ∀ r, s'.Registered r → s.Registered r ∨ r = s.created.length
  removed : ∀ r, .removed r ∈ o → s.Registered r ∧ ¬ s'.Registered r
  socket : ∀ x ∈ o, ∀ r, x.socket = some r → s.Registered r ∧ ∀ r', .removed r' ∉ o

theorem Kept.stepped {s s' : State} (hK : Kept s s') {o : List (Obs μ)} (hsocket : ∀ x ∈ o, x.socket = none)
    (hremoved : ∀ r, .removed r ∉ o) : Stepped s s' o where
  linked := hK.linked
  length_le := hK.length.ge
  registered r hr := Or.inl ((hK.registered r).mp hr)
  removed r hr := absurd hr (hremoved r)
  socket x hx r hr := by
    rw [hsocket x hx] at hr
    cases hr

theorem Linked.kept {s : State} (hL : Linked s) : Kept s s := ⟨hL, rfl, rfl⟩

theorem Linked.stepped_of_delivery {s : State} (hL : Linked s) {p : State × List (Obs μ)} (hD : Delivery s p) :
    Stepped s p.1 p.2 where
  linked := hL.congr hD.byTopic hD.subscribers fun r sub hsub => ⟨sub, by rw [hD.created, hsub], rfl, rfl⟩
  length_le := by rw [hD.created]
  registered r hr := by
    rw [State.Registered, hD.subscribers] at hr
    exact Or.inl hr
  removed r hr := by
    obtain ⟨t, r', -, hsocket⟩ := hD.obs _ hr
    cases hsocket
  socket x hx r hr := by
    obtain ⟨t, r', hmem, hsocket⟩ := hD.obs x hx
    obtain rfl := Option.some.inj (hr.symm.trans hsocket)
    refine ⟨((hL.mem_iff t r).mp hmem).1, fun r' hr' => ?_⟩
    obtain ⟨t', r'', -, hsocket'⟩ := hD.obs _ hr'
    cases hsocket'

theorem Linked.step {cfg : Config} {s s' : State} {a : Act μ} {o : List (Obs μ)} (hL : Linked s)
    (hs : step cfg s a = some (s', o)) : Stepped s s' o := by
  cases a with
  | add id =>
    simp only [Objects.step] at hs
    split_ifs at hs with hnew
    cases hs
    refine ⟨hL.add (by simpa using hnew), ?_, fun r hr => ?_, by simp, by simp⟩
    · simp [State.add]
    · obtain ⟨id', hid'⟩ := hr
      simp only [State.add, get?_set] at hid'
      split_ifs at hid'
      · exact Or.inr (Option.some.inj hid').symm
      · exact Or.inl ⟨id', hid'⟩
  | authenticate id tenantId =>
    cases hs
    have hkept : Kept s (s.authenticate id tenantId) := by
      refine ⟨hL.authenticate id tenantId, ?_, ?_⟩
      · unfold State.authenticate
        split <;> rfl
      · unfold State.authenticate
        split
        · rfl
        · exact List.length_modify ..
    exact hkept.stepped (by simp) (by simp)
  | remove id =>
    cases hid : s.subscribers.get? id with
    | none =>
      simp only [Objects.step, State.remove, hid] at hs
      cases hs
      exact hL.kept.stepped (by simp) (by simp)
    | some r =>
      obtain ⟨hreg, hL'⟩ := hL.remove (μ := μ) hid
      have hobs : (s.remove id : State × List (Obs μ)).2 = [.removed r] := by rw [State.remove, hid]
      have hlen : (s.remove id : State × List (Obs μ)).1.created.length = s.created.length := by
        rw [State.remove, hid]
      have heq : s.remove id = (s', o) := Option.some.inj hs
      rw [heq] at hreg hL' hobs hlen
      obtain rfl : o = [.removed r] := hobs
      refine ⟨hL', hlen.ge, fun r' hr' => Or.inl ((hreg r').mp hr').1, fun r' hr' => ?_, fun x hx r' hr' => ?_⟩
      · cases List.mem_singleton.mp hr'
        exact ⟨⟨id, hid⟩, fun h => ((hreg r).mp h).2 rfl⟩
      · obtain rfl := List.mem_singleton.mp hx
        cases hr'
  | subscribe id wanted =>
    simp only [Objects.step, State.subscribe] at hs
    split at hs
    · cases hs
      exact hL.kept.stepped (by simp [Obs.socket]) (by simp)
    next r hid =>
      split at hs
      · cases hs
        exact hL.kept.stepped (by simp [Obs.socket]) (by simp)
      next tenantId htenant =>
        cases hs
        exact (kept_subscribe ⟨id, hid⟩ tenantId wanted (s, []) hL.kept).stepped (by simp [Obs.socket]) (by simp)
  | unsubscribe id unwanted =>
    simp only [Objects.step, State.unsubscribe] at hs
    split at hs
    · cases hs
      exact hL.kept.stepped (by simp [Obs.socket]) (by simp)
    next r hid =>
      cases hs
      exact (kept_unsubscribe ⟨id, hid⟩ unwanted s hL.kept).stepped (by simp [Obs.socket]) (by simp)
  | publish sensor reading =>
    cases hs
    have hkept : Kept s (s.publish sensor reading) :=
      ⟨hL.congr rfl rfl fun _ sub hsub => ⟨sub, hsub, rfl, rfl⟩, rfl, rfl⟩
    exact hkept.stepped (by simp) (by simp)
  | send t message mustDeliver sockets =>
    have hD := delivery_send s cfg t message mustDeliver sockets
    rw [Option.some.inj hs] at hD
    exact hL.stepped_of_delivery hD
  | tick now sockets =>
    have hD := delivery_tick (μ := μ) s cfg now sockets
    rw [Option.some.inj hs] at hD
    exact hL.stepped_of_delivery hD
  | refresh owners =>
    cases hs
    have hkept : Kept s { s with owners := owners } :=
      ⟨hL.congr rfl rfl fun _ sub hsub => ⟨sub, hsub, rfl, rfl⟩, rfl, rfl⟩
    exact hkept.stepped (by simp) (by simp)

/-! ## Every run -/

/-- A subscriber that was removed is not registered, and its socket has not been used since. -/
structure Silent (s : State) (h : List (Obs μ)) : Prop where
  linked : Linked s
  gone : ∀ r, .removed r ∈ h → r < s.created.length ∧ ¬ s.Registered r
  each : Machine.Each (fun h₁ x => ∀ r, x.socket = some r → Obs.removed r ∉ h₁) h

theorem silent_init (owners : Owners) : Silent (μ := μ) (.init owners) [] where
  linked := by
    refine ⟨fun id r hid => ?_, fun t r => ?_, nofun⟩
    · simp [State.init] at hid
    · simp [State.init, Index.members, State.topicsOf]
  gone := nofun
  each := Machine.each_nil _

theorem Silent.step {cfg : Config} {s s' : State} {a : Act μ} {h o : List (Obs μ)} (hS : Silent s h)
    (hs : step cfg s a = some (s', o)) : Silent s' (h ++ o) := by
  have hstep := hS.linked.step hs
  refine ⟨hstep.linked, fun r hr => ?_, Machine.each_append.mpr ⟨hS.each, ?_⟩⟩
  · rcases List.mem_append.mp hr with hold | hnew
    · obtain ⟨hlt, hnot⟩ := hS.gone r hold
      refine ⟨Nat.lt_of_lt_of_le hlt hstep.length_le, fun hreg => ?_⟩
      rcases hstep.registered r hreg with hreg' | rfl
      · exact hnot hreg'
      · exact Nat.lt_irrefl _ hlt
    · obtain ⟨hreg, hnot⟩ := hstep.removed r hnew
      exact ⟨Nat.lt_of_lt_of_le (hS.linked.lt_length hreg) hstep.length_le, hnot⟩
  · rintro h₁ x h₂ rfl r hr hremoved
    obtain ⟨hreg, hno⟩ := hstep.socket x (by simp) r hr
    rcases List.mem_append.mp hremoved with hold | hnew
    · exact (hS.gone r hold).2 hreg
    · exact hno r (List.mem_append_left _ hnew)

/-- **The index of subscriptions.**  In every state that is reached a subscriber is in the set of a topic exactly when
it is registered and has the topic, no topic has an empty set, and no frame has gone to the socket of a subscriber,
nor was it closed, after the subscriber was removed. -/
theorem subscriptions_consistent (cfg : Config) (owners : Owners) (s : State) (h : List (Obs μ)) :
    (subscriptions μ cfg).Reaches (.init owners) s h →
      (∀ t r, r ∈ s.byTopic.members t ↔ s.Registered r ∧ t ∈ s.topicsOf r) ∧
      (∀ t subs, s.byTopic.get? t = some subs → subs ≠ []) ∧
      ∀ h₁ x h₂, h = h₁ ++ x :: h₂ → ∀ r, x.socket = some r → Obs.removed r ∉ h₁ := by
  intro hr
  have hS : Silent s h := hr.hist (fun hS hs => hS.step hs) (silent_init owners)
  exact ⟨hS.linked.mem_iff, hS.linked.full, hS.each⟩

/-- A subscriber of a topic is removed, its id is added again, and a frame goes out. -/
def readdedRun : List (Act ℕ) :=
  [.add 5, .authenticate 5 1, .subscribe 5 [⟨.alerts, 1⟩, ⟨.alerts, 1⟩], .remove 5, .add 5, .authenticate 5 1,
    .subscribe 5 [⟨.alerts, 1⟩], .send ⟨.alerts, 1⟩ 0 true fun _ => ⟨true, 0⟩]

theorem subscriptions_consistent_readded :
    ((subscriptions ℕ ⟨1000, 10⟩).exec (.init fun _ => none) readdedRun).map
        (fun r => (r.2.filterMap Obs.socket, r.1.byTopic.members ⟨.alerts, 1⟩)) = some ([1], [1]) ∧
      ∃ s h, (subscriptions ℕ ⟨1000, 10⟩).Reaches (.init fun _ => none) s h ∧
        ∀ t r, r ∈ s.byTopic.members t ↔ s.Registered r ∧ t ∈ s.topicsOf r := by
  refine ⟨by decide, ?_⟩
  have hsome : ((subscriptions ℕ ⟨1000, 10⟩).exec (.init fun _ => none) readdedRun).isSome = true := by decide
  obtain ⟨⟨s, h⟩, hexec⟩ := Option.isSome_iff_exists.mp hsome
  exact ⟨s, h, ⟨readdedRun, hexec⟩, (subscriptions_consistent ⟨1000, 10⟩ (fun _ => none) s h ⟨readdedRun, hexec⟩).1⟩

end DTwin.Fanout.Objects
