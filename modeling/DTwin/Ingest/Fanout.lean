import DTwin.Lib.Machine
import DTwin.Lib.OrderedMap
import DTwin.Rules.Conditions

/-!
# DTwin.Ingest.Fanout — topic subscriptions and outbound coalescing

`apps/ingest/src/fanout.ts` with `maySubscribe` of `registry.ts` and the `auth` frame of `server.ts`.  A
subscriber is known by its id, which the connection handler draws with `randomUUID`: `add` is for a new one.
What the sockets answer and which tenant owns a topic are in the labels.

Who is in which topic is kept twice, in `byTopic` and with each subscriber; `Indexed` says that the two agree.
Connections that are bound by `auth` frames stay within the tenant's number (`capped_of_frames`).
-/

namespace DTwin.Fanout

open OrderedMap

/-! ## Topics -/

inductive Scope | building | floor | zone | sensor | alerts | sim
deriving DecidableEq

structure Topic where
  scope : Scope
  id : Uuid
deriving DecidableEq

/-- Every topic a reading belongs to. -/
def topicsFor (sensor : Rules.RegisteredSensor) : List Topic :=
  ⟨.sensor, sensor.id⟩ :: (sensor.zoneId.toList.map (⟨.zone, ·⟩) ++
    sensor.floorId.toList.map (⟨.floor, ·⟩) ++ sensor.buildingId.toList.map (⟨.building, ·⟩))

/-- Which tenant owns a building, floor, zone or sensor id. -/
abbrev Owners := Uuid → Option Uuid

def ownerOf (owners : Owners) (t : Topic) : Option Uuid := owners t.id

def maySubscribe (owners : Owners) (tenantId : Uuid) (t : Topic) : Bool :=
  if t.scope = .alerts then t.id == tenantId else ownerOf owners t == some tenantId

/-- A reading as it is carried, whatever double it has. -/
abbrev Reading := DTwin.Reading JsNumber

/-! ## The registry of subscriptions -/

structure Subscriber where
  topics : List Topic
  tenantId : Option Uuid

/-- What a socket shows when it is to be written to. -/
structure Socket where
  isOpen : Bool
  bufferedAmount : ℕ

structure Config where
  clientBufferMaxBytes : ℕ
  maxConnectionsPerTenant : ℕ

structure Stats where
  framesSent : ℕ
  readingsSent : ℕ
  framesSkipped : ℕ
  backloggedClosed : ℕ
  subscribesDenied : ℕ

/-- The sets of subscribers, by topic. -/
abbrev Index := OrderedMap Topic (List Uuid)

structure Sys where
  byTopic : Index
  subscribers : OrderedMap Uuid Subscriber
  pending : OrderedMap Topic (List Reading)
  stats : Stats
  owners : Owners

/-- A message to a client; `μ` are those that are sent at once. -/
inductive Frame (μ : Type)
  | batch (topic : Topic) (readings : List Reading) (sentAt : ℤ)
  | message (m : μ)

variable {μ : Type}

inductive Obs (μ : Type)
  /-- the topic was added, the registry then being `owners` -/
  | granted (id tenantId : Uuid) (topic : Topic) (owners : Owners)
  | subscribed (id : Uuid) (topics denied : List Topic)
  /-- written to the socket of a connection now bound to `tenantId` -/
  | sent (id : Uuid) (tenantId : Option Uuid) (topic : Topic) (frame : Frame μ)
  | closed (id : Uuid)

inductive Act (μ : Type)
  | add (id : Uuid)
  | authenticate (id tenantId : Uuid)
  | remove (id : Uuid)
  | subscribe (id : Uuid) (wanted : List Topic)
  | unsubscribe (id : Uuid) (unwanted : List Topic)
  | publish (sensor : Rules.RegisteredSensor) (reading : Reading)
  | send (topic : Topic) (message : μ) (mustDeliver : Bool) (sockets : Uuid → Socket)
  | tick (now : ℤ) (sockets : Topic → Uuid → Socket)
  | refresh (owners : Owners)

/-- `Set.add`, the set listed in order of insertion. -/
def insertNew {α : Type} [DecidableEq α] (a : α) (l : List α) : List α := if a ∈ l then l else l ++ [a]

def Index.join (m : Index) (t : Topic) (id : Uuid) : Index :=
  m.set t (insertNew id ((m.get? t).getD []))

/-- Empty topic sets are dropped. -/
def Index.leave (m : Index) (t : Topic) (id : Uuid) : Index :=
  match m.get? t with
  | none => m
  | some subs =>
    let subs' := subs.filter (· ≠ id)
    if subs' = [] then m.erase t else m.set t subs'

/-- Authenticated connections a tenant holds right now. -/
def Sys.connectionsFor (s : Sys) (tenantId : Uuid) : ℕ :=
  s.subscribers.values.countP (·.tenantId = some tenantId)

def Sys.setSubscriber (s : Sys) (id : Uuid) (sub : Subscriber) : Sys :=
  { s with subscribers := s.subscribers.set id sub }

def Sys.add (s : Sys) (id : Uuid) : Sys := s.setSubscriber id ⟨[], none⟩

/-- Bind an authenticated identity to a connection. -/
def Sys.authenticate (s : Sys) (id tenantId : Uuid) : Sys :=
  match s.subscribers.get? id with
  | none => s
  | some sub => s.setSubscriber id { sub with tenantId := some tenantId }

def Sys.remove (s : Sys) (id : Uuid) : Sys :=
  match s.subscribers.get? id with
  | none => s
  | some sub =>
    { s with
      byTopic := sub.topics.foldl (fun m t => m.leave t id) s.byTopic
      subscribers := s.subscribers.erase id }

/-- One topic of `subscribe`: the state, the topics denied and what is observed so far. -/
def subscribeOne (id tenantId : Uuid) (r : Sys × List Topic × List (Obs μ)) (t : Topic) :
    Sys × List Topic × List (Obs μ) :=
  let (s, denied, o) := r
  if maySubscribe s.owners tenantId t then
    match s.subscribers.get? id with
    | none => r
    | some sub =>
      (({ s with byTopic := s.byTopic.join t id } : Sys).setSubscriber id
          { sub with topics := insertNew t sub.topics },
        denied, o ++ [.granted id tenantId t s.owners])
  else
    ({ s with stats := { s.stats with subscribesDenied := s.stats.subscribesDenied + 1 } },
      denied ++ [t], o)

/-- The topics of a connection. -/
def Sys.topicsOf (s : Sys) (id : Uuid) : List Topic := ((s.subscribers.get? id).map (·.topics)).getD []

/-- The tenant that a connection is bound to. -/
def Sys.tenantOf (s : Sys) (id : Uuid) : Option Uuid := (s.subscribers.get? id).bind (·.tenantId)

def Sys.subscribe (s : Sys) (id : Uuid) (wanted : List Topic) : Sys × List (Obs μ) :=
  match s.subscribers.get? id with
  | none => (s, [.subscribed id [] []])
  | some sub =>
    match sub.tenantId with
    | none => (s, [.subscribed id sub.topics wanted])
    | some tenantId =>
      let (s', denied, o) := wanted.foldl (subscribeOne id tenantId) (s, [], [])
      (s', o ++ [.subscribed id (s'.topicsOf id) denied])

def unsubscribeOne (id : Uuid) (s : Sys) (t : Topic) : Sys :=
  match s.subscribers.get? id with
  | none => s
  | some sub =>
    ({ s with byTopic := s.byTopic.leave t id } : Sys).setSubscriber id
      { sub with topics := sub.topics.filter (· ≠ t) }

def Sys.unsubscribe (s : Sys) (id : Uuid) (unwanted : List Topic) : Sys × List (Obs μ) :=
  match s.subscribers.get? id with
  | none => (s, [.subscribed id [] []])
  | some _ =>
    let s' := unwanted.foldl (unsubscribeOne id) s
    (s', [.subscribed id (s'.topicsOf id) []])

/-- Queue a reading for the topics it belongs to that have a subscriber. -/
def Sys.publish (s : Sys) (sensor : Rules.RegisteredSensor) (reading : Reading) : Sys :=
  { s with
    pending := (topicsFor sensor).foldl (fun m t =>
      if (s.byTopic.get? t).isSome then m.set t ((m.get? t).getD [] ++ [reading]) else m) s.pending }

/-- One subscriber of `#deliver`. -/
def deliverOne (cfg : Config) (topic : Topic) (frame : Frame μ) (mustDeliver : Bool)
    (sockets : Uuid → Socket) (r : Sys × List (Obs μ)) (id : Uuid) : Sys × List (Obs μ) :=
  let (s, o) := r
  if ¬ (sockets id).isOpen then r
  else if cfg.clientBufferMaxBytes < (sockets id).bufferedAmount then
    if mustDeliver then
      ({ s with stats := { s.stats with backloggedClosed := s.stats.backloggedClosed + 1 } },
        o ++ [.closed id])
    else ({ s with stats := { s.stats with framesSkipped := s.stats.framesSkipped + 1 } }, o)
  else
    ({ s with stats := { s.stats with framesSent := s.stats.framesSent + 1 } },
      o ++ [.sent id (s.tenantOf id) topic frame])

def deliver (cfg : Config) (topic : Topic) (subs : List Uuid) (frame : Frame μ) (mustDeliver : Bool)
    (sockets : Uuid → Socket) (r : Sys × List (Obs μ)) : Sys × List (Obs μ) :=
  subs.foldl (deliverOne cfg topic frame mustDeliver sockets) r

/-- Send a non-telemetry message immediately. -/
def Sys.send (s : Sys) (cfg : Config) (topic : Topic) (message : μ) (mustDeliver : Bool)
    (sockets : Uuid → Socket) : Sys × List (Obs μ) :=
  match s.byTopic.get? topic with
  | none => (s, [])
  | some subs => deliver cfg topic subs (.message message) mustDeliver sockets (s, [])

/-- One topic of `tick`; the last subscriber may have left mid-window. -/
def tickOne (cfg : Config) (now : ℤ) (sockets : Topic → Uuid → Socket) (r : Sys × List (Obs μ))
    (batch : Topic × List Reading) : Sys × List (Obs μ) :=
  match r.1.byTopic.get? batch.1 with
  | none => r
  | some subs =>
    let (s, o) := deliver cfg batch.1 subs (.batch batch.1 batch.2 now) false (sockets batch.1) r
    ({ s with
        stats := { s.stats with
          readingsSent := s.stats.readingsSent + batch.2.length * subs.length } }, o)

def Sys.tick (s : Sys) (cfg : Config) (now : ℤ) (sockets : Topic → Uuid → Socket) : Sys × List (Obs μ) :=
  s.pending.entries.foldl (tickOne cfg now sockets) ({ s with pending := .empty }, [])

def step (cfg : Config) (s : Sys) : Act μ → Option (Sys × List (Obs μ))
  | .add id => if (s.subscribers.get? id).isSome then none else some (s.add id, [])
  | .authenticate id tenantId => some (s.authenticate id tenantId, [])
  | .remove id => some (s.remove id, [])
  | .subscribe id wanted => some (s.subscribe id wanted)
  | .unsubscribe id unwanted => some (s.unsubscribe id unwanted)
  | .publish sensor reading => some (s.publish sensor reading, [])
  | .send topic message mustDeliver sockets => some (s.send cfg topic message mustDeliver sockets)
  | .tick now sockets => some (s.tick cfg now sockets)
  | .refresh owners => some ({ s with owners := owners }, [])

def streaming (μ : Type) (cfg : Config) : Machine Sys (Act μ) (Obs μ) := ⟨step cfg⟩

def Sys.init (owners : Owners) : Sys := ⟨.empty, .empty, .empty, ⟨0, 0, 0, 0, 0⟩, owners⟩

/-- The answer to an `auth` frame. -/
inductive AuthReply | authFailed | tooManyConnections | authenticated (tenantId : Uuid)
deriving DecidableEq

/-- An `auth` frame: the calls it makes, and the reply; all but the last close the socket. -/
def onAuth (cfg : Config) (s : Sys) (id : Uuid) (ticket : Option Uuid) : List (Act μ) × AuthReply :=
  match ticket with
  | none => ([], .authFailed)
  | some tenantId =>
    if cfg.maxConnectionsPerTenant ≤ s.connectionsFor tenantId then ([], .tooManyConnections)
    else ([.authenticate id tenantId], .authenticated tenantId)

/-! ## The two records of who is in which topic -/

theorem mem_insertNew {α : Type} [DecidableEq α] {a b : α} {l : List α} :
    b ∈ insertNew a l ↔ b ∈ l ∨ b = a := by
  unfold insertNew
  split_ifs with ha
  · refine ⟨Or.inl, fun h => h.elim id fun hb => ?_⟩
    rwa [hb]
  · simp

namespace Index

def members (m : Index) (t : Topic) : List Uuid := (m.get? t).getD []

/-- No topic maps to an empty set. -/
def Full (m : Index) : Prop := ∀ t subs, m.get? t = some subs → subs ≠ []

theorem mem_join {m : Index} {t t' : Topic} {id id' : Uuid} :
    id' ∈ (m.join t id).members t' ↔ id' ∈ m.members t' ∨ (t' = t ∧ id' = id) := by
  rw [members, join, get?_set]
  by_cases ht : t = t'
  · subst ht
    simp [mem_insertNew, members]
  · have hne : t' ≠ t := fun h => ht h.symm
    simp [ht, hne, members]

theorem full_join {m : Index} (hm : m.Full) (t : Topic) (id : Uuid) : (m.join t id).Full := by
  intro t' subs hget
  rw [join, get?_set] at hget
  split_ifs at hget with ht
  · rw [← Option.some.inj hget]
    exact List.ne_nil_of_mem (mem_insertNew.mpr (Or.inr rfl))
  · exact hm t' subs hget

theorem mem_leave {m : Index} {t t' : Topic} {id id' : Uuid} :
    id' ∈ (m.leave t id).members t' ↔ id' ∈ m.members t' ∧ ¬ (t' = t ∧ id' = id) := by
  unfold leave
  cases hget : m.get? t with
  | none =>
    refine ⟨fun h => ⟨h, ?_⟩, And.left⟩
    rintro ⟨rfl, -⟩
    simp [members, hget] at h
  | some subs =>
    simp only
    by_cases ht : t = t'
    · subst ht
      split_ifs with hempty
      · have hall : ∀ x ∈ subs, x = id := by simpa using hempty
        simp only [members, get?_erase, hget, if_true, Option.getD_none, Option.getD_some, true_and]
        refine ⟨fun h => absurd h List.not_mem_nil, fun h => absurd (hall id' h.1) h.2⟩
      · simp [members, get?_set, hget]
    · have hne : t' ≠ t := fun h => ht h.symm
      split_ifs <;> simp [members, get?_set, get?_erase, ht, hne]

theorem full_leave {m : Index} (hm : m.Full) (t : Topic) (id : Uuid) : (m.leave t id).Full := by
  intro t' subs' hget
  unfold leave at hget
  cases hsubs : m.get? t with
  | none =>
    rw [hsubs] at hget
    exact hm t' subs' hget
  | some subs =>
    simp only [hsubs] at hget
    split_ifs at hget with hempty
    · rw [get?_erase] at hget
      split_ifs at hget
      exact hm t' subs' hget
    · rw [get?_set] at hget
      split_ifs at hget
      · rwa [← Option.some.inj hget]
      · exact hm t' subs' hget

theorem mem_foldl_leave {id id' : Uuid} {t' : Topic} : ∀ {ts : List Topic} {m : Index},
    id' ∈ (ts.foldl (fun m t => m.leave t id) m).members t' ↔
      id' ∈ m.members t' ∧ ¬ (t' ∈ ts ∧ id' = id)
  | [], m => by simp
  | t :: ts, m => by
    rw [List.foldl_cons, mem_foldl_leave, mem_leave, List.mem_cons]
    tauto

theorem full_foldl_leave (id : Uuid) : ∀ (ts : List Topic) {m : Index}, m.Full →
    (ts.foldl (fun m t => m.leave t id) m).Full
  | [], _, hm => hm
  | t :: ts, _, hm => full_foldl_leave id ts (full_leave hm t id)

end Index

@[simp] theorem topicsOf_setSubscriber (s : Sys) (id id' : Uuid) (sub : Subscriber) :
    (s.setSubscriber id sub).topicsOf id' = if id = id' then sub.topics else s.topicsOf id' := by
  simp only [Sys.topicsOf, Sys.setSubscriber, get?_set]
  split_ifs <;> rfl

@[simp] theorem tenantOf_setSubscriber (s : Sys) (id id' : Uuid) (sub : Subscriber) :
    (s.setSubscriber id sub).tenantOf id' = if id = id' then sub.tenantId else s.tenantOf id' := by
  simp only [Sys.tenantOf, Sys.setSubscriber, get?_set]
  split_ifs <;> rfl

theorem topicsOf_eq {s : Sys} {id : Uuid} {sub : Subscriber} (h : s.subscribers.get? id = some sub) :
    s.topicsOf id = sub.topics := by
  rw [Sys.topicsOf, h]
  rfl

theorem tenantOf_eq {s : Sys} {id : Uuid} {sub : Subscriber} (h : s.subscribers.get? id = some sub) :
    s.tenantOf id = sub.tenantId := by
  rw [Sys.tenantOf, h]
  rfl

theorem topicsOf_congr {s s' : Sys} (h : s'.subscribers = s.subscribers) (id : Uuid) :
    s'.topicsOf id = s.topicsOf id := by
  rw [Sys.topicsOf, h, Sys.topicsOf]

theorem tenantOf_congr {s s' : Sys} (h : s'.subscribers = s.subscribers) (id : Uuid) :
    s'.tenantOf id = s.tenantOf id := by
  rw [Sys.tenantOf, h, Sys.tenantOf]

/-- A subscriber is in the set of a topic exactly when it has the topic. -/
structure Indexed (s : Sys) : Prop where
  mem_iff : ∀ t id, id ∈ s.byTopic.members t ↔ t ∈ s.topicsOf id
  full : s.byTopic.Full

theorem Indexed.congr {s s' : Sys} (hI : Indexed s) (hb : s'.byTopic = s.byTopic)
    (ht : ∀ id, s'.topicsOf id = s.topicsOf id) : Indexed s' where
  mem_iff t id := by rw [hb, ht, hI.mem_iff]
  full := by rw [hb]; exact hI.full

/-! ## What the operations do to it -/

theorem add_topicsOf {s : Sys} {id : Uuid} (hnew : s.subscribers.get? id = none) (id' : Uuid) :
    (s.add id).topicsOf id' = s.topicsOf id' := by
  rw [Sys.add, topicsOf_setSubscriber]
  split_ifs with hid
  · subst hid
    simp [Sys.topicsOf, hnew]
  · rfl

theorem add_tenantOf {s : Sys} {id : Uuid} (hnew : s.subscribers.get? id = none) (id' : Uuid) :
    (s.add id).tenantOf id' = s.tenantOf id' := by
  rw [Sys.add, tenantOf_setSubscriber]
  split_ifs with hid
  · subst hid
    simp [Sys.tenantOf, hnew]
  · rfl

theorem authenticate_byTopic (s : Sys) (id tenantId : Uuid) :
    (s.authenticate id tenantId).byTopic = s.byTopic := by
  unfold Sys.authenticate
  split <;> rfl

theorem authenticate_topicsOf (s : Sys) (id tenantId id' : Uuid) :
    (s.authenticate id tenantId).topicsOf id' = s.topicsOf id' := by
  unfold Sys.authenticate
  split
  · rfl
  next sub hsub =>
    rw [topicsOf_setSubscriber]
    split_ifs with hid
    · rw [← hid, topicsOf_eq hsub]
    · rfl

theorem authenticate_tenantOf_self {s : Sys} {id tenantId : Uuid} {t : Topic} (ht : t ∈ s.topicsOf id) :
    (s.authenticate id tenantId).tenantOf id = some tenantId := by
  unfold Sys.authenticate
  split
  next hnone => simp [Sys.topicsOf, hnone] at ht
  next sub hsub => simp

theorem authenticate_tenantOf_other (s : Sys) {id id' tenantId : Uuid} (hne : id' ≠ id) :
    (s.authenticate id tenantId).tenantOf id' = s.tenantOf id' := by
  unfold Sys.authenticate
  split
  · rfl
  · have hid : ¬ id = id' := fun h => hne h.symm
    simp [hid]

theorem remove_topicsOf (s : Sys) (id id' : Uuid) :
    (s.remove id).topicsOf id' = if id = id' then [] else s.topicsOf id' := by
  unfold Sys.remove
  split
  next hnone =>
    split_ifs with hid
    · subst hid
      simp [Sys.topicsOf, hnone]
    · rfl
  next sub hsub =>
    simp only [Sys.topicsOf, get?_erase]
    split_ifs <;> rfl

theorem remove_tenantOf (s : Sys) {id id' : Uuid} (hne : id' ≠ id) :
    (s.remove id).tenantOf id' = s.tenantOf id' := by
  have hid : ¬ id = id' := fun h => hne h.symm
  unfold Sys.remove
  split
  · rfl
  · simp [Sys.tenantOf, get?_erase, hid]

theorem mem_remove {s : Sys} (hI : Indexed s) {id id' : Uuid} {t : Topic} :
    id' ∈ (s.remove id).byTopic.members t ↔ id' ∈ s.byTopic.members t ∧ id' ≠ id := by
  unfold Sys.remove
  split
  next hnone =>
    refine ⟨fun h => ⟨h, ?_⟩, And.left⟩
    rintro rfl
    rw [hI.mem_iff, Sys.topicsOf, hnone] at h
    exact absurd h List.not_mem_nil
  next sub hsub =>
    rw [Index.mem_foldl_leave]
    refine and_congr_right fun hin => not_congr ⟨And.right, ?_⟩
    rintro rfl
    rw [hI.mem_iff, topicsOf_eq hsub] at hin
    exact ⟨hin, rfl⟩

theorem unsubscribeOne_topicsOf (id : Uuid) (s : Sys) (t : Topic) (id' : Uuid) :
    (unsubscribeOne id s t).topicsOf id' =
      if id = id' then (s.topicsOf id').filter (· ≠ t) else s.topicsOf id' := by
  unfold unsubscribeOne
  split
  next hnone =>
    split_ifs with hid
    · subst hid
      simp [Sys.topicsOf, hnone]
    · rfl
  next sub hsub =>
    rw [topicsOf_setSubscriber]
    split_ifs with hid
    · rw [← hid, topicsOf_eq hsub]
    · rfl

theorem unsubscribeOne_tenantOf (id : Uuid) (s : Sys) (t : Topic) (id' : Uuid) :
    (unsubscribeOne id s t).tenantOf id' = s.tenantOf id' := by
  unfold unsubscribeOne
  split
  · rfl
  next sub hsub =>
    rw [tenantOf_setSubscriber]
    split_ifs with hid
    · rw [← hid, tenantOf_eq hsub]
    · rfl

theorem mem_unsubscribeOne {s : Sys} (hI : Indexed s) {id id' : Uuid} {t t' : Topic} :
    id' ∈ (unsubscribeOne id s t).byTopic.members t' ↔
      id' ∈ s.byTopic.members t' ∧ ¬ (t' = t ∧ id' = id) := by
  unfold unsubscribeOne
  split
  next hnone =>
    refine ⟨fun h => ⟨h, ?_⟩, And.left⟩
    rintro ⟨-, rfl⟩
    rw [hI.mem_iff, Sys.topicsOf, hnone] at h
    exact absurd h List.not_mem_nil
  next sub hsub => exact Index.mem_leave

theorem Indexed.unsubscribeOne {s : Sys} (hI : Indexed s) (id : Uuid) (t : Topic) :
    Indexed (unsubscribeOne id s t) where
  mem_iff t' id' := by
    rw [mem_unsubscribeOne hI, unsubscribeOne_topicsOf, hI.mem_iff]
    split_ifs with hid
    · subst hid
      simp [and_comm]
    · have hne : id' ≠ id := fun h => hid h.symm
      simp [hne]
  full := by
    unfold Fanout.unsubscribeOne
    split
    · exact hI.full
    · exact Index.full_leave hI.full t id

theorem Indexed.remove {s : Sys} (hI : Indexed s) (id : Uuid) : Indexed (s.remove id) where
  mem_iff t id' := by
    rw [mem_remove hI, remove_topicsOf, hI.mem_iff]
    split_ifs with hid
    · simp [hid]
    · have hne : id' ≠ id := fun h => hid h.symm
      simp [hne]
  full := by
    unfold Sys.remove
    split
    · exact hI.full
    · exact Index.full_foldl_leave id _ hI.full

/-- A topic is denied and nothing of it recorded, or it is granted. -/
theorem subscribeOne_cases (id tenantId : Uuid) (r : Sys × List Topic × List (Obs μ)) (t : Topic) :
    ((subscribeOne id tenantId r t).1.byTopic = r.1.byTopic ∧
      (subscribeOne id tenantId r t).1.subscribers = r.1.subscribers ∧
      (subscribeOne id tenantId r t).2.2 = r.2.2) ∨
    ∃ sub, r.1.subscribers.get? id = some sub ∧ maySubscribe r.1.owners tenantId t = true ∧
      (subscribeOne id tenantId r t).1 = ({ r.1 with byTopic := r.1.byTopic.join t id } : Sys).setSubscriber id
        { sub with topics := insertNew t sub.topics } ∧
      (subscribeOne id tenantId r t).2.2 = r.2.2 ++ [.granted id tenantId t r.1.owners] := by
  obtain ⟨s, denied, o⟩ := r
  simp only [subscribeOne]
  split_ifs with hmay
  · split
    · exact Or.inl ⟨rfl, rfl, rfl⟩
    next sub hsub => exact Or.inr ⟨sub, hsub, hmay, rfl, rfl⟩
  · exact Or.inl ⟨rfl, rfl, rfl⟩

theorem Indexed.subscribeOne {id tenantId : Uuid} {r : Sys × List Topic × List (Obs μ)} (hI : Indexed r.1)
    (t : Topic) : Indexed (subscribeOne id tenantId r t).1 := by
  obtain ⟨hb, hs, -⟩ | ⟨sub, hsub, -, heq, -⟩ := subscribeOne_cases id tenantId r t
  · exact hI.congr hb (topicsOf_congr hs)
  · rw [heq]
    refine ⟨fun t' id' => ?_, Index.full_join hI.full t id⟩
    rw [topicsOf_setSubscriber]
    show id' ∈ (r.1.byTopic.join t id).members t' ↔ _
    rw [Index.mem_join, hI.mem_iff]
    split_ifs with hid
    · subst hid
      simp [mem_insertNew, topicsOf_eq hsub]
    · have hne : id' ≠ id := fun h => hid h.symm
      simp [hne]
      rfl

/-! ## Frames -/

/-- What is observed when frames go out: a frame to a subscriber of its topic, or a socket closed. -/
def Delivers (s : Sys) (x : Obs μ) : Prop :=
  (∃ t id frame, id ∈ s.byTopic.members t ∧ x = .sent id (s.tenantOf id) t frame) ∨ ∃ id, x = .closed id

/-- Frames have gone out from `s`, and nothing else has changed. -/
structure Delivery (s : Sys) (r : Sys × List (Obs μ)) : Prop where
  byTopic : r.1.byTopic = s.byTopic
  subscribers : r.1.subscribers = s.subscribers
  obs : ∀ x ∈ r.2, Delivers s x

theorem Delivery.deliverOne {cfg : Config} {s : Sys} {t : Topic} {frame : Frame μ} {mustDeliver : Bool}
    {sockets : Uuid → Socket} {r : Sys × List (Obs μ)} (hD : Delivery s r) {id : Uuid}
    (hid : id ∈ s.byTopic.members t) : Delivery s (deliverOne cfg t frame mustDeliver sockets r id) := by
  obtain ⟨s₁, o⟩ := r
  simp only [Fanout.deliverOne]
  split_ifs
  · refine ⟨hD.byTopic, hD.subscribers, List.forall_mem_append.mpr ⟨hD.obs, ?_⟩⟩
    simp [Delivers]
  · exact ⟨hD.byTopic, hD.subscribers, hD.obs⟩
  · refine ⟨hD.byTopic, hD.subscribers, List.forall_mem_append.mpr ⟨hD.obs, ?_⟩⟩
    simp only [List.mem_singleton, forall_eq]
    exact Or.inl ⟨t, id, frame, hid, by rw [tenantOf_congr hD.subscribers]⟩
  · exact hD

theorem Delivery.deliver {cfg : Config} {s : Sys} {t : Topic} {frame : Frame μ} {mustDeliver : Bool}
    {sockets : Uuid → Socket} {subs : List Uuid} (hsubs : ∀ id ∈ subs, id ∈ s.byTopic.members t)
    {r : Sys × List (Obs μ)} (hD : Delivery s r) :
    Delivery s (deliver cfg t subs frame mustDeliver sockets r) := by
  unfold Fanout.deliver
  induction subs generalizing r with
  | nil => exact hD
  | cons id subs ih =>
    rw [List.forall_mem_cons] at hsubs
    exact ih hsubs.2 (hD.deliverOne hsubs.1)

theorem delivery_send (s : Sys) (cfg : Config) (t : Topic) (message : μ) (mustDeliver : Bool)
    (sockets : Uuid → Socket) : Delivery s (s.send cfg t message mustDeliver sockets) := by
  unfold Sys.send
  split
  · exact ⟨rfl, rfl, nofun⟩
  next subs hsubs =>
    refine Delivery.deliver (fun id hid => ?_) ⟨rfl, rfl, nofun⟩
    rwa [Index.members, hsubs]

theorem Delivery.tickOne {cfg : Config} {s : Sys} {now : ℤ} {sockets : Topic → Uuid → Socket}
    {r : Sys × List (Obs μ)} (hD : Delivery s r) (batch : Topic × List Reading) :
    Delivery s (tickOne cfg now sockets r batch) := by
  unfold Fanout.tickOne
  split
  · exact hD
  next subs hsubs =>
    rw [hD.byTopic] at hsubs
    have hdeliver : Delivery s
        (Fanout.deliver cfg batch.1 subs (.batch batch.1 batch.2 now) false (sockets batch.1) r) :=
      hD.deliver fun id hid => by rwa [Index.members, hsubs]
    exact ⟨hdeliver.byTopic, hdeliver.subscribers, hdeliver.obs⟩

theorem delivery_tick (s : Sys) (cfg : Config) (now : ℤ) (sockets : Topic → Uuid → Socket) :
    Delivery s (s.tick cfg now sockets : Sys × List (Obs μ)) := by
  have hstart : Delivery (μ := μ) s ({ s with pending := .empty }, []) := ⟨rfl, rfl, nofun⟩
  exact s.pending.entries.foldlRecOn _ hstart fun r hD batch _ => hD.tickOne batch

/-! ## Every step -/

theorem Indexed.step {cfg : Config} {s s' : Sys} {a : Act μ} {o : List (Obs μ)} (hI : Indexed s)
    (hs : step cfg s a = some (s', o)) : Indexed s' := by
  cases a with
  | add id =>
    simp only [Fanout.step] at hs
    split_ifs at hs with hnew
    cases hs
    exact hI.congr rfl (add_topicsOf (by simpa using hnew))
  | authenticate id tenantId =>
    cases hs
    exact hI.congr (authenticate_byTopic s id tenantId) (authenticate_topicsOf s id tenantId)
  | remove id =>
    cases hs
    exact hI.remove id
  | subscribe id wanted =>
    simp only [Fanout.step, Sys.subscribe] at hs
    split at hs
    · cases hs
      exact hI
    · split at hs
      · cases hs
        exact hI
      next tenantId htenant =>
        cases hs
        refine wanted.foldlRecOn (motive := fun r : Sys × List Topic × List (Obs μ) => Indexed r.1) _ hI ?_
        exact fun r hr t _ => hr.subscribeOne t
  | unsubscribe id unwanted =>
    simp only [Fanout.step, Sys.unsubscribe] at hs
    split at hs
    · cases hs
      exact hI
    · cases hs
      exact unwanted.foldlRecOn _ hI fun s hs t _ => hs.unsubscribeOne id t
  | publish sensor reading =>
    cases hs
    exact hI.congr rfl fun _ => rfl
  | send t message mustDeliver sockets =>
    have hD := delivery_send s cfg t message mustDeliver sockets
    rw [Option.some.inj hs] at hD
    exact hI.congr hD.byTopic (topicsOf_congr hD.subscribers)
  | tick now sockets =>
    have hD := delivery_tick (μ := μ) s cfg now sockets
    rw [Option.some.inj hs] at hD
    exact hI.congr hD.byTopic (topicsOf_congr hD.subscribers)
  | refresh owners =>
    cases hs
    exact hI.congr rfl fun _ => rfl

theorem indexed_init (owners : Owners) : Indexed (.init owners) :=
  ⟨fun t id => by simp [Sys.init, Index.members, Sys.topicsOf], nofun⟩

/-! ## How many connections a tenant holds -/

/-- No tenant holds more authenticated connections than it may. -/
def Capped (cfg : Config) (s : Sys) : Prop := ∀ tenantId, s.connectionsFor tenantId ≤ cfg.maxConnectionsPerTenant

/-- A connection is bound by an `auth` frame only. -/
def ByFrame (cfg : Config) (s : Sys) (_ : List (Obs μ)) : Act μ → Prop
  | .authenticate id tenantId => .authenticate id tenantId ∈ (onAuth (μ := μ) cfg s id (some tenantId)).1
  | _ => True

/-- One if the subscriber is bound to the tenant. -/
def Subscriber.bound (tenantId : Uuid) (sub : Subscriber) : ℕ := if sub.tenantId = some tenantId then 1 else 0

theorem Subscriber.bound_le (tenantId : Uuid) (sub : Subscriber) : sub.bound tenantId ≤ 1 := by
  unfold Subscriber.bound
  split_ifs
  · exact Nat.le_refl 1
  · exact Nat.zero_le 1

theorem connectionsFor_eq (s : Sys) (tenantId : Uuid) :
    s.connectionsFor tenantId = (s.subscribers.values.map (Subscriber.bound tenantId)).sum := by
  unfold Sys.connectionsFor
  induction s.subscribers.values with
  | nil => rfl
  | cons sub subs ih =>
    rw [List.countP_cons, List.map_cons, List.sum_cons, ih, add_comm]
    congr 1
    simp [Subscriber.bound]

theorem connectionsFor_congr {s s' : Sys} (h : s'.subscribers = s.subscribers) (tenantId : Uuid) :
    s'.connectionsFor tenantId = s.connectionsFor tenantId := by
  rw [Sys.connectionsFor, h, Sys.connectionsFor]

theorem connectionsFor_setSubscriber (s : Sys) (id : Uuid) (sub : Subscriber) (tenantId : Uuid) :
    (s.setSubscriber id sub).connectionsFor tenantId + (s.subscribers.get? id).elim 0 (Subscriber.bound tenantId) =
      s.connectionsFor tenantId + sub.bound tenantId := by
  rw [connectionsFor_eq, connectionsFor_eq]
  exact sum_values_set (Subscriber.bound tenantId) s.subscribers id sub

theorem connectionsFor_remove_le (s : Sys) (id tenantId : Uuid) :
    (s.remove id).connectionsFor tenantId ≤ s.connectionsFor tenantId := by
  unfold Sys.remove
  split
  · exact Nat.le_refl _
  · exact (List.filter_sublist.map Prod.snd).countP_le

theorem Capped.congr {cfg : Config} {s s' : Sys} (hC : Capped cfg s) (h : s'.subscribers = s.subscribers) :
    Capped cfg s' := fun tenantId => by
  rw [connectionsFor_congr h]
  exact hC tenantId

/-- A subscriber that is put back under the tenant it had. -/
theorem Capped.setSubscriber {cfg : Config} {s : Sys} {id : Uuid} {sub sub' : Subscriber} (hC : Capped cfg s)
    (hsub : s.subscribers.get? id = some sub) (htenant : sub'.tenantId = sub.tenantId) :
    Capped cfg (s.setSubscriber id sub') := fun tenantId => by
  have hcount := connectionsFor_setSubscriber s id sub' tenantId
  have hsame : sub'.bound tenantId = sub.bound tenantId := by rw [Subscriber.bound, htenant, Subscriber.bound]
  rw [hsub, Option.elim_some, hsame] at hcount
  exact (Nat.add_right_cancel hcount).trans_le (hC tenantId)

theorem Capped.subscribeOne {cfg : Config} {id tenantId : Uuid} {r : Sys × List Topic × List (Obs μ)}
    (hC : Capped cfg r.1) (t : Topic) : Capped cfg (subscribeOne id tenantId r t).1 := by
  obtain ⟨-, hs, -⟩ | ⟨sub, hsub, -, heq, -⟩ := subscribeOne_cases id tenantId r t
  · exact hC.congr hs
  · rw [heq]
    have hC' : Capped cfg ({ r.1 with byTopic := r.1.byTopic.join t id } : Sys) := hC.congr rfl
    exact hC'.setSubscriber hsub rfl

theorem Capped.unsubscribeOne {cfg : Config} {s : Sys} (hC : Capped cfg s) (id : Uuid) (t : Topic) :
    Capped cfg (unsubscribeOne id s t) := by
  unfold Fanout.unsubscribeOne
  split
  · exact hC
  next sub hsub =>
    have hC' : Capped cfg ({ s with byTopic := s.byTopic.leave t id } : Sys) := hC.congr rfl
    exact hC'.setSubscriber hsub rfl

/-- The frame finds room for one more. -/
theorem Capped.authenticate {cfg : Config} {s : Sys} {id tenantId : Uuid} (hC : Capped cfg s)
    (hroom : s.connectionsFor tenantId < cfg.maxConnectionsPerTenant) : Capped cfg (s.authenticate id tenantId) := by
  unfold Sys.authenticate
  split
  · exact hC
  next sub hsub =>
    intro tenantId'
    have hcount := connectionsFor_setSubscriber s id { sub with tenantId := some tenantId } tenantId'
    by_cases htenant : tenantId = tenantId'
    · subst htenant
      have hone := Subscriber.bound_le tenantId { sub with tenantId := some tenantId }
      omega
    · have hnone : ({ sub with tenantId := some tenantId } : Subscriber).bound tenantId' = 0 :=
        if_neg fun h => htenant (Option.some.inj h)
      have hle := hC tenantId'
      omega

theorem Capped.step {cfg : Config} {s s' : Sys} {h o : List (Obs μ)} {a : Act μ} (hC : Capped cfg s)
    (hframe : ByFrame cfg s h a) (hs : step cfg s a = some (s', o)) : Capped cfg s' := by
  cases a with
  | add id =>
    simp only [Fanout.step] at hs
    split_ifs at hs with hnew
    cases hs
    intro tenantId
    have hcount := connectionsFor_setSubscriber s id ⟨[], none⟩ tenantId
    have hnone : (⟨[], none⟩ : Subscriber).bound tenantId = 0 := rfl
    have hle := hC tenantId
    rw [Sys.add]
    omega
  | authenticate id tenantId =>
    cases hs
    refine hC.authenticate (Nat.lt_of_not_le fun hfull => ?_)
    simp only [ByFrame, onAuth, if_pos hfull, List.not_mem_nil] at hframe
  | remove id =>
    cases hs
    exact fun tenantId => (connectionsFor_remove_le s id tenantId).trans (hC tenantId)
  | subscribe id wanted =>
    simp only [Fanout.step, Sys.subscribe] at hs
    split at hs
    · cases hs
      exact hC
    · split at hs
      · cases hs
        exact hC
      next tenantId htenant =>
        cases hs
        refine wanted.foldlRecOn (motive := fun r : Sys × List Topic × List (Obs μ) => Capped cfg r.1) _ hC ?_
        exact fun r hr t _ => hr.subscribeOne t
  | unsubscribe id unwanted =>
    simp only [Fanout.step, Sys.unsubscribe] at hs
    split at hs
    · cases hs
      exact hC
    · cases hs
      exact unwanted.foldlRecOn _ hC fun s hs t _ => hs.unsubscribeOne id t
  | publish sensor reading =>
    cases hs
    exact hC.congr rfl
  | send t message mustDeliver sockets =>
    have hD := delivery_send s cfg t message mustDeliver sockets
    rw [Option.some.inj hs] at hD
    exact hC.congr hD.subscribers
  | tick now sockets =>
    have hD := delivery_tick (μ := μ) s cfg now sockets
    rw [Option.some.inj hs] at hD
    exact hC.congr hD.subscribers
  | refresh owners =>
    cases hs
    exact hC.congr rfl

theorem capped_init (cfg : Config) (owners : Owners) : Capped cfg (.init owners) :=
  fun _ => Nat.zero_le _

/-- **The cap.**  No tenant holds more connections than it may, all along a run that binds by `auth` frames. -/
theorem capped_of_frames (cfg : Config) (owners : Owners) {as : List (Act μ)}
    (hframes : (streaming μ cfg).Meets (ByFrame cfg) (.init owners) [] as) :
    (streaming μ cfg).Along (fun s _ => Capped cfg s) (.init owners) [] as :=
  Machine.along_of_meets (I := fun s _ => Capped cfg s) (fun hC hframe hs => hC.step hframe hs) (fun hC => hC)
    (capped_init cfg owners) hframes

end DTwin.Fanout
