import DTwin.Lib.Machine
import DTwin.Web.Alerts

/-!
# DTwin.Web.Feed — the alert list across reconnects

The alerts of a tenant on the server, the socket of one dashboard (`apps/web/lib/ws.ts`) with its subscription
(`apps/ingest/src/server.ts`), and the snapshots of the open alerts (`apps/web/components/Dashboard.tsx`).  A change is
committed first and emitted when its statement has come back (`apps/ingest/src/rules/index.ts`); a `subscribe` is taken
up some time after it was sent.  The browser's clock does not go back.

`listeningSince` is set when the ticket is accepted, and the snapshot is requested then.  A change that is emitted
before the subscription, but committed after the rows were read, is in neither (`missed_alert`).  If there is none, the
list is what is open (`alerts_current`).
-/

namespace DTwin.Web.Feed

open OrderedMap Machine
open Rules (AlertState)

/-- What is emitted of an alert. -/
structure Change (κ α : Type*) where
  kind : AlertEventKind
  alert : AlertWithContext κ α

/-- The server's end of the socket. -/
inductive Link
  | none
  | authenticated
  | subscribed
deriving DecidableEq

/-- The browser's end. -/
inductive Phase
  | connecting
  | listening
  | closed (since : ℤ)
deriving DecidableEq

/-- A request for the open alerts. -/
structure Request where
  requestedAt : ℤ
  /-- Made since the present connection was accepted. -/
  current : Bool

/-- What a request reads. -/
structure Rows (κ α : Type*) where
  alerts : List (AlertWithContext κ α)
  /-- How many changes were committed by then. -/
  readAt : ℕ

structure Sys (κ α : Type*) where
  /-- `alerts`. -/
  table : OrderedMap κ (AlertWithContext κ α)
  /-- What was committed, in order. -/
  log : List (Change κ α)
  /-- The places in the log of what is not emitted yet. -/
  due : List ℕ
  link : Link
  /-- Sent and not delivered. -/
  frames : List (Change κ α)
  now : ℤ
  phase : Phase
  listeningSince : Option ℤ
  /-- `listeningSince` or `alertRefresh` has changed. -/
  effectDue : Bool
  fetch : Option (Request × Option (Rows κ α))
  alertSnapshot : Option (Request × Rows κ α)
  alertEvents : List (AlertEvent κ α)

inductive Act (κ α : Type*)
  | openAlert (alert : AlertWithContext κ α)
  | acknowledgeAlert (id : κ) (context : α)
  | resolveAlert (id : κ) (context : α)
  /-- A change is sent on the topics of its sensor too. -/
  | emit (i : ℕ) (others : ℕ)
  | restart
  /-- The ticket is accepted. -/
  | authenticated
  | subscribe
  | deliver
  /-- The server gives the socket up. -/
  | lost
  | closed
  | connect
  /-- Every five minutes. -/
  | refresh
  | effect
  | read
  | land
  | fail
  | tick (ms : ℕ)

variable {κ α : Type*}

def Change.id (c : Change κ α) : κ := c.alert.id

/-- What is open after a change. -/
def Change.outcome (c : Change κ α) : Option (AlertWithContext κ α) :=
  match c.kind with
  | .resolved => none
  | .upsert => some c.alert

def Change.arrive (c : Change κ α) (now : ℤ) : AlertEvent κ α := ⟨c.kind, c.alert, now⟩

def Request.stale (r : Request) : Request := { r with current := false }

variable [DecidableEq κ]

def isOpen (a : AlertWithContext κ α) : Bool := a.state ≠ .resolved

namespace Sys

/-- `WHERE a.state <> 'resolved'`. -/
def openAlerts (s : Sys κ α) : List (AlertWithContext κ α) := s.table.values.filter isOpen

def commit (s : Sys κ α) (c : Change κ α) : Sys κ α :=
  { s with table := s.table.set c.id c.alert, log := s.log ++ [c], due := s.due ++ [s.log.length] }

/-- `#emit`: for each topic of the change that the socket is subscribed to, its tenant's among them. -/
def emit (s : Sys κ α) (i : ℕ) (c : Change κ α) (others : ℕ) : Sys κ α :=
  { s with
    due := s.due.erase i
    frames := if s.link = .subscribed then s.frames ++ List.replicate (others + 1) c else s.frames }

def restart (s : Sys κ α) : Sys κ α := { s with due := [], link := .none }

def authenticated (s : Sys κ α) : Sys κ α :=
  { s with
    link := .authenticated, phase := .listening, listeningSince := some s.now, effectDue := true
    fetch := s.fetch.map fun f => (f.1.stale, f.2)
    alertSnapshot := s.alertSnapshot.map fun v => (v.1.stale, v.2) }

def deliver (s : Sys κ α) (c : Change κ α) (rest : List (Change κ α)) : Sys κ α :=
  { s with frames := rest, alertEvents := appendAlertEvent s.alertEvents (c.arrive s.now) }

/-- `onclose`. -/
def close (s : Sys κ α) : Sys κ α :=
  { s with
    link := .none, frames := [], phase := .closed s.now, listeningSince := none
    effectDue := s.effectDue || s.listeningSince.isSome }

/-- The effect of the snapshot, which cancels the fetch before it. -/
def request (s : Sys κ α) : Sys κ α :=
  { s with effectDue := false, fetch := some (⟨s.now, s.phase = .listening⟩, none) }

def read (s : Sys κ α) (r : Request) : Sys κ α := { s with fetch := some (r, some ⟨s.openAlerts, s.log.length⟩) }

def land (s : Sys κ α) (r : Request) (rows : Rows κ α) : Sys κ α :=
  { s with fetch := none, alertSnapshot := some (r, rows) }

/-- The list on the screen. -/
def displayed (s : Sys κ α) : List (AlertWithContext κ α) :=
  match s.alertSnapshot with
  | none => reconcileAlerts [] none s.alertEvents
  | some v => reconcileAlerts v.2.alerts (some v.1.requestedAt) s.alertEvents

end Sys

/-- A dropped socket is opened again after this long. -/
def retryMs : ℤ := 2000

def step (s : Sys κ α) : Act κ α → Option (Sys κ α)
  | .openAlert a => if (s.table.get? a.id).isNone ∧ a.state = .open then some (s.commit ⟨.upsert, a⟩) else none
  | .acknowledgeAlert id context =>
    match s.table.get? id with
    | some a =>
      if a.state = .open then some (s.commit ⟨.upsert, { a with state := .acknowledged, context }⟩) else none
    | none => none
  | .resolveAlert id context =>
    match s.table.get? id with
    | some a =>
      if a.state ≠ .resolved then some (s.commit ⟨.resolved, { a with state := .resolved, context }⟩) else none
    | none => none
  | .emit i others =>
    match s.log[i]? with
    | some c => if i ∈ s.due then some (s.emit i c others) else none
    | none => none
  | .restart => some s.restart
  | .authenticated => if s.phase = .connecting then some s.authenticated else none
  | .subscribe => if s.link = .authenticated then some { s with link := .subscribed } else none
  | .deliver =>
    match s.frames with
    | c :: rest => some (s.deliver c rest)
    | [] => none
  | .lost => some { s with link := .none }
  | .closed =>
    match s.phase with
    | .closed _ => none
    | _ => some s.close
  | .connect =>
    match s.phase with
    | .closed since => if since + retryMs ≤ s.now then some { s with phase := .connecting } else none
    | _ => none
  | .refresh => some { s with effectDue := true }
  | .effect => if s.effectDue then some s.request else none
  | .read =>
    match s.fetch with
    | some (r, none) => some (s.read r)
    | _ => none
  | .land =>
    match s.fetch with
    | some (r, some rows) => some (s.land r rows)
    | _ => none
  | .fail => some { s with fetch := none }
  | .tick ms => some { s with now := s.now + ms }

def feeding : Machine (Sys κ α) (Act κ α) Empty := ⟨fun s a => (step s a).map fun s' => (s', [])⟩

/-- The page has opened. -/
def Sys.init (now : ℤ) : Sys κ α :=
  ⟨OrderedMap.empty, [], [], .none, [], now, .connecting, none, true, none, none, []⟩

/-! ## What is claimed, and under which condition -/

/-- The client is subscribed, the snapshot that was requested on its acceptance or a later one has landed, and every
change has been sent and delivered. -/
structure Quiet (s : Sys κ α) : Prop where
  subscribed : s.link = .subscribed
  landed : ∃ v, s.alertSnapshot = some v ∧ v.1.current = true
  delivered : s.frames = []
  emitted : s.due = []

/-- The request of the snapshot on display and the one under way, with what they have read. -/
def requests (s : Sys κ α) : List (Request × Option (Rows κ α)) :=
  s.alertSnapshot.toList.map (fun v => (v.1, some v.2)) ++ s.fetch.toList

/-- Those of this connection. -/
def views (s : Sys κ α) : List (Request × Option (Rows κ α)) := (requests s).filter fun v => v.1.current

/-- What the list of events has no room for any more when one comes. -/
def pushedOut (events : List (AlertEvent κ α)) (event : AlertEvent κ α) : List (AlertEvent κ α) :=
  (latestPerAlert events event).take ((latestPerAlert events event).length - maxAlertEvents)

/-- Nothing falls between the snapshot and the stream. -/
def Timely (s : Sys κ α) : Act κ α → Prop
  | .emit i _ =>
    -- the changes of one alert are emitted in their order, and none between the snapshot and the subscription
    (∀ j ∈ s.due, j < i → s.log[j]?.map Change.id ≠ s.log[i]?.map Change.id) ∧
      (s.link = .authenticated → ∀ v ∈ views s, ∀ rows ∈ v.2, i < rows.readAt)
  | .deliver =>
    -- what the list of events has no room for is older than the snapshot
    ∀ c ∈ s.frames.head?, ∀ e ∈ pushedOut s.alertEvents (c.arrive s.now), ∀ v ∈ views s, e.at' < v.1.requestedAt
  | _ => True

instance (s : Sys κ α) : ∀ a : Act κ α, Decidable (Timely s a)
  | .emit i _ => inferInstanceAs (Decidable
      ((∀ j ∈ s.due, j < i → s.log[j]?.map Change.id ≠ s.log[i]?.map Change.id) ∧
        (s.link = .authenticated → ∀ v ∈ views s, ∀ rows ∈ v.2, i < rows.readAt)))
  | .deliver => inferInstanceAs (Decidable
      (∀ c ∈ s.frames.head?, ∀ e ∈ pushedOut s.alertEvents (c.arrive s.now), ∀ v ∈ views s, e.at' < v.1.requestedAt))
  | .openAlert _ | .acknowledgeAlert _ _ | .resolveAlert _ _ | .restart | .authenticated | .subscribe | .lost | .closed
  | .connect | .refresh | .effect | .read | .land | .fail | .tick _ => inferInstanceAs (Decidable True)

/-! ## What a step does -/

inductive Took (s : Sys κ α) : Act κ α → Sys κ α → Prop
  | commit {a : Act κ α} (c : Change κ α) (hstate : c.alert.state = .resolved ↔ c.kind = .resolved) :
      Took s a (s.commit c)
  | emit {i others : ℕ} {c : Change κ α} (hc : s.log[i]? = some c) (hdue : i ∈ s.due) :
      Took s (.emit i others) (s.emit i c others)
  | restart : Took s .restart s.restart
  | authenticated (hphase : s.phase = .connecting) : Took s .authenticated s.authenticated
  | subscribe (hlink : s.link = .authenticated) : Took s .subscribe { s with link := .subscribed }
  | deliver {c : Change κ α} {rest : List (Change κ α)} (hframes : s.frames = c :: rest) :
      Took s .deliver (s.deliver c rest)
  | lost : Took s .lost { s with link := .none }
  | closed : Took s .closed s.close
  | connect {since : ℤ} (hphase : s.phase = .closed since) (hwait : since + retryMs ≤ s.now) :
      Took s .connect { s with phase := .connecting }
  | refresh : Took s .refresh { s with effectDue := true }
  | effect : Took s .effect s.request
  | read {r : Request} (hfetch : s.fetch = some (r, none)) : Took s .read (s.read r)
  | land {r : Request} {rows : Rows κ α} (hfetch : s.fetch = some (r, some rows)) : Took s .land (s.land r rows)
  | fail : Took s .fail { s with fetch := none }
  | tick (ms : ℕ) : Took s (.tick ms) { s with now := s.now + ms }

theorem took_of_step {s s' : Sys κ α} {a : Act κ α} (h : step s a = some s') : Took s a s' := by
  cases a with
  | openAlert a =>
    simp only [step] at h
    split_ifs at h with hnew
    obtain rfl := Option.some.inj h
    exact .commit _ (by simp [hnew.2])
  | acknowledgeAlert id context =>
    simp only [step] at h
    rcases hrow : s.table.get? id with - | a
    · simp [hrow] at h
    · simp only [hrow] at h
      split_ifs at h with hopen
      obtain rfl := Option.some.inj h
      exact .commit _ (by simp)
  | resolveAlert id context =>
    simp only [step] at h
    rcases hrow : s.table.get? id with - | a
    · simp [hrow] at h
    · simp only [hrow] at h
      split_ifs at h with hopen
      obtain rfl := Option.some.inj h
      exact .commit _ (by simp)
  | emit i others =>
    simp only [step] at h
    rcases hc : s.log[i]? with - | c
    · simp [hc] at h
    · simp only [hc] at h
      split_ifs at h with hdue
      obtain rfl := Option.some.inj h
      exact .emit hc hdue
  | restart =>
    obtain rfl := Option.some.inj h
    exact .restart
  | authenticated =>
    simp only [step] at h
    split_ifs at h with hphase
    obtain rfl := Option.some.inj h
    exact .authenticated hphase
  | subscribe =>
    simp only [step] at h
    split_ifs at h with hlink
    obtain rfl := Option.some.inj h
    exact .subscribe hlink
  | deliver =>
    simp only [step] at h
    rcases hframes : s.frames with - | ⟨c, rest⟩
    · simp [hframes] at h
    · simp only [hframes] at h
      obtain rfl := Option.some.inj h
      exact .deliver hframes
  | lost =>
    obtain rfl := Option.some.inj h
    exact .lost
  | closed =>
    simp only [step] at h
    rcases hphase : s.phase with - | - | since
    · simp only [hphase] at h
      obtain rfl := Option.some.inj h
      exact .closed
    · simp only [hphase] at h
      obtain rfl := Option.some.inj h
      exact .closed
    · simp [hphase] at h
  | connect =>
    simp only [step] at h
    rcases hphase : s.phase with - | - | since
    · simp [hphase] at h
    · simp [hphase] at h
    · simp only [hphase] at h
      split_ifs at h with hwait
      obtain rfl := Option.some.inj h
      exact .connect hphase hwait
  | refresh =>
    obtain rfl := Option.some.inj h
    exact .refresh
  | effect =>
    simp only [step] at h
    split_ifs at h with hdue
    obtain rfl := Option.some.inj h
    exact .effect
  | read =>
    simp only [step] at h
    rcases hfetch : s.fetch with - | ⟨r, - | rows⟩
    · simp [hfetch] at h
    · simp only [hfetch] at h
      obtain rfl := Option.some.inj h
      exact .read hfetch
    · simp [hfetch] at h
  | land =>
    simp only [step] at h
    rcases hfetch : s.fetch with - | ⟨r, - | rows⟩
    · simp [hfetch] at h
    · simp [hfetch] at h
    · simp only [hfetch] at h
      obtain rfl := Option.some.inj h
      exact .land hfetch
  | fail =>
    obtain rfl := Option.some.inj h
    exact .fail
  | tick ms =>
    obtain rfl := Option.some.inj h
    exact .tick ms

/-! ## The log and the table -/

section Log

variable {log : List (Change κ α)} {due : List ℕ} {k : κ} {c : Change κ α} {i : ℕ}

/-- A change of an alert that has been emitted. -/
def Emitted (log : List (Change κ α)) (due : List ℕ) (k : κ) (i : ℕ) : Prop :=
  i ∉ due ∧ ∃ c, log[i]? = some c ∧ c.id = k

/-- It is the last one that has been. -/
def LastEmitted (log : List (Change κ α)) (due : List ℕ) (k : κ) (c : Change κ α) : Prop :=
  ∃ i, log[i]? = some c ∧ c.id = k ∧ i ∉ due ∧ ∀ j, Emitted log due k j → j ≤ i

/-- The table is what the log says, and the changes of an alert are emitted in order. -/
structure Committed (table : OrderedMap κ (AlertWithContext κ α)) (log : List (Change κ α)) (due : List ℕ) : Prop where
  get?_eq : ∀ k, table.get? k = (lastOf Change.id k log).map Change.alert
  states : ∀ c ∈ log, c.alert.state = .resolved ↔ c.kind = .resolved
  placed : ∀ i ∈ due, i < log.length
  nodup : due.Nodup
  inOrder : ∀ i ∈ due, ∀ c, log[i]? = some c → ∀ j, Emitted log due c.id j → j < i

/-- The last change of an alert is the one that none comes after. -/
theorem lastOf_eq_of_last (hc : log[i]? = some c) (hlast : ∀ j d, log[j]? = some d → d.id = c.id → j ≤ i) :
    lastOf Change.id c.id log = some c := by
  obtain ⟨hlt, hget⟩ := List.getElem?_eq_some_iff.mp hc
  have hsplit : log = log.take (i + 1) ++ log.drop (i + 1) := (List.take_append_drop _ _).symm
  have hafter : lastOf Change.id c.id (log.drop (i + 1)) = none := by
    rw [lastOf_eq_none]
    intro d hd hid
    obtain ⟨j, hj⟩ := List.mem_iff_getElem?.mp hd
    rw [List.getElem?_drop] at hj
    have hle := hlast _ d hj hid
    omega
  rw [hsplit, lastOf_append, hafter, Option.none_or, List.take_succ_eq_append_getElem hlt, lastOf_append,
    lastOf_singleton, hget, if_pos rfl, Option.some_or]

/-- Where all changes of an alert come before a place, those up to it are all. -/
theorem lastOf_take (h : ∀ j d, log[j]? = some d → d.id = k → j < i) :
    lastOf Change.id k (log.take i) = lastOf Change.id k log := by
  have hafter : lastOf Change.id k (log.drop i) = none := by
    rw [lastOf_eq_none]
    intro d hd hid
    obtain ⟨j, hj⟩ := List.mem_iff_getElem?.mp hd
    rw [List.getElem?_drop] at hj
    have hlt := h _ d hj hid
    omega
  conv_rhs => rw [← List.take_append_drop i log, lastOf_append, hafter, Option.none_or]

omit [DecidableEq κ] in
theorem emitted_commit {d : Change κ α} : Emitted (log ++ [d]) (due ++ [log.length]) k i ↔ Emitted log due k i := by
  have hold : ∀ {c}, log[i]? = some c → i < log.length := fun h => (List.getElem?_eq_some_iff.mp h).1
  constructor
  · rintro ⟨hdue, c, hc, hid⟩
    have hne : i ≠ log.length := fun h => hdue (List.mem_append_right _ (List.mem_singleton.mpr h))
    have hlt : i < (log ++ [d]).length := (List.getElem?_eq_some_iff.mp hc).1
    rw [List.length_append, List.length_singleton] at hlt
    rw [List.getElem?_append_left (by omega)] at hc
    exact ⟨fun h => hdue (List.mem_append_left _ h), c, hc, hid⟩
  · rintro ⟨hdue, c, hc, hid⟩
    have hlt := hold hc
    refine ⟨fun h => ?_, c, by rw [List.getElem?_append_left hlt, hc], hid⟩
    rcases List.mem_append.mp h with h | h
    · exact hdue h
    · have heq := List.mem_singleton.mp h
      omega

omit [DecidableEq κ] in
theorem emitted_emit (hdue : due.Nodup) (hi : i ∈ due) (hc : log[i]? = some c) {j : ℕ} :
    Emitted log (due.erase i) k j ↔ Emitted log due k j ∨ j = i ∧ c.id = k := by
  unfold Emitted
  rw [hdue.mem_erase_iff]
  constructor
  · rintro ⟨hj, d, hd, hid⟩
    by_cases hji : j = i
    · subst hji
      rw [hc] at hd
      obtain rfl := Option.some.inj hd
      exact Or.inr ⟨rfl, hid⟩
    · exact Or.inl ⟨fun h => hj ⟨hji, h⟩, d, hd, hid⟩
  · rintro (⟨hj, d, hd, hid⟩ | ⟨rfl, hid⟩)
    · exact ⟨fun h => hj h.2, d, hd, hid⟩
    · exact ⟨fun h => h.1 rfl, c, hc, hid⟩

theorem Committed.commit {table : OrderedMap κ (AlertWithContext κ α)} (h : Committed table log due)
    (hstate : c.alert.state = .resolved ↔ c.kind = .resolved) :
    Committed (table.set c.id c.alert) (log ++ [c]) (due ++ [log.length]) := by
  refine ⟨fun k => ?_, fun d hd => ?_, fun i hi => ?_, ?_, ?_⟩
  · rw [get?_set, lastOf_append, lastOf_singleton]
    by_cases hk : c.id = k
    · rw [if_pos hk, if_pos hk, Option.some_or, Option.map_some]
    · rw [if_neg hk, if_neg hk, Option.none_or, h.get?_eq]
  · rcases List.mem_append.mp hd with hd | hd
    · exact h.states d hd
    · rw [List.mem_singleton.mp hd]
      exact hstate
  · rw [List.length_append, List.length_singleton]
    rcases List.mem_append.mp hi with hi | hi
    · exact Nat.lt_succ_of_lt (h.placed i hi)
    · rw [List.mem_singleton.mp hi]
      exact Nat.lt_succ_self _
  · refine List.nodup_append.mpr ⟨h.nodup, List.nodup_singleton _, ?_⟩
    intro i hi j hj
    rw [List.mem_singleton.mp hj]
    exact (h.placed i hi).ne
  · intro i hi d hd j hj
    rw [emitted_commit] at hj
    rcases List.mem_append.mp hi with hi | hi
    · rw [List.getElem?_append_left (h.placed i hi)] at hd
      exact h.inOrder i hi d hd j hj
    · obtain ⟨-, e, he, -⟩ := hj
      rw [List.mem_singleton.mp hi]
      exact (List.getElem?_eq_some_iff.mp he).1

theorem Committed.emit {table : OrderedMap κ (AlertWithContext κ α)} (h : Committed table log due) (hi : i ∈ due)
    (hc : log[i]? = some c) (hfirst : ∀ j ∈ due, j < i → log[j]?.map Change.id ≠ log[i]?.map Change.id) :
    Committed table log (due.erase i) := by
  refine ⟨h.get?_eq, h.states, fun j hj => h.placed j (List.mem_of_mem_erase hj), h.nodup.erase i, ?_⟩
  intro j hj d hd n hn
  obtain ⟨hji, hj'⟩ := h.nodup.mem_erase_iff.mp hj
  rcases (emitted_emit h.nodup hi hc).mp hn with hn | ⟨rfl, hid⟩
  · exact h.inOrder j hj' d hd n hn
  · -- it is the change that is emitted, and this one is later
    by_contra hle
    have hlt : j < n := by omega
    refine hfirst j hj' hlt ?_
    rw [hd, hc, Option.map_some, Option.map_some, hid]

end Log

/-! ## What is heard of an alert -/

section Stream

variable {frames : List (Change κ α)} {events : List (AlertEvent κ α)} {r t now : ℤ} {k : κ} {c d : Change κ α}

/-- The last change of an alert that is on its way, or has arrived since. -/
def heard (frames : List (Change κ α)) (events : List (AlertEvent κ α)) (r : ℤ) (k : κ) : Option (Change κ α) :=
  (lastOf Change.id k frames).or
    (((lastOf AlertEvent.id k events).filter (AlertEvent.after (some r))).map fun e => ⟨e.kind, e.alert⟩)

omit [DecidableEq κ] in
theorem after_iff {e : AlertEvent κ α} : e.after (some r) = true ↔ r ≤ e.at' := by
  simp [AlertEvent.after]

theorem heard_mono (htr : t ≤ r) (h : heard frames events r k = some c) : heard frames events t k = some c := by
  unfold heard at h ⊢
  rcases hframes : lastOf Change.id k frames with - | d
  · rw [hframes, Option.none_or] at h
    rw [Option.none_or]
    obtain ⟨e, he, rfl⟩ := Option.map_eq_some_iff.mp h
    obtain ⟨he, hafter⟩ := Option.filter_eq_some_iff.mp he
    have hle : t ≤ e.at' := htr.trans (after_iff.mp hafter)
    rw [he, Option.filter_some, if_pos (after_iff.mpr hle), Option.map_some]
  · rw [hframes, Option.some_or] at h
    rw [Option.some_or]
    exact h

/-- Before the first frame nothing is heard that has not arrived since. -/
theorem heard_eq_none (hevents : ∀ e ∈ events, e.at' < r) : heard [] events r k = none := by
  unfold heard
  rw [lastOf_nil, Option.none_or, Option.map_eq_none_iff]
  rcases he : lastOf AlertEvent.id k events with - | e
  · rfl
  · have hlt := hevents e (lastOf_some he).1
    rw [Option.filter_some, if_neg fun h => not_lt.mpr (after_iff.mp h) hlt]

theorem lastOf_replicate (n : ℕ) :
    lastOf Change.id k (List.replicate (n + 1) c) = if c.id = k then some c else none := by
  rw [List.replicate_succ', lastOf_append, lastOf_singleton]
  by_cases hk : c.id = k
  · rw [if_pos hk, Option.some_or]
  · rw [if_neg hk, Option.none_or, lastOf_eq_none]
    intro d hd
    rw [List.eq_of_mem_replicate hd]
    exact hk

theorem heard_emit (n : ℕ) : heard (frames ++ List.replicate (n + 1) c) events r k =
    if c.id = k then some c else heard frames events r k := by
  unfold heard
  rw [lastOf_append, lastOf_replicate]
  by_cases hk : c.id = k
  · rw [if_pos hk, if_pos hk, Option.some_or, Option.some_or]
  · rw [if_neg hk, if_neg hk, Option.none_or]

theorem appendAlertEvent_eq (events : List (AlertEvent κ α)) (event : AlertEvent κ α) :
    pushedOut events event ++ appendAlertEvent events event = latestPerAlert events event := by
  unfold pushedOut appendAlertEvent
  dsimp only
  split_ifs with hroom
  · exact List.take_append_drop _ _
  · rw [Nat.sub_eq_zero_of_le (not_lt.mp hroom), List.take_zero, List.nil_append]

theorem lastOf_appendAlertEvent (events : List (AlertEvent κ α)) (event : AlertEvent κ α) (k : κ) :
    (lastOf AlertEvent.id k (appendAlertEvent events event)).or (lastOf AlertEvent.id k (pushedOut events event)) =
      if event.id = k then some event else lastOf AlertEvent.id k events := by
  rw [← lastOf_append, appendAlertEvent_eq, lastOf_latestPerAlert, lastOf_append, lastOf_singleton]
  by_cases hk : event.id = k
  · rw [if_pos hk, if_pos hk, Option.some_or]
  · rw [if_neg hk, if_neg hk, Option.none_or]

/-- What is heard after a delivery was heard before it. -/
theorem heard_of_deliver (h : heard frames (appendAlertEvent events (c.arrive now)) r k = some d) :
    heard (c :: frames) events r k = some d := by
  unfold heard at h ⊢
  have hcons : c :: frames = [c] ++ frames := rfl
  rw [hcons, lastOf_append, lastOf_singleton]
  rcases hframes : lastOf Change.id k frames with - | e
  · rw [hframes, Option.none_or] at h
    obtain ⟨e, he, rfl⟩ := Option.map_eq_some_iff.mp h
    obtain ⟨he, hafter⟩ := Option.filter_eq_some_iff.mp he
    have hlast := lastOf_appendAlertEvent events (c.arrive now) k
    rw [he, Option.some_or] at hlast
    by_cases hk : c.id = k
    · have hsame : (c.arrive now).id = k := hk
      rw [if_pos hsame] at hlast
      obtain rfl := Option.some.inj hlast
      rw [if_pos hk, Option.none_or, Option.some_or]
      rfl
    · have hother : ¬ (c.arrive now).id = k := hk
      rw [if_neg hother] at hlast
      rw [if_neg hk, Option.none_or, Option.none_or, ← hlast, Option.filter_some, if_pos hafter, Option.map_some]
  · rw [hframes, Option.some_or] at h
    rw [Option.some_or, Option.some_or, h]

/-- What is heard is not lost by a delivery, if what is pushed out is older. -/
theorem heard_deliver_eq_none (hnow : r ≤ now) (hpushed : ∀ e ∈ pushedOut events (c.arrive now), e.at' < r)
    (h : heard frames (appendAlertEvent events (c.arrive now)) r k = none) : heard (c :: frames) events r k = none := by
  unfold heard at h ⊢
  have hcons : c :: frames = [c] ++ frames := rfl
  rw [Option.or_eq_none_iff, Option.map_eq_none_iff] at h
  obtain ⟨hframes, hevents⟩ := h
  have hlast := lastOf_appendAlertEvent events (c.arrive now) k
  have hcut : ∀ e, lastOf AlertEvent.id k (appendAlertEvent events (c.arrive now)) = some e → e.at' < r := by
    intro e he
    rw [he, Option.filter_some] at hevents
    by_contra hle
    rw [if_pos (after_iff.mpr (not_lt.mp hle))] at hevents
    cases hevents
  have hk : ¬ c.id = k := by
    intro hk
    have hsame : (c.arrive now).id = k := hk
    rw [if_pos hsame] at hlast
    rcases Option.or_eq_some_iff.mp hlast with h | ⟨-, h⟩
    · exact absurd (hcut _ h) (not_lt.mpr hnow)
    · exact absurd (hpushed _ (lastOf_some h).1) (not_lt.mpr hnow)
  have hother : ¬ (c.arrive now).id = k := hk
  rw [if_neg hother] at hlast
  rw [hcons, lastOf_append, lastOf_singleton, hframes, if_neg hk, Option.none_or, Option.none_or,
    Option.map_eq_none_iff]
  rcases he : lastOf AlertEvent.id k events with - | e
  · rfl
  · rw [he] at hlast
    have hlt : e.at' < r := by
      rcases Option.or_eq_some_iff.mp hlast with h | ⟨-, h⟩
      · exact hcut e h
      · exact hpushed e (lastOf_some h).1
    rw [Option.filter_some, if_neg fun h => not_lt.mpr (after_iff.mp h) hlt]

end Stream

/-! ## The snapshot -/

section Rows

variable {table : OrderedMap κ (AlertWithContext κ α)} {log : List (Change κ α)} {due : List ℕ}

/-- What the log says is open. -/
def openIn (log : List (Change κ α)) (k : κ) : Option (AlertWithContext κ α) :=
  (lastOf Change.id k log).bind Change.outcome

theorem Committed.id_eq (h : Committed table log due) {k : κ} {a : AlertWithContext κ α} (ha : table.get? k = some a) :
    a.id = k := by
  rw [h.get?_eq] at ha
  obtain ⟨c, hc, rfl⟩ := Option.map_eq_some_iff.mp ha
  exact (lastOf_some hc).2

theorem Committed.openIn_eq (h : Committed table log due) (k : κ) : (table.get? k).filter isOpen = openIn log k := by
  rw [h.get?_eq, openIn]
  rcases hc : lastOf Change.id k log with - | c
  · rfl
  · have hstate := h.states c (lastOf_some hc).1
    rw [Option.map_some, Option.filter_some, Option.bind_some]
    unfold isOpen Change.outcome
    rcases hkind : c.kind with - | -
    · rw [if_pos]
      simp [hstate, hkind]
    · rw [if_neg]
      simp [hstate, hkind]

theorem Committed.nodup_ids (h : Committed table log due) : (table.values.map AlertWithContext.id).Nodup := by
  have hkeys : table.values.map AlertWithContext.id = table.keys := by
    unfold OrderedMap.values OrderedMap.keys
    rw [List.map_map]
    refine List.map_congr_left fun e he => ?_
    exact h.id_eq (mem_entries.mp he)
  rw [hkeys]
  exact table.nodup

/-- What is read is what is open. -/
theorem Committed.lastOf_open (h : Committed table log due) (k : κ) :
    lastOf AlertWithContext.id k (table.values.filter isOpen) = openIn log k := by
  have hnodup : ((table.values.filter isOpen).map AlertWithContext.id).Nodup :=
    h.nodup_ids.sublist (List.filter_sublist.map _)
  rw [← h.openIn_eq]
  refine Option.ext fun a => ?_
  rw [Option.filter_eq_some_iff]
  constructor
  · intro ha
    obtain ⟨hmem, hid⟩ := lastOf_some ha
    obtain ⟨hvalue, hopen⟩ := List.mem_filter.mp hmem
    obtain ⟨k', hk'⟩ := mem_values.mp hvalue
    have hsame := h.id_eq hk'
    rw [hid] at hsame
    rw [hsame]
    exact ⟨hk', hopen⟩
  · rintro ⟨ha, hopen⟩
    have hmem : a ∈ table.values.filter isOpen := List.mem_filter.mpr ⟨mem_values.mpr ⟨k, ha⟩, hopen⟩
    rw [← values_ofList hnodup, mem_values_ofList, h.id_eq ha] at hmem
    exact hmem

end Rows

/-! ## The invariant -/

/-- Frames arrive in order. -/
structure Arrived (events : List (AlertEvent κ α)) (now : ℤ) : Prop where
  inOrder : InArrivalOrder events
  past : ∀ e ∈ events, e.at' ≤ now

/-- Between two connections nothing is under way, and what has arrived has done so a while ago. -/
def Resting (link : Link) (frames : List (Change κ α)) (events : List (AlertEvent κ α)) (now : ℤ) : Phase → Prop
  | .connecting => link = .none ∧ frames = [] ∧ ∀ e ∈ events, e.at' < now
  | .listening => True
  | .closed since => link = .none ∧ frames = [] ∧ since ≤ now ∧ ∀ e ∈ events, e.at' ≤ since

structure Sound (s : Sys κ α) : Prop where
  committed : Committed s.table s.log s.due
  arrived : Arrived s.alertEvents s.now
  resting : Resting s.link s.frames s.alertEvents s.now s.phase
  rows : ∀ v ∈ requests s, ∀ rows ∈ v.2, rows.readAt ≤ s.log.length ∧
    ∀ k, lastOf AlertWithContext.id k rows.alerts = openIn (s.log.take rows.readAt) k

/-- Snapshot and stream join, for a connection accepted at `t`. -/
structure Joined (s : Sys κ α) (t : ℤ) : Prop where
  past : t ≤ s.now
  requested : ∀ v ∈ views s, t ≤ v.1.requestedAt ∧ v.1.requestedAt ≤ s.now
  /-- What is heard of an alert is the last that was emitted of it. -/
  fresh : ∀ k c, heard s.frames s.alertEvents t k = some c → LastEmitted s.log s.due k c
  waiting : s.link = .authenticated → s.frames = [] ∧ ∀ e ∈ s.alertEvents, e.at' < t
  /-- Of an alert of which nothing is heard, everything was committed before the rows were read. -/
  covered : ∀ v ∈ views s, ∀ rows ∈ v.2, ∀ k, heard s.frames s.alertEvents v.1.requestedAt k = none →
    ∀ j, Emitted s.log s.due k j → j < rows.readAt

omit [DecidableEq κ] in
theorem mem_requests {s : Sys κ α} {v : Request × Option (Rows κ α)} :
    v ∈ requests s ↔ (∃ w, s.alertSnapshot = some w ∧ v = (w.1, some w.2)) ∨ s.fetch = some v := by
  unfold requests
  rw [List.mem_append, List.mem_map, Option.mem_toList]
  constructor
  · rintro (⟨w, hw, rfl⟩ | hv)
    · exact Or.inl ⟨w, Option.mem_toList.mp hw, rfl⟩
    · exact Or.inr hv
  · rintro (⟨w, hw, rfl⟩ | hv)
    · exact Or.inl ⟨w, Option.mem_toList.mpr hw, rfl⟩
    · exact Or.inr hv

omit [DecidableEq κ] in
theorem mem_views {s : Sys κ α} {v : Request × Option (Rows κ α)} :
    v ∈ views s ↔ v ∈ requests s ∧ v.1.current = true := List.mem_filter

section Step

variable {s s' : Sys κ α} {a : Act κ α}

omit [DecidableEq κ] in
theorem Resting.linked {link : Link} {frames : List (Change κ α)} {events : List (AlertEvent κ α)} {now : ℤ}
    {phase : Phase} (h : Resting link frames events now phase) (hlink : link ≠ .none) : phase = .listening := by
  cases phase with
  | connecting => exact absurd h.1 hlink
  | listening => rfl
  | closed since => exact absurd h.1 hlink

omit [DecidableEq κ] in
theorem Resting.delivering {link : Link} {frames : List (Change κ α)} {events : List (AlertEvent κ α)} {now : ℤ}
    {phase : Phase} (h : Resting link frames events now phase) (hframes : frames ≠ []) : phase = .listening := by
  cases phase with
  | connecting => exact absurd h.2.1 hframes
  | listening => rfl
  | closed since => exact absurd h.2.1 hframes

omit [DecidableEq κ] in
theorem Resting.later {link : Link} {frames : List (Change κ α)} {events : List (AlertEvent κ α)} {now now' : ℤ}
    {phase : Phase} (h : Resting link frames events now phase) (hle : now ≤ now') :
    Resting .none frames events now' phase := by
  cases phase with
  | connecting => exact ⟨rfl, h.2.1, fun e he => (h.2.2 e he).trans_le hle⟩
  | listening => trivial
  | closed since => exact ⟨rfl, h.2.1, h.2.2.1.trans hle, h.2.2.2⟩

omit [DecidableEq κ] in
theorem resting_of_listening {link : Link} {frames : List (Change κ α)} {events : List (AlertEvent κ α)} {now : ℤ}
    {phase : Phase} (h : phase = .listening) : Resting link frames events now phase := by
  subst h
  trivial

theorem Arrived.deliver (h : Arrived s.alertEvents s.now) (c : Change κ α) :
    Arrived (appendAlertEvent s.alertEvents (c.arrive s.now)) s.now := by
  have hsub : (appendAlertEvent s.alertEvents (c.arrive s.now)).Sublist (s.alertEvents ++ [c.arrive s.now]) := by
    have hlatest : (latestPerAlert s.alertEvents (c.arrive s.now)).Sublist (s.alertEvents ++ [c.arrive s.now]) :=
      List.filter_sublist.append_right _
    rw [← appendAlertEvent_eq] at hlatest
    exact (List.sublist_append_right _ _).trans hlatest
  have hpast : ∀ e ∈ s.alertEvents ++ [c.arrive s.now], e.at' ≤ s.now := by
    intro e he
    rcases List.mem_append.mp he with he | he
    · exact h.past e he
    · rw [List.mem_singleton.mp he]
      exact le_rfl
  refine ⟨List.Pairwise.sublist hsub ?_, fun e he => hpast e (hsub.subset he)⟩
  refine List.pairwise_append.mpr ⟨h.inOrder, List.pairwise_singleton _ _, ?_⟩
  intro e he e' he'
  rw [List.mem_singleton.mp he']
  exact h.past e he

theorem Sound.step (h : Sound s) (ht : Took s a s') (hC : Timely s a) : Sound s' := by
  cases ht with
  | commit c hstate =>
    refine ⟨h.committed.commit hstate, h.arrived, h.resting, fun v hv rows hrows => ?_⟩
    obtain ⟨hle, hopen⟩ := h.rows v hv rows hrows
    refine ⟨?_, fun k => ?_⟩
    · show rows.readAt ≤ (s.log ++ [c]).length
      rw [List.length_append]
      exact hle.trans (Nat.le_add_right _ _)
    · show _ = openIn ((s.log ++ [c]).take rows.readAt) k
      rw [List.take_append_of_le_length hle]
      exact hopen k
  | @emit i others c hc hdue =>
    refine ⟨h.committed.emit hdue hc hC.1, h.arrived, ?_, h.rows⟩
    show Resting s.link (if s.link = .subscribed then _ else s.frames) s.alertEvents s.now s.phase
    by_cases hlink : s.link = .none
    · rw [if_neg (by rw [hlink]; decide)]
      exact h.resting
    · exact resting_of_listening (h.resting.linked hlink)
  | restart =>
    refine ⟨⟨h.committed.get?_eq, h.committed.states, ?_, List.nodup_nil, ?_⟩, h.arrived, ?_, h.rows⟩
    · intro i hi
      cases hi
    · intro i hi
      cases hi
    · exact h.resting.later le_rfl
  | authenticated hphase =>
    refine ⟨h.committed, h.arrived, resting_of_listening rfl, fun v hv rows hrows => ?_⟩
    rcases mem_requests.mp hv with ⟨w, hw, rfl⟩ | hv
    · obtain ⟨w', hw', rfl⟩ := Option.map_eq_some_iff.mp hw
      exact h.rows (w'.1, some w'.2) (mem_requests.mpr (Or.inl ⟨w', hw', rfl⟩)) rows hrows
    · obtain ⟨v', hv', rfl⟩ := Option.map_eq_some_iff.mp hv
      exact h.rows v' (mem_requests.mpr (Or.inr hv')) rows hrows
  | subscribe hlink =>
    refine ⟨h.committed, h.arrived, resting_of_listening ?_, h.rows⟩
    exact h.resting.linked (by rw [hlink]; decide)
  | @deliver c rest hframes =>
    refine ⟨h.committed, h.arrived.deliver c, resting_of_listening ?_, h.rows⟩
    exact h.resting.delivering (by rw [hframes]; exact List.cons_ne_nil _ _)
  | lost => exact ⟨h.committed, h.arrived, h.resting.later le_rfl, h.rows⟩
  | closed => exact ⟨h.committed, h.arrived, ⟨rfl, rfl, le_rfl, h.arrived.past⟩, h.rows⟩
  | @connect since hphase hwait =>
    refine ⟨h.committed, h.arrived, ?_, h.rows⟩
    have hrest := h.resting
    rw [hphase] at hrest
    obtain ⟨hlink, hframes, -, hevents⟩ := hrest
    refine ⟨hlink, hframes, fun e he => ?_⟩
    have hle := hevents e he
    have hms : retryMs = 2000 := rfl
    show e.at' < s.now
    omega
  | refresh => exact ⟨h.committed, h.arrived, h.resting, h.rows⟩
  | effect =>
    refine ⟨h.committed, h.arrived, h.resting, fun v hv rows hrows => ?_⟩
    rcases mem_requests.mp hv with hw | hv
    · exact h.rows v (mem_requests.mpr (Or.inl hw)) rows hrows
    · obtain rfl := Option.some.inj hv
      cases hrows
  | @read r hfetch =>
    refine ⟨h.committed, h.arrived, h.resting, fun v hv rows hrows => ?_⟩
    rcases mem_requests.mp hv with hw | hv
    · exact h.rows v (mem_requests.mpr (Or.inl hw)) rows hrows
    · obtain rfl := Option.some.inj hv
      obtain rfl := Option.some.inj hrows
      refine ⟨le_rfl, fun k => ?_⟩
      show lastOf AlertWithContext.id k (s.table.values.filter isOpen) = openIn (s.log.take s.log.length) k
      rw [List.take_length]
      exact h.committed.lastOf_open k
  | @land r rows hfetch =>
    refine ⟨h.committed, h.arrived, h.resting, fun v hv rows' hrows => ?_⟩
    rcases mem_requests.mp hv with ⟨w, hw, rfl⟩ | hv
    · obtain rfl := Option.some.inj hw
      exact h.rows (r, some rows) (mem_requests.mpr (Or.inr hfetch)) rows' hrows
    · cases hv
  | fail =>
    refine ⟨h.committed, h.arrived, h.resting, fun v hv rows hrows => ?_⟩
    rcases mem_requests.mp hv with hw | hv
    · exact h.rows v (mem_requests.mpr (Or.inl hw)) rows hrows
    · cases hv
  | tick ms =>
    have hle : s.now ≤ s.now + ms := by omega
    refine ⟨h.committed, ⟨h.arrived.inOrder, fun e he => (h.arrived.past e he).trans hle⟩, ?_, h.rows⟩
    by_cases hlink : s.link = .none
    · have hrest := h.resting.later hle
      rw [← hlink] at hrest
      exact hrest
    · exact resting_of_listening (h.resting.linked hlink)

/-- The requests of a connection stay, and there is none that has read otherwise. -/
theorem Joined.of_views {t : ℤ} (h : Joined s t) (hnow : s.now ≤ s'.now) (hlog : s'.log = s.log) (hdue : s'.due = s.due)
    (hframes : s'.frames = s.frames) (hevents : s'.alertEvents = s.alertEvents)
    (hlink : s'.link = .authenticated → s.link = .authenticated) (hviews : ∀ v ∈ views s', v ∈ views s) :
    Joined s' t := by
  refine ⟨h.past.trans hnow, fun v hv => ?_, ?_, ?_, ?_⟩
  · obtain ⟨hle, hle'⟩ := h.requested v (hviews v hv)
    exact ⟨hle, hle'.trans hnow⟩
  · rw [hframes, hevents, hlog, hdue]
    exact h.fresh
  · rw [hframes, hevents]
    exact fun hauth => h.waiting (hlink hauth)
  · rw [hframes, hevents, hlog, hdue]
    exact fun v hv => h.covered v (hviews v hv)

theorem Joined.commit {t : ℤ} (h : Joined s t) (c : Change κ α) : Joined (s.commit c) t := by
  refine ⟨h.past, h.requested, fun k d hd => ?_, h.waiting, fun v hv rows hrows k hnone j hj => ?_⟩
  · obtain ⟨i, hi, hid, hdue, hlast⟩ := h.fresh k d hd
    have hlt : i < s.log.length := (List.getElem?_eq_some_iff.mp hi).1
    have hemitted : Emitted (s.log ++ [c]) (s.due ++ [s.log.length]) k i := emitted_commit.mpr ⟨hdue, d, hi, hid⟩
    refine ⟨i, ?_, hid, hemitted.1, fun j hj => hlast j (emitted_commit.mp hj)⟩
    show (s.log ++ [c])[i]? = some d
    rw [List.getElem?_append_left hlt, hi]
  · exact h.covered v hv rows hrows k hnone j (emitted_commit.mp hj)

theorem Joined.emit {t : ℤ} {i others : ℕ} {c : Change κ α} (h : Joined s t) (hs : Committed s.table s.log s.due)
    (hlink : s.link ≠ .none) (hc : s.log[i]? = some c) (hi : i ∈ s.due) (hC : Timely s (.emit i others)) :
    Joined (s.emit i c others) t := by
  have hemit {k : κ} {j : ℕ} : Emitted s.log (s.due.erase i) k j ↔ Emitted s.log s.due k j ∨ j = i ∧ c.id = k :=
    emitted_emit hs.nodup hi hc
  rcases hsub : s.link with - | - | -
  · exact absurd hsub hlink
  · -- nobody hears it, but it was committed before every reading
    have hframes : (s.emit i c others).frames = s.frames := if_neg (by rw [hsub]; decide)
    obtain ⟨hempty, hevents⟩ := h.waiting hsub
    refine ⟨h.past, h.requested, fun k d hd => ?_, fun _ => ⟨hframes.trans hempty, hevents⟩,
      fun v hv rows hrows k hnone j hj => ?_⟩
    · have hnone : heard s.frames s.alertEvents t k = none := by
        rw [hempty]
        exact heard_eq_none hevents
      rw [hframes] at hd
      have hd' : heard s.frames s.alertEvents t k = some d := hd
      rw [hnone] at hd'
      cases hd'
    · rw [hframes] at hnone
      rcases hemit.mp hj with hj | ⟨rfl, -⟩
      · exact h.covered v hv rows hrows k hnone j hj
      · exact hC.2 hsub v hv rows hrows
  · have hframes : (s.emit i c others).frames = s.frames ++ List.replicate (others + 1) c := if_pos hsub
    have hheard {r : ℤ} {k : κ} : heard (s.emit i c others).frames s.alertEvents r k =
        if c.id = k then some c else heard s.frames s.alertEvents r k := by
      rw [hframes]
      exact heard_emit others
    refine ⟨h.past, h.requested, fun k d hd => ?_, fun hauth => ?_, fun v hv rows hrows k hnone j hj => ?_⟩
    · have hd' := hheard.symm.trans hd
      by_cases hk : c.id = k
      · rw [if_pos hk] at hd'
        obtain rfl := Option.some.inj hd'
        refine ⟨i, hc, hk, (hemit.mpr (Or.inr ⟨rfl, hk⟩)).1, fun j hj => ?_⟩
        rcases hemit.mp hj with hj | ⟨rfl, -⟩
        · rw [← hk] at hj
          exact (hs.inOrder i hi c hc j hj).le
        · exact le_rfl
      · rw [if_neg hk] at hd'
        obtain ⟨n, hn, hid, hdue, hlast⟩ := h.fresh k d hd'
        refine ⟨n, hn, hid, (hemit.mpr (Or.inl ⟨hdue, d, hn, hid⟩)).1, fun j hj => ?_⟩
        rcases hemit.mp hj with hj | ⟨-, hid'⟩
        · exact hlast j hj
        · exact absurd hid' hk
    · have hauth' : s.link = .authenticated := hauth
      rw [hsub] at hauth'
      cases hauth'
    · have hnone' := hheard.symm.trans hnone
      by_cases hk : c.id = k
      · rw [if_pos hk] at hnone'
        cases hnone'
      · rw [if_neg hk] at hnone'
        rcases hemit.mp hj with hj | ⟨-, hid'⟩
        · exact h.covered v hv rows hrows k hnone' j hj
        · exact absurd hid' hk

theorem Joined.deliver {t : ℤ} {c : Change κ α} {rest : List (Change κ α)} (h : Joined s t)
    (hframes : s.frames = c :: rest) (hC : Timely s .deliver) : Joined (s.deliver c rest) t := by
  have hpushed : ∀ v ∈ views s, ∀ e ∈ pushedOut s.alertEvents (c.arrive s.now), e.at' < v.1.requestedAt := by
    intro v hv e he
    exact hC c (by rw [hframes]; rfl) e he v hv
  refine ⟨h.past, h.requested, fun k d hd => h.fresh k d ?_, fun hauth => ?_, fun v hv rows hrows k hnone j hj => ?_⟩
  · rw [hframes]
    exact heard_of_deliver hd
  · have hempty := (h.waiting hauth).1
    rw [hframes] at hempty
    cases hempty
  · refine h.covered v hv rows hrows k ?_ j hj
    rw [hframes]
    exact heard_deliver_eq_none (h.requested v hv).2 (hpushed v hv) hnone

/-- What a step that meets the condition keeps. -/
theorem Joined.step (hs : Sound s) (h : s.link ≠ .none → ∃ t, Joined s t) (ht : Took s a s') (hC : Timely s a) :
    s'.link ≠ .none → ∃ t, Joined s' t := by
  intro hlink
  cases ht with
  | commit c hstate =>
    obtain ⟨t, ht⟩ := h hlink
    exact ⟨t, ht.commit c⟩
  | emit hc hdue =>
    obtain ⟨t, ht⟩ := h hlink
    exact ⟨t, ht.emit hs.committed hlink hc hdue hC⟩
  | restart => exact absurd rfl hlink
  | authenticated hphase =>
    have hrest := hs.resting
    rw [hphase] at hrest
    obtain ⟨-, hframes, hevents⟩ := hrest
    have hviews : ∀ v, v ∉ views s.authenticated := by
      intro v hv
      obtain ⟨hv, hcurrent⟩ := mem_views.mp hv
      rcases mem_requests.mp hv with ⟨w, hw, rfl⟩ | hv
      · obtain ⟨w', -, rfl⟩ := Option.map_eq_some_iff.mp hw
        cases hcurrent
      · obtain ⟨v', -, rfl⟩ := Option.map_eq_some_iff.mp hv
        cases hcurrent
    refine ⟨s.now, le_rfl, fun v hv => absurd hv (hviews v), fun k c hc => ?_, fun _ => ⟨hframes, hevents⟩,
      fun v hv => absurd hv (hviews v)⟩
    have hnone : heard s.frames s.alertEvents s.now k = none := by
      rw [hframes]
      exact heard_eq_none hevents
    have hc' : heard s.frames s.alertEvents s.now k = some c := hc
    rw [hnone] at hc'
    cases hc'
  | subscribe hauth =>
    obtain ⟨t, ht⟩ := h (by rw [hauth]; decide)
    exact ⟨t, ht.of_views le_rfl rfl rfl rfl rfl (fun _ => hauth) fun _ hv => hv⟩
  | deliver hframes =>
    obtain ⟨t, ht⟩ := h hlink
    exact ⟨t, ht.deliver hframes hC⟩
  | lost => exact absurd rfl hlink
  | closed => exact absurd rfl hlink
  | connect hphase hwait =>
    obtain ⟨t, ht⟩ := h hlink
    exact ⟨t, ht.of_views le_rfl rfl rfl rfl rfl id fun _ hv => hv⟩
  | refresh =>
    obtain ⟨t, ht⟩ := h hlink
    exact ⟨t, ht.of_views le_rfl rfl rfl rfl rfl id fun _ hv => hv⟩
  | effect =>
    obtain ⟨t, ht⟩ := h hlink
    have hviews : ∀ v ∈ views s.request, v ∈ views s ∨ v.1.requestedAt = s.now ∧ v.2 = none := by
      intro v hv
      obtain ⟨hv, hcurrent⟩ := mem_views.mp hv
      rcases mem_requests.mp hv with hw | hv
      · exact Or.inl (mem_views.mpr ⟨mem_requests.mpr (Or.inl hw), hcurrent⟩)
      · obtain rfl := Option.some.inj hv
        exact Or.inr ⟨rfl, rfl⟩
    refine ⟨t, ht.past, fun v hv => ?_, ht.fresh, ht.waiting, fun v hv rows hrows => ?_⟩
    · rcases hviews v hv with hv | ⟨hnow, -⟩
      · exact ht.requested v hv
      · rw [hnow]
        exact ⟨ht.past, le_rfl⟩
    · rcases hviews v hv with hv | ⟨-, hnone⟩
      · exact ht.covered v hv rows hrows
      · rw [hnone] at hrows
        cases hrows
  | @read r hfetch =>
    obtain ⟨t, ht⟩ := h hlink
    have hviews : ∀ v ∈ views (s.read r), v ∈ views s ∨
        v.1 = r ∧ (r, none) ∈ views s ∧ v.2 = some ⟨s.openAlerts, s.log.length⟩ := by
      intro v hv
      obtain ⟨hv, hcurrent⟩ := mem_views.mp hv
      rcases mem_requests.mp hv with hw | hv
      · exact Or.inl (mem_views.mpr ⟨mem_requests.mpr (Or.inl hw), hcurrent⟩)
      · obtain rfl := Option.some.inj hv
        exact Or.inr ⟨rfl, mem_views.mpr ⟨mem_requests.mpr (Or.inr hfetch), hcurrent⟩, rfl⟩
    refine ⟨t, ht.past, fun v hv => ?_, ht.fresh, ht.waiting, fun v hv rows hrows k hnone j hj => ?_⟩
    · rcases hviews v hv with hv | ⟨hr, hv, -⟩
      · exact ht.requested v hv
      · rw [hr]
        exact ht.requested _ hv
    · rcases hviews v hv with hv | ⟨-, -, hread⟩
      · exact ht.covered v hv rows hrows k hnone j hj
      · rw [hread] at hrows
        obtain rfl := Option.some.inj hrows
        obtain ⟨-, c, hc, -⟩ := hj
        exact (List.getElem?_eq_some_iff.mp hc).1
  | @land r rows hfetch =>
    obtain ⟨t, ht⟩ := h hlink
    refine ⟨t, ht.of_views le_rfl rfl rfl rfl rfl id fun v hv => ?_⟩
    obtain ⟨hv, hcurrent⟩ := mem_views.mp hv
    rcases mem_requests.mp hv with ⟨w, hw, rfl⟩ | hv
    · obtain rfl := Option.some.inj hw
      exact mem_views.mpr ⟨mem_requests.mpr (Or.inr hfetch), hcurrent⟩
    · cases hv
  | fail =>
    obtain ⟨t, ht⟩ := h hlink
    refine ⟨t, ht.of_views le_rfl rfl rfl rfl rfl id fun v hv => ?_⟩
    obtain ⟨hv, hcurrent⟩ := mem_views.mp hv
    rcases mem_requests.mp hv with hw | hv
    · exact mem_views.mpr ⟨mem_requests.mpr (Or.inl hw), hcurrent⟩
    · cases hv
  | tick ms =>
    obtain ⟨t, ht⟩ := h hlink
    have hle : s.now ≤ s.now + ms := by omega
    exact ⟨t, ht.of_views hle rfl rfl rfl rfl id fun _ hv => hv⟩

end Step

/-! ## What is displayed -/

/-- In a quiet state what is shown of an alert is what is open of it. -/
theorem get?_reconciled_of_quiet {s : Sys κ α} {t : ℤ} (hs : Sound s) (hj : Joined s t) (hq : Quiet s)
    {v : Request × Rows κ α} (hv : s.alertSnapshot = some v) (hcurrent : v.1.current = true) (k : κ) :
    (reconciled v.2.alerts (some v.1.requestedAt) s.alertEvents).get? k = openIn s.log k := by
  have hmem : (v.1, some v.2) ∈ views s := mem_views.mpr ⟨mem_requests.mpr (Or.inl ⟨v, hv, rfl⟩), hcurrent⟩
  have hall {j : ℕ} {c : Change κ α} (hc : s.log[j]? = some c) (hid : c.id = k) : Emitted s.log s.due k j := by
    rw [hq.emitted]
    exact ⟨List.not_mem_nil, c, hc, hid⟩
  rw [get?_reconciled v.2.alerts (some v.1.requestedAt) hs.arrived.inOrder k]
  rcases he : (lastOf AlertEvent.id k s.alertEvents).filter (AlertEvent.after (some v.1.requestedAt)) with - | e
  · -- nothing was heard of it, so its row is as it was read
    have hnone : heard s.frames s.alertEvents v.1.requestedAt k = none := by
      rw [heard, hq.delivered, lastOf_nil, Option.none_or, he, Option.map_none]
    dsimp only
    rw [(hs.rows _ (mem_views.mp hmem).1 v.2 rfl).2 k, openIn, openIn]
    rw [lastOf_take fun j c hc hid => hj.covered _ hmem v.2 rfl k hnone j (hall hc hid)]
  · have hsome : heard s.frames s.alertEvents v.1.requestedAt k = some ⟨e.kind, e.alert⟩ := by
      rw [heard, hq.delivered, lastOf_nil, Option.none_or, he, Option.map_some]
    obtain ⟨i, hi, hid, -, hlast⟩ := hj.fresh k _ (heard_mono (hj.requested _ hmem).1 hsome)
    have hlog := lastOf_eq_of_last hi fun j c hc hsame => hlast j (hall hc (hsame.trans hid))
    rw [hid] at hlog
    rw [openIn, hlog, Option.bind_some]
    rfl

/-- In a quiet state the list is what is open. -/
theorem displayed_perm {s : Sys κ α} {t : ℤ} (hs : Sound s) (hj : Joined s t) (hq : Quiet s) :
    s.displayed.Perm s.openAlerts := by
  obtain ⟨v, hv, hcurrent⟩ := hq.landed
  set shown := reconciled v.2.alerts (some v.1.requestedAt) s.alertEvents with hshown
  have hsame : ∀ k, (shown.filterMapValues (Option.guard isOpen)).get? k =
      (s.table.filterMapValues (Option.guard isOpen)).get? k := by
    intro k
    rw [get?_filterMapValues, get?_filterMapValues, hshown, get?_reconciled_of_quiet hs hj hq hv hcurrent k,
      ← hs.committed.openIn_eq, Option.bind_guard, Option.bind_guard, Option.filter_filter]
    simp only [Bool.and_self]
  have hvalues : (shown.filterMapValues (Option.guard isOpen)).values.Perm
      (s.table.filterMapValues (Option.guard isOpen)).values := (entries_perm hsame).map Prod.snd
  rw [values_filterMapValues, values_filterMapValues, List.filterMap_eq_filter] at hvalues
  unfold Sys.displayed
  rw [hv]
  exact (List.perm_insertionSort _ _).trans hvalues

/-- **The list is what is open.**  In every run in which nothing falls between the snapshot and the stream, whenever the
client is subscribed, a snapshot of this connection has landed and all frames are delivered, the list shows exactly the
alerts that are unresolved in the database. -/
theorem alerts_current (now : ℤ) (as : List (Act κ α))
    (htimely : feeding.Meets (fun s _ a => Timely s a) (Sys.init now) [] as) :
    feeding.Along (fun s _ => Quiet s → s.displayed.Perm s.openAlerts) (Sys.init now) [] as := by
  refine along_of_meets (I := fun s _ => Sound s ∧ (s.link ≠ .none → ∃ t, Joined s t)) ?_ ?_ ?_ htimely
  · rintro s h a s' o ⟨hs, hj⟩ hC hstep
    obtain ⟨s₁, hs₁, heq⟩ := Option.map_eq_some_iff.mp hstep
    obtain ⟨rfl, rfl⟩ := Prod.mk.inj heq
    have ht := took_of_step hs₁
    exact ⟨hs.step ht hC, Joined.step hs hj ht hC⟩
  · rintro s h ⟨hs, hj⟩ hq
    obtain ⟨t, ht⟩ := hj (by rw [hq.subscribed]; decide)
    exact displayed_perm hs ht hq
  · refine ⟨⟨⟨fun k => ?_, ?_, ?_, List.nodup_nil, ?_⟩, ⟨List.Pairwise.nil, ?_⟩, ⟨rfl, rfl, ?_⟩, ?_⟩, ?_⟩
    · rfl
    · intro c hc
      cases hc
    · intro i hi
      cases hi
    · intro i hi
      cases hi
    · intro e he
      cases he
    · intro e he
      cases he
    · intro v hv
      cases hv
    · intro hlink
      exact absurd rfl hlink

/-! ## An alert that is opened meanwhile -/

def warning : AlertWithContext ℕ Unit := ⟨1, .open, .warning, 0, ()⟩

/-- It is opened after the rows were read, and heard on the subscription and on a floor's. -/
def heardRun : List (Act ℕ Unit) :=
  [.authenticated, .effect, .read, .openAlert warning, .subscribe, .emit 0 1, .tick 5, .deliver, .land, .deliver]

theorem alerts_current_heard : ∃ s, feeding.exec (Sys.init 0) heardRun = some (s, []) ∧ Quiet s ∧
    s.openAlerts.length = 1 ∧ s.displayed.Perm s.openAlerts := by
  have halong := alerts_current 0 heardRun (by decide +kernel)
  have hquiet : ∃ s, feeding.exec (Sys.init 0) heardRun = some (s, []) ∧ Quiet s ∧ s.openAlerts.length = 1 :=
    ⟨_, rfl, ⟨rfl, ⟨_, rfl, rfl⟩, rfl, rfl⟩, rfl⟩
  obtain ⟨s, hrun, hs, hone⟩ := hquiet
  exact ⟨s, hrun, hs, hone, halong.at_end hrun hs⟩

/-- The same, with the subscription taken up a moment later. -/
def missedRun : List (Act ℕ Unit) :=
  [.authenticated, .effect, .read, .openAlert warning, .emit 0 1, .subscribe, .tick 5, .land]

/-- **An alert that nobody sees**: it is in neither the snapshot nor the stream. -/
theorem missed_alert : ∃ s, feeding.exec (Sys.init 0) missedRun = some (s, []) ∧ Quiet s ∧ s.openAlerts.length = 1 ∧
    s.displayed.length = 0 ∧ ¬ s.displayed.Perm s.openAlerts := by
  refine ⟨_, rfl, ⟨rfl, ⟨_, rfl, rfl⟩, rfl, rfl⟩, rfl, rfl, fun hperm => ?_⟩
  exact absurd hperm.length_eq (by decide)

end DTwin.Web.Feed
