import DTwin.Copilot.SimFetch
import Mathlib.Data.Rat.Defs

/-!
# DTwin.Copilot.SimSlot — the process slot for simulation runs

`apps/web/lib/copilot/sim-runner.ts`: `start`, `getRun` and `cancel` of every runner of one web process, over the
one slot they share, with the worker that executes the runs (`apps/sim/app/main.py`).  The worker may take a POST
up that the runner has given up on, and what it answers, and when, is in the labels.

The slot is a lease.  Where no POST is given up that the worker has taken up or may still take up, a run that goes on
unreported is joined by another after 60 s at the soonest (`one_run_at_a_time`).  The lease may end under a run, a run
that is cancelled goes on for a while, and a POST that times out may have started one (`second_run_starts`).
-/

namespace DTwin.Copilot.SimSlot

open Machine
open SimFetch (toLowerCase)

def SIM_REQUEST_TIMEOUT_MS : ℤ := 10000

def COPILOT_SLOT_LEASE_MS : ℤ := 60000

inductive SimStatus | queued | running | completed | failed | cancelled
deriving DecidableEq

/-- `TERMINAL`. -/
def SimStatus.terminal : SimStatus → Bool
  | .completed => true
  | .failed => true
  | .cancelled => true
  | _ => false

/-- What `start` reads of a reply: its status, the run id of its body if that parses, and the worker's own words. -/
structure StartReply where
  status : ℕ
  runId : Option String
  detail : Option String

/-- What `getRun` reads of a reply: whether it is ok, and the run of its body if that parses. -/
structure PolledRun where
  id : String
  status : SimStatus
  progressPct : ℚ
  error : Option String

inductive StartFailure | busy | unavailable | refused
deriving DecidableEq

inductive SimStartResult
  | ok (runId : String)
  | failed (reason : StartFailure) (status : ℕ) (message : String)
deriving DecidableEq

/-- What has become of a POST at the worker. -/
inductive Fate
  | waiting
  | accepted (runId : String)
  | lost
deriving DecidableEq

structure Post where
  since : ℤ
  fate : Fate
  answered : Bool
deriving DecidableEq

/-- A run of this process at the worker. -/
structure SimRun where
  id : String
  executing : Bool
deriving DecidableEq

structure Slot where
  runId : Option String
  since : ℤ
deriving DecidableEq

structure Sys where
  clock : ℤ
  slot : Option Slot
  posts : List Post
  runs : List SimRun

def Sys.init : Sys := ⟨0, none, [], []⟩

/-- The slot's lease is up. -/
def Slot.lapsed (slot : Slot) (now : ℤ) : Bool := COPILOT_SLOT_LEASE_MS ≤ now - slot.since

def Sys.takeSlot (s : Sys) (now : ℤ) : Option Sys :=
  match s.slot with
  | none => some { s with slot := some ⟨none, now⟩ }
  | some slot => if slot.lapsed now then some { s with slot := some ⟨none, now⟩ } else none

/-- A POST that is not answered has not timed out yet. -/
def Sys.inTime (s : Sys) (now : ℤ) : Bool :=
  s.posts.all fun p => p.answered || now ≤ p.since + SIM_REQUEST_TIMEOUT_MS

/-- The slot is for the run, or for a POST that is not answered. -/
def Sys.heldFor (s : Sys) (runId : Option String) : Bool := s.slot.any fun slot => slot.runId = runId.map toLowerCase

def Sys.freeSlotFor (s : Sys) (runId : Option String) : Sys := if s.heldFor runId then { s with slot := none } else s

/-- The run that a reply to a POST says was started. -/
def StartReply.started (r : StartReply) : Option String := if r.status = 202 then r.runId else none

def StartReply.failure (r : StartReply) : SimStartResult :=
  if r.status = 429 then .failed .busy 429 (r.detail.getD "simulator busy")
  else if 500 ≤ r.status ∨ r.status = 202 then
    .failed .unavailable r.status (r.detail.getD ("simulator answered " ++ toString r.status))
  else .failed .refused r.status (r.detail.getD ("simulator refused the run (" ++ toString r.status ++ ")"))

def slotBusy : SimStartResult :=
  .failed .busy 0 "another copilot simulation is running in this service; one runs at a time"

def unavailable : SimStartResult := .failed .unavailable 0 "simulator unavailable"

/-- The slot learns the run it is for. -/
def Sys.label (s : Sys) (runId : String) : Sys :=
  { s with slot := s.slot.map fun slot =>
    if slot.runId = none then { slot with runId := some (toLowerCase runId) } else slot }

/-- What `getRun` makes of a reply; it throws if there is none. -/
def readRun (runId : String) (reply : Option PolledRun) : Option PolledRun :=
  reply.filter fun run => toLowerCase run.id = toLowerCase runId

/-- A reply to a cancel after which the run holds no slot at the worker. -/
def cancelled (status : ℕ) : Bool := (200 ≤ status && status < 300) || status = 404 || status = 409

inductive Act
  /-- A runner asks for the slot, and sends its POST. -/
  | start (now : ℤ)
  /-- The POST is answered, or throws. -/
  | reply (post : ℕ) (reply : Option StartReply)
  /-- `getRun` is answered with a run, or throws. -/
  | poll (runId : String) (reply : Option PolledRun)
  /-- `cancel` is answered with a status, or throws. -/
  | cancel (runId : String) (status : Option ℕ)
  /-- The worker takes a POST up, and executes a run for it. -/
  | accept (post : ℕ) (runId : String)
  /-- A POST is refused by the worker, or never reaches it. -/
  | lose (post : ℕ)
  /-- A run is over. -/
  | finish (runId : String)

inductive Obs
  | posted (post : ℕ)
  | result (post : Option ℕ) (result : SimStartResult)
  | polled (runId : String) (run : Option PolledRun)
  | cancelled (runId : String) (ok : Bool)

/-- A reply names the run that the worker started for the POST, if it names one. -/
def Truthful (r : StartReply) (fate : Fate) : Prop := ∀ runId ∈ r.runId, fate = .accepted runId

instance (r : StartReply) (fate : Fate) : Decidable (Truthful r fate) :=
  inferInstanceAs (Decidable (∀ runId ∈ r.runId, fate = .accepted runId))

def step (s : Sys) : Act → Option (Sys × List Obs)
  | .start now =>
    if now < s.clock ∨ s.inTime now = false then none
    else
      match s.takeSlot now with
      | none => some ({ s with clock := now }, [.result none slotBusy])
      | some t =>
        some ({ t with clock := now, posts := s.posts ++ [⟨now, .waiting, false⟩] }, [.posted s.posts.length])
  | .reply post reply =>
    match s.posts[post]? with
    | some ⟨since, fate, false⟩ =>
      let s := { s with posts := s.posts.set post ⟨since, fate, true⟩ }
      match reply with
      | none => some (s.freeSlotFor none, [.result (some post) unavailable])
      | some r =>
        if Truthful r fate then
          match r.started with
          | some runId => some (s.label runId, [.result (some post) (.ok runId)])
          | none => some (s.freeSlotFor none, [.result (some post) r.failure])
        else none
    | _ => none
  | .poll runId reply =>
    match readRun runId reply with
    | none => some (s, [.polled runId none])
    | some run =>
      some (if run.status.terminal then s.freeSlotFor (some runId) else s, [.polled runId (some run)])
  | .cancel runId status =>
    if status.any SimSlot.cancelled then some (s.freeSlotFor (some runId), [.cancelled runId true])
    else some (s, [.cancelled runId false])
  | .accept post runId =>
    match s.posts[post]? with
    | some ⟨since, .waiting, answered⟩ =>
      if runId ∈ s.runs.map SimRun.id then none
      else some ({ s with
          posts := s.posts.set post ⟨since, .accepted runId, answered⟩
          runs := s.runs ++ [⟨runId, true⟩] }, [])
    | _ => none
  | .lose post =>
    match s.posts[post]? with
    | some ⟨since, .waiting, answered⟩ => some ({ s with posts := s.posts.set post ⟨since, .lost, answered⟩ }, [])
    | _ => none
  | .finish runId =>
    some ({ s with runs := s.runs.map fun r => if r.id = runId then { r with executing := false } else r }, [])

def runner : Machine Sys Act Obs := ⟨step⟩

/-! ## The lease -/

/-- The run of a POST is executing. -/
def executes (runs : List SimRun) (p : Post) : Bool :=
  match p.fate with
  | .accepted runId => runs.any fun r => r.id = runId && r.executing
  | _ => false

/-- The run of a POST is executing, or the worker may still take it up. -/
def live (runs : List SimRun) (p : Post) : Bool := p.fate = .waiting || executes runs p

/-- The process is told that a run is over, or that it is cancelled. -/
def Obs.over (id : String) : Obs → Prop
  | .polled runId (some run) => run.status.terminal = true ∧ toLowerCase runId = id
  | .cancelled runId ok => ok = true ∧ toLowerCase runId = id
  | _ => False

def Told (h : List Obs) (p : Post) : Prop := ∃ runId, p.fate = .accepted runId ∧ ∃ x ∈ h, x.over (toLowerCase runId)

/-- While a run goes on and nothing else was told of it, no POST is sent until its lease is up. -/
def Spaced (s : Sys) (h : List Obs) : Prop :=
  ∀ (i j : ℕ) (p q : Post), i < j → s.posts[i]? = some p → s.posts[j]? = some q → live s.runs p = true → ¬ Told h p →
    p.since + COPILOT_SLOT_LEASE_MS ≤ q.since

/-- A run that goes on unreported, and was started within the lease. -/
def Recent (s : Sys) (h : List Obs) (p : Post) : Prop :=
  live s.runs p = true ∧ ¬ Told h p ∧ s.clock < p.since + COPILOT_SLOT_LEASE_MS

/-- At most one POST is recent. -/
def Single (s : Sys) (h : List Obs) : Prop :=
  ∀ (i j : ℕ) (p q : Post), s.posts[i]? = some p → s.posts[j]? = some q → Recent s h p → Recent s h q → i = j

/-- A POST that is not answered with its run has none, and will have none. -/
def SeesStart (s : Sys) (_ : List Obs) : Act → Prop
  | .reply post reply => reply.bind StartReply.started = none → ∀ p ∈ s.posts[post]?, live s.runs p = false
  | _ => True

instance (s : Sys) (h : List Obs) (a : Act) : Decidable (SeesStart s h a) := by
  cases a <;> unfold SeesStart <;> infer_instance

variable {s s' : Sys} {h o : List Obs} {a : Act} {post : ℕ} {runId : String} {p q : Post} {runs : List SimRun}

theorem Told.mono (hT : Told h p) (hfate : q.fate = p.fate) (o : List Obs) : Told (h ++ o) q := by
  obtain ⟨runId, hp, x, hx, hover⟩ := hT
  exact ⟨runId, hfate.trans hp, x, List.mem_append_left _ hx, hover⟩

/-- What the slot is held for, and until when. -/
structure Leased (s : Sys) (h : List Obs) : Prop where
  /-- A POST that is not answered has the slot, and was the last. -/
  pending : ∀ (i : ℕ) (p : Post), s.posts[i]? = some p → p.answered = false →
    i + 1 = s.posts.length ∧ s.slot = some ⟨none, p.since⟩
  /-- The slot is that of the last POST. -/
  holder : ∀ slot, s.slot = some slot → ∃ p, s.posts.getLast? = some p ∧ p.since = slot.since ∧
    ∀ id ∈ slot.runId, ∃ runId, p.fate = .accepted runId ∧ toLowerCase runId = id
  free : s.slot = none → ∀ p ∈ s.posts.getLast?, live s.runs p = true → Told h p
  past : ∀ p ∈ s.posts, p.since ≤ s.clock
  known : ∀ p ∈ s.posts, ∀ runId, p.fate = .accepted runId → runId ∈ s.runs.map SimRun.id
  spaced : Spaced s h

/-- What becomes of a POST: it comes to no life, and what was told of it stays told. -/
structure Onward (runs : List SimRun) (h : List Obs) (p : Post) (runs' : List SimRun) (h' : List Obs) (p' : Post) :
    Prop where
  since : p'.since = p.since
  live : live runs' p' = true → live runs p = true
  told : Told h p → Told h' p'

theorem Spaced.onward (hS : Spaced s h) (heach : ∀ (i : ℕ) (p' : Post), s'.posts[i]? = some p' →
    ∃ p, s.posts[i]? = some p ∧ Onward s.runs h p s'.runs o p') : Spaced s' o := by
  intro i j p' q' hij hp' hq' hlive htold
  obtain ⟨p, hp, hO⟩ := heach i p' hp'
  obtain ⟨q, hq, hO'⟩ := heach j q' hq'
  rw [hO.since, hO'.since]
  exact hS i j p q hij hp hq (hO.live hlive) fun hT => htold (hO.told hT)

theorem Onward.same (runs : List SimRun) (p : Post) : Onward runs h p runs (h ++ o) p :=
  ⟨rfl, fun hlive => hlive, fun hT => hT.mono rfl o⟩

theorem getElem?_set_or {l : List Post} {i : ℕ} {p' : Post} (h : (l.set post q)[i]? = some p') :
    (i = post ∧ p' = q) ∨ (i ≠ post ∧ l[i]? = some p') := by
  rw [List.getElem?_set] at h
  split_ifs at h with heq hlt
  · exact Or.inl ⟨heq.symm, (Option.some.inj h).symm⟩
  · exact Or.inr ⟨Ne.symm heq, h⟩

theorem mem_set_or {l : List Post} {p' : Post} (h : p' ∈ l.set post q) : p' = q ∨ p' ∈ l :=
  (List.mem_or_eq_of_mem_set h).symm

/-- The last POST after one is changed. -/
theorem getLast?_set {l : List Post} (hp : l[post]? = some p) {x : Post} (hx : x ∈ (l.set post q).getLast?) :
    ∃ y ∈ l.getLast?, x = y ∨ (y = p ∧ x = q) := by
  rw [List.getLast?_eq_getElem?, List.length_set] at hx
  rcases getElem?_set_or hx with ⟨hlast, rfl⟩ | ⟨-, hsame⟩
  · exact ⟨p, by rw [List.getLast?_eq_getElem?, hlast]; exact hp, Or.inr ⟨rfl, rfl⟩⟩
  · exact ⟨x, by rw [List.getLast?_eq_getElem?]; exact hsame, Or.inl rfl⟩

theorem getLast?_of_pending {l : List Post} (hlast : post + 1 = l.length) (hp : l[post]? = some p) :
    l.getLast? = some p := by
  rw [List.getLast?_eq_getElem?, ← hlast, Nat.add_sub_cancel, hp]

/-- Something is told to the process, which may free the slot for it. -/
theorem Leased.tell (hL : Leased s h) {runId : String} {x : Obs} (hover : x.over (toLowerCase runId)) :
    Leased (s.freeSlotFor (some runId)) (h ++ [x]) := by
  have hspaced : Spaced (s.freeSlotFor (some runId)) (h ++ [x]) := by
    refine hL.spaced.onward fun i p hp => ?_
    unfold Sys.freeSlotFor at hp ⊢
    split_ifs at hp ⊢ with hheld
    · exact ⟨p, hp, .same _ _⟩
    · exact ⟨p, hp, .same _ _⟩
  have hfree : s.slot = none → ∀ p ∈ s.posts.getLast?, live s.runs p = true → Told (h ++ [x]) p :=
    fun hnone p hp hlive => (hL.free hnone p hp hlive).mono rfl [x]
  unfold Sys.freeSlotFor at hspaced ⊢
  split_ifs at hspaced ⊢ with hheld
  · obtain ⟨slot, hslot, hid⟩ := (Option.any_eq_true _ _).mp hheld
    obtain ⟨p, hp, hsince, haccepted⟩ := hL.holder slot hslot
    obtain ⟨id, hfate, hlower⟩ := haccepted (toLowerCase runId) (of_decide_eq_true hid)
    refine ⟨fun i q hq hwaits => ?_, fun slot' hnone => (by cases hnone), fun _ q hq _ => ?_, hL.past, hL.known,
      hspaced⟩
    · have hpending := (hL.pending i q hq hwaits).2
      rw [hslot] at hpending
      obtain rfl := Option.some.inj hpending
      cases of_decide_eq_true hid
    · obtain rfl := Option.some.inj (hp.symm.trans hq)
      exact ⟨id, hfate, x, by simp, hlower ▸ hover⟩
  · exact ⟨hL.pending, hL.holder, hfree, hL.past, hL.known, hspaced⟩

theorem Leased.idle (hL : Leased s h) (o : List Obs) : Leased s (h ++ o) where
  pending := hL.pending
  holder := hL.holder
  free hnone p hp hlive := (hL.free hnone p hp hlive).mono rfl o
  past := hL.past
  known := hL.known
  spaced := hL.spaced.onward fun _ p hp => ⟨p, hp, .same _ _⟩

/-- The slot is taken, and its POST sent. -/
theorem Leased.start (hL : Leased s h) {now : ℤ} (hclock : s.clock ≤ now) (htime : s.inTime now = true) {t : Sys}
    (htake : s.takeSlot now = some t) :
    Leased { t with clock := now, posts := s.posts ++ [⟨now, .waiting, false⟩] } (h ++ o) := by
  -- what was sent before, and goes on, was sent long ago
  have hlong : t = { s with slot := some ⟨none, now⟩ } ∧ ∀ p ∈ s.posts.getLast?, live s.runs p = true → ¬ Told h p →
      p.since + COPILOT_SLOT_LEASE_MS ≤ now := by
    unfold Sys.takeSlot at htake
    cases hslot : s.slot with
    | none =>
      simp only [hslot] at htake
      exact ⟨(Option.some.inj htake).symm, fun p hp hlive htold => absurd (hL.free hslot p hp hlive) htold⟩
    | some slot =>
      simp only [hslot] at htake
      split_ifs at htake with hlapsed
      refine ⟨(Option.some.inj htake).symm, fun p hp _ _ => ?_⟩
      obtain ⟨q, hq, hsince, -⟩ := hL.holder slot hslot
      obtain rfl := Option.some.inj (hp.symm.trans hq)
      have hlapsed' : COPILOT_SLOT_LEASE_MS ≤ now - slot.since := of_decide_eq_true hlapsed
      omega
  obtain ⟨rfl, hlong⟩ := hlong
  -- a POST that is not answered would have timed out by then
  have hanswered : ∀ (i : ℕ) (p : Post), s.posts[i]? = some p → p.answered = true := by
    intro i p hp
    by_contra hwaits
    obtain ⟨-, hslot⟩ := hL.pending i p hp (Bool.not_eq_true _ ▸ hwaits)
    have hintime : now ≤ p.since + SIM_REQUEST_TIMEOUT_MS := by
      have hall := List.all_eq_true.mp htime p (List.mem_of_getElem? hp)
      exact of_decide_eq_true ((Bool.or_eq_true _ _ ▸ hall).resolve_left hwaits)
    simp only [Sys.takeSlot, hslot] at htake
    split_ifs at htake with hlapsed
    have hlapsed' : COPILOT_SLOT_LEASE_MS ≤ now - p.since := of_decide_eq_true hlapsed
    simp only [COPILOT_SLOT_LEASE_MS, SIM_REQUEST_TIMEOUT_MS] at hlapsed' hintime
    omega
  have hlast : ∀ {i : ℕ} {q : Post}, (s.posts ++ [⟨now, .waiting, false⟩])[i]? = some q → (s.posts[i]? = some q) ∨
      (i = s.posts.length ∧ q = ⟨now, .waiting, false⟩) := by
    intro i q hq
    by_cases hlt : i < s.posts.length
    · exact Or.inl (List.getElem?_append_left hlt ▸ hq)
    · rw [List.getElem?_append_right (Nat.le_of_not_lt hlt)] at hq
      obtain ⟨hlt', heq⟩ := List.getElem?_eq_some_iff.mp hq
      rw [List.length_singleton] at hlt'
      refine Or.inr ⟨by omega, heq.symm.trans ?_⟩
      simp [show i - s.posts.length = 0 by omega]
  refine ⟨fun i p hp hwaits => ?_, fun slot hslot => ?_, fun hnone => (by cases hnone), fun p hp => ?_,
    fun p hp runId hfate => ?_, fun i j p q hij hp hq hlive htold => ?_⟩
  · rcases hlast hp with hold | ⟨rfl, rfl⟩
    · rw [hanswered i p hold] at hwaits
      cases hwaits
    · exact ⟨by simp, rfl⟩
  · obtain rfl := Option.some.inj hslot
    exact ⟨_, List.getLast?_concat, rfl, fun id hid => by cases hid⟩
  · rcases List.mem_append.mp hp with hold | hnew
    · exact Int.le_trans (hL.past p hold) hclock
    · obtain rfl := List.mem_singleton.mp hnew
      exact Int.le_refl now
  · rcases List.mem_append.mp hp with hold | hnew
    · exact hL.known p hold runId hfate
    · rw [List.mem_singleton.mp hnew] at hfate
      cases hfate
  · have htold' : ¬ Told h p := fun hT => htold (hT.mono rfl o)
    rcases hlast hp with hold | ⟨rfl, rfl⟩
    · rcases hlast hq with hold' | ⟨rfl, rfl⟩
      · exact hL.spaced i j p q hij hold hold' hlive htold'
      · by_cases hlastp : i + 1 = s.posts.length
        · exact hlong p (getLast?_of_pending hlastp hold) hlive htold'
        · -- it was followed by another, which was sent long after it
          have hlt : s.posts.length - 1 < s.posts.length := by omega
          obtain ⟨r, hr⟩ : ∃ r, s.posts[s.posts.length - 1]? = some r := ⟨_, List.getElem?_eq_getElem hlt⟩
          have hspaced := hL.spaced i (s.posts.length - 1) p r (by omega) hold hr hlive htold'
          exact Int.le_trans hspaced (Int.le_trans (hL.past r (List.mem_of_getElem? hr)) hclock)
    · rcases hlast hq with hold' | ⟨rfl, -⟩
      · have hlt := (List.getElem?_eq_some_iff.mp hold').1
        omega
      · exact absurd hij (lt_irrefl _)

/-- The POST that has the slot is answered: the slot is for its run then, or free if it has none. -/
theorem Leased.answer (hL : Leased s h) (hp : s.posts[post]? = some p) (hwaits : p.answered = false)
    {slot : Option Slot} (hholder : ∀ x ∈ slot, x.since = p.since ∧ ∀ id ∈ x.runId, ∃ runId,
      p.fate = .accepted runId ∧ toLowerCase runId = id) (hfree : slot = none → live s.runs p = false) :
    Leased { s with slot, posts := s.posts.set post { p with answered := true } } (h ++ o) := by
  obtain ⟨hlast, -⟩ := hL.pending post p hp hwaits
  have hlast' : (s.posts.set post { p with answered := true }).getLast? = some { p with answered := true } := by
    have hset := List.getElem?_set_self (a := { p with answered := true }) (List.getElem?_eq_some_iff.mp hp).1
    exact getLast?_of_pending (by rw [List.length_set, hlast]) hset
  refine ⟨fun i q hq hwaits' => ?_, fun x hx => ⟨_, hlast', (hholder x hx).1.symm, (hholder x hx).2⟩,
    fun hnone q hq hlive => ?_, fun q hq => ?_, fun q hq runId hfate => ?_, hL.spaced.onward fun i q hq => ?_⟩
  · rcases getElem?_set_or hq with ⟨rfl, rfl⟩ | ⟨hne, hold⟩
    · cases hwaits'
    · have hlasti := (hL.pending i q hold hwaits').1
      omega
  · obtain rfl := Option.some.inj (hlast'.symm.trans hq)
    exact absurd (show live s.runs p = true from hlive) (by rw [hfree hnone]; exact Bool.false_ne_true)
  · rcases mem_set_or hq with rfl | hold
    · exact hL.past p (List.mem_of_getElem? hp)
    · exact hL.past q hold
  · rcases mem_set_or hq with rfl | hold
    · exact hL.known p (List.mem_of_getElem? hp) runId hfate
    · exact hL.known q hold runId hfate
  · rcases getElem?_set_or hq with ⟨rfl, rfl⟩ | ⟨-, hold⟩
    · exact ⟨p, hp, rfl, fun hlive => hlive, fun hT => hT.mono rfl o⟩
    · exact ⟨q, hold, .same _ _⟩

/-- A POST moves on at the worker, and the runs with it. -/
theorem Leased.move (hL : Leased s h) (hp : s.posts[post]? = some p) (hwaiting : p.fate = .waiting) {fate : Fate}
    (hfate : ∀ runId, fate = .accepted runId → runId ∈ runs.map SimRun.id)
    (hruns : ∀ q ∈ s.posts, live runs q = true → live s.runs q = true)
    (hids : ∀ id ∈ s.runs.map SimRun.id, id ∈ runs.map SimRun.id) :
    Leased { s with posts := s.posts.set post { p with fate }, runs } (h ++ o) := by
  have hlive : live s.runs p = true := by simp [live, hwaiting]
  have htold : ∀ {h}, ¬ Told h p := by
    rintro h ⟨runId, haccepted, -⟩
    rw [hwaiting] at haccepted
    cases haccepted
  refine ⟨fun i q hq hwaits => ?_, fun slot hslot => ?_, fun hnone q hq hliveq => ?_, fun q hq => ?_,
    fun q hq runId haccepted => ?_, hL.spaced.onward fun i q hq => ?_⟩
  · rw [List.length_set]
    rcases getElem?_set_or hq with ⟨rfl, rfl⟩ | ⟨-, hold⟩
    · exact hL.pending i p hp hwaits
    · exact hL.pending i q hold hwaits
  · obtain ⟨y, hy, hsince, hid⟩ := hL.holder slot hslot
    have hne : s.posts.set post { p with fate } ≠ [] := by
      intro hnil
      rw [List.set_eq_nil_iff] at hnil
      rw [hnil] at hp
      cases hp
    refine ⟨_, List.getLast?_eq_some_getLast hne, ?_⟩
    obtain ⟨z, hz, hsame | ⟨rfl, heq⟩⟩ := getLast?_set hp (List.getLast?_eq_some_getLast hne)
    · rw [hsame, ← Option.some.inj (hy.symm.trans hz)]
      exact ⟨hsince, hid⟩
    · obtain rfl := Option.some.inj (hy.symm.trans hz)
      rw [heq]
      refine ⟨hsince, fun id hsome => ?_⟩
      obtain ⟨runId, haccepted, -⟩ := hid id hsome
      rw [hwaiting] at haccepted
      cases haccepted
  · obtain ⟨y, hy, hsame | ⟨rfl, rfl⟩⟩ := getLast?_set hp hq
    · subst hsame
      exact (hL.free hnone q hy (hruns q (List.mem_of_getLast? hy) hliveq)).mono rfl o
    · exact absurd (hL.free hnone y hy hlive) htold
  · rcases mem_set_or hq with rfl | hold
    · exact hL.past p (List.mem_of_getElem? hp)
    · exact hL.past q hold
  · rcases mem_set_or hq with rfl | hold
    · exact hfate runId haccepted
    · exact hids _ (hL.known q hold runId haccepted)
  · rcases getElem?_set_or hq with ⟨rfl, rfl⟩ | ⟨-, hold⟩
    · exact ⟨p, hp, rfl, fun _ => hlive, fun hT => absurd hT htold⟩
    · exact ⟨q, hold, rfl, hruns q (List.mem_of_getElem? hold), fun hT => hT.mono rfl o⟩

/-- A run is over. -/
theorem Leased.finish (hL : Leased s h) (hruns : ∀ q ∈ s.posts, live runs q = true → live s.runs q = true)
    (hids : runs.map SimRun.id = s.runs.map SimRun.id) : Leased { s with runs } (h ++ o) where
  pending := hL.pending
  holder := hL.holder
  free hnone p hp hlive := (hL.free hnone p hp (hruns p (List.mem_of_getLast? hp) hlive)).mono rfl o
  past := hL.past
  known p hp runId hfate := hids ▸ hL.known p hp runId hfate
  spaced := hL.spaced.onward fun _ p hp => ⟨p, hp, rfl, hruns p (List.mem_of_getElem? hp), fun hT => hT.mono rfl o⟩

/-- **One step** in which no POST is given up that the worker has taken up, or may. -/
theorem Leased.step (hL : Leased s h) (hC : SeesStart s h a) (hs : runner.step s a = some (s', o)) :
    Leased s' (h ++ o) := by
  change SimSlot.step s a = some (s', o) at hs
  cases a with
  | start now =>
    simp only [SimSlot.step] at hs
    split_ifs at hs with hnot
    obtain ⟨hclock, htime⟩ := not_or.mp hnot
    split at hs
    · cases hs
      have hI := hL.idle [.result none slotBusy]
      exact ⟨hI.pending, hI.holder, hI.free, fun p hp => Int.le_trans (hI.past p hp) (Int.not_lt.mp hclock), hI.known,
        hI.spaced⟩
    · next t htake =>
      cases hs
      exact hL.start (Int.not_lt.mp hclock) (Bool.not_eq_false _ ▸ htime) htake
  | reply post reply =>
    simp only [SimSlot.step] at hs
    split at hs
    · next since fate hp =>
      have hslot := (hL.pending post _ hp rfl).2
      have hdead : reply.bind StartReply.started = none → live s.runs ⟨since, fate, false⟩ = false := fun hnone =>
        hC hnone _ hp
      have hfree : reply.bind StartReply.started = none → Leased
          (({ s with posts := s.posts.set post ⟨since, fate, true⟩ } : Sys).freeSlotFor none) (h ++ o) := by
        intro hnone
        have hfreed : ({ s with posts := s.posts.set post ⟨since, fate, true⟩ } : Sys).freeSlotFor none =
            { s with slot := none, posts := s.posts.set post ⟨since, fate, true⟩ } := by
          simp [Sys.freeSlotFor, Sys.heldFor, hslot]
        rw [hfreed]
        exact hL.answer hp rfl (fun x hx => by cases hx) fun _ => hdead hnone
      cases reply with
      | none =>
        cases hs
        exact hfree rfl
      | some r =>
        simp only at hs
        split at hs
        · next htruthful =>
          split at hs
          · next runId hstarted =>
            cases hs
            have haccepted : fate = .accepted runId := by
              unfold StartReply.started at hstarted
              split_ifs at hstarted
              exact htruthful runId hstarted
            have hlabelled : ({ s with posts := s.posts.set post ⟨since, fate, true⟩ } : Sys).label runId =
                { s with
                  slot := some ⟨some (toLowerCase runId), since⟩
                  posts := s.posts.set post ⟨since, fate, true⟩ } := by
              simp [Sys.label, hslot]
            rw [hlabelled]
            refine hL.answer hp rfl (fun x hx => ?_) fun hnone => by cases hnone
            obtain rfl := Option.some.inj hx
            exact ⟨rfl, fun id hid => ⟨runId, haccepted, Option.some.inj hid⟩⟩
          · next hnone =>
            cases hs
            exact hfree hnone
        · cases hs
    · cases hs
  | poll runId reply =>
    simp only [SimSlot.step] at hs
    split at hs
    · cases hs
      exact hL.idle _
    · next run hrun =>
      cases hs
      split_ifs with hterminal
      · exact hL.tell ⟨hterminal, rfl⟩
      · exact hL.idle _
  | cancel runId status =>
    simp only [SimSlot.step] at hs
    split_ifs at hs
    · cases hs
      exact hL.tell ⟨rfl, rfl⟩
    · cases hs
      exact hL.idle _
  | accept post runId =>
    simp only [SimSlot.step] at hs
    split at hs
    · next since answered hp =>
      split_ifs at hs with hfresh
      cases hs
      refine hL.move hp rfl (fun id hid => ?_) (fun q hq hlive => ?_) fun id hid => ?_
      · rw [← Fate.accepted.inj hid]
        simp
      · -- the run is not that of another POST
        unfold live executes at hlive ⊢
        cases hfate : q.fate with
        | accepted id =>
          have hne : runId ≠ id := fun heq => hfresh (heq ▸ hL.known q hq id hfate)
          simpa [hfate, hne] using hlive
        | _ => simp_all
      · rw [List.map_append]
        exact List.mem_append_left _ hid
    · cases hs
  | lose post =>
    simp only [SimSlot.step] at hs
    split at hs
    · next since answered hp =>
      cases hs
      exact hL.move hp rfl (fun id hid => by cases hid) (fun _ _ hlive => hlive) fun _ hid => hid
    · cases hs
  | finish runId =>
    cases hs
    refine hL.finish (fun q _ hlive => ?_) ?_
    · unfold live executes at hlive ⊢
      cases hfate : q.fate with
      | accepted id =>
        simp only [hfate, List.any_map, reduceCtorEq, decide_false, Bool.false_or] at hlive ⊢
        obtain ⟨r, hr, hboth⟩ := List.any_eq_true.mp hlive
        refine List.any_eq_true.mpr ⟨r, hr, ?_⟩
        simp only [Function.comp_apply] at hboth
        split_ifs at hboth
        · simp at hboth
        · exact hboth
      | _ => simp_all
    · rw [List.map_map]
      refine List.map_congr_left fun r _ => ?_
      simp only [Function.comp_apply]
      split_ifs <;> rfl

theorem leased_init : Leased .init [] where
  pending i p hp := by cases hp
  holder slot hslot := by cases hslot
  free _ p hp := by cases hp
  past p hp := absurd hp List.not_mem_nil
  known p hp := absurd hp List.not_mem_nil
  spaced i j p q _ hp := by cases hp

/-- What was sent after a recent POST would have been sent after now. -/
theorem Leased.single (hL : Leased s h) : Single s h := by
  have hafter : ∀ (i j : ℕ) (p q : Post), s.posts[i]? = some p → s.posts[j]? = some q → Recent s h p → ¬ i < j := by
    intro i j p q hp hq hrecent hij
    have hspaced := hL.spaced i j p q hij hp hq hrecent.1 hrecent.2.1
    have hpast := hL.past q (List.mem_of_getElem? hq)
    have hrecent' := hrecent.2.2
    omega
  intro i j p q hp hq hrecent hrecent'
  have hij := hafter i j p q hp hq hrecent
  have hji := hafter j i q p hq hp hrecent'
  omega

/-- **One run at a time, for the lease.**  Where no POST is given up that the worker has taken up or may still take up,
no other is sent for 60 s while a run goes on that was not reported over, and at most one such run is younger. -/
theorem one_run_at_a_time {as : List Act} (hC : runner.Meets SeesStart .init [] as) :
    runner.Along (fun s h => Spaced s h ∧ Single s h) .init [] as :=
  along_of_meets (fun hL hC hs => hL.step hC hs) (fun hL => ⟨hL.spaced, hL.single⟩) leased_init hC

def runA : String := "0b9d2c1e-5a53-4c5f-9d5e-3f8f0c2a7b11"

def runB : String := "5f1c3b7a-2e64-4d0c-8b1e-9a7d6c5e4f30"

/-- A run is seen to its end, a POST is refused by the worker, and another run is started. -/
def ordinary : List Act :=
  [.start 0, .accept 0 runA, .reply 0 (some ⟨202, some runA, none⟩), .poll runA (some ⟨runA, .running, 40, none⟩),
    .start 1000, .finish runA, .poll runA (some ⟨runA, .completed, 100, none⟩), .start 2000, .lose 1,
    .reply 1 (some ⟨429, none, some "2 simulation(s) already running; retry when one finishes"⟩), .start 3000,
    .accept 2 runB]

theorem one_run_at_a_time_ordinary : runner.Along (fun s h => Spaced s h ∧ Single s h) .init [] ordinary :=
  one_run_at_a_time (by decide +kernel)

/-- The runs of this process that are executing. -/
def Sys.executing (s : Sys) : ℕ := s.runs.countP SimRun.executing

/-- Neither the polls nor the cancel of a run reach the worker; when the lease is up, another starts. -/
def outlived : List Act :=
  [.start 0, .accept 0 runA, .reply 0 (some ⟨202, some runA, none⟩), .poll runA none, .cancel runA none, .start 60000,
    .accept 1 runB]

/-- A run is cancelled, and another starts before the worker gets to its next step. -/
def cancelledRun : List Act :=
  [.start 0, .accept 0 runA, .reply 0 (some ⟨202, some runA, none⟩), .cancel runA (some 200), .start 5000,
    .accept 1 runB]

/-- The worker takes a POST up, and answers too late: the runner gives up after 10 s, and another starts. -/
def timedOut : List Act :=
  [.start 0, .accept 0 runA, .reply 0 none, .start 10001, .accept 1 runB]

theorem not_along {as : List Act} (hrun : (runner.exec .init as).any (fun r => r.1.executing = 2) = true) :
    ¬ runner.Along (fun s _ => s.executing ≤ 1) .init [] as := by
  intro hA
  obtain ⟨⟨s, h⟩, hr, htwo⟩ := (Option.any_eq_true _ _).mp hrun
  exact absurd (hA.at_end hr) (by rw [of_decide_eq_true htwo]; decide)

/-- Two runs of the process are executing. -/
theorem second_run_starts : ¬ runner.Along (fun s _ => s.executing ≤ 1) .init [] outlived ∧
    ¬ runner.Along (fun s _ => s.executing ≤ 1) .init [] cancelledRun ∧
    ¬ runner.Along (fun s _ => s.executing ≤ 1) .init [] timedOut :=
  ⟨not_along (by decide +kernel), not_along (by decide +kernel), not_along (by decide +kernel)⟩

end DTwin.Copilot.SimSlot
