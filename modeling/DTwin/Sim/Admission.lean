import DTwin.Lib.Semaphore
import DTwin.Sim.Execute

/-!
# DTwin.Sim.Admission — the slots of the simulation worker

`simulate` takes a slot before the row exists and gives it back itself when `create_run` raises; from then on the
background task has it, and gives it back in its `finally`.  `worker` runs any number of requests and tasks,
anything that may raise raising.  `Request.trace` is what a request has done by the time it stands where it stands;
`traced_step` keeps it, and `rationed` reads off it that no slot is leaked or given back twice.
-/

namespace DTwin.Sim

open Machine

/-- Where a call of `simulate` stands, with the run it has created. -/
inductive Request
  /-- Before `_slots.acquire`. -/
  | arrived (tenant : Tenant)
  /-- The slot is taken; `create_run` is next. -/
  | holding (tenant : Tenant)
  /-- `create_run` raised; `_slots.release()` is next. -/
  | releasing
  /-- The row exists; `add_task` is next. -/
  | created (run : Run)
  /-- Answered 202; the task is the server's to run. -/
  | scheduled (run : Run)
  /-- Answered before a slot was taken, 429 included. -/
  | refused (status : ℕ)
  /-- Answered 500 because `create_run` raised. -/
  | failed

/-- What is seen of a request. -/
inductive Event
  | acquired
  | released
  /-- `_slots.release()` raised `ValueError`. -/
  | overReleased
  /-- `INSERT INTO simulation_runs` was committed. -/
  | inserted
  | answered (status : ℕ)
  deriving DecidableEq

/-- The worker: `_slots` and the requests in the order they came. -/
structure Worker where
  slots : BoundedSemaphore
  requests : List Request

/-- What moves: a request, by its position, or its run. -/
inductive WorkerAct
  | arrive (xTenantId : Option String)
  /-- 404, or an exception, before the slot. -/
  | refuse (i status : ℕ)
  | acquire (i : ℕ)
  | createRun (i : ℕ) (raised : Option String)
  | giveBack (i : ℕ)
  | addTask (i : ℕ)
  | run (i : ℕ) (a : Act)

namespace Request

/-- Has the request, or its run, a slot? -/
def holds : Request → Bool
  | .holding _ | .releasing | .created _ => true
  | .scheduled run => run.phase ≠ .returned
  | .arrived _ | .refused _ | .failed => false

/-- What a request has done by the time it stands there. -/
def trace : Request → List Event
  | .arrived _ => []
  | .holding _ | .releasing => [.acquired]
  | .created _ => [.acquired, .inserted]
  | .scheduled run => [.acquired, .inserted, .answered 202] ++ if run.phase = .returned then [.released] else []
  | .refused status => [.answered status]
  | .failed => [.acquired, .released, .answered 500]

/-- A run that is not scheduled stands where `create_run` left it. -/
def Fresh : Request → Prop
  | .created run => run.phase = .scheduled
  | _ => True

/-- A statement of `cancel_run` or of the task.  Until `add_task` only the former can come. -/
def stepRun (a : Act) : Request → Option (Request × List Obs)
  | .created run =>
    match a with
    | .cancelRow | .cancelFlag => (run.step a).map fun r => (.created r.1, r.2)
    | _ => none
  | .scheduled run => (run.step a).map fun r => (.scheduled r.1, r.2)
  | _ => none

end Request

namespace Worker

/-- Request `i` moves on to `r`. -/
def put (w : Worker) (i : ℕ) (r : Request) (es : List Event) : Option (Worker × List (ℕ × Event)) :=
  some ({ w with requests := w.requests.set i r }, es.map fun e => (i, e))

/-- `_slots.release()`, and where request `i` is then. -/
def release (w : Worker) (i : ℕ) (r : Request) (es : List Event) : Option (Worker × List (ℕ × Event)) :=
  match w.slots.release with
  | some slots => { w with slots := slots }.put i r (.released :: es)
  | none => w.put i r (.overReleased :: es)

def step (w : Worker) : WorkerAct → Option (Worker × List (ℕ × Event))
  | .arrive xTenantId =>
    match tenantId xTenantId with
    | .ok tenant => some ({ w with requests := w.requests ++ [.arrived tenant] }, [])
    | .error e =>
      some ({ w with requests := w.requests ++ [.refused e.1] }, [(w.requests.length, .answered e.1)])
  | .refuse i status =>
    match w.requests[i]? with
    | some (.arrived _) => w.put i (.refused status) [.answered status]
    | _ => none
  | .acquire i =>
    match w.requests[i]? with
    | some (.arrived tenant) =>
      match w.slots.acquire with
      | some slots => { w with slots := slots }.put i (.holding tenant) [.acquired]
      | none => w.put i (.refused 429) [.answered 429]
    | _ => none
  | .createRun i raised =>
    match w.requests[i]?, raised with
    | some (.holding tenant), none => w.put i (.created (.admitted tenant)) [.inserted]
    | some (.holding _), some _ => w.put i .releasing []
    | _, _ => none
  | .giveBack i =>
    match w.requests[i]? with
    | some .releasing => w.release i .failed [.answered 500]
    | _ => none
  | .addTask i =>
    match w.requests[i]? with
    | some (.created run) => w.put i (.scheduled run) [.answered 202]
    | _ => none
  | .run i a =>
    match w.requests[i]? with
    | none => none
    | some r =>
      match r.stepRun a with
      | none => none
      | some (r', o) => if .released ∈ o then w.release i r' [] else w.put i r' []

/-- The runs admitted and not yet finished, and the requests between taking a slot and either end of it. -/
def held (w : Worker) : ℕ := w.requests.countP Request.holds

end Worker

/-- The worker with its requests and background tasks in any order. -/
def worker : Machine Worker WorkerAct (ℕ × Event) where
  step := Worker.step

/-- A worker just started. -/
def Worker.start (maxConcurrentRuns : ℕ) : Worker := { slots := .new maxConcurrentRuns, requests := [] }

/-- What `h` says of request `i`. -/
def eventsOf (i : ℕ) (h : List (ℕ × Event)) : List Event :=
  h.filterMap fun e => if e.1 = i then some e.2 else none

@[simp] theorem eventsOf_nil (i : ℕ) : eventsOf i [] = [] := rfl

@[simp] theorem eventsOf_append (i : ℕ) (h o : List (ℕ × Event)) : eventsOf i (h ++ o) = eventsOf i h ++ eventsOf i o :=
  List.filterMap_append ..

theorem eventsOf_self (i : ℕ) (es : List Event) : eventsOf i (es.map fun e => (i, e)) = es := by
  simp [eventsOf, List.filterMap_map]

theorem eventsOf_of_ne {i j : ℕ} (hij : i ≠ j) (es : List Event) : eventsOf j (es.map fun e => (i, e)) = [] := by
  simp [eventsOf, hij]

theorem mem_eventsOf {i : ℕ} {h : List (ℕ × Event)} {e : Event} : e ∈ eventsOf i h ↔ (i, e) ∈ h := by
  simp [eventsOf, List.mem_filterMap]

/-- The slots are the semaphore's, and the history is what the requests say it is; a task that is not yet scheduled
has not begun. -/
structure Traced (maxConcurrentRuns : ℕ) (w : Worker) (h : List (ℕ × Event)) : Prop where
  slots : w.slots.Holds maxConcurrentRuns w.held
  trace : ∀ i, eventsOf i h = (w.requests[i]?).elim [] Request.trace
  fresh : ∀ r ∈ w.requests, r.Fresh

variable {maxConcurrentRuns : ℕ} {w w' : Worker} {h o : List (ℕ × Event)} {i : ℕ} {r r' : Request}

theorem held_set (hi : w.requests[i]? = some r) (r' : Request) :
    (w.requests.set i r').countP Request.holds + r.holds.toNat = w.held + r'.holds.toNat := by
  obtain ⟨hlt, rfl⟩ := List.getElem?_eq_some_iff.mp hi
  have hle : w.requests[i].holds.toNat ≤ w.held := by
    cases hh : w.requests[i].holds with
    | false => exact Nat.zero_le _
    | true => exact List.countP_pos_iff.mpr ⟨_, List.getElem_mem hlt, hh⟩
  have hif : ∀ b : Bool, (if b = true then 1 else 0) = b.toNat := fun b => by cases b <;> rfl
  rw [List.countP_set hlt, hif, hif]
  unfold Worker.held at hle ⊢
  omega

/-- Request `i` does `es` and nothing else moves. -/
theorem Traced.moved (ht : Traced maxConcurrentRuns w h) (hi : w.requests[i]? = some r) {slots : BoundedSemaphore}
    (hs : slots.Holds maxConcurrentRuns ((w.requests.set i r').countP Request.holds)) {es : List Event}
    (htr : r'.trace = r.trace ++ es) (hf : r'.Fresh) :
    Traced maxConcurrentRuns { slots, requests := w.requests.set i r' } (h ++ es.map fun e => (i, e)) := by
  refine ⟨hs, fun j => ?_, fun q hq => ?_⟩
  · rw [eventsOf_append, ht.trace j]
    by_cases hij : i = j
    · subst hij
      obtain ⟨hlt, rfl⟩ := List.getElem?_eq_some_iff.mp hi
      simp [eventsOf_self, hlt, htr]
    · simp [eventsOf_of_ne hij, List.getElem?_set_ne hij]
  · rcases List.mem_or_eq_of_mem_set hq with hq | rfl
    · exact ht.fresh q hq
    · exact hf

/-- A request moves on with its slot, or without one. -/
theorem Traced.put (ht : Traced maxConcurrentRuns w h) (hi : w.requests[i]? = some r) {es : List Event}
    (hp : w.put i r' es = some (w', o)) (hh : r'.holds = r.holds) (htr : r'.trace = r.trace ++ es) (hf : r'.Fresh) :
    Traced maxConcurrentRuns w' (h ++ o) := by
  simp only [Worker.put, Option.some.injEq, Prod.mk.injEq] at hp
  obtain ⟨rfl, rfl⟩ := hp
  refine ht.moved hi ?_ htr hf
  have heq := held_set hi r'
  rw [hh, Nat.add_right_cancel_iff] at heq
  rw [heq]
  exact ht.slots

/-- A request takes a slot that was free. -/
theorem Traced.acquire (ht : Traced maxConcurrentRuns w h) (hi : w.requests[i]? = some r) {slots : BoundedSemaphore}
    (ha : w.slots.acquire = some slots) {es : List Event} (hp : Worker.put { w with slots } i r' es = some (w', o))
    (hr : r.holds = false) (hr' : r'.holds = true) (htr : r'.trace = r.trace ++ es) (hf : r'.Fresh) :
    Traced maxConcurrentRuns w' (h ++ o) := by
  simp only [Worker.put, Option.some.injEq, Prod.mk.injEq] at hp
  obtain ⟨rfl, rfl⟩ := hp
  refine ht.moved hi ?_ htr hf
  have heq := held_set hi r'
  rw [hr, hr'] at heq
  rw [show (w.requests.set i r').countP Request.holds = w.held + 1 from heq]
  exact ht.slots.acquire ha

/-- A request that has its slot gives it back: there is one to give back. -/
theorem Traced.release (ht : Traced maxConcurrentRuns w h) (hi : w.requests[i]? = some r) {es : List Event}
    (hp : w.release i r' es = some (w', o)) (hr : r.holds = true) (hr' : r'.holds = false)
    (htr : r'.trace = r.trace ++ .released :: es) (hf : r'.Fresh) : Traced maxConcurrentRuns w' (h ++ o) := by
  have heq := held_set hi r'
  rw [hr, hr'] at heq
  have hs := ht.slots
  rw [show w.held = (w.requests.set i r').countP Request.holds + 1 from heq.symm] at hs
  obtain ⟨slots, hrel, hs'⟩ := hs.release
  simp only [Worker.release, hrel, Worker.put, Option.some.injEq, Prod.mk.injEq] at hp
  obtain ⟨rfl, rfl⟩ := hp
  exact ht.moved hi hs' htr hf

/-- A request arrives: at the end of the list, with what `es` says. -/
theorem Traced.arrive (ht : Traced maxConcurrentRuns w h) (hh : r.holds = false) (hf : r.Fresh) :
    Traced maxConcurrentRuns { w with requests := w.requests ++ [r] }
      (h ++ r.trace.map fun e => (w.requests.length, e)) := by
  refine ⟨?_, fun j => ?_, fun q hq => ?_⟩
  · have hs := ht.slots
    simpa [Worker.held, hh] using hs
  · rw [eventsOf_append, ht.trace j]
    rcases lt_trichotomy j w.requests.length with hj | rfl | hj
    · simp [eventsOf_of_ne hj.ne', List.getElem?_append_left hj]
    · simp [eventsOf_self]
    · have hnone : (w.requests ++ [r])[j]? = none := List.getElem?_eq_none (by simp; omega)
      have hnone' : w.requests[j]? = none := List.getElem?_eq_none (by omega)
      rw [eventsOf_of_ne hj.ne, hnone, hnone']
      rfl
  · rcases List.mem_append.mp hq with hq | hq
    · exact ht.fresh q hq
    · rwa [List.mem_singleton.mp hq]

/-- What a step of a run does to its request: it gives the slot back, or nothing happens to it. -/
theorem stepRun_cases {a : Act} {obs : List Obs} (hf : r.Fresh) (hs : r.stepRun a = some (r', obs)) :
    r'.Fresh ∧ ((.released ∈ obs ∧ r.holds = true ∧ r'.holds = false ∧ r'.trace = r.trace ++ [.released]) ∨
      (.released ∉ obs ∧ r'.holds = r.holds ∧ r'.trace = r.trace)) := by
  cases r with
  | created run =>
    have hc : a = .cancelRow ∨ a = .cancelFlag := by
      cases a <;> simp [Request.stepRun] at hs ⊢
    have hs' : (run.step a).map (fun p => (Request.created p.1, p.2)) = some (r', obs) := by
      rcases hc with rfl | rfl <;> exact hs
    simp only [Option.map_eq_some_iff, Prod.exists, Prod.mk.injEq] at hs'
    obtain ⟨run', o, hstep, rfl, rfl⟩ := hs'
    obtain ⟨hp, hrel⟩ := Run.step_cancel hc hstep
    exact ⟨hp.trans hf, .inr ⟨hrel, rfl, rfl⟩⟩
  | scheduled run =>
    simp only [Request.stepRun, Option.map_eq_some_iff, Prod.exists, Prod.mk.injEq] at hs
    obtain ⟨run', o, hstep, rfl, rfl⟩ := hs
    refine ⟨trivial, ?_⟩
    rcases Run.step_slot hstep with ⟨hrel, hp, hp'⟩ | ⟨hrel, hp⟩
    · exact .inl ⟨hrel, by simp [Request.holds, hp], by simp [Request.holds, hp'], by
        simp [Request.trace, hp, hp']⟩
    · exact .inr ⟨hrel, by simp [Request.holds, hp], by simp [Request.trace, hp]⟩
  | arrived | holding | releasing | refused | failed => cases hs

/-- **One step keeps the trace.** -/
theorem traced_step {a : WorkerAct} (ht : Traced maxConcurrentRuns w h) (hs : worker.step w a = some (w', o)) :
    Traced maxConcurrentRuns w' (h ++ o) := by
  cases a with
  | arrive xTenantId =>
    simp only [worker, Worker.step] at hs
    split at hs <;> simp only [Option.some.injEq, Prod.mk.injEq] at hs <;> obtain ⟨rfl, rfl⟩ := hs
    · exact ht.arrive rfl trivial
    · exact ht.arrive rfl trivial
  | refuse i status =>
    simp only [worker, Worker.step] at hs
    split at hs
    · rename_i hi
      exact ht.put hi hs rfl rfl trivial
    · cases hs
  | acquire i =>
    simp only [worker, Worker.step] at hs
    split at hs
    · rename_i tenant hi
      split at hs
      · rename_i slots ha
        exact ht.acquire hi ha hs rfl rfl rfl trivial
      · exact ht.put hi hs rfl rfl trivial
    · cases hs
  | createRun i raised =>
    simp only [worker, Worker.step] at hs
    split at hs
    · rename_i hi
      exact ht.put hi hs rfl rfl rfl
    · rename_i hi
      exact ht.put hi hs rfl rfl trivial
    · cases hs
  | giveBack i =>
    simp only [worker, Worker.step] at hs
    split at hs
    · rename_i hi
      exact ht.release hi hs rfl rfl rfl trivial
    · cases hs
  | addTask i =>
    simp only [worker, Worker.step] at hs
    split at hs
    · rename_i run hi
      have hp : run.phase = .scheduled := ht.fresh _ (List.mem_of_getElem? hi)
      exact ht.put hi hs (by simp [Request.holds, hp]) (by simp [Request.trace, hp]) trivial
    · cases hs
  | run i a =>
    simp only [worker, Worker.step] at hs
    split at hs
    · cases hs
    · rename_i r hi
      split at hs
      · cases hs
      · rename_i r' obs hr
        obtain ⟨hf, ⟨hrel, hh, hh', htr⟩ | ⟨hrel, hh, htr⟩⟩ := stepRun_cases (ht.fresh r (List.mem_of_getElem? hi)) hr
        · rw [if_pos hrel] at hs
          exact ht.release hi hs hh hh' htr hf
        · rw [if_neg hrel] at hs
          exact ht.put hi hs hh (by simpa using htr) hf

theorem traced_start (maxConcurrentRuns : ℕ) : Traced maxConcurrentRuns (.start maxConcurrentRuns) [] where
  slots := BoundedSemaphore.holds_new maxConcurrentRuns
  trace i := by simp [Worker.start]
  fresh := by simp [Worker.start]

/-- What the slots are worth. -/
structure Rationed (maxConcurrentRuns : ℕ) (w : Worker) (h : List (ℕ × Event)) : Prop where
  /-- Runs admitted and not finished, with the requests still on the way to one. -/
  bounded : w.held ≤ maxConcurrentRuns
  /-- Nothing is leaked: what nobody holds is free. -/
  free : w.slots.value + w.held = maxConcurrentRuns
  neverOver : ∀ i, (i, .overReleased) ∉ h
  /-- The slot of an admitted run is given back once, when its task ends. -/
  once : ∀ (i : ℕ) (run : Run), w.requests[i]? = some (.scheduled run) →
    (eventsOf i h).count .released = if run.phase = .returned then 1 else 0
  /-- The slot of a request whose `create_run` raised is given back once. -/
  onceFailed : ∀ i : ℕ, w.requests[i]? = some .failed → (eventsOf i h).count .released = 1
  /-- A task that is run comes to its end. -/
  ends : ∀ (i : ℕ) (run : Run), w.requests[i]? = some (.scheduled run) →
    ∃ (acts : List WorkerAct) (w' : Worker) (o : List (ℕ × Event)) (run' : Run),
      worker.exec w acts = some (w', o) ∧ w'.requests[i]? = some (.scheduled run') ∧ run'.phase = .returned
  /-- A request answered anything but 202 has left no row. -/
  noRow : ∀ i status, (i, .answered status) ∈ h → status ≠ 202 → (i, .inserted) ∉ h

theorem Request.not_overReleased (r : Request) : .overReleased ∉ r.trace := by
  cases r <;> simp [Request.trace]

theorem Request.noRow (r : Request) {status : ℕ} (ha : .answered status ∈ r.trace) (hne : status ≠ 202) :
    .inserted ∉ r.trace := by
  cases r with
  | scheduled run =>
    exfalso
    revert ha
    simp only [Request.trace]
    split <;> simp [hne]
  | created run => simp [Request.trace] at ha
  | arrived | holding | releasing | refused | failed => simp [Request.trace]

/-- A statement of a task is a step of the worker. -/
theorem step_scheduled {run run' : Run} {a : Act} {obs : List Obs} (hi : w.requests[i]? = some (.scheduled run))
    (hs : run.step a = some (run', obs)) :
    ∃ w' o, worker.step w (.run i a) = some (w', o) ∧ w'.requests[i]? = some (.scheduled run') := by
  obtain ⟨hlt, -⟩ := List.getElem?_eq_some_iff.mp hi
  simp only [worker, Worker.step, hi, Request.stepRun, hs, Option.map_some, Worker.release, Worker.put]
  split
  · split <;> exact ⟨_, _, rfl, List.getElem?_set_self hlt⟩
  · exact ⟨_, _, rfl, List.getElem?_set_self hlt⟩

theorem task_ends (w : Worker) (i : ℕ) (run : Run) (hi : w.requests[i]? = some (.scheduled run)) :
    ∃ (acts : List WorkerAct) (w' : Worker) (o : List (ℕ × Event)) (run' : Run),
      worker.exec w acts = some (w', o) ∧ w'.requests[i]? = some (.scheduled run') ∧ run'.phase = .returned := by
  by_cases hp : run.phase = .returned
  · exact ⟨[], w, [], run, rfl, hi, hp⟩
  · obtain ⟨a, run₁, obs, hs, hrank⟩ := run.exists_step hp
    obtain ⟨w₁, o₁, hw, hi₁⟩ := step_scheduled hi hs
    obtain ⟨acts, w', o, run', he, hi', hp'⟩ := task_ends w₁ i run₁ hi₁
    exact ⟨.run i a :: acts, w', o₁ ++ o, run', exec_cons_iff.mpr ⟨w₁, o₁, o, hw, he, rfl⟩, hi', hp'⟩
termination_by Run.rank run.phase

theorem Traced.toRationed (ht : Traced maxConcurrentRuns w h) : Rationed maxConcurrentRuns w h where
  bounded := ht.slots.le
  free := ht.slots.balance
  neverOver i hm := by
    rw [← mem_eventsOf, ht.trace i] at hm
    cases hi : w.requests[i]? with
    | none => simp [hi] at hm
    | some r =>
      rw [hi] at hm
      exact r.not_overReleased hm
  once i run hi := by
    rw [ht.trace i, hi, Option.elim_some, Request.trace]
    split <;> rfl
  onceFailed i hi := by
    rw [ht.trace i, hi]
    rfl
  ends i run hi := task_ends w i run hi
  noRow i status ha hne hins := by
    rw [← mem_eventsOf, ht.trace i] at ha hins
    cases hi : w.requests[i]? with
    | none => simp [hi] at ha
    | some r =>
      rw [hi] at ha hins
      exact r.noRow ha hne hins

/-- **The slots are rationed**: whatever raises, in every state the worker reaches no more than
`max_concurrent_runs` runs are on, every slot is given back once and none that is not held, and a refused or failed
request has left no row. -/
theorem rationed (maxConcurrentRuns : ℕ) (acts : List WorkerAct) :
    worker.Along (Rationed maxConcurrentRuns) (.start maxConcurrentRuns) [] acts :=
  along_of_meets (I := Traced maxConcurrentRuns) (C := fun _ _ _ => True) (fun hi _ hs => traced_step hi hs)
    (fun hi => hi.toRationed) (traced_start maxConcurrentRuns) (meets_of_forall fun _ _ _ _ => trivial)

end DTwin.Sim
