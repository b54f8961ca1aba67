import DTwin.Copilot.Ledger
import DTwin.Copilot.Registry
import DTwin.Lib.Machine
import Mathlib.Algebra.BigOperators.Group.List.Basic

/-!
# DTwin.Copilot.Requests — the run registry and what its requests use

`apps/web/lib/copilot/registry.ts` with its counters.  An entry is an object that `call` holds on to across its
await, so the entries ever made are kept in `objects`, and a request is the number of its own.  A reply that comes
after its call was aborted reaches nobody.

What a reply used is charged to the entry that its call was counted against, and no entry counts more than
`maxModelCalls`.  That entry is the one which the thread holds when a branch asks: if it is the branch's own request's,
however the branches overlap with its end and the start of the next (`OwnCalls`), no request starts more calls than it
may, and the tokens are charged to the request that made the call (`model_call_budget`).  A branch that is left over
from a request that is over spends what the next one has (`straggler_charged`).
-/

namespace DTwin.Copilot.Requests

open OrderedMap Machine

inductive Role | planner | compose | diagnose | analyse | simulate | control
deriving DecidableEq

/-- The four counts of a reply's `usage`. -/
inductive TokenKind | input | output | cacheRead | cacheWrite
deriving DecidableEq

abbrev Tokens := TokenKind → ℚ

structure Limits extends Copilot.Limits where
  maxEvidencePerRequest : ℕ
  simCallsPerRequest : ℕ
  simRunsPerRequest : ℕ
  simInFlightPerRequest : ℕ

structure Entry extends Copilot.Entry where
  callsUsed : ℕ
  byRole : Role → ℕ
  evidenceCount : ℕ
  simCalls : ℕ
  simRuns : ℕ
  simInFlight : ℕ
  tokens : Tokens

/-- What one request used. -/
structure Usage where
  modelCalls : ℕ
  byRole : Role → ℕ
  simRuns : ℕ
  tokens : Tokens

def Entry.usage (e : Entry) : Usage := ⟨e.callsUsed, e.byRole, e.simRuns, e.tokens⟩

/-- The entry of a request that begins. -/
def Entry.fresh (limits : Limits) (requestId : String) (now : ℤ) : Entry where
  requestId := requestId
  startedAt := now
  deadlineAt := now + limits.deadlineS * 1000
  stopRequested := false
  callsUsed := 0
  byRole _ := 0
  evidenceCount := 0
  simCalls := 0
  simRuns := 0
  simInFlight := 0
  tokens := 0

/-- A model call is spent. -/
def Entry.spend (e : Entry) (role : Role) : Entry :=
  { e with
    callsUsed := e.callsUsed + 1
    byRole := fun r => if r = role then e.byRole r + 1 else e.byRole r }

/-- What one count of a usage adds. -/
def count : Value → ℚ
  | .number q => if 0 < q then q else 0
  | _ => 0

/-- `addTokens`. -/
def Entry.charge (e : Entry) (usage : TokenKind → Value) : Entry :=
  { e with tokens := e.tokens + fun kind => count (usage kind) }

/-- How a model call came to its end. -/
inductive Settled
  | returned
  | failed
  | aborted (why : BudgetReason)
deriving DecidableEq

/-- A model call, with the entry that it captured. -/
structure Call where
  request : ℕ
  role : Role
  settled : Option Settled
deriving DecidableEq

/-- A simulation run that was admitted on a thread, with the request that admitted it. -/
structure Run where
  threadId : String
  request : ℕ
  ended : Bool
deriving DecidableEq

structure Sys where
  objects : List Entry
  entries : OrderedMap String ℕ
  calls : List Call
  runs : List Run

def Sys.init : Sys := ⟨[], .empty, [], []⟩

/-- The thread's open request. -/
def Sys.entry (s : Sys) (threadId : String) : Option Entry :=
  (s.entries.get? threadId).bind fun request => s.objects[request]?

def Sys.modify (s : Sys) (request : ℕ) (f : Entry → Entry) : Sys :=
  { s with objects := s.objects.modify request f }

/-- The entry is older than a deadline and a plan TTL. -/
def Entry.outlived (limits : Limits) (now : ℤ) (e : Entry) : Bool :=
  ((limits.deadlineS : ℤ) + limits.planTtlS) * 1000 ≤ now - e.startedAt

/-- `#sweep`. -/
def Sys.sweep (s : Sys) (limits : Limits) (now : ℤ) : Sys where
  objects := s.objects
  entries := s.entries.filterMapValues fun request =>
    if (s.objects[request]?).any (·.outlived limits now) then none else some request
  calls := s.calls
  runs := s.runs

def Sys.interrupted (s : Sys) (now : ℤ) (threadId : String) : Option BudgetReason :=
  match s.entry threadId with
  | none => some .stopped
  | some e => if e.stopRequested then some .stopped else if e.deadlineAt ≤ now then some .deadline else none

def Sys.refusal (s : Sys) (limits : Limits) (now : ℤ) (threadId : String) : Option BudgetReason :=
  match s.entry threadId with
  | none => some .stopped
  | some e =>
    if e.stopRequested then some .stopped
    else if e.deadlineAt ≤ now then some .deadline
    else if limits.maxModelCalls ≤ e.callsUsed then some .budget
    else none

/-- Abort a call that is in flight. -/
def Call.abort (c : Call) (why : BudgetReason) : Call :=
  { c with settled := some (c.settled.getD (.aborted why)) }

inductive SimRefusal | stopped | deadline | noRequest | inFlight | runLimit
deriving DecidableEq

def Sys.simRefusal (s : Sys) (limits : Limits) (now : ℤ) (threadId : String) : Option SimRefusal :=
  match s.entry threadId with
  | none => some .noRequest
  | some e =>
    match s.interrupted now threadId with
    | some .deadline => some .deadline
    | some _ => some .stopped
    | none =>
      if limits.simInFlightPerRequest ≤ e.simInFlight then some .inFlight
      else if limits.simRunsPerRequest ≤ e.simRuns then some .runLimit
      else none

inductive Act
  | begin (threadId requestId : String) (now : ℤ)
  /-- `end`. -/
  | close (threadId : String)
  | stop (threadId : String)
  | clearStop (threadId : String)
  | anyOpen (now : ℤ)
  /-- A branch of the request `maker` asks for a model call; `shape` is what `requestShapeError` says of it. -/
  | call (maker : ℕ) (threadId : String) (role : Role) (shape : Option String) (now : ℤ)
  /-- The API replies. -/
  | reply (call : ℕ) (usage : TokenKind → Value)
  /-- The API call fails. -/
  | callFails (call : ℕ)
  /-- The timer of the deadline fires. -/
  | timer (call : ℕ)
  | claimEvidence (threadId : String)
  | claimSimCall (threadId : String)
  | beginSimRun (threadId : String) (now : ℤ)
  /-- The branch that was admitted calls `endSimRun`. -/
  | endSimRun (run : ℕ)

inductive Obs
  | began (request : ℕ) (threadId requestId : String)
  | closed (threadId : String) (usage : Option Usage)
  | stopping (threadId : String) (answer : Bool)
  | anyOpen (answer : Bool)
  | malformed (threadId text : String)
  | refused (threadId : String) (reason : BudgetReason)
  /-- A model call of `maker` is started, and counted against `request`. -/
  | called (maker request call : ℕ) (role : Role)
  /-- A reply is handed to its branch, and its tokens are charged. -/
  | charged (request call : ℕ) (usage : TokenKind → Value)
  | claimed (threadId : String) (answer : Bool)
  | simRefused (threadId : String) (why : SimRefusal)
  /-- A simulation run is started. -/
  | simBegun (request run : ℕ)
  | simEnded (request run : ℕ)

def step (limits : Limits) (s : Sys) : Act → Option (Sys × List Obs)
  | .begin threadId requestId now =>
    let s := s.sweep limits now
    some ({ s with
      objects := s.objects ++ [.fresh limits requestId now]
      entries := s.entries.set threadId s.objects.length }, [.began s.objects.length threadId requestId])
  | .close threadId =>
    some ({ s with entries := s.entries.erase threadId }, [.closed threadId ((s.entry threadId).map Entry.usage)])
  | .stop threadId =>
    match s.entries.get? threadId with
    | none => some (s, [.stopping threadId false])
    | some request =>
      some ({ s.modify request fun e => { e with stopRequested := true } with
        calls := s.calls.map fun c => if c.request = request then c.abort .stopped else c }, [.stopping threadId true])
  | .clearStop threadId =>
    match s.entries.get? threadId with
    | none => some (s, [])
    | some request => some (s.modify request fun e => { e with stopRequested := false }, [])
  | .anyOpen now => some (s.sweep limits now, [.anyOpen (!(s.sweep limits now).entries.entries.isEmpty)])
  | .call maker threadId role shape now =>
    match shape, s.refusal limits now threadId, s.entries.get? threadId with
    | some text, _, _ => some (s, [.malformed threadId text])
    | none, some reason, _ => some (s, [.refused threadId reason])
    | none, none, some request =>
      some ({ s.modify request (·.spend role) with calls := s.calls ++ [⟨request, role, none⟩] },
        [.called maker request s.calls.length role])
    | none, none, none => none
  | .reply call usage =>
    match s.calls[call]? with
    | some ⟨request, role, none⟩ =>
      some ({ s.modify request (·.charge usage) with calls := s.calls.set call ⟨request, role, some .returned⟩ },
        [.charged request call usage])
    | some _ => some (s, [])
    | none => none
  | .callFails call =>
    match s.calls[call]? with
    | some ⟨request, role, none⟩ => some ({ s with calls := s.calls.set call ⟨request, role, some .failed⟩ }, [])
    | some _ => some (s, [])
    | none => none
  | .timer call => some ({ s with calls := s.calls.modify call (·.abort .deadline) }, [])
  | .claimEvidence threadId =>
    match s.entries.get? threadId, s.entry threadId with
    | some request, some e =>
      if limits.maxEvidencePerRequest ≤ e.evidenceCount then some (s, [.claimed threadId false])
      else some (s.modify request fun e => { e with evidenceCount := e.evidenceCount + 1 }, [.claimed threadId true])
    | _, _ => some (s, [.claimed threadId false])
  | .claimSimCall threadId =>
    match s.entries.get? threadId, s.entry threadId with
    | some request, some e =>
      if e.stopRequested ∨ limits.simCallsPerRequest ≤ e.simCalls then some (s, [.claimed threadId false])
      else some (s.modify request fun e => { e with simCalls := e.simCalls + 1 }, [.claimed threadId true])
    | _, _ => some (s, [.claimed threadId false])
  | .beginSimRun threadId now =>
    match s.simRefusal limits now threadId, s.entries.get? threadId with
    | some why, _ => some (s, [.simRefused threadId why])
    | none, some request =>
      some ({ s.modify request fun e => { e with simRuns := e.simRuns + 1, simInFlight := e.simInFlight + 1 } with
        runs := s.runs ++ [⟨threadId, request, false⟩] }, [.simBegun request s.runs.length])
    | none, none => none
  | .endSimRun run =>
    match s.runs[run]? with
    | some ⟨threadId, request, false⟩ =>
      let s' := { s with runs := s.runs.set run ⟨threadId, request, true⟩ }
      match s.entries.get? threadId with
      | none => some (s', [.simEnded request run])
      | some held => some (s'.modify held fun e => { e with simInFlight := e.simInFlight - 1 }, [.simEnded request run])
    | _ => none

def registry (limits : Limits) : Machine Sys Act Obs := ⟨step limits⟩

/-! ## What a step does -/

/-- What is billed to an entry. -/
def Entry.bill (e : Entry) : ℕ × Tokens := (e.callsUsed, e.tokens)

/-- The observation is of no call and no charge. -/
def Obs.Unbilled : Obs → Prop
  | .called .. => False
  | .charged .. => False
  | _ => True

variable {limits : Limits} {s s' : Sys} {h o : List Obs} {a : Act} {threadId : String} {request : ℕ}

/-- What a step can do to the requests, the calls and the runs. -/
inductive Effect (limits : Limits) (s : Sys) (a : Act) : Sys → List Obs → Prop
  | began {threadId requestId : String} {now : ℤ} : Effect limits s a
      { s.sweep limits now with
        objects := s.objects ++ [.fresh limits requestId now]
        entries := (s.sweep limits now).entries.set threadId s.objects.length }
      [.began s.objects.length threadId requestId]
  | dropped {entries : OrderedMap String ℕ} {o : List Obs}
      (hentries : ∀ threadId request, entries.get? threadId = some request → s.entries.get? threadId = some request)
      (ho : ∀ x ∈ o, x.Unbilled) : Effect limits s a { s with entries } o
  /-- Calls are settled, and an entry is changed in what no bill and no run is about. -/
  | edited {request : ℕ} {f : Entry → Entry} {calls : List Call} {o : List Obs}
      (hbill : ∀ e, (f e).bill = e.bill) (hflight : ∀ e, (f e).simInFlight = e.simInFlight)
      (hcalls : calls.map Call.request = s.calls.map Call.request) (ho : ∀ x ∈ o, x.Unbilled) :
      Effect limits s a { s.modify request f with calls } o
  | called {maker : ℕ} {threadId : String} {role : Role} {now : ℤ} {request : ℕ} {e : Entry}
      (ha : a = .call maker threadId role none now) (hrefusal : s.refusal limits now threadId = none)
      (hheld : s.entries.get? threadId = some request) (he : s.objects[request]? = some e)
      (hbudget : e.callsUsed < limits.maxModelCalls) : Effect limits s a
      { s.modify request (·.spend role) with calls := s.calls ++ [⟨request, role, none⟩] }
      [.called maker request s.calls.length role]
  | charged {call : ℕ} {usage : TokenKind → Value} {c : Call} {calls : List Call} (hc : s.calls[call]? = some c)
      (hcalls : calls.map Call.request = s.calls.map Call.request) : Effect limits s a
      { s.modify c.request (·.charge usage) with calls } [.charged c.request call usage]
  | simBegun {threadId : String} {request : ℕ} {e : Entry} (hheld : s.entries.get? threadId = some request)
      (he : s.objects[request]? = some e) (hroom : e.simInFlight < limits.simInFlightPerRequest) : Effect limits s a
      { s.modify request fun e => { e with simRuns := e.simRuns + 1, simInFlight := e.simInFlight + 1 } with
        runs := s.runs ++ [⟨threadId, request, false⟩] } [.simBegun request s.runs.length]
  | simEnded {run : ℕ} {threadId : String} {request : ℕ} (ha : a = .endSimRun run)
      (hrun : s.runs[run]? = some ⟨threadId, request, false⟩) (hnone : s.entries.get? threadId = none) :
      Effect limits s a { s with runs := s.runs.set run ⟨threadId, request, true⟩ } [.simEnded request run]
  | simEndedOn {run : ℕ} {threadId : String} {request held : ℕ} (ha : a = .endSimRun run)
      (hrun : s.runs[run]? = some ⟨threadId, request, false⟩) (hheld : s.entries.get? threadId = some held) :
      Effect limits s a
      { s.modify held fun e => { e with simInFlight := e.simInFlight - 1 } with
        runs := s.runs.set run ⟨threadId, request, true⟩ } [.simEnded request run]

theorem get?_sweep {now : ℤ} (hheld : (s.sweep limits now).entries.get? threadId = some request) :
    s.entries.get? threadId = some request := by
  rw [Sys.sweep, get?_filterMapValues] at hheld
  obtain ⟨request', hrequest', hkept⟩ := Option.bind_eq_some_iff.mp hheld
  split_ifs at hkept
  rw [hrequest', Option.some.inj hkept]

/-- An entry that is reached is within its budget when it may be called for. -/
theorem refusal_none {now : ℤ} (hnone : s.refusal limits now threadId = none)
    (hrequest : s.entries.get? threadId = some request) :
    ∃ e, s.objects[request]? = some e ∧ e.callsUsed < limits.maxModelCalls := by
  unfold Sys.refusal Sys.entry at hnone
  rw [hrequest, Option.bind_some] at hnone
  cases he : s.objects[request]? with
  | none =>
    rw [he] at hnone
    cases hnone
  | some e =>
    simp only [he] at hnone
    split_ifs at hnone with h₁ h₂ h₃
    exact ⟨e, rfl, Nat.lt_of_not_le h₃⟩

/-- A request that may simulate has room for a run. -/
theorem simRefusal_none {now : ℤ} (hnone : s.simRefusal limits now threadId = none)
    (hrequest : s.entries.get? threadId = some request) :
    ∃ e, s.objects[request]? = some e ∧ e.simInFlight < limits.simInFlightPerRequest := by
  unfold Sys.simRefusal at hnone
  cases hentry : s.entry threadId with
  | none =>
    rw [hentry] at hnone
    cases hnone
  | some e =>
    rw [Sys.entry, hrequest, Option.bind_some] at hentry
    refine ⟨e, hentry, ?_⟩
    rw [Sys.entry, hrequest, Option.bind_some, hentry] at hnone
    simp only at hnone
    split at hnone
    · cases hnone
    · cases hnone
    · split_ifs at hnone with h₁
      exact Nat.lt_of_not_le h₁

theorem map_request_set {calls : List Call} {call : ℕ} {c : Call} (hc : calls[call]? = some c) {c' : Call}
    (hrequest : c'.request = c.request) : (calls.set call c').map Call.request = calls.map Call.request := by
  obtain ⟨hlt, rfl⟩ := List.getElem?_eq_some_iff.mp hc
  rw [List.map_set, hrequest, ← List.getElem_map Call.request (h := by rwa [List.length_map])]
  exact List.set_getElem_self _

theorem map_request_modify (calls : List Call) (call : ℕ) (why : BudgetReason) :
    (calls.modify call (·.abort why)).map Call.request = calls.map Call.request := by
  refine List.ext_getElem? fun i => ?_
  rw [List.getElem?_map, List.getElem?_map, List.getElem?_modify]
  cases calls[i]? with
  | none => rfl
  | some c =>
    simp only [Option.map_eq_map, Option.map_some]
    split_ifs <;> rfl

theorem Effect.quiet (ho : ∀ x ∈ o, x.Unbilled) : Effect limits s a s o := .dropped (fun _ _ hheld => hheld) ho

/-- Calls are settled. -/
theorem Effect.settled {calls : List Call} (hcalls : calls.map Call.request = s.calls.map Call.request) :
    Effect limits s a { s with calls } [] := by
  have heffect : Effect limits s a { s.modify 0 id with calls } [] :=
    .edited (fun _ => rfl) (fun _ => rfl) hcalls (by simp)
  rwa [Sys.modify, List.modify_id] at heffect

/-- **What a step does.** -/
theorem step_effect (hs : (registry limits).step s a = some (s', o)) : Effect limits s a s' o := by
  change step limits s a = some (s', o) at hs
  cases a with
  | begin threadId requestId now =>
    cases hs
    exact .began
  | close threadId =>
    cases hs
    refine .dropped (fun i request hheld => ?_) (by simp [Obs.Unbilled])
    rw [get?_erase] at hheld
    split_ifs at hheld
    exact hheld
  | stop threadId =>
    simp only [step] at hs
    split at hs
    · cases hs
      exact .quiet (by simp [Obs.Unbilled])
    · cases hs
      refine .edited (fun _ => rfl) (fun _ => rfl) ?_ (by simp [Obs.Unbilled])
      rw [List.map_map]
      refine List.map_congr_left fun c _ => ?_
      simp only [Function.comp_apply]
      split_ifs <;> rfl
  | clearStop threadId =>
    simp only [step] at hs
    split at hs
    · cases hs
      exact .quiet (by simp)
    · cases hs
      exact .edited (fun _ => rfl) (fun _ => rfl) rfl (by simp)
  | anyOpen now =>
    cases hs
    exact .dropped (fun _ _ hheld => get?_sweep hheld) (by simp [Obs.Unbilled])
  | call maker threadId role shape now =>
    simp only [step] at hs
    split at hs
    · cases hs
      exact .quiet (by simp [Obs.Unbilled])
    · cases hs
      exact .quiet (by simp [Obs.Unbilled])
    · rename_i request hnone hrequest
      cases hs
      obtain ⟨e, he, hbudget⟩ := refusal_none hnone hrequest
      exact .called rfl hnone hrequest he hbudget
    · cases hs
  | reply call usage =>
    simp only [step] at hs
    split at hs
    · rename_i request role hc
      cases hs
      exact .charged hc (map_request_set hc rfl)
    · cases hs
      exact .quiet (by simp)
    · cases hs
  | callFails call =>
    simp only [step] at hs
    split at hs
    · rename_i request role hc
      cases hs
      exact .settled (map_request_set hc rfl)
    · cases hs
      exact .quiet (by simp)
    · cases hs
  | timer call =>
    cases hs
    exact .settled (map_request_modify s.calls call .deadline)
  | claimEvidence threadId =>
    simp only [step] at hs
    split at hs
    · split_ifs at hs
      · cases hs
        exact .quiet (by simp [Obs.Unbilled])
      · cases hs
        exact .edited (fun _ => rfl) (fun _ => rfl) rfl (by simp [Obs.Unbilled])
    · cases hs
      exact .quiet (by simp [Obs.Unbilled])
  | claimSimCall threadId =>
    simp only [step] at hs
    split at hs
    · split_ifs at hs
      · cases hs
        exact .quiet (by simp [Obs.Unbilled])
      · cases hs
        exact .edited (fun _ => rfl) (fun _ => rfl) rfl (by simp [Obs.Unbilled])
    · cases hs
      exact .quiet (by simp [Obs.Unbilled])
  | beginSimRun threadId now =>
    simp only [step] at hs
    split at hs
    · cases hs
      exact .quiet (by simp [Obs.Unbilled])
    · rename_i request hnone hrequest
      cases hs
      obtain ⟨e, he, hroom⟩ := simRefusal_none hnone hrequest
      exact .simBegun hrequest he hroom
    · cases hs
  | endSimRun run =>
    simp only [step] at hs
    split at hs
    · rename_i threadId request hrun
      split at hs
      · rename_i hnone
        cases hs
        exact .simEnded rfl hrun hnone
      · rename_i held hheld
        cases hs
        exact .simEndedOn rfl hrun hheld
    · cases hs

/-! ## The requests that threads hold -/

/-- A held request is there, and one thread's. -/
structure Linked (s : Sys) : Prop where
  held : ∀ threadId request, s.entries.get? threadId = some request → request < s.objects.length
  alone : ∀ i j request, s.entries.get? i = some request → s.entries.get? j = some request → i = j

/-- The entries are as they were, or fewer. -/
theorem Linked.fewer (hL : Linked s) (hlength : s.objects.length = s'.objects.length)
    (hentries : ∀ threadId request, s'.entries.get? threadId = some request → s.entries.get? threadId = some request) :
    Linked s' where
  held i request hheld := hlength ▸ hL.held i request (hentries i request hheld)
  alone i j request hi hj := hL.alone i j request (hentries i request hi) (hentries j request hj)

theorem Linked.step (hL : Linked s) (hs : (registry limits).step s a = some (s', o)) : Linked s' := by
  have hmodify : ∀ request f, s.objects.length = (s.modify request f).objects.length := fun request f =>
    (List.length_modify ..).symm
  cases step_effect hs with
  | @began threadId requestId now =>
    have hset : ∀ {i request}, ((s.sweep limits now).entries.set threadId s.objects.length).get? i = some request →
        threadId = i ∧ request = s.objects.length ∨ s.entries.get? i = some request ∧ request < s.objects.length := by
      intro i request hheld
      rw [get?_set] at hheld
      split_ifs at hheld with hi
      · exact Or.inl ⟨hi, (Option.some.inj hheld).symm⟩
      · exact Or.inr ⟨get?_sweep hheld, hL.held i request (get?_sweep hheld)⟩
    refine ⟨fun i request hheld => ?_, fun i j request hi hj => ?_⟩
    · rw [List.length_append, List.length_singleton]
      obtain ⟨-, rfl⟩ | ⟨-, hlt⟩ := hset hheld
      · exact Nat.lt_succ_self _
      · exact Nat.lt_succ_of_lt hlt
    · obtain ⟨rfl, rfl⟩ | ⟨hi', hlt⟩ := hset hi
      · obtain ⟨rfl, -⟩ | ⟨-, hlt⟩ := hset hj
        · rfl
        · exact absurd hlt (Nat.lt_irrefl _)
      · obtain ⟨-, rfl⟩ | ⟨hj', -⟩ := hset hj
        · exact absurd hlt (Nat.lt_irrefl _)
        · exact hL.alone i j request hi' hj'
  | dropped hentries => exact hL.fewer rfl hentries
  | edited => exact hL.fewer (hmodify _ _) fun _ _ hheld => hheld
  | called => exact hL.fewer (hmodify _ _) fun _ _ hheld => hheld
  | charged => exact hL.fewer (hmodify _ _) fun _ _ hheld => hheld
  | simBegun => exact hL.fewer (hmodify _ _) fun _ _ hheld => hheld
  | simEnded => exact hL.fewer rfl fun _ _ hheld => hheld
  | simEndedOn => exact hL.fewer (hmodify _ _) fun _ _ hheld => hheld

theorem linked_init : Linked .init where
  held threadId request hheld := by cases hheld
  alone i j request hi := by cases hi

/-! ## The registry without its counters -/

/-- The registry of `Copilot.Registry` holds these requests. -/
def Projects (s : Sys) (r : Copilot.Registry) : Prop :=
  ∀ threadId, r.entries.get? threadId = (s.entry threadId).map Entry.toEntry

def Act.onRegistry (limits : Limits) (r : Copilot.Registry) : Act → Copilot.Registry
  | .begin threadId requestId now => r.begin limits.toLimits now threadId requestId
  | .close threadId => r.close threadId
  | .stop threadId => (r.stop threadId).1
  | .clearStop threadId => r.clearStop threadId
  | .anyOpen now => r.sweep limits.toLimits now
  | _ => r

theorem entry_modify (s : Sys) (request : ℕ) (f : Entry → Entry) (threadId : String) :
    (s.modify request f).entry threadId =
      if s.entries.get? threadId = some request then (s.entry threadId).map f else s.entry threadId := by
  unfold Sys.entry Sys.modify
  cases hheld : s.entries.get? threadId with
  | none => simp
  | some request' =>
    simp only [Option.bind_some, List.getElem?_modify, Option.some.injEq, eq_comm]
    split_ifs
    · rfl
    · simp

/-- A change of the counters of one entry. -/
theorem Projects.modify {r : Copilot.Registry} (hP : Projects s r) (request : ℕ) {f : Entry → Entry}
    (hf : ∀ e, (f e).toEntry = e.toEntry) : Projects (s.modify request f) r := by
  intro threadId
  rw [hP threadId, entry_modify]
  split_ifs
  · rw [Option.map_map]
    exact congrArg (fun g => (s.entry threadId).map g) (funext fun e => (hf e).symm)
  · rfl

theorem entry_sweep (s : Sys) (limits : Limits) (now : ℤ) (threadId : String) :
    (s.sweep limits now).entry threadId =
      (s.entry threadId).bind fun e => if e.outlived limits now then none else some e := by
  unfold Sys.entry
  simp only [Sys.sweep, get?_filterMapValues]
  cases s.entries.get? threadId with
  | none => rfl
  | some request =>
    simp only [Option.bind_some]
    cases he : s.objects[request]? with
    | none => simp [he]
    | some e => by_cases hout : e.outlived limits now = true <;> simp [hout, he]

theorem Projects.sweep {r : Copilot.Registry} (hP : Projects s r) (now : ℤ) :
    Projects (s.sweep limits now) (r.sweep limits.toLimits now) := by
  intro threadId
  rw [entry_sweep, Registry.sweep, get?_filterMapValues, hP threadId]
  cases s.entry threadId with
  | none => rfl
  | some e =>
    by_cases hout : ((limits.deadlineS : ℤ) + limits.planTtlS) * 1000 ≤ now - e.startedAt <;>
      simp [Entry.outlived, hout]

/-- A change of the entry that the thread holds. -/
theorem Projects.set {r : Copilot.Registry} (hP : Projects s r) (hL : Linked s)
    (hheld : s.entries.get? threadId = some request) {f : Entry → Entry} {e : Copilot.Entry}
    (hf : ∀ e₀, s.objects[request]? = some e₀ → (f e₀).toEntry = e) :
    Projects (s.modify request f) ⟨r.entries.set threadId e⟩ := by
  intro i
  rw [get?_set, entry_modify]
  by_cases hi : threadId = i
  · subst hi
    obtain ⟨e₀, he₀⟩ : ∃ e₀, s.objects[request]? = some e₀ :=
      ⟨_, List.getElem?_eq_getElem (hL.held threadId request hheld)⟩
    have hentry : s.entry threadId = some e₀ := by rw [Sys.entry, hheld, Option.bind_some, he₀]
    rw [if_pos rfl, if_pos hheld, hentry, Option.map_some, Option.map_some, hf e₀ he₀]
  · rw [if_neg hi, if_neg, hP i]
    exact fun hheld' => hi (hL.alone threadId i request hheld hheld')

/-- **The registry of the graph** is this one without its counters: every step is the same on both. -/
theorem projects_step {r : Copilot.Registry} (hP : Projects s r) (hL : Linked s)
    (hs : (registry limits).step s a = some (s', o)) : Projects s' (a.onRegistry limits r) := by
  change step limits s a = some (s', o) at hs
  have hentry : ∀ {i request}, s.entries.get? i = some request → ∃ e, s.objects[request]? = some e ∧
      r.entries.get? i = some e.toEntry := by
    intro i request hheld
    refine ⟨_, List.getElem?_eq_getElem (hL.held i request hheld), ?_⟩
    rw [hP i, Sys.entry, hheld, Option.bind_some, List.getElem?_eq_getElem (hL.held i request hheld), Option.map_some]
  have hmissing : ∀ {i}, s.entries.get? i = none → r.entries.get? i = none := by
    intro i hnone
    rw [hP i, Sys.entry, hnone]
    rfl
  cases a with
  | begin threadId requestId now =>
    cases hs
    intro i
    simp only [Act.onRegistry, Registry.begin, get?_set, Sys.entry]
    by_cases hi : threadId = i
    · simp [hi, Sys.sweep, Entry.fresh]
    · rw [if_neg hi, if_neg hi, hP.sweep now i]
      unfold Sys.entry
      cases hheld : (s.sweep limits now).entries.get? i with
      | none => rfl
      | some request =>
        have hlt : request < (s.sweep limits now).objects.length := hL.held i request (get?_sweep hheld)
        rw [Option.bind_some, Option.bind_some, List.getElem?_append_left hlt]
  | close threadId =>
    cases hs
    intro i
    simp only [Act.onRegistry, Registry.close, get?_erase, Sys.entry]
    by_cases hi : threadId = i
    · simp [hi]
    · rw [if_neg hi, if_neg hi, hP i]
      rfl
  | stop threadId =>
    simp only [step] at hs
    split at hs
    · rename_i hnone
      cases hs
      simpa only [Act.onRegistry, Registry.stop, hmissing hnone] using hP
    · rename_i request hheld
      cases hs
      obtain ⟨e, he, hr⟩ := hentry hheld
      simp only [Act.onRegistry, Registry.stop, hr]
      refine hP.set hL hheld fun e₀ he₀ => ?_
      cases he.symm.trans he₀
      rfl
  | clearStop threadId =>
    simp only [step] at hs
    split at hs
    · rename_i hnone
      cases hs
      simpa only [Act.onRegistry, Registry.clearStop, hmissing hnone] using hP
    · rename_i request hheld
      cases hs
      obtain ⟨e, he, hr⟩ := hentry hheld
      simp only [Act.onRegistry, Registry.clearStop, hr]
      refine hP.set hL hheld fun e₀ he₀ => ?_
      cases he.symm.trans he₀
      rfl
  | anyOpen now =>
    cases hs
    exact hP.sweep now
  | call maker threadId role shape now =>
    simp only [step] at hs
    split at hs
    · cases hs
      exact hP
    · cases hs
      exact hP
    · cases hs
      exact hP.modify _ fun _ => rfl
    · cases hs
  | reply call usage =>
    simp only [step] at hs
    split at hs
    · cases hs
      exact hP.modify _ fun _ => rfl
    · cases hs
      exact hP
    · cases hs
  | callFails call =>
    simp only [step] at hs
    split at hs
    · cases hs
      exact hP
    · cases hs
      exact hP
    · cases hs
  | timer call =>
    cases hs
    exact hP
  | claimEvidence threadId =>
    simp only [step] at hs
    split at hs
    · split_ifs at hs
      · cases hs
        exact hP
      · cases hs
        exact hP.modify _ fun _ => rfl
    · cases hs
      exact hP
  | claimSimCall threadId =>
    simp only [step] at hs
    split at hs
    · split_ifs at hs
      · cases hs
        exact hP
      · cases hs
        exact hP.modify _ fun _ => rfl
    · cases hs
      exact hP
  | beginSimRun threadId now =>
    simp only [step] at hs
    split at hs
    · cases hs
      exact hP
    · cases hs
      exact hP.modify _ fun _ => rfl
    · cases hs
  | endSimRun run =>
    simp only [step] at hs
    split at hs
    · split at hs
      · cases hs
        exact hP
      · cases hs
        exact hP.modify _ fun _ => rfl
    · cases hs

/-- What the graph asks of its registry is what this one says. -/
theorem projects_interrupted {r : Copilot.Registry} (hP : Projects s r) (now : ℤ) (threadId : String) :
    s.interrupted now threadId = r.interrupted now threadId := by
  unfold Sys.interrupted Registry.interrupted
  rw [hP threadId]
  cases s.entry threadId with
  | none => rfl
  | some e => rfl

/-- **Every run** of this registry is one of the graph's. -/
theorem projects_exec : ∀ {as : List Act} {s s' : Sys} {o : List Obs} {r : Copilot.Registry}, Projects s r → Linked s →
    (registry limits).exec s as = some (s', o) → Projects s' (as.foldl (Act.onRegistry limits) r)
  | [], _, _, _, _, hP, _, he => by
    cases he
    exact hP
  | a :: _, _, _, _, r, hP, hL, he => by
    obtain ⟨s₁, o₁, o₂, hs, he', rfl⟩ := exec_cons_iff.mp he
    exact projects_exec (r := a.onRegistry limits r) (projects_step hP hL hs) (hL.step hs) he'

/-! ## What is called and charged -/

def Obs.calls (request : ℕ) : Obs → List ℕ
  | .called _ request' call _ => if request' = request then [call] else []
  | _ => []

/-- The model calls that are counted against a request. -/
def callsOf (request : ℕ) (h : List Obs) : List ℕ := h.flatMap (Obs.calls request)

def Obs.charges (request : ℕ) : Obs → List Tokens
  | .charged request' _ usage => if request' = request then [fun kind => count (usage kind)] else []
  | _ => []

/-- What is charged to a request. -/
def chargesOf (request : ℕ) (h : List Obs) : List Tokens := h.flatMap (Obs.charges request)

@[simp] theorem callsOf_append (request : ℕ) (h o : List Obs) :
    callsOf request (h ++ o) = callsOf request h ++ callsOf request o := List.flatMap_append

@[simp] theorem chargesOf_append (request : ℕ) (h o : List Obs) :
    chargesOf request (h ++ o) = chargesOf request h ++ chargesOf request o := List.flatMap_append

theorem callsOf_called (maker request request' call : ℕ) (role : Role) :
    callsOf request' [.called maker request call role] = if request = request' then [call] else [] :=
  List.flatMap_singleton _ _

theorem chargesOf_charged (request request' call : ℕ) (usage : TokenKind → Value) :
    chargesOf request' [.charged request call usage] =
      if request = request' then [fun kind => count (usage kind)] else [] :=
  List.flatMap_singleton _ _

theorem mem_callsOf {request call : ℕ} {h : List Obs} :
    call ∈ callsOf request h ↔ ∃ maker role, .called maker request call role ∈ h := by
  constructor
  · intro hmem
    obtain ⟨x, hx, hcall⟩ := List.mem_flatMap.mp hmem
    cases x with
    | called maker request' call' role =>
      simp only [Obs.calls] at hcall
      split_ifs at hcall with hrequest
      · obtain rfl := List.mem_singleton.mp hcall
        exact ⟨maker, role, hrequest ▸ hx⟩
      · cases hcall
    | _ => cases hcall
  · rintro ⟨maker, role, hmem⟩
    exact List.mem_flatMap.mpr ⟨_, hmem, by simp [Obs.calls]⟩

theorem callsOf_unbilled (ho : ∀ x ∈ o, x.Unbilled) (request : ℕ) : callsOf request o = [] := by
  refine List.flatMap_eq_nil_iff.mpr fun x hx => ?_
  cases x with
  | called => exact absurd (ho _ hx) id
  | _ => rfl

theorem chargesOf_unbilled (ho : ∀ x ∈ o, x.Unbilled) (request : ℕ) : chargesOf request o = [] := by
  refine List.flatMap_eq_nil_iff.mpr fun x hx => ?_
  cases x with
  | charged => exact absurd (ho _ hx) id
  | _ => rfl

/-! ## The account of every request -/

structure Accounted (limits : Limits) (s : Sys) (h : List Obs) : Prop where
  bills : ∀ request e, s.objects[request]? = some e →
    e.callsUsed = (callsOf request h).length ∧ e.tokens = (chargesOf request h).sum
  within : ∀ request, (callsOf request h).length ≤ limits.maxModelCalls
  ahead : ∀ request, s.objects.length ≤ request → callsOf request h = [] ∧ chargesOf request h = []
  makers : ∀ maker request call role, .called maker request call role ∈ h →
    (s.calls.map Call.request)[call]? = some request
  made : ∀ call request, (s.calls.map Call.request)[call]? = some request → call ∈ callsOf request h
  charged : ∀ request call usage, .charged request call usage ∈ h → call ∈ callsOf request h

/-- A step that bills nothing: an entry is billed as it was, or begins. -/
theorem Accounted.unbilled (hA : Accounted limits s h) (ho : ∀ x ∈ o, x.Unbilled)
    (hcalls : s'.calls.map Call.request = s.calls.map Call.request) (hlength : s.objects.length ≤ s'.objects.length)
    (hobjects : ∀ (request : ℕ) e, s'.objects[request]? = some e →
      (∃ e₀, s.objects[request]? = some e₀ ∧ e₀.bill = e.bill) ∨ s.objects.length ≤ request ∧ e.bill = (0, 0)) :
    Accounted limits s' (h ++ o) := by
  have hcallsOf : ∀ request, callsOf request (h ++ o) = callsOf request h := fun request => by
    rw [callsOf_append, callsOf_unbilled ho, List.append_nil]
  have hchargesOf : ∀ request, chargesOf request (h ++ o) = chargesOf request h := fun request => by
    rw [chargesOf_append, chargesOf_unbilled ho, List.append_nil]
  have hold : ∀ {x : Obs}, x ∈ h ++ o → ¬ x.Unbilled → x ∈ h := fun hx hbilled =>
    (List.mem_append.mp hx).resolve_right fun hlast => hbilled (ho _ hlast)
  refine ⟨fun request e he => ?_, fun request => ?_, fun request hrequest => ?_,
    fun maker request call role hmem => ?_, fun request call hcall => ?_, fun request call usage hmem => ?_⟩
  · rw [hcallsOf, hchargesOf]
    obtain ⟨e₀, he₀, hbill⟩ | ⟨hahead, hbill⟩ := hobjects request e he
    · obtain ⟨hused, htokens⟩ := Prod.mk.injEq .. ▸ hbill
      rw [← hused, ← htokens]
      exact hA.bills request e₀ he₀
    · obtain ⟨hused, htokens⟩ := Prod.mk.injEq .. ▸ hbill
      obtain ⟨hnone, hnone'⟩ := hA.ahead request hahead
      rw [hused, htokens, hnone, hnone']
      exact ⟨rfl, rfl⟩
  · rw [hcallsOf]
    exact hA.within request
  · rw [hcallsOf, hchargesOf]
    exact hA.ahead request (hlength.trans hrequest)
  · rw [hcalls]
    exact hA.makers maker request call role (hold hmem id)
  · rw [hcallsOf]
    rw [hcalls] at hcall
    exact hA.made request call hcall
  · rw [hcallsOf]
    exact hA.charged request call usage (hold hmem id)

/-- A change of an entry that bills nothing. -/
theorem Accounted.edited (hA : Accounted limits s h) {f : Entry → Entry} (hf : ∀ e, (f e).bill = e.bill)
    (ho : ∀ x ∈ o, x.Unbilled) {calls : List Call} (hcalls : calls.map Call.request = s.calls.map Call.request)
    {runs : List Run} : Accounted limits { s.modify request f with calls, runs } (h ++ o) := by
  refine hA.unbilled ho hcalls (List.length_modify ..).ge fun i e he => Or.inl ?_
  rw [Sys.modify, List.getElem?_modify] at he
  obtain ⟨e₀, he₀, rfl⟩ := Option.map_eq_some_iff.mp he
  refine ⟨e₀, he₀, ?_⟩
  split_ifs
  · exact (hf e₀).symm
  · rfl

theorem Accounted.step (hA : Accounted limits s h) (hs : (registry limits).step s a = some (s', o)) :
    Accounted limits s' (h ++ o) := by
  cases step_effect hs with
  | @began threadId requestId now =>
    refine hA.unbilled (by simp [Obs.Unbilled]) rfl (by simp) fun request e he => ?_
    by_cases hlt : request < s.objects.length
    · rw [List.getElem?_append_left hlt] at he
      exact Or.inl ⟨e, he, rfl⟩
    · rw [List.getElem?_append_right (Nat.le_of_not_lt hlt)] at he
      obtain rfl := List.mem_singleton.mp (List.mem_of_getElem? he)
      exact Or.inr ⟨Nat.le_of_not_lt hlt, rfl⟩
  | dropped _ ho => exact hA.unbilled ho rfl le_rfl fun _ e he => Or.inl ⟨e, he, rfl⟩
  | edited hbill _ hcalls ho => exact hA.edited hbill ho hcalls
  | simBegun =>
    refine hA.edited (f := fun e => { e with simRuns := e.simRuns + 1, simInFlight := e.simInFlight + 1 })
      (fun _ => rfl) ?_ rfl
    simp [Obs.Unbilled]
  | simEnded => exact hA.unbilled (by simp [Obs.Unbilled]) rfl le_rfl fun _ e he => Or.inl ⟨e, he, rfl⟩
  | simEndedOn =>
    refine hA.edited (f := fun e => { e with simInFlight := e.simInFlight - 1 }) (fun _ => rfl) ?_ rfl
    simp [Obs.Unbilled]
  | @called maker threadId role now request e _ _ _ he hbudget =>
    obtain ⟨hused, htokens⟩ := hA.bills request e he
    have hcallsOf : ∀ request', callsOf request' (h ++ [.called maker request s.calls.length role]) =
        callsOf request' h ++ if request = request' then [s.calls.length] else [] := fun request' => by
      rw [callsOf_append, callsOf_called]
    have hchargesOf : ∀ request', chargesOf request' (h ++ [.called maker request s.calls.length role]) =
        chargesOf request' h := fun request' => by
      rw [chargesOf_append]
      exact List.append_nil _
    have hmakers : (s.calls ++ [(⟨request, role, none⟩ : Call)]).map Call.request =
      s.calls.map Call.request ++ [request] :=
      List.map_append
    refine ⟨fun request' e' he' => ?_, fun request' => ?_, fun request' hahead => ?_,
      fun maker' request' call role' hmem => ?_, fun call request' hcall => ?_, fun request' call usage hmem => ?_⟩
    · rw [Sys.modify, List.getElem?_modify] at he'
      rw [hcallsOf, hchargesOf]
      by_cases hrequest : request = request'
      · subst hrequest
        rw [he, Option.map_eq_map, Option.map_some, if_pos rfl] at he'
        cases he'
        rw [if_pos rfl, List.length_append, ← hused]
        exact ⟨rfl, htokens⟩
      · obtain ⟨e₀, he₀, rfl⟩ := Option.map_eq_some_iff.mp he'
        rw [if_neg hrequest, if_neg hrequest, List.append_nil]
        exact hA.bills request' e₀ he₀
    · rw [hcallsOf]
      by_cases hrequest : request = request'
      · subst hrequest
        rw [if_pos rfl, List.length_append, ← hused]
        exact hbudget
      · rw [if_neg hrequest, List.append_nil]
        exact hA.within request'
    · rw [Sys.modify, List.length_modify] at hahead
      rw [hcallsOf, hchargesOf, if_neg, List.append_nil]
      · exact hA.ahead request' hahead
      · rintro rfl
        rw [List.getElem?_eq_none hahead] at he
        cases he
    · rw [hmakers]
      obtain hold | hnew := List.mem_append.mp hmem
      · have hbefore := hA.makers maker' request' call role' hold
        rwa [List.getElem?_append_left (List.getElem?_eq_some_iff.mp hbefore).1]
      · cases List.mem_singleton.mp hnew
        rw [List.getElem?_append_right (by simp), List.length_map, Nat.sub_self]
        rfl
    · rw [hmakers] at hcall
      rw [hcallsOf]
      by_cases hlt : call < (s.calls.map Call.request).length
      · rw [List.getElem?_append_left hlt] at hcall
        exact List.mem_append_left _ (hA.made call request' hcall)
      · rw [List.getElem?_append_right (Nat.le_of_not_lt hlt)] at hcall
        obtain ⟨hzero, hrequest⟩ := List.getElem?_eq_some_iff.mp hcall
        have hcall' : call = s.calls.length := by
          simp only [List.length_map, List.length_singleton] at hzero hlt
          omega
        rw [List.getElem_singleton] at hrequest
        rw [hcall', if_pos hrequest]
        exact List.mem_append_right _ (List.mem_singleton_self _)
    · rw [hcallsOf]
      refine List.mem_append_left _ (hA.charged request' call usage ?_)
      exact (List.mem_append.mp hmem).resolve_right (by simp)
  | @charged call usage c calls hc hcalls =>
    have hcallsOf : ∀ request', callsOf request' (h ++ [.charged c.request call usage]) = callsOf request' h :=
      fun request' => by
        rw [callsOf_append]
        exact List.append_nil _
    have hchargesOf : ∀ request', chargesOf request' (h ++ [.charged c.request call usage]) =
        chargesOf request' h ++ if c.request = request' then [fun kind => count (usage kind)] else [] :=
        fun request' => by
      rw [chargesOf_append, chargesOf_charged]
    have hmade : call ∈ callsOf c.request h := hA.made call c.request (by rw [List.getElem?_map, hc]; rfl)
    refine ⟨fun request' e' he' => ?_, fun request' => ?_, fun request' hahead => ?_,
      fun maker' request' call' role' hmem => ?_, fun call' request' hcall => ?_,
      fun request' call' usage' hmem => ?_⟩
    · rw [Sys.modify, List.getElem?_modify] at he'
      obtain ⟨e₀, he₀, rfl⟩ := Option.map_eq_some_iff.mp he'
      obtain ⟨hused, htokens⟩ := hA.bills request' e₀ he₀
      rw [hcallsOf, hchargesOf]
      by_cases hrequest' : c.request = request'
      · rw [if_pos hrequest', if_pos hrequest', List.sum_append, List.sum_singleton, ← htokens]
        exact ⟨hused, rfl⟩
      · rw [if_neg hrequest', if_neg hrequest', List.append_nil]
        exact ⟨hused, htokens⟩
    · rw [hcallsOf]
      exact hA.within request'
    · rw [Sys.modify, List.length_modify] at hahead
      obtain ⟨hnone, hnone'⟩ := hA.ahead request' hahead
      rw [hcallsOf, hchargesOf, if_neg, List.append_nil]
      · exact ⟨hnone, hnone'⟩
      · rintro rfl
        rw [hnone] at hmade
        cases hmade
    · rw [hcalls]
      exact hA.makers maker' request' call' role' ((List.mem_append.mp hmem).resolve_right (by simp))
    · rw [hcalls] at hcall
      rw [hcallsOf]
      exact hA.made call' request' hcall
    · rw [hcallsOf]
      obtain hold | hnew := List.mem_append.mp hmem
      · exact hA.charged request' call' usage' hold
      · cases List.mem_singleton.mp hnew
        exact hmade

theorem accounted_init (limits : Limits) : Accounted limits .init [] where
  bills request e he := by cases he
  within _ := Nat.zero_le _
  ahead _ _ := ⟨rfl, rfl⟩
  makers _ _ _ _ hmem := absurd hmem List.not_mem_nil
  made call request hcall := by cases hcall
  charged _ _ _ hmem := absurd hmem List.not_mem_nil

/-! ## Whose call it is -/

def Obs.starts (maker : ℕ) : Obs → List ℕ
  | .called maker' _ call _ => if maker' = maker then [call] else []
  | _ => []

/-- The model calls that a request's branches started. -/
def startedBy (maker : ℕ) (h : List Obs) : List ℕ := h.flatMap (Obs.starts maker)

/-- A branch whose call is let through finds the entry of its own request. -/
def OwnCalls (limits : Limits) (s : Sys) (_ : List Obs) : Act → Prop
  | .call maker threadId _ shape now => shape = none → s.refusal limits now threadId = none →
      ∀ request ∈ s.entries.get? threadId, request = maker
  | _ => True

/-- A request starts no more than its budget, and what is charged to it is what its own calls have used. -/
structure Charged (limits : Limits) (s : Sys) (h : List Obs) : Prop where
  within : ∀ maker, (startedBy maker h).length ≤ limits.maxModelCalls
  own : ∀ request call usage, .charged request call usage ∈ h → (∃ role, .called request request call role ∈ h) ∧
    ∀ maker request' role, .called maker request' call role ∈ h → maker = request
  tokens : ∀ request e, s.objects[request]? = some e → e.tokens = (chargesOf request h).sum

/-- Every call is counted against its maker. -/
def Counted (h : List Obs) : Prop := ∀ maker request call role, .called maker request call role ∈ h → request = maker

theorem Counted.step (hO : Counted h) (hC : OwnCalls limits s h a) (hs : (registry limits).step s a = some (s', o)) :
    Counted (h ++ o) := by
  intro maker request call role hmem
  refine (List.mem_append.mp hmem).elim (hO maker request call role) fun hnew => ?_
  cases step_effect hs with
  | called ha hrefusal hheld =>
    subst ha
    obtain ⟨rfl, rfl, -, -⟩ := Obs.called.inj (List.mem_singleton.mp hnew)
    exact hC rfl hrefusal _ hheld
  | dropped _ ho => exact absurd (ho _ hnew) fun hun => hun
  | edited _ _ _ ho => exact absurd (ho _ hnew) fun hun => hun
  | _ => cases List.mem_singleton.mp hnew

theorem Accounted.charged_of (hA : Accounted limits s h) (hO : Counted h) : Charged limits s h where
  within maker := by
    have hsame : startedBy maker h = callsOf maker h := by
      refine List.flatMap_congr fun x hx => ?_
      cases x with
      | called maker' request call role =>
        obtain rfl := hO maker' request call role hx
        rfl
      | _ => rfl
    rw [hsame]
    exact hA.within maker
  own request call usage hmem := by
    obtain ⟨maker, role, hcalled⟩ := mem_callsOf.mp (hA.charged request call usage hmem)
    obtain rfl := hO maker request call role hcalled
    refine ⟨⟨role, hcalled⟩, fun maker' request' role' hcalled' => ?_⟩
    have hrequest := (hA.makers maker' request' call role' hcalled').symm.trans (hA.makers _ _ call role hcalled)
    exact (hO maker' request' call role' hcalled').symm.trans (Option.some.inj hrequest)
  tokens request e he := (hA.bills request e he).2

/-- **The budget of model calls.**  If every call that is let through finds the entry of its own request, no request
starts more than its budget, and what is charged to it is for its own calls; and a call that finds another's entry is
counted against that, and its reply charged to it.  No entry counts more than the budget in any case. -/
theorem model_call_budget (limits : Limits) :
    (∀ as, (registry limits).Meets (OwnCalls limits) .init [] as →
      (registry limits).Along (Charged limits) .init [] as) ∧
    ∀ s h, (registry limits).Reaches .init s h →
      (∀ request, (callsOf request h).length ≤ limits.maxModelCalls) ∧
      ∀ maker threadId role shape now, ¬ OwnCalls limits s h (.call maker threadId role shape now) →
        ∃ s₁ request call, request ≠ maker ∧
          (registry limits).step s (.call maker threadId role shape now) =
            some (s₁, [.called maker request call role]) ∧
          ∀ usage, ∃ s₂, (registry limits).step s₁ (.reply call usage) = some (s₂, [.charged request call usage]) := by
  refine ⟨fun as hC => along_of_meets (I := fun s h => Accounted limits s h ∧ Counted h)
    (fun hI hC hs => ⟨hI.1.step hs, hI.2.step hC hs⟩) (fun hI => hI.1.charged_of hI.2)
    ⟨accounted_init limits, fun _ _ _ _ hmem => absurd hmem List.not_mem_nil⟩ hC, fun s h hr => ⟨?_, ?_⟩⟩
  · exact (hr.hist (I := Accounted limits) (fun hA hs => hA.step hs) (accounted_init limits)).within
  · intro maker threadId role shape now hother
    simp only [OwnCalls, not_forall] at hother
    obtain ⟨rfl, hrefusal, request, hheld, hne⟩ := hother
    have hcall : (registry limits).step s (.call maker threadId role none now) =
        some ({ s.modify request (·.spend role) with calls := s.calls ++ [⟨request, role, none⟩] },
          [.called maker request s.calls.length role]) := by
      simp only [registry, step, hrefusal, Option.mem_def.mp hheld]
    refine ⟨_, request, s.calls.length, hne, hcall, fun usage => ?_⟩
    simp only [registry, step, List.getElem?_concat_length]
    exact ⟨_, rfl⟩

/-- The defaults that the registry reads. -/
def DEFAULT_LIMITS : Limits where
  deadlineS := 300
  planTtlS := 600
  grantTtlS := 120
  maxModelCalls := 40
  maxPlanCommands := 12
  maxDrafts := 3
  maxEvidencePerRequest := 60
  simCallsPerRequest := 1
  simRunsPerRequest := 3
  simInFlightPerRequest := 1

/-- A branch is left over from a request, and asks when the next one on the thread has begun; its reply comes. -/
def stragglerCall : List Act :=
  [.begin "u:1" "r1" 0, .call 0 "u:1" .planner none 1, .close "u:1", .begin "u:1" "r2" 2,
    .call 0 "u:1" .diagnose none 3, .reply 1 fun _ => .number 100]

theorem stragglerCall_run : ((registry DEFAULT_LIMITS).exec .init stragglerCall).any (fun r =>
    (chargesOf 1 r.2).length = 1 && startedBy 1 r.2 = []) = true := by decide +kernel

/-- The later request is charged for a call that it did not make. -/
theorem straggler_charged : ¬ (registry DEFAULT_LIMITS).Along (Charged DEFAULT_LIMITS) .init [] stragglerCall := by
  intro hA
  obtain ⟨⟨s, h⟩, hr, hrun⟩ := (Option.any_eq_true _ _).mp stragglerCall_run
  obtain ⟨hlength, hnone⟩ := Bool.and_eq_true_iff.mp hrun
  have hC : Charged DEFAULT_LIMITS s h := hA.at_end hr
  obtain ⟨x, hx, hcharges⟩ : ∃ x ∈ h, x.charges 1 ≠ [] := by
    by_contra hall
    have hnil : chargesOf 1 h = [] := List.flatMap_eq_nil_iff.mpr fun x hx => not_not.mp fun hne => hall ⟨x, hx, hne⟩
    rw [show (s, h).2 = h from rfl, hnil] at hlength
    cases of_decide_eq_true hlength
  cases x with
  | charged request call usage =>
    obtain rfl : request = 1 := by
      by_contra hne
      exact hcharges (if_neg hne)
    obtain ⟨⟨role, hcalled⟩, -⟩ := hC.own 1 call usage hx
    have hmem : call ∈ startedBy 1 h := List.mem_flatMap.mpr ⟨_, hcalled, List.mem_singleton_self call⟩
    rw [show startedBy 1 h = [] from of_decide_eq_true hnone] at hmem
    cases hmem
  | _ => exact hcharges rfl

end DTwin.Copilot.Requests
