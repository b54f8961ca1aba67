import DTwin.Lib.Machine
import Mathlib.Logic.Function.Basic

/-!
# DTwin.Db.Scope — the tenant of a pooled connection

`withTenant`, `withoutTenant` and `withTransaction` of `packages/db/src/client.ts`, statement by statement, on the
sessions of PostgreSQL that a pool hands out.  A statement that fails aborts the transaction that is open, or never
reaches the server; a `COMMIT` that fails may have ended it all the same.  What a session holds ends with its
transaction.  A callback issues its statements until it returns or throws.

`scope_kept` says that no scope is carried forward while no `ROLLBACK` is lost in an open transaction.
-/

namespace DTwin.Db.Scope

open Machine

/-! ## A session -/

/-- A transaction that is open, and what is set in it. -/
structure Txn where
  /-- The call that began it. -/
  owner : ℕ
  readOnly : Bool
  tenantId : String
  userId : String
  /-- A statement has failed in it: only its end is accepted. -/
  aborted : Bool
deriving DecidableEq

abbrev Session := Option Txn

inductive Statement
  | begin (readOnly : Bool)
  /-- `set_config('app.tenant_id', …, true)` and `set_config('app.user_id', …, true)`. -/
  | setConfig (tenantId userId : String)
  | query
  | commit
  | rollback

inductive Reply
  | ok
  | error
  /-- A `COMMIT` fails, and the transaction has ended. -/
  | errorAtEnd
  /-- The statement fails before it is sent. -/
  | unsent
deriving DecidableEq

def Txn.abort (txn : Txn) : Txn := { txn with aborted := true }

/-- The session refuses all but the end of its transaction. -/
def Session.isAborted (s : Session) : Bool := s.any Txn.aborted

/-- A statement on a session, for a call: what it leaves, and whether it succeeds. -/
def Session.run (s : Session) (call : ℕ) : Statement → Reply → Session × Bool
  | _, .unsent => (s, false)
  | .rollback, .ok => (none, true)
  | .commit, .ok => (none, true)
  | .commit, .errorAtEnd => (none, false)
  | .begin readOnly, .ok =>
    match s with
    | none => (some ⟨call, readOnly, "", "", false⟩, true)
    -- a warning: the transaction goes on
    | some txn => (s, !txn.aborted)
  | .setConfig tenantId userId, .ok =>
    match s with
    | none => (none, true)
    | some txn => if txn.aborted then (s, false) else (some { txn with tenantId, userId }, true)
  | .query, .ok => (s, !Session.isAborted s)
  | _, _ => (s.map Txn.abort, false)

/-! ## The calls -/

inductive Kind
  | tenant (tenantId userId : String) (readOnly : Bool)
  | without
  | transaction
deriving DecidableEq

def Kind.readOnly : Kind → Bool
  | .tenant _ _ readOnly => readOnly
  | _ => false

inductive Phase | begin | setting | body | commit | rollback | released
deriving DecidableEq

/-- A call, with the connection it has been given. -/
structure Call where
  kind : Kind
  conn : ℕ
  phase : Phase

/-- The statement that the call waits for. -/
def Call.statement (c : Call) : Option Statement :=
  match c.phase, c.kind with
  | .begin, kind => some (.begin kind.readOnly)
  | .setting, .tenant tenantId userId _ => some (.setConfig tenantId userId)
  | .commit, _ => some .commit
  | .rollback, _ => some .rollback
  | _, _ => none

/-- Where a call begins. -/
def Kind.first : Kind → Phase
  | .without => .body
  | _ => .begin

/-- Where it goes when its statement has succeeded, or failed. -/
def Call.after (c : Call) (ok : Bool) : Phase :=
  match c.phase, ok with
  | .begin, true =>
    match c.kind with
    | .tenant .. => .setting
    | _ => .body
  | .setting, true => .body
  | .commit, true => .released
  -- `.catch(() => {})`
  | .rollback, _ => .released
  | _, _ => .rollback

/-- Where it goes when its callback has ended. -/
def Call.settled (c : Call) (throws : Bool) : Phase :=
  match c.kind with
  | .without => .released
  | _ => if throws then .rollback else .commit

structure Sys where
  session : ℕ → Session
  calls : List Call

inductive Act
  /-- A call is given a connection. -/
  | call (kind : Kind) (conn : ℕ)
  | reply (i : ℕ) (reply : Reply)
  /-- The callback issues a statement. -/
  | query (i : ℕ) (reply : Reply)
  | settle (i : ℕ) (throws : Bool)
  /-- The pool closes a connection, and opens another in its place. -/
  | replace (conn : ℕ)

/-- A statement of a callback, and the session it finds. -/
structure Issued where
  call : ℕ
  kind : Kind
  session : Session
deriving DecidableEq

def Sys.init : Sys := ⟨fun _ => none, []⟩

/-- No call has the connection. -/
def Sys.free (s : Sys) (conn : ℕ) : Bool := s.calls.all fun c => c.phase = .released || c.conn != conn

/-- `withTenant requires a tenantId`. -/
def Kind.accepted : Kind → Bool
  | .tenant tenantId _ _ => tenantId ≠ ""
  | _ => true

/-- A call goes on, and its session is left so. -/
def Sys.goOn (s : Sys) (i : ℕ) (c : Call) (phase : Phase) (session : Session) : Sys :=
  ⟨Function.update s.session c.conn session, s.calls.set i { c with phase }⟩

def step (s : Sys) : Act → Option (Sys × List Issued)
  | .call kind conn =>
    if kind.accepted && s.free conn then some ({ s with calls := s.calls ++ [⟨kind, conn, kind.first⟩] }, []) else none
  | .reply i reply =>
    match s.calls[i]? with
    | none => none
    | some c =>
      match c.statement with
      | none => none
      | some stmt =>
        let (session, ok) := Session.run (s.session c.conn) i stmt reply
        some (s.goOn i c (c.after ok) session, [])
  | .query i reply =>
    match s.calls[i]? with
    | none => none
    | some c =>
      if c.phase = .body then
        let (session, _) := Session.run (s.session c.conn) i .query reply
        some (s.goOn i c .body session, [⟨i, c.kind, s.session c.conn⟩])
      else none
  | .settle i throws =>
    match s.calls[i]? with
    | none => none
    | some c => if c.phase = .body then some (s.goOn i c (c.settled throws) (s.session c.conn), []) else none
  | .replace conn => if s.free conn then some ({ s with session := Function.update s.session conn none }, []) else none

def pool : Machine Sys Act Issued := ⟨step⟩

/-! ## Scopes -/

/-- The statement is in a transaction of its call with its tenant; or, without a tenant, runs with none set: an aborted
transaction runs nothing. -/
def Issued.inScope (x : Issued) : Prop :=
  match x.kind with
  | .tenant tenantId userId readOnly => ∃ txn, x.session = some txn ∧ txn.owner = x.call ∧ txn.tenantId = tenantId ∧
      txn.userId = userId ∧ txn.readOnly = readOnly
  | .without => ∀ txn, x.session = some txn → txn.aborted = false → txn.tenantId = ""
  | .transaction => True

/-- No transaction is open, or one in which nothing runs any more. -/
def Spent (s : Session) : Prop := ∀ txn, s = some txn → txn.aborted = true

/-- What the session of a call is in its callback. -/
def Kind.Body : Kind → ℕ → Session → Prop
  | .tenant tenantId userId readOnly, i, s => ∃ txn, s = some txn ∧ txn.owner = i ∧ txn.tenantId = tenantId ∧
      txn.userId = userId ∧ txn.readOnly = readOnly
  | .without, _, s => Spent s
  | .transaction, _, _ => True

/-- What the session of a call is where the call stands. -/
def Call.Finds (c : Call) (i : ℕ) (s : Session) : Prop :=
  match c.phase with
  | .begin => Spent s ∧ c.kind ≠ .without
  | .setting => ∃ txn, s = some txn ∧ txn.owner = i ∧ txn.readOnly = c.kind.readOnly
  | .body => c.kind.Body i s
  | _ => True

theorem spent_none : Spent none := nofun

theorem spent_abort (s : Session) : Spent (s.map Txn.abort) := by
  intro txn htxn
  obtain ⟨txn', -, rfl⟩ := Option.map_eq_some_iff.mp htxn
  rfl

/-! ### Statements -/

section Statements

variable {s : Session} {i : ℕ} {reply : Reply}

/-- Only on a session without a transaction does `BEGIN` succeed, where what is left is spent. -/
theorem run_begin (hs : Spent s) {readOnly : Bool} (hok : (Session.run s i (.begin readOnly) reply).2 = true) :
    ∃ txn, (Session.run s i (.begin readOnly) reply).1 = some txn ∧ txn.owner = i ∧ txn.readOnly = readOnly := by
  cases reply with
  | ok =>
    cases s with
    | none => exact ⟨_, rfl, rfl, rfl⟩
    | some txn =>
      have haborted : txn.aborted = true := hs txn rfl
      have hfine : (!txn.aborted) = true := hok
      rw [haborted] at hfine
      cases hfine
  | _ => cases hok

theorem run_setConfig {readOnly : Bool} (hs : ∃ txn, s = some txn ∧ txn.owner = i ∧ txn.readOnly = readOnly)
    {tenantId userId : String} (hok : (Session.run s i (.setConfig tenantId userId) reply).2 = true) :
    (Kind.tenant tenantId userId readOnly).Body i (Session.run s i (.setConfig tenantId userId) reply).1 := by
  obtain ⟨txn, rfl, howner, hreadOnly⟩ := hs
  cases reply with
  | ok =>
    unfold Session.run at hok ⊢
    by_cases haborted : txn.aborted = true
    · simp [haborted] at hok
    · simp only [haborted, Bool.false_eq_true, if_false]
      exact ⟨_, rfl, howner, rfl, rfl, hreadOnly⟩
  | _ => cases hok

/-- A statement of the callback leaves the scope as it is. -/
theorem run_query {kind : Kind} (hs : kind.Body i s) : kind.Body i (Session.run s i .query reply).1 := by
  have habort : kind.Body i (s.map Txn.abort) := by
    cases kind with
    | tenant tenantId userId readOnly =>
      obtain ⟨txn, rfl, hscope⟩ := hs
      exact ⟨txn.abort, rfl, hscope⟩
    | without => exact spent_abort s
    | transaction => trivial
  cases reply with
  | ok => exact hs
  | unsent => exact hs
  | error => exact habort
  | errorAtEnd => exact habort

/-- `COMMIT` ends the transaction if it succeeds. -/
theorem run_commit (hok : (Session.run s i .commit reply).2 = true) : (Session.run s i .commit reply).1 = none := by
  cases reply with
  | ok => rfl
  | _ => cases hok

/-- `ROLLBACK` leaves nothing behind, unless it is lost. -/
theorem run_rollback (hlost : reply = .unsent → Spent s) : Spent (Session.run s i .rollback reply).1 := by
  cases reply with
  | ok => exact spent_none
  | unsent => exact hlost rfl
  | error => exact spent_abort s
  | errorAtEnd => exact spent_abort s

end Statements

/-! ### Runs -/

structure Scoped (s : Sys) : Prop where
  /-- What is in the pool holds no scope. -/
  free : ∀ conn, s.free conn = true → Spent (s.session conn)
  alone : ∀ (i j : ℕ) (c d : Call), s.calls[i]? = some c → s.calls[j]? = some d → c.phase ≠ .released →
    d.phase ≠ .released → c.conn = d.conn → i = j
  finds : ∀ (i : ℕ) (c : Call), s.calls[i]? = some c → c.Finds i (s.session c.conn)

/-- A `ROLLBACK` that is lost before it is sent finds no transaction that could go on. -/
def NotLost (s : Sys) : Act → Prop
  | .reply i reply => ∀ c, s.calls[i]? = some c → c.phase = .rollback → reply = .unsent → Spent (s.session c.conn)
  | _ => True

theorem scoped_init : Scoped .init :=
  ⟨fun _ _ => spent_none, fun i j c d hi => by simp [Sys.init] at hi, fun i c hi => by simp [Sys.init] at hi⟩

section Steps

variable {s s' : Sys}

theorem free_iff {conn : ℕ} : s.free conn = true ↔
    ∀ (j : ℕ) (d : Call), s.calls[j]? = some d → d.conn = conn → d.phase = .released := by
  unfold Sys.free
  rw [List.all_eq_true]
  constructor
  · intro hall j d hj hconn
    simpa [hconn] using hall d (List.mem_of_getElem? hj)
  · intro hall d hd
    obtain ⟨j, hj⟩ := List.mem_iff_getElem?.mp hd
    by_cases hconn : d.conn = conn
    · simp [hall j d hj hconn]
    · simp [hconn]

theorem finds_released {c : Call} (h : c.phase = .released) (i : ℕ) (session : Session) : c.Finds i session := by
  simp [Call.Finds, h]

/-- A call that goes on stays alone on its connection. -/
theorem Scoped.goOn (hS : Scoped s) {i : ℕ} {c : Call} (hi : s.calls[i]? = some c) (hactive : c.phase ≠ .released)
    {phase : Phase} {session : Session} (hfinds : ({ c with phase } : Call).Finds i session)
    (hspent : phase = .released → Spent session) : Scoped (s.goOn i c phase session) := by
  have hlt : i < s.calls.length := (List.getElem?_eq_some_iff.mp hi).1
  have hcalls : ∀ {j : ℕ} {d : Call}, (s.goOn i c phase session).calls[j]? = some d →
      (j = i ∧ d = { c with phase }) ∨ (j ≠ i ∧ s.calls[j]? = some d) := by
    intro j d hj
    have hset : (s.calls.set i { c with phase })[j]? = some d := hj
    by_cases hij : i = j
    · subst hij
      rw [List.getElem?_set_self hlt] at hset
      exact Or.inl ⟨rfl, (Option.some.inj hset).symm⟩
    · rw [List.getElem?_set_ne hij] at hset
      exact Or.inr ⟨fun heq => hij heq.symm, hset⟩
  have hself : (s.goOn i c phase session).calls[i]? = some { c with phase } := List.getElem?_set_self hlt
  have hother : ∀ {conn : ℕ}, conn ≠ c.conn → (s.goOn i c phase session).session conn = s.session conn := fun hne =>
    Function.update_of_ne hne ..
  have hown : (s.goOn i c phase session).session c.conn = session := Function.update_self ..
  refine ⟨fun conn hfree => ?_, fun j k d e hj hk hd he hconn => ?_, fun j d hj => ?_⟩
  · rw [free_iff] at hfree
    by_cases hconn : conn = c.conn
    · subst hconn
      rw [hown]
      exact hspent (hfree i _ hself rfl)
    · rw [hother hconn]
      refine hS.free conn (free_iff.mpr fun j d hj hd => ?_)
      by_cases hij : i = j
      · subst hij
        obtain rfl := Option.some.inj (hi.symm.trans hj)
        exact absurd hd.symm hconn
      · exact hfree j d ((List.getElem?_set_ne hij).trans hj) hd
  · rcases hcalls hj with ⟨rfl, rfl⟩ | ⟨-, hjs⟩
    · rcases hcalls hk with ⟨rfl, rfl⟩ | ⟨-, hks⟩
      · rfl
      · exact hS.alone j k c e hi hks hactive he hconn
    · rcases hcalls hk with ⟨rfl, rfl⟩ | ⟨-, hks⟩
      · exact hS.alone j k d c hjs hi hd hactive hconn
      · exact hS.alone j k d e hjs hks hd he hconn
  · rcases hcalls hj with ⟨rfl, rfl⟩ | ⟨hne, hjs⟩
    · show Call.Finds _ _ ((s.goOn j c phase session).session c.conn)
      rw [hown]
      exact hfinds
    · by_cases hreleased : d.phase = .released
      · exact finds_released hreleased j _
      · have hconn : d.conn ≠ c.conn := fun heq => hne (hS.alone j i d c hjs hi hreleased hactive heq)
        rw [hother hconn]
        exact hS.finds j d hjs

/-- A connection is given to a call. -/
theorem Scoped.call (hS : Scoped s) {conn : ℕ} (hfree : s.free conn = true) (kind : Kind) :
    Scoped { s with calls := s.calls ++ [⟨kind, conn, kind.first⟩] } := by
  have hcalls : ∀ {j : ℕ} {d : Call}, (s.calls ++ [⟨kind, conn, kind.first⟩])[j]? = some d →
      s.calls[j]? = some d ∨ (j = s.calls.length ∧ d = ⟨kind, conn, kind.first⟩) := by
    intro j d hj
    by_cases hlt : j < s.calls.length
    · rw [List.getElem?_append_left hlt] at hj
      exact Or.inl hj
    · rw [List.getElem?_append_right (Nat.le_of_not_lt hlt)] at hj
      obtain ⟨hzero, heq⟩ := List.getElem?_eq_some_iff.mp hj
      rw [List.length_singleton] at hzero
      exact Or.inr ⟨by omega, by rw [← heq, List.getElem_singleton]⟩
  have hspent := hS.free conn hfree
  rw [free_iff] at hfree
  refine ⟨fun conn' hfree' => hS.free conn' (free_iff.mpr fun j d hj => ?_), fun j k d e hj hk hd he hconn => ?_,
    fun j d hj => ?_⟩
  · have hlt : j < s.calls.length := (List.getElem?_eq_some_iff.mp hj).1
    exact free_iff.mp hfree' j d ((List.getElem?_append_left hlt).trans hj)
  · rcases hcalls hj with hj | ⟨rfl, rfl⟩
    · rcases hcalls hk with hk | ⟨rfl, rfl⟩
      · exact hS.alone j k d e hj hk hd he hconn
      · exact absurd (hfree j d hj hconn) hd
    · rcases hcalls hk with hk | ⟨rfl, rfl⟩
      · exact absurd (hfree k e hk hconn.symm) he
      · rfl
  · rcases hcalls hj with hj | ⟨-, rfl⟩
    · exact hS.finds j d hj
    · show Call.Finds ⟨kind, conn, kind.first⟩ j (s.session conn)
      cases kind with
      | tenant tenantId userId readOnly => exact ⟨hspent, nofun⟩
      | without => exact hspent
      | transaction => exact ⟨hspent, nofun⟩

theorem Scoped.replace (hS : Scoped s) {conn : ℕ} (hfree : s.free conn = true) :
    Scoped { s with session := Function.update s.session conn none } := by
  refine ⟨fun conn' hfree' => ?_, hS.alone, fun j d hj => ?_⟩
  · by_cases hconn : conn' = conn
    · subst hconn
      show Spent (Function.update s.session conn' none conn')
      rw [Function.update_self]
      exact spent_none
    · show Spent (Function.update s.session conn none conn')
      rw [Function.update_of_ne hconn]
      exact hS.free conn' hfree'
  · by_cases hconn : d.conn = conn
    · exact finds_released (free_iff.mp hfree j d hj hconn) j _
    · show d.Finds j (Function.update s.session conn none d.conn)
      rw [Function.update_of_ne hconn]
      exact hS.finds j d hj

/-- A call has the answer to its statement. -/
theorem Scoped.reply (hS : Scoped s) {i : ℕ} {c : Call} (hi : s.calls[i]? = some c) {stmt : Statement}
    (hstmt : c.statement = some stmt) {reply : Reply}
    (hlost : c.phase = .rollback → reply = .unsent → Spent (s.session c.conn)) :
    Scoped (s.goOn i c (c.after (Session.run (s.session c.conn) i stmt reply).2)
      (Session.run (s.session c.conn) i stmt reply).1) := by
  have hfinds := hS.finds i c hi
  obtain ⟨kind, conn, phase⟩ := c
  cases phase with
  | begin =>
    obtain rfl := Option.some.inj hstmt
    cases hok : (Session.run (s.session conn) i (.begin kind.readOnly) reply).2 with
    | false => exact hS.goOn hi nofun trivial nofun
    | true =>
      have hbegun := run_begin hfinds.1 hok
      cases kind with
      | tenant tenantId userId readOnly => exact hS.goOn hi nofun hbegun nofun
      | without => exact absurd rfl hfinds.2
      | transaction => exact hS.goOn hi nofun trivial nofun
  | setting =>
    cases kind with
    | tenant tenantId userId readOnly =>
      obtain rfl := Option.some.inj hstmt
      cases hok : (Session.run (s.session conn) i (.setConfig tenantId userId) reply).2 with
      | false => exact hS.goOn hi nofun trivial nofun
      | true => exact hS.goOn hi nofun (run_setConfig hfinds hok) nofun
    | without => cases hstmt
    | transaction => cases hstmt
  | body => cases kind <;> cases hstmt
  | commit =>
    obtain rfl : Statement.commit = stmt := by cases kind <;> exact Option.some.inj hstmt
    cases hok : (Session.run (s.session conn) i .commit reply).2 with
    | false => exact hS.goOn hi nofun trivial nofun
    | true => exact hS.goOn hi nofun trivial fun _ => by rw [run_commit hok]; exact spent_none
  | rollback =>
    obtain rfl : Statement.rollback = stmt := by cases kind <;> exact Option.some.inj hstmt
    have hspent : Spent (Session.run (s.session conn) i .rollback reply).1 := run_rollback (hlost rfl)
    have hafter : ∀ ok, Call.after ⟨kind, conn, .rollback⟩ ok = .released := fun ok => by cases ok <;> rfl
    rw [hafter]
    exact hS.goOn hi nofun trivial fun _ => hspent
  | released => cases kind <;> cases hstmt

/-- What runs in a callback is in its scope: an aborted session refuses it. -/
theorem inScope_of_body {kind : Kind} {i : ℕ} {session : Session} (hbody : kind.Body i session) :
    Issued.inScope ⟨i, kind, session⟩ := by
  cases kind with
  | tenant tenantId userId readOnly => exact hbody
  | without =>
    intro txn htxn hgoesOn
    rw [hbody txn htxn] at hgoesOn
    cases hgoesOn
  | transaction => trivial

/-- A callback that has ended leaves nothing behind that its call does not end. -/
theorem settled_spec {c : Call} {i : ℕ} {session : Session} (hbody : c.kind.Body i session) (throws : Bool) :
    ({ c with phase := c.settled throws } : Call).Finds i session ∧ (c.settled throws = .released → Spent session) := by
  obtain ⟨kind, conn, phase⟩ := c
  cases kind with
  | without => exact ⟨trivial, fun _ => hbody⟩
  | _ => cases throws <;> exact ⟨trivial, nofun⟩

/-- **One step** keeps the scopes apart, and a statement that runs in it is in its scope. -/
theorem Scoped.step (hS : Scoped s) {a : Act} (hC : NotLost s a) {o : List Issued}
    (hstep : Scope.step s a = some (s', o)) :
    Scoped s' ∧ ∀ x ∈ o, x.inScope := by
  cases a with
  | call kind conn =>
    simp only [Scope.step] at hstep
    by_cases hmay : (kind.accepted && s.free conn) = true
    · rw [if_pos hmay] at hstep
      obtain ⟨rfl, rfl⟩ := Prod.mk.inj (Option.some.inj hstep)
      exact ⟨hS.call (Bool.and_eq_true_iff.mp hmay).2 kind, nofun⟩
    · rw [if_neg hmay] at hstep
      cases hstep
  | reply i reply =>
    simp only [Scope.step] at hstep
    cases hi : s.calls[i]? with
    | none => simp [hi] at hstep
    | some c =>
      cases hstmt : c.statement with
      | none => simp [hi, hstmt] at hstep
      | some stmt =>
        simp only [hi, hstmt] at hstep
        obtain ⟨rfl, rfl⟩ := Prod.mk.inj (Option.some.inj hstep)
        exact ⟨hS.reply hi hstmt fun hphase => hC c hi hphase, nofun⟩
  | query i reply =>
    simp only [Scope.step] at hstep
    cases hi : s.calls[i]? with
    | none => simp [hi] at hstep
    | some c =>
      simp only [hi] at hstep
      by_cases hbody : c.phase = .body
      · rw [if_pos hbody] at hstep
        obtain ⟨rfl, rfl⟩ := Prod.mk.inj (Option.some.inj hstep)
        have hfinds := hS.finds i c hi
        simp only [Call.Finds, hbody] at hfinds
        refine ⟨hS.goOn hi (by rw [hbody]; nofun) (run_query hfinds) nofun, fun x hx => ?_⟩
        obtain rfl := List.mem_singleton.mp hx
        exact inScope_of_body hfinds
      · rw [if_neg hbody] at hstep
        cases hstep
  | settle i throws =>
    simp only [Scope.step] at hstep
    cases hi : s.calls[i]? with
    | none => simp [hi] at hstep
    | some c =>
      simp only [hi] at hstep
      by_cases hbody : c.phase = .body
      · rw [if_pos hbody] at hstep
        obtain ⟨rfl, rfl⟩ := Prod.mk.inj (Option.some.inj hstep)
        have hfinds := hS.finds i c hi
        simp only [Call.Finds, hbody] at hfinds
        obtain ⟨hsettled, hspent⟩ := settled_spec hfinds throws
        exact ⟨hS.goOn hi (by rw [hbody]; nofun) hsettled hspent, nofun⟩
      · rw [if_neg hbody] at hstep
        cases hstep
  | replace conn =>
    simp only [Scope.step] at hstep
    by_cases hfree : s.free conn = true
    · rw [if_pos hfree] at hstep
      obtain ⟨rfl, rfl⟩ := Prod.mk.inj (Option.some.inj hstep)
      exact ⟨hS.replace hfree, nofun⟩
    · rw [if_neg hfree] at hstep
      cases hstep

end Steps

/-- **No scope is carried forward.**  In a run in which no `ROLLBACK` is lost in a transaction that could go on, every
statement of a callback runs in a transaction of its own call with the call's tenant, or with no tenant set. -/
theorem scope_kept (as : List Act) (s : Sys) (h : List Issued) (hC : pool.Meets (fun s _ a => NotLost s a) .init [] as)
    (hrun : pool.exec .init as = some (s, h)) : ∀ x ∈ h, x.inScope := by
  have hstep : ∀ {s : Sys} {h : List Issued} {a : Act} {s' : Sys} {o : List Issued}, (Scoped s ∧ ∀ x ∈ h, x.inScope) →
      NotLost s a → pool.step s a = some (s', o) → Scoped s' ∧ ∀ x ∈ h ++ o, x.inScope := by
    rintro s h a s' o ⟨hS, hscope⟩ hC hs
    obtain ⟨hS', ho⟩ := hS.step hC hs
    refine ⟨hS', fun x hx => ?_⟩
    rcases List.mem_append.mp hx with hx | hx
    · exact hscope x hx
    · exact ho x hx
  have hkept := exec_hist_of_meets (I := fun s h => Scoped s ∧ ∀ x ∈ h, x.inScope) hstep ⟨scoped_init, nofun⟩ hC hrun
  exact hkept.2

/-- A call for a tenant throws and is rolled back; another call has the connection next. -/
def reusedRun (rollback : Reply) : List Act :=
  [.call (.tenant "A" "" false) 0, .reply 0 .ok, .reply 0 .ok, .query 0 .ok, .settle 0 true, .reply 0 rollback,
    .call .without 0, .query 1 .ok, .settle 1 false]

theorem scope_kept_reused : ∃ s h, pool.exec .init (reusedRun .ok) = some (s, h) ∧
    h = [⟨0, .tenant "A" "" false, some ⟨0, false, "A", "", false⟩⟩, ⟨1, .without, none⟩] ∧ ∀ x ∈ h, x.inScope := by
  refine ⟨_, _, rfl, rfl, scope_kept (reusedRun .ok) _ _ (meets_of_forall fun a ha s _ => ?_) rfl⟩
  simp only [reusedRun, List.mem_cons, List.not_mem_nil, or_false] at ha
  rcases ha with rfl | rfl | rfl | rfl | rfl | rfl | rfl | rfl | rfl <;> simp [NotLost]

/-- **A lost `ROLLBACK` carries the tenant forward**: what needs none runs in the transaction of tenant A. -/
theorem tenant_carried_forward : ¬ ∀ (as : List Act) (s : Sys) (h : List Issued), pool.exec .init as = some (s, h) →
    ∀ x ∈ h, x.inScope := by
  intro hclaim
  have hscope := hclaim (reusedRun .unsent) _ _ rfl ⟨1, .without, some ⟨0, false, "A", "", false⟩⟩ (by decide)
  exact absurd (hscope _ rfl rfl) (by decide)

end DTwin.Db.Scope
