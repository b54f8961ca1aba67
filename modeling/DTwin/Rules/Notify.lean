import DTwin.Rules.Engine
import Mathlib.Data.List.Sort

/-!
# DTwin.Rules.Notify — delivering an alert's notifications

`apps/ingest/src/rules/notify.ts` over the table of migrations 006 and 015.  A row of
`alert_notifications` is a `Notification`, its columns with their `CHECK`, and a statement that would
break the `CHECK` fails.  `notifying` is the machine: any number of calls (`deliverForAlert` after an
alert is opened, `retryPending` on its timer, in any number of processes) interleave statement by
statement and send by send, each may throw at any await and its process die at any point, and alerts
are opened, resolved and deleted meanwhile.

What the other side of a send answers, and what `checkDestination` says of a URL, is in the labels.
-/

namespace DTwin.Notify

open Table Rules

/-! ## The table -/

inductive Channel | webhook | email | log
deriving DecidableEq

inductive Status | pending | delivered | failed
deriving DecidableEq

/-- The columns of `alert_notifications`. -/
structure Columns where
  id : Uuid
  tenantId : Uuid
  alertId : Uuid
  channel : Channel
  target : String
  status : Status
  attempts : ℕ
  lastError : Option String
  deliveredAt : Option ℤ
  createdAt : ℤ
  claimedAt : Option ℤ
deriving DecidableEq

/-- `CHECK ((status = 'delivered') = (delivered_at IS NOT NULL))` -/
def Columns.Check (c : Columns) : Prop := c.status = .delivered ↔ c.deliveredAt.isSome = true

instance : DecidablePred Columns.Check := fun _ => inferInstanceAs (Decidable (_ ↔ _))

abbrev Notification := {c : Columns // c.Check}

/-- What the service is configured with; whether `ALERT_SMTP_URL` and `ALERT_EMAIL_FROM` are set. -/
structure Config where
  enabled : Bool
  maxAttempts : ℕ
  leaseMs : ℤ
  batch : ℕ
  smtpUrl : Bool
  emailFrom : Bool
  maxAttempts_pos : 0 < maxAttempts
  leaseMs_pos : 0 < leaseMs
  batch_pos : 0 < batch

structure NotifyTarget where
  channel : Channel
  target : String

/-- A row this worker has claimed and is responsible for delivering. -/
structure ClaimedRow where
  id : Uuid
  alertId : Uuid
  channel : Channel
  target : String
deriving DecidableEq

/-! ## Statements -/

/-- A row as `openAlert` inserts it. -/
def pendingRow (id tenantId alertId : Uuid) (target : NotifyTarget) (now : ℤ) : Notification :=
  ⟨{ id := id, tenantId := tenantId, alertId := alertId, channel := target.channel
     target := target.target, status := .pending, attempts := 0, lastError := none
     deliveredAt := none, createdAt := now, claimedAt := none }, by simp [Columns.Check]⟩

/-- `INSERT … ON CONFLICT (alert_id, channel, target) DO NOTHING`, with the ids the database would
generate. -/
def recordTargets (tenantId alertId : Uuid) (now : ℤ) :
    List (Uuid × NotifyTarget) → List Notification → List Notification
  | [], t => t
  | (id, target) :: rest, t =>
    if t.any fun r => r.1.alertId == alertId && r.1.channel == target.channel &&
        r.1.target == target.target then
      recordTargets tenantId alertId now rest t
    else recordTargets tenantId alertId now rest (t ++ [pendingRow id tenantId alertId target now])

/-- Deliverable, and in no worker's hands; rows another transaction holds locked are skipped. -/
def claimable (cfg : Config) (alerts : List AlertRow) (tenantId : Uuid) (alertId : Option Uuid)
    (now : ℤ) (locked : List Uuid) (r : Notification) : Bool :=
  r.1.tenantId == tenantId && r.1.status != .delivered && decide (r.1.attempts < cfg.maxAttempts) &&
    (alerts.any fun a => a.id == r.1.alertId && a.tenantId == tenantId && a.unresolved) &&
    (alertId.all (· == r.1.alertId)) && (r.1.claimedAt.all fun t => decide (t < now - cfg.leaseMs)) &&
    !locked.contains r.1.id

/-- `SELECT … ORDER BY created_at LIMIT … FOR UPDATE OF c SKIP LOCKED`. -/
def claimIds (cfg : Config) (alerts : List AlertRow) (tenantId : Uuid) (alertId : Option Uuid)
    (now : ℤ) (locked : List Uuid) (t : List Notification) : List Uuid :=
  (((t.filter (claimable cfg alerts tenantId alertId now locked)).insertionSort
    fun a b => a.1.createdAt ≤ b.1.createdAt).take cfg.batch).map (·.1.id)

def isOneOf (tenantId : Uuid) (ids : List Uuid) (r : Notification) : Bool :=
  r.1.tenantId == tenantId && ids.contains r.1.id

def claimedAtRow (now : ℤ) (r : Notification) : Notification :=
  ⟨{ r.1 with claimedAt := some now }, r.2⟩

/-- Take ownership of deliverable rows: the new table and the claimed rows. -/
def claim (cfg : Config) (alerts : List AlertRow) (tenantId : Uuid) (alertId : Option Uuid) (now : ℤ)
    (locked : List Uuid) (t : List Notification) : List Notification × List ClaimedRow :=
  let ids := claimIds cfg alerts tenantId alertId now locked t
  let t' := updateWhere (isOneOf tenantId ids) (claimedAtRow now) t
  (t', (t'.filter (isOneOf tenantId ids)).map fun r => ⟨r.1.id, r.1.alertId, r.1.channel, r.1.target⟩)

/-- The row with this id. -/
def isRow (tenantId id : Uuid) (c : Columns) : Bool := c.tenantId == tenantId && c.id == id

def deliveredColumns (now : ℤ) (c : Columns) : Columns :=
  { c with status := .delivered, deliveredAt := some now, attempts := c.attempts + 1, lastError := none }

def markDelivered (tenantId id : Uuid) (now : ℤ) (t : List Notification) :
    Option (List Notification) :=
  updateChecked Columns.Check (isRow tenantId id) (deliveredColumns now) t

/-- The first `n` UTF-16 code units; half a surrogate pair is stored as U+FFFD. -/
def sliceUnits : ℕ → List Char → List Char
  | _, [] => []
  | 0, _ => []
  | 1, c :: _ => [if c.toNat < 0x10000 then c else Char.ofNat 0xFFFD]
  | n + 2, c :: cs => c :: if c.toNat < 0x10000 then sliceUnits (n + 1) cs else sliceUnits n cs

def failedColumns (error : String) (c : Columns) : Columns :=
  { c with
    status := .failed, attempts := c.attempts + 1
    lastError := some (String.ofList (sliceUnits 1000 error.toList)) }

/-- `delivered_at` is left as it is. -/
def markFailed (tenantId id : Uuid) (error : String) (t : List Notification) :
    Option (List Notification) :=
  updateChecked Columns.Check (isRow tenantId id) (failedColumns error) t

/-! ## Calls -/

inductive Mark
  | delivered
  | failed (error : String)

def Mark.run (tenantId id : Uuid) (now : ℤ) (t : List Notification) :
    Mark → Option (List Notification)
  | delivered => markDelivered tenantId id now t
  | failed error => markFailed tenantId id error t

/-- The loop of `#deliverClaimed`: whose rows, the alert at hand, the rows still to deliver, and the
tenants `retryPending` has yet to sweep. -/
structure Batch where
  tenantId : Uuid
  known : Option Uuid
  todo : List ClaimedRow
  tenants : List Uuid

/-- Where a call stands between its awaits.  `caught` says that it is inside the `try` of
`#deliverEmail` or `#deliverWebhook`. -/
inductive Call
  | idle
  | claiming (tenantId : Uuid) (alertId : Option Uuid) (tenants : List Uuid)
  | looping (b : Batch)
  | loading (row : ClaimedRow) (b : Batch)
  | checking (row : ClaimedRow) (b : Batch)
  | sending (row : ClaimedRow) (b : Batch)
  | marking (row : ClaimedRow) (mark : Mark) (caught : Bool) (b : Batch)

/-- What a send comes to: the mail is accepted, the webhook answers, or the call throws. -/
inductive Reply
  | accepted
  | status (code : ℕ)
  | threw (message : String)

/-- What a step shows. -/
inductive Obs
  /-- a `#claim` has answered with these rows -/
  | claimed (i : ℕ) (ids : List Uuid) (now : ℤ)
  /-- a message for this row has been sent off -/
  | sent (i : ℕ) (id : Uuid)
  /-- this row has been set to delivered -/
  | delivered (i : ℕ) (id : Uuid)
deriving DecidableEq

/-- `#deliverOne`, up to its first await. -/
def Config.deliverOne (cfg : Config) (i : ℕ) (row : ClaimedRow) (b : Batch) : Call × List Obs :=
  match row.channel with
  | .log => (.marking row .delivered false b, [.sent i row.id])
  | .email =>
    if !cfg.smtpUrl then (.marking row (.failed "no email transport configured") false b, [])
    else if !cfg.emailFrom then (.marking row (.failed "ALERT_EMAIL_FROM is not set") false b, [])
    else (.sending row b, [.sent i row.id])
  | .webhook => (.checking row b, [])

/-- A send has ended; only a webhook answers with a status. -/
def answered (row : ClaimedRow) (reply : Reply) (b : Batch) : Option Call :=
  match row.channel, reply with
  | .email, .accepted => some (.marking row .delivered true b)
  | .webhook, .status code =>
    if code < 200 ∨ 300 ≤ code then some (.marking row (.failed s!"HTTP {code}") true b)
    else some (.marking row .delivered true b)
  | .email, .threw message => some (.marking row (.failed message) false b)
  | .webhook, .threw message => some (.marking row (.failed message) false b)
  | _, _ => none

/-- An awaited statement has thrown: a `catch` records it, or the call ends. -/
def thrown (row : ClaimedRow) (caught : Bool) (message : String) (b : Batch) : Call :=
  if caught then .marking row (.failed message) false b else .idle

/-! ## The machine -/

/-- `issued` are the ids the database has generated. -/
structure Sys where
  clock : ℤ
  alerts : List AlertRow
  notifications : List Notification
  issued : List Uuid
  calls : ℕ → Call

/-- A step.  `now` is the `now()` of its transaction; `lost` is the error its caller is told although the
transaction has committed. -/
inductive Act
  | tick (clock : ℤ)
  | openAlert (id tenantId : Uuid) (key : Key) (targets : List (Uuid × NotifyTarget)) (now : ℤ)
  | acknowledge (id : Uuid)
  | resolve (id : Uuid)
  | deleteAlert (id : Uuid)
  | deliverForAlert (i : ℕ) (tenantId alertId : Uuid)
  | retryPending (i : ℕ) (tenants : List Uuid)
  | claim (i : ℕ) (locked : List Uuid) (now : ℤ) (lost : Bool)
  | next (i : ℕ)
  | load (i : ℕ)
  | check (i : ℕ) (blocked : Option String)
  | answer (i : ℕ) (reply : Reply)
  | mark (i : ℕ) (now : ℤ) (lost : Option String)
  | fail (i : ℕ) (message : String)
  | crash (i : ℕ)

def Sys.setCall (s : Sys) (i : ℕ) (c : Call) : Sys :=
  { s with calls := Function.update s.calls i c }

/-- What PostgreSQL answers when the `CHECK` refuses a statement. -/
def checkViolation : String :=
  "new row for relation \"alert_notifications\" violates check constraint \"alert_notifications_check\""

/-- The rows `openAlert` commits with a new alert. -/
def Sys.openAlert (s : Sys) (id tenantId : Uuid) (key : Key) (targets : List (Uuid × NotifyTarget))
    (now : ℤ) : Option Sys :=
  let ids := id :: targets.map (·.1)
  if ids.Nodup ∧ ∀ x ∈ ids, x ∉ s.issued then
    (Rules.openAlert id tenantId key s.alerts).map fun alerts =>
      { s with
        alerts := alerts
        notifications := recordTargets tenantId id now targets s.notifications
        issued := s.issued ++ ids }
  else none

/-- A statement of `#markDelivered` or `#markFailed`, and its caller after it. -/
def Sys.mark (s : Sys) (i : ℕ) (row : ClaimedRow) (mark : Mark) (caught : Bool) (b : Batch) (now : ℤ)
    (lost : Option String) : Sys × List Obs :=
  match mark.run b.tenantId row.id now s.notifications with
  | none => (s.setCall i (thrown row caught checkViolation b), [])
  | some t =>
    let call := match lost with
      | none => .looping b
      | some message => thrown row caught message b
    let shown := match mark with
      | .delivered => if s.notifications.any fun r => isRow b.tenantId row.id r.1 then
          [.delivered i row.id] else []
      | .failed _ => []
    ({ s.setCall i call with notifications := t }, shown)

def step (cfg : Config) (s : Sys) : Act → Option (Sys × List Obs)
  | .tick clock => if s.clock ≤ clock then some ({ s with clock := clock }, []) else none
  | .openAlert id tenantId key targets now =>
    if now ≤ s.clock then (s.openAlert id tenantId key targets now).map fun s' => (s', []) else none
  | .acknowledge id => some ({ s with alerts := acknowledgeAlert id s.alerts }, [])
  | .resolve id => some ({ s with alerts := resolveAlert id s.alerts }, [])
  | .deleteAlert id =>
    some ({ s with
      alerts := s.alerts.filter (·.id != id)
      notifications := s.notifications.filter (·.1.alertId != id) }, [])
  | .deliverForAlert i tenantId alertId =>
    match s.calls i with
    | .idle =>
      if cfg.enabled then some (s.setCall i (.claiming tenantId (some alertId) []), []) else some (s, [])
    | _ => none
  | .retryPending i tenants =>
    match s.calls i with
    | .idle =>
      match cfg.enabled, tenants with
      | true, tenantId :: tenants => some (s.setCall i (.claiming tenantId none tenants), [])
      | _, _ => some (s, [])
    | _ => none
  | .claim i locked now lost =>
    match s.calls i with
    | .claiming tenantId alertId tenants =>
      if now ≤ s.clock then
        let claimed := claim cfg s.alerts tenantId alertId now locked s.notifications
        if lost then some ({ s.setCall i .idle with notifications := claimed.1 }, [])
        else
          some ({ s.setCall i (.looping ⟨tenantId, alertId, claimed.2, tenants⟩) with
            notifications := claimed.1 }, [.claimed i (claimed.2.map (·.id)) now])
      else none
    | _ => none
  | .next i =>
    match s.calls i with
    | .looping ⟨_, _, [], []⟩ => some (s.setCall i .idle, [])
    | .looping ⟨_, _, [], tenantId :: tenants⟩ => some (s.setCall i (.claiming tenantId none tenants), [])
    | .looping ⟨tenantId, known, row :: todo, tenants⟩ =>
      let b : Batch := ⟨tenantId, known, todo, tenants⟩
      if known = some row.alertId then
        let r := cfg.deliverOne i row b
        some (s.setCall i r.1, r.2)
      else some (s.setCall i (.loading row b), [])
    | _ => none
  | .load i =>
    match s.calls i with
    | .loading row b =>
      if s.alerts.any fun a => a.id == row.alertId && a.tenantId == b.tenantId then
        let r := cfg.deliverOne i row b
        some (s.setCall i r.1, r.2)
      else some (s.setCall i (.looping b), [])
    | _ => none
  | .check i blocked =>
    match s.calls i with
    | .checking row b =>
      match blocked with
      | some reason => some (s.setCall i (.marking row (.failed s!"blocked: {reason}") false b), [])
      | none => some (s.setCall i (.sending row b), [.sent i row.id])
    | _ => none
  | .answer i reply =>
    match s.calls i with
    | .sending row b => (answered row reply b).map fun c => (s.setCall i c, [])
    | _ => none
  | .mark i now lost =>
    match s.calls i with
    | .marking row mark caught b =>
      if now ≤ s.clock then some (s.mark i row mark caught b now lost) else none
    | _ => none
  | .fail i message =>
    match s.calls i with
    | .claiming .. => some (s.setCall i .idle, [])
    | .loading .. => some (s.setCall i .idle, [])
    | .checking .. => some (s.setCall i .idle, [])
    | .marking row _ caught b => some (s.setCall i (thrown row caught message b), [])
    | _ => none
  | .crash i => some (s.setCall i .idle, [])

def notifying (cfg : Config) : Machine Sys Act Obs := ⟨step cfg⟩

/-- Any tables, no call in progress; `issued` are the ids in use. -/
def Sys.init (clock : ℤ) (alerts : List AlertRow) (notifications : List Notification) : Sys :=
  ⟨clock, alerts, notifications, alerts.map (·.id) ++ notifications.map (·.1.id), fun _ => .idle⟩

end DTwin.Notify
