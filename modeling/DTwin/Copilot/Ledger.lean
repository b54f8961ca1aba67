import DTwin.Lib.OrderedMap
import Mathlib.Data.Rat.Defs
import Mathlib.Algebra.Order.Ring.Rat

/-!
# DTwin.Copilot.Ledger — the approval ledger

`apps/web/lib/copilot/ledger.ts`: what `confirm` grants after a person's approval and `apply` takes, once.  The
hash is a parameter of everything here, and each call reads the clock once.
-/

namespace DTwin.Copilot

open OrderedMap

/-- What the ledger can tell of a value it is given; `other` is whatever is no string and no finite number. -/
inductive Value
  | undefined
  | null
  | string (s : String)
  | number (q : ℚ)
  | other
deriving DecidableEq

/-- What would be sent of a command, which is what is hashed. -/
structure SentCommand where
  zoneId : String
  setpointTempC : ℚ
  durationS : Option ℚ
  reason : String
deriving DecidableEq

structure GrantedCommand where
  zoneId : String
  zoneName : String
  setpointTempC : ℚ
  durationS : Option ℚ
  reason : String
deriving DecidableEq

def GrantedCommand.sent (c : GrantedCommand) : SentCommand := ⟨c.zoneId, c.setpointTempC, c.durationS, c.reason⟩

structure Grant where
  planId : String
  planHash : String
  commands : List GrantedCommand
  grantedAt : ℤ
deriving DecidableEq

structure GrantableCommand where
  zoneId : Value
  zoneName : Value
  setpointTempC : Value
  durationS : Value
  reason : Value

/-- A plan as it comes to `grant`; its commands may be no array. -/
structure GrantablePlan where
  planId : Value
  planHash : Value
  commands : Option (List GrantableCommand)

/-- sha256 over the canonical JSON of what would be sent. -/
abbrev Hash := List SentCommand → String

def hashCommands (hash : Hash) (commands : List GrantedCommand) : String := hash (commands.map GrantedCommand.sent)

/-- `HASH_RE`. -/
def isHash (s : String) : Bool :=
  s.length = 64 && s.toList.all fun c => c.isDigit || ('a' ≤ c && c ≤ 'f')

/-- `durationS ?? null`, if it is null or a positive integer. -/
def projectDuration : Value → Option (Option ℚ)
  | .undefined => some none
  | .null => some none
  | .number q => if q.isInt ∧ 0 < q then some (some q) else none
  | _ => none

def projectCommand (c : GrantableCommand) : Option GrantedCommand :=
  match c.zoneId, c.zoneName, c.reason, c.setpointTempC with
  | .string zoneId, .string zoneName, .string reason, .number setpointTempC =>
    (projectDuration c.durationS).map fun durationS => ⟨zoneId, zoneName, setpointTempC, durationS, reason⟩
  | _, _, _, _ => none

/-- Copy out only what is issued, checking each field's type on the way. -/
def project (plan : GrantablePlan) (maxCommands : ℕ) : Option (List GrantedCommand) :=
  match plan.commands with
  | none => none
  | some commands =>
    if commands.isEmpty ∨ maxCommands < commands.length then none else commands.mapM projectCommand

structure LedgerOptions where
  grantTtlS : ℕ
  planTtlS : ℕ
  maxPlanCommands : ℕ

structure Ledger where
  grants : OrderedMap String Grant
  /-- When each plan was granted; a plan in here is never granted again. -/
  granted : OrderedMap String ℤ

def Ledger.init : Ledger := ⟨.empty, .empty⟩

/-- `#sweep`. -/
def Ledger.sweep (l : Ledger) (opt : LedgerOptions) (now : ℤ) : Ledger where
  grants := l.grants.filterMapValues fun g => if (opt.grantTtlS : ℤ) * 1000 ≤ now - g.grantedAt then none else some g
  granted := l.granted.filterMapValues fun grantedAt =>
    if (opt.planTtlS : ℤ) * 1000 ≤ now - grantedAt then none else some grantedAt

def Ledger.revoke (l : Ledger) (threadId : String) : Ledger := { l with grants := l.grants.erase threadId }

/-- The plan as it would be granted, if it is well formed and its commands hash to its hash. -/
def GrantablePlan.read (plan : GrantablePlan) (hash : Hash) (opt : LedgerOptions) (now : ℤ) : Option Grant :=
  match plan.planId, plan.planHash, project plan opt.maxPlanCommands with
  | .string planId, .string planHash, some commands =>
    if planId = "" ∨ isHash planHash = false ∨ hashCommands hash commands ≠ planHash then none
    else some ⟨planId, planHash, commands, now⟩
  | _, _, _ => none

/-- Record an approval; `plan` is none if reading it throws. -/
def Ledger.grant (l : Ledger) (hash : Hash) (opt : LedgerOptions) (now : ℤ) (threadId : String)
    (plan : Option GrantablePlan) : Ledger × Bool :=
  let l := l.sweep opt now
  match plan.bind fun plan => plan.read hash opt now with
  | none => (l.revoke threadId, false)
  | some g =>
    if (l.granted.get? g.planId).isSome then (l, false)
    else (⟨l.grants.set threadId g, l.granted.set g.planId g.grantedAt⟩, true)

/-- Consume the grant. -/
def Ledger.take (l : Ledger) (opt : LedgerOptions) (now : ℤ) (threadId : String) : Ledger × Option Grant :=
  match l.grants.get? threadId with
  | none => (l, none)
  | some g =>
    (l.revoke threadId,
      if 0 ≤ now - g.grantedAt ∧ now - g.grantedAt < (opt.grantTtlS : ℤ) * 1000 then some g else none)

/-! ## What a grant holds -/

variable {l : Ledger} {hash : Hash} {opt : LedgerOptions} {now : ℤ} {threadId : String}

/-- What is granted is the plan's, hashes to its hash and is not empty. -/
theorem read_spec {plan : GrantablePlan} {g : Grant} (hg : plan.read hash opt now = some g) :
    plan.planId = .string g.planId ∧ plan.planHash = .string g.planHash ∧
      project plan opt.maxPlanCommands = some g.commands ∧ hashCommands hash g.commands = g.planHash ∧
      g.grantedAt = now := by
  unfold GrantablePlan.read at hg
  split at hg
  · rename_i planId planHash commands hid hhash hcommands
    by_cases hbad : planId = "" ∨ isHash planHash = false ∨ hashCommands hash commands ≠ planHash
    · rw [if_pos hbad] at hg
      cases hg
    · rw [if_neg hbad] at hg
      cases hg
      push Not at hbad
      exact ⟨hid, hhash, hcommands, hbad.2.2, rfl⟩
  · cases hg

theorem get?_sweep_grants {g : Grant} {thread : String}
    (hg : (l.sweep opt now).grants.get? thread = some g) : l.grants.get? thread = some g := by
  rw [Ledger.sweep, get?_filterMapValues] at hg
  obtain ⟨g₀, hg₀, hg⟩ := Option.bind_eq_some_iff.mp hg
  split_ifs at hg
  rw [hg₀, Option.some.inj hg]

theorem get?_revoke {g : Grant} {thread : String} (hg : (l.revoke threadId).grants.get? thread = some g) :
    thread ≠ threadId ∧ l.grants.get? thread = some g := by
  rw [Ledger.revoke, get?_erase] at hg
  split_ifs at hg with hthread
  exact ⟨Ne.symm hthread, hg⟩

/-- **`grant`.**  A grant it leaves was there, or is the thread's for the plan it was given. -/
theorem grant_grants {plan : Option GrantablePlan} {g : Grant} {thread : String}
    (hg : (l.grant hash opt now threadId plan).1.grants.get? thread = some g) :
    l.grants.get? thread = some g ∨ thread = threadId ∧ (l.grant hash opt now threadId plan).2 = true ∧
      ∃ p, plan = some p ∧ p.read hash opt now = some g := by
  unfold Ledger.grant at hg ⊢
  cases hread : plan.bind fun plan => plan.read hash opt now with
  | none =>
    simp only [hread] at hg
    exact Or.inl (get?_sweep_grants (get?_revoke hg).2)
  | some g' =>
    simp only [hread] at hg
    split_ifs at hg with hknown
    · exact Or.inl (get?_sweep_grants hg)
    · rw [get?_set] at hg
      split_ifs at hg with hthread
      · obtain ⟨p, hp, hpg⟩ := Option.bind_eq_some_iff.mp hread
        rw [← Option.some.inj hg]
        exact Or.inr ⟨hthread.symm, by simp [hknown], p, hp, hpg⟩
      · exact Or.inl (get?_sweep_grants hg)

/-- **`take`.**  What it returns was the thread's and is gone. -/
theorem take_spec {l' : Ledger} {g : Grant} (htake : l.take opt now threadId = (l', some g)) :
    l.grants.get? threadId = some g ∧ l' = l.revoke threadId := by
  unfold Ledger.take at htake
  cases hheld : l.grants.get? threadId with
  | none =>
    simp only [hheld] at htake
    cases htake
  | some g' =>
    simp only [hheld] at htake
    by_cases hage : 0 ≤ now - g'.grantedAt ∧ now - g'.grantedAt < (opt.grantTtlS : ℤ) * 1000
    · rw [if_pos hage] at htake
      cases htake
      exact ⟨rfl, rfl⟩
    · rw [if_neg hage] at htake
      cases htake

theorem take_grants {l' : Ledger} {taken : Option Grant} (htake : l.take opt now threadId = (l', taken)) {g : Grant}
    {thread : String} (hg : l'.grants.get? thread = some g) : thread ≠ threadId ∧ l.grants.get? thread = some g := by
  unfold Ledger.take at htake
  cases hheld : l.grants.get? threadId with
  | none =>
    simp only [hheld] at htake
    cases htake
    refine ⟨?_, hg⟩
    rintro rfl
    rw [hheld] at hg
    cases hg
  | some g' =>
    simp only [hheld] at htake
    cases htake
    exact get?_revoke hg

end DTwin.Copilot
