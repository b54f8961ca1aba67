import DTwin.Types.Limiter
import Mathlib.Tactic.NormNum

/-!
# DTwin.Ingest.Auth — does the failure limiter refuse who has spent the budget?

`apps/ingest/src/auth.ts`: `authenticate` asks `exhausted` before the lookup of a key and charges a failure with
`take`.  `exhausted` says yes to every key that is not tracked; `take` charges such a key to the shared bucket
once the map is full.  The two agree exactly when the key is tracked, or there is room to track it, or the
shared bucket still has the cost (`peek_agrees_iff`); a caller that rotates its address is not refused
(`rotated_unrefused`).
-/

namespace DTwin.Limiter

open OrderedMap TokenBucket Machine

variable {κ : Type} [DecidableEq κ]

/-! ## The peek and the charge -/

/-- What `key` could spend. -/
def Sys.budget (s : Sys κ) (opt : Options) (now : ℚ) (key : κ) : ℚ := (s.bucket opt now key).2.2.tokens

/-- The key is tracked, or could be, or the bucket that newcomers share has the cost. -/
def Sys.Foreseen (s : Sys κ) (opt : Options) (now : ℚ) (key : κ) (cost : ℚ≥0) : Prop :=
  (s.buckets.get? key).isSome ∨ (s.makeRoom opt now).buckets.size < opt.maxKeys ∨
    (cost : ℚ) ≤ (opt.refill now (s.sharedBucket opt now)).tokens

variable {s : Sys κ} {opt : Options} {now : ℚ} {key : κ} {cost : ℚ≥0}

theorem take_ok_iff : (s.take opt now key cost).2.2 = .ok ↔ (cost : ℚ) ≤ s.budget opt now key := by
  rw [take_def, Sys.budget]
  by_cases hcost : (cost : ℚ) ≤ (s.bucket opt now key).2.2.tokens
  · simp [hcost]
  · simp [hcost]

theorem exhausted_untracked (hnone : s.buckets.get? key = none) :
    (s.exhausted opt now key cost).2 = .ok := by
  simp [exhausted_def, hnone]

theorem exhausted_tracked {held : Bucket ℚ} (hheld : s.buckets.get? key = some held) :
    (s.exhausted opt now key cost).2 = .ok ↔ (cost : ℚ) ≤ (opt.refill now held).tokens := by
  rw [exhausted_def]
  by_cases hcost : (cost : ℚ) ≤ (opt.refill now held).tokens
  · simp [hheld, hcost]
  · simp [hheld, hcost]

omit [DecidableEq κ] in
theorem makeRoom_shared (s : Sys κ) (opt : Options) (now : ℚ) :
    (s.makeRoom opt now).sharedBucket opt now = s.sharedBucket opt now := by
  rw [Sys.sharedBucket, makeRoom_overflow, Sys.sharedBucket]

/-- What is not refused in advance is within the budget exactly when that was to be foreseen. -/
theorem exhausted_ok_iff (s : Sys κ) (opt : Options) (now : ℚ) (key : κ) (cost : ℚ≥0)
    (hcost : (cost : ℚ) ≤ opt.burst) :
    ((s.exhausted opt now key cost).2 = .ok ↔ (cost : ℚ) ≤ s.budget opt now key) ↔
      s.Foreseen opt now key cost := by
  unfold Sys.budget Sys.Foreseen
  obtain ⟨held, hheld, hbucket⟩ | ⟨hnone, hspace, hbucket⟩ | ⟨hnone, hfull, hbucket⟩ :=
    bucket_cases s opt now key
  · rw [hbucket, exhausted_tracked hheld, hheld]
    simp
  · simp [hbucket, exhausted_untracked hnone, hspace, hcost]
  · simp [hbucket, exhausted_untracked hnone, hnone, hfull, makeRoom_shared]

end DTwin.Limiter

namespace DTwin.Auth

open Limiter Machine

variable {κ : Type} [DecidableEq κ]

inductive ApiScope
  | ingestWrite | simNotify | simRun | controlWrite | controlDispatch
deriving DecidableEq

def ApiScope.text : ApiScope → String
  | .ingestWrite => "ingest:write"
  | .simNotify => "sim:notify"
  | .simRun => "sim:run"
  | .controlWrite => "control:write"
  | .controlDispatch => "control:dispatch"

inductive Principal
  | user
  | apiKey (scopes : List String)

def hasScope (principal : Principal) (scope : ApiScope) : Bool :=
  match principal with
  | .user => false
  | .apiKey scopes => scopes.contains scope.text

structure AuthFailure where
  status : ℕ
  error : String
  retryAfterS : Option ℤ

/-- `authenticate` until it looks the key up; `key` is what `extractKey` found in the headers. -/
def authenticate (s : Sys κ) (opt : Options) (now : ℚ) (budget : Option κ) (key : Option String) :
    Sys κ × Except AuthFailure String :=
  let checked : Sys κ × LimitResult :=
    match budget with
    | none => (s, .ok)
    | some address => s.exhausted opt now address 1
  match checked with
  | (s, .refused retryAfterS) =>
    (s, .error ⟨429, "too many failed authentication attempts from this address", retryAfterS⟩)
  | (s, .ok) =>
    match key with
    | none => (s, .error ⟨401, "missing API key", none⟩)
    | some key => (s, .ok key)

/-- A failure is charged, if failures are rationed. -/
def charge (s : Sys κ) (opt : Options) (now : ℚ) : Option κ → Sys κ
  | none => s
  | some address => (s.take opt now address 1).1

/-- `authenticate` once `resolveApiKey` has answered. -/
def settle (s : Sys κ) (opt : Options) (now : ℚ) (budget : Option κ) (scope : ApiScope)
    (principal : Option Principal) : Sys κ × Except AuthFailure Principal :=
  match principal with
  | none => (charge s opt now budget, .error ⟨401, "invalid API key", none⟩)
  | some principal =>
    if hasScope principal scope then (s, .ok principal)
    else (charge s opt now budget, .error ⟨403, "key is not scoped for " ++ scope.text, none⟩)

/-- The caller is turned away before the lookup, for its failures. -/
def Refused (s : Sys κ) (opt : Options) (now : ℚ) (address : κ) (key : Option String) : Prop :=
  ∃ failure, (authenticate s opt now (some address) key).2 = .error failure ∧ failure.status = 429

variable {s : Sys κ} {opt : Options} {now : ℚ} {address : κ}

theorem refused_iff (key : Option String) :
    Refused s opt now address key ↔ (s.exhausted opt now address 1).2 ≠ .ok := by
  unfold Refused authenticate
  obtain ⟨⟨s', result⟩, hpeek⟩ : ∃ r, s.exhausted opt now address 1 = r := ⟨_, rfl⟩
  simp only [hpeek]
  cases result with
  | refused w => simp
  | ok => cases key <;> simp

/-- **The peek and the charge.**  They agree, and the caller is refused exactly when its budget is spent, exactly
when that was to be foreseen. -/
theorem peek_agrees_iff (s : Sys κ) (opt : Options) (now : ℚ) (address : κ) (cost : ℚ≥0) (key : Option String)
    (hcost : (cost : ℚ) ≤ opt.burst) :
    (((s.exhausted opt now address cost).2 = .ok ↔ (s.take opt now address cost).2.2 = .ok) ↔
      s.Foreseen opt now address cost) ∧
    (1 ≤ opt.burst →
      ((Refused s opt now address key ↔ s.budget opt now address < 1) ↔ s.Foreseen opt now address 1)) := by
  refine ⟨?_, fun hburst => ?_⟩
  · rw [take_ok_iff]
    exact exhausted_ok_iff s opt now address cost hcost
  · have hone := exhausted_ok_iff s opt now address 1 (by exact_mod_cast hburst)
    rw [refused_iff, ← not_le, not_iff_not]
    exact_mod_cast hone

/-- The second address has taken one token of those that newcomers share. -/
def roomyRun : List (Act String) := [.take "10.0.0.1" 1 0, .take "10.0.0.2" 1 999]

theorem roomyRun_isSome : ((limiting String oneKey).exec .init roomyRun).isSome = true := by decide +kernel

/-- With the map full, a third address is judged by what newcomers share, which is enough. -/
theorem peek_agrees_roomy : ∃ s h, (limiting String oneKey).Reaches .init s h ∧
    s.buckets.get? "10.0.0.3" = none ∧ ¬ (s.makeRoom oneKey 999).buckets.size < oneKey.maxKeys ∧
    ((s.exhausted oneKey 999 "10.0.0.3" 1).2 = .ok ↔ (s.take oneKey 999 "10.0.0.3" 1).2.2 = .ok) ∧
    (Refused s oneKey 999 "10.0.0.3" (some "guess") ↔ s.budget oneKey 999 "10.0.0.3" < 1) := by
  let r := ((limiting String oneKey).exec .init roomyRun).get roomyRun_isSome
  have hnew : r.1.buckets.get? "10.0.0.3" = none := by decide +kernel
  have hfull : ¬ (r.1.makeRoom oneKey 999).buckets.size < oneKey.maxKeys := by decide +kernel
  have hforeseen : r.1.Foreseen oneKey 999 "10.0.0.3" 1 := by
    refine Or.inr (Or.inr ?_)
    show (1 : ℚ) ≤ (oneKey.refill 999 (r.1.sharedBucket oneKey 999)).tokens
    decide +kernel
  obtain ⟨hpeek, hrefused⟩ := peek_agrees_iff r.1 oneKey 999 "10.0.0.3" 1 (some "guess") (by decide +kernel)
  exact ⟨r.1, r.2, ⟨roomyRun, (Option.some_get roomyRun_isSome).symm⟩, hnew, hfull, hpeek.mpr hforeseen,
    (hrefused (by decide +kernel)).mpr hforeseen⟩

theorem sharedRun_isSome : ((limiting String oneKey).exec .init sharedRun).isSome = true := by decide +kernel

/-- With the map full and the shared bucket spent, an address not seen before is let through to the lookup. -/
theorem rotated_unrefused : ∃ s h, (limiting String oneKey).Reaches .init s h ∧
    (s.exhausted oneKey 999 "10.0.0.3" 1).2 = .ok ∧ (s.take oneKey 999 "10.0.0.3" 1).2.2 ≠ .ok ∧
    s.budget oneKey 999 "10.0.0.3" < 1 ∧ ¬ Refused s oneKey 999 "10.0.0.3" (some "guess") := by
  let r := ((limiting String oneKey).exec .init sharedRun).get sharedRun_isSome
  have hpeek : (r.1.exhausted oneKey 999 "10.0.0.3" 1).2 = .ok := by decide +kernel
  have hcharge : (r.1.take oneKey 999 "10.0.0.3" 1).2.2 ≠ .ok := by decide +kernel
  have hbudget : r.1.budget oneKey 999 "10.0.0.3" < 1 := by decide +kernel
  exact ⟨r.1, r.2, ⟨sharedRun, (Option.some_get sharedRun_isSome).symm⟩, hpeek, hcharge, hbudget,
    fun hrefused => (refused_iff _).mp hrefused hpeek⟩

end DTwin.Auth
