import DTwin.Ingest.Lookups
import DTwin.Types.Address

/-!
# DTwin.Web.Login — are failed credentials rationed side by side?

`POST` of `apps/web/app/api/auth/login/route.ts` over `apps/web/lib/login-limits.ts`: the checks of the failure
limiters and of the slots, `login()` suspended in a slot, and what a failure is charged.  An attempt that throws frees
its slot and is charged to nobody.

`failures_rationed` is about both this and the lookups of ingest.  Neither holds anything back for an attempt that has
passed the check and has not failed yet; `failures_side_by_side` has more failures than the limiter's burst.
-/

namespace DTwin.Login

open Limiter Machine Text

structure Limits where
  perEmail : Options
  perAddress : Options
  /-- `MAX_IN_FLIGHT`. -/
  maxInFlight : ℚ

/-- An attempt in a verification slot. -/
structure Attempt where
  emailKey : List Char
  address : Option String
  start : ℚ

structure Sys where
  perEmail : Limiter.Sys (List Char)
  perAddress : Limiter.Sys String
  inFlight : List Attempt
  clock : ℚ

inductive Act
  /-- A request whose body is a `LoginRequest`; `address` is what `addressOf` makes of it. -/
  | post (now : ℚ) (email : List Char) (address : Option String)
  /-- `login()` returns a session, or null. -/
  | verified (now : ℚ) (i : ℕ) (session : Bool)
  | threw (now : ℚ) (i : ℕ)

inductive Obs
  | answered (status : ℕ) (retryAfterS : Option ℤ)
  /-- The verification ended in failure. -/
  | failed (attempt : Attempt)

def Sys.init (clock : ℚ) : Sys := ⟨.init, .init, [], clock⟩

def Act.now : Act → ℚ
  | .post now .. => now
  | .verified now .. => now
  | .threw now _ => now

/-- `email.trim().toLowerCase()`; the schema lets only ASCII pass. -/
def emailKey (email : List Char) : List Char := (trim email).map Char.toLower

def tooMany (retryAfterS : Option ℤ) (status : ℕ) : Obs :=
  match retryAfterS with
  | some seconds => .answered status (some (max 1 seconds))
  | none => .answered status (some 60)

/-- `exhausted`, of an address that is known. -/
def peekAddress (s : Limiter.Sys String) (opt : Options) (now : ℚ) : Option String → Limiter.Sys String × LimitResult
  | none => (s, .ok)
  | some address => s.exhausted opt now address 1

def chargeAddress (s : Limiter.Sys String) (opt : Options) (now : ℚ) : Option String → Limiter.Sys String
  | none => s
  | some address => (s.take opt now address 1).1

def Sys.perform (s : Sys) (limits : Limits) : Act → Option (Sys × List Obs)
  | .post now email address =>
    match s.perEmail.exhausted limits.perEmail now (emailKey email) 1 with
    | (perEmail, .refused retryAfterS) => some (⟨perEmail, s.perAddress, s.inFlight, now⟩, [tooMany retryAfterS 429])
    | (perEmail, .ok) =>
      match peekAddress s.perAddress limits.perAddress now address with
      | (perAddress, .refused retryAfterS) => some (⟨perEmail, perAddress, s.inFlight, now⟩, [tooMany retryAfterS 429])
      | (perAddress, .ok) =>
        if limits.maxInFlight ≤ s.inFlight.length then
          some (⟨perEmail, perAddress, s.inFlight, now⟩, [tooMany (some 1) 503])
        else some (⟨perEmail, perAddress, ⟨emailKey email, address, now⟩ :: s.inFlight, now⟩, [])
  | .verified now i session =>
    match s.inFlight[i]? with
    | none => none
    | some attempt =>
      if session then some (⟨s.perEmail, s.perAddress, s.inFlight.eraseIdx i, now⟩, [.answered 200 none])
      else
        let perEmail := (s.perEmail.take limits.perEmail now attempt.emailKey 1).1
        let perAddress := chargeAddress s.perAddress limits.perAddress now attempt.address
        some (⟨perEmail, perAddress, s.inFlight.eraseIdx i, now⟩, [.failed attempt, .answered 401 none])
  | .threw now i =>
    match s.inFlight[i]? with
    | none => none
    | some _ => some (⟨s.perEmail, s.perAddress, s.inFlight.eraseIdx i, now⟩, [])

/-- The clock does not step back. -/
def step (limits : Limits) (s : Sys) (a : Act) : Option (Sys × List Obs) :=
  if s.clock ≤ a.now then s.perform limits a else none

def logins (limits : Limits) : Machine Sys Act Obs := ⟨step limits⟩

/-! ## Failures -/

def Attempt.entry (t : Attempt) : List Char × ℚ := (t.emailKey, t.start)

def Obs.failure? : Obs → Option (List Char × ℚ)
  | .failed attempt => some attempt.entry
  | .answered .. => none

/-- The verifications that ended in failure, by email and start. -/
def failuresOf (h : List Obs) : List (List Char × ℚ) := h.filterMap Obs.failure?

def Sys.entries (s : Sys) : List (List Char × ℚ) := s.inFlight.map Attempt.entry

/-- A verification starts only if its email has a token for it and for each of its verifications in flight, and fails
only while the email is charged in a bucket of its own. -/
def Ready (limits : Limits) (s : Sys) : Act → Prop
  | .post now email address => (s.perEmail.exhausted limits.perEmail now (emailKey email) 1).2 = .ok →
      (peekAddress s.perAddress limits.perAddress now address).2 = .ok → s.inFlight.length < limits.maxInFlight →
      Covered limits.perEmail s.perEmail s.entries now (emailKey email)
  | .verified now i session => ∀ attempt ∈ s.inFlight[i]?, session = false →
      s.perEmail.OwnServed limits.perEmail now attempt.emailKey
  | .threw .. => True

instance (limits : Limits) (s : Sys) : DecidablePred (Ready limits s)
  | .post .. => inferInstanceAs (Decidable (_ → _ → _ → _))
  | .verified .. => inferInstanceAs (Decidable (∀ _ ∈ _, _))
  | .threw .. => isTrue trivial

variable {limits : Limits}

theorem failuresOf_append (h o : List Obs) : failuresOf (h ++ o) = failuresOf h ++ failuresOf o := List.filterMap_append

theorem entries_eraseIdx (l : List Attempt) (i : ℕ) :
    (l.eraseIdx i).map Attempt.entry = (l.map Attempt.entry).eraseIdx i := (List.eraseIdx_map ..).symm

theorem failure?_tooMany (retryAfterS : Option ℤ) (status : ℕ) : failuresOf [tooMany retryAfterS status] = [] := by
  cases retryAfterS <;> rfl

/-- **One step** keeps failures rationed. -/
theorem rationed_step {s s' : Sys} {h o : List Obs} {a : Act}
    (hR : Rationed limits.perEmail s.perEmail s.clock s.entries (failuresOf h)) (hC : Ready limits s a)
    (hs : (logins limits).step s a = some (s', o)) :
    Rationed limits.perEmail s'.perEmail s'.clock s'.entries (failuresOf (h ++ o)) := by
  have hstep : step limits s a = some (s', o) := hs
  unfold step at hstep
  by_cases hclock : s.clock ≤ a.now
  · rw [if_pos hclock] at hstep
    have hlater := hR.later hclock
    have hnothing : failuresOf [] = [] := rfl
    rw [failuresOf_append]
    cases a with
    | post now email address =>
      simp only [Sys.perform] at hstep
      obtain ⟨⟨perEmail, byEmail⟩, hpeek⟩ :
          ∃ p, s.perEmail.exhausted limits.perEmail now (emailKey email) 1 = p := ⟨_, rfl⟩
      obtain ⟨⟨perAddress, byAddress⟩, hpeekAddress⟩ :
          ∃ p, peekAddress s.perAddress limits.perAddress now address = p := ⟨_, rfl⟩
      obtain ⟨hpeeked, hcovered⟩ := hlater.peek hpeek
      simp only [hpeek, hpeekAddress] at hstep
      cases byEmail with
      | refused retryAfterS =>
        cases hstep
        rw [failure?_tooMany, List.append_nil]
        exact hpeeked
      | ok =>
        cases byAddress with
        | refused retryAfterS =>
          cases hstep
          rw [failure?_tooMany, List.append_nil]
          exact hpeeked
        | ok =>
          by_cases hslot : limits.maxInFlight ≤ s.inFlight.length
          · simp only [if_pos hslot] at hstep
            cases hstep
            rw [failure?_tooMany, List.append_nil]
            exact hpeeked
          · simp only [if_neg hslot] at hstep
            cases hstep
            have hemail : (s.perEmail.exhausted limits.perEmail now (emailKey email) 1).2 = .ok := by rw [hpeek]
            have haddress : (peekAddress s.perAddress limits.perAddress now address).2 = .ok := by rw [hpeekAddress]
            rw [hnothing, List.append_nil]
            exact hpeeked.start (hcovered (hC hemail haddress (not_le.mp hslot)))
    | verified now i session =>
      simp only [Sys.perform] at hstep
      cases hi : s.inFlight[i]? with
      | none => simp [hi] at hstep
      | some attempt =>
        have hentry : s.entries[i]? = some (attempt.emailKey, attempt.start) := by
          rw [Sys.entries, List.getElem?_map, hi]
          rfl
        simp only [hi] at hstep
        cases session with
        | true =>
          cases hstep
          have hnone : failuresOf [.answered 200 none] = [] := rfl
          rw [hnone, List.append_nil, Sys.entries, entries_eraseIdx]
          exact hlater.drop i
        | false =>
          cases hstep
          have hone : failuresOf [.failed attempt, .answered 401 none] = [(attempt.emailKey, attempt.start)] := rfl
          rw [hone, Sys.entries, entries_eraseIdx]
          exact hlater.charge hentry (hC attempt hi rfl) rfl
    | threw now i =>
      simp only [Sys.perform] at hstep
      cases hi : s.inFlight[i]? with
      | none => simp [hi] at hstep
      | some attempt =>
        simp only [hi] at hstep
        cases hstep
        rw [hnothing, List.append_nil, Sys.entries, entries_eraseIdx]
        exact hlater.drop i
  · rw [if_neg hclock] at hstep
    cases hstep

/-- In a run whose steps are ready, the failed verifications of an email are rationed. -/
theorem rationed_exec {t₀ : ℚ} {as : List Act} {s : Sys} {h : List Obs}
    (hC : (logins limits).Meets (fun s _ a => Ready limits s a) (.init t₀) [] as)
    (hrun : (logins limits).exec (.init t₀) as = some (s, h)) :
    Rationed limits.perEmail s.perEmail s.clock s.entries (failuresOf h) :=
  exec_hist_of_meets
    (I := fun s h => Rationed limits.perEmail s.perEmail s.clock s.entries (failuresOf h)) rationed_step
    (rationed_init limits.perEmail t₀) hC hrun

/-! ## Both services -/

/-- The failures of every key, by the times at which they were started, are within the limiter's budget. -/
def WithinBudget {κ : Type} [DecidableEq κ] (opt : Options) (failures : List (κ × ℚ)) : Prop :=
  ∀ key a b, a ≤ b → (startedIn key a b failures : ℚ) ≤ opt.burst + opt.ratePerMs * (b - a)

/-- **Failures are rationed**, of lookups by address and of verifications by email, in the runs whose steps are ready.
-/
theorem failures_rationed (opt : Options) (limits : Limits) (t₀ : ℚ) :
    (∀ (as : List Auth.LookupAct) (s : Auth.Lookups) (h : List Auth.LookupObs),
      (Auth.lookups opt).Meets (fun s _ a => Auth.Ready opt s a) (.init t₀) [] as →
      (Auth.lookups opt).exec (.init t₀) as = some (s, h) → WithinBudget opt (Auth.failuresOf h)) ∧
    ∀ (as : List Act) (s : Sys) (h : List Obs),
      (logins limits).Meets (fun s _ a => Ready limits s a) (.init t₀) [] as →
      (logins limits).exec (.init t₀) as = some (s, h) → WithinBudget limits.perEmail (failuresOf h) := by
  constructor
  · intro as s h hC hrun key a b hab
    exact (Auth.rationed_exec hC hrun).failed_le key hab
  · intro as s h hC hrun key a b hab
    exact (rationed_exec hC hrun).failed_le key hab

/-- `authFailures` by default. -/
def authFailures : Options := ⟨30 / 60, 20, 10000, by norm_num, by norm_num, by norm_num⟩

/-- `loginLimits` by default. -/
def loginLimits : Limits where
  perEmail := ⟨1 / 60, 10, 10000, by norm_num, by norm_num, by norm_num⟩
  perAddress := ⟨6 / 60, 30, 10000, by norm_num, by norm_num, by norm_num⟩
  maxInFlight := 3

/-- `n` lookups of one address are started at once, and none finds its key. -/
def burstOfLookups (n : ℕ) : List Auth.LookupAct :=
  List.replicate n (.authenticate 0 "10.0.0.1" .ingestWrite (some "guess")) ++ List.replicate n (.resolved 0 0 none)

/-- Nine passwords are refused one after another, and then `n` at once. -/
def burstOfLogins (n : ℕ) : List Act :=
  (List.replicate 9 [.post 0 ['a', '@', 'b'] none, .verified 0 0 false]).flatten ++
    (List.replicate n (.post 0 ['a', '@', 'b'] none) ++ List.replicate n (.verified 0 0 false))

theorem burstOfLookups_isSome : ((Auth.lookups authFailures).exec (.init 0) (burstOfLookups 20)).isSome = true := by
  decide +kernel

theorem burstOfLogins_isSome : ((logins loginLimits).exec (.init 0) (burstOfLogins 1)).isSome = true := by
  decide +kernel

/-- Twenty lookups at once, and ten verifications, are what the limiters have tokens for. -/
theorem failures_rationed_bursts :
    (∃ s h, (Auth.lookups authFailures).exec (.init 0) (burstOfLookups 20) = some (s, h) ∧
      WithinBudget authFailures (Auth.failuresOf h)) ∧
    ∃ s h, (logins loginLimits).exec (.init 0) (burstOfLogins 1) = some (s, h) ∧
      WithinBudget loginLimits.perEmail (failuresOf h) := by
  obtain ⟨⟨s, h⟩, hlookups⟩ := Option.isSome_iff_exists.mp burstOfLookups_isSome
  obtain ⟨⟨s', h'⟩, hlogins⟩ := Option.isSome_iff_exists.mp burstOfLogins_isSome
  exact ⟨⟨s, h, hlookups, (failures_rationed authFailures loginLimits 0).1 _ s h (by decide +kernel) hlookups⟩,
    s', h', hlogins, (failures_rationed authFailures loginLimits 0).2 _ s' h' (by decide +kernel) hlogins⟩

theorem lookups_beyond_burst : ((Auth.lookups authFailures).exec (.init 0) (burstOfLookups 21)).map
    (fun r => startedIn "10.0.0.1" 0 0 (Auth.failuresOf r.2)) = some 21 := by decide +kernel

theorem logins_beyond_burst : ((logins loginLimits).exec (.init 0) (burstOfLogins 3)).map
    (fun r => startedIn ['a', '@', 'b'] 0 0 (failuresOf r.2)) = some 12 := by decide +kernel

/-- **Side by side they are not**: all pass the check before one of them is charged. -/
theorem failures_side_by_side :
    ¬ (∀ (opt : Options) (t₀ : ℚ) (as : List Auth.LookupAct) (s : Auth.Lookups) (h : List Auth.LookupObs),
      (Auth.lookups opt).exec (.init t₀) as = some (s, h) → WithinBudget opt (Auth.failuresOf h)) ∧
    ¬ ∀ (limits : Limits) (t₀ : ℚ) (as : List Act) (s : Sys) (h : List Obs),
      (logins limits).exec (.init t₀) as = some (s, h) → WithinBudget limits.perEmail (failuresOf h) := by
  constructor
  · intro hclaim
    obtain ⟨⟨s, h⟩, hrun, hcount⟩ := Option.map_eq_some_iff.mp lookups_beyond_burst
    have hbound := hclaim authFailures 0 _ s h hrun "10.0.0.1" 0 0 le_rfl
    have hcount' : startedIn "10.0.0.1" 0 0 (Auth.failuresOf h) = 21 := hcount
    rw [hcount'] at hbound
    norm_num [authFailures] at hbound
  · intro hclaim
    obtain ⟨⟨s, h⟩, hrun, hcount⟩ := Option.map_eq_some_iff.mp logins_beyond_burst
    have hbound := hclaim loginLimits 0 _ s h hrun ['a', '@', 'b'] 0 0 le_rfl
    have hcount' : startedIn ['a', '@', 'b'] 0 0 (failuresOf h) = 12 := hcount
    rw [hcount'] at hbound
    norm_num [loginLimits] at hbound

end DTwin.Login
