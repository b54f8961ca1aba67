import DTwin.Ingest.Auth
import DTwin.Types.Ration

/-!
# DTwin.Ingest.Lookups — the lookups of `authenticate`, side by side

Any number of calls of `authenticate` (`apps/ingest/src/auth.ts`) over one limiter, each suspended at `resolveApiKey`.
A lookup that throws is charged to nobody.
-/

namespace DTwin.Auth

open Limiter Machine

/-- A call that awaits `resolveApiKey`. -/
structure Lookup where
  address : String
  scope : ApiScope
  start : ℚ

structure Lookups where
  limiter : Limiter.Sys String
  pending : List Lookup
  clock : ℚ

inductive LookupAct
  | authenticate (now : ℚ) (address : String) (scope : ApiScope) (key : Option String)
  /-- `resolveApiKey` answers the call. -/
  | resolved (now : ℚ) (i : ℕ) (principal : Option Principal)
  | threw (now : ℚ) (i : ℕ)

inductive LookupObs
  | answered (address : String) (result : Except AuthFailure Principal)
  /-- The lookup ended in failure. -/
  | failed (lookup : Lookup)

def Lookups.init (clock : ℚ) : Lookups := ⟨.init, [], clock⟩

def LookupAct.now : LookupAct → ℚ
  | .authenticate now .. => now
  | .resolved now .. => now
  | .threw now _ => now

def Lookups.perform (s : Lookups) (opt : Options) : LookupAct → Option (Lookups × List LookupObs)
  | .authenticate now address scope key =>
    match Auth.authenticate s.limiter opt now (some address) key with
    | (limiter, .error failure) => some (⟨limiter, s.pending, now⟩, [.answered address (.error failure)])
    | (limiter, .ok _) => some (⟨limiter, ⟨address, scope, now⟩ :: s.pending, now⟩, [])
  | .resolved now i principal =>
    match s.pending[i]? with
    | none => none
    | some lookup =>
      match settle s.limiter opt now (some lookup.address) lookup.scope principal with
      | (limiter, .ok principal) =>
        some (⟨limiter, s.pending.eraseIdx i, now⟩, [.answered lookup.address (.ok principal)])
      | (limiter, .error failure) =>
        some (⟨limiter, s.pending.eraseIdx i, now⟩, [.failed lookup, .answered lookup.address (.error failure)])
  | .threw now i =>
    match s.pending[i]? with
    | none => none
    | some _ => some (⟨s.limiter, s.pending.eraseIdx i, now⟩, [])

/-- The clock does not step back. -/
def lookupStep (opt : Options) (s : Lookups) (a : LookupAct) : Option (Lookups × List LookupObs) :=
  if s.clock ≤ a.now then s.perform opt a else none

def lookups (opt : Options) : Machine Lookups LookupAct LookupObs := ⟨lookupStep opt⟩

/-! ## Failures -/

def Lookup.entry (l : Lookup) : String × ℚ := (l.address, l.start)

def LookupObs.failure? : LookupObs → Option (String × ℚ)
  | .failed lookup => some lookup.entry
  | .answered .. => none

/-- The lookups that ended in failure, by address and start. -/
def failuresOf (h : List LookupObs) : List (String × ℚ) := h.filterMap LookupObs.failure?

def Lookups.entries (s : Lookups) : List (String × ℚ) := s.pending.map Lookup.entry

/-- The key that was found may do what it is used for. -/
def mayEnter (scope : ApiScope) (principal : Option Principal) : Bool := principal.any fun p => hasScope p scope

/-- A lookup starts only if its address has a token for it and for each of its lookups under way, and fails only while
the address is charged in a bucket of its own. -/
def Ready (opt : Options) (s : Lookups) : LookupAct → Prop
  | .authenticate now address _ key => (s.limiter.exhausted opt now address 1).2 = .ok → key.isSome = true →
      Covered opt s.limiter s.entries now address
  | .resolved now i principal => ∀ lookup ∈ s.pending[i]?, mayEnter lookup.scope principal = false →
      s.limiter.OwnServed opt now lookup.address
  | .threw .. => True

instance (opt : Options) (s : Lookups) : DecidablePred (Ready opt s)
  | .authenticate .. => inferInstanceAs (Decidable (_ → _ → _))
  | .resolved .. => inferInstanceAs (Decidable (∀ _ ∈ _, _))
  | .threw .. => isTrue trivial

variable {opt : Options}

theorem failuresOf_append (h o : List LookupObs) : failuresOf (h ++ o) = failuresOf h ++ failuresOf o :=
  List.filterMap_append

theorem entries_eraseIdx (l : List Lookup) (i : ℕ) :
    (l.eraseIdx i).map Lookup.entry = (l.map Lookup.entry).eraseIdx i := (List.eraseIdx_map ..).symm

theorem authenticate_cases {s : Limiter.Sys String} {now : ℚ} {address : String} {key : Option String}
    {s' : Limiter.Sys String} {r : Except AuthFailure String}
    (h : Auth.authenticate s opt now (some address) key = (s', r)) :
    ∃ result, s.exhausted opt now address 1 = (s', result) ∧ ∀ k, r = .ok k → result = .ok ∧ key.isSome = true := by
  unfold Auth.authenticate at h
  obtain ⟨⟨s₁, result⟩, hpeek⟩ : ∃ p, s.exhausted opt now address 1 = p := ⟨_, rfl⟩
  simp only [hpeek] at h
  cases result with
  | refused w =>
    cases h
    exact ⟨.refused w, hpeek, nofun⟩
  | ok =>
    cases key with
    | none =>
      cases h
      exact ⟨.ok, hpeek, nofun⟩
    | some k =>
      cases h
      exact ⟨.ok, hpeek, fun _ _ => ⟨rfl, rfl⟩⟩

theorem settle_cases {s : Limiter.Sys String} {now : ℚ} {address : String} {scope : ApiScope}
    {principal : Option Principal} {s' : Limiter.Sys String} {r : Except AuthFailure Principal}
    (h : settle s opt now (some address) scope principal = (s', r)) :
    (s' = s ∧ ∃ p, r = .ok p) ∨
      (mayEnter scope principal = false ∧ s' = (s.take opt now address 1).1 ∧ ∃ failure, r = .error failure) := by
  cases principal with
  | none =>
    cases h
    exact Or.inr ⟨rfl, rfl, _, rfl⟩
  | some p =>
    simp only [settle] at h
    by_cases hscope : hasScope p scope = true
    · rw [if_pos hscope] at h
      cases h
      exact Or.inl ⟨rfl, _, rfl⟩
    · rw [if_neg hscope] at h
      cases h
      exact Or.inr ⟨Bool.eq_false_iff.mpr hscope, rfl, _, rfl⟩

/-- **One step** keeps failures rationed. -/
theorem rationed_step {s s' : Lookups} {h o : List LookupObs} {a : LookupAct}
    (hR : Rationed opt s.limiter s.clock s.entries (failuresOf h)) (hC : Ready opt s a)
    (hs : (lookups opt).step s a = some (s', o)) :
    Rationed opt s'.limiter s'.clock s'.entries (failuresOf (h ++ o)) := by
  have hstep : lookupStep opt s a = some (s', o) := hs
  unfold lookupStep at hstep
  by_cases hclock : s.clock ≤ a.now
  · rw [if_pos hclock] at hstep
    have hlater := hR.later hclock
    rw [failuresOf_append]
    cases a with
    | authenticate now address scope key =>
      simp only [Lookups.perform] at hstep
      obtain ⟨⟨limiter, r⟩, hcall⟩ : ∃ p, Auth.authenticate s.limiter opt now (some address) key = p := ⟨_, rfl⟩
      obtain ⟨result, hpeek, hok⟩ := authenticate_cases hcall
      obtain ⟨hpeeked, hcovered⟩ := hlater.peek hpeek
      rw [hcall] at hstep
      cases r with
      | error failure =>
        cases hstep
        have hnone : failuresOf [.answered address (.error failure)] = [] := rfl
        rw [hnone, List.append_nil]
        exact hpeeked
      | ok k =>
        cases hstep
        obtain ⟨hresult, hkey⟩ := hok k rfl
        have hpassed : (s.limiter.exhausted opt now address 1).2 = .ok := by rw [hpeek]; exact hresult
        have hnone : failuresOf [] = [] := rfl
        rw [hnone, List.append_nil]
        exact hpeeked.start (hcovered (hC hpassed hkey))
    | resolved now i principal =>
      simp only [Lookups.perform] at hstep
      cases hi : s.pending[i]? with
      | none => simp [hi] at hstep
      | some lookup =>
        have hentry : s.entries[i]? = some (lookup.address, lookup.start) := by
          rw [Lookups.entries, List.getElem?_map, hi]
          rfl
        obtain ⟨⟨limiter, r⟩, hcall⟩ :
            ∃ p, settle s.limiter opt now (some lookup.address) lookup.scope principal = p := ⟨_, rfl⟩
        simp only [hi, hcall] at hstep
        obtain ⟨rfl, p, rfl⟩ | ⟨hfails, rfl, failure, rfl⟩ := settle_cases hcall
        · cases hstep
          have hnone : failuresOf [.answered lookup.address (.ok p)] = [] := rfl
          rw [hnone, List.append_nil, Lookups.entries, entries_eraseIdx]
          exact hlater.drop i
        · cases hstep
          have hone : failuresOf [.failed lookup, .answered lookup.address (.error failure)] =
              [(lookup.address, lookup.start)] := rfl
          rw [hone, Lookups.entries, entries_eraseIdx]
          exact hlater.charge hentry (hC lookup hi hfails) rfl
    | threw now i =>
      simp only [Lookups.perform] at hstep
      cases hi : s.pending[i]? with
      | none => simp [hi] at hstep
      | some lookup =>
        simp only [hi] at hstep
        cases hstep
        have hnone : failuresOf [] = [] := rfl
        rw [hnone, List.append_nil, Lookups.entries, entries_eraseIdx]
        exact hlater.drop i
  · rw [if_neg hclock] at hstep
    cases hstep

/-- In a run whose steps are ready, the failed lookups of an address are rationed. -/
theorem rationed_exec {t₀ : ℚ} {as : List LookupAct} {s : Lookups} {h : List LookupObs}
    (hC : (lookups opt).Meets (fun s _ a => Ready opt s a) (.init t₀) [] as)
    (hrun : (lookups opt).exec (.init t₀) as = some (s, h)) :
    Rationed opt s.limiter s.clock s.entries (failuresOf h) :=
  exec_hist_of_meets (I := fun s h => Rationed opt s.limiter s.clock s.entries (failuresOf h)) rationed_step
    (rationed_init opt t₀) hC hrun

end DTwin.Auth
