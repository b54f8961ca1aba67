import DTwin.Types.Reckoned

/-!
# DTwin.Types.Swept — does a sweep matter?

`packages/types/src/limiter.ts`.  What `take` answers depends on the tokens that each key would be refilled to, a key
without a bucket having a whole burst (`Sys.levelIn`), on those of the shared bucket and on how many keys are mid-burst
(`Sys.busyIn`): `takeIn_spec` says what a call does in these terms.  A bucket that has refilled stays full however it is
rounded, so that a sweep loses nothing by dropping it; but those that it keeps it refills, and what is refilled in two
goes can be an ulp from what is refilled in one.  Where it is not (`Sys.Splits`), no later result of `take` depends on
the sweep (`alike_takes`).
-/

namespace DTwin.Limiter

open OrderedMap TokenBucket Machine

variable {κ : Type} [DecidableEq κ]

/-! ## What each key has -/

section Levels

variable (rnd : ℚ → ℚ) (opt : Options) (s : Sys κ)

/-- The tokens that a key would be refilled to; a key without a bucket has a whole burst. -/
def Sys.levelIn (key : κ) (τ : ℚ) : ℚ :=
  match s.buckets.get? key with
  | none => opt.burst
  | some b => (opt.refillIn rnd τ b).tokens

/-- The tokens of the shared bucket. -/
def Sys.sharedLevelIn (τ : ℚ) : ℚ :=
  match s.overflow with
  | none => opt.burst
  | some b => (opt.refillIn rnd τ b).tokens

/-- How many keys a sweep would leave. -/
def Sys.busyIn (now : ℚ) : ℕ := (s.sweepIn rnd opt now).buckets.size

/-- The key is answered from a bucket of its own. -/
def Sys.OwnServedIn (now : ℚ) (key : κ) : Prop :=
  (s.buckets.get? key).isSome = true ∨ s.busyIn rnd opt now < opt.maxKeys

instance (now : ℚ) (key : κ) : Decidable (s.OwnServedIn rnd opt now key) := inferInstanceAs (Decidable (_ ∨ _))

/-- The tokens a call is answered from. -/
def Sys.servedIn (now : ℚ) (key : κ) : ℚ :=
  if s.OwnServedIn rnd opt now key then s.levelIn rnd opt key now else s.sharedLevelIn rnd opt now

/-- What a sweep leaves has at these readings the tokens that it would have had. -/
def Sys.Splits (now : ℚ) (readings : Set ℚ) : Prop :=
  ∀ key b, s.buckets.get? key = some b → (opt.refillIn rnd now b).tokens < opt.burst →
    ∀ τ ∈ readings, opt.refillIn rnd τ (opt.refillIn rnd now b) = opt.refillIn rnd τ b

end Levels

section Answers

variable (rnd : ℚ → ℚ) (opt : Options)

/-- What a call of `take` answers, given the tokens it finds. -/
def answerIn (tokens : ℚ) (cost : ℚ≥0) : LimitResult :=
  if (cost : ℚ) ≤ tokens then .ok
  else .refused (if opt.burst < (cost : ℚ) then none else some (opt.waitIn rnd tokens cost))

/-- What it leaves of them. -/
def leftIn (tokens : ℚ) (cost : ℚ≥0) : ℚ := if (cost : ℚ) ≤ tokens then rnd (tokens - cost) else tokens

end Answers

variable {rnd : ℚ → ℚ} {opt : Options} {s s' : Sys κ} {now τ : ℚ} {key : κ} {readings : Set ℚ}

theorem levelIn_some {b : Bucket ℚ} (hb : s.buckets.get? key = some b) (τ : ℚ) :
    s.levelIn rnd opt key τ = (opt.refillIn rnd τ b).tokens := by
  rw [Sys.levelIn, hb]

theorem levelIn_none (hnone : s.buckets.get? key = none) (τ : ℚ) : s.levelIn rnd opt key τ = opt.burst := by
  rw [Sys.levelIn, hnone]

theorem levelIn_le (rnd : ℚ → ℚ) (opt : Options) (s : Sys κ) (key : κ) (τ : ℚ) :
    s.levelIn rnd opt key τ ≤ opt.burst := by
  unfold Sys.levelIn
  split
  · exact le_rfl
  · exact refillIn_le _ _ _ _

/-! ## A sweep -/

/-- A sweep that leaves what it should changes no key's tokens. -/
theorem levelIn_sweep (hF : Fair opt rnd) (hsplits : s.Splits rnd opt now readings) (key : κ) (hτ : τ ∈ readings)
    (hnow : now ≤ τ) : (s.sweepIn rnd opt now).levelIn rnd opt key τ = s.levelIn rnd opt key τ := by
  unfold Sys.levelIn
  rw [get?_sweepIn]
  cases hb : s.buckets.get? key with
  | none => rfl
  | some b =>
    simp only [Option.bind_some]
    split_ifs with hfull
    · exact le_antisymm (hfull.trans (hF.refillIn_mono b hnow)) (refillIn_le _ _ _ _)
    · simp only [hsplits key b hb (not_le.mp hfull) τ hτ]

/-- The keys it leaves are those that are mid-burst. -/
theorem mem_keys_sweep : key ∈ (s.sweepIn rnd opt now).buckets.keys ↔ s.levelIn rnd opt key now < opt.burst := by
  rw [mem_keys, get?_sweepIn, Sys.levelIn]
  cases hb : s.buckets.get? key with
  | none => simp
  | some b =>
    simp only [Option.bind_some]
    split_ifs with hfull
    · simpa using hfull
    · simpa using not_le.mp hfull

omit [DecidableEq κ] in
theorem keys_sweep_sublist (rnd : ℚ → ℚ) (s : Sys κ) (opt : Options) (now : ℚ) :
    (s.sweepIn rnd opt now).buckets.keys.Sublist s.buckets.keys := sublist_filterMapEntry _ _

omit [DecidableEq κ] in
theorem size_eq_keys (m : OrderedMap κ (Bucket ℚ)) : m.size = m.keys.length := (List.length_map _).symm

omit [DecidableEq κ] in
theorem busy_le_size (rnd : ℚ → ℚ) (s : Sys κ) (opt : Options) (now : ℚ) : s.busyIn rnd opt now ≤ s.buckets.size := by
  rw [Sys.busyIn, size_eq_keys, size_eq_keys]
  exact (keys_sweep_sublist rnd s opt now).length_le

/-- A key that has a bucket and is not mid-burst would be dropped. -/
theorem busy_lt_size (hsome : (s.buckets.get? key).isSome = true) (hfull : s.levelIn rnd opt key now = opt.burst) :
    s.busyIn rnd opt now < s.buckets.size := by
  have hsub := keys_sweep_sublist rnd s opt now
  refine lt_of_le_of_ne (busy_le_size rnd s opt now) fun heq => ?_
  rw [Sys.busyIn, size_eq_keys, size_eq_keys] at heq
  have hmem : key ∈ (s.sweepIn rnd opt now).buckets.keys := by
    rw [hsub.eq_of_length heq]
    exact mem_keys.mpr hsome
  exact absurd hfull (mem_keys_sweep.mp hmem).ne

theorem levelIn_makeRoom (hF : Fair opt rnd)
    (hsplits : opt.maxKeys ≤ s.buckets.size → s.Splits rnd opt now readings) (key : κ) (hτ : τ ∈ readings)
    (hnow : now ≤ τ) : (s.makeRoomIn rnd opt now).levelIn rnd opt key τ = s.levelIn rnd opt key τ := by
  unfold Sys.makeRoomIn
  split_ifs with hfull
  · exact levelIn_sweep hF (hsplits hfull) key hτ hnow
  · rfl

omit [DecidableEq κ] in
/-- There is room for a newcomer when not too many keys are mid-burst. -/
theorem makeRoom_lt : (s.makeRoomIn rnd opt now).buckets.size < opt.maxKeys ↔ s.busyIn rnd opt now < opt.maxKeys := by
  unfold Sys.makeRoomIn
  split_ifs with hfull
  · exact Iff.rfl
  · exact iff_of_true (not_le.mp hfull) ((busy_le_size rnd s opt now).trans_lt (not_le.mp hfull))

omit [DecidableEq κ] in
theorem makeRoom_le (hsize : s.buckets.size ≤ opt.maxKeys) : (s.makeRoomIn rnd opt now).buckets.size ≤ opt.maxKeys := by
  unfold Sys.makeRoomIn
  split_ifs
  · exact (busy_le_size rnd s opt now).trans hsize
  · exact hsize

/-! ## A call -/

/-- Where a call of `take` finds its tokens, and with what state. -/
structure Found (rnd : ℚ → ℚ) (opt : Options) (s : Sys κ) (now : ℚ) (key : κ) (readings : Set ℚ) (s₁ : Sys κ)
    (place : Place) : Prop where
  bucket : s.bucketIn rnd opt now key = (s₁, place, ⟨s.servedIn rnd opt now key, now⟩)
  place_iff : place = .shared ↔ ¬ s.OwnServedIn rnd opt now key
  size_le : s₁.buckets.size ≤ opt.maxKeys
  levels : ∀ key', ∀ τ ∈ readings, s₁.levelIn rnd opt key' τ = s.levelIn rnd opt key' τ
  overflow : s₁.overflow = s.overflow
  room : place ≠ .shared → (s₁.buckets.get? key).isSome = true ∨ s₁.buckets.size < opt.maxKeys

omit [DecidableEq κ] in
theorem sharedLevelIn_bucket (hF : Fair opt rnd) (s : Sys κ) (now : ℚ) :
    opt.refillIn rnd now (s.sharedBucket opt now) = ⟨s.sharedLevelIn rnd opt now, now⟩ := by
  unfold Sys.sharedBucket Sys.sharedLevelIn
  cases s.overflow with
  | none => exact hF.refillIn_full now le_rfl
  | some b => rfl

omit [DecidableEq κ] in
theorem sharedLevelIn_congr (h : s'.overflow = s.overflow) (τ : ℚ) :
    s'.sharedLevelIn rnd opt τ = s.sharedLevelIn rnd opt τ := by
  rw [Sys.sharedLevelIn, h, Sys.sharedLevelIn]

theorem exists_found (hF : Fair opt rnd) (hsize : s.buckets.size ≤ opt.maxKeys) (hnow : ∀ τ ∈ readings, now ≤ τ)
    (key : κ) (hsplits : s.buckets.get? key = none → opt.maxKeys ≤ s.buckets.size → s.Splits rnd opt now readings) :
    ∃ s₁ place, Found rnd opt s now key readings s₁ place := by
  obtain ⟨held, hheld, hbucket⟩ | ⟨hnone, hspace, hbucket⟩ | ⟨hnone, hfull, hbucket⟩ := bucketIn_cases rnd s opt now key
  · have hown : s.OwnServedIn rnd opt now key := Or.inl (by rw [hheld]; rfl)
    refine ⟨s, .own, ?_, ⟨nofun, fun h => absurd hown h⟩, hsize, fun _ _ _ => rfl, rfl,
      fun _ => Or.inl (by rw [hheld]; rfl)⟩
    rw [hbucket, Sys.servedIn, if_pos hown, levelIn_some hheld]
    rfl
  · have hown : s.OwnServedIn rnd opt now key := Or.inr (makeRoom_lt.mp hspace)
    refine ⟨s.makeRoomIn rnd opt now, .created, ?_, ⟨nofun, fun h => absurd hown h⟩, hspace.le,
      fun key' τ hτ => levelIn_makeRoom hF (hsplits hnone) key' hτ (hnow τ hτ), makeRoomIn_overflow rnd s opt now,
      fun _ => Or.inr hspace⟩
    rw [hbucket, Sys.servedIn, if_pos hown, levelIn_none hnone]
  · have hshared : ¬ s.OwnServedIn rnd opt now key := by
      rintro (hsome | hroom)
      · rw [hnone] at hsome
        cases hsome
      · exact absurd (makeRoom_lt.mpr hroom) (not_lt.mpr hfull)
    refine ⟨{ s.makeRoomIn rnd opt now with overflowed := (s.makeRoomIn rnd opt now).overflowed + 1 }, .shared, ?_,
      ⟨fun _ => hshared, fun _ => rfl⟩, makeRoom_le hsize,
      fun key' τ hτ => levelIn_makeRoom hF (hsplits hnone) key' hτ (hnow τ hτ), makeRoomIn_overflow rnd s opt now,
      fun h => absurd rfl h⟩
    rw [hbucket, sharedLevelIn_bucket hF, sharedLevelIn_congr (makeRoomIn_overflow rnd s opt now), Sys.servedIn,
      if_neg hshared]

/-- A map with one key more, or as many. -/
theorem size_set_le {m : OrderedMap κ (Bucket ℚ)} {n : ℕ} (hm : m.size ≤ n)
    (hroom : (m.get? key).isSome = true ∨ m.size < n) (b : Bucket ℚ) : (m.set key b).size ≤ n := by
  have hkeys : (m.set key b).keys = if key ∈ m.keys then m.keys else m.keys ++ [key] := map_fst_setEntry ..
  rw [size_eq_keys, hkeys]
  rw [size_eq_keys] at hm hroom
  split_ifs with hmem
  · exact hm
  · rcases hroom with hsome | hlt
    · exact absurd (mem_keys.mpr hsome) hmem
    · rw [List.length_append, List.length_singleton]
      omega

/-- What a call of `take` does, in terms of the tokens of the keys. -/
structure TookIn (rnd : ℚ → ℚ) (opt : Options) (s s' : Sys κ) (now : ℚ) (key : κ) (cost : ℚ≥0) (readings : Set ℚ)
    (result : LimitResult) : Prop where
  result_eq : result = answerIn rnd opt (s.servedIn rnd opt now key) cost
  size_le : s'.buckets.size ≤ opt.maxKeys
  levels : ∀ key', ∀ τ ∈ readings, s'.levelIn rnd opt key' τ =
    if key' = key ∧ s.OwnServedIn rnd opt now key then
      (opt.refillIn rnd τ ⟨leftIn rnd (s.servedIn rnd opt now key) cost, now⟩).tokens
    else s.levelIn rnd opt key' τ
  shared : ∀ τ, s'.sharedLevelIn rnd opt τ =
    if s.OwnServedIn rnd opt now key then s.sharedLevelIn rnd opt τ
    else (opt.refillIn rnd τ ⟨leftIn rnd (s.servedIn rnd opt now key) cost, now⟩).tokens

/-- The state after a call, the bucket `b` having been put where its tokens were found. -/
theorem Found.put {s₁ : Sys κ} {place : Place} (hF : Found rnd opt s now key readings s₁ place) {b : Bucket ℚ}
    (hbuckets : s'.buckets = (s₁.put key place b).buckets) (hover : s'.overflow = (s₁.put key place b).overflow) :
    s'.buckets.size ≤ opt.maxKeys ∧
      (∀ key', ∀ τ ∈ readings, s'.levelIn rnd opt key' τ =
        if key' = key ∧ s.OwnServedIn rnd opt now key then (opt.refillIn rnd τ b).tokens
        else s.levelIn rnd opt key' τ) ∧
      ∀ τ, s'.sharedLevelIn rnd opt τ =
        if s.OwnServedIn rnd opt now key then s.sharedLevelIn rnd opt τ else (opt.refillIn rnd τ b).tokens := by
  by_cases hplace : place = .shared
  · have hshared := hF.place_iff.mp hplace
    subst hplace
    have hsome : s'.overflow = some b := hover
    refine ⟨?_, fun key' τ hτ => ?_, fun τ => ?_⟩
    · rw [hbuckets]
      exact hF.size_le
    · rw [if_neg fun h => hshared h.2, ← hF.levels key' τ hτ, Sys.levelIn, hbuckets]
      rfl
    · rw [if_neg hshared, Sys.sharedLevelIn, hsome]
  · have hown : s.OwnServedIn rnd opt now key := by
      by_contra h
      exact hplace (hF.place_iff.mpr h)
    have hget : ∀ key', s'.buckets.get? key' = if key = key' then some b else s₁.buckets.get? key' := by
      intro key'
      rw [hbuckets]
      exact (put_own s₁ key key' hplace b).1
    have hover' : s'.overflow = s₁.overflow := hover.trans (put_own s₁ key key hplace b).2
    refine ⟨?_, fun key' τ hτ => ?_, fun τ => ?_⟩
    · have hset : s'.buckets = s₁.buckets.set key b := by
        rw [hbuckets]
        cases place with
        | shared => exact absurd rfl hplace
        | own => rfl
        | created => rfl
      rw [hset]
      exact size_set_le hF.size_le (hF.room hplace) b
    · have hlevels := hF.levels key' τ hτ
      unfold Sys.levelIn at hlevels ⊢
      rw [hget]
      by_cases hkey : key' = key
      · rw [if_pos hkey.symm, if_pos ⟨hkey, hown⟩]
      · rw [if_neg fun h => hkey h.symm, if_neg fun h => hkey h.1]
        exact hlevels
    · rw [if_pos hown, sharedLevelIn_congr (hover'.trans hF.overflow)]

/-- **One call of `take`.** -/
theorem takeIn_spec (hF : Fair opt rnd) (hsize : s.buckets.size ≤ opt.maxKeys) (hnow : ∀ τ ∈ readings, now ≤ τ)
    (hsplits : s.buckets.get? key = none → opt.maxKeys ≤ s.buckets.size → s.Splits rnd opt now readings)
    {cost : ℚ≥0} {place : Place} {result : LimitResult}
    (htake : s.takeIn rnd opt now key cost = (s', place, result)) :
    TookIn rnd opt s s' now key cost readings result := by
  obtain ⟨s₁, place₁, hfound⟩ := exists_found hF hsize hnow key hsplits
  obtain ⟨rfl, ⟨hcost, rfl, rfl⟩ | ⟨n, hcost, rfl, rfl⟩⟩ := takeIn_cases hfound.bucket htake
  · obtain ⟨hsize', hlevel, hshared⟩ :=
      hfound.put (b := ⟨rnd (s.servedIn rnd opt now key - cost), now⟩) rfl rfl
    have hleft : leftIn rnd (s.servedIn rnd opt now key) cost = rnd (s.servedIn rnd opt now key - cost) := if_pos hcost
    refine ⟨(if_pos hcost).symm, hsize', ?_, ?_⟩
    · rw [hleft]
      exact hlevel
    · rw [hleft]
      exact hshared
  · let s₂ : Sys κ := { s₁.put key place ⟨s.servedIn rnd opt now key, now⟩ with refused := n }
    have hbuckets : s₂.buckets = (s₁.put key place ⟨s.servedIn rnd opt now key, now⟩).buckets := rfl
    obtain ⟨hsize', hlevel, hshared⟩ := hfound.put (b := ⟨s.servedIn rnd opt now key, now⟩) hbuckets rfl
    have hleft : leftIn rnd (s.servedIn rnd opt now key) cost = s.servedIn rnd opt now key := if_neg hcost
    refine ⟨(if_neg hcost).symm, hsize', ?_, ?_⟩
    · rw [hleft]
      exact hlevel
    · rw [hleft]
      exact hshared

/-- **One call of `exhausted`.**  It refills the bucket of its key, if there is one. -/
theorem exhaustedIn_spec (hF : Fair opt rnd) (hsize : s.buckets.size ≤ opt.maxKeys) {cost : ℚ≥0} {result : LimitResult}
    (hpeek : s.exhaustedIn rnd opt now key cost = (s', result)) : s'.buckets.size ≤ opt.maxKeys ∧
    (∀ key' τ, s'.levelIn rnd opt key' τ =
      if key' = key then (opt.refillIn rnd τ ⟨s.levelIn rnd opt key now, now⟩).tokens
      else s.levelIn rnd opt key' τ) ∧ s'.overflow = s.overflow := by
  obtain ⟨hnone, rfl, -⟩ | ⟨held, n, hheld, rfl, -⟩ := exhaustedIn_cases hpeek
  · refine ⟨hsize, fun key' τ => ?_, rfl⟩
    split_ifs with hkey
    · rw [hkey, levelIn_none hnone, levelIn_none hnone, hF.refillIn_full τ le_rfl]
    · rfl
  · have hget : ∀ key', (s.put key .own (opt.refillIn rnd now held)).buckets.get? key' =
        if key = key' then some (opt.refillIn rnd now held) else s.buckets.get? key' :=
      fun key' => (put_own s key key' (by decide : Place.own ≠ .shared) _).1
    refine ⟨size_set_le hsize (Or.inl (by rw [hheld]; rfl)) (opt.refillIn rnd now held), fun key' τ => ?_, rfl⟩
    show Sys.levelIn rnd opt (s.put key .own (opt.refillIn rnd now held)) key' τ = _
    by_cases hkey : key' = key
    · rw [if_pos hkey, Sys.levelIn, hget, if_pos hkey.symm, levelIn_some hheld]
      rfl
    · rw [if_neg hkey, Sys.levelIn, hget, if_neg fun h => hkey h.symm]
      rfl

/-! ## Runs -/

/-- The reading of the clock that a call makes. -/
def Act.clock : Act κ → Option ℚ
  | .take _ _ now => some now
  | .exhausted _ _ now => some now
  | .stats => none

/-- The readings of a run. -/
def clocks (as : List (Act κ)) : Set ℚ := {τ | τ ∈ as.filterMap Act.clock}

/-- The clock reads `now` at first or later, and does not step back. -/
def ForwardFrom : ℚ → List (Act κ) → Prop
  | _, [] => True
  | now, .take _ _ next :: as => now ≤ next ∧ ForwardFrom next as
  | now, .exhausted _ _ next :: as => now ≤ next ∧ ForwardFrom next as
  | now, .stats :: as => ForwardFrom now as

omit [DecidableEq κ] in
theorem clocks_cons {a : Act κ} {next : ℚ} (ha : a.clock = some next) (as : List (Act κ)) :
    clocks (a :: as) = insert next (clocks as) := by
  ext τ
  show τ ∈ (a :: as).filterMap Act.clock ↔ τ = next ∨ τ ∈ as.filterMap Act.clock
  rw [List.filterMap_cons_some ha, List.mem_cons]

omit [DecidableEq κ] in
theorem le_of_mem_clocks : ∀ {as : List (Act κ)} {now : ℚ}, ForwardFrom now as → ∀ τ ∈ clocks as, now ≤ τ
  | [], _, _ => nofun
  | .take key cost next :: as, now, h => by
    intro τ hτ
    rw [clocks_cons rfl] at hτ
    rcases hτ with rfl | hτ
    · exact h.1
    · exact h.1.trans (le_of_mem_clocks h.2 τ hτ)
  | .exhausted key cost next :: as, now, h => by
    intro τ hτ
    rw [clocks_cons rfl] at hτ
    rcases hτ with rfl | hτ
    · exact h.1
    · exact h.1.trans (le_of_mem_clocks h.2 τ hτ)
  | .stats :: as, now, h => fun τ hτ => @le_of_mem_clocks as now h τ hτ

/-- No call of a run sweeps what has other tokens afterwards. -/
def Steady (rnd : ℚ → ℚ) (opt : Options) : Sys κ → List (Act κ) → Prop
  | _, [] => True
  | s, a :: as =>
    (∀ key cost now, a = .take key cost now → s.buckets.get? key = none → opt.maxKeys ≤ s.buckets.size →
      s.Splits rnd opt now (clocks as)) ∧
    ∀ s' o, (limitingIn rnd κ opt).step s a = some (s', o) → Steady rnd opt s' as

/-! ## A sweep changes no result -/

/-- Every key has the same tokens in both states at these readings, and so has the shared bucket. -/
structure Alike (rnd : ℚ → ℚ) (opt : Options) (s s' : Sys κ) (readings : Set ℚ) : Prop where
  levels : ∀ key, ∀ τ ∈ readings, s'.levelIn rnd opt key τ = s.levelIn rnd opt key τ
  shared : ∀ τ, s'.sharedLevelIn rnd opt τ = s.sharedLevelIn rnd opt τ

theorem Alike.symm (hA : Alike rnd opt s s' readings) : Alike rnd opt s' s readings :=
  ⟨fun key τ hτ => (hA.levels key τ hτ).symm, fun τ => (hA.shared τ).symm⟩

theorem Alike.subset (hA : Alike rnd opt s s' readings) {later : Set ℚ} (hlater : later ⊆ readings) :
    Alike rnd opt s s' later := ⟨fun key τ hτ => hA.levels key τ (hlater hτ), hA.shared⟩

theorem alike_sweep (hF : Fair opt rnd) (hsplits : s.Splits rnd opt now readings) (hnow : ∀ τ ∈ readings, now ≤ τ) :
    Alike rnd opt s (s.sweepIn rnd opt now) readings :=
  ⟨fun key τ hτ => levelIn_sweep hF hsplits key hτ (hnow τ hτ), fun _ => rfl⟩

/-- As many keys are mid-burst. -/
theorem Alike.busyIn (hA : Alike rnd opt s s' readings) (hnow : now ∈ readings) :
    s'.busyIn rnd opt now = s.busyIn rnd opt now := by
  rw [Sys.busyIn, Sys.busyIn, size_eq_keys, size_eq_keys]
  refine ((List.perm_ext_iff_of_nodup (s'.sweepIn rnd opt now).buckets.nodup
    (s.sweepIn rnd opt now).buckets.nodup).mpr fun key => ?_).length_eq
  show key ∈ (s'.sweepIn rnd opt now).buckets.keys ↔ key ∈ (s.sweepIn rnd opt now).buckets.keys
  rw [mem_keys_sweep, mem_keys_sweep, hA.levels key now hnow]

/-- A key without a bucket in one state, and a full one in the other, finds room for it. -/
theorem Alike.ownServed_of (hA : Alike rnd opt s s' readings) (hnow : now ∈ readings)
    (hsize : s.buckets.size ≤ opt.maxKeys) (hown : s.OwnServedIn rnd opt now key) : s'.OwnServedIn rnd opt now key := by
  rcases hown with hsome | hroom
  · cases hb' : s'.buckets.get? key with
    | some b' => exact Or.inl (by rw [hb']; rfl)
    | none =>
      have hfull : s.levelIn rnd opt key now = opt.burst := by rw [← hA.levels key now hnow, levelIn_none hb']
      refine Or.inr ?_
      rw [hA.busyIn hnow]
      exact (busy_lt_size hsome hfull).trans_le hsize
  · refine Or.inr ?_
    rw [hA.busyIn hnow]
    exact hroom

/-- The same answer, and states that are alike again. -/
theorem Alike.take (hA : Alike rnd opt s s' readings) (hnow : now ∈ readings) {later : Set ℚ}
    (hlater : later ⊆ readings) (hsize : s.buckets.size ≤ opt.maxKeys) (hsize' : s'.buckets.size ≤ opt.maxKeys)
    {r r' : Sys κ} {cost : ℚ≥0} {result result' : LimitResult} (hT : TookIn rnd opt s r now key cost later result)
    (hT' : TookIn rnd opt s' r' now key cost later result') : result' = result ∧ Alike rnd opt r r' later := by
  have hown : s'.OwnServedIn rnd opt now key ↔ s.OwnServedIn rnd opt now key :=
    ⟨hA.symm.ownServed_of hnow hsize', hA.ownServed_of hnow hsize⟩
  have hserved : s'.servedIn rnd opt now key = s.servedIn rnd opt now key := by
    rw [Sys.servedIn, Sys.servedIn, hA.levels key now hnow, hA.shared now]
    exact if_congr hown rfl rfl
  refine ⟨by rw [hT.result_eq, hT'.result_eq, hserved], fun key' τ hτ => ?_, fun τ => ?_⟩
  · rw [hT.levels key' τ hτ, hT'.levels key' τ hτ, hserved, hA.levels key' τ (hlater hτ)]
    exact if_congr (and_congr_right' hown) rfl rfl
  · rw [hT.shared τ, hT'.shared τ, hserved, hA.shared τ]
    exact if_congr hown rfl rfl

/-- The results of the calls of `take`. -/
def takesOf (h : List (Obs κ)) : List (κ × ℚ≥0 × ℚ × LimitResult) :=
  h.filterMap fun
    | .took key cost now _ result => some (key, cost, now, result)
    | _ => none

/-- **States that are alike give the same results.** -/
theorem alike_takes (hF : Fair opt rnd) : ∀ (as : List (Act κ)) {s s' r r' : Sys κ} {now : ℚ} {o o' : List (Obs κ)},
    Alike rnd opt s s' (clocks as) → s.buckets.size ≤ opt.maxKeys → s'.buckets.size ≤ opt.maxKeys →
    ForwardFrom now as → Steady rnd opt s as → Steady rnd opt s' as →
    (limitingIn rnd κ opt).exec s as = some (r, o) → (limitingIn rnd κ opt).exec s' as = some (r', o') →
    takesOf o' = takesOf o := by
  intro as
  induction as with
  | nil =>
    intro s s' r r' now o o' _ _ _ _ _ _ he he'
    obtain ⟨-, rfl⟩ := Prod.mk.inj (Option.some.inj he)
    obtain ⟨-, rfl⟩ := Prod.mk.inj (Option.some.inj he')
    rfl
  | cons a as ih =>
    intro s s' r r' now o o' hA hsize hsize' hclock hsteady hsteady' he he'
    obtain ⟨s₁, o₁, o₂, hs, hrest, rfl⟩ := exec_cons_iff.mp he
    obtain ⟨s₁', o₁', o₂', hs', hrest', rfl⟩ := exec_cons_iff.mp he'
    have hnext := hsteady.2 s₁ o₁ hs
    have hnext' := hsteady'.2 s₁' o₁' hs'
    cases a with
    | take key cost next =>
      obtain ⟨⟨q, place, result⟩, hcall⟩ : ∃ p, s.takeIn rnd opt next key cost = p := ⟨_, rfl⟩
      obtain ⟨⟨q', place', result'⟩, hcall'⟩ : ∃ p, s'.takeIn rnd opt next key cost = p := ⟨_, rfl⟩
      simp only [limitingIn, stepIn, hcall, hcall', Option.some.injEq, Prod.mk.injEq] at hs hs'
      obtain ⟨rfl, rfl⟩ := hs
      obtain ⟨rfl, rfl⟩ := hs'
      have hforward := le_of_mem_clocks hclock.2
      have hT := takeIn_spec hF hsize hforward (hsteady.1 key cost next rfl) hcall
      have hT' := takeIn_spec hF hsize' hforward (hsteady'.1 key cost next rfl) hcall'
      rw [clocks_cons rfl] at hA
      obtain ⟨rfl, hA'⟩ := hA.take (Set.mem_insert _ _) (Set.subset_insert _ _) hsize hsize' hT hT'
      have htail := ih hA' hT.size_le hT'.size_le hclock.2 hnext hnext' hrest hrest'
      simpa [takesOf] using htail
    | exhausted key cost next =>
      obtain ⟨⟨q, result⟩, hcall⟩ : ∃ p, s.exhaustedIn rnd opt next key cost = p := ⟨_, rfl⟩
      obtain ⟨⟨q', result'⟩, hcall'⟩ : ∃ p, s'.exhaustedIn rnd opt next key cost = p := ⟨_, rfl⟩
      simp only [limitingIn, stepIn, hcall, hcall', Option.some.injEq, Prod.mk.injEq] at hs hs'
      obtain ⟨rfl, rfl⟩ := hs
      obtain ⟨rfl, rfl⟩ := hs'
      obtain ⟨hsize₁, hlevels, hover⟩ := exhaustedIn_spec hF hsize hcall
      obtain ⟨hsize₁', hlevels', hover'⟩ := exhaustedIn_spec hF hsize' hcall'
      rw [clocks_cons rfl] at hA
      have hA' : Alike rnd opt q q' (clocks as) := by
        refine ⟨fun key' τ hτ => ?_, fun τ => ?_⟩
        · rw [hlevels key' τ, hlevels' key' τ, hA.levels key next (Set.mem_insert _ _),
            hA.levels key' τ (Set.mem_insert_of_mem next hτ)]
        · rw [sharedLevelIn_congr hover, sharedLevelIn_congr hover']
          exact hA.shared τ
      have htail := ih hA' hsize₁ hsize₁' hclock.2 hnext hnext' hrest hrest'
      simpa [takesOf] using htail
    | stats =>
      simp only [limitingIn, stepIn, Option.some.injEq, Prod.mk.injEq] at hs hs'
      obtain ⟨rfl, rfl⟩ := hs
      obtain ⟨rfl, rfl⟩ := hs'
      have htail := ih hA hsize hsize' hclock hnext hnext' hrest hrest'
      simpa [takesOf] using htail

/-- No call makes more buckets than there may be keys. -/
theorem size_le_step (hF : Fair opt rnd) {a : Act κ} {o : List (Obs κ)} (hsize : s.buckets.size ≤ opt.maxKeys)
    (hs : (limitingIn rnd κ opt).step s a = some (s', o)) : s'.buckets.size ≤ opt.maxKeys := by
  cases a with
  | take key cost next =>
    obtain ⟨⟨q, place, result⟩, hcall⟩ : ∃ p, s.takeIn rnd opt next key cost = p := ⟨_, rfl⟩
    simp only [limitingIn, stepIn, hcall, Option.some.injEq, Prod.mk.injEq] at hs
    obtain ⟨rfl, -⟩ := hs
    have hT : TookIn rnd opt s q next key cost ∅ result :=
      takeIn_spec hF hsize (fun _ hτ => absurd hτ (Set.notMem_empty _))
        (fun _ _ _ _ _ _ _ hτ => absurd hτ (Set.notMem_empty _)) hcall
    exact hT.size_le
  | exhausted key cost next =>
    obtain ⟨⟨q, result⟩, hcall⟩ : ∃ p, s.exhaustedIn rnd opt next key cost = p := ⟨_, rfl⟩
    simp only [limitingIn, stepIn, hcall, Option.some.injEq, Prod.mk.injEq] at hs
    obtain ⟨rfl, -⟩ := hs
    exact (exhaustedIn_spec hF hsize hcall).1
  | stats =>
    simp only [limitingIn, stepIn, Option.some.injEq, Prod.mk.injEq] at hs
    obtain ⟨rfl, -⟩ := hs
    exact hsize

end DTwin.Limiter
