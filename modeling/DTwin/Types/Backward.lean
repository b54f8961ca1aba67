import DTwin.Types.Budget

/-!
# DTwin.Types.Backward — a clock that steps back

`packages/types/src/limiter.ts`, the clock reading anything at each call.  `#refill` takes care not to add tokens for a
negative time, but it sets `updatedAt` back with the clock, so that the next forward step refills the same seconds
again (`seconds_twice`).  A bucket that is only refilled at readings from its last one on is not affected, whatever
other keys see: if every call finds such a bucket, or reads the latest time so far, or is the first for its key, each
key is admitted a burst and what is refilled from the first reading to the latest (`capped_of_abreast`).
-/

namespace DTwin.Limiter

open OrderedMap TokenBucket Machine

variable {κ : Type} [DecidableEq κ]

/-- What the clock has read. -/
def readings (h : List (Obs κ)) : List ℚ := h.filterMap Obs.now?

/-- Each key is admitted at most a burst and what is refilled between the first and the latest reading. -/
def Capped (opt : Options) (h : List (Obs κ)) : Prop :=
  ∀ first rest, readings h = first :: rest → ∀ key,
    ((admittedOf key h).map Prod.snd).sum ≤ opt.burst + opt.ratePerS * (rest.foldl max first - first) / 1000

def Obs.key? : Obs κ → Option κ
  | .took key _ _ _ _ => some key
  | .peeked key _ _ _ => some key
  | .stats _ => none

/-- The call is the first for its key, not before the first reading, and there is room for a bucket. -/
def Newcomer (opt : Options) (s : Sys κ) (h : List (Obs κ)) (key : κ) (now : ℚ) : Prop :=
  s.buckets.get? key = none ∧ s.buckets.size < opt.maxKeys ∧ (∀ x ∈ h, x.key? ≠ some key) ∧
    ∀ first ∈ (readings h).head?, first ≤ now

/-- The reading is the latest, or not before the last one of the key's own bucket, or the key is new. -/
def Abreast (opt : Options) (s : Sys κ) (h : List (Obs κ)) : Act κ → Prop
  | .take key _ now =>
    After h now ∨ (∃ held ∈ s.buckets.get? key, held.updatedAt ≤ now) ∨ Newcomer opt s h key now
  | .exhausted _ _ now => After h now
  | .stats => True

/-! ## The account of a key that has a bucket -/

/-- From its last reading on, the key's own bucket has no more than the credit of the key. -/
structure OwnMetered (opt : Options) (l shared : List (ℚ × ℚ)) (b : Bucket ℚ) : Prop where
  admitted : Admitted opt l b.updatedAt
  level : ∀ τ, b.updatedAt ≤ τ → level opt.burst opt.ratePerMs b τ ≤ credit opt.burst opt.ratePerMs l τ ∧
    credit opt.burst opt.ratePerMs shared τ = opt.burst

/-- Every key is metered from the latest reading on, those with a bucket from its last one on; and nothing happened
before the first reading. -/
structure Accounted (opt : Options) (s : Sys κ) (h : List (Obs κ)) : Prop where
  metered : AllMetered opt s h
  own : ∀ key b, s.buckets.get? key = some b → OwnMetered opt (admittedOf key h) (sharedOf key h) b
  started : ∀ key b, s.buckets.get? key = some b → ∃ first ∈ (readings h).head?, first ≤ b.updatedAt
  admitted : ∀ key, ∀ e ∈ admittedOf key h, ∃ first ∈ (readings h).head?, first ≤ e.1

variable {opt : Options} {s s' : Sys κ} {h : List (Obs κ)} {key : κ} {now : ℚ} {l shared : List (ℚ × ℚ)}

theorem Admitted.later (hA : Admitted opt l now) {now' : ℚ} (hnow : now ≤ now') : Admitted opt l now' :=
  ⟨hA.sorted, fun e he => (hA.until_now e he).trans hnow, hA.bounded⟩

/-- A bucket last refilled at `now` is metered from `now` on. -/
theorem Metered.ownMetered (hM : Metered opt key s l shared now) {b : Bucket ℚ}
    (hb : s.buckets.get? key = some b) (hnow : b.updatedAt = now) : OwnMetered opt l shared b := by
  subst hnow
  exact ⟨hM.admitted, (hM.own b hb).2⟩

/-- The key's own bucket pays, or refuses. -/
theorem OwnMetered.pays {b : Bucket ℚ} (hO : OwnMetered opt l shared b) (hnow : b.updatedAt ≤ now) {cost : ℚ}
    (hcost : cost ≤ (opt.refill now b).tokens) :
    OwnMetered opt (l ++ [(now, cost)]) shared (spend cost (opt.refill now b)) := by
  have hle := (hO.level now hnow).1
  rw [refill_eq] at hcost
  refine ⟨(hO.admitted.later hnow).snoc (hcost.trans hle), fun τ hτ => ⟨?_, (hO.level τ (hnow.trans hτ)).2⟩⟩
  rw [credit_snoc]
  exact level_spend_le hle cost hτ

theorem OwnMetered.refuses {b : Bucket ℚ} (hO : OwnMetered opt l shared b) (hnow : b.updatedAt ≤ now) :
    OwnMetered opt l shared (opt.refill now b) := by
  refine ⟨hO.admitted.later hnow, fun τ hτ => ?_⟩
  have hτ' : now ≤ τ := hτ
  rw [refill_eq, level_refill opt.ratePerMs_nonneg hnow hτ']
  exact hO.level τ (hnow.trans hτ')

/-- A bucket made for a key that was never admitted anything. -/
theorem ownMetered_new (opt : Options) (now : ℚ) : OwnMetered opt [] [] ⟨opt.burst, now⟩ :=
  ⟨⟨List.Pairwise.nil, nofun, bounded_nil opt.burst_pos.le opt.ratePerMs_nonneg⟩, fun τ _ => ⟨level_le _ τ, rfl⟩⟩

/-! ## One call -/

omit [DecidableEq κ] in
theorem readings_snoc {x : Obs κ} (hx : x.now? = some now) : readings (h ++ [x]) = readings h ++ [now] := by
  rw [readings, List.filterMap_append, readings]
  simp [hx]

omit [DecidableEq κ] in
/-- The first reading stays the first. -/
theorem head_snoc {x : Obs κ} (hx : x.now? = some now) {τ : ℚ} (hτ : ∃ first ∈ (readings h).head?, first ≤ τ) :
    ∃ first ∈ (readings (h ++ [x])).head?, first ≤ τ := by
  obtain ⟨first, hfirst, hle⟩ := hτ
  refine ⟨first, ?_, hle⟩
  rw [readings_snoc hx, List.head?_append, Option.mem_def.mp hfirst]
  rfl

omit [DecidableEq κ] in
/-- A reading that is not before the first, or is the first. -/
theorem head_now {x : Obs κ} (hx : x.now? = some now) (hfirst : ∀ first ∈ (readings h).head?, first ≤ now) :
    ∃ first ∈ (readings (h ++ [x])).head?, first ≤ now := by
  rw [readings_snoc hx, List.head?_append]
  cases hhead : (readings h).head? with
  | none => exact ⟨now, rfl, le_rfl⟩
  | some first => exact ⟨first, rfl, hfirst first hhead⟩

omit [DecidableEq κ] in
theorem After.first (hafter : After h now) : ∀ first ∈ (readings h).head?, first ≤ now := by
  intro first hfirst
  obtain ⟨x, hx, hxnow⟩ := List.mem_filterMap.mp (List.mem_of_mem_head? hfirst)
  exact hafter x hx first hxnow

/-- What a call admits is at its reading. -/
theorem admits_at {x : Obs κ} (hx : x.now? = some now) : ∀ e ∈ x.admits key, e.1 = now := by
  cases x with
  | took key' cost now' place result =>
    obtain rfl := Option.some.inj hx
    cases result with
    | ok =>
      intro e he
      simp only [Obs.admits] at he
      split_ifs at he
      · rw [List.mem_singleton.mp he]
      · cases he
    | refused w => exact nofun
  | peeked _ _ _ _ => exact nofun
  | stats _ => cases hx

/-- A call admits nothing for other keys. -/
theorem silent_of_key {x : Obs κ} (hx : x.key? ≠ some key) : x.admits key = [] ∧ x.shares key = [] := by
  cases x with
  | took key' cost now' place result =>
    have hne : ¬ key' = key := fun heq => hx (congrArg some heq)
    cases result with
    | ok => cases place <;> simp [hne]
    | refused w => cases place <;> exact ⟨rfl, rfl⟩
  | peeked _ _ _ _ => exact ⟨rfl, rfl⟩
  | stats _ => exact ⟨rfl, rfl⟩

/-- The call's own bucket is put, at its reading, and nothing else changes. -/
theorem Accounted.put (hI : Accounted opt s h) {x : Obs κ} {place : Place} (hplace : place ≠ .shared)
    (hx : x.now? = some now) (hfirst : ∀ first ∈ (readings h).head?, first ≤ now) {b : Bucket ℚ}
    (hb : b.updatedAt = now) (hO : OwnMetered opt (admittedOf key (h ++ [x])) (sharedOf key (h ++ [x])) b)
    (hshares : x.shares key = []) (hother : ∀ key', key' ≠ key → x.admits key' = [] ∧ x.shares key' = [])
    (hbuckets : s'.buckets = (s.put key place b).buckets) (hover : s'.overflow = s.overflow) :
    Accounted opt s' (h ++ [x]) := by
  have hget := fun key' => (put_own s key key' hplace b).1
  have hput : (s.put key place b).overflow = s.overflow := (put_own s key key hplace b).2
  have hlists : ∀ key', key' ≠ key → admittedOf key' (h ++ [x]) = admittedOf key' h ∧
      sharedOf key' (h ++ [x]) = sharedOf key' h := by
    intro key' hne
    rw [admittedOf_snoc, sharedOf_snoc, (hother key' hne).1, (hother key' hne).2, List.append_nil, List.append_nil]
    exact ⟨rfl, rfl⟩
  refine ⟨fun key' τ hτ => ?_, fun key' b' hb' => ?_, fun key' b' hb' => ?_, fun key' e he => ?_⟩
  · obtain ⟨hτ', hnow⟩ := after_snoc hτ
    refine Metered.congr (s := s.put key place b) ?_ (by rw [hbuckets]) (hover.trans hput.symm)
    by_cases hkey : key' = key
    · subst hkey
      have hM := hI.metered key' τ hτ'
      have hle : b.updatedAt ≤ τ := hb.trans_le (hnow now hx)
      rw [sharedOf_snoc, hshares, List.append_nil]
      rw [sharedOf_snoc, hshares, List.append_nil] at hO
      exact hM.putOwn (hO.admitted.later hle) place hplace hle fun τ' hτ' => hO.level τ' (hle.trans hτ')
    · rw [(hlists key' hkey).1, (hlists key' hkey).2]
      exact (hI.metered key' τ hτ').putOther (fun heq => hkey heq.symm) place hplace b
  · rw [hbuckets, hget] at hb'
    split_ifs at hb' with hkey
    · obtain rfl := Option.some.inj hb'
      subst hkey
      exact hO
    · have hne : key' ≠ key := fun heq => hkey heq.symm
      rw [(hlists key' hne).1, (hlists key' hne).2]
      exact hI.own key' b' hb'
  · rw [hbuckets, hget] at hb'
    split_ifs at hb' with hkey
    · obtain rfl := Option.some.inj hb'
      rw [hb]
      exact head_now hx hfirst
    · exact head_snoc hx (hI.started key' b' hb')
  · rw [admittedOf_snoc] at he
    rcases List.mem_append.mp he with he | he
    · exact head_snoc hx (hI.admitted key' e he)
    · rw [admits_at hx e he]
      exact head_now hx hfirst

/-- A call at the latest reading, which changes no bucket but at that reading. -/
theorem Accounted.forward (hI : Accounted opt s h) {x : Obs κ} (hx : x.now? = some now) (hafter : After h now)
    (hM : AllMetered opt s' (h ++ [x])) (htouches : ∀ key b, s'.buckets.get? key = some b →
      b.updatedAt = now ∨ (s.buckets.get? key = some b ∧ x.admits key = [] ∧ x.shares key = [])) :
    Accounted opt s' (h ++ [x]) := by
  have hnow : After (h ++ [x]) now := by
    intro y hy now' hnow'
    rcases List.mem_append.mp hy with hy | hy
    · exact hafter y hy now' hnow'
    · rw [List.mem_singleton.mp hy, hx] at hnow'
      exact (Option.some.inj hnow').ge
  refine ⟨hM, fun key b hb => ?_, fun key b hb => ?_, fun key e he => ?_⟩
  · rcases htouches key b hb with hb' | ⟨hb', hadmits, hshares⟩
    · exact (hM key now hnow).ownMetered hb hb'
    · rw [admittedOf_snoc, sharedOf_snoc, hadmits, hshares, List.append_nil, List.append_nil]
      exact hI.own key b hb'
  · rcases htouches key b hb with hb' | ⟨hb', -, -⟩
    · rw [hb']
      exact head_now hx hafter.first
    · exact head_snoc hx (hI.started key b hb')
  · rw [admittedOf_snoc] at he
    rcases List.mem_append.mp he with he | he
    · exact head_snoc hx (hI.admitted key e he)
    · rw [admits_at hx e he]
      exact head_now hx hafter.first

theorem makeRoom_touches {b : Bucket ℚ} (hb : (s.makeRoom opt now).buckets.get? key = some b) :
    b.updatedAt = now ∨ s.buckets.get? key = some b := by
  rw [makeRoom_def] at hb
  split_ifs at hb
  · rw [get?_sweep] at hb
    obtain ⟨b₀, -, hb₀⟩ := Option.bind_eq_some_iff.mp hb
    split_ifs at hb₀
    rw [← Option.some.inj hb₀]
    exact Or.inl rfl
  · exact Or.inr hb

/-- The bucket a call of `take` is answered from is at its reading. -/
theorem bucket_updatedAt (s : Sys κ) (opt : Options) (now : ℚ) (key : κ) :
    (s.bucket opt now key).2.2.updatedAt = now := by
  obtain ⟨held, -, hbucket⟩ | ⟨-, -, hbucket⟩ | ⟨-, -, hbucket⟩ := bucket_cases s opt now key
  · rw [hbucket]
    rfl
  · rw [hbucket]
  · rw [hbucket]
    rfl

/-- A call of `take` puts a bucket of its reading where its bucket is. -/
theorem take_puts {cost : ℚ≥0} {s₁ : Sys κ} {place place' : Place} {b : Bucket ℚ} {result : LimitResult}
    (hbucket : s.bucket opt now key = (s₁, place, b)) (htake : s.take opt now key cost = (s', place', result)) :
    place' = place ∧ ∃ b', b'.updatedAt = now ∧ s'.buckets = (s₁.put key place b').buckets ∧
      s'.overflow = (s₁.put key place b').overflow := by
  have hnow : b.updatedAt = now := by
    have hupdated := bucket_updatedAt s opt now key
    rwa [hbucket] at hupdated
  obtain ⟨hplace, ⟨-, -, rfl⟩ | ⟨w, n, -, rfl⟩⟩ := take_cases hbucket htake
  · exact ⟨hplace, spend cost b, hnow, rfl, rfl⟩
  · exact ⟨hplace, b, hnow, rfl, rfl⟩

theorem take_touches {key' : κ} {cost : ℚ≥0} {place : Place} {result : LimitResult}
    (htake : s.take opt now key' cost = (s', place, result)) {b : Bucket ℚ} (hb : s'.buckets.get? key = some b) :
    b.updatedAt = now ∨ (s.buckets.get? key = some b ∧ key' ≠ key) := by
  obtain ⟨held, -, hbucket⟩ | ⟨hnone, -, hbucket⟩ | ⟨hnone, -, hbucket⟩ := bucket_cases s opt now key'
  · obtain ⟨-, b', hb', hbuckets, -⟩ := take_puts hbucket htake
    rw [hbuckets, (put_own s key' key (by decide : Place.own ≠ .shared) b').1] at hb
    split_ifs at hb with hkey
    · rw [← Option.some.inj hb]
      exact Or.inl hb'
    · exact Or.inr ⟨hb, hkey⟩
  · obtain ⟨-, b', hb', hbuckets, -⟩ := take_puts hbucket htake
    rw [hbuckets, (put_own (s.makeRoom opt now) key' key (by decide : Place.created ≠ .shared) b').1] at hb
    split_ifs at hb with hkey
    · rw [← Option.some.inj hb]
      exact Or.inl hb'
    · exact (makeRoom_touches hb).imp_right fun hb => ⟨hb, hkey⟩
  · obtain ⟨-, b', hb', hbuckets, -⟩ := take_puts hbucket htake
    rw [hbuckets] at hb
    refine (makeRoom_touches hb).imp_right fun hb => ⟨hb, ?_⟩
    rintro rfl
    rw [hnone] at hb
    cases hb

theorem Accounted.take (hI : Accounted opt s h) {key' : κ} {cost : ℚ≥0} {place : Place} {result : LimitResult}
    (hC : Abreast opt s h (.take key' cost now)) (hR : Repaid opt s h (.take key' cost now))
    (htake : s.take opt now key' cost = (s', place, result)) :
    Accounted opt s' (h ++ [.took key' cost now place result]) := by
  have hother : ∀ key, key ≠ key' → (Obs.took key' cost now place result).admits key = [] ∧
      (Obs.took key' cost now place result).shares key = [] :=
    fun key hne => silent_of_key fun heq => hne (Option.some.inj heq).symm
  have hshares : place ≠ .shared → (Obs.took key' cost now place result).shares key' = [] := by
    intro hplace
    cases result with
    | ok =>
      cases place with
      | shared => exact absurd rfl hplace
      | own => rfl
      | created => rfl
    | refused w => cases place <;> rfl
  rcases hC with hafter | ⟨held, hheld, hupdated⟩ | ⟨hnone, hspace, hnew, hfirst⟩
  · have hs : (limiting κ opt).step s (.take key' cost now) = some (s', [.took key' cost now place result]) := by
      simp only [limiting, Limiter.step, htake]
    refine hI.forward rfl hafter (hI.metered.step
      ⟨show Forward h (.take key' cost now) from hafter, hR⟩ hs) fun key b hb => ?_
    refine (take_touches htake hb).imp_right fun hb => ⟨hb.1, hother key fun heq => hb.2 heq.symm⟩
  · -- the key's own bucket, at a reading that may be behind others
    have hO := hI.own key' held hheld
    have hfirst : ∀ first ∈ (readings h).head?, first ≤ now := by
      intro first hmem
      obtain ⟨first', hmem', hle⟩ := hI.started key' held hheld
      obtain rfl := Option.some.inj (hmem.symm.trans hmem')
      exact hle.trans hupdated
    have hbucket : s.bucket opt now key' = (s, .own, opt.refill now held) := by rw [bucket_def, Option.mem_def.mp hheld]
    obtain ⟨rfl, ⟨hcost, rfl, rfl⟩ | ⟨w, n, rfl, rfl⟩⟩ := take_cases hbucket htake
    · refine hI.put (by decide : Place.own ≠ .shared) rfl hfirst (b := spend cost (opt.refill now held)) rfl ?_
        (hshares (by decide))
        hother rfl rfl
      simpa using hO.pays hupdated hcost
    · refine hI.put (by decide : Place.own ≠ .shared) rfl hfirst (b := opt.refill now held) rfl ?_
        (hshares (by decide)) hother rfl rfl
      simpa using hO.refuses hupdated
  · -- a key that nothing is known of
    have hroom : s.makeRoom opt now = s := by rw [makeRoom_def, if_neg (Nat.not_le.mpr hspace)]
    have hbucket : s.bucket opt now key' = (s, .created, ⟨opt.burst, now⟩) := by
      simp only [bucket_def, hnone, hroom, if_neg (Nat.not_le.mpr hspace)]
    have hlists : admittedOf key' h = [] ∧ sharedOf key' h = [] :=
      ⟨List.flatMap_eq_nil_iff.mpr fun x hx => (silent_of_key (hnew x hx)).1,
        List.flatMap_eq_nil_iff.mpr fun x hx => (silent_of_key (hnew x hx)).2⟩
    have hO : OwnMetered opt (admittedOf key' h) (sharedOf key' h) ⟨opt.burst, now⟩ := by
      rw [hlists.1, hlists.2]
      exact ownMetered_new opt now
    obtain ⟨rfl, ⟨hcost, rfl, rfl⟩ | ⟨w, n, rfl, rfl⟩⟩ := take_cases hbucket htake
    · refine hI.put (by decide : Place.created ≠ .shared) rfl hfirst (b := spend cost ⟨opt.burst, now⟩) rfl ?_
        (hshares (by decide))
        hother rfl rfl
      have henough : (cost : ℚ) ≤ (opt.refill now ⟨opt.burst, now⟩).tokens := by
        rw [refill_full]
        exact hcost
      have hpays := hO.pays le_rfl henough
      rw [refill_full] at hpays
      simpa using hpays
    · refine hI.put (by decide : Place.created ≠ .shared) rfl hfirst (b := ⟨opt.burst, now⟩) rfl ?_
        (hshares (by decide)) hother rfl rfl
      simpa using hO

theorem Accounted.exhausted (hI : Accounted opt s h) {key' : κ} {cost : ℚ≥0} {result : LimitResult}
    (hafter : After h now) (hpeek : s.exhausted opt now key' cost = (s', result)) :
    Accounted opt s' (h ++ [.peeked key' cost now result]) := by
  have hs : (limiting κ opt).step s (.exhausted key' cost now) = some (s', [.peeked key' cost now result]) := by
    simp only [limiting, Limiter.step, hpeek]
  refine hI.forward rfl hafter
    (hI.metered.step ⟨show Forward h (.exhausted key' cost now) from hafter, trivial⟩ hs) fun key b hb => ?_
  obtain ⟨-, rfl, -⟩ | ⟨held, n, hheld, rfl⟩ := exhausted_cases hpeek
  · exact Or.inr ⟨hb, rfl, rfl⟩
  · have hb' : (s.put key' .own (opt.refill now held)).buckets.get? key = some b := hb
    rw [(put_own s key' key (by decide : Place.own ≠ .shared) _).1] at hb'
    split_ifs at hb'
    · rw [← Option.some.inj hb']
      exact Or.inl rfl
    · exact Or.inr ⟨hb', rfl, rfl⟩

theorem Accounted.stats (hI : Accounted opt s h) (view : StatsView) : Accounted opt s (h ++ [.stats view]) := by
  have hreadings : readings (h ++ [Obs.stats view]) = readings h := by simp [readings, Obs.now?]
  have hadmitted : ∀ key, admittedOf key (h ++ [Obs.stats view]) = admittedOf key h := by simp
  have hshared : ∀ key, sharedOf key (h ++ [Obs.stats view]) = sharedOf key h := by simp
  refine ⟨fun key τ hτ => ?_, fun key b hb => ?_, fun key b hb => ?_, fun key e he => ?_⟩
  · rw [hadmitted, hshared]
    exact hI.metered key τ (after_snoc hτ).1
  · rw [hadmitted, hshared]
    exact hI.own key b hb
  · rw [hreadings]
    exact hI.started key b hb
  · rw [hadmitted] at he
    rw [hreadings]
    exact hI.admitted key e he

theorem Accounted.step {a : Act κ} {o : List (Obs κ)} (hI : Accounted opt s h)
    (hC : Abreast opt s h a ∧ Repaid opt s h a) (hs : (limiting κ opt).step s a = some (s', o)) :
    Accounted opt s' (h ++ o) := by
  cases a with
  | take key cost now =>
    obtain ⟨⟨s₁, place, result⟩, htake⟩ : ∃ r, s.take opt now key cost = r := ⟨_, rfl⟩
    simp only [limiting, Limiter.step, htake, Option.some.injEq, Prod.mk.injEq] at hs
    obtain ⟨rfl, rfl⟩ := hs
    exact hI.take hC.1 hC.2 htake
  | exhausted key cost now =>
    obtain ⟨⟨s₁, result⟩, hpeek⟩ : ∃ r, s.exhausted opt now key cost = r := ⟨_, rfl⟩
    simp only [limiting, Limiter.step, hpeek, Option.some.injEq, Prod.mk.injEq] at hs
    obtain ⟨rfl, rfl⟩ := hs
    exact hI.exhausted hC.1 hpeek
  | stats =>
    simp only [limiting, Limiter.step, Option.some.injEq, Prod.mk.injEq] at hs
    obtain ⟨rfl, rfl⟩ := hs
    exact hI.stats _

/-! ## Every run -/

theorem accounted_init (opt : Options) : Accounted opt (.init : Sys κ) [] where
  metered := allMetered_init opt
  own := nofun
  started := nofun
  admitted := nofun

theorem le_foldl_max : ∀ (l : List ℚ) (a : ℚ), ∀ x ∈ a :: l, x ≤ l.foldl max a
  | [], a => fun x hx => by rw [List.mem_singleton.mp hx]; rfl
  | b :: l, a => fun x hx => by
    rw [List.foldl_cons]
    have htop : max a b ≤ l.foldl max (max a b) := le_foldl_max l (max a b) _ List.mem_cons_self
    rcases List.mem_cons.mp hx with rfl | hx
    · exact (le_max_left _ _).trans htop
    · rcases List.mem_cons.mp hx with rfl | hx
      · exact (le_max_right _ _).trans htop
      · exact le_foldl_max l (max a b) x (List.mem_cons_of_mem _ hx)

/-- All of a list of charges is within an interval that has them all. -/
theorem sum_eq_spent {u t : ℚ} {l : List (ℚ × ℚ)} (hl : ∀ e ∈ l, u ≤ e.1 ∧ e.1 ≤ t) :
    (l.map Prod.snd).sum = spent u t l := by
  rw [spent, List.filter_eq_self.mpr fun e he => decide_eq_true (hl e he)]

theorem Accounted.capped (hI : Accounted opt s h) : Capped opt h := by
  intro first rest hreadings key
  have hlatest : After h (rest.foldl max first) := by
    intro x hx now hnow
    refine le_foldl_max rest first now ?_
    rw [← hreadings]
    exact List.mem_filterMap.mpr ⟨x, hx, hnow⟩
  have hM := hI.metered key _ hlatest
  have hwithin : ∀ e ∈ admittedOf key h, first ≤ e.1 ∧ e.1 ≤ rest.foldl max first := by
    intro e he
    obtain ⟨first', hfirst', hle⟩ := hI.admitted key e he
    rw [hreadings] at hfirst'
    obtain rfl := Option.some.inj hfirst'
    exact ⟨hle, hM.admitted.until_now e he⟩
  have hspan : first ≤ rest.foldl max first := le_foldl_max rest first first List.mem_cons_self
  have hbound := hM.admitted.bounded first _ hspan
  have hrate : opt.ratePerMs * (rest.foldl max first - first) =
      opt.ratePerS * (rest.foldl max first - first) / 1000 := by
    rw [Options.ratePerMs]
    ring
  rw [sum_eq_spent hwithin, ← hrate]
  exact hbound

/-- **A clock that steps back grants nothing**, in every run in which each call reads the latest time so far, or finds
its key's own bucket not refilled at a later one, or is the first for its key, and in which buckets are made for keys
that have paid back. -/
theorem capped_of_abreast (opt : Options) (as : List (Act κ))
    (hC : (limiting κ opt).Meets (fun s h a => Abreast opt s h a ∧ Repaid opt s h a) .init [] as) :
    (limiting κ opt).Along (fun _ h => Capped opt h) .init [] as :=
  along_of_meets (fun hI hC hs => hI.step hC hs) (fun hI => hI.capped) (accounted_init opt) hC

instance (opt : Options) (s : Sys κ) (h : List (Obs κ)) (key : κ) (now : ℚ) : Decidable (Newcomer opt s h key now) :=
  inferInstanceAs (Decidable (_ ∧ _ ∧ (∀ _ ∈ _, _) ∧ ∀ _ ∈ _, _))

instance (opt : Options) (s : Sys κ) (h : List (Obs κ)) : DecidablePred (Abreast opt s h)
  | .take _ _ _ => inferInstanceAs (Decidable (_ ∨ (∃ held ∈ s.buckets.get? _, _) ∨ _))
  | .exhausted _ _ now => inferInstanceAs (Decidable (After h now))
  | .stats => isTrue trivial

/-- A burst of 3, one token per second, and room for many keys. -/
def manyKeys : Options := { oneKey with maxKeys := 1000, maxKeys_pos := Nat.succ_pos _ }

/-- The clock is set back by half a second, between the calls of other keys. -/
def setBackRun : List (Act String) :=
  [.take "10.0.0.1" wholeBurst 10000, .take "10.0.0.2" 1 12000, .take "10.0.0.1" 1 11500, .take "10.0.0.3" 1 11600,
    .take "10.0.0.1" 1 12600]

theorem capped_of_abreast_setBackRun :
    (limiting String manyKeys).Along (fun _ h => Capped manyKeys h) .init [] setBackRun :=
  capped_of_abreast manyKeys setBackRun (by decide +kernel)

/-- The clock is set back by ten seconds, a call is refused, and it is set right again. -/
def twiceRun : List (Act String) :=
  [.take "10.0.0.1" wholeBurst 10000, .take "10.0.0.1" 1 0, .take "10.0.0.1" wholeBurst 10000]

theorem twiceRun_isSome : ((limiting String manyKeys).exec .init twiceRun).isSome = true := by decide +kernel

/-- The seconds between the two readings are refilled though they had passed before. -/
theorem seconds_twice : ∃ s h, (limiting String manyKeys).exec .init twiceRun = some (s, h) ∧ ¬ Capped manyKeys h := by
  let r := ((limiting String manyKeys).exec .init twiceRun).get twiceRun_isSome
  refine ⟨r.1, r.2, (Option.some_get twiceRun_isSome).symm, fun hcapped => ?_⟩
  have hreadings : readings r.2 = [10000, 0, 10000] := by decide +kernel
  have htotal : ((admittedOf "10.0.0.1" r.2).map Prod.snd).sum = 6 := by decide +kernel
  have hbound := hcapped 10000 [0, 10000] hreadings "10.0.0.1"
  rw [htotal] at hbound
  norm_num [manyKeys, oneKey] at hbound

end DTwin.Limiter
