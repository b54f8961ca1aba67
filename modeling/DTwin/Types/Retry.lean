import DTwin.Types.Swept

/-!
# DTwin.Types.Retry — is it worth coming back?

`packages/types/src/limiter.ts`, reckoning in doubles.  A key that is refused and comes back when it was told to is
admitted, with two reservations (`honest_retry`).  In the meantime its bucket may have been swept and the map have
filled with keys that are mid-burst, so that it is answered from the bucket that newcomers share
(`turned_away_again`).  And each refill is rounded: a bucket that is asked often may be short by an ulp at the moment
announced, and has the tokens soon after it (`loses_nearest`).
-/

namespace DTwin.Limiter

open OrderedMap TokenBucket Machine

variable {κ : Type} [DecidableEq κ]

/-! ## What a refill loses -/

/-- A refill of the bucket loses at most so many tokens to rounding. -/
def Loses (rnd : ℚ → ℚ) (opt : Options) (loss : ℚ) (b : Bucket ℚ) (τ : ℚ) : Prop :=
  min opt.burst (b.tokens + max 0 (τ - b.updatedAt) * opt.ratePerMs - loss) ≤ (opt.refillIn rnd τ b).tokens

/-- Settings that are not beyond all measure. -/
structure Options.Ordinary (opt : Options) : Prop where
  isDouble : IsDouble opt.burst
  burst_ge : 2 ^ (-1000 : ℤ) ≤ opt.burst
  rate_le : opt.ratePerS ≤ 2 ^ (1000 : ℤ) * opt.burst

section Rounding

variable {opt : Options}

/-- Half of the smallest double is nothing beside the burst. -/
theorem Options.Ordinary.tiny (hopt : opt.Ordinary) :
    2 ^ (-1075 : ℤ) * opt.ratePerS ≤ opt.burst / 2 ^ 75 ∧ (2 : ℚ) ^ (-1075 : ℤ) ≤ opt.burst / 2 ^ 75 := by
  have hsplit : (2 : ℚ) ^ (-1075 : ℤ) * 2 ^ 75 = 2 ^ (-1000 : ℤ) := by
    rw [← zpow_natCast, ← zpow_add₀ two_ne_zero]
    norm_num
  have hone : (2 : ℚ) ^ (-1000 : ℤ) * 2 ^ (1000 : ℤ) = 1 := by
    rw [← zpow_add₀ two_ne_zero]
    norm_num
  have hpos : (0 : ℚ) ≤ 2 ^ (-1075 : ℤ) := (zpow_pos two_pos _).le
  constructor
  · rw [le_div_iff₀ (by positivity)]
    calc 2 ^ (-1075 : ℤ) * opt.ratePerS * 2 ^ 75 = 2 ^ (-1075 : ℤ) * 2 ^ 75 * opt.ratePerS := by ring
      _ = 2 ^ (-1000 : ℤ) * opt.ratePerS := by rw [hsplit]
      _ ≤ 2 ^ (-1000 : ℤ) * (2 ^ (1000 : ℤ) * opt.burst) :=
        mul_le_mul_of_nonneg_left hopt.rate_le (zpow_pos two_pos _).le
      _ = opt.burst := by rw [← mul_assoc, hone, one_mul]
  · rw [le_div_iff₀ (by positivity), hsplit]
    exact hopt.burst_ge

/-- **What a refill loses** in doubles: less than a part in `2 ^ 49` of the burst. -/
theorem loses_nearest (hopt : opt.Ordinary) {b : Bucket ℚ} (hb : 0 ≤ b.tokens) (τ : ℚ) :
    Loses Double.nearest opt (opt.burst / 2 ^ 49) b τ := by
  obtain ⟨hslow, hsmall⟩ := hopt.tiny
  have hrate := opt.ratePerS_pos.le
  have hburst := opt.burst_pos
  set δ : ℚ := 2 ^ (-1075 : ℤ)
  have hδ : 0 ≤ δ := (zpow_pos two_pos _).le
  have hδrate : 0 ≤ δ * opt.ratePerS := mul_nonneg hδ hrate
  -- the four operations, one after the other
  have hspan : max 0 (τ - b.updatedAt) - (max 0 (τ - b.updatedAt) / 2 ^ 53 + δ) ≤
      max 0 (Double.nearest (τ - b.updatedAt)) := by
    rcases le_total 0 (τ - b.updatedAt) with hpos | hneg
    · rw [max_eq_right hpos]
      exact (Double.le_nearest hpos).trans (le_max_right _ _)
    · rw [max_eq_left hneg]
      exact le_trans (by linarith) (le_max_left _ _)
  have hspan0 : 0 ≤ max 0 (τ - b.updatedAt) := le_max_left _ _
  have hin0 : 0 ≤ max 0 (Double.nearest (τ - b.updatedAt)) := le_max_left _ _
  set span := max 0 (τ - b.updatedAt)
  set ms := max 0 (Double.nearest (τ - b.updatedAt))
  have hms0 : 0 ≤ ms / 1000 := div_nonneg hin0 (by norm_num)
  have hseconds := Double.le_nearest hms0
  have hseconds0 := Double.nearest_nonneg hms0
  set seconds := Double.nearest (ms / 1000)
  have hinflow0 : 0 ≤ seconds * opt.ratePerS := mul_nonneg hseconds0 hrate
  have hinflow := Double.le_nearest hinflow0
  have hinflowNonneg := Double.nearest_nonneg hinflow0
  set inflow := Double.nearest (seconds * opt.ratePerS)
  have hsum := Double.le_nearest (add_nonneg hb hinflowNonneg)
  have hmsrate := mul_le_mul_of_nonneg_right hspan hrate
  have hsecondsrate := mul_le_mul_of_nonneg_right hseconds hrate
  have hexact : span * opt.ratePerMs = span * opt.ratePerS / 1000 := by
    rw [Options.ratePerMs]
    ring
  have hexact0 : 0 ≤ span * opt.ratePerS := mul_nonneg hspan0 hrate
  have hms' : 0 ≤ ms * opt.ratePerS := mul_nonneg hin0 hrate
  unfold Loses
  rw [hexact]
  show _ ≤ min opt.burst (Double.nearest (b.tokens + inflow))
  refine le_min (min_le_left _ _) ?_
  rcases le_total (b.tokens + span * opt.ratePerS / 1000) (2 * opt.burst) with hle | hge
  · refine (min_le_right _ _).trans ?_
    linarith
  · refine (min_le_left _ _).trans ?_
    linarith

/-- The wait covers what is missing, but for as little. -/
theorem wait_nearest (hopt : opt.Ordinary) {tokens : ℚ} {cost : ℚ≥0} (htokens : 0 ≤ tokens)
    (hcost : ¬ (cost : ℚ) ≤ tokens) (hburst : (cost : ℚ) ≤ opt.burst) :
    (cost : ℚ) - tokens ≤ opt.waitIn Double.nearest tokens cost * opt.ratePerS + opt.burst / 2 ^ 49 := by
  obtain ⟨hslow, hsmall⟩ := hopt.tiny
  have hrate := opt.ratePerS_pos
  set δ : ℚ := 2 ^ (-1075 : ℤ)
  have hδ : 0 ≤ δ := (zpow_pos two_pos _).le
  have hδrate : 0 ≤ δ * opt.ratePerS := mul_nonneg hδ hrate.le
  have hmissing0 : 0 ≤ (cost : ℚ) - tokens := sub_nonneg.mpr (not_le.mp hcost).le
  have hmissing := Double.le_nearest hmissing0
  have hmissingNonneg := Double.nearest_nonneg hmissing0
  have hquotient := Double.le_nearest (div_nonneg hmissingNonneg hrate.le)
  have hceil : Double.nearest (Double.nearest ((cost : ℚ) - tokens) / opt.ratePerS) ≤
      (opt.waitIn Double.nearest tokens cost : ℚ) := Int.le_ceil _
  have hwait := mul_le_mul_of_nonneg_right (hquotient.trans hceil) hrate.le
  set missing := Double.nearest ((cost : ℚ) - tokens)
  have hdiv : (missing / opt.ratePerS - (missing / opt.ratePerS / 2 ^ 53 + δ)) * opt.ratePerS =
      missing - (missing / 2 ^ 53 + δ * opt.ratePerS) := by
    field_simp
  rw [hdiv] at hwait
  linarith

end Rounding

/-! ## A bucket that is not spent from -/

section Owed

variable {rnd : ℚ → ℚ} {opt : Options} {v t₀ lost loss now τ : ℚ} {b : Bucket ℚ}

/-- The bucket had `v` tokens at `t₀`, and has not been spent from since; so many have been lost. -/
structure Owed (opt : Options) (v t₀ lost : ℚ) (b : Bucket ℚ) : Prop where
  since : t₀ ≤ b.updatedAt
  enough : min opt.burst (v + (b.updatedAt - t₀) * opt.ratePerMs - lost) ≤ b.tokens

theorem Owed.full (hnow : t₀ ≤ now) : Owed opt v t₀ lost ⟨opt.burst, now⟩ := ⟨hnow, min_le_left _ _⟩

theorem Owed.more (hO : Owed opt v t₀ lost b) (hloss : 0 ≤ loss) : Owed opt v t₀ (lost + loss) b :=
  ⟨hO.since, (min_le_min_left _ (by linarith)).trans hO.enough⟩

theorem Owed.refill (hF : Fair opt rnd) (hO : Owed opt v t₀ lost b) (hτ : b.updatedAt ≤ τ)
    (hloses : Loses rnd opt loss b τ) : Owed opt v t₀ (lost + loss) (opt.refillIn rnd τ b) := by
  refine ⟨hO.since.trans hτ, ?_⟩
  show min opt.burst (v + (τ - t₀) * opt.ratePerMs - (lost + loss)) ≤ (opt.refillIn rnd τ b).tokens
  rcases min_le_iff.mp hO.enough with hfull | hshort
  · rw [hF.refillIn_full τ hfull]
    exact min_le_left _ _
  · refine le_trans (min_le_min_left _ ?_) hloses
    rw [max_eq_right (sub_nonneg.mpr hτ)]
    linarith

end Owed

/-! ## From the refusal to the retry -/

/-- A call at `now` that was refused, the bucket that answered it being at `place`, and told to come back after `w`
seconds. -/
inductive Refuses (key : κ) (cost : ℚ≥0) (now : ℚ) (w : ℤ) : Place → Obs κ → Prop
  | take (place : Place) : Refuses key cost now w place (.took key cost now place (.refused (some w)))
  | exhausted : Refuses key cost now w .own (.peeked key cost now (.refused (some w)))

/-- A spend from the bucket that answered a call of `key`. -/
def Obs.Spends (place : Place) (key : κ) : Obs κ → Prop
  | .took key' cost _ place' .ok => 0 < cost ∧ Same place key place' key'
  | _ => False

/-- The last reading. -/
def lastReading : ℚ → List (Act κ) → ℚ
  | now, [] => now
  | _, .take _ _ next :: as => lastReading next as
  | _, .exhausted _ _ next :: as => lastReading next as
  | now, .stats :: as => lastReading now as

omit [DecidableEq κ] in
theorem forwardFrom_append : ∀ (as bs : List (Act κ)) (now : ℚ),
    ForwardFrom now (as ++ bs) ↔ ForwardFrom now as ∧ ForwardFrom (lastReading now as) bs
  | [], bs, now => (and_iff_right trivial).symm
  | .take _ _ next :: as, bs, now => by
    simp only [List.cons_append, ForwardFrom, lastReading, forwardFrom_append as bs next, and_assoc]
  | .exhausted _ _ next :: as, bs, now => by
    simp only [List.cons_append, ForwardFrom, lastReading, forwardFrom_append as bs next, and_assoc]
  | .stats :: as, bs, now => by
    simp only [List.cons_append, ForwardFrom, lastReading, forwardFrom_append as bs now]

/-- At each reading of a run a refill of the bucket loses at most so many tokens. -/
def Within (rnd : ℚ → ℚ) (opt : Options) (loss : ℚ) (place : Place) (key : κ) : Sys κ → List (Act κ) → Prop
  | _, [] => True
  | s, a :: as => (∀ τ, a.clock = some τ → ∀ b, s.bucketAt place key = some b → Loses rnd opt loss b τ) ∧
    ∀ s' o, (limitingIn rnd κ opt).step s a = some (s', o) → Within rnd opt loss place key s' as

section Ripe

variable {rnd : ℚ → ℚ} {opt : Options} {v t₀ lost loss now : ℚ} {place : Place} {key : κ} {cost : ℚ≥0} {s s' : Sys κ}

/-- The bucket at a place, if it is there, has not been spent from since `t₀`. -/
structure Ripe (opt : Options) (v t₀ lost : ℚ) (place : Place) (key : κ) (s : Sys κ) (now : ℚ) : Prop where
  since : t₀ ≤ now
  buckets : ∀ b, s.bucketAt place key = some b → b.updatedAt ≤ now ∧ Owed opt v t₀ lost b

theorem Ripe.later (hR : Ripe opt v t₀ lost place key s now) {now' : ℚ} (hnow : now ≤ now') :
    Ripe opt v t₀ lost place key s now' :=
  ⟨hR.since.trans hnow, fun b hb => ⟨(hR.buckets b hb).1.trans hnow, (hR.buckets b hb).2⟩⟩

theorem Ripe.more (hR : Ripe opt v t₀ lost place key s now) (hloss : 0 ≤ loss) :
    Ripe opt v t₀ (lost + loss) place key s now :=
  ⟨hR.since, fun b hb => ⟨(hR.buckets b hb).1, (hR.buckets b hb).2.more hloss⟩⟩

/-- What a call finds is owed as well. -/
theorem Ripe.fresh (hF : Fair opt rnd) (hR : Ripe opt v t₀ lost place key s now)
    (hloses : ∀ b, s.bucketAt place key = some b → Loses rnd opt loss b now) {b : Bucket ℚ}
    (hb : Fresh rnd opt now (s.bucketAt place key) b) : Owed opt v t₀ (lost + loss) b := by
  obtain ⟨b₀, hb₀, rfl⟩ | rfl := hb
  · obtain ⟨hupdated, hO⟩ := hR.buckets b₀ hb₀
    exact hO.refill hF hupdated (hloses b₀ hb₀)
  · exact Owed.full hR.since

/-- A call that does not spend from the bucket. -/
theorem Ripe.call (hF : Fair opt rnd) (hloss : 0 ≤ loss) (hR : Ripe opt v t₀ lost place key s now)
    (hloses : ∀ b, s.bucketAt place key = some b → Loses rnd opt loss b now)
    (hsince : ∀ b, s'.bucketAt place key = some b → Since rnd opt now (s.bucketAt place key) b) :
    Ripe opt v t₀ (lost + loss) place key s' now := by
  refine ⟨hR.since, fun b hb => ?_⟩
  rcases hsince b hb with hkept | hfresh
  · obtain ⟨hupdated, hO⟩ := hR.buckets b hkept
    exact ⟨hupdated, hO.more hloss⟩
  · exact ⟨hfresh.updatedAt.le, hR.fresh hF hloses hfresh⟩

/-- A call of `take` that spends nothing of a bucket. -/
theorem takeIn_keeps (hF : Fair opt rnd) {key' : κ} {place' : Place} {result : LimitResult}
    (htake : s.takeIn rnd opt now key' cost = (s', place', result))
    (hkeep : ¬ (Obs.took key' cost now place' result).Spends place key) {b : Bucket ℚ}
    (hb : s'.bucketAt place key = some b) : Since rnd opt now (s.bucketAt place key) b := by
  rcases takeIn_since hF htake hb with hsince | ⟨rfl, hsame, x, hfresh, -, rfl⟩
  · exact hsince
  · -- a spend of nothing
    have hzero : cost = 0 := by
      by_contra hne
      exact hkeep ⟨pos_iff_ne_zero.mpr hne, hsame⟩
    rw [hzero, NNRat.coe_zero, sub_zero, hfresh.rnd_tokens hF]
    exact Or.inr hfresh

/-- **What a run without spends leaves.**  Each of its calls refills the bucket once at most. -/
theorem Ripe.exec (hF : Fair opt rnd) (hloss : 0 ≤ loss) {as bs : List (Act κ)} {o : List (Obs κ)}
    (hR : Ripe opt v t₀ lost place key s now) (hclock : ForwardFrom now as)
    (hwithin : Within rnd opt loss place key s (as ++ bs))
    (he : (limitingIn rnd κ opt).exec s as = some (s', o)) (hkeep : ∀ y ∈ o, ¬ y.Spends place key) :
    Ripe opt v t₀ (lost + as.length * loss) place key s' (lastReading now as) ∧
      Within rnd opt loss place key s' bs := by
  induction as generalizing s now lost o with
  | nil =>
    obtain ⟨rfl, -⟩ := Prod.mk.inj (Option.some.inj he)
    rw [List.length_nil, Nat.cast_zero, zero_mul, add_zero]
    exact ⟨hR, hwithin⟩
  | cons a as ih =>
    obtain ⟨s₁, o₁, o₂, hs, he', rfl⟩ := exec_cons_iff.mp he
    have hrest : ∀ y ∈ o₂, ¬ y.Spends place key := fun y hy => hkeep y (List.mem_append_right _ hy)
    have hwithin' := hwithin.2 s₁ o₁ hs
    have hlosses : lost + ((a :: as).length : ℕ) * loss = lost + loss + as.length * loss := by
      rw [List.length_cons]
      push_cast
      ring
    rw [hlosses]
    cases a with
    | take key' cost' next =>
      obtain ⟨⟨s₂, place', result⟩, hcall⟩ : ∃ r, s.takeIn rnd opt next key' cost' = r := ⟨_, rfl⟩
      simp only [limitingIn, stepIn, hcall, Option.some.injEq, Prod.mk.injEq] at hs
      obtain ⟨rfl, rfl⟩ := hs
      have hnot : ¬ (Obs.took key' cost' next place' result).Spends place key := hkeep _ (by simp)
      exact ih ((hR.later hclock.1).call hF hloss (hwithin.1 next rfl) fun b hb => takeIn_keeps hF hcall hnot hb)
        hclock.2 hwithin' he' hrest
    | exhausted key' cost' next =>
      obtain ⟨⟨s₂, result⟩, hcall⟩ : ∃ r, s.exhaustedIn rnd opt next key' cost' = r := ⟨_, rfl⟩
      simp only [limitingIn, stepIn, hcall, Option.some.injEq, Prod.mk.injEq] at hs
      obtain ⟨rfl, rfl⟩ := hs
      exact ih ((hR.later hclock.1).call hF hloss (hwithin.1 next rfl) fun b hb => exhaustedIn_since hcall hb)
        hclock.2 hwithin' he' hrest
    | stats =>
      simp only [limitingIn, stepIn, Option.some.injEq, Prod.mk.injEq] at hs
      obtain ⟨rfl, rfl⟩ := hs
      exact ih (hR.more hloss) hclock hwithin' he' hrest

/-- Where a call is answered. -/
theorem bucketIn_place {s₁ : Sys κ} {b : Bucket ℚ} (hbucket : s.bucketIn rnd opt now key = (s₁, place, b)) :
    place = .shared ↔ ¬ s.OwnServedIn rnd opt now key := by
  obtain ⟨held, hheld, hcase⟩ | ⟨hnone, hspace, hcase⟩ | ⟨hnone, hfull, hcase⟩ := bucketIn_cases rnd s opt now key
  · rw [hbucket] at hcase
    simp only [Prod.mk.injEq] at hcase
    obtain ⟨-, rfl, -⟩ := hcase
    exact ⟨nofun, fun h => absurd (Or.inl (by rw [hheld]; rfl)) h⟩
  · rw [hbucket] at hcase
    simp only [Prod.mk.injEq] at hcase
    obtain ⟨-, rfl, -⟩ := hcase
    exact ⟨nofun, fun h => absurd (Or.inr (makeRoom_lt.mp hspace)) h⟩
  · rw [hbucket] at hcase
    simp only [Prod.mk.injEq] at hcase
    obtain ⟨-, rfl, -⟩ := hcase
    refine ⟨fun _ => ?_, fun _ => rfl⟩
    rintro (hsome | hroom)
    · rw [hnone] at hsome
      cases hsome
    · exact absurd (makeRoom_lt.mpr hroom) (not_lt.mpr hfull)

/-- The retry is admitted if it is answered from that bucket. -/
theorem Ripe.take_ok (hF : Fair opt rnd) (hR : Ripe opt v t₀ lost place key s now)
    (hloses : ∀ b, s.bucketAt place key = some b → Loses rnd opt loss b now)
    (hserved : place = .shared ↔ ¬ s.OwnServedIn rnd opt now key) (hburst : (cost : ℚ) ≤ opt.burst)
    (hdue : (cost : ℚ) ≤ v + (now - t₀) * opt.ratePerMs - (lost + loss)) :
    (s.takeIn rnd opt now key cost).2.2 = .ok := by
  obtain ⟨⟨s₁, place', b⟩, hbucket⟩ : ∃ r, s.bucketIn rnd opt now key = r := ⟨_, rfl⟩
  obtain ⟨⟨s', place'', result⟩, htake⟩ : ∃ r, s.takeIn rnd opt now key cost = r := ⟨_, rfl⟩
  have hplaces : place' = .shared ↔ place = .shared := (bucketIn_place hbucket).trans hserved.symm
  have hat : s.bucketAt place' key = s.bucketAt place key := by
    by_cases hshared : place = .shared
    · rw [hshared, hplaces.mpr hshared]
    · rw [bucketAt_own s hshared, bucketAt_own s fun h => hshared (hplaces.mp h)]
  have hfresh := (bucketIn_spec hF hbucket).1
  rw [hat] at hfresh
  have hO := hR.fresh hF hloses hfresh
  have henough := hO.enough
  rw [hfresh.updatedAt] at henough
  have hcost : (cost : ℚ) ≤ b.tokens := (le_min hburst hdue).trans henough
  rw [htake]
  obtain ⟨-, ⟨-, hok, -⟩ | ⟨n, hnot, -⟩⟩ := takeIn_cases hbucket htake
  · exact hok
  · exact absurd hcost hnot

/-- A refusal leaves the bucket with what was not enough. -/
theorem bucket_of_refused (hF : Fair opt rnd) {w : ℤ} {x : Obs κ} {call : Act κ} (hclock : ForwardFrom now [call])
    (hs : (limitingIn rnd κ opt).step s call = some (s', [x])) (hrefuses : Refuses key cost t₀ w place x)
    (hburst : (cost : ℚ) ≤ opt.burst) : lastReading now [call] = t₀ ∧
      ∃ b, s'.bucketAt place key = some b ∧ b.updatedAt = t₀ ∧ ¬ (cost : ℚ) ≤ b.tokens ∧
        w = opt.waitIn rnd b.tokens cost := by
  cases call with
  | take key' cost' next =>
    obtain ⟨⟨s₂, place', result⟩, hcall⟩ : ∃ r, s.takeIn rnd opt next key' cost' = r := ⟨_, rfl⟩
    simp only [limitingIn, stepIn, hcall, Option.some.injEq, Prod.mk.injEq, List.cons.injEq, and_true] at hs
    obtain ⟨rfl, rfl⟩ := hs
    cases hrefuses
    obtain ⟨⟨s₁, place', b⟩, hbucket⟩ : ∃ r, s.bucketIn rnd opt t₀ key = r := ⟨_, rfl⟩
    obtain ⟨rfl, ⟨-, hok, -⟩ | ⟨n, hnot, hresult, rfl⟩⟩ := takeIn_cases hbucket hcall
    · cases hok
    · rw [if_neg (not_lt.mpr hburst)] at hresult
      have hsame : Same place key place key := by
        unfold Same
        split_ifs with hshared
        · exact hshared
        · exact ⟨hshared, rfl⟩
      exact ⟨rfl, b, bucketAt_put_same s₁ hsame b, ((bucketIn_spec hF hbucket).1).updatedAt, hnot,
        Option.some.inj (LimitResult.refused.inj hresult)⟩
  | exhausted key' cost' next =>
    obtain ⟨⟨s₂, result⟩, hcall⟩ : ∃ r, s.exhaustedIn rnd opt next key' cost' = r := ⟨_, rfl⟩
    simp only [limitingIn, stepIn, hcall, Option.some.injEq, Prod.mk.injEq, List.cons.injEq, and_true] at hs
    obtain ⟨rfl, rfl⟩ := hs
    cases hrefuses
    obtain ⟨-, -, hok⟩ | ⟨held, n, -, rfl, hok | ⟨hnot, hresult⟩⟩ := exhaustedIn_cases hcall
    · cases hok
    · cases hok
    · have hsame : Same .own key .own key := by simp [Same]
      exact ⟨rfl, _, bucketAt_put_same s hsame (opt.refillIn rnd t₀ held), rfl, hnot,
        Option.some.inj (LimitResult.refused.inj hresult)⟩
  | stats =>
    simp only [limitingIn, stepIn, Option.some.injEq, Prod.mk.injEq, List.cons.injEq, and_true] at hs
    obtain ⟨-, rfl⟩ := hs
    cases hrefuses

end Ripe

/-! ## The limiter in doubles -/

section Doubles

variable {rnd : ℚ → ℚ} {opt : Options} {now : ℚ} {s s' : Sys κ}

/-- No bucket is overdrawn. -/
def Sys.Solvent (s : Sys κ) : Prop := ∀ place key b, s.bucketAt place key = some b → 0 ≤ b.tokens

theorem solvent_init : (.init : Sys κ).Solvent := by
  intro place key b hb
  unfold Sys.bucketAt at hb
  split_ifs at hb
  · cases hb
  · cases hb

theorem Fresh.nonneg (hF : Fair opt rnd) {old : Option (Bucket ℚ)} (hold : ∀ b, old = some b → 0 ≤ b.tokens)
    {b : Bucket ℚ} (hb : Fresh rnd opt now old b) : 0 ≤ b.tokens := by
  obtain ⟨b₀, hb₀, rfl⟩ | rfl := hb
  · exact hF.refillIn_nonneg now (hold b₀ hb₀)
  · exact opt.burst_pos.le

theorem Sys.Solvent.since (hF : Fair opt rnd) (hN : s.Solvent) {place : Place} {key : κ} {b : Bucket ℚ}
    (hb : Since rnd opt now (s.bucketAt place key) b) : 0 ≤ b.tokens := by
  rcases hb with hkept | hfresh
  · exact hN place key b hkept
  · exact hfresh.nonneg hF (hN place key)

theorem Sys.Solvent.step (hF : Fair opt rnd) {a : Act κ} {o : List (Obs κ)} (hN : s.Solvent)
    (hs : (limitingIn rnd κ opt).step s a = some (s', o)) : s'.Solvent := by
  intro place' key' b hb
  cases a with
  | take key cost next =>
    obtain ⟨⟨q, place, result⟩, hcall⟩ : ∃ p, s.takeIn rnd opt next key cost = p := ⟨_, rfl⟩
    simp only [limitingIn, stepIn, hcall, Option.some.injEq, Prod.mk.injEq] at hs
    obtain ⟨rfl, -⟩ := hs
    rcases takeIn_since hF hcall hb with hsince | ⟨-, -, x, hfresh, hcost, rfl⟩
    · exact hN.since hF hsince
    · exact hF.nonneg (sub_nonneg.mpr hcost)
  | exhausted key cost next =>
    obtain ⟨⟨q, result⟩, hcall⟩ : ∃ p, s.exhaustedIn rnd opt next key cost = p := ⟨_, rfl⟩
    simp only [limitingIn, stepIn, hcall, Option.some.injEq, Prod.mk.injEq] at hs
    obtain ⟨rfl, -⟩ := hs
    exact hN.since hF (exhaustedIn_since hcall hb)
  | stats =>
    simp only [limitingIn, stepIn, Option.some.injEq, Prod.mk.injEq] at hs
    obtain ⟨rfl, -⟩ := hs
    exact hN place' key' b hb

/-- In doubles no refill of a run loses more than a part in `2 ^ 49` of the burst. -/
theorem within_nearest (hopt : opt.Ordinary) (place : Place) (key : κ) {as : List (Act κ)} (hN : s.Solvent) :
    Within Double.nearest opt (opt.burst / 2 ^ 49) place key s as := by
  induction as generalizing s with
  | nil => trivial
  | cons a as ih =>
    exact ⟨fun τ _ b hb => loses_nearest hopt (hN place key b hb) τ,
      fun s' o hs => ih (hN.step (fair_nearest hopt.isDouble) hs)⟩

/-- What rounding takes is made up for by coming late: it is at most `loss` in the wait, and at each reading in a refill
of the bucket that is to answer. -/
def MadeUp (opt : Options) (place : Place) (key : κ) (cost : ℚ≥0) (w : ℤ) (s : Sys κ) (as : List (Act κ))
    (due now : ℚ) : Prop :=
  ∃ loss, 0 ≤ loss ∧ (∀ b, s.bucketAt place key = some b → (cost : ℚ) - b.tokens ≤ w * opt.ratePerS + loss) ∧
    Within Double.nearest opt loss place key s as ∧ ((as.length : ℚ) + 1) * loss ≤ (now - due) * opt.ratePerMs

/-- The call comes so late after it is due that no rounding of `n` calls matters. -/
def Late (opt : Options) (n : ℕ) (due now : ℚ) : Prop :=
  ((n : ℚ) + 1) * (opt.burst / 2 ^ 49) ≤ (now - due) * opt.ratePerMs

/-- What is lost is made up for. -/
theorem retry_of_losses (hF : Fair opt rnd) {loss t₀ first : ℚ} (hloss : 0 ≤ loss) {bs : List (Act κ)} {call : Act κ}
    {s₁ s₂ : Sys κ} {o : List (Obs κ)} {x : Obs κ} {key : κ} {cost : ℚ≥0} {place : Place} {w : ℤ}
    (hcall : (limitingIn rnd κ opt).step s call = some (s₁, [x])) (hrefuses : Refuses key cost t₀ w place x)
    (hburst : (cost : ℚ) ≤ opt.burst) (hbs : (limitingIn rnd κ opt).exec s₁ bs = some (s₂, o))
    (hkeep : ∀ y ∈ o, ¬ y.Spends place key) (hclock : ForwardFrom first (call :: (bs ++ [.take key cost now])))
    (hserved : place = .shared ↔ ¬ s₂.OwnServedIn rnd opt now key)
    (hwait : ∀ b, s₁.bucketAt place key = some b → (cost : ℚ) - b.tokens ≤ w * opt.ratePerS + loss)
    (hwithin : Within rnd opt loss place key s₁ (bs ++ [.take key cost now]))
    (hlate : (((bs ++ [Act.take key cost now]).length : ℚ) + 1) * loss ≤ (now - (t₀ + 1000 * w)) * opt.ratePerMs) :
    (s₂.takeIn rnd opt now key cost).2.2 = .ok := by
  have hsplit : call :: (bs ++ [.take key cost now]) = [call] ++ (bs ++ [.take key cost now]) := rfl
  rw [hsplit, forwardFrom_append, forwardFrom_append] at hclock
  obtain ⟨hat, hbetween, hnow⟩ := hclock
  obtain ⟨hlast, b, hb, hupdated, -, -⟩ := bucket_of_refused hF hat hcall hrefuses hburst
  rw [hlast] at hbetween hnow
  have hR : Ripe opt b.tokens t₀ 0 place key s₁ t₀ := by
    refine ⟨le_rfl, fun b' hb' => ?_⟩
    obtain rfl := Option.some.inj (hb.symm.trans hb')
    refine ⟨hupdated.le, hupdated.ge, (min_le_right _ _).trans ?_⟩
    rw [hupdated, sub_self, zero_mul, add_zero, sub_zero]
  obtain ⟨hafter, hlosing⟩ := hR.exec hF hloss hbetween hwithin hbs hkeep
  refine (hafter.later hnow.1).take_ok hF (hlosing.1 now rfl) hserved hburst ?_
  have hmissing := hwait b hb
  have hrate : opt.ratePerS = 1000 * opt.ratePerMs := by
    rw [Options.ratePerMs]
    ring
  rw [hrate] at hmissing
  rw [List.length_append, List.length_singleton] at hlate
  push_cast at hlate
  linarith

/-- **Coming back after the wait.**  A take at a time when the wait of a refusal is over, with no spend in between from
the bucket that answered with the refusal, succeeds if that bucket answers it and rounding does not matter.  **A sweep
changes no result**, if no sweep splits a refill that rounding makes another in two goes. -/
theorem honest_retry (opt : Options) (hopt : opt.Ordinary) :
    (∀ {first t₀ now : ℚ} {as bs : List (Act κ)} {call : Act κ} {s s₁ s₂ : Sys κ} {h o : List (Obs κ)} {x : Obs κ}
      {key : κ} {cost : ℚ≥0} {place : Place} {w : ℤ},
      (limitingIn Double.nearest κ opt).exec .init as = some (s, h) →
      (limitingIn Double.nearest κ opt).step s call = some (s₁, [x]) →
      Refuses key cost t₀ w place x → (cost : ℚ) ≤ opt.burst →
      (limitingIn Double.nearest κ opt).exec s₁ bs = some (s₂, o) → (∀ y ∈ o, ¬ y.Spends place key) →
      ForwardFrom first (as ++ call :: (bs ++ [.take key cost now])) →
      (place = .shared ↔ ¬ s₂.OwnServedIn Double.nearest opt now key) →
      Late opt (bs ++ [Act.take key cost now]).length (t₀ + 1000 * w) now ∨
        MadeUp opt place key cost w s₁ (bs ++ [.take key cost now]) (t₀ + 1000 * w) now →
      (s₂.takeIn Double.nearest opt now key cost).2.2 = .ok) ∧
    ∀ {now : ℚ} {as bs : List (Act κ)} {s s₁ s₂ : Sys κ} {h o o' : List (Obs κ)},
      (limitingIn Double.nearest κ opt).exec .init as = some (s, h) → ForwardFrom now bs →
      s.Splits Double.nearest opt now (clocks bs) → Steady Double.nearest opt s bs →
      Steady Double.nearest opt (s.sweepIn Double.nearest opt now) bs →
      (limitingIn Double.nearest κ opt).exec s bs = some (s₁, o) →
      (limitingIn Double.nearest κ opt).exec (s.sweepIn Double.nearest opt now) bs = some (s₂, o') →
      takesOf o' = takesOf o := by
  have hF := fair_nearest hopt.isDouble
  constructor
  · intro first t₀ now as bs call s s₁ s₂ h o x key cost place w has hcall hrefuses hburst hbs hkeep hclock hserved
      hrounding
    rw [forwardFrom_append] at hclock
    obtain ⟨-, hclock⟩ := hclock
    rcases hrounding with hlate | ⟨loss, hloss, hwait, hwithin, hlate⟩
    · have hpos : 0 ≤ opt.burst / 2 ^ 49 := div_nonneg opt.burst_pos.le (by positivity)
      have hsolvent : s₁.Solvent := (exec_inv (fun hN hs => hN.step hF hs) solvent_init has).step hF hcall
      refine retry_of_losses hF hpos hcall hrefuses hburst hbs hkeep hclock hserved (fun b hb => ?_)
        (within_nearest hopt place key hsolvent) hlate
      have hcall' : ForwardFrom (lastReading first as) [call] := by
        have hsplit : call :: (bs ++ [.take key cost now]) = [call] ++ (bs ++ [.take key cost now]) := rfl
        rw [hsplit, forwardFrom_append] at hclock
        exact hclock.1
      obtain ⟨-, b', hb', -, hnot, rfl⟩ := bucket_of_refused hF hcall' hcall hrefuses hburst
      obtain rfl := Option.some.inj (hb'.symm.trans hb)
      exact wait_nearest hopt (hsolvent place key b' hb') hnot hburst
    · exact retry_of_losses hF hloss hcall hrefuses hburst hbs hkeep hclock hserved hwait hwithin hlate
  · intro now as bs s s₁ s₂ h o o' has hclock hsplits hsteady hsteady' hbs hbs'
    have hsize : s.buckets.size ≤ opt.maxKeys :=
      exec_inv (I := fun s => s.buckets.size ≤ opt.maxKeys) (fun hsize hs => size_le_step hF hsize hs)
        (Nat.zero_le _) has
    exact alike_takes hF bs (alike_sweep hF hsplits (le_of_mem_clocks hclock)) hsize
      ((busy_le_size _ s opt now).trans hsize) hclock hsteady hsteady' hbs hbs'

end Doubles

/-- As in the login's default settings, one token a minute and a burst of ten: what is refilled in two goes is an ulp
short of the token that is there in one. -/
example : let opt : Options := ⟨Double.nearest (1 / 60), 10, 10000, by decide +kernel, by decide +kernel, by decide⟩
    (opt.refillIn Double.nearest 60000 ⟨0, 0⟩).tokens = 1 ∧
      (opt.refillIn Double.nearest 60000 (opt.refillIn Double.nearest 2 ⟨0, 0⟩)).tokens = 1 - 1 / 2 ^ 53 := by
  decide +kernel

section Runs

/-- The limiter that the source runs. -/
abbrev doubles : Machine (Sys String) (Act String) (Obs String) := limitingIn Double.nearest String oneKey

theorem ordinary_oneKey : oneKey.Ordinary where
  isDouble := ⟨3, 0, by norm_num, by norm_num, by norm_num, by norm_num [oneKey]⟩
  burst_ge := (zpow_le_one_of_nonpos₀ one_le_two (by norm_num)).trans (by norm_num [oneKey])
  rate_le := by
    have hone : (1 : ℚ) ≤ 2 ^ (1000 : ℤ) := one_le_zpow₀ one_le_two (by norm_num)
    exact hone.trans (le_mul_of_one_le_right (zpow_pos two_pos _).le (by norm_num [oneKey]))

/-- The first key spends its burst. -/
def spentRun : List (Act String) := [.take "10.0.0.1" wholeBurst 0]

theorem spentRun_isSome : (doubles.exec .init spentRun).isSome = true := by decide +kernel

def spentState : Sys String := ((doubles.exec .init spentRun).get spentRun_isSome).1

/-- It asks for as much again. -/
def refusedState : Sys String := (spentState.takeIn Double.nearest oneKey 0 "10.0.0.1" wholeBurst).1

/-- The answer, which is to come back after three seconds. -/
def refusedObs : Obs String :=
  .took "10.0.0.1" wholeBurst 0 (spentState.takeIn Double.nearest oneKey 0 "10.0.0.1" wholeBurst).2.1
    (spentState.takeIn Double.nearest oneKey 0 "10.0.0.1" wholeBurst).2.2

theorem refusedObs_refuses : Refuses "10.0.0.1" 3 0 3 .own refusedObs := by
  have hplace : (spentState.takeIn Double.nearest oneKey 0 "10.0.0.1" wholeBurst).2.1 = .own := by decide +kernel
  have hresult : (spentState.takeIn Double.nearest oneKey 0 "10.0.0.1" wholeBurst).2.2 = .refused (some 3) := by
    decide +kernel
  rw [refusedObs, hplace, hresult]
  exact .take .own

instance (place : Place) (key : String) (place' : Place) (key' : String) : Decidable (Same place key place' key') :=
  inferInstanceAs (Decidable (if place = .shared then place' = .shared else place' ≠ .shared ∧ key' = key))

instance (place : Place) (key : String) : DecidablePred (Obs.Spends place key)
  | .took key' cost _ place' .ok => inferInstanceAs (Decidable (0 < cost ∧ Same place key place' key'))
  | .took _ _ _ _ (.refused _) => isFalse nofun
  | .peeked .. => isFalse nofun
  | .stats _ => isFalse nofun

/-- Calls of both keys meanwhile. -/
def meanwhileRun : List (Act String) := [.exhausted "10.0.0.1" 1 1100, .take "10.0.0.2" 1 1500]

theorem meanwhileRun_isSome : (doubles.exec refusedState meanwhileRun).isSome = true := by decide +kernel

def meanwhileState : Sys String := ((doubles.exec refusedState meanwhileRun).get meanwhileRun_isSome).1

/-- A call of the key whose bucket was swept. -/
def afterwards : List (Act String) := [.take "10.0.0.1" 3 3000]

theorem honest_retry_meanwhile :
    (meanwhileState.takeIn Double.nearest oneKey 3001 "10.0.0.1" 3).2.2 = .ok ∧
    ∀ s₁ s₂ o o', doubles.exec spentState afterwards = some (s₁, o) →
      doubles.exec (spentState.sweepIn Double.nearest oneKey 1000) afterwards = some (s₂, o') →
      takesOf o' = takesOf o := by
  have hspent := (Option.some_get spentRun_isSome).symm
  constructor
  · have hclock : ForwardFrom 0 (spentRun ++ .take "10.0.0.1" 3 0 :: (meanwhileRun ++ [.take "10.0.0.1" 3 3001])) := by
      norm_num [ForwardFrom, spentRun, meanwhileRun]
    exact (honest_retry oneKey ordinary_oneKey).1 (x := refusedObs) hspent rfl refusedObs_refuses (by decide +kernel)
      (Option.some_get meanwhileRun_isSome).symm (by decide +kernel) hclock (by decide +kernel)
      (Or.inl (by norm_num [Late, meanwhileRun, oneKey, Options.ratePerMs]))
  · intro s₁ s₂ o o' hbs hbs'
    have hclock : ForwardFrom 1000 afterwards := by norm_num [ForwardFrom, afterwards]
    have hheld : ∀ s : Sys String, (s.buckets.get? "10.0.0.1").isSome = true →
        Steady Double.nearest oneKey s afterwards := by
      intro s hs
      refine ⟨fun key cost now ha hnone _ => ?_, fun _ _ _ => trivial⟩
      cases ha
      rw [hnone] at hs
      cases hs
    have hwhole : ∀ e ∈ spentState.buckets.entries, ∀ τ ∈ afterwards.filterMap Act.clock,
        (oneKey.refillIn Double.nearest τ (oneKey.refillIn Double.nearest 1000 e.2)).tokens =
          (oneKey.refillIn Double.nearest τ e.2).tokens := by
      decide +kernel
    refine (honest_retry oneKey ordinary_oneKey).2 hspent hclock (fun key b hb _ τ hτ => ?_)
      (hheld _ (by decide +kernel)) (hheld _ (by decide +kernel)) hbs hbs'
    exact congrArg (fun x => (⟨x, τ⟩ : Bucket ℚ)) (hwhole (key, b) (mem_entries.mpr hb) τ hτ)

/-- The bucket of the first key is full again and dropped, and the other keys take the room and what they share. -/
def crowdRun : List (Act String) := [.take "10.0.0.2" wholeBurst 3000, .take "10.0.0.3" wholeBurst 3000]

theorem crowdRun_isSome : (doubles.exec refusedState crowdRun).isSome = true := by decide +kernel

/-- It comes back as it was told to, its bucket not having been spent from, and is refused. -/
theorem turned_away_again : ∃ s h o,
    doubles.exec .init spentRun = some (spentState, h) ∧
    doubles.step spentState (.take "10.0.0.1" 3 0) = some (refusedState, [refusedObs]) ∧
    Refuses "10.0.0.1" 3 0 3 .own refusedObs ∧
    doubles.exec refusedState crowdRun = some (s, o) ∧ (∀ y ∈ o, ¬ y.Spends .own "10.0.0.1") ∧
    ForwardFrom 0 (spentRun ++ .take "10.0.0.1" 3 0 :: (crowdRun ++ [.take "10.0.0.1" 3 3000])) ∧
    (s.takeIn Double.nearest oneKey 3000 "10.0.0.1" 3).2.2 ≠ .ok := by
  have hclock : ForwardFrom 0 (spentRun ++ .take "10.0.0.1" 3 0 :: (crowdRun ++ [.take "10.0.0.1" 3 3000])) := by
    norm_num [ForwardFrom, spentRun, crowdRun]
  let r := (doubles.exec refusedState crowdRun).get crowdRun_isSome
  exact ⟨r.1, _, r.2, (Option.some_get spentRun_isSome).symm, rfl, refusedObs_refuses,
    (Option.some_get crowdRun_isSome).symm, by decide +kernel, hclock, by decide +kernel⟩

end Runs

end DTwin.Limiter
