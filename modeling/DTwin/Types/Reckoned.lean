import DTwin.Lib.Double
import DTwin.Types.Limiter

/-!
# DTwin.Types.Reckoned — the limiter as it reckons

`packages/types/src/limiter.ts`, whatever the rounding is, if it keeps the order and leaves alone what has been rounded
(`Fair`), as that to the nearest double does (`fair_nearest`).  What a call does to the buckets is said once, bucket by
bucket: one that is not spent from is left as it was, or refilled, or there is a full one in its place (`Since`).
-/

namespace DTwin.Limiter

open OrderedMap TokenBucket Machine

variable {κ : Type} [DecidableEq κ]

/-! ## Rounding -/

/-- What is asked of a rounding. -/
structure Fair (opt : Options) (rnd : ℚ → ℚ) : Prop where
  mono : ∀ {p q}, p ≤ q → rnd p ≤ rnd q
  zero : rnd 0 = 0
  burst : rnd opt.burst = opt.burst
  idem : ∀ q, rnd (rnd q) = rnd q

theorem fair_nearest {opt : Options} (hburst : IsDouble opt.burst) : Fair opt Double.nearest where
  mono := Double.nearest_mono
  zero := Double.nearest_zero
  burst := Double.nearest_eq_self opt.burst_pos hburst
  idem := Double.nearest_nearest

variable {opt : Options} {rnd : ℚ → ℚ} {now τ : ℚ} {b : Bucket ℚ}

namespace Fair

theorem nonneg (hF : Fair opt rnd) {q : ℚ} (hq : 0 ≤ q) : 0 ≤ rnd q := by
  have hmono := hF.mono hq
  rwa [hF.zero] at hmono

/-- What comes in. -/
theorem inflow_nonneg (hF : Fair opt rnd) (e : ℚ) : 0 ≤ rnd (rnd (max 0 (rnd e) / 1000) * opt.ratePerS) :=
  hF.nonneg (mul_nonneg (hF.nonneg (div_nonneg (le_max_left _ _) (by norm_num))) opt.ratePerS_pos.le)

theorem refillIn_mono (hF : Fair opt rnd) (b : Bucket ℚ) (hτ : now ≤ τ) :
    (opt.refillIn rnd now b).tokens ≤ (opt.refillIn rnd τ b).tokens := by
  have hadvance : now - b.updatedAt ≤ τ - b.updatedAt := sub_le_sub_right hτ _
  have hseconds : max 0 (rnd (now - b.updatedAt)) / 1000 ≤ max 0 (rnd (τ - b.updatedAt)) / 1000 :=
    div_le_div_of_nonneg_right (max_le_max_left 0 (hF.mono hadvance)) (by norm_num)
  have hinflow := hF.mono (mul_le_mul_of_nonneg_right (hF.mono hseconds) opt.ratePerS_pos.le)
  exact min_le_min_left _ (hF.mono (add_le_add_right hinflow b.tokens))

theorem refillIn_nonneg (hF : Fair opt rnd) (now : ℚ) (hb : 0 ≤ b.tokens) : 0 ≤ (opt.refillIn rnd now b).tokens :=
  le_min opt.burst_pos.le (hF.nonneg (add_nonneg hb (hF.inflow_nonneg _)))

/-- A bucket that is full stays full. -/
theorem refillIn_full (hF : Fair opt rnd) (now : ℚ) (hb : opt.burst ≤ b.tokens) :
    opt.refillIn rnd now b = ⟨opt.burst, now⟩ := by
  have hmore : opt.burst ≤ rnd (b.tokens + rnd (rnd (max 0 (rnd (now - b.updatedAt)) / 1000) * opt.ratePerS)) := by
    have hmono := hF.mono (hb.trans (le_add_of_nonneg_right (hF.inflow_nonneg (now - b.updatedAt))))
    rwa [hF.burst] at hmono
  rw [Options.refillIn, min_eq_left hmore]

/-- The tokens that a refill leaves have been rounded. -/
theorem rnd_refillIn (hF : Fair opt rnd) (now : ℚ) (b : Bucket ℚ) :
    rnd (opt.refillIn rnd now b).tokens = (opt.refillIn rnd now b).tokens := by
  unfold Options.refillIn
  dsimp only
  rcases min_choice opt.burst
      (rnd (b.tokens + rnd (rnd (max 0 (rnd (now - b.updatedAt)) / 1000) * opt.ratePerS))) with h | h
  · rw [h, hF.burst]
  · rw [h, hF.idem]

end Fair

theorem refillIn_le (opt : Options) (rnd : ℚ → ℚ) (now : ℚ) (b : Bucket ℚ) :
    (opt.refillIn rnd now b).tokens ≤ opt.burst := min_le_left _ _

/-! ## What a call does to the buckets -/

section Calls

variable {s s' s₁ : Sys κ} {key key' : κ} {cost : ℚ≥0} {place place' : Place} {result : LimitResult}
  {old : Option (Bucket ℚ)}

/-- The bucket at a place: the shared one, or the key's own. -/
def Sys.bucketAt (s : Sys κ) (place : Place) (key : κ) : Option (Bucket ℚ) :=
  if place = .shared then s.overflow else s.buckets.get? key

/-- Two calls are answered from one bucket. -/
def Same (place : Place) (key : κ) (place' : Place) (key' : κ) : Prop :=
  if place = .shared then place' = .shared else place' ≠ .shared ∧ key' = key

/-- A bucket as a call finds it: refilled, or a full one. -/
def Fresh (rnd : ℚ → ℚ) (opt : Options) (now : ℚ) (old : Option (Bucket ℚ)) (b : Bucket ℚ) : Prop :=
  (∃ b₀, old = some b₀ ∧ b = opt.refillIn rnd now b₀) ∨ b = ⟨opt.burst, now⟩

/-- A bucket after a call that did not spend from it. -/
def Since (rnd : ℚ → ℚ) (opt : Options) (now : ℚ) (old : Option (Bucket ℚ)) (b : Bucket ℚ) : Prop :=
  old = some b ∨ Fresh rnd opt now old b

theorem Fresh.updatedAt (h : Fresh rnd opt now old b) : b.updatedAt = now := by
  obtain ⟨b₀, -, rfl⟩ | rfl := h
  · rfl
  · rfl

/-- What a call finds has been rounded. -/
theorem Fresh.rnd_tokens (hF : Fair opt rnd) (h : Fresh rnd opt now old b) : rnd b.tokens = b.tokens := by
  obtain ⟨b₀, -, rfl⟩ | rfl := h
  · exact hF.rnd_refillIn now b₀
  · exact hF.burst

theorem bucketAt_shared (s : Sys κ) (key : κ) : s.bucketAt .shared key = s.overflow := if_pos rfl

theorem bucketAt_own (s : Sys κ) (hplace : place ≠ .shared) (key : κ) : s.bucketAt place key = s.buckets.get? key :=
  if_neg hplace

theorem bucketAt_put_same (s : Sys κ) (hsame : Same place' key' place key) (b : Bucket ℚ) :
    (s.put key place b).bucketAt place' key' = some b := by
  unfold Same at hsame
  split_ifs at hsame with hshared
  · subst hshared hsame
    exact bucketAt_shared _ _
  · obtain ⟨hplace, rfl⟩ := hsame
    rw [bucketAt_own _ hshared, (put_own s key key hplace b).1, if_pos rfl]

theorem bucketAt_put_other (s : Sys κ) (hother : ¬ Same place' key' place key) (b : Bucket ℚ) :
    (s.put key place b).bucketAt place' key' = s.bucketAt place' key' := by
  by_cases hplace : place = .shared
  · subst hplace
    by_cases hshared : place' = .shared
    · exact absurd (by rw [Same, if_pos hshared]) hother
    · rw [bucketAt_own _ hshared, bucketAt_own _ hshared]
      rfl
  · obtain ⟨hget, hover⟩ := put_own s key key' hplace b
    by_cases hshared : place' = .shared
    · subst hshared
      rw [bucketAt_shared, bucketAt_shared, hover]
    · have hkey : key ≠ key' := fun hkey => hother (by rw [Same, if_neg hshared]; exact ⟨hplace, hkey⟩)
      rw [bucketAt_own _ hshared, bucketAt_own _ hshared, hget, if_neg hkey]

theorem since_makeRoomIn (h : (s.makeRoomIn rnd opt now).bucketAt place key = some b) :
    Since rnd opt now (s.bucketAt place key) b := by
  by_cases hshared : place = .shared
  · subst hshared
    rw [bucketAt_shared, makeRoomIn_overflow] at h
    rw [bucketAt_shared]
    exact Or.inl h
  · rw [bucketAt_own _ hshared] at h ⊢
    unfold Sys.makeRoomIn at h
    split_ifs at h
    · rw [get?_sweepIn] at h
      obtain ⟨b₀, hb₀, hb⟩ := Option.bind_eq_some_iff.mp h
      split_ifs at hb
      exact Or.inr (Or.inl ⟨b₀, hb₀, (Option.some.inj hb).symm⟩)
    · exact Or.inl h

/-- **The bucket of a call**, and the others. -/
theorem bucketIn_spec (hF : Fair opt rnd) (hbucket : s.bucketIn rnd opt now key = (s₁, place, b)) :
    Fresh rnd opt now (s.bucketAt place key) b ∧
      ∀ place' key' b', s₁.bucketAt place' key' = some b' → Since rnd opt now (s.bucketAt place' key') b' := by
  obtain ⟨held, hheld, hcase⟩ | ⟨hnone, hspace, hcase⟩ | ⟨hnone, hfull, hcase⟩ := bucketIn_cases rnd s opt now key
  · rw [hbucket] at hcase
    simp only [Prod.mk.injEq] at hcase
    obtain ⟨rfl, rfl, rfl⟩ := hcase
    exact ⟨Or.inl ⟨held, hheld, rfl⟩, fun _ _ _ h => Or.inl h⟩
  · rw [hbucket] at hcase
    simp only [Prod.mk.injEq] at hcase
    obtain ⟨rfl, rfl, rfl⟩ := hcase
    exact ⟨Or.inr rfl, fun _ _ _ h => since_makeRoomIn h⟩
  · rw [hbucket] at hcase
    simp only [Prod.mk.injEq] at hcase
    obtain ⟨rfl, rfl, rfl⟩ := hcase
    refine ⟨?_, fun _ _ _ h => since_makeRoomIn (b := _) (by simpa [Sys.bucketAt] using h)⟩
    rw [bucketAt_shared]
    unfold Sys.sharedBucket
    rw [makeRoomIn_overflow]
    cases hover : s.overflow with
    | none => exact Or.inr (hF.refillIn_full now le_rfl)
    | some o => exact Or.inl ⟨o, rfl, rfl⟩

theorem takeIn_cases (hbucket : s.bucketIn rnd opt now key = (s₁, place, b))
    (htake : s.takeIn rnd opt now key cost = (s', place', result)) :
    place' = place ∧
      (((cost : ℚ) ≤ b.tokens ∧ result = .ok ∧ s' = s₁.put key place { b with tokens := rnd (b.tokens - cost) }) ∨
        ∃ n, ¬ (cost : ℚ) ≤ b.tokens ∧
          result = .refused (if opt.burst < (cost : ℚ) then none else some (opt.waitIn rnd b.tokens cost)) ∧
          s' = { s₁.put key place b with refused := n }) := by
  unfold Sys.takeIn at htake
  simp only [hbucket] at htake
  by_cases hcost : (cost : ℚ) ≤ b.tokens
  · rw [if_pos hcost] at htake
    cases htake
    exact ⟨rfl, Or.inl ⟨hcost, rfl, rfl⟩⟩
  · rw [if_neg hcost] at htake
    cases htake
    exact ⟨rfl, Or.inr ⟨_, hcost, rfl, rfl⟩⟩

theorem exhaustedIn_cases (hpeek : s.exhaustedIn rnd opt now key cost = (s', result)) :
    (s.buckets.get? key = none ∧ s' = s ∧ result = .ok) ∨
      ∃ held n, s.buckets.get? key = some held ∧
        s' = { s.put key .own (opt.refillIn rnd now held) with refused := n } ∧
        (result = .ok ∨ ¬ (cost : ℚ) ≤ (opt.refillIn rnd now held).tokens ∧
          result = .refused (some (opt.waitIn rnd (opt.refillIn rnd now held).tokens cost))) := by
  unfold Sys.exhaustedIn at hpeek
  cases hheld : s.buckets.get? key with
  | none =>
    simp only [hheld, Prod.mk.injEq] at hpeek
    exact Or.inl ⟨rfl, hpeek.1.symm, hpeek.2.symm⟩
  | some held =>
    simp only [hheld] at hpeek
    by_cases hcost : (cost : ℚ) ≤ (opt.refillIn rnd now held).tokens
    · rw [if_pos hcost] at hpeek
      cases hpeek
      exact Or.inr ⟨held, _, rfl, rfl, Or.inl rfl⟩
    · rw [if_neg hcost] at hpeek
      cases hpeek
      exact Or.inr ⟨held, _, rfl, rfl, Or.inr ⟨hcost, rfl⟩⟩

/-- A spend from the bucket. -/
def Spent (rnd : ℚ → ℚ) (opt : Options) (now : ℚ) (cost : ℚ≥0) (old : Option (Bucket ℚ)) (b : Bucket ℚ) : Prop :=
  ∃ x, Fresh rnd opt now old x ∧ (cost : ℚ) ≤ x.tokens ∧ b = { x with tokens := rnd (x.tokens - cost) }

/-- **The buckets after `take`.**  Only that of the call can be spent from, and is if the answer is that it is. -/
theorem takeIn_since (hF : Fair opt rnd) (htake : s.takeIn rnd opt now key cost = (s', place, result))
    (h : s'.bucketAt place' key' = some b) : Since rnd opt now (s.bucketAt place' key') b ∨
      result = .ok ∧ Same place' key' place key ∧ Spent rnd opt now cost (s.bucketAt place' key') b := by
  obtain ⟨⟨s₁, place₁, x⟩, hbucket⟩ : ∃ r, s.bucketIn rnd opt now key = r := ⟨_, rfl⟩
  obtain ⟨hfresh, hothers⟩ := bucketIn_spec hF hbucket
  obtain ⟨rfl, hcase⟩ := takeIn_cases hbucket htake
  have hput {c : Bucket ℚ} (hc : s'.bucketAt place' key' = (s₁.put key place c).bucketAt place' key') :
      (Same place' key' place key ∧ b = c) ∨ Since rnd opt now (s.bucketAt place' key') b := by
    rw [h] at hc
    by_cases hsame : Same place' key' place key
    · rw [bucketAt_put_same _ hsame] at hc
      exact Or.inl ⟨hsame, Option.some.inj hc⟩
    · rw [bucketAt_put_other _ hsame] at hc
      exact Or.inr (hothers place' key' b hc.symm)
  have hold (hsame : Same place' key' place key) : s.bucketAt place' key' = s.bucketAt place key := by
    unfold Same at hsame
    split_ifs at hsame with hshared
    · rw [hshared, hsame, bucketAt_shared, bucketAt_shared]
    · rw [bucketAt_own _ hshared, bucketAt_own _ hsame.1, hsame.2]
  obtain ⟨hcost, rfl, rfl⟩ | ⟨n, -, -, rfl⟩ := hcase
  · obtain ⟨hsame, rfl⟩ | hsince := hput rfl
    · exact Or.inr ⟨rfl, hsame, x, hold hsame ▸ hfresh, hcost, rfl⟩
    · exact Or.inl hsince
  · obtain ⟨hsame, rfl⟩ | hsince := hput rfl
    · exact Or.inl (Or.inr (hold hsame ▸ hfresh))
    · exact Or.inl hsince

/-- **The buckets after `exhausted`.** -/
theorem exhaustedIn_since (hpeek : s.exhaustedIn rnd opt now key cost = (s', result))
    (h : s'.bucketAt place' key' = some b) : Since rnd opt now (s.bucketAt place' key') b := by
  obtain ⟨-, rfl, -⟩ | ⟨held, n, hheld, rfl, -⟩ := exhaustedIn_cases hpeek
  · exact Or.inl h
  · have hput : (s.put key .own (opt.refillIn rnd now held)).bucketAt place' key' = some b := h
    by_cases hsame : Same place' key' .own key
    · have hfresh := bucketAt_put_same s hsame (opt.refillIn rnd now held)
      rw [hput] at hfresh
      have hown : place' ≠ .shared := by
        rintro rfl
        exact absurd hsame (by simp [Same])
      rw [Same, if_neg hown] at hsame
      rw [bucketAt_own _ hown, ← hsame.2]
      exact Or.inr (Or.inl ⟨held, hheld, Option.some.inj hfresh⟩)
    · rw [bucketAt_put_other _ hsame] at hput
      exact Or.inl hput

end Calls

end DTwin.Limiter
