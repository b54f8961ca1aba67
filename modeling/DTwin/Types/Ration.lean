import DTwin.Types.Swept

/-!
# DTwin.Types.Ration — failures that are charged when they end

A caller peeks (`exhausted`), starts an attempt if its key has a token, and charges it (`take`) when it ends in failure.
In between nothing is held back.  If at each start the key has a token for it and for every attempt of the key that is
still in flight (`Covered`), and failures are charged to the key's own bucket, then the attempts of a key that were
started in a span of time and failed are no more than a burst and what the bucket gains in that time (`Rationed`).
-/

namespace DTwin.Limiter

open TokenBucket

variable {κ : Type} [DecidableEq κ]

/-! ### Exact numbers -/

section Exact

variable (opt : Options) (s : Sys κ)

/-- The tokens of a key; a key without a bucket has a whole burst. -/
def Sys.levelOf (key : κ) (τ : ℚ) : ℚ := s.levelIn id opt key τ

/-- The key is answered from a bucket of its own. -/
def Sys.OwnServed (now : ℚ) (key : κ) : Prop := s.OwnServedIn id opt now key

instance (now : ℚ) (key : κ) : Decidable (s.OwnServed opt now key) :=
  inferInstanceAs (Decidable (s.OwnServedIn id opt now key))

/-- No bucket is ahead of the clock, and there are not too many. -/
structure Sound (now : ℚ) : Prop where
  past : ∀ place key b, s.bucketAt place key = some b → b.updatedAt ≤ now
  size_le : s.buckets.size ≤ opt.maxKeys

end Exact

theorem fair_id (opt : Options) : Fair opt id := ⟨fun h => h, rfl, rfl, fun _ => rfl⟩

theorem refillIn_id (opt : Options) (τ : ℚ) (b : Bucket ℚ) :
    opt.refillIn id τ b = TokenBucket.refill opt.burst opt.ratePerMs τ b := refill_eq opt τ b

theorem levelOf_le (opt : Options) (s : Sys κ) (key : κ) (τ : ℚ) : s.levelOf opt key τ ≤ opt.burst :=
  levelIn_le id opt s key τ

section Exact

variable {opt : Options} {s s' : Sys κ} {now : ℚ} {key : κ} {cost : ℚ≥0} {place : Place} {result : LimitResult}

theorem sound_init (opt : Options) (now : ℚ) : Sound opt (.init : Sys κ) now := by
  refine ⟨fun place key b hb => ?_, Nat.zero_le _⟩
  unfold Sys.bucketAt at hb
  split_ifs at hb
  · cases hb
  · cases hb

theorem Sound.later (hS : Sound opt s now) {now' : ℚ} (hnow : now ≤ now') : Sound opt s now' :=
  ⟨fun place key b hb => (hS.past place key b hb).trans hnow, hS.size_le⟩

theorem Sound.own (hS : Sound opt s now) {b : Bucket ℚ} (hb : s.buckets.get? key = some b) : b.updatedAt ≤ now :=
  hS.past .own key b hb

theorem Sound.since (hS : Sound opt s now) {b : Bucket ℚ} (hb : Since id opt now (s.bucketAt place key) b) :
    b.updatedAt ≤ now := by
  rcases hb with hkept | hfresh
  · exact hS.past place key b hkept
  · exact hfresh.updatedAt.le

/-- With exact numbers a refill in two goes is one in one. -/
theorem Sound.splits (hS : Sound opt s now) : s.Splits id opt now (Set.Ici now) := by
  intro key b hb _ τ hτ
  simp only [refillIn_id, TokenBucket.refill]
  rw [← level_refill opt.ratePerMs_nonneg (hS.own hb) hτ]
  rfl

/-- **One call of `take`.** -/
theorem take_spec (hS : Sound opt s now) (htake : s.take opt now key cost = (s', place, result)) :
    Sound opt s' now ∧ TookIn id opt s s' now key cost (Set.Ici now) result := by
  have hT := takeIn_spec (fair_id opt) hS.size_le (fun _ hτ => hτ) (fun _ _ => hS.splits) htake
  refine ⟨⟨fun place' key' b hb => ?_, hT.size_le⟩, hT⟩
  rcases takeIn_since (fair_id opt) htake hb with hsince | ⟨-, -, x, hfresh, -, rfl⟩
  · exact hS.since hsince
  · exact hfresh.updatedAt.le

/-- **One call of `exhausted`.**  It changes no key's tokens. -/
theorem exhausted_spec (hS : Sound opt s now) (hpeek : s.exhausted opt now key cost = (s', result)) :
    Sound opt s' now ∧ ∀ key' τ, now ≤ τ → s'.levelOf opt key' τ = s.levelOf opt key' τ := by
  obtain ⟨hsize, hlevels, -⟩ := exhaustedIn_spec (fair_id opt) hS.size_le hpeek
  refine ⟨⟨fun place' key' b hb => hS.since (exhaustedIn_since hpeek hb), hsize⟩, fun key' τ hτ => ?_⟩
  show s'.levelIn id opt key' τ = s.levelIn id opt key' τ
  rw [hlevels key' τ]
  split_ifs with hkey
  · subst hkey
    cases hb : s.buckets.get? key' with
    | none => rw [levelIn_none hb, levelIn_none hb, (fair_id opt).refillIn_full τ le_rfl]
    | some b =>
      rw [levelIn_some hb, levelIn_some hb]
      simp only [refillIn_id, TokenBucket.refill]
      exact level_refill opt.ratePerMs_nonneg (hS.own hb) hτ
  · rfl

end Exact

/-- The attempts of a key. -/
def countOf (key : κ) (l : List (κ × ℚ)) : ℕ := l.countP fun e => e.1 = key

/-- The attempts of a key that were started from `a` on. -/
def startedFrom (key : κ) (a : ℚ) (l : List (κ × ℚ)) : ℕ := l.countP fun e => e.1 = key ∧ a ≤ e.2

/-- The attempts of a key that were started from `a` to `b`. -/
def startedIn (key : κ) (a b : ℚ) (l : List (κ × ℚ)) : ℕ := l.countP fun e => e.1 = key ∧ a ≤ e.2 ∧ e.2 ≤ b

/-- The key has a token for one more attempt beside those in flight. -/
def Covered (opt : Options) (s : Sys κ) (pending : List (κ × ℚ)) (now : ℚ) (key : κ) : Prop :=
  (countOf key pending : ℚ) + 1 ≤ s.levelOf opt key now

instance (opt : Options) (s : Sys κ) (pending : List (κ × ℚ)) (now : ℚ) (key : κ) :
    Decidable (Covered opt s pending now key) := inferInstanceAs (Decidable (_ ≤ _))

/-- A limiter, with the attempts that are in flight and those that have failed, by key and start. -/
structure Rationed (opt : Options) (s : Sys κ) (now : ℚ) (pending failed : List (κ × ℚ)) : Prop where
  sound : Sound opt s now
  past : ∀ e ∈ pending ++ failed, e.2 ≤ now
  covered : ∀ key τ, now ≤ τ → (countOf key pending : ℚ) ≤ s.levelOf opt key τ
  spent : ∀ key a τ, now ≤ τ → a ≤ τ →
    (startedFrom key a failed : ℚ) + s.levelOf opt key τ ≤ opt.burst + opt.ratePerMs * (τ - a)
  bounded : ∀ key a b, a ≤ b → (startedIn key a b (pending ++ failed) : ℚ) ≤ opt.burst + opt.ratePerMs * (b - a)

variable {opt : Options} {s s' : Sys κ} {now : ℚ} {pending failed : List (κ × ℚ)} {key : κ}

/-! ### Counting -/

theorem countOf_cons (key : κ) (e : κ × ℚ) (l : List (κ × ℚ)) :
    countOf key (e :: l) = countOf key l + if e.1 = key then 1 else 0 := by
  unfold countOf
  rw [List.countP_cons]
  simp

theorem startedFrom_snoc (l : List (κ × ℚ)) (e : κ × ℚ) (a : ℚ) :
    startedFrom key a (l ++ [e]) = startedFrom key a l + if e.1 = key ∧ a ≤ e.2 then 1 else 0 := by
  unfold startedFrom
  rw [List.countP_append, List.countP_singleton]
  simp

theorem startedFrom_eq_zero {a : ℚ} (hpast : ∀ e ∈ failed, e.2 ≤ now) (ha : now < a) (key : κ) :
    startedFrom key a failed = 0 := by
  apply List.countP_eq_zero.mpr
  intro e he hstart
  have hle : a ≤ e.2 := (of_decide_eq_true hstart).2
  exact absurd (hle.trans (hpast e he)) (not_le.mpr ha)

theorem startedIn_cons (key : κ) (a b : ℚ) (e : κ × ℚ) (l : List (κ × ℚ)) :
    startedIn key a b (e :: l) = startedIn key a b l + if e.1 = key ∧ a ≤ e.2 ∧ e.2 ≤ b then 1 else 0 := by
  unfold startedIn
  rw [List.countP_cons]
  simp

theorem startedIn_perm {l l' : List (κ × ℚ)} (h : l.Perm l') (key : κ) (a b : ℚ) :
    startedIn key a b l = startedIn key a b l' := h.countP_eq _

theorem startedIn_append_le (key : κ) (a b : ℚ) (pending failed : List (κ × ℚ)) :
    startedIn key a b (pending ++ failed) ≤ countOf key pending + startedFrom key a failed := by
  unfold startedIn
  rw [List.countP_append]
  refine Nat.add_le_add (List.countP_mono_left fun e _ he => ?_) (List.countP_mono_left fun e _ he => ?_)
  · have hspan : e.1 = key ∧ a ≤ e.2 ∧ e.2 ≤ b := of_decide_eq_true he
    exact decide_eq_true hspan.1
  · have hspan : e.1 = key ∧ a ≤ e.2 ∧ e.2 ≤ b := of_decide_eq_true he
    exact decide_eq_true ⟨hspan.1, hspan.2.1⟩

theorem startedIn_failed_le (key : κ) (a b : ℚ) (pending failed : List (κ × ℚ)) :
    startedIn key a b failed ≤ startedIn key a b (pending ++ failed) :=
  (List.sublist_append_right pending failed).countP_le

/-! ### What keeps failures rationed -/

theorem gain_nonneg (opt : Options) {a b : ℚ} (hab : a ≤ b) : 0 ≤ opt.ratePerMs * (b - a) :=
  mul_nonneg opt.ratePerMs_nonneg (sub_nonneg.mpr hab)

/-- Tokens only flow in. -/
theorem levelOf_mono (opt : Options) (s : Sys κ) (key : κ) {τ : ℚ} (hτ : now ≤ τ) :
    s.levelOf opt key now ≤ s.levelOf opt key τ := by
  unfold Sys.levelOf
  cases hb : s.buckets.get? key with
  | none => rw [levelIn_none hb, levelIn_none hb]
  | some b =>
    rw [levelIn_some hb, levelIn_some hb]
    exact (fair_id opt).refillIn_mono b hτ

theorem rationed_init (opt : Options) (now : ℚ) : Rationed opt (.init : Sys κ) now [] [] where
  sound := sound_init opt now
  past := nofun
  covered key τ _ := by
    have hburst := opt.burst_pos
    show ((0 : ℕ) : ℚ) ≤ opt.burst
    push_cast
    exact hburst.le
  spent key a τ _ ha := by
    have hgain := gain_nonneg opt ha
    have hle := levelOf_le opt (.init : Sys κ) key τ
    show ((0 : ℕ) : ℚ) + _ ≤ _
    push_cast
    linarith
  bounded key a b hab := by
    have hgain := gain_nonneg opt hab
    have hburst := opt.burst_pos
    show ((0 : ℕ) : ℚ) ≤ _
    push_cast
    linarith

theorem Rationed.later (hR : Rationed opt s now pending failed) {now' : ℚ} (hnow : now ≤ now') :
    Rationed opt s now' pending failed where
  sound := hR.sound.later hnow
  past e he := (hR.past e he).trans hnow
  covered key τ hτ := hR.covered key τ (hnow.trans hτ)
  spent key a τ hτ ha := hR.spent key a τ (hnow.trans hτ) ha
  bounded := hR.bounded

/-- The peek changes no key's tokens. -/
theorem Rationed.peek (hR : Rationed opt s now pending failed) {cost : ℚ≥0} {result : LimitResult}
    (hpeek : s.exhausted opt now key cost = (s', result)) :
    Rationed opt s' now pending failed ∧ (Covered opt s pending now key → Covered opt s' pending now key) := by
  obtain ⟨hS, hlevels⟩ := exhausted_spec hR.sound hpeek
  refine ⟨⟨hS, hR.past, fun key' τ hτ => ?_, fun key' a τ hτ ha => ?_, hR.bounded⟩, fun hC => ?_⟩
  · rw [hlevels key' τ hτ]
    exact hR.covered key' τ hτ
  · rw [hlevels key' τ hτ]
    exact hR.spent key' a τ hτ ha
  · show (countOf key pending : ℚ) + 1 ≤ s'.levelOf opt key now
    rw [hlevels key now le_rfl]
    exact hC

/-- An attempt ends without a failure. -/
theorem Rationed.drop (hR : Rationed opt s now pending failed) (i : ℕ) :
    Rationed opt s now (pending.eraseIdx i) failed where
  sound := hR.sound
  past e he := by
    have hsub := (List.eraseIdx_sublist pending i).append_right failed
    exact hR.past e (hsub.subset he)
  covered key τ hτ := by
    have hle : countOf key (pending.eraseIdx i) ≤ countOf key pending := (List.eraseIdx_sublist pending i).countP_le
    have hcast : (countOf key (pending.eraseIdx i) : ℚ) ≤ countOf key pending := by exact_mod_cast hle
    exact hcast.trans (hR.covered key τ hτ)
  spent := hR.spent
  bounded key a b hab := by
    have hle : startedIn key a b (pending.eraseIdx i ++ failed) ≤ startedIn key a b (pending ++ failed) :=
      ((List.eraseIdx_sublist pending i).append_right failed).countP_le
    have hcast : (startedIn key a b (pending.eraseIdx i ++ failed) : ℚ) ≤ startedIn key a b (pending ++ failed) := by
      exact_mod_cast hle
    exact hcast.trans (hR.bounded key a b hab)

/-- **An attempt starts**: its key has a token for it and for those in flight. -/
theorem Rationed.start (hR : Rationed opt s now pending failed) (hC : Covered opt s pending now key) :
    Rationed opt s now ((key, now) :: pending) failed where
  sound := hR.sound
  past e he := by
    rcases List.mem_cons.mp he with rfl | he
    · exact le_rfl
    · exact hR.past e he
  covered key' τ hτ := by
    rw [countOf_cons]
    by_cases hkey : key = key'
    · subst hkey
      have hlater := levelOf_mono opt s key hτ
      have hcovered : (countOf key pending : ℚ) + 1 ≤ s.levelOf opt key now := hC
      rw [if_pos rfl]
      push_cast
      linarith
    · rw [if_neg hkey, Nat.add_zero]
      exact hR.covered key' τ hτ
  spent := hR.spent
  bounded key' a b hab := by
    rw [List.cons_append, startedIn_cons]
    by_cases hspan : key = key' ∧ a ≤ now ∧ now ≤ b
    · rw [if_pos hspan]
      obtain ⟨rfl, ha, hb⟩ := hspan
      have hcount : (startedIn key a b (pending ++ failed) : ℚ) ≤ countOf key pending + startedFrom key a failed := by
        exact_mod_cast startedIn_append_le key a b pending failed
      have hcovered : (countOf key pending : ℚ) + 1 ≤ s.levelOf opt key now := hC
      have hspent := hR.spent key a now le_rfl ha
      have hgain : opt.ratePerMs * (now - a) ≤ opt.ratePerMs * (b - a) :=
        mul_le_mul_of_nonneg_left (by linarith) opt.ratePerMs_nonneg
      push_cast
      linarith
    · rw [if_neg hspan, Nat.add_zero]
      exact hR.bounded key' a b hab

/-- **An attempt fails**, and is charged to the key's own bucket. -/
theorem Rationed.charge (hR : Rationed opt s now pending failed) {i : ℕ} {start : ℚ}
    (hi : pending[i]? = some (key, start)) (hown : s.OwnServed opt now key) {place : Place} {result : LimitResult}
    (htake : s.take opt now key 1 = (s', place, result)) :
    Rationed opt s' now (pending.eraseIdx i) (failed ++ [(key, start)]) := by
  obtain ⟨hsound, htook⟩ := take_spec hR.sound htake
  obtain ⟨hlt, hget⟩ := List.getElem?_eq_some_iff.mp hi
  have hperm : ((key, start) :: pending.eraseIdx i).Perm pending := by
    rw [← hget]
    exact List.getElem_cons_eraseIdx_perm hlt
  have hall : (pending.eraseIdx i ++ (failed ++ [(key, start)])).Perm (pending ++ failed) := by
    have hlast : (pending.eraseIdx i ++ (failed ++ [(key, start)])).Perm
        ((key, start) :: (pending.eraseIdx i ++ failed)) := by
      rw [← List.append_assoc]
      exact List.perm_append_singleton _ _
    exact hlast.trans (hperm.append_right failed)
  have hpending : ∀ key', countOf key' pending = countOf key' (pending.eraseIdx i) + if key = key' then 1 else 0 := by
    intro key'
    rw [← countOf_cons key' (key, start)]
    exact (hperm.countP_eq _).symm
  have hcovered := hR.covered key now le_rfl
  rw [hpending key, if_pos rfl, Nat.cast_add, Nat.cast_one] at hcovered
  have htoken : 1 ≤ s.levelOf opt key now := by
    have hnonneg : (0 : ℚ) ≤ countOf key (pending.eraseIdx i) := Nat.cast_nonneg _
    linarith
  -- what the charge leaves
  have hleft : leftIn id (s.servedIn id opt now key) 1 = s.levelOf opt key now - 1 := by
    have hserved : s.servedIn id opt now key = s.levelOf opt key now := if_pos hown
    rw [hserved]
    exact if_pos htoken
  have hkey : ∀ {τ : ℚ}, now ≤ τ → s'.levelOf opt key τ =
      min opt.burst (s.levelOf opt key now - 1 + opt.ratePerMs * (τ - now)) := by
    intro τ hτ
    have hspan : max 0 (τ - now) = τ - now := max_eq_right (sub_nonneg.mpr hτ)
    show s'.levelIn id opt key τ = _
    rw [htook.levels key τ hτ, if_pos ⟨rfl, hown⟩, hleft, refillIn_id, TokenBucket.refill, level, hspan, mul_comm]
  have hother : ∀ {key' : κ} {τ : ℚ}, key' ≠ key → now ≤ τ → s'.levelOf opt key' τ = s.levelOf opt key' τ := by
    intro key' τ hne hτ
    show s'.levelIn id opt key' τ = _
    rw [htook.levels key' τ hτ, if_neg fun h => hne h.1]
    rfl
  refine ⟨hsound, fun e he => hR.past e (hall.subset he), fun key' τ hτ => ?_, fun key' a τ hτ ha => ?_,
    fun key' a b hab => ?_⟩
  · by_cases hsame : key' = key
    · subst hsame
      have hgain := gain_nonneg opt hτ
      have hburst := levelOf_le opt s key' now
      rw [hkey hτ]
      exact le_min (by linarith) (by linarith)
    · have hcount : countOf key' (pending.eraseIdx i) = countOf key' pending := by
        rw [hpending key', if_neg fun h => hsame h.symm, Nat.add_zero]
      rw [hother hsame hτ, hcount]
      exact hR.covered key' τ hτ
  · rw [startedFrom_snoc]
    by_cases hsame : key' = key
    · subst hsame
      have hstart : start ≤ now := hR.past _ (List.mem_append_left failed (List.mem_of_getElem? hi))
      by_cases hnow : a ≤ now
      · have hspent := hR.spent key' a now le_rfl hnow
        have hlevel : s'.levelOf opt key' τ ≤ s.levelOf opt key' now - 1 + opt.ratePerMs * (τ - now) := by
          rw [hkey hτ]
          exact min_le_right _ _
        have hone : ((if key' = key' ∧ a ≤ start then 1 else 0 : ℕ) : ℚ) ≤ 1 := by
          split_ifs
          · exact Nat.cast_one.le
          · exact_mod_cast Nat.zero_le 1
        push_cast at hone ⊢
        linarith
      · have hnone : ¬ (key' = key' ∧ a ≤ start) := fun h => hnow (h.2.trans hstart)
        have hpast : ∀ e ∈ failed, e.2 ≤ now := fun e he => hR.past e (List.mem_append_right pending he)
        have hgain := gain_nonneg opt ha
        have hle := levelOf_le opt s' key' τ
        rw [startedFrom_eq_zero hpast (not_le.mp hnow), if_neg hnone]
        push_cast
        linarith
    · rw [if_neg fun h => hsame h.1.symm, Nat.add_zero, hother hsame hτ]
      exact hR.spent key' a τ hτ ha
  · rw [startedIn_perm hall]
    exact hR.bounded key' a b hab

/-- What has failed is within the burst and the gain. -/
theorem Rationed.failed_le (hR : Rationed opt s now pending failed) (key : κ) {a b : ℚ} (hab : a ≤ b) :
    (startedIn key a b failed : ℚ) ≤ opt.burst + opt.ratePerMs * (b - a) := by
  have hle : (startedIn key a b failed : ℚ) ≤ startedIn key a b (pending ++ failed) := by
    exact_mod_cast startedIn_failed_le key a b pending failed
  exact hle.trans (hR.bounded key a b hab)

end DTwin.Limiter
