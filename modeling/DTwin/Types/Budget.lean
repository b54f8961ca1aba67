import DTwin.Types.Limiter

/-!
# DTwin.Types.Budget — how much is one key admitted?

A key is served by its own bucket, or with the map full by the one that newcomers share.  What is spent from
the shared bucket is forgotten when the key is given its own, which is full: the key then has two bursts
(`two_bursts`).  If every bucket is made for a key that has paid back what it spent from the shared one, each
key is admitted in any interval its burst and what is refilled in it (`budget_bounded`).
-/

namespace DTwin.Limiter

open OrderedMap TokenBucket Machine

variable {κ : Type} [DecidableEq κ]

/-! ## What a key is admitted -/

/-- When the clock was read. -/
def Obs.now? : Obs κ → Option ℚ
  | .took _ _ now _ _ => some now
  | .peeked _ _ now _ => some now
  | .stats _ => none

/-- The clock has not been past `τ`. -/
def After (h : List (Obs κ)) (τ : ℚ) : Prop := ∀ x ∈ h, ∀ now ∈ x.now?, now ≤ τ

@[simp] def Obs.admits (key : κ) : Obs κ → List (ℚ × ℚ)
  | .took key' cost now _ .ok => if key' = key then [(now, cost)] else []
  | _ => []

@[simp] def Obs.shares (key : κ) : Obs κ → List (ℚ × ℚ)
  | .took key' cost now .shared .ok => if key' = key then [(now, cost)] else []
  | _ => []

/-- The costs admitted for a key, each with its time. -/
def admittedOf (key : κ) (h : List (Obs κ)) : List (ℚ × ℚ) := h.flatMap (Obs.admits key)

/-- Those of them that the shared bucket paid. -/
def sharedOf (key : κ) (h : List (Obs κ)) : List (ℚ × ℚ) := h.flatMap (Obs.shares key)

@[simp] theorem admittedOf_snoc (key : κ) (h : List (Obs κ)) (x : Obs κ) :
    admittedOf key (h ++ [x]) = admittedOf key h ++ x.admits key := by
  simp [admittedOf]

@[simp] theorem sharedOf_snoc (key : κ) (h : List (Obs κ)) (x : Obs κ) :
    sharedOf key (h ++ [x]) = sharedOf key h ++ x.shares key := by
  simp [sharedOf]

/-- What a key is admitted in any interval is bounded. -/
def Budgeted (opt : Options) (h : List (Obs κ)) : Prop :=
  ∀ key s t, s ≤ t → spent s t (admittedOf key h) ≤ opt.burst + opt.ratePerS * (t - s) / 1000

/-- The clock has not stepped back. -/
def Forward (h : List (Obs κ)) : Act κ → Prop
  | .take _ _ now => After h now
  | .exhausted _ _ now => After h now
  | .stats => True

/-- If a bucket is made, it is for a key that has paid back what it spent from the shared one. -/
def Repaid (opt : Options) (s : Sys κ) (h : List (Obs κ)) : Act κ → Prop
  | .take key _ now =>
    s.buckets.get? key = none → (s.makeRoom opt now).buckets.size < opt.maxKeys →
      credit opt.burst opt.ratePerMs (sharedOf key h) now = opt.burst
  | _ => True

/-! ## What the buckets have to do with it -/

/-- The charges of a key until `now`: in order, and bounded. -/
structure Admitted (opt : Options) (l : List (ℚ × ℚ)) (now : ℚ) : Prop where
  sorted : l.Pairwise fun a b => a.1 ≤ b.1
  until_now : Until now l
  bounded : Bounded opt.burst opt.ratePerMs l

/-- At `now` the bucket of a key has no more than the credit of the key, nor the shared bucket than the credit
for what it paid. -/
structure Metered (opt : Options) (key : κ) (s : Sys κ) (l shared : List (ℚ × ℚ)) (now : ℚ) : Prop where
  admitted : Admitted opt l now
  until_shared : Until now shared
  own : ∀ b, s.buckets.get? key = some b → b.updatedAt ≤ now ∧ ∀ τ, now ≤ τ →
    level opt.burst opt.ratePerMs b τ ≤ credit opt.burst opt.ratePerMs l τ ∧
      credit opt.burst opt.ratePerMs shared τ = opt.burst
  absent : s.buckets.get? key = none → ∀ τ, now ≤ τ →
    credit opt.burst opt.ratePerMs shared τ ≤ credit opt.burst opt.ratePerMs l τ
  overflow : ∀ b, s.overflow = some b → b.updatedAt ≤ now ∧ ∀ τ, now ≤ τ →
    level opt.burst opt.ratePerMs b τ ≤ credit opt.burst opt.ratePerMs shared τ
  fresh : s.overflow = none → shared = []

variable {opt : Options} {key : κ} {s : Sys κ} {l shared : List (ℚ × ℚ)} {now : ℚ}

theorem Admitted.snoc (hA : Admitted opt l now) {cost : ℚ}
    (hcost : cost ≤ credit opt.burst opt.ratePerMs l now) : Admitted opt (l ++ [(now, cost)]) now where
  sorted := by
    refine List.pairwise_append.mpr ⟨hA.sorted, List.pairwise_singleton _ _, fun a ha b hb => ?_⟩
    rw [List.mem_singleton.mp hb]
    exact hA.until_now a ha
  until_now := List.forall_mem_append.mpr ⟨hA.until_now, by simp⟩
  bounded := bounded_snoc opt.burst_pos.le opt.ratePerMs_nonneg hA.bounded hA.sorted hA.until_now hcost

theorem Metered.later (hM : Metered opt key s l shared now) {now' : ℚ} (hnow : now ≤ now') :
    Metered opt key s l shared now' where
  admitted := ⟨hM.admitted.sorted, fun e he => (hM.admitted.until_now e he).trans hnow, hM.admitted.bounded⟩
  until_shared e he := (hM.until_shared e he).trans hnow
  own b hb := ⟨(hM.own b hb).1.trans hnow, fun τ hτ => (hM.own b hb).2 τ (hnow.trans hτ)⟩
  absent hnone τ hτ := hM.absent hnone τ (hnow.trans hτ)
  overflow b hb := ⟨(hM.overflow b hb).1.trans hnow, fun τ hτ => (hM.overflow b hb).2 τ (hnow.trans hτ)⟩
  fresh := hM.fresh

theorem Metered.congr (hM : Metered opt key s l shared now) {s' : Sys κ}
    (hb : s'.buckets.get? key = s.buckets.get? key) (ho : s'.overflow = s.overflow) :
    Metered opt key s' l shared now where
  admitted := hM.admitted
  until_shared := hM.until_shared
  own := by rw [hb]; exact hM.own
  absent := by rw [hb]; exact hM.absent
  overflow := by rw [ho]; exact hM.overflow
  fresh := by rw [ho]; exact hM.fresh

/-- A full credit stays full. -/
theorem credit_full (hl : Until now l) (hfull : opt.burst ≤ credit opt.burst opt.ratePerMs l now) {τ : ℚ}
    (hτ : now ≤ τ) : credit opt.burst opt.ratePerMs l τ = opt.burst := by
  have hpos : 0 ≤ opt.ratePerMs * (τ - now) := mul_nonneg opt.ratePerMs_nonneg (sub_nonneg.mpr hτ)
  rw [credit_flow opt.ratePerMs_nonneg hl hτ]
  exact min_eq_left (by linarith)

/-! ## One call -/

theorem Metered.sweep (hM : Metered opt key s l shared now) :
    Metered opt key (s.sweep opt now) l shared now where
  admitted := hM.admitted
  until_shared := hM.until_shared
  own b hb := by
    rw [get?_sweep] at hb
    obtain ⟨b₀, hb₀, hb⟩ := Option.bind_eq_some_iff.mp hb
    split_ifs at hb
    obtain ⟨hupdated, hlevel⟩ := hM.own b₀ hb₀
    rw [← Option.some.inj hb, refill_eq]
    refine ⟨le_rfl, fun τ hτ => ?_⟩
    rw [level_refill opt.ratePerMs_nonneg hupdated hτ]
    exact hlevel τ hτ
  absent hnone τ hτ := by
    rw [get?_sweep] at hnone
    cases hb₀ : s.buckets.get? key with
    | none => exact hM.absent hb₀ τ hτ
    | some b₀ =>
      -- The bucket is dropped full, and so is the credit.
      simp only [hb₀, Option.bind_some, refill_eq] at hnone
      split_ifs at hnone with hfull
      obtain ⟨hupdated, hlevel⟩ := hM.own b₀ hb₀
      rw [credit_full hM.admitted.until_now (hfull.trans (hlevel now le_rfl).1) hτ]
      exact credit_le _ _ shared τ
  overflow := hM.overflow
  fresh := hM.fresh

theorem Metered.makeRoom (hM : Metered opt key s l shared now) :
    Metered opt key (s.makeRoom opt now) l shared now := by
  rw [makeRoom_def]
  split_ifs
  · exact hM.sweep
  · exact hM

/-- The key's own bucket is put back, or a new one in. -/
theorem Metered.putOwn (hM : Metered opt key s l shared now) {l' : List (ℚ × ℚ)} (hA : Admitted opt l' now)
    (place : Place) (hplace : place ≠ .shared) {b : Bucket ℚ} (hupdated : b.updatedAt ≤ now)
    (hlevel : ∀ τ, now ≤ τ → level opt.burst opt.ratePerMs b τ ≤ credit opt.burst opt.ratePerMs l' τ ∧
      credit opt.burst opt.ratePerMs shared τ = opt.burst) :
    Metered opt key (s.put key place b) l' shared now := by
  obtain ⟨hget, hover⟩ := put_own s key key hplace b
  rw [if_pos rfl] at hget
  refine ⟨hA, hM.until_shared, fun b' hb' => ?_, fun hnone => ?_, by rw [hover]; exact hM.overflow,
    by rw [hover]; exact hM.fresh⟩
  · rw [hget] at hb'
    rw [← Option.some.inj hb']
    exact ⟨hupdated, hlevel⟩
  · rw [hget] at hnone
    exact absurd hnone nofun

theorem Metered.putOther (hM : Metered opt key s l shared now) {key' : κ} (hne : key' ≠ key) (place : Place)
    (hplace : place ≠ .shared) (b : Bucket ℚ) : Metered opt key (s.put key' place b) l shared now := by
  obtain ⟨hget, hover⟩ := put_own s key' key hplace b
  rw [if_neg hne] at hget
  exact hM.congr hget hover

/-- The shared bucket is put back, with nothing changed for the key. -/
theorem Metered.putShared (hM : Metered opt key s l shared now) (key' : κ) {b : Bucket ℚ}
    (hupdated : b.updatedAt ≤ now)
    (hlevel : ∀ τ, now ≤ τ →
      level opt.burst opt.ratePerMs b τ ≤ credit opt.burst opt.ratePerMs shared τ) :
    Metered opt key (s.put key' .shared b) l shared now where
  admitted := hM.admitted
  until_shared := hM.until_shared
  own := hM.own
  absent := hM.absent
  overflow b' hb' := by
    cases hb'
    exact ⟨hupdated, hlevel⟩
  fresh := nofun

theorem Metered.shared_level (hM : Metered opt key s l shared now) :
    (s.sharedBucket opt now).updatedAt ≤ now ∧ ∀ τ, now ≤ τ →
      level opt.burst opt.ratePerMs (s.sharedBucket opt now) τ ≤ credit opt.burst opt.ratePerMs shared τ := by
  unfold Sys.sharedBucket
  cases hover : s.overflow with
  | some b => exact hM.overflow b hover
  | none =>
    rw [hM.fresh hover]
    exact ⟨le_rfl, fun τ _ => level_le _ τ⟩

/-- A charge takes from a bucket what it takes from a credit. -/
theorem level_spend_le {b : Bucket ℚ} {v : ℚ → ℚ} (hv : level opt.burst opt.ratePerMs b now ≤ v now) (cost : ℚ)
    {τ : ℚ} (hτ : now ≤ τ) : level opt.burst opt.ratePerMs (spend cost (opt.refill now b)) τ ≤
      charge opt.burst opt.ratePerMs (now, cost) v τ := by
  rw [refill_eq, level_spend b cost hτ]
  exact charge_mono hv τ

/-- A charge takes nothing away. -/
theorem charge_le_level {b : Bucket ℚ} (hupdated : b.updatedAt ≤ now) (cost : ℚ≥0) {τ : ℚ} (hτ : now ≤ τ) :
    level opt.burst opt.ratePerMs (spend cost (opt.refill now b)) τ ≤ level opt.burst opt.ratePerMs b τ := by
  have hcost : (0 : ℚ) ≤ cost := cost.cast_nonneg
  rw [refill_eq, level_spend b cost hτ, level_flow opt.ratePerMs_nonneg hupdated hτ]
  refine min_le_min_left _ ?_
  linarith

/-- The key's own bucket pays. -/
theorem Metered.own_ok (hM : Metered opt key s l shared now) {held : Bucket ℚ}
    (hheld : s.buckets.get? key = some held) {cost : ℚ} (hcost : cost ≤ (opt.refill now held).tokens) :
    Metered opt key (s.put key .own (spend cost (opt.refill now held))) (l ++ [(now, cost)]) shared now := by
  obtain ⟨-, hlevel⟩ := hM.own held hheld
  have hle := (hlevel now le_rfl).1
  rw [refill_eq] at hcost
  refine hM.putOwn (hM.admitted.snoc (hcost.trans hle)) .own nofun le_rfl fun τ hτ =>
    ⟨?_, (hlevel τ hτ).2⟩
  rw [credit_snoc]
  exact level_spend_le hle cost hτ

theorem Metered.own_refused (hM : Metered opt key s l shared now) {held : Bucket ℚ}
    (hheld : s.buckets.get? key = some held) :
    Metered opt key (s.put key .own (opt.refill now held)) l shared now := by
  obtain ⟨hupdated, hlevel⟩ := hM.own held hheld
  refine hM.putOwn hM.admitted .own nofun le_rfl fun τ hτ => ?_
  rw [refill_eq, level_refill opt.ratePerMs_nonneg hupdated hτ]
  exact hlevel τ hτ

/-- A key that has paid back has a full credit. -/
theorem Metered.repaid (hM : Metered opt key s l shared now) (hnone : s.buckets.get? key = none)
    (hpaid : credit opt.burst opt.ratePerMs shared now = opt.burst) :
    opt.burst ≤ credit opt.burst opt.ratePerMs l now := by
  have hle := hM.absent hnone now le_rfl
  rwa [hpaid] at hle

/-- A new bucket pays. -/
theorem Metered.created_ok (hM : Metered opt key s l shared now) (hnone : s.buckets.get? key = none)
    (hpaid : credit opt.burst opt.ratePerMs shared now = opt.burst) {cost : ℚ} (hcost : cost ≤ opt.burst) :
    Metered opt key (s.put key .created (spend cost ⟨opt.burst, now⟩)) (l ++ [(now, cost)]) shared now := by
  have hfull := hM.repaid hnone hpaid
  refine hM.putOwn (hM.admitted.snoc (hcost.trans hfull)) .created nofun le_rfl fun τ hτ =>
    ⟨?_, credit_full hM.until_shared hpaid.ge hτ⟩
  rw [credit_snoc, ← refill_full]
  exact level_spend_le ((level_le _ now).trans hfull) cost hτ

theorem Metered.created_refused (hM : Metered opt key s l shared now) (hnone : s.buckets.get? key = none)
    (hpaid : credit opt.burst opt.ratePerMs shared now = opt.burst) :
    Metered opt key (s.put key .created ⟨opt.burst, now⟩) l shared now := by
  refine hM.putOwn hM.admitted .created nofun le_rfl fun τ hτ =>
    ⟨?_, credit_full hM.until_shared hpaid.ge hτ⟩
  rw [credit_full hM.admitted.until_now (hM.repaid hnone hpaid) hτ]
  exact level_le _ τ

/-- The shared bucket pays for a newcomer. -/
theorem Metered.shared_ok (hM : Metered opt key s l shared now) (hnone : s.buckets.get? key = none) {cost : ℚ}
    (hcost : cost ≤ (opt.refill now (s.sharedBucket opt now)).tokens) :
    Metered opt key (s.put key .shared (spend cost (opt.refill now (s.sharedBucket opt now))))
      (l ++ [(now, cost)]) (shared ++ [(now, cost)]) now := by
  obtain ⟨-, hlevel⟩ := hM.shared_level
  have hle := hM.absent hnone now le_rfl
  rw [refill_eq] at hcost
  refine ⟨hM.admitted.snoc (hcost.trans ((hlevel now le_rfl).trans hle)),
    List.forall_mem_append.mpr ⟨hM.until_shared, by simp⟩, fun b hb => ?_, fun _ τ _ => ?_, fun b hb => ?_,
    nofun⟩
  · exact absurd (hnone.symm.trans hb) nofun
  · rw [credit_snoc, credit_snoc]
    exact charge_mono hle τ
  · cases hb
    refine ⟨le_rfl, fun τ hτ => ?_⟩
    rw [credit_snoc]
    exact level_spend_le (hlevel now le_rfl) cost hτ

theorem Metered.shared_refused (hM : Metered opt key s l shared now) (key' : κ) :
    Metered opt key (s.put key' .shared (opt.refill now (s.sharedBucket opt now))) l shared now := by
  obtain ⟨hupdated, hlevel⟩ := hM.shared_level
  refine hM.putShared key' le_rfl fun τ hτ => ?_
  rw [refill_eq, level_refill opt.ratePerMs_nonneg hupdated hτ]
  exact hlevel τ hτ

/-- The shared bucket pays for another. -/
theorem Metered.shared_other (hM : Metered opt key s l shared now) (key' : κ) (cost : ℚ≥0) :
    Metered opt key (s.put key' .shared (spend cost (opt.refill now (s.sharedBucket opt now)))) l shared
      now := by
  obtain ⟨hupdated, hlevel⟩ := hM.shared_level
  exact hM.putShared key' le_rfl fun τ hτ => (charge_le_level hupdated cost hτ).trans (hlevel τ hτ)

theorem take_cases {key : κ} {cost : ℚ≥0} {s₁ s' : Sys κ} {place place' : Place} {b : Bucket ℚ}
    {result : LimitResult} (hbucket : s.bucket opt now key = (s₁, place, b))
    (htake : s.take opt now key cost = (s', place', result)) :
    place' = place ∧ (((cost : ℚ) ≤ b.tokens ∧ result = .ok ∧ s' = s₁.put key place (spend cost b)) ∨
      ∃ w n, result = .refused w ∧ s' = { s₁.put key place b with refused := n }) := by
  rw [take_def] at htake
  simp only [hbucket] at htake
  by_cases hcost : (cost : ℚ) ≤ b.tokens
  · rw [if_pos hcost] at htake
    cases htake
    exact ⟨rfl, Or.inl ⟨hcost, rfl, rfl⟩⟩
  · rw [if_neg hcost] at htake
    cases htake
    exact ⟨rfl, Or.inr ⟨_, _, rfl, rfl⟩⟩

theorem makeRoom_none {key : κ} (hnone : s.buckets.get? key = none) :
    (s.makeRoom opt now).buckets.get? key = none := by
  rw [makeRoom_def]
  split_ifs
  · rw [get?_sweep, hnone, Option.bind_none]
  · exact hnone

/-- **One call of `take`.**  It keeps the account of every key, if a bucket is made only for a key that has paid
back. -/
theorem Metered.take {h : List (Obs κ)} {key' : κ} {cost : ℚ≥0} {s' : Sys κ} {place : Place}
    {result : LimitResult} (hM : Metered opt key s (admittedOf key h) (sharedOf key h) now)
    (hC : s.buckets.get? key' = none → (s.makeRoom opt now).buckets.size < opt.maxKeys →
      credit opt.burst opt.ratePerMs (sharedOf key' h) now = opt.burst)
    (htake : s.take opt now key' cost = (s', place, result)) :
    Metered opt key s' (admittedOf key (h ++ [.took key' cost now place result]))
      (sharedOf key (h ++ [.took key' cost now place result])) now := by
  have hroom := hM.makeRoom
  simp only [admittedOf_snoc, sharedOf_snoc]
  obtain ⟨held, hheld, hbucket⟩ | ⟨hnone, hspace, hbucket⟩ | ⟨hnone, hfull, hbucket⟩ :=
    bucket_cases s opt now key'
  · obtain ⟨rfl, ⟨hcost, rfl, rfl⟩ | ⟨w, n, rfl, rfl⟩⟩ := take_cases hbucket htake
    · by_cases hkey : key' = key
      · subst hkey
        simpa using hM.own_ok hheld hcost
      · simpa [hkey] using hM.putOther hkey .own nofun _
    · simp only [Obs.admits, Obs.shares, List.append_nil]
      by_cases hkey : key' = key
      · subst hkey
        exact (hM.own_refused hheld).congr rfl rfl
      · exact (hM.putOther hkey .own nofun _).congr rfl rfl
  · have hpaid := hC hnone hspace
    obtain ⟨rfl, ⟨hcost, rfl, rfl⟩ | ⟨w, n, rfl, rfl⟩⟩ := take_cases hbucket htake
    · by_cases hkey : key' = key
      · subst hkey
        simpa using hroom.created_ok (makeRoom_none hnone) hpaid hcost
      · simpa [hkey] using hroom.putOther hkey .created nofun _
    · simp only [Obs.admits, Obs.shares, List.append_nil]
      by_cases hkey : key' = key
      · subst hkey
        exact (hroom.created_refused (makeRoom_none hnone) hpaid).congr rfl rfl
      · exact (hroom.putOther hkey .created nofun _).congr rfl rfl
  · -- The call that found the map full is counted, which is no matter.
    have hcounted : Metered opt key
        { s.makeRoom opt now with overflowed := (s.makeRoom opt now).overflowed + 1 }
        (admittedOf key h) (sharedOf key h) now := hroom.congr rfl rfl
    obtain ⟨rfl, ⟨hcost, rfl, rfl⟩ | ⟨w, n, rfl, rfl⟩⟩ := take_cases hbucket htake
    · by_cases hkey : key' = key
      · subst hkey
        simpa [Sys.sharedBucket] using hcounted.shared_ok (makeRoom_none hnone) hcost
      · simpa [hkey, Sys.sharedBucket] using hcounted.shared_other key' cost
    · simp only [Obs.admits, Obs.shares, List.append_nil]
      exact (hcounted.shared_refused key').congr rfl rfl

theorem exhausted_cases {key : κ} {cost : ℚ≥0} {s' : Sys κ} {result : LimitResult}
    (hpeek : s.exhausted opt now key cost = (s', result)) :
    (s.buckets.get? key = none ∧ s' = s ∧ result = .ok) ∨
      ∃ held n, s.buckets.get? key = some held ∧
        s' = { s.put key .own (opt.refill now held) with refused := n } := by
  rw [exhausted_def] at hpeek
  cases hheld : s.buckets.get? key with
  | none =>
    simp only [hheld, Prod.mk.injEq] at hpeek
    exact Or.inl ⟨rfl, hpeek.1.symm, hpeek.2.symm⟩
  | some held =>
    simp only [hheld] at hpeek
    refine Or.inr ⟨held, s'.refused, rfl, ?_⟩
    by_cases hcost : (cost : ℚ) ≤ (opt.refill now held).tokens
    · rw [if_pos hcost] at hpeek
      cases hpeek
      rfl
    · rw [if_neg hcost] at hpeek
      cases hpeek
      rfl

/-- **One call of `exhausted`.** -/
theorem Metered.exhausted (hM : Metered opt key s l shared now) {key' : κ} {cost : ℚ≥0} {s' : Sys κ}
    {result : LimitResult} (hpeek : s.exhausted opt now key' cost = (s', result)) :
    Metered opt key s' l shared now := by
  obtain ⟨-, rfl, -⟩ | ⟨held, n, hheld, rfl⟩ := exhausted_cases hpeek
  · exact hM
  · by_cases hkey : key' = key
    · subst hkey
      exact (hM.own_refused hheld).congr rfl rfl
    · exact (hM.putOther hkey .own nofun _).congr rfl rfl

/-! ## Every run -/

/-- At every time from now on, every key is metered. -/
def AllMetered (opt : Options) (s : Sys κ) (h : List (Obs κ)) : Prop :=
  ∀ key now, After h now → Metered opt key s (admittedOf key h) (sharedOf key h) now

theorem allMetered_init (opt : Options) : AllMetered opt (.init : Sys κ) [] := fun _ _ _ =>
  ⟨⟨List.Pairwise.nil, nofun, bounded_nil opt.burst_pos.le opt.ratePerMs_nonneg⟩, nofun, nofun,
    fun _ _ _ => le_rfl, nofun, fun _ => rfl⟩

omit [DecidableEq κ] in
theorem after_snoc {h : List (Obs κ)} {x : Obs κ} {τ : ℚ} (hτ : After (h ++ [x]) τ) :
    After h τ ∧ ∀ now ∈ x.now?, now ≤ τ :=
  ⟨fun y hy => hτ y (List.mem_append_left _ hy), hτ x (by simp)⟩

theorem AllMetered.step {h o : List (Obs κ)} {a : Act κ} {s' : Sys κ} (hI : AllMetered opt s h)
    (hC : Forward h a ∧ Repaid opt s h a) (hs : (limiting κ opt).step s a = some (s', o)) :
    AllMetered opt s' (h ++ o) := by
  intro key τ hτ
  cases a with
  | take key' cost now =>
    obtain ⟨⟨s₁, place, result⟩, htake⟩ : ∃ r, s.take opt now key' cost = r := ⟨_, rfl⟩
    simp only [limiting, Limiter.step, htake, Option.some.injEq, Prod.mk.injEq] at hs
    obtain ⟨rfl, rfl⟩ := hs
    exact ((hI key now hC.1).take hC.2 htake).later ((after_snoc hτ).2 now rfl)
  | exhausted key' cost now =>
    obtain ⟨⟨s₁, result⟩, hpeek⟩ : ∃ r, s.exhausted opt now key' cost = r := ⟨_, rfl⟩
    simp only [limiting, Limiter.step, hpeek, Option.some.injEq, Prod.mk.injEq] at hs
    obtain ⟨rfl, rfl⟩ := hs
    simpa using ((hI key now hC.1).exhausted hpeek).later ((after_snoc hτ).2 now rfl)
  | stats =>
    simp only [limiting, Limiter.step, Option.some.injEq, Prod.mk.injEq] at hs
    obtain ⟨rfl, rfl⟩ := hs
    simpa using hI key τ (after_snoc hτ).1

omit [DecidableEq κ] in
theorem exists_after : ∀ h : List (Obs κ), ∃ τ, After h τ
  | [] => ⟨0, nofun⟩
  | x :: h => by
    obtain ⟨τ, hτ⟩ := exists_after h
    refine ⟨max τ (x.now?.getD 0), List.forall_mem_cons.mpr ⟨fun now hnow => ?_, fun y hy now hnow => ?_⟩⟩
    · rw [Option.mem_def.mp hnow]
      exact le_max_right _ _
    · exact (hτ y hy now hnow).trans (le_max_left _ _)

theorem AllMetered.budgeted {h : List (Obs κ)} (hI : AllMetered opt s h) : Budgeted opt h := by
  intro key u t hut
  obtain ⟨now, hnow⟩ := exists_after h
  have hrate : opt.ratePerMs * (t - u) = opt.ratePerS * (t - u) / 1000 := by
    rw [Options.ratePerMs]
    ring
  rw [← hrate]
  exact (hI key now hnow).admitted.bounded u t hut

/-- **Token-bucket bound.**  In every run with a clock that does not step back in which buckets are made for keys
that have paid back, each key is admitted in any interval at most a burst and what is refilled in it. -/
theorem budget_bounded {as : List (Act κ)}
    (hC : (limiting κ opt).Meets (fun s h a => Forward h a ∧ Repaid opt s h a) .init [] as) :
    (limiting κ opt).Along (fun _ h => Budgeted opt h) .init [] as :=
  along_of_meets (fun hI hC hs => hI.step hC hs) (fun hI => hI.budgeted) (allMetered_init opt) hC

instance (h : List (Obs κ)) (τ : ℚ) : Decidable (After h τ) :=
  inferInstanceAs (Decidable (∀ x ∈ h, ∀ now ∈ x.now?, now ≤ τ))

instance (h : List (Obs κ)) : DecidablePred (Forward h)
  | .take _ _ now => inferInstanceAs (Decidable (After h now))
  | .exhausted _ _ now => inferInstanceAs (Decidable (After h now))
  | .stats => isTrue trivial

instance (opt : Options) (s : Sys κ) (h : List (Obs κ)) : DecidablePred (Repaid opt s h)
  | .take _ _ _ => inferInstanceAs (Decidable (_ → _ → _))
  | .exhausted _ _ _ => isTrue trivial
  | .stats => isTrue trivial

/-- The second key spends the shared bucket, pays it back and is given its own. -/
def rotatedRun : List (Act String) :=
  sharedRun ++ [.exhausted "10.0.0.2" 1 1999, takeBurst 3999, .stats]

theorem budget_bounded_rotatedRun :
    (limiting String oneKey).Along (fun _ h => Budgeted oneKey h) .init [] rotatedRun :=
  budget_bounded (by decide +kernel)

/-- The same without waiting. -/
def crowdedRun : List (Act String) := sharedRun ++ [takeBurst 1000]

theorem crowdedRun_isSome : ((limiting String oneKey).exec .init crowdedRun).isSome = true := by decide +kernel

/-- A key that spends the shared bucket and is then given its own has two bursts. -/
theorem two_bursts : ∃ s h, (limiting String oneKey).exec .init crowdedRun = some (s, h) ∧
    (limiting String oneKey).Meets (fun _ h a => Forward h a) .init [] crowdedRun ∧ ¬ Budgeted oneKey h := by
  let r := ((limiting String oneKey).exec .init crowdedRun).get crowdedRun_isSome
  refine ⟨r.1, r.2, (Option.some_get crowdedRun_isSome).symm, by decide +kernel, fun hB => ?_⟩
  have hspent : spent 999 1000 (admittedOf "10.0.0.2" r.2) = 6 := by decide +kernel
  have hbound := hB "10.0.0.2" 999 1000 (by norm_num)
  rw [hspent] at hbound
  norm_num [oneKey] at hbound

end DTwin.Limiter
