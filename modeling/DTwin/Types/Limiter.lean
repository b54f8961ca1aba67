import DTwin.Lib.Machine
import DTwin.Lib.Numerals
import DTwin.Lib.OrderedMap
import DTwin.Lib.TokenBucket
import Mathlib.Algebra.Order.Field.Rat
import Mathlib.Algebra.Order.Ring.Rat
import Mathlib.Data.Rat.Floor

/-!
# DTwin.Types.Limiter — a keyed token bucket

`packages/types/src/limiter.ts`.  Each call reads the clock, which is in its label and is not said to move
forward; tokens are rational numbers, and a cost is one that is not negative.  The source's are doubles: what it
computes is rounded (`limitingIn Double.nearest`).  Where an ulp does not matter the numbers are exact (`limiting`).
-/

namespace DTwin.Limiter

open OrderedMap TokenBucket

structure Options where
  ratePerS : ℚ
  burst : ℚ
  maxKeys : ℕ
  ratePerS_pos : 0 < ratePerS
  burst_pos : 0 < burst
  maxKeys_pos : 0 < maxKeys

/-- Tokens added per millisecond. -/
def Options.ratePerMs (opt : Options) : ℚ := opt.ratePerS / 1000

/-- An answer; there is no wait after which a cost above the burst would succeed. -/
inductive LimitResult
  | ok
  | refused (retryAfterS : Option ℤ)
deriving DecidableEq

variable {κ : Type} [DecidableEq κ]

structure Sys (κ : Type) where
  buckets : OrderedMap κ (Bucket ℚ)
  overflow : Option (Bucket ℚ)
  refused : ℕ
  overflowed : ℕ

/-- Where the bucket of a call is. -/
inductive Place | own | created | shared
deriving DecidableEq

/-- The bucket that newcomers share, with its first refill to come. -/
def Sys.sharedBucket (s : Sys κ) (opt : Options) (now : ℚ) : Bucket ℚ := s.overflow.getD ⟨opt.burst, now⟩

def Sys.put (s : Sys κ) (key : κ) (place : Place) (bucket : Bucket ℚ) : Sys κ :=
  match place with
  | .shared => { s with overflow := some bucket }
  | _ => { s with buckets := s.buckets.set key bucket }

/-! Every operation on tokens and times is rounded, by `rnd`: by `Double.nearest` as it is in the source, or by `id`
where the numbers are taken as exact. -/

section Rounded

variable (rnd : ℚ → ℚ)

/-- `#refill`, the clock reading `now`. -/
def Options.refillIn (opt : Options) (now : ℚ) (bucket : Bucket ℚ) : Bucket ℚ :=
  let elapsedS := rnd (max 0 (rnd (now - bucket.updatedAt)) / 1000)
  ⟨min opt.burst (rnd (bucket.tokens + rnd (elapsedS * opt.ratePerS))), now⟩

/-- `#sweep`: drop every bucket that has refilled completely. -/
def Sys.sweepIn (s : Sys κ) (opt : Options) (now : ℚ) : Sys κ :=
  { s with
    buckets := s.buckets.filterMapValues fun bucket =>
      if opt.burst ≤ (opt.refillIn rnd now bucket).tokens then none else some (opt.refillIn rnd now bucket) }

/-- The sweep of a call that found the map full. -/
def Sys.makeRoomIn (s : Sys κ) (opt : Options) (now : ℚ) : Sys κ :=
  if opt.maxKeys ≤ s.buckets.size then s.sweepIn rnd opt now else s

/-- `#bucket`, before the bucket is put where it is. -/
def Sys.bucketIn (s : Sys κ) (opt : Options) (now : ℚ) (key : κ) : Sys κ × Place × Bucket ℚ :=
  match s.buckets.get? key with
  | some held => (s, .own, opt.refillIn rnd now held)
  | none =>
    let s := s.makeRoomIn rnd opt now
    if opt.maxKeys ≤ s.buckets.size then
      ({ s with overflowed := s.overflowed + 1 }, .shared, opt.refillIn rnd now (s.sharedBucket opt now))
    else (s, .created, ⟨opt.burst, now⟩)

/-- How long a refused call is told to wait; there is no wait for a cost above the burst. -/
def Options.waitIn (opt : Options) (tokens : ℚ) (cost : ℚ≥0) : ℤ := ⌈rnd (rnd (cost - tokens) / opt.ratePerS)⌉

/-- Spend `cost` tokens for `key`, or say how long until that would succeed. -/
def Sys.takeIn (s : Sys κ) (opt : Options) (now : ℚ) (key : κ) (cost : ℚ≥0) : Sys κ × Place × LimitResult :=
  let (s, place, bucket) := s.bucketIn rnd opt now key
  if (cost : ℚ) ≤ bucket.tokens then
    (s.put key place { bucket with tokens := rnd (bucket.tokens - cost) }, place, .ok)
  else
    ({ s.put key place bucket with refused := s.refused + 1 }, place,
      .refused (if opt.burst < (cost : ℚ) then none else some (opt.waitIn rnd bucket.tokens cost)))

/-- Whether `key` is out of tokens, without spending one. -/
def Sys.exhaustedIn (s : Sys κ) (opt : Options) (now : ℚ) (key : κ) (cost : ℚ≥0) : Sys κ × LimitResult :=
  match s.buckets.get? key with
  | none => (s, .ok)
  | some held =>
    let bucket := opt.refillIn rnd now held
    let s := s.put key .own bucket
    if (cost : ℚ) ≤ bucket.tokens then (s, .ok)
    else ({ s with refused := s.refused + 1 }, .refused (some (opt.waitIn rnd bucket.tokens cost)))

end Rounded

/-! The same with exact numbers. -/

def Options.refill (opt : Options) (now : ℚ) (bucket : Bucket ℚ) : Bucket ℚ := opt.refillIn id now bucket

def Sys.sweep (s : Sys κ) (opt : Options) (now : ℚ) : Sys κ := s.sweepIn id opt now

def Sys.makeRoom (s : Sys κ) (opt : Options) (now : ℚ) : Sys κ := s.makeRoomIn id opt now

def Sys.bucket (s : Sys κ) (opt : Options) (now : ℚ) (key : κ) : Sys κ × Place × Bucket ℚ := s.bucketIn id opt now key

def Sys.take (s : Sys κ) (opt : Options) (now : ℚ) (key : κ) (cost : ℚ≥0) : Sys κ × Place × LimitResult :=
  s.takeIn id opt now key cost

def Sys.exhausted (s : Sys κ) (opt : Options) (now : ℚ) (key : κ) (cost : ℚ≥0) : Sys κ × LimitResult :=
  s.exhaustedIn id opt now key cost

omit [DecidableEq κ] in
theorem makeRoom_def (s : Sys κ) (opt : Options) (now : ℚ) :
    s.makeRoom opt now = if opt.maxKeys ≤ s.buckets.size then s.sweep opt now else s := rfl

theorem bucket_def (s : Sys κ) (opt : Options) (now : ℚ) (key : κ) : s.bucket opt now key =
    match s.buckets.get? key with
    | some held => (s, .own, opt.refill now held)
    | none =>
      let s := s.makeRoom opt now
      if opt.maxKeys ≤ s.buckets.size then
        ({ s with overflowed := s.overflowed + 1 }, .shared, opt.refill now (s.sharedBucket opt now))
      else (s, .created, ⟨opt.burst, now⟩) := rfl

theorem take_def (s : Sys κ) (opt : Options) (now : ℚ) (key : κ) (cost : ℚ≥0) : s.take opt now key cost =
    let (s, place, bucket) := s.bucket opt now key
    if (cost : ℚ) ≤ bucket.tokens then (s.put key place (spend (cost : ℚ) bucket), place, .ok)
    else
      ({ s.put key place bucket with refused := s.refused + 1 }, place,
        .refused (if opt.burst < (cost : ℚ) then none else some ⌈(cost - bucket.tokens) / opt.ratePerS⌉)) := rfl

theorem exhausted_def (s : Sys κ) (opt : Options) (now : ℚ) (key : κ) (cost : ℚ≥0) : s.exhausted opt now key cost =
    match s.buckets.get? key with
    | none => (s, .ok)
    | some held =>
      let bucket := opt.refill now held
      let s := s.put key .own bucket
      if (cost : ℚ) ≤ bucket.tokens then (s, .ok)
      else
        ({ s with refused := s.refused + 1 }, .refused (some ⌈(cost - bucket.tokens) / opt.ratePerS⌉)) := rfl

structure StatsView where
  keys : ℕ
  refused : ℕ
  overflowed : ℕ

def Sys.stats (s : Sys κ) : StatsView := ⟨s.buckets.size, s.refused, s.overflowed⟩

inductive Act (κ : Type)
  | take (key : κ) (cost : ℚ≥0) (now : ℚ)
  | exhausted (key : κ) (cost : ℚ≥0) (now : ℚ)
  | stats

inductive Obs (κ : Type)
  | took (key : κ) (cost : ℚ≥0) (now : ℚ) (place : Place) (result : LimitResult)
  | peeked (key : κ) (cost : ℚ≥0) (now : ℚ) (result : LimitResult)
  | stats (view : StatsView)

def stepIn (rnd : ℚ → ℚ) (opt : Options) (s : Sys κ) : Act κ → Option (Sys κ × List (Obs κ))
  | .take key cost now =>
    let (s', place, result) := s.takeIn rnd opt now key cost
    some (s', [.took key cost now place result])
  | .exhausted key cost now =>
    let (s', result) := s.exhaustedIn rnd opt now key cost
    some (s', [.peeked key cost now result])
  | .stats => some (s, [.stats s.stats])

def limitingIn (rnd : ℚ → ℚ) (κ : Type) [DecidableEq κ] (opt : Options) : Machine (Sys κ) (Act κ) (Obs κ) :=
  ⟨stepIn rnd opt⟩

def step (opt : Options) (s : Sys κ) : Act κ → Option (Sys κ × List (Obs κ))
  | .take key cost now =>
    let (s', place, result) := s.take opt now key cost
    some (s', [.took key cost now place result])
  | .exhausted key cost now =>
    let (s', result) := s.exhausted opt now key cost
    some (s', [.peeked key cost now result])
  | .stats => some (s, [.stats s.stats])

def limiting (κ : Type) [DecidableEq κ] (opt : Options) : Machine (Sys κ) (Act κ) (Obs κ) := ⟨step opt⟩

/-- The limiter over exact numbers is the one that rounds nothing. -/
theorem limiting_eq (opt : Options) : limiting κ opt = limitingIn id κ opt := by
  have hstep : (step opt : Sys κ → Act κ → _) = stepIn id opt := by
    funext s a
    cases a <;> rfl
  rw [limiting, hstep, limitingIn]

def Sys.init : Sys κ := ⟨.empty, none, 0, 0⟩

/-! ## The bucket of a call -/

theorem Options.ratePerMs_nonneg (opt : Options) : 0 ≤ opt.ratePerMs :=
  div_nonneg opt.ratePerS_pos.le (by norm_num)

theorem refill_eq (opt : Options) (now : ℚ) (bucket : Bucket ℚ) :
    opt.refill now bucket = TokenBucket.refill opt.burst opt.ratePerMs now bucket := by
  have helapsed : max 0 (now - bucket.updatedAt) / 1000 * opt.ratePerS =
      max 0 (now - bucket.updatedAt) * opt.ratePerMs := by
    rw [Options.ratePerMs]
    ring
  simp only [Options.refill, Options.refillIn, id, TokenBucket.refill, level, helapsed]

/-- A full bucket is the one it is refilled to. -/
theorem refill_full (opt : Options) (now : ℚ) : opt.refill now ⟨opt.burst, now⟩ = ⟨opt.burst, now⟩ := by
  simp [Options.refill, Options.refillIn]

/-- `#bucket`: the key's own, a new one if there is room, or else the one that is shared. -/
theorem bucketIn_cases (rnd : ℚ → ℚ) (s : Sys κ) (opt : Options) (now : ℚ) (key : κ) :
    (∃ held, s.buckets.get? key = some held ∧ s.bucketIn rnd opt now key = (s, .own, opt.refillIn rnd now held)) ∨
    (s.buckets.get? key = none ∧ (s.makeRoomIn rnd opt now).buckets.size < opt.maxKeys ∧
      s.bucketIn rnd opt now key = (s.makeRoomIn rnd opt now, .created, ⟨opt.burst, now⟩)) ∨
    s.buckets.get? key = none ∧ opt.maxKeys ≤ (s.makeRoomIn rnd opt now).buckets.size ∧
      s.bucketIn rnd opt now key =
        ({ s.makeRoomIn rnd opt now with overflowed := (s.makeRoomIn rnd opt now).overflowed + 1 }, .shared,
          opt.refillIn rnd now ((s.makeRoomIn rnd opt now).sharedBucket opt now)) := by
  unfold Sys.bucketIn
  cases hheld : s.buckets.get? key with
  | some held => exact Or.inl ⟨held, rfl, rfl⟩
  | none =>
    by_cases hfull : opt.maxKeys ≤ (s.makeRoomIn rnd opt now).buckets.size
    · exact Or.inr (Or.inr ⟨rfl, hfull, by simp only [if_pos hfull]⟩)
    · exact Or.inr (Or.inl ⟨rfl, not_le.mp hfull, by simp only [if_neg hfull]⟩)

theorem bucket_cases (s : Sys κ) (opt : Options) (now : ℚ) (key : κ) :
    (∃ held, s.buckets.get? key = some held ∧ s.bucket opt now key = (s, .own, opt.refill now held)) ∨
    (s.buckets.get? key = none ∧ (s.makeRoom opt now).buckets.size < opt.maxKeys ∧
      s.bucket opt now key = (s.makeRoom opt now, .created, ⟨opt.burst, now⟩)) ∨
    s.buckets.get? key = none ∧ opt.maxKeys ≤ (s.makeRoom opt now).buckets.size ∧
      s.bucket opt now key =
        ({ s.makeRoom opt now with overflowed := (s.makeRoom opt now).overflowed + 1 }, .shared,
          opt.refill now ((s.makeRoom opt now).sharedBucket opt now)) :=
  bucketIn_cases id s opt now key

omit [DecidableEq κ] in
theorem makeRoomIn_overflow (rnd : ℚ → ℚ) (s : Sys κ) (opt : Options) (now : ℚ) :
    (s.makeRoomIn rnd opt now).overflow = s.overflow := by
  unfold Sys.makeRoomIn
  split_ifs <;> rfl

omit [DecidableEq κ] in
theorem makeRoom_overflow (s : Sys κ) (opt : Options) (now : ℚ) :
    (s.makeRoom opt now).overflow = s.overflow := makeRoomIn_overflow id s opt now

/-- A sweep refills a bucket, or drops it if that fills it. -/
theorem get?_sweepIn (rnd : ℚ → ℚ) (s : Sys κ) (opt : Options) (now : ℚ) (key : κ) :
    (s.sweepIn rnd opt now).buckets.get? key = (s.buckets.get? key).bind fun bucket =>
      if opt.burst ≤ (opt.refillIn rnd now bucket).tokens then none else some (opt.refillIn rnd now bucket) :=
  get?_filterMapValues ..

theorem get?_sweep (s : Sys κ) (opt : Options) (now : ℚ) (key : κ) :
    (s.sweep opt now).buckets.get? key = (s.buckets.get? key).bind fun bucket =>
      if opt.burst ≤ (opt.refill now bucket).tokens then none else some (opt.refill now bucket) :=
  get?_sweepIn id s opt now key

theorem put_own (s : Sys κ) (key key' : κ) {place : Place} (hplace : place ≠ .shared) (b : Bucket ℚ) :
    (s.put key place b).buckets.get? key' = (if key = key' then some b else s.buckets.get? key') ∧
      (s.put key place b).overflow = s.overflow := by
  cases place with
  | shared => exact absurd rfl hplace
  | _ => exact ⟨get?_set .., rfl⟩

/-- A limiter of one key: a burst of 3, and one token per second. -/
def oneKey : Options := ⟨1, 3, 1, rfl, rfl, Nat.succ_pos 0⟩

/-- The second key takes a whole burst. -/
def takeBurst (now : ℚ) : Act String := .take "10.0.0.2" 3 now

/-- What there is in a full bucket of that limiter. -/
def wholeBurst : ℚ≥0 := 3

/-- It takes all that newcomers share. -/
def sharedRun : List (Act String) := [.take "10.0.0.1" 1 0, takeBurst 999]

end DTwin.Limiter
