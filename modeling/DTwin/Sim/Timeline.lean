import Mathlib.Tactic.Common
import Mathlib.Tactic.Ring
import Mathlib.Data.List.Basic
import Mathlib.Algebra.Order.Ring.Int

/-!
# DTwin.Sim.Timeline — the stamps of a period

`timeline` is the loop of `_timeline`: the instants from `start` in steps of `step` that lie before `finish`.  An
instant is a number of microseconds, the resolution of `datetime`.  `timeline_eq` writes it as a list with
`count` entries, and `lt_count_iff` says which indices are among them.
-/

namespace DTwin.Sim

/-- Microseconds since the epoch. -/
abbrev Instant := ℤ

/-- `timedelta(seconds=s)`. -/
def seconds (s : ℤ) : ℤ := s * 1000000

/-- `_timeline(start, end, step_s)`; `none` when the cursor never reaches the end. -/
def timeline (start finish step : ℤ) : Option (List Instant) :=
  if start < finish then
    if step ≤ 0 then none else (timeline (start + step) finish step).map (start :: ·)
  else some []
termination_by (finish - start).toNat
decreasing_by
  omega

theorem timeline_of_nonpos {start finish step : ℤ} (hlt : start < finish) (hs : step ≤ 0) :
    timeline start finish step = none := by
  rw [timeline, if_pos hlt, if_pos hs]

/-- How many multiples of `step` from `start` lie before `finish`. -/
def count (start finish step : ℤ) : ℕ := ((finish - start + step - 1) / step).toNat

theorem lt_count_iff {start finish step : ℤ} (hs : 0 < step) (i : ℕ) :
    i < count start finish step ↔ start + i * step < finish := by
  unfold count
  rw [Int.lt_toNat, ← Int.add_one_le_iff, Int.le_ediv_iff_mul_le hs, add_mul, one_mul]
  omega

theorem count_succ {start finish step : ℤ} (hs : 0 < step) (hlt : start < finish) :
    count start finish step = count (start + step) finish step + 1 := by
  refine le_antisymm (not_lt.mp fun h => ?_) (not_lt.mp fun h => ?_)
  · have h₁ := (lt_count_iff hs _).mp h
    have h₂ := mt (lt_count_iff hs (count (start + step) finish step)).mpr (lt_irrefl _)
    push_cast at h₁
    rw [add_mul, one_mul] at h₁
    omega
  · have hpos : 0 < count start finish step := (lt_count_iff hs 0).mpr (by simpa using hlt)
    obtain ⟨n, hn⟩ : ∃ n, count start finish step = n + 1 := ⟨_, (Nat.succ_pred_eq_of_pos hpos).symm⟩
    rw [hn, Nat.add_lt_add_iff_right] at h
    have h₁ := (lt_count_iff hs _).mp h
    have h₂ := mt (lt_count_iff hs (n + 1)).mpr (by rw [hn]; exact lt_irrefl _)
    push_cast at h₂
    rw [add_mul, one_mul] at h₂
    omega

/-- The stamps are the multiples of the step. -/
theorem timeline_eq {finish step : ℤ} (hs : 0 < step) (start : ℤ) :
    timeline start finish step = some ((List.range (count start finish step)).map fun i : ℕ => start + i * step) := by
  rw [timeline]
  by_cases hlt : start < finish
  · have ih : timeline (start + step) finish step = _ := timeline_eq hs (start + step)
    rw [if_pos hlt, if_neg (not_le.mpr hs), ih, count_succ hs hlt, List.range_succ_eq_map]
    simp only [Option.map_some, List.map_cons, List.map_map, Option.some.injEq, List.cons.injEq]
    refine ⟨by simp, List.map_congr_left fun i _ => ?_⟩
    simp only [Function.comp_apply]
    push_cast
    ring
  · have hzero : count start finish step = 0 :=
      Nat.eq_zero_of_not_pos fun h => hlt (by simpa using (lt_count_iff hs 0).mp h)
    rw [if_neg hlt, hzero]
    rfl
termination_by (finish - start).toNat

end DTwin.Sim
