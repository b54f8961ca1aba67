import DTwin.Lib.Decimal
import DTwin.Types.Telemetry

/-!
# DTwin.Copilot.Windows — the windows that the tools take

`Window`, `checkWindow`, `bucketsIn` and `coveragePct` of `apps/web/lib/copilot/tools/common.ts`.  Instants are in
milliseconds, and the tolerance is the default.
-/

namespace DTwin.Copilot

structure Window where
  fromMs : ℤ
  toMs : ℤ

inductive WindowRefusal
  | notOnWholeHour
  | notAfter
  | inFuture (now : ℤ)
  | tooLong (spanMs maxH : ℤ)

def FUTURE_TOLERANCE_S : ℤ := 300

/-- `checkWindow`, the clock reading `now`. -/
def checkWindow (fromMs toMs maxH now : ℤ) : Except WindowRefusal Window :=
  if toMs ≤ fromMs then .error .notAfter
  else if now + FUTURE_TOLERANCE_S * 1000 < toMs then .error (.inFuture now)
  else if maxH * HOUR_MS < toMs - fromMs then .error (.tooLong (toMs - fromMs) maxH)
  else .ok ⟨fromMs, toMs⟩

/-- Buckets starting in a window. -/
def bucketsIn (fromMs toMs widthS : ℤ) : ℕ :=
  (⌈(toMs : ℚ) / (widthS * 1000)⌉ - ⌈(fromMs : ℚ) / (widthS * 1000)⌉).toNat

/-- good / expected as a percentage to 0.1, or null when nothing was expected. -/
def coveragePct (good expected : ℤ) : Option ℚ :=
  if 0 < expected then some (Decimal.mathRound ((good : ℚ) / expected * 1000) / 10) else none

/-! ## Lemmas -/

theorem bucketsIn_eq (fromMs toMs : ℤ) {widthS : ℤ} (hwidth : 0 ≤ widthS) :
    bucketsIn fromMs toMs widthS = (-(-toMs / (widthS * 1000)) - -(-fromMs / (widthS * 1000))).toNat := by
  obtain ⟨n, rfl⟩ := Int.eq_ofNat_of_zero_le hwidth
  have hceil : ∀ t : ℤ, ⌈(t : ℚ) / ((n : ℤ) * 1000)⌉ = -(-t / (n * 1000)) := by
    intro t
    have hcast := Rat.ceil_intCast_div_natCast t (n * 1000)
    push_cast at hcast
    exact_mod_cast hcast
  rw [bucketsIn, hceil, hceil]

theorem coveragePct_le {good expected : ℤ} (h : good ≤ expected) : ∀ p ∈ coveragePct good expected, p ≤ 100 := by
  intro p hp
  unfold coveragePct at hp
  split_ifs at hp with hpos
  · obtain rfl := Option.mem_some_iff.mp hp
    have hpos' : (0 : ℚ) < expected := by exact_mod_cast hpos
    have hratio : (good : ℚ) / expected ≤ 1 := by
      rw [div_le_one hpos']
      exact_mod_cast h
    have hround : Decimal.mathRound ((good : ℚ) / expected * 1000) ≤ 1000 := by
      refine Decimal.mathRound_le ?_
      push_cast
      linarith
    have hcast : (Decimal.mathRound ((good : ℚ) / expected * 1000) : ℚ) ≤ 1000 := by exact_mod_cast hround
    linarith
  · exact absurd hp (Option.not_mem_none p)

end DTwin.Copilot
