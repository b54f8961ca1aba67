import DTwin.Sim.Physics
import Mathlib.Tactic.Positivity
import Mathlib.Tactic.Ring

/-!
# DTwin.Sim.Irradiance — beam and diffuse from the global irradiance

`split_ghi` of `solar.py` at one stamp, from the sine of the sun's altitude and the extraterrestrial irradiance of the
day. The diffuse fraction stays within zero and one (`diffuseFraction_mem`), so the parts are parts of the whole
(`split_physical`).  The clearness index that it is read at is clipped at one, and the irradiance that is split is not
(`splitGhi_iff`). -/

namespace DTwin.Sim.Physics

variable {K : Type*} [Field K] [LinearOrder K]

/-- The middle piece of the correlation. -/
def erbsQuartic (kt : K) : K :=
  9511 / 10000 - 1604 / 10000 * kt + 4388 / 1000 * kt ^ 2 - 16638 / 1000 * kt ^ 3 + 12336 / 1000 * kt ^ 4

/-- `diffuse_fraction`, the Erbs correlation. -/
def diffuseFraction (kt : K) : K :=
  if kt ≤ 22 / 100 then 1 - 9 / 100 * kt else if kt ≤ 80 / 100 then erbsQuartic kt else 165 / 1000

/-- The least denominator. -/
def LEAST : K := 1 / 1000000

def daytime (sinAlt : K) : Bool := 1 / 100 < sinAlt

/-- `kt`. -/
def clearness (ghi sinAlt i0 : K) : K := clip (if daytime sinAlt then ghi / max (i0 * sinAlt) LEAST else 0) 0 1

structure Split (K : Type*) where
  dni : K
  dhi : K

/-- `split_ghi`. -/
def splitGhi (ghi sinAlt i0 : K) : Split K :=
  let dhi := if daytime sinAlt then ghi * diffuseFraction (clearness ghi sinAlt i0) else 0
  let dni := if daytime sinAlt then (ghi - dhi) / max sinAlt LEAST else 0
  { dni := max dni 0, dhi := max dhi 0 }

/-- The parts of a global irradiance. -/
structure Split.Physical (s : Split K) (ghi sinAlt : K) : Prop where
  dni : 0 ≤ s.dni
  dhi : 0 ≤ s.dhi
  part : s.dhi ≤ ghi
  whole : s.dhi + s.dni * sinAlt = ghi

/-- What the correlation takes for beam is no more than what arrives above the atmosphere.  Above the least
denominator that bounds the irradiance alone: a clear sky lets 83.5 % through. -/
def BeamLimited (ghi sinAlt i0 : K) : Prop :=
  if LEAST ≤ i0 * sinAlt then 835 / 1000 * ghi ≤ i0 * sinAlt
  else (1 - diffuseFraction (min (ghi / LEAST) 1)) * ghi ≤ i0 * sinAlt

variable [IsStrictOrderedRing K]

/-! ## The correlation -/

theorem erbsQuartic_nonneg {kt : K} (hkt : 0 ≤ kt) : 0 ≤ erbsQuartic kt := by
  have hsquares : erbsQuartic kt = 12336 / 1000 * (kt ^ 2 - 2773 / 4112 * kt - 1 / 10) ^ 2
      + 25599977 / 20560000 * (kt - 3 / 4) ^ 2 + (25599977 / 20560000 * (3 / 2) - 9121 / 5000) * kt
      + (41387 / 50000 - 25599977 / 20560000 * (9 / 16)) := by
    unfold erbsQuartic
    ring
  have hslope : (0 : K) ≤ 25599977 / 20560000 * (3 / 2) - 9121 / 5000 := by norm_num
  have hrest : (0 : K) ≤ 41387 / 50000 - 25599977 / 20560000 * (9 / 16) := by norm_num
  rw [hsquares]
  have hline := mul_nonneg hslope hkt
  positivity

/-- The quartic about the lower end of its piece. -/
theorem erbsQuartic_le_one {kt : K} (hlow : 22 / 100 ≤ kt) (hhigh : kt ≤ 80 / 100) : erbsQuartic kt ≤ 1 := by
  obtain ⟨u, rfl⟩ : ∃ u, kt = 22 / 100 + u := ⟨kt - 22 / 100, by ring⟩
  have hu : 0 ≤ u := by linarith only [hlow]
  have hend : u ≤ 58 / 100 := by linarith only [hhigh]
  have hshift : 1 - erbsQuartic (22 / 100 + u) = 31363131 / 1562500000 + 3753209 / 31250000 * u
      + u ^ 2 * (1881691 / 625000 + 72279 / 12500 * u - 1542 / 125 * (u * u)) := by
    unfold erbsQuartic
    ring
  have hsquare : u * u ≤ 58 / 100 * u := mul_le_mul_of_nonneg_right hend hu
  have htail : 0 ≤ 1881691 / 625000 + 72279 / 12500 * u - 1542 / 125 * (u * u) := by
    linarith only [hsquare, hend]
  have hrest : 0 ≤ u ^ 2 * (1881691 / 625000 + 72279 / 12500 * u - 1542 / 125 * (u * u)) :=
    mul_nonneg (sq_nonneg u) htail
  linarith only [hshift, hrest, hu]

theorem diffuseFraction_mem {kt : K} (hkt : 0 ≤ kt) : 0 ≤ diffuseFraction kt ∧ diffuseFraction kt ≤ 1 := by
  unfold diffuseFraction
  by_cases hlow : kt ≤ 22 / 100
  · rw [if_pos hlow]
    constructor <;> linarith only [hkt, hlow]
  · rw [if_neg hlow]
    by_cases hmiddle : kt ≤ 80 / 100
    · rw [if_pos hmiddle]
      exact ⟨erbsQuartic_nonneg hkt, erbsQuartic_le_one (not_le.mp hlow).le hmiddle⟩
    · rw [if_neg hmiddle]
      constructor <;> norm_num

theorem diffuseFraction_one : diffuseFraction (1 : K) = 165 / 1000 := by
  have hlow : ¬ (1 : K) ≤ 22 / 100 := by norm_num
  have hmiddle : ¬ (1 : K) ≤ 80 / 100 := by norm_num
  rw [diffuseFraction, if_neg hlow, if_neg hmiddle]

/-! ## The split by day -/

section Day

variable {ghi sinAlt i0 : K} (hday : 1 / 100 < sinAlt) (hghi : 0 ≤ ghi)

include hday

theorem sinAlt_pos : 0 < sinAlt := lt_trans (by norm_num) hday

theorem clearness_of_day (hghi : 0 ≤ ghi) : clearness ghi sinAlt i0 = min (ghi / max (i0 * sinAlt) LEAST) 1 := by
  have hleast : (0 : K) < LEAST := by
    unfold LEAST
    norm_num
  have hratio : 0 ≤ ghi / max (i0 * sinAlt) LEAST := div_nonneg hghi (hleast.le.trans (le_max_right _ _))
  unfold clearness daytime
  rw [decide_eq_true hday, if_pos rfl, clip, max_eq_left hratio]

omit hday in
theorem clearness_nonneg : 0 ≤ clearness ghi sinAlt i0 := le_min (le_max_right _ _) zero_le_one

include hghi

theorem dhi_of_day : (splitGhi ghi sinAlt i0).dhi = ghi * diffuseFraction (clearness ghi sinAlt i0) := by
  have hfraction := diffuseFraction_mem (clearness_nonneg : 0 ≤ clearness ghi sinAlt i0)
  unfold splitGhi daytime
  rw [decide_eq_true hday]
  exact max_eq_left (mul_nonneg hghi hfraction.1)

theorem dni_of_day : (splitGhi ghi sinAlt i0).dni =
    (1 - diffuseFraction (clearness ghi sinAlt i0)) * ghi / sinAlt := by
  have hfraction := diffuseFraction_mem (clearness_nonneg : 0 ≤ clearness ghi sinAlt i0)
  have hsin := sinAlt_pos hday
  have hfloor : max sinAlt LEAST = sinAlt := by
    refine max_eq_left (le_trans ?_ hday.le)
    unfold LEAST
    norm_num
  have hbeam : ghi - ghi * diffuseFraction (clearness ghi sinAlt i0) =
      (1 - diffuseFraction (clearness ghi sinAlt i0)) * ghi := by ring
  have hnonneg : 0 ≤ (1 - diffuseFraction (clearness ghi sinAlt i0)) * ghi / sinAlt :=
    div_nonneg (mul_nonneg (sub_nonneg.mpr hfraction.2) hghi) hsin.le
  unfold splitGhi daytime
  rw [decide_eq_true hday]
  simp only [if_true]
  rw [hfloor, hbeam, max_eq_left hnonneg]

/-- **The split** parts the irradiance and loses nothing. -/
theorem split_physical : (splitGhi ghi sinAlt i0).Physical ghi sinAlt := by
  have hfraction := diffuseFraction_mem (clearness_nonneg : 0 ≤ clearness ghi sinAlt i0)
  have hsin := sinAlt_pos hday
  refine ⟨le_max_right _ _, le_max_right _ _, ?_, ?_⟩
  · rw [dhi_of_day hday hghi]
    exact mul_le_of_le_one_right hghi hfraction.2
  · rw [dhi_of_day hday hghi, dni_of_day hday hghi, div_mul_cancel₀ _ hsin.ne']
    ring

theorem dni_le_iff : (splitGhi ghi sinAlt i0).dni ≤ i0 ↔
    (1 - diffuseFraction (min (ghi / max (i0 * sinAlt) LEAST) 1)) * ghi ≤ i0 * sinAlt := by
  rw [dni_of_day hday hghi, clearness_of_day hday hghi, div_le_iff₀ (sinAlt_pos hday)]

/-- The beam is that of the clear sky as soon as the clip is reached, and within the bound before. -/
theorem dni_le_iff_limited : (splitGhi ghi sinAlt i0).dni ≤ i0 ↔ BeamLimited ghi sinAlt i0 := by
  have hleast : (0 : K) < LEAST := by
    unfold LEAST
    norm_num
  rw [dni_le_iff hday hghi, BeamLimited]
  by_cases hfloor : LEAST ≤ i0 * sinAlt
  · have hpos : 0 < i0 * sinAlt := hleast.trans_le hfloor
    rw [if_pos hfloor, max_eq_left hfloor]
    rcases le_or_gt ghi (i0 * sinAlt) with hless | hmore
    · have hratio : 0 ≤ min (ghi / (i0 * sinAlt)) 1 := le_min (div_nonneg hghi hpos.le) zero_le_one
      have hfraction := diffuseFraction_mem hratio
      have hbeam : (1 - diffuseFraction (min (ghi / (i0 * sinAlt)) 1)) * ghi ≤ ghi :=
        mul_le_of_le_one_left hghi (sub_le_self _ hfraction.1)
      refine iff_of_true (hbeam.trans hless) ?_
      linarith only [hless, hghi]
    · have hclipped : min (ghi / (i0 * sinAlt)) 1 = 1 := min_eq_right ((one_le_div hpos).mpr hmore.le)
      have hclear : (1 : K) - 165 / 1000 = 835 / 1000 := by norm_num
      rw [hclipped, diffuseFraction_one, hclear]
  · rw [if_neg hfloor, max_eq_right (not_le.mp hfloor).le]

/-- **When the split is physical**: by day it always parts the whole, and the beam is within the extraterrestrial
irradiance exactly if the irradiance is no more than a clear sky lets through. -/
theorem splitGhi_iff : (splitGhi ghi sinAlt i0).Physical ghi sinAlt ∧
    ((splitGhi ghi sinAlt i0).dni ≤ i0 ↔ BeamLimited ghi sinAlt i0) :=
  ⟨split_physical hday hghi, dni_le_iff_limited hday hghi⟩

end Day

/-! ## Low sun -/

/-- At noon, with the irradiance of a clear day. -/
theorem splitGhi_iff_noon : (splitGhi (900 : ℚ) (9 / 10) 1360).dni ≤ 1360 := by
  refine (splitGhi_iff (by norm_num) (by norm_num)).2.mpr ?_
  unfold BeamLimited LEAST
  norm_num

/-- **The excess of a low sun**: with the sun at a sine of 0.02, 60 W/m² measured are taken for a beam of 2505 W/m². -/
theorem beam_of_low_sun : (splitGhi (60 : ℚ) (2 / 100) 1360).dni = 2505 ∧
    ¬ (splitGhi (60 : ℚ) (2 / 100) 1360).dni ≤ 1360 := by
  have hdni : (splitGhi (60 : ℚ) (2 / 100) 1360).dni = 2505 := by
    rw [dni_of_day (by norm_num) (by norm_num), clearness_of_day (by norm_num) (by norm_num)]
    norm_num [LEAST, diffuseFraction]
  refine ⟨hdni, ?_⟩
  rw [hdni]
  norm_num

end DTwin.Sim.Physics
