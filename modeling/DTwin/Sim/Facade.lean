import DTwin.Lib.Polygon
import DTwin.Sim.Sun
import Mathlib.Algebra.Order.BigOperators.Group.List
import Mathlib.Algebra.Order.Floor.Semiring
import Mathlib.Analysis.SpecialFunctions.Complex.Arg
import Mathlib.Tactic.FieldSimp
import Mathlib.Tactic.Positivity

/-!
# DTwin.Sim.Facade — which way the exterior walls of a zone face

`app/facade.py`, and `zone_irradiance` of `app/engine.py`.  Coordinates are reals; +X is east and +Y is north.

The normal of an edge is turned away from the mean of the vertices.  In a convex ring with an area the mean is strictly
on the inner side of every edge, so what is found does not depend on how the ring is written (`facades_of_ring`).
-/

namespace DTwin.Sim.Facade

open DTwin.Polygon

noncomputable section

/-- A position of a ring, with what it has beyond two coordinates. -/
structure Position where
  x : ℝ
  y : ℝ
  rest : List ℝ

def EXTERIOR_TOLERANCE_M : ℝ := 1 / 4

/-- `_segment_distance`. -/
def segmentDistance (p a b : Point) : ℝ :=
  let dx := b.1 - a.1
  let dy := b.2 - a.2
  let lengthSq := dx * dx + dy * dy
  if lengthSq = 0 then hypot (p.1 - a.1) (p.2 - a.2)
  else
    let t := max 0 (min 1 (((p.1 - a.1) * dx + (p.2 - a.2) * dy) / lengthSq))
    hypot (p.1 - (a.1 + t * dx)) (p.2 - (a.2 + t * dy))

/-- `_distance_to_ring`: the least distance, infinite without a segment. -/
def distanceToRing (p : Point) (ring : List Point) : WithTop ℝ :=
  ((pairs ring).map fun e => (segmentDistance p e.1 e.2 : WithTop ℝ)).foldr min ⊤

/-- Without Z. -/
def plan (ring : List Position) : List Point := ring.map fun c => (c.x, c.y)

/-- `_to_2d`. -/
def to2d (ring : List Position) : List Point := closeUp (plan ring)

/-- `while gamma <= -180.0: gamma += 360.0`. -/
def raise (gamma : ℝ) : ℝ := if gamma ≤ -180 then raise (gamma + 360) else gamma
termination_by ⌈-gamma / 360⌉₊
decreasing_by
  have hpos : 0 < -gamma / 360 := by linarith
  have hstep : -(gamma + 360) / 360 = -gamma / 360 - 1 := by ring
  rw [hstep, Nat.ceil_sub_one]
  have hceil := Nat.ceil_pos.mpr hpos
  omega

/-- `while gamma > 180.0: gamma -= 360.0`. -/
def lower (gamma : ℝ) : ℝ := if 180 < gamma then lower (gamma - 360) else gamma
termination_by ⌈gamma / 360⌉₊
decreasing_by
  have hpos : 0 < gamma / 360 := by linarith
  have hstep : (gamma - 360) / 360 = gamma / 360 - 1 := by ring
  rw [hstep, Nat.ceil_sub_one]
  have hceil := Nat.ceil_pos.mpr hpos
  omega

/-- `atan2` in radians. -/
def atan2 (y x : ℝ) : ℝ := Complex.arg ⟨x, y⟩

def surfaceAzimuthDeg (nx ny : ℝ) : ℝ := lower (raise (degrees (atan2 nx ny) - 180))

/-- The perpendicular of an edge that faces away from the centroid. -/
def outwardNormal (centroid a b : Point) : Point :=
  let length := hypot (b.1 - a.1) (b.2 - a.2)
  let mid := ((a.1 + b.1) / 2, (a.2 + b.2) / 2)
  let nx := (b.2 - a.2) / length
  let ny := -((b.1 - a.1) / length)
  if (mid.1 + nx - centroid.1) ^ 2 + (mid.2 + ny - centroid.2) ^ 2 <
      (mid.1 - nx - centroid.1) ^ 2 + (mid.2 - ny - centroid.2) ^ 2 then (-nx, -ny)
  else (nx, ny)

/-- One edge of the zone. -/
def facade (centroid : Point) (outline : List Point) (toleranceM : ℝ) (e : Point × Point) : Option (ℝ × ℝ) :=
  let length := hypot (e.2.1 - e.1.1) (e.2.2 - e.1.2)
  if length = 0 then none
  else if (toleranceM : WithTop ℝ) < distanceToRing ((e.1.1 + e.2.1) / 2, (e.1.2 + e.2.2) / 2) outline then none
  else
    let n := outwardNormal centroid e.1 e.2
    some (surfaceAzimuthDeg n.1 n.2, length)

/-- `exterior_facades`: the azimuth and the length of each exterior edge. -/
def exteriorFacades (zoneRing footprintRing : List Position) (toleranceM : ℝ) : List (ℝ × ℝ) :=
  let zone := to2d zoneRing
  let outline := to2d footprintRing
  if zone.length < 4 ∨ outline.length < 4 then []
  else (pairs zone).filterMap (facade (mean zone.dropLast) outline toleranceM)

/-! ## Irradiance -/

/-- The weather of a step, as far as it is read here. -/
structure Step where
  dni : ℝ
  dhi : ℝ
  ghi : ℝ
  altitudeDeg : ℝ
  azimuthDeg : ℝ
  verticalIrradiance : ℝ

def cosIncidence (altitudeDeg azimuthDeg surfaceAzimuthDeg surfaceTiltDeg : ℝ) : ℝ :=
  Real.cos (radians altitudeDeg) * Real.sin (radians surfaceTiltDeg) *
      Real.cos (radians azimuthDeg - radians surfaceAzimuthDeg) +
    Real.sin (radians altitudeDeg) * Real.cos (radians surfaceTiltDeg)

/-- `irradiance_on_surface`, of a vertical surface by default. -/
def irradianceOnSurface (s : Step) (surfaceAzimuthDeg groundReflectance surfaceTiltDeg : ℝ) : ℝ :=
  let beta := radians surfaceTiltDeg
  let cosTheta := max (cosIncidence s.altitudeDeg s.azimuthDeg surfaceAzimuthDeg surfaceTiltDeg) 0
  let beam := if 0 < s.altitudeDeg then s.dni * cosTheta else 0
  beam + s.dhi * (1 + Real.cos beta) / 2 + s.ghi * groundReflectance * (1 - Real.cos beta) / 2

/-- The weight of a wall. -/
def weight (facades : List (ℝ × ℝ)) (f : ℝ × ℝ) : ℝ := f.2 / (facades.map Prod.snd).sum

/-- `zone_irradiance` of one zone at one step. -/
def zoneIrradiance (facades : List (ℝ × ℝ)) (exteriorWallArea groundReflectance : ℝ) (s : Step) : ℝ :=
  if facades = [] then if 0 < exteriorWallArea then s.verticalIrradiance else 0
  else (facades.map fun f => weight facades f * irradianceOnSurface s f.1 groundReflectance 90).sum

/-- The direction that a surface azimuth stands for: from south, west positive. -/
def facing (azimuthDeg : ℝ) : Point := (-Real.sin (radians azimuthDeg), -Real.cos (radians azimuthDeg))

end

/-! ## Azimuths -/

theorem facing_add (gamma : ℝ) : facing (gamma + 360) = facing gamma := by
  have hturn : radians (gamma + 360) = radians gamma + 2 * Real.pi := by
    unfold radians
    ring
  rw [facing, facing, hturn, Real.sin_add_two_pi, Real.cos_add_two_pi]

theorem raise_spec (gamma : ℝ) : facing (raise gamma) = facing gamma ∧ -180 < raise gamma ∧
    (gamma ≤ 180 → raise gamma ≤ 180) := by
  induction gamma using raise.induct with
  | case1 gamma hlow ih =>
    obtain ⟨hfacing, hgt, hle⟩ := ih
    rw [raise, if_pos hlow]
    exact ⟨hfacing.trans (facing_add gamma), hgt, fun _ => hle (by linarith)⟩
  | case2 gamma hlow =>
    rw [raise, if_neg hlow]
    exact ⟨rfl, not_le.mp hlow, id⟩

theorem lower_spec (gamma : ℝ) : facing (lower gamma) = facing gamma ∧ lower gamma ≤ 180 ∧
    (-180 < gamma → -180 < lower gamma) := by
  induction gamma using lower.induct with
  | case1 gamma hhigh ih =>
    obtain ⟨hfacing, hle, hgt⟩ := ih
    rw [lower, if_pos hhigh]
    refine ⟨hfacing.trans ?_, hle, fun _ => hgt (by linarith)⟩
    rw [← facing_add, sub_add_cancel]
  | case2 gamma hhigh =>
    rw [lower, if_neg hhigh]
    exact ⟨rfl, not_lt.mp hhigh, id⟩

/-- **The azimuth stands for the normal**, and is within half a turn of south. -/
theorem facing_surfaceAzimuthDeg {n : Point} (hn : n.1 ^ 2 + n.2 ^ 2 = 1) :
    facing (surfaceAzimuthDeg n.1 n.2) = n ∧ -180 < surfaceAzimuthDeg n.1 n.2 ∧ surfaceAzimuthDeg n.1 n.2 ≤ 180 := by
  obtain ⟨hraised, hgt, -⟩ := raise_spec (degrees (atan2 n.1 n.2) - 180)
  obtain ⟨hlowered, hle, hgt'⟩ := lower_spec (raise (degrees (atan2 n.1 n.2) - 180))
  refine ⟨?_, hgt' hgt, hle⟩
  have hhalf : radians (degrees (atan2 n.1 n.2) - 180) = atan2 n.1 n.2 - Real.pi := by
    unfold radians degrees
    field_simp
  have hnorm : ‖(⟨n.2, n.1⟩ : ℂ)‖ = 1 := by
    rw [Complex.norm_def, Complex.normSq_mk, show n.2 * n.2 + n.1 * n.1 = 1 by linarith, Real.sqrt_one]
  have hsin : Real.sin (atan2 n.1 n.2) = n.1 := by
    rw [atan2, Complex.sin_arg, hnorm, div_one]
  have hcos : Real.cos (atan2 n.1 n.2) = n.2 := by
    have hne : (⟨n.2, n.1⟩ : ℂ) ≠ 0 := by
      intro h
      rw [h, norm_zero] at hnorm
      exact zero_ne_one hnorm
    rw [atan2, Complex.cos_arg hne, hnorm, div_one]
  rw [surfaceAzimuthDeg, hlowered, hraised, facing, hhalf, Real.sin_sub_pi, Real.cos_sub_pi, hsin, hcos, neg_neg,
    neg_neg]

/-! ## Distances -/

theorem distanceToRing_le_iff {p : Point} {ring : List Point} {t : ℝ} :
    distanceToRing p ring ≤ t ↔ ∃ e ∈ pairs ring, segmentDistance p e.1 e.2 ≤ t := by
  unfold distanceToRing
  induction pairs ring with
  | nil => simp
  | cons e l ih => rw [List.map_cons, List.foldr_cons, min_le_iff, WithTop.coe_le_coe, ih, List.exists_mem_cons_iff]

theorem hypot_le_hypot {x y x' y' : ℝ} (h : x ^ 2 + y ^ 2 ≤ x' ^ 2 + y' ^ 2) : hypot x y ≤ hypot x' y' :=
  Real.sqrt_le_sqrt h

/-- The nearest of the points between 0 and 1. -/
theorem nearest (c : ℝ) {s : ℝ} (h0 : 0 ≤ s) (h1 : s ≤ 1) :
    0 ≤ (s - max 0 (min 1 c)) * (s + max 0 (min 1 c) - 2 * c) := by
  rcases le_total c 0 with hlow | hlow
  · rw [min_eq_right (hlow.trans zero_le_one), max_eq_left hlow]
    exact mul_nonneg (by linarith) (by linarith)
  · rcases le_total c 1 with hhigh | hhigh
    · rw [min_eq_right hhigh, max_eq_right hlow]
      nlinarith [sq_nonneg (s - c)]
    · rw [min_eq_left hhigh, max_eq_right zero_le_one]
      exact mul_nonneg_of_nonpos_of_nonpos (by linarith) (by linarith)

/-- **The distance to a segment** is that of its nearest point. -/
theorem segmentDistance_le_iff {p a b : Point} {t : ℝ} :
    segmentDistance p a b ≤ t ↔ ∃ q ∈ segment ℝ a b, hypot (p.1 - q.1) (p.2 - q.2) ≤ t := by
  have hpoint : ∀ s, 0 ≤ s → s ≤ 1 → ((a.1 + s * (b.1 - a.1), a.2 + s * (b.2 - a.2)) : Point) ∈ segment ℝ a b := by
    intro s h0 h1
    refine ⟨1 - s, s, by linarith, h0, by ring, ?_⟩
    refine Prod.ext ?_ ?_
    · simp only [Prod.fst_add, Prod.smul_fst, smul_eq_mul]
      ring
    · simp only [Prod.snd_add, Prod.smul_snd, smul_eq_mul]
      ring
  have hform : ∀ q ∈ segment ℝ a b, ∃ s, 0 ≤ s ∧ s ≤ 1 ∧
      q.1 = a.1 + s * (b.1 - a.1) ∧ q.2 = a.2 + s * (b.2 - a.2) := by
    rintro q ⟨r, s, hr, hs, hsum, rfl⟩
    obtain rfl : r = 1 - s := by linarith
    refine ⟨s, hs, by linarith, ?_, ?_⟩
    · simp only [Prod.fst_add, Prod.smul_fst, smul_eq_mul]
      ring
    · simp only [Prod.snd_add, Prod.smul_snd, smul_eq_mul]
      ring
  unfold segmentDistance
  dsimp only
  split_ifs with hlength
  · have hx : b.1 - a.1 = 0 := by nlinarith [sq_nonneg (b.1 - a.1), sq_nonneg (b.2 - a.2)]
    have hy : b.2 - a.2 = 0 := by nlinarith [sq_nonneg (b.1 - a.1), sq_nonneg (b.2 - a.2)]
    constructor
    · exact fun h => ⟨a, left_mem_segment ℝ a b, h⟩
    · rintro ⟨q, hq, h⟩
      obtain ⟨s, -, -, hqx, hqy⟩ := hform q hq
      rw [hqx, hqy, hx, hy, mul_zero, add_zero, add_zero] at h
      exact h
  · have hpos : 0 < (b.1 - a.1) * (b.1 - a.1) + (b.2 - a.2) * (b.2 - a.2) :=
      lt_of_le_of_ne (by nlinarith [sq_nonneg (b.1 - a.1), sq_nonneg (b.2 - a.2)]) (Ne.symm hlength)
    set c := ((p.1 - a.1) * (b.1 - a.1) + (p.2 - a.2) * (b.2 - a.2)) /
      ((b.1 - a.1) * (b.1 - a.1) + (b.2 - a.2) * (b.2 - a.2)) with hc
    have hdot : c * ((b.1 - a.1) * (b.1 - a.1) + (b.2 - a.2) * (b.2 - a.2)) =
        (p.1 - a.1) * (b.1 - a.1) + (p.2 - a.2) * (b.2 - a.2) := div_mul_cancel₀ _ hlength
    constructor
    · exact fun h => ⟨_, hpoint _ (le_max_left _ _) (max_le zero_le_one (min_le_left _ _)), h⟩
    · rintro ⟨q, hq, h⟩
      obtain ⟨s, h0, h1, hqx, hqy⟩ := hform q hq
      refine le_trans (hypot_le_hypot ?_) h
      have hnearest := mul_nonneg hpos.le (nearest c h0 h1)
      rw [hqx, hqy]
      set t := max 0 (min 1 c)
      have hdiff : (p.1 - (a.1 + s * (b.1 - a.1))) ^ 2 + (p.2 - (a.2 + s * (b.2 - a.2))) ^ 2 -
          ((p.1 - (a.1 + t * (b.1 - a.1))) ^ 2 + (p.2 - (a.2 + t * (b.2 - a.2))) ^ 2) =
          ((b.1 - a.1) * (b.1 - a.1) + (b.2 - a.2) * (b.2 - a.2)) * ((s - t) * (s + t - 2 * c)) := by
        linear_combination (2 * (s - t)) * hdot
      linarith

/-- An edge whose midpoint is near enough to the outline. -/
theorem distanceToRing_mid {w : List Point} {e : Point × Point} {t : ℝ} :
    distanceToRing (mid e) (close w) ≤ t ↔ Near w t (mid e) := by
  rw [distanceToRing_le_iff, pairs_close]
  exact exists_congr fun _ => and_congr_right fun _ => segmentDistance_le_iff

/-! ## Normals -/

section Normals

variable {a b c c' : Point}

/-- The perpendicular on the right of an edge. -/
noncomputable def right (a b : Point) : Point :=
  ((b.2 - a.2) / hypot (b.1 - a.1) (b.2 - a.2), -((b.1 - a.1) / hypot (b.1 - a.1) (b.2 - a.2)))

theorem right_swap (a b : Point) : right b a = -right a b := by
  have hlength : hypot (a.1 - b.1) (a.2 - b.2) = hypot (b.1 - a.1) (b.2 - a.2) := by
    unfold hypot
    congr 1
    ring
  unfold right
  rw [hlength]
  refine Prod.ext ?_ ?_
  · simp only [Prod.fst_neg]
    ring
  · simp only [Prod.snd_neg]
    ring

/-- **The normal** is the perpendicular on the other side of the edge than the centroid. -/
theorem outwardNormal_eq (hab : a ≠ b) (hc : cross a b c ≠ 0) :
    outwardNormal c a b = if 0 < cross a b c then right a b else -right a b := by
  have hlength := hypot_pos hab
  have hdot : ((a.1 + b.1) / 2 - c.1) * (right a b).1 + ((a.2 + b.2) / 2 - c.2) * (right a b).2 =
      cross a b c / hypot (b.1 - a.1) (b.2 - a.2) := by
    unfold right cross
    field_simp
    ring
  have hcompare : ((a.1 + b.1) / 2 + (right a b).1 - c.1) ^ 2 + ((a.2 + b.2) / 2 + (right a b).2 - c.2) ^ 2 <
      ((a.1 + b.1) / 2 - (right a b).1 - c.1) ^ 2 + ((a.2 + b.2) / 2 - (right a b).2 - c.2) ^ 2 ↔
      cross a b c / hypot (b.1 - a.1) (b.2 - a.2) < 0 := by
    rw [← hdot]
    constructor <;> intro h <;> nlinarith
  unfold outwardNormal
  dsimp only
  split_ifs with hcloser hpos hpos
  · exact absurd (hcompare.mp hcloser) (div_pos hpos hlength).not_gt
  · rfl
  · rfl
  · have hneg : cross a b c < 0 := lt_of_le_of_ne (not_lt.mp hpos) hc
    exact absurd (hcompare.mpr (div_neg_of_neg_of_pos hneg hlength)) hcloser

/-- It is the same for another centroid on the same side. -/
theorem outwardNormal_congr (hab : a ≠ b)
    (h : 0 < cross a b c ∧ 0 < cross a b c' ∨ cross a b c < 0 ∧ cross a b c' < 0) :
    outwardNormal c a b = outwardNormal c' a b := by
  rcases h with ⟨hc, hc'⟩ | ⟨hc, hc'⟩
  · rw [outwardNormal_eq hab hc.ne', outwardNormal_eq hab hc'.ne', if_pos hc, if_pos hc']
  · rw [outwardNormal_eq hab hc.ne, outwardNormal_eq hab hc'.ne, if_neg hc.not_gt, if_neg hc'.not_gt]

/-- It is the same for the edge the other way round. -/
theorem outwardNormal_swap (hab : a ≠ b) (hc : cross a b c ≠ 0) : outwardNormal c b a = outwardNormal c a b := by
  have hback : cross b a c ≠ 0 := by
    rw [cross_swap]
    exact neg_ne_zero.mpr hc
  rw [outwardNormal_eq hab hc, outwardNormal_eq hab.symm hback, cross_swap, right_swap, neg_neg]
  rcases lt_or_gt_of_ne hc with hneg | hpos
  · rw [if_pos (by linarith), if_neg hneg.not_gt]
  · rw [if_neg (by linarith), if_pos hpos]

end Normals

/-! ## The facades of a ring -/

section Ring

variable {u v w : List Point} {e : Point × Point}

/-- The side of an edge on which the polygon is, and in it the mean of the vertices, however often each comes. -/
theorem mean_side (hconvex : IsConvex v) (harea : area v ≠ 0) (he : e ∈ sides v) :
    (∀ u, (∀ p, p ∈ u ↔ p ∈ v) → 0 < cross e.1 e.2 (mean u)) ∧ (∀ p ∈ v, 0 ≤ cross e.1 e.2 p) ∨
      (∀ u, (∀ p, p ∈ u ↔ p ∈ v) → cross e.1 e.2 (mean u) < 0) ∧ ∀ p ∈ v, cross e.1 e.2 p ≤ 0 := by
  obtain ⟨hedge, hside⟩ := List.mem_filter.mp he
  obtain ⟨p, hp, hoff⟩ := exists_off_line harea (of_decide_eq_true hside)
  rcases hconvex e hedge with hleft | hright
  · refine Or.inl ⟨fun u hu => ?_, hleft⟩
    exact mean_inside (fun q hq => hleft q ((hu q).mp hq)) ⟨p, (hu p).mpr hp, hoff⟩
  · refine Or.inr ⟨fun u hu => ?_, hright⟩
    have hback : 0 < cross e.2 e.1 (mean u) := by
      refine mean_inside (fun q hq => ?_) ⟨p, (hu p).mpr hp, ?_⟩
      · rw [cross_swap]
        exact neg_nonneg.mpr (hright q ((hu q).mp hq))
      · rw [cross_swap]
        exact neg_ne_zero.mpr hoff
    rw [cross_swap] at hback
    linarith

/-- **The normal points out.** -/
theorem pointsOut (hconvex : IsConvex v) (harea : area v ≠ 0) (he : e ∈ sides v) :
    PointsOut v e (outwardNormal (mean v) e.1 e.2) := by
  have hne := of_decide_eq_true (List.mem_filter.mp he).2
  have hlength := hypot_pos hne
  have hsq : hypot (e.2.1 - e.1.1) (e.2.2 - e.1.2) ^ 2 = (e.2.1 - e.1.1) ^ 2 + (e.2.2 - e.1.2) ^ 2 :=
    Real.sq_sqrt (by positivity)
  have hunit : (right e.1 e.2).1 ^ 2 + (right e.1 e.2).2 ^ 2 = 1 := by
    unfold right
    field_simp
    linarith
  have hacross : (right e.1 e.2).1 * (e.2.1 - e.1.1) + (right e.1 e.2).2 * (e.2.2 - e.1.2) = 0 := by
    unfold right
    field_simp
    ring
  have hdot : ∀ p : Point, (right e.1 e.2).1 * (p.1 - (mid e).1) + (right e.1 e.2).2 * (p.2 - (mid e).2) =
      -(cross e.1 e.2 p / hypot (e.2.1 - e.1.1) (e.2.2 - e.1.2)) := by
    intro p
    unfold right cross mid
    field_simp
    ring
  rcases mean_side hconvex harea he with ⟨hmean, hleft⟩ | ⟨hmean, hright⟩
  · have hpos := hmean v fun p => Iff.rfl
    rw [outwardNormal_eq hne hpos.ne', if_pos hpos]
    refine ⟨hunit, hacross, outward_of_vertices fun p hp => ?_⟩
    rw [hdot]
    exact neg_nonpos.mpr (div_nonneg (hleft p hp) hlength.le)
  · have hneg := hmean v fun p => Iff.rfl
    rw [outwardNormal_eq hne hneg.ne, if_neg hneg.not_gt]
    refine ⟨?_, ?_, outward_of_vertices fun p hp => ?_⟩
    · simp only [Prod.fst_neg, Prod.snd_neg, neg_sq]
      exact hunit
    · simp only [Prod.fst_neg, Prod.snd_neg]
      linarith
    · have hp' := hdot p
      have hnonpos := div_nonpos_of_nonpos_of_nonneg (hright p hp) hlength.le
      simp only [Prod.fst_neg, Prod.snd_neg]
      linarith

/-- The azimuth of a side. -/
noncomputable def azimuth (v : List Point) (e : Point × Point) : ℝ :=
  surfaceAzimuthDeg (outwardNormal (mean v) e.1 e.2).1 (outwardNormal (mean v) e.1 e.2).2

noncomputable def sideLength (e : Point × Point) : ℝ := hypot (e.2.1 - e.1.1) (e.2.2 - e.1.2)

theorem sideLength_swap (e : Point × Point) : sideLength e.swap = sideLength e := by
  unfold sideLength hypot
  congr 1
  simp only [Prod.fst_swap, Prod.snd_swap]
  ring

/-- The azimuth is that of the side, whichever list of the vertices it is reckoned from, and in whichever direction. -/
theorem azimuth_congr (hconvex : IsConvex v) (harea : area v ≠ 0) (he : e ∈ sides v) (hu : ∀ p, p ∈ u ↔ p ∈ v) :
    azimuth u e = azimuth v e ∧ azimuth u e.swap = azimuth v e := by
  have hne := of_decide_eq_true (List.mem_filter.mp he).2
  have hsame : outwardNormal (mean u) e.1 e.2 = outwardNormal (mean v) e.1 e.2 ∧ cross e.1 e.2 (mean u) ≠ 0 := by
    rcases mean_side hconvex harea he with ⟨hmean, -⟩ | ⟨hmean, -⟩
    · exact ⟨outwardNormal_congr hne (Or.inl ⟨hmean u hu, hmean v fun p => Iff.rfl⟩), (hmean u hu).ne'⟩
    · exact ⟨outwardNormal_congr hne (Or.inr ⟨hmean u hu, hmean v fun p => Iff.rfl⟩), (hmean u hu).ne⟩
  have hswap := outwardNormal_swap hne hsame.2
  constructor
  · rw [azimuth, hsame.1, azimuth]
  · rw [azimuth, Prod.fst_swap, Prod.snd_swap, hswap, hsame.1, azimuth]

open Classical in
/-- What the code finds on a closed list, with an outline that has one. -/
theorem filterMap_facade (u w : List Point) (t : ℝ) :
    (edges u).filterMap (facade (mean u) (close w) t) =
      ((sides u).filter fun e => Near w t (mid e)).map fun e => (azimuth u e, sideLength e) := by
  unfold sides
  induction edges u with
  | nil => rfl
  | cons e l ih =>
    have hlength : sideLength e = 0 ↔ e.1 = e.2 := by
      unfold sideLength
      rw [hypot_eq_zero, sub_eq_zero, sub_eq_zero]
      exact ⟨fun h => Prod.ext h.1.symm h.2.symm, fun h => by rw [h]; exact ⟨rfl, rfl⟩⟩
    have hnear : (t : WithTop ℝ) < distanceToRing (mid e) (close w) ↔ ¬ Near w t (mid e) := by
      rw [← not_le, distanceToRing_mid]
    have hfacade : facade (mean u) (close w) t e =
        if sideLength e = 0 then none else if (t : WithTop ℝ) < distanceToRing (mid e) (close w) then none
        else some (azimuth u e, sideLength e) := rfl
    by_cases hpoint : e.1 = e.2
    · rw [List.filterMap_cons_none (by rw [hfacade, if_pos (hlength.mpr hpoint)]), ih]
      simp [hpoint]
    · by_cases hclose : Near w t (mid e)
      · rw [List.filterMap_cons_some (by
          rw [hfacade, if_neg fun h => hpoint (hlength.mp h), if_neg fun h => hnear.mp h hclose]), ih]
        simp [hpoint, hclose]
      · rw [List.filterMap_cons_none (by
          rw [hfacade, if_neg fun h => hpoint (hlength.mp h), if_pos (hnear.mpr hclose)]), ih]
        simp [hpoint, hclose]

/-- A floor ring is closed up from at least two points. -/
theorem two_le_length {r : List Point} (h : Polygon.Writes w r) (hr : 4 ≤ (closeUp r).length) : 2 ≤ w.length := by
  have hclose : ∀ l : List Point, (close l).length ≤ l.length + 1 := by
    intro l
    rcases l with - | ⟨p, l⟩
    · exact Nat.zero_le 1
    · exact (length_close (List.cons_ne_nil p l)).le
  have hup : (closeUp r).length ≤ r.length + 1 := by
    unfold closeUp
    split_ifs
    · exact hclose r
    · exact Nat.le_succ r.length
  obtain ⟨k, w', hw', hwritten⟩ := h
  have hlength : w'.length = w.length := by
    rcases hw' with rfl | rfl
    · exact List.length_rotate w k
    · rw [List.length_reverse, List.length_rotate]
  have hwritten' : r.length ≤ w'.length + 1 := by
    rcases hwritten with rfl | rfl
    · exact Nat.le_succ _
    · exact hclose w'
  omega

/-- The lengths are shared out. -/
theorem sum_weight {facades : List (ℝ × ℝ)} (hne : facades ≠ []) (hpos : ∀ f ∈ facades, 0 < f.2) :
    (facades.map (weight facades)).sum = 1 := by
  have htotal : 0 < (facades.map Prod.snd).sum := by
    refine List.sum_pos _ (fun x hx => ?_) (by simpa using hne)
    obtain ⟨f, hf, rfl⟩ := List.mem_map.mp hx
    exact hpos f hf
  have hdiv : ∀ (l : List (ℝ × ℝ)) (total : ℝ), (l.map fun f => f.2 / total).sum = (l.map Prod.snd).sum / total := by
    intro l total
    induction l with
    | nil => simp
    | cons f l ih => rw [List.map_cons, List.sum_cons, ih, List.map_cons, List.sum_cons, add_div]
  exact (hdiv facades _).trans (div_self htotal.ne')

open Classical in
/-- **The facades of a convex ring.**  However the zone's ring and the floor's are written, there is one entry for each
side of the zone with its midpoint near the floor's outline: its length, and the azimuth of the direction out of the
zone.  The weights of the walls add up to one. -/
theorem facades_of_ring (hconvex : IsConvex v) (harea : area v ≠ 0) (w : List Point) (toleranceM : ℝ) :
    ∃ azimuthOf : Point × Point → ℝ,
      (∀ e ∈ sides v, PointsOut v e (facing (azimuthOf e)) ∧ -180 < azimuthOf e ∧ azimuthOf e ≤ 180) ∧
      ∀ zoneRing footprintRing, Polygon.Writes v (plan zoneRing) → Polygon.Writes w (plan footprintRing) →
        4 ≤ (to2d footprintRing).length →
        (exteriorFacades zoneRing footprintRing toleranceM).Perm
          (((sides v).filter fun e => Near w toleranceM (mid e)).map fun e => (azimuthOf e, sideLength e)) ∧
        (exteriorFacades zoneRing footprintRing toleranceM ≠ [] →
          ((exteriorFacades zoneRing footprintRing toleranceM).map
            (weight (exteriorFacades zoneRing footprintRing toleranceM))).sum = 1) := by
  refine ⟨azimuth v, fun e he => ?_, ?_⟩
  · have hout := pointsOut hconvex harea he
    obtain ⟨hfacing, hgt, hle⟩ := facing_surfaceAzimuthDeg hout.unit
    refine ⟨?_, hgt, hle⟩
    rw [azimuth, hfacing]
    exact hout
  · intro zoneRing footprintRing hzone hfloor hfour
    obtain ⟨u, hclosed, hmem, hsides⟩ := closeUp_of_writes
      ((by omega : 2 ≤ 3).trans (three_le_length harea fun p hp => hp)) hzone
    obtain ⟨u', hclosed', hmem', hsides'⟩ := closeUp_of_writes (two_le_length hfloor hfour) hfloor
    have hthree : 3 ≤ u.length := three_le_length harea fun p hp => (hmem p).mpr hp
    have hne : u ≠ [] := List.length_pos_iff.mp (by omega)
    have hfound : exteriorFacades zoneRing footprintRing toleranceM =
        ((sides u).filter fun e => Near w toleranceM (mid e)).map fun e => (azimuth u e, sideLength e) := by
      have hlong : ¬ ((to2d zoneRing).length < 4 ∨ (to2d footprintRing).length < 4) := by
        rw [to2d, hclosed, length_close hne]
        omega
      have hnear : ∀ e, Near u' toleranceM (mid e) ↔ Near w toleranceM (mid e) := fun e =>
        near_congr hmem' hsides' toleranceM (mid e)
      unfold exteriorFacades
      rw [if_neg hlong]
      unfold to2d
      rw [hclosed, hclosed', pairs_close, dropLast_close hne, filterMap_facade]
      congr 1
      exact List.filter_congr fun e _ => decide_eq_decide.mpr (hnear e)
    constructor
    · rw [hfound]
      rcases hsides with hsame | hback
      · refine ((hsame.filter _).map _).trans (List.Perm.of_eq (List.map_congr_left fun e he => ?_))
        rw [(azimuth_congr hconvex harea (List.mem_filter.mp he).1 hmem).1]
      · have hswap : ∀ e : Point × Point, mid e.swap = mid e := by
          intro e
          unfold mid
          rw [Prod.fst_swap, Prod.snd_swap, add_comm e.2.1, add_comm e.2.2]
        refine ((hback.filter _).map _).trans (List.Perm.of_eq ?_)
        rw [List.filter_map, List.map_map]
        have hfilter : ((sides v).filter ((fun e => decide (Near w toleranceM (mid e))) ∘ Prod.swap)) =
            (sides v).filter fun e => decide (Near w toleranceM (mid e)) := by
          refine List.filter_congr fun e _ => ?_
          show decide (Near w toleranceM (mid e.swap)) = _
          rw [hswap]
        rw [hfilter]
        refine List.map_congr_left fun e he => ?_
        show (azimuth u e.swap, sideLength e.swap) = _
        rw [sideLength_swap, (azimuth_congr hconvex harea (List.mem_filter.mp he).1 hmem).2]
    · intro hsome
      refine sum_weight hsome fun f hf => ?_
      rw [hfound] at hf
      obtain ⟨e, he, rfl⟩ := List.mem_map.mp hf
      exact hypot_pos (of_decide_eq_true (List.mem_filter.mp (List.mem_filter.mp he).1).2)

end Ring

/-! ## A corner of a floor -/

noncomputable def corner : List Point := [(0, 0), (12, 0), (12, 10), (0, 10)]

open Classical in
theorem facades_of_ring_corner : ∃ azimuthOf : Point × Point → ℝ,
    ∀ zoneRing footprintRing, Polygon.Writes corner (plan zoneRing) →
      Polygon.Writes [(0, 0), (40, 0), (40, 30), (0, 30)] (plan footprintRing) → 4 ≤ (to2d footprintRing).length →
      (exteriorFacades zoneRing footprintRing EXTERIOR_TOLERANCE_M).Perm
        (((sides corner).filter fun e => Near [(0, 0), (40, 0), (40, 30), (0, 30)] EXTERIOR_TOLERANCE_M (mid e)).map
          fun e => (azimuthOf e, sideLength e)) := by
  have hedges : edges corner =
      [((0, 0), (12, 0)), ((12, 0), (12, 10)), ((12, 10), (0, 10)), ((0, 10), (0, 0))] := rfl
  have hconvex : IsConvex corner := by
    intro e he
    refine Or.inl fun p hp => ?_
    rw [hedges] at he
    simp only [corner, List.mem_cons, List.not_mem_nil, or_false] at he hp
    rcases he with rfl | rfl | rfl | rfl <;> rcases hp with rfl | rfl | rfl | rfl <;> norm_num [cross]
  have harea : area corner ≠ 0 := by
    rw [area, hedges]
    norm_num
  obtain ⟨azimuthOf, -, hfacades⟩ :=
    facades_of_ring hconvex harea [(0, 0), (40, 0), (40, 30), (0, 30)] EXTERIOR_TOLERANCE_M
  exact ⟨azimuthOf, fun zoneRing footprintRing hzone hfloor hfour => (hfacades _ _ hzone hfloor hfour).1⟩

end DTwin.Sim.Facade
