import DTwin.Copilot.Layout
import Mathlib.Tactic.Positivity

/-!
# DTwin.Copilot.Routes — what the edges of a picture run over

Whether the polylines of `apps/web/lib/copilot/layout.ts` keep clear of the boxes that they do not join, and all of the
picture is in the view box.

Lanes and the gaps between the rows are always clear.  What can go wrong is at the ports: those on one side of a node
are six apart however many there are, so that the outer ones come level with the next row or out of the picture, and an
arrival from above at the first row comes from above the picture (`layout_clean`).  A straight line is as clear as
`segmentHitsBox` sees it, which is right in pictures of less than a billion pixels (`seen_of_small`).
-/

namespace DTwin.Copilot.Diagram

variable {α : Type}

/-! ## What a picture should be -/

/-- A point of the segment is inside the box. -/
def Meets (p q : Point) (b : Box) : Prop :=
  ∃ t, 0 ≤ t ∧ t ≤ 1 ∧ b.left < p.1 + t * (q.1 - p.1) ∧ p.1 + t * (q.1 - p.1) < b.right ∧
    b.top < p.2 + t * (q.2 - p.2) ∧ p.2 + t * (q.2 - p.2) < b.bottom

def ViewBox.Holds (v : ViewBox) (p : Point) : Prop :=
  v.x ≤ p.1 ∧ p.1 ≤ v.x + v.width ∧ v.y ≤ p.2 ∧ p.2 ≤ v.y + v.height

structure Clean (l : Layout α) : Prop where
  /-- No edge runs through the box of a node that it does not join. -/
  clear : ∀ e ∈ l.edges, ∀ n ∈ l.nodes, n.id ≠ e.edge.source → n.id ≠ e.edge.target →
    e.points.IsChain fun p q => ¬ Meets p q (boxOf n)
  nodesIn : ∀ n ∈ l.nodes, l.viewBox.Holds ((boxOf n).left, (boxOf n).top) ∧
    l.viewBox.Holds ((boxOf n).right, (boxOf n).bottom)
  edgesIn : ∀ e ∈ l.edges, ∀ p ∈ e.points, l.viewBox.Holds p

/-- The other node is farther out on a side. -/
def Beyond (side : Side) (n other : PlacedNode α) : Prop :=
  match side with
  | .right => n.x < other.x
  | .left => other.x < n.x

/-- A node that an edge does not join. -/
def Other (nodes : List (PlacedNode α)) (e : GraphEdge α) (n : PlacedNode α) : Prop :=
  n ∈ nodes ∧ n.id ≠ e.source ∧ n.id ≠ e.target

/-- A port on a side of a node is in the picture, and level with no box farther out, those of the edge apart. -/
def SidePort (nodes : List (PlacedNode α)) (height : ℚ) (l : LaneEdge α) (n : PlacedNode α) (y : ℚ) : Prop :=
  (0 ≤ y ∧ y ≤ height) ∧ ∀ m, Other nodes l.edge m → Beyond l.side n m → NODE_H / 2 ≤ |y - m.y|

def ViewBox.Spans (v : ViewBox) (x : ℚ) : Prop := v.x ≤ x ∧ x ≤ v.x + v.width

/-- The ports of an edge are harmless. -/
structure Harmless (nodes : List (PlacedNode α)) (height : ℚ) (v : ViewBox) (l : LaneEdge α) : Prop where
  exitRow : l.exit = .row → SidePort nodes height l l.s (l.s.y + l.exitShift)
  exitBelow : l.exit = .below → v.Spans (l.s.x + l.exitShift)
  entryRow : l.entry = .row → SidePort nodes height l l.t (l.t.y + l.entryShift)
  entryAbove : l.entry = .above → l.t.rank ≠ 0 ∧ v.Spans (l.t.x + l.entryShift)

/-- No straight line meets a box that `segmentHitsBox` does not see on it. -/
def Seen [DecidableEq α] (nodes : List (PlacedNode α)) (back edgeList : List (GraphEdge α)) : Prop :=
  ∀ e ∈ edgeList, isStraight nodes back e = true → ∀ n, Other nodes e n →
    ¬ Meets (straightLine (nodeAt nodes e.source) (nodeAt nodes e.target)).1
      (straightLine (nodeAt nodes e.source) (nodeAt nodes e.target)).2 (boxOf n)

/-! ## Segments and boxes -/

section Segments

variable {p q : Point} {b : Box}

theorem Meets.symm (h : Meets p q b) : Meets q p b := by
  obtain ⟨t, h0, h1, hleft, hright, htop, hbottom⟩ := h
  have hx : q.1 + (1 - t) * (p.1 - q.1) = p.1 + t * (q.1 - p.1) := by ring
  have hy : q.2 + (1 - t) * (p.2 - q.2) = p.2 + t * (q.2 - p.2) := by ring
  refine ⟨1 - t, by linarith, by linarith, ?_⟩
  rw [hx, hy]
  exact ⟨hleft, hright, htop, hbottom⟩

theorem meets_comm : Meets p q b ↔ Meets q p b := ⟨Meets.symm, Meets.symm⟩

/-- Between two numbers. -/
theorem between {x y t : ℚ} (h0 : 0 ≤ t) (h1 : t ≤ 1) : min x y ≤ x + t * (y - x) ∧ x + t * (y - x) ≤ max x y := by
  rcases le_total x y with h | h
  · rw [min_eq_left h, max_eq_right h]
    constructor
    · nlinarith
    · nlinarith
  · rw [min_eq_right h, max_eq_left h]
    constructor
    · nlinarith
    · nlinarith

/-- A segment that meets a box is not on one side of it. -/
theorem Meets.bounds (h : Meets p q b) : (b.left < max p.1 q.1 ∧ min p.1 q.1 < b.right) ∧
    b.top < max p.2 q.2 ∧ min p.2 q.2 < b.bottom := by
  obtain ⟨t, h0, h1, hleft, hright, htop, hbottom⟩ := h
  obtain ⟨hxlow, hxhigh⟩ := between (x := p.1) (y := q.1) h0 h1
  obtain ⟨hylow, hyhigh⟩ := between (x := p.2) (y := q.2) h0 h1
  exact ⟨⟨hleft.trans_le hxhigh, hxlow.trans_lt hright⟩, htop.trans_le hyhigh, hylow.trans_lt hbottom⟩

theorem not_meets_vertical {x y y' : ℚ} (h : x ≤ b.left ∨ b.right ≤ x) : ¬ Meets (x, y) (x, y') b := by
  intro hmeets
  obtain ⟨⟨hleft, hright⟩, -⟩ := hmeets.bounds
  rw [max_self] at hleft
  rw [min_self] at hright
  rcases h with h | h
  · linarith
  · linarith

/-- A level segment meets a box that it is level with and reaches into. -/
theorem meets_level {x x' y z : ℚ} (hbetween : (x ≤ z ∧ z ≤ x') ∨ (x' ≤ z ∧ z ≤ x)) (hne : x ≠ x')
    (hz : b.left < z ∧ z < b.right) (hy : b.top < y ∧ y < b.bottom) : Meets (x, y) (x', y) b := by
  have hd : x' - x ≠ 0 := sub_ne_zero.mpr hne.symm
  have hpoint : x + (z - x) / (x' - x) * (x' - x) = z := by
    rw [div_mul_cancel₀ _ hd]
    ring
  refine ⟨(z - x) / (x' - x), ?_, ?_, ?_⟩
  · rcases hbetween with h | h
    · exact div_nonneg (by linarith) (by linarith)
    · exact div_nonneg_of_nonpos (by linarith) (by linarith)
  · rcases hbetween with h | h
    · have hpos : 0 < x' - x := lt_of_le_of_ne (by linarith) hd.symm
      rw [div_le_one hpos]
      linarith
    · have hneg : x' - x < 0 := lt_of_le_of_ne (by linarith) hd
      rw [div_le_one_of_neg hneg]
      linarith
  · show b.left < x + (z - x) / (x' - x) * (x' - x) ∧ x + (z - x) / (x' - x) * (x' - x) < b.right ∧
      b.top < y + (z - x) / (x' - x) * (y - y) ∧ y + (z - x) / (x' - x) * (y - y) < b.bottom
    rw [hpoint, sub_self, mul_zero, add_zero]
    exact ⟨hz.1, hz.2, hy⟩

theorem not_meets_above (hp : p.2 ≤ b.top) (hq : q.2 ≤ b.top) : ¬ Meets p q b := by
  intro hmeets
  have htop := hmeets.bounds.2.1
  have hmax := max_le hp hq
  linarith

theorem not_meets_below (hp : b.bottom ≤ p.2) (hq : b.bottom ≤ q.2) : ¬ Meets p q b := by
  intro hmeets
  have hbottom := hmeets.bounds.2.2
  have hmin := le_min hp hq
  linarith

end Segments

/-! ## Where the nodes are -/

/-- The nodes stand in rows, inside the picture. -/
structure Grid (nodes : List (PlacedNode α)) (width height : ℚ) : Prop where
  row : ∀ n ∈ nodes, n.y = TOP + n.rank * RANK_GAP
  low : ∀ n ∈ nodes, n.y + RANK_GAP ≤ height
  inside : ∀ n ∈ nodes, NODE_W / 2 + MIN_GAP_X / 2 ≤ n.x ∧ n.x + (NODE_W / 2 + MIN_GAP_X / 2) ≤ width

theorem grid_nodesOf [DecidableEq α] (rank : OrderedMap α ℕ) (order : List α) (W : ℚ) :
    Grid (nodesOf rank order W) (widthOf rank order W) (heightOf rank) := by
  have hplaced : ∀ n ∈ nodesOf rank order W, ∃ g ∈ (byRank rank order).entries,
      n ∈ spread (widthOf rank order W) g.1 g.2 := by
    intro n hn
    exact List.mem_flatMap.mp ((List.mem_insertionSort _).mp hn)
  refine ⟨fun n hn => ?_, fun n hn => ?_, fun n hn => ?_⟩
  · obtain ⟨g, -, hg⟩ := hplaced n hn
    obtain ⟨m, -, rfl⟩ := List.mem_map.mp hg
    rfl
  · obtain ⟨g, hg, hn⟩ := hplaced n hn
    obtain ⟨m, -, rfl⟩ := List.mem_map.mp hn
    obtain ⟨hmembers, hne⟩ := OrderedMap.eq_of_mem_groupBy hg
    obtain ⟨k, hk⟩ := List.exists_mem_of_ne_nil _ hne
    have hrank : rankAt rank k = g.1 := by
      rw [hmembers] at hk
      exact of_decide_eq_true (List.mem_filter.mp hk).2
    have hle : g.1 ≤ maxRank rank := by
      rw [← hrank, rankAt]
      cases hget : rank.get? k with
      | none => exact Nat.zero_le _
      | some r => exact le_foldr_max (OrderedMap.mem_values.mpr ⟨k, hget⟩)
    have hcast : (g.1 : ℚ) ≤ maxRank rank := by exact_mod_cast hle
    show TOP + (g.1 : ℚ) * RANK_GAP + RANK_GAP ≤ TOP + maxRank rank * RANK_GAP + RANK_GAP
    norm_num [RANK_GAP]
    linarith
  · obtain ⟨g, hg, hn⟩ := hplaced n hn
    have hwidth := width_spec (W := W) hg
    obtain ⟨m, hm, rfl⟩ := List.mem_map.mp hn
    have hindex : m.2 < g.2.length := by
      have hzip := List.mem_zipIdx hm
      omega
    have hpos : (0 : ℚ) < g.2.length := by
      have hlt : 0 < g.2.length := by omega
      exact_mod_cast hlt
    have hgap : NODE_W + MIN_GAP_X ≤ widthOf rank order W / g.2.length := by
      rw [le_div_iff₀ hpos]
      linarith
    have hone : (m.2 : ℚ) + 1 ≤ g.2.length := by exact_mod_cast hindex
    have hzero : (0 : ℚ) ≤ m.2 := Nat.cast_nonneg _
    have hx : widthOf rank order W * (m.2 + 1 / 2) / g.2.length =
        widthOf rank order W / g.2.length * (m.2 + 1 / 2) := by
      rw [div_mul_eq_mul_div]
    have hall : widthOf rank order W / g.2.length * g.2.length = widthOf rank order W := div_mul_cancel₀ _ hpos.ne'
    have hnonneg : (0 : ℚ) ≤ widthOf rank order W / g.2.length := by
      refine le_trans ?_ hgap
      norm_num [NODE_W, MIN_GAP_X]
    show _ ≤ widthOf rank order W * (m.2 + 1 / 2) / g.2.length ∧
      widthOf rank order W * (m.2 + 1 / 2) / g.2.length + _ ≤ widthOf rank order W
    rw [hx]
    have hbefore := mul_nonneg hnonneg hzero
    have hafter := mul_le_mul_of_nonneg_left hone hnonneg
    constructor
    · linarith
    · linarith

theorem nodeAt_spec [DecidableEq α] {nodes : List (PlacedNode α)} {id : α} (h : id ∈ nodes.map PlacedNode.id) :
    nodeAt nodes id ∈ nodes ∧ (nodeAt nodes id).id = id := by
  obtain ⟨n, hn, hid⟩ := List.mem_map.mp h
  have hsome : (nodes.find? fun n => n.id = id).isSome := List.find?_isSome.mpr ⟨n, hn, by simpa using hid⟩
  obtain ⟨m, hm⟩ := Option.isSome_iff_exists.mp hsome
  rw [nodeAt, hm]
  exact ⟨List.mem_of_find?_eq_some hm, by simpa using List.find?_some hm⟩

/-! ## The view box -/

theorem round_near (v : ℚ) : v - 1 / 200 ≤ round v ∧ round v ≤ v + 1 / 200 := by
  have hle := Int.floor_le (v * 100 + 1 / 2)
  have hlt := Int.lt_floor_add_one (v * 100 + 1 / 2)
  unfold round
  constructor
  · linarith
  · linarith

section View

variable {nodes : List (PlacedNode α)} {width height : ℚ} {laned : List (LaneEdge α)}

/-- What is in the picture by four pixels is in its view box. -/
theorem spans_of_inside {x : ℚ} (hleft : MARGIN ≤ x ∨ ∃ o, outer nodes laned .left = some o ∧ o ≤ x)
    (hright : x + MARGIN ≤ width ∨ ∃ o, outer nodes laned .right = some o ∧ x ≤ o) :
    (viewBoxOf nodes laned width height).Spans x := by
  obtain ⟨hlow, hlow'⟩ := round_near (min 0 (((outer nodes laned .left).map (· - MARGIN)).getD 0))
  obtain ⟨hhigh, hhigh'⟩ := round_near (max width (((outer nodes laned .right).map (· + MARGIN)).getD width) -
    min 0 (((outer nodes laned .left).map (· - MARGIN)).getD 0))
  have hmin : min 0 (((outer nodes laned .left).map (· - MARGIN)).getD 0) ≤ x - MARGIN := by
    rcases hleft with h | ⟨o, ho, h⟩
    · exact (min_le_left _ _).trans (by linarith)
    · rw [ho]
      exact (min_le_right _ _).trans (by simpa using h)
  have hmax : x + MARGIN ≤ max width (((outer nodes laned .right).map (· + MARGIN)).getD width) := by
    rcases hright with h | ⟨o, ho, h⟩
    · exact h.trans (le_max_left _ _)
    · rw [ho]
      exact le_trans (by simpa using h) (le_max_right _ _)
  have hmargin : MARGIN = 4 := rfl
  constructor
  · show round _ ≤ x
    linarith
  · show x ≤ round _ + round _
    linarith

/-- What is in the picture by a pixel is in its view box. -/
theorem spans_of_within {x : ℚ} (hleft : 1 ≤ x) (hright : x + 1 ≤ width) :
    (viewBoxOf nodes laned width height).Spans x := by
  obtain ⟨hlow, hlow'⟩ := round_near (min 0 (((outer nodes laned .left).map (· - MARGIN)).getD 0))
  obtain ⟨hhigh, -⟩ := round_near (max width (((outer nodes laned .right).map (· + MARGIN)).getD width) -
    min 0 (((outer nodes laned .left).map (· - MARGIN)).getD 0))
  have hmin := min_le_left 0 (((outer nodes laned .left).map (· - MARGIN)).getD 0)
  have hmax := le_max_left width (((outer nodes laned .right).map (· + MARGIN)).getD width)
  constructor
  · show round _ ≤ x
    linarith
  · show x ≤ round _ + round _
    linarith

theorem holds_iff {v : ViewBox} {x y : ℚ} (hv : v = viewBoxOf nodes laned width height) :
    v.Holds (x, y) ↔ v.Spans x ∧ 0 ≤ y ∧ y ≤ height := by
  subst hv
  simp [ViewBox.Holds, ViewBox.Spans, viewBoxOf, and_assoc]

end View

/-! ## The legs of a polyline -/

/-- A lane is beyond a node. -/
def Past (side : Side) (n : PlacedNode α) (x : ℚ) : Prop :=
  match side with
  | .right => n.x + NODE_W / 2 < x
  | .left => x < n.x - NODE_W / 2

section Legs

variable {nodes : List (PlacedNode α)} {width height : ℚ} {n m : PlacedNode α} {side : Side} {p q : Point} {x y : ℚ}

/-- The leg from a side of a node to a lane. -/
theorem meets_side_iff (hn : Past side n x) (hm : Past side m x) : Meets (sideX n side, y) (x, y) (boxOf m) ↔
    Beyond side n m ∧ |y - m.y| < NODE_H / 2 := by
  have hW : NODE_W = 64 := rfl
  constructor
  · intro hmeets
    obtain ⟨⟨hleft, hright⟩, htop, hbottom⟩ := hmeets.bounds
    rw [max_self] at htop
    rw [min_self] at hbottom
    have htop' : m.y - NODE_H / 2 < y := htop
    have hbottom' : y < m.y + NODE_H / 2 := hbottom
    refine ⟨?_, abs_lt.mpr ⟨by linarith, by linarith⟩⟩
    cases side with
    | right =>
      have hn' : n.x + NODE_W / 2 < x := hn
      have hreach : min (n.x + NODE_W / 2) x < m.x + NODE_W / 2 := hright
      rw [min_eq_left hn'.le] at hreach
      show n.x < m.x
      linarith
    | left =>
      have hn' : x < n.x - NODE_W / 2 := hn
      have hreach : m.x - NODE_W / 2 < max (n.x - NODE_W / 2) x := hleft
      rw [max_eq_left hn'.le] at hreach
      show m.x < n.x
      linarith
  · rintro ⟨hbeyond, hlevel⟩
    obtain ⟨hlow, hhigh⟩ := abs_lt.mp hlevel
    have hy : m.y - NODE_H / 2 < y ∧ y < m.y + NODE_H / 2 := ⟨by linarith, by linarith⟩
    cases side with
    | right =>
      have hn' : n.x + NODE_W / 2 < x := hn
      have hm' : m.x + NODE_W / 2 < x := hm
      have hbeyond' : n.x < m.x := hbeyond
      have hinside : m.x - NODE_W / 2 < max (n.x + NODE_W / 2) m.x ∧ max (n.x + NODE_W / 2) m.x < m.x + NODE_W / 2 :=
        ⟨lt_of_lt_of_le (by linarith) (le_max_right _ _), max_lt (by linarith) (by linarith)⟩
      exact meets_level (Or.inl ⟨le_max_left _ _, max_le hn'.le (by linarith)⟩) hn'.ne hinside hy
    | left =>
      have hn' : x < n.x - NODE_W / 2 := hn
      have hm' : x < m.x - NODE_W / 2 := hm
      have hbeyond' : m.x < n.x := hbeyond
      have hinside : m.x - NODE_W / 2 < min (n.x - NODE_W / 2) m.x ∧ min (n.x - NODE_W / 2) m.x < m.x + NODE_W / 2 :=
        ⟨lt_min (by linarith) (by linarith), lt_of_le_of_lt (min_le_right _ _) (by linarith)⟩
      exact meets_level (Or.inr ⟨le_min hn'.le (by linarith), min_le_left _ _⟩) hn'.ne' hinside hy

/-- Between two rows there is no box. -/
theorem not_meets_gap {g : ℚ} (hm : m.y ≤ g ∨ g + RANK_GAP ≤ m.y)
    (hp : g + NODE_H / 2 ≤ p.2 ∧ p.2 + NODE_H / 2 ≤ g + RANK_GAP)
    (hq : g + NODE_H / 2 ≤ q.2 ∧ q.2 + NODE_H / 2 ≤ g + RANK_GAP) : ¬ Meets p q (boxOf m) := by
  rcases hm with hm | hm
  · apply not_meets_below
    · show m.y + NODE_H / 2 ≤ p.2
      linarith
    · show m.y + NODE_H / 2 ≤ q.2
      linarith
  · apply not_meets_above
    · show p.2 ≤ m.y - NODE_H / 2
      linarith
    · show q.2 ≤ m.y - NODE_H / 2
      linarith

theorem Grid.rows (hg : Grid nodes width height) (hn : n ∈ nodes) (hm : m ∈ nodes) :
    m.y ≤ n.y ∨ n.y + RANK_GAP ≤ m.y := by
  rw [hg.row n hn, hg.row m hm]
  have hgap : RANK_GAP = 34 := rfl
  rcases Nat.lt_or_ge n.rank m.rank with h | h
  · right
    have hrank : (n.rank : ℚ) + 1 ≤ m.rank := by exact_mod_cast h
    rw [hgap]
    linarith
  · left
    have hrank : (m.rank : ℚ) ≤ n.rank := by exact_mod_cast h
    rw [hgap]
    linarith

theorem laneX_past (hm : m ∈ nodes) (side : Side) (lane : ℕ) : Past side m (laneX nodes side lane) := by
  have hlane : (0 : ℚ) ≤ lane * LANE_PITCH := mul_nonneg (Nat.cast_nonneg _) (by norm_num [LANE_PITCH])
  have hoffset : LANE_OFFSET = 6 := rfl
  cases side with
  | right =>
    have hmem : m.x + NODE_W / 2 ∈ nodes.map fun n => n.x + NODE_W / 2 := List.mem_map_of_mem hm
    obtain ⟨M, hM⟩ := Option.isSome_iff_exists.mp (List.isSome_max?_of_mem hmem)
    have hle := (List.max?_eq_some_iff.mp hM).2 _ hmem
    show m.x + NODE_W / 2 < rightmost nodes + LANE_OFFSET + lane * LANE_PITCH
    rw [rightmost, hM, Option.getD_some]
    linarith
  | left =>
    have hmem : m.x - NODE_W / 2 ∈ nodes.map fun n => n.x - NODE_W / 2 := List.mem_map_of_mem hm
    obtain ⟨M, hM⟩ := Option.isSome_iff_exists.mp (List.isSome_min?_of_mem hmem)
    have hle := (List.min?_eq_some_iff.mp hM).2 _ hmem
    show leftmost nodes - LANE_OFFSET - lane * LANE_PITCH < m.x - NODE_W / 2
    rw [leftmost, hM, Option.getD_some]
    linarith

theorem not_meets_lane (hm : m ∈ nodes) (side : Side) (lane : ℕ) {y y' : ℚ} :
    ¬ Meets (laneX nodes side lane, y) (laneX nodes side lane, y') (boxOf m) := by
  apply not_meets_vertical
  have hpast := laneX_past hm side lane
  cases side with
  | right => exact Or.inr hpast.le
  | left => exact Or.inl hpast.le

end Legs

/-! ## Polylines round a margin -/

namespace LaneEdge

/-- From the source to the lane. -/
def outward (nodes : List (PlacedNode α)) (l : LaneEdge α) : List Point :=
  match l.exit with
  | .row => [(sideX l.s l.side, l.s.y + l.exitShift), (laneX nodes l.side l.lane, l.exitY)]
  | .below => [(l.s.x + l.exitShift, l.s.y + NODE_H / 2), (l.s.x + l.exitShift, l.exitY),
      (laneX nodes l.side l.lane, l.exitY)]

/-- From the lane to the target. -/
def homeward (nodes : List (PlacedNode α)) (l : LaneEdge α) : List Point :=
  match l.entry with
  | .row => [(laneX nodes l.side l.lane, l.t.y + l.entryShift), (sideX l.t l.side, l.t.y + l.entryShift)]
  | .above => [(laneX nodes l.side l.lane, l.entryCentre), (l.t.x + l.entryShift, l.entryCentre),
      (l.t.x + l.entryShift, l.t.y - NODE_H / 2)]

end LaneEdge

section Polyline

variable {nodes : List (PlacedNode α)} {laned : List (LaneEdge α)} {width height : ℚ} {l : LaneEdge α} {p : Point}

theorem lanePoints_eq : lanePoints nodes l = l.outward nodes ++ l.homeward nodes := by
  unfold lanePoints LaneEdge.outward LaneEdge.homeward
  cases l.exit <;> rfl

theorem getLast?_outward (nodes : List (PlacedNode α)) (l : LaneEdge α) :
    ∃ y, (l.outward nodes).getLast? = some (laneX nodes l.side l.lane, y) := by
  unfold LaneEdge.outward
  cases l.exit
  · exact ⟨_, rfl⟩
  · exact ⟨_, rfl⟩

theorem head?_homeward (nodes : List (PlacedNode α)) (l : LaneEdge α) :
    ∃ y, (l.homeward nodes).head? = some (laneX nodes l.side l.lane, y) := by
  unfold LaneEdge.homeward
  cases l.entry
  · exact ⟨_, rfl⟩
  · exact ⟨_, rfl⟩

/-- Lanes are clear, so that what a polyline meets it meets on its way out or home. -/
theorem isChain_lanePoints {m : PlacedNode α} (hm : m ∈ nodes) :
    ((lanePoints nodes l).IsChain fun p q => ¬ Meets p q (boxOf m)) ↔
      ((l.outward nodes).IsChain fun p q => ¬ Meets p q (boxOf m)) ∧
        (l.homeward nodes).IsChain fun p q => ¬ Meets p q (boxOf m) := by
  obtain ⟨y, hy⟩ := getLast?_outward nodes l
  obtain ⟨y', hy'⟩ := head?_homeward nodes l
  rw [lanePoints_eq, List.isChain_append, hy, hy']
  constructor
  · rintro ⟨hout, hhome, -⟩
    exact ⟨hout, hhome⟩
  · rintro ⟨hout, hhome⟩
    refine ⟨hout, hhome, ?_⟩
    intro a ha b hb
    obtain rfl := Option.some.inj ha
    obtain rfl := Option.some.inj hb
    exact not_meets_lane hm l.side l.lane

/-- What is no farther from a node than its box is in the picture. -/
theorem holds_near (hg : Grid nodes width height) {n : PlacedNode α} (hn : n ∈ nodes) (hx : |p.1 - n.x| ≤ NODE_W / 2)
    (hy : |p.2 - n.y| ≤ NODE_H / 2) : (viewBoxOf nodes laned width height).Holds p := by
  obtain ⟨hleft, hright⟩ := hg.inside n hn
  obtain ⟨hx, hx'⟩ := abs_le.mp hx
  obtain ⟨hy, hy'⟩ := abs_le.mp hy
  have hlow := hg.low n hn
  have hrow := hg.row n hn
  have hH : NODE_H = 20 := rfl
  have hrows : RANK_GAP = 34 := rfl
  have htop : TOP = 14 := rfl
  have hgap : MIN_GAP_X = 8 := rfl
  have hmargin : MARGIN = 4 := rfl
  have hrank : (0 : ℚ) ≤ n.rank * RANK_GAP := mul_nonneg (Nat.cast_nonneg _) (by norm_num [RANK_GAP])
  refine (holds_iff rfl).mpr ⟨spans_of_inside (Or.inl (by linarith)) (Or.inl (by linarith)), ?_, ?_⟩
  · linarith
  · linarith

theorem spans_sideX (laned : List (LaneEdge α)) (hg : Grid nodes width height) {n : PlacedNode α} (hn : n ∈ nodes)
    (side : Side) : (viewBoxOf nodes laned width height).Spans (sideX n side) := by
  have hside : |sideX n side - n.x| ≤ NODE_W / 2 := by
    have hW : NODE_W = 64 := rfl
    cases side with
    | right =>
      show |n.x + NODE_W / 2 - n.x| ≤ NODE_W / 2
      rw [add_sub_cancel_left, hW]
      norm_num
    | left =>
      show |n.x - NODE_W / 2 - n.x| ≤ NODE_W / 2
      rw [sub_sub_cancel_left, hW]
      norm_num
  have hcentre : |n.y - n.y| ≤ NODE_H / 2 := by norm_num [NODE_H]
  exact ((holds_iff rfl).mp (holds_near (p := (sideX n side, n.y)) hg hn hside hcentre)).1

theorem exists_outer (nodes : List (PlacedNode α)) (hl : l ∈ laned) :
    ∃ k, l.lane ≤ k ∧ outer nodes laned l.side = some (laneX nodes l.side k) := by
  have hmem : l.lane ∈ (laned.filter fun m => m.side = l.side).map LaneEdge.lane :=
    List.mem_map_of_mem (List.mem_filter.mpr ⟨hl, decide_eq_true rfl⟩)
  obtain ⟨k, hk⟩ := Option.isSome_iff_exists.mp (List.isSome_max?_of_mem hmem)
  refine ⟨k, (List.max?_eq_some_iff.mp hk).2 _ hmem, ?_⟩
  rw [outer, hk, Option.map_some]

/-- The view box reaches to the outermost lanes. -/
theorem spans_lane (hg : Grid nodes width height) (hl : l ∈ laned) (hs : l.s ∈ nodes) :
    (viewBoxOf nodes laned width height).Spans (laneX nodes l.side l.lane) := by
  obtain ⟨k, hk, houter⟩ := exists_outer nodes hl
  have hpast := laneX_past hs l.side l.lane
  obtain ⟨hleft, hright⟩ := hg.inside l.s hs
  have hW : NODE_W = 64 := rfl
  have hgap : MIN_GAP_X = 8 := rfl
  have hmargin : MARGIN = 4 := rfl
  have hpitch : (l.lane : ℚ) * LANE_PITCH ≤ k * LANE_PITCH := by
    refine mul_le_mul_of_nonneg_right (by exact_mod_cast hk) ?_
    norm_num [LANE_PITCH]
  cases hside : l.side with
  | right =>
    rw [hside] at houter hpast
    have hpast' : l.s.x + NODE_W / 2 < laneX nodes .right l.lane := hpast
    refine spans_of_inside (Or.inl (by linarith)) (Or.inr ⟨_, houter, ?_⟩)
    show rightmost nodes + LANE_OFFSET + l.lane * LANE_PITCH ≤ rightmost nodes + LANE_OFFSET + k * LANE_PITCH
    linarith
  | left =>
    rw [hside] at houter hpast
    have hpast' : laneX nodes .left l.lane < l.s.x - NODE_W / 2 := hpast
    refine spans_of_inside (Or.inr ⟨_, houter, ?_⟩) (Or.inl (by linarith))
    show leftmost nodes - LANE_OFFSET - k * LANE_PITCH ≤ leftmost nodes - LANE_OFFSET - l.lane * LANE_PITCH
    linarith

theorem outward_iff (hg : Grid nodes width height) (hl : l ∈ laned) (hs : l.s ∈ nodes) :
    ((∀ m, Other nodes l.edge m → (l.outward nodes).IsChain fun p q => ¬ Meets p q (boxOf m)) ∧
        ∀ p ∈ l.outward nodes, (viewBoxOf nodes laned width height).Holds p) ↔
      (l.exit = .row → SidePort nodes height l l.s (l.s.y + l.exitShift)) ∧
        (l.exit = .below → (viewBoxOf nodes laned width height).Spans (l.s.x + l.exitShift)) := by
  have hside := spans_sideX laned hg hs l.side
  have hlane := spans_lane hg hl hs
  have hlow := hg.low l.s hs
  have hrow := hg.row l.s hs
  have hH : NODE_H = 20 := rfl
  have hgap : RANK_GAP = 34 := rfl
  have htop : TOP = 14 := rfl
  have hrank : (0 : ℚ) ≤ l.s.rank * RANK_GAP := mul_nonneg (Nat.cast_nonneg _) (by norm_num [RANK_GAP])
  cases hexit : l.exit with
  | row =>
    have hpoints : l.outward nodes =
        [(sideX l.s l.side, l.s.y + l.exitShift), (laneX nodes l.side l.lane, l.s.y + l.exitShift)] := by
      rw [LaneEdge.outward, hexit, LaneEdge.exitY, if_pos hexit]
    rw [hpoints]
    constructor
    · rintro ⟨hclear, hin⟩
      refine ⟨fun _ => ⟨?_, ?_⟩, fun h => absurd h (by decide)⟩
      · exact ((holds_iff rfl).mp (hin _ List.mem_cons_self)).2
      · intro m hm hbeyond
        have hnot := List.isChain_pair.mp (hclear m hm)
        rw [meets_side_iff (laneX_past hs _ _) (laneX_past hm.1 _ _)] at hnot
        exact not_lt.mp fun hlt => hnot ⟨hbeyond, hlt⟩
    · rintro ⟨hport, -⟩
      obtain ⟨hheight, hlevel⟩ := hport rfl
      constructor
      · intro m hm
        rw [List.isChain_pair, meets_side_iff (laneX_past hs _ _) (laneX_past hm.1 _ _)]
        rintro ⟨hbeyond, hlt⟩
        exact absurd hlt (not_lt.mpr (hlevel m hm hbeyond))
      · rw [List.forall_mem_cons, List.forall_mem_singleton]
        exact ⟨(holds_iff rfl).mpr ⟨hside, hheight⟩, (holds_iff rfl).mpr ⟨hlane, hheight⟩⟩
  | below =>
    have hpoints : l.outward nodes = [(l.s.x + l.exitShift, l.s.y + NODE_H / 2),
        (l.s.x + l.exitShift, l.s.y + RANK_GAP / 2), (laneX nodes l.side l.lane, l.s.y + RANK_GAP / 2)] := by
      rw [LaneEdge.outward, hexit, LaneEdge.exitY, hexit, if_neg (by decide)]
    rw [hpoints]
    constructor
    · rintro ⟨-, hin⟩
      exact ⟨fun h => absurd h (by decide), fun _ => ((holds_iff rfl).mp (hin _ List.mem_cons_self)).1⟩
    · rintro ⟨-, hspans⟩
      constructor
      · intro m hm
        have hfree {a b y y' : ℚ} (hy : l.s.y + NODE_H / 2 ≤ y ∧ y + NODE_H / 2 ≤ l.s.y + RANK_GAP)
            (hy' : l.s.y + NODE_H / 2 ≤ y' ∧ y' + NODE_H / 2 ≤ l.s.y + RANK_GAP) :
            ¬ Meets (a, y) (b, y') (boxOf m) := not_meets_gap (hg.rows hs hm.1) hy hy'
        rw [List.isChain_cons_cons, List.isChain_pair]
        exact ⟨hfree ⟨by linarith, by linarith⟩ ⟨by linarith, by linarith⟩,
          hfree ⟨by linarith, by linarith⟩ ⟨by linarith, by linarith⟩⟩
      · rw [List.forall_mem_cons, List.forall_mem_cons, List.forall_mem_singleton]
        refine ⟨(holds_iff rfl).mpr ⟨hspans rfl, ?_⟩, (holds_iff rfl).mpr ⟨hspans rfl, ?_⟩,
          (holds_iff rfl).mpr ⟨hlane, ?_⟩⟩
        · exact ⟨by linarith, by linarith⟩
        · exact ⟨by linarith, by linarith⟩
        · exact ⟨by linarith, by linarith⟩

theorem homeward_iff (hg : Grid nodes width height) (hl : l ∈ laned) (hs : l.s ∈ nodes) (ht : l.t ∈ nodes) :
    ((∀ m, Other nodes l.edge m → (l.homeward nodes).IsChain fun p q => ¬ Meets p q (boxOf m)) ∧
        ∀ p ∈ l.homeward nodes, (viewBoxOf nodes laned width height).Holds p) ↔
      (l.entry = .row → SidePort nodes height l l.t (l.t.y + l.entryShift)) ∧
        (l.entry = .above →
          l.t.rank ≠ 0 ∧ (viewBoxOf nodes laned width height).Spans (l.t.x + l.entryShift)) := by
  have hside := spans_sideX laned hg ht l.side
  have hlane := spans_lane hg hl hs
  have hlow := hg.low l.t ht
  have hrow := hg.row l.t ht
  have hH : NODE_H = 20 := rfl
  have hgap : RANK_GAP = 34 := rfl
  have htop : TOP = 14 := rfl
  cases hentry : l.entry with
  | row =>
    have hpoints : l.homeward nodes =
        [(laneX nodes l.side l.lane, l.t.y + l.entryShift), (sideX l.t l.side, l.t.y + l.entryShift)] := by
      rw [LaneEdge.homeward, hentry]
    rw [hpoints]
    constructor
    · rintro ⟨hclear, hin⟩
      refine ⟨fun _ => ⟨?_, ?_⟩, fun h => absurd h (by decide)⟩
      · exact ((holds_iff rfl).mp (hin _ List.mem_cons_self)).2
      · intro m hm hbeyond
        have hnot := List.isChain_pair.mp (hclear m hm)
        rw [meets_comm, meets_side_iff (laneX_past ht _ _) (laneX_past hm.1 _ _)] at hnot
        exact not_lt.mp fun hlt => hnot ⟨hbeyond, hlt⟩
    · rintro ⟨hport, -⟩
      obtain ⟨hheight, hlevel⟩ := hport rfl
      constructor
      · intro m hm
        rw [List.isChain_pair, meets_comm, meets_side_iff (laneX_past ht _ _) (laneX_past hm.1 _ _)]
        rintro ⟨hbeyond, hlt⟩
        exact absurd hlt (not_lt.mpr (hlevel m hm hbeyond))
      · rw [List.forall_mem_cons, List.forall_mem_singleton]
        exact ⟨(holds_iff rfl).mpr ⟨hlane, hheight⟩, (holds_iff rfl).mpr ⟨hside, hheight⟩⟩
  | above =>
    have hpoints : l.homeward nodes = [(laneX nodes l.side l.lane, l.t.y - RANK_GAP / 2),
        (l.t.x + l.entryShift, l.t.y - RANK_GAP / 2), (l.t.x + l.entryShift, l.t.y - NODE_H / 2)] := by
      rw [LaneEdge.homeward, hentry, LaneEdge.entryCentre, hentry, if_neg (by decide)]
    rw [hpoints]
    constructor
    · rintro ⟨-, hin⟩
      refine ⟨fun h => absurd h (by decide), fun _ => ?_⟩
      obtain ⟨hspans, hnonneg, -⟩ := (holds_iff rfl).mp (hin (l.t.x + l.entryShift, l.t.y - RANK_GAP / 2) (by simp))
      refine ⟨fun hzero => ?_, hspans⟩
      rw [hzero, Nat.cast_zero, zero_mul, add_zero] at hrow
      linarith
    · rintro ⟨-, habove⟩
      obtain ⟨hne, hspans⟩ := habove rfl
      have hrank : (1 : ℚ) ≤ l.t.rank := by exact_mod_cast Nat.pos_of_ne_zero hne
      rw [hgap] at hrow
      constructor
      · intro m hm
        have hfar : m.y ≤ l.t.y - RANK_GAP ∨ l.t.y - RANK_GAP + RANK_GAP ≤ m.y := by
          rcases hg.rows hm.1 ht with h | h
          · exact Or.inr (by linarith)
          · exact Or.inl (by linarith)
        have hfree {a b y y' : ℚ} (hy : l.t.y - RANK_GAP + NODE_H / 2 ≤ y ∧ y + NODE_H / 2 ≤ l.t.y)
            (hy' : l.t.y - RANK_GAP + NODE_H / 2 ≤ y' ∧ y' + NODE_H / 2 ≤ l.t.y) :
            ¬ Meets (a, y) (b, y') (boxOf m) := by
          refine not_meets_gap hfar ?_ ?_
          · rwa [sub_add_cancel]
          · rwa [sub_add_cancel]
        rw [List.isChain_cons_cons, List.isChain_pair]
        exact ⟨hfree ⟨by linarith, by linarith⟩ ⟨by linarith, by linarith⟩,
          hfree ⟨by linarith, by linarith⟩ ⟨by linarith, by linarith⟩⟩
      · rw [List.forall_mem_cons, List.forall_mem_cons, List.forall_mem_singleton]
        refine ⟨(holds_iff rfl).mpr ⟨hlane, ?_⟩, (holds_iff rfl).mpr ⟨hspans, ?_⟩, (holds_iff rfl).mpr ⟨hspans, ?_⟩⟩
        · exact ⟨by linarith, by linarith⟩
        · exact ⟨by linarith, by linarith⟩
        · exact ⟨by linarith, by linarith⟩

/-- **One edge round a margin.** -/
theorem lanePoints_clean_iff (hg : Grid nodes width height) (hl : l ∈ laned) (hs : l.s ∈ nodes) (ht : l.t ∈ nodes) :
    ((∀ m, Other nodes l.edge m → (lanePoints nodes l).IsChain fun p q => ¬ Meets p q (boxOf m)) ∧
        ∀ p ∈ lanePoints nodes l, (viewBoxOf nodes laned width height).Holds p) ↔
      Harmless nodes height (viewBoxOf nodes laned width height) l := by
  have hchain : (∀ m, Other nodes l.edge m → (lanePoints nodes l).IsChain fun p q => ¬ Meets p q (boxOf m)) ↔
      (∀ m, Other nodes l.edge m → (l.outward nodes).IsChain fun p q => ¬ Meets p q (boxOf m)) ∧
        ∀ m, Other nodes l.edge m → (l.homeward nodes).IsChain fun p q => ¬ Meets p q (boxOf m) := by
    rw [← forall_and]
    refine forall_congr' fun m => ?_
    rw [← imp_and]
    exact imp_congr_right fun hm => isChain_lanePoints hm.1
  rw [hchain, lanePoints_eq, List.forall_mem_append, and_and_and_comm, outward_iff hg hl hs,
    homeward_iff hg hl hs ht]
  constructor
  · rintro ⟨⟨hrow, hbelow⟩, hrow', habove⟩
    exact ⟨hrow, hbelow, hrow', habove⟩
  · rintro ⟨hrow, hbelow, hrow', habove⟩
    exact ⟨⟨hrow, hbelow⟩, hrow', habove⟩

end Polyline

/-! ## Straight lines -/

section Straight

variable {p q : Point} {b : Box} {n : PlacedNode α}

theorem abs_mul_le {half d s : ℚ} (hd : d ≠ 0) (hs : 0 ≤ s) (hle : s ≤ half / |d|) : |d * s| ≤ half := by
  rw [abs_mul, abs_of_nonneg hs, mul_comm]
  exact (le_div_iff₀ (abs_pos.mpr hd)).mp hle

/-- A straight line ends on the boxes that it joins. -/
theorem boundary_near (n : PlacedNode α) (dx dy : ℚ) :
    |(boundary n dx dy).1 - n.x| ≤ NODE_W / 2 ∧ |(boundary n dx dy).2 - n.y| ≤ NODE_H / 2 := by
  have hW : (0 : ℚ) ≤ NODE_W / 2 := by norm_num [NODE_W]
  have hH : (0 : ℚ) ≤ NODE_H / 2 := by norm_num [NODE_H]
  have hpoint {s : ℚ} (hx : |dx * s| ≤ NODE_W / 2) (hy : |dy * s| ≤ NODE_H / 2) :
      |n.x + dx * s - n.x| ≤ NODE_W / 2 ∧ |n.y + dy * s - n.y| ≤ NODE_H / 2 := by
    rw [add_sub_cancel_left, add_sub_cancel_left]
    exact ⟨hx, hy⟩
  have hzero (s : ℚ) : |0 * s| = 0 := by rw [zero_mul, abs_zero]
  unfold boundary quotient
  by_cases hdx : dx = 0
  · by_cases hdy : dy = 0
    · rw [if_pos hdx, if_pos hdy]
      subst hdx hdy
      exact hpoint (by rw [hzero]; exact hW) (by rw [hzero]; exact hH)
    · rw [if_pos hdx, if_neg hdy]
      subst hdx
      have hs : 0 ≤ NODE_H / 2 / |dy| := div_nonneg hH (abs_nonneg _)
      exact hpoint (by rw [hzero]; exact hW) (abs_mul_le hdy hs le_rfl)
  · have hsx : 0 ≤ NODE_W / 2 / |dx| := div_nonneg hW (abs_nonneg _)
    by_cases hdy : dy = 0
    · rw [if_neg hdx, if_pos hdy]
      subst hdy
      exact hpoint (abs_mul_le hdx hsx le_rfl) (by rw [hzero]; exact hH)
    · rw [if_neg hdx, if_neg hdy]
      have hs : 0 ≤ min (NODE_W / 2 / |dx|) (NODE_H / 2 / |dy|) := le_min hsx (div_nonneg hH (abs_nonneg _))
      exact hpoint (abs_mul_le hdx hs (min_le_left _ _)) (abs_mul_le hdy hs (min_le_right _ _))

/-- Times at which a segment is on the right side of an edge of the box are kept. -/
theorem clip_keeps {den num c d : ℚ} {t : ℚ × ℚ} (hc : den * c ≤ num) (hd : den * d ≤ num) (hcd : c ≤ d) (htc : t.1 ≤ c)
    (hdt : d ≤ t.2) : ∃ u, clip den num t = some u ∧ u.1 ≤ c ∧ d ≤ u.2 := by
  unfold clip
  rcases lt_trichotomy den 0 with hneg | hzero | hpos
  · have hle : num / den ≤ c := (div_le_iff_of_neg hneg).mpr (by linarith)
    rw [if_neg hneg.ne, if_pos hneg, if_neg (not_lt.mpr (hle.trans (hcd.trans hdt)))]
    exact ⟨_, rfl, max_le htc hle, hdt⟩
  · subst hzero
    rw [zero_mul] at hc
    rw [if_pos rfl, if_pos hc]
    exact ⟨_, rfl, htc, hdt⟩
  · have hle : d ≤ num / den := (le_div_iff₀ hpos).mpr (by linarith)
    rw [if_neg hpos.ne', if_neg (not_lt.mpr hpos.le), if_neg (not_lt.mpr (htc.trans (hcd.trans hle)))]
    exact ⟨_, rfl, htc, le_min hdt hle⟩

/-- What is in the box grown by one at two times is hit. -/
theorem hits_of_times {c d : ℚ} (h0 : 0 ≤ c) (h1 : d ≤ 1) (hcd : 1 / 1000000000 < d - c)
    (hx : ∀ u, u = c ∨ u = d → b.left - 1 ≤ p.1 + u * (q.1 - p.1) ∧ p.1 + u * (q.1 - p.1) ≤ b.right + 1)
    (hy : ∀ u, u = c ∨ u = d → b.top - 1 ≤ p.2 + u * (q.2 - p.2) ∧ p.2 + u * (q.2 - p.2) ≤ b.bottom + 1) :
    segmentHitsBox p q b 1 = true := by
  obtain ⟨hcx, hcx'⟩ := hx c (Or.inl rfl)
  obtain ⟨hdx, hdx'⟩ := hx d (Or.inr rfl)
  obtain ⟨hcy, hcy'⟩ := hy c (Or.inl rfl)
  obtain ⟨hdy, hdy'⟩ := hy d (Or.inr rfl)
  have hle : c ≤ d := by linarith
  obtain ⟨t₁, ht₁, hc₁, hd₁⟩ := @clip_keeps (-(q.1 - p.1)) (p.1 - (b.left - 1)) c d (0, 1) (by linarith) (by linarith)
    hle h0 h1
  obtain ⟨t₂, ht₂, hc₂, hd₂⟩ := @clip_keeps (q.1 - p.1) (b.right + 1 - p.1) c d t₁ (by linarith) (by linarith)
    hle hc₁ hd₁
  obtain ⟨t₃, ht₃, hc₃, hd₃⟩ := @clip_keeps (-(q.2 - p.2)) (p.2 - (b.top - 1)) c d t₂ (by linarith) (by linarith) hle
    hc₂ hd₂
  obtain ⟨t₄, ht₄, hc₄, hd₄⟩ := @clip_keeps (q.2 - p.2) (b.bottom + 1 - p.2) c d t₃ (by linarith) (by linarith) hle
    hc₃ hd₃
  rw [segmentHitsBox, ht₁, Option.bind_some, ht₂, Option.bind_some, ht₃, Option.bind_some, ht₄]
  exact decide_eq_true (by linarith)

/-- `segmentHitsBox` sees every box on a segment that is not too long. -/
theorem hits_of_meets (h : Meets p q b) (hx : |q.1 - p.1| < 1000000000) (hy : |q.2 - p.2| < 1000000000) :
    segmentHitsBox p q b 1 = true := by
  obtain ⟨t, h0, h1, hleft, hright, htop, hbottom⟩ := h
  set D := max 1 (max |q.1 - p.1| |q.2 - p.2|)
  have hone : 1 ≤ D := le_max_left _ _
  have hpos : 0 < D := by linarith
  have hD : D < 1000000000 := max_lt (by norm_num) (max_lt hx hy)
  have hdx : |q.1 - p.1| ≤ D := (le_max_left _ _).trans (le_max_right _ _)
  have hdy : |q.2 - p.2| ≤ D := (le_max_right _ _).trans (le_max_right _ _)
  have hstep : 1 / 1000000000 < 1 / D := one_div_lt_one_div_of_lt hpos hD
  have hstep' : 1 / D ≤ 1 := (div_le_one hpos).mpr hone
  have hinv : 0 < 1 / D := by positivity
  -- a step of 1 / D moves no coordinate by more than one
  have hmove {d u : ℚ} (hd : |d| ≤ D) (hu : |u - t| ≤ 1 / D) : |(u - t) * d| ≤ 1 := by
    rw [abs_mul]
    calc |u - t| * |d| ≤ 1 / D * D := mul_le_mul hu hd (abs_nonneg _) hinv.le
      _ = 1 := one_div_mul_cancel hpos.ne'
  have hnear {u : ℚ} (hu : u = max 0 (t - 1 / D) ∨ u = min 1 (t + 1 / D)) : |u - t| ≤ 1 / D := by
    rw [abs_le]
    rcases hu with rfl | rfl
    · have hlow := le_max_right 0 (t - 1 / D)
      have hhigh : max 0 (t - 1 / D) ≤ t := max_le h0 (by linarith)
      exact ⟨by linarith, by linarith⟩
    · have hlow : t ≤ min 1 (t + 1 / D) := le_min h1 (by linarith)
      have hhigh := min_le_right 1 (t + 1 / D)
      exact ⟨by linarith, by linarith⟩
  have hlong : max 0 (t - 1 / D) + 1 / D ≤ min 1 (t + 1 / D) := by
    rw [← le_sub_iff_add_le]
    refine max_le ?_ ?_
    · rw [sub_nonneg]
      exact le_min hstep' (by linarith)
    · rw [sub_le_sub_iff_right]
      exact le_min h1 (by linarith)
  have hcd : 1 / 1000000000 < min 1 (t + 1 / D) - max 0 (t - 1 / D) := hstep.trans_le (le_sub_iff_add_le'.mpr hlong)
  refine hits_of_times (le_max_left _ _) (min_le_left _ _) hcd ?_ ?_
  · intro u hu
    obtain ⟨hlow, hhigh⟩ := abs_le.mp (hmove hdx (hnear hu))
    exact ⟨by linarith, by linarith⟩
  · intro u hu
    obtain ⟨hlow, hhigh⟩ := abs_le.mp (hmove hdy (hnear hu))
    exact ⟨by linarith, by linarith⟩

end Straight

/-! ## The edges of a picture -/

section Edges

variable [DecidableEq α] {nodes : List (PlacedNode α)} {back edgeList : List (GraphEdge α)} {width height : ℚ}
  {e : GraphEdge α} {k : ℕ} {l : LaneEdge α}

/-- What an edge round a margin keeps of the list it comes from. -/
theorem map_routed (nodes : List (PlacedNode α)) (back edgeList : List (GraphEdge α)) (width : ℚ) :
    (routed nodes back width edgeList).map (fun l => (l.pos, l.edge, l.s, l.t)) =
      (edgeList.zipIdx.filter fun e => !isStraight nodes back e.1).map fun e =>
        (e.2, e.1, nodeAt nodes e.1.source, nodeAt nodes e.1.target) := by
  unfold routed entryPorts lanes exitPorts lanedOf
  rw [List.map_map, List.map_map, List.map_map, List.map_map]
  rfl

theorem mem_routed (hl : l ∈ routed nodes back width edgeList) : (l.edge, l.pos) ∈ edgeList.zipIdx ∧
    isStraight nodes back l.edge = false ∧ l.s = nodeAt nodes l.edge.source ∧ l.t = nodeAt nodes l.edge.target := by
  have hmem := List.mem_map_of_mem (f := fun l => (l.pos, l.edge, l.s, l.t)) hl
  rw [map_routed] at hmem
  obtain ⟨⟨e, k⟩, hek, heq⟩ := List.mem_map.mp hmem
  obtain ⟨hek, hstraight⟩ := List.mem_filter.mp hek
  simp only [Prod.mk.injEq] at heq
  obtain ⟨hpos, hedge, hs, ht⟩ := heq
  rw [← hpos, ← hedge, ← hs, ← ht]
  exact ⟨hek, by simpa using hstraight, rfl, rfl⟩

theorem nodup_pos_lanedOf : ((lanedOf nodes back width edgeList).map LaneEdge.pos).Nodup := by
  have hpos : (lanedOf nodes back width edgeList).map LaneEdge.pos =
      (edgeList.zipIdx.filter fun e => !isStraight nodes back e.1).map Prod.snd := by
    unfold lanedOf
    rw [List.map_map]
    rfl
  rw [hpos]
  refine (List.filter_sublist.map _).nodup ?_
  rw [List.zipIdx_map_snd]
  exact List.nodup_range'

theorem nodup_pos : ((routed nodes back width edgeList).map LaneEdge.pos).Nodup := by
  have hpos : (routed nodes back width edgeList).map LaneEdge.pos =
      (lanedOf nodes back width edgeList).map LaneEdge.pos := by
    unfold routed entryPorts lanes exitPorts
    rw [List.map_map, List.map_map, List.map_map]
    rfl
  rw [hpos]
  exact nodup_pos_lanedOf

/-- Every edge that is not straight goes round a margin. -/
theorem placeEdge_spec (he : (e, k) ∈ edgeList.zipIdx) (hstraight : isStraight nodes back e = false) :
    ∃ l ∈ routed nodes back width edgeList, l.edge = e ∧ l.pos = k ∧
      placeEdge nodes back (routed nodes back width edgeList) e k = ⟨e, l.route, lanePoints nodes l⟩ := by
  have hmem : (k, e, nodeAt nodes e.source, nodeAt nodes e.target) ∈
      (routed nodes back width edgeList).map fun l => (l.pos, l.edge, l.s, l.t) := by
    rw [map_routed]
    exact List.mem_map.mpr ⟨(e, k), List.mem_filter.mpr ⟨he, by simpa using hstraight⟩, rfl⟩
  obtain ⟨l, hl, heq⟩ := List.mem_map.mp hmem
  simp only [Prod.mk.injEq] at heq
  have hsome : ((routed nodes back width edgeList).find? fun l => l.pos = k).isSome :=
    List.find?_isSome.mpr ⟨l, hl, by simpa using heq.1⟩
  obtain ⟨m, hm⟩ := Option.isSome_iff_exists.mp hsome
  have hpos : m.pos = k := by simpa using List.find?_some hm
  obtain rfl : m = l :=
    List.inj_on_of_nodup_map nodup_pos (List.mem_of_find?_eq_some hm) hl (hpos.trans heq.1.symm)
  refine ⟨m, hl, heq.2.1, hpos, ?_⟩
  rw [placeEdge, hstraight, if_neg Bool.false_ne_true, hm]

theorem placeEdge_straight {laned : List (LaneEdge α)} (hstraight : isStraight nodes back e = true) :
    placeEdge nodes back laned e k =
      ⟨e, .straight, [(straightLine (nodeAt nodes e.source) (nodeAt nodes e.target)).1,
        (straightLine (nodeAt nodes e.source) (nodeAt nodes e.target)).2]⟩ := by
  rw [placeEdge, hstraight, if_pos rfl]

end Edges

/-! ## How many ends an edge's place has -/

/-- A list has no fewer elements of a kind than places where they are. -/
theorem countP_range_le {β : Type} {l : List β} {p : ℕ → Bool} {q : β → Bool}
    (h : ∀ i (hi : i < l.length), p i = true → q l[i] = true) : (List.range l.length).countP p ≤ l.countP q := by
  induction l using List.reverseRecOn with
  | nil => exact Nat.zero_le _
  | append_singleton l b ih =>
    have hbefore := ih fun i hi hp => by
      have hq := h i (by rw [List.length_append]; omega) hp
      rwa [List.getElem_append_left hi] at hq
    have hlast := h l.length (by simp)
    rw [List.getElem_concat_length rfl] at hlast
    rw [List.length_append, List.length_singleton, List.range_succ, List.countP_append, List.countP_append,
      List.countP_singleton, List.countP_singleton]
    split_ifs with hp hq
    · omega
    · exact absurd (hlast hp) hq
    · omega
    · omega

/-- How many of these edges leave at a place: at a side of a node, or at its bottom. -/
def exitsAt [DecidableEq α] (laned : List (LaneEdge α)) (place : α × Option Side) : ℕ :=
  laned.countP fun l => l.exitAt = place

/-- How many come to a place: to a side of a node, or to its top. -/
def entriesAt [DecidableEq α] (laned : List (LaneEdge α)) (place : α × Option Side) : ℕ :=
  laned.countP fun l => l.entryAt = place

section Ports

variable [DecidableEq α] {laned : List (LaneEdge α)} {l : LaneEdge α}

/-- The edges of a place have their ports in some order. -/
theorem exitGroup_perm (laned : List (LaneEdge α)) (l : LaneEdge α) :
    (exitGroup laned l).Perm (laned.filter fun m => m.exitAt = l.exitAt) :=
  ((List.perm_insertionSort _ _).append (List.perm_insertionSort _ _)).trans (List.filter_append_perm _ _)

theorem entryGroup_perm (laned : List (LaneEdge α)) (l : LaneEdge α) :
    (entryGroup laned l).Perm (laned.filter fun m => m.entryAt = l.entryAt) :=
  ((List.perm_insertionSort _ _).append (List.perm_insertionSort _ _)).trans
    (List.perm_append_comm.trans (List.filter_append_perm _ _))

theorem length_exitGroup (laned : List (LaneEdge α)) (l : LaneEdge α) :
    (exitGroup laned l).length = exitsAt laned l.exitAt := by
  rw [(exitGroup_perm laned l).length_eq, exitsAt, List.countP_eq_length_filter]

theorem length_entryGroup (laned : List (LaneEdge α)) (l : LaneEdge α) :
    (entryGroup laned l).length = entriesAt laned l.entryAt := by
  rw [(entryGroup_perm laned l).length_eq, entriesAt, List.countP_eq_length_filter]

theorem mem_exitGroup {m : LaneEdge α} : m ∈ exitGroup laned l ↔ m ∈ laned ∧ m.exitAt = l.exitAt := by
  rw [(exitGroup_perm laned l).mem_iff, List.mem_filter, decide_eq_true_eq]

theorem mem_entryGroup {m : LaneEdge α} : m ∈ entryGroup laned l ↔ m ∈ laned ∧ m.entryAt = l.entryAt := by
  rw [(entryGroup_perm laned l).mem_iff, List.mem_filter, decide_eq_true_eq]

omit [DecidableEq α] in
/-- An edge of a place has one of its ports. -/
theorem portShift_spec {group : List (LaneEdge α)} (hl : l ∈ group) :
    ∃ i < group.length, portShift group l = shiftOf i group.length :=
  ⟨_, List.findIdx_lt_length_of_exists ⟨l, hl, by simp⟩, rfl⟩

omit [DecidableEq α] in
/-- Each edge of a place has a port of its own. -/
theorem portShift_getElem {group : List (LaneEdge α)} (hnodup : (group.map LaneEdge.pos).Nodup) {i : ℕ}
    (hi : i < group.length) : portShift group group[i] = shiftOf i group.length := by
  have hindex : (group.findIdx fun m => m.pos = group[i].pos) = i := by
    have hmap := hnodup.idxOf_getElem i (by rwa [List.length_map])
    rw [List.getElem_map, List.idxOf, List.findIdx_map] at hmap
    exact hmap
  rw [portShift, hindex]

variable {nodes : List (PlacedNode α)} {back edgeList : List (GraphEdge α)} {width height : ℚ}

/-- What the ports and the lanes leave of an edge. -/
structure SameEnds (l m : LaneEdge α) : Prop where
  edge : l.edge = m.edge
  side : l.side = m.side
  exit : l.exit = m.exit
  entry : l.entry = m.entry
  s : l.s = m.s
  t : l.t = m.t

theorem entriesAt_map {f : LaneEdge α → LaneEdge α} (hf : ∀ l, (f l).entryAt = l.entryAt)
    (place : α × Option Side) : entriesAt (laned.map f) place = entriesAt laned place := by
  unfold entriesAt
  rw [List.countP_map]
  refine List.countP_congr fun l _ => ?_
  rw [Function.comp_apply, hf]

theorem entriesAt_lanes (place : α × Option Side) :
    entriesAt (lanes (exitPorts laned)) place = entriesAt laned place := by
  unfold lanes exitPorts
  rw [List.map_map]
  refine entriesAt_map (fun l => ?_) place
  rfl

/-- An edge has the ends that it had before it got its ports, and at each of them one of the ports there. -/
theorem exists_laned (hl : l ∈ routed nodes back width edgeList) : ∃ m ∈ lanedOf nodes back width edgeList,
    SameEnds l m ∧
    (∃ i < exitsAt (lanedOf nodes back width edgeList) m.exitAt,
      l.exitShift = shiftOf i (exitsAt (lanedOf nodes back width edgeList) m.exitAt)) ∧
    ∃ i < entriesAt (lanedOf nodes back width edgeList) m.entryAt,
      l.entryShift = shiftOf i (entriesAt (lanedOf nodes back width edgeList) m.entryAt) := by
  obtain ⟨l₂, hl₂, rfl⟩ := List.mem_map.mp hl
  have hentry := portShift_spec (mem_entryGroup.mpr ⟨hl₂, rfl⟩)
  rw [length_entryGroup, entriesAt_lanes] at hentry
  obtain ⟨l₁, hl₁, rfl⟩ := List.mem_map.mp hl₂
  obtain ⟨m, hm, rfl⟩ := List.mem_map.mp hl₁
  have hexit := portShift_spec (mem_exitGroup.mpr ⟨hm, rfl⟩)
  rw [length_exitGroup] at hexit
  exact ⟨m, hm, ⟨rfl, rfl, rfl, rfl, rfl, rfl⟩, hexit, hentry⟩

omit [DecidableEq α] in
theorem exitAt_side {n : α} {side : Side} :
    l.exitAt = (n, some side) ↔ l.edge.source = n ∧ l.exit = .row ∧ l.side = side := by
  cases h : l.exit <;> simp [LaneEdge.exitAt, h]

omit [DecidableEq α] in
theorem exitAt_bottom {n : α} : l.exitAt = (n, none) ↔ l.edge.source = n ∧ l.exit = .below := by
  cases h : l.exit <;> simp [LaneEdge.exitAt, h]

omit [DecidableEq α] in
theorem entryAt_side {n : α} {side : Side} :
    l.entryAt = (n, some side) ↔ l.edge.target = n ∧ l.entry = .row ∧ l.side = side := by
  cases h : l.entry <;> simp [LaneEdge.entryAt, h]

omit [DecidableEq α] in
theorem entryAt_top {n : α} : l.entryAt = (n, none) ↔ l.edge.target = n ∧ l.entry = .above := by
  cases h : l.entry <;> simp [LaneEdge.entryAt, h]

/-- The edge that is in some place among those of its side has the port of that place. -/
theorem exists_exit {m : LaneEdge α} {i : ℕ} (hi : i < (exitGroup (lanedOf nodes back width edgeList) m).length) :
    ∃ l ∈ routed nodes back width edgeList, l.edge = (exitGroup (lanedOf nodes back width edgeList) m)[i].edge ∧
      l.exitAt = m.exitAt ∧ l.exitShift = shiftOf i (exitGroup (lanedOf nodes back width edgeList) m).length := by
  set laned := lanedOf nodes back width edgeList
  have hnodup : ((exitGroup laned m).map LaneEdge.pos).Nodup :=
    ((exitGroup_perm laned m).map _).nodup_iff.mpr ((List.filter_sublist.map _).nodup nodup_pos_lanedOf)
  obtain ⟨hmem, hexit⟩ := mem_exitGroup.mp (List.getElem_mem hi)
  have hsame : exitGroup laned (exitGroup laned m)[i] = exitGroup laned m := by
    rw [exitGroup, hexit]
    rfl
  refine ⟨_, List.mem_map_of_mem (List.mem_map_of_mem (List.mem_map_of_mem hmem)), rfl, hexit, ?_⟩
  show portShift (exitGroup laned (exitGroup laned m)[i]) (exitGroup laned m)[i] = _
  rw [hsame]
  exact portShift_getElem hnodup hi

theorem exists_entry {m : LaneEdge α} {i : ℕ}
    (hi : i < (entryGroup (lanes (exitPorts (lanedOf nodes back width edgeList))) m).length) :
    ∃ l ∈ routed nodes back width edgeList,
      l.edge = (entryGroup (lanes (exitPorts (lanedOf nodes back width edgeList))) m)[i].edge ∧
      l.entryAt = m.entryAt ∧
      l.entryShift = shiftOf i (entryGroup (lanes (exitPorts (lanedOf nodes back width edgeList))) m).length := by
  set laned := lanes (exitPorts (lanedOf nodes back width edgeList)) with hlaned
  have hpos : laned.map LaneEdge.pos = (lanedOf nodes back width edgeList).map LaneEdge.pos := by
    rw [hlaned, lanes, exitPorts, List.map_map, List.map_map]
    rfl
  have hnodup : ((entryGroup laned m).map LaneEdge.pos).Nodup :=
    ((entryGroup_perm laned m).map _).nodup_iff.mpr ((List.filter_sublist.map _).nodup (hpos ▸ nodup_pos_lanedOf))
  obtain ⟨hmem, hentry⟩ := mem_entryGroup.mp (List.getElem_mem hi)
  have hsame : entryGroup laned (entryGroup laned m)[i] = entryGroup laned m := by
    rw [entryGroup, hentry]
    rfl
  refine ⟨_, List.mem_map_of_mem hmem, rfl, hentry, ?_⟩
  show portShift (entryGroup laned (entryGroup laned m)[i]) (entryGroup laned m)[i] = _
  rw [hsame]
  exact portShift_getElem hnodup hi

/-- How many edges go from one node to another. -/
def joining (edgeList : List (GraphEdge α)) (a b : α) : ℕ := edgeList.countP fun e => e.source = a ∧ e.target = b

theorem edges_lanedOf : ((lanedOf nodes back width edgeList).map LaneEdge.edge).Sublist edgeList := by
  have hedges : (lanedOf nodes back width edgeList).map LaneEdge.edge =
      (edgeList.zipIdx.filter fun e => !isStraight nodes back e.1).map Prod.fst := by
    rw [lanedOf, List.map_map]
    rfl
  have hall := (List.filter_sublist (l := edgeList.zipIdx) (p := fun e => !isStraight nodes back e.1)).map Prod.fst
  rwa [← hedges, List.zipIdx_map_fst] at hall

/-- No more edges leave a node for another than there are. -/
theorem countP_exitGroup_le {m : LaneEdge α} (a : α) :
    (exitGroup (lanedOf nodes back width edgeList) m).countP (fun l => l.edge.target = a) ≤
      joining edgeList m.edge.source a := by
  rw [(exitGroup_perm _ m).countP_eq, List.countP_filter]
  refine le_trans (List.countP_mono_left
    (q := (fun e => decide (e.source = m.edge.source ∧ e.target = a)) ∘ LaneEdge.edge) fun l _ hl => ?_) ?_
  · simp only [LaneEdge.exitAt, Bool.and_eq_true, decide_eq_true_eq, Prod.mk.injEq] at hl
    exact decide_eq_true ⟨hl.2.1, hl.1⟩
  · rw [← List.countP_map]
    exact edges_lanedOf.countP_le

theorem countP_entryGroup_le {m : LaneEdge α} (a : α) :
    (entryGroup (lanes (exitPorts (lanedOf nodes back width edgeList))) m).countP (fun l => l.edge.source = a) ≤
      joining edgeList a m.edge.target := by
  rw [(entryGroup_perm _ m).countP_eq, List.countP_filter]
  have hedges : (lanes (exitPorts (lanedOf nodes back width edgeList))).map LaneEdge.edge =
      (lanedOf nodes back width edgeList).map LaneEdge.edge := by
    rw [lanes, exitPorts, List.map_map, List.map_map]
    rfl
  refine le_trans (List.countP_mono_left
    (q := (fun e => decide (e.source = a ∧ e.target = m.edge.target)) ∘ LaneEdge.edge) fun l _ hl => ?_) ?_
  · simp only [LaneEdge.entryAt, Bool.and_eq_true, decide_eq_true_eq, Prod.mk.injEq] at hl
    exact decide_eq_true ⟨hl.1, hl.2.1⟩
  · rw [← List.countP_map, hedges]
    exact edges_lanedOf.countP_le

theorem exists_exitAt {place : α × Option Side} (h : 0 < exitsAt laned place) :
    ∃ m, m.exitAt = place ∧ (exitGroup laned m).length = exitsAt laned place := by
  obtain ⟨m, -, hat⟩ := List.countP_pos_iff.mp h
  obtain rfl : m.exitAt = place := of_decide_eq_true hat
  exact ⟨m, rfl, length_exitGroup laned m⟩

theorem exists_entryAt {place : α × Option Side} (h : 0 < entriesAt laned place) :
    ∃ m, m.entryAt = place ∧ (entryGroup laned m).length = entriesAt laned place := by
  obtain ⟨m, -, hat⟩ := List.countP_pos_iff.mp h
  obtain rfl : m.entryAt = place := of_decide_eq_true hat
  exact ⟨m, rfl, length_entryGroup laned m⟩

/-! ## Where the ports come to lie -/

omit [DecidableEq α] in
/-- A lane is no farther from a node than the picture is wide. -/
theorem laneX_near (hg : Grid nodes width height) (hwidth : width ≤ 1000000000) {n : PlacedNode α} (hn : n ∈ nodes)
    (side : Side) : |laneX nodes side 0 - sideX n side| < 1000000000 := by
  have hW : NODE_W = 64 := rfl
  have hgap : MIN_GAP_X = 8 := rfl
  have hoffset : LANE_OFFSET = 6 := rfl
  have hpast := laneX_past hn side 0
  obtain ⟨hleft, hright⟩ := hg.inside n hn
  cases side with
  | right =>
    have hpast' : n.x + NODE_W / 2 < laneX nodes .right 0 := hpast
    have hmem : n.x + NODE_W / 2 ∈ nodes.map fun n => n.x + NODE_W / 2 := List.mem_map_of_mem hn
    obtain ⟨M, hM⟩ := Option.isSome_iff_exists.mp (List.isSome_max?_of_mem hmem)
    obtain ⟨m, hm, rfl⟩ := List.mem_map.mp (List.max?_eq_some_iff.mp hM).1
    have hlane : laneX nodes .right 0 = m.x + NODE_W / 2 + LANE_OFFSET := by
      rw [laneX, rightmost, hM, Option.getD_some, Nat.cast_zero, zero_mul, add_zero]
    have hin := (hg.inside m hm).2
    show |laneX nodes .right 0 - (n.x + NODE_W / 2)| < 1000000000
    exact abs_lt.mpr ⟨by linarith, by linarith⟩
  | left =>
    have hpast' : laneX nodes .left 0 < n.x - NODE_W / 2 := hpast
    have hmem : n.x - NODE_W / 2 ∈ nodes.map fun n => n.x - NODE_W / 2 := List.mem_map_of_mem hn
    obtain ⟨M, hM⟩ := Option.isSome_iff_exists.mp (List.isSome_min?_of_mem hmem)
    obtain ⟨m, hm, rfl⟩ := List.mem_map.mp (List.min?_eq_some_iff.mp hM).1
    have hlane : laneX nodes .left 0 = m.x - NODE_W / 2 - LANE_OFFSET := by
      rw [laneX, leftmost, hM, Option.getD_some, Nat.cast_zero, zero_mul, sub_zero]
    have hin := (hg.inside m hm).1
    show |laneX nodes .left 0 - (n.x - NODE_W / 2)| < 1000000000
    exact abs_lt.mpr ⟨by linarith, by linarith⟩

/-- The way from a side of a node to the lanes is clear along its row: no node farther out is in the row. -/
theorem row_free (hg : Grid nodes width height) (hwidth : width ≤ 1000000000) {n m : PlacedNode α} (hn : n ∈ nodes)
    (hm : m ∈ nodes) {side : Side} {except : List α} (hexcept : m.id ∉ except)
    (hclear : clear nodes (sideX n side, n.y) (laneX nodes side 0, n.y) except = true ∨
      clear nodes (laneX nodes side 0, n.y) (sideX n side, n.y) except = true)
    (hbeyond : Beyond side n m) : m.y ≠ n.y := by
  intro hrow
  have hmeets : Meets (sideX n side, n.y) (laneX nodes side 0, n.y) (boxOf m) :=
    (meets_side_iff (laneX_past hn _ _) (laneX_past hm _ _)).mpr ⟨hbeyond, by rw [hrow, sub_self]; norm_num [NODE_H]⟩
  have hnear := laneX_near hg hwidth hn side
  have hlevel : |n.y - n.y| < 1000000000 := by norm_num
  rcases hclear with hclear | hclear
  · rcases of_decide_eq_true (List.all_eq_true.mp hclear m hm) with hin | hmiss
    · exact hexcept hin
    · rw [hits_of_meets hmeets hnear hlevel] at hmiss
      cases hmiss
  · rcases of_decide_eq_true (List.all_eq_true.mp hclear m hm) with hin | hmiss
    · exact hexcept hin
    · rw [hits_of_meets hmeets.symm (by rw [abs_sub_comm]; exact hnear) hlevel] at hmiss
      cases hmiss

/-- An edge leaves along its row if the row is clear. -/
theorem clear_of_exit (hl : l ∈ lanedOf nodes back width edgeList) (hrow : l.exit = .row) :
    clear nodes (sideX l.s l.side, l.s.y) (laneX nodes l.side 0, l.s.y) [l.edge.source] = true := by
  obtain ⟨⟨e, k⟩, -, rfl⟩ := List.mem_map.mp hl
  by_contra hclear
  have hbelow : Exit.row = .below := hrow.symm.trans (if_neg hclear)
  cases hbelow

theorem clear_of_entry (hl : l ∈ lanedOf nodes back width edgeList) (hrow : l.entry = .row) :
    clear nodes (laneX nodes l.side 0, l.t.y) (sideX l.t l.side, l.t.y) [l.edge.target] = true := by
  obtain ⟨⟨e, k⟩, -, rfl⟩ := List.mem_map.mp hl
  by_contra hclear
  have habove : Entry.row = .above := hrow.symm.trans (if_neg hclear)
  cases habove

theorem abs_shiftOf {i k : ℕ} (hi : i < k) : |shiftOf i k| ≤ ((k : ℚ) - 1) * (PORT_PITCH / 2) := by
  have hlow : (0 : ℚ) ≤ i := Nat.cast_nonneg _
  have hhigh : (i : ℚ) + 1 ≤ k := by exact_mod_cast hi
  rw [shiftOf, PORT_PITCH, abs_le]
  exact ⟨by linarith, by linarith⟩

/-- How many of `k` ports on a side of a node in row `a` are level with the boxes of row `b`. -/
def portsLevel (k a b : ℕ) : ℕ :=
  (List.range k).countP fun i => |shiftOf i k - ((b : ℚ) - a) * RANK_GAP| < NODE_H / 2

/-- The ports on a side, if there are `k`, are in the picture. -/
def PortsIn (highest k row : ℕ) : Prop :=
  ((k : ℚ) - 1) * (PORT_PITCH / 2) ≤ TOP + row * RANK_GAP ∧
    ((k : ℚ) - 1) * (PORT_PITCH / 2) ≤ ((highest : ℚ) + 1 - row) * RANK_GAP

omit [DecidableEq α] in
theorem port_sub (hg : Grid nodes width height) {n m : PlacedNode α} (hn : n ∈ nodes) (hm : m ∈ nodes) (shift : ℚ) :
    n.y + shift - m.y = shift - ((m.rank : ℚ) - n.rank) * RANK_GAP := by
  rw [hg.row n hn, hg.row m hm]
  ring

omit [DecidableEq α] in
/-- A port on a side where all are in the picture, and none is level with a box farther out. -/
theorem sidePort_of_free (hg : Grid nodes width height) {highest : ℕ}
    (hheight : height = TOP + highest * RANK_GAP + RANK_GAP) {n : PlacedNode α} (hn : n ∈ nodes) {l : LaneEdge α}
    {i k : ℕ} (hi : i < k) (hin : PortsIn highest k n.rank)
    (hfree : ∀ m, Other nodes l.edge m → Beyond l.side n m → portsLevel k n.rank m.rank = 0) :
    SidePort nodes height l n (n.y + shiftOf i k) := by
  obtain ⟨hlow, hhigh⟩ := abs_le.mp (abs_shiftOf hi)
  obtain ⟨htop, hbottom⟩ := hin
  have hrow := hg.row n hn
  refine ⟨⟨by linarith, by linarith⟩, fun m hm hbeyond => ?_⟩
  have hnone := List.countP_eq_zero.mp (hfree m hm hbeyond) i (List.mem_range.mpr hi)
  rw [port_sub hg hn hm.1]
  exact not_lt.mp fun hlevel => hnone (decide_eq_true hlevel)

omit [DecidableEq α] in
/-- Of the ports on a side the first and the last are in the picture only if all are. -/
theorem portsIn_of_all (hg : Grid nodes width height) {highest : ℕ}
    (hheight : height = TOP + highest * RANK_GAP + RANK_GAP) {n : PlacedNode α} (hn : n ∈ nodes) {k : ℕ}
    (hall : ∀ i < k, 0 ≤ n.y + shiftOf i k ∧ n.y + shiftOf i k ≤ height) :
    PortsIn highest k n.rank := by
  have hrow := hg.row n hn
  have hlow := hg.low n hn
  have hgap : RANK_GAP = 34 := rfl
  have htop : TOP = 14 := rfl
  have hpitch : PORT_PITCH = 6 := rfl
  have hrank : (0 : ℚ) ≤ n.rank := Nat.cast_nonneg _
  cases k with
  | zero =>
    rw [PortsIn, hgap, htop, hpitch]
    rw [hrow, hheight, hgap] at hlow
    push_cast
    exact ⟨by linarith, by linarith⟩
  | succ k =>
    have hfirst := (hall 0 (Nat.succ_pos k)).1
    have hlast := (hall k (Nat.lt_succ_self k)).2
    rw [shiftOf] at hfirst hlast
    push_cast at hfirst hlast
    rw [PortsIn]
    push_cast
    exact ⟨by linarith, by linarith⟩

end Ports

/-! ## The whole picture -/

section Picture

variable [DecidableEq α] {nodeIds : List α} {edgeList : List (GraphEdge α)} {W : ℚ} {rank : OrderedMap α ℕ}

/-- The edges that go round the margins, with their ports. -/
def lanedEdges (rank : OrderedMap α ℕ) (nodeIds : List α) (edgeList : List (GraphEdge α)) (W : ℚ) : List (LaneEdge α) :=
  routed (nodesOf rank (orderOf nodeIds edgeList) W) (backEdges (orderOf nodeIds edgeList) edgeList)
    (widthOf rank (orderOf nodeIds edgeList) W) edgeList

/-- The picture that goes with a ranking. -/
def picture (rank : OrderedMap α ℕ) (nodeIds : List α) (edgeList : List (GraphEdge α)) (W : ℚ) : Layout α :=
  ⟨nodesOf rank (orderOf nodeIds edgeList) W,
    edgeList.zipIdx.map fun e => placeEdge (nodesOf rank (orderOf nodeIds edgeList) W)
      (backEdges (orderOf nodeIds edgeList) edgeList) (lanedEdges rank nodeIds edgeList W) e.1 e.2,
    widthOf rank (orderOf nodeIds edgeList) W, heightOf rank,
    viewBoxOf (nodesOf rank (orderOf nodeIds edgeList) W) (lanedEdges rank nodeIds edgeList W)
      (widthOf rank (orderOf nodeIds edgeList) W) (heightOf rank)⟩

theorem layout_eq_picture
    (hrank : ranks (orderOf nodeIds edgeList) (forwardEdges (orderOf nodeIds edgeList) edgeList) = .ok rank) :
    layout nodeIds edgeList W = .ok (picture rank nodeIds edgeList W) := by
  unfold layout
  dsimp only
  rw [forwardEdges] at hrank
  rw [hrank]
  rfl

theorem nodeAt_endpoints {e : GraphEdge α} (he : e ∈ edgeList) :
    (nodeAt (nodesOf rank (orderOf nodeIds edgeList) W) e.source ∈ nodesOf rank (orderOf nodeIds edgeList) W) ∧
      nodeAt (nodesOf rank (orderOf nodeIds edgeList) W) e.target ∈ nodesOf rank (orderOf nodeIds edgeList) W := by
  have hcovers := covers_orderOf nodeIds edgeList e he
  exact ⟨(nodeAt_spec (ids_nodesOf.mem_iff.mpr hcovers.1)).1, (nodeAt_spec (ids_nodesOf.mem_iff.mpr hcovers.2)).1⟩

/-- Straight lines are clear in every picture of less than a billion pixels. -/
theorem seen_of_small (hwidth : widthOf rank (orderOf nodeIds edgeList) W ≤ 1000000000)
    (hheight : heightOf rank ≤ 1000000000) :
    Seen (nodesOf rank (orderOf nodeIds edgeList) W) (backEdges (orderOf nodeIds edgeList) edgeList) edgeList := by
  intro e he hstraight n hn hmeets
  have hg := grid_nodesOf rank (orderOf nodeIds edgeList) W
  obtain ⟨hs, ht⟩ := @nodeAt_endpoints α _ nodeIds edgeList W rank e he
  set nodes := nodesOf rank (orderOf nodeIds edgeList) W
  set s := nodeAt nodes e.source
  set t := nodeAt nodes e.target
  have hclear : clear nodes (straightLine s t).1 (straightLine s t).2 [e.source, e.target] = true :=
    (of_decide_eq_true hstraight).2
  have hmiss := of_decide_eq_true (List.all_eq_true.mp hclear n hn.1)
  obtain ⟨hsx, hsy⟩ := boundary_near s (t.x - s.x) (t.y - s.y)
  obtain ⟨htx, hty⟩ := boundary_near t (s.x - t.x) (s.y - t.y)
  have hW : NODE_W = 64 := rfl
  have hH : NODE_H = 20 := rfl
  have hgap : MIN_GAP_X = 8 := rfl
  have hrows : RANK_GAP = 34 := rfl
  have htop : TOP = 14 := rfl
  have hlong : |(straightLine s t).2.1 - (straightLine s t).1.1| < 1000000000 := by
    obtain ⟨hleft, hright⟩ := hg.inside s hs
    obtain ⟨hleft', hright'⟩ := hg.inside t ht
    obtain ⟨hsx, hsx'⟩ := abs_le.mp hsx
    obtain ⟨htx, htx'⟩ := abs_le.mp htx
    refine abs_lt.mpr ⟨?_, ?_⟩
    · show _ < (boundary t (s.x - t.x) (s.y - t.y)).1 - (boundary s (t.x - s.x) (t.y - s.y)).1
      linarith
    · show (boundary t (s.x - t.x) (s.y - t.y)).1 - (boundary s (t.x - s.x) (t.y - s.y)).1 < _
      linarith
  have htall : |(straightLine s t).2.2 - (straightLine s t).1.2| < 1000000000 := by
    have hpos {n : PlacedNode α} (hn : n ∈ nodes) : TOP ≤ n.y := by
      rw [hg.row n hn]
      exact le_add_of_nonneg_right (mul_nonneg (Nat.cast_nonneg _) (by norm_num [RANK_GAP]))
    have hs0 := hpos hs
    have ht0 := hpos ht
    have hs1 := hg.low s hs
    have ht1 := hg.low t ht
    obtain ⟨hsy, hsy'⟩ := abs_le.mp hsy
    obtain ⟨hty, hty'⟩ := abs_le.mp hty
    refine abs_lt.mpr ⟨?_, ?_⟩
    · show _ < (boundary t (s.x - t.x) (s.y - t.y)).2 - (boundary s (t.x - s.x) (t.y - s.y)).2
      linarith
    · show (boundary t (s.x - t.x) (s.y - t.y)).2 - (boundary s (t.x - s.x) (t.y - s.y)).2 < _
      linarith
  rcases hmiss with hjoined | hmiss
  · simp only [List.mem_cons, List.not_mem_nil, or_false] at hjoined
    rcases hjoined with h | h
    · exact hn.2.1 h
    · exact hn.2.2 h
  · rw [hits_of_meets hmeets hlong htall] at hmiss
    exact absurd hmiss (by decide)

/-- What a clean picture asks of the straight lines and of the ports of the others. -/
theorem clean_picture_iff (rank : OrderedMap α ℕ) (nodeIds : List α) (edgeList : List (GraphEdge α)) (W : ℚ) :
    Clean (picture rank nodeIds edgeList W) ↔
      Seen (nodesOf rank (orderOf nodeIds edgeList) W) (backEdges (orderOf nodeIds edgeList) edgeList) edgeList ∧
      ∀ r ∈ lanedEdges rank nodeIds edgeList W,
        Harmless (nodesOf rank (orderOf nodeIds edgeList) W) (heightOf rank)
          (viewBoxOf (nodesOf rank (orderOf nodeIds edgeList) W) (lanedEdges rank nodeIds edgeList W)
            (widthOf rank (orderOf nodeIds edgeList) W) (heightOf rank)) r := by
  have hg := grid_nodesOf rank (orderOf nodeIds edgeList) W
  have hends {e : GraphEdge α} (he : e ∈ edgeList) := @nodeAt_endpoints α _ nodeIds edgeList W rank e he
  have hjoin {r : LaneEdge α} (hr : r ∈ lanedEdges rank nodeIds edgeList W) :
      r.s ∈ nodesOf rank (orderOf nodeIds edgeList) W ∧ r.t ∈ nodesOf rank (orderOf nodeIds edgeList) W := by
    obtain ⟨hmem, -, hs, ht⟩ := mem_routed hr
    rw [hs, ht]
    exact hends (List.fst_mem_of_mem_zipIdx hmem)
  constructor
  · intro hclean
    constructor
    · intro e he hstraight n hn
      obtain ⟨k, hk⟩ := List.mem_iff_getElem?.mp he
      have hedge := hclean.clear _ (List.mem_map_of_mem (List.mk_mem_zipIdx_iff_getElem?.mpr hk)) n hn.1
      rw [placeEdge_straight hstraight] at hedge
      exact List.isChain_pair.mp (hedge hn.2.1 hn.2.2)
    · intro r hr
      obtain ⟨hmem, hstraight, -, -⟩ := mem_routed hr
      obtain ⟨m, hm, hedge, hpos, hplace⟩ := placeEdge_spec hmem hstraight
      obtain rfl : m = r := List.inj_on_of_nodup_map nodup_pos hm hr hpos
      refine (lanePoints_clean_iff hg hr (hjoin hr).1 (hjoin hr).2).mp ⟨fun n hn => ?_, ?_⟩
      · have hclear := hclean.clear _ (List.mem_map_of_mem hmem) n hn.1
        rw [lanedEdges, hplace] at hclear
        exact hclear hn.2.1 hn.2.2
      · have hin := hclean.edgesIn _ (List.mem_map_of_mem hmem)
        rw [lanedEdges, hplace] at hin
        exact hin
  · rintro ⟨hseen, hharmless⟩
    have hedge : ∀ e ∈ (picture rank nodeIds edgeList W).edges,
        (∀ n, Other (nodesOf rank (orderOf nodeIds edgeList) W) e.edge n →
          e.points.IsChain fun p q => ¬ Meets p q (boxOf n)) ∧
        ∀ p ∈ e.points, (picture rank nodeIds edgeList W).viewBox.Holds p := by
      intro e he
      obtain ⟨⟨e, k⟩, hek, rfl⟩ := List.mem_map.mp he
      have hemem := List.fst_mem_of_mem_zipIdx hek
      dsimp only
      cases hstraight : isStraight (nodesOf rank (orderOf nodeIds edgeList) W)
          (backEdges (orderOf nodeIds edgeList) edgeList) e with
      | true =>
        rw [placeEdge_straight hstraight]
        refine ⟨fun n hn => List.isChain_pair.mpr (hseen e hemem hstraight n hn), ?_⟩
        rw [List.forall_mem_cons, List.forall_mem_singleton]
        obtain ⟨hx, hy⟩ := boundary_near (nodeAt (nodesOf rank (orderOf nodeIds edgeList) W) e.source) _ _
        obtain ⟨hx', hy'⟩ := boundary_near (nodeAt (nodesOf rank (orderOf nodeIds edgeList) W) e.target) _ _
        exact ⟨holds_near hg (hends hemem).1 hx hy, holds_near hg (hends hemem).2 hx' hy'⟩
      | false =>
        obtain ⟨l, hl, rfl, -, hplace⟩ := placeEdge_spec hek hstraight
        rw [lanedEdges, hplace]
        exact (lanePoints_clean_iff hg hl (hjoin hl).1 (hjoin hl).2).mpr (hharmless l hl)
    refine ⟨fun e he n hn hs ht => (hedge e he).1 n ⟨hn, hs, ht⟩, fun n hn => ?_, fun e he => (hedge e he).2⟩
    have hW : NODE_W = 64 := rfl
    have hH : NODE_H = 20 := rfl
    constructor
    · refine holds_near hg hn ?_ ?_
      · show |n.x - NODE_W / 2 - n.x| ≤ NODE_W / 2
        rw [sub_sub_cancel_left, hW]
        norm_num
      · show |n.y - NODE_H / 2 - n.y| ≤ NODE_H / 2
        rw [sub_sub_cancel_left, hH]
        norm_num
    · refine holds_near hg hn ?_ ?_
      · show |n.x + NODE_W / 2 - n.x| ≤ NODE_W / 2
        rw [add_sub_cancel_left, hW]
        norm_num
      · show |n.y + NODE_H / 2 - n.y| ≤ NODE_H / 2
        rw [add_sub_cancel_left, hH]
        norm_num

/-- The edges that go round the margins: where each leaves and where it comes to. -/
def endsOf (rank : OrderedMap α ℕ) (nodeIds : List α) (edgeList : List (GraphEdge α)) (W : ℚ) : List (LaneEdge α) :=
  lanedOf (nodesOf rank (orderOf nodeIds edgeList) W) (backEdges (orderOf nodeIds edgeList) edgeList)
    (widthOf rank (orderOf nodeIds edgeList) W) edgeList

/-- The ports on the sides are in the picture, if `count` says how many there are. -/
def SidesIn (nodes : List (PlacedNode α)) (highest : ℕ) (count : α × Option Side → ℕ) : Prop :=
  ∀ n ∈ nodes, ∀ side, PortsIn highest (count (n.id, some side)) n.rank

/-- The ports at the tops or at the bottoms are in the picture. -/
def UprightIn (nodes : List (PlacedNode α)) (width : ℚ) (count : α × Option Side → ℕ) : Prop :=
  ∀ n ∈ nodes, ((count (n.id, none) : ℚ) - 1) * (PORT_PITCH / 2) + 1 ≤ n.x ∧
    n.x + (((count (n.id, none) : ℚ) - 1) * (PORT_PITCH / 2) + 1) ≤ width

/-- No more ports on a side are level with a node farther out in another row than `joined` allows. -/
def SidesClear (nodes : List (PlacedNode α)) (count : α × Option Side → ℕ) (joined : α → α → ℕ) : Prop :=
  ∀ n ∈ nodes, ∀ side, ∀ m ∈ nodes, Beyond side n m → m.rank ≠ n.rank →
    portsLevel (count (n.id, some side)) n.rank m.rank ≤ joined n.id m.id

/-- Nothing comes to the first row from above, and there is room for all ports on the sides. -/
structure Fits (nodes : List (PlacedNode α)) (ends : List (LaneEdge α)) (highest : ℕ)
    (exitsTo entriesFrom : α → α → ℕ) : Prop where
  above : ∀ n ∈ nodes, n.rank = 0 → entriesAt ends (n.id, none) = 0
  exitsIn : SidesIn nodes highest (exitsAt ends)
  entriesIn : SidesIn nodes highest (entriesAt ends)
  exitsClear : SidesClear nodes (exitsAt ends) exitsTo
  entriesClear : SidesClear nodes (entriesAt ends) entriesFrom

omit [DecidableEq α] in
theorem spans_of_upright {nodes : List (PlacedNode α)} {laned : List (LaneEdge α)} {width height : ℚ}
    {count : α × Option Side → ℕ} (hin : UprightIn nodes width count) {n : PlacedNode α} (hn : n ∈ nodes) {i : ℕ}
    (hi : i < count (n.id, none)) :
    (viewBoxOf nodes laned width height).Spans (n.x + shiftOf i (count (n.id, none))) := by
  obtain ⟨hlow, hhigh⟩ := abs_le.mp (abs_shiftOf hi)
  obtain ⟨hleft, hright⟩ := hin n hn
  exact spans_of_within (by linarith) (by linarith)

theorem rank_nodesOf {n : PlacedNode α} {order : List α} (hn : n ∈ nodesOf rank order W) :
    n.rank = rankAt rank n.id := by
  obtain ⟨g, hg, hn⟩ := List.mem_flatMap.mp ((List.mem_insertionSort _).mp hn)
  obtain ⟨m, hm, rfl⟩ := List.mem_map.mp hn
  have hmember := List.fst_mem_of_mem_zipIdx hm
  rw [(OrderedMap.eq_of_mem_groupBy hg).1] at hmember
  exact (of_decide_eq_true (List.mem_filter.mp hmember).2).symm

theorem nodeAt_self {n : PlacedNode α} (hn : n ∈ nodesOf rank (orderOf nodeIds edgeList) W) :
    nodeAt (nodesOf rank (orderOf nodeIds edgeList) W) n.id = n := by
  obtain ⟨hmem, hid⟩ := nodeAt_spec (List.mem_map_of_mem (f := PlacedNode.id) hn)
  exact List.inj_on_of_nodup_map (ids_nodesOf.nodup_iff.mpr (nodup_orderOf nodeIds edgeList)) hmem hn hid

/-- What an edge round a margin joins. -/
theorem ends_spec {r : LaneEdge α} (hr : r ∈ lanedEdges rank nodeIds edgeList W) :
    (r.s ∈ nodesOf rank (orderOf nodeIds edgeList) W ∧ r.s.id = r.edge.source) ∧
      r.t ∈ nodesOf rank (orderOf nodeIds edgeList) W ∧ r.t.id = r.edge.target := by
  obtain ⟨hmem, -, hs, ht⟩ := mem_routed hr
  have hcovers := covers_orderOf nodeIds edgeList r.edge (List.fst_mem_of_mem_zipIdx hmem)
  rw [hs, ht]
  exact ⟨nodeAt_spec (ids_nodesOf.mem_iff.mpr hcovers.1), nodeAt_spec (ids_nodesOf.mem_iff.mpr hcovers.2)⟩

/-- A picture that is not too large is clean if there is room for all ports. -/
theorem clean_of_fits (hwidth : widthOf rank (orderOf nodeIds edgeList) W ≤ 1000000000)
    (hheight : heightOf rank ≤ 1000000000)
    (hexits : UprightIn (nodesOf rank (orderOf nodeIds edgeList) W) (widthOf rank (orderOf nodeIds edgeList) W)
      (exitsAt (endsOf rank nodeIds edgeList W)))
    (hentries : UprightIn (nodesOf rank (orderOf nodeIds edgeList) W) (widthOf rank (orderOf nodeIds edgeList) W)
      (entriesAt (endsOf rank nodeIds edgeList W)))
    (hfits : Fits (nodesOf rank (orderOf nodeIds edgeList) W) (endsOf rank nodeIds edgeList W) (maxRank rank)
      (fun _ _ => 0) fun _ _ => 0) : Clean (picture rank nodeIds edgeList W) := by
  have hg := grid_nodesOf rank (orderOf nodeIds edgeList) W
  refine (clean_picture_iff rank nodeIds edgeList W).mpr ⟨seen_of_small hwidth hheight, fun r hr => ?_⟩
  obtain ⟨m, hm, hends, ⟨i, hi, hexit⟩, j, hj, hentry⟩ := exists_laned hr
  obtain ⟨⟨hsource, hsid⟩, htarget, htid⟩ := ends_spec hr
  -- a node in the row of another one is level with it
  have hother {n m : PlacedNode α} (hn : n ∈ nodesOf rank (orderOf nodeIds edgeList) W)
      (hm : m ∈ nodesOf rank (orderOf nodeIds edgeList) W) (hrow : m.y ≠ n.y) : m.rank ≠ n.rank := by
    intro hrank
    rw [hg.row m hm, hg.row n hn, hrank] at hrow
    exact hrow rfl
  refine ⟨fun hrow => ?_, fun hbelow => ?_, fun hrow => ?_, fun habove => ?_⟩
  · have hat : m.exitAt = (r.s.id, some r.side) :=
      exitAt_side.mpr ⟨by rw [← hends.edge, hsid], hends.exit ▸ hrow, hends.side.symm⟩
    have hclear := clear_of_exit hm (hends.exit ▸ hrow)
    rw [← hends.s, ← hends.side, ← hends.edge] at hclear
    rw [hat] at hi hexit
    rw [hexit]
    refine sidePort_of_free hg rfl hsource hi (hfits.exitsIn r.s hsource r.side) fun n hn hbeyond => ?_
    have hrows := row_free hg hwidth hsource hn.1 (by simpa using hn.2.1) (Or.inl hclear) hbeyond
    exact Nat.le_zero.mp (hfits.exitsClear r.s hsource r.side n hn.1 hbeyond (hother hsource hn.1 hrows))
  · have hat : m.exitAt = (r.s.id, none) := exitAt_bottom.mpr ⟨by rw [← hends.edge, hsid], hends.exit ▸ hbelow⟩
    rw [hat] at hi hexit
    rw [hexit]
    exact spans_of_upright hexits hsource hi
  · have hat : m.entryAt = (r.t.id, some r.side) :=
      entryAt_side.mpr ⟨by rw [← hends.edge, htid], hends.entry ▸ hrow, hends.side.symm⟩
    have hclear := clear_of_entry hm (hends.entry ▸ hrow)
    rw [← hends.t, ← hends.side, ← hends.edge] at hclear
    rw [hat] at hj hentry
    rw [hentry]
    refine sidePort_of_free hg rfl htarget hj (hfits.entriesIn r.t htarget r.side) fun n hn hbeyond => ?_
    have hrows := row_free hg hwidth htarget hn.1 (by simpa using hn.2.2) (Or.inr hclear) hbeyond
    exact Nat.le_zero.mp (hfits.entriesClear r.t htarget r.side n hn.1 hbeyond (hother htarget hn.1 hrows))
  · have hat : m.entryAt = (r.t.id, none) := entryAt_top.mpr ⟨by rw [← hends.edge, htid], hends.entry ▸ habove⟩
    rw [hat] at hj hentry
    refine ⟨fun hzero => ?_, ?_⟩
    · rw [show entriesAt (lanedOf _ _ _ edgeList) (r.t.id, none) = 0 from hfits.above r.t htarget hzero] at hj
      exact absurd hj (Nat.not_lt_zero j)
    · rw [hentry]
      exact spans_of_upright hentries htarget hj

section Needed

variable (hharmless : ∀ l ∈ lanedEdges rank nodeIds edgeList W, Harmless (nodesOf rank (orderOf nodeIds edgeList) W)
    (heightOf rank) (viewBoxOf (nodesOf rank (orderOf nodeIds edgeList) W) (lanedEdges rank nodeIds edgeList W)
      (widthOf rank (orderOf nodeIds edgeList) W) (heightOf rank)) l)
  {n : PlacedNode α} (hn : n ∈ nodesOf rank (orderOf nodeIds edgeList) W) {side : Side}

include hharmless hn

/-- Every port on a side of a node is harmless for the edge that has it. -/
theorem exit_harmless {e : LaneEdge α} (hat : e.exitAt = (n.id, some side)) {i : ℕ}
    (hi : i < (exitGroup (endsOf rank nodeIds edgeList W) e).length) :
    ∃ l, l.edge = (exitGroup (endsOf rank nodeIds edgeList W) e)[i].edge ∧ l.side = side ∧ l.edge.source = n.id ∧
      SidePort (nodesOf rank (orderOf nodeIds edgeList) W) (heightOf rank) l n
        (n.y + shiftOf i (exitGroup (endsOf rank nodeIds edgeList W) e).length) := by
  obtain ⟨l, hl, hedge, hsame, hshift⟩ := exists_exit hi
  obtain ⟨hsource, hrow, hside⟩ := exitAt_side.mp (hsame.trans hat)
  have hs : l.s = n := by rw [(mem_routed hl).2.2.1, hsource, nodeAt_self hn]
  have hport := (hharmless l hl).exitRow hrow
  rw [hs, hshift] at hport
  exact ⟨l, hedge, hside, hsource, hport⟩

theorem entry_harmless {e : LaneEdge α} (hat : e.entryAt = (n.id, some side)) {i : ℕ}
    (hi : i < (entryGroup (lanes (exitPorts (endsOf rank nodeIds edgeList W))) e).length) :
    ∃ l, l.edge = (entryGroup (lanes (exitPorts (endsOf rank nodeIds edgeList W))) e)[i].edge ∧ l.side = side ∧
      l.edge.target = n.id ∧ SidePort (nodesOf rank (orderOf nodeIds edgeList) W) (heightOf rank) l n
        (n.y + shiftOf i (entryGroup (lanes (exitPorts (endsOf rank nodeIds edgeList W))) e).length) := by
  obtain ⟨l, hl, hedge, hsame, hshift⟩ := exists_entry hi
  obtain ⟨htarget, hrow, hside⟩ := entryAt_side.mp (hsame.trans hat)
  have ht : l.t = n := by rw [(mem_routed hl).2.2.2, htarget, nodeAt_self hn]
  have hport := (hharmless l hl).entryRow hrow
  rw [ht, hshift] at hport
  exact ⟨l, hedge, hside, htarget, hport⟩

variable {m : PlacedNode α} (hm : m ∈ nodesOf rank (orderOf nodeIds edgeList) W) (hbeyond : Beyond side n m)
  (hrows : m.rank ≠ n.rank)

include hm hbeyond hrows

/-- The ports that are level with a node farther out are those of edges to it. -/
theorem exits_level_le : portsLevel (exitsAt (endsOf rank nodeIds edgeList W) (n.id, some side)) n.rank m.rank ≤
    joining edgeList n.id m.id := by
  have hid : m.id ≠ n.id := fun hid => hrows (by rw [rank_nodesOf hm, rank_nodesOf hn, hid])
  rcases Nat.eq_zero_or_pos (exitsAt (endsOf rank nodeIds edgeList W) (n.id, some side)) with hzero | hpos
  · rw [hzero]
    exact Nat.zero_le _
  · obtain ⟨e, hat, hlength⟩ := exists_exitAt hpos
    rw [← hlength, ← (exitAt_side.mp hat).1]
    refine (countP_range_le (q := fun l => l.edge.target = m.id) fun i hi hlevel => ?_).trans (countP_exitGroup_le m.id)
    obtain ⟨l, hedge, hside, hsource, hport⟩ := exit_harmless hharmless hn hat hi
    rw [← hedge, decide_eq_true_eq]
    by_contra htarget
    have hoff := hport.2 m ⟨hm, hsource ▸ hid, Ne.symm htarget⟩ (hside ▸ hbeyond)
    rw [port_sub (grid_nodesOf rank (orderOf nodeIds edgeList) W) hn hm] at hoff
    exact absurd (of_decide_eq_true hlevel) (not_lt.mpr hoff)

theorem entries_level_le : portsLevel (entriesAt (endsOf rank nodeIds edgeList W) (n.id, some side)) n.rank m.rank ≤
    joining edgeList m.id n.id := by
  have hid : m.id ≠ n.id := fun hid => hrows (by rw [rank_nodesOf hm, rank_nodesOf hn, hid])
  rw [← entriesAt_lanes]
  rcases Nat.eq_zero_or_pos (entriesAt (lanes (exitPorts (endsOf rank nodeIds edgeList W))) (n.id, some side)) with
    hzero | hpos
  · rw [hzero]
    exact Nat.zero_le _
  · obtain ⟨e, hat, hlength⟩ := exists_entryAt hpos
    rw [← hlength, ← (entryAt_side.mp hat).1]
    refine (countP_range_le (q := fun l => l.edge.source = m.id) fun i hi hlevel => ?_).trans
      (countP_entryGroup_le m.id)
    obtain ⟨l, hedge, hside, htarget, hport⟩ := entry_harmless hharmless hn hat hi
    rw [← hedge, decide_eq_true_eq]
    by_contra hsource
    have hoff := hport.2 m ⟨hm, Ne.symm hsource, htarget ▸ hid⟩ (hside ▸ hbeyond)
    rw [port_sub (grid_nodesOf rank (orderOf nodeIds edgeList) W) hn hm] at hoff
    exact absurd (of_decide_eq_true hlevel) (not_lt.mpr hoff)

end Needed

/-- What every clean picture needs. -/
theorem fits_of_clean (hclean : Clean (picture rank nodeIds edgeList W)) :
    Fits (nodesOf rank (orderOf nodeIds edgeList) W) (endsOf rank nodeIds edgeList W) (maxRank rank)
      (joining edgeList) fun n m => joining edgeList m n := by
  have hg := grid_nodesOf rank (orderOf nodeIds edgeList) W
  have hharmless := ((clean_picture_iff rank nodeIds edgeList W).mp hclean).2
  refine ⟨fun n hn hzero => ?_, fun n hn side => portsIn_of_all hg rfl hn fun i hi => ?_,
    fun n hn side => portsIn_of_all hg rfl hn fun i hi => ?_,
    fun n hn side m hm hbeyond hrows => exits_level_le hharmless hn hm hbeyond hrows,
    fun n hn side m hm hbeyond hrows => entries_level_le hharmless hn hm hbeyond hrows⟩
  · by_contra hnone
    rw [← entriesAt_lanes] at hnone
    obtain ⟨e, hat, hlength⟩ := exists_entryAt (Nat.pos_of_ne_zero hnone)
    obtain ⟨l, hl, -, hsame, -⟩ := exists_entry (hlength ▸ Nat.pos_of_ne_zero hnone)
    obtain ⟨htarget, habove⟩ := entryAt_top.mp (hsame.trans hat)
    have ht : l.t = n := by rw [(mem_routed hl).2.2.2, htarget, nodeAt_self hn]
    exact ((hharmless l hl).entryAbove habove).1 (ht ▸ hzero)
  · obtain ⟨e, hat, hlength⟩ := exists_exitAt (Nat.zero_lt_of_lt hi)
    rw [← hlength] at hi ⊢
    obtain ⟨l, -, -, -, hport⟩ := exit_harmless hharmless hn hat hi
    exact hport.1
  · rw [← entriesAt_lanes] at hi ⊢
    obtain ⟨e, hat, hlength⟩ := exists_entryAt (Nat.zero_lt_of_lt hi)
    rw [← hlength] at hi ⊢
    obtain ⟨l, -, -, -, hport⟩ := entry_harmless hharmless hn hat hi
    exact hport.1

/-- **When the picture is clean.**  In a picture of less than a billion pixels, whose tops and bottoms have room for
their ports, it is enough that nothing comes to the first row from above, that the ports on every side are in the
picture, and that none is level with a node farther out.  All this every clean picture needs, but that as many ports of
a side can be level with a node as there are edges to it. -/
theorem layout_clean (nodeIds : List α) (edgeList : List (GraphEdge α)) (W : ℚ) : ∃ rank l,
    ranks (orderOf nodeIds edgeList) (forwardEdges (orderOf nodeIds edgeList) edgeList) = .ok rank ∧
    layout nodeIds edgeList W = .ok l ∧
    (widthOf rank (orderOf nodeIds edgeList) W ≤ 1000000000 → heightOf rank ≤ 1000000000 →
      UprightIn (nodesOf rank (orderOf nodeIds edgeList) W) (widthOf rank (orderOf nodeIds edgeList) W)
        (exitsAt (endsOf rank nodeIds edgeList W)) →
      UprightIn (nodesOf rank (orderOf nodeIds edgeList) W) (widthOf rank (orderOf nodeIds edgeList) W)
        (entriesAt (endsOf rank nodeIds edgeList W)) →
      Fits (nodesOf rank (orderOf nodeIds edgeList) W) (endsOf rank nodeIds edgeList W) (maxRank rank)
        (fun _ _ => 0) (fun _ _ => 0) → Clean l) ∧
    (Clean l → Fits (nodesOf rank (orderOf nodeIds edgeList) W) (endsOf rank nodeIds edgeList W) (maxRank rank)
      (joining edgeList) fun n m => joining edgeList m n) := by
  obtain ⟨rank, hrank, -⟩ := ranks_spec (covers_orderOf nodeIds edgeList)
  exact ⟨rank, picture rank nodeIds edgeList W, hrank, layout_eq_picture hrank, clean_of_fits, fits_of_clean⟩

end Picture

theorem layout_loop :
    (layout [0, 1] [⟨0, 0, false⟩] 300).toOption.map (fun l => (l.edges.map PlacedEdge.points, l.viewBox.y)) =
      some ([[(75, 24), (75, 31), (263, 31), (263, -3), (75, -3), (75, 4)]], 0) := by
  decide +kernel

/-- A node with another beside it and an edge to itself, which comes back from above the picture. -/
theorem loop_not_clean : ∃ l, layout [0, 1] [⟨0, 0, false⟩] 300 = .ok l ∧ ¬ Clean l := by
  have hloop := layout_loop
  rcases hl : layout [0, 1] [⟨0, 0, false⟩] 300 with stuck | l
  · rw [hl] at hloop
    exact absurd hloop (by simp [Except.toOption])
  · rw [hl] at hloop
    obtain ⟨hpoints, hy⟩ := Prod.mk.inj (Option.some.inj hloop)
    refine ⟨l, rfl, fun hclean => ?_⟩
    obtain ⟨e, he, hpoint⟩ := List.mem_map.mp (hpoints ▸ List.mem_singleton.mpr rfl)
    have hin : l.viewBox.y ≤ -3 := (hclean.edgesIn e he (75, -3) (by rw [hpoint]; simp)).2.2.1
    rw [hy] at hin
    exact absurd hin (by norm_num)

end DTwin.Copilot.Diagram
