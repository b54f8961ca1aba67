import DTwin.Lib.Digraph
import Mathlib.Algebra.Order.Field.Rat
import Mathlib.Data.List.Sort
import Mathlib.Data.Rat.Floor
import Mathlib.Tactic.FieldSimp
import Mathlib.Tactic.Linarith

/-!
# DTwin.Copilot.Layout — where the panel draws the nodes and edges of a graph

`apps/web/lib/copilot/layout.ts`, with exact numbers.  An edge is told from another by its place in the list.  What is
drawn along a polyline is left out: its path text, its middle and its label.

The edges that go back are cut, the others rank the nodes, and a rank is wide enough for its nodes (`layout_sound`).
-/

namespace DTwin.Copilot.Diagram

open DTwin.Digraph Relation

variable {α : Type} [DecidableEq α]

def NODE_W : ℚ := 64

def NODE_H : ℚ := 20

def TOP : ℚ := 14

def RANK_GAP : ℚ := 34

def MIN_GAP_X : ℚ := 8

def LANE_OFFSET : ℚ := 6

def LANE_PITCH : ℚ := 6

def MARGIN : ℚ := 4

def PORT_PITCH : ℚ := 6

structure GraphEdge (α : Type) where
  source : α
  target : α
  conditional : Bool
deriving DecidableEq

structure PlacedNode (α : Type) where
  id : α
  rank : ℕ
  x : ℚ
  y : ℚ

inductive EdgeRoute | straight | back | lane
deriving DecidableEq

abbrev Point := ℚ × ℚ

structure PlacedEdge (α : Type) where
  edge : GraphEdge α
  route : EdgeRoute
  points : List Point

structure Box where
  left : ℚ
  right : ℚ
  top : ℚ
  bottom : ℚ

def boxOf (n : PlacedNode α) : Box := ⟨n.x - NODE_W / 2, n.x + NODE_W / 2, n.y - NODE_H / 2, n.y + NODE_H / 2⟩

/-! ## Ranking -/

def next (edges : List (GraphEdge α)) (n : α) : List α := (edges.filter fun e => e.source = n).map GraphEdge.target

/-- `reachFrom`; none would be a loop that does not end. -/
def reachFrom (order : List α) (edges : List (GraphEdge α)) (start : α) : Option (List α) :=
  search (next edges) (work (next edges) order [] (next edges start).reverse) [] (next edges start).reverse

/-- `index.get(n)`. -/
def indexOf (order : List α) (n : α) : Option ℕ := ((OrderedMap.ofList Prod.fst order.zipIdx).get? n).map Prod.snd

/-- `index.get(a)! <= index.get(b)!`; what is undefined compares with nothing. -/
def atOrBefore (order : List α) (a b : α) : Bool :=
  match indexOf order a, indexOf order b with
  | some i, some j => i ≤ j
  | _, _ => false

def backEdges (order : List α) (edges : List (GraphEdge α)) : List (GraphEdge α) :=
  edges.filter fun e => atOrBefore order e.target e.source ∧ e.source ∈ (reachFrom order edges e.target).getD []

def preds (forward : List (GraphEdge α)) (n : α) : List α := (forward.filter fun e => e.target = n).map GraphEdge.source

def ranks (order : List α) (forward : List (GraphEdge α)) : Except (Stuck α) (OrderedMap α ℕ) :=
  rankAll (preds forward) order

/-! ## Geometry -/

/-- What one side of a box leaves of the times in which a segment is inside. -/
def clip (den num : ℚ) (t : ℚ × ℚ) : Option (ℚ × ℚ) :=
  if den = 0 then if 0 ≤ num then some t else none
  else if den < 0 then if t.2 < num / den then none else some (max t.1 (num / den), t.2)
  else if num / den < t.1 then none
  else some (t.1, min t.2 (num / den))

def segmentHitsBox (p q : Point) (box : Box) (pad : ℚ) : Bool :=
  match (((clip (-(q.1 - p.1)) (p.1 - (box.left - pad)) (0, 1)).bind
      (clip (q.1 - p.1) (box.right + pad - p.1))).bind
      (clip (-(q.2 - p.2)) (p.2 - (box.top - pad)))).bind
      (clip (q.2 - p.2) (box.bottom + pad - p.2)) with
  | some t => 1 / 1000000000 < t.2 - t.1
  | none => false

/-- A quotient by 0 is infinite. -/
def quotient (half d : ℚ) : Option ℚ := if d = 0 then none else some (half / |d|)

/-- Nothing is drawn from a node to its own place. -/
def boundary (n : PlacedNode α) (dx dy : ℚ) : Point :=
  let s := match quotient (NODE_W / 2) dx, quotient (NODE_H / 2) dy with
    | some sx, some sy => min sx sy
    | some sx, none => sx
    | none, some sy => sy
    | none, none => 0
  (n.x + dx * s, n.y + dy * s)

def round (v : ℚ) : ℚ := ((⌊v * 100 + 1 / 2⌋ : ℤ) : ℚ) / 100

/-! ## The nodes -/

/-- Every endpoint is a node. -/
def orderOf (nodeIds : List α) (edgeList : List (GraphEdge α)) : List α :=
  (OrderedMap.ofList id (nodeIds ++ edgeList.flatMap fun e => [e.source, e.target])).keys

/-- `rank.get(n)!`. -/
def rankAt (rank : OrderedMap α ℕ) (n : α) : ℕ := (rank.get? n).getD 0

def byRank (rank : OrderedMap α ℕ) (order : List α) : OrderedMap ℕ (List α) := OrderedMap.groupBy (rankAt rank) order

def maxRank (rank : OrderedMap α ℕ) : ℕ := rank.values.foldr max 0

def widest (rank : OrderedMap α ℕ) (order : List α) : ℕ := ((byRank rank order).values.map List.length).foldr max 1

def widthOf (rank : OrderedMap α ℕ) (order : List α) (W : ℚ) : ℚ := max W (widest rank order * (NODE_W + MIN_GAP_X))

def heightOf (rank : OrderedMap α ℕ) : ℚ := TOP + maxRank rank * RANK_GAP + RANK_GAP

/-- The nodes of a rank, spread evenly. -/
def spread (width : ℚ) (r : ℕ) (members : List α) : List (PlacedNode α) :=
  members.zipIdx.map fun m => ⟨m.1, r, width * (m.2 + 1 / 2) / members.length, TOP + r * RANK_GAP⟩

def nodesOf (rank : OrderedMap α ℕ) (order : List α) (W : ℚ) : List (PlacedNode α) :=
  ((byRank rank order).entries.flatMap fun g => spread (widthOf rank order W) g.1 g.2).insertionSort
    fun a b => order.idxOf a.id ≤ order.idxOf b.id

/-- `at.get(id)!`. -/
def nodeAt (nodes : List (PlacedNode α)) (id : α) : PlacedNode α := (nodes.find? fun n => n.id = id).getD ⟨id, 0, 0, 0⟩

/-! ## The edges -/

inductive Side | left | right
deriving DecidableEq

inductive Exit | row | below
deriving DecidableEq

inductive Entry | row | above
deriving DecidableEq

structure LaneEdge (α : Type) where
  /-- Its place in the list of edges. -/
  pos : ℕ
  edge : GraphEdge α
  route : EdgeRoute
  side : Side
  s : PlacedNode α
  t : PlacedNode α
  up : Bool
  exit : Exit
  entry : Entry
  exitShift : ℚ
  entryShift : ℚ
  lane : ℕ

def shiftOf (j k : ℕ) : ℚ := (j - (k - 1) / 2) * PORT_PITCH

def clear (nodes : List (PlacedNode α)) (p q : Point) (except : List α) : Bool :=
  nodes.all fun n => n.id ∈ except ∨ segmentHitsBox p q (boxOf n) 1 = false

def leftmost (nodes : List (PlacedNode α)) : ℚ := ((nodes.map fun n => n.x - NODE_W / 2).min?).getD 0

def rightmost (nodes : List (PlacedNode α)) : ℚ := ((nodes.map fun n => n.x + NODE_W / 2).max?).getD 0

def laneX (nodes : List (PlacedNode α)) (side : Side) (lane : ℕ) : ℚ :=
  match side with
  | .right => rightmost nodes + LANE_OFFSET + lane * LANE_PITCH
  | .left => leftmost nodes - LANE_OFFSET - lane * LANE_PITCH

def sideX (n : PlacedNode α) : Side → ℚ
  | .right => n.x + NODE_W / 2
  | .left => n.x - NODE_W / 2

/-- The straight line between two nodes. -/
def straightLine (s t : PlacedNode α) : Point × Point :=
  (boundary s (t.x - s.x) (t.y - s.y), boundary t (s.x - t.x) (s.y - t.y))

def isStraight (nodes : List (PlacedNode α)) (back : List (GraphEdge α)) (e : GraphEdge α) : Bool :=
  let line := straightLine (nodeAt nodes e.source) (nodeAt nodes e.target)
  e ∉ back ∧ clear nodes line.1 line.2 [e.source, e.target]

/-- Round a margin: a back edge on the right, another on the side of its source. -/
def classify (nodes : List (PlacedNode α)) (back : List (GraphEdge α)) (width : ℚ) (e : GraphEdge α) (pos : ℕ) :
    LaneEdge α :=
  let s := nodeAt nodes e.source
  let t := nodeAt nodes e.target
  let side := if e ∈ back ∨ width / 2 < s.x then .right else .left
  let lane0 := laneX nodes side 0
  { pos, edge := e, route := if e ∈ back then .back else .lane, side, s, t, up := t.y < s.y
    exit := if clear nodes (sideX s side, s.y) (lane0, s.y) [e.source] then .row else .below
    entry := if clear nodes (lane0, t.y) (sideX t side, t.y) [e.target] then .row else .above
    exitShift := 0, entryShift := 0, lane := 0 }

def lanedOf (nodes : List (PlacedNode α)) (back : List (GraphEdge α)) (width : ℚ) (edgeList : List (GraphEdge α)) :
    List (LaneEdge α) :=
  (edgeList.zipIdx.filter fun e => !isStraight nodes back e.1).map fun e => classify nodes back width e.1 e.2

namespace LaneEdge

def span (l : LaneEdge α) : ℚ := |l.t.y - l.s.y|

/-- Where an edge leaves its source: on a side, or at the bottom. -/
def exitAt (l : LaneEdge α) : α × Option Side := (l.edge.source, if l.exit = .row then some l.side else none)

/-- Where an edge comes to its target: on a side, or at the top. -/
def entryAt (l : LaneEdge α) : α × Option Side := (l.edge.target, if l.entry = .row then some l.side else none)

def exitY (l : LaneEdge α) : ℚ := if l.exit = .row then l.s.y + l.exitShift else l.s.y + RANK_GAP / 2

def entryCentre (l : LaneEdge α) : ℚ := if l.entry = .row then l.t.y else l.t.y - RANK_GAP / 2

end LaneEdge

/-- The edges that leave one side of one node, in the order of their ports. -/
def exitGroup (laned : List (LaneEdge α)) (l : LaneEdge α) : List (LaneEdge α) :=
  let group := laned.filter fun m => m.exitAt = l.exitAt
  (group.filter fun m => m.up).insertionSort (fun a b => a.span ≤ b.span) ++
    (group.filter fun m => !m.up).insertionSort fun a b => b.span ≤ a.span

/-- The edges that come to one side of one node, in the order of their ports. -/
def entryGroup (laned : List (LaneEdge α)) (l : LaneEdge α) : List (LaneEdge α) :=
  let group := laned.filter fun m => m.entryAt = l.entryAt
  (group.filter fun m => !m.up).insertionSort (fun a b => a.lane ≤ b.lane) ++
    (group.filter fun m => m.up).insertionSort fun a b => b.lane ≤ a.lane

def portShift (group : List (LaneEdge α)) (l : LaneEdge α) : ℚ :=
  shiftOf (group.findIdx fun m => m.pos = l.pos) group.length

def exitPorts (laned : List (LaneEdge α)) : List (LaneEdge α) :=
  laned.map fun l => { l with exitShift := portShift (exitGroup laned l) l }

def entryPorts (laned : List (LaneEdge α)) : List (LaneEdge α) :=
  laned.map fun l => { l with entryShift := portShift (entryGroup laned l) l }

/-- The most that an arrival may still move. -/
def entrySlack (laned : List (LaneEdge α)) (l : LaneEdge α) : ℚ :=
  if l.entry = .row then ((entryGroup laned l).length - 1) / 2 * PORT_PITCH else 0

/-- The part of its lane that an edge takes. -/
def extent (laned : List (LaneEdge α)) (l : LaneEdge α) : ℚ × ℚ :=
  (min l.exitY (l.entryCentre - entrySlack laned l), max l.exitY (l.entryCentre + entrySlack laned l))

/-- Into the first lane where nothing is met, or a new one. -/
def takeLane (taken : List (List (ℚ × ℚ))) (e : ℚ × ℚ) : List (List (ℚ × ℚ)) × ℕ :=
  match taken.findIdx? fun lane => lane.all fun o => e.2 < o.1 ∨ o.2 < e.1 with
  | some k => (taken.modify k (· ++ [e]), k)
  | none => (taken ++ [[e]], taken.length)

/-- The lanes of the edges, by their places. -/
def assignLanes (extents : List (ℕ × (ℚ × ℚ))) : List (ℕ × ℕ) :=
  (extents.foldl (fun (acc : List (List (ℚ × ℚ)) × List (ℕ × ℕ)) e =>
    ((takeLane acc.1 e.2).1, acc.2 ++ [(e.1, (takeLane acc.1 e.2).2)])) ([], [])).2

def lanesOn (laned : List (LaneEdge α)) (side : Side) : List (ℕ × ℕ) :=
  assignLanes (((laned.filter fun l => l.side = side).map fun l => (l.pos, extent laned l)).insertionSort
    fun x y => x.2.2 - x.2.1 ≤ y.2.2 - y.2.1)

def lanes (laned : List (LaneEdge α)) : List (LaneEdge α) :=
  laned.map fun l => { l with lane := ((lanesOn laned l.side).lookup l.pos).getD 0 }

/-- The polyline round a margin. -/
def lanePoints (nodes : List (PlacedNode α)) (l : LaneEdge α) : List Point :=
  let x := laneX nodes l.side l.lane
  let out : List Point := match l.exit with
    | .row => [(sideX l.s l.side, l.s.y + l.exitShift)]
    | .below => [(l.s.x + l.exitShift, l.s.y + NODE_H / 2), (l.s.x + l.exitShift, l.exitY)]
  let home : List Point := match l.entry with
    | .row => [(x, l.t.y + l.entryShift), (sideX l.t l.side, l.t.y + l.entryShift)]
    | .above => [(x, l.entryCentre), (l.t.x + l.entryShift, l.entryCentre),
        (l.t.x + l.entryShift, l.t.y - NODE_H / 2)]
  out ++ [(x, l.exitY)] ++ home

def placeEdge (nodes : List (PlacedNode α)) (back : List (GraphEdge α)) (laned : List (LaneEdge α)) (e : GraphEdge α)
    (pos : ℕ) : PlacedEdge α :=
  if isStraight nodes back e then
    let line := straightLine (nodeAt nodes e.source) (nodeAt nodes e.target)
    ⟨e, .straight, [line.1, line.2]⟩
  else
    match laned.find? fun l => l.pos = pos with
    | some l => ⟨e, l.route, lanePoints nodes l⟩
    | none => ⟨e, .straight, []⟩

structure ViewBox where
  x : ℚ
  y : ℚ
  width : ℚ
  height : ℚ

def outer (nodes : List (PlacedNode α)) (laned : List (LaneEdge α)) (side : Side) : Option ℚ :=
  ((laned.filter fun l => l.side = side).map LaneEdge.lane).max?.map (laneX nodes side)

def viewBoxOf (nodes : List (PlacedNode α)) (laned : List (LaneEdge α)) (width height : ℚ) : ViewBox :=
  let minX := min 0 (((outer nodes laned .left).map (· - MARGIN)).getD 0)
  let maxX := max width (((outer nodes laned .right).map (· + MARGIN)).getD width)
  ⟨round minX, 0, round (maxX - minX), height⟩

structure Layout (α : Type) where
  nodes : List (PlacedNode α)
  edges : List (PlacedEdge α)
  width : ℚ
  height : ℚ
  viewBox : ViewBox

/-- The edges that are laid round the margins, with their ports and lanes. -/
def routed (nodes : List (PlacedNode α)) (back : List (GraphEdge α)) (width : ℚ) (edgeList : List (GraphEdge α)) :
    List (LaneEdge α) :=
  entryPorts (lanes (exitPorts (lanedOf nodes back width edgeList)))

def layout (nodeIds : List α) (edgeList : List (GraphEdge α)) (W : ℚ) : Except (Stuck α) (Layout α) :=
  let order := orderOf nodeIds edgeList
  let back := backEdges order edgeList
  match ranks order (edgeList.filter fun e => e ∉ back) with
  | .error stuck => .error stuck
  | .ok rank =>
    let nodes := nodesOf rank order W
    let width := widthOf rank order W
    let laned := routed nodes back width edgeList
    .ok ⟨nodes, edgeList.zipIdx.map fun e => placeEdge nodes back laned e.1 e.2, width, heightOf rank,
      viewBoxOf nodes laned width (heightOf rank)⟩

/-! ## What is ranked -/

/-- There is an edge of the list from one node to the other. -/
def Joined (edges : List (GraphEdge α)) (a b : α) : Prop := ∃ e ∈ edges, e.source = a ∧ e.target = b

/-- The edges that are left when those that go back are cut. -/
def forwardEdges (order : List α) (edges : List (GraphEdge α)) : List (GraphEdge α) :=
  edges.filter fun e => e ∉ backEdges order edges

/-- Every endpoint is in the order. -/
def Covers (order : List α) (edges : List (GraphEdge α)) : Prop := ∀ e ∈ edges, e.source ∈ order ∧ e.target ∈ order

theorem mem_next {edges : List (GraphEdge α)} {a b : α} : b ∈ next edges a ↔ Joined edges a b := by
  simp [next, Joined, and_assoc]

theorem mem_preds {edges : List (GraphEdge α)} {a b : α} : a ∈ preds edges b ↔ Joined edges a b := by
  simp only [preds, Joined, List.mem_map, List.mem_filter, decide_eq_true_eq]
  constructor
  · rintro ⟨e, ⟨he, htarget⟩, hsource⟩
    exact ⟨e, he, hsource, htarget⟩
  · rintro ⟨e, he, hsource, htarget⟩
    exact ⟨e, ⟨he, htarget⟩, hsource⟩

theorem mem_orderOf {nodeIds : List α} {edgeList : List (GraphEdge α)} {n : α} :
    n ∈ orderOf nodeIds edgeList ↔ n ∈ nodeIds ∨ ∃ e ∈ edgeList, n = e.source ∨ n = e.target := by
  have hmem : n ∈ orderOf nodeIds edgeList ↔ n ∈ nodeIds ++ edgeList.flatMap fun e => [e.source, e.target] := by
    unfold orderOf
    rw [OrderedMap.mem_keys, OrderedMap.get?_ofList, Option.isSome_iff_ne_none, ne_eq, OrderedMap.lastOf_eq_none]
    push Not
    constructor
    · rintro ⟨a, ha, rfl⟩
      exact ha
    · intro hn
      exact ⟨n, hn, rfl⟩
  rw [hmem]
  simp

theorem covers_orderOf (nodeIds : List α) (edgeList : List (GraphEdge α)) :
    Covers (orderOf nodeIds edgeList) edgeList := by
  intro e he
  rw [mem_orderOf, mem_orderOf]
  exact ⟨Or.inr ⟨e, he, Or.inl rfl⟩, Or.inr ⟨e, he, Or.inr rfl⟩⟩

theorem nodup_orderOf (nodeIds : List α) (edgeList : List (GraphEdge α)) : (orderOf nodeIds edgeList).Nodup :=
  (OrderedMap.ofList id _).nodup

theorem exists_indexOf {order : List α} {n : α} (hn : n ∈ order) : ∃ i, indexOf order n = some i := by
  obtain ⟨i, hi, rfl⟩ := List.mem_iff_getElem.mp hn
  have hentry : (order[i], i) ∈ order.zipIdx := by
    rw [List.mem_zipIdx_iff_getElem?]
    exact List.getElem?_eq_getElem hi
  obtain ⟨e, he⟩ := OrderedMap.exists_lastOf Prod.fst hentry
  exact ⟨e.2, by rw [indexOf, OrderedMap.get?_ofList, he, Option.map_some]⟩

section Cut

variable {order : List α} {edges : List (GraphEdge α)}

/-- **The search ends**, and finds what is reached. -/
theorem reachFrom_spec (hcovers : Covers order edges) (start : α) :
    ∃ S, reachFrom order edges start = some S ∧ ∀ n, n ∈ S ↔ TransGen (Joined edges) start n := by
  have hin : ∀ n, ∀ m ∈ next edges n, m ∈ order := by
    intro n m hm
    obtain ⟨e, he, -, rfl⟩ := mem_next.mp hm
    exact (hcovers e he).2
  have hclosed : ∀ n ∈ order, ∀ m ∈ next edges n, m ∈ order := fun n _ => hin n
  obtain ⟨S, hS, hmem⟩ := search_spec hclosed (hin start)
  have hrel : (fun a b => b ∈ next edges a) = Joined edges := by
    funext a b
    exact propext mem_next
  rw [hrel] at hmem
  exact ⟨S, hS, hmem⟩

/-- The edges that are cut go back in the order and lie on a cycle. -/
theorem mem_backEdges (hcovers : Covers order edges) {e : GraphEdge α} : e ∈ backEdges order edges ↔
    e ∈ edges ∧ Back (Joined edges) (fun n => (indexOf order n).getD 0) e.source e.target := by
  obtain ⟨S, hS, hmem⟩ := reachFrom_spec hcovers e.target
  simp only [backEdges, List.mem_filter, decide_eq_true_eq, hS, Option.getD_some, hmem, Back]
  refine and_congr_right fun he => and_congr_left fun _ => ?_
  obtain ⟨i, hi⟩ := exists_indexOf (hcovers e he).1
  obtain ⟨j, hj⟩ := exists_indexOf (hcovers e he).2
  simp [atOrBefore, hi, hj]

theorem forward_of_joined (hcovers : Covers order edges) {a b : α} (h : Joined (forwardEdges order edges) a b) :
    Forward (Joined edges) (fun n => (indexOf order n).getD 0) a b := by
  obtain ⟨e, he, rfl, rfl⟩ := h
  obtain ⟨hmem, hcut⟩ := List.mem_filter.mp he
  refine ⟨⟨e, hmem, rfl, rfl⟩, fun hback => ?_⟩
  exact of_decide_eq_true hcut ((mem_backEdges hcovers).mpr ⟨hmem, hback⟩)

/-- **What is left has no cycle.** -/
theorem acyclic (hcovers : Covers order edges) (n : α) : ¬ TransGen (Joined (forwardEdges order edges)) n n := by
  intro hcycle
  have hle : Joined (forwardEdges order edges) ≤ Forward (Joined edges) fun n => (indexOf order n).getD 0 :=
    fun _ _ h => forward_of_joined hcovers h
  exact forward_acyclic (TransGen.mono hle n n hcycle)

/-- **Every node is ranked**, and every edge that is left goes to a higher rank. -/
theorem ranks_spec (hcovers : Covers order edges) : ∃ rank, ranks order (forwardEdges order edges) = .ok rank ∧
    (∀ n ∈ order, ∃ r, rank.get? n = some r) ∧
    ∀ e ∈ forwardEdges order edges, ∃ q r, rank.get? e.source = some q ∧ rank.get? e.target = some r ∧ q < r := by
  have hrel : (fun p n => p ∈ preds (forwardEdges order edges) n) = Joined (forwardEdges order edges) := by
    funext p n
    exact propext mem_preds
  have hacyclic : ∀ n, ¬ TransGen (fun p n => p ∈ preds (forwardEdges order edges) n) n n := by
    rw [hrel]
    exact acyclic hcovers
  have hclosed : ∀ n ∈ order, ∀ p ∈ preds (forwardEdges order edges) n, p ∈ order := by
    intro n _ p hp
    obtain ⟨e, he, rfl, -⟩ := mem_preds.mp hp
    exact (hcovers e (List.mem_of_mem_filter he)).1
  obtain ⟨rank, hrank, hrises, hall⟩ := rankAll_spec hacyclic hclosed
  refine ⟨rank, hrank, hall, fun e he => ?_⟩
  obtain ⟨r, hr⟩ := hall e.target (hcovers e (List.mem_of_mem_filter he)).2
  obtain ⟨q, hq, hlt⟩ := hrises e.target r hr e.source (mem_preds.mpr ⟨e, he, rfl, rfl⟩)
  exact ⟨q, r, hq, hr, hlt⟩

end Cut

/-! ## Where the nodes are -/

/-- A side of one box is strictly beyond the opposite side of the other. -/
def Apart (a b : Box) : Prop := a.right < b.left ∨ b.right < a.left ∨ a.bottom < b.top ∨ b.bottom < a.top

theorem Apart.symm {a b : Box} (h : Apart a b) : Apart b a := by
  rcases h with h | h | h | h
  · exact Or.inr (Or.inl h)
  · exact Or.inl h
  · exact Or.inr (Or.inr (Or.inr h))
  · exact Or.inr (Or.inr (Or.inl h))

section Placement

variable {rank : OrderedMap α ℕ} {order : List α} {W : ℚ}

theorem le_foldr_max {l : List ℕ} {m n : ℕ} (hn : n ∈ l) : n ≤ l.foldr max m := by
  induction l with
  | nil => cases hn
  | cons k l ih =>
    rw [List.foldr_cons]
    rcases List.mem_cons.mp hn with rfl | hn
    · exact le_max_left _ _
    · exact (ih hn).trans (le_max_right _ _)

/-- Every rank is as wide as its nodes need. -/
theorem width_spec {g : ℕ × List α} (hg : g ∈ (byRank rank order).entries) :
    (g.2.length : ℚ) * (NODE_W + MIN_GAP_X) ≤ widthOf rank order W := by
  have hmem : g.2.length ∈ (byRank rank order).values.map List.length :=
    List.mem_map_of_mem (List.mem_map_of_mem hg)
  have hwidest : (g.2.length : ℚ) ≤ widest rank order := by exact_mod_cast le_foldr_max hmem
  refine le_trans ?_ (le_max_right _ _)
  refine mul_le_mul_of_nonneg_right hwidest ?_
  norm_num [NODE_W, MIN_GAP_X]

omit [DecidableEq α] in
/-- Nodes of one rank are apart. -/
theorem apart_spread {width : ℚ} {r : ℕ} {members : List α}
    (hwidth : (members.length : ℚ) * (NODE_W + MIN_GAP_X) ≤ width) :
    (spread width r members).Pairwise fun a b => Apart (boxOf a) (boxOf b) := by
  rw [List.pairwise_iff_getElem]
  intro i j hi hj hij
  have hlength : (spread width r members).length = members.length := by simp [spread]
  have hpos : (0 : ℚ) < members.length := by
    have : 0 < members.length := by omega
    exact_mod_cast this
  have hgap : NODE_W + MIN_GAP_X ≤ width / members.length := by
    rw [le_div_iff₀ hpos]
    linarith
  have hone : (i : ℚ) + 1 ≤ j := by exact_mod_cast hij
  have hx : ∀ k (hk : k < (spread width r members).length),
      (spread width r members)[k].x = width / members.length * (k + 1 / 2) := by
    intro k hk
    simp only [spread, List.getElem_map, List.getElem_zipIdx, Nat.zero_add]
    rw [div_mul_eq_mul_div]
  have hnonneg : (0 : ℚ) ≤ NODE_W + MIN_GAP_X := by norm_num [NODE_W, MIN_GAP_X]
  have hstep : width / members.length * 1 ≤ width / members.length * ((j : ℚ) - i) :=
    mul_le_mul_of_nonneg_left (by linarith) (hnonneg.trans hgap)
  have hfar : NODE_W + MIN_GAP_X ≤ width / members.length * (j + 1 / 2) - width / members.length * (i + 1 / 2) := by
    linarith
  left
  show (spread width r members)[i].x + NODE_W / 2 < (spread width r members)[j].x - NODE_W / 2
  rw [hx, hx]
  norm_num [NODE_W, MIN_GAP_X] at hfar ⊢
  linarith

omit [DecidableEq α] in
/-- Nodes of two ranks are apart. -/
theorem apart_ranks {w w' : ℚ} {r r' : ℕ} {l l' : List α} (hne : r ≠ r') {a b : PlacedNode α} (ha : a ∈ spread w r l)
    (hb : b ∈ spread w' r' l') : Apart (boxOf a) (boxOf b) := by
  obtain ⟨m, -, rfl⟩ := List.mem_map.mp ha
  obtain ⟨m', -, rfl⟩ := List.mem_map.mp hb
  rcases Nat.lt_or_gt_of_ne hne with hlt | hlt
  · have hone : (r : ℚ) + 1 ≤ r' := by exact_mod_cast hlt
    right; right; left
    norm_num [boxOf, NODE_H, TOP, RANK_GAP]
    linarith
  · have hone : (r' : ℚ) + 1 ≤ r := by exact_mod_cast hlt
    right; right; right
    norm_num [boxOf, NODE_H, TOP, RANK_GAP]
    linarith

/-- **No two boxes overlap.** -/
theorem apart_nodesOf : (nodesOf rank order W).Pairwise fun a b => Apart (boxOf a) (boxOf b) := by
  refine ((List.perm_insertionSort _ _).pairwise_iff fun h => Apart.symm h).mpr ?_
  rw [List.pairwise_flatMap]
  refine ⟨fun g hg => apart_spread (width_spec hg), ?_⟩
  have hkeys : ((byRank rank order).entries.map Prod.fst).Pairwise (· ≠ ·) := (byRank rank order).nodup
  rw [List.pairwise_map] at hkeys
  exact hkeys.imp fun hne a ha b hb => apart_ranks hne ha hb

/-- Every node of the order is placed, once. -/
theorem ids_nodesOf : ((nodesOf rank order W).map PlacedNode.id).Perm order := by
  have hspread : ∀ g : ℕ × List α, (spread (widthOf rank order W) g.1 g.2).map PlacedNode.id = g.2 := by
    intro g
    unfold spread
    rw [List.map_map]
    exact List.zipIdx_map_fst 0 g.2
  refine ((List.perm_insertionSort _ _).map PlacedNode.id).trans ?_
  rw [List.map_flatMap, List.flatMap_congr fun g _ => hspread g]
  exact OrderedMap.flatMap_groupBy (rankAt rank) order

end Placement

/-! ## The whole picture -/

/-- What the picture of a graph is like. -/
structure Layered (nodeIds : List α) (edgeList : List (GraphEdge α)) (W : ℚ) : Prop where
  /-- Every search ends. -/
  searched : ∀ n, ∃ S, reachFrom (orderOf nodeIds edgeList) edgeList n = some S
  /-- Without the back edges there is no cycle. -/
  acyclic : ∀ n, ¬ TransGen (Joined (forwardEdges (orderOf nodeIds edgeList) edgeList)) n n
  /-- The ranking ends and throws nothing, and every edge that is left goes to a higher rank. -/
  ranked : ∃ rank, ranks (orderOf nodeIds edgeList) (forwardEdges (orderOf nodeIds edgeList) edgeList) = .ok rank ∧
    ∀ e ∈ forwardEdges (orderOf nodeIds edgeList) edgeList,
      ∃ q r, rank.get? e.source = some q ∧ rank.get? e.target = some r ∧ q < r
  /-- Every node and every endpoint has its box, and no two of them overlap. -/
  placed : ∃ l, layout nodeIds edgeList W = .ok l ∧ (l.nodes.map PlacedNode.id).Nodup ∧
    (∀ n, n ∈ l.nodes.map PlacedNode.id ↔ n ∈ nodeIds ∨ ∃ e ∈ edgeList, n = e.source ∨ n = e.target) ∧
    l.nodes.Pairwise fun a b => Apart (boxOf a) (boxOf b)

theorem layout_eq {nodeIds : List α} {edgeList : List (GraphEdge α)} {W : ℚ} {rank : OrderedMap α ℕ}
    (hrank : ranks (orderOf nodeIds edgeList) (forwardEdges (orderOf nodeIds edgeList) edgeList) = .ok rank) :
    ∃ l, layout nodeIds edgeList W = .ok l ∧ l.nodes = nodesOf rank (orderOf nodeIds edgeList) W := by
  unfold layout
  dsimp only
  rw [forwardEdges] at hrank
  rw [hrank]
  exact ⟨_, rfl, rfl⟩

/-- **The picture is in layers**: for every finite graph the edges that go back leave no cycle when they are cut, the
others rank its nodes, and no two boxes overlap. -/
theorem layout_sound (nodeIds : List α) (edgeList : List (GraphEdge α)) (W : ℚ) : Layered nodeIds edgeList W := by
  have hcovers := covers_orderOf nodeIds edgeList
  obtain ⟨rank, hrank, -, hrises⟩ := ranks_spec hcovers
  obtain ⟨l, hl, hnodes⟩ := layout_eq (W := W) hrank
  refine ⟨fun n => ?_, acyclic hcovers, ⟨rank, hrank, hrises⟩, l, hl, ?_, fun n => ?_, ?_⟩
  · obtain ⟨S, hS, -⟩ := reachFrom_spec hcovers n
    exact ⟨S, hS⟩
  · rw [hnodes]
    exact ids_nodesOf.nodup_iff.mpr (nodup_orderOf nodeIds edgeList)
  · rw [hnodes, ids_nodesOf.mem_iff]
    exact mem_orderOf
  · rw [hnodes]
    exact apart_nodesOf

end DTwin.Copilot.Diagram
