import DTwin.Lib.OrderedMap
import Mathlib.Algebra.GroupWithZero.Nat
import Mathlib.Algebra.Order.BigOperators.Group.List
import Mathlib.Algebra.Order.Group.Nat
import Mathlib.Data.List.Perm.Subperm
import Mathlib.Logic.Relation

/-!
# DTwin.Lib.Digraph — what is reached, which edges go back, and ranks

A finite graph is given by the successors `next` of a node, or by its predecessors `preds`.

* `search`: a depth-first search with a stack.  With fuel for the `work` before it, it ends and has seen exactly what is
  reached (`search_spec`).
* `Forward`: the edges that do not go back, that is, back in a numbering and along a cycle.  They make no cycle
  (`forward_acyclic`).
* `rankAll`: the longest path to each node, remembered from node to node.  Without a cycle it ends, does not come back
  to a node that it is still at, and ranks every node above its predecessors (`rankAll_spec`).
-/

namespace DTwin.Digraph

open Relation

variable {α : Type*}

/-! ## Search -/

section Search

variable [DecidableEq α] (next : α → List α)

/-- From what is seen and what is on the stack, its top first. -/
def search : ℕ → List α → List α → Option (List α)
  | _, seen, [] => some seen
  | 0, _, _ :: _ => none
  | fuel + 1, seen, n :: stack =>
    if n ∈ seen then search fuel seen stack
    else search fuel (n :: seen) ((next n).reverse ++ stack)

/-- The steps that a search may still take: what is on the stack, and the successors of the nodes not seen yet. -/
def work (V seen stack : List α) : ℕ :=
  stack.length + (V.map fun n => if n ∈ seen then 0 else (next n).length).sum

variable {next} {V : List α}

theorem sum_unseen (f : α → ℕ) {seen : List α} {n : α} (hn : n ∈ V) (hnew : n ∉ seen) :
    (V.map fun m => if m ∈ n :: seen then 0 else f m).sum + f n ≤ (V.map fun m => if m ∈ seen then 0 else f m).sum := by
  induction V with
  | nil => cases hn
  | cons m V ih =>
    rw [List.map_cons, List.sum_cons, List.map_cons, List.sum_cons]
    by_cases hm : m = n
    · have hrest : (V.map fun m => if m ∈ n :: seen then 0 else f m).sum ≤
          (V.map fun m => if m ∈ seen then 0 else f m).sum := by
        refine List.sum_le_sum fun k _ => ?_
        by_cases hk : k ∈ seen
        · simp [hk]
        · by_cases hkn : k = n
          · simp [hkn]
          · simp [hk, hkn]
      rw [hm, if_pos List.mem_cons_self, if_neg hnew]
      omega
    · have hrest := ih ((List.mem_cons.mp hn).resolve_left fun h => hm h.symm)
      have hsame : (m ∈ n :: seen) ↔ m ∈ seen := by simp [hm]
      simp only [hsame]
      omega

theorem search_ends (hclosed : ∀ n ∈ V, ∀ m ∈ next n, m ∈ V) : ∀ (fuel : ℕ) (seen stack : List α),
    (∀ n ∈ stack, n ∈ V) → work next V seen stack ≤ fuel → ∃ S, search next fuel seen stack = some S := by
  intro fuel
  induction fuel with
  | zero =>
    intro seen stack _ hwork
    cases stack with
    | nil => exact ⟨seen, by rw [search]⟩
    | cons n stack =>
      rw [work, List.length_cons] at hwork
      omega
  | succ fuel ih =>
    intro seen stack hstack hwork
    cases stack with
    | nil => exact ⟨seen, by rw [search]⟩
    | cons n stack =>
      have hn := hstack n List.mem_cons_self
      have hrest : ∀ m ∈ stack, m ∈ V := fun m hm => hstack m (List.mem_cons_of_mem _ hm)
      rw [search]
      by_cases hseen : n ∈ seen
      · rw [if_pos hseen]
        refine ih seen stack hrest ?_
        simp only [work, List.length_cons] at hwork ⊢
        omega
      · rw [if_neg hseen]
        refine ih _ _ (fun m hm => ?_) ?_
        · rcases List.mem_append.mp hm with hm | hm
          · exact hclosed n hn m (List.mem_reverse.mp hm)
          · exact hrest m hm
        · have hsum := sum_unseen (fun m => (next m).length) hn hseen
          simp only [work, List.length_cons, List.length_append, List.length_reverse] at hwork ⊢
          omega

/-- What holds of the stack and goes from node to node holds of all that is seen. -/
theorem search_sound {R : α → Prop} (hR : ∀ n, R n → ∀ m ∈ next n, R m) : ∀ (fuel : ℕ) (seen stack S : List α),
    (∀ n ∈ seen, R n) → (∀ n ∈ stack, R n) → search next fuel seen stack = some S → ∀ n ∈ S, R n := by
  intro fuel
  induction fuel with
  | zero =>
    intro seen stack S hseen _ hS
    cases stack with
    | nil =>
      rw [search, Option.some.injEq] at hS
      exact hS ▸ hseen
    | cons n stack =>
      rw [search] at hS
      cases hS
  | succ fuel ih =>
    intro seen stack S hseen hstack hS
    cases stack with
    | nil =>
      rw [search, Option.some.injEq] at hS
      exact hS ▸ hseen
    | cons n stack =>
      have hn := hstack n List.mem_cons_self
      have hrest : ∀ m ∈ stack, R m := fun m hm => hstack m (List.mem_cons_of_mem _ hm)
      rw [search] at hS
      by_cases hmem : n ∈ seen
      · rw [if_pos hmem] at hS
        exact ih seen stack S hseen hrest hS
      · rw [if_neg hmem] at hS
        refine ih _ _ S (fun m hm => ?_) (fun m hm => ?_) hS
        · rcases List.mem_cons.mp hm with rfl | hm
          · exact hn
          · exact hseen m hm
        · rcases List.mem_append.mp hm with hm | hm
          · exact hR n hn m (List.mem_reverse.mp hm)
          · exact hrest m hm

/-- All of the stack is seen, and with a node its successors, if those of what is seen are seen or on the stack. -/
theorem search_closed : ∀ (fuel : ℕ) (seen stack S : List α), (∀ n ∈ seen, ∀ m ∈ next n, m ∈ seen ∨ m ∈ stack) →
    search next fuel seen stack = some S →
    (∀ n, n ∈ seen ∨ n ∈ stack → n ∈ S) ∧ ∀ n ∈ S, ∀ m ∈ next n, m ∈ S := by
  intro fuel
  induction fuel with
  | zero =>
    intro seen stack S hinv hS
    cases stack with
    | nil =>
      rw [search, Option.some.injEq] at hS
      subst hS
      exact ⟨fun n hn => hn.resolve_right (by simp), fun n hn m hm => (hinv n hn m hm).resolve_right (by simp)⟩
    | cons n stack =>
      rw [search] at hS
      cases hS
  | succ fuel ih =>
    intro seen stack S hinv hS
    cases stack with
    | nil =>
      rw [search, Option.some.injEq] at hS
      subst hS
      exact ⟨fun n hn => hn.resolve_right (by simp), fun n hn m hm => (hinv n hn m hm).resolve_right (by simp)⟩
    | cons n stack =>
      rw [search] at hS
      by_cases hmem : n ∈ seen
      · rw [if_pos hmem] at hS
        have hpop : ∀ k, k ∈ seen ∨ k ∈ n :: stack → k ∈ seen ∨ k ∈ stack := by
          intro k hk
          rcases hk with hk | hk
          · exact Or.inl hk
          · rcases List.mem_cons.mp hk with rfl | hk
            · exact Or.inl hmem
            · exact Or.inr hk
        obtain ⟨hall, hnext⟩ := ih seen stack S (fun k hk m hm => hpop m (hinv k hk m hm)) hS
        exact ⟨fun k hk => hall k (hpop k hk), hnext⟩
      · rw [if_neg hmem] at hS
        have hpush : ∀ k ∈ n :: seen, ∀ m ∈ next k, m ∈ n :: seen ∨ m ∈ (next n).reverse ++ stack := by
          intro k hk m hm
          simp only [List.mem_cons, List.mem_append, List.mem_reverse] at hk ⊢
          rcases hk with rfl | hk
          · exact Or.inr (Or.inl hm)
          · have hold := hinv k hk m hm
            simp only [List.mem_cons] at hold
            tauto
        obtain ⟨hall, hnext⟩ := ih _ _ S hpush hS
        refine ⟨fun k hk => hall k ?_, hnext⟩
        simp only [List.mem_cons, List.mem_append, List.mem_reverse] at hk ⊢
        tauto

/-- **A search from the successors of a node** sees what is reached from it. -/
theorem search_spec (hclosed : ∀ n ∈ V, ∀ m ∈ next n, m ∈ V) {start : α} (hstart : ∀ m ∈ next start, m ∈ V) :
    ∃ S, search next (work next V [] (next start).reverse) [] (next start).reverse = some S ∧
      ∀ n, n ∈ S ↔ TransGen (fun a b => b ∈ next a) start n := by
  obtain ⟨S, hS⟩ := search_ends hclosed _ [] (next start).reverse
    (fun n hn => hstart n (List.mem_reverse.mp hn)) le_rfl
  have hsound := search_sound (R := TransGen (fun a b => b ∈ next a) start) (fun n hn m hm => hn.tail hm) _ _ _ S
    (by simp) (fun n hn => TransGen.single (List.mem_reverse.mp hn)) hS
  obtain ⟨hall, hnext⟩ := search_closed _ _ _ S (by simp) hS
  refine ⟨S, hS, fun n => ⟨hsound n, fun hreach => ?_⟩⟩
  induction hreach with
  | single hm => exact hall _ (Or.inr (List.mem_reverse.mpr hm))
  | tail _ hm ih => exact hnext _ ih _ hm

end Search

/-! ## Edges that go back -/

section Edges

variable (E : α → α → Prop) (index : α → ℕ)

/-- Back in the numbering, and along a cycle. -/
def Back (a b : α) : Prop := index b ≤ index a ∧ TransGen E b a

def Forward (a b : α) : Prop := E a b ∧ ¬ Back E index a b

variable {E index} {a b : α}

theorem forget (h : TransGen (Forward E index) a b) : TransGen E a b := by
  have hle : Forward E index ≤ E := fun _ _ hab => hab.1
  exact TransGen.mono hle a b h

/-- Along a cycle, what goes forward goes up. -/
theorem index_lt (hforward : TransGen (Forward E index) a b) (hback : TransGen E b a) : index a < index b := by
  have hup : ∀ {c d : α}, Forward E index c d → TransGen E d c → index c < index d := by
    intro c d hcd hdc
    by_contra hle
    exact hcd.2 ⟨not_lt.mp hle, hdc⟩
  induction hforward using TransGen.head_induction_on with
  | single hab => exact hup hab hback
  | head hac hcb ih =>
    have hcb' := forget hcb
    exact (hup hac (hcb'.trans hback)).trans (ih (hback.tail hac.1))

/-- **Without the edges that go back there is no cycle.** -/
theorem forward_acyclic : ¬ TransGen (Forward E index) a a := by
  intro hcycle
  exact lt_irrefl _ (index_lt hcycle (forget hcycle))

end Edges

/-! ## Ranks -/

section Ranks

inductive Stuck (α : Type*)
  /-- Back at a node that is being ranked. -/
  | cycle (n : α)
  /-- Out of fuel. -/
  | exhausted

structure Memo (α : Type*) where
  rank : OrderedMap α ℕ
  visiting : List α

variable [DecidableEq α]

def visitAll (visit : α → Memo α → Except (Stuck α) (ℕ × Memo α)) : List α → Memo α → Except (Stuck α) (List ℕ × Memo α)
  | [], m => .ok ([], m)
  | n :: ns, m =>
    match visit n m with
    | .error stuck => .error stuck
    | .ok (r, m) =>
      match visitAll visit ns m with
      | .error stuck => .error stuck
      | .ok (rs, m) => .ok (r :: rs, m)

/-- One above the highest, 0 above none. -/
def above (rs : List ℕ) : ℕ := rs.foldr (fun r top => max (r + 1) top) 0

def rankOf (preds : α → List α) : ℕ → α → Memo α → Except (Stuck α) (ℕ × Memo α)
  | 0, _, _ => .error .exhausted
  | fuel + 1, n, m =>
    match m.rank.get? n with
    | some known => .ok (known, m)
    | none =>
      if n ∈ m.visiting then .error (.cycle n)
      else
        match visitAll (rankOf preds fuel) (preds n) ⟨m.rank, n :: m.visiting⟩ with
        | .error stuck => .error stuck
        | .ok (rs, m) => .ok (above rs, ⟨m.rank.set n (above rs), m.visiting.erase n⟩)

def rankAll (preds : α → List α) (V : List α) : Except (Stuck α) (OrderedMap α ℕ) :=
  match visitAll (rankOf preds (V.length + 1)) V ⟨.empty, []⟩ with
  | .error stuck => .error stuck
  | .ok (_, m) => .ok m.rank

theorem lt_above {rs : List ℕ} {r : ℕ} (hr : r ∈ rs) : r < above rs := by
  induction rs with
  | nil => cases hr
  | cons q rs ih =>
    have hcons : above (q :: rs) = max (q + 1) (above rs) := rfl
    rw [hcons]
    rcases List.mem_cons.mp hr with rfl | hr
    · omega
    · have hrest := ih hr
      omega

variable (preds : α → List α)

/-- What is ranked is ranked above its predecessors. -/
def Rises (rank : OrderedMap α ℕ) : Prop :=
  ∀ n r, rank.get? n = some r → ∀ p ∈ preds n, ∃ q, rank.get? p = some q ∧ q < r

/-- What a visit leaves of the memory that it found: it ranks more, but nothing that is being visited. -/
structure Extends (m m' : Memo α) : Prop where
  rises : Rises preds m'.rank
  visiting : m'.visiting = m.visiting
  keeps : ∀ k q, m.rank.get? k = some q → m'.rank.get? k = some q
  untouched : ∀ v ∈ m.visiting, m'.rank.get? v = m.rank.get? v

variable {preds}

theorem Extends.refl {m : Memo α} (h : Rises preds m.rank) : Extends preds m m :=
  ⟨h, rfl, fun _ _ hk => hk, fun _ _ => rfl⟩

theorem Extends.trans {m m' m'' : Memo α} (h : Extends preds m m') (h' : Extends preds m' m'') :
    Extends preds m m'' where
  rises := h'.rises
  visiting := h'.visiting.trans h.visiting
  keeps k q hk := h'.keeps k q (h.keeps k q hk)
  untouched v hv := (h'.untouched v (h.visiting ▸ hv)).trans (h.untouched v hv)

/-- Visits one after the other. -/
theorem visitAll_spec (visit : α → Memo α → Except (Stuck α) (ℕ × Memo α)) (vis : List α) :
    ∀ (ns : List α) (m : Memo α),
    (∀ n ∈ ns, ∀ m : Memo α, Rises preds m.rank → m.visiting = vis →
      ∃ r m', visit n m = .ok (r, m') ∧ Extends preds m m' ∧ m'.rank.get? n = some r) →
    Rises preds m.rank → m.visiting = vis →
    ∃ rs m', visitAll visit ns m = .ok (rs, m') ∧ Extends preds m m' ∧
      ∀ n ∈ ns, ∃ r ∈ rs, m'.rank.get? n = some r
  | [], m, _, hrises, _ => ⟨[], m, rfl, .refl hrises, by simp⟩
  | n :: ns, m, hvisit, hrises, hvis => by
    obtain ⟨r, m₁, hrun, hext, hrank⟩ := hvisit n List.mem_cons_self m hrises hvis
    obtain ⟨rs, m₂, hruns, hexts, hranks⟩ := visitAll_spec visit vis ns m₁
      (fun k hk => hvisit k (List.mem_cons_of_mem _ hk)) hext.rises (hext.visiting.trans hvis)
    refine ⟨r :: rs, m₂, ?_, hext.trans hexts, fun k hk => ?_⟩
    · rw [visitAll, hrun]
      dsimp only
      rw [hruns]
    · rcases List.mem_cons.mp hk with rfl | hk
      · exact ⟨r, List.mem_cons_self, hexts.keeps _ _ hrank⟩
      · obtain ⟨q, hq, hrank'⟩ := hranks k hk
        exact ⟨q, List.mem_cons_of_mem _ hq, hrank'⟩

variable {V : List α}

/-- **A node is ranked** unless it is reached from one that is being ranked; the fuel is enough for a path through all
nodes. -/
theorem rankOf_spec (hacyclic : ∀ n, ¬ TransGen (fun p n => p ∈ preds n) n n)
    (hclosed : ∀ n ∈ V, ∀ p ∈ preds n, p ∈ V) :
    ∀ (fuel : ℕ) (n : α) (m : Memo α), n ∈ V → m.visiting.Nodup → (∀ v ∈ m.visiting, v ∈ V) →
      (∀ v ∈ m.visiting, TransGen (fun p n => p ∈ preds n) n v) → V.length < fuel + m.visiting.length →
      Rises preds m.rank →
      ∃ r m', rankOf preds fuel n m = .ok (r, m') ∧ Extends preds m m' ∧ m'.rank.get? n = some r := by
  intro fuel
  induction fuel with
  | zero =>
    intro n m _ hnodup hvis _ hfuel _
    have hlength := (List.Nodup.subperm hnodup fun v hv => hvis v hv).length_le
    omega
  | succ fuel ih =>
    intro n m hn hnodup hvis hreach hfuel hrises
    rw [rankOf]
    cases hknown : m.rank.get? n with
    | some known => exact ⟨known, m, rfl, .refl hrises, hknown⟩
    | none =>
      have hnew : n ∉ m.visiting := fun hmem => hacyclic n (hreach n hmem)
      obtain ⟨rs, m₁, hruns, hext, hranks⟩ := visitAll_spec (rankOf preds fuel) (n :: m.visiting)
        (preds n) ⟨m.rank, n :: m.visiting⟩ (fun p hp m' hrises' hvis' => by
          refine ih p m' (hclosed n hn p hp) ?_ ?_ ?_ ?_ hrises'
          · rw [hvis']
            exact List.nodup_cons.mpr ⟨hnew, hnodup⟩
          · rw [hvis']
            exact List.forall_mem_cons.mpr ⟨hn, hvis⟩
          · rw [hvis']
            exact List.forall_mem_cons.mpr ⟨TransGen.single hp, fun v hv => (hreach v hv).head hp⟩
          · rw [hvis', List.length_cons]
            omega) hrises rfl
      have hfree : m₁.rank.get? n = none := (hext.untouched n List.mem_cons_self).trans hknown
      have hother : ∀ k q, m₁.rank.get? k = some q → (m₁.rank.set n (above rs)).get? k = some q := by
        intro k q hk
        have hne : k ≠ n := by
          rintro rfl
          rw [hfree] at hk
          cases hk
        rw [OrderedMap.get?_set, if_neg (Ne.symm hne), hk]
      refine ⟨above rs, ⟨m₁.rank.set n (above rs), m₁.visiting.erase n⟩, ?_, ⟨?_, ?_, ?_, ?_⟩, ?_⟩
      · simp only [if_neg hnew, hruns]
      · intro k r hk p hp
        by_cases hkn : n = k
        · obtain ⟨q, hq, hrank⟩ := hranks p (hkn ▸ hp)
          rw [OrderedMap.get?_set, if_pos hkn, Option.some.injEq] at hk
          exact ⟨q, hother p q hrank, hk ▸ lt_above hq⟩
        · rw [OrderedMap.get?_set, if_neg hkn] at hk
          obtain ⟨q, hrank, hlt⟩ := hext.rises k r hk p hp
          exact ⟨q, hother p q hrank, hlt⟩
      · rw [hext.visiting]
        exact List.erase_cons_head n m.visiting
      · exact fun k q hk => hother k q (hext.keeps k q hk)
      · intro v hv
        have hne : n ≠ v := fun h => hnew (h ▸ hv)
        rw [OrderedMap.get?_set, if_neg hne]
        exact hext.untouched v (List.mem_cons_of_mem _ hv)
      · rw [OrderedMap.get?_set, if_pos rfl]

/-- **All nodes are ranked**, each above its predecessors. -/
theorem rankAll_spec (hacyclic : ∀ n, ¬ TransGen (fun p n => p ∈ preds n) n n)
    (hclosed : ∀ n ∈ V, ∀ p ∈ preds n, p ∈ V) :
    ∃ rank, rankAll preds V = .ok rank ∧ Rises preds rank ∧ ∀ n ∈ V, ∃ r, rank.get? n = some r := by
  have hempty : Rises preds (OrderedMap.empty : OrderedMap α ℕ) := by
    intro n r hn
    rw [OrderedMap.get?_empty] at hn
    cases hn
  obtain ⟨rs, m, hruns, hext, hranks⟩ := visitAll_spec (rankOf preds (V.length + 1)) []
    V ⟨.empty, []⟩ (fun n hn m' hrises hvis => by
      refine rankOf_spec hacyclic hclosed _ n m' hn ?_ ?_ ?_ ?_ hrises
      · rw [hvis]
        exact List.nodup_nil
      · rw [hvis]
        simp
      · rw [hvis]
        simp
      · rw [hvis]
        simp) hempty rfl
  refine ⟨m.rank, ?_, hext.rises, fun n hn => ?_⟩
  · rw [rankAll, hruns]
  · obtain ⟨r, -, hrank⟩ := hranks n hn
    exact ⟨r, hrank⟩

end Ranks

end DTwin.Digraph
