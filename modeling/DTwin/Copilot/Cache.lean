import DTwin.Lib.Machine
import DTwin.Lib.OrderedMap
import Mathlib.Logic.Function.Basic

/-!
# DTwin.Copilot.Cache — which graph goes when there is no room

`GraphCache` of `apps/web/lib/copilot/graph-cache.ts`, with what makes a graph busy: the threads that are locked in it
and its open requests, which come and go between the calls.  A graph is known by a number, in the order of building.

The keys stand in the order of their last use (`Sound`), so that the first graph of the map that is not busy is the
least recently used one: `cache_kept`. -/

namespace DTwin.Copilot.Cache

open Machine OrderedMap

variable {κ : Type} [DecidableEq κ]

structure Sys (κ : Type) where
  graphs : OrderedMap κ ℕ
  /-- The locks and the open requests of a graph. -/
  users : ℕ → ℕ
  built : ℕ

inductive Act (κ : Type)
  | get (key : κ)
  /-- `getOrBuild`; `build` may throw. -/
  | getOrBuild (key : κ) (builds : Bool)
  | acquire (graph : ℕ)
  | release (graph : ℕ)

inductive Obs (κ : Type)
  | used (key : κ)
  | built (key : κ)
  | evicted (key : κ)
  /-- `GraphsBusy` is thrown. -/
  | refused (key : κ)

def Sys.init : Sys κ := ⟨.empty, fun _ => 0, 0⟩

def Sys.busy (s : Sys κ) (graph : ℕ) : Bool := 0 < s.users graph

/-- A use: the key moves to the back. -/
def Sys.touch (s : Sys κ) (key : κ) (graph : ℕ) : Sys κ := { s with graphs := (s.graphs.erase key).set key graph }

/-- `build()`, and the graph goes to the back. -/
def Sys.build (s : Sys κ) (key : κ) : Sys κ := ⟨s.graphs.set key s.built, s.users, s.built + 1⟩

/-- The entry to let go of: the first that is not busy. -/
def Sys.idle (s : Sys κ) : Option (κ × ℕ) := s.graphs.entries.find? fun e => !s.busy e.2

def step (max : ℕ) (s : Sys κ) : Act κ → Option (Sys κ × List (Obs κ))
  | .get key =>
    match s.graphs.get? key with
    | none => some (s, [])
    | some graph => some (s.touch key graph, [.used key])
  | .getOrBuild key builds =>
    match s.graphs.get? key with
    | some graph => some (s.touch key graph, [.used key])
    | none =>
      if max ≤ s.graphs.size then
        match s.idle with
        | none => some (s, [.refused key])
        | some e =>
          let s : Sys κ := { s with graphs := s.graphs.erase e.1 }
          if builds then some (s.build key, [.evicted e.1, .built key]) else some (s, [.evicted e.1])
      else if builds then some (s.build key, [.built key])
      else some (s, [])
  | .acquire graph =>
    if graph < s.built then some ({ s with users := Function.update s.users graph (s.users graph + 1) }, []) else none
  | .release graph =>
    if 0 < s.users graph then some ({ s with users := Function.update s.users graph (s.users graph - 1) }, []) else none

def cache (max : ℕ) : Machine (Sys κ) (Act κ) (Obs κ) := ⟨step max⟩

/-! ## The order of use -/

/-- The key of a use: a graph that is asked for, or built. -/
def Obs.key? : Obs κ → Option κ
  | .used key => some key
  | .built key => some key
  | .evicted _ => none
  | .refused _ => none

/-- `k'` was used after the last use of `k`. -/
def UsedSince (h : List (Obs κ)) (k k' : κ) : Prop :=
  ∃ h₁ h₂, h = h₁ ++ h₂ ∧ (∃ x ∈ h₂, x.key? = some k') ∧ ∀ x ∈ h₂, x.key? ≠ some k

/-- What one call may do to the graphs. -/
structure Kept (max : ℕ) (s : Sys κ) (h : List (Obs κ)) (s' : Sys κ) (o : List (Obs κ)) : Prop where
  size_le : s'.graphs.size ≤ max
  /-- A graph that goes was not busy, and was used before all others that are not. -/
  evicts : ∀ k g, s.graphs.get? k = some g → s'.graphs.get? k ≠ some g → s.busy g = false ∧
    s'.graphs.get? k = none ∧
    ∀ k' g', s.graphs.get? k' = some g' → s.busy g' = false → k' ≠ k → UsedSince h k k'
  /-- A busy graph stays, and is not built again. -/
  busy : ∀ k g, s.graphs.get? k = some g → s.busy g = true → s'.graphs.get? k = some g ∧ .built k ∉ o
  /-- Whoever is refused finds all graphs busy, and changes nothing. -/
  refused : ∀ k, .refused k ∈ o → s' = s ∧ ∀ k' g', s.graphs.get? k' = some g' → s.busy g' = true

/-- The keys stand in the order of their last use. -/
structure Sound (max : ℕ) (s : Sys κ) (h : List (Obs κ)) : Prop where
  size_le : s.graphs.size ≤ max
  order : s.graphs.keys.Pairwise (UsedSince h)

variable {max : ℕ} {s s' : Sys κ} {h o : List (Obs κ)} {key : κ} {graph : ℕ}

omit [DecidableEq κ] in
theorem UsedSince.append {k k' : κ} (hused : UsedSince h k k') (ho : ∀ x ∈ o, x.key? ≠ some k) :
    UsedSince (h ++ o) k k' := by
  obtain ⟨h₁, h₂, rfl, ⟨x, hx, hkey⟩, hnot⟩ := hused
  refine ⟨h₁, h₂ ++ o, List.append_assoc .., ⟨x, List.mem_append_left o hx, hkey⟩, fun y hy => ?_⟩
  rcases List.mem_append.mp hy with hy | hy
  · exact hnot y hy
  · exact ho y hy

omit [DecidableEq κ] in
/-- Whoever is used last goes last. -/
theorem order_push {ks : List κ} (hks : ks.Pairwise (UsedSince h)) (hnew : key ∉ ks) (huse : ∃ x ∈ o, x.key? = some key)
    (honly : ∀ x ∈ o, ∀ k, x.key? = some k → k = key) : (ks ++ [key]).Pairwise (UsedSince (h ++ o)) := by
  have hother : ∀ k ∈ ks, ∀ x ∈ o, x.key? ≠ some k := by
    intro k hk x hx hkey
    have heq : k = key := honly x hx k hkey
    exact hnew (heq ▸ hk)
  rw [List.pairwise_append]
  refine ⟨?_, List.pairwise_singleton _ _, fun k hk k' hk' => ?_⟩
  · refine hks.imp_of_mem fun {k k'} hk _ hused => ?_
    exact hused.append (hother k hk)
  · obtain rfl := List.mem_singleton.mp hk'
    exact ⟨h, o, rfl, huse, hother k hk⟩

theorem keys_erase (m : OrderedMap κ ℕ) (k : κ) : (m.erase k).keys.Sublist m.keys := List.filter_sublist.map _

theorem not_mem_keys_erase (m : OrderedMap κ ℕ) (k : κ) : k ∉ (m.erase k).keys := by
  rw [mem_keys, get?_erase, if_pos rfl]
  exact Bool.false_ne_true

theorem keys_set (m : OrderedMap κ ℕ) {k : κ} (hk : k ∉ m.keys) (v : ℕ) : (m.set k v).keys = m.keys ++ [k] := by
  have hnew : k ∉ m.entries.map Prod.fst := hk
  have hkeys := map_fst_setEntry k v m.entries
  rw [if_neg hnew] at hkeys
  exact hkeys

omit [DecidableEq κ] in
theorem size_eq (m : OrderedMap κ ℕ) : m.size = m.keys.length := (List.length_map _).symm

theorem size_erase_lt (m : OrderedMap κ ℕ) {k : κ} (hk : k ∈ m.keys) : (m.erase k).size < m.size := by
  have hsub := keys_erase m k
  rw [size_eq, size_eq]
  refine Nat.lt_of_le_of_ne hsub.length_le fun heq => ?_
  have hsame : (m.erase k).keys = m.keys := hsub.eq_of_length heq
  exact not_mem_keys_erase m k (hsame ▸ hk)

/-! ## Calls -/

omit [DecidableEq κ] in
theorem sound_init (max : ℕ) : Sound max (.init : Sys κ) [] := ⟨Nat.zero_le max, List.Pairwise.nil⟩

/-- A call that changes no entry. -/
theorem Sound.same (hS : Sound max s h) (hgraphs : s'.graphs = s.graphs) : Sound max s' h ∧ Kept max s h s' [] := by
  refine ⟨⟨hgraphs ▸ hS.size_le, hgraphs ▸ hS.order⟩, hgraphs ▸ hS.size_le, fun k g hk hgone => ?_, fun k g hk _ => ?_,
    fun k hk => ?_⟩
  · rw [hgraphs] at hgone
    exact absurd hk hgone
  · rw [hgraphs]
    exact ⟨hk, List.not_mem_nil⟩
  · cases hk

/-- A graph that is held is used. -/
theorem Sound.touch (hS : Sound max s h) (hkey : s.graphs.get? key = some graph) :
    Sound max (s.touch key graph) (h ++ [.used key]) ∧ Kept max s h (s.touch key graph) [.used key] := by
  have hmem : key ∈ s.graphs.keys := mem_keys.mpr (by rw [hkey]; rfl)
  have hkeys : (s.touch key graph).graphs.keys = (s.graphs.erase key).keys ++ [key] :=
    keys_set _ (not_mem_keys_erase _ _) graph
  have hsize : (s.touch key graph).graphs.size ≤ max := by
    have hlt := size_erase_lt s.graphs hmem
    have hle := hS.size_le
    rw [size_eq] at hlt
    rw [size_eq, hkeys, List.length_append, List.length_singleton]
    omega
  have hget : ∀ k, (s.touch key graph).graphs.get? k = s.graphs.get? k := by
    intro k
    show ((s.graphs.erase key).set key graph).get? k = s.graphs.get? k
    rw [get?_set, get?_erase]
    by_cases hk : key = k
    · subst hk
      rw [if_pos rfl, hkey]
    · rw [if_neg hk, if_neg hk]
  refine ⟨⟨hsize, ?_⟩, hsize, fun k g hk hgone => ?_, fun k g hk _ => ?_, fun k hk => ?_⟩
  · rw [hkeys]
    refine order_push (hS.order.sublist (keys_erase _ _)) (not_mem_keys_erase _ _)
      ⟨_, List.mem_singleton_self _, rfl⟩ ?_
    intro x hx k hk
    obtain rfl := List.mem_singleton.mp hx
    exact (Option.some.inj hk).symm
  · rw [hget] at hgone
    exact absurd hk hgone
  · rw [hget]
    exact ⟨hk, by simp⟩
  · cases List.mem_singleton.mp hk

/-- The first graph that is not busy was used before all others that are not. -/
theorem Sound.idle (hS : Sound max s h) {e : κ × ℕ} (he : s.idle = some e) :
    s.graphs.get? e.1 = some e.2 ∧ s.busy e.2 = false ∧
      ∀ k' g', s.graphs.get? k' = some g' → s.busy g' = false → k' ≠ e.1 → UsedSince h e.1 k' := by
  have hfound := he
  rw [Sys.idle, List.find?_eq_some_iff_append] at hfound
  obtain ⟨hidle, as, bs, hentries, hbefore⟩ := hfound
  have hmem : (e.1, e.2) ∈ s.graphs.entries := by
    rw [hentries]
    exact List.mem_append_right as List.mem_cons_self
  refine ⟨mem_entries.mp hmem, by simpa using hidle, fun k' g' hk' hg' hne => ?_⟩
  have hmem' : (k', g') ∈ as ++ e :: bs := hentries ▸ mem_entries.mpr hk'
  rcases List.mem_append.mp hmem' with hmem' | hmem'
  · have hbusy : s.busy g' = true := by simpa using hbefore _ hmem'
    rw [hg'] at hbusy
    cases hbusy
  · rcases List.mem_cons.mp hmem' with rfl | hmem'
    · exact absurd rfl hne
    · have horder := hS.order
      rw [OrderedMap.keys, hentries, List.map_append, List.map_cons] at horder
      have htail := (List.pairwise_append.mp horder).2.1
      exact (List.pairwise_cons.mp htail).1 k' (List.mem_map.mpr ⟨(k', g'), hmem', rfl⟩)

/-- An entry is let go of. -/
theorem Sound.evict (hS : Sound max s h) {e : κ × ℕ} (he : s.idle = some e) :
    Sound max { s with graphs := s.graphs.erase e.1 } (h ++ [.evicted e.1]) ∧
      Kept max s h { s with graphs := s.graphs.erase e.1 } [.evicted e.1] ∧
      (s.graphs.erase e.1).size < s.graphs.size := by
  obtain ⟨hheld, hidle, hleast⟩ := hS.idle he
  have hlt : (s.graphs.erase e.1).size < s.graphs.size := size_erase_lt _ (mem_keys.mpr (by rw [hheld]; rfl))
  have hsize : (s.graphs.erase e.1).size ≤ max := Nat.le_trans (Nat.le_of_lt hlt) hS.size_le
  refine ⟨⟨hsize, ?_⟩, ⟨hsize, fun k g hk hgone => ?_, fun k g hk hbusy => ?_, fun k hk => ?_⟩, hlt⟩
  · refine (hS.order.sublist (keys_erase _ _)).imp fun hused => hused.append fun x hx => ?_
    obtain rfl := List.mem_singleton.mp hx
    rintro ⟨⟩
  · have hgone' : (s.graphs.erase e.1).get? k ≠ some g := hgone
    rw [get?_erase] at hgone'
    by_cases hek : e.1 = k
    · subst hek
      obtain rfl := Option.some.inj (hheld.symm.trans hk)
      refine ⟨hidle, ?_, hleast⟩
      show (s.graphs.erase e.1).get? e.1 = none
      rw [get?_erase, if_pos rfl]
    · rw [if_neg hek] at hgone'
      exact absurd hk hgone'
  · have hek : e.1 ≠ k := by
      rintro rfl
      obtain rfl := Option.some.inj (hheld.symm.trans hk)
      rw [hidle] at hbusy
      cases hbusy
    refine ⟨?_, by simp⟩
    show (s.graphs.erase e.1).get? k = some g
    rw [get?_erase, if_neg hek]
    exact hk
  · cases List.mem_singleton.mp hk

/-- A graph is built where there is room for it. -/
theorem Sound.build (hS : Sound max s h) (hnone : s.graphs.get? key = none) (hroom : s.graphs.size < max) :
    Sound max (s.build key) (h ++ [.built key]) ∧
      (∀ k, key ≠ k → (s.build key).graphs.get? k = s.graphs.get? k) ∧ (s.build key).graphs.size ≤ max := by
  have hnew : key ∉ s.graphs.keys := by
    rw [mem_keys, hnone]
    exact Bool.false_ne_true
  have hkeys : (s.build key).graphs.keys = s.graphs.keys ++ [key] := keys_set _ hnew s.built
  have hsize : (s.build key).graphs.size ≤ max := by
    rw [size_eq] at hroom
    rw [size_eq, hkeys, List.length_append, List.length_singleton]
    omega
  refine ⟨⟨hsize, ?_⟩, fun k hk => ?_, hsize⟩
  · rw [hkeys]
    refine order_push hS.order hnew ⟨_, List.mem_singleton_self _, rfl⟩ ?_
    intro x hx k hk
    obtain rfl := List.mem_singleton.mp hx
    exact (Option.some.inj hk).symm
  · show (s.graphs.set key s.built).get? k = s.graphs.get? k
    rw [get?_set, if_neg hk]

/-- **One call** keeps the order of use, and lets go of no busy graph. -/
theorem Sound.step (hS : Sound max s h) {a : Act κ} (hstep : Cache.step max s a = some (s', o)) :
    Sound max s' (h ++ o) ∧ Kept max s h s' o := by
  cases a with
  | get key =>
    simp only [Cache.step] at hstep
    cases hkey : s.graphs.get? key with
    | none =>
      rw [hkey] at hstep
      obtain ⟨rfl, rfl⟩ := Prod.mk.inj (Option.some.inj hstep)
      rw [List.append_nil]
      exact hS.same rfl
    | some graph =>
      rw [hkey] at hstep
      obtain ⟨rfl, rfl⟩ := Prod.mk.inj (Option.some.inj hstep)
      exact hS.touch hkey
  | getOrBuild key builds =>
    simp only [Cache.step] at hstep
    cases hkey : s.graphs.get? key with
    | some graph =>
      rw [hkey] at hstep
      obtain ⟨rfl, rfl⟩ := Prod.mk.inj (Option.some.inj hstep)
      exact hS.touch hkey
    | none =>
      simp only [hkey] at hstep
      have hfresh : ∀ {k : κ} {g : ℕ}, s.graphs.get? k = some g → key ≠ k := by
        rintro k g hk rfl
        rw [hkey] at hk
        cases hk
      by_cases hfull : max ≤ s.graphs.size
      · rw [if_pos hfull] at hstep
        cases hidle : s.idle with
        | none =>
          simp only [hidle] at hstep
          obtain ⟨rfl, rfl⟩ := Prod.mk.inj (Option.some.inj hstep)
          have hall : ∀ k' g', s.graphs.get? k' = some g' → s.busy g' = true := by
            intro k' g' hk'
            simpa using List.find?_eq_none.mp hidle (k', g') (mem_entries.mpr hk')
          refine ⟨⟨hS.size_le, hS.order.imp fun hused => hused.append fun x hx => ?_⟩, hS.size_le,
            fun k g hk hgone => absurd hk hgone, fun k g hk _ => ⟨hk, by simp⟩, fun k _ => ⟨rfl, hall⟩⟩
          obtain rfl := List.mem_singleton.mp hx
          rintro ⟨⟩
        | some e =>
          simp only [hidle] at hstep
          obtain ⟨hevicted, hkept, hlt⟩ := hS.evict hidle
          have hnone : (s.graphs.erase e.1).get? key = none := by
            rw [get?_erase, hkey]
            split_ifs <;> rfl
          cases builds with
          | true =>
            simp only [if_true] at hstep
            obtain ⟨rfl, rfl⟩ := Prod.mk.inj (Option.some.inj hstep)
            obtain ⟨hbuilt, hget, hsize⟩ := hevicted.build hnone (Nat.lt_of_lt_of_le hlt hS.size_le)
            have happend : h ++ [.evicted e.1, .built key] = (h ++ [.evicted e.1]) ++ [.built key] := by simp
            refine ⟨happend ▸ hbuilt, hsize, fun k g hk hgone => ?_, fun k g hk hbusy => ?_, fun k hk => ?_⟩
            · rw [hget k (hfresh hk)] at hgone ⊢
              exact hkept.evicts k g hk hgone
            · rw [hget k (hfresh hk)]
              have hne := hfresh hk
              refine ⟨(hkept.busy k g hk hbusy).1, fun hmem => ?_⟩
              simp only [List.mem_cons, List.not_mem_nil, or_false, reduceCtorEq, false_or, Obs.built.injEq] at hmem
              exact hne hmem.symm
            · simp at hk
          | false =>
            simp only [Bool.false_eq_true, if_false] at hstep
            obtain ⟨rfl, rfl⟩ := Prod.mk.inj (Option.some.inj hstep)
            exact ⟨hevicted, hkept⟩
      · rw [if_neg hfull] at hstep
        cases builds with
        | true =>
          simp only [if_true] at hstep
          obtain ⟨rfl, rfl⟩ := Prod.mk.inj (Option.some.inj hstep)
          obtain ⟨hbuilt, hget, hsize⟩ := hS.build hkey (Nat.lt_of_not_le hfull)
          refine ⟨hbuilt, hsize, fun k g hk hgone => ?_, fun k g hk _ => ?_, fun k hk => ?_⟩
          · rw [hget k (hfresh hk)] at hgone
            exact absurd hk hgone
          · rw [hget k (hfresh hk)]
            have hne := hfresh hk
            refine ⟨hk, fun hmem => ?_⟩
            simp only [List.mem_singleton, Obs.built.injEq] at hmem
            exact hne hmem.symm
          · cases List.mem_singleton.mp hk
        | false =>
          simp only [Bool.false_eq_true, if_false] at hstep
          obtain ⟨rfl, rfl⟩ := Prod.mk.inj (Option.some.inj hstep)
          rw [List.append_nil]
          exact hS.same rfl
  | acquire graph =>
    simp only [Cache.step] at hstep
    split_ifs at hstep
    obtain ⟨rfl, rfl⟩ := Prod.mk.inj (Option.some.inj hstep)
    rw [List.append_nil]
    exact hS.same rfl
  | release graph =>
    simp only [Cache.step] at hstep
    split_ifs at hstep
    obtain ⟨rfl, rfl⟩ := Prod.mk.inj (Option.some.inj hstep)
    rw [List.append_nil]
    exact hS.same rfl

/-- **In every run**, in whatever order graphs are asked for, taken and let go of: there are never too many, whatever
call comes next lets go of the least recently used graph that is not busy or of none, and a call that is refused
changes nothing. -/
theorem cache_kept (max : ℕ) (as : List (Act κ)) :
    (cache max).Along (fun s h => s.graphs.size ≤ max ∧
      ∀ a s' o, (cache max).step s a = some (s', o) → Kept max s h s' o) (.init : Sys κ) [] as :=
  along_of_meets (I := Sound max) (C := fun _ _ _ => True) (fun hS _ hstep => (hS.step hstep).1)
    (fun hS => ⟨hS.size_le, fun _ _ _ hstep => (hS.step hstep).2⟩) (sound_init max)
    (meets_of_forall fun _ _ _ _ => trivial)

/-- Two places: the first graph is busy, the third person takes the place of the second, and is then busy too. -/
example : ((cache 2).exec (.init : Sys String) [.getOrBuild "a" true, .getOrBuild "b" true, .acquire 0,
    .getOrBuild "c" true, .acquire 2, .getOrBuild "d" true]).map (fun r => r.1.graphs.entries) =
      some [("a", 0), ("c", 2)] := by decide

end DTwin.Copilot.Cache
