import DTwin.Db.Plant

/-!
# DTwin.Db.Register — what the asset register answers

The rows of `copilotEquipmentStatus`.  The two bounded walks, `up` and `down`, end after six levels whatever the parents
are; the first gives the ancestors of each row, nearest first, and the second the zones that it or anything at most six
levels below it serves, each once (`equipment_status_exact`).
-/

namespace DTwin.Db.Plant

open Recursive Relation Table Latest Tables

variable {τ : Type} {db : Database τ}

/-! ## Parents -/

/-- The row of a key. -/
theorem filter_key_eq {α κ : Type} [DecidableEq κ] {key : α → κ} (k : κ) : ∀ {l : List α}, (l.map key).Nodup →
    (l.filter fun a => key a = k) = (l.find? fun a => key a = k).toList
  | [], _ => rfl
  | a :: l, hl => by
    obtain ⟨hnew, hl⟩ := List.nodup_cons.mp hl
    rw [List.filter_cons, List.find?_cons]
    by_cases ha : key a = k
    · have hnone : (l.filter fun b => key b = k) = [] := by
        refine List.filter_eq_nil_iff.mpr fun b hb hkey => hnew ?_
        rw [ha, ← of_decide_eq_true hkey]
        exact List.mem_map_of_mem hb
      simp [ha, hnone]
    · simp only [ha, decide_false, Bool.false_eq_true, if_false]
      exact filter_key_eq k hl

def Database.row (db : Database τ) (id : Uuid) : Option (Equipment τ) := db.equipment.find? fun e => e.id = id

def Database.parent (db : Database τ) (id : Uuid) : Option Uuid := (db.row id).bind Equipment.parentEquipmentId

/-- `k` parents up. -/
def Database.climb (db : Database τ) : ℕ → Uuid → Option Uuid
  | 0, id => some id
  | k + 1, id => (db.parent id).bind (db.climb k)

theorem row_of_mem {e : Equipment τ} (he : e ∈ db.equipment) : db.row e.id = some e := by
  obtain ⟨e', he'⟩ := Option.isSome_iff_exists.mp (List.find?_isSome.mpr ⟨e, he, decide_eq_true rfl⟩ :
    (db.equipment.find? fun x => x.id = e.id).isSome = true)
  have hid := List.find?_some he'
  rw [Database.row, he', chainRow_eq (List.mem_of_find?_eq_some he') he (of_decide_eq_true hid)]

theorem row_some {id : Uuid} {e : Equipment τ} (h : db.row id = some e) : e ∈ db.equipment ∧ e.id = id := by
  have hid := List.find?_some h
  exact ⟨List.mem_of_find?_eq_some h, of_decide_eq_true hid⟩

theorem parent_of_mem {e : Equipment τ} (he : e ∈ db.equipment) : db.parent e.id = e.parentEquipmentId := by
  rw [Database.parent, row_of_mem he, Option.bind_some]

theorem parent_eq_some {id p : Uuid} (h : db.parent id = some p) :
    ∃ e ∈ db.equipment, e.id = id ∧ e.parentEquipmentId = some p := by
  obtain ⟨e, he, hp⟩ := Option.bind_eq_some_iff.mp h
  exact ⟨e, (row_some he).1, (row_some he).2, hp⟩

/-! ## The walk up -/

theorem upNext_eq (u : Step) :
    db.upNext u = if u.depth < 6 then (db.parent u.id).toList.map fun g => ⟨u.base, g, u.depth + 1⟩ else [] := by
  rw [Database.upNext]
  split_ifs with hdepth
  · simp only [hdepth, decide_true, Bool.and_true]
    rw [filter_key_eq u.id db.equipmentIds, Database.parent, Database.row]
    cases db.equipment.find? fun e => e.id = u.id with
    | none => rfl
    | some e => simp
  · simp [hdepth]

/-- From one row of `up`, level by level. -/
theorem level_upNext : ∀ (k : ℕ) (u : Step), u.depth ≤ 6 → level db.upNext k [u] =
    if u.depth + k ≤ 6 then (db.climb k u.id).toList.map fun y => ⟨u.base, y, u.depth + k⟩ else []
  | 0, u, hu => by rw [if_pos (by omega)]; rfl
  | k + 1, u, _ => by
    rw [level, List.flatMap_cons, List.flatMap_nil, List.append_nil, upNext_eq, Database.climb]
    by_cases hdepth : u.depth < 6
    · rw [if_pos hdepth]
      cases hparent : db.parent u.id with
      | none =>
        rw [show ((none : Option Uuid).toList.map fun g => (⟨u.base, g, u.depth + 1⟩ : Step)) = [] from rfl, level_nil]
        split_ifs <;> rfl
      | some p =>
        rw [show ((some p).toList.map fun g => (⟨u.base, g, u.depth + 1⟩ : Step)) = [⟨u.base, p, u.depth + 1⟩] from rfl,
          level_upNext k _ (by show u.depth + 1 ≤ 6; omega), Option.bind_some]
        simp only [Nat.add_assoc, Nat.add_comm 1 k]
    · rw [if_neg hdepth, level_nil, if_neg (by omega)]

theorem base_of_upNext (u v : Step) (hv : v ∈ db.upNext u) : v.base = u.base := by
  rw [upNext_eq] at hv
  split_ifs at hv
  · obtain ⟨g, -, rfl⟩ := List.mem_map.mp hv
    rfl
  · exact absurd hv List.not_mem_nil

theorem upNext_lower (u v : Step) (hv : v ∈ db.upNext u) : 6 - v.depth < 6 - u.depth := by
  rw [upNext_eq] at hv
  split_ifs at hv with hdepth
  · obtain ⟨g, -, rfl⟩ := List.mem_map.mp hv
    show 6 - (u.depth + 1) < 6 - u.depth
    omega
  · exact absurd hv List.not_mem_nil

/-- Rows of each of some keys: those of one of them. -/
theorem filter_flatMap_key {α β κ : Type} [DecidableEq κ] {k : α → κ} {key : β → κ} {f : α → List β}
    (hf : ∀ a, ∀ b ∈ f a, key b = k a) {a : α} : ∀ {l : List α}, (l.map k).Nodup → a ∈ l →
      ((l.flatMap f).filter fun b => key b = k a) = f a
  | c :: l, hl, ha => by
    obtain ⟨hnew, hl⟩ := List.nodup_cons.mp hl
    rw [List.flatMap_cons, List.filter_append]
    rcases List.mem_cons.mp ha with rfl | ha
    · have hrest : ((l.flatMap f).filter fun b => key b = k a) = [] := by
        refine List.filter_eq_nil_iff.mpr fun b hb hkey => hnew ?_
        obtain ⟨c, hc, hbc⟩ := List.mem_flatMap.mp hb
        rw [← of_decide_eq_true hkey, hf c b hbc]
        exact List.mem_map_of_mem hc
      rw [hrest, List.append_nil]
      exact List.filter_eq_self.mpr fun b hb => decide_eq_true (hf a b hb)
    · have hne : k c ≠ k a := fun heq => hnew (heq ▸ List.mem_map_of_mem ha)
      have hhead : ((f c).filter fun b => key b = k a) = [] :=
        List.filter_eq_nil_iff.mpr fun b hb => by simp [hf c b hb, hne]
      rw [hhead, List.nil_append]
      exact filter_flatMap_key hf hl ha

/-- The ancestor `k + 1` levels up, and its tag. -/
def Database.ancestorTag (db : Database τ) (e : Equipment τ) (k : ℕ) : Option τ :=
  ((db.climb (k + 1) e.id).bind db.row).map Equipment.tag

theorem mem_upSeed {matched : List (Equipment τ)} {u : Step} (hu : u ∈ upSeed matched) : u.depth = 1 := by
  obtain ⟨m, -, hu⟩ := List.mem_flatMap.mp hu
  obtain ⟨p, -, rfl⟩ := List.mem_map.mp hu
  rfl

theorem up_spec (db : Database τ) (matched : List (Equipment τ)) {fuel : ℕ} (hfuel : 6 ≤ fuel) :
    unionAll db.upNext fuel (upSeed matched) = some (levels db.upNext 7 (upSeed matched)) :=
  unionAll_spec (μ := fun u => 6 - u.depth) upNext_lower (fun u hu => by rw [mem_upSeed hu]; omega) hfuel

/-- The row of `up` at a level. -/
def Database.upRow (db : Database τ) (e : Equipment τ) (k : ℕ) : Option Step :=
  if k < 6 then (db.climb (k + 1) e.id).map fun y => ⟨e.id, y, k + 1⟩ else none

/-- The rows of `up` from one equipment, level by level. -/
theorem filter_up {matched : List (Equipment τ)} (hids : (matched.map Equipment.id).Nodup) {e : Equipment τ}
    (he : e ∈ matched) (hdb : e ∈ db.equipment) :
    ((levels db.upNext 7 (upSeed matched)).filter fun u => u.base = e.id) = (List.range 7).filterMap (db.upRow e) := by
  have hseed : ((upSeed matched).filter fun u => u.base = e.id) =
      e.parentEquipmentId.toList.map fun p => (⟨e.id, p, 1⟩ : Step) :=
    filter_flatMap_key (k := Equipment.id) (fun m u hu => by obtain ⟨p, -, rfl⟩ := List.mem_map.mp hu; rfl) hids he
  have hlevel : ∀ k, level db.upNext k (e.parentEquipmentId.toList.map fun p => (⟨e.id, p, 1⟩ : Step)) =
      (db.upRow e k).toList := by
    intro k
    rw [Database.upRow, Database.climb, parent_of_mem hdb]
    cases e.parentEquipmentId with
    | none =>
      rw [show ((none : Option Uuid).toList.map fun p => (⟨e.id, p, 1⟩ : Step)) = [] from rfl, level_nil]
      split_ifs <;> rfl
    | some p =>
      rw [show ((some p).toList.map fun p => (⟨e.id, p, 1⟩ : Step)) = [⟨e.id, p, 1⟩] from rfl,
        level_upNext k _ (by show 1 ≤ 6; omega), Option.bind_some]
      simp only [Nat.add_comm 1 k]
      by_cases hk : k < 6
      · rw [if_pos (by omega), if_pos hk]
        cases db.climb k p <;> rfl
      · rw [if_neg (by omega), if_neg hk]
        rfl
  rw [filter_levels base_of_upNext, hseed, levels, List.filterMap_eq_flatMap_toList]
  exact List.flatMap_congr fun k _ => hlevel k

theorem upRow_depth {e : Equipment τ} {k : ℕ} {u : Step} (h : db.upRow e k = some u) : u.depth = k + 1 := by
  rw [Database.upRow] at h
  split_ifs at h
  obtain ⟨y, -, rfl⟩ := Option.map_eq_some_iff.mp h
  rfl

theorem tags_of_row (u : Step) : ((db.equipment.filter fun pe => pe.id = u.id).map Equipment.tag) =
    ((db.row u.id).map Equipment.tag).toList := by
  rw [filter_key_eq u.id db.equipmentIds, Database.row]
  cases db.equipment.find? fun e => e.id = u.id <;> rfl

theorem tag_of_upRow {e : Equipment τ} {k : ℕ} (hk : k < 6) :
    (db.upRow e k).bind (fun u => (db.row u.id).map Equipment.tag) = db.ancestorTag e k := by
  rw [Database.upRow, if_pos hk, Database.ancestorTag]
  cases db.climb (k + 1) e.id <;> rfl

/-- **Ancestors.** -/
theorem chainUp_eq {matched : List (Equipment τ)} (hids : (matched.map Equipment.id).Nodup) {e : Equipment τ}
    (he : e ∈ matched) (hdb : e ∈ db.equipment) :
    db.chainUp (levels db.upNext 7 (upSeed matched)) e = (List.range 6).filterMap (db.ancestorTag e) := by
  have hsorted : ((List.range 7).filterMap (db.upRow e)).Pairwise fun u u' => u.depth ≤ u'.depth := by
    refine List.Pairwise.filterMap (db.upRow e) (fun k k' hk u hu u' hu' => ?_) (List.pairwise_lt_range (n := 7))
    rw [upRow_depth hu, upRow_depth hu']
    omega
  have hlast : db.upRow e 6 = none := rfl
  rw [Database.chainUp, filter_up hids he hdb, List.Pairwise.insertionSort_eq hsorted,
    List.flatMap_congr fun u _ => tags_of_row u, ← List.filterMap_eq_flatMap_toList, List.filterMap_filterMap,
    List.range_succ, List.filterMap_append, List.filterMap_cons_none (by rw [hlast]; rfl), List.filterMap_nil,
    List.append_nil]
  exact List.filterMap_congr fun k hk => tag_of_upRow (List.mem_range.mp hk)

/-! ## The walk down -/

theorem mem_downNext {d x : Step} :
    x ∈ db.downNext d ↔ db.parent x.id = some d.id ∧ x.base = d.base ∧ x.depth = d.depth + 1 ∧ d.depth < 6 := by
  simp only [Database.downNext, List.mem_map, List.mem_filter, Bool.and_eq_true, decide_eq_true_eq]
  constructor
  · rintro ⟨c, ⟨hc, hparent, hdepth⟩, rfl⟩
    exact ⟨(parent_of_mem hc).trans hparent, rfl, rfl, hdepth⟩
  · rintro ⟨hparent, hbase, hx, hdepth⟩
    obtain ⟨c, hc, hid, hp⟩ := parent_eq_some hparent
    refine ⟨c, ⟨hc, hp, hdepth⟩, ?_⟩
    rw [hid, ← hbase, ← hx]

theorem climb_zero {x i : Uuid} : db.climb 0 x = some i ↔ x = i := by rw [Database.climb, Option.some.injEq]

theorem climb_succ {k : ℕ} {x i : Uuid} :
    db.climb (k + 1) x = some i ↔ ∃ p, db.parent x = some p ∧ db.climb k p = some i := by
  rw [Database.climb, Option.bind_eq_some_iff]

/-- From one row of `down`, level by level. -/
theorem mem_level_downNext {s : Step} (hs : s.depth = 0) : ∀ (k : ℕ) {x : Step}, x ∈ level db.downNext k [s] ↔
    x.base = s.base ∧ x.depth = k ∧ k ≤ 6 ∧ db.climb k x.id = some s.id
  | 0, x => by
    rw [level, List.mem_singleton, climb_zero]
    constructor
    · rintro rfl
      exact ⟨rfl, hs, Nat.zero_le 6, rfl⟩
    · rintro ⟨hbase, hdepth, -, hid⟩
      cases x
      cases s
      simp_all
  | k + 1, x => by
    rw [level_succ, List.mem_flatMap, climb_succ]
    constructor
    · rintro ⟨w, hw, hx⟩
      obtain ⟨hbase, hdepth, -, hclimb⟩ := (mem_level_downNext hs k).mp hw
      obtain ⟨hparent, hxbase, hxdepth, hlt⟩ := mem_downNext.mp hx
      exact ⟨hxbase.trans hbase, by omega, by omega, w.id, hparent, hclimb⟩
    · rintro ⟨hbase, hdepth, hle, p, hparent, hclimb⟩
      refine ⟨⟨s.base, p, k⟩, (mem_level_downNext hs k).mpr ⟨rfl, rfl, by omega, hclimb⟩, ?_⟩
      exact mem_downNext.mpr ⟨hparent, hbase, hdepth, Nat.lt_of_succ_le hle⟩

theorem downNext_lower (d x : Step) (hx : x ∈ db.downNext d) : 6 - x.depth < 6 - d.depth := by
  obtain ⟨-, -, hdepth, hlt⟩ := mem_downNext.mp hx
  omega

theorem down_spec (db : Database τ) (matched : List (Equipment τ)) {fuel : ℕ} (hfuel : 7 ≤ fuel) :
    ∃ down, unionAll db.downNext fuel (downSeed matched) = some down ∧
      ∀ x, x ∈ down ↔ ∃ m ∈ matched, x.base = m.id ∧ x.depth ≤ 6 ∧ db.climb x.depth x.id = some m.id := by
  refine ⟨_, unionAll_spec (μ := fun x => 6 - x.depth) downNext_lower (fun x _ => by omega) hfuel, fun x => ?_⟩
  rw [levels, List.mem_flatMap]
  constructor
  · rintro ⟨k, -, hx⟩
    obtain ⟨s, hs, hx⟩ := mem_level_iff.mp hx
    obtain ⟨m, hm, rfl⟩ := List.mem_map.mp hs
    obtain ⟨hbase, hdepth, hle, hclimb⟩ := (mem_level_downNext rfl k).mp hx
    exact ⟨m, hm, hbase, hdepth ▸ hle, hdepth ▸ hclimb⟩
  · rintro ⟨m, hm, hbase, hle, hclimb⟩
    refine ⟨x.depth, List.mem_range.mpr (by omega), mem_level_iff.mpr ⟨⟨m.id, m.id, 0⟩, List.mem_map_of_mem hm, ?_⟩⟩
    exact (mem_level_downNext rfl x.depth).mpr ⟨hbase, rfl, hle, hclimb⟩

/-- The zone is served by the equipment, or by something at most six levels below it. -/
def Database.ServesBelow (db : Database τ) (e : Equipment τ) (zoneId : Uuid) : Prop :=
  ∃ s ∈ db.services, s.zoneId = zoneId ∧ ∃ k ≤ 6, db.climb k s.equipmentId = some e.id

/-- A row of `served` of an equipment. -/
def Database.ServedRow (db : Database τ) (e : Equipment τ) (v : Served τ) : Prop :=
  v.base = e.id ∧ ∃ z ∈ db.zones, ∃ f ∈ db.floors, f.id = z.floorId ∧ v.zoneId = z.id ∧ v.name = z.name ∧
    v.level = f.level ∧ db.ServesBelow e z.id

theorem mem_servedRows [LinearOrder τ] {matched : List (Equipment τ)} {e : Equipment τ} (he : e ∈ matched)
    {down : List Step}
    (hdown : ∀ x, x ∈ down ↔ ∃ m ∈ matched, x.base = m.id ∧ x.depth ≤ 6 ∧ db.climb x.depth x.id = some m.id)
    {v : Served τ} : (v ∈ db.servedRows down ∧ v.base = e.id) ↔ db.ServedRow e v := by
  simp only [Database.servedRows, List.mem_dedup, List.mem_flatMap, List.mem_map, List.mem_filter, decide_eq_true_eq]
  constructor
  · rintro ⟨⟨x, hx, s, ⟨hs, hsx⟩, z, ⟨hz, hzs⟩, f, ⟨hf, hfz⟩, rfl⟩, hbase⟩
    obtain ⟨m, -, hm, hle, hclimb⟩ := (hdown x).mp hx
    refine ⟨hbase, z, hz, f, hf, hfz, rfl, rfl, rfl, s, hs, hzs.symm, x.depth, hle, ?_⟩
    rw [hsx, hclimb, ← hm, ← hbase]
  · rintro ⟨hbase, z, hz, f, hf, hfz, hzone, hname, hlevel, s, hs, hsz, k, hk, hclimb⟩
    refine ⟨⟨⟨e.id, s.equipmentId, k⟩, (hdown _).mpr ⟨e, he, rfl, hk, hclimb⟩, s, ⟨hs, rfl⟩, z, ⟨hz, hsz.symm⟩, f,
      ⟨hf, hfz⟩, ?_⟩, hbase⟩
    cases v
    simp_all

/-! ## The answer -/

theorem newestLog_some {e : Equipment τ} {p : MaintenanceLog → Bool} {l : MaintenanceLog}
    (h : db.newestLog e p = some l) :
    l ∈ db.maintenanceLogs ∧ l.equipmentId = e.id ∧ p l = true ∧
      ∀ l' ∈ db.maintenanceLogs, l'.equipmentId = e.id → p l' = true → l'.performedAt ≤ l.performedAt := by
  have hnewest := isNewest_newest h
  obtain ⟨hl, hp⟩ := List.mem_filter.mp hnewest.mem
  obtain ⟨hid, hp⟩ := Bool.and_eq_true_iff.mp hp
  refine ⟨hl, of_decide_eq_true hid, hp, fun l' hl' hid' hp' => hnewest.le l' (List.mem_filter.mpr ⟨hl', ?_⟩)⟩
  rw [decide_eq_true hid', hp']
  rfl

theorem newestLog_none {e : Equipment τ} {p : MaintenanceLog → Bool} :
    db.newestLog e p = none ↔ ∀ l ∈ db.maintenanceLogs, l.equipmentId = e.id → p l = false := by
  rw [Database.newestLog, newest_eq_none, List.filter_eq_nil_iff]
  simp

/-- The zone says its name and its floor. -/
theorem servedRow_unique {e : Equipment τ} {v v' : Served τ} (h : db.ServedRow e v) (h' : db.ServedRow e v')
    (hzone : v.zoneId = v'.zoneId) : v = v' := by
  obtain ⟨hbase, z, hz, f, hf, hfz, hv, hname, hlevel, -⟩ := h
  obtain ⟨hbase', z', hz', f', hf', hfz', hv', hname', hlevel', -⟩ := h'
  obtain rfl := eq_of_id_eq db.zoneIds hz hz' (by rw [← hv, hzone, hv'])
  obtain rfl := eq_of_id_eq db.floorIds hf hf' (hfz.trans hfz'.symm)
  cases v
  cases v'
  simp_all

theorem statusRow_floor {e : Equipment τ} {name : τ} :
    ((db.floors.find? fun f => some f.id = e.floorId).map Floor.name) = some name ↔
      ∃ f ∈ db.floors, e.floorId = some f.id ∧ f.name = name := by
  rw [Option.map_eq_some_iff]
  constructor
  · rintro ⟨f, hf, hname⟩
    have hid := List.find?_some hf
    exact ⟨f, List.mem_of_find?_eq_some hf, (of_decide_eq_true hid).symm, hname⟩
  · rintro ⟨f, hf, hid, hname⟩
    obtain ⟨f', hf'⟩ := Option.isSome_iff_exists.mp (List.find?_isSome.mpr ⟨f, hf, decide_eq_true hid.symm⟩ :
      (db.floors.find? fun x => some x.id = e.floorId).isSome = true)
    have hid' := List.find?_some hf'
    have hsame : some f'.id = some f.id := (of_decide_eq_true hid').trans hid
    obtain rfl := eq_of_id_eq db.floorIds (List.mem_of_find?_eq_some hf') hf (Option.some.inj hsame)
    exact ⟨_, hf', hname⟩

theorem rejoin {matched : List (Equipment τ)} (hdb : ∀ e ∈ matched, e ∈ db.equipment) :
    (matched.flatMap fun m => db.equipment.filter fun e => e.id = m.id) = matched := by
  have hone : ∀ m ∈ matched, (db.equipment.filter fun e => e.id = m.id) = [m] := by
    intro m hm
    rw [filter_key_eq m.id db.equipmentIds]
    exact congrArg Option.toList (row_of_mem (hdb m hm))
  rw [List.flatMap_congr hone, List.flatMap_singleton']

variable [LinearOrder τ]

/-- The row of an equipment. -/
structure Database.RowFor (db : Database τ) (now : ℤ) (e : Equipment τ) (r : EquipmentStatusRow τ) : Prop where
  tag : r.tag = e.tag
  type : r.type = e.equipmentType
  status : r.status = e.status
  ratedAirflowCmh : r.ratedAirflowCmh = e.ratedAirflowCmh
  floor : ∀ name, r.floor = some name ↔ ∃ f ∈ db.floors, e.floorId = some f.id ∧ f.name = name
  chainUp : r.chainUp = (List.range 6).filterMap (db.ancestorTag e)
  zones : ∃ vs : List (Served τ), (vs.map Served.zoneId).Nodup ∧ (vs.Pairwise fun v v' => v.place ≤ v'.place) ∧
    (∀ v, v ∈ vs ↔ db.ServedRow e v) ∧ r.zonesServed = (vs.take 8).map Served.name ∧ r.zonesServedCount = vs.length
  lastMaintenance : ∀ m, r.lastMaintenance = some m → ∃ l ∈ db.maintenanceLogs, l.equipmentId = e.id ∧ m = l.last ∧
    ∀ l' ∈ db.maintenanceLogs, l'.equipmentId = e.id → l'.performedAt ≤ l.performedAt
  maintained : r.lastMaintenance = none ↔ ∀ l ∈ db.maintenanceLogs, l.equipmentId ≠ e.id
  nextDueAt : ∀ due, r.nextDueAt = some due → ∃ l ∈ db.maintenanceLogs, l.equipmentId = e.id ∧ l.nextDueAt = some due ∧
    ∀ l' ∈ db.maintenanceLogs, l'.equipmentId = e.id → l'.nextDueAt.isSome → l'.performedAt ≤ l.performedAt
  due : r.nextDueAt = none ↔ ∀ l ∈ db.maintenanceLogs, l.equipmentId = e.id → l.nextDueAt = none
  overdue : r.overdue = true ↔ ∃ due, r.nextDueAt = some due ∧ due < now

theorem rowFor_statusRow {matched : List (Equipment τ)} (hids : (matched.map Equipment.id).Nodup) {e : Equipment τ}
    (he : e ∈ matched) (hdb : e ∈ db.equipment) (now : ℤ) {down : List Step}
    (hdown : ∀ x, x ∈ down ↔ ∃ m ∈ matched, x.base = m.id ∧ x.depth ≤ 6 ∧ db.climb x.depth x.id = some m.id) :
    db.RowFor now e (db.statusRow now (levels db.upNext 7 (upSeed matched)) (db.servedRows down) e) where
  tag := rfl
  type := rfl
  status := rfl
  ratedAirflowCmh := rfl
  floor _ := statusRow_floor
  chainUp := chainUp_eq hids he hdb
  zones := by
    let rows := (db.servedRows down).filter fun v => v.base = e.id
    let vs := rows.insertionSort fun v v' => v.place ≤ v'.place
    have hsorted : vs.Pairwise fun v v' => v.place ≤ v'.place := List.pairwise_insertionSort _ rows
    have hmem : ∀ v, v ∈ vs ↔ db.ServedRow e v := by
      intro v
      rw [List.mem_insertionSort, List.mem_filter, decide_eq_true_eq]
      exact mem_servedRows he hdown
    have hnodup : vs.Nodup := (List.perm_insertionSort _ rows).nodup_iff.mpr ((List.nodup_dedup _).filter _)
    refine ⟨vs, ?_, hsorted, hmem, ?_, (List.length_insertionSort _ rows).symm⟩
    · exact hnodup.map_on fun v hv v' hv' => servedRow_unique ((hmem v).mp hv) ((hmem v').mp hv')
    · show ((vs.take 8).insertionSort fun v v' => v.place ≤ v'.place).map Served.name = _
      rw [List.Pairwise.insertionSort_eq (hsorted.sublist (List.take_sublist 8 vs))]
  lastMaintenance m hm := by
    obtain ⟨l, hl, rfl⟩ := Option.map_eq_some_iff.mp hm
    obtain ⟨hmem, hid, -, hle⟩ := newestLog_some hl
    exact ⟨l, hmem, hid, rfl, fun l' hl' hid' => hle l' hl' hid' rfl⟩
  maintained := by
    show (db.newestLog e fun _ => true).map MaintenanceLog.last = none ↔ _
    rw [Option.map_eq_none_iff, newestLog_none]
    simp
  nextDueAt due hdue := by
    obtain ⟨l, hl, hsome⟩ := Option.bind_eq_some_iff.mp hdue
    obtain ⟨hmem, hid, -, hle⟩ := newestLog_some hl
    exact ⟨l, hmem, hid, hsome, hle⟩
  due := by
    show (db.newestLog e fun l => l.nextDueAt.isSome).bind MaintenanceLog.nextDueAt = none ↔ _
    constructor
    · intro hnone
      cases hl : db.newestLog e fun l => l.nextDueAt.isSome with
      | none => exact fun l hmem hid => by simpa using newestLog_none.mp hl l hmem hid
      | some l =>
        obtain ⟨-, -, hsome, -⟩ := newestLog_some hl
        rw [hl, Option.bind_some] at hnone
        rw [hnone] at hsome
        cases hsome
    · intro hall
      rw [newestLog_none.mpr fun l hmem hid => by rw [hall l hmem hid]; rfl, Option.bind_none]
  overdue := by
    show (Option.any (· < now) _) = true ↔ _
    rw [Option.any_eq_true]
    simp only [decide_eq_true_eq]
    rfl

/-- What a query asks for. -/
def Database.Asked (db : Database τ) (q : Query τ) (e : Equipment τ) : Prop :=
  e ∈ db.equipment ∧ e.buildingId = q.buildingId ∧ (∀ t ∈ q.tag, e.tag = t) ∧ ∀ z ∈ q.zoneId, db.Serves e.id z

/-- The chain of the query, if it asks for a zone. -/
def Database.Chain (db : Database τ) (q : Query τ) (chain : Option (List Uuid)) : Prop :=
  (q.zoneId = none ∧ chain = none) ∨ ∃ z ids, q.zoneId = some z ∧ chain = some ids ∧ ∀ id, id ∈ ids ↔ db.Serves id z

theorem mem_candidates {q : Query τ} {chain : Option (List Uuid)} (hchain : db.Chain q chain) {e : Equipment τ} :
    e ∈ db.candidates q chain ↔ db.Asked q e := by
  rw [Database.candidates, List.mem_insertionSort, List.mem_filter]
  simp only [Bool.and_eq_true, decide_eq_true_eq, Option.all_eq_true, Database.Asked, and_assoc]
  rcases hchain with ⟨hzone, rfl⟩ | ⟨z, ids, hzone, rfl, hids⟩
  · simp [hzone]
  · simp [hzone, hids]

/-- A building has each tag once. -/
theorem candidates_pairwise {q : Query τ} {chain : Option (List Uuid)} :
    (db.candidates q chain).Pairwise fun e e' => e.tag < e'.tag := by
  let asked := db.equipment.filter fun e => e.buildingId = q.buildingId && q.tag.all (e.tag = ·) && chain.all (e.id ∈ ·)
  have htags : (asked.map Equipment.tag).Nodup := by
    have hkeys : (asked.map fun e => (e.buildingId, e.tag)).Nodup := db.tags.sublist (List.filter_sublist.map _)
    refine (List.Nodup.of_map _ hkeys).map_on fun e he e' he' htag => ?_
    refine List.inj_on_of_nodup_map hkeys he he' ?_
    have hbuilding : ∀ e ∈ asked, e.buildingId = q.buildingId := by
      intro e he
      have hkept := (List.mem_filter.mp he).2
      simp only [Bool.and_eq_true, decide_eq_true_eq] at hkept
      exact hkept.1.1
    rw [hbuilding e he, hbuilding e' he', htag]
  have hsorted : (db.candidates q chain).Pairwise fun e e' => e.tag ≤ e'.tag := List.pairwise_insertionSort _ asked
  have hnodup : ((db.candidates q chain).map Equipment.tag).Nodup :=
    ((List.perm_insertionSort _ asked).map _).nodup_iff.mpr htags
  refine (hsorted.and (List.pairwise_map.mp hnodup)).imp fun h => lt_of_le_of_ne h.1 h.2

theorem statusRows_spec (db : Database τ) {q : Query τ} {chain : Option (List Uuid)} (hchain : db.Chain q chain)
    (now : ℤ) {fuel : ℕ} (hfuel : 7 ≤ fuel) : ∃ rows, db.statusRows fuel now (db.matched q chain) = some rows ∧
      List.Forall₂ (db.RowFor now) (db.matched q chain) rows := by
  have hdb : ∀ e ∈ db.matched q chain, e ∈ db.equipment := fun e he =>
    ((mem_candidates hchain).mp (List.mem_of_mem_take he)).1
  have hsorted : (db.matched q chain).Pairwise fun e e' => e.tag ≤ e'.tag :=
    (candidates_pairwise.sublist (List.take_sublist _ _)).imp le_of_lt
  have hids : ((db.matched q chain).map Equipment.id).Nodup := by
    have hnodup : (db.matched q chain).Nodup :=
      (candidates_pairwise.sublist (List.take_sublist _ _)).imp fun h heq => absurd (congrArg Equipment.tag heq) h.ne
    exact hnodup.map_on fun e he e' he' hid => chainRow_eq (hdb e he) (hdb e' he') hid
  obtain ⟨down, hdown, hmem⟩ := down_spec db (db.matched q chain) hfuel
  refine ⟨_, ?_, List.forall₂_map_right_iff.mpr (List.forall₂_same.mpr fun e he =>
    rowFor_statusRow hids he (hdb e he) now hmem)⟩
  rw [Database.statusRows, up_spec db _ (by omega), Option.bind_some, hdown, Option.map_some, rejoin hdb,
    List.Pairwise.insertionSort_eq hsorted]

/-- **What the register answers**: the first `limit` of what is asked for by tag, a row each, and how many there are. -/
theorem equipment_status_exact (db : Database τ) (now : ℤ) (q : Query τ) (hone : q.tag = none ∨ q.zoneId = none)
    {fuel : ℕ} (hfuel : max db.equipment.length 6 < fuel) :
    ∃ (answer : Capped (EquipmentStatusRow τ)) (asked : List (Equipment τ)),
      copilotEquipmentStatus db fuel now q = .ok answer ∧ (∀ e, e ∈ asked ↔ db.Asked q e) ∧
      (asked.Pairwise fun e e' => e.tag < e'.tag) ∧ List.Forall₂ (db.RowFor now) (asked.take q.limit) answer.items ∧
      (0 < q.limit → answer.total = asked.length ∧ (answer.truncated = true ↔ q.limit < asked.length)) := by
  obtain ⟨hlength, hsix⟩ := max_lt_iff.mp hfuel
  have hrefused : (q.tag.isSome && q.zoneId.isSome) = false := by rcases hone with h | h <;> simp [h]
  suffices h : ∃ chain, db.Chain q chain ∧ copilotEquipmentStatus db fuel now q =
      (db.statusRows fuel now (db.matched q chain)).elim (.error .unfinished) fun rows =>
        .ok (capped rows (if rows = [] then 0 else (db.candidates q chain).length) q.limit) by
    obtain ⟨chain, hchain, heq⟩ := h
    obtain ⟨rows, hrows, hfor⟩ := statusRows_spec db hchain now hsix
    refine ⟨capped rows (if rows = [] then 0 else (db.candidates q chain).length) q.limit, db.candidates q chain,
      by rw [heq, hrows]; rfl, fun e => mem_candidates hchain, candidates_pairwise, hfor, fun hlimit => ?_⟩
    have hlen : (min q.limit (db.candidates q chain).length) = rows.length := by
      rw [← List.length_take]
      exact hfor.length_eq
    have htotal : (if rows = [] then 0 else (db.candidates q chain).length) = (db.candidates q chain).length := by
      split_ifs with hnil
      · rw [hnil, List.length_nil] at hlen
        omega
      · rfl
    rw [htotal]
    refine ⟨rfl, ?_⟩
    show (decide (rows.length < (db.candidates q chain).length)) = true ↔ _
    rw [decide_eq_true_eq]
    omega
  rw [copilotEquipmentStatus, hrefused]
  cases hzone : q.zoneId with
  | none => exact ⟨none, Or.inl ⟨hzone, rfl⟩, rfl⟩
  | some z =>
    obtain ⟨chain, hserving, -, hids⟩ := serving_exact db z hlength
    refine ⟨some (chain.map Prod.fst), Or.inr ⟨z, _, hzone, rfl, hids⟩, ?_⟩
    simp only [hserving]
    rfl

/-- Of the two that serve a zone the first is answered: six times round its circle, and what both of them serve. -/
theorem equipment_status_exact_loop : ∃ (answer : Capped (EquipmentStatusRow ℕ)) (asked : List (Equipment ℕ)),
    copilotEquipmentStatus Example.plant 7 10 ⟨none, some 30, 1, 10⟩ = .ok answer ∧ asked.length = 2 ∧
      answer.truncated = true ∧ List.Forall₂ (Example.plant.RowFor 10) (asked.take 1) answer.items ∧
      answer.items.map EquipmentStatusRow.chainUp = [[102, 101, 102, 101, 102, 101]] ∧
      answer.items.map EquipmentStatusRow.zonesServed = [[300, 301]] ∧
      answer.items.map EquipmentStatusRow.nextDueAt = [some 9] := by
  obtain ⟨answer, asked, hanswer, -, -, hrows, hcount⟩ :=
    equipment_status_exact Example.plant 10 ⟨none, some 30, 1, 10⟩ (Or.inl rfl) (show 6 < 7 by decide)
  obtain ⟨htotal, htruncated⟩ := hcount Nat.one_pos
  have hrun : ∃ a, copilotEquipmentStatus Example.plant 7 10 ⟨none, some 30, 1, 10⟩ = .ok a ∧ a.total = 2 ∧
      a.items.map EquipmentStatusRow.chainUp = [[102, 101, 102, 101, 102, 101]] ∧
      a.items.map EquipmentStatusRow.zonesServed = [[300, 301]] ∧ a.items.map EquipmentStatusRow.nextDueAt = [some 9] :=
    ⟨_, rfl, by decide +kernel, by decide +kernel, by decide +kernel, by decide +kernel⟩
  obtain ⟨a, ha, hatotal, hchain, hzones, hdue⟩ := hrun
  obtain rfl : answer = a := Except.ok.inj (hanswer.symm.trans ha)
  have htwo : asked.length = 2 := htotal.symm.trans hatotal
  exact ⟨answer, asked, hanswer, htwo, htruncated.mpr (htwo ▸ Nat.one_lt_two), hrows, hchain, hzones, hdue⟩

end DTwin.Db.Plant
