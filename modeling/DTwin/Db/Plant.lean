import DTwin.Db.Tables
import DTwin.Lib.Latest
import DTwin.Lib.Recursive
import DTwin.Lib.Table
import DTwin.Types.Spatial
import Mathlib.Data.List.Sort
import Mathlib.Data.Prod.Lex
import Mathlib.Algebra.Order.Ring.Rat

/-!
# DTwin.Db.Plant — the plant that serves a zone

`copilotEquipmentStatus` of `packages/db/src/queries/copilot.ts` with its recursive queries, the first of which
`copilotZoneTimeline` has too, as `serving`.  `parent_equipment_id` is any column that its constraints allow: it may
lead round in a circle.  Texts are of a type `τ` in the order of the database's collation; instants are in
microseconds.

`serving_exact`: the walk up ends, and finds what serves the zone and its ancestors, each once.
-/

namespace DTwin.Db.Plant

open Recursive Relation Table Latest Tables

/-! ## The tables -/

structure Equipment (τ : Type) where
  id : Uuid
  buildingId : Uuid
  floorId : Option Uuid
  parentEquipmentId : Option Uuid
  tag : τ
  equipmentType : EquipmentType
  status : EquipmentStatus
  ratedAirflowCmh : Option ℚ
deriving DecidableEq

/-- A row of `equipment_zone_service`. -/
structure Service where
  equipmentId : Uuid
  zoneId : Uuid
deriving DecidableEq

inductive MaintenanceType | preventive | corrective | inspection | calibration | replacement
deriving DecidableEq

structure MaintenanceLog where
  equipmentId : Uuid
  performedAt : ℤ
  logType : MaintenanceType
  downtimeMinutes : Option ℕ
  notes : Option (List Char)
  nextDueAt : Option ℤ
deriving DecidableEq

/-- The tables, with their keys. -/
structure Database (τ : Type) extends Places Uuid τ where
  equipment : List (Equipment τ)
  services : List Service
  maintenanceLogs : List MaintenanceLog
  equipmentIds : (equipment.map Equipment.id).Nodup
  parents : ∀ e ∈ equipment, ∀ p ∈ e.parentEquipmentId, p ∈ equipment.map Equipment.id
  tags : (equipment.map fun e => (e.buildingId, e.tag)).Nodup
  serviceKeys : services.Nodup
  servers : ∀ s ∈ services, s.equipmentId ∈ equipment.map Equipment.id
  served : ∀ s ∈ services, s.zoneId ∈ zones.map Zone.id

variable {τ : Type}

/-! ## The walk up from a zone -/

/-- A row of `chain`, or of `serving`. -/
abbrev ChainRow := Uuid × Option Uuid

def Equipment.chainRow (e : Equipment τ) : ChainRow := (e.id, e.parentEquipmentId)

/-- The first term. -/
def Database.direct (db : Database τ) (zoneId : Uuid) : List ChainRow :=
  db.equipment.flatMap fun e => (db.services.filter fun s => s.equipmentId = e.id ∧ s.zoneId = zoneId).map fun _ =>
    e.chainRow

/-- The second term, for a row of `chain`. -/
def Database.parentsOf (db : Database τ) (c : ChainRow) : List ChainRow :=
  (db.equipment.filter fun p => some p.id = c.2).map Equipment.chainRow

def Database.serving (db : Database τ) (fuel : ℕ) (zoneId : Uuid) : Option (List ChainRow) :=
  union db.parentsOf fuel (db.direct zoneId)

/-! ## The statement -/

def UNTRUSTED_TEXT_CHARS : ℕ := 300

structure Query (τ : Type) where
  tag : Option τ
  zoneId : Option Uuid
  limit : ℕ
  buildingId : Uuid

structure LastMaintenance where
  performedAt : ℤ
  logType : MaintenanceType
  downtimeMin : Option ℕ
  notesUntrusted : Option (List Char)
  notesTruncated : Bool
deriving DecidableEq

structure EquipmentStatusRow (τ : Type) where
  tag : τ
  type : EquipmentType
  status : EquipmentStatus
  floor : Option τ
  chainUp : List τ
  zonesServed : List τ
  zonesServedCount : ℕ
  ratedAirflowCmh : Option ℚ
  lastMaintenance : Option LastMaintenance
  nextDueAt : Option ℤ
  overdue : Bool
deriving DecidableEq

/-- A capped list, and the truth about the cap. -/
structure Capped (α : Type) where
  items : List α
  total : ℕ
  limit : ℕ
  truncated : Bool
deriving DecidableEq

def capped {α : Type} (items : List α) (total limit : ℕ) : Capped α := ⟨items, total, limit, items.length < total⟩

inductive Failure
  | rangeError (message : String)
  /-- A recursive query has not ended. -/
  | unfinished
deriving DecidableEq

/-- A row of `up` and of `down`. -/
structure Step where
  base : Uuid
  id : Uuid
  depth : ℕ
deriving DecidableEq

section Statement

variable [LinearOrder τ] (db : Database τ)

/-- `matched` before its limit; `chain` is the list of the ids of the zone's chain, if a zone is asked for. -/
def Database.candidates (q : Query τ) (chain : Option (List Uuid)) : List (Equipment τ) :=
  (db.equipment.filter fun e => e.buildingId = q.buildingId && q.tag.all (e.tag = ·) &&
    chain.all (e.id ∈ ·)).insertionSort fun e e' => e.tag ≤ e'.tag

def Database.matched (q : Query τ) (chain : Option (List Uuid)) : List (Equipment τ) :=
  (db.candidates q chain).take q.limit

def upSeed (matched : List (Equipment τ)) : List Step :=
  matched.flatMap fun m => m.parentEquipmentId.toList.map fun p => ⟨m.id, p, 1⟩

def Database.upNext (u : Step) : List Step :=
  (db.equipment.filter fun p => p.id = u.id && u.depth < 6).flatMap fun p =>
    p.parentEquipmentId.toList.map fun g => ⟨u.base, g, u.depth + 1⟩

def downSeed (matched : List (Equipment τ)) : List Step := matched.map fun m => ⟨m.id, m.id, 0⟩

def Database.downNext (d : Step) : List Step :=
  (db.equipment.filter fun c => c.parentEquipmentId = some d.id && d.depth < 6).map fun c => ⟨d.base, c.id, d.depth + 1⟩

/-- A row of `served`. -/
structure Served (τ : Type) where
  base : Uuid
  zoneId : Uuid
  name : τ
  level : ℤ
deriving DecidableEq

def Database.servedRows (down : List Step) : List (Served τ) :=
  (down.flatMap fun d => (db.services.filter fun s => s.equipmentId = d.id).flatMap fun s =>
    (db.zones.filter fun z => z.id = s.zoneId).flatMap fun z =>
      (db.floors.filter fun f => f.id = z.floorId).map fun f => (⟨d.base, z.id, z.name, f.level⟩ : Served τ)).dedup

def Served.place (v : Served τ) : ℤ ×ₗ τ := toLex (v.level, v.name)

/-- `array_agg(pe.tag ORDER BY u.depth)`, or nothing. -/
def Database.chainUp (up : List Step) (e : Equipment τ) : List τ :=
  ((up.filter fun u => u.base = e.id).insertionSort fun u u' => u.depth ≤ u'.depth).flatMap fun u =>
    (db.equipment.filter fun pe => pe.id = u.id).map Equipment.tag

def zonesServed (served : List (Served τ)) (e : Equipment τ) : List τ :=
  ((((served.filter fun v => v.base = e.id).insertionSort fun v v' => v.place ≤ v'.place).take 8).insertionSort
    fun v v' => v.place ≤ v'.place).map Served.name

def MaintenanceLog.last (l : MaintenanceLog) : LastMaintenance where
  performedAt := l.performedAt
  logType := l.logType
  downtimeMin := l.downtimeMinutes
  notesUntrusted := l.notes.map (List.take UNTRUSTED_TEXT_CHARS)
  notesTruncated := l.notes.any fun n => UNTRUSTED_TEXT_CHARS < n.length

/-- The newest log of the equipment among some. -/
def Database.newestLog (e : Equipment τ) (p : MaintenanceLog → Bool) : Option MaintenanceLog :=
  newest MaintenanceLog.performedAt (db.maintenanceLogs.filter fun l => l.equipmentId = e.id && p l)

def Database.statusRow (now : ℤ) (up : List Step) (served : List (Served τ)) (e : Equipment τ) : EquipmentStatusRow τ :=
  let nextDueAt := (db.newestLog e fun l => l.nextDueAt.isSome).bind MaintenanceLog.nextDueAt
  { tag := e.tag
    type := e.equipmentType
    status := e.status
    floor := (db.floors.find? fun f => some f.id = e.floorId).map Floor.name
    chainUp := db.chainUp up e
    zonesServed := zonesServed served e
    zonesServedCount := (served.filter fun v => v.base = e.id).length
    ratedAirflowCmh := e.ratedAirflowCmh
    lastMaintenance := (db.newestLog e fun _ => true).map MaintenanceLog.last
    nextDueAt := nextDueAt
    overdue := nextDueAt.any (· < now) }

/-- The rows of the statement, of what is matched. -/
def Database.statusRows (fuel : ℕ) (now : ℤ) (matched : List (Equipment τ)) : Option (List (EquipmentStatusRow τ)) :=
  (unionAll db.upNext fuel (upSeed matched)).bind fun up =>
    (unionAll db.downNext fuel (downSeed matched)).map fun down =>
      ((matched.flatMap fun m => db.equipment.filter fun e => e.id = m.id).insertionSort fun e e' => e.tag ≤ e'.tag).map
        (db.statusRow now up (db.servedRows down))

def copilotEquipmentStatus (fuel : ℕ) (now : ℤ) (q : Query τ) : Except Failure (Capped (EquipmentStatusRow τ)) :=
  if q.tag.isSome && q.zoneId.isSome then .error (.rangeError "equipment status takes a tag or a zone, not both")
  else
    let answer := fun chain =>
      (db.statusRows fuel now (db.matched q chain)).elim (.error .unfinished) fun rows =>
        .ok (capped rows (if rows = [] then 0 else (db.candidates q chain).length) q.limit)
    match q.zoneId with
    | none => answer none
    | some zoneId =>
      match db.serving fuel zoneId with
      | none => .error .unfinished
      | some chain => answer (some (chain.map Prod.fst))

end Statement

/-! ## The walk up ends -/

/-- The column: `b` is the parent of `a`. -/
def Database.ParentOf (db : Database τ) (a b : Uuid) : Prop :=
  ∃ e ∈ db.equipment, e.id = a ∧ e.parentEquipmentId = some b

/-- What serves a zone: what a row of `equipment_zone_service` says, and its ancestors. -/
def Database.Serves (db : Database τ) (id zoneId : Uuid) : Prop :=
  ∃ s ∈ db.services, s.zoneId = zoneId ∧ ReflTransGen db.ParentOf s.equipmentId id

variable {db : Database τ}

theorem mem_direct {zoneId : Uuid} {c : ChainRow} :
    c ∈ db.direct zoneId ↔
      ∃ e ∈ db.equipment, e.chainRow = c ∧ ∃ s ∈ db.services, s.equipmentId = e.id ∧ s.zoneId = zoneId := by
  simp only [Database.direct, List.mem_flatMap, List.mem_map, List.mem_filter, decide_eq_true_eq]
  constructor
  · rintro ⟨e, he, s, ⟨hs, hequipment, hzone⟩, rfl⟩
    exact ⟨e, he, rfl, s, hs, hequipment, hzone⟩
  · rintro ⟨e, he, rfl, s, hs, hequipment, hzone⟩
    exact ⟨e, he, s, ⟨hs, hequipment, hzone⟩, rfl⟩

theorem mem_parentsOf {c p : ChainRow} : p ∈ db.parentsOf c ↔ ∃ e ∈ db.equipment, e.chainRow = p ∧ some e.id = c.2 := by
  simp only [Database.parentsOf, List.mem_map, List.mem_filter, decide_eq_true_eq]
  constructor
  · rintro ⟨e, ⟨he, hid⟩, rfl⟩
    exact ⟨e, he, rfl, hid⟩
  · rintro ⟨e, he, rfl, hid⟩
    exact ⟨e, ⟨he, hid⟩, rfl⟩

/-- The row that a chain has of an equipment. -/
theorem chainRow_eq {e e' : Equipment τ} (he : e ∈ db.equipment) (he' : e' ∈ db.equipment) (hid : e.id = e'.id) :
    e = e' :=
  eq_of_id_eq db.equipmentIds he he' hid

theorem exists_row {id : Uuid} (hid : id ∈ db.equipment.map Equipment.id) : ∃ e ∈ db.equipment, e.id = id := by
  obtain ⟨e, he, rfl⟩ := List.mem_map.mp hid
  exact ⟨e, he, rfl⟩

theorem exists_of_serves {id zoneId : Uuid} (h : db.Serves id zoneId) : ∃ e ∈ db.equipment, e.id = id := by
  obtain ⟨s, hs, -, hclimb⟩ := h
  induction hclimb with
  | refl => exact exists_row (db.servers s hs)
  | tail _ hparent =>
    obtain ⟨e, he, -, hp⟩ := hparent
    exact exists_row (db.parents e he _ hp)

/-- What is reached row by row is reached parent by parent. -/
theorem reached_iff {zoneId : Uuid} {c : ChainRow} :
    Reached db.parentsOf (db.direct zoneId) c ↔ ∃ e ∈ db.equipment, e.chainRow = c ∧ db.Serves e.id zoneId := by
  constructor
  · rintro ⟨r, hr, hsteps⟩
    induction hsteps with
    | refl =>
      obtain ⟨e, he, hrow, s, hs, hequipment, hzone⟩ := mem_direct.mp hr
      exact ⟨e, he, hrow, s, hs, hzone, hequipment ▸ .refl⟩
    | tail _ hstep ih =>
      obtain ⟨e, he, rfl, s, hs, hzone, hclimb⟩ := ih
      obtain ⟨p, hp, hrow, hid⟩ := mem_parentsOf.mp hstep
      exact ⟨p, hp, hrow, s, hs, hzone, hclimb.tail ⟨e, he, rfl, hid.symm⟩⟩
  · rintro ⟨e, he, rfl, s, hs, hzone, hclimb⟩
    obtain ⟨e₀, he₀, hid₀⟩ := exists_row (db.servers s hs)
    rw [← hid₀] at hclimb
    suffices h : ∀ {a b}, ReflTransGen db.ParentOf a b → a = e₀.id → ∀ e ∈ db.equipment, e.id = b →
        Reached db.parentsOf (db.direct zoneId) e.chainRow from h hclimb rfl e he rfl
    rintro a b hab rfl
    induction hab with
    | refl =>
      intro e he hid
      obtain rfl := chainRow_eq he he₀ hid
      exact ⟨_, mem_direct.mpr ⟨e, he, rfl, s, hs, hid₀.symm, hzone⟩, .refl⟩
    | tail _ hparent ih =>
      intro e he hid
      obtain ⟨c, hc, hcid, hcparent⟩ := hparent
      obtain ⟨r, hr, hsteps⟩ := ih c hc hcid
      exact ⟨r, hr, hsteps.tail (mem_parentsOf.mpr ⟨e, he, rfl, by rw [hid]; exact hcparent.symm⟩)⟩

/-- **The chain of a zone** ends, though its parents may lead round in a circle, and is what serves the zone and its
ancestors, each once. -/
theorem serving_exact (db : Database τ) (zoneId : Uuid) {fuel : ℕ} (hfuel : db.equipment.length < fuel) :
    ∃ chain, db.serving fuel zoneId = some chain ∧ (chain.map Prod.fst).Nodup ∧
      ∀ id, id ∈ chain.map Prod.fst ↔ db.Serves id zoneId := by
  have hrows : ∀ c ∈ db.equipment.map Equipment.chainRow, ∀ p ∈ db.parentsOf c,
      p ∈ db.equipment.map Equipment.chainRow := by
    intro c _ p hp
    obtain ⟨e, he, rfl, -⟩ := mem_parentsOf.mp hp
    exact List.mem_map_of_mem he
  have hseed : ∀ c ∈ db.direct zoneId, c ∈ db.equipment.map Equipment.chainRow := by
    intro c hc
    obtain ⟨e, he, rfl, -⟩ := mem_direct.mp hc
    exact List.mem_map_of_mem he
  obtain ⟨chain, hchain, hnodup, hmem⟩ := union_spec hrows hseed (by rwa [List.length_map])
  have hrow : ∀ c, c ∈ chain ↔ ∃ e ∈ db.equipment, e.chainRow = c ∧ db.Serves e.id zoneId := fun c =>
    (hmem c).trans reached_iff
  refine ⟨chain, hchain, hnodup.map_on fun a ha b hb hab => ?_, fun id => ?_⟩
  · obtain ⟨e, he, rfl, -⟩ := (hrow a).mp ha
    obtain ⟨e', he', rfl, -⟩ := (hrow b).mp hb
    rw [chainRow_eq he he' hab]
  · constructor
    · intro hid
      obtain ⟨c, hc, rfl⟩ := List.mem_map.mp hid
      obtain ⟨e, -, rfl, hserves⟩ := (hrow c).mp hc
      exact hserves
    · intro hserves
      obtain ⟨e, he, rfl⟩ := exists_of_serves hserves
      exact List.mem_map.mpr ⟨e.chainRow, (hrow _).mpr ⟨e, he, rfl, hserves⟩, rfl⟩

namespace Example

/-- Two air handlers, each the parent of the other. -/
def handlers : List (Equipment ℕ) :=
  [⟨1, 10, some 20, some 2, 101, .ahu, .operational, some 5400⟩, ⟨2, 10, none, some 1, 102, .ahu, .degraded, none⟩]

theorem handlers_parents : ∀ e ∈ handlers, ∀ p ∈ e.parentEquipmentId, p ∈ handlers.map Equipment.id := by decide

theorem handlers_ids : (handlers.map Equipment.id).Nodup := by decide

theorem handlers_tags : (handlers.map fun e => (e.buildingId, e.tag)).Nodup := by decide

def services : List Service := [⟨1, 30⟩, ⟨2, 31⟩]

theorem services_keys : services.Nodup := by decide

theorem services_servers : ∀ s ∈ services, s.equipmentId ∈ handlers.map Equipment.id := by decide

def places : Places Uuid ℕ where
  floors := [⟨20, 10, 1, 200⟩]
  zones := [⟨30, 20, 301, none, none⟩, ⟨31, 20, 300, none, none⟩]
  floorIds := by decide
  zoneIds := by decide
  zoneFloors := by decide

theorem services_served : ∀ s ∈ services, s.zoneId ∈ places.zones.map Zone.id := by decide

def plant : Database ℕ where
  toPlaces := places
  equipment := handlers
  services
  maintenanceLogs := [⟨1, 5, .corrective, some 90, none, none⟩, ⟨1, 3, .preventive, none, none, some 9⟩]
  equipmentIds := handlers_ids
  parents := handlers_parents
  tags := handlers_tags
  serviceKeys := services_keys
  servers := services_servers
  served := services_served

end Example

theorem serving_exact_loop : ∃ chain, Example.plant.serving 3 30 = some chain ∧ chain.map Prod.fst = [1, 2] ∧
    ∀ id, id ∈ [1, 2] ↔ Example.plant.Serves id 30 := by
  obtain ⟨chain, hchain, -, hmem⟩ := serving_exact Example.plant 30 (show 2 < 3 by decide)
  have hrun : Example.plant.serving 3 30 = some [(1, some 2), (2, some 1)] := by decide +kernel
  obtain rfl := Option.some.inj (hchain.symm.trans hrun)
  exact ⟨_, hchain, rfl, hmem⟩

end DTwin.Db.Plant
