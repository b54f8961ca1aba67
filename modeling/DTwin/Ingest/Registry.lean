import DTwin.Lib.Machine
import DTwin.Lib.OrderedMap
import DTwin.Lib.Text
import DTwin.Lib.Uuid
import Mathlib.Data.List.Perm.Subperm
import Mathlib.Tactic.Ring

/-!
# DTwin.Ingest.Registry — loading the sensor registry

`SensorRegistry` of `apps/ingest/src/registry.ts`: a refresh asks for the tenants, for the sensors of each page by page,
and for the places of each, and puts the maps that it has built in place of those in service at its end.  Calls come in
between.  The database is fixed while it is read, and gives the rows of a page in any order.

A cursor stands behind the sensors that have come (`upTo_track`), which is why every sensor comes once (`Progress`).
-/

namespace DTwin.Ingest.SensorRegistry

open Machine OrderedMap Canonical

/-- What is held of a sensor; the columns that no map is keyed by are left out. -/
structure RegisteredSensor where
  id : Uuid
  tenantId : Uuid
  externalId : String
  zoneId : Option Uuid
  floorId : Option Uuid
  buildingId : Option Uuid
deriving DecidableEq

structure RegistryOptions where
  pageRows : ℕ
  maxSensors : ℕ
  unknownMax : ℕ
  unknownRetryMs : ℤ

def NIL_UUID : Uuid := ⟨List.replicate 32 0, List.length_replicate⟩

/-- `SensorRegistry.key`. -/
def key (tenantId : Uuid) (externalId : String) : List Char := tenantId.text ++ ':' :: externalId.toList

def RegisteredSensor.key (r : RegisteredSensor) : List Char := SensorRegistry.key r.tenantId r.externalId

structure Maps where
  byExternalId : OrderedMap (List Char) RegisteredSensor
  byId : OrderedMap Uuid RegisteredSensor
  ownerById : OrderedMap Uuid Uuid

def Maps.empty : Maps := ⟨.empty, .empty, .empty⟩

/-- An id that may be missing maps to its owner. -/
def own (owners : OrderedMap Uuid Uuid) (id : Option Uuid) (tenantId : Uuid) : OrderedMap Uuid Uuid :=
  id.elim owners fun id => owners.set id tenantId

/-- A row of a page. -/
def Maps.add (m : Maps) (r : RegisteredSensor) : Maps where
  byExternalId := m.byExternalId.set r.key r
  byId := m.byId.set r.id r
  ownerById := own (own (own (m.ownerById.set r.id r.tenantId) r.zoneId r.tenantId) r.floorId r.tenantId)
    r.buildingId r.tenantId

/-- A building, a floor or a zone of the tenant. -/
def Maps.place (tenantId : Uuid) (m : Maps) (id : Uuid) : Maps := { m with ownerById := m.ownerById.set id tenantId }

/-- `if (r.id > cursor) cursor = r.id`, on the texts. -/
def track (cursor : Uuid) (r : RegisteredSensor) : Uuid := if cursor.text < r.id.text then r.id else cursor

/-- What the database holds: the primary key of `sensors` and the index `(tenant_id, external_id)` are unique. -/
structure Database where
  tenants : List Uuid
  /-- The active sensors that a statement of the tenant sees, by id. -/
  sensors : Uuid → List RegisteredSensor
  places : Uuid → List Uuid
  sorted : ∀ t, (sensors t).Pairwise fun r r' => r.id < r'.id
  distinct : ((tenants.flatMap sensors).map RegisteredSensor.id).Nodup
  unique : ((tenants.flatMap sensors).map fun r => (r.tenantId, r.externalId)).Nodup

def Database.all (db : Database) : List RegisteredSensor := db.tenants.flatMap db.sensors

/-- `WHERE s.id > $1 ORDER BY s.id LIMIT $2`. -/
def Database.page (db : Database) (t cursor : Uuid) (limit : ℕ) : List RegisteredSensor :=
  ((db.sensors t).filter fun r => cursor < r.id).take limit

/-- The statement that the refresh waits for. -/
inductive Phase
  | tenants
  | page (tenant cursor : Uuid) (rest : List Uuid)
  | places (tenant : Uuid) (rest : List Uuid)

structure Load where
  maps : Maps
  phase : Phase

structure Sys where
  maps : Maps
  unknown : OrderedMap (List Char) ℤ
  refreshing : Option Load

inductive Act
  | refresh
  | tenants (reply : List Uuid)
  | rows (reply : List RegisteredSensor)
  | places (reply : List Uuid)
  /-- The statement fails, or the transaction around it. -/
  | fails
  | lookup (tenantId : Uuid) (externalId : String)
  | shouldRetryUnknown (tenantId : Uuid) (externalId : String) (now : ℤ)

inductive Obs
  | began (maps : Maps)
  | answered (rows : List RegisteredSensor)
  | swapped (maps : Maps)
  /-- `RegistryTooLargeError`. -/
  | tooLarge (maps : Maps)
  | failed (maps : Maps)
  | found (tenantId : Uuid) (externalId : String) (r : Option RegisteredSensor)
  | retry (worth : Bool)

/-- The next tenant, or the swap. -/
def Sys.proceed (s : Sys) (maps : Maps) : List Uuid → Sys × List Obs
  | [] => (⟨maps, .empty, none⟩, [.swapped maps])
  | t :: rest => ({ s with refreshing := some ⟨maps, .page t NIL_UUID rest⟩ }, [])

/-- `shouldRetryUnknown`. -/
def Sys.shouldRetryUnknown (opts : RegistryOptions) (s : Sys) (k : List Char) (now : ℤ) : Sys × Bool :=
  let last := s.unknown.get? k
  if last.any fun last => now - last < opts.unknownRetryMs then (s, false)
  else if last = none ∧ opts.unknownMax ≤ s.unknown.size then (s, false)
  else ({ s with unknown := s.unknown.set k now }, true)

def step (db : Database) (opts : RegistryOptions) (s : Sys) : Act → Option (Sys × List Obs)
  | .refresh =>
    match s.refreshing with
    | some _ => some (s, [])
    | none => some ({ s with refreshing := some ⟨.empty, .tenants⟩ }, [.began s.maps])
  | .tenants reply =>
    match s.refreshing with
    | some ⟨maps, .tenants⟩ =>
      if reply.Perm db.tenants then
        some ((s.proceed maps reply).1, .answered [] :: (s.proceed maps reply).2)
      else none
    | _ => none
  | .rows reply =>
    match s.refreshing with
    | some ⟨maps, .page t cursor rest⟩ =>
      if reply.Perm (db.page t cursor opts.pageRows) then
        let maps := reply.foldl Maps.add maps
        if opts.maxSensors < maps.byId.size then
          some ({ s with refreshing := none }, [.answered reply, .tooLarge s.maps])
        else if reply.length < opts.pageRows then
          some ({ s with refreshing := some ⟨maps, .places t rest⟩ }, [.answered reply])
        else some ({ s with refreshing := some ⟨maps, .page t (reply.foldl track cursor) rest⟩ }, [.answered reply])
      else none
    | _ => none
  | .places reply =>
    match s.refreshing with
    | some ⟨maps, .places t rest⟩ =>
      if reply.Perm (db.places t) then
        let maps := reply.foldl (Maps.place t) maps
        some ((s.proceed maps rest).1, .answered [] :: (s.proceed maps rest).2)
      else none
    | _ => none
  | .fails =>
    match s.refreshing with
    | some _ => some ({ s with refreshing := none }, [.failed s.maps])
    | none => none
  | .lookup tenantId externalId =>
    some (s, [.found tenantId externalId (s.maps.byExternalId.get? (key tenantId externalId))])
  | .shouldRetryUnknown tenantId externalId now =>
    some ((s.shouldRetryUnknown opts (key tenantId externalId) now).1,
      [.retry (s.shouldRetryUnknown opts (key tenantId externalId) now).2])

def registry (db : Database) (opts : RegistryOptions) : Machine Sys Act Obs := ⟨step db opts⟩

theorem step_registry (db : Database) (opts : RegistryOptions) (s : Sys) (a : Act) :
    (registry db opts).step s a = SensorRegistry.step db opts s a := rfl

/-! ## What a refresh has seen -/

/-- Since the refresh began: the maps in service then, the rows that have come, and the answers. -/
structure Since where
  before : Maps
  rows : List RegisteredSensor
  answers : ℕ

def Since.note (c : Option Since) : Obs → Option Since
  | .began maps => some ⟨maps, [], 0⟩
  | .answered rows => c.map fun c => ⟨c.before, c.rows ++ rows, c.answers + 1⟩
  | _ => c

def since (h : List Obs) : Option Since := h.foldl Since.note none

/-- The maps in service: those of the last swap. -/
def served (maps : Maps) (h : List Obs) : Maps :=
  h.foldl (fun m o => match o with
    | .swapped maps => maps
    | _ => m) maps

/-- The sensors that the cursor has passed. -/
def Database.upTo (db : Database) (t cursor : Uuid) : List RegisteredSensor :=
  (db.sensors t).filter fun r => ¬ cursor < r.id

/-- The answers that these tenants take: the pages, of which the last is not full, and the places. -/
def Database.work (db : Database) (opts : RegistryOptions) (tenants : List Uuid) : ℕ :=
  (tenants.map fun t => (db.sensors t).length / opts.pageRows + 2).sum

/-- The answers that a refresh takes. -/
def Database.answers (db : Database) (opts : RegistryOptions) : ℕ := 1 + db.work opts db.tenants

/-- How far a refresh is: the tenants that are done, and of the one at hand what the cursor has passed, in full
pages. -/
def Progress (db : Database) (opts : RegistryOptions) (c : Since) : Phase → Prop
  | .tenants => c.rows = [] ∧ c.answers = 0
  | .page t cursor rest => ∃ done k, (done ++ t :: rest).Perm db.tenants ∧
      c.rows.Perm (done.flatMap db.sensors ++ db.upTo t cursor) ∧
      (db.upTo t cursor).length = k * opts.pageRows ∧ c.answers = 1 + db.work opts done + k
  | .places t rest => ∃ done, (done ++ t :: rest).Perm db.tenants ∧
      c.rows.Perm ((done ++ [t]).flatMap db.sensors) ∧
      c.answers = 2 + db.work opts done + (db.sensors t).length / opts.pageRows

/-- The maps hold these sensors, each under its id and under its name. -/
structure Serves (maps : Maps) (rows : List RegisteredSensor) : Prop where
  byId : maps.byId.values.Perm rows
  byExternalId : maps.byExternalId.values.Perm rows
  atId : ∀ r ∈ rows, maps.byId.get? r.id = some r
  atKey : ∀ r ∈ rows, maps.byExternalId.get? r.key = some r

/-- How a refresh may end, and what a lookup may find. -/
def Fair (db : Database) (opts : RegistryOptions) (maps₀ : Maps) (h : List Obs) : Obs → Prop
  | .swapped maps => ∃ c, since h = some c ∧ c.rows.Perm db.all ∧ c.answers = db.answers opts ∧ Serves maps db.all
  | .tooLarge maps => opts.maxSensors < db.all.length ∧ ∃ c, since h = some c ∧ maps = c.before ∧ maps = served maps₀ h
  | .failed maps => ∃ c, since h = some c ∧ maps = c.before ∧ maps = served maps₀ h
  | .found tenantId externalId r => r = (served maps₀ h).byExternalId.get? (key tenantId externalId)
  | _ => True

/-- The maps that are being built are those of the rows that have come. -/
structure Building (db : Database) (opts : RegistryOptions) (l : Load) (c : Since) : Prop where
  byId : l.maps.byId = ofList RegisteredSensor.id c.rows
  byExternalId : l.maps.byExternalId = ofList RegisteredSensor.key c.rows
  progress : Progress db opts c l.phase

structure Loading (db : Database) (opts : RegistryOptions) (maps₀ : Maps) (s : Sys) (h : List Obs) : Prop where
  inService : s.maps = served maps₀ h
  building : ∀ l, s.refreshing = some l → ∃ c, since h = some c ∧ c.before = s.maps ∧ Building db opts l c
  fair : Each (Fair db opts maps₀) h

/-! ## The cursor -/

section Cursor

variable {db : Database} {t cursor : Uuid} {limit : ℕ} {reply : List RegisteredSensor}

theorem track_spec (cursor : Uuid) (r : RegisteredSensor) :
    cursor ≤ track cursor r ∧ r.id ≤ track cursor r ∧ (track cursor r = cursor ∨ track cursor r = r.id) := by
  unfold track
  by_cases hlt : cursor.text < r.id.text
  · rw [if_pos hlt]
    exact ⟨(Uuid.text_lt_iff.mp hlt).le, le_rfl, Or.inr rfl⟩
  · rw [if_neg hlt]
    exact ⟨le_rfl, not_lt.mp fun h => hlt (Uuid.text_lt_iff.mpr h), Or.inl rfl⟩

/-- The cursor goes to the highest id of the page, wherever it stands there. -/
theorem foldl_track : ∀ (rows : List RegisteredSensor) (cursor : Uuid),
    cursor ≤ rows.foldl track cursor ∧ (∀ r ∈ rows, r.id ≤ rows.foldl track cursor) ∧
      (rows.foldl track cursor = cursor ∨ ∃ r ∈ rows, rows.foldl track cursor = r.id)
  | [], cursor => ⟨le_rfl, by simp, Or.inl rfl⟩
  | r :: rows, cursor => by
    obtain ⟨hcursor, hid, hone⟩ := track_spec cursor r
    obtain ⟨hle, hrows, hend⟩ := foldl_track rows (track cursor r)
    rw [List.foldl_cons]
    refine ⟨hcursor.trans hle, fun r' hr' => ?_, ?_⟩
    · rcases List.mem_cons.mp hr' with rfl | hmem
      · exact hid.trans hle
      · exact hrows r' hmem
    · rcases hend with hsame | ⟨r', hr', heq⟩
      · rcases hone with hkept | hmoved
        · exact Or.inl (hsame.trans hkept)
        · exact Or.inr ⟨r, List.mem_cons_self, hsame.trans hmoved⟩
      · exact Or.inr ⟨r', List.mem_cons_of_mem r hr', heq⟩

theorem sensors_perm (db : Database) (t cursor : Uuid) (limit : ℕ) :
    (db.sensors t).Perm (db.upTo t cursor ++
      (db.page t cursor limit ++ ((db.sensors t).filter fun r => cursor < r.id).drop limit)) := by
  have hsplit := List.filter_append_perm (fun r => decide (cursor < r.id)) (db.sensors t)
  have hupTo : (db.sensors t).filter (fun r => !decide (cursor < r.id)) = db.upTo t cursor :=
    List.filter_congr fun r _ => decide_not.symm
  have hpage : db.page t cursor limit ++ ((db.sensors t).filter fun r => cursor < r.id).drop limit =
      (db.sensors t).filter fun r => cursor < r.id := List.take_append_drop _ _
  rw [hpage]
  rw [hupTo] at hsplit
  exact hsplit.symm.trans List.perm_append_comm

/-- **A page** takes the cursor past its rows, and past no other. -/
theorem upTo_track (hreply : reply.Perm (db.page t cursor limit)) :
    (db.upTo t (reply.foldl track cursor)).Perm (db.upTo t cursor ++ reply) := by
  obtain ⟨hle, hrows, hend⟩ := foldl_track reply cursor
  have hsorted : ((db.page t cursor limit) ++ ((db.sensors t).filter fun r => cursor < r.id).drop limit).Pairwise
      fun r r' => r.id < r'.id := by
    rw [Database.page, List.take_append_drop]
    exact (db.sorted t).filter _
  have hpassed : ((db.upTo t cursor).filter fun r => ¬ reply.foldl track cursor < r.id) = db.upTo t cursor := by
    refine List.filter_eq_self.mpr fun r hr => ?_
    have hold : ¬ cursor < r.id := by simpa using (List.mem_filter.mp hr).2
    simpa using (not_lt.mp hold).trans hle
  have hpage : ((db.page t cursor limit).filter fun r => ¬ reply.foldl track cursor < r.id) =
      db.page t cursor limit := by
    refine List.filter_eq_self.mpr fun r hr => ?_
    simpa using hrows r (hreply.mem_iff.mpr hr)
  have hlater : ((((db.sensors t).filter fun r => cursor < r.id).drop limit).filter
      fun r => ¬ reply.foldl track cursor < r.id) = [] := by
    refine List.filter_eq_nil_iff.mpr fun r hr => ?_
    have hbeyond : reply.foldl track cursor < r.id := by
      rcases hend with hsame | ⟨r', hr', heq⟩
      · rw [hsame]
        simpa using (List.mem_filter.mp (List.mem_of_mem_drop hr)).2
      · rw [heq]
        exact (List.pairwise_append.mp hsorted).2.2 r' (hreply.mem_iff.mp hr') r hr
    simpa using hbeyond
  have hfilter := (sensors_perm db t cursor limit).filter fun r => ¬ reply.foldl track cursor < r.id
  rw [List.filter_append, List.filter_append, hpassed, hpage, hlater, List.append_nil] at hfilter
  exact hfilter.trans (hreply.symm.append_left _)

/-- **A page that is not full** is the last. -/
theorem upTo_of_short (hreply : reply.Perm (db.page t cursor limit)) (hshort : reply.length < limit) :
    (db.sensors t).Perm (db.upTo t cursor ++ reply) := by
  have hlength : ((db.sensors t).filter fun r => cursor < r.id).length ≤ limit := by
    have hpage := hreply.length_eq
    rw [Database.page, List.length_take] at hpage
    omega
  have hall := sensors_perm db t cursor limit
  rw [List.drop_eq_nil_of_le hlength, List.append_nil] at hall
  exact hall.trans (hreply.symm.append_left _)

/-- Nothing is at or before the first cursor. -/
theorem upTo_nil (hids : ∀ r ∈ db.sensors t, NIL_UUID < r.id) : db.upTo t NIL_UUID = [] :=
  List.filter_eq_nil_iff.mpr fun r hr => by simpa using hids r hr

end Cursor

/-! ## The maps -/

section Maps

variable {db : Database} {rows : List RegisteredSensor} {maps : Maps}

theorem key_injective {t t' : Uuid} {e e' : String} (h : key t e = key t' e') : t = t' ∧ e = e' := by
  obtain ⟨ht, he⟩ := Text.append_separator t.colon_not_mem_text t'.colon_not_mem_text h
  exact ⟨Uuid.text_injective ht, String.ext he⟩

theorem byId_foldl_add : ∀ (rows : List RegisteredSensor) (m : Maps),
    (rows.foldl Maps.add m).byId = rows.foldl (fun b r => b.set r.id r) m.byId
  | [], _ => rfl
  | r :: rows, m => byId_foldl_add rows (m.add r)

theorem byExternalId_foldl_add : ∀ (rows : List RegisteredSensor) (m : Maps),
    (rows.foldl Maps.add m).byExternalId = rows.foldl (fun b r => b.set r.key r) m.byExternalId
  | [], _ => rfl
  | r :: rows, m => byExternalId_foldl_add rows (m.add r)

theorem ofList_append {κ α : Type*} [DecidableEq κ] (key : α → κ) (l l' : List α) :
    ofList key (l ++ l') = l'.foldl (fun m a => m.set (key a) a) (ofList key l) := List.foldl_append

theorem foldl_place (t : Uuid) : ∀ (ids : List Uuid) (m : Maps),
    (ids.foldl (Maps.place t) m).byId = m.byId ∧ (ids.foldl (Maps.place t) m).byExternalId = m.byExternalId
  | [], _ => ⟨rfl, rfl⟩
  | id :: ids, m => foldl_place t ids (m.place t id)

theorem nodup_key (db : Database) : (db.all.map RegisteredSensor.key).Nodup := by
  have hpairs := db.unique.map (f := fun p : Uuid × String => key p.1 p.2) (by
    rintro ⟨t, e⟩ ⟨t', e'⟩ h
    obtain ⟨ht, he⟩ := key_injective h
    exact Prod.ext ht he)
  rw [List.map_map] at hpairs
  exact hpairs

/-- Maps of all the sensors serve them. -/
theorem serves (hrows : rows.Perm db.all) (hid : maps.byId = ofList RegisteredSensor.id rows)
    (hkey : maps.byExternalId = ofList RegisteredSensor.key rows) : Serves maps db.all := by
  have hids : (rows.map RegisteredSensor.id).Nodup := (hrows.map _).nodup_iff.mpr db.distinct
  have hkeys : (rows.map RegisteredSensor.key).Nodup := (hrows.map _).nodup_iff.mpr (nodup_key db)
  refine ⟨?_, ?_, fun r hr => ?_, fun r hr => ?_⟩
  · rw [hid, values_ofList hids]
    exact hrows
  · rw [hkey, values_ofList hkeys]
    exact hrows
  · rw [hid, get?_ofList]
    refine mem_values_ofList.mp ?_
    rw [values_ofList hids]
    exact hrows.mem_iff.mpr hr
  · rw [hkey, get?_ofList]
    refine mem_values_ofList.mp ?_
    rw [values_ofList hkeys]
    exact hrows.mem_iff.mpr hr

/-- Some of the sensors are as many in the map. -/
theorem size_byId (hrows : rows.Subperm db.all) (hid : maps.byId = ofList RegisteredSensor.id rows) :
    maps.byId.size = rows.length := by
  obtain ⟨rows', hperm, hsub⟩ := hrows
  have hids : (rows.map RegisteredSensor.id).Nodup :=
    (hperm.map _).nodup_iff.mp (db.distinct.sublist (hsub.map _))
  rw [hid, OrderedMap.size, entries_ofList hids, List.length_map]

end Maps

/-! ## A step -/

section Step

variable {db : Database} {opts : RegistryOptions} {maps₀ : Maps} {s s' : Sys} {h o : List Obs} {a : Act} {c : Since}

theorem since_append : since (h ++ o) = o.foldl Since.note (since h) := List.foldl_append

theorem since_answered (hc : since h = some c) (rows : List RegisteredSensor) :
    since (h ++ [.answered rows]) = some ⟨c.before, c.rows ++ rows, c.answers + 1⟩ := by
  rw [since_append, hc]
  rfl

theorem served_append : served maps₀ (h ++ o) = served (served maps₀ h) o := List.foldl_append

theorem work_append (db : Database) (opts : RegistryOptions) (ts ts' : List Uuid) :
    db.work opts (ts ++ ts') = db.work opts ts + db.work opts ts' := by
  rw [Database.work, List.map_append, List.sum_append]
  rfl

theorem work_perm (db : Database) (opts : RegistryOptions) {ts ts' : List Uuid} (hts : ts.Perm ts') :
    db.work opts ts = db.work opts ts' :=
  (hts.map _).sum_eq

/-- What is loaded of some tenants, and of one more as far as the cursor, is part of all. -/
theorem loaded_subperm {done rest : List Uuid} {t cursor : Uuid} (hts : (done ++ t :: rest).Perm db.tenants) :
    (done.flatMap db.sensors ++ db.upTo t cursor).Subperm db.all := by
  have hsub : (done.flatMap db.sensors ++ db.upTo t cursor).Sublist ((done ++ t :: rest).flatMap db.sensors) := by
    rw [List.flatMap_append, List.flatMap_cons]
    exact (List.Sublist.refl _).append (List.filter_sublist.trans (List.sublist_append_left _ _))
  exact hsub.subperm.trans (hts.flatMap_right _).subperm

/-- An observation that neither begins nor ends anything. -/
theorem Loading.noted (hL : Loading db opts maps₀ s h) (rows : List RegisteredSensor) :
    s.maps = served maps₀ (h ++ [.answered rows]) ∧ Each (Fair db opts maps₀) (h ++ [.answered rows]) := by
  constructor
  · rw [served_append]
    exact hL.inService
  · exact each_append.mpr ⟨hL.fair, each_singleton.mpr trivial⟩

/-- **A tenant is done**: the next one, from the first page, or the swap. -/
theorem proceed_loading (hids : ∀ r ∈ db.all, NIL_UUID < r.id) {maps : Maps} (done : List Uuid) {rest : List Uuid}
    (hserved : s.maps = served maps₀ h) (hfair : Each (Fair db opts maps₀) h) (hc : since h = some c)
    (hbefore : c.before = s.maps) (hid : maps.byId = ofList RegisteredSensor.id c.rows)
    (hkey : maps.byExternalId = ofList RegisteredSensor.key c.rows) (hts : (done ++ rest).Perm db.tenants)
    (hrows : c.rows.Perm (done.flatMap db.sensors)) (hanswers : c.answers = 1 + db.work opts done) :
    Loading db opts maps₀ (s.proceed maps rest).1 (h ++ (s.proceed maps rest).2) := by
  cases rest with
  | nil =>
    rw [List.append_nil] at hts
    have hall : c.rows.Perm db.all := hrows.trans (hts.flatMap_right _)
    have hcount : c.answers = db.answers opts := by
      rw [hanswers, work_perm db opts hts]
      rfl
    refine ⟨?_, fun l hl => ?_, each_append.mpr ⟨hfair, each_singleton.mpr ?_⟩⟩
    · rw [served_append]
      rfl
    · cases hl
    · rw [List.append_nil]
      exact ⟨c, hc, hall, hcount, serves hall hid hkey⟩
  | cons t rest =>
    have hmem : t ∈ db.tenants := hts.mem_iff.mp (by simp)
    have hnone : db.upTo t NIL_UUID = [] :=
      upTo_nil fun r hr => hids r (List.mem_flatMap.mpr ⟨t, hmem, hr⟩)
    show Loading db opts maps₀ { s with refreshing := some ⟨maps, .page t NIL_UUID rest⟩ } (h ++ [])
    rw [List.append_nil]
    refine ⟨hserved, fun l hl => ?_, hfair⟩
    cases hl
    refine ⟨c, hc, hbefore, hid, hkey, done, 0, hts, ?_, ?_, ?_⟩
    · rw [hnone, List.append_nil]
      exact hrows
    · rw [hnone, Nat.zero_mul]
      rfl
    · rw [hanswers]
      rfl

/-- **A page comes.** -/
theorem rows_loading (hrows : 0 < opts.pageRows) (hL : Loading db opts maps₀ s h) {maps : Maps} {t cursor : Uuid}
    {rest : List Uuid} {reply : List RegisteredSensor} (href : s.refreshing = some ⟨maps, .page t cursor rest⟩)
    (hreply : reply.Perm (db.page t cursor opts.pageRows))
    (hs : (registry db opts).step s (.rows reply) = some (s', o)) : Loading db opts maps₀ s' (h ++ o) := by
  obtain ⟨c, hc, hbefore, hB⟩ := hL.building _ href
  obtain ⟨done, k, hts, hloaded, hpages, hanswers⟩ := hB.progress
  obtain ⟨hserved, hfair⟩ := hL.noted reply
  have hc' := since_answered hc reply
  have hid : (reply.foldl Maps.add maps).byId = ofList RegisteredSensor.id (c.rows ++ reply) := by
    rw [byId_foldl_add, ofList_append, ← hB.byId]
  have hkey : (reply.foldl Maps.add maps).byExternalId = ofList RegisteredSensor.key (c.rows ++ reply) := by
    rw [byExternalId_foldl_add, ofList_append, ← hB.byExternalId]
  have hpassed := upTo_track hreply
  have hcover : (c.rows ++ reply).Perm (done.flatMap db.sensors ++ db.upTo t (reply.foldl track cursor)) := by
    refine (hloaded.append_right reply).trans ?_
    rw [List.append_assoc]
    exact hpassed.symm.append_left _
  have hshown : (registry db opts).step s (.rows reply) =
      if opts.maxSensors < (reply.foldl Maps.add maps).byId.size then
        some ({ s with refreshing := none }, [.answered reply, .tooLarge s.maps])
      else if reply.length < opts.pageRows then
        some ({ s with refreshing := some ⟨reply.foldl Maps.add maps, .places t rest⟩ }, [.answered reply])
      else some ({ s with refreshing := some ⟨reply.foldl Maps.add maps, .page t (reply.foldl track cursor) rest⟩ },
        [.answered reply]) := by
    simp only [step_registry, SensorRegistry.step, href]
    rw [if_pos hreply]
  rw [hshown] at hs
  split_ifs at hs with hlarge hshort
  · cases hs
    have hpart : (c.rows ++ reply).Subperm db.all := hcover.subperm.trans (loaded_subperm hts)
    have hmany : opts.maxSensors < db.all.length := by
      rw [size_byId hpart hid] at hlarge
      exact hlarge.trans_le hpart.length_le
    have hsplit : h ++ [Obs.answered reply, .tooLarge s.maps] = (h ++ [.answered reply]) ++ [.tooLarge s.maps] :=
      List.append_cons _ _ _
    rw [hsplit]
    refine ⟨?_, fun l hl => ?_, each_append.mpr ⟨hfair, each_singleton.mpr ?_⟩⟩
    · rw [served_append]
      exact hserved
    · cases hl
    · rw [List.append_nil]
      exact ⟨hmany, _, hc', hbefore.symm, hserved⟩
  · cases hs
    refine ⟨hserved, fun l hl => ?_, hfair⟩
    cases hl
    have hall := upTo_of_short hreply hshort
    have hcount : (db.sensors t).length / opts.pageRows = k := by
      rw [hall.length_eq, List.length_append, hpages, Nat.add_comm, Nat.add_mul_div_right _ _ hrows,
        Nat.div_eq_of_lt hshort, Nat.zero_add]
    refine ⟨_, hc', hbefore, hid, hkey, done, hts, ?_, ?_⟩
    · rw [List.flatMap_append, List.flatMap_singleton]
      refine (hloaded.append_right reply).trans ?_
      rw [List.append_assoc]
      exact hall.symm.append_left _
    · show c.answers + 1 = 2 + db.work opts done + (db.sensors t).length / opts.pageRows
      omega
  · cases hs
    refine ⟨hserved, fun l hl => ?_, hfair⟩
    cases hl
    have hfull : reply.length = opts.pageRows := by
      have hpage := hreply.length_eq
      rw [Database.page, List.length_take] at hpage
      omega
    refine ⟨_, hc', hbefore, hid, hkey, done, k + 1, hts, hcover, ?_, ?_⟩
    · rw [hpassed.length_eq, List.length_append, hpages, hfull]
      ring
    · show c.answers + 1 = 1 + db.work opts done + (k + 1)
      omega

theorem maps_shouldRetryUnknown (opts : RegistryOptions) (s : Sys) (k : List Char) (now : ℤ) :
    (s.shouldRetryUnknown opts k now).1.maps = s.maps ∧
      (s.shouldRetryUnknown opts k now).1.refreshing = s.refreshing := by
  unfold Sys.shouldRetryUnknown
  dsimp only
  split_ifs <;> exact ⟨rfl, rfl⟩

theorem Loading.step (hrows : 0 < opts.pageRows) (hids : ∀ r ∈ db.all, NIL_UUID < r.id)
    (hL : Loading db opts maps₀ s h) (hs : (registry db opts).step s a = some (s', o)) :
    Loading db opts maps₀ s' (h ++ o) := by
  have hs' := hs
  rw [step_registry] at hs'
  cases a with
  | refresh =>
    cases href : s.refreshing with
    | some l =>
      simp only [SensorRegistry.step, href] at hs'
      cases hs'
      rwa [List.append_nil]
    | none =>
      simp only [SensorRegistry.step, href] at hs'
      cases hs'
      refine ⟨?_, fun l hl => ?_, each_append.mpr ⟨hL.fair, each_singleton.mpr trivial⟩⟩
      · rw [served_append]
        exact hL.inService
      · cases hl
        have hc : since (h ++ [.began s.maps]) = some ⟨s.maps, [], 0⟩ := by
          rw [since_append]
          rfl
        exact ⟨_, hc, rfl, rfl, rfl, rfl, rfl⟩
  | tenants reply =>
    cases href : s.refreshing with
    | none => simp [SensorRegistry.step, href] at hs'
    | some l =>
      obtain ⟨maps, phase⟩ := l
      cases phase with
      | page t cursor rest => simp [SensorRegistry.step, href] at hs'
      | places t rest => simp [SensorRegistry.step, href] at hs'
      | tenants =>
        simp only [SensorRegistry.step, href] at hs'
        split_ifs at hs' with hreply
        cases hs'
        obtain ⟨c, hc, hbefore, hB⟩ := hL.building _ href
        obtain ⟨hnil, hzero⟩ := hB.progress
        obtain ⟨hserved, hfair⟩ := hL.noted []
        rw [List.append_cons]
        refine proceed_loading hids [] hserved hfair (since_answered hc []) hbefore ?_ ?_ hreply ?_ ?_
        · rw [List.append_nil]
          exact hB.byId
        · rw [List.append_nil]
          exact hB.byExternalId
        · rw [List.append_nil, hnil]
          exact List.Perm.refl _
        · show c.answers + 1 = 1 + db.work opts []
          rw [hzero]
          rfl
  | rows reply =>
    cases href : s.refreshing with
    | none => simp [SensorRegistry.step, href] at hs'
    | some l =>
      obtain ⟨maps, phase⟩ := l
      cases phase with
      | tenants => simp [SensorRegistry.step, href] at hs'
      | places t rest => simp [SensorRegistry.step, href] at hs'
      | page t cursor rest =>
        have hreply : reply.Perm (db.page t cursor opts.pageRows) := by
          by_contra hno
          simp only [SensorRegistry.step, href] at hs'
          rw [if_neg hno] at hs'
          cases hs'
        exact rows_loading hrows hL href hreply hs
  | places reply =>
    cases href : s.refreshing with
    | none => simp [SensorRegistry.step, href] at hs'
    | some l =>
      obtain ⟨maps, phase⟩ := l
      cases phase with
      | tenants => simp [SensorRegistry.step, href] at hs'
      | page t cursor rest => simp [SensorRegistry.step, href] at hs'
      | places t rest =>
        simp only [SensorRegistry.step, href] at hs'
        split_ifs at hs' with hreply
        cases hs'
        obtain ⟨c, hc, hbefore, hB⟩ := hL.building _ href
        obtain ⟨done, hts, hloaded, hanswers⟩ := hB.progress
        obtain ⟨hserved, hfair⟩ := hL.noted []
        obtain ⟨hid, hkey⟩ := foldl_place t reply maps
        rw [List.append_cons]
        refine proceed_loading hids (done ++ [t]) hserved hfair (since_answered hc []) hbefore ?_ ?_ ?_ ?_ ?_
        · rw [List.append_nil, hid]
          exact hB.byId
        · rw [List.append_nil, hkey]
          exact hB.byExternalId
        · rw [List.append_assoc]
          exact hts
        · rw [List.append_nil]
          exact hloaded
        · have hone : db.work opts [t] = (db.sensors t).length / opts.pageRows + 2 := by simp [Database.work]
          have hcount : c.answers = 2 + db.work opts done + (db.sensors t).length / opts.pageRows := hanswers
          show c.answers + 1 = 1 + db.work opts (done ++ [t])
          rw [work_append, hone, hcount]
          omega
  | fails =>
    cases href : s.refreshing with
    | none => simp [SensorRegistry.step, href] at hs'
    | some l =>
      simp only [SensorRegistry.step, href] at hs'
      cases hs'
      obtain ⟨c, hc, hbefore, -⟩ := hL.building _ href
      refine ⟨?_, fun l hl => ?_, each_append.mpr ⟨hL.fair, each_singleton.mpr ?_⟩⟩
      · rw [served_append]
        exact hL.inService
      · cases hl
      · rw [List.append_nil]
        exact ⟨c, hc, hbefore.symm, hL.inService⟩
  | lookup tenantId externalId =>
    cases hs'
    refine ⟨?_, fun l hl => ?_, each_append.mpr ⟨hL.fair, each_singleton.mpr ?_⟩⟩
    · rw [served_append]
      exact hL.inService
    · obtain ⟨c, hc, hrest⟩ := hL.building l hl
      refine ⟨c, ?_, hrest⟩
      rw [since_append, hc]
      rfl
    · rw [List.append_nil]
      exact congrArg (fun m => m.byExternalId.get? (key tenantId externalId)) hL.inService
  | shouldRetryUnknown tenantId externalId now =>
    obtain ⟨hmaps, href⟩ := maps_shouldRetryUnknown opts s (key tenantId externalId) now
    cases hs'
    refine ⟨?_, fun l hl => ?_, each_append.mpr ⟨hL.fair, each_singleton.mpr trivial⟩⟩
    · rw [served_append, hmaps]
      exact hL.inService
    · obtain ⟨c, hc, hbefore, hB⟩ := hL.building l (href ▸ hl)
      refine ⟨c, ?_, hbefore.trans hmaps.symm, hB⟩
      rw [since_append, hc]
      rfl

end Step

/-! ## A run -/

/-- A refresh that waits has answers to come, and its statement has one. -/
theorem answers_lt {db : Database} {opts : RegistryOptions} {maps₀ : Maps} {s : Sys} {h : List Obs} {l : Load}
    (hrows : 0 < opts.pageRows) (hL : Loading db opts maps₀ s h) (hl : s.refreshing = some l) :
    (∃ c, since h = some c ∧ c.before = s.maps ∧ c.answers < db.answers opts) ∧
      ∃ a s' rows rest, (registry db opts).step s a = some (s', .answered rows :: rest) := by
  obtain ⟨c, hc, hbefore, hB⟩ := hL.building l hl
  obtain ⟨maps, phase⟩ := l
  have hprogress := hB.progress
  have htotal : db.answers opts = 1 + db.work opts db.tenants := rfl
  have hcons : ∀ t rest, db.work opts (t :: rest) = (db.sensors t).length / opts.pageRows + 2 + db.work opts rest :=
    fun t rest => work_append db opts [t] rest |>.trans (by simp [Database.work])
  cases phase with
  | tenants =>
    obtain ⟨-, hzero⟩ := hprogress
    refine ⟨⟨c, hc, hbefore, by omega⟩, .tenants db.tenants, (s.proceed maps db.tenants).1, [],
      (s.proceed maps db.tenants).2, ?_⟩
    simp only [step_registry, SensorRegistry.step, hl]
    rw [if_pos (List.Perm.refl _)]
  | page t cursor rest =>
    obtain ⟨done, k, hts, -, hpages, hanswers⟩ := hprogress
    have hwork := work_perm db opts hts
    rw [work_append, hcons] at hwork
    have hlength : k * opts.pageRows ≤ (db.sensors t).length := hpages ▸ List.length_filter_le _ _
    have hk : k ≤ (db.sensors t).length / opts.pageRows := (Nat.le_div_iff_mul_le hrows).mpr hlength
    refine ⟨⟨c, hc, hbefore, by omega⟩, .rows (db.page t cursor opts.pageRows), ?_⟩
    simp only [step_registry, SensorRegistry.step, hl]
    rw [if_pos (List.Perm.refl _)]
    split_ifs
    · exact ⟨_, _, _, rfl⟩
    · exact ⟨_, _, _, rfl⟩
    · exact ⟨_, _, _, rfl⟩
  | places t rest =>
    obtain ⟨done, hts, -, hanswers⟩ := hprogress
    have hwork := work_perm db opts hts
    rw [work_append, hcons] at hwork
    refine ⟨⟨c, hc, hbefore, by omega⟩, .places (db.places t),
      (s.proceed ((db.places t).foldl (Maps.place t) maps) rest).1, [],
      (s.proceed ((db.places t).foldl (Maps.place t) maps) rest).2, ?_⟩
    simp only [step_registry, SensorRegistry.step, hl]
    rw [if_pos (List.Perm.refl _)]

/-- **The registry is loaded whole or not at all**: with ids above the first cursor, in every run, a refresh that ends
with the swap has had every active sensor once, and a lookup finds each; one that ends with a failed statement, or with
more sensors than may be held, leaves the maps as they were when it began; lookups see the maps of the last swap; and a
refresh that has not ended can be answered, and has had fewer answers than it takes. -/
theorem refresh_loads (db : Database) (opts : RegistryOptions) (hrows : 0 < opts.pageRows)
    (hids : ∀ r ∈ db.all, NIL_UUID < r.id) (s₀ s : Sys) (h : List Obs) (hstart : s₀.refreshing = none)
    (hrun : (registry db opts).Reaches s₀ s h) :
    Each (Fair db opts s₀.maps) h ∧ s.maps = served s₀.maps h ∧
      ∀ l, s.refreshing = some l → (∃ c, since h = some c ∧ c.before = s.maps ∧ c.answers < db.answers opts) ∧
        ∃ a s' rows rest, (registry db opts).step s a = some (s', .answered rows :: rest) := by
  have hinit : Loading db opts s₀.maps s₀ [] := by
    refine ⟨rfl, fun l hl => ?_, each_nil _⟩
    rw [hstart] at hl
    cases hl
  have hL := hrun.hist (I := Loading db opts s₀.maps) (fun hL hs => hL.step hrows hids hs) hinit
  exact ⟨hL.fair, hL.inService, fun l hl => answers_lt hrows hL hl⟩

section Examples

def uuid (d : Fin 16) : Uuid := ⟨d :: List.replicate 31 0, rfl⟩

def sensor (d : Fin 16) : RegisteredSensor := ⟨uuid d, uuid 15, "BAC:AHU-01:KW", none, none, none⟩

/-- One tenant, with one sensor. -/
def single (d : Fin 16) : Database where
  tenants := [uuid 15]
  sensors t := if t = uuid 15 then [sensor d] else []
  places _ := []
  sorted t := by split_ifs <;> simp
  distinct := by simp
  unique := by simp

def quiet : Sys := ⟨.empty, .empty, none⟩

theorem page_single {d : Fin 16} (hd : NIL_UUID < uuid d) : (single d).page (uuid 15) NIL_UUID 5 = [sensor d] := by
  simp [Database.page, single, sensor, hd]

/-- The row of the one sensor that there is comes. -/
theorem step_single {d : Fin 16} {opts : RegistryOptions} (hd : NIL_UUID < uuid d) (hrows : opts.pageRows = 5) :
    (registry (single d) opts).step ⟨.empty, .empty, some ⟨.empty, .page (uuid 15) NIL_UUID []⟩⟩ (.rows [sensor d]) =
      if opts.maxSensors < 1 then some (quiet, [.answered [sensor d], .tooLarge .empty])
      else some (⟨.empty, .empty, some ⟨Maps.empty.add (sensor d), .places (uuid 15) []⟩⟩, [.answered [sensor d]]) := by
  have hpage : [sensor d].Perm ((single d).page (uuid 15) NIL_UUID opts.pageRows) := by
    rw [hrows, page_single hd]
  have hshort : [sensor d].length < opts.pageRows := by
    rw [hrows]
    exact Nat.lt_of_sub_eq_succ rfl
  simp only [step_registry, SensorRegistry.step]
  rw [if_pos hpage]
  show (if opts.maxSensors < 1 then _ else if [sensor d].length < opts.pageRows then _ else _) = _
  rw [if_pos hshort]
  rfl

theorem begin_single (d : Fin 16) (opts : RegistryOptions) :
    (registry (single d) opts).exec quiet [.refresh, .tenants [uuid 15]] =
      some (⟨.empty, .empty, some ⟨.empty, .page (uuid 15) NIL_UUID []⟩⟩, [.began .empty, .answered []]) := by
  have htenants : [uuid 15].Perm (single d).tenants := List.Perm.refl _
  have hreply : (registry (single d) opts).step ⟨.empty, .empty, some ⟨.empty, .tenants⟩⟩ (.tenants [uuid 15]) =
      some (⟨.empty, .empty, some ⟨.empty, .page (uuid 15) NIL_UUID []⟩⟩, [.answered []]) := by
    simp only [step_registry, SensorRegistry.step]
    rw [if_pos htenants]
    rfl
  rw [exec_cons_iff]
  exact ⟨_, [.began .empty], [.answered []], rfl, (exec_singleton _ _).trans hreply, rfl⟩

/-- With room for it, the sensor is loaded. -/
theorem reaches_single : (registry (single 1) ⟨5, 1, 0, 0⟩).Reaches quiet ⟨Maps.empty.add (sensor 1), .empty, none⟩
    [.began .empty, .answered [], .answered [sensor 1], .answered [], .swapped (Maps.empty.add (sensor 1))] := by
  have hrow := step_single (show NIL_UUID < uuid 1 by decide)
    (show (⟨5, 1, 0, 0⟩ : RegistryOptions).pageRows = 5 from rfl)
  rw [if_neg (by decide)] at hrow
  have hplaces : (registry (single 1) ⟨5, 1, 0, 0⟩).step
      ⟨.empty, .empty, some ⟨Maps.empty.add (sensor 1), .places (uuid 15) []⟩⟩ (.places []) =
      some (⟨Maps.empty.add (sensor 1), .empty, none⟩, [.answered [], .swapped (Maps.empty.add (sensor 1))]) := by
    simp only [step_registry, SensorRegistry.step]
    rw [if_pos (show [].Perm ((single 1).places (uuid 15)) from List.Perm.refl _)]
    rfl
  exact Reaches.step (Reaches.step ⟨_, begin_single 1 _⟩ hrow) hplaces

/-- The lookup finds what is loaded. -/
theorem refresh_loads_single : Fair (single 1) ⟨5, 1, 0, 0⟩ .empty
    [.began .empty, .answered [], .answered [sensor 1], .answered []] (.swapped (Maps.empty.add (sensor 1))) :=
  (refresh_loads (single 1) ⟨5, 1, 0, 0⟩ (by decide)
    (by simpa [Database.all, single, sensor] using (show NIL_UUID < uuid 1 by decide)) quiet _ _ rfl reaches_single).1
    _ _ [] rfl

/-- **Not every set of sensors is loaded**: one that is too large is not, and a sensor whose id is the first cursor is
not. -/
theorem not_all_loaded :
    ¬ (∀ (db : Database) (opts : RegistryOptions) (s₀ s : Sys) (h : List Obs), 0 < opts.pageRows →
      (∀ r ∈ db.all, NIL_UUID < r.id) → s₀.refreshing = none → (registry db opts).Reaches s₀ s h →
      (∀ maps, Obs.failed maps ∉ h) → since h ≠ none → s.refreshing = none → s.maps.byId.values.Perm db.all) ∧
    ¬ ∀ (db : Database) (opts : RegistryOptions) (s₀ s : Sys) (h : List Obs), 0 < opts.pageRows →
      db.all.length ≤ opts.maxSensors → s₀.refreshing = none → (registry db opts).Reaches s₀ s h →
      (∀ maps, Obs.failed maps ∉ h) → since h ≠ none → s.refreshing = none → s.maps.byId.values.Perm db.all := by
  constructor
  · intro hclaim
    have hrow := step_single (show NIL_UUID < uuid 1 by decide)
      (show (⟨5, 0, 0, 0⟩ : RegistryOptions).pageRows = 5 from rfl)
    rw [if_pos (by decide)] at hrow
    have hperm := hclaim (single 1) ⟨5, 0, 0, 0⟩ quiet _ _ (by decide)
      (by simpa [Database.all, single, sensor] using (show NIL_UUID < uuid 1 by decide)) rfl
      (Reaches.step ⟨_, begin_single 1 _⟩ hrow) (by simp) (by simp [since, Since.note]) rfl
    have hlength := hperm.length_eq
    exact absurd hlength (by decide)
  · intro hclaim
    have hrow : (registry (single 0) ⟨5, 1, 0, 0⟩).step
        ⟨.empty, .empty, some ⟨.empty, .page (uuid 15) NIL_UUID []⟩⟩ (.rows []) =
        some (⟨.empty, .empty, some ⟨.empty, .places (uuid 15) []⟩⟩, [.answered []]) := rfl
    have hplaces : (registry (single 0) ⟨5, 1, 0, 0⟩).step
        ⟨.empty, .empty, some ⟨.empty, .places (uuid 15) []⟩⟩ (.places []) =
        some (quiet, [.answered [], .swapped .empty]) := by
      simp only [step_registry, SensorRegistry.step]
      rw [if_pos (show [].Perm ((single 0).places (uuid 15)) from List.Perm.refl _)]
      rfl
    have hperm := hclaim (single 0) ⟨5, 1, 0, 0⟩ quiet _ _ (by decide) (by decide) rfl
      (Reaches.step (Reaches.step ⟨_, begin_single 0 _⟩ hrow) hplaces) (by simp) (by simp [since, Since.note]) rfl
    have hlength := hperm.length_eq
    exact absurd hlength (by decide)

end Examples

end DTwin.Ingest.SensorRegistry
