import DTwin.Copilot.State
import DTwin.Lib.Machine
import DTwin.Lib.Text
import Mathlib.Data.List.Dedup
import Mathlib.Data.List.Induction
import Mathlib.Data.List.Perm.Subperm

/-!
# DTwin.Copilot.Records — the evidence of a request

`mergeRecord` of `apps/web/lib/copilot/state.ts`, `evidenceAllocator` of `tools/common.ts` and `claimEvidence` of
`registry.ts`, with the parts of the graph that hand records on: `intake` and `orient` begin a request, the planner
dispatches a wave of tasks, the `tools` node of each seals the drafts its turn accepted, and the maps of a wave are
merged when all of it is done, in any order.  A straggler is a task of an earlier request on the thread, which is
charged to the entry that is open now.

`records_kept` follows the records of a request over every run.
-/

namespace DTwin.Copilot.Records

open OrderedMap Machine

/-! ## Ids -/

/-- `\d{1,2}`. -/
def isOneOrTwoDigits (ds : List Char) : Bool := (ds.length == 1 || ds.length == 2) && ds.all Char.isDigit

/-- `EVIDENCE_ID_RE`. -/
def isEvidenceId (id : String) : Bool :=
  match id.toList with
  | ['C', '.', d] => decide ('1' ≤ d) && decide (d ≤ '3')
  | 'T' :: k :: '.' :: 'E' :: ds => decide ('1' ≤ k) && decide (k ≤ '8') && isOneOrTwoDigits ds
  | 'K' :: '.' :: 'E' :: ds => isOneOrTwoDigits ds
  | _ => false

def evidenceId (taskId : String) (n : ℕ) : String := taskId ++ ".E" ++ toString n

/-- The task of the planner's that has the number. -/
def taskId (k : ℕ) : String := "T" ++ toString k

/-! ## The allocator -/

structure Record (δ : Type) where
  id : String
  taskId : String
  draft : δ
deriving DecidableEq

/-- `claimEvidence` would succeed. -/
def canClaim (maxEvidencePerRequest : ℕ) (evidenceCount : Option ℕ) : Bool :=
  match evidenceCount with
  | none => false
  | some n => decide (n < maxEvidencePerRequest)

/-- `next` of an allocator that has handed out `n`: the id, and the count after the claim. -/
def nextId (max : ℕ) (task : String) (n : ℕ) (evidenceCount : Option ℕ) : Option String × Option ℕ :=
  let id := evidenceId task (n + 1)
  if isEvidenceId id && canClaim max evidenceCount then (some id, evidenceCount.map (· + 1)) else (none, evidenceCount)

variable {δ : Type}

/-- The records of the accepted drafts of a turn, in call order, and the count after them. -/
def sealDrafts (max : ℕ) (task : String) : ℕ → Option ℕ → List δ → List (Record δ) × Option ℕ
  | _, count, [] => ([], count)
  | n, count, d :: ds =>
    match nextId max task n count with
    | (none, count) => sealDrafts max task n count ds
    | (some id, count) =>
      let (records, count) := sealDrafts max task (n + 1) count ds
      (⟨id, task, d⟩ :: records, count)

/-! ## A request -/

abbrev RecordMap (δ : Type) := OrderedMap String (Record δ)

/-- A specialist that runs: how many it has numbered, and what it holds. -/
structure Worker (δ : Type) where
  taskId : String
  evidenceSeq : ℕ
  evidence : RecordMap δ

structure Sys (δ : Type) where
  /-- The count of the entry that is open. -/
  evidenceCount : Option ℕ
  evidence : RecordMap δ
  taskSeq : ℕ
  running : List (Worker δ)
  /-- The controller has been given its task. -/
  controlled : Bool

inductive Act (δ : Type)
  /-- A new message: the request begins, and `orient` may have read the building. -/
  | begin (configured : Option (δ × δ × δ))
  | dispatch (n : ℕ)
  | control
  /-- A turn of a task, with the drafts that were accepted. -/
  | tools (task : String) (drafts : List δ)
  | straggle
  /-- The wave is done, and merged in this order. -/
  | join (order : List String)
  /-- The request is closed. -/
  | close

inductive Obs (δ : Type)
  | began (configured : RecordMap δ)
  | issued (record : Record δ)
  | merged (held inc : RecordMap δ)

/-- What `orient` writes. -/
def configuredOf (configured : Option (δ × δ × δ)) : RecordMap δ :=
  match configured with
  | none => .empty
  | some (a, b, c) => ((OrderedMap.empty.set "C.1" ⟨"C.1", "C", a⟩).set "C.2" ⟨"C.2", "C", b⟩).set "C.3" ⟨"C.3", "C", c⟩

/-- `Object.fromEntries(turn.evidence.map((e) => [e.id, e]))`. -/
def fromRecords (records : List (Record δ)) : RecordMap δ := ofList Record.id records

/-- A turn of a worker. -/
def Worker.turn (w : Worker δ) (records : List (Record δ)) : Worker δ :=
  { w with
    evidenceSeq := w.evidenceSeq + records.length
    evidence := mergeRecord w.evidence (some (fromRecords records)) }

/-- The maps of a wave, merged in order. -/
def mergeAll (held : RecordMap δ) (incs : List (RecordMap δ)) : RecordMap δ :=
  incs.foldl (fun held inc => mergeRecord held (some inc)) held

/-- What each merge finds and is given. -/
def merges (held : RecordMap δ) : List (RecordMap δ) → List (Obs δ)
  | [] => []
  | inc :: incs => .merged held inc :: merges (mergeRecord held (some inc)) incs

/-- The maps of the tasks in an order. -/
def Sys.mapsIn (s : Sys δ) (order : List String) : List (RecordMap δ) :=
  order.filterMap fun task => (s.running.find? fun w => w.taskId = task).map (·.evidence)

def Sys.init : Sys δ := ⟨none, .empty, 0, [], false⟩

def step (max : ℕ) (s : Sys δ) : Act δ → Option (Sys δ × List (Obs δ))
  | .begin configured =>
    some (⟨some 0, mergeRecord (mergeRecord s.evidence none) (some (configuredOf configured)), 0, [], false⟩,
      [.began (configuredOf configured)])
  | .dispatch n =>
    if s.running.isEmpty && !s.controlled then
      some ({ s with
        taskSeq := s.taskSeq + n
        running := (List.range n).map fun i => ⟨taskId (s.taskSeq + i + 1), 0, .empty⟩ }, [])
    else none
  | .control =>
    if s.running.isEmpty && !s.controlled then
      some ({ s with running := [⟨"K", 0, s.evidence⟩], controlled := true }, [])
    else none
  | .tools task drafts =>
    match s.running.find? fun w => w.taskId = task with
    | none => none
    | some w =>
      let (records, count) := sealDrafts max task w.evidenceSeq s.evidenceCount drafts
      some ({ s with
        evidenceCount := count
        running := s.running.map fun w => if w.taskId = task then w.turn records else w },
        records.map .issued ++ [.merged w.evidence (fromRecords records)])
  | .straggle =>
    some ({ s with
      evidenceCount := if canClaim max s.evidenceCount then s.evidenceCount.map (· + 1) else s.evidenceCount }, [])
  | .join order =>
    if order.Perm (s.running.map (·.taskId)) then
      some ({ s with evidence := mergeAll s.evidence (s.mapsIn order), running := [] },
        merges s.evidence (s.mapsIn order))
    else none
  | .close => some ({ s with evidenceCount := none }, [])

def request (δ : Type) (max : ℕ) : Machine (Sys δ) (Act δ) (Obs δ) := ⟨step max⟩

/-! ## Ids are told apart -/

theorem point_not_mem (n : ℕ) : '.' ∉ (toString n).toList := by
  intro hmem
  have hdigit := Text.isDigit_of_mem_toString hmem
  exact absurd hdigit (by decide)

/-- The id of a record tells its task and its number. -/
theorem evidenceId_injective {t t' : String} {n n' : ℕ} (ht : '.' ∉ t.toList) (ht' : '.' ∉ t'.toList)
    (h : evidenceId t n = evidenceId t' n') : t = t' ∧ n = n' := by
  have hlist := congrArg String.toList h
  simp only [evidenceId, String.toList_append, List.append_assoc] at hlist
  obtain ⟨htask, hrest⟩ := Text.append_separator ht ht' hlist
  exact ⟨String.ext htask, Text.toString_injective (String.ext (List.cons.inj hrest).2)⟩

/-- A task of the request: one the planner has dispatched, or the controller's. -/
def IsTask (seq : ℕ) (controlled : Bool) (t : String) : Prop :=
  (∃ k ≤ seq, t = taskId k) ∨ (t = "K" ∧ controlled = true)

theorem point_not_mem_taskId (k : ℕ) : '.' ∉ (taskId k).toList := by
  rw [taskId, String.toList_append, List.mem_append, not_or]
  exact ⟨by decide, point_not_mem k⟩

theorem IsTask.no_point {seq : ℕ} {controlled : Bool} {t : String} (h : IsTask seq controlled t) : '.' ∉ t.toList := by
  rcases h with ⟨k, -, rfl⟩ | ⟨rfl, -⟩
  · exact point_not_mem_taskId k
  · decide

theorem taskId_ne_K (k : ℕ) : taskId k ≠ "K" := by
  intro h
  have hlist := congrArg String.toList h
  rw [taskId, String.toList_append] at hlist
  exact absurd (List.cons.inj hlist).1 (by decide)

theorem taskId_injective {k k' : ℕ} (h : taskId k = taskId k') : k = k' := by
  have hlist := congrArg String.toList h
  rw [taskId, taskId, String.toList_append, String.toList_append] at hlist
  exact Text.toString_injective (String.ext (List.append_cancel_left hlist))

/-- No record of a task has an id of `orient`'s. -/
theorem evidenceId_not_configured {seq : ℕ} {controlled : Bool} {t : String} (h : IsTask seq controlled t) (n : ℕ) :
    evidenceId t n ∉ ["C.1", "C.2", "C.3"] := by
  have hfirst : (evidenceId t n).toList.head? ≠ some 'C' := by
    rcases h with ⟨k, -, rfl⟩ | ⟨rfl, -⟩
    · simp [evidenceId, taskId]
    · simp [evidenceId]
  intro hmem
  simp only [List.mem_cons, List.not_mem_nil, or_false] at hmem
  rcases hmem with heq | heq | heq <;> exact hfirst (by rw [heq]; rfl)

/-! ## Merging -/

theorem get?_mergeRecord {ν : Type} (held inc : OrderedMap String ν) (id : String) :
    (mergeRecord held (some inc)).get? id = (inc.get? id).or (held.get? id) := by
  obtain ⟨entries, hnodup⟩ := inc
  show (entries.foldl (fun m e => m.set e.1 e.2) held).get? id = _
  induction entries generalizing held with
  | nil => rfl
  | cons e entries ih =>
    obtain ⟨hfirst, hrest⟩ := List.nodup_cons.mp hnodup
    rw [List.foldl_cons, ih (held.set e.1 e.2) hrest, get?_set]
    by_cases hid : e.1 = id
    · have hnone : (⟨entries, hrest⟩ : OrderedMap String ν).get? id = none := by
        rw [Option.eq_none_iff_forall_ne_some]
        intro v hv
        have hmem := mem_entries.mpr hv
        exact hfirst (List.mem_map.mpr ⟨_, hmem, hid.symm⟩)
      rw [hnone, if_pos hid]
      simp [get?, hid]
    · rw [if_neg hid]
      simp [get?, hid]

/-- What the records of a map may be. -/
def Drawn (V : String → Record δ → Prop) (m : RecordMap δ) : Prop := ∀ id r, m.get? id = some r → V id r

variable {V : String → Record δ → Prop} {held inc : RecordMap δ}

theorem drawn_empty (V : String → Record δ → Prop) : Drawn V .empty := nofun

theorem Drawn.mono {V' : String → Record δ → Prop} (h : Drawn V held) (hV : ∀ id r, V id r → V' id r) : Drawn V' held :=
  fun id r hr => hV id r (h id r hr)

theorem Drawn.merge (h : Drawn V held) (hinc : Drawn V inc) : Drawn V (mergeRecord held (some inc)) := by
  intro id r hr
  rw [get?_mergeRecord] at hr
  rcases Option.or_eq_some_iff.mp hr with hr | ⟨-, hr⟩
  · exact hinc id r hr
  · exact h id r hr

/-- **A merge replaces nothing**, where an id has one record. -/
theorem merge_keeps (hV : ∀ id r r', V id r → V id r' → r = r') (h : Drawn V held) (hinc : Drawn V inc) {id : String}
    {r : Record δ} (hr : held.get? id = some r) : (mergeRecord held (some inc)).get? id = some r := by
  rw [get?_mergeRecord]
  cases hnew : inc.get? id with
  | none => exact hr
  | some r' => rw [hV id r r' (h id r hr) (hinc id r' hnew), Option.some_or]

/-- What is in maps that are merged was in one of them. -/
theorem get?_mergeAll (hV : ∀ id r r', V id r → V id r' → r = r') {incs : List (RecordMap δ)} (h : Drawn V held)
    (hincs : ∀ inc ∈ incs, Drawn V inc) (id : String) (r : Record δ) :
    (mergeAll held incs).get? id = some r ↔ held.get? id = some r ∨ ∃ inc ∈ incs, inc.get? id = some r := by
  induction incs generalizing held with
  | nil => simp [mergeAll]
  | cons inc incs ih =>
    have hinc := hincs inc List.mem_cons_self
    have hrest := ih (h.merge hinc) fun inc' hmem => hincs inc' (List.mem_cons_of_mem _ hmem)
    show (mergeAll (mergeRecord held (some inc)) incs).get? id = some r ↔ _
    rw [hrest, List.exists_mem_cons_iff, ← or_assoc]
    refine or_congr_left ⟨fun hr => ?_, fun hr => ?_⟩
    · rw [get?_mergeRecord] at hr
      rcases Option.or_eq_some_iff.mp hr with hr | ⟨-, hr⟩
      · exact Or.inr hr
      · exact Or.inl hr
    · rcases hr with hr | hr
      · exact merge_keeps hV h hinc hr
      · rw [get?_mergeRecord, hr]
        rfl

theorem drawn_mergeAll {incs : List (RecordMap δ)} (h : Drawn V held) (hincs : ∀ inc ∈ incs, Drawn V inc) :
    Drawn V (mergeAll held incs) := by
  induction incs generalizing held with
  | nil => exact h
  | cons inc incs ih =>
    exact ih (h.merge (hincs inc List.mem_cons_self)) fun inc' hmem => hincs inc' (List.mem_cons_of_mem _ hmem)

/-- Every merge of a wave is of such maps. -/
theorem merges_drawn {incs : List (RecordMap δ)} (h : Drawn V held) (hincs : ∀ inc ∈ incs, Drawn V inc)
    {held' inc' : RecordMap δ} (hx : .merged held' inc' ∈ merges held incs) : Drawn V held' ∧ Drawn V inc' := by
  induction incs generalizing held with
  | nil => cases hx
  | cons inc incs ih =>
    have hinc := hincs inc List.mem_cons_self
    rcases List.mem_cons.mp hx with heq | hx
    · obtain ⟨rfl, rfl⟩ := Obs.merged.inj heq
      exact ⟨h, hinc⟩
    · exact ih (h.merge hinc) (fun inc' hmem => hincs inc' (List.mem_cons_of_mem _ hmem)) hx

/-! ## A turn -/

/-- What a turn seals: records of the task, numbered on, as many as there is room for. -/
structure Sealed (max : ℕ) (task : String) (n : ℕ) (count : Option ℕ) (records : List (Record δ)) (count' : Option ℕ) :
    Prop where
  id_eq : ∀ i (h : i < records.length), (records.get ⟨i, h⟩).id = evidenceId task (n + i + 1)
  task_eq : ∀ r ∈ records, r.taskId = task
  count_eq : count' = count.map (· + records.length)
  closed : count = none → records = []
  room : ∀ c, count = some c → c ≤ max → c + records.length ≤ max

theorem sealDrafts_spec (max : ℕ) (task : String) (drafts : List δ) (n : ℕ) (count : Option ℕ) :
    Sealed max task n count (sealDrafts max task n count drafts).1 (sealDrafts max task n count drafts).2 := by
  induction drafts generalizing n count with
  | nil =>
    refine ⟨fun i h => absurd h (Nat.not_lt_zero i), nofun, ?_, fun _ => rfl, fun c _ h => h⟩
    cases count <;> rfl
  | cons d drafts ih =>
    unfold sealDrafts nextId
    by_cases hnext : (isEvidenceId (evidenceId task (n + 1)) && canClaim max count) = true
    · have hrest := ih (n + 1) (count.map (· + 1))
      have hclaim := (Bool.and_eq_true_iff.mp hnext).2
      simp only [hnext, if_true]
      obtain ⟨c, rfl⟩ : ∃ c, count = some c := by
        cases count with
        | none => cases hclaim
        | some c => exact ⟨c, rfl⟩
      have hlt : c < max := of_decide_eq_true hclaim
      refine ⟨fun i h => ?_, fun r hr => ?_, ?_, nofun, fun c' hc' hle => ?_⟩
      · cases i with
        | zero => rfl
        | succ i =>
          have hid := hrest.id_eq i (Nat.lt_of_succ_lt_succ h)
          have hnumber : n + 1 + i + 1 = n + (i + 1) + 1 := by omega
          rw [hnumber] at hid
          exact hid
      · rcases List.mem_cons.mp hr with rfl | hr
        · rfl
        · exact hrest.task_eq r hr
      · rw [hrest.count_eq, Option.map_some, Option.map_some, Option.map_some, List.length_cons]
        congr 1
        omega
      · have hroom := hrest.room (c + 1) rfl hlt
        obtain rfl := Option.some.inj hc'
        rw [List.length_cons]
        omega
    · simp only [hnext, if_false, Bool.false_eq_true]
      exact ih n count

theorem get?_fromRecords {records : List (Record δ)} {id : String} {r : Record δ}
    (h : (fromRecords records).get? id = some r) : r ∈ records ∧ r.id = id := by
  rw [fromRecords, get?_ofList] at h
  exact lastOf_some h

/-! ## The records of a request -/

/-- What the request has issued. -/
def issuedOf (h : List (Obs δ)) : List (Record δ) :=
  h.foldl (fun l x => match x with
    | .began _ => []
    | .issued r => l ++ [r]
    | .merged _ _ => l) []

/-- What `orient` wrote for it. -/
def configuredIn (h : List (Obs δ)) : RecordMap δ :=
  h.foldl (fun m x => match x with
    | .began configured => configured
    | _ => m) .empty

/-- A record of the request, under its id. -/
def Of (h : List (Obs δ)) (id : String) (r : Record δ) : Prop :=
  (configuredIn h).get? id = some r ∨ (r ∈ issuedOf h ∧ r.id = id)

/-- No merge has replaced a record. -/
def Unreplaced (h : List (Obs δ)) : Prop :=
  ∀ held inc, .merged held inc ∈ h → ∀ id r, held.get? id = some r → (mergeRecord held (some inc)).get? id = some r

structure Kept (max : ℕ) (s : Sys δ) (h : List (Obs δ)) : Prop where
  count : ∀ c, s.evidenceCount = some c → c ≤ max ∧ (issuedOf h).length ≤ c
  total : (issuedOf h).length ≤ max
  tasks : ∀ r ∈ issuedOf h, IsTask s.taskSeq s.controlled r.taskId
  ids : ∀ r ∈ issuedOf h, ∃ n, r.id = evidenceId r.taskId n ∧ ∀ w ∈ s.running, w.taskId = r.taskId → n ≤ w.evidenceSeq
  nodup : ((issuedOf h).map (·.id)).Nodup
  workers : ∀ w ∈ s.running, IsTask s.taskSeq s.controlled w.taskId
  distinct : (s.running.map (·.taskId)).Nodup
  configured : ∀ id r, (configuredIn h).get? id = some r → id ∈ ["C.1", "C.2", "C.3"]
  held : Drawn (Of h) s.evidence
  own : ∀ w ∈ s.running, Drawn (Of h) w.evidence
  unreplaced : Unreplaced h

section Histories

variable {h : List (Obs δ)}

theorem issuedOf_issued (h : List (Obs δ)) (records : List (Record δ)) :
    issuedOf (h ++ records.map .issued) = issuedOf h ++ records := by
  induction records using List.reverseRecOn with
  | nil => simp
  | append_singleton records r ih =>
    rw [List.map_append, ← List.append_assoc, List.map_singleton, issuedOf, List.foldl_append, ← issuedOf, ih]
    simp

theorem configuredIn_issued (h : List (Obs δ)) (records : List (Record δ)) :
    configuredIn (h ++ records.map .issued) = configuredIn h := by
  induction records using List.reverseRecOn with
  | nil => simp
  | append_singleton records r ih =>
    rw [List.map_append, ← List.append_assoc, List.map_singleton, configuredIn, List.foldl_append, ← configuredIn, ih]
    rfl

theorem issuedOf_merged (h : List (Obs δ)) (held inc : RecordMap δ) :
    issuedOf (h ++ [.merged held inc]) = issuedOf h := by
  simp [issuedOf]

theorem configuredIn_merged (h : List (Obs δ)) (held inc : RecordMap δ) :
    configuredIn (h ++ [.merged held inc]) = configuredIn h := by
  simp [configuredIn]

theorem merges_append (h : List (Obs δ)) (held : RecordMap δ) (incs : List (RecordMap δ)) :
    issuedOf (h ++ merges held incs) = issuedOf h ∧ configuredIn (h ++ merges held incs) = configuredIn h := by
  induction incs generalizing h held with
  | nil => simp [merges]
  | cons inc incs ih =>
    have hrest := ih (h ++ [.merged held inc]) (mergeRecord held (some inc))
    rw [issuedOf_merged, configuredIn_merged, List.append_assoc] at hrest
    exact hrest

theorem of_congr {h' : List (Obs δ)} (hissued : issuedOf h' = issuedOf h)
    (hconfigured : configuredIn h' = configuredIn h) {id : String} {r : Record δ} (hr : Of h id r) : Of h' id r := by
  unfold Of
  rw [hissued, hconfigured]
  exact hr

theorem Unreplaced.append {o : List (Obs δ)} (hU : Unreplaced h) (ho : Unreplaced o) : Unreplaced (h ++ o) := by
  intro held inc hx
  rcases List.mem_append.mp hx with hx | hx
  · exact hU held inc hx
  · exact ho held inc hx

end Histories

variable {max : ℕ} {s s' : Sys δ} {h : List (Obs δ)}

/-- **An id has one record.** -/
theorem Kept.functional (hK : Kept max s h) {id : String} {r r' : Record δ} (hr : Of h id r) (hr' : Of h id r') :
    r = r' := by
  have hissued : ∀ {q : Record δ}, q ∈ issuedOf h → q.id ∉ ["C.1", "C.2", "C.3"] := by
    intro q hq
    obtain ⟨n, hn, -⟩ := hK.ids q hq
    rw [hn]
    exact evidenceId_not_configured (hK.tasks q hq) n
  rcases hr with hr | ⟨hr, rfl⟩
  · rcases hr' with hr' | ⟨hr', rfl⟩
    · exact Option.some.inj (hr.symm.trans hr')
    · exact absurd (hK.configured _ _ hr) (hissued hr')
  · rcases hr' with hr' | ⟨hr', hid⟩
    · exact absurd (hK.configured _ _ hr') (hissued hr)
    · exact List.inj_on_of_nodup_map hK.nodup hr hr' hid.symm

theorem kept_init (max : ℕ) : Kept max (Sys.init : Sys δ) [] where
  count := nofun
  total := Nat.zero_le max
  tasks := nofun
  ids := nofun
  nodup := List.nodup_nil
  workers := nofun
  distinct := List.nodup_nil
  configured := nofun
  held := drawn_empty _
  own := nofun
  unreplaced := nofun

theorem configuredOf_ids {configured : Option (δ × δ × δ)} {id : String} {r : Record δ}
    (hr : (configuredOf configured).get? id = some r) : id ∈ ["C.1", "C.2", "C.3"] := by
  cases configured with
  | none => cases hr
  | some c =>
    simp only [configuredOf, get?_set] at hr
    simp only [List.mem_cons, List.not_mem_nil, or_false]
    split_ifs at hr with h₃ h₂ h₁
    · exact Or.inr (Or.inr h₃.symm)
    · exact Or.inr (Or.inl h₂.symm)
    · exact Or.inl h₁.symm
    · cases hr

/-- A request begins. -/
theorem kept_begin (hK : Kept max s h) (configured : Option (δ × δ × δ)) :
    Kept max ⟨some 0, mergeRecord (mergeRecord s.evidence none) (some (configuredOf configured)), 0, [], false⟩
      (h ++ [.began (configuredOf configured)]) := by
  have hissued : issuedOf (h ++ [.began (configuredOf configured)]) = [] := by simp [issuedOf]
  have hconfigured : configuredIn (h ++ [.began (configuredOf configured)]) = configuredOf configured := by
    simp [configuredIn]
  constructor
  · intro c hc
    obtain rfl := Option.some.inj hc
    rw [hissued]
    exact ⟨Nat.zero_le max, le_rfl⟩
  · rw [hissued]
    exact Nat.zero_le max
  · rw [hissued]
    nofun
  · rw [hissued]
    nofun
  · rw [hissued]
    exact List.nodup_nil
  · nofun
  · exact List.nodup_nil
  · rw [hconfigured]
    exact fun id r hr => configuredOf_ids hr
  · intro id r hr
    rw [get?_mergeRecord] at hr
    rcases Option.or_eq_some_iff.mp hr with hr | ⟨-, hr⟩
    · left
      rw [hconfigured]
      exact hr
    · cases hr
  · nofun
  · refine hK.unreplaced.append ?_
    intro held inc hx
    simp at hx

theorem Kept.dispatch (hK : Kept max s h) (hcontrolled : s.controlled = false) (n : ℕ) :
    Kept max { s with
      taskSeq := s.taskSeq + n
      running := (List.range n).map fun i => ⟨taskId (s.taskSeq + i + 1), 0, .empty⟩ } h := by
  have hnew : ∀ w ∈ (List.range n).map (fun i => (⟨taskId (s.taskSeq + i + 1), 0, .empty⟩ : Worker δ)),
      ∃ i < n, w = ⟨taskId (s.taskSeq + i + 1), 0, .empty⟩ := by
    intro w hw
    obtain ⟨i, hi, rfl⟩ := List.mem_map.mp hw
    exact ⟨i, List.mem_range.mp hi, rfl⟩
  have htask : ∀ {t : String}, IsTask s.taskSeq s.controlled t → IsTask (s.taskSeq + n) s.controlled t := by
    rintro t (⟨k, hk, rfl⟩ | hctl)
    · exact Or.inl ⟨k, by omega, rfl⟩
    · exact Or.inr hctl
  refine ⟨hK.count, hK.total, fun r hr => htask (hK.tasks r hr), fun r hr => ?_, hK.nodup, fun w hw => ?_, ?_,
    hK.configured, hK.held, fun w hw => ?_, hK.unreplaced⟩
  · obtain ⟨m, hm, -⟩ := hK.ids r hr
    refine ⟨m, hm, fun w hw heq => ?_⟩
    obtain ⟨i, -, rfl⟩ := hnew w hw
    rcases hK.tasks r hr with ⟨k, hk, hkr⟩ | ⟨-, hctl⟩
    · have hsame := taskId_injective (heq.trans hkr)
      omega
    · rw [hcontrolled] at hctl
      cases hctl
  · obtain ⟨i, hi, rfl⟩ := hnew w hw
    have hle : s.taskSeq + i + 1 ≤ s.taskSeq + n := by omega
    exact Or.inl ⟨s.taskSeq + i + 1, hle, rfl⟩
  · rw [List.map_map]
    refine List.Nodup.map_on (fun i _ j _ hij => ?_) List.nodup_range
    have hsame := taskId_injective hij
    omega
  · obtain ⟨i, -, rfl⟩ := hnew w hw
    exact drawn_empty _

theorem Kept.control (hK : Kept max s h) (hcontrolled : s.controlled = false) :
    Kept max { s with running := [⟨"K", 0, s.evidence⟩], controlled := true } h := by
  have htask : ∀ {t : String}, IsTask s.taskSeq s.controlled t → ∃ k ≤ s.taskSeq, t = taskId k := by
    rintro t (hk | ⟨-, hctl⟩)
    · exact hk
    · rw [hcontrolled] at hctl
      cases hctl
  refine ⟨hK.count, hK.total, fun r hr => Or.inl (htask (hK.tasks r hr)), fun r hr => ?_, hK.nodup, fun w hw => ?_,
    List.nodup_singleton _, hK.configured, hK.held, fun w hw => ?_, hK.unreplaced⟩
  · obtain ⟨m, hm, -⟩ := hK.ids r hr
    refine ⟨m, hm, fun w hw heq => ?_⟩
    obtain rfl := List.mem_singleton.mp hw
    obtain ⟨k, -, hk⟩ := htask (hK.tasks r hr)
    exact absurd (heq.trans hk).symm (taskId_ne_K k)
  · obtain rfl := List.mem_singleton.mp hw
    exact Or.inr ⟨rfl, rfl⟩
  · obtain rfl := List.mem_singleton.mp hw
    exact hK.held

theorem of_issued {records : List (Record δ)} {id : String} {r : Record δ} (hr : Of h id r) :
    Of (h ++ records.map .issued) id r := by
  unfold Of
  rw [issuedOf_issued, configuredIn_issued]
  rcases hr with hr | ⟨hr, hid⟩
  · exact Or.inl hr
  · exact Or.inr ⟨List.mem_append_left _ hr, hid⟩

theorem turn_taskId (w : Worker δ) (task : String) (records : List (Record δ)) :
    (if w.taskId = task then w.turn records else w).taskId = w.taskId := by
  split_ifs <;> rfl

theorem map_turn_taskId (workers : List (Worker δ)) (task : String) (records : List (Record δ)) :
    (workers.map fun w => if w.taskId = task then w.turn records else w).map (·.taskId) = workers.map (·.taskId) := by
  rw [List.map_map]
  exact List.map_congr_left fun w _ => turn_taskId w task records

/-- A turn of a worker issues its records: their ids are new, and there was room. -/
theorem Kept.issue (hK : Kept max s h) {w : Worker δ} (hw : w ∈ s.running) {records : List (Record δ)}
    {count : Option ℕ} (hsealed : Sealed max w.taskId w.evidenceSeq s.evidenceCount records count) :
    Kept max { s with
      evidenceCount := count
      running := s.running.map fun w' => if w'.taskId = w.taskId then w'.turn records else w' }
      (h ++ records.map .issued) := by
  have htask : IsTask s.taskSeq s.controlled w.taskId := hK.workers w hw
  have hnumber : ∀ r ∈ records, ∃ i < records.length, r.id = evidenceId w.taskId (w.evidenceSeq + i + 1) := by
    intro r hr
    obtain ⟨i, hi, rfl⟩ := List.mem_iff_getElem.mp hr
    exact ⟨i, hi, hsealed.id_eq i hi⟩
  have hfresh : ∀ q ∈ issuedOf h, ∀ r ∈ records, q.id ≠ r.id := by
    intro q hq r hr heq
    obtain ⟨n, hn, hbound⟩ := hK.ids q hq
    obtain ⟨i, -, hi⟩ := hnumber r hr
    obtain ⟨hsame, hcount⟩ :=
      evidenceId_injective (hK.tasks q hq).no_point htask.no_point (hn.symm.trans (heq.trans hi))
    have hle := hbound w hw hsame.symm
    omega
  have hdistinct : (records.map (·.id)).Nodup := by
    rw [List.nodup_iff_injective_get]
    intro i j hij
    have hi := hsealed.id_eq i.1 (by simpa using i.2)
    have hj := hsealed.id_eq j.1 (by simpa using j.2)
    have hids : evidenceId w.taskId (w.evidenceSeq + i.1 + 1) = evidenceId w.taskId (w.evidenceSeq + j.1 + 1) := by
      rw [← hi, ← hj]
      simpa using hij
    have hcount := (evidenceId_injective htask.no_point htask.no_point hids).2
    exact Fin.ext (by omega)
  have hkept : Drawn (Of (h ++ records.map .issued)) (fromRecords records) := by
    intro id r hr
    obtain ⟨hmem, hid⟩ := get?_fromRecords hr
    unfold Of
    rw [issuedOf_issued]
    exact Or.inr ⟨List.mem_append_right _ hmem, hid⟩
  constructor
  · intro c hc
    rw [issuedOf_issued, List.length_append]
    have hcount : s.evidenceCount.map (· + records.length) = some c := hsealed.count_eq.symm.trans hc
    obtain ⟨c₀, hc₀, rfl⟩ := Option.map_eq_some_iff.mp hcount
    have hroom := hsealed.room c₀ hc₀ (hK.count c₀ hc₀).1
    have hsofar := (hK.count c₀ hc₀).2
    exact ⟨hroom, by omega⟩
  · rw [issuedOf_issued, List.length_append]
    cases hc : s.evidenceCount with
    | none =>
      rw [hsealed.closed hc]
      exact hK.total
    | some c =>
      have hroom := hsealed.room c hc (hK.count c hc).1
      have hsofar := (hK.count c hc).2
      omega
  · rw [issuedOf_issued]
    intro r hr
    rcases List.mem_append.mp hr with hr | hr
    · exact hK.tasks r hr
    · rw [hsealed.task_eq r hr]
      exact htask
  · rw [issuedOf_issued]
    intro r hr
    rcases List.mem_append.mp hr with hr | hr
    · obtain ⟨n, hn, hbound⟩ := hK.ids r hr
      refine ⟨n, hn, fun w' hw' heq => ?_⟩
      obtain ⟨w₀, hw₀, rfl⟩ := List.mem_map.mp hw'
      rw [turn_taskId] at heq
      have hle := hbound w₀ hw₀ heq
      split_ifs
      · exact Nat.le_add_right_of_le hle
      · exact hle
    · obtain ⟨i, hi, hid⟩ := hnumber r hr
      refine ⟨w.evidenceSeq + i + 1, ?_, fun w' hw' heq => ?_⟩
      · rw [hsealed.task_eq r hr]
        exact hid
      · obtain ⟨w₀, hw₀, rfl⟩ := List.mem_map.mp hw'
        rw [turn_taskId, hsealed.task_eq r hr] at heq
        obtain rfl : w₀ = w := List.inj_on_of_nodup_map hK.distinct hw₀ hw heq
        rw [if_pos rfl]
        show w₀.evidenceSeq + i + 1 ≤ w₀.evidenceSeq + records.length
        omega
  · rw [issuedOf_issued, List.map_append]
    refine List.nodup_append'.mpr ⟨hK.nodup, hdistinct, ?_⟩
    intro id hid hid'
    obtain ⟨q, hq, rfl⟩ := List.mem_map.mp hid
    obtain ⟨r, hr, hrq⟩ := List.mem_map.mp hid'
    exact hfresh q hq r hr hrq.symm
  · intro w' hw'
    obtain ⟨w₀, hw₀, rfl⟩ := List.mem_map.mp hw'
    rw [turn_taskId]
    exact hK.workers w₀ hw₀
  · show ((s.running.map fun w' => if w'.taskId = w.taskId then w'.turn records else w').map (·.taskId)).Nodup
    rw [map_turn_taskId]
    exact hK.distinct
  · rw [configuredIn_issued]
    exact hK.configured
  · exact hK.held.mono fun id r => of_issued
  · intro w' hw'
    obtain ⟨w₀, hw₀, rfl⟩ := List.mem_map.mp hw'
    have hown : Drawn (Of (h ++ records.map .issued)) w₀.evidence := (hK.own w₀ hw₀).mono fun id r => of_issued
    split_ifs
    · exact hown.merge hkept
    · exact hown
  · refine hK.unreplaced.append ?_
    intro held inc hx
    simp at hx

/-- Merges of maps of the request keep what is kept. -/
theorem Kept.merged (hK : Kept max s h) {o : List (Obs δ)} (hissued : issuedOf (h ++ o) = issuedOf h)
    (hconfigured : configuredIn (h ++ o) = configuredIn h)
    (ho : ∀ x ∈ o, ∃ held inc, x = .merged held inc ∧ Drawn (Of h) held ∧ Drawn (Of h) inc) : Kept max s (h ++ o) where
  count := by rw [hissued]; exact hK.count
  total := by rw [hissued]; exact hK.total
  tasks := by rw [hissued]; exact hK.tasks
  ids := by rw [hissued]; exact hK.ids
  nodup := by rw [hissued]; exact hK.nodup
  workers := hK.workers
  distinct := hK.distinct
  configured := by rw [hconfigured]; exact hK.configured
  held := hK.held.mono fun _ _ => of_congr hissued hconfigured
  own := fun w hw => (hK.own w hw).mono fun _ _ => of_congr hissued hconfigured
  unreplaced := by
    refine hK.unreplaced.append fun held inc hx id r hr => ?_
    obtain ⟨held', inc', heq, hheld, hinc⟩ := ho _ hx
    obtain ⟨rfl, rfl⟩ := Obs.merged.inj heq
    have hone : ∀ id r r', Of h id r → Of h id r' → r = r' := fun id r r' => hK.functional
    exact merge_keeps hone hheld hinc hr

theorem Kept.tools (hK : Kept max s h) {task : String} {w : Worker δ}
    (hfind : s.running.find? (fun w => w.taskId = task) = some w) (drafts : List δ) :
    Kept max { s with
      evidenceCount := (sealDrafts max task w.evidenceSeq s.evidenceCount drafts).2
      running := s.running.map fun w' =>
        if w'.taskId = task then w'.turn (sealDrafts max task w.evidenceSeq s.evidenceCount drafts).1 else w' }
      (h ++ ((sealDrafts max task w.evidenceSeq s.evidenceCount drafts).1.map .issued ++
        [.merged w.evidence (fromRecords (sealDrafts max task w.evidenceSeq s.evidenceCount drafts).1)])) := by
  have hw : w ∈ s.running := List.mem_of_find?_eq_some hfind
  obtain rfl : w.taskId = task := by simpa using List.find?_some hfind
  have hsealed := sealDrafts_spec max w.taskId drafts w.evidenceSeq s.evidenceCount
  have hissue := hK.issue hw hsealed
  rw [← List.append_assoc]
  refine hissue.merged (issuedOf_merged _ _ _) (configuredIn_merged _ _ _) fun x hx => ?_
  refine ⟨w.evidence, _, List.mem_singleton.mp hx, (hK.own w hw).mono fun id r => of_issued, fun id r hr => ?_⟩
  obtain ⟨hmem, hid⟩ := get?_fromRecords hr
  unfold Of
  rw [issuedOf_issued]
  exact Or.inr ⟨List.mem_append_right _ hmem, hid⟩

theorem Kept.straggle (hK : Kept max s h) :
    Kept max { s with
      evidenceCount := if canClaim max s.evidenceCount then s.evidenceCount.map (· + 1) else s.evidenceCount } h := by
  refine ⟨fun c hc => ?_, hK.total, hK.tasks, hK.ids, hK.nodup, hK.workers, hK.distinct, hK.configured, hK.held, hK.own,
    hK.unreplaced⟩
  have hcount : (if canClaim max s.evidenceCount then s.evidenceCount.map (· + 1) else s.evidenceCount) = some c := hc
  split_ifs at hcount with hclaim
  · obtain ⟨c₀, hc₀, rfl⟩ := Option.map_eq_some_iff.mp hcount
    rw [hc₀] at hclaim
    have hlt : c₀ < max := of_decide_eq_true hclaim
    have hsofar := (hK.count c₀ hc₀).2
    exact ⟨hlt, by omega⟩
  · exact hK.count c hcount

/-- The maps of a wave are of the request. -/
theorem Kept.mapsIn (hK : Kept max s h) (order : List String) : ∀ inc ∈ s.mapsIn order, Drawn (Of h) inc := by
  intro inc hinc
  obtain ⟨task, -, hmap⟩ := List.mem_filterMap.mp hinc
  obtain ⟨w, hfind, rfl⟩ := Option.map_eq_some_iff.mp hmap
  exact hK.own w (List.mem_of_find?_eq_some hfind)

theorem merges_are_merged {held : RecordMap δ} {incs : List (RecordMap δ)} {x : Obs δ} (hx : x ∈ merges held incs) :
    ∃ held' inc', x = .merged held' inc' := by
  induction incs generalizing held with
  | nil => cases hx
  | cons inc incs ih =>
    rcases List.mem_cons.mp hx with rfl | hx
    · exact ⟨held, inc, rfl⟩
    · exact ih hx

theorem Kept.join (hK : Kept max s h) (order : List String) :
    Kept max { s with evidence := mergeAll s.evidence (s.mapsIn order), running := [] }
      (h ++ merges s.evidence (s.mapsIn order)) := by
  have hmerged : Kept max s (h ++ merges s.evidence (s.mapsIn order)) := by
    have hsame := merges_append h s.evidence (s.mapsIn order)
    refine hK.merged hsame.1 hsame.2 fun x hx => ?_
    obtain ⟨held, inc, rfl⟩ := merges_are_merged hx
    exact ⟨held, inc, rfl, merges_drawn hK.held (hK.mapsIn order) hx⟩
  have hheld := drawn_mergeAll hK.held (hK.mapsIn order)
  refine ⟨hmerged.count, hmerged.total, hmerged.tasks, fun r hr => ?_, hmerged.nodup, nofun, List.nodup_nil,
    hmerged.configured, hheld.mono fun id r hr => ?_, nofun, hmerged.unreplaced⟩
  · obtain ⟨n, hn, -⟩ := hmerged.ids r hr
    exact ⟨n, hn, nofun⟩
  · have hsame := merges_append h s.evidence (s.mapsIn order)
    exact of_congr hsame.1 hsame.2 hr

theorem Kept.close (hK : Kept max s h) : Kept max { s with evidenceCount := none } h :=
  ⟨nofun, hK.total, hK.tasks, hK.ids, hK.nodup, hK.workers, hK.distinct, hK.configured, hK.held, hK.own, hK.unreplaced⟩

theorem Kept.step (hK : Kept max s h) {a : Act δ} {o : List (Obs δ)}
    (hstep : (request δ max).step s a = some (s', o)) : Kept max s' (h ++ o) := by
  cases a with
  | begin configured =>
    obtain ⟨rfl, rfl⟩ := Prod.mk.inj (Option.some.inj hstep)
    exact kept_begin hK configured
  | dispatch n =>
    have hdispatch : (if s.running.isEmpty && !s.controlled then _ else none) = some (s', o) := hstep
    split_ifs at hdispatch with hidle
    obtain ⟨rfl, rfl⟩ := Prod.mk.inj (Option.some.inj hdispatch)
    rw [List.append_nil]
    exact hK.dispatch (by simpa using (Bool.and_eq_true_iff.mp hidle).2) n
  | control =>
    have hcontrol : (if s.running.isEmpty && !s.controlled then _ else none) = some (s', o) := hstep
    split_ifs at hcontrol with hidle
    obtain ⟨rfl, rfl⟩ := Prod.mk.inj (Option.some.inj hcontrol)
    rw [List.append_nil]
    exact hK.control (by simpa using (Bool.and_eq_true_iff.mp hidle).2)
  | tools task drafts =>
    cases hfind : s.running.find? fun w => w.taskId = task with
    | none => simp [request, Records.step, hfind] at hstep
    | some w =>
      simp only [request, Records.step, hfind] at hstep
      obtain ⟨rfl, rfl⟩ := Prod.mk.inj (Option.some.inj hstep)
      exact hK.tools hfind drafts
  | straggle =>
    obtain ⟨rfl, rfl⟩ := Prod.mk.inj (Option.some.inj hstep)
    rw [List.append_nil]
    exact hK.straggle
  | join order =>
    have hjoin : (if order.Perm (s.running.map (·.taskId)) then _ else none) = some (s', o) := hstep
    split_ifs at hjoin with hall
    obtain ⟨rfl, rfl⟩ := Prod.mk.inj (Option.some.inj hjoin)
    exact hK.join order
  | close =>
    obtain ⟨rfl, rfl⟩ := Prod.mk.inj (Option.some.inj hstep)
    rw [List.append_nil]
    exact hK.close

theorem Kept.run {as : List (Act δ)} (hrun : (request δ max).exec .init as = some (s, h)) : Kept max s h :=
  exec_hist (fun {_ _ _ _ _} hI => hI.step) (kept_init max) hrun

/-- The ids that the request holds, in the channel or with a specialist. -/
def Sys.heldIds (s : Sys δ) : List String := ((s.evidence :: s.running.map (·.evidence)).flatMap OrderedMap.keys).dedup

/-- What the request has allocated: to what `orient` wrote, and to the records of the tools. -/
def allocated (h : List (Obs δ)) : List String := (configuredIn h).keys ++ (issuedOf h).map (·.id)

theorem Kept.allocated_nodup (hK : Kept max s h) : (allocated h).Nodup := by
  refine List.nodup_append'.mpr ⟨(configuredIn h).nodup, hK.nodup, fun id hid hid' => ?_⟩
  obtain ⟨r, hr⟩ := Option.isSome_iff_exists.mp (mem_keys.mp hid)
  obtain ⟨q, hq, rfl⟩ := List.mem_map.mp hid'
  obtain ⟨n, hn, -⟩ := hK.ids q hq
  have hconfigured := hK.configured _ r hr
  rw [hn] at hconfigured
  exact evidenceId_not_configured (hK.tasks q hq) n hconfigured

/-- Every id that is held was allocated by the request. -/
theorem Kept.heldIds_subset (hK : Kept max s h) {id : String} (hid : id ∈ s.heldIds) : ∃ r, Of h id r := by
  obtain ⟨m, hm, hkey⟩ := List.mem_flatMap.mp (List.mem_dedup.mp hid)
  obtain ⟨r, hr⟩ := Option.isSome_iff_exists.mp (mem_keys.mp hkey)
  refine ⟨r, ?_⟩
  rcases List.mem_cons.mp hm with rfl | hm
  · exact hK.held id r hr
  · have hof : ∃ w ∈ s.running, w.evidence = m := List.mem_map.mp hm
    obtain ⟨w, hw, rfl⟩ := hof
    exact hK.own w hw id r hr

theorem Kept.heldIds_le (hK : Kept max s h) : (s.heldIds.filter (· ∉ ["C.1", "C.2", "C.3"])).length ≤ max := by
  have hsub : s.heldIds.filter (· ∉ ["C.1", "C.2", "C.3"]) ⊆ (issuedOf h).map (·.id) := by
    intro id hid
    obtain ⟨hheld, hnot⟩ := List.mem_filter.mp hid
    obtain ⟨r, hr | ⟨hr, rfl⟩⟩ := hK.heldIds_subset hheld
    · exact absurd (hK.configured id r hr) (of_decide_eq_true hnot)
    · exact List.mem_map_of_mem hr
  have hnodup : (s.heldIds.filter (· ∉ ["C.1", "C.2", "C.3"])).Nodup := (List.nodup_dedup _).filter _
  calc (s.heldIds.filter (· ∉ ["C.1", "C.2", "C.3"])).length
      ≤ ((issuedOf h).map (·.id)).length := (List.subperm_of_subset hnodup hsub).length_le
    _ = (issuedOf h).length := List.length_map _
    _ ≤ max := hK.total

/-- **Any order of the maps of a wave** gives the same records. -/
theorem Kept.merge_order (hK : Kept max s h) {order order' : List String} (hperm : order.Perm order') (id : String) :
    (mergeAll s.evidence (s.mapsIn order)).get? id = (mergeAll s.evidence (s.mapsIn order')).get? id := by
  have hone : ∀ id r r', Of h id r → Of h id r' → r = r' := fun id r r' => hK.functional
  have hmaps : (s.mapsIn order).Perm (s.mapsIn order') := hperm.filterMap _
  refine Option.ext fun r => ?_
  rw [get?_mergeAll hone hK.held (hK.mapsIn order), get?_mergeAll hone hK.held (hK.mapsIn order')]
  refine or_congr_right ⟨?_, ?_⟩
  · rintro ⟨inc, hinc, hr⟩
    exact ⟨inc, hmaps.mem_iff.mp hinc, hr⟩
  · rintro ⟨inc, hinc, hr⟩
    exact ⟨inc, hmaps.mem_iff.mpr hinc, hr⟩

/-- **The evidence of a request is append-only**, and no two records share an id.  However its tasks interleave, no id
is allocated twice, no merge replaces a record, and a wave may be merged in any order.  The ledger bounds what the tools
add; the three records that `orient` writes stand beside it. -/
theorem records_kept (max : ℕ) (as : List (Act δ)) (s : Sys δ) (h : List (Obs δ))
    (hrun : (request δ max).exec .init as = some (s, h)) :
    (allocated h).Nodup ∧ (∀ id ∈ s.heldIds, id ∈ allocated h) ∧
      (s.heldIds.filter (· ∉ ["C.1", "C.2", "C.3"])).length ≤ max ∧ Unreplaced h ∧
      ∀ order order' : List String, order.Perm (s.running.map (·.taskId)) → order'.Perm (s.running.map (·.taskId)) →
        ∀ id, (mergeAll s.evidence (s.mapsIn order)).get? id = (mergeAll s.evidence (s.mapsIn order')).get? id := by
  have hK := Kept.run hrun
  refine ⟨hK.allocated_nodup, fun id hid => ?_, hK.heldIds_le, hK.unreplaced, fun order order' ho ho' id => ?_⟩
  · obtain ⟨r, hr | ⟨hr, rfl⟩⟩ := hK.heldIds_subset hid
    · exact List.mem_append_left _ (mem_keys.mpr (by rw [hr]; rfl))
    · exact List.mem_append_right _ (List.mem_map_of_mem hr)
  · exact hK.merge_order (ho.trans ho'.symm) id

/-- Two tasks and the controller, with a ledger that the first task fills. -/
theorem records_kept_waves : ∃ s h,
    (request ℕ 2).exec .init [.begin (some (7, 8, 9)), .dispatch 2, .tools "T2" [1], .tools "T1" [2, 3],
      .join ["T2", "T1"], .control, .tools "K" [4]] = some (s, h) ∧
    (allocated h).Nodup ∧ Unreplaced h ∧ (s.heldIds.filter (· ∉ ["C.1", "C.2", "C.3"])).length ≤ 2 := by
  refine ⟨_, _, rfl, ?_⟩
  have hkept := records_kept 2 [.begin (some (7, 8, 9)), .dispatch 2, .tools "T2" [1], .tools "T1" [2, 3],
    .join ["T2", "T1"], .control, .tools "K" [4]] _ _ rfl
  exact ⟨hkept.1, hkept.2.2.2.1, hkept.2.2.1⟩

/-- `DEFAULT_LIMITS.maxEvidencePerRequest`. -/
def defaultMax : ℕ := 60

/-- Five tasks of twelve calls fill the ledger, and the request holds three records more. -/
theorem held_beyond_the_ledger : ¬ ∀ (as : List (Act Unit)) (s : Sys Unit) (h : List (Obs Unit)),
    (request Unit defaultMax).exec .init as = some (s, h) → s.heldIds.length ≤ defaultMax := by
  intro hclaim
  let run : List (Act Unit) :=
    .begin (some ((), (), ())) :: .dispatch 5
      :: (List.range 5).map fun i => .tools (taskId (i + 1)) (List.replicate 12 ())
  have hheld : ((request Unit defaultMax).exec .init run).map (fun r => r.1.heldIds.length) = some 63 := by
    decide +kernel
  obtain ⟨⟨s, h⟩, hrun, hlength⟩ := Option.map_eq_some_iff.mp hheld
  have hle := hclaim run s h hrun
  rw [hlength] at hle
  exact absurd hle (by decide)

end DTwin.Copilot.Records
