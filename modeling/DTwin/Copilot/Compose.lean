import DTwin.Lib.Json
import DTwin.Lib.OrderedMap
import DTwin.Lib.Packing
import Mathlib.Algebra.Order.BigOperators.Group.List
import Mathlib.Algebra.Order.Group.Nat
import Mathlib.Data.List.Perm.Subperm

/-!
# DTwin.Copilot.Compose — the evidence that an answer is composed from

`composeEvidence` of `apps/web/lib/copilot/compose.ts`.  Of a record the fields are told apart that the function
reads; the others stand in `rest`.  How long a printed number is, is a parameter (`numberBytes`).

The budget is spent on whole records in the order of their rank.  It does not count what a record without its data still
takes, nor the brackets and commas around the records, and a cited record that does not fit does not keep an uncited one
out (`composeEvidence_iff`).
-/

namespace DTwin.Copilot.Compose

open Packing

structure Record where
  id : String
  taskId : String
  /-- The other fields, without `data`. -/
  rest : List (String × JsValue)
  data : JsValue

/-- What is sent of a record; without `data`, that is cut. -/
structure Sent where
  id : String
  taskId : String
  rest : List (String × JsValue)
  data : Option JsValue

def Record.whole (e : Record) : Sent := ⟨e.id, e.taskId, e.rest, some e.data⟩

/-- `const { data: _data, ...meta } = e`. -/
def Record.metadata (e : Record) : Sent := ⟨e.id, e.taskId, e.rest, none⟩

def Sent.toJs (e : Sent) : JsValue :=
  .obj ([("id", .str e.id), ("taskId", .str e.taskId)] ++ e.rest ++ (e.data.map fun d => ("data", d)).toList)

structure Claim where
  evidenceIds : List String

structure Finding where
  claims : List Claim

/-- The part of the state that is read; each record is under its own id. -/
structure State where
  evidence : OrderedMap String Record
  findings : OrderedMap String Finding
  keyed : ∀ e ∈ evidence.entries, e.1 = e.2.id

structure Composed where
  records : List Sent
  dataDropped : List String

section

variable (numberBytes : ℚ → ℕ)

/-- `utf8Bytes(JSON.stringify(e))`. -/
def Sent.bytes (e : Sent) : ℕ := e.toJs.stringify.bytes numberBytes

def Record.size (e : Record) : ℕ := e.whole.bytes numberBytes

/-- `JSON.stringify(records)`. -/
def recordsBytes (records : List Sent) : ℕ := (JsValue.arr (records.map Sent.toJs)).stringify.bytes numberBytes

namespace State

variable (s : State)

def all : List Record := s.evidence.values

def cited : List String := s.findings.values.flatMap fun f => f.claims.flatMap Claim.evidenceIds

def rank (e : Record) : ℕ := if e.id ∈ s.cited then 0 else if e.taskId = "C" then 1 else 2

def ordered : List Record := s.all.insertionSort fun a b => s.rank a ≤ s.rank b

/-- The loop: the ids that are kept, and their bytes. -/
def keepLoop (maxBytes : ℕ) : List Record → List String → ℕ → List String
  | [], keep, _ => keep
  | e :: l, keep, bytes =>
    if bytes + e.size numberBytes ≤ maxBytes then keepLoop maxBytes l (keep ++ [e.id]) (bytes + e.size numberBytes)
    else keepLoop maxBytes l keep bytes

def composeEvidence (maxBytes : ℕ) : Composed :=
  let keep := keepLoop numberBytes maxBytes s.ordered [] 0
  { records := s.all.map fun e => if e.id ∈ keep then e.whole else e.metadata
    dataDropped := (s.all.filter fun e => e.id ∉ keep).map Record.id }

/-! ## What is wanted, and when it is so -/

def isCited (e : Record) : Bool := e.id ∈ s.cited

/-- What the evidence for an answer should be like. -/
structure Prefers (maxBytes : ℕ) (c : Composed) : Prop where
  /-- Every record is there, with its data or without, and otherwise as it was. -/
  kept : List.Forall₂ (fun e r => r = e.whole ∨ r = e.metadata) s.all c.records
  /-- Nothing uncited has its data where something cited has not. -/
  citedLast : ∀ r ∈ c.records, r.id ∈ s.cited → r.data = none → ∀ u ∈ c.records, u.id ∉ s.cited → u.data = none
  /-- It is within the budget. -/
  within : recordsBytes numberBytes c.records ≤ maxBytes

/-- When it is so: the cited records fit together, or no uncited one fits in what those of them leave that each in
turn finds room; and what finds room, the metadata of the others, and the brackets and commas are within the budget.
-/
structure Fits (maxBytes : ℕ) : Prop where
  cited : ((s.all.filter s.isCited).map (Record.size numberBytes)).sum ≤ maxBytes ∨
    ∀ u ∈ s.all, u.id ∉ s.cited → left (Record.size numberBytes) maxBytes (s.all.filter s.isCited) < u.size numberBytes
  within : cost (Record.size numberBytes) (fun e => e.metadata.bytes numberBytes) maxBytes s.ordered + 2 +
    (s.all.length - 1) ≤ maxBytes

end State

end

/-! ## The loop -/

section

variable {numberBytes : ℚ → ℕ} {s : State} {maxBytes : ℕ}

namespace State

/-- The loop takes what fits. -/
theorem keepLoop_eq : ∀ (l : List Record) (keep : List String) (bytes : ℕ), bytes ≤ maxBytes →
    keepLoop numberBytes maxBytes l keep bytes =
      keep ++ (pack (Record.size numberBytes) (maxBytes - bytes) l).map Record.id
  | [], keep, _, _ => by simp [keepLoop, pack]
  | e :: l, keep, bytes, hbytes => by
    rw [keepLoop]
    by_cases h : bytes + e.size numberBytes ≤ maxBytes
    · have hfits : e.size numberBytes ≤ maxBytes - bytes := by omega
      rw [if_pos h, keepLoop_eq l _ _ h, pack_cons_pos hfits, Nat.sub_sub, List.map_cons, List.append_assoc]
      rfl
    · have hfits : ¬ e.size numberBytes ≤ maxBytes - bytes := by omega
      rw [if_neg h, keepLoop_eq l _ _ hbytes, pack_cons_neg hfits]

variable (numberBytes s maxBytes)

/-- The records that are kept whole. -/
def taken : List Record := pack (Record.size numberBytes) maxBytes s.ordered

theorem keep_eq : keepLoop numberBytes maxBytes s.ordered [] 0 = (s.taken numberBytes maxBytes).map Record.id :=
  keepLoop_eq s.ordered [] 0 (Nat.zero_le _)

variable {numberBytes s maxBytes}

theorem nodup_ids : (s.all.map Record.id).Nodup := by
  have hkeys : s.evidence.entries.map Prod.fst = s.all.map Record.id := by
    rw [all, OrderedMap.values, List.map_map]
    exact List.map_congr_left fun e he => s.keyed e he
  rw [← hkeys]
  exact s.evidence.nodup

theorem perm_ordered : s.ordered.Perm s.all := List.perm_insertionSort _ _

/-- First the cited records, then the others. -/
theorem ordered_eq : s.ordered = s.all.filter s.isCited ++
    (s.all.filter fun e => !s.isCited e).insertionSort fun a b => s.rank a ≤ s.rank b := by
  have hcited : ∀ e, s.isCited e = true → s.rank e = 0 := by
    intro e he
    rw [rank, if_pos (by simpa [isCited] using he)]
  have hothers : ∀ e, ¬ s.isCited e = true → 0 < s.rank e := by
    intro e he
    rw [rank, if_neg (by simpa [isCited] using he)]
    split_ifs <;> omega
  refine insertionSort_split ?_ ?_ ?_ s.all
  · intro a b ha hb
    rw [hcited a ha, hcited b hb]
  · intro a b ha _
    rw [hcited a ha]
    exact Nat.zero_le _
  · intro a b ha hb
    have hpos := hothers a ha
    rw [hcited b hb]
    omega

/-- A record of the evidence is taken if its id is. -/
theorem mem_taken_of_id {e : Record} (he : e ∈ s.all) :
    e.id ∈ (s.taken numberBytes maxBytes).map Record.id ↔ e ∈ s.taken numberBytes maxBytes := by
  constructor
  · intro hid
    obtain ⟨e', he', hsame⟩ := List.mem_map.mp hid
    have hmem : e' ∈ s.all := perm_ordered.subset ((pack_sublist maxBytes s.ordered).subset he')
    rwa [← List.inj_on_of_nodup_map nodup_ids hmem he hsame]
  · exact List.mem_map_of_mem

/-! ## What is sent -/

theorem records_eq : (s.composeEvidence numberBytes maxBytes).records =
    s.all.map fun e => if e.id ∈ (s.taken numberBytes maxBytes).map Record.id then e.whole else e.metadata := by
  rw [composeEvidence]
  dsimp only
  rw [keep_eq]

/-- The ids that are named as cut are those of the records without their data. -/
theorem dataDropped_eq : (s.composeEvidence numberBytes maxBytes).dataDropped =
    ((s.composeEvidence numberBytes maxBytes).records.filter fun r => r.data.isNone).map Sent.id := by
  unfold composeEvidence
  dsimp only
  induction s.all with
  | nil => rfl
  | cons e l ih =>
    rw [List.map_cons]
    by_cases he : e.id ∈ keepLoop numberBytes maxBytes s.ordered [] 0
    · rw [List.filter_cons_of_neg (by simpa using he), ih, if_pos he, List.filter_cons_of_neg (by simp [Record.whole])]
    · rw [List.filter_cons_of_pos (by simpa using he), List.map_cons, ih, if_neg he,
        List.filter_cons_of_pos (by simp [Record.metadata])]
      rfl

/-- Which records are sent with their data, and which without. -/
theorem mem_records {r : Sent} : r ∈ (s.composeEvidence numberBytes maxBytes).records ↔
    ∃ e ∈ s.all, (e ∈ s.taken numberBytes maxBytes ∧ r = e.whole) ∨
      (e ∉ s.taken numberBytes maxBytes ∧ r = e.metadata) := by
  rw [records_eq, List.mem_map]
  refine exists_congr fun e => and_congr_right fun he => ?_
  by_cases h : e ∈ s.taken numberBytes maxBytes
  · rw [if_pos ((mem_taken_of_id he).mpr h)]
    simp [h, eq_comm]
  · rw [if_neg fun hid => h ((mem_taken_of_id he).mp hid)]
    simp [h, eq_comm]

theorem kept_records :
    List.Forall₂ (fun e r => r = e.whole ∨ r = e.metadata) s.all (s.composeEvidence numberBytes maxBytes).records := by
  rw [records_eq, List.forall₂_map_right_iff, List.forall₂_same]
  intro e _
  by_cases h : e.id ∈ (s.taken numberBytes maxBytes).map Record.id
  · exact Or.inl (if_pos h)
  · exact Or.inr (if_neg h)

/-! ### What is cited -/

/-- Of what is taken, what is cited comes from the cited records, and the rest from what they leave. -/
theorem taken_eq : s.taken numberBytes maxBytes = pack (Record.size numberBytes) maxBytes (s.all.filter s.isCited) ++
    pack (Record.size numberBytes) (left (Record.size numberBytes) maxBytes (s.all.filter s.isCited))
      ((s.all.filter fun e => !s.isCited e).insertionSort fun a b => s.rank a ≤ s.rank b) := by
  rw [taken, ordered_eq, pack_append]

theorem mem_others {u : Record} :
    u ∈ (s.all.filter fun e => !s.isCited e).insertionSort (fun a b => s.rank a ≤ s.rank b) ↔
      u ∈ s.all ∧ u.id ∉ s.cited := by
  rw [List.mem_insertionSort, List.mem_filter]
  simp [isCited]

/-- All that is cited is taken exactly if it fits together. -/
theorem cited_taken_iff : (∀ e ∈ s.all, e.id ∈ s.cited → e ∈ s.taken numberBytes maxBytes) ↔
    ((s.all.filter s.isCited).map (Record.size numberBytes)).sum ≤ maxBytes := by
  rw [← pack_eq_self_iff]
  constructor
  · intro hall
    have hsub : (s.all.filter s.isCited) ⊆ pack (Record.size numberBytes) maxBytes (s.all.filter s.isCited) := by
      intro e he
      obtain ⟨hmem, hcited⟩ := List.mem_filter.mp he
      have htaken := hall e hmem (by simpa [isCited] using hcited)
      rw [taken_eq] at htaken
      refine (List.mem_append.mp htaken).resolve_right fun hother => ?_
      exact (mem_others.mp ((pack_sublist _ _).subset hother)).2 (by simpa [isCited] using hcited)
    have hnodup : (s.all.filter s.isCited).Nodup := (List.Nodup.of_map _ nodup_ids).filter _
    exact (pack_sublist _ _).eq_of_length_le (List.Nodup.subperm hnodup hsub).length_le
  · intro hall e he hcited
    rw [taken_eq, hall]
    exact List.mem_append_left _ (List.mem_filter.mpr ⟨he, by simpa [isCited] using hcited⟩)

/-- Nothing uncited is taken exactly if nothing of it fits in what the cited records leave. -/
theorem uncited_cut_iff : (∀ u ∈ s.all, u.id ∉ s.cited → u ∉ s.taken numberBytes maxBytes) ↔
    ∀ u ∈ s.all, u.id ∉ s.cited →
      left (Record.size numberBytes) maxBytes (s.all.filter s.isCited) < u.size numberBytes := by
  have hnone : (∀ u ∈ s.all, u.id ∉ s.cited → u ∉ s.taken numberBytes maxBytes) ↔
      pack (Record.size numberBytes) (left (Record.size numberBytes) maxBytes (s.all.filter s.isCited))
        ((s.all.filter fun e => !s.isCited e).insertionSort fun a b => s.rank a ≤ s.rank b) = [] := by
    rw [List.eq_nil_iff_forall_not_mem]
    constructor
    · intro hcut u hu
      obtain ⟨hmem, huncited⟩ := mem_others.mp ((pack_sublist _ _).subset hu)
      refine hcut u hmem huncited ?_
      rw [taken_eq]
      exact List.mem_append_right _ hu
    · intro hnone u _ huncited htaken
      rw [taken_eq] at htaken
      rcases List.mem_append.mp htaken with hcited | hother
      · have hmem := (List.mem_filter.mp ((pack_sublist _ _).subset hcited)).2
        exact huncited (by simpa [isCited] using hmem)
      · exact hnone u hother
  rw [hnone, pack_eq_nil_iff]
  constructor
  · intro hroom u hu huncited
    exact hroom u (mem_others.mpr ⟨hu, huncited⟩)
  · intro hroom u hu
    obtain ⟨hmem, huncited⟩ := mem_others.mp hu
    exact hroom u hmem huncited

theorem citedLast_iff : (∀ r ∈ (s.composeEvidence numberBytes maxBytes).records, r.id ∈ s.cited → r.data = none →
      ∀ u ∈ (s.composeEvidence numberBytes maxBytes).records, u.id ∉ s.cited → u.data = none) ↔
    (∀ e ∈ s.all, e.id ∈ s.cited → e ∈ s.taken numberBytes maxBytes) ∨
      ∀ u ∈ s.all, u.id ∉ s.cited → u ∉ s.taken numberBytes maxBytes := by
  constructor
  · intro hlast
    by_cases hall : ∀ e ∈ s.all, e.id ∈ s.cited → e ∈ s.taken numberBytes maxBytes
    · exact Or.inl hall
    · push Not at hall
      obtain ⟨e, he, hcited, hcut⟩ := hall
      refine Or.inr fun u hu huncited htaken => ?_
      have hnone := hlast e.metadata (mem_records.mpr ⟨e, he, Or.inr ⟨hcut, rfl⟩⟩) hcited rfl u.whole
        (mem_records.mpr ⟨u, hu, Or.inl ⟨htaken, rfl⟩⟩) huncited
      cases hnone
  · rintro hor r hr hcited hnone u hu huncited
    obtain ⟨e, he, ⟨-, rfl⟩ | ⟨hcut, rfl⟩⟩ := mem_records.mp hr
    · cases hnone
    · obtain ⟨e', he', ⟨htaken, rfl⟩ | ⟨-, rfl⟩⟩ := mem_records.mp hu
      · rcases hor with hall | hcutAll
        · exact absurd (hall e he hcited) hcut
        · exact absurd htaken (hcutAll e' he' huncited)
      · rfl

/-! ### How much is sent -/

theorem stringifyItems_eq (items : List JsValue) : JsValue.stringifyItems items = items.map JsValue.stringify := by
  induction items with
  | nil => rfl
  | cons v items ih => rw [JsValue.stringifyItems, ih, List.map_cons]

theorem recordsBytes_eq (records : List Sent) :
    recordsBytes numberBytes records = (records.map (Sent.bytes numberBytes)).sum + 2 + (records.length - 1) := by
  rw [recordsBytes, JsValue.stringify, Json.bytes, Json.itemBytes_eq, stringifyItems_eq, List.map_map, List.map_map,
    listBytes, List.length_map, Nat.add_comm 2]
  rfl

theorem sum_bytes : ((s.composeEvidence numberBytes maxBytes).records.map (Sent.bytes numberBytes)).sum =
    cost (Record.size numberBytes) (fun e => e.metadata.bytes numberBytes) maxBytes s.ordered := by
  have hnodup : (s.ordered.map Record.id).Nodup := (perm_ordered.map Record.id).nodup_iff.mpr nodup_ids
  rw [← sum_eq_cost maxBytes s.ordered hnodup, records_eq, List.map_map, (perm_ordered.map _).sum_eq]
  congr 1
  refine List.map_congr_left fun e _ => ?_
  exact apply_ite (Sent.bytes numberBytes) _ _ _

/-- All records are within the budget with their data. -/
theorem fits_of_all (h : recordsBytes numberBytes (s.all.map Record.whole) ≤ maxBytes) :
    s.Fits numberBytes maxBytes := by
  rw [recordsBytes_eq, List.map_map, List.length_map] at h
  have hall : (s.all.map (Record.size numberBytes)).sum + 2 + (s.all.length - 1) ≤ maxBytes := h
  have hordered : (s.ordered.map (Record.size numberBytes)).sum = (s.all.map (Record.size numberBytes)).sum :=
    (perm_ordered.map _).sum_eq
  refine ⟨Or.inl ?_, ?_⟩
  · have hsub := (List.filter_sublist (p := s.isCited) (l := s.all)).map (Record.size numberBytes)
    have hle := hsub.sum_le_sum fun _ _ => Nat.zero_le _
    omega
  · rw [cost_of_fit (by omega), hordered]
    exact hall

variable (numberBytes s maxBytes)

/-- **What is composed from is as it should be** exactly if the cited records fit together or leave no uncited one
room, and everything that is sent is within the budget; so it is when all records are within it with their data. -/
theorem composeEvidence_iff :
    (s.Prefers numberBytes maxBytes (s.composeEvidence numberBytes maxBytes) ↔ s.Fits numberBytes maxBytes) ∧
      (recordsBytes numberBytes (s.all.map Record.whole) ≤ maxBytes → s.Fits numberBytes maxBytes) := by
  refine ⟨?_, fits_of_all⟩
  have hlength : (s.composeEvidence numberBytes maxBytes).records.length = s.all.length := by
    rw [records_eq, List.length_map]
  have hwithin : recordsBytes numberBytes (s.composeEvidence numberBytes maxBytes).records =
      cost (Record.size numberBytes) (fun e => e.metadata.bytes numberBytes) maxBytes s.ordered + 2 +
        (s.all.length - 1) := by
    rw [recordsBytes_eq, sum_bytes, hlength]
  constructor
  · rintro ⟨-, hlast, hbytes⟩
    refine ⟨?_, hwithin ▸ hbytes⟩
    exact (citedLast_iff.mp hlast).imp cited_taken_iff.mp uncited_cut_iff.mp
  · rintro ⟨hcited, hbytes⟩
    refine ⟨kept_records, ?_, hwithin ▸ hbytes⟩
    exact citedLast_iff.mpr (hcited.imp cited_taken_iff.mpr uncited_cut_iff.mpr)

end State

/-! ## A cited record that is too long -/

/-- Two records, the first of them cited and longer. -/
def twoRecords : State where
  evidence := ⟨[("A", ⟨"A", "T", [], .str "0123456789"⟩), ("B", ⟨"B", "T", [], .null⟩)], by decide⟩
  findings := ⟨[("T", ⟨[⟨["A"]⟩]⟩)], by decide⟩
  keyed := by
    intro e he
    rcases List.mem_cons.mp he with rfl | he
    · rfl
    · rw [List.mem_singleton.mp he]

/-- **The uncited record keeps its data** where the cited one has lost it. -/
theorem uncited_kept : ¬ twoRecords.Prefers (fun _ => 1) 40 (twoRecords.composeEvidence (fun _ => 1) 40) := by
  have htaken : (twoRecords.taken (fun _ => 1) 40).map Record.id = ["B"] := by decide +kernel
  have hall : twoRecords.all.map Record.id = ["A", "B"] := by decide +kernel
  have hcited : twoRecords.cited = ["A"] := by decide +kernel
  have hrecord : ∀ id, id ∈ twoRecords.all.map Record.id → ∃ e ∈ twoRecords.all, e.id = id := fun id hid =>
    List.mem_map.mp hid
  obtain ⟨a, ha, haId⟩ := hrecord "A" (by simp [hall])
  obtain ⟨b, hb, hbId⟩ := hrecord "B" (by simp [hall])
  have haCut : a ∉ twoRecords.taken (fun _ => 1) 40 := by
    rw [← State.mem_taken_of_id ha, htaken, haId]
    simp
  have hbTaken : b ∈ twoRecords.taken (fun _ => 1) 40 := by
    rw [← State.mem_taken_of_id hb, htaken, hbId]
    simp
  intro h
  rcases State.citedLast_iff.mp h.citedLast with hkept | hcut
  · exact haCut (hkept a ha (by simp [hcited, haId]))
  · exact hcut b hb (by simp [hcited, hbId]) hbTaken

end

end DTwin.Copilot.Compose
