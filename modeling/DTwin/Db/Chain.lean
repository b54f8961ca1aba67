import Mathlib.Data.List.Nodup
import Mathlib.Order.Basic
import DTwin.Db.Migrate

/-!
# DTwin.Db.Chain — what the registry says of the database

`Chained`: the recorded versions are the first of the file order, a version is recorded as applied if and only if its
statements have taken effect, and none takes effect twice.  The first holds in every interleaving (`inv_step`).  The
others rest on the primary key, which the transactional files meet before their statements count and the
`@no-transaction` ones after: `chained_iff` says in which runs they hold.
-/

namespace DTwin.Db

open Machine

variable {c : Chain} {w w' : World} {o : List Effect}

/-- Is this version recorded as applied? -/
def Applied (registry : List Row) (version : String) : Prop :=
  ∃ row ∈ registry, row.version = version ∧ row.skipped = false

/-- Is the process part-way through the `@no-transaction` file at `pos`? -/
def Process.PartWay (pr : Process) (pos : ℕ) : Prop :=
  ∃ (d : Bool) (applied : List Row) (idx k : ℕ), pr = .working d applied pos (.statement (idx + 1) k)

/-- Is any? -/
def PartWay (w : World) (pos : ℕ) : Prop := ∃ (p : ℕ) (pr : Process), w.processes[p]? = some pr ∧ pr.PartWay pos

/-- What the chain promises. -/
structure Chained (c : Chain) (w : World) (h : List Effect) : Prop where
  inOrder : w.registry.map (·.version) <+: c.files.map (·.version)
  once : (effects h).Nodup
  applied_iff : ∀ (pos : ℕ) (m : Migration), c.files[pos]? = some m → m.statements ≠ [] → ¬ PartWay w pos →
    (Applied w.registry m.version ↔ ∀ i < m.statements.length, (pos, i) ∈ effects h)

/-- The file at `pos` is recorded as applied. -/
def AppliedAt (registry : List Row) (pos : ℕ) : Prop := ∃ row, registry[pos]? = some row ∧ row.skipped = false

/-- What is known of process `p` that stands at `pr`. -/
def Sound (c : Chain) (registry : List Row) (h : List Effect) (p : ℕ) : Process → Prop
  | .idle => ∀ e ∈ h, e.process ≠ p
  | .ended => True
  | .working _ applied pos st =>
    pos ≤ registry.length ∧ (∀ row ∈ applied, row ∈ registry) ∧
      (∀ e ∈ h, e.process = p → e.pos < pos ∨ e.pos = pos ∧ ∃ idx k, st = .statement idx k ∧ e.idx < idx) ∧
      match st with
      | .loop | .skipping => True
      | .executed => ∃ m, c.files[pos]? = some m ∧ m.noTransaction = false
      | .inserted => (∃ m, c.files[pos]? = some m ∧ m.noTransaction = false) ∧ registry.length = pos
      | .statement idx _ => ∃ m, c.files[pos]? = some m ∧ m.noTransaction = true ∧ idx ≤ m.statements.length ∧
          ∀ i < idx, ⟨p, pos, i⟩ ∈ h

/-- Process `p` has an open transaction that has inserted its row. -/
def Inserted (w : World) (p : ℕ) : Prop :=
  ∃ (d : Bool) (applied : List Row) (pos : ℕ), w.processes[p]? = some (.working d applied pos .inserted)

structure Inv (c : Chain) (w : World) (h : List Effect) : Prop where
  done : w.done = effects h
  inOrder : w.registry.map (·.version) <+: c.files.map (·.version)
  sound : ∀ p pr, w.processes[p]? = some pr → Sound c w.registry h p pr
  /-- One transaction at a time has inserted its row. -/
  alone : ∀ p q : ℕ, Inserted w p → Inserted w q → p = q
  known : ∀ e ∈ h, ∃ pr, w.processes[e.process]? = some pr
  inFile : ∀ e ∈ h, ∃ m, c.files[e.pos]? = some m ∧ e.idx < m.statements.length ∧
    (m.noTransaction = false → AppliedAt w.registry e.pos)
  downward : ∀ e ∈ h, ∀ j < e.idx, ⟨e.process, e.pos, j⟩ ∈ h
  full : ∀ pos m, AppliedAt w.registry pos → c.files[pos]? = some m → ∀ i < m.statements.length, (pos, i) ∈ effects h

section Registry

variable {registry : List Row} (hpre : registry.map (·.version) <+: c.files.map (·.version))
include hpre

theorem length_le : registry.length ≤ c.files.length := by
  simpa using hpre.length_le

theorem version_at {pos : ℕ} {row : Row} {m : Migration} (hr : registry[pos]? = some row)
    (hm : c.files[pos]? = some m) : row.version = m.version := by
  obtain ⟨rest, hrest⟩ := hpre
  have hv : (c.files.map (·.version))[pos]? = some row.version := by
    rw [← hrest]
    have hlt := (List.getElem?_eq_some_iff.mp hr).1
    rw [List.getElem?_append_left (by simpa using hlt), List.getElem?_map, hr]
    rfl
  rw [List.getElem?_map, hm] at hv
  exact (Option.some.inj hv).symm

/-- A version is recorded at its place. -/
theorem pos_of_version {pos i : ℕ} {row : Row} {m : Migration} (hm : c.files[pos]? = some m)
    (hr : registry[i]? = some row) (hv : row.version = m.version) : i = pos := by
  have hi : i < c.files.length :=
    Nat.lt_of_lt_of_le (List.getElem?_eq_some_iff.mp hr).1 (length_le hpre)
  have hmi := version_at hpre hr (List.getElem?_eq_getElem hi)
  have heq : (c.files.map (·.version))[i]? = (c.files.map (·.version))[pos]? := by
    rw [List.getElem?_map, List.getElem?_map, hm, List.getElem?_eq_getElem hi, Option.map_some, Option.map_some,
      ← hmi, hv]
  exact (List.getElem?_inj (by simpa using hi) c.distinct).mp heq

theorem recorded_iff {pos : ℕ} {m : Migration} (hm : c.files[pos]? = some m) :
    recorded registry m.version = true ↔ pos < registry.length := by
  unfold recorded
  rw [List.any_eq_true]
  constructor
  · rintro ⟨row, hrow, hv⟩
    obtain ⟨i, hi⟩ := List.mem_iff_getElem?.mp hrow
    obtain rfl := pos_of_version hpre hm hi (by simpa using hv)
    exact (List.getElem?_eq_some_iff.mp hi).1
  · intro hlt
    have hr := List.getElem?_eq_getElem hlt
    exact ⟨_, List.mem_of_getElem? hr, by simpa using version_at hpre hr hm⟩

theorem applied_iff_appliedAt {pos : ℕ} {m : Migration} (hm : c.files[pos]? = some m) :
    Applied registry m.version ↔ AppliedAt registry pos := by
  constructor
  · rintro ⟨row, hrow, hv, hsk⟩
    obtain ⟨i, hi⟩ := List.mem_iff_getElem?.mp hrow
    obtain rfl := pos_of_version hpre hm hi hv
    exact ⟨row, hi, hsk⟩
  · rintro ⟨row, hr, hsk⟩
    exact ⟨row, List.mem_of_getElem? hr, version_at hpre hr hm, hsk⟩

/-- The next row is that of the next file. -/
theorem inOrder_append {m : Migration} (hm : c.files[registry.length]? = some m) {row : Row}
    (hv : row.version = m.version) : (registry ++ [row]).map (·.version) <+: c.files.map (·.version) := by
  obtain ⟨rest, hrest⟩ := hpre
  have hv' : (c.files.map (·.version))[registry.length]? = some m.version := by rw [List.getElem?_map, hm]; rfl
  rw [← hrest, List.getElem?_append_right (by simp)] at hv'
  cases rest with
  | nil => simp at hv'
  | cons v rest =>
    obtain rfl : v = m.version := by simpa using hv'
    exact ⟨rest, by rw [← hrest]; simp [hv]⟩

end Registry

theorem AppliedAt.mono {registry registry' : List Row} {pos : ℕ} (ha : AppliedAt registry pos)
    (hreg : registry <+: registry') : AppliedAt registry' pos := by
  obtain ⟨row, hr, hsk⟩ := ha
  obtain ⟨rest, rfl⟩ := hreg
  exact ⟨row, by rw [List.getElem?_append_left (List.getElem?_eq_some_iff.mp hr).1, hr], hsk⟩

variable {h : List Effect} {p : ℕ} {pr pr' : Process}

@[simp] theorem effects_append (h o : List Effect) : effects (h ++ o) = effects h ++ effects o := List.map_append

theorem mem_effects {pos i : ℕ} : (pos, i) ∈ effects h ↔ ∃ p, (⟨p, pos, i⟩ : Effect) ∈ h := by
  unfold effects
  rw [List.mem_map]
  constructor
  · rintro ⟨⟨p, pos', i'⟩, he, heq⟩
    obtain ⟨rfl, rfl⟩ := Prod.mk.inj heq
    exact ⟨p, he⟩
  · rintro ⟨p, he⟩
    exact ⟨_, he, rfl⟩

/-- What is known of a process stays known while another moves. -/
theorem Sound.frame {registry registry' : List Row} {q : ℕ} (hs : Sound c registry h q pr)
    (hreg : registry <+: registry') (ho : ∀ e ∈ o, e.process ≠ q)
    (hins : ∀ d applied pos, pr = .working d applied pos .inserted → registry'.length = registry.length) :
    Sound c registry' (h ++ o) q pr := by
  cases pr with
  | idle =>
    intro e he
    rcases List.mem_append.mp he with he | he
    · exact hs e he
    · exact ho e he
  | ended => trivial
  | working d applied pos st =>
    obtain ⟨hpos, happ, hown, hst⟩ := hs
    refine ⟨hpos.trans hreg.length_le, fun row hr => hreg.subset (happ row hr), fun e he hq => ?_, ?_⟩
    · rcases List.mem_append.mp he with he | he
      · exact hown e he hq
      · exact absurd hq (ho e he)
    · cases st with
      | loop => trivial
      | skipping => trivial
      | executed => exact hst
      | inserted => exact ⟨hst.1, (hins d applied pos rfl).trans hst.2⟩
      | statement idx k =>
        obtain ⟨m, hm, hno, hle, hall⟩ := hst
        exact ⟨m, hm, hno, hle, fun i hi => List.mem_append_left _ (hall i hi)⟩

/-- An open transaction holds the key of the version it has inserted. -/
theorem locked_of_inserted {q pos : ℕ} {d : Bool} {applied : List Row} {m : Migration}
    (hq : w.processes[q]? = some (.working d applied pos .inserted)) (hm : c.files[pos]? = some m) :
    w.locked c m.version = true := by
  unfold World.locked
  rw [List.any_eq_true]
  exact ⟨_, List.mem_of_getElem? hq, by simp [hm]⟩

/-- Who may write the next row finds no transaction in its way. -/
theorem not_inserted_of_unlocked (hi : Inv c w h) {pos : ℕ} {m : Migration} (hm : c.files[pos]? = some m)
    (hpos : pos ≤ w.registry.length) (hlock : w.locked c m.version = false)
    (hrec : recorded w.registry m.version = false) : w.registry.length = pos ∧ ∀ q, ¬ Inserted w q := by
  have hlen : w.registry.length = pos := by
    refine le_antisymm (not_lt.mp fun hlt => ?_) hpos
    rw [(recorded_iff hi.inOrder hm).mpr hlt] at hrec
    cases hrec
  refine ⟨hlen, ?_⟩
  rintro q ⟨d, applied, pos', hq⟩
  have hpos' : w.registry.length = pos' := (hi.sound q _ hq).2.2.2.2
  obtain rfl : pos' = pos := hpos'.symm.trans hlen
  rw [locked_of_inserted hq hm] at hlock
  cases hlock

theorem getElem?_put {q : ℕ} (hp : w.processes[p]? = some pr) (hps : w'.processes = w.processes.set p pr') :
    w'.processes[q]? = if q = p then some pr' else w.processes[q]? := by
  rw [hps]
  by_cases hq : q = p
  · subst hq
    rw [if_pos rfl, List.getElem?_set_self (List.getElem?_eq_some_iff.mp hp).1]
  · rw [if_neg hq, List.getElem?_set_ne (Ne.symm hq)]

/-- **The frame of a step**: what is left to show when process `p` moves. -/
theorem Inv.moved (hi : Inv c w h) (hp : w.processes[p]? = some pr) (hps : w'.processes = w.processes.set p pr')
    (hdone : w'.done = w.done ++ effects o) (hreg : w.registry <+: w'.registry)
    (hpre : w'.registry.map (·.version) <+: c.files.map (·.version))
    (hsound : Sound c w'.registry (h ++ o) p pr')
    (hwait : w'.registry.length = w.registry.length ∨ ∀ q ≠ p, ¬ Inserted w q)
    (halone : (∀ d applied pos, pr' ≠ .working d applied pos .inserted) ∨ ∀ q ≠ p, ¬ Inserted w q)
    (hown : ∀ e ∈ o, e.process = p)
    (hfile : ∀ e ∈ o, ∃ m, c.files[e.pos]? = some m ∧ e.idx < m.statements.length ∧
      (m.noTransaction = false → AppliedAt w'.registry e.pos))
    (hdown : ∀ e ∈ o, ∀ j < e.idx, ⟨e.process, e.pos, j⟩ ∈ h ++ o)
    (hfull : ∀ pos m, AppliedAt w'.registry pos → ¬ AppliedAt w.registry pos → c.files[pos]? = some m →
      ∀ i < m.statements.length, (pos, i) ∈ effects (h ++ o)) : Inv c w' (h ++ o) := by
  have hget : ∀ q, w'.processes[q]? = if q = p then some pr' else w.processes[q]? := fun q => getElem?_put hp hps
  have hins : ∀ q, Inserted w' q → (q = p ∧ ∃ d applied pos, pr' = .working d applied pos .inserted) ∨
      (q ≠ p ∧ Inserted w q) := by
    rintro q ⟨d, applied, pos, hq⟩
    rw [hget] at hq
    by_cases hqp : q = p
    · rw [if_pos hqp] at hq
      exact .inl ⟨hqp, d, applied, pos, Option.some.inj hq⟩
    · rw [if_neg hqp] at hq
      exact .inr ⟨hqp, d, applied, pos, hq⟩
  refine ⟨by rw [hdone, hi.done, effects_append], hpre, ?_, ?_, ?_, ?_, ?_, ?_⟩
  · intro q prq hq
    rw [hget] at hq
    by_cases hqp : q = p
    · rw [if_pos hqp] at hq
      obtain rfl := Option.some.inj hq
      exact hqp ▸ hsound
    · rw [if_neg hqp] at hq
      refine (hi.sound q prq hq).frame hreg (fun e he heq => hqp (heq.symm.trans (hown e he))) ?_
      rintro d applied pos rfl
      exact hwait.resolve_right fun hno => hno q hqp ⟨d, applied, pos, hq⟩
  · intro q q' hq hq'
    rcases hins q hq with ⟨rfl, hpr⟩ | ⟨hqp, hq⟩ <;> rcases hins q' hq' with ⟨rfl, hpr'⟩ | ⟨hqp', hq'⟩
    · rfl
    · obtain ⟨d, applied, pos, heq⟩ := hpr
      exact absurd hq' (halone.resolve_left (fun hno => hno d applied pos heq) q' hqp')
    · obtain ⟨d, applied, pos, heq⟩ := hpr'
      exact absurd hq (halone.resolve_left (fun hno => hno d applied pos heq) q hqp)
    · exact hi.alone q q' hq hq'
  · intro e he
    rw [hget]
    rcases List.mem_append.mp he with he | he
    · obtain ⟨prq, hq⟩ := hi.known e he
      by_cases hep : e.process = p
      · exact ⟨pr', by rw [if_pos hep]⟩
      · exact ⟨prq, by rw [if_neg hep, hq]⟩
    · exact ⟨pr', by rw [if_pos (hown e he)]⟩
  · intro e he
    rcases List.mem_append.mp he with he | he
    · obtain ⟨m, hm, hlt, ha⟩ := hi.inFile e he
      exact ⟨m, hm, hlt, fun hno => (ha hno).mono hreg⟩
    · exact hfile e he
  · intro e he j hj
    rcases List.mem_append.mp he with he | he
    · exact List.mem_append_left _ (hi.downward e he j hj)
    · exact hdown e he j hj
  · intro pos m ha hm i hlt
    by_cases hold : AppliedAt w.registry pos
    · rw [effects_append]
      exact List.mem_append_left _ (hi.full pos m hold hm i hlt)
    · exact hfull pos m ha hold hm i hlt

/-- A step that neither writes the registry nor lets a statement take effect. -/
theorem Inv.quiet (hi : Inv c w h) (hp : w.processes[p]? = some pr) (hps : w'.processes = w.processes.set p pr')
    (hdone : w'.done = w.done ++ effects []) (hreg : w'.registry = w.registry) (hsound : Sound c w.registry h p pr')
    (halone : (∀ d applied pos, pr' ≠ .working d applied pos .inserted) ∨ ∀ q ≠ p, ¬ Inserted w q) :
    Inv c w' (h ++ []) := by
  refine hi.moved hp hps hdone (hreg ▸ List.prefix_rfl) (by rw [hreg]; exact hi.inOrder) ?_ (.inl (by rw [hreg]))
    halone (by simp) (by simp) (by simp) ?_
  · rw [hreg, List.append_nil]
    exact hsound
  · intro pos m ha hno
    rw [hreg] at ha
    exact absurd ha hno

/-- The row of the next file: what is new in the registry. -/
theorem appliedAt_append {registry : List Row} {row : Row} {pos : ℕ} (ha : AppliedAt (registry ++ [row]) pos)
    (hno : ¬ AppliedAt registry pos) : pos = registry.length ∧ row.skipped = false := by
  obtain ⟨r, hr, hsk⟩ := ha
  rcases Nat.lt_or_ge pos registry.length with hlt | hge
  · rw [List.getElem?_append_left hlt] at hr
    exact absurd ⟨r, hr, hsk⟩ hno
  · rw [List.getElem?_append_right hge] at hr
    obtain ⟨hz, rfl⟩ : pos - registry.length = 0 ∧ row = r := by
      cases hk : pos - registry.length with
      | zero => exact ⟨rfl, by simpa [hk] using hr⟩
      | succ k => simp [hk] at hr
    exact ⟨by omega, hsk⟩

theorem appliedAt_length {registry : List Row} {row : Row} (hsk : row.skipped = false) :
    AppliedAt (registry ++ [row]) registry.length := ⟨row, by simp, hsk⟩

/-- **One step keeps what every interleaving keeps.** -/
theorem inv_step {a : Act} (hi : Inv c w h) (hs : (migrate c).step w a = some (w', o)) : Inv c w' (h ++ o) := by
  obtain ⟨p, pr, pr', hp, hps, hdone, hm⟩ := moves_of_step hs
  have hso := hi.sound p pr hp
  generalize hreg : w'.registry = reg at hm
  cases hm with
  | starts d =>
    refine hi.quiet hp hps hdone hreg ⟨Nat.zero_le _, fun row hr => hr, fun e he hep => ?_, trivial⟩ (.inl (by simp))
    exact absurd hep (hso e he)
  | finishes hm => exact hi.quiet hp hps hdone hreg trivial (.inl (by simp))
  | @passes d applied pos m hm hrec =>
    obtain ⟨hpos, happ, hown, -⟩ := hso
    refine hi.quiet hp hps hdone hreg ⟨?_, happ, fun e he hep => ?_, trivial⟩ (.inl (by simp))
    · have hlater : recorded w.registry m.version = true := by
        obtain ⟨row, hr, hv⟩ := List.any_eq_true.mp hrec
        exact List.any_eq_true.mpr ⟨row, happ row hr, hv⟩
      exact (recorded_iff hi.inOrder hm).mp hlater
    · rcases hown e he hep with hlt | ⟨-, idx, k, hst, -⟩
      · exact .inl (by omega)
      · cases hst
  | @chooses d applied pos m hm =>
    obtain ⟨hpos, happ, hown, -⟩ := hso
    have hown' : ∀ e ∈ h, e.process = p → e.pos < pos := by
      intro e he hep
      rcases hown e he hep with hlt | ⟨-, idx, k, hst, -⟩
      · exact hlt
      · cases hst
    refine hi.quiet hp hps hdone hreg ⟨hpos, happ, fun e he hep => .inl (hown' e he hep), ?_⟩ (.inl ?_)
    · unfold Migration.firstStage
      by_cases hseed : (m.isDemoSeed && !d) = true
      · rw [if_pos hseed]
        trivial
      · rw [if_neg hseed]
        by_cases hno : m.noTransaction = true
        · rw [if_pos hno]
          exact ⟨m, hm, hno, Nat.zero_le _, fun i hlt => absurd hlt (Nat.not_lt_zero i)⟩
        · rw [if_neg hno]
          exact ⟨m, hm, Bool.eq_false_iff.mpr hno⟩
    · intro d' applied' pos' heq
      unfold Migration.firstStage at heq
      split at heq
      · cases heq
      · split at heq <;> cases heq
  | conflicts hm hrec hst => exact hi.quiet hp hps hdone hreg trivial (.inl (by simp))
  | @skips d applied pos m hm hlock hrec =>
    obtain ⟨hpos, happ, hown, -⟩ := hso
    obtain ⟨rfl, hno⟩ := not_inserted_of_unlocked hi hm hpos hlock hrec
    refine hi.moved hp hps hdone (by rw [hreg]; exact List.prefix_append _ _)
      (by rw [hreg]; exact inOrder_append hi.inOrder hm rfl) ⟨?_, ?_, ?_, trivial⟩ (.inr fun q _ => hno q)
      (.inl (by simp)) (by simp) (by simp) (by simp) ?_
    · rw [hreg, List.length_append]
      exact Nat.le_refl _
    · intro row hr
      rw [hreg]
      exact List.mem_append_left _ (happ row hr)
    · intro e he hep
      rcases hown e (by simpa using he) hep with hlt | ⟨-, idx, k, hst, -⟩
      · exact .inl (by omega)
      · cases hst
    · intro pos' m' ha hno'
      rw [hreg] at ha
      exact absurd (appliedAt_append ha hno').2 (by simp [Migration.skippedRow])
  | @inserts d applied pos m hm hlock hrec =>
    obtain ⟨hpos, happ, hown, hst⟩ := hso
    obtain ⟨hlen, hno⟩ := not_inserted_of_unlocked hi hm hpos hlock hrec
    refine hi.quiet hp hps hdone hreg ⟨hpos, happ, fun e he hep => ?_, hst, hlen⟩ (.inr fun q _ => hno q)
    rcases hown e he hep with hlt | ⟨-, idx, k, hst, -⟩
    · exact .inl hlt
    · cases hst
  | @commits d applied pos m hm =>
    obtain ⟨hpos, happ, hown, ⟨m', hm', hno⟩, rfl⟩ := hso
    obtain rfl : m = m' := Option.some.inj (hm.symm.trans hm')
    have hothers : ∀ q ≠ p, ¬ Inserted w q := fun q hqp hq => hqp (hi.alone q p hq ⟨d, applied, _, hp⟩)
    have heff : ∀ i < m.statements.length, (⟨p, w.registry.length, i⟩ : Effect) ∈
        (List.range m.statements.length).map fun i => (⟨p, w.registry.length, i⟩ : Effect) :=
      fun i hlt => List.mem_map.mpr ⟨i, List.mem_range.mpr hlt, rfl⟩
    refine hi.moved hp hps hdone (by rw [hreg]; exact List.prefix_append _ _)
      (by rw [hreg]; exact inOrder_append hi.inOrder hm rfl) ⟨?_, ?_, ?_, trivial⟩ (.inr hothers)
      (.inl (by simp)) ?_ ?_ ?_ ?_
    · rw [hreg, List.length_append]
      exact Nat.le_refl _
    · intro row hr
      rw [hreg]
      exact List.mem_append_left _ (happ row hr)
    · intro e he hep
      rcases List.mem_append.mp he with he | he
      · rcases hown e he hep with hlt | ⟨-, idx, k, hst, -⟩
        · exact .inl (by omega)
        · cases hst
      · obtain ⟨i, -, rfl⟩ := List.mem_map.mp he
        exact .inl (Nat.lt_succ_self _)
    · intro e he
      obtain ⟨i, -, rfl⟩ := List.mem_map.mp he
      rfl
    · intro e he
      obtain ⟨i, hlt, rfl⟩ := List.mem_map.mp he
      exact ⟨m, hm, List.mem_range.mp hlt, fun _ => by rw [hreg]; exact appliedAt_length rfl⟩
    · intro e he j hj
      obtain ⟨i, hlt, rfl⟩ := List.mem_map.mp he
      exact List.mem_append_right _ (heff j (Nat.lt_trans hj (List.mem_range.mp hlt)))
    · intro pos' m' ha hno' hm'' i hlt
      rw [hreg] at ha
      obtain ⟨rfl, -⟩ := appliedAt_append ha hno'
      obtain rfl : m = m' := Option.some.inj (hm.symm.trans hm'')
      exact mem_effects.mpr ⟨p, List.mem_append_right _ (heff i hlt)⟩
  | @executes d applied pos idx k m hm hlt href =>
    obtain ⟨hpos, happ, hown, m', hm', hno, -, hall⟩ := hso
    obtain rfl : m = m' := Option.some.inj (hm.symm.trans hm')
    refine hi.moved hp hps hdone (hreg ▸ List.prefix_rfl) (by rw [hreg]; exact hi.inOrder)
      ⟨by rw [hreg]; exact hpos, by rw [hreg]; exact happ, ?_, m, hm, hno, hlt, ?_⟩ (.inl (by rw [hreg]))
      (.inl (by simp)) (by simp) ?_ ?_ ?_
    · intro e he hep
      rcases List.mem_append.mp he with he | he
      · rcases hown e he hep with hlt | ⟨hpe, idx', k', hst, hlt'⟩
        · exact .inl hlt
        · obtain ⟨rfl, rfl⟩ := Stage.statement.inj hst
          exact .inr ⟨hpe, _, _, rfl, by omega⟩
      · obtain rfl := List.mem_singleton.mp he
        exact .inr ⟨rfl, _, _, rfl, Nat.lt_succ_self _⟩
    · intro i hi'
      rcases Nat.lt_succ_iff_lt_or_eq.mp hi' with hi' | rfl
      · exact List.mem_append_left _ (hall i hi')
      · exact List.mem_append_right _ (List.mem_singleton.mpr rfl)
    · intro e he
      obtain rfl := List.mem_singleton.mp he
      exact ⟨m, hm, hlt, fun hno' => by rw [hno] at hno'; cases hno'⟩
    · intro e he j hj
      obtain rfl := List.mem_singleton.mp he
      exact List.mem_append_left _ (hall j hj)
    · intro pos' m' ha hno'
      rw [hreg] at ha
      exact absurd ha hno'
  | @retries d applied pos idx k =>
    obtain ⟨hpos, happ, hown, m, hm, hno, hle, hall⟩ := hso
    refine hi.quiet hp hps hdone hreg ⟨hpos, happ, fun e he hep => ?_, m, hm, hno, hle, hall⟩ (.inl (by simp))
    rcases hown e he hep with hlt | ⟨hpe, idx', k', hst, hlt'⟩
    · exact .inl hlt
    · obtain ⟨rfl, rfl⟩ := Stage.statement.inj hst
      exact .inr ⟨hpe, _, _, rfl, hlt'⟩
  | @records d applied pos k m hm hlock hrec =>
    obtain ⟨hpos, happ, hown, m', hm', hno, -, hall⟩ := hso
    obtain rfl : m = m' := Option.some.inj (hm.symm.trans hm')
    obtain ⟨rfl, hothers⟩ := not_inserted_of_unlocked hi hm hpos hlock hrec
    refine hi.moved hp hps hdone (by rw [hreg]; exact List.prefix_append _ _)
      (by rw [hreg]; exact inOrder_append hi.inOrder hm rfl) ⟨?_, ?_, ?_, trivial⟩ (.inr fun q _ => hothers q)
      (.inl (by simp)) (by simp) (by simp) (by simp) ?_
    · rw [hreg, List.length_append]
      exact Nat.le_refl _
    · intro row hr
      rw [hreg]
      exact List.mem_append_left _ (happ row hr)
    · intro e he hep
      rcases hown e (by simpa using he) hep with hlt | ⟨hpe, -⟩
      · exact .inl (by omega)
      · exact .inl (by omega)
    · intro pos' m' ha hno' hm'' i hlt
      rw [hreg] at ha
      obtain ⟨rfl, -⟩ := appliedAt_append ha hno'
      obtain rfl : m = m' := Option.some.inj (hm.symm.trans hm'')
      rw [List.append_nil]
      exact mem_effects.mpr ⟨p, hall i hlt⟩
  | rollsBack => exact hi.quiet hp hps hdone hreg trivial (.inl (by simp))
  | refused href => exact hi.quiet hp hps hdone hreg trivial (.inl (by simp))
  | stops hpr => exact hi.quiet hp hps hdone hreg trivial (.inl (by simp))

/-! ### Which steps keep the promise -/

/-- The database refuses the first statement of a `@no-transaction` file to whoever begins the file anew, and the file
is not recorded as skipped while a process applies it. -/
def Undoubled (c : Chain) (w : World) (h : List Effect) : Act → Prop
  | .statement p => ∀ d applied pos k, w.processes[p]? = some (.working d applied pos (.statement 0 k)) →
      (pos, 0) ∈ effects h → c.refuses (effects h) (pos, 0) = true
  | .record p => ∀ d applied pos k m, c.files[pos]? = some m → m.statements ≠ [] →
      w.processes[p]? = some (.working d applied pos (.statement m.statements.length k)) →
      ∀ row ∈ w.registry, row.version = m.version → row.skipped = false
  | _ => True

theorem partWay_put (hp : w.processes[p]? = some pr) (hps : w'.processes = w.processes.set p pr') {pos : ℕ}
    (hpw : PartWay w pos) (hpr : pr.PartWay pos → pr'.PartWay pos) : PartWay w' pos := by
  obtain ⟨q, prq, hq, hprq⟩ := hpw
  by_cases hqp : q = p
  · subst hqp
    obtain rfl := Option.some.inj (hp.symm.trans hq)
    exact ⟨q, pr', by rw [getElem?_put hp hps, if_pos rfl], hpr hprq⟩
  · exact ⟨q, prq, by rw [getElem?_put hp hps, if_neg hqp, hq], hprq⟩

/-- A step that neither writes the registry nor lets a statement take effect, nor ends a file. -/
theorem Chained.quiet (hch : Chained c w h) (hp : w.processes[p]? = some pr)
    (hps : w'.processes = w.processes.set p pr') (hreg : w'.registry = w.registry)
    (hpr : ∀ pos, pr.PartWay pos → pr'.PartWay pos) : Chained c w' (h ++ []) := by
  rw [List.append_nil]
  refine ⟨by rw [hreg]; exact hch.inOrder, hch.once, fun pos m hm hne hpw => ?_⟩
  rw [hreg]
  exact hch.applied_iff pos m hm hne fun hw => hpw (partWay_put hp hps hw (hpr pos))

/-- Two processes that have let one statement take effect have broken the promise. -/
theorem Chained.same_process (hch : Chained c w h) {p q pos i : ℕ} (hp : (⟨p, pos, i⟩ : Effect) ∈ h)
    (hq : (⟨q, pos, i⟩ : Effect) ∈ h) : p = q := by
  have hinj := List.inj_on_of_nodup_map hch.once hp hq rfl
  exact congrArg Effect.process hinj

/-- Who begins a file, or goes on with one that only it has begun, executes a statement for the first time. -/
theorem Chained.fresh_statement (hi : Inv c w h) (hch : Chained c w h) {d : Bool} {applied : List Row}
    {pos idx k : ℕ} (hp : w.processes[p]? = some (.working d applied pos (.statement (idx + 1) k))) :
    (pos, idx + 1) ∉ effects h := by
  obtain ⟨-, -, hown, m, -, -, -, hall⟩ := hi.sound p _ hp
  intro hmem
  obtain ⟨q, hq⟩ := mem_effects.mp hmem
  have hq0 : (⟨q, pos, 0⟩ : Effect) ∈ h := hi.downward _ hq 0 (Nat.succ_pos idx)
  obtain rfl : q = p := hch.same_process hq0 (hall 0 (Nat.succ_pos idx))
  rcases hown _ hq rfl with hlt | ⟨-, idx', k', hst, hlt⟩
  · exact absurd hlt (Nat.lt_irrefl _)
  · obtain ⟨rfl, -⟩ := Stage.statement.inj hst
    exact absurd hlt (Nat.lt_irrefl _)

/-- Process `p` lets statement `idx` of the file at `pos` take effect. -/
theorem chained_executes_iff (hch : Chained c w h) {d : Bool} {applied : List Row} {pos idx k : ℕ}
    (hp : w.processes[p]? = some (.working d applied pos (.statement idx k)))
    (hps : w'.processes = w.processes.set p (.working d applied pos (.statement (idx + 1) 1)))
    (hreg : w'.registry = w.registry) :
    Chained c w' (h ++ [⟨p, pos, idx⟩]) ↔ (pos, idx) ∉ effects h := by
  have hadd : effects (h ++ [⟨p, pos, idx⟩]) = effects h ++ [(pos, idx)] := by simp [effects]
  constructor
  · intro hch'
    have honce := hch'.once
    rw [hadd, List.nodup_append] at honce
    intro hmem
    exact honce.2.2 _ hmem _ (List.mem_singleton.mpr rfl) rfl
  · intro hno
    refine ⟨by rw [hreg]; exact hch.inOrder, ?_, fun pos' m hm hne hpw => ?_⟩
    · rw [hadd, List.nodup_append]
      refine ⟨hch.once, List.nodup_singleton _, fun a ha b hb => ?_⟩
      rw [List.mem_singleton.mp hb]
      rintro rfl
      exact hno ha
    · have hpos : pos' ≠ pos := by
        rintro rfl
        refine hpw ⟨p, _, by rw [getElem?_put hp hps, if_pos rfl], d, applied, idx, 1, rfl⟩
      have hsame : ∀ i, (pos', i) ∈ effects (h ++ [⟨p, pos, idx⟩]) ↔ (pos', i) ∈ effects h := by
        intro i
        rw [hadd, List.mem_append, List.mem_singleton]
        simp [hpos]
      have hpr : (Process.working d applied pos (.statement idx k)).PartWay pos' →
          (Process.working d applied pos (.statement (idx + 1) 1)).PartWay pos' := by
        rintro ⟨d', applied', idx', k', heq⟩
        exact absurd (Process.working.inj heq).2.2.1 (Ne.symm hpos)
      simp only [hreg, hsame]
      exact hch.applied_iff pos' m hm hne fun hw => hpw (partWay_put hp hps hw hpr)

/-- A row of `m`, which is the file at the end of the registry, is appended: what the others record is unchanged. -/
theorem applied_append_iff (hpre : w.registry.map (·.version) <+: c.files.map (·.version)) {m m' : Migration}
    (hm : c.files[w.registry.length]? = some m) {row : Row} (hv : row.version = m.version) {pos : ℕ}
    (hm' : c.files[pos]? = some m') (hpos : pos ≠ w.registry.length) :
    Applied (w.registry ++ [row]) m'.version ↔ Applied w.registry m'.version := by
  rw [applied_iff_appliedAt (inOrder_append hpre hm hv) hm', applied_iff_appliedAt hpre hm']
  constructor
  · intro ha
    by_contra hno
    exact hpos (appliedAt_append ha hno).1
  · exact fun ha => ha.mono (List.prefix_append _ _)

/-- A process that commits or records the next file, all of whose statements have taken effect once. -/
theorem Chained.ends (hi : Inv c w h) (hch : Chained c w h) {m : Migration} (hi' : Inv c w' (h ++ o))
    (hm : c.files[w.registry.length]? = some m) (hp : w.processes[p]? = some pr)
    (hps : w'.processes = w.processes.set p pr') (hreg : w'.registry = w.registry ++ [m.appliedRow])
    (hpr : ∀ pos, pos ≠ w.registry.length → ¬ pr.PartWay pos) (honce : (effects (h ++ o)).Nodup)
    (ho : ∀ e ∈ o, e.pos = w.registry.length) : Chained c w' (h ++ o) := by
  refine ⟨hi'.inOrder, honce, fun pos m' hm' hne hpw => ?_⟩
  by_cases hpos : pos = w.registry.length
  · subst hpos
    obtain rfl : m = m' := Option.some.inj (hm.symm.trans hm')
    have hat : AppliedAt w'.registry w.registry.length := by rw [hreg]; exact appliedAt_length rfl
    exact iff_of_true ((applied_iff_appliedAt hi'.inOrder hm).mpr hat) (hi'.full _ m hat hm)
  · have hsame : ∀ i, (pos, i) ∈ effects (h ++ o) ↔ (pos, i) ∈ effects h := by
      intro i
      rw [effects_append, List.mem_append, or_iff_left]
      intro hmem
      obtain ⟨q, hq⟩ := mem_effects.mp hmem
      exact hpos (ho _ hq)
    simp only [hreg, hsame]
    rw [applied_append_iff hi.inOrder hm rfl hm' hpos]
    exact hch.applied_iff pos m' hm' hne fun hw => hpw (partWay_put hp hps hw fun hpart => absurd hpart (hpr pos hpos))

/-- A process that finds its file recorded after the last statement: right when it was recorded as applied. -/
theorem chained_conflicts_iff (hi : Inv c w h) (hch : Chained c w h) {d : Bool} {applied : List Row} {pos k : ℕ}
    {m : Migration} (hm : c.files[pos]? = some m)
    (hp : w.processes[p]? = some (.working d applied pos (.statement m.statements.length k)))
    (hps : w'.processes = w.processes.set p .ended) (hreg : w'.registry = w.registry)
    (hrec : recorded w.registry m.version = true) : Chained c w' (h ++ []) ↔ Undoubled c w h (.record p) := by
  obtain ⟨-, -, -, m', hm', hno, -, hall⟩ := hi.sound p _ hp
  obtain rfl : m = m' := Option.some.inj (hm.symm.trans hm')
  obtain ⟨row, hrow, hv⟩ := List.any_eq_true.mp hrec
  have hv : row.version = m.version := by simpa using hv
  -- the version has one row
  have hone : ∀ row' ∈ w.registry, row'.version = m.version → row' = row := by
    intro row' hrow' hv'
    obtain ⟨i, hri⟩ := List.mem_iff_getElem?.mp hrow
    obtain ⟨j, hrj⟩ := List.mem_iff_getElem?.mp hrow'
    have hij : j = i := (pos_of_version hi.inOrder hm hrj hv').trans (pos_of_version hi.inOrder hm hri hv).symm
    exact Option.some.inj (hrj.symm.trans (hij ▸ hri))
  constructor
  · intro hch' d' applied' pos' k' m' hm' hne hp' row' hrow' hv'
    obtain ⟨-, -, rfl, -⟩ := Process.working.inj (Option.some.inj (hp.symm.trans hp'))
    obtain rfl : m = m' := Option.some.inj (hm.symm.trans hm')
    have hpos : 0 < m.statements.length := List.length_pos_iff.mpr hne
    have hpw : ¬ PartWay w' pos := by
      rintro ⟨q, prq, hq, dq, aq, iq, kq, rfl⟩
      rw [getElem?_put hp hps] at hq
      split at hq
      · cases hq
      · rename_i hqp
        obtain ⟨-, -, -, -, -, -, -, hallq⟩ := hi.sound q _ hq
        exact hqp (hch.same_process (hallq 0 (Nat.succ_pos iq)) (hall 0 hpos))
    have happ := (hch'.applied_iff pos m hm hne hpw).mpr fun i hlt => by
      rw [List.append_nil]
      exact mem_effects.mpr ⟨p, hall i hlt⟩
    rw [hreg] at happ
    obtain ⟨row'', hrow'', hv'', hsk⟩ := happ
    rw [hone row' hrow' hv', ← hone row'' hrow'' hv'']
    exact hsk
  · intro hun
    rw [List.append_nil]
    refine ⟨by rw [hreg]; exact hch.inOrder, hch.once, fun pos₂ m₂ hm₂ hne hpw => ?_⟩
    by_cases hpos : pos₂ = pos
    · subst hpos
      obtain rfl : m = m₂ := Option.some.inj (hm.symm.trans hm₂)
      refine iff_of_true ?_ fun i hlt => mem_effects.mpr ⟨p, hall i hlt⟩
      rw [hreg]
      exact ⟨row, hrow, hv, hun d applied pos₂ k m hm hne hp row hrow hv⟩
    · rw [hreg]
      refine hch.applied_iff pos₂ m₂ hm₂ hne fun hw => hpw (partWay_put hp hps hw ?_)
      rintro ⟨d', applied', idx', k', heq⟩
      exact absurd (Process.working.inj heq).2.2.1 (Ne.symm hpos)

/-- **Which steps keep the promise.** -/
theorem chained_step_iff {a : Act} (hi : Inv c w h) (hch : Chained c w h)
    (hs : (migrate c).step w a = some (w', o)) : Chained c w' (h ++ o) ↔ Undoubled c w h a := by
  have hi' := inv_step hi hs
  obtain ⟨p, pr, pr', hp, hps, -, hm⟩ := moves_of_step hs
  have hso := hi.sound p pr hp
  generalize hreg : w'.registry = reg at hm
  cases hm with
  | starts d =>
    exact iff_of_true (hch.quiet hp hps hreg fun pos => by rintro ⟨_, _, _, _, heq⟩; cases heq) trivial
  | finishes hm =>
    exact iff_of_true (hch.quiet hp hps hreg fun pos => by rintro ⟨_, _, _, _, heq⟩; cases heq) trivial
  | passes hm hrec =>
    exact iff_of_true (hch.quiet hp hps hreg fun pos => by rintro ⟨_, _, _, _, heq⟩; cases heq) trivial
  | chooses hm =>
    exact iff_of_true (hch.quiet hp hps hreg fun pos => by rintro ⟨_, _, _, _, heq⟩; cases heq) trivial
  | inserts hm hlock hrec =>
    exact iff_of_true (hch.quiet hp hps hreg fun pos => by rintro ⟨_, _, _, _, heq⟩; cases heq) trivial
  | stops hpr =>
    refine iff_of_true (hch.quiet hp hps hreg fun pos => ?_) trivial
    rintro ⟨d, applied, idx, k, rfl⟩
    exact absurd rfl (hpr d applied pos idx k)
  | retries =>
    refine iff_of_true (hch.quiet hp hps hreg fun pos => ?_) trivial
    rintro ⟨d, applied, idx, k, heq⟩
    obtain ⟨rfl, rfl, rfl, hst⟩ := Process.working.inj heq
    obtain ⟨rfl, rfl⟩ := Stage.statement.inj hst
    exact ⟨_, _, _, _, rfl⟩
  | conflicts hm hrec hst =>
    rcases hst with ⟨k, rfl, rfl⟩ | ⟨hno, ha⟩
    · exact chained_conflicts_iff hi hch hm hp hps hreg hrec
    · refine iff_of_true (hch.quiet hp hps hreg fun pos => ?_) ?_
      · rintro ⟨d, applied, idx, k, heq⟩
        exact absurd (Process.working.inj heq).2.2.2 (hno _ _)
      · cases a with
        | statement q => exact absurd rfl (ha q).2
        | record q => exact absurd rfl (ha q).1
        | _ => trivial
  | @skips d applied pos m hm hlock hrec =>
    obtain ⟨rfl, -⟩ := not_inserted_of_unlocked hi hm hso.1 hlock hrec
    refine iff_of_true ⟨hi'.inOrder, by rw [List.append_nil]; exact hch.once, fun pos' m' hm' hne hpw => ?_⟩ trivial
    have hw : ¬ PartWay w pos' := fun hw => hpw (partWay_put hp hps hw fun ⟨_, _, _, _, heq⟩ => by cases heq)
    rw [hreg, List.append_nil, ← hch.applied_iff pos' m' hm' hne hw]
    -- a skipped row records nothing as applied
    simp [Applied, or_and_right, exists_or, Migration.skippedRow]
  | @commits d applied pos m hm =>
    obtain ⟨-, -, -, ⟨m', hm', hno⟩, rfl⟩ := hso
    obtain rfl : m = m' := Option.some.inj (hm.symm.trans hm')
    refine iff_of_true (hch.ends hi hi' hm hp hps hreg ?_ ?_ ?_) trivial
    · rintro pos - ⟨_, _, _, _, heq⟩
      cases heq
    · have hnew : effects ((List.range m.statements.length).map fun i => ⟨p, w.registry.length, i⟩) =
          (List.range m.statements.length).map fun i => (w.registry.length, i) := by simp [effects]
      rw [effects_append, hnew, List.nodup_append]
      refine ⟨hch.once, List.nodup_range.map fun i j hij => (Prod.mk.inj hij).2, fun a ha b hb => ?_⟩
      obtain ⟨i, -, rfl⟩ := List.mem_map.mp hb
      rintro rfl
      -- a transactional file that has taken effect is in the registry
      obtain ⟨q, hq⟩ := mem_effects.mp ha
      obtain ⟨m', hm', -, hat⟩ := hi.inFile _ hq
      obtain rfl : m = m' := Option.some.inj (hm.symm.trans hm')
      obtain ⟨row, hr, -⟩ := hat hno
      simp at hr
    · intro e he
      obtain ⟨i, -, rfl⟩ := List.mem_map.mp he
      rfl
  | rollsBack =>
    exact iff_of_true (hch.quiet hp hps hreg fun pos => by rintro ⟨_, _, _, _, heq⟩; cases heq) trivial
  | @refused d applied pos k href =>
    refine iff_of_true (hch.quiet hp hps hreg fun pos' => ?_) fun d' applied' pos' k' hp' _ => ?_
    · rintro ⟨d', applied', idx', k', heq⟩
      cases (Process.working.inj heq).2.2.2
    · obtain ⟨-, -, rfl, -⟩ := Process.working.inj (Option.some.inj (hp.symm.trans hp'))
      rw [← hi.done]
      exact href
  | @executes d applied pos idx k m hm hlt href =>
    rw [chained_executes_iff hch hp hps hreg]
    cases idx with
    | zero =>
      rw [hi.done] at href
      constructor
      · intro hno d' applied' pos' k' hp' hmem
        obtain ⟨-, -, rfl, -⟩ := Process.working.inj (Option.some.inj (hp.symm.trans hp'))
        exact absurd hmem hno
      · intro hun hmem
        rw [hun d applied pos k hp hmem] at href
        cases href
    | succ idx =>
      refine iff_of_true (hch.fresh_statement hi hp) fun d' applied' pos' k' hp' _ => ?_
      cases Option.some.inj (hp.symm.trans hp')
  | @records d applied pos k m hm hlock hrec =>
    obtain ⟨rfl, -⟩ := not_inserted_of_unlocked hi hm hso.1 hlock hrec
    refine iff_of_true (hch.ends hi hi' hm hp hps hreg ?_ (by rw [List.append_nil]; exact hch.once) (by simp)) ?_
    · rintro pos hpos ⟨_, _, _, _, heq⟩
      exact hpos (Process.working.inj heq).2.2.1.symm
    · intro d' applied' pos' k' m' hm' _ hp' row hrow hv
      obtain ⟨-, -, rfl, -⟩ := Process.working.inj (Option.some.inj (hp.symm.trans hp'))
      obtain rfl : m = m' := Option.some.inj (hm.symm.trans hm')
      have hyes : recorded w.registry m.version = true := List.any_eq_true.mpr ⟨row, hrow, by simpa using hv⟩
      rw [hrec] at hyes
      cases hyes

theorem exists_inserted_of_locked {version : String} (hlock : w.locked c version = true) :
    ∃ (q : ℕ) (d : Bool) (applied : List Row) (pos : ℕ) (m : Migration),
      w.processes[q]? = some (.working d applied pos .inserted) ∧ c.files[pos]? = some m ∧ m.version = version := by
  obtain ⟨pr, hpr, hl⟩ := List.any_eq_true.mp hlock
  obtain ⟨q, hq⟩ := List.mem_iff_getElem?.mp hpr
  split at hl
  · rename_i d applied pos
    cases hm : c.files[pos]? with
    | none => simp [hm] at hl
    | some m => exact ⟨q, d, applied, pos, m, hq, hm, by simpa [hm] using hl⟩
  · cases hl

/-- Who waits keeps the promise. -/
theorem undoubled_of_none {a : Act} (hi : Inv c w h) (hs : (migrate c).step w a = none) : Undoubled c w h a := by
  cases a with
  | statement p =>
    intro d applied pos k hp hmem
    obtain ⟨q, hq⟩ := mem_effects.mp hmem
    obtain ⟨m, hm, hlt, -⟩ := hi.inFile _ hq
    have hlt : 0 < m.statements.length := hlt
    by_cases href : c.refuses w.done (pos, 0) = true <;> simp [migrate, World.step, hp, hm, hlt, href] at hs
  | record p =>
    intro d applied pos k m hm _ hp row hrow hv
    simp only [migrate, World.step, hp, hm, Option.bind_some, if_true, World.insertRow] at hs
    split at hs
    · rename_i hlock
      obtain ⟨q, d', applied', pos', m', hq, hm', hv'⟩ := exists_inserted_of_locked hlock
      obtain ⟨-, -, -, -, hlen⟩ := hi.sound q _ hq
      obtain ⟨i, hri⟩ := List.mem_iff_getElem?.mp hrow
      -- the row would be that of the file whose transaction is still open
      have hii : i = pos' := pos_of_version hi.inOrder hm' hri (hv.trans hv'.symm)
      have hlt := (List.getElem?_eq_some_iff.mp hri).1
      omega
    · split at hs <;> cases hs
  | _ => trivial

theorem inv_fresh (c : Chain) (n : ℕ) : Inv c (.fresh n) [] := by
  have hidle : ∀ (p : ℕ) (pr : Process), (World.fresh n).processes[p]? = some pr → pr = .idle := by
    intro p pr hp
    exact List.eq_of_mem_replicate (List.mem_of_getElem? hp)
  refine ⟨rfl, List.nil_prefix, fun p pr hp => ?_, ?_, by simp, by simp, by simp, ?_⟩
  · obtain rfl := hidle p pr hp
    simp [Sound]
  · rintro p q ⟨d, applied, pos, hp⟩
    cases hidle p _ hp
  · rintro pos m ⟨row, hr, -⟩
    simp [World.fresh] at hr

theorem chained_fresh (c : Chain) (n : ℕ) : Chained c (.fresh n) [] := by
  refine ⟨List.nil_prefix, List.nodup_nil, fun pos m hm hne _ => iff_of_false ?_ fun hall => ?_⟩
  · rintro ⟨row, hrow, -⟩
    simp [World.fresh] at hrow
  · have hmem := hall 0 (List.length_pos_iff.mpr hne)
    simp [effects] at hmem

/-- **When the registry tells the truth**: in every state of an interleaving the recorded versions are the first in
file order, the applied ones are those whose statements have taken effect, and none has twice, if and only if the
database refuses the first statement of a `@no-transaction` file that has been begun, and no process ends one that
another has recorded as skipped. -/
theorem chained_iff (c : Chain) (n : ℕ) (acts : List Act) :
    (migrate c).Along (Chained c) (.fresh n) [] acts ↔ (migrate c).Meets (Undoubled c) (.fresh n) [] acts :=
  along_iff_meets (I := Inv c) inv_step chained_step_iff undoubled_of_none (inv_fresh c n) (chained_fresh c n)

/-- A chain of one `@no-transaction` file, which begins as `016_rollups_exclude_flagged.sql` does: PostgreSQL executes
the statement as often as it is sent. -/
def rollups : Chain where
  files := [{
    version := "016_rollups_exclude_flagged", checksum := "0f"
    statements := ["SELECT remove_continuous_aggregate_policy('telemetry_5m', if_exists => true)"]
    noTransaction := true, isDemoSeed := false }]
  distinct := by decide
  refuses := fun _ _ => false

/-- Two processes read the registry before either has recorded the file. -/
theorem executed_by_both :
    ¬ ∀ (c : Chain) (acts : List Act), (migrate c).Along (Chained c) (.fresh 2) [] acts := by
  intro hall
  have hch := (hall rollups [.start 0 false, .start 1 false, .next 0, .next 1, .statement 0, .record 0,
    .statement 1]).at_end rfl
  have honce : [(0, 0), (0, 0)].Nodup := hch.once
  exact absurd honce (by decide)

end DTwin.Db
