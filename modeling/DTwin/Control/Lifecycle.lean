import DTwin.Control.Service
import Mathlib.Logic.Relation

/-!
# DTwin.Control.Lifecycle — what the statements can do to a command

Six statements write `control_commands`.  Here each is a `Statement`, with what it needs to run
(`Allowed`) and the rows it retires, and the facts about all of them are proved once:

* `Arrow` is the lifecycle; `Statement.grows`: a statement moves every row along it and changes
  nothing that was asked for (`Moves`), so a settled command stays settled
  (`path_from_settled`);
* `Statement.lawful`: ids stay unique and a zone keeps at most one live command;
* `Statement.oneOverride`: a zone keeps at most one override in force.
-/

namespace DTwin

/-- What was asked for: the columns no statement after the `INSERT` writes. -/
structure Intent where
  id : Uuid
  tenantId : Uuid
  zoneId : Uuid
  setpointTempC : ℚ
  previousTempC : Option ℚ
  reason : String
  requestedBy : Uuid
  requestedAt : ℤ
  expiresAt : ℤ
  effectiveUntil : ℤ

def Command.intent (c : Command) : Intent :=
  ⟨c.id, c.tenantId, c.zoneId, c.setpointTempC, c.previousTempC, c.reason, c.requestedBy,
    c.requestedAt, c.expiresAt, c.effectiveUntil⟩

/-- The key of `control_commands_one_live_idx`. -/
def Command.zoneKey (c : Command) : Uuid × Uuid := (c.tenantId, c.zoneId)

end DTwin

namespace DTwin.Control

open Table Relation

/-! ## The lifecycle -/

/-- The changes of state a statement makes. -/
inductive Arrow : ControlCommandState → ControlCommandState → Prop
  | expire : Arrow .pending .expired
  | claim : Arrow .pending .dispatched
  | release : Arrow .dispatched .pending
  | apply : Arrow .dispatched .applied
  | fail : Arrow .dispatched .failed
  | withdraw : Arrow .pending .cancelled
  | recall : Arrow .dispatched .cancelled
  | supersede : Arrow .applied .superseded

/-- `c'` is the command `c` some statements later. -/
structure Moves (c c' : Command) : Prop where
  intent : c'.intent = c.intent
  path : ReflTransGen Arrow c.state c'.state

theorem Moves.refl (c : Command) : Moves c c := ⟨rfl, .refl⟩

theorem Moves.trans {a b c : Command} (h₁ : Moves a b) (h₂ : Moves b c) : Moves a c :=
  ⟨h₂.intent.trans h₁.intent, h₁.path.trans h₂.path⟩

theorem Moves.arrow {c c' : Command} (hi : c'.intent = c.intent) (ha : Arrow c.state c'.state) :
    Moves c c' := ⟨hi, .single ha⟩

theorem Moves.id_eq {c c' : Command} (h : Moves c c') : c'.id = c.id :=
  congrArg Intent.id h.intent

/-- The live states; every other one is settled. -/
def Live (s : ControlCommandState) : Prop := s = .pending ∨ s = .dispatched

theorem isLive_eq_false_iff {c : Command} : c.isLive = false ↔ ¬ Live c.state := by
  rw [← Bool.not_eq_true, Command.isLive_iff]
  rfl

theorem Arrow.from_settled {s s' : ControlCommandState} (h : Arrow s s') (hs : ¬ Live s) :
    s = .applied ∧ s' = .superseded := by
  cases h <;> simp_all [Live]

/-- **A settled command stays as it is**, except that an applied one may be superseded. -/
theorem path_from_settled {s s' : ControlCommandState} (h : ReflTransGen Arrow s s')
    (hs : ¬ Live s) : s' = s ∨ (s = .applied ∧ s' = .superseded) := by
  induction h with
  | refl => exact Or.inl rfl
  | tail _ ha ih =>
    rcases ih with rfl | ⟨rfl, rfl⟩
    · exact Or.inr (ha.from_settled hs)
    · cases ha

theorem Moves.not_live {c c' : Command} (h : Moves c c') (hc : ¬ Live c.state) :
    ¬ Live c'.state := by
  rcases path_from_settled h.path hc with he | ⟨-, he⟩ <;> rw [he]
  · exact hc
  · simp [Live]

/-! ## The statements -/

inductive Statement
  | insert (input : NewCommand) (id : Uuid) (now : ℤ) (c : Command)
  | expire (tenantId : Uuid) (now : ℤ)
  | claim (tenantId : Uuid) (gateway : String) (limit : ℕ) (now : ℤ) (locked : List Uuid)
  | release (tenantId id : Uuid) (detail : String)
  | settle (tenantId id : Uuid) (outcome : Outcome) (detail : Option String) (now : ℤ)
  | cancel (tenantId id : Uuid) (now : ℤ)

/-- What the statement makes of the table. -/
def Statement.run : Statement → List Command → List Command
  | insert _ _ _ c, t => t ++ [c]
  | expire tenantId now, t => expireStale tenantId now t
  | claim tenantId gateway limit now locked, t =>
    (claimCommands tenantId gateway limit now locked t).1
  | release tenantId id detail, t => releaseCommand tenantId id detail t
  | settle tenantId id outcome detail now, t => (settleCommand tenantId id outcome detail now t).1
  | cancel tenantId id now, t => (cancelCommand tenantId id now t).1

/-- When it can run: an `INSERT` passes the table's constraints, a settlement has begun. -/
def Statement.Allowed (w : World) (clock : ℤ) (t : List Command) : Statement → Prop
  | insert input id now c => insertCommand w input id now t = .ok (some c)
  | settle _ _ _ _ now => now ≤ clock
  | _ => True

/-- The rows it takes out of the live states. -/
def Statement.retires : Statement → Command → Bool
  | expire tenantId now => staleAt tenantId now
  | settle tenantId id _ _ _ => isRow tenantId id .dispatched
  | cancel tenantId id _ => cancellable tenantId id
  | _ => fun _ => false

/-- What `INSERT` guarantees of the row it writes. -/
structure Fresh (t : List Command) (c : Command) : Prop where
  state : c.state = .pending
  id_ne : ∀ r ∈ t, r.id ≠ c.id
  zone_ne : ∀ r ∈ t, Live r.state → r.zoneKey ≠ c.zoneKey

theorem insertCommand_fresh {w : World} {input : NewCommand} {id : Uuid} {now : ℤ}
    {t : List Command} {c : Command} (h : insertCommand w input id now t = .ok (some c)) :
    Fresh t c ∧ c.tenantId = input.tenantId ∧ c.expiresAt = input.expiresAt := by
  unfold insertCommand at h
  split_ifs at h with _ hp hw hany _ _
  · simp at h
  have hno : ∀ r ∈ t, ¬ (input.conflicts id r = true) := by
    simpa [List.any_eq_true] using hany
  simp only [Except.ok.injEq, Option.some.injEq] at h
  subst h
  refine ⟨⟨rfl, ?_, ?_⟩, rfl, rfl⟩
  · intro r hr he
    exact hno r hr (by simp [NewCommand.conflicts, show r.id = id from he])
  · intro r hr hl he
    have hz : r.tenantId = input.tenantId ∧ r.zoneId = input.zoneId := by
      simpa [Command.zoneKey, NewCommand.row] using he
    exact hno r hr (by simp [NewCommand.conflicts, Command.isLive_iff.mpr hl, hz.1, hz.2])

/-! ### What each row update is -/

theorem staleAt_iff {tenantId : Uuid} {now : ℤ} {c : Command} :
    staleAt tenantId now c = true ↔
      c.tenantId = tenantId ∧ c.state = .pending ∧ c.expiresAt ≤ now := by
  simp [staleAt, and_assoc]

theorem isRow_iff {tenantId id : Uuid} {state : ControlCommandState} {c : Command} :
    isRow tenantId id state c = true ↔ c.tenantId = tenantId ∧ c.id = id ∧ c.state = state := by
  simp [isRow, and_assoc]

theorem inForce_iff {tenantId : Uuid} {now : ℤ} {c : Command} :
    inForce tenantId now c = true ↔
      c.tenantId = tenantId ∧ c.state = .applied ∧ now < c.effectiveUntil := by
  simp [inForce, and_assoc]

theorem replacedBy_iff {tenantId zoneId id : Uuid} {now : ℤ} {c : Command} :
    replacedBy tenantId zoneId id now c = true ↔
      inForce tenantId now c = true ∧ c.zoneId = zoneId ∧ c.id ≠ id := by
  simp [replacedBy, and_assoc]

theorem cancellable_iff {tenantId id : Uuid} {c : Command} :
    cancellable tenantId id c = true ↔ c.tenantId = tenantId ∧ c.id = id ∧ Live c.state := by
  simp [cancellable, and_assoc, Command.isLive_iff, Live]

theorem claimable_iff {tenantId : Uuid} {now : ℤ} {locked : List Uuid} {c : Command} :
    claimable tenantId now locked c = true ↔
      c.tenantId = tenantId ∧ c.state = .pending ∧ now < c.expiresAt ∧ c.id ∉ locked := by
  simp [claimable, and_assoc]

theorem mem_claimIds {tenantId : Uuid} {limit : ℕ} {now : ℤ} {locked : List Uuid}
    {t : List Command} {x : Uuid} (h : x ∈ claimIds tenantId limit now locked t) :
    ∃ c ∈ t, c.id = x ∧ claimable tenantId now locked c = true := by
  obtain ⟨c, hc, rfl⟩ := List.mem_map.mp h
  have hmem := (List.mem_insertionSort _).mp (List.mem_of_mem_take hc)
  exact ⟨c, (List.mem_filter.mp hmem).1, rfl, (List.mem_filter.mp hmem).2⟩

/-- With unique ids, the rows a claim updates are the ones it selected. -/
theorem claimable_of_isOneOf {tenantId : Uuid} {limit : ℕ} {now : ℤ} {locked : List Uuid}
    {t : List Command} (hn : (t.map (·.id)).Nodup) {c : Command} (hc : c ∈ t)
    (h : isOneOf tenantId (claimIds tenantId limit now locked t) c = true) :
    claimable tenantId now locked c = true := by
  simp only [isOneOf, Bool.and_eq_true, beq_iff_eq, List.contains_iff_mem] at h
  obtain ⟨r, hr, hid, hcl⟩ := mem_claimIds h.2
  rwa [← eq_of_id_eq hn hr hc hid]

theorem moves_expired {tenantId : Uuid} {now : ℤ} {c : Command}
    (h : staleAt tenantId now c = true) : Moves c (expiredRow now c) := by
  refine .arrow rfl ?_
  rw [(staleAt_iff.mp h).2.1]
  exact .expire

theorem moves_claimed {gateway : String} {now : ℤ} {c : Command} (h : c.state = .pending) :
    Moves c (claimedRow gateway now c) := by
  refine .arrow rfl ?_
  rw [h]
  exact .claim

theorem moves_released {tenantId id : Uuid} {detail : String} {c : Command}
    (h : isRow tenantId id .dispatched c = true) : Moves c (releasedRow detail c) := by
  refine .arrow rfl ?_
  rw [(isRow_iff.mp h).2.2]
  exact .release

theorem moves_settled {tenantId id : Uuid} {outcome : Outcome} {detail : Option String} {now : ℤ}
    {c : Command} (h : isRow tenantId id .dispatched c = true) :
    Moves c (settledRow outcome detail now c) := by
  refine .arrow rfl ?_
  rw [(isRow_iff.mp h).2.2]
  cases outcome with
  | applied => exact .apply
  | failed => exact .fail

theorem moves_superseded {tenantId zoneId id : Uuid} {now : ℤ} {c : Command}
    (h : replacedBy tenantId zoneId id now c = true) : Moves c (supersededRow now c) := by
  refine .arrow rfl ?_
  rw [(inForce_iff.mp (replacedBy_iff.mp h).1).2.1]
  exact .supersede

theorem moves_cancelled {tenantId id : Uuid} {now : ℤ} {c : Command}
    (h : cancellable tenantId id c = true) : Moves c (cancelledRow now c) := by
  refine .arrow rfl ?_
  rcases (cancellable_iff.mp h).2.2 with hs | hs <;> rw [hs]
  · exact .withdraw
  · exact .recall

/-! ### What a statement does to the table -/

/-- A settlement is at most two row updates: what both keep, it keeps. -/
theorem settleCommand_keeps {P : List Command → Prop} {tenantId id : Uuid} {outcome : Outcome}
    {detail : Option String} {now : ℤ} {t : List Command} (h : P t)
    (hsettle : ∀ t, P t →
      P (updateWhere (isRow tenantId id .dispatched) (settledRow outcome detail now) t))
    (hsupersede : ∀ zoneId t, P t →
      P (updateWhere (replacedBy tenantId zoneId id now) (supersededRow now) t)) :
    P (settleCommand tenantId id outcome detail now t).1 := by
  unfold settleCommand
  cases t.find? (isRow tenantId id .dispatched) with
  | none => exact h
  | some row =>
    cases outcome with
    | failed => exact hsettle t h
    | applied => exact hsupersede row.zoneId _ (hsettle t h)

theorem claimCommands_grows {tenantId : Uuid} {gateway : String} {limit : ℕ} {now : ℤ}
    {locked : List Uuid} {t : List Command} (hn : (t.map (·.id)).Nodup) :
    Grows Moves t (claimCommands tenantId gateway limit now locked t).1 :=
  .updateWhere_of_mem Moves.refl fun _ hc h =>
    moves_claimed (claimable_iff.mp (claimable_of_isOneOf hn hc h)).2.1

theorem settleCommand_grows (tenantId id : Uuid) (outcome : Outcome) (detail : Option String)
    (now : ℤ) (t : List Command) :
    Grows Moves t (settleCommand tenantId id outcome detail now t).1 := by
  refine settleCommand_keeps (P := Grows Moves t) (.refl Moves.refl t) ?_ ?_
  · exact fun u hu => Grows.trans (R := Moves) Moves.trans hu
      (.updateWhere Moves.refl (fun _ h => moves_settled h) u)
  · exact fun zoneId u hu => Grows.trans (R := Moves) Moves.trans hu
      (.updateWhere Moves.refl (fun _ h => moves_superseded h) u)

/-- **A statement only moves rows along the lifecycle and adds new ones.** -/
theorem Statement.grows {w : World} {clock : ℤ} {t : List Command} (hn : (t.map (·.id)).Nodup) :
    ∀ st : Statement, st.Allowed w clock t → Grows Moves t (st.run t)
  | .insert _ _ _ c, _ => .append Moves.refl t [c]
  | .expire _ _, _ => .updateWhere Moves.refl (fun _ h => moves_expired h) t
  | .claim _ _ _ _ _, _ => claimCommands_grows hn
  | .release _ _ _, _ => .updateWhere Moves.refl (fun _ h => moves_released h) t
  | .settle tenantId id outcome detail now, _ =>
    settleCommand_grows tenantId id outcome detail now t
  | .cancel _ _ _, _ => .updateWhere Moves.refl (fun _ h => moves_cancelled h) t

/-- The table's unique constraints. -/
structure Lawful (t : List Command) : Prop where
  ids : (t.map (·.id)).Nodup
  live : UniqueOn (fun c => Live c.state) Command.zoneKey (·.id) t

theorem Lawful.nil : Lawful [] := ⟨List.nodup_nil, by simp [UniqueOn]⟩

theorem Lawful.insert {t : List Command} (h : Lawful t) {c : Command} (hc : Fresh t c) :
    Lawful (t ++ [c]) := by
  refine ⟨?_, h.live.append hc.zone_ne⟩
  rw [List.map_append, List.nodup_append]
  refine ⟨h.ids, by simp, ?_⟩
  intro x hx y hy
  obtain ⟨r, hr, rfl⟩ := List.mem_map.mp hx
  rw [List.map_singleton, List.mem_singleton] at hy
  rw [hy]
  exact hc.id_ne r hr

/-- An update that keeps what was asked for and revives nothing keeps the constraints. -/
theorem Lawful.update {t : List Command} (h : Lawful t) {p : Command → Bool} {f : Command → Command}
    (hi : ∀ c, (f c).intent = c.intent) (hl : ∀ c ∈ t, p c = true → Live (f c).state → Live c.state) :
    Lawful (updateWhere p f t) := by
  refine ⟨?_, h.live.updateWhere_of_mem ?_ ?_ hl⟩
  · rw [map_updateWhere (i := Command.id) fun c => congrArg Intent.id (hi c)]
    exact h.ids
  · exact fun c => Prod.ext (congrArg Intent.tenantId (hi c)) (congrArg Intent.zoneId (hi c))
  · exact fun c => congrArg Intent.id (hi c)

theorem Lawful.settle {t : List Command} (h : Lawful t) (tenantId id : Uuid) (outcome : Outcome)
    (detail : Option String) (now : ℤ) :
    Lawful (settleCommand tenantId id outcome detail now t).1 := by
  refine settleCommand_keeps h ?_ ?_
  · exact fun u hu => hu.update (fun _ => rfl) fun c _ hp _ => Or.inr (isRow_iff.mp hp).2.2
  · exact fun zoneId u hu => hu.update (fun _ => rfl) fun c _ _ hl => by
      simp [supersededRow, Live] at hl

/-- **A statement keeps the unique constraints**: one live command per zone. -/
theorem Statement.lawful {w : World} {clock : ℤ} {t : List Command} (h : Lawful t) :
    ∀ st : Statement, st.Allowed w clock t → Lawful (st.run t)
  | .insert _ _ _ _, hst => h.insert (insertCommand_fresh hst).1
  | .expire _ _, _ => h.update (fun _ => rfl) fun c _ _ hl => by simp [expiredRow, Live] at hl
  | .claim _ _ _ _ _, _ => h.update (fun _ => rfl) fun c hc hp _ =>
      Or.inl (claimable_iff.mp (claimable_of_isOneOf h.ids hc hp)).2.1
  | .release _ _ _, _ => h.update (fun _ => rfl) fun c _ hp _ => Or.inr (isRow_iff.mp hp).2.2
  | .settle tenantId id outcome detail now, _ => h.settle tenantId id outcome detail now
  | .cancel _ _ _, _ => h.update (fun _ => rfl) fun c _ _ hl => by simp [cancelledRow, Live] at hl

/-! ### One override in force -/

/-- An override in force at `clock`. -/
def Overriding (clock : ℤ) (c : Command) : Prop := c.state = .applied ∧ clock < c.effectiveUntil

/-- Every zone has at most one override in force at `clock`. -/
def OneOverride (clock : ℤ) (t : List Command) : Prop :=
  UniqueOn (Overriding clock) Command.zoneKey (·.id) t

theorem OneOverride.later {clock clock' : ℤ} {t : List Command} (h : OneOverride clock t)
    (hle : clock ≤ clock') : OneOverride clock' t :=
  fun r hr s hs hqr hqs => h r hr s hs ⟨hqr.1, by have := hqr.2; omega⟩
    ⟨hqs.1, by have := hqs.2; omega⟩

/-- An update that keeps what was asked for and applies nothing. -/
theorem OneOverride.update {clock : ℤ} {t : List Command} (h : OneOverride clock t)
    {p : Command → Bool} {f : Command → Command} (hi : ∀ c, (f c).intent = c.intent)
    (hf : ∀ c, (f c).state ≠ .applied) : OneOverride clock (updateWhere p f t) := by
  refine h.updateWhere_of_mem ?_ ?_ ?_
  · exact fun c => Prod.ext (congrArg Intent.tenantId (hi c)) (congrArg Intent.zoneId (hi c))
  · exact fun c => congrArg Intent.id (hi c)
  · exact fun c _ _ hq => absurd hq.1 (hf c)

/-- The settled row takes the place of every override in force on its zone. -/
theorem OneOverride.settle {clock : ℤ} {t : List Command} (h : OneOverride clock t)
    (hn : (t.map (·.id)).Nodup) {tenantId id : Uuid} {outcome : Outcome} {detail : Option String}
    {now : ℤ} (hnow : now ≤ clock) :
    OneOverride clock (settleCommand tenantId id outcome detail now t).1 := by
  unfold settleCommand
  cases hrow : t.find? (isRow tenantId id .dispatched) with
  | none => exact h
  | some row =>
    have hr := List.mem_of_find?_eq_some hrow
    obtain ⟨hten, hid, -⟩ := isRow_iff.mp (List.find?_some hrow)
    cases outcome with
    | failed => exact h.update (fun _ => rfl) fun _ => by simp [settledRow, Outcome.state]
    | applied =>
      -- a row in force after the two updates is the settled one, or was in force on another zone
      have old : ∀ c' ∈ updateWhere (replacedBy tenantId row.zoneId id now) (supersededRow now)
            (updateWhere (isRow tenantId id .dispatched) (settledRow .applied detail now) t),
          Overriding clock c' → (c'.id = id ∧ c'.zoneKey = row.zoneKey) ∨
            (c' ∈ t ∧ c'.zoneKey ≠ row.zoneKey) := by
        intro c' hc' hq
        rcases mem_updateWhere_cases hc' with ⟨c, -, -, rfl⟩ | ⟨hc, hnot⟩
        · exact absurd hq.1 (by simp [supersededRow])
        · rcases mem_updateWhere_cases hc with ⟨c, hct, hp, rfl⟩ | ⟨hct, -⟩
          · obtain ⟨-, hcid, -⟩ := isRow_iff.mp hp
            obtain rfl : c = row := eq_of_id_eq hn hct hr (hcid.trans hid.symm)
            exact Or.inl ⟨hcid, rfl⟩
          · by_cases hk : c'.zoneKey = row.zoneKey
            · refine Or.inl ⟨?_, hk⟩
              by_contra hne
              have hk' := Prod.ext_iff.mp hk
              have : replacedBy tenantId row.zoneId id now c' = true :=
                replacedBy_iff.mpr ⟨inForce_iff.mpr ⟨hk'.1.trans hten, hq.1, by have := hq.2; omega⟩,
                  hk'.2, hne⟩
              rw [this] at hnot
              cases hnot
            · exact Or.inr ⟨hct, hk⟩
      intro r hr s hs hqr hqs hk
      rcases old r hr hqr with ⟨hri, hrk⟩ | ⟨hrt, hrk⟩ <;>
        rcases old s hs hqs with ⟨hsi, hsk⟩ | ⟨hst, hsk⟩
      · exact hri.trans hsi.symm
      · exact absurd (hk.symm.trans hrk) hsk
      · exact absurd (hk.trans hsk) hrk
      · exact h r hrt s hst hqr hqs hk

/-- **A statement keeps one override in force per zone.** -/
theorem Statement.oneOverride {w : World} {clock : ℤ} {t : List Command}
    (hn : (t.map (·.id)).Nodup) (h : OneOverride clock t) :
    ∀ st : Statement, st.Allowed w clock t → OneOverride clock (st.run t)
  | .insert _ _ _ c, hst => by
    refine UniqueOn.append_of_not (fun hq => ?_) h
    rw [Overriding, (insertCommand_fresh hst).1.state] at hq
    cases hq.1
  | .expire _ _, _ => h.update (fun _ => rfl) fun _ => by simp [expiredRow]
  | .claim _ _ _ _ _, _ => h.update (fun _ => rfl) fun _ => by simp [claimedRow]
  | .release _ _ _, _ => h.update (fun _ => rfl) fun _ => by simp [releasedRow]
  | .settle _ _ _ _ _, hnow => h.settle hn hnow
  | .cancel _ _ _, _ => h.update (fun _ => rfl) fun _ => by simp [cancelledRow]

/-! ### The rows a statement retires -/

/-- A command with this id has been settled. -/
def Done (t : List Command) (x : Uuid) : Prop := ∃ c ∈ t, c.id = x ∧ ¬ Live c.state

theorem Done.grows {t t' : List Command} {x : Uuid} (h : Done t x) (hg : Grows Moves t t') :
    Done t' x := by
  obtain ⟨c, hc, rfl, hl⟩ := h
  obtain ⟨c', hc', hm⟩ := hg.exists_of_mem hc
  exact ⟨c', hc', hm.id_eq, hm.not_live hl⟩

theorem Statement.live_of_retires {st : Statement} {c : Command} (h : st.retires c = true) :
    Live c.state := by
  cases st with
  | expire tenantId now => exact Or.inl (staleAt_iff.mp h).2.1
  | settle tenantId id outcome detail now => exact Or.inr (isRow_iff.mp h).2.2
  | cancel tenantId id now => exact (cancellable_iff.mp h).2.2
  | insert input id now c => cases h
  | claim tenantId gateway limit now locked => cases h
  | release tenantId id detail => cases h

theorem settleCommand_retires {t : List Command} {tenantId id : Uuid} {outcome : Outcome}
    {detail : Option String} {now : ℤ} {c : Command} (hc : c ∈ t)
    (h : isRow tenantId id .dispatched c = true) :
    Done (settleCommand tenantId id outcome detail now t).1 c.id := by
  unfold settleCommand
  cases hrow : t.find? (isRow tenantId id .dispatched) with
  | none => exact absurd h (List.find?_eq_none.mp hrow c hc)
  | some row =>
    have h₁ : Done (updateWhere (isRow tenantId id .dispatched)
        (settledRow outcome detail now) t) c.id := by
      refine ⟨_, mem_updateWhere_of_pos hc h, rfl, ?_⟩
      cases outcome <;> simp [settledRow, Outcome.state, Live]
    cases outcome with
    | failed => exact h₁
    | applied => exact h₁.grows (.updateWhere Moves.refl (fun _ hp => moves_superseded hp) _)

theorem Statement.done_of_retires {st : Statement} {t : List Command} {c : Command} (hc : c ∈ t)
    (h : st.retires c = true) : Done (st.run t) c.id := by
  cases st with
  | expire tenantId now =>
    exact ⟨_, mem_updateWhere_of_pos hc h, rfl, by simp [expiredRow, Live]⟩
  | settle tenantId id outcome detail now => exact settleCommand_retires hc h
  | cancel tenantId id now =>
    exact ⟨_, mem_updateWhere_of_pos hc h, rfl, by simp [cancelledRow, Live]⟩
  | insert input id now c => cases h
  | claim tenantId gateway limit now locked => cases h
  | release tenantId id detail => cases h

/-! ### Rows out of reach of a claim -/

/-- A command with this id exists and is not waiting to be collected. -/
def Taken (t : List Command) (x : Uuid) : Prop := ∃ c ∈ t, c.id = x ∧ c.state ≠ .pending

theorem Taken.update {t : List Command} {x : Uuid} (h : Taken t x) {p : Command → Bool}
    {f : Command → Command} (hi : ∀ c, (f c).id = c.id)
    (hf : ∀ c, c.id = x → (f c).state ≠ .pending) : Taken (updateWhere p f t) x := by
  obtain ⟨c, hc, rfl, hs⟩ := h
  cases hp : p c with
  | true => exact ⟨f c, mem_updateWhere_of_pos hc hp, hi c, hf c rfl⟩
  | false => exact ⟨c, mem_updateWhere_of_neg hc hp, rfl, hs⟩

theorem Taken.settle {t : List Command} {x : Uuid} (h : Taken t x) (tenantId id : Uuid)
    (outcome : Outcome) (detail : Option String) (now : ℤ) :
    Taken (settleCommand tenantId id outcome detail now t).1 x := by
  refine settleCommand_keeps (P := (Taken · x)) h ?_ ?_
  · exact fun u hu => hu.update (fun _ => rfl) fun _ _ => by
      cases outcome <;> simp [settledRow, Outcome.state]
  · exact fun zoneId u hu => hu.update (fun _ => rfl) fun _ _ => by simp [supersededRow]

theorem Taken.release {t : List Command} {x tenantId id : Uuid} {detail : String} (h : Taken t x)
    (hne : x ≠ id) : Taken (releaseCommand tenantId id detail t) x := by
  obtain ⟨c, hc, rfl, hs⟩ := h
  refine ⟨c, mem_updateWhere_of_neg hc ?_, rfl, hs⟩
  simp [isRow, hne]

/-- What a claim hands over was pending before, is not after, and each command comes once. -/
theorem claimCommands_spec {t : List Command} (hn : (t.map (·.id)).Nodup) (tenantId : Uuid)
    (gateway : String) (limit : ℕ) (now : ℤ) (locked : List Uuid) :
    ((claimCommands tenantId gateway limit now locked t).2.map (·.id)).Nodup ∧
      ∀ c' ∈ (claimCommands tenantId gateway limit now locked t).2,
        c' ∈ (claimCommands tenantId gateway limit now locked t).1 ∧ c'.state = .dispatched ∧
          ∃ c ∈ t, claimable tenantId now locked c = true ∧ c' = claimedRow gateway now c := by
  have hids : (claimCommands tenantId gateway limit now locked t).1.map (·.id) = t.map (·.id) :=
    map_updateWhere (i := Command.id) (f := claimedRow gateway now) (fun _ => rfl) t
  refine ⟨?_, ?_⟩
  · refine List.Nodup.sublist (List.filter_sublist.map _) ?_
    rw [← hids] at hn
    exact hn
  · intro c' hc'
    obtain ⟨hmem, hone⟩ := List.mem_filter.mp hc'
    refine ⟨hmem, ?_⟩
    rcases mem_updateWhere_cases hmem with ⟨c, hc, hp, rfl⟩ | ⟨-, hp⟩
    · exact ⟨rfl, c, hc, claimable_of_isOneOf hn hc hp, rfl⟩
    · rw [hp] at hone
      cases hone

end DTwin.Control
