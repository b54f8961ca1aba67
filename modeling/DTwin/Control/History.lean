import DTwin.Db.Plant
import DTwin.Device.Loop

/-!
# DTwin.Control.History — the log of the commands

`copilotControlHistory` of `packages/db/src/queries/copilot.ts` over the table of the control service.  A command is in
view as long as it could have been in force in the window, and is active now while its override is.

* `active_now_exact`: what is active now is what a poll of the simulated building reads (`activeOverrides`);
* `history_explains`: a setpoint that the building shows and that it is not designed for is in the log.
-/

namespace DTwin.Control.History

open Machine Table Latest
open Db.Plant (Capped capped UNTRUSTED_TEXT_CHARS)

/-! ## The statement -/

/-- A zone, of whichever tenant. -/
structure Zone (τ : Type) extends Db.Tables.Zone Uuid τ where
  tenantId : Uuid
deriving DecidableEq

/-- A floor, of whichever tenant. -/
structure Floor (τ : Type) extends Db.Tables.Floor Uuid τ where
  tenantId : Uuid
deriving DecidableEq

structure Site (τ : Type) where
  zones : List (Zone τ)
  floors : List (Floor τ)

structure Query where
  zoneId : Option Uuid
  fromMs : ℤ
  toMs : ℤ
  limit : ℕ
  buildingId : Uuid

structure CommandHistoryRow (τ : Type) where
  zone : τ
  floor : τ
  setpointC : ℚ
  previousC : Option ℚ
  state : ControlCommandState
  requestedAt : ℤ
  appliedAt : Option ℤ
  settledAt : Option ℤ
  effectiveUntil : ℤ
  activeNow : Bool
  fromCopilot : Bool
  reasonUntrusted : List Char
  reasonTruncated : Bool
  outcomeUntrusted : Option (List Char)
  outcomeTruncated : Bool

/-- A row of the join. -/
structure Joined (τ : Type) where
  command : Command
  zone : Zone τ
  floor : Floor τ

variable {τ : Type}

/-- The zone with its floor, in a building. -/
def Site.places (site : Site τ) (tenantId buildingId zoneId : Uuid) : List (Zone τ × Floor τ) :=
  (site.zones.filter fun z => z.tenantId = tenantId && z.id = zoneId).flatMap fun z =>
    (site.floors.filter fun f => f.tenantId = tenantId && f.id = z.floorId && f.buildingId = buildingId).map (z, ·)

/-- The life of the command overlaps the window. -/
def Query.covers (q : Query) (tenantId : Uuid) (c : Command) : Bool :=
  c.tenantId = tenantId && c.requestedAt < q.toMs && q.fromMs ≤ c.effectiveUntil && q.zoneId.all (c.zoneId = ·)

def Site.selected (site : Site τ) (tenantId : Uuid) (q : Query) (t : List Command) : List (Joined τ) :=
  (t.filter (q.covers tenantId)).flatMap fun c =>
    (site.places tenantId q.buildingId c.zoneId).map fun p => ⟨c, p.1, p.2⟩

/-- Newest request first. -/
def Joined.place (j : Joined τ) : ℤ ×ₗ Uuid := toLex (-j.command.requestedAt, j.command.id)

def Joined.row (now : ℤ) (j : Joined τ) : CommandHistoryRow τ where
  zone := j.zone.name
  floor := j.floor.name
  setpointC := j.command.setpointTempC
  previousC := j.command.previousTempC
  state := j.command.state
  requestedAt := j.command.requestedAt
  appliedAt := j.command.appliedAt
  settledAt := j.command.settledAt
  effectiveUntil := j.command.effectiveUntil
  activeNow := j.command.state = .applied && now < j.command.effectiveUntil
  fromCopilot := "copilot (operator-approved):".toList.isPrefixOf j.command.reason.toList
  reasonUntrusted := j.command.reason.toList.take UNTRUSTED_TEXT_CHARS
  reasonTruncated := UNTRUSTED_TEXT_CHARS < j.command.reason.toList.length
  outcomeUntrusted := j.command.outcomeDetail.map fun d => d.toList.take UNTRUSTED_TEXT_CHARS
  outcomeTruncated := j.command.outcomeDetail.any fun d => UNTRUSTED_TEXT_CHARS < d.toList.length

def Site.sorted (site : Site τ) (tenantId : Uuid) (q : Query) (t : List Command) : List (Joined τ) :=
  (site.selected tenantId q t).insertionSort fun j j' => j.place ≤ j'.place

def copilotControlHistory (site : Site τ) (tenantId : Uuid) (now : ℤ) (q : Query) (t : List Command) :
    Capped (CommandHistoryRow τ) :=
  let rows := (site.sorted tenantId q t).take q.limit
  capped (rows.map (Joined.row now)) (if rows.isEmpty then 0 else (site.selected tenantId q t).length) q.limit

/-! ## What was asked for, and when -/

theorem requestedAt_of_insert {w : World} {input : NewCommand} {id : Uuid} {now : ℤ} {t : List Command} {c : Command}
    (h : insertCommand w input id now t = .ok (some c)) : c.requestedAt = now := by
  unfold insertCommand at h
  split_ifs at h
  · cases Except.ok.inj h
  · rw [← Option.some.inj (Except.ok.inj h)]
    rfl

theorem settleCommand_intents (tenantId id : Uuid) (outcome : Outcome) (detail : Option String) (now : ℤ)
    (t : List Command) :
    (settleCommand tenantId id outcome detail now t).1.map Command.intent = t.map Command.intent := by
  unfold settleCommand
  split
  · rfl
  · have hsettled := map_updateWhere (p := isRow tenantId id .dispatched) (i := Command.intent)
      (fun c => (rfl : (settledRow outcome detail now c).intent = c.intent)) t
    cases outcome with
    | applied =>
      dsimp only
      rw [map_updateWhere (i := Command.intent) fun c => (rfl : (supersededRow now c).intent = c.intent)]
      exact hsettled
    | failed => exact hsettled

/-- A step keeps what was asked for, and asks for one thing more at most. -/
theorem requestedAt_step {s s' : Sys} {a : Act} {o : List Obs} (ht : Took s a s' o)
    (h : ∀ c ∈ s.commands, c.requestedAt ≤ s.clock) : ∀ c ∈ s'.commands, c.requestedAt ≤ s'.clock := by
  have hkeeps : ∀ {t : List Command}, t.map Command.intent = s.commands.map Command.intent →
      ∀ c ∈ t, c.requestedAt ≤ s.clock := by
    intro t heq c hc
    obtain ⟨d, hd, hintent⟩ := List.mem_map.mp (heq ▸ List.mem_map_of_mem (f := Command.intent) hc)
    have hrequested := congrArg Intent.requestedAt hintent
    exact (show d.requestedAt = c.requestedAt from hrequested) ▸ h d hd
  cases ht with
  | ticked hle => exact fun c hc => (h c hc).trans hle
  | inserted hnow hins =>
    intro c hc
    rcases List.mem_append.mp hc with hc | hc
    · exact h c hc
    · rw [List.mem_singleton.mp hc, requestedAt_of_insert hins]
      exact hnow
  | started => exact hkeeps (map_updateWhere (fun c => (rfl : (expiredRow _ c).intent = c.intent)) _)
  | claimed => exact hkeeps (map_updateWhere (fun c => (rfl : (claimedRow _ _ c).intent = c.intent)) _)
  | released => exact hkeeps (map_updateWhere (fun c => (rfl : (releasedRow _ c).intent = c.intent)) _)
  | reported => exact hkeeps (settleCommand_intents _ _ _ _ _ _)
  | cancelled => exact hkeeps (map_updateWhere (fun c => (rfl : (cancelledRow _ c).intent = c.intent)) _)
  | _ => exact h

theorem requestedAt_le_clock {clock : ℤ} {w : World} {s : Sys} {h : List Obs}
    (hrun : control.Reaches (.init clock w) s h) : ∀ c ∈ s.commands, c.requestedAt ≤ s.clock :=
  hrun.inv (I := fun s => ∀ c ∈ s.commands, c.requestedAt ≤ s.clock)
    (fun hI hs => requestedAt_step (step_took hs) hI) fun _ hc => absurd hc List.not_mem_nil

/-! ## What is active now -/

def toOverride (c : Command) : ActiveOverride := ⟨c.zoneId, c.setpointTempC, c.effectiveUntil⟩

/-- One override at most on a zone: `DISTINCT ON` leaves none out. -/
theorem activeOverrides_perm (tenantId : Uuid) {now : ℤ} {t : List Command} (hids : (t.map (·.id)).Nodup)
    (hone : OneOverride now t) :
    ((t.filter (inForce tenantId now)).map toOverride).Perm (activeOverrides tenantId now t) := by
  have hsame : ∀ c ∈ t, ∀ c' ∈ t, inForce tenantId now c = true → inForce tenantId now c' = true →
      c.zoneId = c'.zoneId → c = c' := by
    intro c hc c' hc' hforce hforce' hzone
    obtain ⟨htenant, happlied, hlasts⟩ := inForce_iff.mp hforce
    obtain ⟨htenant', happlied', hlasts'⟩ := inForce_iff.mp hforce'
    exact eq_of_id_eq hids hc hc' (hone c hc c' hc' ⟨happlied, hlasts⟩ ⟨happlied', hlasts'⟩
      (Prod.ext (htenant.trans htenant'.symm) hzone))
  have hnewest : ∀ c ∈ t, inForce tenantId now c = true →
      newest (·.effectiveUntil) (overrideCandidates tenantId c.zoneId now t) = some c := by
    intro c hc hforce
    have hcand : c ∈ overrideCandidates tenantId c.zoneId now t :=
      List.mem_filter.mpr ⟨hc, by rw [hforce, beq_self_eq_true]; rfl⟩
    cases hm : newest (·.effectiveUntil) (overrideCandidates tenantId c.zoneId now t) with
    | none => exact absurd (newest_eq_none.mp hm ▸ hcand) List.not_mem_nil
    | some m =>
      obtain ⟨hmt, hmc⟩ := List.mem_filter.mp (isNewest_newest hm).mem
      obtain ⟨hmforce, hmzone⟩ := Bool.and_eq_true_iff.mp hmc
      rw [hsame m hmt c hc hmforce hforce (beq_iff_eq.mp hmzone)]
  refine (List.perm_ext_iff_of_nodup ?_ ?_).mpr fun o => ?_
  · refine ((hids.of_map).filter _).map_on fun c hc c' hc' heq => ?_
    obtain ⟨hct, hforce⟩ := List.mem_filter.mp hc
    obtain ⟨hct', hforce'⟩ := List.mem_filter.mp hc'
    exact hsame c hct c' hct' hforce hforce' (congrArg ActiveOverride.zoneId heq)
  · refine List.Nodup.filterMap (fun z z' o ho ho' => ?_)
      ((List.perm_insertionSort _ _).nodup_iff.mpr (List.nodup_dedup _))
    obtain ⟨c, hc, rfl⟩ := Option.map_eq_some_iff.mp ho
    obtain ⟨c', hc', heq⟩ := Option.map_eq_some_iff.mp ho'
    have hz := (Bool.and_eq_true_iff.mp (List.mem_filter.mp (isNewest_newest hc).mem).2).2
    have hz' := (Bool.and_eq_true_iff.mp (List.mem_filter.mp (isNewest_newest hc').mem).2).2
    rw [← beq_iff_eq.mp hz, ← beq_iff_eq.mp hz']
    exact (congrArg ActiveOverride.zoneId heq).symm
  · rw [activeOverrides, List.mem_filterMap, List.mem_map]
    constructor
    · rintro ⟨c, hc, rfl⟩
      obtain ⟨hct, hforce⟩ := List.mem_filter.mp hc
      refine ⟨c.zoneId, ?_, by rw [hnewest c hct hforce]; rfl⟩
      rw [(List.perm_insertionSort _ _).mem_iff, List.mem_dedup]
      exact List.mem_map_of_mem hc
    · rintro ⟨z, -, ho⟩
      obtain ⟨c, hc, rfl⟩ := Option.map_eq_some_iff.mp ho
      obtain ⟨hct, hcand⟩ := List.mem_filter.mp (isNewest_newest hc).mem
      exact ⟨c, List.mem_filter.mpr ⟨hct, (Bool.and_eq_true_iff.mp hcand).1⟩, rfl⟩

/-- A filter that looks at where the rows come from. -/
theorem filter_flatMap_of {α β : Type} {f : α → List β} {p : β → Bool} {g : α → Bool}
    (h : ∀ a, ∀ b ∈ f a, p b = g a) : ∀ l : List α, (l.flatMap f).filter p = (l.filter g).flatMap f
  | [] => rfl
  | a :: l => by
    rw [List.flatMap_cons, List.filter_append, filter_flatMap_of h l, List.filter_cons]
    cases hp : g a with
    | true =>
      rw [List.filter_eq_self.mpr fun b hb => (h a b hb).trans hp]
      rfl
    | false =>
      rw [List.filter_eq_nil_iff.mpr fun b hb => by rw [h a b hb, hp]; exact Bool.false_ne_true]
      rfl

/-- What is not truncated is all of it. -/
theorem items_of_not_truncated {site : Site τ} {tenantId : Uuid} {now : ℤ} {q : Query} {t : List Command}
    (hlimit : 0 < q.limit) (hall : (copilotControlHistory site tenantId now q t).truncated = false) :
    (copilotControlHistory site tenantId now q t).items = (site.sorted tenantId q t).map (Joined.row now) := by
  have hlength : (site.sorted tenantId q t).length = (site.selected tenantId q t).length :=
    List.length_insertionSort _ _
  have hle : (site.sorted tenantId q t).length ≤ q.limit := by
    by_contra hlt
    have hne : ((site.sorted tenantId q t).take q.limit).isEmpty = false := by
      rw [List.isEmpty_eq_false_iff, ← List.length_pos_iff, List.length_take]
      omega
    have htrunc : (copilotControlHistory site tenantId now q t).truncated =
        decide (((site.sorted tenantId q t).take q.limit).length < (site.selected tenantId q t).length) := by
      show decide (_ < _) = _
      rw [hne, List.length_map]
      rfl
    rw [htrunc, decide_eq_false_iff_not, List.length_take] at hall
    omega
  show ((site.sorted tenantId q t).take q.limit).map (Joined.row now) = _
  rw [List.take_of_length_le hle]

/-- The names of a zone of a building. -/
def Site.names (site : Site τ) (tenantId buildingId zoneId : Uuid) : List τ :=
  (site.places tenantId buildingId zoneId).map fun p => p.1.name

/-- **Active now.**  Unless it is cut short, the log of a window that reaches to now says of exactly the overrides that
a poll would read that they are active. -/
theorem active_now_exact {clock : ℤ} {w : World} {s : Sys} {h : List Obs} (hrun : control.Reaches (.init clock w) s h)
    (site : Site τ) (tenantId : Uuid) {now : ℤ} (hnow : s.clock ≤ now) {q : Query} (hzone : q.zoneId = none)
    (hfrom : q.fromMs ≤ now) (hto : s.clock < q.toMs) (hlimit : 0 < q.limit)
    (hall : (copilotControlHistory site tenantId now q s.commands).truncated = false) :
    (((copilotControlHistory site tenantId now q s.commands).items.filter CommandHistoryRow.activeNow).map fun r =>
        (r.zone, r.setpointC, r.effectiveUntil)).Perm
      ((activeOverrides tenantId now s.commands).flatMap fun o =>
        (site.names tenantId q.buildingId o.zoneId).map fun name => (name, o.setpointTempC, o.effectiveUntil)) := by
  have hO := orderly_of_reaches hrun
  have hactive : ∀ c ∈ s.commands, (q.covers tenantId c &&
      (decide (c.state = .applied) && decide (now < c.effectiveUntil))) = inForce tenantId now c := by
    intro c hc
    have hrequested := requestedAt_le_clock hrun c hc
    rw [Bool.eq_iff_iff, inForce_iff]
    simp only [Query.covers, hzone, Option.all_none, Bool.and_true, Bool.and_eq_true, decide_eq_true_eq]
    constructor
    · rintro ⟨⟨⟨htenant, -⟩, -⟩, happlied, hlasts⟩
      exact ⟨htenant, happlied, hlasts⟩
    · rintro ⟨htenant, happlied, hlasts⟩
      exact ⟨⟨⟨htenant, by omega⟩, by omega⟩, happlied, hlasts⟩
  have hselected : ((site.selected tenantId q s.commands).filter fun j => (j.row now).activeNow) =
      (s.commands.filter (inForce tenantId now)).flatMap fun c =>
        (site.places tenantId q.buildingId c.zoneId).map fun p => ⟨c, p.1, p.2⟩ := by
    rw [Site.selected, filter_flatMap_of (g := fun c => decide (c.state = .applied) && decide (now < c.effectiveUntil)),
      List.filter_filter]
    · congr 1
      exact List.filter_congr fun c hc => by rw [Bool.and_comm, hactive c hc]
    · intro c j hj
      obtain ⟨p, -, rfl⟩ := List.mem_map.mp hj
      rfl
  rw [items_of_not_truncated hlimit hall, List.filter_map, List.map_map]
  have hperm := ((List.perm_insertionSort (fun j j' : Joined τ => j.place ≤ j'.place)
    (site.selected tenantId q s.commands)).filter fun j => (j.row now).activeNow).map fun j =>
      (j.zone.name, j.command.setpointTempC, j.command.effectiveUntil)
  refine hperm.trans ?_
  rw [hselected, List.map_flatMap]
  have hoverrides := (activeOverrides_perm tenantId hO.lawful.ids (hO.override.later hnow)).flatMap_right
    fun o => (site.names tenantId q.buildingId o.zoneId).map fun name => (name, o.setpointTempC, o.effectiveUntil)
  rw [List.flatMap_map] at hoverrides
  refine (List.Perm.of_eq (List.flatMap_congr fun c _ => ?_)).trans hoverrides
  rw [Site.names, List.map_map, List.map_map]
  rfl

namespace Example

def site : Site ℕ := ⟨[⟨⟨1, 20, 301, none, none⟩, 1⟩], [⟨⟨20, 10, 0, 200⟩, 1⟩]⟩

def lastWeek : Query := ⟨none, -604800000, 1704088800001, 50, 10⟩

end Example

theorem active_now_exact_siteRun : ∃ s h, control.Reaches (.init 0 Control.site) s h ∧
    (((copilotControlHistory Example.site 1 s.clock Example.lastWeek s.commands).items.filter
      CommandHistoryRow.activeNow).map fun r => (r.zone, r.setpointC, r.effectiveUntil)).Perm [(301, 23, 3600000)] := by
  have hgo : ∃ r ∈ control.exec (.init 0 Control.site) siteRun, r.1.clock = 0 ∧
      (copilotControlHistory Example.site 1 r.1.clock Example.lastWeek r.1.commands).truncated = false ∧
      activeOverrides 1 r.1.clock r.1.commands = [⟨1, 23, 3600000⟩] := by decide +kernel
  obtain ⟨⟨s, h⟩, hr, hclock, hall, hoverrides⟩ := hgo
  have hrun : control.Reaches (.init 0 Control.site) s h := ⟨_, hr⟩
  have hperm := active_now_exact hrun Example.site 1 le_rfl (q := Example.lastWeek) rfl
    (by rw [hclock]; decide) (by rw [hclock]; decide) (by decide) hall
  rw [hoverrides] at hperm
  exact ⟨s, h, hrun, hperm⟩

/-! ## What the building shows -/

/-- A row, or as many as are asked for that are no older. -/
theorem row_mem_items {site : Site τ} {tenantId : Uuid} {q : Query} {t : List Command} {j : Joined τ}
    (hj : j ∈ site.selected tenantId q t) (now : ℤ) :
    j.row now ∈ (copilotControlHistory site tenantId now q t).items ∨
      (copilotControlHistory site tenantId now q t).items.length = q.limit ∧
        ∀ r ∈ (copilotControlHistory site tenantId now q t).items, j.command.requestedAt ≤ r.requestedAt := by
  have hmem : j ∈ site.sorted tenantId q t := (List.perm_insertionSort _ _).mem_iff.mpr hj
  have hsorted : (site.sorted tenantId q t).Pairwise fun j j' => j.place ≤ j'.place := List.pairwise_insertionSort _ _
  rw [← List.take_append_drop q.limit (site.sorted tenantId q t)] at hmem hsorted
  rcases List.mem_append.mp hmem with htake | hdrop
  · exact Or.inl (List.mem_map_of_mem htake)
  · refine Or.inr ⟨?_, fun r hr => ?_⟩
    · have hpos := List.length_pos_of_mem hdrop
      rw [List.length_drop] at hpos
      show (((site.sorted tenantId q t).take q.limit).map (Joined.row now)).length = q.limit
      rw [List.length_map, List.length_take]
      omega
    · obtain ⟨x, hx, rfl⟩ := List.mem_map.mp hr
      have hplace : x.place ≤ j.place := (List.pairwise_append.mp hsorted).2.2 x hx j hdrop
      rcases Prod.Lex.toLex_le_toLex.mp hplace with hlt | ⟨heq, -⟩
      · exact (neg_lt_neg_iff.mp hlt).le
      · exact (neg_injective heq).ge

section Loop

open Device

variable {cfg : Config} {ctx : Uuid → Option SimContext} {s : Device.Loop} {h : List LoopObs}

theorem control_of_reaches {clock : ℤ} {w : World} {registry : Device.Registry} {stored : Uuid → Option ℚ}
    (hrun : (closedLoop cfg).Reaches (.start clock w ctx registry stored) s h) :
    ∃ o, control.Reaches (.init clock w) s.control o := by
  refine hrun.inv (I := fun s => ∃ o, control.Reaches (.init clock w) s.control o)
    (fun {s a s' o} hI hs => ?_) ⟨[], .refl _⟩
  obtain ⟨o, hreaches⟩ := hI
  cases a with
  | control a =>
    obtain ⟨⟨c, p⟩, hcp, hr⟩ := Option.map_eq_some_iff.mp hs
    obtain ⟨rfl, rfl⟩ := Prod.mk.inj hr
    exact ⟨_, hreaches.step hcp⟩
  | building a =>
    cases a with
    | polled tenantId overrides => cases hs
    | _ =>
      obtain ⟨rfl, rfl⟩ := Prod.mk.inj (Option.some.inj hs)
      exact ⟨o, hreaches⟩
  | poll tenantId now =>
    simp only [closedLoop, Loop.step] at hs
    split_ifs at hs
    obtain ⟨rfl, rfl⟩ := Prod.mk.inj (Option.some.inj hs)
    exact ⟨o, hreaches⟩

/-- **The log explains.**  Where the building shows an unfaulted setpoint that it is not designed for, a command in
force at the last poll is behind it, and the log of any window from that poll till now has this command's row, or is
full of commands asked for no earlier than it. -/
theorem history_explains {clock : ℤ} {w : World} {registry : Device.Registry} {stored : Uuid → Option ℚ}
    (hrun : (closedLoop cfg).Reaches (.start clock w ctx registry stored) s h) {before rest : List LoopObs}
    {r : SimulatedReading} (hh : h = before ++ .building (.emitted r) :: rest)
    (hmetric : r.sensor.metric = .setpointTempC) (hfault : r.fault = none) {zoneId : Uuid}
    (hzone : r.sensor.zoneId = some zoneId) (hchanged : r.value ≠ (designedC ctx r.sensor.tenantId zoneId).getD 23)
    {site : Site τ} {z : Zone τ} {f : Floor τ} {buildingId : Uuid}
    (hplace : (z, f) ∈ site.places r.sensor.tenantId buildingId zoneId) :
    ∃ now commands, lastPoll r.sensor.tenantId before = some (now, commands) ∧
      ∃ c₀ ∈ commands, inForce r.sensor.tenantId now c₀ = true ∧
        ∃ c ∈ s.control.commands, c.intent = c₀.intent ∧ c.zoneId = zoneId ∧ c.setpointTempC = r.value ∧
          (c.state = .applied ∨ c.state = .superseded) ∧
          ∀ (q : Query) (dbNow : ℤ), q.buildingId = buildingId → (∀ id ∈ q.zoneId, id = zoneId) → q.fromMs ≤ now →
            s.control.clock < q.toMs →
              let answer := copilotControlHistory site r.sensor.tenantId dbNow q s.control.commands
              Joined.row dbNow ⟨c, z, f⟩ ∈ answer.items ∨
                answer.items.length = q.limit ∧ ∀ other ∈ answer.items, c.requestedAt ≤ other.requestedAt := by
  have hF := followed_of_reaches hrun
  obtain ⟨now, commands, hpoll, hoverride⟩ := hF.override hh hmetric hfault hzone hchanged
  have hpolled : .polled r.sensor.tenantId now commands ∈ h := by
    rw [hh]
    exact List.mem_append_left _ (lastPoll_mem hpoll)
  obtain ⟨c₀, hc₀, hforce, hc₀zone, hvalue, c, hc, hintent, hstate⟩ := hF.commanded hpolled hoverride
  obtain ⟨hc₀tenant, -, hlasts⟩ := inForce_iff.mp hforce
  have htenant : c.tenantId = r.sensor.tenantId := (congrArg Intent.tenantId hintent).trans hc₀tenant
  have hczone : c.zoneId = zoneId := (congrArg Intent.zoneId hintent).trans hc₀zone
  have huntil : c.effectiveUntil = c₀.effectiveUntil := congrArg Intent.effectiveUntil hintent
  refine ⟨now, commands, hpoll, c₀, hc₀, hforce, c, hc, hintent, hczone,
    (congrArg Intent.setpointTempC hintent).trans hvalue, hstate, fun q dbNow hbuilding hq hfrom hto => ?_⟩
  obtain ⟨o, hcontrol⟩ := control_of_reaches hrun
  have hcovers : q.covers r.sensor.tenantId c = true := by
    have hrequested := requestedAt_le_clock hcontrol c hc
    simp only [Query.covers, Bool.and_eq_true, decide_eq_true_eq, Option.all_eq_true]
    exact ⟨⟨⟨htenant, by omega⟩, by omega⟩, fun id hid => hczone.trans (hq id hid).symm⟩
  have hj : (⟨c, z, f⟩ : Joined τ) ∈ site.selected r.sensor.tenantId q s.control.commands := by
    refine List.mem_flatMap.mpr ⟨c, List.mem_filter.mpr ⟨hc, hcovers⟩, List.mem_map.mpr ⟨(z, f), ?_, rfl⟩⟩
    rw [hbuilding, hczone]
    exact hplace
  exact row_mem_items hj dbNow

theorem history_explains_lapsed : ∃ (s : Device.Loop) (before : List LoopObs),
    (closedLoop Device.Example.nine).Reaches
        (.start 0 Control.site (fun _ => some Device.Example.room) Device.Example.thermostats fun _ => none) s
        (before ++ [.building (.emitted Device.Example.shown)]) ∧
      ∃ c ∈ s.control.commands, c.zoneId = 1 ∧ c.setpointTempC = 23 ∧ (c.state = .applied ∨ c.state = .superseded) ∧
        Joined.row 1704088800000 ⟨c, (⟨⟨1, 20, 301, none, none⟩, 1⟩ : Zone ℕ), ⟨⟨20, 10, 0, 200⟩, 1⟩⟩ ∈
          (copilotControlHistory Example.site 1 1704088800000 Example.lastWeek s.control.commands).items := by
  have hgo : ∃ r ∈ (closedLoop Device.Example.nine).exec
      (.start 0 Control.site (fun _ => some Device.Example.room) Device.Example.thermostats fun _ => none)
      Device.Example.overridden, r.2.getLast? = some (.building (.emitted Device.Example.shown)) ∧
        r.1.control.clock = 1704088800000 ∧ (lastPoll 1 r.2.dropLast).map Prod.fst = some 0 ∧
        (copilotControlHistory Example.site 1 1704088800000 Example.lastWeek r.1.control.commands).items.length =
          1 := by
    decide +kernel
  obtain ⟨⟨s, h⟩, hr, hlast, hclock, hpoll, hlength⟩ := hgo
  have hh : h.dropLast ++ [.building (.emitted Device.Example.shown)] = h := List.dropLast_append_getLast? _ hlast
  have hrun : (closedLoop Device.Example.nine).Reaches
      (.start 0 Control.site (fun _ => some Device.Example.room) Device.Example.thermostats fun _ => none) s h :=
    ⟨_, hr⟩
  have hdesigned : (23 : ℚ) ≠ (designedC (fun _ => some Device.Example.room) 1 1).getD 23 := by
    show (23 : ℚ) ≠ 22
    norm_num
  have hplace : ((⟨⟨1, 20, 301, none, none⟩, 1⟩ : Zone ℕ), (⟨⟨20, 10, 0, 200⟩, 1⟩ : Floor ℕ)) ∈
      Example.site.places 1 10 1 := by
    decide
  obtain ⟨now, commands, hlastPoll, c₀, -, -, c, hc, -, hzone, hvalue, hstate, hexplains⟩ :=
    history_explains hrun hh.symm rfl rfl rfl hdesigned hplace
  obtain rfl : now = 0 := by
    have hnow := congrArg (Option.map Prod.fst) hlastPoll
    exact Option.some.inj (hnow.symm.trans hpoll)
  rcases hexplains Example.lastWeek 1704088800000 rfl (fun _ hid => by cases hid) (by decide)
    (by rw [hclock]; decide) with hrow | ⟨hfull, -⟩
  · exact ⟨s, h.dropLast, hh.symm ▸ hrun, c, hc, hzone, hvalue, hstate, hrow⟩
  · have hone : (1 : ℕ) = 50 := hlength.symm.trans hfull
    omega

end Loop

end DTwin.Control.History
