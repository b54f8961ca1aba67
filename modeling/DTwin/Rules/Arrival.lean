import DTwin.Rules.Flagged

/-!
# DTwin.Rules.Arrival — does the order of delivery matter?

Ingest accepts late and replayed samples; the engine folds them as they arrive.  `arrival_order`: two
readings suffice to tell two orders apart, and whatever the order, the latest reading is right exactly
when the newest was delivered last.
-/

namespace DTwin.Rules

open Machine

/-! ## What is built -/

/-- What the engine has built of a sensor's readings. -/
structure Observed where
  latest : Option (ℚ × ℤ × Quality)
  lastChangedAt : Option ℤ
  setpoint : Option LiveSetpoint
  slope : ℤ → ℤ → Option ℚ

def Engine.observed (e : Engine) (sensor : RegisteredSensor) : Observed where
  latest := (e.sensorState sensor.id).map fun st => (st.lastValue, st.lastTs, st.lastQuality)
  lastChangedAt := (e.sensorState sensor.id).map (·.lastChangedAt)
  setpoint := sensor.zoneId.bind e.liveSetpoints
  slope now windowS :=
    ((e.sensorState sensor.id).bind (·.history)).bind (slopePerHour · now windowS)

/-- A sensor's readings delivered in this order, each at its own time. -/
def arrive (sensor : RegisteredSensor) (clock : Reading → ℤ) (rs : List Reading) : List Act :=
  rs.map fun r => .reading sensor r (clock r)

/-- The engine once they have been. -/
def Engine.deliver (e : Engine) (sensor : RegisteredSensor) (clock : Reading → ℤ)
    (rs : List Reading) : Engine :=
  rs.foldl (fun e r => e.onReading sensor r (clock r)) e

theorem exec_arrive (sensor : RegisteredSensor) (clock : Reading → ℤ) : ∀ (rs : List Reading)
    (s : Sys), alerting.exec s (arrive sensor clock rs) =
      some ({ s with engine := s.engine.deliver sensor clock rs }, [])
  | [], _ => rfl
  | r :: rs, s => by
    refine exec_cons_iff.mpr ⟨{ s with engine := s.engine.onReading sensor r (clock r) }, [], [], rfl,
      exec_arrive sensor clock rs _, rfl⟩

theorem readingsOf_arrive (sensor : RegisteredSensor) (clock : Reading → ℤ) (rs : List Reading) :
    readingsOf sensor.id (arrive sensor clock rs) = rs := by
  induction rs with
  | nil => rfl
  | cons r rs ih =>
    have hr : Act.readingOf sensor.id (.reading sensor r (clock r)) = some r := if_pos rfl
    show readingsOf sensor.id (.reading sensor r (clock r) :: arrive sensor clock rs) = r :: rs
    rw [readingsOf, List.filterMap_cons_some hr, ← readingsOf, ih]

/-- Distinct timestamps tell readings apart. -/
theorem eq_of_ts_eq {rs : List Reading} (hts : rs.Pairwise fun a b => a.ts < b.ts) {a b : Reading}
    (ha : a ∈ rs) (hb : b ∈ rs) (heq : a.ts = b.ts) : a = b :=
  List.inj_on_of_nodup_map (List.pairwise_map.mpr (hts.imp fun h => h.ne)) ha hb heq

section
variable {e : Engine} (hu : Unread e) (sensor : RegisteredSensor) (clock : Reading → ℤ)
include hu

theorem deliver_sensorState (rs : List Reading) : (e.deliver sensor clock rs).sensorState sensor.id =
    builtState (e.needHistory sensor.id) none rs := by
  have hsteady : ∀ a ∈ arrive sensor clock rs, a.Steady := by
    intro a ha
    obtain ⟨r, -, rfl⟩ := List.mem_map.mp ha
    trivial
  have h := exec_sensorState sensor.id _ hsteady (exec_arrive sensor clock rs ⟨.running, e, []⟩)
  rwa [readingsOf_arrive, hu.sensorState] at h

/-- The latest reading is the last delivered. -/
theorem deliver_latest (rs : List Reading) : ((e.deliver sensor clock rs).observed sensor).latest =
    rs.getLast?.map fun r => (r.value, r.ts, r.quality) := by
  show ((e.deliver sensor clock rs).sensorState sensor.id).map _ = _
  rw [deliver_sensorState hu]
  cases hlast : rs.getLast? with
  | none =>
    rw [List.getLast?_eq_none_iff.mp hlast]
    rfl
  | some r =>
    obtain ⟨st, hst, hv, ht, hq⟩ := builtState_getLast (e.needHistory sensor.id) hlast
    rw [hst, Option.map_some, Option.map_some, hv, ht, hq]

theorem deliver_lastChangedAt {rs : List Reading} {t : ℤ} (ht : LastMove rs t) :
    ((e.deliver sensor clock rs).observed sensor).lastChangedAt = some t := by
  show ((e.deliver sensor clock rs).sensorState sensor.id).map _ = _
  rw [deliver_sensorState hu]
  obtain ⟨last, hlast⟩ := Option.ne_none_iff_exists'.mp ht.getLast?_ne
  obtain ⟨st, hst, -⟩ := builtState_getLast (e.needHistory sensor.id) hlast
  rw [hst, Option.map_some, ht.lastChangedAt hst]

/-- **Order of delivery.**  For the readings `rs` of a sensor, in timestamp order: every order of delivery
builds the same exactly when there is at most one of them; and in any one order, the latest reading is
the one of timestamp order exactly when the newest is delivered last, and the last change exactly when
the last move is at the same instant. -/
theorem arrival_order {rs : List Reading} (hts : rs.Pairwise fun a b => a.ts < b.ts) :
    ((∀ rs', rs'.Perm rs → (e.deliver sensor clock rs').observed sensor =
        (e.deliver sensor clock rs).observed sensor) ↔ rs.length ≤ 1) ∧
      ∀ rs', rs'.Perm rs →
        (((e.deliver sensor clock rs').observed sensor).latest =
            ((e.deliver sensor clock rs).observed sensor).latest ↔ rs'.getLast? = rs.getLast?) ∧
        ∀ t t', LastMove rs' t → LastMove rs t' →
          (((e.deliver sensor clock rs').observed sensor).lastChangedAt =
            ((e.deliver sensor clock rs).observed sensor).lastChangedAt ↔ t = t') := by
  have hlatest : ∀ rs', rs'.Perm rs →
      (((e.deliver sensor clock rs').observed sensor).latest =
        ((e.deliver sensor clock rs).observed sensor).latest ↔ rs'.getLast? = rs.getLast?) := by
    intro rs' hperm
    rw [deliver_latest hu, deliver_latest hu]
    refine ⟨fun heq => ?_, fun heq => by rw [heq]⟩
    cases hlast' : rs'.getLast? with
    | none =>
      rw [List.getLast?_eq_none_iff.mp hlast'] at hperm
      rw [hperm.nil_eq.symm]
      rfl
    | some r' =>
      rw [hlast'] at heq
      obtain ⟨r, hlast, heq⟩ := Option.map_eq_some_iff.mp heq.symm
      have hr' := hperm.subset (List.mem_of_getLast? hlast')
      have hr := List.mem_of_getLast? hlast
      rw [hlast, eq_of_ts_eq hts hr hr' (congrArg (·.2.1) heq)]
  refine ⟨⟨fun hsame => ?_, fun hlen rs' hperm => ?_⟩, fun rs' hperm => ⟨hlatest rs' hperm, ?_⟩⟩
  · -- of two readings or more, the oldest can be delivered last
    rcases rs with _ | ⟨a, _ | ⟨b, rest⟩⟩
    · exact Nat.zero_le 1
    · exact le_rfl
    · have hperm : (b :: rest ++ [a]).Perm (a :: b :: rest) := List.perm_append_singleton a _
      have hlast := (hlatest _ hperm).mp (congrArg Observed.latest (hsame _ hperm))
      rw [List.getLast?_concat, List.getLast?_cons_cons] at hlast
      have ha : a ∈ b :: rest := List.mem_of_getLast? hlast.symm
      exact absurd (List.rel_of_pairwise_cons hts ha) (lt_irrefl a.ts)
  · rcases rs with _ | ⟨a, _ | ⟨b, rest⟩⟩
    · rw [hperm.eq_nil]
    · rw [List.perm_singleton.mp hperm]
    · simp at hlen
  · intro t t' ht ht'
    rw [deliver_lastChangedAt hu sensor clock ht, deliver_lastChangedAt hu sensor clock ht',
      Option.some.injEq]

end

/-- One degree up within a second. -/
def risingReadings : List Reading := [⟨1, 1000, 20, .good⟩, ⟨1, 2000, 21, .good⟩]

theorem arrival_order_risingReadings :
    ¬ ∀ rs', rs'.Perm risingReadings →
      (Engine.new.deliver airSensor (·.ts) rs').observed airSensor =
        (Engine.new.deliver airSensor (·.ts) risingReadings).observed airSensor := by
  have hts : risingReadings.Pairwise fun a b => a.ts < b.ts := by decide
  have hu : Unread Engine.new := unread_init []
  rw [(arrival_order hu airSensor (·.ts) hts).1]
  decide

/-- The older reading arrives last, and is taken for the latest. -/
theorem late_replaces_newer : ∃ rs', rs'.Perm risingReadings ∧
    ((Engine.new.deliver airSensor (·.ts) rs').observed airSensor).latest = some (20, 1000, .good) ∧
    ((Engine.new.deliver airSensor (·.ts) risingReadings).observed airSensor).latest =
      some (21, 2000, .good) :=
  ⟨risingReadings.reverse, List.reverse_perm _, rfl, rfl⟩

end DTwin.Rules
