import DTwin.Lib.OrderedMap
import DTwin.Rules.Engine
import Mathlib.Data.List.Dedup
import Mathlib.Data.List.Perm.Subperm
import Mathlib.Data.List.Sort

/-!
# DTwin.Web.Alerts — the alert list, from a snapshot and events

`apps/web/lib/alerts.ts`.  The list of events holds the latest of each alert (`appendAlertEvent`).  What is shown of
an alert goes by its latest event, if that is not before the snapshot (`get?_reconciled`): with arrival times that do
not decrease an event that is cut off has no event before it that is not.  So nothing is lost by the compaction
(`reconcile_compacted`). -/

namespace DTwin.Web

open OrderedMap
open Rules (AlertState)

inductive Severity
  | critical
  | warning
  | info
deriving DecidableEq

/-- An alert: what `reconcileAlerts` reads of it, and the rest as `context`. -/
structure AlertWithContext (κ α : Type*) where
  id : κ
  state : AlertState
  severity : Severity
  openedAt : ℤ
  context : α

inductive AlertEventKind
  | upsert
  | resolved
deriving DecidableEq

structure AlertEvent (κ α : Type*) where
  kind : AlertEventKind
  alert : AlertWithContext κ α
  /-- This browser's clock when the frame arrived, epoch ms. -/
  at' : ℤ

def maxAlertEvents : ℕ := 500

def severityRank : Severity → ℕ
  | .critical => 0
  | .warning => 1
  | .info => 2

variable {κ α : Type*} [DecidableEq κ]

def AlertEvent.id (e : AlertEvent κ α) : κ := e.alert.id

/-- `next` of `appendAlertEvent`, before the ceiling. -/
def latestPerAlert (events : List (AlertEvent κ α)) (event : AlertEvent κ α) : List (AlertEvent κ α) :=
  (events.filter fun e => e.id ≠ event.id) ++ [event]

def appendAlertEvent (events : List (AlertEvent κ α)) (event : AlertEvent κ α) : List (AlertEvent κ α) :=
  let next := latestPerAlert events event
  if maxAlertEvents < next.length then next.drop (next.length - maxAlertEvents) else next

/-- An event that is not before the snapshot. -/
def AlertEvent.after (snapshotAt : Option ℤ) (e : AlertEvent κ α) : Bool :=
  match snapshotAt with
  | none => true
  | some requested => ¬ e.at' < requested

/-- One turn of the loop of `reconcileAlerts`. -/
def applyEvent (snapshotAt : Option ℤ) (shown : OrderedMap κ (AlertWithContext κ α)) (e : AlertEvent κ α) :
    OrderedMap κ (AlertWithContext κ α) :=
  if e.after snapshotAt then
    match e.kind with
    | .resolved => shown.erase e.id
    | .upsert => shown.set e.id e.alert
  else shown

/-- The comparator: by severity, then the newest first. -/
def AlertWithContext.before (a b : AlertWithContext κ α) : Prop :=
  severityRank a.severity < severityRank b.severity ∨
    severityRank a.severity = severityRank b.severity ∧ b.openedAt ≤ a.openedAt

instance : DecidableRel (AlertWithContext.before : AlertWithContext κ α → AlertWithContext κ α → Prop) := fun a b =>
  inferInstanceAs (Decidable (severityRank a.severity < severityRank b.severity ∨
    severityRank a.severity = severityRank b.severity ∧ b.openedAt ≤ a.openedAt))

/-- The map of `reconcileAlerts`, once the events are applied. -/
def reconciled (snapshot : List (AlertWithContext κ α)) (snapshotAt : Option ℤ) (events : List (AlertEvent κ α)) :
    OrderedMap κ (AlertWithContext κ α) :=
  events.foldl (applyEvent snapshotAt) (ofList AlertWithContext.id snapshot)

def reconcileAlerts (snapshot : List (AlertWithContext κ α)) (snapshotAt : Option ℤ) (events : List (AlertEvent κ α)) :
    List (AlertWithContext κ α) :=
  ((reconciled snapshot snapshotAt events).values.filter fun a => a.state ≠ .resolved).insertionSort
    AlertWithContext.before

/-! ## What is shown of an alert -/

/-- What an alert is after an event. -/
def AlertEvent.outcome (e : AlertEvent κ α) : Option (AlertWithContext κ α) :=
  match e.kind with
  | .resolved => none
  | .upsert => some e.alert

theorem get?_applyEvent (snapshotAt : Option ℤ) (shown : OrderedMap κ (AlertWithContext κ α)) (e : AlertEvent κ α)
    (id : κ) :
    (applyEvent snapshotAt shown e).get? id =
      if e.after snapshotAt = true ∧ e.id = id then e.outcome else shown.get? id := by
  unfold applyEvent AlertEvent.outcome
  by_cases hafter : e.after snapshotAt = true
  · rw [if_pos hafter]
    cases e.kind with
    | resolved =>
      dsimp only
      rw [get?_erase]
      simp only [hafter, true_and]
    | upsert =>
      dsimp only
      rw [get?_set]
      simp only [hafter, true_and]
  · rw [if_neg hafter, if_neg fun h => hafter h.1]

/-- The last event that is not cut off decides. -/
theorem get?_foldl_applyEvent (snapshotAt : Option ℤ) (shown : OrderedMap κ (AlertWithContext κ α)) (id : κ)
    (events : List (AlertEvent κ α)) :
    (events.foldl (applyEvent snapshotAt) shown).get? id =
      match lastOf AlertEvent.id id (events.filter (AlertEvent.after snapshotAt)) with
      | none => shown.get? id
      | some e => e.outcome := by
  induction events using List.reverseRecOn with
  | nil => rfl
  | append_singleton events e ih =>
    rw [List.foldl_append, List.foldl_cons, List.foldl_nil, get?_applyEvent, List.filter_append, lastOf_append, ih]
    by_cases hafter : e.after snapshotAt = true
    · have hkeep : [e].filter (AlertEvent.after snapshotAt) = [e] := by simp [hafter]
      rw [hkeep, lastOf_singleton]
      by_cases hid : e.id = id
      · rw [if_pos ⟨hafter, hid⟩, if_pos hid]
        rfl
      · rw [if_neg fun h => hid h.2, if_neg hid]
        rfl
    · have hdrop : [e].filter (AlertEvent.after snapshotAt) = [] := by simp [hafter]
      rw [hdrop, if_neg fun h => hafter h.1]
      rfl

/-- Arrival times that do not decrease. -/
def InArrivalOrder (events : List (AlertEvent κ α)) : Prop := events.Pairwise fun e e' => e.at' ≤ e'.at'

omit [DecidableEq κ] in
theorem after_mono {snapshotAt : Option ℤ} {e e' : AlertEvent κ α} (hle : e.at' ≤ e'.at')
    (he : e.after snapshotAt = true) : e'.after snapshotAt = true := by
  unfold AlertEvent.after at he ⊢
  cases snapshotAt with
  | none => rfl
  | some requested =>
    simp only [decide_eq_true_eq] at he ⊢
    omega

/-- Of an alert whose last event is cut off, all are. -/
theorem lastOf_filter_after (snapshotAt : Option ℤ) (id : κ) {events : List (AlertEvent κ α)}
    (hsorted : InArrivalOrder events) :
    lastOf AlertEvent.id id (events.filter (AlertEvent.after snapshotAt)) =
      (lastOf AlertEvent.id id events).filter (AlertEvent.after snapshotAt) := by
  induction events using List.reverseRecOn with
  | nil => rfl
  | append_singleton events e ih =>
    obtain ⟨hinit, -, hlast⟩ := List.pairwise_append.mp hsorted
    rw [List.filter_append, lastOf_append, lastOf_append, lastOf_singleton]
    by_cases hid : e.id = id
    · rw [if_pos hid]
      by_cases hafter : e.after snapshotAt = true
      · have hkeep : [e].filter (AlertEvent.after snapshotAt) = [e] := by simp [hafter]
        rw [hkeep, lastOf_singleton, if_pos hid, Option.some_or, Option.some_or, Option.filter_some, if_pos hafter]
      · -- the events before it are cut off with it
        have hnone : events.filter (AlertEvent.after snapshotAt) = [] := by
          rw [List.filter_eq_nil_iff]
          intro e' he' hafter'
          exact hafter (after_mono (hlast e' he' e (List.mem_singleton_self e)) hafter')
        have hdrop : [e].filter (AlertEvent.after snapshotAt) = [] := by simp [hafter]
        rw [hnone, hdrop, Option.some_or, Option.filter_some, if_neg hafter]
        rfl
    · have hother : lastOf AlertEvent.id id ([e].filter (AlertEvent.after snapshotAt)) = none := by
        rw [lastOf_eq_none]
        intro e' he'
        rw [List.mem_singleton.mp (List.mem_filter.mp he').1]
        exact hid
      rw [if_neg hid, hother, Option.none_or, Option.none_or]
      exact ih hinit

/-- **What is shown of an alert** goes by its last event, if that is not before the snapshot. -/
theorem get?_reconciled (snapshot : List (AlertWithContext κ α)) (snapshotAt : Option ℤ)
    {events : List (AlertEvent κ α)}
    (hsorted : InArrivalOrder events) (id : κ) :
    (reconciled snapshot snapshotAt events).get? id =
      match (lastOf AlertEvent.id id events).filter (AlertEvent.after snapshotAt) with
      | none => lastOf AlertWithContext.id id snapshot
      | some e => e.outcome := by
  rw [reconciled, get?_foldl_applyEvent, lastOf_filter_after snapshotAt id hsorted, get?_ofList]

/-! ## The compaction -/

theorem lastOf_latestPerAlert (events : List (AlertEvent κ α)) (event : AlertEvent κ α) (id : κ) :
    lastOf AlertEvent.id id (latestPerAlert events event) = lastOf AlertEvent.id id (events ++ [event]) := by
  unfold latestPerAlert
  rw [lastOf_append, lastOf_append, lastOf_singleton]
  by_cases hid : event.id = id
  · rw [if_pos hid, Option.some_or, Option.some_or]
  · rw [if_neg hid, Option.none_or, Option.none_or]
    refine lastOf_filter fun e _ he => ?_
    simp only [decide_eq_true_eq]
    exact fun heq => hid (heq.symm.trans he)

/-- What the list of events is to the history. -/
structure Compacts (events history : List (AlertEvent κ α)) : Prop where
  sublist : events.Sublist history
  nodup : (events.map AlertEvent.id).Nodup
  last : ∀ id, lastOf AlertEvent.id id events = lastOf AlertEvent.id id history

theorem Compacts.latestPerAlert {events history : List (AlertEvent κ α)} (h : Compacts events history)
    (event : AlertEvent κ α) : Compacts (latestPerAlert events event) (history ++ [event]) := by
  refine ⟨(List.filter_sublist.trans h.sublist).append_right [event], ?_, fun id => ?_⟩
  · unfold Web.latestPerAlert
    rw [List.map_append, List.nodup_append]
    refine ⟨h.nodup.sublist (List.filter_sublist.map _), by simp, ?_⟩
    intro id hid id' hid' heq
    obtain ⟨e, he, rfl⟩ := List.mem_map.mp hid
    have hne := (List.mem_filter.mp he).2
    simp only [decide_eq_true_eq] at hne
    rw [List.map_cons, List.map_nil, List.mem_singleton] at hid'
    exact hne (heq.trans hid')
  · rw [lastOf_latestPerAlert, lastOf_append, lastOf_append, h.last]

/-- A list that compacts a history has as many events as alerts at most. -/
theorem Compacts.length_le {events history : List (AlertEvent κ α)} (h : Compacts events history) :
    events.length ≤ (history.map AlertEvent.id).dedup.length := by
  have hsub : events.map AlertEvent.id ⊆ (history.map AlertEvent.id).dedup := fun id hid =>
    List.mem_dedup.mpr ((h.sublist.map AlertEvent.id).subset hid)
  have hlen := (List.Nodup.subperm h.nodup hsub).length_le
  rwa [List.length_map] at hlen

/-- Below the ceiling the list always compacts what has arrived. -/
theorem compacts_foldl (history : List (AlertEvent κ α))
    (hfew : (history.map AlertEvent.id).dedup.length ≤ maxAlertEvents) :
    Compacts (history.foldl appendAlertEvent []) history := by
  induction history using List.reverseRecOn with
  | nil => exact ⟨List.Sublist.refl _, by simp, fun _ => rfl⟩
  | append_singleton history event ih =>
    have hmono : (history.map AlertEvent.id).dedup.length ≤ ((history ++ [event]).map AlertEvent.id).dedup.length := by
      refine (List.Nodup.subperm (List.nodup_dedup _) fun id hid => ?_).length_le
      rw [List.mem_dedup] at hid ⊢
      rw [List.map_append]
      exact List.mem_append_left _ hid
    have hnext := (ih (hmono.trans hfew)).latestPerAlert event
    have hroom : ¬ maxAlertEvents < (latestPerAlert (history.foldl appendAlertEvent []) event).length :=
      not_lt.mpr (hnext.length_le.trans hfew)
    have hstep : (history ++ [event]).foldl appendAlertEvent [] =
        latestPerAlert (history.foldl appendAlertEvent []) event := by
      rw [List.foldl_append, List.foldl_cons, List.foldl_nil, appendAlertEvent, if_neg hroom]
    rw [hstep]
    exact hnext

/-! ## The lists -/

/-- Maps with one and the same alert under each id show the same alerts. -/
theorem entries_perm {m m' : OrderedMap κ (AlertWithContext κ α)} (h : ∀ id, m.get? id = m'.get? id) :
    m.entries.Perm m'.entries := by
  refine (List.perm_ext_iff_of_nodup (List.Nodup.of_map _ m.nodup) (List.Nodup.of_map _ m'.nodup)).mpr ?_
  rintro ⟨id, a⟩
  rw [mem_entries, mem_entries, h]

/-- **Compaction loses nothing**: for every snapshot and every history of events over at most `maxAlertEvents` alerts,
in the order of their arrival, the compacted list shows the same alerts, with the same contents, as the whole history.
-/
theorem reconcile_compacted (snapshot : List (AlertWithContext κ α)) (snapshotAt : Option ℤ)
    (history : List (AlertEvent κ α)) (hsorted : InArrivalOrder history)
    (hfew : (history.map AlertEvent.id).dedup.length ≤ maxAlertEvents) :
    (reconcileAlerts snapshot snapshotAt (history.foldl appendAlertEvent [])).Perm
      (reconcileAlerts snapshot snapshotAt history) := by
  have hcompacts := compacts_foldl history hfew
  have hsame : ∀ id, (reconciled snapshot snapshotAt (history.foldl appendAlertEvent [])).get? id =
      (reconciled snapshot snapshotAt history).get? id := by
    intro id
    rw [get?_reconciled snapshot snapshotAt (hsorted.sublist hcompacts.sublist),
      get?_reconciled snapshot snapshotAt hsorted,
      hcompacts.last]
  have hvalues : (reconciled snapshot snapshotAt (history.foldl appendAlertEvent [])).values.Perm
      (reconciled snapshot snapshotAt history).values := (entries_perm hsame).map Prod.snd
  unfold reconcileAlerts
  exact (List.perm_insertionSort _ _).trans ((hvalues.filter _).trans (List.perm_insertionSort _ _).symm)

/-! ## An alert that comes and goes -/

/-- An event about a warning. -/
def eventOf (kind : AlertEventKind) (id : ℕ) (at' : ℤ) : AlertEvent ℕ Unit :=
  ⟨kind, ⟨id, .open, .warning, at', ()⟩, at'⟩

/-- One is raised twice and then resolved, another raised in between: the second is shown. -/
theorem reconcile_compacted_two :
    (reconcileAlerts [] (some 2) (List.foldl appendAlertEvent []
      [eventOf .upsert 1 1, eventOf .upsert 2 2, eventOf .upsert 1 3, eventOf .resolved 1 4])).Perm
      (reconcileAlerts [] (some 2)
        [eventOf .upsert 1 1, eventOf .upsert 2 2, eventOf .upsert 1 3, eventOf .resolved 1 4]) :=
  reconcile_compacted [] (some 2) _ (by simp [InArrivalOrder, eventOf]) (by decide)

end DTwin.Web
