import DTwin.Ingest.Registry
import Mathlib.Tactic.Linarith

/-!
# DTwin.Ingest.Unknown — refreshes on account of unknown ids

A batch that names ids without a sensor asks for a refresh out of band, for those that `shouldRetryUnknown` lets
through. What was asked for is remembered until a refresh ends, timer or not, and forgotten with it, so the next batch
that names an id which is still unknown may ask again at once (`rationed_iff`).  What a refresh reads is its own
affair: it ends with some maps.
-/

namespace DTwin.Ingest.SensorRegistry.Unknown

open Machine OrderedMap Canonical

inductive Act
  /-- A batch of a tenant: the external ids of its readings. -/
  | ingestRaw (tenantId : Uuid) (externalIds : List String) (now : ℤ)
  | timer
  /-- The refresh under way ends with these maps. -/
  | completes (maps : Maps)
  | fails

inductive Obs
  /-- A refresh is asked for out of band, on account of this id. -/
  | requested (tenantId : Uuid) (externalId : String) (now : ℤ)
  | completed (maps : Maps)

/-- One reading, for the set of ids without a sensor. -/
def noteUnknown (s : Sys) (tenantId : Uuid) (unknown : List String) (externalId : String) : List String :=
  if (s.maps.byExternalId.get? (key tenantId externalId)).isSome ∨ externalId ∈ unknown then unknown
  else unknown ++ [externalId]

/-- `unknown` of `ingestRaw`, in the order of insertion. -/
def unknownIds (s : Sys) (tenantId : Uuid) (externalIds : List String) : List String :=
  externalIds.foldl (noteUnknown s tenantId) []

/-- `retry`: the ids that are worth a refresh, each asked about in its turn. -/
def retry (opts : RegistryOptions) (tenantId : Uuid) (now : ℤ) : Sys → List String → Sys × List String
  | s, [] => (s, [])
  | s, id :: ids =>
    let asked := s.shouldRetryUnknown opts (key tenantId id) now
    let rest := retry opts tenantId now asked.1 ids
    (rest.1, if asked.2 then id :: rest.2 else rest.2)

/-- `refresh`: one at a time. -/
def beginRefresh (s : Sys) : Sys :=
  match s.refreshing with
  | some _ => s
  | none => { s with refreshing := some ⟨.empty, .tenants⟩ }

def step (opts : RegistryOptions) (s : Sys) : Act → Option (Sys × List Obs)
  | .ingestRaw tenantId externalIds now =>
    let asked := retry opts tenantId now s (unknownIds s tenantId externalIds)
    some (if asked.2.isEmpty then asked.1 else beginRefresh asked.1, asked.2.map fun id => .requested tenantId id now)
  | .timer => some (beginRefresh s, [])
  | .completes maps =>
    match s.refreshing with
    | some _ => some ((s.proceed maps []).1, [.completed maps])
    | none => none
  | .fails =>
    match s.refreshing with
    | some _ => some ({ s with refreshing := none }, [])
    | none => none

def ingest (opts : RegistryOptions) : Machine Sys Act Obs := ⟨step opts⟩

/-! ## What is asked for -/

/-- An event, for the requests on account of an id since the registry last knew it. -/
def note (tenantId : Uuid) (externalId : String) (asked : List ℤ) : Obs → List ℤ
  | .requested t id now => if t = tenantId ∧ id = externalId then asked ++ [now] else asked
  | .completed maps => if (maps.byExternalId.get? (key tenantId externalId)).isSome then [] else asked

/-- When refreshes were asked for on account of an id that the registry still does not know. -/
def asked (tenantId : Uuid) (externalId : String) (h : List Obs) : List ℤ := h.foldl (note tenantId externalId) []

/-- Any two refreshes on account of one such id are `unknownRetryMs` apart. -/
def Rationed (opts : RegistryOptions) (h : List Obs) : Prop :=
  ∀ tenantId externalId, (asked tenantId externalId h).Pairwise fun now now' => opts.unknownRetryMs ≤ now' - now

/-- An unknown id that was asked for within `unknownRetryMs` is still remembered, or at its turn the memory is full. -/
def Spared (opts : RegistryOptions) (s : Sys) (h : List Obs) : Act → Prop
  | .ingestRaw tenantId externalIds now => ∀ before id after,
      unknownIds s tenantId externalIds = before ++ id :: after →
      (∃ last ∈ asked tenantId id h, now - last < opts.unknownRetryMs) →
      s.unknown.get? (key tenantId id) ≠ none ∨
        opts.unknownMax ≤ (retry opts tenantId now s before).1.unknown.size
  | _ => True

/-! ## One batch -/

section Batch

variable {opts : RegistryOptions} {s : Sys} {tenantId : Uuid} {now : ℤ}

theorem nodup_unknownIds (s : Sys) (tenantId : Uuid) (externalIds : List String) :
    (unknownIds s tenantId externalIds).Nodup := by
  have hstep : ∀ (unknown : List String) (id : String), unknown.Nodup → (noteUnknown s tenantId unknown id).Nodup := by
    intro unknown id hnodup
    unfold noteUnknown
    split_ifs with hold
    · exact hnodup
    · refine List.nodup_append.mpr ⟨hnodup, List.nodup_singleton id, ?_⟩
      intro a ha b hb hab
      rw [List.mem_singleton.mp hb] at hab
      exact hold (Or.inr (hab ▸ ha))
  have hfold : ∀ (ids unknown : List String), unknown.Nodup → (ids.foldl (noteUnknown s tenantId) unknown).Nodup := by
    intro ids
    induction ids with
    | nil => exact fun unknown hnodup => hnodup
    | cons id ids ih => exact fun unknown hnodup => ih _ (hstep unknown id hnodup)
  exact hfold externalIds [] List.nodup_nil

/-- What `shouldRetryUnknown` goes by. -/
theorem should_iff (k : List Char) : (s.shouldRetryUnknown opts k now).2 = true ↔
    (∀ last ∈ s.unknown.get? k, opts.unknownRetryMs ≤ now - last) ∧
      (s.unknown.get? k ≠ none ∨ s.unknown.size < opts.unknownMax) := by
  unfold Sys.shouldRetryUnknown
  cases hlast : s.unknown.get? k with
  | none =>
    by_cases hfull : opts.unknownMax ≤ s.unknown.size
    · simp [hfull]
    · simp [hfull, not_le.mp hfull]
  | some last =>
    by_cases hrecent : now - last < opts.unknownRetryMs
    · simp [hrecent]
    · simp [hrecent, not_lt.mp hrecent]

/-- What it remembers: the time of a request, and nothing else. -/
theorem get?_should (k k' : List Char) : (s.shouldRetryUnknown opts k now).1.unknown.get? k' =
    if (s.shouldRetryUnknown opts k now).2 = true ∧ k = k' then some now else s.unknown.get? k' := by
  unfold Sys.shouldRetryUnknown
  dsimp only
  split_ifs with hrecent hfull hk hk
  all_goals simp_all [get?_set]

theorem key_iff {t t' : Uuid} {id id' : String} : key t id = key t' id' ↔ t = t' ∧ id = id' := by
  constructor
  · exact key_injective
  · rintro ⟨rfl, rfl⟩
    rfl

/-- A batch remembers what it asks for. -/
theorem get?_retry (t : Uuid) (id : String) : ∀ (ids : List String) (s : Sys),
    (retry opts tenantId now s ids).1.unknown.get? (key t id) =
      if tenantId = t ∧ id ∈ (retry opts tenantId now s ids).2 then some now else s.unknown.get? (key t id)
  | [], s => by simp [retry]
  | a :: ids, s => by
    have hrest := get?_retry t id ids (s.shouldRetryUnknown opts (key tenantId a) now).1
    simp only [get?_should, key_iff] at hrest
    show (retry opts tenantId now (s.shouldRetryUnknown opts (key tenantId a) now).1 ids).1.unknown.get? _ = _
    rw [hrest]
    show _ = if tenantId = t ∧ id ∈ (if (s.shouldRetryUnknown opts (key tenantId a) now).2 = true then
      a :: (retry opts tenantId now (s.shouldRetryUnknown opts (key tenantId a) now).1 ids).2 else
      (retry opts tenantId now (s.shouldRetryUnknown opts (key tenantId a) now).1 ids).2) then _ else _
    by_cases hworth : (s.shouldRetryUnknown opts (key tenantId a) now).2 = true
    · by_cases hid : a = id
      · subst hid
        by_cases ht : tenantId = t
        · subst ht
          simp [hworth]
        · simp [ht]
      · have hne : id ≠ a := fun h => hid h.symm
        simp [hworth, hid, hne]
    · simp [hworth]

/-- A batch asks no other tenant's ids, nor ids it does not name. -/
theorem mem_of_mem_retry {id : String} : ∀ {ids : List String} {s : Sys},
    id ∈ (retry opts tenantId now s ids).2 → id ∈ ids
  | [], s, h => by simp [retry] at h
  | a :: ids, s, h => by
    have hsplit : id ∈ (if (s.shouldRetryUnknown opts (key tenantId a) now).2 = true then
      a :: (retry opts tenantId now (s.shouldRetryUnknown opts (key tenantId a) now).1 ids).2 else
      (retry opts tenantId now (s.shouldRetryUnknown opts (key tenantId a) now).1 ids).2) := h
    split_ifs at hsplit
    · rcases List.mem_cons.mp hsplit with rfl | hrest
      · exact List.mem_cons_self
      · exact List.mem_cons_of_mem a (mem_of_mem_retry hrest)
    · exact List.mem_cons_of_mem a (mem_of_mem_retry hsplit)

/-- **An id at its turn**: the ids before it have been asked about, and it is not among them. -/
theorem mem_retry_iff {id : String} {after : List String} : ∀ {before : List String} {s : Sys},
    (before ++ id :: after).Nodup → (id ∈ (retry opts tenantId now s (before ++ id :: after)).2 ↔
      ((retry opts tenantId now s before).1.shouldRetryUnknown opts (key tenantId id) now).2 = true)
  | [], s, hnodup => by
    have hnew : id ∉ (retry opts tenantId now (s.shouldRetryUnknown opts (key tenantId id) now).1 after).2 :=
      fun h => (List.nodup_cons.mp hnodup).1 (mem_of_mem_retry h)
    show id ∈ (if (s.shouldRetryUnknown opts (key tenantId id) now).2 = true then
      id :: (retry opts tenantId now (s.shouldRetryUnknown opts (key tenantId id) now).1 after).2 else
      (retry opts tenantId now (s.shouldRetryUnknown opts (key tenantId id) now).1 after).2) ↔ _
    show _ ↔ (s.shouldRetryUnknown opts (key tenantId id) now).2 = true
    by_cases hworth : (s.shouldRetryUnknown opts (key tenantId id) now).2 = true
    · simp [hworth]
    · simp [hworth, hnew]
  | a :: before, s, hnodup => by
    obtain ⟨ha, hrest⟩ := List.nodup_cons.mp hnodup
    have hne : id ≠ a := fun h => ha (h ▸ List.mem_append_right before List.mem_cons_self)
    have ih := mem_retry_iff (s := (s.shouldRetryUnknown opts (key tenantId a) now).1) hrest
    show id ∈ (if (s.shouldRetryUnknown opts (key tenantId a) now).2 = true then
      a :: (retry opts tenantId now (s.shouldRetryUnknown opts (key tenantId a) now).1 (before ++ id :: after)).2 else
      (retry opts tenantId now (s.shouldRetryUnknown opts (key tenantId a) now).1 (before ++ id :: after)).2) ↔ _
    rw [← show (retry opts tenantId now s (a :: before)).1 =
      (retry opts tenantId now (s.shouldRetryUnknown opts (key tenantId a) now).1 before).1 from rfl] at ih
    split_ifs
    · rw [List.mem_cons, or_iff_right hne]
      exact ih
    · exact ih

/-- The requests of a batch. -/
theorem foldl_note_requested {ids : List String} (hnodup : ids.Nodup) (t : Uuid) (id : String) (asked : List ℤ) :
    (ids.map fun id => Obs.requested tenantId id now).foldl (note t id) asked =
      asked ++ if tenantId = t ∧ id ∈ ids then [now] else [] := by
  induction ids generalizing asked with
  | nil => simp
  | cons a ids ih =>
    obtain ⟨ha, hrest⟩ := List.nodup_cons.mp hnodup
    rw [List.map_cons, List.foldl_cons, ih hrest]
    by_cases ht : tenantId = t
    · by_cases hid : a = id
      · have hnot : id ∉ ids := hid ▸ ha
        simp [note, ht, hid, hnot]
      · have hne : id ≠ a := fun h => hid h.symm
        simp [note, ht, hid, hne]
    · simp [note, ht]

theorem nodup_retry : ∀ {ids : List String} {s : Sys}, ids.Nodup → (retry opts tenantId now s ids).2.Nodup
  | [], s, _ => List.nodup_nil
  | a :: ids, s, hnodup => by
    obtain ⟨ha, hrest⟩ := List.nodup_cons.mp hnodup
    have ih := nodup_retry (s := (s.shouldRetryUnknown opts (key tenantId a) now).1) hrest
    show (if (s.shouldRetryUnknown opts (key tenantId a) now).2 = true then
      a :: (retry opts tenantId now (s.shouldRetryUnknown opts (key tenantId a) now).1 ids).2 else
      (retry opts tenantId now (s.shouldRetryUnknown opts (key tenantId a) now).1 ids).2).Nodup
    split_ifs
    · exact List.nodup_cons.mpr ⟨fun h => ha (mem_of_mem_retry h), ih⟩
    · exact ih

end Batch

/-! ## A run -/

/-- What is remembered of an id is the last request on its account. -/
def Remembers (s : Sys) (h : List Obs) : Prop :=
  ∀ tenantId externalId last, s.unknown.get? (key tenantId externalId) = some last →
    (asked tenantId externalId h).getLast? = some last

theorem asked_append (t : Uuid) (id : String) (h o : List Obs) :
    asked t id (h ++ o) = o.foldl (note t id) (asked t id h) := List.foldl_append

theorem unknown_beginRefresh (s : Sys) : (beginRefresh s).unknown = s.unknown := by
  unfold beginRefresh
  cases s.refreshing <;> rfl

variable {opts : RegistryOptions} {s s' : Sys} {h o : List Obs} {a : Act}

/-- What a batch leaves behind, and what it asks for. -/
theorem step_ingestRaw {tenantId : Uuid} {externalIds : List String} {now : ℤ}
    (hs : (ingest opts).step s (.ingestRaw tenantId externalIds now) = some (s', o)) :
    s'.unknown = (retry opts tenantId now s (unknownIds s tenantId externalIds)).1.unknown ∧ ∀ t id,
      asked t id (h ++ o) = asked t id h ++
        if tenantId = t ∧ id ∈ (retry opts tenantId now s (unknownIds s tenantId externalIds)).2 then [now]
        else [] := by
  obtain ⟨rfl, rfl⟩ := Prod.mk.inj (Option.some.inj hs)
  constructor
  · split_ifs
    · rfl
    · exact unknown_beginRefresh _
  · intro t id
    rw [asked_append]
    exact foldl_note_requested (nodup_retry (nodup_unknownIds s tenantId externalIds)) t id _

/-- The other steps: the memory stays, and nothing is asked for; or all is forgotten. -/
theorem step_other (hs : (ingest opts).step s a = some (s', o)) (ha : ∀ t ids now, a ≠ .ingestRaw t ids now) :
    s'.unknown = s.unknown ∧ o = [] ∨ ∃ maps, s'.unknown = .empty ∧ o = [.completed maps] := by
  cases a with
  | ingestRaw t ids now => exact absurd rfl (ha t ids now)
  | timer =>
    obtain ⟨rfl, rfl⟩ := Prod.mk.inj (Option.some.inj hs)
    exact Or.inl ⟨unknown_beginRefresh s, rfl⟩
  | completes maps =>
    simp only [ingest, step] at hs
    split at hs
    · obtain ⟨rfl, rfl⟩ := Prod.mk.inj (Option.some.inj hs)
      exact Or.inr ⟨maps, rfl, rfl⟩
    · exact absurd hs (by simp)
  | fails =>
    simp only [ingest, step] at hs
    split at hs
    · obtain ⟨rfl, rfl⟩ := Prod.mk.inj (Option.some.inj hs)
      exact Or.inl ⟨rfl, rfl⟩
    · exact absurd hs (by simp)

theorem Remembers.step (hr : Remembers s h) (hs : (ingest opts).step s a = some (s', o)) : Remembers s' (h ++ o) := by
  intro t id last hlast
  by_cases ha : ∀ t ids now, a ≠ .ingestRaw t ids now
  · rcases step_other hs ha with ⟨hsame, rfl⟩ | ⟨maps, hempty, rfl⟩
    · rw [hsame] at hlast
      rw [List.append_nil]
      exact hr t id last hlast
    · rw [hempty] at hlast
      exact absurd hlast (by simp [OrderedMap.get?, OrderedMap.empty])
  · push Not at ha
    obtain ⟨tenantId, externalIds, now, rfl⟩ := ha
    obtain ⟨hunknown, hasked⟩ := step_ingestRaw (h := h) hs
    rw [hunknown, get?_retry] at hlast
    rw [hasked]
    split_ifs at hlast ⊢ with hmem
    · obtain rfl := Option.some.inj hlast
      exact List.getLast?_concat
    · rw [List.append_nil]
      exact hr t id last hlast

/-- The last request is the nearest. -/
theorem le_of_rationed (hretry : 0 ≤ opts.unknownRetryMs) (hP : Rationed opts h) {t : Uuid} {id : String} {last now : ℤ}
    (hlast : (asked t id h).getLast? = some last) (hnow : now ∈ asked t id h) : now ≤ last := by
  obtain ⟨front, hfront⟩ := List.getLast?_eq_some_iff.mp hlast
  have hpair := hP t id
  rw [hfront] at hpair hnow
  rcases List.mem_append.mp hnow with hold | hlatest
  · have hapart := (List.pairwise_append.mp hpair).2.2 now hold last (List.mem_singleton_self last)
    omega
  · rw [List.mem_singleton.mp hlatest]

/-- **An id at its turn** is asked for unless it is remembered and recent, or new and the memory is full. -/
theorem mem_asked_iff {tenantId : Uuid} {externalIds before after : List String} {id : String} {now : ℤ}
    (hturn : unknownIds s tenantId externalIds = before ++ id :: after) :
    id ∈ (retry opts tenantId now s (unknownIds s tenantId externalIds)).2 ↔
      (∀ last ∈ s.unknown.get? (key tenantId id), opts.unknownRetryMs ≤ now - last) ∧
        (s.unknown.get? (key tenantId id) ≠ none ∨
          (retry opts tenantId now s before).1.unknown.size < opts.unknownMax) := by
  have hnodup := nodup_unknownIds s tenantId externalIds
  rw [hturn] at hnodup ⊢
  have hnew : id ∉ before := fun h => (List.nodup_append.mp hnodup).2.2 id h id List.mem_cons_self rfl
  have hsame : (retry opts tenantId now s before).1.unknown.get? (key tenantId id) =
      s.unknown.get? (key tenantId id) := by
    rw [get?_retry, if_neg fun h => hnew (mem_of_mem_retry h.2)]
  rw [mem_retry_iff hnodup, should_iff, hsame]

/-- **One step** keeps the ration exactly when it is spared. -/
theorem rationed_step_iff (hretry : 0 ≤ opts.unknownRetryMs) (hr : Remembers s h) (hP : Rationed opts h)
    (hs : (ingest opts).step s a = some (s', o)) : Rationed opts (h ++ o) ↔ Spared opts s h a := by
  by_cases ha : ∀ t ids now, a ≠ .ingestRaw t ids now
  · have hspared : Spared opts s h a := by
      cases a with
      | ingestRaw t ids now => exact absurd rfl (ha t ids now)
      | timer => trivial
      | completes maps => trivial
      | fails => trivial
    refine iff_of_true ?_ hspared
    intro t id
    rcases step_other hs ha with ⟨-, rfl⟩ | ⟨maps, -, rfl⟩
    · rw [List.append_nil]
      exact hP t id
    · rw [asked_append]
      show List.Pairwise _ (if (maps.byExternalId.get? (key t id)).isSome then [] else asked t id h)
      split_ifs
      · exact List.Pairwise.nil
      · exact hP t id
  · push Not at ha
    obtain ⟨tenantId, externalIds, now, rfl⟩ := ha
    obtain ⟨-, hasked⟩ := step_ingestRaw (h := h) hs
    constructor
    · rintro hnext before id after hturn ⟨now', hnow', hrecent⟩
      by_contra hneither
      obtain ⟨hnone, hroom⟩ := not_or.mp hneither
      have hmem := (mem_asked_iff hturn).mpr ⟨fun last hlast => absurd hlast (by simp [not_not.mp hnone]),
        Or.inr (not_le.mp hroom)⟩
      have hpair := hnext tenantId id
      rw [hasked, if_pos ⟨rfl, hmem⟩] at hpair
      have hapart := (List.pairwise_append.mp hpair).2.2 now' hnow' now (List.mem_singleton_self now)
      omega
    · intro hspared t id
      rw [hasked]
      split_ifs with hmem
      · obtain ⟨rfl, hmem⟩ := hmem
        refine List.pairwise_append.mpr ⟨hP tenantId id, List.pairwise_singleton _ _, fun now' hnow' n hn => ?_⟩
        rw [List.mem_singleton.mp hn]
        by_contra hclose
        obtain ⟨before, after, hturn⟩ := List.append_of_mem (mem_of_mem_retry hmem)
        obtain ⟨hlasts, hworth⟩ := (mem_asked_iff hturn).mp hmem
        have hrecent : now - now' < opts.unknownRetryMs := not_le.mp hclose
        rcases hspared before id after hturn ⟨now', hnow', hrecent⟩ with hremembered | hfull
        · obtain ⟨last, hlast⟩ := Option.ne_none_iff_exists'.mp hremembered
          have hnearest := le_of_rationed hretry hP (hr tenantId id last hlast) hnow'
          have hlong := hlasts last hlast
          omega
        · rcases hworth with hremembered | hroom
          · obtain ⟨last, hlast⟩ := Option.ne_none_iff_exists'.mp hremembered
            have hnearest := le_of_rationed hretry hP (hr tenantId id last hlast) hnow'
            have hlong := hlasts last hlast
            omega
          · omega
      · rw [List.append_nil]
        exact hP t id

/-- A registry before its first refresh. -/
def Sys.init : Sys := ⟨.empty, .empty, none⟩

theorem remembers_init : Remembers Sys.init [] := by
  intro t id last hlast
  exact absurd hlast (by simp [Sys.init, OrderedMap.get?, OrderedMap.empty])

/-- **Refreshes on account of an unknown id.**  In every run, any two that are asked for out of band on account of an id
that the registry still does not know are `unknownRetryMs` apart in every state, exactly when every batch names only ids
that are remembered, or were not asked for of late, or find the memory full. -/
theorem rationed_iff (opts : RegistryOptions) (hretry : 0 ≤ opts.unknownRetryMs) (as : List Act) :
    (ingest opts).Along (fun _ h => Rationed opts h) Sys.init [] as ↔
      (ingest opts).Meets (Spared opts) Sys.init [] as := by
  refine along_iff_meets (I := Remembers) (fun hI hs => hI.step hs)
    (fun hI hP hs => rationed_step_iff hretry hI hP hs) ?_ remembers_init (fun _ _ => List.Pairwise.nil)
  intro s h a _ hnone
  cases a with
  | ingestRaw t ids now => exact absurd hnone (by simp [ingest, step])
  | timer => trivial
  | completes maps => trivial
  | fails => trivial

/-! ## One id, again and again -/

def defaults : RegistryOptions := ⟨5000, 500000, 10000, 30000⟩

/-- A batch names an id that no sensor has, and the refresh it asks for ends with what there is. -/
def asks (now : ℤ) : List Act := [.ingestRaw NIL_UUID ["AHU"] now, .completes .empty]

theorem rationed_iff_once :
    (ingest defaults).Along (fun _ h => Rationed defaults h) Sys.init [] (asks 0) ↔
      (ingest defaults).Meets (Spared defaults) Sys.init [] (asks 0) :=
  rationed_iff defaults (by decide) (asks 0)

/-- A second later the id has been forgotten, and is asked for again. -/
theorem asked_again : ∃ s h, (ingest defaults).exec Sys.init (asks 0 ++ asks 1000) = some (s, h) ∧
    asked NIL_UUID "AHU" h = [0, 1000] ∧ ¬ Rationed defaults h := by
  refine ⟨_, _, rfl, by decide +kernel, fun hrationed => ?_⟩
  have hpair := hrationed NIL_UUID "AHU"
  rw [show asked NIL_UUID "AHU" _ = [0, 1000] by decide +kernel] at hpair
  exact absurd hpair (by decide)

end DTwin.Ingest.SensorRegistry.Unknown
