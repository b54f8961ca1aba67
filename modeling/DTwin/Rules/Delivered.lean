import DTwin.Rules.Notify

/-!
# DTwin.Rules.Delivered — is a delivered notification done with?

`#markFailed` has no guard on the status, but it leaves `delivered_at` alone, so on a delivered row the
table's `CHECK` refuses it (`markFailed_keeps`).  What each statement can do to a row is said once
(`Keeps`); `Settled` is the invariant, and `delivered_final` the result over runs.
-/

namespace DTwin.Notify

open Table Rules Machine

/-! ## The statements -/

/-- Every row of `t'` has been in `t` and is still delivered if it was, or is new. -/
def Keeps (issued : List Uuid) (t t' : List Notification) : Prop :=
  ∀ r' ∈ t', (∃ r ∈ t, r.1.id = r'.1.id ∧ (r.1.status = .delivered → r'.1.status = .delivered)) ∨
    r'.1.id ∉ issued

theorem Keeps.refl (issued : List Uuid) (t : List Notification) : Keeps issued t t :=
  fun r hr => Or.inl ⟨r, hr, rfl, id⟩

theorem claim_keeps (issued : List Uuid) (cfg : Config) (alerts : List AlertRow) (tenantId : Uuid)
    (alertId : Option Uuid) (now : ℤ) (locked : List Uuid) (t : List Notification) :
    Keeps issued t (claim cfg alerts tenantId alertId now locked t).1 := by
  intro r' hr'
  rcases mem_updateWhere_cases hr' with ⟨r, hr, -, rfl⟩ | ⟨hr, -⟩
  · exact Or.inl ⟨r, hr, rfl, id⟩
  · exact Or.inl ⟨r', hr, rfl, fun hd => hd⟩

theorem claim_ids (cfg : Config) (alerts : List AlertRow) (tenantId : Uuid) (alertId : Option Uuid)
    (now : ℤ) (locked : List Uuid) (t : List Notification) :
    (claim cfg alerts tenantId alertId now locked t).1.map (·.1.id) = t.map (·.1.id) :=
  map_updateWhere (i := fun r : Notification => r.1.id) (f := claimedAtRow now) (fun _ => rfl) t

theorem markDelivered_keeps (issued : List Uuid) {tenantId id : Uuid} {now : ℤ}
    {t t' : List Notification} (h : markDelivered tenantId id now t = some t') :
    Keeps issued t t' := by
  intro r' hr'
  rcases mem_updateChecked_cases h hr' with ⟨r, hr, -, heq⟩ | ⟨hr, -⟩
  · exact Or.inl ⟨r, hr, by rw [heq]; rfl, fun _ => by rw [heq]; rfl⟩
  · exact Or.inl ⟨r', hr, rfl, fun hd => hd⟩

/-- **No delivered row is ever marked failed**: it would have `delivered_at` without the status. -/
theorem markFailed_keeps (issued : List Uuid) {tenantId id : Uuid} {error : String}
    {t t' : List Notification} (h : markFailed tenantId id error t = some t') :
    Keeps issued t t' := by
  intro r' hr'
  rcases mem_updateChecked_cases h hr' with ⟨r, hr, -, heq⟩ | ⟨hr, -⟩
  · refine Or.inl ⟨r, hr, by rw [heq]; rfl, fun hdelivered => ?_⟩
    have hstamped : r'.1.deliveredAt.isSome = true := by
      rw [heq]
      exact r.2.mp hdelivered
    exact r'.2.mpr hstamped
  · exact Or.inl ⟨r', hr, rfl, fun hd => hd⟩

theorem Mark.run_keeps (issued : List Uuid) {mark : Mark} {tenantId id : Uuid} {now : ℤ}
    {t t' : List Notification} (h : mark.run tenantId id now t = some t') : Keeps issued t t' := by
  cases mark with
  | delivered => exact markDelivered_keeps issued h
  | failed error => exact markFailed_keeps issued h

theorem Mark.run_ids {mark : Mark} {tenantId id : Uuid} {now : ℤ} {t t' : List Notification}
    (h : mark.run tenantId id now t = some t') : t'.map (·.1.id) = t.map (·.1.id) := by
  cases mark with
  | delivered => exact map_updateChecked (i := Columns.id) (f := deliveredColumns now) (fun _ => rfl) h
  | failed error => exact map_updateChecked (i := Columns.id) (f := failedColumns error) (fun _ => rfl) h

theorem mem_claimIds {cfg : Config} {alerts : List AlertRow} {tenantId : Uuid}
    {alertId : Option Uuid} {now : ℤ} {locked : List Uuid} {t : List Notification} {id : Uuid}
    (h : id ∈ claimIds cfg alerts tenantId alertId now locked t) :
    ∃ r ∈ t, r.1.id = id ∧ claimable cfg alerts tenantId alertId now locked r = true := by
  obtain ⟨r, hr, hrid⟩ := List.mem_map.mp h
  obtain ⟨hr, hclaimable⟩ :=
    List.mem_filter.mp ((List.perm_insertionSort _ _).subset (List.mem_of_mem_take hr))
  exact ⟨r, hr, hrid, hclaimable⟩

/-- `#claim` answers with rows that it selected. -/
theorem mem_claim {cfg : Config} {alerts : List AlertRow} {tenantId : Uuid} {alertId : Option Uuid} {now : ℤ}
    {locked : List Uuid} {t : List Notification} {id : Uuid}
    (h : id ∈ (claim cfg alerts tenantId alertId now locked t).2.map (·.id)) :
    id ∈ claimIds cfg alerts tenantId alertId now locked t := by
  obtain ⟨row, hrow, rfl⟩ := List.mem_map.mp h
  obtain ⟨r, hr, rfl⟩ := List.mem_map.mp hrow
  have hone := (List.mem_filter.mp hr).2
  simp only [isOneOf, Bool.and_eq_true, List.contains_iff_mem] at hone
  exact hone.2

/-- What `#claim` answers with was not delivered. -/
theorem claim_not_delivered {cfg : Config} {alerts : List AlertRow} {tenantId : Uuid}
    {alertId : Option Uuid} {now : ℤ} {locked : List Uuid} {t : List Notification} {id : Uuid}
    (hid : id ∈ (claim cfg alerts tenantId alertId now locked t).2.map (·.id)) :
    ∃ r ∈ t, r.1.id = id ∧ r.1.status ≠ .delivered := by
  obtain ⟨r, hr, hrid, hclaimable⟩ := mem_claimIds (mem_claim hid)
  refine ⟨r, hr, hrid, ?_⟩
  simp only [claimable, Bool.and_eq_true, bne_iff_ne] at hclaimable
  tauto

theorem recordTargets_ids (tenantId alertId : Uuid) (now : ℤ) :
    ∀ (targets : List (Uuid × NotifyTarget)) (t : List Notification),
      ((recordTargets tenantId alertId now targets t).map (·.1.id)).Sublist
        (t.map (·.1.id) ++ targets.map (·.1))
  | [], t => by simp [recordTargets]
  | (id, target) :: rest, t => by
    unfold recordTargets
    split_ifs
    · refine (recordTargets_ids tenantId alertId now rest t).trans ?_
      exact (List.Sublist.refl _).append (List.sublist_cons_self _ _)
    · have h := recordTargets_ids tenantId alertId now rest
        (t ++ [pendingRow id tenantId alertId target now])
      simpa [pendingRow] using h

theorem mem_recordTargets {tenantId alertId : Uuid} {now : ℤ} {r : Notification} :
    ∀ {targets : List (Uuid × NotifyTarget)} {t : List Notification},
      r ∈ recordTargets tenantId alertId now targets t → r ∈ t ∨ r.1.id ∈ targets.map (·.1)
  | [], _, hr => Or.inl hr
  | (id, target) :: rest, t, hr => by
    unfold recordTargets at hr
    rw [List.map_cons, List.mem_cons]
    split_ifs at hr
    · exact (mem_recordTargets hr).imp_right Or.inr
    · rcases mem_recordTargets hr with hr | hr
      · rcases List.mem_append.mp hr with hr | hr
        · exact Or.inl hr
        · rw [List.mem_singleton.mp hr]
          exact Or.inr (Or.inl rfl)
      · exact Or.inr (Or.inr hr)

/-! ## What a step can do -/

/-- What a step does to the table and shows. -/
inductive Effect (cfg : Config) (s s' : Sys) (o : List Obs) : Prop
  | sends (hn : s'.notifications = s.notifications) (hi : s'.issued = s.issued)
      (ho : ∀ x ∈ o, ∃ i id, x = .sent i id)
  | opens {id tenantId : Uuid} {key : Key} {targets : List (Uuid × NotifyTarget)} {now : ℤ}
      (hopen : s.openAlert id tenantId key targets now = some s') (ho : o = [])
  | deletes (id : Uuid) (hn : s'.notifications = s.notifications.filter (·.1.alertId != id))
      (hi : s'.issued = s.issued) (ho : o = [])
  | claims (tenantId : Uuid) (alertId : Option Uuid) (now : ℤ) (locked : List Uuid)
      (hn : s'.notifications = (claim cfg s.alerts tenantId alertId now locked s.notifications).1)
      (hi : s'.issued = s.issued)
      (ho : ∀ x ∈ o, ∃ i, x = .claimed i
        ((claim cfg s.alerts tenantId alertId now locked s.notifications).2.map (·.id)) now)
  | marks (i : ℕ) (row : ClaimedRow) (mark : Mark) (caught : Bool) (b : Batch) (now : ℤ)
      (lost : Option String) (heq : (s', o) = s.mark i row mark caught b now lost)

/-- What `openAlert` commits: the alert and its deliveries, under ids not issued before. -/
theorem openAlert_spec {s s' : Sys} {id tenantId : Uuid} {key : Key} {targets : List (Uuid × NotifyTarget)} {now : ℤ}
    (ho : s.openAlert id tenantId key targets now = some s') :
    (id :: targets.map (·.1)).Nodup ∧ (∀ x ∈ id :: targets.map (·.1), x ∉ s.issued) ∧
      ∃ alerts, s' = { s with
        alerts := alerts
        notifications := recordTargets tenantId id now targets s.notifications
        issued := s.issued ++ id :: targets.map (·.1) } := by
  unfold Sys.openAlert at ho
  dsimp only at ho
  split_ifs at ho with hfresh
  obtain ⟨alerts, -, rfl⟩ := Option.map_eq_some_iff.mp ho
  exact ⟨hfresh.1, hfresh.2, alerts, rfl⟩

theorem deliverOne_obs (cfg : Config) (i : ℕ) (row : ClaimedRow) (b : Batch) :
    ∀ x ∈ (cfg.deliverOne i row b).2, ∃ i id, x = .sent i id := by
  unfold Config.deliverOne
  split
  · simp
  · split_ifs <;> simp
  · simp

/-- **Inversion.** -/
theorem step_effect {cfg : Config} {s s' : Sys} {a : Act} {o : List Obs}
    (hstep : step cfg s a = some (s', o)) : Effect cfg s s' o := by
  cases a with
  | tick clock =>
    simp only [step] at hstep
    split_ifs at hstep
    cases hstep
    exact .sends rfl rfl (by simp)
  | openAlert id tenantId key targets now =>
    simp only [step] at hstep
    split_ifs at hstep
    obtain ⟨s₁, hopen, heq⟩ := Option.map_eq_some_iff.mp hstep
    cases heq
    exact .opens hopen rfl
  | acknowledge id =>
    cases hstep
    exact .sends rfl rfl (by simp)
  | resolve id =>
    cases hstep
    exact .sends rfl rfl (by simp)
  | deleteAlert id =>
    cases hstep
    exact .deletes id rfl rfl rfl
  | deliverForAlert i tenantId alertId =>
    simp only [step] at hstep
    split at hstep
    · split_ifs at hstep <;> cases hstep <;> exact .sends rfl rfl (by simp)
    · cases hstep
  | retryPending i tenants =>
    simp only [step] at hstep
    split at hstep
    · split at hstep <;> cases hstep <;> exact .sends rfl rfl (by simp)
    · cases hstep
  | claim i locked now lost =>
    simp only [step] at hstep
    split at hstep
    · rename_i tenantId alertId tenants _
      split_ifs at hstep <;> cases hstep
      · exact .claims tenantId alertId now locked rfl rfl (by simp)
      · exact .claims tenantId alertId now locked rfl rfl (by simp)
    · cases hstep
  | next i =>
    simp only [step] at hstep
    split at hstep
    · cases hstep
      exact .sends rfl rfl (by simp)
    · cases hstep
      exact .sends rfl rfl (by simp)
    · split_ifs at hstep <;> cases hstep
      · exact .sends rfl rfl (deliverOne_obs cfg i _ _)
      · exact .sends rfl rfl (by simp)
    · cases hstep
  | load i =>
    simp only [step] at hstep
    split at hstep
    · split_ifs at hstep <;> cases hstep
      · exact .sends rfl rfl (deliverOne_obs cfg i _ _)
      · exact .sends rfl rfl (by simp)
    · cases hstep
  | check i blocked =>
    simp only [step] at hstep
    split at hstep
    · split at hstep <;> cases hstep <;> exact .sends rfl rfl (by simp)
    · cases hstep
  | answer i reply =>
    simp only [step] at hstep
    split at hstep
    · obtain ⟨c, -, heq⟩ := Option.map_eq_some_iff.mp hstep
      cases heq
      exact .sends rfl rfl (by simp)
    · cases hstep
  | mark i now lost =>
    simp only [step] at hstep
    split at hstep
    · rename_i row mark caught b _
      split_ifs at hstep
      exact .marks i row mark caught b now lost (Option.some.inj hstep).symm
    · cases hstep
  | fail i message =>
    simp only [step] at hstep
    split at hstep <;> cases hstep <;> exact .sends rfl rfl (by simp)
  | crash i =>
    cases hstep
    exact .sends rfl rfl (by simp)

/-- What `Sys.mark` shows is a delivery. -/
theorem mark_obs (s : Sys) (i : ℕ) (row : ClaimedRow) (mark : Mark) (caught : Bool) (b : Batch)
    (now : ℤ) (lost : Option String) :
    ∀ x ∈ (s.mark i row mark caught b now lost).2, x = .delivered i row.id := by
  unfold Sys.mark
  split
  · simp
  · cases mark with
    | failed error => simp
    | delivered =>
      dsimp only
      split_ifs <;> simp

/-- Only a `#claim` shows claimed rows, and they were not delivered. -/
theorem claimed_not_delivered {cfg : Config} {s s' : Sys} {a : Act} {o : List Obs}
    (hstep : step cfg s a = some (s', o)) {j : ℕ} {ids : List Uuid} {now : ℤ}
    (hclaimed : .claimed j ids now ∈ o) {id : Uuid} (hid : id ∈ ids) :
    ∃ r ∈ s.notifications, r.1.id = id ∧ r.1.status ≠ .delivered := by
  cases step_effect hstep with
  | sends _ _ ho =>
    obtain ⟨i, id', heq⟩ := ho _ hclaimed
    cases heq
  | opens _ ho => exact absurd (ho ▸ hclaimed) List.not_mem_nil
  | deletes _ _ _ ho => exact absurd (ho ▸ hclaimed) List.not_mem_nil
  | claims tenantId alertId now' locked _ _ ho =>
    obtain ⟨i, heq⟩ := ho _ hclaimed
    cases heq
    exact claim_not_delivered hid
  | marks i row mark caught b now' lost heq =>
    have ho : o = (s.mark i row mark caught b now' lost).2 := congrArg Prod.snd heq
    cases mark_obs s i row mark caught b now' lost _ (ho ▸ hclaimed)

/-! ## The invariant -/

/-- The ids are a primary key the database has issued, and what has been set to delivered still is. -/
structure Settled (s : Sys) (h : List Obs) : Prop where
  ids : (s.notifications.map (·.1.id)).Nodup
  issued : ∀ r ∈ s.notifications, r.1.id ∈ s.issued
  delivered : ∀ i id, .delivered i id ∈ h → id ∈ s.issued ∧
    ∀ r ∈ s.notifications, r.1.id = id → r.1.status = .delivered

/-- A step that keeps the rows and shows no new delivery. -/
theorem Settled.keeps {s s' : Sys} {h o : List Obs} (hs : Settled s h)
    (hk : Keeps s.issued s.notifications s'.notifications)
    (hids : (s'.notifications.map (·.1.id)).Nodup)
    (hissued : ∀ r ∈ s'.notifications, r.1.id ∈ s'.issued) (hmono : s.issued ⊆ s'.issued)
    (ho : ∀ i id, .delivered i id ∉ o) : Settled s' (h ++ o) where
  ids := hids
  issued := hissued
  delivered := by
    intro i id hmem
    have hmem : .delivered i id ∈ h := (List.mem_append.mp hmem).resolve_right (ho i id)
    obtain ⟨hid, hall⟩ := hs.delivered i id hmem
    refine ⟨hmono hid, fun r' hr' hr'id => ?_⟩
    rcases hk r' hr' with ⟨r, hr, hrid, hstatus⟩ | hnew
    · exact hstatus (hall r hr (hrid.trans hr'id))
    · exact absurd (hr'id ▸ hid) hnew

/-- A statement that keeps the rows and their ids. -/
theorem Settled.update {s s' : Sys} {h o : List Obs} (hs : Settled s h)
    (hk : Keeps s.issued s.notifications s'.notifications)
    (hids : s'.notifications.map (·.1.id) = s.notifications.map (·.1.id))
    (hi : s'.issued = s.issued) (ho : ∀ i id, .delivered i id ∉ o) : Settled s' (h ++ o) := by
  refine hs.keeps hk (hids ▸ hs.ids) (fun r' hr' => ?_) (hi ▸ List.Subset.refl _) ho
  have hmem : r'.1.id ∈ s.notifications.map (·.1.id) := hids ▸ List.mem_map_of_mem hr'
  obtain ⟨r, hr, heq⟩ := List.mem_map.mp hmem
  rw [hi, ← heq]
  exact hs.issued r hr

/-- A step that leaves the table alone. -/
theorem Settled.same {s s' : Sys} {h o : List Obs} (hs : Settled s h)
    (hn : s'.notifications = s.notifications) (hi : s'.issued = s.issued)
    (ho : ∀ i id, .delivered i id ∉ o) : Settled s' (h ++ o) :=
  hs.update (hn ▸ Keeps.refl _ _) (by rw [hn]) hi ho

theorem Settled.openAlert {s s' : Sys} {h : List Obs} (hs : Settled s h) {id tenantId : Uuid}
    {key : Key} {targets : List (Uuid × NotifyTarget)} {now : ℤ}
    (ho : s.openAlert id tenantId key targets now = some s') : Settled s' (h ++ []) := by
  obtain ⟨hnodup, hfresh, alerts, rfl⟩ := openAlert_spec ho
  have hnew : ∀ x ∈ targets.map (·.1), x ∉ s.issued := fun x hx =>
    hfresh x (List.mem_cons_of_mem _ hx)
  refine hs.keeps ?_ ?_ ?_ (List.subset_append_left _ _) (by simp)
  · intro r' hr'
    rcases mem_recordTargets hr' with hr | hr
    · exact Or.inl ⟨r', hr, rfl, fun hd => hd⟩
    · exact Or.inr (hnew _ hr)
  · refine (List.nodup_append.mpr ⟨hs.ids, (List.nodup_cons.mp hnodup).2, ?_⟩).sublist
      (recordTargets_ids tenantId id now targets s.notifications)
    rintro x hx y hy rfl
    obtain ⟨r, hr, rfl⟩ := List.mem_map.mp hx
    exact hnew _ hy (hs.issued r hr)
  · intro r hr
    rcases mem_recordTargets hr with hr | hr
    · exact List.mem_append_left _ (hs.issued r hr)
    · exact List.mem_append_right _ (List.mem_cons_of_mem _ hr)

theorem Settled.mark {s : Sys} {h : List Obs} (hs : Settled s h) (i : ℕ) (row : ClaimedRow)
    (mark : Mark) (caught : Bool) (b : Batch) (now : ℤ) (lost : Option String) :
    Settled (s.mark i row mark caught b now lost).1 (h ++ (s.mark i row mark caught b now lost).2) := by
  unfold Sys.mark
  cases hrun : mark.run b.tenantId row.id now s.notifications with
  | none => exact hs.same rfl rfl (by simp)
  | some t =>
    have hupdate (o : List Obs) (ho : ∀ i id, .delivered i id ∉ o) :
        Settled { s with notifications := t } (h ++ o) :=
      hs.update (Mark.run_keeps s.issued hrun) (Mark.run_ids hrun) rfl ho
    have hquiet := hupdate [] (by simp)
    cases mark with
    | failed error => exact ⟨hquiet.ids, hquiet.issued, hquiet.delivered⟩
    | delivered =>
      cases hany : s.notifications.any fun r => isRow b.tenantId row.id r.1 with
      | false => exact ⟨hquiet.ids, hquiet.issued, hquiet.delivered⟩
      | true =>
        refine ⟨hquiet.ids, hquiet.issued, fun j id hmem => ?_⟩
        rcases List.mem_append.mp hmem with hmem | hmem
        · exact hquiet.delivered j id (List.mem_append_left _ hmem)
        · obtain ⟨-, rfl⟩ : j = i ∧ id = row.id := by simpa using hmem
          obtain ⟨r, hr, hrow⟩ := List.any_eq_true.mp hany
          have hrid : r.1.id = row.id := by
            simp only [isRow, Bool.and_eq_true, beq_iff_eq] at hrow
            exact hrow.2
          refine ⟨hrid ▸ hs.issued r hr, fun r' hr' hr'id => ?_⟩
          rcases mem_updateChecked_cases hrun hr' with ⟨r₀, -, -, heq⟩ | ⟨hold, hnot⟩
          · rw [heq]
            rfl
          · -- the primary key: no other row has this id
            obtain rfl : r = r' := eq_of_id_eq (i := fun r : Notification => r.1.id) hs.ids hr hold
              (hrid.trans hr'id.symm)
            rw [hrow] at hnot
            cases hnot

/-- **Step lemma.** -/
theorem Settled.step {cfg : Config} {s s' : Sys} {h : List Obs} {a : Act} {o : List Obs}
    (hs : Settled s h) (hstep : step cfg s a = some (s', o)) : Settled s' (h ++ o) := by
  cases step_effect hstep with
  | sends hn hi ho =>
    refine hs.same hn hi fun i id hmem => ?_
    obtain ⟨j, id', heq⟩ := ho _ hmem
    cases heq
  | opens hopen ho => exact ho ▸ hs.openAlert hopen
  | deletes id hn hi ho =>
    refine hs.keeps ?_ ?_ ?_ (hi ▸ List.Subset.refl _) (by simp [ho]) <;> rw [hn]
    · exact fun r hr => Or.inl ⟨r, List.mem_of_mem_filter hr, rfl, fun hd => hd⟩
    · exact hs.ids.sublist (List.filter_sublist.map _)
    · exact fun r hr => hi ▸ hs.issued r (List.mem_of_mem_filter hr)
  | claims tenantId alertId now locked hn hi ho =>
    have hk := claim_keeps s.issued cfg s.alerts tenantId alertId now locked s.notifications
    refine hs.update (hn ▸ hk) (hn ▸ claim_ids ..) hi fun i id hmem => ?_
    obtain ⟨j, heq⟩ := ho _ hmem
    cases heq
  | marks i row mark caught b now lost heq =>
    have hmark := hs.mark i row mark caught b now lost
    rwa [← heq] at hmark

theorem settled_init (clock : ℤ) (alerts : List AlertRow) {notifications : List Notification}
    (hn : (notifications.map (·.1.id)).Nodup) : Settled (.init clock alerts notifications) [] where
  ids := hn
  issued _ hr := List.mem_append_right _ (List.mem_map_of_mem hr)
  delivered _ _ hmem := absurd hmem List.not_mem_nil

/-- **Delivered is final.**  In every run, once a worker has set a row to delivered it stays delivered,
and no later `#claim` answers with it. -/
theorem delivered_final {cfg : Config} {clock : ℤ} {alerts : List AlertRow}
    {notifications : List Notification} (hn : (notifications.map (·.1.id)).Nodup) {s : Sys}
    {h : List Obs} (hr : (notifying cfg).Reaches (.init clock alerts notifications) s h) {i : ℕ}
    {id : Uuid} (hd : .delivered i id ∈ h) :
    (∀ r ∈ s.notifications, r.1.id = id → r.1.status = .delivered) ∧
      ∀ a s' o, (notifying cfg).step s a = some (s', o) → ∀ j ids now,
        .claimed j ids now ∈ o → id ∉ ids := by
  have hs : Settled s h := hr.hist (fun hs hstep => hs.step hstep) (settled_init clock alerts hn)
  have hall := (hs.delivered i id hd).2
  refine ⟨hall, fun a s' o hstep j ids now hclaimed hid => ?_⟩
  obtain ⟨r, hr, hrid, hnot⟩ := claimed_not_delivered hstep hclaimed hid
  exact hnot (hall r hr hrid)

/-- Three attempts, a minute's lease. -/
def shortLease : Config where
  enabled := true
  maxAttempts := 3
  leaseMs := 60000
  batch := 50
  smtpUrl := false
  emailFrom := false
  maxAttempts_pos := by decide
  leaseMs_pos := by decide
  batch_pos := by decide

def hook : NotifyTarget := ⟨.webhook, "https://example.test/hook"⟩

/-- Two workers send the same row, the first being slow: the second is answered 200, then the first 500,
and its `#markFailed` is refused twice. -/
def slowRun : List Act :=
  [.tick 200000, .deliverForAlert 0 1 7, .claim 0 [] 1000 false, .next 0, .check 0 none,
    .retryPending 1 [1], .claim 1 [] 100000 false, .next 1, .load 1, .check 1 none,
    .answer 1 (.status 200), .mark 1 100500 none, .answer 0 (.status 500), .mark 0 101000 none,
    .mark 0 101000 none]

def hookInit : Sys := .init 0 [⟨7, 1, (1, 1), .open⟩] [pendingRow 5 1 7 hook 0]

theorem slowRun_isSome : ((notifying shortLease).exec hookInit slowRun).isSome = true := by
  decide +kernel

theorem delivered_final_slowRun : ∃ s h, (notifying shortLease).Reaches hookInit s h ∧
    s.notifications.map (·.1.status) = [.delivered] := by
  let r := ((notifying shortLease).exec hookInit slowRun).get slowRun_isSome
  have hreach : (notifying shortLease).Reaches hookInit r.1 r.2 :=
    ⟨slowRun, (Option.some_get slowRun_isSome).symm⟩
  have hd : Obs.delivered 1 5 ∈ r.2 := by decide +kernel
  have hids : r.1.notifications.map (·.1.id) = [5] := by decide +kernel
  obtain ⟨row, hrow⟩ : ∃ row, r.1.notifications = [row] :=
    List.length_eq_one_iff.mp (by simpa using congrArg List.length hids)
  have hn : ([pendingRow 5 1 7 hook 0].map (·.1.id)).Nodup := List.nodup_singleton 5
  have hfinal := (delivered_final hn hreach hd).1 row (by simp [hrow])
  refine ⟨r.1, r.2, hreach, ?_⟩
  rw [hrow] at hids ⊢
  rw [List.map_singleton, hfinal (List.singleton_inj.mp hids)]

end DTwin.Notify
