import DTwin.Rules.Delivered

/-!
# DTwin.Rules.Attempts — how often is a notification sent, and by how many at once?

`#claim` tests `attempts` and stamps `claimed_at`; the count goes up only in `#markDelivered` and
`#markFailed`, after the send.  Two invariants over runs:

* `Leased`: every claim is later than the leases of the claims before it (`Leased.step`);
* `Rationed`: what is still to be sent has been started less than `ALERT_WEBHOOK_MAX_ATTEMPTS` times, kept
  by the steps that are `Counted`.

A worker that dies between the send and the mark leaves a send uncounted, and the row is sent again
(`attempts_exceeded`).
-/

namespace DTwin.Notify

open Table Rules Machine

/-! ## What is counted -/

/-- The rows a call has yet to send. -/
def Call.ahead : Call → List Uuid
  | .idle => []
  | .claiming .. => []
  | .looping b => b.todo.map (·.id)
  | .loading row b => row.id :: b.todo.map (·.id)
  | .checking row b => row.id :: b.todo.map (·.id)
  | .sending _ b => b.todo.map (·.id)
  | .marking _ _ _ b => b.todo.map (·.id)

def Obs.sends (id : Uuid) : Obs → Bool
  | .sent _ id' => id' == id
  | _ => false

/-- How many times a send has been started for a row. -/
def started (id : Uuid) (h : List Obs) : ℕ := h.countP (Obs.sends id)

@[simp] theorem started_nil (id : Uuid) : started id [] = 0 := rfl

@[simp] theorem started_append (id : Uuid) (h o : List Obs) :
    started id (h ++ o) = started id h + started id o := List.countP_append

@[simp] theorem started_sent (id id' : Uuid) (i : ℕ) :
    started id [.sent i id'] = if id' = id then 1 else 0 := by
  simp [started, Obs.sends, List.countP_cons]

@[simp] theorem started_claimed (id : Uuid) (i : ℕ) (ids : List Uuid) (now : ℤ) :
    started id [.claimed i ids now] = 0 := rfl

/-- A `#claim` has answered call `i` with this row, and its lease has not run out. -/
def Leases (cfg : Config) (s : Sys) (h : List Obs) (i : ℕ) (id : Uuid) : Prop :=
  ∃ ids now, .claimed i ids now ∈ h ∧ id ∈ ids ∧ s.clock ≤ now + cfg.leaseMs

/-- The step is no `#claim`, or every row it takes has its sends counted: those started for it are in
`attempts`, and no call still has it to send. -/
def Counted (cfg : Config) (s : Sys) (h : List Obs) : Act → Prop
  | .claim i locked now false => ∀ tenantId alertId tenants,
      s.calls i = .claiming tenantId alertId tenants → ∀ r ∈ s.notifications,
        r.1.id ∈ claimIds cfg s.alerts tenantId alertId now locked s.notifications →
          started r.1.id h ≤ r.1.attempts ∧ ∀ j, r.1.id ∉ (s.calls j).ahead
  | _ => True

/-! ## What a step does to the calls -/

/-- The claimed rows, by id. -/
def claimedIds (cfg : Config) (s : Sys) (tenantId : Uuid) (alertId : Option Uuid) (now : ℤ)
    (locked : List Uuid) : List Uuid :=
  (claim cfg s.alerts tenantId alertId now locked s.notifications).2.map (·.id)

inductive Hands (cfg : Config) (s : Sys) (a : Act) (s' : Sys) (o : List Obs) : Prop
  | keeps (hc : ∀ j, (s'.calls j).ahead.Sublist (s.calls j).ahead) (ho : ∀ id, started id o = 0)
      (hk : ∀ i ids now, .claimed i ids now ∉ o)
  | sends (i : ℕ) (id : Uuid) (hi : (s.calls i).ahead = id :: (s'.calls i).ahead)
      (hc : ∀ j, j ≠ i → s'.calls j = s.calls j) (ho : o = [.sent i id])
  | claims {i : ℕ} {locked : List Uuid} {now : ℤ} {tenantId : Uuid} {alertId : Option Uuid}
      {tenants : List Uuid} (ha : a = .claim i locked now false) (hnow : now ≤ s.clock)
      (hcall : s.calls i = .claiming tenantId alertId tenants)
      (hi : (s'.calls i).ahead = claimedIds cfg s tenantId alertId now locked)
      (hc : ∀ j, j ≠ i → s'.calls j = s.calls j) (hclock : s'.clock = s.clock)
      (hn : s'.notifications = (claim cfg s.alerts tenantId alertId now locked s.notifications).1)
      (ho : o = [.claimed i (claimedIds cfg s tenantId alertId now locked) now])

@[simp] theorem Sys.setCall_self (s : Sys) (i : ℕ) (c : Call) : (s.setCall i c).calls i = c :=
  Function.update_self ..

theorem Sys.setCall_other (s : Sys) {i j : ℕ} (hj : j ≠ i) (c : Call) :
    (s.setCall i c).calls j = s.calls j :=
  Function.update_of_ne hj ..

theorem Hands.of_setCall {cfg : Config} {s s' : Sys} {a : Act} {o : List Obs} {i : ℕ} {c : Call}
    (hs : s'.calls = Function.update s.calls i c) (hc : c.ahead.Sublist (s.calls i).ahead)
    (ho : ∀ id, started id o = 0) (hk : ∀ i ids now, .claimed i ids now ∉ o) :
    Hands cfg s a s' o := by
  refine .keeps (fun j => ?_) ho hk
  rw [hs]
  by_cases hj : j = i
  · subst hj
    rwa [Function.update_self]
  · rw [Function.update_of_ne hj]

/-- `#deliverOne` starts a send for its row, or leaves it to the check, or gives it up. -/
theorem Hands.of_deliverOne {cfg : Config} {s : Sys} {a : Act} {i : ℕ} {row : ClaimedRow} {b : Batch}
    (hi : (s.calls i).ahead = row.id :: b.todo.map (·.id)) :
    Hands cfg s a (s.setCall i (cfg.deliverOne i row b).1) (cfg.deliverOne i row b).2 := by
  have hsend (c : Call) (hc : c.ahead = b.todo.map (·.id)) :
      Hands cfg s a (s.setCall i c) [.sent i row.id] := by
    refine .sends i row.id ?_ (fun j hj => s.setCall_other hj c) rfl
    rw [hi, s.setCall_self, hc]
  have hdrop (c : Call) (hc : c.ahead = b.todo.map (·.id)) : Hands cfg s a (s.setCall i c) [] :=
    .of_setCall rfl (by rw [hc, hi]; exact List.sublist_cons_self ..) (fun _ => rfl) (by simp)
  unfold Config.deliverOne
  split
  · exact hsend _ rfl
  · split_ifs
    · exact hdrop _ rfl
    · exact hdrop _ rfl
    · exact hsend _ rfl
  · exact .of_setCall rfl (hi ▸ List.Sublist.refl _) (fun _ => rfl) (by simp)

theorem thrown_ahead (row : ClaimedRow) (caught : Bool) (message : String) (b : Batch) :
    (thrown row caught message b).ahead.Sublist (b.todo.map (·.id)) := by
  cases caught
  · exact List.nil_sublist _
  · exact List.Sublist.refl _

theorem answered_ahead {row : ClaimedRow} {reply : Reply} {b : Batch} {c : Call}
    (h : answered row reply b = some c) : c.ahead = b.todo.map (·.id) := by
  unfold answered at h
  split at h
  · cases h
    rfl
  · split_ifs at h <;> cases h <;> rfl
  · cases h
    rfl
  · cases h
    rfl
  · cases h

theorem Hands.of_mark (cfg : Config) {s : Sys} {a : Act} {i : ℕ} {row : ClaimedRow} {mark : Mark}
    {caught : Bool} {b : Batch} (hcall : s.calls i = .marking row mark caught b) (now : ℤ)
    (lost : Option String) :
    Hands cfg s a (s.mark i row mark caught b now lost).1 (s.mark i row mark caught b now lost).2 := by
  have hi : (s.calls i).ahead = b.todo.map (·.id) := by rw [hcall]; rfl
  have hobs := mark_obs s i row mark caught b now lost
  have hstarted (id : Uuid) : started id (s.mark i row mark caught b now lost).2 = 0 := by
    refine List.countP_eq_zero.mpr fun x hx => ?_
    rw [hobs x hx]
    simp [Obs.sends]
  have hclaimed (j : ℕ) (ids : List Uuid) (t : ℤ) :
      .claimed j ids t ∉ (s.mark i row mark caught b now lost).2 := fun hx => by cases hobs _ hx
  have hcalls : ∃ c, (s.mark i row mark caught b now lost).1.calls = Function.update s.calls i c ∧
      c.ahead.Sublist (b.todo.map (·.id)) := by
    unfold Sys.mark
    split
    · exact ⟨_, rfl, thrown_ahead ..⟩
    · cases lost with
      | none => exact ⟨_, rfl, List.Sublist.refl _⟩
      | some message => exact ⟨_, rfl, thrown_ahead ..⟩
  obtain ⟨c, hs, hc⟩ := hcalls
  exact .of_setCall hs (hi ▸ hc) hstarted hclaimed

/-- **Inversion**, for the calls. -/
theorem step_hands {cfg : Config} {s s' : Sys} {a : Act} {o : List Obs}
    (hstep : step cfg s a = some (s', o)) : Hands cfg s a s' o := by
  have hsame (hc : s'.calls = s.calls) (ho : o = []) : Hands cfg s a s' o := by
    subst ho
    exact .keeps (fun j => by rw [hc]) (fun _ => rfl) (by simp)
  have hset {i : ℕ} {c : Call} (hs : s' = s.setCall i c) (hc : c.ahead.Sublist (s.calls i).ahead)
      (ho : o = []) : Hands cfg s a s' o := by
    subst ho hs
    exact .of_setCall rfl hc (fun _ => rfl) (by simp)
  cases a with
  | tick clock =>
    simp only [step] at hstep
    split_ifs at hstep
    cases hstep
    exact hsame rfl rfl
  | openAlert id tenantId key targets now =>
    simp only [step] at hstep
    split_ifs at hstep
    obtain ⟨s₁, hopen, heq⟩ := Option.map_eq_some_iff.mp hstep
    cases heq
    obtain ⟨-, -, alerts, rfl⟩ := openAlert_spec hopen
    exact hsame rfl rfl
  | acknowledge id =>
    cases hstep
    exact hsame rfl rfl
  | resolve id =>
    cases hstep
    exact hsame rfl rfl
  | deleteAlert id =>
    cases hstep
    exact hsame rfl rfl
  | deliverForAlert i tenantId alertId =>
    simp only [step] at hstep
    split at hstep
    · split_ifs at hstep <;> cases hstep
      · exact hset rfl (List.nil_sublist _) rfl
      · exact hsame rfl rfl
    · cases hstep
  | retryPending i tenants =>
    simp only [step] at hstep
    split at hstep
    · split at hstep <;> cases hstep
      · exact hset rfl (List.nil_sublist _) rfl
      · exact hsame rfl rfl
    · cases hstep
  | claim i locked now lost =>
    simp only [step] at hstep
    split at hstep
    · rename_i tenantId alertId tenants hcall
      split_ifs at hstep with hnow hlost <;> cases hstep
      · exact .of_setCall rfl (List.nil_sublist _) (fun _ => rfl) (by simp)
      · obtain rfl : lost = false := by simpa using hlost
        exact .claims rfl hnow hcall (congrArg Call.ahead (s.setCall_self i _))
          (fun j hj => s.setCall_other hj _) rfl rfl rfl
    · cases hstep
  | next i =>
    simp only [step] at hstep
    split at hstep
    · cases hstep
      exact hset rfl (List.nil_sublist _) rfl
    · cases hstep
      exact hset rfl (List.nil_sublist _) rfl
    · rename_i tenantId known row todo tenants hcall
      have hi : (s.calls i).ahead = row.id :: todo.map (·.id) := by rw [hcall]; rfl
      split_ifs at hstep <;> cases hstep
      · exact .of_deliverOne hi
      · exact hset rfl (hi ▸ List.Sublist.refl _) rfl
    · cases hstep
  | load i =>
    simp only [step] at hstep
    split at hstep
    · rename_i row b hcall
      have hi : (s.calls i).ahead = row.id :: b.todo.map (·.id) := by rw [hcall]; rfl
      split_ifs at hstep <;> cases hstep
      · exact .of_deliverOne hi
      · exact hset rfl (hi ▸ List.sublist_cons_self ..) rfl
    · cases hstep
  | check i blocked =>
    simp only [step] at hstep
    split at hstep
    · rename_i row b hcall
      have hi : (s.calls i).ahead = row.id :: b.todo.map (·.id) := by rw [hcall]; rfl
      split at hstep <;> cases hstep
      · exact hset rfl (hi ▸ List.sublist_cons_self ..) rfl
      · exact .sends i row.id (by rw [hi, s.setCall_self]; rfl) (fun j hj => s.setCall_other hj _) rfl
    · cases hstep
  | answer i reply =>
    simp only [step] at hstep
    split at hstep
    · rename_i row b hcall
      have hi : (s.calls i).ahead = b.todo.map (·.id) := by rw [hcall]; rfl
      obtain ⟨c, hc, heq⟩ := Option.map_eq_some_iff.mp hstep
      cases heq
      exact hset rfl (by rw [hi, answered_ahead hc]) rfl
    · cases hstep
  | mark i now lost =>
    simp only [step] at hstep
    split at hstep
    · rename_i row mark caught b hcall
      split_ifs at hstep
      have heq := Option.some.inj hstep
      have hmark := Hands.of_mark cfg (a := .mark i now lost) hcall now lost
      rwa [heq] at hmark
    · cases hstep
  | fail i message =>
    simp only [step] at hstep
    split at hstep
    · cases hstep
      exact hset rfl (List.nil_sublist _) rfl
    · cases hstep
      exact hset rfl (List.nil_sublist _) rfl
    · cases hstep
      exact hset rfl (List.nil_sublist _) rfl
    · rename_i row _ caught b hcall
      cases hstep
      exact hset rfl (by rw [hcall]; exact thrown_ahead ..) rfl
    · cases hstep
  | crash i =>
    cases hstep
    exact hset rfl (List.nil_sublist _) rfl

theorem mark_clock (s : Sys) (i : ℕ) (row : ClaimedRow) (mark : Mark) (caught : Bool) (b : Batch)
    (now : ℤ) (lost : Option String) : (s.mark i row mark caught b now lost).1.clock = s.clock := by
  unfold Sys.mark
  split <;> rfl

theorem step_clock_le {cfg : Config} {s s' : Sys} {a : Act} {o : List Obs}
    (hstep : step cfg s a = some (s', o)) : s.clock ≤ s'.clock := by
  cases a with
  | tick clock =>
    simp only [step] at hstep
    split_ifs at hstep with hle
    cases hstep
    exact hle
  | openAlert id tenantId key targets now =>
    simp only [step] at hstep
    split_ifs at hstep
    obtain ⟨s₁, hopen, heq⟩ := Option.map_eq_some_iff.mp hstep
    cases heq
    obtain ⟨-, -, alerts, rfl⟩ := openAlert_spec hopen
    exact le_rfl
  | answer i reply =>
    simp only [step] at hstep
    split at hstep
    · obtain ⟨c, -, heq⟩ := Option.map_eq_some_iff.mp hstep
      cases heq
      exact le_rfl
    · cases hstep
  | mark i now lost =>
    simp only [step] at hstep
    split at hstep
    · rename_i row mark caught b _
      split_ifs at hstep
      have hclock := mark_clock s i row mark caught b now lost
      rw [Option.some.inj hstep] at hclock
      exact hclock.ge
    · cases hstep
  | _ =>
    simp only [step] at hstep
    repeat' split at hstep
    all_goals cases hstep
    all_goals exact le_rfl

/-! ## Leases -/

/-- Every row of `t'` has been in `t` and its `claimed_at` has not gone back, or is new. -/
def Stamps (issued : List Uuid) (t t' : List Notification) : Prop :=
  ∀ r' ∈ t', (∃ r ∈ t, r.1.id = r'.1.id ∧ ∀ x ∈ r.1.claimedAt, ∃ x' ∈ r'.1.claimedAt, x ≤ x') ∨
    r'.1.id ∉ issued

/-- A claimable row is under no lease. -/
theorem claimable_claimedAt {cfg : Config} {alerts : List AlertRow} {tenantId : Uuid}
    {alertId : Option Uuid} {now : ℤ} {locked : List Uuid} {r : Notification}
    (h : claimable cfg alerts tenantId alertId now locked r = true) :
    ∀ x ∈ r.1.claimedAt, x < now - cfg.leaseMs := by
  simp only [claimable, Bool.and_eq_true] at h
  have hall := h.1.2
  intro x hx
  rw [hx] at hall
  simpa using hall

theorem claimable_attempts {cfg : Config} {alerts : List AlertRow} {tenantId : Uuid}
    {alertId : Option Uuid} {now : ℤ} {locked : List Uuid} {r : Notification}
    (h : claimable cfg alerts tenantId alertId now locked r = true) :
    r.1.attempts < cfg.maxAttempts := by
  simp only [claimable, Bool.and_eq_true, decide_eq_true_eq] at h
  exact h.1.1.1.1.2

theorem mem_claimedIds {cfg : Config} {s : Sys} {tenantId : Uuid} {alertId : Option Uuid} {now : ℤ}
    {locked : List Uuid} {id : Uuid} (h : id ∈ claimedIds cfg s tenantId alertId now locked) :
    id ∈ claimIds cfg s.alerts tenantId alertId now locked s.notifications :=
  mem_claim h

theorem claimedIds_nodup {cfg : Config} {s : Sys} (hn : (s.notifications.map (·.1.id)).Nodup)
    (tenantId : Uuid) (alertId : Option Uuid) (now : ℤ) (locked : List Uuid) :
    (claimedIds cfg s tenantId alertId now locked).Nodup := by
  have hids := claim_ids cfg s.alerts tenantId alertId now locked s.notifications
  rw [← hids] at hn
  refine hn.sublist ?_
  rw [claimedIds, claim, List.map_map]
  exact List.filter_sublist.map _

/-- A row `#claim` stamps was under no lease. -/
theorem claim_stamps {cfg : Config} {alerts : List AlertRow} {tenantId : Uuid}
    {alertId : Option Uuid} {now : ℤ} {locked : List Uuid} {t : List Notification}
    (hn : (t.map (·.1.id)).Nodup) (issued : List Uuid) :
    Stamps issued t (claim cfg alerts tenantId alertId now locked t).1 := by
  intro r' hr'
  rcases mem_updateWhere_cases hr' with ⟨r, hr, hone, rfl⟩ | ⟨hr, -⟩
  · refine Or.inl ⟨r, hr, rfl, fun x hx => ⟨now, rfl, ?_⟩⟩
    simp only [isOneOf, Bool.and_eq_true, List.contains_iff_mem] at hone
    obtain ⟨r₀, hr₀, hid, hclaimable⟩ := mem_claimIds hone.2
    obtain rfl := eq_of_id_eq (i := fun r : Notification => r.1.id) hn hr₀ hr hid
    have hlt := claimable_claimedAt hclaimable x hx
    have hpos := cfg.leaseMs_pos
    omega
  · exact Or.inl ⟨r', hr, rfl, fun x hx => ⟨x, hx, le_rfl⟩⟩

theorem Mark.run_stamps {mark : Mark} {tenantId id : Uuid} {now : ℤ} {t t' : List Notification}
    (h : mark.run tenantId id now t = some t') (issued : List Uuid) : Stamps issued t t' := by
  have hkeep {f : Columns → Columns} (hf : ∀ c, (f c).claimedAt = c.claimedAt ∧ (f c).id = c.id)
      (h : updateChecked Columns.Check (isRow tenantId id) f t = some t') : Stamps issued t t' := by
    intro r' hr'
    rcases mem_updateChecked_cases h hr' with ⟨r, hr, -, heq⟩ | ⟨hr, -⟩
    · refine Or.inl ⟨r, hr, by rw [heq, (hf _).2], fun x hx => ⟨x, ?_, le_rfl⟩⟩
      rwa [heq, (hf _).1]
    · exact Or.inl ⟨r', hr, rfl, fun x hx => ⟨x, hx, le_rfl⟩⟩
  cases mark with
  | delivered => exact hkeep (f := deliveredColumns now) (fun _ => ⟨rfl, rfl⟩) h
  | failed error => exact hkeep (f := failedColumns error) (fun _ => ⟨rfl, rfl⟩) h

theorem step_stamps {cfg : Config} {s s' : Sys} {a : Act} {o : List Obs}
    (hn : (s.notifications.map (·.1.id)).Nodup) (hstep : step cfg s a = some (s', o)) :
    Stamps s.issued s.notifications s'.notifications := by
  have hsame (t : List Notification) (ht : t ⊆ s.notifications) : Stamps s.issued s.notifications t :=
    fun r hr => Or.inl ⟨r, ht hr, rfl, fun x hx => ⟨x, hx, le_rfl⟩⟩
  cases step_effect hstep with
  | sends hn' => exact hn' ▸ hsame _ (List.Subset.refl _)
  | opens hopen =>
    obtain ⟨-, hfresh, alerts, rfl⟩ := openAlert_spec hopen
    intro r' hr'
    rcases mem_recordTargets hr' with hr | hr
    · exact hsame _ (List.Subset.refl _) r' hr
    · exact Or.inr (hfresh _ (List.mem_cons_of_mem _ hr))
  | deletes id hn' => exact hn' ▸ hsame _ (List.filter_subset_self _)
  | claims tenantId alertId now locked hn' => exact hn' ▸ claim_stamps hn s.issued
  | marks i row mark caught b now lost heq =>
    have hs' : s' = (s.mark i row mark caught b now lost).1 := congrArg Prod.fst heq
    rw [hs']
    unfold Sys.mark
    split
    · exact hsame _ (List.Subset.refl _)
    · rename_i hrun
      exact Mark.run_stamps hrun s.issued

theorem step_issued {cfg : Config} {s s' : Sys} {a : Act} {o : List Obs}
    (hstep : step cfg s a = some (s', o)) : s.issued ⊆ s'.issued := by
  cases step_effect hstep with
  | sends _ hi => exact hi ▸ List.Subset.refl _
  | opens hopen =>
    obtain ⟨-, -, alerts, rfl⟩ := openAlert_spec hopen
    exact List.subset_append_left _ _
  | deletes _ _ hi => exact hi ▸ List.Subset.refl _
  | claims _ _ _ _ _ hi => exact hi ▸ List.Subset.refl _
  | marks i row mark caught b now lost heq =>
    have hs' : s' = (s.mark i row mark caught b now lost).1 := congrArg Prod.fst heq
    rw [hs']
    unfold Sys.mark
    split <;> exact List.Subset.refl _

/-- What has been claimed still bears the stamp, or a later one, and is leased to one call at most. -/
structure Leased (cfg : Config) (s : Sys) (h : List Obs) : Prop where
  stamped : ∀ i ids now id, .claimed i ids now ∈ h → id ∈ ids → id ∈ s.issued ∧
    ∀ r ∈ s.notifications, r.1.id = id → ∃ x ∈ r.1.claimedAt, now ≤ x
  alone : ∀ i j id, Leases cfg s h i id → Leases cfg s h j id → i = j

theorem Leased.step {cfg : Config} {s s' : Sys} {h : List Obs} {a : Act} {o : List Obs}
    (hs : Settled s h) (hl : Leased cfg s h) (hstep : step cfg s a = some (s', o)) :
    Leased cfg s' (h ++ o) := by
  have hclock := step_clock_le hstep
  have hold : ∀ i ids now id, .claimed i ids now ∈ h → id ∈ ids → id ∈ s'.issued ∧
      ∀ r ∈ s'.notifications, r.1.id = id → ∃ x ∈ r.1.claimedAt, now ≤ x := by
    intro i ids now id hmem hid
    obtain ⟨hissued, hall⟩ := hl.stamped i ids now id hmem hid
    refine ⟨step_issued hstep hissued, fun r' hr' hr'id => ?_⟩
    rcases step_stamps hs.ids hstep r' hr' with ⟨r, hr, hrid, hle⟩ | hnew
    · obtain ⟨x, hx, hnow⟩ := hall r hr (hrid.trans hr'id)
      obtain ⟨x', hx', hxx'⟩ := hle x hx
      exact ⟨x', hx', hnow.trans hxx'⟩
    · exact absurd (hr'id ▸ hissued) hnew
  have hleases {i : ℕ} {id : Uuid} (ho : ∀ i ids now, .claimed i ids now ∉ o)
      (hi : Leases cfg s' (h ++ o) i id) : Leases cfg s h i id := by
    obtain ⟨ids, now, hmem, hid, hle⟩ := hi
    exact ⟨ids, now, (List.mem_append.mp hmem).resolve_right (ho i ids now), hid, hclock.trans hle⟩
  have hquiet (ho : ∀ i ids now, .claimed i ids now ∉ o) : Leased cfg s' (h ++ o) :=
    ⟨fun i ids now id hmem hid => hold i ids now id
      ((List.mem_append.mp hmem).resolve_right (ho i ids now)) hid,
      fun i j id hi hj => hl.alone i j id (hleases ho hi) (hleases ho hj)⟩
  cases step_hands hstep with
  | keeps _ _ hk => exact hquiet hk
  | sends i id _ _ ho => exact hquiet (by simp [ho])
  | @claims i locked now tenantId alertId tenants _ hnow _ _ _ hclock' hn ho =>
    subst ho
    -- the rows it takes are under no lease any more
    have hfree {j : ℕ} {id : Uuid} (hid : id ∈ claimedIds cfg s tenantId alertId now locked)
        (hj : ∃ ids t, .claimed j ids t ∈ h ∧ id ∈ ids ∧ s'.clock ≤ t + cfg.leaseMs) : False := by
      obtain ⟨ids, t, hmem, hidj, hle⟩ := hj
      obtain ⟨r, hr, hrid, hclaimable⟩ := mem_claimIds (mem_claimedIds hid)
      obtain ⟨x, hx, htx⟩ := (hl.stamped j ids t id hmem hidj).2 r hr hrid
      have hlt := claimable_claimedAt hclaimable x hx
      omega
    have hmem_iff {j : ℕ} {ids : List Uuid} {t : ℤ} :
        .claimed j ids t ∈ h ++ [.claimed i (claimedIds cfg s tenantId alertId now locked) now] ↔
          .claimed j ids t ∈ h ∨
            (j = i ∧ ids = claimedIds cfg s tenantId alertId now locked ∧ t = now) := by
      simp
    constructor
    · intro j ids t id hmem hid
      rcases hmem_iff.mp hmem with hmem | ⟨rfl, rfl, rfl⟩
      · exact hold j ids t id hmem hid
      · obtain ⟨r, hr, hrid, -⟩ := mem_claimIds (mem_claimedIds hid)
        refine ⟨step_issued hstep (hrid ▸ hs.issued r hr), fun r' hr' hr'id => ?_⟩
        have hr'' := hn ▸ hr'
        rcases mem_updateWhere_cases hr'' with ⟨r₀, -, -, rfl⟩ | ⟨-, hnot⟩
        · exact ⟨t, rfl, le_rfl⟩
        · -- the row with this id is the one answered
          obtain ⟨row, hrow, hrowid⟩ := List.mem_map.mp hid
          obtain ⟨r₁, hr₁, rfl⟩ := List.mem_map.mp hrow
          obtain ⟨hr₁, hone⟩ := List.mem_filter.mp hr₁
          have hnodup := claim_ids cfg s.alerts tenantId alertId t locked s.notifications ▸ hs.ids
          obtain rfl := eq_of_id_eq (i := fun r : Notification => r.1.id) hnodup hr'' hr₁
            (hr'id.trans hrowid.symm)
          rw [hone] at hnot
          cases hnot
    · intro j k id hj hk
      obtain ⟨ids, t, hmem, hidj, hle⟩ := hj
      obtain ⟨ids', t', hmem', hidk, hle'⟩ := hk
      rcases hmem_iff.mp hmem with hold | ⟨rfl, rfl, rfl⟩
      · rcases hmem_iff.mp hmem' with hold' | ⟨rfl, rfl, rfl⟩
        · exact hl.alone j k id ⟨ids, t, hold, hidj, hclock.trans hle⟩
            ⟨ids', t', hold', hidk, hclock.trans hle'⟩
        · exact (hfree hidk ⟨ids, t, hold, hidj, hle⟩).elim
      · rcases hmem_iff.mp hmem' with hold' | ⟨rfl, -, -⟩
        · exact (hfree hidj ⟨ids', t', hold', hidk, hle'⟩).elim
        · rfl

/-! ## Attempts -/

/-- What a call has yet to send is its own, once, and has not been started as often as is allowed. -/
structure Rationed (cfg : Config) (s : Sys) (h : List Obs) : Prop where
  nodup : ∀ i, (s.calls i).ahead.Nodup
  alone : ∀ i j id, id ∈ (s.calls i).ahead → id ∈ (s.calls j).ahead → i = j
  owed : ∀ i id, id ∈ (s.calls i).ahead → started id h < cfg.maxAttempts
  bounded : ∀ id, started id h ≤ cfg.maxAttempts

theorem Rationed.step {cfg : Config} {s s' : Sys} {h : List Obs} {a : Act} {o : List Obs}
    (hs : Settled s h) (hr : Rationed cfg s h) (hC : Counted cfg s h a)
    (hstep : step cfg s a = some (s', o)) : Rationed cfg s' (h ++ o) := by
  cases step_hands hstep with
  | keeps hc ho _ =>
    have hcount (id : Uuid) : started id (h ++ o) = started id h := by
      rw [started_append, ho, Nat.add_zero]
    constructor
    · exact fun i => (hr.nodup i).sublist (hc i)
    · exact fun i j id hi hj => hr.alone i j id ((hc i).subset hi) ((hc j).subset hj)
    · exact fun i id hi => hcount id ▸ hr.owed i id ((hc i).subset hi)
    · exact fun id => hcount id ▸ hr.bounded id
  | sends i id hi hc ho =>
    subst ho
    have hsub (j : ℕ) : (s'.calls j).ahead.Sublist (s.calls j).ahead := by
      by_cases hj : j = i
      · subst hj
        exact hi ▸ List.sublist_cons_self ..
      · rw [hc j hj]
    have hmem : id ∈ (s.calls i).ahead := hi ▸ List.mem_cons_self
    -- it was only there, and only once
    have hgone (j : ℕ) : id ∉ (s'.calls j).ahead := by
      intro hj
      obtain rfl := hr.alone i j id hmem ((hsub j).subset hj)
      exact (List.nodup_cons.mp (hi ▸ hr.nodup i)).1 hj
    constructor
    · exact fun j => (hr.nodup j).sublist (hsub j)
    · exact fun j k x hj hk => hr.alone j k x ((hsub j).subset hj) ((hsub k).subset hk)
    · intro j x hx
      have hne : id ≠ x := fun heq => hgone j (heq ▸ hx)
      rw [started_append, started_sent, if_neg hne]
      exact hr.owed j x ((hsub j).subset hx)
    · intro x
      rw [started_append, started_sent]
      split_ifs with heq
      · exact heq ▸ hr.owed i id hmem
      · exact hr.bounded x
  | @claims i locked now tenantId alertId tenants ha hnow hcall hi hc _ _ ho =>
    subst ho ha
    have hcount (id : Uuid) (now : ℤ) (ids : List Uuid) :
        started id (h ++ [.claimed i ids now]) = started id h := by
      rw [started_append, started_claimed, Nat.add_zero]
    have hnew {id : Uuid} (hid : id ∈ (s'.calls i).ahead) :
        started id h < cfg.maxAttempts ∧ ∀ j, id ∉ (s.calls j).ahead := by
      rw [hi] at hid
      have hid := mem_claimedIds hid
      obtain ⟨r, hmem, rfl, hclaimable⟩ := mem_claimIds hid
      obtain ⟨hle, hfree⟩ := hC tenantId alertId tenants hcall r hmem hid
      exact ⟨lt_of_le_of_lt hle (claimable_attempts hclaimable), hfree⟩
    have hcases (j : ℕ) : j = i ∨ s'.calls j = s.calls j := (em (j = i)).imp_right (hc j)
    constructor
    · intro j
      rcases hcases j with rfl | hj
      · rw [hi]
        exact claimedIds_nodup hs.ids ..
      · exact hj ▸ hr.nodup j
    · intro j k id hj hk
      rcases hcases j with rfl | hj'
      · rcases hcases k with rfl | hk'
        · rfl
        · exact ((hnew hj).2 k (hk' ▸ hk)).elim
      · rcases hcases k with rfl | hk'
        · exact ((hnew hk).2 j (hj' ▸ hj)).elim
        · exact hr.alone j k id (hj' ▸ hj) (hk' ▸ hk)
    · intro j id hj
      rw [hcount]
      rcases hcases j with rfl | hj'
      · exact (hnew hj).1
      · exact hr.owed j id (hj' ▸ hj)
    · exact fun id => hcount id now _ ▸ hr.bounded id

/-! ## Runs -/

theorem leased_init (cfg : Config) (clock : ℤ) (alerts : List AlertRow)
    (notifications : List Notification) : Leased cfg (.init clock alerts notifications) [] where
  stamped _ _ _ _ hmem := absurd hmem List.not_mem_nil
  alone := by
    rintro i j id ⟨ids, now, hmem, -⟩
    exact absurd hmem List.not_mem_nil

theorem rationed_init (cfg : Config) (clock : ℤ) (alerts : List AlertRow)
    (notifications : List Notification) : Rationed cfg (.init clock alerts notifications) [] where
  nodup _ := List.nodup_nil
  alone _ _ _ hi := absurd hi List.not_mem_nil
  owed _ _ hi := absurd hi List.not_mem_nil
  bounded _ := Nat.zero_le _

/-- **Bounded attempts.**  In every run a row is under at most one call's unexpired lease; and all along a
run whose claims take only rows with their sends counted, no row is sent more than
`ALERT_WEBHOOK_MAX_ATTEMPTS` times. -/
theorem attempts_bounded {cfg : Config} {clock : ℤ} {alerts : List AlertRow}
    {notifications : List Notification} (hn : (notifications.map (·.1.id)).Nodup) :
    (∀ {s h}, (notifying cfg).Reaches (.init clock alerts notifications) s h →
      ∀ i j id, Leases cfg s h i id → Leases cfg s h j id → i = j) ∧
    ∀ {as}, (notifying cfg).Meets (Counted cfg) (.init clock alerts notifications) [] as →
      (notifying cfg).Along (fun _ h => ∀ id, started id h ≤ cfg.maxAttempts)
        (.init clock alerts notifications) [] as := by
  have hinit := settled_init clock alerts hn
  constructor
  · intro s h hr
    have hI : Settled s h ∧ Leased cfg s h :=
      hr.hist (I := fun s h => Settled s h ∧ Leased cfg s h)
        (fun hI hstep => ⟨hI.1.step hstep, hI.2.step hI.1 hstep⟩)
        ⟨hinit, leased_init cfg clock alerts notifications⟩
    exact hI.2.alone
  · intro as hC
    exact along_of_meets (I := fun s h => Settled s h ∧ Rationed cfg s h)
      (fun hI hC hstep => ⟨hI.1.step hstep, hI.2.step hI.1 hC hstep⟩) (fun hI => hI.2.bounded)
      ⟨hinit, rationed_init cfg clock alerts notifications⟩ hC

/-- The first delivery of the row: a send, answered 500 and marked. -/
def refusedSend : List Act := [.next 0, .check 0 none, .answer 0 (.status 500), .mark 0 100000 none]

theorem attempts_bounded_refusedSend :
    (notifying shortLease).Along (fun _ h => ∀ id, started id h ≤ 3) hookInit []
      ([.tick 100000, .deliverForAlert 0 1 7] ++ .claim 0 [] 100000 false :: refusedSend) := by
  have hn : ([pendingRow 5 1 7 hook 0].map (·.1.id)).Nodup := List.nodup_singleton 5
  refine (attempts_bounded hn).2 (Meets.append ?_ fun s o he => ?_)
  · exact ⟨trivial, fun _ _ _ => ⟨trivial, fun _ _ _ => trivial⟩⟩
  · obtain ⟨rfl, rfl⟩ := Prod.mk.inj (Option.some.inj he)
    refine ⟨fun tenantId alertId tenants _ r _ _ => ⟨Nat.zero_le _, fun j => ?_⟩, fun s o _ =>
      meets_of_forall fun a ha => ?_⟩
    · by_cases hj : j = 0
      · subst hj
        exact List.not_mem_nil
      · rw [Sys.setCall_other _ hj]
        exact List.not_mem_nil
    · simp only [refusedSend, List.mem_cons, List.not_mem_nil, or_false] at ha
      rcases ha with rfl | rfl | rfl | rfl <;> exact fun _ _ => trivial

/-- A worker takes the row, starts the send and dies; the lease runs out before the next one. -/
def dyingWorker (i : ℕ) (now : ℤ) : List Act :=
  [.tick now, .deliverForAlert i 1 7, .claim i [] now false, .next i, .check i none, .crash i]

def dyingRun : List Act :=
  dyingWorker 0 100000 ++ dyingWorker 1 200000 ++ dyingWorker 2 300000 ++ dyingWorker 3 400000

theorem dyingRun_isSome : ((notifying shortLease).exec hookInit dyingRun).isSome = true := by
  decide +kernel

/-- Four sends of one row, of which three are allowed and none is counted. -/
theorem attempts_exceeded :
    ∃ s h, (notifying shortLease).Reaches hookInit s h ∧ shortLease.maxAttempts < started 5 h := by
  let r := ((notifying shortLease).exec hookInit dyingRun).get dyingRun_isSome
  have hsent : started 5 r.2 = 4 := by decide +kernel
  exact ⟨r.1, r.2, ⟨dyingRun, (Option.some_get dyingRun_isSome).symm⟩, by rw [hsent]; decide⟩

end DTwin.Notify
