import DTwin.Control.Lifecycle

/-!
# DTwin.Control.Dispatch — overrides and custody over whole runs

Invariants of the machine `control`, over any interleaving of calls.  `Took` is the inversion of the step, and
`Took.commands` says what a step does to the table and reports as settled; `Custody` says who holds which command: a
claimed command is in the hands of one call, or has been returned by one, and is not pending while it is.  From these
`override_safety`: one override in force and one live command per zone, every command returned and settled at most
once, and no command leaves a settled state.
-/

namespace DTwin.Control

open Table Machine

/-! ## What a step does -/

def settledIds (h : List Obs) : List Uuid :=
  h.filterMap fun | .settled id => some id | _ => none

def reportedIds (h : List Obs) : List Uuid :=
  h.filterMap fun | .reported id _ => some id | _ => none

def returnedIds (h : List Obs) : List Uuid :=
  h.flatMap fun | .returned _ ids _ => ids | _ => []

@[simp] theorem returnedIds_nil : returnedIds [] = [] := rfl

@[simp] theorem returnedIds_ran (tenantId : Uuid) (now : ℤ) (o : List Obs) :
    returnedIds (.ran tenantId now :: o) = returnedIds o := rfl

@[simp] theorem returnedIds_returned (i : ℕ) (ids : List Uuid) (n : ℕ) :
    returnedIds [.returned i ids n] = ids := List.append_nil ids

@[simp] theorem settledIds_append (h o : List Obs) :
    settledIds (h ++ o) = settledIds h ++ settledIds o := List.filterMap_append ..

@[simp] theorem reportedIds_append (h o : List Obs) :
    reportedIds (h ++ o) = reportedIds h ++ reportedIds o := List.filterMap_append ..

@[simp] theorem returnedIds_append (h o : List Obs) :
    returnedIds (h ++ o) = returnedIds h ++ returnedIds o := List.flatMap_append ..

@[simp] theorem settledIds_settledObs (p : Command → Bool) (t : List Command) :
    settledIds (settledObs p t) = (t.filter p).map (·.id) := by
  simp [settledIds, settledObs, List.filterMap_map]

@[simp] theorem reportedIds_settledObs (p : Command → Bool) (t : List Command) :
    reportedIds (settledObs p t) = [] := by
  simp [reportedIds, settledObs, List.filterMap_map]

@[simp] theorem returnedIds_settledObs (p : Command → Bool) (t : List Command) :
    returnedIds (settledObs p t) = [] := by
  simp [returnedIds, settledObs, List.flatMap_map]

/-- Every way a step can go: the inversion of `step`. -/
inductive Took (s : Sys) : Act → Sys → List Obs → Prop
  | ticked {clock : ℤ} (h : s.clock ≤ clock) : Took s (.tick clock) { s with clock := clock } []
  | edited {world : World} : Took s (.edit world) { s with world := world } []
  | notInserted {input : NewCommand} {id : Uuid} {now : ℤ} {o : List Obs}
      (hno : ∀ c, insertCommand s.world input id now s.commands ≠ .ok (some c))
      (ho : o = [] ∨ ∃ e, o = [.failed e]) : Took s (.insert input id now) s o
  | inserted {input : NewCommand} {id : Uuid} {now : ℤ} {c : Command} (hnow : now ≤ s.clock)
      (h : insertCommand s.world input id now s.commands = .ok (some c)) :
      Took s (.insert input id now) { s with commands := s.commands ++ [c] } []
  | started {i : ℕ} {tenantId : Uuid} {gateway : String} {limit : ℕ} {now : ℤ}
      (hcall : s.calls i = .idle) (hnow : now ≤ s.clock) :
      Took s (.start i tenantId gateway limit now)
        { s.setCall i (.expired tenantId gateway limit) with
          commands := expireStale tenantId now s.commands }
        (.ran tenantId now :: settledObs (staleAt tenantId now) s.commands)
  | switchedOn {i : ℕ} {tenantId : Uuid} {gateway : String} {limit : ℕ}
      (hcall : s.calls i = .expired tenantId gateway limit) :
      Took s (.readSettings i)
        (s.setCall i (.enabled tenantId gateway limit (s.world.getSettings tenantId))) []
  | switchedOff {i : ℕ} {tenantId : Uuid} {gateway : String} {limit : ℕ}
      (hcall : s.calls i = .expired tenantId gateway limit) :
      Took s (.readSettings i) (s.setCall i .idle) [.returned i [] 0]
  | claimed {i : ℕ} {locked : List Uuid} {now : ℤ} {tenantId : Uuid} {gateway : String} {limit : ℕ}
      {settings : ControlSettings} (hcall : s.calls i = .enabled tenantId gateway limit settings) :
      Took s (.claim i locked now)
        { s.setCall i (.looping ⟨tenantId, settings,
            (claimCommands tenantId gateway limit now locked s.commands).2, [], 0⟩) with
          commands := (claimCommands tenantId gateway limit now locked s.commands).1 } []
  | allowed {i : ℕ} {appNow now : ℤ} {l : Loop} {command : Command} {todo : List Command}
      (hcall : s.calls i = .looping l) (htodo : l.todo = command :: todo) :
      Took s (.judge i appNow now)
        (s.setCall i (.looping { l with todo := todo, out := l.out ++ [command] })) []
  | withheld {i : ℕ} {appNow now : ℤ} {l : Loop} {command : Command} {todo : List Command}
      {detail : String} (hcall : s.calls i = .looping l) (htodo : l.todo = command :: todo) :
      Took s (.judge i appNow now)
        (s.setCall i (.releasing command detail
          { l with todo := todo, withheld := l.withheld + 1 })) []
  | released {i : ℕ} {command : Command} {detail : String} {l : Loop}
      (hcall : s.calls i = .releasing command detail l) :
      Took s (.release i)
        { s.setCall i (.looping l) with
          commands := releaseCommand l.tenantId command.id detail s.commands } []
  | handed {i : ℕ} {l : Loop} (hcall : s.calls i = .looping l) (htodo : l.todo = []) :
      Took s (.hand i) (s.setCall i .idle) [.returned i (l.out.map (·.id)) l.withheld]
  | crashed {i : ℕ} : Took s (.crash i) (s.setCall i .idle) []
  | reported {tenantId id : Uuid} {outcome : Outcome} {detail : Option String} {now : ℤ}
      (hnow : now ≤ s.clock) :
      Took s (.report tenantId id outcome detail now)
        { s with commands := (settleCommand tenantId id outcome detail now s.commands).1 }
        (settledObs (isRow tenantId id .dispatched) s.commands ++
          if (settleCommand tenantId id outcome detail now s.commands).2.isSome
          then [.reported id outcome] else [])
  | cancelled {tenantId id : Uuid} {now : ℤ} :
      Took s (.cancel tenantId id now)
        { s with commands := (cancelCommand tenantId id now s.commands).1 }
        (settledObs (cancellable tenantId id) s.commands)

theorem step_took {s s' : Sys} {a : Act} {o : List Obs} (h : step s a = some (s', o)) :
    Took s a s' o := by
  cases a with
  | tick clock =>
    simp only [step, Option.ite_none_right_eq_some, Option.some.injEq, Prod.mk.injEq] at h
    obtain ⟨hle, rfl, rfl⟩ := h
    exact .ticked hle
  | edit world =>
    cases h
    exact .edited
  | insert input id now =>
    simp only [step, Option.ite_none_right_eq_some] at h
    obtain ⟨hnow, h⟩ := h
    split at h
    · rename_i hins
      cases h
      exact .notInserted (by simp [hins]) (Or.inr ⟨_, rfl⟩)
    · rename_i hins
      cases h
      exact .notInserted (by simp [hins]) (Or.inl rfl)
    · cases h
      exact .inserted hnow ‹_›
  | start i tenantId gateway limit now =>
    simp only [step] at h
    split at h
    · simp only [Option.ite_none_right_eq_some, Option.some.injEq, Prod.mk.injEq] at h
      obtain ⟨hnow, rfl, rfl⟩ := h
      exact .started ‹_› hnow
    · cases h
  | readSettings i =>
    simp only [step] at h
    split at h
    · split at h
      · cases h
        exact .switchedOn ‹_›
      · cases h
        exact .switchedOff ‹_›
    · cases h
  | claim i locked now =>
    simp only [step] at h
    split at h
    · simp only [Option.ite_none_right_eq_some, Option.some.injEq, Prod.mk.injEq] at h
      obtain ⟨-, rfl, rfl⟩ := h
      exact .claimed ‹_›
    · cases h
  | judge i appNow now =>
    simp only [step] at h
    split at h
    · simp only [Option.ite_none_right_eq_some] at h
      obtain ⟨-, h⟩ := h
      split at h
      · cases h
        exact .allowed ‹_› rfl
      · cases h
        exact .withheld ‹_› rfl
    · cases h
  | release i =>
    simp only [step] at h
    split at h
    · cases h
      exact .released ‹_›
    · cases h
  | hand i =>
    simp only [step] at h
    split at h
    · cases h
      exact .handed ‹_› rfl
    · cases h
  | crash i =>
    cases h
    exact .crashed
  | report tenantId id outcome detail now =>
    simp only [step, Option.ite_none_right_eq_some, Option.some.injEq, Prod.mk.injEq] at h
    obtain ⟨hnow, rfl, rfl⟩ := h
    exact .reported hnow
  | cancel tenantId id now =>
    simp only [step, Option.ite_none_right_eq_some, Option.some.injEq, Prod.mk.injEq] at h
    obtain ⟨-, rfl, rfl⟩ := h
    exact .cancelled

/-- A step leaves the table alone, or is one of the six statements; what it reports as settled is
what the statement retires. -/
theorem Took.commands {s s' : Sys} {a : Act} {o : List Obs} (h : Took s a s' o) :
    (s'.commands = s.commands ∧ settledIds o = []) ∨
      ∃ st : Statement, st.Allowed s.world s.clock s.commands ∧ s'.commands = st.run s.commands ∧
        settledIds o = (s.commands.filter st.retires).map (·.id) := by
  have none_retired : [] = (s.commands.filter fun _ => false).map (·.id) := by simp
  cases h with
  | notInserted hno ho => rcases ho with rfl | ⟨e, rfl⟩ <;> exact Or.inl ⟨rfl, rfl⟩
  | @inserted input id now c hnow h => exact Or.inr ⟨.insert input id now c, h, rfl, none_retired⟩
  | @started i tenantId gateway limit now hcall hnow =>
    exact Or.inr ⟨.expire tenantId now, trivial, rfl, settledIds_settledObs _ _⟩
  | @claimed i locked now tenantId gateway limit settings hcall =>
    exact Or.inr ⟨.claim tenantId gateway limit now locked, trivial, rfl, none_retired⟩
  | @released i command detail l hcall =>
    exact Or.inr ⟨.release l.tenantId command.id detail, trivial, rfl, none_retired⟩
  | @reported tenantId id outcome detail now hnow =>
    refine Or.inr ⟨.settle tenantId id outcome detail now, hnow, rfl, ?_⟩
    rw [settledIds_append, settledIds_settledObs]
    split_ifs <;> simp [settledIds, Statement.retires]
  | @cancelled tenantId id now =>
    exact Or.inr ⟨.cancel tenantId id now, trivial, rfl, settledIds_settledObs _ _⟩
  | _ => exact Or.inl ⟨rfl, rfl⟩

/-! ## Custody -/

/-- Who holds what: call `i` holds what it has claimed, and `none` stands for the gateways, which
hold what has been returned to them. -/
def Sys.holder (s : Sys) (h : List Obs) : Option ℕ → List Uuid
  | none => returnedIds h
  | some i => (s.calls i).held

/-- Every command has at most one holder, and one that is held is not pending. -/
structure Custody (s : Sys) (h : List Obs) : Prop where
  nodup : ∀ k, (s.holder h k).Nodup
  disjoint : ∀ k k', k ≠ k' → (s.holder h k).Disjoint (s.holder h k')
  taken : ∀ k, ∀ x ∈ s.holder h k, Taken s.commands x

theorem Custody.init (clock : ℤ) (w : World) : Custody (.init clock w) [] := by
  refine ⟨?_, ?_, ?_⟩ <;> rintro (_ | i) <;> simp [Sys.holder, Sys.init, Call.held, returnedIds]

/-- A step of no call that takes nothing out of anyone's hands. -/
theorem Custody.same {s s' : Sys} {h o : List Obs} (hc : Custody s h) (hcalls : s'.calls = s.calls)
    (ho : returnedIds o = []) (hkeep : ∀ x, Taken s.commands x → Taken s'.commands x) :
    Custody s' (h ++ o) := by
  have hh : s'.holder (h ++ o) = s.holder h := by
    funext k
    cases k <;> simp [Sys.holder, hcalls, ho]
  refine ⟨?_, ?_, ?_⟩ <;> rw [hh]
  · exact hc.nodup
  · exact hc.disjoint
  · exact fun k x hx => hkeep x (hc.taken k x hx)

/-- A step of call `i`, which keeps or returns only what it held or what nobody held. -/
theorem Custody.move {s s' : Sys} {h o : List Obs} (hc : Custody s h) {i : ℕ} (call : Call)
    (hcalls : s'.calls = Function.update s.calls i call)
    (hnd : (call.held ++ returnedIds o).Nodup)
    (hfrom : ∀ x ∈ call.held ++ returnedIds o, x ∈ (s.calls i).held ∨ ¬ Taken s.commands x)
    (htaken : ∀ x ∈ call.held ++ returnedIds o, Taken s'.commands x)
    (hkeep : ∀ x, x ∉ (s.calls i).held → Taken s.commands x → Taken s'.commands x) :
    Custody s' (h ++ o) := by
  -- nobody else holds what the call keeps or returns
  have alien : ∀ x ∈ call.held ++ returnedIds o, ∀ k, k ≠ some i → x ∉ s.holder h k := by
    intro x hx k hk hxk
    rcases hfrom x hx with hi | hnt
    · exact hc.disjoint (some i) k hk.symm hi hxk
    · exact hnt (hc.taken k x hxk)
  have after : ∀ k x, x ∈ s'.holder (h ++ o) k → (k ≠ some i ∧ x ∈ s.holder h k) ∨
      (k = some i ∧ x ∈ call.held) ∨ (k = none ∧ x ∈ returnedIds o) := by
    rintro (_ | j) x hx
    · rw [Sys.holder, returnedIds_append, List.mem_append] at hx
      exact hx.elim (fun hx => Or.inl ⟨nofun, hx⟩) fun hx => Or.inr (Or.inr ⟨rfl, hx⟩)
    · rw [Sys.holder, hcalls] at hx
      by_cases hj : j = i
      · subst hj
        rw [Function.update_self] at hx
        exact Or.inr (Or.inl ⟨rfl, hx⟩)
      · rw [Function.update_of_ne hj] at hx
        exact Or.inl ⟨by simpa using hj, hx⟩
  have hout := List.nodup_append.mp hnd
  refine ⟨?_, ?_, ?_⟩
  · rintro (_ | j)
    · rw [Sys.holder, returnedIds_append, List.nodup_append]
      refine ⟨hc.nodup none, hout.2.1, ?_⟩
      rintro x hx _ hy rfl
      exact alien x (List.mem_append_right _ hy) none nofun hx
    · rw [Sys.holder, hcalls]
      by_cases hj : j = i
      · subst hj
        rw [Function.update_self]
        exact hout.1
      · rw [Function.update_of_ne hj]
        exact hc.nodup (some j)
  · intro k k' hkk x hx hx'
    rcases after k x hx with ⟨hk, h₁⟩ | ⟨rfl, h₁⟩ | ⟨rfl, h₁⟩ <;>
      rcases after k' x hx' with ⟨hk', h₂⟩ | ⟨rfl, h₂⟩ | ⟨rfl, h₂⟩
    · exact hc.disjoint k k' hkk h₁ h₂
    · exact alien x (List.mem_append_left _ h₂) k hk h₁
    · exact alien x (List.mem_append_right _ h₂) k hk h₁
    · exact alien x (List.mem_append_left _ h₁) k' hk' h₂
    · exact hkk rfl
    · exact hout.2.2 x h₁ x h₂ rfl
    · exact alien x (List.mem_append_right _ h₁) k' hk' h₂
    · exact hout.2.2 x h₂ x h₁ rfl
    · exact hkk rfl
  · intro k x hx
    rcases after k x hx with ⟨hk, hx⟩ | ⟨-, hx⟩ | ⟨-, hx⟩
    · exact hkeep x (fun hi => hc.disjoint (some i) k hk.symm hi hx) (hc.taken k x hx)
    · exact htaken x (List.mem_append_left _ hx)
    · exact htaken x (List.mem_append_right _ hx)

/-- A step of call `i` that does not touch the table and keeps or returns what the call held. -/
theorem Custody.pass {s s' : Sys} {h o : List Obs} (hc : Custody s h) {i : ℕ} {call : Call}
    (hcalls : s'.calls = Function.update s.calls i call) (htable : s'.commands = s.commands)
    (hsub : (call.held ++ returnedIds o).Subperm (s.calls i).held) : Custody s' (h ++ o) := by
  have hin : ∀ x ∈ call.held ++ returnedIds o, x ∈ (s.calls i).held := hsub.subset
  refine hc.move call hcalls ?_ (fun x hx => Or.inl (hin x hx)) ?_ ?_
  · obtain ⟨l, hperm, hl⟩ := hsub
    exact hperm.nodup_iff.mp ((hc.nodup (some i)).sublist hl)
  · intro x hx
    rw [htable]
    exact hc.taken (some i) x (hin x hx)
  · intro x _ hx
    rwa [htable]

theorem Custody.step {s s' : Sys} {h : List Obs} {a : Act} {o : List Obs} (hc : Custody s h)
    (hn : (s.commands.map (·.id)).Nodup) (ht : Took s a s' o) : Custody s' (h ++ o) := by
  cases ht with
  | ticked | edited => exact hc.same rfl rfl fun _ hx => hx
  | notInserted hno ho => rcases ho with rfl | ⟨e, rfl⟩ <;> exact hc.same rfl rfl fun _ hx => hx
  | inserted hnow hin =>
    refine hc.same rfl rfl fun x hx => ?_
    obtain ⟨c, hmem, hx⟩ := hx
    exact ⟨c, List.mem_append_left _ hmem, hx⟩
  | @started i tenantId gateway limit now hcall hnow =>
    refine hc.move (.expired tenantId gateway limit) rfl ?_ ?_ ?_ ?_
    · simp
    · simp
    · simp
    · exact fun x _ hx => hx.update (fun _ => rfl) fun _ _ => by simp [expiredRow]
  | switchedOn hcall => exact hc.pass rfl rfl (by simp)
  | switchedOff hcall => exact hc.pass rfl rfl (by simp)
  | @claimed i locked now tenantId gateway limit settings hcall =>
    obtain ⟨hnd, hspec⟩ := claimCommands_spec hn tenantId gateway limit now locked
    refine hc.move (.looping ⟨tenantId, settings, _, [], 0⟩) rfl ?_ ?_ ?_ ?_
    · simpa using hnd
    · intro x hx
      simp only [Call.held_looping, List.map_nil, List.append_nil, returnedIds_nil] at hx
      obtain ⟨c', hc', rfl⟩ := List.mem_map.mp hx
      obtain ⟨-, -, c, hct, hcl, rfl⟩ := hspec c' hc'
      -- the claimed row was pending, so nobody held it
      right
      rintro ⟨r, hr, hid, hs⟩
      apply hs
      rw [eq_of_id_eq hn hr hct hid]
      exact (claimable_iff.mp hcl).2.1
    · intro x hx
      simp only [Call.held_looping, List.map_nil, List.append_nil, returnedIds_nil] at hx
      obtain ⟨c', hc', rfl⟩ := List.mem_map.mp hx
      obtain ⟨hmem, hs, -⟩ := hspec c' hc'
      exact ⟨c', hmem, rfl, by simp [hs]⟩
    · exact fun x _ hx => hx.update (fun _ => rfl) fun _ _ => by simp [claimedRow]
  | @allowed i appNow now l command todo hcall htodo =>
    refine hc.pass rfl rfl ?_
    rw [hcall, Call.held_looping, Call.held_looping, htodo]
    simp only [List.map_cons, List.map_append, List.map_nil, returnedIds_nil, List.append_nil]
    rw [← List.append_assoc]
    exact (List.perm_append_singleton _ _).subperm
  | @withheld i appNow now l command todo detail hcall htodo =>
    refine hc.pass rfl rfl ?_
    rw [hcall, Call.held_looping, Call.held_releasing, htodo, returnedIds_nil, List.append_nil]
    exact List.Subperm.refl _
  | @released i command detail l hcall =>
    have hheld : (s.calls i).held = command.id :: (l.todo.map (·.id) ++ l.out.map (·.id)) := by
      rw [hcall, Call.held_releasing]
    have hnd := hc.nodup (some i)
    rw [Sys.holder, hheld, List.nodup_cons] at hnd
    refine hc.move (.looping l) rfl ?_ ?_ ?_ ?_
    · simpa using hnd.2
    · intro x hx
      rw [hheld]
      exact Or.inl (List.mem_cons_of_mem _ (by simpa using hx))
    · intro x hx
      have hx' : x ∈ l.todo.map (·.id) ++ l.out.map (·.id) := by
        simpa using hx
      refine (hc.taken (some i) x ?_).release (fun he => hnd.1 (he ▸ hx'))
      rw [Sys.holder, hheld]
      exact List.mem_cons_of_mem _ hx'
    · intro x hx ht
      refine ht.release fun he => hx ?_
      rw [hheld, he]
      exact List.mem_cons_self
  | @handed i l hcall htodo =>
    refine hc.pass rfl rfl ?_
    rw [hcall, Call.held_looping, Call.held_idle, htodo, returnedIds_returned]
    exact List.Subperm.refl _
  | crashed => exact hc.pass rfl rfl (by simp)
  | reported hnow =>
    refine hc.same rfl ?_ fun x hx => hx.settle ..
    rw [returnedIds_append, returnedIds_settledObs]
    split_ifs <;> rfl
  | cancelled =>
    refine hc.same rfl (returnedIds_settledObs _ _) fun x hx => ?_
    exact hx.update (fun _ => rfl) fun _ _ => by simp [cancelledRow]

/-! ## The invariant -/

theorem Took.clock_le {s s' : Sys} {a : Act} {o : List Obs} (h : Took s a s' o) :
    s.clock ≤ s'.clock := by
  cases h with
  | ticked h => exact h
  | _ => exact le_rfl

/-- `reportResult` answers with a command only when its statement has settled it. -/
theorem Took.reportedIds_sublist {s s' : Sys} {a : Act} {o : List Obs} (h : Took s a s' o) :
    (reportedIds o).Sublist (settledIds o) := by
  cases h with
  | notInserted hno ho => rcases ho with rfl | ⟨e, rfl⟩ <;> exact .slnil
  | @started i tenantId gateway limit now hcall hnow =>
    have hout : reportedIds (.ran tenantId now :: settledObs (staleAt tenantId now) s.commands)
        = [] := reportedIds_settledObs _ _
    rw [hout]
    exact List.nil_sublist _
  | @reported tenantId id outcome detail now hnow =>
    rw [reportedIds_append, reportedIds_settledObs, settledIds_append, settledIds_settledObs]
    split_ifs with hsome
    · refine List.Sublist.trans (List.singleton_sublist.mpr ?_) (List.sublist_append_left _ _)
      cases hrow : s.commands.find? (isRow tenantId id .dispatched) with
      | none => simp [settleCommand, hrow] at hsome
      | some row =>
        have hp := List.find?_some hrow
        exact List.mem_map.mpr ⟨row, List.mem_filter.mpr ⟨List.mem_of_find?_eq_some hrow, hp⟩,
          (isRow_iff.mp hp).2.1⟩
    · exact List.nil_sublist _
  | cancelled =>
    rw [reportedIds_settledObs]
    exact List.nil_sublist _
  | _ => exact List.nil_sublist _

/-- What holds in every reachable state, after history `h`. -/
structure Orderly (s : Sys) (h : List Obs) : Prop where
  lawful : Lawful s.commands
  override : OneOverride s.clock s.commands
  custody : Custody s h
  settledOnce : (settledIds h).Nodup
  settledDone : ∀ x ∈ settledIds h, Done s.commands x
  reported : (reportedIds h).Sublist (settledIds h)

theorem Orderly.init (clock : ℤ) (w : World) : Orderly (.init clock w) [] where
  lawful := Lawful.nil
  override := by simp [OneOverride, UniqueOn, Sys.init]
  custody := Custody.init clock w
  settledOnce := List.nodup_nil
  settledDone := nofun
  reported := .slnil

/-- **Step lemma.** -/
theorem Orderly.step {s s' : Sys} {h : List Obs} {a : Act} {o : List Obs} (hi : Orderly s h)
    (ht : Took s a s' o) : Orderly s' (h ++ o) := by
  have hcustody := hi.custody.step hi.lawful.ids ht
  have hreported : (reportedIds (h ++ o)).Sublist (settledIds (h ++ o)) := by
    rw [reportedIds_append, settledIds_append]
    exact hi.reported.append ht.reportedIds_sublist
  rcases ht.commands with ⟨hcmd, hset⟩ | ⟨st, hst, hcmd, hset⟩
  · refine ⟨?_, ?_, hcustody, ?_, ?_, hreported⟩ <;> (try rw [hcmd])
    · exact hi.lawful
    · exact hi.override.later ht.clock_le
    · simpa [hset] using hi.settledOnce
    · simpa [hset] using hi.settledDone
  · have hgrows := st.grows hi.lawful.ids hst
    refine ⟨?_, ?_, hcustody, ?_, ?_, hreported⟩ <;> (try rw [hcmd])
    · exact st.lawful hi.lawful hst
    · exact (st.oneOverride hi.lawful.ids hi.override hst).later ht.clock_le
    · -- what the statement retires was live, so it had not been settled
      rw [settledIds_append, hset, List.nodup_append]
      refine ⟨hi.settledOnce, hi.lawful.ids.sublist (List.filter_sublist.map _), ?_⟩
      rintro x hx _ hy rfl
      obtain ⟨c, hc, hid⟩ := List.mem_map.mp hy
      obtain ⟨r, hr, hrid, hdone⟩ := hi.settledDone x hx
      obtain ⟨hct, hret⟩ := List.mem_filter.mp hc
      rw [eq_of_id_eq hi.lawful.ids hr hct (hrid.trans hid.symm)] at hdone
      exact hdone (st.live_of_retires hret)
    · intro x hx
      rw [settledIds_append, hset] at hx
      rcases List.mem_append.mp hx with hx | hx
      · exact (hi.settledDone x hx).grows hgrows
      · obtain ⟨c, hc, rfl⟩ := List.mem_map.mp hx
        exact st.done_of_retires (List.mem_filter.mp hc).1 (List.mem_filter.mp hc).2

theorem orderly_of_reaches {clock : ℤ} {w : World} {s : Sys} {h : List Obs}
    (hr : control.Reaches (.init clock w) s h) : Orderly s h :=
  hr.hist (fun hi hs => hi.step (step_took hs)) (Orderly.init clock w)

/-- A run moves every command along its lifecycle. -/
theorem reaches_grows {s s' : Sys} {h o : List Obs} (hi : Orderly s h)
    (hr : control.Reaches s s' o) : Grows Moves s.commands s'.commands := by
  refine (hr.hist (I := fun r o => Orderly r (h ++ o) ∧ Grows Moves s.commands r.commands)
    ?_ ⟨by simpa using hi, .refl Moves.refl _⟩).2
  rintro r o' a r' o'' ⟨hr, hg⟩ hs
  have ht := step_took hs
  refine ⟨by simpa using hr.step ht, ?_⟩
  rcases ht.commands with ⟨hcmd, -⟩ | ⟨st, hst, hcmd, -⟩ <;> rw [hcmd]
  · exact hg
  · exact Grows.trans (R := Moves) Moves.trans hg (st.grows hr.lawful.ids hst)

theorem length_le_one {α : Type*} {l : List α} (hn : l.Nodup)
    (h : ∀ a ∈ l, ∀ b ∈ l, a = b) : l.length ≤ 1 := by
  match l with
  | [] => simp
  | [a] => simp
  | a :: b :: l =>
    have hab : a = b := h a (by simp) b (by simp)
    simp [hab] at hn

/-- The overrides in force on a zone are at most one. -/
theorem overrideCandidates_length {s : Sys} {h : List Obs} (hi : Orderly s h)
    (tenantId zoneId : Uuid) :
    (overrideCandidates tenantId zoneId s.clock s.commands).length ≤ 1 := by
  have hsub : (overrideCandidates tenantId zoneId s.clock s.commands).Sublist s.commands :=
    List.filter_sublist
  refine length_le_one (hi.lawful.ids.of_map.sublist hsub) ?_
  intro a ha b hb
  simp only [overrideCandidates, List.mem_filter, Bool.and_eq_true, beq_iff_eq, inForce_iff]
    at ha hb
  obtain ⟨hat, ⟨hta, hsa, hua⟩, hza⟩ := ha
  obtain ⟨hbt, ⟨htb, hsb, hub⟩, hzb⟩ := hb
  refine eq_of_id_eq hi.lawful.ids hat hbt (hi.override a hat b hbt ⟨hsa, hua⟩ ⟨hsb, hub⟩ ?_)
  simp [Command.zoneKey, hta, htb, hza, hzb]

/-- **Override safety.**  In every reachable state: a zone has at most one override in force and at
most one live command; over the whole run every command is returned at most once and settled (and
its result accepted) at most once; and from here on no command leaves a settled state, except that
an applied one may be superseded. -/
theorem override_safety {clock : ℤ} {w : World} {s : Sys} {h : List Obs}
    (hr : control.Reaches (.init clock w) s h) :
    (∀ tenantId zoneId,
      (overrideCandidates tenantId zoneId s.clock s.commands).length ≤ 1) ∧
    (∀ c ∈ s.commands, ∀ c' ∈ s.commands, c.isLive = true → c'.isLive = true →
      c.tenantId = c'.tenantId → c.zoneId = c'.zoneId → c = c') ∧
    (returnedIds h).Nodup ∧ (settledIds h).Nodup ∧ (reportedIds h).Nodup ∧
    ∀ s' o, control.Reaches s s' o → ∀ c ∈ s.commands, c.isLive = false →
      ∃ c' ∈ s'.commands, c'.id = c.id ∧
        (c'.state = c.state ∨ c.state = .applied ∧ c'.state = .superseded) := by
  have hi := orderly_of_reaches hr
  refine ⟨overrideCandidates_length hi, ?_, hi.custody.nodup none, hi.settledOnce,
    hi.settledOnce.sublist hi.reported, ?_⟩
  · intro c hc c' hc' hl hl' ht hz
    refine eq_of_id_eq hi.lawful.ids hc hc' (hi.lawful.live c hc c' hc' ?_ ?_ ?_)
    · exact Command.isLive_iff.mp hl
    · exact Command.isLive_iff.mp hl'
    · exact Prod.ext ht hz
  · intro s' o hr' c hc hl
    obtain ⟨c', hc', hm⟩ := (reaches_grows hi hr').exists_of_mem hc
    exact ⟨c', hc', hm.id_eq, path_from_settled hm.path (isLive_eq_false_iff.mp hl)⟩

/-! ### A site -/

/-- One tenant with control on, one operator, one zone designed for 22 °C and one temperature point
with a Good sample. -/
def site : World where
  users := [⟨1, true⟩]
  members := [⟨1, 1, .operator⟩]
  settings := fun _ => some { ControlSettings.default with enabled := true }
  zones := [⟨1, 1, some 22⟩]
  services := []
  sensors := [⟨1, 1, some 1, .temperatureC, true, 60⟩]
  telemetry := [⟨1, 1, 0, 22, .good⟩]

/-- What `issueCommand` queues for it at time 0: 23 °C for an hour, to be collected within 300 s. -/
def siteCommand : NewCommand := ⟨1, 1, 23, 22, "too cold", 1, 300000, 3600000⟩

/-- A gateway collects the command and reports it applied. -/
def siteRun : List Act :=
  [.insert siteCommand 1 0, .start 0 1 "gw" 10 0, .readSettings 0, .claim 0 [] 0, .judge 0 0 0,
    .hand 0, .report 1 1 .applied none 0]

theorem siteRun_isSome : (control.exec (.init 0 site) siteRun).isSome = true := by decide +kernel

theorem override_safety_siteRun :
    let r := (control.exec (.init 0 site) siteRun).get siteRun_isSome
    returnedIds r.2 = [1] ∧ (returnedIds r.2).Nodup ∧
      (overrideCandidates 1 1 r.1.clock r.1.commands).length ≤ 1 :=
  have h := override_safety (show control.Reaches (.init 0 site) _ _ from
    ⟨siteRun, (Option.some_get siteRun_isSome).symm⟩)
  ⟨by decide +kernel, h.2.2.1, h.1 1 1⟩

end DTwin.Control
