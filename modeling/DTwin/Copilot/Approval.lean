import DTwin.Copilot.Ledger
import DTwin.Lib.Machine

/-!
# DTwin.Copilot.Approval — an approval is used once

The ledger of `apps/web/lib/copilot/ledger.ts` under any number of threads.  Callers hold plans as objects, which
they may change at any time; they grant a plan only while it has not expired, and `plan_check` gives every plan
its expiry, a plan TTL ahead, under an id of its own.

The sweep forgets a granted plan a plan TTL after the grant, which is after the check: by then the plan has expired
(`Single.known`), so that no id is granted twice, and what is granted once is taken once (`approval_single_use`).
-/

namespace DTwin.Copilot.Approval

open OrderedMap Machine

/-! ## The machine -/

/-- `grant` with its two readings of the clock. -/
def grantAt (l : Ledger) (hash : Hash) (opt : LedgerOptions) (sweptAt grantedAt : ℤ) (threadId : String)
    (plan : Option GrantablePlan) : Ledger × Bool :=
  let l := l.sweep opt sweptAt
  match plan.bind fun plan => plan.read hash opt grantedAt with
  | none => (l.revoke threadId, false)
  | some g =>
    if (l.granted.get? g.planId).isSome then (l, false)
    else (⟨l.grants.set threadId g, l.granted.set g.planId g.grantedAt⟩, true)

structure Sys where
  clock : ℤ
  ledger : Ledger
  /-- The callers' objects; none for one that throws when it is read. -/
  objects : ℕ → Option GrantablePlan
  /-- When each plan that was checked expires. -/
  expiresAt : String → Option ℤ

inductive Act
  /-- `plan_check` makes a plan, under a new id. -/
  | check (planId : String) (now : ℤ)
  /-- A caller changes an object. -/
  | write (object : ℕ) (plan : Option GrantablePlan)
  | grant (threadId : String) (object : ℕ) (sweptAt grantedAt : ℤ)
  | take (threadId : String) (now : ℤ)
  | revoke (threadId : String)
  | sweep (now : ℤ)

inductive Obs
  /-- `grant` answered true; the plan as it was read. -/
  | granted (threadId : String) (plan : GrantablePlan)
  | refused (threadId : String)
  | taken (threadId : String) (grant : Grant)

def Sys.init : Sys := ⟨0, .init, fun _ => none, fun _ => none⟩

/-- The plan that `grant` would read has not expired. -/
def Sys.Unexpired (s : Sys) (hash : Hash) (opt : LedgerOptions) (object : ℕ) (now : ℤ) : Prop :=
  ∀ g ∈ (s.objects object).bind fun plan => plan.read hash opt now, ∃ t ∈ s.expiresAt g.planId, now < t

instance (s : Sys) (hash : Hash) (opt : LedgerOptions) (object : ℕ) (now : ℤ) :
    Decidable (s.Unexpired hash opt object now) :=
  inferInstanceAs (Decidable (∀ g ∈ _, _))

def step (hash : Hash) (opt : LedgerOptions) (s : Sys) : Act → Option (Sys × List Obs)
  | .check planId now =>
    if s.clock ≤ now ∧ s.expiresAt planId = none then
      some ({ s with
        clock := now
        expiresAt := fun i => if i = planId then some (now + opt.planTtlS * 1000) else s.expiresAt i }, [])
    else none
  | .write object plan => some ({ s with objects := fun i => if i = object then plan else s.objects i }, [])
  | .grant threadId object sweptAt grantedAt =>
    if s.clock ≤ sweptAt ∧ sweptAt ≤ grantedAt ∧ s.Unexpired hash opt object sweptAt then
      let (ledger, granted) := grantAt s.ledger hash opt sweptAt grantedAt threadId (s.objects object)
      some ({ s with clock := grantedAt, ledger },
        if granted then (s.objects object).toList.map (.granted threadId) else [.refused threadId])
    else none
  | .take threadId now =>
    if s.clock ≤ now then
      let (ledger, grant) := s.ledger.take opt now threadId
      some ({ s with clock := now, ledger }, grant.toList.map (.taken threadId))
    else none
  | .revoke threadId => some ({ s with ledger := s.ledger.revoke threadId }, [])
  | .sweep now => if s.clock ≤ now then some ({ s with clock := now, ledger := s.ledger.sweep opt now }, []) else none

def approving (hash : Hash) (opt : LedgerOptions) : Machine Sys Act Obs := ⟨step hash opt⟩

/-! ## What is observed -/

def Obs.takes (planId : String) : Obs → List Grant
  | .taken _ g => if g.planId = planId then [g] else []
  | _ => []

/-- What `take` returned for a plan. -/
def takenOf (planId : String) (h : List Obs) : List Grant := h.flatMap (Obs.takes planId)

/-- The plan has been granted. -/
def Known (h : List Obs) (planId : String) : Prop :=
  ∃ threadId plan, .granted threadId plan ∈ h ∧ plan.planId = .string planId

/-- The grant is a copy of the plan, under whose hash it was granted. -/
structure Copies (hash : Hash) (opt : LedgerOptions) (plan : GrantablePlan) (g : Grant) : Prop where
  planId : plan.planId = .string g.planId
  planHash : plan.planHash = .string g.planHash
  commands : project plan opt.maxPlanCommands = some g.commands
  hashed : hashCommands hash g.commands = g.planHash

/-- What a thread holds: a copy of what was granted, not taken yet. -/
structure Held (hash : Hash) (opt : LedgerOptions) (h : List Obs) (threadId : String) (g : Grant) : Prop where
  granted : ∃ plan, .granted threadId plan ∈ h ∧ Copies hash opt plan g
  untaken : takenOf g.planId h = []

structure Single (hash : Hash) (opt : LedgerOptions) (s : Sys) (h : List Obs) : Prop where
  /-- A plan expires within a plan TTL. -/
  checked : ∀ planId, ∀ t ∈ s.expiresAt planId, t ≤ s.clock + opt.planTtlS * 1000
  held : ∀ threadId g, s.ledger.grants.get? threadId = some g → Held hash opt h threadId g
  alone : ∀ i j g g', s.ledger.grants.get? i = some g → s.ledger.grants.get? j = some g' → g.planId = g'.planId → i = j
  /-- A granted plan is remembered until it has expired. -/
  known : ∀ planId, Known h planId → ∃ t ∈ s.expiresAt planId, t ≤ s.clock ∨
    ∃ grantedAt, s.ledger.granted.get? planId = some grantedAt ∧ t ≤ grantedAt + opt.planTtlS * 1000
  once : ∀ planId, (takenOf planId h).length ≤ 1
  source : ∀ threadId g, .taken threadId g ∈ h → Known h g.planId ∧
    ∃ plan, .granted threadId plan ∈ h ∧ Copies hash opt plan g

variable {hash : Hash} {opt : LedgerOptions} {s s' : Sys} {h o : List Obs} {threadId planId : String}

@[simp] theorem takenOf_append (planId : String) (h o : List Obs) :
    takenOf planId (h ++ o) = takenOf planId h ++ takenOf planId o := List.flatMap_append

theorem Known.mono (hK : Known h planId) (o : List Obs) : Known (h ++ o) planId := by
  obtain ⟨threadId, plan, hmem, hid⟩ := hK
  exact ⟨threadId, plan, List.mem_append_left _ hmem, hid⟩

theorem takenOf_ne_nil (hne : takenOf planId h ≠ []) : ∃ threadId g, .taken threadId g ∈ h ∧ g.planId = planId := by
  obtain ⟨g, hg⟩ := List.exists_mem_of_ne_nil _ hne
  obtain ⟨x, hx, hg⟩ := List.mem_flatMap.mp hg
  cases x with
  | taken threadId g' =>
    simp only [Obs.takes] at hg
    split_ifs at hg with hid
    · exact ⟨threadId, g', hx, hid⟩
    · exact absurd hg List.not_mem_nil
  | granted threadId plan => exact absurd hg List.not_mem_nil
  | refused threadId => exact absurd hg List.not_mem_nil

/-- What is read of a plan does not depend on when, but for the time stamp. -/
theorem read_at {plan : GrantablePlan} {now now' : ℤ} {g : Grant} (hg : plan.read hash opt now = some g) :
    plan.read hash opt now' = some { g with grantedAt := now' } := by
  unfold GrantablePlan.read at hg ⊢
  split at hg
  · rename_i planId planHash commands hid hhash hcommands
    by_cases hbad : planId = "" ∨ isHash planHash = false ∨ hashCommands hash commands ≠ planHash
    · rw [if_pos hbad] at hg
      cases hg
    · rw [if_neg hbad] at hg ⊢
      cases hg
      rfl
  · cases hg

theorem get?_sweep_granted {l : Ledger} (opt : LedgerOptions) (now : ℤ) {grantedAt : ℤ}
    (hg : l.granted.get? planId = some grantedAt) :
    (l.sweep opt now).granted.get? planId = some grantedAt ∨ grantedAt + opt.planTtlS * 1000 ≤ now := by
  rw [Ledger.sweep, get?_filterMapValues, hg, Option.bind_some]
  by_cases hold : (opt.planTtlS : ℤ) * 1000 ≤ now - grantedAt
  · exact Or.inr (by omega)
  · rw [if_neg hold]
    exact Or.inl rfl

theorem take_granted {l l' : Ledger} {now : ℤ} {taken : Option Grant} (htake : l.take opt now threadId = (l', taken)) :
    l'.granted = l.granted := by
  unfold Ledger.take at htake
  split at htake
  · cases htake
    rfl
  · cases htake
    rfl

/-! ## Every step -/

/-- Time passes, grants are dropped, and plans are forgotten that have expired. -/
theorem Single.later (hS : Single hash opt s h) (hclock : s.clock ≤ s'.clock) (hexpires : s'.expiresAt = s.expiresAt)
    (hgrants : ∀ i g, s'.ledger.grants.get? i = some g → s.ledger.grants.get? i = some g)
    (hgranted : ∀ p t, s.ledger.granted.get? p = some t →
      s'.ledger.granted.get? p = some t ∨ t + opt.planTtlS * 1000 ≤ s'.clock) : Single hash opt s' h where
  checked planId t ht := by
    rw [hexpires] at ht
    exact (hS.checked planId t ht).trans (Int.add_le_add_right hclock _)
  held i g hg := hS.held i g (hgrants i g hg)
  alone i j g g' hi hj hid := hS.alone i j g g' (hgrants i g hi) (hgrants j g' hj) hid
  known planId hK := by
    obtain ⟨t, ht, hold | ⟨grantedAt, hat, hle⟩⟩ := hS.known planId hK
    · exact ⟨t, hexpires ▸ ht, Or.inl (hold.trans hclock)⟩
    · refine ⟨t, hexpires ▸ ht, ?_⟩
      obtain hkept | hold := hgranted planId grantedAt hat
      · exact Or.inr ⟨grantedAt, hkept, hle⟩
      · exact Or.inl (hle.trans hold)
  once := hS.once
  source := hS.source

/-- Something was observed that is no grant and no taking. -/
theorem Single.observe (hS : Single hash opt s h) (ho : ∀ x ∈ o, ∃ i, x = .refused i) : Single hash opt s (h ++ o) := by
  have htaken : ∀ planId, takenOf planId o = [] := by
    intro planId
    refine List.flatMap_eq_nil_iff.mpr fun x hx => ?_
    obtain ⟨i, rfl⟩ := ho x hx
    rfl
  have hgranted : ∀ {i plan}, .granted i plan ∈ h ++ o → .granted i plan ∈ h := by
    intro i plan hmem
    refine (List.mem_append.mp hmem).resolve_right fun hmem => ?_
    obtain ⟨j, hj⟩ := ho _ hmem
    cases hj
  have hknown : ∀ {planId}, Known (h ++ o) planId → Known h planId := by
    rintro planId ⟨i, plan, hmem, hid⟩
    exact ⟨i, plan, hgranted hmem, hid⟩
  refine ⟨hS.checked, fun i g hg => ?_, hS.alone, fun planId hK => hS.known planId (hknown hK), fun planId => ?_,
    fun i g hmem => ?_⟩
  · obtain ⟨⟨plan, hplan, hcopies⟩, huntaken⟩ := hS.held i g hg
    exact ⟨⟨plan, List.mem_append_left _ hplan, hcopies⟩, by simp [huntaken, htaken]⟩
  · simpa [htaken] using hS.once planId
  · have hold : .taken i g ∈ h := by
      refine (List.mem_append.mp hmem).resolve_right fun hmem => ?_
      obtain ⟨j, hj⟩ := ho _ hmem
      cases hj
    obtain ⟨hK, plan, hplan, hcopies⟩ := hS.source i g hold
    exact ⟨hK.mono o, plan, List.mem_append_left _ hplan, hcopies⟩

/-- A plan that has not expired is remembered by every sweep until it is granted. -/
theorem Single.fresh (hS : Single hash opt s h) {now t : ℤ} (hclock : s.clock ≤ now) (ht : s.expiresAt planId = some t)
    (hnow : now < t) (hforgotten : (s.ledger.sweep opt now).granted.get? planId = none) : ¬ Known h planId := by
  intro hK
  obtain ⟨t', ht', hold | ⟨grantedAt, hat, hle⟩⟩ := hS.known planId hK
  · obtain rfl : t = t' := Option.some.inj (ht.symm.trans ht')
    omega
  · obtain rfl : t = t' := Option.some.inj (ht.symm.trans ht')
    obtain hkept | hold := get?_sweep_granted opt now hat
    · rw [hforgotten] at hkept
      cases hkept
    · omega

/-- **A grant answers true**: the plan has not been granted before. -/
theorem Single.grant (hS : Single hash opt s h) (hforgotten : s.ledger.granted.get? planId = none)
    {plan : GrantablePlan}
    {g : Grant} (hcopies : Copies hash opt plan g) (hid : g.planId = planId) (hnew : ¬ Known h planId) {t : ℤ}
    (ht : s.expiresAt planId = some t) (hgrantedAt : s.clock ≤ g.grantedAt)
    (hclock : t ≤ g.grantedAt + opt.planTtlS * 1000)
    (threadId : String) :
    Single hash opt { s with
      clock := g.grantedAt
      ledger := ⟨s.ledger.grants.set threadId g, s.ledger.granted.set g.planId g.grantedAt⟩ }
      (h ++ [.granted threadId plan]) := by
  subst hid
  have huntaken : takenOf g.planId h = [] := by
    by_contra hne
    obtain ⟨i, g', hmem, hid⟩ := takenOf_ne_nil hne
    exact hnew (hid ▸ (hS.source i g' hmem).1)
  have htaken : ∀ p, takenOf p (h ++ [.granted threadId plan]) = takenOf p h := by
    intro p
    rw [takenOf_append]
    exact List.append_nil _
  have hother : ∀ i g', s.ledger.grants.get? i = some g' → g'.planId ≠ g.planId := by
    intro i g' hg' hid
    obtain ⟨⟨plan', hmem, hcopies'⟩, -⟩ := hS.held i g' hg'
    exact hnew ⟨i, plan', hmem, hid ▸ hcopies'.planId⟩
  refine ⟨fun p t' ht' => (hS.checked p t' ht').trans (Int.add_le_add_right hgrantedAt _), fun i g' hg' => ?_,
    fun i j g₁ g₂ hi hj hid => ?_,
    fun p hK => ?_, fun p => ?_, fun i g' hmem => ?_⟩
  · rw [get?_set] at hg'
    split_ifs at hg' with hi
    · cases hg'
      exact ⟨⟨plan, by simp [hi], hcopies⟩, by rw [htaken, huntaken]⟩
    · obtain ⟨⟨plan', hmem, hcopies'⟩, huntaken'⟩ := hS.held i g' hg'
      exact ⟨⟨plan', List.mem_append_left _ hmem, hcopies'⟩, by rw [htaken, huntaken']⟩
  · rw [get?_set] at hi hj
    split_ifs at hi hj with hti htj htj
    · exact hti.symm.trans htj
    · cases hi
      exact absurd hid.symm (hother j g₂ hj)
    · cases hj
      exact absurd hid (hother i g₁ hi)
    · exact hS.alone i j g₁ g₂ hi hj hid
  · by_cases hp : p = g.planId
    · subst hp
      exact ⟨t, ht, Or.inr ⟨g.grantedAt, by simp [get?_set], hclock⟩⟩
    · have hold : Known h p := by
        obtain ⟨i, plan', hmem, hid⟩ := hK
        refine ⟨i, plan', (List.mem_append.mp hmem).resolve_right fun hlast => hp ?_, hid⟩
        cases List.mem_singleton.mp hlast
        exact (Value.string.inj (hcopies.planId.symm.trans hid)).symm
      obtain ⟨t', ht', hold | ⟨grantedAt, hat, hle⟩⟩ := hS.known p hold
      · exact ⟨t', ht', Or.inl (hold.trans hgrantedAt)⟩
      · refine ⟨t', ht', Or.inr ⟨grantedAt, ?_, hle⟩⟩
        rw [get?_set, if_neg fun heq => hp heq.symm, hat]
  · rw [htaken]
    exact hS.once p
  · have hmem := (List.mem_append.mp hmem).resolve_right (by simp)
    obtain ⟨hK, plan', hplan', hcopies'⟩ := hS.source i g' hmem
    exact ⟨hK.mono _, plan', List.mem_append_left _ hplan', hcopies'⟩

/-- **A grant is taken.** -/
theorem Single.take (hS : Single hash opt s h) {now : ℤ} (hclock : s.clock ≤ now) {g : Grant}
    (hg : s.ledger.grants.get? threadId = some g) :
    Single hash opt { s with clock := now, ledger := s.ledger.revoke threadId } (h ++ [.taken threadId g]) := by
  obtain ⟨⟨plan, hplan, hcopies⟩, huntaken⟩ := hS.held threadId g hg
  have hlast : ∀ p, takenOf p [.taken threadId g] = if g.planId = p then [g] else [] := fun p => List.append_nil _
  have hgranted : ∀ {i plan'}, .granted i plan' ∈ h ++ [.taken threadId g] → .granted i plan' ∈ h := fun hmem =>
    (List.mem_append.mp hmem).resolve_right (by simp)
  refine ⟨fun p t ht => (hS.checked p t ht).trans (Int.add_le_add_right hclock _), fun i g' hg' => ?_,
    fun i j g₁ g₂ hi hj hid => ?_,
    fun p hK => ?_, fun p => ?_, fun i g' hmem => ?_⟩
  · obtain ⟨hi, hg'⟩ := get?_revoke hg'
    obtain ⟨⟨plan', hmem, hcopies'⟩, huntaken'⟩ := hS.held i g' hg'
    refine ⟨⟨plan', List.mem_append_left _ hmem, hcopies'⟩, ?_⟩
    rw [takenOf_append, huntaken', hlast, if_neg, List.append_nil]
    exact fun hid => hi (hS.alone i threadId g' g hg' hg hid.symm)
  · exact hS.alone i j g₁ g₂ (get?_revoke hi).2 (get?_revoke hj).2 hid
  · obtain ⟨i, plan', hmem, hid⟩ := hK
    obtain ⟨t, ht, hold | hkept⟩ := hS.known p ⟨i, plan', hgranted hmem, hid⟩
    · exact ⟨t, ht, Or.inl (hold.trans hclock)⟩
    · exact ⟨t, ht, Or.inr hkept⟩
  · rw [takenOf_append, hlast]
    by_cases hp : g.planId = p
    · subst hp
      simp [huntaken]
    · simpa [hp] using hS.once p
  · obtain hmem | hlast := List.mem_append.mp hmem
    · obtain ⟨hK, plan', hplan', hcopies'⟩ := hS.source i g' hmem
      exact ⟨hK.mono _, plan', List.mem_append_left _ hplan', hcopies'⟩
    · cases List.mem_singleton.mp hlast
      exact ⟨⟨threadId, plan, List.mem_append_left _ hplan, hcopies.planId⟩, plan, List.mem_append_left _ hplan,
        hcopies⟩

theorem copies_of_read {plan : GrantablePlan} {now : ℤ} {g : Grant} (hg : plan.read hash opt now = some g) :
    Copies hash opt plan g := by
  obtain ⟨hid, hhash, hcommands, hhashed, -⟩ := read_spec hg
  exact ⟨hid, hhash, hcommands, hhashed⟩

theorem Single.step {a : Act} (hS : Single hash opt s h) (hs : (approving hash opt).step s a = some (s', o)) :
    Single hash opt s' (h ++ o) := by
  change Approval.step hash opt s a = some (s', o) at hs
  cases a with
  | check planId now =>
    simp only [Approval.step] at hs
    split_ifs at hs with hguard
    obtain ⟨hclock, hnew⟩ := hguard
    cases hs
    rw [List.append_nil]
    refine ⟨fun p t ht => ?_, hS.held, hS.alone, fun p hK => ?_, hS.once, hS.source⟩
    · simp only at ht ⊢
      split_ifs at ht with hp
      · cases ht
        exact le_rfl
      · exact (hS.checked p t ht).trans (Int.add_le_add_right hclock _)
    · obtain ⟨t, ht, hkept⟩ := hS.known p hK
      have hne : p ≠ planId := by
        rintro rfl
        rw [hnew] at ht
        cases ht
      exact ⟨t, by simpa [hne] using ht, hkept.imp_left fun hold => hold.trans hclock⟩
  | write object plan =>
    cases hs
    rw [List.append_nil]
    exact hS.later le_rfl rfl (fun _ _ hg => hg) fun _ _ ht => Or.inl ht
  | grant threadId object sweptAt grantedAt =>
    simp only [Approval.step] at hs
    split at hs
    case isFalse => cases hs
    rename_i hguard
    obtain ⟨hclock, hswept, hunexpired⟩ := hguard
    have hsweep : Single hash opt { s with clock := sweptAt, ledger := s.ledger.sweep opt sweptAt } h :=
      hS.later hclock rfl (fun _ _ hg => get?_sweep_grants hg) fun _ _ ht => get?_sweep_granted _ _ ht
    cases hread : (s.objects object).bind fun plan => plan.read hash opt grantedAt with
    | none =>
      simp only [grantAt, hread] at hs
      cases hs
      exact Single.observe (hsweep.later hswept rfl (fun _ _ hg => (get?_revoke hg).2) fun _ _ ht => Or.inl ht)
        fun x hx => ⟨threadId, List.mem_singleton.mp hx⟩
    | some g =>
      obtain ⟨plan, hplan, hg⟩ := Option.bind_eq_some_iff.mp hread
      cases hknown : (s.ledger.sweep opt sweptAt).granted.get? g.planId with
      | some _ =>
        simp only [grantAt, hread, hknown, Option.isSome_some, if_true] at hs
        cases hs
        exact Single.observe (hsweep.later hswept rfl (fun _ _ hg => hg) fun _ _ ht => Or.inl ht)
          fun x hx => ⟨threadId, List.mem_singleton.mp hx⟩
      | none =>
        obtain ⟨t, ht, hnow⟩ := hunexpired { g with grantedAt := sweptAt } (by simp [hplan, read_at hg])
        have hstamp : g.grantedAt = grantedAt := (read_spec hg).2.2.2.2
        have hnew := hS.fresh hclock ht hnow hknown
        have hexpires := hsweep.checked g.planId t ht
        simp only [grantAt, hread, hknown, Option.isSome_none, if_false, Bool.false_eq_true] at hs
        cases hs
        have hgrant := hsweep.grant hknown (copies_of_read hg) rfl hnew ht (hstamp.ge.trans' hswept)
          (hexpires.trans (by simp only [hstamp]; omega)) threadId
        simpa [hplan, hstamp] using hgrant
  | take threadId now =>
    simp only [Approval.step] at hs
    split_ifs at hs with hclock
    cases htake : s.ledger.take opt now threadId with
    | mk ledger taken =>
      simp only [htake] at hs
      cases hs
      cases taken with
      | none =>
        rw [Option.toList_none, List.map_nil, List.append_nil]
        exact hS.later hclock rfl (fun _ _ hg => (take_grants htake hg).2) fun p t ht =>
          Or.inl (take_granted htake ▸ ht)
      | some g =>
        obtain ⟨hheld, rfl⟩ := take_spec htake
        exact hS.take hclock hheld
  | revoke threadId =>
    cases hs
    rw [List.append_nil]
    exact hS.later le_rfl rfl (fun _ _ hg => (get?_revoke hg).2) fun _ _ ht => Or.inl ht
  | sweep now =>
    simp only [Approval.step] at hs
    split_ifs at hs with hclock
    cases hs
    rw [List.append_nil]
    exact hS.later hclock rfl (fun _ _ hg => get?_sweep_grants hg) fun _ _ ht => get?_sweep_granted _ _ ht

theorem single_init (hash : Hash) (opt : LedgerOptions) : Single hash opt .init [] where
  checked _ _ ht := by simp [Sys.init] at ht
  held _ _ hg := by simp [Sys.init, Ledger.init] at hg
  alone _ _ _ _ hg := by simp [Sys.init, Ledger.init] at hg
  known _ hK := by simp [Known] at hK
  once _ := Nat.zero_le 1
  source _ _ hmem := by simp at hmem

/-! ## What a refused grant does -/

/-- The sweep takes away nothing that could still be taken. -/
theorem take_sweep {l : Ledger} {now t : ℤ} (ht : now ≤ t) (threadId : String) :
    ((l.sweep opt now).take opt t threadId).2 = (l.take opt t threadId).2 := by
  have hget : (l.sweep opt now).grants.get? threadId = (l.grants.get? threadId).bind fun g =>
      if (opt.grantTtlS : ℤ) * 1000 ≤ now - g.grantedAt then none else some g := get?_filterMapValues _ _ _
  unfold Ledger.take
  cases hheld : l.grants.get? threadId with
  | none => simp [hget, hheld]
  | some g =>
    rw [hheld, Option.bind_some] at hget
    by_cases hold : (opt.grantTtlS : ℤ) * 1000 ≤ now - g.grantedAt
    · rw [if_pos hold] at hget
      rw [hget]
      exact (if_neg fun hage => by omega).symm
    · rw [if_neg hold] at hget
      rw [hget]

/-- Nothing has changed but what the sweep forgets, and nobody takes anything else for it. -/
structure Unchanged (opt : LedgerOptions) (l l' : Ledger) (now : ℤ) : Prop where
  swept : l' = l.sweep opt now
  takes : ∀ threadId t, now ≤ t → (l'.take opt t threadId).2 = (l.take opt t threadId).2

theorem revoke_grants (l : Ledger) (threadId : String) : (l.revoke threadId).grants.get? threadId = none := by
  simp [Ledger.revoke, get?_erase]

/-- **A malformed plan** leaves the thread nothing. -/
theorem step_malformed {object : ℕ} {sweptAt grantedAt : ℤ}
    (hs : (approving hash opt).step s (.grant threadId object sweptAt grantedAt) = some (s', o))
    (hread : ((s.objects object).bind fun plan => plan.read hash opt grantedAt) = none) :
    o = [.refused threadId] ∧ s'.ledger.grants.get? threadId = none := by
  change Approval.step hash opt s (.grant threadId object sweptAt grantedAt) = some (s', o) at hs
  simp only [Approval.step, grantAt, hread] at hs
  split at hs
  · cases hs
    exact ⟨rfl, revoke_grants _ threadId⟩
  · cases hs

/-- **A plan that has been granted** is not granted again. -/
theorem Single.repeated (hS : Single hash opt s h) {object : ℕ} {sweptAt grantedAt : ℤ}
    (hs : (approving hash opt).step s (.grant threadId object sweptAt grantedAt) = some (s', o)) {g : Grant}
    (hread : ((s.objects object).bind fun plan => plan.read hash opt grantedAt) = some g) (hK : Known h g.planId) :
    o = [.refused threadId] ∧ Unchanged opt s.ledger s'.ledger sweptAt := by
  change Approval.step hash opt s (.grant threadId object sweptAt grantedAt) = some (s', o) at hs
  simp only [Approval.step] at hs
  split at hs
  case isFalse => cases hs
  rename_i hguard
  obtain ⟨hclock, -, hunexpired⟩ := hguard
  obtain ⟨plan, hplan, hg⟩ := Option.bind_eq_some_iff.mp hread
  obtain ⟨t, ht, hnow⟩ := hunexpired { g with grantedAt := sweptAt } (by simp [hplan, read_at hg])
  cases hknown : (s.ledger.sweep opt sweptAt).granted.get? g.planId with
  | none => exact absurd hK (hS.fresh hclock ht hnow hknown)
  | some _ =>
    simp only [grantAt, hread, hknown, Option.isSome_some, if_true] at hs
    cases hs
    exact ⟨rfl, rfl, fun i t ht => take_sweep ht i⟩

/-- **An approval is used once.**  A plan is taken once at most; what is taken is a copy of the plan as it was
granted, and hashes to its hash; a malformed plan leaves its thread no grant; and a plan that has been granted is
refused, and nothing is changed. -/
theorem approval_single_use (hr : (approving hash opt).Reaches .init s h) :
    (∀ planId, (takenOf planId h).length ≤ 1) ∧
    (∀ threadId g, .taken threadId g ∈ h → ∃ plan, .granted threadId plan ∈ h ∧ Copies hash opt plan g) ∧
    ∀ threadId object sweptAt grantedAt s' o,
      (approving hash opt).step s (.grant threadId object sweptAt grantedAt) = some (s', o) →
      (((s.objects object).bind fun plan => plan.read hash opt grantedAt) = none →
        o = [.refused threadId] ∧ s'.ledger.grants.get? threadId = none) ∧
      ∀ g, ((s.objects object).bind fun plan => plan.read hash opt grantedAt) = some g → Known h g.planId →
        o = [.refused threadId] ∧ Unchanged opt s.ledger s'.ledger sweptAt := by
  have hS : Single hash opt s h := hr.hist (fun hS hs => hS.step hs) (single_init hash opt)
  refine ⟨hS.once, fun threadId g hmem => (hS.source threadId g hmem).2,
    fun threadId object sweptAt grantedAt s' o hs => ?_⟩
  exact ⟨fun hread => step_malformed hs hread, fun g hread hK => hS.repeated hs hread hK⟩

def officePlan : String := "c2c1a6de-4d0b-4a53-8a39-0f9f4c1d2e77"

/-- The hash of one command: the office at 23 °C for an hour. -/
def officeHash : String := "a2ee6a8f9de71029615893cecaf8d2d13f3fd90a490c89ed0c67dd6880ac1b87"

def officeZone : String := "0b9d2c1e-5a53-4c5f-9d5e-3f8f0c2a7b11"

def office (setpointTempC : ℚ) : GrantablePlan :=
  ⟨.string officePlan, .string officeHash,
    some [⟨.string officeZone, .string "Office", .number setpointTempC, .number 3600, .string "too warm"⟩]⟩

def officeHashes : Hash := fun commands =>
  if commands = [⟨officeZone, 23, some 3600, "too warm"⟩] then officeHash else ""

/-- The plan is granted, changed by its caller, taken, and granted again for another thread. -/
def replayedRun : List Act :=
  [.check officePlan 0, .write 0 (some (office 23)), .grant "u:1" 0 60000 60001, .write 0 (some (office 30)),
    .take "u:1" 60002, .write 0 (some (office 23)), .grant "u:2" 0 70000 70000, .take "u:2" 70001]

theorem replayedRun_isSome : ((approving officeHashes ⟨120, 600, 12⟩).exec .init replayedRun).isSome = true := by
  decide +kernel

theorem approval_single_use_replayedRun : ∃ s h, (approving officeHashes ⟨120, 600, 12⟩).Reaches .init s h ∧
    takenOf officePlan h = [⟨officePlan, officeHash, [⟨officeZone, "Office", 23, some 3600, "too warm"⟩], 60001⟩] ∧
    ∀ planId, (takenOf planId h).length ≤ 1 := by
  let r := ((approving officeHashes ⟨120, 600, 12⟩).exec .init replayedRun).get replayedRun_isSome
  have hr : (approving officeHashes ⟨120, 600, 12⟩).Reaches .init r.1 r.2 :=
    ⟨replayedRun, (Option.some_get replayedRun_isSome).symm⟩
  have htaken : takenOf officePlan r.2 =
      [⟨officePlan, officeHash, [⟨officeZone, "Office", 23, some 3600, "too warm"⟩], 60001⟩] := by decide +kernel
  exact ⟨r.1, r.2, hr, htaken, (approval_single_use hr).1⟩

end DTwin.Copilot.Approval
