import DTwin.Identity.Sessions

/-!
# DTwin.Identity.Keys — a key is worth what was issued with it

`key_resolves_iff`: at any moment of any run an API key resolves exactly when it was issued, nothing has revoked its
name since (a rotation does), and its tenant is there and active; to the tenant, kind and scopes it was issued with.
-/

namespace DTwin.Identity

open Table Tenure Machine

variable {cfg : Config} {t : Tables}

/-! ## A row answers -/

theorem mem_keyRows_iff {key : String} {now : ℤ} {p : KeyPrincipal} :
    p ∈ t.keyRows cfg key now ↔ ∃ k ∈ t.apiKeys, k.matches cfg key now = true ∧
      (∃ x ∈ t.tenants, x.id = k.tenantId ∧ x.status = .active) ∧ p = ⟨k.tenantId, k.id, k.kind, k.scopes⟩ := by
  simp only [Tables.keyRows, List.mem_flatMap, List.mem_filter, List.mem_map, Bool.and_eq_true, decide_eq_true_eq]
  constructor
  · rintro ⟨k, ⟨hk, hmatches⟩, x, ⟨hx, hid, hactive⟩, rfl⟩
    exact ⟨k, hk, hmatches, ⟨x, hx, hid, hactive⟩, rfl⟩
  · rintro ⟨k, hk, hmatches, ⟨x, hx, hid, hactive⟩, rfl⟩
    exact ⟨k, ⟨hk, hmatches⟩, x, ⟨hx, hid, hactive⟩, rfl⟩

theorem matches_iff {key : String} {now : ℤ} {k : ApiKey} :
    k.matches cfg key now = true ↔ k.keyPrefix = prefixOf key ∧ k.keyHash = cfg.tokenHash key ∧ k.revokedAt = none ∧
      k.expiresAt.all (now < ·) = true := by
  simp [ApiKey.matches, ApiKey.live, and_assoc]

theorem resolveApiKey_eq_some_iff (hkeeps : t.Keeps cfg) {key : String} {now : ℤ} {p : KeyPrincipal} :
    resolveApiKey cfg t key now = some p ↔ ∃ k ∈ t.apiKeys, k.matches cfg key now = true ∧
      (∃ x ∈ t.tenants, x.id = k.tenantId ∧ x.status = .active) ∧ p = ⟨k.tenantId, k.id, k.kind, k.scopes⟩ := by
  have hone : ∀ q ∈ t.keyRows cfg key now, ∀ q' ∈ t.keyRows cfg key now, q = q' := by
    intro q hq q' hq'
    obtain ⟨k, hk, hmatches, -, rfl⟩ := mem_keyRows_iff.mp hq
    obtain ⟨k', hk', hmatches', -, rfl⟩ := mem_keyRows_iff.mp hq'
    have hhash := (matches_iff.mp hmatches).2.1.trans (matches_iff.mp hmatches').2.1.symm
    rw [eq_of_id_eq hkeeps.keyHashes hk hk' hhash]
  rw [resolveApiKey, head?_eq_some_iff_mem hone, mem_keyRows_iff]

/-! ## What becomes of a key -/

/-- An event leaves a key as it is, or ends it with its tenant, or revokes its name. -/
theorem onKey_eq_some_iff {x : Obs} {k : ApiKey} (hlive : k.revokedAt = none) {k' : ApiKey}
    (hlive' : k'.revokedAt = none) :
    x.onKey k = some k' ↔ k' = k ∧ (∀ n, x ≠ .revoked k.tenantId k.name n) ∧ x ≠ .tenantGone k.tenantId := by
  cases x with
  | revoked tenantId name now =>
    simp only [Obs.onKey, Option.some.injEq, ApiKey.named, ApiKey.live, hlive, Option.isNone_none, Bool.and_true]
    by_cases hnamed : k.tenantId = tenantId ∧ k.name = name
    · obtain ⟨rfl, rfl⟩ := hnamed
      simp only [decide_true, Bool.and_self, if_true]
      constructor
      · intro h
        rw [← h] at hlive'
        cases hlive'
      · exact fun h => absurd rfl (h.2.1 now)
    · have hfalse : (decide (k.tenantId = tenantId) && decide (k.name = name)) = false := by
        rw [Bool.and_eq_false_iff, decide_eq_false_iff_not, decide_eq_false_iff_not]
        exact not_and_or.mp hnamed
      rw [hfalse]
      constructor
      · intro h
        refine ⟨h.symm, fun n heq => hnamed ?_, fun heq => by cases heq⟩
        obtain ⟨rfl, rfl, -⟩ := Obs.revoked.inj heq
        exact ⟨rfl, rfl⟩
      · exact fun h => h.1.symm
  | tenantGone tenantId =>
    simp only [Obs.onKey]
    split_ifs with htenant
    · simp [htenant]
    · simp [eq_comm, Ne.symm htenant]
  | _ => simp [Obs.onKey, eq_comm]

/-- A revoked key stays revoked. -/
theorem revokedAt_of_onKey {x : Obs} {k k' : ApiKey} (h : x.onKey k = some k') (hlive : k'.revokedAt = none) :
    k.revokedAt = none := by
  cases x with
  | revoked tenantId name now =>
    have h := Option.some.inj h
    split_ifs at h
    · rw [← h] at hlive
      cases hlive
    · rw [h, hlive]
  | tenantGone tenantId =>
    rw [← eq_of_ite_none h, hlive]
  | _ => rw [Option.some.inj h, hlive]

theorem revokedAt_of_after {later : List Obs} {k k' : ApiKey} (h : after Obs.onKey later k = some k')
    (hlive : k'.revokedAt = none) : k.revokedAt = none := by
  induction later generalizing k with
  | nil => rw [Option.some.inj h, hlive]
  | cons x later ih =>
    obtain ⟨k₁, hx, hrest⟩ := Option.bind_eq_some_iff.mp h
    exact revokedAt_of_onKey hx (ih hrest)

/-- A key is live after some events exactly when none of them revoked its name or deleted its tenant. -/
theorem after_onKey_iff {later : List Obs} {k k' : ApiKey} (hlive : k.revokedAt = none) :
    after Obs.onKey later k = some k' ∧ k'.revokedAt = none ↔
      k' = k ∧ (∀ n, .revoked k.tenantId k.name n ∉ later) ∧ .tenantGone k.tenantId ∉ later := by
  induction later generalizing k with
  | nil =>
    rw [after_nil, Option.some.injEq]
    exact ⟨fun h => ⟨h.1.symm, fun _ => List.not_mem_nil, List.not_mem_nil⟩, fun h => ⟨h.1.symm, h.1 ▸ hlive⟩⟩
  | cons x later ih =>
    constructor
    · rintro ⟨hafter, hlive'⟩
      obtain ⟨k₁, hx, hrest⟩ := Option.bind_eq_some_iff.mp hafter
      have hlive₁ := revokedAt_of_after hrest hlive'
      obtain ⟨rfl, hrevoked, hgone⟩ := (onKey_eq_some_iff hlive hlive₁).mp hx
      obtain ⟨rfl, hrevokeds, hgones⟩ := (ih hlive₁).mp ⟨hrest, hlive'⟩
      exact ⟨rfl, fun n => List.not_mem_cons_of_ne_of_not_mem (hrevoked n).symm (hrevokeds n),
        List.not_mem_cons_of_ne_of_not_mem hgone.symm hgones⟩
    · rintro ⟨rfl, hrevoked, hgone⟩
      simp only [List.mem_cons, not_or] at hrevoked hgone
      have hx := (onKey_eq_some_iff (x := x) hlive hlive).mpr
        ⟨rfl, fun n => (hrevoked n).1 ∘ Eq.symm, hgone.1 ∘ Eq.symm⟩
      rw [after_cons, hx, Option.bind_some]
      exact (ih hlive).mpr ⟨rfl, fun n => (hrevoked n).2, hgone.2⟩

theorem fixed_of_after_onKey {later : List Obs} {k k' : ApiKey} (h : after Obs.onKey later k = some k') :
    (k'.keyPrefix, k'.keyHash, k'.expiresAt) = (k.keyPrefix, k.keyHash, k.expiresAt) := by
  refine after_invariant (fun k : ApiKey => (k.keyPrefix, k.keyHash, k.expiresAt)) (fun x k k' hx => ?_) h
  cases x with
  | revoked tenantId name now =>
    have hx := Option.some.inj hx
    split_ifs at hx
    · rw [← hx]; rfl
    · rw [hx]
  | tenantGone tenantId => rw [eq_of_ite_none hx]
  | _ => rw [Option.some.inj hx]

/-! ## A key -/

variable {s : Sys cfg} {h : List Obs}

theorem issuesWell_of_effect {s' : Sys cfg} {o : List Obs} (hs : s.Effect s' o) : ∀ x ∈ o, x.IssuesWell cfg := by
  cases hs with
  | told ho => exact fun x hx => (ho x hx).2
  | looked => exact fun x hx => List.mem_singleton.mp hx ▸ trivial
  | chose => exact fun x hx => List.mem_singleton.mp hx ▸ trivial
  | opened => exact fun x hx => List.mem_singleton.mp hx ▸ trivial
  | switched => exact fun x hx => List.mem_singleton.mp hx ▸ trivial
  | _ => exact fun x hx => absurd hx List.not_mem_nil

theorem issuesWell_of_reaches {db : Database cfg} {clock : ℤ} (hrun : (identity cfg).Reaches (Sys.init db clock) s h) :
    ∀ x ∈ h, x.IssuesWell cfg :=
  hrun.hist (I := fun _ h => ∀ x ∈ h, x.IssuesWell cfg)
    (fun hI hs x hx => (List.mem_append.mp hx).elim (hI x) (issuesWell_of_effect (step_effect hs) x))
    fun _ hx => absurd hx List.not_mem_nil

/-- The key has the hash of no other that was issued. -/
def KeyUncollided (cfg : Config) (h : List Obs) (key : String) : Prop :=
  ∀ key' row, .issued key' row ∈ h → cfg.tokenHash key' = cfg.tokenHash key → key' = key

/-- **A key resolves exactly when** it was issued, neither a revocation nor a rotation of its name came after, its
tenant was not deleted, and the tenant is active; it resolves to what it was issued with. -/
theorem key_resolves_iff {db : Database cfg} (hdb : Fresh db) {clock : ℤ}
    (hrun : (identity cfg).Reaches (Sys.init db clock) s h) {key : String} (hkey : KeyUncollided cfg h key) (now : ℤ)
    (p : KeyPrincipal) :
    resolveApiKey cfg s.db.toTables key now = some p ↔
      ∃ before row later, h = before ++ .issued key row :: later ∧ (∀ n, .revoked row.tenantId row.name n ∉ later) ∧
        .tenantGone row.tenantId ∉ later ∧ (∃ x ∈ s.db.tenants, x.id = row.tenantId ∧ x.status = .active) ∧
        p = ⟨row.tenantId, row.id, row.kind, row.scopes⟩ := by
  have hwell := issuesWell_of_reaches hrun
  rw [resolveApiKey_eq_some_iff s.db.keeps, (told_of_reaches hdb hrun).keys]
  constructor
  · rintro ⟨k, hk, hmatches, htenant, rfl⟩
    obtain ⟨-, hhash, hlive, -⟩ := matches_iff.mp hmatches
    obtain ⟨before, x, later, row, heq, hissues, hafter⟩ := mem_standing_iff.mp hk
    cases x with
    | issued key' row' =>
      obtain rfl := Option.some.inj hissues
      have hissued : .issued key' row' ∈ h := by simp [heq]
      have hrow : row'.keyHash = cfg.tokenHash key' := by rw [show row' = _ from hwell _ hissued]; rfl
      have hfixed := fixed_of_after_onKey hafter
      simp only [Prod.mk.injEq] at hfixed
      obtain rfl := hkey key' row' hissued (hrow.symm.trans (hfixed.2.1.symm.trans hhash))
      obtain ⟨rfl, hrevoked, hgone⟩ := (after_onKey_iff (revokedAt_of_after hafter hlive)).mp ⟨hafter, hlive⟩
      exact ⟨before, k, later, heq, hrevoked, hgone, htenant, rfl⟩
    | _ => cases hissues
  · rintro ⟨before, row, later, heq, hrevoked, hgone, htenant, rfl⟩
    have hrow : row = newApiKey cfg row.id row.tenantId row.kind row.name key row.scopes :=
      hwell (.issued key row) (by simp [heq])
    have hlive : row.revokedAt = none := by rw [hrow]; rfl
    have hafter : after Obs.onKey later row = some row ∧ row.revokedAt = none :=
      (after_onKey_iff hlive).mpr ⟨rfl, hrevoked, hgone⟩
    refine ⟨row, mem_standing_iff.mpr ⟨before, _, later, row, heq, rfl, hafter.1⟩, matches_iff.mpr ?_, htenant, rfl⟩
    rw [hrow]
    exact ⟨rfl, rfl, rfl, rfl⟩

namespace Example

def rotation : List Act :=
  [.createKey 1000 5 10 .device "gateway" "old-key-0" ["ingest"],
    .rotateKey 2000 6 10 .device "gateway" token ["ingest"],
    .createKey 3000 7 10 .service "gateway" "other" []]

/-- The third key is refused: its name has a live key. -/
theorem rotation_runs : ∃ r ∈ (identity config).exec (Sys.init site 0) rotation,
    resolveApiKey config r.1.db.toTables token 4000 = some ⟨10, 6, .device, ["ingest"]⟩ ∧
      resolveApiKey config r.1.db.toTables "old-key-0" 4000 = none ∧
      resolveApiKey config r.1.db.toTables "other" 4000 = none := by
  decide +kernel

end Example

theorem key_resolves_iff_gateway : ∃ s h, (identity Example.config).Reaches (Sys.init Example.site 0) s h ∧
    ∃ before row later, h = before ++ .issued Example.token row :: later ∧
      (∀ n, .revoked row.tenantId row.name n ∉ later) ∧ .tenantGone row.tenantId ∉ later ∧
      (∃ x ∈ s.db.tenants, x.id = row.tenantId ∧ x.status = .active) ∧
      (⟨10, 6, .device, ["ingest"]⟩ : KeyPrincipal) = ⟨row.tenantId, row.id, row.kind, row.scopes⟩ := by
  obtain ⟨⟨s, h⟩, hr, hrec, -, -⟩ := Example.rotation_runs
  have hrun : (identity Example.config).Reaches (Sys.init Example.site 0) s h := ⟨_, hr⟩
  have hkey : KeyUncollided Example.config h Example.token := fun _ _ _ heq => Equiv.injective _ heq
  exact ⟨s, h, hrun, (key_resolves_iff Example.site_fresh hrun hkey _ _).mp hrec⟩

end DTwin.Identity
