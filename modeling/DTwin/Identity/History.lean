import DTwin.Identity.Machine

/-!
# DTwin.Identity.History — the credentials are what the history tells

The tables of sessions and of keys are what stands of the history (`Told`): a session is opened by a sign-in, moves from
tenant to tenant, and ends when it is closed, purged, or its membership goes; a key is issued, and ends with its tenant.
`Sys.Effect` says once what an act can do; every statement keeps `Told` (`Told.effect`), so every run does
(`told_of_reaches`).
-/

namespace DTwin.Identity

open Table Tenure Machine

variable {cfg : Config}

/-! ## The tables are what stands -/

/-- The tables of credentials are what stands of the history. -/
structure Told (cfg : Config) (t : Tables) (h : List Obs) : Prop where
  sessions : t.sessions = standing Obs.opens (Obs.onSession cfg) h
  keys : t.apiKeys = standing Obs.issues Obs.onKey h

variable {t t' : Tables} {h : List Obs}

theorem filterMap_kept {α : Type} {f : α → Option α} (hf : ∀ a, f a = some a) (l : List α) : l.filterMap f = l := by
  rw [funext hf]
  exact List.filterMap_some

/-- An event, and tables that change as it says. -/
theorem Told.event (hT : Told cfg t h) {x : Obs}
    (hsessions : t'.sessions = t.sessions.filterMap (x.onSession cfg) ++ x.opens.toList)
    (hkeys : t'.apiKeys = t.apiKeys.filterMap x.onKey ++ x.issues.toList) : Told cfg t' (h ++ [x]) where
  sessions := by rw [hsessions, standing_concat, ← hT.sessions]
  keys := by rw [hkeys, standing_concat, ← hT.keys]

/-- An event that only sessions hear of. -/
theorem Told.onSessions (hT : Told cfg t h) {x : Obs}
    (hsessions : t'.sessions = t.sessions.filterMap (x.onSession cfg) ++ x.opens.toList)
    (hkeys : t'.apiKeys = t.apiKeys) (hissues : x.issues = none) (hkey : ∀ k, x.onKey k = some k) :
    Told cfg t' (h ++ [x]) := by
  refine hT.event hsessions ?_
  rw [hkeys, hissues, filterMap_kept hkey]
  exact (List.append_nil _).symm

/-- An event that only keys hear of. -/
theorem Told.onKeys (hT : Told cfg t h) {x : Obs} (hsessions : t'.sessions = t.sessions)
    (hkeys : t'.apiKeys = t.apiKeys.filterMap x.onKey ++ x.issues.toList) (hopens : x.opens = none)
    (hsession : ∀ s, x.onSession cfg s = some s) : Told cfg t' (h ++ [x]) := by
  refine hT.event ?_ hkeys
  rw [hsessions, hopens, filterMap_kept hsession]
  exact (List.append_nil _).symm

/-- Nothing is said where no credential changes. -/
theorem Told.unsaid (hT : Told cfg t h) (hsessions : t'.sessions = t.sessions) (hkeys : t'.apiKeys = t.apiKeys) :
    Told cfg t' (h ++ []) := by
  rw [List.append_nil]
  exact ⟨hsessions.trans hT.sessions, hkeys.trans hT.keys⟩

/-- An event that acts on no credential. -/
theorem Told.silent (hT : Told cfg t h) {x : Obs} (hopens : x.opens = none) (hissues : x.issues = none)
    (hsession : ∀ s, x.onSession cfg s = some s) (hkey : ∀ k, x.onKey k = some k) : Told cfg t (h ++ [x]) := by
  refine hT.onSessions ?_ rfl hissues hkey
  rw [hopens, filterMap_kept hsession]
  exact (List.append_nil _).symm

theorem Told.opened (hT : Told cfg t h) (o : Opened) :
    Told cfg (t.withSessions (t.sessions ++ [o.session])) (h ++ [.opened o]) := by
  refine hT.onSessions ?_ rfl rfl fun _ => rfl
  rw [filterMap_kept (f := (Obs.opened o).onSession cfg) fun _ => rfl]
  rfl

theorem Told.switched (hT : Told cfg t h) {sessionId userId tenantId : Uuid}
    (henter : t.mayEnter userId tenantId = true) :
    Told cfg (switchTenant t sessionId userId tenantId) (h ++ [.switched sessionId userId tenantId]) := by
  have hmap : t.sessions.filterMap ((Obs.switched sessionId userId tenantId).onSession cfg) =
      updateWhere (Session.enters sessionId userId) (Session.entering tenantId) t.sessions := by
    rw [show (Obs.switched sessionId userId tenantId).onSession cfg =
      some ∘ fun s => if s.enters sessionId userId then s.entering tenantId else s from rfl, List.filterMap_eq_map]
    rfl
  rw [switchTenant, if_pos henter]
  exact hT.onSessions (by rw [hmap]; simp [Obs.opens, Tables.withSessions]) rfl rfl fun _ => rfl

theorem Told.closed (hT : Told cfg t h) (token : String) :
    Told cfg (deleteSession cfg t token) (h ++ [.closed token]) := by
  refine hT.onSessions ?_ rfl rfl fun _ => rfl
  show _ = (t.sessions.filterMap fun s => if s.tokenHash = cfg.tokenHash token then none else some s) ++ []
  rw [filterMap_ending, List.append_nil]
  rfl

theorem Told.purged (hT : Told cfg t h) (now : ℤ) : Told cfg (purgeExpiredSessions t now) (h ++ [.purged now]) := by
  refine hT.onSessions ?_ rfl rfl fun _ => rfl
  show _ = (t.sessions.filterMap fun s => if s.expiresAt < now then none else some s) ++ []
  rw [filterMap_ending, List.append_nil]
  rfl

theorem Told.issued (hT : Told cfg t h) (key : String) (row : ApiKey) :
    Told cfg (createApiKey t row) (h ++ [.issued key row]) := by
  refine hT.onKeys rfl ?_ rfl fun _ => rfl
  rw [filterMap_kept (f := (Obs.issued key row).onKey) fun _ => rfl]
  rfl

theorem Told.revoked (hT : Told cfg t h) (tenantId : Uuid) (name : String) (now : ℤ) :
    Told cfg (revokeApiKey t tenantId name now) (h ++ [.revoked tenantId name now]) := by
  have hmap : t.apiKeys.filterMap (Obs.revoked tenantId name now).onKey =
      updateWhere (ApiKey.named tenantId name) (ApiKey.revoked now) t.apiKeys := by
    rw [show (Obs.revoked tenantId name now).onKey =
      some ∘ fun k => if k.named tenantId name then k.revoked now else k from rfl, List.filterMap_eq_map]
    rfl
  exact hT.onKeys rfl (by rw [hmap]; simp [Obs.issues, revokeApiKey, Tables.withKeys]) rfl fun _ => rfl

theorem filter_not_decide {α : Type} (l : List α) (p : α → Prop) [DecidablePred p] :
    (l.filter fun a => !decide (p a)) = l.filter fun a => ¬ p a :=
  List.filter_congr fun _ _ => decide_not.symm

theorem Told.statement (hT : Told cfg t h) : ∀ st : Statement, Told cfg (st.run t) (h ++ st.gone)
  | .createTenant _ => hT.unsaid rfl rfl
  | .createUser _ => hT.unsaid rfl rfl
  | .addMember _ => hT.unsaid rfl rfl
  | .updateUser _ => hT.unsaid rfl rfl
  | .updateTenant _ => hT.unsaid rfl rfl
  | .removeMember tenantId userId => by
    refine hT.onSessions ?_ rfl rfl fun _ => rfl
    show _ = (t.sessions.filterMap fun s => if s.memberKey = (tenantId, userId) then none else some s) ++ []
    rw [filterMap_ending, List.append_nil, ← filter_not_decide]
    rfl
  | .deleteUser userId => by
    refine hT.onSessions ?_ rfl rfl fun _ => rfl
    show _ = (t.sessions.filterMap fun s => if s.userId = userId then none else some s) ++ []
    rw [filterMap_ending, List.append_nil, ← filter_not_decide]
    rfl
  | .deleteTenant tenantId => by
    refine hT.event ?_ ?_
    · show _ = (t.sessions.filterMap fun s => if s.tenantId = tenantId then none else some s) ++ []
      rw [filterMap_ending, List.append_nil, ← filter_not_decide]
      rfl
    · show _ = (t.apiKeys.filterMap fun k => if k.tenantId = tenantId then none else some k) ++ []
      rw [filterMap_ending, List.append_nil]
      rfl

theorem Told.rotate (hT : Told cfg t h) (key : String) (row : ApiKey) (now : ℤ) :
    Told cfg (rotateApiKey t row now) (h ++ [.revoked row.tenantId row.name now, .issued key row]) := by
  rw [show [Obs.revoked row.tenantId row.name now, .issued key row] =
    [.revoked row.tenantId row.name now] ++ [.issued key row] from rfl, ← List.append_assoc]
  exact (hT.revoked row.tenantId row.name now).issued key row

/-! ## What an act does -/

/-- An event of a sign-in. -/
def Obs.signsIn : Obs → Bool
  | .looked .. => true
  | .chose .. => true
  | .opened _ => true
  | _ => false

/-- A key is issued as `createApiKey` makes it. -/
def Obs.IssuesWell (cfg : Config) : Obs → Prop
  | .issued key row => row = newApiKey cfg row.id row.tenantId row.kind row.name key row.scopes
  | _ => True

/-- What an act does to the calls and to the database. -/
inductive Sys.Effect (s : Sys cfg) : Sys cfg → List Obs → Prop
  | looked (email password : String) (tenantSlug : Option String) :
    s.Effect { s with calls := s.calls ++ [.verifying password tenantSlug (s.db.userOf cfg email)] }
      [.looked s.calls.length email password (s.db.userOf cfg email)]
  | ended (call : ℕ) : s.Effect (s.goTo call .done) []
  | verified {call : ℕ} {password : String} {tenantSlug : Option String} {u : User}
      (hcall : s.calls[call]? = some (.verifying password tenantSlug (some u)))
      (hverifies : verifies cfg password (some u) = true) (hactive : u.isActive = true) :
    s.Effect (s.goTo call (.verified password tenantSlug u)) []
  | chose {call : ℕ} {password : String} {tenantSlug : Option String} {u : User} {m : Member}
      (hcall : s.calls[call]? = some (.verified password tenantSlug u))
      (hm : IsOldest (s.db.openable u.id tenantSlug) (some m)) :
    s.Effect (s.goTo call (.chosen password u.id m.tenantId)) [.chose call u m]
  | opened {call : ℕ} {password : String} {userId tenantId : Uuid} {db : Database cfg} (o : Opened)
      (hcall : s.calls[call]? = some (.chosen password userId tenantId))
      (ho : o = ⟨call, password, o.token, o.webNow, newSession cfg o.session.id userId tenantId o.token o.webNow⟩)
      (hdb : db.toTables = s.db.withSessions (s.db.sessions ++ [o.session])) :
    s.Effect ((s.goTo call .done).onDb db) [.opened o]
  | viewed (viewer : SessionRecord) : s.Effect { s with calls := s.calls ++ [.viewing viewer] } []
  | switched {call : ℕ} {viewer : SessionRecord} {tenantId : Uuid} {db : Database cfg}
      (hcall : s.calls[call]? = some (.viewing viewer)) (henter : s.db.mayEnter viewer.userId tenantId = true)
      (hdb : db.toTables = switchTenant s.db.toTables viewer.sessionId viewer.userId tenantId) :
    s.Effect ((s.goTo call .done).onDb db) [.switched viewer.sessionId viewer.userId tenantId]
  | told {db : Database cfg} {o : List Obs} (ho : ∀ x ∈ o, x.signsIn = false ∧ x.IssuesWell cfg)
      (hdb : ∀ h, Told cfg s.db.toTables h → Told cfg db.toTables (h ++ o)) : s.Effect (s.onDb db) o

theorem Statement.signsIn_gone : ∀ (st : Statement), ∀ x ∈ st.gone, x.signsIn = false ∧ x.IssuesWell cfg
  | .createTenant _, _, hx => absurd hx List.not_mem_nil
  | .createUser _, _, hx => absurd hx List.not_mem_nil
  | .addMember _, _, hx => absurd hx List.not_mem_nil
  | .updateUser _, _, hx => absurd hx List.not_mem_nil
  | .updateTenant _, _, hx => absurd hx List.not_mem_nil
  | .removeMember .., _, hx => List.mem_singleton.mp hx ▸ ⟨rfl, trivial⟩
  | .deleteUser _, _, hx => List.mem_singleton.mp hx ▸ ⟨rfl, trivial⟩
  | .deleteTenant _, _, hx => List.mem_singleton.mp hx ▸ ⟨rfl, trivial⟩

variable {s s' : Sys cfg} {o : List Obs}

theorem effect_refl (s : Sys cfg) : s.Effect s [] :=
  @Sys.Effect.told cfg s s.db [] (fun _ hx => absurd hx List.not_mem_nil) fun _ hT => hT.unsaid rfl rfl

/-- A statement that can fail: it did what it said, or nothing. -/
theorem effect_of_commit (ho : ∀ x ∈ o, x.signsIn = false ∧ x.IssuesWell cfg)
    (ht : ∀ h, Told cfg s.db.toTables h → Told cfg t (h ++ o)) : s.Effect (s.commit t o).1 (s.commit t o).2 := by
  unfold Sys.commit
  split
  · next db hdb => exact .told ho fun h hT => by rw [commit_eq_some hdb]; exact ht h hT
  · exact effect_refl s

theorem perform_effect {a : Act} (hs : s.perform a = some (s', o)) : s.Effect s' o := by
  cases a with
  | login now email password tenantSlug =>
    obtain ⟨rfl, rfl⟩ := Prod.mk.inj (Option.some.inj hs)
    exact .looked email password tenantSlug
  | verify call =>
    simp only [Sys.perform] at hs
    split at hs
    · next password tenantSlug user hcall =>
      split at hs
      · next u =>
        split_ifs at hs with hok
        · obtain ⟨rfl, rfl⟩ := Prod.mk.inj (Option.some.inj hs)
          obtain ⟨hverifies, hactive⟩ := Bool.and_eq_true _ _ ▸ hok
          exact .verified hcall hverifies hactive
        · obtain ⟨rfl, rfl⟩ := Prod.mk.inj (Option.some.inj hs)
          exact .ended call
      · obtain ⟨rfl, rfl⟩ := Prod.mk.inj (Option.some.inj hs)
        exact .ended call
    · cases hs
  | choose call now member =>
    simp only [Sys.perform] at hs
    split at hs
    · next password tenantSlug user hcall =>
      split_ifs at hs with hm
      split at hs
      · obtain ⟨rfl, rfl⟩ := Prod.mk.inj (Option.some.inj hs)
        exact .ended call
      · obtain ⟨rfl, rfl⟩ := Prod.mk.inj (Option.some.inj hs)
        exact .chose hcall hm
    · cases hs
  | insert call now token sessionId webNow =>
    simp only [Sys.perform] at hs
    split at hs
    · next password userId tenantId hcall =>
      have hs := Option.some.inj hs
      unfold Sys.commit at hs
      split at hs
      · next db hdb =>
        obtain ⟨rfl, rfl⟩ := Prod.mk.inj hs
        exact .opened _ hcall rfl (commit_eq_some hdb)
      · obtain ⟨rfl, rfl⟩ := Prod.mk.inj hs
        exact .ended call
    · cases hs
  | view now token =>
    simp only [Sys.perform] at hs
    split at hs
    · next viewer _ =>
      obtain ⟨rfl, rfl⟩ := Prod.mk.inj (Option.some.inj hs)
      exact .viewed viewer
    · obtain ⟨rfl, rfl⟩ := Prod.mk.inj (Option.some.inj hs)
      exact effect_refl s
  | switch call now tenantId =>
    simp only [Sys.perform] at hs
    split at hs
    · next viewer hcall =>
      obtain ⟨rfl, rfl⟩ := Prod.mk.inj (Option.some.inj hs)
      by_cases henter : s.db.mayEnter viewer.userId tenantId = true
      · rw [if_pos henter]
        exact .switched hcall henter rfl
      · rw [if_neg henter]
        have hsame : (⟨_, s.db.keeps.switchTenant viewer.sessionId viewer.userId tenantId⟩ : Database cfg) = s.db := by
          have htables : switchTenant s.db.toTables viewer.sessionId viewer.userId tenantId = s.db.toTables :=
            if_neg henter
          simp only [htables]
        rw [hsame]
        exact .ended call
    · cases hs
  | logout now token =>
    obtain ⟨rfl, rfl⟩ := Prod.mk.inj (Option.some.inj hs)
    exact .told (by simp [Obs.signsIn, Obs.IssuesWell, newApiKey]) fun h hT => hT.closed token
  | purge now =>
    obtain ⟨rfl, rfl⟩ := Prod.mk.inj (Option.some.inj hs)
    exact .told (by simp [Obs.signsIn, Obs.IssuesWell, newApiKey]) fun h hT => hT.purged now
  | createKey now id tenantId kind name key scopes =>
    have heffect := effect_of_commit (s := s)
      (t := createApiKey s.db.toTables (newApiKey cfg id tenantId kind name key scopes))
      (o := [.issued key _]) (by simp [Obs.signsIn, Obs.IssuesWell, newApiKey]) fun h hT => hT.issued key _
    rwa [Option.some.inj hs] at heffect
  | rotateKey now id tenantId kind name key scopes =>
    have heffect := effect_of_commit (s := s) (o := [.revoked tenantId name now, .issued key _])
      (by simp [Obs.signsIn, Obs.IssuesWell, newApiKey]) fun h hT =>
        hT.rotate key (newApiKey cfg id tenantId kind name key scopes) now
    rwa [Option.some.inj hs] at heffect
  | revokeKey now tenantId name =>
    obtain ⟨rfl, rfl⟩ := Prod.mk.inj (Option.some.inj hs)
    exact .told (by simp [Obs.signsIn, Obs.IssuesWell, newApiKey]) fun h hT => hT.revoked tenantId name now
  | admin now st =>
    have heffect := effect_of_commit (s := s) st.signsIn_gone fun h hT => hT.statement st
    rwa [Option.some.inj hs] at heffect

theorem Told.effect (hT : Told cfg s.db.toTables h) (hs : s.Effect s' o) : Told cfg s'.db.toTables (h ++ o) := by
  cases hs with
  | looked => exact hT.silent rfl rfl (fun _ => rfl) fun _ => rfl
  | ended call => exact hT.unsaid rfl rfl
  | verified => exact hT.unsaid rfl rfl
  | chose => exact hT.silent rfl rfl (fun _ => rfl) fun _ => rfl
  | opened o _ _ hdb =>
    show Told cfg (Database.toTables _) _
    exact hdb ▸ hT.opened o
  | viewed viewer => exact hT.unsaid rfl rfl
  | switched _ henter hdb =>
    show Told cfg (Database.toTables _) _
    exact hdb ▸ hT.switched henter
  | told _ hdb => exact hdb h hT

theorem step_effect {a : Act} (hs : step s a = some (s', o)) : (s.at a.now?).Effect s' o := by
  unfold step at hs
  split_ifs at hs
  exact perform_effect hs

/-- A database in which nobody has a credential yet. -/
structure Fresh (db : Database cfg) : Prop where
  sessions : db.sessions = []
  apiKeys : db.apiKeys = []

theorem told_of_reaches {db : Database cfg} (hdb : Fresh db) {clock : ℤ}
    (hrun : (identity cfg).Reaches (Sys.init db clock) s h) : Told cfg s.db.toTables h :=
  hrun.hist (I := fun s h => Told cfg s.db.toTables h) (fun hT hs => hT.effect (s := Sys.at _ _) (step_effect hs))
    ⟨hdb.sessions, hdb.apiKeys⟩

end DTwin.Identity
