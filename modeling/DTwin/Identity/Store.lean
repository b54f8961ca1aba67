import DTwin.Types.Control
import DTwin.Lib.Table
import Mathlib.Data.List.Nodup
import Mathlib.Data.List.Perm.Lattice

/-!
# DTwin.Identity.Store — people, tenants and their credentials

The identity tables of migrations 007 and 009 and the statements on them of `packages/db/src/auth.ts` and
`packages/db/src/queries/tenancy.ts`.  The constraints are a field of `Database`: a statement that would break one fails
and leaves the database as it was (`commit`); those that cannot break one are shown not to (`Keeps.delete` and below).
Instants are in milliseconds.  `tokenHash` (SHA-256), `verifyPassword` (scrypt) and `lower` (the collation's) are
parameters.
-/

namespace DTwin.Identity

open Table

/-- What the code takes from outside. -/
structure Config where
  tokenHash : String → String
  verifyPassword : String → String → Bool
  lower : String → String

/-! ## The tables -/

structure User where
  id : Uuid
  email : String
  displayName : String
  passwordHash : Option String
  isActive : Bool
deriving DecidableEq

inductive TenantStatus | active | suspended
deriving DecidableEq

structure Tenant where
  id : Uuid
  slug : String
  name : String
  status : TenantStatus
deriving DecidableEq

/-- A row of `tenant_members`. -/
structure Member where
  tenantId : Uuid
  userId : Uuid
  role : TenantRole
  createdAt : ℤ
deriving DecidableEq

structure Session where
  id : Uuid
  tokenHash : String
  userId : Uuid
  tenantId : Uuid
  expiresAt : ℤ
deriving DecidableEq

inductive ApiKeyKind | device | service
deriving DecidableEq

structure ApiKey where
  id : Uuid
  tenantId : Uuid
  kind : ApiKeyKind
  name : String
  keyPrefix : String
  keyHash : String
  scopes : List String
  expiresAt : Option ℤ
  revokedAt : Option ℤ
deriving DecidableEq

structure Tables where
  users : List User
  tenants : List Tenant
  members : List Member
  sessions : List Session
  apiKeys : List ApiKey

def Member.key (m : Member) : Uuid × Uuid := (m.tenantId, m.userId)

/-- The membership that a session refers to. -/
def Session.memberKey (s : Session) : Uuid × Uuid := (s.tenantId, s.userId)

def ApiKey.live (k : ApiKey) : Bool := k.revokedAt.isNone

def ApiKey.nameKey (k : ApiKey) : Uuid × String := (k.tenantId, k.name)

/-- The constraints: primary keys, unique indexes and foreign keys. -/
structure Tables.Keeps (cfg : Config) (t : Tables) : Prop where
  userIds : (t.users.map User.id).Nodup
  userEmails : (t.users.map fun u => cfg.lower u.email).Nodup
  tenantIds : (t.tenants.map Tenant.id).Nodup
  slugs : (t.tenants.map Tenant.slug).Nodup
  memberIds : (t.members.map Member.key).Nodup
  memberTenants : ∀ m ∈ t.members, m.tenantId ∈ t.tenants.map Tenant.id
  memberUsers : ∀ m ∈ t.members, m.userId ∈ t.users.map User.id
  sessionIds : (t.sessions.map Session.id).Nodup
  tokenHashes : (t.sessions.map Session.tokenHash).Nodup
  sessionMembers : ∀ s ∈ t.sessions, s.memberKey ∈ t.members.map Member.key
  keyIds : (t.apiKeys.map ApiKey.id).Nodup
  keyHashes : (t.apiKeys.map ApiKey.keyHash).Nodup
  keyTenants : ∀ k ∈ t.apiKeys, k.tenantId ∈ t.tenants.map Tenant.id
  /-- `api_keys_tenant_name_live_uidx`. -/
  liveNames : ((t.apiKeys.filter ApiKey.live).map ApiKey.nameKey).Nodup

instance (cfg : Config) (t : Tables) : Decidable (t.Keeps cfg) :=
  decidable_of_iff
    (((t.users.map User.id).Nodup ∧ (t.users.map fun u => cfg.lower u.email).Nodup ∧
        (t.tenants.map Tenant.id).Nodup ∧ (t.tenants.map Tenant.slug).Nodup) ∧
      ((t.members.map Member.key).Nodup ∧ (∀ m ∈ t.members, m.tenantId ∈ t.tenants.map Tenant.id) ∧
        ∀ m ∈ t.members, m.userId ∈ t.users.map User.id) ∧
      ((t.sessions.map Session.id).Nodup ∧ (t.sessions.map Session.tokenHash).Nodup ∧
        ∀ s ∈ t.sessions, s.memberKey ∈ t.members.map Member.key) ∧
      (t.apiKeys.map ApiKey.id).Nodup ∧ (t.apiKeys.map ApiKey.keyHash).Nodup ∧
        (∀ k ∈ t.apiKeys, k.tenantId ∈ t.tenants.map Tenant.id) ∧
        ((t.apiKeys.filter ApiKey.live).map ApiKey.nameKey).Nodup)
    ⟨fun ⟨⟨a, b, c, d⟩, ⟨e, f, g⟩, ⟨i, j, k⟩, l, m, n, o⟩ => ⟨a, b, c, d, e, f, g, i, j, k, l, m, n, o⟩,
      fun ⟨a, b, c, d, e, f, g, i, j, k, l, m, n, o⟩ => ⟨⟨a, b, c, d⟩, ⟨e, f, g⟩, ⟨i, j, k⟩, l, m, n, o⟩⟩

structure Database (cfg : Config) extends Tables where
  keeps : toTables.Keeps cfg

/-- The end of a statement: the constraints are checked. -/
def commit (cfg : Config) (t : Tables) : Option (Database cfg) :=
  if h : t.Keeps cfg then some ⟨t, h⟩ else none

theorem commit_eq_some {cfg : Config} {t : Tables} {db : Database cfg} (h : commit cfg t = some db) :
    db.toTables = t := by
  unfold commit at h
  split_ifs at h with hkeeps
  cases h
  rfl

/-! ## Sign-in -/

def SESSION_TTL_MS : ℤ := 12 * 60 * 60 * 1000

def ABSENT_USER_HASH : String :=
  "scrypt$32768$8$1$AAAAAAAAAAAAAAAAAAAAAA$ZmFrZWhhc2hmb3J0aW1pbmdlcXVhbGl0eW9ubHlub3RhcmVhbA"

variable (cfg : Config)

/-- The user of an address; compared folded. -/
def Tables.userOf (t : Tables) (email : String) : Option User :=
  t.users.find? fun u => cfg.lower u.email = cfg.lower email

/-- The password is verified against a dummy where no user has the address. -/
def verifies (password : String) (user : Option User) : Bool :=
  cfg.verifyPassword password ((user.bind User.passwordHash).getD ABSENT_USER_HASH)

/-- The memberships that `login` picks from. -/
def Tables.openable (t : Tables) (userId : Uuid) (tenantSlug : Option String) : List Member :=
  t.members.filter fun m => m.userId = userId && (t.users.any fun u => u.id = m.userId && u.isActive) &&
    t.tenants.any fun x => x.id = m.tenantId && x.status = .active && tenantSlug.all (x.slug = ·)

/-- `ORDER BY m.created_at LIMIT 1` may answer any of the oldest. -/
def IsOldest (members : List Member) : Option Member → Prop
  | none => members = []
  | some m => m ∈ members ∧ ∀ m' ∈ members, m.createdAt ≤ m'.createdAt

instance (members : List Member) : ∀ m, Decidable (IsOldest members m)
  | none => inferInstanceAs (Decidable (members = []))
  | some m => inferInstanceAs (Decidable (m ∈ members ∧ ∀ m' ∈ members, m.createdAt ≤ m'.createdAt))

/-! ## Sessions -/

structure SessionRecord where
  sessionId : Uuid
  userId : Uuid
  tenantId : Uuid
  role : TenantRole
  displayName : String
  email : String
deriving DecidableEq

/-- The rows of `resolveSession`. -/
def Tables.sessionRows (t : Tables) (token : String) (now : ℤ) : List SessionRecord :=
  t.sessions.flatMap fun s => (t.users.filter fun u => u.id = s.userId).flatMap fun u =>
    (t.members.filter fun m => m.key = s.memberKey).flatMap fun m =>
      (t.tenants.filter fun x => x.id = s.tenantId).flatMap fun x =>
        if s.tokenHash = cfg.tokenHash token ∧ now < s.expiresAt ∧ u.isActive = true ∧ x.status = .active then
          [⟨s.id, s.userId, s.tenantId, m.role, u.displayName, u.email⟩]
        else []

def resolveSession (t : Tables) (token : String) (now : ℤ) : Option SessionRecord :=
  (t.sessionRows cfg token now).head?

/-- The tables with other sessions. -/
def Tables.withSessions (t : Tables) (sessions : List Session) : Tables := { t with sessions }

/-- `deleteSession`. -/
def deleteSession (t : Tables) (token : String) : Tables :=
  t.withSessions (t.sessions.filter fun s => s.tokenHash ≠ cfg.tokenHash token)

def purgeExpiredSessions (t : Tables) (now : ℤ) : Tables :=
  t.withSessions (t.sessions.filter fun s => ¬ s.expiresAt < now)

/-- The membership check of `switchTenant`, which stands in its `WHERE`. -/
def Tables.mayEnter (t : Tables) (userId tenantId : Uuid) : Bool :=
  t.members.any fun m => m.tenantId = tenantId && m.userId = userId &&
    t.tenants.any fun x => x.id = m.tenantId && x.status = .active

def Session.enters (sessionId userId : Uuid) (s : Session) : Bool := s.id = sessionId && s.userId = userId

def Session.entering (tenantId : Uuid) (s : Session) : Session := { s with tenantId }

def switchTenant (t : Tables) (sessionId userId tenantId : Uuid) : Tables :=
  if t.mayEnter userId tenantId then
    t.withSessions (updateWhere (Session.enters sessionId userId) (Session.entering tenantId) t.sessions)
  else t

/-! ## API keys -/

/-- A key as `resolveApiKey` answers it. -/
structure KeyPrincipal where
  tenantId : Uuid
  apiKeyId : Uuid
  keyKind : ApiKeyKind
  scopes : List String
deriving DecidableEq

/-- `key.slice(0, 8)`; a key is ASCII. -/
def prefixOf (key : String) : String := String.ofList (key.toList.take 8)

def ApiKey.matches (key : String) (now : ℤ) (k : ApiKey) : Bool :=
  k.keyPrefix = prefixOf key && k.keyHash = cfg.tokenHash key && k.live && k.expiresAt.all (now < ·)

def Tables.keyRows (t : Tables) (key : String) (now : ℤ) : List KeyPrincipal :=
  (t.apiKeys.filter fun k => k.matches cfg key now).flatMap fun k =>
    (t.tenants.filter fun x => x.id = k.tenantId && x.status = .active).map fun _ =>
      ⟨k.tenantId, k.id, k.kind, k.scopes⟩

def resolveApiKey (t : Tables) (key : String) (now : ℤ) : Option KeyPrincipal := (t.keyRows cfg key now).head?

/-- The tables with other keys. -/
def Tables.withKeys (t : Tables) (apiKeys : List ApiKey) : Tables := { t with apiKeys }

def ApiKey.named (tenantId : Uuid) (name : String) (k : ApiKey) : Bool :=
  k.tenantId = tenantId && k.name = name && k.live

def ApiKey.revoked (now : ℤ) (k : ApiKey) : ApiKey := { k with revokedAt := some now }

def revokeApiKey (t : Tables) (tenantId : Uuid) (name : String) (now : ℤ) : Tables :=
  t.withKeys (updateWhere (ApiKey.named tenantId name) (ApiKey.revoked now) t.apiKeys)

/-- The row that `createApiKey` and `rotateApiKey` insert. -/
def newApiKey (id tenantId : Uuid) (kind : ApiKeyKind) (name key : String) (scopes : List String) : ApiKey :=
  ⟨id, tenantId, kind, name, prefixOf key, cfg.tokenHash key, scopes, none, none⟩

def createApiKey (t : Tables) (k : ApiKey) : Tables := t.withKeys (t.apiKeys ++ [k])

/-- Revoke and create, in one transaction. -/
def rotateApiKey (t : Tables) (k : ApiKey) (now : ℤ) : Tables :=
  createApiKey (revokeApiKey t k.tenantId k.name now) k

/-! ## Provisioning and administration -/

/-- Statements of `tenancy.ts` and of an administrator. -/
inductive Statement
  | createTenant (tenant : Tenant)
  | createUser (user : User)
  /-- `addMember`: the role of a member is updated. -/
  | addMember (member : Member)
  /-- `UPDATE users`, `UPDATE tenants`. -/
  | updateUser (user : User)
  | updateTenant (tenant : Tenant)
  | removeMember (tenantId userId : Uuid)
  | deleteUser (userId : Uuid)
  | deleteTenant (tenantId : Uuid)

/-- `ON CONFLICT (tenant_id, user_id) DO UPDATE SET role`. -/
def mergeMember (old new : Member) : Member := { old with role := new.role }

/-- `ON DELETE CASCADE` of the memberships in `gone`, and of the sessions that refer to them. -/
def Tables.withoutMembers (t : Tables) (gone : Uuid × Uuid → Bool) : Tables :=
  { t with
    members := t.members.filter fun m => !gone m.key
    sessions := t.sessions.filter fun s => !gone s.memberKey }

def Statement.run (t : Tables) : Statement → Tables
  | .createTenant tenant => { t with tenants := t.tenants ++ [tenant] }
  | .createUser user => { t with users := t.users ++ [user] }
  | .addMember member => { t with members := upsert Member.key mergeMember member t.members }
  | .updateUser user => { t with users := updateWhere (fun u => u.id = user.id) (fun _ => user) t.users }
  | .updateTenant tenant => { t with tenants := updateWhere (fun x => x.id = tenant.id) (fun _ => tenant) t.tenants }
  | .removeMember tenantId userId => t.withoutMembers fun k => k = (tenantId, userId)
  | .deleteUser userId =>
    { t.withoutMembers (fun k => k.2 = userId) with users := t.users.filter fun u => u.id ≠ userId }
  | .deleteTenant tenantId =>
    { t.withoutMembers (fun k => k.1 = tenantId) with
      tenants := t.tenants.filter fun x => x.id ≠ tenantId
      apiKeys := t.apiKeys.filter fun k => k.tenantId ≠ tenantId }

/-! ## What cannot fail -/

variable {cfg} {t : Tables}

theorem Tables.Keeps.withSessions (h : t.Keeps cfg) {sessions : List Session} (hids : (sessions.map Session.id).Nodup)
    (hhashes : (sessions.map Session.tokenHash).Nodup)
    (hmembers : ∀ s ∈ sessions, s.memberKey ∈ t.members.map Member.key) : (t.withSessions sessions).Keeps cfg :=
  { h with sessionIds := hids, tokenHashes := hhashes, sessionMembers := hmembers }

theorem Tables.Keeps.sublist (h : t.Keeps cfg) {sessions : List Session} (hsub : sessions.Sublist t.sessions) :
    (t.withSessions sessions).Keeps cfg :=
  h.withSessions (h.sessionIds.sublist (hsub.map _)) (h.tokenHashes.sublist (hsub.map _))
    fun s hs => h.sessionMembers s (hsub.subset hs)

theorem Tables.Keeps.deleteSession (h : t.Keeps cfg) (token : String) : (deleteSession cfg t token).Keeps cfg :=
  h.sublist List.filter_sublist

theorem Tables.Keeps.purge (h : t.Keeps cfg) (now : ℤ) : (purgeExpiredSessions t now).Keeps cfg :=
  h.sublist List.filter_sublist

theorem mayEnter_iff {userId tenantId : Uuid} :
    t.mayEnter userId tenantId = true ↔ (tenantId, userId) ∈ t.members.map Member.key ∧
      ∃ x ∈ t.tenants, x.id = tenantId ∧ x.status = .active := by
  simp only [Tables.mayEnter, List.any_eq_true, Bool.and_eq_true, decide_eq_true_eq, List.mem_map, Member.key]
  constructor
  · rintro ⟨m, hm, ⟨rfl, rfl⟩, x, hx, hid, hactive⟩
    exact ⟨⟨m, hm, rfl⟩, x, hx, hid, hactive⟩
  · rintro ⟨⟨m, hm, heq⟩, x, hx, hid, hactive⟩
    obtain ⟨rfl, rfl⟩ := Prod.mk.inj heq
    exact ⟨m, hm, ⟨rfl, rfl⟩, x, hx, hid, hactive⟩

theorem Tables.Keeps.switchTenant (h : t.Keeps cfg) (sessionId userId tenantId : Uuid) :
    (switchTenant t sessionId userId tenantId).Keeps cfg := by
  unfold Identity.switchTenant
  split_ifs with henter
  · refine h.withSessions ?_ ?_ fun s hs => ?_
    · rw [map_updateWhere (f := Session.entering tenantId) fun _ => rfl]
      exact h.sessionIds
    · rw [map_updateWhere (f := Session.entering tenantId) fun _ => rfl]
      exact h.tokenHashes
    · rcases mem_updateWhere_cases hs with ⟨s₀, -, hp, rfl⟩ | ⟨hs₀, -⟩
      · simp only [Session.enters, Bool.and_eq_true, decide_eq_true_eq] at hp
        show (tenantId, s₀.userId) ∈ _
        rw [hp.2]
        exact (mayEnter_iff.mp henter).1
      · exact h.sessionMembers s hs₀
  · exact h

theorem filter_live_revoked (keys : List ApiKey) (tenantId : Uuid) (name : String) (now : ℤ) :
    (updateWhere (ApiKey.named tenantId name) (ApiKey.revoked now) keys).filter ApiKey.live =
      keys.filter fun k => k.live && !k.named tenantId name := by
  induction keys with
  | nil => rfl
  | cons k keys ih =>
    rw [show updateWhere (ApiKey.named tenantId name) (ApiKey.revoked now) (k :: keys) =
      (if k.named tenantId name then k.revoked now else k) ::
        updateWhere (ApiKey.named tenantId name) (ApiKey.revoked now) keys from rfl]
    rw [List.filter_cons, List.filter_cons, ih]
    cases hnamed : k.named tenantId name with
    | true => simp [ApiKey.live, ApiKey.revoked]
    | false => simp

theorem Tables.Keeps.revokeApiKey (h : t.Keeps cfg) (tenantId : Uuid) (name : String) (now : ℤ) :
    (revokeApiKey t tenantId name now).Keeps cfg := by
  have hlive : ((updateWhere (ApiKey.named tenantId name) (ApiKey.revoked now) t.apiKeys).filter
      ApiKey.live).Sublist (t.apiKeys.filter ApiKey.live) := by
    rw [filter_live_revoked]
    exact List.monotone_filter_right _ fun k hk => (Bool.and_eq_true _ _ ▸ hk).1
  refine { h with
    keyIds := ?_
    keyHashes := ?_
    keyTenants := fun k hk => ?_
    liveNames := h.liveNames.sublist (hlive.map _) }
  · show ((updateWhere _ _ t.apiKeys).map ApiKey.id).Nodup
    rw [map_updateWhere (f := ApiKey.revoked now) fun _ => rfl]
    exact h.keyIds
  · show ((updateWhere _ _ t.apiKeys).map ApiKey.keyHash).Nodup
    rw [map_updateWhere (f := ApiKey.revoked now) fun _ => rfl]
    exact h.keyHashes
  · rcases mem_updateWhere_cases hk with ⟨k₀, hk₀, -, rfl⟩ | ⟨hk₀, -⟩
    · exact h.keyTenants k₀ hk₀
    · exact h.keyTenants k hk₀

theorem mem_filter_map {α β : Type} {l : List α} {f : α → β} {b : β} {p : α → Bool} (hb : b ∈ l.map f)
    (hp : ∀ a ∈ l, f a = b → p a = true) : b ∈ (l.filter p).map f := by
  obtain ⟨a, ha, rfl⟩ := List.mem_map.mp hb
  exact List.mem_map.mpr ⟨a, List.mem_filter.mpr ⟨ha, hp a ha rfl⟩, rfl⟩

theorem Tables.Keeps.withoutMembers (h : t.Keeps cfg) (gone : Uuid × Uuid → Bool) :
    (t.withoutMembers gone).Keeps cfg :=
  { h with
    memberIds := h.memberIds.sublist (List.filter_sublist.map _)
    memberTenants := fun m hm => h.memberTenants m (List.mem_of_mem_filter hm)
    memberUsers := fun m hm => h.memberUsers m (List.mem_of_mem_filter hm)
    sessionIds := h.sessionIds.sublist (List.filter_sublist.map _)
    tokenHashes := h.tokenHashes.sublist (List.filter_sublist.map _)
    sessionMembers := fun s hs => by
      obtain ⟨hs, hstay⟩ := List.mem_filter.mp hs
      exact mem_filter_map (h.sessionMembers s hs) fun m _ heq => by rw [heq]; exact hstay }

def Statement.deletes : Statement → Bool
  | .removeMember .. => true
  | .deleteUser _ => true
  | .deleteTenant _ => true
  | _ => false

end DTwin.Identity
