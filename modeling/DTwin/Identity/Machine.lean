import DTwin.Identity.Store
import DTwin.Lib.Machine
import DTwin.Lib.Tenure

/-!
# DTwin.Identity.Machine — sign-in, switching and administration, side by side

`login` (a lookup, the hash, the choice of a membership and an insert: `withoutTenant` opens no transaction), the POST
of `/api/auth/tenant` (the session is resolved, then switched), `deleteSession`, `purgeExpiredSessions`, the API keys
and the statements of an administrator, interleaved in any order on one database.  `now` is the database's clock and
does not step back; `webNow` is the web process's own, and may say anything.  A statement that breaks a constraint
changes nothing.
-/

namespace DTwin.Identity

open Table

/-- A request between its statements. -/
inductive Call
  | verifying (password : String) (tenantSlug : Option String) (user : Option User)
  | verified (password : String) (tenantSlug : Option String) (user : User)
  | chosen (password : String) (userId tenantId : Uuid)
  | viewing (viewer : SessionRecord)
  | done

structure Sys (cfg : Config) where
  db : Database cfg
  calls : List Call
  clock : ℤ

inductive Act
  /-- The lookup of `login`. -/
  | login (now : ℤ) (email password : String) (tenantSlug : Option String)
  | verify (call : ℕ)
  /-- `member` is the row that the query for a membership gets. -/
  | choose (call : ℕ) (now : ℤ) (member : Option Member)
  /-- The insert; `token` and `sessionId` are drawn. -/
  | insert (call : ℕ) (now : ℤ) (token : String) (sessionId : Uuid) (webNow : ℤ)
  /-- `currentViewer` of a request to switch. -/
  | view (now : ℤ) (token : String)
  | switch (call : ℕ) (now : ℤ) (tenantId : Uuid)
  | logout (now : ℤ) (token : String)
  | purge (now : ℤ)
  | createKey (now : ℤ) (id tenantId : Uuid) (kind : ApiKeyKind) (name key : String) (scopes : List String)
  | rotateKey (now : ℤ) (id tenantId : Uuid) (kind : ApiKeyKind) (name key : String) (scopes : List String)
  | revokeKey (now : ℤ) (tenantId : Uuid) (name : String)
  | admin (now : ℤ) (st : Statement)

/-- A session that was opened, and what it was opened with. -/
structure Opened where
  call : ℕ
  password : String
  token : String
  webNow : ℤ
  session : Session
deriving DecidableEq

inductive Obs
  /-- What the lookup of a sign-in read. -/
  | looked (call : ℕ) (email password : String) (user : Option User)
  /-- The membership a sign-in has chosen. -/
  | chose (call : ℕ) (user : User) (member : Member)
  | opened (o : Opened)
  | switched (sessionId userId tenantId : Uuid)
  | closed (token : String)
  | purged (now : ℤ)
  | issued (key : String) (row : ApiKey)
  | revoked (tenantId : Uuid) (name : String) (now : ℤ)
  | memberGone (tenantId userId : Uuid)
  | userGone (userId : Uuid)
  | tenantGone (tenantId : Uuid)
deriving DecidableEq

variable {cfg : Config}

def Sys.init (db : Database cfg) (clock : ℤ) : Sys cfg := ⟨db, [], clock⟩

def Act.now? : Act → Option ℤ
  | .login now .. => some now
  | .verify _ => none
  | .choose _ now _ => some now
  | .insert _ now .. => some now
  | .view now _ => some now
  | .switch _ now _ => some now
  | .logout now _ => some now
  | .purge now => some now
  | .createKey now .. => some now
  | .rotateKey now .. => some now
  | .revokeKey now .. => some now
  | .admin now _ => some now

def Sys.goTo (s : Sys cfg) (call : ℕ) (c : Call) : Sys cfg := { s with calls := s.calls.set call c }

def Sys.onDb (s : Sys cfg) (db : Database cfg) : Sys cfg := { s with db }

/-- What a deletion says. -/
def Statement.gone : Statement → List Obs
  | .removeMember tenantId userId => [.memberGone tenantId userId]
  | .deleteUser userId => [.userGone userId]
  | .deleteTenant tenantId => [.tenantGone tenantId]
  | _ => []

/-- A statement that says something where it commits. -/
def Sys.commit (s : Sys cfg) (t : Tables) (o : List Obs) : Sys cfg × List Obs :=
  match Identity.commit cfg t with
  | some db => (s.onDb db, o)
  | none => (s, [])

/-- The session that `login` inserts. -/
def newSession (cfg : Config) (sessionId userId tenantId : Uuid) (token : String) (webNow : ℤ) : Session :=
  ⟨sessionId, cfg.tokenHash token, userId, tenantId, webNow + SESSION_TTL_MS⟩

def Sys.perform (s : Sys cfg) : Act → Option (Sys cfg × List Obs)
  | .login _ email password tenantSlug =>
    let user := s.db.userOf cfg email
    some ({ s with calls := s.calls ++ [.verifying password tenantSlug user] },
      [.looked s.calls.length email password user])
  | .verify call =>
    match s.calls[call]? with
    | some (.verifying password tenantSlug user) =>
      match user with
      | some u =>
        if verifies cfg password user && u.isActive then some (s.goTo call (.verified password tenantSlug u), [])
        else some (s.goTo call .done, [])
      | none => some (s.goTo call .done, [])
    | _ => none
  | .choose call _ member =>
    match s.calls[call]? with
    | some (.verified password tenantSlug user) =>
      if IsOldest (s.db.openable user.id tenantSlug) member then
        match member with
        | none => some (s.goTo call .done, [])
        | some m => some (s.goTo call (.chosen password user.id m.tenantId), [.chose call user m])
      else none
    | _ => none
  | .insert call _ token sessionId webNow =>
    match s.calls[call]? with
    | some (.chosen password userId tenantId) =>
      let session := newSession cfg sessionId userId tenantId token webNow
      some ((s.goTo call .done).commit (s.db.withSessions (s.db.sessions ++ [session]))
        [.opened ⟨call, password, token, webNow, session⟩])
    | _ => none
  | .view now token =>
    match resolveSession cfg s.db.toTables token now with
    | some viewer => some ({ s with calls := s.calls ++ [.viewing viewer] }, [])
    | none => some (s, [])
  | .switch call _ tenantId =>
    match s.calls[call]? with
    | some (.viewing viewer) =>
      some ((s.goTo call .done).onDb ⟨_, s.db.keeps.switchTenant viewer.sessionId viewer.userId tenantId⟩,
        if s.db.mayEnter viewer.userId tenantId then [.switched viewer.sessionId viewer.userId tenantId] else [])
    | _ => none
  | .logout _ token => some (s.onDb ⟨_, s.db.keeps.deleteSession token⟩, [.closed token])
  | .purge now => some (s.onDb ⟨_, s.db.keeps.purge now⟩, [.purged now])
  | .createKey _ id tenantId kind name key scopes =>
    let row := newApiKey cfg id tenantId kind name key scopes
    some (s.commit (createApiKey s.db.toTables row) [.issued key row])
  | .rotateKey now id tenantId kind name key scopes =>
    let row := newApiKey cfg id tenantId kind name key scopes
    some (s.commit (rotateApiKey s.db.toTables row now) [.revoked tenantId name now, .issued key row])
  | .revokeKey now tenantId name =>
    some (s.onDb ⟨_, s.db.keeps.revokeApiKey tenantId name now⟩, [.revoked tenantId name now])
  | .admin _ st => some (s.commit (st.run s.db.toTables) st.gone)

def Sys.at (s : Sys cfg) (now : Option ℤ) : Sys cfg := { s with clock := now.getD s.clock }

/-- The database's clock does not step back. -/
def step (s : Sys cfg) (a : Act) : Option (Sys cfg × List Obs) :=
  if a.now?.all (s.clock ≤ ·) then (s.at a.now?).perform a else none

def identity (cfg : Config) : Machine (Sys cfg) Act Obs := ⟨step⟩

/-! ## What the events do to a row -/

/-- A session is opened. -/
def Obs.opens : Obs → Option Session
  | .opened o => some o.session
  | _ => none

/-- What becomes of a session. -/
def Obs.onSession (cfg : Config) : Obs → Session → Option Session
  | .switched sessionId userId tenantId, s => some (if s.enters sessionId userId then s.entering tenantId else s)
  | .closed token, s => if s.tokenHash = cfg.tokenHash token then none else some s
  | .purged now, s => if s.expiresAt < now then none else some s
  | .memberGone tenantId userId, s => if s.memberKey = (tenantId, userId) then none else some s
  | .userGone userId, s => if s.userId = userId then none else some s
  | .tenantGone tenantId, s => if s.tenantId = tenantId then none else some s
  | _, s => some s

/-- A key is issued. -/
def Obs.issues : Obs → Option ApiKey
  | .issued _ row => some row
  | _ => none

/-- What becomes of a key. -/
def Obs.onKey : Obs → ApiKey → Option ApiKey
  | .revoked tenantId name now, k => some (if k.named tenantId name then k.revoked now else k)
  | .tenantGone tenantId, k => if k.tenantId = tenantId then none else some k
  | _, k => some k

end DTwin.Identity
