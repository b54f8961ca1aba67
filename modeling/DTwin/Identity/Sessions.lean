import DTwin.Identity.History

/-!
# DTwin.Identity.Sessions — a token is worth what was opened with it

`resolves_iff_opened`: at any moment of any run a token resolves exactly when a sign-in opened a session with it that
nothing has ended, its twelve hours of the web process's clock are not over, and its user and the tenant it stands in
are active; the role is the member's of that moment.  `signedIn_of_resolves`: and that sign-in had looked the user up,
verified the password and chosen a membership.
-/

namespace DTwin.Identity

open Table Tenure Machine

variable {cfg : Config} {t : Tables}

/-! ## A row answers -/

/-- What a session resolves to. -/
def Tables.Answers (t : Tables) (sess : Session) (rec : SessionRecord) : Prop :=
  ∃ u ∈ t.users, ∃ m ∈ t.members, ∃ x ∈ t.tenants, u.id = sess.userId ∧ u.isActive = true ∧ m.key = sess.memberKey ∧
    x.id = sess.tenantId ∧ x.status = .active ∧
    rec = ⟨sess.id, sess.userId, sess.tenantId, m.role, u.displayName, u.email⟩

theorem mem_sessionRows_iff {token : String} {now : ℤ} {rec : SessionRecord} :
    rec ∈ t.sessionRows cfg token now ↔
      ∃ sess ∈ t.sessions, sess.tokenHash = cfg.tokenHash token ∧ now < sess.expiresAt ∧ t.Answers sess rec := by
  simp only [Tables.sessionRows, List.mem_flatMap, List.mem_filter, decide_eq_true_eq]
  constructor
  · rintro ⟨sess, hsess, u, ⟨hu, huser⟩, m, ⟨hm, hmember⟩, x, ⟨hx, htenant⟩, hrec⟩
    split_ifs at hrec with hwhere
    · obtain ⟨hhash, hexpires, hactive, hstatus⟩ := hwhere
      exact ⟨sess, hsess, hhash, hexpires, u, hu, m, hm, x, hx, huser, hactive, hmember, htenant, hstatus,
        List.mem_singleton.mp hrec⟩
    · exact absurd hrec List.not_mem_nil
  · rintro ⟨sess, hsess, hhash, hexpires, u, hu, m, hm, x, hx, huser, hactive, hmember, htenant, hstatus, rfl⟩
    refine ⟨sess, hsess, u, ⟨hu, huser⟩, m, ⟨hm, hmember⟩, x, ⟨hx, htenant⟩, ?_⟩
    rw [if_pos ⟨hhash, hexpires, hactive, hstatus⟩]
    exact List.mem_singleton_self _

/-- The keys of the tables leave one answer. -/
theorem Tables.Answers.unique (hkeeps : t.Keeps cfg) {sess : Session} {rec rec' : SessionRecord}
    (h : t.Answers sess rec) (h' : t.Answers sess rec') : rec = rec' := by
  obtain ⟨u, hu, m, hm, x, -, huser, -, hmember, -, -, rfl⟩ := h
  obtain ⟨u', hu', m', hm', x', -, huser', -, hmember', -, -, rfl⟩ := h'
  rw [eq_of_id_eq hkeeps.userIds hu hu' (huser.trans huser'.symm),
    eq_of_id_eq hkeeps.memberIds hm hm' (hmember.trans hmember'.symm)]

/-- A list of one value. -/
theorem head?_eq_some_iff_mem {α : Type} {l : List α} (hone : ∀ a ∈ l, ∀ b ∈ l, a = b) {a : α} :
    l.head? = some a ↔ a ∈ l := by
  constructor
  · exact List.mem_of_mem_head?
  · intro ha
    cases l with
    | nil => exact absurd ha List.not_mem_nil
    | cons b l => rw [List.head?_cons, hone b List.mem_cons_self a ha]

theorem resolveSession_eq_some_iff (hkeeps : t.Keeps cfg) {token : String} {now : ℤ} {rec : SessionRecord} :
    resolveSession cfg t token now = some rec ↔
      ∃ sess ∈ t.sessions, sess.tokenHash = cfg.tokenHash token ∧ now < sess.expiresAt ∧ t.Answers sess rec := by
  have hone : ∀ r ∈ t.sessionRows cfg token now, ∀ r' ∈ t.sessionRows cfg token now, r = r' := by
    intro r hr r' hr'
    obtain ⟨sess, hsess, hhash, -, hanswers⟩ := mem_sessionRows_iff.mp hr
    obtain ⟨sess', hsess', hhash', -, hanswers'⟩ := mem_sessionRows_iff.mp hr'
    have hsame : sess = sess' := eq_of_id_eq hkeeps.tokenHashes hsess hsess' (hhash.trans hhash'.symm)
    exact hanswers.unique hkeeps (hsame ▸ hanswers')
  rw [resolveSession, head?_eq_some_iff_mem hone, mem_sessionRows_iff]

/-! ## What a session keeps -/

theorem eq_of_ite_none {α : Type} {p : Prop} [Decidable p] {a b : α} (h : (if p then none else some a) = some b) :
    b = a := by
  split_ifs at h
  exact (Option.some.inj h).symm

/-- An event leaves a session as it is, or ends it, or switches it. -/
theorem onSession_cases {x : Obs} {s s' : Session} (h : x.onSession cfg s = some s') :
    s' = s ∨ ∃ tenantId, x = .switched s.id s.userId tenantId ∧ s' = s.entering tenantId := by
  cases x with
  | switched sessionId userId tenantId =>
    have hmoved := Option.some.inj h
    split_ifs at hmoved with henters
    · simp only [Session.enters, Bool.and_eq_true, decide_eq_true_eq] at henters
      obtain ⟨rfl, rfl⟩ := henters
      exact Or.inr ⟨tenantId, rfl, hmoved.symm⟩
    · exact Or.inl hmoved.symm
  | closed token => exact Or.inl (eq_of_ite_none h)
  | purged now => exact Or.inl (eq_of_ite_none h)
  | memberGone tenantId userId => exact Or.inl (eq_of_ite_none h)
  | userGone userId => exact Or.inl (eq_of_ite_none h)
  | tenantGone tenantId => exact Or.inl (eq_of_ite_none h)
  | _ => exact Or.inl (Option.some.inj h).symm

/-- What no event changes of a session. -/
def Session.fixed (s : Session) : Uuid × String × Uuid × ℤ := (s.id, s.tokenHash, s.userId, s.expiresAt)

theorem fixed_of_onSession (x : Obs) (s s' : Session) (h : x.onSession cfg s = some s') : s'.fixed = s.fixed := by
  rcases onSession_cases h with rfl | ⟨tenantId, -, rfl⟩
  · rfl
  · rfl

theorem fixed_of_after {later : List Obs} {s s' : Session} (h : after (Obs.onSession cfg) later s = some s') :
    s'.fixed = s.fixed :=
  after_invariant Session.fixed fixed_of_onSession h

/-! ## Sign-in -/

/-- A sign-in that verified: the password answers to the hash of a user who was active when looked up. -/
structure SignedIn (cfg : Config) (h : List Obs) (call : ℕ) (password : String) (u : User) : Prop where
  looked : ∃ email, cfg.lower u.email = cfg.lower email ∧ .looked call email password (some u) ∈ h
  verified : cfg.verifyPassword password (u.passwordHash.getD ABSENT_USER_HASH) = true
  active : u.isActive = true

/-- A sign-in that has chosen the membership `m`, after it verified. -/
structure Chosen (cfg : Config) (h : List Obs) (call : ℕ) (password : String) (u : User) (m : Member) : Prop where
  signedIn : ∃ h₁ h₂, h = h₁ ++ .chose call u m :: h₂ ∧ SignedIn cfg h₁ call password u
  member : m.userId = u.id

/-- What a request between its statements has behind it. -/
def Call.Backed (cfg : Config) (h : List Obs) (call : ℕ) : Call → Prop
  | .verifying password _ user => ∀ u, user = some u →
    ∃ email, cfg.lower u.email = cfg.lower email ∧ .looked call email password (some u) ∈ h
  | .verified password _ u => SignedIn cfg h call password u
  | .chosen password userId tenantId => ∃ u m, Chosen cfg h call password u m ∧ u.id = userId ∧ m.tenantId = tenantId
  | .viewing _ => True
  | .done => True

/-- A session that was opened has a sign-in behind it, and that sign-in opened no other. -/
structure OpenedBy (cfg : Config) (before : List Obs) (o : Opened) (u : User) (m : Member) : Prop where
  chosen : Chosen cfg before o.call o.password u m
  session : o.session = newSession cfg o.session.id u.id m.tenantId o.token o.webNow
  once : ∀ o', .opened o' ∈ before → o'.call ≠ o.call

/-- Every request and every session of the history has a sign-in behind it. -/
structure Backed (s : Sys cfg) (h : List Obs) : Prop where
  calls : ∀ i (c : Call), s.calls[i]? = some c → c.Backed cfg h i
  finished : ∀ o, .opened o ∈ h → s.calls[o.call]? = some .done
  opened : Each (fun before x => ∀ o, x = .opened o → ∃ u m, OpenedBy cfg before o u m) h

variable {h o : List Obs} {call : ℕ} {password : String}

theorem SignedIn.mono {u : User} (hS : SignedIn cfg h call password u) (o : List Obs) :
    SignedIn cfg (h ++ o) call password u where
  looked := by
    obtain ⟨email, hemail, hlooked⟩ := hS.looked
    exact ⟨email, hemail, List.mem_append_left o hlooked⟩
  verified := hS.verified
  active := hS.active

theorem Chosen.mono {u : User} {m : Member} (hC : Chosen cfg h call password u m) (o : List Obs) :
    Chosen cfg (h ++ o) call password u m where
  signedIn := by
    obtain ⟨h₁, h₂, rfl, hS⟩ := hC.signedIn
    exact ⟨h₁, h₂ ++ o, by simp, hS⟩
  member := hC.member

theorem Call.Backed.mono {c : Call} (hc : c.Backed cfg h call) (o : List Obs) : c.Backed cfg (h ++ o) call := by
  cases c with
  | verifying password tenantSlug user =>
    intro u hu
    obtain ⟨email, hemail, hlooked⟩ := hc u hu
    exact ⟨email, hemail, List.mem_append_left o hlooked⟩
  | verified password tenantSlug u => exact SignedIn.mono hc o
  | chosen password userId tenantId =>
    obtain ⟨u, m, hC, huser, htenant⟩ := hc
    exact ⟨u, m, hC.mono o, huser, htenant⟩
  | viewing viewer => trivial
  | done => trivial

variable {s s' : Sys cfg}

/-- Events that open nothing. -/
theorem Backed.unopened (hB : Backed s h) {calls : List Call} (ho : ∀ x ∈ o, ∀ o', x ≠ .opened o')
    (hcalls : ∀ i (c : Call), calls[i]? = some c → c.Backed cfg (h ++ o) i)
    (hdone : ∀ i : ℕ, s.calls[i]? = some Call.done → calls[i]? = some Call.done) {db : Database cfg} {clock : ℤ} :
    Backed ⟨db, calls, clock⟩ (h ++ o) where
  calls := hcalls
  finished := by
    intro o' ho'
    rcases List.mem_append.mp ho' with hold | hnew
    · exact hdone _ (hB.finished o' hold)
    · exact absurd rfl (ho _ hnew o')
  opened := each_append.mpr ⟨hB.opened, each_of_forall fun x hx _ o' heq => absurd heq (ho x hx o')⟩

/-- A request that begins. -/
theorem Backed.push (hB : Backed s h) {c : Call} (ho : ∀ x ∈ o, ∀ o', x ≠ .opened o')
    (hc : c.Backed cfg (h ++ o) s.calls.length) : Backed { s with calls := s.calls ++ [c] } (h ++ o) := by
  refine hB.unopened ho (fun i c' hi => ?_) fun i hi => ?_
  · rcases Nat.lt_trichotomy i s.calls.length with hlt | rfl | hgt
    · rw [List.getElem?_append_left hlt] at hi
      exact (hB.calls i c' hi).mono o
    · rw [List.getElem?_concat_length] at hi
      exact Option.some.inj hi ▸ hc
    · rw [List.getElem?_eq_none (by simp; omega)] at hi
      cases hi
  · obtain ⟨hlt, -⟩ := List.getElem?_eq_some_iff.mp hi
    rw [List.getElem?_append_left hlt]
    exact hi

theorem getElem?_set_cases {α : Type} {l : List α} {i j : ℕ} {a b : α} (h : (l.set i a)[j]? = some b) :
    (j = i ∧ b = a) ∨ l[j]? = some b := by
  rw [List.getElem?_set] at h
  split_ifs at h with hij hlt
  · exact Or.inl ⟨hij.symm, (Option.some.inj h).symm⟩
  · exact Or.inr h

/-- A request that goes on, or ends. -/
theorem Backed.goTo (hB : Backed s h) {c : Call} (ho : ∀ x ∈ o, ∀ o', x ≠ .opened o')
    (hc : c.Backed cfg (h ++ o) call) (hend : c = .done ∨ s.calls[call]? ≠ some .done) {db : Database cfg} :
    Backed ((s.goTo call c).onDb db) (h ++ o) := by
  refine hB.unopened ho (fun i c' hi => ?_) fun i hi => ?_
  · rcases getElem?_set_cases hi with ⟨rfl, rfl⟩ | hi
    · exact hc
    · exact (hB.calls i c' hi).mono o
  · obtain ⟨hlt, -⟩ := List.getElem?_eq_some_iff.mp hi
    show (s.calls.set call c)[i]? = _
    by_cases hcall : call = i
    · subst hcall
      rcases hend with rfl | hend
      · exact List.getElem?_set_self hlt
      · exact absurd hi hend
    · rw [List.getElem?_set_ne hcall]
      exact hi

theorem Backed.effect (hB : Backed s h) (hs : s.Effect s' o) : Backed s' (h ++ o) := by
  cases hs with
  | looked email password tenantSlug =>
    refine hB.push (by simp) fun u hu => ⟨email, ?_, ?_⟩
    · have hfound := List.find?_some hu
      exact of_decide_eq_true hfound
    · rw [← hu]
      exact List.mem_append_right h (List.mem_singleton_self _)
  | ended call => exact hB.goTo (c := .done) (by simp) trivial (Or.inl rfl)
  | verified hcall hverifies hactive =>
    refine hB.goTo (c := .verified _ _ _) (by simp) (Call.Backed.mono ?_ []) (Or.inr (by simp [hcall]))
    exact ⟨hB.calls _ _ hcall _ rfl, hverifies, hactive⟩
  | chose hcall hm =>
    refine hB.goTo (c := .chosen _ _ _) (by simp) ⟨_, _, ⟨⟨h, [], rfl, hB.calls _ _ hcall⟩, ?_⟩, rfl, rfl⟩
      (Or.inr (by simp [hcall]))
    have hmem := (List.mem_filter.mp hm.1).2
    simp only [Bool.and_eq_true, decide_eq_true_eq] at hmem
    exact hmem.1.1
  | opened o hcall ho hdb =>
    next call password userId tenantId db =>
    have hcallOf : o.call = call := congrArg Opened.call ho
    obtain ⟨u, m, hC, rfl, rfl⟩ := hB.calls _ _ hcall
    have hlive : ∀ o', .opened o' ∈ h → o'.call ≠ call := by
      rintro o' ho' rfl
      rw [hB.finished o' ho'] at hcall
      cases Option.some.inj hcall
    refine ⟨fun i c hi => ?_, fun o' ho' => ?_, each_append.mpr ⟨hB.opened, each_singleton.mpr ?_⟩⟩
    · rcases getElem?_set_cases hi with ⟨rfl, rfl⟩ | hi
      · trivial
      · exact (hB.calls i c hi).mono _
    · show (s.calls.set call .done)[o'.call]? = _
      rcases List.mem_append.mp ho' with hold | hnew
      · rw [List.getElem?_set_ne (hlive o' hold).symm]
        exact hB.finished o' hold
      · rw [Obs.opened.inj (List.mem_singleton.mp hnew), hcallOf,
          List.getElem?_set_self (List.getElem?_eq_some_iff.mp hcall).1]
    · rintro o' heq
      obtain rfl := Obs.opened.inj heq
      rw [List.append_nil]
      refine ⟨u, m, ⟨?_, ?_, ?_⟩⟩
      · rw [hcallOf, congrArg Opened.password ho]
        exact hC
      · exact congrArg Opened.session ho
      · rw [hcallOf]
        exact hlive
  | viewed viewer => exact hB.push (by simp) trivial
  | switched hcall henter hdb => exact hB.goTo (c := .done) (by simp) trivial (Or.inl rfl)
  | told ho hdb =>
    refine hB.unopened (fun x hx o' heq => ?_) (fun i c hi => (hB.calls i c hi).mono _) fun i hi => hi
    have hsilent := (ho x hx).1
    rw [heq] at hsilent
    cases hsilent

theorem backed_of_reaches {db : Database cfg} {clock : ℤ} (hrun : (identity cfg).Reaches (Sys.init db clock) s h) :
    Backed s h :=
  hrun.hist (I := Backed)
    (fun hB hs => Backed.effect (s := Sys.at _ _) ⟨hB.calls, hB.finished, hB.opened⟩ (step_effect hs))
    ⟨fun _ _ hi => by simp [Sys.init] at hi, fun _ ho => absurd ho List.not_mem_nil, each_nil _⟩

/-! ## A token -/

/-- The session that stands is one that was opened. -/
theorem exists_opened (hB : Backed s h) {sess : Session} (hsess : sess ∈ standing Obs.opens (Obs.onSession cfg) h) :
    ∃ before o later u m, h = before ++ .opened o :: later ∧ OpenedBy cfg before o u m ∧
      after (Obs.onSession cfg) later o.session = some sess := by
  obtain ⟨before, x, later, s₀, heq, hopens, hafter⟩ := mem_standing_iff.mp hsess
  cases x with
  | opened o =>
    obtain rfl := Option.some.inj hopens
    obtain ⟨u, m, hO⟩ := hB.opened before _ later heq o rfl
    exact ⟨before, o, later, u, m, heq, hO, hafter⟩
  | _ => cases hopens

theorem OpenedBy.fixed {before : List Obs} {o : Opened} {u : User} {m : Member} (hO : OpenedBy cfg before o u m) :
    o.session.fixed = (o.session.id, cfg.tokenHash o.token, u.id, o.webNow + SESSION_TTL_MS) := by
  rw [hO.session]
  rfl

namespace Example

def token : String := "Zk3vQy9-tN1xWm0bR7uLhD2sCe5aPf8gJi4oKq6yTzA"

def scryptHash : String := "scrypt$32768$8$1$AQIDBAUGBwgJCgsMDQ4PEA$6qhw-ny2G4yNJiUZcAV21vOTBCFKUpEzFVCB-KQvkCg"

/-- SHA-256, scrypt and the folding as they are on what `signIn` draws. -/
def config : Config where
  tokenHash := Equiv.swap token "f3693fee30425010145c74d0d3040c3ee1c515a26afa973b7239453f4fb4c824"
  verifyPassword password stored := password = "open sesame" && stored = scryptHash
  lower email := if email = "Ada@site.test" then "ada@site.test" else email

def ada : User := ⟨1, "Ada@site.test", "Ada", some scryptHash, true⟩

/-- A user with two tenants. -/
def tables : Tables where
  users := [ada]
  tenants := [⟨10, "north", "North", .active⟩, ⟨20, "south", "South", .active⟩]
  members := [⟨20, 1, .viewer, 5⟩, ⟨10, 1, .operator, 3⟩]
  sessions := []
  apiKeys := []

theorem tables_keep : tables.Keeps config := by decide +kernel

def site : Database config := ⟨tables, tables_keep⟩

theorem site_fresh : Fresh site := ⟨rfl, rfl⟩

/-- A sign-in with the web process's clock two minutes ahead, and a switch to the other tenant. -/
def signIn : List Act :=
  [.login 1000 "ada@site.test" "open sesame" none, .verify 0, .choose 0 2000 (some ⟨10, 1, .operator, 3⟩),
    .insert 0 2001 token 77 122001, .view 3000 token, .switch 1 3001 20]

end Example

/-- The token has the hash of no other that was handed out. -/
def Uncollided (cfg : Config) (h : List Obs) (token : String) : Prop :=
  ∀ o, .opened o ∈ h → cfg.tokenHash o.token = cfg.tokenHash token → o.token = token

/-- **A token resolves exactly when** a sign-in opened a session with it that stands, its twelve hours from the web
process's clock are not over, and its user, membership and tenant answer now. -/
theorem resolves_iff_opened {db : Database cfg} (hdb : Fresh db) {clock : ℤ}
    (hrun : (identity cfg).Reaches (Sys.init db clock) s h) {token : String} (htoken : Uncollided cfg h token) (now : ℤ)
    (rec : SessionRecord) :
    resolveSession cfg s.db.toTables token now = some rec ↔
      ∃ before o later sess, h = before ++ .opened o :: later ∧ o.token = token ∧ now < o.webNow + SESSION_TTL_MS ∧
        after (Obs.onSession cfg) later o.session = some sess ∧ s.db.Answers sess rec := by
  have hB := backed_of_reaches hrun
  rw [resolveSession_eq_some_iff s.db.keeps, (told_of_reaches hdb hrun).sessions]
  constructor
  · rintro ⟨sess, hsess, hhash, hexpires, hanswers⟩
    obtain ⟨before, o, later, u, m, heq, hO, hafter⟩ := exists_opened hB hsess
    have hfixed := (fixed_of_after hafter).trans hO.fixed
    simp only [Session.fixed, Prod.mk.injEq] at hfixed
    have hopened : .opened o ∈ h := by simp [heq]
    exact ⟨before, o, later, sess, heq, htoken o hopened (hfixed.2.1.symm.trans hhash), hfixed.2.2.2 ▸ hexpires, hafter,
      hanswers⟩
  · rintro ⟨before, o, later, sess, heq, rfl, hexpires, hafter, hanswers⟩
    obtain ⟨u, m, hO⟩ := hB.opened before _ later heq o rfl
    have hfixed := (fixed_of_after hafter).trans hO.fixed
    simp only [Session.fixed, Prod.mk.injEq] at hfixed
    exact ⟨sess, mem_standing_iff.mpr ⟨before, _, later, _, heq, rfl, hafter⟩, hfixed.2.1, hfixed.2.2.2 ▸ hexpires,
      hanswers⟩

theorem Uncollided.of_injective (hhash : Function.Injective cfg.tokenHash) (h : List Obs) (token : String) :
    Uncollided cfg h token := fun _ _ heq => hhash heq

namespace Example

theorem config_uncollided (h : List Obs) (token : String) : Uncollided config h token :=
  .of_injective (Equiv.injective _) h token

def south : SessionRecord := ⟨77, 1, 20, .viewer, "Ada", "Ada@site.test"⟩

theorem signIn_runs : ∃ r ∈ (identity config).exec (Sys.init site 0) signIn,
    resolveSession config r.1.db.toTables token 43322000 = some south ∧
      resolveSession config r.1.db.toTables token 43322001 = none := by
  decide +kernel

end Example

theorem resolves_iff_opened_south : ∃ s h, (identity Example.config).Reaches (Sys.init Example.site 0) s h ∧
    ∃ before o later sess, h = before ++ .opened o :: later ∧ o.token = Example.token ∧
      43322000 < o.webNow + SESSION_TTL_MS ∧ after (Obs.onSession Example.config) later o.session = some sess ∧
      s.db.Answers sess Example.south := by
  obtain ⟨⟨s, h⟩, hr, hrec, -⟩ := Example.signIn_runs
  have hrun : (identity Example.config).Reaches (Sys.init Example.site 0) s h := ⟨_, hr⟩
  exact ⟨s, h, hrun, (resolves_iff_opened Example.site_fresh hrun (Example.config_uncollided h _) _ _).mp hrec⟩

/-! ## What is behind a token -/

/-- The tenant of a session is the one it was opened in, or one that it was switched to. -/
theorem tenant_of_after {later : List Obs} {sess sess' : Session}
    (hafter : after (Obs.onSession cfg) later sess = some sess') :
    sess'.tenantId = sess.tenantId ∨ .switched sess.id sess.userId sess'.tenantId ∈ later := by
  induction later generalizing sess with
  | nil => exact Or.inl (congrArg Session.tenantId (Option.some.inj hafter)).symm
  | cons x later ih =>
    obtain ⟨s₁, hx, hrest⟩ := Option.bind_eq_some_iff.mp hafter
    have hfixed := fixed_of_onSession x sess s₁ hx
    simp only [Session.fixed, Prod.mk.injEq] at hfixed
    obtain ⟨hid, -, huser, -⟩ := hfixed
    rcases ih hrest with hsame | hlater
    · rcases onSession_cases hx with rfl | ⟨tenantId, rfl, rfl⟩
      · exact Or.inl hsame
      · right
        rw [hsame]
        exact List.mem_cons_self
    · right
      rw [hid, huser] at hlater
      exact List.mem_cons_of_mem x hlater

/-- **What is behind a token that resolves**: a sign-in that verified the password of this user and chose a membership,
less than twelve hours of the web process's clock ago; since then the session was not closed, the user not deleted, no
purge came after its end, and the tenant is the one chosen or one switched to. -/
theorem signedIn_of_resolves {db : Database cfg} (hdb : Fresh db) {clock : ℤ}
    (hrun : (identity cfg).Reaches (Sys.init db clock) s h) {token : String} (htoken : Uncollided cfg h token) {now : ℤ}
    {rec : SessionRecord} (hrec : resolveSession cfg s.db.toTables token now = some rec) :
    ∃ before o later u m, h = before ++ .opened o :: later ∧ OpenedBy cfg before o u m ∧ o.token = token ∧
      rec.sessionId = o.session.id ∧ rec.userId = u.id ∧ now < o.webNow + SESSION_TTL_MS ∧
      .closed token ∉ later ∧ .userGone u.id ∉ later ∧ (∀ n, .purged n ∈ later → n ≤ o.webNow + SESSION_TTL_MS) ∧
      (rec.tenantId = m.tenantId ∨ .switched rec.sessionId u.id rec.tenantId ∈ later) := by
  have hB := backed_of_reaches hrun
  obtain ⟨before, o, later, sess, heq, rfl, hexpires, hafter, hanswers⟩ :=
    (resolves_iff_opened hdb hrun htoken now rec).mp hrec
  obtain ⟨u, m, hO⟩ := hB.opened before _ later heq o rfl
  obtain ⟨-, -, -, -, -, -, -, -, -, -, -, rfl⟩ := hanswers
  have hfixed : ∀ {l s'}, after (Obs.onSession cfg) l o.session = some s' →
      s'.id = o.session.id ∧ s'.tokenHash = cfg.tokenHash o.token ∧ s'.userId = u.id ∧
        s'.expiresAt = o.webNow + SESSION_TTL_MS := by
    intro l s' hl
    simpa only [Session.fixed, Prod.mk.injEq] using (fixed_of_after hl).trans hO.fixed
  refine ⟨before, o, later, u, m, heq, hO, rfl, (hfixed hafter).1, (hfixed hafter).2.2.1, hexpires, fun hx => ?_,
    fun hx => ?_, fun n hx => ?_, ?_⟩
  · obtain ⟨l₁, l₂, s₁, s₂, -, h₁, hact, -⟩ := exists_acts_of_mem hafter hx
    simp [Obs.onSession, (hfixed h₁).2.1] at hact
  · obtain ⟨l₁, l₂, s₁, s₂, -, h₁, hact, -⟩ := exists_acts_of_mem hafter hx
    simp [Obs.onSession, (hfixed h₁).2.2.1] at hact
  · obtain ⟨l₁, l₂, s₁, s₂, -, h₁, hact, -⟩ := exists_acts_of_mem hafter hx
    simp only [Obs.onSession, (hfixed h₁).2.2.2] at hact
    split_ifs at hact with hlt
    exact not_lt.mp hlt
  · have htenant := tenant_of_after hafter
    rw [hO.session] at htenant
    show sess.tenantId = _ ∨ .switched sess.id _ _ ∈ later
    rw [(hfixed hafter).1]
    exact htenant

theorem signedIn_of_resolves_south : ∃ s h, (identity Example.config).Reaches (Sys.init Example.site 0) s h ∧
    ∃ before o later u m, h = before ++ .opened o :: later ∧ OpenedBy Example.config before o u m ∧
      o.token = Example.token ∧ Example.south.userId = u.id ∧ .closed Example.token ∉ later ∧
      (Example.south.tenantId = m.tenantId ∨
        .switched Example.south.sessionId u.id Example.south.tenantId ∈ later) := by
  obtain ⟨⟨s, h⟩, hr, hrec, -⟩ := Example.signIn_runs
  have hrun : (identity Example.config).Reaches (Sys.init Example.site 0) s h := ⟨_, hr⟩
  obtain ⟨before, o, later, u, m, heq, hO, htoken, -, huser, -, hclosed, -, -, htenant⟩ :=
    signedIn_of_resolves Example.site_fresh hrun (Example.config_uncollided h _) hrec
  exact ⟨s, h, hrun, before, o, later, u, m, heq, hO, htoken, huser, hclosed, htenant⟩

end DTwin.Identity
