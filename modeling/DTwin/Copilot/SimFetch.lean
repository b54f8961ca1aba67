import DTwin.Lib.Machine
import DTwin.Lib.Text
import Mathlib.Algebra.Group.Nat.Defs
import Mathlib.Data.List.Forall2
import Mathlib.Data.List.Induction
import Mathlib.Data.Nat.Notation

/-!
# DTwin.Copilot.SimFetch — the runner's only door to the simulation worker

`makeSimFetch` of `apps/web/lib/copilot/sim-runner.ts`: what is asked of it, in whatever order the worker answers,
and what `fetch` sends.  What the door hands to `fetch` has the form of one of four routes, and a route about a run is
for a run id that a 202 to this door's own `POST /simulate` contained before; whatever else is asked is refused, and
nothing is sent.  But `fetch` is left to follow redirects, and where these lead nobody looks at
(`reaches_only_started_iff`, `redirected_away`).
-/

namespace DTwin.Copilot.SimFetch

open Machine Text

/-! ## The routes -/

/-- `UUID`: what each character must be. -/
def UUID : List (Char → Bool) :=
  [(· == '-')].intercalate ([8, 4, 4, 4, 12].map fun n => List.replicate n isHexDigit)

/-- Match character by character, and leave the rest. -/
def takeMatch : List (Char → Bool) → List Char → Option (List Char × List Char)
  | [], l => some ([], l)
  | _ :: _, [] => none
  | p :: ps, c :: l => if p c then (takeMatch ps l).map fun r => (c :: r.1, r.2) else none

/-- `/runs/{uuid}` and what follows. -/
def takeRun (path : List Char) : Option (List Char × List Char) :=
  (path.dropPrefix? "/runs/".toList).bind (takeMatch UUID)

/-- `RUN_RE`. -/
def RUN_RE (path : List Char) : Option (List Char) := (takeRun path).bind fun r => if r.2 = [] then some r.1 else none

/-- `[1-9][0-9]{0,4}`. -/
def takeLimit : List Char → Option ℕ
  | [] => none
  | c :: l =>
    if c.isDigit ∧ c ≠ '0' ∧ l.length ≤ 4 ∧ l.all Char.isDigit then some (Nat.ofDigitChars 10 (c :: l) 0) else none

/-- `RESULTS_RE`, with the number of its limit. -/
def RESULTS_RE (path : List Char) : Option (List Char × ℕ) :=
  (takeRun path).bind fun r => ((r.2.dropPrefix? "/results?limit=".toList).bind takeLimit).map fun n => (r.1, n)

/-- `CANCEL_RE`. -/
def CANCEL_RE (path : List Char) : Option (List Char) :=
  (takeRun path).bind fun r => if r.2 = "/cancel".toList then some r.1 else none

def SIM_RESULTS_MAX_LIMIT : ℕ := 10000

/-- `toLowerCase`, of an ASCII string. -/
def toLowerCase (s : String) : String := String.ofList (s.toList.map Char.toLower)

/-! ## The door -/

structure Config where
  baseUrl : String
  apiKey : String
  tenantId : String
  /-- The schema library's test for a UUID. -/
  isUuid : String → Bool
  /-- The origin of a URL. -/
  origin : String → String

/-- What `fetch` sends. -/
structure Request where
  method : String
  url : String
  headers : List (String × String)
  body : Option String
deriving DecidableEq

/-- A call that was let through, whether it is the start of a run, and what was sent for it last. -/
structure Call where
  simulate : Bool
  answered : Bool
  request : Request
  redirects : ℕ

structure Sys where
  started : List String
  calls : List Call

def Sys.init : Sys := ⟨[], []⟩

def own (started : List String) (id : List Char) : Bool := started.contains (toLowerCase (String.ofList id))

/-- A run to read: `RUN_RE`, or else `RESULTS_RE` with its limit. -/
def readable (path : List Char) : Option (List Char × Option ℕ) :=
  match RUN_RE path with
  | some id => some (id, none)
  | none => (RESULTS_RE path).map fun r => (r.1, some r.2)

/-- Why a request is refused, or whether it starts a run. -/
def check (started : List String) (method path : String) (body : Option String) : Except String Bool :=
  if method = "POST" ∧ path = "/simulate" then
    if body.isNone then .error "a run needs a request body" else .ok true
  else if method = "GET" then
    match readable path.toList with
    | none => .error "not on the allow-list"
    | some (id, limit) =>
      if own started id = false then .error "not a run this runner started"
      else if limit.any (SIM_RESULTS_MAX_LIMIT < ·) then .error ("limit is at most " ++ toString SIM_RESULTS_MAX_LIMIT)
      else .ok false
  else if method = "POST" then
    match CANCEL_RE path.toList with
    | none => .error "not on the allow-list"
    | some id =>
      if own started id = false then .error "not a run this runner started"
      else if body.isSome then .error "a cancel carries no body"
      else .ok false
  else .error "not on the allow-list"

/-- The message of `SimRouteRefused`. -/
def refusal (method path why : String) : String :=
  "simulation route refused: " ++ method ++ " " ++ path ++ " (" ++ why ++ ")"

def Config.request (cfg : Config) (method path : String) (body : Option String) : Request where
  method := method
  url := cfg.baseUrl ++ path
  headers := (if body.isSome then [("content-type", "application/json")] else []) ++
    [("x-tenant-id", cfg.tenantId), ("authorization", "Bearer " ++ cfg.apiKey)]
  body := body

inductive Act
  | call (method path : String) (body : Option String)
  /-- The worker answers, with the run id of its body if that has one. -/
  | reply (call status : ℕ) (runId : Option String)
  /-- The answer is a redirect, to the HTTP URL that its `Location` comes to. -/
  | redirect (call status : ℕ) (location : String)
  /-- The fetch throws. -/
  | throws (call : ℕ)

inductive Obs
  /-- `redirects` of them came before, for the same call. -/
  | sent (call redirects : ℕ) (request : Request)
  | refused (message : String)
  | replied (call status : ℕ) (runId : Option String)
  | threw (call : ℕ)
deriving DecidableEq

/-- The run that a reply says was started. -/
def Config.learns (cfg : Config) (simulate : Bool) (status : ℕ) (runId : Option String) : Option String :=
  if simulate ∧ status = 202 then runId.filter cfg.isUuid else none

def REDIRECT_STATUSES : List ℕ := [301, 302, 303, 307, 308]

/-- `fetch` gives up after that many. -/
def MAX_REDIRECTS : ℕ := 20

/-- A redirect as `fetch` follows it when nothing is said of `redirect`. -/
def Config.follow (cfg : Config) (r : Request) (status : ℕ) (location : String) : Request :=
  let rewrites : Bool := (status ∈ [301, 302] ∧ r.method = "POST") ∨ (status = 303 ∧ r.method ∉ ["GET", "HEAD"])
  { method := if rewrites then "GET" else r.method
    url := location
    headers := r.headers.filter fun x =>
      (!rewrites || x.1 ≠ "content-type") && (cfg.origin location = cfg.origin r.url || x.1 ≠ "authorization")
    body := if rewrites then none else r.body }

def step (cfg : Config) (s : Sys) : Act → Option (Sys × List Obs)
  | .call method path body =>
    match check s.started method path body with
    | .error why => some (s, [.refused (refusal method path why)])
    | .ok simulate =>
      some ({ s with calls := s.calls ++ [⟨simulate, false, cfg.request method path body, 0⟩] },
        [.sent s.calls.length 0 (cfg.request method path body)])
  | .reply call status runId =>
    match s.calls[call]? with
    | some ⟨simulate, false, request, redirects⟩ =>
      some (⟨s.started ++ ((cfg.learns simulate status runId).map toLowerCase).toList,
        s.calls.set call ⟨simulate, true, request, redirects⟩⟩, [.replied call status runId])
    | _ => none
  | .redirect call status location =>
    match s.calls[call]? with
    | some ⟨simulate, false, request, redirects⟩ =>
      if status ∉ REDIRECT_STATUSES then none
      else if redirects = MAX_REDIRECTS then
        some ({ s with calls := s.calls.set call ⟨simulate, true, request, redirects⟩ }, [.threw call])
      else
        let next := cfg.follow request status location
        some ({ s with calls := s.calls.set call ⟨simulate, false, next, redirects + 1⟩ },
          [.sent call (redirects + 1) next])
    | _ => none
  | .throws call =>
    match s.calls[call]? with
    | some ⟨simulate, false, request, redirects⟩ =>
      some ({ s with calls := s.calls.set call ⟨simulate, true, request, redirects⟩ }, [.threw call])
    | _ => none

def simFetch (cfg : Config) : Machine Sys Act Obs := ⟨step cfg⟩

/-! ## The four forms -/

/-- A run id as a path names it. -/
structure RunId where
  chars : List Char
  uuid : List.Forall₂ (fun p c => p c = true) UUID chars

structure Limit where
  value : ℕ
  positive : 1 ≤ value
  bounded : value ≤ SIM_RESULTS_MAX_LIMIT

inductive Route
  | simulate
  | run (id : RunId)
  | results (id : RunId) (limit : Limit)
  | cancel (id : RunId)

def Route.method : Route → String
  | simulate => "POST"
  | run _ => "GET"
  | results _ _ => "GET"
  | cancel _ => "POST"

def Route.path : Route → List Char
  | simulate => "/simulate".toList
  | run id => "/runs/".toList ++ id.chars
  | results id limit => "/runs/".toList ++ (id.chars ++ ("/results?limit=".toList ++ Nat.toDigits 10 limit.value))
  | cancel id => "/runs/".toList ++ (id.chars ++ "/cancel".toList)

/-- The run that a route is about. -/
def Route.runId : Route → Option RunId
  | simulate => none
  | run id => some id
  | results id _ => some id
  | cancel id => some id

def Route.starts : Route → Bool
  | simulate => true
  | _ => false

/-- A run is started with a body, and cancelled without one. -/
def Route.carries : Route → Option String → Prop
  | simulate, body => body.isSome = true
  | cancel _, body => body = none
  | _, _ => True

/-- What is asked is this route, for a run that was started here if it is about one. -/
structure Permits (started : List String) (route : Route) (method path : String) (body : Option String) : Prop where
  method : method = route.method
  path : path.toList = route.path
  carries : route.carries body
  own : ∀ id ∈ route.runId, own started id.chars = true

/-! ## What the expressions match -/

theorem takeMatch_iff {ps : List (Char → Bool)} {l m rest : List Char} :
    takeMatch ps l = some (m, rest) ↔ l = m ++ rest ∧ List.Forall₂ (fun p c => p c = true) ps m := by
  induction ps generalizing l m with
  | nil =>
    simp only [takeMatch, Option.some.injEq, Prod.mk.injEq]
    constructor
    · rintro ⟨rfl, rfl⟩
      exact ⟨rfl, .nil⟩
    · rintro ⟨rfl, hm⟩
      cases hm
      exact ⟨rfl, rfl⟩
  | cons p ps ih =>
    cases l with
    | nil =>
      simp only [takeMatch, reduceCtorEq, false_iff, not_and]
      intro hl hm
      obtain ⟨rfl, -⟩ := List.append_eq_nil_iff.mp hl.symm
      cases hm
    | cons c l =>
      simp only [takeMatch]
      constructor
      · intro hmatch
        split_ifs at hmatch with hp
        obtain ⟨⟨m', rest'⟩, hr, heq⟩ := Option.map_eq_some_iff.mp hmatch
        cases heq
        obtain ⟨rfl, hm⟩ := ih.mp hr
        exact ⟨rfl, .cons hp hm⟩
      · rintro ⟨hl, hm⟩
        cases hm with
        | @cons _ _ _ m hp hm =>
          rw [List.cons_append, List.cons.injEq] at hl
          obtain ⟨rfl, rfl⟩ := hl
          rw [if_pos hp, ih.mpr ⟨rfl, hm⟩]
          rfl

theorem takeRun_iff {path id rest : List Char} :
    takeRun path = some (id, rest) ↔
      path = "/runs/".toList ++ (id ++ rest) ∧ List.Forall₂ (fun p c => p c = true) UUID id := by
  simp only [takeRun, Option.bind_eq_some_iff, List.dropPrefix?_eq_some_iff, beq_iff_eq, takeMatch_iff]
  constructor
  · rintro ⟨l, ⟨_, rfl, rfl⟩, rfl, huuid⟩
    exact ⟨rfl, huuid⟩
  · rintro ⟨rfl, huuid⟩
    exact ⟨id ++ rest, ⟨_, rfl, rfl⟩, rfl, huuid⟩

theorem RUN_RE_iff {path id : List Char} :
    RUN_RE path = some id ↔ path = "/runs/".toList ++ id ∧ List.Forall₂ (fun p c => p c = true) UUID id := by
  simp only [RUN_RE, Option.bind_eq_some_iff, Prod.exists, takeRun_iff]
  constructor
  · rintro ⟨m, rest, ⟨rfl, huuid⟩, hid⟩
    split_ifs at hid with hrest
    cases hid
    exact ⟨by rw [hrest, List.append_nil], huuid⟩
  · rintro ⟨rfl, huuid⟩
    exact ⟨id, [], ⟨by rw [List.append_nil], huuid⟩, rfl⟩

theorem CANCEL_RE_iff {path id : List Char} : CANCEL_RE path = some id ↔
    path = "/runs/".toList ++ (id ++ "/cancel".toList) ∧ List.Forall₂ (fun p c => p c = true) UUID id := by
  simp only [CANCEL_RE, Option.bind_eq_some_iff, Prod.exists, takeRun_iff]
  constructor
  · rintro ⟨m, rest, ⟨rfl, huuid⟩, hid⟩
    split_ifs at hid with hrest
    cases hid
    exact ⟨by rw [hrest], huuid⟩
  · rintro ⟨rfl, huuid⟩
    exact ⟨id, _, ⟨rfl, huuid⟩, if_pos rfl⟩

theorem digitChar_of_isDigit {c : Char} (hc : c.isDigit = true) :
    ∃ d < 10, c = Nat.digitChar d ∧ c.toNat - '0'.toNat = d := by
  have hbounds : 48 ≤ c.toNat ∧ c.toNat ≤ 57 := Char.isDigit_iff_toNat.mp hc
  have hchar : ∀ d < 10, Nat.digitChar d = Char.ofNat (48 + d) := by decide
  refine ⟨c.toNat - 48, by omega, ?_, rfl⟩
  rw [hchar _ (by omega), Nat.add_sub_cancel' hbounds.1, Char.ofNat_toNat]

/-- Digits without a leading zero are those of their number. -/
theorem toDigits_ofDigitChars {l : List Char} (hne : l ≠ []) (hhead : l.head? ≠ some '0')
    (hdigits : ∀ c ∈ l, c.isDigit = true) :
    Nat.toDigits 10 (Nat.ofDigitChars 10 l 0) = l ∧ 0 < Nat.ofDigitChars 10 l 0 := by
  induction l using List.reverseRecOn with
  | nil => exact absurd rfl hne
  | append_singleton l c ih =>
    obtain ⟨d, hd, rfl, hvalue⟩ := digitChar_of_isDigit (hdigits c (by simp))
    rw [Nat.ofDigitChars_append, Nat.ofDigitChars_cons, Nat.ofDigitChars_nil, hvalue]
    cases l with
    | nil =>
      have hpos : 0 < d := by
        refine Nat.pos_of_ne_zero ?_
        rintro rfl
        exact hhead rfl
      exact ⟨by simp [Nat.toDigits_of_lt_base hd], by simpa using hpos⟩
    | cons b l =>
      obtain ⟨hl, hpos⟩ := ih (List.cons_ne_nil b l) (by simpa using hhead) fun c hc =>
        hdigits c (List.mem_append_left _ hc)
      refine ⟨?_, by omega⟩
      rw [← Nat.toDigits_append_toDigits (by decide) hpos hd, hl, Nat.toDigits_of_lt_base hd]

theorem head?_toDigits {n : ℕ} (hn : 0 < n) : (Nat.toDigits 10 n).head? ≠ some '0' := by
  induction n using Nat.strongRecOn with
  | ind n ih =>
    by_cases hlt : n < 10
    · rw [Nat.toDigits_of_lt_base hlt]
      have hdigit : ∀ d < 10, 0 < d → Nat.digitChar d ≠ '0' := by decide
      simpa using hdigit n hlt hn
    · have hdiv : 0 < n / 10 := Nat.div_pos (Nat.le_of_not_lt hlt) (by decide)
      rw [Nat.toDigits_of_base_le (by decide) (Nat.le_of_not_lt hlt),
        List.head?_append_of_ne_nil _ Nat.toDigits_ne_nil]
      exact ih _ (Nat.div_lt_self hn (by decide)) hdiv

/-- A limit is written as its number is. -/
theorem takeLimit_iff {l : List Char} {n : ℕ} :
    takeLimit l = some n ↔ l = Nat.toDigits 10 n ∧ 1 ≤ n ∧ n < 10 ^ 5 := by
  constructor
  · intro hlimit
    cases l with
    | nil => cases hlimit
    | cons c l =>
      simp only [takeLimit] at hlimit
      split_ifs at hlimit with hform
      obtain ⟨hc, hzero, hlength, hdigits⟩ := hform
      cases hlimit
      obtain ⟨heq, hpos⟩ := toDigits_ofDigitChars (List.cons_ne_nil c l) (fun h => hzero (Option.some.inj h))
        (List.forall_mem_cons.mpr ⟨hc, List.all_eq_true.mp hdigits⟩)
      refine ⟨heq.symm, hpos, (Nat.length_toDigits_le_iff (by decide) (by decide)).mp ?_⟩
      rw [heq]
      exact Nat.succ_le_succ hlength
  · rintro ⟨rfl, hpos, hlt⟩
    have hlength := (Nat.length_toDigits_le_iff (by decide) (by decide)).mpr hlt
    have hhead := head?_toDigits hpos
    have hdigits : ∀ c ∈ Nat.toDigits 10 n, c.isDigit = true := fun c hc =>
      Nat.isDigit_of_mem_toDigits (by decide) (by decide) hc
    have hvalue := Nat.ofDigitChars_ten_toDigits (n := n)
    cases hl : Nat.toDigits 10 n with
    | nil => exact absurd hl Nat.toDigits_ne_nil
    | cons c l =>
      rw [hl] at hlength hhead hdigits hvalue
      rw [takeLimit, if_pos, hvalue]
      exact ⟨hdigits c List.mem_cons_self, fun h => hhead (congrArg some h), Nat.le_of_succ_le_succ hlength,
        List.all_eq_true.mpr fun d hd => hdigits d (List.mem_cons_of_mem c hd)⟩

theorem RESULTS_RE_iff {path id : List Char} {n : ℕ} : RESULTS_RE path = some (id, n) ↔
    path = "/runs/".toList ++ (id ++ ("/results?limit=".toList ++ Nat.toDigits 10 n)) ∧
      List.Forall₂ (fun p c => p c = true) UUID id ∧ 1 ≤ n ∧ n < 10 ^ 5 := by
  simp only [RESULTS_RE, Option.bind_eq_some_iff, Option.map_eq_some_iff, Prod.exists, takeRun_iff,
    List.dropPrefix?_eq_some_iff, beq_iff_eq, takeLimit_iff, Prod.mk.injEq]
  constructor
  · rintro ⟨m, rest, ⟨rfl, huuid⟩, k, ⟨l, ⟨_, rfl, rfl⟩, rfl, hpos, hlt⟩, rfl, rfl⟩
    exact ⟨rfl, huuid, hpos, hlt⟩
  · rintro ⟨rfl, huuid, hpos, hlt⟩
    exact ⟨id, _, ⟨rfl, huuid⟩, n, ⟨_, ⟨_, rfl, rfl⟩, rfl, hpos, hlt⟩, rfl, rfl⟩

/-- The two expressions match no path in common. -/
theorem RUN_RE_none {id id' rest : List Char} (hrest : rest ≠ [])
    (huuid : List.Forall₂ (fun p c => p c = true) UUID id) :
    RUN_RE ("/runs/".toList ++ (id ++ rest)) ≠ some id' := by
  intro hrun
  obtain ⟨hpath, huuid'⟩ := RUN_RE_iff.mp hrun
  have hlength := congrArg List.length (List.append_cancel_left hpath)
  rw [List.length_append, ← huuid.length_eq, ← huuid'.length_eq] at hlength
  exact hrest (List.length_eq_zero_iff.mp (by omega))

/-- A character that no URL parser rewrites, and that no segment of dots is made of. -/
def Plain (c : Char) : Prop := c.isAlphanum = true ∨ c ∈ ['/', '-', '?', '=']

instance (c : Char) : Decidable (Plain c) := inferInstanceAs (Decidable (_ ∨ _))

theorem plain_of_all {l : List Char} (hl : l.all (fun c => decide (Plain c)) = true) : ∀ c ∈ l, Plain c := fun c hc =>
  of_decide_eq_true (List.all_eq_true.mp hl c hc)

theorem plain_of_isHexDigit {c : Char} (hc : isHexDigit c = true) : Plain c := by
  simp only [isHexDigit, Bool.or_eq_true, Bool.and_eq_true, decide_eq_true_eq] at hc
  refine Or.inl ?_
  have hkinds : c.isAlphanum =
      ((decide ('A' ≤ c ∧ c ≤ 'Z') || ('a' ≤ c && c ≤ 'z')) || c.isDigit) := rfl
  simp only [hkinds, Bool.or_eq_true, Bool.and_eq_true, decide_eq_true_eq]
  obtain (hdigit | ⟨hlow, hhigh⟩) | ⟨hlow, hhigh⟩ := hc
  · exact Or.inr hdigit
  · exact Or.inl (Or.inr ⟨hlow, UInt32.le_trans hhigh (by decide)⟩)
  · exact Or.inl (Or.inl ⟨hlow, UInt32.le_trans hhigh (by decide)⟩)

theorem plain_of_matches {ps : List (Char → Bool)} {l : List Char} (hl : List.Forall₂ (fun p c => p c = true) ps l)
    (hps : ∀ p ∈ ps, ∀ c, p c = true → Plain c) : ∀ c ∈ l, Plain c := by
  induction hl with
  | nil => exact fun c hc => absurd hc List.not_mem_nil
  | cons hc _ ih =>
    obtain ⟨hp, hps⟩ := List.forall_mem_cons.mp hps
    exact List.forall_mem_cons.mpr ⟨hp _ hc, ih hps⟩

theorem RunId.plain (runId : RunId) : ∀ c ∈ runId.chars, Plain c := by
  have hUUID : ∀ p ∈ UUID, p = isHexDigit ∨ p = (· == '-') := by simp [UUID, List.intercalate, List.intersperse]
  refine plain_of_matches runId.uuid fun p hp c hc => ?_
  obtain rfl | rfl := hUUID p hp
  · exact plain_of_isHexDigit hc
  · obtain rfl : c = '-' := by simpa using hc
    decide

/-- The path of a route is plain. -/
theorem Route.plain (route : Route) : ∀ c ∈ route.path, Plain c := by
  cases route with
  | simulate => exact plain_of_all (by decide)
  | run runId => exact List.forall_mem_append.mpr ⟨plain_of_all (by decide), runId.plain⟩
  | results runId limit =>
    refine List.forall_mem_append.mpr ⟨plain_of_all (by decide), List.forall_mem_append.mpr ⟨runId.plain,
      List.forall_mem_append.mpr ⟨plain_of_all (by decide), fun c hc => Or.inl ?_⟩⟩⟩
    have hdigit := Nat.isDigit_of_mem_toDigits (by decide) (by decide) hc
    simp [Char.isAlphanum, hdigit]
  | cancel runId =>
    exact List.forall_mem_append.mpr ⟨plain_of_all (by decide),
      List.forall_mem_append.mpr ⟨runId.plain, plain_of_all (by decide)⟩⟩

variable {started : List String} {method path : String} {body : Option String} {simulate : Bool} {route : Route}

/-- **What is let through is one of the routes.** -/
theorem check_ok (hcheck : check started method path body = .ok simulate) :
    ∃ route, Permits started route method path body ∧ simulate = route.starts := by
  unfold check at hcheck
  split at hcheck
  · rename_i hstart
    obtain ⟨rfl, rfl⟩ := hstart
    split_ifs at hcheck with hbody
    cases hcheck
    refine ⟨.simulate, ⟨rfl, rfl, ?_, fun id hid => by cases hid⟩, rfl⟩
    cases body with
    | none => exact absurd rfl hbody
    | some b => rfl
  · split at hcheck
    · rename_i hget
      subst hget
      cases hread : readable path.toList with
      | none =>
        rw [hread] at hcheck
        cases hcheck
      | some r =>
        obtain ⟨id, limit⟩ := r
        simp only [hread] at hcheck
        split_ifs at hcheck with hown hlimit
        cases hcheck
        have hown' : own started id = true := by simpa using hown
        unfold readable at hread
        split at hread
        · rename_i hrun
          cases hread
          obtain ⟨hpath, huuid⟩ := RUN_RE_iff.mp hrun
          refine ⟨.run ⟨id, huuid⟩, ⟨rfl, hpath, trivial, fun id' hid => ?_⟩, rfl⟩
          cases hid
          exact hown'
        · obtain ⟨⟨runId, n⟩, hresults, heq⟩ := Option.map_eq_some_iff.mp hread
          cases heq
          obtain ⟨hpath, huuid, hpos, -⟩ := RESULTS_RE_iff.mp hresults
          have hmax : n ≤ SIM_RESULTS_MAX_LIMIT := by simpa using hlimit
          refine ⟨.results ⟨runId, huuid⟩ ⟨n, hpos, hmax⟩, ⟨rfl, hpath, trivial, fun id' hid => ?_⟩, rfl⟩
          cases hid
          exact hown'
    · split at hcheck
      · rename_i hpost
        subst hpost
        cases hcancel : CANCEL_RE path.toList with
        | none =>
          rw [hcancel] at hcheck
          cases hcheck
        | some runId =>
          simp only [hcancel] at hcheck
          split_ifs at hcheck with hown hbody
          cases hcheck
          obtain ⟨hpath, huuid⟩ := CANCEL_RE_iff.mp hcancel
          refine ⟨.cancel ⟨runId, huuid⟩, ⟨rfl, hpath, by simpa [Route.carries] using hbody, fun id' hid => ?_⟩, rfl⟩
          cases hid
          simpa using hown
      · cases hcheck

/-- **And each of the routes is let through.** -/
theorem check_of_permits (hP : Permits started route method path body) :
    check started method path body = .ok route.starts := by
  obtain ⟨rfl, hpath, hcarries, hown⟩ := hP
  cases route with
  | simulate =>
    have hstart : path = "/simulate" := String.toList_inj.mp hpath
    unfold check
    rw [if_pos ⟨rfl, hstart⟩, if_neg (by simpa [Route.carries] using Option.isSome_iff_ne_none.mp hcarries)]
    rfl
  | run runId =>
    have hrun := RUN_RE_iff.mpr ⟨hpath, runId.uuid⟩
    have hown' := hown runId rfl
    simp [check, Route.method, readable, hrun, hown', Route.starts]
  | results runId limit =>
    have hnone : RUN_RE path.toList = none := Option.eq_none_iff_forall_ne_some.mpr fun _ => by
      rw [hpath]
      exact RUN_RE_none (by simp) runId.uuid
    have hlt : limit.value < 10 ^ 5 := Nat.lt_of_le_of_lt limit.bounded (by decide)
    have hresults := RESULTS_RE_iff.mpr ⟨hpath, runId.uuid, limit.positive, hlt⟩
    have hown' := hown runId rfl
    have hmax := limit.bounded
    simp [check, Route.method, readable, hnone, hresults, hown', hmax, Route.starts]
  | cancel runId =>
    have hcancel := CANCEL_RE_iff.mpr ⟨hpath, runId.uuid⟩
    have hown' := hown runId rfl
    have hstart : path ≠ "/simulate" := by
      rintro rfl
      have htake : "/simulate".toList.take 2 = "/runs/".toList.take 2 := by
        rw [hpath]
        exact List.take_append_of_le_length (by decide)
      exact absurd htake (by decide)
    simp [check, Route.method, hstart, hcancel, hown', show body = none from hcarries, Route.starts]

/-! ## What is sent -/

/-- The run id was in a 202 to the door's own `POST /simulate`. -/
def Learnt (cfg : Config) (h : List Obs) (id : String) : Prop :=
  ∃ call runId body, .sent call 0 (cfg.request "POST" "/simulate" body) ∈ h ∧ .replied call 202 (some runId) ∈ h ∧
    cfg.isUuid runId = true ∧ toLowerCase runId = id

/-- The request is a route of the worker, and about a run only if that was started here before. -/
def Reachable (cfg : Config) (h : List Obs) (request : Request) : Prop :=
  ∃ (route : Route) (body : Option String), request = cfg.request route.method (String.ofList route.path) body ∧
    route.carries body ∧
    ∀ id ∈ route.runId, Learnt cfg h (toLowerCase (String.ofList id.chars))

/-- All that was sent was reachable then, and its path is as the worker will read it. -/
def Served (cfg : Config) (_ : Sys) (h : List Obs) : Prop :=
  Each (fun before x => ∀ call redirects request, x = .sent call redirects request → Reachable cfg before request ∧
    ∃ path : List Char, request.url = cfg.baseUrl ++ String.ofList path ∧ ∀ c ∈ path, Plain c) h

/-- The request is a route of the worker, for a run that the door has noted if it is about one. -/
def Leads (cfg : Config) (started : List String) (request : Request) : Prop :=
  ∃ (route : Route) (body : Option String), request = cfg.request route.method (String.ofList route.path) body ∧
    route.carries body ∧ ∀ id ∈ route.runId, own started id.chars = true

/-- A redirect that is followed leads to a route of the worker again. -/
def Stays (cfg : Config) (s : Sys) (_ : List Obs) : Act → Prop
  | .redirect call status location => status ∈ REDIRECT_STATUSES → ∀ c ∈ s.calls[call]?, c.answered = false →
      c.redirects ≠ MAX_REDIRECTS → Leads cfg s.started (cfg.follow c.request status location)
  | _ => True

variable {cfg : Config} {s s' : Sys} {h o : List Obs} {a : Act} {request : Request}

theorem Learnt.mono {id : String} (hL : Learnt cfg h id) (o : List Obs) : Learnt cfg (h ++ o) id := by
  obtain ⟨call, runId, body, hsent, hreplied, huuid, hid⟩ := hL
  exact ⟨call, runId, body, List.mem_append_left _ hsent, List.mem_append_left _ hreplied, huuid, hid⟩

theorem Reachable.plain (hR : Reachable cfg h request) :
    ∃ path : List Char, request.url = cfg.baseUrl ++ String.ofList path ∧ ∀ c ∈ path, Plain c := by
  obtain ⟨route, body, rfl, -⟩ := hR
  exact ⟨route.path, rfl, route.plain⟩

/-- Which calls start a run. -/
def Sys.sims (s : Sys) : List Bool := s.calls.map Call.simulate

/-- What the door has noted is what it was told. -/
structure Honest (cfg : Config) (s : Sys) (h : List Obs) : Prop where
  started : ∀ id ∈ s.started, Learnt cfg h id
  calls : ∀ call, s.sims[call]? = some true → ∃ body, .sent call 0 (cfg.request "POST" "/simulate" body) ∈ h
  first : ∀ call body, .sent call 0 (cfg.request "POST" "/simulate" body) ∈ h → s.sims[call]? = some true
  replied : ∀ call runId, .replied call 202 (some runId) ∈ h → ∃ simulate, s.sims[call]? = some simulate ∧
    (simulate = true → cfg.isUuid runId = true → toLowerCase runId ∈ s.started)

theorem Honest.learnt_iff (hH : Honest cfg s h) {id : String} : Learnt cfg h id ↔ id ∈ s.started := by
  refine ⟨?_, hH.started id⟩
  rintro ⟨call, runId, body, hsent, hreplied, huuid, rfl⟩
  obtain ⟨simulate, hsim, hnoted⟩ := hH.replied call runId hreplied
  exact hnoted (Option.some.inj (hsim.symm.trans (hH.first call body hsent))) huuid

theorem Honest.reachable_iff (hH : Honest cfg s h) : Reachable cfg h request ↔ Leads cfg s.started request := by
  simp only [Reachable, Leads, hH.learnt_iff, own, List.contains_iff_mem]

/-- Calls that are answered, redirected or lost. -/
theorem Honest.keep (hH : Honest cfg s h) {x : Obs} (hsims : s'.sims = s.sims)
    (hgrown : ∀ id ∈ s.started, id ∈ s'.started)
    (hnew : ∀ id ∈ s'.started, id ∈ s.started ∨ Learnt cfg (h ++ [x]) id)
    (hfirst : ∀ call request, x ≠ .sent call 0 request)
    (hreplied : ∀ call runId, x = .replied call 202 (some runId) → ∃ simulate, s.sims[call]? = some simulate ∧
      (simulate = true → cfg.isUuid runId = true → toLowerCase runId ∈ s'.started)) :
    Honest cfg s' (h ++ [x]) where
  started id hid := (hnew id hid).elim (fun hold => (hH.started id hold).mono [x]) fun hlearnt => hlearnt
  calls call hsim := by
    obtain ⟨body, hsent⟩ := hH.calls call (hsims ▸ hsim)
    exact ⟨body, List.mem_append_left _ hsent⟩
  first call body hsent := by
    rcases List.mem_append.mp hsent with hold | hx
    · exact hsims.symm ▸ hH.first call body hold
    · exact absurd (List.mem_singleton.mp hx).symm (hfirst call _)
  replied call runId hin := by
    rw [hsims]
    rcases List.mem_append.mp hin with hold | hx
    · obtain ⟨simulate, hsim, hnoted⟩ := hH.replied call runId hold
      exact ⟨simulate, hsim, fun hsimulate huuid => hgrown _ (hnoted hsimulate huuid)⟩
    · exact hreplied call runId (List.mem_singleton.mp hx).symm

/-- A call is let through. -/
theorem Honest.call (hH : Honest cfg s h) {method path : String} {body : Option String} {simulate : Bool}
    (hcheck : check s.started method path body = .ok simulate) :
    Honest cfg { s with calls := s.calls ++ [⟨simulate, false, cfg.request method path body, 0⟩] }
      (h ++ [.sent s.calls.length 0 (cfg.request method path body)]) := by
  obtain ⟨route, hP, hsimulate⟩ := check_ok hcheck
  have hlength : s.sims.length = s.calls.length := List.length_map _
  have hsims : Sys.sims { s with calls := s.calls ++ [⟨simulate, false, cfg.request method path body, 0⟩] } =
      s.sims ++ [simulate] := List.map_append
  have hold : ∀ {call b}, s.sims[call]? = some b → (s.sims ++ [simulate])[call]? = some b := fun hb =>
    List.getElem?_append_left (List.getElem?_eq_some_iff.mp hb).1 ▸ hb
  refine ⟨fun id hid => (hH.started id hid).mono _, fun call hsim => ?_, fun call body' hsent => ?_,
    fun call runId hin => ?_⟩
  · rw [hsims] at hsim
    by_cases hlt : call < s.sims.length
    · rw [List.getElem?_append_left hlt] at hsim
      obtain ⟨body, hsent⟩ := hH.calls call hsim
      exact ⟨body, List.mem_append_left _ hsent⟩
    · rw [List.getElem?_append_right (Nat.le_of_not_lt hlt)] at hsim
      obtain ⟨hlt', hnew⟩ := List.getElem?_eq_some_iff.mp hsim
      rw [List.length_singleton] at hlt'
      obtain rfl : call = s.calls.length := by omega
      -- a call that starts a run is the POST of one
      have hroute : route = .simulate := by
        rw [List.getElem_singleton, hsimulate] at hnew
        cases route with
        | simulate => rfl
        | _ => cases hnew
      subst hroute
      obtain rfl : path = "/simulate" := String.toList_inj.mp hP.path
      obtain rfl : method = "POST" := hP.method
      exact ⟨body, by simp⟩
  · rw [hsims]
    rcases List.mem_append.mp hsent with hbefore | hx
    · exact hold (hH.first call body' hbefore)
    · obtain ⟨rfl, -, heq⟩ := Obs.sent.inj (List.mem_singleton.mp hx)
      have hmethod : method = "POST" := (congrArg Request.method heq).symm
      have hpath : path = "/simulate" := (String.append_right_inj _).mp (congrArg Request.url heq).symm
      have htrue : simulate = true := by
        unfold check at hcheck
        rw [if_pos ⟨hmethod, hpath⟩] at hcheck
        split_ifs at hcheck
        exact (Except.ok.inj hcheck).symm
      rw [← hlength, List.getElem?_concat_length, htrue]
  · rw [hsims]
    rcases List.mem_append.mp hin with hbefore | hx
    · obtain ⟨b, hb, hnoted⟩ := hH.replied call runId hbefore
      exact ⟨b, hold hb, hnoted⟩
    · cases List.mem_singleton.mp hx

/-- A call is replaced by one that starts a run if it does. -/
theorem sims_set {call : ℕ} {c c' : Call} (hc : s.calls[call]? = some c) (hsimulate : c'.simulate = c.simulate) :
    (s.calls.set call c').map Call.simulate = s.sims := by
  rw [Sys.sims, List.map_set, hsimulate]
  refine List.ext_getElem? fun i => ?_
  rw [List.getElem?_set]
  split_ifs with hi hlt
  · subst hi
    rw [List.getElem?_map, hc]
    rfl
  · subst hi
    exact (List.getElem?_eq_none (Nat.le_of_not_lt hlt)).symm
  · rfl

/-- **What a step does.** -/
inductive Took (cfg : Config) (s : Sys) : Act → Sys → List Obs → Prop
  | refused {method path : String} {body : Option String} {why : String} :
    Took cfg s (.call method path body) s [.refused (refusal method path why)]
  | sent {method path : String} {body : Option String} {simulate : Bool}
    (hcheck : check s.started method path body = .ok simulate) :
    Took cfg s (.call method path body)
      { s with calls := s.calls ++ [⟨simulate, false, cfg.request method path body, 0⟩] }
      [.sent s.calls.length 0 (cfg.request method path body)]
  | replied {call status : ℕ} {runId : Option String} {c c' : Call} (hc : s.calls[call]? = some c)
    (hsimulate : c'.simulate = c.simulate) :
    Took cfg s (.reply call status runId)
      ⟨s.started ++ ((cfg.learns c.simulate status runId).map toLowerCase).toList, s.calls.set call c'⟩
      [.replied call status runId]
  | followed {call status : ℕ} {location : String} {c c' : Call} (hc : s.calls[call]? = some c)
    (hstatus : status ∈ REDIRECT_STATUSES) (hwaits : c.answered = false)
    (hfew : c.redirects ≠ MAX_REDIRECTS) (hsimulate : c'.simulate = c.simulate) :
    Took cfg s (.redirect call status location) { s with calls := s.calls.set call c' }
      [.sent call (c.redirects + 1) (cfg.follow c.request status location)]
  | exhausted {call status : ℕ} {location : String} {c c' : Call} (hc : s.calls[call]? = some c)
    (hmany : c.redirects = MAX_REDIRECTS)
    (hsimulate : c'.simulate = c.simulate) :
    Took cfg s (.redirect call status location) { s with calls := s.calls.set call c' } [.threw call]
  | threw {call : ℕ} {c c' : Call} (hc : s.calls[call]? = some c) (hsimulate : c'.simulate = c.simulate) :
    Took cfg s (.throws call) { s with calls := s.calls.set call c' } [.threw call]

theorem step_took (hs : (simFetch cfg).step s a = some (s', o)) : Took cfg s a s' o := by
  change SimFetch.step cfg s a = some (s', o) at hs
  cases a with
  | call method path body =>
    simp only [SimFetch.step] at hs
    cases hcheck : check s.started method path body with
    | error why =>
      simp only [hcheck] at hs
      cases hs
      exact .refused
    | ok simulate =>
      simp only [hcheck] at hs
      cases hs
      exact .sent hcheck
  | reply call status runId =>
    simp only [SimFetch.step] at hs
    split at hs
    · next hc =>
      cases hs
      exact .replied hc rfl
    · cases hs
  | redirect call status location =>
    simp only [SimFetch.step] at hs
    split at hs
    · next hc =>
      split_ifs at hs with hstatus hmany
      · cases hs
        exact .exhausted hc hmany rfl
      · cases hs
        exact .followed hc hstatus rfl hmany rfl
    · cases hs
  | throws call =>
    simp only [SimFetch.step] at hs
    split at hs
    · next hc =>
      cases hs
      exact .threw hc rfl
    · cases hs

theorem Honest.step (hH : Honest cfg s h) (ht : Took cfg s a s' o) : Honest cfg s' (h ++ o) := by
  cases ht with
  | refused => exact hH.keep rfl (fun _ hid => hid) (fun _ hid => Or.inl hid) nofun nofun
  | sent hcheck => exact hH.call hcheck
  | @replied call status runId c c' hc hsimulate =>
    have hsim : s.sims[call]? = some c.simulate := by rw [Sys.sims, List.getElem?_map, hc, Option.map_some]
    refine hH.keep (sims_set hc hsimulate) (fun id hid => List.mem_append_left _ hid) (fun id hid => ?_) nofun
      fun call' runId' hx => ?_
    · refine (List.mem_append.mp hid).imp_right fun hnew => ?_
      obtain ⟨id', hlearns, rfl⟩ := Option.map_eq_some_iff.mp (Option.mem_toList.mp hnew)
      unfold Config.learns at hlearns
      split_ifs at hlearns with h202
      obtain ⟨hstarts, rfl⟩ := h202
      obtain ⟨rfl, huuid⟩ := Option.filter_eq_some_iff.mp hlearns
      obtain ⟨body, hsent⟩ := hH.calls call (hsim.trans (congrArg some hstarts))
      exact ⟨call, id', body, List.mem_append_left _ hsent, by simp, huuid, rfl⟩
    · obtain ⟨rfl, rfl, rfl⟩ := Obs.replied.inj hx
      refine ⟨c.simulate, hsim, fun hstarts huuid => List.mem_append_right _ ?_⟩
      have hlearns : cfg.learns c.simulate 202 (some runId') = some runId' := by
        rw [Config.learns, if_pos ⟨hstarts, rfl⟩]
        exact Option.filter_eq_some_iff.mpr ⟨rfl, huuid⟩
      rw [hlearns]
      exact List.mem_singleton_self _
  | followed hc _ _ _ hsimulate =>
    exact hH.keep (sims_set hc hsimulate) (fun _ hid => hid) (fun _ hid => Or.inl hid)
      (fun _ _ heq => Nat.succ_ne_zero _ (Obs.sent.inj heq).2.1) nofun
  | exhausted hc _ hsimulate =>
    exact hH.keep (sims_set hc hsimulate) (fun _ hid => hid) (fun _ hid => Or.inl hid) nofun nofun
  | threw hc hsimulate =>
    exact hH.keep (sims_set hc hsimulate) (fun _ hid => hid) (fun _ hid => Or.inl hid) nofun nofun

theorem honest_init (cfg : Config) : Honest cfg .init [] where
  started id hid := absurd hid List.not_mem_nil
  calls call hsim := by cases hsim
  first call body hsent := absurd hsent List.not_mem_nil
  replied call runId hin := absurd hin List.not_mem_nil

/-- Nothing is sent but what the step sends. -/
theorem served_append {x : Obs} (hS : Served cfg s h) : Served cfg s' (h ++ [x]) ↔
    ∀ call redirects request, x = .sent call redirects request → Reachable cfg h request := by
  unfold Served at hS ⊢
  rw [each_append, and_iff_right hS, each_singleton, List.append_nil]
  exact ⟨fun hx call redirects request heq => (hx call redirects request heq).1,
    fun hx call redirects request heq => ⟨hx call redirects request heq, (hx call redirects request heq).plain⟩⟩

theorem served_step_iff (hH : Honest cfg s h) (hS : Served cfg s h) (hs : (simFetch cfg).step s a = some (s', o)) :
    Served cfg s' (h ++ o) ↔ Stays cfg s h a := by
  cases step_took hs with
  | @sent method path body simulate hcheck =>
    obtain ⟨route, ⟨hmethod, hpath, hcarries, hown⟩, -⟩ := check_ok hcheck
    refine (served_append hS).trans ⟨fun _ => trivial, fun _ call redirects request heq => ?_⟩
    obtain ⟨-, -, rfl⟩ := Obs.sent.inj heq
    refine hH.reachable_iff.mpr ⟨route, body, ?_, hcarries, hown⟩
    rw [← hmethod, ← hpath, String.ofList_toList]
  | followed hc hstatus hwaits hfew =>
    refine (served_append hS).trans ⟨fun hsent _ c' hc' _ _ => ?_, fun hstays call redirects request heq => ?_⟩
    · obtain rfl := Option.some.inj (hc.symm.trans hc')
      exact hH.reachable_iff.mp (hsent _ _ _ rfl)
    · obtain ⟨-, -, rfl⟩ := Obs.sent.inj heq
      exact hH.reachable_iff.mpr (hstays hstatus _ hc hwaits hfew)
  | exhausted hc hmany =>
    refine (served_append hS).trans ⟨fun _ _ c' hc' _ hfew => ?_, fun _ _ _ _ heq => by cases heq⟩
    obtain rfl := Option.some.inj (hc.symm.trans hc')
    exact absurd hmany hfew
  | _ => exact (served_append hS).trans ⟨fun _ => trivial, fun _ _ _ _ heq => by cases heq⟩

theorem stays_of_none (hs : (simFetch cfg).step s a = none) : Stays cfg s h a := by
  cases a with
  | redirect call status location =>
    intro hstatus c hc hwaits hfew
    change SimFetch.step cfg s (.redirect call status location) = none at hs
    obtain ⟨simulate, answered, request, redirects⟩ := c
    cases hwaits
    simp only [SimFetch.step, show s.calls[call]? = some ⟨simulate, false, request, redirects⟩ from hc] at hs
    rw [if_neg (not_not.mpr hstatus), if_neg hfew] at hs
    cases hs
  | _ => trivial

/-- **The door reaches only what it started**, exactly when every redirect that is followed leads to one of its routes
again.  What is asked is sent if a route permits it, and otherwise refused with nothing sent. -/
theorem reaches_only_started_iff (cfg : Config) (as : List Act) :
    ((simFetch cfg).Along (Served cfg) .init [] as ↔ (simFetch cfg).Meets (Stays cfg) .init [] as) ∧
    ∀ s method path body,
      (∀ route, Permits s.started route method path body → ∃ s', (simFetch cfg).step s (.call method path body) =
        some (s', [.sent s.calls.length 0 (cfg.request method path body)])) ∧
      ((∀ route, ¬ Permits s.started route method path body) →
        ∃ why, (simFetch cfg).step s (.call method path body) = some (s, [.refused (refusal method path why)])) := by
  refine ⟨along_iff_meets (I := Honest cfg) (fun hH hs => hH.step (step_took hs)) served_step_iff
    (fun _ hs => stays_of_none hs) (honest_init cfg) (each_nil _), fun s method path body =>
    ⟨fun route hP => ?_, fun hnone => ?_⟩⟩
  · have hcheck := check_of_permits hP
    exact ⟨{ s with calls := s.calls ++ [⟨route.starts, false, cfg.request method path body, 0⟩] },
      by simp only [simFetch, step, hcheck]⟩
  · cases hcheck : check s.started method path body with
    | error why => exact ⟨why, by simp only [simFetch, step, hcheck]⟩
    | ok simulate =>
      obtain ⟨route, hP, -⟩ := check_ok hcheck
      exact absurd hP (hnone route)

/-- Two URLs on one host have one origin. -/
def localWorker : Config where
  baseUrl := "http://localhost:8000"
  apiKey := "key"
  tenantId := "tenant"
  isUuid s := s.length = 36
  origin url := String.ofList (['/'].intercalate ((url.toList.splitOn '/').take 3))

/-- The start of a run is answered by a redirect to the route that the door keeps shut. -/
def toWeather : List Act :=
  [.call "POST" "/simulate" (some "\x7b\x7d"), .redirect 0 307 "http://localhost:8000/weather/generate"]

/-- What is sent then, with the key and the body of the run. -/
def weatherRequest : Request where
  method := "POST"
  url := "http://localhost:8000/weather/generate"
  headers := [("content-type", "application/json"), ("x-tenant-id", "tenant"), ("authorization", "Bearer key")]
  body := some "\x7b\x7d"

theorem toWeather_run : ((simFetch localWorker).exec .init toWeather).map (fun r => r.2) =
    some [.sent 0 0 (localWorker.request "POST" "/simulate" (some "\x7b\x7d")), .sent 0 1 weatherRequest] := by
  decide +kernel

/-- No route has that path. -/
theorem redirected_away : ¬ ∀ s h, (simFetch localWorker).Reaches .init s h → Served localWorker s h := by
  intro hclaim
  obtain ⟨⟨s, h⟩, hr, hh⟩ := Option.map_eq_some_iff.mp toWeather_run
  obtain ⟨route, body, heq, -⟩ :=
    (hclaim s h ⟨toWeather, hr⟩ _ _ [] (show h = [_] ++ _ from hh) 0 1 weatherRequest rfl).1
  have hmethod : "POST" = route.method := congrArg Request.method heq
  have hpath : "http://localhost:8000" ++ "/weather/generate" = "http://localhost:8000" ++ String.ofList route.path :=
    congrArg Request.url heq
  have hlist : "/weather/generate".toList = route.path := by
    rw [(String.append_right_inj _).mp hpath, String.toList_ofList]
  cases route with
  | simulate => exact absurd hlist (by decide)
  | cancel runId =>
    have htake : "/weather/generate".toList.take 2 = "/runs/".toList.take 2 := by
      rw [hlist]
      exact List.take_append_of_le_length (by decide)
    exact absurd htake (by decide)
  | _ => exact absurd (show "POST" = "GET" from hmethod) (by decide)

end DTwin.Copilot.SimFetch
