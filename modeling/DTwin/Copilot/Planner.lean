import DTwin.Copilot.Specialist

/-!
# DTwin.Copilot.Planner — how a question is answered, one wave at a time

`apps/web/lib/copilot/planner.ts`.  What the model replies to each attempt is given (`PlannerWorld`), and so are the
evidence ids held, since evidence is no channel here; a route keeps neither the interpretation nor the message, which
no router reads.  `planner_did` says what an execution can return.
-/

namespace DTwin.Copilot

open OrderedMap

/-- What the nodes of a graph are built with. -/
structure TurnConfig where
  limits : TurnLimits
  hash : Hash
  isUuid : String → Bool
  verifyText : String → Option OrientContext → List String
  presentable : String → ReviewedPlan → Bool
  /-- Whether there is a scenario runner. -/
  simAvailable : Bool

def TurnConfig.toConfig (cfg : TurnConfig) : Config where
  limits := cfg.limits.toLimits
  hash := cfg.hash
  isUuid := cfg.isUuid
  verifyText := cfg.verifyText
  presentable := cfg.presentable

/-! ## Decisions -/

inductive PlannerIntent | diagnose | analyse | whatif | control | compound | clarify | outOfScope
deriving DecidableEq

structure PlannedTask where
  specialist : SpecialistNode
  goal : String
  zoneIds : List String
  inputEvidenceIds : List String

structure PlannedControl where
  mode : ControlMode
  brief : String
  inputEvidenceIds : List String

structure PlannerDecision where
  intent : PlannerIntent
  allowControl : Bool
  allowSimulation : Bool
  next : PlannerNext
  tasks : List PlannedTask
  controlTask : Option PlannedControl
  message : Option String

inductive PlannerReply
  /-- The registry refuses the call, or ends it. -/
  | refused (reason : BudgetReason)
  | throws
  /-- The model declines. -/
  | refusal
  | malformed
  | decision (d : PlannerDecision)

structure PlannerWorld where
  /-- What the registry says before any call. -/
  refusal : Option BudgetReason
  replies : ℕ → PlannerReply
  evidenceIds : List String

structure FirstFlags where
  allowControl : Bool
  allowSimulation : Bool

def Scope.flags (scope : Scope) : FirstFlags := ⟨scope.allowControl, scope.allowSimulation⟩

/-! ## validatePlan -/

structure PlanValidation where
  errors : List String
  /-- The control task is one that this request may not have. -/
  dropControl : Bool

def PlannerNext.text : PlannerNext → String
  | .dispatch => "dispatch"
  | .compose => "compose"
  | .control => "control"
  | .finish => "finish"

def simulateTasks (n : ℕ) : String := toString n ++ " simulate task" ++ if n = 1 then "" else "s"

def countSimulate (specialists : List SpecialistNode) : ℕ := (specialists.filter (· = .simulate)).length

/-- What the simulate tasks of a decision are refused for. -/
def simulateErrors (cfg : TurnConfig) (s : State) (scope : FirstFlags) (d : PlannerDecision) : List String :=
  let simulate := countSimulate (d.tasks.map PlannedTask.specialist)
  let simSoFar := countSimulate (s.tasks.values.map TaskSpec.specialist)
  if 0 < simulate then
    (if !cfg.simAvailable then
      ["simulate is not available for this request; use diagnose or analyse, or say it cannot be simulated"]
    else if !scope.allowSimulation then
      ["this request did not ask for a simulation (allowSimulation was false on the first decision)"]
    else []) ++
    if cfg.limits.maxSimulateTasksPerRequest < simSoFar + simulate then
      ["a request runs at most " ++ simulateTasks cfg.limits.maxSimulateTasksPerRequest ++
        " (its one simulation call runs the baseline and every scenario together; put them in one task)"]
    else []
  else []

/-- The zones and the evidence that the `i`-th task names and that do not exist. -/
def taskErrors (evidenceIds : List String) (s : State) (i : ℕ) (t : PlannedTask) : List String :=
  let at_ := "tasks[" ++ toString i ++ "]: "
  (t.zoneIds.filter fun id => (s.directory.get? id).isNone).map
    (fun id => at_ ++ "zone \"" ++ id ++ "\" is not in the directory") ++
  (t.inputEvidenceIds.filter (· ∉ evidenceIds)).map fun id => at_ ++ "evidence " ++ id ++ " does not exist"

def validatePlan (cfg : TurnConfig) (evidenceIds : List String) (s : State) (scope : FirstFlags)
    (d : PlannerDecision) : PlanValidation :=
  let soFar := s.tasks.size
  let may := scope.allowControl && (s.request.map RequestStamp.mayCommand).getD false
  let talking := d.next = .finish ∧ (d.intent = .clarify ∨ d.intent = .outOfScope)
  { errors :=
      (if d.next = .dispatch then
        if d.tasks.length < 1 ∨ cfg.limits.maxTasksPerWave < d.tasks.length then
          ["next \"dispatch\" needs 1 to " ++ toString cfg.limits.maxTasksPerWave ++ " tasks, got " ++
            toString d.tasks.length]
        else []
      else if 0 < d.tasks.length then
        ["tasks are dispatched only with next \"dispatch\", not \"" ++ d.next.text ++ "\"; send an empty list"]
      else []) ++
      (if cfg.limits.maxTasksPerRequest < soFar + d.tasks.length then
        ["a request runs at most " ++ toString cfg.limits.maxTasksPerRequest ++ " tasks; " ++ toString soFar ++
          " have run, so at most " ++ toString (cfg.limits.maxTasksPerRequest - soFar) ++ " more"]
      else []) ++
      simulateErrors cfg s scope d ++
      (d.tasks.zipIdx.flatMap fun e => taskErrors evidenceIds s e.2 e.1) ++
      (match d.controlTask with
      | none => []
      | some task =>
        if !may then []
        else if s.controlTask.isSome then ["a controlTask was already given for this request; send null"]
        else (task.inputEvidenceIds.filter (· ∉ evidenceIds)).map fun id =>
          "controlTask: evidence " ++ id ++ " does not exist") ++
      (if d.next = .control ∧ d.controlTask.isNone ∧ s.controlTask.isNone then
        ["next \"control\" needs a controlTask"]
      else []) ++
      (if talking ∧ d.message.isNone then ["next \"finish\" with clarify or out_of_scope needs a message"] else []) ++
      (if ¬talking ∧ d.message.isSome then
        ["message is only for next \"finish\" with clarify or out_of_scope; send null"]
      else []) ++
      (if d.next = .finish ∧ ¬talking then
        ["next \"finish\" is only for clarify or out_of_scope; to answer, choose compose"]
      else [])
    dropControl := d.controlTask.isSome && !may }

/-! ## The node -/

def State.onward (s : State) : PlannerNext := if 0 < s.findings.size then .compose else .finish

/-- The planner makes no call, or none that counts, and moves on. -/
def moveOn (s : State) (notices : List Notice) : Update where
  plannerRoute := some (some ⟨s.onward, []⟩)
  notices := some (.append notices)

/-- The operator's words go to the controller as they stand. -/
def fallbackControl (request : RequestStamp) : Update where
  scope := some (some ⟨true, false, .fallback⟩)
  controlTask := some (some ⟨.propose, request.text, .pending⟩)
  plannerRoute := some (some ⟨.control, []⟩)

/-- Whether the fallback may go to the controller. -/
def mayFallBack (s : State) (request : RequestStamp) (first : Option FirstFlags) : Bool :=
  request.mayCommand && s.waves = 0 && s.findings.size = 0 && s.controlTask.isNone &&
    match s.scope with
    | none => (first.map FirstFlags.allowControl).getD true
    | some scope => scope.allowControl

def fallback (s : State) (request : RequestStamp) (first : Option FirstFlags) : Update :=
  if mayFallBack s request first then fallbackControl request else moveOn s [⟨.plannerUnavailable, []⟩]

/-- The tasks of a decision as they are dispatched. -/
def dispatched (s : State) (d : PlannerDecision) : List TaskSpec :=
  d.tasks.zipIdx.map fun e =>
    ⟨"T" ++ toString (s.taskSeq + e.2 + 1), e.1.specialist, e.1.goal, e.1.zoneIds, s.waves + 1, .running⟩

/-- Where an accepted decision leads: not to the controller with a control task that was dropped. -/
def acceptedNext (s : State) (d : PlannerDecision) (v : PlanValidation) : PlannerNext :=
  if v.dropControl ∧ d.next = .control ∧ s.controlTask.isNone then s.onward else d.next

def accept (cfg : TurnConfig) (s : State) (d : PlannerDecision) (v : PlanValidation) (first : Option FirstFlags) :
    Update :=
  let dispatches := acceptedNext s d v = .dispatch
  let notices := (if v.dropControl then [⟨.controlNotPermitted, []⟩] else []) ++
    match d.message with
    | none => []
    | some message => if 0 < (cfg.verifyText message s.context).length then [⟨.messageUnverified, []⟩] else []
  { scope := if s.scope.isNone then first.map fun f => some ⟨f.allowControl, f.allowSimulation, .planner⟩ else none
    controlTask := if v.dropControl then none else d.controlTask.map fun t => some ⟨t.mode, t.brief, .pending⟩
    tasks := if dispatches then some (some (ofList TaskSpec.taskId (dispatched s d))) else none
    waves := if dispatches then some (s.waves + 1) else none
    taskSeq := if dispatches then some (s.taskSeq + d.tasks.length) else none
    plannerRoute := some (some
      ⟨acceptedNext s d v, if dispatches then (dispatched s d).map TaskSpec.taskId else []⟩)
    notices := if notices.isEmpty then none else some (.append notices) }

/-- The model declined, and nothing in its reply is acted on. -/
def plannerRefused : Update where
  plannerRoute := some (some ⟨.finish, []⟩)
  notices := some (.append [⟨.modelRefused, []⟩])

/-- The first flags once `d` is parsed. -/
def firstFlags (s : State) (d : PlannerDecision) (first : Option FirstFlags) : Option FirstFlags :=
  if s.scope.isNone && first.isNone then some ⟨d.allowControl, d.allowSimulation⟩ else first

/-- The authority a decision is held to: the scope held, or the first flags, which are there if there is none. -/
def effectiveScope (s : State) (first : Option FirstFlags) : FirstFlags :=
  ((s.scope.map Scope.flags).or first).getD ⟨false, false⟩

/-- The attempts that are left, from the `attempt`-th on. -/
def attempts (cfg : TurnConfig) (s : State) (request : RequestStamp) (w : PlannerWorld) :
    ℕ → ℕ → Option FirstFlags → Update
  | 0, _, first => fallback s request first
  | left + 1, attempt, first =>
    match w.replies attempt with
    | .refused reason => moveOn s [budgetNotice cfg.limits.toLimits reason]
    | .throws => fallback s request first
    | .refusal => plannerRefused
    | .malformed => attempts cfg s request w left (attempt + 1) first
    | .decision d =>
      let first := firstFlags s d first
      let v := validatePlan cfg w.evidenceIds s (effectiveScope s first) d
      if v.errors.isEmpty then accept cfg s d v first else attempts cfg s request w left (attempt + 1) first

def planner (cfg : TurnConfig) (s : State) (w : PlannerWorld) : Update :=
  match s.context, s.request with
  | some _, some request =>
    if cfg.limits.maxWaves ≤ s.waves then moveOn s [⟨.waveLimit, [("waves", .number s.waves)]⟩]
    else
      match w.refusal with
      | some reason => moveOn s [budgetNotice cfg.limits.toLimits reason]
      | none => attempts cfg s request w (cfg.limits.maxPlannerRepairs + 1) 0 none
  | _, _ => moveOn s []

/-! ## What an execution does -/

inductive PlannerDid (cfg : TurnConfig) (s : State) : Update → Prop
  | moves (notices : List Notice) : PlannerDid cfg s (moveOn s notices)
  | refuses : PlannerDid cfg s plannerRefused
  | falls {request : RequestStamp} {first : Option FirstFlags} (hrequest : s.request = some request)
      (hmay : mayFallBack s request first = true) : PlannerDid cfg s (fallbackControl request)
  | accepts {d : PlannerDecision} {first : Option FirstFlags} {evidenceIds : List String}
      (hwaves : s.waves < cfg.limits.maxWaves) (hfirst : s.scope = none → first.isSome = true)
      (hvalid : (validatePlan cfg evidenceIds s (effectiveScope s first) d).errors = []) :
      PlannerDid cfg s (accept cfg s d (validatePlan cfg evidenceIds s (effectiveScope s first) d) first)

section Spec

variable {cfg : TurnConfig} {s : State} {request : RequestStamp} {u : Update}

theorem fallback_did (hrequest : s.request = some request) (first : Option FirstFlags) :
    PlannerDid cfg s (fallback s request first) := by
  unfold fallback
  split_ifs with hmay
  · exact .falls hrequest hmay
  · exact .moves _

theorem firstFlags_isSome (d : PlannerDecision) (first : Option FirstFlags) (hscope : s.scope = none) :
    (firstFlags s d first).isSome = true := by
  cases first with
  | none => simp [firstFlags, hscope]
  | some f => simp [firstFlags]

theorem attempts_did (w : PlannerWorld) (hrequest : s.request = some request) (hwaves : s.waves < cfg.limits.maxWaves) :
    ∀ (left attempt : ℕ) (first : Option FirstFlags),
      PlannerDid cfg s (attempts cfg s request w left attempt first) := by
  intro left
  induction left with
  | zero =>
    intro attempt first
    exact fallback_did hrequest first
  | succ left ih =>
    intro attempt first
    rw [attempts]
    cases w.replies attempt with
    | refused reason => exact .moves _
    | throws => exact fallback_did hrequest first
    | refusal => exact .refuses
    | malformed => exact ih (attempt + 1) first
    | decision d =>
      dsimp only
      split_ifs with hvalid
      · exact .accepts hwaves (firstFlags_isSome d first) (by simpa using hvalid)
      · exact ih (attempt + 1) _

/-- **What the planner does**, whatever is replied to it. -/
theorem planner_did (cfg : TurnConfig) (s : State) (w : PlannerWorld) : PlannerDid cfg s (planner cfg s w) := by
  unfold planner
  split
  case h_1 request _ hrequest =>
    split_ifs with hwaves
    · exact .moves _
    · cases w.refusal with
      | some reason => exact .moves _
      | none => exact attempts_did w hrequest (Nat.lt_of_not_le hwaves) _ 0 none
  case h_2 => exact .moves _

/-- A decision that passes sends no task to simulate that the request was not given. -/
theorem simulate_of_valid {evidenceIds : List String} {scope : FirstFlags} {d : PlannerDecision}
    (hvalid : (validatePlan cfg evidenceIds s scope d).errors = []) {t : PlannedTask} (ht : t ∈ d.tasks)
    (hsim : t.specialist = .simulate) : scope.allowSimulation = true := by
  have herrors : simulateErrors cfg s scope d = [] := by
    simp only [validatePlan, List.append_eq_nil_iff] at hvalid
    exact hvalid.1.1.1.1.1.1.2
  have hcount : 0 < countSimulate (d.tasks.map PlannedTask.specialist) := by
    rw [countSimulate, List.length_pos_iff_exists_mem]
    exact ⟨.simulate, List.mem_filter.mpr ⟨List.mem_map.mpr ⟨t, ht, hsim⟩, by simp⟩⟩
  simp only [simulateErrors, hcount, if_true, List.append_eq_nil_iff] at herrors
  have hoffered := herrors.1
  by_contra hscope
  cases hsim : cfg.simAvailable with
  | false => simp [hsim] at hoffered
  | true => simp [hsim, hscope] at hoffered

theorem accept_scope (cfg : TurnConfig) (d : PlannerDecision) (v : PlanValidation) {first : Option FirstFlags}
    (hfirst : s.scope = none → first.isSome = true) :
    (s.merge (accept cfg s d v first)).scope.map Scope.flags = some (effectiveScope s first) := by
  cases hs : s.scope with
  | some held => simp [State.merge, accept, effectiveScope, hs]
  | none =>
    obtain ⟨f, rfl⟩ := Option.isSome_iff_exists.mp (hfirst hs)
    simp [State.merge, accept, effectiveScope, hs, mergeScope, Scope.flags]

/-- A decision that dispatches leaves a scope, and a wave begun. -/
theorem planner_dispatch (hdid : PlannerDid cfg s u) {route : PlannerRoute}
    (hroute : (s.merge u).plannerRoute = some route) (hnext : route.next = .dispatch) :
    (s.merge u).scope ≠ none ∧ (s.merge u).waves = s.waves + 1 ∧ s.waves < cfg.limits.maxWaves := by
  cases hdid with
  | moves notices =>
    have hroute' : (⟨s.onward, []⟩ : PlannerRoute) = route := Option.some.inj hroute
    rw [← hroute'] at hnext
    simp only [State.onward] at hnext
    split_ifs at hnext
  | refuses =>
    have hroute' : (⟨.finish, []⟩ : PlannerRoute) = route := Option.some.inj hroute
    rw [← hroute'] at hnext
    cases hnext
  | falls _ _ =>
    have hroute' : (⟨.control, []⟩ : PlannerRoute) = route := Option.some.inj hroute
    rw [← hroute'] at hnext
    cases hnext
  | @accepts d first evidenceIds hwaves hfirst hvalid =>
    refine ⟨?_, ?_, hwaves⟩
    · intro hnone
      have hscope := accept_scope cfg d (validatePlan cfg evidenceIds s (effectiveScope s first) d) hfirst
      simp [hnone] at hscope
    · have hdispatch : acceptedNext s d (validatePlan cfg evidenceIds s (effectiveScope s first) d) = .dispatch := by
        rw [← hnext, ← Option.some.inj hroute]
      simp [State.merge, accept, hdispatch]

end Spec

end DTwin.Copilot
