import DTwin.Copilot.Requests

/-!
# DTwin.Copilot.SimRuns — how many simulation runs a request has in flight

A run is admitted by the request that its thread holds, and `endSimRun` is for the request that the thread holds when
the run ends.  A run that outlives its request takes the next one's from its count, and that one is admitted another
(`straggler_admits_two`); if none does (`OwnEnds`), no request has more runs in flight than it may
(`sim_runs_bounded`).
-/

namespace DTwin.Copilot.Requests

open OrderedMap Machine

/-- The runs that the request started and that have not ended. -/
def Sys.running (s : Sys) (request : ℕ) : ℕ := s.runs.countP fun r => r.request = request ∧ r.ended = false

/-- When a run ends on a thread that holds a later request, that one has no run in flight. -/
def OwnEnds (s : Sys) (_ : List Obs) : Act → Prop
  | .endSimRun run => ∀ r ∈ s.runs[run]?, ∀ held ∈ s.entries.get? r.threadId, held ≠ r.request → s.running held = 0
  | _ => True

instance (s : Sys) (h : List Obs) : (a : Act) → Decidable (OwnEnds s h a)
  | .endSimRun run => inferInstanceAs (Decidable (∀ r ∈ s.runs[run]?, ∀ held ∈ s.entries.get? r.threadId,
      held ≠ r.request → s.running held = 0))
  | .begin .. | .close .. | .stop .. | .clearStop .. | .anyOpen .. | .call .. | .reply .. | .callFails .. | .timer ..
  | .claimEvidence .. | .claimSimCall .. | .beginSimRun .. => isTrue trivial

variable {limits : Limits} {s s' : Sys} {h o : List Obs} {a : Act} {threadId : String} {request run : ℕ}

theorem running_append (s : Sys) (threadId : String) (request i : ℕ) :
    ({ s with runs := s.runs ++ [⟨threadId, request, false⟩] } : Sys).running i =
      s.running i + if request = i then 1 else 0 := by
  simp [Sys.running, List.countP_append, List.countP_singleton]

/-- A run that ends was in flight. -/
theorem running_end (hrun : s.runs[run]? = some ⟨threadId, request, false⟩) (i : ℕ) :
    ({ s with runs := s.runs.set run ⟨threadId, request, true⟩ } : Sys).running i +
      (if request = i then 1 else 0) = s.running i := by
  obtain ⟨hlt, heq⟩ := List.getElem?_eq_some_iff.mp hrun
  have hmem : s.runs[run] ∈ s.runs := List.getElem_mem hlt
  simp only [Sys.running]
  rw [List.countP_set hlt, heq]
  by_cases hi : request = i
  · subst hi
    have hpos : 0 < s.runs.countP fun r => r.request = request ∧ r.ended = false :=
      List.countP_pos_iff.mpr ⟨_, hmem, by simp [heq]⟩
    simp only [decide_true, decide_false, and_true, and_false, if_true, Bool.false_eq_true, if_false,
      Bool.true_eq_false]
    omega
  · simp [hi]

/-- The counter of a held request is the number of its runs in flight, and no request has more than it may. -/
structure Sequential (limits : Limits) (s : Sys) (_ : List Obs) : Prop where
  linked : Linked s
  known : ∀ r ∈ s.runs, r.request < s.objects.length
  owner : ∀ r ∈ s.runs, ∀ threadId, s.entries.get? threadId = some r.request → r.threadId = threadId
  exact : ∀ threadId request e, s.entries.get? threadId = some request → s.objects[request]? = some e →
    e.simInFlight = s.running request
  bounded : ∀ request, s.running request ≤ limits.simInFlightPerRequest

theorem Sequential.flight (hS : Sequential limits s h) {e : Entry} (hheld : s.entries.get? threadId = some request)
    (he : s.objects[request]? = some e) : e.simInFlight = s.running request := hS.exact threadId request e hheld he

/-- Entries are dropped. -/
theorem Sequential.dropped (hS : Sequential limits s h) {entries : OrderedMap String ℕ}
    (hentries : ∀ threadId request, entries.get? threadId = some request → s.entries.get? threadId = some request) :
    Sequential limits { s with entries } (h ++ o) where
  linked := hS.linked.fewer rfl hentries
  known := hS.known
  owner r hr i hheld := hS.owner r hr i (hentries i _ hheld)
  exact i request e hheld he := hS.exact i request e (hentries i request hheld) he
  bounded := hS.bounded

/-- A change of an entry that leaves its counter of runs as it was. -/
theorem Sequential.edited (hS : Sequential limits s h) {f : Entry → Entry}
    (hf : ∀ e, (f e).simInFlight = e.simInFlight) {calls : List Call} :
    Sequential limits { s.modify request f with calls } (h ++ o) where
  linked := hS.linked.fewer (List.length_modify ..).symm fun _ _ hheld => hheld
  known r hr := (hS.known r hr).trans_eq (List.length_modify ..).symm
  owner := hS.owner
  exact i request' e hheld he := by
    rw [Sys.modify, List.getElem?_modify] at he
    obtain ⟨e₀, he₀, rfl⟩ := Option.map_eq_some_iff.mp he
    refine Eq.trans ?_ (hS.exact i request' e₀ hheld he₀)
    split_ifs
    · exact hf e₀
    · rfl
  bounded := hS.bounded

/-- A request begins, with no run. -/
theorem Sequential.began (hS : Sequential limits s h) (hs : (registry limits).step s a = some (s', o)) {now : ℤ}
    {requestId : String} (hs' : s' = { s.sweep limits now with
      objects := s.objects ++ [.fresh limits requestId now]
      entries := (s.sweep limits now).entries.set threadId s.objects.length }) : Sequential limits s' (h ++ o) := by
  have hlinked := hS.linked.step hs
  subst hs'
  have hnone : ∀ r ∈ s.runs, r.request ≠ s.objects.length := fun r hr => (hS.known r hr).ne
  have hheld : ∀ {i request}, ((s.sweep limits now).entries.set threadId s.objects.length).get? i = some request →
      request = s.objects.length ∨ s.entries.get? i = some request := by
    intro i request hget
    rw [get?_set] at hget
    split_ifs at hget
    · exact Or.inl (Option.some.inj hget).symm
    · exact Or.inr (get?_sweep hget)
  refine ⟨hlinked, fun r hr => ?_, fun r hr i hget => ?_, fun i request e hget he => ?_, hS.bounded⟩
  · rw [List.length_append]
    exact Nat.lt_add_right _ (hS.known r hr)
  · exact hS.owner r hr i ((hheld hget).resolve_left (hnone r hr))
  · obtain rfl | hold := hheld hget
    · rw [List.getElem?_append_right le_rfl, Nat.sub_self] at he
      cases he
      refine (List.countP_eq_zero.mpr fun r hr => ?_).symm
      simp [hnone r hr]
    · rw [List.getElem?_append_left (hS.linked.held i request hold)] at he
      exact hS.exact i request e hold he

/-- **A run is admitted**, to a request that has room. -/
theorem Sequential.simBegun (hS : Sequential limits s h) {e : Entry} (hheld : s.entries.get? threadId = some request)
    (he : s.objects[request]? = some e) (hroom : e.simInFlight < limits.simInFlightPerRequest) :
    Sequential limits { s.modify request fun e =>
        { e with simRuns := e.simRuns + 1, simInFlight := e.simInFlight + 1 } with
      runs := s.runs ++ [⟨threadId, request, false⟩] } (h ++ o) := by
  have hflight := hS.flight hheld he
  have hlength : (s.objects.modify request fun e =>
      { e with simRuns := e.simRuns + 1, simInFlight := e.simInFlight + 1 }).length = s.objects.length :=
    List.length_modify ..
  refine ⟨hS.linked.fewer hlength.symm fun _ _ hget => hget, fun r hr => ?_, fun r hr i hget => ?_,
    fun i request' e' hget he' => ?_, fun request' => ?_⟩
  · rw [Sys.modify, hlength]
    obtain hold | hnew := List.mem_append.mp hr
    · exact hS.known r hold
    · obtain rfl := List.mem_singleton.mp hnew
      exact hS.linked.held threadId request hheld
  · obtain hold | hnew := List.mem_append.mp hr
    · exact hS.owner r hold i hget
    · obtain rfl := List.mem_singleton.mp hnew
      exact hS.linked.alone threadId i request hheld hget
  · rw [Sys.modify, List.getElem?_modify] at he'
    obtain ⟨e₀, he₀, rfl⟩ := Option.map_eq_some_iff.mp he'
    refine Eq.trans ?_ (running_append s threadId request request').symm
    rw [← hS.exact i request' e₀ hget he₀]
    split_ifs <;> rfl
  · refine (running_append s threadId request request').trans_le ?_
    split_ifs with hi
    · subst hi
      exact hflight ▸ hroom
    · exact hS.bounded request'

/-- A run that ends leaves its request the others. -/
theorem running_end_le (hrun : s.runs[run]? = some ⟨threadId, request, false⟩) (i : ℕ) :
    ({ s with runs := s.runs.set run ⟨threadId, request, true⟩ } : Sys).running i ≤ s.running i :=
  Nat.le.intro (running_end hrun i)

theorem mem_set_run (hrun : s.runs[run]? = some ⟨threadId, request, false⟩) {r : Run}
    (hr : r ∈ s.runs.set run ⟨threadId, request, true⟩) :
    ∃ r₀ ∈ s.runs, r₀.threadId = r.threadId ∧ r₀.request = r.request := by
  obtain hold | rfl := List.mem_or_eq_of_mem_set hr
  · exact ⟨r, hold, rfl, rfl⟩
  · exact ⟨_, List.mem_of_getElem? hrun, rfl, rfl⟩

/-- **A run ends.**  What it does to the entry that its thread holds, if there is one, is in `f`. -/
theorem Sequential.simEnded (hS : Sequential limits s h) (hrun : s.runs[run]? = some ⟨threadId, request, false⟩)
    {objects : List Entry} (hlength : s.objects.length = objects.length)
    (hexact : ∀ i (request' : ℕ) e, s.entries.get? i = some request' → objects[request']? = some e →
      e.simInFlight + (if request = request' then 1 else 0) = s.running request') :
    Sequential limits { s with objects, runs := s.runs.set run ⟨threadId, request, true⟩ } (h ++ o) := by
  refine ⟨hS.linked.fewer hlength fun _ _ hget => hget, fun r hr => ?_, fun r hr i hget => ?_,
    fun i request' e hget he => ?_, fun request' => (running_end_le hrun request').trans (hS.bounded request')⟩
  · obtain ⟨r₀, hr₀, -, hrequest⟩ := mem_set_run hrun hr
    exact hlength ▸ hrequest ▸ hS.known r₀ hr₀
  · obtain ⟨r₀, hr₀, hthread, hrequest⟩ := mem_set_run hrun hr
    exact hthread ▸ hS.owner r₀ hr₀ i (hrequest ▸ hget)
  · exact Nat.add_right_cancel ((hexact i request' e hget he).trans (running_end hrun request').symm)

theorem Sequential.step (hS : Sequential limits s h) (hC : OwnEnds s h a)
    (hs : (registry limits).step s a = some (s', o)) : Sequential limits s' (h ++ o) := by
  cases step_effect hs with
  | began => exact hS.began hs rfl
  | dropped hentries => exact hS.dropped hentries
  | edited _ hflight => exact hS.edited hflight
  | called => exact hS.edited (f := (·.spend _)) fun _ => rfl
  | charged => exact hS.edited (f := (·.charge _)) fun _ => rfl
  | simBegun hheld he hroom => exact hS.simBegun hheld he hroom
  | @simEnded run threadId request ha hrun hnone =>
    refine hS.simEnded hrun rfl fun i request' e hget he => ?_
    rw [if_neg, hS.exact i request' e hget he, Nat.add_zero]
    rintro rfl
    have hthread := hS.owner _ (List.mem_of_getElem? hrun) i hget
    rw [← hthread, hnone] at hget
    cases hget
  | @simEndedOn run threadId request held ha hrun hheld =>
    subst ha
    refine hS.simEnded hrun (List.length_modify ..).symm fun i request' e hget he => ?_
    rw [Sys.modify, List.getElem?_modify] at he
    obtain ⟨e₀, he₀, rfl⟩ := Option.map_eq_some_iff.mp he
    have hexact := hS.exact i request' e₀ hget he₀
    by_cases hsame : held = request'
    · subst hsame
      rw [if_pos rfl]
      by_cases hown : request = held
      · -- its own request: both counts go down
        subst hown
        have hend := running_end hrun request
        rw [if_pos rfl] at hend ⊢
        rw [hexact]
        exact Nat.sub_add_cancel (Nat.le.intro (Nat.add_comm .. |>.trans hend))
      · -- a later one, which has no run in flight
        have hzero : s.running held = 0 :=
          hC _ (Option.mem_def.mpr hrun) held (Option.mem_def.mpr hheld) fun heq => hown heq.symm
        rw [if_neg hown, Nat.add_zero, hexact, hzero]
    · rw [if_neg hsame, if_neg, Nat.add_zero]
      · exact hexact
      · rintro rfl
        have hthread := hS.owner _ (List.mem_of_getElem? hrun) i hget
        obtain rfl : threadId = i := hthread
        rw [hheld] at hget
        exact hsame (Option.some.inj hget)

theorem sequential_init (limits : Limits) : Sequential limits .init [] where
  linked := linked_init
  known r hr := absurd hr List.not_mem_nil
  owner r hr := absurd hr List.not_mem_nil
  exact i request e hget := by cases hget
  bounded request := Nat.zero_le _

/-- **Runs in flight**, in every run in which no run of an earlier request ends beside one of a later. -/
theorem sim_runs_bounded {as : List Act} (hC : (registry limits).Meets OwnEnds .init [] as) :
    (registry limits).Along (fun s _ => ∀ request, s.running request ≤ limits.simInFlightPerRequest) .init [] as :=
  along_of_meets (fun hS hC hs => hS.step hC hs) (fun hS => hS.bounded) (sequential_init limits) hC

/-- A request's runs one after the other, and the next request's while a run of the first is still in flight. -/
def ordinaryRuns : List Act :=
  [.begin "u:1" "r1" 0, .claimSimCall "u:1", .beginSimRun "u:1" 1, .endSimRun 0, .beginSimRun "u:1" 2, .close "u:1",
    .begin "u:1" "r2" 3, .endSimRun 1, .beginSimRun "u:1" 4, .endSimRun 2]

theorem sim_runs_bounded_ordinaryRuns : (registry DEFAULT_LIMITS).Along
    (fun s _ => ∀ request, s.running request ≤ DEFAULT_LIMITS.simInFlightPerRequest) .init [] ordinaryRuns :=
  sim_runs_bounded (by decide +kernel)

/-- A request fails while its run is in flight; the next one has a run in flight when that ends; and the branch of the
first goes on to its next run. -/
def straggler : List Act :=
  [.begin "u:1" "r1" 0, .claimSimCall "u:1", .beginSimRun "u:1" 1, .close "u:1", .begin "u:1" "r2" 2,
    .claimSimCall "u:1", .beginSimRun "u:1" 3, .endSimRun 0, .beginSimRun "u:1" 4]

theorem straggler_isSome : ((registry DEFAULT_LIMITS).exec .init straggler).isSome = true := by decide +kernel

/-- Two runs of one request are in flight, where one may be. -/
theorem straggler_admits_two : ∃ s h, (registry DEFAULT_LIMITS).Reaches .init s h ∧
    DEFAULT_LIMITS.simInFlightPerRequest = 1 ∧ s.running 1 = 2 := by
  let r := ((registry DEFAULT_LIMITS).exec .init straggler).get straggler_isSome
  exact ⟨r.1, r.2, ⟨straggler, (Option.some_get straggler_isSome).symm⟩, rfl, by decide +kernel⟩

end DTwin.Copilot.Requests
