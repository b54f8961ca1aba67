import Mathlib.Data.List.Basic
import Mathlib.Tactic.Common

/-!
# DTwin.Lib.Machine — deterministic machines with observations

A `Machine` takes labelled steps; a step may be refused (`none`), and one that is taken yields the
next state and the list of observations it makes.  All nondeterminism (who moves, what the
environment answers, what the clock says) is in the labels, so a run is a list of labels and can be
evaluated.  The rules:

* `exec_hist`: a property of state and history kept by every step is kept by every run;
* `exec_hist_of_meets`: the same when every step of the run meets a side condition;
* `along_of_meets`, `along_iff_meets`: the same for every state of the run; and if a step keeps a property
  exactly when it meets a condition, the property holds in every state of a run exactly when all its steps
  meet the condition;
* `exec_perm`: steps that commute may be taken in any order;
* `each_append`: what is said of each observation and of those before it, piece by piece;
* `hist_of_refines`: what the small steps of a machine keep, a machine whose steps are runs of small ones
  keeps.

Nothing here knows about any particular system.
-/

namespace DTwin

/-- A machine with states `σ`, labels `α` and observations `β`. -/
structure Machine (σ α β : Type*) where
  step : σ → α → Option (σ × List β)

namespace Machine

variable {σ α β : Type*} (M : Machine σ α β)

/-- The run of a list of labels: the final state and everything observed, in order. -/
def exec : σ → List α → Option (σ × List β)
  | s, [] => some (s, [])
  | s, a :: as =>
    match M.step s a with
    | none => none
    | some (s', o) => (exec s' as).map fun r => (r.1, o ++ r.2)

/-- Every step of the run from `s` (after history `h`) is taken in a state meeting `C`. -/
def Meets (C : σ → List β → α → Prop) : σ → List β → List α → Prop
  | _, _, [] => True
  | s, h, a :: as => C s h a ∧ ∀ s' o, M.step s a = some (s', o) → Meets C s' (h ++ o) as

/-- `P` holds in every state of the run from `s` (after history `h`). -/
def Along (P : σ → List β → Prop) : σ → List β → List α → Prop
  | s, h, [] => P s h
  | s, h, a :: as => P s h ∧ ∀ s' o, M.step s a = some (s', o) → Along P s' (h ++ o) as

/-- `s` is reached from `s₀` with observations `h`. -/
def Reaches (s₀ s : σ) (h : List β) : Prop := ∃ as, M.exec s₀ as = some (s, h)

variable {M}

@[simp] theorem exec_nil (s : σ) : M.exec s [] = some (s, []) := rfl

theorem exec_cons_iff {s r : σ} {a : α} {as : List α} {o : List β} :
    M.exec s (a :: as) = some (r, o) ↔
      ∃ s' o₁ o₂, M.step s a = some (s', o₁) ∧ M.exec s' as = some (r, o₂) ∧ o = o₁ ++ o₂ := by
  constructor
  · intro h
    simp only [exec] at h
    cases hs : M.step s a with
    | none => simp [hs] at h
    | some p =>
      obtain ⟨s', o₁⟩ := p
      simp only [hs, Option.map_eq_some_iff, Prod.exists, Prod.mk.injEq] at h
      obtain ⟨r', o₂, he, rfl, rfl⟩ := h
      exact ⟨s', o₁, o₂, rfl, he, rfl⟩
  · rintro ⟨s', o₁, o₂, hs, he, rfl⟩
    simp [exec, hs, he]

theorem exec_singleton (s : σ) (a : α) : M.exec s [a] = M.step s a := by
  cases hs : M.step s a <;> simp [exec, hs]

theorem exec_append_iff {s r : σ} {as bs : List α} {o : List β} :
    M.exec s (as ++ bs) = some (r, o) ↔
      ∃ s' o₁ o₂, M.exec s as = some (s', o₁) ∧ M.exec s' bs = some (r, o₂) ∧ o = o₁ ++ o₂ := by
  induction as generalizing s o with
  | nil => simp
  | cons a as ih =>
    simp only [List.cons_append, exec_cons_iff, ih]
    constructor
    · rintro ⟨s', o₁, _, hs, ⟨s'', o₂, o₃, h₁, h₂, rfl⟩, rfl⟩
      exact ⟨s'', o₁ ++ o₂, o₃, ⟨s', o₁, o₂, hs, h₁, rfl⟩, h₂, by simp⟩
    · rintro ⟨s'', _, o₃, ⟨s', o₁, o₂, hs, h₁, rfl⟩, h₂, rfl⟩
      exact ⟨s', o₁, o₂ ++ o₃, hs, ⟨s'', o₂, o₃, h₁, h₂, rfl⟩, by simp⟩

theorem Reaches.refl (s : σ) : M.Reaches s s [] := ⟨[], rfl⟩

theorem Reaches.trans {s₀ s r : σ} {h o : List β} (h₁ : M.Reaches s₀ s h)
    (h₂ : M.Reaches s r o) : M.Reaches s₀ r (h ++ o) := by
  obtain ⟨as, ha⟩ := h₁
  obtain ⟨bs, hb⟩ := h₂
  exact ⟨as ++ bs, exec_append_iff.mpr ⟨s, h, o, ha, hb, rfl⟩⟩

theorem Reaches.step {s₀ s r : σ} {a : α} {h o : List β} (h₁ : M.Reaches s₀ s h)
    (h₂ : M.step s a = some (r, o)) : M.Reaches s₀ r (h ++ o) :=
  h₁.trans ⟨[a], exec_cons_iff.mpr ⟨r, o, [], h₂, rfl, by simp⟩⟩

/-- **Conditional run rule.**  If every step that meets `C` keeps `I` (over state and history),
a run all of whose steps meet `C` keeps it. -/
theorem exec_hist_of_meets {I : σ → List β → Prop} {C : σ → List β → α → Prop}
    (hstep : ∀ {s h a s' o}, I s h → C s h a → M.step s a = some (s', o) → I s' (h ++ o)) :
    ∀ {as s s' h o}, I s h → M.Meets C s h as → M.exec s as = some (s', o) → I s' (h ++ o)
  | [], _, _, _, _, hI, _, he => by
    simp only [exec_nil, Option.some.injEq, Prod.mk.injEq] at he
    obtain ⟨rfl, rfl⟩ := he
    simpa using hI
  | _ :: _, _, _, _, _, hI, hC, he => by
    obtain ⟨s₁, o₁, o₂, hs, he', rfl⟩ := exec_cons_iff.mp he
    rw [← List.append_assoc]
    exact exec_hist_of_meets hstep (hstep hI hC.1 hs) (hC.2 s₁ o₁ hs) he'

theorem meets_of_forall {C : σ → List β → α → Prop} : ∀ {as : List α} {s : σ} {h : List β},
    (∀ a ∈ as, ∀ s h, C s h a) → M.Meets C s h as
  | [], _, _, _ => trivial
  | a :: _, s, h, hC => ⟨hC a List.mem_cons_self s h, fun _ _ _ =>
      meets_of_forall fun b hb => hC b (List.mem_cons_of_mem a hb)⟩

theorem Meets.append {C : σ → List β → α → Prop} : ∀ {as bs : List α} {s : σ} {h : List β},
    M.Meets C s h as → (∀ s' o, M.exec s as = some (s', o) → M.Meets C s' (h ++ o) bs) →
    M.Meets C s h (as ++ bs)
  | [], _, s, h, _, hbs => by simpa using hbs s []
  | a :: as, bs, s, h, has, hbs => by
    refine ⟨has.1, fun s₁ o₁ hs => (has.2 s₁ o₁ hs).append fun s' o he => ?_⟩
    have := hbs s' (o₁ ++ o) (exec_cons_iff.mpr ⟨s₁, o₁, o, hs, he, rfl⟩)
    rwa [← List.append_assoc] at this

/-- Whether a run meets a condition can be decided by running it. -/
instance decidableMeets {C : σ → List β → α → Prop} [∀ s h a, Decidable (C s h a)] :
    ∀ (s : σ) (h : List β) (as : List α), Decidable (M.Meets C s h as)
  | _, _, [] => isTrue trivial
  | s, h, a :: as =>
    match hs : M.step s a with
    | none => decidable_of_iff (C s h a) (by simp [Meets, hs])
    | some (s', o) =>
      have := decidableMeets (C := C) s' (h ++ o) as
      decidable_of_iff (C s h a ∧ M.Meets C s' (h ++ o) as) (by simp [Meets, hs])

/-- **Run rule** over state and history. -/
theorem exec_hist {I : σ → List β → Prop}
    (hstep : ∀ {s h a s' o}, I s h → M.step s a = some (s', o) → I s' (h ++ o))
    {as : List α} {s s' : σ} {h o : List β} (hI : I s h) (he : M.exec s as = some (s', o)) :
    I s' (h ++ o) :=
  exec_hist_of_meets (C := fun _ _ _ => True) (fun hI _ hs => hstep hI hs) hI
    (meets_of_forall fun _ _ _ _ => trivial) he

/-- **Run rule** for a property of states. -/
theorem exec_inv {I : σ → Prop} (hstep : ∀ {s a s' o}, I s → M.step s a = some (s', o) → I s')
    {as : List α} {s s' : σ} {o : List β} (hI : I s) (he : M.exec s as = some (s', o)) : I s' :=
  exec_hist (I := fun s _ => I s) (h := []) (fun hI hs => hstep hI hs) hI he

/-- A property kept by every step holds in every reachable state. -/
theorem Reaches.inv {I : σ → Prop} (hstep : ∀ {s a s' o}, I s → M.step s a = some (s', o) → I s')
    {s₀ s : σ} {h : List β} (h₀ : I s₀) (hr : M.Reaches s₀ s h) : I s := by
  obtain ⟨as, ha⟩ := hr
  exact exec_inv hstep h₀ ha

/-- A property of state and history kept by every step holds in every reachable state. -/
theorem Reaches.hist {I : σ → List β → Prop}
    (hstep : ∀ {s h a s' o}, I s h → M.step s a = some (s', o) → I s' (h ++ o))
    {s₀ s : σ} {h : List β} (h₀ : I s₀ []) (hr : M.Reaches s₀ s h) : I s h := by
  obtain ⟨as, ha⟩ := hr
  simpa using exec_hist hstep h₀ ha

theorem Along.head {P : σ → List β → Prop} {s : σ} {h : List β} {as : List α}
    (hP : M.Along P s h as) : P s h := by
  cases as with
  | nil => exact hP
  | cons a as => exact hP.1

/-- What holds along a run holds at its end. -/
theorem Along.at_end {P : σ → List β → Prop} : ∀ {as : List α} {s s' : σ} {h o : List β}, M.Along P s h as →
    M.exec s as = some (s', o) → P s' (h ++ o)
  | [], _, _, _, _, hP, he => by
    simp only [exec_nil, Option.some.injEq, Prod.mk.injEq] at he
    obtain ⟨rfl, rfl⟩ := he
    simpa using hP.head
  | _ :: _, _, _, _, _, hP, he => by
    obtain ⟨s₁, o₁, o₂, hs, he', rfl⟩ := exec_cons_iff.mp he
    rw [← List.append_assoc]
    exact (hP.2 s₁ o₁ hs).at_end he'

/-- **Sufficiency rule.**  If every step that meets `C` keeps `I`, and `I` gives `P`, then `P` holds all
along a run whose steps meet `C`. -/
theorem along_of_meets {I P : σ → List β → Prop} {C : σ → List β → α → Prop}
    (hstep : ∀ {s h a s' o}, I s h → C s h a → M.step s a = some (s', o) → I s' (h ++ o))
    (hP : ∀ {s h}, I s h → P s h) : ∀ {as s h}, I s h → M.Meets C s h as → M.Along P s h as
  | [], _, _, hI, _ => hP hI
  | _ :: _, _, _, hI, hC =>
    ⟨hP hI, fun s' o hs => along_of_meets hstep hP (hstep hI hC.1 hs) (hC.2 s' o hs)⟩

/-- **Exactness rule.**  Under an invariant `I`, if a step from a state with `P` leads to a state
with `P` exactly when it meets `C`, then `P` holds all along a run exactly when every step of the
run meets `C`. -/
theorem along_iff_meets {I P : σ → List β → Prop} {C : σ → List β → α → Prop}
    (hI : ∀ {s h a s' o}, I s h → M.step s a = some (s', o) → I s' (h ++ o))
    (hstep : ∀ {s h a s' o}, I s h → P s h → M.step s a = some (s', o) →
      (P s' (h ++ o) ↔ C s h a))
    (hnone : ∀ {s h a}, I s h → M.step s a = none → C s h a) :
    ∀ {as s h}, I s h → P s h → (M.Along P s h as ↔ M.Meets C s h as)
  | [], s, h, _, hP => by simpa [Along, Meets] using hP
  | a :: as, s, h, hI₀, hP => by
    cases hs : M.step s a with
    | none => simp [Along, Meets, hP, hs, hnone hI₀ hs]
    | some p =>
      obtain ⟨s', o⟩ := p
      have hiff := hstep hI₀ hP hs
      simp only [Along, Meets, hP, hs, true_and, Option.some.injEq, Prod.mk.injEq, and_imp]
      constructor
      · intro hA
        have hA' := hA s' o rfl rfl
        have hP' := hA'.head
        refine ⟨hiff.mp hP', ?_⟩
        rintro _ _ rfl rfl
        exact (along_iff_meets (C := C) hI hstep hnone (hI hI₀ hs) hP').mp hA'
      · rintro ⟨hC, hM⟩ _ _ rfl rfl
        exact (along_iff_meets (C := C) hI hstep hnone (hI hI₀ hs) (hiff.mpr hC)).mpr (hM s' o rfl rfl)

/-- **Order rule.**  Steps any two of which commute may be taken in any order. -/
theorem exec_perm {C : α → Prop} (hcomm : ∀ {s a b}, C a → C b → M.exec s [a, b] = M.exec s [b, a]) {as bs : List α}
    (h : as.Perm bs) : (∀ a ∈ as, C a) → ∀ s, M.exec s as = M.exec s bs := by
  induction h with
  | nil => exact fun _ _ => rfl
  | cons a _ ih =>
    intro hC s
    have hrest := ih fun b hb => hC b (List.mem_cons_of_mem a hb)
    simp only [exec, hrest]
  | swap a b l =>
    intro hC s
    have hb : C b := hC b List.mem_cons_self
    have ha : C a := hC a (List.mem_cons_of_mem b List.mem_cons_self)
    refine Option.ext fun r => ?_
    show M.exec s ([b, a] ++ l) = some r ↔ M.exec s ([a, b] ++ l) = some r
    obtain ⟨s', o⟩ := r
    rw [exec_append_iff, exec_append_iff, hcomm hb ha]
  | trans h₁ _ ih₁ ih₂ =>
    intro hC s
    exact (ih₁ hC s).trans (ih₂ (fun a ha => hC a (h₁.mem_iff.mpr ha)) s)

/-! ### Observations in order -/

/-- `G` holds of what was observed before it, for each observation. -/
def Each (G : List β → β → Prop) (h : List β) : Prop := ∀ h₁ x h₂, h = h₁ ++ x :: h₂ → G h₁ x

theorem each_nil (G : List β → β → Prop) : Each G [] := by
  intro h₁ x h₂ h
  simp at h

theorem each_singleton {G : List β → β → Prop} {x : β} : Each G [x] ↔ G [] x := by
  constructor
  · exact fun hG => hG [] x [] rfl
  · intro hG h₁ y h₂ h
    obtain ⟨rfl, rfl, -⟩ : h₁ = [] ∧ y = x ∧ h₂ = [] := by simpa [List.singleton_eq_append_iff] using h
    exact hG

theorem each_of_forall {G : List β → β → Prop} {h : List β} (hG : ∀ x ∈ h, ∀ h₁, G h₁ x) : Each G h := by
  rintro h₁ x h₂ rfl
  exact hG x (by simp) h₁

theorem each_append {G : List β → β → Prop} {h o : List β} :
    Each G (h ++ o) ↔ Each G h ∧ Each (fun h₁ x => G (h ++ h₁) x) o := by
  constructor
  · intro hG
    constructor
    · rintro h₁ x h₂ rfl
      exact hG h₁ x (h₂ ++ o) (by simp)
    · rintro h₁ x h₂ rfl
      exact hG (h ++ h₁) x h₂ (by simp)
  · rintro ⟨hh, ho⟩ h₁ x h₂ heq
    rcases List.append_eq_append_iff.mp heq with ⟨l, rfl, hl⟩ | ⟨l, hl, hrest⟩
    · exact ho l x h₂ hl
    · cases l with
      | nil =>
        rw [List.append_nil] at hl
        subst hl
        simpa using ho [] x h₂ hrest.symm
      | cons y l =>
        obtain ⟨rfl, -⟩ := List.cons.inj hrest
        exact hh h₁ x l hl

/-! ### Refinement -/

/-- **Refinement rule.**  If every step of `M` that meets `C` is a run of `N` whose steps meet `D`, then what
every step of `N` that meets `D` keeps, every step of `M` that meets `C` keeps. -/
theorem hist_of_refines {δ : Type*} {N : Machine σ δ β} {I : σ → List β → Prop}
    {C : σ → List β → α → Prop} {D : σ → List β → δ → Prop}
    (href : ∀ {s h a s' o}, C s h a → M.step s a = some (s', o) →
      ∃ ms, N.exec s ms = some (s', o) ∧ N.Meets D s h ms)
    (hN : ∀ {s h m s' o}, I s h → D s h m → N.step s m = some (s', o) → I s' (h ++ o))
    {s s' : σ} {h o : List β} {a : α} (hI : I s h) (hC : C s h a) (hs : M.step s a = some (s', o)) :
    I s' (h ++ o) := by
  obtain ⟨ms, hms, hD⟩ := href hC hs
  exact exec_hist_of_meets hN hI hD hms

end Machine

end DTwin
