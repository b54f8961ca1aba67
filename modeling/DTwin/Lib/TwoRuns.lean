import DTwin.Lib.Machine

/-!
# DTwin.Lib.TwoRuns — a run beside another

A run of a machine and the run that is left when each label is changed, or dropped, as `f` says.  An observer sees `v`
of the observations.  Where a relation between the states is kept by each step and the step that `f` leaves of it, and
is not hurt by a step that is dropped, the observer cannot tell the runs apart (`exec_filterMap`).
-/

namespace DTwin.Machine

variable {σ α β γ : Type*} {M : Machine σ α β} {R : σ → σ → Prop} {f : α → Option α} {v : β → Option γ}

/-- **Rule for two runs**, of labels in `P`. -/
theorem exec_filterMap {P : α → Prop}
    (hkept : ∀ {s t a b s' o}, P a → R s t → f a = some b → M.step s a = some (s', o) →
      ∃ t' o', M.step t b = some (t', o') ∧ R s' t' ∧ o'.filterMap v = o.filterMap v)
    (hdropped : ∀ {s t a s' o}, P a → R s t → f a = none → M.step s a = some (s', o) → R s' t ∧ o.filterMap v = []) :
    ∀ {as : List α} {s t s' : σ} {o : List β}, (∀ a ∈ as, P a) → R s t → M.exec s as = some (s', o) →
      ∃ t' o', M.exec t (as.filterMap f) = some (t', o') ∧ R s' t' ∧ o'.filterMap v = o.filterMap v
  | [], s, t, s', o, _, hR, he => by
    obtain ⟨rfl, rfl⟩ := Prod.mk.inj (Option.some.inj he)
    exact ⟨t, [], rfl, hR, rfl⟩
  | a :: as, s, t, s', o, hP, hR, he => by
    obtain ⟨s₁, o₁, o₂, hs, hrest, rfl⟩ := exec_cons_iff.mp he
    have ha : P a := hP a List.mem_cons_self
    have has : ∀ b ∈ as, P b := fun b hb => hP b (List.mem_cons_of_mem a hb)
    cases hf : f a with
    | none =>
      obtain ⟨hR₁, hview⟩ := hdropped ha hR hf hs
      obtain ⟨t', o', ht, hR', hview'⟩ := exec_filterMap hkept hdropped has hR₁ hrest
      refine ⟨t', o', by rwa [List.filterMap_cons_none hf], hR', ?_⟩
      rw [hview', List.filterMap_append, hview, List.nil_append]
    | some b =>
      obtain ⟨t₁, p₁, ht₁, hR₁, hview₁⟩ := hkept ha hR hf hs
      obtain ⟨t', o', ht, hR', hview'⟩ := exec_filterMap hkept hdropped has hR₁ hrest
      refine ⟨t', p₁ ++ o', ?_, hR', ?_⟩
      · rw [List.filterMap_cons_some hf]
        exact exec_cons_iff.mpr ⟨t₁, p₁, o', ht₁, ht, rfl⟩
      · rw [List.filterMap_append, List.filterMap_append, hview₁, hview']

/-- The same for labels that are changed and not dropped. -/
theorem exec_map {g : α → α}
    (hkept : ∀ {s t a s' o}, R s t → M.step s a = some (s', o) →
      ∃ t' o', M.step t (g a) = some (t', o') ∧ R s' t' ∧ o'.filterMap v = o.filterMap v)
    {as : List α} {s t s' : σ} {o : List β} (hR : R s t) (he : M.exec s as = some (s', o)) :
    ∃ t' o', M.exec t (as.map g) = some (t', o') ∧ R s' t' ∧ o'.filterMap v = o.filterMap v := by
  rw [← List.filterMap_eq_map (f := g)]
  refine exec_filterMap (P := fun _ => True) (fun _ hR hf hs => ?_) (fun _ _ hf => by cases hf)
    (fun _ _ => trivial) hR he
  obtain rfl := Option.some.inj hf
  exact hkept hR hs

end DTwin.Machine
