import DTwin.Copilot.Verify

/-!
# DTwin.Copilot.Caveats — what an accepted answer warns of

An answer that the verifier accepts lists every caveat of every record it cites, the caveat of the model estimates
where anything it cites is simulated, and no caveat that nothing carries (`caveats_complete`).
-/

namespace DTwin.Copilot

open OrderedMap

variable {evidence : Evidence} {doc answer : AnswerDoc} {w : Wording} {context : Option VerifyContext}
  {bounds : AnswerBounds} {id : String} {record : EvidenceRecord} {caveat : CaveatId}

/-- Anything simulated is in the document: a figure on that basis, or a record it cites. -/
def ShowsSimulated (evidence : Evidence) (doc : AnswerDoc) : Prop :=
  (∃ p ∈ doc.paragraphs, ∃ seg, .num seg ∈ p.segments ∧ seg.basis = .simulated) ∨
    ∃ id record, doc.Cites id ∧ evidence.get? id = some record ∧ record.kind = .simulated

theorem Accepted.listed_of_cited (hA : Accepted evidence doc) (hcites : doc.Cites id)
    (hrecord : evidence.get? id = some record) (hcaveat : caveat ∈ record.caveats) : caveat ∈ doc.caveats :=
  hA.listed _ _ (mem_needs_of_cited (mem_citedIds hcites hrecord) ((mem_recordNeeds hrecord).mpr (Or.inl hcaveat)))

theorem Accepted.listed_of_simulated (hA : Accepted evidence doc) (hshows : ShowsSimulated evidence doc) :
    SIMULATED_FIGURE_CAVEAT ∈ doc.caveats := by
  obtain ⟨p, hp, seg, hs, hbasis⟩ | ⟨id, record, hcites, hrecord, hkind⟩ := hshows
  · have hfigure : Segment.isSimulated evidence (.num seg) = true := by
      simp [Segment.isSimulated, isSimulatedFigure, hbasis]
    have hsimulated : simulatedFigure evidence doc = true :=
      List.any_eq_true.mpr ⟨_, List.mem_flatMap.mpr ⟨p, hp, hs⟩, hfigure⟩
    obtain ⟨source, hneeds⟩ := simulated_needs hsimulated
    exact hA.listed _ _ hneeds
  · exact hA.listed _ _ (mem_needs_of_cited (mem_citedIds hcites hrecord)
      ((mem_recordNeeds hrecord).mpr (Or.inr ⟨hkind, rfl⟩)))

theorem kind_of_basis {kind : EvidenceKind} (h : kind.basis = .simulated) : kind = .simulated := by
  cases kind with
  | measured => cases h
  | simulated => rfl
  | configured => cases h

/-- A simulated figure of an accepted document cites a simulated record. -/
theorem Accepted.exists_simulated (hA : Accepted evidence doc) (hsimulated : simulatedFigure evidence doc = true) :
    ∃ id record, evidence.get? id = some record ∧ record.kind = .simulated := by
  obtain ⟨s, hs, hkind⟩ := List.any_eq_true.mp hsimulated
  obtain ⟨p, hp, hs⟩ := List.mem_flatMap.mp hs
  cases s with
  | text _ => cases hkind
  | cite _ => cases hkind
  | num seg =>
    obtain hbasis | hcited := Bool.or_eq_true_iff.mp hkind
    · cases hA.sound p hp _ hs with
      | ref hrefs hfound hunit hbasis' =>
        obtain ⟨record, steps, hrecord, -, -, -, hkind⟩ := hfound.found
        refine ⟨_, record, hrecord, ?_⟩
        rw [← hkind]
        exact kind_of_basis (hbasis'.symm.trans (of_decide_eq_true hbasis))
      | derive hrefs hfound hunmixed hderived hbasis' =>
        cases hbasis'.symm.trans (of_decide_eq_true hbasis)
    · obtain ⟨id, -, hany⟩ := List.any_eq_true.mp hcited
      cases hrecord : evidence.get? id with
      | none => simp [hrecord] at hany
      | some record => exact ⟨id, record, hrecord, by simpa [hrecord] using hany⟩

theorem Accepted.carried_of_listed (hA : Accepted evidence doc) (hlisted : caveat ∈ doc.caveats) :
    (∃ id record, evidence.get? id = some record ∧ caveat ∈ record.caveats) ∨ caveat = CHECK_MODE_CAVEAT ∨
      (caveat = SIMULATED_FIGURE_CAVEAT ∧ ∃ id record, evidence.get? id = some record ∧ record.kind = .simulated) := by
  have hsupported := hA.permitted caveat hlisted
  simp only [supported, Bool.or_eq_true, Bool.and_eq_true, List.any_eq_true, decide_eq_true_eq] at hsupported
  obtain (⟨record, hrecord, hcaveat⟩ | hcheck) | ⟨hcaveat, hsimulated | ⟨record, hrecord, hkind⟩⟩ := hsupported
  · obtain ⟨id, hget⟩ := mem_values.mp hrecord
    exact Or.inl ⟨id, record, hget, hcaveat⟩
  · exact Or.inr (Or.inl hcheck)
  · exact Or.inr (Or.inr ⟨hcaveat, hA.exists_simulated hsimulated⟩)
  · obtain ⟨id, hget⟩ := mem_values.mp hrecord
    exact Or.inr (Or.inr ⟨hcaveat, id, record, hget, hkind⟩)

/-- **Caveats are complete and honest.** -/
theorem caveats_complete (h : verifyAnswer w answer evidence context bounds = .ok []) :
    (∀ id, answer.Cites id → ∃ record, evidence.get? id = some record ∧
      ∀ caveat ∈ record.caveats, caveat ∈ answer.caveats) ∧
    (ShowsSimulated evidence answer → SIMULATED_FIGURE_CAVEAT ∈ answer.caveats) ∧
    ∀ caveat ∈ answer.caveats, (∃ id record, evidence.get? id = some record ∧ caveat ∈ record.caveats) ∨
      caveat = CHECK_MODE_CAVEAT ∨
      (caveat = SIMULATED_FIGURE_CAVEAT ∧ ∃ id record, evidence.get? id = some record ∧ record.kind = .simulated) := by
  have hA := accepted_of_verifyAnswer h
  refine ⟨fun id hcites => ?_, hA.listed_of_simulated, fun caveat hlisted => ?_⟩
  · obtain ⟨record, hrecord⟩ := hA.cited hcites
    exact ⟨record, hrecord, fun caveat => hA.listed_of_cited hcites hrecord⟩
  · exact hA.carried_of_listed hlisted

/-- How the real expressions read the prose of `officeAnswer`. -/
def officeWording : Wording where
  verifyText _ _ := []
  quantityAtStart s := if s = "2.3 K of it" then some "2.3 K" else none
  isNumber := Char.isDigit
  isLetter := Char.isAlpha
  isFormat _ := false
  isSpace := Char.isWhitespace
  issue _ := ""

def officeEvidence : Evidence :=
  ⟨[("T1.E1", ⟨.measured, [.PARTIAL_COVERAGE], .obj [("rows", .arr
      [.obj [("mean_c", .num (.finite 24.55))], .obj [("mean_c", .num (.finite 22.25))]])]⟩),
    ("T2.E1", ⟨.simulated, [.SIM_SUBSET], .obj [("cooling_kwh", .num (.finite 1834.6))]⟩)], by decide⟩

def officeEstimate : NumSegment :=
  ⟨.finite 1835, .finite 0, .kwh, .simulated, some ⟨"T2.E1", "cooling_kwh"⟩, none⟩

/-- A difference of two measured temperatures, and an estimate. -/
def officeAnswer : AnswerDoc :=
  ⟨[⟨[.text "The office warmed by ",
      .num ⟨.finite 2.3, .finite 1, .k, .derived, none,
        some ⟨.difference, [⟨"T1.E1", "rows[0].mean_c"⟩, ⟨"T1.E1", "rows[1].mean_c"⟩]⟩⟩, .text " of it"]⟩,
    ⟨[.num officeEstimate, .cite ["T1.E1"]]⟩],
    [.PARTIAL_COVERAGE, .SIM_SUBSET, .SIM_ANALYTICALLY_VERIFIED]⟩

theorem officeAnswer_accepted :
    verifyAnswer officeWording officeAnswer officeEvidence none DEFAULT_BOUNDS = .ok [] := by
  decide +kernel

theorem caveats_complete_officeAnswer : (∃ record, officeEvidence.get? "T2.E1" = some record ∧
      ∀ caveat ∈ record.caveats, caveat ∈ officeAnswer.caveats) ∧
    SIMULATED_FIGURE_CAVEAT ∈ officeAnswer.caveats := by
  have hp : ⟨[.num officeEstimate, .cite ["T1.E1"]]⟩ ∈ officeAnswer.paragraphs :=
    List.mem_cons_of_mem _ List.mem_cons_self
  have h := caveats_complete officeAnswer_accepted
  exact ⟨h.1 "T2.E1" ⟨_, hp, Or.inr ⟨officeEstimate, List.mem_cons_self, _, List.mem_cons_self, rfl⟩⟩,
    h.2.1 (Or.inl ⟨_, hp, officeEstimate, List.mem_cons_self, rfl⟩)⟩

end DTwin.Copilot
