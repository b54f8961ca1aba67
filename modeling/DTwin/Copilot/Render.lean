import DTwin.Copilot.Caveats

/-!
# DTwin.Copilot.Render — a verified answer as the panel shows it

`renderAnswer` of `apps/web/lib/copilot/render.ts`.  What is shown of a figure is sound (`shown_figures_sound`): the
number that its text reads as is that of the evidence, at the places it shows, in the unit it shows.
-/

namespace DTwin.Copilot

open Result

inductive RenderedSegment
  | text (text : String)
  | num (text : String) (basis : Basis) (evidenceIds : List String) (simulated : Bool)
  | cite (evidenceIds : List String)
deriving DecidableEq

structure RenderedAnswer where
  paragraphs : List (List RenderedSegment)
  caveatLines : List String
deriving DecidableEq

def renderSegment (evidence : Evidence) : Segment → Except RangeError RenderedSegment
  | .text s => .ok (.text s)
  | .cite evidenceIds => .ok (.cite evidenceIds)
  | .num seg => (formatQuantity seg.value seg.decimals seg.unit).map fun text =>
    .num text seg.basis (segmentEvidenceIds (.num seg)) (isSimulatedFigure seg evidence)

/-- Render an answer, if it verifies. -/
def renderAnswer (w : Wording) (answer : Option AnswerDoc) (evidence : Evidence) (context : Option VerifyContext) :
    Except RangeError (Option RenderedAnswer) :=
  match answer with
  | none => .ok none
  | some answer => do
    let faults ← verifyAnswer w answer evidence context DEFAULT_BOUNDS
    if faults = [] then
      let paragraphs ← answer.paragraphs.mapM fun p => p.segments.mapM (renderSegment evidence)
      .ok (some ⟨paragraphs, caveatLines answer.caveats⟩)
    else .ok none

/-- What is shown of a figure is sound: its text, its basis, what it cites, and whether it is a model estimate. -/
inductive FigureSound (evidence : Evidence) (text : String) : Basis → List String → Bool → Prop
  /-- It is the value at a path, in the unit of the key there and on the basis of its record. -/
  | ref {ref : Ref} {c : Cited} {x : ℚ} {d : ℕ} (hfound : Found evidence ref c) (hshows : Shows text x d c.unit)
      (hclose : |x - c.value| ≤ tolerance d c.value) :
      FigureSound evidence text c.kind.basis [ref.evidenceId] (c.kind = .simulated)
  /-- It is the value of a derivation over the values at its paths, in the unit that has. -/
  | derive {op : DeriveOp} {refs : List Ref} {cited : List Cited} {value x : ℚ} {d : ℕ} {unit : UnitId}
      (hfound : List.Forall₂ (Found evidence) refs cited) (hunmixed : Unmixed cited)
      (hderived : Derivation op cited value unit) (hshows : Shows text x d unit)
      (hclose : |x - value| ≤ tolerance d value) :
      FigureSound evidence text .derived (refs.map Ref.evidenceId).eraseDups (cited.any (·.kind = .simulated))

/-- Every reference is to the request's evidence, and every figure is sound. -/
def ShownSound (evidence : Evidence) : RenderedSegment → Prop
  | .text _ => True
  | .cite evidenceIds => ∀ id ∈ evidenceIds, ∃ record, evidence.get? id = some record
  | .num text basis evidenceIds simulated => FigureSound evidence text basis evidenceIds simulated

variable {w : Wording} {evidence : Evidence} {context : Option VerifyContext} {answer : Option AnswerDoc}
  {rendered : RenderedAnswer} {seg : NumSegment} {text : String}

theorem Found.isSimulated {ref : Ref} {c : Cited} (hfound : Found evidence ref c) :
    (evidence.get? ref.evidenceId).any (·.kind = .simulated) = decide (c.kind = .simulated) := by
  obtain ⟨record, steps, hrecord, -, -, -, hkind⟩ := hfound.found
  rw [hrecord, Option.any_some, hkind]

theorem any_isSimulated {refs : List Ref} {cited : List Cited} (hfound : List.Forall₂ (Found evidence) refs cited) :
    refs.any (fun r => (evidence.get? r.evidenceId).any (·.kind = .simulated)) =
      cited.any (·.kind = .simulated) := by
  induction hfound with
  | nil => rfl
  | cons hc _ ih => rw [List.any_cons, List.any_cons, hc.isSimulated, ih]

/-- A figure is a model estimate if it says so or cites a simulated record. -/
theorem isSimulatedFigure_eq : isSimulatedFigure seg evidence = (decide (seg.basis = .simulated) ||
    seg.refs.any fun r => (evidence.get? r.evidenceId).any (·.kind = .simulated)) := by
  rw [isSimulatedFigure, Bool.eq_iff_iff, Bool.or_eq_true, Bool.or_eq_true, List.any_eq_true, List.any_eq_true]
  simp only [segmentEvidenceIds, List.mem_eraseDups, List.mem_map, exists_exists_and_eq_and]

theorem decide_basis (kind : EvidenceKind) : decide (kind.basis = .simulated) = decide (kind = .simulated) := by
  cases kind <;> rfl

/-- **A figure that is backed is shown soundly.** -/
theorem Backed.figureSound (hbacked : Backed evidence seg)
    (htext : formatQuantity seg.value seg.decimals seg.unit = .ok text) :
    FigureSound evidence text seg.basis (segmentEvidenceIds (.num seg)) (isSimulatedFigure seg evidence) := by
  obtain ⟨x, d, hx, hd, hshows⟩ := formatQuantity_shows htext
  have hsame : ∀ {actual : ℚ}, Agrees seg actual → |x - actual| ≤ tolerance d actual := by
    rintro actual ⟨x', d', hx', hd', hclose⟩
    cases hx.symm.trans hx'
    cases hd.symm.trans hd'
    exact hclose
  cases hbacked with
  | @ref ref c hrefs hfound hunit hbasis hagrees =>
    have hids : segmentEvidenceIds (.num seg) = [ref.evidenceId] := by
      simp [segmentEvidenceIds, hrefs, List.eraseDups_cons]
    have hsimulated : isSimulatedFigure seg evidence = decide (c.kind = .simulated) := by
      rw [isSimulatedFigure_eq, hrefs, hbasis, decide_basis, List.any_cons, List.any_nil, hfound.isSimulated,
        Bool.or_false, Bool.or_self]
    rw [hids, hsimulated, hbasis]
    exact .ref hfound (hunit ▸ hshows) (hsame hagrees)
  | @derive op refs cited value hrefs hfound hunmixed hderived hbasis hagrees =>
    have hsimulated : isSimulatedFigure seg evidence = cited.any (·.kind = .simulated) := by
      rw [isSimulatedFigure_eq, hrefs, hbasis, any_isSimulated hfound]
      rfl
    rw [segmentEvidenceIds, hrefs, hsimulated, hbasis]
    exact .derive hfound hunmixed hderived hshows (hsame hagrees)

theorem Sound.shown {s : Segment} {shown : RenderedSegment} (hsound : Sound evidence s)
    (hshown : renderSegment evidence s = .ok shown) : ShownSound evidence shown := by
  cases s with
  | text _ =>
    cases hshown
    trivial
  | cite evidenceIds =>
    cases hshown
    exact fun id hid => Option.isSome_iff_exists.mp (hsound id hid)
  | num seg =>
    obtain ⟨text, htext, rfl⟩ := map_eq_ok.mp hshown
    exact Backed.figureSound hsound htext

/-- **Verified answers are sound.** -/
theorem shown_figures_sound (h : renderAnswer w answer evidence context = .ok (some rendered)) :
    ∀ paragraph ∈ rendered.paragraphs, ∀ shown ∈ paragraph, ShownSound evidence shown := by
  cases answer with
  | none => cases h
  | some answer =>
    simp only [renderAnswer, bind_eq_ok] at h
    obtain ⟨faults, hfaults, h⟩ := h
    split_ifs at h with hverified
    · obtain ⟨paragraphs, hparagraphs, h⟩ := bind_eq_ok.mp h
      cases h
      subst hverified
      have hA := accepted_of_verifyAnswer hfaults
      intro paragraph hparagraph shown hshown
      obtain ⟨p, hp, hsegments⟩ := exists_of_mem_right (mapM_eq_ok.mp hparagraphs) hparagraph
      obtain ⟨s, hs, hrender⟩ := exists_of_mem_right (mapM_eq_ok.mp hsegments) hshown
      exact Sound.shown (hA.sound p hp s hs) hrender
    · cases h

/-- The units and the kinds of what the difference of `officeAnswer` cites. -/
def officeDifference : List (Option (UnitId × EvidenceKind)) :=
  ["rows[0].mean_c", "rows[1].mean_c"].map fun path =>
    (resolveRef ⟨"T1.E1", path⟩ officeEvidence).toOption.map fun c => (c.unit, c.kind)

def officeRendered : RenderedAnswer :=
  ⟨[[.text "The office warmed by ", .num "2.3 K" .derived ["T1.E1"] false, .text " of it"],
    [.num "1,835 kWh" .simulated ["T2.E1"] true, .cite ["T1.E1"]]],
    [CAVEAT_TEXT .SIM_ANALYTICALLY_VERIFIED, CAVEAT_TEXT .SIM_SUBSET, CAVEAT_TEXT .PARTIAL_COVERAGE]⟩

theorem officeAnswer_rendered :
    renderAnswer officeWording (some officeAnswer) officeEvidence none = .ok (some officeRendered) := by
  decide +kernel

theorem shown_figures_sound_officeAnswer :
    FigureSound officeEvidence "1,835 kWh" .simulated ["T2.E1"] true :=
  shown_figures_sound officeAnswer_rendered _ (List.mem_cons_of_mem _ List.mem_cons_self) _ List.mem_cons_self

/-- A derived figure is neither in the unit of the keys it cites nor on the basis of its evidence: a difference of two
measured temperatures in °C is shown in K, as derived. -/
theorem derived_figure_unit :
    renderAnswer officeWording (some officeAnswer) officeEvidence none = .ok (some officeRendered) ∧
      .num "2.3 K" .derived ["T1.E1"] false ∈ officeRendered.paragraphs.flatten ∧
      officeDifference = [some (.c, .measured), some (.c, .measured)] :=
  ⟨officeAnswer_rendered, by decide +kernel⟩

end DTwin.Copilot
