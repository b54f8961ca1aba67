import DTwin.Lib.Machine
import DTwin.Web.Live
import Mathlib.Data.List.Count

/-!
# DTwin.Web.Socket — the connection behind the dashboard

The effect of `useLiveData` in `apps/web/lib/ws.ts`, as far as it touches `connected` and `listeningSince`.  A change of
the topics ends the effect that runs and begins the next; every socket that was created keeps its handlers, and its
events arrive when the browser delivers them.  An error is a close event: its handler closes a socket that is closed.

`known_iff` says in which runs `connected` and `listeningSince` tell whether the socket of the current effect is
authenticated and open.
-/

namespace DTwin.Web.Socket

open Machine

structure WebSocket where
  /-- The effect that created it. -/
  effect : ℕ
  opened : Bool
  /-- The server has accepted its ticket, and the message has arrived. -/
  authenticated : Bool
  /-- `close` was called on it. -/
  closing : Bool
  /-- Its close event has arrived. -/
  closed : Bool
deriving DecidableEq

namespace WebSocket

def new (effect : ℕ) : WebSocket := ⟨effect, false, false, false, false⟩

def setOpened (w : WebSocket) : WebSocket := { w with opened := true }

def setAuthenticated (w : WebSocket) : WebSocket := { w with authenticated := true }

def setClosing (w : WebSocket) : WebSocket := { w with closing := true }

def setClosed (w : WebSocket) : WebSocket := { w with closed := true }

/-- The socket of the effect, authenticated and open. -/
def live (effect : ℕ) (w : WebSocket) : Bool :=
  w.effect == effect && w.opened && w.authenticated && !w.closing && !w.closed

end WebSocket

structure Sys where
  /-- The effect that is not closed. -/
  effect : ℕ
  /-- The effects that wait for a ticket. -/
  fetching : List ℕ
  /-- The timer of the effect. -/
  retry : Bool
  sockets : List WebSocket
  socketRef : Option ℕ
  connected : Bool
  listeningSince : Option ℤ

inductive Act
  /-- The topics change. -/
  | change
  /-- A ticket arrives, or the request for it fails. -/
  | ticket (effect : ℕ) (ok : Bool)
  | timer
  | opened (i : ℕ)
  | authenticated (i : ℕ) (now : ℤ)
  | closed (i : ℕ)

/-- The first effect asks for its ticket. -/
def Sys.init : Sys := ⟨0, [0], false, [], none, false, none⟩

/-- `socketRef.current?.close()`. -/
def Sys.closeRef (s : Sys) : List WebSocket :=
  match s.socketRef with
  | none => s.sockets
  | some i => s.sockets.modify i .setClosing

def step (s : Sys) : Act → Option Sys
  | .change =>
    some { s with
      effect := s.effect + 1, fetching := s.fetching ++ [s.effect + 1], retry := false, sockets := s.closeRef }
  | .ticket effect ok =>
    if effect ∈ s.fetching then
      let fetching := s.fetching.erase effect
      if effect ≠ s.effect then some { s with fetching }
      else if ok then
        some { s with fetching, sockets := s.sockets ++ [.new effect], socketRef := some s.sockets.length }
      else some { s with fetching, retry := true }
    else none
  | .timer => if s.retry then some { s with retry := false, fetching := s.fetching ++ [s.effect] } else none
  | .opened i =>
    match s.sockets[i]? with
    | none => none
    | some w =>
      if w.opened || w.closed then none
      else some { s with sockets := s.sockets.modify i .setOpened }
  | .authenticated i now =>
    match s.sockets[i]? with
    | none => none
    | some w =>
      if w.opened && !w.closed then
        some { s with
          sockets := s.sockets.modify i .setAuthenticated, connected := true, listeningSince := some now }
      else none
  | .closed i =>
    match s.sockets[i]? with
    | none => none
    | some w =>
      if w.closed then none
      else
        some { s with
          sockets := s.sockets.modify i .setClosed, connected := false, listeningSince := none
          retry := if w.effect = s.effect then true else s.retry }

def useLiveData : Machine Sys Act Empty := ⟨fun s a => (step s a).map fun s' => (s', [])⟩

/-- The effect has a socket that is authenticated and open. -/
def Sys.live (s : Sys) : Bool := s.sockets.any (·.live s.effect)

/-- What the dashboard is told is what the socket of the effect is. -/
def Known (s : Sys) : Prop := s.connected = s.live ∧ s.listeningSince.isSome = s.live

/-- What a step does. -/
inductive Took (s : Sys) : Act → Sys → Prop
  | change : Took s .change { s with
      effect := s.effect + 1, fetching := s.fetching ++ [s.effect + 1], retry := false, sockets := s.closeRef }
  /-- The effect that asked has ended. -/
  | late {effect : ℕ} {ok : Bool} (hne : effect ≠ s.effect) :
      Took s (.ticket effect ok) { s with fetching := s.fetching.erase effect }
  | ticket (hasked : s.effect ∈ s.fetching) : Took s (.ticket s.effect true) { s with
      fetching := s.fetching.erase s.effect
      sockets := s.sockets ++ [.new s.effect], socketRef := some s.sockets.length }
  | noTicket (hasked : s.effect ∈ s.fetching) : Took s (.ticket s.effect false) { s with
      fetching := s.fetching.erase s.effect, retry := true }
  | timer (hretry : s.retry = true) : Took s .timer { s with retry := false, fetching := s.fetching ++ [s.effect] }
  | opened {i : ℕ} {w : WebSocket} (hi : s.sockets[i]? = some w) (hnot : w.opened = false) :
      Took s (.opened i) { s with sockets := s.sockets.modify i .setOpened }
  | authenticated {i : ℕ} {now : ℤ} {w : WebSocket} (hi : s.sockets[i]? = some w) (hopened : w.opened = true)
      (hopen : w.closed = false) : Took s (.authenticated i now) { s with
        sockets := s.sockets.modify i .setAuthenticated, connected := true, listeningSince := some now }
  | closed {i : ℕ} {w : WebSocket} (hi : s.sockets[i]? = some w) (hopen : w.closed = false) :
      Took s (.closed i) { s with
        sockets := s.sockets.modify i .setClosed, connected := false, listeningSince := none
        retry := if w.effect = s.effect then true else s.retry }

theorem took_of_step {s s' : Sys} {a : Act} (hstep : step s a = some s') : Took s a s' := by
  cases a with
  | change =>
    obtain rfl := Option.some.inj hstep
    exact .change
  | ticket effect ok =>
    simp only [step] at hstep
    by_cases hasked : effect ∈ s.fetching
    · rw [if_pos hasked] at hstep
      by_cases hother : effect ≠ s.effect
      · rw [if_pos hother] at hstep
        obtain rfl := Option.some.inj hstep
        exact .late hother
      · rw [if_neg hother] at hstep
        obtain rfl := not_not.mp hother
        cases ok with
        | true =>
          obtain rfl := Option.some.inj hstep
          exact .ticket hasked
        | false =>
          obtain rfl := Option.some.inj hstep
          exact .noTicket hasked
    · rw [if_neg hasked] at hstep
      cases hstep
  | timer =>
    simp only [step] at hstep
    by_cases hretry : s.retry = true
    · rw [if_pos hretry] at hstep
      obtain rfl := Option.some.inj hstep
      exact .timer hretry
    · rw [if_neg hretry] at hstep
      cases hstep
  | opened i =>
    simp only [step] at hstep
    cases hi : s.sockets[i]? with
    | none => simp [hi] at hstep
    | some w =>
      simp only [hi] at hstep
      split_ifs at hstep with hevents
      obtain rfl := Option.some.inj hstep
      rw [Bool.or_eq_true, not_or] at hevents
      exact .opened hi (by simpa using hevents.1)
  | authenticated i now =>
    simp only [step] at hstep
    cases hi : s.sockets[i]? with
    | none => simp [hi] at hstep
    | some w =>
      simp only [hi] at hstep
      split_ifs at hstep with hopen
      obtain rfl := Option.some.inj hstep
      obtain ⟨hopened, hopen⟩ := Bool.and_eq_true_iff.mp hopen
      exact .authenticated hi hopened (by simpa using hopen)
  | closed i =>
    simp only [step] at hstep
    cases hi : s.sockets[i]? with
    | none => simp [hi] at hstep
    | some w =>
      simp only [hi] at hstep
      by_cases hclosed : w.closed = true
      · rw [if_pos hclosed] at hstep
        cases hstep
      · rw [if_neg hclosed] at hstep
        obtain rfl := Option.some.inj hstep
        exact .closed hi (by simpa using hclosed)

/-! ## Changing one socket -/

section Modify

variable {l : List WebSocket} {i : ℕ} {f : WebSocket → WebSocket}

theorem mem_modify {w' : WebSocket} (h : w' ∈ l.modify i f) : w' ∈ l ∨ ∃ w, l[i]? = some w ∧ w' = f w := by
  obtain ⟨j, hj⟩ := List.mem_iff_getElem?.mp h
  rw [List.getElem?_modify] at hj
  obtain ⟨w, hw, hwf⟩ := Option.map_eq_some_iff.mp hj
  by_cases hij : i = j
  · subst hij
    rw [if_pos rfl] at hwf
    exact Or.inr ⟨w, hw, hwf.symm⟩
  · rw [if_neg hij] at hwf
    subst hwf
    exact Or.inl (List.mem_of_getElem? hw)

theorem any_live_iff {effect : ℕ} : l.any (·.live effect) = true ↔
    ∃ (j : ℕ) (w : WebSocket), l[j]? = some w ∧ w.live effect = true := by
  rw [List.any_eq_true]
  constructor
  · rintro ⟨w, hw, hlive⟩
    obtain ⟨j, hj⟩ := List.mem_iff_getElem?.mp hw
    exact ⟨j, w, hj, hlive⟩
  · rintro ⟨j, w, hj, hlive⟩
    exact ⟨w, List.mem_of_getElem? hj, hlive⟩

/-- A change of a socket that does not make it speak, or silence it. -/
theorem any_live_modify {effect : ℕ} (h : ∀ w, l[i]? = some w → (f w).live effect = w.live effect) :
    (l.modify i f).any (·.live effect) = l.any (·.live effect) := by
  refine Bool.eq_iff_iff.mpr ?_
  rw [any_live_iff, any_live_iff]
  refine exists_congr fun j => ⟨?_, ?_⟩
  · rintro ⟨w', hw', hlive⟩
    rw [List.getElem?_modify] at hw'
    obtain ⟨w, hw, rfl⟩ := Option.map_eq_some_iff.mp hw'
    refine ⟨w, hw, ?_⟩
    split_ifs at hlive with hij
    · subst hij
      rwa [h w hw] at hlive
    · exact hlive
  · rintro ⟨w, hw, hlive⟩
    refine ⟨if i = j then f w else w, ?_, ?_⟩
    · rw [List.getElem?_modify, hw]
      rfl
    · split_ifs with hij
      · subst hij
        rwa [h w hw]
      · exact hlive

end Modify

/-! ## What holds of the sockets in every run -/

structure Kept (s : Sys) : Prop where
  past : ∀ w ∈ s.sockets, w.effect ≤ s.effect
  fetching : ∀ e ∈ s.fetching, e ≤ s.effect
  once : s.fetching.count s.effect ≤ 1
  /-- `close` is called when the effect ends. -/
  kept : ∀ w ∈ s.sockets, w.effect = s.effect → w.closing = false
  spoken : ∀ w ∈ s.sockets, w.authenticated = true → w.opened = true
  /-- The effect has no socket while it waits for a ticket or for its timer. -/
  idle : s.effect ∈ s.fetching ∨ s.retry = true → ∀ w ∈ s.sockets, w.effect = s.effect → w.closed = true
  apart : s.retry = true → s.effect ∉ s.fetching
  /-- Else it has one that is not closed, at most. -/
  single : ∀ (i j : ℕ) (w w' : WebSocket), s.sockets[i]? = some w → s.sockets[j]? = some w' → w.effect = s.effect →
    w'.effect = s.effect → w.closed = false → w'.closed = false → i = j

theorem kept_init : Kept .init where
  past := nofun
  fetching := by decide
  once := by decide
  kept := nofun
  spoken := nofun
  idle := fun _ => nofun
  apart := by decide
  single := fun i j w w' hi => by simp [Sys.init] at hi

section Steps

variable {s : Sys}

/-- An event of a socket: it stays one of its effect, and does not come back. -/
theorem Kept.modify (hK : Kept s) {i : ℕ} {f : WebSocket → WebSocket} (heffect : ∀ w, (f w).effect = w.effect)
    (hclosing : ∀ w, (f w).closing = w.closing) (hclosed : ∀ w, w.closed = true → (f w).closed = true)
    (hspoken : ∀ w, s.sockets[i]? = some w → (f w).authenticated = true → (f w).opened = true) (connected : Bool)
    (listeningSince : Option ℤ) : Kept { s with sockets := s.sockets.modify i f, connected, listeningSince } where
  past := by
    intro w' hw'
    rcases mem_modify hw' with hw | ⟨w, hw, rfl⟩
    · exact hK.past w' hw
    · rw [heffect]
      exact hK.past w (List.mem_of_getElem? hw)
  fetching := hK.fetching
  once := hK.once
  kept := by
    intro w' hw' hcurrent
    rcases mem_modify hw' with hw | ⟨w, hw, rfl⟩
    · exact hK.kept w' hw hcurrent
    · rw [hclosing]
      exact hK.kept w (List.mem_of_getElem? hw) ((heffect w).symm.trans hcurrent)
  spoken := by
    intro w' hw' hauth
    rcases mem_modify hw' with hw | ⟨w, hw, rfl⟩
    · exact hK.spoken w' hw hauth
    · exact hspoken w hw hauth
  idle := by
    intro hidle w' hw' hcurrent
    rcases mem_modify hw' with hw | ⟨w, hw, rfl⟩
    · exact hK.idle hidle w' hw hcurrent
    · exact hclosed w (hK.idle hidle w (List.mem_of_getElem? hw) ((heffect w).symm.trans hcurrent))
  apart := hK.apart
  single := by
    intro j k w' v' hj hk hw' hv' hwopen hvopen
    have hj' : (s.sockets.modify i f)[j]? = some w' := hj
    have hk' : (s.sockets.modify i f)[k]? = some v' := hk
    rw [List.getElem?_modify] at hj' hk'
    obtain ⟨w, hw, rfl⟩ := Option.map_eq_some_iff.mp hj'
    obtain ⟨v, hv, rfl⟩ := Option.map_eq_some_iff.mp hk'
    have hsame : ∀ (b : Prop) [Decidable b] (u : WebSocket), (if b then f u else u).effect = s.effect →
        (if b then f u else u).closed = false → u.effect = s.effect ∧ u.closed = false := by
      intro b _ u hcurrent hopen
      split_ifs at hcurrent hopen
      · refine ⟨(heffect u).symm.trans hcurrent, ?_⟩
        cases hu : u.closed with
        | false => rfl
        | true => rw [hclosed u hu] at hopen; cases hopen
      · exact ⟨hcurrent, hopen⟩
    obtain ⟨hw₁, hw₂⟩ := hsame _ w hw' hwopen
    obtain ⟨hv₁, hv₂⟩ := hsame _ v hv' hvopen
    exact hK.single j k w v hw hv hw₁ hv₁ hw₂ hv₂

theorem Kept.change (hK : Kept s) : Kept { s with
    effect := s.effect + 1, fetching := s.fetching ++ [s.effect + 1], retry := false, sockets := s.closeRef } := by
  have hpast : ∀ w ∈ s.closeRef, w.effect ≤ s.effect ∧ (w.authenticated = true → w.opened = true) := by
    intro w' hw'
    unfold Sys.closeRef at hw'
    split at hw'
    · exact ⟨hK.past w' hw', hK.spoken w' hw'⟩
    · rcases mem_modify hw' with hw | ⟨w, hw, rfl⟩
      · exact ⟨hK.past w' hw, hK.spoken w' hw⟩
      · exact ⟨hK.past w (List.mem_of_getElem? hw), hK.spoken w (List.mem_of_getElem? hw)⟩
  have hnone : ∀ w ∈ s.closeRef, w.effect ≠ s.effect + 1 := fun w hw heq => by
    have hle := (hpast w hw).1
    omega
  refine ⟨fun w hw => (hpast w hw).1.trans (Nat.le_succ _), fun e he => ?_, ?_, fun w hw heq => absurd heq (hnone w hw),
    fun w hw => (hpast w hw).2, fun _ w hw heq => absurd heq (hnone w hw), nofun,
    fun i j w w' hi hj heq => absurd heq (hnone w (List.mem_of_getElem? hi))⟩
  · rcases List.mem_append.mp he with he | he
    · exact (hK.fetching e he).trans (Nat.le_succ _)
    · rw [List.mem_singleton.mp he]
  · show (s.fetching ++ [s.effect + 1]).count (s.effect + 1) ≤ 1
    have hfresh : s.effect + 1 ∉ s.fetching := fun hmem => by
      have hle := hK.fetching _ hmem
      omega
    rw [List.count_append, List.count_eq_zero.mpr hfresh]
    simp

theorem Kept.fetched (hK : Kept s) (effect : ℕ) : Kept { s with fetching := s.fetching.erase effect } :=
  ⟨hK.past, fun e he => hK.fetching e (List.mem_of_mem_erase he), ((List.erase_sublist.count_le _).trans hK.once),
    hK.kept, hK.spoken, fun hidle => hK.idle (hidle.imp_left List.mem_of_mem_erase),
    fun hretry hmem => hK.apart hretry (List.mem_of_mem_erase hmem), hK.single⟩

theorem Kept.unasked (hK : Kept s) : s.effect ∉ s.fetching.erase s.effect := by
  intro hmem
  have hcount : 0 < (s.fetching.erase s.effect).count s.effect := List.count_pos_iff.mpr hmem
  rw [List.count_erase_self] at hcount
  have honce := hK.once
  omega

/-- The timer is set when the effect has neither socket nor ticket to wait for. -/
theorem Kept.waits (hK : Kept s) (hnot : s.effect ∉ s.fetching)
    (hclosed : ∀ w ∈ s.sockets, w.effect = s.effect → w.closed = true) : Kept { s with retry := true } :=
  ⟨hK.past, hK.fetching, hK.once, hK.kept, hK.spoken, fun _ => hclosed, fun _ => hnot, hK.single⟩

theorem Kept.asks (hK : Kept s) (hretry : s.retry = true) :
    Kept { s with retry := false, fetching := s.fetching ++ [s.effect] } := by
  have hclosed := hK.idle (Or.inr hretry)
  refine ⟨hK.past, fun e he => ?_, ?_, hK.kept, hK.spoken, fun _ => hclosed, nofun, hK.single⟩
  · rcases List.mem_append.mp he with he | he
    · exact hK.fetching e he
    · rw [List.mem_singleton.mp he]
  · show (s.fetching ++ [s.effect]).count s.effect ≤ 1
    rw [List.count_append, List.count_eq_zero.mpr (hK.apart hretry)]
    simp

/-- The effect has its ticket, and opens a socket. -/
theorem Kept.opens (hK : Kept s) (hnot : s.effect ∉ s.fetching) (hretry : s.retry = false)
    (hclosed : ∀ w ∈ s.sockets, w.effect = s.effect → w.closed = true) :
    Kept { s with sockets := s.sockets ++ [.new s.effect], socketRef := some s.sockets.length } := by
  have hmem : ∀ w ∈ s.sockets ++ [WebSocket.new s.effect], w ∈ s.sockets ∨ w = .new s.effect := fun w hw =>
    (List.mem_append.mp hw).imp_right List.mem_singleton.mp
  have hlast : ∀ {i : ℕ} {w : WebSocket}, (s.sockets ++ [WebSocket.new s.effect])[i]? = some w → w.effect = s.effect →
      w.closed = false → i = s.sockets.length := by
    intro i w hi heffect hopen
    by_cases hlt : i < s.sockets.length
    · rw [List.getElem?_append_left hlt] at hi
      rw [hclosed w (List.mem_of_getElem? hi) heffect] at hopen
      cases hopen
    · rw [List.getElem?_append_right (Nat.le_of_not_lt hlt)] at hi
      have hzero : i - s.sockets.length < 1 := (List.getElem?_eq_some_iff.mp hi).1
      omega
  refine ⟨fun w hw => ?_, hK.fetching, hK.once, fun w hw heffect => ?_, fun w hw hauth => ?_, ?_, hK.apart, ?_⟩
  · rcases hmem w hw with hw | rfl
    · exact hK.past w hw
    · exact le_rfl
  · rcases hmem w hw with hw | rfl
    · exact hK.kept w hw heffect
    · rfl
  · rcases hmem w hw with hw | rfl
    · exact hK.spoken w hw hauth
    · cases hauth
  · rintro (hfetching | hwaiting)
    · exact absurd hfetching hnot
    · rw [hretry] at hwaiting
      cases hwaiting
  · intro i j w w' hi hj hw hw' hopen hopen'
    exact (hlast hi hw hopen).trans (hlast hj hw' hopen').symm

theorem Kept.step (hK : Kept s) {s' : Sys} {a : Act} (hstep : Took s a s') : Kept s' := by
  cases hstep with
  | change => exact hK.change
  | late hne => exact hK.fetched _
  | ticket hasked =>
    have hretry : s.retry = false := by
      by_contra hset
      exact hK.apart (by simpa using hset) hasked
    exact (hK.fetched s.effect).opens hK.unasked hretry (hK.idle (Or.inl hasked))
  | noTicket hasked => exact (hK.fetched s.effect).waits hK.unasked (hK.idle (Or.inl hasked))
  | timer hretry => exact hK.asks hretry
  | opened hi hnot =>
    exact hK.modify (f := .setOpened) (fun _ => rfl) (fun _ => rfl) (fun _ h => h) (fun _ _ _ => rfl) s.connected
      s.listeningSince
  | authenticated hi hopened hopen =>
    refine hK.modify (f := .setAuthenticated) (fun _ => rfl) (fun _ => rfl) (fun _ h => h) (fun w' hw' _ => ?_) true _
    obtain rfl := Option.some.inj (hi.symm.trans hw')
    exact hopened
  | @closed i w hi hopen =>
    have hmodified := hK.modify (f := .setClosed) (i := i) (fun _ => rfl) (fun _ => rfl) (fun _ _ => rfl)
      (fun w' hw' hauth => hK.spoken w' (List.mem_of_getElem? hw') hauth) false none
    by_cases hcurrent : w.effect = s.effect
    · -- the effect's own socket: it has no other, and waits for nothing else
      have hunasked : s.effect ∉ s.fetching := by
        intro hasked
        rw [hK.idle (Or.inl hasked) w (List.mem_of_getElem? hi) hcurrent] at hopen
        cases hopen
      rw [if_pos hcurrent]
      refine hmodified.waits hunasked fun w' hw' heffect => ?_
      obtain ⟨j, hj⟩ := List.mem_iff_getElem?.mp hw'
      have hj' : (s.sockets.modify i .setClosed)[j]? = some w' := hj
      rw [List.getElem?_modify] at hj'
      obtain ⟨v, hv, rfl⟩ := Option.map_eq_some_iff.mp hj'
      by_cases hij : i = j
      · rw [if_pos hij]
        rfl
      · rw [if_neg hij] at heffect ⊢
        by_contra hvopen
        exact hij (hK.single i j w v hi hv hcurrent heffect hopen (by simpa using hvopen))
    · rw [if_neg hcurrent]
      exact hmodified

/-! ## When what is told is so -/

/-- What may happen: the topics do not change while the socket of the effect is authenticated and open, no socket of an
effect that has ended is closed while it is, and none is authenticated while it is not. -/
def InTurn (s : Sys) : Act → Prop
  | .change => s.live = false
  | .authenticated i _ => ∀ w, s.sockets[i]? = some w → w.opened = true → w.closed = false → w.effect ≠ s.effect →
    s.live = true
  | .closed i => ∀ w, s.sockets[i]? = some w → w.closed = false → w.effect ≠ s.effect → s.live = false
  | _ => True

theorem live_of_effect_ne {effect : ℕ} {w : WebSocket} (h : w.effect ≠ effect) : w.live effect = false := by
  simp [WebSocket.live, h]

/-- What leaves the cells and the socket as they are, leaves it known. -/
theorem Known.of_same (hP : Known s) {s' : Sys} (hconnected : s'.connected = s.connected)
    (hsince : s'.listeningSince = s.listeningSince) (hlive : s'.live = s.live) : Known s' := by
  unfold Known
  rw [hconnected, hsince, hlive]
  exact hP

/-- A new effect has no socket. -/
theorem Kept.live_change (hK : Kept s) : s.closeRef.any (·.live (s.effect + 1)) = false := by
  rw [Bool.eq_false_iff]
  intro hlive
  obtain ⟨w, hw, hlive⟩ := List.any_eq_true.mp hlive
  have hle : w.effect ≤ s.effect + 1 := hK.change.past w hw
  have heffect : w.effect ≤ s.effect := by
    unfold Sys.closeRef at hw
    split at hw
    · exact hK.past w hw
    · rcases mem_modify hw with hw | ⟨v, hv, rfl⟩
      · exact hK.past w hw
      · exact hK.past v (List.mem_of_getElem? hv)
  rw [live_of_effect_ne (by omega)] at hlive
  cases hlive

/-- The effect's socket is authenticated. -/
theorem Kept.live_authenticated (hK : Kept s) {i : ℕ} {w : WebSocket} (hi : s.sockets[i]? = some w)
    (hopened : w.opened = true) (hopen : w.closed = false) (hcurrent : w.effect = s.effect) :
    (s.sockets.modify i .setAuthenticated).any (·.live s.effect) = true := by
  refine any_live_iff.mpr ⟨i, w.setAuthenticated, ?_, ?_⟩
  · rw [List.getElem?_modify_eq, hi]
    rfl
  · have hclosing := hK.kept w (List.mem_of_getElem? hi) hcurrent
    simp [WebSocket.live, WebSocket.setAuthenticated, hcurrent, hopened, hopen, hclosing]

/-- The effect's socket is closed, and it has no other. -/
theorem Kept.live_closed (hK : Kept s) {i : ℕ} {w : WebSocket} (hi : s.sockets[i]? = some w) (hopen : w.closed = false)
    (hcurrent : w.effect = s.effect) : (s.sockets.modify i .setClosed).any (·.live s.effect) = false := by
  rw [Bool.eq_false_iff]
  intro hlive
  obtain ⟨j, v', hj, hv'⟩ := any_live_iff.mp hlive
  rw [List.getElem?_modify] at hj
  obtain ⟨v, hv, rfl⟩ := Option.map_eq_some_iff.mp hj
  by_cases hij : i = j
  · rw [if_pos hij] at hv'
    simp [WebSocket.live, WebSocket.setClosed] at hv'
  · rw [if_neg hij] at hv'
    simp only [WebSocket.live, Bool.and_eq_true, beq_iff_eq, Bool.not_eq_true'] at hv'
    exact hij (hK.single i j w v hi hv hcurrent hv'.1.1.1.1 hopen hv'.2)

/-- A step keeps what is told true if and only if it happens in its turn. -/
theorem known_step_iff (hK : Kept s) (hP : Known s) {s' : Sys} {a : Act} (hstep : Took s a s') :
    Known s' ↔ InTurn s a := by
  obtain ⟨hconnected, hsince⟩ := hP
  cases hstep with
  | change =>
    show (s.connected = s.closeRef.any _ ∧ s.listeningSince.isSome = s.closeRef.any _) ↔ s.live = false
    rw [hK.live_change, hconnected, hsince, and_self_iff]
  | late hne => exact iff_of_true (Known.of_same ⟨hconnected, hsince⟩ rfl rfl rfl) trivial
  | ticket hasked =>
    refine iff_of_true (Known.of_same ⟨hconnected, hsince⟩ rfl rfl ?_) trivial
    show (s.sockets ++ [WebSocket.new s.effect]).any _ = s.sockets.any _
    rw [List.any_append]
    simp [WebSocket.live, WebSocket.new]
  | noTicket hasked => exact iff_of_true (Known.of_same ⟨hconnected, hsince⟩ rfl rfl rfl) trivial
  | timer hretry => exact iff_of_true (Known.of_same ⟨hconnected, hsince⟩ rfl rfl rfl) trivial
  | @opened i w hi hnot =>
    refine iff_of_true (Known.of_same ⟨hconnected, hsince⟩ rfl rfl ?_) trivial
    refine any_live_modify fun w' hw' => ?_
    obtain rfl := Option.some.inj (hi.symm.trans hw')
    have hauth : w.authenticated = false := by
      by_contra hauth
      rw [hK.spoken w (List.mem_of_getElem? hi) (by simpa using hauth)] at hnot
      cases hnot
    simp [WebSocket.live, WebSocket.setOpened, hauth]
  | @authenticated i now w hi hopened hopen =>
    by_cases hcurrent : w.effect = s.effect
    · refine iff_of_true ?_ fun w' hw' _ _ hne => ?_
      · have hlive := hK.live_authenticated hi hopened hopen hcurrent
        exact ⟨hlive.symm, hlive.symm⟩
      · obtain rfl := Option.some.inj (hi.symm.trans hw')
        exact absurd hcurrent hne
    · have hlive : (s.sockets.modify i .setAuthenticated).any (·.live s.effect) = s.live := by
        refine any_live_modify fun w' hw' => ?_
        obtain rfl := Option.some.inj (hi.symm.trans hw')
        rw [live_of_effect_ne hcurrent, live_of_effect_ne (w := w.setAuthenticated) hcurrent]
      show (true = (s.sockets.modify i .setAuthenticated).any _ ∧
        true = (s.sockets.modify i .setAuthenticated).any _) ↔ _
      rw [hlive, and_self_iff, eq_comm]
      refine ⟨fun h _ _ _ _ _ => h, fun h => h w hi hopened hopen hcurrent⟩
  | @closed i w hi hopen =>
    by_cases hcurrent : w.effect = s.effect
    · refine iff_of_true ?_ fun w' hw' _ hne => ?_
      · have hlive := hK.live_closed hi hopen hcurrent
        exact ⟨hlive.symm, hlive.symm⟩
      · obtain rfl := Option.some.inj (hi.symm.trans hw')
        exact absurd hcurrent hne
    · have hlive : (s.sockets.modify i .setClosed).any (·.live s.effect) = s.live := by
        refine any_live_modify fun w' hw' => ?_
        obtain rfl := Option.some.inj (hi.symm.trans hw')
        rw [live_of_effect_ne hcurrent, live_of_effect_ne (w := w.setClosed) hcurrent]
      show (false = (s.sockets.modify i .setClosed).any _ ∧ false = (s.sockets.modify i .setClosed).any _) ↔ _
      rw [hlive, and_self_iff, eq_comm]
      refine ⟨fun h _ _ _ _ => h, fun h => h w hi hopen hcurrent⟩

end Steps

/-- **What the dashboard is told of its connection.**  In every state of a run `connected` and `listeningSince` say
whether the effect that runs has a socket that is authenticated and open, if and only if every event of the run comes in
its turn. -/
theorem known_iff (as : List Act) : useLiveData.Along (fun s _ => Known s) .init [] as ↔
    useLiveData.Meets (fun s _ a => InTurn s a) .init [] as := by
  have htook : ∀ {s s' : Sys} {a : Act} {o : List Empty}, useLiveData.step s a = some (s', o) → Took s a s' := by
    intro s s' a o hs
    obtain ⟨r, hr, heq⟩ := Option.map_eq_some_iff.mp hs
    obtain ⟨rfl, -⟩ := Prod.mk.inj heq
    exact took_of_step hr
  have hrefused : ∀ {s : Sys} {a : Act}, useLiveData.step s a = none → InTurn s a := by
    intro s a hs
    have hnone : step s a = none := Option.map_eq_none_iff.mp hs
    cases a with
    | change => cases hnone
    | authenticated i now =>
      intro w hi hopened hopen _
      simp [step, hi, hopened, hopen] at hnone
    | closed i =>
      intro w hi hopen _
      simp [step, hi, hopen] at hnone
    | _ => trivial
  exact along_iff_meets (I := fun s _ => Kept s) (fun hK hs => hK.step (htook hs))
    (fun hK hP hs => known_step_iff hK hP (htook hs)) (fun _ hs => hrefused hs) kept_init ⟨rfl, rfl⟩

/-! ### A socket that is replaced -/

/-- What the dashboard judges a reading by: `listeningSince ?? now`. -/
def Sys.since (s : Sys) (now : ℤ) : ℤ := s.listeningSince.getD now

/-- Without `listeningSince` no reading is stale, however old. -/
theorem never_stale {s : Sys} (hlost : s.listeningSince = none) (r : LiveReading) {interval : ℤ}
    (hinterval : 0 ≤ interval) (now : ℤ) : isStale r interval now (s.since now) = false := by
  have hage : readingAgeMs r.ts r.receivedAt now now = 0 := by
    unfold readingAgeMs
    omega
  have hafter : 0 ≤ staleAfterMs interval := by
    unfold staleAfterMs staleIntervals
    omega
  unfold Sys.since isStale isReadingStale
  rw [hlost, Option.getD_none, hage]
  exact decide_eq_false (not_lt.mpr hafter)

/-- The topics change, the new socket is authenticated, and the old one's close event arrives. -/
def replacedRun : List Act :=
  [.ticket 0 true, .opened 0, .authenticated 0 1000, .change, .ticket 1 true, .opened 1, .authenticated 1 2000,
    .closed 0]

/-- **The feed is marked down by a socket that was replaced**, and no reading is stale any more. -/
theorem marked_down_by_replaced : ∃ s, useLiveData.exec .init replacedRun = some (s, []) ∧ s.live = true ∧
    s.connected = false ∧ s.listeningSince = none ∧
    (∀ (r : LiveReading) (now : ℤ), isStale r 60 now (s.since now) = false) ∧
    ¬ useLiveData.Along (fun s _ => Known s) .init [] replacedRun := by
  refine ⟨_, rfl, by decide, rfl, rfl, fun r now => never_stale rfl r (by decide) now, fun halong => ?_⟩
  have hknown := halong.at_end rfl
  exact absurd hknown.1 (by decide)

end DTwin.Web.Socket
