import DTwin.Ingest.Pipeline
import DTwin.Ingest.Wire

/-!
# DTwin.Ingest.Frames — does the client hear every reading of a frame?

`broadcasting` is the fanout behind `ingestRaw`: the readings a batch has accepted are published one after the other,
and whatever else `Ingest.Fanout` does goes on beside it.  The schema of a batch lets a value through that no double
holds, as an infinity; `JSON.stringify` writes it as `null`, and the schema of the frame refuses `null`, and with it
every other reading of the frame.  So the frames are read as what was published exactly when no tick serialises an
infinite value (`heard_iff`).
-/

namespace DTwin.Fanout

open OrderedMap Machine
open Ingest (Sensors RegisteredSensor OwnedReading Registry RawTelemetryBatch PipelineConfig ingestRaw)

variable {sensors : Sensors} {μ : Type}

inductive Event (sensors : Sensors) (μ : Type)
  | receive (registry : Registry sensors) (tenantId : Uuid) (batch : RawTelemetryBatch) (now : ℤ)
  | fan (a : Act μ)

inductive Seen (μ : Type)
  /-- published for a topic that has a subscriber -/
  | queued (topic : Topic) (reading : Reading)
  | serialised (topic : Topic) (text : Json)
  | fan (o : Obs μ)
  | ticked

/-- The topics of a sensor that have a subscriber. -/
def Sys.watched (s : Sys) (sensor : Rules.RegisteredSensor) : List Topic :=
  (topicsFor sensor).filter fun t => (s.byTopic.get? t).isSome

/-- The batches that `tick` serialises: the last subscriber may have left mid-window. -/
def Sys.batches (s : Sys) : List (Topic × List Reading) :=
  s.pending.entries.filter fun batch => (s.byTopic.get? batch.1).isSome

/-- The text of a batch, serialised once for all its subscribers. -/
def serialise (now : ℤ) (batch : Topic × List Reading) : Seen μ :=
  .serialised batch.1 (batchMessage batch.1 batch.2 now).stringify

/-- What is seen of an action that the sockets see as `o`. -/
def seenOf (s : Sys) (o : List (Obs μ)) : Act μ → List (Seen μ)
  | .publish sensor reading => (s.watched sensor).map (.queued · reading)
  | .tick now _ => s.batches.map (serialise now) ++ (o.map .fan ++ [.ticked])
  | _ => o.map .fan

/-- One turn of the loop of `#dispatch`. -/
def publishOne (r : Sys × List (Seen μ)) (p : RegisteredSensor sensors × OwnedReading sensors) :
    Sys × List (Seen μ) :=
  (r.1.publish p.1.toRegisteredSensor p.2.toReading,
    r.2 ++ (r.1.watched p.1.toRegisteredSensor).map (.queued · p.2.toReading))

def broadcast (pipeline : PipelineConfig) (cfg : Config) (s : Sys) :
    Event sensors μ → Option (Sys × List (Seen μ))
  | .receive registry tenantId batch now =>
    some ((ingestRaw pipeline registry tenantId batch now).2.foldl publishOne (s, []))
  | .fan a => (step cfg s a).map fun r => (r.1, seenOf s r.2 a)

def broadcasting (sensors : Sensors) (μ : Type) (pipeline : PipelineConfig) (cfg : Config) :
    Machine Sys (Event sensors μ) (Seen μ) := ⟨broadcast pipeline cfg⟩

/-! ## What is published between two ticks -/

def sinceStep (topic : Topic) (acc : List Reading) : Seen μ → List Reading
  | .queued t reading => if t = topic then acc ++ [reading] else acc
  | .ticked => []
  | _ => acc

/-- What was published for a topic since the last tick, in order. -/
def publishedSince (topic : Topic) (h : List (Seen μ)) : List Reading := h.foldl (sinceStep topic) []

theorem publishedSince_append (topic : Topic) (h o : List (Seen μ)) :
    publishedSince topic (h ++ o) = o.foldl (sinceStep topic) (publishedSince topic h) := List.foldl_append

/-- The frame is read, as the readings that were published for its topic. -/
def Read (h : List (Seen μ)) : Seen μ → Prop
  | .serialised topic text => decode text = some (topic.text, (publishedSince topic h).map clientReading)
  | _ => True

/-- Every frame is read as what was published for its topic since the tick before. -/
def Heard (h : List (Seen μ)) : Prop := Each Read h

/-- Every value that a tick is about to serialise is finite. -/
def Finite (s : Sys) : Event sensors μ → Prop
  | .fan (.tick _ _) => ∀ batch ∈ s.batches, ∀ r ∈ batch.2, r.value.isFinite = true
  | _ => True

/-- The readings pending are those published since the last tick. -/
def Pending (s : Sys) (h : List (Seen μ)) : Prop := ∀ t, (s.pending.get? t).getD [] = publishedSince t h

/-! ## Publishing -/

theorem pending_publish {s : Sys} {h : List (Seen μ)} (hP : Pending s h) (sensor : Rules.RegisteredSensor)
    (reading : Reading) :
    Pending (s.publish sensor reading) (h ++ (s.watched sensor).map (.queued · reading)) := by
  unfold Sys.publish Sys.watched Pending
  generalize topicsFor sensor = ts
  -- Both sides go through the topics of the sensor in the same order.
  have hfold : ∀ (ts : List Topic) (m : OrderedMap Topic (List Reading)) (h : List (Seen μ)),
      (∀ t, (m.get? t).getD [] = publishedSince t h) → ∀ t,
        ((ts.foldl (fun m t => if (s.byTopic.get? t).isSome then m.set t ((m.get? t).getD [] ++ [reading]) else m)
          m).get? t).getD [] =
        publishedSince t (h ++ (ts.filter fun t => (s.byTopic.get? t).isSome).map (.queued · reading)) := by
    intro ts
    induction ts with
    | nil =>
      intro m h hm t
      simpa using hm t
    | cons t' ts ih =>
      intro m h hm t
      rw [List.foldl_cons]
      by_cases hsub : (s.byTopic.get? t').isSome
      · rw [if_pos hsub, List.filter_cons, if_pos hsub, List.map_cons, List.append_cons h]
        refine ih _ _ (fun t'' => ?_) t
        rw [publishedSince_append, List.foldl_cons, List.foldl_nil, ← hm t'', get?_set, sinceStep]
        split_ifs with heq
        · rw [heq, Option.getD_some]
        · rfl
      · rw [if_neg hsub, List.filter_cons, if_neg hsub]
        exact ih m h hm t
  exact hfold ts s.pending h hP

theorem pending_foldl_publishOne : ∀ (ps : List (RegisteredSensor sensors × OwnedReading sensors))
    {r : Sys × List (Seen μ)} {h : List (Seen μ)}, Pending r.1 (h ++ r.2) →
    Pending (ps.foldl publishOne r).1 (h ++ (ps.foldl publishOne r).2)
  | [], _, _, hP => hP
  | p :: ps, r, h, hP => by
    refine pending_foldl_publishOne ps ?_
    rw [publishOne, ← List.append_assoc]
    exact pending_publish hP _ _

/-- Only a tick serialises. -/
def Silent (o : List (Seen μ)) : Prop := ∀ x ∈ o, ∀ topic text, x ≠ .serialised topic text

theorem each_read_of_silent {h o : List (Seen μ)} (ho : Silent o) : Each (fun h₁ x => Read (h ++ h₁) x) o := by
  refine each_of_forall fun x hx h₁ => ?_
  cases x with
  | serialised topic text => exact absurd rfl (ho _ hx topic text)
  | _ => trivial

theorem heard_append_iff_of_silent {h o : List (Seen μ)} (ho : Silent o) : Heard (h ++ o) ↔ Heard h :=
  each_append.trans (and_iff_left (each_read_of_silent ho))

theorem silent_queued (ts : List Topic) (reading : Reading) :
    Silent (ts.map fun t => (.queued t reading : Seen μ)) := by
  intro x hx topic text heq
  obtain ⟨t, -, rfl⟩ := List.mem_map.mp hx
  cases heq

theorem silent_fan (o : List (Obs μ)) : Silent (o.map .fan) := by
  intro x hx topic text heq
  obtain ⟨y, -, rfl⟩ := List.mem_map.mp hx
  cases heq

theorem silent_foldl_publishOne : ∀ (ps : List (RegisteredSensor sensors × OwnedReading sensors))
    {r : Sys × List (Seen μ)}, Silent r.2 → Silent (ps.foldl publishOne r).2
  | [], _, ho => ho
  | _ :: ps, _, ho => silent_foldl_publishOne ps (List.forall_mem_append.mpr ⟨ho, silent_queued _ _⟩)

/-! ## The other actions -/

theorem pending_deliver (cfg : Config) (topic : Topic) (frame : Frame μ) (mustDeliver : Bool)
    (sockets : Uuid → Socket) : ∀ (subs : List Uuid) (r : Sys × List (Obs μ)),
      (deliver cfg topic subs frame mustDeliver sockets r).1.pending = r.1.pending
  | [], _ => rfl
  | id :: subs, r => by
    rw [deliver, List.foldl_cons, ← deliver, pending_deliver cfg topic frame mustDeliver sockets subs]
    simp only [deliverOne]
    split_ifs <;> rfl

theorem byTopic_deliver (cfg : Config) (topic : Topic) (frame : Frame μ) (mustDeliver : Bool)
    (sockets : Uuid → Socket) : ∀ (subs : List Uuid) (r : Sys × List (Obs μ)),
      (deliver cfg topic subs frame mustDeliver sockets r).1.byTopic = r.1.byTopic
  | [], _ => rfl
  | id :: subs, r => by
    rw [deliver, List.foldl_cons, ← deliver, byTopic_deliver cfg topic frame mustDeliver sockets subs]
    simp only [deliverOne]
    split_ifs <;> rfl

theorem pending_tick (cfg : Config) (now : ℤ) (sockets : Topic → Uuid → Socket) (s : Sys) :
    (s.tick cfg now sockets : Sys × List (Obs μ)).1.pending = .empty := by
  have hfold : ∀ (batches : List (Topic × List Reading)) (r : Sys × List (Obs μ)),
      (batches.foldl (tickOne cfg now sockets) r).1.pending = r.1.pending := by
    intro batches
    induction batches with
    | nil => exact fun _ => rfl
    | cons batch batches ih =>
      intro r
      rw [List.foldl_cons, ih, tickOne]
      split
      · rfl
      · exact pending_deliver ..
  exact hfold _ _

theorem pending_subscribe (s : Sys) (id : Uuid) (wanted : List Topic) :
    (s.subscribe id wanted : Sys × List (Obs μ)).1.pending = s.pending := by
  have hfold : ∀ (tenantId : Uuid) (wanted : List Topic) (r : Sys × List Topic × List (Obs μ)),
      (wanted.foldl (subscribeOne id tenantId) r).1.pending = r.1.pending := by
    intro tenantId wanted
    induction wanted with
    | nil => exact fun _ => rfl
    | cons t wanted ih =>
      rintro ⟨s, denied, o⟩
      rw [List.foldl_cons, ih]
      simp only [subscribeOne]
      split_ifs
      · split <;> rfl
      · rfl
  unfold Sys.subscribe
  split
  · rfl
  · split
    · rfl
    · exact hfold _ _ _

theorem pending_unsubscribe (s : Sys) (id : Uuid) (unwanted : List Topic) :
    (s.unsubscribe id unwanted : Sys × List (Obs μ)).1.pending = s.pending := by
  have hfold : ∀ (unwanted : List Topic) (s : Sys),
      (unwanted.foldl (unsubscribeOne id) s).pending = s.pending := by
    intro unwanted
    induction unwanted with
    | nil => exact fun _ => rfl
    | cons t unwanted ih =>
      intro s
      rw [List.foldl_cons, ih, unsubscribeOne]
      split <;> rfl
  unfold Sys.unsubscribe
  split
  · rfl
  · exact hfold _ _

/-- Neither published nor ticked. -/
def Act.IsQuiet : Act μ → Prop
  | .publish _ _ => False
  | .tick _ _ => False
  | _ => True

theorem pending_step {cfg : Config} {s s' : Sys} {a : Act μ} {o : List (Obs μ)}
    (hs : step cfg s a = some (s', o)) (ha : a.IsQuiet) : s'.pending = s.pending := by
  cases a with
  | add id =>
    simp only [step] at hs
    split_ifs at hs
    cases hs
    rfl
  | authenticate id tenantId =>
    cases hs
    unfold Sys.authenticate
    split <;> rfl
  | remove id =>
    cases hs
    unfold Sys.remove
    split <;> rfl
  | subscribe id wanted =>
    have hpending := pending_subscribe (μ := μ) s id wanted
    rwa [Option.some.inj hs] at hpending
  | unsubscribe id unwanted =>
    have hpending := pending_unsubscribe (μ := μ) s id unwanted
    rwa [Option.some.inj hs] at hpending
  | publish sensor reading => exact ha.elim
  | send topic message mustDeliver sockets =>
    have hpending : (s.send cfg topic message mustDeliver sockets).1.pending = s.pending := by
      unfold Sys.send
      split
      · rfl
      · exact pending_deliver ..
    rwa [Option.some.inj hs] at hpending
  | tick now sockets => exact ha.elim
  | refresh owners =>
    cases hs
    rfl

theorem publishedSince_fan (t : Topic) (h : List (Seen μ)) (o : List (Obs μ)) :
    publishedSince t (h ++ o.map .fan) = publishedSince t h := by
  rw [publishedSince_append]
  induction o with
  | nil => rfl
  | cons x o ih => exact ih

/-- An action that publishes nothing and is no tick. -/
theorem Pending.quiet {s s' : Sys} {h : List (Seen μ)} (hP : Pending s h) (hpending : s'.pending = s.pending)
    (o : List (Obs μ)) : Pending s' (h ++ o.map .fan) := by
  intro t
  rw [hpending, hP t, publishedSince_fan]

/-! ## A tick -/

theorem publishedSince_serialise (t : Topic) (h : List (Seen μ)) (now : ℤ) (batch : Topic × List Reading) :
    publishedSince t (h ++ [serialise now batch]) = publishedSince t h := by
  rw [publishedSince_append]
  rfl

theorem publishedSince_ticked (t : Topic) (h : List (Seen μ)) : publishedSince t (h ++ [.ticked]) = [] := by
  rw [publishedSince_append]
  rfl

/-- One frame is read exactly when each of its values is finite. -/
theorem read_serialise_iff {h : List (Seen μ)} {batch : Topic × List Reading} (now : ℤ)
    (hbatch : publishedSince batch.1 h = batch.2) :
    Read h (serialise now batch) ↔ ∀ r ∈ batch.2, r.value.isFinite = true := by
  show decode _ = _ ↔ _
  rw [decode_batch, hbatch, ← List.all_eq_true]
  split_ifs with hall
  · exact iff_of_true rfl hall
  · exact iff_of_false nofun hall

theorem each_serialise_iff (now : ℤ) : ∀ {batches : List (Topic × List Reading)} {h : List (Seen μ)},
    (∀ batch ∈ batches, publishedSince batch.1 h = batch.2) →
    (Each (fun h₁ x => Read (h ++ h₁) x) (batches.map (serialise now)) ↔
      ∀ batch ∈ batches, ∀ r ∈ batch.2, r.value.isFinite = true)
  | [], _, _ => iff_of_true (each_nil _) nofun
  | batch :: batches, h, hbatches => by
    obtain ⟨hbatch, hrest⟩ := List.forall_mem_cons.mp hbatches
    have hrest' : ∀ b ∈ batches, publishedSince b.1 (h ++ [serialise now batch]) = b.2 := by
      intro b hb
      rw [publishedSince_serialise, hrest b hb]
    have htail := each_serialise_iff now hrest'
    simp only [List.append_assoc] at htail
    rw [List.map_cons, ← List.singleton_append, each_append, htail, each_singleton, List.append_nil,
      read_serialise_iff now hbatch, List.forall_mem_cons]

theorem heard_tick_iff {s : Sys} {h : List (Seen μ)} (hP : Pending s h) (hH : Heard h) (now : ℤ) (o : List (Obs μ)) :
    Heard (h ++ (s.batches.map (serialise now) ++ (o.map .fan ++ [.ticked]))) ↔
      ∀ batch ∈ s.batches, ∀ r ∈ batch.2, r.value.isFinite = true := by
  have hbatches : ∀ batch ∈ s.batches, publishedSince batch.1 h = batch.2 := by
    intro batch hbatch
    rw [← hP batch.1, mem_entries.mp (List.mem_of_mem_filter hbatch), Option.getD_some]
  have hsilent : Silent (o.map .fan ++ [.ticked] : List (Seen μ)) :=
    List.forall_mem_append.mpr ⟨silent_fan o, by simp⟩
  rw [← List.append_assoc, heard_append_iff_of_silent hsilent, Heard, each_append, each_serialise_iff now hbatches]
  exact and_iff_right hH

/-! ## Every run -/

theorem Pending.step {pipeline : PipelineConfig} {cfg : Config} {s s' : Sys} {h o : List (Seen μ)}
    {e : Event sensors μ} (hP : Pending s h) (hs : broadcast pipeline cfg s e = some (s', o)) :
    Pending s' (h ++ o) := by
  cases e with
  | receive registry tenantId batch now =>
    have hfold := pending_foldl_publishOne (ingestRaw pipeline registry tenantId batch now).2
      (r := (s, ([] : List (Seen μ)))) (h := h) (by rwa [List.append_nil])
    rwa [Option.some.inj hs] at hfold
  | fan a =>
    obtain ⟨⟨s₁, o₁⟩, hstep, heq⟩ := Option.map_eq_some_iff.mp hs
    obtain ⟨rfl, rfl⟩ := Prod.mk.inj heq
    cases a with
    | publish sensor reading =>
      cases hstep
      exact pending_publish hP sensor reading
    | tick now sockets =>
      intro t
      have hpending : s₁.pending = .empty := by
        rw [← pending_tick (μ := μ) cfg now sockets s]
        exact congrArg (fun r => r.1.pending) (Option.some.inj hstep).symm
      rw [hpending, seenOf, ← List.append_assoc, ← List.append_assoc, publishedSince_ticked]
      rfl
    | _ => exact hP.quiet (pending_step hstep trivial) o₁

/-- **Frames.**  All along a run every frame that is serialised is read by the client as the readings published for
its topic since the tick before, exactly when no tick serialises a value that is not finite. -/
theorem heard_iff (pipeline : PipelineConfig) (cfg : Config) (owners : Owners) (es : List (Event sensors μ)) :
    (broadcasting sensors μ pipeline cfg).Along (fun _ h => Heard h) (.init owners) [] es ↔
      (broadcasting sensors μ pipeline cfg).Meets (fun s _ e => Finite s e) (.init owners) [] es := by
  refine along_iff_meets (I := Pending) (fun hP hs => hP.step hs) ?_ ?_ (fun _ => rfl) (each_nil _)
  · intro s h e s' o hP hH hs
    cases e with
    | receive registry tenantId batch now =>
      have hsilent := silent_foldl_publishOne (μ := μ) (ingestRaw pipeline registry tenantId batch now).2
        (r := (s, [])) nofun
      rw [Option.some.inj hs] at hsilent
      exact iff_of_true ((heard_append_iff_of_silent hsilent).mpr hH) trivial
    | fan a =>
      obtain ⟨⟨s₁, o₁⟩, hstep, heq⟩ := Option.map_eq_some_iff.mp hs
      obtain ⟨rfl, rfl⟩ := Prod.mk.inj heq
      cases a with
      | publish sensor reading =>
        exact iff_of_true ((heard_append_iff_of_silent (silent_queued _ _)).mpr hH) trivial
      | tick now sockets => exact heard_tick_iff hP hH now o₁
      | _ => exact iff_of_true ((heard_append_iff_of_silent (silent_fan _)).mpr hH) trivial
  · intro s h e _ hnone
    cases e with
    | receive registry tenantId batch now => trivial
    | fan a =>
      cases a with
      | tick now sockets => exact absurd hnone nofun
      | _ => trivial

/-! ## A value that no double holds -/

/-- A point of building 7. -/
def sitePoint : RegisteredSensor some where
  id := 1
  tenantId := 1
  metric := .temperatureC
  equipmentId := none
  zoneId := none
  floorId := none
  buildingId := some 7
  minPlausible := none
  maxPlausible := none
  owned := rfl

/-- What `1e999` is read as, and a value beside it. -/
def oversized : RawTelemetryBatch :=
  ⟨[⟨"p", some 0, .infinite false, none, by decide, nofun⟩, ⟨"p", some 1, 20, none, by decide, nofun⟩],
    by decide, by decide⟩

def siteReading (ts : ℤ) (value : JsNumber) (quality : Quality) : Reading := ⟨1, ts, value, quality⟩

def building7 : Topic := ⟨.building, 7⟩

def siteOwners : Owners := fun id => if id = 7 then some 1 else none

/-- A dashboard listens to the building, and both readings come in one batch. -/
def oversizedRun : List (Event some Unit) :=
  [.fan (.add 3), .fan (.authenticate 3 1), .fan (.subscribe 3 [building7]),
    .receive (fun _ _ => some sitePoint) 1 oversized 1000, .fan (.tick 2000 fun _ _ => ⟨true, 0⟩)]

def roomyPipeline : PipelineConfig := ⟨⟨100, 100, by decide, by decide⟩, 60000, by decide⟩

theorem oversizedRun_frames :
    ((broadcasting some Unit roomyPipeline ⟨1000000, 10⟩).exec (.init siteOwners) oversizedRun).map Prod.snd =
      some [.fan (.granted 3 1 building7 siteOwners), .fan (.subscribed 3 [building7] []),
        .queued building7 (siteReading 0 (.infinite false) .deviceFault), .queued building7 (siteReading 1 20 .good),
        serialise 2000 (building7, [siteReading 0 (.infinite false) .deviceFault, siteReading 1 20 .good]),
        .fan (.sent 3 (some 1) building7
          (.batch building7 [siteReading 0 (.infinite false) .deviceFault, siteReading 1 20 .good] 2000)),
        .ticked] := by
  rfl

/-- The infinity is accepted, flagged and published; the client reads nothing of the frame, and so misses the finite
reading beside it. -/
theorem oversized_drops_frame : ∃ s h,
    (broadcasting some Unit roomyPipeline ⟨1000000, 10⟩).exec (.init siteOwners) oversizedRun = some (s, h) ∧
      .queued building7 (siteReading 1 20 .good) ∈ h ∧
      (∃ text, .serialised building7 text ∈ h ∧ decode text = none) ∧ ¬ Heard h := by
  obtain ⟨⟨s, h⟩, he, hh⟩ := Option.map_eq_some_iff.mp oversizedRun_frames
  obtain rfl : h = _ := hh
  have hnone : decode (batchMessage building7 [siteReading 0 (.infinite false) .deviceFault, siteReading 1 20 .good]
      2000).stringify = none := by
    rw [decode_batch]
    rfl
  refine ⟨s, _, he, by simp, ⟨_, by simp [serialise], hnone⟩, fun hH => ?_⟩
  have hread := hH (_ :: _ :: _ :: [_]) _ _ rfl
  rw [serialise, Read, hnone] at hread
  exact absurd hread nofun

/-! ## What the sockets get -/

end DTwin.Fanout
