import Mathlib.Data.List.Basic
import Mathlib.Data.List.Nodup
import Mathlib.Order.Basic
import Mathlib.Data.Nat.Basic
import DTwin.Lib.Machine

/-!
# DTwin.Db.Migrate — any number of migrate processes on one database

A process reads the applied versions once and then walks the files in order.  A transactional file and its row in
`schema_migrations` are committed together, and the primary key of the registry lets one process do it; a
`@no-transaction` file is executed statement by statement and recorded after the last of them.
-/

namespace DTwin.Db

structure Migration where
  version : String
  checksum : String
  statements : List String
  noTransaction : Bool
  isDemoSeed : Bool

/-- The files in order; their names differ.  A statement is the position of its file and its index there: the database
on which these statements have taken effect, in this order, `refuses` that one or lets it take effect (it refuses a
second `CREATE` of one object; `DROP … IF EXISTS` takes effect each time). -/
structure Chain where
  files : List Migration
  distinct : (files.map (·.version)).Nodup
  refuses : List (ℕ × ℕ) → ℕ × ℕ → Bool

/-- A row of `schema_migrations`; `skipped` is the prefix of its checksum. -/
structure Row where
  version : String
  skipped : Bool
  checksum : String
  deriving DecidableEq

/-- What a process is doing with its file. -/
inductive Stage
  /-- The head of the loop of `main`. -/
  | loop
  /-- `recordSkipped`. -/
  | skipping
  /-- `BEGIN` and the statements of a transactional file are done. -/
  | executed
  /-- Its row is inserted; `COMMIT` is next. -/
  | inserted
  /-- `idx` statements of a `@no-transaction` file have been executed; the attempt at the next. -/
  | statement (idx attempt : ℕ)
  deriving DecidableEq

inductive Process
  | idle
  /-- With `DTWIN_SEED_DEMO`, the versions it has read, the position of its file, and what it does there. -/
  | working (seedDemo : Bool) (applied : List Row) (pos : ℕ) (stage : Stage)
  | ended
  deriving DecidableEq

structure World where
  registry : List Row
  /-- The statements that have taken effect on the database. -/
  done : List (ℕ × ℕ)
  processes : List Process
  deriving DecidableEq

/-- What moves, by the index of the process. -/
inductive Act
  /-- `appliedVersions()`. -/
  | start (p : ℕ) (seedDemo : Bool)
  /-- One turn of the loop, up to the first statement that writes. -/
  | next (p : ℕ)
  /-- The `INSERT` of `recordSkipped`, of a transaction, or after the last statement. -/
  | skip (p : ℕ)
  | insert (p : ℕ)
  | commit (p : ℕ)
  /-- The next statement of a `@no-transaction` file: it is refused or takes effect. -/
  | statement (p : ℕ)
  /-- A statement fails with a transient error, without effect. -/
  | retry (p : ℕ)
  | record (p : ℕ)
  /-- An error ends the process, or it is stopped; an open transaction is rolled back. -/
  | stop (p : ℕ)

/-- Process `p` made statement `idx` of the file at `pos` take effect. -/
structure Effect where
  process : ℕ
  pos : ℕ
  idx : ℕ
  deriving DecidableEq

def recorded (registry : List Row) (version : String) : Bool := registry.any (·.version = version)

namespace Migration

def appliedRow (m : Migration) : Row := { version := m.version, skipped := false, checksum := m.checksum }

def skippedRow (m : Migration) : Row := { version := m.version, skipped := true, checksum := m.checksum }

/-- What `main` does with a file it has not seen: skip a demo seed, or `applyOne`. -/
def firstStage (m : Migration) (seedDemo : Bool) : Stage :=
  if m.isDemoSeed && !seedDemo then .skipping else if m.noTransaction then .statement 0 1 else .executed

end Migration

/-- Is one of the first `n` statements of the file at `pos` refused, in its turn? -/
def Chain.refusesOneOf (c : Chain) (done : List (ℕ × ℕ)) (pos n : ℕ) : Bool :=
  (List.range n).any fun i => c.refuses (done ++ (List.range i).map (pos, ·)) (pos, i)

namespace World

variable (c : Chain) (w : World)

def put (p : ℕ) (pr : Process) : World := { w with processes := w.processes.set p pr }

/-- Has an open transaction inserted this version?  Another `INSERT` of it waits. -/
def locked (version : String) : Bool :=
  w.processes.any fun
    | .working _ _ pos .inserted => (c.files[pos]?).any (·.version = version)
    | _ => false

/-- An `INSERT INTO schema_migrations` outside a transaction: it waits, fails on the primary key and ends the process,
or takes effect, and the loop goes on. -/
def insertRow (p : ℕ) (seedDemo : Bool) (applied : List Row) (pos : ℕ) (row : Row) : Option (World × List Effect) :=
  if w.locked c row.version then none
  else if recorded w.registry row.version then some (w.put p .ended, [])
  else some (({ w with registry := w.registry ++ [row] } : World).put p (.working seedDemo applied (pos + 1) .loop), [])

def step : Act → Option (World × List Effect)
  | .start p seedDemo =>
    match w.processes[p]? with
    | some .idle => some (w.put p (.working seedDemo w.registry 0 .loop), [])
    | _ => none
  | .next p =>
    match w.processes[p]? with
    | some (.working seedDemo applied pos .loop) =>
      match c.files[pos]? with
      | none => some (w.put p .ended, [])
      | some m =>
        if recorded applied m.version then some (w.put p (.working seedDemo applied (pos + 1) .loop), [])
        -- a transaction whose statement is refused is rolled back
        else if m.firstStage seedDemo = .executed ∧ c.refusesOneOf w.done pos m.statements.length then
          some (w.put p .ended, [])
        else some (w.put p (.working seedDemo applied pos (m.firstStage seedDemo)), [])
    | _ => none
  | .skip p =>
    match w.processes[p]? with
    | some (.working seedDemo applied pos .skipping) =>
      (c.files[pos]?).bind fun m => w.insertRow c p seedDemo applied pos m.skippedRow
    | _ => none
  | .insert p =>
    match w.processes[p]? with
    | some (.working seedDemo applied pos .executed) =>
      (c.files[pos]?).bind fun m =>
        if w.locked c m.version then none
        else if recorded w.registry m.version then some (w.put p .ended, [])
        else some (w.put p (.working seedDemo applied pos .inserted), [])
    | _ => none
  | .commit p =>
    match w.processes[p]? with
    | some (.working seedDemo applied pos .inserted) =>
      (c.files[pos]?).map fun m =>
        (({ w with
            registry := w.registry ++ [m.appliedRow]
            done := w.done ++ (List.range m.statements.length).map (pos, ·) } : World).put p
          (.working seedDemo applied (pos + 1) .loop), (List.range m.statements.length).map fun i => ⟨p, pos, i⟩)
    | _ => none
  | .statement p =>
    match w.processes[p]? with
    | some (.working seedDemo applied pos (.statement idx _)) =>
      (c.files[pos]?).bind fun m =>
        if idx < m.statements.length then
          if c.refuses w.done (pos, idx) then
            -- refused later than at the first statement: the documented exception
            if idx = 0 then some (w.put p .ended, []) else none
          else
            some (({ w with done := w.done ++ [(pos, idx)] } : World).put p
              (.working seedDemo applied pos (.statement (idx + 1) 1)), [⟨p, pos, idx⟩])
        else none
    | _ => none
  | .retry p =>
    match w.processes[p]? with
    | some (.working seedDemo applied pos (.statement idx attempt)) =>
      if attempt < 4 then some (w.put p (.working seedDemo applied pos (.statement idx (attempt + 1))), [])
      else none
    | _ => none
  | .record p =>
    match w.processes[p]? with
    | some (.working seedDemo applied pos (.statement idx _)) =>
      (c.files[pos]?).bind fun m =>
        if idx = m.statements.length then w.insertRow c p seedDemo applied pos m.appliedRow else none
    | _ => none
  | .stop p =>
    match w.processes[p]? with
    -- part-way through a `@no-transaction` file: the documented exception
    | some (.working _ _ _ (.statement (_ + 1) _)) => none
    | some _ => some (w.put p .ended, [])
    | none => none

end World

/-- The processes on one database, in any order. -/
def migrate (c : Chain) : Machine World Act Effect where
  step w a := w.step c a

/-- `n` processes about to start on a new database. -/
def World.fresh (n : ℕ) : World := { registry := [], done := [], processes := List.replicate n .idle }

/-! ### What a step can do -/

/-- The statements that have taken effect, by file and index. -/
def effects (h : List Effect) : List (ℕ × ℕ) := h.map fun e => (e.pos, e.idx)

/-- A step of process `p`, from where it stands to where it stands then, with the new registry and what takes
effect. -/
inductive Moves (c : Chain) (w : World) (p : ℕ) : Act → Process → Process → List Row → List Effect → Prop
  | starts (d : Bool) : Moves c w p (.start p d) .idle (.working d w.registry 0 .loop) w.registry []
  | finishes {d : Bool} {applied : List Row} {pos : ℕ} (hm : c.files[pos]? = none) :
      Moves c w p (.next p) (.working d applied pos .loop) .ended w.registry []
  | passes {d : Bool} {applied : List Row} {pos : ℕ} {m : Migration} (hm : c.files[pos]? = some m)
      (hrec : recorded applied m.version = true) :
      Moves c w p (.next p) (.working d applied pos .loop) (.working d applied (pos + 1) .loop) w.registry []
  | chooses {d : Bool} {applied : List Row} {pos : ℕ} {m : Migration} (hm : c.files[pos]? = some m) :
      Moves c w p (.next p) (.working d applied pos .loop) (.working d applied pos (m.firstStage d)) w.registry []
  | conflicts {a : Act} {d : Bool} {applied : List Row} {pos : ℕ} {st : Stage} {m : Migration}
      (hm : c.files[pos]? = some m) (hrec : recorded w.registry m.version = true)
      (hst : (∃ k, st = .statement m.statements.length k ∧ a = .record p) ∨
        (∀ k j, st ≠ .statement k j) ∧ ∀ q, a ≠ .record q ∧ a ≠ .statement q) :
      Moves c w p a (.working d applied pos st) .ended w.registry []
  | skips {d : Bool} {applied : List Row} {pos : ℕ} {m : Migration} (hm : c.files[pos]? = some m)
      (hlock : w.locked c m.version = false) (hrec : recorded w.registry m.version = false) :
      Moves c w p (.skip p) (.working d applied pos .skipping) (.working d applied (pos + 1) .loop)
        (w.registry ++ [m.skippedRow]) []
  | inserts {d : Bool} {applied : List Row} {pos : ℕ} {m : Migration} (hm : c.files[pos]? = some m)
      (hlock : w.locked c m.version = false) (hrec : recorded w.registry m.version = false) :
      Moves c w p (.insert p) (.working d applied pos .executed) (.working d applied pos .inserted) w.registry []
  | commits {d : Bool} {applied : List Row} {pos : ℕ} {m : Migration} (hm : c.files[pos]? = some m) :
      Moves c w p (.commit p) (.working d applied pos .inserted) (.working d applied (pos + 1) .loop)
        (w.registry ++ [m.appliedRow]) ((List.range m.statements.length).map fun i => ⟨p, pos, i⟩)
  | rollsBack {d : Bool} {applied : List Row} {pos : ℕ} :
      Moves c w p (.next p) (.working d applied pos .loop) .ended w.registry []
  | refused {d : Bool} {applied : List Row} {pos k : ℕ} (href : c.refuses w.done (pos, 0) = true) :
      Moves c w p (.statement p) (.working d applied pos (.statement 0 k)) .ended w.registry []
  | executes {d : Bool} {applied : List Row} {pos idx k : ℕ} {m : Migration} (hm : c.files[pos]? = some m)
      (hlt : idx < m.statements.length) (href : c.refuses w.done (pos, idx) = false) :
      Moves c w p (.statement p) (.working d applied pos (.statement idx k))
        (.working d applied pos (.statement (idx + 1) 1)) w.registry [⟨p, pos, idx⟩]
  | retries {d : Bool} {applied : List Row} {pos idx k : ℕ} :
      Moves c w p (.retry p) (.working d applied pos (.statement idx k))
        (.working d applied pos (.statement idx (k + 1))) w.registry []
  | records {d : Bool} {applied : List Row} {pos k : ℕ} {m : Migration} (hm : c.files[pos]? = some m)
      (hlock : w.locked c m.version = false) (hrec : recorded w.registry m.version = false) :
      Moves c w p (.record p) (.working d applied pos (.statement m.statements.length k))
        (.working d applied (pos + 1) .loop) (w.registry ++ [m.appliedRow]) []
  | stops {pr : Process} (hpr : ∀ d applied pos idx k, pr ≠ .working d applied pos (.statement (idx + 1) k)) :
      Moves c w p (.stop p) pr .ended w.registry []

variable {c : Chain} {w w' : World} {o : List Effect}

theorem insertRow_cases {p pos : ℕ} {d : Bool} {applied : List Row} {row : Row}
    (hs : w.insertRow c p d applied pos row = some (w', o)) :
    o = [] ∧ ((recorded w.registry row.version = true ∧ w' = w.put p .ended) ∨
      (w.locked c row.version = false ∧ recorded w.registry row.version = false ∧
        w' = ({ w with registry := w.registry ++ [row] } : World).put p (.working d applied (pos + 1) .loop))) := by
  unfold World.insertRow at hs
  split at hs
  · cases hs
  rename_i hlock
  split at hs <;> rename_i hrec <;> simp only [Option.some.injEq, Prod.mk.injEq] at hs <;> obtain ⟨rfl, rfl⟩ := hs
  · exact ⟨rfl, .inl ⟨hrec, rfl⟩⟩
  · exact ⟨rfl, .inr ⟨Bool.eq_false_iff.mpr hlock, Bool.eq_false_iff.mpr hrec, rfl⟩⟩

theorem moves_of_step {a : Act} (hs : (migrate c).step w a = some (w', o)) :
    ∃ p pr pr', w.processes[p]? = some pr ∧ w'.processes = w.processes.set p pr' ∧
      w'.done = w.done ++ effects o ∧ Moves c w p a pr pr' w'.registry o := by
  cases a with
  | start p d =>
    simp only [migrate, World.step] at hs
    split at hs
    · rename_i hp
      obtain ⟨rfl, rfl⟩ : _ ∧ _ := by simpa using hs
      exact ⟨p, _, _, hp, rfl, by simp [World.put, effects], .starts d⟩
    · cases hs
  | next p =>
    simp only [migrate, World.step] at hs
    split at hs
    · rename_i d applied pos hp
      split at hs
      · rename_i hm
        obtain ⟨rfl, rfl⟩ : _ ∧ _ := by simpa using hs
        exact ⟨p, _, _, hp, rfl, by simp [World.put, effects], .finishes hm⟩
      · rename_i m hm
        split at hs
        · rename_i hrec
          obtain ⟨rfl, rfl⟩ : _ ∧ _ := by simpa using hs
          exact ⟨p, _, _, hp, rfl, by simp [World.put, effects], .passes hm hrec⟩
        · split at hs <;> obtain ⟨rfl, rfl⟩ : _ ∧ _ := by simpa using hs
          · exact ⟨p, _, _, hp, rfl, by simp [World.put, effects], .rollsBack⟩
          · exact ⟨p, _, _, hp, rfl, by simp [World.put, effects], .chooses hm⟩
    · cases hs
  | skip p =>
    simp only [migrate, World.step] at hs
    split at hs
    · rename_i d applied pos hp
      obtain ⟨m, hm, hs⟩ := Option.bind_eq_some_iff.mp hs
      obtain ⟨rfl, ⟨hrec, rfl⟩ | ⟨hlock, hrec, rfl⟩⟩ := insertRow_cases hs
      · exact ⟨p, _, _, hp, rfl, by simp [World.put, effects], .conflicts hm hrec (.inr ⟨by simp, by simp⟩)⟩
      · exact ⟨p, _, _, hp, rfl, by simp [World.put, effects], .skips hm hlock hrec⟩
    · cases hs
  | insert p =>
    simp only [migrate, World.step] at hs
    split at hs
    · rename_i d applied pos hp
      obtain ⟨m, hm, hs⟩ := Option.bind_eq_some_iff.mp hs
      split at hs
      · cases hs
      rename_i hlock
      split at hs
      · rename_i hrec
        obtain ⟨rfl, rfl⟩ : _ ∧ _ := by simpa using hs
        exact ⟨p, _, _, hp, rfl, by simp [World.put, effects], .conflicts hm hrec (.inr ⟨by simp, by simp⟩)⟩
      · rename_i hrec
        obtain ⟨rfl, rfl⟩ : _ ∧ _ := by simpa using hs
        exact ⟨p, _, _, hp, rfl, by simp [World.put, effects], .inserts hm (Bool.eq_false_iff.mpr hlock)
          (Bool.eq_false_iff.mpr hrec)⟩
    · cases hs
  | commit p =>
    simp only [migrate, World.step] at hs
    split at hs
    · rename_i d applied pos hp
      obtain ⟨m, hm, hs⟩ := Option.map_eq_some_iff.mp hs
      obtain ⟨rfl, rfl⟩ := Prod.mk.inj hs
      exact ⟨p, _, _, hp, rfl, by simp [World.put, effects], .commits hm⟩
    · cases hs
  | statement p =>
    simp only [migrate, World.step] at hs
    split at hs
    · rename_i d applied pos idx k hp
      obtain ⟨m, hm, hs⟩ := Option.bind_eq_some_iff.mp hs
      split at hs
      · rename_i hlt
        split at hs
        · rename_i href
          split at hs
          · rename_i hz
            obtain ⟨rfl, rfl⟩ : _ ∧ _ := by simpa using hs
            subst hz
            exact ⟨p, _, _, hp, rfl, by simp [World.put, effects], .refused href⟩
          · cases hs
        · rename_i href
          obtain ⟨rfl, rfl⟩ : _ ∧ _ := by simpa using hs
          exact ⟨p, _, _, hp, rfl, by simp [World.put, effects], .executes hm hlt (Bool.eq_false_iff.mpr href)⟩
      · cases hs
    · cases hs
  | retry p =>
    simp only [migrate, World.step] at hs
    split at hs
    · rename_i d applied pos idx k hp
      split at hs
      · obtain ⟨rfl, rfl⟩ : _ ∧ _ := by simpa using hs
        exact ⟨p, _, _, hp, rfl, by simp [World.put, effects], .retries⟩
      · cases hs
    · cases hs
  | record p =>
    simp only [migrate, World.step] at hs
    split at hs
    · rename_i d applied pos idx k hp
      obtain ⟨m, hm, hins⟩ := Option.bind_eq_some_iff.mp hs
      split at hins
      · rename_i hlen
        subst hlen
        obtain ⟨rfl, ⟨hrec, rfl⟩ | ⟨hlock, hrec, rfl⟩⟩ := insertRow_cases hins
        · exact ⟨p, _, _, hp, rfl, by simp [World.put, effects], .conflicts hm hrec (.inl ⟨k, rfl, rfl⟩)⟩
        · exact ⟨p, _, _, hp, rfl, by simp [World.put, effects], .records hm hlock hrec⟩
      · cases hins
    · cases hs
  | stop p =>
    simp only [migrate, World.step] at hs
    split at hs
    · cases hs
    · rename_i pr hne hp
      obtain ⟨rfl, rfl⟩ : _ ∧ _ := by simpa using hs
      exact ⟨p, _, _, hp, rfl, by simp [World.put, effects], .stops fun d applied pos idx k heq =>
        hne d applied pos idx k (by rw [← heq])⟩
    · cases hs

end DTwin.Db
