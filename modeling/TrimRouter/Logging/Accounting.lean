import TrimRouter.Logging.System

/-!
# Every line exactly once

Every line that a process has logged is either in the log files, or in the buffer of PID 1 that is
written to the log file when it is opened, or on its way through the pipe of its worker: exactly
once, unchanged, and in the order of its process.  `accounted_iff_lossless` says in which runs.
-/

namespace TrimRouter.Logging

open Str

namespace System

/-- The handle of the log file of PID 1, if it is open. -/
def initFile (s : System) : Option Nat := s.init.logger.bind Logger.logFile

/-- The lines that PID 1 will write when it opens the log file. -/
def buffered (s : System) : List Entry :=
  match s.initFile with
  | some _ => []
  | none => s.init.ring.items

/-- The lines that have reached the log files or wait for them in PID 1. -/
def kept (s : System) : List Entry := s.disk.persisted ++ s.buffered

/-- The lines of the process that PID 1 has not read. -/
def piped (s : System) : Origin → List Entry
  | .init => []
  | .worker id => (s.workers id).stdout.map fun e => { e with text := e.text ++ ['\n'] }

end System

/-- The lines of a process. -/
def linesOf (p : Origin) (entries : List Entry) : List Entry :=
  entries.filter fun e => e.origin = p

theorem linesOf_append {p : Origin} {xs ys : List Entry} :
    linesOf p (xs ++ ys) = linesOf p xs ++ linesOf p ys := List.filter_append ..

theorem linesOf_singleton {p : Origin} {e : Entry} :
    linesOf p [e] = if e.origin = p then [e] else [] := by
  simp [linesOf, List.filter_cons]

namespace System

/-- The lines of every process are kept or piped, each once and in their order. -/
def Accounted (s : System) : Prop :=
  ∀ p, linesOf p s.kept ++ s.piped p = linesOf p s.emitted

/-- PID 1 writes the line without a rotation, or it has room for it in its buffer. -/
def Keeps (s : System) (logger : Logger) (text : Text) (now : DateTime) : Prop :=
  if logger.logFile.isSome then logger.triggered text now = false
  else s.init.ring.items.length < maxRingBufferLines
deriving Decidable

/-- PID 1 keeps a line of its own, if its logger lets it through. -/
def KeepsOwn (s : System) (level : Level) (text : Text) (env : Env) : Prop :=
  let (logger, s) := s.getInitLogger env
  level.within logger.level = true → s.Keeps logger text env.now
deriving Decidable

/-- PID 1 keeps a line that it reads from the pipe, and the line has no blanks at its end. -/
def KeepsPiped (s : System) (id : Nat) (env : Env) : Prop :=
  ∀ line ∈ (s.workers id).stdout.head?, trimEnd line.text = line.text ∧
    let (logger, s) := s.getInitLogger env
    s.Keeps logger (line.text ++ ['\n']) env.now
deriving Decidable

/-- A worker logs a single line and has not opened the log file. -/
def PipesOnly (s : System) (id : Nat) (level : Level) (target message : Text) (env : Env) : Prop :=
  level.within (s.workers id).process.maxLevel = true →
    ((s.workers id).process.getLogger env s.disk).1.logFile = none ∧
      OneLine (recordBody env.stamp level (cleanTarget target) message)
deriving Decidable

/-- The step neither loses a line nor writes one twice. -/
def Lossless (s : System) : Label → Prop
  | .mount => True
  | .openLogFile _ => True
  | .initLogging _ => True
  | .log .init level target message env =>
    level.within s.init.maxLevel = true →
      s.KeepsOwn level (formatLogLine env.stamp level (cleanTarget target) message) env
  | .log (.worker id) level target message env => s.PipesOnly id level target message env
  | .kmsg record env => ∀ line ∈ kmsgLine record env, s.KeepsOwn line.1 line.2 env
  | .relay id env => s.KeepsPiped id env

instance (s : System) : ∀ l, Decidable (s.Lossless l) := by
  intro l
  unfold Lossless
  split <;> infer_instance

/-! ## Opening and writing -/

/-- All lines are in the log file of PID 1, which is `system.log`, or there are none. -/
def Placed (s : System) : Prop :=
  match s.initFile with
  | some file => s.disk.logDir = true ∧ s.disk.activeFile = some file ∧ s.disk.Only file
  | none => ∀ f ∈ s.disk.files, f.lines = []

variable {config : LoggingConfig} {s t : System} {logger : Logger} {env : Env} {e : Entry}
  {file : Nat}

theorem placed_some (attached : s.initFile = some file) :
    s.Placed ↔ s.disk.logDir = true ∧ s.disk.activeFile = some file ∧ s.disk.Only file := by
  unfold Placed
  rw [attached]

theorem placed_none (detached : s.initFile = none) :
    s.Placed ↔ ∀ f ∈ s.disk.files, f.lines = [] := by
  unfold Placed
  rw [detached]

theorem kept_some (attached : s.initFile = some file) : s.kept = s.disk.persisted := by
  unfold kept buffered
  rw [attached, List.append_nil]

theorem kept_none (detached : s.initFile = none) (placed : s.Placed) :
    s.kept = s.init.ring.items := by
  unfold kept buffered
  rw [detached, Disk.persisted_of_blank ((placed_none detached).mp placed), List.nil_append]

theorem openInitLogFile_cases (env : Env) (same : logger.logFile = s.initFile)
    (active : ∀ file, s.initFile = some file →
      s.disk.logDir = true ∧ s.disk.activeFile = some file) :
    (∃ file, s.initFile = some file ∧ (s.openInitLogFile logger env).initFile = some file ∧
        (s.openInitLogFile logger env).disk = s.disk) ∨
      (s.initFile = none ∧ (s.openInitLogFile logger env).initFile = none ∧
        (s.openInitLogFile logger env).disk = s.disk) ∨
      (s.initFile = none ∧ s.disk.logDir = true ∧
        (s.openInitLogFile logger env).initFile = some s.disk.openActive.1 ∧
        (s.openInitLogFile logger env).disk =
          s.disk.openActive.2.appendAll s.disk.openActive.1 s.init.ring.items) := by
  cases attached : s.initFile with
  | some file =>
    obtain ⟨dir, active⟩ := active file attached
    obtain ⟨handle, disk⟩ := Logger.openLogFile_attached s.init.ring.items env.total dir
      (same.trans attached) active
    exact .inl ⟨file, rfl, handle, disk⟩
  | none =>
    cases dir : s.disk.logDir with
    | false =>
      have closed := Logger.openLogFile_closed logger s.init.ring.items env.total dir
      exact .inr (.inl ⟨rfl, by simp [openInitLogFile, closed, initFile],
        by simp [openInitLogFile, closed]⟩)
    | true =>
      obtain ⟨handle, disk⟩ := Logger.openLogFile_detached s.init.ring.items env.total dir
        (same.trans attached)
      exact .inr (.inr ⟨rfl, rfl, handle, disk⟩)

theorem Placed.active (placed : s.Placed) (file : Nat) (attached : s.initFile = some file) :
    s.disk.logDir = true ∧ s.disk.activeFile = some file := by
  obtain ⟨dir, active, -⟩ := (placed_some attached).mp placed
  exact ⟨dir, active⟩

/-- Opening the log file moves the lines of the buffer into it. -/
theorem openInitLogFile_kept (placed : s.Placed) (same : logger.logFile = s.initFile) :
    (s.openInitLogFile logger env).Placed ∧ (s.openInitLogFile logger env).kept = s.kept := by
  rcases openInitLogFile_cases env same placed.active with
    ⟨file, attached, opened, untouched⟩ | ⟨attached, opened, untouched⟩ |
    ⟨attached, dir, opened, flushed⟩
  · rw [placed_some opened, kept_some opened, kept_some attached, untouched]
    exact ⟨(placed_some attached).mp placed, rfl⟩
  · have still : (s.openInitLogFile logger env).Placed := by
      rw [placed_none opened, untouched]
      exact (placed_none attached).mp placed
    exact ⟨still, by rw [kept_none opened still, kept_none attached placed]; rfl⟩
  · have blank := Disk.blank_openActive ((placed_none attached).mp placed)
    have only := Disk.only_of_blank blank Disk.activeFile_openActive
    rw [placed_some opened, kept_some opened, kept_none attached placed, flushed,
      only.appendAll.2, Disk.persisted_of_blank blank, Disk.Grows.appendAll.logDir,
      Disk.Grows.openActive.logDir, Disk.activeFile_appendAll]
    exact ⟨⟨dir, Disk.activeFile_openActive, only.appendAll.1⟩, rfl⟩

theorem getInitLogger_cases (s : System) (env : Env) :
    (s.init.logger = some (s.getInitLogger env).1 ∧ (s.getInitLogger env).2 = s) ∨
      (s.init.logger = none ∧
        (s.getInitLogger env).2 = s.openInitLogFile (.new env.created) env) := by
  cases has : s.init.logger with
  | some logger =>
    have got : s.init.getLogger env s.disk = (logger, s.disk) := by
      unfold Process.getLogger
      rw [has]
    refine .inl ⟨by simp [getInitLogger, got], ?_⟩
    simp only [getInitLogger, got, ← has]
  | none =>
    have got : s.init.getLogger env s.disk =
        (Logger.new env.created).openLogFile s.init.ring.items env.total s.disk := by
      unfold Process.getLogger
      rw [has]
    exact .inr ⟨rfl, by simp only [getInitLogger, got, openInitLogFile]⟩

theorem logger_getInitLogger :
    (s.getInitLogger env).2.init.logger = some (s.getInitLogger env).1 := rfl

/-- The logger of PID 1 writes. -/
def Enabled (s : System) : Prop :=
  ∀ logger, s.init.logger = some logger → logger.logDisabled = false

theorem Enabled.openInitLogFile (enabled : logger.logDisabled = false) :
    (s.openInitLogFile logger env).Enabled := by
  intro opened same
  cases same
  exact Logger.logDisabled_openLogFile enabled

theorem Enabled.getInitLogger (enabled : s.Enabled) : (s.getInitLogger env).2.Enabled := by
  rcases getInitLogger_cases s env with ⟨-, same⟩ | ⟨-, created⟩
  · rwa [same]
  · rw [created]
    exact .openInitLogFile rfl

theorem getInitLogger_kept (placed : s.Placed) :
    (s.getInitLogger env).2.Placed ∧ (s.getInitLogger env).2.kept = s.kept := by
  rcases getInitLogger_cases s env with ⟨-, same⟩ | ⟨missing, created⟩
  · rw [same]
    exact ⟨placed, rfl⟩
  · rw [created]
    exact openInitLogFile_kept placed (by simp [initFile, missing, Logger.new])

theorem initWrite_detached (detached : logger.logFile = none) :
    s.initWrite logger e env =
      { s with
        init := { s.init with logger := some logger, ring := s.init.ring.pushEvict e } } := by
  simp [initWrite, Process.writeEntry, Logger.writeEntry_closed detached]

theorem initWrite_quiet (enabled : logger.logDisabled = false)
    (attached : logger.logFile = some file)
    (quiet : logger.triggered e.text env.now = false) :
    s.initWrite logger e env =
      { s with
        disk := s.disk.append file e
        init := { s.init with
          logger := some { logger with
            currentSize := saturate (logger.currentSize + byteLength e.text) }
          ring := s.init.ring.pushEvict e } } := by
  simp [initWrite, Process.writeEntry, Logger.writeEntry, Logger.writeLine_open enabled attached,
    attached, enabled, quiet]

theorem initWrite_buffered (placed : s.Placed) (has : s.init.logger = some logger)
    (detached : logger.logFile = none) :
    (s.initWrite logger e env).Placed ∧ s.kept = s.init.ring.items ∧
      (s.initWrite logger e env).kept = (s.init.ring.pushEvict e).items := by
  have before : s.initFile = none := by simp [initFile, has, detached]
  have after : (s.initWrite logger e env).initFile = none := by
    rw [initWrite_detached detached]
    simp [initFile, detached]
  have blank : (s.initWrite logger e env).Placed := by
    rw [placed_none after, initWrite_detached detached]
    exact (placed_none before).mp placed
  refine ⟨blank, kept_none before placed, ?_⟩
  rw [kept_none after blank, initWrite_detached detached]

theorem initWrite_kept (placed : s.Placed) (has : s.init.logger = some logger)
    (enabled : s.Enabled) (keeps : s.Keeps logger e.text env.now) :
    (s.initWrite logger e env).Placed ∧ (s.initWrite logger e env).kept = s.kept ++ [e] ∧
      (s.initWrite logger e env).Enabled := by
  have enabled := enabled logger has
  cases attached : logger.logFile with
  | none =>
    have room : s.init.ring.items.length < maxRingBufferLines := by
      simpa [Keeps, attached] using keeps
    obtain ⟨blank, before, after⟩ := initWrite_buffered (e := e) placed has attached
    refine ⟨blank, by rw [after, before, Fifo.items_pushEvict_of_lt room], ?_⟩
    rw [initWrite_detached attached]
    intro same equal
    cases equal
    exact enabled
  | some file =>
    have before : s.initFile = some file := by simp [initFile, has, attached]
    obtain ⟨dir, active, only⟩ := (placed_some before).mp placed
    have quiet : logger.triggered e.text env.now = false := by
      simpa [Keeps, attached] using keeps
    have after : (s.initWrite logger e env).initFile = some file := by
      rw [initWrite_quiet enabled attached quiet]
      simp [initFile, attached]
    rw [placed_some after, kept_some after, kept_some before,
      initWrite_quiet enabled attached quiet]
    refine ⟨⟨dir, Disk.activeFile_append.trans active, only.append⟩, only.persisted_append, ?_⟩
    intro same equal
    cases equal
    exact enabled

/-- A rotation loses the line or leaves it twice. -/
theorem initWrite_rotated (dir : s.disk.logDir = true) (enabled : logger.logDisabled = false)
    (attached : logger.logFile = some file)
    (triggered : logger.triggered e.text env.now = true) :
    (s.initWrite logger e env).kept ⊆ s.disk.persisted ∨
      ∃ front, (s.initWrite logger e env).kept = front ++ [e, e] := by
  have written := Logger.writeEntry_triggered (s.init.ring.pushEvict e).items s.disk enabled
    attached triggered
  rcases Logger.rotate_cases logger (s.init.ring.pushEvict e).items env s.disk with
    ⟨stopped, subset⟩ | ⟨fresh, renamed, detached, missing, sameDir, rotated⟩
  · left
    have after : (s.initWrite logger e env).initFile = some file := by
      simp [initWrite, Process.writeEntry, written, stopped, Logger.writeLine, initFile, attached]
    rw [kept_some after]
    simp only [initWrite, Process.writeEntry, written, stopped, Logger.writeLine, if_true]
    exact subset
  · right
    obtain ⟨front, -, ring⟩ := s.init.ring.exists_items_pushEvict e
    obtain ⟨⟨handle, -⟩, -, lines⟩ := Logger.writeLine_openLogFile
      (s.init.ring.pushEvict e).items env.total e (sameDir.trans dir) detached missing
    rw [rotated] at written
    have after : (s.initWrite logger e env).initFile = some renamed.files.length := by
      simp only [initWrite, Process.writeEntry, written, initFile, Option.bind_some]
      exact handle
    refine ⟨renamed.persisted ++ front, ?_⟩
    rw [kept_some after]
    simp only [initWrite, Process.writeEntry, written]
    rw [lines, ring]
    simp

theorem keeps_of_linesOf (e₀ : Entry) (placed : s.Placed) (has : s.init.logger = some logger)
    (enabled : s.Enabled) (origin : e₀.origin = e.origin)
    (added : ∀ p, linesOf p (s.initWrite logger e env).kept = linesOf p (s.kept ++ [e₀]))
    (distinct : ((linesOf e.origin (s.kept ++ [e₀])).map Entry.id).Nodup) :
    s.Keeps logger e.text env.now ∧ e = e₀ := by
  have own : linesOf e.origin (s.kept ++ [e₀]) = linesOf e.origin s.kept ++ [e₀] := by
    rw [linesOf_append, linesOf_singleton, if_pos origin]
  have keeps : s.Keeps logger e.text env.now := by
    unfold Keeps
    split
    · rename_i attached
      obtain ⟨file, attached⟩ := Option.isSome_iff_exists.mp attached
      have before : s.initFile = some file := by simp [initFile, has, attached]
      obtain ⟨dir, -, -⟩ := (placed_some before).mp placed
      by_contra triggered
      rw [Bool.not_eq_false] at triggered
      rcases initWrite_rotated dir (enabled logger has) attached triggered with
        lost | ⟨front, twice⟩
      · -- the line is among the new lines, so it must have been there before
        have member : e₀ ∈ linesOf e.origin (s.initWrite logger e env).kept := by
          rw [added, own]
          exact List.mem_append_right _ (List.mem_singleton_self _)
        have old : e₀ ∈ s.kept := by
          rw [kept_some before]
          exact lost (List.mem_of_mem_filter member)
        have again : e₀ ∈ linesOf e.origin s.kept :=
          List.mem_filter.mpr ⟨old, decide_eq_true origin⟩
        rw [own, List.map_append] at distinct
        exact List.disjoint_of_nodup_append distinct (List.mem_map_of_mem again)
          (List.mem_singleton_self _)
      · rw [← added, twice, linesOf_append] at distinct
        have pair : linesOf e.origin [e, e] = [e, e] := by simp [linesOf]
        rw [pair, List.map_append] at distinct
        have twins := (List.nodup_append.mp distinct).2.1
        simp at twins
    · rename_i detached
      have detached : logger.logFile = none := by simpa using detached
      obtain ⟨-, before, after⟩ := initWrite_buffered (e := e) placed has detached
      by_contra full
      rw [Nat.not_lt] at full
      cases ring : s.init.ring.items with
      | nil =>
        rw [ring] at full
        exact absurd full (by decide)
      | cons first rest =>
        -- the first line of the buffer is lost
        have lines := congrArg List.length (added first.origin)
        rw [after, before, Fifo.items_pushEvict_of_le full, ring, List.tail_cons,
          linesOf_append, linesOf_append, linesOf_singleton, linesOf_singleton, origin] at lines
        simp only [linesOf, List.filter_cons, decide_true, if_true, List.length_append,
          List.length_cons] at lines
        split at lines <;> simp at lines
  refine ⟨keeps, ?_⟩
  have same := added e.origin
  rw [(initWrite_kept placed has enabled keeps).2.1, own, linesOf_append, linesOf_singleton,
    if_pos rfl, List.append_cancel_left_eq, List.singleton_inj] at same
  exact same

/-! ## Lossless runs -/

/-- What lossless steps keep. -/
structure Inv (config : LoggingConfig) (s : System) : Prop where
  base : Base config s
  accounted : s.Accounted
  placed : s.Placed
  enabled : s.Enabled
  stamped : ∀ id, ∀ line ∈ (s.workers id).stdout, Stamped line.text
  unopened : ∀ id logger, (s.workers id).process.logger = some logger → logger.logFile = none

namespace Inv

variable {level : Level} {text : Text} {id : Nat}

theorem boot {logDir : Bool} {old : List (Option FileName × Nat)} :
    Inv config (.boot logDir old) where
  base := .boot
  accounted := by
    have detached : (System.boot logDir old).initFile = none := rfl
    have blank : (System.boot logDir old).Placed := by
      rw [placed_none detached]
      intro f member
      obtain ⟨-, -, rfl⟩ := List.mem_map.mp member
      rfl
    intro p
    rw [kept_none detached blank]
    cases p <;> rfl
  placed := by
    intro f member
    obtain ⟨-, -, rfl⟩ := List.mem_map.mp member
    rfl
  enabled := nofun
  stamped := nofun
  unopened := nofun

/-- A line of PID 1 is added on both sides. -/
theorem accounted_concat (accounted : s.Accounted) (own : e.origin = .init) (p : Origin) :
    linesOf p (s.kept ++ [e]) ++ s.piped p = linesOf p (s.emitted ++ [e]) := by
  rw [linesOf_append, linesOf_append, ← accounted p, linesOf_singleton, own]
  cases p with
  | init => simp [piped]
  | worker id => simp

theorem getInitLogger (inv : Inv config s) : Inv config (s.getInitLogger env).2 where
  base := inv.base.getInitLogger
  accounted := by
    intro p
    rw [(getInitLogger_kept inv.placed).2]
    exact inv.accounted p
  placed := (getInitLogger_kept inv.placed).1
  enabled := inv.enabled.getInitLogger
  stamped := inv.stamped
  unopened := inv.unopened

theorem openInitLogFile (inv : Inv config s) (env : Env) (opened : Logger)
    (has : s.init.logger = some logger) (same : opened.logFile = logger.logFile)
    (enabled : opened.logDisabled = logger.logDisabled) :
    (s.openInitLogFile opened env).Accounted ∧ (s.openInitLogFile opened env).Placed ∧
      (s.openInitLogFile opened env).Enabled := by
  have file : opened.logFile = s.initFile := by simp [same, initFile, has]
  obtain ⟨placed, kept⟩ : (s.openInitLogFile opened env).Placed ∧
      (s.openInitLogFile opened env).kept = s.kept := openInitLogFile_kept inv.placed file
  refine ⟨?_, placed, .openInitLogFile (enabled.trans (inv.enabled logger has))⟩
  intro p
  rw [kept]
  exact inv.accounted p

theorem initLog (inv : Inv config s) (keeps : s.KeepsOwn level text env) :
    Inv config ((s.initLog level text env).record .init level) := by
  have base : Base config ((s.initLog level text env).record .init level) := inv.base.initLog
  have ready : Inv config (s.getInitLogger env).2 := inv.getInitLogger
  revert base
  rw [initLog_eq]
  split
  · rename_i within
    intro base
    obtain ⟨placed, kept, enabled⟩ := initWrite_kept
      (e := ⟨s.made.length, .init, text⟩) ready.placed logger_getInitLogger ready.enabled
      (keeps within)
    refine ⟨base, ?_, placed, enabled, inv.stamped, inv.unopened⟩
    intro p
    have lines := accounted_concat (e := ⟨s.made.length, .init, text⟩) ready.accounted rfl p
    rw [← kept] at lines
    exact lines
  · intro base
    exact ⟨base, ready.accounted, ready.placed, ready.enabled, inv.stamped, inv.unopened⟩

theorem logInit (inv : Inv config s) {target message : Text}
    (lossless : s.Lossless (.log .init level target message env)) :
    Inv config ((s.logInit level target message env).record .init level) := by
  unfold System.logInit
  split
  · rename_i within
    exact inv.initLog (lossless within)
  · exact { inv with base := inv.base.record }

theorem kmsg (inv : Inv config s) {record : Text} (lossless : s.Lossless (.kmsg record env)) :
    Inv config (s.kmsg record env) := by
  unfold System.kmsg
  split
  · exact inv
  · rename_i level text line
    exact inv.initLog (lossless (level, text) line)

/-- A worker that cannot open the log file leaves the partition alone. -/
theorem disk_getLogger {p : Process} {disk : Disk}
    (closed : (p.getLogger env disk).1.logFile = none) : (p.getLogger env disk).2 = disk := by
  unfold Process.getLogger at closed ⊢
  cases has : p.logger with
  | some logger => rfl
  | none =>
    rw [has] at closed
    dsimp only at closed ⊢
    cases dir : disk.logDir with
    | false => rw [Logger.openLogFile_closed _ _ _ dir]
    | true =>
      rw [(Logger.openLogFile_detached _ _ dir rfl).1] at closed
      cases closed

theorem accounted_update {worker : Worker} {emitted : List Entry} (accounted : s.Accounted)
    (others : ∀ p, p ≠ .worker id → linesOf p emitted = linesOf p s.emitted)
    (this : linesOf (.worker id) s.kept ++
        worker.stdout.map (fun e => { e with text := e.text ++ ['\n'] }) =
      linesOf (.worker id) emitted) :
    Accounted { s with workers := Function.update s.workers id worker, emitted } := by
  intro p
  by_cases same : p = .worker id
  · subst same
    simpa [piped, kept, buffered, initFile] using this
  · have before := accounted p
    rw [← others p same] at before
    cases p with
    | init => exact before
    | worker other =>
      have differ : other ≠ id := fun equal => same (by rw [equal])
      simpa [piped, kept, buffered, initFile, differ] using before

theorem accounted_worker_iff {process : Process} {body : Text} (accounted : s.Accounted) :
    Accounted { s with
      workers := Function.update s.workers id
        ⟨process, (s.workers id).stdout ++
          (lines (body ++ ['\n'])).map fun line => ⟨s.made.length, .worker id, line⟩⟩
      emitted := s.emitted ++ [⟨s.made.length, .worker id, body ++ ['\n']⟩] } ↔
      OneLine body := by
  have before := accounted (.worker id)
  rw [← lines_concat_iff]
  constructor
  · intro after
    have this := after (.worker id)
    simp only [piped, kept, buffered, initFile, Function.update_self, List.map_append,
      linesOf_append, linesOf_singleton, if_true] at this before
    rw [← before, ← List.append_assoc, List.append_cancel_left_eq, List.map_map] at this
    obtain ⟨line, single, same⟩ := List.map_eq_singleton_iff.mp this
    simp only [Function.comp_apply, Entry.mk.injEq, true_and, List.append_cancel_right_eq] at same
    rw [single, same]
  · intro single
    refine accounted_update accounted ?_ ?_
    · intro p other
      rw [linesOf_append, linesOf_singleton, if_neg (Ne.symm other), List.append_nil]
    · rw [single, linesOf_append, linesOf_singleton, if_pos rfl, ← before, List.map_append,
        ← List.append_assoc]
      rfl

theorem level_worker (inv : Inv config s) :
    ((s.workers id).process.getLogger env s.disk).1.level = (s.workers id).process.maxLevel := by
  have worker := (inv.base.workers id).level
  exact worker.getLogger.trans worker.1.symm

theorem workerLog_closed (inv : Inv config s)
    (within : level.within (s.workers id).process.maxLevel = true)
    (closed : ((s.workers id).process.getLogger env s.disk).1.logFile = none) :
    s.workerLog id level text env =
      { s with
        workers := Function.update s.workers id
          ⟨((s.workers id).process.writeEntry ((s.workers id).process.getLogger env s.disk).1 false
              ⟨s.made.length, .worker id, text⟩ env s.disk).1,
            (s.workers id).stdout ++
              (lines text).map fun line => ⟨s.made.length, .worker id, line⟩⟩
        emitted := s.emitted ++ [⟨s.made.length, .worker id, text⟩] } := by
  rw [workerLog_eq]
  dsimp only
  rw [inv.level_worker, if_pos within, disk_getLogger closed]
  simp [Process.writeEntry, Logger.writeEntry_closed closed]

theorem logWorker (inv : Inv config s) {target message : Text}
    (pipes : s.PipesOnly id level target message env) :
    Inv config ((s.logWorker id level target message env).record (.worker id) level) := by
  have base : Base config ((s.logWorker id level target message env).record (.worker id) level) :=
    inv.base.logWorker
  revert base
  unfold System.logWorker
  split
  · rename_i within
    obtain ⟨closed, oneLine⟩ := pipes within
    rw [inv.workerLog_closed within closed, formatLogLine_eq]
    intro base
    refine ⟨base, (accounted_worker_iff inv.accounted).mpr oneLine, inv.placed, inv.enabled,
      ?_, ?_⟩
    · refine (Function.forall_update_iff s.workers
        fun _ worker => ∀ line ∈ worker.stdout, Stamped line.text).mpr
        ⟨?_, fun other _ => inv.stamped other⟩
      rw [lines_concat_iff.mpr oneLine]
      exact List.forall_mem_append.mpr
        ⟨inv.stamped id, List.forall_mem_singleton.mpr (stamped_recordBody ..)⟩
    · refine (Function.forall_update_iff s.workers fun _ worker =>
        ∀ logger, worker.process.logger = some logger → logger.logFile = none).mpr
        ⟨?_, fun other _ => inv.unopened other⟩
      intro logger has
      simp only [Process.writeEntry, Logger.writeEntry_closed closed, Option.some.injEq] at has
      rw [← has]
      exact closed
  · intro base
    exact { inv with base }

/-- A line with its time stamp is logged again without the blanks at its end. -/
theorem relay_eq (inv : Inv config s) {line : Entry} {rest : List Entry}
    (stdout : (s.workers id).stdout = line :: rest) :
    s.relay id env = some (((s.readLine id rest).getInitLogger env).2.initWrite
      ((s.readLine id rest).getInitLogger env).1
      { line with text := trimEnd line.text ++ ['\n'] } env) := by
  have stamped := inv.stamped id line (by rw [stdout]; exact List.mem_cons_self ..)
  unfold System.relay
  rw [stdout]
  dsimp only
  rw [formatRawLine_stamped stamped]

theorem piped_readLine (inv : Inv config s) {line : Entry} {rest : List Entry}
    (stdout : (s.workers id).stdout = line :: rest) (p : Origin) :
    s.piped p =
      linesOf p [{ line with text := line.text ++ ['\n'] }] ++ (s.readLine id rest).piped p := by
  have origin := (inv.base.workers id).printed line (by rw [stdout]; exact List.mem_cons_self ..)
  rw [linesOf_singleton, origin]
  cases p with
  | init => rfl
  | worker other =>
    by_cases same : other = id
    · subst same
      simp [piped, readLine, stdout, origin]
    · have differ : Origin.worker id ≠ .worker other := fun equal => same (by cases equal; rfl)
      simp [piped, readLine, same, differ]

theorem ready_readLine (inv : Inv config s) {rest : List Entry} :
    (((s.readLine id rest).getInitLogger env).2.Placed ∧
      ((s.readLine id rest).getInitLogger env).2.kept = s.kept) ∧
      ((s.readLine id rest).getInitLogger env).2.Enabled :=
  ⟨@getInitLogger_kept (s.readLine id rest) env inv.placed,
    @Enabled.getInitLogger (s.readLine id rest) env inv.enabled⟩

theorem relay (inv : Inv config s) (keeps : s.KeepsPiped id env)
    (h : s.relay id env = some t) : Inv config t := by
  have base := inv.base.relay h
  cases stdout : (s.workers id).stdout with
  | nil =>
    unfold System.relay at h
    rw [stdout] at h
    cases h
  | cons line rest =>
    obtain ⟨solid, room⟩ := keeps line (by rw [stdout]; rfl)
    rw [inv.relay_eq stdout, solid] at h
    cases h
    obtain ⟨⟨ready, readyKept⟩, readyEnabled⟩ := @ready_readLine _ _ env id inv rest
    obtain ⟨placed, kept, enabled⟩ := initWrite_kept
      (e := { line with text := line.text ++ ['\n'] }) ready logger_getInitLogger readyEnabled room
    refine ⟨base, ?_, placed, enabled, ?_, ?_⟩
    · intro p
      rw [kept, readyKept, linesOf_append, List.append_assoc]
      have before := inv.accounted p
      rw [inv.piped_readLine stdout] at before
      exact before
    · refine (Function.forall_update_iff s.workers
        fun _ worker => ∀ line ∈ worker.stdout, Stamped line.text).mpr
        ⟨?_, fun other _ => inv.stamped other⟩
      intro later member
      exact inv.stamped id later (by rw [stdout]; exact List.mem_cons_of_mem _ member)
    · exact (Function.forall_update_iff s.workers fun _ worker =>
        ∀ logger, worker.process.logger = some logger → logger.logFile = none).mpr
        ⟨inv.unopened id, fun other _ => inv.unopened other⟩

theorem keep : Run.Inductive (step config) Lossless (Inv config) := by
  intro s l t inv lossless h
  have base := Base.keep s l t inv.base trivial h
  cases l with
  | mount =>
    obtain ⟨closed, h⟩ := Option.ite_none_left_eq_some.mp h
    cases h
    have detached : s.initFile = none := by
      cases attached : s.initFile with
      | none => rfl
      | some file => exact absurd ((placed_some attached).mp inv.placed).1 closed
    refine { inv with base, placed := ?_ }
    exact (placed_none (s := { s with disk.logDir := true }) detached).mpr
      ((placed_none detached).mp inv.placed)
  | openLogFile env =>
    cases h
    obtain ⟨accounted, placed, enabled⟩ := inv.getInitLogger.openInitLogFile env
      (s.getInitLogger env).1 logger_getInitLogger rfl rfl
    exact ⟨base, accounted, placed, enabled, inv.stamped, inv.unopened⟩
  | initLogging env =>
    cases h
    obtain ⟨accounted, placed, enabled⟩ := inv.getInitLogger.openInitLogFile env
      { (s.getInitLogger env).1 with
        maxSizeBytes := saturate (config.maxLogSizeMb * bytesPerMb)
        level := config.level } logger_getInitLogger rfl rfl
    exact ⟨base, accounted, placed, enabled, inv.stamped, inv.unopened⟩
  | log origin level target message env =>
    cases origin with
    | init =>
      cases h
      exact inv.logInit lossless
    | worker id =>
      cases h
      exact inv.logWorker lossless
  | kmsg record env =>
    cases h
    exact inv.kmsg lossless
  | relay id env => exact inv.relay lossless h

/-! ## Only lossless runs -/

theorem nodup_emitted (base : Base config s) (p : Origin) :
    ((linesOf p s.emitted).map Entry.id).Nodup := by
  refine List.pairwise_map.mpr ?_
  exact (base.ordered.filter _).imp fun lower => Nat.ne_of_lt lower

theorem nodup_kept (base : Base config s) (accounted : s.Accounted) (p : Origin) :
    ((linesOf p s.kept).map Entry.id).Nodup := by
  have all := nodup_emitted base p
  rw [← accounted p, List.map_append] at all
  exact (List.nodup_append.mp all).1

theorem exact_initLog (inv : Inv config s)
    (accounted : ((s.initLog level text env).record .init level).Accounted) :
    s.KeepsOwn level text env := by
  intro (within : level.within (s.getInitLogger env).1.level = true)
  have ready : Inv config (s.getInitLogger env).2 := inv.getInitLogger
  have base : Base config ((s.initLog level text env).record .init level) := inv.base.initLog
  rw [initLog_eq, if_pos within] at base accounted
  have added : ∀ p, linesOf p ((s.getInitLogger env).2.initWrite (s.getInitLogger env).1
      ⟨s.made.length, .init, text⟩ env).kept =
        linesOf p ((s.getInitLogger env).2.kept ++ [⟨s.made.length, .init, text⟩]) := by
    intro p
    have before := accounted_concat (e := ⟨s.made.length, .init, text⟩) ready.accounted rfl p
    exact List.append_cancel_right ((accounted p).trans before.symm)
  have distinct := nodup_kept base accounted .init
  exact (keeps_of_linesOf ⟨s.made.length, .init, text⟩ ready.placed logger_getInitLogger
    ready.enabled rfl added (by rw [← added]; exact distinct)).1

theorem exact_relay (inv : Inv config s) (h : s.relay id env = some t)
    (accounted : t.Accounted) : s.KeepsPiped id env := by
  have base := inv.base.relay h
  intro line head
  obtain ⟨rest, stdout⟩ : ∃ rest, (s.workers id).stdout = line :: rest := by
    cases stdout : (s.workers id).stdout with
    | nil =>
      rw [stdout] at head
      cases head
    | cons first rest =>
      rw [stdout] at head
      cases head
      exact ⟨rest, rfl⟩
  rw [inv.relay_eq stdout] at h
  cases h
  obtain ⟨⟨ready, readyKept⟩, readyEnabled⟩ := @ready_readLine _ _ env id inv rest
  have added : ∀ p, linesOf p (((s.readLine id rest).getInitLogger env).2.initWrite
      ((s.readLine id rest).getInitLogger env).1
      { line with text := trimEnd line.text ++ ['\n'] } env).kept =
        linesOf p (((s.readLine id rest).getInitLogger env).2.kept ++
          [{ line with text := line.text ++ ['\n'] }]) := by
    intro p
    have before := inv.accounted p
    rw [inv.piped_readLine stdout, ← List.append_assoc, ← linesOf_append, ← readyKept] at before
    exact List.append_cancel_right ((accounted p).trans before.symm)
  have distinct := nodup_kept base accounted line.origin
  obtain ⟨keeps, same⟩ := keeps_of_linesOf
    (e := { line with text := trimEnd line.text ++ ['\n'] })
    { line with text := line.text ++ ['\n'] } ready logger_getInitLogger readyEnabled rfl added
    (by rw [← added]; exact distinct)
  have solid : trimEnd line.text = line.text :=
    List.append_cancel_right (congrArg Entry.text same)
  refine ⟨solid, ?_⟩
  rw [solid] at keeps
  exact keeps

/-- A worker that writes to the log file itself adds its line there. -/
theorem persisted_openActive_append (placed : s.Placed) :
    (s.disk.openActive.2.append s.disk.openActive.1 e).persisted = s.disk.persisted ++ [e] := by
  cases attached : s.initFile with
  | some file =>
    obtain ⟨-, active, only⟩ := (placed_some attached).mp placed
    rw [Disk.openActive_of_some active]
    exact only.persisted_append
  | none =>
    have blank := (placed_none attached).mp placed
    have opened := Disk.blank_openActive blank
    rw [(Disk.only_of_blank opened Disk.activeFile_openActive).persisted_append,
      Disk.persisted_of_blank opened, Disk.persisted_of_blank blank]

section

variable (within : level.within (s.workers id).process.maxLevel = true)

include within

theorem kept_workerLog_opened (inv : Inv config s) (missing : (s.workers id).process.logger = none)
    (dir : s.disk.logDir = true) :
    (s.workerLog id level text env).kept =
      s.disk.persisted ++ [⟨s.made.length, .worker id, text⟩] ++ s.buffered := by
  have fresh := (inv.base.workers id).fresh
  have got : (s.workers id).process.getLogger env s.disk =
      (Logger.new env.created).openLogFile [] env.total s.disk := by
    unfold Process.getLogger
    rw [missing, fresh missing]
  have detached : (Logger.new env.created).logFile = none := rfl
  obtain ⟨handle, flushed⟩ := Logger.openLogFile_detached [] env.total dir detached
  have enabled : ((Logger.new env.created).openLogFile [] env.total s.disk).1.logDisabled =
      false := Logger.logDisabled_openLogFile rfl
  rw [workerLog_eq]
  dsimp only
  rw [inv.level_worker, if_pos within, got]
  simp only [kept, Process.writeEntry, Logger.writeEntry, handle, enabled, flushed,
    Logger.writeLine_open enabled handle, Bool.false_and, Option.isNone_some, Bool.or_false,
    Bool.false_eq_true, if_false]
  rw [Disk.appendAll, List.foldl_nil, persisted_openActive_append inv.placed]
  rfl

theorem workerLog_printed (inv : Inv config s) :
    (s.workerLog id level text env).emitted = s.emitted ++ [⟨s.made.length, .worker id, text⟩] ∧
      ((s.workerLog id level text env).workers id).stdout =
        (s.workers id).stdout ++
          (lines text).map fun line => ⟨s.made.length, .worker id, line⟩ := by
  rw [workerLog_eq]
  dsimp only
  rw [inv.level_worker, if_pos within]
  simp

/-- The line is in the log file and in the pipe then. -/
theorem not_accounted_opened (inv : Inv config s) (missing : (s.workers id).process.logger = none)
    (dir : s.disk.logDir = true) {body : Text} :
    ¬ (s.workerLog id level (body ++ ['\n']) env).Accounted := by
  intro accounted
  have printed := List.length_pos_iff.mpr (segments_ne_nil body)
  have before := congrArg List.length (inv.accounted (.worker id))
  have after := congrArg List.length (accounted (.worker id))
  rw [inv.kept_workerLog_opened within missing dir, piped, (inv.workerLog_printed within).1,
    (inv.workerLog_printed within).2] at after
  simp only [kept, piped, linesOf_append, linesOf_singleton, if_true, List.length_append,
    List.length_map, List.length_singleton, lines] at before after
  omega

end

theorem exact_logWorker (inv : Inv config s) {target message : Text}
    (accounted : ((s.logWorker id level target message env).record (.worker id) level).Accounted) :
    s.PipesOnly id level target message env := by
  intro within
  rw [System.logWorker, if_pos within, formatLogLine_eq] at accounted
  have closed : ((s.workers id).process.getLogger env s.disk).1.logFile = none := by
    cases has : (s.workers id).process.logger with
    | some logger =>
      unfold Process.getLogger
      rw [has]
      exact inv.unopened id logger has
    | none =>
      cases dir : s.disk.logDir with
      | false =>
        unfold Process.getLogger
        rw [has]
        dsimp only
        rw [Logger.openLogFile_closed _ _ _ dir]
      | true =>
        exact absurd accounted (inv.not_accounted_opened within has dir)
  refine ⟨closed, ?_⟩
  rw [inv.workerLog_closed within closed] at accounted
  exact (accounted_worker_iff inv.accounted).mp accounted

theorem exact (inv : Inv config s) {l : Label} (h : s.step config l = some t)
    (accounted : t.Accounted) : s.Lossless l := by
  cases l with
  | mount | openLogFile | initLogging => trivial
  | log origin level target message env =>
    cases origin with
    | init =>
      intro within
      cases h
      rw [System.logInit, if_pos within] at accounted
      exact inv.exact_initLog accounted
    | worker id =>
      cases h
      exact inv.exact_logWorker accounted
  | kmsg record env =>
    intro (level, text) line
    cases h
    rw [System.kmsg, Option.mem_def.mp line] at accounted
    exact inv.exact_initLog accounted
  | relay id env => exact inv.exact_relay h accounted

end Inv

end System

/-- In every run, with any files on the log partition, any sequence of log calls in PID 1 and in
workers, kernel records and relayed lines, any points at which the partition is mounted and opened,
and any times and amounts of free space: every line is accounted for exactly once in every state if
and only if every step is lossless. -/
theorem accounted_iff_lossless {config : LoggingConfig} {logDir : Bool}
    {old : List (Option FileName × Nat)} {labels : List Label} {s : System}
    (run : Run.exec (System.step config) (.boot logDir old) labels = some s) :
    (∀ done t, done <+: labels → Run.exec (System.step config) (.boot logDir old) done = some t →
      t.Accounted) ↔
      Run.Meets (System.step config) System.Lossless (.boot logDir old) labels :=
  Run.prefixes_iff_meets_of (fun _ inv => inv.accounted) System.Inv.keep
    (fun _ _ _ inv taken accounted => inv.exact taken accounted) .boot run

/-- A log call on that day of August 2026, with 1 GiB of free space. -/
def onDay (day : Nat) : Env where
  created := ⟨2026, 8, day, 14, 30, 0, by decide⟩
  stamp := ⟨2026, 8, day, 14, 30, 0, by decide⟩
  now := ⟨2026, 8, day, 14, 30, 0, by decide⟩
  total := some (2 ^ 31)
  free := fun _ => some (2 ^ 30)

/-- PID 1 logs a message. -/
def initLogs (level : Level) (message : String) (env : Env) : Label :=
  .log .init level "trimrouter::init".toList message.toList env

/-- Worker 0 logs a message. -/
def workerLogs (level : Level) (message : String) (env : Env) : Label :=
  .log (.worker 0) level "trimrouter::services::utils".toList message.toList env

/-- A worker starts before the log partition is mounted. -/
def earlyWorker : List Label :=
  [initLogs .info "Starting trimrouter" (onDay 14), workerLogs .info "Starting" (onDay 14),
    .mount, .openLogFile (onDay 14), .initLogging (onDay 14), .relay 0 (onDay 14),
    .kmsg "6,339,5140900,-;eth0: Link is Up\n".toList (onDay 14),
    workerLogs .warn "No answer" (onDay 14), .relay 0 (onDay 14)]

theorem accounted_iff_lossless_early :
    Run.Meets (System.step ⟨100, .info⟩) System.Lossless (.boot false []) earlyWorker ∧
      ∃ s, Run.exec (System.step ⟨100, .info⟩) (.boot false []) earlyWorker = some s ∧
        s.disk.persisted.map Entry.id = [0, 1, 2, 3] ∧ s.Accounted := by
  have lossless : Run.Meets (System.step ⟨100, .info⟩) System.Lossless (.boot false [])
      earlyWorker := by
    decide +kernel
  obtain ⟨s, run, ids⟩ : ∃ s, Run.exec (System.step ⟨100, .info⟩) (.boot false []) earlyWorker =
      some s ∧ s.disk.persisted.map Entry.id = [0, 1, 2, 3] := by
    decide +kernel
  exact ⟨lossless, s, run, ids,
    (accounted_iff_lossless run).mpr lossless earlyWorker s List.prefix_rfl run⟩

/-- A line of PID 1, a line of a worker that PID 1 reads, and another line of PID 1 on the next
day. -/
def twoDays : List Label :=
  [.initLogging (onDay 14), initLogs .info "Services started" (onDay 14),
    workerLogs .info "Starting" (onDay 14), .relay 0 (onDay 14),
    initLogs .info "Still running" (onDay 15)]

/-- With the log partition mounted and enough space on it. -/
theorem logged_twice :
    ∃ s, Run.exec (System.step ⟨100, .info⟩) (.boot true []) twoDays = some s ∧
      s.emitted.map Entry.id = [0, 1, 2] ∧ (s.workers 0).stdout = [] ∧
      s.disk.persisted.map Entry.id = [0, 1, 1, 0, 1, 2, 2] ∧ ¬ s.Accounted := by
  obtain ⟨s, run, emitted, stdout, persisted, attached, written, own⟩ :
      ∃ s, Run.exec (System.step ⟨100, .info⟩) (.boot true []) twoDays = some s ∧
        s.emitted.map Entry.id = [0, 1, 2] ∧ (s.workers 0).stdout = [] ∧
        s.disk.persisted.map Entry.id = [0, 1, 1, 0, 1, 2, 2] ∧ s.initFile.isSome ∧
        (linesOf .init s.disk.persisted).length = 4 ∧ (linesOf .init s.emitted).length = 2 := by
    decide +kernel
  refine ⟨s, run, emitted, stdout, persisted, ?_⟩
  intro accounted
  obtain ⟨file, attached⟩ := Option.isSome_iff_exists.mp attached
  have lines := congrArg List.length (accounted .init)
  rw [System.kept_some attached, List.length_append, written, own] at lines
  simp only [System.piped, List.length_nil] at lines
  omega

end TrimRouter.Logging
