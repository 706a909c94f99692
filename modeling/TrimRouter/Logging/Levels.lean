import TrimRouter.Logging.Accounting

/-!
# The level of the log

Which log calls reach the log files.  PID 1 filters its own records and those of the kernel, and it
does so by the configured level as soon as it has read the configuration.  A worker never reads it
and filters by the default level, and PID 1 logs the lines of workers as they come.  The result is
`written_iff_level`.
-/

namespace TrimRouter.Logging

namespace System

/-- The level that decides about the log call. -/
def threshold (config : LoggingConfig) (r : Record) : LevelFilter :=
  if r.configured then config.level else .info

/-- The log call with that number is one of the process, whose logger lets it through. -/
def Passed (config : LoggingConfig) (made : List Record) (n : Nat) (origin : Origin) : Prop :=
  ∃ r, made[n]? = some r ∧ r.origin = origin ∧ r.level.within (threshold config r) = true

/-- PID 1 has room for a line: in its buffer, or on the partition with a name for the rotated file
that is not taken. -/
def Room (s : System) (logger : Logger) (text : Text) (env : Env) : Prop :=
  if logger.logFile.isSome then
    logger.triggered text env.now = true →
      ((env.free 0).all fun space => logger.maxSizeBytes ≤ space) = true ∧
      ((env.free 1).all fun space => min logger.maxSizeBytes minUsableLogSpace ≤ space) = true ∧
      ∀ f ∈ s.disk.files, f.name ≠ some (.rotated env.now.fileStamp)
  else s.init.ring.items.length < maxRingBufferLines
deriving Decidable

/-- There is room for a line of PID 1, if its logger lets it through. -/
def RoomOwn (s : System) (level : Level) (text : Text) (env : Env) : Prop :=
  let (logger, s) := s.getInitLogger env
  level.within logger.level = true → s.Room logger text env
deriving Decidable

/-- There is room for the line that PID 1 reads. -/
def RoomPiped (s : System) (id : Nat) (env : Env) : Prop :=
  ∀ line ∈ (s.workers id).stdout.head?, ∀ text ∈ formatRawLine env.stamp line.text,
    let (logger, s) := s.getInitLogger env
    s.Room logger text env
deriving Decidable

/-- The step finds room for the line that PID 1 writes. -/
def Roomy (s : System) : Label → Prop
  | .mount => True
  | .openLogFile _ => True
  | .initLogging _ => True
  | .log .init level target message env =>
    level.within s.init.maxLevel = true →
      s.RoomOwn level (formatLogLine env.stamp level (cleanTarget target) message) env
  | .log (.worker _) _ _ _ _ => True
  | .kmsg record env => ∀ line ∈ kmsgLine record env, s.RoomOwn line.1 line.2 env
  | .relay id env => s.RoomPiped id env

instance (s : System) : ∀ l, Decidable (s.Roomy l)
  | .mount | .openLogFile _ | .initLogging _ | .log (.worker _) .. => .isTrue trivial
  | .log .init .. => inferInstanceAs (Decidable (_ → _))
  | .kmsg record env => inferInstanceAs (Decidable (∀ line ∈ kmsgLine record env, _))
  | .relay id env => inferInstanceAs (Decidable (s.RoomPiped id env))

/-! ## Nothing is lost -/

/-- The log file of PID 1 is `system.log`, and its logger writes. -/
structure Ready (s : System) : Prop where
  enabled : s.Enabled
  active : ∀ file, s.initFile = some file →
    s.disk.logDir = true ∧ s.disk.activeFile = some file

variable {config : LoggingConfig} {s t : System} {logger : Logger} {env : Env} {e : Entry}
  {file : Nat}

theorem mem_kept : e ∈ s.kept ↔
    e ∈ s.disk.persisted ∨ s.initFile = none ∧ e ∈ s.init.ring.items := by
  unfold kept buffered
  cases s.initFile with
  | none => simp
  | some file => simp

theorem Ready.openInitLogFile (ready : s.Ready) (same : logger.logFile = s.initFile)
    (enabled : logger.logDisabled = false) :
    (s.openInitLogFile logger env).Ready ∧ s.kept ⊆ (s.openInitLogFile logger env).kept := by
  have writes : (s.openInitLogFile logger env).Enabled := .openInitLogFile enabled
  rcases openInitLogFile_cases env same ready.active with
    ⟨file, attached, opened, untouched⟩ | ⟨attached, opened, untouched⟩ |
    ⟨attached, dir, opened, flushed⟩
  · refine ⟨⟨writes, ?_⟩, ?_⟩
    · intro other equal
      cases opened.symm.trans equal
      rw [untouched]
      exact ready.active file attached
    · rw [kept_some attached, kept_some opened, untouched]
      exact fun _ member => member
  · refine ⟨⟨writes, ?_⟩, ?_⟩
    · intro other equal
      cases opened.symm.trans equal
    · intro a member
      rcases mem_kept.mp member with old | ⟨-, waiting⟩
      · exact mem_kept.mpr (.inl (by rwa [untouched]))
      · exact mem_kept.mpr (.inr ⟨opened, waiting⟩)
  · refine ⟨⟨writes, ?_⟩, ?_⟩
    · intro other equal
      cases opened.symm.trans equal
      rw [flushed, Disk.Grows.appendAll.logDir, Disk.Grows.openActive.logDir,
        Disk.activeFile_appendAll]
      exact ⟨dir, Disk.activeFile_openActive⟩
    · rw [kept_some opened, flushed]
      intro a member
      rcases mem_kept.mp member with before | ⟨-, waiting⟩
      · exact (Disk.Grows.openActive.trans .appendAll).persisted before
      · exact Disk.persisted_appendAll Disk.activeFile_openActive waiting

theorem Ready.getInitLogger (ready : s.Ready) :
    (s.getInitLogger env).2.Ready ∧ s.kept ⊆ (s.getInitLogger env).2.kept := by
  rcases getInitLogger_cases s env with ⟨-, same⟩ | ⟨missing, created⟩
  · rw [same]
    exact ⟨ready, fun _ member => member⟩
  · rw [created]
    exact ready.openInitLogFile (by simp [initFile, missing, Logger.new]) rfl

/-- With room on the partition a rotation opens a new log file and keeps all lines. -/
theorem rotate_roomy (ring : List Entry) {disk : Disk} (dir : disk.logDir = true)
    (space : ((env.free 0).all fun space => logger.maxSizeBytes ≤ space) = true)
    (usable : ((env.free 1).all fun space =>
      min logger.maxSizeBytes minUsableLogSpace ≤ space) = true)
    (unused : ∀ f ∈ disk.files, f.name ≠ some (.rotated env.now.fileStamp)) :
    ∃ (fresh : Logger) (renamed : Disk),
      fresh.logFile = none ∧ renamed.activeFile = none ∧ renamed.logDir = true ∧
        disk.persisted ⊆ renamed.persisted ∧
        logger.rotate ring env disk = fresh.openLogFile ring env.total renamed := by
  have enough : ((env.free 0).any fun space => space < logger.maxSizeBytes) = false := by
    cases free : env.free 0 with
    | none => rfl
    | some n =>
      simp only [free, Option.all_some, decide_eq_true_eq] at space
      simpa using space
  have writable : ((env.free 1).any fun space =>
      space < min logger.maxSizeBytes minUsableLogSpace) = false := by
    cases free : env.free 1 with
    | none => rfl
    | some n =>
      simp only [free, Option.all_some, decide_eq_true_eq] at usable
      exact decide_eq_false (Nat.not_lt.mpr usable)
  refine ⟨{ logger with logFile := none, lastRotationDate := env.now.date, currentSize := 0 },
    disk.renameActive env.now.fileStamp, rfl, Disk.activeFile_renameActive,
    Disk.logDir_renameActive.trans dir, Disk.persisted_renameActive unused, ?_⟩
  unfold Logger.rotate
  simp only [enough, writable, Bool.false_eq_true, if_false]

section

variable (has : s.init.logger = some logger)

include has

theorem Ready.initWrite_detached (ready : s.Ready) (detached : logger.logFile = none)
    (room : s.init.ring.items.length < maxRingBufferLines) :
    (s.initWrite logger e env).Ready ∧ s.kept ⊆ (s.initWrite logger e env).kept ∧
      e ∈ (s.initWrite logger e env).kept := by
  rw [System.initWrite_detached detached]
  generalize after : { s with init := { s.init with
    logger := some logger, ring := s.init.ring.pushEvict e } } = t
  have closed : t.initFile = none := by
    rw [← after]
    simp [initFile, detached]
  have disk : t.disk = s.disk := by rw [← after]
  have ring : t.init.ring.items = s.init.ring.items ++ [e] := by
    rw [← after]
    exact Fifo.items_pushEvict_of_lt room
  refine ⟨⟨?_, ?_⟩, ?_, ?_⟩
  · intro same equal
    rw [← after] at equal
    cases equal
    exact ready.enabled logger has
  · intro file equal
    cases closed.symm.trans equal
  · intro a member
    rcases mem_kept.mp member with old | ⟨-, waiting⟩
    · exact mem_kept.mpr (.inl (by rwa [disk]))
    · exact mem_kept.mpr (.inr ⟨closed, by rw [ring]; exact List.mem_append_left _ waiting⟩)
  · refine mem_kept.mpr (.inr ⟨closed, ?_⟩)
    rw [ring]
    exact List.mem_append_right _ (List.mem_singleton_self _)

theorem Ready.initWrite_quiet (ready : s.Ready) (attached : logger.logFile = some file)
    (quiet : logger.triggered e.text env.now = false) :
    (s.initWrite logger e env).Ready ∧ s.kept ⊆ (s.initWrite logger e env).kept ∧
      e ∈ (s.initWrite logger e env).kept := by
  have enabled := ready.enabled logger has
  have before : s.initFile = some file := by simp [initFile, has, attached]
  obtain ⟨dir, active⟩ := ready.active file before
  obtain ⟨f, found, named⟩ := Disk.getElem?_activeFile active
  have after : (s.initWrite logger e env).initFile = some file := by
    rw [System.initWrite_quiet enabled attached quiet]
    simp [initFile, attached]
  rw [kept_some before, kept_some after]
  rw [System.initWrite_quiet enabled attached quiet] at after ⊢
  refine ⟨⟨?_, ?_⟩, Disk.Grows.append.persisted,
    Disk.mem_persisted_append found (by rw [named]; rfl)⟩
  · intro same equal
    cases equal
    exact enabled
  · intro other equal
    cases after.symm.trans equal
    exact ⟨dir, Disk.activeFile_append.trans active⟩

theorem Ready.initWrite_rotated (ready : s.Ready) (attached : logger.logFile = some file)
    (triggered : logger.triggered e.text env.now = true)
    (space : ((env.free 0).all fun space => logger.maxSizeBytes ≤ space) = true)
    (usable : ((env.free 1).all fun space =>
      min logger.maxSizeBytes minUsableLogSpace ≤ space) = true)
    (unused : ∀ f ∈ s.disk.files, f.name ≠ some (.rotated env.now.fileStamp)) :
    (s.initWrite logger e env).Ready ∧ s.kept ⊆ (s.initWrite logger e env).kept ∧
      e ∈ (s.initWrite logger e env).kept := by
  have before : s.initFile = some file := by simp [initFile, has, attached]
  obtain ⟨dir, -⟩ := ready.active file before
  have written := Logger.writeEntry_triggered (s.init.ring.pushEvict e).items s.disk
    (ready.enabled logger has) attached triggered
  obtain ⟨fresh, renamed, detached, missing, newDir, subset, rotated⟩ :=
    rotate_roomy (s.init.ring.pushEvict e).items dir space usable unused
  obtain ⟨⟨handle, writes⟩, active, lines⟩ := Logger.writeLine_openLogFile
    (s.init.ring.pushEvict e).items env.total e newDir detached missing
  rw [rotated] at written
  have after : (s.initWrite logger e env).initFile = some renamed.files.length := by
    simp only [System.initWrite, Process.writeEntry, written, initFile, Option.bind_some]
    exact handle
  have disk : (s.initWrite logger e env).disk.persisted =
      renamed.persisted ++ (s.init.ring.pushEvict e).items ++ [e] := by
    simp only [System.initWrite, Process.writeEntry, written]
    exact lines
  rw [kept_some before, kept_some after, disk]
  refine ⟨⟨?_, ?_⟩, ?_, List.mem_append_right _ (List.mem_singleton_self _)⟩
  · intro same equal
    simp only [System.initWrite, Process.writeEntry, written, Option.some.injEq] at equal
    rw [← equal]
    exact writes
  · intro other equal
    cases after.symm.trans equal
    simp only [System.initWrite, Process.writeEntry, written]
    exact active
  · intro a member
    exact List.mem_append_left _ (List.mem_append_left _ (subset member))

/-- With room for it PID 1 keeps the line. -/
theorem Ready.initWrite (ready : s.Ready) (room : s.Room logger e.text env) :
    (s.initWrite logger e env).Ready ∧ s.kept ⊆ (s.initWrite logger e env).kept ∧
      e ∈ (s.initWrite logger e env).kept := by
  cases attached : logger.logFile with
  | none =>
    rw [Room, attached, Option.isSome_none, if_neg (by simp)] at room
    exact ready.initWrite_detached has attached room
  | some file =>
    rw [Room, attached, Option.isSome_some, if_pos rfl] at room
    cases triggered : logger.triggered e.text env.now with
    | false => exact ready.initWrite_quiet has attached triggered
    | true =>
      obtain ⟨space, usable, unused⟩ := room triggered
      exact ready.initWrite_rotated has attached triggered space usable unused

end

/-! ## What a worker does to the partition -/

theorem grows_getLogger {p : Process} {disk : Disk} : disk.Grows (p.getLogger env disk).2 := by
  unfold Process.getLogger
  split
  · exact .refl disk
  · exact Logger.grows_openLogFile

/-- A worker does not rotate. -/
theorem grows_writeEntry {disk : Disk} {ring : List Entry} :
    disk.Grows (logger.writeEntry false ring e env disk).2 := by
  unfold Logger.writeEntry
  split
  · exact .refl disk
  · rw [Bool.false_and, if_neg Bool.false_ne_true]
    exact Logger.grows_writeLine

/-- Another state of the partition and of the workers. -/
theorem Ready.grows (ready : s.Ready) {disk : Disk} (grows : s.disk.Grows disk)
    {workers : Nat → Worker} {emitted : List Entry} :
    Ready { s with disk, workers, emitted } ∧
      s.kept ⊆ System.kept { s with disk, workers, emitted } := by
  refine ⟨⟨ready.enabled, ?_⟩, ?_⟩
  · intro file attached
    obtain ⟨dir, active⟩ := ready.active file attached
    exact ⟨grows.logDir.trans dir, grows.activeFile active⟩
  · intro e member
    rcases mem_kept.mp member with old | waiting
    · exact mem_kept.mpr (.inl (grows.persisted old))
    · exact mem_kept.mpr (.inr waiting)

/-! ## Where the lines come from -/

/-- All lines in the files, in the buffers and in the pipes have the property. -/
structure Sourced (P : Entry → Prop) (s : System) : Prop where
  disk : s.disk.Holds P
  ring : ∀ e ∈ s.init.ring.items, P e
  workerRing : ∀ id, ∀ e ∈ (s.workers id).process.ring.items, P e
  stdout : ∀ id, ∀ e ∈ (s.workers id).stdout, P e

theorem forall_mem_pushEvict {P : Entry → Prop} {ring : RingBuffer} (old : ∀ e ∈ ring.items, P e)
    (new : P e) : ∀ a ∈ (ring.pushEvict e).items, P a := by
  obtain ⟨front, subset, items⟩ := ring.exists_items_pushEvict e
  rw [items]
  exact List.forall_mem_append.mpr
    ⟨fun a before => old a (subset before), List.forall_mem_singleton.mpr new⟩

theorem getLogger_holds {P : Entry → Prop} {p : Process} {disk : Disk} (holds : disk.Holds P)
    (ring : ∀ e ∈ p.ring.items, P e) : (p.getLogger env disk).2.Holds P := by
  unfold Process.getLogger
  split
  · exact holds
  · exact Logger.openLogFile_holds holds ring

namespace Sourced

variable {P Q : Entry → Prop} {id : Nat} {lvl : Level} {text : Text}

section

variable (sourced : s.Sourced P)

include sourced

theorem mono (weaker : ∀ e, P e → Q e) : s.Sourced Q where
  disk := fun f inside e written => weaker e (sourced.disk f inside e written)
  ring := fun e member => weaker e (sourced.ring e member)
  workerRing := fun id e member => weaker e (sourced.workerRing id e member)
  stdout := fun id e member => weaker e (sourced.stdout id e member)

theorem getInitLogger : (s.getInitLogger env).2.Sourced P :=
  { sourced with disk := getLogger_holds sourced.disk sourced.ring }

theorem openInitLogFile : (s.openInitLogFile logger env).Sourced P :=
  { sourced with disk := Logger.openLogFile_holds sourced.disk sourced.ring }

theorem initWrite (new : P e) : (s.initWrite logger e env).Sourced P :=
  { sourced with
    disk := Logger.writeEntry_holds sourced.disk (forall_mem_pushEvict sourced.ring new) new
    ring := forall_mem_pushEvict sourced.ring new }

/-- Another state of a worker and of the partition. -/
theorem withWorker {worker : Worker} {disk : Disk} {emitted : List Entry} (holds : disk.Holds P)
    (ring : ∀ e ∈ worker.process.ring.items, P e) (stdout : ∀ e ∈ worker.stdout, P e) :
    Sourced P { s with disk, workers := Function.update s.workers id worker, emitted } where
  disk := holds
  ring := sourced.ring
  workerRing := (Function.forall_update_iff s.workers
    fun _ worker => ∀ e ∈ worker.process.ring.items, P e).mpr
    ⟨ring, fun other _ => sourced.workerRing other⟩
  stdout := (Function.forall_update_iff s.workers fun _ worker => ∀ e ∈ worker.stdout, P e).mpr
    ⟨stdout, fun other _ => sourced.stdout other⟩

theorem workerLog (new : ∀ text, P ⟨s.made.length, .worker id, text⟩) :
    (s.workerLog id lvl text env).Sourced P := by
  have opened : ((s.workers id).process.getLogger env s.disk).2.Holds P :=
    getLogger_holds sourced.disk (sourced.workerRing id)
  rw [workerLog_eq]
  dsimp only
  split
  · refine sourced.withWorker ?_ ?_ ?_
    · exact Logger.writeEntry_holds opened
        (forall_mem_pushEvict (sourced.workerRing id) (new text)) (new text)
    · exact forall_mem_pushEvict (sourced.workerRing id) (new text)
    · exact List.forall_mem_append.mpr
        ⟨sourced.stdout id, List.forall_mem_map.mpr fun line _ => new line⟩
  · exact sourced.withWorker opened (sourced.workerRing id) (sourced.stdout id)

end

end Sourced

/-! ## All log calls -/

/-- The line is in the log files, in the buffer of PID 1 or in a pipe. -/
def Held (s : System) (e : Entry) : Prop := e ∈ s.kept ∨ ∃ id, e ∈ (s.workers id).stdout

/-- What steps with room keep: the lines are those of the log calls that were let through. -/
structure Tracked (config : LoggingConfig) (s : System) : Prop where
  base : Base config s
  ready : s.Ready
  sourced : s.Sourced fun e => Passed config s.made e.id e.origin
  complete : ∀ n origin, Passed config s.made n origin → ∃ e, s.Held e ∧ e.id = n

theorem passed_concat {made : List Record} {r : Record} {n : Nat} {origin : Origin} :
    Passed config (made ++ [r]) n origin ↔
      Passed config made n origin ∨
        n = made.length ∧ r.origin = origin ∧ r.level.within (threshold config r) = true := by
  unfold Passed
  by_cases last : n = made.length
  · subst last
    simp
  · rw [List.getElem?_append]
    split
    · simp [last]
    · rename_i beyond
      have past : 0 < n - made.length := by omega
      have missing : made[n]? = none := List.getElem?_eq_none (by omega)
      simp [missing, last, Nat.ne_of_gt past]

namespace Tracked

variable {lvl : Level} {text : Text} {id : Nat}

theorem boot {logDir : Bool} {old : List (Option FileName × Nat)} :
    Tracked config (.boot logDir old) where
  base := .boot
  ready := by
    refine ⟨?_, ?_⟩
    · exact nofun
    · exact nofun
  sourced := by
    refine ⟨?_, ?_, ?_, ?_⟩
    · intro f member e written
      obtain ⟨file, -, rfl⟩ := List.mem_map.mp member
      cases written
    · exact nofun
    · exact nofun
    · exact nofun
  complete := by
    intro n origin passed
    obtain ⟨r, made, -⟩ := passed
    cases made

/-- A log call after which nothing is missing, and its line is not missing if it is let through. -/
theorem record (tracked : Tracked config s) {origin : Origin}
    (base : Base config (t.record origin lvl)) (ready : t.Ready)
    (sourced : t.Sourced fun e => Passed config (t.record origin lvl).made e.id e.origin)
    (same : t.made = s.made) (held : ∀ e, s.Held e → t.Held e)
    (new : lvl.within (match origin with
      | .init => t.level config
      | .worker _ => .info) = true → ∃ e, t.Held e ∧ e.id = s.made.length) :
    Tracked config (t.record origin lvl) where
  base := base
  ready := ⟨ready.enabled, ready.active⟩
  sourced := ⟨sourced.disk, sourced.ring, sourced.workerRing, sourced.stdout⟩
  complete := by
    intro n process passed
    rcases passed_concat.mp passed with old | ⟨last, -, within⟩
    · rw [same] at old
      obtain ⟨e, inside, id⟩ := tracked.complete n process old
      exact ⟨e, held e inside, id⟩
    · rw [last, same]
      refine new ?_
      cases origin with
      | init | worker => exact within

theorem sourced_record (sourced : s.Sourced fun e => Passed config s.made e.id e.origin)
    {origin : Origin} :
    s.Sourced fun e => Passed config (s.record origin lvl).made e.id e.origin :=
  sourced.mono fun _ passed => passed_concat.mpr (.inl passed)

section

variable (tracked : Tracked config s)

include tracked

theorem initLog (room : s.RoomOwn lvl text env) :
    Tracked config ((s.initLog lvl text env).record .init lvl) := by
  have base : Base config ((s.initLog lvl text env).record .init lvl) := tracked.base.initLog
  have level : (s.getInitLogger env).1.level = s.level config :=
    tracked.base.level_getInitLogger
  obtain ⟨ready, subset⟩ : (s.getInitLogger env).2.Ready ∧
      s.kept ⊆ (s.getInitLogger env).2.kept := tracked.ready.getInitLogger
  have sourced : (s.getInitLogger env).2.Sourced fun e => Passed config s.made e.id e.origin :=
    tracked.sourced.getInitLogger
  revert base
  rw [initLog_eq, level]
  split
  · rename_i within
    intro base
    have allowed : lvl.within (s.getInitLogger env).1.level = true := by
      rw [level]
      exact within
    obtain ⟨writes, more, member⟩ := ready.initWrite
      (e := ⟨s.made.length, .init, text⟩) logger_getInitLogger (room allowed)
    have lines : ((s.getInitLogger env).2.initWrite (s.getInitLogger env).1
        ⟨s.made.length, .init, text⟩ env).Sourced fun e =>
          Passed config (s.made ++ [⟨.init, lvl, s.configured⟩]) e.id e.origin :=
      (sourced.mono fun _ passed => passed_concat.mpr (.inl passed)).initWrite
        (passed_concat.mpr (.inr ⟨rfl, rfl, within⟩))
    refine tracked.record base ⟨writes.enabled, writes.active⟩
      ⟨lines.disk, lines.ring, lines.workerRing, lines.stdout⟩ rfl ?_ ?_
    · intro e inside
      rcases inside with kept | piped
      · exact .inl (more (subset kept))
      · exact .inr piped
    · intro _
      exact ⟨_, .inl member, rfl⟩
  · rename_i below
    intro base
    refine tracked.record base ready (sourced_record sourced) rfl ?_ ?_
    · intro e inside
      rcases inside with kept | piped
      · exact .inl (subset kept)
      · exact .inr piped
    · intro within
      exact absurd within below

theorem logInit {target message : Text} (room : s.Roomy (.log .init lvl target message env)) :
    Tracked config ((s.logInit lvl target message env).record .init lvl) := by
  unfold System.logInit
  split
  · rename_i within
    exact tracked.initLog (room within)
  · rename_i below
    refine tracked.record tracked.base.record tracked.ready (sourced_record tracked.sourced) rfl
      (fun _ held => held) ?_
    intro within
    rw [tracked.base.initLevel.1] at below
    exact absurd within below

theorem kmsg {record : Text} (room : s.Roomy (.kmsg record env)) :
    Tracked config (s.kmsg record env) := by
  unfold System.kmsg
  split
  · exact tracked
  · rename_i level text line
    exact tracked.initLog (room (level, text) line)

theorem logWorker {target message : Text} :
    Tracked config ((s.logWorker id lvl target message env).record (.worker id) lvl) := by
  have base : Base config ((s.logWorker id lvl target message env).record (.worker id) lvl) :=
    tracked.base.logWorker
  have worker := (tracked.base.workers id).level
  revert base
  unfold System.logWorker
  rw [worker.1]
  split
  · rename_i within
    rw [formatLogLine_eq]
    generalize recordBody env.stamp lvl (cleanTarget target) message = body
    have level : ((s.workers id).process.getLogger env s.disk).1.level = .info :=
      worker.getLogger
    have sourced : (s.workerLog id lvl (body ++ ['\n']) env).Sourced fun e =>
        Passed config (s.made ++ [⟨.worker id, lvl, false⟩]) e.id e.origin :=
      (tracked.sourced.mono fun _ passed => passed_concat.mpr (.inl passed)).workerLog
        fun _ => passed_concat.mpr (.inr ⟨rfl, rfl, within⟩)
    revert sourced
    rw [workerLog_eq]
    dsimp only
    rw [level, if_pos within]
    intro sourced base
    obtain ⟨ready, subset⟩ := tracked.ready.grows (grows_getLogger.trans grows_writeEntry)
    refine tracked.record base ready sourced rfl ?_ ?_
    · intro e held
      rcases held with kept | ⟨other, printed⟩
      · exact .inl (subset kept)
      · refine .inr ⟨other, ?_⟩
        by_cases same : other = id
        · subst same
          simp [printed]
        · simpa [same] using printed
    · intro _
      have some_line : Str.lines (body ++ ['\n']) ≠ [] := by
        simpa [Str.lines] using segments_ne_nil body
      obtain ⟨line, printed⟩ := List.exists_mem_of_ne_nil _ some_line
      refine ⟨⟨s.made.length, .worker id, line⟩, .inr ⟨id, ?_⟩, rfl⟩
      simp [printed]
  · rename_i below
    intro base
    refine tracked.record base tracked.ready (sourced_record tracked.sourced) rfl
      (fun _ held => held) ?_
    intro within
    exact absurd within below

theorem relay (room : s.RoomPiped id env) (h : s.relay id env = some t) : Tracked config t := by
  have base := tracked.base.relay h
  unfold System.relay at h
  split at h
  · cases h
  · rename_i line rest stdout
    split at h
    · cases h
    · rename_i text format
      cases h
      have fits := room line (by rw [stdout]; rfl) text format
      have read : (s.readLine id rest).Ready := ⟨tracked.ready.enabled, tracked.ready.active⟩
      obtain ⟨ready, subset⟩ : ((s.readLine id rest).getInitLogger env).2.Ready ∧
          s.kept ⊆ ((s.readLine id rest).getInitLogger env).2.kept := read.getInitLogger
      obtain ⟨writes, more, member⟩ := ready.initWrite (e := { line with text })
        logger_getInitLogger fits
      have passed : Passed config s.made line.id line.origin :=
        tracked.sourced.stdout id line (by rw [stdout]; exact List.mem_cons_self ..)
      have sourced : (s.readLine id rest).Sourced fun e => Passed config s.made e.id e.origin := by
        refine tracked.sourced.withWorker tracked.sourced.disk (tracked.sourced.workerRing id) ?_
        intro e inside
        exact tracked.sourced.stdout id e (by rw [stdout]; exact List.mem_cons_of_mem _ inside)
      refine ⟨base, writes, sourced.getInitLogger.initWrite passed, ?_⟩
      intro n origin calls
      obtain ⟨e, held, number⟩ := tracked.complete n origin calls
      rcases held with kept | ⟨other, printed⟩
      · exact ⟨e, .inl (more (subset kept)), number⟩
      · by_cases same : other = id
        · subst same
          rw [stdout, List.mem_cons] at printed
          rcases printed with first | later
          · exact ⟨{ line with text }, .inl member, by rw [← number, first]⟩
          · refine ⟨e, .inr ⟨other, ?_⟩, number⟩
            simpa [System.initWrite, System.getInitLogger, readLine] using later
        · refine ⟨e, .inr ⟨other, ?_⟩, number⟩
          simpa [System.initWrite, System.getInitLogger, readLine, same] using printed

theorem held_of_subset (subset : s.kept ⊆ t.kept) (same : t.workers = s.workers) :
    ∀ n origin, Passed config s.made n origin → ∃ e, t.Held e ∧ e.id = n := by
  intro n origin passed
  obtain ⟨e, held, number⟩ := tracked.complete n origin passed
  refine ⟨e, ?_, number⟩
  rcases held with kept | printed
  · exact .inl (subset kept)
  · exact .inr (by rwa [same])

theorem getInitLogger : Tracked config (s.getInitLogger env).2 := by
  obtain ⟨ready, subset⟩ : (s.getInitLogger env).2.Ready ∧
      s.kept ⊆ (s.getInitLogger env).2.kept := tracked.ready.getInitLogger
  exact ⟨tracked.base.getInitLogger, ready, tracked.sourced.getInitLogger,
    tracked.held_of_subset subset rfl⟩

theorem openInitLogFile (env : Env) (opened : Logger) (has : s.init.logger = some logger)
    (same : opened.logFile = logger.logFile) (enabled : opened.logDisabled = logger.logDisabled) :
    (s.openInitLogFile opened env).Ready ∧
      ((s.openInitLogFile opened env).Sourced fun e => Passed config s.made e.id e.origin) ∧
      ∀ n origin, Passed config s.made n origin →
        ∃ e, (s.openInitLogFile opened env).Held e ∧ e.id = n := by
  obtain ⟨ready, subset⟩ : (s.openInitLogFile opened env).Ready ∧
      s.kept ⊆ (s.openInitLogFile opened env).kept :=
    tracked.ready.openInitLogFile (by simp [same, initFile, has])
      (enabled.trans (tracked.ready.enabled logger has))
  exact ⟨ready, tracked.sourced.openInitLogFile, tracked.held_of_subset subset rfl⟩

end

theorem keep : Run.Inductive (step config) Roomy (Tracked config) := by
  intro s l t tracked room h
  have base := Base.keep s l t tracked.base trivial h
  cases l with
  | mount =>
    obtain ⟨-, h⟩ := Option.ite_none_left_eq_some.mp h
    cases h
    refine ⟨base, ⟨tracked.ready.enabled, ?_⟩, { tracked.sourced with }, tracked.complete⟩
    intro file attached
    exact ⟨rfl, (tracked.ready.active file attached).2⟩
  | openLogFile env =>
    cases h
    have got : Tracked config (s.getInitLogger env).2 := tracked.getInitLogger
    obtain ⟨ready, sourced, complete⟩ := got.openInitLogFile env (s.getInitLogger env).1
      logger_getInitLogger rfl rfl
    exact ⟨base, ready, sourced, complete⟩
  | initLogging env =>
    cases h
    have got : Tracked config (s.getInitLogger env).2 := tracked.getInitLogger
    obtain ⟨ready, sourced, complete⟩ := got.openInitLogFile env
      { (s.getInitLogger env).1 with
        maxSizeBytes := saturate (config.maxLogSizeMb * bytesPerMb)
        level := config.level } logger_getInitLogger rfl rfl
    exact ⟨base, ⟨ready.enabled, ready.active⟩, { sourced with }, complete⟩
  | log origin level target message env =>
    cases origin with
    | init =>
      cases h
      exact tracked.logInit room
    | worker id =>
      cases h
      exact tracked.logWorker
  | kmsg record env =>
    cases h
    exact tracked.kmsg room
  | relay id env => exact tracked.relay room h

end Tracked

end System

/-- In every run in which PID 1 has room for the lines that it writes, when the log file is open and
the pipe of its process is read: a log call is in the log files exactly if its severity is at least
the configured level, if and only if its process had read the configuration, or the configured level
and the default one agree on it. -/
theorem written_iff_level {config : LoggingConfig} {logDir : Bool}
    {old : List (Option FileName × Nat)} {labels : List Label} {s : System} {n : Nat} {r : Record}
    (run : Run.exec (System.step config) (.boot logDir old) labels = some s)
    (roomy : Run.Meets (System.step config) System.Roomy (.boot logDir old) labels)
    (attached : s.initFile.isSome = true) (made : s.made[n]? = some r)
    (drained : s.piped r.origin = []) :
    ((∃ e ∈ s.disk.persisted, e.id = n) ↔ r.level.within config.level = true) ↔
      (r.configured = true ∨ r.level.within config.level = r.level.within .info) := by
  have tracked : System.Tracked config s := System.Tracked.keep.exec .boot roomy run
  obtain ⟨file, attached⟩ := Option.isSome_iff_exists.mp attached
  have written : (∃ e ∈ s.disk.persisted, e.id = n) ↔
      r.level.within (System.threshold config r) = true := by
    constructor
    · intro ⟨e, persisted, number⟩
      obtain ⟨f, inside, -, line⟩ := Disk.mem_persisted.mp persisted
      obtain ⟨r', found, -, within⟩ := tracked.sourced.disk f inside e line
      rw [number, made] at found
      cases found
      exact within
    · intro within
      obtain ⟨e, held, number⟩ := tracked.complete n r.origin ⟨r, made, rfl, within⟩
      rcases held with kept | ⟨id, piped⟩
      · rw [System.kept_some attached] at kept
        exact ⟨e, kept, number⟩
      · -- the line would be in the pipe of the worker that made the log call
        obtain ⟨r', found, origin, -⟩ := tracked.sourced.stdout id e piped
        rw [number, made, Option.some.injEq] at found
        rw [found, origin, (tracked.base.workers id).printed e piped] at drained
        rw [List.map_eq_nil_iff.mp drained] at piped
        cases piped
  rw [written]
  cases configured : r.configured with
  | true => simp [System.threshold, configured]
  | false =>
    simp only [System.threshold, configured, Bool.false_eq_true, if_false, false_or]
    rw [← Bool.eq_iff_iff, eq_comm]

/-- A router that is configured to log everything down to `Debug`: lines before and after the
configuration, of the kernel and of a worker, and a rotation. -/
def debugRun : List Label :=
  [initLogs .info "Starting trimrouter" (onDay 14), .mount, .openLogFile (onDay 14),
    .initLogging (onDay 14), .kmsg "7,512,1234567,-;random: crng init done\n".toList (onDay 14),
    workerLogs .info "Starting" (onDay 14), .relay 0 (onDay 14),
    initLogs .trace "Heartbeat" (onDay 15), initLogs .debug "Still running" (onDay 15)]

theorem written_iff_level_debug :
    ∃ s, Run.exec (System.step ⟨100, .debug⟩) (.boot false []) debugRun = some s ∧
      s.made[1]? = some ⟨.init, .debug, true⟩ ∧
      ((∃ e ∈ s.disk.persisted, e.id = 1) ↔ Level.debug.within .debug = true) := by
  have roomy : Run.Meets (System.step ⟨100, .debug⟩) System.Roomy (.boot false []) debugRun := by
    decide +kernel
  obtain ⟨s, run, attached, made⟩ : ∃ s, Run.exec (System.step ⟨100, .debug⟩) (.boot false [])
      debugRun = some s ∧ s.initFile.isSome ∧ s.made[1]? = some ⟨.init, .debug, true⟩ := by
    decide +kernel
  exact ⟨s, run, made, (written_iff_level run roomy attached made rfl).mpr (.inl rfl)⟩

/-- A router that is configured to log warnings and errors only has the `Info` record of a worker in
its log. -/
theorem written_below_level :
    ∃ s, Run.exec (System.step ⟨100, .warn⟩) (.boot true [])
        [.initLogging (onDay 14), workerLogs .info "Starting" (onDay 14), .relay 0 (onDay 14)] =
          some s ∧
      s.initFile.isSome = true ∧ s.made[0]? = some ⟨.worker 0, .info, false⟩ ∧
      (∃ e ∈ s.disk.persisted, e.id = 0) ∧ Level.info.within .warn = false := by
  decide +kernel

end TrimRouter.Logging
