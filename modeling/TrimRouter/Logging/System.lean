import Mathlib.Data.List.Basic
import Mathlib.Logic.Function.Basic
import TrimRouter.Lib.Run
import TrimRouter.Logging.LoggerEffects

/-!
# Logging in PID 1 and in the workers

PID 1 logs its own records and those of the kernel.  A worker (`modes/worker.rs`) logs with a
logger of its own, and what it prints on its standard output goes through a pipe to PID 1, which
logs it again (`stream_to_logger`).  One step is one log call, one line read from a pipe, the
mount of the log partition, or one of the two places in PID 1 that open the log file.

The number of a log call is its position in `made`.
-/

namespace TrimRouter.Logging

open Str

/-- A log call: its process, its level, and whether the process had read the configuration. -/
structure Record where
  origin : Origin
  level : Level
  configured : Bool
deriving DecidableEq

/-- A worker process. -/
structure Worker where
  process : Process
  /-- the lines on its standard output that PID 1 has not read -/
  stdout : List Entry

/-- The log partition and all processes. -/
structure System where
  disk : Disk
  init : Process
  /-- `init_logging` has been called -/
  configured : Bool
  workers : Nat → Worker
  /-- the log calls -/
  made : List Record
  /-- the lines of the log calls that the logger of their process let through -/
  emitted : List Entry

/-- One step. -/
inductive Label where
  /-- the log partition is mounted -/
  | mount
  /-- `setup_log_partition` reopens the log file -/
  | openLogFile (env : Env)
  /-- `init_logging` with the configuration -/
  | initLogging (env : Env)
  /-- a log call in a process -/
  | log (origin : Origin) (level : Level) (target message : Text) (env : Env)
  /-- PID 1 reads a record of the kernel log -/
  | kmsg (record : Text) (env : Env)
  /-- PID 1 reads a line that a worker has printed -/
  | relay (worker : Nat) (env : Env)

namespace System

/-- Before the first log call, with the names and sizes of the files of earlier boots. -/
def boot (logDir : Bool) (old : List (Option FileName × Nat)) : System where
  disk := ⟨logDir, old.map fun (name, size) => ⟨name, size, []⟩⟩
  init := .early
  configured := false
  workers := fun _ => ⟨.early, []⟩
  made := []
  emitted := []

/-- `get_logger` in PID 1. -/
def getInitLogger (s : System) (env : Env) : Logger × System :=
  let (logger, disk) := s.init.getLogger env s.disk
  (logger, { s with init.logger := some logger, disk })

/-- `open_log_file` in PID 1. -/
def openInitLogFile (s : System) (logger : Logger) (env : Env) : System :=
  let (logger, disk) := logger.openLogFile s.init.ring.items env.total s.disk
  { s with init.logger := some logger, disk }

/-- `init_logging`. -/
def initLogging (config : LoggingConfig) (s : System) (env : Env) : System :=
  let (logger, s) := s.getInitLogger env
  let s := s.openInitLogFile
    { logger with
      maxSizeBytes := saturate (config.maxLogSizeMb * bytesPerMb)
      level := config.level } env
  { s with init.maxLevel := config.level, configured := true }

/-- `write_entry` in PID 1. -/
def initWrite (s : System) (logger : Logger) (e : Entry) (env : Env) : System :=
  let (init, disk) := s.init.writeEntry logger true e env s.disk
  { s with init, disk }

/-- A line of PID 1, if its logger lets it through. -/
def initLog (s : System) (level : Level) (text : Text) (env : Env) : System :=
  let (logger, s) := s.getInitLogger env
  if level.within logger.level then
    let e : Entry := ⟨s.made.length, .init, text⟩
    { s.initWrite logger e env with emitted := s.emitted ++ [e] }
  else s

/-- A line of a worker, if its logger lets it through. -/
def workerLog (s : System) (id : Nat) (level : Level) (text : Text) (env : Env) : System :=
  let worker := s.workers id
  let (logger, disk) := worker.process.getLogger env s.disk
  if level.within logger.level then
    let e : Entry := ⟨s.made.length, .worker id, text⟩
    let (process, disk) := worker.process.writeEntry logger false e env disk
    let stdout := worker.stdout ++ (lines text).map fun line => { e with text := line }
    { s with
      disk
      workers := Function.update s.workers id ⟨process, stdout⟩
      emitted := s.emitted ++ [e] }
  else
    { s with
      disk
      workers := Function.update s.workers id { worker with process.logger := some logger } }

/-- The log call is made. -/
def record (s : System) (origin : Origin) (level : Level) : System :=
  let configured := match origin with
    | .init => s.configured
    | .worker _ => false
  { s with made := s.made ++ [⟨origin, level, configured⟩] }

/-- A log call in PID 1: the macros check the level of the `log` crate first. -/
def logInit (s : System) (level : Level) (target message : Text) (env : Env) : System :=
  if level.within s.init.maxLevel then
    s.initLog level (formatLogLine env.stamp level (cleanTarget target) message) env
  else s

/-- A log call in a worker. -/
def logWorker (s : System) (id : Nat) (level : Level) (target message : Text) (env : Env) :
    System :=
  if level.within (s.workers id).process.maxLevel then
    s.workerLog id level (formatLogLine env.stamp level (cleanTarget target) message) env
  else s

/-- The line that `run_kmsg_reader` logs for a record. -/
def kmsgLine (record : Text) (env : Env) : Option (Level × Text) :=
  match parseKmsgRecord record with
  | none => none
  | some (level, message) =>
    (formatRawLineWithExplicitLevel env.stamp (some level)
      ("[kernel] ".toList ++ message)).map fun text => (level, text)

/-- A record of the kernel log. -/
def kmsg (s : System) (record : Text) (env : Env) : System :=
  match kmsgLine record env with
  | none => s
  | some (level, text) => (s.initLog level text env).record .init level

/-- The pipe after PID 1 has read its first line. -/
def readLine (s : System) (id : Nat) (rest : List Entry) : System :=
  { s with workers := Function.update s.workers id { s.workers id with stdout := rest } }

/-- The loop of `stream_to_logger`. -/
def relay (s : System) (id : Nat) (env : Env) : Option System :=
  match (s.workers id).stdout with
  | [] => none
  | line :: rest =>
    match formatRawLine env.stamp line.text with
    | none => none
    | some text =>
      let (logger, s) := (s.readLine id rest).getInitLogger env
      some (s.initWrite logger { line with text } env)

/-- One step of the router with that configuration. -/
def step (config : LoggingConfig) (s : System) : Label → Option System
  | .mount => if s.disk.logDir then none else some { s with disk.logDir := true }
  | .openLogFile env =>
    let (logger, s) := s.getInitLogger env
    some (s.openInitLogFile logger env)
  | .initLogging env => some (s.initLogging config env)
  | .log .init level target message env =>
    some ((s.logInit level target message env).record .init level)
  | .log (.worker id) level target message env =>
    some ((s.logWorker id level target message env).record (.worker id) level)
  | .kmsg record env => some (s.kmsg record env)
  | .relay id env => s.relay id env

theorem initLog_eq {s : System} {lvl : Level} {text : Text} {env : Env} :
    s.initLog lvl text env =
      if lvl.within (s.getInitLogger env).1.level then
        { (s.getInitLogger env).2.initWrite (s.getInitLogger env).1 ⟨s.made.length, .init, text⟩
            env with
          emitted := s.emitted ++ [⟨s.made.length, .init, text⟩] }
      else (s.getInitLogger env).2 := rfl

theorem workerLog_eq {s : System} {id : Nat} {lvl : Level} {text : Text} {env : Env} :
    s.workerLog id lvl text env =
      let worker := s.workers id
      let got := worker.process.getLogger env s.disk
      let e : Entry := ⟨s.made.length, .worker id, text⟩
      let written := worker.process.writeEntry got.1 false e env got.2
      if lvl.within got.1.level then
        { s with
          disk := written.2
          workers := Function.update s.workers id
            ⟨written.1, worker.stdout ++ (lines text).map fun line => { e with text := line }⟩
          emitted := s.emitted ++ [e] }
      else
        { s with
          disk := got.2
          workers := Function.update s.workers id
            { worker with process.logger := some got.1 } } := rfl

/-! ## Levels and numbers in every run -/

/-- The level that PID 1 logs with. -/
def level (config : LoggingConfig) (s : System) : LevelFilter :=
  if s.configured then config.level else .info

/-- The pipe has the lines of its worker, which always logs with the default level. -/
structure WorkerOk (id : Nat) (worker : Worker) : Prop where
  printed : ∀ e ∈ worker.stdout, e.origin = .worker id
  level : worker.process.LevelIs .info
  fresh : worker.process.logger = none → worker.process.ring.items = []

/-- What holds in every run: the lines are numbered in their order, and PID 1 logs with the
configured level as soon as it has it. -/
structure Base (config : LoggingConfig) (s : System) : Prop where
  ordered : s.emitted.Pairwise fun a b => a.id < b.id
  numbered : ∀ e ∈ s.emitted, e.id < s.made.length
  initLevel : s.init.LevelIs (s.level config)
  workers : ∀ id, WorkerOk id (s.workers id)

namespace Base

variable {config : LoggingConfig} {s t : System} {env : Env} {e : Entry} {logger : Logger}
  {lvl : Level} {text : Text} {id : Nat} {origin : Origin}

theorem boot {logDir : Bool} {old : List (Option FileName × Nat)} :
    Base config (.boot logDir old) where
  ordered := .nil
  numbered := nofun
  initLevel := .early
  workers := by
    intro id
    refine ⟨?_, .early, fun _ => rfl⟩
    intro e member
    cases member

section

variable (base : Base config s)

include base

/-- Another state of PID 1 and of the partition. -/
theorem withInit {init : Process} {disk : Disk} (levelIs : init.LevelIs (s.level config)) :
    Base config { s with init, disk } :=
  { base with initLevel := levelIs }

theorem level_getInitLogger :
    (s.getInitLogger env).1.level = s.level config := base.initLevel.getLogger

theorem getInitLogger : Base config (s.getInitLogger env).2 :=
  base.withInit (base.initLevel.withLogger base.level_getInitLogger)

theorem initWrite (same : logger.level = s.level config) :
    Base config (s.initWrite logger e env) :=
  base.withInit (base.initLevel.writeEntry same)

/-- One more line, with the number of the next log call. -/
theorem ordered_concat (next : e.id = s.made.length) :
    (s.emitted ++ [e]).Pairwise fun a b => a.id < b.id := by
  refine List.pairwise_append.mpr ⟨base.ordered, List.pairwise_singleton _ _, ?_⟩
  intro a member b last
  rw [List.mem_singleton.mp last, next]
  exact base.numbered a member

theorem numbered_concat (next : e.id = s.made.length) :
    ∀ a ∈ s.emitted ++ [e], a.id < s.made.length + 1 := by
  exact List.forall_mem_append.mpr ⟨fun a old => Nat.lt_succ_of_lt (base.numbered a old),
    List.forall_mem_singleton.mpr (next ▸ Nat.lt_succ_self _)⟩

/-- A log call that leaves no line. -/
theorem record : Base config (s.record origin lvl) :=
  { base with
    numbered := by
      intro a member
      have before := base.numbered a member
      simp only [System.record, List.length_append, List.length_singleton]
      omega }

/-- A log call that leaves a line. -/
theorem recordEmitted (next : e.id = s.made.length) :
    Base config ({ s with emitted := s.emitted ++ [e] }.record origin lvl) :=
  { base with
    ordered := base.ordered_concat next
    numbered := by
      intro a member
      have before := base.numbered_concat next a member
      simp only [System.record, List.length_append, List.length_singleton]
      exact before }

theorem initLog :
    Base config ((s.initLog lvl text env).record origin lvl) := by
  have ready : Base config (s.getInitLogger env).2 := base.getInitLogger
  rw [initLog_eq]
  split
  · exact (ready.initWrite base.level_getInitLogger).recordEmitted rfl
  · exact ready.record

theorem logInit {target message : Text} :
    Base config ((s.logInit lvl target message env).record .init lvl) := by
  unfold System.logInit
  split
  · exact base.initLog
  · exact base.record

/-- Another state of a worker and of the partition. -/
theorem withWorker {worker : Worker} {disk : Disk} (ok : WorkerOk id worker) :
    Base config { s with disk, workers := Function.update s.workers id worker } :=
  { base with
    workers := (Function.forall_update_iff s.workers WorkerOk).mpr
      ⟨ok, fun other _ => base.workers other⟩ }

theorem workerLog :
    Base config ((s.workerLog id lvl text env).record (.worker id) lvl) := by
  obtain ⟨printed, worker, -⟩ := base.workers id
  have level : ((s.workers id).process.getLogger env s.disk).1.level = .info :=
    worker.getLogger
  rw [workerLog_eq]
  dsimp only
  split
  · refine recordEmitted (e := ⟨s.made.length, .worker id, text⟩)
      (base.withWorker ⟨?_, worker.writeEntry level, ?_⟩) rfl
    · exact List.forall_mem_append.mpr ⟨printed, List.forall_mem_map.mpr fun _ _ => rfl⟩
    · exact nofun
  · have opened : WorkerOk id { s.workers id with
        process.logger := some ((s.workers id).process.getLogger env s.disk).1 } := by
      refine ⟨printed, worker.withLogger level, ?_⟩
      intro missing
      cases missing
    exact (base.withWorker opened).record

theorem logWorker {target message : Text} :
    Base config ((s.logWorker id lvl target message env).record (.worker id) lvl) := by
  unfold System.logWorker
  split
  · exact base.workerLog
  · exact base.record

theorem relay (h : s.relay id env = some t) : Base config t := by
  unfold System.relay at h
  split at h
  · cases h
  · rename_i line rest stdout
    split at h
    · cases h
    · cases h
      have read : Base config (s.readLine id rest) := by
        obtain ⟨printed, level, fresh⟩ := base.workers id
        refine base.withWorker ⟨?_, level, fresh⟩
        intro e member
        exact printed e (by rw [stdout]; exact List.mem_cons_of_mem _ member)
      exact read.getInitLogger.initWrite read.level_getInitLogger

theorem initLogging : Base config (s.initLogging config env) :=
  { base with initLevel := ⟨rfl, Logger.level_openLogFile⟩ }

theorem openInitLogFile (same : logger.level = s.level config) :
    Base config (s.openInitLogFile logger env) :=
  base.withInit (base.initLevel.withLogger (Logger.level_openLogFile.trans same))

end

theorem keep : Run.Inductive (step config) (fun _ _ => True) (Base config) := by
  intro s l t base _ h
  cases l with
  | mount =>
    obtain ⟨-, h⟩ := Option.ite_none_left_eq_some.mp h
    cases h
    exact { base with }
  | openLogFile env =>
    cases h
    exact base.getInitLogger.openInitLogFile base.level_getInitLogger
  | initLogging env =>
    cases h
    exact base.initLogging
  | log origin level target message env =>
    cases origin with
    | init =>
      cases h
      exact base.logInit
    | worker id =>
      cases h
      exact base.logWorker
  | kmsg record env =>
    cases h
    unfold System.kmsg
    split
    · exact base
    · exact base.initLog
  | relay id env => exact base.relay h

end Base

end System

end TrimRouter.Logging
