import Mathlib.Data.Char
import Mathlib.Data.List.Lex
import TrimRouter.Lib.Fifo
import TrimRouter.Logging.Line

/-!
# The logger

`Logger` of `logging.rs` with the log partition that it writes to.  Every process has a logger of
its own, which it creates at its first log call, and a buffer of its last 500 lines.  The logger
of PID 1 rotates the log file.  All file operations succeed.

An entry of the log carries, next to its text, the log call that it comes from: its number and its
process.
-/

namespace TrimRouter.Logging

open Str

/-- The process of a log call. -/
inductive Origin where
  | init
  | worker (id : Nat)
deriving DecidableEq

/-- A line, with the number and the process of the log call that it comes from. -/
structure Entry where
  id : Nat
  origin : Origin
  text : Text
deriving DecidableEq

/-! ## The log partition -/

/-- A name in the log directory: `system.log`, or `system.<stamp>.log`. -/
inductive FileName where
  | active
  | rotated (stamp : Text)
deriving DecidableEq

/-- A file.  Without a name it is removed, and only who has it open still writes to it. -/
structure File where
  name : Option FileName
  size : Nat
  /-- the lines that this boot has written -/
  lines : List Entry

/-- The file with a line at its end. -/
def File.append (f : File) (e : Entry) : File :=
  { f with size := f.size + byteLength e.text, lines := f.lines ++ [e] }

/-- The log partition.  A file handle is the index of its file, and the files are in the order in
which they were created. -/
structure Disk where
  /-- `/var/log` exists -/
  logDir : Bool
  files : List File

namespace Disk

/-- The lines in the rotated files and the active file, in time order. -/
def persisted (disk : Disk) : List Entry :=
  (disk.files.filter fun f => f.name.isSome).flatMap File.lines

/-- Write a line at the end of a file. -/
def append (disk : Disk) (file : Nat) (e : Entry) : Disk :=
  { disk with files := disk.files.modify file fun f => f.append e }

/-- Open `system.log` to append to it; it is created if it does not exist. -/
def openActive (disk : Disk) : Nat × Disk :=
  match disk.files.findIdx? fun f => f.name = some .active with
  | some file => (file, disk)
  | none => (disk.files.length, { disk with files := disk.files ++ [⟨some .active, 0, []⟩] })

/-- Remove the rotated file of that name. -/
def remove (disk : Disk) (stamp : Text) : Disk :=
  { disk with
    files := disk.files.map fun f =>
      if f.name = some (.rotated stamp) then { f with name := none } else f }

/-- Rename `system.log`, if it exists; a rotated file of that name is replaced. -/
def renameActive (disk : Disk) (stamp : Text) : Disk :=
  if disk.files.any fun f => f.name = some .active then
    { disk.remove stamp with
      files := (disk.remove stamp).files.map fun f =>
        if f.name = some .active then { f with name := some (.rotated stamp) } else f }
  else disk

/-- `list_rotated_log_files`: the stamps of the rotated files. -/
def listRotatedLogFiles (disk : Disk) : List Text :=
  disk.files.filterMap fun f =>
    match f.name with
    | some (.rotated stamp) => if stamp = [] then none else some stamp
    | some .active => none
    | none => none

end Disk

/-! ## The logger -/

/-- `BYTES_PER_MB`. -/
def bytesPerMb : Nat := 1024 * 1024

/-- `DEFAULT_MAX_LOG_SIZE_MB`. -/
def defaultMaxLogSizeMb : Nat := 100

/-- `MIN_USABLE_LOG_SPACE`. -/
def minUsableLogSpace : Nat := 64 * 1024

/-- `MAX_RING_BUFFER_LINES`. -/
def maxRingBufferLines : Nat := 500

instance : NeZero maxRingBufferLines := ⟨by decide⟩

/-- The last lines of a process. -/
abbrev RingBuffer := Fifo Entry maxRingBufferLines

/-- `saturating_add` and `saturating_mul` stop at the largest `u64`. -/
def saturate (n : Nat) : Nat := min n (2 ^ 64 - 1)

/-- `Logger`. -/
structure Logger where
  logFile : Option Nat
  maxSizeBytes : Nat
  level : LevelFilter
  currentSize : Nat
  lastRotationDate : Nat × Nat
  logDisabled : Bool

/-- What a log call reads from the system. -/
structure Env where
  /-- the time at which the logger is created, if it is -/
  created : DateTime
  /-- the time in the line -/
  stamp : DateTime
  /-- the time at which the line is written -/
  now : DateTime
  /-- the size of the partition -/
  total : Option Nat
  /-- the results of `check_free_space`, in the order of the calls -/
  free : Nat → Option Nat

namespace Logger

/-- `Logger::new`, with the values of `get_logger`. -/
def new (now : DateTime) : Logger :=
  ⟨none, saturate (defaultMaxLogSizeMb * bytesPerMb), .info, 0, now.date, false⟩

/-- `flush_ring_buffer_to_file`: the size that the logger counts, and the partition. -/
def flushRingBuffer (file : Nat) (ring : List Entry) (size : Nat) (disk : Disk) : Nat × Disk :=
  ring.foldl
    (fun (size, disk) e => (saturate (size + byteLength e.text), disk.append file e))
    (size, disk)

/-- The limit for a small partition. -/
def capSize (maxSizeBytes : Nat) : Option Nat → Nat
  | some total =>
    if 0 < total ∧ total ≤ maxSizeBytes then max (total / 2) (1024 * 1024) else maxSizeBytes
  | none => maxSizeBytes

/-- `open_log_file`. -/
def openLogFile (logger : Logger) (ring : List Entry) (total : Option Nat) (disk : Disk) :
    Logger × Disk :=
  if disk.logDir then
    let (file, disk) := disk.openActive
    let size := (disk.files[file]?.map File.size).getD 0
    let (size, disk) :=
      if logger.logFile.isNone then flushRingBuffer file ring size disk else (size, disk)
    ({ logger with
       logFile := some file
       maxSizeBytes := capSize logger.maxSizeBytes total
       currentSize := size
       logDisabled := false }, disk)
  else ({ logger with logFile := none }, disk)

/-- The loop of `reclaim_space`, from the check of the free space with that number on. -/
def reclaim (maxSizeBytes : Nat) (free : Nat → Option Nat) :
    List Text → Nat → Disk → Nat × Disk
  | [], check, disk => (check, disk)
  | stamp :: older, check, disk =>
    if (free check).any fun space => maxSizeBytes ≤ space then (check + 1, disk)
    else reclaim maxSizeBytes free older (check + 1) (disk.remove stamp)

/-- `reclaim_space`. -/
def reclaimSpace (logger : Logger) (free : Nat → Option Nat) (check : Nat) (disk : Disk) :
    Nat × Disk :=
  reclaim logger.maxSizeBytes free (disk.listRotatedLogFiles.mergeSort fun a b => a ≤ b) check disk

/-- `rotate`. -/
def rotate (logger : Logger) (ring : List Entry) (env : Env) (disk : Disk) : Logger × Disk :=
  let (check, disk) :=
    if (env.free 0).any fun space => space < logger.maxSizeBytes then
      logger.reclaimSpace env.free 1 disk
    else (1, disk)
  if (env.free check).any fun space => space < min logger.maxSizeBytes minUsableLogSpace then
    ({ logger with logDisabled := true }, disk)
  else
    { logger with
      logFile := none
      lastRotationDate := env.now.date
      currentSize := 0 }.openLogFile ring env.total (disk.renameActive env.now.fileStamp)

/-- The size or the date asks for a rotation. -/
def triggered (logger : Logger) (text : Text) (now : DateTime) : Bool :=
  decide (logger.maxSizeBytes ≤ saturate (logger.currentSize + byteLength text)) ||
    decide (now.date ≠ logger.lastRotationDate)

/-- The end of `write_entry`. -/
def writeLine (logger : Logger) (e : Entry) (disk : Disk) : Logger × Disk :=
  if logger.logDisabled then (logger, disk)
  else match logger.logFile with
    | some file =>
      ({ logger with currentSize := saturate (logger.currentSize + byteLength e.text) },
        disk.append file e)
    | none => (logger, disk)

/-- `write_entry` behind the buffer; `canRotate` in PID 1. -/
def writeEntry (logger : Logger) (canRotate : Bool) (ring : List Entry) (e : Entry) (env : Env)
    (disk : Disk) : Logger × Disk :=
  if logger.logDisabled || logger.logFile.isNone then (logger, disk)
  else if canRotate && logger.triggered e.text env.now then
    let (logger, disk) := logger.rotate ring env disk
    logger.writeLine e disk
  else logger.writeLine e disk

end Logger

/-! ## A process -/

/-- The logging state of a process. -/
structure Process where
  /-- the level of the `log` crate -/
  maxLevel : LevelFilter
  logger : Option Logger
  ring : RingBuffer

namespace Process

/-- After `init_early_logging`. -/
def early : Process := ⟨.info, none, .empty⟩

/-- `get_logger`. -/
def getLogger (p : Process) (env : Env) (disk : Disk) : Logger × Disk :=
  match p.logger with
  | some logger => (logger, disk)
  | none => (Logger.new env.created).openLogFile p.ring.items env.total disk

/-- `write_entry`, with the logger that the process has got. -/
def writeEntry (p : Process) (logger : Logger) (canRotate : Bool) (e : Entry) (env : Env)
    (disk : Disk) : Process × Disk :=
  let ring := p.ring.pushEvict e
  let (logger, disk) := logger.writeEntry canRotate ring.items e env disk
  ({ p with logger := some logger, ring }, disk)

end Process

end TrimRouter.Logging
