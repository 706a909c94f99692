import TrimRouter.Logging.Logger

/-!
# What opening, writing and rotating do

The effects of the logger on the log partition: which lines the files have afterwards, and which
file `system.log` is.
-/

namespace TrimRouter.Logging

open Str

/-! ## The log partition -/

namespace Disk

variable {disk : Disk} {file : Nat} {f : File} {e : Entry} {es : List Entry} {stamp : Text}

theorem mem_persisted :
    e ∈ disk.persisted ↔ ∃ f ∈ disk.files, f.name.isSome = true ∧ e ∈ f.lines := by
  simp [persisted, and_assoc]

theorem persisted_of_blank (blank : ∀ f ∈ disk.files, f.lines = []) : disk.persisted = [] := by
  refine List.eq_nil_iff_forall_not_mem.mpr fun e member => ?_
  obtain ⟨f, inside, -, written⟩ := mem_persisted.mp member
  rw [blank f inside] at written
  cases written

/-- Write lines at the end of a file. -/
def appendAll (disk : Disk) (file : Nat) (es : List Entry) : Disk :=
  es.foldl (fun disk e => disk.append file e) disk

/-- The file has a name, and all lines of this boot are in it. -/
structure Only (disk : Disk) (file : Nat) : Prop where
  linked : ∃ f, disk.files[file]? = some f ∧ f.name.isSome = true
  others : ∀ i f, disk.files[i]? = some f → i ≠ file → f.lines = []

theorem Only.persisted_eq (only : disk.Only file) (found : disk.files[file]? = some f) :
    disk.persisted = f.lines := by
  obtain ⟨⟨g, same, linked⟩, others⟩ := only
  rw [found, Option.some.injEq] at same
  subst same
  unfold persisted
  generalize disk.files = files at found others
  induction files generalizing file with
  | nil => cases found
  | cons first rest ih =>
    cases file with
    | zero =>
      cases found
      have later : (rest.filter fun f => f.name.isSome).flatMap File.lines = [] := by
        refine List.flatMap_eq_nil_iff.mpr fun g member => ?_
        obtain ⟨i, inside⟩ := List.mem_iff_getElem?.mp (List.mem_of_mem_filter member)
        exact others (i + 1) g inside (by omega)
      simp only [List.filter_cons, linked, if_true, List.flatMap_cons, later,
        List.append_nil]
    | succ file =>
      have inside := ih found fun i g at_i other => others (i + 1) g at_i (by omega)
      have empty : first.lines = [] := others 0 first rfl (by omega)
      rw [List.filter_cons]
      split
      · rw [List.flatMap_cons, empty, List.nil_append, inside]
      · exact inside

theorem getElem?_append (i : Nat) :
    (disk.append file e).files[i]? =
      (disk.files[i]?).map fun f => if file = i then f.append e else f := by
  simp only [append, List.getElem?_modify]
  rfl

theorem getElem?_append_self (found : disk.files[file]? = some f) :
    (disk.append file e).files[file]? = some (f.append e) := by
  rw [getElem?_append, found, Option.map_some, if_pos rfl]

theorem Only.append (only : disk.Only file) : (disk.append file e).Only file := by
  obtain ⟨⟨f, found, linked⟩, others⟩ := only
  refine ⟨⟨f.append e, getElem?_append_self found, linked⟩, ?_⟩
  intro i g at_i other
  rw [getElem?_append] at at_i
  obtain ⟨h, inside, rfl⟩ := Option.map_eq_some_iff.mp at_i
  rw [if_neg (Ne.symm other)]
  exact others i h inside other

theorem Only.persisted_append (only : disk.Only file) :
    (disk.append file e).persisted = disk.persisted ++ [e] := by
  obtain ⟨f, found, -⟩ := only.linked
  rw [only.persisted_eq found, only.append.persisted_eq (getElem?_append_self found)]
  rfl

theorem Only.appendAll (only : disk.Only file) :
    (disk.appendAll file es).Only file ∧
      (disk.appendAll file es).persisted = disk.persisted ++ es := by
  induction es generalizing disk with
  | nil => exact ⟨only, by rw [List.append_nil, Disk.appendAll, List.foldl_nil]⟩
  | cons e es ih =>
    obtain ⟨rest, lines⟩ := ih only.append
    refine ⟨rest, ?_⟩
    rw [Disk.appendAll, List.foldl_cons]
    rw [Disk.appendAll] at lines
    rw [lines, only.persisted_append, List.append_assoc, List.singleton_append]

/-- The handle of `system.log`. -/
def activeFile (disk : Disk) : Option Nat :=
  (disk.files.map File.name).findIdx? fun name => name = some .active

theorem findIdx?_active :
    (disk.files.findIdx? fun f => f.name = some .active) = disk.activeFile := by
  rw [activeFile, List.findIdx?_map]
  rfl

theorem names_append : (disk.append file e).files.map File.name = disk.files.map File.name := by
  refine List.ext_getElem? fun i => ?_
  rw [List.getElem?_map, List.getElem?_map, getElem?_append]
  cases disk.files[i]? with
  | none => rfl
  | some f =>
    rw [Option.map_some, Option.map_some, Option.map_some]
    split <;> rfl

theorem names_appendAll :
    (disk.appendAll file es).files.map File.name = disk.files.map File.name := by
  induction es generalizing disk with
  | nil => rfl
  | cons e es ih => exact ih.trans names_append

theorem activeFile_append : (disk.append file e).activeFile = disk.activeFile := by
  rw [activeFile, names_append, activeFile]

theorem activeFile_appendAll : (disk.appendAll file es).activeFile = disk.activeFile := by
  rw [activeFile, names_appendAll, activeFile]

theorem openActive_of_some (active : disk.activeFile = some file) :
    disk.openActive = (file, disk) := by
  unfold openActive
  rw [findIdx?_active, active]

theorem openActive_of_none (missing : disk.activeFile = none) :
    disk.openActive =
      (disk.files.length, { disk with files := disk.files ++ [⟨some .active, 0, []⟩] }) := by
  unfold openActive
  rw [findIdx?_active, missing]

theorem activeFile_openActive : disk.openActive.2.activeFile = some disk.openActive.1 := by
  cases active : disk.activeFile with
  | none =>
    rw [openActive_of_none active]
    unfold activeFile at active ⊢
    simp [List.findIdx?_append, active, List.findIdx?_cons]
  | some file => rw [openActive_of_some active, active]

theorem getElem?_activeFile (active : disk.activeFile = some file) :
    ∃ f, disk.files[file]? = some f ∧ f.name = some .active := by
  obtain ⟨inside, named, -⟩ := List.findIdx?_eq_some_iff_getElem.mp active
  rw [List.length_map] at inside
  rw [List.getElem_map, decide_eq_true_eq] at named
  exact ⟨disk.files[file], List.getElem?_eq_getElem inside, named⟩

theorem blank_openActive (blank : ∀ f ∈ disk.files, f.lines = []) :
    ∀ f ∈ disk.openActive.2.files, f.lines = [] := by
  cases active : disk.activeFile with
  | none =>
    rw [openActive_of_none active]
    exact List.forall_mem_append.mpr ⟨blank, List.forall_mem_singleton.mpr rfl⟩
  | some file =>
    rw [openActive_of_some active]
    exact blank

/-- The log file that is opened on a partition without lines is the only one with lines then. -/
theorem only_of_blank (blank : ∀ f ∈ disk.files, f.lines = [])
    (active : disk.activeFile = some file) : disk.Only file := by
  obtain ⟨f, found, named⟩ := getElem?_activeFile active
  refine ⟨⟨f, found, by rw [named]; rfl⟩, ?_⟩
  intro i g inside _
  exact blank g (List.mem_of_getElem? inside)

theorem append_last {logDir : Bool} {files : List File} :
    Disk.append ⟨logDir, files ++ [f]⟩ files.length e = ⟨logDir, files ++ [f.append e]⟩ := by
  simp [append, List.modify_eq_take_drop]

theorem persisted_appendAll_last {logDir : Bool} {files : List File}
    (linked : f.name.isSome = true) :
    (Disk.appendAll ⟨logDir, files ++ [f]⟩ files.length es).persisted =
      Disk.persisted ⟨logDir, files⟩ ++ f.lines ++ es := by
  induction es generalizing f with
  | nil => simp [Disk.appendAll, persisted, linked]
  | cons e es ih =>
    have rest : (Disk.appendAll ⟨logDir, files ++ [f.append e]⟩ files.length es).persisted =
        Disk.persisted ⟨logDir, files⟩ ++ (f.lines ++ [e]) ++ es := ih linked
    rw [Disk.appendAll, List.foldl_cons, append_last]
    rw [Disk.appendAll] at rest
    simpa using rest

theorem persisted_remove_subset : (disk.remove stamp).persisted ⊆ disk.persisted := by
  intro e member
  obtain ⟨g, inside, linked, written⟩ := mem_persisted.mp member
  obtain ⟨f, old, rfl⟩ := List.mem_map.mp inside
  split at linked
  · cases linked
  · rename_i other
    rw [if_neg other] at written
    exact mem_persisted.mpr ⟨f, old, linked, written⟩

theorem mem_persisted_append (found : disk.files[file]? = some f) (linked : f.name.isSome = true) :
    e ∈ (disk.append file e).persisted :=
  mem_persisted.mpr ⟨f.append e, List.mem_of_getElem? (getElem?_append_self found), linked,
    List.mem_append_right _ (List.mem_singleton_self _)⟩

/-- No file is renamed or removed, and files only grow. -/
structure Grows (d₁ d₂ : Disk) : Prop where
  logDir : d₂.logDir = d₁.logDir
  files : ∀ (i : Nat) (f : File), d₁.files[i]? = some f → ∃ g : File, d₂.files[i]? = some g ∧
    g.name = f.name ∧ f.lines <+: g.lines ∧ f.size ≤ g.size

namespace Grows

variable {d₁ d₂ d₃ : Disk}

theorem refl (disk : Disk) : disk.Grows disk :=
  ⟨rfl, fun _ f found => ⟨f, found, rfl, List.prefix_rfl, Nat.le_refl _⟩⟩

theorem trans (first : d₁.Grows d₂) (second : d₂.Grows d₃) : d₁.Grows d₃ := by
  refine ⟨second.logDir.trans first.logDir, ?_⟩
  intro i f found
  obtain ⟨g, found', name, lines, size⟩ := first.files i f found
  obtain ⟨h, found'', name', lines', size'⟩ := second.files i g found'
  exact ⟨h, found'', name'.trans name, lines.trans lines', size.trans size'⟩

theorem append : disk.Grows (disk.append file e) := by
  refine ⟨rfl, ?_⟩
  intro i f found
  refine ⟨if file = i then f.append e else f, ?_, ?_, ?_, ?_⟩
  · rw [getElem?_append, found, Option.map_some]
  · split <;> rfl
  · split
    · exact List.prefix_append _ _
    · exact List.prefix_rfl
  · split
    · exact Nat.le_add_right _ _
    · exact Nat.le_refl _

theorem appendAll : disk.Grows (disk.appendAll file es) := by
  induction es generalizing disk with
  | nil => exact .refl disk
  | cons e es ih => exact append.trans ih

theorem openActive : disk.Grows disk.openActive.2 := by
  cases active : disk.activeFile with
  | none =>
    rw [openActive_of_none active]
    refine ⟨rfl, ?_⟩
    intro i f found
    have inside := (List.getElem?_eq_some_iff.mp found).1
    refine ⟨f, ?_, rfl, List.prefix_rfl, Nat.le_refl _⟩
    rw [List.getElem?_append_left inside]
    exact found
  | some file =>
    rw [openActive_of_some active]
    exact .refl disk

/-- No line is lost. -/
theorem persisted (grows : d₁.Grows d₂) : d₁.persisted ⊆ d₂.persisted := by
  intro e member
  obtain ⟨f, inside, linked, written⟩ := mem_persisted.mp member
  obtain ⟨i, found⟩ := List.mem_iff_getElem?.mp inside
  obtain ⟨g, found', name, lines, -⟩ := grows.files i f found
  exact mem_persisted.mpr ⟨g, List.mem_of_getElem? found', name ▸ linked, lines.subset written⟩

/-- `system.log` stays what it is. -/
theorem activeFile (grows : d₁.Grows d₂) (active : d₁.activeFile = some file) :
    d₂.activeFile = some file := by
  have names : d₁.files.map File.name <+: d₂.files.map File.name := by
    rw [List.prefix_iff_getElem?]
    intro i inside
    rw [List.length_map] at inside
    obtain ⟨g, found, name, -⟩ := grows.files i _ (List.getElem?_eq_getElem inside)
    rw [List.getElem?_map, found, List.getElem_map, ← name]
    rfl
  obtain ⟨rest, whole⟩ := names
  unfold Disk.activeFile at active ⊢
  rw [← whole, List.findIdx?_append, active]
  rfl

end Grows

/-- Lines that are written to `system.log` are in the log. -/
theorem persisted_appendAll (active : disk.activeFile = some file) :
    es ⊆ (disk.appendAll file es).persisted := by
  induction es generalizing disk with
  | nil => exact List.nil_subset _
  | cons e es ih =>
    obtain ⟨f, found, named⟩ := getElem?_activeFile active
    have rest : (disk.append file e).Grows (disk.appendAll file (e :: es)) := .appendAll
    refine List.cons_subset.mpr ⟨?_, ih (activeFile_append.trans active)⟩
    exact rest.persisted (mem_persisted_append found (by rw [named]; rfl))

/-- A renaming to a new name loses nothing. -/
theorem persisted_renameActive (fresh : ∀ f ∈ disk.files, f.name ≠ some (.rotated stamp)) :
    disk.persisted ⊆ (disk.renameActive stamp).persisted := by
  intro e member
  unfold renameActive
  split
  · obtain ⟨f, inside, linked, written⟩ := mem_persisted.mp member
    have kept : f ∈ (disk.remove stamp).files := by
      refine List.mem_map.mpr ⟨f, inside, ?_⟩
      rw [if_neg (fresh f inside)]
    refine mem_persisted.mpr ⟨_, List.mem_map.mpr ⟨f, kept, rfl⟩, ?_, ?_⟩
    · split
      · rfl
      · exact linked
    · split <;> exact written
  · exact member

/-- All lines in all files have the property. -/
def Holds (P : Entry → Prop) (disk : Disk) : Prop := ∀ f ∈ disk.files, ∀ e ∈ f.lines, P e

variable {P : Entry → Prop}

theorem Holds.append (holds : disk.Holds P) (new : P e) : (disk.append file e).Holds P := by
  intro f inside a written
  obtain ⟨i, at_i⟩ := List.mem_iff_getElem?.mp inside
  rw [getElem?_append] at at_i
  obtain ⟨g, old, rfl⟩ := Option.map_eq_some_iff.mp at_i
  split at written
  · rcases List.mem_append.mp written with before | last
    · exact holds g (List.mem_of_getElem? old) a before
    · rw [List.mem_singleton.mp last]
      exact new
  · exact holds g (List.mem_of_getElem? old) a written

theorem Holds.appendAll (holds : disk.Holds P) (new : ∀ e ∈ es, P e) :
    (disk.appendAll file es).Holds P := by
  induction es generalizing disk with
  | nil => exact holds
  | cons e es ih =>
    rw [List.forall_mem_cons] at new
    exact ih (holds.append new.1) new.2

theorem Holds.openActive (holds : disk.Holds P) : disk.openActive.2.Holds P := by
  cases active : disk.activeFile with
  | none =>
    rw [openActive_of_none active]
    exact List.forall_mem_append.mpr
      ⟨holds, List.forall_mem_singleton.mpr (List.forall_mem_nil _)⟩
  | some file =>
    rw [openActive_of_some active]
    exact holds

theorem Holds.remove (holds : disk.Holds P) : (disk.remove stamp).Holds P := by
  intro f member
  obtain ⟨g, old, rfl⟩ := List.mem_map.mp member
  split
  · exact holds g old
  · exact holds g old

theorem Holds.renameActive (holds : disk.Holds P) : (disk.renameActive stamp).Holds P := by
  unfold Disk.renameActive
  split
  · intro f member
    obtain ⟨g, old, rfl⟩ := List.mem_map.mp member
    split
    · exact holds.remove g old
    · exact holds.remove g old
  · exact holds

theorem activeFile_eq_none (missing : ∀ f ∈ disk.files, f.name ≠ some .active) :
    disk.activeFile = none := by
  unfold activeFile
  refine List.findIdx?_eq_none_iff.mpr fun name member => ?_
  obtain ⟨f, inside, rfl⟩ := List.mem_map.mp member
  exact decide_eq_false (missing f inside)

/-- After the renaming there is no `system.log`. -/
theorem activeFile_renameActive : (disk.renameActive stamp).activeFile = none := by
  unfold renameActive
  split
  · refine activeFile_eq_none fun f member => ?_
    obtain ⟨g, -, rfl⟩ := List.mem_map.mp member
    split
    · simp
    · assumption
  · rename_i missing
    refine activeFile_eq_none fun f member named => missing ?_
    exact List.any_eq_true.mpr ⟨f, member, decide_eq_true named⟩

theorem logDir_renameActive : (disk.renameActive stamp).logDir = disk.logDir := by
  unfold renameActive
  split <;> rfl

end Disk

/-! ## The logger -/

namespace Logger

variable {logger : Logger} {ring : List Entry} {total : Option Nat} {disk : Disk} {file : Nat}
  {e : Entry} {env : Env} {canRotate : Bool}

theorem flushRingBuffer_disk {size : Nat} :
    (flushRingBuffer file ring size disk).2 = disk.appendAll file ring := by
  unfold flushRingBuffer
  induction ring generalizing size disk with
  | nil => rfl
  | cons e ring ih =>
    rw [List.foldl_cons, ih]
    rfl

theorem openLogFile_closed (logger : Logger) (ring : List Entry) (total : Option Nat)
    (closed : disk.logDir = false) :
    logger.openLogFile ring total disk = ({ logger with logFile := none }, disk) := by
  simp [openLogFile, closed]

theorem openLogFile_attached (ring : List Entry) (total : Option Nat)
    (dir : disk.logDir = true) (attached : logger.logFile = some file)
    (active : disk.activeFile = some file) :
    (logger.openLogFile ring total disk).1.logFile = some file ∧
      (logger.openLogFile ring total disk).2 = disk := by
  simp [openLogFile, dir, Disk.openActive_of_some active, attached]

/-- Where it is not, the buffer is written to it. -/
theorem openLogFile_detached (ring : List Entry) (total : Option Nat)
    (dir : disk.logDir = true) (detached : logger.logFile = none) :
    (logger.openLogFile ring total disk).1.logFile = some disk.openActive.1 ∧
      (logger.openLogFile ring total disk).2 =
        disk.openActive.2.appendAll disk.openActive.1 ring := by
  simp [openLogFile, dir, detached, flushRingBuffer_disk]

theorem level_openLogFile : (logger.openLogFile ring total disk).1.level = logger.level := by
  unfold openLogFile
  split <;> rfl

theorem logDisabled_openLogFile (enabled : logger.logDisabled = false) :
    (logger.openLogFile ring total disk).1.logDisabled = false := by
  unfold openLogFile
  split
  · rfl
  · exact enabled

theorem level_rotate : (logger.rotate ring env disk).1.level = logger.level := by
  unfold rotate
  split
  split
  · rfl
  · exact level_openLogFile

theorem grows_openLogFile : disk.Grows (logger.openLogFile ring total disk).2 := by
  cases dir : disk.logDir with
  | false =>
    rw [openLogFile_closed _ _ _ dir]
    exact .refl disk
  | true =>
    unfold openLogFile
    rw [if_pos dir]
    dsimp only
    split
    · rw [flushRingBuffer_disk]
      exact Disk.Grows.openActive.trans .appendAll
    · exact .openActive

theorem grows_writeLine : disk.Grows (logger.writeLine e disk).2 := by
  unfold writeLine
  split
  · exact .refl disk
  · split
    · exact .append
    · exact .refl disk

variable {free : Nat → Option Nat}

theorem persisted_reclaim_subset {maxSizeBytes : Nat} {stamps : List Text} {check : Nat} :
    (reclaim maxSizeBytes free stamps check disk).2.persisted ⊆ disk.persisted := by
  induction stamps generalizing check disk with
  | nil => exact fun _ member => member
  | cons stamp older ih =>
    rw [reclaim]
    split
    · exact fun _ member => member
    · exact fun _ member => Disk.persisted_remove_subset (ih member)

theorem logDir_reclaim {maxSizeBytes : Nat} {stamps : List Text} {check : Nat} :
    (reclaim maxSizeBytes free stamps check disk).2.logDir = disk.logDir := by
  induction stamps generalizing check disk with
  | nil => rfl
  | cons stamp older ih =>
    rw [reclaim]
    split
    · rfl
    · exact ih

theorem writeLine_open (enabled : logger.logDisabled = false)
    (opened : logger.logFile = some file) :
    logger.writeLine e disk =
      ({ logger with currentSize := saturate (logger.currentSize + byteLength e.text) },
        disk.append file e) := by
  simp [writeLine, enabled, opened]

theorem writeLine_openLogFile (ring : List Entry) (total : Option Nat) (e : Entry)
    (dir : disk.logDir = true) (detached : logger.logFile = none)
    (missing : disk.activeFile = none) :
    let opened := logger.openLogFile ring total disk
    let written := opened.1.writeLine e opened.2
    (written.1.logFile = some disk.files.length ∧ written.1.logDisabled = false) ∧
      (written.2.logDir = true ∧ written.2.activeFile = some disk.files.length) ∧
      written.2.persisted = disk.persisted ++ ring ++ [e] := by
  obtain ⟨handle, flushed⟩ := openLogFile_detached ring total dir detached
  have active : disk.openActive.2.activeFile = some disk.openActive.1 := Disk.activeFile_openActive
  rw [Disk.openActive_of_none missing] at handle flushed active
  have enabled : (logger.openLogFile ring total disk).1.logDisabled = false := by
    simp [openLogFile, dir]
  have lines : (Disk.appendAll ⟨disk.logDir, disk.files ++ [⟨some .active, 0, []⟩]⟩
      disk.files.length (ring ++ [e])).persisted = disk.persisted ++ [] ++ (ring ++ [e]) :=
    Disk.persisted_appendAll_last rfl
  rw [List.append_nil, ← List.append_assoc, Disk.appendAll, List.foldl_append] at lines
  dsimp only
  rw [writeLine_open enabled handle, flushed]
  refine ⟨⟨handle, enabled⟩, ⟨Disk.Grows.appendAll.logDir.trans dir, ?_⟩, lines⟩
  exact Disk.activeFile_append.trans (Disk.activeFile_appendAll.trans active)

/-- A rotation gives up for want of space, or it opens a new log file. -/
theorem rotate_cases (logger : Logger) (ring : List Entry) (env : Env) (disk : Disk) :
    (logger.rotate ring env disk).1 = { logger with logDisabled := true } ∧
        (logger.rotate ring env disk).2.persisted ⊆ disk.persisted ∨
      ∃ (fresh : Logger) (renamed : Disk),
        fresh.logFile = none ∧ renamed.activeFile = none ∧ renamed.logDir = disk.logDir ∧
          logger.rotate ring env disk = fresh.openLogFile ring env.total renamed := by
  unfold rotate
  split
  rename_i check reclaimed found
  have subset : reclaimed.persisted ⊆ disk.persisted ∧ reclaimed.logDir = disk.logDir := by
    split at found
    · have second := congrArg Prod.snd found
      rw [← show _ = reclaimed from second]
      exact ⟨persisted_reclaim_subset, logDir_reclaim⟩
    · cases found
      exact ⟨fun _ member => member, rfl⟩
  split
  · exact .inl ⟨rfl, subset.1⟩
  · exact .inr ⟨_, _, rfl, Disk.activeFile_renameActive,
      Disk.logDir_renameActive.trans subset.2, rfl⟩

variable {P : Entry → Prop}

theorem openLogFile_holds (holds : disk.Holds P) (buffer : ∀ e ∈ ring, P e) :
    (logger.openLogFile ring total disk).2.Holds P := by
  cases dir : disk.logDir with
  | false =>
    rw [openLogFile_closed _ _ _ dir]
    exact holds
  | true =>
    unfold openLogFile
    rw [if_pos dir]
    dsimp only
    split
    · rw [flushRingBuffer_disk]
      exact holds.openActive.appendAll buffer
    · exact holds.openActive

theorem reclaim_holds {maxSizeBytes : Nat}
    {stamps : List Text} {check : Nat} (holds : disk.Holds P) :
    (reclaim maxSizeBytes free stamps check disk).2.Holds P := by
  induction stamps generalizing check disk with
  | nil => exact holds
  | cons stamp older ih =>
    rw [reclaim]
    split
    · exact holds
    · exact ih holds.remove

theorem rotate_holds (holds : disk.Holds P) (buffer : ∀ e ∈ ring, P e) :
    (logger.rotate ring env disk).2.Holds P := by
  unfold rotate
  split
  rename_i check reclaimed found
  have reclaimed : reclaimed.Holds P := by
    split at found
    · have second := congrArg Prod.snd found
      rw [← show _ = reclaimed from second]
      exact reclaim_holds holds
    · cases found
      exact holds
  split
  · exact reclaimed
  · exact openLogFile_holds reclaimed.renameActive buffer

theorem writeLine_holds (holds : disk.Holds P) (new : P e) :
    (logger.writeLine e disk).2.Holds P := by
  unfold writeLine
  split
  · exact holds
  · split
    · exact holds.append new
    · exact holds

theorem writeEntry_holds (holds : disk.Holds P) (buffer : ∀ e ∈ ring, P e)
    (new : P e) : (logger.writeEntry canRotate ring e env disk).2.Holds P := by
  unfold writeEntry
  split
  · exact holds
  · split
    · exact writeLine_holds (rotate_holds holds buffer) new
    · exact writeLine_holds holds new

theorem level_writeLine : (logger.writeLine e disk).1.level = logger.level := by
  unfold writeLine
  split
  · rfl
  · split <;> rfl

/-- Without a log file nothing is written. -/
theorem writeEntry_closed (closed : logger.logFile = none) :
    logger.writeEntry canRotate ring e env disk = (logger, disk) := by
  simp [writeEntry, closed]

theorem writeEntry_triggered (ring : List Entry) (disk : Disk)
    (enabled : logger.logDisabled = false) (attached : logger.logFile = some file)
    (triggered : logger.triggered e.text env.now = true) :
    logger.writeEntry true ring e env disk =
      (logger.rotate ring env disk).1.writeLine e (logger.rotate ring env disk).2 := by
  simp [writeEntry, attached, enabled, triggered]

theorem level_writeEntry :
    (logger.writeEntry canRotate ring e env disk).1.level = logger.level := by
  unfold writeEntry
  split
  · rfl
  · split
    · exact level_writeLine.trans level_rotate
    · exact level_writeLine

end Logger

/-! ## A process -/

namespace Process

/-- The process logs what is at least as severe as the level. -/
def LevelIs (p : Process) (level : LevelFilter) : Prop :=
  p.maxLevel = level ∧
    match p.logger with
    | some logger => logger.level = level
    | none => level = .info

variable {p : Process} {level : LevelFilter} {logger : Logger} {env : Env} {disk : Disk}
  {canRotate : Bool} {e : Entry}

theorem LevelIs.early : Process.early.LevelIs .info := ⟨rfl, rfl⟩

theorem LevelIs.getLogger (levelIs : p.LevelIs level) :
    (p.getLogger env disk).1.level = level := by
  obtain ⟨-, same⟩ := levelIs
  unfold Process.getLogger
  cases has : p.logger with
  | some logger =>
    rw [has] at same
    exact same
  | none =>
    rw [has] at same
    exact Logger.level_openLogFile.trans same.symm

theorem LevelIs.withLogger (levelIs : p.LevelIs level) (same : logger.level = level) :
    { p with logger := some logger }.LevelIs level := ⟨levelIs.1, same⟩

theorem LevelIs.writeEntry (levelIs : p.LevelIs level) (same : logger.level = level) :
    (p.writeEntry logger canRotate e env disk).1.LevelIs level :=
  ⟨levelIs.1, Logger.level_writeEntry.trans same⟩

end Process

end TrimRouter.Logging
