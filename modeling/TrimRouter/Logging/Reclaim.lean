import TrimRouter.Logging.LoggerEffects

/-!
# Reclaiming space

`reclaim_space` and `list_rotated_log_files` of `logging.rs` on a directory with any content, in any
order of `read_dir`.  The free space is asked for before each deletion; after `k` deletions the
answer is `free k`.  Deletions succeed.  `reclaim_oldest_first` is about such directories, and the
logger's own partition is one (`directory_reclaimSpace`).
-/

namespace TrimRouter.Logging

/-! ## Directories -/

/-- A file name: a text, or bytes that are none. -/
inductive OsName where
  | utf8 (name : Text)
  | bytes (name : List (BitVec 8))
deriving DecidableEq

/-- `OsStr::to_str`. -/
def OsName.toStr : OsName → Option Text
  | .utf8 name => some name
  | .bytes _ => none

/-- An entry of `read_dir`. -/
structure DirEntry where
  name : OsName
  isDir : Bool
deriving DecidableEq

/-- The name of the log file. -/
def activeName : Text := "system.log".toList

/-- `system.`, before the stamp of a rotated file. -/
def logStart : Text := "system.".toList

/-- `.log`, after it. -/
def logEnd : Text := ".log".toList

/-- The stamp in the name of a rotated file. -/
def rotatedStamp (name : Text) : Option Text := do
  let rest ← name.dropPrefix? logStart
  let ts ← rest.dropSuffix? logEnd
  if ts.isEmpty then none else some ts

/-- The name of a rotated file. -/
def rotatedName (stamp : Text) : Text := logStart ++ stamp ++ logEnd

/-- What `read_dir` gives, in its order. -/
abbrev Directory := List DirEntry

namespace Directory

/-- `list_rotated_log_files`: the stamps with the paths. -/
def listRotatedLogFiles (dir : Directory) : List (Text × OsName) :=
  dir.filterMap fun entry =>
    if entry.isDir then none
    else do
      let name ← entry.name.toStr
      let ts ← rotatedStamp name
      some (ts, entry.name)

/-- The rotated files in the order of their stamps. -/
def rotatedInOrder (dir : Directory) : List (Text × OsName) :=
  dir.listRotatedLogFiles.mergeSort fun a b => a.1 ≤ b.1

/-- `remove_file`. -/
def removeFile (dir : Directory) (path : OsName) : Directory :=
  dir.filter fun entry => entry.name ≠ path

/-- The loop of `reclaim_space`, after that many deletions. -/
def reclaim (maxSizeBytes : Nat) (free : Nat → Option Nat) :
    List (Text × OsName) → Nat → Directory → Directory
  | [], _, dir => dir
  | file :: rest, deletions, dir =>
    if (free deletions).any fun space => maxSizeBytes ≤ space then dir
    else reclaim maxSizeBytes free rest (deletions + 1) (dir.removeFile file.2)

/-- `reclaim_space`. -/
def reclaimSpace (maxSizeBytes : Nat) (free : Nat → Option Nat) (dir : Directory) : Directory :=
  reclaim maxSizeBytes free dir.rotatedInOrder 0 dir

end Directory

/-! ## Names -/

variable {name stamp other : Text}

theorem rotatedStamp_eq_some : rotatedStamp name = some stamp ↔
    stamp ≠ [] ∧ name = rotatedName stamp := by
  unfold rotatedStamp rotatedName
  constructor
  · intro read
    obtain ⟨rest, cut, read⟩ := Option.bind_eq_some_iff.mp read
    obtain ⟨ts, cut', read⟩ := Option.bind_eq_some_iff.mp read
    obtain ⟨start, whole, isStart⟩ := List.dropPrefix?_eq_some_iff.mp cut
    obtain ⟨rear, whole', isEnd⟩ := List.dropSuffix?_eq_some_iff.mp cut'
    obtain ⟨nonempty, same⟩ := Option.ite_none_left_eq_some.mp read
    cases same
    refine ⟨?_, ?_⟩
    · rintro rfl
      exact nonempty rfl
    · rw [whole, whole', ← eq_of_beq isStart, eq_of_beq isEnd, List.append_assoc]
  · rintro ⟨nonempty, rfl⟩
    have cut : (logStart ++ stamp ++ logEnd).dropPrefix? logStart = some (stamp ++ logEnd) :=
      List.dropPrefix?_eq_some_iff.mpr ⟨logStart, List.append_assoc _ _ _, beq_self_eq_true _⟩
    have cut' : (stamp ++ logEnd).dropSuffix? logEnd = some stamp :=
      List.dropSuffix?_eq_some_iff.mpr ⟨logEnd, rfl, beq_self_eq_true _⟩
    rw [cut]
    simp [cut', nonempty]

theorem rotatedName_injective (same : rotatedName stamp = rotatedName other) : stamp = other :=
  List.append_cancel_left (List.append_cancel_right same)

/-- `system.log` is too short for the name of a rotated file. -/
theorem rotatedName_ne_activeName : rotatedName stamp ≠ activeName := by
  intro same
  have long : (rotatedName stamp).length = logStart.length + stamp.length + logEnd.length := by
    simp only [rotatedName, List.length_append]
  have parts : logStart.length = 7 ∧ logEnd.length = 4 ∧ activeName.length = 10 := by decide
  rw [same] at long
  omega

/-! ## The listing -/

namespace Directory

variable {dir : Directory} {path : OsName} {entry : DirEntry}

theorem mem_listRotatedLogFiles : (stamp, path) ∈ dir.listRotatedLogFiles ↔
    stamp ≠ [] ∧ path = .utf8 (rotatedName stamp) ∧ ⟨path, false⟩ ∈ dir := by
  unfold listRotatedLogFiles
  rw [List.mem_filterMap]
  constructor
  · rintro ⟨⟨name, isDir⟩, inside, read⟩
    obtain ⟨isFile, read⟩ := Option.ite_none_left_eq_some.mp read
    obtain ⟨text, isText, read⟩ := Option.bind_eq_some_iff.mp read
    obtain ⟨ts, cut, same⟩ := Option.bind_eq_some_iff.mp read
    cases same
    obtain ⟨nonempty, rfl⟩ := rotatedStamp_eq_some.mp cut
    obtain rfl : isDir = false := Bool.eq_false_iff.mpr isFile
    cases name with
    | utf8 text =>
      cases isText
      exact ⟨nonempty, rfl, inside⟩
    | bytes raw => cases isText
  · rintro ⟨nonempty, rfl, inside⟩
    refine ⟨_, inside, ?_⟩
    have cut : rotatedStamp (rotatedName stamp) = some stamp :=
      rotatedStamp_eq_some.mpr ⟨nonempty, rfl⟩
    simp [OsName.toStr, cut]

theorem rotatedInOrder_perm : dir.rotatedInOrder.Perm dir.listRotatedLogFiles :=
  List.mergeSort_perm _ _

theorem rotatedInOrder_sorted : dir.rotatedInOrder.Pairwise fun a b => a.1 ≤ b.1 := by
  have sorted : dir.rotatedInOrder.Pairwise fun a b => decide (a.1 ≤ b.1) = true := by
    apply List.pairwise_mergeSort
    · intro a b c ab bc
      rw [decide_eq_true_eq] at ab bc ⊢
      exact le_trans ab bc
    · intro a b
      rw [Bool.or_eq_true, decide_eq_true_eq, decide_eq_true_eq]
      exact le_total a.1 b.1
  exact sorted.imp of_decide_eq_true

/-! ## The loop -/

theorem removeFile_filter {p : DirEntry → Bool} :
    (dir.removeFile path).filter p = dir.filter fun entry => entry.name ≠ path && p entry := by
  unfold removeFile
  rw [List.filter_filter]
  congr 1
  funext entry
  exact Bool.and_comm _ _

/-- The loop deletes a front of its list: each deletion follows an answer that is too small, and
the loop ends at the first answer that is enough, or with its list. -/
theorem reclaim_spec {maxSizeBytes : Nat} {space : Nat → Nat} (files : List (Text × OsName))
    (deletions : Nat) (dir : Directory) :
    ∃ deleted kept, files = deleted ++ kept ∧
      reclaim maxSizeBytes (fun k => some (space k)) files deletions dir =
        dir.filter (fun entry => entry.name ∉ deleted.map Prod.snd) ∧
      (∀ k < deleted.length, space (deletions + k) < maxSizeBytes) ∧
      (space (deletions + deleted.length) < maxSizeBytes → kept = []) := by
  induction files generalizing deletions dir with
  | nil => exact ⟨[], [], rfl, by simp [reclaim], by simp, fun _ => rfl⟩
  | cons file rest ih =>
    by_cases enough : maxSizeBytes ≤ space deletions
    · refine ⟨[], file :: rest, rfl, ?_, by simp, ?_⟩
      · simp [reclaim, enough]
      · intro short
        exact absurd enough (Nat.not_le.mpr short)
    · obtain ⟨deleted, kept, split, result, before, after⟩ :=
        ih (deletions + 1) (dir.removeFile file.2)
      refine ⟨file :: deleted, kept, ?_, ?_, ?_, ?_⟩
      · rw [split, List.cons_append]
      · unfold reclaim
        rw [if_neg (by simpa using enough), result, removeFile_filter]
        congr 1
        funext entry
        rw [Bool.eq_iff_iff, Bool.and_eq_true, decide_eq_true_eq, decide_eq_true_eq,
          decide_eq_true_eq, List.map_cons, List.mem_cons, not_or]
      · intro k inside
        cases k with
        | zero => exact Nat.lt_of_not_le enough
        | succ k =>
          have earlier := before k (Nat.lt_of_succ_lt_succ inside)
          rwa [Nat.add_assoc, Nat.add_comm 1] at earlier
      · intro short
        apply after
        rw [List.length_cons, Nat.add_comm deleted.length] at short
        rwa [Nat.add_assoc]

end Directory

/-- Whatever the directory holds and however the free space changes with the deletions:
`reclaim_space` deletes the oldest rotated files, by their names; each deletion happens while
there is too little space, and none is left if there still is too little at the end; and nothing
else is deleted, `system.log` in particular. -/
theorem reclaim_oldest_first {dir : Directory} (distinct : (dir.map DirEntry.name).Nodup)
    (maxSizeBytes : Nat) (space : Nat → Nat) :
    ∃ deleted kept, dir.rotatedInOrder = deleted ++ kept ∧
      (∀ entry, entry ∈ dir.reclaimSpace maxSizeBytes (fun k => some (space k)) ↔
        entry ∈ dir ∧ entry.name ∉ deleted.map Prod.snd) ∧
      (∀ k < deleted.length, space k < maxSizeBytes) ∧
      (space deleted.length < maxSizeBytes → kept = []) ∧
      (dir.rotatedInOrder.Perm dir.listRotatedLogFiles ∧
        dir.rotatedInOrder.Pairwise fun a b => a.1 ≤ b.1) ∧
      (∀ stamp path, (stamp, path) ∈ dir.listRotatedLogFiles ↔
        stamp ≠ [] ∧ path = .utf8 (rotatedName stamp) ∧ ⟨path, false⟩ ∈ dir) ∧
      (∀ entry ∈ dir, (∀ stamp, stamp ≠ [] → entry ≠ ⟨.utf8 (rotatedName stamp), false⟩) →
        entry ∈ dir.reclaimSpace maxSizeBytes fun k => some (space k)) ∧
      ∀ isDir, ⟨.utf8 activeName, isDir⟩ ∈ dir →
        ⟨.utf8 activeName, isDir⟩ ∈ dir.reclaimSpace maxSizeBytes fun k => some (space k) := by
  obtain ⟨deleted, kept, split, result, before, after⟩ :=
    @Directory.reclaim_spec maxSizeBytes space dir.rotatedInOrder 0 dir
  simp only [Nat.zero_add] at before after
  have stays : ∀ entry, entry ∈ dir.reclaimSpace maxSizeBytes (fun k => some (space k)) ↔
      entry ∈ dir ∧ entry.name ∉ deleted.map Prod.snd := by
    intro entry
    unfold Directory.reclaimSpace
    rw [result, List.mem_filter, decide_eq_true_eq]
  have others : ∀ entry ∈ dir,
      (∀ stamp, stamp ≠ [] → entry ≠ ⟨.utf8 (rotatedName stamp), false⟩) →
      entry ∈ dir.reclaimSpace maxSizeBytes fun k => some (space k) := by
    intro entry inside other
    refine (stays entry).mpr ⟨inside, ?_⟩
    intro listed
    obtain ⟨⟨stamp, path⟩, front, same⟩ := List.mem_map.mp listed
    have inOrder : (stamp, path) ∈ dir.rotatedInOrder := by
      rw [split]
      exact List.mem_append_left _ front
    obtain ⟨nonempty, named, isFile⟩ := Directory.mem_listRotatedLogFiles.mp
      (Directory.rotatedInOrder_perm.mem_iff.mp inOrder)
    -- names are distinct, so the entry is the rotated file
    have entryIs : entry = ⟨path, false⟩ :=
      List.inj_on_of_nodup_map distinct inside isFile same.symm
    exact other stamp nonempty (named ▸ entryIs)
  refine ⟨deleted, kept, split, stays, before, after,
    ⟨Directory.rotatedInOrder_perm, Directory.rotatedInOrder_sorted⟩,
    fun _ _ => Directory.mem_listRotatedLogFiles, others, ?_⟩
  intro isDir inside
  refine others _ inside ?_
  intro stamp nonempty same
  have named := congrArg DirEntry.name same
  exact rotatedName_ne_activeName (OsName.utf8.inj named).symm

/-- Two rotated files, a directory with the name of one, and other files. -/
def sampleDirectory : Directory :=
  [⟨.utf8 "system.2026-01-03T000000Z.log".toList, false⟩, ⟨.utf8 activeName, false⟩,
    ⟨.bytes [0xff#8], false⟩, ⟨.utf8 "system.2026-01-02T000000Z.log".toList, false⟩,
    ⟨.utf8 "system.old.log".toList, true⟩, ⟨.utf8 "system..log".toList, false⟩]

/-- After the first deletion there is enough space, and the younger file is kept. -/
theorem reclaim_oldest_first_sample :
    (sampleDirectory.map DirEntry.name).Nodup ∧
      ⟨.utf8 activeName, false⟩ ∈
        sampleDirectory.reclaimSpace 100 (fun k => some (60 * (k + 1))) ∧
      ∃ deleted kept, sampleDirectory.rotatedInOrder = deleted ++ kept ∧
        ∀ k < deleted.length, 60 * (k + 1) < 100 := by
  have distinct : (sampleDirectory.map DirEntry.name).Nodup := by decide
  obtain ⟨deleted, kept, split, -, before, -, -, -, -, active⟩ :=
    reclaim_oldest_first distinct 100 fun k => 60 * (k + 1)
  exact ⟨distinct, active false (by decide), deleted, kept, split, before⟩

/-! ## The partition of the logger -/

/-- The name of a file in the log directory. -/
def FileName.dirEntry : FileName → DirEntry
  | .active => ⟨.utf8 activeName, false⟩
  | .rotated stamp => ⟨.utf8 (rotatedName stamp), false⟩

/-- The log directory of a partition. -/
def Disk.directory (disk : Disk) : Directory :=
  disk.files.filterMap fun f => f.name.map FileName.dirEntry

variable {disk : Disk}

theorem listRotatedLogFiles_directory : disk.directory.listRotatedLogFiles =
    disk.listRotatedLogFiles.map fun stamp => (stamp, .utf8 (rotatedName stamp)) := by
  have active : rotatedStamp activeName = none := by decide
  unfold Directory.listRotatedLogFiles Disk.directory Disk.listRotatedLogFiles
  rw [List.filterMap_filterMap, List.map_filterMap]
  apply List.filterMap_congr
  intro f _
  rcases f.name with _ | name
  · rfl
  · cases name with
    | active =>
      simp [FileName.dirEntry, OsName.toStr, active]
    | rotated stamp =>
      by_cases empty : stamp = []
      · have nothing : rotatedStamp (rotatedName []) = none := by decide
        simp [FileName.dirEntry, OsName.toStr, empty, nothing]
      · have cut : rotatedStamp (rotatedName stamp) = some stamp :=
          rotatedStamp_eq_some.mpr ⟨empty, rfl⟩
        simp [FileName.dirEntry, OsName.toStr, empty, cut]

theorem directory_remove : (disk.remove stamp).directory =
    disk.directory.removeFile (.utf8 (rotatedName stamp)) := by
  unfold Disk.remove Disk.directory Directory.removeFile
  rw [List.filterMap_map, List.filter_filterMap]
  apply List.filterMap_congr
  intro f _
  dsimp only [Function.comp]
  rcases named : f.name with _ | name
  · simp [named]
  · cases name with
    | active =>
      have other : OsName.utf8 activeName ≠ .utf8 (rotatedName stamp) := by
        intro same
        exact rotatedName_ne_activeName (OsName.utf8.inj same).symm
      simp [named, FileName.dirEntry, other, Option.filter_some]
    | rotated stamp' =>
      by_cases same : stamp' = stamp
      · simp [FileName.dirEntry, same, Option.filter_some]
      · have other : OsName.utf8 (rotatedName stamp') ≠ .utf8 (rotatedName stamp) := by
          intro equal
          exact same (rotatedName_injective (OsName.utf8.inj equal))
        simp [named, FileName.dirEntry, same, other, Option.filter_some]

theorem directory_reclaim {maxSizeBytes : Nat} {free : Nat → Option Nat} {stamps : List Text}
    {check deletions : Nat} :
    (Logger.reclaim maxSizeBytes free stamps (check + deletions) disk).2.directory =
      Directory.reclaim maxSizeBytes (fun k => free (check + k))
        (stamps.map fun stamp => (stamp, .utf8 (rotatedName stamp))) deletions
        disk.directory := by
  induction stamps generalizing deletions disk with
  | nil => rfl
  | cons stamp rest ih =>
    rw [Logger.reclaim, List.map_cons, Directory.reclaim]
    split
    · rfl
    · rw [Nat.add_assoc, ih, directory_remove]

/-- `reclaim_space` does to the partition of the logger what it does to its directory. -/
theorem directory_reclaimSpace {logger : Logger} {free : Nat → Option Nat} {check : Nat} :
    (logger.reclaimSpace free check disk).2.directory =
      disk.directory.reclaimSpace logger.maxSizeBytes fun k => free (check + k) := by
  have sorted : disk.directory.rotatedInOrder =
      (disk.listRotatedLogFiles.mergeSort fun a b => a ≤ b).map
        fun stamp => (stamp, .utf8 (rotatedName stamp)) := by
    unfold Directory.rotatedInOrder
    rw [listRotatedLogFiles_directory, List.map_mergeSort]
    intro a _ b _
    rfl
  unfold Logger.reclaimSpace Directory.reclaimSpace
  rw [sorted, ← directory_reclaim, Nat.add_zero]

end TrimRouter.Logging
