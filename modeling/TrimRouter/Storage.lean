import Mathlib.Algebra.Group.Nat.Units
import Mathlib.Order.CompletePartialOrder
import Mathlib.Order.Interval.Set.Disjoint
import TrimRouter.Lib.Check

/-!
# The log partition

`calculate_p2_layout` and `write_mbr_partition_2` of `init/storage.rs`: the entry of the log
partition in the partition table of the boot disk.  The entry begins after partition 1 and takes
the rest of the disk.  The entries 3 and 4 are written back as they were read, and are not looked
at, so the new entry takes their sectors too if they lie behind partition 1.
-/

namespace TrimRouter.Storage

open Check

/-- `mbrman::CHS`. -/
structure Chs where
  cylinder : BitVec 16
  head : BitVec 8
  sector : BitVec 8
deriving DecidableEq

/-- `mbrman::MBRPartitionEntry`. -/
structure PartitionEntry where
  boot : BitVec 8
  firstChs : Chs
  sys : BitVec 8
  lastChs : Chs
  startingLba : BitVec 32
  sectors : BitVec 32
deriving DecidableEq

namespace PartitionEntry

/-- `MBRPartitionEntry::is_used`. -/
def isUsed (entry : PartitionEntry) : Bool := entry.sys != 0

/-- The sector after the last one of the entry. -/
def stop (entry : PartitionEntry) : Nat := entry.startingLba.toNat + entry.sectors.toNat

/-- The sectors of the entry. -/
def area (entry : PartitionEntry) : Set Nat := Set.Ico entry.startingLba.toNat entry.stop

end PartitionEntry

/-- The four entries of `mbrman::MBR`. -/
structure Mbr where
  partition1 : PartitionEntry
  partition2 : PartitionEntry
  partition3 : PartitionEntry
  partition4 : PartitionEntry
deriving DecidableEq

namespace Mbr

def entries (mbr : Mbr) : List PartitionEntry :=
  [mbr.partition1, mbr.partition2, mbr.partition3, mbr.partition4]

/-- The used entries lie on the disk, and no two of them have a sector in common. -/
structure Sound (mbr : Mbr) (diskSectors : BitVec 64) : Prop where
  onDisk : ∀ entry ∈ mbr.entries, entry.isUsed = true → entry.stop ≤ diskSectors.toNat
  apart : mbr.entries.Pairwise fun left right =>
    left.isUsed = true → right.isUsed = true → Disjoint left.area right.area

end Mbr

/-- `MBR_PART_TYPE_FAT32_LBA`. -/
def mbrPartTypeFat32Lba : BitVec 8 := 0x0C

/-- `calculate_p2_layout`: the first sector and the number of sectors. -/
def calculateP2Layout (p1StartingLba p1Sectors : BitVec 32) (diskSectors : BitVec 64) :
    Except String (BitVec 32 × BitVec 32) := do
  ensure (p1Sectors ≠ 0) "Boot partition 1 has zero sectors"
  let startSector := min (p1StartingLba.toNat + p1Sectors.toNat) (2 ^ 64 - 1)
  ensure (startSector < diskSectors.toNat)
    ("Disk is too small for log partition (size: " ++ toString diskSectors.toNat ++
      " sectors, required > " ++ toString startSector ++ " sectors)")
  let p2Sectors := diskSectors.toNat - startSector
  ensure (p2Sectors ≠ 0) "Calculated zero sectors for log partition"
  ensure (startSector < 2 ^ 32) "Starting sector exceeds 32-bit MBR LBA limit"
  return (.ofNat 32 startSector, .ofNat 32 (min p2Sectors (2 ^ 32 - 1)))

/-- `write_mbr_partition_2`: the table that it writes, given what it reads as the size and the
table of the disk. -/
def writeMbrPartition2 (diskSectors : Except String (BitVec 64)) (table : Except String Mbr) :
    Except String Mbr := do
  let diskSectors ← diskSectors
  let mbr ← table
  let (p2Lba, p2Len) ← calculateP2Layout mbr.partition1.startingLba mbr.partition1.sectors
    diskSectors
  return { mbr with
    partition2 := {
      boot := 0
      firstChs := ⟨0, 0, 0⟩
      sys := mbrPartTypeFat32Lba
      lastChs := ⟨0, 0, 0⟩
      startingLba := p2Lba
      sectors := p2Len } }

variable {mbr written : Mbr} {diskSectors : BitVec 64}

/-- What the layout is, in numbers that do not wrap around. -/
theorem calculateP2Layout_spec {p1StartingLba p1Sectors p2Lba p2Len : BitVec 32}
    (layout : calculateP2Layout p1StartingLba p1Sectors diskSectors = .ok (p2Lba, p2Len)) :
    0 < p1Sectors.toNat ∧ p2Lba.toNat = p1StartingLba.toNat + p1Sectors.toNat ∧
      p2Lba.toNat < diskSectors.toNat ∧
      p2Len.toNat = min (diskSectors.toNat - p2Lba.toNat) (2 ^ 32 - 1) := by
  unfold calculateP2Layout at layout
  obtain ⟨_, boot, layout⟩ := bind_eq_ok.mp layout
  obtain ⟨_, room, layout⟩ := bind_eq_ok.mp layout
  obtain ⟨_, -, layout⟩ := bind_eq_ok.mp layout
  obtain ⟨_, small, layout⟩ := bind_eq_ok.mp layout
  rw [ensure_eq_ok, decide_eq_true_eq] at boot room small
  cases layout
  have some' : p1Sectors.toNat ≠ 0 := fun zero => boot (BitVec.eq_of_toNat_eq zero)
  have bounds := p1StartingLba.isLt
  have bounds' := p1Sectors.isLt
  have start : min (p1StartingLba.toNat + p1Sectors.toNat) (2 ^ 64 - 1) =
      p1StartingLba.toNat + p1Sectors.toNat := by omega
  rw [start] at small room ⊢
  rw [BitVec.toNat_ofNat, BitVec.toNat_ofNat, Nat.mod_eq_of_lt small,
    Nat.mod_eq_of_lt (by omega : min (diskSectors.toNat - (p1StartingLba.toNat + p1Sectors.toNat))
      (2 ^ 32 - 1) < 2 ^ 32)]
  exact ⟨Nat.pos_of_ne_zero some', rfl, room, rfl⟩

/-- What is written: entry 2, from the end of partition 1 to the end of the disk, or as far as an
entry can go. -/
theorem writeMbrPartition2_spec
    (wrote : writeMbrPartition2 (.ok diskSectors) (.ok mbr) = .ok written) :
    written = { mbr with partition2 := written.partition2 } ∧ 0 < mbr.partition1.sectors.toNat ∧
      written.partition2.startingLba.toNat = mbr.partition1.stop ∧
      mbr.partition1.stop < diskSectors.toNat ∧
      written.partition2.sectors.toNat =
        min (diskSectors.toNat - mbr.partition1.stop) (2 ^ 32 - 1) := by
  obtain ⟨_, ⟨⟩, wrote⟩ := bind_eq_ok.mp wrote
  obtain ⟨_, ⟨⟩, wrote⟩ := bind_eq_ok.mp wrote
  obtain ⟨⟨p2Lba, p2Len⟩, layout, wrote⟩ := bind_eq_ok.mp wrote
  cases wrote
  obtain ⟨some', start, room, length⟩ := calculateP2Layout_spec layout
  have start : p2Lba.toNat = mbr.partition1.stop := start
  exact ⟨rfl, some', start, start ▸ room, start ▸ length⟩

/-- The new entry is not empty, starts right after partition 1, ends on the disk and leaves the
other entries as they are.  Of these, partition 1 has no sector in common with it, and the others
have none exactly if they end before it. -/
theorem log_partition_apart_iff (sound : mbr.Sound diskSectors)
    (wrote : writeMbrPartition2 (.ok diskSectors) (.ok mbr) = .ok written) :
    written = { mbr with partition2 := written.partition2 } ∧
      0 < written.partition2.sectors.toNat ∧
      written.partition2.startingLba.toNat = mbr.partition1.stop ∧
      written.partition2.stop ≤ diskSectors.toNat ∧
      Disjoint written.partition2.area mbr.partition1.area ∧
      ((∀ entry ∈ [mbr.partition3, mbr.partition4], entry.isUsed = true →
          Disjoint written.partition2.area entry.area) ↔
        ∀ entry ∈ [mbr.partition3, mbr.partition4], entry.isUsed = true →
          entry.sectors ≠ 0 → entry.stop ≤ mbr.partition1.stop) := by
  obtain ⟨others, some', start, room, length⟩ := writeMbrPartition2_spec wrote
  have ends : written.partition2.stop = mbr.partition1.stop +
      min (diskSectors.toNat - mbr.partition1.stop) (2 ^ 32 - 1) := by
    rw [PartitionEntry.stop, start, length]
  refine ⟨others, by omega, start, by omega, ?_, ?_⟩
  · rw [PartitionEntry.area, PartitionEntry.area, start, Set.Ico_disjoint_Ico]
    omega
  · refine forall₂_congr fun entry listed => forall_congr' fun used => ?_
    have onDisk : entry.stop ≤ diskSectors.toNat :=
      sound.onDisk entry (List.mem_cons_of_mem _ (List.mem_cons_of_mem _ listed)) used
    have lba := entry.startingLba.isLt
    have own : entry.stop = entry.startingLba.toNat + entry.sectors.toNat := rfl
    have first : mbr.partition1.stop =
      mbr.partition1.startingLba.toNat + mbr.partition1.sectors.toNat := rfl
    rw [PartitionEntry.area, PartitionEntry.area, start, Set.Ico_disjoint_Ico, ne_eq,
      ← BitVec.toNat_inj]
    -- an entry behind partition 1 begins on the disk and at a number of 32 bits
    simp only [BitVec.ofNat_eq_ofNat, BitVec.toNat_zero]
    omega

/-- A used entry with these sectors. -/
def sampleEntry (startingLba sectors : BitVec 32) : PartitionEntry :=
  ⟨0, ⟨0, 0, 0⟩, mbrPartTypeFat32Lba, ⟨0, 0, 0⟩, startingLba, sectors⟩

/-- An entry that is not used. -/
def unusedEntry : PartitionEntry := ⟨0, ⟨0, 0, 0⟩, 0, ⟨0, 0, 0⟩, 0, 0⟩

/-- The table of the image, with partition 1 up to 121 MiB, and a partition 3. -/
def sampleTable (partition3 : PartitionEntry) : Mbr :=
  ⟨sampleEntry 2048 245760, unusedEntry, partition3, unusedEntry⟩

theorem sound_sampleTable {partition3 : PartitionEntry} (fits : partition3.stop ≤ 1000000)
    (apart : partition3.isUsed = true →
      partition3.stop ≤ 2048 ∨ 247808 ≤ partition3.startingLba.toNat) :
    (sampleTable partition3).Sound 1000000 := by
  constructor
  · intro entry listed used
    simp only [Mbr.entries, sampleTable, List.mem_cons, List.not_mem_nil, or_false] at listed
    rcases listed with rfl | rfl | rfl | rfl
    · decide
    · decide
    · exact fits
    · decide
  · have unused : unusedEntry.isUsed = false := rfl
    have first : (sampleEntry 2048 245760).stop = 247808 := rfl
    simp only [Mbr.entries, sampleTable, List.pairwise_cons, List.forall_mem_cons, unused]
    simp only [PartitionEntry.area, first, Set.Ico_disjoint_Ico, Bool.false_eq_true]
    refine ⟨⟨nofun, fun _ used => ?_, nofun, nofun⟩, ⟨nofun, nofun, nofun⟩, ⟨nofun, nofun⟩, nofun,
      .nil⟩
    have start : (sampleEntry 2048 245760).startingLba.toNat = 2048 := rfl
    have := apart used
    omega

/-- The image on a disk of a million sectors, with a partition 3 before partition 1. -/
theorem log_partition_apart_on_image : ∃ written,
    writeMbrPartition2 (.ok 1000000) (.ok (sampleTable (sampleEntry 1024 1024))) = .ok written ∧
      written.partition2.startingLba = 247808 ∧ written.partition2.stop = 1000000 ∧
      ∀ entry ∈ [sampleEntry 1024 1024, unusedEntry], entry.isUsed = true →
        Disjoint written.partition2.area entry.area := by
  refine ⟨_, rfl, rfl, rfl, ?_⟩
  have sound : (sampleTable (sampleEntry 1024 1024)).Sound 1000000 :=
    sound_sampleTable (by decide) (by decide)
  obtain ⟨-, -, -, -, -, apart⟩ := log_partition_apart_iff sound rfl
  exact apart.mpr (by decide)

/-- A partition 3 behind partition 1 is inside the new partition. -/
theorem log_partition_overlaps : ∃ written,
    (sampleTable (sampleEntry 500000 100000)).Sound 1000000 ∧
      writeMbrPartition2 (.ok 1000000) (.ok (sampleTable (sampleEntry 500000 100000))) =
        .ok written ∧
      500000 ∈ written.partition2.area ∧ 500000 ∈ written.partition3.area := by
  refine ⟨_, sound_sampleTable (by decide) (by decide), rfl, ?_⟩
  exact ⟨⟨by decide, by decide⟩, ⟨by decide, by decide⟩⟩

end TrimRouter.Storage
