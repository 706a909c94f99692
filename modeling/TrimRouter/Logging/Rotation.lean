import TrimRouter.Lib.Run
import TrimRouter.Logging.LoggerEffects

/-!
# What a rotation does to earlier files

`rotate` of `logging.rs` names the rotated file after the current second and renames `system.log` to
it.  A rename replaces a file of the same name, so the names must differ: two rotations in one
second, or a clock that is set back and passes the same second again, lose the earlier file.  The
result is `history_kept_iff_never_replaced`.
-/

namespace TrimRouter.Logging

open Run

/-! ## Partitions -/

namespace Disk

variable {d₁ d₂ d₃ disk : Disk} {file i : Nat} {f : File} {e : Entry} {es : List Entry}
  {stamp : Text}

/-- Every file that has a name is still there and has grown at most: a rotated file under its
name, and `system.log` under its own name or as a rotated file. -/
def Keeps (d₁ d₂ : Disk) : Prop :=
  ∀ (i : Nat) (f : File), d₁.files[i]? = some f → f.name.isSome = true →
    ∃ g : File, d₂.files[i]? = some g ∧
      (g.name = f.name ∨ f.name = some .active ∧ ∃ stamp, g.name = some (.rotated stamp)) ∧
      f.lines <+: g.lines ∧ f.size ≤ g.size

theorem Keeps.refl (disk : Disk) : disk.Keeps disk :=
  fun _ f found _ => ⟨f, found, .inl rfl, List.prefix_rfl, Nat.le_refl _⟩

theorem Keeps.trans (first : d₁.Keeps d₂) (second : d₂.Keeps d₃) : d₁.Keeps d₃ := by
  intro i f found named
  obtain ⟨g, found', name, lines, size⟩ := first i f found named
  have named' : g.name.isSome = true := by
    rcases name with same | ⟨-, stamp, rotated⟩
    · rw [same]
      exact named
    · rw [rotated]
      rfl
  obtain ⟨h, found'', name', lines', size'⟩ := second i g found' named'
  refine ⟨h, found'', ?_, lines.trans lines', size.trans size'⟩
  rcases name with same | ⟨active, stamp, rotated⟩
  · rw [← same]
    exact name'
  · -- a rotated file keeps its name
    rcases name' with same' | ⟨wrong, -⟩
    · exact .inr ⟨active, stamp, same'.trans rotated⟩
    · rw [rotated] at wrong
      cases wrong

theorem Grows.keeps (grows : d₁.Grows d₂) : d₁.Keeps d₂ := by
  intro i f found _
  obtain ⟨g, found', name, lines, size⟩ := grows.files i f found
  exact ⟨g, found', .inl name, lines, size⟩

/-- The file has been removed. -/
def Gone (disk : Disk) (i : Nat) : Prop := ∃ f : File, disk.files[i]? = some f ∧ f.name = none

theorem Gone.grows (gone : d₁.Gone i) (grows : d₁.Grows d₂) : d₂.Gone i := by
  obtain ⟨f, found, removed⟩ := gone
  obtain ⟨g, found', name, -⟩ := grows.files i f found
  exact ⟨g, found', name.trans removed⟩

/-- What has been removed has not been kept. -/
theorem Gone.not_keeps (gone : d₂.Gone i) (found : d₁.files[i]? = some f)
    (named : f.name.isSome = true) : ¬ d₁.Keeps d₂ := by
  intro keeps
  obtain ⟨g, found', removed⟩ := gone
  obtain ⟨h, found'', name, -⟩ := keeps i f found named
  obtain rfl : h = g := Option.some.inj (found''.symm.trans found')
  rcases name with same | ⟨-, stamp, rotated⟩
  · rw [← same, removed] at named
    cases named
  · rw [removed] at rotated
    cases rotated

/-- `system.log` exists, and a rotated file has the name that it is to get. -/
def inUse (disk : Disk) (stamp : Text) : Bool :=
  disk.files.any (fun f => f.name = some .active) &&
    disk.files.any (fun f => f.name = some (.rotated stamp))

/-- A rename, file by file. -/
def renamed (stamp : Text) (f : File) : File :=
  if f.name = some (.rotated stamp) then { f with name := none }
  else if f.name = some .active then { f with name := some (.rotated stamp) }
  else f

theorem getElem?_renameActive (active : disk.files.any (fun f => f.name = some .active) = true) :
    (disk.renameActive stamp).files[i]? = disk.files[i]?.map (renamed stamp) := by
  unfold renameActive
  rw [if_pos active]
  simp only [remove, List.getElem?_map, Option.map_map]
  congr 1
  funext f
  unfold renamed
  dsimp only [Function.comp]
  by_cases taken : f.name = some (.rotated stamp)
  · simp [taken]
  · simp [taken]

theorem renameActive_of_missing
    (missing : disk.files.any (fun f => f.name = some .active) = false) :
    disk.renameActive stamp = disk := by
  unfold renameActive
  rw [if_neg (Bool.eq_false_iff.mp missing)]

theorem Gone.renameActive (gone : disk.Gone i) : (disk.renameActive stamp).Gone i := by
  cases active : disk.files.any (fun f => f.name = some .active) with
  | false =>
    rw [renameActive_of_missing active]
    exact gone
  | true =>
    obtain ⟨f, found, removed⟩ := gone
    refine ⟨f, ?_, removed⟩
    rw [getElem?_renameActive active, found, Option.map_some]
    simp [renamed, removed]

/-- The log file gets its new name. -/
theorem renameActive_active (found : disk.files[i]? = some f) (active : f.name = some .active) :
    ∃ g : File, (disk.renameActive stamp).files[i]? = some g ∧ g.name = some (.rotated stamp) ∧
      g.lines = f.lines ∧ g.size = f.size := by
  have exists_ : disk.files.any (fun f => f.name = some .active) = true :=
    List.any_eq_true.mpr ⟨f, List.mem_of_getElem? found, decide_eq_true active⟩
  refine ⟨renamed stamp f, ?_, ?_, ?_, ?_⟩
  · rw [getElem?_renameActive exists_, found, Option.map_some]
  all_goals simp [renamed, active]

theorem exists_gone_of_inUse (taken : disk.inUse stamp = true) :
    ∃ (i : Nat) (f : File), disk.files[i]? = some f ∧ f.name = some (.rotated stamp) ∧
      (disk.renameActive stamp).Gone i := by
  obtain ⟨active, used⟩ := Bool.and_eq_true_iff.mp taken
  obtain ⟨f, inside, named⟩ := List.any_eq_true.mp used
  have named : f.name = some (.rotated stamp) := of_decide_eq_true named
  obtain ⟨i, found⟩ := List.mem_iff_getElem?.mp inside
  refine ⟨i, f, found, named, renamed stamp f, ?_, ?_⟩
  · rw [getElem?_renameActive active, found, Option.map_some]
  · simp [renamed, named]

theorem keeps_renameActive_iff : disk.Keeps (disk.renameActive stamp) ↔
    disk.inUse stamp = false := by
  constructor
  · intro keeps
    by_contra taken
    obtain ⟨i, f, found, named, gone⟩ :=
      exists_gone_of_inUse (Bool.eq_true_of_not_eq_false taken)
    exact gone.not_keeps found (by rw [named]; rfl) keeps
  · intro free i f found named
    cases active : disk.files.any (fun f => f.name = some .active) with
    | false =>
      rw [renameActive_of_missing active]
      exact Keeps.refl disk i f found named
    | true =>
      have other : f.name ≠ some (.rotated stamp) := by
        intro same
        have used : disk.files.any (fun f => f.name = some (.rotated stamp)) = true :=
          List.any_eq_true.mpr ⟨f, List.mem_of_getElem? found, decide_eq_true same⟩
        rw [inUse, active, used] at free
        cases free
      refine ⟨renamed stamp f, ?_, ?_, ?_⟩
      · rw [getElem?_renameActive active, found, Option.map_some]
      · by_cases isActive : f.name = some .active
        · exact .inr ⟨isActive, stamp, by simp [renamed, isActive]⟩
        · exact .inl (by simp [renamed, other, isActive])
      · by_cases isActive : f.name = some .active
        · simp [renamed, isActive]
        · simp [renamed, other, isActive]

end Disk

/-! ## Log calls -/

/-- The logger of PID 1 with its buffer and the partition. -/
structure Session where
  logger : Logger
  ring : RingBuffer
  disk : Disk

/-- A log call: its line, and what it reads from the system. -/
structure Write where
  entry : Entry
  env : Env

namespace Session

variable {s t : Session} {w : Write} {writes : List Write}

/-- `write_entry`, in PID 1. -/
def write (s : Session) (w : Write) : Session :=
  let ring := s.ring.pushEvict w.entry
  let (logger, disk) := s.logger.writeEntry true ring.items w.entry w.env s.disk
  ⟨logger, ring, disk⟩

/-- A log call that finds enough free space, so that nothing is reclaimed. -/
def step (s : Session) (w : Write) : Option Session :=
  if (w.env.free 0).any fun space => space < s.logger.maxSizeBytes then none
  else some (s.write w)

/-- The log call renames the log file. -/
def rotates (s : Session) (w : Write) : Bool :=
  !s.logger.logDisabled && s.logger.logFile.isSome &&
    s.logger.triggered w.entry.text w.env.now &&
    !((w.env.free 1).any fun space => space < min s.logger.maxSizeBytes minUsableLogSpace)

/-- The rotation of the log call finds its name in use. -/
def replaces (s : Session) (w : Write) : Bool :=
  s.rotates w && s.disk.inUse w.env.now.fileStamp

/-- With enough space a rotation renames the log file and opens a new one, or gives up. -/
theorem rotate_roomy {logger : Logger} {ring : List Entry} {env : Env} {disk : Disk}
    (roomy : (env.free 0).any (fun space => space < logger.maxSizeBytes) = false) :
    (if (env.free 1).any fun space => space < min logger.maxSizeBytes minUsableLogSpace then disk
      else disk.renameActive env.now.fileStamp).Grows (logger.rotate ring env disk).2 := by
  unfold Logger.rotate
  rw [roomy]
  simp only [Bool.false_eq_true, if_false]
  split
  · exact .refl disk
  · exact Logger.grows_openLogFile

theorem effect (taken : s.step w = some t) :
    (if s.rotates w then s.disk.renameActive w.env.now.fileStamp else s.disk).Grows t.disk := by
  obtain ⟨roomy, same⟩ := Option.ite_none_left_eq_some.mp taken
  cases same
  have roomy := Bool.eq_false_iff.mpr roomy
  unfold rotates write Logger.writeEntry
  dsimp only
  cases disabled : s.logger.logDisabled with
  | true => exact .refl s.disk
  | false =>
    cases file : s.logger.logFile with
    | none => exact .refl s.disk
    | some file =>
      cases triggered : s.logger.triggered w.entry.text w.env.now with
      | false => exact Logger.grows_writeLine
      | true =>
        have rotated := @rotate_roomy s.logger (s.ring.pushEvict w.entry).items w.env s.disk
          roomy
        cases full : (w.env.free 1).any
            (fun space => space < min s.logger.maxSizeBytes minUsableLogSpace) with
        | true =>
          rw [full] at rotated
          exact rotated.trans Logger.grows_writeLine
        | false =>
          rw [full] at rotated
          exact rotated.trans Logger.grows_writeLine

/-- A log call keeps every file exactly when it does not replace one. -/
theorem keeps_iff (taken : s.step w = some t) :
    s.disk.Keeps t.disk ↔ s.replaces w = false := by
  have grows := effect taken
  unfold replaces
  cases rotates : s.rotates w with
  | false =>
    rw [rotates] at grows
    exact iff_of_true grows.keeps rfl
  | true =>
    rw [rotates] at grows
    rw [Bool.true_and]
    constructor
    · intro keeps
      by_contra taken'
      obtain ⟨i, f, found, named, gone⟩ :=
        Disk.exists_gone_of_inUse (Bool.eq_true_of_not_eq_false taken')
      exact (gone.grows grows).not_keeps found (by rw [named]; rfl) keeps
    · intro free
      exact (Disk.keeps_renameActive_iff.mpr free).trans grows.keeps

theorem gone_step {i : Nat} (gone : s.disk.Gone i) (taken : s.step w = some t) :
    t.disk.Gone i := by
  have grows := effect taken
  cases rotates : s.rotates w with
  | false =>
    rw [rotates] at grows
    exact gone.grows grows
  | true =>
    rw [rotates] at grows
    exact gone.renameActive.grows grows

/-- A file that a log call replaces is lost for good. -/
theorem not_keeps_of_replaces {u : Session} (replaces : s.replaces w = true)
    (taken : s.step w = some t) (run : exec Session.step t writes = some u) :
    ¬ s.disk.Keeps u.disk := by
  obtain ⟨rotates, inUse⟩ := Bool.and_eq_true_iff.mp replaces
  have grows := effect taken
  rw [rotates] at grows
  obtain ⟨i, f, found, named, gone⟩ := Disk.exists_gone_of_inUse inUse
  have later : u.disk.Gone i :=
    exec_keeps (fun s => s.disk.Gone i) (fun _ _ _ => gone_step) (gone.grows grows) run
  exact later.not_keeps found (by rw [named]; rfl)

end Session

/-- In every run of log calls of PID 1, at any times and without a need to reclaim space: every
file that is there at some time is kept until the end exactly when no rotation finds its name in
use; and a rotation puts the lines of the log file into the rotated file. -/
theorem history_kept_iff_never_replaced {start final : Session} {writes : List Write}
    (run : exec Session.step start writes = some final) :
    ((∀ done mid, done <+: writes → exec Session.step start done = some mid →
        mid.disk.Keeps final.disk) ↔
      Meets Session.step (fun s w => s.replaces w = false) start writes) ∧
      ∀ (s : Session) (w : Write) (t : Session), s.step w = some t → s.rotates w = true →
        ∀ (i : Nat) (f : File), s.disk.files[i]? = some f → f.name = some .active →
          ∃ g : File, t.disk.files[i]? = some g ∧
            g.name = some (.rotated w.env.now.fileStamp) ∧ f.lines <+: g.lines ∧
            f.size ≤ g.size := by
  refine ⟨?_, ?_⟩
  · induction writes generalizing start with
    | nil =>
      cases run
      refine iff_of_true ?_ trivial
      intro done mid inside part
      rw [List.prefix_nil.mp inside] at part
      cases part
      exact .refl _
    | cons w rest ih =>
      obtain ⟨next, first, onward⟩ := exec_cons_eq_some.mp run
      rw [meets_cons, first]
      simp only [Option.mem_def, Option.some.injEq, forall_eq']
      rw [← ih onward]
      constructor
      · intro keeps
        refine ⟨?_, ?_⟩
        · by_contra replaces
          exact Session.not_keeps_of_replaces (Bool.eq_true_of_not_eq_false replaces) first
            onward (keeps [] start List.nil_prefix rfl)
        · intro done mid inside part
          refine keeps (w :: done) mid (List.cons_prefix_cons.mpr ⟨rfl, inside⟩) ?_
          exact exec_cons_eq_some.mpr ⟨next, first, part⟩
      · intro ⟨free, later⟩ done mid inside part
        cases done with
        | nil =>
          cases part
          have now := (Session.keeps_iff first).mpr free
          exact now.trans (later [] next List.nil_prefix rfl)
        | cons head done =>
          obtain ⟨rfl, shorter⟩ := List.cons_prefix_cons.mp inside
          rw [exec_cons, first, Option.bind_some] at part
          exact later done mid shorter part
  · intro s w t taken rotates i f found active
    have grows := Session.effect taken
    rw [rotates] at grows
    obtain ⟨g, found', name, lines, size⟩ :=
      @Disk.renameActive_active s.disk i f w.env.now.fileStamp found active
    obtain ⟨h, found'', name', lines', size'⟩ := grows.files i g found'
    exact ⟨h, found'', name'.trans name, lines ▸ lines', size ▸ size'⟩

/-- A time around the second of January 2026. -/
def januaryTime (day hour minute second : Nat) : DateTime :=
  ⟨2026, 1, day, hour, minute, second, DateTime.year_2026_lt⟩

/-- A short line that is logged at this time, with a lot of free space. -/
def sampleWrite (now : DateTime) : Write :=
  ⟨⟨0, .init, "tick\n".toList⟩, ⟨now, now, now, none, fun _ => some (2 ^ 40)⟩⟩

/-- The log file has 1000 bytes from an earlier boot, and the date is the first of January. -/
def sampleSession : Session where
  logger := ⟨some 0, 100 * bytesPerMb, .info, 1000, (2026, 1), false⟩
  ring := .empty
  disk := ⟨true, [⟨some .active, 1000, []⟩]⟩

/-- Rotations at three midnights. -/
def midnights : List Write :=
  [sampleWrite (januaryTime 2 0 0 0), sampleWrite (januaryTime 3 0 0 0),
    sampleWrite (januaryTime 4 0 0 0)]

theorem history_kept_at_midnights :
    ∃ final, exec Session.step sampleSession midnights = some final ∧
      ∀ done mid, done <+: midnights → exec Session.step sampleSession done = some mid →
        mid.disk.Keeps final.disk := by
  have runs : (exec Session.step sampleSession midnights).isSome := by decide +kernel
  have free : Meets Session.step (fun s w => s.replaces w = false) sampleSession midnights := by
    decide +kernel
  obtain ⟨final, run⟩ := Option.isSome_iff_exists.mp runs
  exact ⟨final, run, (history_kept_iff_never_replaced run).1.mpr free⟩

/-- The clock reaches midnight, is set back by a second, and reaches midnight again. -/
def clockStep : List Write :=
  [sampleWrite (januaryTime 2 0 0 0), sampleWrite (januaryTime 1 23 59 59),
    sampleWrite (januaryTime 2 0 0 0)]

/-- Each of the three log calls sees a new date and rotates, and the third rotation replaces the
file of the first one, with the lines of the earlier boot. -/
theorem clock_step_loses_file :
    ∃ mid final, exec Session.step sampleSession (clockStep.take 1) = some mid ∧
      exec Session.step sampleSession clockStep = some final ∧
      (∃ f : File, mid.disk.files[0]? = some f ∧
        f.name = some (.rotated "2026-01-02T000000Z".toList) ∧ f.size = 1000) ∧
      final.disk.Gone 0 ∧ ¬ mid.disk.Keeps final.disk := by
  obtain ⟨mid, part, f, found, name, size⟩ :
      ∃ s, exec Session.step sampleSession (clockStep.take 1) = some s ∧
        ∃ f : File, s.disk.files[0]? = some f ∧
          f.name = some (.rotated "2026-01-02T000000Z".toList) ∧ f.size = 1000 := by
    decide +kernel
  obtain ⟨final, run, gone⟩ : ∃ s, exec Session.step sampleSession clockStep = some s ∧
      ∃ g : File, s.disk.files[0]? = some g ∧ g.name = none := by
    decide +kernel
  exact ⟨mid, final, part, run, ⟨f, found, name, size⟩, gone,
    Disk.Gone.not_keeps gone found (by rw [name]; rfl)⟩

end TrimRouter.Logging
