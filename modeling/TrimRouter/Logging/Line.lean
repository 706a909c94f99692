import TrimRouter.Config

/-!
# Log lines

The text side of `logging.rs` and of `init/kmsg.rs`: how a log record, a line that a worker printed
and a record of the kernel log become lines of the log.
-/

namespace TrimRouter

/-- The order of the levels: `Off` allows nothing and `Trace` everything. -/
def LevelFilter.rank : LevelFilter → Nat
  | .off => 0
  | .error => 1
  | .warn => 2
  | .info => 3
  | .debug => 4
  | .trace => 5

namespace Logging

open Str

/-- `log::Level`. -/
inductive Level where
  | error
  | warn
  | info
  | debug
  | trace
deriving DecidableEq

def Level.rank : Level → Nat
  | .error => 1
  | .warn => 2
  | .info => 3
  | .debug => 4
  | .trace => 5

/-- `level <= filter`: the severity is at least that of the filter. -/
def Level.within (level : Level) (filter : LevelFilter) : Bool := decide (level.rank ≤ filter.rank)

def Level.display : Level → Text
  | .error => "ERROR".toList
  | .warn => "WARN".toList
  | .info => "INFO".toList
  | .debug => "DEBUG".toList
  | .trace => "TRACE".toList

/-! ## Times -/

/-- `DateTime<Utc>`, to the second. -/
structure DateTime where
  year : Nat
  month : Nat
  day : Nat
  hour : Nat
  minute : Nat
  second : Nat
  year_lt : year < 10000
deriving DecidableEq

theorem DateTime.year_2026_lt : 2026 < 10000 := by decide

def isLeapYear (year : Nat) : Bool :=
  decide (year % 4 = 0) && (!decide (year % 100 = 0) || decide (year % 400 = 0))

def monthDays (leap : Bool) : List Nat :=
  [31, if leap then 29 else 28, 31, 30, 31, 30, 31, 31, 30, 31, 30, 31]

/-- `ordinal`: the day of the year. -/
def DateTime.ordinal (t : DateTime) : Nat :=
  ((monthDays (isLeapYear t.year)).take (t.month - 1)).sum + t.day

/-- `(now.year(), now.ordinal())`. -/
def DateTime.date (t : DateTime) : Nat × Nat := (t.year, t.ordinal)

def digit (n : Nat) : Char := Char.ofNat (48 + n % 10)

def twoDigits (n : Nat) : Text := [digit (n / 10), digit n]

def fourDigits (n : Nat) : Text :=
  [digit (n / 1000), digit (n / 100), digit (n / 10), digit n]

/-- `%Y-%m-%dT%H:%M:%SZ`. -/
def DateTime.stamp (t : DateTime) : Text :=
  fourDigits t.year ++ '-' :: twoDigits t.month ++ '-' :: twoDigits t.day ++ 'T' ::
    twoDigits t.hour ++ ':' :: twoDigits t.minute ++ ':' :: twoDigits t.second ++ ['Z']

/-- `%Y-%m-%dT%H%M%SZ`. -/
def DateTime.fileStamp (t : DateTime) : Text :=
  fourDigits t.year ++ '-' :: twoDigits t.month ++ '-' :: twoDigits t.day ++ 'T' ::
    twoDigits t.hour ++ twoDigits t.minute ++ twoDigits t.second ++ ['Z']

/-! ## Formatting -/

/-- `split("::").last()`, behind the part that has been read. -/
def lastPart (part : Text) : Text → Text
  | ':' :: ':' :: path => lastPart [] path
  | c :: path => lastPart (part ++ [c]) path
  | [] => part

/-- `clean_target`. -/
def cleanTarget (target : Text) : Text :=
  let name := if "trimrouter::".toList <+: target then lastPart [] target else target
  name.map fun c => if c = '_' then '-' else c

/-- `parse_line_level`. -/
def parseLineLevel (message : Text) : Level :=
  let lower := message.map Char.toLower
  if contains lower "fatal".toList || contains lower "error".toList ||
      contains lower "failed".toList || contains lower "panic".toList then .error
  else if contains lower "warning".toList || contains lower "warn".toList then .warn
  else if contains lower "debug".toList then .debug
  else if contains lower "trace".toList then .trace
  else .info

/-- The test of `format_raw_line_with_explicit_level` for a line with its time stamp.  The bytes
1 to 4 are sliced out of the text: `none` is the panic where they end inside a character. -/
def alreadyFormatted : Text → Option Bool
  | '[' :: rest =>
    if 20 < byteLength ('[' :: rest) then (takeBytes rest 4).map (·.all Char.isDigit)
    else some false
  | _ => some false

/-- `format_log_line`. -/
def formatLogLine (timestamp : DateTime) (level : Level) (service message : Text) : Text :=
  '[' :: timestamp.stamp ++ "] [".toList ++ level.display ++ "] [".toList ++ service ++
    "] ".toList ++ message ++ ['\n']

/-- `format_raw_line_with_explicit_level`; `none` where it panics. -/
def formatRawLineWithExplicitLevel (timestamp : DateTime) (explicitLevel : Option Level)
    (message : Text) : Option Text :=
  let trimmed := trimEnd message
  match alreadyFormatted trimmed with
  | none => none
  | some true => some (trimmed ++ ['\n'])
  | some false =>
    match bracketed trimmed with
    | some (service, body) =>
      some (formatLogLine timestamp (explicitLevel.getD (parseLineLevel body)) service
        (trimStart body))
    | none =>
      some (formatLogLine timestamp (explicitLevel.getD (parseLineLevel trimmed))
        "system".toList trimmed)

/-- `format_raw_line`. -/
def formatRawLine (timestamp : DateTime) (message : Text) : Option Text :=
  formatRawLineWithExplicitLevel timestamp none message

/-! ## The kernel log -/

/-- `str::parse` of a `u32`. -/
def parseU32 (text : Text) : Option Nat :=
  let digits := if text.head? = some '+' then text.tail else text
  let value := digits.foldl (fun n c => 10 * n + (c.toNat - 48)) 0
  if digits ≠ [] ∧ digits.all Char.isDigit = true ∧ value < 2 ^ 32 then some value else none

/-- The level of a kernel log priority. -/
def kmsgLevel (prio : Nat) : Level :=
  let severity := prio % 8
  if severity ≤ 3 then .error
  else if severity = 4 then .warn
  else if severity = 7 then .debug
  else .info

/-- `parse_kmsg_record`. -/
def parseKmsgRecord (text : Text) : Option (Level × Text) := do
  let (header, rest) ← splitOnce ';' text
  let prio ← parseU32 (header.takeWhile (· ≠ ','))
  let line ← (lines rest).head?
  let message := trimStart (trimEnd line)
  if message = [] then none else some (kmsgLevel prio, message)

/-! ## Lines with a time stamp -/

/-- The line starts with a time stamp in brackets. -/
def Stamped (line : Text) : Prop :=
  ∃ (t : DateTime) (rest : Text), line = '[' :: t.stamp ++ ']' :: rest

/-- A statement about all ten digits. -/
theorem digit_spec (n : Nat) : (digit n).isDigit = true ∧ (digit n).utf8Size = 1 := by
  have all : ∀ d < 10, (Char.ofNat (48 + d)).isDigit = true ∧
      (Char.ofNat (48 + d)).utf8Size = 1 := by
    decide
  exact all (n % 10) (Nat.mod_lt n (by decide))

theorem length_stamp (t : DateTime) : t.stamp.length = 20 := rfl

theorem length_le_byteLength (text : Text) : text.length ≤ byteLength text := by
  induction text with
  | nil => exact Nat.zero_le _
  | cons c text ih =>
    have size := c.utf8Size_pos
    simp only [byteLength, List.map_cons, List.sum_cons, List.length_cons] at ih ⊢
    omega

theorem takeBytes_fourDigits (n : Nat) (text : Text) :
    takeBytes (fourDigits n ++ text) 4 = some (fourDigits n) := by
  simp [fourDigits, takeBytes, (digit_spec _).2]

theorem all_isDigit_fourDigits (n : Nat) : (fourDigits n).all Char.isDigit = true := by
  simp [fourDigits, (digit_spec _).1]

theorem alreadyFormatted_stamped {line : Text} (stamped : Stamped line) :
    alreadyFormatted line = some true := by
  obtain ⟨t, rest, rfl⟩ := stamped
  have long : 20 < byteLength ('[' :: t.stamp ++ ']' :: rest) := by
    have length := length_le_byteLength ('[' :: t.stamp ++ ']' :: rest)
    simp only [List.length_append, List.length_cons, length_stamp] at length
    omega
  have year : takeBytes (t.stamp ++ ']' :: rest) 4 = some (fourDigits t.year) := by
    unfold DateTime.stamp
    simp only [List.append_assoc]
    exact takeBytes_fourDigits _ _
  simp only [List.cons_append] at long ⊢
  rw [alreadyFormatted, if_pos long, year, Option.map_some, all_isDigit_fourDigits]

/-- Characters before one that stays are not trimmed. -/
theorem trimEnd_append_cons {c : Char} (solid : isWhitespace c = false) (text rest : Text) :
    trimEnd (text ++ c :: rest) = text ++ c :: trimEnd rest := by
  induction rest using List.reverseRecOn with
  | nil =>
    unfold trimEnd
    rw [List.rdropWhile_concat_neg _ _ _ (by simp [solid]), List.rdropWhile_nil]
  | append_singleton rest d ih =>
    unfold trimEnd at ih ⊢
    rw [← List.cons_append, ← List.append_assoc]
    by_cases blank : isWhitespace d = true
    · rw [List.rdropWhile_concat_pos _ _ _ blank, ih, List.rdropWhile_concat_pos _ _ _ blank]
    · rw [List.rdropWhile_concat_neg _ _ _ blank, List.rdropWhile_concat_neg _ _ _ blank,
        List.append_assoc, List.cons_append]

theorem Stamped.trimEnd {line : Text} (stamped : Stamped line) : Stamped (trimEnd line) := by
  obtain ⟨t, rest, rfl⟩ := stamped
  exact ⟨t, Str.trimEnd rest, trimEnd_append_cons (by decide) _ _⟩

theorem formatRawLine_stamped {line : Text} (stamped : Stamped line) (now : DateTime) :
    formatRawLine now line = some (trimEnd line ++ ['\n']) := by
  unfold formatRawLine formatRawLineWithExplicitLevel
  simp only [alreadyFormatted_stamped stamped.trimEnd]

/-- A text without line feeds before its last character is one segment. -/
theorem segments_concat {body : Text} (single : '\n' ∉ body) :
    segments (body ++ ['\n']) = [body] := by
  induction body with
  | nil => rfl
  | cons c body ih =>
    rw [List.mem_cons, not_or] at single
    obtain ⟨differ, later⟩ := single
    rw [List.cons_append, segments, if_neg (Ne.symm differ), ih later]

theorem segments_ne_nil (body : Text) : segments (body ++ ['\n']) ≠ [] := by
  cases body with
  | nil => simp [segments]
  | cons c body =>
    rw [List.cons_append, segments]
    split
    · simp
    · split <;> simp

/-- A line feed further up makes more segments. -/
theorem one_lt_length_segments {body : Text} (feed : '\n' ∈ body) :
    1 < (segments (body ++ ['\n'])).length := by
  induction body with
  | nil => cases feed
  | cons c body ih =>
    have some_left := List.length_pos_iff.mpr (segments_ne_nil body)
    rw [List.cons_append, segments]
    split
    · rw [List.length_cons]
      omega
    · rename_i other
      rw [List.mem_cons] at feed
      have more := ih (feed.resolve_left fun same => other same.symm)
      split
      · rename_i none_left
        simp [none_left] at more
      · rename_i first rest split
        rw [split] at more
        exact more

/-- The text is read as one line: it has no line feed and does not end in a carriage return. -/
def OneLine (body : Text) : Prop := '\n' ∉ body ∧ body.getLast? ≠ some '\r'
deriving Decidable

theorem lines_concat_iff {body : Text} : lines (body ++ ['\n']) = [body] ↔ OneLine body := by
  by_cases single : '\n' ∈ body
  · have more := one_lt_length_segments single
    refine iff_of_false (fun same => ?_) (fun one => one.1 single)
    have length := congrArg List.length same
    simp only [lines, List.length_map, List.length_singleton] at length
    omega
  · rw [lines, segments_concat single, List.map_singleton, List.singleton_inj]
    unfold stripReturn
    split
    · rename_i ends
      refine iff_of_false (fun same => ?_) (fun one => one.2 ends)
      have shorter := congrArg List.length same
      rw [List.length_dropLast] at shorter
      have empty : body = [] := List.length_eq_zero_iff.mp (by omega)
      rw [empty] at ends
      cases ends
    · rename_i ends
      exact iff_of_true rfl ⟨single, ends⟩

/-- The line of a log record, without its line feed. -/
def recordBody (timestamp : DateTime) (level : Level) (service message : Text) : Text :=
  '[' :: timestamp.stamp ++ ']' ::
    (" [".toList ++ level.display ++ "] [".toList ++ service ++ "] ".toList ++ message)

theorem formatLogLine_eq (timestamp : DateTime) (level : Level) (service message : Text) :
    formatLogLine timestamp level service message =
      recordBody timestamp level service message ++ ['\n'] := by
  simp [formatLogLine, recordBody]

theorem stamped_recordBody (timestamp : DateTime) (level : Level) (service message : Text) :
    Stamped (recordBody timestamp level service message) := ⟨timestamp, _, rfl⟩

end Logging

end TrimRouter
