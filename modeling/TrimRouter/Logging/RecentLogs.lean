import TrimRouter.Logging.RawLine

/-!
# The recent logs

`get_recent_logs` of `logging.rs`: what `GET /api/logs` returns from the last 500 lines of the
process.  Every formatter writes the severity of a line into its second pair of brackets, but the
filter of a request does not read it there: it guesses the severity from the words of the line.  The
result is `recent_logs_by_tag_iff`.
-/

namespace TrimRouter.Logging

open Str

/-! ## The tag of a line -/

/-- The level with that name. -/
def Level.ofDisplay (tag : Text) : Option Level :=
  [Level.error, .warn, .info, .debug, .trace].find? fun level => level.display = tag

theorem Level.ofDisplay_display (level : Level) : ofDisplay level.display = some level := by
  cases level <;> decide

/-- The level in the second pair of brackets of a line. -/
def levelTag (line : Text) : Option Level :=
  match bracketed line with
  | some (_, ' ' :: rest) => (bracketed rest).bind fun part => Level.ofDisplay part.1
  | _ => none

/-- The tag of the line is at least as severe as the filter. -/
def tagWithin (filter : LevelFilter) (line : Text) : Bool :=
  (levelTag line).any fun level => level.within filter

/-- The line has its time and its level in brackets. -/
def Tagged (level : Level) (line : Text) : Prop :=
  ∃ (t : DateTime) (rest : Text),
    line = '[' :: (t.stamp ++ ']' :: ' ' :: '[' :: (level.display ++ ']' :: rest))

theorem Tagged.levelTag {level : Level} {line : Text} (tagged : Tagged level line) :
    levelTag line = some level := by
  obtain ⟨t, rest, rfl⟩ := tagged
  have inStamp : ']' ∉ t.stamp := by
    intro member
    rcases mem_stamp member with digit | other
    · exact absurd digit (by decide)
    · exact absurd other (by decide)
  have inLevel : ']' ∉ level.display := not_mem_display level (by decide)
  rw [Logging.levelTag, bracketed_eq_some_iff.mpr ⟨inStamp, rfl⟩]
  change (bracketed ('[' :: (level.display ++ ']' :: rest))).bind _ = _
  rw [bracketed_eq_some_iff.mpr ⟨inLevel, rfl⟩, Option.bind_some, Level.ofDisplay_display]

theorem tagged_formatLogLine (timestamp : DateTime) (level : Level) (service message : Text) :
    Tagged level (formatLogLine timestamp level service message) :=
  ⟨timestamp, " [".toList ++ service ++ "] ".toList ++ message ++ ['\n'], by
    simp [formatLogLine]⟩

/-! ## The words of a line -/

/-- The words that `parse_line_level` takes for a level. -/
def words : Level → List String
  | .error => ["fatal", "error", "failed", "panic"]
  | .warn => ["warning", "warn"]
  | .info => []
  | .debug => ["debug"]
  | .trace => ["trace"]

/-- The line has a word for the level, in any case of letters. -/
def hasWord (line : Text) (level : Level) : Bool :=
  (words level).any fun word => contains (line.map Char.toLower) word.toList

/-- The line has a word for a level that passes the test. -/
def hasWordOf (line : Text) (p : Level → Bool) : Bool :=
  [Level.error, .warn, .debug, .trace].any fun level => p level && hasWord line level

/-- The words of a line with that tag are at odds with it: one of them is for a level that passes
the filter though the tag does not, or an `INFO` line has only words for levels that do not pass. -/
def AtOdds (filter : LevelFilter) (tag : Level) (line : Text) : Prop :=
  if tag.within filter then
    tag = .info ∧ hasWordOf line (·.within filter) = false ∧
      hasWordOf line (!·.within filter) = true
  else hasWordOf line (·.within filter) = true
deriving Decidable

theorem parseLineLevel_eq (line : Text) :
    parseLineLevel line = if hasWord line .error then .error
      else if hasWord line .warn then .warn else if hasWord line .debug then .debug
      else if hasWord line .trace then .trace else .info := by
  simp only [parseLineLevel, hasWord, words, List.any_cons, List.any_nil, Bool.or_false,
    Bool.or_assoc]

/-- The tag itself is a word for its level. -/
theorem Tagged.hasWord {level : Level} {line : Text} (tagged : Tagged level line)
    (named : level ≠ .info) : hasWord line level = true := by
  have own : contains (line.map Char.toLower) (level.display.map Char.toLower) = true := by
    obtain ⟨t, rest, rfl⟩ := tagged
    exact decide_eq_true
      (List.IsInfix.map _ ⟨'[' :: (t.stamp ++ [']', ' ', '[']), ']' :: rest, by simp⟩)
  unfold Logging.hasWord
  cases level with
  | info => exact absurd rfl named
  | error => exact List.any_eq_true.mpr ⟨"error", by decide, own⟩
  | warn => exact List.any_eq_true.mpr ⟨"warn", by decide, own⟩
  | debug => exact List.any_eq_true.mpr ⟨"debug", by decide, own⟩
  | trace => exact List.any_eq_true.mpr ⟨"trace", by decide, own⟩

/-- The guess and the tag of a line are on the same side of the level, unless its words are at odds
with the tag. -/
theorem Tagged.agrees_iff {tag : Level} {line : Text} (tagged : Tagged tag line)
    (filter : LevelFilter) :
    (parseLineLevel line).within filter = tagWithin filter line ↔ ¬AtOdds filter tag line := by
  have own := tagged.hasWord
  rw [parseLineLevel_eq, tagWithin, tagged.levelTag]
  unfold AtOdds hasWordOf
  simp only [List.any_cons, List.any_nil, Option.any_some]
  generalize Logging.hasWord line = said at own ⊢
  cases tag <;> cases filter <;>
    simp [Level.within, Level.rank, LevelFilter.rank] at own ⊢ <;> grind

/-! ## The lines of a request -/

/-- The buffer of a process that has written these lines. -/
def ringOf (pushed : List Entry) : RingBuffer := pushed.foldl Fifo.pushEvict .empty

/-- `get_recent_logs`. -/
def getRecentLogs (ring : RingBuffer) (maxLines : Nat) (minLevel : Option LevelFilter) :
    List Text :=
  let count := min maxLines maxRingBufferLines
  let result := (ring.items.map Entry.text).filter fun line =>
    match minLevel with
    | some filter => (parseLineLevel line).within filter
    | none => true
  if count < result.length then result.drop (result.length - count) else result

theorem texts_ringOf (pushed : List Entry) :
    (ringOf pushed).items.map Entry.text = (pushed.map Entry.text).rtake maxRingBufferLines := by
  have items : (ringOf pushed).items = ([] ++ pushed).rtake maxRingBufferLines :=
    Fifo.items_foldl_pushEvict
  rw [items, List.nil_append, List.rtake, List.rtake, List.map_drop, List.length_map]

theorem rtake_of_length_le {α : Type} {n : Nat} {list : List α} (short : list.length ≤ n) :
    list.rtake n = list := by
  rw [List.rtake, Nat.sub_eq_zero_of_le short, List.drop_zero]

theorem getRecentLogs_eq (ring : RingBuffer) (maxLines : Nat) (filter : LevelFilter) :
    getRecentLogs ring maxLines (some filter) =
      ((ring.items.map Entry.text).filter fun line => (parseLineLevel line).within filter).rtake
        (min maxLines maxRingBufferLines) := by
  unfold getRecentLogs
  dsimp only
  split
  · rfl
  · rename_i few
    rw [rtake_of_length_le (by omega)]

theorem length_rtake_le {α : Type} (n : Nat) (list : List α) : (list.rtake n).length ≤ n := by
  rw [List.rtake, List.length_drop]
  omega

/-- Two filters keep the same elements exactly if they agree on all of them. -/
theorem filter_eq_filter_iff {α : Type} {p q : α → Bool} {list : List α} :
    list.filter p = list.filter q ↔ ∀ a ∈ list, p a = q a := by
  refine ⟨fun same a member => ?_, List.filter_congr⟩
  have kept : a ∈ list.filter p ↔ a ∈ list.filter q := by
    rw [same]
  rw [List.mem_filter, List.mem_filter, and_iff_right member, and_iff_right member] at kept
  exact Bool.eq_iff_iff.mpr kept

/-- The requests for a level get the lines with such a tag, exactly if the guess for each line of
the buffer is on the same side of the level as its tag; and so it is, exactly if the words of the
line are not at odds with the tag. -/
theorem recent_logs_by_tag_iff (pushed : List Entry) (level : LevelFilter) :
    ((∀ n, getRecentLogs (ringOf pushed) n (some level) =
        (((pushed.map Entry.text).rtake 500).filter (tagWithin level)).rtake (min n 500)) ↔
      ∀ line ∈ (pushed.map Entry.text).rtake 500,
        (parseLineLevel line).within level = tagWithin level line) ∧
    ∀ tag line, Tagged tag line →
      ((parseLineLevel line).within level = tagWithin level line ↔ ¬AtOdds level tag line) := by
  refine ⟨?_, fun tag line tagged => tagged.agrees_iff level⟩
  have request : ∀ n, getRecentLogs (ringOf pushed) n (some level) =
      (((pushed.map Entry.text).rtake 500).filter fun line =>
        (parseLineLevel line).within level).rtake (min n 500) := by
    intro n
    rw [getRecentLogs_eq, texts_ringOf]
    rfl
  constructor
  · intro exact_lines
    -- a request for 500 lines gets all that pass
    have all : ∀ p : Text → Bool,
        (((pushed.map Entry.text).rtake 500).filter p).rtake (min 500 500) =
          ((pushed.map Entry.text).rtake 500).filter p := by
      intro p
      exact rtake_of_length_le ((List.length_filter_le _ _).trans (length_rtake_le 500 _))
    have same := (request 500).symm.trans (exact_lines 500)
    rw [all, all] at same
    exact filter_eq_filter_iff.mp same
  · intro agree n
    rw [request n, filter_eq_filter_iff.mpr agree]

/-- A record of PID 1. -/
def sampleEntry (level : Level) (service message : String) : Entry :=
  ⟨0, .init, formatLogLine ⟨2026, 1, 2, 3, 4, 5, DateTime.year_2026_lt⟩ level service.toList
    message.toList⟩

/-- A warning and a record whose words do not say more than its tag. -/
theorem recent_logs_by_tag_of_plain_words :
    ∀ n, getRecentLogs (ringOf [sampleEntry .warn "dns" "slow answer",
        sampleEntry .info "dhcp" "lease renewed"]) n (some .warn) =
      ((([sampleEntry .warn "dns" "slow answer", sampleEntry .info "dhcp" "lease renewed"].map
        Entry.text).rtake 500).filter (tagWithin .warn)).rtake (min n 500) := by
  refine (recent_logs_by_tag_iff _ _).1.mpr ?_
  refine List.forall_mem_cons.mpr ⟨?_, List.forall_mem_singleton.mpr ?_⟩
  · exact ((recent_logs_by_tag_iff [] _).2 .warn _ (tagged_formatLogLine ..)).mpr (by decide)
  · exact ((recent_logs_by_tag_iff [] _).2 .info _ (tagged_formatLogLine ..)).mpr
      (by decide +kernel)

/-- A request for errors gets the line of an `INFO` record. -/
theorem recent_logs_by_words :
    levelTag (sampleEntry .info "dhcp" "retry after a failed attempt").text = some .info ∧
      getRecentLogs (ringOf [sampleEntry .info "dhcp" "retry after a failed attempt"]) 10
        (some .error) = [(sampleEntry .info "dhcp" "retry after a failed attempt").text] :=
  ⟨(tagged_formatLogLine _ _ _ _).levelTag, by decide +kernel⟩

end TrimRouter.Logging
