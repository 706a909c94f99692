import TrimRouter.Logging.System

/-!
# Raw lines

`format_raw_line_with_explicit_level` on the lines that PID 1 reads from its workers and from the
kernel log.  The test for a line that has its time stamp slices the bytes 1 to 4 out of the line,
and a slice that ends inside a character is a panic, with which PID 1 aborts.
`raw_line_formatted_iff` says when the function returns, and what.
-/

namespace TrimRouter.Logging

open Str

/-! ## Slices -/

@[simp]
theorem byteLength_cons (c : Char) (text : Text) :
    byteLength (c :: text) = c.utf8Size + byteLength text := by
  simp [byteLength]

theorem utf8Size_bracket : '['.utf8Size = 1 := rfl

theorem takeBytes_eq_some_iff {text front : Text} {n : Nat} :
    takeBytes text n = some front ↔ front <+: text ∧ byteLength front = n := by
  fun_induction takeBytes text n generalizing front with
  | case1 text =>
    constructor
    · intro taken
      cases taken
      exact ⟨List.nil_prefix, rfl⟩
    · intro sized
      have short := length_le_byteLength front
      have nothing : front = [] := List.eq_nil_of_length_eq_zero (by omega)
      rw [nothing]
  | case2 n =>
    refine iff_of_false (by simp) fun sized => ?_
    rw [List.prefix_nil.mp sized.1] at sized
    cases sized.2
  | case3 c text n fits ih =>
    rw [Option.map_eq_some_iff]
    constructor
    · intro taken
      obtain ⟨front, taken, rfl⟩ := taken
      obtain ⟨isFront, size⟩ := ih.mp taken
      refine ⟨List.cons_prefix_cons.mpr ⟨rfl, isFront⟩, ?_⟩
      rw [byteLength_cons]
      omega
    · intro sized
      obtain ⟨isFront, size⟩ := sized
      cases front with
      | nil => cases size
      | cons d front =>
        obtain ⟨rfl, later⟩ := List.cons_prefix_cons.mp isFront
        rw [byteLength_cons] at size
        exact ⟨front, ih.mpr ⟨later, by omega⟩, rfl⟩
  | case4 c text n tooLong =>
    refine iff_of_false (by simp) fun sized => ?_
    obtain ⟨isFront, size⟩ := sized
    cases front with
    | nil => cases size
    | cons d front =>
      obtain ⟨rfl, -⟩ := List.cons_prefix_cons.mp isFront
      rw [byteLength_cons] at size
      omega

/-! ## The test for a time stamp -/

/-- `is_char_boundary`: a front of the text has that many bytes. -/
def IsCharBoundary (text : Text) (n : Nat) : Prop :=
  ∃ front, front <+: text ∧ byteLength front = n

/-- The slice that is taken out of the trimmed line ends inside a character. -/
def CutsCharacter (trimmed : Text) : Prop :=
  trimmed.head? = some '[' ∧ 20 < byteLength trimmed ∧ ¬ IsCharBoundary trimmed 5

/-- The trimmed line starts with a bracket and four digits. -/
def LooksFormatted (trimmed : Text) : Prop :=
  20 < byteLength trimmed ∧
    ∃ year rest, trimmed = '[' :: year ++ rest ∧ year.length = 4 ∧ year.all Char.isDigit = true

theorem alreadyFormatted_bracket (rest : Text) :
    alreadyFormatted ('[' :: rest) =
      if 20 < byteLength ('[' :: rest) then (takeBytes rest 4).map (·.all Char.isDigit)
      else some false := rfl

theorem alreadyFormatted_of_head {trimmed : Text} (other : trimmed.head? ≠ some '[') :
    alreadyFormatted trimmed = some false := by
  unfold alreadyFormatted
  split
  · exact absurd rfl other
  · rfl

theorem isCharBoundary_bracket {rest : Text} :
    IsCharBoundary ('[' :: rest) 5 ↔ ∃ front, takeBytes rest 4 = some front := by
  simp only [takeBytes_eq_some_iff]
  constructor
  · intro boundary
    obtain ⟨front, isFront, size⟩ := boundary
    cases front with
    | nil => cases size
    | cons c front =>
      obtain ⟨rfl, later⟩ := List.cons_prefix_cons.mp isFront
      rw [byteLength_cons, utf8Size_bracket] at size
      exact ⟨front, later, by omega⟩
  · intro boundary
    obtain ⟨front, isFront, size⟩ := boundary
    refine ⟨'[' :: front, List.cons_prefix_cons.mpr ⟨rfl, isFront⟩, ?_⟩
    rw [byteLength_cons, utf8Size_bracket, size]

/-- The test panics exactly on the lines that it cuts inside a character. -/
theorem alreadyFormatted_eq_none_iff {trimmed : Text} :
    alreadyFormatted trimmed = none ↔ CutsCharacter trimmed := by
  by_cases bracket : trimmed.head? = some '['
  · obtain ⟨rest, rfl⟩ := List.head?_eq_some_iff.mp bracket
    rw [alreadyFormatted_bracket, CutsCharacter, isCharBoundary_bracket]
    split
    · rename_i long
      rw [Option.map_eq_none_iff, ← not_iff_not, ← Option.ne_none_iff_exists']
      simp only [List.head?_cons, long, true_and, not_not]
    · rename_i short
      exact iff_of_false (by simp) fun cut => short cut.2.1
  · rw [alreadyFormatted_of_head bracket]
    exact iff_of_false (by simp) fun cut => bracket cut.1

theorem utf8Size_of_isDigit {c : Char} (digit : c.isDigit = true) : c.utf8Size = 1 := by
  rw [Char.isDigit, Bool.and_eq_true, decide_eq_true_eq, decide_eq_true_eq] at digit
  rw [Char.utf8Size_eq_one_iff, UInt32.le_iff_toNat_le]
  have upper := UInt32.le_iff_toNat_le.mp digit.2
  exact upper.trans (by decide)

theorem byteLength_of_all_isDigit {text : Text} (digits : text.all Char.isDigit = true) :
    byteLength text = text.length := by
  induction text with
  | nil => rfl
  | cons c text ih =>
    rw [List.all_cons, Bool.and_eq_true] at digits
    rw [byteLength_cons, utf8Size_of_isDigit digits.1, ih digits.2, List.length_cons]
    omega

theorem alreadyFormatted_eq_true_iff {trimmed : Text} :
    alreadyFormatted trimmed = some true ↔ LooksFormatted trimmed := by
  by_cases bracket : trimmed.head? = some '['
  · obtain ⟨rest, rfl⟩ := List.head?_eq_some_iff.mp bracket
    rw [alreadyFormatted_bracket]
    split
    · rename_i long
      rw [Option.map_eq_some_iff]
      constructor
      · intro taken
        obtain ⟨year, taken, digits⟩ := taken
        obtain ⟨⟨later, rfl⟩, size⟩ := takeBytes_eq_some_iff.mp taken
        rw [byteLength_of_all_isDigit digits] at size
        exact ⟨long, year, later, rfl, size, digits⟩
      · intro looks
        obtain ⟨-, year, later, same, length, digits⟩ := looks
        rw [← byteLength_of_all_isDigit digits] at length
        have isFront : year <+: rest := ⟨later, (List.tail_eq_of_cons_eq same).symm⟩
        exact ⟨year, takeBytes_eq_some_iff.mpr ⟨isFront, length⟩, digits⟩
    · rename_i short
      exact iff_of_false (by simp) fun looks => short looks.1
  · rw [alreadyFormatted_of_head bracket]
    refine iff_of_false (by simp) fun looks => ?_
    obtain ⟨-, year, rest, rfl, -⟩ := looks
    exact bracket rfl

/-! ## The formatted line -/

theorem not_mem_display {c : Char} (level : Level) (other : c.isUpper = false) :
    c ∉ level.display := by
  intro member
  have upper : level.display.all Char.isUpper = true := by
    cases level <;> decide
  rw [List.all_eq_true.mp upper c member] at other
  cases other

/-- A time stamp is made of digits and five other characters. -/
theorem mem_stamp {c : Char} {t : DateTime} (member : c ∈ t.stamp) :
    c.isDigit = true ∨ c ∈ ['-', 'T', ':', 'Z'] := by
  simp only [DateTime.stamp, fourDigits, twoDigits, List.cons_append, List.nil_append,
    List.mem_cons, List.not_mem_nil, or_false] at member ⊢
  have isDigit : ∀ n, c = digit n → c.isDigit = true := by
    intro n same
    rw [same, (digit_spec n).1]
  grind

theorem feed_not_mem_recordBody {timestamp : DateTime} {level : Level} {service message : Text}
    (inService : '\n' ∉ service) (inMessage : '\n' ∉ message) :
    '\n' ∉ recordBody timestamp level service message := by
  have inStamp : '\n' ∉ timestamp.stamp := by
    intro member
    rcases mem_stamp member with digit | other
    · exact absurd digit (by decide)
    · exact absurd other (by decide)
  have inLevel := not_mem_display level (c := '\n') (by decide)
  simp [recordBody, inStamp, inLevel, inService, inMessage]

/-- What the formatter returns: the line itself, or a record with parts of the line. -/
theorem formatRawLine_cases {timestamp : DateTime} {explicitLevel : Option Level}
    {message line : Text}
    (returned : formatRawLineWithExplicitLevel timestamp explicitLevel message = some line) :
    (LooksFormatted (trimEnd message) ∧ line = trimEnd message ++ ['\n']) ∨
      ∃ level service body, line = formatLogLine timestamp level service body ∧
        ∀ c, c ∈ service ∨ c ∈ body → c ∈ trimEnd message ∨ c ∈ "system".toList := by
  unfold formatRawLineWithExplicitLevel at returned
  dsimp only at returned
  split at returned
  · cases returned
  · rename_i looks
    cases returned
    exact .inl ⟨alreadyFormatted_eq_true_iff.mp looks, rfl⟩
  · split at returned
    · rename_i service body tagged
      cases returned
      refine .inr ⟨_, _, _, rfl, ?_⟩
      intro c member
      left
      rw [(bracketed_eq_some_iff.mp tagged).2]
      rcases member with inService | inBody
      · simp [inService]
      · simp [(List.dropWhile_sublist _).subset inBody]
    · cases returned
      exact .inr ⟨_, _, _, rfl, fun c member => member.symm⟩

theorem isSome_formatRawLine_iff {timestamp : DateTime} {explicitLevel : Option Level}
    {message : Text} :
    (formatRawLineWithExplicitLevel timestamp explicitLevel message).isSome = true ↔
      ¬ CutsCharacter (trimEnd message) := by
  rw [← alreadyFormatted_eq_none_iff]
  unfold formatRawLineWithExplicitLevel
  dsimp only
  split
  · rename_i panics
    simp [panics]
  · rename_i looks
    simp [looks]
  · rename_i other
    split <;> simp [other]

/-- The service in front of a line of the kernel log takes up the slice. -/
theorem not_cutsCharacter_kernel (message : Text) :
    ¬ CutsCharacter (trimEnd ("[kernel] ".toList ++ message)) := by
  have trimmed : trimEnd ("[kernel] ".toList ++ message) =
      "[kernel".toList ++ ']' :: trimEnd (' ' :: message) :=
    trimEnd_append_cons (by decide) "[kernel".toList (' ' :: message)
  have slice : takeBytes ("kernel".toList ++ ']' :: trimEnd (' ' :: message)) 4 =
      some "kern".toList :=
    takeBytes_eq_some_iff.mpr ⟨⟨"el".toList ++ ']' :: trimEnd (' ' :: message), rfl⟩, by decide⟩
  rw [← alreadyFormatted_eq_none_iff, trimmed]
  change alreadyFormatted ('[' :: ("kernel".toList ++ ']' :: trimEnd (' ' :: message))) ≠ none
  rw [alreadyFormatted_bracket, slice]
  split <;> exact nofun

theorem isSome_kmsgLine (record : Text) (env : Env) :
    (System.kmsgLine record env).isSome = (parseKmsgRecord record).isSome := by
  unfold System.kmsgLine
  split
  · rename_i skipped
    rw [skipped]
  · rename_i level message parsed
    rw [Option.isSome_map, parsed, isSome_formatRawLine_iff.mpr (not_cutsCharacter_kernel message)]
    rfl

/-- The formatter returns exactly if the line is not cut inside a character, and every message of
the kernel log is formatted.  A line without line feeds further up that does not look formatted
becomes one line, with the time in brackets. -/
theorem raw_line_formatted_iff (timestamp : DateTime) (explicitLevel : Option Level)
    (message : Text) :
    ((formatRawLineWithExplicitLevel timestamp explicitLevel message).isSome = true ↔
        ¬ CutsCharacter (trimEnd message)) ∧
      (∀ env record, (System.kmsgLine record env).isSome = (parseKmsgRecord record).isSome) ∧
      ('\n' ∉ trimEnd message → ¬ LooksFormatted (trimEnd message) →
        ∀ line ∈ formatRawLineWithExplicitLevel timestamp explicitLevel message,
          ∃ body, line = body ++ ['\n'] ∧ '\n' ∉ body ∧
            ∃ rest, body = '[' :: timestamp.stamp ++ ']' :: rest) := by
  refine ⟨isSome_formatRawLine_iff, fun env record => isSome_kmsgLine record env, ?_⟩
  intro single other line returned
  rcases formatRawLine_cases returned with ⟨looks, -⟩ | ⟨level, service, body, rfl, parts⟩
  · exact absurd looks other
  · have absent : ¬ ('\n' ∈ trimEnd message ∨ '\n' ∈ "system".toList) :=
      not_or.mpr ⟨single, by decide⟩
    have single : '\n' ∉ recordBody timestamp level service body :=
      feed_not_mem_recordBody (fun member => absent (parts _ (.inl member)))
        (fun member => absent (parts _ (.inr member)))
    exact ⟨_, formatLogLine_eq timestamp level service body, single, _, rfl⟩

/-- A line of a worker with its service in brackets. -/
theorem raw_line_formatted_ntp :
    ∃ body, formatRawLine ⟨2026, 1, 2, 3, 4, 5, by decide⟩ "[sntp] clock set by 3 µs\n".toList =
        some (body ++ ['\n']) ∧ '\n' ∉ body ∧
      ∃ rest, body = '[' :: "2026-01-02T03:04:05Z".toList ++ ']' :: rest := by
  have formatted := raw_line_formatted_iff ⟨2026, 1, 2, 3, 4, 5, by decide⟩ none
    "[sntp] clock set by 3 µs\n".toList
  have uncut : ¬ CutsCharacter (trimEnd "[sntp] clock set by 3 µs\n".toList) := by
    rw [← alreadyFormatted_eq_none_iff]
    decide
  have other : ¬ LooksFormatted (trimEnd "[sntp] clock set by 3 µs\n".toList) := by
    rw [← alreadyFormatted_eq_true_iff]
    decide
  obtain ⟨line, returned⟩ := Option.isSome_iff_exists.mp (formatted.1.mpr uncut)
  obtain ⟨body, rfl, single, rest, stamped⟩ := formatted.2.2 (by decide) other line returned
  exact ⟨body, returned, single, rest, stamped⟩

/-- The slice ends between the two bytes of a letter, and PID 1 aborts at the line of a worker. -/
theorem worker_line_panics :
    '\n' ∉ "[menü] settings saved".toList ∧
      CutsCharacter (trimEnd "[menü] settings saved".toList) ∧
      ∀ now : DateTime, formatRawLine now "[menü] settings saved".toList = none := by
  have cut : CutsCharacter (trimEnd "[menü] settings saved".toList) := by
    rw [← alreadyFormatted_eq_none_iff]
    decide
  refine ⟨by decide, cut, fun now => ?_⟩
  by_contra returns
  exact isSome_formatRawLine_iff.mp (Option.isSome_iff_ne_none.mpr returns) cut

end TrimRouter.Logging
