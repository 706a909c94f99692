import TrimRouter.Dns.Cache
import TrimRouter.Dns.Uncompressed
import TrimRouter.Lib.Separated

/-!
# Cache keys and questions

The key of a question joins the texts of its name, its type and its class with colons.  A name may
have colons in its text, but a type and a class do not, so the key is taken apart from its end.  The
result is `getCacheKey_eq_iff`; `escaping` is a library that meets what is assumed of the texts.
-/

namespace TrimRouter.Dns

open Uncompressed (library emit askFor)

/-- The labels in lower case. -/
def Name.lowerLabels (name : Name) : List (List Char) :=
  name.labels.map fun label => label.chars.map Char.toLower

/-- The names are the same up to the letter case of ASCII. -/
def Name.EqIgnoreCase (name other : Name) : Prop :=
  name.isFqdn = other.isFqdn ∧ name.lowerLabels = other.lowerLabels

/-- The name is that of a question that was read. -/
def Hickory.Reads (lib : Hickory) (name : Name) : Prop :=
  ∃ bytes message question, lib.fromBytes bytes = some message ∧ question ∈ message.queries ∧
    question.name = name

/-- What is assumed of the texts that the library writes: the names of questions can be told apart
up to their letter case, and types and classes too, which have no colon. -/
structure Hickory.Renders (lib : Hickory) : Prop where
  names : ∀ {name other}, lib.Reads name → lib.Reads other →
    ((lib.toAscii name).toList.map Char.toLower = (lib.toAscii other).toList.map Char.toLower ↔
      name.EqIgnoreCase other)
  types : Function.Injective lib.typeDebug
  typesClean : ∀ recordType, ':' ∉ (lib.typeDebug recordType).toList
  classes : Function.Injective lib.classDebug
  classesClean : ∀ n, ':' ∉ (lib.classDebug n).toList

/-! ## A library that meets the assumption -/

def octalDigit (n : Nat) : Char := Char.ofNat ('0'.toNat + n)

/-- A character of a label, which is escaped unless it is a letter, a digit or a hyphen. -/
def escapeChar (c : Char) : List Char :=
  if isLdh c then [c]
  else ['\\', octalDigit (c.toNat / 64), octalDigit (c.toNat / 8 % 8), octalDigit (c.toNat % 8)]

/-- The codec without compression, with labels that are escaped. -/
def escaping : Hickory :=
  { library with labelToAscii := fun label => label.chars.flatMap escapeChar }

/-- Escaped text, read back. -/
def unescape : List Char → List Char
  | [] => []
  | '\\' :: a :: b :: c :: rest =>
    Char.ofNat (64 * (a.toNat - 48) + 8 * (b.toNat - 48) + (c.toNat - 48)) :: unescape rest
  | c :: rest => c :: unescape rest

theorem unescape_escapeChar {c : Char} (small : c.toNat < 256) (rest : List Char) :
    unescape (escapeChar c ++ rest) = c :: unescape rest := by
  have digit : ∀ n < 8, (octalDigit n).toNat - 48 = n := by decide
  have value : 64 * (c.toNat / 64) + 8 * (c.toNat / 8 % 8) + c.toNat % 8 = c.toNat := by omega
  unfold escapeChar
  split
  · rename_i plain
    rw [List.singleton_append, unescape]
    rintro a b d rest rfl
    exact absurd plain (by decide)
  · simp only [List.cons_append, List.nil_append, unescape]
    rw [digit _ (by omega), digit _ (by omega), digit _ (by omega), value, Char.ofNat_toNat]

theorem unescape_flatMap {text : List Char} (small : ∀ c ∈ text, c.toNat < 256) :
    unescape (text.flatMap escapeChar) = text := by
  induction text with
  | nil => rfl
  | cons c text ih =>
    rw [List.forall_mem_cons] at small
    rw [List.flatMap_cons, unescape_escapeChar small.1, ih small.2]

/-- What is known of the characters of a label. -/
theorem escapeChar_ofNat : ∀ n < 256,
    (escapeChar (Char.ofNat n)).map Char.toLower = escapeChar (Char.ofNat n).toLower ∧
      (Char.ofNat n).toLower.toNat < 256 ∧ '.' ∉ escapeChar (Char.ofNat n).toLower := by
  decide +kernel

theorem escapeChar_ne_nil {c : Char} : escapeChar c ≠ [] := by
  unfold escapeChar
  split
  · exact List.cons_ne_nil _ _
  · exact List.cons_ne_nil _ _

theorem exists_of_mem_lowerChars {label : Label} {c : Char}
    (member : c ∈ label.chars.map Char.toLower) : ∃ n < 256, c = (Char.ofNat n).toLower := by
  obtain ⟨c', member', rfl⟩ := List.mem_map.mp member
  obtain ⟨byte, -, rfl⟩ := List.mem_map.mp member'
  exact ⟨byte.toNat, byte.isLt, rfl⟩

theorem toLower_escaping {name : Name} (fqdn : name.isFqdn = true) :
    (escaping.toAscii name).toList.map Char.toLower =
      ['.'].intercalate (name.lowerLabels.map (·.flatMap escapeChar)) ++ ['.'] := by
  have label (label : Label) : (escaping.labelToAscii label).map Char.toLower =
      (label.chars.map Char.toLower).flatMap escapeChar := by
    change (label.chars.flatMap escapeChar).map Char.toLower = _
    rw [List.map_flatMap, List.flatMap_map]
    apply List.flatMap_congr
    intro c member
    obtain ⟨byte, -, rfl⟩ := List.mem_map.mp member
    exact (escapeChar_ofNat byte.toNat byte.isLt).1
  have labels : (name.labels.map escaping.labelToAscii).map (List.map Char.toLower) =
      name.lowerLabels.map (·.flatMap escapeChar) := by
    rw [Name.lowerLabels, List.map_map, List.map_map]
    exact List.map_congr_left fun l _ => label l
  have dot : Char.toLower '.' = '.' := rfl
  rw [Hickory.toAscii, Name.text, String.toList_ofList, List.map_append,
    Separated.map_intercalate, labels, fqdn, Bool.true_or, if_pos rfl, dot]
  rfl

theorem escaped_label {name : Name} (valid : ∀ label ∈ name.labels, 0 < label.length)
    {text : List Char} (member : text ∈ name.lowerLabels.map (·.flatMap escapeChar)) :
    '.' ∉ text ∧ text ≠ [] := by
  obtain ⟨lowered, member', rfl⟩ := List.mem_map.mp member
  obtain ⟨label, listed, rfl⟩ := List.mem_map.mp member'
  constructor
  · intro dot
    obtain ⟨c, listed', dot⟩ := List.mem_flatMap.mp dot
    obtain ⟨n, small, rfl⟩ := exists_of_mem_lowerChars listed'
    exact (escapeChar_ofNat n small).2.2 dot
  · intro empty
    have nonempty := valid label listed
    cases label with
    | nil => exact Nat.lt_irrefl 0 nonempty
    | cons byte label => exact escapeChar_ne_nil (List.append_eq_nil_iff.mp empty).1

theorem unescape_lowerLabels {name : Name} :
    (name.lowerLabels.map (·.flatMap escapeChar)).map unescape = name.lowerLabels := by
  rw [List.map_map]
  refine (List.map_congr_left fun lowered member => ?_).trans (List.map_id _)
  refine unescape_flatMap fun c listed => ?_
  obtain ⟨label, -, rfl⟩ := List.mem_map.mp member
  obtain ⟨n, small, rfl⟩ := exists_of_mem_lowerChars listed
  exact (escapeChar_ofNat n small).2.1

theorem valid_of_reads {name : Name} (read : escaping.Reads name) :
    name.isFqdn = true ∧ ∀ label ∈ name.labels, 0 < label.length := by
  obtain ⟨bytes, message, question, parsed, listed, rfl⟩ := read
  obtain ⟨-, body⟩ := Uncompressed.fromBytes_eq_some.mp parsed
  obtain ⟨-, rest, -, questions, -⟩ := Uncompressed.readBody_spec body
  obtain ⟨-, each⟩ := Uncompressed.readMany_spec questions
  obtain ⟨_, _, question⟩ := each question listed
  obtain ⟨fqdn, labels⟩ := Uncompressed.readQuestion_valid question
  exact ⟨fqdn, fun label member => (labels label member).1⟩

/-- A number that has no name, as the library without compression writes it. -/
theorem toList_unknown (n : Nat) : ("Unknown(" ++ toString n ++ ")").toList =
    "Unknown(".toList ++ (Nat.toDigits 10 n ++ [')']) := by
  have digits : (toString n).toList = Nat.toDigits 10 n := String.toList_ofList
  rw [String.toList_append, String.toList_append, digits, List.append_assoc]
  rfl

theorem unknown_ne {text : String} (n : Nat) (other : text.toList.head? ≠ some 'U') :
    "Unknown(" ++ toString n ++ ")" ≠ text := by
  rintro rfl
  rw [toList_unknown] at other
  exact other rfl

theorem colon_not_mem_unknown (n : Nat) : ':' ∉ ("Unknown(" ++ toString n ++ ")").toList := by
  have before : ':' ∉ "Unknown(".toList := by decide
  have after : ':' ∉ [')'] := by decide
  have digits : ':' ∉ Nat.toDigits 10 n := by
    intro member
    have digit := Nat.isDigit_of_mem_toDigits (by decide) (by decide) member
    exact absurd digit (by decide)
  rw [toList_unknown, List.mem_append, List.mem_append]
  rintro (member | member | member)
  · exact before member
  · exact digits member
  · exact after member

/-- The number in a text of one that has no name. -/
def numberIn (text : String) : BitVec 16 :=
  BitVec.ofNat 16 (Nat.ofDigitChars 10 (text.toList.drop 8).dropLast 0)

theorem numberIn_unknown (n : BitVec 16) :
    numberIn ("Unknown(" ++ toString n.toNat ++ ")") = n := by
  have digits : (("Unknown(" ++ toString n.toNat ++ ")").toList.drop 8).dropLast =
      Nat.toDigits 10 n.toNat := by
    rw [toList_unknown]
    exact List.dropLast_concat
  rw [numberIn, digits, Nat.ofDigitChars_ten_toDigits]
  exact BitVec.eq_of_toNat_eq (Nat.mod_eq_of_lt n.isLt)

/-- The type with the given text. -/
def typeIn (text : String) : RecordType :=
  if text = "A" then RecordType.a else if text = "PTR" then RecordType.ptr else numberIn text

/-- The class with the given text. -/
def classIn (text : String) : BitVec 16 := if text = "IN" then 1 else numberIn text

theorem typeDebug_eq (recordType : RecordType) :
    escaping.typeDebug recordType = if recordType = RecordType.a then "A"
      else if recordType = RecordType.ptr then "PTR"
      else "Unknown(" ++ toString recordType.toNat ++ ")" := rfl

theorem classDebug_eq (n : BitVec 16) :
    escaping.classDebug n = if n = 1 then "IN" else "Unknown(" ++ toString n.toNat ++ ")" := rfl

theorem typeDebug_injective : Function.Injective escaping.typeDebug := by
  refine Function.LeftInverse.injective (g := typeIn) fun recordType => ?_
  rw [typeDebug_eq, typeIn]
  by_cases isA : recordType = RecordType.a
  · rw [if_pos isA, if_pos rfl, isA]
  · by_cases isPtr : recordType = RecordType.ptr
    · rw [if_neg isA, if_pos isPtr, if_neg (by decide), if_pos rfl, isPtr]
    · rw [if_neg isA, if_neg isPtr, if_neg (unknown_ne _ (by decide)),
        if_neg (unknown_ne _ (by decide)), numberIn_unknown]

theorem classDebug_injective : Function.Injective escaping.classDebug := by
  refine Function.LeftInverse.injective (g := classIn) fun n => ?_
  rw [classDebug_eq, classIn]
  by_cases internet : n = 1
  · rw [if_pos internet, if_pos rfl, internet]
  · rw [if_neg internet, if_neg (unknown_ne _ (by decide)), numberIn_unknown]

theorem escaping_renders : escaping.Renders where
  names := by
    intro name other read read'
    obtain ⟨fqdn, valid⟩ := valid_of_reads read
    obtain ⟨fqdn', valid'⟩ := valid_of_reads read'
    rw [toLower_escaping fqdn, toLower_escaping fqdn', Name.EqIgnoreCase, fqdn, fqdn']
    constructor
    · intro same
      have labels := Separated.intercalate_inj (fun _ => escaped_label valid)
        (fun _ => escaped_label valid') (List.append_cancel_right same)
      exact ⟨rfl, by rw [← unescape_lowerLabels, labels, unescape_lowerLabels]⟩
    · rintro ⟨-, labels⟩
      rw [labels]
  types := typeDebug_injective
  typesClean := by
    intro recordType
    rw [typeDebug_eq]
    split
    · decide
    · split
      · decide
      · exact colon_not_mem_unknown _
  classes := classDebug_injective
  classesClean := by
    intro n
    rw [classDebug_eq]
    split
    · decide
    · exact colon_not_mem_unknown _

/-! ## Keys -/

variable {lib : Hickory} {bytes bytes' : Bytes} {message message' : Message}
  {question question' : Query}

theorem toList_questionKey :
    (questionKey lib question).toList =
      ((lib.toAscii question.name).toList.map Char.toLower ++
        ':' :: (lib.typeDebug question.queryType).toList) ++
          ':' :: (lib.classDebug question.queryClass).toList := by
  simp [questionKey, String.toList_append]

/-- The three texts are found in the key from its end. -/
theorem questionKey_inj (renders : lib.Renders)
    (same : questionKey lib question = questionKey lib question') :
    (lib.toAscii question.name).toList.map Char.toLower =
        (lib.toAscii question'.name).toList.map Char.toLower ∧
      question.queryType = question'.queryType ∧ question.queryClass = question'.queryClass := by
  have texts := congrArg String.toList same
  rw [toList_questionKey, toList_questionKey] at texts
  obtain ⟨fronts, classes⟩ :=
    Separated.split_last (renders.classesClean _) (renders.classesClean _) texts
  obtain ⟨names, types⟩ :=
    Separated.split_last (renders.typesClean _) (renders.typesClean _) fronts
  exact ⟨names, renders.types (String.toList_inj.mp types),
    renders.classes (String.toList_inj.mp classes)⟩

/-- Two queries have the same key exactly when their first questions have the same name up to
letter case, the same type and the same class. -/
theorem getCacheKey_eq_iff (renders : lib.Renders) (parsed : lib.fromBytes bytes = some message)
    (opCode : message.opCode = .query) (first : message.queries.head? = some question)
    (parsed' : lib.fromBytes bytes' = some message') (opCode' : message'.opCode = .query)
    (first' : message'.queries.head? = some question') :
    ∃ key key', getCacheKey lib bytes = some key ∧ getCacheKey lib bytes' = some key' ∧
      (key = key' ↔ question.name.EqIgnoreCase question'.name ∧
        question.queryType = question'.queryType ∧ question.queryClass = question'.queryClass) := by
  have keyed : getCacheKey lib bytes = some (questionKey lib question) := by
    simp [getCacheKey, parsed, first, opCode]
  have keyed' : getCacheKey lib bytes' = some (questionKey lib question') := by
    simp [getCacheKey, parsed', first', opCode']
  have read : lib.Reads question.name :=
    ⟨bytes, message, question, parsed, List.mem_of_head? first, rfl⟩
  have read' : lib.Reads question'.name :=
    ⟨bytes', message', question', parsed', List.mem_of_head? first', rfl⟩
  refine ⟨_, _, keyed, keyed', ?_⟩
  rw [← renders.names read read']
  constructor
  · exact questionKey_inj renders
  · rintro ⟨names, types, classes⟩
    apply String.toList_inj.mp
    rw [toList_questionKey, toList_questionKey, names, types, classes]

theorem getCacheKey_of_letter_case :
    ∃ key, getCacheKey escaping
        (emit (askFor 1 ["a:A", "org"] .a)) = some key ∧
      getCacheKey escaping
        (emit (askFor 2 ["A:a", "Org"] .a)) = some key := by
  have parsed : escaping.fromBytes (emit (askFor 1 ["a:A", "org"] .a))
      = some (askFor 1 ["a:A", "org"] .a) := by decide +kernel
  have parsed' : escaping.fromBytes (emit (askFor 2 ["A:a", "Org"] .a))
      = some (askFor 2 ["A:a", "Org"] .a) := by decide +kernel
  obtain ⟨key, key', keyed, keyed', same⟩ :=
    getCacheKey_eq_iff escaping_renders parsed rfl rfl parsed' rfl rfl
  have equal := same.mpr ⟨⟨rfl, by decide +kernel⟩, rfl, rfl⟩
  exact ⟨key, keyed, by rw [keyed', equal]⟩

end TrimRouter.Dns
