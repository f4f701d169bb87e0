import Sysm.Lib.Scanf

namespace CString

/-- The conversions `%32s` and `%02x`, each with the most bytes it may take. -/
inductive Field where
  | string (width : Nat)
  | hex (width : Nat)
deriving Repr, DecidableEq

/-- The number at the start of the bytes that a width leaves, and how many of
them belong to it. A sign or a prefix belongs to it also if no digit follows. -/
def takeHex (window : Text) : Option UInt32 × Nat :=
  let (negative, body) := readSign window
  let body := scanHexPrefix body
  let digits := body.takeWhile fun c => digitVal c < 16
  (if digits = [] then none else some (hexValue negative (digitsVal 16 digits)), window.length - body.length + digits.length)

/-- What a conversion stores and leaves of a stream that does not begin with
white space. Also what does not convert is taken. -/
def Field.take : Field → Text → Option Scanned × Text
  | .string width, s =>
    let word := (s.takeWhile fun c => !isSpace c).take width
    (some (.string word), s.drop word.length)
  | .hex width, s =>
    let (value, length) := takeHex (s.take width)
    (value.map .hex, s.drop length)

/-- The conversions up to the first that fails. A white space at the end of the
format takes all that comes. -/
def fscanfFields : List Field → Text → List Scanned × Text
  | [], s => ([], s.dropWhile isSpace)
  | field :: fields, s =>
    let s := s.dropWhile isSpace
    if s = [] then ([], [])
    else
      match field.take s with
      | (none, rest) => ([], rest)
      | (some item, rest) =>
        let (items, rest) := fscanfFields fields rest
        (item :: items, rest)

/-- `fscanf` with a format of conversions and `\n`: all that is stored and what
is left of the stream, or EOF when there is nothing to convert. -/
def fscanf (format : List Field) (stream : Text) : Option (List Scanned × Text) :=
  if stream.dropWhile isSpace = [] then none else some (fscanfFields format stream)

/-- The rounds of a loop that calls `fscanf` until it returns EOF. -/
def fscanfLoop (format : List Field) : Nat → Text → List (List Scanned)
  | 0, _ => []
  | rounds + 1, stream =>
    match fscanf format stream with
    | none => []
    | some (items, rest) => items :: fscanfLoop format rounds rest

/-- What `fscanf` stores in one call after the other. With a string first in the
format each of them takes a byte at least, so there are enough rounds. -/
def fscanfAll (format : List Field) (stream : Text) : List (List Scanned) := fscanfLoop format stream.length stream

/-- The field takes the whole column. -/
def Field.Reads (field : Field) (column : Text) (item : Scanned) : Prop :=
  ∀ rest, ColumnEnd rest → field.take (column ++ rest) = (some item, rest)

/-- A column starts with a byte that is not white space. -/
abbrev ColumnStart (column : Text) : Prop := column ≠ [] ∧ Stops isSpace column

variable {stream rest : Text} {format fields : List Field}

theorem ColumnStart.append {column : Text} (start : ColumnStart column) (rest : Text) : ColumnStart (column ++ rest) := by
  obtain ⟨nonempty, stops⟩ := start
  obtain ⟨first, others, rfl⟩ := List.exists_cons_of_ne_nil nonempty
  refine ⟨by simp, ?_⟩
  rw [List.cons_append, stops_cons]
  exact stops_cons.mp stops

/-- The next column, with the blanks before it. -/
theorem fscanfFields_column {field : Field} {blanks column : Text} {item : Scanned}
    (blank : ∀ c ∈ blanks, isSpace c = true) (start : ColumnStart column) (reads : field.Reads column item)
    (stop : ColumnEnd rest) :
    fscanfFields (field :: fields) (blanks ++ (column ++ rest)) =
      (item :: (fscanfFields fields rest).1, (fscanfFields fields rest).2) := by
  obtain ⟨nonempty, stops⟩ := start.append rest
  have here : (blanks ++ (column ++ rest)).dropWhile isSpace = column ++ rest := dropWhile_stop blank stops
  simp only [fscanfFields, here, if_neg nonempty, reads rest stop]

theorem reads_stringField {word : Text} {width : Nat} (plain : ∀ c ∈ word, isSpace c = false)
    (fits : word.length ≤ width) : (Field.string width).Reads word (.string word) := by
  intro rest stop
  have taken : (word ++ rest).takeWhile (fun c => !isSpace c) = word := takeWhile_stop (by simpa using plain) stop
  have whole : word.take width = word := List.take_of_length_le fits
  simp only [Field.take, taken, whole, List.drop_left]

/-- As many digits as the width, and no more. -/
theorem reads_hexField {digits : Text} (wide : 2 ≤ digits.length) (isDigits : ∀ c ∈ digits, digitVal c < 16)
    (fits : digitsVal 16 digits < 2 ^ 32) :
    (Field.hex digits.length).Reads digits (.hex (UInt32.ofNat (digitsVal 16 digits))) := by
  intro rest _
  obtain ⟨first, others, rfl⟩ := @List.exists_cons_of_ne_nil _ digits (by
    rintro rfl
    simp at wide)
  obtain ⟨second, others, rfl⟩ := @List.exists_cons_of_ne_nil _ others (by
    rintro rfl
    simp at wide)
  have firstDigit := isDigits first (by simp)
  have sign := readSign_digit (by omega : digitVal first < 36) (second :: others)
  have noPrefix := @scanHexPrefix_digits others first second (isDigits second (by simp))
  have taken : (first :: second :: others).takeWhile (fun c => decide (digitVal c < 16)) = first :: second :: others := by
    rw [List.takeWhile_eq_self_iff]
    simpa using isDigits
  have value : hexValue false (digitsVal 16 (first :: second :: others)) =
      UInt32.ofNat (digitsVal 16 (first :: second :: others)) := by
    rw [hexValue, if_neg (by omega), if_neg Bool.false_ne_true, ← UInt32.toNat_inj, UInt64.toNat_toUInt32,
      UInt64.toNat_ofNat', UInt32.toNat_ofNat']
    omega
  simp only [Field.take, takeHex, List.take_left, sign, noPrefix, taken, value, List.drop_left, Nat.sub_self, Nat.zero_add,
    reduceCtorEq, if_false, Option.map_some]

theorem length_fieldTake (field : Field) (s : Text) : (field.take s).2.length ≤ s.length := by
  cases field with
  | string width => simp [Field.take]
  | hex width => simp [Field.take]

theorem length_fscanfFields (fields : List Field) (s : Text) : (fscanfFields fields s).2.length ≤ s.length := by
  induction fields generalizing s with
  | nil => exact (List.dropWhile_suffix isSpace).length_le
  | cons field fields ih =>
    have skipped := (List.dropWhile_suffix (l := s) isSpace).length_le
    have taken := length_fieldTake field (s.dropWhile isSpace)
    have others := ih (field.take (s.dropWhile isSpace)).2
    simp only [fscanfFields]
    split_ifs
    · simp
    · split
      · rename_i rest same
        rw [same] at taken
        exact taken.trans skipped
      · rename_i item rest same
        rw [same] at taken others
        exact others.trans (taken.trans skipped)

/-- A string takes a byte at least. -/
theorem fscanf_progress {width : Nat} (some_width : 0 < width) {items : List Scanned}
    (read : fscanf (.string width :: fields) stream = some (items, rest)) : rest.length < stream.length := by
  unfold fscanf at read
  split_ifs at read with empty
  have skipped := (List.dropWhile_suffix (l := stream) isSpace).length_le
  obtain ⟨first, others, same⟩ := List.exists_cons_of_ne_nil empty
  have plain : isSpace first = false := by
    have head := List.head_dropWhile_not isSpace empty
    simpa [same] using head
  obtain ⟨room, rfl⟩ : ∃ room, width = room + 1 := ⟨width - 1, by omega⟩
  obtain ⟨item, behind, here, shorter⟩ : ∃ item behind,
      (Field.string (room + 1)).take (stream.dropWhile isSpace) = (some item, behind) ∧ behind.length ≤ others.length := by
    refine ⟨_, _, rfl, ?_⟩
    simp [same, plain]
  have later := length_fscanfFields fields behind
  simp only [fscanfFields, if_neg empty, here, Option.some.injEq, Prod.mk.injEq] at read
  rw [read.2] at later
  rw [same, List.length_cons] at skipped
  omega

theorem fscanfLoop_stable {width : Nat} (some_width : 0 < width) {rounds others : Nat}
    (enough : stream.length ≤ rounds) (enough' : stream.length ≤ others) :
    fscanfLoop (.string width :: fields) rounds stream = fscanfLoop (.string width :: fields) others stream := by
  have round : ∀ rounds stream, fscanfLoop (.string width :: fields) (rounds + 1) stream =
      (fscanf (.string width :: fields) stream).elim [] fun result =>
        result.1 :: fscanfLoop (.string width :: fields) rounds result.2 := by
    intro rounds stream
    rw [fscanfLoop]
    cases fscanf (.string width :: fields) stream <;> rfl
  exact readLoop_stable (fun _ => rfl) round rfl (fun read => fscanf_progress some_width read) enough enough'

/-- One call and the calls behind it. -/
theorem fscanfAll_cons {width : Nat} (some_width : 0 < width) {items : List Scanned}
    (read : fscanf (.string width :: fields) stream = some (items, rest)) :
    fscanfAll (.string width :: fields) stream = items :: fscanfAll (.string width :: fields) rest := by
  have shorter := fscanf_progress some_width read
  obtain ⟨rounds, length⟩ : ∃ rounds, stream.length = rounds + 1 := ⟨stream.length - 1, by omega⟩
  rw [fscanfAll, length, fscanfLoop, read]
  simp only [List.cons.injEq, true_and]
  exact fscanfLoop_stable some_width (by omega) (by omega)

end CString
