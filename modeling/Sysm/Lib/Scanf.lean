import Sysm.Lib.CNumbers

namespace CString

/-- The conversions `%16s` and the like, `%X` and `%ld`. Each of them skips
the white space before it, so the blanks of a format need no sign. -/
inductive Conversion where
  | string (width : Nat)
  | hex
  | long
deriving Repr, DecidableEq

/-- What a conversion stores. -/
inductive Scanned where
  | string (text : Text)
  | hex (value : UInt32)
  | long (value : UInt64)
deriving Repr, DecidableEq

/-- A prefix `0x` belongs to the number, also if no digit follows. -/
def scanHexPrefix : Text → Text
  | 48 :: x :: rest => if x = 120 ∨ x = 88 then rest else 48 :: x :: rest
  | rest => rest

/-- The sign and the digits of a number, and what is behind it. -/
def scanNumber (base : Nat) (s : Text) : Option ((Bool × Nat) × Text) :=
  let (negative, body) := readSign (s.dropWhile isSpace)
  let body := if base = 16 then scanHexPrefix body else body
  let digits := body.takeWhile fun c => digitVal c < base
  if digits = [] then none
  else some ((negative, digitsVal base digits), body.dropWhile fun c => digitVal c < base)

/-- A number for an unsigned `%X`, converted as by `strtoul` -/
def hexValue (negative : Bool) (value : Nat) : UInt32 :=
  (if 2 ^ 64 ≤ value then -1 else if negative then -UInt64.ofNat value else UInt64.ofNat value : UInt64).toUInt32

/-- The bits of a `long`, values out of range being brought to the nearest one. -/
def longValue (negative : Bool) (value : Nat) : UInt64 :=
  UInt64.ofInt (if negative then max (-(value : Int)) (-2 ^ 63) else min (value : Int) (2 ^ 63 - 1))

def Conversion.scan : Conversion → Text → Option (Scanned × Text)
  | .string width, s =>
    let s := s.dropWhile isSpace
    let word := (s.takeWhile fun c => !isSpace c).take width
    if word = [] then none else some (.string word, s.drop word.length)
  | .hex, s => (scanNumber 16 s).map fun (number, rest) => (.hex (hexValue number.1 number.2), rest)
  | .long, s => (scanNumber 10 s).map fun (number, rest) => (.long (longValue number.1 number.2), rest)

/-- `sscanf`, with all that is stored until a conversion fails. -/
def sscanf : List Conversion → Text → List Scanned
  | [], _ => []
  | conversion :: format, s =>
    match conversion.scan s with
    | some (item, rest) => item :: sscanf format rest
    | none => []

/-- Behind a column there is white space, or nothing. -/
abbrev ColumnEnd (rest : Text) : Prop := Stops (fun c => !isSpace c) rest

/-- The conversion takes the whole column, whatever blanks there are before it. -/
def Conversion.Reads (conversion : Conversion) (column : Text) (item : Scanned) : Prop :=
  ∀ blanks rest, (∀ c ∈ blanks, isSpace c = true) → ColumnEnd rest →
    conversion.scan (blanks ++ column ++ rest) = some (item, rest)

variable {blanks rest : Text}

/-- A byte that is no digit ends a number. -/
theorem ColumnEnd.digits {base : Nat} (small : base ≤ 36) (stop : ColumnEnd rest) :
    Stops (fun c => digitVal c < base) rest := by
  intro c member
  have blank : isSpace c = true := by simpa using stop c member
  rw [decide_eq_false_iff_not]
  intro digit
  have plain := digit_plain (digit.trans_le small)
  rw [plain.1] at blank
  cases blank

/-- A line of columns with a tabulator before each. -/
theorem sscanf_columns {columns : List (Conversion × Text × Scanned)} (stop : ColumnEnd rest)
    (reads : ∀ column ∈ columns, column.1.Reads column.2.1 column.2.2) :
    sscanf (columns.map fun column => column.1) (columns.flatMap (fun column => 9 :: column.2.1) ++ rest) =
      columns.map fun column => column.2.2 := by
  induction columns with
  | nil => rfl
  | cons column columns ih =>
    have others := ih fun other member => reads other (by simp [member])
    have behind : ColumnEnd (columns.flatMap (fun column => 9 :: column.2.1) ++ rest) := by
      cases columns with
      | nil => exact stop
      | cons next columns => simp [isSpace]
    have here := reads column (by simp) [9] _ (by simp [isSpace]) behind
    simp only [List.cons_append, List.nil_append] at here
    simp only [List.map_cons, List.flatMap_cons, List.cons_append, List.append_assoc, sscanf, here, others]

theorem reads_string {word : Text} {width : Nat} (nonempty : word ≠ []) (plain : ∀ c ∈ word, isSpace c = false)
    (fits : word.length ≤ width) : (Conversion.string width).Reads word (.string word) := by
  intro blanks rest blank stop
  obtain ⟨first, others, rfl⟩ := List.exists_cons_of_ne_nil nonempty
  have start : Stops isSpace (first :: others ++ rest) := by
    rw [List.cons_append, stops_cons]
    exact plain first (by simp)
  have skipped : (blanks ++ (first :: others) ++ rest).dropWhile isSpace = first :: others ++ rest := by
    rw [List.append_assoc, dropWhile_stop blank start]
  have taken : (first :: others ++ rest).takeWhile (fun c => !isSpace c) = first :: others :=
    takeWhile_stop (by simpa using plain) stop
  have whole : (first :: others).take width = first :: others := List.take_of_length_le fits
  have behind : (first :: others ++ rest).drop (first :: others).length = rest := List.drop_left
  simp only [Conversion.scan, skipped, taken, whole, if_neg nonempty, behind]

theorem scanHexPrefix_digits {first second : UInt8} (digit : digitVal second < 16) :
    scanHexPrefix (first :: second :: rest) = first :: second :: rest := by
  unfold scanHexPrefix
  split
  · rename_i x tail same
    cases same
    have notX : ¬ (second = 120 ∨ second = 88) := by
      rintro (rfl | rfl)
      · exact absurd digit (by decide)
      · exact absurd digit (by decide)
    rw [if_neg notX]
  · rfl

theorem scanNumber_digits {base : Nat} {digits : Text} (negative : Bool) (small : base ≤ 36)
    (blank : ∀ c ∈ blanks, isSpace c = true) (isDigits : ∀ c ∈ digits, digitVal c < base) (nonempty : digits ≠ [])
    (plain : base = 16 → 2 ≤ digits.length) (stop : Stops (fun c => digitVal c < base) rest) :
    scanNumber base (blanks ++ (if negative then 45 :: digits else digits) ++ rest) =
      some ((negative, digitsVal base digits), rest) := by
  obtain ⟨first, others, rfl⟩ := List.exists_cons_of_ne_nil nonempty
  have digit : digitVal first < 36 := (isDigits first (by simp)).trans_le small
  have atSign := @dropWhile_signed blanks others first negative blank digit rest
  have sign := @readSign_signed others first negative digit rest
  have noPrefix : (if base = 16 then scanHexPrefix (first :: others ++ rest) else first :: others ++ rest) =
      first :: others ++ rest := by
    by_cases hex : base = 16
    · have long := plain hex
      rw [if_pos hex]
      cases others with
      | nil => simp at long
      | cons second others =>
        have next := isDigits second (by simp)
        rw [hex] at next
        exact scanHexPrefix_digits next
    · rw [if_neg hex]
  have inside : ∀ c ∈ first :: others, decide (digitVal c < base) = true := by simpa using isDigits
  have taken := takeWhile_stop inside stop
  have dropped := dropWhile_stop inside stop
  simp only [scanNumber, atSign, sign, noPrefix, taken, dropped, if_neg nonempty]

/-- `%X` reads back what a hexadecimal format with two digits or more has printed. -/
theorem reads_hex {width n : Nat} (wide : 2 ≤ width) (small : n < 16 ^ width) (fits : n < 2 ^ 32) :
    Conversion.hex.Reads (hexFixed width n) (.hex (UInt32.ofNat n)) := by
  intro blanks rest blank stop
  have value : digitsVal 16 (hexFixed width n) = n := by
    rw [digitsVal_hexFixed, Nat.mod_eq_of_lt small]
  have digits : ∀ c ∈ hexFixed width n, digitVal c < 16 := fun c member => digitVal_of_mem_hexFixed member
  have number := scanNumber_digits false (by omega) blank digits (hexFixed_ne_nil (by omega)) (by
    intro _
    rw [length_hexFixed]
    exact wide) (stop.digits (by omega))
  have word : hexValue false n = UInt32.ofNat n := by
    rw [hexValue, if_neg (by omega), if_neg Bool.false_ne_true, ← UInt32.toNat_inj, UInt64.toNat_toUInt32,
      UInt64.toNat_ofNat', UInt32.toNat_ofNat']
    omega
  rw [value] at number
  simp only [Bool.false_eq_true, if_false] at number
  simp only [Conversion.scan, number, Option.map_some, word]

/-- `%ld` reads back what `%ld` has printed. -/
theorem reads_long {z : Int} (lower : -2 ^ 63 ≤ z) (upper : z < 2 ^ 63) :
    Conversion.long.Reads (decimalInt z) (.long (UInt64.ofInt z)) := by
  intro blanks rest blank stop
  have value := digitsVal_decimal z.natAbs
  have number := fun negative => scanNumber_digits negative (by omega) blank
    (fun c member => digitVal_of_isDigit (isDigit_of_decimal member)) (decimal_ne_nil z.natAbs) (by omega)
    (stop.digits (by omega : 10 ≤ 36))
  by_cases negative : z < 0
  · have minus := number true
    have inRange : max (-(z.natAbs : Int)) (-2 ^ 63) = z := by omega
    rw [value] at minus
    simp only [if_true] at minus
    rw [decimalInt, if_pos negative]
    simp only [Conversion.scan, minus, Option.map_some, longValue, if_true, inRange]
  · have plus := number false
    have inRange : min (z.natAbs : Int) (2 ^ 63 - 1) = z := by omega
    rw [value] at plus
    simp only [Bool.false_eq_true, if_false] at plus
    rw [decimalInt, if_neg negative]
    simp only [Conversion.scan, plus, Option.map_some, longValue, Bool.false_eq_true, if_false, inRange]

/-- A number for `%lu`, converted as by `strtoul` -/
def unsignedValue (negative : Bool) (value : Nat) : UInt64 :=
  if 2 ^ 64 ≤ value then -1 else if negative then -UInt64.ofNat value else UInt64.ofNat value

/-- The numbers that so many conversions `%lu` store. -/
def scanUnsigned : Nat → Text → List UInt64
  | 0, _ => []
  | n + 1, s =>
    match scanNumber 10 s with
    | some (number, rest) => unsignedValue number.1 number.2 :: scanUnsigned n rest
    | none => []

/-- All the numbers that a text begins with. -/
def numbersOf (s : Text) : List UInt64 := scanUnsigned s.length s

theorem length_readSign (s : Text) : (readSign s).2.length ≤ s.length := by
  unfold readSign
  split <;> simp

/-- A number has a digit at least. -/
theorem scanNumber_rest {s : Text} {number : Bool × Nat} (scanned : scanNumber 10 s = some (number, rest)) :
    rest.length < s.length := by
  have skipped := (List.dropWhile_suffix (l := s) isSpace).length_le
  have sign := length_readSign (s.dropWhile isSpace)
  unfold scanNumber at scanned
  simp only [show ¬ 10 = 16 by omega, if_false] at scanned
  split at scanned
  · cases scanned
  · rename_i some_digit
    simp only [Option.some.injEq, Prod.mk.injEq] at scanned
    have parts := congrArg List.length (@List.takeWhile_append_dropWhile _ (fun c => decide (digitVal c < 10))
      (readSign (s.dropWhile isSpace)).2)
    have positive := List.length_pos_iff.mpr some_digit
    rw [List.length_append, scanned.2] at parts
    omega

theorem scanUnsigned_take {n m : Nat} (fewer : n ≤ m) (s : Text) : scanUnsigned n s = (scanUnsigned m s).take n := by
  induction n generalizing m s with
  | zero => simp [scanUnsigned]
  | succ n ih =>
    obtain ⟨m, rfl⟩ : ∃ rest, m = rest + 1 := ⟨m - 1, by omega⟩
    cases scanned : scanNumber 10 s with
    | none => simp [scanUnsigned, scanned]
    | some result => simp only [scanUnsigned, scanned, List.take_succ_cons, ih (by omega : n ≤ m)]

theorem scanUnsigned_stable {n : Nat} {s : Text} (enough : s.length ≤ n) : scanUnsigned n s = numbersOf s := by
  have most : ∀ (n : Nat) (s : Text), (scanUnsigned n s).length ≤ s.length := by
    intro n
    induction n with
    | zero => simp [scanUnsigned]
    | succ n ih =>
      intro s
      cases scanned : scanNumber 10 s with
      | none => simp [scanUnsigned, scanned]
      | some result =>
        have shorter := scanNumber_rest scanned
        have others := ih result.2
        simp only [scanUnsigned, scanned, List.length_cons]
        omega
  rw [numbersOf, scanUnsigned_take enough, List.take_of_length_le (most n s)]

/-- `sscanf` stores the first of the numbers. -/
theorem scanUnsigned_eq_take (n : Nat) (s : Text) : scanUnsigned n s = (numbersOf s).take n := by
  have more := @scanUnsigned_take n (n + s.length) (by omega) s
  rw [more, scanUnsigned_stable (by omega)]

end CString
