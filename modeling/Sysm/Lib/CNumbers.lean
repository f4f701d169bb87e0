import Sysm.Lib.CString

namespace CString

/-- The text ends, or its first byte is not in the class. -/
def Stops (p : UInt8 → Bool) (rest : Text) : Prop := ∀ c ∈ rest.head?, p c = false

variable {p : UInt8 → Bool} {word rest : Text}

@[simp] theorem stops_nil : Stops p [] := by simp [Stops]

@[simp] theorem stops_cons {c : UInt8} : Stops p (c :: rest) ↔ p c = false := by simp [Stops]

theorem Stops.newline (stop : Stops p rest) (other : p 10 = false) :
    Stops p (rest ++ [10]) := by
  cases rest with
  | nil => simpa using other
  | cons c rest => simpa using stop

theorem takeWhile_stop (inside : ∀ c ∈ word, p c = true) (stop : Stops p rest) :
    (word ++ rest).takeWhile p = word := by
  rw [List.takeWhile_append_of_pos inside]
  cases rest with
  | nil => simp
  | cons c rest => simp [stops_cons.mp stop]

theorem dropWhile_stop (inside : ∀ c ∈ word, p c = true) (stop : Stops p rest) :
    (word ++ rest).dropWhile p = rest := by
  rw [List.dropWhile_append_of_pos inside]
  cases rest with
  | nil => rfl
  | cons c rest => simp [stops_cons.mp stop]

theorem strchr_append {c : UInt8} (before : ∀ d ∈ word, d ≠ c) : strchr c (word ++ c :: rest) = some (c :: rest) := by
  have found : (word ++ c :: rest).dropWhile (· != c) = c :: rest :=
    dropWhile_stop (by simpa using before) (by simp)
  simp only [strchr, found]

theorem strrchr_eq_none {c : UInt8} (absent : ∀ d ∈ word, d ≠ c) : strrchr c word = none := by
  induction word with
  | nil => rfl
  | cons first word ih =>
    have later := ih fun d member => absent d (by simp [member])
    have here := absent first (by simp)
    rw [strrchr, later, if_neg here, Option.none_or]

theorem strrchr_append {c : UInt8} (after : ∀ d ∈ rest, d ≠ c) : strrchr c (word ++ c :: rest) = some (c :: rest) := by
  induction word with
  | nil => rw [List.nil_append, strrchr, strrchr_eq_none after, if_pos rfl, Option.none_or]
  | cons first word ih => rw [List.cons_append, strrchr, ih, Option.some_or]

theorem ofBuffer_of_no_nul {bytes : List UInt8} (noNul : ∀ c ∈ bytes, c ≠ 0) : ofBuffer bytes = bytes := by
  rw [ofBuffer, List.takeWhile_eq_self_iff]
  simpa using noNul

/-- A string that ends inside of a buffer is shorter than it. -/
theorem length_ofBuffer_lt {bytes : List UInt8} (ends : 0 ∈ bytes) : (ofBuffer bytes).length < bytes.length := by
  have prefixed : ofBuffer bytes <+: bytes := List.takeWhile_prefix _
  by_contra long
  have whole : ofBuffer bytes = bytes := prefixed.eq_of_length_le (by omega)
  rw [← whole] at ends
  have plain := List.mem_takeWhile_imp ends
  simp at plain

/-- A byte that is a digit in some base is neither white space nor a sign. -/
theorem digit_plain {c : UInt8} (digit : digitVal c < 36) : isSpace c = false ∧ c ≠ 43 ∧ c ≠ 45 := by
  simp only [digitVal, isDigit, isUpper, isLower, isSpace, Bool.and_eq_true, decide_eq_true_eq, UInt8.le_iff_toNat_le,
    Bool.or_eq_false_iff, Bool.and_eq_false_iff, decide_eq_false_iff_not, beq_eq_false_iff_ne, ne_eq,
    ← UInt8.toNat_inj] at *
  have bound := c.toNat_lt
  simp only [UInt8.reduceToNat] at *
  split at digit
  · omega
  · split at digit
    · omega
    · split at digit
      · omega
      · omega

theorem skipHexPrefix_digits {first second : UInt8} (digit : digitVal second < 16) :
    skipHexPrefix (first :: second :: rest) = first :: second :: rest := by
  unfold skipHexPrefix
  split
  · rename_i x next tail same
    cases same
    have notX : ¬ (second = 120 ∨ second = 88) := by
      rintro (rfl | rfl)
      · exact absurd digit (by decide)
      · exact absurd digit (by decide)
    rw [if_neg (fun h => notX h.1)]
  · rfl

theorem readSign_digit {first : UInt8} (digit : digitVal first < 36) (others : Text) :
    readSign (first :: others) = (false, first :: others) := by
  have start := digit_plain digit
  simp only [readSign]
  split
  · rename_i same
    exact absurd (List.cons.inj same).1 start.2.2
  · rename_i same
    exact absurd (List.cons.inj same).1 start.2.1
  · rfl

section Signed

variable {blanks others : Text} {first : UInt8}

/-- The blanks in front of a number are skipped up to its sign. -/
theorem dropWhile_signed (negative : Bool) (blank : ∀ c ∈ blanks, isSpace c = true) (digit : digitVal first < 36) (rest : Text) :
    (blanks ++ (if negative then 45 :: first :: others else first :: others) ++ rest).dropWhile isSpace =
      (if negative then 45 :: first :: others else first :: others) ++ rest := by
  rw [List.append_assoc, dropWhile_stop blank]
  cases negative with
  | false => simp [(digit_plain digit).1]
  | true => simp [show isSpace 45 = false from rfl]

theorem readSign_signed (negative : Bool) (digit : digitVal first < 36) (rest : Text) :
    readSign ((if negative then 45 :: first :: others else first :: others) ++ rest) = (negative, first :: others ++ rest) := by
  cases negative with
  | true => rfl
  | false => exact readSign_digit digit _

end Signed

/-- The blanks that `%*` pads with -/
theorem isSpace_blanks (n : Nat) : ∀ c ∈ List.replicate n (32 : UInt8), isSpace c = true := by
  intro c member
  rw [List.eq_of_mem_replicate member]
  rfl

/-- `strtoul` skips the blanks, converts all the digits and stops behind them. -/
theorem strtoul_signed {base : Nat} {blanks digits : Text} (negative : Bool) (small : base ≤ 36)
    (blank : ∀ c ∈ blanks, isSpace c = true) (isDigits : ∀ c ∈ digits, digitVal c < base) (nonempty : digits ≠ [])
    (plain : base = 16 → 2 ≤ digits.length) (stop : Stops (fun c => digitVal c < base) rest) :
    strtoul base (blanks ++ (if negative then 45 :: digits else digits) ++ rest) =
      (if 2 ^ 64 ≤ digitsVal base digits then -1 else
        if negative then -UInt64.ofNat (digitsVal base digits) else UInt64.ofNat (digitsVal base digits), rest) := by
  obtain ⟨first, others, rfl⟩ := List.exists_cons_of_ne_nil nonempty
  have digit : digitVal first < 36 := (isDigits first (by simp)).trans_le small
  have atSign := @dropWhile_signed blanks others first negative blank digit rest
  have sign := @readSign_signed others first negative digit rest
  have noPrefix : (if base = 16 then skipHexPrefix (first :: others ++ rest) else first :: others ++ rest) =
      first :: others ++ rest := by
    by_cases hex : base = 16
    · obtain ⟨second, tail, rfl⟩ := @List.exists_cons_of_ne_nil _ others (by
        rintro rfl
        have := plain hex
        simp at this)
      have digit := isDigits second (by simp)
      rw [hex] at digit
      rw [if_pos hex]
      exact skipHexPrefix_digits digit
    · rw [if_neg hex]
  have inside : ∀ c ∈ first :: others, decide (digitVal c < base) = true := by simpa using isDigits
  have taken := takeWhile_stop inside stop
  have dropped := dropWhile_stop inside stop
  simp only [strtoul, readNumber, atSign, sign, noPrefix, taken, dropped]
  simp

theorem strtoul_digits {base : Nat} {blanks digits : Text} (small : base ≤ 36)
    (blank : ∀ c ∈ blanks, isSpace c = true) (isDigits : ∀ c ∈ digits, digitVal c < base) (nonempty : digits ≠ [])
    (plain : base = 16 → 2 ≤ digits.length) (fits : digitsVal base digits < 2 ^ 64)
    (stop : Stops (fun c => digitVal c < base) rest) :
    strtoul base (blanks ++ digits ++ rest) = (UInt64.ofNat (digitsVal base digits), rest) := by
  have read := strtoul_signed false small blank isDigits nonempty plain stop
  rwa [if_neg (by decide), if_neg (by omega)] at read

theorem decimal_ne_nil (n : Nat) : decimal n ≠ [] := by
  simp [decimal, Nat.toDigits_ne_nil]

/-- A printed number has no leading zero. -/
theorem head_decimal {n : Nat} (positive : 0 < n) : (decimal n).head? ≠ some 48 := by
  induction n using Nat.strong_induction_on with
  | _ n ih =>
    unfold decimal at ih ⊢
    by_cases small : n < 10
    · rw [Nat.toDigits_of_lt_base small]
      interval_cases n <;> decide
    · have shorter := ih (n / 10) (by omega) (by omega)
      rw [Nat.toDigits_of_base_le (by omega) (by omega), List.map_append, List.head?_append]
      cases first : (List.map (fun c => UInt8.ofNat c.toNat) (Nat.toDigits 10 (n / 10))).head? with
      | none => simp [Nat.toDigits_ne_nil] at first
      | some c => rwa [first] at shorter

/-- The byte of a digit character. -/
theorem digit_byte {c : Char} (digit : c.isDigit = true) :
    isDigit (UInt8.ofNat c.toNat) = true ∧ digitVal (UInt8.ofNat c.toNat) = c.toNat - 48 := by
  have range : 48 ≤ c.toNat ∧ c.toNat ≤ 57 := by
    simp only [Char.isDigit, Bool.and_eq_true, decide_eq_true_eq, ge_iff_le, UInt32.le_iff_toNat_le] at digit
    exact digit
  have isDigit : isDigit (UInt8.ofNat c.toNat) = true := by
    simp only [CString.isDigit, Bool.and_eq_true, decide_eq_true_eq, UInt8.le_iff_toNat_le, UInt8.toNat_ofNat',
      UInt8.reduceToNat]
    omega
  refine ⟨isDigit, ?_⟩
  simp only [digitVal, isDigit, if_true, UInt8.toNat_ofNat']
  omega

theorem isDigit_of_decimal {n : Nat} {c : UInt8} (member : c ∈ decimal n) : isDigit c = true := by
  obtain ⟨char, inDigits, rfl⟩ := List.mem_map.mp member
  exact (digit_byte (Nat.isDigit_of_mem_toDigits (by omega) (by omega) inDigits)).1

theorem decimal_plain {n : Nat} {c : UInt8} (member : c ∈ decimal n) : c ≠ 0 ∧ c ≠ 10 ∧ c ≠ 32 ∧ c ≠ 58 := by
  have digit := isDigit_of_decimal member
  simp only [isDigit, Bool.and_eq_true, decide_eq_true_eq, UInt8.le_iff_toNat_le, UInt8.reduceToNat, ne_eq,
    ← UInt8.toNat_inj] at digit ⊢
  omega

theorem digitVal_of_isDigit {c : UInt8} (digit : isDigit c = true) : digitVal c < 10 := by
  have range := digit
  simp only [isDigit, Bool.and_eq_true, decide_eq_true_eq, UInt8.le_iff_toNat_le, UInt8.reduceToNat] at range
  simp only [digitVal, digit, if_true]
  omega

theorem isDigit_visible {c : UInt8} (digit : isDigit c = true) : isSpace c = false := by
  have small := digitVal_of_isDigit digit
  exact (digit_plain (by omega)).1

/-- Where no word goes on, no number does. -/
theorem stops_digit (apart : Stops (fun c => !isSpace c) rest) : Stops (fun c => digitVal c < 10) rest := by
  intro c first
  have space := apart c first
  by_contra digit
  have small : digitVal c < 10 := by simpa using digit
  have visible := (digit_plain (by omega : digitVal c < 36)).1
  simp [visible] at space

theorem digitsVal_decimal (n : Nat) : digitsVal 10 (decimal n) = n := by
  have same : ∀ (chars : List Char) (value : Nat), (∀ c ∈ chars, c.isDigit = true) →
      (chars.map fun c => UInt8.ofNat c.toNat).foldl (fun value c => value * 10 + digitVal c) value =
        Nat.ofDigitChars 10 chars value := by
    intro chars
    induction chars with
    | nil => intro value _; rfl
    | cons c chars ih =>
      intro value digits
      rw [List.map_cons, List.foldl_cons, (digit_byte (digits c (by simp))).2,
        ih _ fun d member => digits d (by simp [member]), Nat.ofDigitChars_cons, Nat.mul_comm]
      rfl
  rw [digitsVal, decimal, same _ _ fun c member => Nat.isDigit_of_mem_toDigits (by omega) (by omega) member,
    Nat.ofDigitChars_ten_toDigits]

/-- `strtoul` reads a printed number back. -/
theorem strtoul_decimal {blanks : Text} (blank : ∀ c ∈ blanks, isSpace c = true) {n : Nat} (small : n < 2 ^ 64)
    (stop : Stops (fun c => digitVal c < 10) rest) :
    strtoul 10 (blanks ++ decimal n ++ rest) = (UInt64.ofNat n, rest) := by
  have value := digitsVal_decimal n
  rw [strtoul_digits (by omega) blank (fun c member => digitVal_of_isDigit (isDigit_of_decimal member))
    (decimal_ne_nil n) (by omega) (by omega) stop, value]

theorem strtol_decimal {n : Nat} (small : n < 2 ^ 63) (stop : Stops (fun c => digitVal c < 10) rest) :
    strtol 10 (decimal n ++ rest) = n := by
  have value := digitsVal_decimal n
  have inside : ∀ c ∈ decimal n, decide (digitVal c < 10) = true := fun c member =>
    decide_eq_true (digitVal_of_isDigit (isDigit_of_decimal member))
  have taken := takeWhile_stop inside stop
  obtain ⟨first, others, same⟩ := List.exists_cons_of_ne_nil (decimal_ne_nil n)
  rw [same] at taken value inside
  have digit : digitVal first < 36 := by
    have ten := of_decide_eq_true (inside first (List.mem_cons_self ..))
    omega
  have notSpace : (first :: others ++ rest).dropWhile isSpace = first :: others ++ rest := by
    rw [List.cons_append, List.dropWhile_cons_of_neg]
    rw [(digit_plain digit).1]
    decide
  have notSign : readSign (first :: others ++ rest) = (false, first :: others ++ rest) := readSign_digit digit _
  have notHex : ¬ (10 = 16) := by omega
  rw [same]
  simp only [strtol, notSpace, notSign, if_neg notHex, taken, value, Bool.false_eq_true, if_false]
  omega

theorem ofInt_natCast (n : Nat) : UInt64.ofInt n = UInt64.ofNat n := by
  have reduced : ((n : Int) % 2 ^ 64).toNat = n % 2 ^ 64 := by omega
  rw [UInt64.ofInt, reduced, UInt64.ofNat_mod_size]

/-- A negative number is read modulo `2 ^ 64`. -/
theorem strtoul_decimalInt {blanks : Text} (blank : ∀ c ∈ blanks, isSpace c = true) {z : Int}
    (small : z.natAbs < 2 ^ 64) (stop : Stops (fun c => digitVal c < 10) rest) :
    strtoul 10 (blanks ++ decimalInt z ++ rest) = (UInt64.ofInt z, rest) := by
  have value := digitsVal_decimal z.natAbs
  have inRange : ¬ 2 ^ 64 ≤ digitsVal 10 (decimal z.natAbs) := by omega
  have read : ∀ negative, _ := fun negative => strtoul_signed negative (by omega : 10 ≤ 36) blank
    (fun c member => digitVal_of_isDigit (isDigit_of_decimal member)) (decimal_ne_nil z.natAbs) (by omega) stop
  by_cases negative : z < 0
  · have atZ : z = -(z.natAbs : Int) := by omega
    have minus := read true
    rw [if_neg inRange, value] at minus
    rw [decimalInt, if_pos negative]
    simp only [if_true] at minus
    rw [minus, ← ofInt_natCast, ← UInt64.ofInt_neg, ← atZ]
  · have atZ : z = (z.natAbs : Int) := by omega
    have plus := read false
    rw [if_neg inRange, value] at plus
    rw [decimalInt, if_neg negative]
    simp only [Bool.false_eq_true, if_false] at plus
    rw [plus, ← ofInt_natCast, ← atZ]

theorem decimalInt_ne_nil (z : Int) : decimalInt z ≠ [] := by
  unfold decimalInt
  split
  · simp
  · exact decimal_ne_nil _

/-- The bytes of a printed integer. -/
theorem mem_decimalInt {z : Int} {c : UInt8} (member : c ∈ decimalInt z) : c = 45 ∨ isDigit c = true := by
  unfold decimalInt at member
  split at member
  · rcases List.mem_cons.mp member with sign | digit
    · exact Or.inl sign
    · exact Or.inr (isDigit_of_decimal digit)
  · exact Or.inr (isDigit_of_decimal member)

theorem length_hexFixed (width n : Nat) : (hexFixed width n).length = width := by
  induction width generalizing n with
  | zero => rfl
  | succ width ih => rw [hexFixed, List.length_append, ih, List.length_singleton]

theorem digitVal_hexDigit {n : Nat} (small : n < 16) : digitVal (hexDigit n) = n := by
  interval_cases n <;> rfl

theorem mem_hexFixed {width n : Nat} {c : UInt8} (member : c ∈ hexFixed width n) : ∃ d < 16, c = hexDigit d := by
  induction width generalizing n with
  | zero => cases member
  | succ width ih =>
    rw [hexFixed, List.mem_append, List.mem_singleton] at member
    rcases member with before | last
    · exact ih before
    · exact ⟨n % 16, by omega, last⟩

theorem digitsVal_hexFixed (width n : Nat) : digitsVal 16 (hexFixed width n) = n % 16 ^ width := by
  induction width generalizing n with
  | zero => simp [hexFixed, digitsVal, Nat.mod_one]
  | succ width ih =>
    have before : (hexFixed width (n / 16)).foldl (fun value c => value * 16 + digitVal c) 0 = n / 16 % 16 ^ width :=
      ih (n / 16)
    have small : n % 16 < 16 := by omega
    rw [hexFixed, digitsVal, List.foldl_append, before, List.foldl_cons, List.foldl_nil, digitVal_hexDigit small,
      Nat.pow_succ', Nat.mod_mul]
    omega

theorem digitVal_of_mem_hexFixed {width n : Nat} {c : UInt8} (member : c ∈ hexFixed width n) : digitVal c < 16 := by
  obtain ⟨d, bound, same⟩ := mem_hexFixed member
  rw [same, digitVal_hexDigit bound]
  exact bound

theorem hexFixed_ne_nil {width n : Nat} (wide : 0 < width) : hexFixed width n ≠ [] := by
  have length := length_hexFixed width n
  intro empty
  rw [empty, List.length_nil] at length
  omega

/-- `strtoul` reads the digits of `%04X` and wider formats back. -/
theorem strtoul_hexFixed {width n : Nat} (wide : 2 ≤ width) (small : n < 16 ^ width) (fits : n < 2 ^ 64)
    (stop : Stops (fun c => digitVal c < 16) rest) :
    strtoul 16 (hexFixed width n ++ rest) = (UInt64.ofNat n, rest) := by
  have length := length_hexFixed width n
  have value : digitsVal 16 (hexFixed width n) = n := by
    rw [digitsVal_hexFixed, Nat.mod_eq_of_lt small]
  have read := @strtoul_digits rest 16 [] (hexFixed width n) (by omega) (by simp)
    (fun c member => digitVal_of_mem_hexFixed member) (hexFixed_ne_nil (by omega)) (by omega) (by omega) stop
  rwa [List.nil_append, value] at read

theorem takeLine_newline {line stream : List UInt8} {room : Nat} (plain : ∀ c ∈ line, c ≠ 10)
    (fits : line.length < room) : takeLine room (line ++ 10 :: stream) = (line ++ [10], stream) := by
  induction line generalizing room with
  | nil =>
    obtain ⟨room, rfl⟩ : ∃ rest, room = rest + 1 := ⟨room - 1, by simp at fits; omega⟩
    simp [takeLine]
  | cons c line ih =>
    obtain ⟨room, rfl⟩ : ∃ rest, room = rest + 1 := ⟨room - 1, by simp at fits; omega⟩
    have here := plain c (by simp)
    have later := ih (fun d member => plain d (by simp [member])) (by simpa using fits)
    simp only [List.cons_append, takeLine, if_neg here, later]

/-- The last line of a file that does not end with a newline. -/
theorem takeLine_whole {line : List UInt8} {room : Nat} (plain : ∀ c ∈ line, c ≠ 10) (fits : line.length ≤ room) :
    takeLine room line = (line, []) := by
  induction line generalizing room with
  | nil => cases room <;> rfl
  | cons c line ih =>
    obtain ⟨room, rfl⟩ : ∃ rest, room = rest + 1 := ⟨room - 1, by simp at fits; omega⟩
    have here := plain c (by simp)
    have later := ih (fun d member => plain d (by simp [member])) (by simpa using fits)
    simp only [takeLine, if_neg here, later]

/-- A line that is too long is cut. -/
theorem takeLine_long {line : List UInt8} {room : Nat} (plain : ∀ c ∈ line, c ≠ 10) (long : room ≤ line.length)
    (stream : List UInt8) : takeLine room (line ++ stream) = (line.take room, line.drop room ++ stream) := by
  induction line generalizing room with
  | nil =>
    obtain rfl : room = 0 := Nat.le_zero.mp long
    simp [takeLine]
  | cons c line ih =>
    cases room with
    | zero => simp [takeLine]
    | succ room =>
      have here := plain c (by simp)
      have later := ih (fun d member => plain d (by simp [member])) (by simpa using long)
      simp only [List.cons_append, takeLine, if_neg here, later, List.take_succ_cons, List.drop_succ_cons]

theorem takeLine_length (room : Nat) (stream : List UInt8) :
    (takeLine room stream).1.length + (takeLine room stream).2.length = stream.length := by
  induction room generalizing stream with
  | zero => simp [takeLine]
  | succ room ih =>
    cases stream with
    | nil => simp [takeLine]
    | cons c stream =>
      by_cases newline : c = 10
      · simp [takeLine, newline]
        omega
      · have later := ih stream
        simp only [takeLine, if_neg newline, List.length_cons]
        omega

/-- `fgets` takes something from a stream that is not at its end. -/
theorem fgets_progress {size : Nat} (big : 2 ≤ size) {stream rest : List UInt8} {line : Text}
    (read : fgets size stream = some (line, rest)) : rest.length < stream.length := by
  cases stream with
  | nil => cases read
  | cons c stream =>
    obtain ⟨room, same⟩ : ∃ room, size - 1 = room + 1 := ⟨size - 2, by omega⟩
    simp only [fgets, same, Option.some.injEq, Prod.mk.injEq] at read
    have length := takeLine_length room stream
    rw [← read.2]
    by_cases newline : c = 10
    · simp [takeLine, newline]
    · simp only [takeLine, if_neg newline, List.length_cons]
      omega

theorem fgets_of_takeLine {size : Nat} {stream line rest : List UInt8} (more : stream ≠ [])
    (taken : takeLine (size - 1) stream = (line, rest)) : fgets size stream = some (ofBuffer line, rest) := by
  obtain ⟨c, stream, rfl⟩ := List.exists_cons_of_ne_nil more
  simp only [fgets, taken]

/-- More rounds change nothing in a loop of reads that each take a byte at least. -/
theorem readLoop_stable {β : Type} {read : List UInt8 → Option (β × List UInt8)} {loop : Nat → List UInt8 → List β}
    (start : ∀ stream, loop 0 stream = [])
    (round : ∀ rounds stream, loop (rounds + 1) stream =
      (read stream).elim [] fun result => result.1 :: loop rounds result.2)
    (ended : read [] = none)
    (progress : ∀ {stream item rest}, read stream = some (item, rest) → rest.length < stream.length)
    {rounds others : Nat} {stream : List UInt8} (enough : stream.length ≤ rounds) (enough' : stream.length ≤ others) :
    loop rounds stream = loop others stream := by
  have nothing : ∀ rounds, loop rounds [] = [] := by
    intro rounds
    cases rounds with
    | zero => exact start []
    | succ rounds => rw [round, ended, Option.elim_none]
  induction rounds generalizing others stream with
  | zero =>
    have empty : stream = [] := List.length_eq_zero_iff.mp (by omega)
    rw [empty, nothing, nothing]
  | succ rounds ih =>
    cases others with
    | zero =>
      have empty : stream = [] := List.length_eq_zero_iff.mp (by omega)
      rw [empty, nothing, nothing]
    | succ others =>
      rw [round, round]
      cases first : read stream with
      | none => rfl
      | some result =>
        obtain ⟨item, rest⟩ := result
        have shorter := progress first
        have later : loop rounds rest = loop others rest := ih (by omega) (by omega)
        rw [Option.elim_some, Option.elim_some, later]

theorem fgetsLoop_stable {size : Nat} (big : 2 ≤ size) {rounds others : Nat} {stream : List UInt8}
    (enough : stream.length ≤ rounds) (enough' : stream.length ≤ others) :
    fgetsLoop size rounds stream = fgetsLoop size others stream := by
  have round : ∀ rounds stream, fgetsLoop size (rounds + 1) stream =
      (fgets size stream).elim [] fun result => result.1 :: fgetsLoop size rounds result.2 := by
    intro rounds stream
    rw [fgetsLoop]
    cases fgets size stream <;> rfl
  exact readLoop_stable (fun _ => rfl) round rfl (fun read => fgets_progress big read) enough enough'

/-- What `fgets` brings ends at the first NUL. -/
theorem fgetsAll_noNul {size : Nat} {stream : List UInt8} {line : Text} (member : line ∈ fgetsAll size stream) :
    ∀ c ∈ line, c ≠ 0 := by
  unfold fgetsAll at member
  generalize stream.length = rounds at member
  induction rounds generalizing stream with
  | zero => cases member
  | succ rounds ih =>
    rw [fgetsLoop] at member
    cases stream with
    | nil => cases member
    | cons first stream =>
      simp only [fgets, List.mem_cons] at member
      rcases member with here | later
      · intro c inside
        rw [here] at inside
        simpa using List.mem_takeWhile_imp inside
      · exact ih later

theorem fgetsAll_step {size : Nat} (big : 2 ≤ size) {stream line rest : List UInt8} (more : stream ≠ [])
    (taken : takeLine (size - 1) stream = (line, rest)) : fgetsAll size stream = ofBuffer line :: fgetsAll size rest := by
  have read := fgets_of_takeLine more taken
  have shorter := fgets_progress big read
  obtain ⟨rounds, length⟩ : ∃ rounds, stream.length = rounds + 1 := ⟨stream.length - 1, by omega⟩
  rw [fgetsAll, length, fgetsLoop, read, fgetsAll]
  exact congrArg _ (fgetsLoop_stable big (by omega) (Nat.le_refl _))

/-- The first line of a file is read, and then the others. -/
theorem fgetsAll_line {size : Nat} {line stream : List UInt8} (plain : ∀ c ∈ line, c ≠ 10 ∧ c ≠ 0)
    (fits : line.length + 1 < size) :
    fgetsAll size (line ++ 10 :: stream) = (line ++ [10]) :: fgetsAll size stream := by
  have taken : takeLine (size - 1) (line ++ 10 :: stream) = (line ++ [10], stream) :=
    takeLine_newline (fun c member => (plain c member).1) (by omega)
  have noNul : ∀ c ∈ line ++ [10], c ≠ 0 := by
    intro c member
    rcases List.mem_append.mp member with inside | last
    · exact (plain c inside).2
    · rw [List.mem_singleton.mp last]
      decide
  rw [fgetsAll_step (by omega) (by simp) taken, ofBuffer_of_no_nul noNul]

/-- A file of lines that fit into the buffer. -/
theorem fgetsAll_lines {size : Nat} {lines : List Text} (plain : ∀ line ∈ lines, ∀ c ∈ line, c ≠ 10 ∧ c ≠ 0)
    (fits : ∀ line ∈ lines, line.length + 1 < size) :
    fgetsAll size (lines.flatMap fun line => line ++ [10]) = lines.map fun line => line ++ [10] := by
  induction lines with
  | nil => rfl
  | cons line lines ih =>
    have first := @fgetsAll_line size line (lines.flatMap fun line => line ++ [10]) (plain line (by simp))
      (fits line (by simp))
    have others := ih (fun other member => plain other (by simp [member])) fun other member => fits other (by simp [member])
    rw [List.flatMap_cons, List.append_assoc, List.singleton_append, first, others, List.map_cons]

/-- The lines of a file are read one after the other, in pieces if they are too long. -/
theorem fgetsAll_split {size : Nat} (big : 2 ≤ size) (stream : List UInt8) {line : List UInt8} (plain : ∀ c ∈ line, c ≠ 10) :
    fgetsAll size (line ++ 10 :: stream) = fgetsAll size (line ++ [10]) ++ fgetsAll size stream := by
  induction length : line.length using Nat.strong_induction_on generalizing line with
  | _ n ih =>
    by_cases fits : line.length < size - 1
    · have nothing : fgetsAll size [] = [] := rfl
      rw [fgetsAll_step big (by simp) (takeLine_newline plain fits), fgetsAll_step big (by simp) (takeLine_newline plain fits),
        nothing, List.singleton_append]
    · have long : size - 1 ≤ line.length := by omega
      have others := ih (line.length - (size - 1)) (by omega)
        (fun c member => plain c (List.mem_of_mem_drop member)) (List.length_drop)
      rw [fgetsAll_step big (by simp) (takeLine_long plain long _), fgetsAll_step big (by simp) (takeLine_long plain long _),
        others, List.cons_append]

end CString
