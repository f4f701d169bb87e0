import Mathlib.Data.List.Induction
import Sysm.ProcList

namespace Sysm
open CString

section Scan

variable {p : UInt8 → Bool} {word skip rest : List UInt8} {d : UInt8}

theorem getD_behind (word rest : List UInt8) (d : UInt8) : (word ++ d :: rest).getD word.length 0 = d := by
  rw [List.getD_eq_getElem?_getD, List.getElem?_append_right (Nat.le_refl _), Nat.sub_self]
  rfl

/-- The scan goes back to the last byte that has the property and one further. -/
theorem scanBack_stop (found : p d = true) (plain : ∀ c ∈ skip, p c = false) :
    scanBack p (word ++ d :: (skip ++ rest)) (word.length + skip.length) = word.length - 1 := by
  induction skip using List.reverseRecOn generalizing rest with
  | nil =>
    cases length : word.length with
    | zero => rfl
    | succ n =>
      have here := getD_behind word rest d
      rw [length] at here
      rw [List.length_nil, Nat.add_zero, scanBack, List.nil_append, here, if_pos found, Nat.add_sub_cancel]
  | append_singleton skip c ih =>
    have other := plain c (by simp)
    have shape : word ++ d :: (skip ++ [c] ++ rest) = (word ++ d :: skip) ++ c :: rest := by simp
    have here := getD_behind (word ++ d :: skip) rest c
    have length : (word ++ d :: skip).length = word.length + skip.length + 1 := by simp; omega
    have before := @ih (c :: rest) fun c member => plain c (by simp [member])
    rw [length, ← shape] at here
    rw [List.length_append, List.length_singleton, ← Nat.add_assoc, scanBack, here, if_neg (by simp [other])]
    rwa [List.append_assoc]

theorem scanBack_zero (p : UInt8 → Bool) (buffer : List UInt8) : scanBack p buffer 0 = 0 := rfl

theorem skipFieldsBack_zero (buffer : List UInt8) (offset : Nat) : skipFieldsBack buffer offset 0 = 0 := by
  induction offset with
  | zero => rfl
  | succ offset ih => rw [skipFieldsBack, scanBack_zero, scanBack_zero, ih]

theorem skipFieldsBack_add (buffer : List UInt8) (first second n : Nat) :
    skipFieldsBack buffer (first + second) n = skipFieldsBack buffer second (skipFieldsBack buffer first n) := by
  induction first generalizing n with
  | zero => rw [Nat.zero_add, skipFieldsBack]
  | succ first ih => rw [Nat.add_right_comm, skipFieldsBack, skipFieldsBack, ih]

/-- One round, from the digit before the last one of a number, which may be
the blank before it: it ends just before the last digit that stands in front. -/
theorem skipFieldsBack_one {gap digits : List UInt8} {blank : UInt8} (digit : isDigit d = true)
    (apart : ∀ c ∈ gap, isDigit c = false) (atBlank : isDigit blank = false) (isDigits : ∀ c ∈ digits, isDigit c = true) :
    skipFieldsBack (word ++ d :: (gap ++ blank :: (digits ++ rest))) 1 (word.length + 1 + gap.length + digits.length) =
      word.length - 1 := by
  have shape : word ++ d :: (gap ++ blank :: (digits ++ rest)) = (word ++ d :: gap) ++ blank :: (digits ++ rest) := by simp
  have length : (word ++ d :: gap).length = word.length + 1 + gap.length := by simp; omega
  have number := @scanBack_stop (fun c => !isDigit c) (word ++ d :: gap) digits rest blank (by simp [atBlank])
    fun c member => by simp [isDigits c member]
  have between := @scanBack_stop isDigit word gap (blank :: (digits ++ rest)) d digit apart
  rw [length, ← shape] at number
  rw [skipFieldsBack, skipFieldsBack, number, (by omega : word.length + 1 + gap.length - 1 = word.length + gap.length),
    between]

end Scan

/-- The text ends with a digit. -/
def EndsInDigit (text : Text) : Prop := ∃ word d, text = word ++ [d] ∧ isDigit d = true

theorem endsInDigit_decimal (n : Nat) : ∃ digits last, decimal n = digits ++ [last] ∧ isDigit last = true ∧
    ∀ c ∈ digits, isDigit c = true := by
  have same := List.dropLast_append_getLast (decimal_ne_nil n)
  exact ⟨_, _, same.symm, isDigit_of_decimal (List.getLast_mem _), fun c member => isDigit_of_decimal (List.dropLast_subset _ member)⟩

theorem endsInDigit_decimalInt (front : Text) (z : Int) : EndsInDigit (front ++ decimalInt z) := by
  obtain ⟨digits, last, same, digit, _⟩ := endsInDigit_decimal z.natAbs
  unfold decimalInt
  split
  · exact ⟨front ++ 45 :: digits, last, by simp [same], digit⟩
  · exact ⟨front ++ digits, last, by simp [same], digit⟩

theorem printed_append (zs ws : List Int) : printed (zs ++ ws) = printed zs ++ printed ws := List.flatMap_append

theorem printed_singleton (z : Int) : printed [z] = 32 :: decimalInt z := by simp [printed]

theorem endsInDigit_printed {front : Text} (ended : EndsInDigit front) (zs : List Int) : EndsInDigit (front ++ printed zs) := by
  induction zs using List.reverseRecOn with
  | nil => simpa [printed] using ended
  | append_singleton zs z _ =>
    have last := endsInDigit_decimalInt (front ++ printed zs ++ [32]) z
    rw [printed_append, printed_singleton]
    simpa using last

/-- As many rounds as there are numbers that are not negative go back to what stands before them. -/
theorem skipFieldsBack_printed {front rest : Text} (ended : EndsInDigit front) {ws : List Int} (natural : ∀ z ∈ ws, 0 ≤ z) :
    skipFieldsBack (front ++ (printed ws ++ rest)) ws.length ((front ++ printed ws).length - 2) = front.length - 2 := by
  induction ws using List.reverseRecOn generalizing rest with
  | nil => simp [printed, skipFieldsBack]
  | append_singleton ws z ih =>
    obtain ⟨word, d, before, digit⟩ := endsInDigit_printed ended ws
    obtain ⟨digits, last, number, _, isDigits⟩ := endsInDigit_decimal z.natAbs
    have positive := natural z (by simp)
    have text : printed (ws ++ [z]) = printed ws ++ 32 :: (digits ++ [last]) := by
      rw [printed_append, printed_singleton, decimalInt, if_neg (by omega), number]
    have shape : front ++ (printed (ws ++ [z]) ++ rest) = word ++ d :: ([] ++ 32 :: (digits ++ (last :: rest))) := by
      have joined : front ++ (printed (ws ++ [z]) ++ rest) = (front ++ printed ws) ++ 32 :: (digits ++ (last :: rest)) := by
        simp [text]
      rw [joined, before]
      simp
    have here := @skipFieldsBack_one word (last :: rest) d [] digits 32 digit (by simp) (by decide) isDigits
    have start : (front ++ printed (ws ++ [z])).length - 2 = word.length + 1 + ([] : Text).length + digits.length := by
      have length := congrArg List.length before
      rw [text]
      simp only [List.length_append, List.length_cons, List.length_nil] at length ⊢
      omega
    have stop : word.length - 1 = (front ++ printed ws).length - 2 := by
      rw [before, List.length_append, List.length_singleton]
      omega
    have others := @ih (32 :: (digits ++ last :: rest)) fun z member => natural z (by simp [member])
    have joined : front ++ (printed ws ++ 32 :: (digits ++ last :: rest)) = front ++ (printed (ws ++ [z]) ++ rest) := by
      simp [text]
    rw [joined] at others
    rw [List.length_append, List.length_singleton, Nat.add_comm, skipFieldsBack_add, start, shape, here, stop, ← shape,
      others]

/-- The bytes that `proc_isthread` compares, behind a number from 0 to 64. -/
theorem take_signal {front rest : Text} {z : Int} (lower : 0 ≤ z) (upper : z ≤ 64) :
    (((front ++ 32 :: decimalInt z) ++ 32 :: rest).drop ((front ++ 32 :: decimalInt z).length - 2)).take 3 =
      ofString "17 " ↔ z = 17 := by
  obtain ⟨n, rfl⟩ := Int.eq_ofNat_of_zero_le lower
  have values : ∀ n ∈ List.range 65, (decimalInt n).length - 1 + 3 = (32 :: decimalInt n ++ [32]).length ∧
      ((32 :: decimalInt n ++ [32]).drop ((decimalInt n).length - 1) = ofString "17 " ↔ (n : Int) = 17) := by
    decide +kernel
  obtain ⟨three, seventeen⟩ := values n (List.mem_range.mpr (by omega))
  have shape : (front ++ 32 :: decimalInt n) ++ 32 :: rest = front ++ ((32 :: decimalInt n ++ [32]) ++ rest) := by simp
  have start : (front ++ 32 :: decimalInt n).length - 2 = front.length + ((decimalInt n).length - 1) := by
    have positive := List.length_pos_of_ne_nil (decimalInt_ne_nil n)
    simp only [List.length_append, List.length_cons]
    omega
  rw [shape, start, List.drop_append, List.drop_eq_nil_of_le (by omega), List.nil_append, Nat.add_sub_cancel_left,
    List.drop_append_of_le_length (by omega), List.take_left' (by rw [List.length_drop]; omega), seventeen]

/-- A line of `/proc/<pid>/stat` with 39 fields or more, of which number 38 is
the signal that the parent gets in the end. -/
structure SignalLine where
  pid : Nat
  name : Text
  state : UInt8
  numbers : List Int
  named : ∀ c ∈ name, c ≠ 0
  letter : isUpper state = true ∨ isLower state = true
  enough : 36 ≤ numbers.length
  signal : 0 ≤ numbers.getD 34 0 ∧ numbers.getD 34 0 ≤ 64
  natural : ∀ z ∈ numbers.drop 35, 0 ≤ z

namespace SignalLine

variable (line : SignalLine)

/-- The fields before the numbers. -/
def front : Text := decimal line.pid ++ [32] ++ 40 :: line.name ++ 41 :: 32 :: [line.state]

def text : Text := statText line.pid line.name line.state (columns line.numbers)

/-- The numbers begin with field 4. -/
def fields : Nat := line.numbers.length + 3

def exitSignal : Int := line.numbers.getD 34 0

theorem text_eq : line.text = line.front ++ (printed line.numbers ++ [10]) := by
  simp [text, front, statText, columns_eq]

theorem length_front : 5 < line.front.length := by
  have positive := List.length_pos_of_ne_nil (decimal_ne_nil line.pid)
  simp only [front, List.length_append, List.length_cons, List.length_nil]
  omega

variable {line}

/-- The numbers from which on `proc_isthread` has to go back, and those before them. -/
theorem procIsThread_split {zs ws : List Int} (split : line.numbers = zs ++ ws) (nonempty : zs ≠ [])
    (natural : ∀ z ∈ ws, 0 ≤ z) (short : line.text.length < BUFSIZ) {offset : Int32} {more : Nat}
    (count : offset.toInt.toNat = ws.length + more) :
    procIsThread offset (.bytes line.text) =
      some (decide (3 ≤ skipFieldsBack line.text more ((line.front ++ printed zs).length - 2)) &&
        (line.text.drop (skipFieldsBack line.text more ((line.front ++ printed zs).length - 2))).take 3 != ofString "17 ") := by
  have ended : EndsInDigit (line.front ++ printed zs) := by
    obtain ⟨zs, z, rfl⟩ := List.eq_nil_or_concat zs |>.resolve_left nonempty
    have last := endsInDigit_decimalInt (line.front ++ printed zs ++ [32]) z
    rw [List.concat_eq_append, printed_append, printed_singleton]
    simpa using last
  have shape : line.text = (line.front ++ printed zs) ++ (printed ws ++ [10]) := by
    rw [text_eq, split, printed_append]
    simp
  have numbers := @skipFieldsBack_printed (line.front ++ printed zs) [10] ended ws natural
  have trailing : scanBack isDigit line.text (line.text.length - 1) = (line.front ++ printed zs ++ printed ws).length - 2 := by
    obtain ⟨word, d, before, digit⟩ := endsInDigit_printed ended ws
    have whole : line.text = word ++ d :: ([10] ++ []) := by
      rw [shape, ← List.append_assoc, before]
      simp
    have stop := @scanBack_stop isDigit word [10] [] d digit (by decide +kernel)
    have length : line.text.length - 1 = word.length + [(10 : UInt8)].length := by simp [whole]
    rw [← whole] at stop
    rw [length, stop, before, List.length_append, List.length_singleton, Nat.add_sub_add_right word.length 1 1]
  rw [← shape] at numbers
  simp only [procIsThread, if_pos short, trailing, count, skipFieldsBack_add, numbers]

theorem count_decimal (n : Nat) : (decimal n).count 32 = 0 :=
  List.count_eq_zero.mpr fun member => (decimal_plain member).2.2.1 rfl

theorem count_printed (numbers : List Int) : (printed numbers).count 32 = numbers.length := by
  induction numbers with
  | nil => rfl
  | cons z numbers ih =>
    have number : (decimalInt z).count 32 = 0 := by
      refine List.count_eq_zero.mpr fun member => ?_
      have space := decimalInt_visible member
      cases space
    have parts := printed_cons z numbers []
    simp only [List.append_nil] at parts
    rw [parts, List.count_append, List.count_append, number, ih, List.length_cons]
    simp
    omega

/-- The blanks of a line are those between its fields and those in the name. -/
theorem count_text (line : SignalLine) : line.text.count 32 = line.fields - 1 + line.name.count 32 := by
  have state : line.state ≠ 32 := by
    intro blank
    have visible := (letter_plain line.letter).2.2
    rw [blank] at visible
    cases visible
  have pid := count_decimal line.pid
  have numbers := count_printed line.numbers
  rw [text_eq, front]
  simp only [List.count_append, List.count_cons, List.count_nil, pid, numbers, fields]
  simp [state]
  omega

theorem getProcSignalOffset_text (short : line.text.length < BUFSIZ) :
    ∃ offset, getProcSignalOffset (.bytes line.text) = some offset ∧
      offset.toInt.toNat = line.fields - 38 + line.name.count 32 := by
  have noNul : ∀ c ∈ line.text, c ≠ 0 := statText_no_nul line.named line.letter (columns_plain line.numbers)
  have read : sysmFile2str BUFSIZ (.bytes line.text) = some (.ok line.text) := by
    simp [sysmFile2str, short, ofBuffer_of_no_nul noNul]
  have blanks := line.count_text
  have few : line.text.count 32 ≤ line.text.length := List.count_le_length
  have enough := line.enough
  have bound : BUFSIZ = 8192 := rfl
  have value : ((line.text.count 32 : Nat) : Int) - procSignalIx + 1 =
      ((line.fields - 38 + line.name.count 32 : Nat) : Int) := by
    simp only [procSignalIx, fields] at blanks ⊢
    omega
  refine ⟨_, by rw [getProcSignalOffset, read]; rfl, ?_⟩
  rw [value, Int32.toInt_ofInt_of_le (by omega) (by simp only [fields] at blanks ⊢; omega), Int.toNat_natCast]

/-- The offset that is found in the line of the process itself is good for
every line with as many fields. -/
def TellsThreads (self : SignalLine) : Prop :=
  ∀ line : SignalLine, line.fields = self.fields → line.text.length < BUFSIZ →
    ∃ offset, getProcSignalOffset (.bytes self.text) = some offset ∧
      procIsThread offset (.bytes line.text) = some (decide (line.exitSignal ≠ 17))

/-- The number before those that are gone back over is compared with 17. -/
theorem procIsThread_number {zs ws : List Int} {z w : Int} (split : line.numbers = zs ++ z :: w :: ws) (lower : 0 ≤ z)
    (upper : z ≤ 64) (natural : ∀ z ∈ w :: ws, 0 ≤ z) (short : line.text.length < BUFSIZ) {offset : Int32}
    (count : offset.toInt.toNat = (w :: ws).length) :
    procIsThread offset (.bytes line.text) = some (decide (z ≠ 17)) := by
  have split' : line.numbers = (zs ++ [z]) ++ w :: ws := by simp [split]
  have run := procIsThread_split split' (by simp) natural short (by omega : offset.toInt.toNat = (w :: ws).length + 0)
  have text : line.text = ((line.front ++ printed zs) ++ 32 :: decimalInt z) ++
      32 :: (decimalInt w ++ printed ws ++ [10]) := by
    rw [text_eq, split', printed_append, printed_append, printed_singleton]
    simp [printed]
  have front : line.front ++ printed (zs ++ [z]) = (line.front ++ printed zs) ++ 32 :: decimalInt z := by
    rw [printed_append, printed_singleton, List.append_assoc]
  have signal := @take_signal (line.front ++ printed zs) (decimalInt w ++ printed ws ++ [10]) z lower upper
  have long := line.length_front
  have far : 3 ≤ (line.front ++ printed (zs ++ [z])).length - 2 := by
    rw [List.length_append]
    omega
  rw [← text, ← front] at signal
  rw [run, skipFieldsBack, decide_eq_true far, Bool.true_and]
  by_cases real : z = 17
  · rw [signal.mpr real, real]
    rfl
  · rw [bne_iff_ne.mpr (mt signal.mp real), decide_eq_true real]

/-- From the right offset on the comparison is with field 38. -/
theorem procIsThread_line (short : line.text.length < BUFSIZ) {offset : Int32}
    (count : offset.toInt.toNat = line.fields - 38) :
    procIsThread offset (.bytes line.text) = some (decide (line.exitSignal ≠ 17)) := by
  have enough := line.enough
  have behind : (line.numbers.drop 35).length = line.fields - 38 := by
    rw [List.length_drop, fields]
    omega
  have inside : 34 < line.numbers.length := by omega
  have atSignal : line.numbers.drop 34 = line.exitSignal :: line.numbers.drop 35 := by
    rw [List.drop_eq_getElem_cons inside, exitSignal, List.getD_eq_getElem?_getD, List.getElem?_eq_getElem inside,
      Option.getD_some]
  have natural := line.natural
  have more : 0 < (line.numbers.drop 35).length := by
    rw [List.length_drop]
    omega
  obtain ⟨w, ws, next⟩ := List.exists_cons_of_length_pos more
  rw [next] at behind atSignal natural
  have split := (List.take_append_drop 34 line.numbers).symm
  rw [atSignal] at split
  exact procIsThread_number split line.signal.1 line.signal.2 natural short (by omega)

/-- Field `38 - blanks` is 17, and every other number is 0. -/
def decoyNumbers (blanks count : Nat) : List Int := (List.range count).map fun i => if i + blanks = 34 then 17 else 0

theorem length_decoyNumbers (blanks count : Nat) : (decoyNumbers blanks count).length = count := by
  rw [decoyNumbers, List.length_map, List.length_range]

theorem decoyNumbers_natural (blanks count : Nat) : ∀ z ∈ decoyNumbers blanks count, 0 ≤ z := by
  intro z member
  obtain ⟨i, _, rfl⟩ := List.mem_map.mp member
  split
  · decide
  · decide

theorem decoyNumbers_getD {blanks count : Nat} (positive : 0 < blanks) : (decoyNumbers blanks count).getD 34 0 = 0 := by
  rw [decoyNumbers, List.getD_eq_getElem?_getD, List.getElem?_map]
  by_cases inside : 34 < count
  · rw [List.getElem?_range inside, Option.map_some, if_neg (by omega), Option.getD_some]
  · rw [List.getElem?_eq_none (by rw [List.length_range]; omega)]
    rfl

theorem length_decimal_small : (decimalInt 17).length = 2 ∧ (decimalInt 0).length = 1 := by decide

/-- At most one of the numbers takes two digits. -/
theorem length_printed_decoy (blanks count : Nat) :
    (printed (decoyNumbers blanks count)).length = 2 * count + if 34 < count + blanks ∧ blanks ≤ 34 then 1 else 0 := by
  induction count with
  | zero =>
    rw [if_neg (by omega)]
    rfl
  | succ count ih =>
    have next : decoyNumbers blanks (count + 1) = decoyNumbers blanks count ++ [if count + blanks = 34 then 17 else 0] := by
      simp [decoyNumbers, List.range_succ]
    obtain ⟨two, one⟩ := length_decimal_small
    rw [next, printed_append, printed_singleton, List.length_append, List.length_cons, ih]
    by_cases here : count + blanks = 34
    · rw [if_pos here, two, if_neg (by omega), if_pos (by omega)]
      omega
    · rw [if_neg here, one]
      by_cases behind : 34 < count + blanks ∧ blanks ≤ 34
      · rw [if_pos behind, if_pos (by omega)]
        omega
      · rw [if_neg behind, if_neg (by omega)]
        omega

theorem length_printed_ge (numbers : List Int) : 2 * numbers.length ≤ (printed numbers).length := by
  induction numbers with
  | nil => exact Nat.le_refl _
  | cons z numbers ih =>
    have positive := List.length_pos_of_ne_nil (decimalInt_ne_nil z)
    have parts := printed_cons z numbers []
    simp only [List.append_nil] at parts
    rw [parts]
    simp only [List.length_append, List.length_cons, List.length_nil]
    omega

theorem decoyNumbers_signal {blanks : Nat} (positive : 0 < blanks) (count : Nat) :
    0 ≤ (decoyNumbers blanks count).getD 34 0 ∧ (decoyNumbers blanks count).getD 34 0 ≤ 64 := by
  rw [decoyNumbers_getD positive]
  decide

theorem isSleeping : isUpper 83 = true ∨ isLower 83 = true := Or.inl rfl

theorem noName : ∀ c ∈ ([] : Text), c ≠ 0 := List.forall_mem_nil _

/-- A line as short as can be, of a thread that sends nothing when it ends. -/
def decoy (blanks count : Nat) (positive : 0 < blanks) (enough : 36 ≤ count) : SignalLine where
  pid := 0
  name := []
  state := 83
  numbers := decoyNumbers blanks count
  named := noName
  letter := isSleeping
  enough := by rwa [length_decoyNumbers]
  signal := decoyNumbers_signal positive count
  natural := fun z member => decoyNumbers_natural blanks count z (List.mem_of_mem_drop member)

theorem decoy_front {blanks count : Nat} (positive : 0 < blanks) (enough : 36 ≤ count) :
    (decoy blanks count positive enough).front = 48 :: ofString " () S" := by
  have zero : decimal 0 = [48] := by decide
  simp [front, decoy, zero, ofString]

/-- It fits wherever a line with a blank in the name fits. -/
theorem decoy_short {self : SignalLine} (short : self.text.length < BUFSIZ) (positive : 0 < self.name.count 32) :
    (decoy (self.name.count 32) self.numbers.length positive self.enough).text.length < BUFSIZ := by
  have blanks : self.name.count 32 ≤ self.name.length := List.count_le_length
  have pid := List.length_pos_of_ne_nil (decimal_ne_nil self.pid)
  have numbers := length_printed_ge self.numbers
  have printed := length_printed_decoy (self.name.count 32) self.numbers.length
  have whole : (48 :: ofString " () S").length = 6 := by decide
  have own : (decoy (self.name.count 32) self.numbers.length positive self.enough).numbers =
      decoyNumbers (self.name.count 32) self.numbers.length := rfl
  rw [text_eq] at short ⊢
  rw [decoy_front, own]
  simp only [front, List.length_append, List.length_cons, List.length_nil, printed] at short whole ⊢
  split
  · omega
  · omega

/-- For the thread of that line the test finds a 17, or no number at all. -/
theorem procIsThread_decoy {blanks count : Nat} (positive : 0 < blanks) (enough : 36 ≤ count)
    (short : (decoy blanks count positive enough).text.length < BUFSIZ) {offset : Int32}
    (shifted : offset.toInt.toNat = count + 3 - 38 + blanks) :
    procIsThread offset (.bytes (decoy blanks count positive enough).text) = some false := by
  have numbers : (decoy blanks count positive enough).numbers = decoyNumbers blanks count := rfl
  have length := length_decoyNumbers blanks count
  have natural := decoyNumbers_natural blanks count
  by_cases inside : blanks ≤ 34
  · have hit : 34 - blanks < (decoyNumbers blanks count).length := by omega
    have value : (decoyNumbers blanks count)[34 - blanks] = 17 := by
      simp only [decoyNumbers, List.getElem_map, List.getElem_range]
      rw [if_pos (by omega)]
    have behind : ((decoyNumbers blanks count).drop (34 - blanks + 1)).length = count + 3 - 38 + blanks := by
      rw [List.length_drop, length]
      omega
    obtain ⟨w, ws, next⟩ := List.exists_cons_of_length_pos
      (by omega : 0 < ((decoyNumbers blanks count).drop (34 - blanks + 1)).length)
    have split := (List.take_append_drop (34 - blanks) (decoyNumbers blanks count)).symm
    rw [List.drop_eq_getElem_cons hit, value, next, ← numbers] at split
    have others : ∀ z ∈ w :: ws, 0 ≤ z := fun z member => natural z (List.mem_of_mem_drop (next ▸ member))
    rw [next] at behind
    exact procIsThread_number split (by decide) (by decide) others short (by omega)
  · obtain ⟨first, others, split⟩ := List.exists_cons_of_length_pos (by omega : 0 < (decoyNumbers blanks count).length)
    obtain ⟨more, enoughBlanks⟩ : ∃ more, blanks - 34 = 1 + more := ⟨blanks - 35, by omega⟩
    have zero : first = 0 := by
      have outside : blanks ≠ 34 := by omega
      have head := congrArg (fun numbers => numbers[0]?) split
      simp only [decoyNumbers, List.getElem?_map, List.getElem?_range (by omega : 0 < count), Option.map_some,
        Nat.zero_add, if_neg outside, List.getElem?_cons_zero, Option.some.injEq] at head
      exact head.symm
    subst zero
    have count : offset.toInt.toNat = others.length + (blanks - 34) := by
      have whole := congrArg List.length split
      rw [length, List.length_cons] at whole
      omega
    have one : (decoy blanks _ positive enough).numbers = [0] ++ others := split
    have run := procIsThread_split one (by simp) (fun z member => natural z (by simp [split, member])) short count
    have start : ((decoy blanks _ positive enough).front ++ printed [0]).length - 2 = 6 := by
      rw [decoy_front]
      decide
    have shape : (decoy blanks _ positive enough).text =
        [] ++ 48 :: (ofString " () S" ++ 32 :: ([] ++ (48 :: printed others ++ [10]))) := by
      have zero : decimalInt 0 = [48] := by decide
      rw [text_eq, decoy_front, numbers, split]
      simp [printed, zero]
    have first := @skipFieldsBack_one [] (48 :: printed others ++ [10]) 48 (ofString " () S") [] 32 (by decide)
      (by decide +kernel) (by decide) (by simp)
    have six : ([] : Text).length + 1 + (ofString " () S").length + ([] : Text).length = 6 := by decide
    have isZero : skipFieldsBack (decoy blanks _ positive enough).text (blanks - 34) 6 = 0 := by
      rw [six, ← shape] at first
      rw [enoughBlanks, skipFieldsBack_add, first]
      exact skipFieldsBack_zero _ _
    rw [run, start, isZero]
    rfl

/-- Threads are told from processes exactly if the name of the process itself
has no blank, which would be counted as the end of a field. -/
theorem tellsThreads_iff {self : SignalLine} (short : self.text.length < BUFSIZ) : self.TellsThreads ↔ 32 ∉ self.name := by
  obtain ⟨offset, found, value⟩ := getProcSignalOffset_text short
  constructor
  · intro tells blank
    have positive : 0 < self.name.count 32 := List.count_pos_iff.mpr blank
    have fits := decoy_short short positive
    have same : (decoy (self.name.count 32) self.numbers.length positive self.enough).fields = self.fields := by
      rw [fields, fields]
      exact congrArg (· + 3) (length_decoyNumbers _ _)
    obtain ⟨offset', found', thread⟩ := tells _ same fits
    cases Option.some.inj (found.symm.trans found')
    have process := procIsThread_decoy positive self.enough fits value
    have silent : (decoy (self.name.count 32) self.numbers.length positive self.enough).exitSignal = 0 := decoyNumbers_getD positive
    rw [process, silent] at thread
    cases thread
  · intro plain line same fits
    rw [List.count_eq_zero.mpr plain, ← same] at value
    exact ⟨offset, found, procIsThread_line fits (by omega)⟩

end SignalLine

theorem signalNumbers (exitSignal : Int) : 36 ≤ (List.replicate 34 0 ++ exitSignal :: List.replicate 14 0).length ∧
    (List.replicate 34 0 ++ exitSignal :: List.replicate 14 0).getD 34 0 = exitSignal ∧
      ∀ z ∈ (List.replicate 34 0 ++ exitSignal :: List.replicate 14 0).drop 35, 0 ≤ z := by
  simp [List.getD_eq_getElem?_getD]

/-- The line of a process with 52 fields. -/
def signalLine (name : Text) (named : ∀ c ∈ name, c ≠ 0) (exitSignal : Int) (range : 0 ≤ exitSignal ∧ exitSignal ≤ 64) :
    SignalLine where
  pid := 7
  name
  state := 83
  numbers := List.replicate 34 0 ++ exitSignal :: List.replicate 14 0
  named
  letter := SignalLine.isSleeping
  enough := (signalNumbers exitSignal).1
  signal := by rwa [(signalNumbers exitSignal).2.1]
  natural := (signalNumbers exitSignal).2.2

theorem java_named : ∀ c ∈ ofString "java", c ≠ 0 := List.all_iff_forall_prop.mp (by decide)

theorem spaced_named : ∀ c ∈ ofString "my java", c ≠ 0 := List.all_iff_forall_prop.mp (by decide)

theorem sigchld_range : (0 : Int) ≤ 17 ∧ (17 : Int) ≤ 64 := by decide

theorem tellsThreads_java : (signalLine (ofString "java") java_named 17 sigchld_range).TellsThreads :=
  (SignalLine.tellsThreads_iff (by decide +kernel)).mpr (by decide)

/-- In `my java` the blank moves the test to field 37, and a process is taken for a thread. -/
theorem procIsThread_spaced :
    ¬ ∀ self line : SignalLine, line.fields = self.fields → self.text.length < BUFSIZ → line.text.length < BUFSIZ →
      ∃ offset, getProcSignalOffset (.bytes self.text) = some offset ∧
        (procIsThread offset (.bytes line.text) = some false ↔ line.exitSignal = 17) := by
  intro claim
  obtain ⟨offset, found, told⟩ := claim (signalLine (ofString "my java") spaced_named 17 sigchld_range)
    (signalLine (ofString "java") java_named 17 sigchld_range) (by decide) (by decide +kernel) (by decide +kernel)
  have shifted : (getProcSignalOffset (.bytes (signalLine (ofString "my java") spaced_named 17 sigchld_range).text)).bind
      (fun offset => procIsThread offset (.bytes (signalLine (ofString "java") java_named 17 sigchld_range).text)) =
        some true := by decide +kernel
  rw [found, Option.bind_some, told.mpr rfl] at shifted
  cases shifted

end Sysm
