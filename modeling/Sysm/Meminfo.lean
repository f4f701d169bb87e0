import Sysm.Lib.CNumbers
import Sysm.Memory

namespace Sysm
open CString

section Search

variable {word key tail : Text}

theorem prefix_colon_iff (plain : ∀ c ∈ word, c ≠ 58) (noColon : ∀ c ∈ key, c ≠ 58) (rest : Text) :
    word ++ [58] <+: key ++ 58 :: rest ↔ word = key := by
  induction word generalizing key with
  | nil =>
    cases key with
    | nil => simp
    | cons c key => simpa using (noColon c (by simp)).symm
  | cons w word ih =>
    cases key with
    | nil =>
      have notColon := plain w (by simp)
      simp [notColon]
    | cons c key =>
      have later := @ih key (fun d member => plain d (by simp [member])) fun d member => noColon d (by simp [member])
      rw [List.cons_append, List.cons_append, List.cons_prefix_cons, later, List.cons.injEq]

/-- A word and a colon are found in a key and its colon if the key ends in the word. -/
theorem strstr_colon (plain : ∀ c ∈ word, c ≠ 58) (noColon : ∀ c ∈ key, c ≠ 58) (rest : Text) :
    strstr (word ++ [58]) (key ++ 58 :: rest) =
      if word <:+ key then some (word ++ 58 :: rest) else strstr (word ++ [58]) rest := by
  induction key with
  | nil =>
    have here := prefix_colon_iff plain noColon rest
    rw [List.nil_append] at here ⊢
    simp only [strstr, List.isPrefixOf_iff_prefix, here, List.suffix_nil]
    by_cases empty : word = []
    · rw [if_pos empty, if_pos empty, empty, List.nil_append]
    · rw [if_neg empty, if_neg empty]
  | cons c key ih =>
    have here := prefix_colon_iff plain noColon rest
    have later := ih fun d member => noColon d (by simp [member])
    rw [List.cons_append] at here ⊢
    simp only [strstr, List.isPrefixOf_iff_prefix, here, later, List.suffix_cons_iff]
    by_cases same : word = c :: key
    · rw [if_pos same, if_pos (Or.inl same), same, List.cons_append]
    · simp only [same, if_false, false_or]

theorem not_prefix_line (plain : ∀ c ∈ word, c ≠ 10) (noColon : ∀ c ∈ tail, c ≠ 58) (rest : Text) :
    ¬ word ++ [58] <+: tail ++ 10 :: rest := by
  induction word generalizing tail with
  | nil =>
    cases tail with
    | nil => simp
    | cons c tail => simpa using (noColon c (by simp)).symm
  | cons w word ih =>
    cases tail with
    | nil => simpa using fun same => absurd same (plain w (by simp))
    | cons c tail =>
      rw [List.cons_append, List.cons_append, List.cons_prefix_cons]
      exact fun found => ih (fun d member => plain d (by simp [member])) (fun d member => noColon d (by simp [member]))
        found.2

/-- Nothing is found from behind the colon to the end of the line. -/
theorem strstr_value (plain : ∀ c ∈ word, c ≠ 10) (noColon : ∀ c ∈ tail, c ≠ 58) (rest : Text) :
    strstr (word ++ [58]) (tail ++ 10 :: rest) = strstr (word ++ [58]) rest := by
  induction tail with
  | nil =>
    have absent := not_prefix_line plain noColon rest
    rw [List.nil_append] at absent ⊢
    simp only [strstr, List.isPrefixOf_iff_prefix, if_neg absent]
  | cons c tail ih =>
    have absent := not_prefix_line plain noColon rest
    have later := ih fun d member => noColon d (by simp [member])
    rw [List.cons_append] at absent ⊢
    simp only [strstr, List.isPrefixOf_iff_prefix, if_neg absent, later]

end Search

section Octal

variable {digits : Text}

theorem le_foldl_digits (digits : Text) (value : Nat) :
    value ≤ digits.foldl (fun value c => value * 10 + digitVal c) value := by
  induction digits generalizing value with
  | nil => exact Nat.le_refl value
  | cons c digits ih =>
    have step := ih (value * 10 + digitVal c)
    rw [List.foldl_cons]
    omega

theorem foldl_octal_lt (digits : Text) {small large : Nat} (less : small < large) :
    (digits.takeWhile fun c => digitVal c < 8).foldl (fun value c => value * 8 + digitVal c) small <
      digits.foldl (fun value c => value * 10 + digitVal c) large := by
  induction digits generalizing small large with
  | nil => exact less
  | cons c digits ih =>
    by_cases octal : digitVal c < 8
    · rw [List.takeWhile_cons_of_pos (by simpa using octal), List.foldl_cons, List.foldl_cons]
      exact ih (by omega)
    · rw [List.takeWhile_cons_of_neg (by simpa using octal), List.foldl_cons, List.foldl_nil]
      have step := le_foldl_digits digits (large * 10 + digitVal c)
      omega

/-- In base 8 a number of eight or more is too small, even if a digit 8 or 9
does not end it before. -/
theorem octal_lt (large : 8 ≤ digitsVal 10 digits) :
    digitsVal 8 (digits.takeWhile fun c => digitVal c < 8) < digitsVal 10 digits := by
  unfold digitsVal at large ⊢
  induction digits with
  | nil => simp at large
  | cons c digits ih =>
    rw [List.foldl_cons, Nat.zero_mul, Nat.zero_add] at large ⊢
    by_cases octal : digitVal c < 8
    · rw [List.takeWhile_cons_of_pos (by simpa using octal), List.foldl_cons, Nat.zero_mul, Nat.zero_add]
      by_cases zero : digitVal c = 0
      · rw [zero] at large ⊢
        exact ih large
      · cases digits with
        | nil =>
          rw [List.foldl_nil] at large
          omega
        | cons d digits =>
          rw [List.foldl_cons] at large ⊢
          by_cases octal' : digitVal d < 8
          · rw [List.takeWhile_cons_of_pos (by simpa using octal'), List.foldl_cons]
            exact foldl_octal_lt digits (by omega)
          · rw [List.takeWhile_cons_of_neg (by simpa using octal'), List.foldl_nil]
            have grown := le_foldl_digits digits (digitVal c * 10 + digitVal d)
            omega
    · rw [List.takeWhile_cons_of_neg (by simpa using octal), List.foldl_nil]
      have grown := le_foldl_digits digits (digitVal c)
      omega

/-- A number below eight is the same in both bases. -/
theorem octal_eq (small : digitsVal 10 digits < 8) :
    (∀ c ∈ digits, digitVal c < 8) ∧ digitsVal 8 digits = digitsVal 10 digits := by
  unfold digitsVal at small ⊢
  induction digits with
  | nil => simp
  | cons c digits ih =>
    rw [List.foldl_cons, Nat.zero_mul, Nat.zero_add] at small
    rw [List.foldl_cons, List.foldl_cons, Nat.zero_mul, Nat.zero_add]
    cases digits with
    | nil => simpa using small
    | cons d digits =>
      have next := small
      rw [List.foldl_cons] at next
      have rest := le_foldl_digits digits (digitVal c * 10 + digitVal d)
      have zero : digitVal c = 0 := by omega
      rw [zero] at small ⊢
      obtain ⟨octal, same⟩ := ih small
      refine ⟨?_, same⟩
      intro other member
      rcases List.mem_cons.mp member with rfl | later
      · omega
      · exact octal other later

/-- The digits are read in base 8 if they start with a zero. -/
theorem strtoullAny_digits {blanks rest : Text} (blank : ∀ c ∈ blanks, isSpace c = true)
    (isDigits : ∀ c ∈ digits, isDigit c = true) (nonempty : digits ≠ []) (noHex : ∀ c ∈ rest.head?, c ≠ 120 ∧ c ≠ 88) :
    strtoullAny (blanks ++ digits ++ rest) =
      strtoul (if digits.head? = Option.some 48 then 8 else 10) (blanks ++ digits ++ rest) := by
  obtain ⟨first, others, rfl⟩ := List.exists_cons_of_ne_nil nonempty
  have digit : digitVal first < 36 := by
    have ten := digitVal_of_isDigit (isDigits first (by simp))
    omega
  have start : (readSign ((blanks ++ first :: others ++ rest).dropWhile isSpace)).2 = first :: (others ++ rest) := by
    rw [List.append_assoc, dropWhile_stop blank (by simpa using (digit_plain digit).1), List.cons_append,
      readSign_digit digit]
  have notHex : ∀ x ∈ (others ++ rest).head?, ¬ (x = 120 ∨ x = 88) := by
    intro x atHead
    cases others with
    | nil =>
      have plain := noHex x atHead
      exact not_or.mpr plain
    | cons d others =>
      cases Option.some.inj atHead
      rintro (same | same)
      · exact absurd (isDigits x (by simp)) (by rw [same]; decide)
      · exact absurd (isDigits x (by simp)) (by rw [same]; decide)
  unfold strtoullAny
  rw [start, List.head?_cons]
  by_cases zero : first = 48
  · rw [zero, if_pos rfl]
    split
    · rename_i x digit' tail same
      have atHead : (others ++ rest).head? = Option.some x := by
        rw [(List.cons.inj same).2]
        rfl
      rw [if_neg fun both => notHex x atHead both.1]
    · rfl
    · rename_i other
      exact absurd rfl (other (others ++ rest))
  · rw [if_neg (by simpa using zero)]
    split
    · rename_i same
      exact absurd (List.cons.inj same).1 zero
    · rename_i same
      exact absurd (List.cons.inj same).1 zero
    · rfl

/-- `strtoul` in base 8 stops at the first other digit. -/
theorem strtoul_octal {blanks rest : Text} (blank : ∀ c ∈ blanks, isSpace c = true) (zero : digits.head? = some 48)
    (stop : Stops (fun c => digitVal c < 8) rest) :
    ∃ val, strtoul 8 (blanks ++ digits ++ rest) = (val, (digits.dropWhile fun c => digitVal c < 8) ++ rest) ∧
      val.toNat ≤ digitsVal 8 (digits.takeWhile fun c => digitVal c < 8) := by
  have octal : ∀ c ∈ digits.takeWhile fun c => digitVal c < 8, digitVal c < 8 := by
    intro c member
    simpa using List.mem_takeWhile_imp member
  have nonempty : (digits.takeWhile fun c => digitVal c < 8) ≠ [] := by
    obtain ⟨others, rfl⟩ := List.head?_eq_some_iff.mp zero
    rw [List.takeWhile_cons_of_pos (by decide)]
    exact List.cons_ne_nil _ _
  have behind : Stops (fun c => digitVal c < 8) ((digits.dropWhile fun c => digitVal c < 8) ++ rest) := by
    cases left : digits.dropWhile fun c => digitVal c < 8 with
    | nil => exact stop
    | cons d left' =>
      have first := List.head_dropWhile_not (fun c => decide (digitVal c < 8)) (by simp [left] : digits.dropWhile _ ≠ [])
      simpa [left] using first
  have read := strtoul_signed false (by omega : 8 ≤ 36) blank octal nonempty (by omega) behind
  have whole : blanks ++ digits ++ rest = blanks ++ (digits.takeWhile fun c => digitVal c < 8) ++
      ((digits.dropWhile fun c => digitVal c < 8) ++ rest) := by
    rw [List.append_assoc, List.append_assoc, ← List.append_assoc (digits.takeWhile _),
      List.takeWhile_append_dropWhile]
  simp only [Bool.false_eq_true, if_false] at read
  refine ⟨_, by rw [whole, read], ?_⟩
  by_cases large : 2 ^ 64 ≤ digitsVal 8 (digits.takeWhile fun c => digitVal c < 8)
  · rw [if_pos large]
    exact Nat.le_trans (Nat.le_of_lt (UInt64.toNat_lt _)) large
  · rw [if_neg large, UInt64.toNat_ofNat']
    exact Nat.mod_le _ _

end Octal

/-- The unit of a number in `/proc/meminfo`: none, or a letter and what follows it. -/
inductive MeminfoUnit where
  | none
  | kilo (rest : Text)
  | mega (rest : Text)

def MeminfoUnit.text : MeminfoUnit → Text
  | .none => []
  | .kilo rest => 107 :: rest
  | .mega rest => 77 :: rest

def MeminfoUnit.scale : MeminfoUnit → Nat
  | .none => 1
  | .kilo _ => 1024
  | .mega _ => 1024 * 1024

/-- A line `Key: number [unit]` -/
structure MeminfoLine where
  key : Text
  blanks : Nat
  digits : Text
  gap : Nat
  unit : MeminfoUnit
  keyPlain : ∀ c ∈ key, c ≠ 0 ∧ c ≠ 10 ∧ c ≠ 58
  isDigits : ∀ c ∈ digits, isDigit c = true
  someDigit : digits ≠ []
  unitPlain : ∀ c ∈ unit.text, c ≠ 0 ∧ c ≠ 10 ∧ c ≠ 58

namespace MeminfoLine

variable (line : MeminfoLine)

def number : Nat := digitsVal 10 line.digits

/-- The number scaled by its unit. -/
def value : Nat := line.number * line.unit.scale

/-- What follows the number. -/
def tail : Text := List.replicate line.gap 32 ++ line.unit.text

/-- What follows the colon. -/
def behind : Text := List.replicate line.blanks 32 ++ line.digits ++ line.tail

def text : Text := line.key ++ 58 :: (line.behind ++ [10])

/-- The number has no leading zero, unless it is below eight, and its value
has 64 bits. -/
def Plain : Prop := (line.digits.head? ≠ some 48 ∨ line.number < 8) ∧ line.value < 2 ^ 64

theorem behind_noColon : ∀ c ∈ line.behind, c ≠ 58 := by
  intro c member
  simp only [behind, tail, List.mem_append] at member
  rcases member with (blank | digit) | blank | unit
  · rw [(List.mem_replicate.mp blank).2]
    decide
  · rintro rfl
    exact absurd (line.isDigits 58 digit) (by decide)
  · rw [(List.mem_replicate.mp blank).2]
    decide
  · exact (line.unitPlain c unit).2.2

/-- The first byte behind the number is a blank, the letter of the unit or the newline. -/
theorem head_tail (others : Text) : ∀ c ∈ (line.tail ++ 10 :: others).head?, c = 32 ∨ c = 107 ∨ c = 77 ∨ c = 10 := by
  intro c atHead
  unfold tail at atHead
  cases gap : line.gap with
  | zero =>
    rw [gap] at atHead
    cases unit : line.unit with
    | none =>
      rw [unit] at atHead
      cases Option.some.inj atHead
      decide
    | kilo rest =>
      rw [unit] at atHead
      cases Option.some.inj atHead
      decide
    | mega rest =>
      rw [unit] at atHead
      cases Option.some.inj atHead
      decide
  | succ gap' =>
    rw [gap, List.replicate_succ] at atHead
    cases Option.some.inj atHead
    decide

theorem noHex_tail (others : Text) : ∀ c ∈ (line.tail ++ 10 :: others).head?, c ≠ 120 ∧ c ≠ 88 := by
  intro c atHead
  rcases line.head_tail others c atHead with rfl | rfl | rfl | rfl
  all_goals decide

theorem stops_tail (base : Nat) (small : base ≤ 10) (others : Text) :
    Stops (fun c => digitVal c < base) (line.tail ++ 10 :: others) := by
  intro c atHead
  have large : 10 ≤ digitVal c := by
    rcases line.head_tail others c atHead with rfl | rfl | rfl | rfl
    all_goals decide
  rw [decide_eq_false_iff_not]
  omega

/-- The scaling of a number by the letter behind it. -/
theorem scale_tail (others : Text) (val : UInt64) :
    (match (line.tail ++ 10 :: others).dropWhile (· == 32) with
      | c :: _ =>
        if c = 107 ∨ c = 75 then val * 1024
        else if c = 77 ∨ c = 109 then val * (1024 * 1024)
        else val
      | [] => val) = val * UInt64.ofNat line.unit.scale := by
  have blank : ∀ c ∈ List.replicate line.gap (32 : UInt8), (c == 32) = true := by
    intro c member
    rw [(List.mem_replicate.mp member).2]
    rfl
  unfold tail
  rw [List.append_assoc]
  cases line.unit with
  | none =>
    rw [dropWhile_stop blank (by simp [MeminfoUnit.text])]
    exact (UInt64.mul_one val).symm
  | kilo rest =>
    rw [dropWhile_stop blank (by simp [MeminfoUnit.text])]
    rfl
  | mega rest =>
    rw [dropWhile_stop blank (by simp [MeminfoUnit.text])]
    rfl

/-- The number is read in base 10, up to its end. -/
theorem strtoullAny_behind (others : Text) (plain : line.digits.head? ≠ some 48 ∨ line.number < 8) :
    strtoullAny (line.behind ++ 10 :: others) =
      (if 2 ^ 64 ≤ line.number then -1 else UInt64.ofNat line.number, line.tail ++ 10 :: others) := by
  rw [behind, List.append_assoc, strtoullAny_digits (isSpace_blanks _) line.isDigits line.someDigit (line.noHex_tail others)]
  by_cases zero : line.digits.head? = some 48
  · have small : line.number < 8 := plain.resolve_left (not_not.mpr zero)
    obtain ⟨octal, same⟩ := octal_eq small
    have read := strtoul_signed false (by omega : 8 ≤ 36) (isSpace_blanks line.blanks) octal line.someDigit (by omega)
      (line.stops_tail 8 (by omega) others)
    rw [same] at read
    rw [if_pos zero]
    exact read
  · rw [if_neg zero]
    exact strtoul_signed false (by omega : 10 ≤ 36) (isSpace_blanks _)
      (fun c member => digitVal_of_isDigit (line.isDigits c member)) line.someDigit (by omega) (line.stops_tail 10 (Nat.le_refl 10) others)

variable {line} {buffer attr others : Text}

theorem scale_pos : 0 < line.unit.scale ∧ line.unit.scale < 2 ^ 64 := by
  cases line.unit with
  | none => exact (by decide : 0 < 1 ∧ 1 < 2 ^ 64)
  | kilo rest => exact (by decide : 0 < 1024 ∧ 1024 < 2 ^ 64)
  | mega rest => exact (by decide : 0 < 1024 * 1024 ∧ 1024 * 1024 < 2 ^ 64)

theorem sysmMeminfo_plain (found : strstr attr buffer = some (attr ++ (line.behind ++ 10 :: others)))
    (plain : line.digits.head? ≠ some 48 ∨ line.number < 8) :
    sysmMeminfo buffer attr =
      (if 2 ^ 64 ≤ line.number then -1 else UInt64.ofNat line.number) * UInt64.ofNat line.unit.scale := by
  simp only [sysmMeminfo, found, List.drop_left, line.strtoullAny_behind others plain]
  exact line.scale_tail others _

/-- A number of eight or more with a leading zero is read too small. -/
theorem sysmMeminfo_octal (found : strstr attr buffer = some (attr ++ (line.behind ++ 10 :: others)))
    (zero : line.digits.head? = some 48) (large : 8 ≤ line.number) : (sysmMeminfo buffer attr).toNat < line.value := by
  obtain ⟨val, read, bound⟩ := strtoul_octal (isSpace_blanks line.blanks) zero (line.stops_tail 8 (by omega) others)
  have less := Nat.lt_of_le_of_lt bound (octal_lt large)
  have scaled := (@scale_pos line).1
  have read' : strtoullAny (line.behind ++ 10 :: others) =
      (val, (line.digits.dropWhile fun c => digitVal c < 8) ++ (line.tail ++ 10 :: others)) := by
    rw [behind, List.append_assoc, strtoullAny_digits (isSpace_blanks _) line.isDigits line.someDigit (line.noHex_tail others), if_pos zero, read]
  cases left : line.digits.dropWhile fun c => digitVal c < 8 with
  | nil =>
    rw [left, List.nil_append] at read'
    have value : sysmMeminfo buffer attr = val * UInt64.ofNat line.unit.scale := by
      simp only [sysmMeminfo, found, List.drop_left, read']
      exact line.scale_tail others val
    rw [value, UInt64.toNat_mul, UInt64.toNat_ofNat', Nat.mod_eq_of_lt scale_pos.2]
    exact Nat.lt_of_le_of_lt (Nat.mod_le _ _) (Nat.mul_lt_mul_of_pos_right less scaled)
  | cons d left' =>
    -- the number ends at a digit 8 or 9, where no unit is found
    have digit : isDigit d = true := line.isDigits d (List.dropWhile_subset _ (by rw [left]; simp))
    have other (c : UInt8) (notDigit : isDigit c = false) : d ≠ c := by
      rintro rfl
      rw [digit] at notDigit
      cases notDigit
    have value : sysmMeminfo buffer attr = val := by
      have notBlank : (d == 32) = false := by simpa using other 32 rfl
      simp only [sysmMeminfo, found, List.drop_left, read', left, List.cons_append, List.dropWhile_cons, notBlank,
        Bool.false_eq_true, if_false, other 107 rfl, other 75 rfl, other 77 rfl, other 109 rfl, or_self]
    rw [value]
    exact Nat.lt_of_lt_of_le less (Nat.le_mul_of_pos_right _ scaled)

/-- The scaled number is returned exactly if it is plain. -/
theorem sysmMeminfo_value_iff (found : strstr attr buffer = some (attr ++ (line.behind ++ 10 :: others))) :
    (sysmMeminfo buffer attr).toNat = line.value ↔ line.Plain := by
  by_cases plain : line.digits.head? ≠ some 48 ∨ line.number < 8
  · have bound := (sysmMeminfo buffer attr).toNat_lt
    constructor
    · intro same
      exact ⟨plain, by omega⟩
    · rintro ⟨_, fits⟩
      have scaled := (@scale_pos line).1
      have small : line.number < 2 ^ 64 := Nat.lt_of_le_of_lt (Nat.le_mul_of_pos_right _ scaled) fits
      rw [sysmMeminfo_plain found plain, if_neg (by omega), UInt64.toNat_mul, UInt64.toNat_ofNat', UInt64.toNat_ofNat',
        Nat.mod_eq_of_lt small, Nat.mod_eq_of_lt scale_pos.2]
      exact Nat.mod_eq_of_lt fits
  · rw [not_or, not_not, Nat.not_lt] at plain
    have less := sysmMeminfo_octal found plain.1 plain.2
    constructor
    · intro same
      omega
    · rintro ⟨either, _⟩
      rcases either with noZero | small
      · exact absurd plain.1 noZero
      · omega

end MeminfoLine

/-- The text made of these lines. -/
def meminfoText (lines : List MeminfoLine) : Text := lines.flatMap MeminfoLine.text

/-- `ptr` points to the start of a line of the text. -/
def AtLineStart (text ptr : Text) : Prop := ∃ before, text = before ++ ptr ∧ ∀ c ∈ before.getLast?, c = 10

/-- The lookup of a key gives the scaled number of its line, and 0 without such
a line, and it takes a line by the whole of its key. -/
structure LooksUp (lines : List MeminfoLine) (word : Text) : Prop where
  value : (sysmMeminfo (meminfoText lines) (word ++ [58])).toNat =
    ((lines.find? fun line => line.key == word).map MeminfoLine.value).getD 0
  whole : ∀ ptr, strstr (word ++ [58]) (meminfoText lines) = some ptr → AtLineStart (meminfoText lines) ptr

section Lookup

variable {word : Text} {line : MeminfoLine} {before after : List MeminfoLine}

theorem strstr_meminfoLine (plain : ∀ c ∈ word, c ≠ 10 ∧ c ≠ 58) (rest : Text) :
    strstr (word ++ [58]) (line.text ++ rest) =
      if word <:+ line.key then some (word ++ [58] ++ (line.behind ++ 10 :: rest)) else strstr (word ++ [58]) rest := by
  have key := strstr_colon (fun c member => (plain c member).2) (fun c member => (line.keyPlain c member).2.2)
    (line.behind ++ 10 :: rest)
  rw [strstr_value (fun c member => (plain c member).1) line.behind_noColon] at key
  have whole : line.text ++ rest = line.key ++ 58 :: (line.behind ++ 10 :: rest) := by
    simp [MeminfoLine.text]
  have found : word ++ [58] ++ (line.behind ++ 10 :: rest) = word ++ 58 :: (line.behind ++ 10 :: rest) := by simp
  rw [whole, found, key]

/-- Lines whose keys do not end in the word are passed over. -/
theorem strstr_meminfoText (plain : ∀ c ∈ word, c ≠ 10 ∧ c ≠ 58)
    (others : ∀ line ∈ before, ¬ word <:+ line.key) (rest : Text) :
    strstr (word ++ [58]) (meminfoText before ++ rest) = strstr (word ++ [58]) rest := by
  induction before with
  | nil => rfl
  | cons line before ih =>
    have here := others line (List.mem_cons_self ..)
    have later := ih fun other member => others other (List.mem_cons_of_mem _ member)
    rw [meminfoText, List.flatMap_cons, List.append_assoc, strstr_meminfoLine plain, if_neg here]
    exact later

theorem strstr_taken (plain : ∀ c ∈ word, c ≠ 10 ∧ c ≠ 58) (others : ∀ line ∈ before, ¬ word <:+ line.key)
    (ends : word <:+ line.key) (rest : Text) : strstr (word ++ [58]) (meminfoText before ++ (line.text ++ rest)) =
      some (word ++ [58] ++ (line.behind ++ 10 :: rest)) := by
  rw [strstr_meminfoText plain others, strstr_meminfoLine plain, if_pos ends]

/-- The first line whose key ends in the word is taken. -/
theorem strstr_first (plain : ∀ c ∈ word, c ≠ 10 ∧ c ≠ 58) (others : ∀ line ∈ before, ¬ word <:+ line.key)
    (ends : word <:+ line.key) : strstr (word ++ [58]) (meminfoText (before ++ line :: after)) =
      some (word ++ [58] ++ (line.behind ++ 10 :: meminfoText after)) := by
  have parts : meminfoText (before ++ line :: after) = meminfoText before ++ (line.text ++ meminfoText after) := by
    simp [meminfoText]
  rw [parts, strstr_taken plain others ends]

theorem getLast_meminfoText (lines : List MeminfoLine) : ∀ c ∈ (meminfoText lines).getLast?, c = 10 := by
  intro c atLast
  rcases List.eq_nil_or_concat lines with rfl | ⟨before, last, rfl⟩
  · cases atLast
  · have ends : meminfoText (before.concat last) = (meminfoText before ++ last.key ++ 58 :: last.behind) ++ [10] := by
      simp [meminfoText, MeminfoLine.text]
    rw [ends, List.getLast?_concat] at atLast
    exact (Option.some.inj atLast).symm

/-- The text of a line that is taken starts where its key ends in the word. -/
theorem atLineStart_iff (front : Text) (key : line.key = front ++ word) :
    AtLineStart (meminfoText (before ++ line :: after)) (word ++ [58] ++ (line.behind ++ 10 :: meminfoText after)) ↔
      line.key = word := by
  have parts : meminfoText (before ++ line :: after) =
      (meminfoText before ++ front) ++ (word ++ [58] ++ (line.behind ++ 10 :: meminfoText after)) := by
    simp [meminfoText, MeminfoLine.text, key]
  constructor
  · rintro ⟨start, split, newline⟩
    rw [parts, List.append_left_inj] at split
    rw [← split] at newline
    rcases List.eq_nil_or_concat front with rfl | ⟨initial, last, rfl⟩
    · exact key
    · have inKey : last ∈ line.key := by simp [key]
      have atEnd := newline last (by simp)
      exact absurd atEnd (line.keyPlain last inKey).2.1
  · intro same
    have empty : front = [] := by
      have lengths := congrArg List.length (key.symm.trans same)
      rw [List.length_append] at lengths
      exact List.eq_nil_of_length_eq_zero (by omega)
    refine ⟨meminfoText before, ?_, getLast_meminfoText before⟩
    rw [parts, empty, List.append_nil]

/-- A key that no line has, not even at its end, counts as 0. -/
theorem looksUp_absent {lines : List MeminfoLine} (plain : ∀ c ∈ word, c ≠ 10 ∧ c ≠ 58)
    (others : ∀ line ∈ lines, ¬ word <:+ line.key) : LooksUp lines word := by
  have absent : strstr (word ++ [58]) (meminfoText lines) = none := by
    have skipped := strstr_meminfoText plain others []
    rw [List.append_nil] at skipped
    rw [skipped]
    simp [strstr]
  have noLine : lines.find? (fun line => line.key == word) = none := by
    refine List.find?_eq_none.mpr fun line member => ?_
    have other := others line member
    rw [beq_iff_eq]
    rintro rfl
    exact other (List.suffix_refl _)
  refine ⟨?_, ?_⟩
  · simp only [sysmMeminfo, absent, noLine]
    rfl
  · intro ptr found
    rw [absent] at found
    cases found

/-- The first line whose key ends in the word has to be the right one. -/
theorem looksUp_first_iff (plain : ∀ c ∈ word, c ≠ 10 ∧ c ≠ 58) (others : ∀ line ∈ before, ¬ word <:+ line.key)
    (ends : word <:+ line.key) : LooksUp (before ++ line :: after) word ↔ line.key = word ∧ line.Plain := by
  have found := @strstr_first word line before after plain others ends
  obtain ⟨front, key⟩ := ends
  have start := @atLineStart_iff word line before after front key.symm
  have exact (same : line.key = word) : (before ++ line :: after).find? (fun line => line.key == word) = some line := by
    refine List.find?_eq_some_iff_append.mpr ⟨beq_iff_eq.mpr same, before, after, rfl, fun other member => ?_⟩
    have different := others other member
    rw [Bool.not_eq_true', beq_eq_false_iff_ne]
    rintro rfl
    exact different (List.suffix_refl _)
  have value := MeminfoLine.sysmMeminfo_value_iff found
  constructor
  · intro looksUp
    have same := start.mp (looksUp.whole _ found)
    have number := looksUp.value
    rw [exact same] at number
    exact ⟨same, value.mp number⟩
  · intro condition
    obtain ⟨same, number⟩ := condition
    refine ⟨?_, ?_⟩
    · rw [exact same]
      exact value.mpr number
    · intro ptr atPtr
      cases Option.some.inj (found.symm.trans atPtr)
      exact start.mpr same

/-- A key is looked up rightly exactly if the first line whose key ends in it, if
there is one, has just this key and a plain number. -/
theorem looksUp_iff (lines : List MeminfoLine) (plain : ∀ c ∈ word, c ≠ 10 ∧ c ≠ 58) :
    LooksUp lines word ↔
      ∀ line, lines.find? (fun line => word.isSuffixOf line.key) = some line → line.key = word ∧ line.Plain := by
  cases first : lines.find? fun line => word.isSuffixOf line.key with
  | none =>
    have others : ∀ line ∈ lines, ¬ word <:+ line.key := by
      intro line member
      simpa using List.find?_eq_none.mp first line member
    constructor
    · intro _ line found
      cases found
    · intro _
      exact looksUp_absent plain others
  | some line =>
    obtain ⟨ends, before, after, rfl, others⟩ := List.find?_eq_some_iff_append.mp first
    rw [List.isSuffixOf_iff_suffix] at ends
    have others : ∀ line ∈ before, ¬ word <:+ line.key := by
      intro other member
      have off := others other member
      rwa [Bool.not_eq_true', ← Bool.not_eq_true, List.isSuffixOf_iff_suffix] at off
    rw [looksUp_first_iff plain others ends]
    constructor
    · intro both taken atTaken
      cases Option.some.inj atTaken
      exact both
    · intro condition
      exact condition line rfl

end Lookup

section Kernel

variable {key : Text} (plain : ∀ c ∈ key, c ≠ 0 ∧ c ≠ 10 ∧ c ≠ 58) (kilobytes : Nat)

/-- A line as the kernel prints it: the key with its colon in 16 columns, and
the number of kilobytes in 8. -/
def kernelLine : MeminfoLine where
  key := key
  blanks := (15 - key.length) + (8 - (decimal kilobytes).length)
  digits := decimal kilobytes
  gap := 1
  unit := .kilo (ofString "B")
  keyPlain := plain
  isDigits _ member := isDigit_of_decimal member
  someDigit := decimal_ne_nil kilobytes
  unitPlain := List.all_iff_forall_prop.mp (by decide)

theorem kernelLine_value : (kernelLine plain kilobytes).value = kilobytes * 1024 := by
  unfold MeminfoLine.value MeminfoLine.number kernelLine
  rw [digitsVal_decimal]
  rfl

theorem kernelLine_plain (small : kilobytes < 2 ^ 54) : (kernelLine plain kilobytes).Plain := by
  refine ⟨?_, by rw [kernelLine_value]; omega⟩
  rcases Nat.eq_zero_or_pos kilobytes with rfl | positive
  · right
    show digitsVal 10 (decimal 0) < 8
    decide
  · exact Or.inl (head_decimal positive)

end Kernel

theorem swapCachedKey_plain : ∀ c ∈ ofString "SwapCached", c ≠ 0 ∧ c ≠ 10 ∧ c ≠ 58 :=
  List.all_iff_forall_prop.mp (by decide)

theorem cachedKey_plain : ∀ c ∈ ofString "Cached", c ≠ 0 ∧ c ≠ 10 ∧ c ≠ 58 := List.all_iff_forall_prop.mp (by decide)

/-- A key of a line can be looked up. -/
theorem word_plain {word : Text} (plain : ∀ c ∈ word, c ≠ 0 ∧ c ≠ 10 ∧ c ≠ 58) : ∀ c ∈ word, c ≠ 10 ∧ c ≠ 58 :=
  fun c member => (plain c member).2

def swapCachedFirst : List MeminfoLine := [kernelLine swapCachedKey_plain 5, kernelLine cachedKey_plain 7]

theorem looksUp_swapCachedFirst : LooksUp swapCachedFirst (ofString "Cached") ↔
    ∀ line, swapCachedFirst.find? (fun line => (ofString "Cached").isSuffixOf line.key) = some line →
      line.key = ofString "Cached" ∧ line.Plain :=
  looksUp_iff swapCachedFirst (word_plain cachedKey_plain)

/-- The number of `SwapCached` is taken for that of `Cached`. -/
theorem sysmMeminfo_swapCached : ¬ ∀ (lines : List MeminfoLine) (word : Text), (∀ c ∈ word, c ≠ 10 ∧ c ≠ 58) →
    (lines.map MeminfoLine.key).Nodup → LooksUp lines word := by
  intro claim
  have looksUp := claim swapCachedFirst (ofString "Cached") (word_plain cachedKey_plain) (by decide)
  have returned : (sysmMeminfo (meminfoText swapCachedFirst) (ofString "Cached" ++ [58])).toNat = 5120 := by
    decide +kernel
  have meant : ((swapCachedFirst.find? fun line => line.key == ofString "Cached").map MeminfoLine.value).getD 0 =
      7168 := by decide +kernel
  have value := looksUp.value
  rw [returned, meant] at value
  cases value

end Sysm
