import Sysm.Lib.CNumbers
import Sysm.ProcStat

namespace Sysm
open CString

/-- Numbers as the kernel prints them, each after a blank. -/
def printed (numbers : List Int) : Text := numbers.flatMap fun z => 32 :: decimalInt z

/-- The numbers of a line, up to its end. -/
def columns (numbers : List Int) : Text := numbers.flatMap (fun z => 32 :: decimalInt z) ++ [10]

theorem columns_eq (numbers : List Int) : columns numbers = printed numbers ++ [10] := rfl

theorem decimalInt_visible {z : Int} {c : UInt8} (member : c ∈ decimalInt z) : isSpace c = false := by
  rcases mem_decimalInt member with sign | digit
  · subst sign
    rfl
  · exact isDigit_visible digit

theorem decimalInt_stops (z : Int) (rest : Text) : Stops isSpace (decimalInt z ++ rest) := by
  obtain ⟨first, others, same⟩ := List.exists_cons_of_ne_nil (decimalInt_ne_nil z)
  have visible := @decimalInt_visible z first (by simp [same])
  rw [same, List.cons_append, stops_cons]
  exact visible

theorem printed_cons (z : Int) (numbers : List Int) (rest : Text) :
    printed (z :: numbers) ++ rest = [32] ++ decimalInt z ++ (printed numbers ++ rest) := by
  simp [printed]

section Printed

variable {rest : Text} (apart : Stops (fun c => !isSpace c) rest)

include apart

/-- Behind a number there is a space, or nothing at all. -/
theorem printed_apart (numbers : List Int) : Stops (fun c => !isSpace c) (printed numbers ++ rest) := by
  cases numbers with
  | nil => simpa [printed] using apart
  | cons z numbers => simp [printed, isSpace]

theorem printed_stops (numbers : List Int) : Stops (fun c => digitVal c < 10) (printed numbers ++ rest) :=
  stops_digit (printed_apart apart numbers)

theorem strtoul_printed {z : Int} (small : z.natAbs < 2 ^ 64) (numbers : List Int) :
    strtoul 10 (printed (z :: numbers) ++ rest) = (UInt64.ofInt z, printed numbers ++ rest) := by
  rw [printed_cons]
  exact strtoul_decimalInt (by simp [isSpace]) small (printed_stops apart numbers)

/-- The first number of a line may have lost its blank already. -/
theorem strtoul_skipSpace_printed {z : Int} (small : z.natAbs < 2 ^ 64) (numbers : List Int) :
    strtoul 10 (skipSpace (printed (z :: numbers) ++ rest)) = (UInt64.ofInt z, printed numbers ++ rest) := by
  have skipped : skipSpace (printed (z :: numbers) ++ rest) = [] ++ decimalInt z ++ (printed numbers ++ rest) := by
    rw [printed_cons, List.append_assoc, skipSpace, dropWhile_stop (by simp [isSpace]) (decimalInt_stops z _)]
    rfl
  rw [skipped]
  exact strtoul_decimalInt (by simp) small (printed_stops apart numbers)

theorem sysmSkipToken_printed (z : Int) (numbers : List Int) :
    sysmSkipToken (printed (z :: numbers) ++ rest) = printed numbers ++ rest := by
  have visible : ∀ c ∈ decimalInt z, (!isSpace c) = true := by
    intro c member
    rw [decimalInt_visible member, Bool.not_false]
  rw [printed_cons, List.append_assoc, sysmSkipToken, dropWhile_stop (by simp [isSpace]) (decimalInt_stops z _),
    dropWhile_stop visible (printed_apart apart numbers)]

end Printed

/-- The newline keeps the numbers apart from what follows the line. -/
theorem newline_apart : Stops (fun c => !isSpace c) [10] := by simp [isSpace]

theorem mem_printed {numbers : List Int} {c : UInt8} (member : c ∈ printed numbers) :
    c = 32 ∨ c = 45 ∨ isDigit c = true := by
  obtain ⟨z, _, inNumber⟩ := List.mem_flatMap.mp member
  rcases List.mem_cons.mp inNumber with blank | inNumber
  · exact Or.inl blank
  · exact Or.inr (mem_decimalInt inNumber)

/-- Numbers are printed without a NUL and without a parenthesis. -/
theorem printed_plain {numbers : List Int} {c : UInt8} (member : c ∈ printed numbers) : c ≠ 0 ∧ c ≠ 41 := by
  have shape := mem_printed member
  constructor
  · intro nul
    rw [nul] at shape
    exact absurd shape (by decide)
  · intro paren
    rw [paren] at shape
    exact absurd shape (by decide)

theorem columns_plain (numbers : List Int) : ∀ c ∈ columns numbers, c ≠ 0 ∧ c ≠ 41 := by
  intro c member
  rw [columns_eq, List.mem_append, List.mem_singleton] at member
  rcases member with inPrinted | newline
  · exact printed_plain inPrinted
  · rw [newline]
    decide

theorem letter_plain {c : UInt8} (letter : isUpper c = true ∨ isLower c = true) :
    c ≠ 0 ∧ c ≠ 41 ∧ isSpace c = false := by
  simp only [isUpper, isLower, isSpace, Bool.and_eq_true, decide_eq_true_eq, UInt8.le_iff_toNat_le,
    Bool.or_eq_false_iff, Bool.and_eq_false_iff, decide_eq_false_iff_not, beq_eq_false_iff_ne, ne_eq,
    ← UInt8.toNat_inj, UInt8.reduceToNat] at *
  omega

/-- A stat file: the pid, the name in parentheses, the state and what follows it. -/
def statText (pid : Nat) (name : Text) (state : UInt8) (behind : Text) : Text :=
  decimal pid ++ [32] ++ 40 :: name ++ 41 :: 32 :: state :: behind

/-- What is kept of a name. -/
def keptName (name : Text) : Text := name.take (if procNameLen ≤ name.length then procNameLen - 1 else name.length)

section Name

variable {pid : Nat} {name behind : Text} {state : UInt8}

theorem statText_no_nul (named : ∀ c ∈ name, c ≠ 0) (letter : isUpper state = true ∨ isLower state = true)
    (plain : ∀ c ∈ behind, c ≠ 0 ∧ c ≠ 41) : ∀ c ∈ statText pid name state behind, c ≠ 0 := by
  intro c member zero
  subst zero
  simp only [statText, List.mem_append, List.mem_cons, List.not_mem_nil, or_false] at member
  rcases member with ((inPid | blank) | opening | inName) | closing | blank | isState | isBehind
  · cases isDigit_of_decimal inPid
  · cases blank
  · cases opening
  · exact named 0 inName rfl
  · cases closing
  · cases blank
  · exact (letter_plain letter).1 isState.symm
  · exact (plain 0 isBehind).1 rfl

/-- The name ends at the last closing parenthesis: none follows it. -/
theorem no_paren_after_name (letter : isUpper state = true ∨ isLower state = true)
    (plain : ∀ c ∈ behind, c ≠ 0 ∧ c ≠ 41) : ∀ c ∈ 32 :: state :: behind, c ≠ 41 := by
  intro c member paren
  subst paren
  rcases List.mem_cons.mp member with blank | member
  · cases blank
  · rcases List.mem_cons.mp member with isState | isBehind
    · exact (letter_plain letter).2.1 isState.symm
    · exact (plain 41 isBehind).2 rfl

/-- Whatever the name is, the fields are taken from what follows the state. -/
theorem loadProcStat_statText (sysm : SysmT) (named : ∀ c ∈ name, c ≠ 0)
    (letter : isUpper state = true ∨ isLower state = true) (plain : ∀ c ∈ behind, c ≠ 0 ∧ c ≠ 41)
    (short : (statText pid name state behind).length < BUFSIZ) :
    sysm.loadProcStat (.bytes (statText pid name state behind)) =
      (sysm.storeStatFields (keptName name) state behind).map .ok := by
  have read : sysmProcFile2str BUFSIZ (.bytes (statText pid name state behind)) =
      some (.ok (statText pid name state behind)) := by
    simp [sysmProcFile2str, sysmFile2str, short, ofBuffer_of_no_nul (statText_no_nul named letter plain)]
  have opening : strchr 40 (statText pid name state behind) = some (40 :: name ++ 41 :: 32 :: state :: behind) := by
    rw [statText, List.append_assoc]
    refine strchr_append fun c member paren => ?_
    subst paren
    rcases List.mem_append.mp member with inPid | blank
    · cases isDigit_of_decimal inPid
    · simp at blank
  have closing : strrchr 41 (name ++ 41 :: 32 :: state :: behind) = some (41 :: 32 :: state :: behind) :=
    strrchr_append (no_paren_after_name letter plain)
  have skipped : skipSpace (32 :: state :: behind) = state :: behind := by
    have visible := (letter_plain letter).2.2
    have stop : Stops isSpace (state :: behind) := by simpa using visible
    exact dropWhile_stop (by simp [isSpace] : ∀ c ∈ [32], isSpace c = true) stop
  have length : (name ++ 41 :: 32 :: state :: behind).length - (41 :: 32 :: state :: behind).length = name.length := by
    rw [List.length_append]
    omega
  have kept : (name ++ 41 :: 32 :: state :: behind).take
      (if procNameLen ≤ name.length then procNameLen - 1 else name.length) = keptName name := by
    rw [keptName, List.take_append_of_le_length]
    split
    · omega
    · omega
  simp only [SysmT.loadProcStat, read, Option.bind_eq_bind, Option.bind_some, SysmT.parseProcStat, opening,
    List.cons_append, List.tail_cons, closing, skipped, length, kept]

end Name

/-- A line of `/proc/<pid>/stat`: the pid, the name in parentheses, the state
and the 49 numbers from field 4 to field 52. -/
structure StatLine where
  pid : Nat
  name : Text
  state : UInt8
  numbers : List Int
  named : ∀ c ∈ name, c ≠ 0
  letter : isUpper state = true ∨ isLower state = true
  length : numbers.length = 49
  small : ∀ z ∈ numbers, z.natAbs < 2 ^ 64

namespace StatLine

variable (line : StatLine)

def text : Text := decimal line.pid ++ [32] ++ 40 :: line.name ++ 41 :: 32 :: line.state :: columns line.numbers

/-- Field number `k` of the line, as `strtoul` returns it. -/
def field (k : Nat) : UInt64 := UInt64.ofInt (line.numbers.getD (k - 4) 0)

/-- The line from field number `k` on. -/
def fromField (k : Nat) : Text := columns (line.numbers.drop (k - 4))

theorem fromField_cons {k : Nat} (first : 4 ≤ k) (last : k ≤ 52) :
    ∃ z, z.natAbs < 2 ^ 64 ∧ UInt64.ofInt z = line.field k ∧
      line.fromField k = columns (z :: line.numbers.drop (k + 1 - 4)) := by
  have bound : k - 4 < line.numbers.length := by
    rw [line.length]
    omega
  have next : k - 4 + 1 = k + 1 - 4 := by omega
  refine ⟨line.numbers[k - 4], line.small _ (List.getElem_mem bound), ?_, ?_⟩
  · rw [field, List.getD_eq_getElem?_getD, List.getElem?_eq_getElem bound, Option.getD_some]
  · rw [fromField, List.drop_eq_getElem_cons bound, next]

theorem strtoul_fromField {k : Nat} (first : 4 ≤ k) (last : k ≤ 52) :
    strtoul 10 (line.fromField k) = (line.field k, line.fromField (k + 1)) := by
  obtain ⟨z, small, value, text⟩ := line.fromField_cons first last
  rw [text, columns_eq, strtoul_printed newline_apart small, value]
  rfl

theorem strtoul_skipSpace_fromField {k : Nat} (first : 4 ≤ k) (last : k ≤ 52) :
    strtoul 10 (skipSpace (line.fromField k)) = (line.field k, line.fromField (k + 1)) := by
  obtain ⟨z, small, value, text⟩ := line.fromField_cons first last
  rw [text, columns_eq, strtoul_skipSpace_printed newline_apart small, value]
  rfl

theorem sysmSkipToken_fromField {k : Nat} (first : 4 ≤ k) (last : k ≤ 52) :
    sysmSkipToken (line.fromField k) = line.fromField (k + 1) := by
  obtain ⟨z, _, _, text⟩ := line.fromField_cons first last
  rw [text, columns_eq, sysmSkipToken_printed newline_apart]
  rfl

theorem sysmSkipMultipleToken_fromField {k : Nat} (count : Nat) (first : 4 ≤ k) (last : k + count ≤ 53) :
    sysmSkipMultipleToken (line.fromField k) count = line.fromField (k + count) := by
  induction count generalizing k with
  | zero => rfl
  | succ count ih =>
    rw [sysmSkipMultipleToken, line.sysmSkipToken_fromField first (by omega), ih (by omega) (by omega)]
    congr 1
    omega

/-- The start time in milliseconds that a field holds in ticks since the boot. -/
def startTime (sysm : SysmT) (k : Nat) : UInt64 := (line.field k / sysm.ticks + sysm.bootTime) * 1000

/-- The columns that `proc_stat_read` takes its fields from. -/
theorem storeStatFields_line (sysm : SysmT) (name : Text) (state : UInt8) :
    sysm.storeStatFields name state (line.fromField 4) = if sysm.ticks = 0 then none else some {
      sysm.lastProcStat with
      name
      state
      ppid := toInt (line.field 4)
      tty := toInt (line.field 7)
      minorFaults := line.field 10
      majorFaults := line.field 12
      utime := tick2msec sysm.ticks (line.field 14)
      stime := tick2msec sysm.ticks (line.field 15)
      startTime := line.startTime sysm 18
      vsize := line.field 19
      rss := line.field 20 <<< sysm.pagesize
      processor := toInt (line.field 35) } := by
  unfold SysmT.storeStatFields
  simp (disch := omega) only [line.strtoul_skipSpace_fromField, line.strtoul_fromField, line.sysmSkipToken_fromField,
    line.sysmSkipMultipleToken_fromField, Nat.reduceAdd]
  rfl

/-- Loading a line that fits into the buffer takes every field from its column. -/
theorem loadProcStat_line (sysm : SysmT) (short : line.text.length < BUFSIZ) :
    sysm.loadProcStat (.bytes line.text) =
      (sysm.storeStatFields (keptName line.name) line.state (line.fromField 4)).map .ok :=
  loadProcStat_statText sysm line.named line.letter (columns_plain line.numbers) short

end StatLine

/-- The line of a process that has run for 50 and 60 ticks. -/
def initLine : StatLine where
  pid := 1
  name := ofString "init"
  state := 83
  numbers := [0, 1, 1, 0, -1, 4194560, 10, 0, 3, 0, 50, 60, 0, 0, 20, 0, 1, 0, 8, 1000, 20] ++ List.replicate 13 0 ++
    [17] ++ List.replicate 14 0
  named := List.all_iff_forall_prop.mp (by decide)
  letter := by decide
  length := by decide
  small := by decide

/-- The stat file of a process with as many ticks in user mode as in the kernel. -/
def busyLine (ticks : UInt32) : StatLine where
  pid := 1
  name := CString.ofString "busy"
  state := 82
  numbers := [0, 1, 1, 0, -1, 4194560, 10, 0, 3, 0, (ticks.toNat : Int), (ticks.toNat : Int), 0, 0, 20, 0, 1, 0, 8, 1000,
    20] ++ List.replicate 28 0
  named := List.all_iff_forall_prop.mp (by decide)
  letter := by decide
  length := rfl
  small := by
    intro z member
    simp only [List.cons_append, List.nil_append, List.mem_cons, List.mem_replicate] at member
    have few := ticks.toNat_lt
    omega

end Sysm
