import Sysm.Lib.CNumbers
import Sysm.State

namespace Sysm
open CString

/-- `btime N` -/
def btimeLine (n : UInt64) : Text := ofString "btime " ++ decimal n.toNat

/-- A line of `/proc/stat` that is no `btime` line. It fits into the buffer
together with its newline. -/
structure OtherLine (line : Text) : Prop where
  plain : ∀ c ∈ line, c ≠ 10 ∧ c ≠ 0
  fits : line.length + 1 < BUFSIZ
  other : ¬ofString "btime" <+: line

/-- The lines of `/proc/stat`, with at most one that holds the boot time. -/
structure StatText where
  before : List Text
  btime : Option UInt64
  after : List Text
  others : ∀ line ∈ before ++ after, OtherLine line

namespace StatText

def lines (text : StatText) : List Text := text.before ++ (text.btime.map btimeLine).toList ++ text.after

/-- The content of the file. The last line need not be ended. -/
def bytes (text : StatText) (ended : Bool) : List UInt8 :=
  match text.lines with
  | [] => []
  | line :: lines => line ++ ((lines.flatMap fun line => 10 :: line) ++ if ended then [10] else [])

end StatText

theorem btimeLine_plain {n : UInt64} {c : UInt8} (member : c ∈ btimeLine n) : c ≠ 10 ∧ c ≠ 0 := by
  rcases List.mem_append.mp member with word | digit
  · have plain : ∀ c ∈ ofString "btime ", c ≠ 10 ∧ c ≠ 0 := List.all_iff_forall_prop.mp (by decide)
    exact plain c word
  · have plain := decimal_plain digit
    exact ⟨plain.2.1, plain.1⟩

theorem length_btimeLine (n : UInt64) : (btimeLine n).length + 1 < BUFSIZ := by
  have small : n.toNat < 10 ^ 20 := by
    have := n.toNat_lt
    omega
  have digits : (decimal n.toNat).length ≤ 20 := by
    rw [decimal, List.length_map]
    exact (Nat.length_toDigits_le_iff (by omega) (by omega)).mpr small
  have word : (ofString "btime ").length = 6 := rfl
  rw [btimeLine, List.length_append, word, BUFSIZ]
  omega

/-- The first line of a file that is not empty comes with its newline, if it
has one. -/
theorem fgets_firstLine {line tail : Text} (plain : ∀ c ∈ line, c ≠ 10 ∧ c ≠ 0) (fits : line.length + 1 < BUFSIZ)
    (ended : tail = [] ∨ ∃ others, tail = 10 :: others) (more : line ++ tail ≠ []) :
    ∃ newline rest, (newline = [] ∨ newline = [10]) ∧ fgets BUFSIZ (line ++ tail) = some (line ++ newline, rest) := by
  rcases ended with last | ⟨others, between⟩
  · subst last
    have taken : takeLine (BUFSIZ - 1) (line ++ []) = (line, []) := by
      rw [List.append_nil]
      exact takeLine_whole (fun c member => (plain c member).1) (by omega)
    refine ⟨[], [], Or.inl rfl, ?_⟩
    rw [fgets_of_takeLine more taken, ofBuffer_of_no_nul fun c member => (plain c member).2, List.append_nil]
  · subst between
    have taken : takeLine (BUFSIZ - 1) (line ++ 10 :: others) = (line ++ [10], others) :=
      takeLine_newline (fun c member => (plain c member).1) (by omega)
    have noNul : ∀ c ∈ line ++ [10], c ≠ 0 := by
      intro c member
      rcases List.mem_append.mp member with inside | newline
      · exact (plain c inside).2
      · rw [List.mem_singleton.mp newline]
        decide
    exact ⟨[10], others, Or.inr rfl, by rw [fgets_of_takeLine more taken, ofBuffer_of_no_nul noNul]⟩

/-- `strncmp` with the name in front does not see the newline. -/
theorem OtherLine.append_newline {line newline : Text} (line_other : OtherLine line) (ended : newline = [] ∨ newline = [10]) :
    ¬ofString "btime" <+: line ++ newline := by
  rcases ended with empty | one
  · subst empty
    rw [List.append_nil]
    exact line_other.other
  · subst one
    rw [List.prefix_concat_iff]
    rintro (whole | inside)
    · have last := congrArg List.getLast? whole
      simp [ofString] at last
    · exact line_other.other inside

/-- The number of a `btime` line behind its first token. -/
theorem strtoul_btimeLine {n : UInt64} {newline : Text} (ended : newline = [] ∨ newline = [10]) :
    (strtoul 10 (sysmSkipToken (btimeLine n ++ newline))).1 = n := by
  have stop : Stops (fun c => digitVal c < 10) newline := by
    rcases ended with empty | one
    · simp [empty]
    · simp [one, digitVal, isDigit, isUpper, isLower]
  have skipped : sysmSkipToken (btimeLine n ++ newline) = [32] ++ decimal n.toNat ++ newline := by
    simp [sysmSkipToken, btimeLine, ofString, isSpace]
  rw [skipped, strtoul_decimal (by simp [isSpace]) n.toNat_lt stop, UInt64.ofNat_toNat]

namespace StatText

variable (text : StatText) (ended : Bool)

theorem bytes_firstLine {line : Text} {lines : List Text} (order : text.lines = line :: lines) :
    ∃ tail, (tail = [] ∨ ∃ others, tail = 10 :: others) ∧ text.bytes ended = line ++ tail := by
  refine ⟨_, ?_, by rw [bytes, order]⟩
  cases lines with
  | nil =>
    cases ended with
    | false => exact Or.inl rfl
    | true => exact Or.inr ⟨[], rfl⟩
  | cons second lines =>
    right
    rw [List.flatMap_cons, List.cons_append, List.cons_append]
    exact ⟨_, rfl⟩

/-- A file whose first line is another one has no boot time for the loop. -/
theorem bootTime_other {line : Text} {lines : List Text} (order : text.lines = line :: lines) (line_other : OtherLine line) :
    sysmBootTimeGet (.ok (text.bytes ended)) = .ok 0 := by
  obtain ⟨tail, shape, bytes⟩ := text.bytes_firstLine ended order
  by_cases more : line ++ tail = []
  · rw [bytes, more]
    rfl
  · obtain ⟨newline, rest, newlineOrNot, read⟩ := fgets_firstLine line_other.plain line_other.fits shape more
    have other : (ofString "btime").isPrefixOf (line ++ newline) = false := by
      rw [Bool.eq_false_iff, ne_eq, List.isPrefixOf_iff_prefix]
      exact line_other.append_newline newlineOrNot
    simp only [sysmBootTimeGet, bytes, bind, Except.bind, read, other]
    rfl

theorem bootTime_first {n : UInt64} {lines : List Text} (order : text.lines = btimeLine n :: lines) :
    sysmBootTimeGet (.ok (text.bytes ended)) = .ok n := by
  obtain ⟨tail, shape, bytes⟩ := text.bytes_firstLine ended order
  have more : btimeLine n ++ tail ≠ [] := by simp [btimeLine, ofString]
  obtain ⟨newline, rest, newlineOrNot, read⟩ :=
    fgets_firstLine (fun c member => btimeLine_plain member) (length_btimeLine n) shape more
  have found : (ofString "btime").isPrefixOf (btimeLine n ++ newline) = true := by
    rw [List.isPrefixOf_iff_prefix]
    exact ⟨32 :: (decimal n.toNat ++ newline), by simp [btimeLine, ofString]⟩
  simp only [sysmBootTimeGet, bytes, bind, Except.bind, read, found, strtoul_btimeLine newlineOrNot]
  rfl

/-- The boot time is the one of the file where its line is the first. -/
theorem bootTime_iff :
    sysmBootTimeGet (.ok (text.bytes ended)) = .ok (text.btime.getD 0) ↔ text.before = [] ∨ text.btime.getD 0 = 0 := by
  cases first : text.before with
  | cons line others =>
    have order : text.lines = line :: (others ++ (text.btime.map btimeLine).toList ++ text.after) := by
      simp only [lines, first, List.cons_append]
    have line_other := text.others line (by simp [first])
    rw [text.bootTime_other ended order line_other]
    simp [eq_comm]
  | nil =>
    simp only [true_or, iff_true]
    cases atStart : text.btime with
    | some n =>
      have order : text.lines = btimeLine n :: text.after := by simp [lines, first, atStart]
      exact text.bootTime_first ended order
    | none =>
      cases behind : text.after with
      | nil => simp [bytes, lines, first, atStart, behind, sysmBootTimeGet, bind, Except.bind, fgets, pure, Except.pure]
      | cons line others =>
        have order : text.lines = line :: others := by simp [lines, first, atStart, behind]
        exact text.bootTime_other ended order (text.others line (by simp [behind]))

/-- The kernel writes the `cpu` line first, and then no boot time is ever kept. -/
theorem sysmOpen_bootTime {line : Text} {others : List Text} (first : text.before = line :: others) (memory : SysmT)
    (pagesize : Nat) (ticks : UInt64) :
    ∃ sysm, sysmOpen memory pagesize ticks (.ok (text.bytes ended)) = .ok sysm ∧ sysm.bootTime = 0 := by
  have order : text.lines = line :: (others ++ (text.btime.map btimeLine).toList ++ text.after) := by
    simp only [lines, first, List.cons_append]
  have boot := text.bootTime_other ended order (text.others line (by simp [first]))
  simp only [sysmOpen, boot, bind, Except.bind]
  exact ⟨_, rfl, rfl⟩

/-- A machine with one processor, up since a second in October of 2017. -/
def oneCpu : StatText where
  before := [ofString "cpu  1 2 3 4", ofString "cpu0 1 2 3 4", ofString "intr 5", ofString "ctxt 6"]
  btime := some 1507000000
  after := [ofString "processes 7"]
  others := by
    have all : ([ofString "cpu  1 2 3 4", ofString "cpu0 1 2 3 4", ofString "intr 5", ofString "ctxt 6",
        ofString "processes 7"].all fun line => (line.all fun c => c ≠ 10 ∧ c ≠ 0) && line.length + 1 < BUFSIZ &&
          !(ofString "btime").isPrefixOf line) = true := by decide +kernel
    intro line member
    have here := List.all_eq_true.mp all line member
    simp only [Bool.and_eq_true, List.all_eq_true, decide_eq_true_eq, Bool.not_eq_true'] at here
    obtain ⟨⟨plain, fits⟩, other⟩ := here
    refine ⟨plain, fits, fun isPrefix => ?_⟩
    rw [List.isPrefixOf_iff_prefix.mpr isPrefix] at other
    cases other

theorem bootTime_oneCpu : oneCpu.btime = some 1507000000 ∧ sysmBootTimeGet (.ok (oneCpu.bytes true)) = .ok 0 :=
  ⟨rfl, oneCpu.bootTime_other true rfl (oneCpu.others _ (by simp [oneCpu]))⟩

end StatText

end Sysm
