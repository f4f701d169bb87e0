import Sysm.CpuFolding
import Sysm.CpuPairing
import Sysm.IostatSys
import Sysm.StatName
import Sysm.Lib.Groups

namespace Sysm
open CString Groups

/-- The counters of a line of `/proc/stat`. The first four are always there, and
then come up to six more. -/
structure CpuCounters where
  user : UInt64
  nice : UInt64
  sys : UInt64
  idle : UInt64
  more : List UInt64
  columns : more.length ≤ 6

/-- The eight counters that `get_cpu_metrics` adds up. -/
inductive CpuField where
  | user | nice | sys | idle | wait | hi | si | steal
deriving Repr, DecidableEq

namespace CpuCounters

variable (counters : CpuCounters)

def text : Text :=
  printedNumbers (counters.user :: counters.nice :: counters.sys :: counters.idle :: counters.more)

/-- A column that is missing counts as 0. -/
def field : CpuField → UInt64
  | .user => counters.user
  | .nice => counters.nice
  | .sys => counters.sys
  | .idle => counters.idle
  | .wait => counters.more.getD 0 0
  | .hi => counters.more.getD 1 0
  | .si => counters.more.getD 2 0
  | .steal => counters.more.getD 3 0

end CpuCounters

def SysmCpu.field (cpu : SysmCpu) : CpuField → UInt64
  | .user => cpu.user
  | .nice => cpu.nice
  | .sys => cpu.sys
  | .idle => cpu.idle
  | .wait => cpu.wait
  | .hi => cpu.hi
  | .si => cpu.si
  | .steal => cpu.steal

/-- The total is the sum of the eight counters. -/
def SysmCpu.Totalled (cpu : SysmCpu) : Prop :=
  cpu.total = cpu.user + cpu.nice + cpu.sys + cpu.idle + cpu.wait + cpu.hi + cpu.si + cpu.steal

/-- A line for a processor. -/
structure CpuRow where
  number : Nat
  counters : CpuCounters
  fits : (ofString "cpu" ++ decimal number ++ counters.text).length + 1 < BUFSIZ

def CpuRow.text (row : CpuRow) : Text := ofString "cpu" ++ decimal row.number ++ row.counters.text

/-- A text of `/proc/stat`. Behind the totals come the lines of the processors. -/
structure CpuStat where
  total : CpuCounters
  cpus : List CpuRow
  others : List UInt8
  fits : (ofString "cpu " ++ total.text).length + 1 < BUFSIZ
  noCpu : ∀ line ∈ (fgetsAll BUFSIZ others).head?, isCpuLine line = false

namespace CpuStat

variable (stat : CpuStat)

def totalText : Text := ofString "cpu " ++ stat.total.text

def bytes : List UInt8 :=
  stat.totalText ++ 10 :: (stat.cpus.flatMap (fun row => row.text ++ [10]) ++ stat.others)

/-- The counters that are listed: those of the processors, or the totals if
there are no processors. -/
def listed : List CpuCounters := if stat.cpus = [] then [stat.total] else stat.cpus.map CpuRow.counters

end CpuStat

/-- Each of the counters comes out whole when it is added to the sum of those
before it. The additions are made in double precision. -/
def AddsUp (ticks : UInt64) : Nat → List UInt64 → Prop
  | _, [] => True
  | sum, s :: counters =>
    (addTick2msec ticks (UInt64.ofNat sum) s).toNat = sum + (tick2msec ticks s).toNat ∧
      AddsUp ticks (sum + (tick2msec ticks s).toNat) counters

/-- The number of processors in an entry of the list. -/
def foldWidth (coreRollup : Bool) (lcpu : Int32) : Nat := if coreRollup then lcpu.toInt.toNat else 1

/-- `get_cpu_metrics`, for counters that are there. -/
def CpuCounters.addTo (counters : CpuCounters) (ticks : UInt64) (cpu : SysmCpu) : SysmCpu :=
  let add field := addTick2msec ticks (cpu.field field) (counters.field field)
  let behindIdle := 0 < counters.more.length
  SysmCpu.setTotal {
    user := add .user
    sys := add .sys
    nice := add .nice
    idle := add .idle
    wait := if behindIdle then add .wait else cpu.wait
    hi := if behindIdle then add .hi else cpu.hi
    si := if behindIdle then add .si else cpu.si
    steal := if 3 < counters.more.length then add .steal else cpu.steal
    total := cpu.total }

theorem strtoul_newline : strtoul 10 [10] = (0, [10]) := by decide

theorem printedNumbers_cons (number : UInt64) (numbers : List UInt64) :
    (printedNumbers (number :: numbers) ++ [10]).head? = some 32 := rfl

variable {sysm : SysmT} {ticks : UInt64} {memory : Nat → SysmCpu} {counters : CpuCounters}

/-- The columns are read where they stand. -/
theorem getCpuMetrics_columns {line : Text} (first : strtoul 10 (sysmSkipToken line) = strtoul 10 (counters.text ++ [10]))
    (cpu : SysmCpu) : getCpuMetrics ticks cpu line = counters.addTo ticks cpu := by
  obtain ⟨user, nice, sys, idle, more, columns⟩ := counters
  simp only [CpuCounters.text, strtoul_printedNumbers] at first
  simp only [getCpuMetrics, first, strtoul_printedNumbers, CpuCounters.addTo, CpuCounters.field, SysmCpu.field]
  rcases more with _ | ⟨wait, _ | ⟨hi, _ | ⟨si, _ | ⟨steal, others⟩⟩⟩⟩
  · simp [printedNumbers]
  · have last : printedNumbers [] ++ [10] = [10] := rfl
    simp only [strtoul_printedNumbers, printedNumbers_cons, last, strtoul_newline, if_true]
    simp
  · have last : printedNumbers [] ++ [10] = [10] := rfl
    simp only [strtoul_printedNumbers, printedNumbers_cons, last, strtoul_newline, if_true]
    simp
  · have last : printedNumbers [] ++ [10] = [10] := rfl
    simp only [strtoul_printedNumbers, printedNumbers_cons, last, if_true]
    simp
  · simp only [strtoul_printedNumbers, printedNumbers_cons, if_true]
    simp

theorem printedNumbers_plain (numbers : List UInt64) : ∀ c ∈ printedNumbers numbers, c ≠ 10 ∧ c ≠ 0 := by
  intro c member
  obtain ⟨number, _, inText⟩ := List.mem_flatMap.mp member
  rcases List.mem_cons.mp inText with blank | digit
  · rw [blank]
    decide
  · have plain := decimal_plain digit
    exact ⟨plain.2.1, plain.1⟩

theorem getCpuMetrics_row (row : CpuRow) (cpu : SysmCpu) :
    getCpuMetrics ticks cpu (row.text ++ [10]) = row.counters.addTo ticks cpu := by
  refine getCpuMetrics_columns (congrArg _ ?_) cpu
  have visible : ∀ c ∈ ofString "cpu" ++ decimal row.number, (!isSpace c) = true := by
    intro c member
    rcases List.mem_append.mp member with letter | digit
    · exact (List.all_iff_forall_prop.mp (by decide) : ∀ c ∈ ofString "cpu", (!isSpace c) = true) c letter
    · rw [isDigit_visible (isDigit_of_decimal digit)]
      rfl
  have start : Stops isSpace (ofString "cpu" ++ decimal row.number ++ (row.counters.text ++ [10])) := stops_cons.mpr (by decide)
  have noBlank := @dropWhile_stop isSpace [] _ (by simp) start
  rw [List.nil_append] at noBlank
  rw [CpuRow.text, List.append_assoc, sysmSkipToken, noBlank]
  exact dropWhile_stop visible (printedNumbers_stops _).2

/-- The line of the totals has two blanks before the first column. -/
theorem getCpuMetrics_total (stat : CpuStat) (cpu : SysmCpu) :
    getCpuMetrics ticks cpu (stat.totalText ++ [10]) = stat.total.addTo ticks cpu := by
  refine getCpuMetrics_columns ?_ cpu
  obtain ⟨⟨user, nice, sys, idle, more, columns⟩, cpus, others, fits, noCpu⟩ := stat
  have skipped : sysmSkipToken (ofString "cpu " ++ printedNumbers (user :: nice :: sys :: idle :: more) ++ [10]) =
      [32, 32] ++ decimal user.toNat ++ (printedNumbers (nice :: sys :: idle :: more) ++ [10]) := by
    simp [sysmSkipToken, printedNumbers, ofString, isSpace]
  have read := @strtoul_decimal (printedNumbers (nice :: sys :: idle :: more) ++ [10]) [32, 32] (by simp [isSpace]) _
    user.toNat_lt (printedNumbers_stops _).1
  rw [CpuStat.totalText, CpuCounters.text, skipped, read, strtoul_printedNumbers, UInt64.ofNat_toNat]

/-- The entry of some lines -/
def addLines (ticks : UInt64) (rows : List CpuCounters) : SysmCpu :=
  rows.foldl (fun cpu counters => counters.addTo ticks cpu) .zero

theorem addTo_totalled (counters : CpuCounters) (ticks : UInt64) (cpu : SysmCpu) :
    (counters.addTo ticks cpu).Totalled := rfl

theorem addLines_totalled (rows : List CpuCounters) : (addLines ticks rows).Totalled := by
  induction rows using List.reverseRecOn with
  | nil => rfl
  | append_singleton rows counters _ =>
    rw [addLines, List.foldl_append]
    exact addTo_totalled counters ticks _

theorem round_zero : Binary64.round 0 = 0 := by decide

theorem tick2msec_zero (ticks : UInt64) : tick2msec ticks 0 = 0 := by
  have zero : (Binary64.Dyadic.mul (.ofNat 0) (.div (.ofNat 1000) (.ofNat ticks.toNat))).trunc = 0 := by
    simp only [Binary64.Dyadic.mul, Binary64.Dyadic.ofNat, Binary64.Dyadic.trunc, round_zero, Nat.zero_mul, Nat.zero_div]
  simp only [tick2msec, UInt64.toNat_zero, zero, Nat.two_pow_pos, if_true]
  rfl

/-- The first counter of a field always comes out whole. -/
theorem addTick2msec_zero (ticks s : UInt64) : addTick2msec ticks 0 s = tick2msec ticks s := by
  simp only [addTick2msec, tick2msec, UInt64.toNat_zero, Binary64.trunc_zero_add_mul]

/-- One line adds its counters, as far as they come out whole. -/
theorem addTo_field {cpu : SysmCpu} {field : CpuField} {sum : Nat} (sofar : (cpu.field field).toNat = sum)
    (exact : (addTick2msec ticks (UInt64.ofNat sum) (counters.field field)).toNat =
      sum + (tick2msec ticks (counters.field field)).toNat) :
    ((counters.addTo ticks cpu).field field).toNat = sum + (tick2msec ticks (counters.field field)).toNat := by
  have atField : cpu.field field = UInt64.ofNat sum := by rw [← sofar, UInt64.ofNat_toNat]
  rw [← atField] at exact
  have whereColumn (isThere : Prop) [Decidable isThere] (missing : ¬ isThere → counters.field field = 0) :
      (if isThere then addTick2msec ticks (cpu.field field) (counters.field field) else cpu.field field).toNat =
        sum + (tick2msec ticks (counters.field field)).toNat := by
    by_cases column : isThere
    · rw [if_pos column, exact]
    · rw [if_neg column, missing column, tick2msec_zero, sofar]
      rfl
  have missing {n : Nat} (short : ¬ n < counters.more.length) : counters.more.getD n 0 = 0 := by
    rw [List.getD_eq_getElem?_getD, List.getElem?_eq_none (by omega)]
    rfl
  cases field with
  | user => exact exact
  | nice => exact exact
  | sys => exact exact
  | idle => exact exact
  | wait => exact whereColumn (0 < counters.more.length) fun short => missing short
  | hi => exact whereColumn (0 < counters.more.length) fun short => missing (by omega)
  | si => exact whereColumn (0 < counters.more.length) fun short => missing (by omega)
  | steal => exact whereColumn (3 < counters.more.length) fun short => missing short

theorem foldl_addTo_field {rows : List CpuCounters} {cpu : SysmCpu} {field : CpuField} {sum : Nat}
    (sofar : (cpu.field field).toNat = sum) (exact : AddsUp ticks sum (rows.map fun row => row.field field)) :
    ((rows.foldl (fun cpu counters => counters.addTo ticks cpu) cpu).field field).toNat =
      sum + (rows.map fun row => (tick2msec ticks (row.field field)).toNat).sum := by
  induction rows generalizing cpu sum with
  | nil => exact sofar
  | cons row rows ih =>
    obtain ⟨first, later⟩ := exact
    rw [List.foldl_cons, ih (addTo_field sofar first) later, List.map_cons, List.sum_cons, Nat.add_assoc]

/-- A field of an entry is the sum of its counters. -/
theorem addLines_field {rows : List CpuCounters} {field : CpuField}
    (exact : AddsUp ticks 0 (rows.map fun row => row.field field)) :
    ((addLines ticks rows).field field).toNat = (rows.map fun row => (tick2msec ticks (row.field field)).toNat).sum := by
  have zero : (SysmCpu.zero.field field).toNat = 0 := by
    cases field with
    | _ => rfl
  rw [addLines, foldl_addTo_field zero exact, Nat.zero_add]

/-- One counter comes out whole. -/
theorem addsUp_singleton (ticks s : UInt64) : AddsUp ticks 0 [s] := by
  refine ⟨?_, trivial⟩
  have zero : UInt64.ofNat 0 = 0 := rfl
  rw [zero, addTick2msec_zero, Nat.zero_add]

/-- So do all of them, if a tick is `q` milliseconds and there are less than
`2 ^ 53` milliseconds. -/
theorem addsUp_of_lt {sum q : Nat} {counters : List UInt64} (product : ticks.toNat * q = 1000)
    (small : sum + (counters.map fun s => s.toNat * q).sum < 2 ^ 53) : AddsUp ticks sum counters := by
  induction counters generalizing sum with
  | nil => trivial
  | cons s counters ih =>
    rw [List.map_cons, List.sum_cons] at small
    have positive : 0 < ticks.toNat := Nat.pos_of_ne_zero fun zero => by simp [zero] at product
    have qPositive : 0 < q := Nat.pos_of_ne_zero fun zero => by simp [zero] at product
    have factor : s.toNat ≤ s.toNat * q := Nat.le_mul_of_pos_right _ qPositive
    have converted := StatHead.tick2msec_whole product (by omega : s.toNat * q < 2 ^ 53)
    have value := @Binary64.trunc_add_mul_div sum s.toNat 1000 ticks.toNat q product positive (by omega) (by omega)
      (by omega)
    have before : (UInt64.ofNat sum).toNat = sum := by rw [UInt64.toNat_ofNat', Nat.mod_eq_of_lt (by omega)]
    refine ⟨?_, by rw [converted]; exact ih (by omega)⟩
    simp only [addTick2msec, before, value]
    rw [if_pos (by omega), converted, UInt64.toNat_ofNat', Nat.mod_eq_of_lt (by omega)]

/-- Then the sum is that of the counters. -/
theorem sum_tick2msec {q : Nat} {counters : List UInt64} (product : ticks.toNat * q = 1000)
    (small : (counters.map fun s => s.toNat * q).sum < 2 ^ 53) :
    (counters.map fun s => (tick2msec ticks s).toNat).sum = (counters.map fun s => s.toNat * q).sum := by
  refine congrArg List.sum (List.map_congr_left fun s member => StatHead.tick2msec_whole product ?_)
  have least := List.single_le_sum (fun _ _ => Nat.zero_le _) _ (List.mem_map_of_mem (f := fun s : UInt64 => s.toNat * q) member)
  exact Nat.lt_of_le_of_lt least small

section Fold

variable {coreRollup : Bool}

theorem foldWidth_pos {lcpu : Int32} (more : coreRollup = true → 1 < lcpu) : 0 < foldWidth coreRollup lcpu := by
  unfold foldWidth
  split
  · next on =>
      have above : (1 : Int) < lcpu.toInt := Int32.lt_iff_toInt_lt.mp (more on)
      omega
  · omega

/-- The test of the loop tells the first line of an entry. -/
theorem folds_iff {lcpu : Int32} (more : coreRollup = true → 1 < lcpu) (i : Nat) :
    coreRollup = true ∧ Int.tmod i lcpu.toInt ≠ 0 ↔ i % foldWidth coreRollup lcpu ≠ 0 := by
  cases coreRollup with
  | false => simp [foldWidth, Nat.mod_one]
  | true =>
    have above : (1 : Int) < lcpu.toInt := Int32.lt_iff_toInt_lt.mp (more rfl)
    obtain ⟨width, same⟩ := Int.eq_ofNat_of_zero_le (by omega : 0 ≤ lcpu.toInt)
    rw [foldWidth, if_pos rfl, same, ← Int.ofNat_tmod, Int.toNat_natCast]
    simp only [true_and, ne_eq]
    omega

/-- The entries of the lines so far -/
def entriesOf (ticks : UInt64) (width : Nat) (rows : List CpuCounters) : List SysmCpu :=
  foldGroups (fun cpu counters => counters.addTo ticks cpu) .zero width rows

/-- A line alone opens the only entry. -/
theorem entriesOf_singleton {ticks : UInt64} {width : Nat} (positive : 0 < width) (counters : CpuCounters) :
    entriesOf ticks width [counters] = [counters.addTo ticks .zero] := by
  have one : count width 1 = 1 := by
    rw [count_succ positive, Nat.zero_div]
  have first : group width 0 [counters] = [counters] := by
    rw [group, Nat.zero_mul, List.drop_zero, List.take_of_length_le]
    exact positive
  rw [entriesOf, foldGroups, List.length_singleton, one, List.range_one, List.map_singleton, first, List.foldl_cons,
    List.foldl_nil]

/-- One line opens an entry or is added to the last one. -/
theorem cpuListLine_row (more : coreRollup = true → 1 < sysm.lcpu) {cpuList : GrowList SysmCpu} (bound : cpuList.InBounds)
    {done : List CpuCounters} (items : cpuList.items = entriesOf sysm.ticks (foldWidth coreRollup sysm.lcpu) done)
    (row : CpuRow) :
    ∃ next, cpuListLine sysm coreRollup memory done.length cpuList (row.text ++ [10]) = some next ∧ next.InBounds ∧
      next.items = entriesOf sysm.ticks (foldWidth coreRollup sysm.lcpu) (done ++ [row.counters]) := by
  have positive := foldWidth_pos more
  have number : cpuList.number = count (foldWidth coreRollup sysm.lcpu) done.length := by
    rw [← GrowList.length_items bound, items, entriesOf, length_foldGroups]
  rw [cpuListLine]
  by_cases opened : done.length % foldWidth coreRollup sysm.lcpu = 0
  · rw [if_neg fun folds => (folds_iff more done.length).mp folds opened]
    obtain ⟨next, push, bound', _, items'⟩ := GrowList.push_some bound (by decide : 0 < sysmCpuMax) memory
      (getCpuMetrics sysm.ticks .zero (row.text ++ [10]))
    refine ⟨next, push, bound', ?_⟩
    rw [items', items, entriesOf, entriesOf, foldGroups_push positive opened, getCpuMetrics_row]
  · obtain ⟨last, atLast, pushed⟩ := @foldGroups_last _ _ done _ (fun cpu counters => counters.addTo sysm.ticks cpu)
      SysmCpu.zero positive opened row.counters
    have entries : 0 < cpuList.number := by
      rw [number, count_of_not_dvd positive opened]
      exact Nat.succ_pos _
    have last' : cpuList.read (cpuList.number - 1) = some last := by
      rw [← GrowList.items_getElem? (by omega), items, number]
      exact atLast
    obtain ⟨next, write, _, bound', items'⟩ := GrowList.write_items (by omega : cpuList.number - 1 < cpuList.number) bound
      (getCpuMetrics sysm.ticks last (row.text ++ [10]))
    rw [if_pos ((folds_iff more done.length).mpr opened), if_neg (by omega), last']
    refine ⟨next, write, bound', ?_⟩
    rw [items', items, getCpuMetrics_row, entriesOf, entriesOf, pushed, number]

theorem CpuRow.isCpuLine_text (row : CpuRow) : isCpuLine (row.text ++ [10]) = true := by
  rw [isCpuLine, List.isPrefixOf_iff_prefix, CpuRow.text, List.append_assoc, List.append_assoc]
  exact List.prefix_append _ _

theorem cpuListLines_rows (more : coreRollup = true → 1 < sysm.lcpu) {rest : List Text}
    (stop : ∀ line ∈ rest.head?, isCpuLine line = false) (rows : List CpuRow) {cpuList : GrowList SysmCpu}
    (bound : cpuList.InBounds) {done : List CpuCounters}
    (items : cpuList.items = entriesOf sysm.ticks (foldWidth coreRollup sysm.lcpu) done) :
    ∃ final, cpuListLines sysm coreRollup memory done.length cpuList ((rows.map fun row => row.text ++ [10]) ++ rest) =
      some final ∧ final.InBounds ∧ (rows = [] → final = cpuList) ∧
      final.items = entriesOf sysm.ticks (foldWidth coreRollup sysm.lcpu) (done ++ rows.map CpuRow.counters) := by
  induction rows generalizing cpuList done with
  | nil =>
    refine ⟨cpuList, ?_, bound, fun _ => rfl, by rw [List.map_nil, List.append_nil, items]⟩
    cases rest with
    | nil => rfl
    | cons line rest =>
      have other := stop line rfl
      simp [cpuListLines, other]
  | cons row rows ih =>
    obtain ⟨next, step, bound', items'⟩ := @cpuListLine_row sysm memory _ more _ bound _ items row
    obtain ⟨final, run, bound'', _, items''⟩ := ih bound' items'
    refine ⟨final, ?_, bound'', fun empty => absurd empty (List.cons_ne_nil _ _), ?_⟩
    · rw [List.length_append, List.length_singleton] at run
      simp only [List.map_cons, List.cons_append, cpuListLines, row.isCpuLine_text, if_true, step, Option.bind_eq_bind,
        Option.bind_some, run]
    · rw [items'', List.append_assoc, List.map_cons, List.singleton_append]

end Fold

theorem CpuRow.text_plain (row : CpuRow) : ∀ c ∈ row.text, c ≠ 10 ∧ c ≠ 0 := by
  intro c member
  rcases List.mem_append.mp member with label | counter
  · rcases List.mem_append.mp label with letter | digit
    · exact (List.all_iff_forall_prop.mp (by decide) : ∀ c ∈ ofString "cpu", c ≠ 10 ∧ c ≠ 0) c letter
    · have plain := decimal_plain digit
      exact ⟨plain.2.1, plain.1⟩
  · exact printedNumbers_plain _ c counter

theorem CpuStat.totalText_plain (stat : CpuStat) : ∀ c ∈ stat.totalText, c ≠ 10 ∧ c ≠ 0 := by
  intro c member
  rcases List.mem_append.mp member with letter | counter
  · exact (List.all_iff_forall_prop.mp (by decide) : ∀ c ∈ ofString "cpu ", c ≠ 10 ∧ c ≠ 0) c letter
  · exact printedNumbers_plain _ c counter

theorem fgetsAll_cpuRows (rows : List CpuRow) (others : List UInt8) :
    fgetsAll BUFSIZ (rows.flatMap (fun row => row.text ++ [10]) ++ others) =
      (rows.map fun row => row.text ++ [10]) ++ fgetsAll BUFSIZ others := by
  induction rows with
  | nil => rfl
  | cons row rows ih =>
    have first := @fgetsAll_line BUFSIZ row.text (rows.flatMap (fun row => row.text ++ [10]) ++ others) row.text_plain row.fits
    rw [List.flatMap_cons, List.append_assoc, List.append_assoc, List.singleton_append, first, ih, List.map_cons,
      List.cons_append]

/-- The list of a text, when `width` lines make an entry. -/
structure CpuStat.ListedIn (stat : CpuStat) (ticks : UInt64) (width : Nat) (cpuList : GrowList SysmCpu) : Prop where
  inBounds : cpuList.InBounds
  number : cpuList.number = if stat.cpus = [] then 1 else count width stat.cpus.length
  whole : ((List.range cpuList.number).flatMap fun k => group width k stat.listed) = stat.listed
  totalled : ∀ entry ∈ cpuList.items, entry.Totalled
  alone : ∀ k entry counters field, cpuList.items[k]? = some entry → group width k stat.listed = [counters] →
    entry.field field = tick2msec ticks (counters.field field)
  sums : ∀ k entry field, cpuList.items[k]? = some entry →
    AddsUp ticks 0 ((group width k stat.listed).map fun counters => counters.field field) →
    (entry.field field).toNat =
      ((group width k stat.listed).map fun counters => (tick2msec ticks (counters.field field)).toNat).sum
  exactly : ∀ k entry field q, cpuList.items[k]? = some entry → ticks.toNat * q = 1000 →
    ((group width k stat.listed).map fun counters => (counters.field field).toNat * q).sum < 2 ^ 53 →
      (entry.field field).toNat = ((group width k stat.listed).map fun counters => (counters.field field).toNat * q).sum

theorem listedIn_entriesOf {stat : CpuStat} {width : Nat} (positive : 0 < width) {cpuList : GrowList SysmCpu}
    (bound : cpuList.InBounds) (items : cpuList.items = entriesOf ticks width stat.listed) :
    stat.ListedIn ticks width cpuList := by
  have number : cpuList.number = count width stat.listed.length := by
    rw [← GrowList.length_items bound, items, entriesOf, length_foldGroups]
  have entry : ∀ k entry, cpuList.items[k]? = some entry → entry = addLines ticks (group width k stat.listed) := by
    intro k entry atEntry
    rw [items, entriesOf, foldGroups, List.getElem?_map] at atEntry
    obtain ⟨index, atIndex, same⟩ := Option.map_eq_some_iff.mp atEntry
    obtain ⟨_, sameIndex⟩ := List.getElem?_eq_some_iff.mp atIndex
    rw [List.getElem_range] at sameIndex
    rw [← same, sameIndex]
    rfl
  have sums : ∀ k entry field, cpuList.items[k]? = some entry →
      AddsUp ticks 0 ((group width k stat.listed).map fun counters => counters.field field) →
      (entry.field field).toNat =
        ((group width k stat.listed).map fun counters => (tick2msec ticks (counters.field field)).toNat).sum := by
    intro k cpu field atCpu exact
    rw [entry k cpu atCpu, addLines_field exact]
  refine ⟨bound, ?_, ?_, ?_, ?_, sums, ?_⟩
  · rw [number, CpuStat.listed]
    by_cases noCpus : stat.cpus = []
    · rw [if_pos noCpus, if_pos noCpus, List.length_singleton, count_succ positive, Nat.zero_div]
    · rw [if_neg noCpus, if_neg noCpus, List.length_map]
  · rw [number, flatMap_groups positive]
  · intro cpu member
    obtain ⟨k, atCpu⟩ := List.mem_iff_getElem?.mp member
    rw [entry k cpu atCpu]
    exact addLines_totalled _
  · intro k cpu counters field atCpu one
    have sum := sums k cpu field atCpu (by rw [one]; exact addsUp_singleton ticks _)
    rw [one, List.map_singleton, List.sum_singleton] at sum
    exact UInt64.toNat_inj.mp sum
  · intro k cpu field q atCpu product small
    have columns : ∀ f : UInt64 → Nat, ((group width k stat.listed).map fun counters => f (counters.field field)) =
        ((group width k stat.listed).map fun counters => counters.field field).map f := fun f => by
      rw [List.map_map]
      rfl
    rw [columns fun s => s.toNat * q] at small ⊢
    rw [sums k cpu field atCpu (addsUp_of_lt product (by rwa [Nat.zero_add])), columns fun s => (tick2msec ticks s).toNat,
      sum_tick2msec product small]

/-- Only a core with several processors is rolled up. -/
theorem rollup_more {sysm : SysmT} {cpuid : UInt32 → SysmCpuid} (on : (sysmCpuCoreRollup sysm cpuid).1 = true) :
    1 < (sysmCpuCoreRollup sysm cpuid).2.lcpu := by
  simp only [sysmCpuCoreRollup, Bool.and_eq_true, decide_eq_true_eq] at on
  exact on.2

/-- Each line behind the first one is in one entry, and without such lines the
first one is the only entry. -/
theorem sysmCpuListGet_listedIn (stat : CpuStat) (sysm : SysmT) (cpuid : UInt32 → SysmCpuid) (memory : Nat → SysmCpu) :
    ∃ cpuList, sysmCpuListGet sysm cpuid memory (.ok stat.bytes) = some (.ok cpuList, (sysmCpuCoreRollup sysm cpuid).2) ∧
      stat.ListedIn sysm.ticks
        (foldWidth (sysmCpuCoreRollup sysm cpuid).1 (sysmCpuCoreRollup sysm cpuid).2.lcpu) cpuList := by
  generalize rollup : sysmCpuCoreRollup sysm cpuid = decision
  obtain ⟨coreRollup, sysm'⟩ := decision
  have more : coreRollup = true → 1 < sysm'.lcpu := by
    intro on
    have decided := @rollup_more sysm cpuid
    rw [rollup] at decided
    exact decided on
  have ticks : sysm'.ticks = sysm.ticks := by
    have same := sysmCpuCoreRollup_ticks sysm cpuid
    rwa [rollup] at same
  have positive := foldWidth_pos more
  have lines : fgetsAll BUFSIZ stat.bytes = (stat.totalText ++ [10]) ::
      ((stat.cpus.map fun row => row.text ++ [10]) ++ fgetsAll BUFSIZ stat.others) := by
    rw [CpuStat.bytes, fgetsAll_line stat.totalText_plain stat.fits, fgetsAll_cpuRows]
  have start : (GrowList.create sysmCpuMax memory).items =
      entriesOf sysm'.ticks (foldWidth coreRollup sysm'.lcpu) [] := by
    rw [entriesOf, foldGroups, List.length_nil, count_zero positive]
    rfl
  obtain ⟨listed, loop, bound, untouched, items⟩ := @cpuListLines_rows sysm' memory coreRollup more _ stat.noCpu stat.cpus
    (.create sysmCpuMax memory) (Nat.zero_le _) [] start
  rw [List.length_nil] at loop
  rw [List.nil_append] at items
  simp only [sysmCpuListGet, rollup, lines, List.tail_cons, loop, Option.bind_eq_bind, Option.bind_some, Option.pure_def]
  by_cases noCpus : stat.cpus = []
  · have created := untouched noCpus
    have empty : listed.number = 0 := by rw [created, GrowList.create_number]
    have room : 0 < listed.size := by
      rw [created, GrowList.create_size]
      decide
    obtain ⟨cell, cells, split⟩ : ∃ cell cells, listed.cells = cell :: cells := List.exists_cons_of_length_pos room
    rw [if_pos empty, List.head?_cons, Option.bind_some, GrowList.write, if_pos room, Option.bind_some]
    refine ⟨_, rfl, listedIn_entriesOf positive ?_ ?_⟩
    · show 1 ≤ (listed.cells.set 0 _).length
      rw [split]
      exact Nat.succ_pos _
    · rw [CpuStat.listed, if_pos noCpus, entriesOf_singleton positive, ← ticks, ← getCpuMetrics_total]
      simp [GrowList.items, split]
  · have entries : listed.number ≠ 0 := by
      rw [← GrowList.length_items bound, items, entriesOf, length_foldGroups, List.length_map]
      intro zero
      rw [count, Nat.div_eq_zero_iff] at zero
      have rows := List.length_pos_iff.mpr noCpus
      omega
    rw [if_neg entries]
    refine ⟨listed, rfl, listedIn_entriesOf positive bound ?_⟩
    rw [items, CpuStat.listed, if_neg noCpus, ticks]

theorem noOthers : ∀ line ∈ (fgetsAll BUFSIZ []).head?, isCpuLine line = false := by
  intro line member
  cases member

/-- Only the totals -/
def totalsOnly : CpuStat where
  total := ⟨1, 2, 3, 4, [], by decide⟩
  cpus := []
  others := []
  fits := by decide
  noCpu := noOthers

/-- Two processors, of which the first one has run for more than `2 ^ 54` milliseconds. -/
def longRun : CpuStat where
  total := ⟨1801439850948201, 0, 0, 0, [], by decide⟩
  cpus := [⟨0, ⟨1801439850948200, 0, 0, 0, [], by decide⟩, by decide⟩, ⟨1, ⟨1, 0, 0, 0, [], by decide⟩, by decide⟩]
  others := []
  fits := by decide
  noCpu := noOthers

/-- With folding there is an entry when there are no lines for it, and a long
time loses two of the milliseconds that are added to it. -/
theorem sysmCpuListGet_folded_differs :
    (¬ ∀ (stat : CpuStat) sysm cpuid memory cpuList sysm', (sysmCpuCoreRollup sysm cpuid).1 = true →
      sysmCpuListGet sysm cpuid memory (.ok stat.bytes) = some (.ok cpuList, sysm') →
        cpuList.number = count sysm'.lcpu.toInt.toNat stat.cpus.length) ∧
    ¬ ∀ (stat : CpuStat) sysm cpuid memory cpuList sysm', (sysmCpuCoreRollup sysm cpuid).1 = true → stat.cpus ≠ [] →
      sysmCpuListGet sysm cpuid memory (.ok stat.bytes) = some (.ok cpuList, sysm') →
        ∀ k entry field, cpuList.items[k]? = some entry → (entry.field field).toNat =
          ((group sysm'.lcpu.toInt.toNat k stat.listed).map fun counters =>
            (tick2msec sysm.ticks (counters.field field)).toNat).sum := by
  constructor
  · intro claim
    have answer : (sysmCpuListGet openedSysm (packageOf 2) freshCpu (.ok totalsOnly.bytes)).map
        (fun reply => (reply.1.map GrowList.number, reply.2.lcpu)) = some (.ok 1, 2) := by decide +kernel
    obtain ⟨⟨result, sysm'⟩, run, same⟩ := Option.map_eq_some_iff.mp answer
    cases result with
    | error status => cases same
    | ok cpuList =>
      have number := claim totalsOnly openedSysm (packageOf 2) freshCpu cpuList sysm' (by decide +kernel) run
      have one : cpuList.number = 1 := Except.ok.inj (congrArg Prod.fst same)
      have two : sysm'.lcpu = 2 := congrArg Prod.snd same
      rw [one, two] at number
      exact absurd number (by decide)
  · intro claim
    have answer : (sysmCpuListGet openedSysm (packageOf 2) freshCpu (.ok longRun.bytes)).map
        (fun reply => (reply.1.map fun cpuList => (cpuList.items[0]?).map SysmCpu.user, reply.2.lcpu)) =
          some (.ok (some 18014398509482008), 2) := by decide +kernel
    obtain ⟨⟨result, sysm'⟩, run, same⟩ := Option.map_eq_some_iff.mp answer
    cases result with
    | error status => cases same
    | ok cpuList =>
      obtain ⟨entry, atEntry, user⟩ := Option.map_eq_some_iff.mp (Except.ok.inj (congrArg Prod.fst same))
      have sums := claim longRun openedSysm (packageOf 2) freshCpu cpuList sysm' (by decide +kernel) (by decide) run 0 entry
        .user atEntry
      have two : sysm'.lcpu = 2 := congrArg Prod.snd same
      have value : entry.field .user = 18014398509482008 := user
      rw [two, value] at sums
      exact absurd sums (by decide +kernel)

end Sysm
