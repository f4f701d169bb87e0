import Sysm.Lib.GrowList
import Sysm.CpuRollup
import Sysm.ProcStat

namespace Sysm
open CString

/-- `SYSM_CPU_MAX` -/
def sysmCpuMax : Nat := 4

/-- `sysm_cpu_t` -/
structure SysmCpu where
  user : UInt64
  sys : UInt64
  nice : UInt64
  idle : UInt64
  wait : UInt64
  hi : UInt64
  si : UInt64
  steal : UInt64
  total : UInt64
deriving Repr, DecidableEq

/-- A record that `SYSM_ZERO` has cleared. -/
def SysmCpu.zero : SysmCpu := ⟨0, 0, 0, 0, 0, 0, 0, 0, 0⟩

/-- `counter += SYSM_TICK2MSEC(s)`, where the sum is one of doubles -/
def addTick2msec (ticks counter s : UInt64) : UInt64 :=
  let msec := Binary64.Dyadic.mul (.ofNat s.toNat) (.div (.ofNat 1000) (.ofNat ticks.toNat))
  let sum := Binary64.Dyadic.add (.ofNat counter.toNat) msec
  if sum.trunc < 2 ^ 64 then UInt64.ofNat sum.trunc else 0

def SysmCpu.setTotal (cpu : SysmCpu) : SysmCpu :=
  { cpu with total := cpu.user + cpu.nice + cpu.sys + cpu.idle + cpu.wait + cpu.hi + cpu.si + cpu.steal }

def getCpuMetrics (ticks : UInt64) (cpu : SysmCpu) (line : Text) : SysmCpu :=
  let ptr := sysmSkipToken line
  let (user, ptr) := strtoul 10 ptr
  let (nice, ptr) := strtoul 10 ptr
  let (sys, ptr) := strtoul 10 ptr
  let (idle, ptr) := strtoul 10 ptr
  let cpu := { cpu with
    user := addTick2msec ticks cpu.user user
    nice := addTick2msec ticks cpu.nice nice
    sys := addTick2msec ticks cpu.sys sys
    idle := addTick2msec ticks cpu.idle idle }
  let (cpu, ptr) := if ptr.head? = some 32 then
      let (wait, ptr) := strtoul 10 ptr
      let (hi, ptr) := strtoul 10 ptr
      let (si, ptr) := strtoul 10 ptr
      ({ cpu with
        wait := addTick2msec ticks cpu.wait wait
        hi := addTick2msec ticks cpu.hi hi
        si := addTick2msec ticks cpu.si si }, ptr)
    else (cpu, ptr)
  let cpu := if ptr.head? = some 32 then { cpu with steal := addTick2msec ticks cpu.steal (strtoul 10 ptr).1 } else cpu
  cpu.setTotal

/-- The line is one of a processor. -/
def isCpuLine (line : Text) : Bool := (ofString "cpu").isPrefixOf line

/-- The body of the loop of `sysm_cpu_list_get`. -/
def cpuListLine (sysm : SysmT) (coreRollup : Bool) (memory : Nat → SysmCpu) (i : Nat) (cpuList : GrowList SysmCpu)
    (line : Text) : Option (GrowList SysmCpu) :=
  if coreRollup ∧ Int.tmod i sysm.lcpu.toInt ≠ 0 then
    if cpuList.number = 0 then none
    else do
      let cpu ← cpuList.read (cpuList.number - 1)
      cpuList.write (cpuList.number - 1) (getCpuMetrics sysm.ticks cpu line)
  else cpuList.push sysmCpuMax memory (getCpuMetrics sysm.ticks .zero line)

/-- The loop of `sysm_cpu_list_get` over the lines behind the first one. -/
def cpuListLines (sysm : SysmT) (coreRollup : Bool) (memory : Nat → SysmCpu) :
    Nat → GrowList SysmCpu → List Text → Option (GrowList SysmCpu)
  | _, cpuList, [] => some cpuList
  | i, cpuList, line :: lines =>
    if isCpuLine line then do
      let cpuList ← cpuListLine sysm coreRollup memory i cpuList line
      cpuListLines sysm coreRollup memory (i + 1) cpuList lines
    else some cpuList

/-- `sysm_cpu_list_get`, where `stat` is what opening `/proc/stat` brings and
`memory` what is in the memory for the list. Of an empty file the buffer for
the first line is used without a line in it. -/
def sysmCpuListGet (sysm : SysmT) (cpuid : UInt32 → SysmCpuid) (memory : Nat → SysmCpu)
    (stat : Except Int (List UInt8)) : Option (Except Int (GrowList SysmCpu) × SysmT) :=
  let (coreRollup, sysm) := sysmCpuCoreRollup sysm cpuid
  match stat with
  | .error errno => some (.error errno, sysm)
  | .ok stream => do
    let lines := fgetsAll BUFSIZ stream
    let cpuList ← cpuListLines sysm coreRollup memory 0 (.create sysmCpuMax memory) lines.tail
    if cpuList.number = 0 then
      let cpuTotal ← lines.head?
      let cpuList ← cpuList.write 0 (getCpuMetrics sysm.ticks .zero cpuTotal)
      return (.ok { cpuList with number := 1 }, sysm)
    return (.ok cpuList, sysm)

/-- The processors that the file lists. -/
def statProcessors (stream : List UInt8) : Nat := ((fgetsAll BUFSIZ stream).tail.takeWhile isCpuLine).length

section Flat

variable (sysm : SysmT) (memory : Nat → SysmCpu)

theorem cpuListLine_flat {cpuList : GrowList SysmCpu} (bound : cpuList.InBounds) (i : Nat) (line : Text) :
    ∃ cpuList', cpuListLine sysm false memory i cpuList line = some cpuList' ∧
      cpuList'.number = cpuList.number + 1 ∧ cpuList'.InBounds ∧
      cpuList'.items = cpuList.items ++ [getCpuMetrics sysm.ticks .zero line] := by
  have positive : 0 < sysmCpuMax := by decide
  obtain ⟨cpuList', push, bound', number, items⟩ :=
    GrowList.push_some bound positive memory (getCpuMetrics sysm.ticks .zero line)
  refine ⟨cpuList', ?_, number, bound', items⟩
  rw [cpuListLine, if_neg (by simp), push]

/-- Without folding there is an entry for each line. -/
theorem cpuListLines_flat {cpuList : GrowList SysmCpu} (bound : cpuList.InBounds) (i : Nat) (lines : List Text) :
    ∃ cpuList', cpuListLines sysm false memory i cpuList lines = some cpuList' ∧
      cpuList'.number = cpuList.number + (lines.takeWhile isCpuLine).length ∧ cpuList'.InBounds ∧
      cpuList'.items = cpuList.items ++ (lines.takeWhile isCpuLine).map (getCpuMetrics sysm.ticks .zero) := by
  induction lines generalizing i cpuList with
  | nil => exact ⟨cpuList, rfl, by simp, bound, by simp⟩
  | cons line lines ih =>
    cases isCpu : isCpuLine line with
    | true =>
      obtain ⟨next, step, number, bound', items⟩ := cpuListLine_flat sysm memory bound i line
      obtain ⟨cpuList', run, total, bound'', items'⟩ := ih bound' (i + 1)
      refine ⟨cpuList', ?_, ?_, bound'', ?_⟩
      · simp only [cpuListLines, isCpu, if_true, step, Option.bind_eq_bind, Option.bind_some, run]
      · rw [total, number, List.takeWhile_cons_of_pos isCpu, List.length_cons]
        omega
      · rw [items', items, List.takeWhile_cons_of_pos isCpu, List.map_cons, List.append_assoc, List.singleton_append]
    | false => exact ⟨cpuList, by simp [cpuListLines, isCpu], by simp [isCpu], bound, by simp [isCpu]⟩

variable {sysm memory}

theorem sysmCpuListGet_flat {cpuid : UInt32 → SysmCpuid} (off : (sysmCpuCoreRollup sysm cpuid).1 = false)
    {stream : List UInt8} {cpuList : GrowList SysmCpu} {sysm' : SysmT}
    (run : sysmCpuListGet sysm cpuid memory (.ok stream) = some (.ok cpuList, sysm')) :
    cpuList.number = max (statProcessors stream) 1 := by
  have start : (GrowList.create sysmCpuMax memory).InBounds := Nat.zero_le _
  obtain ⟨listed, lines, number, _, _⟩ := cpuListLines_flat (sysmCpuCoreRollup sysm cpuid).2 memory start 0
    (fgetsAll BUFSIZ stream).tail
  rw [GrowList.create_number, Nat.zero_add] at number
  simp only [sysmCpuListGet, off, lines, Option.bind_eq_bind, Option.bind_some, Option.pure_def] at run
  by_cases empty : listed.number = 0
  · rw [if_pos empty] at run
    obtain ⟨cpuTotal, _, run⟩ := Option.bind_eq_some_iff.mp run
    obtain ⟨written, _, run⟩ := Option.bind_eq_some_iff.mp run
    cases run
    rw [statProcessors, ← number, empty]
    rfl
  · rw [if_neg empty] at run
    cases run
    rw [statProcessors, ← number]
    omega

/-- The samples that are listed: those of the processors, or the total if there are none. -/
theorem sysmCpuListGet_items {cpuid : UInt32 → SysmCpuid} (off : (sysmCpuCoreRollup sysm cpuid).1 = false)
    {stream : List UInt8} {total : Text} {lines : List Text} (read : fgetsAll BUFSIZ stream = total :: lines) :
    ∃ cpuList, sysmCpuListGet sysm cpuid memory (.ok stream) = some (.ok cpuList, (sysmCpuCoreRollup sysm cpuid).2) ∧
      cpuList.items =
        (if lines.takeWhile isCpuLine = [] then [total] else lines.takeWhile isCpuLine).map
          (getCpuMetrics (sysmCpuCoreRollup sysm cpuid).2.ticks .zero) := by
  have start : (GrowList.create sysmCpuMax memory).InBounds := Nat.zero_le _
  obtain ⟨listed, loop, number, bound, items⟩ := cpuListLines_flat (sysmCpuCoreRollup sysm cpuid).2 memory start 0 lines
  rw [GrowList.create_number, Nat.zero_add] at number
  have noItems : (GrowList.create sysmCpuMax memory).items = [] := List.take_zero
  rw [noItems, List.nil_append] at items
  simp only [sysmCpuListGet, off, read, List.tail_cons, loop, Option.bind_eq_bind, Option.bind_some, Option.pure_def]
  by_cases empty : lines.takeWhile isCpuLine = []
  · have created : listed = .create sysmCpuMax memory := by
      cases lines with
      | nil => exact (Option.some.inj loop).symm
      | cons line lines =>
        cases isCpu : isCpuLine line with
        | true => simp [isCpu] at empty
        | false =>
          rw [cpuListLines, isCpu] at loop
          exact (Option.some.inj loop).symm
    have unused : listed.number = 0 := by rw [created, GrowList.create_number]
    have room : 0 < listed.size := by
      rw [created, GrowList.create_size]
      decide
    rw [if_pos unused, if_pos empty, List.head?_cons, Option.bind_some, GrowList.write, if_pos room, Option.bind_some]
    refine ⟨_, rfl, ?_⟩
    have first : ∃ cell cells, listed.cells = cell :: cells := List.exists_cons_of_length_pos room
    obtain ⟨cell, cells, split⟩ := first
    simp [GrowList.items, split]
  · have used : listed.number ≠ 0 := by
      rw [number]
      exact fun zero => empty (List.length_eq_zero_iff.mp zero)
    rw [if_neg used, if_neg empty]
    exact ⟨listed, rfl, items⟩

end Flat

/-- Whatever comes of the list, the decision about the cores is left behind. -/
theorem sysmCpuListGet_sysm {sysm sysm' : SysmT} {cpuid : UInt32 → SysmCpuid} {memory : Nat → SysmCpu}
    {stat : Except Int (List UInt8)} {result : Except Int (GrowList SysmCpu)}
    (run : sysmCpuListGet sysm cpuid memory stat = some (result, sysm')) : sysm' = (sysmCpuCoreRollup sysm cpuid).2 := by
  cases stat with
  | error errno =>
    cases run
    rfl
  | ok stream =>
    obtain ⟨listed, _, run⟩ := Option.bind_eq_some_iff.mp run
    by_cases empty : listed.number = 0
    · simp only [empty, if_true] at run
      obtain ⟨cpuTotal, _, run⟩ := Option.bind_eq_some_iff.mp run
      obtain ⟨written, _, run⟩ := Option.bind_eq_some_iff.mp run
      cases run
      rfl
    · simp only [empty, if_false] at run
      cases run
      rfl

end Sysm
