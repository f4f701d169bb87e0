import Sysm.GrowFills
import Sysm.NetConnection
import Sysm.NetParsedRows

namespace Sysm
open HeapList CString

section Lists

variable {α : Type} {memory : Nat → α}

/-- The list with `size` for the number of its cells. -/
def heapList (list : GrowList α) : HeapList α := ⟨list.number, list.size, list.cells⟩

/-- The list that a call leaves. -/
def Fill.result (memory : Nat → α) (fill : Fill α) : Option (HeapList α) := (fill.start memory).run memory fill.ops

theorem heapList_create (max : Nat) (memory : Nat → α) : heapList (.create max memory) = create max memory := by
  simp [heapList, create, GrowList.create, realloc, GrowList.size]

theorem heapList_grow (max : Nat) (memory : Nat → α) (list : GrowList α) :
    (heapList list).step memory (.grow max) = some (heapList (list.growFull max memory)) := by
  have size : (heapList list).size = list.size := rfl
  have number : (heapList list).number = list.number := rfl
  rw [step, GrowList.growFull, size, number]
  by_cases full : list.size ≤ list.number
  · have cells : realloc memory list.cells (list.size + max) = (list.grow max memory).cells := by
      simp [realloc, GrowList.grow, GrowList.size]
    have more : (list.grow max memory).size = list.size + max := by simp [GrowList.grow, GrowList.size]
    have grown : heapList (list.grow max memory) = ⟨list.number, list.size + max, realloc memory list.cells (list.size + max)⟩ := by
      rw [cells, ← more]
      rfl
    rw [if_pos full, if_pos full, grown]
    rfl
  · rw [if_neg full, if_neg full]

theorem heapList_write (list : GrowList α) (index : Nat) (element : α) :
    (heapList list).write index element = (list.write index element).map heapList := by
  have size : (heapList list).data.length = list.size := rfl
  rw [HeapList.write, GrowList.write, size]
  by_cases inside : index < list.size
  · rw [if_pos inside, if_pos inside, Option.map_some, heapList]
    simp [heapList, GrowList.size]
  · rw [if_neg inside, if_neg inside, Option.map_none]

/-- `push` is the piece of the loops that grow the list before they write. -/
theorem heapList_push (max : Nat) (memory : Nat → α) (list : GrowList α) (row : α) :
    (heapList list).run memory (growStore max row) = (list.push max memory row).map heapList := by
  have number : (heapList (list.growFull max memory)).number = list.number := GrowList.growFull_number
  rw [growStore, run, heapList_grow, GrowList.push]
  simp only [Option.bind_eq_bind, Option.bind_some, run, step, number, heapList_write, GrowList.growFull_number]
  cases (list.growFull max memory).write list.number row <;> rfl

/-- An element may be counted before it is written as well. -/
theorem run_next_storeLast (memory : Nat → α) (list : HeapList α) (row : α) :
    list.run memory [.next, .storeLast row] = list.run memory [.store row, .next] := by
  simp only [run, step, Option.bind_eq_bind, Option.bind_some, Nat.succ_ne_zero, if_false, Nat.add_sub_cancel, HeapList.write]
  by_cases inside : list.number < list.data.length
  · rw [if_pos inside, if_pos inside]
    rfl
  · rw [if_neg inside, if_neg inside]
    rfl

theorem run_growElement (max : Nat) (memory : Nat → α) (list : HeapList α) (row : α) :
    list.run memory (growElement max row) = list.run memory (growStore max row) := by
  rw [growElement, growStore, run, run]
  cases list.step memory (.grow max) with
  | none => rfl
  | some grown => exact run_next_storeLast memory grown row

theorem run_store {list list' : GrowList α} {element : α} {ops : List (Op α)} (write : list.write list.number element = some list') :
    (heapList list).run memory (.store element :: ops) = (heapList list').run memory ops := by
  have number : (heapList list).number = list.number := rfl
  rw [run, step, number, heapList_write, write]
  rfl

/-- What a call leaves is what a fill leaves, with the rows that are made of what
the call is given: it returns unless a row cannot be made. -/
structure FillsAs {σ : Type} (shows : σ → HeapList α → Prop) (memory : Nat → α) (call : Option σ) (fill : Option (Fill α)) :
    Prop where
  returns : call.isSome = fill.isSome
  shown : ∀ state ∈ call, ∀ f ∈ fill, ∃ list, f.result memory = some list ∧ shows state list

/-- The list is the one on the heap. -/
def IsHeapList (state : GrowList α) (list : HeapList α) : Prop := heapList state = list

/-- Every fill goes through. -/
theorem result_isSome (memory : Nat → α) (fill : Fill α) : (fill.result memory).isSome = true := by
  obtain ⟨list, run, _⟩ := (fill_sound memory fill).final
  rw [Fill.result, run]
  rfl

theorem fillsAs_of_eq {call : Option (GrowList α)} {fill : Option (Fill α)}
    (same : call.map heapList = fill.bind (Fill.result memory)) : FillsAs IsHeapList memory call fill := by
  cases fill with
  | none =>
    have fault : call = none := Option.map_eq_none_iff.mp same
    rw [fault]
    exact ⟨rfl, fun state member => absurd member (Option.not_mem_none state)⟩
  | some f =>
    obtain ⟨list, result⟩ := Option.isSome_iff_exists.mp (result_isSome memory f)
    rw [Option.bind_some, result] at same
    obtain ⟨state, here, shown⟩ := Option.map_eq_some_iff.mp same
    rw [here]
    refine ⟨rfl, fun other atOther g atFill => ?_⟩
    cases Option.mem_some_iff.mp atOther
    cases Option.mem_some_iff.mp atFill
    exact ⟨list, result, shown⟩

variable {ρ R : Type} {round : GrowList α → ρ → Option (GrowList α)} {row : ρ → Option R} {piece : R → List (Op α)}

/-- A loop whose rounds make the piece of their row makes the pieces of all rows. -/
theorem foldlM_pieces
    (each : ∀ list input, (round list input).map heapList = (row input).bind fun r => (heapList list).run memory (piece r))
    (inputs : List ρ) (list : GrowList α) : (inputs.foldlM round list).map heapList =
      (inputs.mapM row).bind fun rows => (heapList list).run memory (rows.flatMap piece) := by
  induction inputs generalizing list with
  | nil => rfl
  | cons input inputs ih =>
    have first := each list input
    simp only [List.foldlM_cons, List.mapM_cons, Option.bind_eq_bind, Option.pure_def]
    cases made : row input with
    | none =>
      rw [made, Option.bind_none] at first
      rw [Option.map_eq_none_iff.mp first]
      rfl
    | some r =>
      rw [made, Option.bind_some] at first
      simp only [Option.bind_some]
      cases next : round list input with
      | none =>
        rw [next, Option.map_none] at first
        cases inputs.mapM row with
        | none => rfl
        | some rows => simp only [Option.bind_none, Option.map_none, Option.bind_some, List.flatMap_cons, run_append, ← first]
      | some list' =>
        rw [next, Option.map_some] at first
        rw [Option.bind_some, ih list']
        cases inputs.mapM row with
        | none => rfl
        | some rows => simp only [Option.bind_some, List.flatMap_cons, run_append, ← first]

end Lists

section Process

variable (sysm : SysmT) (stat : Text → FileRead)

/-- The pid of a name, unless the name is skipped. -/
def procListRow (name : Text) : Option (Option Int32) :=
  if !name.head?.any isDigit then some none
  else (sysm.takenForThread stat name).map fun thread => if thread then none else some (toInt (strtoul 10 name).1)

/-- The rows of `sysm_os_proc_list_get`, one for each name in the directory. -/
def osProcListRows (proc : ProcFiles) : Option (List (Option Int32)) :=
  match proc.names with
  | .error _ => some []
  | .ok names => do
    let sysm ← if !sysm.hasNptl && sysm.procSignalOffset == -1 then
        (getProcSignalOffset proc.self).map fun offset => { sysm with procSignalOffset := offset }
      else pure sysm
    names.mapM (procListRow sysm proc.stat)

/-- The list of the handle, which is emptied. -/
def keptPids : Option { list : HeapList Int32 // list.Sound } :=
  sysm.pids.map fun pids => ⟨heapList { pids with number := 0 }, Nat.zero_le _, rfl⟩

/-- The rows of `sysm_proc_list_get`. -/
def procListFill (withList : Bool) (proc : ProcFiles) : Option (Fill Int32) :=
  (osProcListRows sysm proc).map (.process (if withList then none else keptPids sysm))

variable {sysm stat} {memory : Nat → Int32} {procList : GrowList Int32}

theorem procListEntries_eq (names : List Text) :
    procListEntries sysm stat memory procList names = names.foldlM (procListEntry sysm stat memory) procList := by
  induction names generalizing procList with
  | nil => rfl
  | cons name names ih =>
    rw [procListEntries, List.foldlM_cons]
    congr 1
    funext next
    exact ih

/-- A name is skipped, or its pid is a row. -/
theorem procListEntry_row (procList : GrowList Int32) (name : Text) : (procListEntry sysm stat memory procList name).map heapList =
    (procListRow sysm stat name).bind fun row => (heapList procList).run memory (unlessSkipped (growStore sysmProcListMax) row) := by
  rw [procListEntry, procListRow]
  by_cases skipped : (!name.head?.any isDigit) = true
  · rw [if_pos skipped, if_pos skipped]
    rfl
  · rw [if_neg skipped, if_neg skipped]
    cases taken : sysm.takenForThread stat name with
    | none => rfl
    | some thread =>
      cases thread with
      | true => rfl
      | false => exact (heapList_push ..).symm

theorem sysmOsProcListGet_rows (sysm : SysmT) (proc : ProcFiles) (memory : Nat → Int32) (procList : GrowList Int32) :
    (sysmOsProcListGet sysm proc memory procList).map (fun result => heapList result.1.2) = (osProcListRows sysm proc).bind
      fun rows => (heapList procList).run memory (rows.flatMap (unlessSkipped (growStore sysmProcListMax))) := by
  rw [sysmOsProcListGet, osProcListRows]
  cases proc.names with
  | error errno => rfl
  | ok names =>
    have entries (opened : SysmT) := foldlM_pieces (@procListEntry_row opened proc.stat memory) names procList
    cases !sysm.hasNptl && sysm.procSignalOffset == -1 with
    | true =>
      simp only [if_true, procListEntries_eq, Option.bind_eq_bind, Option.pure_def, Option.bind_map]
      cases getProcSignalOffset proc.self with
      | none => rfl
      | some offset =>
        refine Eq.trans ?_ (entries _)
        simp only [Option.bind_some, Function.comp_apply]
        cases names.foldlM (procListEntry _ proc.stat memory) procList <;> rfl
    | false =>
      simp only [Bool.false_eq_true, if_false, procListEntries_eq, Option.bind_eq_bind, Option.pure_def, Option.bind_some]
      rw [← entries]
      cases names.foldlM (procListEntry sysm proc.stat memory) procList <;> rfl

theorem sysmProcListGet_fills (sysm : SysmT) (withList : Bool) (proc : ProcFiles) (memory : Nat → Int32) :
    FillsAs IsHeapList memory ((sysmProcListGet sysm withList proc memory).map fun result => result.1.2)
      (procListFill sysm withList proc) := by
  apply fillsAs_of_eq
  rw [sysmProcListGet, procListFill, Option.map_map, Option.bind_map]
  cases withList with
  | true =>
    rw [if_pos rfl, if_pos rfl]
    have rows := sysmOsProcListGet_rows sysm proc memory (.create sysmProcListMax memory)
    rw [heapList_create] at rows
    exact rows
  | false =>
    rw [if_neg Bool.false_ne_true, if_neg Bool.false_ne_true, keptPids]
    cases sysm.pids with
    | none =>
      have rows := sysmOsProcListGet_rows sysm proc memory (.create sysmProcListMax memory)
      rw [heapList_create] at rows
      refine Eq.trans ?_ rows
      dsimp only
      cases sysmOsProcListGet sysm proc memory (.create sysmProcListMax memory) <;> rfl
    | some pids =>
      refine Eq.trans ?_ (sysmOsProcListGet_rows sysm proc memory { pids with number := 0 })
      dsimp only
      cases sysmOsProcListGet sysm proc memory { pids with number := 0 } <;> rfl

end Process

section Arguments

variable {memory : Nat → Text} {procArgs : GrowList Text}

/-- The arguments that the loop of `sysm_os_proc_args_get` comes to. -/
def argRows : Nat → Int → List UInt8 → Option (List Text)
  | 0, total, _ => if total ≤ 0 then some [] else none
  | rounds + 1, total, ptr =>
    if total ≤ 0 then some []
    else if 0 ∈ ptr then do
      let arg := ofBuffer ptr
      let alen := arg.length + 1
      let total := total - alen
      let args ← argRows rounds total (if 0 < total then ptr.drop alen else ptr)
      return arg :: args
    else none

/-- The rows of `sysm_proc_args_get`. -/
def procArgsFill (reads : List (List UInt8)) : Option (Fill Text) := do
  let buf ← readArgs [] reads
  if buf = [] then return .argument []
  else
    let args ← argRows buf.length buf.length (buf ++ [0])
    return .argument args

theorem splitArgs_rows (rounds : Nat) (total : Int) (ptr : List UInt8) (procArgs : GrowList Text) :
    (splitArgs memory rounds total ptr procArgs).map heapList = (argRows rounds total ptr).bind
      fun args => (heapList procArgs).run memory (args.flatMap (growStore sysmProcArgsMax)) := by
  induction rounds generalizing total ptr procArgs with
  | zero =>
    rw [splitArgs, argRows]
    by_cases ended : total ≤ 0
    · rw [if_pos ended, if_pos ended]
      rfl
    · rw [if_neg ended, if_neg ended]
      rfl
  | succ rounds ih =>
    rw [splitArgs, argRows]
    by_cases ended : total ≤ 0
    · rw [if_pos ended, if_pos ended]
      rfl
    · rw [if_neg ended, if_neg ended]
      by_cases terminated : 0 ∈ ptr
      · rw [if_pos terminated, if_pos terminated]
        have first := heapList_push sysmProcArgsMax memory procArgs (ofBuffer ptr)
        cases push : procArgs.push sysmProcArgsMax memory (ofBuffer ptr) with
        | none =>
          rw [push, Option.map_none] at first
          simp only [push, Option.bind_eq_bind, Option.bind_none, Option.map_none, Option.pure_def, Option.bind_assoc,
            Option.bind_some, List.flatMap_cons, run_append, first]
          simp
        | some next =>
          rw [push, Option.map_some] at first
          simp only [push, Option.bind_eq_bind, Option.bind_some, ih, Option.pure_def, Option.bind_assoc,
            List.flatMap_cons, run_append, first]
      · rw [if_neg terminated, if_neg terminated]
        rfl

theorem sysmProcArgsGet_fills (memory : Nat → Text) (reads : List (List UInt8)) :
    FillsAs IsHeapList memory ((sysmProcArgsGet memory (.ok reads)).map Prod.snd) (procArgsFill reads) := by
  apply fillsAs_of_eq
  rw [sysmProcArgsGet, sysmOsProcArgsGet, procArgsFill]
  cases readArgs [] reads with
  | none => rfl
  | some buf =>
    by_cases empty : buf = []
    · simp only [Option.bind_eq_bind, Option.bind_some, if_pos empty, Option.pure_def, ne_eq, not_true_eq_false, if_false,
        Option.map_some, Fill.result, Fill.start, Fill.ops, List.flatMap_nil, run]
      exact congrArg some (heapList_create sysmProcArgsMax memory)
    · have rows := @splitArgs_rows memory buf.length buf.length (buf ++ [0]) (.create sysmProcArgsMax memory)
      rw [heapList_create] at rows
      simp only [Option.bind_eq_bind, Option.bind_some, if_neg empty, Option.pure_def, Option.bind_assoc, ne_eq, not_true_eq_false,
        if_false]
      refine Eq.trans ?_ rows
      cases splitArgs memory buf.length buf.length (buf ++ [0]) (.create sysmProcArgsMax memory) <;> rfl

end Arguments

section Processors

variable {sysm : SysmT} {coreRollup : Bool} {memory : Nat → SysmCpu} {cpuList : GrowList SysmCpu}

/-- What the lines of the processors are added up to: a folded one is added to the
one before. -/
def cpuListRows (sysm : SysmT) (coreRollup : Bool) : Nat → SysmCpu → List Text → List SysmCpu
  | _, _, [] => []
  | i, cpu, line :: lines =>
    if isCpuLine line then
      let cpu := getCpuMetrics sysm.ticks (if folds coreRollup sysm.lcpu i then cpu else .zero) line
      cpu :: cpuListRows sysm coreRollup (i + 1) cpu lines
    else []

/-- The rows of `sysm_cpu_list_get`. -/
def cpuListFill (sysm : SysmT) (cpuid : UInt32 → SysmCpuid) (stat : Except Int (List UInt8)) : Option (Fill SysmCpu) :=
  let (coreRollup, sysm) := sysmCpuCoreRollup sysm cpuid
  match stat with
  | .error _ => none
  | .ok stream =>
    let lines := fgetsAll BUFSIZ stream
    let rows := cpuListRows sysm coreRollup 0 .zero lines.tail
    if rows = [] then lines.head?.map fun cpuTotal => .cpu coreRollup sysm.lcpu [] (getCpuMetrics sysm.ticks .zero cpuTotal)
    else some (.cpu coreRollup sysm.lcpu rows .zero)

theorem folds_eq_true {coreRollup : Bool} {lcpu : Int32} {i : Nat} :
    folds coreRollup lcpu i = true ↔ coreRollup = true ∧ Int.tmod i lcpu.toInt ≠ 0 := by
  simp [folds]

/-- An element that is pushed is the last one. -/
theorem push_last {α : Type} {max : Nat} {memory : Nat → α} {list list' : GrowList α} {row : α}
    (push : list.push max memory row = some list') : list'.number = list.number + 1 ∧ list'.read list.number = some row := by
  obtain ⟨written, write, same⟩ := Option.bind_eq_some_iff.mp push
  cases same
  have number := GrowList.write_number write
  rw [GrowList.growFull_number] at number
  refine ⟨congrArg (· + 1) number, ?_⟩
  show written.read list.number = some row
  rw [GrowList.read_write write, if_pos GrowList.growFull_number.symm]

/-- A line is a row, which is the last element then. -/
theorem cpuListLine_piece {i : Nat} {cpu : SysmCpu} (line : Text)
    (last : folds coreRollup sysm.lcpu i = true → cpuList.number ≠ 0 ∧ cpuList.read (cpuList.number - 1) = some cpu) :
    ∃ row, row = getCpuMetrics sysm.ticks (if folds coreRollup sysm.lcpu i then cpu else .zero) line ∧
      (cpuListLine sysm coreRollup memory i cpuList line).map heapList = (heapList cpuList).run memory
        (if folds coreRollup sysm.lcpu i then [.storeLast row] else growElement sysmCpuMax row) ∧
      ∀ next ∈ cpuListLine sysm coreRollup memory i cpuList line, next.number ≠ 0 ∧ next.read (next.number - 1) = some row := by
  refine ⟨_, rfl, ?_⟩
  rw [cpuListLine]
  by_cases fold : folds coreRollup sysm.lcpu i = true
  · obtain ⟨used, atLast⟩ := last fold
    have number : (heapList cpuList).number = cpuList.number := rfl
    rw [if_pos (folds_eq_true.mp fold), if_neg used, atLast, if_pos fold, if_pos fold]
    simp only [Option.bind_eq_bind, Option.bind_some]
    constructor
    · rw [HeapList.run, step, number, if_neg used, heapList_write]
      cases cpuList.write (cpuList.number - 1) (getCpuMetrics sysm.ticks cpu line) <;> rfl
    · intro next write
      rw [GrowList.write_number write, GrowList.read_write write, if_pos rfl]
      exact ⟨used, rfl⟩
  · rw [if_neg (mt folds_eq_true.mpr fold), if_neg fold, if_neg fold]
    constructor
    · rw [run_growElement, heapList_push]
    · intro next push
      obtain ⟨number, atLast⟩ := push_last push
      rw [number]
      exact ⟨Nat.succ_ne_zero _, atLast⟩

/-- The loop makes the pieces of the rows. The first processor is not folded, and
behind it there is a last element. -/
theorem cpuListLines_pieces {i : Nat} {cpu : SysmCpu} (lines : List Text)
    (last : i = 0 ∨ cpuList.number ≠ 0 ∧ cpuList.read (cpuList.number - 1) = some cpu) :
    (cpuListLines sysm coreRollup memory i cpuList lines).map heapList =
      (heapList cpuList).run memory (cpuRows coreRollup sysm.lcpu i (cpuListRows sysm coreRollup i cpu lines)) := by
  induction lines generalizing i cpuList cpu with
  | nil => rfl
  | cons line lines ih =>
    rw [cpuListLines, cpuListRows]
    by_cases isCpu : isCpuLine line = true
    · rw [if_pos isCpu, if_pos isCpu]
      have behind : folds coreRollup sysm.lcpu i = true → cpuList.number ≠ 0 ∧ cpuList.read (cpuList.number - 1) = some cpu := by
        intro fold
        refine last.resolve_left fun zero => ?_
        rw [zero, folds_zero] at fold
        cases fold
      obtain ⟨row, same, first, atNext⟩ := @cpuListLine_piece sysm coreRollup memory _ i cpu line behind
      simp only [← same]
      rw [cpuRows, run_append, ← first]
      cases step : cpuListLine sysm coreRollup memory i cpuList line with
      | none => rfl
      | some next => exact ih (Or.inr (atNext next step))
    · rw [if_neg isCpu, if_neg isCpu]
      rfl

theorem cpuAccepted_ne_nil {α : Type} {lcpu : Int32} {i : Nat} {items rows : List α} (filled : items ≠ [] ∨ rows ≠ []) :
    cpuAccepted coreRollup lcpu i items rows ≠ [] := by
  induction rows generalizing i items with
  | nil => exact filled.resolve_right (not_not.mpr rfl)
  | cons row rows ih =>
    rw [cpuAccepted]
    refine ih (Or.inl ?_)
    cases folds coreRollup lcpu i <;> simp

/-- The list is empty after the loop only if there was no line. -/
theorem cpuRows_number {lcpu : Int32} {rows : List SysmCpu}
    (pieces : (create sysmCpuMax memory).run memory (cpuRows coreRollup lcpu 0 rows) = some (heapList cpuList)) :
    cpuList.number = 0 ↔ rows = [] := by
  obtain ⟨list, run, sound, has⟩ := (safe_cpuRows (create_has sysmCpuMax memory) (Or.inl rfl) rows).run
  rw [pieces] at run
  cases run
  have length := sound.length_items
  rw [has.2] at length
  have number : (heapList cpuList).number = cpuList.number := rfl
  rw [← number, ← length, List.length_eq_zero_iff]
  constructor
  · intro empty
    by_contra filled
    exact cpuAccepted_ne_nil (Or.inr filled) empty
  · rintro rfl
    rfl

/-- The element for the first line is written to an empty list. -/
theorem run_total {row : SysmCpu} (empty : cpuList.number = 0) : (heapList cpuList).run memory [.next, .storeLast row] =
    (cpuList.write 0 row).map fun written => heapList { written with number := 1 } := by
  have number : (heapList cpuList).number = 0 := empty
  rw [run_next_storeLast, HeapList.run, step, number, heapList_write]
  cases write : cpuList.write 0 row with
  | none => rfl
  | some written =>
    have counted := GrowList.write_number write
    rw [empty] at counted
    have next : (heapList written).number + 1 = 1 := congrArg (· + 1) counted
    simp only [Option.map_some, Option.bind_eq_bind, Option.bind_some, HeapList.run, step, next]
    rfl

theorem sysmCpuListGet_fills (sysm : SysmT) (cpuid : UInt32 → SysmCpuid) (memory : Nat → SysmCpu)
    (stat : Except Int (List UInt8)) :
    FillsAs IsHeapList memory ((sysmCpuListGet sysm cpuid memory stat).bind fun result => result.1.toOption)
      (cpuListFill sysm cpuid stat) := by
  apply fillsAs_of_eq
  rw [sysmCpuListGet, cpuListFill]
  generalize sysmCpuCoreRollup sysm cpuid = rollup
  obtain ⟨coreRollup, rolled⟩ := rollup
  cases stat with
  | error errno => rfl
  | ok stream =>
    have loop := @cpuListLines_pieces rolled coreRollup memory (.create sysmCpuMax memory) 0 .zero (fgetsAll BUFSIZ stream).tail
      (Or.inl rfl)
    obtain ⟨list, run, -⟩ := (safe_cpuRows (create_has sysmCpuMax memory) (Or.inl rfl)
      (cpuListRows rolled coreRollup 0 .zero (fgetsAll BUFSIZ stream).tail)).run
    rw [heapList_create, run] at loop
    obtain ⟨filled, lines, rfl⟩ := Option.map_eq_some_iff.mp loop
    have empty := cpuRows_number run
    simp only [lines, Option.bind_eq_bind, Option.bind_some, Option.pure_def]
    by_cases zero : filled.number = 0
    · rw [if_pos zero, if_pos (empty.mp zero)]
      cases (fgetsAll BUFSIZ stream).head? with
      | none => rfl
      | some cpuTotal =>
        have noLine := run
        rw [empty.mp zero] at noLine
        rw [Option.map_some, Option.bind_some, Option.bind_some, Fill.result, Fill.start, Fill.ops, if_pos rfl, run_append, noLine,
          Option.bind_some, run_total zero]
        cases filled.write 0 (getCpuMetrics rolled.ticks .zero cpuTotal) <;> rfl
    · rw [if_neg zero, if_neg (mt empty.mpr zero)]
      simp only [Option.bind_some, Fill.result, Fill.start, Fill.ops, if_neg (mt empty.mpr zero), List.append_nil, run]
      rfl

end Processors

section Cells

variable {α : Type} {memory : Nat → α} {list list' : GrowList α} {max : Nat}

/-- What is in a cell of the list, or would be if the list grew. -/
def cellAt (memory : Nat → α) (list : GrowList α) (index : Nat) : α := (list.read index).getD (memory index)

theorem cellAt_create (max : Nat) (memory : Nat → α) : cellAt memory (.create max memory) = memory := by
  funext index
  rw [cellAt, GrowList.read, GrowList.create]
  by_cases inside : index < max
  · simp [inside]
  · simp [inside]

theorem cellAt_growFull : cellAt memory (list.growFull max memory) = cellAt memory list := by
  unfold GrowList.growFull
  split
  · funext index
    rw [cellAt, cellAt, GrowList.read, GrowList.read, GrowList.grow]
    by_cases inside : index < list.cells.length
    · rw [List.getElem?_append_left inside]
    · rw [List.getElem?_append_right (Nat.le_of_not_lt inside), List.getElem?_eq_none (Nat.le_of_not_lt inside), List.getElem?_map]
      by_cases more : index - list.cells.length < max
      · rw [List.getElem?_range more, GrowList.size]
        simp only [Option.map_some, Option.getD_some, Option.getD_none]
        congr 1
        omega
      · rw [List.getElem?_eq_none (by simpa using more)]
        rfl
  · rfl

theorem cellAt_write {index : Nat} {element : α} (write : list.write index element = some list') :
    cellAt memory list' = Function.update (cellAt memory list) index element := by
  funext other
  rw [cellAt, GrowList.read_write write]
  by_cases here : other = index
  · rw [if_pos here, here, Function.update_self]
    rfl
  · rw [if_neg here, Function.update_of_ne here]
    rfl

theorem read_cellAt {index : Nat} (inside : index < list.size) : list.read index = some (cellAt memory list index) := by
  have atCell : list.read index = some list.cells[index] := List.getElem?_eq_getElem inside
  rw [cellAt, atCell]
  rfl

/-- With room the element behind the others can be written, and counted. -/
theorem write_cells (room : list.number < list.size) (element : α) : ∃ list', list.write list.number element = some list' ∧
    list'.number = list.number ∧ list'.size = list.size ∧
      cellAt memory list' = Function.update (cellAt memory list) list.number element := by
  obtain ⟨written, write, number, size⟩ := GrowList.write_some room element
  exact ⟨written, write, number, size, cellAt_write write⟩

end Cells

section ProcessorInfos

variable {sysm : SysmT} {coreRollup : Bool} {files : Text → FileRead} {memory : Nat → SysmCpuInfo}
  {cpuInfos : GrowList SysmCpuInfo}

/-- What `get_cpu_info` leaves in the element behind the others, round by round,
with the element when it is described, and what the last call leaves. -/
def cpuInfoListRows (sysm : SysmT) (coreRollup : Bool) (files : Text → FileRead) :
    Nat → Nat → Nat → (Nat → SysmCpuInfo) → List Text → Option (List (SysmCpuInfo × SysmCpuInfo) × SysmCpuInfo)
  | 0, _, _, _, _ => none
  | rounds + 1, i, number, cells, lines => do
    let (found, info, lines) ← getCpuInfo (cells number) lines
    if !found then return ([], info)
    if folds coreRollup sysm.lcpu i then
      let (rows, last) ← cpuInfoListRows sysm coreRollup files rounds (i + 1) number (Function.update cells number info) lines
      return ((info, info) :: rows, last)
    else
      let described ← cpuInfoDescribe sysm files number info
      let (rows, last) ← cpuInfoListRows sysm coreRollup files rounds (if coreRollup then i + 1 else i) (number + 1)
        (Function.update cells number described) lines
      return ((info, described) :: rows, last)

/-- The rows of `sysm_cpu_info_list_get`. -/
def cpuInfoListFill (sysm : SysmT) (cpuid : UInt32 → SysmCpuid) (conf : UInt32) (files : Text → FileRead)
    (memory : Nat → SysmCpuInfo) (cpuinfo : Except Int (List UInt8)) : Option (Fill SysmCpuInfo) :=
  let (coreRollup, sysm) := sysmCpuCoreRollup sysm cpuid
  match cpuinfo with
  | .error _ => none
  | .ok stream => do
    let sysm := { sysm with ncpu := conf }
    let lines := fgetsAll BUFSIZ stream
    let (rows, last) ← cpuInfoListRows sysm coreRollup files (lines.length + 1) 0 0 memory lines
    return .cpuInfo coreRollup sysm.lcpu rows last

/-- What is described is counted, and there is room behind it again. -/
theorem run_described (list : GrowList SysmCpuInfo) (ops : List (Op SysmCpuInfo)) :
    (heapList list).run memory (.next :: .grow sysmCpuMax :: ops) =
      (heapList (({ list with number := list.number + 1 } : GrowList SysmCpuInfo).growFull sysmCpuMax memory)).run memory ops := by
  have counted : (heapList list).step memory .next = some (heapList { list with number := list.number + 1 }) := rfl
  rw [HeapList.run, counted]
  simp only [Option.bind_eq_bind, Option.bind_some, HeapList.run, heapList_grow]

theorem cpuInfoRounds_rows (rounds i : Nat) (lines : List Text) (room : cpuInfos.number < cpuInfos.size) :
    (cpuInfoRounds sysm coreRollup files memory rounds i cpuInfos lines).map heapList =
      (cpuInfoListRows sysm coreRollup files rounds i cpuInfos.number (cellAt memory cpuInfos) lines).bind
        fun result => (heapList cpuInfos).run memory (cpuInfoRows coreRollup sysm.lcpu i result.1 ++ [.store result.2]) := by
  induction rounds generalizing i lines cpuInfos with
  | zero => rfl
  | succ rounds ih =>
    rw [cpuInfoRounds, cpuInfoListRows, read_cellAt room]
    simp only [Option.bind_eq_bind, Option.bind_some]
    cases getCpuInfo (cellAt memory cpuInfos cpuInfos.number) lines with
    | none => rfl
    | some result =>
      obtain ⟨found, info, rest⟩ := result
      obtain ⟨written, write, number, size, cells⟩ := write_cells room info
      have room' : written.number < written.size := by rw [number, size]; exact room
      simp only [Option.bind_some, write]
      cases found with
      | false =>
        simp only [Bool.not_false, if_true, Option.pure_def, Option.map_some, Option.bind_some, cpuInfoRows, List.nil_append]
        rw [run_store write]
        rfl
      | true =>
        simp only [Bool.not_true, Bool.false_eq_true, if_false]
        by_cases fold : folds coreRollup sysm.lcpu i = true
        · have later := @ih written (i + 1) rest room'
          rw [number, cells] at later
          rw [if_pos (folds_eq_true.mp fold), if_pos fold, later, Option.bind_assoc]
          congr 1
          funext result
          have counting : (if coreRollup = true then i + 1 else i) = i + 1 := if_pos (folds_eq_true.mp fold).1
          simp only [Option.pure_def, Option.bind_some, cpuInfoRows, if_pos fold, List.nil_append, List.cons_append, counting]
          exact (run_store write).symm
        · rw [if_neg (mt folds_eq_true.mpr fold), if_neg fold, number]
          cases cpuInfoDescribe sysm files cpuInfos.number info with
          | none => rfl
          | some described =>
            obtain ⟨stored, store, number', size', cells'⟩ := write_cells room' described
            rw [number] at store
            have counted : ({ stored with number := stored.number + 1 } : GrowList SysmCpuInfo).InBounds := by
              show stored.number + 1 ≤ stored.size
              omega
            have grown : (({ stored with number := stored.number + 1 } : GrowList SysmCpuInfo).growFull sysmCpuMax memory).number =
                cpuInfos.number + 1 := by
              rw [GrowList.growFull_number]
              exact congrArg (· + 1) (number'.trans number)
            have behind : cellAt memory (({ stored with number := stored.number + 1 } : GrowList SysmCpuInfo).growFull
                sysmCpuMax memory) = Function.update (cellAt memory cpuInfos) cpuInfos.number described := by
              rw [cellAt_growFull]
              refine Eq.trans cells' ?_
              rw [cells, number, Function.update_idem]
            have later := @ih (({ stored with number := stored.number + 1 } : GrowList SysmCpuInfo).growFull sysmCpuMax memory)
              (if coreRollup = true then i + 1 else i) rest
              (by rw [GrowList.growFull_number]; exact GrowList.growFull_room counted (by decide) memory)
            rw [grown, behind] at later
            simp only [Option.bind_some, store]
            rw [later, Option.bind_assoc]
            congr 1
            funext result
            simp only [Option.pure_def, Option.bind_some, cpuInfoRows, if_neg fold, List.cons_append, List.nil_append]
            rw [run_store write, run_store (by rw [number]; exact store), run_described]

theorem sysmCpuInfoListGet_fills (sysm : SysmT) (cpuid : UInt32 → SysmCpuid) (conf : UInt32) (files : Text → FileRead)
    (memory : Nat → SysmCpuInfo) (cpuinfo : Except Int (List UInt8)) :
    FillsAs IsHeapList memory ((sysmCpuInfoListGet sysm cpuid conf files memory cpuinfo).bind fun result => result.1.toOption)
      (cpuInfoListFill sysm cpuid conf files memory cpuinfo) := by
  apply fillsAs_of_eq
  rw [sysmCpuInfoListGet, cpuInfoListFill]
  generalize sysmCpuCoreRollup sysm cpuid = rollup
  obtain ⟨coreRollup, rolled⟩ := rollup
  cases cpuinfo with
  | error errno => rfl
  | ok stream =>
    have loop := @cpuInfoRounds_rows { rolled with ncpu := conf } coreRollup files memory (.create sysmCpuMax memory)
      ((fgetsAll BUFSIZ stream).length + 1) 0 (fgetsAll BUFSIZ stream) (by simp [sysmCpuMax])
    rw [cellAt_create, heapList_create, GrowList.create_number] at loop
    simp only [Option.bind_eq_bind, Option.pure_def, Option.bind_assoc]
    refine Eq.trans ?_ (loop.trans ?_)
    · cases cpuInfoRounds { rolled with ncpu := conf } coreRollup files memory ((fgetsAll BUFSIZ stream).length + 1) 0
        (.create sysmCpuMax memory) (fgetsAll BUFSIZ stream) <;> rfl
    · rfl

end ProcessorInfos

section Routes

variable {memory : Nat → SysmNetRoute} {routeList routeList' : GrowList SysmNetRoute}

/-- What the conversions leave in the element behind the routes in use, and the
route unless it is left out. -/
def netRouteRow (cell : SysmNetRoute) (buffer : Text) : Option (SysmNetRoute × Option SysmNetRoute) := do
  let items := sscanf routeFmt buffer
  let num := items.length
  let ifname ← stringAt items 0 maxInterfaceNameLen cell.ifname
  let netAddr ← stringAt items 1 128 []
  let gateAddr ← stringAt items 2 128 []
  let flags := hexAt items 3 0
  let maskAddr ← stringAt items 7 128 []
  let route := { cell with
    ifname
    refcnt := longAt items 4 cell.refcnt
    use := longAt items 5 cell.use
    metric := longAt items 6 cell.metric
    mtu := longAt items 8 cell.mtu
    window := longAt items 9 cell.window
    irtt := longAt items 10 cell.irtt }
  if num < 10 ∨ flags &&& rtfUp = 0 then return (route, none)
  else
    let destination ← hex2int netAddr hexEntLen
    let gateway ← hex2int gateAddr hexEntLen
    let mask ← hex2int maskAddr hexEntLen
    return (route, some { route with
      flags := flags.toInt32.toInt64.toUInt64
      destination := .inet destination
      gateway := .inet gateway
      mask := .inet mask })

/-- The rows of the lines, where a route that is left out stays in the memory. -/
def netRouteRows (number : Nat) (cells : Nat → SysmNetRoute) : List Text → Option (List (SysmNetRoute × Option SysmNetRoute))
  | [] => some []
  | buffer :: buffers => do
    let (scanned, route) ← netRouteRow (cells number) buffer
    let rows ← match route with
      | none => netRouteRows number (Function.update cells number scanned) buffers
      | some route => netRouteRows (number + 1) (Function.update cells number route) buffers
    return (scanned, route) :: rows

/-- The rows of `sysm_net_route_list_get`. -/
def netRouteListFill (memory : Nat → SysmNetRoute) (file : Except Int (List UInt8)) : Option (Fill SysmNetRoute) :=
  match file with
  | .error _ => none
  | .ok stream => (netRouteRows 0 memory (fgetsAll 1024 stream).tail).map .route

/-- A round stores its row in the element behind the routes in use. -/
theorem netRouteLine_piece (bound : routeList.InBounds) (buffer : Text) : netRouteLine memory routeList buffer =
    (netRouteRow (cellAt memory routeList routeList.number) buffer).bind fun row =>
      match row.2 with
      | none => (routeList.growFull sysmNetRouteListMax memory).write routeList.number row.1
      | some route => routeList.push sysmNetRouteListMax memory route := by
  have room := GrowList.growFull_room bound (by decide : 0 < sysmNetRouteListMax) memory
  have cell := @read_cellAt _ memory _ _ room
  rw [cellAt_growFull] at cell
  rw [netRouteLine, netRouteRow, GrowList.growFull_number, cell]
  generalize cellAt memory routeList routeList.number = cell
  simp only [Option.bind_eq_bind, Option.bind_some, Option.pure_def, GrowList.push, GrowList.growFull_number]
  cases stringAt (sscanf routeFmt buffer) 0 maxInterfaceNameLen cell.ifname with
  | none => rfl
  | some ifname =>
  cases stringAt (sscanf routeFmt buffer) 1 128 [] with
  | none => rfl
  | some netAddr =>
  cases stringAt (sscanf routeFmt buffer) 2 128 [] with
  | none => rfl
  | some gateAddr =>
  cases stringAt (sscanf routeFmt buffer) 7 128 [] with
  | none => rfl
  | some maskAddr =>
  simp only [Option.bind_some]
  split
  · rfl
  · cases hex2int netAddr hexEntLen with
    | none => rfl
    | some destination =>
    cases hex2int gateAddr hexEntLen with
    | none => rfl
    | some gateway =>
    cases hex2int maskAddr hexEntLen with
    | none => rfl
    | some mask => rfl

/-- An element that is counted, written and taken back. -/
theorem run_retract {route : SysmNetRoute} {max : Nat} (write : (routeList.growFull max memory).write
      routeList.number route = some routeList') :
    (heapList routeList).run memory [.grow max, .next, .storeLast route, .back] = some (heapList routeList') := by
  have split : [Op.grow max, Op.next, Op.storeLast route, Op.back] =
    [Op.grow max] ++ ([Op.next, Op.storeLast route] ++ [Op.back]) := rfl
  rw [split, run_append, HeapList.run, heapList_grow]
  simp only [Option.bind_eq_bind, Option.bind_some, HeapList.run]
  rw [run_append, run_next_storeLast, run_store (by rw [GrowList.growFull_number]; exact write)]
  simp only [HeapList.run, step, Option.bind_eq_bind, Option.bind_some, Nat.succ_ne_zero, if_false, Nat.add_sub_cancel]

/-- An element that is written twice keeps what is written last. -/
theorem run_accepted {scanned route : SysmNetRoute} {max : Nat} (list : HeapList SysmNetRoute) :
    list.run memory (growElement max scanned ++ [.storeLast route]) = list.run memory (growElement max route) := by
  rw [growElement, growElement, List.cons_append, HeapList.run, HeapList.run]
  cases list.step memory (.grow max) with
  | none => rfl
  | some grown =>
    simp only [Option.bind_eq_bind, Option.bind_some, List.cons_append, List.nil_append, HeapList.run, step, Nat.succ_ne_zero,
      if_false, Nat.add_sub_cancel, HeapList.write]
    by_cases inside : grown.number < grown.data.length
    · simp only [if_pos inside, Option.bind_some, List.length_set, List.set_set, Nat.succ_ne_zero, if_false, Nat.add_sub_cancel]
    · simp only [if_neg inside, Option.bind_none]

/-- The loop makes the pieces of the rows. -/
theorem netRouteLines_pieces (buffers : List Text) (bound : routeList.InBounds) :
    (buffers.foldlM (netRouteLine memory) routeList).map heapList =
      (netRouteRows routeList.number (cellAt memory routeList) buffers).bind
        fun rows => (heapList routeList).run memory (rows.flatMap routeRow) := by
  induction buffers generalizing routeList with
  | nil => rfl
  | cons buffer buffers ih =>
    rw [List.foldlM_cons, netRouteLine_piece bound, netRouteRows]
    simp only [Option.bind_eq_bind]
    cases netRouteRow (cellAt memory routeList routeList.number) buffer with
    | none => rfl
    | some row =>
      obtain ⟨scanned, route⟩ := row
      have room := GrowList.growFull_room bound (by decide : 0 < sysmNetRouteListMax) memory
      simp only [Option.bind_some]
      cases route with
      | none =>
        obtain ⟨written, write, number, size⟩ := GrowList.write_some room scanned
        rw [GrowList.growFull_number] at number
        have cells := @cellAt_write _ memory _ _ _ _ write
        rw [cellAt_growFull] at cells
        have bound' : written.InBounds := by
          show written.number ≤ written.size
          omega
        have later := ih bound'
        rw [number, cells] at later
        simp only [write, Option.bind_some, later, Option.bind_assoc, Option.pure_def]
        congr 1
        funext rows
        rw [List.flatMap_cons, run_append, routeRow, run_retract write, Option.bind_some]
      | some route =>
        obtain ⟨next, push, bound', number, items⟩ := GrowList.push_some bound (by decide : 0 < sysmNetRouteListMax) memory route
        have cells : cellAt memory next = Function.update (cellAt memory routeList) routeList.number route := by
          obtain ⟨written, write, same⟩ := Option.bind_eq_some_iff.mp push
          cases same
          rw [GrowList.growFull_number] at write
          have stored := @cellAt_write _ memory _ _ _ _ write
          rwa [cellAt_growFull] at stored
        have later := ih bound'
        rw [number, cells] at later
        have first := heapList_push sysmNetRouteListMax memory routeList route
        rw [push, Option.map_some] at first
        simp only [push, Option.bind_some, later, Option.bind_assoc, Option.pure_def]
        congr 1
        funext rows
        rw [List.flatMap_cons, run_append, routeRow, run_accepted, run_growElement, first, Option.bind_some]

theorem sysmNetRouteListGet_fills (memory : Nat → SysmNetRoute) (file : Except Int (List UInt8)) :
    FillsAs IsHeapList memory ((sysmNetRouteListGet memory file).bind Except.toOption) (netRouteListFill memory file) := by
  apply fillsAs_of_eq
  cases file with
  | error errno => rfl
  | ok stream =>
    have loop := @netRouteLines_pieces memory (.create sysmNetRouteListMax memory) (fgetsAll 1024 stream).tail (Nat.zero_le _)
    rw [cellAt_create, heapList_create, GrowList.create_number] at loop
    rw [netRouteListFill, Option.bind_map]
    refine Eq.trans ?_ loop
    simp only [sysmNetRouteListGet, Option.bind_eq_bind, Option.pure_def]
    cases (fgetsAll 1024 stream).tail.foldlM (netRouteLine memory) (.create sysmNetRouteListMax memory) <;> rfl

end Routes

section Interfaces

variable {memory : Nat → Text} {iflist : GrowList Text}

/-- The devices that are not in the list yet. -/
def netInterfaceRows : List Text → List Text → List (Option Text)
  | _, [] => []
  | listed, buffer :: buffers =>
    match netDevLine buffer with
    | none => none :: netInterfaceRows listed buffers
    | some (dev, _) =>
      if listed.any fun data => data == dev then none :: netInterfaceRows listed buffers
      else some dev :: netInterfaceRows (listed ++ [dev]) buffers

theorem requests_length {conf : Ifconf} {ifcLen : Nat} {requests : List Ifreq} (requested : conf.requests ifcLen = some requests) :
    (requests.map Ifreq.ifrName).length = (ifcLen + sizeofIfreq - 1) / sizeofIfreq := by
  obtain ⟨address, -, rest⟩ := Option.bind_eq_some_iff.mp requested
  obtain ⟨cells, -, rest⟩ := Option.bind_eq_some_iff.mp rest
  obtain ⟨enough, same⟩ := Option.ite_none_left_eq_some.mp rest
  cases same
  rw [List.length_map, List.length_take]
  omega

/-- The lines of the devices, of which a file that is missing has none. -/
def devLines : Option (List UInt8) → List Text
  | none => []
  | some content => (fgetsAll BUFSIZ content).drop 2

/-- The rows over a buffer that the kernel has filled: the names of the requests,
and the devices of the file behind them. -/
def interfaceFill (procNetDev : Option (List UInt8)) (conf : Ifconf) (ifcLen : Nat) : Option (Fill Text) :=
  (conf.requests ifcLen).attach.map fun ifcReq =>
    .interface ifcLen (ifcReq.val.map Ifreq.ifrName) (requests_length ifcReq.property)
      (netInterfaceRows (ifcReq.val.map Ifreq.ifrName) (devLines procNetDev))

/-- The rows of `sysm_net_interface_list_get`. -/
def netInterfaceListFill (requests : Nat → Ifreq) (socket : Except Int Unit) (answers : List IoctlAnswer)
    (procNetDev : Option (List UInt8)) (conf : Ifconf) : Option (Fill Text) :=
  match socket with
  | .error _ => none
  | .ok () =>
    match conf.loop requests 0 answers with
    | some (conf, .ended ifcLen) => interfaceFill procNetDev conf ifcLen
    | _ => none

theorem addRequests_run (requests : List Ifreq) (iflist : GrowList Text) :
    (requests.foldlM addRequest iflist).map heapList =
      (heapList iflist).run memory ((requests.map Ifreq.ifrName).flatMap fun ifr => [.store ifr, .next]) := by
  induction requests generalizing iflist with
  | nil => rfl
  | cons ifr requests ih =>
    rw [List.foldlM_cons, addRequest, List.map_cons, List.flatMap_cons, List.cons_append]
    cases write : iflist.write iflist.number ifr.ifrName with
    | none =>
      have number : (heapList iflist).number = iflist.number := rfl
      rw [HeapList.run, step, number, heapList_write, write]
      rfl
    | some written =>
      rw [run_store write]
      exact ih { written with number := written.number + 1 }

theorem procNetInterfaces_run (buffers : List Text) (bound : iflist.InBounds) :
    (buffers.foldlM (procNetInterface memory) iflist).map heapList = (heapList iflist).run memory
      ((netInterfaceRows iflist.items buffers).flatMap (unlessSkipped (growStore sysmNetIflistMax))) := by
  induction buffers generalizing iflist with
  | nil => rfl
  | cons buffer buffers ih =>
    rw [List.foldlM_cons, procNetInterface, netInterfaceRows]
    cases netDevLine buffer with
    | none => exact ih bound
    | some line =>
      obtain ⟨dev, rest⟩ := line
      have listed : hasInterface iflist dev = iflist.items.any fun data => data == dev := rfl
      simp only [listed]
      by_cases already : (iflist.items.any fun data => data == dev) = true
      · rw [if_pos already, if_pos already]
        exact ih bound
      · rw [if_neg already, if_neg already]
        obtain ⟨next, push, bound', number, items⟩ := GrowList.push_some bound (by decide : 0 < sysmNetIflistMax) memory dev
        have first := heapList_push sysmNetIflistMax memory iflist dev
        rw [push, Option.map_some] at first
        have later := ih bound'
        rw [items] at later
        rw [push, List.flatMap_cons, run_append, unlessSkipped, first]
        exact later

/-- The list is filled with the requests, and then with the devices. -/
theorem interfaceFill_run (procNetDev : Option (List UInt8)) (conf : Ifconf) (ifcLen : Nat) :
    ((conf.requests ifcLen).bind fun ifcReq => (ifcReq.foldlM addRequest (.create ifcLen memory)).bind
        (procNetInterfaceListGet memory procNetDev)).map heapList =
      (interfaceFill procNetDev conf ifcLen).bind (Fill.result memory) := by
  rw [interfaceFill, Option.bind_map]
  cases requested : (conf.requests ifcLen).attach with
  | none =>
    rw [Option.bind_none, Option.attach_eq_none_iff.mp requested]
    rfl
  | some request =>
    obtain ⟨ifcReq, isRequest⟩ := request
    have room : (create ifcLen memory).number + (ifcReq.map Ifreq.ifrName).length ≤ (create ifcLen memory).size := by
      rw [requests_length isRequest]
      simp only [create, sizeofIfreq]
      omega
    obtain ⟨list, run, sound, has⟩ := (safe_requests (create_has ifcLen memory) room).run
    have added := @addRequests_run memory ifcReq (.create ifcLen memory)
    rw [heapList_create, run] at added
    obtain ⟨filled, requests, rfl⟩ := Option.map_eq_some_iff.mp added
    have items : filled.items = ifcReq.map Ifreq.ifrName := has.2
    have bound : filled.InBounds := sound.bounded
    have devices (buffers : List Text) := @procNetInterfaces_run memory filled buffers bound
    rw [Option.bind_some, Function.comp_apply, Fill.result, Fill.start, Fill.ops, run_append, run, Option.bind_some]
    simp only [isRequest, Option.bind_some, requests, ← items]
    cases procNetDev with
    | none => rfl
    | some content => exact devices _

theorem sysmNetInterfaceListGet_fills (memory : Nat → Text) (requests : Nat → Ifreq) (socket : Except Int Unit)
    (answers : List IoctlAnswer) (procNetDev : Option (List UInt8)) (conf : Ifconf) :
    FillsAs IsHeapList memory
      ((sysmNetInterfaceListGet memory requests socket answers procNetDev conf).bind fun result => result.2.toOption)
      (netInterfaceListFill requests socket answers procNetDev conf) := by
  apply fillsAs_of_eq
  cases socket with
  | error errno => rfl
  | ok opened =>
    rw [sysmNetInterfaceListGet, netInterfaceListFill]
    cases conf.loop requests 0 answers with
    | none => rfl
    | some looped =>
      obtain ⟨conf', round⟩ := looped
      cases round with
      | again lastlen => rfl
      | failed errno => rfl
      | ended ifcLen =>
        rw [← interfaceFill_run]
        simp only [Option.bind_eq_bind, Option.bind_some, Option.pure_def, Option.bind_assoc]
        congr 2
        funext ifcReq
        congr 1
        funext iflist
        cases procNetInterfaceListGet memory procNetDev iflist <;> rfl

end Interfaces

section Connections

/-- `proc_net_walker` with a list. -/
def connListAdd (memory : Nat → SysmNetConnection) (conn : SysmNetConnection) (connList : GrowList SysmNetConnection) :
    Option (Int × GrowList SysmNetConnection) := do
  let connList ← connList.push sysmNetConnlistMax memory conn
  return (0, connList)

/-- `sysm_net_connection_list_get`. The array of a call that fails is freed. -/
def sysmNetConnectionListGet (memory : Nat → SysmNetConnection) (flags : UInt32) (files : NetFiles) :
    Option (Int × GrowList SysmNetConnection) := do
  let (status, connList) ← sysmNetConnectionWalk (connListAdd memory) flags files (.create sysmNetConnlistMax memory)
  if status ≠ 0 then return (status, ⟨0, []⟩) else return (status, connList)

/-- The rows of `sysm_net_connection_list_get`, if it succeeds. -/
def netConnectionListFill (flags : UInt32) (files : NetFiles) : Option (Fill SysmNetConnection) := do
  let (status, rows) ← parsedRows flags files
  if status ≠ 0 then none else some (.connection rows)

/-- The list of a call that succeeds. -/
def listOfCall {α : Type} : Int × GrowList α → Option (GrowList α)
  | (status, list) => if status ≠ 0 then none else some list

variable {memory : Nat → SysmNetConnection} {connList : GrowList SysmNetConnection}

theorem connListAdd_goesOn : NeverStops (connListAdd memory) := by
  intro conn state more next add
  obtain ⟨pushed, -, same⟩ := Option.bind_eq_some_iff.mp add
  cases same
  rfl

/-- The list after some rows. -/
structure FilledWith (memory : Nat → SysmNetConnection) (connList : GrowList SysmNetConnection) (done : List SysmNetConnection) :
    Prop where
  bound : connList.InBounds
  pieces : (create sysmNetConnlistMax memory).run memory (done.flatMap (growStore sysmNetConnlistMax)) = some (heapList connList)

theorem connListAdd_filled {done : List SysmNetConnection} (filled : FilledWith memory connList done) (conn : SysmNetConnection) :
    ∃ next, connListAdd memory conn connList = some (0, next) ∧ FilledWith memory next (done ++ [conn]) := by
  obtain ⟨next, push, bound, -⟩ := GrowList.push_some filled.bound (by decide : 0 < sysmNetConnlistMax) memory conn
  refine ⟨next, by rw [connListAdd, push]; rfl, bound, ?_⟩
  rw [List.flatMap_append, run_append, filled.pieces, Option.bind_some, List.flatMap_singleton, heapList_push, push,
    Option.map_some]

theorem FilledWith.items {done : List SysmNetConnection} (filled : FilledWith memory connList done) : connList.items = done := by
  obtain ⟨list, run, -, items⟩ := (fill_sound memory (.connection done)).final
  have pieces := filled.pieces
  rw [Fill.start, Fill.ops, pieces] at run
  cases run
  exact items

/-- The walk hands all the rows that it parses to the list. -/
theorem sysmNetConnectionListGet_walked (memory : Nat → SysmNetConnection) (flags : UInt32) (files : NetFiles) :
    (parsedRows flags files = none ∧ sysmNetConnectionListGet memory flags files = none) ∨
    ∃ status rows, parsedRows flags files = some (status, rows) ∧
      ∃ connList, FilledWith memory connList rows ∧
        sysmNetConnectionListGet memory flags files = some (status, if status ≠ 0 then ⟨0, []⟩ else connList) := by
  rw [sysmNetConnectionListGet, sysmNetConnectionWalk_parsedRows connListAdd_goesOn]
  cases parsedRows flags files with
  | none => exact Or.inl ⟨rfl, rfl⟩
  | some parsed =>
    obtain ⟨status, rows⟩ := parsed
    have empty : FilledWith memory (.create sysmNetConnlistMax memory) [] :=
      ⟨Nat.zero_le _, congrArg some (heapList_create _ _).symm⟩
    have step : ∀ state done conn, FilledWith memory state done → True →
        ∃ next, connListAdd memory conn state = some (0, next) ∧ FilledWith memory next (done ++ [conn]) :=
      fun _ _ conn filled _ => connListAdd_filled filled conn
    obtain ⟨connList, handed, filled⟩ := @handOver_invariant _ _ (FilledWith memory) (fun _ => True) step rows [] _ empty (by simp)
    refine Or.inr ⟨status, rows, rfl, connList, filled, ?_⟩
    rw [Option.bind_some, handed, Option.map_some]
    by_cases failed : status ≠ 0
    · simp only [if_pos failed, Option.bind_eq_bind, Option.bind_some, Option.pure_def]
    · simp only [if_neg failed, Option.bind_eq_bind, Option.bind_some, Option.pure_def]

theorem sysmNetConnectionListGet_fills (memory : Nat → SysmNetConnection) (flags : UInt32) (files : NetFiles) :
    FillsAs IsHeapList memory ((sysmNetConnectionListGet memory flags files).bind listOfCall) (netConnectionListFill flags files) := by
  apply fillsAs_of_eq
  rw [netConnectionListFill]
  rcases sysmNetConnectionListGet_walked memory flags files with ⟨parsed, get⟩ | ⟨status, rows, parsed, connList, filled, get⟩
  · rw [parsed, get]
    rfl
  · rw [parsed, get]
    by_cases failed : status ≠ 0
    · simp only [listOfCall, if_pos failed, Option.bind_eq_bind, Option.bind_some, Option.bind_none, Option.map_none]
    · simp only [listOfCall, if_neg failed, Option.bind_eq_bind, Option.bind_some, Option.map_some]
      exact filled.pieces.symm

end Connections

end Sysm
