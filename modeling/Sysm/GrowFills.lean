import Sysm.CpuInfo
import Sysm.FileSystem
import Sysm.InterfaceList
import Sysm.Lib.HeapList
import Sysm.NetRoute
import Sysm.ProcArgs
import Sysm.ProcList
import Sysm.Who

namespace Sysm
open HeapList

/-- `SYSM_NET_CONNLIST_MAX` -/
def sysmNetConnlistMax : Nat := 20

section Pieces

variable {α : Type}

/-- `GROW(list); list->data[list->number++] = row` -/
def growStore (max : Nat) (row : α) : List (Op α) := [.grow max, .store row, .next]

/-- `GROW(list); p = &list->data[list->number++]`, and the writes to `*p`. -/
def growElement (max : Nat) (row : α) : List (Op α) := [.grow max, .next, .storeLast row]

/-- A row that is left out before the list is touched. -/
def unlessSkipped (piece : α → List (Op α)) : Option α → List (Op α)
  | none => []
  | some row => piece row

/-- `core_rollup && (i % sysm->lcpu)` -/
def folds (coreRollup : Bool) (lcpu : Int32) (i : Nat) : Bool := coreRollup && Int.tmod i lcpu.toInt != 0

/-- The loop of `sysm_cpu_list_get`. The line of a folded processor is added to
the last element. -/
def cpuRows (coreRollup : Bool) (lcpu : Int32) : Nat → List α → List (Op α)
  | _, [] => []
  | i, row :: rows =>
    (if folds coreRollup lcpu i then [.storeLast row] else growElement sysmCpuMax row) ++ cpuRows coreRollup lcpu (i + 1) rows

def cpuAccepted (coreRollup : Bool) (lcpu : Int32) : Nat → List α → List α → List α
  | _, items, [] => items
  | i, items, row :: rows =>
    cpuAccepted coreRollup lcpu (i + 1) (if folds coreRollup lcpu i then items.dropLast ++ [row] else items ++ [row]) rows

/-- The loop of `sysm_cpu_info_list_get`: what `get_cpu_info` leaves in the element
behind the others, and the element when it is described. -/
def cpuInfoRows (coreRollup : Bool) (lcpu : Int32) : Nat → List (α × α) → List (Op α)
  | _, [] => []
  | i, (info, described) :: rows =>
    .store info :: (if folds coreRollup lcpu i then [] else [.store described, .next, .grow sysmCpuMax]) ++
      cpuInfoRows coreRollup lcpu (if coreRollup then i + 1 else i) rows

def cpuInfoAccepted (coreRollup : Bool) (lcpu : Int32) : Nat → List (α × α) → List α
  | _, [] => []
  | i, (_, described) :: rows =>
    (if folds coreRollup lcpu i then [] else [described]) ++
      cpuInfoAccepted coreRollup lcpu (if coreRollup then i + 1 else i) rows

/-- A round of `sysm_net_route_list_get`: what `sscanf` leaves in the element, and
the route unless the element is taken back. -/
def routeRow : α × Option α → List (Op α)
  | (scanned, none) => [.grow sysmNetRouteListMax, .next, .storeLast scanned, .back]
  | (scanned, some route) => growElement sysmNetRouteListMax scanned ++ [.storeLast route]

end Pieces

/-- A call that fills one of the lists, with what it writes to the elements. -/
inductive Fill (α : Type) where
  /-- `sysm_proc_list_get`, with the list that is kept if the caller has none. -/
  | process (kept : Option { list : HeapList α // list.Sound }) (rows : List (Option α))
  /-- `sysm_proc_args_get` -/
  | argument (rows : List α)
  /-- `sysm_cpu_list_get`, with the element for the first line if there is no other. -/
  | cpu (coreRollup : Bool) (lcpu : Int32) (rows : List α) (total : α)
  /-- `sysm_cpu_info_list_get`, with what the last call of `get_cpu_info` writes
  although it finds no processor. -/
  | cpuInfo (coreRollup : Bool) (lcpu : Int32) (rows : List (α × α)) (last : α)
  /-- `sysm_file_system_list_get` -/
  | fileSystem (rows : List α)
  /-- `sysm_net_route_list_get` -/
  | route (rows : List (α × Option α))
  /-- `sysm_net_interface_list_get`, with the `ifc_len` bytes of requests. -/
  | interface (ifcLen : Nat) (requests : List α) (filled : requests.length = (ifcLen + sizeofIfreq - 1) / sizeofIfreq)
      (rows : List (Option α))
  /-- `sysm_net_connection_list_get` -/
  | connection (rows : List α)
  /-- `sysm_who_list_get` -/
  | who (rows : List (Option α))

namespace Fill

variable {α : Type}

/-- The list before the loop. -/
def start (memory : Nat → α) : Fill α → HeapList α
  | process none _ => create sysmProcListMax memory
  | process (some kept) _ => { kept.val with number := 0 }
  | argument _ => create sysmProcArgsMax memory
  | cpu _ _ _ _ => create sysmCpuMax memory
  | cpuInfo _ _ _ _ => create sysmCpuMax memory
  | fileSystem _ => create sysmFsMax memory
  | route _ => create sysmNetRouteListMax memory
  | interface ifcLen _ _ _ => create ifcLen memory
  | connection _ => create sysmNetConnlistMax memory
  | who _ => create sysmWhoListMax memory

/-- The statements of the loop. -/
def ops : Fill α → List (Op α)
  | process _ rows => rows.flatMap (unlessSkipped (growStore sysmProcListMax))
  | argument rows => rows.flatMap (growStore sysmProcArgsMax)
  | cpu coreRollup lcpu rows total => cpuRows coreRollup lcpu 0 rows ++ if rows = [] then [.next, .storeLast total] else []
  | cpuInfo coreRollup lcpu rows last => cpuInfoRows coreRollup lcpu 0 rows ++ [.store last]
  | fileSystem rows => rows.flatMap (growElement sysmFsMax)
  | route rows => rows.flatMap routeRow
  | interface _ requests _ rows =>
    requests.flatMap (fun ifr => [.store ifr, .next]) ++ rows.flatMap (unlessSkipped (growStore sysmNetIflistMax))
  | connection rows => rows.flatMap (growStore sysmNetConnlistMax)
  | who rows => rows.flatMap (unlessSkipped (growElement sysmWhoListMax))

/-- The rows that are not left out, folded or taken back. -/
def accepted : Fill α → List α
  | process _ rows => rows.filterMap id
  | argument rows => rows
  | cpu coreRollup lcpu rows total => if rows = [] then [total] else cpuAccepted coreRollup lcpu 0 [] rows
  | cpuInfo coreRollup lcpu rows _ => cpuInfoAccepted coreRollup lcpu 0 rows
  | fileSystem rows => rows
  | route rows => rows.filterMap Prod.snd
  | interface _ requests _ rows => requests ++ rows.filterMap id
  | connection rows => rows
  | who rows => rows.filterMap id

end Fill

section Rounds

variable {α : Type} {memory : Nat → α} {list : HeapList α} {items : List α} {max : Nat}

theorem safe_growStore (has : list.Has items) (positive : 0 < max) (row : α) :
    list.Safe memory (growStore max row) (Has · (items ++ [row])) :=
  has.grow positive fun _ has' room => has'.store_next room row

theorem safe_growElement (has : list.Has items) (positive : 0 < max) (row : α) :
    list.Safe memory (growElement max row) (Has · (items ++ [row])) :=
  has.grow positive fun _ has' room => has'.next_store room (has'.pushed room row).safe

theorem safe_unlessSkipped {piece : α → List (Op α)}
    (each : ∀ (list : HeapList α) (items : List α) (row : α), list.Has items →
      list.Safe memory (piece row) (Has · (items ++ [row])))
    (has : list.Has items) (row : Option α) : list.Safe memory (unlessSkipped piece row) (Has · (items ++ row.toList)) := by
  cases row with
  | none =>
    rw [Option.toList_none, List.append_nil]
    exact has.safe
  | some row => exact each list items row has

theorem safe_routeRow (has : list.Has items) (row : α × Option α) :
    list.Safe memory (routeRow row) (Has · (items ++ row.2.toList)) := by
  have positive : 0 < sysmNetRouteListMax := by decide
  obtain ⟨scanned, route⟩ := row
  cases route with
  | none =>
    rw [Option.toList_none, List.append_nil]
    exact has.grow positive fun _ has' room => has'.retract room scanned
  | some route => exact (safe_growElement has positive scanned).append fun _ has' => has'.replace route

/-- The first processor is not folded, so that there is an element to fold into. -/
theorem folds_zero (coreRollup : Bool) (lcpu : Int32) : folds coreRollup lcpu 0 = false := by
  simp [folds]

theorem safe_cpuRows {coreRollup : Bool} {lcpu : Int32} {i : Nat} (has : list.Has items) (begun : i = 0 ∨ items ≠ [])
    (rows : List α) :
    list.Safe memory (cpuRows coreRollup lcpu i rows) (Has · (cpuAccepted coreRollup lcpu i items rows)) := by
  have positive : 0 < sysmCpuMax := by decide
  induction rows generalizing list items i with
  | nil => exact has.safe
  | cons row rows ih =>
    rw [cpuRows, cpuAccepted]
    cases fold : folds coreRollup lcpu i with
    | false => exact (safe_growElement has positive row).append fun _ has' => ih has' (Or.inr (by simp))
    | true =>
      have filled : items ≠ [] := by
        refine begun.resolve_left fun zero => ?_
        rw [zero, folds_zero] at fold
        cases fold
      rw [← List.dropLast_concat_getLast filled] at has
      exact (has.replace row).append fun _ has' => ih has' (Or.inr (by simp))

/-- Between the rounds there is room for the element that `get_cpu_info` writes to. -/
theorem safe_cpuInfoRows {coreRollup : Bool} {lcpu : Int32} {i : Nat} (has : list.Has items) (room : list.number < list.size)
    (rows : List (α × α)) (last : α) :
    list.Safe memory (cpuInfoRows coreRollup lcpu i rows ++ [.store last])
      (Has · (items ++ cpuInfoAccepted coreRollup lcpu i rows)) := by
  have positive : 0 < sysmCpuMax := by decide
  induction rows generalizing list items i with
  | nil =>
    rw [cpuInfoAccepted, List.append_nil]
    exact ⟨has.1, _, write_room has.1 room last, (has.written last).safe⟩
  | cons row rows ih =>
    obtain ⟨info, described⟩ := row
    have written := has.written info
    rw [cpuInfoRows, cpuInfoAccepted]
    refine ⟨has.1, _, write_room has.1 room info, ?_⟩
    cases fold : folds coreRollup lcpu i with
    | true => exact ih written room
    | false =>
      rw [← List.append_assoc]
      refine (written.store_next room described).append fun next has' => ?_
      exact has'.grow positive fun _ grown room' => ih grown room'

/-- A loop that takes all the rows. -/
theorem safe_all {piece : α → List (Op α)}
    (each : ∀ (list : HeapList α) (items : List α) (row : α), list.Has items →
      list.Safe memory (piece row) (Has · (items ++ [row])))
    (has : list.Has items) (rows : List α) : list.Safe memory (rows.flatMap piece) (Has · (items ++ rows)) := by
  have loop := has.rows each rows
  rwa [List.flatMap_singleton'] at loop

/-- A loop that takes the rows that are not skipped. -/
theorem safe_skipping {piece : α → List (Op α)}
    (each : ∀ (list : HeapList α) (items : List α) (row : α), list.Has items →
      list.Safe memory (piece row) (Has · (items ++ [row])))
    (has : list.Has items) (rows : List (Option α)) :
    list.Safe memory (rows.flatMap (unlessSkipped piece)) (Has · (items ++ rows.filterMap id)) := by
  have loop := has.rows (fun _ _ row has => safe_unlessSkipped each has row) rows
  rwa [List.filterMap_eq_flatMap_toList]

theorem safe_requests {requests : List α} (has : list.Has items) (room : list.number + requests.length ≤ list.size) :
    list.Safe memory (requests.flatMap fun ifr => [.store ifr, .next]) (Has · (items ++ requests)) := by
  induction requests generalizing list items with
  | nil =>
    rw [List.append_nil]
    exact has.safe
  | cons ifr requests ih =>
    rw [List.length_cons] at room
    have here : list.number < list.size := by omega
    have rest : (list.pushed ifr).number + requests.length ≤ (list.pushed ifr).size := by
      simp only [pushed]
      omega
    have later := ih (has.pushed here ifr) rest
    rw [List.append_assoc, List.singleton_append] at later
    exact ⟨has.1, _, write_room has.1 here ifr, (has.written ifr).1, _, rfl, later⟩

/-- A call that fills a list starts with an empty one. -/
theorem fill_start (memory : Nat → α) (fill : Fill α) : (fill.start memory).Has [] := by
  cases fill with
  | process kept rows =>
    cases kept with
    | none => exact create_has ..
    | some kept => exact ⟨⟨Nat.zero_le _, kept.property.allocated⟩, rfl⟩
  | argument rows => exact create_has ..
  | cpu coreRollup lcpu rows total => exact create_has ..
  | cpuInfo coreRollup lcpu rows last => exact create_has ..
  | fileSystem rows => exact create_has ..
  | route rows => exact create_has ..
  | interface ifcLen requests filled rows => exact create_has ..
  | connection rows => exact create_has ..
  | who rows => exact create_has ..

/-- The lists of the library are filled as they should be, from the first row to
the last. -/
theorem fill_sound (memory : Nat → α) (fill : Fill α) : Fills memory (fill.start memory) fill.ops fill.accepted := by
  have start := fill_start memory fill
  apply Safe.fills_has
  cases fill with
  | process kept rows => exact safe_skipping (fun _ _ row has => safe_growStore has (by decide) row) start rows
  | argument rows => exact safe_all (fun _ _ row has => safe_growStore has (by decide) row) start rows
  | cpu coreRollup lcpu rows total =>
    cases rows with
    | nil =>
      have room : (create sysmCpuMax memory).number < (create sysmCpuMax memory).size := Nat.zero_lt_succ 3
      exact start.next_store room (start.pushed room total).safe
    | cons row rows =>
      simp only [Fill.ops, Fill.accepted, reduceCtorEq, if_false, List.append_nil]
      exact safe_cpuRows start (Or.inl rfl) (row :: rows)
  | cpuInfo coreRollup lcpu rows last =>
    have room : (create sysmCpuMax memory).number < (create sysmCpuMax memory).size := Nat.zero_lt_succ 3
    exact safe_cpuInfoRows start room rows last
  | fileSystem rows => exact safe_all (fun _ _ row has => safe_growElement has (by decide) row) start rows
  | route rows =>
    rw [Fill.accepted, List.filterMap_eq_flatMap_toList]
    exact start.rows (fun _ _ row has => safe_routeRow has row) rows
  | interface ifcLen requests filled rows =>
    have room : (create ifcLen memory).number + requests.length ≤ (create ifcLen memory).size := by
      simp only [create, filled, sizeofIfreq]
      omega
    refine (safe_requests start room).append fun _ has => ?_
    exact safe_skipping (fun _ _ row has => safe_growStore has (by decide) row) has rows
  | connection rows => exact safe_all (fun _ _ row has => safe_growStore has (by decide) row) start rows
  | who rows => exact safe_skipping (fun _ _ row has => safe_growElement has (by decide) row) start rows

end Rounds

end Sysm
