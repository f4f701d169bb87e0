import Sysm.GrowLists
import Sysm.Who

namespace Sysm
open HeapList StructArray

section Writes

theorem mountInto_writes (ent : Mntent) : Writes fun data fsp => mountInto data fsp ent := by
  have types (fsType : Nat) := (Writes.copy FileSystem.type.offset (bytesOf 4 fsType)).bind
    (Writes.copyString FileSystem.typeName.offset (fstypeNames.getD fsType []))
  have readType : Reads fun data fsp => fsTypeOf (valueOf (FileSystem.type.of (data.drop fsp)))
      (CString.ofBuffer (data.drop (fsp + FileSystem.sysTypeName.offset))) := by
    intro before data place
    simp only [Nat.add_assoc, List.drop_length_add_append]
  have fsType : Writes sysmFsTypeGet := Writes.read readType types
  exact (Writes.copy _ _).bind ((Writes.copyString _ _).bind ((Writes.copyString _ _).bind ((Writes.copyString _ _).bind
    ((Writes.copyString _ _).bind fsType))))

theorem whocpy_writes (dest : StructArray.Member) (ut : List UInt8) (source : StructArray.Member) :
    Writes fun data who => (whocpy data who dest ut source).map Prod.fst := by
  have ending : Writes fun data who => terminate data (who + dest.offset) dest source := by
    unfold terminate
    by_cases shorter : source.width < dest.width
    · simp only [if_pos shorter, Nat.add_assoc]
      exact Writes.put _ _
    · simp only [if_neg shorter]
      exact Writes.done
  cases found : stringFrom ut source.offset with
  | none =>
    simp only [whocpy, found, Option.bind_eq_bind, Option.bind_none, Option.map_none]
    exact Writes.fault
  | some text =>
    have both := (Writes.copyString dest.offset text).bind ending
    refine cast (congrArg Writes ?_) both
    funext data who
    simp only [whocpy, found, Option.bind_eq_bind, Option.bind_some]
    cases ByteBuffer.copyString data (who + dest.offset) [text] with
    | none => rfl
    | some data =>
      simp only [Option.bind_some]
      cases terminate data (who + dest.offset) dest source <;> rfl

/-- What is written to the element of a record. -/
def whoStore (data : List UInt8) (who : Nat) (ut : List UInt8) : Option (List UInt8) := (whoInto data who ut).map Prod.fst

theorem whoStore_writes (ut : List UInt8) : Writes fun data who => whoStore data who ut := by
  have all := (whocpy_writes Who.user ut Utmp.utUser).bind ((whocpy_writes Who.device ut Utmp.utLine).bind
    ((whocpy_writes Who.host ut Utmp.utHost).bind (Writes.copy Who.time.offset (bytesOf 8 (whoTime ut)))))
  refine cast (congrArg Writes ?_) all
  funext data who
  rw [whoStore, whoInto]
  cases whocpy data who Who.user ut Utmp.utUser with
  | none => rfl
  | some user =>
  cases device : whocpy user.1 who Who.device ut Utmp.utLine with
  | none => simp [device]
  | some device' =>
  cases host : whocpy device'.1 who Who.host ut Utmp.utHost with
  | none => simp [device, host]
  | some host' =>
    simp only [device, host, Option.bind_eq_bind, Option.bind_some, Option.map_some, Option.pure_def]
    cases ByteBuffer.copy host'.1 (who + Who.time.offset) (bytesOf 8 (whoTime ut)) <;> rfl

end Writes

section Arrays

variable {width max : Nat} {memory : Nat → UInt8} {cells : Nat → List UInt8} {array : StructArray}
  {list : HeapList (List UInt8)} {behind written : List UInt8}

/-- The array has the elements of the list as bytes, and room for as many. -/
structure ShowsElements (width : Nat) (array : StructArray) (list : HeapList (List UInt8)) : Prop where
  number : array.number = list.number
  size : array.size = list.size
  allocated : array.data.length = width * array.size
  elements : array.data.take (width * array.number) = list.items.flatten
  sized : ∀ element ∈ list.items, element.length = width

/-- The same in the middle of the loop, with the bytes behind the elements. -/
structure KeepsList (width : Nat) (array : StructArray) (list : HeapList (List UInt8)) (behind : List UInt8) : Prop where
  sound : list.Sound
  number : array.number = list.number
  size : array.size = list.size
  data : array.data = list.items.flatten ++ behind
  sized : ∀ element ∈ list.items, element.length = width
  room : behind.length = width * (list.size - list.number)

/-- The bytes that an element is written to: behind a full array they are new. -/
def spareBytes (width max : Nat) (memory : Nat → UInt8) (number : Nat) (behind : List UInt8) : List UInt8 :=
  if behind = [] then fresh memory (width * number) (width * max) else behind

theorem KeepsList.length (keeps : KeepsList width array list behind) : list.items.flatten.length = width * list.number := by
  rw [length_flatten keeps.sized, keeps.sound.length_items]

theorem KeepsList.shows (keeps : KeepsList width array list behind) : ShowsElements width array list where
  number := keeps.number
  size := keeps.size
  allocated := by
    have bounded := keeps.sound.bounded
    rw [keeps.data, List.length_append, keeps.length, keeps.room, ← Nat.mul_add, keeps.size]
    congr 1
    omega
  elements := by rw [keeps.data, keeps.number, ← keeps.length, List.take_left]
  sized := keeps.sized

theorem create_keeps : KeepsList width (.create width max memory) (create max cells) (fresh memory 0 (width * max)) where
  sound := create_sound max cells
  number := rfl
  size := rfl
  data := rfl
  sized := by simp [HeapList.items, HeapList.create]
  room := length_fresh _ _

/-- An array is full if nothing is behind its elements. -/
theorem KeepsList.full_iff (keeps : KeepsList width array list behind) (wide : 0 < width) :
    array.size ≤ array.number ↔ behind = [] := by
  have room := keeps.room
  rw [keeps.size, keeps.number, ← List.length_eq_zero_iff, room, Nat.mul_eq_zero]
  omega

theorem KeepsList.grown (keeps : KeepsList width array list behind) (wide : 0 < width) :
    (array.growFull width max memory).data = list.items.flatten ++ spareBytes width max memory list.number behind ∧
      (array.growFull width max memory).number = list.number ∧
        (array.growFull width max memory).size = if list.size ≤ list.number then list.size + max else list.size := by
  have full := keeps.full_iff wide
  rw [keeps.size, keeps.number] at full
  rw [StructArray.growFull, spareBytes, keeps.size, keeps.number]
  by_cases noRoom : list.size ≤ list.number
  · have nothing := full.mp noRoom
    have data : array.data = list.items.flatten := by rw [keeps.data, nothing, List.append_nil]
    rw [if_pos noRoom, if_pos noRoom, if_pos nothing, StructArray.grow, data, keeps.length]
    exact ⟨rfl, keeps.number, congrArg (· + max) keeps.size⟩
  · rw [if_neg noRoom, if_neg noRoom, if_neg (mt full.mpr noRoom)]
    exact ⟨keeps.data, keeps.number, keeps.size⟩

theorem growElement_size {element : List UInt8} {list' : HeapList (List UInt8)}
    (run : list.run cells (growElement max element) = some list') :
    list'.size = if list.size ≤ list.number then list.size + max else list.size := by
  obtain ⟨grown, grow, rest⟩ := Option.bind_eq_some_iff.mp run
  have size : grown.size = if list.size ≤ list.number then list.size + max else list.size := by
    rw [step] at grow
    by_cases full : list.size ≤ list.number
    · rw [if_pos full] at grow ⊢
      cases grow
      rfl
    · rw [if_neg full] at grow ⊢
      cases grow
      rfl
  rw [run_next_storeLast] at rest
  obtain ⟨stored, store, counted⟩ := Option.bind_eq_some_iff.mp rest
  obtain ⟨-, written⟩ := Option.ite_none_right_eq_some.mp store
  cases written
  cases counted
  exact size

/-- An element that is written behind the others is one of the list. -/
theorem KeepsList.push (keeps : KeepsList width array list behind) (wide : 0 < width) (positive : 0 < max)
    (length : written.length = (spareBytes width max memory list.number behind).length) :
    ∃ list', list.run cells (growElement max (written.take width)) = some list' ∧ list'.number = list.number + 1 ∧
      KeepsList width ⟨list.number + 1, (array.growFull width max memory).size, list.items.flatten ++ written⟩ list'
        (written.drop width) := by
  have has : list.Has list.items := ⟨keeps.sound, rfl⟩
  obtain ⟨list', run, sound, -, items⟩ := (@safe_growElement _ cells _ _ _ has positive (written.take width)).run
  have number : list'.number = list.number + 1 := by
    rw [← sound.length_items, items, List.length_append, keeps.sound.length_items, List.length_singleton]
  have size := growElement_size run
  have grownSize := (@KeepsList.grown _ max memory _ _ _ keeps wide).2.2
  have full := keeps.full_iff wide
  rw [keeps.size, keeps.number] at full
  have bounded := keeps.sound.bounded
  have all : written.length = width * (list'.size - list.number) := by
    rw [length, spareBytes, size]
    by_cases noRoom : list.size ≤ list.number
    · rw [if_pos (full.mp noRoom), if_pos noRoom, length_fresh]
      congr 1
      omega
    · rw [if_neg (mt full.mpr noRoom), if_neg noRoom, keeps.room]
  have enough : list.number + 1 ≤ list'.size := by rw [← number]; exact sound.bounded
  have split : list'.size - list.number = (list'.size - list'.number) + 1 := by omega
  rw [split, Nat.mul_succ] at all
  refine ⟨list', run, number, sound, number.symm, ?_, ?_, ?_, ?_⟩
  · rw [size]
    exact grownSize
  · rw [items, List.flatten_append, List.flatten_singleton, List.append_assoc, List.take_append_drop]
  · intro element member
    rw [items] at member
    rcases List.mem_append.mp member with before | last
    · exact keeps.sized element before
    · rw [List.mem_singleton.mp last, List.length_take]
      omega
  · rw [List.length_drop]
    omega

/-- One round: the element is written to the bytes behind the others. -/
theorem KeepsList.round {into : List UInt8 → Nat → Option (List UInt8)} (writes : Writes into)
    (keeps : KeepsList width array list behind) (wide : 0 < width) :
    into (array.growFull width max memory).data (width * (array.growFull width max memory).number) =
      (into (spareBytes width max memory list.number behind) 0).map (list.items.flatten ++ ·) := by
  obtain ⟨data, number, -⟩ := @KeepsList.grown _ max memory _ _ _ keeps wide
  rw [data, number, ← keeps.length]
  exact writes.behind _ _ 0

end Arrays

section Mounts

variable {memory : Nat → UInt8} {cells : Nat → List UInt8} {fslist : StructArray} {list : HeapList (List UInt8)}

/-- The bytes of the elements, one for each entry of the table. A string that is
too long goes on behind its element. -/
def mountRows (memory : Nat → UInt8) : Nat → List UInt8 → List Mntent → Option (List (List UInt8))
  | _, _, [] => some []
  | count, behind, ent :: entries => do
    let written ← mountInto (spareBytes sizeofFileSystem sysmFsMax memory count behind) 0 ent
    let rows ← mountRows memory (count + 1) (written.drop sizeofFileSystem) entries
    return written.take sizeofFileSystem :: rows

/-- The rows of `sysm_file_system_list_get`. -/
def fileSystemListFill (memory : Nat → UInt8) (mounted : Except Int (List Mntent)) : Option (Fill (List UInt8)) :=
  match mounted with
  | .error _ => none
  | .ok entries => (mountRows memory 0 (fresh memory 0 (sizeofFileSystem * sysmFsMax)) entries).map .fileSystem

theorem mountEntries_rows {behind : List UInt8} (keeps : KeepsList sizeofFileSystem fslist list behind) (entries : List Mntent) :
    (mountRows memory list.number behind entries = none ∧ entries.foldlM (mountEntry memory) fslist = none) ∨
    ∃ rows fslist' list' behind', mountRows memory list.number behind entries = some rows ∧
      entries.foldlM (mountEntry memory) fslist = some fslist' ∧
      list.run cells (rows.flatMap (growElement sysmFsMax)) = some list' ∧ KeepsList sizeofFileSystem fslist' list' behind' := by
  induction entries generalizing fslist list behind with
  | nil => exact Or.inr ⟨[], fslist, list, behind, rfl, rfl, rfl, keeps⟩
  | cons ent entries ih =>
    have wide : 0 < sizeofFileSystem := by decide
    have written := @KeepsList.round _ sysmFsMax memory _ _ _ _ (mountInto_writes ent) keeps wide
    rw [mountRows, List.foldlM_cons, mountEntry]
    simp only [written, Option.bind_eq_bind]
    cases stored : mountInto (spareBytes sizeofFileSystem sysmFsMax memory list.number behind) 0 ent with
    | none => exact Or.inl ⟨rfl, rfl⟩
    | some written =>
      have length := (mountInto_writes ent).length _ _ _ stored
      obtain ⟨next, run, number, keeps'⟩ := @KeepsList.push _ sysmFsMax memory cells _ _ _ _ keeps wide (by decide) length
      have grown := (@KeepsList.grown _ sysmFsMax memory _ _ _ keeps wide).2.1
      simp only [Option.bind_some, Option.map_some, Option.pure_def, grown]
      rcases ih keeps' with ⟨noRows, fault⟩ | ⟨rows, fslist', list', behind', made, loop, run', keeps''⟩
      · rw [number] at noRows
        exact Or.inl ⟨by rw [noRows]; rfl, fault⟩
      · rw [number] at made
        refine Or.inr ⟨_, fslist', list', behind', by rw [made]; rfl, loop, ?_, keeps''⟩
        rw [List.flatMap_cons, run_append, run, Option.bind_some, run']

theorem sysmFileSystemListGet_fills (memory : Nat → UInt8) (cells : Nat → List UInt8) (mounted : Except Int (List Mntent)) :
    FillsAs (ShowsElements sizeofFileSystem) cells ((sysmFileSystemListGet memory mounted).bind Except.toOption)
      (fileSystemListFill memory mounted) := by
  cases mounted with
  | error errno => exact ⟨rfl, fun state member => absurd member (Option.not_mem_none state)⟩
  | ok entries =>
    have start := @create_keeps sizeofFileSystem sysmFsMax memory cells
    rw [fileSystemListFill, sysmFileSystemListGet]
    rcases @mountEntries_rows memory cells _ _ _ start entries with ⟨made, loop⟩ |
      ⟨rows, fslist, list, behind, made, loop, run, keeps⟩
    · have made : mountRows memory 0 (fresh memory 0 (sizeofFileSystem * sysmFsMax)) entries = none := made
      rw [made, loop]
      exact ⟨rfl, fun state member => absurd member (Option.not_mem_none state)⟩
    · have made : mountRows memory 0 (fresh memory 0 (sizeofFileSystem * sysmFsMax)) entries = some rows := made
      rw [made, loop]
      refine ⟨rfl, fun state atState fill atFill => ?_⟩
      cases Option.mem_some_iff.mp atState
      cases Option.mem_some_iff.mp atFill
      exact ⟨list, run, keeps.shows⟩

end Mounts

section Records

variable {memory : Nat → UInt8} {cells : Nat → List UInt8} {run : WhoRun} {list : HeapList (List UInt8)}

/-- The bytes of the elements of the records that count. -/
def whoRows (memory : Nat → UInt8) : Nat → List UInt8 → List (List UInt8) → Option (List (Option (List UInt8)))
  | _, _, [] => some []
  | count, behind, ut :: records =>
    if Counts ut then do
      let written ← whoStore (spareBytes sizeofWho sysmWhoListMax memory count behind) 0 ut
      let rows ← whoRows memory (count + 1) (written.drop sizeofWho) records
      return some (written.take sizeofWho) :: rows
    else do
      let rows ← whoRows memory count behind records
      return none :: rows

/-- The rows of `sysm_who_list_get`. -/
def whoListFill (memory : Nat → UInt8) (file : Except Int (List UInt8)) : Option (Fill (List UInt8)) :=
  match file with
  | .error _ => none
  | .ok bytes => (whoRows memory 0 (fresh memory 0 (sizeofWho * sysmWhoListMax)) (freadRecords sizeofUtmp bytes)).map .who

theorem utmpRecord_list {ut : List UInt8} (counts : Counts ut) : (utmpRecord memory run ut).map WhoRun.list =
    (whoStore (run.list.growFull sizeofWho sysmWhoListMax memory).data
      (sizeofWho * (run.list.growFull sizeofWho sysmWhoListMax memory).number) ut).map fun data =>
        ⟨(run.list.growFull sizeofWho sysmWhoListMax memory).number + 1,
          (run.list.growFull sizeofWho sysmWhoListMax memory).size, data⟩ := by
  rw [utmpRecord, if_neg counts.1, if_neg (not_not.mpr counts.2), whoStore]
  dsimp only
  cases whoInto (run.list.growFull sizeofWho sysmWhoListMax memory).data
    (sizeofWho * (run.list.growFull sizeofWho sysmWhoListMax memory).number) ut <;> rfl

theorem utmpRecords_rows {behind : List UInt8} (keeps : KeepsList sizeofWho run.list list behind) (records : List (List UInt8)) :
    (whoRows memory list.number behind records = none ∧ records.foldlM (utmpRecord memory) run = none) ∨
    ∃ rows run' list' behind', whoRows memory list.number behind records = some rows ∧
      records.foldlM (utmpRecord memory) run = some run' ∧
      list.run cells (rows.flatMap (unlessSkipped (growElement sysmWhoListMax))) = some list' ∧
        KeepsList sizeofWho run'.list list' behind' := by
  induction records generalizing run list behind with
  | nil => exact Or.inr ⟨[], run, list, behind, by rw [whoRows], rfl, rfl, keeps⟩
  | cons ut records ih =>
    rw [whoRows, List.foldlM_cons]
    by_cases counts : Counts ut
    · have wide : 0 < sizeofWho := by decide
      have written := @KeepsList.round _ sysmWhoListMax memory _ _ _ _ (whoStore_writes ut) keeps wide
      have entry := @utmpRecord_list memory run ut counts
      rw [written, Option.map_map] at entry
      rw [if_pos counts]
      simp only [Option.bind_eq_bind]
      cases stored : whoStore (spareBytes sizeofWho sysmWhoListMax memory list.number behind) 0 ut with
      | none =>
        rw [stored] at entry
        rw [Option.map_eq_none_iff.mp entry]
        exact Or.inl ⟨rfl, rfl⟩
      | some written =>
        rw [stored, Option.map_some] at entry
        obtain ⟨run₁, step, atList⟩ := Option.map_eq_some_iff.mp entry
        have length := (whoStore_writes ut).length _ _ _ stored
        obtain ⟨next, made, number, keeps'⟩ := @KeepsList.push _ sysmWhoListMax memory cells _ _ _ _ keeps wide (by decide) length
        have grown := (@KeepsList.grown _ sysmWhoListMax memory _ _ _ keeps wide).2.1
        rw [Function.comp_apply, grown] at atList
        rw [← atList] at keeps'
        simp only [step, Option.bind_some, Option.pure_def]
        rcases ih keeps' with ⟨noRows, fault⟩ | ⟨rows, run', list', behind', rest, loop, run'', keeps''⟩
        · rw [number] at noRows
          exact Or.inl ⟨by rw [noRows]; rfl, fault⟩
        · rw [number] at rest
          refine Or.inr ⟨_, run', list', behind', by rw [rest]; rfl, loop, ?_, keeps''⟩
          rw [List.flatMap_cons, run_append, unlessSkipped, made, Option.bind_some, run'']
    · rw [if_neg counts, utmpRecord_skips run counts]
      simp only [Option.bind_eq_bind, Option.bind_some]
      rcases ih keeps with ⟨noRows, fault⟩ | ⟨rows, run', list', behind', rest, loop, run'', keeps'⟩
      · exact Or.inl ⟨by rw [noRows]; rfl, fault⟩
      · exact Or.inr ⟨none :: rows, run', list', behind', by rw [rest]; rfl, loop, run'', keeps'⟩

theorem sysmWhoListGet_fills (memory : Nat → UInt8) (cells : Nat → List UInt8) (file : Except Int (List UInt8)) :
    FillsAs (ShowsElements sizeofWho) cells
      (((sysmWhoListGet memory file).bind Except.toOption).map WhoRun.list) (whoListFill memory file) := by
  cases file with
  | error errno => exact ⟨rfl, fun state member => absurd member (Option.not_mem_none state)⟩
  | ok bytes =>
    have start := @create_keeps sizeofWho sysmWhoListMax memory cells
    rw [whoListFill, sysmWhoListGet, sysmWhoUtmp]
    rcases @utmpRecords_rows memory cells ⟨.create sizeofWho sysmWhoListMax memory, []⟩ _ _ start (freadRecords sizeofUtmp bytes) with
      ⟨made, loop⟩ | ⟨rows, run, list, behind, made, loop, filled, keeps⟩
    · have made : whoRows memory 0 (fresh memory 0 (sizeofWho * sysmWhoListMax)) (freadRecords sizeofUtmp bytes) = none := made
      rw [made, loop]
      exact ⟨rfl, fun state member => absurd member (Option.not_mem_none state)⟩
    · have made : whoRows memory 0 (fresh memory 0 (sizeofWho * sysmWhoListMax)) (freadRecords sizeofUtmp bytes) = some rows := made
      rw [made, loop]
      refine ⟨rfl, fun state atState fill atFill => ?_⟩
      cases Option.mem_some_iff.mp atState
      cases Option.mem_some_iff.mp atFill
      exact ⟨list, filled, keeps.shows⟩

end Records

/-- The lists of the library, each with the rows of its call. The elements of the
last two are kept byte by byte. -/
structure ListsFilled : Prop where
  process (sysm : SysmT) (withList : Bool) (proc : ProcFiles) (memory : Nat → Int32) :
    FillsAs IsHeapList memory ((sysmProcListGet sysm withList proc memory).map fun result => result.1.2)
      (procListFill sysm withList proc)
  argument (memory : Nat → CString.Text) (reads : List (List UInt8)) :
    FillsAs IsHeapList memory ((sysmProcArgsGet memory (.ok reads)).map Prod.snd) (procArgsFill reads)
  cpu (sysm : SysmT) (cpuid : UInt32 → SysmCpuid) (memory : Nat → SysmCpu) (stat : Except Int (List UInt8)) :
    FillsAs IsHeapList memory ((sysmCpuListGet sysm cpuid memory stat).bind fun result => result.1.toOption)
      (cpuListFill sysm cpuid stat)
  cpuInfo (sysm : SysmT) (cpuid : UInt32 → SysmCpuid) (conf : UInt32) (files : CString.Text → FileRead)
    (memory : Nat → SysmCpuInfo) (cpuinfo : Except Int (List UInt8)) :
    FillsAs IsHeapList memory ((sysmCpuInfoListGet sysm cpuid conf files memory cpuinfo).bind fun result => result.1.toOption)
      (cpuInfoListFill sysm cpuid conf files memory cpuinfo)
  route (memory : Nat → SysmNetRoute) (file : Except Int (List UInt8)) :
    FillsAs IsHeapList memory ((sysmNetRouteListGet memory file).bind Except.toOption) (netRouteListFill memory file)
  interface (memory : Nat → CString.Text) (requests : Nat → Ifreq) (socket : Except Int Unit) (answers : List IoctlAnswer)
    (procNetDev : Option (List UInt8)) (conf : Ifconf) :
    FillsAs IsHeapList memory
      ((sysmNetInterfaceListGet memory requests socket answers procNetDev conf).bind fun result => result.2.toOption)
      (netInterfaceListFill requests socket answers procNetDev conf)
  connection (memory : Nat → SysmNetConnection) (flags : UInt32) (files : NetFiles) :
    FillsAs IsHeapList memory ((sysmNetConnectionListGet memory flags files).bind listOfCall) (netConnectionListFill flags files)
  fileSystem (memory : Nat → UInt8) (cells : Nat → List UInt8) (mounted : Except Int (List Mntent)) :
    FillsAs (ShowsElements sizeofFileSystem) cells ((sysmFileSystemListGet memory mounted).bind Except.toOption)
      (fileSystemListFill memory mounted)
  who (memory : Nat → UInt8) (cells : Nat → List UInt8) (file : Except Int (List UInt8)) :
    FillsAs (ShowsElements sizeofWho) cells (((sysmWhoListGet memory file).bind Except.toOption).map WhoRun.list)
      (whoListFill memory file)

/-- Every fill keeps its list as it should be from the first row to the last, and
each call of the library leaves what a fill with its rows leaves: it returns
exactly if these rows can be made. -/
theorem growLists_filled :
    (∀ (α : Type) (memory : Nat → α) (fill : Fill α), Fills memory (fill.start memory) fill.ops fill.accepted) ∧ ListsFilled where
  left _ memory fill := fill_sound memory fill
  right := {
    process := sysmProcListGet_fills
    argument := sysmProcArgsGet_fills
    cpu := sysmCpuListGet_fills
    cpuInfo := sysmCpuInfoListGet_fills
    route := sysmNetRouteListGet_fills
    interface := sysmNetInterfaceListGet_fills
    connection := sysmNetConnectionListGet_fills
    fileSystem := sysmFileSystemListGet_fills
    who := sysmWhoListGet_fills }

end Sysm
