import Sysm.CacheHistory
import Sysm.SysmCalls

namespace Sysm
open CString Machine

/-- The tables of `sysm_t` have come about from new ones by the operations of
the cache alone. -/
structure SysmT.TablesUsed (sysm : SysmT) : Prop where
  procCpu : ∀ table ∈ sysm.procCpu, ∃ created known,
    (sysmExpiredCacheNew SysmProcCpu 128 pidCacheCleanupPeriod pidCacheEntryExpirePeriod created).Used table known
  fsdev : ∀ table ∈ sysm.fsdev, ∃ created known, (sysmCacheNew SysmIodev 15 created).Used table known
  netListen : ∀ table ∈ sysm.netListen, ∃ created known, (sysmCacheNew SysmNetAddress 32 created).Used table known

section Processes

variable {sysm sysm' : SysmT}

theorem procStatRead_procCpu {pid : Int32} {timenow : Int} {stat : FileRead} {status : Int}
    (run : procStatRead sysm pid timenow stat = some (status, sysm')) : sysm'.procCpu = sysm.procCpu := by
  rw [procStatRead_frame run]

theorem sysmProcTimeGet_procCpu {pid : Int32} {timenow : Int} {stat : FileRead} {result : Except Int SysmProcTime}
    (run : sysmProcTimeGet sysm pid timenow stat = some (result, sysm')) : sysm'.procCpu = sysm.procCpu := by
  obtain ⟨status, read, _⟩ := sysmProcTimeGet_cases run
  exact procStatRead_procCpu read

theorem sysmProcMemGet_procCpu {pid : Int32} {timenow : Int} {stat statm : FileRead} {result : Except Int SysmProcMem}
    (run : sysmProcMemGet sysm pid timenow stat statm = some (result, sysm')) : sysm'.procCpu = sysm.procCpu := by
  obtain ⟨⟨status, middle⟩, read, run⟩ := Option.bind_eq_some_iff.mp run
  obtain ⟨file, _, run⟩ := Option.bind_eq_some_iff.mp run
  rw [← procStatRead_procCpu read]
  cases file with
  | error status =>
    cases run
    rfl
  | ok ptr =>
    cases run
    rfl

theorem sysmCpuCoreRollup_procCpu (sysm : SysmT) (cpuid : UInt32 → SysmCpuid) :
    (sysmCpuCoreRollup sysm cpuid).2.procCpu = sysm.procCpu := by
  rw [sysmCpuCoreRollup, sysmCpuCoreCount_eq]

theorem sysmProcStateGet_procCpu {cpuid : UInt32 → SysmCpuid} {pid : Int32} {timenow : Int} {stat status : FileRead}
    {result : Except Int SysmProcState} (run : sysmProcStateGet sysm cpuid pid timenow stat status = some (result, sysm')) :
    sysm'.procCpu = sysm.procCpu := by
  obtain ⟨read, middle, atRead, ⟨_, _, rfl⟩ | ⟨_, rfl, _⟩⟩ := sysmProcStateGet_cases run
  · exact procStatRead_procCpu atRead
  · rw [sysmCpuCoreRollup_procCpu, procStatRead_procCpu atRead]

theorem foldStep_procCpu {machine : CpuMachine} {call : FoldCall} {reply : FoldReply × Option Bool}
    (run : foldStep machine sysm call = some (reply, sysm')) : sysm'.procCpu = sysm.procCpu := by
  obtain ⟨⟨answer, next⟩, result, same⟩ := Option.map_eq_some_iff.mp run
  cases same
  have rollup := sysmCpuCoreRollup_procCpu sysm machine.cpuid
  cases call with
  | list memory =>
    obtain ⟨⟨cpuList, last⟩, listed, same⟩ := Option.map_eq_some_iff.mp result
    cases same
    unfold sysmCpuListGet at listed
    cases stat : machine.stat with
    | error errno =>
      rw [stat] at listed
      cases listed
      exact rollup
    | ok stream =>
      rw [stat] at listed
      obtain ⟨lines, _, listed⟩ := Option.bind_eq_some_iff.mp listed
      split at listed
      · obtain ⟨total, _, listed⟩ := Option.bind_eq_some_iff.mp listed
        obtain ⟨stored, _, listed⟩ := Option.bind_eq_some_iff.mp listed
        cases listed
        exact rollup
      · cases listed
        exact rollup
  | infoList memory =>
    obtain ⟨⟨cpuInfos, last⟩, listed, same⟩ := Option.map_eq_some_iff.mp result
    cases same
    unfold sysmCpuInfoListGet at listed
    cases cpuinfo : machine.cpuinfo with
    | error errno =>
      rw [cpuinfo] at listed
      cases listed
      exact rollup
    | ok stream =>
      rw [cpuinfo] at listed
      obtain ⟨rounds, _, listed⟩ := Option.bind_eq_some_iff.mp listed
      cases listed
      exact rollup
  | state pid timenow =>
    obtain ⟨⟨procState, last⟩, got, same⟩ := Option.map_eq_some_iff.mp result
    cases same
    exact sysmProcStateGet_procCpu got

theorem sysmOsProcListGet_procCpu {proc : ProcFiles} {memory : Nat → Int32} {procList : GrowList Int32}
    {result : Int × GrowList Int32} (run : sysmOsProcListGet sysm proc memory procList = some (result, sysm')) :
    sysm'.procCpu = sysm.procCpu := by
  unfold sysmOsProcListGet at run
  cases atNames : proc.names with
  | error errno =>
    rw [atNames] at run
    cases run
    rfl
  | ok names =>
    rw [atNames] at run
    have scan {middle : SysmT} (run : (procListEntries middle proc.stat memory procList names).bind
        (fun procList => some ((0, procList), middle)) = some (result, sysm')) : sysm'.procCpu = middle.procCpu := by
      obtain ⟨listed, _, run⟩ := Option.bind_eq_some_iff.mp run
      cases run
      rfl
    by_cases unknown : (!sysm.hasNptl && sysm.procSignalOffset == -1) = true
    · simp only [if_pos unknown] at run
      obtain ⟨middle, offset, run⟩ := Option.bind_eq_some_iff.mp run
      obtain ⟨_, _, rfl⟩ := Option.map_eq_some_iff.mp offset
      have kept := scan run
      exact kept
    · simp only [if_neg unknown] at run
      exact scan run

theorem sysmProcListGet_procCpu {withList : Bool} {proc : ProcFiles} {memory : Nat → Int32} {result : Int × GrowList Int32}
    (run : sysmProcListGet sysm withList proc memory = some (result, sysm')) : sysm'.procCpu = sysm.procCpu := by
  unfold sysmProcListGet at run
  split at run
  · exact sysmOsProcListGet_procCpu run
  · obtain ⟨⟨listed, middle⟩, os, run⟩ := Option.bind_eq_some_iff.mp run
    cases run
    show middle.procCpu = sysm.procCpu
    exact sysmOsProcListGet_procCpu os

theorem procStatLoop_procCpu {cpuid : UInt32 → SysmCpuid} {pids : GrowList Int32} {reads : Nat → ProcRead}
    {procStat : SysmProcStat} {places : List Nat} {result : SysmProcStat}
    (run : procStatLoop cpuid pids reads procStat sysm places = some (result, sysm')) : sysm'.procCpu = sysm.procCpu := by
  induction places generalizing procStat sysm with
  | nil =>
    cases run
    rfl
  | cons i places ih =>
    obtain ⟨⟨answer, next⟩, at', run⟩ := Option.bind_eq_some_iff.mp run
    obtain ⟨pid, _, got⟩ := Option.bind_eq_some_iff.mp at'
    rw [← sysmProcStateGet_procCpu got]
    cases answer with
    | error code => exact ih run
    | ok state => exact ih run

theorem sysmProcStatGet_procCpu {cpuid : UInt32 → SysmCpuid} {proc : ProcFiles} {memory : Nat → Int32}
    {reads : Nat → ProcRead} {result : Int × SysmProcStat}
    (run : sysmProcStatGet sysm cpuid proc memory reads = some (result, sysm')) : sysm'.procCpu = sysm.procCpu := by
  cases listed : sysmProcListGet sysm false proc memory with
  | none =>
    rw [sysmProcStatGet, listed] at run
    cases run
  | some got =>
    obtain ⟨⟨status, pids⟩, middle⟩ := got
    rw [← sysmProcListGet_procCpu listed]
    simp only [sysmProcStatGet, listed, Option.bind_eq_bind, Option.bind_some] at run
    split at run
    · cases run
      rfl
    · obtain ⟨⟨procStat, last⟩, looped, run⟩ := Option.bind_eq_some_iff.mp run
      cases run
      exact procStatLoop_procCpu looped

/-- The two stores of `sysm_proc_cpu_get` go through the pointer that its
lookup has returned. -/
theorem sysmProcCpuGet_used (used : sysm.TablesUsed) {pid : Int32} {procCpu : SysmProcCpu} {clock : CpuClock}
    {stat : FileRead} {result : Int × SysmProcCpu} (run : sysmProcCpuGet sysm pid procCpu clock stat = some (result, sysm')) :
    ∀ table ∈ sysm'.procCpu, ∃ created known,
      (sysmExpiredCacheNew SysmProcCpu 128 pidCacheCleanupPeriod pidCacheEntryExpirePeriod created).Used table known := by
  obtain ⟨⟨got, entry, prev⟩, found, run⟩ := Option.bind_eq_some_iff.mp run
  obtain ⟨⟨table, address⟩, get, found⟩ := Option.bind_eq_some_iff.mp found
  obtain ⟨value, _, found⟩ := Option.bind_eq_some_iff.mp found
  cases found
  obtain ⟨created, known, before⟩ : ∃ created known, (sysmExpiredCacheNew SysmProcCpu 128 pidCacheCleanupPeriod
      pidCacheEntryExpirePeriod created).Used (sysm.procCpuTable clock.created) known := by
    cases atTable : sysm.procCpu with
    | none =>
      rw [SysmT.procCpuTable, atTable]
      exact ⟨clock.created, [], .fresh⟩
    | some table =>
      rw [SysmT.procCpuTable, atTable]
      exact used.procCpu table atTable
  have looked := before.get get
  obtain ⟨first, store, run⟩ := Option.bind_eq_some_iff.mp run
  have stored := looked.store (by simp) store
  split at run
  · cases run
    intro table atTable
    cases atTable
    exact ⟨created, _, stored⟩
  · obtain ⟨⟨answer, middle⟩, time, run⟩ := Option.bind_eq_some_iff.mp run
    cases answer with
    | error status =>
      cases run
      intro table atTable
      rw [sysmProcTimeGet_procCpu time] at atTable
      cases atTable
      exact ⟨created, _, stored⟩
    | ok time =>
      obtain ⟨second, again, run⟩ := Option.bind_eq_some_iff.mp run
      cases run
      intro table atTable
      cases atTable
      exact ⟨created, _, stored.store (by simp) again⟩

end Processes

section Disks

variable {fresh fsdev fsdev' : Cache SysmIodev} {known : List Nat}

theorem iodevNew_used (used : fresh.Used fsdev known) {entry : Nat} (member : entry ∈ known) {name : Text}
    {isPartition : Bool} {iodev : SysmIodev} (run : iodevNew fsdev entry name isPartition = some (fsdev', iodev)) :
    fresh.Used fsdev' known := by
  unfold iodevNew at run
  split at run
  · obtain ⟨stored, store, run⟩ := Option.bind_eq_some_iff.mp run
    cases run
    exact used.store member store
  · cases run

theorem iodevMount_used (used : fresh.Used fsdev known) {clock : Clock} {fsp : SysmFileSystem} {sb : Stat}
    (run : iodevMount fsdev clock fsp sb = some fsdev') : ∃ more, fresh.Used fsdev' (known ++ more) := by
  obtain ⟨⟨table, ent⟩, get, run⟩ := Option.bind_eq_some_iff.mp run
  obtain ⟨value, _, run⟩ := Option.bind_eq_some_iff.mp run
  have looked := used.get get
  cases value with
  | some iodev =>
    cases run
    exact ⟨_, looked⟩
  | none =>
    simp only [] at run
    split at run
    · obtain ⟨⟨table', iodev⟩, made, run⟩ := Option.bind_eq_some_iff.mp run
      cases run
      exact ⟨_, iodevNew_used looked (by simp) made⟩
    · cases run
      exact ⟨_, looked⟩

theorem iodevMounts_used {stat : Text → Option Stat} {clock : Clock} {fslist : List SysmFileSystem}
    (used : fresh.Used fsdev known) (run : iodevMounts stat fsdev clock fslist = some fsdev') :
    ∃ more, fresh.Used fsdev' (known ++ more) := by
  induction fslist generalizing fsdev clock known with
  | nil =>
    cases run
    exact ⟨[], by simpa using used⟩
  | cons fsp fslist ih =>
    rw [iodevMounts] at run
    split at run
    · split at run
      · exact ih used run
      · obtain ⟨mounted, mount, run⟩ := Option.bind_eq_some_iff.mp run
        obtain ⟨first, after⟩ := iodevMount_used used mount
        obtain ⟨later, atEnd⟩ := ih after run
        exact ⟨first ++ later, by rw [← List.append_assoc]; exact atEnd⟩
    · exact ih used run

theorem iodevFind_used (used : fresh.Used fsdev known) {entry : Nat} (member : entry ∈ known) {disks : Disks}
    {clock : Clock} {dirname : Text} {isDev : Bool} {found : Option (Nat × SysmIodev)}
    (run : iodevFind fsdev entry disks clock dirname isDev = some (found, fsdev')) :
    (∃ more, fresh.Used fsdev' (known ++ more)) ∧ ∀ pair ∈ found, pair.1 = entry := by
  unfold iodevFind at run
  split at run
  · obtain ⟨⟨table, iodev⟩, made, run⟩ := Option.bind_eq_some_iff.mp run
    cases run
    refine ⟨⟨[], by simpa using iodevNew_used used member made⟩, fun pair same => ?_⟩
    cases same
    rfl
  · split at run
    · cases run
      exact ⟨⟨[], by simpa using used⟩, by simp⟩
    · obtain ⟨mounted, mounts, run⟩ := Option.bind_eq_some_iff.mp run
      obtain ⟨value, _, run⟩ := Option.bind_eq_some_iff.mp run
      have after := iodevMounts_used used mounts
      cases value with
      | none =>
        cases run
        exact ⟨after, by simp⟩
      | some iodev =>
        cases run
        refine ⟨after, fun pair same => ?_⟩
        split at same
        · cases same
          rfl
        · cases same

/-- The table of devices, with the pointer that a call returns among the known ones. -/
def SysmT.FsdevUsed (sysm : SysmT) (found : Option (Nat × SysmIodev)) : Prop :=
  ∀ table ∈ sysm.fsdev, ∃ created known, (sysmCacheNew SysmIodev 15 created).Used table known ∧
    ∀ pair ∈ found, pair.1 ∈ known

variable {sysm sysm' : SysmT} {disks : Disks} {created : UInt64} {clock : Clock}

theorem sysmIodevGet_used (used : sysm.TablesUsed) {dirname : Text} {found : Option (Nat × SysmIodev)}
    (run : sysmIodevGet sysm disks created clock dirname = some (found, sysm')) : sysm'.FsdevUsed found := by
  obtain ⟨made, known, before⟩ : ∃ made known,
      (sysmCacheNew SysmIodev 15 made).Used (sysm.fsdev.getD (sysmCacheNew _ 15 created)) known := by
    cases atTable : sysm.fsdev with
    | none => exact ⟨created, [], .fresh⟩
    | some table => exact used.fsdev table atTable
  simp only [sysmIodevGet] at run
  cases atPath : disks.stat (iodevPath dirname).1 with
  | none =>
    rw [atPath] at run
    cases run
    intro table atTable
    cases atTable
    exact ⟨made, known, before, by simp⟩
  | some sb =>
    rw [atPath] at run
    obtain ⟨⟨table, entry⟩, get, run⟩ := Option.bind_eq_some_iff.mp run
    obtain ⟨value, _, run⟩ := Option.bind_eq_some_iff.mp run
    have looked := before.get get
    cases value with
    | some iodev =>
      cases run
      intro table' atTable
      cases atTable
      exact ⟨made, _, looked, by simp⟩
    | none =>
      obtain ⟨⟨result, table'⟩, find, run⟩ := Option.bind_eq_some_iff.mp run
      cases run
      obtain ⟨⟨more, after⟩, same⟩ := iodevFind_used looked (by simp) find
      intro table'' atTable
      cases atTable
      refine ⟨made, _, after, fun pair member => ?_⟩
      rw [same pair member]
      simp

theorem getIostatSys_used (used : sysm.TablesUsed) {block : Text → FileRead} {dirname : Text} {disk : SysmDiskUsage}
    {result : Int × SysmDiskUsage × Option (Nat × SysmIodev)}
    (run : getIostatSys sysm disks created clock block dirname disk = some (result, sysm')) : sysm'.FsdevUsed result.2.2 := by
  obtain ⟨⟨found, middle⟩, get, run⟩ := Option.bind_eq_some_iff.mp run
  have looked := sysmIodevGet_used used get
  cases found with
  | none =>
    cases run
    intro table atTable
    obtain ⟨made, known, after, _⟩ := looked table atTable
    exact ⟨made, known, after, by simp⟩
  | some pair =>
    obtain ⟨entry, iodev⟩ := pair
    simp only [] at run
    split at run
    · cases run
    · obtain ⟨table, atTable, run⟩ := Option.bind_eq_some_iff.mp run
      obtain ⟨stored, store, run⟩ := Option.bind_eq_some_iff.mp run
      obtain ⟨file, _, run⟩ := Option.bind_eq_some_iff.mp run
      obtain ⟨made, known, after, member⟩ := looked table atTable
      have inKnown : entry ∈ known := member (entry, iodev) rfl
      have kept := after.store inKnown store
      cases file with
      | error status =>
        cases run
        intro table' atTable'
        cases atTable'
        refine ⟨made, known, kept, fun pair same => ?_⟩
        cases same
        exact inKnown
      | ok dev =>
        cases run
        intro table' atTable'
        cases atTable'
        refine ⟨made, known, kept, fun pair same => ?_⟩
        cases same
        exact inKnown

theorem iostatGet_used (used : sysm.TablesUsed) {iostat : Iostat} {files : UsageFiles} {memory : List Text → Nat → UInt64}
    {name : Text} {result : Dstat × Option (Nat × SysmIodev)}
    (run : iostatGet sysm iostat disks created clock files memory name = some (result, sysm')) :
    sysm'.FsdevUsed result.2 := by
  cases iostat with
  | none =>
    cases run
    intro table atTable
    obtain ⟨made, known, after⟩ := used.fsdev table atTable
    exact ⟨made, known, after, by simp⟩
  | sys =>
    obtain ⟨⟨answer, middle⟩, get, run⟩ := Option.map_eq_some_iff.mp run
    cases run
    exact getIostatSys_used used get
  | diskstats =>
    obtain ⟨⟨found, middle⟩, get, run⟩ := Option.bind_eq_some_iff.mp run
    cases run
    exact sysmIodevGet_used used get
  | partitions =>
    obtain ⟨⟨answer, middle⟩, get, run⟩ := Option.map_eq_some_iff.mp run
    cases run
    obtain ⟨⟨found, last⟩, get, run⟩ := Option.bind_eq_some_iff.mp get
    cases run
    exact sysmIodevGet_used used get

theorem sysmDiskUsageGet_used (used : sysm.TablesUsed) {iostat : Iostat} {files : UsageFiles}
    {memory : List Text → Nat → UInt64} {name : Text} {result : Int × SysmDiskUsage}
    (run : sysmDiskUsageGet sysm iostat disks created clock files memory name = some (result, sysm')) :
    ∀ table ∈ sysm'.fsdev, ∃ made known, (sysmCacheNew SysmIodev 15 made).Used table known := by
  obtain ⟨⟨⟨answer, found⟩, middle⟩, get, run⟩ := Option.bind_eq_some_iff.mp run
  have looked := iostatGet_used used get
  have unchanged : ∀ table ∈ middle.fsdev, ∃ made known, (sysmCacheNew SysmIodev 15 made).Used table known := by
    intro table atTable
    obtain ⟨made, known, after, _⟩ := looked table atTable
    exact ⟨made, known, after⟩
  cases found with
  | none =>
    cases run
    exact unchanged
  | some pair =>
    obtain ⟨entry, iodev⟩ := pair
    simp only [] at run
    split at run
    · obtain ⟨usage, _, run⟩ := Option.bind_eq_some_iff.mp run
      obtain ⟨table, atTable, run⟩ := Option.bind_eq_some_iff.mp run
      obtain ⟨stored, store, run⟩ := Option.bind_eq_some_iff.mp run
      cases run
      obtain ⟨made, known, after, member⟩ := looked table atTable
      intro table' atTable'
      cases atTable'
      exact ⟨made, known, after.store (member (entry, iodev) rfl) store⟩
    · cases run
      exact unchanged

end Disks

end Sysm
