import Sysm.SysmTables

namespace Sysm
open CString LinkedHeap Machine

section Walks

variable {σ : Type} {add : SysmNetConnection → σ → Option (Int × σ)} {P : σ → Prop} {flags : UInt32} {state state' : σ}

theorem procNetLines_invariant (keeps : ∀ conn state more next, P state → add conn state = some (more, next) → P next)
    {type : UInt32} {lines : List Text} (start : P state) (run : procNetLines add flags type lines state = some state') :
    P state' := by
  induction lines generalizing state with
  | nil =>
    cases run
    exact start
  | cons line lines ih =>
    obtain ⟨parsed, _, run⟩ := Option.bind_eq_some_iff.mp run
    cases parsed with
    | none => exact ih start run
    | some conn =>
      obtain ⟨⟨more, next⟩, added, run⟩ := Option.bind_eq_some_iff.mp run
      have kept := keeps conn state more next start added
      simp only [] at run
      split at run
      · cases run
        exact kept
      · exact ih kept run

theorem procNetRead_invariant (keeps : ∀ conn state more next, P state → add conn state = some (more, next) → P next)
    {type : UInt32} {file : Except Int (List UInt8)} {status : Int} (start : P state)
    (run : procNetRead add flags type file state = some (status, state')) : P state' := by
  cases file with
  | error errno =>
    cases run
    exact start
  | ok stream =>
    obtain ⟨last, lines, run⟩ := Option.bind_eq_some_iff.mp run
    cases run
    exact procNetLines_invariant keeps start lines

theorem procNetBoth_invariant (keeps : ∀ conn state more next, P state → add conn state = some (more, next) → P next)
    {type : UInt32} {file file6 : Except Int (List UInt8)} {status : Int} (start : P state)
    (run : procNetBoth add flags type file file6 state = some (status, state')) : P state' := by
  unfold procNetBoth at run
  split at run
  · cases run
    exact start
  · obtain ⟨⟨first, middle⟩, read, run⟩ := Option.bind_eq_some_iff.mp run
    have kept := procNetRead_invariant keeps start read
    simp only [] at run
    split at run
    · cases run
      exact kept
    · obtain ⟨⟨second, last⟩, read6, run⟩ := Option.bind_eq_some_iff.mp run
      cases run
      exact procNetRead_invariant keeps kept read6

/-- What every row preserves holds after the walk over all tables. -/
theorem sysmNetConnectionWalk_invariant
    (keeps : ∀ conn state more next, P state → add conn state = some (more, next) → P next) {files : NetFiles}
    {status : Int} (start : P state) (run : sysmNetConnectionWalk add flags files state = some (status, state')) :
    P state' := by
  obtain ⟨⟨first, tcp⟩, walked, run⟩ := Option.bind_eq_some_iff.mp run
  have afterTcp := procNetBoth_invariant keeps start walked
  simp only [] at run
  split at run
  · cases run
    exact afterTcp
  · obtain ⟨⟨second, udp⟩, walked, run⟩ := Option.bind_eq_some_iff.mp run
    have afterUdp := procNetBoth_invariant keeps afterTcp walked
    simp only [] at run
    split at run
    · cases run
      exact afterUdp
    · exact procNetBoth_invariant keeps afterUdp run

end Walks

section Sockets

variable {fresh netListen netListen' : Cache SysmNetAddress} {known : List Nat} {sysm sysm' : SysmT}

theorem sysmNetListenAddressAdd_used (used : fresh.Used netListen known) {clock : Clock} {conn : SysmNetConnection}
    (run : sysmNetListenAddressAdd netListen clock conn = some netListen') : ∃ known', fresh.Used netListen' known' := by
  obtain ⟨⟨table, entry⟩, get, run⟩ := Option.bind_eq_some_iff.mp run
  obtain ⟨value, _, run⟩ := Option.bind_eq_some_iff.mp run
  have looked := used.get get
  cases value with
  | none => exact ⟨_, looked.store (by simp) run⟩
  | some address =>
    simp only [] at run
    split at run
    · cases run
      exact ⟨_, looked⟩
    · exact ⟨_, looked.store (by simp) run⟩

theorem netStatTcp_used {walk walk' : NetStatWalk} {conn : SysmNetConnection} (used : fresh.Used walk.netListen known)
    (run : netStatTcp conn walk = some walk') : ∃ known', fresh.Used walk'.netListen known' := by
  obtain ⟨netStat, _, run⟩ := Option.bind_eq_some_iff.mp run
  simp only [] at run
  split at run
  · obtain ⟨table, added, run⟩ := Option.bind_eq_some_iff.mp run
    cases run
    exact sysmNetListenAddressAdd_used used added
  · obtain ⟨⟨table, found⟩, find, run⟩ := Option.bind_eq_some_iff.mp run
    cases run
    exact ⟨_, used.find find⟩

theorem netStatWalker_used {walk walk' : NetStatWalk} {conn : SysmNetConnection} {more : Int}
    (used : ∃ known, fresh.Used walk.netListen known) (run : netStatWalker conn walk = some (more, walk')) :
    ∃ known, fresh.Used walk'.netListen known := by
  obtain ⟨known, used⟩ := used
  unfold netStatWalker at run
  split at run
  · obtain ⟨counted, tcp, run⟩ := Option.bind_eq_some_iff.mp run
    cases run
    have kept := netStatTcp_used used tcp
    exact kept
  · cases run
    exact ⟨known, used⟩

/-- The table of listening ports, as it is made by the first call that needs it. -/
def SysmT.NetListenUsed (sysm : SysmT) : Prop :=
  ∀ table ∈ sysm.netListen, ∃ made known, (sysmCacheNew SysmNetAddress 32 made).Used table known

theorem sysmNetStatGet_used (used : sysm.NetListenUsed) {flags : UInt32} {created : UInt64} {clock : Clock}
    {files : NetFiles} {result : Int × SysmNetStat} (run : sysmNetStatGet sysm flags created clock files = some (result, sysm')) :
    sysm'.NetListenUsed := by
  obtain ⟨made, before⟩ : ∃ made, ∃ known, (sysmCacheNew SysmNetAddress 32 made).Used
      (sysm.netListen.getD (sysmCacheNew _ 32 created)) known := by
    cases atTable : sysm.netListen with
    | none => exact ⟨created, [], .fresh⟩
    | some table => exact used table atTable
  obtain ⟨⟨status, walk⟩, walked, run⟩ := Option.bind_eq_some_iff.mp run
  cases run
  have after := sysmNetConnectionWalk_invariant
    (P := fun walk : NetStatWalk => ∃ known, (sysmCacheNew SysmNetAddress 32 made).Used walk.netListen known)
    (fun conn walk more next kept added => netStatWalker_used kept added) before walked
  intro table atTable
  cases atTable
  exact ⟨made, after⟩

theorem sysmNetListenAddressGet_used (used : sysm.NetListenUsed) {port : UInt64} {address : SysmNetAddress}
    {created : UInt64} {before during after : Clock} {files : NetFiles} {result : Int × SysmNetAddress}
    (run : sysmNetListenAddressGet sysm port address created before during after files = some (result, sysm')) :
    sysm'.NetListenUsed := by
  obtain ⟨⟨isKnown, netListen⟩, find, run⟩ := Option.bind_eq_some_iff.mp run
  have looked : SysmT.NetListenUsed { sysm with netListen } := by
    cases atTable : sysm.netListen with
    | none =>
      rw [atTable] at find
      cases find
      intro table absent
      cases absent
    | some table =>
      rw [atTable] at find
      obtain ⟨⟨table', found⟩, looked, same⟩ := Option.map_eq_some_iff.mp find
      cases same
      obtain ⟨made, known, old⟩ := used table atTable
      intro next atNext
      cases atNext
      exact ⟨made, _, old.find looked⟩
  obtain ⟨⟨status, middle⟩, refresh, run⟩ := Option.bind_eq_some_iff.mp run
  have refreshed : middle.NetListenUsed := by
    cases isKnown with
    | true =>
      cases refresh
      exact looked
    | false =>
      obtain ⟨⟨reply, last⟩, stat, same⟩ := Option.map_eq_some_iff.mp refresh
      cases same
      exact sysmNetStatGet_used looked stat
  simp only [] at run
  split at run
  · cases run
    exact refreshed
  · obtain ⟨table, atTable, run⟩ := Option.bind_eq_some_iff.mp run
    obtain ⟨⟨table', found⟩, again, run⟩ := Option.bind_eq_some_iff.mp run
    obtain ⟨made, known, old⟩ := refreshed table atTable
    have found₂ := old.find again
    cases found with
    | none =>
      cases run
      intro next atNext
      cases atNext
      exact ⟨made, _, found₂⟩
    | some entry =>
      obtain ⟨⟨table'', entry'⟩, get, run⟩ := Option.bind_eq_some_iff.mp run
      obtain ⟨value, _, run⟩ := Option.bind_eq_some_iff.mp run
      obtain ⟨kept, _, run⟩ := Option.bind_eq_some_iff.mp run
      cases run
      intro next atNext
      cases atNext
      exact ⟨made, _, found₂.get get⟩

end Sockets

/-- A call for one part leaves the tables of the others alone. -/
theorem sysmStep_other {sysm sysm' : SysmT} {call : SysmCall} {reply : SysmReply}
    (run : sysmStep sysm call = some (reply, sysm')) {part : SysmPart} (different : part ≠ call.part) :
    part.member.get sysm' = part.member.get sysm := by
  rw [(sysmStep_confines call).next run]
  exact SysmPart.apart call.part part different _ _

theorem sysmStep_procCpu {sysm sysm' : SysmT} {call : SysmCall} {reply : SysmReply} (used : sysm.TablesUsed)
    (run : sysmStep sysm call = some (reply, sysm')) (part : call.part = .processes) :
    ∀ table ∈ sysm'.procCpu, ∃ created known,
      (sysmExpiredCacheNew SysmProcCpu 128 pidCacheCleanupPeriod pidCacheEntryExpirePeriod created).Used table known := by
  cases call with
  | proc event =>
    obtain ⟨pid, now, stat, call⟩ := event
    obtain ⟨⟨result, next⟩, stepped, same⟩ := Option.map_eq_some_iff.mp run
    cases same
    cases call with
    | time =>
      obtain ⟨⟨answer, last⟩, got, same⟩ := Option.map_eq_some_iff.mp stepped
      cases same
      rw [sysmProcTimeGet_procCpu got]
      exact used.procCpu
    | state cpuid status =>
      obtain ⟨⟨answer, last⟩, got, same⟩ := Option.map_eq_some_iff.mp stepped
      cases same
      rw [sysmProcStateGet_procCpu got]
      exact used.procCpu
    | mem statm =>
      obtain ⟨⟨answer, last⟩, got, same⟩ := Option.map_eq_some_iff.mp stepped
      cases same
      rw [sysmProcMemGet_procCpu got]
      exact used.procCpu
    | cpu procCpu clock =>
      obtain ⟨⟨answer, last⟩, got, same⟩ := Option.map_eq_some_iff.mp stepped
      cases same
      exact sysmProcCpuGet_used used got
  | cpu stat =>
    obtain ⟨⟨answer, last⟩, got, same⟩ := Option.map_eq_some_iff.mp run
    cases same
    obtain ⟨result, _, kept⟩ := Option.map_eq_some_iff.mp got
    cases kept
    exact used.procCpu
  | cpus machine call =>
    obtain ⟨⟨answer, last⟩, got, same⟩ := Option.map_eq_some_iff.mp run
    cases same
    rw [foldStep_procCpu got]
    exact used.procCpu
  | procList withList proc memory =>
    obtain ⟨⟨answer, last⟩, got, same⟩ := Option.map_eq_some_iff.mp run
    cases same
    rw [sysmProcListGet_procCpu got]
    exact used.procCpu
  | procStat cpuid proc memory reads =>
    obtain ⟨⟨answer, last⟩, got, same⟩ := Option.map_eq_some_iff.mp run
    cases same
    rw [sysmProcStatGet_procCpu got]
    exact used.procCpu
  | memory | diskUsage | netStat | netListenAddress | pid => cases part

/-- Every call of the library keeps to the operations of the cache. -/
theorem sysmStep_used {sysm sysm' : SysmT} {call : SysmCall} {reply : SysmReply} (used : sysm.TablesUsed)
    (run : sysmStep sysm call = some (reply, sysm')) : sysm'.TablesUsed where
  procCpu := by
    by_cases part : call.part = .processes
    · exact sysmStep_procCpu used run part
    · have same : processMember.get sysm' = processMember.get sysm := sysmStep_other run (Ne.symm part)
      have kept : sysm'.procCpu = sysm.procCpu := congrArg ProcessPart.procCpu same
      rw [kept]
      exact used.procCpu
  fsdev := by
    cases call with
    | diskUsage iostat disks created clock files memory name =>
      obtain ⟨⟨answer, last⟩, got, same⟩ := Option.map_eq_some_iff.mp run
      cases same
      exact sysmDiskUsageGet_used used got
    | proc | cpu | cpus | procList | procStat | memory | netStat | netListenAddress | pid =>
      have same : sysm'.fsdev = sysm.fsdev := @sysmStep_other _ _ _ _ run .disks (by simp [SysmCall.part])
      rw [same]
      exact used.fsdev
  netListen := by
    cases call with
    | netStat flags created clock files =>
      obtain ⟨⟨answer, last⟩, got, same⟩ := Option.map_eq_some_iff.mp run
      cases same
      exact sysmNetStatGet_used used.netListen got
    | netListenAddress port address created before during after files =>
      obtain ⟨⟨answer, last⟩, got, same⟩ := Option.map_eq_some_iff.mp run
      cases same
      exact sysmNetListenAddressGet_used used.netListen got
    | proc | cpu | cpus | procList | procStat | memory | diskUsage | pid =>
      have same : sysm'.netListen = sysm.netListen := @sysmStep_other _ _ _ _ run .sockets (by simp [SysmCall.part])
      rw [same]
      exact used.netListen

variable {α : Type}

/-- A table that was never made needs no destroying. -/
def closeTable (table : Option (Cache α)) : Option (Heap (CacheEntry α) × List α) :=
  match table with
  | none => some ([], [])
  | some table => sysmCacheDestroy table

/-- What `sysm_close` leaves of each table: the entries that are still
allocated and all values that have been freed. -/
structure ClosedSysm where
  procCpu : Heap (CacheEntry SysmProcCpu) × List SysmProcCpu
  fsdev : Heap (CacheEntry SysmIodev) × List SysmIodev
  netListen : Heap (CacheEntry SysmNetAddress) × List SysmNetAddress

/-- `sysm_close` -/
def sysmClose (sysm : SysmT) : Option ClosedSysm := do
  let procCpu ← closeTable sysm.procCpu
  let fsdev ← closeTable sysm.fsdev
  let netListen ← closeTable sysm.netListen
  return ⟨procCpu, fsdev, netListen⟩

theorem closeTable_spec {size : UInt32} (positive : 0 < size.toNat) {cleanUpPeriodMillis entryExpirePeriod : UInt64}
    {kept : Option (Cache α)} (used : ∀ table ∈ kept, ∃ created known,
      (sysmExpiredCacheNew α size cleanUpPeriodMillis entryExpirePeriod created).Used table known) :
    ∃ left, closeTable kept = some left ∧
      ∀ table ∈ kept, table.GivenBack size cleanUpPeriodMillis entryExpirePeriod left.1 left.2 := by
  cases kept with
  | none => exact ⟨_, rfl, by simp⟩
  | some table =>
    obtain ⟨created, known, history⟩ := used table rfl
    obtain ⟨cells, freed, destroyed, back⟩ := history.destroy positive
    refine ⟨(cells, freed), destroyed, fun other same => ?_⟩
    cases same
    exact back

/-- A library that has just been opened has no tables. -/
theorem sysmOpen_used {memory opened : SysmT} {getpagesize : Nat} {ticks : UInt64} {procStat : Except Int (List UInt8)}
    (open_ok : sysmOpen memory getpagesize ticks procStat = .ok opened) : opened.TablesUsed := by
  have fresh : opened.procCpu = none ∧ opened.fsdev = none ∧ opened.netListen = none := by
    unfold sysmOpen at open_ok
    cases boot : sysmBootTimeGet procStat with
    | error errno =>
      rw [boot] at open_ok
      cases open_ok
    | ok bootTime =>
      rw [boot] at open_ok
      cases open_ok
      exact ⟨rfl, rfl, rfl⟩
  exact ⟨by simp [fresh.1], by simp [fresh.2.1], by simp [fresh.2.2]⟩

theorem SysmT.TablesUsed.close {sysm : SysmT} (used : sysm.TablesUsed) : ∃ closed, sysmClose sysm = some closed ∧
    (∀ table ∈ sysm.procCpu,
      table.GivenBack 128 pidCacheCleanupPeriod pidCacheEntryExpirePeriod closed.procCpu.1 closed.procCpu.2) ∧
    (∀ table ∈ sysm.fsdev, table.GivenBack 15 (-1) (-1) closed.fsdev.1 closed.fsdev.2) ∧
    ∀ table ∈ sysm.netListen, table.GivenBack 32 (-1) (-1) closed.netListen.1 closed.netListen.2 := by
  obtain ⟨procCpu, first, backFirst⟩ := closeTable_spec (by decide) used.procCpu
  obtain ⟨fsdev, second, backSecond⟩ := closeTable_spec (by decide) used.fsdev
  obtain ⟨netListen, third, backThird⟩ := closeTable_spec (by decide) used.netListen
  refine ⟨⟨procCpu, fsdev, netListen⟩, ?_, backFirst, backSecond, backThird⟩
  simp only [sysmClose, first, second, third, Option.bind_eq_bind, Option.bind_some, Option.pure_def]

/-- After any run of calls the library can be closed: nothing is freed twice or
used after it was freed, and of each table all is given back but the entries
that were in it at a resize. -/
theorem sysmClose_gives_back {memory opened final : SysmT} {getpagesize : Nat} {ticks : UInt64}
    {procStat : Except Int (List UInt8)} {calls : List SysmCall} {answers : List SysmReply}
    (open_ok : sysmOpen memory getpagesize ticks procStat = .ok opened)
    (ran : run sysmStep opened calls = some (answers, final)) : ∃ closed, sysmClose final = some closed ∧
      (∀ table ∈ final.procCpu,
        table.GivenBack 128 pidCacheCleanupPeriod pidCacheEntryExpirePeriod closed.procCpu.1 closed.procCpu.2) ∧
      (∀ table ∈ final.fsdev, table.GivenBack 15 (-1) (-1) closed.fsdev.1 closed.fsdev.2) ∧
      ∀ table ∈ final.netListen, table.GivenBack 32 (-1) (-1) closed.netListen.1 closed.netListen.2 := by
  have used : final.TablesUsed :=
    @run_invariant _ _ _ sysmStep _ _ calls answers SysmT.TablesUsed
      (fun sysm call reply sysm' before step => sysmStep_used before step) (sysmOpen_used open_ok) ran
  exact used.close

/-- A call of `sysm_proc_cpu_get` for a process that is gone, at a time in milliseconds. -/
def askGoneProcess (pid : Int32) (timeNow : UInt64) : SysmCall :=
  .proc ⟨pid, 0, .missing, .cpu .zero ⟨timeNow, timeNow, timeNow, timeNow, 0⟩⟩

/-- Eleven minutes after the call for process 7 the one for process 8 cleans up,
and the table is made smaller while the entry of process 7 is in it. -/
def askedElevenMinutesLater : List SysmCall :=
  [askGoneProcess 7 5, .pid firstProcess, askGoneProcess 8 660005, askGoneProcess 7 660010]

theorem sysmClose_goneProcess : ∃ answers final closed,
    run sysmStep openedSysm askedElevenMinutesLater = some (answers, final) ∧ sysmClose final = some closed ∧
      (∀ table ∈ final.procCpu,
        table.GivenBack 128 pidCacheCleanupPeriod pidCacheEntryExpirePeriod closed.procCpu.1 closed.procCpu.2) ∧
      (∀ table ∈ final.fsdev, table.GivenBack 15 (-1) (-1) closed.fsdev.1 closed.fsdev.2) ∧
      (∀ table ∈ final.netListen, table.GivenBack 32 (-1) (-1) closed.netListen.1 closed.netListen.2) ∧
        (closed.procCpu.1.map Option.isSome, closed.procCpu.2.length) = ([true, false, false], 2) := by
  have left : ((run sysmStep openedSysm askedElevenMinutesLater).bind fun result => sysmClose result.2).map
      (fun closed => (closed.procCpu.1.map Option.isSome, closed.procCpu.2.length)) = some ([true, false, false], 2) := by
    decide +kernel
  obtain ⟨closed, closes, left⟩ := Option.map_eq_some_iff.mp left
  obtain ⟨⟨answers, final⟩, ran, ends⟩ := Option.bind_eq_some_iff.mp closes
  have open_ok : sysmOpen .zero 4096 100 (.ok []) = .ok openedSysm := rfl
  obtain ⟨closed', ok, procCpu, fsdev, netListen⟩ := sysmClose_gives_back open_ok ran
  cases Option.some.inj (ends.symm.trans ok)
  exact ⟨answers, final, closed, ran, ok, procCpu, fsdev, netListen, left⟩

end Sysm
