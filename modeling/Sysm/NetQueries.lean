import Sysm.GrowLists
import Sysm.NetConservation
import Sysm.NetLines

namespace Sysm
open CString

/-- The row is one that a walk with these flags asks for. -/
def SysmNetConnection.selectedBy (flags : UInt32) (conn : SysmNetConnection) : Bool :=
  conn.type &&& flags != 0 && netconnSelects flags conn.rePort

/-- The row of the server of a port, as `proc_net_walker` tests for it. -/
def SysmNetConnection.serves (port : UInt64) (conn : SysmNetConnection) : Bool := conn.loPort == port && conn.rePort == 0

section Fewer

variable {all flags type : UInt32} {conns : List SysmNetConnection}

/-- A bit that is asked for with fewer flags is asked for with all of them. -/
theorem asked_of_fewer (fewer : flags &&& all = flags) {bit : UInt32} (asked : flags &&& bit ≠ 0) : all &&& bit ≠ 0 := by
  intro zero
  apply asked
  rw [← fewer, UInt32.and_assoc, zero, UInt32.and_zero]

theorem netconnSelects_of_fewer (fewer : flags &&& all = flags) {rePort : UInt64} (selected : netconnSelects flags rePort = true) :
    netconnSelects all rePort = true := by
  simp only [netconnSelects, Bool.or_eq_true, Bool.and_eq_true, bne_iff_ne, ne_eq, beq_iff_eq] at selected ⊢
  rcases selected with ⟨client, asked⟩ | ⟨server, asked⟩
  · exact Or.inl ⟨client, asked_of_fewer fewer asked⟩
  · exact Or.inr ⟨server, asked_of_fewer fewer asked⟩

/-- The record has the port that the flags are tested with, and the type of the table. -/
theorem procNetLine_rePort {line : Text} {conn : SysmNetConnection} (run : procNetLine flags type line = some (some conn)) :
    conn.rePort = rePortAt line ∧ conn.type = type := by
  by_cases selected : netconnSelects flags (rePortAt line) = true
  · rw [procNetLine_selected selected] at run
    obtain ⟨loAddress, -, run⟩ := Option.bind_eq_some_iff.mp run
    obtain ⟨reAddress, -, run⟩ := Option.bind_eq_some_iff.mp run
    obtain ⟨state, -, run⟩ := Option.bind_eq_some_iff.mp run
    obtain ⟨behind, -, run⟩ := Option.bind_eq_some_iff.mp run
    obtain ⟨seQ, -, run⟩ := Option.bind_eq_some_iff.mp run
    obtain ⟨receive, -, run⟩ := Option.bind_eq_some_iff.mp run
    obtain ⟨reQ, -, run⟩ := Option.bind_eq_some_iff.mp run
    obtain ⟨timer, -, run⟩ := Option.bind_eq_some_iff.mp run
    cases run
    exact ⟨rfl, rfl⟩
  · rw [procNetLine_passed selected] at run
    cases run

/-- With fewer flags a line is parsed in the same way, or passed. -/
theorem procNetLine_fewer (fewer : flags &&& all = flags) {line : Text} {row : Option SysmNetConnection}
    (run : procNetLine all type line = some row) :
    procNetLine flags type line = some (row.filter fun conn => netconnSelects flags conn.rePort) := by
  by_cases selected : netconnSelects flags (rePortAt line) = true
  · have before := netconnSelects_of_fewer fewer selected
    have same : procNetLine flags type line = procNetLine all type line := by
      rw [procNetLine_selected selected, procNetLine_selected before]
    obtain ⟨-, conn, state, rfl, -⟩ := procNetLine_room before run
    rw [same, run, Option.filter_some, (procNetLine_rePort run).1, if_pos selected]
  · rw [procNetLine_passed selected]
    cases row with
    | none => rfl
    | some conn => rw [Option.filter_some, (procNetLine_rePort run).1, if_neg selected]

theorem procNetLines_fewer (fewer : flags &&& all = flags) {lines : List Text}
    (run : procNetLines collectRow all type lines [] = some conns) :
    procNetLines collectRow flags type lines [] = some (conns.filter fun conn => netconnSelects flags conn.rePort) := by
  induction lines generalizing conns with
  | nil =>
    cases Option.some.inj run
    rfl
  | cons line lines ih =>
    obtain ⟨row, parsed, rest⟩ := Option.bind_eq_some_iff.mp run
    simp only [procNetLines, procNetLine_fewer fewer parsed, Option.bind_eq_bind, Option.bind_some]
    cases row with
    | none => exact ih rest
    | some conn =>
      simp only [collectRow, List.nil_append, Option.bind_eq_bind, Option.bind_some, ne_eq, not_true_eq_false, if_false] at rest
      rw [procNetLines_grows all type lines [conn]] at rest
      obtain ⟨later, others, rfl⟩ := Option.map_eq_some_iff.mp rest
      have rows := ih others
      by_cases selected : netconnSelects flags conn.rePort = true
      · simp only [Option.filter_some, selected, if_true, collectRow, List.nil_append, Option.bind_some, ne_eq,
          not_true_eq_false, if_false]
        rw [procNetLines_grows flags type lines [conn], rows, Option.map_some, List.filter_append,
          List.filter_cons_of_pos (by exact selected), List.filter_nil]
      · simp only [Option.filter_some, selected, Bool.false_eq_true, if_false]
        rw [rows, List.filter_append, List.filter_cons_of_neg (by exact selected), List.filter_nil, List.nil_append]

/-- The rows of one table are of its type. -/
theorem procNetRead_type {file : Except Int (List UInt8)} {status : Int}
    (run : procNetRead collectRow all type file [] = some (status, conns)) : ∀ conn ∈ conns, conn.type = type :=
  procNetRead_each (fun _ _ parsed => (procNetLine_rePort parsed).2) run (by simp)

theorem procNetRead_fewer (fewer : flags &&& all = flags) (asked : flags &&& type ≠ 0) {file : Except Int (List UInt8)}
    {status : Int} (run : procNetRead collectRow all type file [] = some (status, conns)) :
    procNetRead collectRow flags type file [] = some (status, conns.filter (·.selectedBy flags)) := by
  have rows : conns.filter (·.selectedBy flags) = conns.filter fun conn => netconnSelects flags conn.rePort := by
    refine List.filter_congr fun conn member => ?_
    have here : (conn.type &&& flags != 0) = true := by
      rw [procNetRead_type run conn member, UInt32.and_comm, bne_iff_ne]
      exact asked
    rw [SysmNetConnection.selectedBy, here, Bool.true_and]
  rw [rows]
  cases file with
  | error errno =>
    cases Option.some.inj run
    rfl
  | ok stream =>
    obtain ⟨lines, walked, same⟩ := Option.bind_eq_some_iff.mp run
    cases Option.some.inj same
    simp only [procNetRead, procNetLines_fewer fewer walked, Option.bind_eq_bind, Option.bind_some, Option.pure_def]

theorem collectRow_goesOn : NeverStops collectRow := by
  intro conn state more next run
  cases Option.some.inj run
  rfl

/-- Two parts of a walk that are both successful have their rows one after the other. -/
theorem collects_append {walk walk' : List SysmNetConnection → Option (Int × List SysmNetConnection)}
    (grows : ∀ rows, walk' rows = (walk' []).map fun result => (result.1, rows ++ result.2))
    (run : andThen walk walk' [] = some (0, conns)) :
    ∃ front back, walk [] = some (0, front) ∧ walk' [] = some (0, back) ∧ conns = front ++ back := by
  obtain ⟨⟨status, front⟩, first, rest⟩ := Option.bind_eq_some_iff.mp run
  by_cases failed : status ≠ 0
  · simp only [if_pos failed, Option.pure_def, Option.some.injEq, Prod.mk.injEq] at rest
    exact absurd rest.1 failed
  · simp only [if_neg failed] at rest
    rw [grows front] at rest
    obtain ⟨⟨status', back⟩, second, same⟩ := Option.map_eq_some_iff.mp rest
    rw [not_not] at failed
    cases same
    exact ⟨front, back, failed ▸ first, second, rfl⟩

theorem andThen_append {walk walk' : List SysmNetConnection → Option (Int × List SysmNetConnection)}
    {front back : List SysmNetConnection}
    (grows : ∀ rows, walk' rows = (walk' []).map fun result => (result.1, rows ++ result.2))
    (first : walk [] = some (0, front)) (second : walk' [] = some (0, back)) :
    andThen walk walk' [] = some (0, front ++ back) := by
  simp only [andThen, first, Option.bind_eq_bind, Option.bind_some, ne_eq, not_true_eq_false, if_false]
  rw [grows front, second, Option.map_some]

/-- The status of the second table of a protocol. -/
def missingIsFine {σ : Type} (result : Int × σ) : Int × σ := (if result.1 = ENOENT then 0 else result.1, result.2)

theorem procNetBoth_asked {σ : Type} {add : SysmNetConnection → σ → Option (Int × σ)} (asked : flags &&& type ≠ 0)
    (file file6 : Except Int (List UInt8)) : procNetBoth add flags type file file6 =
      andThen (procNetRead add flags type file) fun state => (procNetRead add flags type file6 state).map missingIsFine := by
  funext state
  simp only [procNetBoth, if_neg asked, andThen, Option.map_eq_bind]
  rfl

theorem procNetRead_grows (flags type : UInt32) (file : Except Int (List UInt8)) (rows : List SysmNetConnection) :
    (procNetRead collectRow flags type file rows).map missingIsFine =
      ((procNetRead collectRow flags type file []).map missingIsFine).map fun result => (result.1, rows ++ result.2) := by
  rw [(procNetRead_collects collectRow_goesOn flags type file).grows rows, Option.map_map, Option.map_map]
  rfl

theorem procNetBoth_fewer (fewer : flags &&& all = flags) {file file6 : Except Int (List UInt8)}
    (run : procNetBoth collectRow all type file file6 [] = some (0, conns)) :
    procNetBoth collectRow flags type file file6 [] = some (0, conns.filter (·.selectedBy flags)) := by
  by_cases asked : flags &&& type = 0
  · have ofType : ∀ conn ∈ conns, conn.type = type :=
      procNetBoth_each (fun _ _ parsed => (procNetLine_rePort parsed).2) run (by simp)
    have empty : conns.filter (·.selectedBy flags) = [] := by
      refine List.filter_eq_nil_iff.mpr fun conn member => ?_
      simp [SysmNetConnection.selectedBy, ofType conn member, UInt32.and_comm type flags, asked]
    rw [empty, procNetBoth, if_pos asked]
  · rw [procNetBoth_asked (asked_of_fewer fewer asked)] at run
    obtain ⟨front, back, first, second, rfl⟩ := collects_append (procNetRead_grows all type file6) run
    obtain ⟨⟨status, rows⟩, read6, fine⟩ := Option.map_eq_some_iff.mp second
    have front' := procNetRead_fewer fewer asked first
    have back' := procNetRead_fewer fewer asked read6
    rw [missingIsFine, Prod.mk.injEq] at fine
    obtain ⟨fine, rfl⟩ := fine
    rw [procNetBoth_asked asked, List.filter_append]
    refine andThen_append (procNetRead_grows flags type file6) front' ?_
    rw [back', Option.map_some, missingIsFine, fine]

/-- A walk that asks for less hands over those rows of the larger walk that it
asks for, in their order. -/
theorem parsedRows_fewer (fewer : flags &&& all = flags) {files : NetFiles} (run : parsedRows all files = some (0, conns)) :
    parsedRows flags files = some (0, conns.filter (·.selectedBy flags)) := by
  have grows (flags type : UInt32) (file file6 : Except Int (List UInt8)) :=
    (procNetBoth_collects collectRow_goesOn flags type file file6).grows
  have later (flags : UInt32) := ((procNetBoth_collects collectRow_goesOn flags netconnUdp files.udp files.udp6).andThen
    collectRow_goesOn (procNetBoth_collects collectRow_goesOn flags netconnRaw files.raw files.raw6)).grows
  obtain ⟨tcp, others, first, rest, rfl⟩ := collects_append (later all) run
  obtain ⟨udp, raw, second, third, rfl⟩ := collects_append (grows all netconnRaw files.raw files.raw6) rest
  rw [List.filter_append, List.filter_append]
  exact andThen_append (later flags) (procNetBoth_fewer fewer first)
    (andThen_append (grows flags netconnRaw files.raw files.raw6) (procNetBoth_fewer fewer second) (procNetBoth_fewer fewer third))

end Fewer

section List

variable {memory : Nat → SysmNetConnection} {flags : UInt32} {files : NetFiles} {rows : List SysmNetConnection}

/-- The list has the rows that the walk parses. -/
theorem sysmNetConnectionListGet_rows (parsed : parsedRows flags files = some (0, rows)) :
    ∃ connList, sysmNetConnectionListGet memory flags files = some (0, connList) ∧ connList.items = rows := by
  rcases sysmNetConnectionListGet_walked memory flags files with ⟨fault, -⟩ | ⟨status, others, walked, connList, filled, get⟩
  · rw [fault] at parsed
    cases parsed
  · rw [walked] at parsed
    cases parsed
    exact ⟨connList, get, filled.items⟩

/-- Conversely a list has been filled with the parsed rows. -/
theorem parsedRows_of_list {connList : GrowList SysmNetConnection}
    (listed : sysmNetConnectionListGet memory flags files = some (0, connList)) :
    parsedRows flags files = some (0, connList.items) := by
  rcases sysmNetConnectionListGet_walked memory flags files with ⟨-, fault⟩ | ⟨status, rows, walked, filledList, filled, get⟩
  · rw [fault] at listed
    cases listed
  · rw [get] at listed
    cases listed
    rw [walked]
    exact congrArg (fun items => some ((0 : Int), items)) filled.items.symm

end List

section Server

variable {port : UInt64}

/-- A part of the walk for one record: the record becomes that of a server
among the rows, or stays if there is none. -/
def FindsServer (port : UInt64) (walk : NetConnGetter → Option (Int × NetConnGetter))
    (collect : List SysmNetConnection → Option (Int × List SysmNetConnection)) : Prop :=
  ∀ status rows, collect [] = some (status, rows) → ∀ old, ∃ conn, walk ⟨none, old, port⟩ = some (status, ⟨none, conn, port⟩) ∧
    ((∀ row ∈ rows, ¬row.serves port) ∧ conn = old ∨ conn ∈ rows ∧ conn.serves port)

theorem procNetLines_findsServer (flags type : UInt32) {lines : List Text} {rows : List SysmNetConnection}
    (run : procNetLines collectRow flags type lines [] = some rows) (old : SysmNetConnection) :
    procNetLines procNetWalker flags type lines ⟨none, old, port⟩ = some ⟨none, (rows.find? (·.serves port)).getD old, port⟩ := by
  have walked : ∀ conns, procNetLines collectRow flags type lines [] = some conns →
      procNetLines procNetWalker flags type lines ⟨none, old, port⟩ = handOver procNetWalker conns ⟨none, old, port⟩ := by
    clear run
    induction lines with
    | nil =>
      intro conns run
      cases Option.some.inj run
      rfl
    | cons line lines ih =>
      intro conns run
      obtain ⟨row, parsed, rest⟩ := Option.bind_eq_some_iff.mp run
      cases row with
      | none => simpa only [procNetLines, parsed, Option.bind_eq_bind, Option.bind_some] using ih conns rest
      | some conn =>
        simp only [collectRow, List.nil_append, Option.bind_eq_bind, Option.bind_some, ne_eq, not_true_eq_false, if_false] at rest
        rw [procNetLines_grows flags type lines [conn]] at rest
        obtain ⟨later, others, rfl⟩ := Option.map_eq_some_iff.mp rest
        have behind := ih later others
        simp only [procNetLines, parsed, Option.bind_eq_bind, Option.bind_some, List.singleton_append, handOver]
        by_cases server : port = conn.loPort ∧ conn.rePort = 0
        · have stop : procNetWalker conn ⟨none, old, port⟩ = some (1, ⟨none, conn, port⟩) := if_pos server
          rw [stop]
          rfl
        · have goOn : procNetWalker conn ⟨none, old, port⟩ = some (0, ⟨none, old, port⟩) := if_neg server
          rw [goOn]
          exact behind
  rw [walked rows run]
  exact handOver_procNetWalker rows old port

theorem procNetRead_findsServer (flags type : UInt32) (file : Except Int (List UInt8)) :
    FindsServer port (procNetRead procNetWalker flags type file) (procNetRead collectRow flags type file) := by
  intro status rows run old
  cases file with
  | error errno =>
    cases Option.some.inj run
    exact ⟨old, rfl, Or.inl ⟨by simp, rfl⟩⟩
  | ok stream =>
    obtain ⟨lines, walked, same⟩ := Option.bind_eq_some_iff.mp run
    cases Option.some.inj same
    refine ⟨(rows.find? (·.serves port)).getD old, ?_, ?_⟩
    · simp only [procNetRead, procNetLines_findsServer flags type walked old, Option.bind_eq_bind, Option.bind_some,
        Option.pure_def]
    · cases found : rows.find? (·.serves port) with
      | none => exact Or.inl ⟨List.find?_eq_none.mp found, rfl⟩
      | some conn => exact Or.inr ⟨List.mem_of_find?_eq_some found, List.find?_some found⟩

variable {walk walk' : NetConnGetter → Option (Int × NetConnGetter)}
  {collect collect' : List SysmNetConnection → Option (Int × List SysmNetConnection)}

theorem FindsServer.mapStatus (finds : FindsServer port walk collect) :
    FindsServer port (fun state => (walk state).map missingIsFine) fun rows => (collect rows).map missingIsFine := by
  intro status rows run old
  obtain ⟨⟨first, read⟩, collected, same⟩ := Option.map_eq_some_iff.mp run
  cases same
  obtain ⟨conn, walked, found⟩ := finds first read collected old
  refine ⟨conn, ?_, found⟩
  simp only [walked, Option.map_some, missingIsFine]

/-- The record of a server stays unless there is another one later on. -/
theorem FindsServer.andThen (finds : FindsServer port walk collect) (finds' : FindsServer port walk' collect')
    (grows : ∀ rows, collect' rows = (collect' []).map fun result => (result.1, rows ++ result.2)) :
    FindsServer port (andThen walk walk') (Sysm.andThen collect collect') := by
  intro status rows run old
  obtain ⟨⟨first, front⟩, read, rest⟩ := Option.bind_eq_some_iff.mp run
  obtain ⟨conn, walked, found⟩ := finds first front read old
  by_cases failed : first ≠ 0
  · simp only [if_pos failed, Option.pure_def, Option.some.injEq, Prod.mk.injEq] at rest
    obtain ⟨rfl, rfl⟩ := rest
    refine ⟨conn, ?_, found⟩
    simp only [Sysm.andThen, walked, Option.bind_eq_bind, Option.bind_some, if_pos failed, Option.pure_def]
  · simp only [if_neg failed] at rest
    rw [grows front] at rest
    obtain ⟨⟨second, back⟩, read', same⟩ := Option.map_eq_some_iff.mp rest
    cases same
    obtain ⟨last, walked', found'⟩ := finds' second back read' conn
    refine ⟨last, ?_, ?_⟩
    · simp only [Sysm.andThen, walked, Option.bind_eq_bind, Option.bind_some, if_neg failed, walked']
    · rcases found' with ⟨absent', rfl⟩ | ⟨member, serves⟩
      · rcases found with ⟨absent, rfl⟩ | ⟨member, serves⟩
        · refine Or.inl ⟨fun row member => ?_, rfl⟩
          rcases List.mem_append.mp member with here | there
          · exact absent row here
          · exact absent' row there
        · exact Or.inr ⟨List.mem_append_left _ member, serves⟩
      · exact Or.inr ⟨List.mem_append_right _ member, serves⟩

theorem procNetBoth_findsServer (flags type : UInt32) (file file6 : Except Int (List UInt8)) :
    FindsServer port (procNetBoth procNetWalker flags type file file6) (procNetBoth collectRow flags type file file6) := by
  by_cases asked : flags &&& type = 0
  · intro status rows run old
    rw [procNetBoth, if_pos asked] at run
    cases Option.some.inj run
    exact ⟨old, if_pos asked, Or.inl ⟨by simp, rfl⟩⟩
  · rw [procNetBoth_asked asked, procNetBoth_asked asked]
    exact (procNetRead_findsServer flags type file).andThen (procNetRead_findsServer flags type file6).mapStatus
      (procNetRead_grows flags type file6)

/-- `sysm_net_connection_get` copies a record of the server that the walk finds. -/
theorem sysmNetConnectionGet_server {flags : UInt32} {files : NetFiles} {status : Int} {rows : List SysmNetConnection}
    (parsed : parsedRows flags files = some (status, rows)) (old : SysmNetConnection) (port : UInt64) :
    ∃ conn, sysmNetConnectionGet old port flags files = some (status, conn) ∧
      ((∀ row ∈ rows, ¬row.serves port) ∧ conn = old ∨ conn ∈ rows ∧ conn.serves port) := by
  have raw := @procNetBoth_findsServer port flags netconnRaw files.raw files.raw6
  have others := (procNetBoth_findsServer flags netconnUdp files.udp files.udp6).andThen raw
    (procNetBoth_collects collectRow_goesOn flags netconnRaw files.raw files.raw6).grows
  have whole := (procNetBoth_findsServer flags netconnTcp files.tcp files.tcp6).andThen others
    ((procNetBoth_collects collectRow_goesOn flags netconnUdp files.udp files.udp6).andThen collectRow_goesOn
      (procNetBoth_collects collectRow_goesOn flags netconnRaw files.raw files.raw6)).grows
  obtain ⟨conn, walked, found⟩ := whole status rows parsed old
  refine ⟨conn, ?_, found⟩
  have walked : sysmNetConnectionWalk procNetWalker flags files ⟨none, old, port⟩ = some (status, ⟨none, conn, port⟩) := walked
  rw [sysmNetConnectionGet, walked, Option.map_some]

end Server

/-- What `net_stat_walker` keeps holds of the record that is returned. -/
theorem sysmNetStatGet_walked {flags : UInt32} {files : NetFiles} {status : Int} {rows : List SysmNetConnection}
    (parsed : parsedRows flags files = some (status, rows)) (inside : ∀ conn ∈ rows, conn.StateInside) {sysm : SysmT}
    (listens : sysm.ListensWell) (created : UInt64) (clock : Clock) : ∃ walk : NetStatWalk, walk.Conserves rows ∧
      sysmNetStatGet sysm flags created clock files =
        some ((status, walk.netStat), { sysm with netListen := some walk.netListen }) := by
  have repr : ∃ chains, (sysm.netListen.getD (sysmCacheNew _ 32 created)).Repr chains := by
    cases table : sysm.netListen with
    | none => exact ⟨_, sysmExpiredCacheNew_repr 32 (-1) (-1) created (by decide)⟩
    | some netListen => exact listens netListen table
  have start : NetStatWalk.Conserves ⟨sysm.netListen.getD (sysmCacheNew _ 32 created), .zero, clock⟩ [] :=
    ⟨repr, countsStates_zero, by simp [tcpRows], ⟨0, 0, rfl, rfl, rfl⟩, rfl, rfl⟩
  obtain ⟨walk, run, conserves⟩ :=
    handOver_invariant (fun _ _ _ holds inside => netStatWalker_conserves holds inside) start inside
  refine ⟨walk, conserves, ?_⟩
  simp only [sysmNetStatGet, sysmNetConnectionWalk_parsedRows netStatWalker_goesOn, parsed, Option.bind_eq_bind,
    Option.bind_some, run, Option.map_some, Option.pure_def]

/-- What the queries with the flags answer when the tables hold these rows, as
the list of the connections has them. -/
structure QueriesAnswer (flags : UInt32) (files : NetFiles) (rows : List SysmNetConnection) : Prop where
  list : ∀ memory, ∃ connList, sysmNetConnectionListGet memory flags files = some (0, connList) ∧ connList.items = rows
  server : ∀ old port, ∃ conn, sysmNetConnectionGet old port flags files = some (0, conn) ∧
    ((∀ row ∈ rows, ¬row.serves port) ∧ conn = old ∨ conn ∈ rows ∧ conn.serves port)
  stat : (∀ conn ∈ rows, conn.StateInside) → ∀ sysm : SysmT, sysm.ListensWell → ∀ created clock, ∃ netStat sysm',
    sysmNetStatGet sysm flags created clock files = some ((0, netStat), sysm') ∧
      netStat.CountsStates (tcpRows rows) ∧ netStat.Conserved rows
  port : (∀ conn ∈ rows, conn.StateInside) → ∀ address port, ∃ netStat,
    sysmNetStatPortGet flags address port files = some (0, netStat) ∧ netStat.PortConserved address port rows

theorem queriesAnswer_of_parsed {flags : UInt32} {files : NetFiles} {rows : List SysmNetConnection}
    (parsed : parsedRows flags files = some (0, rows)) : QueriesAnswer flags files rows where
  list memory := sysmNetConnectionListGet_rows parsed
  server := sysmNetConnectionGet_server parsed
  stat inside sysm listens created clock := by
    obtain ⟨walk, conserves, run⟩ := sysmNetStatGet_walked parsed inside listens created clock
    exact ⟨walk.netStat, _, run, conserves.states, conserves.conserved⟩
  port inside := sysmNetStatPortGet_conserved parsed inside

end Sysm
