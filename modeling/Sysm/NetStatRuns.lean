import Sysm.Lib.OnePass
import Sysm.NetListens
import Sysm.NetRows

namespace Sysm

/-- A row in LISTEN state -/
def NetRow.listens (row : NetRow) : Bool := row.state == 10

/-- The local port as the key in the table of listening ports -/
def NetRow.port (row : NetRow) : UInt64 := row.loPort.toUInt64

theorem connection_state (row : NetRow) (type : UInt32) :
    (row.connection type).state.toInt = row.state.toNat := by
  have bound := row.state.toNat_lt
  have small : row.state.toUInt32.toBitVec.toNat < 2 ^ 31 := by
    rw [UInt32.toNat_toBitVec, UInt8.toNat_toUInt32]
    omega
  have value : (row.connection type).state.toInt = row.state.toUInt32.toBitVec.toInt := rfl
  rw [value, BitVec.toInt_eq_toNat_of_lt (by omega), UInt32.toNat_toBitVec, UInt8.toNat_toUInt32]

theorem connection_listens (row : NetRow) (type : UInt32) :
    (row.connection type).state = tcpListen ↔ row.listens = true := by
  rw [NetRow.listens, beq_iff_eq, ← Int32.toInt_inj, connection_state, ← UInt8.toNat_inj]
  have listen : tcpListen.toInt = 10 := by decide
  have ten : (10 : UInt8).toNat = 10 := by decide
  omega

/-- The number of each state is counted, as long as there is a place for it. -/
theorem countState_connection (netStat : SysmNetStat) {row : NetRow} (type : UInt32) (valid : row.state < 14) :
    ∃ netStat', netStat.countState (row.connection type).state = some netStat' ∧
      netStat'.tcpInboundTotal = netStat.tcpInboundTotal ∧ netStat'.tcpOutboundTotal = netStat.tcpOutboundTotal := by
  have bound : row.state.toNat < 14 := UInt8.lt_iff_toNat_lt.mp valid
  have value := connection_state row type
  have inArray : 0 ≤ (row.connection type).state.toInt ∧ (row.connection type).state.toInt.toNat < 14 := by omega
  rw [SysmNetStat.countState, dif_pos inArray]
  exact ⟨_, rfl, rfl, rfl⟩

/-- What the rows have added to the totals, an answer `true` being an inbound one. -/
structure NetStatWalk.Counts (walk : NetStatWalk) (answers : List Bool) (walk' : NetStatWalk) : Prop where
  inbound : walk'.netStat.tcpInboundTotal = walk.netStat.tcpInboundTotal + UInt32.ofNat (answers.count true)
  outbound : walk'.netStat.tcpOutboundTotal = walk.netStat.tcpOutboundTotal + UInt32.ofNat (answers.count false)

theorem NetStatWalk.Counts.trans {a b c : NetStatWalk} {first second : List Bool} (before : a.Counts first b)
    (after : b.Counts second c) : a.Counts (first ++ second) c where
  inbound := by rw [after.inbound, before.inbound, List.count_append, UInt32.ofNat_add, UInt32.add_assoc]
  outbound := by rw [after.outbound, before.outbound, List.count_append, UInt32.ofNat_add, UInt32.add_assoc]

/-- The totals over all protocols are those of TCP. -/
def NetStatWalk.Level (walk : NetStatWalk) : Prop :=
  walk.netStat.allInboundTotal = walk.netStat.tcpInboundTotal ∧
    walk.netStat.allOutboundTotal = walk.netStat.tcpOutboundTotal

variable {ports : List UInt64} {walk : NetStatWalk}

theorem netStatTcp_row (holds : walk.netListen.HoldsKeys 32 ports) {row : NetRow} (valid : row.state < 14)
    (fits : (OnePass.seenAfter NetRow.listens NetRow.port ports [row]).dedup.length ≤ 32) :
    ∃ walk', netStatTcp (row.connection netconnTcp) walk = some walk' ∧
      walk'.netListen.HoldsKeys 32 (OnePass.seenAfter NetRow.listens NetRow.port ports [row]) ∧
        walk.Counts (OnePass.answers NetRow.listens NetRow.port ports [row]) walk' := by
  obtain ⟨netStat, counted, inbound, outbound⟩ := countState_connection walk.netStat netconnTcp valid
  have atPort : (row.connection netconnTcp).loPort = row.port := rfl
  have atListen := connection_listens row netconnTcp
  simp only [netStatTcp, counted, Option.bind_eq_bind, Option.bind_some, Option.pure_def]
  cases listens : row.listens with
  | true =>
    have seen : OnePass.seenAfter NetRow.listens NetRow.port ports [row] = row.port :: ports := by
      simp [OnePass.seenAfter, listens]
    have silent : OnePass.answers NetRow.listens NetRow.port ports [row] = [] := by
      simp [OnePass.answers, listens]
    rw [seen, silent]
    have room : ((row.connection netconnTcp).loPort :: ports).dedup.length ≤ (32 : UInt32).toNat := seen ▸ fits
    obtain ⟨netListen, add, holds'⟩ := sysmNetListenAddressAdd_spec holds walk.clock room
    refine ⟨⟨netListen, netStat, walk.clock.later⟩, ?_, holds', ?_⟩
    · rw [if_pos (atListen.mpr listens), add, Option.bind_some]
    · exact ⟨by simpa using inbound, by simpa using outbound⟩
  | false =>
    have seen : OnePass.seenAfter NetRow.listens NetRow.port ports [row] = ports := by
      simp [OnePass.seenAfter, listens]
    have answer : OnePass.answers NetRow.listens NetRow.port ports [row] = [decide (row.port ∈ ports)] := by
      simp [OnePass.answers, listens]
    rw [seen, answer]
    have notListen : ¬ (row.connection netconnTcp).state = tcpListen := by
      rw [atListen, listens]
      exact Bool.false_ne_true
    obtain ⟨netListen, found, find, holds', known⟩ := holds.find row.port (walk.clock 0) (walk.clock 1)
    simp only [if_neg notListen, atPort, find, Option.bind_some]
    by_cases member : row.port ∈ ports
    · rw [if_pos (known.mpr member)]
      refine ⟨_, rfl, holds', ?_⟩
      exact ⟨by simp [member, inbound], by simp [member, outbound]⟩
    · rw [if_neg fun isFound => member (known.mp isFound)]
      refine ⟨_, rfl, holds', ?_⟩
      exact ⟨by simp [member, inbound], by simp [member, outbound]⟩

theorem netStatWalker_row (holds : walk.netListen.HoldsKeys 32 ports) {row : NetRow} (valid : row.state < 14)
    (fits : (OnePass.seenAfter NetRow.listens NetRow.port ports [row]).dedup.length ≤ 32) :
    ∃ walk', netStatWalker (row.connection netconnTcp) walk = some (0, walk') ∧
      walk'.netListen.HoldsKeys 32 (OnePass.seenAfter NetRow.listens NetRow.port ports [row]) ∧
        walk.Counts (OnePass.answers NetRow.listens NetRow.port ports [row]) walk' ∧ walk'.Level := by
  obtain ⟨walk', step, holds', counts⟩ := netStatTcp_row holds valid fits
  have isTcp : (row.connection netconnTcp).type = netconnTcp := rfl
  refine ⟨walk'.setTotals, ?_, holds', ⟨counts.inbound, counts.outbound⟩, rfl, rfl⟩
  simp only [netStatWalker, isTcp, if_true, step, Option.bind_eq_bind, Option.bind_some, Option.pure_def]

theorem dedup_length_le {keys others : List UInt64} (sub : keys ⊆ others) : keys.dedup.length ≤ others.dedup.length :=
  (List.subperm_of_subset keys.nodup_dedup fun _ member =>
    List.mem_dedup.mpr (sub (List.mem_dedup.mp member))).length_le

theorem seenAfter_subset (ports : List UInt64) (rows others : List NetRow) :
    OnePass.seenAfter NetRow.listens NetRow.port ports rows ⊆
      OnePass.seenAfter NetRow.listens NetRow.port ports (rows ++ others) := by
  intro port member
  rw [OnePass.seenAfter_append, OnePass.mem_seenAfter]
  exact Or.inr member

/-- All the rows of a table. -/
theorem handOver_netStatWalker {rows : List NetRow} (valid : ∀ row ∈ rows, row.state < 14)
    (fits : (OnePass.seenAfter NetRow.listens NetRow.port ports rows).dedup.length ≤ 32)
    (holds : walk.netListen.HoldsKeys 32 ports) (level : walk.Level) :
    ∃ walk', handOver netStatWalker (rows.map fun row => row.connection netconnTcp) walk = some walk' ∧
      walk'.netListen.HoldsKeys 32 (OnePass.seenAfter NetRow.listens NetRow.port ports rows) ∧
        walk.Counts (OnePass.answers NetRow.listens NetRow.port ports rows) walk' ∧ walk'.Level := by
  induction rows generalizing ports walk with
  | nil => exact ⟨walk, rfl, holds, ⟨by simp [OnePass.answers], by simp [OnePass.answers]⟩, level⟩
  | cons row rows ih =>
    have first := dedup_length_le (seenAfter_subset ports [row] rows)
    rw [List.singleton_append] at first
    obtain ⟨middle, step, holds₁, counts₁, level₁⟩ := netStatWalker_row holds (valid row (by simp)) (by omega)
    have split : OnePass.seenAfter NetRow.listens NetRow.port ports (row :: rows) =
        OnePass.seenAfter NetRow.listens NetRow.port
          (OnePass.seenAfter NetRow.listens NetRow.port ports [row]) rows :=
      OnePass.seenAfter_append ports [row] rows
    rw [split] at fits ⊢
    obtain ⟨walk', run, holds₂, counts₂, level₂⟩ :=
      ih (fun other member => valid other (by simp [member])) fits holds₁ level₁
    refine ⟨walk', ?_, holds₂, ?_, level₂⟩
    · simp only [List.map_cons, handOver, step, Option.bind_eq_bind, Option.bind_some, ne_eq, not_true_eq_false, if_false,
        run]
    · have joined := counts₁.trans counts₂
      rwa [← OnePass.answers_append, List.singleton_append] at joined

/-- Some row of the table is in LISTEN state on the local port of this one. -/
def NetRow.served (rows : List NetRow) (row : NetRow) : Bool :=
  rows.any fun other => other.listens && other.port == row.port

theorem NetRow.served_eq (rows : List NetRow) (row : NetRow) :
    row.served rows = decide (OnePass.Marked NetRow.listens NetRow.port rows row.port) := by
  rw [Bool.eq_iff_iff, decide_eq_true_eq]
  simp [served, OnePass.Marked]

/-- The rows that a look at the whole table tells to be inbound. -/
def inboundRows (rows : List NetRow) : Nat := rows.countP fun row => !row.listens && row.served rows

/-- The other rows that are not in LISTEN state. -/
def outboundRows (rows : List NetRow) : Nat := rows.countP fun row => !row.listens && !row.served rows

theorem served_perm {rows others : List NetRow} (same : rows.Perm others) (row : NetRow) :
    row.served rows = row.served others := same.any_eq

theorem inboundRows_perm {rows others : List NetRow} (same : rows.Perm others) :
    inboundRows rows = inboundRows others := by
  simp only [inboundRows, served_perm same]
  exact same.countP_eq _

theorem outboundRows_perm {rows others : List NetRow} (same : rows.Perm others) :
    outboundRows rows = outboundRows others := by
  simp only [outboundRows, served_perm same]
  exact same.countP_eq _

theorem count_lookups_rows (rows : List NetRow) :
    (OnePass.lookups NetRow.listens NetRow.port rows rows).count true = inboundRows rows ∧
      (OnePass.lookups NetRow.listens NetRow.port rows rows).count false = outboundRows rows := by
  simp [OnePass.count_lookups, ← NetRow.served_eq, inboundRows, outboundRows]

/-- A call of `sysm_net_stat_get` with what the files hold at that time. There
may be no table for IPv6. -/
structure NetStatCall where
  tcp : NetTable
  tcp6 : Option NetTable
  others : NetFiles
  created : UInt64
  clock : Clock
  known : ∀ row ∈ tcp.rows, row.state < 14
  known6 : ∀ table ∈ tcp6, ∀ row ∈ table.rows, row.state < 14

namespace NetStatCall

variable (call : NetStatCall)

/-- The rows in the order in which they are read. -/
def rows : List NetRow := call.tcp.rows ++ (call.tcp6.map NetTable.rows).getD []

def files : NetFiles :=
  { call.others with
    tcp := .ok call.tcp.bytes
    tcp6 := match call.tcp6 with
      | some table => .ok table.bytes
      | none => .error ENOENT }

end NetStatCall

/-- `SYSM_NETCONN_CLIENT | SYSM_NETCONN_SERVER | SYSM_NETCONN_TCP` -/
def clientServerTcp : UInt32 := netconnClient ||| netconnServer ||| netconnTcp

def netStatStep (sysm : SysmT) (call : NetStatCall) : Option ((Int × SysmNetStat) × SysmT) :=
  sysmNetStatGet sysm clientServerTcp call.created call.clock call.files

/-- The ports in the table, which is empty as long as it has not been made. -/
def SysmT.ListensTo (sysm : SysmT) (ports : List UInt64) : Prop :=
  ∀ created, (sysm.netListen.getD (sysmCacheNew _ 32 created)).HoldsKeys 32 ports

theorem selected_clientServerTcp (row : NetRow) : row.selected clientServerTcp = true := by
  rw [NetRow.selected]
  split <;> decide

theorem procNetRead_netStatWalker {table : NetTable} (valid : ∀ row ∈ table.rows, row.state < 14)
    (fits : (OnePass.seenAfter NetRow.listens NetRow.port ports table.rows).dedup.length ≤ 32)
    (holds : walk.netListen.HoldsKeys 32 ports) (level : walk.Level) :
    ∃ walk', procNetRead netStatWalker clientServerTcp netconnTcp (.ok table.bytes) walk = some (0, walk') ∧
      walk'.netListen.HoldsKeys 32 (OnePass.seenAfter NetRow.listens NetRow.port ports table.rows) ∧
        walk.Counts (OnePass.answers NetRow.listens NetRow.port ports table.rows) walk' ∧ walk'.Level := by
  obtain ⟨walk', run, rest⟩ := handOver_netStatWalker valid fits holds level
  have all : table.rows.filter (fun row => row.selected clientServerTcp) = table.rows := by
    simp [selected_clientServerTcp]
  refine ⟨walk', ?_, rest⟩
  rw [procNetRead, procNetLines_table, all, run]
  rfl

theorem netStatStep_spec {sysm : SysmT} (listens : sysm.ListensTo ports) (call : NetStatCall)
    (fits : (OnePass.seenAfter NetRow.listens NetRow.port ports call.rows).dedup.length ≤ 32) :
    ∃ netStat sysm', netStatStep sysm call = some ((0, netStat), sysm') ∧
      sysm'.ListensTo (OnePass.seenAfter NetRow.listens NetRow.port ports call.rows) ∧
        netStat.tcpInboundTotal =
          UInt32.ofNat ((OnePass.answers NetRow.listens NetRow.port ports call.rows).count true) ∧
        netStat.tcpOutboundTotal =
          UInt32.ofNat ((OnePass.answers NetRow.listens NetRow.port ports call.rows).count false) ∧
        netStat.allInboundTotal = netStat.tcpInboundTotal ∧ netStat.allOutboundTotal = netStat.tcpOutboundTotal := by
  let start : NetStatWalk := ⟨sysm.netListen.getD (sysmCacheNew _ 32 call.created), .zero, call.clock⟩
  have tcpFlag : ¬ clientServerTcp &&& netconnTcp = 0 := by decide
  have udp (walk : NetStatWalk) : procNetBoth netStatWalker clientServerTcp netconnUdp call.files.udp call.files.udp6
      walk = some (0, walk) := if_pos (by decide)
  have raw (walk : NetStatWalk) : procNetBoth netStatWalker clientServerTcp netconnRaw call.files.raw call.files.raw6
      walk = some (0, walk) := if_pos (by decide)
  have walked (walk : NetStatWalk) (both : procNetBoth netStatWalker clientServerTcp netconnTcp
      call.files.tcp call.files.tcp6 start = some (0, walk)) :
      netStatStep sysm call = some ((0, walk.netStat), { sysm with netListen := some walk.netListen }) := by
    simp only [start] at both
    simp only [netStatStep, sysmNetStatGet, sysmNetConnectionWalk, both, udp, raw, Option.bind_eq_bind,
      Option.bind_some, ne_eq, not_true_eq_false, if_false, Option.pure_def]
  suffices ∃ walk, procNetBoth netStatWalker clientServerTcp netconnTcp call.files.tcp call.files.tcp6 start =
      some (0, walk) ∧ walk.netListen.HoldsKeys 32 (OnePass.seenAfter NetRow.listens NetRow.port ports call.rows) ∧
        start.Counts (OnePass.answers NetRow.listens NetRow.port ports call.rows) walk ∧ walk.Level by
    obtain ⟨walk, both, holds, counts, level⟩ := this
    refine ⟨walk.netStat, _, walked walk both, fun _ => holds, ?_, ?_, level⟩
    · simpa [start, SysmNetStat.zero] using counts.inbound
    · simpa [start, SysmNetStat.zero] using counts.outbound
  have firstFits := dedup_length_le (seenAfter_subset ports call.tcp.rows ((call.tcp6.map NetTable.rows).getD []))
  obtain ⟨middle, first, holds₁, counts₁, level₁⟩ := @procNetRead_netStatWalker ports start call.tcp call.known
    (by rw [NetStatCall.rows] at fits; omega) (listens call.created) ⟨rfl, rfl⟩
  have atTcp : call.files.tcp = .ok call.tcp.bytes := rfl
  cases atTcp6 : call.tcp6 with
  | none =>
    have rows : call.rows = call.tcp.rows := by simp [NetStatCall.rows, atTcp6]
    have missing : call.files.tcp6 = .error ENOENT := by simp [NetStatCall.files, atTcp6]
    rw [rows]
    refine ⟨middle, ?_, holds₁, counts₁, level₁⟩
    rw [procNetBoth, if_neg tcpFlag, atTcp, first, missing]
    rfl
  | some table =>
    have rows : call.rows = call.tcp.rows ++ table.rows := by simp [NetStatCall.rows, atTcp6]
    have present : call.files.tcp6 = .ok table.bytes := by simp [NetStatCall.files, atTcp6]
    rw [rows, OnePass.seenAfter_append] at fits ⊢
    rw [OnePass.answers_append]
    obtain ⟨walk, second, holds₂, counts₂, level₂⟩ :=
      procNetRead_netStatWalker (call.known6 table atTcp6) fits holds₁ level₁
    refine ⟨walk, ?_, holds₂, counts₁.trans counts₂, level₂⟩
    rw [procNetBoth, if_neg tcpFlag, atTcp, first, present]
    simp only [Option.bind_eq_bind, Option.bind_some, second]
    rfl

/-- The totals are those of the rows in the tables of this call, in whatever
order they stand there. -/
structure NetStatCall.Counted (call : NetStatCall) (reply : Int × SysmNetStat) : Prop where
  ok : reply.1 = 0
  inbound : ∀ rows, rows.Perm call.rows → reply.2.tcpInboundTotal = UInt32.ofNat (inboundRows rows)
  outbound : ∀ rows, rows.Perm call.rows → reply.2.tcpOutboundTotal = UInt32.ofNat (outboundRows rows)
  allInbound : reply.2.allInboundTotal = reply.2.tcpInboundTotal
  allOutbound : reply.2.allOutboundTotal = reply.2.tcpOutboundTotal

/-- The ports that are in LISTEN state in some table. -/
def portsSeen (calls : List NetStatCall) : List UInt64 :=
  OnePass.seenAfter NetRow.listens NetRow.port [] (calls.flatMap NetStatCall.rows)

/-- For each row that is not in LISTEN state: there is a row in LISTEN state on
its port in the tables exactly if there is one before it, or the port was in
LISTEN state in an earlier call. -/
def NetStatCall.InTurn (earlier : List NetStatCall) (call : NetStatCall) : Prop :=
  OnePass.InTurn NetRow.listens NetRow.port (portsSeen earlier) call.rows call.rows

/-- Every call of a run counts the rows of its own tables. -/
def CountsRows (opened : SysmT) (calls : List NetStatCall) : Prop :=
  ∃ replies final, Machine.run netStatStep opened calls = some (replies, final) ∧
    List.Forall₂ NetStatCall.Counted calls replies

theorem portsSeen_snoc (done : List NetStatCall) (call : NetStatCall) :
    portsSeen (done ++ [call]) = OnePass.seenAfter NetRow.listens NetRow.port (portsSeen done) call.rows := by
  rw [portsSeen, List.flatMap_append, OnePass.seenAfter_append, List.flatMap_singleton, portsSeen]

theorem portsSeen_length_le {done calls : List NetStatCall} (isPrefix : done <+: calls) :
    (portsSeen done).dedup.length ≤ (portsSeen calls).dedup.length := by
  obtain ⟨rest, rfl⟩ := isPrefix
  rw [portsSeen, portsSeen, List.flatMap_append]
  exact dedup_length_le (seenAfter_subset _ _ _)

/-- A run of calls whose ports fit into the table and whose rows come in turn. -/
theorem countsRows_of_inTurn (opened : SysmT) (noTable : opened.netListen = none) (calls : List NetStatCall)
    (few : (portsSeen calls).dedup.length ≤ 32)
    (inTurn : ∀ done call rest, calls = done ++ call :: rest → call.InTurn done) : CountsRows opened calls := by
  suffices ∃ replies final, Machine.run netStatStep opened calls = some (replies, final) ∧
      List.Forall₂ NetStatCall.Counted calls replies ∧ final.ListensTo (portsSeen calls) by
    obtain ⟨replies, final, run, counted, _⟩ := this
    exact ⟨replies, final, run, counted⟩
  induction calls using List.reverseRecOn with
  | nil =>
    refine ⟨[], opened, rfl, .nil, fun created => ?_⟩
    rw [noTable]
    exact Cache.holdsKeys_new (by decide) created
  | append_singleton done call ih =>
    have before := portsSeen_length_le (List.prefix_append done [call])
    obtain ⟨replies, middle, run, counted, listens⟩ := ih (before.trans few) fun earlier other rest split =>
      inTurn earlier other (rest ++ [call]) (by rw [split, List.append_assoc, List.cons_append])
    rw [portsSeen_snoc] at few ⊢
    obtain ⟨netStat, final, step, listens', inbound, outbound, level⟩ := netStatStep_spec listens call few
    rw [OnePass.inTurn_iff_answers.mp (inTurn done call [] rfl)] at inbound outbound
    obtain ⟨counts, others⟩ := count_lookups_rows call.rows
    refine ⟨replies ++ [(0, netStat)], final, Machine.run_snoc_iff.mpr ⟨replies, middle, _, run, step, rfl⟩, ?_, listens'⟩
    refine List.rel_append counted (.cons ⟨rfl, ?_, ?_, level.1, level.2⟩ .nil)
    · intro rows same
      rw [inboundRows_perm same, ← counts, inbound]
    · intro rows same
      rw [outboundRows_perm same, ← others, outbound]

/-- A row with these ports and this state. -/
def stateRow (loPort rePort : UInt16) (state : UInt8) : NetRow where
  slot := 0
  loAddress := .ipv4 0x0100007F
  loPort
  reAddress := .ipv4 0
  rePort
  state
  txQueue := 0
  rxQueue := 0
  timer := ⟨CString.ofString "00:00000000", by decide, List.all_iff_forall_prop.mp (by decide)⟩
  retransmits := ⟨CString.ofString "00000000", by decide, List.all_iff_forall_prop.mp (by decide)⟩
  uid := 0
  timeout := ⟨CString.ofString "0", by decide, List.all_iff_forall_prop.mp (by decide)⟩
  inode := 0
  rest := []
  ended := by simp [CString.Stops]
  oneLine := by simp

/-- A server on port 80 and one connection to it. -/
def servedTable : NetTable where
  header := CString.ofString "  sl  local_address rem_address   st tx_queue rx_queue"
  rows := [stateRow 80 0 10, stateRow 80 50000 1]
  titled := List.all_iff_forall_prop.mp (by decide)
  headerFits := by decide
  fits := by decide +kernel

/-- The server has been stopped. -/
def stoppedTable : NetTable where
  header := CString.ofString "  sl  local_address rem_address   st tx_queue rx_queue"
  rows := [stateRow 80 50000 1]
  titled := List.all_iff_forall_prop.mp (by decide)
  headerFits := by decide
  fits := by decide +kernel

def noFiles : NetFiles := ⟨.error ENOENT, .error ENOENT, .error ENOENT, .error ENOENT, .error ENOENT, .error ENOENT⟩

def servedCall : NetStatCall := ⟨servedTable, none, noFiles, 0, fun _ => 0, by decide, by decide⟩

def stoppedCall : NetStatCall := ⟨stoppedTable, none, noFiles, 0, fun _ => 0, by decide, by decide⟩

/-- The server and its connection are counted twice. -/
theorem countsRows_served_twice : CountsRows openedSysm [servedCall, servedCall] := by
  refine countsRows_of_inTurn openedSysm rfl _ (by decide +kernel) fun done call rest split => ?_
  obtain _ | ⟨first, _ | ⟨second, _ | ⟨third, others⟩⟩⟩ := done
  · cases split
    exact OnePass.inTurn_iff_answers.mpr (by decide +kernel)
  · cases split
    exact OnePass.inTurn_iff_answers.mpr (by decide +kernel)
  · cases split
  · cases split

/-- The connection that has outlived its server is still inbound. -/
theorem sysmNetStatGet_counts_stale_port :
    ¬ ∀ memory opened getpagesize ticks procStat calls, sysmOpen memory getpagesize ticks procStat = .ok opened →
      CountsRows opened calls := by
  intro claim
  obtain ⟨replies, final, run, counted⟩ := claim .zero openedSysm 4096 100 (.ok []) [servedCall, stoppedCall] rfl
  have totals : (Machine.run netStatStep openedSysm [servedCall, stoppedCall]).map (fun result =>
      result.1.map fun reply => reply.2.tcpInboundTotal) = some [1, 1] := by decide +kernel
  rw [run] at totals
  obtain _ | ⟨first, _ | ⟨second, rest⟩⟩ := counted
  cases rest
  have inbound := second.inbound stoppedCall.rows (List.Perm.refl _)
  have isZero : UInt32.ofNat (inboundRows stoppedCall.rows) = 0 := by decide +kernel
  simp only [Option.map_some, List.map_cons, List.map_nil, inbound, isZero] at totals
  simp at totals

end Sysm
