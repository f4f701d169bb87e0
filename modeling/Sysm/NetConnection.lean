import Sysm.NetStatRuns

namespace Sysm
open CString

/-- A record that `SYSM_ZERO` has cleared. -/
def SysmNetConnection.zero : SysmNetConnection := ⟨0, .unspec, 0, .unspec, 0, 0, 0, 0, 0, 0⟩

/-- `net_conn_getter_t`, with the record that `conn` points at -/
structure NetConnGetter where
  connList : Option (List SysmNetConnection)
  conn : SysmNetConnection
  port : UInt64
deriving Repr, DecidableEq

/-- `proc_net_walker`. Without a list it stops at the server of the port. -/
def procNetWalker (conn : SysmNetConnection) (getter : NetConnGetter) : Option (Int × NetConnGetter) :=
  match getter.connList with
  | some list => some (0, { getter with connList := some (list ++ [conn]) })
  | none => if getter.port = conn.loPort ∧ conn.rePort = 0 then some (1, { getter with conn := conn }) else some (0, getter)

/-- `sysm_net_connection_get` -/
def sysmNetConnectionGet (netconn : SysmNetConnection) (port : UInt64) (flags : UInt32) (files : NetFiles) :
    Option (Int × SysmNetConnection) :=
  (sysmNetConnectionWalk procNetWalker flags files ⟨none, netconn, port⟩).map fun result => (result.1, result.2.conn)

/-- The protocols that have tables. -/
inductive Protocol where
  | tcp
  | udp
  | raw
deriving Repr, DecidableEq

namespace Protocol

def flag : Protocol → UInt32
  | tcp => netconnTcp
  | udp => netconnUdp
  | raw => netconnRaw

/-- The files when the two tables of the protocol are these. -/
def files (protocol : Protocol) (table table6 : NetTable) (others : NetFiles) : NetFiles :=
  match protocol with
  | tcp => { others with tcp := .ok table.bytes, tcp6 := .ok table6.bytes }
  | udp => { others with udp := .ok table.bytes, udp6 := .ok table6.bytes }
  | raw => { others with raw := .ok table.bytes, raw6 := .ok table6.bytes }

end Protocol

/-- A row of the server of a port. -/
def NetRow.serves (port : UInt64) (row : NetRow) : Bool := row.loPort.toUInt64 == port && row.rePort == 0

/-- The record of the first row of the server, if there is one. -/
def firstServer (type : UInt32) (port : UInt64) (rows : List NetRow) : Option SysmNetConnection :=
  (rows.find? (NetRow.serves port)).map fun row => row.connection type

theorem rePort_eq_zero (row : NetRow) (type : UInt32) : ((row.connection type).rePort == 0) = (row.rePort == 0) := by
  have same : row.rePort.toUInt64 = 0 ↔ row.rePort = 0 := by
    rw [← UInt64.toNat_inj, ← UInt16.toNat_inj, UInt16.toNat_toUInt64]
    exact Iff.rfl
  rw [Bool.eq_iff_iff, beq_iff_eq, beq_iff_eq, ← same]
  rfl

/-- The first server among the rows that are handed over is that of the table. -/
theorem find?_connections {flags : UInt32} (onlyServers : ∀ row : NetRow, row.selected flags = (row.rePort == 0))
    (type : UInt32) (port : UInt64) (rows : List NetRow) :
    ((rows.filter fun row => row.selected flags).map fun row => row.connection type).find?
      (fun conn => conn.loPort == port && conn.rePort == 0) = firstServer type port rows := by
  rw [List.find?_map, List.find?_filter, firstServer]
  refine congrArg _ (congrFun (congrArg _ (funext fun row => ?_)) rows)
  rw [onlyServers, Function.comp_apply, rePort_eq_zero, Bool.eq_iff_iff, decide_eq_true_iff, NetRow.serves, Bool.and_eq_true,
    Bool.and_eq_true]
  exact ⟨fun both => both.2, fun both => ⟨both.2, both⟩⟩

/-- The walker keeps the first record of the server and stops there. -/
theorem handOver_procNetWalker (conns : List SysmNetConnection) (old : SysmNetConnection) (port : UInt64) :
    handOver procNetWalker conns ⟨none, old, port⟩ =
      some ⟨none, (conns.find? fun conn => conn.loPort == port && conn.rePort == 0).getD old, port⟩ := by
  induction conns with
  | nil => rfl
  | cons conn conns ih =>
    by_cases server : port = conn.loPort ∧ conn.rePort = 0
    · have found : (conn.loPort == port && conn.rePort == 0) = true := by simp [server.1, server.2]
      have stop : procNetWalker conn ⟨none, old, port⟩ = some (1, ⟨none, conn, port⟩) := if_pos server
      rw [List.find?_cons, found, handOver, stop]
      rfl
    · have other : (conn.loPort == port && conn.rePort == 0) = false := by
        rw [Bool.eq_false_iff, ne_eq, Bool.and_eq_true, beq_iff_eq, beq_iff_eq]
        rintro ⟨same, zero⟩
        exact server ⟨same.symm, zero⟩
      have goOn : procNetWalker conn ⟨none, old, port⟩ = some (0, ⟨none, old, port⟩) := if_neg server
      rw [List.find?_cons, other, handOver, goOn]
      exact ih

section Get

variable {flags : UInt32} (type : UInt32) (table table6 : NetTable) (old : SysmNetConnection) (port : UInt64)

/-- A table replaces the record if it has the server. -/
theorem procNetRead_procNetWalker (onlyServers : ∀ row : NetRow, row.selected flags = (row.rePort == 0)) :
    procNetRead procNetWalker flags type (.ok table.bytes) ⟨none, old, port⟩ =
      some (0, ⟨none, (firstServer type port table.rows).getD old, port⟩) := by
  rw [procNetRead_table, handOver_procNetWalker, find?_connections onlyServers, Option.map_some]

/-- The second table is read whether or not the first one has stopped the walker. -/
theorem procNetBoth_procNetWalker (onlyServers : ∀ row : NetRow, row.selected flags = (row.rePort == 0))
    (asked : ¬flags &&& type = 0) :
    procNetBoth procNetWalker flags type (.ok table.bytes) (.ok table6.bytes) ⟨none, old, port⟩ =
      some (0, ⟨none, (firstServer type port table6.rows).getD ((firstServer type port table.rows).getD old), port⟩) := by
  have read := procNetRead_procNetWalker type table old port onlyServers
  have read6 := procNetRead_procNetWalker type table6 ((firstServer type port table.rows).getD old) port onlyServers
  simp only [procNetBoth, if_neg asked, read, read6, Option.bind_eq_bind, Option.bind_some, ne_eq, not_true_eq_false, if_false,
    Option.pure_def, show ¬(0 : Int) = ENOENT by decide]

theorem selected_server (protocol : Protocol) (row : NetRow) :
    row.selected (netconnServer ||| protocol.flag) = (row.rePort == 0) := by
  have server : ((netconnServer ||| protocol.flag) &&& netconnServer != 0) = true := by cases protocol <;> decide
  have client : ((netconnServer ||| protocol.flag) &&& netconnClient != 0) = false := by cases protocol <;> decide
  rw [NetRow.selected, server, client]
  by_cases zero : row.rePort = 0
  · simp [zero]
  · simp [zero]

/-- What is answered: the server of the second table goes before that of the first. -/
theorem sysmNetConnectionGet_eq (protocol : Protocol) (others : NetFiles) :
    sysmNetConnectionGet old port (netconnServer ||| protocol.flag) (protocol.files table table6 others) =
      some (0, (firstServer protocol.flag port table6.rows).getD ((firstServer protocol.flag port table.rows).getD old)) := by
  have both := @procNetBoth_procNetWalker (netconnServer ||| protocol.flag) protocol.flag table table6 old port
    (selected_server protocol) (by cases protocol <;> decide)
  have skip (type : UInt32) (file file6 : Except Int (List UInt8)) (getter : NetConnGetter)
      (apart : (netconnServer ||| protocol.flag) &&& type = 0) :
      procNetBoth procNetWalker (netconnServer ||| protocol.flag) type file file6 getter = some (0, getter) := if_pos apart
  cases protocol with
  | tcp =>
    simp only [Protocol.flag, Protocol.files] at both skip ⊢
    simp only [sysmNetConnectionGet, sysmNetConnectionWalk, both, skip netconnUdp _ _ _ (by decide),
      skip netconnRaw _ _ _ (by decide), Option.bind_eq_bind, Option.bind_some, ne_eq, not_true_eq_false, if_false,
      Option.map_some]
  | udp =>
    simp only [Protocol.flag, Protocol.files] at both skip ⊢
    simp only [sysmNetConnectionGet, sysmNetConnectionWalk, both, skip netconnTcp _ _ _ (by decide),
      skip netconnRaw _ _ _ (by decide), Option.bind_eq_bind, Option.bind_some, ne_eq, not_true_eq_false, if_false,
      Option.map_some]
  | raw =>
    simp only [Protocol.flag, Protocol.files] at both skip ⊢
    simp only [sysmNetConnectionGet, sysmNetConnectionWalk, both, skip netconnTcp _ _ _ (by decide),
      skip netconnUdp _ _ _ (by decide), Option.bind_eq_bind, Option.bind_some, ne_eq, not_true_eq_false, if_false,
      Option.map_some]

end Get

/-- The first server in the order of the walk is answered exactly if not both
tables have one, or theirs are the same. -/
theorem sysmNetConnectionGet_first_iff (protocol : Protocol) (table table6 : NetTable) (others : NetFiles) (port : UInt64) :
    sysmNetConnectionGet .zero port (netconnServer ||| protocol.flag) (protocol.files table table6 others) =
        some (0, (firstServer protocol.flag port (table.rows ++ table6.rows)).getD .zero) ↔
      ∀ server server6, firstServer protocol.flag port table.rows = some server →
        firstServer protocol.flag port table6.rows = some server6 → server = server6 := by
  have inOrder : firstServer protocol.flag port (table.rows ++ table6.rows) =
      (firstServer protocol.flag port table.rows).or (firstServer protocol.flag port table6.rows) := by
    rw [firstServer, List.find?_append, Option.map_or]
    rfl
  rw [sysmNetConnectionGet_eq, inOrder]
  cases firstServer protocol.flag port table.rows with
  | none => simp
  | some server =>
    cases firstServer protocol.flag port table6.rows with
    | none => simp
    | some server6 => simp [eq_comm]

/-- A server on one port for both families of addresses. -/
def anyTable : NetTable where
  header := servedTable.header
  rows := [{ stateRow 80 0 10 with inode := 17 }]
  titled := servedTable.titled
  headerFits := servedTable.headerFits
  fits := by decide +kernel

def anyTable6 : NetTable where
  header := ofString "  sl  local_address                         remote_address                        st"
  rows := [{ stateRow 80 0 10 with loAddress := .ipv6 0 0 0 0, reAddress := .ipv6 0 0 0 0, inode := 18 }]
  titled := List.all_iff_forall_prop.mp (by decide)
  headerFits := by decide
  fits := by decide +kernel

/-- The row of `net/tcp6` is answered, although that of `net/tcp` comes first. -/
theorem sysmNetConnectionGet_both :
    sysmNetConnectionGet .zero 80 (netconnServer ||| Protocol.tcp.flag) (Protocol.tcp.files anyTable anyTable6 noFiles) ≠
      some (0, (firstServer Protocol.tcp.flag 80 (anyTable.rows ++ anyTable6.rows)).getD .zero) := by
  intro claim
  have answered : (sysmNetConnectionGet .zero 80 (netconnServer ||| Protocol.tcp.flag)
      (Protocol.tcp.files anyTable anyTable6 noFiles)).map (fun answer => answer.2.inode) = some 18 := by decide +kernel
  have first : ((firstServer Protocol.tcp.flag 80 (anyTable.rows ++ anyTable6.rows)).getD .zero).inode = 17 := by
    decide +kernel
  rw [claim, Option.map_some, first] at answered
  cases answered

end Sysm
