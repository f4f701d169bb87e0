import Mathlib.Algebra.BigOperators.Fin
import Mathlib.Algebra.BigOperators.ModEq
import Sysm.CacheHas
import Sysm.NetParsedRows
import Sysm.NetStatRuns

namespace Sysm

/-- The sum of `tcp_states` -/
def SysmNetStat.statesSum (netStat : SysmNetStat) : Int := ∑ state : Fin 14, (netStat.tcpStates.get state).toInt

/-- The rows of the TCP tables -/
def tcpRows (conns : List SysmNetConnection) : List SysmNetConnection :=
  conns.filter fun conn => conn.type == netconnTcp

/-- The rows of the TCP tables of which some end has the port -/
def portRows (port : UInt64) (conns : List SysmNetConnection) : List SysmNetConnection :=
  (tcpRows conns).filter fun conn => conn.loPort == port || conn.rePort == port

def SysmNetConnection.inState (state : Fin 14) (conn : SysmNetConnection) : Bool :=
  conn.state.toInt == (state.val : Int)

/-- The state has a place in `tcp_states`. -/
def SysmNetConnection.Indexed (conn : SysmNetConnection) : Prop := 0 ≤ conn.state.toInt ∧ conn.state.toInt < 14

/-- Each place of `tcp_states` has the number of the rows in its state. -/
def SysmNetStat.CountsStates (netStat : SysmNetStat) (rows : List SysmNetConnection) : Prop :=
  ∀ state : Fin 14, netStat.tcpStates.get state = Int32.ofNat (rows.countP (·.inState state))

/-- What `sysm_net_stat_get` counts agrees with the rows, as far as the counters
reach. -/
structure SysmNetStat.Conserved (netStat : SysmNetStat) (conns : List SysmNetConnection) : Prop where
  states : netStat.statesSum ≡ (tcpRows conns).length [ZMOD 2 ^ 32]
  totals : netStat.statesSum ≡
    netStat.tcpInboundTotal.toNat + netStat.tcpOutboundTotal.toNat + (netStat.tcpStates.get 10).toInt [ZMOD 2 ^ 32]
  exact : (tcpRows conns).length < 2 ^ 31 → netStat.statesSum = (tcpRows conns).length ∧ netStat.statesSum =
    netStat.tcpInboundTotal.toNat + netStat.tcpOutboundTotal.toNat + (netStat.tcpStates.get 10).toInt
  allInbound : netStat.allInboundTotal = netStat.tcpInboundTotal
  allOutbound : netStat.allOutboundTotal = netStat.tcpOutboundTotal

/-- What `sysm_net_stat_port_get` counts for an address and a port agrees with
the rows. -/
structure SysmNetStat.PortConserved (netStat : SysmNetStat) (address : SysmNetAddress) (port : UInt64)
    (conns : List SysmNetConnection) : Prop where
  states : netStat.statesSum ≡ (portRows port conns).length [ZMOD 2 ^ 32]
  totals : netStat.statesSum ≡ netStat.allInboundTotal.toNat + netStat.allOutboundTotal.toNat [ZMOD 2 ^ 32]
  exact : (portRows port conns).length < 2 ^ 31 → netStat.statesSum = (portRows port conns).length ∧
    netStat.statesSum = netStat.allInboundTotal.toNat + netStat.allOutboundTotal.toNat
  allInbound : netStat.allInboundTotal = UInt32.ofNat ((tcpRows conns).countP fun conn => decide (conn.loPort = port))
  allOutbound : netStat.allOutboundTotal =
    UInt32.ofNat ((tcpRows conns).countP fun conn => decide (conn.loPort ≠ port ∧ conn.rePort = port))
  tcpInbound : netStat.tcpInboundTotal =
    UInt32.ofNat ((tcpRows conns).countP fun conn => decide (conn.loPort = port ∧ conn.loAddress = address))
  tcpOutbound : netStat.tcpOutboundTotal = UInt32.ofNat ((tcpRows conns).countP fun conn =>
    decide (conn.loPort ≠ port ∧ conn.rePort = port ∧ conn.reAddress = address))

variable {netStat netStat' : SysmNetStat} {rows : List SysmNetConnection} {conn : SysmNetConnection}

theorem get_tcpStates (states : Vector Int32 14) (state : Fin 14) : states.get state = states[state.val] := rfl

theorem countsStates_zero : SysmNetStat.zero.CountsStates [] := by
  intro state
  simp [SysmNetStat.zero, Vector.get]

/-- `tcp_states[state]++` counts one more row, and touches no total. -/
theorem countState_spec (counts : netStat.CountsStates rows) (indexed : conn.Indexed) :
    ∃ netStat', netStat.countState conn.state = some netStat' ∧ netStat'.CountsStates (rows ++ [conn]) ∧
      netStat'.tcpInboundTotal = netStat.tcpInboundTotal ∧ netStat'.tcpOutboundTotal = netStat.tcpOutboundTotal ∧
      netStat'.allInboundTotal = netStat.allInboundTotal ∧ netStat'.allOutboundTotal = netStat.allOutboundTotal := by
  obtain ⟨lower, upper⟩ := indexed
  have inArray : 0 ≤ conn.state.toInt ∧ conn.state.toInt.toNat < 14 := by omega
  rw [SysmNetStat.countState, dif_pos inArray]
  refine ⟨_, rfl, fun state => ?_, rfl, rfl, rfl, rfl⟩
  have before := counts state
  rw [get_tcpStates] at before ⊢
  rw [Vector.getElem_set, List.countP_append, List.countP_singleton]
  by_cases here : conn.state.toInt.toNat = state.val
  · have inState : conn.inState state = true := by
      rw [SysmNetConnection.inState, beq_iff_eq]
      omega
    have same : (⟨conn.state.toInt.toNat, inArray.2⟩ : Fin 14) = state := Fin.ext here
    rw [if_pos here, if_pos inState, Int32.ofNat_add, same, get_tcpStates, before]
    rfl
  · have elsewhere : ¬ conn.inState state = true := by
      rw [SysmNetConnection.inState, beq_iff_eq]
      omega
    rw [if_neg here, if_neg elsewhere, before, Nat.add_zero]

/-- Every row is in one state. -/
theorem sum_countP_inState (indexed : ∀ conn ∈ rows, conn.Indexed) :
    ∑ state : Fin 14, rows.countP (·.inState state) = rows.length := by
  induction rows with
  | nil => simp
  | cons conn rows ih =>
    obtain ⟨lower, upper⟩ := indexed conn (by simp)
    have one : ∑ state : Fin 14, (if conn.inState state = true then 1 else 0) = 1 := by
      have only (state : Fin 14) : conn.inState state = true ↔ state = ⟨conn.state.toInt.toNat, by omega⟩ := by
        simp only [SysmNetConnection.inState, beq_iff_eq, Fin.ext_iff]
        omega
      simp [only]
    simp only [List.countP_cons, Finset.sum_add_distrib, one, ih fun other member => indexed other (by simp [member]),
      List.length_cons]

theorem statesSum_modEq (counts : netStat.CountsStates rows) (indexed : ∀ conn ∈ rows, conn.Indexed) :
    netStat.statesSum ≡ rows.length [ZMOD 2 ^ 32] := by
  rw [SysmNetStat.statesSum, ← sum_countP_inState indexed, Nat.cast_sum]
  refine Int.ModEq.sum fun state _ => ?_
  rw [counts state, Int32.toInt_ofNat']
  exact Int.bmod_emod

theorem get_toInt (counts : netStat.CountsStates rows) (few : rows.length < 2 ^ 31) (state : Fin 14) :
    (netStat.tcpStates.get state).toInt = rows.countP (·.inState state) := by
  have bound := List.countP_le_length (p := (·.inState state)) (l := rows)
  rw [counts state, Int32.toInt_ofNat', Int.bmod_eq_of_le_mul_two]
  · simp only [Int32.size]
    omega
  · simp only [Int32.size]
    omega

theorem statesSum_eq (counts : netStat.CountsStates rows) (indexed : ∀ conn ∈ rows, conn.Indexed)
    (few : rows.length < 2 ^ 31) : netStat.statesSum = rows.length := by
  rw [SysmNetStat.statesSum, ← sum_countP_inState indexed, Nat.cast_sum]
  exact Finset.sum_congr rfl fun state _ => get_toInt counts few state

theorem toNat_modEq (n : Nat) : ((UInt32.ofNat n).toNat : Int) ≡ n [ZMOD 2 ^ 32] := by
  rw [UInt32.toNat_ofNat', Int.natCast_mod]
  exact Int.mod_modEq _ _

theorem tcpRows_append (done : List SysmNetConnection) (conn : SysmNetConnection) :
    tcpRows (done ++ [conn]) = tcpRows done ++ if conn.type = netconnTcp then [conn] else [] := by
  rw [tcpRows, tcpRows, List.filter_append]
  by_cases tcp : conn.type = netconnTcp
  · simp [tcp]
  · simp [tcp]

theorem listens_iff (conn : SysmNetConnection) : conn.inState 10 = true ↔ conn.state = tcpListen := by
  have listen : tcpListen.toInt = 10 := by decide
  rw [SysmNetConnection.inState, beq_iff_eq, ← Int32.toInt_inj, listen]
  rfl

section Table

variable {α : Type} {table : Cache α} {chains : List (List Nat)}

/-- A table is left well formed by a search. -/
theorem Cache.Repr.find_repr (repr : table.Repr chains) (key sweepTime accessTime : UInt64) :
    ∃ table' found chains', sysmCacheFind table key sweepTime accessTime = some (table', found) ∧
      table'.Repr chains' := by
  obtain ⟨cleaned, middle, cleanup, clean⟩ := repr.cleanup_spec sweepTime
  rcases clean.repr.findEntry_spec key accessTime with ⟨table', entry, cell, run, _, atCell, update⟩ | ⟨run, _⟩
  · refine ⟨table', some entry, middle, ?_, clean.repr.updated update atCell rfl rfl⟩
    simp only [sysmCacheFind, cleanup, Option.bind_eq_bind, Option.bind_some, run]
  · refine ⟨cleaned, none, middle, ?_, clean.repr⟩
    simp only [sysmCacheFind, cleanup, Option.bind_eq_bind, Option.bind_some, run]

theorem sysmNetListenAddressAdd_repr {netListen : Cache SysmNetAddress} (repr : netListen.Repr chains) (clock : Clock)
    (conn : SysmNetConnection) :
    ∃ netListen' chains', sysmNetListenAddressAdd netListen clock conn = some netListen' ∧ netListen'.Repr chains' := by
  obtain ⟨table, entry, value, middle, get, got⟩ := repr.sysmCacheGet_spec conn.loPort (clock 0) (clock 1)
  obtain ⟨stored, store, repr', _⟩ := got.repr.store_has got.holds got.has (some conn.loAddress)
  simp only [sysmNetListenAddressAdd, get, got.atValue, Option.bind_eq_bind, Option.bind_some]
  cases value with
  | none => exact ⟨stored, middle, store, repr'⟩
  | some address =>
    by_cases inet6 : conn.loAddress.isInet6 = true
    · exact ⟨table, middle, if_pos inet6, got.repr⟩
    · exact ⟨stored, middle, by simp only [if_neg inet6, store], repr'⟩

end Table

/-- What holds of `net_stat_walker` after the rows `done`. -/
structure NetStatWalk.Conserves (walk : NetStatWalk) (done : List SysmNetConnection) : Prop where
  listens : ∃ chains, walk.netListen.Repr chains
  states : walk.netStat.CountsStates (tcpRows done)
  indexed : ∀ conn ∈ tcpRows done, conn.Indexed
  totals : ∃ inbound outbound, walk.netStat.tcpInboundTotal = UInt32.ofNat inbound ∧
    walk.netStat.tcpOutboundTotal = UInt32.ofNat outbound ∧
    inbound + outbound + (tcpRows done).countP (·.inState 10) = (tcpRows done).length
  level : walk.Level

variable {walk : NetStatWalk} {done : List SysmNetConnection}

/-- A row of a TCP table is counted in its state, and as inbound or outbound if
it is not in LISTEN state. -/
theorem netStatTcp_conserves (conserves : walk.Conserves done) (tcp : conn.type = netconnTcp) (indexed : conn.Indexed) :
    ∃ next, netStatTcp conn walk = some next ∧ next.setTotals.Conserves (done ++ [conn]) := by
  obtain ⟨chains, repr⟩ := conserves.listens
  obtain ⟨inbound, outbound, isInbound, isOutbound, level⟩ := conserves.totals
  obtain ⟨netStat, count, states, sameIn, sameOut, _, _⟩ := countState_spec conserves.states indexed
  have rows : tcpRows (done ++ [conn]) = tcpRows done ++ [conn] := by rw [tcpRows_append, if_pos tcp]
  have allIndexed : ∀ other ∈ tcpRows done ++ [conn], other.Indexed := by
    intro other member
    rcases List.mem_append.mp member with old | new
    · exact conserves.indexed other old
    · rw [List.mem_singleton.mp new]
      exact indexed
  simp only [netStatTcp, count, Option.bind_eq_bind, Option.bind_some, Option.pure_def]
  by_cases listen : conn.state = tcpListen
  · obtain ⟨netListen, chains', add, repr'⟩ := sysmNetListenAddressAdd_repr repr walk.clock conn
    refine ⟨_, by rw [if_pos listen, add, Option.bind_some], ?_⟩
    refine ⟨⟨chains', repr'⟩, rows ▸ states, rows ▸ allIndexed, ⟨inbound, outbound, ?_, ?_, ?_⟩, rfl, rfl⟩
    · exact sameIn.trans isInbound
    · exact sameOut.trans isOutbound
    · rw [rows, List.countP_append, List.countP_singleton, if_pos ((listens_iff conn).mpr listen), List.length_append,
        List.length_singleton]
      omega
  · obtain ⟨netListen, found, chains', find, repr'⟩ := repr.find_repr conn.loPort (walk.clock 0) (walk.clock 1)
    have other : ¬ conn.inState 10 = true := by rwa [listens_iff]
    have sum : inbound + outbound + 1 + (tcpRows (done ++ [conn])).countP (·.inState 10) =
        (tcpRows (done ++ [conn])).length := by
      rw [rows, List.countP_append, List.countP_singleton, if_neg other, List.length_append, List.length_singleton]
      omega
    refine ⟨_, by rw [if_neg listen, find, Option.bind_some], ?_⟩
    cases found with
    | none =>
      refine ⟨⟨chains', repr'⟩, rows ▸ states, rows ▸ allIndexed, ⟨inbound, outbound + 1, ?_, ?_, by omega⟩, rfl, rfl⟩
      · exact sameIn.trans isInbound
      · have before : netStat.tcpOutboundTotal = UInt32.ofNat outbound := sameOut.trans isOutbound
        rw [UInt32.ofNat_add, ← before]
        rfl
    | some entry =>
      refine ⟨⟨chains', repr'⟩, rows ▸ states, rows ▸ allIndexed, ⟨inbound + 1, outbound, ?_, ?_, by omega⟩, rfl, rfl⟩
      · have before : netStat.tcpInboundTotal = UInt32.ofNat inbound := sameIn.trans isInbound
        rw [UInt32.ofNat_add, ← before]
        rfl
      · exact sameOut.trans isOutbound

theorem netStatWalker_conserves (conserves : walk.Conserves done) (inside : conn.StateInside) :
    ∃ next, netStatWalker conn walk = some (0, next) ∧ next.Conserves (done ++ [conn]) := by
  by_cases tcp : conn.type = netconnTcp
  · obtain ⟨next, run, conserves'⟩ := netStatTcp_conserves conserves tcp (inside tcp)
    refine ⟨next.setTotals, ?_, conserves'⟩
    simp only [netStatWalker, if_pos tcp, run, Option.bind_eq_bind, Option.bind_some, Option.pure_def]
  · have rows : tcpRows (done ++ [conn]) = tcpRows done := by rw [tcpRows_append, if_neg tcp, List.append_nil]
    refine ⟨walk.setTotals, ?_, conserves.listens, rows ▸ conserves.states, rows ▸ conserves.indexed,
      rows ▸ conserves.totals, rfl, rfl⟩
    simp only [netStatWalker, if_neg tcp, Option.pure_def, Option.bind_eq_bind, Option.bind_some]

theorem NetStatWalk.Conserves.conserved (conserves : walk.Conserves done) : walk.netStat.Conserved done := by
  obtain ⟨inbound, outbound, isInbound, isOutbound, sum⟩ := conserves.totals
  have states := statesSum_modEq conserves.states conserves.indexed
  have listen : (walk.netStat.tcpStates.get 10).toInt ≡ (tcpRows done).countP (·.inState 10) [ZMOD 2 ^ 32] := by
    rw [conserves.states 10, Int32.toInt_ofNat']
    exact Int.bmod_emod
  refine ⟨states, ?_, ?_, conserves.level.1, conserves.level.2⟩
  · rw [isInbound, isOutbound]
    have total := ((toNat_modEq inbound).add (toNat_modEq outbound)).add listen
    rw [← sum, Nat.cast_add, Nat.cast_add] at states
    exact states.trans total.symm
  · intro few
    have exactStates := statesSum_eq conserves.states conserves.indexed few
    have exactListen := get_toInt conserves.states few 10
    refine ⟨exactStates, ?_⟩
    rw [exactStates, exactListen, isInbound, isOutbound, UInt32.toNat_ofNat', UInt32.toNat_ofNat',
      Nat.mod_eq_of_lt (by omega), Nat.mod_eq_of_lt (by omega), ← sum]
    push_cast
    rfl

theorem portRows_append (port : UInt64) (done : List SysmNetConnection) (conn : SysmNetConnection) :
    portRows port (done ++ [conn]) = portRows port done ++
      if conn.type = netconnTcp ∧ (conn.loPort = port ∨ conn.rePort = port) then [conn] else [] := by
  rw [portRows, portRows, tcpRows_append]
  by_cases tcp : conn.type = netconnTcp
  · rw [if_pos tcp, List.filter_append]
    by_cases ends : conn.loPort = port ∨ conn.rePort = port
    · rw [if_pos ⟨tcp, ends⟩]
      simp [ends]
    · rw [if_neg fun both => ends both.2]
      simp [ends]
  · rw [if_neg tcp, if_neg fun both => tcp both.1, List.append_nil, List.append_nil]

/-- A row with the port at both ends is counted once. -/
theorem portRows_length (port : UInt64) (conns : List SysmNetConnection) : (portRows port conns).length =
    (tcpRows conns).countP (fun conn => decide (conn.loPort = port)) +
      (tcpRows conns).countP fun conn => decide (conn.loPort ≠ port ∧ conn.rePort = port) := by
  rw [portRows, ← List.countP_eq_length_filter]
  induction tcpRows conns with
  | nil => rfl
  | cons conn rows ih =>
    rw [List.countP_cons, List.countP_cons, List.countP_cons, ih]
    by_cases lo : conn.loPort = port
    · simp [lo]
      omega
    · by_cases re : conn.rePort = port
      · simp [lo, re]
        omega
      · simp [lo, re]

theorem sysmNetAddressEquals_iff {address other : SysmNetAddress} (inet : other.IsInet) :
    sysmNetAddressEquals address other = true ↔ other = address := by
  cases other with
  | unspec => exact inet.elim
  | link mac => exact inet.elim
  | inet addr =>
    cases address with
    | inet addr' => rw [sysmNetAddressEquals, beq_iff_eq, SysmNetAddress.inet.injEq, eq_comm]
    | unspec => simp [sysmNetAddressEquals]
    | inet6 addr' => simp [sysmNetAddressEquals]
    | link mac => simp [sysmNetAddressEquals]
  | inet6 addr =>
    cases address with
    | inet6 addr' => rw [sysmNetAddressEquals, beq_iff_eq, SysmNetAddress.inet6.injEq, eq_comm]
    | unspec => simp [sysmNetAddressEquals]
    | inet addr' => simp [sysmNetAddressEquals]
    | link mac => simp [sysmNetAddressEquals]

/-- What holds of the totals of `net_stat_port_walker` after the rows `done`. -/
structure SysmNetStat.CountsEnds (netStat : SysmNetStat) (getter : NetStatPortGetter) (rows : List SysmNetConnection) :
    Prop where
  allInbound : netStat.allInboundTotal = UInt32.ofNat (rows.countP fun conn => decide (conn.loPort = getter.port))
  allOutbound : netStat.allOutboundTotal =
    UInt32.ofNat (rows.countP fun conn => decide (conn.loPort ≠ getter.port ∧ conn.rePort = getter.port))
  tcpInbound : netStat.tcpInboundTotal = UInt32.ofNat (rows.countP fun conn =>
    decide (conn.loPort = getter.port ∧ conn.loAddress = getter.address))
  tcpOutbound : netStat.tcpOutboundTotal = UInt32.ofNat (rows.countP fun conn =>
    decide (conn.loPort ≠ getter.port ∧ conn.rePort = getter.port ∧ conn.reAddress = getter.address))

variable {getter : NetStatPortGetter}

/-- The totals with the ends of one more row. -/
def NetStatPortGetter.ends (getter : NetStatPortGetter) (conn : SysmNetConnection) (netStat : SysmNetStat) : SysmNetStat :=
  { netStat with
    allInboundTotal := netStat.allInboundTotal + UInt32.ofNat (if decide (conn.loPort = getter.port) then 1 else 0)
    allOutboundTotal := netStat.allOutboundTotal +
      UInt32.ofNat (if decide (conn.loPort ≠ getter.port ∧ conn.rePort = getter.port) then 1 else 0)
    tcpInboundTotal := netStat.tcpInboundTotal +
      UInt32.ofNat (if decide (conn.loPort = getter.port ∧ conn.loAddress = getter.address) then 1 else 0)
    tcpOutboundTotal := netStat.tcpOutboundTotal + UInt32.ofNat
      (if decide (conn.loPort ≠ getter.port ∧ conn.rePort = getter.port ∧ conn.reAddress = getter.address) then 1 else 0) }

theorem countsEnds_ends (counts : netStat.CountsEnds getter rows) (conn : SysmNetConnection) :
    (getter.ends conn netStat).CountsEnds getter (rows ++ [conn]) where
  allInbound := by
    rw [List.countP_append, List.countP_singleton, UInt32.ofNat_add, ← counts.allInbound]
    rfl
  allOutbound := by
    rw [List.countP_append, List.countP_singleton, UInt32.ofNat_add, ← counts.allOutbound]
    rfl
  tcpInbound := by
    rw [List.countP_append, List.countP_singleton, UInt32.ofNat_add, ← counts.tcpInbound]
    rfl
  tcpOutbound := by
    rw [List.countP_append, List.countP_singleton, UInt32.ofNat_add, ← counts.tcpOutbound]
    rfl

/-- A row without the port adds nothing to the totals. -/
theorem ends_elsewhere (lo : conn.loPort ≠ getter.port) (re : conn.rePort ≠ getter.port) (netStat : SysmNetStat) :
    getter.ends conn netStat = netStat := by
  simp [NetStatPortGetter.ends, lo, re]

theorem countEnds_eq (lo : conn.loAddress.IsInet) (re : conn.reAddress.IsInet) (netStat : SysmNetStat) :
    getter.countEnds conn netStat =
      if conn.loPort = getter.port ∨ conn.rePort = getter.port then some (getter.ends conn netStat) else none := by
  have sameLo := @sysmNetAddressEquals_iff getter.address _ lo
  have sameRe := @sysmNetAddressEquals_iff getter.address _ re
  simp only [NetStatPortGetter.countEnds, NetStatPortGetter.ends, sameLo, sameRe]
  by_cases atLo : conn.loPort = getter.port
  · by_cases address : conn.loAddress = getter.address
    · simp [atLo, address]
    · simp [atLo, address]
  · by_cases atRe : conn.rePort = getter.port
    · by_cases address : conn.reAddress = getter.address
      · simp [atLo, atRe, address]
      · simp [atLo, atRe, address]
    · simp [atLo, atRe]

/-- What holds of `net_stat_port_walker` after the rows `done`. -/
structure SysmNetStat.ConservesPort (netStat : SysmNetStat) (getter : NetStatPortGetter) (done : List SysmNetConnection) :
    Prop where
  states : netStat.CountsStates (portRows getter.port done)
  indexed : ∀ conn ∈ portRows getter.port done, conn.Indexed
  ends : netStat.CountsEnds getter (tcpRows done)

theorem netStatPortWalker_conserves (conserves : netStat.ConservesPort getter done) (inside : conn.StateInside)
    (lo : conn.loAddress.IsInet) (re : conn.reAddress.IsInet) :
    ∃ next, netStatPortWalker getter conn netStat = some (0, next) ∧ next.ConservesPort getter (done ++ [conn]) := by
  obtain ⟨states, indexed, ends⟩ := conserves
  have rows := portRows_append getter.port done conn
  have tcpRows := tcpRows_append done conn
  rw [netStatPortWalker]
  by_cases tcp : conn.type = netconnTcp
  · rw [if_pos tcp] at tcpRows ⊢
    have ends' := countsEnds_ends ends conn
    rw [countEnds_eq lo re]
    by_cases either : conn.loPort = getter.port ∨ conn.rePort = getter.port
    · rw [if_pos ⟨tcp, either⟩] at rows
      obtain ⟨counted, count, states', sameIn, sameOut, sameAllIn, sameAllOut⟩ :=
        @countState_spec (getter.ends conn netStat) _ conn states (inside tcp)
      refine ⟨counted, by simp only [if_pos either, count, Option.map_some], rows ▸ states', ?_, ?_⟩
      · rw [rows]
        intro other member
        rcases List.mem_append.mp member with old | new
        · exact indexed other old
        · rw [List.mem_singleton.mp new]
          exact inside tcp
      · rw [tcpRows]
        exact ⟨sameAllIn.trans ends'.allInbound, sameAllOut.trans ends'.allOutbound, sameIn.trans ends'.tcpInbound,
          sameOut.trans ends'.tcpOutbound⟩
    · rw [if_neg fun both => either both.2, List.append_nil] at rows
      obtain ⟨atLo, atRe⟩ := not_or.mp either
      rw [ends_elsewhere atLo atRe] at ends'
      exact ⟨netStat, by simp only [if_neg either], rows ▸ states, rows ▸ indexed, tcpRows ▸ ends'⟩
  · rw [if_neg fun both => tcp both.1, List.append_nil] at rows
    rw [if_neg tcp] at tcpRows ⊢
    rw [List.append_nil] at tcpRows
    exact ⟨netStat, rfl, rows ▸ states, rows ▸ indexed, tcpRows ▸ ends⟩

theorem SysmNetStat.ConservesPort.conserved (conserves : netStat.ConservesPort getter done) :
    netStat.PortConserved getter.address getter.port done := by
  obtain ⟨states, indexed, allInbound, allOutbound, tcpInbound, tcpOutbound⟩ := conserves
  have sum := portRows_length getter.port done
  have modEq := statesSum_modEq states indexed
  refine ⟨modEq, ?_, ?_, allInbound, allOutbound, tcpInbound, tcpOutbound⟩
  · rw [allInbound, allOutbound]
    rw [sum, Nat.cast_add] at modEq
    exact modEq.trans ((toNat_modEq _).add (toNat_modEq _)).symm
  · intro few
    have exactStates := statesSum_eq states indexed few
    refine ⟨exactStates, ?_⟩
    rw [exactStates, allInbound, allOutbound, UInt32.toNat_ofNat', UInt32.toNat_ofNat', Nat.mod_eq_of_lt (by omega),
      Nat.mod_eq_of_lt (by omega), sum, Nat.cast_add]

/-- The table of listening ports, if there is one already, is well formed. -/
def SysmT.ListensWell (sysm : SysmT) : Prop := ∀ table ∈ sysm.netListen, ∃ chains, table.Repr chains

theorem netStatWalker_goesOn : NeverStops netStatWalker := by
  intro conn walk more next run
  simp only [netStatWalker] at run
  split_ifs at run with tcp
  · obtain ⟨counted, _, rest⟩ := Option.bind_eq_some_iff.mp run
    cases Option.some.inj rest
    rfl
  · cases Option.some.inj run
    rfl

theorem netStatPortWalker_goesOn (getter : NetStatPortGetter) : NeverStops (netStatPortWalker getter) := by
  intro conn netStat more next run
  unfold netStatPortWalker at run
  split_ifs at run with tcp
  · split at run
    · obtain ⟨counted, _, same⟩ := Option.map_eq_some_iff.mp run
      cases same
      rfl
    · cases Option.some.inj run
      rfl
  · cases Option.some.inj run
    rfl

section Calls

variable {flags : UInt32} {files : NetFiles} {status : Int} {conns : List SysmNetConnection}

theorem sysmNetStatGet_conserved (parsed : parsedRows flags files = some (status, conns))
    (inside : ∀ conn ∈ conns, conn.StateInside) {sysm : SysmT} (listens : sysm.ListensWell) (created : UInt64)
    (clock : Clock) : ∃ netStat sysm', sysmNetStatGet sysm flags created clock files = some ((status, netStat), sysm') ∧
      netStat.Conserved conns ∧ sysm'.ListensWell := by
  have start : NetStatWalk.Conserves ⟨sysm.netListen.getD (sysmCacheNew _ 32 created), .zero, clock⟩ [] := by
    refine ⟨?_, countsStates_zero, by simp [tcpRows], ⟨0, 0, rfl, rfl, rfl⟩, rfl, rfl⟩
    cases table : sysm.netListen with
    | none => exact ⟨_, sysmExpiredCacheNew_repr 32 (-1) (-1) created (by decide)⟩
    | some netListen => exact listens netListen table
  obtain ⟨walk, run, conserves⟩ := handOver_invariant (fun _ _ _ holds inside => netStatWalker_conserves holds inside)
    start inside
  refine ⟨walk.netStat, { sysm with netListen := some walk.netListen }, ?_, conserves.conserved, ?_⟩
  · simp only [sysmNetStatGet, sysmNetConnectionWalk_parsedRows netStatWalker_goesOn, parsed, Option.bind_eq_bind,
      Option.bind_some, run, Option.map_some, Option.pure_def]
  · intro table here
    cases Option.some.inj here
    exact conserves.listens

theorem sysmNetStatPortGet_conserved (parsed : parsedRows flags files = some (status, conns))
    (inside : ∀ conn ∈ conns, conn.StateInside) (address : SysmNetAddress) (port : UInt64) :
    ∃ netStat, sysmNetStatPortGet flags address port files = some (status, netStat) ∧
      netStat.PortConserved address port conns := by
  have inet := parsedRows_each (fun _ _ _ run => procNetLine_isInet run) parsed
  have zeros : SysmNetStat.zero.ConservesPort ⟨address, port⟩ [] :=
    ⟨countsStates_zero, by simp [portRows, tcpRows], ⟨rfl, rfl, rfl, rfl⟩⟩
  have step : ∀ netStat done conn, netStat.ConservesPort ⟨address, port⟩ done →
      conn.StateInside ∧ conn.loAddress.IsInet ∧ conn.reAddress.IsInet →
        ∃ next, netStatPortWalker ⟨address, port⟩ conn netStat = some (0, next) ∧
          next.ConservesPort ⟨address, port⟩ (done ++ [conn]) :=
    fun _ _ _ holds fits => netStatPortWalker_conserves holds fits.1 fits.2.1 fits.2.2
  obtain ⟨netStat, run, conserves⟩ :=
    handOver_invariant step zeros fun conn member => ⟨inside conn member, inet conn member⟩
  refine ⟨netStat, ?_, conserves.conserved⟩
  simp only [sysmNetStatPortGet, sysmNetConnectionWalk_parsedRows (netStatPortWalker_goesOn _), parsed, Option.bind_some,
    run, Option.map_some]

end Calls

/-- Both calls count every parsed row where it belongs, whatever files there
are, in whatever order their rows come, and whichever call comes first. -/
theorem netStats_conserved (flags : UInt32) (files : NetFiles) (status : Int) (conns : List SysmNetConnection)
    (parsed : parsedRows flags files = some (status, conns)) (inside : ∀ conn ∈ conns, conn.StateInside) :
    (∀ sysm : SysmT, sysm.ListensWell → ∀ created clock, ∃ netStat sysm',
      sysmNetStatGet sysm flags created clock files = some ((status, netStat), sysm') ∧
        netStat.Conserved conns ∧ sysm'.ListensWell) ∧
    ∀ address port, ∃ netStat, sysmNetStatPortGet flags address port files = some (status, netStat) ∧
      netStat.PortConserved address port conns :=
  ⟨fun _ listens => sysmNetStatGet_conserved parsed inside listens, sysmNetStatPortGet_conserved parsed inside⟩

theorem connection_stateInside {row : NetRow} (valid : row.state < 14) (type : UInt32) :
    (row.connection type).StateInside := by
  intro _
  have bound : row.state.toNat < 14 := UInt8.lt_iff_toNat_lt.mp valid
  rw [connection_state]
  omega

/-- The rows of a server on port 80 and of one connection to it. -/
def servedConns : List SysmNetConnection := servedTable.rows.map fun row => row.connection netconnTcp

theorem parsedRows_served : parsedRows clientServerTcp servedCall.files = some (0, servedConns) := by decide +kernel

/-- Both calls for a server on port 80 and one connection to it. -/
theorem netStats_conserved_served :
    (∃ netStat sysm', sysmNetStatGet openedSysm clientServerTcp 0 (fun _ => 0) servedCall.files =
      some ((0, netStat), sysm') ∧ netStat.Conserved servedConns) ∧
    ∃ netStat, sysmNetStatPortGet clientServerTcp (.inet 0x0100007F) 80 servedCall.files = some (0, netStat) ∧
      netStat.PortConserved (.inet 0x0100007F) 80 servedConns := by
  have inside : ∀ conn ∈ servedConns, conn.StateInside := by
    intro conn member
    obtain ⟨row, inTable, rfl⟩ := List.mem_map.mp member
    exact connection_stateInside (servedCall.known row inTable) netconnTcp
  obtain ⟨general, atPort⟩ := netStats_conserved clientServerTcp servedCall.files 0 servedConns parsedRows_served inside
  have noTable : openedSysm.ListensWell := by
    intro table here
    cases here
  obtain ⟨netStat, sysm', run, conserved, _⟩ := general openedSysm noTable 0 fun _ => 0
  exact ⟨⟨netStat, sysm', run, conserved⟩, atPort (.inet 0x0100007F) 80⟩

end Sysm
