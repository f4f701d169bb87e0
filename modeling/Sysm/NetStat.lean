import Sysm.Cache
import Sysm.NetTable

namespace Sysm

/-- `SYSM_TCP_LISTEN` -/
def tcpListen : Int32 := 10

/-- `sysm_net_stat_t`, with one number of rows for each state below `SYSM_TCP_UNKNOWN` -/
structure SysmNetStat where
  tcpStates : Vector Int32 14
  tcpInboundTotal : UInt32
  tcpOutboundTotal : UInt32
  allInboundTotal : UInt32
  allOutboundTotal : UInt32
deriving Repr, DecidableEq

/-- A record that `SYSM_ZERO` has cleared. -/
def SysmNetStat.zero : SysmNetStat := ⟨Vector.replicate 14 0, 0, 0, 0, 0⟩

/-- `tcp_states[state]++`, a fault for a state that has no place in the array -/
def SysmNetStat.countState (netStat : SysmNetStat) (state : Int32) : Option SysmNetStat :=
  let index := state.toInt.toNat
  if bound : 0 ≤ state.toInt ∧ index < 14 then
    some { netStat with tcpStates := netStat.tcpStates.set index (netStat.tcpStates.get ⟨index, bound.2⟩ + 1) bound.2 }
  else none

/-- `family == SYSM_AF_INET6` -/
def SysmNetAddress.isInet6 : SysmNetAddress → Bool
  | .inet6 _ => true
  | _ => false

def sysmNetListenAddressAdd (netListen : Cache SysmNetAddress) (clock : Clock) (conn : SysmNetConnection) :
    Option (Cache SysmNetAddress) := do
  let (netListen, entry) ← sysmCacheGet netListen conn.loPort (clock 0) (clock 1)
  match ← netListen.value entry with
  | some _ =>
    -- prefer ipv4
    if conn.loAddress.isInet6 then return netListen else netListen.store entry (some conn.loAddress)
  | none => netListen.store entry (some conn.loAddress)

/-- What `net_stat_walker` reads and writes. -/
structure NetStatWalk where
  netListen : Cache SysmNetAddress
  netStat : SysmNetStat
  clock : Clock

/-- The branch of `net_stat_walker` for a row of a TCP table. -/
def netStatTcp (conn : SysmNetConnection) (walk : NetStatWalk) : Option NetStatWalk := do
  let netStat ← walk.netStat.countState conn.state
  if conn.state = tcpListen then
    let netListen ← sysmNetListenAddressAdd walk.netListen walk.clock conn
    return ⟨netListen, netStat, walk.clock.later⟩
  else
    let (netListen, found) ← sysmCacheFind walk.netListen conn.loPort (walk.clock 0) (walk.clock 1)
    let netStat := if found.isSome then { netStat with tcpInboundTotal := netStat.tcpInboundTotal + 1 }
      else { netStat with tcpOutboundTotal := netStat.tcpOutboundTotal + 1 }
    return ⟨netListen, netStat, walk.clock.later⟩

/-- The two assignments at the end of `net_stat_walker`. -/
def NetStatWalk.setTotals (walk : NetStatWalk) : NetStatWalk :=
  { walk with netStat := { walk.netStat with
      allInboundTotal := walk.netStat.tcpInboundTotal
      allOutboundTotal := walk.netStat.tcpOutboundTotal } }

def netStatWalker (conn : SysmNetConnection) (walk : NetStatWalk) : Option (Int × NetStatWalk) := do
  let walk ← if conn.type = netconnTcp then netStatTcp conn walk else pure walk
  return (0, walk.setTotals)

/-- What opening the tables brings. -/
structure NetFiles where
  tcp : Except Int (List UInt8)
  tcp6 : Except Int (List UInt8)
  udp : Except Int (List UInt8)
  udp6 : Except Int (List UInt8)
  raw : Except Int (List UInt8)
  raw6 : Except Int (List UInt8)

section Walk

variable {σ : Type} (add : SysmNetConnection → σ → Option (Int × σ))

/-- The branch of `sysm_net_connection_walk` for one protocol. The table for
IPv6 need not be there. -/
def procNetBoth (flags type : UInt32) (file file6 : Except Int (List UInt8)) (state : σ) : Option (Int × σ) :=
  if flags &&& type = 0 then some (0, state)
  else do
    let (status, state) ← procNetRead add flags type file state
    if status ≠ 0 then return (status, state)
    let (status, state) ← procNetRead add flags type file6 state
    return (if status = ENOENT then 0 else status, state)

def sysmNetConnectionWalk (flags : UInt32) (files : NetFiles) (state : σ) : Option (Int × σ) := do
  let (status, state) ← procNetBoth add flags netconnTcp files.tcp files.tcp6 state
  if status ≠ 0 then return (status, state)
  let (status, state) ← procNetBoth add flags netconnUdp files.udp files.udp6 state
  if status ≠ 0 then return (status, state)
  procNetBoth add flags netconnRaw files.raw files.raw6 state

end Walk

/-- `sysm_net_stat_get`. The first call makes the table of listening ports, at
the time `created`. -/
def sysmNetStatGet (sysm : SysmT) (flags : UInt32) (created : UInt64) (clock : Clock) (files : NetFiles) :
    Option ((Int × SysmNetStat) × SysmT) := do
  let netListen := sysm.netListen.getD (sysmCacheNew _ 32 created)
  let (status, walk) ← sysmNetConnectionWalk netStatWalker flags files ⟨netListen, .zero, clock⟩
  return ((status, walk.netStat), { sysm with netListen := some walk.netListen })

end Sysm
