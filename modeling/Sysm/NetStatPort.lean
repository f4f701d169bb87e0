import Sysm.NetStat

namespace Sysm

/-- `sysm_net_address_equals(addr1, addr2) == SYSM_OK` -/
def sysmNetAddressEquals : SysmNetAddress → SysmNetAddress → Bool
  | .inet addr1, .inet addr2 => addr1 == addr2
  | .inet6 addr1, .inet6 addr2 => addr1 == addr2
  | .link mac1, .link mac2 => mac1 == mac2
  | _, _ => false

/-- `net_stat_port_getter_t`, without the counters that are written -/
structure NetStatPortGetter where
  address : SysmNetAddress
  port : UInt64
deriving Repr, DecidableEq

/-- The counters of `net_stat_port_walker` for a row of a TCP table, if one end
of it has the port. The local end comes first. -/
def NetStatPortGetter.countEnds (getter : NetStatPortGetter) (conn : SysmNetConnection) (netStat : SysmNetStat) :
    Option SysmNetStat :=
  if conn.loPort = getter.port then
    let netStat := { netStat with allInboundTotal := netStat.allInboundTotal + 1 }
    if sysmNetAddressEquals getter.address conn.loAddress then
      some { netStat with tcpInboundTotal := netStat.tcpInboundTotal + 1 }
    else some netStat
  else if conn.rePort = getter.port then
    let netStat := { netStat with allOutboundTotal := netStat.allOutboundTotal + 1 }
    if sysmNetAddressEquals getter.address conn.reAddress then
      some { netStat with tcpOutboundTotal := netStat.tcpOutboundTotal + 1 }
    else some netStat
  else none

def netStatPortWalker (getter : NetStatPortGetter) (conn : SysmNetConnection) (netStat : SysmNetStat) :
    Option (Int × SysmNetStat) :=
  if conn.type = netconnTcp then
    match getter.countEnds conn netStat with
    | some netStat => (netStat.countState conn.state).map fun netStat => (0, netStat)
    | none => some (0, netStat)
  else some (0, netStat)

/-- `sysm_net_stat_port_get` -/
def sysmNetStatPortGet (flags : UInt32) (address : SysmNetAddress) (port : UInt64) (files : NetFiles) :
    Option (Int × SysmNetStat) :=
  sysmNetConnectionWalk (netStatPortWalker ⟨address, port⟩) flags files .zero

/-- A row of a TCP table has a state with a place in `tcp_states`. -/
def SysmNetConnection.StateInside (conn : SysmNetConnection) : Prop :=
  conn.type = netconnTcp → 0 ≤ conn.state.toInt ∧ conn.state.toInt < 14

end Sysm
