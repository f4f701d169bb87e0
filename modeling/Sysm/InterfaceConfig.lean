import Sysm.InterfaceList
import Sysm.NetInet6

namespace Sysm
open CString

/-- `IFNAMSIZ` -/
def ifNamSiz : Nat := 16

/-- `SYSM_IFF_LOOPBACK`, which is also `IFF_LOOPBACK` -/
def sysmIffLoopback : UInt64 := 0x8

/-- `ifr_hwaddr`: the type of the hardware and the bytes of the address. -/
structure IfrHwaddr where
  saFamily : UInt16
  saData : List UInt8
  length : saData.length = 14

/-- What the kernel answers about an interface, call by call: `socket`, and
then the `ioctl`s in the order of `sysm_net_interface_config_get`. The error is
looked at for two of them. -/
structure InterfaceAnswers where
  socket : Except Errno Unit
  address : Option UInt32
  netmask : Option UInt32
  flags : Except Errno Int16
  destination : Option UInt32
  broadcast : Option UInt32
  hwaddr : Option IfrHwaddr
  mtu : Option Int32
  metric : Option Int32
  txQueueLen : Option Int32

/-- The interfaces of the machine by their names, and `/proc/net/if_inet6` with
the variables that it is read into. -/
structure ConfigMachine where
  interface : Text → InterfaceAnswers
  inet6Memory : Inet6Memory
  ifInet6 : Except Int (List UInt8)

/-- `sysm_net_interface_config_t`. The three fields about IPv6 are in `ipv6`. -/
structure SysmNetInterfaceConfig where
  name : Text
  type : Text
  description : Text
  hwaddr : SysmNetAddress
  address : SysmNetAddress
  destination : SysmNetAddress
  broadcast : SysmNetAddress
  netmask : SysmNetAddress
  ipv6 : Ipv6Config
  flags : UInt64
  mtu : UInt64
  metric : UInt64
  txQueueLen : Int32

/-- `SYSM_ZERO` -/
def SysmNetInterfaceConfig.zero : SysmNetInterfaceConfig where
  name := []
  type := []
  description := []
  hwaddr := .unspec
  address := .unspec
  destination := .unspec
  broadcast := .unspec
  netmask := .unspec
  ipv6 := ⟨List.replicate 16 0, 0, 0⟩
  flags := 0
  mtu := 0
  metric := 0
  txQueueLen := 0

/-- `get_interface_type` -/
def getInterfaceType (family : UInt16) : Text :=
  match family.toNat with
  | 256 => ofString "Serial Line IP"
  | 257 => ofString "VJ Serial Line IP"
  | 258 => ofString "6-bit Serial Line IP"
  | 259 => ofString "VJ 6-bit Serial Line IP"
  | 264 => ofString "Adaptive Serial Line IP"
  | 1 => ofString "Ethernet"
  | 781 => ofString "Ash"
  | 774 => ofString "Fiber Distributed Data Interface"
  | 780 => ofString "HIPPI"
  | 3 => ofString "AMPR AX.25"
  | 270 => ofString "AMPR ROSE"
  | 0 => ofString "AMPR NET/ROM"
  | 271 => ofString "generic X.25"
  | 768 => ofString "IPIP Tunnel"
  | 512 => ofString "Point-to-Point Protocol"
  | 513 => ofString "(Cisco)-HDLC"
  | 516 => ofString "LAPB"
  | 7 => ofString "ARCnet"
  | 15 => ofString "Frame Relay DLCI"
  | 770 => ofString "Frame Relay Access Device"
  | 776 => ofString "IPv6-in-IPv4"
  | 783 => ofString "IrLAP"
  | 782 => ofString "Econet"
  | _ => ofString "UNSPEC"

/-- `sysm_net_address_set` behind an `ioctl` that may fail. -/
def setAddress (val : Option UInt32) (old : SysmNetAddress) : SysmNetAddress :=
  match val with
  | some val => .inet val
  | none => old

/-- The flags of `ifr_flags`, a `short`, with those that have other bits in the library. -/
def interfaceFlags (ifrFlags : Int16) : UInt64 :=
  let flags := ifrFlags.toInt64.toUInt64
  let isMcast := flags &&& 0x1000 ≠ 0
  let isSlave := flags &&& 0x800 ≠ 0
  let isMaster := flags &&& 0x400 ≠ 0
  let isDynamic := flags &&& 0x8000 ≠ 0
  let flags := flags &&& ~~~(0x1000 ||| 0x800 ||| 0x400)
  let flags := if isMcast then flags ||| 0x800 else flags
  let flags := if isSlave then flags ||| 0x1000 else flags
  let flags := if isMaster then flags ||| 0x2000 else flags
  if isDynamic then flags ||| 0x4000 else flags

/-- `sysm_net_interface_config_get` for a name. A name that does not fit into
`ifr_name` is a fault. -/
def netInterfaceConfigGet (machine : ConfigMachine) (name : Text) : Option (Int × SysmNetInterfaceConfig) :=
  let kernel := machine.interface name
  match kernel.socket with
  | .error errno => some (errno.1, .zero)
  | .ok () =>
    if ifNamSiz ≤ name.length then none
    else
      let ifconfig := { SysmNetInterfaceConfig.zero with
        name
        address := setAddress kernel.address .unspec
        netmask := setAddress kernel.netmask .unspec }
      match kernel.flags with
      | .error errno => some (errno.1, ifconfig)
      | .ok ifrFlags => do
        let ifconfig := { ifconfig with flags := interfaceFlags ifrFlags }
        let ifconfig :=
          if ifconfig.flags &&& sysmIffLoopback ≠ 0 then { ifconfig with
            destination := .inet ifconfig.address.addrIn
            broadcast := .inet 0
            hwaddr := .link (List.replicate 8 0)
            type := ofString "Local Loopback" }
          else
            let ifconfig := { ifconfig with
              destination := setAddress kernel.destination .unspec
              broadcast := setAddress kernel.broadcast .unspec }
            match kernel.hwaddr with
            | some hwaddr => { ifconfig with
                type := getInterfaceType hwaddr.saFamily
                hwaddr := .link (hwaddr.saData.take 6 ++ [0, 0]) }
            | none => ifconfig
        let ifconfig := { ifconfig with
          mtu := (kernel.mtu.getD 0).toInt64.toUInt64
          metric := match kernel.metric with
            | some metric => if metric ≠ 0 then metric.toInt64.toUInt64 else 1
            | none => 0
          txQueueLen := kernel.txQueueLen.getD (-1)
          description := ifconfig.name }
        let (_, ipv6) ← sysmNetInterfaceIpv6ConfigGet machine.inet6Memory machine.ifInet6 name ⟨List.replicate 16 0, 0, 0⟩
        return (0, { ifconfig with ipv6 })

/-- `hwaddr.addr.in`: the bytes of the address as a word, of which there are four. -/
def SysmNetAddress.word : SysmNetAddress → UInt32
  | .link mac => UInt32.ofNat ((mac.take 4).foldr (fun byte word => byte.toNat + 256 * word) 0)
  | address => address.addrIn

/-- The loop of `sysm_net_interface_config_primary_get`: whether an interface
has been found, the one that is kept in case there is none, and the last one
that was read. -/
def primaryLoop (machine : ConfigMachine) : List Text → SysmNetInterfaceConfig → SysmNetInterfaceConfig →
    Option (Bool × SysmNetInterfaceConfig × SysmNetInterfaceConfig)
  | [], possible, ifconfig => some (false, possible, ifconfig)
  | name :: names, possible, _ => do
    let (status, ifconfig) ← netInterfaceConfigGet machine name
    if status ≠ 0 ∨ ifconfig.flags &&& sysmIffLoopback ≠ 0 ∨ ifconfig.hwaddr.word = 0 then
      primaryLoop machine names possible ifconfig
    else
      let possible := if possible.flags = 0 then ifconfig else possible
      if ifconfig.address.word = 0 then primaryLoop machine names possible ifconfig
      -- alias
      else if 58 ∈ name then primaryLoop machine names possible ifconfig
      else return (true, possible, ifconfig)

/-- `sysm_net_interface_config_primary_get`, with what its call of
`sysm_net_interface_list_get` brings and what the memory of `possible_config` holds. -/
def sysmNetInterfaceConfigPrimaryGet (machine : ConfigMachine) (iflist : Option (Ifconf × Except Int (GrowList Text)))
    (memory ifconfig : SysmNetInterfaceConfig) : Option ((Int × SysmNetInterfaceConfig) × Ifconf) := do
  match ← iflist with
  | (conf, .error status) => return ((status, ifconfig), conf)
  | (conf, .ok iflist) =>
    let (found, possible, ifconfig) ← primaryLoop machine iflist.items { memory with flags := 0 } ifconfig
    if found then return ((0, ifconfig), conf)
    else if possible.flags ≠ 0 then return ((0, possible), conf)
    else return (( ENXIO, ifconfig), conf)

end Sysm
