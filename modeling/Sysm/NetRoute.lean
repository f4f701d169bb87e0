import Sysm.Lib.Scanf
import Sysm.NetTable

namespace Sysm
open CString

/-- `SYSM_NET_ROUTE_LIST_MAX` -/
def sysmNetRouteListMax : Nat := 6

/-- `RTF_UP` -/
def rtfUp : UInt32 := 0x0001

/-- `SYSM_RTF_GATEWAY` -/
def sysmRtfGateway : UInt64 := 0x2

/-- `SYSM_INET6_ADDRSTRLEN` -/
def sysmInet6AddrStrLen : Nat := 46

/-- `MAX_INTERFACE_NAME_LEN` -/
def maxInterfaceNameLen : Nat := 256

/-- `sysm_net_route_t` -/
structure SysmNetRoute where
  destination : SysmNetAddress
  gateway : SysmNetAddress
  mask : SysmNetAddress
  flags : UInt64
  refcnt : UInt64
  use : UInt64
  metric : UInt64
  mtu : UInt64
  window : UInt64
  irtt : UInt64
  ifname : Text
deriving Repr, DecidableEq

/-- `ROUTE_FMT` -/
def routeFmt : List Conversion :=
  [.string 16, .string 128, .string 128, .hex, .long, .long, .long, .string 128, .long, .long, .long]

/-- A variable of type `long` that the conversion stores to, if it is made. -/
def longAt (items : List Scanned) (index : Nat) (old : UInt64) : UInt64 :=
  match items[index]? with
  | some (.long value) => value
  | _ => old

def hexAt (items : List Scanned) (index : Nat) (old : UInt32) : UInt32 :=
  match items[index]? with
  | some (.hex value) => value
  | _ => old

/-- A buffer of `room` bytes that the conversion stores to, if it is made. -/
def stringAt (items : List Scanned) (index room : Nat) (old : Text) : Option Text :=
  match items[index]? with
  | some (.string text) => if text.length < room then some text else none
  | _ => some old

/-- The body of the loop of `sysm_net_route_list_get`. The conversions store
into the cell behind the routes in use, which a route that is left out does not
take up. No variable is read that no conversion has stored to. -/
def netRouteLine (memory : Nat → SysmNetRoute) (routeList : GrowList SysmNetRoute) (buffer : Text) :
    Option (GrowList SysmNetRoute) := do
  let routeList := routeList.growFull sysmNetRouteListMax memory
  let cell ← routeList.read routeList.number
  let items := sscanf routeFmt buffer
  let num := items.length
  let ifname ← stringAt items 0 maxInterfaceNameLen cell.ifname
  let netAddr ← stringAt items 1 128 []
  let gateAddr ← stringAt items 2 128 []
  let flags := hexAt items 3 0
  let maskAddr ← stringAt items 7 128 []
  let route := { cell with
    ifname
    refcnt := longAt items 4 cell.refcnt
    use := longAt items 5 cell.use
    metric := longAt items 6 cell.metric
    mtu := longAt items 8 cell.mtu
    window := longAt items 9 cell.window
    irtt := longAt items 10 cell.irtt }
  if num < 10 ∨ flags &&& rtfUp = 0 then routeList.write routeList.number route
  else
    let destination ← hex2int netAddr hexEntLen
    let gateway ← hex2int gateAddr hexEntLen
    let mask ← hex2int maskAddr hexEntLen
    let routeList ← routeList.write routeList.number { route with
      -- an `int`
      flags := flags.toInt32.toInt64.toUInt64
      destination := .inet destination
      gateway := .inet gateway
      mask := .inet mask }
    return { routeList with number := routeList.number + 1 }

/-- `sysm_net_route_list_get`, where `file` is what opening the table brings
and `memory` what is in the memory for the list. -/
def sysmNetRouteListGet (memory : Nat → SysmNetRoute) (file : Except Int (List UInt8)) :
    Option (Except Int (GrowList SysmNetRoute)) :=
  match file with
  | .error errno => some (.error errno)
  | .ok stream => do
    let routeList ← (fgetsAll 1024 stream).tail.foldlM (netRouteLine memory) (.create sysmNetRouteListMax memory)
    return .ok routeList

/-- The digits that `sysm_inet_ntoa` writes for one octet. -/
def inetNtoaOctet (u : UInt8) : Text :=
  if 99 < u then [48 + u / 100, 48 + u % 100 / 10, 48 + u % 100 % 10]
  else if 9 < u then [48 + u / 10, 48 + u % 10]
  else [48 + u]

/-- The bytes of a word in the memory of a little-endian machine. -/
def littleEndian (word : UInt32) : List UInt8 :=
  [word.toUInt8, (word >>> 8).toUInt8, (word >>> 16).toUInt8, (word >>> 24).toUInt8]

/-- `sysm_inet_ntoa`. The NUL takes the place of the last dot. -/
def sysmInetNtoa (address : UInt32) : Text :=
  ((littleEndian address).flatMap fun u => inetNtoaOctet u ++ [46]).dropLast

def sysmEtherNtoa (mac : List UInt8) : Text :=
  [58].intercalate ((mac.take 6).map fun octet => hexFixed 2 octet.toNat)

/-- `addr.in` -/
def SysmNetAddress.addrIn : SysmNetAddress → UInt32
  | .inet addr => addr
  | .inet6 addr => addr.1
  | _ => 0

/-- `sysm_net_info_t` -/
structure SysmNetInfo where
  defaultGateway : Text
  defaultGatewayInterface : Text
  hostName : Text
  domainName : Text
  primaryDns : Text
  secondaryDns : Text
deriving Repr, DecidableEq

/-- A record that `SYSM_ZERO` has cleared. -/
def SysmNetInfo.zero : SysmNetInfo := ⟨[], [], [], [], [], []⟩

section Info

variable (inetNtop : UInt32 × UInt32 × UInt32 × UInt32 → Except Int Text)

/-- `sysm_net_address_to_string`, the status and the string. `inetNtop` is what
`inet_ntop` brings for an address of IPv6. -/
def sysmNetAddressToString : SysmNetAddress → Int × Text
  | .inet6 addr =>
    match inetNtop addr with
    | .ok text => (0, text)
    | .error errno => (errno, [])
  | .inet addr => (0, sysmInetNtoa addr)
  | .unspec => (0, sysmInetNtoa 0)
  | .link mac => (0, sysmEtherNtoa mac)

def sysmGetDefaultGateway (memory : Nat → SysmNetRoute) (file : Except Int (List UInt8)) (netInfo : SysmNetInfo) :
    Option (Int × SysmNetInfo) := do
  match ← sysmNetRouteListGet memory file with
  | .error status => return (status, netInfo)
  | .ok routeList =>
    match routeList.items.find? fun route =>
        route.flags &&& sysmRtfGateway != 0 && route.destination.addrIn == 0 with
    | some route =>
      return (0, { netInfo with
        defaultGateway := (sysmNetAddressToString inetNtop route.gateway).2
        defaultGatewayInterface := route.ifname.take maxInterfaceNameLen })
    | none => return (0, netInfo)

/-- The loop of `sysm_net_info_get` over the lines of `/etc/resolv.conf`. A
name server whose text is too long for the record is a fault. -/
def netInfoDns (netInfo : SysmNetInfo) : List Text → Option SysmNetInfo
  | [] => some netInfo
  | line :: lines =>
    let ptr := skipSpace line
    if ptr.head? = some 35 then netInfoDns netInfo lines
    else
      match strstr (ofString "nameserver") ptr with
      | none => netInfoDns netInfo lines
      | some ptr =>
        let ptr := (skipSpace (ptr.drop 10)).dropLast
        if netInfo.primaryDns = [] then
          if ptr.length < sysmInet6AddrStrLen then netInfoDns { netInfo with primaryDns := ptr } lines else none
        else if netInfo.secondaryDns = [] then
          if ptr.length < sysmInet6AddrStrLen then netInfoDns { netInfo with secondaryDns := ptr } lines else none
        else some netInfo

/-- What `sysm_net_info_get` reads: `/etc/resolv.conf` if it can be opened, what
`gethostname` and `getdomainname` write if they succeed, and the route table. -/
structure NetInfoFiles where
  resolvConf : Option (List UInt8)
  hostName : Option Text
  domainName : Option Text
  route : Except Int (List UInt8)

def sysmNetInfoGet (memory : Nat → SysmNetRoute) (files : NetInfoFiles) : Option (Int × SysmNetInfo) := do
  let netInfo ← netInfoDns .zero (fgetsAll BUFSIZ (files.resolvConf.getD []))
  let netInfo := { netInfo with
    hostName := (files.hostName.getD []).take 255
    domainName := (files.domainName.getD []).take 255 }
  let (_, netInfo) ← sysmGetDefaultGateway inetNtop memory files.route netInfo
  return (0, netInfo)

end Info

end Sysm
