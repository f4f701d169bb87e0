import Sysm.State

namespace Sysm
open CString

/-- `SYSM_NETCONN_CLIENT` -/
def netconnClient : UInt32 := 0x01

/-- `SYSM_NETCONN_SERVER` -/
def netconnServer : UInt32 := 0x02

/-- `SYSM_NETCONN_TCP` -/
def netconnTcp : UInt32 := 0x10

/-- `SYSM_NETCONN_UDP` -/
def netconnUdp : UInt32 := 0x20

/-- `SYSM_NETCONN_RAW` -/
def netconnRaw : UInt32 := 0x40

/-- `sysm_net_connection_t` -/
structure SysmNetConnection where
  loPort : UInt64
  loAddress : SysmNetAddress
  rePort : UInt64
  reAddress : SysmNetAddress
  uid : Int32
  inode : UInt64
  type : UInt32
  state : Int32
  seQ : UInt64
  reQ : UInt64
deriving Repr, DecidableEq

/-- What `hex2int` adds for a byte. A `char` is signed, and any byte that is no
digit and no upper-case letter counts as a lower-case one. -/
def hexNibble (c : UInt8) : UInt32 :=
  let ch := c.toInt8.toInt32.toUInt32
  if isDigit c then ch - 48
  else if isUpper c then ch - 55
  else ch - 87

/-- `hex2int`. It may read the NUL of the string, but nothing behind it. -/
def hex2int (x : Text) (len : Nat) : Option UInt32 :=
  if len ≤ x.length + 1 then some (((x ++ [0]).take len).foldl (fun j c => j <<< 4 ||| hexNibble c) 0)
  else none

/-- `ptr += n`, which must not get behind the NUL -/
def advance (n : Nat) (ptr : Text) : Option Text := if n ≤ ptr.length then some (ptr.drop n) else none

/-- `HEX_ENT_LEN` -/
def hexEntLen : Nat := 8

def convertHexAddress (ptr : Text) (len : Nat) : Option SysmNetAddress :=
  if hexEntLen < len then do
    let first ← hex2int ptr hexEntLen
    let ptr ← advance hexEntLen ptr
    let second ← hex2int ptr hexEntLen
    let ptr ← advance hexEntLen ptr
    let third ← hex2int ptr hexEntLen
    let ptr ← advance hexEntLen ptr
    let fourth ← hex2int ptr hexEntLen
    return .inet6 (first, second, third, fourth)
  else if len = hexEntLen then do
    let addr ← hex2int ptr hexEntLen
    return .inet addr
  else some (.inet 0)

/-- `SKIP_WHILE` -/
def skipWhile (c : UInt8) (p : Text) : Text := p.dropWhile (· == c)

/-- `SKIP_PAST` -/
def skipPast (c : UInt8) (p : Text) : Text := skipWhile c (p.dropWhile (· != c))

/-- The steps of `proc_net_read` that are made for the local and then for the
remote end: the length of the address at `ptr`, the port behind it, and the
place where the next column starts. -/
def procNetEnd (ptr : Text) : Nat × UInt64 × Text :=
  let len := (ptr.takeWhile (· != 58)).length
  let ptr := skipWhile 58 (ptr.dropWhile (· != 58))
  let (port, ptr) := strtoul 16 ptr
  (len, port &&& 0xffff, skipWhile 32 ptr)

/-- The test of the remote port against the flags of the walker. -/
def netconnSelects (flags : UInt32) (rePort : UInt64) : Bool :=
  (rePort != 0 && flags &&& netconnClient != 0) || (rePort == 0 && flags &&& netconnServer != 0)

/-- The body of the loop of `proc_net_read` for one line, up to the call of
`add_connection`. It is not reached when the flags leave the line out. -/
def procNetLine (flags type : UInt32) (line : Text) : Option (Option SysmNetConnection) :=
  let laddr := skipPast 32 (skipWhile 32 line)
  let (laddrLen, loPort, raddr) := procNetEnd laddr
  let (raddrLen, rePort, ptr) := procNetEnd raddr
  if !netconnSelects flags rePort then some none
  else do
    let loAddress ← convertHexAddress laddr laddrLen
    let reAddress ← convertHexAddress raddr raddrLen
    let state ← hex2int ptr 2
    let ptr := skipWhile 32 (← advance 2 ptr)
    let seQ ← hex2int ptr hexEntLen
    -- the number and the colon behind it
    let ptr ← advance (hexEntLen + 1) ptr
    let reQ ← hex2int ptr hexEntLen
    let ptr := skipWhile 32 (← advance hexEntLen ptr)
    -- timer and retransmits
    let ptr := skipPast 32 (skipPast 32 ptr)
    let (uid, ptr) := strtoul 10 ptr
    -- timeout
    let ptr := skipPast 32 (skipWhile 32 ptr)
    let (inode, _) := strtoul 10 ptr
    return some {
      loPort
      loAddress
      rePort
      reAddress
      uid := uid.toUInt32.toInt32
      inode
      type
      state := state.toInt32
      seQ := seQ.toUInt64
      reQ := reQ.toUInt64 }

section Walk

variable {σ : Type} (add : SysmNetConnection → σ → Option (Int × σ))

/-- The loop of `proc_net_read` over the lines behind the first one. `add` is
the function `add_connection` of the walker with what it reads and writes. -/
def procNetLines (flags type : UInt32) : List Text → σ → Option σ
  | [], state => some state
  | line :: lines, state => do
    match ← procNetLine flags type line with
    | none => procNetLines flags type lines state
    | some conn =>
      let (more, state) ← add conn state
      if more ≠ 0 then return state
      procNetLines flags type lines state

/-- `proc_net_read`, where `file` is what opening the file of the table brings. -/
def procNetRead (flags type : UInt32) (file : Except Int (List UInt8)) (state : σ) : Option (Int × σ) :=
  match file with
  | .error errno => some (errno, state)
  | .ok stream => do
    let state ← procNetLines add flags type (fgetsAll 8192 stream).tail state
    return (0, state)

end Walk

end Sysm
