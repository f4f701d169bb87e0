import Mathlib.Data.List.AList
import Sysm.NetStatRuns

namespace Sysm

/-- The first lookup, in a table that may not have been made yet. -/
def netListenFind (netListen : Option (Cache SysmNetAddress)) (port : UInt64) (clock : Clock) :
    Option (Bool × Option (Cache SysmNetAddress)) :=
  match netListen with
  | none => some (false, none)
  | some table => (sysmCacheFind table port (clock 0) (clock 1)).map fun (table, found) => (found.isSome, some table)

/-- The call of `sysm_net_stat_get` for a port that is not known. -/
def netListenRefresh (sysm : SysmT) (known : Bool) (created : UInt64) (clock : Clock) (files : NetFiles) :
    Option (Int × SysmT) :=
  if known then some (0, sysm)
  else (sysmNetStatGet sysm (netconnServer ||| netconnTcp) created clock files).map fun (reply, sysm) => (reply.1, sysm)

/-- `sysm_net_listen_address_get`. The clock is read `before`, `during` and
`after` the call of `sysm_net_stat_get`. A null value cannot be copied. -/
def sysmNetListenAddressGet (sysm : SysmT) (port : UInt64) (address : SysmNetAddress) (created : UInt64)
    (before during after : Clock) (files : NetFiles) : Option ((Int × SysmNetAddress) × SysmT) := do
  let (known, netListen) ← netListenFind sysm.netListen port before
  let (status, sysm) ← netListenRefresh { sysm with netListen } known created during files
  if status ≠ 0 then return ((status, address), sysm)
  let (netListen, found) ← sysmCacheFind (← sysm.netListen) port (after 0) (after 1)
  match found with
  | some _ =>
    let (netListen, entry) ← sysmCacheGet netListen port (after 2) (after 3)
    let value ← (← netListen.value entry)
    return ((0, value), { sysm with netListen := some netListen })
  | none => return ((ENOENT, address), { sysm with netListen := some netListen })

/-- The tables of a machine. A socket that listens is connected to no port. -/
structure SocketTables extends NetStatCall where
  unconnected : ∀ row ∈ toNetStatCall.rows, row.listens = true → row.rePort = 0

/-- The two calls that use the table of listening ports, with the tables of the
machine at that time. -/
inductive ListenCall where
  | stat (tables : SocketTables)
  | address (port : UInt64) (address : SysmNetAddress) (tables : SocketTables) (before after : Clock)

def listenStep (sysm : SysmT) : ListenCall → Option (Option (Int × SysmNetAddress) × SysmT)
  | .stat tables =>
    (sysmNetStatGet sysm clientServerTcp tables.created tables.clock tables.files).map fun (_, sysm) => (none, sysm)
  | .address port address tables before after =>
    (sysmNetListenAddressGet sysm port address tables.created before tables.clock after tables.files).map
      fun (reply, sysm) => (some reply, sysm)

/-- The local addresses of the rows in LISTEN state with this local port. -/
def listenersOn (rows : List NetRow) (port : UInt64) : List SysmNetAddress :=
  (rows.filter fun row => row.listens && row.port == port).map fun row => row.loAddress.address

/-- The address is that of a row in LISTEN state with this port, an IPv4 one if there is any. -/
def ListensAt (rows : List NetRow) (port : UInt64) (address : SysmNetAddress) : Prop :=
  address ∈ listenersOn rows port ∧
    ((∃ other ∈ listenersOn rows port, other.isInet6 = false) → address.isInet6 = false)

/-- What `sysm_net_listen_address_get` is to answer about the tables of the moment. -/
structure AnswersListener (rows : List NetRow) (port : UInt64) (reply : Int × SysmNetAddress) : Prop where
  found : reply.1 = 0 ↔ listenersOn rows port ≠ []
  missing : reply.1 ≠ 0 → reply.1 = ENOENT
  address : reply.1 = 0 → ListensAt rows port reply.2

/-- Every query of a run is answered about the tables of its moment. -/
def AnswersListeners (opened : SysmT) (calls : List ListenCall) : Prop :=
  ∀ before port address tables clock clock' after, calls = before ++ .address port address tables clock clock' :: after →
    ∃ answers sysm reply sysm', Machine.run listenStep opened before = some (answers, sysm) ∧
      listenStep sysm (.address port address tables clock clock') = some (some reply, sysm') ∧
        AnswersListener tables.rows port reply

/-- The ports that have been found in LISTEN state, with the address kept for each. -/
abbrev Listeners := AList fun _ : UInt64 => SysmNetAddress

/-- Another address replaces the one kept unless it is one of IPv6. -/
def preferIpv4 (kept : Option SysmNetAddress) (address : SysmNetAddress) : Option SysmNetAddress :=
  match kept with
  | some old => if address.isInet6 then some old else some address
  | none => some address

namespace Listeners

variable (listeners : Listeners)

def add (row : NetRow) : Listeners :=
  if row.listens then
    match preferIpv4 (listeners.lookup row.port) row.loAddress.address with
    | some address => listeners.insert row.port address
    | none => listeners
  else listeners

def read (rows : List NetRow) : Listeners := rows.foldl add listeners

/-- A query for a port that is known looks at no table. -/
def next : ListenCall → Listeners
  | .stat tables => listeners.read tables.rows
  | .address port _ tables _ _ => if (listeners.lookup port).isSome then listeners else listeners.read tables.rows

/-- What is known after a run of calls. -/
def known (calls : List ListenCall) : Listeners := calls.foldl next ∅

theorem lookup_add (row : NetRow) (port : UInt64) :
    (listeners.add row).lookup port =
      if row.listens && row.port == port then preferIpv4 (listeners.lookup port) row.loAddress.address
      else listeners.lookup port := by
  unfold add
  cases listens : row.listens with
  | false => simp
  | true =>
    have kept : ∃ address, preferIpv4 (listeners.lookup row.port) row.loAddress.address = some address := by
      unfold preferIpv4
      split
      · split
        · exact ⟨_, rfl⟩
        · exact ⟨_, rfl⟩
      · exact ⟨_, rfl⟩
    obtain ⟨address, atPort⟩ := kept
    simp only [if_true, atPort, Bool.true_and, beq_iff_eq]
    by_cases same : row.port = port
    · subst same
      rw [if_pos rfl, atPort, AList.lookup_insert]
    · rw [if_neg same, AList.lookup_insert_ne (Ne.symm same)]

theorem lookup_read (rows : List NetRow) (port : UInt64) :
    (listeners.read rows).lookup port = (listenersOn rows port).foldl preferIpv4 (listeners.lookup port) := by
  induction rows generalizing listeners with
  | nil => rfl
  | cons row rows ih =>
    have others := ih (listeners.add row)
    rw [lookup_add] at others
    rw [read, List.foldl_cons]
    by_cases here : (row.listens && row.port == port) = true
    · rw [if_pos here] at others
      simp only [listenersOn, List.filter_cons, here, if_true, List.map_cons, List.foldl_cons]
      exact others
    · rw [if_neg here] at others
      simp only [listenersOn, List.filter_cons, here, Bool.false_eq_true, if_false]
      exact others

end Listeners

/-- An address is kept as soon as there is one. -/
theorem foldl_preferIpv4_eq_none (kept : Option SysmNetAddress) (addresses : List SysmNetAddress) :
    addresses.foldl preferIpv4 kept = none ↔ kept = none ∧ addresses = [] := by
  induction addresses generalizing kept with
  | nil => simp
  | cons address addresses ih =>
    rw [List.foldl_cons, ih]
    cases kept with
    | none => simp [preferIpv4]
    | some old =>
      simp only [preferIpv4]
      split
      · simp
      · simp

theorem mem_foldl_preferIpv4 {kept : Option SysmNetAddress} {addresses : List SysmNetAddress} {address : SysmNetAddress}
    (found : addresses.foldl preferIpv4 kept = some address) : kept = some address ∨ address ∈ addresses := by
  induction addresses generalizing kept with
  | nil => exact Or.inl found
  | cons first addresses ih =>
    rcases ih found with here | later
    · cases kept with
      | none => exact Or.inr (List.mem_cons.mpr (Or.inl (Option.some.inj here).symm))
      | some old =>
        simp only [preferIpv4] at here
        split at here
        · exact Or.inl here
        · exact Or.inr (List.mem_cons.mpr (Or.inl (Option.some.inj here).symm))
    · exact Or.inr (List.mem_cons_of_mem _ later)

/-- An IPv4 address that is kept or comes later on is not given up for one of IPv6. -/
theorem foldl_preferIpv4_ipv4 {kept : Option SysmNetAddress} {addresses : List SysmNetAddress} {address : SysmNetAddress}
    (found : addresses.foldl preferIpv4 kept = some address)
    (ipv4 : (∃ old, kept = some old ∧ old.isInet6 = false) ∨ ∃ other ∈ addresses, other.isInet6 = false) :
    address.isInet6 = false := by
  induction addresses generalizing kept with
  | nil =>
    rcases ipv4 with ⟨old, same, inet⟩ | ⟨other, member, _⟩
    · rw [List.foldl_nil, same] at found
      cases found
      exact inet
    · simp at member
  | cons first addresses ih =>
    refine ih found ?_
    cases inet6 : first.isInet6 with
    | false =>
      left
      refine ⟨first, ?_, inet6⟩
      unfold preferIpv4
      split
      · rw [inet6]
        rfl
      · rfl
    | true =>
      rcases ipv4 with ⟨old, same, inet⟩ | ⟨other, member, inet⟩
      · left
        refine ⟨old, ?_, inet⟩
        rw [same]
        simp only [preferIpv4, inet6, if_true]
      · rcases List.mem_cons.mp member with rfl | later
        · rw [inet6] at inet
          cases inet
        · exact Or.inr ⟨other, later, inet⟩

/-- A port that is not known yet gets the right address, or none. -/
theorem Listeners.read_unknown {listeners : Listeners} {port : UInt64} (unknown : listeners.lookup port = none)
    (rows : List NetRow) :
    ((listeners.read rows).lookup port = none ↔ listenersOn rows port = []) ∧
      ∀ address, (listeners.read rows).lookup port = some address → ListensAt rows port address := by
  rw [lookup_read, unknown]
  refine ⟨(foldl_preferIpv4_eq_none _ _).trans (by simp), ?_⟩
  intro address found
  constructor
  · rcases mem_foldl_preferIpv4 found with absent | member
    · cases absent
    · exact member
  · intro ipv4
    exact foldl_preferIpv4_ipv4 found (Or.inr ipv4)

end Sysm
