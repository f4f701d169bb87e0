import Sysm.NetListenAddress

namespace Sysm

namespace Listeners

variable (listeners : Listeners) {row : NetRow} {rows : List NetRow}

/-- The values of the table of listening ports. -/
def kept (port : UInt64) : Option (Option SysmNetAddress) := (listeners.lookup port).map some

theorem mem_keys_iff (port : UInt64) : port ∈ listeners.keys ↔ listeners.lookup port ≠ none := by
  rw [ne_eq, AList.lookup_eq_none, not_not, AList.mem_keys]

theorem kept_ne_none (port : UInt64) : listeners.kept port ≠ none ↔ port ∈ listeners.keys := by
  rw [mem_keys_iff, kept, ne_eq, Option.map_eq_none_iff]

theorem mem_keys_add (port : UInt64) :
    port ∈ (listeners.add row).keys ↔ port ∈ listeners.keys ∨ row.listens = true ∧ row.port = port := by
  rw [mem_keys_iff, mem_keys_iff, lookup_add]
  by_cases here : (row.listens && row.port == port) = true
  · have both : row.listens = true ∧ row.port = port := by simpa using here
    have someKept := foldl_preferIpv4_eq_none (listeners.lookup port) [row.loAddress.address]
    rw [List.foldl_cons, List.foldl_nil] at someKept
    rw [if_pos here, ne_eq, someKept]
    simp [both]
  · have neither : ¬ (row.listens = true ∧ row.port = port) := by simpa using here
    rw [if_neg here]
    simp [neither]

theorem keys_add_subset : listeners.keys ⊆ (listeners.add row).keys :=
  fun port member => (listeners.mem_keys_add port).mpr (Or.inl member)

theorem keys_read_subset (rows : List NetRow) : listeners.keys ⊆ (listeners.read rows).keys := by
  induction rows generalizing listeners with
  | nil => exact List.Subset.refl _
  | cons row rows ih => exact List.Subset.trans listeners.keys_add_subset (ih (listeners.add row))

theorem keys_next_subset (call : ListenCall) : listeners.keys ⊆ (listeners.next call).keys := by
  cases call with
  | stat tables => exact listeners.keys_read_subset tables.rows
  | address port address tables before after =>
    rw [next]
    split
    · exact List.Subset.refl _
    · exact listeners.keys_read_subset tables.rows

theorem keys_length_le {listeners others : Listeners} (sub : listeners.keys ⊆ others.keys) :
    listeners.keys.length ≤ others.keys.length :=
  (List.subperm_of_subset listeners.keys_nodup sub).length_le

theorem known_snoc (calls : List ListenCall) (call : ListenCall) : known (calls ++ [call]) = (known calls).next call := by
  rw [known, List.foldl_append]
  rfl

theorem keys_known_subset (calls more : List ListenCall) : (known calls).keys ⊆ (known (calls ++ more)).keys := by
  induction more using List.reverseRecOn with
  | nil => simp
  | append_singleton more call ih =>
    rw [← List.append_assoc, known_snoc]
    exact List.Subset.trans ih (keys_next_subset _ call)

/-- The rows that the flags leave out do not matter when none of them is in LISTEN state. -/
theorem read_filter (selects : NetRow → Bool) (complete : ∀ row ∈ rows, row.listens = true → selects row = true) :
    listeners.read (rows.filter selects) = listeners.read rows := by
  induction rows generalizing listeners with
  | nil => rfl
  | cons row rows ih =>
    have others := fun listeners : Listeners =>
      ih listeners fun other member => complete other (List.mem_cons_of_mem _ member)
    cases selected : selects row with
    | true =>
      rw [List.filter_cons_of_pos selected]
      exact others (listeners.add row)
    | false =>
      have silent : listeners.add row = listeners := by
        unfold add
        rw [if_neg fun listens => by simp [complete row (by simp) listens] at selected]
      rw [List.filter_cons_of_neg (by simp [selected]), others, read, read, List.foldl_cons, silent]

end Listeners

variable {listeners : Listeners} {walk : NetStatWalk} {row : NetRow}

theorem sysmNetListenAddressAdd_kept {netListen : Cache SysmNetAddress} (holds : netListen.HoldsValues 32 listeners.kept)
    (clock : Clock) (listens : row.listens = true) (fits : (listeners.add row).keys.length ≤ 32) :
    ∃ netListen', sysmNetListenAddressAdd netListen clock (row.connection netconnTcp) = some netListen' ∧
      netListen'.HoldsValues 32 (listeners.add row).kept := by
  have room : (row.port :: listeners.keys).dedup.length ≤ (32 : UInt32).toNat := by
    have sub : (row.port :: listeners.keys).dedup ⊆ (listeners.add row).keys := by
      intro port member
      rw [List.mem_dedup, List.mem_cons] at member
      rw [Listeners.mem_keys_add]
      rcases member with same | old
      · exact Or.inr ⟨listens, same.symm⟩
      · exact Or.inl old
    exact (List.subperm_of_subset (List.nodup_dedup _) sub).length_le.trans fits
  obtain ⟨table', entry, get, atValue, holds', stores⟩ := holds.get listeners.kept_ne_none room (clock 0) (clock 1)
  have added (address : SysmNetAddress)
      (chosen : preferIpv4 (listeners.lookup row.port) row.loAddress.address = some address) :
      Function.update listeners.kept row.port (some (some address)) = (listeners.add row).kept := by
    funext port
    rw [Listeners.kept, Listeners.lookup_add]
    by_cases same : port = row.port
    · subst same
      simp [listens, chosen]
    · rw [Function.update_of_ne same, if_neg (by simp [Ne.symm same])]
      rfl
  have atPort : (row.connection netconnTcp).loPort = row.port := rfl
  have atAddress : (row.connection netconnTcp).loAddress = row.loAddress.address := rfl
  simp only [sysmNetListenAddressAdd, atPort, atAddress, get, atValue, Option.bind_eq_bind, Option.bind_some]
  obtain ⟨stored, store, holds''⟩ := stores row.loAddress.address
  cases old : listeners.lookup row.port with
  | none =>
    have nothing : (listeners.kept row.port).getD none = none := by simp [Listeners.kept, old]
    rw [added _ (by rw [old]; rfl)] at holds''
    simp only [nothing]
    exact ⟨stored, store, holds''⟩
  | some address =>
    have present : (listeners.kept row.port).getD none = some address := by simp [Listeners.kept, old]
    simp only [present]
    cases inet6 : row.loAddress.address.isInet6 with
    | true =>
      rw [present, added address (by rw [old]; simp [preferIpv4, inet6])] at holds'
      exact ⟨table', by simp, holds'⟩
    | false =>
      rw [added _ (by rw [old]; simp [preferIpv4, inet6])] at holds''
      exact ⟨stored, by simpa using store, holds''⟩

theorem netStatWalker_kept (holds : walk.netListen.HoldsValues 32 listeners.kept) (valid : row.state < 14)
    (fits : (listeners.add row).keys.length ≤ 32) :
    ∃ walk', netStatWalker (row.connection netconnTcp) walk = some (0, walk') ∧
      walk'.netListen.HoldsValues 32 (listeners.add row).kept := by
  obtain ⟨netStat, counted, _, _⟩ := countState_connection walk.netStat netconnTcp valid
  have isTcp : (row.connection netconnTcp).type = netconnTcp := rfl
  suffices ∃ walk', netStatTcp (row.connection netconnTcp) walk = some walk' ∧
      walk'.netListen.HoldsValues 32 (listeners.add row).kept by
    obtain ⟨walk', step, holds'⟩ := this
    refine ⟨walk'.setTotals, ?_, holds'⟩
    simp only [netStatWalker, isTcp, if_true, step, Option.bind_eq_bind, Option.bind_some, Option.pure_def]
  have atListen := connection_listens row netconnTcp
  simp only [netStatTcp, counted, Option.bind_eq_bind, Option.bind_some, Option.pure_def]
  cases listens : row.listens with
  | true =>
    obtain ⟨netListen, add, holds'⟩ := sysmNetListenAddressAdd_kept holds walk.clock listens fits
    refine ⟨⟨netListen, netStat, walk.clock.later⟩, ?_, holds'⟩
    rw [if_pos (atListen.mpr listens), add, Option.bind_some]
  | false =>
    have notListen : ¬ (row.connection netconnTcp).state = tcpListen := by
      rw [atListen, listens]
      exact Bool.false_ne_true
    have silent : listeners.add row = listeners := if_neg (by simp [listens])
    obtain ⟨netListen, found, find, holds', _⟩ :=
      holds.find (row.connection netconnTcp).loPort (walk.clock 0) (walk.clock 1)
    rw [silent]
    simp only [if_neg notListen, find, Option.bind_some]
    exact ⟨_, rfl, holds'⟩

theorem handOver_kept {rows : List NetRow} (holds : walk.netListen.HoldsValues 32 listeners.kept)
    (valid : ∀ row ∈ rows, row.state < 14) (fits : (listeners.read rows).keys.length ≤ 32) :
    ∃ walk', handOver netStatWalker (rows.map fun row => row.connection netconnTcp) walk = some walk' ∧
      walk'.netListen.HoldsValues 32 (listeners.read rows).kept := by
  induction rows generalizing listeners walk with
  | nil => exact ⟨walk, rfl, holds⟩
  | cons row rows ih =>
    have first := Listeners.keys_length_le ((listeners.add row).keys_read_subset rows)
    obtain ⟨middle, step, holds₁⟩ := netStatWalker_kept holds (valid row (by simp)) (first.trans fits)
    obtain ⟨walk', run, holds₂⟩ := ih holds₁ (fun other member => valid other (by simp [member])) fits
    refine ⟨walk', ?_, holds₂⟩
    simp only [List.map_cons, handOver, step, Option.bind_eq_bind, Option.bind_some, ne_eq, not_true_eq_false, if_false,
      run]

/-- The table of listening ports holds what is known, and is not made before anything is. -/
def SysmT.KeepsListeners (sysm : SysmT) (listeners : Listeners) : Prop :=
  match sysm.netListen with
  | none => listeners = ∅
  | some table => table.HoldsValues 32 listeners.kept

theorem SysmT.KeepsListeners.made {sysm : SysmT} (keeps : sysm.KeepsListeners listeners) (created : UInt64) :
    (sysm.netListen.getD (sysmCacheNew _ 32 created)).HoldsValues 32 listeners.kept := by
  unfold SysmT.KeepsListeners at keeps
  cases atTable : sysm.netListen with
  | none =>
    rw [atTable] at keeps
    rw [show listeners = ∅ from keeps]
    exact Cache.holdsValues_new (by decide) created
  | some table =>
    rw [atTable] at keeps
    exact keeps

theorem procNetRead_kept {flags : UInt32} {table : NetTable} (complete : ∀ row ∈ table.rows, row.listens = true → row.selected flags = true)
    (holds : walk.netListen.HoldsValues 32 listeners.kept) (valid : ∀ row ∈ table.rows, row.state < 14)
    (fits : (listeners.read table.rows).keys.length ≤ 32) :
    ∃ walk', procNetRead netStatWalker flags netconnTcp (.ok table.bytes) walk = some (0, walk') ∧
      walk'.netListen.HoldsValues 32 (listeners.read table.rows).kept := by
  have same := listeners.read_filter (fun row => row.selected flags) complete
  rw [← same] at fits ⊢
  obtain ⟨walk', run, holds'⟩ := handOver_kept holds
    (fun row member => valid row (List.mem_of_mem_filter member)) fits
  refine ⟨walk', ?_, holds'⟩
  rw [procNetRead_table, run]
  rfl

theorem sysmNetStatGet_kept {flags : UInt32} (tcpFlag : ¬ flags &&& netconnTcp = 0) (udpFlag : flags &&& netconnUdp = 0)
    (rawFlag : flags &&& netconnRaw = 0) {call : NetStatCall}
    (complete : ∀ row ∈ call.rows, row.listens = true → row.selected flags = true) {sysm : SysmT}
    (keeps : sysm.KeepsListeners listeners) (fits : (listeners.read call.rows).keys.length ≤ 32) :
    ∃ netStat table, sysmNetStatGet sysm flags call.created call.clock call.files =
      some ((0, netStat), { sysm with netListen := some table }) ∧
        table.HoldsValues 32 (listeners.read call.rows).kept := by
  let start : NetStatWalk := ⟨sysm.netListen.getD (sysmCacheNew _ 32 call.created), .zero, call.clock⟩
  have udp (walk : NetStatWalk) : procNetBoth netStatWalker flags netconnUdp call.files.udp call.files.udp6 walk =
      some (0, walk) := if_pos udpFlag
  have raw (walk : NetStatWalk) : procNetBoth netStatWalker flags netconnRaw call.files.raw call.files.raw6 walk =
      some (0, walk) := if_pos rawFlag
  suffices ∃ walk, procNetBoth netStatWalker flags netconnTcp call.files.tcp call.files.tcp6 start = some (0, walk) ∧
      walk.netListen.HoldsValues 32 (listeners.read call.rows).kept by
    obtain ⟨walk, both, holds⟩ := this
    refine ⟨walk.netStat, walk.netListen, ?_, holds⟩
    simp only [start] at both
    simp only [sysmNetStatGet, sysmNetConnectionWalk, both, udp, raw, Option.bind_eq_bind, Option.bind_some, ne_eq,
      not_true_eq_false, if_false, Option.pure_def]
  have atTcp : call.files.tcp = .ok call.tcp.bytes := rfl
  have split : listeners.read call.rows =
      (listeners.read call.tcp.rows).read ((call.tcp6.map NetTable.rows).getD []) := List.foldl_append
  have firstFits := Listeners.keys_length_le
    ((listeners.read call.tcp.rows).keys_read_subset ((call.tcp6.map NetTable.rows).getD []))
  rw [← split] at firstFits
  obtain ⟨middle, first, holds₁⟩ := @procNetRead_kept listeners start flags call.tcp
    (fun row member => complete row (List.mem_append_left _ member)) (keeps.made call.created) call.known
    (firstFits.trans fits)
  cases atTcp6 : call.tcp6 with
  | none =>
    have missing : call.files.tcp6 = .error ENOENT := by simp [NetStatCall.files, atTcp6]
    have rows : call.rows = call.tcp.rows := by simp [NetStatCall.rows, atTcp6]
    refine ⟨middle, ?_, by rw [rows]; exact holds₁⟩
    rw [procNetBoth, if_neg tcpFlag, atTcp, first, missing]
    rfl
  | some table =>
    have present : call.files.tcp6 = .ok table.bytes := by simp [NetStatCall.files, atTcp6]
    have rows : call.rows = call.tcp.rows ++ table.rows := by simp [NetStatCall.rows, atTcp6]
    simp only [atTcp6, Option.map_some, Option.getD_some] at split
    rw [split] at fits ⊢
    obtain ⟨walk, second, holds₂⟩ := @procNetRead_kept _ middle flags table
      (fun row member => complete row (by rw [rows]; exact List.mem_append_right _ member)) holds₁
      (call.known6 table atTcp6) fits
    refine ⟨walk, ?_, holds₂⟩
    rw [procNetBoth, if_neg tcpFlag, atTcp, first, present]
    simp only [Option.bind_eq_bind, Option.bind_some, second]
    rfl

theorem netListenFind_kept {sysm : SysmT} (keeps : sysm.KeepsListeners listeners) (port : UInt64) (clock : Clock) :
    ∃ netListen, netListenFind sysm.netListen port clock = some ((listeners.lookup port).isSome, netListen) ∧
      ({ sysm with netListen } : SysmT).KeepsListeners listeners := by
  unfold SysmT.KeepsListeners at keeps
  cases atTable : sysm.netListen with
  | none =>
    rw [atTable] at keeps
    rw [show listeners = ∅ from keeps]
    exact ⟨none, rfl, rfl⟩
  | some table =>
    rw [atTable] at keeps
    obtain ⟨table', found, find, holds, known⟩ := keeps.find port (clock 0) (clock 1)
    have same : found.isSome = (listeners.lookup port).isSome := by
      rw [Bool.eq_iff_iff, known, Listeners.kept, ne_eq, Option.map_eq_none_iff, Option.isSome_iff_ne_none]
    refine ⟨some table', ?_, holds⟩
    simp only [netListenFind, find, Option.map_some, same]

/-- `SYSM_NETCONN_SERVER | SYSM_NETCONN_TCP` leaves out no row in LISTEN state. -/
theorem SocketTables.complete (tables : SocketTables) :
    ∀ row ∈ tables.rows, row.listens = true → row.selected (netconnServer ||| netconnTcp) = true := by
  intro row member listens
  rw [NetRow.selected, if_pos (tables.unconnected row member listens)]
  decide

/-- The table is there after the call, and knows the port if it is in the tables. -/
theorem netListenRefresh_kept {sysm : SysmT} (keeps : sysm.KeepsListeners listeners) (port : UInt64) (address : SysmNetAddress)
    (tables : SocketTables) (before after : Clock)
    (fits : (listeners.next (.address port address tables before after)).keys.length ≤ 32) :
    ∃ table, netListenRefresh sysm (listeners.lookup port).isSome tables.created tables.clock tables.files =
      some (0, { sysm with netListen := some table }) ∧
        table.HoldsValues 32 (listeners.next (.address port address tables before after)).kept := by
  rw [Listeners.next] at fits ⊢
  cases known : (listeners.lookup port).isSome with
  | true =>
    unfold SysmT.KeepsListeners at keeps
    cases atTable : sysm.netListen with
    | none =>
      rw [atTable] at keeps
      rw [show listeners = ∅ from keeps] at known
      cases known
    | some table =>
      rw [atTable] at keeps
      refine ⟨table, ?_, keeps⟩
      rw [netListenRefresh, if_pos rfl, ← atTable]
  | false =>
    rw [known, if_neg Bool.false_ne_true] at fits
    obtain ⟨netStat, table, refresh, holds⟩ :=
      sysmNetStatGet_kept (by decide) (by decide) (by decide) tables.complete keeps fits
    refine ⟨table, ?_, holds⟩
    rw [netListenRefresh, if_neg Bool.false_ne_true, refresh]
    rfl

/-- What the source answers to a query: the address kept for the port. -/
def Listeners.reply (listeners : Listeners) (port : UInt64) (address : SysmNetAddress) : Int × SysmNetAddress :=
  match listeners.lookup port with
  | some kept => (0, kept)
  | none => (ENOENT, address)

theorem sysmNetListenAddressGet_spec {sysm : SysmT} (keeps : sysm.KeepsListeners listeners) (port : UInt64)
    (address : SysmNetAddress) (tables : SocketTables) (before after : Clock)
    (fits : (listeners.next (.address port address tables before after)).keys.length ≤ 32) :
    ∃ sysm', sysmNetListenAddressGet sysm port address tables.created before tables.clock after tables.files =
      some ((listeners.next (.address port address tables before after)).reply port address, sysm') ∧
        sysm'.KeepsListeners (listeners.next (.address port address tables before after)) := by
  obtain ⟨netListen, find, keeps'⟩ := netListenFind_kept keeps port before
  obtain ⟨table, refresh, holds⟩ := netListenRefresh_kept keeps' port address tables before after fits
  generalize listeners.next (.address port address tables before after) = latest at fits holds ⊢
  obtain ⟨table₁, found, find', holds₁, known⟩ := holds.find port (after 0) (after 1)
  simp only [sysmNetListenAddressGet, find, refresh, find', Option.bind_eq_bind, Option.bind_some, ne_eq,
    not_true_eq_false, if_false]
  rw [latest.kept_ne_none, latest.mem_keys_iff] at known
  cases found with
  | none =>
    have missing : latest.lookup port = none := by simpa using known
    simp only [Listeners.reply, missing]
    exact ⟨_, rfl, holds₁⟩
  | some entry =>
    have member : port ∈ latest.keys := (latest.mem_keys_iff port).mpr (known.mp rfl)
    obtain ⟨kept, atPort⟩ := Option.ne_none_iff_exists'.mp (known.mp rfl)
    have room : (port :: latest.keys).dedup.length ≤ (32 : UInt32).toNat := by
      rw [List.dedup_cons_of_mem member, latest.keys_nodup.dedup]
      exact fits
    have value : (latest.kept port).getD none = some kept := by rw [Listeners.kept, atPort]; rfl
    obtain ⟨table₂, entry', get, atValue, holds₂, _⟩ := holds₁.get latest.kept_ne_none room (after 2) (after 3)
    have unchanged : Function.update latest.kept port (some (some kept)) = latest.kept := by
      rw [Function.update_eq_self_iff, Listeners.kept, atPort]
      rfl
    rw [value] at atValue holds₂
    rw [unchanged] at holds₂
    simp only [Listeners.reply, atPort, get, atValue, Option.bind_some]
    exact ⟨_, rfl, holds₂⟩

/-- What a call answers when these listeners are known. -/
def Listeners.answer (listeners : Listeners) : ListenCall → Option (Int × SysmNetAddress)
  | .stat _ => none
  | .address port address tables before after =>
    some ((listeners.next (.address port address tables before after)).reply port address)

theorem listenStep_spec {sysm : SysmT} (keeps : sysm.KeepsListeners listeners) (call : ListenCall)
    (fits : (listeners.next call).keys.length ≤ 32) :
    ∃ sysm', listenStep sysm call = some (listeners.answer call, sysm') ∧ sysm'.KeepsListeners (listeners.next call) := by
  cases call with
  | stat tables =>
    have complete (row : NetRow) (_ : row ∈ tables.rows) (_ : row.listens = true) := selected_clientServerTcp row
    obtain ⟨netStat, table, get, holds⟩ := sysmNetStatGet_kept (by decide) (by decide) (by decide) complete keeps fits
    exact ⟨{ sysm with netListen := some table }, by rw [listenStep, get]; rfl, holds⟩
  | address port address tables before after =>
    obtain ⟨sysm', get, keeps'⟩ := sysmNetListenAddressGet_spec keeps port address tables before after fits
    exact ⟨sysm', by rw [listenStep, get]; rfl, keeps'⟩

/-- While the ports fit into the table, it keeps what has been found. -/
theorem listenRun_spec {opened : SysmT} (noTable : opened.netListen = none) {calls : List ListenCall}
    (few : (Listeners.known calls).keys.length ≤ 32) :
    ∃ answers sysm, Machine.run listenStep opened calls = some (answers, sysm) ∧
      sysm.KeepsListeners (Listeners.known calls) := by
  induction calls using List.reverseRecOn with
  | nil =>
    refine ⟨[], opened, rfl, ?_⟩
    rw [SysmT.KeepsListeners, noTable]
    rfl
  | append_singleton calls call ih =>
    have before := Listeners.keys_length_le (Listeners.keys_known_subset calls [call])
    obtain ⟨answers, middle, run, keeps⟩ := ih (before.trans few)
    rw [Listeners.known_snoc] at few ⊢
    obtain ⟨final, step, keeps'⟩ := listenStep_spec keeps call few
    exact ⟨_, final, Machine.run_snoc_iff.mpr ⟨answers, middle, _, run, step, rfl⟩, keeps'⟩

/-- A port that is not known, or whose address is still right. -/
def Listeners.UpToDate (listeners : Listeners) (rows : List NetRow) (port : UInt64) : Prop :=
  ∀ kept, listeners.lookup port = some kept → ListensAt rows port kept

theorem Listeners.answersListener_iff (port : UInt64) (address : SysmNetAddress) (tables : SocketTables)
    (before after : Clock) :
    AnswersListener tables.rows port ((listeners.next (.address port address tables before after)).reply port address) ↔
      listeners.UpToDate tables.rows port := by
  unfold UpToDate
  rw [Listeners.next]
  cases known : listeners.lookup port with
  | none =>
    obtain ⟨missing, right⟩ := Listeners.read_unknown known tables.rows
    have atReply : AnswersListener tables.rows port ((listeners.read tables.rows).reply port address) := by
      unfold Listeners.reply
      cases found : (listeners.read tables.rows).lookup port with
      | none =>
        have noRow := missing.mp found
        exact ⟨by simp [noRow, ENOENT], fun _ => rfl, by simp [ENOENT]⟩
      | some kept =>
        have someRow : listenersOn tables.rows port ≠ [] := fun noRow => by simp [missing.mpr noRow] at found
        exact ⟨by simp [someRow], by simp, fun _ => right kept found⟩
    simpa using atReply
  | some kept =>
    simp only [Option.isSome_some, if_true, Listeners.reply, known]
    constructor
    · intro answers other same
      cases same
      exact answers.address rfl
    · intro right
      have listens := right kept rfl
      exact ⟨by simp [List.ne_nil_of_mem listens.1], by simp, fun _ => listens⟩

/-- As long as no more than 32 ports have been found in LISTEN state, the
answers are right exactly if each port asked for is not known yet, or the
address kept for it is still right. -/
theorem answersListeners_iff (opened : SysmT) (noTable : opened.netListen = none) (calls : List ListenCall)
    (few : (Listeners.known calls).keys.length ≤ 32) :
    AnswersListeners opened calls ↔ ∀ before port address tables clock clock' after,
      calls = before ++ .address port address tables clock clock' :: after →
        (Listeners.known before).UpToDate tables.rows port := by
  have reached (before : List ListenCall) (port : UInt64) (address : SysmNetAddress) (tables : SocketTables)
      (clock clock' : Clock) (after : List ListenCall)
      (split : calls = before ++ .address port address tables clock clock' :: after) :
      ∃ answers sysm sysm', Machine.run listenStep opened before = some (answers, sysm) ∧
        listenStep sysm (.address port address tables clock clock') =
          some ((Listeners.known before).answer (.address port address tables clock clock'), sysm') := by
    rw [split] at few
    have first := Listeners.keys_length_le
      (Listeners.keys_known_subset before (.address port address tables clock clock' :: after))
    obtain ⟨answers, sysm, run, keeps⟩ := listenRun_spec noTable (first.trans few)
    have second := Listeners.keys_length_le
      (Listeners.keys_known_subset (before ++ [.address port address tables clock clock']) after)
    rw [Listeners.known_snoc, List.append_assoc, List.singleton_append] at second
    obtain ⟨sysm', step, _⟩ := listenStep_spec keeps (.address port address tables clock clock') (second.trans few)
    exact ⟨answers, sysm, sysm', run, step⟩
  constructor
  · intro answered before port address tables clock clock' after split
    obtain ⟨answers, sysm, reply, sysm', run, step, right⟩ :=
      answered before port address tables clock clock' after split
    obtain ⟨others, same, final, run', step'⟩ := reached before port address tables clock clock' after split
    cases run.symm.trans run'
    cases step.symm.trans step'
    exact ((Listeners.known before).answersListener_iff port address tables clock clock').mp right
  · intro upToDate before port address tables clock clock' after split
    obtain ⟨answers, sysm, sysm', run, step⟩ := reached before port address tables clock clock' after split
    refine ⟨answers, sysm, _, sysm', run, step, ?_⟩
    rw [Listeners.answersListener_iff]
    exact upToDate before port address tables clock clock' after split

def servedTables : SocketTables := ⟨servedCall, by decide⟩

def stoppedTables : SocketTables := ⟨stoppedCall, by decide⟩

/-- The address of the server on port 80 is asked for. -/
def askFor80 (tables : SocketTables) : ListenCall := .address 80 (.inet 0) tables (fun _ => 0) fun _ => 0

theorem answersListeners_served_twice : AnswersListeners openedSysm [askFor80 servedTables, askFor80 servedTables] := by
  refine (answersListeners_iff openedSysm rfl _ (by decide +kernel)).mpr ?_
  intro before port address tables clock clock' after split kept found
  obtain _ | ⟨first, _ | ⟨second, others⟩⟩ := before
  · cases found
  · cases split
    have value : (Listeners.known [askFor80 servedTables]).lookup 80 = some (.inet 0x0100007F) := by decide +kernel
    cases value.symm.trans found
    exact ⟨by decide +kernel, fun _ => rfl⟩
  · simp at split

/-- The server has been stopped, and its address is still given. -/
theorem sysmNetListenAddressGet_stale :
    ¬ ∀ memory opened getpagesize ticks procStat calls, sysmOpen memory getpagesize ticks procStat = .ok opened →
      AnswersListeners opened calls := by
  intro claim
  obtain ⟨answers, sysm, reply, sysm', run, step, right⟩ := claim .zero openedSysm 4096 100 (.ok [])
    [askFor80 servedTables, askFor80 stoppedTables] rfl [askFor80 servedTables] 80 (.inet 0) stoppedTables (fun _ => 0)
    (fun _ => 0) [] rfl
  have replied : (Machine.run listenStep openedSysm [askFor80 servedTables]).bind (fun result =>
      (listenStep result.2 (askFor80 stoppedTables)).map fun answer => answer.1) =
        some (some (0, .inet 0x0100007F)) := by decide +kernel
  rw [run, Option.bind_some, askFor80, step, Option.map_some] at replied
  cases replied
  have noRow : listenersOn stoppedTables.rows 80 = [] := by decide +kernel
  exact right.found.mp rfl noRow

end Sysm
