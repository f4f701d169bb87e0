import Sysm.InterfaceConfig

namespace Sysm
open CString

/-- What is read for a name. -/
abbrev ConfigResult := Int × SysmNetInterfaceConfig

/-- The bytes of a hardware address. -/
def SysmNetAddress.hardware : SysmNetAddress → List UInt8
  | .link mac => mac
  | _ => []

/-- The configuration can be read, it is not that of a loopback interface, and
the hardware address is not zero. -/
def Eligible (result : ConfigResult) : Prop :=
  result.1 = 0 ∧ result.2.flags &&& sysmIffLoopback = 0 ∧ ∃ byte ∈ result.2.hwaddr.hardware, byte ≠ 0

/-- The interface has an IPv4 address and is no alias. -/
def Connected (name : Text) (result : ConfigResult) : Prop := result.2.address.addrIn ≠ 0 ∧ 58 ∉ name

/-- One of the four bytes that the library looks at is not zero. -/
def ShowsHardware (result : ConfigResult) : Prop := ∃ byte ∈ result.2.hwaddr.hardware.take 4, byte ≠ 0

instance (result : ConfigResult) : Decidable (Eligible result) := inferInstanceAs (Decidable (_ ∧ _ ∧ _))

instance (name : Text) (result : ConfigResult) : Decidable (Connected name result) := inferInstanceAs (Decidable (_ ∧ _))

instance (result : ConfigResult) : Decidable (ShowsHardware result) :=
  inferInstanceAs (Decidable (∃ byte ∈ result.2.hwaddr.hardware.take 4, byte ≠ 0))

section Word

theorem foldr_bytes_lt (bytes : List UInt8) : bytes.foldr (fun byte word => byte.toNat + 256 * word) 0 < 256 ^ bytes.length := by
  induction bytes with
  | nil => decide
  | cons byte bytes ih =>
    have small := byte.toNat_lt
    rw [List.foldr_cons, List.length_cons, Nat.pow_succ]
    omega

theorem foldr_bytes_eq_zero (bytes : List UInt8) :
    bytes.foldr (fun byte word => byte.toNat + 256 * word) 0 = 0 ↔ ∀ byte ∈ bytes, byte = 0 := by
  induction bytes with
  | nil => simp
  | cons byte bytes ih =>
    have zero : byte.toNat = 0 ↔ byte = 0 := by rw [← UInt8.toNat_inj, UInt8.toNat_zero]
    rw [List.foldr_cons, List.forall_mem_cons, ← ih, ← zero]
    omega

/-- The word is zero exactly if the four bytes are. -/
theorem word_eq_zero (mac : List UInt8) : (SysmNetAddress.link mac).word = 0 ↔ ∀ byte ∈ mac.take 4, byte = 0 := by
  have few : (mac.take 4).length ≤ 4 := List.length_take_le _ _
  have bound := foldr_bytes_lt (mac.take 4)
  have wide : 256 ^ (mac.take 4).length ≤ 256 ^ 4 := Nat.pow_le_pow_right (by omega) few
  rw [SysmNetAddress.word, ← UInt32.toNat_inj, UInt32.toNat_ofNat', UInt32.toNat_zero, ← foldr_bytes_eq_zero]
  omega

end Word

section Config

variable {machine : ConfigMachine} {name : Text} {result : ConfigResult}

/-- An address that has been set, or none, and a hardware address or none. -/
theorem netInterfaceConfigGet_spec (run : netInterfaceConfigGet machine name = some result) (ok : result.1 = 0) :
    result.2.name = name ∧ (∃ addr, result.2.address = setAddress addr .unspec) ∧
      (result.2.hwaddr = .unspec ∨ ∃ mac, result.2.hwaddr = .link mac) := by
  unfold netInterfaceConfigGet at run
  cases socket : (machine.interface name).socket with
  | error errno =>
    simp only [socket] at run
    cases run
    exact absurd ok errno.2
  | ok done =>
    simp only [socket, Option.ite_none_left_eq_some] at run
    obtain ⟨short, run⟩ := run
    cases flags : (machine.interface name).flags with
    | error errno =>
      simp only [flags] at run
      cases run
      exact absurd ok errno.2
    | ok ifrFlags =>
      simp only [flags] at run
      obtain ⟨ipv6, _, run⟩ := Option.bind_eq_some_iff.mp run
      cases run
      refine ⟨?_, ⟨(machine.interface name).address, ?_⟩, ?_⟩
      · split
        · rfl
        · cases (machine.interface name).hwaddr with
          | none => rfl
          | some hwaddr => rfl
      · split
        · rfl
        · cases (machine.interface name).hwaddr with
          | none => rfl
          | some hwaddr => rfl
      · split
        · exact Or.inr ⟨_, rfl⟩
        · cases (machine.interface name).hwaddr with
          | none => exact Or.inl rfl
          | some hwaddr => exact Or.inr ⟨_, rfl⟩

theorem word_setAddress (addr : Option UInt32) : (setAddress addr .unspec).word = (setAddress addr .unspec).addrIn := by
  cases addr with
  | none => rfl
  | some addr => rfl

/-- The interface passes the test of the loop. -/
def Passes (result : ConfigResult) : Prop := Eligible result ∧ ShowsHardware result

instance (result : ConfigResult) : Decidable (Passes result) := inferInstanceAs (Decidable (_ ∧ _))

theorem passes_iff (run : netInterfaceConfigGet machine name = some result) :
    ¬ (result.1 ≠ 0 ∨ result.2.flags &&& sysmIffLoopback ≠ 0 ∨ result.2.hwaddr.word = 0) ↔ Passes result := by
  by_cases ok : result.1 = 0
  · obtain ⟨_, _, absent | ⟨mac, link⟩⟩ := netInterfaceConfigGet_spec run ok
    · have zero : SysmNetAddress.unspec.word = 0 := rfl
      simp [Passes, Eligible, ShowsHardware, absent, zero, SysmNetAddress.hardware]
    · simp only [Passes, Eligible, ShowsHardware, link, SysmNetAddress.hardware, ok, word_eq_zero, ne_eq, not_true,
        false_or, not_or, not_not, not_forall, exists_prop, true_and]
      constructor
      · rintro ⟨lan, byte, member, nonzero⟩
        exact ⟨⟨lan, byte, List.mem_of_mem_take member, nonzero⟩, byte, member, nonzero⟩
      · rintro ⟨⟨lan, _⟩, shown⟩
        exact ⟨lan, shown⟩
  · simp [Passes, Eligible, ok]

theorem connected_iff (run : netInterfaceConfigGet machine name = some result) (ok : result.1 = 0) :
    ¬ result.2.address.word = 0 ∧ 58 ∉ name ↔ Connected name result := by
  obtain ⟨_, ⟨addr, set⟩, _⟩ := netInterfaceConfigGet_spec run ok
  rw [Connected, set, word_setAddress]

end Config

section Loop

variable (table : Text → ConfigResult) (names : List Text)

/-- The first interface that passes and is connected. -/
def firstConnected : Option Text := names.find? fun name => decide (Passes (table name) ∧ Connected name (table name))

/-- The first interface that passes and whose flags say that it is kept. -/
def firstKept : Option Text := names.find? fun name => decide (Passes (table name) ∧ (table name).2.flags ≠ 0)

variable {table names} {machine : ConfigMachine}

theorem primaryLoop_spec (reads : ∀ name ∈ names, netInterfaceConfigGet machine name = some (table name))
    (possible last : SysmNetInterfaceConfig) :
    ∃ found possible' ifconfig, primaryLoop machine names possible last = some (found, possible', ifconfig) ∧
      (∀ name, firstConnected table names = some name → found = true ∧ ifconfig = (table name).2) ∧
        (firstConnected table names = none → found = false ∧ (possible.flags ≠ 0 → possible' = possible) ∧
          (possible.flags = 0 → (∀ name, firstKept table names = some name → possible' = (table name).2) ∧
            (firstKept table names = none → possible'.flags = 0))) := by
  induction names generalizing possible last with
  | nil =>
    refine ⟨false, possible, last, rfl, fun name first => ?_, fun _ => ⟨rfl, fun _ => rfl, fun absent => ⟨fun name first => ?_, fun _ => absent⟩⟩⟩
    · cases first
    · cases first
  | cons name names ih =>
    have here := reads name (List.mem_cons_self ..)
    have others := ih fun other member => reads other (List.mem_cons_of_mem _ member)
    have passes := passes_iff here
    by_cases passed : Passes (table name)
    · have skip := passes.mpr passed
      have ok : (table name).1 = 0 := passed.1.1
      have connected := connected_iff here ok
      by_cases linked : Connected name (table name)
      · obtain ⟨address, noAlias⟩ := connected.mpr linked
        have first : firstConnected table (name :: names) = some name := List.find?_cons_of_pos (by simp [passed, linked])
        refine ⟨true, if possible.flags = 0 then (table name).2 else possible, (table name).2, ?_, fun other same => ?_,
          fun absent => ?_⟩
        · simp only [primaryLoop, here, Option.bind_eq_bind, Option.bind_some, if_neg skip, if_neg address, if_neg noAlias,
            Option.pure_def]
        · cases first.symm.trans same
          exact ⟨rfl, rfl⟩
        · cases first.symm.trans absent
      · have first : firstConnected table (name :: names) = firstConnected table names :=
          List.find?_cons_of_neg (by simp [linked])
        obtain ⟨found, possible', ifconfig, run, onFound, onNone⟩ :=
          others (if possible.flags = 0 then (table name).2 else possible) (table name).2
        refine ⟨found, possible', ifconfig, ?_, ?_, ?_⟩
        · simp only [primaryLoop, here, Option.bind_eq_bind, Option.bind_some, if_neg skip]
          by_cases address : (table name).2.address.word = 0
          · rw [if_pos address, run]
          · have colon : 58 ∈ name := by
              by_contra noAlias
              exact linked (connected.mp ⟨address, noAlias⟩)
            rw [if_neg address, if_pos colon, run]
        · rw [first]
          exact onFound
        · rw [first]
          intro absent
          obtain ⟨notFound, old, new⟩ := onNone absent
          refine ⟨notFound, fun set => ?_, fun unset => ?_⟩
          · rw [if_neg set] at old
            exact old set
          · rw [if_pos unset] at old new
            by_cases flags : (table name).2.flags = 0
            · have later : firstKept table (name :: names) = firstKept table names :=
                List.find?_cons_of_neg (by simp [flags])
              rw [later]
              exact new flags
            · have kept : firstKept table (name :: names) = some name := List.find?_cons_of_pos (by simp [passed, flags])
              rw [kept]
              refine ⟨fun other same => ?_, fun absent => by cases absent⟩
              cases same
              exact old flags
    · have skip := not_not.mp (mt passes.mp passed)
      have first : firstConnected table (name :: names) = firstConnected table names :=
        List.find?_cons_of_neg (by simp [passed])
      have kept : firstKept table (name :: names) = firstKept table names := List.find?_cons_of_neg (by simp [passed])
      obtain ⟨found, possible', ifconfig, run, onFound, onNone⟩ := others possible (table name).2
      refine ⟨found, possible', ifconfig, ?_, ?_, ?_⟩
      · simp only [primaryLoop, here, Option.bind_eq_bind, Option.bind_some, if_pos skip, run]
      · rw [first]
        exact onFound
      · rw [first, kept]
        exact onNone

variable (table names) in
/-- The first interface that can be used and is connected, or the first one that can be used. -/
def primaryName : Option Text :=
  (names.find? fun name => decide (Eligible (table name) ∧ Connected name (table name))).or
    (names.find? fun name => decide (Eligible (table name)))

/-- The result is the primary interface, or `ENXIO` if there is none. -/
structure PicksPrimary (table : Text → ConfigResult) (names : List Text) (result : ConfigResult) : Prop where
  ok : result.1 = 0 ↔ ∃ name ∈ names, Eligible (table name)
  primary : ∀ name, primaryName table names = some name → result.2 = (table name).2
  missing : (∀ name ∈ names, ¬ Eligible (table name)) → result.1 = ENXIO

/-- What is found with a weaker test is found with a stronger one that it passes. -/
theorem find?_stronger {p q : Text → Bool} {name : Text} (found : names.find? p = some name)
    (stronger : ∀ other, q other = true → p other = true) (here : q name = true) : names.find? q = some name := by
  obtain ⟨_, before, after, split, others⟩ := List.find?_eq_some_iff_append.mp found
  refine List.find?_eq_some_iff_append.mpr ⟨here, before, after, split, fun other member => ?_⟩
  have fails := others other member
  cases atOther : q other with
  | false => rfl
  | true => simp [stronger other atOther] at fails

section Candidates

variable {name : Text}

theorem primaryName_eligible (chosen : primaryName table names = some name) : name ∈ names ∧ Eligible (table name) := by
  rcases Option.or_eq_some_iff.mp chosen with best | ⟨_, first⟩
  · have passes := List.find?_some best
    rw [decide_eq_true_iff] at passes
    exact ⟨List.mem_of_find?_eq_some best, passes.1⟩
  · exact ⟨List.mem_of_find?_eq_some first, by simpa using List.find?_some first⟩

theorem firstConnected_passes (first : firstConnected table names = some name) :
    name ∈ names ∧ Passes (table name) ∧ Connected name (table name) := by
  have passes := List.find?_some first
  rw [decide_eq_true_iff] at passes
  exact ⟨List.mem_of_find?_eq_some first, passes⟩

theorem firstKept_passes (kept : firstKept table names = some name) :
    name ∈ names ∧ Passes (table name) ∧ (table name).2.flags ≠ 0 := by
  have passes := List.find?_some kept
  rw [decide_eq_true_iff] at passes
  exact ⟨List.mem_of_find?_eq_some kept, passes⟩

/-- Nothing is found or kept among interfaces that cannot be used. -/
theorem nothing_eligible (unusable : ∀ name ∈ names, ¬ Eligible (table name)) :
    firstConnected table names = none ∧ firstKept table names = none := by
  constructor
  · exact List.find?_eq_none.mpr fun name member passes => unusable name member (by simpa using (of_decide_eq_true passes).1.1)
  · exact List.find?_eq_none.mpr fun name member passes => unusable name member (of_decide_eq_true passes).1.1

/-- The loop stops at the primary interface or keeps it, if it passes. -/
theorem primaryName_found (chosen : primaryName table names = some name) (shows : ShowsHardware (table name))
    (either : Connected name (table name) ∨ (table name).2.flags ≠ 0) :
    firstConnected table names = some name ∨ (firstConnected table names = none ∧ firstKept table names = some name) := by
  obtain ⟨member, usable⟩ := primaryName_eligible chosen
  rcases Option.or_eq_some_iff.mp chosen with best | ⟨noBest, first⟩
  · have passes := List.find?_some best
    rw [decide_eq_true_iff] at passes
    refine Or.inl (find?_stronger best (fun other passes => ?_) (decide_eq_true ⟨⟨usable, shows⟩, passes.2⟩))
    have both := of_decide_eq_true passes
    exact decide_eq_true ⟨both.1.1, both.2⟩
  · have nobody : ∀ other ∈ names, ¬ (Eligible (table other) ∧ Connected other (table other)) := by
      intro other among both
      exact List.find?_eq_none.mp noBest other among (decide_eq_true both)
    refine Or.inr ⟨List.find?_eq_none.mpr fun other among passes => ?_, ?_⟩
    · have both := of_decide_eq_true passes
      exact nobody other among ⟨both.1.1, both.2⟩
    · have flags := either.resolve_left fun linked => nobody name member ⟨usable, linked⟩
      refine find?_stronger first (fun other passes => ?_) (decide_eq_true ⟨⟨usable, shows⟩, flags⟩)
      exact decide_eq_true (of_decide_eq_true passes).1.1

end Candidates

section Get

variable {iflist : GrowList Text} {conf : Ifconf} {memory ifconfig : SysmNetInterfaceConfig}
  (reads : ∀ name ∈ iflist.items, netInterfaceConfigGet machine name = some (table name))

include reads

/-- What is returned without an error is an interface that passes, and is connected or kept. -/
theorem primaryGet_cases : ∃ result,
    sysmNetInterfaceConfigPrimaryGet machine (some (conf, .ok iflist)) memory ifconfig = some (result, conf) ∧
      (∀ name, firstConnected table iflist.items = some name → result = (0, (table name).2)) ∧
        (firstConnected table iflist.items = none →
          (∀ name, firstKept table iflist.items = some name → result = (0, (table name).2)) ∧
            (firstKept table iflist.items = none → result.1 = ENXIO)) := by
  obtain ⟨found, possible, last, loop, onFound, onNone⟩ := primaryLoop_spec reads { memory with flags := 0 } ifconfig
  cases first : firstConnected table iflist.items with
  | some name =>
    obtain ⟨rfl, rfl⟩ := onFound name first
    refine ⟨(0, (table name).2), ?_, fun other same => ?_, fun absent => (by cases absent)⟩
    · simp only [sysmNetInterfaceConfigPrimaryGet, Option.bind_eq_bind, Option.bind_some, loop, if_true, Option.pure_def]
    · cases same
      rfl
  | none =>
    obtain ⟨rfl, _, new⟩ := onNone first
    obtain ⟨kept, nothing⟩ := new rfl
    refine ⟨if possible.flags ≠ 0 then (0, possible) else ( ENXIO, last), ?_, fun other same => (by cases same), fun _ => ⟨?_, ?_⟩⟩
    · simp only [sysmNetInterfaceConfigPrimaryGet, Option.bind_eq_bind, Option.bind_some, loop, Bool.false_eq_true, if_false,
        Option.pure_def]
      split
      · rfl
      · rfl
    · intro name atKept
      have flags := List.find?_some atKept
      rw [decide_eq_true_iff] at flags
      rw [kept name atKept, if_pos flags.2]
    · intro absent
      rw [if_neg (not_not.mpr (nothing absent))]

/-- An answer without an error is that about an interface, which passes and is
connected or kept. -/
theorem primaryGet_returned {result : ConfigResult}
    (run : sysmNetInterfaceConfigPrimaryGet machine (some (conf, .ok iflist)) memory ifconfig = some (result, conf))
    (ok : result.1 = 0) :
    ∃ name ∈ iflist.items, result = (0, (table name).2) ∧ Passes (table name) ∧
      (Connected name (table name) ∨ (table name).2.flags ≠ 0) := by
  obtain ⟨result', run', connected, others⟩ := @primaryGet_cases table machine iflist conf memory ifconfig reads
  cases run.symm.trans run'
  cases first : firstConnected table iflist.items with
  | some name =>
    obtain ⟨member, passes, linked⟩ := firstConnected_passes first
    exact ⟨name, member, connected name first, passes, Or.inl linked⟩
  | none =>
    obtain ⟨kept, nothing⟩ := others first
    cases atKept : firstKept table iflist.items with
    | some name =>
      obtain ⟨member, passes, flags⟩ := firstKept_passes atKept
      exact ⟨name, member, kept name atKept, passes, Or.inr flags⟩
    | none => exact absurd ((nothing atKept).symm.trans ok) (by decide)

/-- The primary interface is found exactly if it shows its hardware address in
the first four bytes, and has flags if it is not connected. -/
theorem picksPrimary_iff :
    (∃ result, sysmNetInterfaceConfigPrimaryGet machine (some (conf, .ok iflist)) memory ifconfig = some (result, conf) ∧
      PicksPrimary table iflist.items result) ↔
    ∀ name, primaryName table iflist.items = some name →
      ShowsHardware (table name) ∧ (Connected name (table name) ∨ (table name).2.flags ≠ 0) := by
  constructor
  · rintro ⟨result, run, picks⟩ name chosen
    obtain ⟨member, usable⟩ := primaryName_eligible chosen
    have same := picks.primary name chosen
    obtain ⟨other, among, atOther, passes, either⟩ :=
      primaryGet_returned reads run (picks.ok.mpr ⟨name, member, usable⟩)
    -- the configuration that is returned has the name of the interface in it
    have named := (netInterfaceConfigGet_spec (reads name member) usable.1).1
    have named' := (netInterfaceConfigGet_spec (reads other among) passes.1.1).1
    have equal : other = name := by
      rw [atOther] at same
      rw [← named', ← named]
      exact congrArg SysmNetInterfaceConfig.name same
    subst equal
    exact ⟨passes.2, either⟩
  · intro condition
    obtain ⟨result, run, connected, others⟩ := @primaryGet_cases table machine iflist conf memory ifconfig reads
    refine ⟨result, run, ?_⟩
    cases chosen : primaryName table iflist.items with
    | none =>
      obtain ⟨_, nobody⟩ := Option.or_eq_none_iff.mp chosen
      have unusable : ∀ name ∈ iflist.items, ¬ Eligible (table name) := by simpa using List.find?_eq_none.mp nobody
      obtain ⟨noFirst, noKept⟩ := nothing_eligible unusable
      have missing := (others noFirst).2 noKept
      refine ⟨iff_of_false (by rw [missing]; decide) ?_, fun name same => ?_, fun _ => missing⟩
      · rintro ⟨name, member, usable⟩
        exact unusable name member usable
      · cases chosen.symm.trans same
    | some name =>
      obtain ⟨shows, either⟩ := condition name chosen
      obtain ⟨member, usable⟩ := primaryName_eligible chosen
      have found : result = (0, (table name).2) := by
        rcases primaryName_found chosen shows either with first | ⟨noFirst, kept⟩
        · exact connected name first
        · exact (others noFirst).1 name kept
      refine ⟨iff_of_true (by rw [found]) ⟨name, member, usable⟩, fun other same => ?_, fun absent => absurd usable (absent name member)⟩
      cases chosen.symm.trans same
      rw [found]

end Get

end Loop

/-- A hardware address with this last byte, and zeros before it but for the first byte. -/
def etherHwaddr (first last : UInt8) : IfrHwaddr := ⟨1, [first, 0, 0, 0, 0, last] ++ List.replicate 8 0, by simp⟩

/-- A machine whose interfaces are Ethernet cards with the address 10.0.0.1. -/
def etherMachine (first last : UInt8) : ConfigMachine where
  interface := fun _ =>
    { socket := .ok ()
      address := some 0x0100000a
      netmask := some 0x00ffffff
      flags := .ok 0x1043
      destination := none
      broadcast := none
      hwaddr := some (etherHwaddr first last)
      mtu := some 1500
      metric := some 0
      txQueueLen := some 1000 }
  inet6Memory := inet6Zero
  ifInet6 := .error ENOENT

/-- The configurations of such a machine. -/
def etherTable (first last : UInt8) (name : Text) : ConfigResult :=
  (netInterfaceConfigGet (etherMachine first last) name).getD (0, .zero)

/-- A list with `eth0` in it. -/
def eth0List : GrowList Text := ⟨1, [ofString "eth0"]⟩

theorem eth0List_items : eth0List.items = [ofString "eth0"] := rfl

theorem etherTable_reads (first last : UInt8) :
    ∀ name ∈ eth0List.items, netInterfaceConfigGet (etherMachine first last) name = some (etherTable first last name) := by
  rw [eth0List_items]
  exact List.forall_mem_singleton.mpr rfl

theorem picksPrimary_eth0 : ∃ result,
    sysmNetInterfaceConfigPrimaryGet (etherMachine 2 1) (some (openedIfconf, .ok eth0List)) .zero .zero =
      some (result, openedIfconf) ∧ PicksPrimary (etherTable 2 1) eth0List.items result := by
  refine (picksPrimary_iff (etherTable_reads 2 1)).mpr fun name chosen => ?_
  have eth0 : primaryName (etherTable 2 1) eth0List.items = some (ofString "eth0") := by decide +kernel
  cases eth0.symm.trans chosen
  exact ⟨by decide +kernel, Or.inl (by decide +kernel)⟩

/-- With the hardware address 00:00:00:00:00:01 no interface is found. -/
theorem not_picksPrimary_eth0 :
    ¬ ∀ machine table conf iflist memory ifconfig,
      (∀ name ∈ iflist.items, netInterfaceConfigGet machine name = some (table name)) →
        ∃ result, sysmNetInterfaceConfigPrimaryGet machine (some (conf, .ok iflist)) memory ifconfig = some (result, conf) ∧
          PicksPrimary table iflist.items result := by
  intro claim
  obtain ⟨result, run, picks⟩ :=
    claim _ _ openedIfconf eth0List .zero .zero (etherTable_reads 0 1)
  have usable : Eligible (etherTable 0 1 (ofString "eth0")) := by decide +kernel
  have ok := picks.ok.mpr ⟨ofString "eth0", List.mem_singleton.mpr rfl, usable⟩
  have status : (sysmNetInterfaceConfigPrimaryGet (etherMachine 0 1) (some (openedIfconf, .ok eth0List)) .zero .zero).map
      (fun result => result.1.1) = some ENXIO := by decide +kernel
  rw [run, Option.map_some, ok] at status
  cases status

end Sysm
