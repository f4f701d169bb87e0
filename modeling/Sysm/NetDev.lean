import Sysm.DiskStats

namespace Sysm
open CString

/-- `sysm_net_interface_stat_t` -/
structure SysmNetInterfaceStat where
  rxPackets : UInt64
  rxBytes : UInt64
  rxErrors : UInt64
  rxDropped : UInt64
  rxOverruns : UInt64
  rxFrame : UInt64
  txPackets : UInt64
  txBytes : UInt64
  txErrors : UInt64
  txDropped : UInt64
  txOverruns : UInt64
  txCollisions : UInt64
  txCarrier : UInt64
  speed : UInt64
deriving Repr, DecidableEq

/-- The name that a line of `/proc/net/dev` begins with, and what follows its colon. -/
def netDevLine (buffer : Text) : Option (Text × Text) :=
  let dev := skipSpace buffer
  (strchr 58 dev).map fun ptr => (dev.take (dev.length - ptr.length), ptr.tail)

/-- The counters of the line, from behind the colon on. -/
def netDevCounters (ptr : Text) : SysmNetInterfaceStat :=
  let (rxBytes, ptr) := strtoul 10 ptr
  let (rxPackets, ptr) := strtoul 10 ptr
  let (rxErrors, ptr) := strtoul 10 ptr
  let (rxDropped, ptr) := strtoul 10 ptr
  let (rxOverruns, ptr) := strtoul 10 ptr
  let (rxFrame, ptr) := strtoul 10 ptr
  -- skip: compressed multicast
  let ptr := sysmSkipMultipleToken ptr 2
  let (txBytes, ptr) := strtoul 10 ptr
  let (txPackets, ptr) := strtoul 10 ptr
  let (txErrors, ptr) := strtoul 10 ptr
  let (txDropped, ptr) := strtoul 10 ptr
  let (txOverruns, ptr) := strtoul 10 ptr
  let (txCollisions, ptr) := strtoul 10 ptr
  let (txCarrier, _) := strtoul 10 ptr
  { rxPackets, rxBytes, rxErrors, rxDropped, rxOverruns, rxFrame, txPackets, txBytes, txErrors, txDropped, txOverruns,
    txCollisions, txCarrier, speed := -1 }

/-- The loop of `sysm_net_interface_stat_get`, which ends at the first line with the name. -/
def netDevFind (name : Text) : List Text → Option SysmNetInterfaceStat
  | [] => none
  | buffer :: buffers =>
    match netDevLine buffer with
    | none => netDevFind name buffers
    | some (dev, ptr) => if dev ≠ name then netDevFind name buffers else some (netDevCounters ptr)

/-- `sysm_net_interface_stat_get` on the lines behind the two of the header. -/
def sysmNetInterfaceStatGet (file : Except Int (List UInt8)) (name : Text) (ifstat : SysmNetInterfaceStat) :
    Int × SysmNetInterfaceStat :=
  match file with
  | .error errno => (errno, ifstat)
  | .ok content =>
    match netDevFind name ((fgetsAll BUFSIZ content).drop 2) with
    | some ifstat => (0, ifstat)
    | none => ( ENXIO, ifstat)

/-- Spaces and tabs. -/
def Blank (text : Text) : Prop := ∀ c ∈ text, c = 32 ∨ c = 9

/-- Numbers, each after its blanks. -/
def spaced (counters : List (Text × UInt64)) : Text :=
  counters.flatMap fun counter => counter.1 ++ decimal counter.2.toNat

/-- A row of `/proc/net/dev`. Blanks separate the sixteen counters; before the
first one there need not be any. -/
structure NetDevRow where
  lead : Text
  name : Text
  counters : List (Text × UInt64)
  tail : Text
  blank : Blank lead ∧ Blank tail ∧ ∀ counter ∈ counters, Blank counter.1
  apart : ∀ counter ∈ counters.tail, counter.1 ≠ []
  sixteen : counters.length = 16
  named : ∀ c ∈ name, c ≠ 0 ∧ c ≠ 58 ∧ isSpace c = false
  fits : (lead ++ name ++ 58 :: (spaced counters ++ tail)).length + 1 < BUFSIZ

namespace NetDevRow

variable (row : NetDevRow)

/-- The row without its newline. -/
def text : Text := row.lead ++ row.name ++ 58 :: (spaced row.counters ++ row.tail)

/-- Column number `k`, counted from 1. -/
def column (k : Nat) : UInt64 := ((row.counters.map Prod.snd)[k - 1]?).getD 0

/-- The thirteen counters of the row. -/
def stat : SysmNetInterfaceStat where
  rxBytes := row.column 1
  rxPackets := row.column 2
  rxErrors := row.column 3
  rxDropped := row.column 4
  rxOverruns := row.column 5
  rxFrame := row.column 6
  txBytes := row.column 9
  txPackets := row.column 10
  txErrors := row.column 11
  txDropped := row.column 12
  txOverruns := row.column 13
  txCollisions := row.column 14
  txCarrier := row.column 15
  speed := -1

end NetDevRow

/-- `/proc/net/dev`: two header lines and the rows. -/
structure NetDevTable where
  header : Text × Text
  rows : List NetDevRow
  plain : (∀ c ∈ header.1, c ≠ 10 ∧ c ≠ 0) ∧ ∀ c ∈ header.2, c ≠ 10 ∧ c ≠ 0
  fits : header.1.length + 1 < BUFSIZ ∧ header.2.length + 1 < BUFSIZ

def NetDevTable.lines (table : NetDevTable) : List Text := table.header.1 :: table.header.2 :: table.rows.map NetDevRow.text

def NetDevTable.text (table : NetDevTable) : List UInt8 := table.lines.flatMap fun line => line ++ [10]

theorem Blank.isSpace {text : Text} (blank : Blank text) : ∀ c ∈ text, CString.isSpace c = true := by
  intro c member
  rcases blank c member with space | tab
  · rw [space]
    rfl
  · rw [tab]
    rfl

theorem Blank.plain {text : Text} (blank : Blank text) : ∀ c ∈ text, c ≠ 10 ∧ c ≠ 0 := by
  intro c member
  rcases blank c member with space | tab
  · rw [space]
    decide
  · rw [tab]
    decide

theorem spaced_cons (counter : Text × UInt64) (counters : List (Text × UInt64)) (rest : Text) :
    spaced (counter :: counters) ++ rest = counter.1 ++ decimal counter.2.toNat ++ (spaced counters ++ rest) := by
  simp [spaced]

section Spaced

variable {counters : List (Text × UInt64)} {rest : Text}

/-- Behind a number there is a space, or nothing at all. -/
theorem spaced_stops (blank : ∀ counter ∈ counters, Blank counter.1) (apart : ∀ counter ∈ counters, counter.1 ≠ [])
    (ended : Stops (fun c => !isSpace c) rest) : Stops (fun c => !isSpace c) (spaced counters ++ rest) := by
  cases counters with
  | nil => simpa [spaced] using ended
  | cons counter counters =>
    obtain ⟨c, gap, same⟩ := List.exists_cons_of_ne_nil (apart counter (List.mem_cons_self ..))
    have space := (blank counter (List.mem_cons_self ..)).isSpace c (by simp [same])
    rw [spaced_cons, same, List.append_assoc, List.cons_append, stops_cons, space]
    rfl

variable {counter : Text × UInt64} (blank : ∀ other ∈ counter :: counters, Blank other.1)
  (apart : ∀ other ∈ counters, other.1 ≠ []) (ended : Stops (fun c => !isSpace c) rest)

include blank apart ended

theorem strtoul_spaced :
    strtoul 10 (spaced (counter :: counters) ++ rest) = (counter.2, spaced counters ++ rest) := by
  have others := spaced_stops (fun other member => blank other (List.mem_cons_of_mem _ member)) apart ended
  rw [spaced_cons, strtoul_decimal (blank counter (List.mem_cons_self ..)).isSpace counter.2.toNat_lt (stops_digit others),
    UInt64.ofNat_toNat]

theorem sysmSkipToken_spaced : sysmSkipToken (spaced (counter :: counters) ++ rest) = spaced counters ++ rest := by
  have others := spaced_stops (fun other member => blank other (List.mem_cons_of_mem _ member)) apart ended
  have visible : ∀ c ∈ decimal counter.2.toNat, (!isSpace c) = true := by
    intro c member
    rw [isDigit_visible (isDigit_of_decimal member), Bool.not_false]
  have starts : Stops isSpace (decimal counter.2.toNat ++ (spaced counters ++ rest)) := by
    obtain ⟨first, digits, same⟩ := List.exists_cons_of_ne_nil (decimal_ne_nil counter.2.toNat)
    have shown := visible first (by simp [same])
    rw [same, List.cons_append, stops_cons]
    simpa using shown
  rw [spaced_cons, List.append_assoc, sysmSkipToken,
    dropWhile_stop (blank counter (List.mem_cons_self ..)).isSpace starts, dropWhile_stop visible others]

end Spaced

namespace NetDevRow

variable (row : NetDevRow)

/-- The row with its newline, behind the first `k` counters. -/
def behind (k : Nat) : Text := spaced (row.counters.drop k) ++ (row.tail ++ [10])

theorem tail_ended : Stops (fun c => !isSpace c) (row.tail ++ [10]) := by
  cases tail : row.tail with
  | nil => simp [isSpace]
  | cons c others =>
    have space := row.blank.2.1.isSpace c (by simp [tail])
    simp [space]

/-- The counter that stands behind the first `k`. -/
theorem drop_counters {k : Nat} (inside : k < 16) :
    ∃ counter, counter.2 = row.column (k + 1) ∧ row.counters.drop k = counter :: row.counters.drop (k + 1) ∧
      (∀ other ∈ counter :: row.counters.drop (k + 1), Blank other.1) ∧ ∀ other ∈ row.counters.drop (k + 1), other.1 ≠ [] := by
  have bound : k < row.counters.length := by
    rw [row.sixteen]
    exact inside
  have here := List.drop_eq_getElem_cons bound
  refine ⟨row.counters[k], ?_, here, fun other member => ?_, fun other member => ?_⟩
  · rw [column, Nat.add_sub_cancel, List.getElem?_map, List.getElem?_eq_getElem bound]
    rfl
  · rw [← here] at member
    exact row.blank.2.2 other (List.mem_of_mem_drop member)
  · rw [Nat.add_comm, ← List.drop_drop, List.drop_one] at member
    exact row.apart other (List.mem_of_mem_drop member)

theorem strtoul_behind {k : Nat} (inside : k < 16) : strtoul 10 (row.behind k) = (row.column (k + 1), row.behind (k + 1)) := by
  obtain ⟨counter, value, here, blank, apart⟩ := row.drop_counters inside
  rw [behind, here, strtoul_spaced blank apart row.tail_ended, value]
  rfl

theorem sysmSkipToken_behind {k : Nat} (inside : k < 16) : sysmSkipToken (row.behind k) = row.behind (k + 1) := by
  obtain ⟨counter, _, here, blank, apart⟩ := row.drop_counters inside
  rw [behind, here, sysmSkipToken_spaced blank apart row.tail_ended]
  rfl

/-- The counters are taken from their columns. -/
theorem netDevCounters_behind : netDevCounters (row.behind 0) = row.stat := by
  simp (disch := omega) only [netDevCounters, sysmSkipMultipleToken, row.strtoul_behind, row.sysmSkipToken_behind,
    Nat.reduceAdd]
  rfl

theorem netDevLine_text : netDevLine (row.text ++ [10]) = some (row.name, row.behind 0) := by
  have shape : row.text ++ [10] = row.lead ++ (row.name ++ 58 :: row.behind 0) := by
    simp [text, behind]
  have starts : Stops isSpace (row.name ++ 58 :: row.behind 0) := by
    cases name : row.name with
    | nil => simp [isSpace]
    | cons c others =>
      have visible := (row.named c (by simp [name])).2.2
      simpa using visible
  have skipped : skipSpace (row.text ++ [10]) = row.name ++ 58 :: row.behind 0 := by
    rw [shape, skipSpace, dropWhile_stop row.blank.1.isSpace starts]
  have colon : strchr 58 (row.name ++ 58 :: row.behind 0) = some (58 :: row.behind 0) :=
    strchr_append fun c member => (row.named c member).2.1
  have length : (row.name ++ 58 :: row.behind 0).length - (58 :: row.behind 0).length = row.name.length := by
    rw [List.length_append]
    omega
  simp only [netDevLine, skipped, colon, Option.map_some, length, List.take_left, List.tail_cons]

theorem plain : ∀ c ∈ row.text, c ≠ 10 ∧ c ≠ 0 := by
  intro c member
  simp only [text, spaced, List.mem_append, List.mem_cons, List.mem_flatMap] at member
  rcases member with (lead | name) | colon | ⟨counter, among, gap | digit⟩ | tail
  · exact row.blank.1.plain c lead
  · obtain ⟨noNul, _, visible⟩ := row.named c name
    refine ⟨fun newline => ?_, noNul⟩
    rw [newline] at visible
    cases visible
  · rw [colon]
    decide
  · exact (row.blank.2.2 counter among).plain c gap
  · exact ⟨(decimal_plain digit).2.1, (decimal_plain digit).1⟩
  · exact row.blank.2.1.plain c tail

/-- The first row with the name is found, whatever names begin with it. -/
theorem netDevFind_rows (name : Text) (rows : List NetDevRow) :
    netDevFind name (rows.map fun row => row.text ++ [10]) =
      (rows.find? fun row => row.name == name).map NetDevRow.stat := by
  induction rows with
  | nil => rfl
  | cons row rows ih =>
    rw [List.map_cons, netDevFind, row.netDevLine_text]
    by_cases same : row.name = name
    · rw [List.find?_cons_of_pos (by simpa using same), Option.map_some, ← row.netDevCounters_behind]
      simp only [same, ne_eq, not_true, if_false]
    · rw [List.find?_cons_of_neg (by simpa using same), ← ih]
      simp only [ne_eq, same, not_false_eq_true, if_true]

end NetDevRow

/-- The lines of the table as `fgets` reads them. -/
theorem NetDevTable.fgetsAll_text (table : NetDevTable) :
    (fgetsAll BUFSIZ table.text).drop 2 = table.rows.map fun row => row.text ++ [10] := by
  have plain : ∀ line ∈ table.lines, ∀ c ∈ line, c ≠ 10 ∧ c ≠ 0 := by
    intro line member
    rcases List.mem_cons.mp member with rfl | member
    · exact table.plain.1
    · rcases List.mem_cons.mp member with rfl | member
      · exact table.plain.2
      · obtain ⟨row, _, rfl⟩ := List.mem_map.mp member
        exact row.plain
  have fits : ∀ line ∈ table.lines, line.length + 1 < BUFSIZ := by
    intro line member
    rcases List.mem_cons.mp member with rfl | member
    · exact table.fits.1
    · rcases List.mem_cons.mp member with rfl | member
      · exact table.fits.2
      · obtain ⟨row, _, rfl⟩ := List.mem_map.mp member
        exact row.fits
  rw [NetDevTable.text, fgetsAll_lines plain fits, NetDevTable.lines, List.map_cons, List.map_cons, List.map_map]
  rfl

/-- The counters of an interface are columns 1 to 6 and 9 to 15 of its first
row. Without a row nothing is written. -/
theorem sysmNetInterfaceStatGet_table (table : NetDevTable) (name : Text) (ifstat : SysmNetInterfaceStat) :
    ∃ status result, sysmNetInterfaceStatGet (.ok table.text) name ifstat = (status, result) ∧
      (status = 0 ↔ ∃ row ∈ table.rows, row.name = name) ∧
        (∀ row, (table.rows.find? fun row => row.name == name) = some row → result = row.stat) ∧
          (status = ENXIO → result = ifstat) ∧ (status = 0 ∨ status = ENXIO) := by
  have found := NetDevRow.netDevFind_rows name table.rows
  rw [← table.fgetsAll_text] at found
  cases first : table.rows.find? fun row => row.name == name with
  | none =>
    rw [first, Option.map_none] at found
    refine ⟨ ENXIO, ifstat, by simp only [sysmNetInterfaceStatGet, found], ?_, by simp, fun _ => rfl, Or.inr rfl⟩
    have absent := List.find?_eq_none.mp first
    refine ⟨fun ok => absurd ok (by decide), ?_⟩
    rintro ⟨row, member, same⟩
    exact absurd (by simpa using same) (absent row member)
  | some row =>
    rw [first, Option.map_some] at found
    refine ⟨0, row.stat, by simp only [sysmNetInterfaceStatGet, found], ?_, ?_, fun missing => absurd missing (by decide),
      Or.inl rfl⟩
    · have same := List.find?_some first
      exact iff_of_true rfl ⟨row, List.mem_of_find?_eq_some first, by simpa using same⟩
    · intro other found
      cases Option.some.inj found
      rfl

end Sysm
