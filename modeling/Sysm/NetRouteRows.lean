import Sysm.Lib.FoldOption
import Sysm.NetRoute
import Sysm.NetRows

namespace Sysm
open CString

/-- The octets of an address in the order in which they are written. -/
structure Octets where
  first : UInt8
  second : UInt8
  third : UInt8
  fourth : UInt8
deriving Repr, DecidableEq

namespace Octets

variable (octets : Octets)

/-- What a little-endian machine takes the octets for. -/
def word : UInt32 :=
  UInt32.ofNat (octets.first.toNat + 2 ^ 8 * octets.second.toNat + 2 ^ 16 * octets.third.toNat +
    2 ^ 24 * octets.fourth.toNat)

/-- The dotted-decimal text -/
def dotted : Text :=
  decimal octets.first.toNat ++ 46 :: (decimal octets.second.toNat ++ 46 :: (decimal octets.third.toNat ++
    46 :: decimal octets.fourth.toNat))

theorem littleEndian_word : littleEndian octets.word = [octets.first, octets.second, octets.third, octets.fourth] := by
  have bound₁ := octets.first.toNat_lt
  have bound₂ := octets.second.toNat_lt
  have bound₃ := octets.third.toNat_lt
  have bound₄ := octets.fourth.toNat_lt
  simp only [littleEndian, word, List.cons.injEq, and_true, ← UInt8.toNat_inj, UInt32.toNat_toUInt8,
    UInt32.toNat_shiftRight, UInt32.toNat_ofNat', Nat.shiftRight_eq_div_pow, UInt32.reduceToNat, Nat.reduceMod, Nat.reducePow]
  omega

theorem word_eq_zero : octets.word = 0 ↔ octets = ⟨0, 0, 0, 0⟩ := by
  constructor
  · intro zero
    have bytes := octets.littleEndian_word
    rw [zero] at bytes
    cases octets
    simp only [littleEndian, List.cons.injEq, and_true] at bytes
    obtain ⟨rfl, rfl, rfl, rfl⟩ := bytes
    rfl
  · rintro rfl
    rfl

end Octets

/-- The digits of an octet are those of `%u`. -/
theorem inetNtoaOctet_eq (u : UInt8) : inetNtoaOctet u = decimal u.toNat := by
  have all : ∀ n < 256, inetNtoaOctet (UInt8.ofNat n) = decimal n := by decide +kernel
  have here := all u.toNat u.toNat_lt
  rwa [UInt8.ofNat_toNat] at here

theorem sysmInetNtoa_word (octets : Octets) : sysmInetNtoa octets.word = octets.dotted := by
  have shape : ((littleEndian octets.word).flatMap fun u => inetNtoaOctet u ++ [46]) = octets.dotted ++ [46] := by
    rw [octets.littleEndian_word]
    simp [inetNtoaOctet_eq, Octets.dotted]
  rw [sysmInetNtoa, shape, List.dropLast_concat]

/-- `%04X`, which is wider for a greater number. -/
def hexPadded (width n : Nat) : Text := hexFixed (max width (Nat.toDigits 16 n).length) n

/-- A row of `/proc/net/route`. -/
structure RouteRow where
  ifname : Text
  destination : Octets
  gateway : Octets
  flags : UInt32
  refcnt : Int
  use : Int
  metric : Int
  mask : Octets
  mtu : Int
  window : Int
  irtt : Int
  named : ifname ≠ [] ∧ ifname.length ≤ 15 ∧ ∀ c ∈ ifname, c ≠ 0 ∧ isSpace c = false
  -- the flags of IPv4 are 16 bits wide
  signed : flags < 0x80000000
  longs : ∀ number ∈ [refcnt, use, metric, mtu, window, irtt], -2 ^ 63 ≤ number ∧ number < 2 ^ 63

namespace RouteRow

variable (row : RouteRow)

/-- The columns behind the name, with a tabulator before each. -/
def columns : Text :=
  [hexFixed 8 row.destination.word.toNat, hexFixed 8 row.gateway.word.toNat, hexPadded 4 row.flags.toNat,
    decimalInt row.refcnt, decimalInt row.use, decimalInt row.metric, hexFixed 8 row.mask.word.toNat,
    decimalInt row.mtu, decimalInt row.window, decimalInt row.irtt].flatMap fun column => 9 :: column

/-- The kernel fills the line up to 127 bytes. -/
def text : Text := row.ifname ++ row.columns ++ List.replicate (127 - (row.ifname ++ row.columns).length) 32

def up : Bool := row.flags &&& 0x1 != 0

def isGateway : Bool := row.flags &&& 0x2 != 0

/-- The row with every column decoded. -/
def route : SysmNetRoute where
  destination := .inet row.destination.word
  gateway := .inet row.gateway.word
  mask := .inet row.mask.word
  flags := row.flags.toUInt64
  refcnt := UInt64.ofInt row.refcnt
  use := UInt64.ofInt row.use
  metric := UInt64.ofInt row.metric
  mtu := UInt64.ofInt row.mtu
  window := UInt64.ofInt row.window
  irtt := UInt64.ofInt row.irtt
  ifname := row.ifname

/-- What the conversions of `ROUTE_FMT` store. -/
def items : List Scanned :=
  [.string row.ifname, .string (hexFixed 8 row.destination.word.toNat), .string (hexFixed 8 row.gateway.word.toNat),
    .hex row.flags, .long (UInt64.ofInt row.refcnt), .long (UInt64.ofInt row.use), .long (UInt64.ofInt row.metric),
    .string (hexFixed 8 row.mask.word.toNat), .long (UInt64.ofInt row.mtu), .long (UInt64.ofInt row.window),
    .long (UInt64.ofInt row.irtt)]

end RouteRow

theorem columnEnd_blanks (n : Nat) : ColumnEnd (List.replicate n 32 ++ [10]) := by
  cases n with
  | zero => simp [isSpace]
  | succ n => simp [isSpace, List.replicate_succ]

theorem reads_word (octets : Octets) :
    (Conversion.string 128).Reads (hexFixed 8 octets.word.toNat) (.string (hexFixed 8 octets.word.toNat)) := by
  refine reads_string (hexFixed_ne_nil (by omega)) ?_ (by simp [length_hexFixed])
  intro c member
  have digit := digitVal_of_mem_hexFixed member
  exact (digit_plain (by omega)).1

theorem reads_flags (flags : UInt32) : Conversion.hex.Reads (hexPadded 4 flags.toNat) (.hex flags) := by
  have bound := flags.toNat_lt
  have below : flags.toNat < 16 ^ (Nat.toDigits 16 flags.toNat).length :=
    (Nat.length_toDigits_le_iff (by omega) Nat.length_toDigits_pos).mp (Nat.le_refl _)
  have wide : 16 ^ (Nat.toDigits 16 flags.toNat).length ≤ 16 ^ max 4 (Nat.toDigits 16 flags.toNat).length :=
    Nat.pow_le_pow_right (by omega) (by omega)
  have reads := @reads_hex (max 4 (Nat.toDigits 16 flags.toNat).length) flags.toNat (by omega) (by omega) bound
  rwa [UInt32.ofNat_toNat] at reads

theorem sscanf_routeFmt (row : RouteRow) : sscanf routeFmt (row.text ++ [10]) = row.items := by
  let columns : List (Conversion × Text × Scanned) :=
    [(.string 128, hexFixed 8 row.destination.word.toNat, .string (hexFixed 8 row.destination.word.toNat)),
      (.string 128, hexFixed 8 row.gateway.word.toNat, .string (hexFixed 8 row.gateway.word.toNat)),
      (.hex, hexPadded 4 row.flags.toNat, .hex row.flags),
      (.long, decimalInt row.refcnt, .long (UInt64.ofInt row.refcnt)),
      (.long, decimalInt row.use, .long (UInt64.ofInt row.use)),
      (.long, decimalInt row.metric, .long (UInt64.ofInt row.metric)),
      (.string 128, hexFixed 8 row.mask.word.toNat, .string (hexFixed 8 row.mask.word.toNat)),
      (.long, decimalInt row.mtu, .long (UInt64.ofInt row.mtu)),
      (.long, decimalInt row.window, .long (UInt64.ofInt row.window)),
      (.long, decimalInt row.irtt, .long (UInt64.ofInt row.irtt))]
  have long (number : Int) (member : number ∈ [row.refcnt, row.use, row.metric, row.mtu, row.window, row.irtt]) :
      Conversion.long.Reads (decimalInt number) (.long (UInt64.ofInt number)) :=
    reads_long (row.longs number member).1 (row.longs number member).2
  have reads : ∀ column ∈ columns, column.1.Reads column.2.1 column.2.2 := by
    simp only [columns, List.forall_mem_cons, List.not_mem_nil, false_implies, implies_true, and_true]
    exact ⟨reads_word _, reads_word _, reads_flags _, long _ (by simp), long _ (by simp), long _ (by simp), reads_word _,
      long _ (by simp), long _ (by simp), long _ (by simp)⟩
  let rest : Text := List.replicate (127 - (row.ifname ++ row.columns).length) 32 ++ [10]
  have stop : ColumnEnd rest := columnEnd_blanks _
  have others := sscanf_columns stop reads
  have behind : ColumnEnd (columns.flatMap (fun column => 9 :: column.2.1) ++ rest) := by simp [columns, isSpace]
  obtain ⟨nonempty, short, plain⟩ := row.named
  have name := @reads_string row.ifname 16 nonempty (fun c member => (plain c member).2) (by omega) [] _ (by simp) behind
  have shape : row.text ++ [10] = row.ifname ++ (columns.flatMap (fun column => 9 :: column.2.1) ++ rest) := by
    simp [RouteRow.text, RouteRow.columns, columns, rest]
  rw [List.nil_append] at name
  rw [shape, routeFmt, sscanf, name]
  exact congrArg (Scanned.string row.ifname :: ·) others


/-- The flags fit into an `int`. -/
theorem RouteRow.flags_int (row : RouteRow) : row.flags.toInt32.toInt64.toUInt64 = row.flags.toUInt64 := by
  have bound := UInt32.lt_iff_toNat_lt.mp row.signed
  have limit : (0x80000000 : UInt32).toNat = 2 ^ 31 := rfl
  have narrow : row.flags.toInt32.toInt = row.flags.toNat := by
    have value : row.flags.toInt32.toInt = row.flags.toBitVec.toInt := rfl
    rw [value, BitVec.toInt_eq_toNat_of_lt (by rw [UInt32.toNat_toBitVec]; omega), UInt32.toNat_toBitVec]
  have wide : row.flags.toUInt64.toInt64.toInt = row.flags.toNat := by
    have value : row.flags.toUInt64.toInt64.toInt = row.flags.toUInt64.toBitVec.toInt := rfl
    have same : row.flags.toUInt64.toBitVec.toNat = row.flags.toNat := UInt32.toNat_toUInt64 row.flags
    rw [value, BitVec.toInt_eq_toNat_of_lt (by omega), same]
  have same : row.flags.toInt32.toInt64 = row.flags.toUInt64.toInt64 := by
    rw [← Int64.toInt_inj, Int32.toInt_toInt64, narrow, wide]
  rw [same, UInt64.toUInt64_toInt64]

/-- A row is appended to the routes in use if its route is up. -/
theorem netRouteLine_row (memory : Nat → SysmNetRoute) {routeList : GrowList SysmNetRoute} (bound : routeList.InBounds)
    (row : RouteRow) :
    ∃ routeList', netRouteLine memory routeList (row.text ++ [10]) = some routeList' ∧ routeList'.InBounds ∧
      routeList'.items = routeList.items ++ if row.up then [row.route] else [] := by
  have positive : 0 < sysmNetRouteListMax := by decide
  have number := @GrowList.growFull_number SysmNetRoute routeList sysmNetRouteListMax memory
  obtain ⟨cell, read⟩ := GrowList.growFull_read bound positive memory
  have short := row.named.2.1
  have name : row.ifname.length < maxInterfaceNameLen := by
    have room : maxInterfaceNameLen = 256 := rfl
    omega
  have column (octets : Octets) : (hexFixed 8 octets.word.toNat).length < 128 := by simp [length_hexFixed]
  have address (octets : Octets) : hex2int (hexFixed 8 octets.word.toNat) hexEntLen = some octets.word := by
    have value := hex2int_hexFixed (by omega : 8 ≤ 8) octets.word.toNat_lt []
    rwa [List.append_nil] at value
  simp only [netRouteLine, number, read, sscanf_routeFmt, RouteRow.items, stringAt, longAt, hexAt, List.getElem?_cons_zero,
    List.getElem?_cons_succ, name, column, address, if_true, Option.bind_eq_bind, Option.bind_some, List.length_cons,
    List.length_nil, row.flags_int]
  by_cases up : row.flags &&& rtfUp = 0
  · have down : row.up = false := bne_eq_false_iff_eq.mpr up
    obtain ⟨written, write, same, inRange, items, _⟩ := GrowList.growFull_write bound positive memory
      { cell with
        ifname := row.ifname
        refcnt := UInt64.ofInt row.refcnt
        use := UInt64.ofInt row.use
        metric := UInt64.ofInt row.metric
        mtu := UInt64.ofInt row.mtu
        window := UInt64.ofInt row.window
        irtt := UInt64.ofInt row.irtt }
    have inBounds : written.InBounds := by
      unfold GrowList.InBounds
      omega
    refine ⟨written, ?_, inBounds, by rw [items, down]; simp⟩
    rw [if_pos (Or.inr up), write]
  · have isUp : row.up = true := bne_iff_ne.mpr up
    obtain ⟨written, write, same, inRange, _, items⟩ := GrowList.growFull_write bound positive memory row.route
    refine ⟨{ written with number := written.number + 1 }, ?_, inRange, by rw [items, isUp]; rfl⟩
    rw [if_neg (by simp [up])]
    simp only [RouteRow.route] at write
    simp only [write, Option.bind_some, Option.pure_def]

/-- All the rows of a table. -/
theorem netRouteLines_rows (memory : Nat → SysmNetRoute) {routeList : GrowList SysmNetRoute} (bound : routeList.InBounds)
    (rows : List RouteRow) :
    ∃ routeList', (rows.map fun row => row.text ++ [10]).foldlM (netRouteLine memory) routeList = some routeList' ∧
      routeList'.items = routeList.items ++ (rows.filter RouteRow.up).map RouteRow.route := by
  induction rows generalizing routeList with
  | nil => exact ⟨routeList, rfl, by simp⟩
  | cons row rows ih =>
    obtain ⟨next, step, bound', items⟩ := netRouteLine_row memory bound row
    obtain ⟨routeList', run, items'⟩ := ih bound'
    refine ⟨routeList', FoldOption.foldlM_cons_iff.mpr ⟨next, step, run⟩, ?_⟩
    rw [items', items, List.append_assoc]
    cases up : row.up with
    | true => simp [up]
    | false => simp [up]

theorem length_decimalInt {z : Int} (lower : -2 ^ 63 ≤ z) (upper : z < 2 ^ 63) : (decimalInt z).length ≤ 20 := by
  have digits : (decimal z.natAbs).length ≤ 19 := by
    rw [decimal, List.length_map, Nat.length_toDigits_le_iff (by omega) (by omega)]
    omega
  unfold decimalInt
  split
  · rw [List.length_cons]
    omega
  · omega

namespace RouteRow

variable (row : RouteRow)

/-- A row is shorter than the buffer. -/
theorem length_text : row.text.length < 1023 := by
  have name := row.named.2.1
  have number (z : Int) (member : z ∈ [row.refcnt, row.use, row.metric, row.mtu, row.window, row.irtt]) :=
    length_decimalInt (row.longs z member).1 (row.longs z member).2
  have flags : (hexPadded 4 row.flags.toNat).length ≤ 8 := by
    have bound := row.flags.toNat_lt
    have digits : (Nat.toDigits 16 row.flags.toNat).length ≤ 8 := (Nat.length_toDigits_le_iff (by omega) (by omega)).mpr
      (by omega)
    rw [hexPadded, length_hexFixed]
    omega
  have refcnt := number row.refcnt (by simp)
  have use := number row.use (by simp)
  have metric := number row.metric (by simp)
  have mtu := number row.mtu (by simp)
  have window := number row.window (by simp)
  have irtt := number row.irtt (by simp)
  have columns : row.columns.length ≤ 162 := by
    simp [RouteRow.columns, length_hexFixed]
    omega
  simp only [text, List.length_append, List.length_replicate]
  omega

theorem text_noNewline : ∀ c ∈ row.text, c ≠ 10 ∧ c ≠ 0 := by
  have hex (width n : Nat) : ∀ c ∈ hexFixed width n, c ≠ 10 ∧ c ≠ 0 := fun c member =>
    ⟨(hexFixed_plain member).2.1, (hexFixed_plain member).1⟩
  have number (z : Int) : ∀ c ∈ decimalInt z, c ≠ 10 ∧ c ≠ 0 := by
    intro c member
    rcases mem_decimalInt member with rfl | digit
    · decide
    · constructor
      · rintro rfl
        cases digit
      · rintro rfl
        cases digit
  have name : ∀ c ∈ row.ifname, c ≠ 10 ∧ c ≠ 0 := by
    intro c member
    obtain ⟨real, noSpace⟩ := row.named.2.2 c member
    refine ⟨?_, real⟩
    rintro rfl
    cases noSpace
  have tab : (9 : UInt8) ≠ 10 ∧ (9 : UInt8) ≠ 0 := by decide
  have pad (n : Nat) : ∀ c ∈ List.replicate n (32 : UInt8), c ≠ 10 ∧ c ≠ 0 := by
    intro c member
    rw [List.eq_of_mem_replicate member]
    decide
  simp only [text, columns, hexPadded, List.flatMap_cons, List.flatMap_nil, List.append_nil, List.forall_mem_append,
    List.forall_mem_cons]
  exact ⟨⟨name, ⟨tab, hex _ _⟩, ⟨tab, hex _ _⟩, ⟨tab, hex _ _⟩, ⟨tab, number _⟩, ⟨tab, number _⟩, ⟨tab, number _⟩,
    ⟨tab, hex _ _⟩, ⟨tab, number _⟩, ⟨tab, number _⟩, tab, number _⟩, pad _⟩

end RouteRow

/-- A table of the kernel: a header and the rows. -/
structure RouteTable where
  header : Text
  rows : List RouteRow
  titled : ∀ c ∈ header, c ≠ 10 ∧ c ≠ 0
  headerFits : header.length < 1023

namespace RouteTable

variable (table : RouteTable)

/-- The bytes of the file. -/
def bytes : List UInt8 := table.header ++ 10 :: table.rows.flatMap fun row => row.text ++ [10]

/-- The rows whose route is up, in the order of the file. -/
def upRows : List RouteRow := table.rows.filter RouteRow.up

/-- The first of them that is a default route through a gateway. -/
def defaultRow : Option RouteRow := table.upRows.find? fun row => row.isGateway && row.destination == ⟨0, 0, 0, 0⟩

theorem fgetsAll_bytes : (fgetsAll 1024 table.bytes).tail = table.rows.map fun row => row.text ++ [10] := by
  have lines := @fgetsAll_lines 1024 (table.rows.map RouteRow.text)
    (by simpa using fun row _ => row.text_noNewline) (by
      simp only [List.forall_mem_map]
      intro row _
      have short := row.length_text
      omega)
  rw [List.flatMap_map, List.map_map] at lines
  have first := @fgetsAll_line 1024 table.header (table.rows.flatMap fun row => row.text ++ [10]) table.titled
    (by have short := table.headerFits; omega)
  rw [bytes, first, List.tail_cons]
  exact lines

theorem sysmNetRouteListGet_bytes (memory : Nat → SysmNetRoute) :
    ∃ routeList, sysmNetRouteListGet memory (.ok table.bytes) = some (.ok routeList) ∧
      routeList.items = table.upRows.map RouteRow.route := by
  have start : (GrowList.create sysmNetRouteListMax memory).InBounds := Nat.zero_le _
  obtain ⟨routeList, run, items⟩ := netRouteLines_rows memory start table.rows
  have empty : (GrowList.create sysmNetRouteListMax memory).items = [] := List.take_zero
  refine ⟨routeList, ?_, by rw [items, empty]; rfl⟩
  simp only [sysmNetRouteListGet, fgetsAll_bytes, run, Option.bind_eq_bind, Option.bind_some, Option.pure_def]

end RouteTable

/-- The test of `sysm_get_default_gateway` on a route that comes from a row. -/
theorem isDefault_route (row : RouteRow) :
    (row.route.flags &&& sysmRtfGateway != 0 && row.route.destination.addrIn == 0) =
      (row.isGateway && row.destination == ⟨0, 0, 0, 0⟩) := by
  have gateway : (row.route.flags &&& sysmRtfGateway = 0) ↔ row.flags &&& 0x2 = 0 := by
    have widened : row.route.flags &&& sysmRtfGateway = (row.flags &&& 0x2).toUInt64 := rfl
    have zero : (0 : UInt64) = (0 : UInt32).toUInt64 := rfl
    rw [widened, zero, UInt32.toUInt64_inj]
  have destination : row.route.destination.addrIn = 0 ↔ row.destination = ⟨0, 0, 0, 0⟩ := row.destination.word_eq_zero
  rw [Bool.eq_iff_iff]
  simp only [Bool.and_eq_true, bne_iff_ne, beq_iff_eq, ne_eq, gateway, destination, RouteRow.isGateway]

/-- The gateway of the first default route, and its interface. -/
theorem sysmGetDefaultGateway_bytes (inetNtop : UInt32 × UInt32 × UInt32 × UInt32 → Except Int Text)
    (memory : Nat → SysmNetRoute) (table : RouteTable) (netInfo : SysmNetInfo) :
    sysmGetDefaultGateway inetNtop memory (.ok table.bytes) netInfo = some (0,
      match table.defaultRow with
      | some row => { netInfo with
          defaultGateway := row.gateway.dotted
          defaultGatewayInterface := row.ifname }
      | none => netInfo) := by
  obtain ⟨routeList, get, items⟩ := table.sysmNetRouteListGet_bytes memory
  have found : (routeList.items.find? fun route =>
      route.flags &&& sysmRtfGateway != 0 && route.destination.addrIn == 0) = table.defaultRow.map RouteRow.route := by
    rw [items, List.find?_map, RouteTable.defaultRow]
    congr 2
    funext row
    exact isDefault_route row
  simp only [sysmGetDefaultGateway, get, found, Option.bind_eq_bind, Option.bind_some]
  cases table.defaultRow with
  | none => rfl
  | some row =>
    have short := row.named.2.1
    have room : maxInterfaceNameLen = 256 := rfl
    have gateway : (sysmNetAddressToString inetNtop row.route.gateway).2 = row.gateway.dotted := sysmInetNtoa_word row.gateway
    have interface : row.route.ifname.take maxInterfaceNameLen = row.ifname := List.take_of_length_le (by
      rw [room]
      show row.ifname.length ≤ 256
      omega)
    simp only [Option.map_some, gateway, interface, Option.pure_def]

/-- The name servers are all that the loop over `/etc/resolv.conf` writes. -/
theorem netInfoDns_gateway {netInfo netInfo' : SysmNetInfo} {lines : List Text}
    (run : netInfoDns netInfo lines = some netInfo') :
    netInfo'.defaultGateway = netInfo.defaultGateway ∧
      netInfo'.defaultGatewayInterface = netInfo.defaultGatewayInterface := by
  induction lines generalizing netInfo with
  | nil =>
    cases run
    exact ⟨rfl, rfl⟩
  | cons line lines ih =>
    simp only [netInfoDns] at run
    split at run
    · exact ih run
    · split at run
      · exact ih run
      · split at run
        · split at run
          · have later := ih run
            exact later
          · cases run
        · split at run
          · split at run
            · have later := ih run
              exact later
            · cases run
          · cases run
            exact ⟨rfl, rfl⟩

/-- The routes are those of the rows that are up, and the default gateway that
of the first of them with a gateway and no destination, or none. -/
theorem sysmNetRoute_table (inetNtop : UInt32 × UInt32 × UInt32 × UInt32 → Except Int Text)
    (memory : Nat → SysmNetRoute) (table : RouteTable) :
    (∃ routeList, sysmNetRouteListGet memory (.ok table.bytes) = some (.ok routeList) ∧
      routeList.items = table.upRows.map RouteRow.route) ∧
    ∀ files : NetInfoFiles,
      (sysmNetInfoGet inetNtop memory { files with route := .ok table.bytes }).map (fun (status, netInfo) =>
        (status, netInfo.defaultGateway, netInfo.defaultGatewayInterface)) =
      (netInfoDns .zero (fgetsAll BUFSIZ (files.resolvConf.getD []))).map fun _ =>
        match table.defaultRow with
        | some row => (0, row.gateway.dotted, row.ifname)
        | none => (0, [], []) := by
  refine ⟨table.sysmNetRouteListGet_bytes memory, fun files => ?_⟩
  simp only [sysmNetInfoGet, sysmGetDefaultGateway_bytes, Option.bind_eq_bind, Option.bind_some, Option.pure_def]
  cases run : netInfoDns .zero (fgetsAll BUFSIZ (files.resolvConf.getD [])) with
  | none => rfl
  | some netInfo =>
    obtain ⟨gateway, interface⟩ := netInfoDns_gateway run
    cases table.defaultRow with
    | none => simp [gateway, interface, SysmNetInfo.zero]
    | some row => rfl

/-- The route to a network of the machine `eth0`, or through its router. -/
def ethRoute (destination gateway mask : Octets) (flags : UInt32) (signed : flags < 0x80000000) : RouteRow where
  ifname := ofString "eth0"
  destination := destination
  gateway := gateway
  flags := flags
  refcnt := 0
  use := 0
  metric := 100
  mask := mask
  mtu := 0
  window := 0
  irtt := 0
  named := ⟨by decide, by decide, by decide +kernel⟩
  signed := signed
  longs := by decide

/-- A network that is down, the router, and the network at home. -/
def homeTable : RouteTable where
  header := ofString "Iface Destination Gateway Flags RefCnt Use Metric Mask MTU Window IRTT"
  rows := [ethRoute ⟨10, 0, 0, 0⟩ ⟨0, 0, 0, 0⟩ ⟨255, 0, 0, 0⟩ 0 (by decide),
    ethRoute ⟨0, 0, 0, 0⟩ ⟨192, 168, 1, 1⟩ ⟨0, 0, 0, 0⟩ 3 (by decide),
    ethRoute ⟨192, 168, 1, 0⟩ ⟨0, 0, 0, 0⟩ ⟨255, 255, 255, 0⟩ 1 (by decide)]
  titled := by decide +kernel
  headerFits := by decide

/-- What `malloc` left, and a machine without names. -/
def usedRoute : SysmNetRoute := ⟨.inet 7, .inet 7, .inet 7, 7, 7, 7, 7, 7, 7, 7, ofString "old"⟩

def homeFiles : NetInfoFiles := ⟨none, none, none, .ok homeTable.bytes⟩

theorem sysmNetRoute_table_home :
    (∃ routeList, sysmNetRouteListGet (fun _ => usedRoute) (.ok homeTable.bytes) = some (.ok routeList) ∧
      routeList.items.map SysmNetRoute.destination = [.inet 0, .inet (Octets.word ⟨192, 168, 1, 0⟩)]) ∧
    (sysmNetInfoGet (fun _ => .ok []) (fun _ => usedRoute) homeFiles).map (fun (status, netInfo) =>
      (status, netInfo.defaultGateway, netInfo.defaultGatewayInterface)) =
        some (0, ofString "192.168.1.1", ofString "eth0") := by
  obtain ⟨⟨routeList, get, items⟩, info⟩ := sysmNetRoute_table (fun _ => .ok []) (fun _ => usedRoute) homeTable
  refine ⟨⟨routeList, get, ?_⟩, (info homeFiles).trans ?_⟩
  · rw [items]
    decide
  · decide +kernel

end Sysm
