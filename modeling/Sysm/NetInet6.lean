import Sysm.Lib.ByteBuffer
import Sysm.Lib.Fscanf
import Sysm.NetRouteRows

namespace Sysm
open CString ByteBuffer

/-- What `sysm_net_interface_ipv6_config_get` writes of a
`sysm_net_interface_config_t`, with the bytes of `address6.addr.in6`. -/
structure Ipv6Config where
  address6 : List UInt8
  prefix6Length : Int32
  scope6 : Int32
deriving Repr, DecidableEq

/-- The variables that `fscanf` stores into. -/
structure Inet6Vars where
  addr : List UInt8
  idx : UInt32
  prefixLength : UInt32
  scope : UInt32
  flags : UInt32
  ifname : List UInt8
deriving Repr, DecidableEq

/-- The variables before the first call, with whatever is in them. -/
structure Inet6Memory where
  vars : Inet6Vars
  addr_length : vars.addr.length = 32 + 1
  ifname_length : vars.ifname.length = 8 + 1

/-- `"%32s %02x %02x %02x %02x %8s\n"` -/
def inet6Format : List Field := [.string 32, .hex 2, .hex 2, .hex 2, .hex 2, .string 8]

/-- A string is stored with its NUL, over what the buffer has. -/
def storeItem (buffer : List UInt8) : Option Scanned → Option (List UInt8)
  | some (.string text) => storeString buffer text
  | _ => some buffer

def hexItem (old : UInt32) : Option Scanned → UInt32
  | some (.hex value) => value
  | _ => old

/-- What one call stores, the variables of the others staying as they are. -/
def Inet6Vars.store (vars : Inet6Vars) (items : List Scanned) : Option Inet6Vars := do
  let addr ← storeItem vars.addr items[0]?
  let ifname ← storeItem vars.ifname items[5]?
  return {
    addr
    idx := hexItem vars.idx items[1]?
    prefixLength := hexItem vars.prefixLength items[2]?
    scope := hexItem vars.scope items[3]?
    flags := hexItem vars.flags items[4]?
    ifname }

/-- The string in a buffer. Without a NUL it has no end there. -/
def readString (buffer : List UInt8) : Option Text := if 0 ∈ buffer then some (ofBuffer buffer) else none

/-- The loop of `sysm_net_interface_ipv6_config_get`: the status, and the
variables after it. -/
def inet6Loop (name : Text) (vars : Inet6Vars) : List (List Scanned) → Option (Int × Inet6Vars)
  | [] => some (ENOENT, vars)
  | items :: calls => do
    let vars ← vars.store items
    let ifname ← readString vars.ifname
    if name = ifname then return (0, vars)
    inet6Loop name vars calls

/-- `addr6[i] = (unsigned char) hex2int(ptr, 2)` for the 16 bytes -/
def inet6Address (addr : List UInt8) : Option (List UInt8) :=
  (List.range 16).mapM fun i => (hex2int (addr.drop (2 * i)) 2).map UInt32.toUInt8

/-- `sysm_net_interface_ipv6_config_get`, where `file` is what opening
`net/if_inet6` brings. -/
def sysmNetInterfaceIpv6ConfigGet (memory : Inet6Memory) (file : Except Int (List UInt8)) (name : Text)
    (ifconfig : Ipv6Config) : Option (Int × Ipv6Config) :=
  match file with
  | .error errno => some (errno, ifconfig)
  | .ok stream => do
    let (status, vars) ← inet6Loop name memory.vars (fscanfAll inet6Format stream)
    if status = 0 then
      let address6 ← inet6Address vars.addr
      return (0, { address6, prefix6Length := vars.prefixLength.toInt32, scope6 := vars.scope.toInt32 })
    else return (status, ifconfig)

/-- `%02x` and the like -/
def hexLower (width n : Nat) : Text := (hexPadded width n).map fun c => if isUpper c then c + 32 else c

/-- A row of `/proc/net/if_inet6`. -/
structure Inet6Row where
  digits : Text
  idx : UInt32
  prefixLength : UInt32
  scope : UInt32
  flags : UInt32
  -- the kernel fills the column of the name up to 8 bytes
  gap : Nat
  name : Text
  address : digits.length = 32 ∧ ∀ c ∈ digits, digitVal c < 16
  named : name ≠ [] ∧ name.length ≤ 15 ∧ ∀ c ∈ name, c ≠ 0 ∧ isSpace c = false

namespace Inet6Row

variable (row : Inet6Row)

def text : Text :=
  row.digits ++ 32 :: (hexLower 2 row.idx.toNat ++ 32 :: (hexLower 2 row.prefixLength.toNat ++
    32 :: (hexLower 2 row.scope.toNat ++ 32 :: (hexLower 2 row.flags.toNat ++
      32 :: (List.replicate row.gap 32 ++ (row.name ++ [10]))))))

/-- The row with every column decoded. -/
def config : Ipv6Config where
  address6 := (List.range 16).map fun i => UInt8.ofNat (digitsVal 16 ((row.digits.drop (2 * i)).take 2))
  prefix6Length := row.prefixLength.toInt32
  scope6 := row.scope.toInt32

/-- No column is wider than its conversion. -/
structure Narrow : Prop where
  idx : row.idx < 256
  prefixLength : row.prefixLength < 256
  scope : row.scope < 256
  flags : row.flags < 256
  name : row.name.length ≤ 8

end Inet6Row

/-- The first row with a name, if there is one, and the rows before it are narrow. -/
def NarrowTo (name : Text) : List Inet6Row → Prop
  | [] => True
  | row :: rows => row.Narrow ∧ (row.name = name ∨ NarrowTo name rows)

/-- The answer is that there is no such interface, or the first of its rows. -/
def ServesInet6 (name : Text) (rows : List Inet6Row) (answer : Option (Int × Ipv6Config)) : Prop :=
  ∃ status config, answer = some (status, config) ∧ (status = 0 ↔ ∃ row ∈ rows, row.name = name) ∧
    ∀ row, rows.find? (fun row => row.name = name) = some row → config = row.config

/-- The length that the buffers of the variables have. -/
structure Inet6Vars.Sized (vars : Inet6Vars) : Prop where
  addr : vars.addr.length = 32 + 1
  ifname : vars.ifname.length = 8 + 1

theorem hexLower_narrow {n : Nat} (narrow : n < 256) : (hexLower 2 n).length = 2 ∧
    (∀ c ∈ hexLower 2 n, digitVal c < 16) ∧ digitsVal 16 (hexLower 2 n) = n := by
  have all : ∀ n < 256, (hexLower 2 n).length = 2 ∧ ((hexLower 2 n).all fun c => digitVal c < 16) = true ∧
      digitsVal 16 (hexLower 2 n) = n := by decide +kernel
  obtain ⟨length, digits, value⟩ := all n narrow
  exact ⟨length, by simpa using digits, value⟩

theorem columnStart_digits {digits : Text} (some_digit : 0 < digits.length) (isDigits : ∀ c ∈ digits, digitVal c < 16) :
    ColumnStart digits := by
  obtain ⟨first, others, rfl⟩ := List.exists_cons_of_ne_nil (List.length_pos_iff.mp some_digit)
  have digit := isDigits first (by simp)
  exact ⟨by simp, stops_cons.mpr (digit_plain (by omega)).1⟩

/-- `%02x` reads a byte that is printed with two digits. -/
theorem reads_narrow {value : UInt32} (narrow : value < 256) :
    (Field.hex 2).Reads (hexLower 2 value.toNat) (.hex value) := by
  have bound : value.toNat < 256 := UInt32.lt_iff_toNat_lt.mp narrow
  obtain ⟨length, digits, same⟩ := hexLower_narrow bound
  have reads := @reads_hexField (hexLower 2 value.toNat) (by omega) digits (by omega)
  rwa [length, same, UInt32.ofNat_toNat] at reads

theorem columnStart_narrow {value : UInt32} (narrow : value < 256) : ColumnStart (hexLower 2 value.toNat) := by
  obtain ⟨length, digits, _⟩ := hexLower_narrow (UInt32.lt_iff_toNat_lt.mp narrow)
  exact columnStart_digits (by omega) digits

namespace Inet6Row

variable (row : Inet6Row)

/-- What the conversions store of a narrow row. -/
def items : List Scanned :=
  [.string row.digits, .hex row.idx, .hex row.prefixLength, .hex row.scope, .hex row.flags, .string row.name]

theorem columnStart_address : ColumnStart row.digits :=
  columnStart_digits (by rw [row.address.1]; omega) row.address.2

theorem stops_text (rest : Text) : Stops isSpace (row.text ++ rest) := by
  rw [text, List.append_assoc]
  exact (row.columnStart_address.append _).2

variable {row}

/-- The columns of the numbers, the name and the newline. -/
theorem fscanfFields_behind (narrow : row.Narrow) {rest : Text} (start : Stops isSpace rest) :
    fscanfFields [.hex 2, .hex 2, .hex 2, .hex 2, .string 8] ([32] ++ (hexLower 2 row.idx.toNat ++
      ([32] ++ (hexLower 2 row.prefixLength.toNat ++ ([32] ++ (hexLower 2 row.scope.toNat ++
        ([32] ++ (hexLower 2 row.flags.toNat ++ (32 :: List.replicate row.gap 32 ++ (row.name ++ 10 :: rest)))))))))) =
      (row.items.tail, rest) := by
  have blank : ∀ c ∈ ([32] : Text), isSpace c = true := by simp [isSpace]
  have gap : ∀ c ∈ (32 :: List.replicate row.gap 32 : Text), isSpace c = true := by
    intro c member
    rcases List.mem_cons.mp member with first | later
    · rw [first]
      rfl
    · rw [List.eq_of_mem_replicate later]
      rfl
  have nameStart : ColumnStart row.name := by
    obtain ⟨first, others, same⟩ := List.exists_cons_of_ne_nil row.named.1
    have plain := (row.named.2.2 first (by simp [same])).2
    rw [same]
    exact ⟨by simp, stops_cons.mpr plain⟩
  have named := @reads_stringField row.name 8 (fun c member => (row.named.2.2 c member).2) narrow.name
  have newline : (10 :: rest).dropWhile isSpace = rest := @dropWhile_stop isSpace [10] rest (by simp [isSpace]) start
  rw [fscanfFields_column blank (columnStart_narrow narrow.idx) (reads_narrow narrow.idx) (by simp [isSpace]),
    fscanfFields_column blank (columnStart_narrow narrow.prefixLength) (reads_narrow narrow.prefixLength) (by simp [isSpace]),
    fscanfFields_column blank (columnStart_narrow narrow.scope) (reads_narrow narrow.scope) (by simp [isSpace]),
    fscanfFields_column blank (columnStart_narrow narrow.flags) (reads_narrow narrow.flags) (by simp [isSpace]),
    fscanfFields_column gap nameStart named (by simp [isSpace]), fscanfFields, newline]
  rfl

/-- A call reads a narrow row, and the next one starts behind it. -/
theorem fscanf_text (narrow : row.Narrow) {rest : Text} (start : Stops isSpace rest) :
    fscanf inet6Format (row.text ++ rest) = some (row.items, rest) := by
  have plain : ∀ c ∈ row.digits, isSpace c = false := by
    intro c member
    have digit := row.address.2 c member
    exact (digit_plain (by omega)).1
  have address := @reads_stringField row.digits 32 plain (by rw [row.address.1])
  have behind := fscanfFields_behind narrow start
  have shape : row.text ++ rest = [] ++ (row.digits ++ ([32] ++ (hexLower 2 row.idx.toNat ++
      ([32] ++ (hexLower 2 row.prefixLength.toNat ++ ([32] ++ (hexLower 2 row.scope.toNat ++
        ([32] ++ (hexLower 2 row.flags.toNat ++ (32 :: List.replicate row.gap 32 ++ (row.name ++ 10 :: rest))))))))))) := by
    simp only [text, List.append_assoc, List.cons_append, List.nil_append]
  have more : ¬(row.text ++ rest).dropWhile isSpace = [] := by
    have kept := @dropWhile_stop isSpace [] (row.text ++ rest) (by simp) (row.stops_text rest)
    rw [List.nil_append] at kept
    rw [kept, shape, List.nil_append]
    exact (row.columnStart_address.append _).1
  rw [fscanf, if_neg more, shape, inet6Format,
    fscanfFields_column (by simp) row.columnStart_address address (by simp [isSpace]), behind]
  rfl

end Inet6Row

theorem stops_rows (rows : List Inet6Row) : Stops isSpace (rows.flatMap Inet6Row.text) := by
  cases rows with
  | nil => simp
  | cons row rows =>
    rw [List.flatMap_cons]
    exact row.stops_text _

theorem fscanfAll_row {row : Inet6Row} (narrow : row.Narrow) (rows : List Inet6Row) :
    fscanfAll inet6Format ((row :: rows).flatMap Inet6Row.text) =
      row.items :: fscanfAll inet6Format (rows.flatMap Inet6Row.text) := by
  have read := Inet6Row.fscanf_text narrow (stops_rows rows)
  rw [List.flatMap_cons]
  exact fscanfAll_cons (by omega) read

/-- `hexNibble` reads digits of both cases. -/
theorem hexNibble_digit {c : UInt8} (digit : digitVal c < 16) : (hexNibble c).toNat = digitVal c := by
  have all : ∀ n < 256, digitVal (UInt8.ofNat n) < 16 →
      (hexNibble (UInt8.ofNat n)).toNat = digitVal (UInt8.ofNat n) := by decide +kernel
  have here := all c.toNat c.toNat_lt
  rw [UInt8.ofNat_toNat] at here
  exact here digit

/-- Two digits are a byte. -/
theorem hex2int_pair {c d : UInt8} (first : digitVal c < 16) (second : digitVal d < 16) (rest : Text) :
    hex2int (c :: d :: rest) 2 = some (UInt32.ofNat (digitsVal 16 [c, d])) := by
  have high := hexNibble_digit first
  have low := hexNibble_digit second
  have shifted : (hexNibble c).toNat <<< 4 % 2 ^ 32 = 2 ^ 4 * digitVal c := by
    rw [high, Nat.shiftLeft_eq]
    omega
  have value : digitsVal 16 [c, d] = 2 ^ 4 * digitVal c + digitVal d := by
    simp only [digitsVal, List.foldl_cons, List.foldl_nil]
    omega
  have nothing : (0 : UInt32) <<< 4 ||| hexNibble c = hexNibble c := by simp
  rw [hex2int, if_pos (by simp), List.cons_append, List.cons_append, List.take_succ_cons, List.take_succ_cons, List.take_zero,
    Option.some_inj, List.foldl_cons, List.foldl_cons, List.foldl_nil, nothing, ← UInt32.toNat_inj, UInt32.toNat_or,
    UInt32.toNat_shiftLeft, UInt32.toNat_ofNat', show (4 : UInt32).toNat % 32 = 4 from rfl, shifted, low, value,
    ← Nat.two_pow_add_eq_or_of_lt (by omega)]
  omega

theorem mapM_some {α β : Type} {f : α → Option β} {g : α → β} {l : List α} (each : ∀ a ∈ l, f a = some (g a)) :
    l.mapM f = some (l.map g) := by
  induction l with
  | nil => rfl
  | cons a l ih =>
    have here := each a (by simp)
    have others := ih fun b member => each b (by simp [member])
    simp only [List.mapM_cons, here, others, Option.bind_eq_bind, Option.bind_some, Option.pure_def, List.map_cons]

/-- The 16 bytes of the address, two digits each. -/
theorem Inet6Row.inet6Address_digits (row : Inet6Row) (behind : List UInt8) :
    inet6Address (row.digits ++ behind) = some row.config.address6 := by
  simp only [inet6Address, config]
  refine mapM_some ?_
  intro i member
  have bound : i < 16 := List.mem_range.mp member
  obtain ⟨length, digits⟩ := row.address
  have high : 2 * i < row.digits.length := by omega
  have low : 2 * i + 1 < row.digits.length := by omega
  have split : row.digits.drop (2 * i) = row.digits[2 * i] :: row.digits[2 * i + 1] :: row.digits.drop (2 * i + 1 + 1) := by
    rw [List.drop_eq_getElem_cons high, List.drop_eq_getElem_cons low]
  have pair := hex2int_pair (digits _ (List.getElem_mem high)) (digits _ (List.getElem_mem low))
    (row.digits.drop (2 * i + 1 + 1) ++ behind)
  rw [List.drop_append_of_le_length (by omega), split, List.cons_append, List.cons_append, pair, Option.map_some,
    UInt32.toUInt8_ofNat']
  rfl

namespace Inet6Vars

variable {vars vars' : Inet6Vars}

theorem length_storeItem {buffer buffer' : List UInt8} {item : Option Scanned} (run : storeItem buffer item = some buffer') :
    buffer'.length = buffer.length := by
  unfold storeItem at run
  split at run
  · rename_i text
    have fits := storeString_some_iff.mp ⟨buffer', run⟩
    rw [storeString_some fits] at run
    cases run
    simp only [List.length_append, List.length_cons, List.length_drop]
    omega
  · cases run
    rfl

theorem Sized.store {items : List Scanned} (sized : vars.Sized) (run : vars.store items = some vars') : vars'.Sized := by
  obtain ⟨addr, atAddr, run⟩ := Option.bind_eq_some_iff.mp run
  obtain ⟨ifname, atIfname, run⟩ := Option.bind_eq_some_iff.mp run
  cases run
  exact ⟨(length_storeItem atAddr).trans sized.addr, (length_storeItem atIfname).trans sized.ifname⟩

/-- A narrow row is stored with all its columns. -/
theorem Sized.store_items (sized : vars.Sized) {row : Inet6Row} (narrow : row.Narrow) :
    ∃ vars', vars.store row.items = some vars' ∧ vars'.addr = row.digits ++ [0] ∧ vars'.prefixLength = row.prefixLength ∧
      vars'.scope = row.scope ∧ readString vars'.ifname = some row.name := by
  obtain ⟨addr, ifname⟩ := sized
  have length := row.address.1
  have short := narrow.name
  have address := @storeString_some vars.addr row.digits (by omega)
  have named := @storeString_some vars.ifname row.name (by omega)
  have whole : vars.addr.drop (row.digits.length + 1) = [] := List.drop_of_length_le (by omega)
  rw [whole] at address
  have noNul : ofBuffer row.name = row.name := ofBuffer_of_no_nul fun c member => (row.named.2.2 c member).1
  have read : readString (row.name ++ 0 :: vars.ifname.drop (row.name.length + 1)) = some row.name := by
    rw [readString, if_pos (by simp), ofBuffer_storeString named, noNul]
  refine ⟨⟨row.digits ++ [0], row.idx, row.prefixLength, row.scope, row.flags,
    row.name ++ 0 :: vars.ifname.drop (row.name.length + 1)⟩, ?_, rfl, rfl, rfl, read⟩
  simp only [Inet6Vars.store, Inet6Row.items, storeItem, hexItem, address, named, List.getElem?_cons_zero, List.getElem?_cons_succ,
    Option.bind_eq_bind, Option.bind_some, Option.pure_def]

/-- The buffer holds the NUL too. -/
theorem Sized.length_ifname (sized : vars.Sized) {name : Text} (read : readString vars.ifname = some name) :
    name.length ≤ 8 := by
  obtain ⟨nul, same⟩ := Option.ite_none_right_eq_some.mp read
  cases same
  have parts := congrArg List.length (@List.takeWhile_append_dropWhile _ (· != 0) vars.ifname)
  have more : vars.ifname.dropWhile (· != 0) ≠ [] := by
    intro empty
    rw [List.dropWhile_eq_nil_iff] at empty
    simpa using empty 0 nul
  have positive := List.length_pos_iff.mpr more
  have room := sized.ifname
  rw [List.length_append] at parts
  show (vars.ifname.takeWhile (· != 0)).length ≤ 8
  omega

end Inet6Vars

/-- The loop over the rows up to the first one with the name. -/
theorem inet6Loop_rows {name : Text} {rows : List Inet6Row} (narrow : NarrowTo name rows) {vars : Inet6Vars}
    (sized : vars.Sized) : ∃ status vars', inet6Loop name vars (fscanfAll inet6Format (rows.flatMap Inet6Row.text)) =
      some (status, vars') ∧ match rows.find? (fun row => row.name = name) with
        | some row => status = 0 ∧ vars'.addr = row.digits ++ [0] ∧ vars'.prefixLength = row.prefixLength ∧
          vars'.scope = row.scope
        | none => status = ENOENT := by
  induction rows generalizing vars with
  | nil => exact ⟨ENOENT, vars, rfl, rfl⟩
  | cons row rows ih =>
    obtain ⟨here, others⟩ := narrow
    obtain ⟨vars', run, addr, prefixLength, scope, ifname⟩ := sized.store_items here
    have sized' := sized.store run
    rw [fscanfAll_row here, List.find?_cons]
    by_cases same : row.name = name
    · refine ⟨0, vars', ?_, ?_⟩
      · simp only [inet6Loop, run, ifname, same, Option.bind_eq_bind, Option.bind_some, if_true, Option.pure_def]
      · simp only [same, decide_true]
        exact ⟨trivial, addr, prefixLength, scope⟩
    · obtain ⟨status, vars'', loop, result⟩ := ih (others.resolve_left same) sized'
      refine ⟨status, vars'', ?_, ?_⟩
      · simp only [inet6Loop, run, ifname, Ne.symm same, Option.bind_eq_bind, Option.bind_some, if_false, loop]
      · simpa only [same, decide_false] using result

/-- Only names that fit into `ifname` are found, in whatever the file has. -/
theorem inet6Loop_found {name : Text} {calls : List (List Scanned)} {vars vars' : Inet6Vars} (sized : vars.Sized)
    (found : inet6Loop name vars calls = some (0, vars')) : name.length ≤ 8 := by
  induction calls generalizing vars with
  | nil =>
    have status : ENOENT = 0 := congrArg Prod.fst (Option.some.inj found)
    exact absurd status (by decide)
  | cons items calls ih =>
    obtain ⟨stored, store, found⟩ := Option.bind_eq_some_iff.mp found
    obtain ⟨ifname, read, found⟩ := Option.bind_eq_some_iff.mp found
    have sized' := sized.store store
    split_ifs at found with same
    · rw [same]
      exact sized'.length_ifname read
    · exact ih sized' found

section Get

variable (memory : Inet6Memory) (rows : List Inet6Row) (name : Text) (ifconfig : Ipv6Config)

/-- Rows whose columns fit are served, and a name that does not fit is never found. -/
theorem sysmNetInterfaceIpv6ConfigGet_serves :
    (NarrowTo name rows → ServesInet6 name rows
      (sysmNetInterfaceIpv6ConfigGet memory (.ok (rows.flatMap Inet6Row.text)) name ifconfig)) ∧
    ((∃ row ∈ rows, row.name = name) → 8 < name.length → ¬ServesInet6 name rows
      (sysmNetInterfaceIpv6ConfigGet memory (.ok (rows.flatMap Inet6Row.text)) name ifconfig)) := by
  have sized : memory.vars.Sized := ⟨memory.addr_length, memory.ifname_length⟩
  constructor
  · intro narrow
    obtain ⟨status, vars, loop, result⟩ := inet6Loop_rows narrow sized
    cases first : rows.find? (fun row => row.name = name) with
    | none =>
      simp only [first] at result
      have absent : ∀ row ∈ rows, row.name ≠ name := by simpa using List.find?_eq_none.mp first
      refine ⟨ENOENT, ifconfig, ?_, ?_, ?_⟩
      · simp only [sysmNetInterfaceIpv6ConfigGet, loop, result, Option.bind_eq_bind, Option.bind_some,
          show ¬(ENOENT = 0) by decide, if_false, Option.pure_def]
      · refine iff_of_false (by decide) ?_
        rintro ⟨row, member, same⟩
        exact absent row member same
      · intro row same
        rw [first] at same
        cases same
    | some row =>
      simp only [first] at result
      obtain ⟨ok, addr, prefixLength, scope⟩ := result
      have member := List.mem_of_find?_eq_some first
      have same : row.name = name := by simpa using List.find?_some first
      refine ⟨0, row.config, ?_, iff_of_true rfl ⟨row, member, same⟩, ?_⟩
      · simp only [sysmNetInterfaceIpv6ConfigGet, loop, ok, addr, prefixLength, scope, row.inet6Address_digits,
          Option.bind_eq_bind, Option.bind_some, if_true, Option.pure_def]
        rfl
      · intro other found
        rw [first] at found
        cases found
        rfl
  · rintro some_row long ⟨status, config, answer, served, _⟩
    obtain ⟨⟨final, vars⟩, loop, answer⟩ := Option.bind_eq_some_iff.mp answer
    have ok := served.mpr some_row
    by_cases found : final = 0
    · subst found
      have short := inet6Loop_found sized loop
      omega
    · simp only [found, if_false, Option.pure_def, Option.some.injEq, Prod.mk.injEq] at answer
      omega

end Get

/-- Variables that are all zero. -/
def inet6Zero : Inet6Memory where
  vars := ⟨List.replicate 33 0, 0, 0, 0, 0, List.replicate 9 0⟩
  addr_length := rfl
  ifname_length := rfl

def loRow : Inet6Row where
  digits := ofString "00000000000000000000000000000001"
  idx := 1
  prefixLength := 0x80
  scope := 0x10
  flags := 0x80
  gap := 6
  name := ofString "lo"
  address := ⟨rfl, List.all_iff_forall_prop.mp (by decide)⟩
  named := ⟨by decide, by decide, List.all_iff_forall_prop.mp (by decide)⟩

/-- The row of an interface with a predictable name. -/
def onboardRow : Inet6Row where
  digits := ofString "fe80000000000000020c29fffe000001"
  idx := 2
  prefixLength := 0x40
  scope := 0x20
  flags := 0x80
  gap := 0
  name := ofString "enp0s31f6"
  address := ⟨rfl, List.all_iff_forall_prop.mp (by decide)⟩
  named := ⟨by decide, by decide, List.all_iff_forall_prop.mp (by decide)⟩

/-- The row of a wireless interface. -/
def wlanRow : Inet6Row where
  digits := ofString "fe80000000000000020c29fffe000002"
  idx := 3
  prefixLength := 0x40
  scope := 0x20
  flags := 0x80
  gap := 3
  name := ofString "wlan0"
  address := ⟨rfl, List.all_iff_forall_prop.mp (by decide)⟩
  named := ⟨by decide, by decide, List.all_iff_forall_prop.mp (by decide)⟩

/-- The last of the rows that can be reached. -/
theorem sysmNetInterfaceIpv6ConfigGet_serves_lo : ServesInet6 (ofString "lo") [wlanRow, loRow, onboardRow]
    (sysmNetInterfaceIpv6ConfigGet inet6Zero (.ok ([wlanRow, loRow, onboardRow].flatMap Inet6Row.text)) (ofString "lo")
      ⟨List.replicate 16 0, 0, 0⟩) := by
  have narrow : NarrowTo (ofString "lo") [wlanRow, loRow, onboardRow] :=
    ⟨⟨by decide, by decide, by decide, by decide, by decide⟩,
      Or.inr ⟨⟨by decide, by decide, by decide, by decide, by decide⟩, Or.inl rfl⟩⟩
  exact (sysmNetInterfaceIpv6ConfigGet_serves inet6Zero [wlanRow, loRow, onboardRow] (ofString "lo") _).1 narrow

/-- The interface is not found, and the row behind it is read from the middle
of the address on. -/
theorem sysmNetInterfaceIpv6ConfigGet_longName :
    ¬ServesInet6 (ofString "enp0s31f6") [onboardRow] (sysmNetInterfaceIpv6ConfigGet inet6Zero
      (.ok ([onboardRow].flatMap Inet6Row.text)) (ofString "enp0s31f6") ⟨List.replicate 16 0, 0, 0⟩) ∧
    ¬ServesInet6 (ofString "lo") [onboardRow, loRow] (sysmNetInterfaceIpv6ConfigGet inet6Zero
      (.ok ([onboardRow, loRow].flatMap Inet6Row.text)) (ofString "lo") ⟨List.replicate 16 0, 0, 0⟩) := by
  have absent : (sysmNetInterfaceIpv6ConfigGet inet6Zero (.ok ([onboardRow].flatMap Inet6Row.text))
      (ofString "enp0s31f6") ⟨List.replicate 16 0, 0, 0⟩).map Prod.fst = some ENOENT := by decide +kernel
  have other : (sysmNetInterfaceIpv6ConfigGet inet6Zero (.ok ([onboardRow, loRow].flatMap Inet6Row.text))
      (ofString "lo") ⟨List.replicate 16 0, 0, 0⟩).map (fun answer => answer.2 == loRow.config) = some false := by
    decide +kernel
  constructor
  · rintro ⟨status, config, answer, served, _⟩
    have ok := served.mpr ⟨onboardRow, by simp, rfl⟩
    rw [answer, ok] at absent
    cases absent
  · rintro ⟨status, config, answer, _, right⟩
    have same := right loRow rfl
    rw [answer, same] at other
    simp at other

end Sysm
