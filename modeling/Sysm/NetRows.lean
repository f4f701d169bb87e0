import Sysm.Lib.CNumbers
import Sysm.NetTable

namespace Sysm
open CString

/-- An address as the tables of the kernel have it: one 32-bit word or four. -/
inductive RowAddress where
  | ipv4 (word : UInt32)
  | ipv6 (first second third fourth : UInt32)
deriving Repr, DecidableEq

namespace RowAddress

def text : RowAddress → Text
  | ipv4 word => hexFixed 8 word.toNat
  | ipv6 first second third fourth =>
    hexFixed 8 first.toNat ++ hexFixed 8 second.toNat ++ hexFixed 8 third.toNat ++ hexFixed 8 fourth.toNat

def address : RowAddress → SysmNetAddress
  | ipv4 word => .inet word
  | ipv6 first second third fourth => .inet6 (first, second, third, fourth)

end RowAddress

/-- A column whose value is of no interest. -/
structure Token where
  text : Text
  nonempty : text ≠ []
  plain : ∀ c ∈ text, c ≠ 0 ∧ c ≠ 10 ∧ c ≠ 32

/-- A row of `/proc/net/tcp` and of the tables like it. -/
structure NetRow where
  slot : Nat
  loAddress : RowAddress
  loPort : UInt16
  reAddress : RowAddress
  rePort : UInt16
  state : UInt8
  txQueue : UInt32
  rxQueue : UInt32
  timer : Token
  retransmits : Token
  uid : UInt32
  timeout : Token
  inode : UInt64
  rest : Text
  ended : Stops (fun c => digitVal c < 10) rest
  oneLine : ∀ c ∈ rest, c ≠ 10 ∧ c ≠ 0

namespace NetRow

variable (row : NetRow)

/-- The columns from the user on. -/
def tail : Text :=
  padLeft 5 (decimal row.uid.toNat) ++ 32 :: padLeft 8 row.timeout.text ++ 32 :: decimal row.inode.toNat ++ row.rest

/-- The columns from the state on. -/
def middle : Text :=
  hexFixed 2 row.state.toNat ++ 32 :: hexFixed 8 row.txQueue.toNat ++ 58 :: hexFixed 8 row.rxQueue.toNat ++
    32 :: row.timer.text ++ 32 :: row.retransmits.text ++ 32 :: row.tail

/-- The row as it is printed, without the newline. -/
def text : Text :=
  padLeft 4 (decimal row.slot) ++ 58 :: 32 :: row.loAddress.text ++ 58 :: hexFixed 4 row.loPort.toNat ++
    32 :: row.reAddress.text ++ 58 :: hexFixed 4 row.rePort.toNat ++ 32 :: row.middle

/-- The record that the row stands for. -/
def connection (type : UInt32) : SysmNetConnection where
  loPort := row.loPort.toUInt64
  loAddress := row.loAddress.address
  rePort := row.rePort.toUInt64
  reAddress := row.reAddress.address
  uid := row.uid.toInt32
  inode := row.inode
  type := type
  state := row.state.toUInt32.toInt32
  seQ := row.txQueue.toUInt64
  reQ := row.rxQueue.toUInt64

/-- Rows with a remote port are for clients, those without for servers. -/
def selected (flags : UInt32) : Bool :=
  if row.rePort = 0 then flags &&& netconnServer != 0 else flags &&& netconnClient != 0

end NetRow

theorem skipWhile_append {c : UInt8} {blanks rest : Text} (same : ∀ d ∈ blanks, d = c) (stop : Stops (· == c) rest) :
    skipWhile c (blanks ++ rest) = rest :=
  dropWhile_stop (by simpa using same) stop

/-- `SKIP_PAST` skips a column and the blanks behind it. -/
theorem skipPast_append {c : UInt8} {word blanks rest : Text} (other : ∀ d ∈ word, d ≠ c)
    (same : ∀ d ∈ blanks, d = c) (stop : Stops (· == c) rest) (more : blanks ≠ []) :
    skipPast c (word ++ (blanks ++ rest)) = rest := by
  obtain ⟨first, blanks, rfl⟩ := List.exists_cons_of_ne_nil more
  have atBlank : Stops (· != c) (first :: blanks ++ rest) := by
    simpa using same first (by simp)
  rw [skipPast, dropWhile_stop (by simpa using other) atBlank, skipWhile_append same stop]

theorem hexNibble_hexDigit {n : Nat} (small : n < 16) : (hexNibble (hexDigit n)).toNat = n := by
  interval_cases n <;> rfl

theorem hex2int_fold (width n : Nat) (short : width ≤ 8) :
    ((hexFixed width n).foldl (fun (j : UInt32) c => j <<< 4 ||| hexNibble c) 0).toNat = n % 16 ^ width := by
  induction width generalizing n with
  | zero => simp [hexFixed, Nat.mod_one]
  | succ width ih =>
    have before := ih (n / 16) (by omega)
    have small : n % 16 < 16 := by omega
    have power : 16 ^ width ≤ 16 ^ 7 := Nat.pow_le_pow_right (by omega) (by omega)
    have bound : n / 16 % 16 ^ width < 16 ^ width := Nat.mod_lt _ (Nat.pow_pos (by omega))
    have shifted : n / 16 % 16 ^ width * 2 ^ 4 % 2 ^ 32 = 2 ^ 4 * (n / 16 % 16 ^ width) := by omega
    have split : n % 16 ^ (width + 1) = n % 16 + 16 * (n / 16 % 16 ^ width) := by rw [Nat.pow_succ', Nat.mod_mul]
    rw [hexFixed, List.foldl_append, List.foldl_cons, List.foldl_nil, UInt32.toNat_or, UInt32.toNat_shiftLeft, before,
      hexNibble_hexDigit small, show (4 : UInt32).toNat % 32 = 4 from rfl, Nat.shiftLeft_eq, shifted,
      ← Nat.two_pow_add_eq_or_of_lt small, split]
    omega

/-- `hex2int` reads back what a format with eight digits or fewer has printed. -/
theorem hex2int_hexFixed {width : Nat} (short : width ≤ 8) {n : UInt32} (small : n.toNat < 16 ^ width) (rest : Text) :
    hex2int (hexFixed width n.toNat ++ rest) width = some n := by
  have length := length_hexFixed width n.toNat
  have digits : ((hexFixed width n.toNat ++ rest) ++ [0]).take width = hexFixed width n.toNat := by
    rw [List.append_assoc, List.take_append_of_le_length (by omega), List.take_of_length_le (by omega)]
  rw [hex2int, if_pos (by simp [length]; omega), digits, Option.some_inj, ← UInt32.toNat_inj, hex2int_fold _ _ short,
    Nat.mod_eq_of_lt small]

theorem advance_append {width : Nat} {word rest : Text} (length : word.length = width) :
    advance width (word ++ rest) = some rest := by
  rw [advance, if_pos (by simp [length]), List.drop_left' length]

theorem hexDigit_plain {n : Nat} (small : n < 16) :
    hexDigit n ≠ 0 ∧ hexDigit n ≠ 10 ∧ hexDigit n ≠ 32 ∧ hexDigit n ≠ 58 := by
  interval_cases n <;> decide

theorem hexFixed_plain {width n : Nat} {c : UInt8} (member : c ∈ hexFixed width n) :
    c ≠ 0 ∧ c ≠ 10 ∧ c ≠ 32 ∧ c ≠ 58 := by
  obtain ⟨d, small, same⟩ := mem_hexFixed member
  rw [same]
  exact hexDigit_plain small

/-- No skipping goes beyond the first digit of a printed number. -/
theorem hexFixed_stops {width n : Nat} (positive : 0 < width) (c : UInt8) (other : c = 32 ∨ c = 58) (rest : Text) :
    Stops (· == c) (hexFixed width n ++ rest) := by
  have length := length_hexFixed width n
  obtain ⟨first, digits, same⟩ := List.exists_cons_of_ne_nil
    (List.length_pos_iff.mp (by omega : 0 < (hexFixed width n).length))
  have plain := @hexFixed_plain width n first (by simp [same])
  rw [same, List.cons_append, stops_cons, beq_eq_false_iff_ne]
  rcases other with rfl | rfl
  · exact plain.2.2.1
  · exact plain.2.2.2

theorem decimal_stops (n : Nat) (rest : Text) : Stops (· == 32) (decimal n ++ rest) := by
  obtain ⟨first, digits, same⟩ := List.exists_cons_of_ne_nil (decimal_ne_nil n)
  have plain := @decimal_plain n first (by simp [same])
  simpa [same] using plain.2.2.1

theorem Token.stops (token : Token) (rest : Text) : Stops (· == 32) (token.text ++ rest) := by
  obtain ⟨first, others, same⟩ := List.exists_cons_of_ne_nil token.nonempty
  have plain := token.plain first (by simp [same])
  simpa [same] using plain.2.2

namespace RowAddress

variable (row : RowAddress)

theorem text_plain {c : UInt8} (member : c ∈ row.text) : c ≠ 0 ∧ c ≠ 10 ∧ c ≠ 32 ∧ c ≠ 58 := by
  cases row with
  | ipv4 word => exact hexFixed_plain member
  | ipv6 first second third fourth =>
    simp only [text, List.mem_append] at member
    rcases member with ((here | here) | here) | here
    · exact hexFixed_plain here
    · exact hexFixed_plain here
    · exact hexFixed_plain here
    · exact hexFixed_plain here

theorem text_stops (rest : Text) : Stops (· == 32) (row.text ++ rest) := by
  cases row with
  | ipv4 word => exact hexFixed_stops (by omega) 32 (Or.inl rfl) rest
  | ipv6 first second third fourth =>
    simp only [text, List.append_assoc]
    exact hexFixed_stops (by omega) 32 (Or.inl rfl) _

/-- The length tells the two widths of an address apart. -/
theorem convertHexAddress_text (rest : Text) : convertHexAddress (row.text ++ rest) row.text.length = some row.address := by
  cases row with
  | ipv4 word =>
    have length := length_hexFixed 8 word.toNat
    have read := hex2int_hexFixed (by omega : 8 ≤ 8) word.toNat_lt rest
    simp only [convertHexAddress, text, length, hexEntLen, read]
    rfl
  | ipv6 first second third fourth =>
    have length (word : UInt32) : (hexFixed 8 word.toNat).length = 8 := length_hexFixed 8 word.toNat
    have read (word : UInt32) (rest : Text) : hex2int (hexFixed 8 word.toNat ++ rest) 8 = some word :=
      hex2int_hexFixed (by omega) word.toNat_lt rest
    have next (word : UInt32) (rest : Text) : advance 8 (hexFixed 8 word.toNat ++ rest) = some rest :=
      advance_append (length word)
    simp only [convertHexAddress, text, List.length_append, length, hexEntLen, List.append_assoc, read, next,
      Option.bind_eq_bind, Option.bind_some]
    rfl

end RowAddress

/-- One end of a connection: the address, the port and the blank behind it. -/
theorem procNetEnd_text (row : RowAddress) (port : UInt16) {rest : Text} (stop : Stops (· == 32) rest) :
    procNetEnd (row.text ++ 58 :: (hexFixed 4 port.toNat ++ 32 :: rest)) = (row.text.length, port.toUInt64, rest) := by
  have noColon : ∀ c ∈ row.text, (c != 58) = true := by
    intro c member
    simpa using (row.text_plain member).2.2.2
  have atColon : Stops (· != 58) (58 :: (hexFixed 4 port.toNat ++ 32 :: rest)) := by simp
  have digits : Stops (· == 58) (hexFixed 4 port.toNat ++ 32 :: rest) := hexFixed_stops (by omega) 58 (Or.inr rfl) _
  have behind : skipWhile 58 (58 :: (hexFixed 4 port.toNat ++ 32 :: rest)) = hexFixed 4 port.toNat ++ 32 :: rest :=
    @skipWhile_append 58 [58] _ (by simp) digits
  have bound := port.toNat_lt
  have read : strtoul 16 (hexFixed 4 port.toNat ++ 32 :: rest) = (UInt64.ofNat port.toNat, 32 :: rest) :=
    strtoul_hexFixed (by omega) bound (by omega) (by simp [digitVal, isDigit, isUpper, isLower])
  have masked : UInt64.ofNat port.toNat &&& 0xffff = port.toUInt64 := by
    rw [← UInt64.toNat_inj, UInt64.toNat_and, UInt64.toNat_ofNat', UInt16.toNat_toUInt64, Nat.mod_eq_of_lt (by omega)]
    exact (Nat.and_two_pow_sub_one_eq_mod port.toNat 16).trans (Nat.mod_eq_of_lt bound)
  have blank : skipWhile 32 (32 :: rest) = rest := @skipWhile_append 32 [32] rest (by simp) stop
  simp only [procNetEnd, takeWhile_stop noColon atColon, dropWhile_stop noColon atColon, behind, read, masked, blank]

namespace NetRow

variable (row : NetRow)

/-- Behind the number of the row. -/
theorem skip_slot : skipPast 32 (skipWhile 32 (row.text ++ [10])) =
    row.loAddress.text ++ 58 :: (hexFixed 4 row.loPort.toNat ++ 32 :: (row.reAddress.text ++
      58 :: (hexFixed 4 row.rePort.toNat ++ 32 :: (row.middle ++ [10])))) := by
  have colon : ∀ c ∈ decimal row.slot ++ [58], c ≠ 32 := by
    intro c member
    rcases List.mem_append.mp member with digit | last
    · exact (decimal_plain digit).2.2.1
    · rw [List.mem_singleton.mp last]
      decide
  have shape : row.text ++ [10] = List.replicate (4 - (decimal row.slot).length) 32 ++ (decimal row.slot ++
      ([58] ++ ([32] ++ (row.loAddress.text ++ 58 :: (hexFixed 4 row.loPort.toNat ++ 32 :: (row.reAddress.text ++
        58 :: (hexFixed 4 row.rePort.toNat ++ 32 :: (row.middle ++ [10])))))))) := by
    simp only [text, padLeft, List.append_assoc, List.cons_append, List.nil_append]
  rw [shape, skipWhile_append (fun c member => List.eq_of_mem_replicate member) (decimal_stops _ _), ← List.append_assoc,
    skipPast_append colon (by simp) (row.loAddress.text_stops _) (by simp)]

/-- Behind the timer and the retransmits. -/
theorem skip_timer : skipPast 32 (skipPast 32 (row.timer.text ++ 32 :: (row.retransmits.text ++ 32 :: (row.tail ++ [10])))) =
    decimal row.uid.toNat ++ 32 :: (padLeft 8 row.timeout.text ++ 32 :: (decimal row.inode.toNat ++ (row.rest ++ [10]))) := by
  have first := @skipPast_append 32 row.timer.text [32] (row.retransmits.text ++ 32 :: (row.tail ++ [10]))
    (fun c member => (row.timer.plain c member).2.2) (by simp) (row.retransmits.stops _) (by simp)
  have second := @skipPast_append 32 row.retransmits.text
    (32 :: List.replicate (5 - (decimal row.uid.toNat).length) 32)
    (decimal row.uid.toNat ++ 32 :: (padLeft 8 row.timeout.text ++ 32 :: (decimal row.inode.toNat ++ (row.rest ++ [10]))))
    (fun c member => (row.retransmits.plain c member).2.2) (by simp) (decimal_stops _ _) (by simp)
  simp only [List.cons_append, List.nil_append] at first second
  have shape : row.tail ++ [10] = List.replicate (5 - (decimal row.uid.toNat).length) 32 ++ (decimal row.uid.toNat ++
      32 :: (padLeft 8 row.timeout.text ++ 32 :: (decimal row.inode.toNat ++ (row.rest ++ [10])))) := by
    simp only [tail, padLeft, List.append_assoc, List.cons_append]
  rw [first, shape, second]

/-- Behind the timeout. -/
theorem skip_timeout : skipPast 32 (skipWhile 32 (32 :: (padLeft 8 row.timeout.text ++
    32 :: (decimal row.inode.toNat ++ (row.rest ++ [10]))))) = decimal row.inode.toNat ++ (row.rest ++ [10]) := by
  have blanks := @skipWhile_append 32 (32 :: List.replicate (8 - row.timeout.text.length) 32)
    (row.timeout.text ++ 32 :: (decimal row.inode.toNat ++ (row.rest ++ [10]))) (by simp) (row.timeout.stops _)
  have column := @skipPast_append 32 row.timeout.text [32] (decimal row.inode.toNat ++ (row.rest ++ [10]))
    (fun c member => (row.timeout.plain c member).2.2) (by simp) (decimal_stops _ _) (by simp)
  simp only [List.cons_append, List.nil_append] at blanks column
  simp only [padLeft, List.append_assoc]
  rw [blanks, column]

theorem netconnSelects_rePort (flags : UInt32) : netconnSelects flags row.rePort.toUInt64 = row.selected flags := by
  by_cases server : row.rePort = 0
  · simp [netconnSelects, selected, server]
  · have remote : row.rePort.toUInt64 ≠ 0 := by
      intro zero
      apply server
      rw [← UInt16.toNat_inj, ← UInt16.toNat_toUInt64, zero]
      rfl
    rw [netconnSelects, bne, beq_eq_false_iff_ne.mpr remote, selected, if_neg server]
    simp

end NetRow

/-- Every column of the row is read where it stands. -/
theorem procNetLine_text (row : NetRow) (flags type : UInt32) : procNetLine flags type (row.text ++ [10]) =
    some (if row.selected flags then some (row.connection type) else none) := by
  have ports : Stops (· == 32) (row.middle ++ [10]) := by
    simp only [NetRow.middle, List.append_assoc]
    exact hexFixed_stops (by omega) 32 (Or.inl rfl) _
  have queues : Stops (· == 32) (hexFixed 8 row.txQueue.toNat ++ 58 :: (hexFixed 8 row.rxQueue.toNat ++
      32 :: (row.timer.text ++ 32 :: (row.retransmits.text ++ 32 :: (row.tail ++ [10]))))) :=
    hexFixed_stops (by omega) 32 (Or.inl rfl) _
  let afterQueues := row.timer.text ++ 32 :: (row.retransmits.text ++ 32 :: (row.tail ++ [10]))
  have remote := procNetEnd_text row.reAddress row.rePort ports
  have localEnd := procNetEnd_text row.loAddress row.loPort (row.reAddress.text_stops
    (58 :: (hexFixed 4 row.rePort.toNat ++ 32 :: (row.middle ++ [10]))))
  rw [procNetLine, row.skip_slot]
  simp only [localEnd, remote, row.netconnSelects_rePort]
  by_cases selected : row.selected flags = true
  · have shape : row.middle ++ [10] = hexFixed 2 row.state.toUInt32.toNat ++ 32 :: (hexFixed 8 row.txQueue.toNat ++
        58 :: (hexFixed 8 row.rxQueue.toNat ++ 32 :: afterQueues)) := by
      simp only [NetRow.middle, List.append_assoc, List.cons_append, UInt8.toNat_toUInt32, afterQueues]
    have small : row.state.toUInt32.toNat < 16 ^ 2 := by
      rw [UInt8.toNat_toUInt32]
      exact row.state.toNat_lt
    have stateColumn := fun rest => hex2int_hexFixed (by omega : 2 ≤ 8) small rest
    have afterState := fun rest => @advance_append 2 _ rest (length_hexFixed 2 row.state.toUInt32.toNat)
    have blank : skipWhile 32 (32 :: (hexFixed 8 row.txQueue.toNat ++ 58 :: (hexFixed 8 row.rxQueue.toNat ++
        32 :: afterQueues))) = hexFixed 8 row.txQueue.toNat ++ 58 :: (hexFixed 8 row.rxQueue.toNat ++
          32 :: afterQueues) := @skipWhile_append 32 [32] _ (by simp) queues
    have wordColumn := fun (word : UInt32) rest => hex2int_hexFixed (by omega : 8 ≤ 8) word.toNat_lt rest
    have afterTx : advance 9 (hexFixed 8 row.txQueue.toNat ++ 58 :: (hexFixed 8 row.rxQueue.toNat ++
        32 :: afterQueues)) = some (hexFixed 8 row.rxQueue.toNat ++ 32 :: afterQueues) := by
      have word := @advance_append 9 (hexFixed 8 row.txQueue.toNat ++ [58]) (hexFixed 8 row.rxQueue.toNat ++
        32 :: afterQueues) (by simp [length_hexFixed])
      simpa only [List.append_assoc, List.cons_append, List.nil_append] using word
    have afterRx := @advance_append 8 _ (32 :: afterQueues) (length_hexFixed 8 row.rxQueue.toNat)
    have skipped : skipWhile 32 (32 :: afterQueues) = afterQueues :=
      @skipWhile_append 32 [32] _ (by simp) (row.timer.stops _)
    have uidColumn : strtoul 10 (decimal row.uid.toNat ++ 32 :: (padLeft 8 row.timeout.text ++
        32 :: (decimal row.inode.toNat ++ (row.rest ++ [10])))) = (UInt64.ofNat row.uid.toNat, 32 ::
          (padLeft 8 row.timeout.text ++ 32 :: (decimal row.inode.toNat ++ (row.rest ++ [10])))) := by
      have bound := row.uid.toNat_lt
      exact @strtoul_decimal _ [] (by simp) _ (by omega) (by simp [digitVal, isDigit, isUpper, isLower])
    have inodeColumn : strtoul 10 (decimal row.inode.toNat ++ (row.rest ++ [10])) =
        (UInt64.ofNat row.inode.toNat, row.rest ++ [10]) :=
      @strtoul_decimal _ [] (by simp) _ row.inode.toNat_lt (row.ended.newline (by decide))
    have uid : (UInt64.ofNat row.uid.toNat).toUInt32 = row.uid := by
      rw [← UInt32.toNat_inj, UInt64.toNat_toUInt32, UInt64.toNat_ofNat']
      have bound := row.uid.toNat_lt
      omega
    simp only [selected, Bool.not_true, Bool.false_eq_true, if_false, if_true, RowAddress.convertHexAddress_text, shape,
      stateColumn, afterState, blank, hexEntLen, wordColumn, afterTx, afterRx, skipped, afterQueues, row.skip_timer,
      uidColumn, row.skip_timeout, inodeColumn, uid, UInt64.ofNat_toNat, Option.bind_eq_bind, Option.bind_some,
      Option.pure_def, NetRow.connection]
  · simp [selected]

theorem padLeft_plain {p : UInt8 → Prop} {width : Nat} {text : Text} (blank : p 32) (plain : ∀ c ∈ text, p c) :
    ∀ c ∈ padLeft width text, p c := by
  intro c member
  rcases List.mem_append.mp member with pad | inside
  · rw [List.eq_of_mem_replicate pad]
    exact blank
  · exact plain c inside

theorem NetRow.text_plain (row : NetRow) : ∀ c ∈ row.text, c ≠ 10 ∧ c ≠ 0 := by
  have hex (width n : Nat) : ∀ c ∈ hexFixed width n, c ≠ 10 ∧ c ≠ 0 := fun c member =>
    ⟨(hexFixed_plain member).2.1, (hexFixed_plain member).1⟩
  have number (n : Nat) : ∀ c ∈ decimal n, c ≠ 10 ∧ c ≠ 0 := fun c member =>
    ⟨(decimal_plain member).2.1, (decimal_plain member).1⟩
  have address (row : RowAddress) : ∀ c ∈ row.text, c ≠ 10 ∧ c ≠ 0 := fun c member =>
    ⟨(row.text_plain member).2.1, (row.text_plain member).1⟩
  have token (token : Token) : ∀ c ∈ token.text, c ≠ 10 ∧ c ≠ 0 := fun c member =>
    ⟨(token.plain c member).2.1, (token.plain c member).1⟩
  have padded (width : Nat) {text : Text} (plain : ∀ c ∈ text, c ≠ 10 ∧ c ≠ 0) :
      ∀ c ∈ padLeft width text, c ≠ 10 ∧ c ≠ 0 := padLeft_plain (by decide) plain
  have blank : (32 : UInt8) ≠ 10 ∧ (32 : UInt8) ≠ 0 := by decide
  have colon : (58 : UInt8) ≠ 10 ∧ (58 : UInt8) ≠ 0 := by decide
  simp only [text, middle, tail, List.forall_mem_append, List.forall_mem_cons]
  exact ⟨⟨⟨⟨⟨padded 4 (number _), colon, blank, address _⟩, colon, hex _ _⟩, blank, address _⟩, colon, hex _ _⟩, blank,
    ⟨⟨⟨⟨hex _ _, blank, hex _ _⟩, colon, hex _ _⟩, blank, token _⟩, blank, token _⟩, blank,
    ⟨⟨padded 5 (number _), blank, padded 8 (token _)⟩, blank, number _⟩, row.oneLine⟩

/-- A table of the kernel: a header and the rows, no line longer than the buffer. -/
structure NetTable where
  header : Text
  rows : List NetRow
  titled : ∀ c ∈ header, c ≠ 10 ∧ c ≠ 0
  headerFits : header.length + 1 < 8192
  fits : ∀ row ∈ rows, row.text.length + 1 < 8192

/-- The bytes of the file. -/
def NetTable.bytes (table : NetTable) : List UInt8 :=
  table.header ++ 10 :: table.rows.flatMap fun row => row.text ++ [10]

theorem fgetsAll_rows {rows : List NetRow} (fits : ∀ row ∈ rows, row.text.length + 1 < 8192) :
    fgetsAll 8192 (rows.flatMap fun row => row.text ++ [10]) = rows.map fun row => row.text ++ [10] := by
  have lines := @fgetsAll_lines 8192 (rows.map NetRow.text)
    (by simpa using fun row _ => row.text_plain) (by simpa using fits)
  rwa [List.flatMap_map, List.map_map] at lines

section Walk

variable {σ : Type} (add : SysmNetConnection → σ → Option (Int × σ))

/-- Hands the connections over one after the other until one is answered with
anything but `SYSM_OK`. -/
def handOver : List SysmNetConnection → σ → Option σ
  | [], state => some state
  | conn :: conns, state => do
    let (more, state) ← add conn state
    if more ≠ 0 then return state
    handOver conns state

theorem procNetLines_rows (flags type : UInt32) (rows : List NetRow) (state : σ) :
    procNetLines add flags type (rows.map fun row => row.text ++ [10]) state =
      handOver add ((rows.filter fun row => row.selected flags).map fun row => row.connection type) state := by
  induction rows generalizing state with
  | nil => rfl
  | cons row rows ih =>
    rw [List.map_cons, procNetLines, procNetLine_text]
    by_cases selected : row.selected flags = true
    · simp only [selected, if_true, List.filter_cons_of_pos, List.map_cons, handOver, ih, Option.bind_eq_bind,
        Option.bind_some]
    · simp only [selected, Bool.false_eq_true, if_false, List.filter_cons_of_neg, not_false_eq_true, ih,
        Option.bind_eq_bind, Option.bind_some]

theorem procNetLines_table (table : NetTable) (flags type : UInt32) (state : σ) :
    procNetLines add flags type (fgetsAll 8192 table.bytes).tail state =
      handOver add ((table.rows.filter fun row => row.selected flags).map fun row => row.connection type) state := by
  rw [NetTable.bytes, fgetsAll_line table.titled table.headerFits, List.tail_cons, fgetsAll_rows table.fits,
    procNetLines_rows]

/-- What the kernel has printed comes back: `add_connection` gets the rows that
the flags ask for, in the order of the file, until it wants no more. -/
theorem procNetRead_table (table : NetTable) (flags type : UInt32) (state : σ) :
    procNetRead add flags type (.ok table.bytes) state =
      (handOver add ((table.rows.filter fun row => row.selected flags).map fun row => row.connection type) state).map
        fun state => (0, state) := by
  rw [procNetRead, procNetLines_table]
  cases handOver add ((table.rows.filter fun row => row.selected flags).map fun row => row.connection type) state with
  | none => rfl
  | some state => rfl

end Walk

end Sysm
