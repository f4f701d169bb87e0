import Sysm.NetStatPort

namespace Sysm
open CString

section Reads

variable {ptr rest : Text} {len n : Nat}

theorem hex2int_some_iff : (∃ value, hex2int ptr len = some value) ↔ len ≤ ptr.length + 1 := by
  simp [hex2int]

theorem advance_eq (enough : n ≤ ptr.length) : advance n ptr = some (ptr.drop n) := if_pos enough

theorem length_advance (run : advance n ptr = some rest) : rest.length + n = ptr.length := by
  obtain ⟨enough, same⟩ := Option.ite_none_right_eq_some.mp run
  cases same
  rw [List.length_drop]
  omega

/-- The length of the column of an address: up to the colon, or to the end. -/
def addressLen (ptr : Text) : Nat := (ptr.takeWhile (· != 58)).length

/-- Of a column that is longer than one word, four words are read. -/
def AddressFits (ptr : Text) : Prop := hexEntLen < addressLen ptr → 31 ≤ ptr.length

theorem convertHexAddress_some_iff :
    (∃ address, convertHexAddress ptr (addressLen ptr) = some address) ↔ AddressFits ptr := by
  have column : addressLen ptr ≤ ptr.length := (List.takeWhile_prefix _).length_le
  unfold AddressFits convertHexAddress
  split_ifs with wide word
  · simp only [wide, true_imp_iff]
    constructor
    · rintro ⟨address, run⟩
      obtain ⟨first, _, run⟩ := Option.bind_eq_some_iff.mp run
      obtain ⟨ptr₁, next₁, run⟩ := Option.bind_eq_some_iff.mp run
      obtain ⟨second, _, run⟩ := Option.bind_eq_some_iff.mp run
      obtain ⟨ptr₂, next₂, run⟩ := Option.bind_eq_some_iff.mp run
      obtain ⟨third, _, run⟩ := Option.bind_eq_some_iff.mp run
      obtain ⟨ptr₃, next₃, run⟩ := Option.bind_eq_some_iff.mp run
      obtain ⟨fourth, read, _⟩ := Option.bind_eq_some_iff.mp run
      have last := hex2int_some_iff.mp ⟨fourth, read⟩
      have step₁ := length_advance next₁
      have step₂ := length_advance next₂
      have step₃ := length_advance next₃
      simp only [hexEntLen] at last step₁ step₂ step₃
      omega
    · intro long
      have left (k : Nat) : (ptr.drop k).length = ptr.length - k := List.length_drop
      have left₁ := left 8
      have left₂ := left 16
      have left₃ := left 24
      obtain ⟨first, read₁⟩ := (@hex2int_some_iff ptr 8).mpr (by omega)
      obtain ⟨second, read₂⟩ := (@hex2int_some_iff (ptr.drop 8) 8).mpr (by omega)
      obtain ⟨third, read₃⟩ := (@hex2int_some_iff (ptr.drop 16) 8).mpr (by omega)
      obtain ⟨fourth, read₄⟩ := (@hex2int_some_iff (ptr.drop 24) 8).mpr (by omega)
      have next₁ := @advance_eq ptr 8 (by omega)
      have next₂ := @advance_eq (ptr.drop 8) 8 (by omega)
      have next₃ := @advance_eq (ptr.drop 16) 8 (by omega)
      rw [List.drop_drop] at next₂ next₃
      refine ⟨.inet6 (first, second, third, fourth), ?_⟩
      simp only [hexEntLen, read₁, read₂, read₃, read₄, next₁, next₂, next₃, Option.bind_eq_bind, Option.bind_some,
        Option.pure_def]
  · refine iff_of_true ?_ (by omega)
    obtain ⟨addr, read⟩ := (@hex2int_some_iff ptr hexEntLen).mpr (by omega)
    exact ⟨.inet addr, by rw [read]; rfl⟩
  · exact iff_of_true ⟨_, rfl⟩ (by omega)

/-- The sign of the state does not matter. -/
theorem toInt32_inside_iff (value : UInt32) :
    0 ≤ value.toInt32.toInt ∧ value.toInt32.toInt < 14 ↔ value.toNat < 14 := by
  have bound := value.toNat_lt
  rw [← Int32.toInt_toBitVec, UInt32.toBitVec_toInt32, BitVec.toInt_eq_toNat_cond]
  simp only [UInt32.toNat_toBitVec]
  omega

/-- A state is in range if the first digit is zero and the second one is no more
than 13, or a byte that `hex2int` takes for such a digit. -/
theorem hex2int_state_iff {c d : UInt8} {value : UInt32} (read : hex2int (c :: d :: rest) 2 = some value) :
    value.toNat < 14 ↔ c = 48 ∧ hexNibble d < 14 := by
  have pair : value = hexNibble c <<< 4 ||| hexNibble d := by
    simp [hex2int] at read
    exact read.symm
  have zero : hexNibble 48 = 0 := by decide
  by_cases digit : c = 48
  · subst digit
    simp [pair, zero, UInt32.lt_iff_toNat_lt]
  · have all : ∀ n < 256, ¬n = 48 → 16 ≤ (hexNibble (UInt8.ofNat n) <<< 4).toNat := by decide +kernel
    have high := all c.toNat c.toNat_lt fun same => digit (by rw [← UInt8.toNat_inj, same]; rfl)
    rw [UInt8.ofNat_toNat] at high
    have more : (hexNibble c <<< 4).toNat ≤ value.toNat := by
      rw [pair, UInt32.toNat_or]
      exact Nat.left_le_or
    refine iff_of_false (by omega) ?_
    rintro ⟨same, _⟩
    exact digit same

end Reads

section Line

variable (line : Text)

/-- Where the columns of a line are for `proc_net_read`. -/
def laddrAt : Text := skipPast 32 (skipWhile 32 line)

def raddrAt : Text := (procNetEnd (laddrAt line)).2.2

def rePortAt : UInt64 := (procNetEnd (raddrAt line)).2.1

def stateAt : Text := (procNetEnd (raddrAt line)).2.2

def queuesAt : Text := skipWhile 32 ((stateAt line).drop 2)

/-- Enough bytes are left for all that is read without a look for the NUL. -/
structure LineFits : Prop where
  laddr : AddressFits (laddrAt line)
  raddr : AddressFits (raddrAt line)
  state : 2 ≤ (stateAt line).length
  queues : 17 ≤ (queuesAt line).length

/-- The state is one of `tcp_states`, as `hex2int` takes it. -/
def StateFits : Prop := ∃ c rest, stateAt line = 48 :: c :: rest ∧ hexNibble c < 14

end Line

/-- `proc_net_read` stays in the line, and with its state the walkers stay in `tcp_states`. -/
def LineSafe (flags type : UInt32) (line : Text) : Prop :=
  ∃ found, procNetLine flags type line = some found ∧ ∀ conn, found = some conn → conn.StateInside

section Columns

variable {line : Text}

theorem procNetEnd_eq (ptr : Text) : procNetEnd ptr = (addressLen ptr, (procNetEnd ptr).2.1, (procNetEnd ptr).2.2) := rfl

/-- The body of the loop at the places of the columns. -/
theorem procNetLine_selected {flags type : UInt32} (selected : netconnSelects flags (rePortAt line) = true) :
    procNetLine flags type line = do
      let loAddress ← convertHexAddress (laddrAt line) (addressLen (laddrAt line))
      let reAddress ← convertHexAddress (raddrAt line) (addressLen (raddrAt line))
      let state ← hex2int (stateAt line) 2
      let ptr ← advance 2 (stateAt line)
      let seQ ← hex2int (skipWhile 32 ptr) 8
      let ptr ← advance 9 (skipWhile 32 ptr)
      let reQ ← hex2int ptr 8
      let ptr ← advance 8 ptr
      let (uid, ptr) := strtoul 10 (skipPast 32 (skipPast 32 (skipWhile 32 ptr)))
      return some {
        loPort := (procNetEnd (laddrAt line)).2.1
        loAddress
        rePort := rePortAt line
        reAddress
        uid := uid.toUInt32.toInt32
        inode := (strtoul 10 (skipPast 32 (skipWhile 32 ptr))).1
        type
        state := state.toInt32
        seQ := seQ.toUInt64
        reQ := reQ.toUInt64 } := by
  have remote : procNetEnd (raddrAt line) = (addressLen (raddrAt line), rePortAt line, stateAt line) := procNetEnd_eq _
  have ends : procNetEnd (skipPast 32 (skipWhile 32 line)) =
      (addressLen (laddrAt line), (procNetEnd (laddrAt line)).2.1, raddrAt line) := procNetEnd_eq _
  simp only [procNetLine, ends, remote, selected, Bool.not_true, Bool.false_eq_true, if_false, hexEntLen]
  rfl

/-- Whoever gets through the columns has found room for all of them. -/
theorem procNetLine_room {flags type : UInt32} {found : Option SysmNetConnection}
    (selected : netconnSelects flags (rePortAt line) = true) (run : procNetLine flags type line = some found) :
    LineFits line ∧ ∃ conn state, found = some conn ∧ hex2int (stateAt line) 2 = some state ∧
      conn.state = state.toInt32 ∧ conn.type = type := by
  rw [procNetLine_selected selected] at run
  obtain ⟨loAddress, atLocal, run⟩ := Option.bind_eq_some_iff.mp run
  obtain ⟨reAddress, atRemote, run⟩ := Option.bind_eq_some_iff.mp run
  obtain ⟨state, atState, run⟩ := Option.bind_eq_some_iff.mp run
  obtain ⟨behind, afterState, run⟩ := Option.bind_eq_some_iff.mp run
  obtain ⟨seQ, atSend, run⟩ := Option.bind_eq_some_iff.mp run
  obtain ⟨receive, afterSend, run⟩ := Option.bind_eq_some_iff.mp run
  obtain ⟨reQ, atReceive, run⟩ := Option.bind_eq_some_iff.mp run
  obtain ⟨timer, afterReceive, run⟩ := Option.bind_eq_some_iff.mp run
  cases run
  have long := length_advance afterState
  have next := length_advance afterSend
  have last := length_advance afterReceive
  have columns : (stateAt line).drop 2 = behind := Option.some.inj ((advance_eq (by omega)).symm.trans afterState)
  have queues : queuesAt line = skipWhile 32 behind := by rw [queuesAt, columns]
  refine ⟨⟨convertHexAddress_some_iff.mp ⟨_, atLocal⟩, convertHexAddress_some_iff.mp ⟨_, atRemote⟩, by omega, ?_⟩,
    _, state, rfl, atState, rfl, rfl⟩
  rw [queues]
  omega

/-- The record of a line that fits. -/
theorem LineFits.procNetLine_some (fits : LineFits line) {flags : UInt32} (selected : netconnSelects flags (rePortAt line) = true)
    (type : UInt32) : ∃ found, procNetLine flags type line = some found := by
  obtain ⟨laddr, raddr, long, queues⟩ := fits
  have left : ((queuesAt line).drop 9).length = (queuesAt line).length - 9 := List.length_drop
  obtain ⟨loAddress, atLocal⟩ := convertHexAddress_some_iff.mpr laddr
  obtain ⟨reAddress, atRemote⟩ := convertHexAddress_some_iff.mpr raddr
  obtain ⟨state, atState⟩ := (@hex2int_some_iff (stateAt line) 2).mpr (by omega)
  obtain ⟨seQ, atSend⟩ := (@hex2int_some_iff (queuesAt line) 8).mpr (by omega)
  obtain ⟨reQ, atReceive⟩ := (@hex2int_some_iff ((queuesAt line).drop 9) 8).mpr (by omega)
  have afterState := @advance_eq (stateAt line) 2 long
  have afterSend := @advance_eq (queuesAt line) 9 (by omega)
  have afterReceive := @advance_eq ((queuesAt line).drop 9) 8 (by omega)
  unfold queuesAt at atSend atReceive afterSend afterReceive
  rw [procNetLine_selected selected]
  simp only [atLocal, atRemote, atState, afterState, atSend, afterSend, atReceive, afterReceive, Option.bind_eq_bind,
    Option.bind_some, Option.pure_def, Option.some.injEq, exists_eq']

/-- A line that the flags leave out is not looked at any further. -/
theorem procNetLine_passed {flags type : UInt32} (passed : ¬netconnSelects flags (rePortAt line) = true) :
    procNetLine flags type line = some none := by
  have remote : procNetEnd (raddrAt line) = (addressLen (raddrAt line), rePortAt line, stateAt line) := procNetEnd_eq _
  have ends : procNetEnd (skipPast 32 (skipWhile 32 line)) =
      (addressLen (laddrAt line), (procNetEnd (laddrAt line)).2.1, raddrAt line) := procNetEnd_eq _
  simp only [procNetLine, ends, remote, passed, Bool.not_false, if_true]

/-- What room the line must have, and which states are in `tcp_states`. -/
theorem lineSafe_iff (flags type : UInt32) (line : Text) : LineSafe flags type line ↔
    (netconnSelects flags (rePortAt line) = true → LineFits line ∧ (type = netconnTcp → StateFits line)) := by
  by_cases selected : netconnSelects flags (rePortAt line) = true
  · simp only [selected, true_imp_iff]
    -- the two bytes that the state is taken from
    have digits : LineFits line → ∃ c d rest, stateAt line = c :: d :: rest := by
      intro fits
      have long := fits.state
      obtain ⟨c, others, columns⟩ := @List.exists_cons_of_ne_nil _ (stateAt line) (by
        intro empty
        simp [empty] at long)
      obtain ⟨d, rest, rfl⟩ := @List.exists_cons_of_ne_nil _ others (by
        rintro rfl
        simp [columns] at long)
      exact ⟨c, d, rest, columns⟩
    constructor
    · rintro ⟨found, run, inside⟩
      obtain ⟨fits, conn, state, rfl, read, same, ofType⟩ := procNetLine_room selected run
      refine ⟨fits, fun tcp => ?_⟩
      obtain ⟨c, d, rest, columns⟩ := digits fits
      have bounds := inside conn rfl (ofType.trans tcp)
      rw [same, toInt32_inside_iff] at bounds
      rw [columns] at read
      obtain ⟨rfl, small⟩ := (hex2int_state_iff read).mp bounds
      exact ⟨d, rest, columns, small⟩
    · rintro ⟨fits, states⟩
      obtain ⟨found, run⟩ := fits.procNetLine_some selected type
      obtain ⟨_, conn, state, rfl, read, same, ofType⟩ := procNetLine_room selected run
      refine ⟨some conn, run, ?_⟩
      rintro _ ⟨⟩ tcp
      obtain ⟨d, rest, columns, small⟩ := states (ofType.symm.trans tcp)
      rw [columns] at read
      rw [same, toInt32_inside_iff]
      exact (hex2int_state_iff read).mpr ⟨rfl, small⟩
  · refine iff_of_true ⟨none, procNetLine_passed selected, ?_⟩ (fun go => absurd go selected)
    rintro conn ⟨⟩

end Columns

/-- A row that is cut behind its state, and one with a state that there is none of. -/
def cutLine : Text := ofString "   0: 0100007F:0050 00000000:0000 0A\n"

def strangeLine : Text :=
  ofString "   0: 0100007F:0050 00000000:0000 0E 00000000:00000000 00:00000000 00000000     0        0 17 1\n"

/-- The first is read behind its end, and the second indexes behind `tcp_states`. -/
theorem not_lineSafe_cutLine : ¬LineSafe netconnServer netconnTcp cutLine ∧ ¬LineSafe netconnServer netconnTcp strangeLine := by
  constructor
  · rintro ⟨found, run, _⟩
    have runs_out : procNetLine netconnServer netconnTcp cutLine = none := by decide +kernel
    rw [runs_out] at run
    cases run
  · rintro ⟨found, run, inside⟩
    have state : (procNetLine netconnServer netconnTcp strangeLine).map (fun found => found.map fun conn =>
        (conn.type, conn.state.toInt)) = some (some (netconnTcp, 14)) := by decide +kernel
    rw [run, Option.map_some, Option.some.injEq] at state
    obtain ⟨conn, same, values⟩ := Option.map_eq_some_iff.mp state
    have bounds := inside conn same (congrArg Prod.fst values)
    have fourteen : conn.state.toInt = 14 := congrArg Prod.snd values
    omega

end Sysm
