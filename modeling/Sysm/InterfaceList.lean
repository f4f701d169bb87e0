import Sysm.Lib.FoldOption
import Sysm.Lib.LinkedHeap
import Sysm.NetDev

namespace Sysm
open CString

/-- `SYSM_NET_IFLIST_MAX` -/
def sysmNetIflistMax : Nat := 20

/-- `sizeof(struct ifreq)` -/
def sizeofIfreq : Nat := 40

/-- `struct ifreq`, as far as it is read: the name, which the kernel ends with
a NUL within its 16 bytes. -/
structure Ifreq where
  ifrName : Text
  named : ifrName.length < 16 ∧ ∀ c ∈ ifrName, c ≠ 0

/-- `ifconf_buf` and `ifconf_len` of `sysm_t`, and the blocks that have been
allocated for the buffer. A block has a cell for each `struct ifreq` that there
is room for. -/
structure Ifconf where
  ifconfBuf : Option Nat
  ifconfLen : Nat
  blocks : LinkedHeap.Heap (List Ifreq)

/-- As `sysm_open` sets them. -/
def openedIfconf : Ifconf := ⟨none, 0, []⟩

/-- What the kernel answers to `SIOCGIFCONF`: its addresses, of which it fills
in as many as there is room for, or an error. -/
inductive IoctlAnswer where
  | reports (addresses : List Ifreq)
  | fails (errno : Int)

/-- How a round of the loop ends: another one follows, or the loop is left with
the length that is filled, or the call returns an error. -/
inductive IfconfRound where
  | again (lastlen : Nat)
  | ended (ifcLen : Nat)
  | failed (errno : Int)
deriving DecidableEq

namespace Ifconf

/-- `free(ifc.ifc_buf)`. A block that is not allocated is a fault. -/
def free (conf : Ifconf) : Option Ifconf :=
  match conf.ifconfBuf with
  | none => some conf
  | some address => (LinkedHeap.read conf.blocks address).map fun _ =>
      { conf with blocks := LinkedHeap.free conf.blocks address }

section Memory

variable (memory : Nat → Ifreq)

/-- The two lines that make the buffer longer. A length past `INT_MAX` becomes
negative, and memory of that size is never there. -/
def grow (conf : Ifconf) : Option Ifconf :=
  let ifconfLen := conf.ifconfLen + sizeofIfreq * sysmNetIflistMax
  if 2 ^ 31 ≤ ifconfLen then none
  else
    match conf.ifconfBuf with
    | none => some ⟨some conf.blocks.length, ifconfLen,
        LinkedHeap.alloc conf.blocks ((List.range (ifconfLen / sizeofIfreq)).map memory)⟩
    | some address => do
      let cells ← LinkedHeap.read conf.blocks address
      let more := (List.range (ifconfLen / sizeofIfreq - cells.length)).map fun i => memory (cells.length + i)
      return ⟨some address, ifconfLen, LinkedHeap.write conf.blocks address (cells ++ more)⟩

/-- `ioctl(sock, SIOCGIFCONF, &ifc)`: `ifc_len` afterwards, or `errno`. The
kernel writes to the buffer only if it succeeds. -/
def ioctl (conf : Ifconf) : IoctlAnswer → Option (Ifconf × Except Int Nat)
  | .fails errno => some (conf, .error errno)
  | .reports addresses => do
    let address ← conf.ifconfBuf
    let cells ← LinkedHeap.read conf.blocks address
    let filled := addresses.take (conf.ifconfLen / sizeofIfreq)
    if cells.length < filled.length then none
    else
      let blocks := LinkedHeap.write conf.blocks address (filled ++ cells.drop filled.length)
      return ({ conf with blocks }, .ok (sizeofIfreq * filled.length))

/-- The comparisons at the end of the loop. -/
def compare (conf : Ifconf) (lastlen ifcLen : Nat) : IfconfRound :=
  if ifcLen < conf.ifconfLen then .ended ifcLen
  else if ifcLen ≠ lastlen then .again ifcLen
  else .ended ifcLen

/-- The begin of a round. -/
def prepare (conf : Ifconf) (lastlen : Nat) : Option Ifconf :=
  if conf.ifconfBuf = none ∨ lastlen ≠ 0 then conf.grow memory else some conf

/-- A round of the loop of `sysm_net_interface_list_get`. -/
def round (conf : Ifconf) (lastlen : Nat) (answer : IoctlAnswer) : Option (Ifconf × IfconfRound) := do
  let conf ← conf.prepare memory lastlen
  match ← conf.ioctl answer with
  | (conf, .ok ifcLen) => return (conf, conf.compare lastlen ifcLen)
  | (conf, .error errno) =>
    if errno ≠ EINVAL ∨ lastlen = conf.ifconfLen then
      -- the pointer stays in `ifconf_buf`
      let conf ← conf.free
      return (conf, .failed errno)
    else return (conf, conf.compare lastlen conf.ifconfLen)

/-- The rounds that there are answers for. -/
def loop (conf : Ifconf) (lastlen : Nat) : List IoctlAnswer → Option (Ifconf × IfconfRound)
  | [] => some (conf, .again lastlen)
  | answer :: answers => do
    match ← conf.round memory lastlen answer with
    | (conf, .again lastlen) => conf.loop lastlen answers
    | (conf, .ended ifcLen) => return (conf, .ended ifcLen)
    | (conf, .failed errno) => return (conf, .failed errno)

end Memory

/-- The entries of the buffer that the loop over `ifc_req` comes to. -/
def requests (conf : Ifconf) (ifcLen : Nat) : Option (List Ifreq) := do
  let address ← conf.ifconfBuf
  let cells ← LinkedHeap.read conf.blocks address
  let number := (ifcLen + sizeofIfreq - 1) / sizeofIfreq
  if cells.length < number then none else return cells.take number

end Ifconf

/-- `has_interface` -/
def hasInterface (iflist : GrowList Text) (name : Text) : Bool := iflist.items.any fun data => data == name

section List

variable (memory : Nat → Text)

/-- The body of the loop of `proc_net_interface_list_get`. -/
def procNetInterface (iflist : GrowList Text) (buffer : Text) : Option (GrowList Text) :=
  match netDevLine buffer with
  | none => some iflist
  | some (dev, _) => if hasInterface iflist dev then some iflist else iflist.push sysmNetIflistMax memory dev

/-- `proc_net_interface_list_get`, whose status nobody looks at. -/
def procNetInterfaceListGet (file : Option (List UInt8)) (iflist : GrowList Text) : Option (GrowList Text) :=
  match file with
  | none => some iflist
  | some content => ((fgetsAll BUFSIZ content).drop 2).foldlM (procNetInterface memory) iflist

/-- `iflist->data[iflist->number++] = strdup(ifr->ifr_name)` -/
def addRequest (iflist : GrowList Text) (ifr : Ifreq) : Option (GrowList Text) := do
  let iflist ← iflist.write iflist.number ifr.ifrName
  return { iflist with number := iflist.number + 1 }

/-- `sysm_net_interface_list_get`, with the errors of `socket` and the answers
that the kernel gives to the rounds of the loop. The call does not return as
long as another round follows. -/
def sysmNetInterfaceListGet (requests : Nat → Ifreq) (socket : Except Int Unit) (answers : List IoctlAnswer)
    (procNetDev : Option (List UInt8)) (conf : Ifconf) : Option (Ifconf × Except Int (GrowList Text)) :=
  match socket with
  | .error errno => some (conf, .error errno)
  | .ok () => do
    match ← conf.loop requests 0 answers with
    | (_, .again _) => none
    | (conf, .failed errno) => return (conf, .error errno)
    | (conf, .ended ifcLen) =>
      let iflist ← (← conf.requests ifcLen).foldlM addRequest (GrowList.create ifcLen memory)
      let iflist ← procNetInterfaceListGet memory procNetDev iflist
      return (conf, .ok iflist)

end List

/-- The buffer is not there, or it is the one block that has been allocated and
as long as `ifconf_len` says. -/
inductive Ifconf.Owned : Ifconf → Prop
  | empty : Owned openedIfconf
  | buffer (cells : List Ifreq) (growths : Nat) (grown : 0 < growths) (small : sizeofIfreq * cells.length < 2 ^ 31)
      (length : cells.length = sysmNetIflistMax * growths) : Owned ⟨some 0, sizeofIfreq * cells.length, [some cells]⟩

namespace Ifconf

/-- The length of the buffer in the round that begins. -/
def nextLen (conf : Ifconf) (lastlen : Nat) : Nat :=
  if conf.ifconfBuf = none ∨ lastlen ≠ 0 then conf.ifconfLen + sizeofIfreq * sysmNetIflistMax else conf.ifconfLen

/-- A buffer with these cells. -/
def withCells (cells : List Ifreq) : Ifconf := ⟨some 0, sizeofIfreq * cells.length, [some cells]⟩

section Round

variable {memory : Nat → Ifreq} {conf : Ifconf} {lastlen : Nat}

theorem prepare_owned (owned : conf.Owned) (fits : conf.nextLen lastlen < 2 ^ 31) :
    ∃ cells, conf.prepare memory lastlen = some (withCells cells) ∧ (withCells cells).Owned ∧
      sizeofIfreq * cells.length = conf.nextLen lastlen ∧ 0 < cells.length := by
  have ifreq : sizeofIfreq = 40 := rfl
  have twenty : sysmNetIflistMax = 20 := rfl
  cases owned with
  | empty =>
    have first : openedIfconf.ifconfBuf = none ∨ lastlen ≠ 0 := Or.inl rfl
    have length : ((List.range 20).map memory).length = 20 := by rw [List.length_map, List.length_range]
    have prepared : openedIfconf.prepare memory lastlen = some (withCells ((List.range 20).map memory)) := by
      have short : ¬ 2 ^ 31 ≤ openedIfconf.ifconfLen + sizeofIfreq * sysmNetIflistMax := by decide
      have count : (openedIfconf.ifconfLen + sizeofIfreq * sysmNetIflistMax) / sizeofIfreq = 20 := by decide
      rw [prepare, if_pos first, grow, if_neg short, count, withCells, length]
      rfl
    refine ⟨_, prepared, .buffer _ 1 Nat.one_pos ?_ ?_, ?_, ?_⟩
    · rw [length, ifreq]
      omega
    · rw [length, twenty]
    · rw [length, nextLen, if_pos first]
      rfl
    · omega
  | buffer cells growths grown small length =>
    by_cases again : lastlen = 0
    · have still : ¬ ((some 0 : Option Nat) = none ∨ lastlen ≠ 0) := by simp [again]
      refine ⟨cells, ?_, .buffer cells growths grown small length, ?_, ?_⟩
      · rw [prepare, if_neg still]
        rfl
      · rw [nextLen, if_neg still]
      · rw [length, twenty]
        omega
    · have more : (some 0 : Option Nat) = none ∨ lastlen ≠ 0 := Or.inr again
      have next : nextLen ⟨some 0, sizeofIfreq * cells.length, [some cells]⟩ lastlen =
          sizeofIfreq * cells.length + sizeofIfreq * sysmNetIflistMax := if_pos more
      have count : (sizeofIfreq * cells.length + sizeofIfreq * sysmNetIflistMax) / sizeofIfreq - cells.length = 20 := by
        rw [ifreq, twenty]
        omega
      obtain ⟨longer, same⟩ : ∃ longer, longer = cells ++ (List.range 20).map fun i => memory (cells.length + i) := ⟨_, rfl⟩
      have added : longer.length = cells.length + 20 := by
        rw [same, List.length_append, List.length_map, List.length_range]
      have total : sizeofIfreq * longer.length = sizeofIfreq * cells.length + sizeofIfreq * sysmNetIflistMax := by
        rw [added, Nat.mul_add]
        rfl
      rw [next, ← total] at fits
      have grown' : grow memory ⟨some 0, sizeofIfreq * cells.length, [some cells]⟩ = some (withCells longer) := by
        have cell : LinkedHeap.read [some cells] 0 = some cells := rfl
        simp only [grow, ← total, if_neg (Nat.not_le.mpr fits), cell, Option.bind_eq_bind, Option.bind_some, Option.pure_def]
        rw [total, count, ← same, ← total]
        rfl
      refine ⟨longer, ?_, ?_, ?_, ?_⟩
      · rw [prepare, if_pos more, grown']
      · refine .buffer longer (growths + 1) (Nat.succ_pos _) fits ?_
        rw [added, length, twenty]
        omega
      · rw [total, next]
      · omega

theorem prepare_overflow (owned : conf.Owned) (long : 2 ^ 31 ≤ conf.nextLen lastlen) :
    conf.prepare memory lastlen = none := by
  by_cases more : conf.ifconfBuf = none ∨ lastlen ≠ 0
  · rw [nextLen, if_pos more] at long
    rw [prepare, if_pos more, grow, if_pos long]
  · rw [nextLen, if_neg more] at long
    cases owned with
    | empty => exact absurd (Or.inl rfl) more
    | buffer cells growths grown small length => exact absurd small (Nat.not_lt.mpr long)

/-- The answer of the kernel to a round in which the buffer has these cells. -/
theorem ioctl_withCells (cells addresses : List Ifreq) :
    ∃ cells', (withCells cells).ioctl (.reports addresses) =
        some (withCells cells', .ok (sizeofIfreq * min cells.length addresses.length)) ∧
      cells'.length = cells.length ∧ addresses.take cells.length <+: cells' := by
  have ifreq : 0 < sizeofIfreq := by decide
  have room : (withCells cells).ifconfLen / sizeofIfreq = cells.length := Nat.mul_div_cancel_left _ ifreq
  have filled : (addresses.take cells.length).length = min cells.length addresses.length := List.length_take
  obtain ⟨cells', same⟩ : ∃ cells', cells' = addresses.take cells.length ++ cells.drop (min cells.length addresses.length) :=
    ⟨_, rfl⟩
  have length : cells'.length = cells.length := by
    rw [same, List.length_append, List.length_drop, filled]
    omega
  refine ⟨cells', ?_, length, same ▸ List.prefix_append _ _⟩
  have cell : LinkedHeap.read (withCells cells).blocks 0 = some cells := rfl
  have buffer : (withCells cells).ifconfBuf = some 0 := rfl
  simp only [ioctl, buffer, Option.bind_eq_bind, Option.bind_some, cell, room, filled, Option.pure_def, ← same]
  rw [if_neg (by omega), withCells, withCells, length]
  rfl

theorem owned_withCells_iff {cells : List Ifreq} : (withCells cells).Owned ↔
    ∃ growths, 0 < growths ∧ sizeofIfreq * cells.length < 2 ^ 31 ∧ cells.length = sysmNetIflistMax * growths := by
  constructor
  · intro owned
    generalize atCells : withCells cells = conf at owned
    cases owned with
    | empty => cases congrArg Ifconf.ifconfBuf atCells
    | buffer others growths grown small length =>
      cases congrArg Ifconf.blocks atCells
      exact ⟨growths, grown, small, length⟩
  · rintro ⟨growths, grown, small, length⟩
    exact .buffer cells growths grown small length

theorem round_reports (owned : conf.Owned) (fits : conf.nextLen lastlen < 2 ^ 31) (addresses : List Ifreq) :
    ∃ cells, conf.round memory lastlen (.reports addresses) = some (withCells cells,
        (withCells cells).compare lastlen (sizeofIfreq * min cells.length addresses.length)) ∧
      (withCells cells).Owned ∧ sizeofIfreq * cells.length = conf.nextLen lastlen ∧ 0 < cells.length ∧
        addresses.take cells.length <+: cells := by
  obtain ⟨cells, prepared, owned', next, nonempty⟩ := @prepare_owned memory conf lastlen owned fits
  obtain ⟨cells', filled, same, kept⟩ := ioctl_withCells cells addresses
  rw [owned_withCells_iff, ← same] at owned'
  rw [← same] at next nonempty kept filled
  refine ⟨cells', ?_, owned_withCells_iff.mpr owned', next, nonempty, kept⟩
  simp only [round, prepared, Option.bind_eq_bind, Option.bind_some, filled, Option.pure_def]

theorem round_fails (owned : conf.Owned) (fits : conf.nextLen lastlen < 2 ^ 31) (errno : Int) :
    ∃ cells, conf.round memory lastlen (.fails errno) =
        (if errno ≠ EINVAL ∨ lastlen = sizeofIfreq * cells.length then
          some (⟨some 0, sizeofIfreq * cells.length, [none]⟩, .failed errno)
        else some (withCells cells, (withCells cells).compare lastlen (sizeofIfreq * cells.length))) ∧
      (withCells cells).Owned ∧ sizeofIfreq * cells.length = conf.nextLen lastlen ∧ 0 < cells.length := by
  obtain ⟨cells, prepared, owned', next, nonempty⟩ := @prepare_owned memory conf lastlen owned fits
  refine ⟨cells, ?_, owned', next, nonempty⟩
  simp only [round, prepared, Option.bind_eq_bind, Option.bind_some, ioctl, Option.pure_def]
  rfl

theorem round_overflow (owned : conf.Owned) (long : 2 ^ 31 ≤ conf.nextLen lastlen) (answer : IoctlAnswer) :
    conf.round memory lastlen answer = none := by
  rw [round, prepare_overflow owned long]
  rfl

/-- What a round leaves behind is still owned, unless the call fails in it. -/
theorem round_owned {conf' : Ifconf} {result : IfconfRound} {answer : IoctlAnswer} (owned : conf.Owned)
    (run : conf.round memory lastlen answer = some (conf', result)) : (∃ errno, result = .failed errno) ∨ conf'.Owned := by
  by_cases fits : conf.nextLen lastlen < 2 ^ 31
  · cases answer with
    | reports addresses =>
      obtain ⟨cells, round, owned', _⟩ := @round_reports memory conf lastlen owned fits addresses
      rw [round] at run
      cases run
      exact Or.inr owned'
    | fails errno =>
      obtain ⟨cells, round, owned', _⟩ := @round_fails memory conf lastlen owned fits errno
      rw [round] at run
      split at run
      · cases run
        exact Or.inl ⟨errno, rfl⟩
      · cases run
        exact Or.inr owned'
  · rw [round_overflow owned (Nat.le_of_not_lt fits)] at run
    cases run

theorem loop_cons {conf next conf' : Ifconf} {result result' : IfconfRound} {answer : IoctlAnswer} {answers : List IoctlAnswer}
    (first : conf.round memory lastlen answer = some (next, result))
    (run : conf.loop memory lastlen (answer :: answers) = some (conf', result')) :
    (∃ lastlen, result = .again lastlen ∧ next.loop memory lastlen answers = some (conf', result')) ∨
      conf' = next ∧ result' = result ∧ ∀ lastlen, result ≠ .again lastlen := by
  simp only [loop, first, Option.bind_eq_bind, Option.bind_some] at run
  cases result with
  | again lastlen => exact Or.inl ⟨lastlen, rfl, run⟩
  | ended ifcLen =>
    cases run
    exact Or.inr ⟨rfl, rfl, by simp⟩
  | failed errno =>
    cases run
    exact Or.inr ⟨rfl, rfl, by simp⟩

theorem loop_owned {conf' : Ifconf} {result : IfconfRound} {answers : List IoctlAnswer} (owned : conf.Owned)
    (run : conf.loop memory lastlen answers = some (conf', result)) : (∃ errno, result = .failed errno) ∨ conf'.Owned := by
  induction answers generalizing conf lastlen with
  | nil =>
    cases run
    exact Or.inr owned
  | cons answer answers ih =>
    obtain ⟨⟨next, middle⟩, first, _⟩ := Option.bind_eq_some_iff.mp run
    have kept := round_owned owned first
    rcases loop_cons first run with ⟨lastlen', again, later⟩ | ⟨rfl, rfl, _⟩
    · refine ih (kept.resolve_left ?_) later
      rintro ⟨errno, failed⟩
      cases again.symm.trans failed
    · exact kept

/-- A first round, or one behind a round that has filled the buffer. -/
def Continues (conf : Ifconf) (lastlen number : Nat) : Prop :=
  lastlen = 0 ∨ lastlen = conf.ifconfLen ∧ conf.ifconfLen ≤ sizeofIfreq * number

/-- With more cells than addresses the loop ends, otherwise it goes on with a full buffer. -/
theorem compare_withCells {cells : List Ifreq} {number : Nat} (nonempty : 0 < cells.length)
    (continues : lastlen = 0 ∨ lastlen < sizeofIfreq * cells.length) :
    (withCells cells).compare lastlen (sizeofIfreq * min cells.length number) =
      if number < cells.length then .ended (sizeofIfreq * number) else .again (sizeofIfreq * cells.length) := by
  have ifreq : sizeofIfreq = 40 := rfl
  simp only [compare, withCells, ifreq] at continues ⊢
  by_cases more : number < cells.length
  · rw [if_pos more, if_pos (by omega), Nat.min_eq_right (by omega)]
  · rw [if_neg more, if_neg (by omega), if_pos (by omega), Nat.min_eq_left (by omega)]

/-- A round with a kernel that has these addresses, from a state that the loop comes to. -/
theorem round_table (owned : conf.Owned) {addresses : List Ifreq} (continues : conf.Continues lastlen addresses.length)
    (fits : conf.nextLen lastlen < 2 ^ 31) :
    ∃ cells, conf.round memory lastlen (.reports addresses) = some (withCells cells,
        if addresses.length < cells.length then .ended (sizeofIfreq * addresses.length)
        else .again (sizeofIfreq * cells.length)) ∧
      (withCells cells).Owned ∧ sizeofIfreq * cells.length = conf.nextLen lastlen ∧
        addresses.take cells.length <+: cells ∧
          (¬ addresses.length < cells.length → (withCells cells).Continues (sizeofIfreq * cells.length) addresses.length) := by
  obtain ⟨cells, round, owned', next, nonempty, kept⟩ := @round_reports memory conf lastlen owned fits addresses
  have before : lastlen = 0 ∨ lastlen < sizeofIfreq * cells.length := by
    rcases continues with first | ⟨same, _⟩
    · exact Or.inl first
    · by_cases first : lastlen = 0
      · exact Or.inl first
      · right
        rw [next, nextLen, if_pos (Or.inr first), same]
        exact Nat.lt_add_of_pos_right (by decide)
  rw [compare_withCells nonempty before] at round
  refine ⟨cells, round, owned', next, kept, fun full => Or.inr ⟨rfl, ?_⟩⟩
  exact Nat.mul_le_mul_left _ (Nat.le_of_not_lt full)

/-- If the loop ends, all the addresses are in the buffer and there is room for one more. -/
theorem loop_table {conf' : Ifconf} {ifcLen rounds : Nat} (owned : conf.Owned) {addresses : List Ifreq}
    (continues : conf.Continues lastlen addresses.length)
    (run : conf.loop memory lastlen (List.replicate rounds (.reports addresses)) = some (conf', .ended ifcLen)) :
    ∃ cells, conf' = withCells cells ∧ ifcLen = sizeofIfreq * addresses.length ∧ (withCells cells).Owned ∧
      addresses.length < cells.length ∧ addresses <+: cells := by
  induction rounds generalizing conf lastlen with
  | zero => cases run
  | succ rounds ih =>
    rw [List.replicate_succ] at run
    by_cases fits : conf.nextLen lastlen < 2 ^ 31
    · obtain ⟨cells, round, owned', _, kept, next⟩ := @round_table memory conf lastlen owned addresses continues fits
      rcases loop_cons round run with ⟨lastlen', again, later⟩ | ⟨rfl, ended, _⟩
      · split at again
        · cases again
        · next full =>
          cases again
          exact ih owned' (next full) later
      · split at ended
        · next more =>
          cases ended
          rw [List.take_of_length_le (Nat.le_of_lt more)] at kept
          exact ⟨cells, rfl, rfl, owned', more, kept⟩
        · cases ended
    · rw [loop, round_overflow owned (Nat.le_of_not_lt fits)] at run
      cases run

/-- The number of addresses for which an `int` can hold the length of the buffer. -/
def maxAddresses : Nat := 53687080

theorem nextLen_fits (owned : conf.Owned) {number : Nat} (small : number < maxAddresses)
    (continues : conf.Continues lastlen number) : conf.nextLen lastlen < 2 ^ 31 := by
  have ifreq : sizeofIfreq = 40 := rfl
  have twenty : sysmNetIflistMax = 20 := rfl
  have most : maxAddresses = 53687080 := rfl
  cases owned with
  | empty =>
    have first : openedIfconf.ifconfBuf = none ∨ lastlen ≠ 0 := Or.inl rfl
    rw [nextLen, if_pos first]
    decide
  | buffer cells growths grown fits length =>
    rw [twenty] at length
    rw [ifreq] at fits
    rw [nextLen]
    split
    · next more =>
      rcases continues with first | ⟨_, full⟩
      · rcases more with empty | again
        · cases empty
        · exact absurd first again
      · simp only [ifreq, twenty] at full ⊢
        omega
    · simpa [ifreq] using fits

/-- The loop comes to its end. -/
theorem loop_ends (owned : conf.Owned) {addresses : List Ifreq} (small : addresses.length < maxAddresses)
    (continues : conf.Continues lastlen addresses.length) {more : Nat}
    (enough : sizeofIfreq * addresses.length < conf.nextLen lastlen + sizeofIfreq * sysmNetIflistMax * more) :
    ∃ rounds conf' ifcLen,
      conf.loop memory lastlen (List.replicate rounds (.reports addresses)) = some (conf', .ended ifcLen) := by
  have ifreq : sizeofIfreq = 40 := rfl
  induction more generalizing conf lastlen with
  | zero =>
    have fits := nextLen_fits owned small continues
    obtain ⟨cells, round, _, next, _⟩ := @round_table memory conf lastlen owned addresses continues fits
    rw [if_pos (by rw [ifreq] at enough next; omega)] at round
    refine ⟨1, withCells cells, sizeofIfreq * addresses.length, ?_⟩
    simp only [List.replicate_one, loop, round, Option.bind_eq_bind, Option.bind_some, Option.pure_def]
  | succ more ih =>
    have fits := nextLen_fits owned small continues
    obtain ⟨cells, round, owned', next, _, full⟩ := @round_table memory conf lastlen owned addresses continues fits
    by_cases done : addresses.length < cells.length
    · rw [if_pos done] at round
      refine ⟨1, withCells cells, sizeofIfreq * addresses.length, ?_⟩
      simp only [List.replicate_one, loop, round, Option.bind_eq_bind, Option.bind_some, Option.pure_def]
    · rw [if_neg done] at round
      have longer : (withCells cells).nextLen (sizeofIfreq * cells.length) =
          conf.nextLen lastlen + sizeofIfreq * sysmNetIflistMax := by
        obtain ⟨growths, grown, _, length⟩ := owned_withCells_iff.mp owned'
        have nonempty : cells.length ≠ 0 := by
          have twenty : sysmNetIflistMax = 20 := rfl
          rw [length, twenty]
          omega
        have positive : sizeofIfreq * cells.length ≠ 0 := Nat.mul_ne_zero (by decide) nonempty
        rw [nextLen, if_pos (Or.inr positive), ← next]
        rfl
      obtain ⟨rounds, conf', ifcLen, later⟩ := ih owned' (full done) (by rw [longer]; rw [Nat.mul_succ] at enough; omega)
      refine ⟨rounds + 1, conf', ifcLen, ?_⟩
      simp only [List.replicate_succ, loop, round, Option.bind_eq_bind, Option.bind_some, later]

end Round

/-- The entries of a buffer that begins with these addresses. -/
theorem requests_withCells {cells addresses : List Ifreq} (fits : addresses.length < cells.length)
    (kept : addresses <+: cells) : (withCells cells).requests (sizeofIfreq * addresses.length) = some addresses := by
  have ifreq : sizeofIfreq = 40 := rfl
  have number : (sizeofIfreq * addresses.length + sizeofIfreq - 1) / sizeofIfreq = addresses.length := by
    rw [ifreq]
    omega
  have cell : LinkedHeap.read (withCells cells).blocks 0 = some cells := rfl
  have buffer : (withCells cells).ifconfBuf = some 0 := rfl
  simp only [requests, buffer, Option.bind_eq_bind, Option.bind_some, cell, number, Option.pure_def]
  rw [if_neg (by omega), List.prefix_iff_eq_take.mp kept, List.length_take, Nat.min_eq_left (by omega)]

/-- The buffer begins with these addresses. -/
def Holds (conf : Ifconf) (addresses : List Ifreq) : Prop :=
  ∃ address cells, conf.ifconfBuf = some address ∧ LinkedHeap.read conf.blocks address = some cells ∧ addresses <+: cells

end Ifconf

/-- A name is added that is not among the others. -/
def addName (names : List Text) (name : Text) : List Text := if name ∈ names then names else names ++ [name]

section Names

variable {names news : List Text}

theorem mem_addName {name other : Text} : other ∈ addName names name ↔ other ∈ names ∨ other = name := by
  unfold addName
  split
  · next old => exact ⟨Or.inl, fun either => either.elim id fun same => same ▸ old⟩
  · rw [List.mem_append, List.mem_singleton]

theorem mem_foldl_addName {other : Text} : other ∈ news.foldl addName names ↔ other ∈ names ∨ other ∈ news := by
  induction news generalizing names with
  | nil => simp
  | cons name news ih => rw [List.foldl_cons, ih, mem_addName, List.mem_cons, or_assoc]

theorem nodup_addName {name : Text} (nodup : names.Nodup) : (addName names name).Nodup := by
  unfold addName
  split
  · exact nodup
  · next fresh => exact List.nodup_append.mpr ⟨nodup, List.nodup_singleton name, by
      intro old member new single
      rw [List.mem_singleton.mp single]
      exact fun same => fresh (same ▸ member)⟩

theorem nodup_foldl_addName (nodup : names.Nodup) : (news.foldl addName names).Nodup := by
  induction news generalizing names with
  | nil => exact nodup
  | cons name news ih => exact ih (nodup_addName nodup)

theorem prefix_foldl_addName : names <+: news.foldl addName names := by
  induction news generalizing names with
  | nil => exact List.prefix_rfl
  | cons name news ih =>
    refine List.IsPrefix.trans ?_ ih
    unfold addName
    split
    · exact List.prefix_rfl
    · exact List.prefix_append _ _

end Names

section List

variable {memory : Nat → Text} {iflist : GrowList Text}

/-- The names of the addresses are appended, as long as there is room. -/
theorem addRequests_some {addresses : List Ifreq} (room : iflist.number + addresses.length ≤ iflist.size) :
    ∃ iflist', addresses.foldlM addRequest iflist = some iflist' ∧ iflist'.InBounds ∧
      iflist'.items = iflist.items ++ addresses.map Ifreq.ifrName := by
  induction addresses generalizing iflist with
  | nil =>
    have bound : iflist.number ≤ iflist.size := by simpa using room
    exact ⟨iflist, rfl, bound, by simp⟩
  | cons ifr addresses ih =>
    rw [List.length_cons] at room
    obtain ⟨written, write, number, size, _, items⟩ := @GrowList.write_behind _ iflist (by omega) ifr.ifrName
    have step : addRequest iflist ifr = some { written with number := written.number + 1 } := by
      simp only [addRequest, write, Option.bind_eq_bind, Option.bind_some, Option.pure_def]
    have more : written.number + 1 + addresses.length ≤ written.size := by omega
    obtain ⟨iflist', rest, bound, items'⟩ := @ih { written with number := written.number + 1 } more
    refine ⟨iflist', FoldOption.foldlM_cons_iff.mpr ⟨_, step, rest⟩, bound, ?_⟩
    rw [items', items, List.append_assoc, List.map_cons]
    rfl

/-- The names that the lines of `/proc/net/dev` begin with. -/
def devNames (buffers : List Text) : List Text := buffers.filterMap fun buffer => (netDevLine buffer).map Prod.fst

theorem hasInterface_eq (iflist : GrowList Text) (name : Text) : hasInterface iflist name = decide (name ∈ iflist.items) := by
  simp [hasInterface, List.any_beq']

theorem procNetInterfaces_some (bound : iflist.InBounds) (buffers : List Text) :
    ∃ iflist', buffers.foldlM (procNetInterface memory) iflist = some iflist' ∧
      iflist'.items = (devNames buffers).foldl addName iflist.items := by
  induction buffers generalizing iflist with
  | nil => exact ⟨iflist, rfl, rfl⟩
  | cons buffer buffers ih =>
    cases line : netDevLine buffer with
    | none =>
      have step : procNetInterface memory iflist buffer = some iflist := by rw [procNetInterface, line]
      obtain ⟨iflist', rest, items⟩ := ih bound
      refine ⟨iflist', FoldOption.foldlM_cons_iff.mpr ⟨_, step, rest⟩, ?_⟩
      rw [items, devNames, devNames, List.filterMap_cons_none (by rw [line]; rfl)]
    | some parts =>
      have names : devNames (buffer :: buffers) = parts.1 :: devNames buffers :=
        List.filterMap_cons_some (by rw [line]; rfl)
      by_cases old : parts.1 ∈ iflist.items
      · have step : procNetInterface memory iflist buffer = some iflist := by
          simp [procNetInterface, line, hasInterface_eq, old]
        obtain ⟨iflist', rest, items⟩ := ih bound
        refine ⟨iflist', FoldOption.foldlM_cons_iff.mpr ⟨_, step, rest⟩, ?_⟩
        rw [items, names, List.foldl_cons, addName, if_pos old]
      · obtain ⟨pushed, push, bound', _, items⟩ := GrowList.push_some bound (by decide : 0 < sysmNetIflistMax) memory parts.1
        have step : procNetInterface memory iflist buffer = some pushed := by
          simp [procNetInterface, line, hasInterface_eq, old, push]
        obtain ⟨iflist', rest, items'⟩ := ih bound'
        refine ⟨iflist', FoldOption.foldlM_cons_iff.mpr ⟨_, step, rest⟩, ?_⟩
        rw [items', items, names, List.foldl_cons, addName, if_neg old]

/-- The names of the interfaces in the file, if it can be opened. -/
def fileNames (file : Option (List UInt8)) : List Text :=
  match file with
  | none => []
  | some content => devNames ((fgetsAll BUFSIZ content).drop 2)

theorem procNetInterfaceListGet_some (bound : iflist.InBounds) (file : Option (List UInt8)) :
    ∃ iflist', procNetInterfaceListGet memory file iflist = some iflist' ∧
      iflist'.items = (fileNames file).foldl addName iflist.items := by
  cases file with
  | none => exact ⟨iflist, rfl, rfl⟩
  | some content => exact procNetInterfaces_some bound _

theorem NetDevTable.fileNames_text (table : NetDevTable) : fileNames (some table.text) = table.rows.map NetDevRow.name := by
  rw [fileNames, table.fgetsAll_text, devNames, List.filterMap_map]
  induction table.rows with
  | nil => rfl
  | cons row rows ih =>
    have line := row.netDevLine_text
    rw [List.filterMap_cons_some (b := row.name) (by simp [line]), ih, List.map_cons]

end List

section Call

variable (memory : Nat → Text) (requests : Nat → Ifreq)

/-- The buffers that earlier calls leave. -/
inductive LeftByCalls : Ifconf → Prop
  | opened : LeftByCalls openedIfconf
  | call {conf conf' : Ifconf} {iflist : GrowList Text} (left : LeftByCalls conf) (socket : Except Int Unit)
      (answers : List IoctlAnswer) (procNetDev : Option (List UInt8)) :
      sysmNetInterfaceListGet memory requests socket answers procNetDev conf = some (conf', .ok iflist) → LeftByCalls conf'

variable {memory requests}

/-- A call that returns a list has left its loop. -/
theorem sysmNetInterfaceListGet_ok {socket : Except Int Unit} {answers : List IoctlAnswer} {procNetDev : Option (List UInt8)}
    {conf conf' : Ifconf} {iflist : GrowList Text}
    (run : sysmNetInterfaceListGet memory requests socket answers procNetDev conf = some (conf', .ok iflist)) :
    ∃ ifcLen ifrs list, conf.loop requests 0 answers = some (conf', .ended ifcLen) ∧ conf'.requests ifcLen = some ifrs ∧
      ifrs.foldlM addRequest (GrowList.create ifcLen memory) = some list ∧
        procNetInterfaceListGet memory procNetDev list = some iflist := by
  cases socket with
  | error errno => cases run
  | ok _ =>
    obtain ⟨⟨next, result⟩, loop, run⟩ := Option.bind_eq_some_iff.mp run
    cases result with
    | again lastlen => cases run
    | failed errno => cases run
    | ended ifcLen =>
      obtain ⟨ifrs, requested, run⟩ := Option.bind_eq_some_iff.mp run
      obtain ⟨list, added, run⟩ := Option.bind_eq_some_iff.mp run
      obtain ⟨final, merged, run⟩ := Option.bind_eq_some_iff.mp run
      cases run
      exact ⟨ifcLen, ifrs, list, loop, requested, added, merged⟩

theorem LeftByCalls.owned {conf : Ifconf} (left : LeftByCalls memory requests conf) : conf.Owned := by
  induction left with
  | opened => exact .empty
  | call _ socket answers procNetDev run ih =>
    obtain ⟨ifcLen, _, _, loop, _⟩ := sysmNetInterfaceListGet_ok run
    refine (Ifconf.loop_owned ih loop).resolve_left ?_
    rintro ⟨errno, failed⟩
    cases failed

variable {conf : Ifconf} {addresses : List Ifreq}

/-- Behind the loop the list is made without an error. -/
theorem list_ended {cells : List Ifreq} (fits : addresses.length < cells.length) (kept : addresses <+: cells)
    (procNetDev : Option (List UInt8)) :
    ∃ list iflist, (Ifconf.withCells cells).requests (sizeofIfreq * addresses.length) = some addresses ∧
      addresses.foldlM addRequest (GrowList.create (sizeofIfreq * addresses.length) memory) = some list ∧
        procNetInterfaceListGet memory procNetDev list = some iflist ∧
          iflist.items = (fileNames procNetDev).foldl addName (addresses.map Ifreq.ifrName) := by
  have ifreq : sizeofIfreq = 40 := rfl
  have room : (GrowList.create (sizeofIfreq * addresses.length) memory).number + addresses.length ≤
      (GrowList.create (sizeofIfreq * addresses.length) memory).size := by
    rw [GrowList.create_number, GrowList.create_size, ifreq]
    omega
  have empty : (GrowList.create (sizeofIfreq * addresses.length) memory).items = [] := List.take_zero
  obtain ⟨list, added, bound, names⟩ := addRequests_some room
  obtain ⟨iflist, merged, items⟩ := @procNetInterfaceListGet_some memory list bound procNetDev
  refine ⟨list, iflist, Ifconf.requests_withCells fits kept, added, merged, ?_⟩
  rw [items, names, empty, List.nil_append]

/-- The list that is returned for a kernel with these addresses. -/
theorem sysmNetInterfaceListGet_table (owned : conf.Owned) {rounds : Nat} {procNetDev : Option (List UInt8)} {conf' : Ifconf}
    {iflist : GrowList Text}
    (run : sysmNetInterfaceListGet memory requests (.ok ()) (List.replicate rounds (.reports addresses)) procNetDev conf =
      some (conf', .ok iflist)) :
    iflist.items = (fileNames procNetDev).foldl addName (addresses.map Ifreq.ifrName) ∧ conf'.Holds addresses ∧
      addresses.length < Ifconf.maxAddresses := by
  obtain ⟨ifcLen, ifrs, list, loop, requested, added, merged⟩ := sysmNetInterfaceListGet_ok run
  obtain ⟨cells, rfl, rfl, owned', fits, kept⟩ := Ifconf.loop_table owned (Or.inl rfl) loop
  obtain ⟨list', iflist', requested', added', merged', items⟩ := @list_ended memory addresses cells fits kept procNetDev
  cases requested.symm.trans requested'
  cases added.symm.trans added'
  cases merged.symm.trans merged'
  obtain ⟨growths, _, small, length⟩ := Ifconf.owned_withCells_iff.mp owned'
  refine ⟨items, ⟨0, cells, rfl, rfl, kept⟩, ?_⟩
  have ifreq : sizeofIfreq = 40 := rfl
  have twenty : sysmNetIflistMax = 20 := rfl
  have most : Ifconf.maxAddresses = 53687080 := rfl
  rw [ifreq] at small
  rw [twenty] at length
  omega

/-- The call returns a list if the length of the buffer that it needs fits into an `int`. -/
theorem sysmNetInterfaceListGet_small (owned : conf.Owned) (small : addresses.length < Ifconf.maxAddresses)
    (procNetDev : Option (List UInt8)) :
    ∃ rounds conf' iflist, sysmNetInterfaceListGet memory requests (.ok ()) (List.replicate rounds (.reports addresses))
      procNetDev conf = some (conf', .ok iflist) := by
  have start : conf.Continues 0 addresses.length := Or.inl rfl
  have enough : sizeofIfreq * addresses.length <
      conf.nextLen 0 + sizeofIfreq * sysmNetIflistMax * (addresses.length + 1) := by
    have ifreq : sizeofIfreq = 40 := rfl
    have twenty : sysmNetIflistMax = 20 := rfl
    rw [ifreq, twenty]
    omega
  obtain ⟨rounds, conf', ifcLen, loop⟩ := @Ifconf.loop_ends requests conf 0 owned addresses small start _ enough
  obtain ⟨cells, rfl, rfl, _, fits, kept⟩ := Ifconf.loop_table owned start loop
  obtain ⟨list, iflist, requested, added, merged, _⟩ := @list_ended memory addresses cells fits kept procNetDev
  refine ⟨rounds, Ifconf.withCells cells, iflist, ?_⟩
  simp only [sysmNetInterfaceListGet, loop, Option.bind_eq_bind, Option.bind_some, requested, added, merged,
    Option.pure_def]

/-- The call returns with all the addresses in the buffer, and its list has the
names of the addresses and of `/proc/net/dev`, and no others. -/
def ListsInterfaces (memory : Nat → Text) (requests : Nat → Ifreq) (conf : Ifconf) (addresses : List Ifreq)
    (table : NetDevTable) : Prop :=
  ∃ rounds conf' iflist,
    sysmNetInterfaceListGet memory requests (.ok ()) (List.replicate rounds (.reports addresses)) (some table.text) conf =
      some (conf', .ok iflist) ∧
    conf'.Holds addresses ∧
      ∀ name, name ∈ iflist.items ↔ (∃ ifr ∈ addresses, ifr.ifrName = name) ∨ ∃ row ∈ table.rows, row.name = name

/-- The interfaces are listed exactly if the buffer that the loop looks for has
a length that an `int` can hold. -/
theorem listsInterfaces_iff (left : LeftByCalls memory requests conf) (table : NetDevTable) :
    ListsInterfaces memory requests conf addresses table ↔ addresses.length < 53687080 := by
  have owned := left.owned
  constructor
  · rintro ⟨rounds, conf', iflist, run, _⟩
    exact (sysmNetInterfaceListGet_table owned run).2.2
  · intro small
    obtain ⟨rounds, conf', iflist, run⟩ :=
      @sysmNetInterfaceListGet_small memory requests conf addresses owned small (some table.text)
    obtain ⟨items, holds, _⟩ := sysmNetInterfaceListGet_table owned run
    refine ⟨rounds, conf', iflist, run, holds, fun name => ?_⟩
    rw [items, mem_foldl_addName, table.fileNames_text, List.mem_map, List.mem_map]

/-- No name is listed twice exactly if none is among the addresses twice. -/
theorem nodup_items_iff (left : LeftByCalls memory requests conf) {rounds : Nat} {procNetDev : Option (List UInt8)}
    {conf' : Ifconf} {iflist : GrowList Text}
    (run : sysmNetInterfaceListGet memory requests (.ok ()) (List.replicate rounds (.reports addresses)) procNetDev conf =
      some (conf', .ok iflist)) : iflist.items.Nodup ↔ (addresses.map Ifreq.ifrName).Nodup := by
  obtain ⟨items, _⟩ := sysmNetInterfaceListGet_table left.owned run
  rw [items]
  exact ⟨fun nodup => nodup.sublist prefix_foldl_addName.sublist, nodup_foldl_addName⟩

end Call

/-- A row with sixteen zeros. -/
def zeroRow (name : Text) (named : ∀ c ∈ name, c ≠ 0 ∧ c ≠ 58 ∧ isSpace c = false) (short : name.length < 16) : NetDevRow where
  lead := [32, 32]
  name
  counters := List.replicate 16 ([32], 0)
  tail := []
  blank := by simp [Blank]
  apart := by simp
  sixteen := by simp
  named
  fits := by
    have zeros : (spaced (List.replicate 16 ([32], 0))).length = 32 := by decide
    simp only [List.length_append, List.length_cons, List.length_nil, zeros, BUFSIZ]
    omega

theorem lo_named : ∀ c ∈ ofString "lo", c ≠ 0 ∧ c ≠ 58 ∧ isSpace c = false := List.all_iff_forall_prop.mp (by decide)

theorem lo_short : (ofString "lo").length < 16 := by decide

/-- `/proc/net/dev` with the loopback interface only. -/
def loTable : NetDevTable where
  header := (ofString "Inter-|   Receive", ofString " face |bytes")
  rows := [zeroRow (ofString "lo") lo_named lo_short]
  plain := ⟨List.all_iff_forall_prop.mp (by decide), List.all_iff_forall_prop.mp (by decide)⟩
  fits := by decide

def eth0Ifreq : Ifreq := ⟨ofString "eth0", by decide, List.all_iff_forall_prop.mp (by decide)⟩

/-- The memory that is not written to. -/
def noNames : Nat → Text := fun _ => []

def noRequests : Nat → Ifreq := fun _ => ⟨[], by decide, List.all_iff_forall_prop.mp (by decide)⟩

theorem listsInterfaces_eth0 : ListsInterfaces noNames noRequests openedIfconf [eth0Ifreq] loTable :=
  (listsInterfaces_iff .opened loTable).mpr (by decide)

/-- For 53687080 addresses the length of the buffer has to pass `INT_MAX`. -/
theorem not_listsInterfaces_many :
    ¬ ∀ addresses, ListsInterfaces noNames noRequests openedIfconf addresses loTable := by
  intro claim
  obtain ⟨rounds, conf', iflist, run, _⟩ := claim (List.replicate 53687080 eth0Ifreq)
  have small := (sysmNetInterfaceListGet_table .empty run).2.2
  rw [List.length_replicate] at small
  exact absurd small (Nat.lt_irrefl 53687080)

theorem nodup_items_eth0 :
    ∃ rounds conf' iflist, sysmNetInterfaceListGet noNames noRequests (.ok ()) (List.replicate rounds (.reports [eth0Ifreq]))
      (some loTable.text) openedIfconf = some (conf', .ok iflist) ∧ iflist.items.Nodup := by
  obtain ⟨rounds, conf', iflist, run⟩ := @sysmNetInterfaceListGet_small noNames noRequests openedIfconf [eth0Ifreq] .empty
    (by decide) (some loTable.text)
  exact ⟨rounds, conf', iflist, run, (nodup_items_iff .opened run).mpr (by simp)⟩

/-- An interface with two addresses is listed twice. -/
theorem not_nodup_items_eth0 :
    ¬ ∀ addresses rounds procNetDev conf' iflist,
      sysmNetInterfaceListGet noNames noRequests (.ok ()) (List.replicate rounds (.reports addresses)) procNetDev
        openedIfconf = some (conf', .ok iflist) → iflist.items.Nodup := by
  intro claim
  obtain ⟨rounds, conf', iflist, run⟩ := @sysmNetInterfaceListGet_small noNames noRequests openedIfconf
    [eth0Ifreq, eth0Ifreq] .empty (by decide) none
  have nodup := claim _ rounds none conf' iflist run
  rw [(sysmNetInterfaceListGet_table .empty run).1] at nodup
  have twice := nodup.sublist prefix_foldl_addName.sublist
  simp at twice

end Sysm
