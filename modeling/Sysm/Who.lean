import Sysm.Lib.CNumbers
import Sysm.Lib.FoldOption
import Sysm.Lib.StructArray

namespace Sysm
open CString StructArray

/-- `sizeof(struct utmp)` -/
def sizeofUtmp : Nat := 384

/-- `sizeof(sysm_who_t)` -/
def sizeofWho : Nat := 328

/-- `SYSM_WHO_LIST_MAX` -/
def sysmWhoListMax : Nat := 12

/-- `USER_PROCESS` -/
def userProcess : Nat := 7

namespace Utmp

def utType : Member := ⟨0, 2⟩
def utLine : Member := ⟨8, 32⟩

/-- `ut_user`, which `ut_name` is another name of -/
def utUser : Member := ⟨44, 32⟩
def utHost : Member := ⟨76, 256⟩

/-- The seconds of `ut_tv`, which `ut_time` is another name of -/
def utTime : Member := ⟨340, 4⟩

end Utmp

namespace Who

def user : Member := ⟨0, 32⟩
def device : Member := ⟨32, 32⟩
def host : Member := ⟨64, 256⟩
def time : Member := ⟨320, 8⟩

end Who

/-- The records that `fread(&ut, sizeof(ut), 1, fp)` reads one after the other. -/
def freadRecords (size : Nat) (file : List UInt8) : List (List UInt8) :=
  (List.range (file.length / size)).map fun i => (file.drop (size * i)).take size

/-- The string at this place. Its NUL has to be in the block. -/
def stringFrom (block : List UInt8) (place : Nat) : Option Text :=
  if 0 ∈ block.drop place then some (ofBuffer (block.drop place)) else none

/-- A `strcpy` from a member to a member, with the number of bytes that it reads
and writes from their starts on. -/
structure StringCopy where
  source : Member
  dest : Member
  count : Nat

/-- It reads and writes no other member. -/
def StringCopy.Inside (copy : StringCopy) : Prop := copy.count ≤ copy.source.width ∧ copy.count ≤ copy.dest.width

/-- `if (sizeof(src) < sizeof(dest)) dest[sizeof(src)] = '\0'` -/
def terminate (data : List UInt8) (place : Nat) (dest source : Member) : Option (List UInt8) :=
  if source.width < dest.width then ByteBuffer.put data (place + source.width) 0 else some data

/-- `WHOCPY` for the element at `who` -/
def whocpy (data : List UInt8) (who : Nat) (dest : Member) (ut : List UInt8) (source : Member) :
    Option (List UInt8 × StringCopy) := do
  let text ← stringFrom ut source.offset
  let data ← ByteBuffer.copyString data (who + dest.offset) [text]
  let data ← terminate data (who + dest.offset) dest source
  return (data, ⟨source, dest, text.length + 1⟩)

/-- `who->time = ut.ut_time`, from 32 bits with a sign to 64 bits -/
def whoTime (ut : List UInt8) : Nat :=
  let time := valueOf (Utmp.utTime.of ut)
  if time < 2 ^ 31 then time else 2 ^ 64 - 2 ^ 32 + time

/-- The list, and the copies that were made on the way. -/
structure WhoRun where
  list : StructArray
  copies : List StringCopy

/-- What is written to the element at `who`. -/
def whoInto (data : List UInt8) (who : Nat) (ut : List UInt8) : Option (List UInt8 × List StringCopy) := do
  let (data, user) ← whocpy data who Who.user ut Utmp.utUser
  let (data, device) ← whocpy data who Who.device ut Utmp.utLine
  let (data, host) ← whocpy data who Who.host ut Utmp.utHost
  let data ← ByteBuffer.copy data (who + Who.time.offset) (bytesOf 8 (whoTime ut))
  return (data, [user, device, host])

/-- One round of `sysm_who_utmp`. -/
def utmpRecord (memory : Nat → UInt8) (run : WhoRun) (ut : List UInt8) : Option WhoRun :=
  if (Utmp.utUser.of ut).head? = some 0 then some run
  else if valueOf (Utmp.utType.of ut) ≠ userProcess then some run
  else do
    let list := run.list.growFull sizeofWho sysmWhoListMax memory
    let (data, copies) ← whoInto list.data (sizeofWho * list.number) ut
    return ⟨{ list with number := list.number + 1, data }, run.copies ++ copies⟩

def sysmWhoUtmp (memory : Nat → UInt8) (run : WhoRun) (file : Except Int (List UInt8)) : Option (Except Int WhoRun) :=
  match file with
  | .error errno => some (.error errno)
  | .ok bytes => do
    let run ← (freadRecords sizeofUtmp bytes).foldlM (utmpRecord memory) run
    return .ok run

/-- `file` has the bytes of `_PATH_UTMP` if it can be opened, and `memory` is what
is in the memory for the list. -/
def sysmWhoListGet (memory : Nat → UInt8) (file : Except Int (List UInt8)) : Option (Except Int WhoRun) :=
  sysmWhoUtmp memory ⟨.create sizeofWho sysmWhoListMax memory, []⟩ file

/-- A `USER_PROCESS` record with a user. -/
def Counts (ut : List UInt8) : Prop :=
  (Utmp.utUser.of ut).head? ≠ some 0 ∧ valueOf (Utmp.utType.of ut) = userProcess

instance (ut : List UInt8) : Decidable (Counts ut) := inferInstanceAs (Decidable (_ ∧ _))

/-- The records that the list is about. -/
def countedRecords (file : List UInt8) : List (List UInt8) := (freadRecords sizeofUtmp file).filter (Counts ·)

/-- The bytes of a member up to its first NUL, or all of them. -/
def textOf (member : Member) (block : List UInt8) : Text := ofBuffer (member.of block)

/-- The element has the strings and the time of the record. -/
structure StoresRecord (element ut : List UInt8) : Prop where
  user : textOf Who.user element = textOf Utmp.utUser ut
  device : textOf Who.device element = textOf Utmp.utLine ut
  host : textOf Who.host element = textOf Utmp.utHost ut
  time : valueOf (Who.time.of element) = whoTime ut

/-- The list has one element for each of these records in order, and no copy
reads or writes more than the member it is about. -/
def StoresRecords (memory : Nat → UInt8) (file : List UInt8) : Prop :=
  ∃ run, sysmWhoListGet memory (.ok file) = some (.ok run) ∧ run.list.number = (countedRecords file).length ∧
    (∀ (i : Nat) (ut : List UInt8), (countedRecords file)[i]? = some ut → StoresRecord (run.list.element sizeofWho i) ut) ∧
    ∀ copy ∈ run.copies, copy.Inside

/-- The strings of a record end in their members. -/
def EndsInside (ut : List UInt8) : Prop := 0 ∈ Utmp.utUser.of ut ∧ 0 ∈ Utmp.utLine.of ut ∧ 0 ∈ Utmp.utHost.of ut

section Copy

variable {ut : List UInt8} {source dest : Member}

/-- A string that ends in its member is read from there alone. -/
theorem stringFrom_inside (ends : 0 ∈ source.of ut) :
    stringFrom ut source.offset = some (textOf source ut) ∧ (textOf source ut).length < source.width := by
  have short := length_ofBuffer_lt ends
  have width : (source.of ut).length ≤ source.width := List.length_take_le _ _
  refine ⟨?_, Nat.lt_of_lt_of_le short width⟩
  have split : ut.drop source.offset = source.of ut ++ (ut.drop source.offset).drop source.width :=
    (List.take_append_drop _ _).symm
  have same : ofBuffer (ut.drop source.offset) = textOf source ut := by
    have short' : ((source.of ut).takeWhile (· != 0)).length ≠ (source.of ut).length := Nat.ne_of_lt short
    rw [split, ofBuffer, List.takeWhile_append, if_neg short']
    rfl
  have there : 0 ∈ ut.drop source.offset := List.mem_of_mem_take ends
  rw [stringFrom, if_pos there, same]

/-- A string that is not longer than its member ends in it. -/
theorem ends_of_stringFrom {text : Text} (read : stringFrom ut source.offset = some text) (short : text.length + 1 ≤ source.width) :
    0 ∈ source.of ut := by
  obtain ⟨there, same⟩ := Option.ite_none_right_eq_some.mp read
  by_contra none
  have split : ut.drop source.offset = source.of ut ++ (ut.drop source.offset).drop source.width :=
    (List.take_append_drop _ _).symm
  have visible : ∀ c ∈ source.of ut, c ≠ 0 := fun c member zero => none (zero ▸ member)
  have text : text = source.of ut ++ ofBuffer ((ut.drop source.offset).drop source.width) := by
    rw [← Option.some.inj same, split, ofBuffer, List.takeWhile_append_of_pos (by simpa using visible), ← split]
    rfl
  have all : (source.of ut).length < source.width := by
    have length := congrArg List.length text
    rw [List.length_append] at length
    omega
  have whole : source.of ut = ut.drop source.offset := by
    refine List.take_of_length_le ?_
    rw [Member.of, List.length_take] at all
    omega
  exact none (whole ▸ there)

/-- A copy to a member of the same width whose string ends in its member. -/
theorem whocpy_piece (source dest : Member) {pieces : List (List UInt8)} {piece : List UInt8} {index : Nat}
    (there : pieces[index]? = some piece)
    (offset : dest.offset = ((pieces.take index).map List.length).sum) (length : piece.length = dest.width)
    (widths : source.width = dest.width) (ends : 0 ∈ source.of ut) {who : Nat} {before : List UInt8}
    (place : who = before.length) (behind : List UInt8) :
    whocpy (before ++ (pieces.flatten ++ behind)) who dest ut source =
      some (before ++ ((pieces.set index (stored (textOf source ut) piece)).flatten ++ behind),
        ⟨source, dest, (textOf source ut).length + 1⟩) := by
  obtain ⟨read, short⟩ := stringFrom_inside ends
  have copied := copyString_piece there (by rw [place, offset] : who + dest.offset = _) (by omega : (textOf source ut).length < _)
    behind
  have same : ¬source.width < dest.width := by omega
  simp only [whocpy, terminate, read, copied, if_neg same, Option.bind_eq_bind, Option.bind_some, Option.pure_def]

end Copy

section Element

variable {memory : Nat → UInt8} {who : Nat} {before user device host time : List UInt8} {ut : List UInt8}

theorem stored_textOf {member : Member} {element : List UInt8} {stretch : List UInt8} {text : Text} (noNul : ∀ c ∈ text, c ≠ 0)
    (same : member.of element = stored text stretch) : textOf member element = text := by
  have whole := ofBuffer_stored noNul stretch []
  rwa [List.append_nil, ← same] at whole

theorem textOf_noNul (member : Member) (block : List UInt8) : ∀ c ∈ textOf member block, c ≠ 0 := by
  intro c member
  have visible := List.mem_takeWhile_imp member
  simpa using visible

/-- The copies of a record whose strings end inside. -/
def copiesOf (ut : List UInt8) : List StringCopy :=
  [⟨Utmp.utUser, Who.user, (textOf Utmp.utUser ut).length + 1⟩, ⟨Utmp.utLine, Who.device, (textOf Utmp.utLine ut).length + 1⟩,
    ⟨Utmp.utHost, Who.host, (textOf Utmp.utHost ut).length + 1⟩]

theorem copiesOf_inside (ends : EndsInside ut) : ∀ copy ∈ copiesOf ut, copy.Inside := by
  obtain ⟨endsUser, endsLine, endsHost⟩ := ends
  have shortUser := (stringFrom_inside endsUser).2
  have shortLine := (stringFrom_inside endsLine).2
  have shortHost := (stringFrom_inside endsHost).2
  intro copy member
  rcases List.mem_cons.mp member with same | member
  · rw [same]
    exact ⟨shortUser, shortUser⟩
  · rcases List.mem_cons.mp member with same | member
    · rw [same]
      exact ⟨shortLine, shortLine⟩
    · rw [List.mem_singleton.mp member]
      exact ⟨shortHost, shortHost⟩

/-- The members of the element after a record whose strings end inside. -/
def writtenPieces (ut user device host : List UInt8) : List (List UInt8) :=
  [stored (textOf Utmp.utUser ut) user, stored (textOf Utmp.utLine ut) device, stored (textOf Utmp.utHost ut) host,
    bytesOf 8 (whoTime ut)]

variable (atUser : user.length = 32) (atDevice : device.length = 32) (atHost : host.length = 256) (atTime : time.length = 8)
  (ends : EndsInside ut)

include atUser atDevice atHost ends in
theorem length_writtenPieces :
    (writtenPieces ut user device host).map List.length = [32, 32, 256, 8] := by
  obtain ⟨endsUser, endsLine, endsHost⟩ := ends
  have shortUser : _ < 32 := (stringFrom_inside endsUser).2
  have shortLine : _ < 32 := (stringFrom_inside endsLine).2
  have shortHost : _ < 256 := (stringFrom_inside endsHost).2
  simp only [writtenPieces, List.map_cons, List.map_nil, length_bytesOf]
  rw [length_stored (by omega), length_stored (by omega), length_stored (by omega), atUser, atDevice, atHost]

include atUser atDevice atHost atTime ends in
/-- Nothing but the element is written to. -/
theorem whoInto_pieces (place : who = before.length) (behind : List UInt8) :
    whoInto (before ++ ([user, device, host, time].flatten ++ behind)) who ut =
      some (before ++ ((writtenPieces ut user device host).flatten ++ behind), copiesOf ut) := by
  obtain ⟨endsUser, endsLine, endsHost⟩ := ends
  have shortUser : _ < 32 := (stringFrom_inside endsUser).2
  have shortLine : _ < 32 := (stringFrom_inside endsLine).2
  have storedUser := (length_stored (by omega : (textOf Utmp.utUser ut).length < user.length)).trans atUser
  have storedLine := (length_stored (by omega : (textOf Utmp.utLine ut).length < device.length)).trans atDevice
  have shortHost : _ < 256 := (stringFrom_inside endsHost).2
  have storedHost := (length_stored (by omega : (textOf Utmp.utHost ut).length < host.length)).trans atHost
  -- the members after each of the copies
  let pieces : List (List UInt8) := [user, device, host, time]
  let pieces₁ : List (List UInt8) := [stored (textOf Utmp.utUser ut) user, device, host, time]
  let pieces₂ : List (List UInt8) := [stored (textOf Utmp.utUser ut) user, stored (textOf Utmp.utLine ut) device, host, time]
  let pieces₃ : List (List UInt8) := [stored (textOf Utmp.utUser ut) user, stored (textOf Utmp.utLine ut) device,
    stored (textOf Utmp.utHost ut) host, time]
  have first : whocpy (before ++ (pieces.flatten ++ behind)) who Who.user ut Utmp.utUser =
      some (before ++ (pieces₁.flatten ++ behind), ⟨Utmp.utUser, Who.user, (textOf Utmp.utUser ut).length + 1⟩) :=
    have there : pieces[0]? = some user := rfl
    whocpy_piece Utmp.utUser Who.user there rfl atUser rfl endsUser place behind
  have second : whocpy (before ++ (pieces₁.flatten ++ behind)) who Who.device ut Utmp.utLine =
      some (before ++ (pieces₂.flatten ++ behind), ⟨Utmp.utLine, Who.device, (textOf Utmp.utLine ut).length + 1⟩) :=
    have there : pieces₁[1]? = some device := rfl
    whocpy_piece Utmp.utLine Who.device there (by simp [pieces₁, storedUser, Who.device]) atDevice rfl endsLine place behind
  have third : whocpy (before ++ (pieces₂.flatten ++ behind)) who Who.host ut Utmp.utHost =
      some (before ++ (pieces₃.flatten ++ behind), ⟨Utmp.utHost, Who.host, (textOf Utmp.utHost ut).length + 1⟩) :=
    have there : pieces₂[2]? = some host := rfl
    whocpy_piece Utmp.utHost Who.host there (by simp [pieces₂, storedUser, storedLine, Who.host]) atHost rfl endsHost place behind
  have last : ByteBuffer.copy (before ++ (pieces₃.flatten ++ behind)) (who + Who.time.offset) (bytesOf 8 (whoTime ut)) =
      some (before ++ ((writtenPieces ut user device host).flatten ++ behind)) :=
    have there : pieces₃[3]? = some time := rfl
    copy_piece there (by simp [pieces₃, storedUser, storedLine, storedHost, Who.time, place]) (by rw [length_bytesOf, atTime]) behind
  have whole : [user, device, host, time] = pieces := rfl
  simp only [whole, whoInto, first, second, third, last, Option.bind_eq_bind, Option.bind_some, Option.pure_def]
  rfl

theorem whoTime_lt (ut : List UInt8) : whoTime ut < 256 ^ 8 := by
  have value := valueOf_lt (Utmp.utTime.of ut)
  have width : (Utmp.utTime.of ut).length ≤ 4 := List.length_take_le _ _
  have small : valueOf (Utmp.utTime.of ut) < 256 ^ 4 := Nat.lt_of_lt_of_le value (Nat.pow_le_pow_right (by decide) width)
  rw [whoTime]
  split
  · omega
  · omega

include atUser atDevice atHost ends in
theorem storesRecord_pieces : StoresRecord (writtenPieces ut user device host).flatten ut := by
  have lengths := length_writtenPieces atUser atDevice atHost ends
  have member (index : Nat) {piece : List UInt8} (there : (writtenPieces ut user device host)[index]? = some piece)
      (member : Member) (offset : member.offset = (([32, 32, 256, 8] : List Nat).take index).sum)
      (width : ([32, 32, 256, 8] : List Nat)[index]? = some member.width) :
      member.of (writtenPieces ut user device host).flatten = piece := by
    have length := congrArg (fun lengths => lengths[index]?) lengths
    simp only [List.getElem?_map, there, width] at length
    exact Member.of_pieces there (by rw [offset, List.map_take, lengths]) (Option.some.inj length)
  have time := whoTime_lt ut
  exact {
    user := stored_textOf (textOf_noNul _ _) (member 0 rfl Who.user rfl rfl)
    device := stored_textOf (textOf_noNul _ _) (member 1 rfl Who.device rfl rfl)
    host := stored_textOf (textOf_noNul _ _) (member 2 rfl Who.host rfl rfl)
    time := by
      rw [member 3 rfl Who.time rfl rfl, valueOf_bytesOf, Nat.mod_eq_of_lt time] }

end Element

section Loop

variable {memory : Nat → UInt8} {run run' : WhoRun} {elements : List (List UInt8)} {done : List (List UInt8)} {ut : List UInt8}

theorem fresh_who (memory : Nat → UInt8) (who : Nat) : fresh memory who sizeofWho =
    [fresh memory who 32, fresh memory (who + 32) 32, fresh memory (who + 64) 256, fresh memory (who + 320) 8].flatten := by
  have split : sizeofWho = 32 + (32 + (256 + 8)) := rfl
  rw [split, fresh_add, fresh_add, fresh_add]
  simp only [List.flatten_cons, List.flatten_nil, List.append_nil, Nat.add_assoc, Nat.reduceAdd]

/-- A record that does not count is skipped. -/
theorem utmpRecord_skips (run : WhoRun) (skipped : ¬Counts ut) : utmpRecord memory run ut = some run := by
  rw [utmpRecord]
  by_cases user : (Utmp.utUser.of ut).head? = some 0
  · rw [if_pos user]
  · rw [if_neg user, if_pos fun process => skipped ⟨user, process⟩]

theorem utmpRecord_counts (counts : Counts ut) : utmpRecord memory run ut = some run' ↔
    ∃ data copies, whoInto (run.list.growFull sizeofWho sysmWhoListMax memory).data
        (sizeofWho * (run.list.growFull sizeofWho sysmWhoListMax memory).number) ut = some (data, copies) ∧
      run' = ⟨⟨(run.list.growFull sizeofWho sysmWhoListMax memory).number + 1,
        (run.list.growFull sizeofWho sysmWhoListMax memory).size, data⟩, run.copies ++ copies⟩ := by
  rw [utmpRecord, if_neg counts.1, if_neg (not_not.mpr counts.2)]
  constructor
  · intro step
    obtain ⟨⟨data, copies⟩, written, same⟩ := Option.bind_eq_some_iff.mp step
    exact ⟨data, copies, written, (Option.some.inj same).symm⟩
  · rintro ⟨data, copies, written, same⟩
    exact Option.bind_eq_some_iff.mpr ⟨(data, copies), written, by rw [same]; rfl⟩

/-- One round for a record whose strings end inside. -/
theorem utmpRecord_holds (holds : run.list.Holds sizeofWho memory elements) (counts : Counts ut) (ends : EndsInside ut) :
    ∃ run' element, utmpRecord memory run ut = some run' ∧ run'.list.Holds sizeofWho memory (elements ++ [element]) ∧
      StoresRecord element ut ∧ run'.copies = run.copies ++ copiesOf ut := by
  have positive : 0 < sysmWhoListMax := by decide
  obtain ⟨spare, number, size, data⟩ := holds.growFull positive
  have place := (length_flatten holds.sized).symm
  have atUser : (fresh memory (sizeofWho * elements.length) 32).length = 32 := length_fresh _ _
  have atDevice : (fresh memory (sizeofWho * elements.length + 32) 32).length = 32 := length_fresh _ _
  have atHost : (fresh memory (sizeofWho * elements.length + 64) 256).length = 256 := length_fresh _ _
  have atTime : (fresh memory (sizeofWho * elements.length + 320) 8).length = 8 := length_fresh _ _
  have written := whoInto_pieces atUser atDevice atHost atTime ends place
    (fresh memory (sizeofWho * (elements.length + 1)) (sizeofWho * spare))
  rw [← fresh_who, ← data] at written
  have lengths := length_writtenPieces atUser atDevice atHost ends
  have pushed := holds.push (List.length_flatten.trans (congrArg List.sum lengths)) spare
  rw [← size] at pushed
  refine ⟨_, _, (utmpRecord_counts counts).mpr ⟨_, _, by rw [number]; exact written, rfl⟩, ?_,
    storesRecord_pieces atUser atDevice atHost ends, rfl⟩
  rw [number]
  exact pushed

/-- What the list has after some of the records. -/
structure ListsRecords (memory : Nat → UInt8) (run : WhoRun) (records : List (List UInt8)) : Prop where
  stored : ∃ elements, run.list.Holds sizeofWho memory elements ∧ Matches (fun _ => StoresRecord) elements records
  inside : ∀ copy ∈ run.copies, copy.Inside

theorem ListsRecords.step (lists : ListsRecords memory run done) (counts : Counts ut) (ends : EndsInside ut) :
    ∃ run', utmpRecord memory run ut = some run' ∧ ListsRecords memory run' (done ++ [ut]) := by
  obtain ⟨elements, holds, stored⟩ := lists.stored
  obtain ⟨run', element, step, holds', last, copies⟩ := utmpRecord_holds holds counts ends
  refine ⟨run', step, ⟨elements ++ [element], holds', stored.push last⟩, fun copy member => ?_⟩
  rw [copies] at member
  rcases List.mem_append.mp member with before | new
  · exact lists.inside copy before
  · exact copiesOf_inside ends copy new

theorem ListsRecords.loop {records : List (List UInt8)} (lists : ListsRecords memory run done)
    (ends : ∀ ut ∈ records.filter (Counts ·), EndsInside ut) :
    ∃ run', records.foldlM (utmpRecord memory) run = some run' ∧ ListsRecords memory run' (done ++ records.filter (Counts ·)) := by
  induction records generalizing run done with
  | nil => exact ⟨run, rfl, by rwa [List.filter_nil, List.append_nil]⟩
  | cons ut records ih =>
    by_cases counts : Counts ut
    · rw [List.filter_cons_of_pos (by simpa using counts)] at ends ⊢
      obtain ⟨next, step, lists'⟩ := lists.step counts (ends ut (List.mem_cons_self ..))
      obtain ⟨run', loop, lists''⟩ := ih lists' fun other member => ends other (List.mem_cons_of_mem _ member)
      rw [List.append_assoc, List.singleton_append] at lists''
      exact ⟨run', FoldOption.foldlM_cons_iff.mpr ⟨next, step, loop⟩, lists''⟩
    · rw [List.filter_cons_of_neg (by simpa using counts)] at ends ⊢
      obtain ⟨run', loop, lists'⟩ := ih lists ends
      exact ⟨run', FoldOption.foldlM_cons_iff.mpr ⟨run, utmpRecord_skips run counts, loop⟩, lists'⟩

end Loop

section Necessary

variable {memory : Nat → UInt8} {run run' : WhoRun} {ut data data' : List UInt8} {who : Nat} {source dest : Member}

theorem whocpy_ends {copy : StringCopy} (copied : whocpy data who dest ut source = some (data', copy)) (inside : copy.Inside) :
    0 ∈ source.of ut := by
  obtain ⟨text, read, rest⟩ := Option.bind_eq_some_iff.mp copied
  obtain ⟨_, _, rest⟩ := Option.bind_eq_some_iff.mp rest
  obtain ⟨_, _, same⟩ := Option.bind_eq_some_iff.mp rest
  cases same
  exact ends_of_stringFrom read inside.1

theorem whoInto_ends {copies : List StringCopy} (written : whoInto data who ut = some (data', copies))
    (inside : ∀ copy ∈ copies, copy.Inside) : EndsInside ut := by
  obtain ⟨⟨data₁, user⟩, first, rest⟩ := Option.bind_eq_some_iff.mp written
  obtain ⟨⟨data₂, device⟩, second, rest⟩ := Option.bind_eq_some_iff.mp rest
  obtain ⟨⟨data₃, host⟩, third, rest⟩ := Option.bind_eq_some_iff.mp rest
  obtain ⟨_, _, same⟩ := Option.bind_eq_some_iff.mp rest
  cases same
  exact ⟨whocpy_ends first (inside user (by simp)), whocpy_ends second (inside device (by simp)),
    whocpy_ends third (inside host (by simp))⟩

/-- One round only adds copies. -/
theorem utmpRecord_copies (step : utmpRecord memory run ut = some run') :
    (∀ copy ∈ run.copies, copy ∈ run'.copies) ∧ (Counts ut → (∀ copy ∈ run'.copies, copy.Inside) → EndsInside ut) := by
  by_cases counts : Counts ut
  · obtain ⟨data, copies, written, same⟩ := (utmpRecord_counts counts).mp step
    rw [same]
    exact ⟨fun copy member => List.mem_append_left _ member, fun _ inside =>
      whoInto_ends written fun copy member => inside copy (List.mem_append_right _ member)⟩
  · rw [utmpRecord_skips run counts] at step
    cases step
    exact ⟨fun copy member => member, fun counts' => absurd counts' counts⟩

theorem utmpRecords_ends {records : List (List UInt8)} (loop : records.foldlM (utmpRecord memory) run = some run')
    (inside : ∀ copy ∈ run'.copies, copy.Inside) :
    (∀ copy ∈ run.copies, copy.Inside) ∧ ∀ ut ∈ records.filter (Counts ·), EndsInside ut := by
  induction records generalizing run with
  | nil =>
    cases loop
    exact ⟨inside, by simp⟩
  | cons ut records ih =>
    obtain ⟨next, step, loop⟩ := FoldOption.foldlM_cons_iff.mp loop
    obtain ⟨inside', others⟩ := ih loop
    obtain ⟨more, ends⟩ := utmpRecord_copies step
    refine ⟨fun copy member => inside' copy (more copy member), fun other member => ?_⟩
    rcases List.mem_cons.mp (List.mem_of_mem_filter member) with same | among
    · have counts := (List.mem_filter.mp member).2
      rw [same] at counts ⊢
      exact ends (by simpa using counts) inside'
    · exact others other (List.mem_filter.mpr ⟨among, (List.mem_filter.mp member).2⟩)

theorem StoresRecords.ends {file : List UInt8} (stores : StoresRecords memory file) :
    ∀ ut ∈ countedRecords file, EndsInside ut := by
  obtain ⟨run, get, _, _, inside⟩ := stores
  obtain ⟨run', loop, same⟩ := Option.bind_eq_some_iff.mp get
  cases same
  exact (utmpRecords_ends loop inside).2

/-- The records are listed as they are if and only if the user, the line and the
host of each of them end inside of their members. -/
theorem storesRecords_iff (memory : Nat → UInt8) (file : List UInt8) :
    StoresRecords memory file ↔ ∀ ut ∈ countedRecords file, EndsInside ut := by
  constructor
  · exact StoresRecords.ends
  · intro ends
    have empty : ListsRecords memory ⟨.create sizeofWho sysmWhoListMax memory, []⟩ [] :=
      ⟨⟨[], create_holds, Matches.nil⟩, List.forall_mem_nil _⟩
    obtain ⟨run, loop, lists⟩ := empty.loop ends
    rw [List.nil_append] at lists
    obtain ⟨elements, holds, stored⟩ := lists.stored
    refine ⟨run, ?_, holds.number.trans stored.length, fun i ut there => ?_, lists.inside⟩
    · simp only [sysmWhoListGet, sysmWhoUtmp, loop, Option.bind_eq_bind, Option.bind_some, Option.pure_def]
    · obtain ⟨element, atElement, stores⟩ := stored.each i ut there
      rwa [holds.element atElement]

/-- A record of a user whose name has all the 32 bytes. -/
def fullUserRecord : List UInt8 :=
  bytesOf 8 userProcess ++ List.replicate 36 0 ++ List.replicate 32 117 ++ List.replicate 308 0

/-- The name is read on into the host and written on into the device. -/
theorem not_storesRecords_fullUser : ¬∀ (memory : Nat → UInt8) (file : List UInt8), StoresRecords memory file := by
  intro all
  have among : fullUserRecord ∈ countedRecords fullUserRecord := by decide +kernel
  have ends := (all (fun _ => 0) fullUserRecord).ends fullUserRecord among
  exact absurd ends.1 (by decide +kernel)

end Necessary

end Sysm
