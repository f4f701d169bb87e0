import Sysm.Lib.ByteBuffer

/-- An array of structures on the heap, byte by byte, with the number of
elements in use. -/
structure StructArray where
  number : Nat
  size : Nat
  data : List UInt8

namespace StructArray

/-- Bytes that nothing was written to. -/
def fresh (memory : Nat → UInt8) (start count : Nat) : List UInt8 := (List.range' start count).map memory

/-- Room for `max` structures of `width` bytes, which hold what is in the memory. -/
def create (width max : Nat) (memory : Nat → UInt8) : StructArray := ⟨0, max, fresh memory 0 (width * max)⟩

/-- Room for `max` more structures. -/
def grow (width max : Nat) (memory : Nat → UInt8) (array : StructArray) : StructArray :=
  { array with
    size := array.size + max
    data := array.data ++ fresh memory array.data.length (width * max) }

/-- Grows an array that is full. -/
def growFull (width max : Nat) (memory : Nat → UInt8) (array : StructArray) : StructArray :=
  if array.size ≤ array.number then array.grow width max memory else array

/-- The bytes of an element. -/
def element (width : Nat) (array : StructArray) (index : Nat) : List UInt8 := (array.data.drop (width * index)).take width

/-- A member of a structure. -/
structure Member where
  offset : Nat
  width : Nat

/-- The bytes of a member. -/
def Member.of (member : Member) (element : List UInt8) : List UInt8 := (element.drop member.offset).take member.width

/-- The number in the bytes of a little-endian machine. -/
def valueOf (bytes : List UInt8) : Nat := bytes.foldr (fun byte value => byte.toNat + 256 * value) 0

/-- The lowest `count` bytes of a number. -/
def bytesOf : Nat → Nat → List UInt8
  | 0, _ => []
  | count + 1, value => UInt8.ofNat value :: bytesOf count (value / 256)

/-- The array has these elements, and the memory behind them is as it was. -/
structure Holds (width : Nat) (memory : Nat → UInt8) (array : StructArray) (elements : List (List UInt8)) : Prop where
  number : array.number = elements.length
  sized : ∀ element ∈ elements, element.length = width
  spare : ∃ spare, array.size = elements.length + spare ∧
    array.data = elements.flatten ++ fresh memory (width * elements.length) (width * spare)

variable {width max : Nat} {memory : Nat → UInt8} {array : StructArray} {elements : List (List UInt8)}

@[simp] theorem length_fresh (start count : Nat) : (fresh memory start count).length = count := by simp [fresh]

theorem fresh_add (start count more : Nat) :
    fresh memory start (count + more) = fresh memory start count ++ fresh memory (start + count) more := by
  rw [fresh, fresh, fresh, ← List.map_append, List.range'_append_1]

@[simp] theorem length_bytesOf (count value : Nat) : (bytesOf count value).length = count := by
  induction count generalizing value with
  | zero => rfl
  | succ count ih => rw [bytesOf, List.length_cons, ih]

theorem valueOf_bytesOf (count value : Nat) : valueOf (bytesOf count value) = value % 256 ^ count := by
  induction count generalizing value with
  | zero =>
    rw [pow_zero, Nat.mod_one]
    rfl
  | succ count ih =>
    have tail : valueOf (bytesOf (count + 1) value) = (UInt8.ofNat value).toNat + 256 * valueOf (bytesOf count (value / 256)) := rfl
    have low : (UInt8.ofNat value).toNat = value % 256 := UInt8.toNat_ofNat'
    rw [tail, ih, low, pow_succ', Nat.mod_mul]

theorem valueOf_lt (bytes : List UInt8) : valueOf bytes < 256 ^ bytes.length := by
  induction bytes with
  | nil => decide
  | cons byte bytes ih =>
    have tail : valueOf (byte :: bytes) = byte.toNat + 256 * valueOf bytes := rfl
    have low : byte.toNat < 256 := byte.toNat_lt
    rw [tail, List.length_cons, pow_succ']
    omega

theorem length_flatten (sized : ∀ element ∈ elements, element.length = width) :
    elements.flatten.length = width * elements.length := by
  induction elements with
  | nil => rfl
  | cons first elements ih =>
    rw [List.flatten_cons, List.length_append, List.length_cons, sized first (List.mem_cons_self ..),
      ih fun element member => sized element (List.mem_cons_of_mem _ member), Nat.mul_succ, Nat.add_comm]

theorem create_holds : (create width max memory).Holds width memory [] where
  number := rfl
  sized := by simp
  spare := ⟨max, (Nat.zero_add max).symm, rfl⟩

/-- There is room for one more element then. -/
theorem Holds.growFull (holds : array.Holds width memory elements) (positive : 0 < max) :
    ∃ spare, (array.growFull width max memory).number = elements.length ∧
      (array.growFull width max memory).size = elements.length + (spare + 1) ∧
      (array.growFull width max memory).data = elements.flatten ++
        (fresh memory (width * elements.length) width ++ fresh memory (width * (elements.length + 1)) (width * spare)) := by
  obtain ⟨spare, size, data⟩ := holds.spare
  have next (spare : Nat) : fresh memory (width * elements.length) (width * (spare + 1)) =
      fresh memory (width * elements.length) width ++ fresh memory (width * (elements.length + 1)) (width * spare) := by
    rw [Nat.mul_succ, Nat.add_comm, fresh_add, Nat.mul_succ]
  have number := holds.number
  unfold StructArray.growFull
  by_cases full : array.size ≤ array.number
  · rw [if_pos full]
    have noSpare : spare = 0 := by omega
    have length : array.data.length = width * elements.length := by
      rw [data, List.length_append, length_fresh, length_flatten holds.sized, noSpare, Nat.mul_zero, Nat.add_zero]
    obtain ⟨spare', more⟩ : ∃ spare', max = spare' + 1 := Nat.exists_eq_succ_of_ne_zero (by omega)
    refine ⟨spare', number, ?_, ?_⟩
    · show array.size + max = _
      omega
    · show array.data ++ fresh memory array.data.length (width * max) = _
      rw [length, more, next, data, noSpare, Nat.mul_zero]
      simp [fresh]
  · rw [if_neg full]
    obtain ⟨spare', more⟩ : ∃ spare', spare = spare' + 1 := Nat.exists_eq_succ_of_ne_zero (by omega)
    exact ⟨spare', number, by omega, by rw [data, more, next]⟩

/-- The element is there once it is written. -/
theorem Holds.push (holds : array.Holds width memory elements) {written : List UInt8} (length : written.length = width)
    (spare : Nat) :
    Holds width memory
      ⟨elements.length + 1, elements.length + (spare + 1), elements.flatten ++
        (written ++ fresh memory (width * (elements.length + 1)) (width * spare))⟩
      (elements ++ [written]) where
  number := by simp
  sized := by
    intro element member
    rcases List.mem_append.mp member with before | last
    · exact holds.sized element before
    · rw [List.mem_singleton.mp last, length]
  spare := by
    refine ⟨spare, ?_, ?_⟩
    · show elements.length + (spare + 1) = _
      rw [List.length_append, List.length_singleton]
      omega
    · show elements.flatten ++ (written ++ _) = _
      rw [List.flatten_append, List.flatten_singleton, List.length_append, List.length_singleton, List.append_assoc]

theorem slice_flatten {more : List UInt8} (sized : ∀ element ∈ elements, element.length = width) {index : Nat}
    {element : List UInt8} (there : elements[index]? = some element) :
    ((elements.flatten ++ more).drop (width * index)).take width = element := by
  induction elements generalizing index with
  | nil => cases there
  | cons first elements ih =>
    have length := sized first (List.mem_cons_self ..)
    rw [List.flatten_cons, List.append_assoc]
    cases index with
    | zero =>
      cases there
      rw [Nat.mul_zero, List.drop_zero, ← length, List.take_left]
    | succ index =>
      have others := ih (fun element member => sized element (List.mem_cons_of_mem _ member)) there
      rwa [Nat.mul_succ, Nat.add_comm, ← List.drop_drop, ← length, List.drop_left, length]

theorem Holds.element (holds : array.Holds width memory elements) {index : Nat} {element : List UInt8}
    (there : elements[index]? = some element) : array.element width index = element := by
  obtain ⟨spare, size, data⟩ := holds.spare
  rw [StructArray.element, data]
  exact slice_flatten holds.sized there

/-- The memory behind the elements is as it was. -/
theorem Holds.behind (holds : array.Holds width memory elements) :
    array.data.drop (width * array.number) = fresh memory (width * array.number) (array.data.length - width * array.number) := by
  obtain ⟨spare, size, data⟩ := holds.spare
  have length := length_flatten holds.sized
  rw [holds.number, data, ← length, List.drop_left, List.length_append, length_fresh, Nat.add_sub_cancel_left]

/-- Each element says what its source means. -/
structure Matches {α : Type} (means : Nat → List UInt8 → α → Prop) (elements : List (List UInt8)) (sources : List α) : Prop where
  length : elements.length = sources.length
  each : ∀ (i : Nat) (source : α), sources[i]? = some source → ∃ element, elements[i]? = some element ∧ means i element source

section Matches

variable {α : Type} {means : Nat → List UInt8 → α → Prop} {sources : List α}

theorem Matches.nil : Matches means [] [] where
  length := rfl
  each := by simp

theorem Matches.push (matched : Matches means elements sources) {source : α} {element : List UInt8}
    (last : means elements.length element source) : Matches means (elements ++ [element]) (sources ++ [source]) where
  length := by rw [List.length_append, List.length_append, matched.length]; rfl
  each := by
    intro i other there
    have length := matched.length
    by_cases before : i < sources.length
    · rw [List.getElem?_append_left before] at there
      rw [List.getElem?_append_left (by omega)]
      exact matched.each i other there
    · have place : i = sources.length := by
        have inside := (List.getElem?_eq_some_iff.mp there).1
        rw [List.length_append, List.length_singleton] at inside
        omega
      rw [place, List.getElem?_concat_length] at there
      cases there
      rw [place, ← length, List.getElem?_concat_length]
      exact ⟨element, rfl, last⟩

end Matches

section Pieces

variable {before behind piece bytes text : List UInt8} {pieces : List (List UInt8)} {index place : Nat}

/-- A string in a stretch of bytes that is long enough. -/
def stored (text stretch : List UInt8) : List UInt8 := text ++ 0 :: stretch.drop (text.length + 1)

theorem length_stored {stretch : List UInt8} (short : text.length < stretch.length) :
    (stored text stretch).length = stretch.length := by
  rw [stored, List.length_append, List.length_cons, List.length_drop]
  omega

theorem ofBuffer_stored (noNul : ∀ c ∈ text, c ≠ 0) (stretch behind : List UInt8) :
    CString.ofBuffer (stored text stretch ++ behind) = text := by
  rw [stored, List.append_assoc, List.cons_append, ByteBuffer.ofBuffer_append_nul, CString.ofBuffer_of_no_nul noNul]

theorem flatten_split (there : pieces[index]? = some piece) :
    pieces.flatten = (pieces.take index).flatten ++ (piece ++ (pieces.drop (index + 1)).flatten) := by
  obtain ⟨inside, same⟩ := List.getElem?_eq_some_iff.mp there
  rw [← same, ← List.flatten_cons, List.getElem_cons_drop, ← List.flatten_append, List.take_append_drop]

theorem flatten_set (inside : index < pieces.length) (bytes : List UInt8) :
    (pieces.set index bytes).flatten = (pieces.take index).flatten ++ (bytes ++ (pieces.drop (index + 1)).flatten) := by
  rw [List.set_eq_take_append_cons_drop, if_pos inside, List.flatten_append, List.flatten_cons]

theorem length_take_flatten (index : Nat) : (pieces.take index).flatten.length = ((pieces.take index).map List.length).sum :=
  List.length_flatten

/-- A piece that is overwritten is the only one that changes. -/
theorem copy_piece (there : pieces[index]? = some piece)
    (start : place = before.length + ((pieces.take index).map List.length).sum) (same : bytes.length = piece.length)
    (behind : List UInt8) :
    ByteBuffer.copy (before ++ (pieces.flatten ++ behind)) place bytes =
      some (before ++ ((pieces.set index bytes).flatten ++ behind)) := by
  obtain ⟨inside, _⟩ := List.getElem?_eq_some_iff.mp there
  have run := @ByteBuffer.copy_middle place bytes (before ++ (pieces.take index).flatten) piece
    ((pieces.drop (index + 1)).flatten ++ behind) (by rw [List.length_append, length_take_flatten, start]) same
  rw [flatten_split there, flatten_set inside]
  simpa only [List.append_assoc] using run

/-- So is one that a string is copied to. -/
theorem copyString_piece (there : pieces[index]? = some piece)
    (start : place = before.length + ((pieces.take index).map List.length).sum) (short : text.length < piece.length)
    (behind : List UInt8) :
    ByteBuffer.copyString (before ++ (pieces.flatten ++ behind)) place [text] =
      some (before ++ ((pieces.set index (stored text piece)).flatten ++ behind)) := by
  obtain ⟨inside, _⟩ := List.getElem?_eq_some_iff.mp there
  have run := @ByteBuffer.copyString_middle place text (before ++ (pieces.take index).flatten) piece
    ((pieces.drop (index + 1)).flatten ++ behind) (by rw [List.length_append, length_take_flatten, start]) short
  rw [flatten_split there, flatten_set inside]
  simpa only [List.append_assoc, stored] using run

theorem drop_piece (there : pieces[index]? = some piece)
    (start : place = before.length + ((pieces.take index).map List.length).sum) (behind : List UInt8) :
    (before ++ (pieces.flatten ++ behind)).drop place = piece ++ ((pieces.drop (index + 1)).flatten ++ behind) := by
  have length : place = (before ++ (pieces.take index).flatten).length := by
    rw [List.length_append, length_take_flatten, start]
  rw [flatten_split there, List.append_assoc, ← List.append_assoc before, length, List.drop_left, List.append_assoc]

theorem Member.of_pieces {member : Member} (there : pieces[index]? = some piece)
    (start : member.offset = ((pieces.take index).map List.length).sum) (width : piece.length = member.width) :
    member.of pieces.flatten = piece := by
  have dropped := @drop_piece [] piece pieces index member.offset there (by rw [start]; simp) []
  rw [List.nil_append, List.append_nil] at dropped
  rw [Member.of, dropped, ← width, List.take_left]

end Pieces

section Writes

/-- What is written to a structure is written behind its start, and does not
depend on what is before it. -/
structure Writes (into : List UInt8 → Nat → Option (List UInt8)) : Prop where
  behind : ∀ before data place, into (before ++ data) (before.length + place) = (into data place).map (before ++ ·)
  length : ∀ data place data', into data place = some data' → data'.length = data.length

/-- What is read from a structure stands behind its start. -/
def Reads {β : Type} (read : List UInt8 → Nat → β) : Prop :=
  ∀ before data place, read (before ++ data) (before.length + place) = read data place

theorem Writes.put (offset : Nat) (byte : UInt8) : Writes fun data place => ByteBuffer.put data (place + offset) byte where
  behind before data place := by rw [Nat.add_assoc, ByteBuffer.put_append]
  length data place data' run := by
    obtain ⟨_, same⟩ := Option.ite_none_right_eq_some.mp run
    rw [← Option.some.inj same, List.length_set]

theorem Writes.copy (offset : Nat) (bytes : List UInt8) : Writes fun data place => ByteBuffer.copy data (place + offset) bytes where
  behind before data place := by rw [Nat.add_assoc, ByteBuffer.copy_append]
  length _ _ _ run := ByteBuffer.length_copy run

theorem Writes.bind {first second : List UInt8 → Nat → Option (List UInt8)} (one : Writes first) (two : Writes second) :
    Writes fun data place => (first data place).bind fun data => second data place where
  behind before data place := by
    rw [one.behind]
    cases first data place with
    | none => rfl
    | some next => exact two.behind before next place
  length data place data' run := by
    obtain ⟨next, step, rest⟩ := Option.bind_eq_some_iff.mp run
    rw [two.length _ _ _ rest, one.length _ _ _ step]

theorem Writes.done : Writes fun data _ => some data where
  behind _ _ _ := rfl
  length _ _ _ run := by rw [Option.some.inj run]

theorem Writes.fault : Writes fun _ _ => none where
  behind _ _ _ := rfl
  length _ _ _ run := by cases run

theorem Writes.read {β : Type} {read : List UInt8 → Nat → β} {into : β → List UInt8 → Nat → Option (List UInt8)}
    (reads : Reads read) (writes : ∀ value, Writes (into value)) : Writes fun data place => into (read data place) data place where
  behind before data place := by
    rw [reads]
    exact (writes _).behind before data place
  length data place := (writes _).length data place

theorem Writes.copyString (offset : Nat) (text : List UInt8) :
    Writes fun data place => ByteBuffer.copyString data (place + offset) [text] := by
  have both := (Writes.copy offset text).bind (Writes.put (offset + text.length) 0)
  simpa only [ByteBuffer.copyString, Option.bind_eq_bind, Nat.add_assoc] using both

end Writes

end StructArray
