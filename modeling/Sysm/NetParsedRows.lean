import Sysm.NetRows
import Sysm.NetStatPort

namespace Sysm
open CString

/-- A walker that keeps the rows it is given. -/
def collectRow (conn : SysmNetConnection) (conns : List SysmNetConnection) : Option (Int × List SysmNetConnection) :=
  some (0, conns ++ [conn])

/-- The rows that a walk over the tables parses, with its status. -/
def parsedRows (flags : UInt32) (files : NetFiles) : Option (Int × List SysmNetConnection) :=
  sysmNetConnectionWalk collectRow flags files []

section Collected

variable {σ : Type} {add : SysmNetConnection → σ → Option (Int × σ)}

/-- The walker answers `SYSM_OK` to every row. -/
def NeverStops (add : SysmNetConnection → σ → Option (Int × σ)) : Prop :=
  ∀ conn state more next, add conn state = some (more, next) → more = 0

theorem handOver_cons (goesOn : NeverStops add) (conn : SysmNetConnection) (conns : List SysmNetConnection) (state : σ) :
    handOver add (conn :: conns) state = (add conn state).bind fun result => handOver add conns result.2 := by
  rw [handOver]
  cases one : add conn state with
  | none => rfl
  | some result =>
    obtain ⟨more, next⟩ := result
    have zero := goesOn conn state more next one
    subst zero
    rfl

theorem handOver_append (goesOn : NeverStops add) (conns others : List SysmNetConnection) (state : σ) :
    handOver add (conns ++ others) state = (handOver add conns state).bind (handOver add others) := by
  induction conns generalizing state with
  | nil => rfl
  | cons conn conns ih =>
    rw [List.cons_append, handOver_cons goesOn, handOver_cons goesOn]
    cases add conn state with
    | none => rfl
    | some result => exact ih result.2

/-- A part of the walk gives `add` the rows that it collects, and ends with the same status. -/
structure Collects (add : SysmNetConnection → σ → Option (Int × σ)) (walk : σ → Option (Int × σ))
    (collect : List SysmNetConnection → Option (Int × List SysmNetConnection)) : Prop where
  grows : ∀ conns, collect conns = (collect []).map fun result => (result.1, conns ++ result.2)
  walks : ∀ state, walk state =
    (collect []).bind fun result => (handOver add result.2 state).map fun next => (result.1, next)

/-- Two parts of a walk, the second one after a success of the first. -/
def andThen (first second : σ → Option (Int × σ)) (state : σ) : Option (Int × σ) := do
  let (status, state) ← first state
  if status ≠ 0 then return (status, state)
  second state

theorem Collects.pure (add : SysmNetConnection → σ → Option (Int × σ)) (status : Int) :
    Collects add (fun state => some (status, state)) fun conns => some (status, conns) :=
  ⟨fun conns => by simp, fun state => rfl⟩

theorem Collects.mapStatus {walk : σ → Option (Int × σ)}
    {collect : List SysmNetConnection → Option (Int × List SysmNetConnection)} (collects : Collects add walk collect)
    (f : Int → Int) : Collects add (fun state => (walk state).map fun result => (f result.1, result.2))
      fun conns => (collect conns).map fun result => (f result.1, result.2) where
  grows conns := by
    rw [collects.grows conns, Option.map_map, Option.map_map]
    rfl
  walks state := by
    rw [collects.walks state]
    cases collect [] with
    | none => rfl
    | some result =>
      simp only [Option.bind_some, Option.map_some, Option.map_map]
      rfl

theorem Collects.andThen (goesOn : NeverStops add) {first second : σ → Option (Int × σ)}
    {collect collect' : List SysmNetConnection → Option (Int × List SysmNetConnection)}
    (collects : Collects add first collect) (collects' : Collects add second collect') :
    Collects add (andThen first second) (Sysm.andThen collect collect') where
  grows conns := by
    simp only [Sysm.andThen]
    rw [collects.grows conns]
    cases collect [] with
    | none => rfl
    | some result =>
      by_cases failed : result.1 ≠ 0
      · simp [failed]
      · simp only [Option.map_some, Option.bind_eq_bind, Option.bind_some, if_neg failed]
        rw [collects'.grows (conns ++ result.2), collects'.grows result.2, Option.map_map]
        refine congrFun (congrArg _ (funext fun later => ?_)) _
        simp
  walks state := by
    simp only [Sysm.andThen]
    rw [collects.walks state]
    cases collect [] with
    | none => rfl
    | some result =>
      by_cases failed : result.1 ≠ 0
      · simp only [Option.bind_some, Option.bind_eq_bind, if_pos failed, Option.pure_def]
        cases handOver add result.2 state with
        | none => rfl
        | some next => simp [failed]
      · simp only [Option.bind_some, Option.bind_eq_bind, if_neg failed]
        rw [collects'.grows result.2]
        cases handed : handOver add result.2 state with
        | none =>
          cases collect' [] with
          | none => rfl
          | some later => simp [handOver_append goesOn, handed]
        | some next =>
          simp only [Option.map_some, Option.bind_some, if_neg failed]
          rw [collects'.walks next]
          cases collect' [] with
          | none => rfl
          | some later => simp [handOver_append goesOn, handed]

theorem procNetLines_grows (flags type : UInt32) (lines : List Text) (conns : List SysmNetConnection) :
    procNetLines collectRow flags type lines conns = (procNetLines collectRow flags type lines []).map (conns ++ ·) := by
  induction lines generalizing conns with
  | nil => simp [procNetLines]
  | cons line lines ih =>
    simp only [procNetLines, Option.bind_eq_bind]
    cases procNetLine flags type line with
    | none => rfl
    | some row =>
      cases row with
      | none => exact ih conns
      | some conn =>
        simp only [Option.bind_some, collectRow, ne_eq, not_true_eq_false, if_false, List.nil_append]
        rw [ih (conns ++ [conn]), ih [conn], Option.map_map]
        exact congrFun (congrArg _ (funext fun later => by simp)) _

theorem procNetLines_walks (goesOn : NeverStops add) (flags type : UInt32) (lines : List Text) (state : σ) :
    procNetLines add flags type lines state =
      (procNetLines collectRow flags type lines []).bind fun conns => handOver add conns state := by
  induction lines generalizing state with
  | nil => rfl
  | cons line lines ih =>
    simp only [procNetLines, Option.bind_eq_bind]
    cases procNetLine flags type line with
    | none => rfl
    | some row =>
      cases row with
      | none => exact ih state
      | some conn =>
        simp only [Option.bind_some, collectRow, ne_eq, not_true_eq_false, if_false, List.nil_append]
        rw [procNetLines_grows flags type lines [conn], Option.bind_map]
        cases one : add conn state with
        | none =>
          cases procNetLines collectRow flags type lines [] with
          | none => rfl
          | some conns => simp [handOver_cons goesOn, one]
        | some result =>
          obtain ⟨more, next⟩ := result
          have zero := goesOn conn state more next one
          subst zero
          simp only [Option.bind_some, not_true_eq_false, if_false, ih next]
          refine congrArg _ (funext fun conns => ?_)
          simp [handOver_cons goesOn, one]

theorem procNetRead_collects (goesOn : NeverStops add) (flags type : UInt32) (file : Except Int (List UInt8)) :
    Collects add (procNetRead add flags type file) (procNetRead collectRow flags type file) := by
  cases file with
  | error errno => exact .pure add errno
  | ok stream =>
    constructor
    · intro conns
      simp only [procNetRead, Option.bind_eq_bind]
      rw [procNetLines_grows flags type _ conns, Option.bind_map]
      cases procNetLines collectRow flags type (fgetsAll 8192 stream).tail [] with
      | none => rfl
      | some later => rfl
    · intro state
      simp only [procNetRead, Option.bind_eq_bind]
      rw [procNetLines_walks goesOn]
      cases procNetLines collectRow flags type (fgetsAll 8192 stream).tail [] with
      | none => rfl
      | some conns =>
        simp only [Option.bind_some, Option.pure_def]
        cases handOver add conns state with
        | none => rfl
        | some next => rfl

/-- The two tables of one protocol, of which the second may be missing. -/
theorem procNetBoth_collects (goesOn : NeverStops add) (flags type : UInt32) (file file6 : Except Int (List UInt8)) :
    Collects add (procNetBoth add flags type file file6) (procNetBoth collectRow flags type file file6) := by
  by_cases off : flags &&& type = 0
  · have both : Collects add (fun state => some ((0 : Int), state)) fun conns => some (0, conns) := .pure add 0
    unfold procNetBoth
    simpa only [if_pos off] using both
  · have second := (procNetRead_collects goesOn flags type file6).mapStatus fun status =>
      if status = ENOENT then 0 else status
    have both := Collects.andThen goesOn (procNetRead_collects goesOn flags type file) second
    unfold procNetBoth
    simp only [if_neg off]
    simp only [Option.map_eq_bind] at both
    exact both

theorem sysmNetConnectionWalk_collects (goesOn : NeverStops add) (flags : UInt32) (files : NetFiles) :
    Collects add (sysmNetConnectionWalk add flags files) (sysmNetConnectionWalk collectRow flags files) :=
  .andThen goesOn (procNetBoth_collects goesOn flags netconnTcp files.tcp files.tcp6)
    (.andThen goesOn (procNetBoth_collects goesOn flags netconnUdp files.udp files.udp6)
      (procNetBoth_collects goesOn flags netconnRaw files.raw files.raw6))

/-- A walk gives its walker the parsed rows in their order. -/
theorem sysmNetConnectionWalk_parsedRows (goesOn : NeverStops add) (flags : UInt32) (files : NetFiles) (state : σ) :
    sysmNetConnectionWalk add flags files state =
      (parsedRows flags files).bind fun result => (handOver add result.2 state).map fun next => (result.1, next) :=
  (sysmNetConnectionWalk_collects goesOn flags files).walks state

/-- A walker that takes every row and keeps an invariant of the rows so far
keeps it over all the rows. -/
theorem handOver_invariant {inv : σ → List SysmNetConnection → Prop} {fits : SysmNetConnection → Prop}
    (step : ∀ state done conn, inv state done → fits conn →
      ∃ next, add conn state = some (0, next) ∧ inv next (done ++ [conn]))
    {conns done : List SysmNetConnection} {state : σ} (holds : inv state done) (all : ∀ conn ∈ conns, fits conn) :
    ∃ final, handOver add conns state = some final ∧ inv final (done ++ conns) := by
  induction conns generalizing state done with
  | nil => exact ⟨state, rfl, by simpa using holds⟩
  | cons conn conns ih =>
    obtain ⟨next, one, holds'⟩ := step state done conn holds (all conn (by simp))
    obtain ⟨final, run, holds''⟩ := ih holds' fun other member => all other (by simp [member])
    refine ⟨final, ?_, by simpa using holds''⟩
    simp only [handOver, one, Option.bind_eq_bind, Option.bind_some, ne_eq, not_true_eq_false, if_false, run]

end Collected

section EachRow

variable {suits : SysmNetConnection → Prop} {conns conns' : List SysmNetConnection} {status : Int}

theorem procNetLines_each {flags type : UInt32}
    (parses : ∀ line conn, procNetLine flags type line = some (some conn) → suits conn) {lines : List Text}
    (run : procNetLines collectRow flags type lines conns = some conns') (before : ∀ conn ∈ conns, suits conn) :
    ∀ conn ∈ conns', suits conn := by
  induction lines generalizing conns with
  | nil =>
    cases Option.some.inj run
    exact before
  | cons line lines ih =>
    obtain ⟨row, parsed, rest⟩ := Option.bind_eq_some_iff.mp run
    cases row with
    | none => exact ih rest before
    | some conn =>
      refine ih rest fun other member => ?_
      rcases List.mem_append.mp member with old | new
      · exact before other old
      · rw [List.mem_singleton.mp new]
        exact parses line conn parsed

theorem procNetRead_each {flags type : UInt32}
    (parses : ∀ line conn, procNetLine flags type line = some (some conn) → suits conn) {file : Except Int (List UInt8)}
    (run : procNetRead collectRow flags type file conns = some (status, conns')) (before : ∀ conn ∈ conns, suits conn) :
    ∀ conn ∈ conns', suits conn := by
  cases file with
  | error errno =>
    cases Option.some.inj run
    exact before
  | ok stream =>
    obtain ⟨later, lines, rest⟩ := Option.bind_eq_some_iff.mp run
    cases Option.some.inj rest
    exact procNetLines_each parses lines before

theorem procNetBoth_each {flags type : UInt32}
    (parses : ∀ line conn, procNetLine flags type line = some (some conn) → suits conn)
    {file file6 : Except Int (List UInt8)}
    (run : procNetBoth collectRow flags type file file6 conns = some (status, conns'))
    (before : ∀ conn ∈ conns, suits conn) : ∀ conn ∈ conns', suits conn := by
  unfold procNetBoth at run
  split_ifs at run with off
  · cases Option.some.inj run
    exact before
  · obtain ⟨⟨first, middle⟩, read, rest⟩ := Option.bind_eq_some_iff.mp run
    have half := procNetRead_each parses read before
    by_cases failed : first ≠ 0
    · simp only [if_pos failed] at rest
      cases Option.some.inj rest
      exact half
    · simp only [if_neg failed] at rest
      obtain ⟨⟨second, later⟩, read6, last⟩ := Option.bind_eq_some_iff.mp rest
      cases Option.some.inj last
      exact procNetRead_each parses read6 half

/-- What holds of every row that a line can be read as holds of all parsed rows. -/
theorem parsedRows_each {flags : UInt32}
    (parses : ∀ type line conn, procNetLine flags type line = some (some conn) → suits conn) {files : NetFiles}
    (run : parsedRows flags files = some (status, conns)) : ∀ conn ∈ conns, suits conn := by
  obtain ⟨⟨first, afterTcp⟩, tcp, rest⟩ := Option.bind_eq_some_iff.mp run
  have tcpRows := procNetBoth_each (parses netconnTcp) tcp (by simp)
  by_cases failed : first ≠ 0
  · simp only [if_pos failed] at rest
    cases Option.some.inj rest
    exact tcpRows
  · simp only [if_neg failed] at rest
    obtain ⟨⟨second, afterUdp⟩, udp, rest⟩ := Option.bind_eq_some_iff.mp rest
    have udpRows := procNetBoth_each (parses netconnUdp) udp tcpRows
    by_cases failed : second ≠ 0
    · simp only [if_pos failed] at rest
      cases Option.some.inj rest
      exact udpRows
    · simp only [if_neg failed] at rest
      exact procNetBoth_each (parses netconnRaw) rest udpRows

/-- The address of a row is one of IPv4 or IPv6. -/
def SysmNetAddress.IsInet : SysmNetAddress → Prop
  | .inet _ => True
  | .inet6 _ => True
  | _ => False

theorem convertHexAddress_isInet {ptr : Text} {len : Nat} {address : SysmNetAddress}
    (run : convertHexAddress ptr len = some address) : address.IsInet := by
  unfold convertHexAddress at run
  split_ifs at run with long exact
  · obtain ⟨first, _, rest⟩ := Option.bind_eq_some_iff.mp run
    obtain ⟨_, _, rest⟩ := Option.bind_eq_some_iff.mp rest
    obtain ⟨second, _, rest⟩ := Option.bind_eq_some_iff.mp rest
    obtain ⟨_, _, rest⟩ := Option.bind_eq_some_iff.mp rest
    obtain ⟨third, _, rest⟩ := Option.bind_eq_some_iff.mp rest
    obtain ⟨_, _, rest⟩ := Option.bind_eq_some_iff.mp rest
    obtain ⟨fourth, _, rest⟩ := Option.bind_eq_some_iff.mp rest
    cases Option.some.inj rest
    trivial
  · obtain ⟨addr, _, rest⟩ := Option.bind_eq_some_iff.mp run
    cases Option.some.inj rest
    trivial
  · cases Option.some.inj run
    trivial

theorem procNetLine_isInet {flags type : UInt32} {line : Text} {conn : SysmNetConnection}
    (run : procNetLine flags type line = some (some conn)) : conn.loAddress.IsInet ∧ conn.reAddress.IsInet := by
  unfold procNetLine at run
  simp only at run
  split_ifs at run with leftOut
  · cases Option.some.inj run
  · obtain ⟨loAddress, readLocal, rest⟩ := Option.bind_eq_some_iff.mp run
    obtain ⟨reAddress, readRemote, rest⟩ := Option.bind_eq_some_iff.mp rest
    obtain ⟨_, _, rest⟩ := Option.bind_eq_some_iff.mp rest
    obtain ⟨_, _, rest⟩ := Option.bind_eq_some_iff.mp rest
    obtain ⟨_, _, rest⟩ := Option.bind_eq_some_iff.mp rest
    obtain ⟨_, _, rest⟩ := Option.bind_eq_some_iff.mp rest
    obtain ⟨_, _, rest⟩ := Option.bind_eq_some_iff.mp rest
    obtain ⟨_, _, rest⟩ := Option.bind_eq_some_iff.mp rest
    cases Option.some.inj rest
    exact ⟨convertHexAddress_isInet readLocal, convertHexAddress_isInet readRemote⟩

end EachRow

end Sysm
