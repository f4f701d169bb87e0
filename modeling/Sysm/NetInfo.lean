import Sysm.NetRoute

namespace Sysm
open CString

/-- The keyword of a line of `/etc/resolv.conf` that names a server. -/
def nameserver : Text := ofString "nameserver"

/-- The first word of a line. -/
def firstWord (line : Text) : Text := (skipSpace line).takeWhile fun c => !isSpace c

/-- What follows the first word, from the second one on. -/
def behindWord (line : Text) : Text := skipSpace ((skipSpace line).dropWhile fun c => !isSpace c)

/-- The address of a line whose first word is `nameserver`: its second word. Any
other line, a comment or another directive, has none. -/
def serverAddress (line : Text) : Option Text :=
  let address := (behindWord line).takeWhile fun c => !isSpace c
  if firstWord line = nameserver ∧ address ≠ [] then some address else none

/-- What follows the address, with the newline. -/
def behindAddress (line : Text) : Text := (behindWord line).dropWhile fun c => !isSpace c

/-- The text that `sysm_net_info_get` takes from a line. -/
def lineText (line : Text) : Text :=
  let ptr := skipSpace line
  if ptr.head? = some 35 then []
  else
    match strstr nameserver ptr with
    | none => []
    | some ptr => (skipSpace (ptr.drop 10)).dropLast

/-- Where in the buffer `sysm_net_info_get` clears the byte before the end of
the text: the place of `ptr[len - 1]`. -/
def clearedAt (line : Text) : Option Int :=
  let ptr := skipSpace line
  if ptr.head? = some 35 then none
  else
    match strstr nameserver ptr with
    | none => none
    | some ptr =>
      let ptr := skipSpace (ptr.drop 10)
      let len : Int := ptr.length
      some (((line.length - ptr.length : Nat) : Int) + (len - 1))

/-- The texts of these lines. -/
def lineTexts (lines : List Text) : List Text := (lines.map lineText).filter fun text => text ≠ []

/-- A text for `/etc/resolv.conf`: its lines, and what follows the last newline. -/
structure ResolvConf where
  lines : List Text
  last : Text
  plain : (∀ line ∈ lines, ∀ c ∈ line, c ≠ 10 ∧ c ≠ 0) ∧ ∀ c ∈ last, c ≠ 10 ∧ c ≠ 0
  addresses : ∀ line ∈ lines.map (· ++ [10]) ++ [last], ∀ address, serverAddress line = some address → address.length ≤ 45

namespace ResolvConf

variable (conf : ResolvConf)

/-- The lines with their newlines. -/
def raw : List Text := conf.lines.map (· ++ [10]) ++ [conf.last]

def text : List UInt8 := conf.raw.flatten

/-- The addresses of the name servers. -/
def servers : List Text := conf.raw.filterMap serverAddress

end ResolvConf

/-- Up to the second name server each line of a server fits into the buffer and
has one byte behind the address, which is the newline if there is one, and no
text is taken from the other lines, which are read in pieces if they are too long. -/
def ReadsServers : Nat → List Text → Prop
  | 0, _ => True
  | _, [] => True
  | count + 1, line :: lines =>
    if serverAddress line = none then (∀ piece ∈ fgetsAll BUFSIZ line, lineText piece = []) ∧ ReadsServers (count + 1) lines
    else (line.length < BUFSIZ ∧ (behindAddress line).length = 1) ∧ ReadsServers count lines

instance ReadsServers.decidable : (count : Nat) → (lines : List Text) → Decidable (ReadsServers count lines)
  | 0, [] => .isTrue trivial
  | 0, _ :: _ => .isTrue trivial
  | _ + 1, [] => .isTrue trivial
  | count + 1, line :: lines =>
    have := ReadsServers.decidable (count + 1) lines
    have := ReadsServers.decidable count lines
    inferInstanceAs (Decidable (if serverAddress line = none then
      (∀ piece ∈ fgetsAll BUFSIZ line, lineText piece = []) ∧ ReadsServers (count + 1) lines
    else (line.length < BUFSIZ ∧ (behindAddress line).length = 1) ∧ ReadsServers count lines))

section Line

variable {line address : Text}

theorem span_line (line : Text) : firstWord line ++ (skipSpace line).dropWhile (fun c => !isSpace c) = skipSpace line :=
  List.takeWhile_append_dropWhile

theorem strstr_prefix (word rest : Text) : strstr word (word ++ rest) = some (word ++ rest) := by
  cases joined : word ++ rest with
  | nil =>
    have empty : word = [] := (List.append_eq_nil_iff.mp joined).1
    rw [empty]
    rfl
  | cons c others =>
    have starts : word.isPrefixOf (c :: others) = true := by
      rw [← joined, List.isPrefixOf_iff_prefix]
      exact List.prefix_append _ _
    rw [strstr, if_pos starts]

theorem strstr_suffix {word text found : Text} (here : strstr word text = some found) :
    found <:+ text ∧ word.length ≤ found.length := by
  induction text with
  | nil =>
    rw [strstr, Option.ite_none_right_eq_some] at here
    obtain ⟨empty, same⟩ := here
    cases same
    exact ⟨List.suffix_refl _, by simpa using empty⟩
  | cons c text ih =>
    rw [strstr] at here
    by_cases starts : word.isPrefixOf (c :: text) = true
    · rw [if_pos starts] at here
      cases here
      exact ⟨List.suffix_refl _, (List.isPrefixOf_iff_prefix.mp starts).length_le⟩
    · rw [if_neg starts] at here
      obtain ⟨suffix, long⟩ := ih here
      exact ⟨suffix.trans (List.suffix_cons c text), long⟩

/-- Even if nothing follows the keyword the cleared byte is one of the line: the last one. -/
theorem clearedAt_inside {place : Int} (cleared : clearedAt line = some place) : 0 ≤ place ∧ place < line.length := by
  unfold clearedAt at cleared
  by_cases comment : (skipSpace line).head? = some 35
  · simp only [if_pos comment] at cleared
    cases cleared
  · cases found : strstr nameserver (skipSpace line) with
    | none =>
      simp only [if_neg comment, found] at cleared
      cases cleared
    | some ptr =>
      simp only [if_neg comment, found] at cleared
      obtain ⟨suffix, long⟩ := strstr_suffix found
      have ten : nameserver.length = 10 := by decide
      have inside := (suffix.trans (List.dropWhile_suffix _)).length_le
      have behind : skipSpace (ptr.drop 10) <:+ ptr := (List.dropWhile_suffix _).trans (List.drop_suffix 10 ptr)
      have behind := behind.length_le
      cases cleared
      omega

/-- From the line of a name server the address is taken, with what follows it
but for the last byte. -/
theorem lineText_server (server : serverAddress line = some address) :
    lineText line = (address ++ behindAddress line).dropLast := by
  obtain ⟨⟨word, _⟩, same⟩ := Option.ite_none_right_eq_some.mp server
  have shape := span_line line
  rw [word] at shape
  have letter : (skipSpace line).head? ≠ some 35 := by
    rw [← shape, nameserver, ofString]
    simp
  have found : strstr nameserver (skipSpace line) = some (skipSpace line) := by
    rw [← shape]
    exact strstr_prefix _ _
  have behind : (skipSpace line).drop 10 = (skipSpace line).dropWhile fun c => !isSpace c := by
    have ten : nameserver.length = 10 := by decide
    nth_rewrite 1 [← shape]
    rw [← ten, List.drop_left]
  have parts : address ++ behindAddress line = behindWord line := by
    cases same
    exact List.takeWhile_append_dropWhile
  simp only [lineText, if_neg letter, found, behind, parts]
  rfl

theorem address_ne_nil (server : serverAddress line = some address) : address ≠ [] := by
  obtain ⟨⟨_, nonempty⟩, same⟩ := Option.ite_none_right_eq_some.mp server
  cases same
  exact nonempty

/-- It is the address alone exactly if one byte follows it. -/
theorem lineText_eq_address (server : serverAddress line = some address) :
    lineText line = address ↔ (behindAddress line).length = 1 := by
  have positive := List.length_pos_of_ne_nil (address_ne_nil server)
  rw [lineText_server server]
  constructor
  · intro same
    have length := congrArg List.length same
    rw [List.length_dropLast, List.length_append] at length
    omega
  · intro one
    obtain ⟨c, single⟩ := List.length_eq_one_iff.mp one
    rw [single, List.dropLast_concat]

end Line

section Loop

variable {netInfo netInfo' : SysmNetInfo} {lines : List Text}

/-- The loop on the texts of the lines. -/
def storeTexts (netInfo : SysmNetInfo) : List Text → Option SysmNetInfo
  | [] => some netInfo
  | text :: texts =>
    if netInfo.primaryDns = [] then
      if text.length < sysmInet6AddrStrLen then storeTexts { netInfo with primaryDns := text } texts else none
    else if netInfo.secondaryDns = [] then
      if text.length < sysmInet6AddrStrLen then storeTexts { netInfo with secondaryDns := text } texts else none
    else some netInfo

/-- Both fields are set. -/
theorem storeTexts_full (primary : netInfo.primaryDns ≠ []) (secondary : netInfo.secondaryDns ≠ []) (texts : List Text) :
    storeTexts netInfo texts = some netInfo := by
  cases texts with
  | nil => rfl
  | cons text texts => rw [storeTexts, if_neg primary, if_neg secondary]

theorem lineTexts_cons (line : Text) (lines : List Text) :
    lineTexts (line :: lines) = if lineText line = [] then lineTexts lines else lineText line :: lineTexts lines := by
  unfold lineTexts
  by_cases empty : lineText line = []
  · rw [if_pos empty, List.map_cons, List.filter_cons_of_neg (by simp [empty])]
  · rw [if_neg empty, List.map_cons, List.filter_cons_of_pos (by simp [empty])]

/-- Lines without a text do not matter. -/
theorem netInfoDns_texts (netInfo : SysmNetInfo) (lines : List Text) :
    netInfoDns netInfo lines = storeTexts netInfo (lineTexts lines) := by
  induction lines generalizing netInfo with
  | nil => rfl
  | cons line lines ih =>
    have word : ofString "nameserver" = nameserver := rfl
    rw [lineTexts_cons, netInfoDns, word]
    by_cases comment : (skipSpace line).head? = some 35
    · have noText : lineText line = [] := if_pos comment
      simp only [if_pos comment, if_pos noText, ih]
    · cases found : strstr nameserver (skipSpace line) with
      | none =>
        have noText : lineText line = [] := by simp only [lineText, if_neg comment, found]
        simp only [if_neg comment, if_pos noText, ih]
      | some ptr =>
        have text : (skipSpace (ptr.drop 10)).dropLast = lineText line := by simp only [lineText, if_neg comment, found]
        simp only [if_neg comment, text]
        by_cases empty : lineText line = []
        · simp only [empty]
          by_cases primary : netInfo.primaryDns = []
          · have same : { netInfo with primaryDns := [] } = netInfo := by rw [← primary]
            simp only [if_pos primary, same, ih]
            rfl
          · by_cases secondary : netInfo.secondaryDns = []
            · have same : { netInfo with secondaryDns := [] } = netInfo := by rw [← secondary]
              simp only [if_neg primary, if_pos secondary, same, ih]
              rfl
            · simp only [if_neg primary, if_neg secondary, storeTexts_full primary secondary]
        · simp only [if_neg empty, storeTexts, ih]

/-- The first two texts are stored, if they fit. -/
theorem storeTexts_zero (texts : List Text) (nonempty : ∀ text ∈ texts, text ≠ []) :
    storeTexts .zero texts =
      if ∀ text ∈ texts.take 2, text.length < sysmInet6AddrStrLen then
        some { SysmNetInfo.zero with primaryDns := texts.getD 0 [], secondaryDns := texts.getD 1 [] }
      else none := by
  have unset : SysmNetInfo.zero.primaryDns = [] := rfl
  have unset' : SysmNetInfo.zero.secondaryDns = [] := rfl
  cases texts with
  | nil => rfl
  | cons first texts =>
    have here := nonempty first (List.mem_cons_self ..)
    rw [storeTexts, if_pos unset]
    by_cases fits : first.length < sysmInet6AddrStrLen
    · rw [if_pos fits]
      cases texts with
      | nil =>
        rw [if_pos (by simpa using fits)]
        rfl
      | cons second texts =>
        have there := nonempty second (by simp)
        simp only [storeTexts, if_neg here, if_pos unset']
        by_cases fits' : second.length < sysmInet6AddrStrLen
        · rw [if_pos fits', storeTexts_full here there, if_pos (by simpa using ⟨fits, fits'⟩)]
          rfl
        · rw [if_neg fits', if_neg (by simpa using fun _ => Nat.le_of_not_lt fits')]
    · rw [if_neg fits, if_neg (by simp only [List.take_succ_cons, List.forall_mem_cons]; exact fun both => fits both.1)]

end Loop

section Read

variable {lines : List Text} {last : Text} (plain : ∀ line ∈ lines, ∀ c ∈ line, c ≠ 10 ∧ c ≠ 0)
  (plainLast : ∀ c ∈ last, c ≠ 10 ∧ c ≠ 0)

/-- The texts that are taken from a line. -/
def textsOf (line : Text) : List Text := lineTexts (fgetsAll BUFSIZ line)

theorem lineTexts_append (lines others : List Text) : lineTexts (lines ++ others) = lineTexts lines ++ lineTexts others := by
  rw [lineTexts, List.map_append, List.filter_append]
  rfl

theorem textsOf_eq_nil {line : Text} : textsOf line = [] ↔ ∀ piece ∈ fgetsAll BUFSIZ line, lineText piece = [] := by
  simp [textsOf, lineTexts, List.filter_eq_nil_iff]

theorem mem_textsOf {line text : Text} (member : text ∈ textsOf line) :
    text ≠ [] ∧ ∃ piece ∈ fgetsAll BUFSIZ line, lineText piece = text := by
  obtain ⟨among, nonempty⟩ := List.mem_filter.mp member
  exact ⟨by simpa using nonempty, List.mem_map.mp among⟩

include plain in
/-- They are taken from one line after the other. -/
theorem lineTexts_lines : lineTexts (fgetsAll BUFSIZ (lines.map (· ++ [10]) ++ [last]).flatten) =
    (lines.map (· ++ [10]) ++ [last]).flatMap textsOf := by
  induction lines with
  | nil => simp [textsOf]
  | cons line lines ih =>
    have others := ih fun other member => plain other (List.mem_cons_of_mem _ member)
    have big : 2 ≤ BUFSIZ := by decide
    rw [List.map_cons, List.cons_append, List.flatten_cons, List.append_assoc, List.singleton_append,
      fgetsAll_split big _ fun c member => (plain line (List.mem_cons_self ..) c member).1, lineTexts_append, others,
      List.flatMap_cons]
    rfl

/-- A line that fits is read as it is. -/
theorem fgetsAll_newline {line : Text} (plain : ∀ c ∈ line, c ≠ 10 ∧ c ≠ 0) (fits : (line ++ [10]).length < BUFSIZ) :
    fgetsAll BUFSIZ (line ++ [10]) = [line ++ [10]] := by
  rw [List.length_append, List.length_singleton] at fits
  exact fgetsAll_line plain fits

include plainLast in
/-- So is what follows the last newline. -/
theorem fgetsAll_last (nonempty : last ≠ []) (fits : last.length < BUFSIZ) : fgetsAll BUFSIZ last = [last] := by
  have big : 2 ≤ BUFSIZ := by decide
  have taken : takeLine (BUFSIZ - 1) last = (last, []) :=
    takeLine_whole (fun c member => (plainLast c member).1) (by omega)
  have noNul : ∀ c ∈ last, c ≠ 0 := fun c member => (plainLast c member).2
  rw [fgetsAll_step big nonempty taken, ofBuffer_of_no_nul noNul]
  rfl

/-- The text of a server's line that is read as it is. -/
theorem textsOf_server {line address : Text} (server : serverAddress line = some address) (read : fgetsAll BUFSIZ line = [line]) :
    textsOf line = [address] ↔ (behindAddress line).length = 1 := by
  rw [← lineText_eq_address server, textsOf, read, lineTexts_cons]
  by_cases empty : lineText line = []
  · rw [if_pos empty, empty]
    exact iff_of_false (by simp [lineTexts]) fun same => address_ne_nil server same.symm
  · rw [if_neg empty]
    simp [lineTexts]

end Read

/-- Behind the address of a line that has a newline there is the newline at least. -/
theorem behindAddress_ne_nil {line address : Text} (server : serverAddress (line ++ [10]) = some address) :
    behindAddress (line ++ [10]) ≠ [] := by
  intro empty
  obtain ⟨_, same⟩ := Option.ite_none_right_eq_some.mp server
  have parts : address ++ behindAddress (line ++ [10]) = behindWord (line ++ [10]) := by
    cases same
    exact List.takeWhile_append_dropWhile
  rw [empty, List.append_nil] at parts
  have suffix : address <:+ line ++ [10] := by
    rw [parts, behindWord, skipSpace, skipSpace]
    exact ((List.dropWhile_suffix _).trans (List.dropWhile_suffix _)).trans (List.dropWhile_suffix _)
  obtain ⟨before, whole⟩ := suffix
  have split := List.dropLast_append_getLast (address_ne_nil server)
  rw [← split, ← List.append_assoc] at whole
  have newline : address.getLast (address_ne_nil server) = 10 := by simpa using (List.append_inj' whole rfl).2
  have member : (10 : UInt8) ∈ address := newline ▸ List.getLast_mem _
  have same := Option.some.inj same
  rw [← same] at member
  have visible := List.mem_takeWhile_imp member
  exact absurd visible (by decide)

section Servers

variable {lines raw : List Text} {line last address : Text} {servers : List Text}

/-- As long as the lines are read right, the texts are the addresses. -/
theorem texts_of_reads (whole : ∀ line ∈ raw, serverAddress line ≠ none → line.length < BUFSIZ → fgetsAll BUFSIZ line = [line])
    {count : Nat} (reads : ReadsServers count raw) :
    ∃ more, raw.flatMap textsOf = (raw.filterMap serverAddress).take count ++ more ∧
      ((raw.filterMap serverAddress).length < count → more = []) := by
  induction raw generalizing count with
  | nil => exact ⟨[], by simp, fun _ => rfl⟩
  | cons line raw ih =>
    cases count with
    | zero => exact ⟨_, rfl, fun never => absurd never (Nat.not_lt_zero _)⟩
    | succ count =>
      have others := @ih fun other member => whole other (List.mem_cons_of_mem _ member)
      rw [ReadsServers] at reads
      rw [List.flatMap_cons]
      cases server : serverAddress line with
      | none =>
        rw [if_pos server] at reads
        rw [textsOf_eq_nil.mpr reads.1, List.nil_append, List.filterMap_cons_none server]
        exact others reads.2
      | some address =>
        rw [if_neg (by simp [server])] at reads
        have read := whole line (List.mem_cons_self ..) (by simp [server]) reads.1.1
        obtain ⟨more, same, short⟩ := others reads.2
        rw [(textsOf_server server read).mpr reads.1.2, List.filterMap_cons_some server, same]
        refine ⟨more, by rw [List.take_succ_cons]; rfl, fun few => short ?_⟩
        rw [List.length_cons] at few
        omega

/-- No text of another line is the first address by chance. -/
theorem textsOf_other (apart : ∀ piece ∈ fgetsAll BUFSIZ line, lineText piece ∉ servers) {texts addresses : List Text}
    (within : ∀ address ∈ addresses, address ∈ servers) (first : (textsOf line ++ texts).getD 0 [] = addresses.getD 0 []) :
    textsOf line = [] := by
  cases taken : textsOf line with
  | nil => rfl
  | cons text more =>
    obtain ⟨nonempty, piece, among, same⟩ := mem_textsOf (taken ▸ List.mem_cons_self .. : text ∈ textsOf line)
    rw [taken, List.cons_append, List.getD_cons_zero] at first
    cases addresses with
    | nil => exact absurd first nonempty
    | cons address others =>
      rw [List.getD_cons_zero] at first
      have member := within address (List.mem_cons_self ..)
      rw [← first, ← same] at member
      exact absurd member (apart piece among)

/-- The text of a line with a newline is not empty. -/
theorem lineText_newline (server : serverAddress (line ++ [10]) = some address) : lineText (line ++ [10]) ≠ [] := by
  have visible := List.length_pos_of_ne_nil (address_ne_nil server)
  have more := List.length_pos_of_ne_nil (behindAddress_ne_nil server)
  refine List.ne_nil_of_length_pos ?_
  rw [lineText_server server, List.length_dropLast, List.length_append]
  omega

/-- The last line, which may have no newline. -/
theorem reads_of_lastText (plainLast : ∀ c ∈ last, c ≠ 10 ∧ c ≠ 0) (fits : serverAddress last ≠ none → last.length < BUFSIZ)
    (within : ∀ address ∈ [last].filterMap serverAddress, address ∈ servers)
    (apart : serverAddress last = none → ∀ piece ∈ fgetsAll BUFSIZ last, lineText piece ∉ servers) {count : Nat}
    (first : 0 < count → ([last].flatMap textsOf).getD 0 [] = ([last].filterMap serverAddress).getD 0 []) :
    ReadsServers count [last] := by
  cases count with
  | zero => exact trivial
  | succ count =>
    have first := first (Nat.succ_pos _)
    have nothing (count : Nat) : ReadsServers count [] := by
      cases count with
      | zero => exact trivial
      | succ count => exact trivial
    rw [ReadsServers]
    cases server : serverAddress last with
    | none =>
      rw [if_pos rfl]
      exact ⟨textsOf_eq_nil.mp (textsOf_other (apart server) within first), nothing _⟩
    | some address =>
      rw [if_neg (by simp)]
      have short := fits (by simp [server])
      have nonempty : last ≠ [] := by
        intro empty
        have nothing : serverAddress [] = none := by decide
        rw [empty, nothing] at server
        cases server
      refine ⟨⟨short, (lineText_eq_address server).mp ?_⟩, nothing _⟩
      rw [List.filterMap_cons_some server, List.getD_cons_zero, List.flatMap_singleton, textsOf,
        fgetsAll_last plainLast nonempty short, lineTexts_cons] at first
      by_cases empty : lineText last = []
      · rw [if_pos empty] at first
        exact absurd first.symm (address_ne_nil server)
      · rwa [if_neg empty] at first

/-- If the first texts are the addresses, the lines are read right, unless the
text of another line is an address by chance. -/
theorem reads_of_texts (plain : ∀ line ∈ lines, ∀ c ∈ line, c ≠ 10 ∧ c ≠ 0) (plainLast : ∀ c ∈ last, c ≠ 10 ∧ c ≠ 0)
    (fits : ∀ line ∈ lines.map (· ++ [10]) ++ [last], serverAddress line ≠ none → line.length < BUFSIZ)
    (within : ∀ address ∈ (lines.map (· ++ [10]) ++ [last]).filterMap serverAddress, address ∈ servers)
    (apart : ∀ line ∈ lines.map (· ++ [10]) ++ [last], serverAddress line = none →
      ∀ piece ∈ fgetsAll BUFSIZ line, lineText piece ∉ servers) {count : Nat}
    (same : ∀ k < count, ((lines.map (· ++ [10]) ++ [last]).flatMap textsOf).getD k [] =
      ((lines.map (· ++ [10]) ++ [last]).filterMap serverAddress).getD k []) :
    ReadsServers count (lines.map (· ++ [10]) ++ [last]) := by
  induction lines generalizing count with
  | nil => exact reads_of_lastText plainLast (fits last (by simp)) within (apart last (by simp)) fun nonempty => same 0 nonempty
  | cons line lines ih =>
    cases count with
    | zero => exact trivial
    | succ count =>
      have first := same 0 (Nat.succ_pos _)
      have plain' := fun other member => plain other (List.mem_cons_of_mem _ member)
      have fits' := fun other member => fits other (List.mem_cons_of_mem _ member)
      have apart' := fun other member => apart other (List.mem_cons_of_mem _ member)
      rw [List.map_cons, List.cons_append] at first same within ⊢
      rw [ReadsServers]
      rw [List.flatMap_cons] at first same
      cases server : serverAddress (line ++ [10]) with
      | none =>
        rw [List.filterMap_cons_none server] at first within same
        rw [if_pos rfl]
        have empty := textsOf_other (apart _ (List.mem_cons_self ..) server) within first
        rw [empty, List.nil_append] at same
        exact ⟨textsOf_eq_nil.mp empty, ih plain' fits' within apart' same⟩
      | some address =>
        rw [List.filterMap_cons_some server] at first within same
        rw [if_neg (by simp)]
        have short := fits _ (List.mem_cons_self ..) (by simp [server])
        have read := fgetsAll_newline (plain line (List.mem_cons_self ..)) short
        have taken : textsOf (line ++ [10]) = [lineText (line ++ [10])] := by
          rw [textsOf, read, lineTexts_cons, if_neg (lineText_newline server)]
          rfl
        rw [taken, List.singleton_append] at first same
        rw [List.getD_cons_zero, List.getD_cons_zero] at first
        refine ⟨⟨short, (lineText_eq_address server).mp first⟩,
          ih plain' fits' (fun other member => within other (List.mem_cons_of_mem _ member)) apart' fun k inside => ?_⟩
        have next := same (k + 1) (by omega)
        rwa [List.getD_cons_succ, List.getD_cons_succ] at next

end Servers

section Info

variable (inetNtop : UInt32 × UInt32 × UInt32 × UInt32 → Except Int Text) (memory : Nat → SysmNetRoute) (files : NetInfoFiles)

/-- The two fields have the addresses of the first two name servers, or the
empty string where there is none, and no byte before a line is cleared. -/
def SetsServers (conf : ResolvConf) : Prop :=
  ∃ status netInfo, sysmNetInfoGet inetNtop memory { files with resolvConf := some conf.text } = some (status, netInfo) ∧
    netInfo.primaryDns = conf.servers.getD 0 [] ∧ netInfo.secondaryDns = conf.servers.getD 1 [] ∧
    ∀ line ∈ fgetsAll BUFSIZ conf.text, ∀ place, clearedAt line = some place → 0 ≤ place ∧ place < line.length

variable {inetNtop memory files}

/-- The gateway is looked for behind that, and leaves the two fields alone. -/
theorem sysmGetDefaultGateway_dns {file : Except Int (List UInt8)} {netInfo : SysmNetInfo}
    (route : ∃ result, sysmNetRouteListGet memory file = some result) :
    ∃ status netInfo', sysmGetDefaultGateway inetNtop memory file netInfo = some (status, netInfo') ∧
      netInfo'.primaryDns = netInfo.primaryDns ∧ netInfo'.secondaryDns = netInfo.secondaryDns := by
  obtain ⟨result, listed⟩ := route
  simp only [sysmGetDefaultGateway, listed, Option.bind_eq_bind, Option.bind_some]
  cases result with
  | error status => exact ⟨status, netInfo, rfl, rfl, rfl⟩
  | ok routeList =>
    cases found : routeList.items.find? fun route =>
        route.flags &&& sysmRtfGateway != 0 && route.destination.addrIn == 0 with
    | none =>
      refine ⟨0, netInfo, ?_, rfl, rfl⟩
      simp only [found, Option.pure_def]
    | some route =>
      refine ⟨0, { netInfo with
        defaultGateway := (sysmNetAddressToString inetNtop route.gateway).2
        defaultGatewayInterface := route.ifname.take maxInterfaceNameLen }, ?_, rfl, rfl⟩
      simp only [found, Option.pure_def]

/-- What matters are the first two texts. -/
theorem setsServers_texts (route : ∃ result, sysmNetRouteListGet memory files.route = some result) (conf : ResolvConf) :
    SetsServers inetNtop memory files conf ↔
      (∀ text ∈ (lineTexts (fgetsAll BUFSIZ conf.text)).take 2, text.length < sysmInet6AddrStrLen) ∧
        ∀ k < 2, (lineTexts (fgetsAll BUFSIZ conf.text)).getD k [] = conf.servers.getD k [] := by
  have texts := storeTexts_zero (lineTexts (fgetsAll BUFSIZ conf.text)) fun text member => by
    simpa using (List.mem_filter.mp member).2
  rw [← netInfoDns_texts] at texts
  by_cases fits : ∀ text ∈ (lineTexts (fgetsAll BUFSIZ conf.text)).take 2, text.length < sysmInet6AddrStrLen
  · rw [if_pos fits] at texts
    obtain ⟨status, netInfo, gateway, primary, secondary⟩ := @sysmGetDefaultGateway_dns inetNtop memory files.route
      { SysmNetInfo.zero with
        primaryDns := (lineTexts (fgetsAll BUFSIZ conf.text)).getD 0 []
        secondaryDns := (lineTexts (fgetsAll BUFSIZ conf.text)).getD 1 []
        hostName := (files.hostName.getD []).take 255
        domainName := (files.domainName.getD []).take 255 } route
    have run : sysmNetInfoGet inetNtop memory { files with resolvConf := some conf.text } = some (0, netInfo) := by
      simp only [sysmNetInfoGet, Option.getD_some, texts, Option.bind_eq_bind, Option.bind_some, gateway, Option.pure_def]
    rw [and_iff_right fits]
    constructor
    · rintro ⟨status', netInfo', run', primary', secondary', _⟩ k small
      cases run.symm.trans run'
      obtain rfl | rfl : k = 0 ∨ k = 1 := by omega
      · exact primary.symm.trans primary'
      · exact secondary.symm.trans secondary'
    · intro same
      exact ⟨0, netInfo, run, primary.trans (same 0 (by omega)), secondary.trans (same 1 (by omega)),
        fun line _ place cleared => clearedAt_inside cleared⟩
  · rw [if_neg fits] at texts
    refine iff_of_false ?_ fun both => fits both.1
    rintro ⟨status, netInfo, run, _⟩
    simp only [sysmNetInfoGet, Option.getD_some, texts, Option.bind_eq_bind, Option.bind_none] at run
    cases run

theorem ResolvConf.servers_short (conf : ResolvConf) {address : Text} (member : address ∈ conf.servers) :
    address ≠ [] ∧ address.length < sysmInet6AddrStrLen := by
  obtain ⟨line, among, server⟩ := List.mem_filterMap.mp member
  have short := conf.addresses line among address server
  have room : sysmInet6AddrStrLen = 46 := rfl
  exact ⟨address_ne_nil server, by omega⟩

/-- A line of a server that fits into the buffer is read as it is. -/
theorem ResolvConf.whole (conf : ResolvConf) {line : Text} (member : line ∈ conf.raw) (server : serverAddress line ≠ none)
    (fits : line.length < BUFSIZ) : fgetsAll BUFSIZ line = [line] := by
  rcases List.mem_append.mp member with newline | last
  · obtain ⟨body, among, same⟩ := List.mem_map.mp newline
    cases same
    exact fgetsAll_newline (conf.plain.1 body among) fits
  · rw [List.mem_singleton.mp last] at server fits ⊢
    refine fgetsAll_last conf.plain.2 (fun empty => server ?_) fits
    rw [empty]
    decide

/-- The addresses are set if the lines up to the second name server are read
right. If the lines of the servers fit into the buffer this is also necessary, unless
the text of a line that is none of a name server happens to be an address. -/
theorem setsServers_of_reads (route : ∃ result, sysmNetRouteListGet memory files.route = some result) (conf : ResolvConf) :
    (ReadsServers 2 conf.raw → SetsServers inetNtop memory files conf) ∧
      ((∀ line ∈ conf.raw, serverAddress line ≠ none → line.length < BUFSIZ) →
        (∀ line ∈ conf.raw, serverAddress line = none → ∀ piece ∈ fgetsAll BUFSIZ line, lineText piece ∉ conf.servers) →
          SetsServers inetNtop memory files conf → ReadsServers 2 conf.raw) := by
  have all : lineTexts (fgetsAll BUFSIZ conf.text) = conf.raw.flatMap textsOf := lineTexts_lines conf.plain.1
  rw [setsServers_texts route, all]
  constructor
  · intro reads
    obtain ⟨more, texts, short⟩ := texts_of_reads (fun line member => conf.whole member) reads
    have texts : conf.raw.flatMap textsOf = conf.servers.take 2 ++ more := texts
    have short : conf.servers.length < 2 → more = [] := short
    have first : (conf.servers.take 2 ++ more).take 2 = conf.servers.take 2 := by
      by_cases few : conf.servers.length < 2
      · rw [short few, List.append_nil, List.take_take, Nat.min_self]
      · exact List.take_left' (by rw [List.length_take]; omega)
    rw [texts, first]
    refine ⟨fun text member => (conf.servers_short (List.mem_of_mem_take member)).2, fun k small => ?_⟩
    have atIndex := congrArg (fun texts => texts[k]?) first
    simp only [List.getElem?_take_of_lt small] at atIndex
    rw [List.getD_eq_getElem?_getD, List.getD_eq_getElem?_getD, atIndex]
  · rintro fits apart ⟨_, same⟩
    exact reads_of_texts conf.plain.1 conf.plain.2 fits (fun address member => member) apart same

end Info

section Samples

/-- An entry of the route list before it is written. -/
def emptyRoute : SysmNetRoute where
  destination := .unspec
  gateway := .unspec
  mask := .unspec
  flags := 0
  refcnt := 0
  use := 0
  metric := 0
  mtu := 0
  window := 0
  irtt := 0
  ifname := []

/-- A file with a comment, a directive and two name servers. -/
def resolvConfSample : ResolvConf where
  lines := [ofString "# local", ofString "search example.org", ofString "nameserver 8.8.8.8", ofString "nameserver\t1.1.1.1"]
  last := []
  plain := by decide +kernel
  addresses := by decide +kernel

/-- A file whose only line has no newline. -/
def resolvConfNoNewline : ResolvConf where
  lines := []
  last := ofString "nameserver 8.8.8.8"
  plain := by decide +kernel
  addresses := by decide +kernel

def netInfoFilesSample : NetInfoFiles where
  resolvConf := none
  hostName := some (ofString "host")
  domainName := some (ofString "example.org")
  route := .error 2

theorem netInfoFilesSample_route : ∃ result, sysmNetRouteListGet (fun _ => emptyRoute) netInfoFilesSample.route = some result :=
  ⟨_, rfl⟩

theorem resolvConfSample_reads : ReadsServers 2 resolvConfSample.raw := by decide +kernel

theorem setsServers_of_reads_sample :
    SetsServers (fun _ => .error 22) (fun _ => emptyRoute) netInfoFilesSample resolvConfSample ∧
      ¬SetsServers (fun _ => .error 22) (fun _ => emptyRoute) netInfoFilesSample resolvConfNoNewline := by
  refine ⟨(setsServers_of_reads netInfoFilesSample_route resolvConfSample).1 resolvConfSample_reads, fun sets => ?_⟩
  have reads := (setsServers_of_reads netInfoFilesSample_route resolvConfNoNewline).2 (by decide +kernel) (by decide +kernel) sets
  exact absurd reads (by decide +kernel)

/-- The last character of the address is lost. -/
theorem not_setsServers_noNewline :
    ¬∀ (inetNtop : UInt32 × UInt32 × UInt32 × UInt32 → Except Int Text) (memory : Nat → SysmNetRoute) (files : NetInfoFiles),
      (∃ result, sysmNetRouteListGet memory files.route = some result) → ∀ conf, SetsServers inetNtop memory files conf := by
  intro all
  have sets := all (fun _ => .error 22) (fun _ => emptyRoute) netInfoFilesSample netInfoFilesSample_route resolvConfNoNewline
  have same := ((setsServers_texts netInfoFilesSample_route resolvConfNoNewline).mp sets).2 0 (by decide)
  exact absurd same (by decide +kernel)

end Samples

end Sysm
