import Mathlib.Data.Bool.AllAny
import Mathlib.Data.List.TakeWhile
import Mathlib.Tactic.IntervalCases

namespace CString

/-- The bytes of a C string before its terminating NUL. A pointer into the
string is the suffix it points at, the empty one being the NUL itself. -/
abbrev Text := List UInt8

def ofString (s : String) : Text := s.toList.map fun c => UInt8.ofNat c.toNat

/-- `isspace` in the C locale -/
def isSpace (c : UInt8) : Bool := c == 32 || (9 ≤ c && c ≤ 13)

def isDigit (c : UInt8) : Bool := 48 ≤ c && c ≤ 57

def isUpper (c : UInt8) : Bool := 65 ≤ c && c ≤ 90

def isLower (c : UInt8) : Bool := 97 ≤ c && c ≤ 122

/-- What a buffer holds as a C string. -/
def ofBuffer (bytes : List UInt8) : Text := bytes.takeWhile (· != 0)

def strchr (c : UInt8) (s : Text) : Option Text :=
  match s.dropWhile (· != c) with
  | [] => none
  | found => some found

def strrchr (c : UInt8) : Text → Option Text
  | [] => none
  | first :: rest => (strrchr c rest).or (if first = c then some (first :: rest) else none)

def strstr (pattern : Text) : Text → Option Text
  | [] => if pattern = [] then some [] else none
  | first :: rest => if pattern.isPrefixOf (first :: rest) then some (first :: rest) else strstr pattern rest

/-- The value of an alphanumeric digit, 36 for any other byte. -/
def digitVal (c : UInt8) : Nat :=
  if isDigit c then c.toNat - 48
  else if isUpper c then c.toNat - 55
  else if isLower c then c.toNat - 87
  else 36

/-- The sign that `strtoul` accepts before the digits. -/
def readSign : Text → Bool × Text
  | 45 :: rest => (true, rest)
  | 43 :: rest => (false, rest)
  | rest => (false, rest)

/-- The prefix `0x` that `strtoul` accepts in base 16, if a digit follows. -/
def skipHexPrefix : Text → Text
  | 48 :: x :: digit :: rest => if (x = 120 ∨ x = 88) ∧ digitVal digit < 16 then digit :: rest else 48 :: x :: digit :: rest
  | rest => rest

def digitsVal (base : Nat) (digits : List UInt8) : Nat :=
  digits.foldl (fun value c => value * base + digitVal c) 0

/-- The conversion of `strtoul`, if there is a digit to convert. Values out of
range become `ULONG_MAX`, and a minus sign negates in 64 bits. -/
def readNumber (base : Nat) (s : Text) : Option (UInt64 × Text) :=
  let (negative, body) := readSign (s.dropWhile isSpace)
  let body := if base = 16 then skipHexPrefix body else body
  let digits := body.takeWhile (fun c => digitVal c < base)
  if digits = [] then none
  else
    let value := digitsVal base digits
    let number := if 2 ^ 64 ≤ value then -1 else if negative then -UInt64.ofNat value else UInt64.ofNat value
    some (number, body.dropWhile (fun c => digitVal c < base))

/-- `strtoul(s, &s, base)` on a machine with 64-bit longs, also `strtoull` -/
def strtoul (base : Nat) (s : Text) : UInt64 × Text := (readNumber base s).getD (0, s)

/-- `strtol(s, NULL, base)`, with values out of range brought to the nearest `long` -/
def strtol (base : Nat) (s : Text) : Int :=
  let (negative, body) := readSign (s.dropWhile isSpace)
  let body := if base = 16 then skipHexPrefix body else body
  let value : Int := digitsVal base (body.takeWhile fun c => digitVal c < base)
  if negative then max (-value) (-2 ^ 63) else min value (2 ^ 63 - 1)

/-- `atoi` -/
def atoi (s : Text) : Int32 := Int32.ofInt (strtol 10 s)

/-- A line with its newline, or the first `room` bytes of a longer one. -/
def takeLine : Nat → List UInt8 → List UInt8 × List UInt8
  | 0, stream => ([], stream)
  | _, [] => ([], [])
  | room + 1, c :: stream =>
    if c = 10 then ([c], stream)
    else
      let (line, rest) := takeLine room stream
      (c :: line, rest)

/-- `fgets(buffer, size, stream)`: the line read and the rest of the stream. -/
def fgets (size : Nat) : List UInt8 → Option (Text × List UInt8)
  | [] => none
  | stream =>
    let (line, rest) := takeLine (size - 1) stream
    some (ofBuffer line, rest)

/-- The rounds of a loop that calls `fgets` until it returns NULL. -/
def fgetsLoop (size : Nat) : Nat → List UInt8 → List Text
  | 0, _ => []
  | rounds + 1, stream =>
    match fgets size stream with
    | none => []
    | some (line, rest) => line :: fgetsLoop size rounds rest

/-- The strings that `fgets` returns one after the other. Each takes a byte at
least from the stream, so there are enough rounds. -/
def fgetsAll (size : Nat) (stream : List UInt8) : List Text := fgetsLoop size stream.length stream

/-- `%u` -/
def decimal (n : Nat) : Text := (Nat.toDigits 10 n).map fun c => UInt8.ofNat c.toNat

/-- `%d` -/
def decimalInt (z : Int) : Text := if z < 0 then 45 :: decimal z.natAbs else decimal z.natAbs

def hexDigit (n : Nat) : UInt8 := if n < 10 then UInt8.ofNat (48 + n) else UInt8.ofNat (55 + n)

/-- The last `width` hexadecimal digits, as `%08X` prints a 32-bit value for width 8. -/
def hexFixed : Nat → Nat → Text
  | 0, _ => []
  | width + 1, n => hexFixed width (n / 16) ++ [hexDigit (n % 16)]

/-- `%5u` and the like, for a text that is already printed. -/
def padLeft (width : Nat) (text : Text) : Text := List.replicate (width - text.length) 32 ++ text

end CString
