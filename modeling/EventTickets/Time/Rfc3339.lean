import EventTickets.Text.Blank
import EventTickets.Text.Integer
import EventTickets.Time.Instant

/-!
# Instants as text

Written form: RFC 3339 in UTC with `Z`, and as many of 0, 3, 6 or 9 fraction digits as are exact. A
year outside 0 to 9999 has a sign. Reading is more lenient: any offset, any number of fraction
digits (those past the ninth are dropped), one or two digits per part, blanks between the parts, and
a blank or either case of `T` between date and time.
-/

namespace EventTickets.Time

namespace Rfc3339

def digitChar (n : Nat) : Char := Char.ofNat ('0'.toNat + n % 10)

def lastDigits : Nat → Nat → List Char
  | 0, _ => []
  | width + 1, n => lastDigits width (n / 10) ++ [digitChar n]

def padded (width n : Nat) : List Char :=
  let digits := (Nat.repr n).toList
  List.replicate (width - digits.length) '0' ++ digits

def yearText (year : Int) : List Char :=
  if 0 ≤ year ∧ year ≤ 9999 then lastDigits 4 year.toNat
  else (if year < 0 then '-' else '+') :: padded 4 year.natAbs

def fractionText (nanos : Nat) : List Char :=
  if nanos = 0 then []
  else if nanos % 1000000 = 0 then '.' :: lastDigits 3 (nanos / 1000000)
  else if nanos % 1000 = 0 then '.' :: lastDigits 6 (nanos / 1000)
  else '.' :: lastDigits 9 nanos

def chars (t : Instant) : List Char :=
  let date := CivilDate.ofDays (t.seconds / 86400)
  let second := (t.seconds % 86400).toNat
  let leap := t.nanos / 1000000000
  yearText date.year ++ '-' :: lastDigits 2 date.month ++ '-' :: lastDigits 2 date.day ++
    'T' :: lastDigits 2 (second / 3600) ++ ':' :: lastDigits 2 (second / 60 % 60) ++
    ':' :: lastDigits 2 (second % 60 + leap) ++ fractionText (t.nanos % 1000000000) ++ ['Z']

abbrev Reader (α : Type) := List Char → Option (α × List Char)

def takeDigits : Nat → Nat → List Char → Nat × List Char
  | 0, acc, cs => (acc, cs)
  | _ + 1, acc, [] => (acc, [])
  | width + 1, acc, c :: cs =>
    match Text.digit? c with
    | some d => takeDigits width (acc * 10 + d) cs
    | none => (acc, c :: cs)

def number (width : Nat) : Reader Nat
  | [] => none
  | c :: cs => if (Text.digit? c).isSome then some (takeDigits width 0 (c :: cs)) else none

def numberWithin (width low high : Nat) : Reader Nat := fun cs =>
  match number width (Text.dropBlanks cs) with
  | some (n, rest) => if low ≤ n ∧ n ≤ high then some (n, rest) else none
  | none => none

/-- Without a sign a year has at most four digits. -/
def year : Reader Int := fun cs =>
  match Text.dropBlanks cs with
  | '-' :: rest => (number rest.length rest).map fun (n, r) => (-(n : Int), r)
  | '+' :: rest => (number rest.length rest).map fun (n, r) => ((n : Int), r)
  | rest => (number 4 rest).map fun (n, r) => ((n : Int), r)

def mark (c : Char) : Reader Unit := fun cs =>
  match Text.dropBlanks cs with
  | d :: rest => if c = d then some ((), rest) else none
  | [] => none

def separator : Reader Unit
  | c :: rest => if c = 'T' ∨ c = 't' ∨ c = ' ' then some ((), rest) else none
  | [] => none

def isDigit (c : Char) : Bool := (Text.digit? c).isSome

def fraction : Reader Nat
  | '.' :: rest =>
    let digits := (rest.takeWhile isDigit).take 9
    if digits.isEmpty then none
    else
      some (digits.foldl (fun n c => n * 10 + (c.toNat - '0'.toNat)) 0 *
        Nat.pow 10 (9 - digits.length), rest.dropWhile isDigit)
  | cs => some (0, cs)

def isOffsetSeparator (c : Char) : Bool := c == ':' || Text.isBlank c

def twoDigits (firstMax : Nat) : Reader Nat
  | a :: b :: rest =>
    match Text.digit? a, Text.digit? b with
    | some x, some y => if x ≤ firstMax then some (x * 10 + y, rest) else none
    | _, _ => none
  | _ => none

def signedOffset (negative : Bool) : Reader Int := fun cs => do
  let (hours, rest) ← twoDigits 9 cs
  let (minutes, rest) ← twoDigits 5 (rest.dropWhile isOffsetSeparator)
  let seconds : Int := hours * 3600 + minutes * 60
  return (if negative then -seconds else seconds, rest)

/-- Seconds east of UTC. -/
def offset : Reader Int := fun cs =>
  match Text.dropBlanks cs with
  | 'Z' :: rest => some (0, rest)
  | 'z' :: rest => some (0, rest)
  | '+' :: rest => signedOffset false rest
  | '-' :: rest => signedOffset true rest
  | '−' :: rest => signedOffset true rest
  | a :: b :: c :: rest =>
    if (String.ofList [a, b, c]).toLower = "utc" then some (0, rest) else none
  | _ => none

/-- Date and time of day in their own offset, moved to UTC, if both that and the result can be
kept. -/
def assemble (date : CivilDate) (hour minute second nanos : Nat) (east : Int) : Option Instant :=
  let leap := if second = 60 then 1000000000 else 0
  let time : Int := hour * 3600 + minute * 60 + (if second = 60 then 59 else second)
  let seconds := date.toDays * 86400 + time - east
  if date.Valid ∧ -262143 ≤ date.year ∧ date.year ≤ 262142 ∧ -86400 < east ∧ east < 86400 ∧
      Instant.minSeconds ≤ seconds ∧ seconds ≤ Instant.maxSeconds then
    some ⟨seconds, nanos + leap⟩
  else none

def ofChars? (cs : List Char) : Option Instant := do
  let (year, cs) ← year cs
  let ((), cs) ← mark '-' cs
  let (month, cs) ← numberWithin 2 1 12 cs
  let ((), cs) ← mark '-' cs
  let (day, cs) ← numberWithin 2 1 31 cs
  let ((), cs) ← separator cs
  let (hour, cs) ← numberWithin 2 0 23 cs
  let ((), cs) ← mark ':' cs
  let (minute, cs) ← numberWithin 2 0 59 cs
  let ((), cs) ← mark ':' cs
  let (second, cs) ← numberWithin 2 0 60 cs
  let (nanos, cs) ← fraction cs
  let (east, cs) ← offset cs
  if (Text.dropBlanks cs).isEmpty then
    assemble { year, month, day } hour minute second nanos east
  else none

end Rfc3339

namespace Instant

def text (t : Instant) : String := String.ofList (Rfc3339.chars t)

def ofText? (s : String) : Option Instant := Rfc3339.ofChars? s.toList

end Instant

end EventTickets.Time
