import Gazetteer.Decimal.Nearest
import Gazetteer.Tree.Basic

/-! Dates and times in TOML.

They have no kind of their own in a configuration: a date or time is a mapping with one reserved
key, whose value is its text in a uniform style. -/
namespace Gazetteer.Toml

/-- The key under which the text of a date or time is kept. -/
def momentKey : String := "$__toml_private_datetime"

/-- Reads exactly the given number of digits. -/
def readCount (count : Nat) (cs : List Char) : Option (Nat × List Char) :=
  let digits := cs.take count
  if digits.length == count && digits.all Char.isDigit then
    some (Decimal.digitsValue digits, cs.drop count)
  else none

/-- Reads two digits of a number of at most the given size. -/
def readUpTo (most : Nat) (cs : List Char) : Option (Nat × List Char) :=
  (readCount 2 cs).filter fun (n, _) => n ≤ most

def readMark (mark : Char) : List Char → Option (List Char)
  | c :: cs => if c == mark then some cs else none
  | [] => none

/-- A number in the given number of digits at least. -/
def padded (width n : Nat) : String :=
  let digits := toString n
  .ofList (List.replicate (width - digits.length) '0') ++ digits

/-! ### Dates -/

def isLeapYear (year : Nat) : Bool := year % 4 == 0 && (year % 100 != 0 || year % 400 == 0)

def daysIn (year month : Nat) : Nat :=
  if month == 2 then (if isLeapYear year then 29 else 28)
  else if [4, 6, 9, 11].contains month then 30
  else 31

/-- Reads a date. -/
def readDate (cs : List Char) : Option (String × List Char) := do
  let (year, cs) ← readCount 4 cs
  let (month, cs) ← readUpTo 12 (← readMark '-' cs)
  let (day, cs) ← readUpTo 31 (← readMark '-' cs)
  if month == 0 || day == 0 || daysIn year month < day then none
  else return (padded 4 year ++ "-" ++ padded 2 month ++ "-" ++ padded 2 day, cs)

/-! ### Times -/

/-- The digits of a fraction of a second that count: nine at most, and no zeros at the end. -/
def fractionText (digits : List Char) : String :=
  match (digits.take 9).reverse.dropWhile (· == '0') with
  | [] => ""
  | kept => "." ++ .ofList kept.reverse

/-- Reads the fraction of a second, if there is one. -/
def readSecondFraction : List Char → Option (String × List Char)
  | '.' :: cs =>
    let digits := cs.takeWhile Char.isDigit
    if digits.isEmpty then none else some (fractionText digits, cs.drop digits.length)
  | cs => some ("", cs)

/-- Reads a time of day. -/
def readTime (cs : List Char) : Option (String × List Char) := do
  let (hour, cs) ← readUpTo 23 cs
  let (minute, cs) ← readUpTo 59 (← readMark ':' cs)
  let (second, cs) ← readUpTo 60 (← readMark ':' cs)
  let (fraction, cs) ← readSecondFraction cs
  return (padded 2 hour ++ ":" ++ padded 2 minute ++ ":" ++ padded 2 second ++ fraction, cs)

/-- Reads the distance from universal time, if there is one. -/
def readOffset : List Char → Option (String × List Char)
  | c :: cs =>
    if c == 'Z' || c == 'z' then some ("Z", cs)
    else if c == '+' || c == '-' then do
      let (hours, cs) ← readUpTo 23 cs
      let (minutes, cs) ← readUpTo 59 (← readMark ':' cs)
      let sign := if c == '-' && 0 < hours + minutes then "-" else "+"
      return (sign ++ padded 2 hours ++ ":" ++ padded 2 minutes, cs)
    else some ("", c :: cs)
  | [] => some ("", [])

/-- Reads the time of day after a date. -/
def readTimeOfDate : List Char → Option (String × List Char)
  | c :: cs =>
    if c == 'T' || c == 't' || c == ' ' then do
      let (time, cs) ← readTime cs
      let (offset, cs) ← readOffset cs
      return ("T" ++ time ++ offset, cs)
    else none
  | [] => none

/-- Reads a date, a time, or both. -/
def readMoment (cs : List Char) : Option (Tree × List Char) := do
  let (text, rest) ← match readDate cs with
    | some (date, rest) =>
      match readTimeOfDate rest with
      | some (time, rest) => some (date ++ time, rest)
      | none => some (date, rest)
    | none => readTime cs
  return (.mapping [(.string momentKey, .string text)], rest)

end Gazetteer.Toml
