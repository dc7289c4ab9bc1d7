import Montage.Fault

/-!
# Timestamps

Dates with four digits for the year, which a time of day with fractions of a second and a
time zone may follow.
-/

namespace Montage.Yaml

/-- A time of day.  The zone is given by its distance in minutes. -/
structure TimeOfDay where
  hour : Nat
  minute : Nat
  second : Nat
  zoneMinutes : Nat
  deriving DecidableEq, Repr, Inhabited

/-- A date, maybe with a time of day. -/
structure Timestamp where
  year : Nat
  month : Nat
  day : Nat
  time : Option TimeOfDay
  deriving DecidableEq, Repr, Inhabited

namespace Timestamp

/-- A number of at least `least` and at most `most` digits at the start of characters, and
what follows its digits. -/
def takeNumber? (least most : Nat) (characters : List Char) : Option (Nat × List Char) :=
  let digits := (characters.take most).takeWhile Char.isDigit
  if digits.length < least then none
  else some (digits.foldl (fun number digit => 10 * number + (digit.toNat - 48)) 0,
    characters.drop digits.length)

def take? (expected : Char) : List Char → Option (List Char)
  | [] => none
  | character :: rest => if character = expected then some rest else none

def skipBlanks (characters : List Char) : List Char :=
  characters.dropWhile fun character => character = ' ' || character = '\t'

def afterMark? : List Char → Option (List Char)
  | 'T' :: rest => some rest
  | 't' :: rest => some rest
  | ' ' :: rest => some (skipBlanks rest)
  | '\t' :: rest => some (skipBlanks rest)
  | _ => none

/-- What follows a fraction of a second, which may be missing. -/
def afterFraction : List Char → List Char
  | '.' :: rest => rest.dropWhile Char.isDigit
  | characters => characters

/-- The distance of a time zone that characters write, which may be missing. -/
def zone? (characters : List Char) : Option Nat :=
  match characters, skipBlanks characters with
  | [], _ => some 0
  | _, ['Z'] => some 0
  | _, sign :: rest =>
      if sign = '+' ∨ sign = '-' then do
        let (hours, afterHours) ← takeNumber? 1 2 rest
        match afterHours with
        | [] => some (60 * hours)
        | ':' :: rest => do
            let (minutes, beyond) ← takeNumber? 2 2 rest
            if beyond.isEmpty then some (60 * hours + minutes) else none
        | _ => none
      else none
  | _, [] => none

def time? (characters : List Char) : Option TimeOfDay := do
  let (hour, rest) ← takeNumber? 1 2 characters
  let (minute, rest) ← takeNumber? 2 2 (← take? ':' rest)
  let (second, rest) ← takeNumber? 2 2 (← take? ':' rest)
  let zoneMinutes ← zone? (afterFraction rest)
  some ⟨hour, minute, second, zoneMinutes⟩

def read? (characters : List Char) : Option Timestamp := do
  let (year, rest) ← takeNumber? 4 4 characters
  let (month, rest) ← takeNumber? 1 2 (← take? '-' rest)
  let (day, rest) ← takeNumber? 1 2 (← take? '-' rest)
  if rest.isEmpty then some ⟨year, month, day, none⟩
  else
    let time ← time? (← afterMark? rest)
    some ⟨year, month, day, some time⟩

def dateLength : Nat := 10

/-- Whether a scalar without quotes is taken for a timestamp.  A date alone has two digits
each for its month and its day. -/
def isPlain (characters : List Char) : Bool :=
  match read? characters with
  | some timestamp => timestamp.time.isSome || characters.length == dateLength
  | none => false

def isLeap (year : Nat) : Bool := (year % 4 == 0 && year % 100 != 0) || year % 400 == 0

def daysIn (year month : Nat) : Nat :=
  if month = 2 then if isLeap year then 29 else 28
  else if month ∈ [4, 6, 9, 11] then 30
  else 31

def isValidTime (time : TimeOfDay) : Bool :=
  time.hour < 24 && time.minute < 60 && time.second < 60 && time.zoneMinutes < 1440

def isValid (timestamp : Timestamp) : Bool :=
  1 ≤ timestamp.year && 1 ≤ timestamp.month && timestamp.month ≤ 12 &&
    1 ≤ timestamp.day && timestamp.day ≤ daysIn timestamp.year timestamp.month &&
    timestamp.time.all isValidTime

end Timestamp

end Montage.Yaml
