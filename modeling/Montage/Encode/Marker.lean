import Montage.Fault
import Montage.Numeric.Numeral

/-!
# Elapsed-time markers

The encoder reports its position in the output as `out_time=HH:MM:SS.fraction`, or as
`time=` within a status line.  A marker counts only at the start of a line or after
white space.
-/

namespace Montage.Encode

/-- An elapsed-time marker as it is written, in the values of its digits. -/
structure Marker where
  negative : Bool
  hours : List Nat
  minutes : List Nat
  seconds : List Nat
  fraction : List Nat
  deriving DecidableEq, Repr, Inhabited

namespace Marker

def takeDigits : List Char → List Nat × List Char
  | [] => ([], [])
  | character :: rest =>
      match Text.digitValue? character with
      | some value =>
          let (values, beyond) := takeDigits rest
          (value :: values, beyond)
      | none => ([], character :: rest)

def takeField? (characters : List Char) : Option (List Nat × List Char) :=
  match takeDigits characters with
  | ([], _) => none
  | taken => some taken

/-- The digits after a decimal point, none unless a point and a digit follow. -/
def takeFraction : List Char → List Nat
  | '.' :: rest => (takeDigits rest).1
  | _ => []

def takeClock? (negative : Bool) (characters : List Char) : Option Marker :=
  match takeField? characters with
  | some (hours, ':' :: rest) =>
      match takeField? rest with
      | some (minutes, ':' :: rest) =>
          (takeField? rest).map fun (seconds, rest) =>
            ⟨negative, hours, minutes, seconds, takeFraction rest⟩
      | _ => none
  | _ => none

/-- The list without the `out_` that may stand in front of a marker. -/
def withoutOut (characters : List Char) : List Char :=
  (Text.dropStart? ['o', 'u', 't', '_'] characters).getD characters

def start? (characters : List Char) : Option Marker :=
  match Text.dropStart? ['t', 'i', 'm', 'e', '='] (withoutOut characters) with
  | none => none
  | some reading =>
      match reading.dropWhile Text.isBlank with
      | '-' :: rest => takeClock? true rest
      | rest => takeClock? false rest

def afterBlank? : List Char → Option Marker
  | [] => none
  | character :: rest =>
      (if Text.isBlank character then start? rest else none).or (afterBlank? rest)

def find? (line : List Char) : Option Marker :=
  (start? line).or (afterBlank? line)

def wholeNumber (digits : List Nat) : Except Fault Int :=
  if Numeral.digitLimit < digits.length then .error (.tooManyDigits digits.length)
  else .ok (Numeral.ofDigits digits : Int)

/-- The seconds that a marker stands for. -/
def elapsed (marker : Marker) : Except Fault Binary64 := do
  let hours ← wholeNumber marker.hours
  let minutes ← wholeNumber marker.minutes
  let seconds := Binary64.ofDecimal false
    (Numeral.ofDigits (marker.seconds ++ marker.fraction)) (-marker.fraction.length)
  -- Hours and minutes are summed exactly, and rounded before the seconds are added.
  match Binary64.ofInt (hours * 3600 + minutes * 60) with
  | .infinite _ => .error .tooLarge
  | whole =>
      let total := whole + seconds
      .ok (if marker.negative then -total else total)

def read (line : String) : Except Fault (Option Binary64) :=
  match find? line.toList with
  | none => .ok none
  | some marker => marker.elapsed.map some

end Marker

end Montage.Encode
