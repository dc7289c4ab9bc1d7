import Montage.Numeric.Numeral
import Montage.Text.Utf8

/-!
# Byte ranges

Parts of a file that a client asks for, such as `bytes=0-99` or `bytes=-10`.  Parts that
touch are put together.
-/

namespace Montage.Server

/-- The bytes from `start` on, up to but not including `finish`. -/
structure ByteRange where
  start : Nat
  finish : Nat
  deriving DecidableEq, Repr, Inhabited

/-- Reasons why the parts that are asked for cannot be given. -/
inductive RangeError where
  | malformed
  | otherUnit
  | empty
  | backwards
  | outside
  deriving DecidableEq, Repr, Inhabited

namespace RangeError

def message : RangeError → String
  | .malformed => "Malformed range header."
  | .otherUnit => "Only support bytes range"
  | .empty => "Range header: range must be requested"
  | .backwards => "Range header: start must be less than end"
  | .outside => ""

def status : RangeError → Nat
  | .outside => 416
  | _ => 400

end RangeError

namespace ByteRange

/-- The start and the end that a part gives; none if it gives none. -/
def ofPart? (size : Nat) (part : List Char) : Option (Int × Int) :=
  let (first, last) := part.span (· != '-')
  let first := Text.trimBy Text.isBlank first
  let last := Text.trimBy Text.isBlank (last.drop 1)
  if !part.contains '-' then none
  -- A part without a start counts from the end of the file.
  else if first.isEmpty then
    (Numeral.int? last).map fun length => ((size : Int) - length, (size : Int))
  else if last.isEmpty then
    (Numeral.int? first).map fun start => (start, (size : Int))
  else do
    let start ← Numeral.int? first
    let finish ← Numeral.int? last
    -- The end that is written belongs to the part, unless it lies behind the file.
    some (start, if finish < size then finish + 1 else (size : Int))

/-- The parts that a text lists between commas.  Those that say nothing are skipped. -/
def bounds (size : Nat) (text : List Char) : List (Int × Int) :=
  (Text.splitBy (· == ',') text).filterMap (ofPart? size)

/-- A range put before others in order of their starts. -/
def insert (range : ByteRange) : List ByteRange → List ByteRange
  | [] => [range]
  | other :: rest =>
      if other.start < range.start then other :: insert range rest
      else range :: other :: rest

/-- Ranges in order with those that touch put together. -/
def merge (first : ByteRange) : List ByteRange → List ByteRange
  | [] => [first]
  | next :: rest =>
      if next.start ≤ first.finish then
        merge ⟨first.start, Nat.max first.finish next.finish⟩ rest
      else first :: merge next rest

/-- Ranges in order, with those that touch put together. -/
def merged (ranges : List ByteRange) : List ByteRange :=
  match ranges.foldr insert [] with
  | [] => []
  | first :: rest => merge first rest

def read (size : Nat) (text : String) : Except RangeError (List ByteRange) :=
  let (unit, list) := text.toList.span (· != '=')
  let parts := bounds size (list.drop 1)
  if list.isEmpty then .error .malformed
  else if Text.lowercase (String.ofList (Text.trimBy Text.isBlank unit)) ≠ "bytes" then
    .error .otherUnit
  else if parts.isEmpty then .error .empty
  else if parts.any fun (start, _) => start < 0 ∨ (size : Int) ≤ start then
    .error .outside
  else if parts.any fun (start, finish) => finish < start then .error .backwards
  else .ok (merged (parts.map fun (start, finish) => ⟨start.toNat, finish.toNat⟩))

def extract (range : ByteRange) (content : String) : String :=
  Text.Utf8.decode
    (((Text.Utf8.encode content).drop range.start).take (range.finish - range.start))

end ByteRange

end Montage.Server
