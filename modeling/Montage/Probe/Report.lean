import Montage.Fault
import Montage.Json.Reader

/-!
# Probe reports

What is known about a media file, and how it is read from the JSON report of the
probing tool.
-/

namespace Montage

/-- What is known about a media file. -/
structure ProbeResult where
  duration : Binary64 := .zero
  hasAudio : Bool := false
  hasVideo : Bool := false
  width : Int := 0
  height : Int := 0
  deriving DecidableEq, Inhabited

namespace ProbeResult

def empty : ProbeResult := ⟨.zero, false, false, 0, 0⟩

def noNumber (expected : String) (value : Json) : Fault :=
  .wrongType (expected ++ ", not '" ++ value.typeName ++ "'")

def sizeOf (value : Option Json) : Except Fault Int :=
  match value with
  | none => .ok 0
  | some (.integer size) => .ok size
  | some (.boolean flag) => .ok (if flag then 1 else 0)
  | some (.number size) => size.truncate.mapError Fault.ofNumeric
  | some (.text size) =>
      (Numeral.readInt size.toList).mapError fun reason =>
        match reason with
        | .malformed => .badNumeral size
        | .tooManyDigits count => .tooManyDigits count
  | some other => .error (noNumber
      "int() argument must be a string, a bytes-like object or a real number" other)

/-- The duration in a format record. -/
def durationOf (value : Option Json) : Except Fault Binary64 :=
  match value with
  | none => .ok .zero
  | some document =>
      if document.isAbsent then .ok .zero
      else match document with
        | .boolean _ => .ok 1
        | .number duration => .ok duration
        | .integer duration =>
            match Binary64.ofInt duration with
            | .infinite _ => .error .tooLarge
            | converted => .ok converted
        -- A text that writes no number counts as no duration.
        | .text duration => .ok ((Numeral.binary64? duration.toList).getD .zero)
        | other => .error (noNumber "float() argument must be a string or a real number"
            other)

def streamsOf (value : Option Json) : Except Fault (List Json) :=
  match value with
  | none => .ok []
  | some (.array streams) => .ok streams
  | some (.object members) =>
      if members.isEmpty then .ok [] else .error .notARecord
  | some (.text streams) =>
      if streams.isEmpty then .ok [] else .error .notARecord
  | some other =>
      .error (.wrongType ("'" ++ other.typeName ++ "' object is not iterable"))

/-- A result after one more stream record. -/
def addStream (result : ProbeResult) (stream : Json) : Except Fault ProbeResult :=
  match stream with
  | .object members =>
      match Json.member? members "codec_type" with
      | some (.text "video") => do
          -- A later picture stream replaces the size of an earlier one.
          let width ← sizeOf (Json.member? members "width")
          let height ← sizeOf (Json.member? members "height")
          .ok { result with hasVideo := true, width, height }
      | some (.text "audio") => .ok { result with hasAudio := true }
      | _ => .ok result
  | _ => .error .notARecord

def ofReport (report : Json) : Except Fault ProbeResult :=
  match report with
  | .object members => do
      let streams ← streamsOf (Json.member? members "streams")
      let result ← streams.foldlM addStream empty
      match (Json.member? members "format").getD (.object []) with
      | .object format =>
          let duration ← durationOf (Json.member? format "duration")
          .ok { result with duration }
      | _ => .error .notARecord
  | _ => .error .notARecord

def ofText (text : String) : Except Fault ProbeResult :=
  Json.read text >>= ofReport

end ProbeResult

end Montage
