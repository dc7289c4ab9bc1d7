import Montage.Text.Basic

/-!
# Encoder diagnoses

The part of the encoder's error output that says what went wrong: its last lines
without the banner in front.
-/

namespace Montage.Encode.Diagnosis

def bannerMarks : List String := [
  "--enable-", "--disable-", "configuration:", "built with", "ffmpeg version",
  "Copyright"]

/-- Whether a line belongs to the banner: it holds a mark, or names the version of a
library. -/
def isBanner (line : String) : Bool :=
  bannerMarks.any (Text.contains line) ||
    ((Text.dropStart? ['l', 'i', 'b'] (Text.trim line).toList).isSome &&
      line.toList.contains '/')

def usefulLines (output : String) : List String :=
  (Text.lines (Text.trim output)).dropWhile isBanner

def keptLines : Nat := 15

def keptCharacters : Nat := 500

def ofOutput (output : String) : String :=
  let useful := usefulLines output
  if useful.isEmpty then Text.suffix keptCharacters output
  else Text.join "\n" (Text.takeLast keptLines useful)

end Montage.Encode.Diagnosis
