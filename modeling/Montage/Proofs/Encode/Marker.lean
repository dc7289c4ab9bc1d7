import Montage.Encode.Marker
import Montage.Proofs.Numeric.Range

/-!
# Markers of a progress report

A progress report is made of lines that give a name and a value.  Such a line is a marker exactly
if its name is `time` or `out_time` and its value begins with a clock reading.  What is read off is
the time that the reading denotes: its hours and minutes as one whole number, and its seconds with
their places, both rounded and then added.
-/

namespace Montage.Encode

/-- A line of a progress report: a name and a value, without white space, and perhaps the end of
the line. -/
structure ProgressLine where
  key : List Char
  value : List Char
  ended : Bool
  named : '=' ∉ key
  solid : ∀ character ∈ key ++ value, Text.isBlank character = false

namespace ProgressLine

def ending (line : ProgressLine) : List Char := if line.ended then ['\n'] else []

def text (line : ProgressLine) : String :=
  String.ofList (line.key ++ '=' :: (line.value ++ line.ending))

def OfTime (line : ProgressLine) : Prop :=
  line.key = "time".toList ∨ line.key = "out_time".toList

instance (line : ProgressLine) : Decidable line.OfTime :=
  inferInstanceAs (Decidable (line.key = "time".toList ∨ line.key = "out_time".toList))

end ProgressLine

namespace Marker

section Digits

variable {run run' rest rest' characters : List Char} {character : Char}

def Stops (rest : List Char) : Prop :=
  ∀ character, rest.head? = some character → Text.isDecimalDigit character = false

/-- Digits, and all of them. -/
structure Munches (run rest characters : List Char) : Prop where
  whole : characters = run ++ rest
  digits : ∀ character ∈ run, Text.isDecimalDigit character = true
  stops : Stops rest

theorem stops_cons (plain : Text.isDecimalDigit character = false) : Stops (character :: rest) := by
  intro first same
  rw [← Option.some.inj same]
  exact plain

theorem exists_munches (characters : List Char) : ∃ run rest, Munches run rest characters := by
  refine ⟨characters.takeWhile Text.isDecimalDigit, characters.dropWhile Text.isDecimalDigit,
    List.takeWhile_append_dropWhile.symm, fun character => List.mem_takeWhile_imp, ?_⟩
  exact fun character first => Text.removed_head?_dropWhile first

theorem Munches.unique (munches : Munches run rest characters)
    (munches' : Munches run' rest' characters) : run' = run ∧ rest' = rest :=
  Text.front_unique (munches.whole.symm.trans munches'.whole) munches.digits munches'.digits
    munches.stops munches'.stops

theorem Munches.takeDigits (munches : Munches run rest characters) :
    takeDigits characters = (run.filterMap Text.digitValue?, rest) := by
  obtain ⟨rfl, digits, stops⟩ := munches
  induction run with
  | nil =>
      cases rest with
      | nil => rfl
      | cons character rest =>
          have plain : Text.digitValue? character = none := by
            simpa [Text.isDecimalDigit] using stops character rfl
          simp [Marker.takeDigits, plain]
  | cons character run ih =>
      rw [List.forall_mem_cons] at digits
      obtain ⟨value, reads⟩ := Option.isSome_iff_exists.mp digits.1
      simp [Marker.takeDigits, reads, ih digits.2]

theorem length_filterMap_digits (digits : ∀ character ∈ run, Text.isDecimalDigit character = true) :
    (run.filterMap Text.digitValue?).length = run.length := by
  rw [List.length_filterMap_eq_countP, List.countP_eq_length]
  exact digits

theorem Munches.takeField? (munches : Munches run rest characters) (filled : run ≠ []) :
    takeField? characters = some (run.filterMap Text.digitValue?, rest) := by
  have some : run.filterMap Text.digitValue? ≠ [] := by
    rw [← List.length_pos_iff, length_filterMap_digits munches.digits]
    exact List.length_pos_iff.mpr filled
  rw [Marker.takeField?, munches.takeDigits]
  split
  next empty => exact absurd (congrArg Prod.fst empty) some
  next => rfl

theorem exists_of_takeField? {values : List Nat}
    (taken : takeField? characters = some (values, rest)) :
    ∃ run, run ≠ [] ∧ Munches run rest characters ∧ values = run.filterMap Text.digitValue? := by
  obtain ⟨run, rest', munches⟩ := exists_munches characters
  by_cases filled : run = []
  · simp [Marker.takeField?, munches.takeDigits, filled] at taken
  · rw [munches.takeField? filled] at taken
    obtain ⟨rfl, rfl⟩ := Prod.mk.inj (Option.some.inj taken)
    exact ⟨run, filled, munches, rfl⟩

theorem isSome_takeField? (filled : run ≠ [])
    (digits : ∀ character ∈ run, Text.isDecimalDigit character = true) (rest : List Char) :
    (Marker.takeField? (run ++ rest)).isSome := by
  obtain ⟨run', rest', munches⟩ := exists_munches (run ++ rest)
  have filled' : run' ≠ [] := by
    rintro rfl
    obtain ⟨first, others, rfl⟩ := List.exists_cons_of_ne_nil filled
    have stops := munches.stops first (by rw [← List.nil_append rest', ← munches.whole]; rfl)
    rw [digits first List.mem_cons_self] at stops
    cases stops
  rw [munches.takeField? filled']
  rfl

end Digits

end Marker

/-- A clock reading as it is written: hours, minutes and seconds in the decimal digits of any
script, perhaps with a minus sign in front and with places behind a point. -/
@[ext]
structure Clock where
  negative : Bool
  hours : List Char
  minutes : List Char
  seconds : List Char
  fraction : List Char
  filled : ∀ run ∈ [hours, minutes, seconds], run ≠ []
  digits : ∀ run ∈ [hours, minutes, seconds, fraction], ∀ character ∈ run,
    Text.isDecimalDigit character = true

namespace Clock

/-- Places as they are written, with the point in front of them if there are any. -/
def places (fraction : List Char) : List Char :=
  if fraction = [] then [] else '.' :: fraction

def unsigned (clock : Clock) : List Char :=
  clock.hours ++ ':' :: (clock.minutes ++ ':' :: (clock.seconds ++ places clock.fraction))

def text (clock : Clock) : List Char :=
  if clock.negative then '-' :: clock.unsigned else clock.unsigned

/-- A reading is over in front of what neither continues its last digits nor adds places to it. -/
structure EndsBefore (clock : Clock) (rest : List Char) : Prop where
  stops : Marker.Stops rest
  point : clock.fraction = [] → ∀ character beyond, rest = '.' :: character :: beyond →
    Text.isDecimalDigit character = false

/-- The reading at the start of a text, with all the digits that belong to it. -/
def Begins (clock : Clock) (characters : List Char) : Prop :=
  ∃ rest, characters = clock.text ++ rest ∧ clock.EndsBefore rest

def number (run : List Char) : Nat := Numeral.ofDigits (run.filterMap Text.digitValue?)

def whole (clock : Clock) : Nat := number clock.hours * 3600 + number clock.minutes * 60

def part (clock : Clock) : Rat :=
  number clock.seconds + number clock.fraction / 10 ^ clock.fraction.length

def time (clock : Clock) : Binary64 :=
  let total := Binary64.ofRat clock.whole + Binary64.ofRat clock.part
  if clock.negative then -total else total

/-- The seconds that a reading writes, before anything is rounded. -/
def value (clock : Clock) : Rat :=
  let total := clock.whole + clock.part
  if clock.negative then -total else total

/-- Readings whose hours and minutes can be converted: both are written with few enough digits, and
their sum is not too large. -/
structure Convertible (clock : Clock) : Prop where
  hours : clock.hours.length ≤ Numeral.digitLimit
  minutes : clock.minutes.length ≤ Numeral.digitLimit
  whole : (clock.whole : Rat) < Binary64.limit

def marker (clock : Clock) : Marker where
  negative := clock.negative
  hours := clock.hours.filterMap Text.digitValue?
  minutes := clock.minutes.filterMap Text.digitValue?
  seconds := clock.seconds.filterMap Text.digitValue?
  fraction := clock.fraction.filterMap Text.digitValue?

section Readings

variable {characters rest rest' : List Char} {negative : Bool} {clock other : Clock}
  {marker : Marker}

theorem munches_hours (clock : Clock) (rest : List Char) :
    Marker.Munches clock.hours (':' :: (clock.minutes ++ ':' :: (clock.seconds ++ rest)))
      (clock.hours ++ ':' :: (clock.minutes ++ ':' :: (clock.seconds ++ rest))) :=
  ⟨rfl, clock.digits _ (by simp), Marker.stops_cons (by decide)⟩

theorem munches_minutes (clock : Clock) (rest : List Char) :
    Marker.Munches clock.minutes (':' :: (clock.seconds ++ rest))
      (clock.minutes ++ ':' :: (clock.seconds ++ rest)) :=
  ⟨rfl, clock.digits _ (by simp), Marker.stops_cons (by decide)⟩

theorem unsigned_append (clock : Clock) (rest : List Char) :
    clock.unsigned ++ rest = clock.hours ++ ':' :: (clock.minutes ++ ':' :: (clock.seconds ++
      (places clock.fraction ++ rest))) := by
  simp [unsigned]

theorem EndsBefore.munches_seconds (ends : clock.EndsBefore rest) :
    Marker.Munches clock.seconds (places clock.fraction ++ rest)
      (clock.seconds ++ (places clock.fraction ++ rest)) := by
  refine ⟨rfl, clock.digits _ (by simp), ?_⟩
  unfold places
  split
  · exact ends.stops
  · exact Marker.stops_cons (by decide)

theorem EndsBefore.munches_fraction (ends : clock.EndsBefore rest) :
    Marker.Munches clock.fraction rest (clock.fraction ++ rest) :=
  ⟨rfl, clock.digits _ (by simp), ends.stops⟩

theorem EndsBefore.takeFraction (ends : clock.EndsBefore rest) :
    Marker.takeFraction (places clock.fraction ++ rest) = clock.marker.fraction := by
  unfold places
  split
  next none =>
    rw [marker, none, List.nil_append]
    unfold Marker.takeFraction
    split
    next beyond =>
      have munches : Marker.Munches [] beyond beyond :=
        ⟨rfl, by simp, fun character first => by
          obtain ⟨after, rfl⟩ := List.head?_eq_some_iff.mp first
          exact ends.point none character after rfl⟩
      rw [munches.takeDigits]
    next => rfl
  next =>
    rw [List.cons_append, Marker.takeFraction, ends.munches_fraction.takeDigits]
    rfl

theorem EndsBefore.takeClock? (ends : clock.EndsBefore rest) :
    Marker.takeClock? clock.negative (clock.unsigned ++ rest) = some clock.marker := by
  simp only [unsigned_append, Marker.takeClock?,
    (clock.munches_hours _).takeField? (clock.filled _ (by simp)),
    (clock.munches_minutes _).takeField? (clock.filled _ (by simp)),
    ends.munches_seconds.takeField? (clock.filled _ (by simp)), Option.map_some,
    ends.takeFraction]
  rfl

/-- Behind the seconds there are places, if a point and a digit follow, or none. -/
theorem exists_places (stops : Marker.Stops characters) :
    ∃ fraction rest, characters = places fraction ++ rest ∧
      (∀ character ∈ fraction, Text.isDecimalDigit character = true) ∧ Marker.Stops rest ∧
      (fraction = [] → ∀ character beyond, rest = '.' :: character :: beyond →
        Text.isDecimalDigit character = false) := by
  by_cases pointed : ∃ beyond, characters = '.' :: beyond
  · obtain ⟨beyond, rfl⟩ := pointed
    obtain ⟨fraction, rest, rfl, digits, stops'⟩ := Marker.exists_munches beyond
    by_cases none : fraction = []
    · refine ⟨[], _, rfl, by simp, stops, fun _ character after same => ?_⟩
      rw [none, List.nil_append, List.cons.injEq] at same
      exact stops' character (by rw [same.2]; rfl)
    · exact ⟨fraction, rest, by simp [places, none], digits, stops', fun empty =>
        absurd empty none⟩
  · exact ⟨[], characters, rfl, by simp, stops, fun _ _ _ same => absurd ⟨_, same⟩ pointed⟩

theorem exists_of_takeClock? (taken : Marker.takeClock? negative characters = some marker) :
    ∃ (clock : Clock) (rest : List Char), characters = clock.unsigned ++ rest ∧
      clock.EndsBefore rest ∧ clock.negative = negative ∧ clock.marker = marker := by
  have found := taken
  unfold Marker.takeClock? at found
  split at found
  next hours rest first =>
    split at found
    next minutes rest' second =>
      obtain ⟨⟨seconds, rest''⟩, third, -⟩ := Option.map_eq_some_iff.mp found
      obtain ⟨run, filled, ⟨rfl, digits, -⟩, rfl⟩ := Marker.exists_of_takeField? first
      obtain ⟨run', filled', ⟨rfl, digits', -⟩, rfl⟩ := Marker.exists_of_takeField? second
      obtain ⟨run'', filled'', ⟨rfl, digits'', stops⟩, rfl⟩ := Marker.exists_of_takeField? third
      obtain ⟨fraction, rest, rfl, places, stops', point⟩ := exists_places stops
      let clock : Clock :=
        ⟨negative, run, run', run'', fraction, by simp [filled, filled', filled''], by simp_all⟩
      have whole := clock.unsigned_append rest
      have ends : clock.EndsBefore rest := ⟨stops', point⟩
      refine ⟨clock, rest, whole.symm, ends, rfl, ?_⟩
      -- The reading is taken too, and there is one answer.
      have known := ends.takeClock?
      rw [whole] at known
      exact Option.some.inj (known.symm.trans taken)
    next => cases found
  next => cases found

theorem isSome_takeClock? (negative : Bool) (clock : Clock) (rest : List Char) :
    (Marker.takeClock? negative (clock.unsigned ++ rest)).isSome := by
  have third := Marker.isSome_takeField? (clock.filled clock.seconds (by simp))
    (clock.digits clock.seconds (by simp)) (places clock.fraction ++ rest)
  simpa only [unsigned_append, Marker.takeClock?,
    (clock.munches_hours _).takeField? (clock.filled _ (by simp)),
    (clock.munches_minutes _).takeField? (clock.filled _ (by simp)), Option.isSome_map] using third

/-- A text that begins with a reading begins with one that takes all the digits there are. -/
theorem exists_begins (starts : clock.text <+: characters) :
    ∃ clock : Clock, clock.Begins characters := by
  obtain ⟨rest, rfl⟩ := starts
  obtain ⟨marker, taken⟩ := Option.isSome_iff_exists.mp
    (isSome_takeClock? clock.negative clock rest)
  obtain ⟨other, rest', whole, ends, sign, -⟩ := exists_of_takeClock? taken
  refine ⟨other, rest', ?_, ends⟩
  unfold text
  rw [sign]
  split <;> simp [whole]

theorem Begins.starts (begins : clock.Begins characters) : clock.text <+: characters := by
  obtain ⟨rest, rfl, -⟩ := begins
  exact List.prefix_append _ _

/-- A reading without its sign begins with a digit. -/
theorem exists_unsigned_eq (clock : Clock) :
    ∃ first others, clock.unsigned = first :: others ∧ Text.isDecimalDigit first = true := by
  obtain ⟨first, others, shown⟩ := List.exists_cons_of_ne_nil (clock.filled clock.hours (by simp))
  have digit := clock.digits clock.hours (by simp) first (by simp [shown])
  exact ⟨first, _, by rw [unsigned, shown]; rfl, digit⟩

theorem text_ne_nil (clock : Clock) : clock.text ≠ [] := by
  obtain ⟨first, others, shown, -⟩ := clock.exists_unsigned_eq
  unfold text
  split <;> simp [shown]

theorem not_mem_text (clock : Clock) : '\n' ∉ clock.text := by
  have plain : ∀ run ∈ [clock.hours, clock.minutes, clock.seconds, clock.fraction],
      '\n' ∉ run := by
    intro run listed member
    exact absurd (clock.digits run listed _ member) (by decide)
  simp only [List.forall_mem_cons] at plain
  obtain ⟨hours, minutes, seconds, fraction, -⟩ := plain
  unfold text unsigned places
  split <;> split <;> simp [*]

theorem head?_text_append (clock : Clock) (rest : List Char) :
    (clock.text ++ rest).head? = some '-' ↔ clock.negative = true := by
  rw [List.head?_append_of_ne_nil _ clock.text_ne_nil]
  unfold text
  split
  next negative => simp [negative]
  next positive =>
    obtain ⟨first, others, shown, digit⟩ := clock.exists_unsigned_eq
    rw [shown, List.head?_cons, Option.some.injEq]
    refine iff_of_false ?_ positive
    rintro rfl
    exact absurd digit (by decide)

/-- Where one reading has no places, no other has any. -/
theorem EndsBefore.fraction_eq_nil (ends : clock.EndsBefore rest) (none : clock.fraction = [])
    (same : places clock.fraction ++ rest = places other.fraction ++ rest') :
    other.fraction = [] := by
  by_contra some
  obtain ⟨digit, others, shown⟩ := List.exists_cons_of_ne_nil some
  have isDigit := other.digits other.fraction (by simp) digit (by simp [shown])
  have beyond : rest = '.' :: digit :: (others ++ rest') := by
    simpa [places, none, shown] using same
  rw [ends.point none digit _ beyond] at isDigit
  cases isDigit

theorem EndsBefore.fraction_unique (ends : clock.EndsBefore rest) (ends' : other.EndsBefore rest')
    (same : places clock.fraction ++ rest = places other.fraction ++ rest') :
    other.fraction = clock.fraction := by
  by_cases none : clock.fraction = []
  · rw [none, ends.fraction_eq_nil none same]
  by_cases none' : other.fraction = []
  · rw [none', ends'.fraction_eq_nil none' same.symm]
  rw [places, places, if_neg none, if_neg none', List.cons_append, List.cons_append] at same
  have munches := ends'.munches_fraction
  rw [← (List.cons.inj same).2] at munches
  exact (ends.munches_fraction.unique munches).1

theorem Begins.unique (begins : clock.Begins characters) (begins' : other.Begins characters) :
    other = clock := by
  obtain ⟨rest, rfl, ends⟩ := begins
  obtain ⟨rest', same, ends'⟩ := begins'
  have sign : other.negative = clock.negative := by
    rw [Bool.eq_iff_iff, ← other.head?_text_append rest', ← clock.head?_text_append rest, same]
  have whole : clock.unsigned ++ rest = other.unsigned ++ rest' := by
    unfold text at same
    rw [sign] at same
    split at same
    · exact (List.cons.inj same).2
    · exact same
  rw [unsigned_append, unsigned_append] at whole
  have first := other.munches_hours (places other.fraction ++ rest')
  rw [← whole] at first
  obtain ⟨hours, tail⟩ := (clock.munches_hours _).unique first
  have second := other.munches_minutes (places other.fraction ++ rest')
  rw [(List.cons.inj tail).2] at second
  obtain ⟨minutes, tail'⟩ := (clock.munches_minutes _).unique second
  have third := ends'.munches_seconds
  rw [(List.cons.inj tail').2] at third
  obtain ⟨seconds, tail''⟩ := ends.munches_seconds.unique third
  exact Clock.ext sign hours minutes seconds (ends.fraction_unique ends' tail''.symm)

end Readings

section Times

variable {clock : Clock} {time : Binary64}

theorem ofDecimal_marker (clock : Clock) :
    Binary64.ofDecimal false (Numeral.ofDigits (clock.marker.seconds ++ clock.marker.fraction))
      (-clock.marker.fraction.length) = Binary64.ofRat clock.part := by
  have places : clock.marker.fraction.length = clock.fraction.length :=
    Marker.length_filterMap_digits (clock.digits _ (by simp))
  have scale : (10 : Rat) ^ clock.fraction.length ≠ 0 := pow_ne_zero _ (by norm_num)
  rw [Binary64.ofDecimal_eq_ofRat, Numeral.ofDigits_append, places, zpow_neg, zpow_natCast]
  congr 1
  push_cast
  rw [add_mul, mul_assoc, mul_inv_cancel₀ scale, mul_one]
  rfl

theorem wholeNumber_digits {run : List Char}
    (digits : ∀ character ∈ run, Text.isDecimalDigit character = true) :
    Marker.wholeNumber (run.filterMap Text.digitValue?) =
      if Numeral.digitLimit < run.length then .error (.tooManyDigits run.length)
      else .ok (number run : Int) := by
  rw [Marker.wholeNumber, Marker.length_filterMap_digits digits]
  rfl

/-- The time of a marker is that of its reading, unless this cannot be converted. -/
theorem elapsed_marker (clock : Clock) :
    clock.marker.elapsed =
      if Numeral.digitLimit < clock.hours.length then
        .error (.tooManyDigits clock.hours.length)
      else if Numeral.digitLimit < clock.minutes.length then
        .error (.tooManyDigits clock.minutes.length)
      else if Binary64.limit ≤ clock.whole then .error .tooLarge
      else .ok clock.time := by
  have hours : Marker.wholeNumber clock.marker.hours = _ :=
    wholeNumber_digits (clock.digits clock.hours (by simp))
  have minutes : Marker.wholeNumber clock.marker.minutes = _ :=
    wholeNumber_digits (clock.digits clock.minutes (by simp))
  have whole : Binary64.ofInt ((number clock.hours : Int) * 3600 + number clock.minutes * 60) =
      Binary64.ofRat clock.whole := by
    rw [Binary64.ofInt, Clock.whole]
    push_cast
    rfl
  rw [Marker.elapsed, ofDecimal_marker, hours, minutes]
  split
  · rfl
  split
  · rfl
  dsimp only [bind, Except.bind]
  rw [whole]
  by_cases large : Binary64.limit ≤ clock.whole
  · rw [if_pos large, Binary64.ofRat_of_limit_le large]
  · have denotes := Binary64.toRat?_ofRat_of_lt (Nat.cast_nonneg _) (not_le.mp large)
    rw [if_neg large]
    split
    next negative infinite =>
      rw [infinite] at denotes
      cases denotes
    next => rfl

theorem elapsed_marker_eq_ok_iff :
    clock.marker.elapsed = .ok time ↔ clock.Convertible ∧ time = clock.time := by
  rw [elapsed_marker]
  constructor
  · intro converted
    split at converted
    · cases converted
    next few =>
      split at converted
      · cases converted
      next few' =>
        split at converted
        · cases converted
        next below =>
          exact ⟨⟨not_lt.mp few, not_lt.mp few', not_le.mp below⟩,
            (Except.ok.inj converted).symm⟩
  · rintro ⟨⟨few, few', below⟩, rfl⟩
    rw [if_neg (not_lt.mpr few), if_neg (not_lt.mpr few'), if_neg (not_le.mpr below)]

theorem part_nonneg (clock : Clock) : 0 ≤ clock.part :=
  add_nonneg (Nat.cast_nonneg _) (div_nonneg (Nat.cast_nonneg _) (by positivity))

/-- Nothing is lost to rounding where the sum and its parts are binary64 numbers. -/
theorem toRat?_time (whole : Binary64.isRepresentable clock.whole = true)
    (part : Binary64.isRepresentable clock.part = true)
    (sum : Binary64.isRepresentable (clock.whole + clock.part) = true) :
    clock.time.toRat? = some clock.value := by
  have denotes := Binary64.toRat?_ofRat_self (Nat.cast_nonneg _) whole
  have denotes' := Binary64.toRat?_ofRat_self clock.part_nonneg part
  have total : (Binary64.ofRat clock.whole + Binary64.ofRat clock.part).toRat? =
      some (clock.whole + clock.part) := by
    rcases Binary64.add_of_toRat? denotes denotes' with ⟨zero, zero'⟩ | added
    · rw [zero] at denotes
      rw [zero'] at denotes'
      rw [zero, zero', ← Option.some.inj denotes, ← Option.some.inj denotes', add_zero]
      rfl
    · rw [added]
      exact Binary64.toRat?_ofRat_self (add_nonneg (Nat.cast_nonneg _) clock.part_nonneg) sum
  unfold time value
  dsimp only
  split
  · exact Binary64.toRat?_neg total
  · exact total

end Times

end Clock

namespace Marker

section Lines

variable {key rest characters : List Char} {clock : Clock} {marker : Marker}

/-- The marker whose reading starts a list, white space in front apart. -/
def signed? (reading : List Char) : Option Marker :=
  match reading.dropWhile Text.isBlank with
  | '-' :: rest => takeClock? true rest
  | rest => takeClock? false rest

theorem signed?_text (solid : ∀ character ∈ clock.text, Text.isBlank character = false)
    (rest : List Char) :
    signed? (clock.text ++ rest) = takeClock? clock.negative (clock.unsigned ++ rest) := by
  have kept : (clock.text ++ rest).dropWhile Text.isBlank = clock.text ++ rest := by
    refine Text.dropWhile_of_head? fun character first => solid character ?_
    rw [List.head?_append_of_ne_nil _ clock.text_ne_nil] at first
    exact List.mem_of_head? first
  rw [signed?, kept]
  split
  next others shown =>
    have negative := (clock.head?_text_append rest).mp (by rw [shown]; rfl)
    rw [negative]
    unfold Clock.text at shown
    rw [if_pos negative, List.cons_append] at shown
    rw [(List.cons.inj shown).2]
  next plain =>
    have positive : ¬ clock.negative = true := by
      rw [← clock.head?_text_append rest, List.head?_eq_some_iff]
      rintro ⟨others, shown⟩
      exact plain others shown
    rw [Bool.not_eq_true] at positive
    rw [Clock.text, positive]
    rfl

theorem exists_of_signed? (taken : signed? characters = some marker) :
    ∃ clock : Clock, clock.Begins (characters.dropWhile Text.isBlank) := by
  unfold signed? at taken
  split at taken
  next rest shown =>
    obtain ⟨clock, rest', rfl, ends, negative, -⟩ := Clock.exists_of_takeClock? taken
    exact ⟨clock, rest', by simp [shown, Clock.text, negative], ends⟩
  next =>
    obtain ⟨clock, rest', whole, ends, positive, -⟩ := Clock.exists_of_takeClock? taken
    exact ⟨clock, rest', by simp [whole, Clock.text, positive], ends⟩

theorem start?_line (named : '=' ∉ key) (rest : List Char) :
    start? (key ++ '=' :: rest) =
      if key = "time".toList ∨ key = "out_time".toList then signed? rest else none := by
  split
  next ofTime => rcases ofTime with rfl | rfl <;> rfl
  next other =>
    have unnamed : ∀ name reading, '=' ∉ name → key ++ '=' :: rest = name ++ '=' :: reading →
        name = key := fun name reading absent same =>
      Text.eq_of_append_mark named absent same
    unfold start?
    split
    next => rfl
    next reading found =>
      rw [Text.dropStart?_eq_some_iff] at found
      -- What is found spells one of the names up to the first equals sign.
      refine absurd ?_ other
      cases out : Text.dropStart? ['o', 'u', 't', '_'] (key ++ '=' :: rest) with
      | none =>
          rw [withoutOut, out, Option.getD_none] at found
          exact .inl (unnamed "time".toList reading (by decide) found).symm
      | some behind =>
          rw [withoutOut, out, Option.getD_some] at found
          rw [Text.dropStart?_eq_some_iff, found] at out
          exact .inr (unnamed "out_time".toList reading (by decide) out).symm

theorem afterBlank?_append (solid : ∀ character ∈ characters, Text.isBlank character = false)
    (rest : List Char) : afterBlank? (characters ++ rest) = afterBlank? rest := by
  induction characters with
  | nil => rfl
  | cons character characters ih =>
      rw [List.forall_mem_cons] at solid
      simp [afterBlank?, solid.1, ih solid.2]

/-- The marker of a line is the one that its value starts with, if its name is a name of the
time. -/
theorem find?_text (line : ProgressLine) :
    find? line.text.toList =
      if line.OfTime then signed? (line.value ++ line.ending) else none := by
  have later : afterBlank? (line.key ++ '=' :: (line.value ++ line.ending)) = none := by
    have solid : ∀ character ∈ line.key ++ '=' :: line.value, Text.isBlank character = false := by
      intro character member
      rcases List.mem_append.mp member with inKey | inValue
      · exact line.solid character (List.mem_append_left _ inKey)
      · rcases List.mem_cons.mp inValue with rfl | inValue
        · decide
        · exact line.solid character (List.mem_append_right _ inValue)
    have ending : afterBlank? line.ending = none := by
      unfold ProgressLine.ending
      split <;> decide
    have whole := afterBlank?_append solid line.ending
    rw [List.append_assoc, List.cons_append, ending] at whole
    exact whole
  rw [find?, ProgressLine.text, String.toList_ofList, later, Option.or_none,
    start?_line line.named]
  rfl

theorem endsBefore_ending {line : ProgressLine} (ends : clock.EndsBefore rest) :
    clock.EndsBefore (rest ++ line.ending) := by
  have plain : ∀ character ∈ line.ending, character = '\n' := by
    unfold ProgressLine.ending
    split <;> simp
  constructor
  · intro character first
    rw [List.head?_append] at first
    cases shown : rest.head? with
    | none =>
        rw [shown, Option.none_or] at first
        rw [plain character (List.mem_of_head? first)]
        decide
    | some digit =>
        rw [shown, Option.some_or, Option.some.injEq] at first
        exact first ▸ ends.stops digit shown
  · intro none character beyond same
    match rest with
    | [] =>
        rw [List.nil_append] at same
        exact absurd (plain '.' (same ▸ List.mem_cons_self)) (by decide)
    | [_] =>
        have shown : line.ending = character :: beyond := (List.cons.inj same).2
        rw [plain character (shown ▸ List.mem_cons_self)]
        decide
    | _ :: _ :: _ =>
        simp only [List.cons_append, List.cons.injEq] at same
        obtain ⟨rfl, rfl, -⟩ := same
        exact ends.point none _ _ rfl

theorem signed?_of_begins (line : ProgressLine) (begins : clock.Begins line.value) :
    signed? (line.value ++ line.ending) = some clock.marker := by
  have solid : ∀ character ∈ clock.text, Text.isBlank character = false := fun character member =>
    line.solid character (List.mem_append_right _ (begins.starts.subset member))
  obtain ⟨rest, whole, ends⟩ := begins
  rw [whole, List.append_assoc, signed?_text solid]
  exact (endsBefore_ending ends).takeClock?

/-- What is taken from a value starts it: the end of the line belongs to no reading. -/
theorem exists_starts_of_signed? (line : ProgressLine)
    (taken : signed? (line.value ++ line.ending) = some marker) :
    ∃ clock : Clock, clock.text <+: line.value := by
  obtain ⟨clock, begins⟩ := exists_of_signed? taken
  have kept : (line.value ++ line.ending).dropWhile Text.isBlank = line.value ++ line.ending := by
    refine Text.dropWhile_of_head? fun character first => ?_
    by_cases filled : line.value = []
    · -- Nothing is left of the end of the line, and a reading is not empty.
      have nothing : (line.value ++ line.ending).dropWhile Text.isBlank = [] := by
        rw [filled, ProgressLine.ending]
        split <;> decide
      have starts := begins.starts
      rw [nothing, List.prefix_nil] at starts
      exact absurd starts clock.text_ne_nil
    · rw [List.head?_append_of_ne_nil _ filled] at first
      exact line.solid character (List.mem_append_right _ (List.mem_of_head? first))
  have starts := begins.starts
  rw [kept, ProgressLine.ending] at starts
  refine ⟨clock, ?_⟩
  split at starts
  · rcases List.prefix_concat_iff.mp starts with whole | within
    · exact absurd (whole ▸ by simp) clock.not_mem_text
    · exact within
  · simpa using starts

end Lines

section Reports

variable {line : ProgressLine} {clock : Clock} {time : Binary64}

theorem find?_of_begins (ofTime : line.OfTime) (begins : clock.Begins line.value) :
    find? line.text.toList = some clock.marker := by
  rw [find?_text, if_pos ofTime, signed?_of_begins line begins]

theorem find?_eq_none_iff :
    find? line.text.toList = none ↔
      ¬ (line.OfTime ∧ ∃ clock : Clock, clock.text <+: line.value) := by
  constructor
  · rintro none ⟨ofTime, clock, starts⟩
    obtain ⟨whole, begins⟩ := Clock.exists_begins starts
    rw [find?_of_begins ofTime begins] at none
    cases none
  · intro without
    rw [find?_text]
    split
    next ofTime =>
      by_contra some
      obtain ⟨marker, taken⟩ := Option.ne_none_iff_exists'.mp some
      exact without ⟨ofTime, exists_starts_of_signed? line taken⟩
    next => rfl

theorem read_eq_ok_none_iff : read line.text = .ok none ↔ find? line.text.toList = none := by
  unfold read
  split
  next none => exact iff_of_true rfl none
  next marker found =>
    refine iff_of_false (fun read => ?_) (by rw [found]; simp)
    cases reached : marker.elapsed <;> simp [reached, Except.map] at read

theorem read_of_begins (ofTime : line.OfTime) (begins : clock.Begins line.value) :
    read line.text = .ok (some time) ↔ clock.Convertible ∧ time = clock.time := by
  rw [← Clock.elapsed_marker_eq_ok_iff, read, find?_of_begins ofTime begins]
  change clock.marker.elapsed.map some = .ok (some time) ↔ _
  cases clock.marker.elapsed <;> simp [Except.map]

/-- A line of a report is a marker if and only if its name is a name of the time and its value
begins with a clock reading.  There is one such reading that takes all the digits.  If it can be
converted, its time is read off, and no line gives a time otherwise; this is the number that the
reading writes where that and its parts are binary64 numbers.  Counts of the time in smaller units
are no markers. -/
theorem read_report (line : ProgressLine) :
    (read line.text = .ok none ↔ ¬ (line.OfTime ∧ ∃ clock : Clock, clock.text <+: line.value)) ∧
      (∀ time, read line.text = .ok (some time) ↔
        line.OfTime ∧ ∃ clock : Clock, clock.Begins line.value ∧ clock.Convertible ∧
          time = clock.time) ∧
      (∀ clock other : Clock, clock.Begins line.value → other.Begins line.value →
        other = clock) ∧
      (∀ clock : Clock, Binary64.isRepresentable clock.whole = true →
        Binary64.isRepresentable clock.part = true →
        Binary64.isRepresentable (clock.whole + clock.part) = true →
        clock.time.toRat? = some clock.value) ∧
      (line.key = "out_time_us".toList ∨ line.key = "out_time_ms".toList →
        read line.text = .ok none) := by
  have unread : read line.text = .ok none ↔
      ¬ (line.OfTime ∧ ∃ clock : Clock, clock.text <+: line.value) :=
    read_eq_ok_none_iff.trans find?_eq_none_iff
  refine ⟨unread, fun time => ⟨fun told => ?_, ?_⟩, fun _ _ => Clock.Begins.unique,
    fun _ => Clock.toRat?_time, fun named => unread.mpr fun marks => ?_⟩
  · have marks : line.OfTime ∧ ∃ clock : Clock, clock.text <+: line.value := by
      by_contra without
      rw [unread.mpr without] at told
      cases told
    obtain ⟨ofTime, clock, starts⟩ := marks
    obtain ⟨whole, begins⟩ := Clock.exists_begins starts
    exact ⟨ofTime, whole, begins, (read_of_begins ofTime begins).mp told⟩
  · rintro ⟨ofTime, clock, begins, converted⟩
    exact (read_of_begins ofTime begins).mpr converted
  · rcases marks.1 with same | same <;> rw [same] at named <;> revert named <;> decide

example : read "time=-00:01:02.5\n" = .ok (some (.ofRat (-125 / 2))) := by
  decide +kernel

/-- Five seconds past midnight, with so many more zeros in front than one. -/
def paddedClock (zeros : Nat) : Clock where
  negative := false
  hours := List.replicate (zeros + 1) '0'
  minutes := ['0', '0']
  seconds := ['0', '5']
  fraction := []
  filled := by simp
  digits := by
    have zero : Text.isDecimalDigit '0' = true := by decide
    have five : Text.isDecimalDigit '5' = true := by decide
    simp only [List.forall_mem_cons, List.mem_replicate]
    exact ⟨fun _ drawn => drawn.2 ▸ zero, by simp [zero], by simp [zero, five], by simp⟩

def paddedLine (zeros : Nat) : ProgressLine where
  key := "out_time".toList
  value := (paddedClock zeros).text
  ended := false
  named := by decide
  solid := by
    intro character member
    have drawn : character ∈ ['o', 'u', 't', '_', 't', 'i', 'm', 'e', '0', ':', '5'] := by
      simpa [Clock.text, Clock.unsigned, Clock.places, paddedClock, or_assoc, or_left_comm]
        using member
    exact Text.kept_of_all (by decide) character drawn

theorem number_zeros (count : Nat) : Clock.number (List.replicate count '0') = 0 := by
  induction count with
  | zero => rfl
  | succ count ih => exact ih

/-- The hours are zero, and yet the line is refused. -/
theorem not_read_padded :
    (paddedLine 4300).OfTime ∧ (paddedClock 4300).Begins (paddedLine 4300).value ∧
      Clock.number (paddedClock 4300).hours = 0 ∧ Clock.number (paddedClock 4300).minutes = 0 ∧
      (paddedClock 4300).part = 5 ∧
      read (paddedLine 4300).text = .error (.tooManyDigits 4301) := by
  have begins : (paddedClock 4300).Begins (paddedLine 4300).value :=
    ⟨[], (List.append_nil _).symm, ⟨by simp [Stops], by simp⟩⟩
  have ofTime : (paddedLine 4300).OfTime := .inr rfl
  have length : (paddedClock 4300).hours.length = 4301 := List.length_replicate
  refine ⟨ofTime, begins, number_zeros 4301, rfl, ?_, ?_⟩
  · have seconds : Clock.number ['0', '5'] = 5 := by decide +kernel
    have none : Clock.number [] = 0 := rfl
    change (Clock.number ['0', '5'] : Rat) + Clock.number [] / 10 ^ 0 = 5
    rw [seconds, none]
    norm_num
  · rw [read, find?_of_begins ofTime begins]
    change (paddedClock 4300).marker.elapsed.map some = _
    rw [Clock.elapsed_marker, length]
    rfl

end Reports

end Marker

end Montage.Encode
