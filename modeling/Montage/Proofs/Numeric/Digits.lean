import Montage.Numeric.Decimal
import Montage.Numeric.Numeral
import Montage.Proofs.Text.Cutting
import Mathlib.Algebra.Order.Field.Power
import Mathlib.Data.List.Induction
import Mathlib.Logic.Function.Defs

/-!
# Digits

A whole number can be told from its digits, and the text of a number opens no bracket.  A number
written with a fixed count of digits, zeros in front, is read back from them.
-/

namespace Montage.Decimal

theorem digitsOf_injective : Function.Injective digitsOf := by
  intro first second same
  calc
    first = Nat.ofDigitChars 10 (digitsOf first) 0 := Nat.ofDigitChars_ten_toDigits.symm
    _ = Nat.ofDigitChars 10 (digitsOf second) 0 := by rw [same]
    _ = second := Nat.ofDigitChars_ten_toDigits

theorem toList_ofInt_natCast (value : Nat) : (ofInt value).toList = digitsOf value := by
  have nonneg : ¬ (value : Int) < 0 := by omega
  simp [ofInt, nonneg]

theorem ofInt_natCast_injective : Function.Injective fun value : Nat => ofInt value := by
  intro first second same
  apply digitsOf_injective
  rw [← toList_ofInt_natCast, ← toList_ofInt_natCast]
  exact congrArg String.toList same

theorem isDigit_of_mem_ofInt {value : Nat} {character : Char}
    (member : character ∈ (ofInt value).toList) : character.isDigit = true := by
  rw [toList_ofInt_natCast] at member
  exact Nat.isDigit_of_mem_toDigits (by decide) (by decide) member

theorem not_mem_digitsOf (value : Nat) : '[' ∉ digitsOf value := fun member =>
  absurd (Nat.isDigit_of_mem_toDigits (by decide) (by decide) member) (by decide)

theorem not_mem_ofInt_natCast (value : Nat) : '[' ∉ (ofInt value).toList := by
  rw [toList_ofInt_natCast]
  exact not_mem_digitsOf value

theorem not_mem_fixed (places : Nat) (value : Rat) : '[' ∉ (fixed places value).toList := by
  have sign : '[' ∉ if value < 0 then ['-'] else [] := by split <;> decide
  have padded : ∀ width count, '[' ∉ padZeros width (digitsOf count) := fun width count =>
    fun member => by
      rcases List.mem_append.mp member with zero | digit
      · exact absurd (List.eq_of_mem_replicate zero) (by decide)
      · exact not_mem_digitsOf count digit
  simp only [fixed, String.toList_ofList, List.mem_append, not_or]
  refine ⟨⟨sign, not_mem_digitsOf _⟩, ?_⟩
  split
  · simp
  · simp [padded]

theorem not_mem_fixedText (places : Nat) (number : Binary64) :
    '[' ∉ (fixedText places number).toList := by
  cases number with
  | nan => simp [fixedText]
  | infinite negative => cases negative <;> simp [fixedText]
  | negativeZero => simp [fixedText, not_mem_fixed]
  | finite value _ => exact not_mem_fixed places value

end Montage.Decimal

namespace Montage.Numeral

def digit (value : Nat) : Char := Char.ofNat (48 + value)

/-- The last digits of a number, from the first of them on. -/
def lastDigits : Nat → Nat → List Nat
  | 0, _ => []
  | count + 1, value => lastDigits count (value / 10) ++ [value % 10]

def field (count value : Nat) : List Char := (lastDigits count value).map digit

section Digits

variable {value : Nat} {values : List Nat}

theorem digit_spec (small : value < 10) :
    Text.digitValue? (digit value) = some value ∧ Text.isBlank (digit value) = false ∧
      digit value ∉ ['_', '-', '+', '\n', '\r', '\\', ':', ','] := by
  have all : ∀ value : Fin 10, Text.digitValue? (digit value) = some value.val ∧
      Text.isBlank (digit value) = false ∧
        digit value ∉ ['_', '-', '+', '\n', '\r', '\\', ':', ','] := by
    decide
  exact all ⟨value, small⟩

theorem exists_digit {character : Char} (isDigit : character.isDigit = true) :
    ∃ value : Fin 10, character = digit value := by
  obtain ⟨lower, upper⟩ : 48 ≤ character.toNat ∧ character.toNat ≤ 57 := by
    simpa [Char.isDigit, UInt32.le_iff_toNat_le] using isDigit
  refine ⟨⟨character.toNat - 48, by omega⟩, ?_⟩
  have point : 48 + (character.toNat - 48) = character.toNat := by omega
  rw [digit, point, Char.ofNat_toNat]

theorem digitValue?_lt {character : Char} (reads : Text.digitValue? character = some value) :
    value < 10 := by
  obtain ⟨first, found, same⟩ := Option.map_eq_some_iff.mp reads
  have inside := List.find?_some found
  simp only [Bool.and_eq_true, decide_eq_true_eq] at inside
  omega

theorem ofDigits_lt (small : ∀ value ∈ values, value < 10) :
    ofDigits values < 10 ^ values.length := by
  induction values using List.reverseRecOn with
  | nil => decide
  | append_singleton values value ih =>
      have last := small value (by simp)
      have front := ih fun other member => small other (List.mem_append_left _ member)
      simp only [ofDigits, List.foldl_append, List.foldl_cons, List.foldl_nil,
        List.length_append, List.length_singleton, Nat.pow_succ] at front ⊢
      omega

theorem ofDigits_append (values places : List Nat) :
    ofDigits (values ++ places) = ofDigits values * 10 ^ places.length + ofDigits places := by
  induction places using List.reverseRecOn with
  | nil => simp [ofDigits]
  | append_singleton places last ih =>
      simp only [ofDigits, List.foldl_append, List.foldl_cons, List.foldl_nil,
        List.length_append, List.length_singleton, Nat.pow_succ] at ih ⊢
      rw [ih]
      grind

theorem filterMap_digits (small : ∀ value ∈ values, value < 10) :
    (values.map digit).filterMap Text.digitValue? = values := by
  induction values with
  | nil => rfl
  | cons value values ih =>
      rw [List.forall_mem_cons] at small
      rw [List.map_cons, List.filterMap_cons, (digit_spec small.1).1]
      simp only [ih small.2]

theorem digitRun_digits (small : ∀ value ∈ values, value < 10) (afterDigit : Bool)
    (filled : values = [] → afterDigit = true) :
    digitRun Text.digitValue? afterDigit (values.map digit) = some values := by
  induction values generalizing afterDigit with
  | nil => simp [digitRun, filled rfl]
  | cons value values ih =>
      rw [List.forall_mem_cons] at small
      obtain ⟨reads, -, sign⟩ := digit_spec small.1
      have plain : digit value ≠ '_' := fun same => by simp [same] at sign
      simp [digitRun, plain, reads, ih small.2 true fun _ => rfl]

end Digits

section Fields

variable {count value : Nat}

theorem length_lastDigits (count value : Nat) : (lastDigits count value).length = count := by
  induction count generalizing value with
  | zero => rfl
  | succ count ih => simp [lastDigits, ih]

theorem field_succ (count value : Nat) :
    field (count + 1) value = field count (value / 10) ++ [digit (value % 10)] := by
  simp [field, lastDigits]

theorem lt_of_mem_lastDigits {last : Nat} (member : last ∈ lastDigits count value) :
    last < 10 := by
  induction count generalizing value with
  | zero => simp [lastDigits] at member
  | succ count ih =>
      rcases List.mem_append.mp member with earlier | here
      · exact ih earlier
      · rw [List.mem_singleton.mp here]
        omega

/-- A number is made up of its last digits if there are enough of them. -/
theorem ofDigits_lastDigits (small : value < 10 ^ count) :
    ofDigits (lastDigits count value) = value := by
  induction count generalizing value with
  | zero =>
      have zero : value = 0 := by simpa using small
      rw [zero]
      rfl
  | succ count ih =>
      have fewer : value / 10 < 10 ^ count := by
        rw [Nat.div_lt_iff_lt_mul (by decide)]
        rwa [Nat.pow_succ] at small
      have front := ih fewer
      simp only [ofDigits, lastDigits, List.foldl_append, List.foldl_cons,
        List.foldl_nil] at front ⊢
      rw [front]
      omega

theorem int?_field (filled : 0 < count) (few : count ≤ digitLimit) (small : value < 10 ^ count) :
    int? (field count value) = some (value : Int) := by
  have digits : ∀ last ∈ lastDigits count value, last < 10 := fun last =>
    lt_of_mem_lastDigits
  have width := length_lastDigits count value
  have trimmed : Text.Trimmed isBlank (field count value) := by
    have solid : ∀ character ∈ field count value, isBlank character = false := by
      intro character member
      obtain ⟨last, known, rfl⟩ := List.mem_map.mp member
      simp [isBlank, (digit_spec (digits last known)).2.1]
    exact ⟨fun character first => solid character (List.mem_of_head? first),
      fun character last => solid character (List.mem_of_getLast? last)⟩
  have unsigned : signed (field count value) = (false, field count value) := by
    cases shown : lastDigits count value with
    | nil =>
        rw [shown, List.length_nil] at width
        omega
    | cons last others =>
        have sign := (digit_spec (digits last (by simp [shown]))).2.2
        simp only [field, shown, List.map_cons]
        unfold signed
        split
        next rest same => simp [(List.cons.inj same).1] at sign
        next rest same => simp [(List.cons.inj same).1] at sign
        next => rfl
  have run : digitRun Text.digitValue? false (field count value) =
      some (lastDigits count value) := digitRun_digits digits false fun empty => by
    rw [empty, List.length_nil] at width
    omega
  have plain : ¬ digitLimit < (lastDigits count value).length := by omega
  simp [int?, readInt, Text.trimBy_of_trimmed trimmed, unsigned, run, plain,
    ofDigits_lastDigits small, Except.toOption]

/-- One or two ASCII digits are read as the number that they write. -/
theorem int?_ofDigitChars {characters : List Char} (digits : ∀ character ∈ characters,
      character.isDigit = true) (filled : characters ≠ []) (short : characters.length ≤ 2) :
    int? characters = some (Nat.ofDigitChars 10 characters 0 : Int) := by
  have single : ∀ value : Fin 10, int? [digit value] =
      some (Nat.ofDigitChars 10 [digit value] 0 : Int) := by
    decide +kernel
  have double : ∀ first second : Fin 10, int? [digit first, digit second] =
      some (Nat.ofDigitChars 10 [digit first, digit second] 0 : Int) := by
    decide +kernel
  match characters, filled, short with
  | [character], _, _ =>
      obtain ⟨value, rfl⟩ := exists_digit (digits character (by simp))
      exact single value
  | [character, other], _, _ =>
      obtain ⟨value, rfl⟩ := exists_digit (digits character (by simp))
      obtain ⟨value', rfl⟩ := exists_digit (digits other (by simp))
      exact double value value'

end Fields

end Montage.Numeral
