import Montage.Proofs.Numeric.Digits
import Montage.Proofs.Numeric.Order
import Mathlib.Algebra.Order.Group.Unbundled.Abs
import Mathlib.Data.List.DropRight
import Mathlib.Tactic.Linarith
import Mathlib.Tactic.NormNum
import Mathlib.Tactic.Ring

/-!
# Amounts

The text of an amount is the canonical decimal of the number to which the amount is rounded at six
decimal places, where a tie goes to the even neighbour.  What is written is therefore off by at
most half a millionth, and a larger amount is never written as a smaller number.
-/

namespace Montage

namespace Rounding

variable {value larger : Rat} {whole other : Int}

/-- The whole number nearest to a rational, which is even if there are two of them. -/
structure IsNearestEven (value : Rat) (whole : Int) : Prop where
  near : |(whole : Rat) - value| ≤ 1 / 2
  even : |(whole : Rat) - value| = 1 / 2 → Even whole

theorem isNearestEven_halfEven (value : Rat) : IsNearestEven value (halfEven value) := by
  have below : (value.floor : Rat) ≤ value := Rat.floor_le value
  have above : value < value.floor + 1 := by exact_mod_cast Rat.lt_floor_add_one value
  have down : |(value.floor : Rat) - value| = value - value.floor := by
    rw [abs_sub_comm, abs_of_nonneg (sub_nonneg.mpr below)]
  have up : |((value.floor + 1 : Int) : Rat) - value| = value.floor + 1 - value := by
    push_cast
    exact abs_of_nonneg (sub_nonneg.mpr above.le)
  unfold halfEven
  dsimp only
  split
  next low =>
    refine ⟨down.trans_le low.le, fun tie => ?_⟩
    rw [down] at tie
    exact absurd tie low.ne
  next notLow =>
    split
    next high =>
      refine ⟨by rw [up]; linarith, fun tie => ?_⟩
      rw [up] at tie
      linarith
    next notHigh =>
      have tie : value - value.floor = 1 / 2 := le_antisymm (not_lt.mp notHigh) (not_lt.mp notLow)
      split
      next even => exact ⟨(down.trans tie).le, fun _ => Int.even_iff.mpr even⟩
      next odd =>
        refine ⟨by rw [up]; linarith, fun _ => ?_⟩
        rw [Int.even_iff]
        omega

theorem IsNearestEven.neg (nearest : IsNearestEven value whole) :
    IsNearestEven (-value) (-whole) := by
  have same : |((-whole : Int) : Rat) - -value| = |(whole : Rat) - value| := by
    rw [Int.cast_neg, ← neg_sub', abs_neg]
  refine ⟨same.trans_le nearest.near, fun tie => ?_⟩
  exact (nearest.even (same.symm.trans tie)).neg

/-- Rounding keeps the order: where two numbers would pass each other, both would be ties. -/
theorem IsNearestEven.le (nearest : IsNearestEven value whole)
    (nearest' : IsNearestEven larger other) (atMost : value ≤ larger) : whole ≤ other := by
  by_contra passes
  have apart : (other : Rat) + 1 ≤ whole := by exact_mod_cast not_le.mp passes
  have reached := abs_le.mp nearest.near
  have reached' := abs_le.mp nearest'.near
  have tie : |(whole : Rat) - value| = 1 / 2 := by
    rw [abs_of_nonneg (by linarith)]
    linarith
  have tie' : |(other : Rat) - larger| = 1 / 2 := by
    rw [abs_of_nonpos (by linarith)]
    linarith
  have next : whole = other + 1 := by
    have close : (whole : Rat) ≤ other + 1 := by linarith
    have close' : whole ≤ other + 1 := by exact_mod_cast close
    omega
  have even := Int.even_iff.mp (nearest.even tie)
  have even' := Int.even_iff.mp (nearest'.even tie')
  omega

end Rounding

namespace Decimal

/-- A decimal as it is written: a minus sign or none, the digits before the point, and those
behind it. -/
structure Written where
  negative : Bool
  whole : List Char
  fraction : List Char
  deriving DecidableEq

namespace Written

/-- The text of a decimal, which has no point if there are no digits behind it. -/
def text (written : Written) : List Char :=
  (if written.negative then ['-'] else []) ++ written.whole ++
    (if written.fraction = [] then [] else '.' :: written.fraction)

def read (text : List Char) : Written :=
  let negative := text.head? == some '-'
  let unsigned := if negative then text.tail else text
  ⟨negative, unsigned.takeWhile Char.isDigit, (unsigned.dropWhile Char.isDigit).tail⟩

def value (written : Written) : Rat :=
  (if written.negative then -1 else 1) * (Nat.ofDigitChars 10 written.whole 0 +
    Nat.ofDigitChars 10 written.fraction 0 / 10 ^ written.fraction.length)

/-- Decimals with at most six places and nothing superfluous: no zero in front of other digits,
none at the end of the places, and no sign on zero. -/
structure IsCanonical (written : Written) : Prop where
  digits : ∀ character ∈ written.whole ++ written.fraction, character.isDigit = true
  filled : written.whole ≠ []
  leading : written.whole.head? = some '0' → written.whole = ['0']
  places : written.fraction.length ≤ 6
  trailing : written.fraction.getLast? ≠ some '0'
  signed : written.negative = true → written.value ≠ 0

theorem read_text {written : Written} (digits : ∀ character ∈ written.whole, character.isDigit)
    (filled : written.whole ≠ []) : read written.text = written := by
  obtain ⟨negative, whole, fraction⟩ := written
  obtain ⟨first, rest, rfl⟩ := List.exists_cons_of_ne_nil filled
  have plain : first ≠ '-' := by
    rintro rfl
    exact absurd (digits '-' List.mem_cons_self) (by decide)
  -- Behind the whole digits there is nothing, or a point and the fraction.
  obtain ⟨behind, point, taken, dropped, tail⟩ : ∃ behind,
      (if fraction = [] then [] else '.' :: fraction) = behind ∧
      (first :: rest ++ behind).takeWhile Char.isDigit = first :: rest ∧
      (first :: rest ++ behind).dropWhile Char.isDigit = behind ∧ behind.tail = fraction := by
    refine ⟨_, rfl, ?_, ?_, ?_⟩
    · rw [List.takeWhile_append_of_pos digits]
      split <;> simp
    · rw [List.dropWhile_append_of_pos digits]
      split <;> simp
    · split <;> simp [*]
  rw [List.cons_append] at taken dropped
  cases negative with
  | true => simp [read, text, point, taken, dropped, tail]
  | false => simp [read, text, point, plain, taken, dropped, tail]

end Written

section Digits

theorem length_digitsOf_le {count places : Nat} (positive : 0 < places)
    (small : count < 10 ^ places) : (digitsOf count).length ≤ places :=
  (Nat.length_toDigits_le_iff (by decide) positive).mpr small

/-- Only the number zero has a zero for its first digit. -/
theorem eq_zero_of_head?_digitsOf {count : Nat} (leads : (digitsOf count).head? = some '0') :
    count = 0 := by
  induction count using Nat.strong_induction_on with
  | _ count ih =>
    by_cases small : count < 10
    · have one : digitsOf count = [Nat.digitChar count] := Nat.toDigits_of_lt_base small
      have all : ∀ digit : Fin 10, Nat.digitChar digit = '0' → digit.val = 0 := by decide
      rw [one, List.head?_cons, Option.some.injEq] at leads
      exact all ⟨count, small⟩ leads
    · have more : digitsOf count = digitsOf (count / 10) ++ [Nat.digitChar (count % 10)] :=
        Nat.toDigits_of_base_le (by decide) (not_lt.mp small)
      have filled : digitsOf (count / 10) ≠ [] := Nat.toDigits_ne_nil
      have first := List.head?_eq_some_head filled
      rw [more, List.head?_append, first, Option.some_or, ← first] at leads
      have zero := ih (count / 10) (by omega) leads
      omega

theorem digitsOf_eq_of_head? {count : Nat} (leads : (digitsOf count).head? = some '0') :
    digitsOf count = ['0'] := by
  rw [eq_zero_of_head?_digitsOf leads]
  rfl

theorem ofDigitChars_digitsOf (count : Nat) : Nat.ofDigitChars 10 (digitsOf count) 0 = count :=
  Nat.ofDigitChars_ten_toDigits

theorem length_padZeros {width : Nat} {digits : List Char} (fits : digits.length ≤ width) :
    (padZeros width digits).length = width := by
  simp only [padZeros, List.length_append, List.length_replicate]
  omega

theorem ofDigitChars_padZeros (width : Nat) (digits : List Char) :
    Nat.ofDigitChars 10 (padZeros width digits) 0 = Nat.ofDigitChars 10 digits 0 := by
  rw [padZeros, Nat.ofDigitChars_append, Nat.ofDigitChars_replicate_zero, mul_zero]

/-- Zeros at the end of the places change nothing. -/
theorem fraction_rdropWhile (digits : List Char) :
    (Nat.ofDigitChars 10 (digits.rdropWhile (· == '0')) 0 : Rat) /
        10 ^ (digits.rdropWhile (· == '0')).length =
      Nat.ofDigitChars 10 digits 0 / 10 ^ digits.length := by
  induction digits using List.reverseRecOn with
  | nil => rfl
  | append_singleton digits last ih =>
    by_cases zero : last = '0'
    · have shifted : Nat.ofDigitChars 10 (digits ++ ['0']) 0 =
          10 * Nat.ofDigitChars 10 digits 0 := by
        rw [Nat.ofDigitChars_append]
        rfl
      rw [zero, List.rdropWhile_concat_pos _ _ _ rfl, ih, shifted, List.length_append,
        List.length_singleton, pow_succ]
      push_cast
      rw [mul_comm (10 ^ digits.length : Rat), mul_div_mul_left _ _ (by norm_num)]
    · rw [List.rdropWhile_concat_neg _ _ _ (by simpa using zero)]

end Digits

section Amounts

variable {number : Binary64} {value : Rat}

def millionths (negative : Bool) (count : Nat) : Written where
  negative := negative && count != 0
  whole := digitsOf (count / 1000000)
  fraction := (padZeros 6 (digitsOf (count % 1000000))).rdropWhile (· == '0')

theorem value_millionths (negative : Bool) (count : Nat) :
    (millionths negative count).value = (if negative then -1 else 1) * (count / 1000000) := by
  have places : (digitsOf (count % 1000000)).length ≤ 6 :=
    length_digitsOf_le (by decide) (Nat.mod_lt _ (by decide))
  have whole : (count : Rat) = 1000000 * (count / 1000000 : Nat) + (count % 1000000 : Nat) := by
    exact_mod_cast (Nat.div_add_mod count 1000000).symm
  have unsigned : (Nat.ofDigitChars 10 (millionths negative count).whole 0 : Rat) +
      Nat.ofDigitChars 10 (millionths negative count).fraction 0 /
        10 ^ (millionths negative count).fraction.length = count / 1000000 := by
    rw [millionths, fraction_rdropWhile, ofDigitChars_padZeros, length_padZeros places,
      ofDigitChars_digitsOf, ofDigitChars_digitsOf, whole]
    norm_num
    ring
  rw [Written.value, unsigned]
  -- Without millionths there is no sign, and none is missed.
  rcases Nat.eq_zero_or_pos count with rfl | positive
  · simp
  · simp [millionths, positive.ne']

theorem isCanonical_millionths (negative : Bool) (count : Nat) :
    (millionths negative count).IsCanonical := by
  have places : (digitsOf (count % 1000000)).length ≤ 6 :=
    length_digitsOf_le (by decide) (Nat.mod_lt _ (by decide))
  have kept : (millionths negative count).fraction <+: padZeros 6 (digitsOf (count % 1000000)) :=
    List.rdropWhile_prefix _ _
  refine ⟨?_, Nat.toDigits_ne_nil, digitsOf_eq_of_head?, ?_, ?_, ?_⟩
  · have isDigit : ∀ number, ∀ character ∈ digitsOf number, character.isDigit = true := by
      intro number character member
      exact Nat.isDigit_of_mem_toDigits (by decide) (by decide) member
    intro character member
    rcases List.mem_append.mp member with whole | place
    · exact isDigit _ character whole
    · rcases List.mem_append.mp (kept.subset place) with zero | digit
      · rw [List.eq_of_mem_replicate zero]
        rfl
      · exact isDigit _ character digit
  · exact kept.length_le.trans (length_padZeros places).le
  · intro last
    have filled : (millionths negative count).fraction ≠ [] := by
      intro empty
      simp [empty] at last
    have solid := List.rdropWhile_last_not (· == '0') _ filled
    rw [List.getLast?_eq_some_getLast filled, Option.some.injEq] at last
    exact solid (beq_iff_eq.mpr last)
  · intro signed
    have both : negative = true ∧ count ≠ 0 := by simpa [millionths] using signed
    rw [value_millionths]
    simp [both.1, both.2]

theorem amountOfRat_eq (value : Rat) :
    amountOfRat value =
      (millionths (decide (value < 0)) (Rounding.halfEven (value.abs * 1000000)).toNat).text := by
  unfold amountOfRat Written.text millionths
  simp only [List.rdropWhile, Bool.and_eq_true, decide_eq_true_eq, bne_iff_ne, List.isEmpty_iff,
    List.reverse_eq_nil_iff]

/-- Rounding does not see the sign. -/
theorem isNearestEven_scaled (value : Rat) :
    Rounding.IsNearestEven (value * 1000000) ((if value < 0 then -1 else 1) *
      ((Rounding.halfEven (value.abs * 1000000)).toNat : Int)) := by
  have nonneg : 0 ≤ value.abs * 1000000 := mul_nonneg (Rat.abs_nonneg) (by norm_num)
  have whole : ((Rounding.halfEven (value.abs * 1000000)).toNat : Int) =
      Rounding.halfEven (value.abs * 1000000) :=
    Int.toNat_of_nonneg (Rounding.halfEven_nonneg nonneg)
  have nearest := Rounding.isNearestEven_halfEven (value.abs * 1000000)
  rw [whole]
  split
  next below =>
    have opposite : value * 1000000 = -(value.abs * 1000000) := by
      rw [Rat.abs_of_nonpos below.le, neg_mul, neg_neg]
    rw [opposite, neg_one_mul]
    exact nearest.neg
  next above =>
    have same : value.abs = value := Rat.abs_of_nonneg (not_lt.mp above)
    rw [one_mul, same]
    rwa [same] at nearest

def rounded (value : Rat) : Written :=
  millionths (decide (value < 0)) (Rounding.halfEven (value.abs * 1000000)).toNat

theorem toList_amount (denotes : number.toRat? = some value) :
    (amount number).toList = (rounded value).text := by
  cases number with
  | nan | infinite => simp [Binary64.toRat?] at denotes
  | negativeZero =>
      obtain rfl := Option.some.inj denotes
      decide +kernel
  | finite exact representable =>
      obtain rfl := Option.some.inj denotes
      rw [amount, String.toList_ofList, amountOfRat_eq]
      rfl

theorem read_amount (denotes : number.toRat? = some value) :
    Written.read (amount number).toList = rounded value := by
  have canonical : (rounded value).IsCanonical := isCanonical_millionths _ _
  rw [toList_amount denotes]
  exact Written.read_text (fun character member => canonical.digits character
    (List.mem_append_left _ member)) canonical.filled

theorem exists_value_rounded (value : Rat) :
    ∃ whole : Int, (rounded value).value = whole / 1000000 ∧
      Rounding.IsNearestEven (value * 1000000) whole := by
  refine ⟨_, ?_, isNearestEven_scaled value⟩
  rw [rounded, value_millionths]
  simp only [decide_eq_true_eq]
  push_cast
  rw [mul_div_assoc]

/-- An amount is written as a canonical decimal.  It denotes the amount rounded to six places, a tie
to the even neighbour, so it is off by at most half a millionth, and what a larger amount is
written as is not smaller. -/
theorem amount_canonical_nearest (denotes : number.toRat? = some value) :
    let written := Written.read (amount number).toList
    written.text = (amount number).toList ∧ written.IsCanonical ∧
      (∃ whole : Int, written.value = whole / 1000000 ∧
        Rounding.IsNearestEven (value * 1000000) whole) ∧
      |written.value - value| ≤ 1 / 2000000 ∧
      ∀ larger other, larger.toRat? = some other → value ≤ other →
        written.value ≤ (Written.read (amount larger).toList).value := by
  intro written
  have same : written = rounded value := read_amount denotes
  obtain ⟨whole, millionths, nearest⟩ := exists_value_rounded value
  rw [same, toList_amount denotes]
  refine ⟨rfl, isCanonical_millionths _ _, ⟨whole, millionths, nearest⟩, ?_, ?_⟩
  · have near := abs_le.mp nearest.near
    rw [millionths, abs_le]
    constructor <;> linarith
  · intro larger other denotes' atMost
    obtain ⟨whole', millionths', nearest'⟩ := exists_value_rounded other
    have kept : whole ≤ whole' := nearest.le nearest' (by linarith)
    rw [read_amount denotes', millionths, millionths']
    exact div_le_div_of_nonneg_right (by exact_mod_cast kept) (by norm_num)

def halfwayAmount : Binary64 := .finite (-1 / 128) (by decide +kernel)

theorem amount_canonical_nearest_halfway :
    halfwayAmount.toRat? = some (-1 / 128) ∧ amount halfwayAmount = "-0.007812" ∧
      (Written.read "-0.007812".toList).IsCanonical ∧
      (∃ whole : Int, (Written.read "-0.007812".toList).value = whole / 1000000 ∧
        Rounding.IsNearestEven (-1 / 128 * 1000000) whole) ∧
      (Written.read "-0.007812".toList).value ≤ (Written.read (amount .zero).toList).value := by
  have denotes : halfwayAmount.toRat? = some (-1 / 128) := rfl
  have shown : amount halfwayAmount = "-0.007812" := by decide +kernel
  obtain ⟨-, canonical, rounded, -, ordered⟩ := amount_canonical_nearest denotes
  rw [shown] at canonical rounded ordered
  exact ⟨denotes, shown, canonical, rounded, ordered .zero 0 rfl (by norm_num)⟩

end Amounts

end Decimal

end Montage
