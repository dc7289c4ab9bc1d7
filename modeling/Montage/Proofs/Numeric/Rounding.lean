import Montage.Proofs.Numeric.Order
import Mathlib.Algebra.Order.Field.Power
import Mathlib.Algebra.Order.Floor.Ring
import Mathlib.Data.Rat.Floor
import Mathlib.Tactic.Linarith
import Mathlib.Tactic.NormNum

/-!
# Rounded sums

A rational is never rounded down past a binary64 number that is at most it, so a sum with
something positive does not fall below the number to which it is added.
-/

namespace Montage

namespace Rounding

theorem le_halfEven {value : Rat} {whole : Int} (atMost : (whole : Rat) ≤ value) :
    whole ≤ halfEven value := by
  have below : whole ≤ value.floor := Rat.le_floor_iff.mpr atMost
  unfold halfEven
  dsimp only
  split
  · exact below
  · split
    · omega
    · split <;> omega

theorem halfEven_le {value : Rat} {whole : Int} (atMost : value ≤ whole) :
    halfEven value ≤ whole := by
  have below : (value.floor : Rat) ≤ value := Rat.floor_le value
  have reached : value.floor ≤ whole := by exact_mod_cast below.trans atMost
  unfold halfEven
  dsimp only
  split
  · exact reached
  next above =>
    have apart : (value.floor : Rat) < value := by linarith
    have passed : value.floor < whole := by exact_mod_cast apart.trans_le atMost
    split
    · omega
    · split <;> omega

theorem halfEven_intCast (whole : Int) : halfEven whole = whole := by
  simp [halfEven]

theorem log2_spec {number : Nat} (nonzero : number ≠ 0) :
    (2 : Rat) ^ (number.log2 : Int) ≤ number ∧
      (number : Rat) < (2 : Rat) ^ ((number.log2 : Int) + 1) := by
  have lower := Nat.log2_self_le nonzero
  have upper := Nat.lt_log2_self (n := number)
  constructor
  · exact_mod_cast lower
  · exact_mod_cast upper

variable {value : Rat}

/-- The exponent at which a logarithm is first looked for is right or too large by one. -/
theorem estimate_spec (positive : 0 < value) :
    let estimate : Int := (value.num.toNat.log2 : Int) - (value.den.log2 : Int)
    (2 : Rat) ^ (estimate - 1) < value ∧ value < (2 : Rat) ^ (estimate + 1) := by
  have above : 0 < value.num := Rat.num_pos.mpr positive
  have nonzero : value.num.toNat ≠ 0 := by omega
  obtain ⟨lower, upper⟩ := log2_spec nonzero
  obtain ⟨lower', upper'⟩ := log2_spec value.den_ne_zero
  have whole : (value.num.toNat : Rat) = value * value.den := by
    rw [Rat.mul_den_eq_num]
    exact_mod_cast Int.toNat_of_nonneg above.le
  rw [whole] at lower upper
  have divisor : (0 : Rat) < value.den := by exact_mod_cast value.den_pos
  intro estimate
  constructor
  · have power : (2 : Rat) ^ (estimate - 1) * 2 ^ ((value.den.log2 : Int) + 1) =
        2 ^ (value.num.toNat.log2 : Int) := by
      rw [← zpow_add₀ two_ne_zero]
      congr 1
      omega
    refine lt_of_mul_lt_mul_right ?_ divisor.le
    calc (2 : Rat) ^ (estimate - 1) * value.den
        < 2 ^ (estimate - 1) * 2 ^ ((value.den.log2 : Int) + 1) :=
          mul_lt_mul_of_pos_left upper' (zpow_pos two_pos _)
      _ = 2 ^ (value.num.toNat.log2 : Int) := power
      _ ≤ value * value.den := lower
  · have power : (2 : Rat) ^ (estimate + 1) * 2 ^ (value.den.log2 : Int) =
        2 ^ ((value.num.toNat.log2 : Int) + 1) := by
      rw [← zpow_add₀ two_ne_zero]
      congr 1
      omega
    refine lt_of_mul_lt_mul_right ?_ divisor.le
    calc value * value.den
        < 2 ^ ((value.num.toNat.log2 : Int) + 1) := upper
      _ = 2 ^ (estimate + 1) * 2 ^ (value.den.log2 : Int) := power.symm
      _ ≤ 2 ^ (estimate + 1) * value.den :=
          mul_le_mul_of_nonneg_left lower' (zpow_pos two_pos _).le

theorem floorLogTwo_spec (positive : 0 < value) :
    (2 : Rat) ^ floorLogTwo value ≤ value ∧ value < (2 : Rat) ^ (floorLogTwo value + 1) := by
  obtain ⟨lower, upper⟩ := estimate_spec positive
  unfold floorLogTwo
  dsimp only
  split
  next fits => exact ⟨fits, upper⟩
  next exceeds =>
    rw [sub_add_cancel]
    exact ⟨lower.le, not_le.mp exceeds⟩

end Rounding

namespace Binary64

variable {number value : Rat}

/-- A whole multiple of the unit to which a rational is rounded is passed by no rounding. -/
theorem multiple_le_nearest (positive : 0 < value) {count : Int}
    (atMost : count * (2 : Rat) ^ gridExponent value ≤ value) :
    count * (2 : Rat) ^ gridExponent value ≤ nearest value := by
  have unit : 0 < (2 : Rat) ^ gridExponent value := zpow_pos two_pos _
  have reached : count ≤ Rounding.halfEven (value / (2 : Rat) ^ gridExponent value) :=
    Rounding.le_halfEven ((le_div_iff₀ unit).mpr atMost)
  rw [nearest, if_neg positive.ne']
  exact mul_le_mul_of_nonneg_right (by exact_mod_cast reached) unit.le

theorem exists_multiple (representable : isRepresentable number = true) (nonzero : number ≠ 0) :
    ∃ count : Int, number = count * (2 : Rat) ^ gridExponent number := by
  have whole : (number / (2 : Rat) ^ gridExponent number).den = 1 := by
    simp only [isRepresentable, nonzero, decide_false, Bool.false_or, Bool.and_eq_true,
      beq_iff_eq] at representable
    exact representable.1
  refine ⟨(number / (2 : Rat) ^ gridExponent number).num, ?_⟩
  rw [Rat.coe_int_num_of_den_eq_one whole]
  exact (div_mul_cancel₀ _ (zpow_pos two_pos _).ne').symm

theorem exists_multiple_of_le (representable : isRepresentable number = true) {exponent : Int}
    (finer : exponent ≤ gridExponent number) :
    ∃ count : Int, number = count * (2 : Rat) ^ exponent := by
  by_cases zero : number = 0
  · exact ⟨0, by rw [zero, Int.cast_zero, zero_mul]⟩
  obtain ⟨count, multiple⟩ := exists_multiple representable zero
  obtain ⟨gap, sum⟩ := Int.le.dest finer
  refine ⟨count * 2 ^ gap, ?_⟩
  push_cast
  rw [mul_assoc, ← zpow_natCast, ← zpow_add₀ two_ne_zero, add_comm (gap : Int), sum]
  exact multiple

theorem nearest_of_isRepresentable (representable : isRepresentable number = true) :
    nearest number = number := by
  by_cases zero : number = 0
  · simp [nearest, zero]
  · obtain ⟨count, multiple⟩ := exists_multiple representable zero
    have unit : (2 : Rat) ^ gridExponent number ≠ 0 := (zpow_pos two_pos _).ne'
    have quotient : number / (2 : Rat) ^ gridExponent number = count := by
      rw [div_eq_iff unit]
      exact multiple
    rw [nearest, if_neg zero]
    dsimp only
    rw [quotient, Rounding.halfEven_intCast]
    exact multiple.symm

theorem isRepresentable_neg (representable : isRepresentable number = true) :
    isRepresentable (-number) = true := by
  have same : gridExponent (-number) = gridExponent number := by
    simp [gridExponent, Rat.abs_neg]
  simpa [isRepresentable, same, neg_div, Rat.abs_neg] using representable

theorem gridExponent_of_pos (positive : 0 < value) :
    gridExponent value = max (Rounding.floorLogTwo value - 52) (-1074) := by
  rw [gridExponent, Rat.abs_of_nonneg positive.le]

/-- A power of two that is not among the finest numbers is passed by no rounding. -/
theorem power_le_nearest (positive : 0 < value)
    (coarse : gridExponent value = Rounding.floorLogTwo value - 52) :
    (2 : Rat) ^ Rounding.floorLogTwo value ≤ nearest value := by
  have power : ((2 ^ 52 : Int) : Rat) * (2 : Rat) ^ gridExponent value =
      2 ^ Rounding.floorLogTwo value := by
    have count : ((2 ^ 52 : Int) : Rat) = (2 : Rat) ^ (52 : Int) := by norm_num
    rw [coarse, count, ← zpow_add₀ two_ne_zero]
    congr 1
    omega
  rw [← power]
  exact multiple_le_nearest positive (power ▸ (Rounding.floorLogTwo_spec positive).1)

theorem le_nearest (representable : isRepresentable number = true) (nonneg : 0 ≤ number)
    (atMost : number ≤ value) : number ≤ nearest value := by
  rcases nonneg.eq_or_lt with rfl | positive
  · exact nearest_nonneg atMost
  have positive' : 0 < value := positive.trans_le atMost
  by_cases finer : gridExponent value ≤ gridExponent number
  · obtain ⟨count, multiple⟩ := exists_multiple_of_le representable finer
    rw [multiple] at atMost ⊢
    exact multiple_le_nearest positive' atMost
  -- A power of two lies between the number and the other one.
  · have grid := gridExponent_of_pos positive
    have grid' := gridExponent_of_pos positive'
    have apart : Rounding.floorLogTwo number + 1 ≤ Rounding.floorLogTwo value := by omega
    calc number
        ≤ 2 ^ (Rounding.floorLogTwo number + 1) := (Rounding.floorLogTwo_spec positive).2.le
      _ ≤ 2 ^ Rounding.floorLogTwo value := zpow_le_zpow_right₀ one_le_two apart
      _ ≤ nearest value := power_le_nearest positive' (by omega)

/-- A multiple of a power of two is a binary64 number if it has at most 53 binary digits and is
within range. -/
theorem isRepresentable_multiple {count : Nat} {exponent : Int} (few : count < 2 ^ 53)
    (fine : -1074 ≤ exponent) (bounded : (count : Rat) * 2 ^ exponent < 2 ^ (1024 : Nat)) :
    isRepresentable ((count : Rat) * 2 ^ exponent) = true := by
  rcases Nat.eq_zero_or_pos count with rfl | above
  · simp [isRepresentable]
  have unit : (0 : Rat) < 2 ^ exponent := zpow_pos two_pos _
  have positive : 0 < (count : Rat) * 2 ^ exponent := mul_pos (Nat.cast_pos.mpr above) unit
  have absolute : ((count : Rat) * 2 ^ exponent).abs = (count : Rat) * 2 ^ exponent :=
    Rat.abs_of_nonneg positive.le
  have grid : gridExponent ((count : Rat) * 2 ^ exponent) ≤ exponent := by
    have below : (count : Rat) * 2 ^ exponent < 2 ^ (53 + exponent) := by
      rw [zpow_add₀ two_ne_zero]
      have digits : (count : Rat) < 2 ^ (53 : Int) := by exact_mod_cast few
      exact mul_lt_mul_of_pos_right digits unit
    have reached := (Rounding.floorLogTwo_spec positive).1
    have order := (zpow_lt_zpow_iff_right₀ one_lt_two).mp (reached.trans_lt below)
    rw [gridExponent, absolute]
    omega
  obtain ⟨places, gap⟩ := Int.le.dest grid
  have quotient : (count : Rat) * 2 ^ exponent /
      2 ^ gridExponent ((count : Rat) * 2 ^ exponent) = ((count * 2 ^ places : Nat) : Rat) := by
    have split : (2 : Rat) ^ exponent =
        2 ^ places * 2 ^ gridExponent ((count : Rat) * 2 ^ exponent) := by
      rw [← zpow_natCast, ← zpow_add₀ two_ne_zero, add_comm, gap]
    rw [div_eq_iff (zpow_pos two_pos _).ne']
    push_cast
    rw [mul_assoc, ← split]
  have denominator : ((count : Rat) * 2 ^ exponent /
      2 ^ gridExponent ((count : Rat) * 2 ^ exponent)).den = 1 := by
    rw [quotient]
    exact Rat.den_natCast _
  simp only [isRepresentable, denominator, absolute, bounded, beq_self_eq_true, decide_true,
    Bool.and_self, Bool.or_true]

theorem isRepresentable_power {exponent : Int} (fine : -1074 ≤ exponent) (low : exponent < 1024) :
    isRepresentable ((2 : Rat) ^ exponent) = true := by
  have one : ((1 : Nat) : Rat) * 2 ^ exponent = 2 ^ exponent := by rw [Nat.cast_one, one_mul]
  have small : ((1 : Nat) : Rat) * 2 ^ exponent < 2 ^ (1024 : Nat) := by
    rw [one, ← zpow_natCast]
    exact zpow_lt_zpow_right₀ one_lt_two low
  exact one ▸ isRepresentable_multiple (by decide) fine small

/-- Whole numbers of at most 53 binary digits are binary64 numbers. -/
theorem isRepresentable_natCast {whole : Nat} (small : whole < 2 ^ 53) :
    isRepresentable (whole : Rat) = true := by
  have bounded : (whole : Rat) * 2 ^ (0 : Int) < 2 ^ (1024 : Nat) := by
    have digits : (whole : Rat) < 2 ^ (53 : Nat) := by exact_mod_cast small
    have large : (2 : Rat) ^ (53 : Nat) ≤ 2 ^ (1024 : Nat) :=
      pow_le_pow_right₀ one_le_two (by decide)
    rw [zpow_zero, mul_one]
    exact digits.trans_le large
  simpa using isRepresentable_multiple small (by decide) bounded

/-- Rationals of at most 53 binary digits are rounded to a unit that is at most one. -/
theorem gridExponent_nonpos (positive : 0 < value) (small : value < 2 ^ 53) :
    gridExponent value ≤ 0 := by
  obtain ⟨lower, -⟩ := Rounding.floorLogTwo_spec positive
  have first : Rounding.floorLogTwo value < 53 := by
    have below : (2 : Rat) ^ Rounding.floorLogTwo value < 2 ^ (53 : Int) := by
      exact_mod_cast lower.trans_lt small
    exact (zpow_lt_zpow_iff_right₀ one_lt_two).mp below
  rw [gridExponent_of_pos positive]
  omega

theorem nearest_lt_add_one (nonneg : 0 ≤ value) (small : value < 2 ^ 53) :
    nearest value < value + 1 := by
  rcases nonneg.eq_or_lt with rfl | positive
  · simp [nearest]
  have unit : (0 : Rat) < 2 ^ gridExponent value := zpow_pos two_pos _
  have fine : (2 : Rat) ^ gridExponent value ≤ 1 :=
    zpow_le_one_of_nonpos₀ one_le_two (gridExponent_nonpos positive small)
  have rounded := Rounding.halfEven_le (Int.le_ceil (value / 2 ^ gridExponent value))
  have above := Int.ceil_lt_add_one (value / 2 ^ gridExponent value)
  rw [nearest, if_neg positive.ne']
  calc (Rounding.halfEven (value / 2 ^ gridExponent value) : Rat) * 2 ^ gridExponent value
      < (value / 2 ^ gridExponent value + 1) * 2 ^ gridExponent value := by
        have counted : (Rounding.halfEven (value / 2 ^ gridExponent value) : Rat) ≤
            ⌈value / 2 ^ gridExponent value⌉ := by exact_mod_cast rounded
        exact mul_lt_mul_of_pos_right (counted.trans_lt above) unit
    _ = value + 2 ^ gridExponent value := by
        rw [add_mul, one_mul, div_mul_cancel₀ _ unit.ne']
    _ ≤ value + 1 := by linarith

/-- A rational is rounded to at most so many units as 53 binary digits count. -/
theorem exists_nearest_eq (positive : 0 < value) :
    ∃ count : Nat, count ≤ 2 ^ 53 ∧
      Rounding.halfEven (value / 2 ^ gridExponent value) = count ∧
      nearest value = (count : Rat) * 2 ^ gridExponent value := by
  have unit : (0 : Rat) < 2 ^ gridExponent value := zpow_pos two_pos _
  have wide : Rounding.floorLogTwo value + 1 ≤ 53 + gridExponent value := by
    have grid := gridExponent_of_pos positive
    omega
  have within : value / 2 ^ gridExponent value ≤ ((2 ^ 53 : Int) : Rat) := by
    rw [div_le_iff₀ unit]
    calc value
        ≤ 2 ^ (Rounding.floorLogTwo value + 1) := (Rounding.floorLogTwo_spec positive).2.le
      _ ≤ 2 ^ (53 + gridExponent value) := zpow_le_zpow_right₀ one_le_two wide
      _ = ((2 ^ 53 : Int) : Rat) * 2 ^ gridExponent value := by
          rw [zpow_add₀ two_ne_zero]
          norm_num
  have atMost := Rounding.halfEven_le within
  have least := Rounding.halfEven_nonneg (div_nonneg positive.le unit.le)
  obtain ⟨count, counted⟩ := Int.eq_ofNat_of_zero_le least
  refine ⟨count, by omega, counted, ?_⟩
  rw [nearest, if_neg positive.ne']
  dsimp only
  rw [counted, Int.cast_natCast]

/-- What a rational is rounded to is a binary64 number if it is within range. -/
theorem isRepresentable_nearest (nonneg : 0 ≤ value)
    (bounded : nearest value < 2 ^ (1024 : Nat)) : isRepresentable (nearest value) = true := by
  rcases nonneg.eq_or_lt with rfl | positive
  · decide
  obtain ⟨count, few, -, rounded⟩ := exists_nearest_eq positive
  have fine : -1074 ≤ gridExponent value := le_max_right _ _
  rw [rounded] at bounded ⊢
  -- Rounded up to a power of two, it is a multiple of twice the unit.
  rcases few.lt_or_eq with less | rfl
  · exact isRepresentable_multiple less fine bounded
  · have doubled : ((2 ^ 53 : Nat) : Rat) * 2 ^ gridExponent value =
        ((2 ^ 52 : Nat) : Rat) * 2 ^ (gridExponent value + 1) := by
      rw [zpow_add₀ two_ne_zero, zpow_one]
      push_cast
      linarith
    rw [doubled] at bounded ⊢
    exact isRepresentable_multiple (by decide) (by omega) bounded

theorem toRat?_ofRat_of_bounded (nonneg : 0 ≤ value) (bounded : nearest value < 2 ^ (1024 : Nat)) :
    (ofRat value).toRat? = some (nearest value) := by
  have representable := isRepresentable_nearest nonneg bounded
  have above : ¬ value < 0 := not_lt.mpr nonneg
  simp [ofRat, above, representable, toRat?]

theorem toRat?_ofRat (nonneg : 0 ≤ value) (small : value < 2 ^ 53) :
    (ofRat value).toRat? = some (nearest value) := by
  have room : (2 : Rat) ^ 54 < 2 ^ (1024 : Nat) := pow_lt_pow_right₀ one_lt_two (by decide)
  have near := nearest_lt_add_one nonneg small
  exact toRat?_ofRat_of_bounded nonneg (lt_trans (by linarith) room)

theorem toRat?_ofRat_self (nonneg : 0 ≤ value) (representable : isRepresentable value = true) :
    (ofRat value).toRat? = some value := by
  have above : ¬ value < 0 := not_lt.mpr nonneg
  simp [ofRat, nearest_of_isRepresentable representable, above, representable, toRat?]

theorem toRat?_ofInt_natCast {whole : Nat} (small : whole < 2 ^ 53) :
    (ofInt (whole : Int)).toRat? = some (whole : Rat) :=
  toRat?_ofRat_self (Nat.cast_nonneg whole) (isRepresentable_natCast small)

theorem zero_lt_ofInt_natCast {whole : Nat} (positive : 0 < whole) (small : whole < 2 ^ 53) :
    0 < ofInt (whole : Int) :=
  (lt_iff_of_toRat? toRat?_zero (toRat?_ofInt_natCast small)).mpr (Nat.cast_pos.mpr positive)

/-- A number of whole seconds and a fraction of a second have a finite sum. -/
theorem exists_toRat?_add {whole : Nat} {part : Rat} (few : whole < 2 ^ 52) (nonneg : 0 ≤ part)
    (small : part < 1) :
    ∃ total, (ofInt (whole : Int) + ofRat part).toRat? = some total ∧ 0 ≤ total := by
  have denotes := toRat?_ofInt_natCast (few.trans (by decide))
  have denotes' := toRat?_ofRat nonneg (small.trans (by norm_num))
  have least := nearest_nonneg nonneg
  rcases add_of_toRat? denotes denotes' with ⟨zero, zero'⟩ | sum
  · exact ⟨0, by rw [zero, zero']; rfl, le_rfl⟩
  · have part' := nearest_lt_add_one nonneg (small.trans (by norm_num))
    have whole' : (whole : Rat) < 2 ^ 52 := by exact_mod_cast few
    have nonneg' : 0 ≤ (whole : Rat) + nearest part := add_nonneg (Nat.cast_nonneg whole) least
    have small' : (whole : Rat) + nearest part < 2 ^ 53 := by linarith
    exact ⟨_, sum ▸ toRat?_ofRat nonneg' small', nearest_nonneg nonneg'⟩

section Sums

variable {first second : Binary64}

/-- What is rounded does not fall below a number that it is at least. -/
theorem rank_le_ofRat (representable : isRepresentable number = true)
    (nonneg : 0 ≤ number) (atMost : number ≤ value) :
    toLex (0, number) ≤ (ofRat value).rank ∧ ofRat value ≠ .nan := by
  have reached := le_nearest representable nonneg atMost
  have above : ¬ value < 0 := not_lt.mpr (nonneg.trans atMost)
  simp only [ofRat, above, and_false, if_false]
  split
  · exact ⟨by simpa [rank, Prod.Lex.toLex_le_toLex] using reached, by simp⟩
  · exact ⟨by simp [rank, Prod.Lex.toLex_le_toLex], by simp⟩

theorem le_infinite (known : first ≠ .nan) : first ≤ .infinite false := by
  rw [le_iff_rank known (by simp)]
  cases first with
  | infinite negative => cases negative <;> simp [rank, Prod.Lex.toLex_le_toLex]
  | nan | negativeZero | finite => simp [rank, Prod.Lex.toLex_le_toLex]

/-- A sum of numbers that are not below zero does not fall below the first of them. -/
theorem le_add_of_nonneg (nonneg : 0 ≤ first) (nonneg' : 0 ≤ second) : first ≤ first + second := by
  obtain ⟨-, known⟩ := ne_nan_of_le nonneg
  change first ≤ add first second
  -- A sum with an infinity is infinite, and another one is rounded.
  rcases zero_le_iff.mp nonneg with rfl | ⟨start, denotes, start_nonneg⟩
  · rcases zero_le_iff.mp nonneg' with rfl | ⟨added, denotes', -⟩
    · exact le_infinite known
    · cases second with
      | nan | infinite => simp [toRat?] at denotes'
      | negativeZero | finite => exact le_infinite known
  · rcases zero_le_iff.mp nonneg' with rfl | ⟨added, denotes', added_nonneg⟩
    · cases first with
      | nan | infinite => simp [toRat?] at denotes
      | negativeZero | finite => exact le_infinite known
    · rcases add_of_toRat? denotes denotes' with ⟨rfl, rfl⟩ | sum
      · exact Binary64.le_refl known
      · obtain ⟨reached, rounded⟩ := rank_le_ofRat (representable_of_toRat? denotes) start_nonneg
          (le_add_of_nonneg_right added_nonneg)
        change first ≤ first + second
        rw [sum, le_iff_rank known rounded, rank_of_toRat? denotes]
        exact reached

protected theorem add_comm (first second : Binary64) : first + second = second + first := by
  change add first second = add second first
  cases first <;> cases second
  case infinite.infinite negative negative' =>
    cases negative <;> cases negative' <;> rfl
  case finite.finite left _ right _ => exact congrArg ofRat (add_comm left right)
  all_goals rfl

/-- A sum of numbers that are not below zero is above zero if one of them is. -/
theorem add_pos (nonneg : 0 ≤ first) (positive : 0 < second) : 0 < first + second := by
  refine zero_lt_of_le positive ?_
  rw [Binary64.add_comm]
  exact le_add_of_nonneg (Binary64.le_of_lt positive) nonneg

theorem ofRat_ne_nan (value : Rat) : ofRat value ≠ .nan := by
  simp only [ofRat]
  split
  · simp
  · split <;> simp

/-- A sum with a finite number is no number only if the other one is none. -/
theorem add_ne_nan (finite : first.toRat?.isSome) (known : second ≠ .nan) :
    first + second ≠ .nan := by
  change add first second ≠ .nan
  cases first <;> cases second <;> simp_all [toRat?, add, ofRat_ne_nan]

theorem isSome_toRat?_neg (finite : first.toRat?.isSome) : (-first).toRat?.isSome := by
  change (neg first).toRat?.isSome
  cases first with
  | nan | infinite => simp [toRat?] at finite
  | negativeZero => simp [neg, zero, toRat?]
  | finite value representable =>
      have opposite := isRepresentable_neg representable
      unfold neg
      dsimp only
      split
      · simp [toRat?]
      next nonzero =>
        simp [ofRat, nearest_of_isRepresentable opposite, nonzero, opposite, toRat?]

/-- The difference between the ends of a section that are in order as far as they are numbers is a
number when they are. -/
theorem sub_eq_nan_iff (notBelow : ¬ first < 0) (notBefore : ¬ second ≤ first) :
    second - first = .nan ↔ first = .nan ∨ second = .nan := by
  have sum : second - first = second + -first := rfl
  constructor
  · intro undefined
    by_contra known
    push Not at known
    have nonneg := Binary64.le_of_not_lt known.1 (by decide) notBelow
    rcases zero_le_iff.mp nonneg with rfl | ⟨start, denotes, -⟩
    · exact notBefore (le_infinite known.2)
    · have finite : (-first).toRat?.isSome := isSome_toRat?_neg (by rw [denotes]; rfl)
      rw [sum, Binary64.add_comm] at undefined
      exact add_ne_nan finite known.2 undefined
  · rintro (rfl | rfl)
    · rw [sum, Binary64.add_comm]
      rfl
    · rfl

theorem toRat?_neg {value : Rat} (denotes : first.toRat? = some value) :
    (-first).toRat? = some (-value) := by
  change (neg first).toRat? = _
  cases first with
  | nan | infinite => simp [toRat?] at denotes
  | negativeZero =>
      obtain rfl := Option.some.inj denotes
      simp [neg, zero, toRat?]
  | finite other representable =>
      obtain rfl := Option.some.inj denotes
      have opposite := isRepresentable_neg representable
      unfold neg
      dsimp only
      split
      next zero => simp [toRat?, zero]
      next nonzero => simp [ofRat, nearest_of_isRepresentable opposite, nonzero, opposite, toRat?]

/-- A difference of finite numbers above each other does not vanish: it is at least the least
number above zero. -/
theorem sub_pos_of_toRat? {left right : Rat} (denotes : first.toRat? = some left)
    (denotes' : second.toRat? = some right) (apart : left < right) : 0 < second - first := by
  have coarse : ∀ number, (-1074 : Int) ≤ gridExponent number := fun _ => le_max_right _ _
  have power := isRepresentable_power (le_refl (-1074)) (by decide)
  generalize (-1074 : Int) = exponent at coarse power
  obtain ⟨count, multiple⟩ := exists_multiple_of_le (representable_of_toRat? denotes) (coarse left)
  obtain ⟨count', multiple'⟩ :=
    exists_multiple_of_le (representable_of_toRat? denotes') (coarse right)
  have unit : (0 : Rat) < 2 ^ exponent := zpow_pos two_pos _
  have reached : (2 : Rat) ^ exponent ≤ right + -left := by
    have more : count < count' := by
      rw [multiple, multiple'] at apart
      exact_mod_cast lt_of_mul_lt_mul_right apart unit.le
    have some : (1 : Rat) ≤ count' - count := by exact_mod_cast Int.sub_pos.mpr more
    calc (2 : Rat) ^ exponent
        = 1 * 2 ^ exponent := (one_mul _).symm
      _ ≤ (count' - count) * 2 ^ exponent := mul_le_mul_of_nonneg_right some unit.le
      _ = right + -left := by rw [multiple, multiple', sub_mul, sub_eq_add_neg]
  have sum : second - first = ofRat (right + -left) := by
    refine (add_of_toRat? denotes' (toRat?_neg denotes)).resolve_left ?_
    rintro ⟨rfl, zero⟩
    have opposite := toRat?_neg denotes
    rw [zero] at opposite
    have left_zero : 0 = -left := Option.some.inj opposite
    have right_zero : 0 = right := Option.some.inj denotes'
    linarith
  have above : (0 : Binary64) < .finite _ power :=
    (lt_iff_of_toRat? toRat?_zero rfl).mpr unit
  obtain ⟨risen, known⟩ := rank_le_ofRat power unit.le reached
  rw [sum]
  exact zero_lt_of_le above ((le_iff_rank (by simp) known).mpr risen)

theorem zero_le_sub {left right : Rat} (denotes : first.toRat? = some left)
    (denotes' : second.toRat? = some right) (order : left ≤ right) : 0 ≤ second - first := by
  rcases add_of_toRat? denotes' (toRat?_neg denotes) with ⟨zero, zero'⟩ | sum
  · have difference : second - first = negativeZero := by
      change second + -first = negativeZero
      rw [zero, zero']
      rfl
    rw [difference]
    decide
  · have nonneg : 0 ≤ right + -left := by linarith
    have zero : isRepresentable 0 = true := by decide
    obtain ⟨above, known⟩ := rank_le_ofRat zero le_rfl nonneg
    have difference : second - first = ofRat (right + -left) := sum
    rw [difference, le_iff_rank (by decide) known, rank_of_toRat? toRat?_zero]
    exact above

/-- What is above a finite number without being finite is infinite. -/
theorem infinite_of_lt {left : Rat} (denotes : first.toRat? = some left)
    (unknown : second.toRat? = none) (below : first < second) : second = .infinite false := by
  change less first second = true at below
  cases second with
  | negativeZero | finite => simp [toRat?] at unknown
  | nan => cases first <;> simp [less] at below
  | infinite negative =>
      cases first with
      | nan | infinite => simp [toRat?] at denotes
      | negativeZero | finite => simpa [less] using below

theorem infinite_sub {left : Rat} (denotes : first.toRat? = some left) (negative : Bool) :
    .infinite negative - first = .infinite negative := by
  change add (.infinite negative) (-first) = _
  have opposite := toRat?_neg denotes
  cases other : -first with
  | nan | infinite => simp [other, toRat?] at opposite
  | negativeZero | finite => rfl

/-- What remains of a section whose ends are in order, as far as they are numbers, is not at most
zero. -/
theorem not_sub_le_zero (notBelow : ¬ first < 0) (notBefore : ¬ second ≤ first) :
    ¬ second - first ≤ 0 := by
  intro empty
  have known : ¬ (first = .nan ∨ second = .nan) := fun undefined =>
    (ne_nan_of_le empty).1 ((sub_eq_nan_iff notBelow notBefore).mpr undefined)
  push Not at known
  have below := Binary64.lt_of_not_le known.2 known.1 notBefore
  have nonneg := Binary64.le_of_not_lt known.1 (by decide) notBelow
  rcases zero_le_iff.mp nonneg with rfl | ⟨start, denotes, least⟩
  · exact notBefore (le_infinite known.2)
  have above : 0 < second - first := by
    cases whole : second.toRat? with
    | some right =>
        exact sub_pos_of_toRat? denotes whole ((lt_iff_of_toRat? denotes whole).mp below)
    | none =>
        obtain rfl : second = .infinite false := infinite_of_lt denotes whole below
        rw [infinite_sub denotes false]
        exact zero_lt_iff.mpr (.inl rfl)
  exact absurd (zero_lt_of_le above empty) (by decide)

/-- A time that is not below zero does not fall below it when a length is added. -/
theorem not_add_lt_zero (notBelow : ¬ first < 0) (lasts : ¬ second ≤ 0) :
    ¬ first + second < 0 := by
  intro below
  have defined : ∀ {number : Binary64}, number < 0 → number ≠ .nan := by
    rintro _ less rfl
    exact absurd less (by decide)
  have known : first ≠ .nan ∧ second ≠ .nan := by
    constructor
    · rintro rfl
      exact defined below rfl
    · rintro rfl
      rw [Binary64.add_comm] at below
      exact defined below rfl
  have zero : (0 : Binary64) ≠ .nan := by decide
  have sum := add_pos (Binary64.le_of_not_lt known.1 zero notBelow)
    (Binary64.lt_of_not_le known.2 zero lasts)
  exact absurd (zero_lt_of_le sum (Binary64.le_of_lt below)) (by decide)

theorem neg_ne_nan (known : first ≠ .nan) : -first ≠ .nan := by
  change neg first ≠ .nan
  cases first with
  | nan => exact absurd rfl known
  | infinite negative => simp [neg]
  | negativeZero => simp [neg, zero]
  | finite value representable =>
      unfold neg
      dsimp only
      split
      · simp
      · exact ofRat_ne_nan _

end Sums

end Binary64

end Montage
