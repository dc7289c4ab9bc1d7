import Montage.Proofs.Numeric.Amounts
import Montage.Proofs.Numeric.Rounding

/-!
# The range of binary64 numbers

A rational is rounded to a finite number exactly if it lies below the middle between the largest
binary64 number and the next power of two.  Reading a decimal rounds the rational that it denotes:
decimals that are settled without computing it are too large or too small to be rounded otherwise.
-/

namespace Montage

namespace Rounding

variable {value : Rat} {whole : Int}

/-- A number is rounded below an even one unless it is at most half away: the odd neighbour loses a
tie. -/
theorem IsNearestEven.lt_iff (nearest : IsNearestEven value whole) {bound : Int}
    (even : Even bound) : whole < bound ↔ value < bound - 1 / 2 := by
  obtain ⟨low, high⟩ := abs_le.mp nearest.near
  constructor
  · intro below
    have reached : (whole : Rat) ≤ bound - 1 := by exact_mod_cast Int.le_sub_one_of_lt below
    refine lt_of_le_of_ne (by linarith) fun middle => ?_
    have tie : |(whole : Rat) - value| = 1 / 2 := by
      rw [abs_of_nonpos (by linarith)]
      linarith
    have last : (whole : Rat) = bound - 1 := by linarith
    have last' : whole = bound - 1 := by exact_mod_cast last
    have parity := Int.even_iff.mp (nearest.even tie)
    have parity' := Int.even_iff.mp even
    omega
  · intro below
    have apart : (whole : Rat) < bound := by linarith
    exact_mod_cast apart

theorem halfEven_of_lt_half (nonneg : 0 ≤ value) (small : value < 1 / 2) : halfEven value = 0 := by
  have below : halfEven value < 1 := by
    obtain ⟨-, high⟩ := abs_le.mp (isNearestEven_halfEven value).near
    have apart : (halfEven value : Rat) < 1 := by linarith
    exact_mod_cast apart
  have least := halfEven_nonneg nonneg
  omega

end Rounding

namespace Binary64

variable {value : Rat}

/-- The least rational that is too large for a binary64 number. -/
def limit : Rat := 2 ^ (1024 : Nat) - 2 ^ (970 : Nat)

theorem two_pow_le_limit : (2 : Rat) ^ (1023 : Nat) ≤ limit := by
  have small : (2 : Rat) ^ (970 : Nat) ≤ 2 ^ (1023 : Nat) :=
    pow_le_pow_right₀ one_le_two (by decide)
  rw [limit, le_sub_iff_add_le]
  calc (2 : Rat) ^ (1023 : Nat) + 2 ^ (970 : Nat)
      ≤ 2 ^ (1023 : Nat) + 2 ^ (1023 : Nat) := by gcongr
    _ = 2 * 2 ^ (1023 : Nat) := (two_mul _).symm
    _ = 2 ^ (1024 : Nat) := (pow_succ' 2 1023).symm

theorem limit_lt_two_pow : limit < 2 ^ (1024 : Nat) :=
  sub_lt_self _ (pow_pos two_pos _)

/-- In front of the limit, numbers are rounded to multiples of the 971st power of two. -/
theorem nearest_lt_iff_of_floorLogTwo (positive : 0 < value)
    (last : Rounding.floorLogTwo value = 1023) :
    nearest value < 2 ^ (1024 : Nat) ↔ value < limit := by
  obtain ⟨count, -, counted, rounded⟩ := exists_nearest_eq positive
  have grid : gridExponent value = (971 : Nat) := by
    rw [gridExponent_of_pos positive, last]
    rfl
  rw [grid, zpow_natCast] at counted rounded
  have unit : (0 : Rat) < 2 ^ (971 : Nat) := pow_pos two_pos _
  have top : (2 : Rat) ^ (1024 : Nat) = ((2 ^ 53 : Int) : Rat) * 2 ^ (971 : Nat) := by
    rw [show 1024 = 53 + 971 from rfl, pow_add]
    norm_num
  have half : (2 : Rat) ^ (971 : Nat) = 2 * 2 ^ (970 : Nat) := pow_succ' 2 970
  have middle : limit = (((2 ^ 53 : Int) : Rat) - 1 / 2) * 2 ^ (971 : Nat) := by
    rw [limit, top, half]
    generalize (2 : Rat) ^ (970 : Nat) = step
    ring
  have nearest' := Rounding.isNearestEven_halfEven (value / 2 ^ (971 : Nat))
  rw [counted] at nearest'
  rw [rounded, top, middle, mul_lt_mul_iff_of_pos_right unit, ← div_lt_iff₀ unit,
    ← nearest'.lt_iff (by decide)]
  exact_mod_cast Iff.rfl

theorem nearest_lt_iff (nonneg : 0 ≤ value) :
    nearest value < 2 ^ (1024 : Nat) ↔ value < limit := by
  have above : (0 : Rat) < 2 ^ (1023 : Nat) := pow_pos two_pos _
  rcases nonneg.eq_or_lt with rfl | positive
  · have zero : nearest 0 = 0 := rfl
    rw [zero]
    exact iff_of_true (pow_pos two_pos _) (above.trans_le two_pow_le_limit)
  obtain ⟨lower, upper⟩ := Rounding.floorLogTwo_spec positive
  have grid := gridExponent_of_pos positive
  rcases lt_trichotomy (Rounding.floorLogTwo value) 1023 with low | last | high
  · obtain ⟨count, few, -, rounded⟩ := exists_nearest_eq positive
    refine iff_of_true ?_ (lt_of_lt_of_le ?_ two_pow_le_limit)
    · have many : (count : Rat) ≤ 2 ^ (53 : Int) := by exact_mod_cast few
      calc nearest value
          = count * 2 ^ gridExponent value := rounded
        _ ≤ 2 ^ (53 : Int) * 2 ^ gridExponent value :=
            mul_le_mul_of_nonneg_right many (zpow_pos two_pos _).le
        _ = 2 ^ (53 + gridExponent value) := (zpow_add₀ two_ne_zero _ _).symm
        _ < 2 ^ ((1024 : Nat) : Int) := zpow_lt_zpow_right₀ one_lt_two (by omega)
        _ = 2 ^ (1024 : Nat) := zpow_natCast 2 1024
    · calc value
          < 2 ^ (Rounding.floorLogTwo value + 1) := upper
        _ ≤ 2 ^ ((1023 : Nat) : Int) := zpow_le_zpow_right₀ one_le_two (by omega)
        _ = 2 ^ (1023 : Nat) := zpow_natCast 2 1023
  · exact nearest_lt_iff_of_floorLogTwo positive last
  · have reached : (2 : Rat) ^ (1024 : Nat) ≤ 2 ^ Rounding.floorLogTwo value := by
      rw [← zpow_natCast]
      exact zpow_le_zpow_right₀ one_le_two (by omega)
    have rounded := power_le_nearest positive (by omega)
    refine iff_of_false (not_lt.mpr (reached.trans rounded)) (not_lt.mpr ?_)
    exact limit_lt_two_pow.le.trans (reached.trans lower)

theorem toRat?_ofRat_of_lt (nonneg : 0 ≤ value) (below : value < limit) :
    (ofRat value).toRat? = some (nearest value) :=
  toRat?_ofRat_of_bounded nonneg ((nearest_lt_iff nonneg).mpr below)

theorem ofRat_of_limit_le (large : limit ≤ value) : ofRat value = .infinite false := by
  have nonneg : 0 ≤ value := (pow_pos two_pos _).le.trans (two_pow_le_limit.trans large)
  have above : ¬ value < 0 := not_lt.mpr nonneg
  have passed : ¬ nearest value < 2 ^ (1024 : Nat) := by
    rw [nearest_lt_iff nonneg]
    exact not_lt.mpr large
  have unrepresentable : ¬ isRepresentable (nearest value) = true := by
    have nonneg' := nearest_nonneg nonneg
    have nonzero : nearest value ≠ 0 := by
      intro zero
      rw [zero] at passed
      exact passed (pow_pos two_pos _)
    simp [isRepresentable, nonzero, Rat.abs_of_nonneg nonneg', passed]
  simp [ofRat, above, unrepresentable]

theorem ofRat_zero : ofRat 0 = zero := rfl

/-- What is less than half the least number is rounded to zero. -/
theorem ofRat_of_lt_half (nonneg : 0 ≤ value) (small : value < 2 ^ (-1075 : Int)) :
    ofRat value = zero := by
  rcases nonneg.eq_or_lt with rfl | positive
  · exact ofRat_zero
  have low : Rounding.floorLogTwo value < -1075 :=
    (zpow_lt_zpow_iff_right₀ one_lt_two).mp
      ((Rounding.floorLogTwo_spec positive).1.trans_lt small)
  have grid : gridExponent value = -1074 := by
    rw [gridExponent_of_pos positive]
    omega
  have unit : (0 : Rat) < 2 ^ (-1074 : Int) := zpow_pos two_pos _
  have half : value / 2 ^ (-1074 : Int) < 1 / 2 := by
    rw [div_lt_iff₀ unit]
    calc value
        < 2 ^ (-1075 : Int) := small
      _ = 1 / 2 * 2 ^ (-1074 : Int) := by
          rw [show (-1074 : Int) = -1075 + 1 from rfl, zpow_add_one₀ two_ne_zero]
          ring
  have vanishes : nearest value = 0 := by
    rw [nearest, if_neg positive.ne']
    dsimp only
    rw [grid, Rounding.halfEven_of_lt_half (div_nonneg nonneg unit.le) half, Int.cast_zero,
      zero_mul]
  have above : ¬ value < 0 := not_lt.mpr nonneg
  have representable : isRepresentable 0 = true := by decide
  simp [ofRat, vanishes, above, representable, zero]

theorem length_toDigits_spec {digits : Nat} (positive : 0 < digits) :
    ∃ count, (Nat.toDigits 10 digits).length = count + 1 ∧ 10 ^ count ≤ digits ∧
      digits < 10 ^ (count + 1) := by
  obtain ⟨count, length⟩ : ∃ count, (Nat.toDigits 10 digits).length = count + 1 :=
    Nat.exists_eq_succ_of_ne_zero (List.length_pos_iff.mpr Nat.toDigits_ne_nil).ne'
  refine ⟨count, length, ?_, ?_⟩
  · rcases Nat.eq_zero_or_pos count with rfl | some
    · exact positive
    · have long := (Nat.length_toDigits_le_iff (n := digits) (by decide : 1 < 10) some).not
      rw [not_le, not_lt] at long
      exact long.mp (by omega)
  · exact (Nat.length_toDigits_le_iff (by decide) (by omega)).mp length.le

/-- A decimal without a sign is read as the rational that it denotes, rounded once. -/
theorem ofDecimal_eq_ofRat (digits : Nat) (exponent : Int) :
    ofDecimal false digits exponent = ofRat (digits * (10 : Rat) ^ exponent) := by
  rcases Nat.eq_zero_or_pos digits with rfl | positive
  · rw [Nat.cast_zero, zero_mul, ofRat_zero]
    rfl
  have one : (1 : Rat) ≤ 10 := by norm_num
  have ten : (10 : Rat) ≠ 0 := by norm_num
  have scale : (0 : Rat) < 10 ^ exponent := zpow_pos (by norm_num) _
  obtain ⟨count, length, lower, upper⟩ := length_toDigits_spec positive
  rw [ofDecimal, if_neg positive.ne']
  dsimp only
  rw [length]
  split
  next large =>
    refine (ofRat_of_limit_le ?_).symm
    have room : (2 : Rat) ^ (1024 : Nat) ≤ 10 ^ (310 : Nat) := by
      have room : 2 ^ 1024 ≤ 10 ^ 310 := by decide +kernel
      exact_mod_cast room
    have many : (10 : Rat) ^ (count : Int) ≤ digits := by exact_mod_cast lower
    calc limit
        ≤ 10 ^ (310 : Nat) := limit_lt_two_pow.le.trans room
      _ = 10 ^ ((310 : Nat) : Int) := (zpow_natCast 10 310).symm
      _ ≤ 10 ^ ((count : Int) + exponent) := zpow_le_zpow_right₀ one (by push_cast at large; omega)
      _ = 10 ^ (count : Int) * 10 ^ exponent := zpow_add₀ ten _ _
      _ ≤ digits * 10 ^ exponent := mul_le_mul_of_nonneg_right many scale.le
  next =>
    split
    next small =>
      refine (ofRat_of_lt_half (mul_nonneg (Nat.cast_nonneg _) scale.le) ?_).symm
      have room : (10 : Rat) ^ (-331 : Int) ≤ 2 ^ (-1075 : Int) := by
        have room : 2 ^ 1075 ≤ 10 ^ 331 := by decide +kernel
        have room' : (2 : Rat) ^ (1075 : Nat) ≤ 10 ^ (331 : Nat) := by exact_mod_cast room
        have inverse := inv_anti₀ (pow_pos two_pos _) room'
        rwa [← zpow_natCast, ← zpow_natCast, ← zpow_neg, ← zpow_neg] at inverse
      have few : (digits : Rat) < 10 ^ ((count + 1 : Nat) : Int) := by exact_mod_cast upper
      calc (digits : Rat) * 10 ^ exponent
          < 10 ^ ((count + 1 : Nat) : Int) * 10 ^ exponent := mul_lt_mul_of_pos_right few scale
        _ = 10 ^ (((count + 1 : Nat) : Int) + exponent) := (zpow_add₀ ten _ _).symm
        _ ≤ 10 ^ (-331 : Int) := zpow_le_zpow_right₀ one (by omega)
        _ ≤ 2 ^ (-1075 : Int) := room
    next => rfl

end Binary64

end Montage
