import Montage.Numeric.Binary64
import Mathlib.Algebra.Order.Field.Rat
import Mathlib.Data.Prod.Lex

/-!
# Order of binary64 numbers

The order of finite numbers is the order of the rationals that they denote, with an infinity
on either side, and rounding does not change on which side of zero a number lies.
-/

namespace Montage

namespace Rounding

/-- A rational that is not negative is rounded to a number that is not negative. -/
theorem halfEven_nonneg {value : Rat} (nonneg : 0 ≤ value) : 0 ≤ halfEven value := by
  have below : 0 ≤ value.floor := by
    rw [Rat.le_floor_iff]
    simpa using nonneg
  unfold halfEven
  dsimp only
  split
  · exact below
  · split
    · omega
    · split <;> omega

end Rounding

namespace Binary64

variable {number first second : Binary64} {value left right : Rat}

theorem toRat?_zero : (0 : Binary64).toRat? = some 0 := by decide

theorem ne_nan_of_isSome (finite : number.toRat?.isSome) : number ≠ .nan := by
  rintro rfl
  simp [toRat?] at finite

theorem lt_iff_of_toRat? (denotes : first.toRat? = some left)
    (denotes' : second.toRat? = some right) : first < second ↔ left < right := by
  change less first second = true ↔ left < right
  cases first <;> cases second <;> simp_all [toRat?, less]

/-- A finite number is above zero when it is not at most zero. -/
theorem toRat?_pos (denotes : number.toRat? = some value) (above : ¬ number ≤ 0) :
    0 < value := by
  have notEqual : ¬ equal number 0 = true := fun equal => above (by
    change atMost number 0 = true
    simp [atMost, equal])
  have notLess : ¬ number < 0 := fun less => above (by
    change atMost number 0 = true
    simp [atMost, show Binary64.less number 0 = true from less])
  rw [lt_iff_of_toRat? denotes toRat?_zero, not_lt] at notLess
  refine lt_of_le_of_ne notLess fun zero => notEqual ?_
  subst zero
  have zero := toRat?_zero
  cases number <;> cases other : (0 : Binary64) <;> simp_all [toRat?, equal]

/-- A finite number that is not below zero denotes no negative rational. -/
theorem toRat?_nonneg (denotes : number.toRat? = some value) (notBelow : ¬ number < 0) :
    0 ≤ value := by
  rwa [lt_iff_of_toRat? denotes toRat?_zero, not_lt] at notBelow

theorem nearest_nonneg (nonneg : 0 ≤ value) : 0 ≤ nearest value := by
  unfold nearest
  split
  · exact le_refl 0
  · have unit : 0 < (2 : Rat) ^ gridExponent value := Rat.zpow_pos (by decide)
    have scaled : 0 ≤ Rounding.halfEven (value / (2 : Rat) ^ gridExponent value) :=
      Rounding.halfEven_nonneg (div_nonneg nonneg unit.le)
    exact mul_nonneg (Rat.intCast_nonneg.mpr scaled) unit.le

/-- What a rational that is not negative is rounded to is not negative. -/
theorem toRat?_ofRat_nonneg (nonneg : 0 ≤ value) {rounded : Rat}
    (denotes : (ofRat value).toRat? = some rounded) : 0 ≤ rounded := by
  simp only [ofRat, not_lt.mpr nonneg, and_false, if_false] at denotes
  split at denotes
  · simp only [toRat?, Option.some.injEq] at denotes
    rw [← denotes]
    exact nearest_nonneg nonneg
  · simp [toRat?] at denotes

theorem representable_of_toRat? (denotes : number.toRat? = some value) :
    isRepresentable value = true := by
  cases number with
  | nan | infinite => simp [toRat?] at denotes
  | negativeZero =>
      simp only [toRat?, Option.some.injEq] at denotes
      rw [← denotes]
      decide
  | finite other representable =>
      simp only [toRat?, Option.some.injEq] at denotes
      exact denotes ▸ representable

/-- A sum of finite numbers is the rounded sum of what they denote, unless both are negative
zeros. -/
theorem add_of_toRat? (denotes : first.toRat? = some left)
    (denotes' : second.toRat? = some right) :
    (first = negativeZero ∧ second = negativeZero) ∨ first + second = ofRat (left + right) := by
  change _ ∨ add first second = _
  cases first <;> cases second <;> simp_all [toRat?, add]
  case negativeZero.finite => rw [← denotes, zero_add]
  case finite.negativeZero => rw [← denotes', add_zero]

/-- A product of finite numbers is the rounded product of what they denote, or a zero. -/
theorem mul_of_toRat? (denotes : first.toRat? = some left)
    (denotes' : second.toRat? = some right) :
    (∃ negative, first * second = signedZero negative) ∨
      first * second = ofRat (left * right) := by
  change (∃ negative, mul first second = _) ∨ mul first second = _
  have product : mul first second =
      if left * right = 0 then signedZero (first.isNegative != second.isNegative)
      else ofRat (left * right) := by
    cases first <;> cases second <;> simp_all [toRat?, mul]
  rw [product]
  split
  · exact .inl ⟨_, rfl⟩
  · exact .inr rfl

/-- A product with a number that is not finite is not finite. -/
theorem toRat?_mul_of_none (unknown : first.toRat? = none)
    (denotes : second.toRat? = some right) : (first * second).toRat? = none := by
  change (mul first second).toRat? = none
  cases first with
  | nan => rfl
  | infinite negative =>
      have product : mul (infinite negative) second = if right = 0 then nan
          else infinite ((infinite negative).isNegative != second.isNegative) := by
        cases second <;> simp_all [toRat?, mul]
      rw [product]
      split <;> rfl
  | negativeZero => simp [toRat?] at unknown
  | finite value representable => simp [toRat?] at unknown

theorem toRat?_of_round {whole : Int} (rounded : number.round = .ok whole) :
    ∃ value, number.toRat? = some value ∧ whole = Rounding.halfEven value := by
  cases number <;> simp_all [round, toRat, toRat?, Except.map]

theorem isSome_toRat?_iff : number.toRat?.isSome ↔ ∃ whole, number.round = .ok whole := by
  cases number <;> simp [toRat?, round, toRat, Except.map]

theorem exists_round_error (notFinite : ¬ number.toRat?.isSome) :
    ∃ reason, number.round = .error reason := by
  cases rounded : number.round with
  | error reason => exact ⟨reason, rfl⟩
  | ok whole => exact absurd (isSome_toRat?_iff.mpr ⟨whole, rounded⟩) notFinite

/-- A multiple of a number that is not below zero is rounded to no negative number. -/
theorem round_mul_nonneg (notBelow : ¬ first < 0) (denotes : second.toRat? = some right)
    (nonneg : 0 ≤ right) {whole : Int} (rounded : (first * second).round = .ok whole) :
    0 ≤ whole := by
  obtain ⟨product, denoted, rfl⟩ := toRat?_of_round rounded
  apply Rounding.halfEven_nonneg
  cases known : first.toRat? with
  | none => simp [toRat?_mul_of_none known denotes] at denoted
  | some left =>
      rcases mul_of_toRat? known denotes with ⟨negative, zero⟩ | exactly
      · rw [zero] at denoted
        have product_eq : product = 0 := by
          cases negative <;> simpa [signedZero, toRat?, Binary64.zero, eq_comm] using denoted
        exact product_eq.ge
      · rw [exactly] at denoted
        exact toRat?_ofRat_nonneg (mul_nonneg (toRat?_nonneg known notBelow) nonneg) denoted

theorem ofNat_zero : (0 : Binary64) = zero := by decide

/-- The numbers above zero: one infinity, and the finite numbers of positive value. -/
theorem zero_lt_iff : 0 < number ↔
    number = infinite false ∨ ∃ value, number.toRat? = some value ∧ 0 < value := by
  rw [ofNat_zero]
  change less zero number = true ↔ _
  cases number with
  | nan => simp [less, zero, toRat?]
  | infinite negative => simp [less, zero, toRat?]
  | negativeZero => simp [less, zero, toRat?]
  | finite value representable =>
      have order : less zero (finite value representable) = decide (0 < value) := rfl
      rw [order, decide_eq_true_iff]
      simp [toRat?]

/-- The numbers from zero on: one infinity, and the finite numbers of no negative value. -/
theorem zero_le_iff : 0 ≤ number ↔
    number = infinite false ∨ ∃ value, number.toRat? = some value ∧ 0 ≤ value := by
  rw [ofNat_zero]
  change (less zero number || equal zero number) = true ↔ _
  cases number with
  | nan => simp [less, equal, zero, toRat?]
  | infinite negative => simp [less, equal, zero, toRat?]
  | negativeZero => simp [less, equal, zero, toRat?]
  | finite value representable =>
      have order : (less zero (finite value representable) ||
          equal zero (finite value representable)) =
            (decide (0 < value) || decide (0 = value)) := rfl
      rw [order, Bool.or_eq_true, decide_eq_true_iff, decide_eq_true_iff]
      simp [toRat?, le_iff_lt_or_eq]

/-- What is not below a number above zero is above zero. -/
theorem zero_lt_of_le (above : 0 < first) (atMost : first ≤ second) : 0 < second := by
  rw [zero_lt_iff] at above ⊢
  have order : less first second = true ∨ equal first second = true := by
    have either : Binary64.atMost first second = true := atMost
    simpa [Binary64.atMost] using either
  rcases above with rfl | ⟨value, denotes, positive⟩
  · left
    cases second <;> simp_all [less, equal]
  · cases second with
    | nan => cases first <;> simp_all [less, equal]
    | infinite negative =>
        cases first <;> simp_all [less, equal, toRat?]
    | negativeZero =>
        cases first <;> simp_all [less, equal, toRat?]
        rcases order with below | same
        · exact absurd below positive.asymm
        · exact absurd same positive.ne'
    | finite other representable =>
        right
        refine ⟨other, rfl, ?_⟩
        cases first <;> simp_all [less, equal, toRat?]
        rcases order with lt | eq
        · exact positive.trans lt
        · exact eq ▸ positive

/-- A number above zero does not equal zero. -/
theorem equal_zero_of_zero_lt (above : 0 < number) : number.equal 0 = false := by
  rw [zero_lt_iff] at above
  rw [ofNat_zero]
  rcases above with rfl | ⟨value, denotes, positive⟩
  · rfl
  · cases number <;> simp_all [equal, toRat?, zero]
    exact decide_eq_false positive.ne'

section Rank

variable {third : Binary64}

/-- Where a number stands among all numbers: between the infinities, and there by value. -/
def rank : Binary64 → Int ×ₗ Rat
  | .nan => toLex (0, 0)
  | .infinite negative => toLex (if negative then -1 else 1, 0)
  | .negativeZero => toLex (0, 0)
  | .finite value _ => toLex (0, value)

theorem lt_iff_rank (known : first ≠ .nan) (known' : second ≠ .nan) :
    first < second ↔ first.rank < second.rank := by
  change less first second = true ↔ _
  cases first <;> cases second
  case infinite.infinite negative negative' =>
    cases negative <;> cases negative' <;> simp [less, rank, Prod.Lex.toLex_lt_toLex]
  case infinite.negativeZero negative | infinite.finite negative _ _
      | negativeZero.infinite negative | finite.infinite _ _ negative =>
    cases negative <;> simp [less, rank, Prod.Lex.toLex_lt_toLex]
  case nan.nan | nan.infinite | nan.negativeZero | nan.finite => exact absurd rfl known
  case infinite.nan | negativeZero.nan | finite.nan => exact absurd rfl known'
  all_goals
    simp only [less, rank, Prod.Lex.toLex_lt_toLex, toRat?, Option.getD_some, lt_irrefl,
      true_and, false_or]
    exact decide_eq_true_iff

theorem equal_iff_rank (known : first ≠ .nan) (known' : second ≠ .nan) :
    equal first second = true ↔ first.rank = second.rank := by
  cases first <;> cases second
  case infinite.infinite negative negative' =>
    cases negative <;> cases negative' <;> simp [equal, rank]
  case infinite.negativeZero negative | infinite.finite negative _ _
      | negativeZero.infinite negative | finite.infinite _ _ negative =>
    cases negative <;> simp [equal, rank]
  case nan.nan | nan.infinite | nan.negativeZero | nan.finite => exact absurd rfl known
  case infinite.nan | negativeZero.nan | finite.nan => exact absurd rfl known'
  all_goals
    simp only [equal, rank, toLex_inj, Prod.mk.injEq, toRat?, Option.getD_some, true_and]
    exact decide_eq_true_iff

theorem le_iff_rank (known : first ≠ .nan) (known' : second ≠ .nan) :
    first ≤ second ↔ first.rank ≤ second.rank := by
  change (less first second || equal first second) = true ↔ _
  rw [Bool.or_eq_true, equal_iff_rank known known', le_iff_lt_or_eq,
    ← lt_iff_rank known known']
  rfl

theorem ne_nan_of_le (atMost : first ≤ second) : first ≠ .nan ∧ second ≠ .nan := by
  have either : (less first second || equal first second) = true := atMost
  constructor
  · rintro rfl
    simp [less, equal] at either
  · rintro rfl
    cases first <;> simp [less, equal] at either

theorem rank_of_toRat? (denotes : number.toRat? = some value) : number.rank = toLex (0, value) := by
  cases number <;> simp_all [toRat?, rank]

protected theorem le_refl (known : first ≠ .nan) : first ≤ first :=
  (le_iff_rank known known).mpr le_rfl

protected theorem le_trans (lower : first ≤ second) (upper : second ≤ third) : first ≤ third := by
  obtain ⟨known, known'⟩ := ne_nan_of_le lower
  obtain ⟨-, known''⟩ := ne_nan_of_le upper
  rw [le_iff_rank known known'] at lower
  rw [le_iff_rank known' known''] at upper
  exact (le_iff_rank known known'').mpr (lower.trans upper)

protected theorem le_of_lt (below : first < second) : first ≤ second := by
  change (less first second || equal first second) = true
  rw [show less first second = true from below, Bool.true_or]

protected theorem lt_asymm (below : first < second) : ¬ second < first := by
  obtain ⟨known, known'⟩ := ne_nan_of_le (Binary64.le_of_lt below)
  rw [lt_iff_rank known known'] at below
  rw [lt_iff_rank known' known]
  exact below.asymm

protected theorem lt_of_not_le (known : first ≠ .nan) (known' : second ≠ .nan)
    (exceeds : ¬ first ≤ second) : second < first := by
  rw [le_iff_rank known known', not_le] at exceeds
  exact (lt_iff_rank known' known).mpr exceeds

protected theorem le_of_not_lt (known : first ≠ .nan) (known' : second ≠ .nan)
    (notBelow : ¬ first < second) : second ≤ first := by
  rw [lt_iff_rank known known', not_lt] at notBelow
  exact (le_iff_rank known' known).mpr notBelow

theorem larger_eq_or (first second : Binary64) :
    first.larger second = first ∨ first.larger second = second := by
  unfold larger
  split
  · exact .inr rfl
  · exact .inl rfl

theorem le_larger_left (known : first ≠ .nan) (second : Binary64) :
    first ≤ first.larger second := by
  unfold larger
  split
  next below => exact Binary64.le_of_lt below
  next => exact Binary64.le_refl known

theorem le_larger_right (known : first ≠ .nan) (known' : second ≠ .nan) :
    second ≤ first.larger second := by
  unfold larger
  split
  next => exact Binary64.le_refl known'
  next notBelow => exact Binary64.le_of_not_lt known known' notBelow

/-- Numbers that are at most each other are the same, or both zero. -/
theorem eq_of_le_of_le (positive : 0 < first) (lower : first ≤ second) (upper : second ≤ first) :
    first = second := by
  obtain ⟨known, known'⟩ := ne_nan_of_le lower
  rw [le_iff_rank known known'] at lower
  rw [le_iff_rank known' known] at upper
  have same := lower.antisymm upper
  rcases zero_lt_iff.mp positive with rfl | ⟨value, denotes, above⟩
  · cases second with
    | nan => exact absurd rfl known'
    | infinite negative => cases negative <;> simp_all [rank]
    | negativeZero | finite => simp [rank] at same
  · cases first <;> cases second <;> simp_all [rank, toRat?]

end Rank

end Binary64

end Montage
