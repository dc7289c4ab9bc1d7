import Montage.Fault

/-!
# Progress of an encode

Elapsed-time markers become whole percentages of the total duration.  Only
percentages above all earlier ones are passed on.
-/

namespace Montage.Encode

/-- Numbers in which elapsed time is measured. -/
class Measure (α : Type) extends Add α, Mul α, Div α where
  ofRat : Rat → α
  /-- The first number unless the second is greater. -/
  larger : α → α → α
  /-- Whether a number is at most zero. -/
  isNonPositive : α → Bool
  floor : α → Except NumericError Int

instance : Measure Binary64 where
  ofRat := Binary64.ofRat
  larger := Binary64.larger
  isNonPositive number := decide (number ≤ 0)
  floor := Binary64.floor

instance : Measure Rat where
  ofRat number := number
  larger first second := if first ≤ second then second else first
  isNonPositive number := decide (number ≤ 0)
  floor number := .ok number.floor

def complete : Int := 100

/-- The percentage that elapsed time makes of a total, halves rounded up. -/
def percentage {α : Type} [Measure α] (total elapsed : α) :
    Except NumericError Int :=
  -- Every marker completes a total that is not positive.
  if Measure.isNonPositive total then .ok complete
  else
    let share := Measure.larger (Measure.ofRat 0) elapsed / total
    (Measure.floor (share * Measure.ofRat 100 + Measure.ofRat (1 / 2))).map
      (min complete)

/-- A total duration with the largest percentage passed on so far. -/
structure Translator (α : Type) where
  total : α
  last : Option Int
  deriving Inhabited

namespace Translator

def start {α : Type} (total : α) : Translator α := ⟨total, none⟩

/-- The translator after a percentage, which is passed on if it is the largest so
far. -/
def record {α : Type} (translator : Translator α) (percent : Int) :
    Translator α × Option Int :=
  match translator.last with
  | some last =>
      if percent ≤ last then (translator, none)
      else ({ translator with last := some percent }, some percent)
  | none => ({ translator with last := some percent }, some percent)

def update {α : Type} [Measure α] (translator : Translator α) (elapsed : α) :
    Except NumericError (Translator α × Option Int) :=
  (percentage translator.total elapsed).map translator.record

end Translator

end Montage.Encode
