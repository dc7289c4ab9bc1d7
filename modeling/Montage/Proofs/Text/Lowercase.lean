import Montage.Text.Character

/-!
# What lower case leaves alone

Digits, punctuation, controls and white space have no case: they stay what they are in lower case,
and nothing else becomes one of them.
-/

namespace Montage.Text

def caselessRanges : List (Nat × Nat) :=
  [(0, 64), (91, 96), (123, 191), (5760, 5760), (8192, 8303), (12288, 12351)]

def isCaseless (character : Char) : Bool :=
  inRanges caselessRanges character.toNat

variable {character fixed : Char} {point : Nat} {text : String}

theorem isCaseless_of_isBlank (blank : isBlank character = true) :
    isCaseless character = true := by
  simp only [isBlank, Bool.or_eq_true, Bool.and_eq_true, decide_eq_true_eq, beq_iff_eq] at blank
  simp only [isCaseless, inRanges, caselessRanges, List.any_cons, List.any_nil, Bool.or_eq_true,
    Bool.and_eq_true, decide_eq_true_eq]
  omega

theorem toNat_toLower (character : Char) :
    character.toLower.toNat =
      if 65 ≤ character.toNat ∧ character.toNat ≤ 90 then character.toNat + 32
      else character.toNat := by
  unfold Char.toLower
  split
  next upper =>
    have above : 65 ≤ character.toNat := upper.1
    have below : character.toNat ≤ 90 := upper.2
    have shift : ('a'.val - 'A'.val).toNat = 32 := rfl
    rw [if_pos ⟨above, below⟩]
    change (character.val + ('a'.val - 'A'.val)).toNat = _
    rw [UInt32.toNat_add, shift, Char.toNat_val]
    omega
  next lower =>
    have outside : ¬ (65 ≤ character.toNat ∧ character.toNat ≤ 90) := lower
    rw [if_neg outside]

def leadsToCase (run : Nat × Nat × Nat × Int) : Bool :=
  let first : Int := run.1 + run.2.2.2
  let last : Int := run.2.1 + run.2.2.2
  decide (64 < first) &&
    (decide (last < 55296) || (decide (57343 < first) && decide (last < 1114112))) &&
    caselessRanges.all fun range => decide (last < range.1) || decide ((range.2 : Int) < first)

theorem leadsToCase_of_mem : ∀ run ∈ lowercaseRuns, leadsToCase run = true := by
  decide +kernel

theorem isCaseless_eq_false_of_letter (above : 97 ≤ character.toNat)
    (below : character.toNat ≤ 122) : isCaseless character = false := by
  simp only [isCaseless, inRanges, caselessRanges, List.any_cons, List.any_nil,
    Bool.or_eq_false_iff, Bool.and_eq_false_iff, decide_eq_false_iff_not]
  refine ⟨?_, ?_, ?_, ?_, ?_, ?_, trivial⟩ <;> omega

/-- The partners of a run are characters, and none of them is without case. -/
theorem isCaseless_partner_eq_false {run : Nat × Nat × Nat × Int} (known : run ∈ lowercaseRuns)
    (above : run.1 ≤ point) (below : point ≤ run.2.1) :
    isCaseless (Char.ofNat ((point : Int) + run.2.2.2).toNat) = false := by
  have leads := leadsToCase_of_mem run known
  simp only [leadsToCase, Bool.and_eq_true, Bool.or_eq_true, decide_eq_true_eq, List.all_eq_true]
    at leads
  obtain ⟨⟨positive, valid⟩, outside⟩ := leads
  have scalar : ((point : Int) + run.2.2.2).toNat.isValidChar := by
    rcases valid with low | ⟨high, last⟩
    · exact .inl (by omega)
    · exact .inr ⟨by omega, by omega⟩
  have moved : (Char.ofNat ((point : Int) + run.2.2.2).toNat).toNat =
      ((point : Int) + run.2.2.2).toNat := by
    rw [Char.ofNat, dif_pos scalar]
    rfl
  simp only [isCaseless, inRanges, List.any_eq_false, moved]
  intro range member inside
  have apart := outside range member
  simp only [Bool.and_eq_true, decide_eq_true_eq] at inside
  omega

/-- No character gets a lower-case form without case but one that has no case itself. -/
theorem eq_of_mem_lowercaseOne (caseless : isCaseless fixed = true)
    (member : fixed ∈ lowercaseOne character) : fixed = character := by
  unfold lowercaseOne at member
  split at member
  · have letters : (['i', Char.ofNat 775].all fun letter => !isCaseless letter) = true := by
      decide
    have letter := List.all_eq_true.mp letters fixed member
    simp [caseless] at letter
  · split at member
    next =>
      obtain rfl := List.mem_singleton.mp member
      have lower := toNat_toLower character
      split at lower
      next upper =>
        rw [isCaseless_eq_false_of_letter (by omega) (by omega)] at caseless
        exact absurd caseless Bool.false_ne_true
      next => exact Char.toNat_inj.mp lower
    next =>
      obtain rfl := List.mem_singleton.mp member
      unfold lowercaseDistance at caseless ⊢
      split at caseless
      next run found =>
        have inside := List.find?_some found
        simp only [Bool.and_eq_true, decide_eq_true_eq] at inside
        rw [isCaseless_partner_eq_false (List.mem_of_find?_eq_some found) inside.1.1 inside.1.2]
          at caseless
        exact absurd caseless Bool.false_ne_true
      next absent => simp [Char.ofNat_toNat]

/-- A character without case is found in the lower-case form of a text only where it stood. -/
theorem mem_of_mem_lowercase (caseless : isCaseless fixed = true)
    (member : fixed ∈ (lowercase text).toList) : fixed ∈ text.toList := by
  have after : ∀ before characters, fixed ∈ lowercaseAfter before characters →
      fixed ∈ characters := by
    intro before characters member
    induction characters generalizing before with
    | nil => simp [lowercaseAfter] at member
    | cons character rest ih =>
        rw [lowercaseAfter, List.mem_append] at member
        rcases member with here | later
        · split at here
          next =>
            -- Both forms of a small sigma have case.
            have sigma : fixed = Char.ofNat 962 ∨ fixed = Char.ofNat 963 := by
              rw [List.mem_singleton] at here
              split at here
              · exact .inl here
              · exact .inr here
            rcases sigma with rfl | rfl
            · exact absurd caseless (by decide)
            · exact absurd caseless (by decide)
          next => exact eq_of_mem_lowercaseOne caseless here ▸ List.mem_cons_self
        · exact List.mem_cons_of_mem _ (ih _ later)
  rw [lowercase, String.toList_ofList] at member
  exact after [] _ member

end Montage.Text
