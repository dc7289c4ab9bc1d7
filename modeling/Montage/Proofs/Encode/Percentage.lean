import Montage.Encode.Execution
import Montage.Proofs.Numeric.Order
import Montage.Proofs.Sequence
import Mathlib.Algebra.Order.Floor.Ring
import Mathlib.Data.List.ReduceOption
import Mathlib.Data.Rat.Floor
import Mathlib.Tactic.NormNum
import Mathlib.Tactic.Ring

/-!
# Percentages of an encode

Whatever elapsed times are reported, the percentages that are passed on lie between zero and a
hundred, and each is above all earlier ones.  A translator answers a marker exactly when its
percentage is above all that it answered before, so the largest percentage so far is its last
answer.
-/

namespace Montage

namespace Binary64

variable {first second number : Binary64} {value : Rat}

theorem isNegative_ofRat (nonneg : 0 ≤ value) : (ofRat value).isNegative = false := by
  have above : ¬ value < 0 := not_lt.mpr nonneg
  unfold ofRat
  dsimp only
  rw [if_neg fun below => above below.2]
  split
  next representable =>
    have rounded := nearest_nonneg nonneg
    simp [isNegative, not_lt.mpr rounded]
  next => simp [isNegative, above]

/-- A number without a minus sign denotes what is not below zero. -/
theorem nonneg_of_isNegative (plain : number.isNegative = false)
    (denotes : number.toRat? = some value) :
    0 ≤ value := by
  cases number with
  | nan | infinite => simp [toRat?] at denotes
  | negativeZero => simp [isNegative] at plain
  | finite other representable =>
      simp only [toRat?, Option.some.injEq] at denotes
      subst denotes
      simpa [isNegative] using plain

theorem toRat?_getD_nonneg (plain : number.isNegative = false) : 0 ≤ number.toRat?.getD 0 := by
  cases denotes : number.toRat? with
  | none => simp
  | some value => exact nonneg_of_isNegative plain denotes

/-- Numbers without a minus sign have such sums, products and quotients. -/
theorem isNegative_add (plain : first.isNegative = false) (plain' : second.isNegative = false) :
    (first + second).isNegative = false := by
  change (add first second).isNegative = false
  cases first with
  | nan => rfl
  | infinite negative =>
      cases second with
      | nan => rfl
      | infinite negative' => simp_all [isNegative, add]
      | negativeZero => simp [isNegative] at plain'
      | finite => simpa [add, isNegative] using plain
  | negativeZero => simp [isNegative] at plain
  | finite left =>
      cases second with
      | nan => rfl
      | infinite negative => simpa [add, isNegative] using plain'
      | negativeZero => simp [isNegative] at plain'
      | finite right =>
          have nonneg : 0 ≤ left := by simpa [isNegative] using plain
          have nonneg' : 0 ≤ right := by simpa [isNegative] using plain'
          exact isNegative_ofRat (add_nonneg nonneg nonneg')

theorem isNegative_mul (plain : first.isNegative = false) (plain' : second.isNegative = false) :
    (first * second).isNegative = false := by
  change (mul first second).isNegative = false
  have product : 0 ≤ first.toRat?.getD 0 * second.toRat?.getD 0 :=
    mul_nonneg (toRat?_getD_nonneg plain) (toRat?_getD_nonneg plain')
  unfold mul
  simp only [plain, plain', bne_self_eq_false]
  split
  · rfl
  · rfl
  · split <;> rfl
  · split <;> rfl
  · split
    · rfl
    · exact isNegative_ofRat product

theorem isNegative_div (plain : first.isNegative = false) (plain' : second.isNegative = false) :
    (first / second).isNegative = false := by
  change (div first second).isNegative = false
  have quotient : 0 ≤ first.toRat?.getD 0 / second.toRat?.getD 0 :=
    div_nonneg (toRat?_getD_nonneg plain) (toRat?_getD_nonneg plain')
  unfold div
  simp only [plain, plain', bne_self_eq_false]
  split
  · rfl
  · rfl
  · rfl
  · rfl
  · rfl
  · split
    · split <;> rfl
    · split
      · rfl
      · exact isNegative_ofRat quotient

theorem isNegative_of_not_le (above : ¬ number ≤ 0) : number.isNegative = false := by
  rw [ofNat_zero] at above
  change ¬ (less number zero || equal number zero) = true at above
  cases number with
  | nan => rfl
  | infinite negative => cases negative <;> simp_all [isNegative, less, zero]
  | negativeZero => simp [less, equal, zero, toRat?] at above
  | finite value =>
      simp only [less, equal, zero, toRat?, Option.getD_some, Bool.or_eq_true, not_or] at above
      have notBelow : ¬ value < 0 := fun below => above.1 (decide_eq_true below)
      simpa [isNegative] using notBelow

theorem isNegative_of_lt (plain : first.isNegative = false) (below : first < second) :
    second.isNegative = false := by
  change less first second = true at below
  cases second with
  | nan => rfl
  | infinite negative =>
      cases negative with
      | false => rfl
      | true => cases first <;> simp [less] at below
  | negativeZero =>
      have nonneg := toRat?_getD_nonneg plain
      cases first <;> simp_all [less, toRat?, isNegative, not_lt.mpr]
  | finite value =>
      have nonneg := toRat?_getD_nonneg plain
      cases first with
      | nan => simp [less] at below
      | infinite negative => simp_all [less, isNegative]
      | negativeZero => simp [isNegative] at plain
      | finite other =>
          have atLeast : other < value := of_decide_eq_true below
          simpa [isNegative] using (nonneg.trans_lt atLeast).le

theorem isNegative_larger (plain : first.isNegative = false) (second : Binary64) :
    (first.larger second).isNegative = false := by
  unfold larger
  split
  next below => exact isNegative_of_lt plain below
  next => exact plain

theorem floor_nonneg (plain : number.isNegative = false) {whole : Int}
    (floored : number.floor = .ok whole) : 0 ≤ whole := by
  cases number with
  | nan | infinite => simp [floor, toRat, Except.map] at floored
  | negativeZero => simp [isNegative] at plain
  | finite value =>
      simp only [floor, toRat, Except.map, Except.ok.injEq] at floored
      rw [← floored, Rat.le_floor_iff]
      simpa [isNegative] using plain

end Binary64

namespace Encode

theorem percentage_bounds {total elapsed : Binary64} {percent : Int}
    (translated : percentage total elapsed = .ok percent) : 0 ≤ percent ∧ percent ≤ 100 := by
  unfold percentage at translated
  split at translated
  next =>
    obtain rfl := Except.ok.inj translated
    decide
  next above =>
    have positive : total.isNegative = false :=
      Binary64.isNegative_of_not_le (by simpa [Measure.isNonPositive] using above)
    have start : (Measure.ofRat 0 : Binary64).isNegative = false :=
      Binary64.isNegative_ofRat le_rfl
    have share := Binary64.isNegative_div (Binary64.isNegative_larger start elapsed) positive
    have hundred : (Measure.ofRat 100 : Binary64).isNegative = false :=
      Binary64.isNegative_ofRat (by norm_num)
    have half : (Measure.ofRat (1 / 2) : Binary64).isNegative = false :=
      Binary64.isNegative_ofRat (by norm_num)
    have rounded := Binary64.isNegative_add (Binary64.isNegative_mul share hundred) half
    dsimp only at translated
    cases floored : Measure.floor (Measure.larger (Measure.ofRat 0) elapsed / total *
        Measure.ofRat 100 + Measure.ofRat (1 / 2)) with
    | error reason => simp only [floored, Except.map, reduceCtorEq] at translated
    | ok whole =>
        simp only [floored, Except.map, Except.ok.injEq] at translated
        have nonneg : 0 ≤ whole := Binary64.floor_nonneg rounded floored
        have complete : complete = 100 := rfl
        omega

/-- A watcher that has passed on growing percentages, the largest of which it remembers. -/
structure Rising (watch : Watch (List Int)) : Prop where
  increasing : watch.receiver.Pairwise (· < ·)
  bounded : ∀ percent ∈ watch.receiver, 0 ≤ percent ∧ percent ≤ 100
  last : watch.translator.last = watch.receiver.getLast?

def keepPercentages (percentages : List Int) (percent : Int) : List Int :=
  percentages ++ [percent]

theorem rising_start (total : Binary64) : Rising (Watch.start total []) :=
  ⟨List.Pairwise.nil, by simp [Watch.start], rfl⟩

theorem le_of_getLast? {percentages : List Int} (increasing : percentages.Pairwise (· < ·))
    {last percent : Int} (ends : percentages.getLast? = some last)
    (member : percent ∈ percentages) : percent ≤ last := by
  obtain ⟨front, rfl⟩ := List.getLast?_eq_some_iff.mp ends
  rcases List.mem_append.mp member with earlier | here
  · have below := (List.pairwise_append.mp increasing).2.2 percent earlier last (by simp)
    omega
  · exact (List.mem_singleton.mp here).le

/-- A percentage is passed on only when it is above all earlier ones. -/
theorem Rising.listen {watch after : Watch (List Int)} (rising : Rising watch) {event : Event}
    (heard : Watch.listen keepPercentages watch event = .ok after) : Rising after := by
  obtain ⟨increasing, bounded, last⟩ := rising
  cases event with
  | started | finished output | failed failure =>
      obtain rfl := Except.ok.inj heard
      exact ⟨increasing, bounded, last⟩
  | progress elapsed =>
      simp only [Watch.listen, Translator.update] at heard
      cases translated : percentage watch.translator.total elapsed with
      | error reason => simp [translated, Except.map] at heard
      | ok percent =>
          have bounds := percentage_bounds translated
          -- The two ways to be passed on differ only in why all earlier percentages are below.
          have passes : ∀ recorded, (∀ earlier ∈ watch.receiver, earlier < percent) →
              recorded = ({ watch.translator with last := some percent }, some percent) →
              watch.translator.record percent = recorded → Rising after := by
            rintro recorded above rfl records
            simp only [translated, Except.map, records, Except.ok.injEq] at heard
            subst heard
            refine ⟨?_, ?_, by simp [keepPercentages]⟩
            · simpa [keepPercentages, List.pairwise_append] using ⟨increasing, above⟩
            · intro other member
              rcases List.mem_append.mp member with earlier | here
              · exact bounded other earlier
              · rwa [List.mem_singleton.mp here]
          cases known : watch.translator.last with
          | none =>
              have empty : watch.receiver = [] := by simpa [known] using last.symm
              exact passes _ (by simp [empty]) rfl (by simp [Translator.record, known])
          | some largest =>
              by_cases counts : percent ≤ largest
              · simp only [translated, Except.map, Translator.record, known, if_pos counts,
                  Except.ok.injEq] at heard
                subst heard
                exact ⟨increasing, bounded, last⟩
              · refine passes _ (fun earlier member => ?_) rfl
                  (by simp [Translator.record, known, counts])
                have below := le_of_getLast? increasing (last.symm.trans known) member
                omega

def share (total elapsed : Rat) : Int :=
  if total ≤ 0 then 100 else min 100 ⌊100 * max 0 elapsed / total + 1 / 2⌋

section Shares

variable {total elapsed later : Rat}

theorem percentage_eq_share (total elapsed : Rat) :
    percentage total elapsed = .ok (share total elapsed) := by
  unfold percentage share
  by_cases reached : total ≤ 0
  · have completes : Measure.isNonPositive total = true := decide_eq_true reached
    rw [if_pos completes, if_pos reached, complete]
  · have open' : ¬ Measure.isNonPositive total = true := fun completes =>
      reached (of_decide_eq_true completes)
    have exact' : max 0 elapsed / total * 100 + 1 / 2 = 100 * max 0 elapsed / total + 1 / 2 := by
      ring
    rw [if_neg open', if_neg reached, ← exact']
    rfl

theorem share_of_nonpos (reached : total ≤ 0) : share total elapsed = 100 :=
  if_pos reached

theorem share_of_pos (positive : 0 < total) :
    share total elapsed = min 100 ⌊100 * max 0 elapsed / total + 1 / 2⌋ :=
  if_neg (not_le.mpr positive)

theorem share_le_hundred (total elapsed : Rat) : share total elapsed ≤ 100 := by
  rcases le_or_gt total 0 with reached | positive
  · exact (share_of_nonpos reached).le
  · rw [share_of_pos positive]
    exact min_le_left _ _

theorem share_mono (total : Rat) (order : elapsed ≤ later) :
    share total elapsed ≤ share total later := by
  rcases le_or_gt total 0 with reached | positive
  · rw [share_of_nonpos reached, share_of_nonpos reached]
  · rw [share_of_pos positive, share_of_pos positive]
    have larger : max 0 elapsed ≤ max 0 later := max_le_max_left 0 order
    gcongr

theorem share_nonneg (total elapsed : Rat) : 0 ≤ share total elapsed := by
  rcases le_or_gt total 0 with reached | positive
  · rw [share_of_nonpos reached]
    decide
  · rw [share_of_pos positive]
    apply le_min (by decide)
    apply Int.floor_nonneg.mpr
    have nonneg : 0 ≤ max 0 elapsed := le_max_left 0 elapsed
    positivity

theorem share_of_le (past : total ≤ elapsed) : share total elapsed = 100 := by
  rcases le_or_gt total 0 with reached | positive
  · exact share_of_nonpos reached
  · rw [share_of_pos positive]
    apply min_eq_left
    apply Int.le_floor.mpr
    have whole : (100 : Rat) ≤ 100 * max 0 elapsed / total := by
      rw [le_div_iff₀ positive]
      have above : total ≤ max 0 elapsed := past.trans (le_max_right 0 elapsed)
      linarith
    push_cast
    linarith

end Shares

section Largest

variable {percents others : List Int} {percent : Int}

theorem foldl_max_eq (percents : List Int) (start : Int) :
    percents.foldl max start = percents.max?.elim start (max start) :=
  Option.some.inj (List.max?_cons'.symm.trans List.max?_cons)

theorem max?_concat_of_above (above : ∀ earlier ∈ percents, earlier < percent) :
    (percents ++ [percent]).max? = some percent := by
  apply List.max?_eq_some_iff.mpr
  refine ⟨List.mem_concat_self, fun other member => ?_⟩
  rcases List.mem_append.mp member with earlier | last
  · exact (above other earlier).le
  · exact (List.mem_singleton.mp last).le

theorem max?_concat_of_not_above (below : ¬ ∀ earlier ∈ percents, earlier < percent) :
    (percents ++ [percent]).max? = percents.max? := by
  obtain ⟨earlier, member, atLeast⟩ : ∃ earlier ∈ percents, percent ≤ earlier := by
    simpa using below
  cases known : percents.max? with
  | none => simp [List.max?_eq_none_iff.mp known] at member
  | some largest =>
      obtain ⟨here, above⟩ := List.max?_eq_some_iff.mp known
      apply List.max?_eq_some_iff.mpr
      refine ⟨List.mem_append_left _ here, fun other known => ?_⟩
      rcases List.mem_append.mp known with before | last
      · exact above other before
      · obtain rfl := List.mem_singleton.mp last
        exact atLeast.trans (above earlier member)

/-- A largest number is told by which numbers there are. -/
theorem max?_eq_of_mem_iff (same : ∀ percent, percent ∈ percents ↔ percent ∈ others) :
    percents.max? = others.max? := by
  cases largest : others.max? with
  | none =>
      obtain rfl := List.max?_eq_none_iff.mp largest
      have empty : percents = [] := List.eq_nil_iff_forall_not_mem.mpr fun percent member =>
        List.not_mem_nil ((same percent).mp member)
      rw [empty, List.max?_nil]
  | some percent =>
      obtain ⟨member, above⟩ := List.max?_eq_some_iff.mp largest
      apply List.max?_eq_some_iff.mpr
      exact ⟨(same percent).mpr member, fun other known => above other ((same other).mp known)⟩

end Largest

/-- Answers to percentages, one for each: it is given when it is above all that are given before. -/
structure Records (percents : List Int) (answers : List (Option Int)) : Prop where
  length : answers.length = percents.length
  each : ∀ index percent, percents[index]? = some percent →
    answers[index]? = some (if ∀ earlier ∈ (answers.take index).reduceOption, earlier < percent
      then some percent else none)
  increasing : answers.reduceOption.Pairwise (· < ·)
  given : ∀ percent ∈ answers.reduceOption, percent ∈ percents
  last : ∀ count, (answers.take count).reduceOption.getLast? = (percents.take count).max?

namespace Records

variable {percents : List Int} {answers : List (Option Int)}

theorem nil : Records [] [] where
  length := rfl
  each index percent known := by simp at known
  increasing := List.Pairwise.nil
  given percent member := by simp [List.reduceOption] at member
  last count := by simp [List.reduceOption]

theorem largest (records : Records percents answers) :
    answers.reduceOption.getLast? = percents.max? := by
  have whole := records.last percents.length
  rwa [List.take_length, ← records.length, List.take_length] at whole

/-- What was answered is below a percentage exactly when all percentages are: the largest of them
was answered. -/
theorem above_iff (records : Records percents answers) (percent : Int) :
    (∀ earlier ∈ answers.reduceOption, earlier < percent) ↔
      ∀ earlier ∈ percents, earlier < percent := by
  constructor
  · intro above earlier member
    cases known : percents.max? with
    | none => simp [List.max?_eq_none_iff.mp known] at member
    | some largest =>
        have ends : answers.reduceOption.getLast? = some largest := records.largest.trans known
        have below : earlier ≤ largest := (List.max?_eq_some_iff.mp known).2 earlier member
        have last : largest < percent := above largest (List.mem_of_getLast? ends)
        omega
  · intro above earlier member
    exact above earlier (records.given earlier member)

theorem concat (records : Records percents answers) (percent : Int) :
    Records (percents ++ [percent]) (answers ++
      [if ∀ earlier ∈ percents, earlier < percent then some percent else none]) := by
  generalize rule : (if ∀ earlier ∈ percents, earlier < percent then some percent else none) =
    answer
  have grown : (answers ++ [answer]).reduceOption = answers.reduceOption ++ answer.toList := by
    rw [List.reduceOption_append]
    cases answer <;> rfl
  constructor
  case length => simp [records.length]
  case each =>
    intro index other known
    rcases lt_or_ge index percents.length with earlier | here
    · rw [List.getElem?_append_left earlier] at known
      have before : index < answers.length := records.length ▸ earlier
      rw [List.getElem?_append_left before, List.take_append_of_le_length before.le]
      exact records.each index other known
    · rw [List.getElem?_append_right here] at known
      obtain ⟨rfl, rfl⟩ : index = percents.length ∧ other = percent := by
        have inside : index - percents.length < 1 := (List.getElem?_eq_some_iff.mp known).1
        have first : index - percents.length = 0 := by omega
        rw [first] at known
        exact ⟨by omega, (Option.some.inj known).symm⟩
      rw [← records.length, List.take_left, List.getElem?_concat_length, ← rule]
      simp only [records.above_iff]
  case increasing =>
    rw [grown, List.pairwise_append]
    refine ⟨records.increasing, by cases answer <;> simp, fun earlier member last ends => ?_⟩
    split at rule
    next above =>
      subst rule
      obtain rfl := List.mem_singleton.mp ends
      exact above earlier (records.given earlier member)
    next => simp [← rule] at ends
  case given =>
    intro other member
    rw [grown] at member
    rcases List.mem_append.mp member with earlier | last
    · exact List.mem_append_left _ (records.given other earlier)
    · split at rule
      next => simpa [← rule] using Or.inr last
      next => simp [← rule] at last
  case last =>
    intro count
    rcases le_or_gt count percents.length with before | past
    · have before' : count ≤ answers.length := records.length ▸ before
      rw [List.take_append_of_le_length before', List.take_append_of_le_length before]
      exact records.last count
    · have whole : ∀ {α : Type} (items : List α) (item : α), items.length = percents.length →
          (items ++ [item]).take count = items ++ [item] := fun items item same =>
        List.take_of_length_le (by simp; omega)
      rw [whole answers answer records.length, whole percents percent rfl, grown]
      split at rule
      next above =>
        rw [← rule, max?_concat_of_above above, Option.toList_some, List.getLast?_concat]
      next below =>
        rw [← rule, max?_concat_of_not_above below, Option.toList_none, List.append_nil]
        exact records.largest

end Records

namespace Translator

/-- A translator that remembers the largest percentage so far still does after the next. -/
theorem record_of_max? {α : Type} (total : α) (seen : List Int) (percent : Int) :
    record ⟨total, seen.max?⟩ percent = (⟨total, (seen ++ [percent]).max?⟩,
      if ∀ earlier ∈ seen, earlier < percent then some percent else none) := by
  unfold record
  split
  next largest known =>
    have known' : seen.max? = some largest := known
    obtain ⟨member, above⟩ := List.max?_eq_some_iff.mp known'
    split
    next atMost =>
      have below : ¬ ∀ earlier ∈ seen, earlier < percent := fun under =>
        absurd (under largest member) (not_lt.mpr atMost)
      rw [if_neg below, max?_concat_of_not_above below]
    next exceeds =>
      have under : ∀ earlier ∈ seen, earlier < percent := fun earlier known =>
        (above earlier known).trans_lt (not_le.mp exceeds)
      rw [if_pos under, max?_concat_of_above under]
  next unknown =>
    obtain rfl := List.max?_eq_none_iff.mp unknown
    rfl

variable {α τ : Type} [Measure α] {total elapsed : α} {percent : Int}

def feed (hear : τ → Option Int → τ) (state : Translator α × τ) (elapsed : α) :
    Except NumericError (Translator α × τ) :=
  (state.1.update elapsed).map fun (translator, answer) => (translator, hear state.2 answer)

theorem feed_of_max? (seen : List Int) (hear : τ → Option Int → τ) (heard : τ)
    (translated : percentage total elapsed = .ok percent) :
    feed hear (⟨total, seen.max?⟩, heard) elapsed =
      .ok (⟨total, (seen ++ [percent]).max?⟩,
        hear heard (if ∀ earlier ∈ seen, earlier < percent then some percent else none)) := by
  simp only [feed, update, translated, Except.map, record_of_max?]

/-- What holds of the percentages and of what is heard, if every answer by the rule keeps it, holds
after all markers. -/
theorem exists_foldlM_feed (hear : τ → Option Int → τ) {heard : τ} {value : α → Int}
    {markers : List α} (seen : List Int) (holds : List Int → τ → Prop)
    (translated : ∀ elapsed ∈ markers, percentage total elapsed = .ok (value elapsed))
    (keeps : ∀ seen heard, ∀ elapsed ∈ markers, holds seen heard → holds (seen ++ [value elapsed])
      (hear heard (if ∀ earlier ∈ seen, earlier < value elapsed
        then some (value elapsed) else none)))
    (start : holds seen heard) :
    ∃ after, markers.foldlM (feed hear) (⟨total, seen.max?⟩, heard) =
        .ok (⟨total, (seen ++ markers.map value).max?⟩, after) ∧
      holds (seen ++ markers.map value) after := by
  induction markers generalizing seen heard with
  | nil => exact ⟨heard, by simp [pure, Except.pure], by simpa using start⟩
  | cons elapsed markers ih =>
      have next := feed_of_max? seen hear heard (translated elapsed List.mem_cons_self)
      have kept := keeps seen heard elapsed List.mem_cons_self start
      obtain ⟨after, runs, holds⟩ := ih (seen ++ [value elapsed])
        (fun other member => translated other (List.mem_cons_of_mem _ member))
        (fun seen heard other member => keeps seen heard other (List.mem_cons_of_mem _ member))
        kept
      refine ⟨after, ?_, by simpa using holds⟩
      rw [List.foldlM_cons, next]
      simpa [bind, Except.bind] using runs

def keepAnswers (answers : List (Option Int)) (answer : Option Int) : List (Option Int) :=
  answers ++ [answer]

def answers (translator : Translator α) (markers : List α) :
    Except NumericError (List (Option Int)) :=
  (markers.foldlM (feed keepAnswers) (translator, [])).map Prod.snd

theorem exists_answers {value : α → Int} {markers : List α}
    (translated : ∀ elapsed ∈ markers, percentage total elapsed = .ok (value elapsed)) :
    ∃ given, (start total).answers markers = .ok given ∧ Records (markers.map value) given := by
  obtain ⟨given, runs, records⟩ := exists_foldlM_feed keepAnswers [] Records translated
    (fun _ _ elapsed _ records => records.concat (value elapsed)) Records.nil
  have begins : start total = ⟨total, ([] : List Int).max?⟩ := rfl
  refine ⟨given, ?_, by simpa using records⟩
  rw [answers, begins, runs]
  rfl

def passTo (receive : τ → Int → τ) (receiver : τ) : Option Int → τ
  | none => receiver
  | some percent => receive receiver percent

end Translator

/-- The watcher of an encode is a translator whose answers its receiver hears. -/
theorem exists_foldlM_listen_progress {τ : Type} {receive : τ → Int → τ} (watch : Watch τ)
    {markers : List Binary64} {translator : Translator Binary64} {receiver : τ}
    (runs : markers.foldlM (Translator.feed (Translator.passTo receive))
      (watch.translator, watch.receiver) = .ok (translator, receiver)) :
    ∃ last, (markers.map Event.progress).foldlM (Watch.listen receive) watch =
      .ok ⟨translator, last, receiver⟩ := by
  induction markers generalizing watch with
  | nil =>
      obtain ⟨rfl, rfl⟩ := Prod.mk.inj (Except.ok.inj runs)
      exact ⟨watch.last, rfl⟩
  | cons elapsed markers ih =>
      rw [List.foldlM_cons, bind_eq_ok_iff] at runs
      obtain ⟨⟨next, heard⟩, first, rest⟩ := runs
      have listens : watch.listen receive (.progress elapsed) =
          .ok ⟨next, some (.progress elapsed), heard⟩ := by
        unfold Translator.feed at first
        cases updated : watch.translator.update elapsed with
        | error reason => simp [updated, Except.map] at first
        | ok answered =>
            simp only [updated, Except.map, Except.ok.injEq, Prod.mk.injEq] at first
            obtain ⟨rfl, rfl⟩ := first
            simp only [Watch.listen, updated]
            cases answered.2 <;> rfl
      obtain ⟨last, others⟩ := ih ⟨next, some (.progress elapsed), heard⟩ rest
      refine ⟨last, ?_⟩
      rw [List.map_cons, List.foldlM_cons, listens]
      exact others

end Encode

end Montage
