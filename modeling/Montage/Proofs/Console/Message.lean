import Montage.Console.Log
import Montage.Proofs.Console.Styled
import Mathlib.Data.List.TakeWhile

/-!
# Messages that the console takes

A message of the service starts with the name of its part in brackets.  The console takes
it when no further bracket is opened in it, and it does not take a message with a closing
tag that matches neither that name nor the level of the message.
-/

namespace Montage.Console

namespace Markup

section Parts

def tagsOf (parts : List Part) : List (List Char) :=
  parts.filterMap fun
    | .tag _ inside => some inside
    | _ => none

variable {character : Char} {text rest inside beyond : List Char}

def bracketed (inside : List Char) : List Char :=
  '[' :: inside ++ [']']

def Opens (inside : List Char) : Prop :=
  ∃ first more, inside = first :: more ∧ startsTag first = true ∧
    ∀ character ∈ more, insideTag character = true

theorem takeTag?_eq_none (absent : '[' ∉ text) : takeTag? text = none := by
  unfold takeTag?
  split
  next first more opened =>
    have suffix := (List.dropWhile_suffix (· == '\\') : text.dropWhile (· == '\\') <:+ text)
    exact absurd (suffix.subset (opened ▸ List.mem_cons_self)) absent
  next => rfl

theorem takeTag?_bracketed (opens : Opens inside) (escapes : Nat) (beyond : List Char) :
    takeTag? (List.replicate escapes '\\' ++ (bracketed inside ++ beyond)) =
      some (escapes, inside, beyond) := by
  obtain ⟨first, more, rfl, starts, within⟩ := opens
  have backslashes : ∀ character ∈ List.replicate escapes '\\', (character == '\\') = true := by
    intro character member
    simp [List.eq_of_mem_replicate member]
  have stops : insideTag ']' = false := rfl
  unfold takeTag?
  rw [List.dropWhile_append_of_pos backslashes, List.takeWhile_append_of_pos backslashes]
  simp [bracketed, starts, List.dropWhile_append_of_pos within,
    List.takeWhile_append_of_pos within, stops]

theorem tagsOf_parts_cons (position : Nat) (none : takeTag? (character :: rest) = none) :
    tagsOf (parts position (character :: rest)) = tagsOf (parts (position + 1) rest) := by
  rw [parts]
  split
  next taken => simp [none] at taken
  next =>
    split
    next characters more equal => rw [equal]; rfl
    next => rfl

/-- A tag is one of the parts unless the backslashes in front of it are odd. -/
theorem tagsOf_parts_tag (position escapes : Nat) {characters : List Char}
    (taken : takeTag? characters = some (escapes, inside, beyond)) :
    tagsOf (parts position characters) =
      (if escapes % 2 = 1 then [] else [inside]) ++
        tagsOf (parts (position + escapes + inside.length + 2) beyond) := by
  cases characters with
  | nil => simp [takeTag?] at taken
  | cons character rest =>
      rw [parts]
      split
      next escapes' inside' beyond' equal =>
        obtain ⟨rfl, rfl, rfl⟩ : escapes' = escapes ∧ inside' = inside ∧ beyond' = beyond := by
          simpa [taken, eq_comm] using equal
        have lead : tagsOf (tagParts position escapes' inside') =
            if escapes' % 2 = 1 then [] else [inside'] := by
          unfold tagParts
          by_cases odd : escapes' % 2 = 1 <;> by_cases none : escapes' / 2 = 0 <;>
            simp [tagsOf, odd, none]
        rw [← lead, tagsOf, List.filterMap_append]
        rfl
      next none => simp [taken] at none

theorem tagsOf_parts_text (position : Nat) (absent : '[' ∉ text) :
    tagsOf (parts position text) = [] := by
  induction text generalizing position with
  | nil => simp [parts, tagsOf]
  | cons character text ih =>
      rw [tagsOf_parts_cons position (takeTag?_eq_none absent)]
      exact ih (position + 1) fun member => absent (List.mem_cons_of_mem _ member)

theorem takeTag?_append_eq_none (filled : text ≠ []) (absent : '[' ∉ text)
    (last : text.getLast? ≠ some '\\') (rest : List Char) : takeTag? (text ++ rest) = none := by
  have left : text.dropWhile (· == '\\') ≠ [] := by
    intro nothing
    have all := List.dropWhile_eq_nil_iff.mp nothing
    rw [List.getLast?_eq_some_getLast filled] at last
    exact last (congrArg some (by simpa using all _ (List.getLast_mem filled)))
  obtain ⟨first, more, equal⟩ := List.exists_cons_of_ne_nil left
  have inside : first ∈ text :=
    (List.dropWhile_suffix _).subset (equal ▸ List.mem_cons_self : first ∈ text.dropWhile _)
  have other : first ≠ '[' := fun opened => absent (opened ▸ inside)
  unfold takeTag?
  rw [List.dropWhile_append, equal]
  simp [other]

/-- A tag behind text in which no bracket is opened is the first of the parts, unless the
backslashes in front of it are odd. -/
theorem exists_tagsOf_parts_append (position escapes : Nat) (absent : '[' ∉ text)
    (last : text.getLast? ≠ some '\\') (opens : Opens inside) (beyond : List Char) :
    ∃ reached, tagsOf (parts position
        (text ++ (List.replicate escapes '\\' ++ (bracketed inside ++ beyond)))) =
      (if escapes % 2 = 1 then [] else [inside]) ++ tagsOf (parts reached beyond) := by
  -- No character of the text starts a tag: its last one is no backslash, so those in front
  -- of the tag are not taken together with it.
  induction text generalizing position with
  | nil => exact ⟨_, tagsOf_parts_tag position escapes (takeTag?_bracketed opens escapes beyond)⟩
  | cons character text ih =>
      have none := takeTag?_append_eq_none (by simp) absent last
        (List.replicate escapes '\\' ++ (bracketed inside ++ beyond))
      rw [List.cons_append] at none ⊢
      rw [tagsOf_parts_cons position none]
      refine ih (position + 1) (fun member => absent (List.mem_cons_of_mem _ member)) ?_
      cases text with
      | nil => simp
      | cons next text => simpa [List.getLast?_cons_cons] using last

/-- Every text ends with some backslashes behind its last other character. -/
theorem exists_eq_append_backslashes (text : List Char) :
    ∃ front escapes, text = front ++ List.replicate escapes '\\' ∧
      front.getLast? ≠ some '\\' := by
  induction text with
  | nil => exact ⟨[], 0, rfl, by simp⟩
  | cons character text ih =>
      obtain ⟨front, escapes, rfl, last⟩ := ih
      by_cases bare : front = [] ∧ character = '\\'
      · obtain ⟨rfl, rfl⟩ := bare
        exact ⟨[], escapes + 1, rfl, by simp⟩
      · refine ⟨character :: front, escapes, rfl, ?_⟩
        cases front with
        | nil => simpa using bare
        | cons next front => simpa [List.getLast?_cons_cons] using last

end Parts

section Gather

variable {before : List Char} {closed : List Span} {stack : List OpenTag} {items : List Part}
  {inside : List Char} {more : List (List Char)} {styles : List String}

/-- Parts without tags are gathered whatever is open. -/
theorem exists_gather_of_tagsOf_nil (before : List Char) (closed : List Span)
    (stack : List OpenTag) (tags : tagsOf items = []) :
    ∃ shown, gather before closed stack items =
      .ok ⟨shown, spansOf shown.length closed stack⟩ := by
  induction items generalizing before with
  | nil => exact ⟨before, rfl⟩
  | cons item items ih =>
      cases item with
      | plain characters => exact ih _ tags
      | kept characters => exact ih _ tags
      | tag position inside => simp [tagsOf] at tags

/-- What stands in front of the first tag is gathered before it. -/
theorem exists_gather_of_tagsOf_cons (before : List Char) (closed : List Span)
    (stack : List OpenTag) (tags : tagsOf items = inside :: more) :
    ∃ shown position rest, tagsOf rest = more ∧
      gather before closed stack items =
        gather shown closed stack (.tag position inside :: rest) := by
  induction items generalizing before with
  | nil => simp [tagsOf] at tags
  | cons item items ih =>
      cases item with
      | plain characters => exact ih _ tags
      | kept characters => exact ih _ tags
      | tag position first =>
          simp only [tagsOf, List.filterMap_cons, List.cons.injEq] at tags
          obtain ⟨rfl, rfl⟩ := tags
          exact ⟨before, position, items, rfl, rfl⟩

/-- The stretches of a text are in the styles of its tags. -/
theorem in_spansOf {characters : List Char} (behind : Nat)
    (ended : ∀ span ∈ closed, span.style ∈ styles)
    (opened : ∀ tag ∈ stack, tag.tag.style ∈ styles) :
    Styled.In styles ⟨characters, spansOf behind closed stack⟩ := by
  intro span member
  simp only [spansOf, List.mem_mergeSort, List.mem_reverse, List.mem_append, List.mem_filter,
    List.mem_map] at member
  rcases member with member | ⟨⟨tag, member, rfl⟩, -⟩
  · exact ended span member
  · exact opened tag member

end Gather

section Names

def isSmall (text : String) : Bool :=
  text.toList.all fun character => 'a' ≤ character && character ≤ 'z'

/-- Whether a text is made of small letters and is the name of a style of its own. -/
structure IsTagName (name : String) : Prop where
  filled : name.toList ≠ []
  small : isSmall name = true
  trimmed : Text.trimBy Text.isBlank name.toList = name.toList
  style : styleName name = .ok name

variable {name other : String} {inside : List Char}

theorem ne_of_letter {letter character : Char} (small : 'a' ≤ letter)
    (low : ¬ 'a' ≤ character) : letter ≠ character := by
  rintro rfl
  exact low small

theorem letters_of_isSmall (small : isSmall name = true) :
    ∀ character ∈ name.toList, 'a' ≤ character ∧ character ≤ 'z' := by
  simpa [isSmall] using small

/-- A word in parentheses is not made of small letters alone. -/
theorem inParentheses?_eq_none (letters : ∀ character ∈ inside, 'a' ≤ character)
    (word : String) : StyleName.inParentheses? word inside = none := by
  have absent : Text.dropStart? (word.toList ++ ['(']) inside = none := by
    generalize word.toList = start
    induction start generalizing inside with
    | nil =>
        cases inside with
        | nil => rfl
        | cons first more =>
            have other := ne_of_letter (letters first List.mem_cons_self)
              (by decide : ¬ 'a' ≤ '(')
            simp [Text.dropStart?, other.symm]
    | cons expected start ih =>
        cases inside with
        | nil => rfl
        | cons first more =>
            simp only [List.cons_append, Text.dropStart?]
            split
            · exact ih fun character member => letters character (List.mem_cons_of_mem _ member)
            · rfl
  simp [StyleName.inParentheses?, absent]

theorem readColor_of_isSmall (small : isSmall name = true) :
    StyleName.readColor name = .ok () ∨ StyleName.readColor name = .error .noStyle := by
  have letters : ∀ character ∈ name.toList, 'a' ≤ character := fun character member =>
    (letters_of_isSmall small character member).1
  unfold StyleName.readColor
  dsimp only
  split
  · exact .inl rfl
  · split
    next digits equal =>
      exact absurd rfl (ne_of_letter (letters '#' (equal ▸ List.mem_cons_self)) (by decide))
    next =>
      simp [inParentheses?_eq_none letters]

/-- A word of small letters that is not the word for an attribute, or one of those that
tell of the word behind it, is the name of a style of its own. -/
theorem IsTagName.of_word (filled : name.toList ≠ []) (small : isSmall name = true)
    (trimmed : Text.trimBy Text.isBlank name.toList = name.toList)
    (lower : Text.lowercase name = name) (word : StyleName.wordsOf name = [name])
    (plain : name ∉ ["on", "not", "link", "none"])
    (other : StyleName.attribute? name = none) : IsTagName name := by
  refine ⟨filled, small, trimmed, ?_⟩
  have normal : StyleName.normalize name = .ok name := by
    have alone : StyleName.parse name = (do
        StyleName.readColor name
        .ok { color := some name }) := by
      simp only [List.mem_cons, List.not_mem_nil, or_false, not_or] at plain
      simp [StyleName.parse, word, StyleName.parseWords, lower, other, plain]
    unfold StyleName.normalize
    rcases readColor_of_isSmall small with color | none
    · rw [alone, color]
      simp [bind, Except.bind, StyleName.canonical, StyleName.attributes, Text.join]
    · rw [alone, none]
      simp [bind, Except.bind, Text.trim, trimmed, lower]
  rw [styleName, normal]

theorem IsTagName.within (named : IsTagName name) :
    ∀ character ∈ name.toList, startsTag character = true ∧ insideTag character = true ∧
      character ≠ '=' ∧ character ≠ '/' := by
  intro character member
  obtain ⟨first, last⟩ := letters_of_isSmall named.small character member
  simp [startsTag, insideTag, first, last, ne_of_letter first (by decide : ¬ 'a' ≤ '['),
    ne_of_letter first (by decide : ¬ 'a' ≤ ']'),
    ne_of_letter first (by decide : ¬ 'a' ≤ '='),
    ne_of_letter first (by decide : ¬ 'a' ≤ '/')]

/-- A tag without an equals sign is a name alone. -/
theorem ofInside_of_not_mem (absent : '=' ∉ inside) :
    Tag.ofInside inside = ⟨String.ofList inside, none⟩ := by
  have all : ∀ character ∈ inside, (character != '=') = true := by
    intro character member
    exact bne_iff_ne.mpr fun equal => absent (equal ▸ member)
  have whole : inside.takeWhile (· != '=') = inside := List.takeWhile_eq_self_iff.mpr all
  have nothing : inside.dropWhile (· != '=') = [] := List.dropWhile_eq_nil_iff.mpr all
  simp [Tag.ofInside, whole, nothing]

theorem IsTagName.opens (named : IsTagName name) : Opens name.toList := by
  obtain ⟨first, more, equal⟩ := List.exists_cons_of_ne_nil named.filled
  have within := named.within
  rw [equal] at within ⊢
  exact ⟨first, more, rfl, (within first List.mem_cons_self).1,
    fun character member => (within character (List.mem_cons_of_mem _ member)).2.1⟩

theorem IsTagName.opens_closing (named : IsTagName name) : Opens ('/' :: name.toList) :=
  ⟨'/', name.toList, rfl, rfl, fun character member => (named.within character member).2.1⟩

theorem IsTagName.ofInside (named : IsTagName name) :
    Tag.ofInside name.toList = ⟨name, none⟩ := by
  rw [ofInside_of_not_mem fun member => (named.within _ member).2.2.1 rfl, String.ofList_toList]

theorem step_open (named : IsTagName name) (position behind : Nat) (stack : List OpenTag) :
    step position behind name.toList stack =
      .ok (⟨⟨name, none⟩, behind⟩ :: stack, none) := by
  unfold step
  simp only [named.ofInside]
  split
  next rest equal =>
    exact absurd rfl (named.within '/' (equal ▸ List.mem_cons_self)).2.2.2
  next => simp [named.style, bind, Except.bind]

theorem ofInside_closing (absent : '=' ∉ inside) :
    Tag.ofInside ('/' :: inside) = ⟨String.ofList ('/' :: inside), none⟩ := by
  refine ofInside_of_not_mem fun member => ?_
  rcases List.mem_cons.mp member with slash | member
  · simp at slash
  · exact absent member

theorem step_close (named : IsTagName name) (position behind start : Nat) {stack : List OpenTag}
    (apart : ∀ opened ∈ stack, opened.tag.name ≠ name) :
    step position behind ('/' :: name.toList) (stack ++ [⟨⟨name, none⟩, start⟩]) =
      .ok (stack, some ⟨⟨name, none⟩, start⟩) := by
  have whole := ofInside_closing fun member => (named.within _ member).2.2.1 rfl
  have taken : takeOpen? name (stack ++ [⟨⟨name, none⟩, start⟩]) =
      some (⟨⟨name, none⟩, start⟩, stack) := by
    induction stack with
    | nil => simp [takeOpen?]
    | cons first rest ih =>
        have later := ih fun opened member => apart opened (List.mem_cons_of_mem _ member)
        simp [takeOpen?, apart first List.mem_cons_self, later]
  simp [step, whole, named.trimmed, named.filled, named.style, taken, Tag.close, bind, Except.bind]

theorem step_unmatched (position behind : Nat) {stack : List OpenTag} (absent : '=' ∉ inside)
    (filled : Text.trimBy Text.isBlank inside ≠ [])
    (style : styleName (String.ofList (Text.trimBy Text.isBlank inside)) = .ok name)
    (apart : ∀ opened ∈ stack, opened.tag.name ≠ name) :
    step position behind ('/' :: inside) stack =
      .error (.unmatched (String.ofList (bracketed ('/' :: inside))) position) := by
  have nothing : takeOpen? name stack = none := by
    induction stack with
    | nil => rfl
    | cons first rest ih =>
        have later := ih fun opened member => apart opened (List.mem_cons_of_mem _ member)
        simp [takeOpen?, apart first List.mem_cons_self, later]
  simp [step, ofInside_closing absent, filled, style, nothing, bracketed, bind, Except.bind]

end Names

end Markup

namespace Level

def tag : Level → String
  | .info => "info"
  | .success => "success"
  | .warning => "warning"
  | .error => "error"
  | .debug => "dim"

/-- What stands before messages of a level. -/
def sign : Level → String
  | .info => "ℹ "
  | .success => "✓ "
  | .warning => "⚠ "
  | .error => "✗ "
  | .debug => "  "

theorem toList_decorate (level : Level) (message : String) :
    (level.decorate message).toList =
      Markup.bracketed level.tag.toList ++ (level.sign.toList ++ (message.toList ++
        Markup.bracketed ('/' :: level.tag.toList))) := by
  cases level <;> simp [decorate, tag, sign, Markup.bracketed]

theorem isTagName_tag (level : Level) : Markup.IsTagName level.tag := by
  cases level with
  | debug => exact ⟨by decide, by decide, by decide, by decide⟩
  | _ => refine .of_word ?_ ?_ ?_ ?_ ?_ ?_ ?_ <;> decide

end Level

namespace Markup

variable {message name : String} {text : Styled} {styles : List String}

theorem isTagName_jobs : IsTagName "jobs" := by
  refine .of_word ?_ ?_ ?_ ?_ ?_ ?_ ?_ <;> decide

theorem isTagName_render : IsTagName "render" := by
  refine .of_word ?_ ?_ ?_ ?_ ?_ ?_ ?_ <;> decide

theorem forM_checkStyle (named : ∀ style ∈ styles, IsTagName style) {spans : List Span}
    (inside : ∀ span ∈ spans, span.style ∈ styles) : spans.forM checkStyle = .ok () := by
  induction spans with
  | nil => rfl
  | cons span spans ih =>
      have taken : checkStyle span = .ok () := by
        unfold checkStyle
        split
        · rfl
        · rw [(named span.style (inside span List.mem_cons_self)).style]
          rfl
      change (checkStyle span >>= fun _ => spans.forM checkStyle) = .ok ()
      rw [taken]
      exact ih fun other member => inside other (List.mem_cons_of_mem _ member)

/-- A message whose tags fit together is printed if they are names of styles. -/
theorem exists_render (gathered : styled message = .ok text) (inside : text.In styles)
    (named : ∀ style ∈ styles, IsTagName style) : ∃ printed, render message = .ok printed := by
  have checked : ((text.printedLines Layout.consoleWidth).flatMap Styled.spans).forM
      checkStyle = .ok () := by
    refine forM_checkStyle named fun span member => ?_
    obtain ⟨line, listed, member⟩ := List.mem_flatMap.mp member
    exact inside.printedLines _ line listed span member
  refine ⟨Styled.printed Layout.consoleWidth (text.printedLines Layout.consoleWidth), ?_⟩
  unfold render linesWithin
  rw [gathered]
  simp only [bind, Except.bind] at checked ⊢
  rw [checked]
  rfl

end Markup

section Messages

variable {name : String} {text : List Char} {level : Level} {message : String}

/-- The tags of a message that starts with a name in brackets: that of its level, the name,
and those of its text. -/
theorem exists_tagsOf_message (level : Level) (named : Markup.IsTagName name)
    (starts : message.toList = Markup.bracketed name.toList ++ text) :
    ∃ reached, Markup.tagsOf (Markup.parts 0 (level.decorate message).toList) =
      level.tag.toList :: name.toList :: Markup.tagsOf (Markup.parts reached
        (text ++ Markup.bracketed ('/' :: level.tag.toList))) := by
  have outer := Markup.takeTag?_bracketed level.isTagName_tag.opens 0
    (level.sign.toList ++ (message.toList ++ Markup.bracketed ('/' :: level.tag.toList)))
  have signed : '[' ∉ level.sign.toList ∧ level.sign.toList.getLast? ≠ some '\\' := by
    cases level <;> decide
  obtain ⟨reached, inner⟩ := Markup.exists_tagsOf_parts_append (0 + 0 +
    level.tag.toList.length + 2) 0 signed.1 signed.2 named.opens
    (text ++ Markup.bracketed ('/' :: level.tag.toList))
  refine ⟨reached, ?_⟩
  rw [level.toList_decorate]
  rw [List.replicate_zero, List.nil_append] at outer inner
  rw [Markup.tagsOf_parts_tag 0 0 outer, starts, List.append_assoc, inner]
  simp

/-- A message that starts with a name in brackets is gathered with the tag of its level and
the name open, from its text on. -/
theorem exists_styled_eq_gather (level : Level) (named : Markup.IsTagName name)
    (starts : message.toList = Markup.bracketed name.toList ++ text) :
    ∃ reached shown start start' rest,
      Markup.tagsOf rest = Markup.tagsOf (Markup.parts reached
        (text ++ Markup.bracketed ('/' :: level.tag.toList))) ∧
      Markup.styled (level.decorate message) =
        Markup.gather shown [] [⟨⟨name, none⟩, start⟩, ⟨⟨level.tag, none⟩, start'⟩] rest := by
  obtain ⟨reached, tags⟩ := exists_tagsOf_message level named starts
  obtain ⟨first, place, behind, others, outer⟩ :=
    Markup.exists_gather_of_tagsOf_cons [] [] [] tags
  obtain ⟨second, place', rest, same, inner⟩ :=
    Markup.exists_gather_of_tagsOf_cons first [] [⟨⟨level.tag, none⟩, first.length⟩] others
  refine ⟨reached, second, second.length, first.length, rest, same, ?_⟩
  unfold Markup.styled
  rw [outer, Markup.gather, Markup.step_open level.isTagName_tag]
  simp only [bind, Except.bind, Option.toList_none, List.map_nil, List.append_nil]
  rw [inner, Markup.gather, Markup.step_open named]
  simp only [bind, Except.bind, Option.toList_none, List.map_nil, List.append_nil]

/-- What is open at the start of a text without tags is gathered with it up to the closing tag of
the level. -/
theorem exists_gather_of_not_mem (level : Level) {reached start : Nat} {shown : List Char}
    {stack : List Markup.OpenTag} {rest : List Markup.Part} {styles : List String}
    (apart : ∀ opened ∈ stack, opened.tag.name ≠ level.tag)
    (listed : ∀ opened ∈ stack, opened.tag.style ∈ styles) (own : level.tag ∈ styles)
    (absent : '[' ∉ text)
    (tags : Markup.tagsOf rest = Markup.tagsOf (Markup.parts reached
      (text ++ Markup.bracketed ('/' :: level.tag.toList)))) :
    ∃ gathered : Styled, gathered.In styles ∧
      Markup.gather shown [] (stack ++ [⟨⟨level.tag, none⟩, start⟩]) rest = .ok gathered := by
  -- The text may end with backslashes, which then stand in front of the closing tag.
  obtain ⟨front, escapes, rfl, last⟩ := Markup.exists_eq_append_backslashes text
  have outside : '[' ∉ front := fun member => absent (List.mem_append_left _ member)
  obtain ⟨beyond, closing⟩ := Markup.exists_tagsOf_parts_append reached escapes outside last
    level.isTagName_tag.opens_closing []
  rw [List.append_nil] at closing
  rw [List.append_assoc, closing, Markup.tagsOf_parts_text beyond (by simp)] at tags
  by_cases odd : escapes % 2 = 1
  -- An odd number of them makes the closing tag plain text, and all tags stay open.
  · rw [if_pos odd] at tags
    obtain ⟨all, gathered⟩ := Markup.exists_gather_of_tagsOf_nil shown []
      (stack ++ [⟨⟨level.tag, none⟩, start⟩]) tags
    refine ⟨_, Markup.in_spansOf all.length (by simp) ?_, gathered⟩
    intro opened member
    rcases List.mem_append.mp member with inner | outer
    · exact listed opened inner
    · obtain rfl := List.mem_singleton.mp outer
      exact own
  · rw [if_neg odd] at tags
    obtain ⟨before, place, others, none, gathered⟩ :=
      Markup.exists_gather_of_tagsOf_cons shown [] (stack ++ [⟨⟨level.tag, none⟩, start⟩]) tags
    rw [gathered, Markup.gather, Markup.step_close level.isTagName_tag place before.length start
      apart]
    obtain ⟨all, gathered⟩ := Markup.exists_gather_of_tagsOf_nil before
      [⟨start, before.length, level.tag⟩] stack none
    refine ⟨_, Markup.in_spansOf all.length ?_ listed, gathered⟩
    simpa using own

/-- The tags of a message that starts with a name in brackets fit together if none is opened
behind it. -/
theorem exists_styled_of_not_mem (named : Markup.IsTagName name) (apart : name ≠ level.tag)
    (starts : message.toList = Markup.bracketed name.toList ++ text) (absent : '[' ∉ text) :
    ∃ gathered : Styled, gathered.In [name, level.tag] ∧
      Markup.styled (level.decorate message) = .ok gathered := by
  obtain ⟨reached, shown, start, start', rest, tags, gathers⟩ :=
    exists_styled_eq_gather level named starts
  rw [gathers]
  have inner : ∀ opened ∈ [(⟨⟨name, none⟩, start⟩ : Markup.OpenTag)],
      opened.tag.name ≠ level.tag := by simpa using apart
  exact exists_gather_of_not_mem level inner (by simp [Markup.Tag.style]) (by simp) absent tags

/-- So do the tags of a message in which none is opened at all. -/
theorem exists_styled_of_plain (level : Level) (absent : '[' ∉ message.toList) :
    ∃ gathered : Styled, gathered.In [level.tag] ∧
      Markup.styled (level.decorate message) = .ok gathered := by
  have signed : '[' ∉ level.sign.toList := by cases level <;> decide
  have outer := Markup.takeTag?_bracketed level.isTagName_tag.opens 0
    (level.sign.toList ++ (message.toList ++ Markup.bracketed ('/' :: level.tag.toList)))
  have tags := Markup.tagsOf_parts_tag 0 0 outer
  rw [List.replicate_zero, List.nil_append, ← level.toList_decorate] at tags
  obtain ⟨shown, place, rest, same, gathers⟩ :=
    Markup.exists_gather_of_tagsOf_cons [] [] [] tags
  unfold Markup.styled
  rw [gathers, Markup.gather, Markup.step_open level.isTagName_tag]
  rw [← List.append_assoc] at same
  have inside : '[' ∉ level.sign.toList ++ message.toList := by simp [signed, absent]
  have nothing : ∀ opened ∈ ([] : List Markup.OpenTag), opened.tag.name ≠ level.tag := by simp
  exact exists_gather_of_not_mem level nothing (by simp) (by simp) inside same

/-- The console takes a message whose tags fit together in the names of styles. -/
theorem announce_of_styled (verbosity : Verbosity) {gathered : Styled} {styles : List String}
    (styled : Markup.styled (level.decorate message) = .ok gathered) (inside : gathered.In styles)
    (named : ∀ style ∈ styles, Markup.IsTagName style) :
    announce verbosity level message = .ok () := by
  obtain ⟨printed, rendered⟩ := Markup.exists_render styled inside named
  unfold announce line
  split
  next => rfl
  next reason refused =>
    rw [rendered] at refused
    split at refused <;> simp [Except.map] at refused

/-- The console takes a message that starts with a name in brackets if none is opened
behind it. -/
theorem announce_of_not_mem (verbosity : Verbosity) (named : Markup.IsTagName name)
    (apart : name ≠ level.tag) (starts : message.toList = Markup.bracketed name.toList ++ text)
    (absent : '[' ∉ text) : announce verbosity level message = .ok () := by
  obtain ⟨gathered, inside, styled⟩ := exists_styled_of_not_mem named apart starts absent
  refine announce_of_styled verbosity styled inside fun style listed => ?_
  simp only [List.mem_cons, List.not_mem_nil, or_false] at listed
  rcases listed with rfl | rfl
  · exact named
  · exact level.isTagName_tag

theorem announce_of_plain (verbosity : Verbosity) (level : Level)
    (absent : '[' ∉ message.toList) : announce verbosity level message = .ok () := by
  obtain ⟨gathered, inside, styled⟩ := exists_styled_of_plain level absent
  refine announce_of_styled verbosity styled inside fun style listed => ?_
  rw [List.mem_singleton.mp listed]
  exact level.isTagName_tag

/-- The console refuses a message that starts with a name in brackets if the next tag
closes neither that name nor the level. -/
theorem announce_unmatched {verbosity : Verbosity} (prints : verbosity.prints level = true)
    (named : Markup.IsTagName name) {front inside beyond : List Char} {other : String}
    (starts : message.toList = Markup.bracketed name.toList ++
      (front ++ (Markup.bracketed ('/' :: inside) ++ beyond)))
    (outside : '[' ∉ front) (last : front.getLast? ≠ some '\\')
    (within : ∀ character ∈ inside, Markup.insideTag character = true ∧ character ≠ '=')
    (filled : Text.trimBy Text.isBlank inside ≠ [])
    (style : Markup.styleName (String.ofList (Text.trimBy Text.isBlank inside)) = .ok other)
    (apart : other ≠ name ∧ other ≠ level.tag) :
    ∃ position, announce verbosity level message = .error (MarkupError.unmatched
      (String.ofList (Markup.bracketed ('/' :: inside))) position).fault := by
  obtain ⟨reached, shown, start, start', rest, tags, gathers⟩ :=
    exists_styled_eq_gather level named starts
  have opens : Markup.Opens ('/' :: inside) :=
    ⟨'/', inside, rfl, rfl, fun character member => (within character member).1⟩
  obtain ⟨later, next⟩ := Markup.exists_tagsOf_parts_append reached 0 outside last opens
    (beyond ++ Markup.bracketed ('/' :: level.tag.toList))
  simp only [List.append_assoc] at tags
  rw [List.replicate_zero, List.nil_append] at next
  rw [next] at tags
  obtain ⟨before, position, others, -, gathered⟩ :=
    Markup.exists_gather_of_tagsOf_cons shown []
      [⟨⟨name, none⟩, start⟩, ⟨⟨level.tag, none⟩, start'⟩] tags
  refine ⟨position, ?_⟩
  have refused : Markup.styled (level.decorate message) = .error (.unmatched
      (String.ofList (Markup.bracketed ('/' :: inside))) position) := by
    rw [gathers, gathered, Markup.gather, Markup.step_unmatched position before.length
      (fun member => (within _ member).2 rfl) filled style
      (by simp [apart.1.symm, apart.2.symm])]
    rfl
  simp [announce, line, prints, Markup.render, Markup.linesWithin, refused, Except.map, bind,
    Except.bind]

/-- The end of bold type is refused behind a name in brackets and plain text. -/
theorem exists_announce_closingBold {verbosity : Verbosity}
    (prints : verbosity.prints level = true) (named : Markup.IsTagName name)
    {front beyond : List Char}
    (starts : message.toList = Markup.bracketed name.toList ++
      (front ++ (Markup.bracketed ['/', 'b'] ++ beyond)))
    (outside : '[' ∉ front) (last : front.getLast? ≠ some '\\') (apart : "bold" ≠ name) :
    ∃ fault, announce verbosity level message = .error fault := by
  have style : Markup.styleName (String.ofList (Text.trimBy Text.isBlank ['b'])) = .ok "bold" := rfl
  have unlike : "bold" ≠ level.tag := by cases level <;> decide
  obtain ⟨position, refused⟩ := announce_unmatched prints named starts outside last
    (by simp [Markup.insideTag]) (by decide) style ⟨apart, unlike⟩
  exact ⟨_, refused⟩

end Messages

end Montage.Console
