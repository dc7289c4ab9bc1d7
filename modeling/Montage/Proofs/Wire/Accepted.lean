import Montage.Proofs.Sequence
import Montage.Wire.RenderRequest
import Mathlib.Data.List.Basic
import Mathlib.Data.List.Forall2

/-!
# Accepted requests

The items of a request that is read keep to the bounds of their fields.  What is no number
passes where a bound is checked by its opposite, as in the ends of a cut.
-/

namespace Montage

namespace Wire

namespace Checked

variable {α β : Type} {checked : Checked α} {value : α} {result : β}

@[simp]
theorem refuse_ne_valid {complaint : String} : refuse complaint ≠ .valid value := by
  simp [refuse]

@[simp]
theorem map_eq_valid_iff {function : α → β} :
    checked.map function = .valid result ↔
      ∃ value, checked = .valid value ∧ function value = result := by
  cases checked <;> simp [map]

@[simp]
theorem bind_eq_valid_iff {further : α → Checked β} :
    checked >>= further = .valid result ↔
      ∃ value, checked = .valid value ∧ further value = .valid result := by
  change bind checked further = _ ↔ _
  cases checked <;> simp [bind]

@[simp]
theorem within_eq_valid_iff {step : Step} :
    checked.within step = .valid value ↔ checked = .valid value := by
  cases checked <;> simp [within]

@[simp]
theorem apply_eq_valid_iff {function : Checked (α → β)} :
    function.apply checked = .valid result ↔
      ∃ applied value, function = .valid applied ∧ checked = .valid value ∧
        applied value = result := by
  cases function <;> cases checked <;> simp [apply]

theorem all_eq_valid_iff {checks : List (Checked α)} {values : List α} :
    all checks = .valid values ↔ checks = values.map .valid := by
  induction checks generalizing values with
  | nil => cases values <;> simp [all]
  | cons first rest ih =>
      simp only [all, apply_eq_valid_iff, map_eq_valid_iff, ih]
      constructor
      · rintro ⟨-, others, ⟨value, rfl, rfl⟩, rfl, rfl⟩
        rfl
      · intro same
        cases values with
        | nil => simp at same
        | cons value others =>
            obtain ⟨rfl, rfl⟩ := List.cons.inj same
            exact ⟨_, others, ⟨value, rfl, rfl⟩, rfl, rfl⟩

end Checked

variable {α : Type} {members : Members} {name other : String} {reader : Reader α} {absent value : α}

/-- A field that may be missing has its default or was read. -/
theorem of_optional (found : members.optional name reader absent = .valid value) :
    value = absent ∨ ∃ document, reader document = .valid value := by
  unfold Members.optional at found
  split at found
  next document _ => exact .inr ⟨document, Checked.within_eq_valid_iff.mp found⟩
  next => exact .inl (by simpa [eq_comm] using found)

theorem of_optionalAs (found : members.optionalAs name other reader absent = .valid value) :
    value = absent ∨ ∃ document, reader document = .valid value := by
  unfold Members.optionalAs at found
  split at found <;> exact of_optional found

/-- A value that may be null keeps to the bound that its reader keeps it to. -/
theorem of_nullable {given : Option α} {bound : α → Prop}
    (bounded : ∀ document value, reader document = .valid value → bound value)
    (found : given = none ∨ ∃ document, Reader.nullable reader document = .valid given) :
    ∀ value ∈ given, bound value := by
  rcases found with rfl | ⟨document, found⟩
  · simp
  · unfold Reader.nullable at found
    split at found
    · obtain rfl := Checked.valid.inj found
      simp
    · obtain ⟨present, read, rfl⟩ := Checked.map_eq_valid_iff.mp found
      rintro value ⟨⟩
      exact bounded _ _ read

theorem of_required (found : members.required name reader = .valid value) :
    ∃ document, Json.member? members name = some document ∧ reader document = .valid value := by
  unfold Members.required at found
  split at found
  next document given => exact ⟨document, given, Checked.within_eq_valid_iff.mp found⟩
  next => simp at found

theorem of_list {values : List α} {document : Json}
    (found : Reader.list reader document = .valid values) :
    ∃ elements, document = .array elements ∧
      List.Forall₂ (fun element value => reader element = .valid value) elements values := by
  unfold Reader.list at found
  split at found
  next elements =>
    rw [Checked.all_eq_valid_iff, ← List.forall₂_eq_eq_eq, List.forall₂_map_left_iff,
      List.forall₂_map_right_iff] at found
    refine ⟨elements, rfl, ?_⟩
    rw [← List.zipIdx_map_fst 0 elements, List.forall₂_map_left_iff]
    exact found.imp fun _ _ => Checked.within_eq_valid_iff.mp
  next => simp at found

theorem of_nonemptyText {document : Json} {text : String}
    (found : Reader.nonemptyText document = .valid text) : Reader.text document = .valid text := by
  obtain ⟨value, read, rest⟩ := Checked.bind_eq_valid_iff.mp found
  split at rest
  · simp at rest
  · exact (Checked.valid.inj rest) ▸ read

theorem pos_of_positive {number : Binary64} {numbers : Reader Binary64} {document : Json}
    (found : Reader.positive numbers document = .valid number) : 0 < number := by
  obtain ⟨value, -, rest⟩ := Checked.bind_eq_valid_iff.mp found
  split at rest
  next above => exact (Checked.valid.inj rest) ▸ above
  next => simp at rest

theorem nonneg_of_notNegative {number : Binary64} {numbers : Reader Binary64} {document : Json}
    (found : Reader.notNegative numbers document = .valid number) : 0 ≤ number := by
  obtain ⟨value, -, rest⟩ := Checked.bind_eq_valid_iff.mp found
  split at rest
  next notBelow => exact (Checked.valid.inj rest) ▸ notBelow
  next => simp at rest

end Wire

/-- A cut whose ends are in order, as far as they are numbers. -/
def Cut.InOrder : Cut → Prop
  | .between start finish => ¬ start < 0 ∧ ¬ finish ≤ start
  | .whole => False

namespace TimelineItem

/-- Whether the times and the volume of an item keep to the bounds of its wire form. -/
def InBounds : TimelineItem → Prop
  | .video clip => (∀ cut ∈ clip.cut, cut.InOrder) ∧ 0 ≤ clip.volume ∧ clip.volume ≤ fullVolume
  | .image clip => 0 < clip.duration
  | .audio clip => (∀ start ∈ clip.startTime, 0 ≤ start) ∧ (∀ cut ∈ clip.cut, cut.InOrder) ∧
      (∀ length ∈ clip.duration, 0 < length) ∧ 0 ≤ clip.volume ∧ clip.volume ≤ fullVolume
  | .text overlay => 0 ≤ overlay.startTime ∧ 0 ≤ overlay.duration

end TimelineItem

namespace Wire

namespace RenderRequest

theorem inOrder_of_cutReader {document : Json} {cut : Option Cut}
    (found : cutReader document = .valid cut) : ∀ given ∈ cut, given.InOrder := by
  obtain ⟨ends, -, rest⟩ := Checked.bind_eq_valid_iff.mp found
  split at rest
  · obtain rfl := Checked.valid.inj rest
    simp
  next start finish =>
    split at rest
    · simp at rest
    · split at rest
      · simp at rest
      next notBelow notBefore =>
        obtain rfl := Checked.valid.inj rest
        rintro given ⟨⟩
        exact ⟨notBelow, notBefore⟩
  · simp at rest

theorem bounds_of_volumeReader {document : Json} {volume : Binary64}
    (found : volumeReader document = .valid volume) : 0 ≤ volume ∧ volume ≤ fullVolume := by
  obtain ⟨value, -, rest⟩ := Checked.bind_eq_valid_iff.mp found
  split at rest
  · simp at rest
  next within =>
    split at rest
    · simp at rest
    next notBelow =>
      obtain rfl := Checked.valid.inj rest
      exact ⟨not_not.mp notBelow, not_not.mp within⟩

/-- A cut that is given, or the one that stands for none, has its ends in order. -/
theorem inOrder_of_optional {members : Members} {cut : Option Cut}
    (found : members.optional "cut" cutReader none = .valid cut) :
    ∀ given ∈ cut, given.InOrder := by
  rcases of_optional found with rfl | ⟨document, read⟩
  · simp
  · exact inOrder_of_cutReader read

theorem bounds_of_optional {members : Members} {volume : Binary64}
    (found : members.optional "volume" volumeReader fullVolume = .valid volume) :
    0 ≤ volume ∧ volume ≤ fullVolume := by
  rcases of_optional found with rfl | ⟨document, read⟩
  · decide +kernel
  · exact bounds_of_volumeReader read

variable {members : Members} {item : TimelineItem}

theorem inBounds_of_videoReader (found : videoReader members = .valid item) : item.InBounds := by
  simp only [videoReader, Checked.apply_eq_valid_iff, Checked.map_eq_valid_iff] at found
  obtain ⟨_, scaling, ⟨_, volume, ⟨_, cut, ⟨filename, -, rfl⟩, cutting, rfl⟩, loud, rfl⟩, -, rfl⟩ :=
    found
  exact ⟨inOrder_of_optional cutting, bounds_of_optional loud⟩

theorem inBounds_of_imageReader (found : imageReader members = .valid item) : item.InBounds := by
  simp only [imageReader, Checked.apply_eq_valid_iff, Checked.map_eq_valid_iff] at found
  obtain ⟨_, scaling, ⟨_, duration, ⟨filename, -, rfl⟩, lasting, rfl⟩, -, rfl⟩ := found
  change 0 < duration
  rcases of_optional lasting with rfl | ⟨document, read⟩
  · decide +kernel
  · exact pos_of_positive read

theorem inBounds_of_audioReader (found : audioReader members = .valid item) : item.InBounds := by
  simp only [audioReader, Checked.apply_eq_valid_iff, Checked.map_eq_valid_iff] at found
  obtain ⟨_, volume, ⟨_, duration, ⟨_, cut, ⟨_, start, ⟨filename, -, rfl⟩, starting, rfl⟩, cutting,
    rfl⟩, lasting, rfl⟩, loud, rfl⟩ := found
  exact ⟨of_nullable (fun _ _ => nonneg_of_notNegative) (of_optionalAs starting),
    inOrder_of_optional cutting, of_nullable (fun _ _ => pos_of_positive) (of_optional lasting),
    bounds_of_optional loud⟩

theorem inBounds_of_textReader (found : textReader members = .valid item) : item.InBounds := by
  simp only [textReader, Checked.apply_eq_valid_iff, Checked.map_eq_valid_iff] at found
  obtain ⟨_, duration, ⟨_, start, ⟨_, position, ⟨_, size, ⟨_, style, ⟨text, -, rfl⟩, -, rfl⟩, -,
    rfl⟩, -, rfl⟩, starting, rfl⟩, lasting, rfl⟩ := found
  constructor
  · rcases of_optionalAs starting with rfl | ⟨document, read⟩
    · change 0 ≤ Binary64.zero
      decide
    · exact nonneg_of_notNegative read
  · rcases of_optional lasting with rfl | ⟨document, read⟩
    · change 0 ≤ defaultTextDuration
      decide +kernel
    · exact nonneg_of_notNegative read

theorem exists_reader_of_entryReader {document : Json}
    (found : entryReader document = .valid item) :
    ∃ members name reader, document = .object members ∧
      Json.member? members "type" = some (.text name) ∧ (name, reader) ∈ entryReaders ∧
      reader members = .valid item := by
  unfold entryReader at found
  split at found
  next members =>
    split at found
    · simp at found
    next kind tagged =>
      split at found
      next name =>
        cases listed : List.lookup name entryReaders with
        | none => simp [listed] at found
        | some reader =>
            obtain ⟨before, after, split, -⟩ := List.lookup_eq_some_iff.mp listed
            have known : (name, reader) ∈ entryReaders := by simp [split]
            simp only [listed, Option.map_some, Option.getD_some,
              Checked.within_eq_valid_iff] at found
            exact ⟨members, name, reader, rfl, tagged, known, found⟩
      · simp at found
  · simp at found

theorem inBounds_of_entryReader {document : Json} (found : entryReader document = .valid item) :
    item.InBounds := by
  have kinds : ∀ entry ∈ entryReaders, ∀ members item, entry.2 members = .valid item →
      item.InBounds := by
    simp only [entryReaders, List.forall_mem_cons, List.not_mem_nil, false_imp_iff, implies_true,
      and_true]
    exact ⟨fun _ _ => inBounds_of_videoReader, fun _ _ => inBounds_of_imageReader,
      fun _ _ => inBounds_of_audioReader, fun _ _ => inBounds_of_textReader⟩
  obtain ⟨members, name, reader, -, -, known, read⟩ := exists_reader_of_entryReader found
  exact kinds (name, reader) known members item read

theorem fieldsReader_eq_valid_iff {members : Members} {request : RenderRequest} :
    fieldsReader members = .valid request ↔
      members.optional "resolution" Reader.text "1280x720" = .valid request.resolution ∧
      members.optional "quality" qualityReader "23" = .valid request.quality ∧
      members.optional "extension" extensionReader "mp4" = .valid request.extension ∧
      members.optional "scaling" scalingReader .cover = .valid request.scaling ∧
      members.optional "timeline" (Reader.list entryReader) [] = .valid request.timeline ∧
      members.optional "subtitles" (Reader.nullable Reader.text) none =
        .valid request.subtitles := by
  simp only [fieldsReader, Checked.apply_eq_valid_iff, Checked.map_eq_valid_iff]
  constructor
  · rintro ⟨_, subtitles, ⟨_, timeline, ⟨_, scaling, ⟨_, extension, ⟨_, quality,
      ⟨resolution, first, rfl⟩, second, rfl⟩, third, rfl⟩, fourth, rfl⟩, fifth, rfl⟩, sixth, rfl⟩
    exact ⟨first, second, third, fourth, fifth, sixth⟩
  · rintro ⟨first, second, third, fourth, fifth, sixth⟩
    exact ⟨_, _, ⟨_, _, ⟨_, _, ⟨_, _, ⟨_, _, ⟨_, first, rfl⟩, second, rfl⟩, third, rfl⟩,
      fourth, rfl⟩, fifth, rfl⟩, sixth, rfl⟩

theorem exists_fields_of_specOf {document : Json} {spec : RenderSpec}
    (read : specOf document = .ok spec) :
    ∃ members request, document = .object members ∧ fieldsReader members = .valid request ∧
      request.timeline ≠ [] ∧ spec.timeline = request.timeline ∧
      spec.extension = request.extension ∧ spec.quality = request.quality := by
  unfold specOf at read
  split at read
  · simp at read
  next request accepted =>
    rw [mapError_eq_ok_iff, toSpec, bind_eq_ok_iff] at read
    obtain ⟨⟨width, height⟩, -, same⟩ := read
    obtain rfl := Except.ok.inj same
    unfold RenderRequest.read at accepted
    split at accepted
    next members =>
      obtain ⟨fields, taken, rest⟩ := Checked.bind_eq_valid_iff.mp accepted
      split at rest
      · simp at rest
      next filled =>
        obtain rfl := Checked.valid.inj rest
        exact ⟨members, fields, rfl, taken, fun empty => filled (by simp [empty]), rfl, rfl,
          rfl⟩
    · simp at accepted

/-- The items of a composition are the entries of the timeline in its document. -/
theorem timeline_of_specOf {document : Json} {spec : RenderSpec}
    (read : specOf document = .ok spec) :
    ∃ members entries, document = .object members ∧
      Json.member? members "timeline" = some (.array entries) ∧
      List.Forall₂ (fun entry item => entryReader entry = .valid item) entries spec.timeline := by
  obtain ⟨members, request, rfl, taken, filled, items, -⟩ := exists_fields_of_specOf read
  obtain ⟨-, -, -, -, listed, -⟩ := fieldsReader_eq_valid_iff.mp taken
  rw [items]
  unfold Members.optional at listed
  split at listed
  next document given =>
    obtain ⟨entries, rfl, each⟩ := of_list (Checked.within_eq_valid_iff.mp listed)
    exact ⟨members, entries, rfl, given, each⟩
  next => exact absurd (Checked.valid.inj listed).symm filled

theorem inBounds_of_specOf {document : Json} {spec : RenderSpec}
    (read : specOf document = .ok spec) : ∀ item ∈ spec.timeline, item.InBounds := by
  obtain ⟨members, entries, -, -, each⟩ := timeline_of_specOf read
  generalize spec.timeline = items at each
  induction each with
  | nil => simp
  | cons head _ ih => exact List.forall_mem_cons.mpr ⟨inBounds_of_entryReader head, ih⟩

/-- Texts of one to eight small letters and digits. -/
structure IsExtension (extension : String) : Prop where
  letters : ∀ character ∈ extension.toList, isExtensionCharacter character = true
  filled : extension ≠ ""
  short : extension.toList.length ≤ 8

theorem isExtension_of_extensionReader {document : Json} {extension : String}
    (found : extensionReader document = .valid extension) : IsExtension extension := by
  obtain ⟨written, -, rest⟩ := Checked.bind_eq_valid_iff.mp found
  dsimp only at rest
  split at rest
  next letters =>
    obtain rfl := Checked.valid.inj rest
    simp only [Bool.and_eq_true, List.all_eq_true, decide_eq_true_eq] at letters
    obtain ⟨⟨letters, filled⟩, short⟩ := letters
    refine ⟨by rwa [String.toList_ofList], fun empty => ?_, by rwa [String.toList_ofList]⟩
    have nothing : (Text.lowercase written).toList.dropWhile (· == '.') = [] := by
      simpa using congrArg String.toList empty
    simp [nothing] at filled
  next => simp at rest

theorem isExtension_of_specOf {document : Json} {spec : RenderSpec}
    (read : specOf document = .ok spec) : IsExtension spec.extension := by
  obtain ⟨members, request, -, taken, -, -, same, -⟩ := exists_fields_of_specOf read
  obtain ⟨-, -, given, -⟩ := fieldsReader_eq_valid_iff.mp taken
  rw [← same] at given
  rcases of_optional given with default | ⟨document, found⟩
  · have letters : "mp4".toList.all isExtensionCharacter = true := by decide
    rw [default]
    exact ⟨List.all_eq_true.mp letters, by decide, by decide⟩
  · exact isExtension_of_extensionReader found

/-- Texts of one or two decimal digits of any script, of a value within range. -/
structure IsQuality (quality : String) : Prop where
  digits : ∀ character ∈ quality.toList, Text.isDecimalDigit character = true
  filled : quality ≠ ""
  short : quality.toList.length ≤ 2
  value : ∃ value, Numeral.int? quality.toList = some value ∧ value ≤ greatestQuality

theorem of_qualityReader {document : Json} {quality : String}
    (found : qualityReader document = .valid quality) :
    quality = Text.trim document.display ∧ IsQuality quality := by
  unfold qualityReader at found
  dsimp only at found
  split at found
  next value numeral reads =>
    split at found
    next atMost =>
      obtain rfl := Checked.valid.inj found
      simp only [Bool.and_eq_true, List.all_eq_true, decide_eq_true_eq] at numeral
      obtain ⟨⟨digits, filled⟩, short⟩ := numeral
      refine ⟨rfl, digits, fun empty => ?_, short, value, reads, atMost⟩
      simp [empty] at filled
    next => simp at found
  next => simp at found

/-- The quality of a composition is the one in its document, as it is written there. -/
theorem isQuality_of_specOf {document : Json} {spec : RenderSpec}
    (read : specOf document = .ok spec) :
    IsQuality spec.quality ∧
      spec.quality = ((document.get? "quality").map fun given => Text.trim given.display).getD
        "23" := by
  obtain ⟨members, request, rfl, taken, -, -, -, same⟩ := exists_fields_of_specOf read
  obtain ⟨-, given, -⟩ := fieldsReader_eq_valid_iff.mp taken
  rw [← same] at given
  unfold Members.optional at given
  rw [Json.get?]
  split at given
  next document known =>
    obtain ⟨written, proper⟩ := of_qualityReader (Checked.within_eq_valid_iff.mp given)
    rw [known]
    exact ⟨proper, written⟩
  next missing =>
    rw [missing, ← Checked.valid.inj given]
    have digits : "23".toList.all Text.isDecimalDigit = true := by decide
    exact ⟨⟨List.all_eq_true.mp digits, by decide, by decide, 23, by decide, by decide⟩, rfl⟩

end RenderRequest

end Wire

end Montage
