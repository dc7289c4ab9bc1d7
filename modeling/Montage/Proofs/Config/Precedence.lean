import Montage.Proofs.Association
import Montage.Proofs.Config.Settings
import Mathlib.Data.List.Nodup
import Mathlib.Data.List.Perm.Basic

/-!
# Layers of a configuration

Defaults lie under the values of a document, these under the values of the environment, and these
under overrides by key.  A layer that gives a setting no value leaves it as it is below, and the
order in which overrides are listed makes no difference.
-/

namespace Montage.Config

open Wire
open scoped List

def Setting.key (setting : Setting) : String :=
  setting.group ++ "." ++ setting.field

/-- The value that overrides give for a key.  Null is none. -/
def overriding? (overrides : List (String × Json)) (key : String) : Option Json :=
  match overrides.lookup key with
  | some .null => none
  | given => given

/-- Overrides of settings, each at most once. -/
structure Overriding (overrides : List (String × Json)) : Prop where
  known : ∀ entry ∈ overrides, ∃ setting ∈ settings, entry.1 = setting.key
  once : (overrides.map Prod.fst).Nodup

abbrev Sections := List (String × Members)

namespace Sections

def document (sections : Sections) : Members :=
  sections.map fun entry => (entry.1, .object entry.2)

def replace (fields : Members) (field : String) (value : Json) : Members :=
  fields.map fun member => (member.1, if member.1 = field then value else member.2)

def change (sections : Sections) (group field : String) (value : Json) : Sections :=
  sections.map fun entry =>
    (entry.1, if entry.1 = group then replace entry.2 field value else entry.2)

def apply (sections : Sections) (entry : String × Json) : Sections :=
  match entry.2, Text.split '.' entry.1 with
  | .null, _ => sections
  | value, [group, field] => sections.change group field value
  | _, _ => sections

/-- Sections that have all settings, and no section twice. -/
structure Tabular (sections : Sections) : Prop where
  once : (sections.map Prod.fst).Nodup
  has : ∀ setting ∈ settings, ∃ own, setting.of? sections.document = some own

end Sections

def sections (config : Config) : Sections :=
  config.toMembers.map fun member => (member.1, fieldsOf config.toMembers member.1)

variable {sections : Sections} {setting other : Setting} {group field group' field' : String}
  {value value' : Json} {config merged : Config} {overrides : List (String × Json)}

section Keys

theorem overriding?_null {key : String} : overriding? ((key, .null) :: overrides) key = none := by
  simp [overriding?]

theorem overriding?_self {key : String} (given : value ≠ .null) :
    overriding? ((key, value) :: overrides) key = some value := by
  cases value <;> simp_all [overriding?]

theorem overriding?_of_ne {key key' : String} (apart : key ≠ key') :
    overriding? ((key', value) :: overrides) key = overriding? overrides key := by
  have other : (key == key') = false := beq_eq_false_iff_ne.mpr apart
  simp [overriding?, List.lookup_cons, other]

theorem overriding?_eq_none {key : String} (unlisted : key ∉ overrides.map Prod.fst) :
    overriding? overrides key = none := by
  have unknown : overrides.lookup key = none := by
    by_contra listed
    exact unlisted (lookup_ne_none_iff.mp listed)
  simp [overriding?, unknown]

theorem overriding?_of_mem {key : String} (overriding : Overriding overrides)
    (member : (key, value) ∈ overrides) (given : value ≠ .null) :
    overriding? overrides key = some value := by
  unfold overriding?
  rw [(lookup_eq_some_iff_mem overriding.once).mpr member]
  cases value <;> first | rfl | exact absurd rfl given

theorem split_key : ∀ setting ∈ settings,
    Text.split '.' setting.key = [setting.group, setting.field] := by
  decide +kernel

theorem key_eq_iff (member : setting ∈ settings) (member' : other ∈ settings) :
    setting.key = other.key ↔ setting.group = other.group ∧ setting.field = other.field := by
  constructor
  · intro same
    have parts := congrArg (Text.split '.') same
    rw [split_key setting member, split_key other member'] at parts
    simpa using parts
  · rintro ⟨group, field⟩
    rw [Setting.key, group, field, ← Setting.key]

end Keys

namespace Sections

theorem of?_document (sections : Sections) (setting : Setting) :
    setting.of? sections.document =
      (sections.lookup setting.group).bind (·.lookup setting.field) := by
  have found : Json.member? sections.document setting.group =
      (sections.lookup setting.group).map Json.object :=
    lookup_map_value (fun _ fields => Json.object fields) sections setting.group
  rw [Setting.of?, fieldsOf, found]
  cases sections.lookup setting.group <;> rfl

theorem of?_change (sections : Sections) (setting : Setting) (group field : String)
    (value : Json) :
    setting.of? (sections.change group field value).document =
      (setting.of? sections.document).map fun own =>
        if setting.group = group ∧ setting.field = field then value else own := by
  have found : (sections.change group field value).lookup setting.group =
      (sections.lookup setting.group).map fun fields =>
        if setting.group = group then replace fields field value else fields :=
    lookup_map_value
      (fun name fields => if name = group then replace fields field value else fields)
      sections setting.group
  have inside : ∀ fields : Members, (replace fields field value).lookup setting.field =
      (fields.lookup setting.field).map fun own => if setting.field = field then value else own :=
    fun fields => lookup_map_value (fun name own => if name = field then value else own) fields _
  rw [of?_document, of?_document, found]
  cases sections.lookup setting.group with
  | none => rfl
  | some fields =>
      by_cases here : setting.group = group
      · simp [here, inside]
      · simp [here]

theorem map_fst_change (sections : Sections) (group field : String) (value : Json) :
    (sections.change group field value).map Prod.fst = sections.map Prod.fst := by
  rw [change, List.map_map]
  rfl

theorem Tabular.change (tabular : sections.Tabular) (group field : String) (value : Json) :
    (sections.change group field value).Tabular where
  once := by
    rw [map_fst_change]
    exact tabular.once
  has := by
    intro setting member
    obtain ⟨own, known⟩ := tabular.has setting member
    rw [of?_change, known]
    exact ⟨_, rfl⟩

theorem replace_comm (apart : field ≠ field') (fields : Members) :
    replace (replace fields field value) field' value' =
      replace (replace fields field' value') field value := by
  simp only [replace, List.map_map]
  refine List.map_congr_left fun member _ => Prod.ext rfl ?_
  simp only [Function.comp_apply]
  by_cases here : member.1 = field
  · simp [here, apart]
  · simp [here]

/-- Changes at different places can be made in either order. -/
theorem change_comm (apart : ¬ (group = group' ∧ field = field')) :
    (sections.change group field value).change group' field' value' =
      (sections.change group' field' value').change group field value := by
  simp only [change, List.map_map]
  refine List.map_congr_left fun entry _ => Prod.ext rfl ?_
  simp only [Function.comp_apply]
  by_cases here : entry.1 = group
  · by_cases there : entry.1 = group'
    · have fields : field ≠ field' := fun same => apart ⟨here.symm.trans there, same⟩
      simp only [if_pos here, if_pos there, replace_comm fields]
    · simp only [if_pos here, if_neg there]
  · simp only [if_neg here]

theorem setMember_eq_replace {members : Members} {name : String} {own : Json}
    (found : Json.member? members name = some own) :
    Json.setMember members name value = replace members name value := by
  have present : members.any (·.1 == name) = true :=
    List.any_eq_true.mpr ⟨_, mem_of_lookup_eq_some found, beq_self_eq_true _⟩
  rw [Json.setMember, if_pos present, replace]
  refine List.map_congr_left fun member _ => ?_
  split
  next here => rw [here]
  next => rfl

theorem assign_document (tabular : sections.Tabular) (member : setting ∈ settings) (value : Json) :
    assign (.object sections.document) [setting.group, setting.field] value =
      .ok (.object (sections.change setting.group setting.field value).document) := by
  obtain ⟨own, known⟩ := tabular.has setting member
  rw [of?_document] at known
  obtain ⟨fields, there, inside⟩ := Option.bind_eq_some_iff.mp known
  have inner : Json.member? sections.document setting.group = some (.object fields) := by
    have found := lookup_map_value (fun _ fields => Json.object fields) sections setting.group
    rw [there] at found
    exact found
  -- No section stands twice, so that the one with the field is the one that is replaced.
  have changed : Json.setMember sections.document setting.group
      (.object (replace fields setting.field value)) =
        (sections.change setting.group setting.field value).document := by
    rw [setMember_eq_replace inner, document, replace, change, document, List.map_map, List.map_map]
    refine List.map_congr_left fun entry listed => Prod.ext rfl ?_
    simp only [Function.comp_apply]
    split
    next here =>
      have same := (lookup_eq_some_iff_mem tabular.once).mpr listed
      rw [here, there] at same
      rw [Option.some.inj same]
    next => rfl
  rw [assign, inner]
  · simp only [Option.getD_some, assign, setMember_eq_replace inside, bind, Except.bind, changed]
  · simp

theorem apply_null (sections : Sections) (key : String) : sections.apply (key, .null) = sections :=
  rfl

theorem apply_key (sections : Sections) (member : setting ∈ settings) (given : value ≠ .null) :
    sections.apply (setting.key, value) = sections.change setting.group setting.field value := by
  unfold apply
  rw [split_key setting member]
  cases value <;> first | rfl | exact absurd rfl given

theorem Tabular.apply (tabular : sections.Tabular) (member : setting ∈ settings) (value : Json) :
    (sections.apply (setting.key, value)).Tabular := by
  by_cases given : value = .null
  · rw [given]
    exact tabular
  · rw [apply_key sections member given]
    exact tabular.change _ _ _

theorem override_cons {document : Json} {key : String} (given : value ≠ .null) :
    override document ((key, value) :: overrides) =
      assign document (Text.split '.' key) value >>= (override · overrides) := by
  cases value <;> first | rfl | exact absurd rfl given

theorem override_document (tabular : sections.Tabular)
    (known : ∀ entry ∈ overrides, ∃ setting ∈ settings, entry.1 = setting.key) :
    override (.object sections.document) overrides =
      .ok (.object (overrides.foldl apply sections).document) := by
  induction overrides generalizing sections with
  | nil => rfl
  | cons entry overrides ih =>
      obtain ⟨⟨setting, member, here⟩, others⟩ := List.forall_mem_cons.mp known
      obtain ⟨key, value⟩ := entry
      obtain rfl : key = setting.key := here
      have rest := ih (tabular.apply member value) others
      rw [List.foldl_cons, ← rest]
      by_cases given : value = .null
      · subst given
        rfl
      · rw [override_cons given, split_key setting member, assign_document tabular member value,
          apply_key sections member given]
        rfl

/-- After overrides a setting has the value that is given for it, or else the one that it had. -/
theorem of?_foldl_apply (tabular : sections.Tabular) (overriding : Overriding overrides)
    (member : setting ∈ settings) :
    setting.of? (overrides.foldl apply sections).document =
      (overriding? overrides setting.key).or (setting.of? sections.document) := by
  induction overrides generalizing sections with
  | nil => rfl
  | cons entry overrides ih =>
      obtain ⟨⟨other, member', here⟩, others⟩ := List.forall_mem_cons.mp overriding.known
      obtain ⟨key, value⟩ := entry
      obtain rfl : key = other.key := here
      obtain ⟨new, once⟩ := List.nodup_cons.mp overriding.once
      obtain ⟨own, known⟩ := tabular.has setting member
      rw [List.foldl_cons, ih (tabular.apply member' value) ⟨others, once⟩]
      by_cases same : setting.key = other.key
      · rw [same, overriding?_eq_none new, Option.none_or]
        by_cases given : value = .null
        · rw [given, overriding?_null, apply_null, Option.none_or]
        · rw [overriding?_self given, apply_key sections member' given, of?_change, known,
            Option.map_some, if_pos ((key_eq_iff member member').mp same)]
          rfl
      · rw [overriding?_of_ne same]
        by_cases given : value = .null
        · rw [given, apply_null]
        · rw [apply_key sections member' given, of?_change, known, Option.map_some,
            if_neg (mt (key_eq_iff member member').mpr same)]

/-- The order of overrides makes no difference. -/
theorem foldl_apply_perm (overriding : Overriding overrides) {overrides' : List (String × Json)}
    (reordered : overrides ~ overrides') (sections : Sections) :
    overrides.foldl apply sections = overrides'.foldl apply sections := by
  refine reordered.foldl_eq' (fun entry listed entry' listed' sections => ?_) sections
  obtain ⟨setting, member, here⟩ := overriding.known entry listed
  obtain ⟨other, member', here'⟩ := overriding.known entry' listed'
  by_cases same : entry.1 = entry'.1
  · obtain rfl := List.inj_on_of_nodup_map overriding.once listed listed' same
    rfl
  · have apart : ¬ (setting.group = other.group ∧ setting.field = other.field) := fun equal =>
      same (here.trans (((key_eq_iff member member').mpr equal).trans here'.symm))
    obtain ⟨key, value⟩ := entry
    obtain ⟨key', value'⟩ := entry'
    obtain rfl : key = setting.key := here
    obtain rfl : key' = other.key := here'
    by_cases given : value = .null
    · rw [given, apply_null, apply_null]
    · by_cases given' : value' = .null
      · rw [given', apply_null, apply_null]
      · rw [apply_key _ member given, apply_key _ member' given', apply_key _ member' given',
          apply_key _ member given, change_comm apart]

end Sections

section Merging

theorem tabular_sections (config : Config) : config.sections.Tabular where
  once := by
    simp [Config.sections, toMembers]
  has := fun setting member => exists_value config member

theorem shaped_document {sections : Sections} : Shaped sections.document := by
  intro group _ document found
  obtain ⟨entry, -, same⟩ := List.mem_map.mp (mem_of_lookup_eq_some found)
  exact ⟨entry.2, (congrArg Prod.snd same).symm⟩

theorem merge_eq (overriding : Overriding overrides) (config : Config) :
    config.merge overrides =
      ofMembers (overrides.foldl Sections.apply config.sections).document := by
  have overridden : override (.object config.toMembers) overrides = _ :=
    Sections.override_document (tabular_sections config) overriding.known
  rw [merge, overridden]

theorem ofMembers_eq_ok_iff {members : Members} :
    ofMembers members = .ok config ↔ read members = .valid config := by
  unfold ofMembers
  split <;> simp_all

theorem of?_overridden (overriding : Overriding overrides) (config : Config)
    (member : setting ∈ settings) :
    setting.of? (overrides.foldl Sections.apply config.sections).document =
      (overriding? overrides setting.key).or (setting.value config) :=
  Sections.of?_foldl_apply (tabular_sections config) overriding member

theorem layered_of_merge (valid : config.Valid) (overriding : Overriding overrides)
    (merges : config.merge overrides = .ok merged) :
    merged.Valid ∧
      Layered (fun setting => overriding? overrides setting.key) (·.value config)
        (·.value merged) := by
  rw [merge_eq overriding, ofMembers_eq_ok_iff] at merges
  refine ⟨valid_of_read merges, fun setting member => ?_⟩
  have taken := (read_eq_valid_iff.mp merges).2 setting member
  obtain ⟨own, known, settled⟩ := valid.exists_value member
  dsimp only at taken ⊢
  rw [taken, of?_overridden overriding config member, known]
  cases overriding? overrides setting.key with
  | none => exact settled
  | some value => rfl

/-- Overrides are taken if each of them can be read on its own, and otherwise rejected. -/
theorem exists_merge_iff (valid : config.Valid) (overriding : Overriding overrides) :
    (∃ merged, config.merge overrides = .ok merged) ↔
      ∀ setting ∈ settings, ∀ value, overriding? overrides setting.key = some value →
        (setting.kind.coerce value).isSome = true := by
  simp only [merge_eq overriding, ofMembers_eq_ok_iff, exists_read_iff]
  refine (and_iff_right shaped_document).trans ?_
  refine forall₂_congr fun setting member => ?_
  obtain ⟨own, known, settled⟩ := valid.exists_value member
  rw [of?_overridden overriding config member, known]
  cases overriding? overrides setting.key with
  | none => simp [settled]
  | some value => simp

theorem merge_ok_or_invalid (overriding : Overriding overrides) (config : Config) :
    (∃ merged, config.merge overrides = .ok merged) ∨
      ∃ issues, config.merge overrides = .error (.invalid issues) := by
  rw [merge_eq overriding, ofMembers]
  split
  next merged _ => exact .inl ⟨merged, rfl⟩
  next issues _ => exact .inr ⟨issues, rfl⟩

theorem merge_perm (overriding : Overriding overrides) {overrides' : List (String × Json)}
    (reordered : overrides ~ overrides') (config : Config) :
    config.merge overrides' = config.merge overrides := by
  have overriding' : Overriding overrides' :=
    ⟨fun entry member => overriding.known entry (reordered.mem_iff.mpr member),
      (reordered.map _).nodup_iff.mp overriding.once⟩
  rw [merge_eq overriding, merge_eq overriding',
    Sections.foldl_apply_perm overriding reordered config.sections]

theorem merge_nil (valid : config.Valid) : config.merge [] = .ok config := by
  rw [merge_eq ⟨by simp, by simp⟩, ofMembers_eq_ok_iff, read_eq_valid_iff]
  refine ⟨shaped_document, fun setting member => ?_⟩
  obtain ⟨own, known, settled⟩ := valid.exists_value member
  have document : setting.of? config.sections.document = setting.value config := rfl
  dsimp only [List.foldl_nil]
  rw [document, known]
  exact settled.symm

end Merging

section Environment

variable {environment : Environment} {listed : List (String × String × Cast)}

def textOf? (environment : Environment) (entry : String × String × Cast) :
    Option (String × Cast × String) :=
  match environment.lookup entry.1 with
  | some text => if text.isEmpty then none else some (entry.2.1, entry.2.2, text)
  | none => none

def castText (entry : String × Cast × String) : Except Fault (String × Json) := do
  let value ← entry.2.1.value entry.2.2
  .ok (entry.1, value)

theorem environmentOverrides_eq (environment : Environment) :
    environmentOverrides environment =
      (environmentVariables.filterMap (textOf? environment)).mapM castText :=
  rfl

/-- Overrides by those variables of a list that are set. -/
structure Given (environment : Environment) (listed : List (String × String × Cast))
    (overrides : List (String × Json)) : Prop where
  keys : overrides.map Prod.fst <+ listed.map (·.2.1)
  casts : ∀ name key cast text, (name, key, cast) ∈ listed →
    environment.lookup name = some text → text ≠ "" →
      ∃ value, cast.value text = .ok value ∧ (key, value) ∈ overrides
  origin : ∀ key ∈ overrides.map Prod.fst, ∃ name cast text, (name, key, cast) ∈ listed ∧
    environment.lookup name = some text ∧ text ≠ ""

theorem textOf?_eq_none (unset : ∀ text, environment.lookup name = some text → text = "")
    (key : String) (cast : Cast) : textOf? environment (name, key, cast) = none := by
  unfold textOf?
  cases found : environment.lookup name with
  | none => rfl
  | some text => simp [unset text found]

theorem textOf?_eq_some {text : String} (found : environment.lookup name = some text)
    (filled : text ≠ "") (key : String) (cast : Cast) :
    textOf? environment (name, key, cast) = some (key, cast, text) := by
  simp [textOf?, found, filled]

theorem Given.skip (given : Given environment listed overrides)
    (unset : ∀ text, environment.lookup name = some text → text = "") (key : String)
    (cast : Cast) : Given environment ((name, key, cast) :: listed) overrides := by
  refine ⟨given.keys.cons key, ?_, ?_⟩
  · rintro name' key' cast' text member known filled
    rcases List.mem_cons.mp member with here | later
    · cases here
      exact absurd (unset text known) filled
    · exact given.casts _ _ _ _ later known filled
  · intro key' member
    obtain ⟨name', cast', text, later, rest⟩ := given.origin key' member
    exact ⟨name', cast', text, List.mem_cons_of_mem _ later, rest⟩

theorem Given.cons {text : String} {key : String} {cast : Cast} {value : Json}
    (given : Given environment listed overrides) (known : environment.lookup name = some text)
    (filled : text ≠ "") (read : cast.value text = .ok value) :
    Given environment ((name, key, cast) :: listed) ((key, value) :: overrides) := by
  refine ⟨given.keys.cons_cons key, ?_, ?_⟩
  · rintro name' key' cast' text' member known' filled'
    rcases List.mem_cons.mp member with here | later
    · cases here
      obtain rfl := Option.some.inj (known.symm.trans known')
      exact ⟨value, read, List.mem_cons_self⟩
    · obtain ⟨value', read', listed'⟩ := given.casts _ _ _ _ later known' filled'
      exact ⟨value', read', List.mem_cons_of_mem _ listed'⟩
  · intro key' member
    rcases List.mem_cons.mp member with rfl | later
    · exact ⟨name, cast, text, List.mem_cons_self, known, filled⟩
    · obtain ⟨name', cast', text', listed', rest⟩ := given.origin key' later
      exact ⟨name', cast', text', List.mem_cons_of_mem _ listed', rest⟩

theorem given_of_mapM
    (found : (listed.filterMap (textOf? environment)).mapM castText = .ok overrides) :
    Given environment listed overrides := by
  induction listed generalizing overrides with
  | nil =>
      obtain rfl : [] = overrides := by simpa [pure, Except.pure] using found
      exact ⟨by simp, by simp, by simp⟩
  | cons entry listed ih =>
      obtain ⟨name, key, cast⟩ := entry
      by_cases set : ∃ text, environment.lookup name = some text ∧ text ≠ ""
      · obtain ⟨text, known, filled⟩ := set
        rw [List.filterMap_cons_some (textOf?_eq_some known filled key cast), List.mapM_cons,
          bind_eq_ok_iff] at found
        obtain ⟨first, casted, behind⟩ := found
        obtain ⟨value, read, same⟩ := bind_eq_ok_iff.mp casted
        obtain rfl := Except.ok.inj same
        obtain ⟨others, rest, same⟩ := bind_eq_ok_iff.mp behind
        obtain rfl := Except.ok.inj same
        exact (ih rest).cons known filled read
      · have unset : ∀ text, environment.lookup name = some text → text = "" := fun text known =>
          by_contra fun filled => set ⟨text, known, filled⟩
        rw [List.filterMap_cons_none (textOf?_eq_none unset key cast)] at found
        exact (ih found).skip unset key cast

/-- Whether what a variable stands for is taken for a setting as it is. -/
def Cast.suits : Cast → Kind → Bool
  | .whole, .whole | .whole, .count | .number, .number | .text, .text => true
  | _, _ => false

theorem shape_of_value {cast : Cast} {text : String} (casted : cast.value text = .ok value) :
    match cast with
    | .text => value = .text text
    | .whole => ∃ number, value = .integer number
    | .number => ∃ number, value = .number number := by
  cases cast with
  | text => exact (Except.ok.inj casted).symm
  | whole =>
      simp only [Cast.value] at casted
      split at casted
      next number _ => exact ⟨number, (Except.ok.inj casted).symm⟩
      all_goals cases casted
  | number =>
      simp only [Cast.value] at casted
      split at casted
      next number _ => exact ⟨number, (Except.ok.inj casted).symm⟩
      next => cases casted

theorem ne_null_of_value {cast : Cast} {text : String} (casted : cast.value text = .ok value) :
    value ≠ .null := by
  rintro rfl
  cases cast <;> simpa using shape_of_value casted

/-- What a variable stands for is taken as it is, or not at all. -/
theorem coerce_value {cast : Cast} {kind : Kind} {text : String} {own : Json}
    (suits : cast.suits kind = true) (casted : cast.value text = .ok value)
    (taken : kind.coerce value = some own) : own = value := by
  have shape := shape_of_value casted
  cases cast <;> cases kind <;> cases suits
  case whole.whole =>
    obtain ⟨number, rfl⟩ := shape
    exact (Option.some.inj taken).symm
  case whole.count =>
    obtain ⟨number, rfl⟩ := shape
    obtain ⟨counted, read, rfl⟩ := reading_eq_some_iff.mp taken
    obtain ⟨other, whole, rest⟩ := Checked.bind_eq_valid_iff.mp read
    obtain rfl := Checked.valid.inj whole
    dsimp only at rest
    split at rest
    next => rw [Checked.valid.inj rest]
    next => simp at rest
  case number.number =>
    obtain ⟨number, rfl⟩ := shape
    exact (Option.some.inj taken).symm
  case text.text =>
    obtain rfl : value = .text text := shape
    exact (Option.some.inj taken).symm

theorem known_of_mem : ∀ entry ∈ environmentVariables, ∃ setting ∈ settings,
    entry.2.1 = setting.key := by
  decide +kernel

theorem suits_of_mem : ∀ entry ∈ environmentVariables, ∀ setting ∈ settings,
    entry.2.1 = setting.key → entry.2.2.suits setting.kind = true := by
  decide +kernel

theorem overriding_of_given (given : Given environment environmentVariables overrides) :
    Overriding overrides where
  known := by
    intro entry member
    obtain ⟨name, cast, text, listed, -⟩ := given.origin _ (List.mem_map_of_mem member)
    exact known_of_mem _ listed
  once := by
    refine List.Nodup.sublist given.keys ?_
    decide +kernel

theorem merge_of_withEnvironment (valid : config.Valid)
    (merges : config.withEnvironment environment = .ok merged) :
    ∃ overrides, Given environment environmentVariables overrides ∧
      config.merge overrides = .ok merged := by
  unfold withEnvironment at merges
  split at merges
  next => cases merges
  next none =>
    rw [environmentOverrides_eq] at none
    obtain rfl := Except.ok.inj merges
    exact ⟨[], given_of_mapM none, merge_nil valid⟩
  next overrides _ some =>
    rw [environmentOverrides_eq] at some
    exact ⟨overrides, given_of_mapM some, merges⟩

/-- A configuration from a document, with the variables that are set above it. -/
structure FromEnvironment (environment : Environment) (members : Members) (config : Config) :
    Prop where
  valid : config.Valid
  set : ∀ setting ∈ settings, ∀ name cast text, (name, setting.key, cast) ∈ environmentVariables →
    environment.lookup name = some text → text ≠ "" →
      ∃ value, cast.value text = .ok value ∧ setting.value config = some value
  unset : ∀ setting ∈ settings, (∀ name cast text,
    (name, setting.key, cast) ∈ environmentVariables → environment.lookup name = some text →
      text = "") →
    setting.value config = (setting.of? members).elim (setting.value {}) setting.kind.coerce

theorem fromEnvironment_of_withEnvironment {members : Members} (read : read members = .valid config)
    (merges : config.withEnvironment environment = .ok merged) :
    FromEnvironment environment members merged := by
  have valid := valid_of_read read
  obtain ⟨overrides, given, merges⟩ := merge_of_withEnvironment valid merges
  have overriding := overriding_of_given given
  obtain ⟨bounded, layered⟩ := layered_of_merge valid overriding merges
  refine ⟨bounded, ?_, ?_⟩
  · intro setting member name cast text listed known filled
    obtain ⟨value, casted, entry⟩ := given.casts name setting.key cast text listed known filled
    have found : overriding? overrides setting.key = some value :=
      overriding?_of_mem overriding entry (ne_null_of_value casted)
    have taken := layered setting member
    obtain ⟨own, here⟩ := exists_value merged member
    dsimp only at taken
    rw [found, here, Option.elim_some] at taken
    have suits := suits_of_mem _ listed setting member rfl
    exact ⟨value, casted, coerce_value suits casted taken.symm ▸ here⟩
  · intro setting member unset
    have unlisted : setting.key ∉ overrides.map Prod.fst := by
      intro overridden
      obtain ⟨name, cast, text, listed, known, filled⟩ := given.origin _ overridden
      exact filled (unset name cast text listed known)
    have taken := layered setting member
    dsimp only at taken
    rw [overriding?_eq_none unlisted, Option.elim_none] at taken
    rw [taken]
    exact (read_eq_valid_iff.mp read).2 setting member

end Environment

section Loading

/-- The members of the document that is loaded; none if there is no document. -/
def loadedMembers (tree : FileTree) (directory : Path) (environment : Environment)
    (requested : Option String) : Except ConfigError Members :=
  match documentPath? tree directory environment requested with
  | none => .ok []
  | some path =>
      match tree.content? path with
      | some text => (Yaml.readMembers text).mapError .fault
      | none =>
          if tree.isDirectory path then .error (.fault .directory)
          else if tree.refuses path then .error (.fault .system)
          else .ok []

theorem load_eq (tree : FileTree) (directory : Path) (environment : Environment)
    (requested : Option String) :
    load tree directory environment requested = (do
      let members ← loadedMembers tree directory environment requested
      let config ← ofMembers members
      config.withEnvironment environment) := by
  unfold load loadedMembers
  cases documentPath? tree directory environment requested with
  | none => rfl
  | some path =>
      dsimp only
      cases tree.content? path with
      | some text => simp only [ofText, bind_assoc]
      | none =>
          dsimp only
          split
          · rfl
          · split <;> rfl

end Loading

/-- How overrides are merged into a configuration: they are taken if each of them can be read on its
own, and otherwise rejected, in whatever order they are listed. -/
structure Merges (config : Config) (overrides : List (String × Json)) : Prop where
  layered : ∀ merged, config.merge overrides = .ok merged → merged.Valid ∧
    Layered (fun setting => overriding? overrides setting.key) (·.value config) (·.value merged)
  taken : (∃ merged, config.merge overrides = .ok merged) ↔
    ∀ setting ∈ settings, ∀ value, overriding? overrides setting.key = some value →
      (setting.kind.coerce value).isSome = true
  rejected : ∀ reason, config.merge overrides = .error reason → ∃ issues, reason = .invalid issues
  unordered : ∀ overrides', overrides ~ overrides' →
    config.merge overrides' = config.merge overrides

/-- A configuration that is loaded has the values of the environment, of the document, and the
defaults, the first of them that there is for each setting.  Overrides of a valid configuration
set the settings that they name, and no others. -/
theorem load_and_merge_layered :
    (∀ tree directory environment requested config,
      load tree directory environment requested = .ok config →
        ∃ members, loadedMembers tree directory environment requested = .ok members ∧
          FromEnvironment environment members config) ∧
    ∀ config overrides, config.Valid → Overriding overrides → Merges config overrides := by
  constructor
  · intro tree directory environment requested config loads
    rw [load_eq, bind_eq_ok_iff] at loads
    obtain ⟨members, loaded, rest⟩ := loads
    obtain ⟨below, read, merges⟩ := bind_eq_ok_iff.mp rest
    exact ⟨members, loaded,
      fromEnvironment_of_withEnvironment (ofMembers_eq_ok_iff.mp read) merges⟩
  · intro config overrides valid overriding
    refine ⟨fun merged => layered_of_merge valid overriding, exists_merge_iff valid overriding,
      fun reason fails => ?_, fun overrides' reordered => merge_perm overriding reordered config⟩
    rcases merge_ok_or_invalid overriding config with ⟨merged, merges⟩ | ⟨issues, rejects⟩
    · cases merges.symm.trans fails
    · exact ⟨issues, Except.error.inj (fails.symm.trans rejects)⟩

def twoSettings : FileTree :=
  ⟨[(.ofString "/work/config.yaml", "rendering:\n  max_concurrent: 2\n  nice: 5\n")],
    [.ofString "/work"]⟩

/-- The environment lies above the document, and overrides above the defaults. -/
theorem load_and_merge_layered_twoSettings :
    (∃ config, load twoSettings (.ofString "/work") [("MAX_RENDER_JOBS", "4")] none = .ok config ∧
      Setting.value ⟨"rendering", "max_concurrent", .count⟩ config = some (.integer 4)) ∧
    Valid {} ∧ Overriding [("encoding.preset", .text "slow"), ("probe.timeout", .null)] ∧
    Merges {} [("encoding.preset", .text "slow"), ("probe.timeout", .null)] := by
  have loads : (load twoSettings (.ofString "/work") [("MAX_RENDER_JOBS", "4")]
      none).toOption.isSome = true := by decide +kernel
  obtain ⟨config, loaded⟩ := Option.isSome_iff_exists.mp loads
  have loaded := toOption_eq_some_iff.mp loaded
  obtain ⟨members, -, layered⟩ := load_and_merge_layered.1 _ _ _ _ _ loaded
  obtain ⟨value, casted, set⟩ := layered.set ⟨"rendering", "max_concurrent", .count⟩
    (by simp [settings, renderingSettings]) "MAX_RENDER_JOBS" .whole "4"
    (by simp [environmentVariables, Setting.key]) rfl (by decide)
  obtain rfl : Json.integer 4 = value := Except.ok.inj casted
  have overriding : Overriding [("encoding.preset", .text "slow"), ("probe.timeout", .null)] := by
    constructor
    · rintro entry member
      rcases List.mem_cons.mp member with rfl | last
      · exact ⟨⟨"encoding", "preset", .text⟩, by simp [settings, encodingSettings], rfl⟩
      · rw [List.mem_singleton.mp last]
        exact ⟨⟨"probe", "timeout", .whole⟩, by simp [settings, probeSettings], rfl⟩
    · simp
  exact ⟨⟨config, loaded, set⟩, valid_default, overriding,
    load_and_merge_layered.2 {} _ valid_default overriding⟩

end Montage.Config
