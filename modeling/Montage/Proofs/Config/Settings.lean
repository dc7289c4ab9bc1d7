import Montage.Config
import Montage.Proofs.Wire.Accepted

/-!
# Settings

A configuration is a table of settings.  It can be read exactly if each value that is given can be
read on its own, and then every setting is what was given for it, or what it is without being
given.  A configuration that was read is read back from its own members.
-/

namespace Montage.Config

open Wire

/-- What the values of a setting are. -/
inductive Kind where
  | text
  | whole
  | count
  | number
  | positive
  | flag

def reading {α : Type} (reader : Reader α) (write : α → Json) (document : Json) : Option Json :=
  match reader document with
  | .valid value => some (write value)
  | .refused _ => none

/-- The value that a setting takes from a document. -/
def Kind.coerce : Kind → Json → Option Json
  | .text => reading Reader.text .text
  | .whole => reading Reader.whole .integer
  | .count => reading (Reader.wholeFrom 1) .integer
  | .number => reading Reader.number .number
  | .positive => reading (Reader.positive Reader.number) .number
  | .flag => reading Reader.flag .boolean

/-- A field of a section. -/
structure Setting where
  group : String
  field : String
  kind : Kind

def fieldsOf (members : Members) (group : String) : Members :=
  match Json.member? members group with
  | some (.object fields) => fields
  | _ => []

def Setting.of? (setting : Setting) (members : Members) : Option Json :=
  Json.member? (fieldsOf members setting.group) setting.field

def Setting.value (setting : Setting) (config : Config) : Option Json :=
  setting.of? config.toMembers

def storageSettings : List Setting := [
  ⟨"storage", "upload_dir", .text⟩, ⟨"storage", "output_dir", .text⟩,
  ⟨"storage", "fonts_dir", .text⟩]

def renderingSettings : List Setting := [
  ⟨"rendering", "max_concurrent", .count⟩, ⟨"rendering", "ffmpeg_threads", .whole⟩,
  ⟨"rendering", "nice", .whole⟩, ⟨"rendering", "render_timeout_seconds", .number⟩,
  ⟨"rendering", "max_finished_jobs", .whole⟩]

def encodingSettings : List Setting := [
  ⟨"encoding", "video_codec", .text⟩, ⟨"encoding", "preset", .text⟩,
  ⟨"encoding", "frame_rate", .whole⟩, ⟨"encoding", "image_frame_rate", .whole⟩,
  ⟨"encoding", "pix_fmt", .text⟩, ⟨"encoding", "profile", .text⟩, ⟨"encoding", "level", .text⟩,
  ⟨"encoding", "maxrate", .text⟩, ⟨"encoding", "bufsize", .text⟩,
  ⟨"encoding", "audio_codec", .text⟩, ⟨"encoding", "audio_bitrate", .text⟩]

def probeSettings : List Setting := [
  ⟨"probe", "fallback_duration", .positive⟩, ⟨"probe", "timeout", .whole⟩,
  ⟨"probe", "parallelism", .count⟩]

def fontsSettings : List Setting := [⟨"fonts", "download_on_startup", .flag⟩]

def settings : List Setting :=
  storageSettings ++ renderingSettings ++ encodingSettings ++ probeSettings ++ fontsSettings

/-- Settings that have the values that are given, and else those that they have without. -/
def Layered (given below above : Setting → Option Json) : Prop :=
  ∀ setting ∈ settings, above setting = (given setting).elim (below setting) setting.kind.coerce

/-- Whether the sections of a document have fields. -/
def Shaped (members : Members) : Prop :=
  ∀ group ∈ ["storage", "rendering", "encoding", "probe", "fonts"],
    ∀ document, Json.member? members group = some document → ∃ fields, document = .object fields

/-- A configuration that keeps to the bounds of its settings. -/
structure Valid (config : Config) : Prop where
  maxConcurrent : 1 ≤ config.rendering.maxConcurrent
  fallbackDuration : 0 < config.probe.fallbackDuration
  parallelism : 1 ≤ config.probe.parallelism

variable {members : Members} {config : Config} {name : String}

section Reading

variable {α : Type} {reader : Reader α} {write : α → Json} {document written : Json}
  {value absent : α}

theorem reading_eq_some_iff :
    reading reader write document = some written ↔
      ∃ value, reader document = .valid value ∧ write value = written := by
  unfold reading
  split <;> simp_all

/-- A field that may be missing is what is read of it, or what it is by itself. -/
theorem optional_eq_valid_iff (injective : Function.Injective write) :
    members.optional name reader absent = .valid value ↔
      (Json.member? members name).elim (some (write absent)) (reading reader write) =
        some (write value) := by
  unfold Members.optional
  cases Json.member? members name with
  | none => simp [injective.eq_iff]
  | some document =>
      rw [Checked.within_eq_valid_iff, Option.elim_some, reading_eq_some_iff]
      constructor
      · exact fun read => ⟨value, read, rfl⟩
      · rintro ⟨other, read, same⟩
        exact injective same ▸ read

/-- A section that may be missing is read from its fields. -/
theorem optional_sectionReader_iff {label : String} {reader : Members → Checked α}
    (standard : reader [] = .valid absent) :
    members.optional name (sectionReader label reader) absent = .valid value ↔
      (∀ document, Json.member? members name = some document →
          ∃ fields, document = .object fields) ∧
        reader (fieldsOf members name) = .valid value := by
  unfold Members.optional fieldsOf
  cases Json.member? members name with
  | none => simp [standard]
  | some document =>
      rw [Checked.within_eq_valid_iff]
      cases document <;> simp [sectionReader]

end Reading

section Sections

variable {fields : Members}

/-- Whether a setting is what is given among the fields of its section, or what it is without. -/
def Taken (fields : Members) (config : Config) (setting : Setting) : Prop :=
  setting.value config =
    (Json.member? fields setting.field).elim (setting.value {}) setting.kind.coerce

theorem optional_text {absent value : String} :
    fields.optional name Reader.text absent = .valid value ↔
      some (.text value) =
        (Json.member? fields name).elim (some (.text absent)) Kind.text.coerce :=
  (optional_eq_valid_iff fun _ _ => Json.text.inj).trans eq_comm

theorem optional_whole {absent value : Int} :
    fields.optional name Reader.whole absent = .valid value ↔
      some (.integer value) =
        (Json.member? fields name).elim (some (.integer absent)) Kind.whole.coerce :=
  (optional_eq_valid_iff fun _ _ => Json.integer.inj).trans eq_comm

theorem optional_count {absent value : Int} :
    fields.optional name (Reader.wholeFrom 1) absent = .valid value ↔
      some (.integer value) =
        (Json.member? fields name).elim (some (.integer absent)) Kind.count.coerce :=
  (optional_eq_valid_iff fun _ _ => Json.integer.inj).trans eq_comm

theorem optional_number {absent value : Binary64} :
    fields.optional name Reader.number absent = .valid value ↔
      some (.number value) =
        (Json.member? fields name).elim (some (.number absent)) Kind.number.coerce :=
  (optional_eq_valid_iff fun _ _ => Json.number.inj).trans eq_comm

theorem optional_positive {absent value : Binary64} :
    fields.optional name (Reader.positive Reader.number) absent = .valid value ↔
      some (.number value) =
        (Json.member? fields name).elim (some (.number absent)) Kind.positive.coerce :=
  (optional_eq_valid_iff fun _ _ => Json.number.inj).trans eq_comm

theorem optional_flag {absent value : Bool} :
    fields.optional name Reader.flag absent = .valid value ↔
      some (.boolean value) =
        (Json.member? fields name).elim (some (.boolean absent)) Kind.flag.coerce :=
  (optional_eq_valid_iff fun _ _ => Json.boolean.inj).trans eq_comm

theorem storageReader_eq_valid_iff :
    storageReader fields = .valid config.storage ↔
      ∀ setting ∈ storageSettings, Taken fields config setting := by
  obtain ⟨⟨_, _, _⟩, _, _, _, _⟩ := config
  simp only [storageReader, Checked.apply_eq_valid_iff, Checked.map_eq_valid_iff, optional_text,
    exists_and_left, exists_exists_and_eq_and, exists_exists_and_exists_and_eq_and,
    StorageConfig.mk.injEq, ↓existsAndEq, and_true, storageSettings, List.mem_cons,
    List.not_mem_nil, or_false, forall_eq_or_imp, forall_eq]
  exact Iff.rfl

theorem renderingReader_eq_valid_iff :
    renderingReader fields = .valid config.rendering ↔
      ∀ setting ∈ renderingSettings, Taken fields config setting := by
  obtain ⟨_, ⟨_, _, _, _, _⟩, _, _, _⟩ := config
  simp only [renderingReader, Checked.apply_eq_valid_iff, Checked.map_eq_valid_iff,
    optional_count, optional_whole, optional_number, exists_and_left, exists_exists_and_eq_and,
    exists_exists_and_exists_and_eq_and, RenderingConfig.mk.injEq, ↓existsAndEq, and_true,
    and_assoc, renderingSettings, List.mem_cons, List.not_mem_nil, or_false, forall_eq_or_imp,
    forall_eq]
  exact Iff.rfl

theorem encodingReader_eq_valid_iff :
    encodingReader fields = .valid config.encoding ↔
      ∀ setting ∈ encodingSettings, Taken fields config setting := by
  obtain ⟨_, _, ⟨_, _, _, _, _, _, _, _, _, _, _⟩, _, _⟩ := config
  simp only [encodingReader, Checked.apply_eq_valid_iff, Checked.map_eq_valid_iff, optional_text,
    optional_whole, exists_and_left, exists_exists_and_eq_and,
    exists_exists_and_exists_and_eq_and, EncodingConfig.mk.injEq, ↓existsAndEq, and_true,
    and_assoc, encodingSettings, List.mem_cons, List.not_mem_nil, or_false, forall_eq_or_imp,
    forall_eq]
  exact Iff.rfl

theorem probeReader_eq_valid_iff :
    probeReader fields = .valid config.probe ↔
      ∀ setting ∈ probeSettings, Taken fields config setting := by
  obtain ⟨_, _, _, ⟨_, _, _⟩, _⟩ := config
  simp only [probeReader, Checked.apply_eq_valid_iff, Checked.map_eq_valid_iff,
    optional_positive, optional_whole, optional_count, exists_and_left, exists_exists_and_eq_and,
    exists_exists_and_exists_and_eq_and, ProbeConfig.mk.injEq, ↓existsAndEq, and_true,
    probeSettings, List.mem_cons, List.not_mem_nil, or_false, forall_eq_or_imp, forall_eq]
  exact Iff.rfl

theorem fontsReader_eq_valid_iff :
    fontsReader fields = .valid config.fonts ↔
      ∀ setting ∈ fontsSettings, Taken fields config setting := by
  obtain ⟨_, _, _, _, ⟨_⟩⟩ := config
  simp only [fontsReader, Checked.map_eq_valid_iff, optional_flag, FontsConfig.mk.injEq,
    exists_eq_right, fontsSettings, List.mem_cons, List.not_mem_nil, or_false, forall_eq]
  exact Iff.rfl

theorem forall_taken_iff {listed : List Setting}
    (grouped : ∀ setting ∈ listed, setting.group = name) :
    (∀ setting ∈ listed, Taken (fieldsOf members name) config setting) ↔
      ∀ setting ∈ listed, setting.value config =
        (setting.of? members).elim (setting.value {}) setting.kind.coerce :=
  forall₂_congr fun setting member => by rw [Taken, Setting.of?, grouped setting member]

end Sections

/-- A configuration is made of what is given and of what can be read of it. -/
theorem read_eq_valid_iff :
    read members = .valid config ↔
      Shaped members ∧ Layered (·.of? members) (·.value {}) (·.value config) := by
  have sections : read members = .valid config ↔
      members.optional "storage" (sectionReader "StorageConfig" storageReader) {} =
          .valid config.storage ∧
        members.optional "rendering" (sectionReader "RenderingConfig" renderingReader) {} =
          .valid config.rendering ∧
        members.optional "encoding" (sectionReader "EncodingConfig" encodingReader) {} =
          .valid config.encoding ∧
        members.optional "probe" (sectionReader "ProbeConfig" probeReader) {} =
          .valid config.probe ∧
        members.optional "fonts" (sectionReader "FontsConfig" fontsReader) {} =
          .valid config.fonts := by
    obtain ⟨storage, rendering, encoding, probe, fonts⟩ := config
    simp [read, and_assoc]
  rw [sections, optional_sectionReader_iff (show storageReader [] = .valid {} from rfl),
    optional_sectionReader_iff (show renderingReader [] = .valid {} from rfl),
    optional_sectionReader_iff (show encodingReader [] = .valid {} from rfl),
    optional_sectionReader_iff (show probeReader [] = .valid {} from rfl),
    optional_sectionReader_iff (show fontsReader [] = .valid {} from rfl),
    storageReader_eq_valid_iff, renderingReader_eq_valid_iff, encodingReader_eq_valid_iff,
    probeReader_eq_valid_iff, fontsReader_eq_valid_iff,
    forall_taken_iff (by simp [storageSettings]), forall_taken_iff (by simp [renderingSettings]),
    forall_taken_iff (by simp [encodingSettings]), forall_taken_iff (by simp [probeSettings]),
    forall_taken_iff (by simp [fontsSettings])]
  simp only [Shaped, Layered, settings, List.forall_mem_append, List.forall_mem_cons,
    List.not_mem_nil, false_imp_iff, implies_true, and_true]
  constructor
  · rintro ⟨⟨storage, stored⟩, ⟨rendering, rendered⟩, ⟨encoding, encoded⟩, ⟨probe, probed⟩, fonts,
      font⟩
    exact ⟨⟨storage, rendering, encoding, probe, fonts⟩,
      ⟨⟨⟨stored, rendered⟩, encoded⟩, probed⟩, font⟩
  · rintro ⟨⟨storage, rendering, encoding, probe, fonts⟩, ⟨⟨⟨stored, rendered⟩, encoded⟩, probed⟩,
      font⟩
    exact ⟨⟨storage, stored⟩, ⟨rendering, rendered⟩, ⟨encoding, encoded⟩, ⟨probe, probed⟩, fonts,
      font⟩

section Readable

variable {fields : Members} {α β : Type}

def Readable (fields : Members) (name : String) (kind : Kind) : Prop :=
  ∀ document, Json.member? fields name = some document → (kind.coerce document).isSome = true

theorem exists_map_iff {function : α → β} {checked : Checked α} :
    (∃ result, checked.map function = .valid result) ↔ ∃ value, checked = .valid value := by
  cases checked <;> simp [Checked.map]

theorem exists_apply_iff {function : Checked (α → β)} {checked : Checked α} :
    (∃ result, function.apply checked = .valid result) ↔
      (∃ applied, function = .valid applied) ∧ ∃ value, checked = .valid value := by
  cases function <;> cases checked <;> simp [Checked.apply]

theorem isSome_reading_iff {reader : Reader α} {write : α → Json} {document : Json} :
    (reading reader write document).isSome = true ↔ ∃ value, reader document = .valid value := by
  unfold reading
  cases reader document <;> simp

theorem exists_optional_iff {reader : Reader α} {absent : α} :
    (∃ value, fields.optional name reader absent = .valid value) ↔
      ∀ document, Json.member? fields name = some document →
        ∃ value, reader document = .valid value := by
  unfold Members.optional
  cases Json.member? fields name with
  | none => simp
  | some document => simp [Checked.within_eq_valid_iff]

theorem exists_storageReader_iff :
    (∃ storage, storageReader fields = .valid storage) ↔
      ∀ setting ∈ storageSettings, Readable fields setting.field setting.kind := by
  simp only [storageReader, exists_apply_iff, exists_map_iff, exists_optional_iff, and_assoc,
    storageSettings, List.mem_cons, List.not_mem_nil, or_false, forall_eq_or_imp, forall_eq,
    Readable, Kind.coerce, isSome_reading_iff]

theorem exists_renderingReader_iff :
    (∃ rendering, renderingReader fields = .valid rendering) ↔
      ∀ setting ∈ renderingSettings, Readable fields setting.field setting.kind := by
  simp only [renderingReader, exists_apply_iff, exists_map_iff, exists_optional_iff, and_assoc,
    renderingSettings, List.mem_cons, List.not_mem_nil, or_false, forall_eq_or_imp, forall_eq,
    Readable, Kind.coerce, isSome_reading_iff]

theorem exists_encodingReader_iff :
    (∃ encoding, encodingReader fields = .valid encoding) ↔
      ∀ setting ∈ encodingSettings, Readable fields setting.field setting.kind := by
  simp only [encodingReader, exists_apply_iff, exists_map_iff, exists_optional_iff, and_assoc,
    encodingSettings, List.mem_cons, List.not_mem_nil, or_false, forall_eq_or_imp, forall_eq,
    Readable, Kind.coerce, isSome_reading_iff]

theorem exists_probeReader_iff :
    (∃ probe, probeReader fields = .valid probe) ↔
      ∀ setting ∈ probeSettings, Readable fields setting.field setting.kind := by
  simp only [probeReader, exists_apply_iff, exists_map_iff, exists_optional_iff, and_assoc,
    probeSettings, List.mem_cons, List.not_mem_nil, or_false, forall_eq_or_imp, forall_eq,
    Readable, Kind.coerce, isSome_reading_iff]

theorem exists_fontsReader_iff :
    (∃ fonts, fontsReader fields = .valid fonts) ↔
      ∀ setting ∈ fontsSettings, Readable fields setting.field setting.kind := by
  simp only [fontsReader, exists_map_iff, exists_optional_iff, fontsSettings, List.mem_cons,
    List.not_mem_nil, or_false, forall_eq, Readable, Kind.coerce, isSome_reading_iff]

theorem exists_optional_sectionReader_iff {label : String} {reader : Members → Checked α}
    {absent : α} (standard : reader [] = .valid absent) :
    (∃ value, members.optional name (sectionReader label reader) absent = .valid value) ↔
      (∀ document, Json.member? members name = some document →
          ∃ fields, document = .object fields) ∧
        ∃ value, reader (fieldsOf members name) = .valid value := by
  simp only [optional_sectionReader_iff standard, exists_and_left]

theorem forall_readable_iff {listed : List Setting}
    (grouped : ∀ setting ∈ listed, setting.group = name) :
    (∀ setting ∈ listed, Readable (fieldsOf members name) setting.field setting.kind) ↔
      ∀ setting ∈ listed, ∀ document, setting.of? members = some document →
        (setting.kind.coerce document).isSome = true :=
  forall₂_congr fun setting member => by rw [Readable, Setting.of?, grouped setting member]

/-- A document is read if every value in it can be read on its own. -/
theorem exists_read_iff :
    (∃ config, read members = .valid config) ↔
      Shaped members ∧ ∀ setting ∈ settings, ∀ document, setting.of? members = some document →
        (setting.kind.coerce document).isSome = true := by
  simp only [read, exists_apply_iff, exists_map_iff,
    exists_optional_sectionReader_iff (show storageReader [] = .valid {} from rfl),
    exists_optional_sectionReader_iff (show renderingReader [] = .valid {} from rfl),
    exists_optional_sectionReader_iff (show encodingReader [] = .valid {} from rfl),
    exists_optional_sectionReader_iff (show probeReader [] = .valid {} from rfl),
    exists_optional_sectionReader_iff (show fontsReader [] = .valid {} from rfl),
    exists_storageReader_iff, exists_renderingReader_iff, exists_encodingReader_iff,
    exists_probeReader_iff, exists_fontsReader_iff]
  rw [forall_readable_iff (by simp [storageSettings]),
    forall_readable_iff (by simp [renderingSettings]),
    forall_readable_iff (by simp [encodingSettings]),
    forall_readable_iff (by simp [probeSettings]), forall_readable_iff (by simp [fontsSettings])]
  simp only [Shaped, settings, List.forall_mem_append, List.forall_mem_cons, List.not_mem_nil,
    false_imp_iff, implies_true, and_true]
  constructor
  · rintro ⟨⟨⟨⟨⟨storage, stored⟩, rendering, rendered⟩, encoding, encoded⟩, probe, probed⟩, fonts,
      font⟩
    exact ⟨⟨storage, rendering, encoding, probe, fonts⟩,
      ⟨⟨⟨stored, rendered⟩, encoded⟩, probed⟩, font⟩
  · rintro ⟨⟨storage, rendering, encoding, probe, fonts⟩, ⟨⟨⟨stored, rendered⟩, encoded⟩, probed⟩,
      font⟩
    exact ⟨⟨⟨⟨⟨storage, stored⟩, rendering, rendered⟩, encoding, encoded⟩, probe, probed⟩, fonts,
      font⟩

end Readable

section Coercion

variable {kind : Kind} {document written : Json} {setting : Setting}

theorem coerce_count_iff {number : Int} :
    Kind.count.coerce (.integer number) = some (.integer number) ↔ 1 ≤ number := by
  rw [Kind.coerce, reading_eq_some_iff]
  simp [Reader.wholeFrom, Reader.whole]

theorem coerce_positive_iff {number : Binary64} :
    Kind.positive.coerce (.number number) = some (.number number) ↔ 0 < number := by
  rw [Kind.coerce, reading_eq_some_iff]
  simp [Reader.positive, Reader.number]

theorem Kind.coerce_of_coerce (taken : kind.coerce document = some written) :
    kind.coerce written = some written := by
  cases kind with
  | text | whole | number | flag =>
      obtain ⟨value, -, rfl⟩ := reading_eq_some_iff.mp taken
      rfl
  | count =>
      obtain ⟨value, read, rfl⟩ := reading_eq_some_iff.mp taken
      obtain ⟨number, -, rest⟩ := Checked.bind_eq_valid_iff.mp read
      dsimp only at rest
      split at rest
      next above => exact coerce_count_iff.mpr (Checked.valid.inj rest ▸ above)
      next => simp at rest
  | positive =>
      obtain ⟨value, read, rfl⟩ := reading_eq_some_iff.mp taken
      exact coerce_positive_iff.mpr (pos_of_positive read)

/-- Whether every setting is taken from a document as it is. -/
def Settled (config : Config) : Prop :=
  ∀ setting ∈ settings, (setting.value config).bind setting.kind.coerce = setting.value config

theorem settled_iff : config.Settled ↔ config.Valid := by
  constructor
  · intro settled
    refine ⟨coerce_count_iff.mp ?_, coerce_positive_iff.mp ?_, coerce_count_iff.mp ?_⟩
    · exact settled ⟨"rendering", "max_concurrent", .count⟩ (by simp [settings, renderingSettings])
    · exact settled ⟨"probe", "fallback_duration", .positive⟩ (by simp [settings, probeSettings])
    · exact settled ⟨"probe", "parallelism", .count⟩ (by simp [settings, probeSettings])
  · rintro ⟨maxConcurrent, fallbackDuration, parallelism⟩
    have rendering := coerce_count_iff.mpr maxConcurrent
    have fallback := coerce_positive_iff.mpr fallbackDuration
    have probes := coerce_count_iff.mpr parallelism
    simp only [Settled, settings, storageSettings, renderingSettings, encodingSettings,
      probeSettings, fontsSettings, List.forall_mem_append, List.forall_mem_cons,
      List.not_mem_nil, false_imp_iff, implies_true, and_true]
    exact ⟨⟨⟨⟨⟨rfl, rfl, rfl⟩, ⟨rendering, rfl, rfl, rfl, rfl⟩⟩,
      ⟨rfl, rfl, rfl, rfl, rfl, rfl, rfl, rfl, rfl, rfl, rfl⟩⟩, ⟨fallback, rfl, probes⟩⟩, rfl⟩

theorem exists_value (config : Config) (member : setting ∈ settings) :
    ∃ own, setting.value config = some own := by
  have known : ∀ setting ∈ settings, (setting.value config).isSome = true := by
    simp only [settings, storageSettings, renderingSettings, encodingSettings, probeSettings,
      fontsSettings, List.forall_mem_append, List.forall_mem_cons, List.not_mem_nil,
      false_imp_iff, implies_true, and_true]
    exact ⟨⟨⟨⟨⟨rfl, rfl, rfl⟩, ⟨rfl, rfl, rfl, rfl, rfl⟩⟩,
      ⟨rfl, rfl, rfl, rfl, rfl, rfl, rfl, rfl, rfl, rfl, rfl⟩⟩, ⟨rfl, rfl, rfl⟩⟩, rfl⟩
  exact Option.isSome_iff_exists.mp (known setting member)

theorem Valid.exists_value (valid : config.Valid) (member : setting ∈ settings) :
    ∃ own, setting.value config = some own ∧ setting.kind.coerce own = some own := by
  have settled := settled_iff.mpr valid setting member
  obtain ⟨own, known⟩ := Config.exists_value config member
  rw [known, Option.bind_some] at settled
  exact ⟨own, known, settled⟩

theorem valid_default : Valid {} := by
  constructor <;> decide +kernel

theorem valid_of_read (read : read members = .valid config) : config.Valid := by
  rw [← settled_iff]
  intro setting member
  have taken := (read_eq_valid_iff.mp read).2 setting member
  obtain ⟨own, known⟩ := exists_value config member
  dsimp only at taken
  rw [known] at taken ⊢
  rw [Option.bind_some]
  cases given : setting.of? members with
  | some document =>
      rw [given] at taken
      exact Kind.coerce_of_coerce taken.symm
  | none =>
      rw [given, Option.elim_none] at taken
      have settled := settled_iff.mpr valid_default setting member
      rwa [← taken] at settled

end Coercion

end Montage.Config
