import Montage.Probe.Tool
import Montage.Proofs.Sequence

/-!
# Reports that derail the reader

A report that is no JSON, or in which a number is misspelt or of another type, only degrades the
probe.  Three things are not foreseen: a value that is no record where fields are asked for, a
number beyond the range of the type that it is converted to, and a nesting that is too deep.
-/

namespace Montage

namespace ProbeResult

variable {result : ProbeResult} {value : Option Json} {stream report : Json} {fault : Fault}
  {streams : List Json} {members : List (String × Json)}

def IsForgiven (fault : Fault) : Prop :=
  fault.kind ∈ [FaultKind.json, FaultKind.value, FaultKind.type]

instance (fault : Fault) : Decidable (IsForgiven fault) :=
  inferInstanceAs (Decidable (fault.kind ∈ _))

theorem isForgiven_noNumber (expected : String) (value : Json) :
    IsForgiven (noNumber expected value) := by
  simp [IsForgiven, noNumber, Fault.kind]

section Streams

def IsRead (stream : Json) : Prop := ∃ after, addStream empty stream = .ok after

/-- Stream records at which the reader is derailed. -/
inductive StreamDerails : Json → Fault → Prop
  | shapeless {stream : Json} (noRecord : ∀ members, stream ≠ .object members) :
      StreamDerails stream .notARecord
  | width {members : List (String × Json)} {negative : Bool}
      (picture : Json.member? members "codec_type" = some (.text "video"))
      (wide : Json.member? members "width" = some (.number (.infinite negative))) :
      StreamDerails (.object members) .infinite
  | height {members : List (String × Json)} {negative : Bool} {width : Int}
      (picture : Json.member? members "codec_type" = some (.text "video"))
      (read : sizeOf (Json.member? members "width") = .ok width)
      (high : Json.member? members "height" = some (.number (.infinite negative))) :
      StreamDerails (.object members) .infinite

/-- A size that is not read is forgiven, or infinite. -/
theorem sizeOf_error (fails : sizeOf value = .error fault) :
    IsForgiven fault ∨
      fault = .infinite ∧ ∃ negative, value = some (.number (.infinite negative)) := by
  unfold sizeOf at fails
  split at fails
  next => simp at fails
  next => simp at fails
  next => simp at fails
  next size =>
    cases size with
    | nan =>
        obtain rfl := Except.error.inj fails
        exact .inl (by decide)
    | infinite negative =>
        obtain rfl := Except.error.inj fails
        exact .inr ⟨rfl, negative, rfl⟩
    | negativeZero => cases fails
    | finite _ _ => cases fails
  next size =>
    cases read : Numeral.readInt size.toList with
    | ok number =>
        rw [read] at fails
        cases fails
    | error reason =>
        rw [read] at fails
        obtain rfl := Except.error.inj fails
        cases reason <;> exact .inl (by simp [IsForgiven, Fault.kind])
  next other _ _ _ _ =>
    obtain rfl := Except.error.inj fails
    exact .inl (isForgiven_noNumber _ other)

/-- How a stream record is read does not depend on the records before it. -/
theorem addStream_alike (stream : Json) :
    (∃ change : ProbeResult → ProbeResult,
      ∀ result, addStream result stream = .ok (change result)) ∨
    ∃ fault, (IsForgiven fault ∨ StreamDerails stream fault) ∧
      ∀ result, addStream result stream = .error fault := by
  cases stream with
  | null | boolean _ | integer _ | number _ | text _ | bytes _ | array _ =>
      exact .inr ⟨.notARecord, .inr (.shapeless (by simp)), fun _ => rfl⟩
  | object members =>
      by_cases picture : Json.member? members "codec_type" = some (.text "video")
      · cases wide : sizeOf (Json.member? members "width") with
        | error fault =>
            refine .inr ⟨fault, ?_, fun result => by simp only [addStream, picture, wide]; rfl⟩
            rcases sizeOf_error wide with forgiven | ⟨rfl, negative, infinite⟩
            · exact .inl forgiven
            · exact .inr (.width picture infinite)
        | ok width =>
            cases high : sizeOf (Json.member? members "height") with
            | error fault =>
                refine .inr ⟨fault, ?_, fun result => by
                  simp only [addStream, picture, wide, high]; rfl⟩
                rcases sizeOf_error high with forgiven | ⟨rfl, negative, infinite⟩
                · exact .inl forgiven
                · exact .inr (.height picture wide infinite)
            | ok height =>
                exact .inl ⟨fun result => { result with hasVideo := true, width, height },
                  fun result => by simp only [addStream, picture, wide, high]; rfl⟩
      · by_cases sound : Json.member? members "codec_type" = some (.text "audio")
        · exact .inl ⟨fun result => { result with hasAudio := true },
            fun result => by simp only [addStream, sound]⟩
        · refine .inl ⟨id, fun result => ?_⟩
          unfold addStream
          split <;> simp_all

theorem addStream_of_derails (derails : StreamDerails stream fault) (result : ProbeResult) :
    addStream result stream = .error fault := by
  cases derails with
  | shapeless noRecord =>
      cases stream with
      | object members => exact absurd rfl (noRecord members)
      | null | boolean _ | integer _ | number _ | text _ | bytes _ | array _ => rfl
  | width picture wide =>
      simp only [addStream, picture, wide]
      rfl
  | height picture read high =>
      simp only [addStream, picture, read, high]
      rfl

theorem isRead_iff (result : ProbeResult) :
    IsRead stream ↔ ∃ after, addStream result stream = .ok after := by
  unfold IsRead
  rcases addStream_alike stream with ⟨change, reads⟩ | ⟨fault, -, fails⟩
  · simp [reads]
  · simp [fails]

theorem foldlM_addStream_of_isRead (read : ∀ stream ∈ streams, IsRead stream)
    (result : ProbeResult) : ∃ after, streams.foldlM addStream result = .ok after := by
  induction streams generalizing result with
  | nil => exact ⟨result, rfl⟩
  | cons stream streams ih =>
      obtain ⟨here, rest⟩ := List.forall_mem_cons.mp read
      obtain ⟨middle, taken⟩ := (isRead_iff result).mp here
      obtain ⟨after, taken'⟩ := ih rest middle
      exact ⟨after, by rw [List.foldlM_cons, taken]; exact taken'⟩

/-- Streams are all read, or up to the first one at which reading fails. -/
theorem isRead_or_foldlM_addStream (streams : List Json) (result : ProbeResult) :
    (∀ stream ∈ streams, IsRead stream) ∨
    ∃ before culprit behind fault, streams = before ++ culprit :: behind ∧
      (∀ stream ∈ before, IsRead stream) ∧ (IsForgiven fault ∨ StreamDerails culprit fault) ∧
      streams.foldlM addStream result = .error fault := by
  induction streams generalizing result with
  | nil => exact .inl (by simp)
  | cons stream streams ih =>
      rcases addStream_alike stream with ⟨change, reads⟩ | ⟨fault, reason, fails⟩
      · have first : IsRead stream := ⟨_, reads empty⟩
        have step : (stream :: streams).foldlM addStream result =
            streams.foldlM addStream (change result) := by
          rw [List.foldlM_cons, reads]
          rfl
        rw [step]
        rcases ih (change result) with rest | ⟨before, culprit, behind, fault, rfl, rest, reason⟩
        · exact .inl (List.forall_mem_cons.mpr ⟨first, rest⟩)
        · exact .inr ⟨stream :: before, culprit, behind, fault, rfl,
            List.forall_mem_cons.mpr ⟨first, rest⟩, reason⟩
      · refine .inr ⟨[], stream, streams, fault, rfl, by simp, reason, ?_⟩
        rw [List.foldlM_cons, fails]
        rfl

theorem foldlM_addStream_of_derails {before : List Json}
    (read : ∀ stream ∈ before, IsRead stream) (derails : StreamDerails stream fault)
    (behind : List Json) (result : ProbeResult) :
    (before ++ stream :: behind).foldlM addStream result = .error fault := by
  induction before generalizing result with
  | nil =>
      rw [List.nil_append, List.foldlM_cons, addStream_of_derails derails]
      rfl
  | cons first before ih =>
      obtain ⟨here, rest⟩ := List.forall_mem_cons.mp read
      obtain ⟨after, taken⟩ := (isRead_iff result).mp here
      rw [List.cons_append, List.foldlM_cons, taken]
      exact ih rest after

end Streams

section Reports

def StreamsRead (members : List (String × Json)) : Prop :=
  ∃ streams, streamsOf (Json.member? members "streams") = .ok streams ∧
    ∀ stream ∈ streams, IsRead stream

/-- Reports at which the reader is derailed. -/
inductive ReportDerails : Json → Fault → Prop
  | shapeless {report : Json} (noRecord : ∀ members, report ≠ .object members) :
      ReportDerails report .notARecord
  | letters {members : List (String × Json)} {text : String}
      (listed : Json.member? members "streams" = some (.text text)) (filled : text ≠ "") :
      ReportDerails (.object members) .notARecord
  | keys {members : List (String × Json)} {fields : List (String × Json)}
      (listed : Json.member? members "streams" = some (.object fields)) (filled : fields ≠ []) :
      ReportDerails (.object members) .notARecord
  | stream {members : List (String × Json)} {before behind : List Json} {culprit : Json}
      {fault : Fault}
      (listed : Json.member? members "streams" = some (.array (before ++ culprit :: behind)))
      (read : ∀ stream ∈ before, IsRead stream) (derails : StreamDerails culprit fault) :
      ReportDerails (.object members) fault
  | format {members : List (String × Json)} {format : Json} (streams : StreamsRead members)
      (given : Json.member? members "format" = some format)
      (noRecord : ∀ fields, format ≠ .object fields) :
      ReportDerails (.object members) .notARecord
  | duration {members fields : List (String × Json)} {seconds : Int} {negative : Bool}
      (streams : StreamsRead members)
      (given : Json.member? members "format" = some (.object fields))
      (lasts : Json.member? fields "duration" = some (.integer seconds))
      (beyond : Binary64.ofInt seconds = .infinite negative) :
      ReportDerails (.object members) .tooLarge

/-- A duration that is not read is forgiven, or beyond all numbers. -/
theorem durationOf_error (fails : durationOf value = .error fault) :
    IsForgiven fault ∨ fault = .tooLarge ∧ ∃ seconds negative, value = some (.integer seconds) ∧
      Binary64.ofInt seconds = .infinite negative := by
  unfold durationOf at fails
  split at fails
  next => simp at fails
  next document =>
    split at fails
    next => simp at fails
    next =>
      split at fails
      next => simp at fails
      next => simp at fails
      next seconds _ =>
        split at fails
        next negative beyond =>
          obtain rfl := Except.error.inj fails
          exact .inr ⟨rfl, seconds, negative, rfl, beyond⟩
        next => simp at fails
      next => simp at fails
      next =>
        obtain rfl := Except.error.inj fails
        exact .inl (isForgiven_noNumber _ _)

theorem streamsOf_error (fails : streamsOf value = .error fault) :
    IsForgiven fault ∨ fault = .notARecord ∧
      ((∃ text, value = some (.text text) ∧ text ≠ "") ∨
        ∃ fields, value = some (.object fields) ∧ fields ≠ []) := by
  unfold streamsOf at fails
  split at fails
  next => simp at fails
  next => simp at fails
  next fields =>
    split at fails
    next => simp at fails
    next filled =>
      obtain rfl := Except.error.inj fails
      exact .inr ⟨rfl, .inr ⟨fields, rfl, by simpa using filled⟩⟩
  next text =>
    split at fails
    next => simp at fails
    next filled =>
      obtain rfl := Except.error.inj fails
      exact .inr ⟨rfl, .inl ⟨text, rfl, by simpa using filled⟩⟩
  next =>
    obtain rfl := Except.error.inj fails
    exact .inl (by simp [IsForgiven, Fault.kind])

theorem ofReport_of_streamsRead (streams : StreamsRead members) :
    ∃ result : ProbeResult, ofReport (.object members) =
      match (Json.member? members "format").getD (.object []) with
      | .object fields => do
          let duration ← durationOf (Json.member? fields "duration")
          .ok { result with duration }
      | _ => .error .notARecord := by
  obtain ⟨streams, listed, read⟩ := streams
  obtain ⟨result, gives⟩ := foldlM_addStream_of_isRead read empty
  refine ⟨result, ?_⟩
  change (streamsOf (Json.member? members "streams") >>= fun streams =>
    streams.foldlM addStream empty >>= _) = _
  rw [listed]
  change (streams.foldlM addStream empty >>= _) = _
  rw [gives]
  rfl

theorem ofReport_of_streamsOf
    (unlisted : streamsOf (Json.member? members "streams") = .error fault) :
    ofReport (.object members) = .error fault := by
  rw [ofReport, unlisted]
  rfl

theorem ofReport_of_foldlM (listed : streamsOf (Json.member? members "streams") = .ok streams)
    (breaks : streams.foldlM addStream empty = .error fault) :
    ofReport (.object members) = .error fault := by
  simp only [ofReport, listed, breaks, bind, Except.bind]

theorem array_of_streamsOf (listed : streamsOf value = .ok streams) (filled : streams ≠ []) :
    value = some (.array streams) := by
  have nothing : ¬ Except.ok [] = (.ok streams : Except Fault (List Json)) := fun same =>
    filled (Except.ok.inj same).symm
  unfold streamsOf at listed
  split at listed
  next => exact absurd listed nothing
  next => rw [Except.ok.inj listed]
  next => split at listed <;> simp_all
  next => split at listed <;> simp_all
  next => simp at listed

/-- What is not read of a report is forgiven, or derails the reader. -/
theorem ofReport_error (fails : ofReport report = .error fault) :
    IsForgiven fault ∨ ReportDerails report fault := by
  cases report with
  | null | boolean _ | integer _ | number _ | text _ | bytes _ | array _ =>
      obtain rfl := Except.error.inj fails
      exact .inr (.shapeless (by simp))
  | object members =>
      cases listed : streamsOf (Json.member? members "streams") with
      | error reason =>
          obtain rfl := Except.error.inj ((ofReport_of_streamsOf listed).symm.trans fails)
          rcases streamsOf_error listed with forgiven |
            ⟨rfl, ⟨text, given, filled⟩ | ⟨fields, given, filled⟩⟩
          · exact .inl forgiven
          · exact .inr (.letters given filled)
          · exact .inr (.keys given filled)
      | ok streams =>
          rcases isRead_or_foldlM_addStream streams empty with read |
            ⟨before, culprit, behind, reason, rfl, read, cause, breaks⟩
          · have streams : StreamsRead members := ⟨streams, listed, read⟩
            obtain ⟨result, gives⟩ := ofReport_of_streamsRead streams
            rw [gives] at fails
            cases given : Json.member? members "format" with
            | none =>
                rw [given] at fails
                cases fails
            | some format =>
                rw [given, Option.getD_some] at fails
                split at fails
                next fields =>
                  obtain untimed | ⟨_, _, fails⟩ := bind_eq_error_iff.mp fails
                  · rcases durationOf_error untimed with forgiven |
                      ⟨rfl, seconds, negative, lasts, beyond⟩
                    · exact .inl forgiven
                    · exact .inr (.duration streams given lasts beyond)
                  · simp at fails
                next noRecord =>
                  obtain rfl := Except.error.inj fails
                  exact .inr (.format streams given noRecord)
          · obtain rfl := Except.error.inj ((ofReport_of_foldlM listed breaks).symm.trans fails)
            have array := array_of_streamsOf listed (by simp)
            exact cause.imp_right fun derails => .stream array read derails

theorem ofReport_of_derails (derails : ReportDerails report fault) :
    ofReport report = .error fault := by
  cases derails with
  | shapeless noRecord =>
      cases report with
      | object members => exact absurd rfl (noRecord members)
      | null | boolean _ | integer _ | number _ | text _ | bytes _ | array _ => rfl
  | letters listed filled =>
      refine ofReport_of_streamsOf ?_
      rw [listed]
      exact if_neg (by simpa using filled)
  | keys listed filled =>
      refine ofReport_of_streamsOf ?_
      rw [listed]
      exact if_neg (by simpa using filled)
  | @stream members before behind culprit fault listed read derails =>
      have array : streamsOf (Json.member? members "streams") =
          .ok (before ++ culprit :: behind) := by
        rw [listed]
        rfl
      exact ofReport_of_foldlM array (foldlM_addStream_of_derails read derails behind empty)
  | format streams given noRecord =>
      obtain ⟨result, gives⟩ := ofReport_of_streamsRead streams
      rw [gives, given, Option.getD_some]
      split
      next fields => exact absurd rfl (noRecord fields)
      next => rfl
  | @duration members fields seconds negative streams given lasts beyond =>
      obtain ⟨result, gives⟩ := ofReport_of_streamsRead streams
      have positive : (seconds == 0) = false := by
        refine beq_eq_false_iff_ne.mpr ?_
        rintro rfl
        have zero : Binary64.ofInt 0 = .zero := by decide
        simp [zero, Binary64.zero] at beyond
      have fails : durationOf (some (.integer seconds)) = .error .tooLarge := by
        simp [durationOf, Json.isAbsent, positive, beyond]
      simp only [gives, given, Option.getD_some, lasts, fails]
      rfl

theorem ReportDerails.not_isForgiven (derails : ReportDerails report fault) :
    ¬ IsForgiven fault := by
  cases derails with
  | shapeless | letters | keys | format => decide
  | duration => decide
  | stream listed read derails => cases derails <;> decide

end Reports

end ProbeResult

namespace ProbeTool

open ProbeResult

variable {path : Path} {limit : Json} {run : ToolRun} {fault : Fault}

/-- Runs of the probing tool whose report derails the reader. -/
inductive Derails : ToolRun → Fault → Prop
  | nested {output : String} (deep : Json.read output = .error .tooDeep) :
      Derails (.exited 0 output) .tooDeep
  | report {output : String} {document : Json} {fault : Fault}
      (read : Json.read output = .ok document) (derails : ReportDerails document fault) :
      Derails (.exited 0 output) fault

/-- A text that is not read as JSON is forgiven, unless it is nested too deeply. -/
theorem read_error {text : String} (fails : Json.read text = .error fault) :
    IsForgiven fault ∨ fault = .tooDeep := by
  unfold Json.read at fails
  cases read : Json.readWithin Json.depthLimit text with
  | ok document =>
      rw [read] at fails
      cases fails
  | error reason =>
      rw [read] at fails
      obtain rfl := Except.error.inj fails
      cases reason with
      | malformed | tooManyDigits =>
          exact .inl (by simp [Json.ReadError.fault, IsForgiven, Fault.kind])
      | tooDeep => exact .inr rfl

theorem derails_exited_iff {output : String} :
    Derails (.exited 0 output) fault ↔ ofText output = .error fault ∧ ¬ IsForgiven fault := by
  rw [ofText, bind_eq_error_iff]
  constructor
  · rintro (deep | ⟨read, derails⟩)
    · exact ⟨.inl deep, by decide⟩
    · exact ⟨.inr ⟨_, read, ofReport_of_derails derails⟩, derails.not_isForgiven⟩
  · rintro ⟨unread | ⟨document, read, fails⟩, notForgiven⟩
    · obtain rfl := (read_error unread).resolve_left notForgiven
      exact .nested unread
    · exact .report read ((ofReport_error fails).resolve_left notForgiven)

theorem interpret_exited (path : Path) (limit : Json) (output : String) :
    interpret path limit (.exited 0 output) =
      match ofText output with
      | .ok result => .ok result
      | .error fault =>
          if IsForgiven fault then .error (.degraded (.unreadable path.name fault.message))
          else .error (.fault fault) := rfl

/-- A probe breaks off exactly where its report derails the reader. -/
theorem interpret_eq_fault_iff (path : Path) (limit : Json) (run : ToolRun) (fault : Fault) :
    interpret path limit run = .error (.fault fault) ↔ Derails run fault := by
  cases run with
  | notStarted => exact iff_of_false (by simp [interpret]) (by rintro ⟨⟩)
  | timedOut => exact iff_of_false (by simp [interpret]) (by rintro ⟨⟩)
  | exited code output =>
      by_cases ended : code = 0
      · subst ended
        rw [derails_exited_iff, interpret_exited]
        cases told : ofText output with
        | ok result => simp
        | error reason =>
            by_cases forgiven : IsForgiven reason
            · simp only [if_pos forgiven, Except.error.injEq, reduceCtorEq, false_iff, not_and,
                not_not]
              exact fun same => same ▸ forgiven
            · simp only [if_neg forgiven, Except.error.injEq, ProbeError.fault.injEq]
              exact ⟨fun same => ⟨same, same ▸ forgiven⟩, And.left⟩
      · refine iff_of_false (by simp [interpret, ended]) fun derails => ?_
        cases derails <;> exact ended rfl

end ProbeTool

end Montage
