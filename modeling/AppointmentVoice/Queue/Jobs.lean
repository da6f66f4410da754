import AppointmentVoice.Formats.Iso
import AppointmentVoice.Formats.Json

/-!
# Jobs

A job, the text that it is stored as, and the copies of it with other metadata.  A text
that has been written is read back as the same job; so an entry of a queue can be removed
by the text of its job.
-/

set_option autoImplicit false

namespace AppointmentVoice.Queue

open Formats Formats.Json

/-- `MAX_JOB_ERROR_LENGTH`. -/
def maxJobErrorLength : Nat := 500

/-- A dictionary has no key twice. -/
structure Payload where
  members : List (String × Value)
  distinct : (Value.object members).distinct = true

/-- A job, as the queue holds it. -/
@[ext]
structure Job where
  id : String
  type : String
  payload : Payload
  attempts : Int := 0
  requestId : Option String := none
  lastError : Option String := none
  failedAt : Option String := none
  processingStartedAt : Option String := none

/-- What the functions of the queue raise. -/
inductive QueueError where
  | jsonDecode
  | key (name : String)
  | type
  | value
  deriving DecidableEq, Repr

/-! ## Texts -/

/-- A member that is left out when it is `None`. -/
def optionalMember (name : String) : Option String → List (String × Value)
  | some text => [(name, .string text)]
  | none => []

/-- The object that `to_json` writes, with the optional members at the end. -/
def Job.data (job : Job) : List (String × Value) :=
  [("id", .string job.id), ("type", .string job.type), ("payload", .object job.payload.members),
    ("attempts", .int job.attempts)] ++ optionalMember "request_id" job.requestId ++
    optionalMember "last_error" job.lastError ++ optionalMember "failed_at" job.failedAt ++
    optionalMember "processing_started_at" job.processingStartedAt

/-- `to_json`. -/
def Job.toJson (job : Job) : String := dumps (.object job.data)

/-- `data[name]`. -/
def item (data : List (String × Value)) (name : String) : Except QueueError Value :=
  match data.lookup name with
  | some value => .ok value
  | none => .error (.key name)

/-- A text, or a `TypeError`. -/
def asText : Value → Except QueueError String
  | .string text => .ok text
  | _ => .error .type

/-- A whole number, or a `TypeError`. -/
def asInt : Value → Except QueueError Int
  | .int number => .ok number
  | _ => .error .type

/-- A dictionary that has been read has no key twice. -/
def asPayload : Value → Except QueueError Payload
  | .object members =>
      if distinct : (Value.object members).distinct = true then .ok ⟨members, distinct⟩
      else .error .type
  | _ => .error .type

/-- `data.get(name)`. -/
def optionalText (data : List (String × Value)) (name : String) :
    Except QueueError (Option String) :=
  match data.lookup name with
  | none => .ok none
  | some .null => .ok none
  | some (.string text) => .ok (some text)
  | some _ => .error .type

/-- `data.get("attempts", 0)`. -/
def attemptsOf (data : List (String × Value)) : Except QueueError Int :=
  match data.lookup "attempts" with
  | none => .ok 0
  | some value => asInt value

/-- The job of a dictionary.  Members of other types than those of the fields are refused. -/
def Job.ofData (data : List (String × Value)) : Except QueueError Job := do
  let id ← asText (← item data "id")
  let type ← asText (← item data "type")
  let payload ← asPayload (← item data "payload")
  return {
    id, type, payload
    attempts := ← attemptsOf data
    requestId := ← optionalText data "request_id"
    lastError := ← optionalText data "last_error"
    failedAt := ← optionalText data "failed_at"
    processingStartedAt := ← optionalText data "processing_started_at" }

/-- `from_json`. -/
def Job.fromJson (rawJob : String) : Except QueueError Job :=
  match loads rawJob with
  | some (.object data) => Job.ofData data
  | some _ => .error .type
  | none => .error .jsonDecode

/-! ## Copies -/

namespace Job

/-- The copy that goes onto the processing list. -/
def withProcessingStartedAt (job : Job) (startedAt : String) : Job :=
  { job with processingStartedAt := some startedAt }

/-- The copy that goes back to its ready list. -/
def withoutProcessingStartedAt (job : Job) : Job := { job with processingStartedAt := none }

/-- The copy for the next attempt. -/
def withNextAttempt (job : Job) : Job :=
  { job with attempts := job.attempts + 1, processingStartedAt := none }

/-- The copy with the beginning of the message. -/
def withError (job : Job) (message : String) : Job :=
  { job with lastError := some (String.ofList (message.toList.take maxJobErrorLength)) }

/-- The copy that goes onto the failed list. -/
def withFailedAt (job : Job) (failedAt : String) : Job := { job with failedAt := some failedAt }

end Job

/-! ## Reading back -/

theorem lookup_optionalMember_of_ne {name other : String} (different : other ≠ name)
    (value : Option String) : (optionalMember name value).lookup other = none := by
  have fails : (other == name) = false := beq_false_of_ne different
  cases value with
  | none => rfl
  | some text => rw [optionalMember, List.lookup_cons, fails]; rfl

theorem lookup_optionalMember (name : String) (value : Option String) :
    (optionalMember name value).lookup name = value.map .string := by
  cases value with
  | none => rfl
  | some text => rw [optionalMember, List.lookup_cons, beq_self_eq_true]; rfl

/-- An optional field is read as it has been written. -/
theorem optionalText_of_lookup {data : List (String × Value)} {name : String}
    {value : Option String} (found : data.lookup name = value.map .string) :
    optionalText data name = .ok value := by
  rw [optionalText, found]
  cases value <;> rfl

theorem ofData_data (job : Job) : Job.ofData job.data = .ok job := by
  have lookups : ∀ name : String,
      name ≠ "id" → name ≠ "type" → name ≠ "payload" → name ≠ "attempts" →
      job.data.lookup name = ((optionalMember "request_id" job.requestId).lookup name).or
        (((optionalMember "last_error" job.lastError).lookup name).or
          (((optionalMember "failed_at" job.failedAt).lookup name).or
            ((optionalMember "processing_started_at" job.processingStartedAt).lookup name))) := by
    intro name notId notType notPayload notAttempts
    simp [Job.data, List.lookup_append, List.lookup_cons, beq_false_of_ne notId,
      beq_false_of_ne notType, beq_false_of_ne notPayload, beq_false_of_ne notAttempts]
  have requestId : optionalText job.data "request_id" = .ok job.requestId := by
    apply optionalText_of_lookup
    simp [lookups, lookup_optionalMember, lookup_optionalMember_of_ne]
  have lastError : optionalText job.data "last_error" = .ok job.lastError := by
    apply optionalText_of_lookup
    simp [lookups, lookup_optionalMember, lookup_optionalMember_of_ne]
  have failedAt : optionalText job.data "failed_at" = .ok job.failedAt := by
    apply optionalText_of_lookup
    simp [lookups, lookup_optionalMember, lookup_optionalMember_of_ne]
  have processingStartedAt :
      optionalText job.data "processing_started_at" = .ok job.processingStartedAt := by
    apply optionalText_of_lookup
    simp [lookups, lookup_optionalMember, lookup_optionalMember_of_ne]
  have whole : asPayload (.object job.payload.members) = .ok job.payload :=
    dif_pos job.payload.distinct
  simp only [Job.ofData, requestId, lastError, failedAt, processingStartedAt]
  change (asPayload (.object job.payload.members) >>= _) = _
  rw [whole]
  rfl

theorem names_data (job : Job) :
    (job.data.map Prod.fst).Sublist ["id", "type", "payload", "attempts", "request_id",
      "last_error", "failed_at", "processing_started_at"] := by
  have one : ∀ (name : String) (value : Option String),
      ((optionalMember name value).map Prod.fst).Sublist [name] := by
    intro name value
    cases value with
    | none => exact List.nil_sublist _
    | some text => exact List.Sublist.refl _
  rw [Job.data, List.map_append, List.map_append, List.map_append, List.map_append]
  exact ((((List.Sublist.refl ["id", "type", "payload", "attempts"]).append (one _ _)).append
    (one _ _)).append (one _ _)).append (one _ _)

theorem membersDistinct_append (members more : List (String × Value)) :
    membersDistinct (members ++ more) = (membersDistinct members && membersDistinct more) := by
  induction members with
  | nil => rfl
  | cons member members ih =>
      rw [List.cons_append, membersDistinct, membersDistinct, ih, Bool.and_assoc]

theorem distinct_data (job : Job) : (Value.object job.data).distinct = true := by
  have one : ∀ (name : String) (value : Option String),
      membersDistinct (optionalMember name value) = true := by
    intro name value
    cases value <;> rfl
  have inner := job.payload.distinct
  have names := (names_data job).nodup (by decide)
  have members : membersDistinct job.data = true := by
    simp only [Job.data, membersDistinct_append, one, Bool.and_true]
    simp only [membersDistinct, Value.distinct] at inner ⊢
    simpa using inner
  rw [Value.distinct, members, Bool.and_true]
  exact decide_eq_true names

/-- **A stored job is read back.** -/
theorem fromJson_toJson (job : Job) : Job.fromJson job.toJson = .ok job := by
  rw [Job.fromJson, Job.toJson, loads_dumps (distinct_data job)]
  exact ofData_data job

theorem toJson_injective : Function.Injective Job.toJson := by
  intro job other same
  have read := fromJson_toJson job
  rw [same, fromJson_toJson] at read
  exact (Except.ok.inj read).symm

/-- **The stored text of a job is the job.**  It reads back as the job with all its optional
fields, whatever its payload, and two jobs never have one text: a worker that removes the text
of the job in its hands removes no other job. -/
theorem job_texts_are_faithful :
    (∀ job : Job, Job.fromJson job.toJson = .ok job) ∧
      ∀ job other : Job, job.toJson = other.toJson ↔ job = other :=
  ⟨fromJson_toJson, fun _ _ => toJson_injective.eq_iff⟩

end AppointmentVoice.Queue
