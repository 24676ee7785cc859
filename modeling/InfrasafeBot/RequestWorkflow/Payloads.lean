import InfrasafeBot.RequestWorkflow.Types
import InfrasafeBot.Library.Computation

/-! Payload schemas per action (`utils/request_workflow/payloads.py`). -/

set_option autoImplicit false

namespace InfrasafeBot.RequestWorkflow

open Library

structure PayloadSchema where
  required : List (String × PyType)
  optional : List (String × PyType)
  nonEmpty : List String

namespace PayloadSchema

private def checkRequired (action : Action) (payload : Payload) (field : String × PyType) :
    Except WorkflowError Unit :=
  if !payload.has field.1 then .error (.payloadInvalid s!"{action.value}: missing required '{field.1}'")
  else if !(payload.get field.1).isInstance field.2 then
    .error (.payloadInvalid s!"{action.value}: '{field.1}' must be {field.2.name}")
  else .ok ()

private def checkNonEmpty (action : Action) (payload : Payload) (key : String) :
    Except WorkflowError Unit :=
  match payload.get key with
  | .str text =>
    if pyStrip text = "" then .error (.payloadInvalid s!"{action.value}: '{key}' must not be blank")
    else .ok ()
  | _ => .ok ()

private def checkKey (schema : PayloadSchema) (action : Action) (payload : Payload)
    (entry : String × PyValue) : Except WorkflowError Unit :=
  if !(schema.required.map (·.1) ++ schema.optional.map (·.1)).contains entry.1 then
    .error (.payloadInvalid s!"{action.value}: unexpected field '{entry.1}'")
  else
    match schema.optional.lookup entry.1 with
    | none => .ok ()
    | some type =>
      if !(payload.get entry.1).isNone && !(payload.get entry.1).isInstance type then
        .error (.payloadInvalid s!"{action.value}: '{entry.1}' must be {type.name}")
      else .ok ()

def validate (schema : PayloadSchema) (action : Action) (payload : Payload) :
    Except WorkflowError Unit := do
  forM schema.required (checkRequired action payload)
  forM schema.nonEmpty (checkNonEmpty action payload)
  forM payload (checkKey schema action payload)

end PayloadSchema

def payloadSchemas : Action → PayloadSchema
  | .systemDispatchAssign => ⟨[("executor_id", .int)], [], []⟩
  | .managerAssign => ⟨[("executor_id", .int)], [], []⟩
  | .assignGroup => ⟨[("group", .str)], [], ["group"]⟩
  | .executorPurchase => ⟨[("requested_materials", .str)], [], []⟩
  | .managerPurchase => ⟨[], [("requested_materials", .str)], []⟩
  | .managerPurchaseDone => ⟨[], [("manager_materials_comment", .str), ("requested_materials", .str)], []⟩
  | .clarifyRequest => ⟨[("question", .str)], [("notes", .str)], []⟩
  | .clarifyResolved => ⟨[], [], []⟩
  | .executorResume => ⟨[], [], []⟩
  | .executorClaim => ⟨[], [], []⟩
  | .systemAutoPromote => ⟨[("executor_id", .int)], [], []⟩
  | .executorComplete => ⟨[], [("completion_report", .str), ("completion_media", .list)], []⟩
  | .managerComplete => ⟨[], [("completion_report", .str), ("completion_media", .list)], []⟩
  | .managerConfirm => ⟨[], [("confirmation_notes", .str)], []⟩
  | .managerReturnToWork => ⟨[("reason", .str)], [], ["reason"]⟩
  | .applicantAccept => ⟨[("rating", .int)], [], []⟩
  | .applicantReturn => ⟨[("return_reason", .str)], [("return_media", .list)], []⟩
  | .managerForceAccept => ⟨[], [("reason", .str), ("confirmation_notes", .str)], []⟩
  | .cancel => ⟨[], [("reason", .str), ("notes", .str)], []⟩

namespace PayloadSchema

variable {action : Action} {payload : Payload} {schema : PayloadSchema}

/-- A payload is accepted when it has every required field, of its type, no blank text
where none may be, and no field outside the schema; an optional field may be null. -/
theorem validate_eq_ok_iff :
    schema.validate action payload = .ok () ↔
      (∀ field ∈ schema.required,
        payload.has field.1 = true ∧ (payload.get field.1).isInstance field.2 = true) ∧
      (∀ key ∈ schema.nonEmpty, ∀ text, payload.get key = .str text → pyStrip text ≠ "") ∧
      ∀ entry ∈ payload,
        entry.1 ∈ schema.required.map (·.1) ++ schema.optional.map (·.1) ∧
        ∀ type, schema.optional.lookup entry.1 = some type →
          (payload.get entry.1).isNone = true ∨ (payload.get entry.1).isInstance type = true := by
  unfold validate
  rw [check_bind_eq_ok_iff, check_bind_eq_ok_iff, forM_eq_ok_iff, forM_eq_ok_iff, forM_eq_ok_iff]
  refine and_congr (forall₂_congr fun field _ => ?_) (and_congr
    (forall₂_congr fun key _ => ?_) (forall₂_congr fun entry _ => ?_))
  · unfold checkRequired
    cases payload.has field.1 with
    | false => simp
    | true => cases (payload.get field.1).isInstance field.2 <;> simp
  · unfold checkNonEmpty
    cases payload.get key with
    | str text => by_cases empty : pyStrip text = "" <;> simp [empty]
    | _ => simp
  · unfold checkKey
    rw [List.contains_eq_mem]
    by_cases listed : entry.1 ∈ schema.required.map (·.1) ++ schema.optional.map (·.1)
    · cases schema.optional.lookup entry.1 with
      | none => simp [listed]
      | some type =>
        cases (payload.get entry.1).isNone with
        | true => simp [listed]
        | false => cases (payload.get entry.1).isInstance type <;> simp [listed]
    · simp [listed]

theorem required_of_validate (accepted : schema.validate action payload = .ok ()) :
    ∀ field ∈ schema.required,
      payload.has field.1 = true ∧ (payload.get field.1).isInstance field.2 = true :=
  (validate_eq_ok_iff.mp accepted).1

theorem known_of_validate (accepted : schema.validate action payload = .ok ()) {key : String}
    (outside : key ∉ schema.required.map (·.1) ++ schema.optional.map (·.1)) :
    payload.get key = .none := by
  have missing : payload.lookup key = none := by
    rw [List.lookup_eq_none_iff]
    intro entry member
    have known := ((validate_eq_ok_iff.mp accepted).2.2 entry member).1
    simp only [bne_iff_ne, ne_eq]
    intro same
    exact outside (same ▸ known)
  simp [Payload.get, missing]

/-- Where every field is optional, a payload is accepted when it has only such fields,
each null or of its type. -/
theorem validate_optional_iff (unrequired : schema.required = [])
    (blankable : schema.nonEmpty = []) :
    schema.validate action payload = .ok () ↔
      ∀ entry ∈ payload, ∃ type, schema.optional.lookup entry.1 = some type ∧
        ((payload.get entry.1).isNone = true ∨ (payload.get entry.1).isInstance type = true) := by
  rw [validate_eq_ok_iff, unrequired, blankable]
  simp only [List.not_mem_nil, false_imp_iff, implies_true, true_and, List.map_nil, List.nil_append]
  refine forall₂_congr fun entry _ => ?_
  have listed : entry.1 ∈ schema.optional.map (·.1) ↔
      ∃ type, schema.optional.lookup entry.1 = some type := by
    rw [← Option.isSome_iff_exists, List.lookup_isSome_iff]
    simp
  rw [listed]
  constructor
  · rintro ⟨⟨type, known⟩, typed⟩
    exact ⟨type, known, typed type known⟩
  · rintro ⟨type, known, typed⟩
    refine ⟨⟨type, known⟩, ?_⟩
    intro other again
    rw [known] at again
    cases again
    exact typed

end PayloadSchema

theorem executor_of_validate {action : Action} {payload : Payload}
    (assigns : (payloadSchemas action).required = [("executor_id", .int)])
    (accepted : (payloadSchemas action).validate action payload = .ok ()) :
    ∃ executor, (payload.get "executor_id").asInteger = some executor ∧
      (payload.get "executor_id").isNone = false := by
  have typed := (PayloadSchema.required_of_validate accepted ("executor_id", .int)
    (by rw [assigns]; exact List.mem_singleton_self _)).2
  obtain ⟨executor, stored⟩ := PyValue.asInteger_isSome_of_int typed
  exact ⟨executor, stored, PyValue.isNone_eq_false_of_instance typed⟩

end InfrasafeBot.RequestWorkflow
