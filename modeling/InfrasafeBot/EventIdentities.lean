import InfrasafeBot.WorkflowRuns

/-! The identities of the outbox across its kinds of events: `_deterministic_event_id` on what the
emitters and the two reconciliations queue. -/

set_option autoImplicit false

namespace InfrasafeBot.WebhookSender

open Library RequestWorkflow WorkflowRuns

inductive ContractEvent where
  | buildingCreated
  | buildingUpdated
  | buildingDeleted
  | requestCreated
  | requestStatusChanged
  | requestReconcile

def ContractEvent.text : ContractEvent → String
  | .buildingCreated => "building.created"
  | .buildingUpdated => "building.updated"
  | .buildingDeleted => "building.deleted"
  | .requestCreated => "request.created"
  | .requestStatusChanged => statusChangedEvent
  | .requestReconcile => requestReconcileEvent

/-- The nonce of a run of a reconciliation, the hexadecimal digits of a UUID. -/
structure RepairRun where
  text : String
  filled : text ≠ ""
  plain : ':' ∉ text.toList

theorem RepairRun.eq_of_text {run other : RepairRun} (same : run.text.toList = other.text.toList) :
    run = other := by
  cases run
  cases other
  cases String.toList_inj.mp same
  rfl

inductive Intent where
  | buildingCreated (id : Nat)
  | buildingReplayed (id : Nat) (run : RepairRun)
  | buildingUpdated (id buildingVersion : Nat)
  | buildingDeleted (id buildingVersion : Nat)
  | requestCreated (number : RequestNumber)
  | requestStatusChanged (number : RequestNumber) (statusVersion : Nat)
  | requestReconciled (number : RequestNumber) (run : RepairRun)

namespace Intent

def event : Intent → ContractEvent
  | buildingCreated _ => .buildingCreated
  | buildingReplayed _ _ => .buildingCreated
  | buildingUpdated _ _ => .buildingUpdated
  | buildingDeleted _ _ => .buildingDeleted
  | requestCreated _ => .requestCreated
  | requestStatusChanged _ _ => .requestStatusChanged
  | requestReconciled _ _ => .requestReconcile

def entityKey : Intent → String
  | buildingCreated id => toString id
  | buildingReplayed id _ => toString id
  | buildingUpdated id _ => toString id
  | buildingDeleted id _ => toString id
  | requestCreated number => number
  | requestStatusChanged number _ => number
  | requestReconciled number _ => number

def identity : Intent → Option EventIdentity
  | buildingCreated _ => none
  | buildingReplayed _ run => some ⟨none, some run.text⟩
  | buildingUpdated _ version => some ⟨some version, none⟩
  | buildingDeleted _ version => some ⟨some version, none⟩
  | requestCreated _ => none
  | requestStatusChanged _ version => some ⟨some version, none⟩
  | requestReconciled _ run => some ⟨none, some run.text⟩

def eventId (deployment : Deployment) (intent : Intent) : Except String String :=
  deterministicEventId deployment intent.event.text intent.entityKey intent.identity

def identityPart : Intent → List Char
  | buildingReplayed _ run => ':' :: ("repair".toList ++ ':' :: run.text.toList)
  | buildingUpdated _ version => ':' :: version.repr.toList
  | buildingDeleted _ version => ':' :: version.repr.toList
  | requestStatusChanged _ version => ':' :: version.repr.toList
  | requestReconciled _ run => ':' :: ("repair".toList ++ ':' :: run.text.toList)
  | _ => []

def nameText (source : String) (intent : Intent) : List Char :=
  source.toList ++ ':' :: (intent.event.text.toList ++ ':' :: (intent.entityKey.toList ++ intent.identityPart))

variable {deployment : Deployment} {first second : Intent} {source : String}

theorem eventId_named (deployment : Deployment) (intent : Intent) : ∃ name,
    intent.eventId deployment = .ok (deployment.uuid5 name) ∧
      name.toList = intent.nameText deployment.sourceInstance := by
  cases intent with
  | requestReconciled number run =>
    refine ⟨_, deterministicEventId_reconcile deployment number run.filled, ?_⟩
    simp [nameText, event, entityKey, identityPart, ContractEvent.text, toString]
  | _ =>
    refine ⟨_, rfl, ?_⟩
    simp [nameText, event, entityKey, identityPart, ContractEvent.text, toString]

theorem event_of_nameText (same : first.nameText source = second.nameText source) :
    first.event = second.event ∧
      first.entityKey.toList ++ first.identityPart = second.entityKey.toList ++ second.identityPart := by
  have plain (event : ContractEvent) : ':' ∉ event.text.toList := by
    cases event <;> decide
  obtain ⟨texts, tails⟩ := first_separator_unique (plain first.event) (plain second.event)
    (List.cons.inj (List.append_cancel_left same)).2
  refine ⟨?_, tails⟩
  have texts := String.toList_inj.mp texts
  generalize first.event = event at texts ⊢
  generalize second.event = other at texts ⊢
  cases event <;> cases other <;> first | rfl | exact absurd texts (by decide)

theorem nameText_injective (source : String) (same : first.nameText source = second.nameText source) : first = second := by
  obtain ⟨events, tails⟩ := event_of_nameText same
  cases first with
  | buildingCreated id =>
    cases second with
    | buildingCreated key =>
      rw [repr_toList_injective (List.append_cancel_right tails)]
    | buildingReplayed key run =>
      have held : ':' ∈ id.repr.toList ++ [] := by
        rw [show id.repr.toList ++ [] = _ from tails]
        exact List.mem_append_right _ List.mem_cons_self
      exact absurd (List.append_nil _ ▸ held) (not_mem_repr rfl id)
    | _ => cases events
  | buildingReplayed id run =>
    cases second with
    | buildingCreated key =>
      have held : ':' ∈ key.repr.toList ++ [] := by
        rw [← show _ = key.repr.toList ++ [] from tails]
        exact List.mem_append_right _ List.mem_cons_self
      exact absurd (List.append_nil _ ▸ held) (not_mem_repr rfl key)
    | buildingReplayed key other =>
      obtain ⟨ids, runs⟩ := first_separator_unique (not_mem_repr rfl id) (not_mem_repr rfl key) tails
      rw [repr_toList_injective ids, RepairRun.eq_of_text
        (List.cons.inj (List.append_cancel_left runs)).2]
    | _ => cases events
  | buildingUpdated id version =>
    cases second with
    | buildingUpdated key later =>
      obtain ⟨ids, versions⟩ := first_separator_unique (not_mem_repr rfl id) (not_mem_repr rfl key) tails
      rw [repr_toList_injective ids, repr_toList_injective versions]
    | _ => cases events
  | buildingDeleted id version =>
    cases second with
    | buildingDeleted key later =>
      obtain ⟨ids, versions⟩ := first_separator_unique (not_mem_repr rfl id) (not_mem_repr rfl key) tails
      rw [repr_toList_injective ids, repr_toList_injective versions]
    | _ => cases events
  | requestCreated number =>
    cases second with
    | requestCreated other => exact congrArg _ (String.toList_inj.mp (List.append_cancel_right tails))
    | _ => cases events
  | requestStatusChanged number version =>
    cases second with
    | requestStatusChanged other later =>
      obtain ⟨numbers, versions⟩ := last_separator_unique (not_mem_repr rfl version)
        (not_mem_repr rfl later) tails
      obtain rfl : number = other := String.toList_inj.mp numbers
      rw [repr_toList_injective versions]
    | _ => cases events
  | requestReconciled number run =>
    cases second with
    | requestReconciled other again =>
      have marked (number : RequestNumber) (run : RepairRun) :
          number.toList ++ (requestReconciled number run).identityPart =
            (number.toList ++ ':' :: "repair".toList) ++ ':' :: run.text.toList := by
        simp [identityPart]
      obtain ⟨numbers, runs⟩ := last_separator_unique run.plain again.plain
        ((marked number run).symm.trans ((show _ = _ from tails).trans (marked other again)))
      obtain rfl : number = other := String.toList_inj.mp (List.append_cancel_right numbers)
      rw [RepairRun.eq_of_text runs]
    | _ => cases events

/-- The intents are one logical event. -/
structure SameEvent (first second : Intent) : Prop where
  event : first.event = second.event
  entityKey : first.entityKey = second.entityKey
  identity : first.identity = second.identity

theorem SameEvent.eq (same : SameEvent first second) : first = second := by
  obtain ⟨events, keys, identities⟩ := same
  refine nameText_injective "" ?_
  have parts : ∀ intent : Intent, intent.identityPart = match intent.identity with
      | none => []
      | some ⟨_, some run⟩ => ':' :: ("repair".toList ++ ':' :: run.toList)
      | some ⟨some version, none⟩ => ':' :: version.repr.toList
      | some ⟨none, none⟩ => [] := by
    intro intent
    cases intent <;> rfl
  simp only [nameText, events, keys, parts, identities]

/-- The emitters' intents all get an identity, and share it only as one logical event. -/
theorem eventId_eq_iff (collisionFree : Function.Injective deployment.uuid5) (first second : Intent) :
    (∃ id, first.eventId deployment = .ok id) ∧
      (first.eventId deployment = second.eventId deployment ↔ SameEvent first second) := by
  obtain ⟨name, identified, text⟩ := eventId_named deployment first
  obtain ⟨other, identifiedToo, textToo⟩ := eventId_named deployment second
  refine ⟨⟨_, identified⟩, fun same => ?_, fun same => by rw [same.eq]⟩
  rw [identified, identifiedToo] at same
  have names : name = other := collisionFree (Except.ok.inj same)
  cases nameText_injective _ (text.symm.trans ((congrArg String.toList names).trans textToo))
  exact ⟨rfl, rfl, rfl⟩

theorem replay_apart : (∃ id, (buildingCreated 5).eventId sampleDeployment = .ok id) ∧
    ((buildingCreated 5).eventId sampleDeployment =
        (buildingReplayed 5 ⟨"0f", by decide, by decide⟩).eventId sampleDeployment ↔
      SameEvent (buildingCreated 5) (buildingReplayed 5 ⟨"0f", by decide, by decide⟩)) :=
  eventId_eq_iff sampleUuid5_injective _ _

end Intent

end InfrasafeBot.WebhookSender
