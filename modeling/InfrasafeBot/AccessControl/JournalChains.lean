import InfrasafeBot.AccessControl.Journals

/-! The journals are chains of hashes after every run, and what an alteration of their columns
does to these. -/

set_option autoImplicit false

namespace InfrasafeBot.AccessControl.Journals

open Library Library.Json Library.HashChain

variable {n : Nat} {hash : String → String}

theorem lastHash_entries {rows : List (Stored Row String)} :
    lastHash none (entries rows) = rows.getLast?.map (·.rowHash) := by
  induction rows using List.reverseRecOn with
  | nil => rfl
  | append_singleton rows last _ =>
    rw [entries_append, lastHash_append, List.getLast?_concat]
    rfl

theorem journal_unbroken (events : List (HashChain.Event Operation n)) (table : Table) :
    Unbroken (nextHash hash) payloadOf (journal hash events table)
      ((Machine.run (next hash) State.initial events).serials table) :=
  run_unbroken events disciplined table

/-- However the transactions come, wait for each other and fail, every journal is in the order of
its numbers, has its own rows, and every row has the hash of the one before it and its own from
that and its columns. -/
theorem journals_chained (events : List (HashChain.Event Operation n)) (table : Table) :
    Ordered (journal hash events table) ∧
      (∀ stored ∈ journal hash events table, tableOf stored.row = table) ∧
      ∀ before stored after, journal hash events table = before ++ stored :: after →
        stored.prevHash = before.getLast?.map (·.rowHash) ∧
          stored.rowHash =
            hash (stored.prevHash.getD "" ++ canonicalJson (payloadOf stored.row)) := by
  have unbroken : Unbroken (nextHash hash) payloadOf (journal hash events table) _ :=
    journal_unbroken events table
  refine ⟨unbroken.numbered.ordered, run_filed events table, ?_⟩
  intro before stored after split
  have linked := (chained_iff (entries (journal hash events table)) none).mp unbroken.chained
    (entries before) stored.toEntry (entries after) (by rw [split, entries_append]; rfl)
  rwa [lastHash_entries] at linked

/-- Columns are changed, and the numbers and hashes of the rows left. -/
def Alters (rows altered : List (Stored Row String)) : Prop :=
  List.Forall₂ (fun stored now => now.id = stored.id ∧ now.prevHash = stored.prevHash ∧
    now.rowHash = stored.rowHash ∧ tableOf now.row = tableOf stored.row) rows altered

/-- The hashes are those that are recomputed from the columns. -/
def Verifies (hash : String → String) (rows : List (Stored Row String)) : Prop :=
  Chained (rowDigest (nextHash hash) payloadOf) none (entries rows)

/-- The decisions differ at most in columns that their payloads leave out. -/
def SameHashedDecision (stored now : DecisionColumns) : Prop :=
  match stored.supersedesDecisionId with
  | none =>
    now = { stored with
      confidence := now.confidence
      reviewDeadlineAt := now.reviewDeadlineAt
      resolvedByUserId := now.resolvedByUserId
      resolvedAt := now.resolvedAt }
  | some _ =>
    now = { stored with
      confidence := now.confidence
      matchedVehicleId := now.matchedVehicleId
      matchedPassId := now.matchedPassId
      reviewDeadlineAt := now.reviewDeadlineAt
      resolvedByUserId := now.resolvedByUserId
      resolvedAt := now.resolvedAt }

/-- The rows differ at most in columns that no payload has. -/
def SameHashed : Row → Row → Prop
  | .accessDecisions stored, .accessDecisions now => SameHashedDecision stored now
  | .accessEvents stored, .accessEvents now => now = { stored with occurredAt := now.occurredAt }
  | .manualOpenings stored, .manualOpenings now => now = stored
  | .accessAuditLogs stored, .accessAuditLogs now => now = stored
  | _, _ => False

theorem uuid_text_inj {left right : Uuid} : left.text = right.text ↔ left = right := by
  constructor
  · intro same
    cases left
    cases right
    cases same
    rfl
  · rintro rfl
    rfl

variable {left right : Option Uuid} {now stored : DecisionColumns}

@[simp]
theorem str_inj : str left = str right ↔ left = right := by
  have named : ∀ id : Uuid, id.text ≠ "None" := fun id same => by
    have length := id.sized
    rw [same] at length
    revert length
    decide
  cases left with
  | none =>
    cases right with
    | none => exact iff_of_true rfl rfl
    | some id => exact iff_of_false (named id).symm nofun
  | some first =>
    cases right with
    | none => exact iff_of_false (named first) nofun
    | some second => rw [Option.some.injEq, ← uuid_text_inj]; rfl

@[simp]
theorem commandId_inj : left.map (·.text) = right.map (·.text) ↔ left = right :=
  (Option.map_injective fun _ _ => uuid_text_inj.mp).eq_iff

theorem canonicalJson_inj {Columns : Type} (payload : Columns → Payload)
    (keys : ∀ first second, (payload first).map Prod.fst = (payload second).map Prod.fst)
    (distinct : ∀ columns, ((payload columns).map Prod.fst).Nodup) {left right : Columns} :
    canonicalJson (payload left) = canonicalJson (payload right) ↔
      payload left = payload right :=
  ⟨eq_of_dumpsMembers_eq (keys left right) (distinct left), congrArg canonicalJson⟩

theorem canonicalJson_initial (first : stored.supersedesDecisionId = none)
    (also : now.supersedesDecisionId = none) :
    canonicalJson (initialPayload now) = canonicalJson (initialPayload stored) ↔
      SameHashedDecision stored now := by
  rw [canonicalJson_inj initialPayload (fun _ _ => rfl) fun _ => by simp [initialPayload]]
  obtain ⟨⟩ := stored
  obtain ⟨⟩ := now
  cases first
  cases also
  simp [initialPayload, SameHashedDecision]

theorem canonicalJson_transition {before after : Nat}
    (first : stored.supersedesDecisionId = some before)
    (also : now.supersedesDecisionId = some after) :
    canonicalJson (transitionPayload now after) = canonicalJson (transitionPayload stored before) ↔
      SameHashedDecision stored now := by
  let payload : DecisionColumns × Nat → Payload := fun columns => transitionPayload columns.1 columns.2
  have texts : canonicalJson (payload (now, after)) = canonicalJson (payload (stored, before)) ↔
      payload (now, after) = payload (stored, before) :=
    canonicalJson_inj payload (fun _ _ => rfl) fun _ => by simp [payload, transitionPayload]
  refine texts.trans ?_
  obtain ⟨⟩ := stored
  obtain ⟨⟩ := now
  cases first
  cases also
  simp [payload, transitionPayload, SameHashedDecision]

theorem supersedes_of_same (same : SameHashedDecision stored now) :
    now.supersedesDecisionId = stored.supersedesDecisionId := by
  unfold SameHashedDecision at same
  split at same
  · rw [same]
  · rw [same]

theorem decision_of_same (same : SameHashedDecision stored now) : now.decision = stored.decision := by
  unfold SameHashedDecision at same
  split at same
  · rw [same]
  · rw [same]

theorem canonicalJson_forms (first second : DecisionColumns) (superseded : Nat) :
    canonicalJson (initialPayload first) ≠ canonicalJson (transitionPayload second superseded) :=
  fun same => nomatch length_of_dumpsMembers_eq same

theorem canonicalJson_decision (stored now : DecisionColumns) :
    canonicalJson (payloadOf (.accessDecisions now)) = canonicalJson (payloadOf (.accessDecisions stored)) ↔
      SameHashedDecision stored now := by
  cases first : stored.supersedesDecisionId with
  | none =>
    cases also : now.supersedesDecisionId with
    | none =>
      simp only [payloadOf, first, also]
      exact canonicalJson_initial first also
    | some after =>
      simp only [payloadOf, first, also]
      refine iff_of_false (canonicalJson_forms stored now after).symm fun kept => ?_
      have form := supersedes_of_same kept
      rw [first, also] at form
      cases form
  | some before =>
    cases also : now.supersedesDecisionId with
    | none =>
      simp only [payloadOf, first, also]
      refine iff_of_false (canonicalJson_forms now stored before) fun kept => ?_
      have form := supersedes_of_same kept
      rw [first, also] at form
      cases form
    | some after =>
      simp only [payloadOf, first, also]
      exact canonicalJson_transition first also

theorem canonicalJson_accessEvent (stored now : AccessEventColumns) :
    canonicalJson (accessEventPayload now) = canonicalJson (accessEventPayload stored) ↔
      now = { stored with occurredAt := now.occurredAt } := by
  rw [canonicalJson_inj accessEventPayload (fun _ _ => rfl) fun _ => by simp [accessEventPayload]]
  obtain ⟨⟩ := stored
  obtain ⟨⟩ := now
  simp [accessEventPayload]

theorem canonicalJson_manualOpening (stored now : ManualOpeningColumns) :
    canonicalJson (manualOpeningPayload now) = canonicalJson (manualOpeningPayload stored) ↔
      now = stored := by
  rw [canonicalJson_inj manualOpeningPayload (fun _ _ => rfl) fun _ => by
    simp [manualOpeningPayload]]
  obtain ⟨⟩ := stored
  obtain ⟨⟩ := now
  simp [manualOpeningPayload]

theorem canonicalJson_audit (stored now : AuditColumns) :
    canonicalJson (auditPayload now) = canonicalJson (auditPayload stored) ↔ now = stored := by
  rw [canonicalJson_inj auditPayload (fun _ _ => rfl) fun _ => by simp [auditPayload]]
  obtain ⟨⟩ := stored
  obtain ⟨⟩ := now
  simp [auditPayload]

theorem canonicalJson_iff {stored now : Row} (same : tableOf now = tableOf stored) :
    canonicalJson (payloadOf now) = canonicalJson (payloadOf stored) ↔ SameHashed stored now := by
  cases stored with
  | accessDecisions stored =>
    cases now with
    | accessDecisions now => exact canonicalJson_decision stored now
    | accessEvents | manualOpenings | accessAuditLogs => cases same
  | accessEvents stored =>
    cases now with
    | accessEvents now => exact canonicalJson_accessEvent stored now
    | accessDecisions | manualOpenings | accessAuditLogs => cases same
  | manualOpenings stored =>
    cases now with
    | manualOpenings now => exact canonicalJson_manualOpening stored now
    | accessDecisions | accessEvents | accessAuditLogs => cases same
  | accessAuditLogs stored =>
    cases now with
    | accessAuditLogs now => exact canonicalJson_audit stored now
    | accessDecisions | accessEvents | manualOpenings => cases same

section

variable {rows altered : List (Stored Row String)}

theorem rowDigest_iff (injective : Function.Injective hash) {stored now : Row}
    (same : tableOf now = tableOf stored) (prev : Option String) :
    rowDigest (nextHash hash) payloadOf prev now = rowDigest (nextHash hash) payloadOf prev stored ↔
      SameHashed stored now := by
  rw [← canonicalJson_iff same]
  exact injective.eq_iff.trans (String.append_right_inj _)

theorem altered_entries (alters : Alters rows altered) : Altered (entries rows) (entries altered) := by
  induction alters with
  | nil => exact .nil
  | cons same _ ih => exact .cons ⟨same.2.1, same.2.2.1⟩ ih

theorem verifies_iff (injective : Function.Injective hash) (verifies : Verifies hash rows)
    (alters : Alters rows altered) :
    Verifies hash altered ↔
      List.Forall₂ (fun stored now => SameHashed stored.row now.row) rows altered := by
  rw [Verifies, chained_altered_iff verifies (altered_entries alters)]
  clear verifies
  induction alters with
  | nil => exact iff_of_true .nil .nil
  | cons same _ ih =>
    rw [entries, entries, List.map_cons, List.map_cons, List.forall₂_cons, List.forall₂_cons]
    exact and_congr (rowDigest_iff injective same.2.2.2 _) ih

theorem length_eq_of_alters (alters : Alters rows altered) : rows.length = altered.length :=
  List.Forall₂.length_eq alters

/-- With a hash that has no collisions, an alteration of the columns of a journal is noticed
exactly if it reaches a column that is hashed. -/
theorem alteration_noticed_iff (injective : Function.Injective hash)
    (events : List (HashChain.Event Operation n)) (table : Table)
    (alters : Alters (journal hash events table) altered) :
    ¬ Verifies hash altered ↔
      ∃ pair ∈ (journal hash events table).zip altered, ¬ SameHashed pair.1.row pair.2.row := by
  have verifies : Verifies hash (journal hash events table) := (journal_unbroken events table).chained
  rw [verifies_iff injective verifies alters, List.forall₂_iff_zip]
  constructor
  · intro differs
    by_contra none
    refine differs ⟨length_eq_of_alters alters, fun listed => ?_⟩
    by_contra other
    exact none ⟨_, listed, other⟩
  · rintro ⟨pair, listed, other⟩ ⟨_, same⟩
    exact other (same listed)

end

def passage : Operation :=
  .ingest
    { controllerId := 1, eventId := "e-1", zoneId := some 1, gateId := some 1, barrierId := some 1,
      plateNumberOriginal := some "A123BC", direction := .entry, confidence := some 9000,
      capturedAt := 43200 }
    .connected (some "A123BC") (.of .deny (some .vehicleNotFound) none none)
    ⟨.deny, .denied, none⟩ ⟨"11111111-2222-4333-8444-555555555555", by decide⟩ 1 1 fun _ => none

def passageEvents : List (HashChain.Event Operation 1) := .call 0 passage :: List.replicate 6 (.step 0)

def rewritten (change : Row → Row) (table : Table) : List (Stored Row String) :=
  (journal id passageEvents table).map fun stored => { stored with row := change stored.row }

theorem alters_rewritten {change : Row → Row} {table : Table}
    (kept : ∀ row, tableOf (change row) = tableOf row) :
    Alters (journal id passageEvents table) (rewritten change table) := by
  unfold Alters rewritten
  rw [List.forall₂_map_right_iff, List.forall₂_same]
  exact fun stored _ => ⟨rfl, rfl, rfl, kept stored.row⟩

def granted : Row → Row
  | .accessDecisions columns => .accessDecisions { columns with decision := "allow" }
  | other => other

def delayed : Row → Row
  | .accessEvents columns => .accessEvents { columns with occurredAt := columns.occurredAt + 3600 }
  | other => other

theorem granted_noticed : ¬ Verifies id (rewritten granted .accessDecisions) := by
  have kept : ∀ row, tableOf (granted row) = tableOf row := fun row => by cases row <;> rfl
  obtain ⟨stored, only, columns, row, denied⟩ :
      ∃ stored, journal id passageEvents .accessDecisions = [stored] ∧
        ∃ columns, stored.row = .accessDecisions columns ∧ columns.decision = "deny" :=
    ⟨_, rfl, _, rfl, rfl⟩
  apply (alteration_noticed_iff Function.injective_id passageEvents .accessDecisions
    (alters_rewritten kept)).mpr
  refine ⟨(stored, { stored with row := granted stored.row }), ?_, ?_⟩
  · rw [rewritten, only]
    exact List.mem_singleton_self _
  · rw [row]
    intro same
    have decision : "allow" = "deny" := (decision_of_same same).trans denied
    revert decision
    decide

/-- The time of a passage is in no hash. -/
theorem delayed_unnoticed :
    Function.Injective (id : String → String) ∧
      Alters (journal id passageEvents .accessEvents) (rewritten delayed .accessEvents) ∧
      rewritten delayed .accessEvents ≠ journal id passageEvents .accessEvents ∧
      Verifies id (rewritten delayed .accessEvents) := by
  have kept : ∀ row, tableOf (delayed row) = tableOf row := fun row => by cases row <;> rfl
  obtain ⟨stored, only, columns, row⟩ :
      ∃ stored, journal id passageEvents .accessEvents = [stored] ∧
        ∃ columns, stored.row = .accessEvents columns := ⟨_, rfl, _, rfl⟩
  refine ⟨Function.injective_id, alters_rewritten kept, ?_, ?_⟩
  · intro same
    rw [rewritten, only, List.map_singleton, List.singleton_inj] at same
    have rows : delayed stored.row = stored.row := congrArg (·.row) same
    rw [row] at rows
    have times : columns.occurredAt + 3600 = columns.occurredAt :=
      congrArg AccessEventColumns.occurredAt (Row.accessEvents.inj rows)
    exact absurd (add_eq_left.mp times) (by decide)
  · have verifies : Verifies id (journal id passageEvents .accessEvents) :=
      (journal_unbroken passageEvents .accessEvents).chained
    rw [verifies_iff Function.injective_id verifies (alters_rewritten kept), rewritten, only]
    have same : SameHashed stored.row (delayed stored.row) := by
      rw [row, delayed, SameHashed]
    exact .cons same .nil

end InfrasafeBot.AccessControl.Journals
