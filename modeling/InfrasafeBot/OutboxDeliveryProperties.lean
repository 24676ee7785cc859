import InfrasafeBot.Library.Machine
import InfrasafeBot.OutboxDelivery

/-! Safety of the outbox delivery: what a step does to a row, what the workers know
of the rows they have claimed, and what a whole run has left behind. -/

set_option autoImplicit false

namespace InfrasafeBot.OutboxDelivery

open Library Machine RequestWorkflow

variable {settings : Settings} {now : Moment} {row : WebhookOutbox}

section

variable {locked : List Nat} {outbox : Table WebhookOutbox.id}

theorem mem_claimRecords (listed : row ∈ claimRecords settings now locked outbox) :
    row ∈ outbox.rows ∧ claimable now (now - settings.leaseSeconds) row = true := by
  have selected := List.mem_of_mem_take listed
  rw [List.mem_insertionSort, List.mem_filter, Bool.and_eq_true] at selected
  exact ⟨selected.1, selected.2.1⟩

theorem claimRecords_nodup : ((claimRecords settings now locked outbox).map WebhookOutbox.id).Nodup := by
  have sorted : ((outbox.rows.filter fun row =>
      claimable now (now - settings.leaseSeconds) row && !locked.contains row.id).insertionSort
      fun left right => left.createdAt ≤ right.createdAt).map WebhookOutbox.id |>.Nodup := by
    rw [((List.perm_insertionSort _ _).map _).nodup_iff]
    exact outbox.unique.sublist (List.filter_sublist.map _)
  exact sorted.sublist ((List.take_sublist _ _).map _)

theorem mem_of_tokenFor {taken : List (WebhookOutbox × String)} {id : Nat} {token : String}
    (given : tokenFor taken id = some token) :
    ∃ record, (record, token) ∈ taken ∧ record.id = id := by
  obtain ⟨⟨record, drawn⟩, found, rfl⟩ := Option.map_eq_some_iff.mp given
  exact ⟨record, List.mem_of_find?_eq_some found, by simpa using List.find?_some found⟩

theorem tokenFor_of_mem {records : List WebhookOutbox} {tokens : List String} {token : String}
    (unique : (records.map WebhookOutbox.id).Nodup) (enough : records.length ≤ tokens.length)
    (listed : (row, token) ∈ records.zip tokens) :
    tokenFor (records.zip tokens) row.id = some token := by
  have distinct : ((records.zip tokens).map fun entry => entry.1.id).Nodup := by
    have firsts : (records.zip tokens).map (fun entry => entry.1.id) =
        records.map WebhookOutbox.id := by
      rw [← List.map_fst_zip enough, List.map_map]
      rw [List.map_fst_zip enough]
      rfl
    rw [firsts]
    exact unique
  let taken : Table (fun entry : WebhookOutbox × String => entry.1.id) := ⟨records.zip tokens, distinct⟩
  have found : taken.find? row.id = some (row, token) := taken.find?_of_mem listed
  exact congrArg (Option.map (·.2)) found

theorem freshTokens_spec {issued tokens : List String} {count : Nat}
    (fresh : freshTokens issued tokens count = true) :
    (∀ token ∈ tokens, token ∉ issued) ∧ count ≤ tokens.length := by
  simp only [freshTokens, Bool.and_eq_true, List.all_eq_true, Bool.not_eq_true',
    List.contains_eq_mem, decide_eq_false_iff_not, decide_eq_true_eq] at fresh
  exact ⟨fresh.1.2, fresh.2⟩

theorem claimPhase_cases (settings : Settings) (world : World) (worker : Nat) (now : Moment)
    (locked : List Nat) (tokens : List String) :
    claimPhase settings world worker now locked tokens = world ∨
    ((∀ token ∈ tokens, token ∉ world.issued) ∧
      (claimRecords settings now locked world.outbox).length ≤ tokens.length ∧
      claimPhase settings world worker now locked tokens =
        { outbox := world.outbox.update (fun _ => true)
            (claimTaken now ((claimRecords settings now locked world.outbox).zip tokens))
            fun row => claimTaken_id now _ row
          workers := Function.update world.workers worker
            (((claimRecords settings now locked world.outbox).zip tokens).map fun entry =>
              ⟨claimOf entry.2 entry.1, none⟩)
          issued := world.issued ++ tokens }) := by
  unfold claimPhase
  dsimp only
  split
  · next enabled =>
      simp only [Bool.and_eq_true] at enabled
      obtain ⟨unissued, enough⟩ := freshTokens_spec enabled.2
      exact .inr ⟨unissued, enough, rfl⟩
  · exact .inl rfl

end

theorem nextFinalized_mem {world : World} {worker : Nat} {claim : Claim} {outcome : Attempt}
    (first : nextFinalized world worker = some (claim, outcome)) :
    ⟨claim, some outcome⟩ ∈ world.workers worker := by
  unfold nextFinalized at first
  split at first
  · cases first
  · next delivery rest inHand =>
      split at first
      · obtain ⟨ended, known, same⟩ := Option.map_eq_some_iff.mp first
        cases same
        have itself : delivery = ⟨delivery.claim, some outcome⟩ := by rw [← known]
        rw [inHand, ← itself]
        exact List.mem_cons_self
      · cases first

def confirmedFailure : Attempt → Bool
  | .raised _ => false
  | .answered http => !(sendWebhook http).success

/-- The input finalizes record `id` with a confirmed failure, and the record still
belongs to the claim. -/
def failureApplied (id : Nat) (world : World) : Input → Bool
  | .finalize worker _ =>
    match nextFinalized world worker with
    | some (claim, outcome) =>
      claim.id = id && confirmedFailure outcome && decide (0 < world.outbox.rowcount (holds claim))
    | none => false
  | _ => false

inductive RowStep (settings : Settings) (world : World) : Input → WebhookOutbox → WebhookOutbox → Prop where
  | kept {input : Input} {row : WebhookOutbox}
      (spared : failureApplied row.id world input = false) :
      RowStep settings world input row row
  | claimed {worker : Nat} {now : Moment} {locked : List Nat} {tokens : List String}
      {row : WebhookOutbox} {token : String}
      (ready : claimable now (now - settings.leaseSeconds) row = true)
      (fresh : token ∉ world.issued)
      (drawn : token ∈ (next settings world (.claim worker now locked tokens)).issued) :
      RowStep settings world (.claim worker now locked tokens) row (claimRow now token row)
  | finalized {worker : Nat} {now : Moment} {claim : Claim} {outcome : Attempt}
      {row : WebhookOutbox} (first : nextFinalized world worker = some (claim, outcome))
      (held : holds claim row = true) :
      RowStep settings world (.finalize worker now) row
        (finalizedRow settings now claim outcome row)

variable {world : World} {input : Input} {id : Nat} {reached : WebhookOutbox}

theorem holds_iff {claim : Claim} : holds claim row = true ↔
    row.id = claim.id ∧ row.claimToken = some claim.token ∧ row.status = .inFlight := by
  simp [holds, and_assoc]

theorem applied_iff {claim : Claim} (found : world.outbox.find? claim.id = some row) :
    0 < world.outbox.rowcount (holds claim) ↔ holds claim row = true := by
  unfold Table.rowcount
  rw [List.countP_pos_iff]
  constructor
  · intro hit
    obtain ⟨other, stored, held⟩ := hit
    have same : other = row := by
      refine Table.eq_of_key stored (Table.mem_of_find? found) ?_
      rw [(holds_iff.mp held).1, Table.key_of_find? found]
    exact same ▸ held
  · intro held
    exact ⟨row, Table.mem_of_find? found, held⟩

theorem row_step_claim {worker : Nat} {now : Moment} {locked : List Nat} {tokens : List String}
    (found : world.outbox.find? id = some row) :
    ∃ reached, (next settings world (.claim worker now locked tokens)).outbox.find? id = some reached ∧
      RowStep settings world (.claim worker now locked tokens) row reached := by
  rcases claimPhase_cases settings world worker now locked tokens with
    same | ⟨unissued, _, changed⟩
  · exact ⟨row, by rw [next, same, found], .kept rfl⟩
  · refine ⟨claimTaken now ((claimRecords settings now locked world.outbox).zip tokens) row, ?_, ?_⟩
    · rw [next, changed, Table.find?_update, found]
      rfl
    · unfold claimTaken
      split
      · next token given =>
          obtain ⟨record, listed, same⟩ := mem_of_tokenFor given
          obtain ⟨inRecords, inTokens⟩ := List.of_mem_zip listed
          obtain ⟨stored, ready⟩ := mem_claimRecords inRecords
          have itself : record = row := Table.eq_of_key stored (Table.mem_of_find? found) same
          refine .claimed (itself ▸ ready) (unissued token inTokens) ?_
          rw [next, changed]
          exact List.mem_append_right _ inTokens
      · exact .kept rfl

theorem row_step_finalize {worker : Nat} {now : Moment}
    (found : world.outbox.find? id = some row) :
    ∃ reached, (next settings world (.finalize worker now)).outbox.find? id = some reached ∧
      RowStep settings world (.finalize worker now) row reached := by
  have identified : row.id = id := Table.key_of_find? found
  simp only [next, finalizePhase]
  cases first : nextFinalized world worker with
  | none => exact ⟨row, found, .kept (by simp [failureApplied, first])⟩
  | some finalized =>
    obtain ⟨claim, outcome⟩ := finalized
    simp only [finalize, Table.find?_update, found, Option.map_some]
    cases held : holds claim row with
    | true => exact ⟨_, rfl, .finalized first held⟩
    | false =>
      refine ⟨row, rfl, .kept ?_⟩
      simp only [failureApplied, first]
      by_cases same : claim.id = row.id
      · have claimed : world.outbox.find? claim.id = some row := by
          rw [same, identified, found]
        simp [applied_iff claimed, held]
      · simp [same]

theorem row_step (settings : Settings) (input : Input)
    (found : world.outbox.find? id = some row) :
    ∃ reached, (next settings world input).outbox.find? id = some reached ∧
      RowStep settings world input row reached := by
  cases input with
  | enqueue clock event endpoint payload =>
    refine ⟨row, ?_, .kept rfl⟩
    simp only [next, WebhookSender.insertOutbox]
    split
    · exact found
    · rw [Table.find?_insert, found, Option.some_or]
  | claim worker now locked tokens => exact row_step_claim found
  | deliver | crash => exact ⟨row, found, .kept rfl⟩
  | finalize worker now => exact row_step_finalize found

structure Queued (row : WebhookOutbox) : Prop where
  status : row.status = .pending
  attempts : row.attempts = 0
  token : row.claimToken = none

theorem queued_of_missing (input : Input) (missing : world.outbox.find? id = none)
    (found : (next settings world input).outbox.find? id = some reached) : Queued reached := by
  cases input with
  | enqueue clock event endpoint payload =>
    simp only [next, WebhookSender.insertOutbox] at found
    split at found
    · cases missing.symm.trans found
    · rw [Table.find?_insert, missing, Option.none_or] at found
      split at found
      · cases found
        exact ⟨rfl, rfl, rfl⟩
      · cases found
  | claim worker now locked tokens =>
    rcases claimPhase_cases settings world worker now locked tokens with same | ⟨_, _, changed⟩
    · rw [next, same] at found
      cases missing.symm.trans found
    · rw [next, changed, Table.find?_update, missing] at found
      cases found
  | deliver | crash => cases missing.symm.trans found
  | finalize worker now =>
    simp only [next, finalizePhase] at found
    split at found
    · cases missing.symm.trans found
    · rw [finalize, Table.find?_update, missing] at found
      cases found

theorem row_origin (input : Input)
    (found : (next settings world input).outbox.find? id = some reached) :
    (∃ row, world.outbox.find? id = some row ∧ RowStep settings world input row reached) ∨
      Queued reached := by
  cases before : world.outbox.find? id with
  | some row =>
    obtain ⟨moved, at_, step⟩ := row_step settings input before
    cases at_.symm.trans found
    exact .inl ⟨row, rfl, step⟩
  | none => exact .inr (queued_of_missing input before found)

structure SameMessage (row later : WebhookOutbox) : Prop where
  id : later.id = row.id
  eventId : later.eventId = row.eventId
  event : later.event = row.event
  endpoint : later.endpoint = row.endpoint
  payload : later.payload = row.payload
  createdAt : later.createdAt = row.createdAt

theorem SameMessage.refl (row : WebhookOutbox) : SameMessage row row := ⟨rfl, rfl, rfl, rfl, rfl, rfl⟩

theorem SameMessage.trans {first second third : WebhookOutbox}
    (start : SameMessage first second) (rest : SameMessage second third) :
    SameMessage first third where
  id := rest.id.trans start.id
  eventId := rest.eventId.trans start.eventId
  event := rest.event.trans start.event
  endpoint := rest.endpoint.trans start.endpoint
  payload := rest.payload.trans start.payload
  createdAt := rest.createdAt.trans start.createdAt

variable {claim : Claim}

theorem sendWebhook_success {http : HttpResult} (sent : (sendWebhook http).success = true) :
    ∃ header, http = .response 200 header := by
  cases http with
  | response code header =>
    by_cases accepted : code = 200
    · exact ⟨header, by rw [accepted]⟩
    · simp only [sendWebhook, if_neg accepted] at sent
      split at sent
      · cases sent
      · split at sent
        · cases sent
        · split at sent
          · cases sent
          · split at sent
            · cases sent
            · cases sent
  | timeout | requestError => cases sent

inductive FinalizedRow (settings : Settings) (claim : Claim) (row : WebhookOutbox) :
    Attempt → WebhookOutbox → Prop where
  | returned {message : String} {reached : WebhookOutbox} (status : reached.status = .pending)
      (attempts : reached.attempts = row.attempts) :
      FinalizedRow settings claim row (.raised message) reached
  | sent {http : HttpResult} {reached : WebhookOutbox}
      (success : (sendWebhook http).success = true) (status : reached.status = .sent)
      (attempts : reached.attempts = row.attempts) :
      FinalizedRow settings claim row (.answered http) reached
  | failed {http : HttpResult} {reached : WebhookOutbox}
      (failure : (sendWebhook http).success = false)
      (last : (sendWebhook http).retryable = false ∨ settings.maxRetries ≤ claim.attempts + 1)
      (status : reached.status = .failed) (attempts : reached.attempts = claim.attempts + 1) :
      FinalizedRow settings claim row (.answered http) reached
  | retried {http : HttpResult} {reached : WebhookOutbox}
      (failure : (sendWebhook http).success = false)
      (allowed : claim.attempts + 1 < settings.maxRetries)
      (status : reached.status = .pending) (attempts : reached.attempts = claim.attempts + 1) :
      FinalizedRow settings claim row (.answered http) reached

theorem finalizedRow_cases (settings : Settings) (now : Moment) (claim : Claim)
    (outcome : Attempt) (row : WebhookOutbox) :
    FinalizedRow settings claim row outcome (finalizedRow settings now claim outcome row) := by
  cases outcome with
  | raised message => exact .returned rfl rfl
  | answered http =>
    simp only [finalizedRow]
    cases success : (sendWebhook http).success with
    | true => exact .sent success rfl rfl
    | false =>
      by_cases last : (sendWebhook http).retryable = false ∨ settings.maxRetries ≤ claim.attempts + 1
      · have final : (!(sendWebhook http).retryable ||
            decide (settings.maxRetries ≤ claim.attempts + 1)) = true := by
          simpa using last
        simp only [final, if_true]
        exact .failed success last rfl rfl
      · obtain ⟨_, allowed⟩ := not_or.mp last
        have again : (!(sendWebhook http).retryable ||
            decide (settings.maxRetries ≤ claim.attempts + 1)) = false := by
          simpa using last
        simp only [again]
        exact .retried success (Nat.lt_of_not_le allowed) rfl rfl

theorem finalizedRow_message (outcome : Attempt) :
    SameMessage row (finalizedRow settings now claim outcome row) := by
  unfold finalizedRow
  split
  · exact ⟨rfl, rfl, rfl, rfl, rfl, rfl⟩
  · dsimp only
    split
    · exact ⟨rfl, rfl, rfl, rfl, rfl, rfl⟩
    · split
      · exact ⟨rfl, rfl, rfl, rfl, rfl, rfl⟩
      · exact ⟨rfl, rfl, rfl, rfl, rfl, rfl⟩

theorem finalizedRow_released (outcome : Attempt) :
    (finalizedRow settings now claim outcome row).claimToken = none ∧
      (finalizedRow settings now claim outcome row).status ≠ .inFlight := by
  unfold finalizedRow
  split
  · exact ⟨rfl, nofun⟩
  · dsimp only
    split
    · exact ⟨rfl, nofun⟩
    · split
      · exact ⟨rfl, nofun⟩
      · exact ⟨rfl, nofun⟩

variable {worker : Nat}

section

theorem RowStep.message (step : RowStep settings world input row reached) : SameMessage row reached := by
  cases step with
  | kept spared => exact .refl row
  | claimed ready fresh drawn => exact ⟨rfl, rfl, rfl, rfl, rfl, rfl⟩
  | finalized first held => exact finalizedRow_message _

variable {delivery : Delivery}

theorem claimable_open {leaseCutoff : Moment} (ready : claimable now leaseCutoff row = true) :
    row.status ≠ .sent ∧ row.status ≠ .failed := by
  unfold claimable at ready
  constructor
  · intro closed
    simp [closed] at ready
  · intro closed
    simp [closed] at ready

theorem RowStep.final (step : RowStep settings world input row reached)
    (closed : row.status = .sent ∨ row.status = .failed) : reached = row := by
  cases step with
  | kept spared => rfl
  | claimed ready fresh drawn =>
    obtain ⟨unsent, unfailed⟩ := claimable_open ready
    exact absurd closed (not_or.mpr ⟨unsent, unfailed⟩)
  | finalized first held =>
    obtain ⟨_, _, inFlight⟩ := holds_iff.mp held
    rw [inFlight] at closed
    rcases closed with sent | failed
    · cases sent
    · cases failed

/-- The input finalizes a claim that is in the worker's hands and that the row still
belongs to. -/
def ReleasedByHolder (world : World) (row : WebhookOutbox) (input : Input) : Prop :=
  ∃ worker now, input = .finalize worker now ∧
    ∃ delivery ∈ world.workers worker, delivery.claim.id = row.id ∧
      row.claimToken = some delivery.claim.token

theorem RowStep.released (step : RowStep settings world input row reached)
    (before : row.status = .inFlight) (after : reached.status ≠ .inFlight) :
    ReleasedByHolder world row input := by
  cases step with
  | kept spared => exact absurd before after
  | claimed ready fresh drawn => exact absurd rfl after
  | @finalized worker now claim outcome row first held =>
    obtain ⟨identified, current, _⟩ := holds_iff.mp held
    exact ⟨worker, now, rfl, _, nextFinalized_mem first, identified.symm, current⟩

inductive DeliveryOrigin (settings : Settings) (world : World) (worker : Nat) :
    Input → Delivery → Prop where
  | held {input : Input} {delivery : Delivery} (inHand : delivery ∈ world.workers worker) :
      DeliveryOrigin settings world worker input delivery
  | ended {claim : Claim} {attempt : Attempt} (inHand : ⟨claim, none⟩ ∈ world.workers worker) :
      DeliveryOrigin settings world worker (.deliver worker claim.id attempt)
        ⟨claim, some attempt⟩
  | claimed {input : Input} {claim : Claim} {row : WebhookOutbox}
      (fresh : claim.token ∉ world.issued)
      (drawn : claim.token ∈ (next settings world input).issued)
      (found : (next settings world input).outbox.find? claim.id = some row)
      (payload : row.payload = claim.payload) (attempts : row.attempts = claim.attempts) :
      DeliveryOrigin settings world worker input ⟨claim, none⟩

theorem mem_update {workers : Nat → List Delivery} {other : Nat} {deliveries : List Delivery}
    (inHand : delivery ∈ Function.update workers worker deliveries other) :
    other = worker ∧ delivery ∈ deliveries ∨ delivery ∈ workers other := by
  by_cases same : other = worker
  · subst same
    rw [Function.update_self] at inHand
    exact .inl ⟨rfl, inHand⟩
  · rw [Function.update_of_ne same] at inHand
    exact .inr inHand

theorem delivery_origin_claim {claimer : Nat} {locked : List Nat} {tokens : List String}
    (inHand : delivery ∈ (next settings world (.claim claimer now locked tokens)).workers worker) :
    DeliveryOrigin settings world worker (.claim claimer now locked tokens) delivery := by
  rcases claimPhase_cases settings world claimer now locked tokens with
    same | ⟨unissued, enough, changed⟩
  · rw [next, same] at inHand
    exact .held inHand
  · rw [next, changed] at inHand
    rcases mem_update inHand with ⟨rfl, listed⟩ | earlier
    · obtain ⟨⟨record, token⟩, taken, rfl⟩ := List.mem_map.mp listed
      obtain ⟨inRecords, inTokens⟩ := List.of_mem_zip taken
      have stored : world.outbox.find? record.id = some record :=
        Table.find?_of_mem (mem_claimRecords inRecords).1
      have given : tokenFor _ record.id = some token := tokenFor_of_mem claimRecords_nodup enough taken
      have drawn : token ∈
          (next settings world (.claim worker now locked tokens)).issued := by
        rw [next, changed]
        exact List.mem_append_right _ inTokens
      have found : (next settings world (.claim worker now locked tokens)).outbox.find?
          record.id = some (claimRow now token record) := by
        rw [next, changed, Table.find?_update, stored]
        simp [claimTaken, given]
      exact .claimed (unissued token inTokens) drawn found rfl rfl
    · exact .held earlier

theorem delivery_origin (inHand : delivery ∈ (next settings world input).workers worker) :
    DeliveryOrigin settings world worker input delivery := by
  cases input with
  | enqueue clock event endpoint payload => exact .held inHand
  | claim claimer now locked tokens => exact delivery_origin_claim inHand
  | deliver deliverer record attempt =>
    rcases mem_update inHand with ⟨rfl, listed⟩ | earlier
    · obtain ⟨before, held, same⟩ := List.mem_map.mp listed
      obtain ⟨claim, outcome⟩ := before
      simp only [Delivery.ended] at same
      split at same
      · next ending =>
          simp only [Bool.and_eq_true, decide_eq_true_eq, Option.isNone_iff_eq_none] at ending
          obtain ⟨rfl, rfl⟩ := ending
          cases same
          exact .ended held
      · cases same
        exact .held held
    · exact .held earlier
  | finalize finalizer now =>
    simp only [next, finalizePhase] at inHand
    split at inHand
    · exact .held inHand
    · rcases mem_update inHand with ⟨rfl, listed⟩ | earlier
      · exact .held (List.mem_of_mem_tail listed)
      · exact .held earlier
  | crash crashed =>
    rcases mem_update inHand with ⟨rfl, listed⟩ | earlier
    · cases listed
    · exact .held earlier

theorem issued_step (input : Input) : world.issued ⊆ (next settings world input).issued := by
  cases input with
  | enqueue | deliver | crash => exact List.Subset.refl _
  | claim worker now locked tokens =>
    simp only [next, claimPhase]
    split
    · exact List.subset_append_left _ _
    · exact List.Subset.refl _
  | finalize worker now =>
    simp only [next, finalizePhase]
    split
    · exact List.Subset.refl _
    · exact List.Subset.refl _

end

def Delivered (past : List (World × Input)) (claim : Claim) (http : HttpResult) : Prop :=
  ∃ entry ∈ past, ∃ worker, ⟨claim, none⟩ ∈ entry.1.workers worker ∧
    entry.2 = .deliver worker claim.id (.answered http)

def attemptsOf (outbox : Table WebhookOutbox.id) (id : Nat) : Nat :=
  ((outbox.find? id).map WebhookOutbox.attempts).getD 0

/-- Every attempt the row has used was allowed, and an open row has one left. -/
def WithinBudget (settings : Settings) (row : WebhookOutbox) : Prop :=
  row.attempts ≤ settings.maxRetries ∧
    (row.status ≠ .sent → row.status ≠ .failed → row.attempts < settings.maxRetries)

/-- What holds between the rows, the workers and the history at any time. -/
structure Sound (settings : Settings) (past : List (World × Input)) (world : World) : Prop where
  tokens : ∀ id row token, world.outbox.find? id = some row → row.claimToken = some token →
    token ∈ world.issued
  drawn : ∀ worker, ∀ delivery ∈ world.workers worker, delivery.claim.token ∈ world.issued
  matched : ∀ worker, ∀ delivery ∈ world.workers worker,
    ∃ row, world.outbox.find? delivery.claim.id = some row ∧
      row.payload = delivery.claim.payload ∧
      (row.claimToken = some delivery.claim.token → row.attempts = delivery.claim.attempts)
  answered : ∀ worker, ∀ delivery ∈ world.workers worker, ∀ http,
    delivery.outcome = some (.answered http) → Delivered past delivery.claim http
  budget : ∀ id row, world.outbox.find? id = some row → WithinBudget settings row
  counted : ∀ id, past.countP (fun taken => failureApplied id taken.1 taken.2) = attemptsOf world.outbox id
  sent : ∀ id row, world.outbox.find? id = some row → row.status = .sent →
    ∃ claim header, claim.id = id ∧ claim.payload = row.payload ∧
      Delivered past claim (.response 200 header)
  failed : ∀ id row, world.outbox.find? id = some row → row.status = .failed →
    ∃ claim http, claim.id = id ∧ claim.payload = row.payload ∧ Delivered past claim http ∧
      (sendWebhook http).success = false ∧
      ((sendWebhook http).retryable = false ∨ claim.attempts + 1 = settings.maxRetries)

section

variable {past : List (World × Input)}

variable {outcome : Attempt}

theorem Delivered.later {http : HttpResult} (delivered : Delivered past claim http)
    (entry : World × Input) : Delivered (past ++ [entry]) claim http := by
  obtain ⟨earlier, member, rest⟩ := delivered
  exact ⟨earlier, List.mem_append_left _ member, rest⟩

section

variable (sound : Sound settings past world)

include sound

theorem Sound.finalizing (first : nextFinalized world worker = some (claim, outcome))
    (found : world.outbox.find? id = some row) (held : holds claim row = true) :
    claim.id = id ∧ claim.payload = row.payload ∧ row.attempts = claim.attempts ∧
      row.attempts < settings.maxRetries ∧
      ∀ http, outcome = .answered http → Delivered past claim http := by
  obtain ⟨identified, current, inFlight⟩ := holds_iff.mp held
  have inHand := nextFinalized_mem first
  have same : claim.id = id := identified.symm.trans (Table.key_of_find? found)
  obtain ⟨stored, matched, payload, attempts⟩ := sound.matched worker _ inHand
  cases (same ▸ matched).symm.trans found
  refine ⟨same, payload.symm, attempts current, ?_, ?_⟩
  · refine (sound.budget id row found).2 ?_ ?_
    · rw [inFlight]
      exact nofun
    · rw [inFlight]
      exact nofun
  · intro http answered
    exact sound.answered worker _ inHand http (congrArg some answered)

theorem Sound.tokens_step (input : Input) (id : Nat) (reached : WebhookOutbox) (token : String)
    (found : (next settings world input).outbox.find? id = some reached)
    (current : reached.claimToken = some token) :
    token ∈ (next settings world input).issued := by
  rcases row_origin input found with ⟨row, before, step⟩ | queued
  · cases step with
    | kept spared => exact issued_step input (sound.tokens id _ token before current)
    | claimed ready fresh drawn =>
      cases current
      exact drawn
    | finalized first held =>
      rw [(finalizedRow_released _).1] at current
      cases current
  · rw [queued.token] at current
    cases current

theorem Sound.drawn_step (input : Input) (worker : Nat) (delivery : Delivery)
    (inHand : delivery ∈ (next settings world input).workers worker) :
    delivery.claim.token ∈ (next settings world input).issued := by
  cases delivery_origin inHand with
  | held earlier => exact issued_step _ (sound.drawn worker _ earlier)
  | ended earlier => exact issued_step _ (sound.drawn worker ⟨_, none⟩ earlier)
  | claimed fresh drawn found payload attempts => exact drawn

theorem Sound.matched_held (input : Input) {outcome : Option Attempt}
    (inHand : ⟨claim, outcome⟩ ∈ world.workers worker) :
    ∃ row, (next settings world input).outbox.find? claim.id = some row ∧
      row.payload = claim.payload ∧
      (row.claimToken = some claim.token → row.attempts = claim.attempts) := by
  obtain ⟨row, found, payload, attempts⟩ := sound.matched worker _ inHand
  obtain ⟨reached, foundNext, step⟩ := row_step settings input found
  refine ⟨reached, foundNext, step.message.payload.trans payload, ?_⟩
  intro current
  cases step with
  | kept spared => exact attempts current
  | claimed ready fresh drawn =>
    cases current
    exact absurd (sound.drawn worker _ inHand) fresh
  | finalized first held =>
    rw [(finalizedRow_released _).1] at current
    cases current

theorem Sound.matched_step (input : Input) (worker : Nat) (delivery : Delivery)
    (inHand : delivery ∈ (next settings world input).workers worker) :
    ∃ row, (next settings world input).outbox.find? delivery.claim.id = some row ∧
      row.payload = delivery.claim.payload ∧
      (row.claimToken = some delivery.claim.token → row.attempts = delivery.claim.attempts) := by
  cases delivery_origin inHand with
  | held earlier => exact sound.matched_held input earlier
  | ended earlier => exact sound.matched_held _ earlier
  | claimed fresh drawn found payload attempts => exact ⟨_, found, payload, fun _ => attempts⟩

theorem Sound.answered_step (input : Input) (worker : Nat) (delivery : Delivery)
    (inHand : delivery ∈ (next settings world input).workers worker) (http : HttpResult)
    (answered : delivery.outcome = some (.answered http)) :
    Delivered (past ++ [(world, input)]) delivery.claim http := by
  cases delivery_origin inHand with
  | held earlier => exact (sound.answered worker delivery earlier http answered).later _
  | ended earlier =>
    cases answered
    exact ⟨_, List.mem_append_right _ (List.mem_singleton_self _), worker, earlier, rfl⟩
  | claimed fresh drawn found payload attempts => cases answered

theorem Sound.budget_step (allowed : 1 ≤ settings.maxRetries) (input : Input) (id : Nat)
    (reached : WebhookOutbox) (found : (next settings world input).outbox.find? id = some reached) :
    WithinBudget settings reached := by
  rcases row_origin input found with ⟨row, before, step⟩ | queued
  · obtain ⟨bounded, spare⟩ := sound.budget id row before
    cases step with
    | kept spared => exact ⟨bounded, spare⟩
    | claimed ready fresh drawn =>
      obtain ⟨unsent, unfailed⟩ := claimable_open ready
      exact ⟨bounded, fun _ _ => spare unsent unfailed⟩
    | @finalized worker now claim outcome row first held =>
      obtain ⟨_, _, same, left, _⟩ := sound.finalizing first before held
      cases finalizedRow_cases settings now claim outcome row with
      | returned status attempts =>
        exact ⟨by rw [attempts]; exact bounded, fun _ _ => by rw [attempts]; exact left⟩
      | sent success status attempts =>
        exact ⟨by rw [attempts]; exact bounded, fun unsent => absurd status unsent⟩
      | failed failure last status attempts => exact ⟨by omega, fun _ unfailed => absurd status unfailed⟩
      | retried failure more status attempts => exact ⟨by omega, fun _ _ => by omega⟩
  · rw [WithinBudget, queued.attempts]
    exact ⟨Nat.zero_le _, fun _ _ => allowed⟩

end

theorem failureApplied_finalize {now : Moment}
    (first : nextFinalized world worker = some (claim, outcome))
    (found : world.outbox.find? id = some row) (held : holds claim row = true) :
    failureApplied id world (.finalize worker now) = confirmedFailure outcome := by
  have same : claim.id = id := (holds_iff.mp held).1.symm.trans (Table.key_of_find? found)
  subst same
  simp [failureApplied, first, (applied_iff found).mpr held]

theorem failureApplied_missing (input : Input) (missing : world.outbox.find? id = none) :
    failureApplied id world input = false := by
  cases input with
  | finalize worker now =>
    simp only [failureApplied]
    split
    · next claim outcome first =>
        by_cases same : claim.id = id
        · have none : ¬ 0 < world.outbox.rowcount (holds claim) := by
            intro hit
            obtain ⟨row, stored, held⟩ := List.countP_pos_iff.mp hit
            have found := Table.find?_of_mem stored
            rw [(holds_iff.mp held).1, same, missing] at found
            cases found
          simp [none]
        · simp [same]
    · rfl
  | enqueue | claim | deliver | crash => rfl

section

variable (sound : Sound settings past world)

include sound

theorem Sound.attempts_step (input : Input) (id : Nat) :
    attemptsOf (next settings world input).outbox id =
      attemptsOf world.outbox id + if failureApplied id world input then 1 else 0 := by
  unfold attemptsOf
  cases before : world.outbox.find? id with
  | some row =>
    have identified : row.id = id := Table.key_of_find? before
    obtain ⟨reached, found, step⟩ := row_step settings input before
    rw [found]
    cases step with
    | kept spared => simp [← identified, spared]
    | claimed ready fresh drawn => simp [failureApplied, claimRow]
    | @finalized worker now claim outcome row first held =>
      obtain ⟨_, _, same, _, _⟩ := sound.finalizing first before held
      rw [failureApplied_finalize first before held]
      cases finalizedRow_cases settings now claim outcome row with
      | returned status attempts => simp [confirmedFailure, attempts]
      | sent success status attempts => simp [confirmedFailure, success, attempts]
      | failed failure last status attempts => simp [confirmedFailure, failure, attempts, same]
      | retried failure more status attempts => simp [confirmedFailure, failure, attempts, same]
  | none =>
    rw [failureApplied_missing input before]
    cases found : (next settings world input).outbox.find? id with
    | none => rfl
    | some reached =>
      rcases row_origin input found with ⟨row, earlier, _⟩ | queued
      · rw [before] at earlier
        cases earlier
      · simp [queued.attempts]

theorem Sound.counted_step (input : Input) (id : Nat) :
    (past ++ [(world, input)]).countP (fun taken => failureApplied id taken.1 taken.2) =
      attemptsOf (next settings world input).outbox id := by
  rw [List.countP_append, List.countP_singleton, sound.counted, sound.attempts_step]

theorem Sound.sent_step (input : Input) (id : Nat) (reached : WebhookOutbox)
    (found : (next settings world input).outbox.find? id = some reached)
    (sent : reached.status = .sent) :
    ∃ claim header, claim.id = id ∧ claim.payload = reached.payload ∧
      Delivered (past ++ [(world, input)]) claim (.response 200 header) := by
  rcases row_origin input found with ⟨row, before, step⟩ | queued
  · cases step with
    | kept spared =>
      obtain ⟨claim, header, same, payload, delivered⟩ := sound.sent id _ before sent
      exact ⟨claim, header, same, payload, delivered.later _⟩
    | claimed ready fresh drawn => cases sent
    | @finalized worker now claim outcome row first held =>
      obtain ⟨same, payload, _, _, answered⟩ := sound.finalizing first before held
      rw [(finalizedRow_message outcome).payload]
      cases finalizedRow_cases settings now claim outcome row with
      | returned status attempts | failed failure last status attempts => cases status.symm.trans sent
      | retried failure more status attempts => cases status.symm.trans sent
      | sent success status attempts =>
        obtain ⟨header, accepted⟩ := sendWebhook_success success
        have delivered := answered _ rfl
        rw [accepted] at delivered
        exact ⟨claim, header, same, payload, delivered.later _⟩
  · cases queued.status.symm.trans sent

theorem Sound.failed_step (input : Input) (id : Nat) (reached : WebhookOutbox)
    (found : (next settings world input).outbox.find? id = some reached)
    (failed : reached.status = .failed) :
    ∃ claim http, claim.id = id ∧ claim.payload = reached.payload ∧
      Delivered (past ++ [(world, input)]) claim http ∧ (sendWebhook http).success = false ∧
      ((sendWebhook http).retryable = false ∨ claim.attempts + 1 = settings.maxRetries) := by
  rcases row_origin input found with ⟨row, before, step⟩ | queued
  · cases step with
    | kept spared =>
      obtain ⟨claim, http, same, payload, delivered, ended⟩ := sound.failed id _ before failed
      exact ⟨claim, http, same, payload, delivered.later _, ended⟩
    | claimed ready fresh drawn => cases failed
    | @finalized worker now claim outcome row first held =>
      obtain ⟨same, payload, used, left, answered⟩ := sound.finalizing first before held
      rw [(finalizedRow_message outcome).payload]
      cases finalizedRow_cases settings now claim outcome row with
      | returned status attempts | sent success status attempts => cases status.symm.trans failed
      | retried failure more status attempts => cases status.symm.trans failed
      | failed failure last status attempts =>
        refine ⟨claim, _, same, payload, (answered _ rfl).later _, failure, ?_⟩
        rcases last with permanent | exhausted
        · exact .inl permanent
        · exact .inr (by omega)
  · cases queued.status.symm.trans failed

theorem Sound.step (allowed : 1 ≤ settings.maxRetries) (input : Input) :
    Sound settings (past ++ [(world, input)]) (next settings world input) where
  tokens := sound.tokens_step input
  drawn := sound.drawn_step input
  matched := sound.matched_step input
  answered := sound.answered_step input
  budget := sound.budget_step allowed input
  counted := sound.counted_step input
  sent := sound.sent_step input
  failed := sound.failed_step input

end

end

structure Initial (world : World) : Prop where
  idle : ∀ worker, world.workers worker = []
  queued : ∀ id row, world.outbox.find? id = some row → Queued row

section

variable {start : World}

theorem Initial.sound (initial : Initial start) (allowed : 1 ≤ settings.maxRetries) :
    Sound settings [] start where
  tokens := by
    intro id row token found current
    rw [(initial.queued id row found).token] at current
    cases current
  drawn := by
    intro worker delivery inHand
    rw [initial.idle worker] at inHand
    cases inHand
  matched := by
    intro worker delivery inHand
    rw [initial.idle worker] at inHand
    cases inHand
  answered := by
    intro worker delivery inHand
    rw [initial.idle worker] at inHand
    cases inHand
  budget := by
    intro id row found
    rw [WithinBudget, (initial.queued id row found).attempts]
    exact ⟨Nat.zero_le _, fun _ _ => allowed⟩
  counted := by
    intro id
    unfold attemptsOf
    cases found : start.outbox.find? id with
    | none => rfl
    | some row => simp [(initial.queued id row found).attempts]
  sent := by
    intro id row found sent
    cases (initial.queued id row found).status.symm.trans sent
  failed := by
    intro id row found failed
    cases (initial.queued id row found).status.symm.trans failed

theorem sound_reached (initial : Initial start) (allowed : 1 ≤ settings.maxRetries)
    (inputs : List Input) :
    Sound settings (trace (next settings) start inputs) (run (next settings) start inputs) :=
  history_induction (next settings) (Sound settings) (initial.sound allowed)
    (fun _ _ input sound => sound.step allowed input) inputs

theorem row_run {world : World} {id : Nat} {row : WebhookOutbox}
    (found : world.outbox.find? id = some row) (later : List Input) :
    ∃ kept, (run (next settings) world later).outbox.find? id = some kept ∧
      SameMessage row kept ∧ (row.status = .sent ∨ row.status = .failed → kept = row) := by
  induction later generalizing world row with
  | nil => exact ⟨row, found, .refl row, fun _ => rfl⟩
  | cons input rest ih =>
    obtain ⟨reached, foundNext, step⟩ := row_step settings input found
    obtain ⟨kept, foundLater, message, final⟩ := ih foundNext
    refine ⟨kept, foundLater, step.message.trans message, ?_⟩
    intro closed
    have same : reached = row := step.final closed
    rw [final (same ▸ closed), same]

/-- Every record the workers reach is kept, belongs to one claim at a time, counts
its confirmed failures, and is closed only by the result of a delivery. -/
theorem outbox_delivery (settings : Settings) (start : World) (inputs : List Input) (id : Nat)
    (row : WebhookOutbox) (initial : Initial start) (allowed : 1 ≤ settings.maxRetries)
    (found : (run (next settings) start inputs).outbox.find? id = some row) :
    (∀ later, ∃ kept,
      (run (next settings) start (inputs ++ later)).outbox.find? id = some kept ∧
      SameMessage row kept ∧ (row.status = .sent ∨ row.status = .failed → kept = row)) ∧
    (∀ input moved,
      (run (next settings) start (inputs ++ [input])).outbox.find? id = some moved →
      row.status = .inFlight → moved.status ≠ .inFlight →
      ReleasedByHolder (run (next settings) start inputs) row input) ∧
    row.attempts ≤ settings.maxRetries ∧
    row.attempts = occurrences (next settings) (failureApplied id) start inputs ∧
    (row.status = .sent → ∃ claim header, claim.id = id ∧ claim.payload = row.payload ∧
      Delivered (trace (next settings) start inputs) claim (.response 200 header)) ∧
    (row.status = .failed → ∃ claim http, claim.id = id ∧ claim.payload = row.payload ∧
      Delivered (trace (next settings) start inputs) claim http ∧
      (sendWebhook http).success = false ∧
      ((sendWebhook http).retryable = false ∨
        claim.attempts + 1 = settings.maxRetries)) := by
  have sound := sound_reached initial allowed inputs
  refine ⟨?_, ?_, (sound.budget id row found).1, ?_, sound.sent id row found, sound.failed id row found⟩
  · intro later
    rw [run_append]
    exact row_run found later
  · intro input moved foundNext before after
    rw [run_concat] at foundNext
    obtain ⟨reached, same, step⟩ := row_step settings input found
    cases same.symm.trans foundNext
    exact step.released before after
  · have counted := sound.counted id
    rw [attemptsOf, found] at counted
    exact counted.symm

def samplePayload : WebhookPayload :=
  ⟨"6c403697-2ab3-56a2-8be5-9f40c5a81ca5", "request.status_changed", "250101-001", .new, .inProgress⟩

/-- A first worker claims a record and stalls, a second one takes it over when the
lease has expired and delivers it; the late failure of the first is discarded. -/
def sampleTakeover : List Input :=
  [.enqueue 0 "request.status_changed" "/api/webhooks/uk/request" samplePayload,
    .claim 0 10 [] ["first"],
    .claim 1 300 [] ["second"],
    .deliver 0 1 (.answered (.response 503 none)),
    .finalize 0 310,
    .deliver 1 1 (.answered (.response 200 none)),
    .finalize 1 320]

def sampleSettings : Settings := ⟨true, "http://host.docker.internal:3000", "secret", "", false, 3, 10, 200⟩

theorem initial_empty : Initial ⟨.empty, fun _ => [], []⟩ where
  idle := fun _ => rfl
  queued := by
    intro id row found
    cases found

def sampleSent : WebhookOutbox where
  id := 1
  eventId := samplePayload.eventId
  event := "request.status_changed"
  endpoint := "/api/webhooks/uk/request"
  payload := samplePayload
  status := .sent
  attempts := 0
  lastError := none
  retryAfter := none
  createdAt := 0
  sentAt := some 320
  claimToken := none
  claimedAt := none
  claimCount := 2

theorem sampleTakeover_sends :
    (run (next sampleSettings) ⟨.empty, fun _ => [], []⟩ sampleTakeover).outbox.find? 1 =
      some sampleSent := by
  decide +kernel

theorem outbox_delivery_after_takeover :
    occurrences (next sampleSettings) (failureApplied 1) ⟨.empty, fun _ => [], []⟩
      sampleTakeover = 0 ∧
    ∃ claim header, claim.id = 1 ∧ claim.payload = samplePayload ∧
      Delivered (trace (next sampleSettings) ⟨.empty, fun _ => [], []⟩ sampleTakeover) claim
        (.response 200 header) := by
  obtain ⟨_, _, _, counted, sent, _⟩ :=
    outbox_delivery sampleSettings ⟨.empty, fun _ => [], []⟩ sampleTakeover 1 sampleSent
      initial_empty (by decide) sampleTakeover_sends
  exact ⟨counted.symm, sent rfl⟩

end

end InfrasafeBot.OutboxDelivery
