import InfrasafeBot.Webhooks.InboundAlert

/-! The deliveries of an alert, repeated and concurrent. The row of the inbox is the outcome
of an event, and it is committed with the request; the nonce is not taken back where a delivery
fails, so a later one may be refused without an outcome. -/

set_option autoImplicit false

namespace InfrasafeBot.InboundAlert

open Library Library.Machine RequestWorkflow WebhookSender

variable {receiver : Receiver} {store : AlertStore} {stage other : AlertStage} {delivery : Delivery}
  {records : Records} {work : Option Creation} {eventId : EventId}

theorem performAlert_records (receiver : Receiver) (store : AlertStore) (stage : AlertStage) :
    (performAlert receiver store stage).1.records = store.records ∨
      ∃ delivery work, stage = .committing delivery work ∧
        (performAlert receiver store stage).1.records = store.records.commit delivery work := by
  cases stage with
  | committing delivery work => exact .inr ⟨delivery, work, rfl, rfl⟩
  | guarding | looking | creating | queueing | recording =>
    left
    simp only [performAlert]
    repeat' split
    all_goals rfl
  | resolving | identifying =>
    left
    simp only [performAlert]
    split
    · rfl
    · rfl
  | rereading | outside | idle | answered | raised => exact .inl rfl

theorem mem_commit_inbox {row : WebhookInbox} :
    row ∈ (records.commit delivery work).inbox.rows ↔
      row = delivery.inboxRow work ∨ row ∈ records.inbox.rows ∧ row.eventId ≠ delivery.eventId :=
  Table.mem_save

theorem mem_commit_requests {request : Request} :
    request ∈ (records.commit delivery work).requests.rows ↔
      (∃ creation ∈ work, request = creation.request) ∨
        request ∈ records.requests.rows ∧
          ∀ creation ∈ work, request.number ≠ creation.request.number := by
  cases work with
  | none => simp [Records.commit]
  | some creation => simp [Records.commit, Table.mem_save]

theorem mem_commit_outbox {event : OutboxEvent}
    (listed : event ∈ (records.commit delivery work).outbox.rows) :
    (∃ creation ∈ work, creation.event = some event) ∨ event ∈ records.outbox.rows := by
  cases work with
  | none => exact .inr listed
  | some creation =>
    cases queued : creation.event with
    | none =>
      simp only [Records.commit, Option.bind_some, queued, Option.toList_none, List.foldl_nil] at listed
      exact .inr listed
    | some own =>
      simp only [Records.commit, Option.bind_some, queued, Option.toList_some,
        List.foldl_cons, List.foldl_nil] at listed
      rcases Table.mem_save.mp listed with rfl | ⟨before, _⟩
      · exact .inl ⟨creation, rfl, queued⟩
      · exact .inr before

theorem find?_commit_inbox (apart : eventId ≠ delivery.eventId) :
    (records.commit delivery work).inbox.find? eventId = records.inbox.find? eventId :=
  Table.find?_save_of_ne apart

theorem known_commit (known : (records.inbox.find? eventId).isSome = true) :
    ((records.commit delivery work).inbox.find? eventId).isSome = true := by
  by_cases same : eventId = delivery.eventId
  · subst same
    change ((records.inbox.save (delivery.inboxRow work)).find?
      (delivery.inboxRow work).eventId).isSome = true
    rw [Table.find?_save_self]
    rfl
  · rwa [find?_commit_inbox same]

theorem known_performAlert (known : store.known eventId = true) :
    (performAlert receiver store stage).1.known eventId = true := by
  unfold AlertStore.known
  rcases performAlert_records receiver store stage with same | ⟨delivery, work, rfl, written⟩
  · rw [same]
    exact known
  · rw [written]
    exact known_commit known

/-- The request and the event of a delivery can be traced to its row, and are the only ones
of their keys. -/
structure Records.Traced (deployment : Deployment) (records : Records) : Prop where
  requested : ∀ request ∈ records.requests.rows, ∃ row ∈ records.inbox.rows,
    row.eventId = request.sourceEventId ∧ row.requestNumber = some request.number
  announced : ∀ event ∈ records.outbox.rows, ∃ row ∈ records.inbox.rows,
    row.eventId = event.data.sourceEventId ∧ row.requestNumber = some event.data.requestNumber
  identified : ∀ event ∈ records.outbox.rows,
    deterministicEventId deployment requestCreatedEvent event.data.requestNumber none = .ok event.eventId
  accepted : ∀ row ∈ records.inbox.rows, row.outcome = .accepted →
    ∃ request ∈ records.requests.rows,
      request.sourceEventId = row.eventId ∧ row.requestNumber = some request.number

/-- What a transaction has prepared for its commit. -/
structure Creation.Fits (deployment : Deployment) (records : Records) (eventId : EventId)
    (creation : Creation) : Prop where
  source : creation.request.sourceEventId = eventId
  fresh : records.requests.find? creation.request.number = none
  event : ∀ event, creation.event = some event → event.data = creation.request.created ∧
    deterministicEventId deployment requestCreatedEvent creation.request.number none = .ok event.eventId

def AlertStage.Relies (deployment : Deployment) (records : Records) : AlertStage → Prop
  | .creating delivery request _ => request.sourceEventId = delivery.eventId
  | .queueing delivery request =>
    request.sourceEventId = delivery.eventId ∧ records.requests.find? request.number = none
  | .recording delivery work => ∀ creation ∈ work, creation.Fits deployment records delivery.eventId
  | .committing delivery work =>
    records.inbox.find? delivery.eventId = none ∧
      ∀ creation ∈ work, creation.Fits deployment records delivery.eventId
  | .rereading delivery => (records.inbox.find? delivery.eventId).isSome = true
  | _ => True

variable {deployment : Deployment}

theorem Records.Traced.request_unique (traced : records.Traced deployment)
    {left right : Request} (listed : left ∈ records.requests.rows)
    (listedToo : right ∈ records.requests.rows)
    (same : left.sourceEventId = right.sourceEventId) : left = right := by
  obtain ⟨row, found, source, number⟩ := traced.requested left listed
  obtain ⟨other, foundToo, sourceToo, numberToo⟩ := traced.requested right listedToo
  obtain rfl := records.inbox.eq_of_key found foundToo (source.trans (same.trans sourceToo.symm))
  rw [number] at numberToo
  exact records.requests.eq_of_key listed listedToo (Option.some.inj numberToo)

theorem Records.Traced.event_unique (traced : records.Traced deployment)
    {left right : OutboxEvent} (listed : left ∈ records.outbox.rows)
    (listedToo : right ∈ records.outbox.rows)
    (same : left.data.sourceEventId = right.data.sourceEventId) : left = right := by
  obtain ⟨row, found, source, number⟩ := traced.announced left listed
  obtain ⟨other, foundToo, sourceToo, numberToo⟩ := traced.announced right listedToo
  obtain rfl := records.inbox.eq_of_key found foundToo (source.trans (same.trans sourceToo.symm))
  rw [number] at numberToo
  have identity := traced.identified left listed
  rw [Option.some.inj numberToo, traced.identified right listedToo] at identity
  exact records.outbox.eq_of_key listed listedToo (Except.ok.inj identity).symm

theorem kept_row {delivery : Delivery} {work : Option Creation} {row : WebhookInbox}
    (absent : records.inbox.find? delivery.eventId = none) (listed : row ∈ records.inbox.rows) :
    row ∈ (records.commit delivery work).inbox.rows := by
  refine mem_commit_inbox.mpr (.inr ⟨listed, fun same => ?_⟩)
  have found := Table.find?_of_mem listed
  rw [same, absent] at found
  cases found

theorem Records.Traced.commit (traced : records.Traced deployment) {delivery : Delivery}
    {work : Option Creation} (absent : records.inbox.find? delivery.eventId = none)
    (fits : ∀ creation ∈ work, creation.Fits deployment records delivery.eventId) :
    (records.commit delivery work).Traced deployment where
  requested := by
    intro request listed
    rcases mem_commit_requests.mp listed with ⟨creation, own, rfl⟩ | ⟨before, _⟩
    · obtain rfl := Option.mem_def.mp own
      exact ⟨delivery.inboxRow (some creation), mem_commit_inbox.mpr (.inl rfl),
        (fits creation rfl).source.symm, rfl⟩
    · obtain ⟨row, found, traces⟩ := traced.requested request before
      exact ⟨row, kept_row absent found, traces⟩
  announced := by
    intro event listed
    rcases mem_commit_outbox listed with ⟨creation, own, queued⟩ | before
    · obtain rfl := Option.mem_def.mp own
      obtain ⟨data, _⟩ := (fits creation rfl).event event queued
      refine ⟨delivery.inboxRow (some creation), mem_commit_inbox.mpr (.inl rfl), ?_, ?_⟩
      · rw [data]
        exact (fits creation rfl).source.symm
      · rw [data]
        rfl
    · obtain ⟨row, found, traces⟩ := traced.announced event before
      exact ⟨row, kept_row absent found, traces⟩
  identified := by
    intro event listed
    rcases mem_commit_outbox listed with ⟨creation, own, queued⟩ | before
    · obtain ⟨data, identity⟩ := (fits creation own).event event queued
      rw [data]
      exact identity
    · exact traced.identified event before
  accepted := by
    intro row listed outcome
    rcases mem_commit_inbox.mp listed with rfl | ⟨before, _⟩
    · cases work with
      | none => cases outcome
      | some creation =>
        exact ⟨creation.request, mem_commit_requests.mpr (.inl ⟨creation, rfl, rfl⟩),
          (fits creation rfl).source, rfl⟩
    · obtain ⟨request, found, traces⟩ := traced.accepted row before outcome
      refine ⟨request, mem_commit_requests.mpr (.inr ⟨found, fun creation own same => ?_⟩), traces⟩
      have known := Table.find?_of_mem found
      rw [same, (fits creation own).fresh] at known
      cases known

section

theorem performAlert_relies (relies : stage.Relies receiver.deployment store.records) :
    (performAlert receiver store stage).2.Relies receiver.deployment
      (performAlert receiver store stage).1.records := by
  cases stage with
  | idle | outside | committing | rereading | answered | raised => trivial
  | guarding delivery =>
    simp only [performAlert]
    repeat' split
    all_goals trivial
  | looking delivery replay =>
    simp only [performAlert]
    split
    · trivial
    · split
      · intro creation own
        cases own
      · split
        · trivial
        · trivial
  | resolving delivery alert =>
    simp only [performAlert]
    split
    · trivial
    · trivial
  | identifying delivery alert building =>
    simp only [performAlert]
    split
    · trivial
    · rfl
  | creating delivery request retry =>
    simp only [performAlert]
    split
    · next admitted =>
        refine ⟨relies, ?_⟩
        simp only [AlertStore.admits, Bool.and_eq_true, Option.isNone_iff_eq_none] at admitted
        exact admitted.1.1.1
    · split
      · trivial
      · exact relies
  | queueing delivery request =>
    obtain ⟨source, fresh⟩ := relies
    simp only [performAlert]
    split
    · trivial
    · intro creation own
      cases own
      exact ⟨source, fresh, fun event queued => by cases queued⟩
    · next event recorded =>
        have identity : event.data = request.created ∧
            deterministicEventId receiver.deployment requestCreatedEvent request.number none =
              .ok event.eventId := by
          unfold Request.record at recorded
          split at recorded
          · cases found : deterministicEventId receiver.deployment requestCreatedEvent
                request.number none with
            | error text =>
              rw [found] at recorded
              cases recorded
            | ok eventId =>
              rw [found] at recorded
              cases recorded
              exact ⟨rfl, rfl⟩
          · cases recorded
        split
        · intro creation own
          cases own
          exact ⟨source, fresh, fun event queued => by cases queued⟩
        · intro creation own
          cases own
          refine ⟨source, fresh, fun own queued => ?_⟩
          cases queued
          exact identity
  | recording delivery work =>
    simp only [performAlert]
    split
    · next known =>
        split
        · trivial
        · exact known
    · next unknown =>
        refine ⟨?_, relies⟩
        simpa [AlertStore.known] using unknown

theorem performAlert_traced (traced : store.records.Traced receiver.deployment)
    (relies : stage.Relies receiver.deployment store.records) :
    (performAlert receiver store stage).1.records.Traced receiver.deployment := by
  rcases performAlert_records receiver store stage with same | ⟨delivery, work, rfl, written⟩
  · rwa [same]
  · rw [written]
    exact traced.commit relies.1 relies.2

variable {creation : Creation}

theorem fresh_commit {number : RequestNumber} (fresh : store.records.requests.find? number = none)
    (apart : ∀ creation ∈ work, number ≠ creation.request.number) :
    (store.records.commit delivery work).requests.find? number = none := by
  cases work with
  | none => exact fresh
  | some creation => exact (Table.find?_save_of_ne (apart creation rfl)).trans fresh

theorem mem_locks_of_commit (own : creation ∈ work) :
    .request creation.request.number ∈ (AlertStage.committing delivery work).locks := by
  obtain rfl := Option.mem_def.mp own
  exact List.mem_cons_of_mem _ (List.mem_append_left _ List.mem_cons_self)

theorem Creation.Fits.commit {eventId : EventId}
    (fits : creation.Fits deployment store.records eventId)
    (apart : ∀ mine ∈ work, creation.request.number ≠ mine.request.number) :
    creation.Fits deployment (store.records.commit delivery work) eventId :=
  ⟨fits.source, fresh_commit fits.fresh apart, fits.event⟩

theorem AlertStage.Relies.others (relies : other.Relies deployment store.records)
    (apart : ∀ key ∈ stage.locks, key ∉ other.locks) :
    other.Relies deployment (performAlert receiver store stage).1.records := by
  rcases performAlert_records receiver store stage with same | ⟨delivery, work, rfl, written⟩
  · rwa [same]
  rw [written]
  cases other with
  | creating own request retry => exact relies
  | queueing own request =>
    refine ⟨relies.1, fresh_commit relies.2 fun creation mine same => ?_⟩
    exact apart _ (mem_locks_of_commit mine) (List.mem_singleton.mpr (congrArg _ same.symm))
  | recording own prepared =>
    intro creation mine
    refine (relies creation mine).commit fun writing held same => ?_
    obtain rfl := Option.mem_def.mp mine
    refine apart _ (mem_locks_of_commit held) ?_
    rw [← same]
    exact List.mem_append_left _ List.mem_cons_self
  | committing own prepared =>
    refine ⟨?_, fun creation mine => ?_⟩
    · refine (find?_commit_inbox fun same => ?_).trans relies.1
      exact apart (.inbox delivery.eventId) List.mem_cons_self
        (same ▸ List.mem_cons_self)
    · refine (relies.2 creation mine).commit fun writing held same => ?_
      refine apart _ (mem_locks_of_commit held) ?_
      rw [← same]
      exact mem_locks_of_commit mine
  | rereading own => exact known_commit relies
  | idle | outside | guarding | looking | resolving | identifying | answered | raised => trivial

end

theorem start_relies (deployment : Deployment) (records : Records) (call : AlertCall) :
    call.start.Relies deployment records := by
  cases call with
  | receive arrival =>
    cases arrival with
    | unconfigured | unsigned | malformed | delivered => trivial
  | surround surroundings => trivial

theorem alert_sound (receiver : Receiver) :
    (alertProgram receiver).Sound Program.Anytime Program.Regardless
      (fun store => store.records.Traced receiver.deployment)
      (fun store stage => stage.Relies receiver.deployment store.records) where
  idle := fun _ _ => trivial
  start := fun store call _ => start_relies receiver.deployment store.records call
  step := fun _ _ _ traced relies => ⟨performAlert_traced traced relies, performAlert_relies relies⟩
  others := fun _ _ _ _ _ _ relies _ apart _ => relies.others apart

def AlertStage.handles : AlertStage → Option EventId
  | .looking delivery false => some delivery.eventId
  | .resolving delivery _ => some delivery.eventId
  | .identifying delivery _ _ => some delivery.eventId
  | .creating delivery _ _ => some delivery.eventId
  | .queueing delivery _ => some delivery.eventId
  | .recording delivery _ => some delivery.eventId
  | .committing delivery _ => some delivery.eventId
  | _ => none

def AlertStage.refused : AlertStage → Option EventId
  | .looking delivery true => some delivery.eventId
  | _ => none

def AlertStore.refuses (store : AlertStore) : AlertStage → Option EventId
  | .guarding delivery =>
    if delivery.redis = .answers ∧ store.nonceLive delivery.eventId delivery.now = true then
      some delivery.eventId
    else none
  | _ => none

def AlertStore.abandons (receiver : Receiver) (store : AlertStore) : AlertStage → Bool
  | .looking delivery false =>
    !store.known delivery.eventId && requestCreatingEvents.contains delivery.payload.event &&
      delivery.payload.alert.isNone
  | .resolving _ alert => (resolveBuilding receiver store.surroundings.buildings alert.externalId).isNone
  | .identifying _ _ _ => (systemUserId receiver store.surroundings.users).isNone
  | .creating _ request retry => retry.isNone && !store.admits request
  | .queueing _ request =>
    match request.record receiver.deployment with
    | .error _ => true
    | .ok _ => false
  | _ => false

theorem performAlert_handles (handled : stage.handles = some eventId) :
    (performAlert receiver store stage).2.handles = some eventId ∨
      (performAlert receiver store stage).1.known eventId = true ∨
      store.abandons receiver stage = true := by
  cases stage with
  | looking delivery replay =>
    cases replay with
    | true => cases handled
    | false =>
      cases handled
      simp only [performAlert, Bool.or_false]
      split
      · next known => exact .inr (.inl known)
      · next unknown =>
          split
          · exact .inl rfl
          · next creating =>
              split
              · next refused =>
                  refine .inr (.inr ?_)
                  simp only [AlertStore.abandons, AlertStore.known, refused,
                    Option.isNone_none, Bool.and_true]
                  simp only [Bool.not_eq_true, Bool.not_eq_false'] at unknown creating
                  simp only [unknown, creating, Bool.not_false, Bool.and_self]
              · exact .inl rfl
  | resolving delivery alert =>
    cases handled
    simp only [performAlert]
    split
    · next unknown => exact .inr (.inr (by simp [AlertStore.abandons, unknown]))
    · exact .inl rfl
  | identifying delivery alert building =>
    cases handled
    simp only [performAlert]
    split
    · next missing => exact .inr (.inr (by simp [AlertStore.abandons, missing]))
    · exact .inl rfl
  | creating delivery request retry =>
    cases handled
    simp only [performAlert]
    split
    · exact .inl rfl
    · next refused =>
        cases retry with
        | none => exact .inr (.inr (by simp [AlertStore.abandons, refused]))
        | some number => exact .inl rfl
  | queueing delivery request =>
    cases handled
    simp only [performAlert]
    split
    · next text failed => exact .inr (.inr (by simp [AlertStore.abandons, failed]))
    · exact .inl rfl
    · split
      · exact .inl rfl
      · exact .inl rfl
  | recording delivery work =>
    cases handled
    simp only [performAlert]
    split
    · next known =>
        right; left
        split
        · exact known
        · exact known
    · exact .inl rfl
  | committing delivery work =>
    cases handled
    right; left
    change (((store.records.inbox.save (delivery.inboxRow work)).find?
      (delivery.inboxRow work).eventId)).isSome = true
    rw [Table.find?_save_self]
    rfl
  | idle | outside | guarding | rereading | answered | raised => cases handled

theorem performAlert_refused
    (refused : (performAlert receiver store stage).2.refused = some eventId) :
    store.refuses stage = some eventId := by
  cases stage with
  | guarding delivery =>
    cases outcome : delivery.redis with
    | answers =>
      cases live : store.nonceLive delivery.eventId delivery.now with
      | true =>
        simp only [performAlert, outcome, live, if_true] at refused
        simp only [AlertStore.refuses, outcome, live, and_self, if_true]
        exact refused
      | false =>
        simp only [performAlert, outcome, live] at refused
        cases refused
    | failsBefore =>
      simp only [performAlert, outcome] at refused
      cases refused
    | failsAfter =>
      simp only [performAlert, outcome] at refused
      split at refused
      · cases refused
      · cases refused
  | looking | creating | queueing | recording =>
    simp only [performAlert] at refused
    repeat' split at refused
    all_goals cases refused
  | resolving | identifying =>
    simp only [performAlert] at refused
    split at refused
    · cases refused
    · cases refused
  | committing | idle | outside | rereading | answered | raised => cases refused

theorem performAlert_duplicate {result : InboundResult}
    (relies : stage.Relies receiver.deployment store.records) (busy : stage.free = false)
    (answers : (performAlert receiver store stage).2 = .answered (some eventId) result)
    (status : result.status = 409) :
    stage.refused = some eventId ∨ (performAlert receiver store stage).1.known eventId = true := by
  cases stage with
  | looking delivery replay =>
    cases replay with
    | true =>
      simp only [performAlert, Bool.or_true, if_true] at answers
      cases answers
      exact .inl rfl
    | false =>
      simp only [performAlert, Bool.or_false] at answers ⊢
      split at answers
      · next known =>
          cases answers
          rw [if_pos known]
          exact .inr known
      · split at answers
        · cases answers
        · split at answers
          · cases answers
            cases status
          · cases answers
  | rereading delivery =>
    cases answers
    exact .inr relies
  | guarding | creating | queueing | recording =>
    simp only [performAlert] at answers
    repeat' split at answers
    all_goals cases answers
  | resolving | identifying =>
    simp only [performAlert] at answers
    split at answers
    · cases answers
      cases status
    · cases answers
  | committing delivery work =>
    cases work with
    | none | some =>
      cases answers
      cases status
  | outside surroundings => cases answers
  | idle | answered | raised => cases busy

theorem handles_of_free (free : stage.free = true) : stage.handles = none := by
  cases stage with
  | idle | answered | raised => rfl
  | _ => cases free

theorem handles_of_refused (refused : stage.refused = some eventId) : stage.handles = none := by
  cases stage with
  | looking delivery replay =>
    cases replay with
    | true => rfl
    | false => cases refused
  | _ => cases refused

theorem start_refused (call : AlertCall) : call.start.refused = none := by
  cases call with
  | receive arrival =>
    cases arrival with
    | unconfigured | unsigned | malformed | delivered => rfl
  | surround surroundings => rfl

section

variable {n : Nat}

abbrev AlertState (n : Nat) := Program.State AlertStore AlertStage n

abbrev AlertEvent (n : Nat) := Program.Event AlertCall n

/-- The event has no row, and nobody but the worker may still commit it. -/
def Orphaned (state : AlertState n) (worker : Fin n) (eventId : EventId) : Prop :=
  state.store.known eventId = false ∧ ∀ other, other ≠ worker → (state.workers other).handles ≠ some eventId

/-- A delivery of the event has been refused and not answered yet. -/
def Awaited (state : AlertState n) (eventId : EventId) : Prop :=
  ∃ waiting, (state.workers waiting).refused = some eventId

/-- No guard meets the nonce that a failed delivery has left behind, and no delivery fails
that a refused one counts on. -/
def Attended (receiver : Receiver) (state : AlertState n) : AlertEvent n → Prop
  | .call _ _ => True
  | .step worker =>
    (∀ eventId ∈ state.store.refuses (state.workers worker), ¬ Orphaned state worker eventId) ∧
      (state.store.abandons receiver (state.workers worker) = true →
        ∀ eventId ∈ (state.workers worker).handles, Awaited state eventId → ¬ Orphaned state worker eventId)
  | .fail worker =>
    ∀ eventId ∈ (state.workers worker).handles, Awaited state eventId → ¬ Orphaned state worker eventId

/-- The step answers a delivery of the event as a duplicate. -/
def AnswersDuplicate (receiver : Receiver) (state : AlertState n) (event : AlertEvent n)
    (eventId : EventId) : Prop :=
  ∃ worker result, event = .step worker ∧ (state.workers worker).free = false ∧
    (performAlert receiver state.store (state.workers worker)).2 =
      .answered (some eventId) result ∧ result.status = 409

/-- The event has its row, or is still being processed. -/
def InHand (state : AlertState n) (eventId : EventId) : Prop :=
  state.store.known eventId = true ∨ ∃ worker, (state.workers worker).handles = some eventId

/-- Whoever is refused is refused rightly. -/
def Covered (state : AlertState n) : Prop := ∀ eventId, Awaited state eventId → InHand state eventId

variable {state after : AlertState n} {event : AlertEvent n} {worker : Fin n}

theorem InHand.of_others (attended : ¬ Orphaned state worker eventId)
    (known : state.store.known eventId = true → after.store.known eventId = true)
    (same : ∀ other, other ≠ worker → after.workers other = state.workers other) :
    InHand after eventId := by
  cases row : state.store.known eventId with
  | true => exact .inl (known row)
  | false =>
    have busy : ∃ other, other ≠ worker ∧ (state.workers other).handles = some eventId := by
      by_contra nobody
      exact attended ⟨row, fun other different handled => nobody ⟨other, different, handled⟩⟩
    obtain ⟨other, different, handled⟩ := busy
    exact .inr ⟨other, by rwa [same other different]⟩

theorem InHand.of_worker (held : InHand state eventId)
    (known : state.store.known eventId = true → after.store.known eventId = true)
    (same : ∀ other, other ≠ worker → after.workers other = state.workers other)
    (own : (state.workers worker).handles = some eventId → InHand after eventId) :
    InHand after eventId := by
  rcases held with row | ⟨other, handled⟩
  · exact .inl (known row)
  · by_cases mine : other = worker
    · exact own (mine ▸ handled)
    · exact .inr ⟨other, by rwa [same other mine]⟩

theorem Awaited.of_other
    (same : ∀ other, other ≠ worker → after.workers other = state.workers other)
    (unrefused : (after.workers worker).refused ≠ some eventId) (awaited : Awaited after eventId) :
    Awaited state eventId := by
  obtain ⟨waiting, refused⟩ := awaited
  by_cases mine : waiting = worker
  · exact absurd (mine ▸ refused) unrefused
  · exact ⟨waiting, by rwa [← same waiting mine]⟩

theorem Covered.put (covered : Covered state) {stage : AlertStage}
    (unrefused : stage.refused = none)
    (attended : ∀ eventId, (state.workers worker).handles = some eventId →
      Awaited state eventId → ¬ Orphaned state worker eventId) :
    Covered (state.put worker stage) := by
  intro eventId awaited
  have same : ∀ other, other ≠ worker →
      (state.put worker stage).workers other = state.workers other :=
    fun _ different => Program.State.put_of_ne different
  have before : Awaited state eventId := by
    refine awaited.of_other same fun refused => ?_
    rw [Program.State.put_self, unrefused] at refused
    cases refused
  refine (covered eventId before).of_worker (fun known => known) same fun handled => ?_
  exact InHand.of_others (attended eventId handled before) (fun known => known) same

theorem covered_next (covered : Covered state) (attended : Attended receiver state event) :
    Covered ((alertProgram receiver).next state event) := by
  cases event with
  | call worker call =>
    simp only [Program.next]
    split
    · next free =>
        refine covered.put (start_refused call) fun eventId handled => ?_
        rw [handles_of_free free] at handled
        cases handled
    · exact covered
  | fail worker => exact covered.put rfl attended
  | step worker =>
    simp only [Program.next]
    split
    · intro eventId awaited
      have same : ∀ other, other ≠ worker → ({ state.put worker
          ((alertProgram receiver).perform state.store (state.workers worker)).2 with
          store := ((alertProgram receiver).perform state.store (state.workers worker)).1 } :
            AlertState n).workers other = state.workers other :=
        fun _ different => Program.State.put_of_ne different
      by_cases refused : (performAlert receiver state.store (state.workers worker)).2.refused = some eventId
      · exact InHand.of_others (attended.1 eventId (performAlert_refused refused))
          known_performAlert same
      · have before : Awaited state eventId := by
          refine awaited.of_other same ?_
          change ((state.put worker _).workers worker).refused ≠ some eventId
          rw [Program.State.put_self]
          exact refused
        refine (covered eventId before).of_worker known_performAlert same fun handled => ?_
        have outcome : (performAlert receiver state.store (state.workers worker)).2.handles = some eventId ∨
            (performAlert receiver state.store (state.workers worker)).1.known eventId = true ∨
            state.store.abandons receiver (state.workers worker) = true :=
          performAlert_handles handled
        rcases outcome with still | known | abandoned
        · refine .inr ⟨worker, ?_⟩
          change ((state.put worker _).workers worker).handles = some eventId
          rw [Program.State.put_self]
          exact still
        · exact .inl known
        · exact InHand.of_others (attended.2 abandoned eventId handled before)
            known_performAlert same
    · exact covered

theorem store_of_answer {result : InboundResult}
    (answers : (performAlert receiver state.store (state.workers worker)).2 =
      .answered (some eventId) result) :
    (alertProgram receiver).next state (.step worker) =
      { state.put worker (.answered (some eventId) result) with
        store := (performAlert receiver state.store (state.workers worker)).1 } := by
  have performed : ((alertProgram receiver).perform state.store (state.workers worker)).2 =
      .answered (some eventId) result := answers
  simp only [Program.next]
  rw [performed, if_pos]
  · rfl
  · exact fun _ _ => Program.apart_of_unlocked rfl

theorem inHand_of_duplicate (covered : Covered state)
    (holds : (alertProgram receiver).Holds (fun store => store.records.Traced receiver.deployment)
      (fun store stage => stage.Relies receiver.deployment store.records) state)
    (answers : AnswersDuplicate receiver state event eventId) :
    InHand ((alertProgram receiver).next state event) eventId := by
  obtain ⟨worker, result, rfl, busy, answered, status⟩ := answers
  rw [store_of_answer answered]
  rcases performAlert_duplicate (holds.workers worker) busy answered status with refused | known
  · refine (covered eventId ⟨worker, refused⟩).of_worker known_performAlert
      (fun _ different => Program.State.put_of_ne different) fun handled => ?_
    rw [handles_of_refused refused] at handled
    cases handled
  · exact .inl known

theorem traced_fresh (deployment : Deployment) (surroundings : Surroundings) :
    (AlertStore.fresh surroundings).records.Traced deployment where
  requested := fun _ listed => by cases listed
  announced := fun _ listed => by cases listed
  identified := fun _ listed => by cases listed
  accepted := fun _ listed => by cases listed

/-- An event has one request and one `request.created` at most, and where no refused delivery is
left alone by those it counts on, a duplicate is in hand. -/
theorem alerts_become_requests (receiver : Receiver) (surroundings : Surroundings)
    (events : List (AlertEvent n)) :
    let start : AlertState n := (alertProgram receiver).initial (.fresh surroundings)
    let records := (run (alertProgram receiver).next start events).store.records
    (∀ left ∈ records.requests.rows, ∀ right ∈ records.requests.rows,
      left.sourceEventId = right.sourceEventId → left = right) ∧
    (∀ left ∈ records.outbox.rows, ∀ right ∈ records.outbox.rows,
      left.data.sourceEventId = right.data.sourceEventId → left = right) ∧
    (∀ row ∈ records.inbox.rows, row.outcome = .accepted → ∃ request ∈ records.requests.rows,
      request.sourceEventId = row.eventId ∧ row.requestNumber = some request.number) ∧
    (Obeys (alertProgram receiver).next (Attended receiver) start events →
      ∀ taken ∈ trace (alertProgram receiver).next start events, ∀ eventId,
        AnswersDuplicate receiver taken.1 taken.2 eventId →
          InHand ((alertProgram receiver).next taken.1 taken.2) eventId) := by
  intro start records
  have initially := (alert_sound receiver).holds_initial (n := n)
    (traced_fresh receiver.deployment surroundings)
  have careful := (alertProgram receiver).careful_anytime start events
  have holds := (alert_sound receiver).holds_run initially careful
  refine ⟨fun left listed right => holds.store.request_unique listed,
    fun left listed right => holds.store.event_unique listed, holds.store.accepted, ?_⟩
  intro attended taken listed eventId answers
  have covered : Covered start := by
    rintro _ ⟨_, refused⟩
    cases refused
  have along := trace_invariant_of_obeys (alertProgram receiver).next Covered covered
    (fun _ _ permitted covered => covered_next covered permitted) attended taken listed
  exact inHand_of_duplicate along
    ((alert_sound receiver).holds_trace initially careful taken listed) answers

end

instance orphanedDecidable {n : Nat} (state : AlertState n) (worker : Fin n)
    (eventId : EventId) : Decidable (Orphaned state worker eventId) :=
  inferInstanceAs (Decidable (_ ∧ ∀ other, other ≠ worker → _ ≠ _))

instance awaitedDecidable {n : Nat} (state : AlertState n) (eventId : EventId) :
    Decidable (Awaited state eventId) :=
  inferInstanceAs (Decidable (∃ waiting, (state.workers waiting).refused = some eventId))

instance inHandDecidable {n : Nat} (state : AlertState n) (eventId : EventId) :
    Decidable (InHand state eventId) :=
  inferInstanceAs (Decidable (_ ∨ ∃ worker, (state.workers worker).handles = some eventId))

instance attendedDecidable {n : Nat} (receiver : Receiver) (state : AlertState n) :
    (event : AlertEvent n) → Decidable (Attended receiver state event)
  | .call _ _ => .isTrue trivial
  | .step worker =>
    inferInstanceAs (Decidable ((∀ eventId ∈ state.store.refuses (state.workers worker),
      ¬ Orphaned state worker eventId) ∧
        (state.store.abandons receiver (state.workers worker) = true →
          ∀ eventId ∈ (state.workers worker).handles, Awaited state eventId →
            ¬ Orphaned state worker eventId)))
  | .fail worker =>
    inferInstanceAs (Decidable (∀ eventId ∈ (state.workers worker).handles,
      Awaited state eventId → ¬ Orphaned state worker eventId))

/-- The digest of `uk-building-1`, and the identity of the event of its request. -/
def sampleReceiver : Receiver where
  deployment := ⟨true, "dev", 0, fun _ => "4af18669-5e28-5356-ae54-fe61e951bc71"⟩
  sha256 := fun _ => "1603f2c96dd8259378529c16ad4f440ba031938f5ed293e878b0263c2e766b50"

def houseOf (yardActive : Bool) : Surroundings :=
  ⟨[⟨1, "Main street 1", true, yardActive⟩], [⟨1, some 0⟩], []⟩

def leakAlert : AlertBlock :=
  ⟨"1603f2c9-6dd8-2593-7852-9c16ad4f440b", "LEAK_DETECTED", "CRITICAL", "Leak", some 1, none, none⟩

def leakDelivery (now : Moment) : Delivery :=
  ⟨⟨"alert-1", "alert.created", some leakAlert⟩, "10.0.0.1", now, .answers, "260101-001", "260101-002"⟩

def startOfAlerts (yardActive : Bool) : AlertState 2 :=
  (alertProgram sampleReceiver).initial (.fresh (houseOf yardActive))

def deliveredTo (worker : Fin 2) (now : Moment) (statements : Nat) : List (AlertEvent 2) :=
  .call worker (.receive (.delivered (leakDelivery now))) ::
    List.replicate statements (.step worker)

/-- An alert, and its redelivery while the first delivery is at work. -/
def overlappingDeliveries : List (AlertEvent 2) := deliveredTo 0 10 7 ++ deliveredTo 1 20 1

theorem overlappingDeliveries_inHand :
    AnswersDuplicate sampleReceiver
        (run (alertProgram sampleReceiver).next (startOfAlerts true) overlappingDeliveries)
        (.step 1) "alert-1" ∧
      InHand ((alertProgram sampleReceiver).next
        (run (alertProgram sampleReceiver).next (startOfAlerts true) overlappingDeliveries)
        (.step 1)) "alert-1" := by
  have answers : AnswersDuplicate sampleReceiver
      (run (alertProgram sampleReceiver).next (startOfAlerts true) overlappingDeliveries)
      (.step 1) "alert-1" :=
    ⟨1, duplicateResult none, rfl, by decide +kernel, by decide +kernel, rfl⟩
  have attended : Obeys (alertProgram sampleReceiver).next (Attended sampleReceiver)
      (startOfAlerts true) (overlappingDeliveries ++ [.step 1]) := by
    decide +kernel
  have traced : (run (alertProgram sampleReceiver).next (startOfAlerts true)
      overlappingDeliveries, .step 1) ∈
        trace (alertProgram sampleReceiver).next (startOfAlerts true)
          (overlappingDeliveries ++ [.step 1]) := by
    rw [trace_concat]
    exact List.mem_append_right _ List.mem_cons_self
  obtain ⟨_, _, _, inHand⟩ := alerts_become_requests sampleReceiver (houseOf true)
    (overlappingDeliveries ++ [.step 1])
  have duplicate := inHand attended _ traced "alert-1"
  dsimp only at duplicate
  exact ⟨answers, duplicate answers⟩

/-- The yard of the house is not active yet when the alert comes; when it is delivered again,
the nonce of the failed delivery is still there. -/
def redelivery : List (AlertEvent 2) :=
  deliveredTo 0 10 3 ++ [.call 0 (.surround (houseOf true)), .step 0] ++ deliveredTo 1 20 1

theorem redelivery_swallowed :
    AnswersDuplicate sampleReceiver
        (run (alertProgram sampleReceiver).next (startOfAlerts false) redelivery) (.step 1)
        "alert-1" ∧
      ¬ InHand (run (alertProgram sampleReceiver).next (startOfAlerts false)
        (redelivery ++ [.step 1])) "alert-1" := by
  refine ⟨⟨1, duplicateResult none, rfl, by decide +kernel, by decide +kernel, rfl⟩, by decide +kernel⟩

end InfrasafeBot.InboundAlert
