import InfrasafeBot.GroupReach
import InfrasafeBot.StatusEncoding

/-! The list of requests that wait for the resident (`acceptance_rows` of
`api/requests/service.py`) against the guard of the acceptance. -/

set_option autoImplicit false

namespace InfrasafeBot.AcceptanceList

open RequestWorkflow WorkflowRunner WorkflowRuns GroupReach StatusEncoding

def isAwaitingApplicant (row : Request) : Bool :=
  if row.isReturned then false
  else if row.status = .completed then true
  else row.status = .executed && row.managerConfirmed

variable (db : Database) (directory : Directory) (user : User)

/-- The condition of the list on whose request it is. -/
def offeredTo (row : Request) : Bool :=
  row.userId = user.id || row.apartmentId.any (approvedApartmentIds directory user.id).contains

/-- The rows of the query, before their order and its limit of 20. -/
def acceptanceRows : List Request :=
  db.requests.rows.filter fun row =>
    offeredTo directory user row && row.status = .completed && row.acceptanceMode = .resident

/-- The list is that of the requests that the user may accept, all of which wait for it. -/
structure OffersAcceptable (actor : ActorContext) : Prop where
  allowed : ∀ row ∈ db.requests.rows, row ∈ acceptanceRows db directory user ↔
    .applicantAccept ∈ allowedActions (buildSnapshot db directory row actor) actor
  awaiting : ∀ row ∈ acceptanceRows db directory user, isAwaitingApplicant row = true

variable {db directory user} {row : Request} {actor : ActorContext} {principal : PrincipalRef}

theorem mem_acceptanceRows : row ∈ acceptanceRows db directory user ↔
    row ∈ db.requests.rows ∧ (offeredTo directory user row = true ∧ row.status = .completed) ∧
      row.acceptanceMode = .resident := by
  simp [acceptanceRows]

theorem canAccept_iff :
    canAccept (buildSnapshot db directory row (actorOf directory user)) (actorOf directory user) = true ↔
      row.acceptanceMode = .resident ∧ offeredTo directory user row = true := by
  simp only [canAccept, isOwner, buildSnapshot, newStateFrom, actorOf, offeredTo]
  cases row.acceptanceMode with
  | manager => simp
  | resident => cases row.apartmentId <;> simp

theorem accept_allowed_iff :
    .applicantAccept ∈ allowedActions (buildSnapshot db directory row (actorOf directory user))
        (actorOf directory user) ↔
      normalizeStatus (newStateFrom row) = .completed ∧ row.acceptanceMode = .resident ∧
        offeredTo directory user row = true := by
  rw [mem_allowedActions, ← @canAccept_iff db]
  simp [actionTable, authorizes, buildSnapshot, actorOf]

theorem normalize_completed_iff : normalizeStatus (newStateFrom row) = .completed ↔
    (row.status = .completed ∧ ¬ LegacyReturned row) ∨ LegacyConfirmed row := by
  unfold normalizeStatus newStateFrom LegacyReturned LegacyConfirmed
  grind

theorem awaiting_iff_normalized : isAwaitingApplicant row = true ↔
    normalizeStatus (newStateFrom row) = .completed := by
  unfold isAwaitingApplicant normalizeStatus newStateFrom
  grind

/-- The list is right exactly where no request that the user might accept is stored in one of
the older encodings: a returned one is listed in vain, a confirmed one is missing. -/
theorem offersAcceptable_iff (listed : directory.users.find? user.id = some user)
    (human : principal.kind = .user) (named : principal.userId = some user.id) :
    (∃ actor, loadActorContext directory principal = .ok actor ∧
      OffersAcceptable db directory user actor) ↔
      ∀ row ∈ db.requests.rows, row.acceptanceMode = .resident → offeredTo directory user row = true →
        ¬ LegacyConfirmed row ∧ ¬ LegacyReturned row := by
  constructor
  · rintro ⟨actor, loaded, offers⟩ row stored resident offered
    obtain rfl := Except.ok.inj ((loadActorContext_listed listed human named).symm.trans loaded)
    have agree := offers.allowed row stored
    rw [mem_acceptanceRows, accept_allowed_iff, normalize_completed_iff] at agree
    constructor
    · intro confirmed
      have member := agree.mpr ⟨.inr confirmed, resident, offered⟩
      exact absurd (confirmed.1.symm.trans member.2.1.2) (by decide)
    · intro returned
      rcases (agree.mp ⟨stored, ⟨offered, returned.1⟩, resident⟩).1 with ⟨_, kept⟩ | confirmed
      · exact kept returned
      · exact absurd (returned.1.symm.trans confirmed.1) (by decide)
  · intro canonical
    refine ⟨_, loadActorContext_listed listed human named, ?_, ?_⟩
    · intro row stored
      rw [mem_acceptanceRows, accept_allowed_iff, normalize_completed_iff]
      constructor
      · rintro ⟨_, ⟨offered, completed⟩, resident⟩
        exact ⟨.inl ⟨completed, (canonical row stored resident offered).2⟩, resident, offered⟩
      · rintro ⟨⟨completed, _⟩ | confirmed, resident, offered⟩
        · exact ⟨stored, ⟨offered, completed⟩, resident⟩
        · exact absurd confirmed (canonical row stored resident offered).1
    · intro row member
      obtain ⟨stored, ⟨offered, completed⟩, resident⟩ := mem_acceptanceRows.mp member
      exact awaiting_iff_normalized.mpr (normalize_completed_iff.mpr
        (.inl ⟨completed, (canonical row stored resident offered).2⟩))

def returnedRequest : Request :=
  { sampleRequest .resident with status := .completed, isReturned := true }

def applicant : User := ⟨7, 70, none, none, none, none, none⟩

def applicantRef : PrincipalRef := ⟨.user, some 7, "api", none, user_systemNamed, user_userKnown 7⟩

theorem resident_offered :
    ∃ actor, loadActorContext sampleDirectory applicantRef = .ok actor ∧
      OffersAcceptable (.ofRequest { sampleRequest .resident with status := .completed })
        sampleDirectory applicant actor := by
  refine (offersAcceptable_iff rfl rfl rfl).mpr fun row stored _ _ => ?_
  obtain rfl := List.mem_singleton.mp stored
  exact ⟨fun confirmed => absurd confirmed.1 (by decide), fun returned => absurd returned.2 (by decide)⟩

/-- A returned request is offered to its owner, who may not accept it. -/
theorem returned_offered :
    ¬ ∀ (db : Database) (directory : Directory) (user : User) (principal : PrincipalRef),
      directory.users.find? user.id = some user → principal.kind = .user →
      principal.userId = some user.id →
        ∃ actor, loadActorContext directory principal = .ok actor ∧
          OffersAcceptable db directory user actor := by
  intro right
  obtain ⟨actor, loaded, offers⟩ :=
    right (.ofRequest returnedRequest) sampleDirectory applicant applicantRef rfl rfl rfl
  have waits := offers.awaiting returnedRequest
    (mem_acceptanceRows.mpr ⟨List.mem_singleton_self _, by decide⟩)
  exact absurd waits (by decide)

end InfrasafeBot.AcceptanceList
