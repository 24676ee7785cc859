import InfrasafeBot.Library.Machine
import InfrasafeBot.Library.Table
import InfrasafeBot.RequestWorkflow.Types
import Mathlib.Data.List.Sort

/-! The bindings of residents to apartments, which two services write: the residents' section
(`services/residents/core.py`, `services/residents/verification_core.py`), which repairs the
flag of the primary apartment after each change, and the address service
(`services/addresses/core.py`), which does not. -/

set_option autoImplicit false

namespace InfrasafeBot.Addresses

open Library RequestWorkflow

abbrev ApartmentId := Nat

abbrev UserApartmentId := Nat

inductive UserApartmentStatus where
  | pending
  | approved
  | rejected
  deriving DecidableEq

def UserApartmentStatus.value : UserApartmentStatus → String
  | .pending => "pending"
  | .approved => "approved"
  | .rejected => "rejected"

structure UserApartment where
  id : UserApartmentId
  userId : UserId
  apartmentId : ApartmentId
  status : UserApartmentStatus
  requestedAt : Moment
  reviewedAt : Option Moment
  reviewedBy : Option UserId
  adminComment : Option String
  isOwner : Bool
  isPrimary : Bool
  deriving DecidableEq

inductive VerificationStatus where
  | pending
  | requested
  | verified
  | rejected
  deriving DecidableEq

def VerificationStatus.value : VerificationStatus → String
  | .pending => "pending"
  | .requested => "requested"
  | .verified => "verified"
  | .rejected => "rejected"

structure Person where
  id : UserId
  applicant : Bool
  deleted : Bool
  verificationStatus : VerificationStatus

structure Home where
  id : ApartmentId
  isActive : Bool

structure ResidentBook where
  people : Table Person.id
  homes : Table Home.id
  bindings : Table UserApartment.id

inductive DomainError where
  | residentNotFound (message : String)
  | residentConflict (message code : String)
  | residentValidation (message : String)
  | addressNotFound (message code : String)
  | addressConflict (message : String) (code : Option String)

namespace UserApartment

variable (binding : UserApartment)

def approvedFor (user : UserId) : Bool := binding.userId = user && binding.status = .approved

def primaryFor (user : UserId) : Bool := binding.approvedFor user && binding.isPrimary

def review (status : UserApartmentStatus) (reviewerId : UserId) (comment : Option String)
    (now : Moment) : UserApartment :=
  { binding with
    status
    reviewedBy := some reviewerId
    reviewedAt := some now
    adminComment := (comment.filter (· ≠ "")).or binding.adminComment }

@[simp] theorem review_id (status : UserApartmentStatus) (reviewerId : UserId)
    (comment : Option String) (now : Moment) :
    (binding.review status reviewerId comment now).id = binding.id := rfl

def before (other : UserApartment) : Bool :=
  binding.requestedAt < other.requestedAt ||
    (binding.requestedAt = other.requestedAt && binding.id ≤ other.id)

end UserApartment

section

variable (bindings : Table UserApartment.id)

def approvedBindings (resident : UserId) : List UserApartment :=
  (bindings.rows.filter (·.approvedFor resident)).insertionSort fun left right => left.before right = true

def chooseWinner (keep : Option UserApartmentId) : List UserApartment → Option UserApartment
  | [] => none
  | first :: rest =>
    let kept := keep.bind fun id => (first :: rest).find? (·.id = id)
    some (kept.getD (((first :: rest).find? (·.isPrimary)).getD first))

def primaryCandidates (resident : UserId) (exclude : Option UserApartmentId) : List UserApartment :=
  (approvedBindings bindings resident).filter fun row => some row.id ≠ exclude

def UserApartment.settle (row : UserApartment) (winner : Option UserApartment) : UserApartment :=
  { row with isPrimary := winner.any (·.id = row.id) }

@[simp] theorem UserApartment.settle_id (row : UserApartment) (winner : Option UserApartment) :
    (row.settle winner).id = row.id := rfl

def ensureSinglePrimary (resident : UserId) (keep exclude : Option UserApartmentId) :
    Table UserApartment.id :=
  let winner := chooseWinner keep (primaryCandidates bindings resident exclude)
  bindings.update (·.userId = resident) (fun row => row.settle winner) fun row => row.settle_id winner

end

section

variable (book : ResidentBook)

def requireResident (resident : UserId) : Except DomainError Person :=
  match book.people.find? resident with
  | none => .error (.residentNotFound "Житель не найден")
  | some person =>
    if person.applicant && !person.deleted then .ok person
    else .error (.residentNotFound "Житель не найден")

def requireBinding (resident : UserId) (id : UserApartmentId) : Except DomainError UserApartment :=
  match book.bindings.find? id with
  | none => .error (.residentNotFound "Привязка не найдена")
  | some binding =>
    if binding.userId = resident then .ok binding
    else .error (.residentNotFound "Привязка не найдена")

def bindingOf (user : UserId) (apartment : ApartmentId) : Option UserApartment :=
  book.bindings.rows.find? fun row => row.userId = user && row.apartmentId = apartment

def withBindings (bindings : Table UserApartment.id) : ResidentBook := { book with bindings }

def newBinding (user : UserId) (apartment : ApartmentId) (status : UserApartmentStatus)
    (isOwner isPrimary : Bool) (reviewedBy : Option UserId) (now : Moment)
    (id : UserApartmentId) : UserApartment where
  id
  userId := user
  apartmentId := apartment
  status
  requestedAt := now
  reviewedAt := none
  reviewedBy
  adminComment := none
  isOwner
  isPrimary

@[simp] theorem newBinding_id (user : UserId) (apartment : ApartmentId)
    (status : UserApartmentStatus) (isOwner isPrimary : Bool) (reviewedBy : Option UserId)
    (now : Moment) (id : UserApartmentId) :
    (newBinding user apartment status isOwner isPrimary reviewedBy now id).id = id := rfl

theorem newRequest_id (user : UserId) (apartment : ApartmentId) (isOwner isPrimary : Bool)
    (now : Moment) (id : UserApartmentId) :
    (newBinding user apartment .pending isOwner isPrimary none now id).id = id := rfl

def attachApartment (resident : UserId) (apartment : ApartmentId) (actor : UserId)
    (isOwner isPrimary : Bool) (now : Moment) : Except DomainError ResidentBook := do
  let _ ← requireResident book resident
  match book.homes.find? apartment with
  | none => .error (.residentNotFound "Квартира не найдена")
  | some home =>
    if home.isActive = false then .error (.residentConflict "Квартира неактивна" "apartment_inactive")
    else
      match bindingOf book resident apartment with
      | some existing =>
        if existing.status ≠ .rejected then
          .error (.residentConflict
            s!"Связь с этой квартирой уже есть (статус: {existing.status.value})"
            "binding_exists")
        else
          let reopened := { existing with
            status := .approved, isOwner, reviewedBy := some actor, adminComment := none }
          .ok (withBindings book (ensureSinglePrimary (book.bindings.put reopened) resident
            (if isPrimary then some existing.id else none) none))
      | none =>
        let id := book.bindings.nextKey
        let added := book.bindings.insert
          (newBinding resident apartment .approved isOwner false (some actor) now)
          (newBinding_id _ _ _ _ _ _ _)
        .ok (withBindings book (ensureSinglePrimary added resident
          (if isPrimary then some id else none) none))

def reviewRequest (id : UserApartmentId) (reviewer : UserId) (comment : Option String)
    (approve : Bool) (now : Moment) : Except DomainError (Table UserApartment.id) :=
  match book.bindings.find? id with
  | none => .error (.addressNotFound "Заявка не найдена" "request_not_found")
  | some binding =>
    if binding.status ≠ .pending then
      .error (.addressConflict s!"Заявка уже обработана (статус: {binding.status.value})" none)
    else
      .ok (book.bindings.put
        (binding.review (if approve then .approved else .rejected) reviewer comment now))

def approveBinding (resident : UserId) (id : UserApartmentId) (actor : UserId)
    (comment : Option String) (now : Moment) : Except DomainError ResidentBook := do
  let _ ← requireResident book resident
  let _ ← requireBinding book resident id
  let reviewed ← reviewRequest book id actor comment true now
  .ok (withBindings book (ensureSinglePrimary reviewed resident none none))

def rejectBinding (resident : UserId) (id : UserApartmentId) (actor : UserId)
    (comment : String) (now : Moment) : Except DomainError ResidentBook := do
  let comment := pyStrip comment
  if comment.length < 3 then .error (.residentValidation "Комментарий к отказу — минимум 3 символа")
  else
    let _ ← requireResident book resident
    let _ ← requireBinding book resident id
    let reviewed ← reviewRequest book id actor (some comment) false now
    .ok (withBindings book (ensureSinglePrimary reviewed resident none none))

def updateBinding (resident : UserId) (id : UserApartmentId) (isOwner isPrimary : Option Bool) :
    Except DomainError ResidentBook := do
  let _ ← requireResident book resident
  let binding ← requireBinding book resident id
  let owned := { binding with isOwner := isOwner.getD binding.isOwner }
  match isPrimary with
  | some true =>
    if binding.status ≠ .approved then
      .error (.residentConflict "Основной можно сделать только подтверждённую квартиру"
        "primary_requires_approved")
    else .ok (withBindings book (ensureSinglePrimary (book.bindings.put owned) resident (some id) none))
  | some false =>
    let others := book.bindings.rows.filter fun row => row.id ≠ id && row.approvedFor resident
    if binding.isPrimary && others.isEmpty then
      .error (.residentConflict
        "Нельзя снять признак основной у единственной подтверждённой квартиры" "last_primary")
    else
      -- the bindings have been read again, so that the unflushed `is_owner` is lost
      .ok (withBindings book
        (ensureSinglePrimary (book.bindings.put { binding with isPrimary := false }) resident
          none (some id)))
  | none => .ok (withBindings book (book.bindings.put owned))

def removeBinding (resident : UserId) (id : UserApartmentId) :
    Except DomainError ResidentBook := do
  let _ ← requireResident book resident
  let _ ← requireBinding book resident id
  .ok (withBindings book (ensureSinglePrimary (book.bindings.delete (·.id = id)) resident none none))

def autoApproveComment : String := "Автоматически одобрено при верификации пользователя"

def approveVerification (resident : UserId) (actor : UserId) (now : Moment) :
    Except DomainError ResidentBook := do
  let person ← requireResident book resident
  if person.verificationStatus ≠ .pending ∧ person.verificationStatus ≠ .requested then
    .error (.residentConflict
      s!"Верификация уже завершена (статус: {person.verificationStatus.value})"
      "verification_closed")
  else
    let approved := book.bindings.update
      (fun row => row.userId = resident && row.status = .pending)
      (fun row => row.review .approved actor (some autoApproveComment) now)
      fun row => row.review_id _ _ _ _
    .ok { book with
      people := book.people.put { person with verificationStatus := .verified }
      bindings := ensureSinglePrimary approved resident none none }

def requestApartment (user : UserId) (apartment : ApartmentId) (isOwner isPrimary : Bool)
    (now : Moment) : Except DomainError ResidentBook :=
  match book.homes.find? apartment with
  | none => .error (.addressNotFound "Квартира не найдена" "apartment_not_found")
  | some home =>
    if home.isActive = false then .error (.addressConflict "Квартира неактивна" (some "apartment_inactive"))
    else
      match bindingOf book user apartment with
      | some existing =>
        match existing.status with
        | .pending =>
          .error (.addressConflict "Заявка уже отправлена и ожидает рассмотрения"
            (some "request_already_pending"))
        | .approved =>
          .error (.addressConflict "Вы уже подтверждены как житель этой квартиры" (some "already_resident"))
        | .rejected =>
          .error (.addressConflict
            "Ваша предыдущая заявка была отклонена. Обратитесь к администратору." none)
      | none =>
        .ok (withBindings book (book.bindings.insert
          (newBinding user apartment .pending isOwner isPrimary none now)
          (newRequest_id user apartment isOwner isPrimary now)))

def reviewApartmentRequest (id : UserApartmentId) (reviewer : UserId) (comment : Option String)
    (approve : Bool) (now : Moment) : Except DomainError ResidentBook := do
  let reviewed ← reviewRequest book id reviewer comment approve now
  .ok (withBindings book reviewed)

def removeUserFromApartment (id : UserApartmentId) : Except DomainError ResidentBook :=
  match book.bindings.find? id with
  | none => .error (.addressNotFound "Заявка не найдена" "request_not_found")
  | some _ => .ok (withBindings book (book.bindings.delete (·.id = id)))

end

inductive BindingAct where
  | attachApartment (resident : UserId) (apartment : ApartmentId) (actor : UserId)
      (isOwner isPrimary : Bool) (now : Moment)
  | approveBinding (resident : UserId) (id : UserApartmentId) (actor : UserId)
      (comment : Option String) (now : Moment)
  | rejectBinding (resident : UserId) (id : UserApartmentId) (actor : UserId)
      (comment : String) (now : Moment)
  | updateBinding (resident : UserId) (id : UserApartmentId) (isOwner isPrimary : Option Bool)
  | removeBinding (resident : UserId) (id : UserApartmentId)
  | approveVerification (resident : UserId) (actor : UserId) (now : Moment)
  | requestApartment (user : UserId) (apartment : ApartmentId) (isOwner isPrimary : Bool)
      (now : Moment)
  | reviewApartmentRequest (id : UserApartmentId) (reviewer : UserId)
      (comment : Option String) (approve : Bool) (now : Moment)
  | removeUserFromApartment (id : UserApartmentId)
  | surround (people : Table Person.id) (homes : Table Home.id)

def ResidentBook.perform (book : ResidentBook) : BindingAct → Except DomainError ResidentBook
  | .attachApartment resident apartment actor isOwner isPrimary now =>
    attachApartment book resident apartment actor isOwner isPrimary now
  | .approveBinding resident id actor comment now => approveBinding book resident id actor comment now
  | .rejectBinding resident id actor comment now => rejectBinding book resident id actor comment now
  | .updateBinding resident id isOwner isPrimary => updateBinding book resident id isOwner isPrimary
  | .removeBinding resident id => removeBinding book resident id
  | .approveVerification resident actor now => approveVerification book resident actor now
  | .requestApartment user apartment isOwner isPrimary now =>
    requestApartment book user apartment isOwner isPrimary now
  | .reviewApartmentRequest id reviewer comment approve now =>
    reviewApartmentRequest book id reviewer comment approve now
  | .removeUserFromApartment id => removeUserFromApartment book id
  | .surround people homes => .ok { book with people, homes }

def ResidentBook.next (book : ResidentBook) (act : BindingAct) : ResidentBook :=
  match book.perform act with
  | .ok after => after
  | .error _ => book

def ResidentBook.fresh (people : Table Person.id) (homes : Table Home.id) : ResidentBook :=
  ⟨people, homes, .empty⟩

end InfrasafeBot.Addresses
