import InfrasafeBot.MaterialTransactions
import InfrasafeBot.StockLedger

/-! The unit of a material against the unit of its movements, over every interleaving of
the transactions of the material service. -/

set_option autoImplicit false

namespace InfrasafeBot.MaterialService

open Library Machine RequestWorkflow

variable {ledger : Ledger} {materialId workers : Nat}

def unitOf (ledger : Ledger) (materialId : Nat) : Option MaterialUnit :=
  (ledger.materials.find? materialId).map (·.unit)

/-- Every movement is recorded in the unit its material has. -/
structure UnitAgrees (ledger : Ledger) : Prop where
  receipts : ∀ receipt ∈ ledger.receipts.rows, unitOf ledger receipt.materialId = some receipt.unit
  issues : ∀ issue ∈ ledger.issues.rows, unitOf ledger issue.materialId = some issue.unit

theorem hasMoves_iff : hasMoves materialId ledger = true ↔
    ∃ receipt ∈ ledger.receipts.rows, receipt.materialId = materialId := by
  simp [hasMoves]

/-- What an issue in preparation has found in the ledger. -/
def Transaction.Grounded (ledger : Ledger) : Transaction → Prop
  | .demanding _ demand => 0 < demand.qty
  | .reversing _ _ receipt => hasMoves receipt.materialId ledger = true
  | .allocated _ demand _ _ => hasMoves demand.material.id ledger = true
  | .issued row _ _ => hasMoves row.materialId ledger = true
  | _ => True

def Supplied (ledger : Ledger) : Prop :=
  ∀ issue ∈ ledger.issues.rows, hasMoves issue.materialId ledger = true

structure Grounded (store : Store workers) : Prop where
  supplied : Supplied store.ledger
  transactions : ∀ worker, (store.transactions worker).Grounded store.ledger

def Transaction.Current (ledger : Ledger) : Transaction → Prop
  | .updated card material => material.unit = card.unit ∨
      unitOf ledger card.id = some material.unit ∨ hasMoves card.id ledger = false
  | .receiving _ [] inserted => ∀ row ∈ inserted, unitOf ledger row.materialId = some row.unit
  | .issued row _ _ => unitOf ledger row.materialId = some row.unit
  | _ => True

def Current (store : Store workers) (event : Event workers) : Prop :=
  match event.action with
  | .commit => (store.transactions event.worker).Current store.ledger
  | _ => True

variable {transaction : Transaction}

section

variable {surroundings : Surroundings}

theorem query_ok_iff {Value : Type} {operation : Operation Value} {value : Value} :
    query operation ledger = .ok value ↔
      ∃ written, operation.runOn ledger = (.ok value, written) := by
  unfold query
  cases ran : operation.runOn ledger with
  | mk outcome written => simp

theorem hasMoves_of_serves {qty : Decimal} {allocations : List Allocation}
    (serves : Serves ledger materialId qty allocations) (positive : 0 < qty) :
    hasMoves materialId ledger = true := by
  cases allocations with
  | nil =>
    have total := serves.total
    simp only [List.map_nil, List.sum_nil] at total
    rw [← total] at positive
    exact absurd positive (lt_irrefl _)
  | cons allocation rest =>
    obtain ⟨receipt, stored, _, same, _⟩ := serves.drawn allocation List.mem_cons_self
    exact hasMoves_iff.mpr ⟨receipt, stored, same⟩

theorem startAdjust_grounded {adjustment : Adjustment} {createdBy : UserId}
    (started : startAdjust surroundings ledger materialId adjustment createdBy =
      .ok transaction) : transaction.Grounded ledger := by
  obtain ⟨_, _, linked⟩ := bind_eq_ok_iff.mp started
  split at linked
  · obtain ⟨groups, _, ended⟩ := bind_eq_ok_iff.mp linked
    cases ended
    trivial
  · obtain ⟨receipt, found, ended⟩ := bind_eq_ok_iff.mp linked
    cases ended
    obtain ⟨_, returned⟩ := query_ok_iff.mp found
    obtain ⟨_, stored, _⟩ := wholeReceipt_ok returned
    exact hasMoves_iff.mpr ⟨receipt, Table.mem_of_find? stored, rfl⟩
  · dsimp only at linked
    split at linked
    · obtain ⟨row, _, ended⟩ := bind_eq_ok_iff.mp linked
      cases ended
      trivial
    · obtain ⟨demand, found, ended⟩ := bind_eq_ok_iff.mp linked
      cases ended
      obtain ⟨_, returned⟩ := query_ok_iff.mp found
      exact (newDemand_ok returned).2.2

theorem start_grounded {call : Call} (started : start surroundings ledger call = .ok transaction) :
    transaction.Grounded ledger := by
  cases call with
  | createMaterial | updateMaterial | createReceipt =>
    obtain ⟨_, _, rfl⟩ := map_eq_ok_iff.mp started
    trivial
  | issueMaterial | issueMaterialSync =>
    obtain ⟨_, found, rfl⟩ := map_eq_ok_iff.mp started
    obtain ⟨_, returned⟩ := query_ok_iff.mp found
    exact (newDemand_ok returned).2.2
  | adjust materialId adjustment createdBy => exact startAdjust_grounded started

theorem advance_grounded {following : Transaction} (grounded : transaction.Grounded ledger)
    (advanced : advance surroundings ledger transaction = .ok following) :
    following.Grounded ledger := by
  cases transaction with
  | idle | created | updated =>
    cases advanced
    trivial
  | called call => exact start_grounded advanced
  | creating | measured | renamed =>
    obtain ⟨_, _, later⟩ := bind_eq_ok_iff.mp advanced
    obtain ⟨_, _, ended⟩ := bind_eq_ok_iff.mp later
    cases ended
    trivial
  | updating patch card =>
    obtain ⟨_, _, rfl⟩ := map_eq_ok_iff.mp advanced
    trivial
  | receiving reversed drafts inserted =>
    cases drafts with
    | nil =>
      cases advanced
      trivial
    | cons draft drafts =>
      obtain ⟨_, _, rfl⟩ := map_eq_ok_iff.mp advanced
      trivial
  | received reversed row drafts inserted =>
    obtain ⟨_, _, ended⟩ := bind_eq_ok_iff.mp advanced
    cases ended
    trivial
  | demanding createdBy demand =>
    obtain ⟨_, _, later⟩ := bind_eq_ok_iff.mp advanced
    obtain ⟨allocations, found, ended⟩ := bind_eq_ok_iff.mp later
    cases ended
    obtain ⟨_, returned⟩ := query_ok_iff.mp found
    obtain ⟨_, serves, _⟩ := allocateDemand_ok rfl grounded returned
    exact hasMoves_of_serves serves grounded
  | reversing createdBy reason receipt =>
    obtain ⟨⟨material, allocation⟩, found, ended⟩ := bind_eq_ok_iff.mp advanced
    cases ended
    obtain ⟨_, returned⟩ := query_ok_iff.mp found
    have same : material.id = receipt.materialId := (writtenOff_ok returned).2.1
    exact (congrArg (hasMoves · ledger) same).trans grounded
  | allocated createdBy demand locked allocations =>
    obtain ⟨row, built, later⟩ := bind_eq_ok_iff.mp advanced
    obtain ⟨_, _, ended⟩ := bind_eq_ok_iff.mp later
    cases ended
    obtain ⟨_, _, made⟩ := bind_eq_ok_iff.mp built
    cases made
    exact grounded
  | issued row locked allocations =>
    cases advanced
    exact grounded

end

theorem unitOf_created (row : Material) {unit : MaterialUnit}
    (known : unitOf ledger materialId = some unit) :
    unitOf (commit (.created row) ledger) materialId = some unit := by
  obtain ⟨card, found, same⟩ := Option.map_eq_some_iff.mp known
  unfold unitOf commit insertMaterial
  rw [Table.find?_insert, found, Option.some_or, Option.map_some, same]

theorem unitOf_updated (card material : Material) :
    unitOf (commit (.updated card material) ledger) materialId =
      if materialId = card.id ∧ material.unit ≠ card.unit then
        (unitOf ledger materialId).map fun _ => material.unit
      else unitOf ledger materialId := by
  unfold unitOf commit
  rw [Table.find?_update]
  cases found : ledger.materials.find? materialId with
  | none => simp
  | some row =>
    have numbered : row.id = materialId := Table.key_of_find? found
    by_cases same : materialId = card.id
    · by_cases changed : material.unit = card.unit
      · simp [numbered, same, changed, rewrite]
      · simp [numbered, same, changed, rewrite, flushed]
    · simp [numbered, same]

theorem forall_insertReceipts (property : Nat → MaterialUnit → Prop)
    (inserted : List MaterialReceipt) (receipts : Table MaterialReceipt.id) :
    (∀ receipt ∈ (inserted.foldl insertReceipt receipts).rows, property receipt.materialId receipt.unit) ↔
    (∀ receipt ∈ receipts.rows, property receipt.materialId receipt.unit) ∧
      ∀ row ∈ inserted, property row.materialId row.unit := by
  induction inserted generalizing receipts with
  | nil => simp
  | cons row rest ih =>
    rw [List.foldl_cons, ih, List.forall_mem_cons, insertReceipt, Table.insert,
      List.forall_mem_append, List.forall_mem_singleton, and_assoc]

theorem forall_decrementBatches (property : Nat → MaterialUnit → Prop)
    (allocations : List Allocation) (receipts : Table MaterialReceipt.id) :
    (∀ receipt ∈ (decrementBatches allocations receipts).rows, property receipt.materialId receipt.unit) ↔
    ∀ receipt ∈ receipts.rows, property receipt.materialId receipt.unit := by
  rw [decrementBatches_rows, List.forall_mem_map]
  rfl

theorem forall_insertIssue (property : Nat → MaterialUnit → Prop) (row : MaterialIssue)
    (issues : Table MaterialIssue.id) :
    (∀ issue ∈ (insertIssue issues row).rows, property issue.materialId issue.unit) ↔
    (∀ issue ∈ issues.rows, property issue.materialId issue.unit) ∧
      property row.materialId row.unit := by
  rw [insertIssue, Table.insert, List.forall_mem_append, List.forall_mem_singleton]

theorem hasMoves_commit (transaction : Transaction)
    (moved : hasMoves materialId ledger = true) :
    hasMoves materialId (commit transaction ledger) = true := by
  by_contra unmoved
  have none : ∀ receipt ∈ (commit transaction ledger).receipts.rows,
      receipt.materialId ≠ materialId := by
    intro receipt listed same
    exact unmoved (hasMoves_iff.mpr ⟨receipt, listed, same⟩)
  obtain ⟨receipt, stored, same⟩ := hasMoves_iff.mp moved
  have before : ∀ receipt ∈ ledger.receipts.rows, receipt.materialId ≠ materialId := by
    cases transaction with
    | receiving reversed drafts inserted =>
      cases drafts with
      | nil => exact ((forall_insertReceipts (fun id _ => id ≠ materialId) inserted _).mp none).1
      | cons draft drafts => exact none
    | issued row locked allocations =>
      exact (forall_decrementBatches (fun id _ => id ≠ materialId) allocations _).mp none
    | _ => exact none
  exact before receipt stored same

theorem Supplied.commit {transaction : Transaction} (supplied : Supplied ledger)
    (grounded : transaction.Grounded ledger) : Supplied (commit transaction ledger) := by
  intro issue listed
  apply hasMoves_commit
  cases transaction with
  | issued row locked allocations =>
    have moves := forall_insertIssue (fun id _ => hasMoves id ledger = true) row ledger.issues
    exact moves.mpr ⟨supplied, grounded⟩ issue listed
  | receiving reversed drafts inserted =>
    cases drafts with
    | nil | cons => exact supplied issue listed
  | _ => exact supplied issue listed

theorem updated_agrees_iff {card material : Material} (supplied : Supplied ledger)
    (agrees : UnitAgrees ledger) :
    UnitAgrees (commit (.updated card material) ledger) ↔
      (Transaction.updated card material).Current ledger := by
  constructor
  · intro after
    by_cases same : material.unit = card.unit
    · exact .inl same
    · cases moves : hasMoves card.id ledger with
      | false => exact .inr (.inr moves)
      | true =>
        obtain ⟨receipt, stored, own⟩ := hasMoves_iff.mp moves
        have kept := after.receipts receipt stored
        have known := agrees.receipts receipt stored
        rw [unitOf_updated, if_pos ⟨own, same⟩, known, Option.map_some] at kept
        rw [own] at known
        exact .inr (.inl (known.trans kept.symm))
  · intro current
    have kept : ∀ id unit, hasMoves id ledger = true → unitOf ledger id = some unit →
        unitOf (commit (.updated card material) ledger) id = some unit := by
      intro id unit moved known
      rw [unitOf_updated]
      split
      · next changed =>
          obtain ⟨rfl, different⟩ := changed
          rcases current with same | present | unmoved
          · exact absurd same different
          · rw [present, Option.map_some, ← present, known]
          · rw [moved] at unmoved
            cases unmoved
      · exact known
    constructor
    · intro receipt listed
      exact kept _ _ (hasMoves_iff.mpr ⟨receipt, listed, rfl⟩) (agrees.receipts receipt listed)
    · intro issue listed
      exact kept _ _ (supplied issue listed) (agrees.issues issue listed)

theorem commit_agrees_iff {transaction : Transaction} (supplied : Supplied ledger)
    (agrees : UnitAgrees ledger) :
    UnitAgrees (commit transaction ledger) ↔ transaction.Current ledger := by
  have receipts := agrees.receipts
  have issues := agrees.issues
  cases transaction with
  | created row =>
    simp only [Transaction.Current, iff_true]
    constructor
    · exact fun receipt listed => unitOf_created row (receipts receipt listed)
    · exact fun issue listed => unitOf_created row (issues issue listed)
  | updated card material => exact updated_agrees_iff supplied agrees
  | receiving reversed drafts inserted =>
    cases drafts with
    | nil =>
      have split := forall_insertReceipts (fun id unit => unitOf ledger id = some unit)
        inserted ledger.receipts
      constructor
      · exact fun after => (split.mp after.receipts).2
      · exact fun current => ⟨split.mpr ⟨receipts, current⟩, issues⟩
    | cons draft drafts =>
      simp only [Transaction.Current, iff_true]
      exact agrees
  | issued row locked allocations =>
    have lots := forall_decrementBatches (fun id unit => unitOf ledger id = some unit)
      allocations ledger.receipts
    have split := forall_insertIssue (fun id unit => unitOf ledger id = some unit) row
      ledger.issues
    constructor
    · exact fun after => (split.mp after.issues).2
    · exact fun current => ⟨lots.mpr receipts, split.mpr ⟨issues, current⟩⟩
  | _ =>
    simp only [Transaction.Current, iff_true]
    exact agrees

section

variable {store : Store workers}

theorem Transaction.Grounded.commit (grounded : transaction.Grounded ledger) (other : Transaction) :
    transaction.Grounded (commit other ledger) := by
  cases transaction with
  | demanding createdBy demand => exact grounded
  | reversing | allocated | issued => exact hasMoves_commit other grounded
  | _ => trivial

theorem Grounded.set (grounded : Grounded store) (worker : Fin workers)
    (own : transaction.Grounded store.ledger) :
    Grounded (store.set worker transaction) := by
  refine ⟨grounded.supplied, ?_⟩
  intro other
  by_cases same : other = worker
  · subst same
    simpa [Store.set] using own
  · simpa [Store.set, same] using grounded.transactions other

theorem Grounded.step (grounded : Grounded store) (event : Event workers) :
    Grounded (step store event) := by
  obtain ⟨worker, action⟩ := event
  cases action with
  | call call =>
    unfold MaterialService.step
    dsimp only
    split
    · exact grounded.set worker trivial
    · exact grounded
  | statement surroundings =>
    unfold MaterialService.step
    dsimp only
    split
    · exact grounded
    · split
      · next advanced =>
          exact grounded.set worker (advance_grounded (grounded.transactions worker) advanced)
      · exact grounded.set worker trivial
  | commit =>
    unfold MaterialService.step
    dsimp only
    split
    · have own := grounded.transactions worker
      have idle : Transaction.Grounded store.ledger .idle := trivial
      have released := (grounded.set worker idle).transactions
      exact ⟨grounded.supplied.commit own, fun other => (released other).commit _⟩
    · exact grounded
  | rollback => exact grounded.set worker trivial

theorem grounded_empty (workers : Nat) : Grounded (Store.empty workers) := by
  constructor
  · intro issue listed
    cases listed
  · exact fun _ => trivial

theorem current_of_unfinished (unfinished : finished transaction ≠ true) : transaction.Current ledger := by
  cases transaction with
  | updated | issued => exact absurd rfl unfinished
  | receiving reversed drafts inserted =>
    cases drafts with
    | nil => exact absurd rfl unfinished
    | cons draft drafts => trivial
  | _ => trivial

theorem step_agrees_iff (grounded : Grounded store) (agrees : UnitAgrees store.ledger)
    (event : Event workers) :
    UnitAgrees (step store event).ledger ↔ Current store event := by
  obtain ⟨worker, action⟩ := event
  cases action with
  | call call =>
    have same : (step store ⟨worker, .call call⟩).ledger = store.ledger := by
      unfold step
      dsimp only
      split <;> rfl
    simpa only [same, Current, iff_true] using agrees
  | statement surroundings =>
    have same : (step store ⟨worker, .statement surroundings⟩).ledger = store.ledger := by
      unfold step
      dsimp only
      split
      · rfl
      · split <;> rfl
    simpa only [same, Current, iff_true] using agrees
  | commit =>
    unfold step
    dsimp only
    split
    · exact commit_agrees_iff grounded.supplied agrees
    · next unfinished => exact iff_of_true agrees (current_of_unfinished unfinished)
  | rollback => exact iff_of_true agrees trivial

/-- The units agree all along a run exactly when every commit of the run finds what its
transaction has read. -/
theorem units_agree_iff_current (workers : Nat) (events : List (Event workers)) :
    (∀ past, past <+: events → UnitAgrees (run step (Store.empty workers) past).ledger) ↔
      Obeys step Current (Store.empty workers) events := by
  apply holds_along_iff_obeys step (fun store => UnitAgrees store.ledger) Grounded
    (grounded_empty workers)
  · exact fun store event grounded => grounded.step event
  · constructor
    · intro receipt listed
      cases listed
    · intro issue listed
      cases listed
  · exact fun store event grounded agrees => step_agrees_iff grounded agrees event

def office : Surroundings := ⟨0, [], true⟩

def toKilograms : MaterialPatch := ⟨none, none, none, none, some "kg"⟩

def racedUpdate : List (Event 2) := [
  ⟨0, .call (.createMaterial "цемент" "pack" none none)⟩,
  ⟨0, .statement office⟩,
  ⟨0, .statement office⟩,
  ⟨0, .commit⟩,
  ⟨0, .call (.updateMaterial 1 toKilograms)⟩,
  ⟨0, .statement office⟩,
  ⟨0, .statement office⟩,
  ⟨1, .call (.createReceipt 1 (.finite 5) (.finite 100) 7 (.noted "склад") "purchase")⟩,
  ⟨1, .statement office⟩,
  ⟨1, .statement office⟩,
  ⟨1, .commit⟩,
  ⟨0, .statement office⟩,
  ⟨0, .statement office⟩,
  ⟨0, .commit⟩]

def recordedUnits (ledger : Ledger) : List (Option MaterialUnit × MaterialUnit) :=
  ledger.receipts.rows.map fun receipt => (unitOf ledger receipt.materialId, receipt.unit)

theorem racedUpdate_units :
    recordedUnits (run step (Store.empty 2) racedUpdate).ledger = [(some .kg, .pack)] := by
  decide +kernel

theorem unit_diverges : ¬ ∀ workers (events : List (Event workers)),
    UnitAgrees (run step (Store.empty workers) events).ledger := by
  intro always
  have agrees := always 2 racedUpdate
  have listed : (some MaterialUnit.kg, MaterialUnit.pack) ∈
      recordedUnits (run step (Store.empty 2) racedUpdate).ledger := by
    rw [racedUpdate_units]
    exact List.mem_singleton_self _
  obtain ⟨receipt, stored, pair⟩ := List.mem_map.mp listed
  have same := agrees.receipts receipt stored
  rw [Prod.mk.injEq] at pair
  rw [pair.1, pair.2] at same
  cases same

end

end InfrasafeBot.MaterialService
