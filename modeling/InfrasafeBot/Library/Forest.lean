import Mathlib.Logic.Function.Basic

/-! Parent pointers. A node is rooted if the pointers lead from it to a node without a
parent; they form a forest if every node is. -/

set_option autoImplicit false

namespace InfrasafeBot.Library.Forest

variable {Node : Type}

section

variable (parent : Node → Option Node)

inductive Rooted : Node → Prop where
  | root {node : Node} (alone : parent node = none) : Rooted node
  | child {node above : Node} (link : parent node = some above) (rooted : Rooted above) :
      Rooted node

inductive Reaches : Node → Node → Prop where
  | refl (node : Node) : Reaches node node
  | step {node above top : Node} (link : parent node = some above) (rest : Reaches above top) :
      Reaches node top

/-- The nodes from the first one up to its root. -/
def IsChain : List Node → Prop
  | [] => False
  | [top] => parent top = none
  | node :: above :: rest => parent node = some above ∧ IsChain (above :: rest)

def IsChain.decide [DecidableEq Node] : (nodes : List Node) → Decidable (IsChain parent nodes)
  | [] => .isFalse id
  | [top] => inferInstanceAs (Decidable (parent top = none))
  | _ :: above :: rest =>
    have : Decidable (IsChain parent (above :: rest)) := IsChain.decide (above :: rest)
    inferInstanceAs (Decidable (_ ∧ _))

instance isChainDecidable [DecidableEq Node] (nodes : List Node) : Decidable (IsChain parent nodes) :=
  IsChain.decide parent nodes

end

variable {parent : Node → Option Node} {node above below top : Node}

theorem Reaches.trans (first : Reaches parent below node) (second : Reaches parent node top) :
    Reaches parent below top := by
  induction first with
  | refl node => exact second
  | step link _ ih => exact .step link (ih second)

theorem Reaches.concat (first : Reaches parent below node) (link : parent node = some above) :
    Reaches parent below above :=
  first.trans (.step link (.refl above))

theorem Rooted.acyclic (rooted : Rooted parent node) (link : parent node = some above) :
    ¬ Reaches parent above node := by
  induction rooted generalizing above with
  | root alone =>
    rw [alone] at link
    cases link
  | child stored rooted ih =>
    intro back
    rw [stored] at link
    cases link
    cases back with
    | refl => exact ih stored (.refl _)
    | step next rest => exact ih next (rest.concat stored)

theorem IsChain.mem_of_reaches {nodes : List Node} (chain : IsChain parent (node :: nodes))
    (reaches : Reaches parent node top) : top ∈ node :: nodes := by
  induction reaches generalizing nodes with
  | refl node => exact List.mem_cons_self
  | step link rest ih =>
    cases nodes with
    | nil =>
      rw [IsChain, link] at chain
      cases chain
    | cons next others =>
      obtain ⟨stored, later⟩ := chain
      rw [link] at stored
      cases stored
      exact List.mem_cons_of_mem _ (ih later)

section

variable [DecidableEq Node]

theorem Rooted.update_of_avoids {pointer : Option Node} (rooted : Rooted parent below)
    (avoids : ¬ Reaches parent below node) :
    Rooted (Function.update parent node pointer) below := by
  induction rooted with
  | root alone =>
    have other : _ ≠ node := fun same => avoids (same ▸ .refl _)
    exact .root (by rw [Function.update_of_ne other]; exact alone)
  | child link rooted ih =>
    have other : _ ≠ node := fun same => avoids (same ▸ .refl _)
    refine .child ?_ (ih fun found => avoids (.step link found))
    rw [Function.update_of_ne other]
    exact link

theorem Rooted.update {pointer : Option Node} (rooted : Rooted parent below)
    (changed : Rooted (Function.update parent node pointer) node) :
    Rooted (Function.update parent node pointer) below := by
  induction rooted with
  | @root current alone =>
    by_cases same : current = node
    · exact same ▸ changed
    · exact .root (by rw [Function.update_of_ne same]; exact alone)
  | @child current above link rooted ih =>
    by_cases same : current = node
    · exact same ▸ changed
    · exact .child (by rw [Function.update_of_ne same]; exact link) ih

theorem Rooted.cut (rooted : Rooted parent below) : Rooted (Function.update parent node none) below :=
  rooted.update (.root (Function.update_self node none parent))

theorem Rooted.move (rooted : Rooted parent below) (target : Rooted parent above)
    (avoids : ¬ Reaches parent above node) :
    Rooted (Function.update parent node (some above)) below :=
  rooted.update (.child (Function.update_self node (some above) parent) (target.update_of_avoids avoids))

theorem Reaches.update_self {pointer : Option Node} (reaches : Reaches parent below node) :
    Reaches (Function.update parent node pointer) below node := by
  induction reaches with
  | refl node => exact .refl node
  | @step current next node link rest ih =>
    by_cases same : current = node
    · exact same ▸ .refl _
    · exact .step (by rw [Function.update_of_ne same]; exact link) ih

theorem not_rooted_of_cycle (cycle : Reaches parent above node) :
    ¬ Rooted (Function.update parent node (some above)) node :=
  fun rooted => rooted.acyclic (Function.update_self node (some above) parent) cycle.update_self

end

end InfrasafeBot.Library.Forest
