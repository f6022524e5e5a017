import Mathlib.Algebra.BigOperators.Group.Finset.Basic
import Mathlib.Algebra.Order.BigOperators.Group.Finset
import Mathlib.Logic.Relation

/-!
# Breadth-first visits

A visit takes the nodes of a queue one by one and appends the children of those that it
has not expanded before. Cycles and shared children lead to entries that are skipped. On
finitely many nodes the queue runs empty, and the order of the visit then consists of the
nodes that are reachable from the queue, each once.
-/

namespace FinopsAnalytics.BreadthFirst

universe u
variable {α : Type u} [DecidableEq α] (children : α → List α)

/-- The nodes that are expanded, in order. The fuel bounds the number of queue entries
taken; without fuel the visit has not ended. -/
def visit : ℕ → List α → List α → Option (List α)
  | 0, _, _ => none
  | _ + 1, [], _ => some []
  | fuel + 1, node :: queue, expanded =>
    if node ∈ expanded then visit fuel queue expanded
    else (visit fuel (queue ++ (children node).filter (· ∉ node :: expanded))
      (node :: expanded)).map (node :: ·)

/-- A node and what its children, their children and so on are. -/
def Reaches : α → α → Prop := Relation.ReflTransGen fun parent child => child ∈ children parent

section Termination

/-- The queue and the children that may still be appended to it. -/
def pending (nodes : Finset α) (queue expanded : List α) : ℕ :=
  queue.length + ∑ node ∈ nodes.filter (· ∉ expanded), (children node).length

/-- Expanding a node appends at most its children, which are not appended again. -/
theorem pending_expand {nodes : Finset α} {node : α} {queue expanded : List α}
    (isNode : node ∈ nodes) (unexpanded : node ∉ expanded) :
    pending children nodes (queue ++ (children node).filter (· ∉ node :: expanded))
      (node :: expanded) < pending children nodes (node :: queue) expanded := by
  have remaining : nodes.filter (· ∉ node :: expanded) =
      (nodes.filter (· ∉ expanded)).erase node := by
    ext other
    simp only [Finset.mem_filter, Finset.mem_erase, List.mem_cons, not_or]
    tauto
  have listed : node ∈ nodes.filter (· ∉ expanded) :=
    Finset.mem_filter.mpr ⟨isNode, unexpanded⟩
  have split := Finset.add_sum_erase _ (fun other => (children other).length) listed
  have appended := List.length_filter_le (· ∉ node :: expanded) (children node)
  unfold pending
  rw [remaining, List.length_append, List.length_cons]
  omega

/-- On finitely many nodes the visit ends. -/
theorem visit_ends {nodes : Finset α} (closed : ∀ node ∈ nodes, ∀ child ∈ children node,
    child ∈ nodes) {fuel : ℕ} {queue expanded : List α} (inside : ∀ node ∈ queue, node ∈ nodes)
    (enough : pending children nodes queue expanded < fuel) :
    ∃ order, visit children fuel queue expanded = some order := by
  induction fuel generalizing queue expanded with
  | zero => exact absurd enough (Nat.not_lt_zero _)
  | succ fuel inductionHypothesis =>
    cases queue with
    | nil => exact ⟨[], rfl⟩
    | cons node queue =>
      have isNode := inside node (List.mem_cons_self ..)
      have rest : ∀ other ∈ queue, other ∈ nodes := fun other member =>
        inside other (List.mem_cons_of_mem _ member)
      rw [visit]
      by_cases known : node ∈ expanded
      · rw [if_pos known]
        apply inductionHypothesis rest
        unfold pending at enough ⊢
        rw [List.length_cons] at enough
        omega
      · rw [if_neg known]
        have fewer := @pending_expand _ _ children _ _ queue _ isNode known
        have appended : ∀ other ∈ queue ++ (children node).filter (· ∉ node :: expanded),
            other ∈ nodes := by
          intro other member
          rcases List.mem_append.mp member with waiting | child
          · exact rest other waiting
          · exact closed node isNode other (List.mem_filter.mp child).1
        obtain ⟨order, ended⟩ := inductionHypothesis appended
          (fewer.trans_le (Nat.lt_succ_iff.mp enough))
        exact ⟨node :: order, by rw [ended, Option.map_some]⟩

end Termination

section Order

variable {children} {fuel : ℕ} {queue expanded order : List α}

/-- The order of a visit, by the first entry of the queue. -/
theorem visit_cons {node : α}
    (visited : visit children (fuel + 1) (node :: queue) expanded = some order) :
    node ∈ expanded ∧ visit children fuel queue expanded = some order ∨
      node ∉ expanded ∧ ∃ rest, order = node :: rest ∧
        visit children fuel (queue ++ (children node).filter (· ∉ node :: expanded))
          (node :: expanded) = some rest := by
  rw [visit] at visited
  by_cases known : node ∈ expanded
  · rw [if_pos known] at visited
    exact Or.inl ⟨known, visited⟩
  · rw [if_neg known] at visited
    obtain ⟨rest, later, rfl⟩ := Option.map_eq_some_iff.mp visited
    exact Or.inr ⟨known, rest, rfl, later⟩

/-- Whatever is expanded is reachable from the queue. -/
theorem reaches_of_visit (visited : visit children fuel queue expanded = some order) :
    ∀ node ∈ order, ∃ entry ∈ queue, Reaches children entry node := by
  induction fuel generalizing queue expanded order with
  | zero => cases visited
  | succ fuel inductionHypothesis =>
    cases queue with
    | nil =>
      obtain rfl : [] = order := Option.some.inj visited
      simp
    | cons entry queue =>
      intro node member
      rcases visit_cons visited with ⟨-, later⟩ | ⟨-, rest, rfl, later⟩
      · obtain ⟨other, waiting, reaches⟩ := inductionHypothesis later node member
        exact ⟨other, List.mem_cons_of_mem _ waiting, reaches⟩
      · rcases List.mem_cons.mp member with rfl | inRest
        · exact ⟨node, List.mem_cons_self .., Relation.ReflTransGen.refl⟩
        · obtain ⟨other, waiting, reaches⟩ := inductionHypothesis later node inRest
          rcases List.mem_append.mp waiting with inQueue | child
          · exact ⟨other, List.mem_cons_of_mem _ inQueue, reaches⟩
          · exact ⟨entry, List.mem_cons_self .., Relation.ReflTransGen.head
              (List.mem_filter.mp child).1 reaches⟩

/-- Nothing is left: the entries of the queue and the children of what is expanded have
been expanded, now or before. -/
theorem visit_closed (visited : visit children fuel queue expanded = some order) :
    (∀ entry ∈ queue, entry ∈ expanded ∨ entry ∈ order) ∧
      ∀ node ∈ order, ∀ child ∈ children node, child ∈ expanded ∨ child ∈ order := by
  induction fuel generalizing queue expanded order with
  | zero => cases visited
  | succ fuel inductionHypothesis =>
    cases queue with
    | nil =>
      obtain rfl : [] = order := Option.some.inj visited
      simp
    | cons entry queue =>
      rcases visit_cons visited with ⟨known, later⟩ | ⟨-, rest, rfl, later⟩
      · obtain ⟨entries, nodes⟩ := inductionHypothesis later
        refine ⟨fun other member => ?_, nodes⟩
        rcases List.mem_cons.mp member with rfl | waiting
        · exact Or.inl known
        · exact entries other waiting
      · obtain ⟨entries, nodes⟩ := inductionHypothesis later
        have shift {other : α} (done : other ∈ entry :: expanded ∨ other ∈ rest) :
            other ∈ expanded ∨ other ∈ entry :: rest := by
          simp only [List.mem_cons] at done ⊢
          tauto
        constructor
        · intro other member
          rcases List.mem_cons.mp member with rfl | waiting
          · exact Or.inr (List.mem_cons_self ..)
          · exact shift (entries other (List.mem_append_left _ waiting))
        · intro node member child isChild
          apply shift
          rcases List.mem_cons.mp member with rfl | inRest
          · by_cases known : child ∈ node :: expanded
            · exact Or.inl known
            · apply entries child
              apply List.mem_append_right
              exact List.mem_filter.mpr ⟨isChild, by simpa using known⟩
          · exact nodes node inRest child isChild

/-- A visit from nothing expanded expands what is reachable from its queue. -/
theorem mem_visit (visited : visit children fuel queue [] = some order) (node : α) :
    node ∈ order ↔ ∃ entry ∈ queue, Reaches children entry node := by
  constructor
  · exact reaches_of_visit visited node
  · rintro ⟨entry, waiting, reaches⟩
    obtain ⟨entries, nodes⟩ := visit_closed visited
    induction reaches with
    | refl => exact (entries entry waiting).resolve_left List.not_mem_nil
    | tail _ isChild reached => exact (nodes _ reached _ isChild).resolve_left List.not_mem_nil

end Order

end FinopsAnalytics.BreadthFirst
