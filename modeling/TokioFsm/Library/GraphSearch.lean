import Mathlib.Data.List.Basic
import Mathlib.Logic.Relation

/-!
# Directed graphs with indexed nodes, and a stack search of them

Nodes are the positions of a list of weights, in the order in which they were
added, and edges are pairs of positions.  The search keeps a stack of nodes
still to be looked at; it discovers exactly the nodes reachable from where it
starts.
-/

namespace GraphSearch

/-- A directed graph whose nodes are the indices of a list of weights. -/
structure DiGraph (Weight : Type*) where
  nodes : List Weight := []
  edges : List (Nat × Nat) := []

namespace DiGraph

variable {Weight : Type*}

/-- Add a node, returning its index. -/
def addNode (graph : DiGraph Weight) (weight : Weight) : DiGraph Weight × Nat :=
  ({ graph with nodes := graph.nodes ++ [weight] }, graph.nodes.length)

def addEdge (graph : DiGraph Weight) (source target : Nat) : DiGraph Weight :=
  { graph with edges := graph.edges ++ [(source, target)] }

def Edge (graph : DiGraph Weight) (source target : Nat) : Prop :=
  (source, target) ∈ graph.edges

/-- An edge between nodes that carry the two weights. -/
def Joins (graph : DiGraph Weight) (source target : Weight) : Prop :=
  ∃ first second, graph.Edge first second ∧ graph.nodes[first]? = some source ∧
    graph.nodes[second]? = some target

def Reaches (graph : DiGraph Weight) : Nat → Nat → Prop :=
  Relation.ReflTransGen graph.Edge

def neighbors (graph : DiGraph Weight) (node : Nat) : List Nat :=
  (graph.edges.filter fun edge => decide (edge.1 = node)).map Prod.snd

/-- Pop the stack until it is empty, discovering every node popped for the
first time and pushing its undiscovered neighbours. -/
def discover (graph : DiGraph Weight) :
    (fuel : Nat) → (stack discovered : List Nat) → List Nat
  | 0, _, discovered => discovered
  | _ + 1, [], discovered => discovered
  | fuel + 1, node :: stack, discovered =>
      if node ∈ discovered then discover graph fuel stack discovered
      else
        discover graph fuel
          ((graph.neighbors node).filter (fun next => decide (next ∉ discovered)) ++ stack)
          (node :: discovered)

/-- Every pop uses up a stack entry, and every push an edge out of a newly
discovered node. -/
def search (graph : DiGraph Weight) (start : Nat) : List Nat :=
  graph.discover (1 + graph.edges.length) [start] []

theorem mem_neighbors {graph : DiGraph Weight} {node next : Nat} :
    next ∈ graph.neighbors node ↔ graph.Edge node next := by
  simp [neighbors, Edge]

/-- The edges out of nodes not discovered yet. -/
def unexplored (graph : DiGraph Weight) (discovered : List Nat) : List (Nat × Nat) :=
  graph.edges.filter fun edge => decide (edge.1 ∉ discovered)

theorem length_unexplored_cons (graph : DiGraph Weight) {node : Nat}
    {discovered : List Nat} (fresh : node ∉ discovered) :
    (graph.unexplored (node :: discovered)).length + (graph.neighbors node).length =
      (graph.unexplored discovered).length := by
  have fromNode : (graph.unexplored discovered).filter (fun edge => decide (edge.1 = node)) =
      graph.edges.filter fun edge => decide (edge.1 = node) := by
    rw [unexplored, List.filter_filter]
    apply List.filter_congr
    intro edge _
    by_cases equal : edge.1 = node <;> simp [equal, fresh]
  have fromOthers : (graph.unexplored discovered).filter (fun edge => !decide (edge.1 = node)) =
      graph.unexplored (node :: discovered) := by
    rw [unexplored, List.filter_filter]
    apply List.filter_congr
    intro edge _
    simp
  rw [neighbors, List.length_map, ← fromNode, ← fromOthers, Nat.add_comm]
  exact (List.length_eq_length_filter_add _).symm

theorem discover_reaches (graph : DiGraph Weight) (start : Nat) {fuel : Nat}
    {stack discovered : List Nat}
    (stackReached : ∀ node ∈ stack, graph.Reaches start node)
    (discoveredReached : ∀ node ∈ discovered, graph.Reaches start node) :
    ∀ node ∈ graph.discover fuel stack discovered, graph.Reaches start node := by
  induction fuel generalizing stack discovered with
  | zero => exact discoveredReached
  | succ fuel ih =>
      cases stack with
      | nil => exact discoveredReached
      | cons node stack =>
          have nodeReached := stackReached node (by simp)
          have restReached : ∀ other ∈ stack, graph.Reaches start other :=
            fun other otherMem => stackReached other (by simp [otherMem])
          unfold discover
          split
          · exact ih restReached discoveredReached
          · refine ih ?_ (List.forall_mem_cons.mpr ⟨nodeReached, discoveredReached⟩)
            intro other otherMem
            rcases List.mem_append.mp otherMem with pushed | otherMem
            · exact nodeReached.tail (mem_neighbors.mp (List.mem_of_mem_filter pushed))
            · exact restReached other otherMem

/-- Whatever a discovered node leads to is discovered or still on the stack. -/
def Settled (graph : DiGraph Weight) (stack discovered : List Nat) : Prop :=
  ∀ node ∈ discovered, ∀ next, graph.Edge node next → next ∈ discovered ∨ next ∈ stack

theorem Settled.skip {graph : DiGraph Weight} {node : Nat} {stack discovered : List Nat}
    (settled : graph.Settled (node :: stack) discovered) (seen : node ∈ discovered) :
    graph.Settled stack discovered := by
  intro earlier earlierMem next edge
  rcases settled earlier earlierMem next edge with found | stacked
  · exact Or.inl found
  · rcases List.mem_cons.mp stacked with rfl | stacked
    · exact Or.inl seen
    · exact Or.inr stacked

theorem Settled.expand {graph : DiGraph Weight} {node : Nat} {stack discovered : List Nat}
    (settled : graph.Settled (node :: stack) discovered) :
    graph.Settled
      ((graph.neighbors node).filter (fun next => decide (next ∉ discovered)) ++ stack)
      (node :: discovered) := by
  intro earlier earlierMem next edge
  by_cases found : next ∈ discovered
  · exact Or.inl (List.mem_cons_of_mem _ found)
  rcases List.mem_cons.mp earlierMem with rfl | earlierMem
  · exact Or.inr (List.mem_append_left _
      (List.mem_filter.mpr ⟨mem_neighbors.mpr edge, by simpa using found⟩))
  · rcases List.mem_cons.mp
      ((settled earlier earlierMem next edge).resolve_left found) with rfl | stacked
    · exact Or.inl List.mem_cons_self
    · exact Or.inr (List.mem_append_right _ stacked)

/-- With enough fuel everything on the stack is discovered, nothing is
forgotten, and the discovered nodes end up closed under taking edges. -/
theorem discover_closed (graph : DiGraph Weight) {fuel : Nat}
    {stack discovered : List Nat}
    (enough : stack.length + (graph.unexplored discovered).length ≤ fuel)
    (settled : graph.Settled stack discovered) :
    (∀ node, node ∈ discovered ∨ node ∈ stack →
      node ∈ graph.discover fuel stack discovered) ∧
    graph.Settled [] (graph.discover fuel stack discovered) := by
  induction fuel generalizing stack discovered with
  | zero =>
      have stackNil : stack = [] := List.eq_nil_of_length_eq_zero (by omega)
      subst stack
      exact ⟨by simp [discover], settled⟩
  | succ fuel ih =>
      cases stack with
      | nil => exact ⟨by simp [discover], settled⟩
      | cons node stack =>
          rw [List.length_cons] at enough
          unfold discover
          split
          next seen =>
            obtain ⟨kept, closed⟩ := ih (by omega) (settled.skip seen)
            refine ⟨fun other otherMem => kept other ?_, closed⟩
            rcases otherMem with found | stacked
            · exact Or.inl found
            · rcases List.mem_cons.mp stacked with rfl | stacked
              · exact Or.inl seen
              · exact Or.inr stacked
          next fresh =>
            have counted := graph.length_unexplored_cons fresh
            have pushed := List.length_filter_le
              (fun next => decide (next ∉ discovered)) (graph.neighbors node)
            obtain ⟨kept, closed⟩ :=
              ih (by rw [List.length_append]; omega) settled.expand
            refine ⟨fun other otherMem => kept other ?_, closed⟩
            rcases otherMem with found | stacked
            · exact Or.inl (List.mem_cons_of_mem _ found)
            · rcases List.mem_cons.mp stacked with rfl | stacked
              · exact Or.inl List.mem_cons_self
              · exact Or.inr (List.mem_append_right _ stacked)

/-- The search discovers exactly the reachable nodes. -/
theorem mem_search_iff (graph : DiGraph Weight) {start node : Nat} :
    node ∈ graph.search start ↔ graph.Reaches start node := by
  have unexploredLe : (graph.unexplored []).length ≤ graph.edges.length :=
    List.length_filter_le _ _
  have enough : [start].length + (graph.unexplored []).length ≤ 1 + graph.edges.length := by
    rw [List.length_singleton]
    omega
  have settled : graph.Settled [start] [] := by simp [Settled]
  obtain ⟨kept, closed⟩ := graph.discover_closed enough settled
  constructor
  · refine graph.discover_reaches start ?_ (by simp) node
    exact List.forall_mem_singleton.mpr Relation.ReflTransGen.refl
  · intro reached
    induction reached with
    | refl => exact kept start (by simp)
    | tail _ edge ih => exact (closed _ ih _ edge).resolve_right (by simp)

end DiGraph

end GraphSearch
