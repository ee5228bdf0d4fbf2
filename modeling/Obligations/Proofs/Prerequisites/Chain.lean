import Mathlib.Data.List.Nodup
import Mathlib.Logic.Relation
import Obligations.Proofs.Prerequisites.Order

/-! # Chains of prerequisites

All that a node depends on is collected by going down from every node that has not been seen yet. A node is
marked as seen on the way down and collected on the way up, so that on a cycle it may be seen by nodes that are
collected before it. Such a node leads back to the one that sees it; apart from this, every node is collected
behind what it depends on. The steps that the search is given always suffice, since every level of it sees a
new node with an entry.
-/

namespace Obligations.Graph

open Relation

variable {α : Type} [DecidableEq α] {graph : Graph α}

/-- What collecting comes to at nodes that are looked at one after another, with no bound on its steps. It
starts and ends with the nodes that have been seen and those that have been collected, in their order. -/
inductive Collects (graph : Graph α) : List α → List α × List α → List α × List α → Prop
  | done {known : List α × List α} : Collects graph [] known known
  | seen {node : α} {rest : List α} {known result : List α × List α} (before : node ∈ known.1)
      (others : Collects graph rest known result) : Collects graph (node :: rest) known result
  | fresh {node : α} {rest : List α} {known below result : List α × List α} (new : node ∉ known.1)
      (inside : Collects graph (graph.before node) (node :: known.1, known.2) below)
      (others : Collects graph rest (below.1, below.2 ++ [node]) result) :
      Collects graph (node :: rest) known result

/-- Collecting comes to one result only. -/
theorem Collects.unique {nodes : List α} {known first second : List α × List α}
    (one : graph.Collects nodes known first) (other : graph.Collects nodes known second) : first = second := by
  induction one generalizing second with
  | done => cases other; rfl
  | seen before _ ih =>
    cases other with
    | seen _ others => exact ih others
    | fresh new => exact absurd before new
  | fresh new _ _ ihInside ihOthers =>
    cases other with
    | seen before => exact absurd before new
    | fresh _ inside others =>
      obtain rfl := ihInside inside
      exact ihOthers others

/-- What collecting has added: each node once, none that had been seen before, all that are seen besides, and
only nodes that are reached from those that were looked at. Whatever an added node depends on is seen now: it
had been seen before, it is added in front of the node, or it leads back to the node. -/
structure Adds (graph : Graph α) (nodes : List α) (known result : List α × List α) (added : List α) :
    Prop where
  chain : result.2 = known.2 ++ added
  mem_seen : ∀ node, node ∈ result.1 ↔ node ∈ known.1 ∨ node ∈ added
  once : added.Nodup
  new : ∀ node ∈ added, node ∉ known.1
  reached : ∀ node ∈ added, ∃ start ∈ nodes, ReflTransGen graph.DependsOn start node
  all : ∀ node ∈ nodes, node ∈ result.1
  closed : ∀ node ∈ added, ∀ other, graph.DependsOn node other → other ∈ result.1
  behind : ∀ node ∈ added, ∀ other, graph.DependsOn node other →
    other ∈ known.1 ∨ [other, node].Sublist added ∨ ReflTransGen graph.DependsOn other node

namespace Adds

variable {node : α} {nodes rest inner outer added : List α} {known below result : List α × List α}

theorem nil (known : List α × List α) : graph.Adds [] known known [] := by
  constructor <;> simp

/-- A node that had been seen adds nothing. -/
theorem cons_seen (adds : graph.Adds rest known result added) (before : node ∈ known.1) :
    graph.Adds (node :: rest) known result added where
  chain := adds.chain
  mem_seen := adds.mem_seen
  once := adds.once
  new := adds.new
  reached other member := by
    obtain ⟨start, listed, reaches⟩ := adds.reached other member
    exact ⟨start, List.mem_cons_of_mem _ listed, reaches⟩
  all := List.forall_mem_cons.mpr ⟨(adds.mem_seen node).mpr (.inl before), adds.all⟩
  closed := adds.closed
  behind := adds.behind

section Fresh

variable (new : node ∉ known.1) (inside : graph.Adds (graph.before node) (node :: known.1, known.2) below inner)
  (others : graph.Adds rest (below.1, below.2 ++ [node]) result outer)

omit [DecidableEq α] in
private theorem mem_joined {other : α} :
    other ∈ inner ++ node :: outer ↔ other ∈ inner ∨ other = node ∨ other ∈ outer := by
  rw [List.mem_append, List.mem_cons]

include inside in
private theorem mem_below {other : α} :
    other ∈ below.1 ↔ other = node ∨ other ∈ known.1 ∨ other ∈ inner := by
  rw [inside.mem_seen, List.mem_cons, or_assoc]

include inside in
private theorem reached_inner {other : α} (member : other ∈ inner) :
    ReflTransGen graph.DependsOn node other := by
  obtain ⟨start, edge, reaches⟩ := inside.reached other member
  exact .head edge reaches

include inside others in
private theorem nodup_joined : (inner ++ node :: outer).Nodup := by
  have apart : ∀ other ∈ outer, other ∉ below.1 := others.new
  have first : node ∉ inner := fun member => inside.new node member List.mem_cons_self
  have last : node ∉ outer := fun member => apart node member ((mem_below inside).mpr (.inl rfl))
  have between : List.Disjoint inner outer := fun other member later =>
    apart other later ((mem_below inside).mpr (.inr (.inr member)))
  rw [List.nodup_middle, List.nodup_cons, List.mem_append, not_or]
  exact ⟨⟨first, last⟩, inside.once.append others.once between⟩

include new inside others in
private theorem new_joined {other : α} (member : other ∈ inner ++ node :: outer) : other ∉ known.1 := by
  intro before
  rcases mem_joined.mp member with collected | rfl | later
  · exact inside.new other collected (List.mem_cons_of_mem _ before)
  · exact new before
  · exact others.new other later ((mem_below inside).mpr (.inr (.inl before)))

include inside others in
private theorem reached_joined {other : α} (member : other ∈ inner ++ node :: outer) :
    ∃ start ∈ node :: rest, ReflTransGen graph.DependsOn start other := by
  rcases mem_joined.mp member with collected | rfl | later
  · exact ⟨node, List.mem_cons_self, reached_inner inside collected⟩
  · exact ⟨other, List.mem_cons_self, .refl⟩
  · obtain ⟨start, listed, reaches⟩ := others.reached other later
    exact ⟨start, List.mem_cons_of_mem _ listed, reaches⟩

include inside others in
private theorem closed_joined {other next : α} (member : other ∈ inner ++ node :: outer)
    (edge : graph.DependsOn other next) : next ∈ result.1 := by
  have keeps : next ∈ below.1 → next ∈ result.1 := fun before => (others.mem_seen next).mpr (.inl before)
  rcases mem_joined.mp member with collected | rfl | later
  · exact keeps (inside.closed other collected next edge)
  · exact keeps (inside.all next edge)
  · exact others.closed other later next edge

omit [DecidableEq α] in
private theorem pair_sublist_append {first second : List α} {one other : α} (member : one ∈ first)
    (memberToo : other ∈ second) : [one, other].Sublist (first ++ second) :=
  (List.singleton_sublist.mpr member).append (List.singleton_sublist.mpr memberToo)

include inside others in
/-- What an added node depends on was seen before all this, is added below the new node, is the new node, or is
added behind it. -/
private theorem behind_joined {other next : α} (member : other ∈ inner ++ node :: outer)
    (edge : graph.DependsOn other next) :
    next ∈ known.1 ∨ [next, other].Sublist (inner ++ node :: outer) ∨
      ReflTransGen graph.DependsOn next other := by
  rcases mem_joined.mp member with collected | rfl | later
  · rcases inside.behind other collected next edge with before | order | leads
    · rcases List.mem_cons.mp before with rfl | before
      · exact .inr (.inr (reached_inner inside collected))
      · exact .inl before
    · exact .inr (.inl (order.trans (List.sublist_append_left _ _)))
    · exact .inr (.inr leads)
  · rcases (mem_below inside).mp (inside.all next edge) with rfl | before | collected
    · exact .inr (.inr .refl)
    · exact .inl before
    · exact .inr (.inl (pair_sublist_append collected List.mem_cons_self))
  · have further : (node :: outer).Sublist (inner ++ node :: outer) := List.sublist_append_right _ _
    rcases others.behind other later next edge with before | order | leads
    · rcases (mem_below inside).mp before with rfl | before | collected
      · exact .inr (.inl (((List.singleton_sublist.mpr later).cons_cons next).trans further))
      · exact .inl before
      · exact .inr (.inl (pair_sublist_append collected (List.mem_cons_of_mem _ later)))
    · exact .inr (.inl ((order.trans (List.sublist_cons_self _ _)).trans further))
    · exact .inr (.inr leads)

include new inside others in
/-- A new node is added behind what is added below it and before what the other nodes add. -/
theorem cons_fresh : graph.Adds (node :: rest) known result (inner ++ node :: outer) where
  chain := by
    rw [others.chain, inside.chain]
    simp
  mem_seen other := by
    rw [others.mem_seen, mem_below inside, mem_joined]
    tauto
  once := nodup_joined inside others
  new _ := new_joined new inside others
  reached _ := reached_joined inside others
  all := by
    refine List.forall_mem_cons.mpr ⟨?_, others.all⟩
    exact (others.mem_seen node).mpr (.inl ((mem_below inside).mpr (.inl rfl)))
  closed _ member _ := closed_joined inside others member
  behind _ member _ := behind_joined inside others member

end Fresh

end Adds

theorem Collects.exists_adds {nodes : List α} {known result : List α × List α}
    (collects : graph.Collects nodes known result) : ∃ added, graph.Adds nodes known result added := by
  induction collects with
  | done => exact ⟨[], .nil _⟩
  | seen before _ ih =>
    obtain ⟨added, adds⟩ := ih
    exact ⟨added, adds.cons_seen before⟩
  | fresh new _ _ ihInside ihOthers =>
    obtain ⟨inner, inside⟩ := ihInside
    obtain ⟨outer, others⟩ := ihOthers
    exact ⟨_, inside.cons_fresh new others⟩

section Steps

/-- One more node: it has been seen, or it is collected behind all that it depends on. -/
def visit (graph : Graph α) (fuel : Nat) (known : List α × List α) (node : α) : List α × List α :=
  if known.1.contains node then known
  else
    let below := graph.collect fuel node (node :: known.1, known.2)
    (below.1, below.2 ++ [node])

theorem collect_succ (fuel : Nat) (node : α) (known : List α × List α) :
    graph.collect (fuel + 1) node known = (graph.before node).foldl (graph.visit fuel) known :=
  rfl

/-- The nodes with an entry that have not been seen. -/
def unseen (graph : Graph α) (seen : List α) : Finset α :=
  graph.nodes.toFinset \ seen.toFinset

theorem unseen_subset {seen after : List α} (keeps : ∀ node ∈ seen, node ∈ after) :
    graph.unseen after ⊆ graph.unseen seen := by
  intro node fresh
  simp only [unseen, Finset.mem_sdiff, List.mem_toFinset] at fresh ⊢
  exact ⟨fresh.1, fun member => fresh.2 (keeps node member)⟩

theorem card_unseen_cons_lt {seen : List α} {node : α} (entry : node ∈ graph.nodes) (new : node ∉ seen) :
    (graph.unseen (node :: seen)).card < (graph.unseen seen).card := by
  have fresh : node ∈ graph.unseen seen := by simp [unseen, entry, new]
  have gone : node ∉ graph.unseen (node :: seen) := by simp [unseen]
  refine Finset.card_lt_card ⟨unseen_subset fun other => List.mem_cons_of_mem node, fun all => ?_⟩
  exact gone (all fresh)

theorem before_eq_nil {node : α} (entry : node ∉ graph.nodes) : graph.before node = [] :=
  List.eq_nil_iff_forall_not_mem.mpr fun _ edge => entry (mem_nodes_of_dependsOn edge)

/-- Nodes are collected one after another if each new one of them is. -/
private theorem foldl_visit_collects {fuel : Nat} {nodes : List α} {known : List α × List α}
    (inside : ∀ node, ∀ known : List α × List α, node ∉ known.1 → (graph.unseen known.1).card ≤ fuel →
      graph.Collects (graph.before node) (node :: known.1, known.2)
        (graph.collect fuel node (node :: known.1, known.2)))
    (fuelled : (graph.unseen known.1).card ≤ fuel) :
    graph.Collects nodes known (nodes.foldl (graph.visit fuel) known) := by
  induction nodes generalizing known with
  | nil => exact .done
  | cons node rest ih =>
    rw [List.foldl_cons, visit]
    split
    next before => exact .seen (by simpa using before) (ih fuelled)
    next fresh =>
      have new : node ∉ known.1 := by simpa using fresh
      have below := inside node known new fuelled
      have keeps : ∀ other ∈ known.1, other ∈ (graph.collect fuel node (node :: known.1, known.2)).1 := by
        obtain ⟨added, adds⟩ := below.exists_adds
        exact fun other member => (adds.mem_seen other).mpr (.inl (List.mem_cons_of_mem _ member))
      exact .fresh new below (ih ((Finset.card_le_card (unseen_subset keeps)).trans fuelled))

/-- What a new node depends on is collected, as long as there are as many steps as nodes with an entry that
have not been seen. -/
theorem collect_collects {fuel : Nat} {node : α} {known : List α × List α} (new : node ∉ known.1)
    (fuelled : (graph.unseen known.1).card ≤ fuel) :
    graph.Collects (graph.before node) (node :: known.1, known.2)
      (graph.collect fuel node (node :: known.1, known.2)) := by
  -- the steps bound how deep the search goes, and every level sees a node with an entry or ends there
  induction fuel generalizing node known with
  | zero =>
    have entry : node ∉ graph.nodes := fun entry => by
      have fewer := card_unseen_cons_lt entry new
      omega
    rw [before_eq_nil entry]
    exact .done
  | succ fuel deeper =>
    rw [collect_succ]
    by_cases entry : node ∈ graph.nodes
    · have fewer := card_unseen_cons_lt entry new
      exact foldl_visit_collects (fun _ _ => deeper) (Nat.le_of_lt_succ (fewer.trans_le fuelled))
    · rw [before_eq_nil entry]
      exact .done

/-- The chain of a node is what collecting comes to at all that it depends on, when nothing is known. -/
theorem chain_collects (graph : Graph α) (node : α) :
    ∃ seen, graph.Collects (graph.before node) ([], []) (seen, graph.chain node) := by
  have fuelled : (graph.unseen []).card ≤ graph.length := by
    have distinct : graph.unseen [] ⊆ graph.nodes.toFinset := Finset.sdiff_subset
    calc (graph.unseen []).card ≤ graph.nodes.toFinset.card := Finset.card_le_card distinct
      _ ≤ graph.nodes.length := List.toFinset_card_le _
      _ = graph.length := List.length_map ..
  refine ⟨(graph.collect (graph.length + 1) node ([], [])).1, ?_⟩
  exact foldl_visit_collects (fun _ _ => collect_collects) fuelled

end Steps

omit [DecidableEq α] in
/-- Of two members of a list without repetition the first one stands before the second. -/
private theorem mem_of_pair_sublist {earlier later : List α} {one other : α}
    (distinct : (earlier ++ other :: later).Nodup) (pair : [one, other].Sublist (earlier ++ other :: later)) :
    one ∈ earlier := by
  induction earlier with
  | nil =>
    have last : other ∉ later := (List.nodup_cons.mp distinct).1
    cases pair with
    | cons _ further => exact absurd (further.subset (by simp)) last
    | cons_cons _ further => exact absurd (further.subset (by simp)) last
  | cons first rest ih =>
    cases pair with
    | cons _ further => exact List.mem_cons_of_mem _ (ih (List.nodup_cons.mp distinct).2 further)
    | cons_cons => exact List.mem_cons_self

section Chain

variable (graph) (node : α)

theorem chain_adds : ∃ seen, graph.Adds (graph.before node) ([], []) (seen, graph.chain node) (graph.chain node) := by
  obtain ⟨seen, collects⟩ := graph.chain_collects node
  obtain ⟨added, adds⟩ := collects.exists_adds
  obtain rfl : graph.chain node = added := adds.chain
  exact ⟨seen, adds⟩

theorem chain_nodup : (graph.chain node).Nodup := by
  obtain ⟨seen, adds⟩ := graph.chain_adds node
  exact adds.once

/-- The chain of a node has the nodes that it depends on, directly or not, and no others. -/
theorem mem_chain_iff (other : α) : other ∈ graph.chain node ↔ TransGen graph.DependsOn node other := by
  obtain ⟨seen, adds⟩ := graph.chain_adds node
  have all : ∀ other, other ∈ seen ↔ other ∈ graph.chain node := by simpa using adds.mem_seen
  constructor
  · intro member
    obtain ⟨start, edge, reaches⟩ := adds.reached other member
    exact .head' edge reaches
  · intro reached
    induction reached with
    | single edge => exact (all _).mp (adds.all _ edge)
    | tail _ edge ih => exact (all _).mp (adds.closed _ ih _ edge)

/-- Without a cycle every node of a chain stands behind all that it depends on. -/
theorem chain_respects (acyclic : ¬ graph.IsCyclic) : graph.Respects (graph.chain node) := by
  obtain ⟨seen, adds⟩ := graph.chain_adds node
  intro earlier other later split next edge
  have member : other ∈ graph.chain node := by simp [split]
  rcases adds.behind other member next edge with none | order | leads
  · cases none
  · rw [split] at order
    exact mem_of_pair_sublist (split ▸ adds.once) order
  · exact absurd ⟨other, .head' edge leads⟩ acyclic

end Chain

end Obligations.Graph
