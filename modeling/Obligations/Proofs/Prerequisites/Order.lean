import Mathlib.Data.Fintype.Card
import Mathlib.Data.List.Nodup
import Mathlib.Data.List.Perm.Subperm
import Mathlib.Data.Set.Finite.Basic
import Obligations.Prerequisites.Order
import Obligations.Proofs.Prerequisites.Cycle

/-! # Orders that respect prerequisites

The counts of an order always tell how many entries of a node's prerequisites are not in order yet,
repetitions included. So a node becomes ready at the moment when the last of them is put in order, and
only then. What has been put in order is then exactly what has all its prerequisites in order, and
without a cycle these are all the nodes.
-/

namespace Obligations.Graph

open Relation

variable {α : Type} [DecidableEq α]

/-- Whether every node of an order stands behind all nodes that it depends on. -/
def Respects (graph : Graph α) (order : List α) : Prop :=
  ∀ earlier node later, order = earlier ++ node :: later → graph.before node ⊆ earlier

theorem Respects.concat {graph : Graph α} {order : List α} {node : α}
    (respects : graph.Respects order)
    (placed : graph.before node ⊆ order) : graph.Respects (order ++ [node]) := by
  intro earlier other later split
  rcases List.eq_nil_or_concat later with rfl | ⟨later, last, rfl⟩
  · obtain ⟨rfl, same⟩ := List.append_inj' split rfl
    obtain rfl : node = other := by simpa using same
    exact placed
  · rw [List.concat_eq_append, ← List.cons_append, ← List.append_assoc] at split
    exact respects earlier other later (List.append_inj' split rfl).1

namespace Progress

/-- How many prerequisites a node still waits for. -/
def left (progress : Progress α) (node : α) : Int :=
  (progress.waiting.lookup node).getD 0

def keys (progress : Progress α) : List α :=
  progress.waiting.map (·.1)

variable {progress : Progress α} {node : α}

private theorem lookup_replaced (entries : List (α × Int)) (node id : α) (count : Int)
    (listed : node ∈ entries.map (·.1)) :
    (entries.map fun entry => if entry.1 = node then (node, count) else entry).lookup id =
      if id = node then some count else entries.lookup id := by
  induction entries with
  | nil => simp at listed
  | cons entry rest ih =>
    obtain ⟨key, old⟩ := entry
    by_cases here : key = node
    · subst here
      by_cases same : id = key
      · simp [same]
      · have miss : (id == key) = false := by simpa using same
        simp only [List.map_cons, ↓reduceIte, List.lookup_cons, miss, same]
        by_cases again : key ∈ rest.map (·.1)
        · rw [ih again, if_neg same]
        · congr 1
          refine (List.map_congr_left fun entry member => ?_).trans (List.map_id _)
          exact if_neg fun same : entry.1 = key => again (same ▸ List.mem_map_of_mem member)
    · have listed : node ∈ rest.map (·.1) := by simpa [Ne.symm here] using listed
      simp only [List.map_cons, here, ↓reduceIte, List.lookup_cons, ih listed]
      by_cases found : id = key
      · simp [found, here]
      · have miss : (id == key) = false := by simpa using found
        simp [miss]

@[simp] theorem keys_release : (progress.release node).keys = progress.keys := by
  simp only [keys, release, List.map_map]
  refine List.map_congr_left fun entry _ => ?_
  by_cases here : entry.1 = node <;> simp [here]

theorem left_release (listed : node ∈ progress.keys) (id : α) :
    (progress.release node).left id =
      if id = node then progress.left node - 1 else progress.left id := by
  simp only [left, release, lookup_replaced _ _ _ _ listed]
  by_cases same : id = node <;> simp [same]

theorem ready_release :
    (progress.release node).ready =
      if progress.left node = 1 then progress.ready ++ [node] else progress.ready := by
  have meets : (progress.left node - 1 = 0) ↔ progress.left node = 1 := by omega
  exact if_congr meets rfl rfl

/-- What comes of releasing nodes, each a number of times that it can bear. -/
structure Released (times : α → Nat) (nodes : List α) (progress after : Progress α) : Prop where
  keys : after.keys = progress.keys
  sorted : after.sorted = progress.sorted
  left : ∀ id, after.left id = if id ∈ nodes then progress.left id - times id else progress.left id
  ready : after.ready = progress.ready ++
    nodes.filter fun id => decide (0 < times id ∧ progress.left id = times id)

private theorem released_replicate (count : Nat) (listed : node ∈ progress.keys)
    (bearable : (count : Int) ≤ progress.left node) :
    Released (fun _ => count) [node] progress ((List.replicate count node).foldl release progress) := by
  induction count generalizing progress with
  | zero => exact ⟨rfl, rfl, by simp, by simp⟩
  | succ count ih =>
    have lowered : (progress.release node).left node = progress.left node - 1 := by
      rw [left_release listed, if_pos rfl]
    have rest := @ih (progress.release node) (by simpa using listed) (by omega)
    rw [List.replicate_succ, List.foldl_cons]
    refine ⟨rest.keys.trans keys_release, rest.sorted, ?_, ?_⟩
    · intro id
      rw [rest.left, left_release listed]
      by_cases same : id = node
      · simp only [same, List.mem_singleton, ↓reduceIte]
        omega
      · simp [same]
    · rw [rest.ready, ready_release, List.filter_singleton, List.filter_singleton, lowered]
      by_cases last : progress.left node = 1
      · have none : count = 0 := by omega
        simp [last, none]
      · have more : (0 < count ∧ progress.left node - 1 = count) ↔
            progress.left node = (count + 1 : Nat) := by omega
        simp only [last, ↓reduceIte, more, Nat.zero_lt_succ, true_and]

theorem released_flatMap (times : α → Nat) (nodes : List α) (nodup : nodes.Nodup)
    (listed : ∀ node ∈ nodes, node ∈ progress.keys)
    (bearable : ∀ node ∈ nodes, (times node : Int) ≤ progress.left node) :
    Released times nodes progress
      ((nodes.flatMap fun node => List.replicate (times node) node).foldl release progress) := by
  induction nodes generalizing progress with
  | nil => exact ⟨rfl, rfl, by simp, by simp⟩
  | cons node rest ih =>
    obtain ⟨fresh, nodup⟩ := List.nodup_cons.mp nodup
    have first := released_replicate (times node) (listed node List.mem_cons_self)
      (bearable node List.mem_cons_self)
    have unchanged : ∀ other ∈ rest, ((List.replicate (times node) node).foldl release progress).left other =
        progress.left other := by
      intro other member
      rw [first.left, if_neg]
      simpa using fun same : other = node => fresh (same ▸ member)
    have others := ih nodup
      (fun other member => first.keys ▸ listed other (List.mem_cons_of_mem _ member))
      (fun other member => (unchanged other member).symm ▸ bearable other (List.mem_cons_of_mem _ member))
    rw [List.flatMap_cons, List.foldl_append]
    refine ⟨others.keys.trans first.keys, others.sorted.trans first.sorted, ?_, ?_⟩
    · intro id
      rw [others.left, first.left]
      by_cases member : id ∈ rest
      · have other : id ≠ node := fun same => fresh (same ▸ member)
        simp [member, other]
      · by_cases same : id = node
        · subst same
          simp [member]
        · simp [member, same]
    · have sameTest : rest.filter (fun id => decide (0 < times id ∧
            ((List.replicate (times node) node).foldl release progress).left id = times id)) =
          rest.filter fun id => decide (0 < times id ∧ progress.left id = times id) :=
        List.filter_congr fun other member => by rw [unchanged other member]
      rw [others.ready, first.ready, sameTest, List.append_assoc, List.filter_singleton,
        List.filter_cons]
      by_cases last : 0 < times node ∧ progress.left node = times node <;> simp [last]

end Progress

/-- The dependents of a node are named once for every time that they name it. -/
theorem dependents_eq (graph : Graph α) (ids : List α) (node : α) :
    graph.dependents ids node =
      ids.flatMap fun id => List.replicate ((graph.before id).count node) id := by
  have named : ∀ (id : α) (before : List α),
      before.filterMap (fun other => if other = node then some id else none) =
      List.replicate (before.count node) id := by
    intro id before
    induction before with
    | nil => rfl
    | cons other rest ih =>
      by_cases same : other = node
      · simp [same, ih, List.replicate_succ]
      · simp [same, ih]
  simp only [dependents, named]

/-- How far an order can have come: the counts are right, and exactly those nodes have been reached
whose prerequisites are all in order. -/
structure Progress.IsCoherent (graph : Graph α) (ids : List α) (progress : Progress α) : Prop where
  keys : progress.keys = ids
  left : ∀ id ∈ ids, progress.left id = (graph.before id).countP (· ∉ progress.sorted)
  nodup : (progress.sorted ++ progress.ready).Nodup
  reached : ∀ id, id ∈ progress.sorted ++ progress.ready ↔ id ∈ ids ∧ graph.before id ⊆ progress.sorted
  respects : graph.Respects progress.sorted

namespace Progress

variable {graph : Graph α} {ids : List α}

private theorem countP_concat (before sorted : List α) {node : α} (fresh : node ∉ sorted) :
    before.countP (· ∉ sorted) = before.countP (· ∉ sorted ++ [node]) + before.count node := by
  induction before with
  | nil => rfl
  | cons other rest ih =>
    rw [List.countP_cons, List.countP_cons, List.count_cons, ih]
    by_cases same : other = node
    · subst same
      simp only [fresh, List.mem_append, List.mem_singleton, or_true, not_true_eq_false,
        not_false_eq_true,
        decide_true, decide_false, Bool.false_eq_true, beq_self_eq_true, ↓reduceIte]
      omega
    · simp only [List.mem_append, List.mem_singleton, same, or_false, beq_iff_eq, ↓reduceIte]
      omega

private theorem countP_eq_zero_iff_subset (before sorted : List α) :
    before.countP (· ∉ sorted) = 0 ↔ before ⊆ sorted := by
  simp [List.countP_eq_zero, List.subset_def]

/-- The progress once its next ready node has been put in order. -/
def advance (graph : Graph α) (ids : List α) (progress : Progress α) (node : α) (rest : List α) :
    Progress α :=
  (graph.dependents ids node).foldl release
    { progress with ready := rest, sorted := progress.sorted ++ [node] }

variable {progress : Progress α} {node : α} {rest : List α}

theorem IsCoherent.fresh (coherent : IsCoherent graph ids progress)
    (next : progress.ready = node :: rest) :
    node ∉ progress.sorted := by
  have once := coherent.nodup
  rw [next, List.nodup_middle] at once
  exact fun member => (List.nodup_cons.mp once).1 (List.mem_append_left _ member)

private theorem released_advance (coherent : IsCoherent graph ids progress) (nodup : ids.Nodup)
    (next : progress.ready = node :: rest) :
    Released (fun id => (graph.before id).count node) ids
      { progress with ready := rest, sorted := progress.sorted ++ [node] }
      (advance graph ids progress node rest) := by
  have fresh := coherent.fresh next
  rw [advance, dependents_eq]
  refine released_flatMap _ ids nodup (fun id member => ?_) (fun id member => ?_)
  · exact coherent.keys.symm ▸ member
  · refine le_of_le_of_eq ?_ (coherent.left id member).symm
    rw [countP_concat _ _ fresh]
    omega

theorem sorted_advance (coherent : IsCoherent graph ids progress) (nodup : ids.Nodup)
    (next : progress.ready = node :: rest) :
    (advance graph ids progress node rest).sorted = progress.sorted ++ [node] :=
  (released_advance coherent nodup next).sorted

/-- The next ready node is put in order, and those behind it become ready whose last prerequisite it
was, in the order in which the nodes were given. -/
theorem ready_advance (coherent : IsCoherent graph ids progress) (nodup : ids.Nodup)
    (next : progress.ready = node :: rest) :
    (advance graph ids progress node rest).ready = rest ++
      ids.filter fun id => decide (node ∈ graph.before id ∧ graph.before id ⊆ progress.sorted ++ [node]) := by
  have fresh := coherent.fresh next
  rw [(released_advance coherent nodup next).ready]
  congr 1
  refine List.filter_congr fun id member => decide_eq_decide.mpr ?_
  have count : progress.left id = (graph.before id).countP (· ∉ progress.sorted ++ [node]) +
      (graph.before id).count node := by
    rw [coherent.left id member, countP_concat _ _ fresh]
    push_cast
    rfl
  rw [List.count_pos_iff, ← countP_eq_zero_iff_subset]
  refine and_congr_right fun _ => ?_
  show progress.left id = _ ↔ _
  omega

/-- One more node is put in order, and everything said of the progress stays true. -/
theorem advance_isCoherent (coherent : IsCoherent graph ids progress) (nodup : ids.Nodup)
    (next : progress.ready = node :: rest) :
    IsCoherent graph ids (advance graph ids progress node rest) := by
  have fresh := coherent.fresh next
  have released := released_advance coherent nodup next
  have sorted := sorted_advance coherent nodup next
  have placed : graph.before node ⊆ progress.sorted :=
    ((coherent.reached node).mp (by simp [next])).2
  have reached_of_reached : ∀ id, id ∈ progress.sorted ++ progress.ready → node ∉ graph.before id :=
    fun id member edge => fresh (((coherent.reached id).mp member).2 edge)
  refine ⟨released.keys.trans coherent.keys, ?_, ?_, ?_, ?_⟩
  · intro id member
    rw [released.left, if_pos member, sorted]
    show progress.left id - _ = _
    rw [coherent.left id member, countP_concat _ _ fresh]
    push_cast
    omega
  · rw [sorted, ready_advance coherent nodup next, List.append_assoc, List.singleton_append,
      ← List.cons_append,
      ← next, ← List.append_assoc]
    refine coherent.nodup.append (nodup.filter _) ?_
    intro id member new
    simp only [List.mem_filter, decide_eq_true_eq] at new
    exact reached_of_reached id member new.2.1
  · intro id
    have split : id ∈ progress.sorted ++ [node] ++ (rest ++ ids.filter fun id =>
          decide (node ∈ graph.before id ∧ graph.before id ⊆ progress.sorted ++ [node])) ↔
        id ∈ progress.sorted ++ progress.ready ∨
          id ∈ ids ∧ node ∈ graph.before id ∧ graph.before id ⊆ progress.sorted ++ [node] := by
      simp only [next, List.mem_append, List.mem_cons, List.mem_filter, decide_eq_true_eq]
      tauto
    rw [sorted, ready_advance coherent nodup next, split, coherent.reached]
    constructor
    · rintro (⟨member, subset⟩ | ⟨member, _, subset⟩)
      · exact ⟨member, List.Subset.trans subset (List.subset_append_left _ _)⟩
      · exact ⟨member, subset⟩
    · rintro ⟨member, subset⟩
      by_cases edge : node ∈ graph.before id
      · exact .inr ⟨member, edge, subset⟩
      · refine .inl ⟨member, fun other otherEdge => ?_⟩
        rcases List.mem_append.mp (subset otherEdge) with old | new
        · exact old
        · exact (edge (List.mem_singleton.mp new ▸ otherEdge)).elim
  · rw [sorted]
    exact coherent.respects.concat placed

/-- A run that has as many steps left as there are nodes left ends with nothing ready. What every step
preserves is true in the end. -/
theorem run_of_step (invariant : Progress α → Prop) (nodup : ids.Nodup)
    (step : ∀ progress node rest, IsCoherent graph ids progress → invariant progress →
      progress.ready = node :: rest → invariant (advance graph ids progress node rest))
    (fuel : Nat) (coherent : IsCoherent graph ids progress) (holds : invariant progress)
    (fuelled : ids.length ≤ fuel + progress.sorted.length) :
    ∃ final, IsCoherent graph ids final ∧ invariant final ∧ final.ready = [] ∧
      run (graph.dependents ids) fuel progress = final.sorted := by
  induction fuel generalizing progress with
  | zero =>
    have inside : progress.sorted ++ progress.ready ⊆ ids :=
      fun id member => ((coherent.reached id).mp member).1
    have bound := (coherent.nodup.subperm inside).length_le
    rw [List.length_append] at bound
    exact ⟨progress, coherent, holds, List.length_eq_zero_iff.mp (by omega), rfl⟩
  | succ fuel ih =>
    cases next : progress.ready with
    | nil => exact ⟨progress, coherent, holds, next, by simp [run, next]⟩
    | cons node rest =>
      have longer : (advance graph ids progress node rest).sorted.length =
          progress.sorted.length + 1 := by
        rw [sorted_advance coherent nodup next, List.length_append, List.length_singleton]
      obtain ⟨final, finalCoherent, finalHolds, finished, ran⟩ :=
        ih (advance_isCoherent coherent nodup next) (step progress node rest coherent holds next)
          (by omega)
      refine ⟨final, finalCoherent, finalHolds, finished, ?_⟩
      rw [run, next]
      exact ran

end Progress

/-- Before any node has been put in order, those without prerequisites are ready. -/
theorem start_isCoherent (graph : Graph α) (ids : List α) (nodup : ids.Nodup) :
    Progress.IsCoherent graph ids (graph.start ids) where
  keys := by simp [Progress.keys, start, Function.comp_def]
  left := by
    intro id member
    have found : (ids.map fun id => (id, ((graph.before id).length : Int))).lookup id =
        some ((graph.before id).length : Int) := by
      induction ids with
      | nil => cases member
      | cons other rest ih =>
        by_cases same : id = other
        · simp [same]
        · have miss : (id == other) = false := by simpa using same
          rw [List.map_cons, List.lookup_cons, miss]
          exact ih (List.nodup_cons.mp nodup).2 (List.mem_of_ne_of_mem same member)
    simp [Progress.left, start, found]
  nodup := by simpa [start] using nodup.filter _
  reached := by simp [start, List.isEmpty_iff, List.subset_nil]
  respects := by simp [start, Respects]

/-- What has been put in order in the end: every node once whose prerequisites are all in order. -/
structure IsOrderOf (graph : Graph α) (ids order : List α) : Prop where
  nodup : order.Nodup
  mem_iff : ∀ id, id ∈ order ↔ id ∈ ids ∧ graph.before id ⊆ order
  respects : graph.Respects order

theorem sorted_isOrderOf (graph : Graph α) {ids : List α} (nodup : ids.Nodup) :
    graph.IsOrderOf ids (graph.sorted ids) := by
  obtain ⟨final, coherent, _, finished, ran⟩ :=
    Progress.run_of_step (fun _ => True) nodup (fun _ _ _ _ _ _ => trivial)
      (2 * ids.length) (start_isCoherent graph ids nodup) trivial (by omega)
  have once := coherent.nodup
  have reached := coherent.reached
  rw [finished, List.append_nil] at once reached
  rw [sorted, ran]
  exact ⟨once, reached, coherent.respects⟩

/-- Without a cycle, prerequisites lead back along finite ways only. -/
private theorem wellFounded_of_acyclic {graph : Graph α} (ids : List α)
    (acyclic : ¬ graph.IsCyclic) :
    WellFounded fun first second : { id // id ∈ ids } => TransGen graph.DependsOn second.1 first.1 :=
  have : Finite { id // id ∈ ids } := ids.finite_toSet.to_subtype
  have : IsTrans { id // id ∈ ids } fun first second => TransGen graph.DependsOn second.1 first.1 :=
    ⟨fun _ _ _ first second => second.trans first⟩
  have : Std.Irrefl fun first second : { id // id ∈ ids } => TransGen graph.DependsOn second.1 first.1 :=
    ⟨fun id loop => acyclic ⟨id.1, loop⟩⟩
  Finite.wellFounded_of_trans_of_irrefl _

/-- Without a cycle all given nodes are put in order. -/
theorem sorted_perm {graph : Graph α} {ids : List α} (nodup : ids.Nodup)
    (acyclic : ¬ graph.IsCyclic)
    (inside : ∀ id ∈ ids, graph.before id ⊆ ids) : (graph.sorted ids).Perm ids := by
  have order := graph.sorted_isOrderOf nodup
  have all : ∀ id : { id // id ∈ ids }, id.1 ∈ graph.sorted ids := by
    intro id
    induction id using (wellFounded_of_acyclic ids acyclic).induction with
    | _ id ih =>
      refine (order.mem_iff id.1).mpr ⟨id.2, fun other edge => ?_⟩
      exact ih ⟨other, inside id.1 id.2 edge⟩ (.single edge)
  rw [List.perm_ext_iff_of_nodup order.nodup nodup]
  exact fun id => ⟨fun member => ((order.mem_iff id).mp member).1, fun member => all ⟨id, member⟩⟩

end Obligations.Graph
