import FilterQuery.Tree.Leaves

/-!
# The walk meets every leaf

`Tree.leaves` walks with a stack and `Tree.predicates` recurses.  `Tree.leaves_eq_predicates` says
they give the same list, so what is proved of the recursion holds of the walk.

The proof runs on the whole stack: `next?` takes away the first predicate of all pending trees
together, and ends when these have none.
-/

namespace FilterQuery

namespace Tree

theorem predicatesAll_append (ts us : List Tree) :
    predicatesAll (ts ++ us) = predicatesAll ts ++ predicatesAll us := by
  induction ts with
  | nil => rfl
  | cons t ts ih => rw [List.cons_append, predicatesAll, predicatesAll, ih, List.append_assoc]

@[simp] theorem predicatesAll_map_leaf (ps : List Predicate) :
    predicatesAll (ps.map .leaf) = ps := by
  induction ps with
  | nil => rfl
  | cons p ps ih => rw [List.map_cons, predicatesAll, ih, predicates, List.singleton_append]

theorem mem_predicatesAll {ts : List Tree} {p : Predicate} :
    p ∈ predicatesAll ts ↔ ∃ t ∈ ts, p ∈ t.predicates := by
  induction ts with
  | nil => simp [predicatesAll]
  | cons t ts ih => simp [predicatesAll, ih]

end Tree

namespace LeafCursor

open FilterQuery.Tree (predicates predicatesAll)

theorem predicatesAll_of_next?_none {cursor : LeafCursor} (h : cursor.next? = none) :
    predicatesAll cursor.pending = [] := by
  fun_induction next? cursor with
  | case1 => rfl
  | case2 => cases h
  | case3 c us ts ih =>
    have := ih h
    rwa [Tree.predicatesAll_append] at this

theorem predicatesAll_of_next?_some {cursor rest : LeafCursor} {p : Predicate}
    (h : cursor.next? = some (p, rest)) :
    predicatesAll cursor.pending = p :: predicatesAll rest.pending := by
  fun_induction next? cursor with
  | case1 => cases h
  | case2 =>
    cases h
    rfl
  | case3 c us ts ih =>
    have := ih h
    rwa [Tree.predicatesAll_append] at this

theorem toList_eq_predicatesAll (cursor : LeafCursor) :
    cursor.toList = predicatesAll cursor.pending := by
  fun_induction toList cursor with
  | case1 cursor h => exact (predicatesAll_of_next?_none h).symm
  | case2 cursor p rest h ih => rw [ih, predicatesAll_of_next?_some h]

end LeafCursor

namespace Tree

/-- **The walk yields the predicates of the tree from left to right, each once.** -/
theorem leaves_eq_predicates (t : Tree) : t.leaves = t.predicates := by
  rw [leaves, LeafCursor.toList_eq_predicatesAll, LeafCursor.start, predicatesAll, predicatesAll,
    List.append_nil]

theorem mem_leaves_node {connective : Connective} {ts : List Tree} {p : Predicate} :
    p ∈ (Tree.node connective ts).leaves ↔ ∃ t ∈ ts, p ∈ t.leaves := by
  simp only [leaves_eq_predicates, predicates, mem_predicatesAll]

theorem mem_leaves_pair {connective : Connective} {t u : Tree} {p : Predicate} :
    p ∈ (Tree.node connective [t, u]).leaves ↔ p ∈ t.leaves ∨ p ∈ u.leaves := by
  simp [mem_leaves_node]

end Tree

end FilterQuery
