import FilterQuery.Tree.Basic

/-!
# The leaves of a tree

`LeafCursor` walks over the leaves of a tree one at a time, depth first and from left to right, with
a stack of the trees still to visit; `Tree.leaves` is the whole walk.  `Tree.predicates` reads the
same predicates off the tree by recursion.
-/

namespace FilterQuery

namespace Tree

mutual

/-- The predicates of the tree, from left to right. -/
def predicates : Tree → List Predicate
  | .leaf p => [p]
  | .node _ ts => predicatesAll ts

/-- The predicates of several trees, in order. -/
def predicatesAll : List Tree → List Predicate
  | [] => []
  | t :: ts => predicates t ++ predicatesAll ts

end

mutual

/-- The number of nodes and leaves. -/
def size : Tree → Nat
  | .leaf _ => 1
  | .node _ ts => sizeAll ts + 1

/-- The number of nodes and leaves of several trees. -/
def sizeAll : List Tree → Nat
  | [] => 0
  | t :: ts => size t + sizeAll ts

end

theorem sizeAll_append (ts us : List Tree) : sizeAll (ts ++ us) = sizeAll ts + sizeAll us := by
  induction ts with
  | nil => simp [sizeAll]
  | cons t ts ih => simp [sizeAll, ih, Nat.add_assoc]

end Tree

/-- A walk over leaves: the trees still to visit, the next one first. -/
structure LeafCursor where
  pending : List Tree

namespace LeafCursor

/-- The walk over the leaves of one tree. -/
def start (t : Tree) : LeafCursor := ⟨[t]⟩

/-- The next leaf and the walk after it, or `none` at the end. -/
def next? : LeafCursor → Option (Predicate × LeafCursor)
  | ⟨[]⟩ => none
  | ⟨.leaf p :: ts⟩ => some (p, ⟨ts⟩)
  | ⟨.node _ us :: ts⟩ => next? ⟨us ++ ts⟩
termination_by cursor => Tree.sizeAll cursor.pending
decreasing_by simp [Tree.sizeAll, Tree.size, Tree.sizeAll_append]

theorem next?_smaller {cursor rest : LeafCursor} {p : Predicate}
    (h : cursor.next? = some (p, rest)) :
    Tree.sizeAll rest.pending < Tree.sizeAll cursor.pending := by
  fun_induction next? cursor with
  | case1 => cases h
  | case2 q ts =>
    cases h
    simp [Tree.sizeAll, Tree.size]
  | case3 c us ts ih =>
    have := ih h
    simp only [Tree.sizeAll, Tree.size, Tree.sizeAll_append] at this ⊢
    omega

/-- All leaves that the walk still meets. -/
def toList (cursor : LeafCursor) : List Predicate :=
  match _h : cursor.next? with
  | none => []
  | some (p, rest) => p :: toList rest
termination_by Tree.sizeAll cursor.pending
decreasing_by exact next?_smaller _h

end LeafCursor

namespace Tree

/-- The predicates at the leaves in the order of the walk. -/
def leaves (t : Tree) : List Predicate := (LeafCursor.start t).toList

/-- The leaves on one field, in the same order. -/
def leavesOn (field : String) (t : Tree) : List Predicate := t.leaves.filter (·.field == field)

end Tree

end FilterQuery
