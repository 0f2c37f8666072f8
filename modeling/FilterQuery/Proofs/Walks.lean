import FilterQuery.Proofs.Leaves

/-!
# A walk over leaves, call by call

A walk is asked for one leaf after the other.  Every call runs a loop that takes the uppermost of
the pending trees: a leaf is the answer, a node makes room for its children, and if no tree is left
the answer is none.  `LeafCursor.Answers` is this loop with the number of its rounds, and
`LeafCursor.answers` are the answers to several calls.

* `LeafCursor.exists_answers`: every round takes one node or leaf off the pending trees, so a call
  comes back after as many rounds as these get smaller by, whatever is pending.
* `LeafCursor.answers_eq`: the answers are the predicates of the pending trees, and then none.
* `Tree.leaves_in_order`: for the walk over one tree, with what follows for joined trees.

Between two calls any trees may be pending, not only those below one node.  The recursion that the
walk is compared with is therefore that over a list of trees, `Tree.predicatesAll`.
-/

namespace FilterQuery

open FilterQuery.Tree (predicatesAll sizeAll)

namespace LeafCursor

/-- A call on the walk takes so many rounds of its loop, and comes back with this answer and the
walk after it.  A call that never came back would have no answer in this sense. -/
inductive Answers : LeafCursor → Nat → Option Predicate → LeafCursor → Prop
  | over : Answers ⟨[]⟩ 0 none ⟨[]⟩
  | leaf (p : Predicate) (ts : List Tree) : Answers ⟨.leaf p :: ts⟩ 1 (some p) ⟨ts⟩
  | node (connective : Connective) (us ts : List Tree) {rounds : Nat} {answer : Option Predicate}
      {after : LeafCursor} (h : Answers ⟨us ++ ts⟩ rounds answer after) :
      Answers ⟨.node connective us :: ts⟩ (rounds + 1) answer after

/-- The answer to a call, and the walk after it; a walk that is over stays so. -/
def ask (cursor : LeafCursor) : Option Predicate × LeafCursor :=
  match cursor.next? with
  | some (p, rest) => (some p, rest)
  | none => (none, ⟨[]⟩)

/-- The answers to a number of calls in a row. -/
def answers : Nat → LeafCursor → List (Option Predicate)
  | 0, _ => []
  | calls + 1, cursor => cursor.ask.1 :: answers calls cursor.ask.2

/-! ### One call -/

theorem ask_nil : ask ⟨[]⟩ = (none, ⟨[]⟩) := by
  rw [ask, next?]

theorem ask_leaf (p : Predicate) (ts : List Tree) : ask ⟨.leaf p :: ts⟩ = (some p, ⟨ts⟩) := by
  rw [ask, next?]

theorem ask_node (connective : Connective) (us ts : List Tree) :
    ask ⟨.node connective us :: ts⟩ = ask ⟨us ++ ts⟩ := by
  rw [ask, next?, ask]

/-- **Every call comes back**, and takes a round for each node and leaf that is no longer pending
after it. -/
theorem exists_answers (cursor : LeafCursor) :
    ∃ rounds, cursor.Answers rounds cursor.ask.1 cursor.ask.2 ∧
      rounds + sizeAll cursor.ask.2.pending = sizeAll cursor.pending := by
  fun_induction next? cursor with
  | case1 =>
    rw [ask_nil]
    exact ⟨0, .over, rfl⟩
  | case2 p ts =>
    rw [ask_leaf]
    exact ⟨1, .leaf p ts, rfl⟩
  | case3 connective us ts ih =>
    obtain ⟨rounds, hanswers, hsize⟩ := ih
    rw [ask_node]
    refine ⟨rounds + 1, .node connective us ts hanswers, ?_⟩
    -- the children were below the node and are pending now, so only the node is gone
    rw [Tree.sizeAll_append] at hsize
    simp only [sizeAll, Tree.size]
    omega

theorem ask_of_predicatesAll_nil {cursor : LeafCursor} (h : predicatesAll cursor.pending = []) :
    cursor.ask = (none, ⟨[]⟩) := by
  unfold ask
  cases hnext : cursor.next? with
  | none => rfl
  | some found =>
    rw [predicatesAll_of_next?_some hnext] at h
    cases h

theorem ask_of_predicatesAll_cons {cursor : LeafCursor} {p : Predicate} {ps : List Predicate}
    (h : predicatesAll cursor.pending = p :: ps) :
    cursor.ask.1 = some p ∧ predicatesAll cursor.ask.2.pending = ps := by
  unfold ask
  cases hnext : cursor.next? with
  | none =>
    rw [predicatesAll_of_next?_none hnext] at h
    cases h
  | some found =>
    rw [predicatesAll_of_next?_some hnext] at h
    cases h
    exact ⟨rfl, rfl⟩

/-! ### Calls in a row -/

theorem answers_of_predicatesAll_nil {cursor : LeafCursor}
    (h : predicatesAll cursor.pending = []) (calls : Nat) :
    cursor.answers calls = List.replicate calls none := by
  induction calls generalizing cursor with
  | zero => rfl
  | succ calls ih => rw [answers, ask_of_predicatesAll_nil h, ih rfl, List.replicate_succ]

/-- **The answers are the predicates of all pending trees, one for each call, and then none.** -/
theorem answers_eq {cursor : LeafCursor} {ps : List Predicate}
    (h : predicatesAll cursor.pending = ps) (more : Nat) :
    cursor.answers (ps.length + more) = ps.map some ++ List.replicate more none := by
  induction ps generalizing cursor with
  | nil => rw [List.length_nil, Nat.zero_add, answers_of_predicatesAll_nil h]; rfl
  | cons p ps ih =>
    obtain ⟨hanswer, hrest⟩ := ask_of_predicatesAll_cons h
    rw [List.length_cons, Nat.succ_add, answers, hanswer, ih hrest, List.map_cons, List.cons_append]

end LeafCursor

namespace Tree

theorem predicatesAll_eq_flatMap (ts : List Tree) : predicatesAll ts = ts.flatMap leaves := by
  induction ts with
  | nil => rfl
  | cons t ts ih => rw [predicatesAll, List.flatMap_cons, leaves_eq_predicates, ih]

theorem leaves_node (connective : Connective) (ts : List Tree) :
    (node connective ts).leaves = ts.flatMap leaves := by
  rw [leaves_eq_predicates, predicates, predicatesAll_eq_flatMap]

theorem leaves_pair (connective : Connective) (t u : Tree) :
    (node connective [t, u]).leaves = t.leaves ++ u.leaves := by
  rw [leaves_node, List.flatMap_cons, List.flatMap_cons, List.flatMap_nil, List.append_nil]

/-- **A walk meets the leaves in order.**  Every call on a walk comes back, whatever trees are
pending.  The calls on the walk over one tree are answered by its predicates, from left to right and
each once, and by none ever after.  The leaves on a field are those among them, and the leaves of
joined trees are those of one tree after the other. -/
theorem leaves_in_order (t : Tree) :
    (∀ cursor : LeafCursor, ∃ rounds, cursor.Answers rounds cursor.ask.1 cursor.ask.2 ∧
      rounds + sizeAll cursor.ask.2.pending = sizeAll cursor.pending) ∧
    (∀ more, (LeafCursor.start t).answers (t.predicates.length + more) =
      t.predicates.map some ++ List.replicate more none) ∧
    t.leaves = t.predicates ∧
    (∀ field, t.leavesOn field = t.predicates.filter (·.field = field)) ∧
    (∀ u, (t.and u).leaves = t.leaves ++ u.leaves ∧ (t.or u).leaves = t.leaves ++ u.leaves) ∧
    ∀ ts, (all ts).leaves = ts.flatMap leaves ∧ (any ts).leaves = ts.flatMap leaves := by
  have hstart : predicatesAll (LeafCursor.start t).pending = t.predicates := by
    rw [LeafCursor.start, predicatesAll, predicatesAll, List.append_nil]
  refine ⟨LeafCursor.exists_answers, LeafCursor.answers_eq hstart, leaves_eq_predicates t, ?_, ?_,
    ?_⟩
  · intro field
    rw [leavesOn, leaves_eq_predicates]
    rfl
  · intro u
    exact ⟨leaves_pair .and t u, leaves_pair .or t u⟩
  · intro ts
    exact ⟨leaves_node .and ts, leaves_node .or ts⟩

end Tree

end FilterQuery
