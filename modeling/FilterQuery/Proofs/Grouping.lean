import FilterQuery.Proofs.Compile
import Mathlib.Logic.Relation

/-!
# Grouping that changes no statement

A node joins the conditions of its children from the left and adds nothing of its own.  So there are
two ways to group the trees of a search that cannot be seen in its statement, wherever in the tree
they are used: a node around one tree, and a node around the first children of a node that joins by
the same word.  `Tree.Regroups` is one such change.  `Sql.select_of_regroups` says that any number
of them leaves the statement as it is, or the error.

A change deep inside a tree reaches its root through the lists of children: the conditions of a list
are made of those of its parts, `Sql.compileAll_append`.  What is left are the changes at a root.
There the first conditions of a chain are joined before the others either way, `joinAll_append`.
-/

namespace FilterQuery

/-- The second tree is the first with one more node, which groups what is joined in this way
anyhow. -/
inductive Tree.Regroups : Tree → Tree → Prop
  /-- A node around a tree. -/
  | wrap (connective : Connective) (t : Tree) : Regroups t (.node connective [t])
  /-- A node around the first children of a node, at least one of them. -/
  | gather (connective : Connective) (first rest : List Tree) (h : first ≠ []) :
      Regroups (.node connective (first ++ rest))
        (.node connective (.node connective first :: rest))
  /-- Either of them at a child of a node. -/
  | inside (connective : Connective) (before after : List Tree) {t u : Tree} (h : Regroups t u) :
      Regroups (.node connective (before ++ t :: after)) (.node connective (before ++ u :: after))

namespace Sql

theorem Condition.joinAll_append (connective : Connective) {first : List Condition}
    (h : first ≠ []) (rest : List Condition) :
    joinAll connective (joinAll connective first :: rest) = joinAll connective (first ++ rest) := by
  obtain ⟨c, cs, rfl⟩ := List.exists_cons_of_ne_nil h
  rw [List.cons_append, joinAll, joinAll, joinAll, List.foldl_append]

/-! ### Several trees -/

theorem compileAll_append (ts us : List Tree) :
    compileAll (ts ++ us) = do
      let first ← compileAll ts
      let rest ← compileAll us
      return first ++ rest := by
  induction ts with
  | nil =>
    rw [List.nil_append, compileAll]
    cases compileAll us <;> rfl
  | cons t ts ih =>
    rw [List.cons_append, compileAll, compileAll, ih]
    cases compile t with
    | error => rfl
    | ok c =>
      cases compileAll ts with
      | error => rfl
      | ok cs => cases compileAll us <;> rfl

/-- Trees with the same condition stand for one another among others. -/
theorem compileAll_inside {t u : Tree} (h : compile t = compile u) (before after : List Tree) :
    compileAll (before ++ t :: after) = compileAll (before ++ u :: after) := by
  rw [compileAll_append, compileAll_append, compileAll, compileAll, h]

theorem ne_nil_of_compileAll {ts : List Tree} {cs : List Condition} (h : compileAll ts = .ok cs)
    (hts : ts ≠ []) : cs ≠ [] := by
  obtain ⟨t, ts, rfl⟩ := List.exists_cons_of_ne_nil hts
  obtain ⟨first, -, rest, -, rfl⟩ := compileAll_cons_eq_ok.mp h
  exact List.cons_ne_nil first rest

/-! ### One change, and any number -/

theorem compile_wrap (connective : Connective) (t : Tree) :
    compile (.node connective [t]) = compile t := by
  rw [compile, compileAll, compileAll]
  cases compile t <;> rfl

theorem compile_gather (connective : Connective) {first : List Tree} (h : first ≠ [])
    (rest : List Tree) :
    compile (.node connective (.node connective first :: rest)) =
      compile (.node connective (first ++ rest)) := by
  rw [compile, compileAll, compile, compile, compileAll_append]
  cases hfirst : compileAll first with
  | error => rfl
  | ok cs =>
    cases compileAll rest with
    | error => rfl
    | ok ds =>
      have hjoin := Condition.joinAll_append connective (ne_nil_of_compileAll hfirst h) ds
      exact congrArg Except.ok hjoin

/-- **One change leaves the condition as it is**, or the predicate that has none. -/
theorem compile_of_regroups {t u : Tree} (h : t.Regroups u) : compile u = compile t := by
  induction h with
  | wrap connective t => exact compile_wrap connective t
  | gather connective first rest h => exact compile_gather connective h rest
  | inside connective before after _ ih =>
    rw [compile, compile, compileAll_inside ih before after]

/-- **The statement does not depend on redundant grouping.**  However many nodes are put around
trees, or around the first children of nodes that join by the same word, and wherever this is done:
the statement is the same for every table, and so is the error if there is none. -/
theorem select_of_regroups {t u : Tree} (h : Relation.ReflTransGen Tree.Regroups t u)
    (table : String) : select table u = select table t := by
  have hcompile : compile u = compile t := by
    induction h with
    | refl => rfl
    | tail _ hlast ih => rw [compile_of_regroups hlast, ih]
  rw [select, select, hcompile]

/-- Below an OR: a group of the first child, and then a node around the last one, which has no
condition. -/
theorem select_of_regroups_nested :
    Relation.ReflTransGen Tree.Regroups
        (.any [.all [.leaf ⟨"a", .isIn, .list []⟩, .leaf ⟨"b", .range, .scalar "1"⟩]])
        (.any [.all [.all [.leaf ⟨"a", .isIn, .list []⟩],
          .any [.leaf ⟨"b", .range, .scalar "1"⟩]]]) ∧
      select "items"
          (.any [.all [.all [.leaf ⟨"a", .isIn, .list []⟩],
            .any [.leaf ⟨"b", .range, .scalar "1"⟩]]]) =
        select "items"
          (.any [.all [.leaf ⟨"a", .isIn, .list []⟩, .leaf ⟨"b", .range, .scalar "1"⟩]]) := by
  have hgather := Tree.Regroups.gather .and [.leaf ⟨"a", .isIn, .list []⟩]
    [.leaf ⟨"b", .range, .scalar "1"⟩] (List.cons_ne_nil _ _)
  have hwrap := Tree.Regroups.inside .and [.all [.leaf ⟨"a", .isIn, .list []⟩]] []
    (.wrap .or (.leaf ⟨"b", .range, .scalar "1"⟩))
  have hsteps := (Relation.ReflTransGen.single (Tree.Regroups.inside .or [] [] hgather)).tail
    (.inside .or [] [] hwrap)
  exact ⟨hsteps, select_of_regroups hsteps "items"⟩

/-- A group of no children can be seen in the statement, and so can a group of the last ones. -/
example :
    let a : Tree := .leaf ⟨"a", .equals, .scalar "1"⟩
    let b : Tree := .leaf ⟨"b", .isIn, .list []⟩
    select "items" (.any [.any [], a]) ≠ select "items" (.any [a]) ∧
      select "items" (.any [a, .any [a, b]]) ≠ select "items" (.any [a, a, b]) := by
  decide

end Sql

end FilterQuery
