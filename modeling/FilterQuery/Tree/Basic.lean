import FilterQuery.Predicate

/-!
# Predicate trees

A search is a tree with predicates at its leaves and AND or OR at its inner nodes, over any number
of children.  `Tree.induction` is the way to reason about one: the hypothesis holds of every child.
-/

namespace FilterQuery

/-- How the children of an inner node are joined. -/
inductive Connective
  | and
  | or
  deriving DecidableEq, Repr

/-- The name in printed trees, which is also the word in SQL. -/
def Connective.name : Connective → String
  | .and => "AND"
  | .or => "OR"

/-- A tree of predicates. -/
inductive Tree
  | leaf (predicate : Predicate)
  | node (connective : Connective) (children : List Tree)

namespace Tree

/-- Induction over a tree, with the hypothesis on every child of a node. -/
@[elab_as_elim]
theorem induction {motive : Tree → Prop} (leaf : ∀ p, motive (.leaf p))
    (node : ∀ c ts, (∀ t ∈ ts, motive t) → motive (.node c ts)) : ∀ t, motive t
  | .leaf p => leaf p
  | .node c ts => node c ts fun t _ => induction leaf node t

mutual

/-- Equality of trees is decidable: node by node. -/
def decideEq : (t u : Tree) → Decidable (t = u)
  | .leaf p, .leaf q => decidable_of_iff (p = q) ⟨congrArg _, fun h => by cases h; rfl⟩
  | .leaf _, .node _ _ => isFalse nofun
  | .node _ _, .leaf _ => isFalse nofun
  | .node c ts, .node d us =>
    match decEq c d, decideEqAll ts us with
    | isTrue hc, isTrue hs => isTrue (by rw [hc, hs])
    | isFalse hc, _ => isFalse fun h => hc (by cases h; rfl)
    | _, isFalse hs => isFalse fun h => hs (by cases h; rfl)

/-- Equality of lists of trees is decidable: tree by tree. -/
def decideEqAll : (ts us : List Tree) → Decidable (ts = us)
  | [], [] => isTrue rfl
  | [], _ :: _ => isFalse nofun
  | _ :: _, [] => isFalse nofun
  | t :: ts, u :: us =>
    match decideEq t u, decideEqAll ts us with
    | isTrue h, isTrue hs => isTrue (by rw [h, hs])
    | isFalse h, _ => isFalse fun e => h (by cases e; rfl)
    | _, isFalse hs => isFalse fun e => hs (by cases e; rfl)

end

instance : DecidableEq Tree := decideEq

/-- The AND of trees. -/
def all (children : List Tree) : Tree := .node .and children

/-- The OR of trees. -/
def any (children : List Tree) : Tree := .node .or children

/-- Both trees. -/
protected def and (t u : Tree) : Tree := all [t, u]

/-- Either tree. -/
protected def or (t u : Tree) : Tree := any [t, u]

/-- The trees directly below the root; a leaf has none. -/
def children : Tree → List Tree
  | .leaf _ => []
  | .node _ ts => ts

/-- The tree inside `times` nodes of one child, alternately AND and OR, the first being `c`. -/
def wrap : (times : Nat) → (c : Connective) → Tree → Tree
  | 0, _, t => t
  | times + 1, c, t =>
    wrap times (match c with | .and => .or | .or => .and) (.node c [t])

mutual

/-- The printed form: a predicate, or `AND(…)` or `OR(…)` around the printed children. -/
def chars : Tree → List Char
  | .leaf p => p.chars
  | .node c ts => c.name.toList ++ '(' :: charsAll ts ++ [')']

/-- The printed forms with commas between them. -/
def charsAll : List Tree → List Char
  | [] => []
  | t :: ts => chars t ++ charsRest ts

/-- The printed forms, each after a comma. -/
def charsRest : List Tree → List Char
  | [] => []
  | t :: ts => ',' :: ' ' :: chars t ++ charsRest ts

end

/-- The printed form as a string. -/
def display (t : Tree) : String := String.ofList t.chars

end Tree

end FilterQuery
