import FilterQuery.Proofs.Compile
import FilterQuery.Proofs.Truth

/-!
# Conditions mean what their trees mean

An `Assignment` says of every comparison of a column with a literal whether it is true, false or
unknown.  Under it a condition has a truth value as a database computes it, `Condition.eval`: pairs
joined by AND and OR, lists and bounds spelled out comparison by comparison.  A tree has one as it
is read, `Tree.eval`: all children of a node at once, and every operator by what it says.  What the
leaves are read as does not matter to how they are joined, so `Tree.value` leaves it open.

`eval_of_compile` says that the two agree.  On the way a node of any number of children becomes a
chain of pairs (`Condition.eval_joinAll`), and a negated list becomes a chain of negations
(`eval_ofPredicate`, by De Morgan).
-/

namespace FilterQuery

namespace Sql

/-- The truth of every comparison between a column and a literal; `like` is that of a pattern. -/
structure Assignment where
  compare : Column → Comparison → String → Truth
  like : Column → String → Truth

/-- The value of a condition.  `IN` is short for a chain of equalities joined by OR, `NOT IN` for a
chain of their negations joined by AND, and `BETWEEN` for two comparisons. -/
def Condition.eval (σ : Assignment) : Condition → Truth
  | .constant true => .yes
  | .constant false => .no
  | .compare column comparison literal => σ.compare column comparison literal
  | .like column pattern => σ.like column pattern
  | .isIn column literals =>
    (literals.map (σ.compare column .equal)).foldl Truth.or .no
  | .notIn column literals =>
    (literals.map fun literal => (σ.compare column .equal literal).not).foldl Truth.and .yes
  | .between column lower upper =>
    (σ.compare column .greaterOrEqual lower).and (σ.compare column .lessOrEqual upper)
  | .join connective left right => connective.apply (left.eval σ) (right.eval σ)

end Sql

open Sql (Assignment Column Condition)

/-- The value of a predicate; one whose value has the wrong shape is never settled. -/
def Predicate.eval (σ : Assignment) (p : Predicate) : Truth :=
  let column := Column.ofPath p.field
  match p.op, p.value with
  | .contains, .scalar text => σ.like column (String.ofList (Sql.containing text.toList))
  | .equals, .scalar text => σ.compare column .equal text
  | .lessThan, .scalar text => σ.compare column .less text
  | .lessOrEqual, .scalar text => σ.compare column .lessOrEqual text
  | .greaterThan, .scalar text => σ.compare column .greater text
  | .greaterOrEqual, .scalar text => σ.compare column .greaterOrEqual text
  | .isIn, .list items => Connective.or.gather (items.map (σ.compare column .equal))
  | .notIn, .list items => (Connective.or.gather (items.map (σ.compare column .equal))).not
  | .range, .list [lower, upper] =>
    Connective.and.gather [σ.compare column .greaterOrEqual lower,
      σ.compare column .lessOrEqual upper]
  | _, _ => .unknown

namespace Tree

mutual

/-- The value of a tree whose leaves are read as `v` says: that of its predicate, or of its children
joined. -/
def value (v : Predicate → Truth) : Tree → Truth
  | .leaf p => v p
  | .node connective ts => connective.gather (valueAll v ts)

/-- The values of several trees, in order. -/
def valueAll (v : Predicate → Truth) : List Tree → List Truth
  | [] => []
  | t :: ts => value v t :: valueAll v ts

end

theorem valueAll_eq_map (v : Predicate → Truth) (ts : List Tree) :
    valueAll v ts = ts.map (value v) := by
  induction ts with
  | nil => rfl
  | cons t ts ih => rw [valueAll, ih, List.map_cons]

theorem value_node (v : Predicate → Truth) (connective : Connective) (ts : List Tree) :
    (Tree.node connective ts).value v = connective.gather (ts.map (value v)) := by
  rw [value, valueAll_eq_map]

/-- The value of a tree whose leaves are conditions on rows. -/
def eval (σ : Assignment) (t : Tree) : Truth := t.value (Predicate.eval σ)

end Tree

namespace Sql

variable (σ : Assignment)

/-- **A chain of pairs has the value of all its parts joined.** -/
theorem Condition.eval_joinAll (connective : Connective) (cs : List Condition) :
    (joinAll connective cs).eval σ = connective.gather (cs.map (Condition.eval σ)) := by
  have hfold : ∀ (rest : List Condition) (first : Condition),
      (rest.foldl (.join connective) first).eval σ =
        (rest.map (Condition.eval σ)).foldl connective.apply (first.eval σ) := by
    intro rest
    induction rest with
    | nil => intro first; rfl
    | cons c rest ih => intro first; rw [List.foldl_cons, ih]; rfl
  cases cs with
  | nil => cases connective <;> rfl
  | cons first rest =>
    rw [joinAll, hfold, Connective.foldl_apply, List.map_cons, Connective.gather_cons]

theorem eval_isIn (column : Column) (literals : List String) :
    (Condition.isIn column literals).eval σ =
      Connective.or.gather (literals.map (σ.compare column .equal)) := by
  rw [Condition.eval]
  exact (Connective.foldl_apply .or .no _).trans (Connective.neutral_apply .or _)

theorem eval_notIn (column : Column) (literals : List String) :
    (Condition.notIn column literals).eval σ =
      (Connective.or.gather (literals.map (σ.compare column .equal))).not := by
  rw [Condition.eval, Connective.not_gather, List.map_map]
  exact (Connective.foldl_apply .and .yes _).trans (Connective.neutral_apply .and _)

theorem eval_between (column : Column) (lower upper : String) :
    (Condition.between column lower upper).eval σ =
      Connective.and.gather [σ.compare column .greaterOrEqual lower,
        σ.compare column .lessOrEqual upper] := by
  rw [Condition.eval, Connective.gather_cons, Connective.gather_cons, Connective.gather_nil]
  cases σ.compare column .lessOrEqual upper <;> rfl

/-- **The condition of a predicate has its value.** -/
theorem eval_ofPredicate {p : Predicate} {c : Condition} (h : ofPredicate p = .ok c) :
    c.eval σ = p.eval σ := by
  obtain ⟨field, op, value⟩ := p
  cases value with
  | scalar text =>
    cases op with
    | contains | equals | lessThan | lessOrEqual | greaterThan | greaterOrEqual => cases h; rfl
    | isIn | notIn | range => cases h
  | list items =>
    cases op with
    | isIn =>
      cases items with
      | nil => cases h; rfl
      | cons item rest => cases h; exact eval_isIn σ _ _
    | notIn =>
      cases items with
      | nil => cases h; rfl
      | cons item rest => cases h; exact eval_notIn σ _ _
    | range =>
      match items with
      | [lower, upper] => cases h; exact eval_between σ _ _ _
      | [] | [_] | _ :: _ :: _ :: _ => cases h
    | contains | equals | lessThan | lessOrEqual | greaterThan | greaterOrEqual => cases h

theorem map_eval_of_compileAll {ts : List Tree} {cs : List Condition} (h : compileAll ts = .ok cs)
    (heval : ∀ t ∈ ts, ∀ c, compile t = .ok c → c.eval σ = t.eval σ) :
    cs.map (Condition.eval σ) = ts.map (Tree.eval σ) := by
  induction ts generalizing cs with
  | nil =>
    cases h
    rfl
  | cons t ts ih =>
    obtain ⟨first, hfirst, rest, hrest, rfl⟩ := compileAll_cons_eq_ok.mp h
    obtain ⟨ht, hts⟩ := List.forall_mem_cons.mp heval
    rw [List.map_cons, List.map_cons, ht first hfirst, ih hrest hts]

/-- **The condition of a tree has the value of the tree**, whatever is true, false or unknown of the
comparisons in it. -/
theorem eval_of_compile {t : Tree} {c : Condition} (h : compile t = .ok c) (σ : Assignment) :
    c.eval σ = t.eval σ := by
  induction t using Tree.induction generalizing c with
  | leaf p => exact eval_ofPredicate σ h
  | node connective ts ih =>
    obtain ⟨cs, hcs, rfl⟩ := compile_node_eq_ok.mp h
    rw [Condition.eval_joinAll, map_eval_of_compileAll σ hcs fun t ht c hc => ih t ht hc]
    exact (Tree.value_node (Predicate.eval σ) connective ts).symm

/-- An empty OR beside a negated list that nothing is known about. -/
theorem eval_of_compile_notIn :
    compile (.all [.any [], .leaf ⟨"a__b", .notIn, .list ["x", "y"]⟩]) =
        .ok (.join .and (.constant false) (.notIn ⟨some "a", "b"⟩ ["x", "y"])) ∧
      (Condition.join .and (.constant false) (.notIn ⟨some "a", "b"⟩ ["x", "y"])).eval
          ⟨fun _ _ _ => .unknown, fun _ _ => .unknown⟩ =
        Tree.eval ⟨fun _ _ _ => .unknown, fun _ _ => .unknown⟩
          (.all [.any [], .leaf ⟨"a__b", .notIn, .list ["x", "y"]⟩]) := by
  have h : compile (.all [.any [], .leaf ⟨"a__b", .notIn, .list ["x", "y"]⟩]) =
      .ok (.join .and (.constant false) (.notIn ⟨some "a", "b"⟩ ["x", "y"])) := by cbv
  exact ⟨h, eval_of_compile h _⟩

end Sql

end FilterQuery
