import FilterQuery.Proofs.Leaves
import FilterQuery.Proofs.Results
import FilterQuery.Sql.Statement

/-!
# Which trees have a condition

Three places look at the shape of a value: the reader of a clause, `Value.fits`, and the cases of
`Sql.ofPredicate`.  `Sql.exists_ofPredicate` says that the last two agree for each of the nine
operators, and `Sql.exists_compile` that a tree has a condition if all its leaves are well-shaped.
-/

namespace FilterQuery.Sql

/-- **A predicate has a condition if and only if its value has the shape of its operator.** -/
theorem exists_ofPredicate {p : Predicate} : (∃ c, ofPredicate p = .ok c) ↔ p.WellShaped := by
  obtain ⟨field, op, value⟩ := p
  cases value with
  | scalar text => cases op <;> simp [ofPredicate, Predicate.WellShaped, Value.fits, Operator.arity]
  | list items =>
    match items with
    | [] | [_] | [_, _] | _ :: _ :: _ :: _ =>
      cases op <;> simp [ofPredicate, Predicate.WellShaped, Value.fits, Operator.arity]

theorem compileAll_cons_eq_ok {t : Tree} {ts : List Tree} {cs : List Condition} :
    compileAll (t :: ts) = .ok cs ↔
      ∃ first, compile t = .ok first ∧ ∃ rest, compileAll ts = .ok rest ∧ first :: rest = cs := by
  simp only [compileAll, Results.bind_eq_ok, Results.pure_eq_ok]

theorem compile_node_eq_ok {connective : Connective} {ts : List Tree} {c : Condition} :
    compile (.node connective ts) = .ok c ↔
      ∃ cs, compileAll ts = .ok cs ∧ Condition.joinAll connective cs = c := by
  rw [compile, Results.map_eq_ok]

theorem exists_compileAll {ts : List Tree} :
    (∃ cs, compileAll ts = .ok cs) ↔ ∀ t ∈ ts, ∃ c, compile t = .ok c := by
  induction ts with
  | nil => simp [compileAll]
  | cons t ts ih =>
    rw [List.forall_mem_cons, ← ih]
    constructor
    · rintro ⟨cs, h⟩
      obtain ⟨first, hfirst, rest, hrest, -⟩ := compileAll_cons_eq_ok.mp h
      exact ⟨⟨first, hfirst⟩, ⟨rest, hrest⟩⟩
    · rintro ⟨⟨first, hfirst⟩, ⟨rest, hrest⟩⟩
      exact ⟨_, compileAll_cons_eq_ok.mpr ⟨first, hfirst, rest, hrest, rfl⟩⟩

/-- **A tree has a condition if and only if all its leaves are well-shaped.** -/
theorem exists_compile {t : Tree} : (∃ c, compile t = .ok c) ↔ ∀ p ∈ t.leaves, p.WellShaped := by
  rw [Tree.leaves_eq_predicates]
  induction t using Tree.induction with
  | leaf p => rw [compile, exists_ofPredicate, Tree.predicates, List.forall_mem_singleton]
  | node connective ts ih =>
    rw [compile, Results.exists_map_eq_ok, exists_compileAll, Tree.predicates]
    constructor
    · intro h p hp
      obtain ⟨t, ht, hpt⟩ := Tree.mem_predicatesAll.mp hp
      exact (ih t ht).mp (h t ht) p hpt
    · exact fun h t ht => (ih t ht).mpr fun p hp => h p (Tree.mem_predicatesAll.mpr ⟨t, ht, hp⟩)

theorem exists_select {table : String} {t : Tree} :
    (∃ text, select table t = .ok text) ↔ ∀ p ∈ t.leaves, p.WellShaped := by
  rw [select, Results.exists_map_eq_ok, exists_compile]

end FilterQuery.Sql
