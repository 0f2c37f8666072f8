import FilterQuery.Proofs.Compile

/-!
# The leaf that is blamed

A tree with a leaf of the wrong shape has no condition, and the error names one predicate:
`Sql.compile_blames_first` says that it is the first such leaf on a walk over the tree, however the
tree is built and whatever comes after it.

The compiler recurses and gives up at the first error, and the walk uses a stack.  They meet in
`Tree.predicates`: the first misfit of a node is looked for in one child after the other, as
`List.find?` looks for it in lists that are joined together (`Sql.compile_eq_error`, by induction
over the tree).
-/

namespace FilterQuery

namespace Predicate

/-- Whether the value has another shape than the operator asks for. -/
def misfits (p : Predicate) : Bool := !p.value.fits p.op.arity

theorem misfits_eq_true {p : Predicate} : p.misfits = true ↔ ¬ p.WellShaped := by
  rw [misfits, WellShaped, Bool.not_eq_true', Bool.not_eq_true]

theorem misfits_eq_false {p : Predicate} : p.misfits = false ↔ p.WellShaped := by
  rw [misfits, WellShaped, Bool.not_eq_false']

theorem find?_misfits_eq_none {ps : List Predicate} :
    ps.find? misfits = none ↔ ∀ p ∈ ps, p.WellShaped := by
  simp only [List.find?_eq_none, Bool.not_eq_true, misfits_eq_false]

end Predicate

/-- The predicate is the first on a walk over the leaves whose value has the wrong shape. -/
def Tree.FirstMisfit (t : Tree) (p : Predicate) : Prop :=
  ∃ before after, t.leaves = before ++ p :: after ∧ (∀ q ∈ before, q.WellShaped) ∧ ¬ p.WellShaped

theorem Tree.find?_misfits_eq_some {t : Tree} {p : Predicate} :
    t.predicates.find? Predicate.misfits = some p ↔ t.FirstMisfit p := by
  rw [List.find?_eq_some_iff_append, FirstMisfit, leaves_eq_predicates, Predicate.misfits_eq_true]
  simp only [Bool.not_eq_true', Predicate.misfits_eq_false]
  constructor
  · rintro ⟨hp, before, after, hsplit, hbefore⟩
    exact ⟨before, after, hsplit, hbefore, hp⟩
  · rintro ⟨before, after, hsplit, hbefore, hp⟩
    exact ⟨hp, before, after, hsplit, hbefore⟩

namespace Sql

/-! ### One predicate -/

theorem predicate_of_ofPredicate {p : Predicate} {e : CompileError}
    (h : ofPredicate p = .error e) : e = ⟨p⟩ := by
  unfold ofPredicate at h
  split at h <;> cases h
  rfl

theorem ofPredicate_eq_error {p : Predicate} {e : CompileError} :
    ofPredicate p = .error e ↔ [p].find? Predicate.misfits = some e.predicate := by
  have hfails : (∃ e, ofPredicate p = .error e) ↔ p.misfits = true := by
    rw [Results.exists_eq_error, exists_ofPredicate, Predicate.misfits_eq_true]
  rw [List.find?_singleton]
  constructor
  · intro h
    rw [if_pos (hfails.mp ⟨e, h⟩), predicate_of_ofPredicate h]
  · intro h
    split at h
    · next hmisfits =>
      obtain ⟨e', he'⟩ := hfails.mpr hmisfits
      obtain ⟨q⟩ := e
      cases h
      rw [he', predicate_of_ofPredicate he']
    · cases h

/-! ### A tree -/

theorem compileAll_cons_eq_error {t : Tree} {ts : List Tree} {e : CompileError} :
    compileAll (t :: ts) = .error e ↔
      compile t = .error e ∨ (∃ c, compile t = .ok c) ∧ compileAll ts = .error e := by
  have hrest : ∀ c, (compileAll ts >>= fun rest => pure (c :: rest)) = .error e ↔
      compileAll ts = .error e := by
    intro c
    rw [Results.bind_eq_error]
    simp [pure, Except.pure]
  simp only [compileAll, Results.bind_eq_error, hrest, exists_and_right]

theorem exists_compile_iff_find? {t : Tree} :
    (∃ c, compile t = .ok c) ↔ t.predicates.find? Predicate.misfits = none := by
  rw [exists_compile, Tree.leaves_eq_predicates, Predicate.find?_misfits_eq_none]

theorem compileAll_eq_error {ts : List Tree} {e : CompileError}
    (h : ∀ t ∈ ts, compile t = .error e ↔
      t.predicates.find? Predicate.misfits = some e.predicate) :
    compileAll ts = .error e ↔
      (Tree.predicatesAll ts).find? Predicate.misfits = some e.predicate := by
  induction ts with
  | nil => simp [compileAll, Tree.predicatesAll]
  | cons t ts ih =>
    obtain ⟨ht, hts⟩ := List.forall_mem_cons.mp h
    rw [compileAll_cons_eq_error, Tree.predicatesAll, List.find?_append, Option.or_eq_some_iff, ht,
      ih hts, exists_compile_iff_find?]

/-- **The error is the first predicate of the tree that does not fit.** -/
theorem compile_eq_error {t : Tree} {e : CompileError} :
    compile t = .error e ↔ t.predicates.find? Predicate.misfits = some e.predicate := by
  induction t using Tree.induction with
  | leaf p => rw [compile, Tree.predicates, ofPredicate_eq_error]
  | node connective ts ih =>
    rw [compile, Results.map_eq_error, Tree.predicates, compileAll_eq_error ih]

/-- **Compilation fails exactly on leaves of the wrong shape, and blames the first of them.** -/
theorem compile_blames_first (t : Tree) :
    ((∃ c, compile t = .ok c) ↔ ∀ p ∈ t.leaves, p.WellShaped) ∧
    (∀ e, compile t = .error e ↔ t.FirstMisfit e.predicate) ∧
    ∀ text, (compile t).mapError CompileError.message = .error text ↔
      ∃ p, t.FirstMisfit p ∧
        text = "cannot compile " ++ p.display ++ ": " ++ CompileError.reason := by
  have herror : ∀ e, compile t = .error e ↔ t.FirstMisfit e.predicate :=
    fun e => compile_eq_error.trans Tree.find?_misfits_eq_some
  refine ⟨exists_compile, herror, fun text => ?_⟩
  rw [Results.mapError_eq_error]
  constructor
  · rintro ⟨e, he, rfl⟩
    exact ⟨e.predicate, (herror e).mp he, rfl⟩
  · rintro ⟨p, hp, rfl⟩
    exact ⟨⟨p⟩, (herror ⟨p⟩).mpr hp, rfl⟩

end Sql

end FilterQuery
