import FilterQuery.Proofs.LastPerField
import FilterQuery.Proofs.Leaves
import FilterQuery.Proofs.Pieces
import FilterQuery.Proofs.Results
import FilterQuery.Search

/-!
# What a query is read as

`Definition.parse` reads piece after piece and stops at the first that cannot be used.  Here one
piece is looked at alone: `Accepts` says that it can be used, `predicate?` what it asks for, and
`requested` gathers the requests of a whole query.  None of the three knows of the loop, and
`parse_result_eq_ok` says that the loop computes them.

The loop is opened once, in `predicates_cons`; `answer` is what it does with one piece.
-/

namespace FilterQuery

namespace UnmappedPolicy

theorem resolve_of_some {policy : UnmappedPolicy} {fields : Fields} {aliasName field : String}
    (h : fields.get? aliasName = some field) :
    policy.resolve fields aliasName = ⟨.ok (some field), []⟩ := by
  rw [resolve, Fields.resolve, h]

theorem resolve_of_none {policy : UnmappedPolicy} {fields : Fields} {aliasName : String}
    (h : fields.get? aliasName = none) :
    policy.resolve fields aliasName =
      match policy with
      | .ignore => ⟨.ok none, [.dropped .debug aliasName]⟩
      | .warn => ⟨.ok none, [.dropped .warn aliasName]⟩
      | .reject => ⟨.error (.unmapped aliasName), []⟩ := by
  cases policy <;> simp only [resolve, Fields.resolve, h]

end UnmappedPolicy

namespace Definition

/-- The text is a clause, and where unmapped aliases are refused its alias is mapped. -/
def Accepts (d : Definition) (text : String) : Prop :=
  ∃ clause, Clause.read d.punctuation d.defaultOperator text = .ok clause ∧
    (d.unmapped = .reject → ∃ field, d.fields.get? clause.aliasName = some field)

/-- The predicate that a text asks for, if it is a clause on a mapped alias. -/
def predicate? (d : Definition) (text : String) : Option Predicate :=
  match Clause.read d.punctuation d.defaultOperator text with
  | .ok clause => (d.fields.get? clause.aliasName).map clause.on
  | .error _ => none

/-- All predicates that a query asks for, in the order of its clauses. -/
def requested (d : Definition) (query : String) : List Predicate :=
  (Piece.texts d.punctuation.separator query).filterMap d.predicate?

theorem predicate?_eq_some {d : Definition} {text : String} {p : Predicate} :
    d.predicate? text = some p ↔
      ∃ clause, Clause.read d.punctuation d.defaultOperator text = .ok clause ∧
        d.fields.get? clause.aliasName = some p.field ∧ p = clause.on p.field := by
  rw [predicate?]
  cases Clause.read d.punctuation d.defaultOperator text with
  | error fault => simp
  | ok clause =>
    simp only [Option.map_eq_some_iff, Except.ok.injEq, exists_eq_left']
    constructor
    · rintro ⟨field, hf, rfl⟩
      exact ⟨hf, rfl⟩
    · rintro ⟨hf, hp⟩
      exact ⟨p.field, hf, hp.symm⟩

/-! ### One piece -/

/-- What a piece adds to the predicates, and the records it leaves. -/
def answer (d : Definition) (piece : Piece) : Logged (Except SearchError (Option Predicate)) :=
  match piece.read d.punctuation d.defaultOperator with
  | .error e => ⟨.error e, []⟩
  | .ok clause =>
    let resolved := d.unmapped.resolve d.fields clause.aliasName
    ⟨resolved.result.map (·.map clause.on), resolved.log⟩

theorem predicates_cons (d : Definition) (piece : Piece) (rest : List Piece) :
    d.predicates (piece :: rest) =
      match d.answer piece with
      | ⟨.error e, log⟩ => ⟨.error e, log⟩
      | ⟨.ok asked, log⟩ =>
        ⟨(d.predicates rest).result.map (asked.toList ++ ·), log ++ (d.predicates rest).log⟩ := by
  rw [predicates, answer]
  cases piece.read d.punctuation d.defaultOperator with
  | error e => rfl
  | ok clause =>
    cases hr : d.unmapped.resolve d.fields clause.aliasName with
    | mk result log =>
      cases result with
      | error e => simp only [hr, Except.map]
      | ok field? =>
        cases field? with
        | none => cases ho : (d.predicates rest).result <;> simp [hr, ho, Except.map, Logged.after]
        | some field => simp only [hr, Except.map]; rfl

theorem predicates_cons_result (d : Definition) (piece : Piece) (rest : List Piece) :
    (d.predicates (piece :: rest)).result =
      match (d.answer piece).result with
      | .error e => .error e
      | .ok asked => (d.predicates rest).result.map (asked.toList ++ ·) := by
  rw [predicates_cons]
  cases d.answer piece with
  | mk result log => cases result <;> rfl

theorem answer_result_eq_ok {d : Definition} {piece : Piece} {asked : Option Predicate} :
    (d.answer piece).result = .ok asked ↔
      d.Accepts piece.text ∧ asked = d.predicate? piece.text := by
  rw [answer, Piece.read, Accepts, predicate?]
  cases Clause.read d.punctuation d.defaultOperator piece.text with
  | error fault => simp
  | ok clause =>
    cases hf : d.fields.get? clause.aliasName with
    | some field =>
      simp [UnmappedPolicy.resolve_of_some hf, Except.map, hf, eq_comm]
    | none =>
      cases d.unmapped <;>
        simp [UnmappedPolicy.resolve_of_none hf, Except.map, hf, eq_comm]

/-! ### The whole query -/

theorem predicates_result_eq_ok {d : Definition} {pieces : List Piece} {user : List Predicate} :
    (d.predicates pieces).result = .ok user ↔
      (∀ piece ∈ pieces, d.Accepts piece.text) ∧
        user = pieces.filterMap fun piece => d.predicate? piece.text := by
  induction pieces generalizing user with
  | nil => simp [predicates, eq_comm]
  | cons piece rest ih =>
    rw [predicates_cons, List.forall_mem_cons]
    cases ha : d.answer piece with
    | mk result log =>
      cases result with
      | error e =>
        have hno : ¬ d.Accepts piece.text := by
          intro h
          have := answer_result_eq_ok.mpr ⟨h, rfl⟩
          rw [ha] at this
          cases this
        exact iff_of_false (by simp) fun h => hno h.1.1
      | ok asked =>
        obtain ⟨hok, rfl⟩ := answer_result_eq_ok.mp (congrArg Logged.result ha)
        rw [Results.map_eq_ok]
        constructor
        · rintro ⟨others, hothers, rfl⟩
          obtain ⟨hrest, rfl⟩ := ih.mp hothers
          refine ⟨⟨hok, hrest⟩, ?_⟩
          cases hp : d.predicate? piece.text <;> simp [hp]
        · rintro ⟨⟨-, hrest⟩, rfl⟩
          refine ⟨_, ih.mpr ⟨hrest, rfl⟩, ?_⟩
          cases hp : d.predicate? piece.text <;> simp [hp]

theorem parse_result (d : Definition) (query : String) :
    (d.parse query).result =
      (d.predicates (Piece.all d.punctuation.separator query)).result.map fun user =>
        (compose user d.mandatory d.defaults).result := by
  rw [parse]
  cases d.predicates (Piece.all d.punctuation.separator query) with
  | mk result log => cases result <;> rfl

theorem parse_result_eq_error {d : Definition} {query : String} {e : SearchError} :
    (d.parse query).result = .error e ↔
      (d.predicates (Piece.all d.punctuation.separator query)).result = .error e := by
  rw [parse_result, Results.map_eq_error]

/-- **A query is read if each of its texts is accepted, and then as the search composed of what
they ask for.** -/
theorem parse_result_eq_ok {d : Definition} {query : String} {t : Tree} :
    (d.parse query).result = .ok t ↔
      (∀ text ∈ Piece.texts d.punctuation.separator query, d.Accepts text) ∧
        t = (compose (d.requested query) d.mandatory d.defaults).result := by
  rw [parse_result, Results.map_eq_ok, requested, ← Piece.map_text_all, List.forall_mem_map,
    List.filterMap_map]
  constructor
  · rintro ⟨user, huser, rfl⟩
    obtain ⟨hall, rfl⟩ := predicates_result_eq_ok.mp huser
    exact ⟨hall, rfl⟩
  · rintro ⟨hall, rfl⟩
    exact ⟨_, predicates_result_eq_ok.mpr ⟨hall, rfl⟩, rfl⟩

end Definition

end FilterQuery
