import FilterQuery.Proofs.Composition

/-!
# Two queries in one

A query may be put behind another one, with a separator between them.  The first error is then the
one of the first query, or else the one of the second, told for the place where the second stands.
Without an error the second query is laid over the first: `parse_joined`.

The pieces of the whole are known from `Piece.all_append`.  The loop over them is a loop over the
ones and then the others (`predicates_append`), and it only looks at the places of pieces to report
them (`predicates_shift`).  What is kept for each field is known from `Compose.lastPerField_append`.
-/

namespace FilterQuery

/-- The same error in a query that starts `n` bytes further on. -/
def SearchError.shift (n : Nat) : SearchError → SearchError
  | .malformed piece fault => .malformed (piece.shift n) fault
  | .unmapped aliasName => .unmapped aliasName

namespace Definition

/-! ### The loop -/

theorem predicates_append (d : Definition) (ps qs : List Piece) :
    (d.predicates (ps ++ qs)).result =
      match (d.predicates ps).result with
      | .error e => .error e
      | .ok user => (d.predicates qs).result.map (user ++ ·) := by
  induction ps with
  | nil => cases h : (d.predicates qs).result <;> simp [predicates, h, Except.map]
  | cons piece ps ih =>
    rw [List.cons_append, predicates_cons_result, predicates_cons_result, ih]
    cases (d.answer piece).result with
    | error e => rfl
    | ok asked =>
      cases (d.predicates ps).result with
      | error e => rfl
      | ok user => cases h : (d.predicates qs).result <;> simp [Except.map]

theorem answer_shift (d : Definition) (n : Nat) (piece : Piece) :
    (d.answer (piece.shift n)).result = (d.answer piece).result.mapError (·.shift n) := by
  have htext : (piece.shift n).text = piece.text := rfl
  rw [answer, answer, Piece.read, Piece.read, htext]
  cases Clause.read d.punctuation d.defaultOperator piece.text with
  | error fault => rfl
  | ok clause =>
    cases hfield : d.fields.get? clause.aliasName with
    | some field => simp [UnmappedPolicy.resolve_of_some hfield, Except.map]
    | none =>
      cases d.unmapped <;>
        simp [UnmappedPolicy.resolve_of_none hfield, Except.map, SearchError.shift]

theorem predicates_shift (d : Definition) (n : Nat) (ps : List Piece) :
    (d.predicates (ps.map (·.shift n))).result =
      (d.predicates ps).result.mapError (·.shift n) := by
  induction ps with
  | nil => rfl
  | cons piece ps ih =>
    rw [List.map_cons, predicates_cons_result, predicates_cons_result, answer_shift, ih]
    cases (d.answer piece).result with
    | error e => rfl
    | ok asked => cases (d.predicates ps).result <;> rfl

/-! ### The whole -/

/-- Both queries as one. -/
def joined (d : Definition) (q₁ q₂ : String) : String :=
  q₁ ++ String.singleton d.punctuation.separator ++ q₂

variable {d : Definition} {q₁ q₂ : String}

theorem predicates_joined (d : Definition) (q₁ q₂ : String) :
    (d.predicates (Piece.all d.punctuation.separator (d.joined q₁ q₂))).result =
      match (d.predicates (Piece.all d.punctuation.separator q₁)).result with
      | .error e => .error e
      | .ok user =>
        ((d.predicates (Piece.all d.punctuation.separator q₂)).result.mapError
          (·.shift (q₁.utf8ByteSize + d.punctuation.separator.utf8Size))).map (user ++ ·) := by
  rw [joined, Piece.all_append, predicates_append, predicates_shift]

theorem parse_joined_error {e : SearchError} (h : (d.parse q₁).result = .error e) :
    (d.parse (d.joined q₁ q₂)).result = .error e := by
  rw [parse_result_eq_error] at h ⊢
  rw [predicates_joined, h]

theorem parse_joined_error_right {t : Tree} {e : SearchError} (h₁ : (d.parse q₁).result = .ok t)
    (h₂ : (d.parse q₂).result = .error e) :
    (d.parse (d.joined q₁ q₂)).result =
      .error (e.shift (q₁.utf8ByteSize + d.punctuation.separator.utf8Size)) := by
  rw [parse_result, Results.map_eq_ok] at h₁
  obtain ⟨user, huser, -⟩ := h₁
  rw [parse_result_eq_error] at h₂ ⊢
  rw [predicates_joined, huser, h₂]
  rfl

theorem requested_joined (d : Definition) (q₁ q₂ : String) :
    d.requested (d.joined q₁ q₂) = d.requested q₁ ++ d.requested q₂ := by
  rw [requested, joined, Piece.texts_append, List.filterMap_append]
  rfl

theorem parse_joined_ok {t₁ t₂ : Tree} (h₁ : (d.parse q₁).result = .ok t₁)
    (h₂ : (d.parse q₂).result = .ok t₂) :
    (d.parse (d.joined q₁ q₂)).result =
      .ok (compose (d.requested q₁ ++ d.requested q₂) d.mandatory d.defaults).result := by
  have haccepts :
      ∀ text ∈ Piece.texts d.punctuation.separator (d.joined q₁ q₂), d.Accepts text := by
    rw [joined, Piece.texts_append, List.forall_mem_append]
    exact ⟨(parse_result_eq_ok.mp h₁).1, (parse_result_eq_ok.mp h₂).1⟩
  rw [← requested_joined]
  exact parse_result_eq_ok.mpr ⟨haccepts, rfl⟩

theorem filter_untouched_append (d : Definition) (q₁ q₂ : String) :
    (d.defaults.filter fun p => p.field ∉ (d.requested q₁ ++ d.requested q₂).map (·.field)) =
      d.defaults.filter fun p => p ∈ d.defaultLeaves q₁ ∧ p ∈ d.defaultLeaves q₂ := by
  refine List.filter_congr fun p hp => ?_
  simp [defaultLeaves, hp, not_or]

/-- **Two queries in one.**  An error in the first query is the error.  Else one in the second is,
moved on by the bytes before it.  Else the tree has the client's leaves of the second query laid
over those of the first, all mandatory predicates, and the defaults that both trees have.  So a
query put behind itself gives what it gives alone. -/
theorem parse_joined (d : Definition) (q₁ q₂ : String) :
    (∀ e, (d.parse q₁).result = .error e → (d.parse (d.joined q₁ q₂)).result = .error e) ∧
    (∀ t e, (d.parse q₁).result = .ok t → (d.parse q₂).result = .error e →
      (d.parse (d.joined q₁ q₂)).result =
        .error (e.shift (q₁.utf8ByteSize + d.punctuation.separator.utf8Size))) ∧
    (∀ t₁ t₂, (d.parse q₁).result = .ok t₁ → (d.parse q₂).result = .ok t₂ →
      t₁ = d.search (d.userLeaves q₁) (d.defaultLeaves q₁) ∧
      t₂ = d.search (d.userLeaves q₂) (d.defaultLeaves q₂) ∧
      (d.parse (d.joined q₁ q₂)).result =
        .ok (d.search (Compose.overlay (d.userLeaves q₁) (d.userLeaves q₂))
          (d.defaults.filter fun p => p ∈ d.defaultLeaves q₁ ∧ p ∈ d.defaultLeaves q₂))) ∧
    (d.parse (d.joined q₁ q₁)).result = (d.parse q₁).result := by
  refine ⟨fun e h => parse_joined_error h, fun t e h₁ h₂ => parse_joined_error_right h₁ h₂,
    fun t₁ t₂ h₁ h₂ => ⟨parse_eq_search h₁, parse_eq_search h₂, ?_⟩, ?_⟩
  · rw [parse_joined_ok h₁ h₂, compose_result, Compose.lastPerField_append,
      filter_untouched_append]
    rfl
  · cases h : (d.parse q₁).result with
    | error e => exact parse_joined_error h
    | ok t =>
      obtain ⟨-, rfl⟩ := parse_result_eq_ok.mp h
      rw [parse_joined_ok h h, compose_result, compose_result, Compose.lastPerField_append_self]
      simp

end Definition

end FilterQuery
