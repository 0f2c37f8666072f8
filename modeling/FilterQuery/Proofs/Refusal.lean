import FilterQuery.Proofs.Grammar
import FilterQuery.Proofs.Search

/-!
# Why a query is refused

A query is refused for one of its pieces: the first that cannot be used.  `Refuses` says of a piece
alone why it cannot be, and is the other half of `Accepts` (`exists_refuses_iff`).  The loop stops
at the first refused piece and hands its reason on (`predicates_result_eq_error`, by induction over
the pieces), so `parse_result_eq_error_iff` says which error a query gives, without the loop.

`parse_blames_first` puts this together with what is known of a piece: where it stands in the query,
byte for byte, and how its alias is written.
-/

namespace FilterQuery

/-- What a clause is on is its alias without the blanks around it, and that is not nothing. -/
theorem Clause.exists_cuts_of_read {marks : Punctuation} {standard : Operator} {text : String}
    {clause : Clause} (h : read marks standard text = .ok clause) :
    ∃ aliasText code raw, Cuts text.toList (aliasText, code, raw) ∧
      clause.aliasName = String.ofList (Text.trim aliasText) ∧ clause.aliasName ≠ "" := by
  obtain ⟨aliasText, code, raw, hparts, hne, -, -, hclause⟩ := read_eq_ok.mp h
  have halias : clause.aliasName = String.ofList (Text.trim aliasText) := by rw [hclause]
  refine ⟨aliasText, code, raw, parts_eq_ok.mp hparts, halias, ?_⟩
  intro hempty
  rw [halias] at hempty
  exact hne (by simpa using congrArg String.toList hempty)

/-- A member with `Q` behind members with `P` only is the head, or else it is one behind the head,
and the head has `P`. -/
theorem exists_first_cons {α : Type} {P Q : α → Prop} {first : α} {rest : List α} :
    (∃ before x after, first :: rest = before ++ x :: after ∧ (∀ y ∈ before, P y) ∧ Q x) ↔
      Q first ∨ P first ∧
        ∃ before x after, rest = before ++ x :: after ∧ (∀ y ∈ before, P y) ∧ Q x := by
  constructor
  · rintro ⟨before, x, after, hsplit, hbefore, hx⟩
    cases before with
    | nil =>
      obtain ⟨rfl, -⟩ := List.cons.inj hsplit
      exact .inl hx
    | cons y before =>
      obtain ⟨rfl, hrest⟩ := List.cons.inj hsplit
      obtain ⟨hfirst, hbefore⟩ := List.forall_mem_cons.mp hbefore
      exact .inr ⟨hfirst, before, x, after, hrest, hbefore, hx⟩
  · rintro (hfirst | ⟨hfirst, before, x, after, rfl, hbefore, hx⟩)
    · exact ⟨[], first, rest, rfl, by simp, hfirst⟩
    · exact ⟨first :: before, x, after, rfl, List.forall_mem_cons.mpr ⟨hfirst, hbefore⟩, hx⟩

namespace Definition

/-- The piece cannot be used, and this is why: its text is no clause, or it is one on an alias that
is not mapped where such aliases are refused. -/
inductive Refuses (d : Definition) (piece : Piece) : SearchError → Prop
  | malformed {fault : Clause.Fault}
      (hread : Clause.read d.punctuation d.defaultOperator piece.text = .error fault) :
      Refuses d piece (.malformed piece fault)
  | unmapped {clause : Clause}
      (hread : Clause.read d.punctuation d.defaultOperator piece.text = .ok clause)
      (hpolicy : d.unmapped = .reject) (hfield : d.fields.get? clause.aliasName = none) :
      Refuses d piece (.unmapped clause.aliasName)

variable {d : Definition}

/-! ### One piece -/

theorem answer_result_eq_error {piece : Piece} {e : SearchError} :
    (d.answer piece).result = .error e ↔ d.Refuses piece e := by
  rw [answer, Piece.read]
  cases hread : Clause.read d.punctuation d.defaultOperator piece.text with
  | error fault =>
    constructor
    · intro h
      cases h
      exact .malformed hread
    · intro h
      cases h with
      | malformed h => rw [Except.error.inj (hread.symm.trans h)]; rfl
      | unmapped h => rw [hread] at h; cases h
  | ok clause =>
    -- the one clause of this text, whichever way it is refused
    have hrefuses : d.Refuses piece e ↔ d.unmapped = .reject ∧
        d.fields.get? clause.aliasName = none ∧ e = .unmapped clause.aliasName := by
      constructor
      · intro h
        cases h with
        | malformed h => rw [hread] at h; cases h
        | unmapped h hpolicy hfield =>
          rw [Except.ok.inj (hread.symm.trans h)]
          exact ⟨hpolicy, hfield, rfl⟩
      · rintro ⟨hpolicy, hfield, rfl⟩
        exact .unmapped hread hpolicy hfield
    rw [hrefuses]
    cases hfield : d.fields.get? clause.aliasName with
    | some field => simp [UnmappedPolicy.resolve_of_some hfield, Except.map]
    | none =>
      cases d.unmapped <;>
        simp [UnmappedPolicy.resolve_of_none hfield, Except.map, eq_comm]

/-- **A piece that is not accepted is refused for a reason.** -/
theorem exists_refuses_iff {piece : Piece} :
    (∃ e, d.Refuses piece e) ↔ ¬ d.Accepts piece.text := by
  cases hanswer : (d.answer piece).result with
  | ok asked =>
    refine iff_of_false ?_ fun hno => hno (answer_result_eq_ok.mp hanswer).1
    rintro ⟨e, he⟩
    have := answer_result_eq_error.mpr he
    rw [hanswer] at this
    cases this
  | error e =>
    refine iff_of_true ⟨e, answer_result_eq_error.mp hanswer⟩ fun haccepts => ?_
    have := answer_result_eq_ok.mpr ⟨haccepts, rfl⟩
    rw [hanswer] at this
    cases this

/-! ### The whole query -/

theorem predicates_result_eq_error {pieces : List Piece} {e : SearchError} :
    (d.predicates pieces).result = .error e ↔
      ∃ before piece after, pieces = before ++ piece :: after ∧
        (∀ earlier ∈ before, d.Accepts earlier.text) ∧ d.Refuses piece e := by
  induction pieces with
  | nil => simp [predicates]
  | cons first rest ih =>
    rw [exists_first_cons, ← ih, ← answer_result_eq_error, predicates_cons_result]
    cases hanswer : (d.answer first).result with
    | error e' =>
      have hrefused := exists_refuses_iff.mp ⟨e', answer_result_eq_error.mp hanswer⟩
      simp [hrefused]
    | ok asked =>
      have haccepted := (answer_result_eq_ok.mp hanswer).1
      simp [haccepted, Results.map_eq_error]

/-- **A query gives an error exactly if this is the reason of its first refused piece.** -/
theorem parse_result_eq_error_iff {query : String} {e : SearchError} :
    (d.parse query).result = .error e ↔
      ∃ before piece after, Piece.all d.punctuation.separator query = before ++ piece :: after ∧
        (∀ earlier ∈ before, d.Accepts earlier.text) ∧ d.Refuses piece e := by
  rw [parse_result_eq_error, predicates_result_eq_error]

/-- Definitions that refuse the same pieces for the same reasons refuse the same queries. -/
theorem parse_result_eq_error_congr {e : Definition}
    (hrefuses : ∀ piece error, d.Refuses piece error ↔ e.Refuses piece error)
    (hseparator : d.punctuation.separator = e.punctuation.separator) {query : String}
    {error : SearchError} :
    (d.parse query).result = .error error ↔ (e.parse query).result = .error error := by
  have haccepts : ∀ piece : Piece, d.Accepts piece.text ↔ e.Accepts piece.text := by
    intro piece
    rw [← not_iff_not, ← exists_refuses_iff, ← exists_refuses_iff]
    exact exists_congr (hrefuses piece)
  simp only [parse_result_eq_error_iff, hseparator, haccepts, hrefuses]

/-- The piece is the first of the query that cannot be used. -/
def FirstRefused (d : Definition) (query : String) (piece : Piece) : Prop :=
  ∃ before after, Piece.all d.punctuation.separator query = before ++ piece :: after ∧
    (∀ earlier ∈ before, d.Accepts earlier.text) ∧ ¬ d.Accepts piece.text

theorem FirstRefused.mem_all {query : String} {piece : Piece} (h : d.FirstRefused query piece) :
    piece ∈ Piece.all d.punctuation.separator query := by
  obtain ⟨before, after, hall, -⟩ := h
  rw [hall]
  exact List.mem_append_right before List.mem_cons_self

theorem FirstRefused.mem_texts {query : String} {piece : Piece} (h : d.FirstRefused query piece) :
    piece.text ∈ Piece.texts d.punctuation.separator query := by
  rw [← Piece.map_text_all]
  exact List.mem_map_of_mem h.mem_all

theorem FirstRefused.exists_refuses {query : String} {piece : Piece}
    (h : d.FirstRefused query piece) : ∃ e, d.Refuses piece e := by
  obtain ⟨-, -, -, -, hpiece⟩ := h
  exact exists_refuses_iff.mpr hpiece

theorem FirstRefused.parse_result {query : String} {piece : Piece} {e : SearchError}
    (h : d.FirstRefused query piece) (he : d.Refuses piece e) :
    (d.parse query).result = .error e := by
  obtain ⟨before, after, hall, hbefore, -⟩ := h
  exact parse_result_eq_error_iff.mpr ⟨before, piece, after, hall, hbefore, he⟩

/-- **A refused query is blamed on its first piece that cannot be used**, and there is one.  The
piece stands where the error says, byte for byte, and is a text without separators.  If it is no
clause, the fault is the one found in its text alone; else its alias is named, which is trimmed, not
empty and not mapped, and only where unmapped aliases are refused. -/
theorem parse_blames_first (d : Definition) (query : String) :
    ((∃ e, (d.parse query).result = .error e) ↔ ∃ piece, d.FirstRefused query piece) ∧
    ∀ piece, d.FirstRefused query piece →
      query.toUTF8.extract piece.span.start piece.span.stop = piece.text.toUTF8 ∧
      piece.text ≠ "" ∧ d.punctuation.separator ∉ piece.text.toList ∧
      (∀ fault, Clause.read d.punctuation d.defaultOperator piece.text = .error fault →
        (d.parse query).result = .error (.malformed piece fault)) ∧
      ∀ clause, Clause.read d.punctuation d.defaultOperator piece.text = .ok clause →
        (d.parse query).result = .error (.unmapped clause.aliasName) ∧
        d.unmapped = .reject ∧ d.fields.get? clause.aliasName = none ∧ clause.aliasName ≠ "" ∧
        ∃ aliasText code raw, Clause.Cuts piece.text.toList (aliasText, code, raw) ∧
          clause.aliasName = String.ofList (Text.trim aliasText) := by
  constructor
  · constructor
    · rintro ⟨e, he⟩
      obtain ⟨before, piece, after, hall, hbefore, hpiece⟩ := parse_result_eq_error_iff.mp he
      exact ⟨piece, before, after, hall, hbefore, exists_refuses_iff.mp ⟨e, hpiece⟩⟩
    · rintro ⟨piece, h⟩
      obtain ⟨e, he⟩ := h.exists_refuses
      exact ⟨e, h.parse_result he⟩
  · intro piece h
    refine ⟨(Piece.standsIn_of_mem_all h.mem_all).bytes, Piece.ne_empty_of_mem_texts h.mem_texts,
      Piece.not_mem_of_mem_texts h.mem_texts, fun fault hread => h.parse_result (.malformed hread),
      ?_⟩
    intro clause hread
    obtain ⟨aliasText, code, raw, hcuts, halias, hne⟩ := Clause.exists_cuts_of_read hread
    obtain ⟨e, he⟩ := h.exists_refuses
    cases he with
    | malformed h' => rw [hread] at h'; cases h'
    | unmapped h' hpolicy hfield =>
      cases Except.ok.inj (hread.symm.trans h')
      exact ⟨h.parse_result (.unmapped hread hpolicy hfield), hpolicy, hfield, hne,
        aliasText, code, raw, hcuts, halias⟩

end Definition

end FilterQuery
