import FilterQuery.Proofs.Composition
import FilterQuery.Proofs.Refusal
import FilterQuery.Proofs.Settings

/-!
# The policies on unmapped aliases

Definitions that differ in nothing but the policy read the same clauses, and ask for the same
predicates.  What the policy decides is only which of the clauses can be used:

* under `ignore` and `warn` every clause can be (`accepts_withPolicy`), and the two differ in the
  log alone;
* under `reject` every clause on a mapped alias (`accepts_reject`), so a query that the others read
  is refused for its first unmapped alias (`parse_reject_of_firstUnmapped?`).

`policies_agree` compares the three on one query.  Its last part takes the unmapped clauses out of
the query: what is left is read as the same tree, whatever the policy.
-/

namespace FilterQuery

namespace Definition

/-- The same definition under this policy.  The checks do not look at the policy. -/
def withPolicy (d : Definition) (policy : UnmappedPolicy) : Definition :=
  { d with unmapped := policy, valid := d.valid }

/-- The text is a clause. -/
def Readable (d : Definition) (text : String) : Prop :=
  ∃ clause, Clause.read d.punctuation d.defaultOperator text = .ok clause

/-- The alias of a clause, if it is not mapped. -/
def unmappedAlias? (d : Definition) (text : String) : Option String :=
  match Clause.read d.punctuation d.defaultOperator text with
  | .ok clause => if d.fields.get? clause.aliasName = none then some clause.aliasName else none
  | .error _ => none

/-- The first alias in the pieces that is not mapped. -/
def firstUnmapped? (d : Definition) (pieces : List Piece) : Option String :=
  pieces.findSome? fun piece => d.unmappedAlias? piece.text

/-- The query put together again from its texts without the clauses on unmapped aliases. -/
def withoutUnmapped (d : Definition) (query : String) : String :=
  String.ofList (Text.join [d.punctuation.separator]
    (((Piece.texts d.punctuation.separator query).filter fun text =>
      (d.unmappedAlias? text).isNone).map String.toList))

variable {d : Definition} {query text : String} {policy : UnmappedPolicy}

/-- Whatever differs from a definition in the policy alone is one of these. -/
theorem eq_withPolicy_iff {e : Definition} :
    e = d.withPolicy e.unmapped ↔ e.toSettings = { d.toSettings with unmapped := e.unmapped } :=
  toSettings_inj.symm

/-- An editor gets from one of the definitions to the others. -/
theorem edit_unmapped (d : Definition) (policy : UnmappedPolicy) :
    d.edit [.unmapped policy] = .ok (d.withPolicy policy) :=
  Settings.check_eq_ok.mpr rfl

theorem unmappedAlias?_eq_some {aliasName : String} :
    d.unmappedAlias? text = some aliasName ↔
      ∃ clause, Clause.read d.punctuation d.defaultOperator text = .ok clause ∧
        d.fields.get? clause.aliasName = none ∧ clause.aliasName = aliasName := by
  rw [unmappedAlias?]
  cases Clause.read d.punctuation d.defaultOperator text <;> simp

theorem unmappedAlias?_eq_none :
    d.unmappedAlias? text = none ↔
      ∀ clause, Clause.read d.punctuation d.defaultOperator text = .ok clause →
        ∃ field, d.fields.get? clause.aliasName = some field := by
  rw [unmappedAlias?]
  cases Clause.read d.punctuation d.defaultOperator text with
  | error fault => simp
  | ok clause => simp [Option.ne_none_iff_exists']

theorem predicate?_of_unmapped (h : d.unmappedAlias? text ≠ none) : d.predicate? text = none := by
  obtain ⟨aliasName, halias⟩ := Option.ne_none_iff_exists'.mp h
  obtain ⟨clause, hread, hfield, -⟩ := unmappedAlias?_eq_some.mp halias
  rw [predicate?, hread]
  simp [hfield]

/-! ### What can be used under a policy -/

theorem accepts_withPolicy (h : policy ≠ .reject) :
    (d.withPolicy policy).Accepts text ↔ d.Readable text := by
  constructor
  · rintro ⟨clause, hread, -⟩
    exact ⟨clause, hread⟩
  · rintro ⟨clause, hread⟩
    exact ⟨clause, hread, fun hreject => absurd hreject h⟩

theorem accepts_reject :
    (d.withPolicy .reject).Accepts text ↔ d.Readable text ∧ d.unmappedAlias? text = none := by
  rw [unmappedAlias?_eq_none]
  constructor
  · rintro ⟨clause, hread, hmapped⟩
    refine ⟨⟨clause, hread⟩, fun clause' hread' => ?_⟩
    rw [← Except.ok.inj (hread.symm.trans hread')]
    exact hmapped rfl
  · rintro ⟨⟨clause, hread⟩, hmapped⟩
    exact ⟨clause, hread, fun _ => hmapped clause hread⟩

theorem refuses_withPolicy (h : policy ≠ .reject) {piece : Piece} {e : SearchError} :
    (d.withPolicy policy).Refuses piece e ↔
      ∃ fault, Clause.read d.punctuation d.defaultOperator piece.text = .error fault ∧
        e = .malformed piece fault := by
  constructor
  · intro hrefuses
    cases hrefuses with
    | malformed hread => exact ⟨_, hread, rfl⟩
    | unmapped _ hreject => exact absurd hreject h
  · rintro ⟨fault, hread, rfl⟩
    exact .malformed hread

theorem parse_withPolicy_eq_ok (h : policy ≠ .reject) {t : Tree} :
    ((d.withPolicy policy).parse query).result = .ok t ↔
      (∀ text ∈ Piece.texts d.punctuation.separator query, d.Readable text) ∧
        t = (compose (d.requested query) d.mandatory d.defaults).result := by
  rw [parse_result_eq_ok]
  simp only [accepts_withPolicy h]
  rfl

theorem parse_reject_eq_ok {t : Tree} :
    ((d.withPolicy .reject).parse query).result = .ok t ↔
      (∀ text ∈ Piece.texts d.punctuation.separator query,
        d.Readable text ∧ d.unmappedAlias? text = none) ∧
        t = (compose (d.requested query) d.mandatory d.defaults).result := by
  rw [parse_result_eq_ok]
  simp only [accepts_reject]
  rfl

theorem parse_ignore_eq_warn (d : Definition) (query : String) :
    ((d.withPolicy .ignore).parse query).result = ((d.withPolicy .warn).parse query).result := by
  have hignore : UnmappedPolicy.ignore ≠ .reject := by decide
  have hwarn : UnmappedPolicy.warn ≠ .reject := by decide
  cases h : ((d.withPolicy .warn).parse query).result with
  | ok t =>
    rw [parse_withPolicy_eq_ok hwarn] at h
    exact (parse_withPolicy_eq_ok hignore).mpr h
  | error e =>
    have hrefuses : ∀ piece error, (d.withPolicy .ignore).Refuses piece error ↔
        (d.withPolicy .warn).Refuses piece error := by
      intro piece error
      rw [refuses_withPolicy hignore, refuses_withPolicy hwarn]
    exact (parse_result_eq_error_congr hrefuses rfl).mpr h

/-! ### Where `reject` departs from the others -/

theorem parse_reject_of_firstUnmapped? {before after : List Piece} {aliasName : String}
    (hall : Piece.all d.punctuation.separator query = before ++ after)
    (hbefore : ∀ earlier ∈ before, d.Readable earlier.text)
    (h : d.firstUnmapped? before = some aliasName) :
    ((d.withPolicy .reject).parse query).result = .error (.unmapped aliasName) := by
  obtain ⟨mapped, piece, rest, rfl, hpiece, hmapped⟩ := List.findSome?_eq_some_iff.mp h
  obtain ⟨clause, hread, hfield, rfl⟩ := unmappedAlias?_eq_some.mp hpiece
  refine parse_result_eq_error_iff.mpr
    ⟨mapped, piece, rest ++ after, ?_, fun earlier hmem => ?_, .unmapped hread rfl hfield⟩
  · rw [← List.cons_append, ← List.append_assoc]
    exact hall
  · exact accepts_reject.mpr ⟨hbefore _ (List.mem_append_left _ hmem), hmapped earlier hmem⟩

theorem firstUnmapped?_eq_none {pieces : List Piece} :
    d.firstUnmapped? pieces = none ↔ ∀ piece ∈ pieces, d.unmappedAlias? piece.text = none :=
  List.findSome?_eq_none_iff

/-- What the others read, `reject` reads as well, unless there is an unmapped alias. -/
theorem parse_reject_of_ok {t : Tree} (h : ((d.withPolicy .warn).parse query).result = .ok t) :
    ((d.withPolicy .reject).parse query).result =
      match d.firstUnmapped? (Piece.all d.punctuation.separator query) with
      | some aliasName => .error (.unmapped aliasName)
      | none => .ok t := by
  obtain ⟨hreadable, ht⟩ := (parse_withPolicy_eq_ok (by decide)).mp h
  rw [← Piece.map_text_all, List.forall_mem_map] at hreadable
  cases hfirst : d.firstUnmapped? (Piece.all d.punctuation.separator query) with
  | some aliasName =>
    exact parse_reject_of_firstUnmapped? (List.append_nil _).symm hreadable hfirst
  | none =>
    have hmapped := firstUnmapped?_eq_none.mp hfirst
    refine parse_reject_eq_ok.mpr ⟨?_, ht⟩
    rw [← Piece.map_text_all, List.forall_mem_map]
    exact fun piece hmem => ⟨hreadable piece hmem, hmapped piece hmem⟩

/-- Where the others find a fault, `reject` does too, unless an unmapped alias comes before it. -/
theorem parse_reject_of_fault {before after : List Piece} {piece : Piece} {e : SearchError}
    (hall : Piece.all d.punctuation.separator query = before ++ piece :: after)
    (hbefore : ∀ earlier ∈ before, d.Readable earlier.text)
    (hpiece : (d.withPolicy .warn).Refuses piece e) :
    ((d.withPolicy .reject).parse query).result =
      .error (match d.firstUnmapped? before with
        | some aliasName => .unmapped aliasName
        | none => e) := by
  cases hfirst : d.firstUnmapped? before with
  | some aliasName => exact parse_reject_of_firstUnmapped? hall hbefore hfirst
  | none =>
    obtain ⟨fault, hread, rfl⟩ := (refuses_withPolicy (by decide)).mp hpiece
    have hmapped := firstUnmapped?_eq_none.mp hfirst
    refine parse_result_eq_error_iff.mpr
      ⟨before, piece, after, hall, fun earlier hmem => ?_, .malformed hread⟩
    exact accepts_reject.mpr ⟨hbefore earlier hmem, hmapped earlier hmem⟩

/-! ### The query without its unmapped clauses -/

theorem texts_withoutUnmapped (d : Definition) (query : String) :
    Piece.texts d.punctuation.separator (d.withoutUnmapped query) =
      (Piece.texts d.punctuation.separator query).filter fun text =>
        (d.unmappedAlias? text).isNone := by
  refine Piece.texts_join (fun text h => ?_) (fun text h => ?_)
  · exact Piece.ne_empty_of_mem_texts (List.mem_of_mem_filter h)
  · exact Piece.not_mem_of_mem_texts (List.mem_of_mem_filter h)

theorem requested_withoutUnmapped (d : Definition) (query : String) :
    d.requested (d.withoutUnmapped query) = d.requested query := by
  rw [requested, texts_withoutUnmapped, List.filterMap_filter, requested]
  refine List.filterMap_congr fun text _ => ?_
  by_cases h : d.unmappedAlias? text = none
  · simp [h]
  · rw [predicate?_of_unmapped h]
    simp

theorem parse_withoutUnmapped {t : Tree}
    (h : ((d.withPolicy .warn).parse query).result = .ok t) :
    ((d.withPolicy .warn).parse (d.withoutUnmapped query)).result = .ok t ∧
      ((d.withPolicy .reject).parse (d.withoutUnmapped query)).result = .ok t := by
  obtain ⟨hreadable, rfl⟩ := (parse_withPolicy_eq_ok (by decide)).mp h
  have hkept : ∀ text ∈ Piece.texts d.punctuation.separator (d.withoutUnmapped query),
      d.Readable text ∧ d.unmappedAlias? text = none := by
    intro text hmem
    rw [texts_withoutUnmapped, List.mem_filter, Option.isNone_iff_eq_none] at hmem
    exact ⟨hreadable text hmem.1, hmem.2⟩
  rw [parse_withPolicy_eq_ok (by decide), parse_reject_eq_ok, requested_withoutUnmapped]
  exact ⟨⟨fun text hmem => (hkept text hmem).1, rfl⟩, hkept, rfl⟩

/-- **The policies agree up to refusal.**  The definitions compared are those that differ from one
in nothing but the policy, and changing the policy leads to each of them.  `ignore` and `warn` give
the same.  `reject` gives the
same tree where every alias is mapped.  Elsewhere it is the first unmapped alias that it refuses a
query for, unless a fault comes before: then that fault, which the others find as well.  Without the
clauses on unmapped aliases the query gives the same tree under each policy. -/
theorem policies_agree (d : Definition) (query : String) :
    (∀ e : Definition, e = d.withPolicy e.unmapped ↔
      e.toSettings = { d.toSettings with unmapped := e.unmapped }) ∧
    (∀ policy, d.edit [.unmapped policy] = .ok (d.withPolicy policy)) ∧
    ((d.withPolicy .ignore).parse query).result = ((d.withPolicy .warn).parse query).result ∧
    (∀ t, ((d.withPolicy .reject).parse query).result = .ok t ↔
      ((d.withPolicy .warn).parse query).result = .ok t ∧
        ∀ text ∈ Piece.texts d.punctuation.separator query, d.unmappedAlias? text = none) ∧
    (∀ t e, ((d.withPolicy .warn).parse query).result = .ok t →
      ((d.withPolicy .reject).parse query).result = .error e →
      ∃ aliasName, d.firstUnmapped? (Piece.all d.punctuation.separator query) = some aliasName ∧
        e = .unmapped aliasName) ∧
    (∀ e, ((d.withPolicy .warn).parse query).result = .error e →
      ∃ before piece after, Piece.all d.punctuation.separator query = before ++ piece :: after ∧
        (∀ earlier ∈ before, d.Readable earlier.text) ∧ (d.withPolicy .warn).Refuses piece e ∧
        ((d.withPolicy .reject).parse query).result =
          .error (match d.firstUnmapped? before with
            | some aliasName => .unmapped aliasName
            | none => e)) ∧
    ∀ t, ((d.withPolicy .warn).parse query).result = .ok t →
      ((d.withPolicy .warn).parse (d.withoutUnmapped query)).result = .ok t ∧
      ((d.withPolicy .reject).parse (d.withoutUnmapped query)).result = .ok t := by
  have hwarn : UnmappedPolicy.warn ≠ .reject := by decide
  refine ⟨fun e => eq_withPolicy_iff, edit_unmapped d, parse_ignore_eq_warn d query, fun t => ?_,
    fun t e hok herror => ?_, fun e herror => ?_, fun t => parse_withoutUnmapped⟩
  · rw [parse_reject_eq_ok, parse_withPolicy_eq_ok hwarn, forall₂_and, and_right_comm]
  · rw [parse_reject_of_ok hok] at herror
    cases hfirst : d.firstUnmapped? (Piece.all d.punctuation.separator query) with
    | some aliasName =>
      rw [hfirst] at herror
      exact ⟨aliasName, rfl, (Except.error.inj herror).symm⟩
    | none =>
      rw [hfirst] at herror
      cases herror
  · obtain ⟨before, piece, after, hall, hbefore, hpiece⟩ := parse_result_eq_error_iff.mp herror
    have hreadable : ∀ earlier ∈ before, d.Readable earlier.text :=
      fun earlier hmem => (accepts_withPolicy hwarn).mp (hbefore earlier hmem)
    exact ⟨before, piece, after, hall, hreadable, hpiece,
      parse_reject_of_fault hall hreadable hpiece⟩

end Definition

end FilterQuery
