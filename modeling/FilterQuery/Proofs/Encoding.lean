import FilterQuery.Proofs.Composition
import FilterQuery.Proofs.Lists
import FilterQuery.Proofs.Settings
import Mathlib.Data.List.Forall2

/-!
# Reading undoes writing

What a client writes is what the search is composed of, under every punctuation that a definition
may have: `parse_written`.

The argument goes from the inside out.  A value is given back by its text (`Writable.gives`).  The
checks on aliases make sure that an alias ends where it should, in both written forms
(`hasForm_plain`, `hasForm_directive`), so a clause is given back by its text (`read_written`).  No
separator gets into a clause (`separator_not_mem_written`), so the query is cut into the clauses it
was put together from (`texts_spaced`).
-/

namespace FilterQuery

/-! ### Values -/

namespace Value.Writable

variable {marks : Punctuation} {arity : Arity} {value : Value}

theorem gives (h : Writable marks arity value) :
    Clause.Gives marks (value.written marks) arity value := by
  cases h with
  | @scalar text _ hbare =>
    have hgives := Clause.Gives.scalar hbare
    rwa [String.ofList_toList] at hgives
  | @list items htrim _ hdelimiter hblank =>
    have hcanonical : Clause.Canonical marks (items.map String.toList) :=
      ⟨by simpa using htrim, by simpa using hdelimiter, hblank.imp_left fun h => by rw [h]; rfl⟩
    have hitems : (items.map String.toList).map String.ofList = items := by
      simp [Function.comp_def]
    have hgives := Clause.Gives.list hcanonical.lists
    rwa [hitems] at hgives

theorem separator_not_mem (h : Writable marks arity value)
    (hmarks : marks.separator ∉ [marks.listOpen, marks.listClose, marks.delimiter]) :
    marks.separator ∉ value.written marks := by
  cases h with
  | scalar hseparator _ => exact hseparator
  | @list items _ hseparator _ _ =>
    simp only [List.mem_cons, List.not_mem_nil, or_false, not_or] at hmarks
    obtain ⟨hopen, hclose, hdelimiter⟩ := hmarks
    have hjoin : marks.separator ∉ Text.join [marks.delimiter] (items.map String.toList) := by
      intro hmem
      rcases Text.mem_join hmem with hmem | ⟨s, hs, hmem⟩
      · exact hdelimiter (List.mem_singleton.mp hmem)
      · obtain ⟨item, hitem, rfl⟩ := List.mem_map.mp hs
        exact hseparator item hitem hmem
    simp [Value.written, Clause.listText, hopen, hclose, hjoin]

end Value.Writable

/-! ### Clauses -/

theorem Operator.mark_not_infix_code (op : Operator) :
    ¬ ['_', '_'] <:+: op.code.toList ++ ['_'] := by
  cases op <;> decide

namespace Definition

variable {d : Definition} {entry : String × String}

theorem hasForm_plain (h : entry ∈ d.fields.entries) (value : List Char) :
    Clause.HasForm (entry.1.toList ++ ':' :: value) (.plain entry.1.toList value) :=
  .plain (d.sound.colon_not_mem entry h) (d.sound.mark_not_infix entry h)

/-- An alias does not end in `_`, so the mark behind it is not met one character too early. -/
theorem hasForm_directive (h : entry ∈ d.fields.entries) (rest : List Char) :
    Clause.HasForm (entry.1.toList ++ '_' :: '_' :: rest) (.directive entry.1.toList rest) := by
  refine .directive (d.sound.colon_not_mem entry h) fun hmark => ?_
  rcases Text.mark_infix_concat.mp hmark with hmark | ⟨hlast, -⟩
  · exact d.sound.mark_not_infix entry h hmark
  · exact d.sound.not_ends entry h hlast

theorem cuts_directive (h : entry ∈ d.fields.entries) (op : Operator) (value : List Char) :
    Clause.Cuts (entry.1.toList ++ '_' :: '_' :: op.code.toList ++ '_' :: '_' :: value)
      (entry.1.toList, some op.code.toList, value) := by
  refine .directive ?_ op.mark_not_infix_code
  rw [List.append_assoc]
  exact hasForm_directive h (op.code.toList ++ '_' :: '_' :: value)

/-- No alias is empty, so what becomes one when it is trimmed is more than blanks. -/
theorem isAllBlank_of_trimmed {aliasName field : String}
    (h : (String.ofList (Text.trim aliasName.toList), field) ∈ d.fields.entries) :
    Text.isAllBlank aliasName.toList = false := by
  rw [← Bool.not_eq_true, ← Text.trim_eq_nil]
  intro hnil
  exact d.sound.alias_ne _ h (by rw [hnil])

/-- The clause is on a mapped alias without blanks around it, and its value can be written. -/
structure CanWrite (d : Definition) (c : Clause) : Prop where
  mapped : ∃ field, d.fields.get? c.aliasName = some field
  trimmed : Text.trim c.aliasName.toList = c.aliasName.toList
  writable : c.value.Writable d.punctuation c.op.arity

/-- The clause asks for the predicate: the same comparison, on the field behind the alias. -/
structure Asks (d : Definition) (c : Clause) (p : Predicate) : Prop where
  field : d.fields.get? c.aliasName = some p.field
  op : p.op = c.op
  value : p.value = c.value

variable {c : Clause} {text : List Char}

/-- **A clause is read back from each of its texts.** -/
theorem read_written (h : d.CanWrite c)
    (htext : Clause.Written d.punctuation d.defaultOperator c text) :
    Clause.read d.punctuation d.defaultOperator (String.ofList text) = .ok c := by
  obtain ⟨field, hfield⟩ := h.mapped
  have hentry := Fields.mem_of_get?_eq_some hfield
  have halias : Text.isAllBlank c.aliasName.toList = false :=
    isAllBlank_of_trimmed (by rwa [h.trimmed, String.ofList_toList])
  have hreads : Clause.Reads d.punctuation d.defaultOperator text
      (.ok ⟨String.ofList (Text.trim c.aliasName.toList), c.op, c.value⟩) := by
    cases htext with
    | plain hop =>
      exact .clause (.plain (hasForm_plain hentry _)) halias (hop ▸ .standard) h.writable.gives
    | directive hop =>
      exact .clause (cuts_directive hentry c.op _) halias (.code hop) h.writable.gives
  rw [h.trimmed, String.ofList_toList] at hreads
  rw [Clause.read_eq_iff, String.toList_ofList]
  exact hreads

theorem separator_not_mem_written (h : d.CanWrite c)
    (htext : Clause.Written d.punctuation d.defaultOperator c text) :
    d.punctuation.separator ∉ text := by
  obtain ⟨field, hfield⟩ := h.mapped
  have halias := d.sound.separator_not_mem _ (Fields.mem_of_get?_eq_some hfield)
  have hvalue := h.writable.separator_not_mem d.sound.separator_not_mem_marks
  cases htext with
  | plain hop => simp [halias, d.sound.separator_ne_colon, hvalue]
  | directive hop hcode => simp [halias, d.sound.separator_ne_underscore, hcode, hvalue]

theorem ne_nil_of_written (htext : Clause.Written d.punctuation d.defaultOperator c text) :
    text ≠ [] := by
  cases htext <;> simp

theorem predicate?_written (h : d.CanWrite c)
    (htext : Clause.Written d.punctuation d.defaultOperator c text) :
    ∃ p, d.predicate? (String.ofList text) = some p ∧ d.Asks c p := by
  obtain ⟨field, hfield⟩ := h.mapped
  refine ⟨c.on field, ?_, ⟨hfield, rfl, rfl⟩⟩
  exact predicate?_eq_some.mpr ⟨c, read_written h htext, hfield, rfl⟩

end Definition

/-! ### Queries -/

/-- **A query is cut into the texts it was put together from.** -/
theorem Piece.texts_spaced {separator : Char} {texts : List (List Char)} {query : List Char}
    (h : Spaced separator texts query) (hfree : ∀ t ∈ texts, separator ∉ t)
    (hne : ∀ t ∈ texts, t ≠ []) :
    (Text.split separator query).filter (!·.isEmpty) = texts := by
  induction h with
  | nil => rfl
  | last text =>
    rw [List.forall_mem_singleton] at hfree hne
    simp [Text.split_of_not_mem hfree, hne]
  | separator h ih => rw [Text.split, if_pos rfl, List.filter_cons_of_neg (by simp), ih hfree hne]
  | text text h ih =>
    rw [List.forall_mem_cons] at hfree hne
    rw [Text.split_append_cons, Text.split_of_not_mem hfree.1, List.singleton_append,
      List.filter_cons_of_pos (by simpa using hne.1), ih hfree.2 hne.2]

namespace Definition

variable {d : Definition} {clauses : List Clause} {texts : List (List Char)}

theorem exists_clause_of_mem
    (htexts : List.Forall₂ (Clause.Written d.punctuation d.defaultOperator) clauses texts)
    {text : List Char} (h : text ∈ texts) :
    ∃ c ∈ clauses, Clause.Written d.punctuation d.defaultOperator c text := by
  induction htexts with
  | nil => cases h
  | @cons c t clauses texts hwritten _ ih =>
    rcases List.mem_cons.mp h with rfl | h
    · exact ⟨c, List.mem_cons_self, hwritten⟩
    · obtain ⟨e, he, hwritten⟩ := ih h
      exact ⟨e, List.mem_cons_of_mem c he, hwritten⟩

/-- The clauses and what their texts ask for, one for one. -/
theorem forall₂_predicate? (hclauses : ∀ c ∈ clauses, d.CanWrite c)
    (htexts : List.Forall₂ (Clause.Written d.punctuation d.defaultOperator) clauses texts) :
    List.Forall₂ d.Asks clauses ((texts.map String.ofList).filterMap d.predicate?) := by
  induction htexts with
  | nil => exact .nil
  | @cons c t clauses texts hwritten _ ih =>
    rw [List.forall_mem_cons] at hclauses
    obtain ⟨p, hp, hasks⟩ := predicate?_written hclauses.1 hwritten
    rw [List.map_cons, List.filterMap_cons_some hp]
    exact .cons hasks (ih hclauses.2)

/-- **What is written into a query is what the search is composed of.**  The clauses are written in
either form and put together with any separators around and between them; the search then has their
predicates, in order, each on the field of its alias. -/
theorem parse_written {query : String} (hclauses : ∀ c ∈ clauses, d.CanWrite c)
    (htexts : List.Forall₂ (Clause.Written d.punctuation d.defaultOperator) clauses texts)
    (hquery : Piece.Spaced d.punctuation.separator texts query.toList) :
    ∃ predicates, List.Forall₂ d.Asks clauses predicates ∧
      (d.parse query).result = .ok (compose predicates d.mandatory d.defaults).result := by
  have hfree : ∀ t ∈ texts, d.punctuation.separator ∉ t := by
    intro t ht
    obtain ⟨c, hc, hwritten⟩ := exists_clause_of_mem htexts ht
    exact separator_not_mem_written (hclauses c hc) hwritten
  have hne : ∀ t ∈ texts, t ≠ [] := by
    intro t ht
    obtain ⟨c, -, hwritten⟩ := exists_clause_of_mem htexts ht
    exact ne_nil_of_written hwritten
  have hpieces : Piece.texts d.punctuation.separator query = texts.map String.ofList := by
    rw [Piece.texts, Piece.texts_spaced hquery hfree hne]
  have haccepts : ∀ text ∈ Piece.texts d.punctuation.separator query, d.Accepts text := by
    rw [hpieces, List.forall_mem_map]
    intro t ht
    obtain ⟨c, hc, hwritten⟩ := exists_clause_of_mem htexts ht
    exact ⟨c, read_written (hclauses c hc) hwritten, fun _ => (hclauses c hc).mapped⟩
  refine ⟨d.requested query, ?_, parse_result_eq_ok.mpr ⟨haccepts, rfl⟩⟩
  rw [requested, hpieces]
  exact forall₂_predicate? hclauses htexts

theorem parse_written_demo :
    (∀ c ∈ [⟨"name", .equals, .scalar "_x__:["⟩, ⟨"lang", .isIn, .list ["en", "[]", "en"]⟩],
      demo.CanWrite c) ∧
    List.Forall₂ (Clause.Written demo.punctuation demo.defaultOperator)
      [⟨"name", .equals, .scalar "_x__:["⟩, ⟨"lang", .isIn, .list ["en", "[]", "en"]⟩]
      ["name:_x__:[".toList, "lang__in__[en,[],en]".toList] ∧
    Piece.Spaced demo.punctuation.separator
      ["name:_x__:[".toList, "lang__in__[en,[],en]".toList]
      "+name:_x__:[++lang__in__[en,[],en]".toList ∧
    ∃ predicates,
      List.Forall₂ demo.Asks
        [⟨"name", .equals, .scalar "_x__:["⟩, ⟨"lang", .isIn, .list ["en", "[]", "en"]⟩]
        predicates ∧
      (demo.parse "+name:_x__:[++lang__in__[en,[],en]").result =
        .ok (compose predicates demo.mandatory demo.defaults).result := by
  have hclauses : ∀ c ∈ [(⟨"name", .equals, .scalar "_x__:["⟩ : Clause),
      ⟨"lang", .isIn, .list ["en", "[]", "en"]⟩], demo.CanWrite c := by
    rw [List.forall_mem_cons, List.forall_mem_singleton]
    refine ⟨⟨⟨"name", by decide⟩, by decide, .scalar (by decide) ?_⟩,
      ⟨⟨"language__code", by decide⟩, by decide,
        .list (by decide) (by decide) (by decide) (.inr (by decide))⟩⟩
    rw [← Clause.listItems?_isSome]
    decide
  have htexts : List.Forall₂ (Clause.Written demo.punctuation demo.defaultOperator)
      [⟨"name", .equals, .scalar "_x__:["⟩, ⟨"lang", .isIn, .list ["en", "[]", "en"]⟩]
      ["name:_x__:[".toList, "lang__in__[en,[],en]".toList] :=
    .cons (.plain rfl) (.cons (.directive (by decide) (by decide)) .nil)
  have hquery : Piece.Spaced demo.punctuation.separator
      ["name:_x__:[".toList, "lang__in__[en,[],en]".toList]
      "+name:_x__:[++lang__in__[en,[],en]".toList :=
    .separator (.text "name:_x__:[".toList (.separator (.last _)))
  exact ⟨hclauses, htexts, hquery, parse_written hclauses htexts hquery⟩

end Definition

end FilterQuery
