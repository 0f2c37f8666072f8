import FilterQuery.Proofs.Policies

/-!
# What a parse puts on record

Two loops write the log of a parse.  The loop over the pieces records each clause that it drops, and
stops at the first piece that cannot be used; the loop that keeps one predicate for each field
records each predicate that takes the place of an earlier one.  Both say what they did in order, so
the log is known from the texts of the query alone:

* `dropRecord?`: the record that the text of one piece leaves, and `predicates_log_append`, that
  the accepted pieces leave theirs one after the other;
* `Compose.overriding`: the predicates that find an earlier one on their field, and
  `overrides_eq_map`, that the records of the second loop are theirs.

A predicate either takes a new place or overrides one (`length_lastPerField_add_overriding`), and a
clause is either dropped or makes a predicate (`length_dropped_add_requested`).  So the clauses of a
query are the dropped ones, the overriding ones and the user leaves together: `parse_log`.
-/

namespace FilterQuery

namespace Compose

/-- The predicates of the list that have an earlier one on their field, in order. -/
def overriding (ps : List Predicate) : List Predicate :=
  (ps.zipIdx.filter fun e => e.1.field ∈ (ps.take e.2).map (·.field)).map (·.1)

theorem overriding_concat (ps : List Predicate) (p : Predicate) :
    overriding (ps ++ [p]) =
      overriding ps ++ if p.field ∈ ps.map (·.field) then [p] else [] := by
  have hearlier : ∀ e ∈ ps.zipIdx, (ps ++ [p]).take e.2 = ps.take e.2 := by
    intro e he
    have hlt := List.snd_lt_of_mem_zipIdx he
    exact List.take_append_of_le_length (by omega)
  have hold : (ps.zipIdx.filter fun e => e.1.field ∈ ((ps ++ [p]).take e.2).map (·.field)) =
      ps.zipIdx.filter fun e => e.1.field ∈ (ps.take e.2).map (·.field) := by
    refine List.filter_congr fun e he => ?_
    rw [hearlier e he]
  rw [overriding, List.zipIdx_append, List.filter_append, List.map_append, hold, overriding]
  congr 1
  by_cases h : p.field ∈ ps.map (·.field) <;> simp [h]

/-- The record of a predicate depends on those before it and on what was seen at the start. -/
theorem overrides_concat (seen : List String) (ps : List Predicate) (p : Predicate) :
    overrides seen (ps ++ [p]) =
      overrides seen ps ++
        if p.field ∈ seen ∨ p.field ∈ ps.map (·.field) then [.overridden p.field] else [] := by
  induction ps generalizing seen with
  | nil => by_cases h : p.field ∈ seen <;> simp [overrides, h]
  | cons q ps ih =>
    rw [List.cons_append, overrides, overrides, ih, ih]
    by_cases h : q.field ∈ seen
    · have hseen : (p.field ∈ seen ∨ p.field ∈ (q :: ps).map (·.field)) ↔
          p.field ∈ seen ∨ p.field ∈ ps.map (·.field) := by
        rw [List.map_cons, List.mem_cons]
        constructor
        · rintro (hp | hp | hp)
          · exact .inl hp
          · exact .inl (hp ▸ h)
          · exact .inr hp
        · rintro (hp | hp)
          · exact .inl hp
          · exact .inr (.inr hp)
      rw [if_pos h, if_pos h, List.cons_append]
      simp only [hseen]
    · have hseen : (p.field ∈ q.field :: seen ∨ p.field ∈ ps.map (·.field)) ↔
          p.field ∈ seen ∨ p.field ∈ (q :: ps).map (·.field) := by
        rw [List.map_cons, List.mem_cons, List.mem_cons]
        exact ⟨by tauto, by tauto⟩
      rw [if_neg h, if_neg h]
      simp only [hseen]

theorem overrides_eq_map (ps : List Predicate) :
    overrides [] ps = (overriding ps).map fun p => .overridden p.field := by
  induction ps using List.reverseRecOn with
  | nil => rfl
  | append_singleton ps p ih =>
    rw [overrides_concat, overriding_concat, List.map_append, ih]
    by_cases h : p.field ∈ ps.map (·.field) <;> simp [h]

/-- **Each predicate has a place of its own or overrides the one in its place.** -/
theorem length_lastPerField_add_overriding (ps : List Predicate) :
    (lastPerField ps).length + (overriding ps).length = ps.length := by
  induction ps using List.reverseRecOn with
  | nil => rfl
  | append_singleton ps p ih =>
    have hfields : p.field ∈ (lastPerField ps).map (·.field) ↔ p.field ∈ ps.map (·.field) := by
      rw [map_field_lastPerField, List.mem_eraseDups]
    have hplaces := congrArg List.length (map_field_keep (lastPerField ps) p)
    rw [List.length_map] at hplaces
    rw [lastPerField_concat, overriding_concat, hplaces, List.length_append, List.length_append,
      List.length_singleton]
    by_cases h : p.field ∈ ps.map (·.field)
    · rw [if_pos (hfields.mpr h), if_pos h, List.length_map, List.length_singleton]
      omega
    · rw [if_neg (mt hfields.mp h), if_neg h, List.length_append, List.length_map,
        List.length_singleton, List.length_nil]
      omega

end Compose

/-- The level on which the policy records that it drops a clause, if it drops any. -/
def UnmappedPolicy.level? : UnmappedPolicy → Option Log.Level
  | .ignore => some .debug
  | .warn => some .warn
  | .reject => none

namespace Definition

variable {d : Definition} {query : String}

/-- The record of a text: that its clause is dropped, if it is on an unmapped alias. -/
def dropRecord? (d : Definition) (text : String) : Option Log.Record :=
  match d.unmapped.level?, d.unmappedAlias? text with
  | some level, some aliasName => some (.dropped level aliasName)
  | _, _ => none

/-! ### The records of the pieces -/

theorem answer_log (d : Definition) (piece : Piece) :
    (d.answer piece).log = (d.dropRecord? piece.text).toList := by
  rw [answer, Piece.read, dropRecord?, unmappedAlias?]
  cases Clause.read d.punctuation d.defaultOperator piece.text with
  | error fault => cases d.unmapped <;> rfl
  | ok clause =>
    cases hfield : d.fields.get? clause.aliasName with
    | some field => cases d.unmapped <;> simp [UnmappedPolicy.resolve_of_some hfield, hfield,
        UnmappedPolicy.level?]
    | none => cases d.unmapped <;> simp [UnmappedPolicy.resolve_of_none hfield, hfield,
        UnmappedPolicy.level?]

theorem predicates_cons_log (d : Definition) (piece : Piece) (rest : List Piece) :
    (d.predicates (piece :: rest)).log =
      (d.answer piece).log ++
        match (d.answer piece).result with
        | .error _ => []
        | .ok _ => (d.predicates rest).log := by
  rw [predicates_cons]
  cases d.answer piece with
  | mk result log =>
    cases result with
    | error e => exact (List.append_nil log).symm
    | ok asked => rfl

/-- What makes a query fail is not dropped. -/
theorem dropRecord?_of_refuses {piece : Piece} {e : SearchError} (h : d.Refuses piece e) :
    d.dropRecord? piece.text = none := by
  cases h with
  | malformed hread =>
    rw [dropRecord?, unmappedAlias?, hread]
    cases d.unmapped <;> rfl
  | unmapped hread hpolicy hfield => rw [dropRecord?, hpolicy]; rfl

/-- **Accepted pieces leave their records one after the other, before those of the rest.** -/
theorem predicates_log_append {before : List Piece}
    (h : ∀ piece ∈ before, d.Accepts piece.text) (rest : List Piece) :
    (d.predicates (before ++ rest)).log =
      (before.filterMap fun piece => d.dropRecord? piece.text) ++ (d.predicates rest).log := by
  induction before with
  | nil => rfl
  | cons piece before ih =>
    obtain ⟨hpiece, hbefore⟩ := List.forall_mem_cons.mp h
    rw [List.cons_append, predicates_cons_log, answer_result_eq_ok.mpr ⟨hpiece, rfl⟩, answer_log,
      ih hbefore, List.filterMap_cons]
    cases d.dropRecord? piece.text <;> rfl

theorem predicates_log_of_accepts {pieces : List Piece}
    (h : ∀ piece ∈ pieces, d.Accepts piece.text) :
    (d.predicates pieces).log = pieces.filterMap fun piece => d.dropRecord? piece.text := by
  have hlog := predicates_log_append h []
  rwa [List.append_nil, predicates, List.append_nil] at hlog

theorem predicates_log_of_refuses {piece : Piece} {rest : List Piece} {e : SearchError}
    (h : d.Refuses piece e) : (d.predicates (piece :: rest)).log = [] := by
  rw [predicates_cons_log, answer_result_eq_error.mpr h, answer_log, dropRecord?_of_refuses h]
  rfl

/-! ### The records of the query -/

theorem parse_log_of_ok {t : Tree} (h : (d.parse query).result = .ok t) :
    (d.parse query).log = (Piece.texts d.punctuation.separator query).filterMap d.dropRecord?
      ++ (Compose.overriding (d.requested query)).map (fun p => .overridden p.field)
      ++ [.composing (d.userLeaves query).length d.mandatory.length
        (d.defaultLeaves query).length] := by
  have haccepts := (parse_result_eq_ok.mp h).1
  rw [← Piece.map_text_all, List.forall_mem_map] at haccepts
  have huser := predicates_result_eq_ok.mpr ⟨haccepts, rfl⟩
  have hlog := predicates_log_of_accepts haccepts
  have hrequested : d.requested query =
      (Piece.all d.punctuation.separator query).filterMap fun piece => d.predicate? piece.text := by
    rw [requested, ← Piece.map_text_all, List.filterMap_map]
    rfl
  rw [← Piece.map_text_all, List.filterMap_map, userLeaves, defaultLeaves, hrequested, parse]
  cases hp : d.predicates (Piece.all d.punctuation.separator query) with
  | mk result log =>
    rw [hp] at huser hlog
    subst huser hlog
    rw [← hrequested]
    simp only [compose, Compose.overrides_eq_map, Compose.untouched_lastPerField,
      List.append_assoc]
    rfl

theorem parse_log_of_error {e : SearchError} (h : (d.parse query).result = .error e) :
    (d.parse query).log = (d.predicates (Piece.all d.punctuation.separator query)).log := by
  have hloop := parse_result_eq_error.mp h
  rw [parse]
  cases hp : d.predicates (Piece.all d.punctuation.separator query) with
  | mk result log =>
    rw [hp] at hloop
    subst hloop
    rfl

/-- **An accepted text is recorded as dropped, or it makes a predicate.** -/
theorem dropRecord?_eq_none_iff {text : String} (h : d.Accepts text) :
    d.dropRecord? text = none ↔ (d.predicate? text).isSome := by
  obtain ⟨clause, hread, hmapped⟩ := h
  rw [dropRecord?, unmappedAlias?, predicate?, hread]
  cases hfield : d.fields.get? clause.aliasName with
  | some field => cases d.unmapped <;> simp [hfield, UnmappedPolicy.level?]
  | none =>
    cases hpolicy : d.unmapped with
    | reject =>
      obtain ⟨field, hsome⟩ := hmapped hpolicy
      rw [hfield] at hsome
      cases hsome
    | ignore | warn => simp [hfield, UnmappedPolicy.level?]

theorem length_dropped_add_requested {texts : List String} (h : ∀ text ∈ texts, d.Accepts text) :
    (texts.filterMap d.dropRecord?).length + (texts.filterMap d.predicate?).length =
      texts.length := by
  induction texts with
  | nil => rfl
  | cons text texts ih =>
    obtain ⟨htext, hrest⟩ := List.forall_mem_cons.mp h
    have hone := dropRecord?_eq_none_iff htext
    have hrest := ih hrest
    rw [List.filterMap_cons, List.filterMap_cons]
    cases hdrop : d.dropRecord? text <;> cases hpred : d.predicate? text
    all_goals simp only [hdrop, hpred, List.length_cons] at hone ⊢
    all_goals simp at hone
    all_goals omega

/-- **The log accounts for every clause.**  A query that is read leaves a record of each dropped
clause, then one of each clause that overrides an earlier one, each in the order of the clauses, and
last the make-up of the tree; the clauses are as many as the records of the first two kinds and the
client's leaves.  A refused query leaves the records of the clauses dropped before the refused
piece, and no others.  A dropped clause is recorded under its alias without the blanks around it. -/
theorem parse_log (d : Definition) (query : String) :
    (∀ t, (d.parse query).result = .ok t →
      ∃ drops user defaults,
        drops = (Piece.texts d.punctuation.separator query).filterMap d.dropRecord? ∧
        (d.parse query).log =
          drops ++ (Compose.overriding (d.requested query)).map (fun p => .overridden p.field)
            ++ [.composing user d.mandatory.length defaults] ∧
        user + d.mandatory.length + defaults = t.children.length ∧
        user = (d.userLeaves query).length ∧
        (Piece.all d.punctuation.separator query).length =
          drops.length + (Compose.overriding (d.requested query)).length + user) ∧
    (∀ e, (d.parse query).result = .error e →
      ∃ before piece after, Piece.all d.punctuation.separator query = before ++ piece :: after ∧
        (∀ earlier ∈ before, d.Accepts earlier.text) ∧ d.Refuses piece e ∧
        (d.parse query).log = before.filterMap fun earlier => d.dropRecord? earlier.text) ∧
    ∀ text record, d.dropRecord? text = some record →
      ∃ level aliasText code raw, d.unmapped.level? = some level ∧
        Clause.Cuts text.toList (aliasText, code, raw) ∧
        d.fields.get? (String.ofList (Text.trim aliasText)) = none ∧
        record = .dropped level (String.ofList (Text.trim aliasText)) := by
  refine ⟨fun t ht => ?_, fun e he => ?_, fun text record hrecord => ?_⟩
  · have haccepts := (parse_result_eq_ok.mp ht).1
    have hpieces : (Piece.all d.punctuation.separator query).length =
        (Piece.texts d.punctuation.separator query).length := by
      rw [← Piece.map_text_all, List.length_map]
    have hclauses := length_dropped_add_requested haccepts
    have hplaces := Compose.length_lastPerField_add_overriding (d.requested query)
    refine ⟨_, _, _, rfl, parse_log_of_ok ht, ?_, rfl, ?_⟩
    · rw [parse_eq_search ht, search, Tree.all, Tree.children]
      simp only [List.length_map, List.length_append]
    · rw [userLeaves]
      rw [← requested] at hclauses
      omega
  · obtain ⟨before, piece, after, hall, hbefore, hpiece⟩ := parse_result_eq_error_iff.mp he
    refine ⟨before, piece, after, hall, hbefore, hpiece, ?_⟩
    rw [parse_log_of_error he, hall, predicates_log_append hbefore,
      predicates_log_of_refuses hpiece, List.append_nil]
  · rw [dropRecord?] at hrecord
    split at hrecord
    · next level aliasName hlevel halias =>
      obtain ⟨clause, hread, hfield, rfl⟩ := unmappedAlias?_eq_some.mp halias
      obtain ⟨aliasText, code, raw, hcuts, hname, -⟩ := Clause.exists_cuts_of_read hread
      rw [hname] at hfield hrecord
      exact ⟨level, aliasText, code, raw, hlevel, hcuts, hfield, (Option.some.inj hrecord).symm⟩
    · cases hrecord

end Definition

end FilterQuery
