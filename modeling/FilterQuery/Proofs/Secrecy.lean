import FilterQuery.Proofs.Composition
import FilterQuery.Proofs.Refusal

/-!
# What a client can learn

Two definitions are `Alike` if they differ only in what a client is not told: the fields behind the
aliases, the server's own predicates, the parameter.  A client that is given errors cannot tell them
apart (`parse_reveals_nothing`), since a piece is refused for its text, its alias and the policy
alone (`Alike.refuses_iff`).

The leaves of the client's are the same up to the names of the fields.  This takes more than a look
at one piece: the loop that keeps the last predicate for each field compares fields.  It does so by
equality alone, so it commutes with any renaming that keeps different fields apart
(`Compose.lastPerField_map`, from the step `Compose.keep_map`).
-/

namespace FilterQuery

/-! ### Two maps with the same aliases -/

namespace Fields

/-- All aliases, in order. -/
def aliases (fields : Fields) : List String := fields.entries.map (·.1)

/-- Different aliases stand for different fields. -/
def OneToOne (fields : Fields) : Prop := (fields.entries.map (·.2)).Nodup

/-- The first alias of a field. -/
def aliasOf? (fields : Fields) (field : String) : Option String :=
  (fields.entries.find? (·.2 == field)).map (·.1)

/-- The field that has in `other` the alias that `field` has here. -/
def counterpart (fields other : Fields) (field : String) : String :=
  ((fields.aliasOf? field).bind other.get?).getD field

variable {fields other : Fields} {aliasName field : String}

theorem mem_aliases : aliasName ∈ fields.aliases ↔ ∃ field, fields.get? aliasName = some field := by
  simp only [aliases, List.mem_map, get?_eq_some_iff]
  constructor
  · rintro ⟨entry, hentry, rfl⟩
    exact ⟨entry.2, hentry⟩
  · rintro ⟨field, hentry⟩
    exact ⟨_, hentry, rfl⟩

theorem OneToOne.aliasName_eq (h : fields.OneToOne) {otherAlias : String}
    (h₁ : fields.get? aliasName = some field) (h₂ : fields.get? otherAlias = some field) :
    aliasName = otherAlias := by
  have hentries := List.inj_on_of_nodup_map h (get?_eq_some_iff.mp h₁) (get?_eq_some_iff.mp h₂) rfl
  exact congrArg Prod.fst hentries

theorem OneToOne.aliasOf? (h : fields.OneToOne) (hfield : fields.get? aliasName = some field) :
    fields.aliasOf? field = some aliasName := by
  rw [Fields.aliasOf?]
  cases hfind : fields.entries.find? (·.2 == field) with
  | none =>
    have hno := List.find?_eq_none.mp hfind _ (get?_eq_some_iff.mp hfield)
    simp at hno
  | some entry =>
    have hentry : entry.2 = field := by simpa using List.find?_some hfind
    have hget : fields.get? entry.1 = some field :=
      get?_eq_some_iff.mpr (hentry ▸ List.mem_of_find?_eq_some hfind)
    rw [Option.map_some, h.aliasName_eq hget hfield]

theorem OneToOne.counterpart (h : fields.OneToOne) {otherField : String}
    (hfield : fields.get? aliasName = some field)
    (hother : other.get? aliasName = some otherField) :
    fields.counterpart other field = otherField := by
  rw [Fields.counterpart, h.aliasOf? hfield, Option.bind_some, hother, Option.getD_some]

end Fields

/-! ### Two definitions that look the same -/

namespace Definition

/-- The definitions differ only in what clients are not told. -/
structure Alike (d e : Definition) : Prop where
  punctuation_eq : d.punctuation = e.punctuation
  defaultOperator_eq : d.defaultOperator = e.defaultOperator
  unmapped_eq : d.unmapped = e.unmapped
  aliases : ∀ aliasName, aliasName ∈ d.fields.aliases ↔ aliasName ∈ e.fields.aliases

namespace Alike

variable {d e : Definition}

theorem symm (h : d.Alike e) : e.Alike d :=
  ⟨h.punctuation_eq.symm, h.defaultOperator_eq.symm, h.unmapped_eq.symm,
    fun aliasName => (h.aliases aliasName).symm⟩

theorem exists_get? (h : d.Alike e) {aliasName field : String}
    (hfield : d.fields.get? aliasName = some field) :
    ∃ otherField, e.fields.get? aliasName = some otherField :=
  Fields.mem_aliases.mp ((h.aliases aliasName).mp (Fields.mem_aliases.mpr ⟨field, hfield⟩))

theorem get?_eq_none (h : d.Alike e) {aliasName : String} :
    d.fields.get? aliasName = none ↔ e.fields.get? aliasName = none := by
  simp only [Option.eq_none_iff_forall_ne_some, ← not_exists, ← Fields.mem_aliases, h.aliases]

theorem read_eq (h : d.Alike e) (text : String) :
    Clause.read d.punctuation d.defaultOperator text =
      Clause.read e.punctuation e.defaultOperator text := by
  rw [h.punctuation_eq, h.defaultOperator_eq]

theorem refuses (h : d.Alike e) {piece : Piece} {error : SearchError}
    (hrefuses : d.Refuses piece error) : e.Refuses piece error := by
  cases hrefuses with
  | malformed hread => exact .malformed (h.read_eq _ ▸ hread)
  | unmapped hread hpolicy hfield =>
    exact .unmapped (h.read_eq _ ▸ hread) (h.unmapped_eq ▸ hpolicy) (h.get?_eq_none.mp hfield)

/-- **A piece is refused by both definitions or by neither, for the same reason.** -/
theorem refuses_iff (h : d.Alike e) (piece : Piece) (error : SearchError) :
    d.Refuses piece error ↔ e.Refuses piece error :=
  ⟨h.refuses, h.symm.refuses⟩

theorem parse_eq_error_iff (h : d.Alike e) {query : String} {error : SearchError} :
    (d.parse query).result = .error error ↔ (e.parse query).result = .error error :=
  parse_result_eq_error_congr h.refuses_iff (congrArg _ h.punctuation_eq)

theorem exists_parse (h : d.Alike e) {query : String} {t : Tree}
    (ht : (d.parse query).result = .ok t) : ∃ u, (e.parse query).result = .ok u := by
  cases hother : (e.parse query).result with
  | ok u => exact ⟨u, rfl⟩
  | error error =>
    rw [h.parse_eq_error_iff.mpr hother] at ht
    cases ht

/-! ### The client's leaves -/

theorem predicate?_eq (h : d.Alike e) (hd : d.fields.OneToOne) (text : String) :
    e.predicate? text =
      (d.predicate? text).map (·.rename (d.fields.counterpart e.fields)) := by
  rw [predicate?, predicate?, ← h.read_eq]
  cases Clause.read d.punctuation d.defaultOperator text with
  | error fault => rfl
  | ok clause =>
    cases hfield : d.fields.get? clause.aliasName with
    | none => simp [hfield, h.get?_eq_none.mp hfield]
    | some field =>
      obtain ⟨otherField, hother⟩ := h.exists_get? hfield
      simp [hfield, hother, Clause.on, Predicate.rename, hd.counterpart hfield hother]

theorem requested_eq (h : d.Alike e) (hd : d.fields.OneToOne) (query : String) :
    e.requested query =
      (d.requested query).map (·.rename (d.fields.counterpart e.fields)) := by
  rw [requested, requested, List.map_filterMap, ← h.punctuation_eq]
  exact List.filterMap_congr fun text _ => h.predicate?_eq hd text

/-- Every request is on a field with an alias, and the other definition has a field for it. -/
theorem exists_alias (h : d.Alike e) (hd : d.fields.OneToOne) {query : String} {p : Predicate}
    (hp : p ∈ d.requested query) :
    ∃ aliasName, d.fields.get? aliasName = some p.field ∧
      e.fields.get? aliasName = some (d.fields.counterpart e.fields p.field) := by
  obtain ⟨text, -, hpredicate⟩ := List.mem_filterMap.mp hp
  obtain ⟨clause, -, hfield, -⟩ := predicate?_eq_some.mp hpredicate
  obtain ⟨otherField, hother⟩ := h.exists_get? hfield
  exact ⟨clause.aliasName, hfield, by rw [hd.counterpart hfield hother, hother]⟩

theorem userLeaves_eq (h : d.Alike e) (hd : d.fields.OneToOne) (he : e.fields.OneToOne)
    (query : String) :
    e.userLeaves query =
      (d.userLeaves query).map (·.rename (d.fields.counterpart e.fields)) := by
  rw [userLeaves, userLeaves, h.requested_eq hd]
  refine Compose.lastPerField_map fun p hp q hq hsame => ?_
  obtain ⟨aliasName, hfield, hother⟩ := h.exists_alias hd hp
  obtain ⟨aliasName', hfield', hother'⟩ := h.exists_alias hd hq
  -- one name for both would be one alias for both
  rw [← hsame] at hother'
  obtain rfl := he.aliasName_eq hother hother'
  exact Option.some.inj (hfield.symm.trans hfield')

end Alike

/-- **Errors reveal nothing of the server's fields and predicates.**  Definitions that a client
cannot tell apart refuse the same queries with the same errors.  If they read a query, and no field
has two aliases, the client's leaves in one tree are those in the other, in the same order, each on
the field that has the same alias there. -/
theorem parse_reveals_nothing {d e : Definition} (h : d.Alike e) (query : String) :
    (∀ error, (d.parse query).result = .error error ↔ (e.parse query).result = .error error) ∧
    ∀ t, (d.parse query).result = .ok t → ∃ u, (e.parse query).result = .ok u ∧
      t = d.search (d.userLeaves query) (d.defaultLeaves query) ∧
      u = e.search (e.userLeaves query) (e.defaultLeaves query) ∧
      (d.fields.OneToOne → e.fields.OneToOne →
        (∀ p ∈ d.userLeaves query, ∃ aliasName, d.fields.get? aliasName = some p.field ∧
          e.fields.get? aliasName = some (d.fields.counterpart e.fields p.field)) ∧
        (d.userLeaves query).map (·.rename (d.fields.counterpart e.fields)) =
          e.userLeaves query) := by
  refine ⟨fun error => h.parse_eq_error_iff, fun t ht => ?_⟩
  obtain ⟨u, hu⟩ := h.exists_parse ht
  refine ⟨u, hu, parse_eq_search ht, parse_eq_search hu, fun hd he => ⟨fun p hp => ?_, ?_⟩⟩
  · exact h.exists_alias hd (Compose.mem_of_mem_lastPerField hp)
  · exact (h.userLeaves_eq hd he query).symm

/-- Other fields behind the same aliases, and no predicates of the server's. -/
theorem parse_reveals_nothing_renamed :
    ∃ e : Definition, e.mandatory = [] ∧ demo.Alike e ∧ demo.fields.OneToOne ∧
      e.fields.OneToOne ∧
      (e.parse "name:a+age__zz__1").result =
        .error (.malformed ⟨"age__zz__1", ⟨7, 17⟩⟩ (.unknownOperator "zz")) ∧
      (demo.userLeaves "name:a+ghost:x+age:1+name__co__c").map
          (·.rename (demo.fields.counterpart e.fields)) =
        e.userLeaves "name:a+ghost:x+age:1+name__co__c" ∧
      e.userLeaves "name:a+ghost:x+age:1+name__co__c" =
        [⟨"title", .contains, .scalar "c"⟩, ⟨"years", .equals, .scalar "1"⟩] := by
  let e : Definition :=
    { param := "search"
      fields := .ofList [("name", "title"), ("author", "by"), ("age", "years"),
        ("lang", "tongue"), ("created", "made")]
      valid := by decide }
  have haliases : demo.fields.aliases = e.fields.aliases := by decide
  have halike : demo.Alike e := ⟨rfl, rfl, rfl, fun aliasName => by rw [haliases]⟩
  have hdemo : demo.fields.OneToOne := by unfold Fields.OneToOne; decide
  have he : e.fields.OneToOne := by unfold Fields.OneToOne; decide
  have herror : (demo.parse "name:a+age__zz__1").result =
      .error (.malformed ⟨"age__zz__1", ⟨7, 17⟩⟩ (.unknownOperator "zz")) := by decide +kernel
  have hread : (demo.parse "name:a+ghost:x+age:1+name__co__c").result =
      .ok (demo.search [⟨"name", .contains, .scalar "c"⟩, ⟨"author__age", .equals, .scalar "1"⟩]
        demo.defaults) := by decide +kernel
  obtain ⟨-, -, -, -, hleaves⟩ := (parse_reveals_nothing halike _).2 _ hread
  exact ⟨e, rfl, halike, hdemo, he, ((parse_reveals_nothing halike _).1 _).mp herror,
    (hleaves hdemo he).2, by decide⟩

end Definition

end FilterQuery
