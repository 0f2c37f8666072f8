import FilterQuery.Proofs.Fields
import FilterQuery.Proofs.Search

/-!
# What a search is composed of

`parse_composition` describes the tree of a query from the query's texts and the definition alone:
which queries are read, which predicates the tree has, and in which order.  The client's predicates
come first, one for each field, and can neither displace a mandatory predicate nor add a field that
is not mapped.
-/

namespace FilterQuery

namespace Definition

/-- The client's leaves in the tree of a query. -/
def userLeaves (d : Definition) (query : String) : List Predicate :=
  Compose.lastPerField (d.requested query)

/-- The default leaves in the tree of a query. -/
def defaultLeaves (d : Definition) (query : String) : List Predicate :=
  d.defaults.filter fun p => p.field ∉ (d.requested query).map (·.field)

/-- The search with these leaves of the client's and these defaults. -/
def search (d : Definition) (user defaults : List Predicate) : Tree :=
  .all ((user ++ d.mandatory ++ defaults).map .leaf)

/-- What is asked for is always asked of a mapped field. -/
theorem field_mem_of_mem_requested {d : Definition} {query : String} {p : Predicate}
    (h : p ∈ d.requested query) : p.field ∈ d.fields.entries.map (·.2) := by
  obtain ⟨text, -, hp⟩ := List.mem_filterMap.mp h
  obtain ⟨clause, -, hf, -⟩ := predicate?_eq_some.mp hp
  exact List.mem_map_of_mem (f := (·.2)) (Fields.mem_of_get?_eq_some hf)

theorem compose_result (user mandatory defaults : List Predicate) :
    (compose user mandatory defaults).result =
      .all ((Compose.lastPerField user ++ mandatory
        ++ defaults.filter fun p => p.field ∉ user.map (·.field)).map .leaf) := by
  rw [compose, Compose.untouched_lastPerField]

theorem parse_eq_search {d : Definition} {query : String} {t : Tree}
    (h : (d.parse query).result = .ok t) :
    t = d.search (d.userLeaves query) (d.defaultLeaves query) := by
  obtain ⟨-, rfl⟩ := parse_result_eq_ok.mp h
  exact compose_result ..

theorem leaves_parse {d : Definition} {query : String} {t : Tree}
    (h : (d.parse query).result = .ok t) :
    t.leaves = d.userLeaves query ++ d.mandatory ++ d.defaultLeaves query := by
  rw [parse_eq_search h, search, Tree.leaves_eq_predicates, Tree.all, Tree.predicates,
    Tree.predicatesAll_map_leaf]

/-- **A query is read if every text between its separators is accepted.  Its tree is then one AND of
leaves: for each field asked for, in the order of the first requests, the last request on it; then
all mandatory predicates; then the defaults on fields that were not asked for.** -/
theorem parse_composition (d : Definition) (query : String) :
    ((∃ t, (d.parse query).result = .ok t) ↔
      ∀ text ∈ Piece.texts d.punctuation.separator query, d.Accepts text) ∧
    ∀ t, (d.parse query).result = .ok t →
      (∃ user : List Predicate,
        t = .all ((user ++ d.mandatory
          ++ d.defaults.filter fun p => p.field ∉ (d.requested query).map (·.field)).map .leaf) ∧
        user.map (·.field) = ((d.requested query).map (·.field)).eraseDups ∧
        ∀ p ∈ user, Compose.lastOn (d.requested query) p.field = some p) ∧
      ∀ p ∈ t.leaves,
        p.field ∈ d.fields.entries.map (·.2) ∨ p ∈ d.mandatory ∨ p ∈ d.defaults := by
  refine ⟨⟨fun ⟨t, ht⟩ => (parse_result_eq_ok.mp ht).1,
    fun h => ⟨_, parse_result_eq_ok.mpr ⟨h, rfl⟩⟩⟩, fun t ht => ⟨?_, fun p hp => ?_⟩⟩
  · obtain ⟨-, rfl⟩ := parse_result_eq_ok.mp ht
    exact ⟨Compose.lastPerField (d.requested query), compose_result ..,
      Compose.map_field_lastPerField _, fun p hp => Compose.mem_lastPerField.mp hp⟩
  · rw [leaves_parse ht, List.mem_append, List.mem_append] at hp
    rcases hp with (hp | hp) | hp
    · exact .inl (field_mem_of_mem_requested (Compose.mem_of_mem_lastPerField hp))
    · exact .inr (.inl hp)
    · exact .inr (.inr (List.mem_filter.mp hp).1)

example :
    (demo.parse "name:a+ghost:b+created__gt__2020+status__eq__x+name__co__c").result.toOption =
      some (.all [.leaf ⟨"name", .contains, .scalar "c"⟩,
        .leaf ⟨"createDate", .greaterThan, .scalar "2020"⟩,
        .leaf ⟨"status", .isIn, .list ["published", "in_progress"]⟩]) := by
  cbv

end Definition

end FilterQuery
