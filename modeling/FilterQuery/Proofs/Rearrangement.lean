import FilterQuery.Proofs.Composition
import FilterQuery.Proofs.Meaning

/-!
# The order of the clauses

The clauses of a query may be put in another order, as long as those on one field stay in theirs:
`Rearranged`.  The tree then says the same, although its leaves may stand elsewhere:
`parse_rearranged`.

The reason is that what is kept on a field is the last request there (`Compose.mem_lastPerField`),
and a rearranged query has the same requests on every field, in the same order
(`filter_requested`).  So neither the places nor the loop over them come into the argument.

What a tree says is its value under any reading of its leaves, `Tree.value`; its value as a
condition on rows, `Tree.eval`, is one of them.
-/

namespace FilterQuery

namespace Tree

theorem value_all_leaves (v : Predicate → Truth) (ps : List Predicate) :
    (Tree.all (ps.map .leaf)).value v = Connective.and.gather (ps.map v) := by
  rw [all, value_node, List.map_map]
  rfl

end Tree

namespace Definition

/-- The field that a text asks for, if it is a clause on a mapped alias. -/
def field? (d : Definition) (text : String) : Option String := (d.predicate? text).map (·.field)

/-- The texts of a query that ask for a field, in order. -/
def textsOn (d : Definition) (query field : String) : List String :=
  (Piece.texts d.punctuation.separator query).filter fun text => d.field? text = some field

/-- The queries have the same texts up to order, and the same ones in the same order on each
field. -/
structure Rearranged (d : Definition) (q₁ q₂ : String) : Prop where
  perm : (Piece.texts d.punctuation.separator q₁).Perm (Piece.texts d.punctuation.separator q₂)
  textsOn_eq : ∀ field, d.textsOn q₁ field = d.textsOn q₂ field

variable {d : Definition} {q₁ q₂ : String}

theorem Rearranged.symm (h : d.Rearranged q₁ q₂) : d.Rearranged q₂ q₁ :=
  ⟨h.perm.symm, fun field => (h.textsOn_eq field).symm⟩

/-- **What is requested on a field comes from the texts on the field**, in their order. -/
theorem filter_requested (d : Definition) (query field : String) :
    (d.requested query).filter (·.field == field) =
      (d.textsOn query field).filterMap d.predicate? := by
  rw [requested, textsOn, List.filter_filterMap, List.filterMap_filter]
  refine List.filterMap_congr fun text _ => ?_
  rw [field?]
  cases d.predicate? text with
  | none => simp
  | some p => by_cases h : p.field = field <;> simp [h]

theorem Rearranged.requested (h : d.Rearranged q₁ q₂) :
    (d.requested q₁).Perm (d.requested q₂) :=
  h.perm.filterMap _

theorem Rearranged.userLeaves (h : d.Rearranged q₁ q₂) :
    (d.userLeaves q₁).Perm (d.userLeaves q₂) := by
  refine Compose.perm_lastPerField fun field => ?_
  rw [Compose.lastOn, Compose.lastOn, filter_requested, filter_requested, h.textsOn_eq]

theorem Rearranged.defaultLeaves (h : d.Rearranged q₁ q₂) :
    d.defaultLeaves q₁ = d.defaultLeaves q₂ := by
  refine List.filter_congr fun p _ => ?_
  simp only [(h.requested.map _).mem_iff]

theorem Rearranged.exists_parse (h : d.Rearranged q₁ q₂) {t : Tree}
    (ht : (d.parse q₁).result = .ok t) : ∃ u, (d.parse q₂).result = .ok u := by
  have haccepts := (parse_result_eq_ok.mp ht).1
  refine ⟨_, parse_result_eq_ok.mpr ⟨fun text hmem => ?_, rfl⟩⟩
  exact haccepts text (h.perm.mem_iff.mpr hmem)

/-- A search says the same with the client's leaves in any other order. -/
theorem value_search_of_perm {us ws : List Predicate} (h : us.Perm ws) (defaults : List Predicate)
    (v : Predicate → Truth) : (d.search us defaults).value v = (d.search ws defaults).value v := by
  have hleaves : (us ++ d.mandatory ++ defaults).Perm (ws ++ d.mandatory ++ defaults) :=
    (h.append_right _).append_right _
  rw [search, search, Tree.value_all_leaves, Tree.value_all_leaves]
  exact Connective.gather_perm _ (hleaves.map v)

/-- **The order of the clauses matters only within a field.**  Of two queries that differ in nothing
else, both are refused or none.  If they are read, the client's leaves are the same up to order, the
mandatory leaves and the defaults are the same, and the trees have the same value, whatever their
leaves are read as. -/
theorem parse_rearranged (h : d.Rearranged q₁ q₂) :
    ((∃ e, (d.parse q₁).result = .error e) ↔ ∃ e, (d.parse q₂).result = .error e) ∧
    ∀ t, (d.parse q₁).result = .ok t → ∃ u, (d.parse q₂).result = .ok u ∧
      t = d.search (d.userLeaves q₁) (d.defaultLeaves q₁) ∧
      u = d.search (d.userLeaves q₂) (d.defaultLeaves q₂) ∧
      (d.userLeaves q₁).Perm (d.userLeaves q₂) ∧ d.defaultLeaves q₁ = d.defaultLeaves q₂ ∧
      ∀ v : Predicate → Truth, t.value v = u.value v := by
  constructor
  · rw [Results.exists_eq_error, Results.exists_eq_error, not_iff_not]
    constructor
    · rintro ⟨t, ht⟩
      exact h.exists_parse ht
    · rintro ⟨t, ht⟩
      exact h.symm.exists_parse ht
  · intro t ht
    obtain ⟨u, hu⟩ := h.exists_parse ht
    have htree := parse_eq_search ht
    have hother := parse_eq_search hu
    refine ⟨u, hu, htree, hother, h.userLeaves, h.defaultLeaves, fun v => ?_⟩
    rw [htree, hother, ← h.defaultLeaves]
    exact value_search_of_perm h.userLeaves _ v

/-- A dropped clause among the others, and two on one field that keep their order. -/
theorem parse_rearranged_demo :
    demo.Rearranged "name:a+ghost:x+author:b+name__co__c" "author:b+name:a+name__co__c+ghost:x" ∧
    ∃ t u, (demo.parse "name:a+ghost:x+author:b+name__co__c").result = .ok t ∧
      (demo.parse "author:b+name:a+name__co__c+ghost:x").result = .ok u ∧ t ≠ u ∧
      ∀ v : Predicate → Truth, t.value v = u.value v := by
  have htexts : Piece.texts demo.punctuation.separator "name:a+ghost:x+author:b+name__co__c" =
      ["name:a", "ghost:x", "author:b", "name__co__c"] := by decide
  have htexts' : Piece.texts demo.punctuation.separator "author:b+name:a+name__co__c+ghost:x" =
      ["author:b", "name:a", "name__co__c", "ghost:x"] := by decide
  have h : demo.Rearranged "name:a+ghost:x+author:b+name__co__c"
      "author:b+name:a+name__co__c+ghost:x" := by
    constructor
    · rw [htexts, htexts']
      decide
    · intro field
      have hname : demo.field? "name:a" = some "name" := by decide
      have hcode : demo.field? "name__co__c" = some "name" := by decide
      have hauthor : demo.field? "author:b" = some "author__name" := by decide
      have hghost : demo.field? "ghost:x" = none := by decide
      rw [textsOn, textsOn, htexts, htexts']
      by_cases h : field = "name" <;>
        simp [hname, hcode, hauthor, hghost, h, eq_comm, List.filter_cons]
  have ht : (demo.parse "name:a+ghost:x+author:b+name__co__c").result =
      .ok (.all [.leaf ⟨"name", .contains, .scalar "c"⟩,
        .leaf ⟨"author__name", .equals, .scalar "b"⟩,
        .leaf ⟨"status", .isIn, .list ["published", "in_progress"]⟩,
        .leaf ⟨"createDate", .range, .list ["now-7d", "now"]⟩]) := by decide +kernel
  have hu : (demo.parse "author:b+name:a+name__co__c+ghost:x").result =
      .ok (.all [.leaf ⟨"author__name", .equals, .scalar "b"⟩,
        .leaf ⟨"name", .contains, .scalar "c"⟩,
        .leaf ⟨"status", .isIn, .list ["published", "in_progress"]⟩,
        .leaf ⟨"createDate", .range, .list ["now-7d", "now"]⟩]) := by decide +kernel
  obtain ⟨u, hother, -, -, -, -, hvalue⟩ := (parse_rearranged h).2 _ ht
  obtain rfl := Except.ok.inj (hu.symm.trans hother)
  exact ⟨h, _, _, ht, hu, by decide, hvalue⟩

end Definition

end FilterQuery
