import FilterQuery.Proofs.Encoding

/-!
# Which aliases can be searched

The checks on settings keep an alias apart from what follows it in a clause.  Two things they do not
look at: blanks around an alias, which are trimmed off when a clause names it, and separators that
are a letter of an operator's code, which cut the clause apart inside the code.

`addressable_iff` says that nothing else can go wrong: an alias can be searched with an operator
exactly if the separator is no letter of the code and the trimmed alias stands for the same field.
The other direction of both halves is `separator_not_mem_code` and `trimmed_mem_entries`.
-/

namespace FilterQuery

namespace Definition

/-- The clause `alias__code__value`. -/
def directiveText (aliasName : String) (op : Operator) (value : String) : String :=
  aliasName ++ "__" ++ op.code ++ "__" ++ value

/-- With some value, which is not itself cut apart, the clause for this alias and this operator is
read, and its tree has a leaf of the client's on this field with this operator. -/
def Addressable (d : Definition) (aliasName : String) (op : Operator) (field : String) : Prop :=
  ∃ value t, d.punctuation.separator ∉ value.toList ∧
    (d.parse (directiveText aliasName op value)).result = .ok t ∧
    ∃ p ∈ d.userLeaves (directiveText aliasName op value),
      p ∈ t.leaves ∧ p.field = field ∧ p.op = op

theorem toList_directiveText (aliasName : String) (op : Operator) (value : String) :
    (directiveText aliasName op value).toList =
      aliasName.toList ++ '_' :: '_' :: op.code.toList ++ '_' :: '_' :: value.toList := by
  simp [directiveText, String.toList_append]

variable {d : Definition} {aliasName field : String} {op : Operator}

/-! ### What stands in the way -/

/-- What stands before a separator in the code opens a directive and does not close it. -/
theorem read_cut_code (h : (aliasName, field) ∈ d.fields.entries) {before after : List Char}
    (hcode : op.code.toList = before ++ d.punctuation.separator :: after) :
    Clause.read d.punctuation d.defaultOperator
        (String.ofList (aliasName.toList ++ '_' :: '_' :: before)) =
      .error .unterminatedOperator := by
  have hopen : ¬ ['_', '_'] <:+: before := by
    intro hmark
    refine op.mark_not_infix_code (hmark.trans ?_)
    rw [hcode, List.append_assoc]
    exact (List.prefix_append _ _).isInfix
  rw [Clause.read_eq_iff, String.toList_ofList]
  exact .unterminatedOperator (hasForm_directive h before) hopen

/-- **A separator in the code makes every clause with the operator malformed.** -/
theorem separator_not_mem_code (h : (aliasName, field) ∈ d.fields.entries)
    {value : String} {t : Tree} (ht : (d.parse (directiveText aliasName op value)).result = .ok t) :
    d.punctuation.separator ∉ op.code.toList := by
  intro hmem
  obtain ⟨before, after, hcode, hbefore⟩ := List.eq_append_cons_of_mem hmem
  have halias := d.sound.separator_not_mem _ h
  let first := String.ofList (aliasName.toList ++ '_' :: '_' :: before)
  let rest := String.ofList (after ++ '_' :: '_' :: value.toList)
  have hquery : directiveText aliasName op value =
      first ++ String.singleton d.punctuation.separator ++ rest := by
    rw [← String.toList_inj, toList_directiveText, hcode]
    simp [first, rest, String.toList_append]
  have hfirst : Piece.texts d.punctuation.separator first = [first] := by
    refine Piece.texts_of_not_mem (by simp [first]) ?_
    simp [first, halias, d.sound.separator_ne_underscore, hbefore]
  have haccepts : d.Accepts first := by
    refine (parse_result_eq_ok.mp ht).1 first ?_
    rw [hquery, Piece.texts_append, hfirst]
    exact List.mem_cons_self
  obtain ⟨clause, hread, -⟩ := haccepts
  rw [read_cut_code h hcode] at hread
  cases hread

theorem texts_directiveText (h : (aliasName, field) ∈ d.fields.entries)
    (hcode : d.punctuation.separator ∉ op.code.toList) {value : String}
    (hvalue : d.punctuation.separator ∉ value.toList) :
    Piece.texts d.punctuation.separator (directiveText aliasName op value) =
      [directiveText aliasName op value] := by
  have halias := d.sound.separator_not_mem _ h
  refine Piece.texts_of_not_mem ?_ ?_
  · simp [toList_directiveText]
  · simp [toList_directiveText, halias, d.sound.separator_ne_underscore, hcode, hvalue]

theorem aliasName_of_read (h : (aliasName, field) ∈ d.fields.entries) {value : String}
    {clause : Clause}
    (hread : Clause.read d.punctuation d.defaultOperator (directiveText aliasName op value) =
      .ok clause) : clause.aliasName = String.ofList (Text.trim aliasName.toList) := by
  obtain ⟨aliasText, code, raw, hparts, -, -, -, hclause⟩ := Clause.read_eq_ok.mp hread
  have hcut := Clause.parts_eq_ok.mpr (cuts_directive h op value.toList)
  rw [← toList_directiveText, hparts] at hcut
  cases hcut
  rw [hclause]

/-- **A clause asks for the field of the trimmed alias**, so no other field is reached. -/
theorem trimmed_mem_entries (h : (aliasName, field) ∈ d.fields.entries) {value : String}
    (hvalue : d.punctuation.separator ∉ value.toList) {t : Tree}
    (ht : (d.parse (directiveText aliasName op value)).result = .ok t) {p : Predicate}
    (hp : p ∈ d.userLeaves (directiveText aliasName op value)) :
    (String.ofList (Text.trim aliasName.toList), p.field) ∈ d.fields.entries := by
  have hcode := separator_not_mem_code h ht
  have hrequested := Compose.mem_of_mem_lastPerField hp
  rw [requested, texts_directiveText h hcode hvalue] at hrequested
  obtain ⟨text, htext, hpredicate⟩ := List.mem_filterMap.mp hrequested
  rw [List.mem_singleton.mp htext] at hpredicate
  obtain ⟨clause, hread, hfield, -⟩ := predicate?_eq_some.mp hpredicate
  rw [← aliasName_of_read h hread]
  exact Fields.get?_eq_some_iff.mp hfield

/-! ### Nothing else -/

theorem exists_leaf_of_texts {query : String} {p : Predicate}
    (htexts : Piece.texts d.punctuation.separator query = [query])
    (hp : d.predicate? query = some p) :
    ∃ t, (d.parse query).result = .ok t ∧ p ∈ d.userLeaves query ∧ p ∈ t.leaves := by
  have hrequested : d.requested query = [p] := by
    rw [requested, htexts, List.filterMap_cons_some hp, List.filterMap_nil]
  have huser : p ∈ d.userLeaves query := by
    rw [userLeaves, hrequested]
    exact List.mem_singleton_self p
  have haccepts : ∀ text ∈ Piece.texts d.punctuation.separator query, d.Accepts text := by
    obtain ⟨clause, hread, hfield, -⟩ := predicate?_eq_some.mp hp
    rw [htexts, List.forall_mem_singleton]
    exact ⟨clause, hread, fun _ => ⟨p.field, hfield⟩⟩
  have ht := parse_result_eq_ok.mpr ⟨haccepts, rfl⟩
  refine ⟨_, ht, huser, ?_⟩
  rw [leaves_parse ht, List.append_assoc]
  exact List.mem_append_left _ huser

/-- Every operator of a client's has a value that can be written: the empty string or the empty
list. -/
theorem exists_writable (d : Definition) (hop : op ≠ .range) :
    ∃ value, Value.Writable d.punctuation op.arity value := by
  have hscalar : Value.Writable d.punctuation .scalar (.scalar "") := by
    refine .scalar List.not_mem_nil ?_
    rintro ⟨inner, hinner⟩
    cases hinner
  have hlist : Value.Writable d.punctuation .list (.list []) :=
    .list (by simp) (by simp) (by simp) (.inl rfl)
  cases op with
  | isIn | notIn => exact ⟨_, hlist⟩
  | range => exact absurd rfl hop
  | contains | equals | lessThan | lessOrEqual | greaterThan | greaterOrEqual =>
    exact ⟨_, hscalar⟩

theorem read_directiveText (h : (aliasName, field) ∈ d.fields.entries)
    (htrimmed : (String.ofList (Text.trim aliasName.toList), field) ∈ d.fields.entries)
    (hop : op ≠ .range) {value : Value} (hwritable : value.Writable d.punctuation op.arity) :
    Clause.read d.punctuation d.defaultOperator
        (directiveText aliasName op (String.ofList (value.written d.punctuation))) =
      .ok ⟨String.ofList (Text.trim aliasName.toList), op, value⟩ := by
  rw [Clause.read_eq_iff, toList_directiveText, String.toList_ofList]
  exact .clause (cuts_directive h op _) (isAllBlank_of_trimmed htrimmed) (.code hop)
    hwritable.gives

/-- **An alias can be searched with an operator if and only if the separator is no letter of the
operator's code and the alias, without the blanks around it, stands for the same field.** -/
theorem addressable_iff (h : (aliasName, field) ∈ d.fields.entries) (hop : op ≠ .range) :
    d.Addressable aliasName op field ↔
      d.punctuation.separator ∉ op.code.toList ∧
        (String.ofList (Text.trim aliasName.toList), field) ∈ d.fields.entries := by
  constructor
  · rintro ⟨value, t, hvalue, ht, p, hp, -, rfl, -⟩
    exact ⟨separator_not_mem_code h ht, trimmed_mem_entries h hvalue ht hp⟩
  · rintro ⟨hcode, htrimmed⟩
    obtain ⟨value, hwritable⟩ := d.exists_writable hop
    have hvalue := hwritable.separator_not_mem d.sound.separator_not_mem_marks
    rw [← String.toList_ofList (l := value.written d.punctuation)] at hvalue
    have hread := read_directiveText h htrimmed hop hwritable
    have hfield := Fields.get?_eq_some_iff.mpr htrimmed
    have htexts := texts_directiveText h hcode hvalue
    have hp : d.predicate? _ = some ⟨field, op, value⟩ :=
      predicate?_eq_some.mpr ⟨_, hread, hfield, rfl⟩
    obtain ⟨t, ht, huser, hleaf⟩ := exists_leaf_of_texts htexts hp
    exact ⟨_, t, hvalue, ht, _, huser, hleaf, rfl, rfl⟩

theorem addressable_iff_demo :
    ("author", "author__name") ∈ demo.fields.entries ∧ Operator.notIn ≠ .range ∧
      demo.Addressable "author" .notIn "author__name" := by
  have h : ("author", "author__name") ∈ demo.fields.entries := by decide
  exact ⟨h, by decide, (addressable_iff h (by decide)).mpr ⟨by decide, by decide⟩⟩

/-- An alias with a blank before it, beside another alias without, and the separator `o`: each takes
one alias out of reach. -/
theorem not_addressable :
    (∃ d : Definition, d.fields = .ofList [("name", "title"), (" name", "name")] ∧
      ¬ d.Addressable " name" .equals "name") ∧
    ∃ d : Definition, d.fields = .ofList [("name", "name")] ∧ d.punctuation = { separator := 'o' } ∧
      ¬ d.Addressable "name" .contains "name" := by
  constructor
  · let d : Definition :=
      { fields := .ofList [("name", "title"), (" name", "name")], valid := by decide }
    have hentry : (" name", "name") ∈ d.fields.entries := by decide
    refine ⟨d, rfl, ?_⟩
    rintro ⟨value, t, hvalue, ht, p, hp, -, hfield, -⟩
    have hmem := trimmed_mem_entries hentry hvalue ht hp
    rw [hfield] at hmem
    exact absurd hmem (by decide)
  · let d : Definition :=
      { punctuation := { separator := 'o' }, fields := .ofList [("name", "name")]
        valid := by decide }
    have hentry : ("name", "name") ∈ d.fields.entries := by decide
    refine ⟨d, rfl, rfl, ?_⟩
    rintro ⟨value, t, -, ht, -⟩
    exact absurd (separator_not_mem_code hentry ht) (by decide)

end Definition

end FilterQuery
