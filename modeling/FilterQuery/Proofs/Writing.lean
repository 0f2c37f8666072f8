import FilterQuery.Proofs.Decoding
import FilterQuery.Proofs.Reading
import FilterQuery.Proofs.Settings

/-!
# A definition in writing is read back

What is written carries what it was written for (`Settings.carriedBy_toJson`), and it is a whole
document (`Settings.whole_toJson`), so the reader gets the document back and the decoder the
settings.  `Definition.ofText_of_heldBy` says the same of every text that holds such a document.
-/

namespace FilterQuery

open Json (Document)

/-! ### What is written carries what was meant -/

namespace Json.Document

theorem says_ofText (text : String) : (ofText text).Says text :=
  ⟨_, rfl, Literal.text_ofText text⟩

theorem lists_ofList {α : Type} {Item : α → Document → Prop} {write : α → Document}
    (h : ∀ a, Item a (write a)) (values : List α) : (ofList (values.map write)).Lists Item values :=
  ⟨_, rfl, List.forall₂_map_right_iff.mpr (List.forall₂_same.mpr fun a _ => h a)⟩

theorem hasMembers_ofRecord (named : List (String × Document)) :
    (ofRecord named).HasMembers named :=
  ⟨_, rfl, List.forall₂_map_right_iff.mpr
    (List.forall₂_same.mpr fun n _ => ⟨says_ofText n.1, rfl⟩)⟩

/-- A record that is written with all its keys, in their order. -/
theorem isRecord_ofRecord {slots : List Slot} {named : List (String × Document)}
    (hnodup : (slots.map (·.name)).Nodup)
    (h : List.Forall₂ (fun slot n => slot.name = n.1 ∧ slot.Holds n.2) slots named) :
    (ofRecord named).IsRecord slots := by
  have hnames : named.map (·.1) = slots.map (·.name) := by
    clear hnodup
    induction h with
    | nil => rfl
    | cons hhead _ ih => rw [List.map_cons, List.map_cons, hhead.1, ih]
  have hpair : ∀ slot ∈ slots, ∃ d, (slot.name, d) ∈ named ∧ slot.Holds d := by
    clear hnodup hnames
    induction h with
    | nil => exact fun slot hslot => absurd hslot List.not_mem_nil
    | @cons slot n _ _ hhead _ ih =>
      intro slot' hslot'
      rcases List.mem_cons.mp hslot' with rfl | hslot'
      · exact ⟨n.2, by rw [hhead.1]; exact List.mem_cons_self, hhead.2⟩
      · obtain ⟨d, hd, hholds⟩ := ih slot' hslot'
        exact ⟨d, List.mem_cons_of_mem _ hd, hholds⟩
  refine ⟨named, hasMembers_ofRecord named, ?_, ?_, ?_, ?_⟩
  · rw [hnames]
    exact hnodup.filter _
  · intro slot hslot d hd
    obtain ⟨d', hd', hholds⟩ := hpair slot hslot
    rw [← hnames] at hnodup
    have hsame := List.inj_on_of_nodup_map hnodup hd hd' rfl
    rwa [(Prod.mk.inj hsame).2]
  · intro slot hslot
    rw [hnames]
    exact .inl (List.mem_map_of_mem hslot)
  · intro n hn hunknown
    rw [← hnames] at hunknown
    exact absurd (List.mem_map_of_mem hn) hunknown

end Json.Document

open Json.Document (says_ofText lists_ofList hasMembers_ofRecord isRecord_ofRecord)

theorem Value.carriedBy_toJson (value : Value) : value.CarriedBy value.toJson := by
  cases value with
  | scalar text => exact says_ofText text
  | list items => exact lists_ofList says_ofText items

theorem Predicate.carriedBy_toJson (p : Predicate) : p.CarriedBy p.toJson := by
  have hnodup : ["field", "op", "value"].Nodup := by decide
  refine isRecord_ofRecord hnodup ?_
  refine .cons ⟨rfl, says_ofText _⟩ (.cons ⟨rfl, says_ofText _⟩ (.cons ⟨rfl, ?_⟩ .nil))
  exact p.value.carriedBy_toJson

theorem Punctuation.carriedBy_toJson (marks : Punctuation) : marks.CarriedBy marks.toJson := by
  have hnodup : ["clause_separator", "list_open", "list_close", "list_delimiter"].Nodup := by decide
  refine isRecord_ofRecord hnodup ?_
  exact .cons ⟨rfl, says_ofText _⟩ (.cons ⟨rfl, says_ofText _⟩ (.cons ⟨rfl, says_ofText _⟩
    (.cons ⟨rfl, says_ofText _⟩ .nil)))

theorem Fields.carriedBy_toJson (fields : Fields) : fields.CarriedBy fields.toJson := by
  refine ⟨_, fields.entries, hasMembers_ofRecord _, ?_, ?_⟩
  · exact List.forall₂_map_right_iff.mpr
      (List.forall₂_same.mpr fun entry _ => ⟨rfl, says_ofText entry.2⟩)
  · exact fun aliasName => (fields.lookup_reverse aliasName).symm

theorem Settings.carriedBy_toJson (s : Settings) : s.CarriedBy s.toJson := by
  have hnodup : ["param", "default_operator", "unmapped", "syntax", "fields", "mandatory",
      "defaults"].Nodup := by decide
  refine isRecord_ofRecord hnodup ?_
  refine .cons ⟨rfl, says_ofText _⟩ (.cons ⟨rfl, says_ofText _⟩ (.cons ⟨rfl, says_ofText _⟩
    (.cons ⟨rfl, ?_⟩ (.cons ⟨rfl, ?_⟩ (.cons ⟨rfl, ?_⟩ (.cons ⟨rfl, ?_⟩ .nil))))))
  · exact s.punctuation.carriedBy_toJson
  · exact s.fields.carriedBy_toJson
  · exact lists_ofList Predicate.carriedBy_toJson s.mandatory
  · exact lists_ofList Predicate.carriedBy_toJson s.defaults

/-! ### What is written is whole -/

namespace Json.Document

theorem whole_ofText (text : String) : (ofText text).Whole := .string (Literal.whole_ofText text)

theorem whole_ofList {items : List Document} (h : ∀ item ∈ items, item.Whole) :
    (ofList items).Whole := .array h

theorem whole_ofRecord {named : List (String × Document)} (h : ∀ n ∈ named, n.2.Whole) :
    (ofRecord named).Whole := by
  refine .object (fun m hm => ?_) fun m hm => ?_
  · obtain ⟨n, -, rfl⟩ := List.mem_map.mp hm
    exact ⟨_, Literal.whole_ofText n.1, rfl⟩
  · obtain ⟨n, hn, rfl⟩ := List.mem_map.mp hm
    exact h n hn

/-- Nothing is wrong with a whole document for a reader that skips it, so it may stand under any
unknown key. -/
theorem Whole.skipFault?_eq_none {d : Document} (h : d.Whole) : d.skipFault? = none := by
  have hskipped : ∀ literal : Literal, literal.Whole → literal.skipped = none := by
    intro literal hliteral
    rw [Literal.skipped, hliteral.closed]
    rfl
  induction h with
  | null => rfl
  | bool value => rfl
  | number h => rfl
  | string h => exact hskipped _ h
  | @array items h ih =>
    have hitems : skipItems? items = none := by
      clear h
      induction items with
      | nil => rfl
      | cons item items ihs =>
        obtain ⟨hitem, hrest⟩ := List.forall_mem_cons.mp ih
        rw [skipItems?, hitem, ihs hrest]
        rfl
    rw [skipFault?, hitems]
    rfl
  | @object members hkeys hvalues ih =>
    have hmembers : skipMembers? members = none := by
      clear hvalues
      induction members with
      | nil => rfl
      | cons m members ihs =>
        obtain ⟨⟨literal, hliteral, hkey⟩, hothers⟩ := List.forall_mem_cons.mp hkeys
        obtain ⟨hvalue, hrest⟩ := List.forall_mem_cons.mp ih
        obtain ⟨key, value⟩ := m
        rw [skipMembers?, show key = .string literal from hkey, skipKey?, hskipped _ hliteral,
          show value.skipFault? = none from hvalue, ihs hothers hrest]
        rfl
    rw [skipFault?, hmembers]
    rfl

end Json.Document

open Json.Document (whole_ofText whole_ofList whole_ofRecord)

theorem Value.whole_toJson (value : Value) : value.toJson.Whole := by
  cases value with
  | scalar text => exact whole_ofText text
  | list items =>
    refine whole_ofList fun item hitem => ?_
    obtain ⟨text, -, rfl⟩ := List.mem_map.mp hitem
    exact whole_ofText text

theorem Predicate.whole_toJson (p : Predicate) : p.toJson.Whole := by
  refine whole_ofRecord ?_
  simp only [List.forall_mem_cons, List.not_mem_nil, false_implies, implies_true, and_true]
  exact ⟨whole_ofText _, whole_ofText _, p.value.whole_toJson⟩

theorem Predicate.whole_list (predicates : List Predicate) :
    (Document.ofList (predicates.map Predicate.toJson)).Whole := by
  refine whole_ofList fun item hitem => ?_
  obtain ⟨p, -, rfl⟩ := List.mem_map.mp hitem
  exact p.whole_toJson

theorem Punctuation.whole_toJson (marks : Punctuation) : marks.toJson.Whole := by
  refine whole_ofRecord ?_
  simp only [List.forall_mem_cons, List.not_mem_nil, false_implies, implies_true, and_true]
  exact ⟨whole_ofText _, whole_ofText _, whole_ofText _, whole_ofText _⟩

theorem Fields.whole_toJson (fields : Fields) : fields.toJson.Whole := by
  refine whole_ofRecord fun n hn => ?_
  obtain ⟨entry, -, rfl⟩ := List.mem_map.mp hn
  exact whole_ofText entry.2

theorem Settings.whole_toJson (s : Settings) : s.toJson.Whole := by
  refine whole_ofRecord ?_
  simp only [List.forall_mem_cons, List.not_mem_nil, false_implies, implies_true, and_true]
  exact ⟨whole_ofText _, whole_ofText _, whole_ofText _, s.punctuation.whole_toJson,
    s.fields.whole_toJson, Predicate.whole_list _, Predicate.whole_list _⟩

/-! ### Definitions -/

namespace Definition

/-- **A text that holds a document with settings in it is read as these settings, and checked.** -/
theorem ofText_of_heldBy {s : Settings} {document : Document} {text : String}
    (hcarried : s.CarriedBy document) (hheld : document.HeldBy text) :
    ofText text = s.check.mapError .settings := by
  have hsettings : Settings.ofJson Json.nestingLimit document = .ok s :=
    Settings.ofJson_of_carriedBy hcarried 123
  rw [ofText, Document.parse_eq_of_heldBy hheld, ofDocument, hsettings]
  rfl

/-- **A definition in writing is read as itself.** -/
theorem ofText_toText (d : Definition) : ofText d.toText = .ok d := by
  have hcheck : d.toSettings.check = .ok d := Settings.check_eq_ok.mpr rfl
  rw [toText, ofText_of_heldBy d.toSettings.carriedBy_toJson d.toSettings.whole_toJson.heldBy_text,
    hcheck]
  rfl

end Definition

end FilterQuery
