import FilterQuery.Definition.Carried
import FilterQuery.Proofs.Fields
import FilterQuery.Proofs.Results

/-!
# A document that carries something is decoded to it

`Settings.ofJson_of_carriedBy` says that a document which carries settings is read as these
settings, and there is a lemma of this form for each thing that settings are made of.

A record is read key by key into a draft.  What the draft holds after some keys depends on nothing
but which keys these were, so a record is described by a function from the names met so far to the
draft (`Predicate.drafted`, `Punctuation.drafted`, `Settings.drafted`), and `foldMembers_of_fills`
carries that function through an object, whatever the order of the keys is.
-/

namespace FilterQuery

open Json (Document)

namespace Json.Document

variable {σ α : Type} {d : Document} {text : String}

/-! ### Strings and lists -/

theorem Says.asText (h : d.Says text) : d.asText = .ok text := by
  obtain ⟨literal, rfl, htext⟩ := h
  exact htext

theorem Says.key (h : d.Says text) : d.key = .ok text := by
  obtain ⟨literal, rfl, htext⟩ := h
  exact htext

theorem Says.asChar {c : Char} (h : d.Says c.toString) : d.asChar = .ok c := by
  obtain ⟨literal, rfl, htext⟩ := h
  have hchars : c.toString.toList = [c] := by simp
  rw [Document.asChar, htext]
  simp only [bind, Except.bind, hchars]

theorem Says.asCode (h : d.Says text) {room : Nat} {known : List String}
    {ofCode? : String → Option α} {a : α} (hcode : ofCode? text = some a) :
    d.asCode room known ofCode? = .ok a := by
  obtain ⟨literal, rfl, htext⟩ := h
  rw [Document.asCode, htext]
  simp only [bind, Except.bind, Document.asCode.named, hcode]

theorem Lists.asList {Item : α → Document → Prop} {item : Nat → Document → Except Fault α}
    {values : List α} {room : Nat} (h : d.Lists Item values)
    (hitem : ∀ a d, Item a d → item room d = .ok a) :
    d.asList (room + 1) item = .ok values := by
  obtain ⟨items, rfl, hitems⟩ := h
  have hvalues : items.mapM (item room) = .ok values := Results.mapM_of_forall₂ (hitems.imp hitem)
  rw [Document.asList, enter]
  simp only [bind, Except.bind, hvalues]
  rfl

/-! ### Objects -/

theorem foldMembers_of_forall₂ {member : σ → String → Document → Except Fault σ}
    {named : List (String × Document)} {members : List (Document × Document)}
    (h : List.Forall₂ (fun n m => m.1.Says n.1 ∧ m.2 = n.2) named members) (start : σ) :
    foldMembers member start members .closed =
      named.foldlM (fun state n => member state n.1 n.2) start := by
  have hfold : members.foldlM (fun state (m : Document × Document) => do
      member state (← m.1.key) m.2) start =
        named.foldlM (fun state n => member state n.1 n.2) start := by
    induction h generalizing start with
    | nil => rfl
    | cons hhead _ ih =>
      obtain ⟨hkey, hvalue⟩ := hhead
      rw [List.foldlM_cons, List.foldlM_cons, hkey.key, hvalue]
      refine bind_congr fun state => ih state
  rw [foldMembers]
  refine (congrArg (· >>= _) hfold).trans ?_
  cases named.foldlM (fun state n => member state n.1 n.2) start <;> rfl

/-- What is known of `name` once these names were met. -/
def seen (names : List String) (name : String) (value : α) : Option α :=
  if name ∈ names then some value else none

@[simp] theorem seen_concat_self (names : List String) (name : String) (value : α) :
    seen (names ++ [name]) name value = some value := if_pos (by simp)

@[simp] theorem seen_concat_of_ne {name name' : String} (h : name ≠ name')
    (names : List String) (value : α) :
    seen (names ++ [name']) name value = seen names name value := by
  simp only [seen, List.mem_append, List.mem_singleton, h, or_false]

theorem getD_seen {names : List String} {name : String} {value standard : α}
    (h : name ∈ names ∨ value = standard) : (seen names name value).getD standard = value := by
  by_cases hname : name ∈ names
  · rw [seen, if_pos hname]
    rfl
  · rw [seen, if_neg hname]
    exact (h.resolve_left hname).symm

theorem required_seen {names : List String} {name : String} (h : name ∈ names ∨ False)
    (value : α) : required name (seen names name value) = .ok value := by
  rw [seen, if_pos (h.resolve_right id), required]

theorem once_seen {names : List String} {name : String} (h : name ∉ names) (value : α)
    (result : Except Fault α) : once name (seen names name value) result = result.map some := by
  rw [seen, if_neg h, once]

variable {slots : List Slot} {named : List (String × Document)}

/-- **A record is read into the draft that its names stand for.**  A key of the record is met once,
and any other key leaves the draft as it is. -/
theorem Fills.foldlM (h : Fills slots named) {member : σ → String → Document → Except Fault σ}
    {drafted : List String → σ}
    (hslot : ∀ slot ∈ slots, ∀ names d, slot.name ∉ names → slot.Holds d →
      member (drafted names) slot.name d = .ok (drafted (names ++ [slot.name])))
    (hother : ∀ name, name ∉ slots.map (·.name) → ∀ names d, d.skipFault? = none →
      member (drafted names) name d = .ok (drafted (names ++ [name]))) :
    named.foldlM (fun state n => member state n.1 n.2) (drafted []) =
      .ok (drafted (named.map (·.1))) := by
  -- the induction is on the members that are left, after those with the names in `names`
  have hrun : ∀ (names : List String) (rest : List (String × Document)), (∀ n ∈ rest, n ∈ named) →
      ((names ++ rest.map (·.1)).filter (· ∈ slots.map (·.name))).Nodup →
      rest.foldlM (fun state n => member state n.1 n.2) (drafted names) =
        .ok (drafted (names ++ rest.map (·.1))) := by
    intro names rest
    induction rest generalizing names with
    | nil =>
      intro _ _
      rw [List.map_nil, List.append_nil]
      rfl
    | cons n rest ih =>
      intro hmem honce
      obtain ⟨hn, hrest⟩ := List.forall_mem_cons.mp hmem
      have hstep : member (drafted names) n.1 n.2 = .ok (drafted (names ++ [n.1])) := by
        by_cases hknown : n.1 ∈ slots.map (·.name)
        · obtain ⟨slot, hmemslot, hname⟩ := List.mem_map.mp hknown
          have hnew : n.1 ∉ names := by
            intro hold
            have hkept : decide (n.1 ∈ slots.map (·.name)) = true := decide_eq_true hknown
            rw [List.filter_append, List.nodup_append] at honce
            exact honce.2.2 n.1 (List.mem_filter.mpr ⟨hold, hkept⟩) n.1
              (List.mem_filter.mpr ⟨List.mem_cons_self, hkept⟩) rfl
          rw [← hname] at hnew ⊢
          exact hslot slot hmemslot names n.2 hnew (h.holds slot hmemslot n.2 (hname ▸ hn))
        · exact hother n.1 hknown names n.2 (h.others n hn hknown)
      rw [List.map_cons, List.append_cons] at honce ⊢
      rw [List.foldlM_cons, hstep]
      exact ih (names ++ [n.1]) hrest honce
  exact hrun [] named (fun _ => id) h.once

/-- An object that makes up a record is read into the draft that its names stand for. -/
theorem foldMembers_of_fills {members : List (Document × Document)}
    (hmembers : List.Forall₂ (fun n m => m.1.Says n.1 ∧ m.2 = n.2) named members)
    (h : Fills slots named) {member : σ → String → Document → Except Fault σ}
    {drafted : List String → σ}
    (hslot : ∀ slot ∈ slots, ∀ names d, slot.name ∉ names → slot.Holds d →
      member (drafted names) slot.name d = .ok (drafted (names ++ [slot.name])))
    (hother : ∀ name, name ∉ slots.map (·.name) → ∀ names d, d.skipFault? = none →
      member (drafted names) name d = .ok (drafted (names ++ [name]))) :
    foldMembers member (drafted []) members .closed = .ok (drafted (named.map (·.1))) :=
  (foldMembers_of_forall₂ hmembers _).trans (h.foldlM hslot hother)

theorem ignore_of_skipFault? {state : σ} (h : d.skipFault? = none) :
    d.ignore state = .ok state := by
  rw [ignore, h, finish]

end Json.Document

open Json.Document (seen seen_concat_self seen_concat_of_ne getD_seen required_seen once_seen
  foldMembers_of_fills ignore_of_skipFault?)

variable {d : Document}

/-! ### Codes and values -/

theorem Operator.ofJson_of_says {op : Operator} (h : d.Says op.code) (room : Nat) :
    Operator.ofJson room d = .ok op := h.asCode op.ofCode?_code

theorem UnmappedPolicy.ofCode?_code (policy : UnmappedPolicy) :
    ofCode? policy.code = some policy := by
  cases policy <;> decide

theorem UnmappedPolicy.ofJson_of_says {policy : UnmappedPolicy} (h : d.Says policy.code)
    (room : Nat) : UnmappedPolicy.ofJson room d = .ok policy := h.asCode policy.ofCode?_code

/-- **A value is read from any document that carries it.** -/
theorem Value.ofJson_of_carriedBy {value : Value} (h : value.CarriedBy d) (room : Nat) :
    Value.ofJson (room + 1) d = .ok value := by
  cases value with
  | scalar text =>
    obtain ⟨literal, rfl, htext⟩ := h
    simp [Value.ofJson, Document.contentFault?, Document.faultOf, Value.ofDocument?, htext,
      Except.toOption]
  | list texts =>
    obtain ⟨items, rfl, hitems⟩ := h
    have hcontent : Document.contentItems? room items = none := by
      induction hitems with
      | nil => rfl
      | cons hhead _ ih =>
        obtain ⟨literal, rfl, htext⟩ := hhead
        simp [Document.contentItems?, Document.contentFault?, Document.faultOf, htext, ih]
    have hvalues : (items.mapM fun item : Document => item.asText.toOption) = some texts := by
      refine Results.mapM_of_forall₂ (hitems.imp fun text item hitem => ?_)
      rw [hitem.asText]
      rfl
    simp [Value.ofJson, Document.contentFault?, hcontent, Json.Closing.listFault?,
      Value.ofDocument?, hvalues]

/-! ### Predicates -/

namespace Predicate

/-- The draft of a predicate once keys with these names were read. -/
def drafted (p : Predicate) (names : List String) : Draft where
  field := seen names "field" p.field
  op := seen names "op" p.op
  value := seen names "value" p.value

theorem member_of_holds (p : Predicate) (room : Nat) :
    ∀ slot ∈ p.slots, ∀ names d, slot.name ∉ names → slot.Holds d →
      Draft.member (room + 1) (p.drafted names) slot.name d =
        .ok (p.drafted (names ++ [slot.name])) := by
  intro slot hslot names d hnew hd
  simp only [slots, List.mem_cons, List.not_mem_nil, or_false] at hslot
  rcases hslot with rfl | rfl | rfl
  · simp [Draft.member, drafted, once_seen hnew, hd.asText, Except.map, bind, Except.bind, pure,
      Except.pure]
  · simp [Draft.member, drafted, once_seen hnew, Operator.ofJson_of_says hd, Except.map, bind,
      Except.bind, pure, Except.pure]
  · simp [Draft.member, drafted, once_seen hnew, Value.ofJson_of_carriedBy hd, Except.map, bind,
      Except.bind, pure, Except.pure]

theorem member_of_unknown (p : Predicate) (room : Nat) :
    ∀ name, name ∉ p.slots.map (·.name) → ∀ names d, d.skipFault? = none →
      Draft.member room (p.drafted names) name d = .ok (p.drafted (names ++ [name])) := by
  intro name hname names d hd
  simp only [slots, List.map_cons, List.map_nil, List.mem_cons, List.not_mem_nil, or_false,
    not_or] at hname
  obtain ⟨hfield, hop, hvalue⟩ := hname
  have hsame : p.drafted (names ++ [name]) = p.drafted names := by
    simp only [drafted, seen_concat_of_ne (Ne.symm hfield), seen_concat_of_ne (Ne.symm hop),
      seen_concat_of_ne (Ne.symm hvalue)]
  rw [hsame, ← ignore_of_skipFault? hd]
  unfold Draft.member
  split
  · exact absurd rfl hfield
  · exact absurd rfl hop
  · exact absurd rfl hvalue
  · rfl

/-- **A predicate is read from any document that carries it.** -/
theorem ofJson_of_carriedBy {p : Predicate} (h : p.CarriedBy d) (room : Nat) :
    Predicate.ofJson (room + 2) d = .ok p := by
  obtain ⟨named, ⟨members, rfl, hmembers⟩, hfills⟩ := h
  have hdraft : Document.foldMembers (Draft.member (room + 1)) {} members .closed =
      .ok (p.drafted (named.map (·.1))) :=
    foldMembers_of_fills hmembers hfills (p.member_of_holds room) (p.member_of_unknown _)
  have hall := fun slot => hfills.complete slot
  simp only [slots, List.forall_mem_cons, List.not_mem_nil, false_implies, implies_true,
    and_true] at hall
  obtain ⟨hfield, hop, hvalue⟩ := hall
  have hfinish : (p.drafted (named.map (·.1))).finish = .ok p := by
    simp only [Draft.finish, drafted, required_seen hfield, required_seen hop,
      required_seen hvalue, bind, Except.bind]
    rfl
  rw [Predicate.ofJson, Document.enter]
  simp only [bind, Except.bind, hdraft, hfinish]

end Predicate

/-! ### Punctuation -/

namespace Punctuation

/-- The draft of punctuation once keys with these names were read. -/
def drafted (marks : Punctuation) (names : List String) : Draft where
  separator := seen names "clause_separator" marks.separator
  listOpen := seen names "list_open" marks.listOpen
  listClose := seen names "list_close" marks.listClose
  delimiter := seen names "list_delimiter" marks.delimiter

theorem member_of_holds (marks : Punctuation) :
    ∀ slot ∈ marks.slots, ∀ names d, slot.name ∉ names → slot.Holds d →
      Draft.member (marks.drafted names) slot.name d =
        .ok (marks.drafted (names ++ [slot.name])) := by
  intro slot hslot names d hnew hd
  simp only [slots, List.mem_cons, List.not_mem_nil, or_false] at hslot
  rcases hslot with rfl | rfl | rfl | rfl
  all_goals
    have hmark := Document.Says.asChar hd
    simp [Draft.member, drafted, once_seen hnew, hmark, Except.map, bind, Except.bind, pure,
      Except.pure]

theorem member_of_unknown (marks : Punctuation) :
    ∀ name, name ∉ marks.slots.map (·.name) → ∀ names d, d.skipFault? = none →
      Draft.member (marks.drafted names) name d = .ok (marks.drafted (names ++ [name])) := by
  intro name hname names d hd
  simp only [slots, List.map_cons, List.map_nil, List.mem_cons, List.not_mem_nil, or_false,
    not_or] at hname
  obtain ⟨hseparator, hopen, hclose, hdelimiter⟩ := hname
  have hsame : marks.drafted (names ++ [name]) = marks.drafted names := by
    simp only [drafted, seen_concat_of_ne (Ne.symm hseparator), seen_concat_of_ne (Ne.symm hopen),
      seen_concat_of_ne (Ne.symm hclose), seen_concat_of_ne (Ne.symm hdelimiter)]
  rw [hsame, ← ignore_of_skipFault? hd]
  unfold Draft.member
  split
  · exact absurd rfl hseparator
  · exact absurd rfl hopen
  · exact absurd rfl hclose
  · exact absurd rfl hdelimiter
  · rfl

/-- **Punctuation is read from any document that carries it.** -/
theorem ofJson_of_carriedBy {marks : Punctuation} (h : marks.CarriedBy d) (room : Nat) :
    Punctuation.ofJson (room + 1) d = .ok marks := by
  obtain ⟨named, ⟨members, rfl, hmembers⟩, hfills⟩ := h
  have hdraft : Document.foldMembers Draft.member {} members .closed =
      .ok (marks.drafted (named.map (·.1))) :=
    foldMembers_of_fills hmembers hfills marks.member_of_holds marks.member_of_unknown
  have hfinish : (marks.drafted (named.map (·.1))).finish = marks := by
    have hall := fun slot => hfills.complete slot
    simp only [slots, List.forall_mem_cons, List.not_mem_nil, false_implies, implies_true,
      and_true] at hall
    obtain ⟨hseparator, hopen, hclose, hdelimiter⟩ := hall
    simp only [Draft.finish, drafted, getD_seen hseparator, getD_seen hopen, getD_seen hclose,
      getD_seen hdelimiter]
  rw [Punctuation.ofJson, Document.enter]
  simp only [bind, Except.bind, hdraft, hfinish]
  rfl

end Punctuation

/-! ### Maps -/

/-- **A map is read from any document that carries it.** -/
theorem Fields.ofJson_of_carriedBy {fields : Fields} (h : fields.CarriedBy d) (room : Nat) :
    Fields.ofJson (room + 1) d = .ok fields := by
  obtain ⟨named, pairs, ⟨members, rfl, hmembers⟩, hpairs, hget⟩ := h
  have hread : ∀ start : Fields,
      named.foldlM (fun fields n => member fields n.1 n.2) start =
        .ok (pairs.foldl (fun fields pair => fields.insert pair.1 pair.2) start) := by
    clear hget hmembers
    induction hpairs with
    | nil => exact fun start => rfl
    | @cons pair n pairs named hhead _ ih =>
      obtain ⟨halias, hfield⟩ := hhead
      intro start
      have hmember : member start n.1 n.2 = .ok (start.insert pair.1 pair.2) := by
        rw [member, hfield.asText, halias]
        rfl
      rw [List.foldlM_cons, hmember]
      exact ih (start.insert pair.1 pair.2)
  rw [Fields.ofJson, Document.enter, eq_ofList_iff.mpr hget]
  exact (Document.foldMembers_of_forall₂ hmembers _).trans (hread empty)

/-! ### Settings -/

namespace Settings

/-- The draft of settings once keys with these names were read. -/
def drafted (s : Settings) (names : List String) : Draft where
  param := seen names "param" s.param
  defaultOperator := seen names "default_operator" s.defaultOperator
  unmapped := seen names "unmapped" s.unmapped
  punctuation := seen names "syntax" s.punctuation
  fields := seen names "fields" s.fields
  mandatory := seen names "mandatory" s.mandatory
  defaults := seen names "defaults" s.defaults

/-- **Predicates are read from any document that carries them.** -/
theorem asList_of_carriedBy {predicates : List Predicate}
    (h : d.Lists Predicate.CarriedBy predicates) (room : Nat) :
    d.asList (room + 3) Predicate.ofJson = .ok predicates :=
  h.asList fun _ _ hp => Predicate.ofJson_of_carriedBy hp room

theorem member_of_holds (s : Settings) (room : Nat) :
    ∀ slot ∈ s.slots, ∀ names d, slot.name ∉ names → slot.Holds d →
      Draft.member (room + 3) (s.drafted names) slot.name d =
        .ok (s.drafted (names ++ [slot.name])) := by
  intro slot hslot names d hnew hd
  simp only [slots, List.mem_cons, List.not_mem_nil, or_false] at hslot
  rcases hslot with rfl | rfl | rfl | rfl | rfl | rfl | rfl
  · have hread := Document.Says.asText hd
    simp [Draft.member, drafted, once_seen hnew, hread, Except.map, bind, Except.bind, pure,
      Except.pure]
  · have hread := Operator.ofJson_of_says hd (room + 3)
    simp [Draft.member, drafted, once_seen hnew, hread, Except.map, bind, Except.bind, pure,
      Except.pure]
  · have hread := UnmappedPolicy.ofJson_of_says hd (room + 3)
    simp [Draft.member, drafted, once_seen hnew, hread, Except.map, bind, Except.bind, pure,
      Except.pure]
  · have hread := Punctuation.ofJson_of_carriedBy hd (room + 2)
    simp [Draft.member, drafted, once_seen hnew, hread, Except.map, bind, Except.bind, pure,
      Except.pure]
  · have hread := Fields.ofJson_of_carriedBy hd (room + 2)
    simp [Draft.member, drafted, once_seen hnew, hread, Except.map, bind, Except.bind, pure,
      Except.pure]
  · have hread := asList_of_carriedBy hd room
    simp [Draft.member, drafted, once_seen hnew, hread, Except.map, bind, Except.bind, pure,
      Except.pure]
  · have hread := asList_of_carriedBy hd room
    simp [Draft.member, drafted, once_seen hnew, hread, Except.map, bind, Except.bind, pure,
      Except.pure]

theorem member_of_unknown (s : Settings) (room : Nat) :
    ∀ name, name ∉ s.slots.map (·.name) → ∀ names d, d.skipFault? = none →
      Draft.member room (s.drafted names) name d = .ok (s.drafted (names ++ [name])) := by
  intro name hname names d hd
  simp only [slots, List.map_cons, List.map_nil, List.mem_cons, List.not_mem_nil, or_false,
    not_or] at hname
  obtain ⟨hparam, hoperator, hunmapped, hsyntax, hfields, hmandatory, hdefaults⟩ := hname
  have hsame : s.drafted (names ++ [name]) = s.drafted names := by
    simp only [drafted, seen_concat_of_ne (Ne.symm hparam), seen_concat_of_ne (Ne.symm hoperator),
      seen_concat_of_ne (Ne.symm hunmapped), seen_concat_of_ne (Ne.symm hsyntax),
      seen_concat_of_ne (Ne.symm hfields), seen_concat_of_ne (Ne.symm hmandatory),
      seen_concat_of_ne (Ne.symm hdefaults)]
  rw [hsame, ← ignore_of_skipFault? hd]
  unfold Draft.member
  split
  · exact absurd rfl hparam
  · exact absurd rfl hoperator
  · exact absurd rfl hunmapped
  · exact absurd rfl hsyntax
  · exact absurd rfl hfields
  · exact absurd rfl hmandatory
  · exact absurd rfl hdefaults
  · rfl

/-- **Settings are read from any document that carries them.** -/
theorem ofJson_of_carriedBy {s : Settings} (h : s.CarriedBy d) (room : Nat) :
    Settings.ofJson (room + 4) d = .ok s := by
  obtain ⟨named, ⟨members, rfl, hmembers⟩, hfills⟩ := h
  have hdraft : Document.foldMembers (Draft.member (room + 3)) {} members .closed =
      .ok (s.drafted (named.map (·.1))) :=
    foldMembers_of_fills hmembers hfills (s.member_of_holds room) (s.member_of_unknown _)
  have hall := fun slot => hfills.complete slot
  simp only [slots, List.forall_mem_cons, List.not_mem_nil, false_implies, implies_true,
    and_true] at hall
  obtain ⟨hparam, hoperator, hunmapped, hsyntax, hfields, hmandatory, hdefaults⟩ := hall
  have hrequired : Document.required "fields" (s.drafted (named.map (·.1))).fields = .ok s.fields :=
    required_seen hfields s.fields
  have hfinish : (s.drafted (named.map (·.1))).withFields s.fields = s := by
    simp only [Draft.withFields, drafted, getD_seen hparam, getD_seen hoperator,
      getD_seen hunmapped, getD_seen hsyntax, getD_seen hmandatory, getD_seen hdefaults]
  rw [Settings.ofJson, Document.enter]
  simp only [bind, Except.bind, hdraft, hrequired, hfinish]
  rfl

end Settings

end FilterQuery
