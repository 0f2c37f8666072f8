import FilterQuery.Definition.Json
import Mathlib.Data.List.Forall2

/-!
# What a document carries

Many texts mean the same settings.  `Settings.CarriedBy` says which documents carry which settings
without reading them: the keys of a record stand in any order, each of them at most once, with any
other keys between them, and a key may be left out where the standard value is meant.
-/

namespace FilterQuery

open Json (Document)

namespace Json.Document

/-- The document is a string for this text. -/
def Says (d : Document) (text : String) : Prop :=
  ∃ literal, d = .string literal ∧ literal.text = .ok text

/-- The document is a list of such items. -/
def Lists {α : Type} (Item : α → Document → Prop) (values : List α) (d : Document) : Prop :=
  ∃ items, d = .array items .closed ∧ List.Forall₂ Item values items

/-- The document is an object with these keys and values, in this order. -/
def HasMembers (d : Document) (named : List (String × Document)) : Prop :=
  ∃ members, d = .object members .closed ∧
    List.Forall₂ (fun n m => m.1.Says n.1 ∧ m.2 = n.2) named members

/-- A key of a record. -/
structure Slot where
  name : String
  /-- What the value under the key must be. -/
  Holds : Document → Prop
  /-- When the key may be left out. -/
  Spare : Prop

/-- The keys and values make up a record with these slots. -/
structure Fills (slots : List Slot) (named : List (String × Document)) : Prop where
  once : ((named.map (·.1)).filter (· ∈ slots.map (·.name))).Nodup
  holds : ∀ slot ∈ slots, ∀ d, (slot.name, d) ∈ named → slot.Holds d
  complete : ∀ slot ∈ slots, slot.name ∈ named.map (·.1) ∨ slot.Spare
  /-- Unknown keys may have any values, as long as they are JSON. -/
  others : ∀ n ∈ named, n.1 ∉ slots.map (·.name) → n.2.skipFault? = none

/-- The document is a record with these slots. -/
def IsRecord (d : Document) (slots : List Slot) : Prop :=
  ∃ named, d.HasMembers named ∧ Fills slots named

end Json.Document

/-- The document carries the value: a string, or a list of strings. -/
def Value.CarriedBy : Value → Document → Prop
  | .scalar text, d => d.Says text
  | .list items, d => d.Lists (fun text item => item.Says text) items

namespace Predicate

/-- The keys of a predicate, none of which may be left out. -/
def slots (p : Predicate) : List Document.Slot :=
  [⟨"field", (·.Says p.field), False⟩, ⟨"op", (·.Says p.op.code), False⟩,
    ⟨"value", p.value.CarriedBy, False⟩]

/-- The document carries the predicate. -/
def CarriedBy (p : Predicate) (d : Document) : Prop := d.IsRecord p.slots

end Predicate

namespace Punctuation

/-- The keys of punctuation, each of which may be left out for the standard mark. -/
def slots (marks : Punctuation) : List Document.Slot :=
  [⟨"clause_separator", (·.Says marks.separator.toString), marks.separator = '+'⟩,
    ⟨"list_open", (·.Says marks.listOpen.toString), marks.listOpen = '['⟩,
    ⟨"list_close", (·.Says marks.listClose.toString), marks.listClose = ']'⟩,
    ⟨"list_delimiter", (·.Says marks.delimiter.toString), marks.delimiter = ','⟩]

/-- The document carries the punctuation. -/
def CarriedBy (marks : Punctuation) (d : Document) : Prop := d.IsRecord marks.slots

end Punctuation

/-- The document carries the map: of two members with the same alias the later one counts. -/
def Fields.CarriedBy (fields : Fields) (d : Document) : Prop :=
  ∃ named pairs : List (_ × _), d.HasMembers named ∧
    List.Forall₂ (fun pair n => n.1 = pair.1 ∧ n.2.Says pair.2) pairs named ∧
    ∀ aliasName, fields.get? aliasName = pairs.reverse.lookup aliasName

namespace Settings

/-- The keys of settings, each of which but `fields` may be left out for its standard value. -/
def slots (s : Settings) : List Document.Slot :=
  [⟨"param", (·.Says s.param), s.param = "q"⟩,
    ⟨"default_operator", (·.Says s.defaultOperator.code), s.defaultOperator = .equals⟩,
    ⟨"unmapped", (·.Says s.unmapped.code), s.unmapped = .warn⟩,
    ⟨"syntax", s.punctuation.CarriedBy, s.punctuation = ⟨'+', '[', ']', ','⟩⟩,
    ⟨"fields", s.fields.CarriedBy, False⟩,
    ⟨"mandatory", Document.Lists Predicate.CarriedBy s.mandatory, s.mandatory = []⟩,
    ⟨"defaults", Document.Lists Predicate.CarriedBy s.defaults, s.defaults = []⟩]

/-- The document carries the settings. -/
def CarriedBy (s : Settings) (d : Document) : Prop := d.IsRecord s.slots

end Settings

end FilterQuery
