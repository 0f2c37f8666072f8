import FilterQuery.Definition.Basic
import FilterQuery.Json.Decode
import FilterQuery.Json.Write

/-!
# Definitions in JSON

A definition is an object with the keys `param`, `default_operator`, `unmapped`, `syntax`, `fields`,
`mandatory` and `defaults`; all but `fields` have a standard value.  A record may also be written as
a list of its values in this order.  Unknown keys are passed over, and a known key may stand once.

Faults are met in the order of the text.  What is missing, and what the settings as a whole get
wrong, comes out at the end.
-/

namespace FilterQuery

open Json (Document)

namespace Operator

/-- Reads an operator by its code. -/
def ofJson (room : Nat) : Document → Except Json.Fault Operator :=
  Document.asCode room (all.map code) ofCode?

end Operator

namespace UnmappedPolicy

/-- Reads a policy by its code. -/
def ofJson (room : Nat) : Document → Except Json.Fault UnmappedPolicy :=
  Document.asCode room (all.map code) ofCode?

end UnmappedPolicy

namespace Value

/-- The strings that a whole document holds, if it is a string or a list of strings. -/
def ofDocument? : Document → Option Value
  | .string literal => literal.text.toOption.map .scalar
  | .array items _ => (items.mapM fun item : Document => item.asText.toOption).map .list
  | _ => none

/-- Reads a value.  The whole of it is read before it is looked at. -/
def ofJson (room : Nat) (d : Document) : Except Json.Fault Value :=
  match d.contentFault? room with
  | some fault => .error fault
  | none =>
    match ofDocument? d with
    | some value => .ok value
    | none => .error .noAlternative

/-- The document of a value. -/
def toJson : Value → Document
  | scalar text => .ofText text
  | list items => .ofList (items.map .ofText)

end Value

namespace Predicate

/-- A predicate of which some fields were read. -/
structure Draft where
  field : Option String := none
  op : Option Operator := none
  value : Option Value := none

/-- Takes in one key of a predicate. -/
def Draft.member (room : Nat) (draft : Draft) (name : String) (d : Document) :
    Except Json.Fault Draft :=
  match name with
  | "field" => do return { draft with field := ← Document.once name draft.field d.asText }
  | "op" => do return { draft with op := ← Document.once name draft.op (Operator.ofJson room d) }
  | "value" => do
    return { draft with value := ← Document.once name draft.value (Value.ofJson room d) }
  | _ => d.ignore draft

/-- The predicate, if all its fields were read. -/
def Draft.finish (draft : Draft) : Except Json.Fault Predicate := do
  let field ← Document.required "field" draft.field
  let op ← Document.required "op" draft.op
  let value ← Document.required "value" draft.value
  return ⟨field, op, value⟩

/-- The value at a place of a predicate written as a list. -/
def place {α : Type} (index : Nat) (read : Document → Except Json.Fault α) :
    Option Document → Except Json.Fault α
  | some d => read d
  | none => .error (.wrongLength index "Predicate" 3)

/-- Reads a predicate. -/
def ofJson (room : Nat) : Document → Except Json.Fault Predicate
  | .object members closing => do
    let room ← Document.enter room
    (← Document.foldMembers (Draft.member room) {} members closing).finish
  | .array items closing => do
    let room ← Document.enter room
    let (first, items) ← Document.nextItem items closing
    let field ← place 0 Document.asText first
    let (second, items) ← Document.nextItem items closing
    let op ← place 1 (Operator.ofJson room) second
    let (third, items) ← Document.nextItem items closing
    let value ← place 2 (Value.ofJson room) third
    Document.finish (closing.recordFault? !items.isEmpty) ⟨field, op, value⟩
  | other => .error (other.unexpected (.record "Predicate"))

/-- The document of a predicate. -/
def toJson (p : Predicate) : Document :=
  .ofRecord [("field", .ofText p.field), ("op", .ofText p.op.code), ("value", p.value.toJson)]

end Predicate

namespace Punctuation

/-- Punctuation of which some marks were read. -/
structure Draft where
  separator : Option Char := none
  listOpen : Option Char := none
  listClose : Option Char := none
  delimiter : Option Char := none

/-- Takes in one key of the punctuation. -/
def Draft.member (draft : Draft) (name : String) (d : Document) : Except Json.Fault Draft :=
  match name with
  | "clause_separator" => do
    return { draft with separator := ← Document.once name draft.separator d.asChar }
  | "list_open" => do
    return { draft with listOpen := ← Document.once name draft.listOpen d.asChar }
  | "list_close" => do
    return { draft with listClose := ← Document.once name draft.listClose d.asChar }
  | "list_delimiter" => do
    return { draft with delimiter := ← Document.once name draft.delimiter d.asChar }
  | _ => d.ignore draft

/-- The punctuation, with the standard marks for those that were not read. -/
def Draft.finish (draft : Draft) : Punctuation :=
  let standard : Punctuation := {}
  ⟨draft.separator.getD standard.separator, draft.listOpen.getD standard.listOpen,
    draft.listClose.getD standard.listClose, draft.delimiter.getD standard.delimiter⟩

/-- Reads punctuation. -/
def ofJson (room : Nat) : Document → Except Json.Fault Punctuation
  | .object members closing => do
    let _ ← Document.enter room
    return (← Document.foldMembers Draft.member {} members closing).finish
  | .array items closing => do
    let _ ← Document.enter room
    let (first, items) ← Document.nextItem items closing
    let separator ← first.mapM Document.asChar
    let (second, items) ← Document.nextItem items closing
    let listOpen ← second.mapM Document.asChar
    let (third, items) ← Document.nextItem items closing
    let listClose ← third.mapM Document.asChar
    let (fourth, items) ← Document.nextItem items closing
    let delimiter ← fourth.mapM Document.asChar
    Document.finish (closing.recordFault? !items.isEmpty)
      (Draft.mk separator listOpen listClose delimiter).finish
  | other => .error (other.unexpected (.record "Syntax"))

/-- The document of punctuation. -/
def toJson (marks : Punctuation) : Document :=
  .ofRecord [("clause_separator", .ofText marks.separator.toString),
    ("list_open", .ofText marks.listOpen.toString),
    ("list_close", .ofText marks.listClose.toString),
    ("list_delimiter", .ofText marks.delimiter.toString)]

end Punctuation

namespace Fields

/-- Takes in one entry of a map. -/
def member (fields : Fields) (aliasName : String) (d : Document) : Except Json.Fault Fields := do
  return fields.insert aliasName (← d.asText)

/-- Reads a map; of two entries with the same alias the later one counts. -/
def ofJson (room : Nat) : Document → Except Json.Fault Fields
  | .object members closing => do
    let _ ← Document.enter room
    Document.foldMembers member empty members closing
  | other => .error (other.unexpected .map)

/-- The document of a map. -/
def toJson (fields : Fields) : Document :=
  .ofRecord (fields.entries.map fun (aliasName, field) => (aliasName, .ofText field))

end Fields

namespace Settings

/-- Settings of which some were read. -/
structure Draft where
  param : Option String := none
  defaultOperator : Option Operator := none
  unmapped : Option UnmappedPolicy := none
  punctuation : Option Punctuation := none
  fields : Option Fields := none
  mandatory : Option (List Predicate) := none
  defaults : Option (List Predicate) := none

/-- Takes in one key of a definition. -/
def Draft.member (room : Nat) (draft : Draft) (name : String) (d : Document) :
    Except Json.Fault Draft :=
  match name with
  | "param" => do return { draft with param := ← Document.once name draft.param d.asText }
  | "default_operator" => do
    return { draft with
      defaultOperator := ← Document.once name draft.defaultOperator (Operator.ofJson room d) }
  | "unmapped" => do
    return { draft with
      unmapped := ← Document.once name draft.unmapped (UnmappedPolicy.ofJson room d) }
  | "syntax" => do
    return { draft with
      punctuation := ← Document.once name draft.punctuation (Punctuation.ofJson room d) }
  | "fields" => do
    return { draft with fields := ← Document.once name draft.fields (Fields.ofJson room d) }
  | "mandatory" => do
    return { draft with
      mandatory := ← Document.once name draft.mandatory (d.asList room Predicate.ofJson) }
  | "defaults" => do
    return { draft with
      defaults := ← Document.once name draft.defaults (d.asList room Predicate.ofJson) }
  | _ => d.ignore draft

/-- The settings, with the standard values for those that were not read. -/
def Draft.withFields (draft : Draft) (fields : Fields) : Settings :=
  let standard : Settings := { fields }
  { param := draft.param.getD standard.param
    defaultOperator := draft.defaultOperator.getD standard.defaultOperator
    unmapped := draft.unmapped.getD standard.unmapped
    punctuation := draft.punctuation.getD standard.punctuation
    fields
    mandatory := draft.mandatory.getD standard.mandatory
    defaults := draft.defaults.getD standard.defaults }

/-- Reads settings. -/
def ofJson (room : Nat) : Document → Except Json.Fault Settings
  | .object members closing => do
    let room ← Document.enter room
    let draft ← Document.foldMembers (Draft.member room) {} members closing
    return draft.withFields (← Document.required "fields" draft.fields)
  | .array items closing => do
    let room ← Document.enter room
    let (first, items) ← Document.nextItem items closing
    let param ← first.mapM Document.asText
    let (second, items) ← Document.nextItem items closing
    let defaultOperator ← second.mapM (Operator.ofJson room)
    let (third, items) ← Document.nextItem items closing
    let unmapped ← third.mapM (UnmappedPolicy.ofJson room)
    let (fourth, items) ← Document.nextItem items closing
    let punctuation ← fourth.mapM (Punctuation.ofJson room)
    let (fifth, items) ← Document.nextItem items closing
    match fifth with
    | none => .error (.wrongLength 4 "DefinitionFile" 7)
    | some d =>
      let fields ← Fields.ofJson room d
      let (sixth, items) ← Document.nextItem items closing
      let mandatory ← sixth.mapM (Document.asList room Predicate.ofJson)
      let (seventh, items) ← Document.nextItem items closing
      let defaults ← seventh.mapM (Document.asList room Predicate.ofJson)
      let draft : Draft :=
        ⟨param, defaultOperator, unmapped, punctuation, some fields, mandatory, defaults⟩
      Document.finish (closing.recordFault? !items.isEmpty) (draft.withFields fields)
  | other => .error (other.unexpected (.record "DefinitionFile"))

/-- The document of settings, with every setting spelled out. -/
def toJson (s : Settings) : Document :=
  .ofRecord [("param", .ofText s.param), ("default_operator", .ofText s.defaultOperator.code),
    ("unmapped", .ofText s.unmapped.code), ("syntax", s.punctuation.toJson),
    ("fields", s.fields.toJson), ("mandatory", .ofList (s.mandatory.map Predicate.toJson)),
    ("defaults", .ofList (s.defaults.map Predicate.toJson))]

end Settings

namespace Definition

/-- Why a text is no definition. -/
inductive ReadFault
  /-- It is not JSON, or not of the right form. -/
  | json (fault : Json.Fault)
  /-- The settings in it are wrong. -/
  | settings (fault : Settings.Fault)
  deriving DecidableEq, Repr

namespace ReadFault

/-- The fault in words. -/
def detail : ReadFault → String
  | json fault => fault.message
  | settings fault => fault.message

/-- The kind of the fault; wrong settings are a value of the wrong kind. -/
def kind : ReadFault → Json.FaultKind
  | json fault => fault.kind
  | settings _ => .mismatched

/-- The fault as a whole sentence. -/
def message (fault : ReadFault) : String :=
  "invalid search definition: cannot parse JSON: " ++ fault.detail

end ReadFault

/-- Reads a definition from a document. -/
def ofDocument (d : Document) : Except ReadFault Definition := do
  let settings ← (Settings.ofJson Json.nestingLimit d).mapError .json
  settings.check.mapError .settings

/-- Reads a definition from a text. -/
def ofText (text : String) : Except ReadFault Definition :=
  Document.parse .json ofDocument text

/-- The text of a definition, with every setting spelled out. -/
def toText (d : Definition) : String := d.toSettings.toJson.text

end Definition

end FilterQuery
