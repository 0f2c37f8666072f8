import FilterQuery.Json.Document

/-!
# Taking documents apart

A decoder reads a document from left to right and stops at the first fault, its own or the text's,
whichever stands first.  A fault of the text reads differently to a decoder that wants the value and
to one that skips it, so there are two readings of each: `skipFault?` passes over a value of any
depth, `contentFault?` looks at all of it.

Lists and objects may be nested 127 deep.  `room` counts how many more may be opened; only skipped
values are free of the limit.
-/

namespace FilterQuery.Json

/-- How many lists and objects may be open at once. -/
def nestingLimit : Nat := 127

namespace Break

/-- The fault at a break. -/
def fault : Break → Fault
  | value true | word true | number true => .ends .value
  | value false => .noValue
  | word false => .noWord
  | number false => .badNumber
  | colon true => .ends .object
  | colon false => .noColon

/-- The fault at a break for a reader that skips: an unfinished number is always a bad one. -/
def skipFault : Break → Fault
  | number _ => .badNumber
  | cause => cause.fault

end Break

namespace Closing

/-- The fault at the end of a list. -/
def listFault? : Closing → Option Fault
  | closed => none
  | textEnds | inside => some (.ends .list)
  | stray => some .noListMark
  | afterComma => some .trailingComma
  | endsAfterComma => some (.ends .value)

/-- The fault at the end of an object. -/
def objectFault? : Closing → Option Fault
  | closed => none
  | textEnds | inside => some (.ends .object)
  | stray => some .noObjectMark
  | afterComma => some .trailingComma
  | endsAfterComma => some (.ends .value)

/-- The fault at the end of a list that is skipped. -/
def skippedListFault? : Closing → Option Fault
  | afterComma => some .noValue
  | closing => closing.listFault?

/-- The fault at the end of an object that is skipped. -/
def skippedObjectFault? : Closing → Option Fault
  | afterComma => some .noStringKey
  | endsAfterComma => some (.ends .object)
  | closing => closing.objectFault?

/-- The fault at the end of a list of which no more items are wanted; `more` if there are some. -/
def recordFault? (more : Bool) : Closing → Option Fault
  | closing =>
    if more then some .trailingCharacters
    else match closing with
      | stray => some .trailingCharacters
      | _ => closing.listFault?

end Closing

namespace Document

mutual

/-- The first fault of a value that nobody wants. -/
def skipFault? : Document → Option Fault
  | null | bool _ | number _ => none
  | string literal => literal.skipped
  | array items closing => skipItems? items <|> closing.skippedListFault?
  | object members closing => skipMembers? members <|> closing.skippedObjectFault?
  | broken cause => some cause.skipFault

/-- The first fault of items that nobody wants. -/
def skipItems? : List Document → Option Fault
  | [] => none
  | item :: rest => skipFault? item <|> skipItems? rest

/-- The first fault of members that nobody wants. -/
def skipMembers? : List (Document × Document) → Option Fault
  | [] => none
  | (key, value) :: rest => skipKey? key <|> skipFault? value <|> skipMembers? rest

/-- The fault of a key that nobody wants. -/
def skipKey? : Document → Option Fault
  | string literal => literal.skipped
  | _ => some .noStringKey

end

/-- The fault of a result, if it is one. -/
def faultOf {α : Type} : Except Fault α → Option Fault
  | .ok _ => none
  | .error fault => some fault

/-- The text of a key. -/
def key : Document → Except Fault String
  | string literal => literal.text
  | _ => .error .noStringKey

mutual

/-- The first fault of a value that is read as a whole, whatever it is. -/
def contentFault? (room : Nat) : Document → Option Fault
  | null | bool _ => none
  | number numeral => if numeral.number?.isNone then some .numberTooLarge else none
  | string literal => faultOf literal.text
  | array items closing =>
    match room with
    | 0 => some .tooDeep
    | room + 1 => contentItems? room items <|> closing.listFault?
  | object members closing =>
    match room with
    | 0 => some .tooDeep
    | room + 1 => contentMembers? room members <|> closing.objectFault?
  | broken cause => some cause.fault

/-- The first fault of items that are read as a whole. -/
def contentItems? (room : Nat) : List Document → Option Fault
  | [] => none
  | item :: rest => contentFault? room item <|> contentItems? room rest

/-- The first fault of members that are read as a whole. -/
def contentMembers? (room : Nat) : List (Document × Document) → Option Fault
  | [] => none
  | (key, value) :: rest =>
    faultOf key.key <|> contentFault? room value <|> contentMembers? room rest

end

/-- The fault of a document that is not what is expected: that it breaks off, or what it is. -/
def unexpected (expected : Expected) : Document → Fault
  | null => .wrongType .null expected
  | bool value => .wrongType (.bool value) expected
  | number numeral =>
    match numeral.number? with
    | some value => .wrongType (.number value) expected
    | none => .numberTooLarge
  | string literal =>
    match literal.text with
    | .ok text => .wrongType (.text text) expected
    | .error fault => fault
  | array _ _ => .wrongType .sequence expected
  | object _ _ => .wrongType .map expected
  | broken cause => cause.fault

/-- A string. -/
def asText : Document → Except Fault String
  | string literal => literal.text
  | other => .error (other.unexpected .text)

/-- A string of one character. -/
def asChar : Document → Except Fault Char
  | string literal => do
    let text ← literal.text
    match text.toList with
    | [c] => .ok c
    | _ => .error (.wrongText text .character)
  | other => .error (other.unexpected .character)

/-- Room for what stands inside a list or an object. -/
def enter : (room : Nat) → Except Fault Nat
  | 0 => .error .tooDeep
  | room + 1 => .ok room

/-- The end of a list or an object, where its fault is met if it has one. -/
def finish {α : Type} (fault? : Option Fault) (result : α) : Except Fault α :=
  match fault? with
  | none => .ok result
  | some fault => .error fault

/-- A list of things that `item` decodes. -/
def asList {α : Type} (room : Nat) (item : Nat → Document → Except Fault α) :
    Document → Except Fault (List α)
  | array items closing => do
    let room ← enter room
    let values ← items.mapM (item room)
    finish closing.listFault? values
  | other => .error (other.unexpected .sequence)

/-- One of the things that `ofCode?` knows by their codes: the code, or an object with the code as
its only key and `null` as its value. -/
def asCode {α : Type} (room : Nat) (known : List String) (ofCode? : String → Option α) :
    Document → Except Fault α
  | string literal => do named (← literal.text)
  | object members closing => do
    let _ ← enter room
    match members, closing with
    | [], .textEnds => .error (.ends .object)
    | [], _ => .error .noValue
    | (key, value) :: rest, _ =>
      let result ← named (← key.key)
      match value with
      | null =>
        match rest, closing with
        | [], .closed => .ok result
        | [], .textEnds => .error (.ends .object)
        | _, _ => .error .noValue
      | other => .error (other.unexpected .null)
  | broken (.value true) => .error (.ends .value)
  | broken (.colon atEnd) => .error (Break.colon atEnd).fault
  | _ => .error .noValue
where
  /-- The thing with this code. -/
  named (code : String) : Except Fault α :=
    match ofCode? code with
    | some result => .ok result
    | none => .error (.unknownVariant code known)

/-- The members of an object, met one after the other; `member` takes in a key with its value. -/
def foldMembers {σ : Type} (member : σ → String → Document → Except Fault σ) (start : σ)
    (members : List (Document × Document)) (closing : Closing) : Except Fault σ := do
  let result ← members.foldlM (fun state (key, value) => do member state (← key.key) value) start
  finish closing.objectFault? result

/-- The next item of a list, if there is one, and those after it. -/
def nextItem (items : List Document) (closing : Closing) :
    Except Fault (Option Document × List Document) :=
  match items with
  | item :: rest => .ok (some item, rest)
  | [] => finish closing.listFault? (none, [])

/-- A value for a field of a record that has none yet. -/
def once {α : Type} (name : String) (old : Option α) (value : Except Fault α) :
    Except Fault (Option α) :=
  match old with
  | some _ => .error (.duplicateField name)
  | none => value.map some

/-- A field that must be there. -/
def required {α : Type} (name : String) : Option α → Except Fault α
  | some value => .ok value
  | none => .error (.missingField name)

/-- Passes over a value. -/
def ignore {α : Type} (state : α) (value : Document) : Except Fault α :=
  finish value.skipFault? state

/-- Reads a whole text with a decoder, whose own faults come first: after the document only blanks
may follow. -/
def parse {ε α : Type} (ofFault : Fault → ε) (decoder : Document → Except ε α) (text : String) :
    Except ε α := do
  let (document, rest) := read text.toList
  let result ← decoder document
  match rest with
  | some ⟨after, _⟩ =>
    if (skipSpace after).isEmpty then .ok result else .error (ofFault .trailingCharacters)
  | none => .ok result

end Document

end FilterQuery.Json
