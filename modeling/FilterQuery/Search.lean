import FilterQuery.Clause.Basic
import FilterQuery.Clause.Piece
import FilterQuery.Compose
import FilterQuery.Definition.Basic

/-!
# Searching

`Definition.parse` turns a query into a tree.  The pieces are read from left to right, and the first
one that cannot be used is the error: nothing after it is looked at.  A clause on an unmapped alias
is dropped with a record, or is itself the error, as the policy says.
-/

namespace FilterQuery

/-- Why a query is refused. -/
inductive SearchError
  | malformed (piece : Piece) (fault : Clause.Fault)
  | unmapped (aliasName : String)
  deriving DecidableEq, Repr

/-- The error in words. -/
def SearchError.message : SearchError → String
  | .malformed piece fault =>
    "malformed clause `" ++ piece.text ++ "` at " ++ piece.span.display ++ ": " ++ fault.message
  | .unmapped aliasName => "field `" ++ aliasName ++ "` is not searchable"

/-- Reads the clause of a piece. -/
def Piece.read (marks : Punctuation) (standard : Operator) (piece : Piece) :
    Except SearchError Clause :=
  (Clause.read marks standard piece.text).mapError (.malformed piece)

/-- The predicate that a clause makes on a field. -/
def Clause.on (clause : Clause) (field : String) : Predicate := ⟨field, clause.op, clause.value⟩

/-- The field behind an alias, or the error that there is none. -/
def Fields.resolve (fields : Fields) (aliasName : String) : Except SearchError String :=
  match fields.get? aliasName with
  | some field => .ok field
  | none => .error (.unmapped aliasName)

/-- The field behind an alias; without one, what the policy makes of that: nothing with a record,
nothing with a warning, or the error. -/
def UnmappedPolicy.resolve (policy : UnmappedPolicy) (fields : Fields) (aliasName : String) :
    Logged (Except SearchError (Option String)) :=
  match fields.resolve aliasName with
  | .ok field => ⟨.ok (some field), []⟩
  | .error e =>
    match policy with
    | .ignore => ⟨.ok none, [.dropped .debug aliasName]⟩
    | .warn => ⟨.ok none, [.dropped .warn aliasName]⟩
    | .reject => ⟨.error e, []⟩

namespace Definition

/-- The client's predicates: one for each piece whose alias is mapped. -/
def predicates (d : Definition) : List Piece → Logged (Except SearchError (List Predicate))
  | [] => ⟨.ok [], []⟩
  | piece :: rest =>
    match piece.read d.punctuation d.defaultOperator with
    | .error e => ⟨.error e, []⟩
    | .ok clause =>
      match d.unmapped.resolve d.fields clause.aliasName with
      | ⟨.error e, log⟩ => ⟨.error e, log⟩
      | ⟨.ok none, log⟩ => (predicates d rest).after log
      | ⟨.ok (some field), log⟩ =>
        let others := predicates d rest
        ⟨others.result.map (clause.on field :: ·), log ++ others.log⟩

/-- The tree of a query, or why it is refused. -/
def parse (d : Definition) (query : String) : Logged (Except SearchError Tree) :=
  match d.predicates (Piece.all d.punctuation.separator query) with
  | ⟨.error e, log⟩ => ⟨.error e, log⟩
  | ⟨.ok user, log⟩ =>
    let composed := compose user d.mandatory d.defaults
    ⟨.ok composed.result, log ++ composed.log⟩

/-- The query among request parameters: the last value under the definition's name, and nothing if
there is none. -/
def queryOf (d : Definition) (params : List (String × String)) : String :=
  ((params.reverse.find? (·.1 == d.param)).map (·.2)).getD ""

/-- The tree of the query among request parameters. -/
def parseParams (d : Definition) (params : List (String × String)) :
    Logged (Except SearchError Tree) :=
  d.parse (d.queryOf params)

end Definition

end FilterQuery
