import FilterQuery.Definition.Settings
import FilterQuery.Text.Cut

/-!
# What can be wrong with settings

`Settings.fault?` finds the first fault, in the order: punctuation, parameter, standard operator,
aliases in increasing order, mandatory predicates, default predicates.  Settings without a fault are
safe to search with: every alias can be told from the separators around it, and every predicate of
the server's has a value of the right shape.
-/

namespace FilterQuery

/-- The two sets of predicates that a server adds to a search. -/
inductive PredicateSet
  | mandatory
  | default
  deriving DecidableEq, Repr

/-- The name of the set. -/
def PredicateSet.name : PredicateSet → String
  | .mandatory => "mandatory"
  | .default => "default"

namespace Settings

/-- Why settings cannot be used. -/
inductive Fault
  | separatorCollides (separator : Char)
  | marksCoincide
  | emptyParam
  | rangeByDefault
  | emptyMapping (aliasName field : String)
  | reservedAlias (aliasName : String)
  | emptyField (set : PredicateSet)
  | wrongShape (set : PredicateSet) (predicate : Predicate)
  deriving DecidableEq, Repr

/-- The fault in words. -/
def Fault.detail : Fault → String
  | .separatorCollides separator =>
    "clause separator `" ++ separator.toString ++ "` collides with the clause grammar"
  | .marksCoincide => "list brackets and delimiter must all differ"
  | .emptyParam => "request parameter name is empty"
  | .rangeByDefault => "`range` cannot be the default operator"
  | .emptyMapping aliasName field =>
    "empty alias or field path in mapping `" ++ aliasName ++ "` -> `" ++ field ++ "`"
  | .reservedAlias aliasName => "alias `" ++ aliasName ++ "` contains a reserved separator"
  | .emptyField set => set.name ++ " predicate has an empty field"
  | .wrongShape set predicate =>
    set.name ++ " predicate " ++ predicate.display ++ " has the wrong value shape"

/-- The fault as a whole sentence. -/
def Fault.message (fault : Fault) : String := "invalid search definition: " ++ fault.detail

/-- The separator is none of the other marks, and the list marks differ from each other. -/
def punctuationFault? (marks : Punctuation) : Option Fault :=
  if marks.separator ∈ [':', '_', marks.listOpen, marks.listClose, marks.delimiter] then
    some (.separatorCollides marks.separator)
  else if marks.listOpen = marks.listClose ∨ marks.delimiter = marks.listOpen
      ∨ marks.delimiter = marks.listClose then
    some .marksCoincide
  else none

/-- An alias that a clause would cut apart: it holds a separator, or its last `_` would join a
following `__`. -/
def isReserved (separator : Char) (aliasName : List Char) : Bool :=
  aliasName.contains ':' || (Text.cutMark? aliasName).isSome || aliasName.getLast? == some '_'
    || aliasName.contains separator

/-- An entry has an alias and a field, and the alias can stand in a clause. -/
def entryFault? (separator : Char) (entry : String × String) : Option Fault :=
  if entry.1 = "" ∨ entry.2 = "" then some (.emptyMapping entry.1 entry.2)
  else if isReserved separator entry.1.toList then some (.reservedAlias entry.1)
  else none

/-- A predicate has a field, and a value of the right shape. -/
def predicateFault? (set : PredicateSet) (p : Predicate) : Option Fault :=
  if p.field = "" then some (.emptyField set)
  else if p.WellShaped then none
  else some (.wrongShape set p)

/-- The first fault, with the entries of the map gone through in the order given. -/
def faultIn (s : Settings) (entries : List (String × String)) : Option Fault :=
  (punctuationFault? s.punctuation)
    <|> (if s.param = "" then some .emptyParam else none)
    <|> (if s.defaultOperator = .range then some .rangeByDefault else none)
    <|> entries.findSome? (entryFault? s.punctuation.separator)
    <|> s.mandatory.findSome? (predicateFault? .mandatory)
    <|> s.defaults.findSome? (predicateFault? .default)

/-- The first fault. -/
def fault? (s : Settings) : Option Fault := s.faultIn s.fields.entries

end Settings

end FilterQuery
