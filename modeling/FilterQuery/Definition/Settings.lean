import FilterQuery.Clause.Punctuation
import FilterQuery.Fields
import FilterQuery.Predicate

/-!
# Settings

What a server may set for its search: the request parameter, the standard operator, the policy on
unmapped aliases, the punctuation, the searchable fields, and the predicates that are always or by
default part of a search.  Settings may be wrong; a definition is settings that passed the checks.

An `Edit` changes one setting, and edits are made one after the other.
-/

namespace FilterQuery

/-- The settings of a search, checked or not. -/
structure Settings where
  param : String := "q"
  defaultOperator : Operator := .equals
  unmapped : UnmappedPolicy := .warn
  punctuation : Punctuation := {}
  fields : Fields
  mandatory : List Predicate := []
  defaults : List Predicate := []
  deriving DecidableEq

/-- A change of one setting. -/
inductive Edit
  | param (name : String)
  | defaultOperator (op : Operator)
  | unmapped (policy : UnmappedPolicy)
  | punctuation (marks : Punctuation)
  /-- Maps an alias, instead of what it was mapped to. -/
  | field (aliasName field : String)
  /-- Adds a mandatory predicate after the others. -/
  | mandatory (predicate : Predicate)
  /-- Adds a default predicate after the others. -/
  | default (predicate : Predicate)
  deriving DecidableEq, Repr

/-- The change to refusing queries with unmapped aliases. -/
def Edit.strict : Edit := .unmapped .reject

namespace Settings

/-- The settings after one change. -/
def apply (s : Settings) : Edit → Settings
  | .param name => { s with param := name }
  | .defaultOperator op => { s with defaultOperator := op }
  | .unmapped policy => { s with unmapped := policy }
  | .punctuation marks => { s with punctuation := marks }
  | .field aliasName field => { s with fields := s.fields.insert aliasName field }
  | .mandatory predicate => { s with mandatory := s.mandatory ++ [predicate] }
  | .default predicate => { s with defaults := s.defaults ++ [predicate] }

/-- The settings after several changes. -/
def edit (s : Settings) (edits : List Edit) : Settings := edits.foldl apply s

end Settings

end FilterQuery
