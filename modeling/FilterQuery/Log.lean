/-!
# The log

Operations that decide something silently leave a record of it: a dropped clause, an overridden one,
the make-up of a tree, a loaded file.  `Logged` carries the records beside the result, also beside a
result that is an error.
-/

namespace FilterQuery

namespace Log

/-- How much a record matters. -/
inductive Level
  | debug
  | warn
  deriving DecidableEq, Repr

/-- The name of the level. -/
def Level.name : Level → String
  | .debug => "DEBUG"
  | .warn => "WARN"

/-- One event worth noting. -/
inductive Record
  /-- A clause was dropped, since its alias is not mapped. -/
  | dropped (level : Level) (aliasName : String)
  /-- A clause took the place of an earlier one on the same field. -/
  | overridden (field : String)
  /-- A tree was put together from so many predicates of each kind. -/
  | composing (user mandatory defaults : Nat)
  /-- A definition with so many fields was read from a file. -/
  | loaded (path : String) (fields : Nat)
  deriving DecidableEq, Repr

/-- How much the record matters: only a dropped clause may be a warning. -/
def Record.level : Record → Level
  | .dropped level _ => level
  | .overridden _ | .composing .. | .loaded .. => .debug

/-- The record in words. -/
def Record.message : Record → String
  | .dropped _ aliasName => "dropping clause on unsearchable field `" ++ aliasName ++ "`"
  | .overridden field => "clause on `" ++ field ++ "` overrides an earlier one"
  | .composing user mandatory defaults =>
    "composing " ++ toString user ++ " user, " ++ toString mandatory ++ " mandatory, "
      ++ toString defaults ++ " default predicates"
  | .loaded path fields =>
    "loaded search definition from " ++ path ++ " (" ++ toString fields ++ " fields)"

end Log

/-- A result with the records made on the way to it, in order. -/
structure Logged (α : Type) where
  result : α
  log : List Log.Record

/-- The same result after earlier records. -/
def Logged.after {α : Type} (earlier : List Log.Record) (x : Logged α) : Logged α :=
  { x with log := earlier ++ x.log }

end FilterQuery
