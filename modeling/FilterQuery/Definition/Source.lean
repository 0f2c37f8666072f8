import FilterQuery.Definition.Json

/-!
# Where definitions come from

A definition is read from a JSON text, put together from a map of fields and a list of changes, or
is the demonstration one.  Every way ends with the same check.
-/

namespace FilterQuery.Definition

/-- A way to a definition. -/
inductive Source
  | json (text : String)
  | demo
  | settings (fields : List (String × String)) (edits : List Edit)
  deriving DecidableEq, Repr

/-- Why a way leads to no definition. -/
inductive SourceFault
  | json (fault : ReadFault)
  | settings (fault : Settings.Fault)
  deriving DecidableEq, Repr

/-- The fault as a whole sentence. -/
def SourceFault.message : SourceFault → String
  | .json fault => fault.message
  | .settings fault => fault.message

/-- The definition at the end of the way. -/
def Source.definition : Source → Except SourceFault Definition
  | .json text => (ofText text).mapError .json
  | .demo => .ok Definition.demo
  | .settings fields edits =>
    (({ fields := .ofList fields : Settings }.edit edits).check).mapError .settings

end FilterQuery.Definition
