import FilterQuery.Definition.Fault

/-!
# Definitions

A definition is settings in which no fault was found, so whoever holds one need not check again.
The only ways to one are `Settings.check` and editing another with a check at the end.
-/

namespace FilterQuery

/-- Settings that passed the checks. -/
structure Definition extends Settings where
  valid : toSettings.fault? = none

namespace Definition

theorem toSettings_inj {d e : Definition} : d.toSettings = e.toSettings ↔ d = e :=
  ⟨fun h => by cases d; cases e; cases h; rfl, congrArg _⟩

instance : DecidableEq Definition := fun _ _ => decidable_of_iff _ toSettings_inj

end Definition

/-- The definition with these settings, or their first fault. -/
def Settings.check (s : Settings) : Except Settings.Fault Definition :=
  match h : s.fault? with
  | none => .ok { s with valid := h }
  | some fault => .error fault

namespace Definition

/-- The definition after several changes, checked once at the end. -/
def edit (d : Definition) (edits : List Edit) : Except Settings.Fault Definition :=
  (d.toSettings.edit edits).check

/-- A small definition for trying out queries. -/
def demo : Definition where
  fields := .ofList [("name", "name"), ("author", "author__name"), ("age", "author__age"),
    ("lang", "language__code"), ("created", "createDate")]
  mandatory := [⟨"status", .isIn, .list ["published", "in_progress"]⟩]
  defaults := [⟨"createDate", .range, .list ["now-7d", "now"]⟩]
  valid := by decide

end Definition

end FilterQuery
