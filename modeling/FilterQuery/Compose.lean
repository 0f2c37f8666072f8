import FilterQuery.Log
import FilterQuery.Tree.Basic

/-!
# Composing a search

The client's predicates and the server's meet in one AND:

* of the client's predicates one for each field, the last one, at the place of the first;
* every mandatory predicate, whatever the client asked for;
* the default predicates on fields that the client left alone.
-/

namespace FilterQuery.Compose

/-- The place of the predicate on `field`. -/
def slot? (kept : List Predicate) (field : String) : Option Nat :=
  kept.findIdx? (·.field == field)

/-- With `p` in the place of the predicate on its field, or else at the end. -/
def keep (kept : List Predicate) (p : Predicate) : List Predicate :=
  match slot? kept p.field with
  | some i => kept.set i p
  | none => kept ++ [p]

/-- One predicate for each field: the last one, at the place of the first. -/
def lastPerField (ps : List Predicate) : List Predicate := ps.foldl keep []

example :
    lastPerField [⟨"a", .equals, .scalar "1"⟩, ⟨"b", .equals, .scalar "2"⟩,
        ⟨"a", .lessThan, .scalar "3"⟩] =
      [⟨"a", .lessThan, .scalar "3"⟩, ⟨"b", .equals, .scalar "2"⟩] := by
  decide

/-- A record for each predicate whose field was seen before. -/
def overrides (seen : List String) : List Predicate → List Log.Record
  | [] => []
  | p :: ps =>
    if p.field ∈ seen then .overridden p.field :: overrides seen ps
    else overrides (p.field :: seen) ps

/-- The default predicates on fields without a predicate of the client's. -/
def untouched (effective defaults : List Predicate) : List Predicate :=
  defaults.filter fun d => effective.all (·.field != d.field)

end FilterQuery.Compose

namespace FilterQuery

/-- The search made of the client's predicates, the mandatory ones, and the defaults. -/
def compose (user mandatory defaults : List Predicate) : Logged Tree :=
  let effective := Compose.lastPerField user
  let injected := Compose.untouched effective defaults
  ⟨.all ((effective ++ mandatory ++ injected).map .leaf),
    Compose.overrides [] user
      ++ [.composing effective.length mandatory.length injected.length]⟩

end FilterQuery
