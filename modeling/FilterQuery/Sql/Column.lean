import FilterQuery.Text.Cut

/-!
# Columns

A canonical field is a path such as `author__name` or `author.name`.  Its last segment is a column,
and the segments before it, joined with `__`, name the relation that the column belongs to.  A path
of one segment is the column itself, written as it stands.
-/

namespace FilterQuery.Sql

/-- The segments of a path: cut at `__`, then at `.`, without the empty ones. -/
def segments (path : List Char) : List (List Char) :=
  let between := (Text.splitMark path).filter (!·.isEmpty)
  (between.flatMap (Text.split '.')).filter (!·.isEmpty)

/-- A column, within a relation if there is one. -/
structure Column where
  relation : Option String
  name : String
  deriving DecidableEq, Repr

/-- The column behind a canonical field. -/
def Column.ofPath (path : String) : Column :=
  match (segments path.toList).reverse with
  | last :: first :: rest =>
    ⟨some (String.ofList (Text.join ['_', '_'] (first :: rest).reverse)), String.ofList last⟩
  | _ => ⟨none, path⟩

example : Column.ofPath "a__b.c" = ⟨some "a__b", "c"⟩ := by decide

example : Column.ofPath "a__" = ⟨none, "a__"⟩ := by decide

end FilterQuery.Sql
