import FilterQuery.Sql.Like

/-!
# What a pattern matches

A pattern is read from left to right.  `Matches` says with one rule for each kind of character which
texts it matches.  An escape takes the meaning from the character behind it, so behind an escape
every character stands for itself; a pattern that ends in an escape matches nothing.

`accepts` decides the same.  It does not know where the text that a `%` stands for ends, so it tries
every place.

Nothing here asks an escape to be of use.  `WellEscaped` does: a character behind an escape is one
that would mean something else without it.
-/

namespace FilterQuery.Sql.Pattern

/-- The characters that do not stand for themselves. -/
def Special (c : Char) : Prop := c = '%' ∨ c = '_' ∨ c = likeEscape

instance (c : Char) : Decidable (Special c) := inferInstanceAs (Decidable (_ ∨ _ ∨ _))

/-- The text matches the pattern. -/
inductive Matches : (pattern text : List Char) → Prop
  | nil : Matches [] []
  /-- `%` stands for any text. -/
  | any (skipped : List Char) {rest text : List Char} (h : Matches rest text) :
      Matches ('%' :: rest) (skipped ++ text)
  /-- `_` stands for any character. -/
  | one (c : Char) {rest text : List Char} (h : Matches rest text) :
      Matches ('_' :: rest) (c :: text)
  /-- A character behind an escape stands for itself. -/
  | escaped (c : Char) {rest text : List Char} (h : Matches rest text) :
      Matches (likeEscape :: c :: rest) (c :: text)
  /-- So does any other character without a meaning. -/
  | plain {c : Char} (hc : ¬ Special c) {rest text : List Char} (h : Matches rest text) :
      Matches (c :: rest) (c :: text)

/-- Whether `test` holds of the text without some, or none, of its first characters. -/
def anySuffix (test : List Char → Bool) : List Char → Bool
  | [] => test []
  | c :: text => test (c :: text) || anySuffix test text

/-- Whether the text matches the pattern. -/
def accepts : (pattern text : List Char) → Bool
  | [], text => text.isEmpty
  | '%' :: rest, text => anySuffix (fun suffix => accepts rest suffix) text
  | '_' :: rest, _ :: text => accepts rest text
  | '!' :: c :: rest, d :: text => c == d && accepts rest text
  | ['!'], _ => false
  | c :: rest, d :: text => c == d && accepts rest text
  | _ :: _, [] => false

/-- Every escape in the pattern is followed by a character that it takes a meaning from.  Such a
character may be an `!` too, and is then no escape itself. -/
inductive WellEscaped : List Char → Prop
  | nil : WellEscaped []
  | char {c : Char} (hc : c ≠ likeEscape) {rest : List Char} (h : WellEscaped rest) :
      WellEscaped (c :: rest)
  | escape {c : Char} (hc : Special c) {rest : List Char} (h : WellEscaped rest) :
      WellEscaped (likeEscape :: c :: rest)

end FilterQuery.Sql.Pattern
