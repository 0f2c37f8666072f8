/-!
# Patterns

In a pattern `%` stands for any text and `_` for any character.  A text to be found literally has
these two, and the escape character `!` itself, behind an escape.
-/

namespace FilterQuery.Sql

/-- The character that takes the meaning from the next one. -/
def likeEscape : Char := '!'

/-- The pattern that only the text itself matches. -/
def escapeLike : List Char → List Char
  | [] => []
  | c :: rest =>
    if c = '%' ∨ c = '_' ∨ c = likeEscape then likeEscape :: c :: escapeLike rest
    else c :: escapeLike rest

/-- The pattern of the texts in which `text` occurs. -/
def containing (text : List Char) : List Char := '%' :: escapeLike text ++ ['%']

end FilterQuery.Sql
