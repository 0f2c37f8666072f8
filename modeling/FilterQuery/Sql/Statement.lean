import FilterQuery.Sql.Compile

/-!
# The text of a statement

A name stands in double quotes with every double quote in it doubled.  A literal stands in single
quotes; if it needs a backslash to be written, an `E` in front says so.

Joins are written without parentheses where reading from the left gives them back: the left side
needs them if it joins by the other word, the right side if it joins at all, and BETWEEN, whose own
AND could be mistaken, needs them on either side.
-/

namespace FilterQuery.Sql

/-- The written form of one character of a name. -/
def nameChar (c : Char) : List Char := if c = '"' then ['"', '"'] else [c]

/-- A name in double quotes. -/
def quotedName (name : List Char) : List Char := '"' :: name.flatMap nameChar ++ ['"']

/-- The written form of one character of a literal. -/
def literalChar (c : Char) : List Char :=
  match c with
  | '\\' => ['\\', '\\']
  | '"' => ['\\', '"']
  | '\'' => ['\\', '\'']
  | '\x00' => ['\\', '0']
  | '\x08' => ['\\', 'b']
  | '\t' => ['\\', 't']
  | '\x1a' => ['\\', 'z']
  | '\n' => ['\\', 'n']
  | '\r' => ['\\', 'r']
  | _ => [c]

/-- A literal in single quotes. -/
def quotedLiteral (text : List Char) : List Char :=
  let body := text.flatMap literalChar
  let quoted := '\'' :: body ++ ['\'']
  if '\\' ∈ body then 'E' :: quoted else quoted

/-- A column, behind its relation and a point if it has one. -/
def columnText (column : Column) : List Char :=
  match column.relation with
  | some relation => quotedName relation.toList ++ '.' :: quotedName column.name.toList
  | none => quotedName column.name.toList

/-- Literals with commas between them. -/
def literalsText (literals : List String) : List Char :=
  Text.listed (literals.map fun text => quotedLiteral text.toList)

/-- Whether a condition needs parentheses on the left of a join. -/
def Condition.guardedLeft (connective : Connective) : Condition → Bool
  | .between .. => true
  | .join inner _ _ => inner != connective
  | .constant _ | .compare .. | .like .. | .isIn .. | .notIn .. => false

/-- Whether a condition needs parentheses on the right of a join. -/
def Condition.guardedRight : Condition → Bool
  | .between .. | .join .. => true
  | .constant _ | .compare .. | .like .. | .isIn .. | .notIn .. => false

/-- A text, in parentheses if it needs them. -/
def guarded (needed : Bool) (text : List Char) : List Char :=
  if needed then '(' :: text ++ [')'] else text

/-- The text of a condition. -/
def Condition.chars : Condition → List Char
  | .constant true => "TRUE".toList
  | .constant false => "FALSE".toList
  | .compare column comparison literal =>
    columnText column ++ ' ' :: comparison.sign.toList ++ ' ' :: quotedLiteral literal.toList
  | .like column pattern =>
    columnText column ++ " LIKE ".toList ++ quotedLiteral pattern.toList
      ++ " ESCAPE ".toList ++ quotedLiteral [likeEscape]
  | .isIn column literals => columnText column ++ " IN (".toList ++ literalsText literals ++ [')']
  | .notIn column literals =>
    columnText column ++ " NOT IN (".toList ++ literalsText literals ++ [')']
  | .between column lower upper =>
    columnText column ++ " BETWEEN ".toList ++ quotedLiteral lower.toList
      ++ " AND ".toList ++ quotedLiteral upper.toList
  | .join connective left right =>
    guarded (left.guardedLeft connective) left.chars
      ++ ' ' :: connective.name.toList ++ ' ' :: guarded right.guardedRight right.chars

/-- The statement that selects the rows of a table under a condition. -/
def selectText (table : String) (condition : Condition) : String :=
  String.ofList ("SELECT * FROM ".toList ++ quotedName table.toList ++ " WHERE ".toList
    ++ condition.chars)

/-- The statement that selects the rows of a table that a tree describes. -/
def select (table : String) (tree : Tree) : Except CompileError String :=
  (compile tree).map (selectText table)

example :
    (select "items" (.all [.leaf ⟨"author__name", .contains, .scalar "50%'"⟩, .any []])).toOption =
      some ("SELECT * FROM \"items\" WHERE \"author\".\"name\" LIKE E'%50!%\\'%' ESCAPE '!' "
        ++ "AND FALSE") := by
  decide

end FilterQuery.Sql
