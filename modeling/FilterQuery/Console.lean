import FilterQuery.Definition.File
import FilterQuery.Search
import FilterQuery.Sql.Statement

/-!
# The console

The console shows what a definition makes of queries, one line at a time.  Each line is trimmed and
answered on its own: `:quit` or `:q` ends the session, `:fields` lists the aliases, and any other
line is a query, answered with its tree and its statement or with the reason for refusing it.

`turn` is what the console does with one thing handed over to it, and `session` what it does with
all of them.
-/

namespace FilterQuery.Console

/-- The file of the definition where the arguments name none. -/
def standardPath : String := "search_definition.json"

/-- The path of the definition: the first argument. -/
def pathOf (args : List String) : String := args.head?.getD standardPath

/-- The table that statements select from: the second argument. -/
def tableOf (args : List String) : String := args[1]?.getD "items"

/-- The definition in a file, or the demonstration one if there is none to be had. -/
def definitionOf (path : String) (content : Except Definition.FileFault ByteArray) : Definition :=
  match (Definition.load path content).result with
  | .ok d => d
  | .error _ => .demo

/-- A line for each alias, in increasing order. -/
def fieldLines (d : Definition) : List String :=
  d.fields.entries.map fun (aliasName, field) => "  " ++ aliasName ++ " -> " ++ field

/-- The lines before the first answer. -/
def header (d : Definition) : List String :=
  ["--- search_query: query string to predicate tree ---",
    "param `" ++ d.param ++ "`, default operator " ++ d.defaultOperator.name
      ++ ", unmapped fields: " ++ d.unmapped.name]
    ++ fieldLines d
    ++ ["type a query such as `name__co__Py+age__lt__18`, `:fields`, or `:quit`"]

/-- The lines that answer a query. -/
def queryLines (d : Definition) (table query : String) : List String :=
  match (d.parse query).result with
  | .error e => ["rejected: " ++ e.message]
  | .ok tree =>
    ["tree: " ++ tree.display,
      match Sql.select table tree with
      | .ok statement => "sql:  " ++ statement
      | .error e => "compile failed: " ++ e.message]

/-- A line as the console looks at it, without the blanks around it. -/
def command (line : String) : String := String.ofList (Text.trim line.toList)

/-- The command ends the session. -/
def Quits (command : String) : Prop := command = ":quit" ∨ command = ":q"

instance (command : String) : Decidable (Quits command) := inferInstanceAs (Decidable (_ ∨ _))

/-- The lines that answer a command that does not end the session. -/
def block (d : Definition) (table command : String) : List String :=
  if command = ":fields" then fieldLines d else queryLines d table command

/-- What a line editor hands over when it is asked for a line. -/
inductive Prompted
  /-- A line, which was also put on record. -/
  | line (text : String)
  /-- The end of the input, or an interruption. -/
  | ended
  /-- Nothing, as the editor cannot be started, or a line not be read or not be put on record. -/
  | failed
  deriving DecidableEq, Repr

/-- What becomes of a session when something is handed over. -/
inductive Turn
  /-- It goes on after these lines. -/
  | answered (lines : List String)
  /-- It ends with this exit code. -/
  | over (exitCode : Nat)
  deriving DecidableEq, Repr

/-- Answers a line, or ends the session. -/
def turn (d : Definition) (table : String) : Prompted → Turn
  | .ended => .over 0
  | .failed => .over 1
  | .line text =>
    if Quits (command text) then .over 0 else .answered (block d table (command text))

/-- What a run leaves behind. -/
structure Outcome where
  /-- Everything printed, each with a line feed after it. -/
  lines : List String
  exitCode : Nat
  deriving DecidableEq, Repr

/-- The same outcome after earlier lines. -/
def Outcome.after (earlier : List String) (o : Outcome) : Outcome :=
  { o with lines := earlier ++ o.lines }

/-- Takes turns with what is handed over, until the session is over. -/
def converse (d : Definition) (table : String) : List Prompted → Outcome
  | [] => ⟨[], 0⟩
  | prompted :: rest =>
    match turn d table prompted with
    | .answered lines => (converse d table rest).after lines
    | .over exitCode => ⟨[], exitCode⟩

/-- A whole run of the console with these arguments; `read` gives the content of a file. -/
def session (read : String → Except Definition.FileFault ByteArray) (args : List String)
    (prompts : List Prompted) : Outcome :=
  let path := pathOf args
  let d := definitionOf path (read path)
  (converse d (tableOf args) prompts).after (header d)

/-- Without a carriage return at the end. -/
def withoutReturn (line : List Char) : List Char :=
  if line.getLast? = some '\r' then line.dropLast else line

/-- The lines of an input.  Each ends with a line feed, or a carriage return and a line feed; what
follows the last line feed is a line too, unless there is nothing. -/
def linesOf (input : String) : List String :=
  let lines := Text.split '\n' input.toList
  let last := lines.getLast?.getD []
  ((lines.dropLast.map withoutReturn) ++ if last.isEmpty then [] else [last]).map String.ofList

/-- What is handed over when the input comes through a pipe. -/
def piped (input : String) : List Prompted := (linesOf input).map .line ++ [.ended]

/-- A whole run with these arguments when the input comes through a pipe. -/
def run (read : String → Except Definition.FileFault ByteArray) (args : List String)
    (input : String) : Outcome :=
  session read args (piped input)

/-- All that was printed, as one text. -/
def textOf (o : Outcome) : String := String.join (o.lines.map (· ++ "\n"))

end FilterQuery.Console
