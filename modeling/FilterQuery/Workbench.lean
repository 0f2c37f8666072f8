import FilterQuery.Definition.Source
import FilterQuery.Search
import FilterQuery.Sql.Statement
import FilterQuery.Tree.Leaves

/-!
# The workbench

A workbench holds the published definition, snapshots of it under names, and a stack of trees to be
joined into larger ones.  Publishing replaces the definition; a snapshot keeps what was current when
it was taken.  `Workbench.run` carries out one command; one that fails changes nothing.
-/

namespace FilterQuery

/-- The state of a workbench; the last tree pushed comes first. -/
structure Workbench where
  current : Option Definition := none
  snapshots : List (String × Definition) := []
  stack : List Tree := []

namespace Workbench

/-- A command.  Where a command may name a snapshot, none means the published definition. -/
inductive Command
  | publish (source : Definition.Source)
  | republish (snapshot : Option String)
  | edit (snapshot : Option String) (edits : List Edit)
  | load (name : String)
  | describe (snapshot : Option String)
  | same (snapshot : Option String)
  | parse (snapshot : Option String) (query : String)
  | leaf (predicate : Predicate)
  | and
  | or
  | all (count : Nat)
  | any (count : Nat)
  | wrap (times : Nat)
  | dup
  | drop
  | equal
  | leaves (field : Option String)
  | sql (table : String)

/-- Why a command fails. -/
inductive Failure
  | noDefinition
  | noSnapshot
  | stackUnderflow
  | source (fault : Definition.SourceFault)
  | search (error : SearchError)
  deriving DecidableEq, Repr

/-- The failure in words. -/
def Failure.message : Failure → String
  | .noDefinition => "no definition"
  | .noSnapshot => "no such snapshot"
  | .stackUnderflow => "stack underflow"
  | .source fault => fault.message
  | .search error => error.message

/-- What a command answers. -/
inductive Reply
  | published
  | loaded
  | definition (d : Definition)
  | same (yes : Bool)
  /-- The tree that is now on top, and the number of trees. -/
  | pushed (tree : Tree) (depth : Nat)
  | dropped (depth : Nat)
  | equal (yes : Bool)
  /-- Leaves of the tree on top, and the number of its children. -/
  | leaves (predicates : List Predicate) (children : Nat)
  | statement (text : Except Sql.CompileError String)

/-- The definition that a command works on. -/
def definition (w : Workbench) : Option String → Except Failure Definition
  | some name =>
    match w.snapshots.lookup name with
    | some d => .ok d
    | none => .error .noSnapshot
  | none =>
    match w.current with
    | some d => .ok d
    | none => .error .noDefinition

/-- A state with the reply that goes with it. -/
abbrev Outcome : Type := Except Failure (Workbench × Reply)

/-- With this definition for the published one. -/
def publish (w : Workbench) (d : Definition) : Workbench × Reply :=
  ({ w with current := some d }, .published)

/-- With a tree on top of `rest`. -/
def push (w : Workbench) (t : Tree) (rest : List Tree) : Workbench × Reply :=
  ({ w with stack := t :: rest }, .pushed t (rest.length + 1))

/-- With the uppermost `count` trees replaced by one node over them, the lowest first. -/
def gather (w : Workbench) (connective : Connective) (count : Nat) : Outcome :=
  if count ≤ w.stack.length then
    .ok (w.push (.node connective (w.stack.take count).reverse) (w.stack.drop count))
  else .error .stackUnderflow

/-- The tree on top and those below it. -/
def top (w : Workbench) : Except Failure (Tree × List Tree) :=
  match w.stack with
  | t :: rest => .ok (t, rest)
  | [] => .error .stackUnderflow

/-- The two trees on top, the upper one first, and those below them. -/
def topTwo (w : Workbench) : Except Failure (Tree × Tree × List Tree) :=
  match w.stack with
  | u :: t :: rest => .ok (u, t, rest)
  | _ => .error .stackUnderflow

/-- What a command does, if it leaves no records. -/
def outcome (w : Workbench) : Command → Outcome
  | .publish source => do return w.publish (← source.definition.mapError .source)
  | .republish snapshot => do return w.publish (← w.definition snapshot)
  | .edit snapshot edits => do
    let d ← w.definition snapshot
    return w.publish (← (d.edit edits).mapError fun fault => .source (.settings fault))
  | .load name => do
    let d ← w.definition none
    return ({ w with snapshots := (name, d) :: w.snapshots }, .loaded)
  | .describe snapshot => do return (w, .definition (← w.definition snapshot))
  | .same snapshot => do
    let d ← w.definition snapshot
    let current ← w.definition none
    return (w, .same (d = current))
  | .parse snapshot query => do
    let d ← w.definition snapshot
    return w.push (← (d.parse query).result.mapError .search) w.stack
  | .leaf predicate => return w.push (.leaf predicate) w.stack
  | .and => do let (u, t, rest) ← w.topTwo; return w.push (t.and u) rest
  | .or => do let (u, t, rest) ← w.topTwo; return w.push (t.or u) rest
  | .all count => w.gather .and count
  | .any count => w.gather .or count
  | .wrap times => do let (t, rest) ← w.top; return w.push (Tree.wrap times .and t) rest
  | .dup => do let (t, rest) ← w.top; return w.push t (t :: rest)
  | .drop => do let (_, rest) ← w.top; return ({ w with stack := rest }, .dropped rest.length)
  | .equal => do let (u, t, _) ← w.topTwo; return (w, .equal (t = u))
  | .leaves field => do
    let (t, _) ← w.top
    let predicates := match field with | some field => t.leavesOn field | none => t.leaves
    return (w, .leaves predicates t.children.length)
  | .sql table => do let (t, _) ← w.top; return (w, .statement (Sql.select table t))

/-- The records that a command leaves: those of the query it parses. -/
def records (w : Workbench) : Command → List Log.Record
  | .parse snapshot query =>
    match w.definition snapshot with
    | .ok d => (d.parse query).log
    | .error _ => []
  | _ => []

/-- Carries out a command: the new state, and the reply or the failure, with the records. -/
def run (w : Workbench) (command : Command) : Workbench × Logged (Except Failure Reply) :=
  match w.outcome command with
  | .ok (w', reply) => (w', ⟨.ok reply, w.records command⟩)
  | .error failure => (w, ⟨.error failure, w.records command⟩)

end Workbench

end FilterQuery
