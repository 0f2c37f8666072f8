/-!
# Searchable fields

Clients name fields by alias; `Fields` maps each alias to the canonical field of the backing store.
The entries are kept in increasing order of their aliases, one for each, so two maps with the same
entries are equal and a listing needs no sorting.

`UnmappedPolicy` says what becomes of a clause on an alias that is not in the map.
-/

namespace FilterQuery

namespace Fields

/-- The aliases increase from entry to entry, so none occurs twice. -/
def Sorted (entries : List (String × String)) : Prop := entries.Pairwise (·.1 < ·.1)

/-- Puts an entry in its place, instead of an earlier one with the same alias. -/
def insertEntry (aliasName field : String) : List (String × String) → List (String × String)
  | [] => [(aliasName, field)]
  | (a, f) :: rest =>
    if aliasName < a then (aliasName, field) :: (a, f) :: rest
    else if aliasName = a then (aliasName, field) :: rest
    else (a, f) :: insertEntry aliasName field rest

theorem mem_insertEntry {aliasName field : String} {entries : List (String × String)}
    {e : String × String} (h : e ∈ insertEntry aliasName field entries) :
    e = (aliasName, field) ∨ e ∈ entries := by
  induction entries with
  | nil => simpa [insertEntry] using h
  | cons entry rest ih =>
    obtain ⟨a, f⟩ := entry
    unfold insertEntry at h
    split at h
    · simpa using h
    · split at h
      · rcases List.mem_cons.1 h with h | h
        · exact .inl h
        · exact .inr (List.mem_cons_of_mem _ h)
      · rcases List.mem_cons.1 h with h | h
        · exact .inr (h ▸ List.mem_cons_self)
        · exact (ih h).imp id (List.mem_cons_of_mem _)

theorem Sorted.insertEntry {entries : List (String × String)} (h : Sorted entries)
    (aliasName field : String) : Sorted (insertEntry aliasName field entries) := by
  induction entries with
  | nil => simp [Sorted, Fields.insertEntry]
  | cons entry rest ih =>
    obtain ⟨a, f⟩ := entry
    have ⟨hhead, hrest⟩ := List.pairwise_cons.1 h
    unfold Fields.insertEntry
    split
    · next hlt =>
      refine List.pairwise_cons.2 ⟨fun e he => ?_, h⟩
      rcases List.mem_cons.1 he with rfl | he
      · exact hlt
      · exact String.lt_trans hlt (hhead e he)
    · next hnlt =>
      split
      · next heq => exact List.pairwise_cons.2 ⟨fun e he => heq ▸ hhead e he, hrest⟩
      · next hne =>
        refine List.pairwise_cons.2 ⟨fun e he => ?_, ih hrest⟩
        rcases mem_insertEntry he with rfl | he
        · have hle : a ≤ aliasName := String.not_lt.1 hnlt
          exact Decidable.byContradiction fun hn =>
            hne (String.le_antisymm (String.not_lt.1 hn) hle)
        · exact hhead e he

end Fields

/-- A map from aliases to canonical fields. -/
structure Fields where
  entries : List (String × String)
  sorted : Fields.Sorted entries
  deriving DecidableEq

namespace Fields

/-- No alias at all. -/
def empty : Fields := ⟨[], .nil⟩

/-- With `aliasName` standing for `field`, whatever it stood for before. -/
def insert (fields : Fields) (aliasName field : String) : Fields :=
  ⟨insertEntry aliasName field fields.entries, fields.sorted.insertEntry aliasName field⟩

/-- The map of these pairs; of two with the same alias the later one counts. -/
def ofList (pairs : List (String × String)) : Fields :=
  pairs.foldl (fun fields pair => fields.insert pair.1 pair.2) empty

/-- The canonical field behind an alias. -/
def get? (fields : Fields) (aliasName : String) : Option String := fields.entries.lookup aliasName

/-- The number of aliases. -/
def size (fields : Fields) : Nat := fields.entries.length

/-- Whether there is no alias. -/
def isEmpty (fields : Fields) : Bool := fields.entries.isEmpty

end Fields

/-- What becomes of a clause whose alias is not mapped. -/
inductive UnmappedPolicy
  /-- The clause is dropped. -/
  | ignore
  /-- The clause is dropped with a warning. -/
  | warn
  /-- The whole query is refused. -/
  | reject
  deriving DecidableEq, Repr

namespace UnmappedPolicy

/-- All policies, in the order in which messages list them. -/
def all : List UnmappedPolicy := [ignore, warn, reject]

/-- The name in a definition file. -/
def code : UnmappedPolicy → String
  | ignore => "ignore"
  | warn => "warn"
  | reject => "reject"

/-- The name on the console. -/
def name : UnmappedPolicy → String
  | ignore => "Ignore"
  | warn => "Warn"
  | reject => "Reject"

/-- The policy with this code. -/
def ofCode? (code : String) : Option UnmappedPolicy := all.find? (·.code == code)

end UnmappedPolicy

end FilterQuery
