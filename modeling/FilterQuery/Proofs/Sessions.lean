import FilterQuery.Console
import FilterQuery.Proofs.Obtainable

/-!
# What a session prints

The console takes in lines one after the other, and no line has an influence on what another one is
answered.  So a session prints a header and then, for each line up to the one that ends it, a block
that is known from the trimmed line alone: `converse_lines`, by induction over the lines.

* `commands` are the trimmed lines of an input that are answered, and `block` is the answer to one
  of them.  By `queryLines_cases` a query is refused, or answered with its tree and its statement: a
  definition is sound wherever it comes from, and so is the demonstration one that stands in for a
  file that does not load.
* `load_eq_ok`: which files load.
* `commands_append`: two inputs in a row are answered in a row.
-/

namespace FilterQuery.Console

/-- The commands of an input up to the one that ends the session. -/
def commands (input : String) : List String :=
  ((linesOf input).map command).takeWhile (¬ Quits ·)

variable {d : Definition} {table : String}

/-! ### One line -/

/-- **A query is refused, or its tree has a statement.** -/
theorem queryLines_cases (d : Definition) (table query : String) :
    (∃ e, (d.parse query).result = .error e ∧
      queryLines d table query = ["rejected: " ++ e.message]) ∨
    ∃ t statement, (d.parse query).result = .ok t ∧ Sql.select table t = .ok statement ∧
      queryLines d table query = ["tree: " ++ t.display, "sql:  " ++ statement] := by
  rw [queryLines]
  cases hparse : (d.parse query).result with
  | error e => exact .inl ⟨e, rfl, rfl⟩
  | ok t =>
    have hleaves : ∀ p ∈ t.leaves, p.WellShaped :=
      fun p hp => (Definition.fit_of_mem_leaves hparse p hp).2
    obtain ⟨statement, hselect⟩ := Sql.exists_select.mpr hleaves
    refine .inr ⟨t, statement, rfl, hselect, ?_⟩
    simp only [hselect]

/-! ### All lines -/

theorem converse_line (d : Definition) (table text : String) (rest : List Prompted) :
    converse d table (.line text :: rest) =
      if Quits (command text) then ⟨[], 0⟩
      else (converse d table rest).after (block d table (command text)) := by
  rw [converse, turn]
  by_cases h : Quits (command text)
  · rw [if_pos h, if_pos h]
  · rw [if_neg h, if_neg h]

/-- **Lines are answered in order, each by its own block, until one ends the session.** -/
theorem converse_lines (d : Definition) (table : String) (lines : List String) :
    converse d table (lines.map .line ++ [.ended]) =
      ⟨((lines.map command).takeWhile (¬ Quits ·)).flatMap (block d table), 0⟩ := by
  induction lines with
  | nil => rfl
  | cons line lines ih =>
    rw [List.map_cons, List.cons_append, converse_line, List.map_cons]
    by_cases h : Quits (command line)
    · rw [if_pos h, List.takeWhile_cons_of_neg (by simpa using h)]
      rfl
    · rw [if_neg h, List.takeWhile_cons_of_pos (by simpa using h), ih, List.flatMap_cons]
      rfl

theorem session_eq (read : String → Except Definition.FileFault ByteArray) (args : List String)
    (input : String) :
    session read args (piped input) =
      ⟨header (definitionOf (pathOf args) (read (pathOf args)))
        ++ (commands input).flatMap
          (block (definitionOf (pathOf args) (read (pathOf args))) (tableOf args)), 0⟩ := by
  rw [session, piped, converse_lines]
  rfl

/-! ### Two inputs -/

/-- **Lines stay lines when more input follows a line feed.** -/
theorem linesOf_append {first : String} (h : first.toList.getLast? = some '\n') (second : String) :
    linesOf (first ++ second) = linesOf first ++ linesOf second := by
  obtain ⟨text, htext⟩ := List.getLast?_eq_some_iff.mp h
  have hfirst : Text.split '\n' first.toList = Text.split '\n' text ++ [[]] := by
    rw [htext]
    exact Text.split_append_cons '\n' text []
  have hboth : Text.split '\n' (first ++ second).toList =
      Text.split '\n' text ++ Text.split '\n' second.toList := by
    rw [String.toList_append, htext, List.append_assoc]
    exact Text.split_append_cons '\n' text second.toList
  have hne : Text.split '\n' second.toList ≠ [] := by
    rw [Text.split_eq_cons]
    exact List.cons_ne_nil _ _
  obtain ⟨last, hlast⟩ := Option.ne_none_iff_exists'.mp (mt List.getLast?_eq_none_iff.mp hne)
  rw [linesOf, linesOf, linesOf, hfirst, hboth, List.dropLast_append_of_ne_nil hne,
    List.getLast?_append, hlast, List.dropLast_concat, List.getLast?_concat]
  simp

theorem commands_append {first : String} (h : first.toList.getLast? = some '\n')
    (hstays : ∀ line ∈ linesOf first, ¬ Quits (command line)) (second : String) :
    commands (first ++ second) = commands first ++ commands second := by
  have hall : ∀ c ∈ (linesOf first).map command, ¬ Quits c := List.forall_mem_map.mpr hstays
  have hfirst : ((linesOf first).map command).takeWhile (¬ Quits ·) = (linesOf first).map command :=
    List.takeWhile_eq_self_iff.mpr fun c hc => by simpa using hall c hc
  rw [commands, linesOf_append h, List.map_append, commands, commands, hfirst,
    List.takeWhile_append_of_pos fun c hc => by simpa using hall c hc]

-- Blanks and carriage returns go, a blank line is a command, and what follows the end is not one.
example : commands " name \r\n:fields\n\n:quit\nname:x\n" = ["name", ":fields", ""] := by decide

/-! ### The definition in force -/

theorem fromUTF8?_eq_some {bytes : ByteArray} {text : String} :
    String.fromUTF8? bytes = some text ↔ bytes = text.toUTF8 := by
  rw [String.fromUTF8?]
  constructor
  · intro h
    split at h
    · cases h
      rfl
    · cases h
  · rintro rfl
    rw [String.toUTF8_eq_toByteArray, dif_pos text.isValidUTF8]
    rfl

theorem textOf_eq_ok {content : Except Definition.FileFault ByteArray} {text : String} :
    Definition.textOf content = .ok text ↔ content = .ok text.toUTF8 := by
  rw [Definition.textOf, Results.bind_eq_ok]
  constructor
  · rintro ⟨bytes, rfl, h⟩
    split at h
    · next hbytes =>
      cases h
      rw [fromUTF8?_eq_some.mp hbytes]
    · cases h
  · rintro rfl
    refine ⟨_, rfl, ?_⟩
    rw [fromUTF8?_eq_some.mpr rfl]

/-- **The files that load** are those with a text in UTF-8 that is read as a definition. -/
theorem load_eq_ok {path : String} {content : Except Definition.FileFault ByteArray} :
    (Definition.load path content).result = .ok d ↔
      ∃ text : String, content = .ok text.toUTF8 ∧ Definition.ofText text = .ok d := by
  simp only [← textOf_eq_ok]
  rw [Definition.load]
  cases Definition.textOf content with
  | error fault => simp
  | ok text => cases hread : Definition.ofText text <;> simp [hread]

theorem definitionOf_cases (path : String) (content : Except Definition.FileFault ByteArray) :
    (Definition.load path content).result = .ok (definitionOf path content) ∨
      (∃ fault, (Definition.load path content).result = .error fault) ∧
        definitionOf path content = .demo := by
  rw [definitionOf]
  cases (Definition.load path content).result with
  | ok d => exact .inl rfl
  | error fault => exact .inr ⟨⟨fault, rfl⟩, rfl⟩

/-- **A session on piped input ends well, and answers each line on its own.**  It prints the header
of the definition in force, which is the one in the file or else the demonstration one, and a block
for each line up to the one that ends the session.  There is a definition in the file if its bytes
are a text in UTF-8 that is read as one.  The block of `:fields` lists the aliases in order; that of
any other line says why the query is refused, or gives its tree and its statement.  If the input
goes on after a line feed, and no line has ended the session, the blocks of what follows are those
that it would have alone. -/
theorem session_piped (read : String → Except Definition.FileFault ByteArray)
    (args : List String) (input : String) :
    ∃ d : Definition,
      ((Definition.load (pathOf args) (read (pathOf args))).result = .ok d ∨
        (∃ fault, (Definition.load (pathOf args) (read (pathOf args))).result = .error fault) ∧
          d = .demo) ∧
      (∀ e : Definition, (Definition.load (pathOf args) (read (pathOf args))).result = .ok e ↔
        ∃ text : String, read (pathOf args) = .ok text.toUTF8 ∧ Definition.ofText text = .ok e) ∧
      session read args (piped input) =
        ⟨header d ++ (commands input).flatMap (block d (tableOf args)), 0⟩ ∧
      block d (tableOf args) ":fields" =
        d.fields.entries.map (fun entry => "  " ++ entry.1 ++ " -> " ++ entry.2) ∧
      d.fields.entries.Pairwise (·.1 < ·.1) ∧
      (∀ aliasName field,
        (aliasName, field) ∈ d.fields.entries ↔ d.fields.get? aliasName = some field) ∧
      (∀ query, query ≠ ":fields" →
        (∃ e, (d.parse query).result = .error e ∧
          block d (tableOf args) query = ["rejected: " ++ e.message]) ∨
        ∃ t statement, (d.parse query).result = .ok t ∧
          Sql.select (tableOf args) t = .ok statement ∧
          block d (tableOf args) query = ["tree: " ++ t.display, "sql:  " ++ statement]) ∧
      ∀ more, input.toList.getLast? = some '\n' →
        (∀ line ∈ linesOf input, ¬ Quits (command line)) →
        session read args (piped (input ++ more)) =
          ⟨header d ++ ((commands input).flatMap (block d (tableOf args))
            ++ (commands more).flatMap (block d (tableOf args))), 0⟩ := by
  refine ⟨definitionOf (pathOf args) (read (pathOf args)), definitionOf_cases _ _,
    fun e => load_eq_ok, session_eq read args input, rfl, Fields.sorted _,
    fun aliasName field => ?_, fun query hquery => ?_, fun more hfeed hstays => ?_⟩
  · exact Fields.get?_eq_some_iff.symm
  · rw [block, if_neg hquery]
    exact queryLines_cases _ _ query
  · rw [session_eq, commands_append hfeed hstays, List.flatMap_append]

end FilterQuery.Console
