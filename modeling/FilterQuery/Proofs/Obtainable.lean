import FilterQuery.Proofs.Clauses
import FilterQuery.Proofs.Compile
import FilterQuery.Proofs.Composition
import FilterQuery.Proofs.Settings
import FilterQuery.Workbench

/-!
# Searches that cannot fail to compile

A workbench is driven by commands in any order, and some of them fail.  Whatever was done, the
definitions on it are sound, so the trees of their queries have well-shaped leaves only, and joining
trees adds no leaf: `obtainable_compiles`.

* `Tree.Joined`: the trees made of others by AND and OR.
* `Workbench.Accounted`: what is on a workbench comes from the commands, definitions from their
  sources and changes, trees from queries to these definitions and from leaves handed in.
  `Accounted.outcome` says that one command keeps this, and `accounted_after` that every run does,
  by induction over the commands.
* `Definition.fit_of_mem_requested`: a clause makes a predicate of the right shape.
-/

namespace FilterQuery

namespace Tree

/-- Put together from trees of `base` by joining them. -/
inductive Joined (base : Tree → Prop) : Tree → Prop
  | base {t : Tree} (h : base t) : Joined base t
  | and {t u : Tree} (ht : Joined base t) (hu : Joined base u) : Joined base (t.and u)
  | or {t u : Tree} (ht : Joined base t) (hu : Joined base u) : Joined base (t.or u)
  | all {ts : List Tree} (h : ∀ t ∈ ts, Joined base t) : Joined base (.all ts)
  | any {ts : List Tree} (h : ∀ t ∈ ts, Joined base t) : Joined base (.any ts)

namespace Joined

variable {base : Tree → Prop}

theorem node {connective : Connective} {ts : List Tree} (h : ∀ t ∈ ts, Joined base t) :
    Joined base (.node connective ts) := by
  cases connective with
  | and => exact .all h
  | or => exact .any h

theorem pair {connective : Connective} {t u : Tree} (ht : Joined base t) (hu : Joined base u) :
    Joined base (.node connective [t, u]) := by
  cases connective with
  | and => exact .and ht hu
  | or => exact .or ht hu

theorem wrap {times : Nat} {connective : Connective} {t : Tree} (h : Joined base t) :
    Joined base (Tree.wrap times connective t) := by
  induction times generalizing connective t with
  | zero => exact h
  | succ times ih => exact ih (node (List.forall_mem_singleton.mpr h))

/-- **Joining makes no leaves of its own.** -/
theorem exists_base_of_mem_leaves {t : Tree} (h : Joined base t) {p : Predicate}
    (hp : p ∈ t.leaves) : ∃ u, base u ∧ p ∈ u.leaves := by
  induction h with
  | base h => exact ⟨_, h, hp⟩
  | and _ _ iht ihu | or _ _ iht ihu =>
    rcases mem_leaves_pair.mp hp with hp | hp
    · exact iht hp
    · exact ihu hp
  | all _ ih | any _ ih =>
    obtain ⟨v, hv, hpv⟩ := mem_leaves_node.mp hp
    exact ih v hv hpv

theorem exists_select {t : Tree} (h : Joined base t)
    (hbase : ∀ u, base u → ∀ p ∈ u.leaves, p.WellShaped) (table : String) :
    ∃ text, Sql.select table t = .ok text := by
  refine Sql.exists_select.mpr fun p hp => ?_
  obtain ⟨u, hu, hpu⟩ := h.exists_base_of_mem_leaves hp
  exact hbase u hu p hpu

end Joined

end Tree

namespace Workbench

/-- The workbench after these commands, started with nothing on it. -/
def after (commands : List Command) : Workbench :=
  commands.foldl (fun w command => (w.run command).1) {}

/-- The published definition and all snapshots, those with the same name included. -/
def definitions (w : Workbench) : List Definition :=
  w.current.toList ++ w.snapshots.map (·.2)

theorem after_concat (commands : List Command) (command : Command) :
    after (commands ++ [command]) = ((after commands).run command).1 := by
  rw [after, List.foldl_append]
  rfl

theorem run_of_outcome_ok {w w' : Workbench} {command : Command} {reply : Reply}
    (h : w.outcome command = .ok (w', reply)) : (w.run command).1 = w' := by
  rw [run, h]

theorem run_of_outcome_error {w : Workbench} {command : Command} {failure : Failure}
    (h : w.outcome command = .error failure) : (w.run command).1 = w := by
  rw [run, h]

theorem definition_mem {w : Workbench} {snapshot : Option String} {d : Definition}
    (h : w.definition snapshot = .ok d) : d ∈ w.definitions := by
  cases snapshot with
  | none =>
    rw [definition] at h
    cases hc : w.current with
    | none => simp [hc] at h
    | some e =>
      simp only [hc, Except.ok.injEq] at h
      simp [definitions, hc, h]
  | some name =>
    rw [definition] at h
    cases hl : w.snapshots.lookup name with
    | none => simp [hl] at h
    | some e =>
      simp only [hl, Except.ok.injEq] at h
      obtain ⟨before, after, heq, -⟩ := List.lookup_eq_some_iff.mp hl
      simp [definitions, heq, h]

theorem top_eq_ok {w : Workbench} {t : Tree} {rest : List Tree}
    (h : w.top = .ok (t, rest)) : w.stack = t :: rest := by
  rw [top] at h
  split at h
  · next hs =>
    cases h
    exact hs
  · cases h

theorem topTwo_eq_ok {w : Workbench} {t u : Tree} {rest : List Tree}
    (h : w.topTwo = .ok (u, t, rest)) : w.stack = u :: t :: rest := by
  rw [topTwo] at h
  split at h
  · next hs =>
    cases h
    exact hs
  · cases h

/-! ### Where all of it comes from -/

/-- The definition of a source in the commands, or what changes in them make of such a one. -/
inductive Obtained (commands : List Command) : Definition → Prop
  | source {source : Definition.Source} {d : Definition} (hmem : .publish source ∈ commands)
      (h : source.definition = .ok d) : Obtained commands d
  | edit {snapshot : Option String} {edits : List Edit} {d e : Definition}
      (hmem : .edit snapshot edits ∈ commands) (hd : Obtained commands d)
      (h : d.edit edits = .ok e) : Obtained commands e

/-- The tree of a query to a definition that the commands lead to, or a leaf that is handed in. -/
inductive Given (commands : List Command) : Tree → Prop
  | search {d : Definition} {query : String} {t : Tree} (hd : Obtained commands d)
      (h : (d.parse query).result = .ok t) : Given commands t
  | leaf {p : Predicate} (hmem : .leaf p ∈ commands) : Given commands (.leaf p)

/-- Everything on the workbench comes from these commands. -/
structure Accounted (commands : List Command) (w : Workbench) : Prop where
  definitions : ∀ d ∈ w.definitions, Obtained commands d
  stack : ∀ t ∈ w.stack, Tree.Joined (Given commands) t

variable {w w' : Workbench} {commands : List Command} {command : Command} {reply : Reply}

namespace Accounted

theorem publish (h : Accounted commands w) {d : Definition} (hd : Obtained commands d) :
    Accounted commands (w.publish d).1 := by
  refine ⟨fun e he => ?_, h.stack⟩
  rcases List.mem_cons.mp he with rfl | he
  · exact hd
  · exact h.definitions e (List.mem_append_right _ he)

theorem push (h : Accounted commands w) {t : Tree} {rest : List Tree}
    (ht : Tree.Joined (Given commands) t) (hrest : ∀ u ∈ rest, u ∈ w.stack) :
    Accounted commands (w.push t rest).1 := by
  refine ⟨h.definitions, fun u hu => ?_⟩
  rcases List.mem_cons.mp hu with rfl | hu
  · exact ht
  · exact h.stack u (hrest u hu)

theorem gather (h : Accounted commands w) {connective : Connective} {count : Nat}
    (ho : w.gather connective count = .ok (w', reply)) : Accounted commands w' := by
  rw [Workbench.gather] at ho
  split at ho
  · cases ho
    refine h.push (Tree.Joined.node fun t ht => ?_) fun u hu => List.mem_of_mem_drop hu
    exact h.stack t (List.mem_of_mem_take (List.mem_reverse.mp ht))
  · cases ho

/-- **A command brings nothing to the workbench but what it says itself.** -/
theorem outcome (h : Accounted commands w) (hmem : command ∈ commands)
    (ho : w.outcome command = .ok (w', reply)) : Accounted commands w' := by
  cases command with
  | publish source =>
    obtain ⟨d, hd, ho⟩ := Results.bind_eq_ok.mp ho
    cases ho
    exact h.publish (.source hmem (Results.mapError_eq_ok.mp hd))
  | republish snapshot =>
    obtain ⟨d, hd, ho⟩ := Results.bind_eq_ok.mp ho
    cases ho
    exact h.publish (h.definitions d (definition_mem hd))
  | edit snapshot edits =>
    obtain ⟨d, hd, ho⟩ := Results.bind_eq_ok.mp ho
    obtain ⟨e, he, ho⟩ := Results.bind_eq_ok.mp ho
    cases ho
    have hobtained := h.definitions d (definition_mem hd)
    exact h.publish (.edit hmem hobtained (Results.mapError_eq_ok.mp he))
  | load name =>
    obtain ⟨d, hd, ho⟩ := Results.bind_eq_ok.mp ho
    cases ho
    -- the new snapshot is of what was published before
    refine ⟨fun e he => ?_, h.stack⟩
    rw [Workbench.definitions, List.map_cons, List.mem_append, List.mem_cons] at he
    rcases he with he | rfl | he
    · exact h.definitions e (List.mem_append_left _ he)
    · exact h.definitions _ (definition_mem hd)
    · exact h.definitions e (List.mem_append_right _ he)
  | describe _ | equal | leaves _ | sql _ =>
    obtain ⟨_, -, ho⟩ := Results.bind_eq_ok.mp ho
    cases ho
    exact h
  | same _ =>
    obtain ⟨_, -, ho⟩ := Results.bind_eq_ok.mp ho
    obtain ⟨_, -, ho⟩ := Results.bind_eq_ok.mp ho
    cases ho
    exact h
  | parse snapshot query =>
    obtain ⟨d, hd, ho⟩ := Results.bind_eq_ok.mp ho
    obtain ⟨t, ht, ho⟩ := Results.bind_eq_ok.mp ho
    cases ho
    have hobtained := h.definitions d (definition_mem hd)
    exact h.push (.base (.search hobtained (Results.mapError_eq_ok.mp ht))) fun u hu => hu
  | leaf p =>
    cases ho
    exact h.push (.base (.leaf hmem)) fun u hu => hu
  | and | or =>
    obtain ⟨⟨u, t, rest⟩, htop, ho⟩ := Results.bind_eq_ok.mp ho
    cases ho
    have hs := topTwo_eq_ok htop
    refine h.push (Tree.Joined.pair (h.stack t ?_) (h.stack u ?_)) ?_
    all_goals simp +contextual [hs]
  | all count => exact h.gather ho
  | any count => exact h.gather ho
  | wrap times =>
    obtain ⟨⟨t, rest⟩, htop, ho⟩ := Results.bind_eq_ok.mp ho
    cases ho
    have hs := top_eq_ok htop
    refine h.push (Tree.Joined.wrap (h.stack t ?_)) ?_
    all_goals simp +contextual [hs]
  | dup =>
    obtain ⟨⟨t, rest⟩, htop, ho⟩ := Results.bind_eq_ok.mp ho
    cases ho
    have hs := top_eq_ok htop
    refine h.push (h.stack t ?_) ?_
    all_goals simp +contextual [hs]
  | drop =>
    obtain ⟨⟨t, rest⟩, htop, ho⟩ := Results.bind_eq_ok.mp ho
    cases ho
    exact ⟨h.definitions, fun u hu => h.stack u (by simp [top_eq_ok htop, hu])⟩

end Accounted

/-- **After a run there is nothing on the workbench but what its commands brought.** -/
theorem accounted_after (commands : List Command) : Accounted commands (after commands) := by
  have hdone : ∀ done, done ⊆ commands → Accounted commands (after done) := by
    intro done
    induction done using List.reverseRecOn with
    | nil => exact fun _ => ⟨by simp [after, definitions], by simp [after]⟩
    | append_singleton done command ih =>
      intro hsub
      obtain ⟨hold, hcommand⟩ := List.append_subset.mp hsub
      rw [after_concat]
      cases ho : (after done).outcome command with
      | error failure =>
        -- a command that fails leaves everything as it is
        rw [run_of_outcome_error ho]
        exact ih hold
      | ok next =>
        rw [run_of_outcome_ok ho]
        exact (ih hold).outcome (hcommand List.mem_cons_self) ho
  exact hdone commands (List.Subset.refl commands)

end Workbench

namespace Definition

variable {d : Definition} {query : String}

theorem fit_of_mem_requested {p : Predicate} (h : p ∈ d.requested query) :
    p.Fit ∧ p.op ≠ .range := by
  obtain ⟨text, -, hp⟩ := List.mem_filterMap.mp h
  obtain ⟨clause, hread, hfield, heq⟩ := predicate?_eq_some.mp hp
  have hne : p.field ≠ "" := d.sound.field_ne _ (Fields.mem_of_get?_eq_some hfield)
  have hfits := Clause.fits_of_read hread
  have hop := Clause.op_ne_range_of_read d.sound.defaultOperator_ne hread
  rw [heq]
  exact ⟨⟨hne, hfits⟩, hop⟩

/-- **All leaves of a search have a field and a value of the right shape.** -/
theorem fit_of_mem_leaves {t : Tree} (h : (d.parse query).result = .ok t) :
    ∀ p ∈ t.leaves, p.Fit := by
  intro p hp
  rw [leaves_parse h, List.mem_append, List.mem_append] at hp
  rcases hp with (hp | hp) | hp
  · exact (fit_of_mem_requested (Compose.mem_of_mem_lastPerField hp)).1
  · exact d.sound.mandatory_fit p hp
  · exact d.sound.defaults_fit p (List.mem_filter.mp hp).1

end Definition

namespace Workbench

/-- The tree of a query to a definition. -/
def Searched (t : Tree) : Prop := ∃ d : Definition, ∃ query, (d.parse query).result = .ok t

theorem Searched.wellShaped {t : Tree} (h : Searched t) : ∀ p ∈ t.leaves, p.WellShaped := by
  obtain ⟨d, query, ht⟩ := h
  exact fun p hp => (Definition.fit_of_mem_leaves ht p hp).2

theorem Given.wellShaped {commands : List Command} {t : Tree} (h : Given commands t)
    (hhanded : ∀ p, .leaf p ∈ commands → p.WellShaped) : ∀ p ∈ t.leaves, p.WellShaped := by
  cases h with
  | search _ ht => exact Searched.wellShaped ⟨_, _, ht⟩
  | leaf hmem =>
    intro p hp
    rw [Tree.leaves_eq_predicates, Tree.predicates, List.mem_singleton] at hp
    exact hp ▸ hhanded _ hmem

/-- **No definition that a run leaves published or as a snapshot can make a statement fail.**  It
comes from the commands and passes the checks, and its clients never ask for a range.  The leaves of
its searches, which are the client's, the mandatory ones and defaults, have fields and fitting
values, so there is a statement for every table.  The same goes for every tree joined of searches,
and, if the leaves handed in fit as well, for every tree that a run leaves on the stack. -/
theorem obtainable_compiles :
    (∀ commands,
      (∀ d ∈ (after commands).definitions,
        Obtained commands d ∧ d.toSettings.check = .ok d ∧ d.toSettings.Sound ∧
        ∀ query,
          (∀ p ∈ d.requested query, p.op ≠ .range) ∧
          ∀ t, (d.parse query).result = .ok t →
            (∀ p ∈ t.leaves, p.field ≠ "" ∧ p.WellShaped) ∧
            t.leaves = d.userLeaves query ++ d.mandatory ++ d.defaultLeaves query ∧
            (∀ p ∈ d.userLeaves query, p ∈ d.requested query ∧ p.op ≠ .range) ∧
            ∀ table, ∃ text, Sql.select table t = .ok text) ∧
      ((∀ p, .leaf p ∈ commands → p.WellShaped) →
        ∀ t ∈ (after commands).stack, ∀ table, ∃ text, Sql.select table t = .ok text)) ∧
    ∀ t, Tree.Joined Searched t → ∀ table, ∃ text, Sql.select table t = .ok text := by
  refine ⟨fun commands => ⟨fun d hd => ?_, fun hhanded t ht => ?_⟩, fun t ht => ?_⟩
  · refine ⟨(accounted_after commands).definitions d hd, Settings.check_eq_ok.mpr rfl, d.sound,
      fun query => ⟨fun p hp => (Definition.fit_of_mem_requested hp).2, fun t ht => ?_⟩⟩
    have hsearched : Searched t := ⟨d, query, ht⟩
    refine ⟨Definition.fit_of_mem_leaves ht, Definition.leaves_parse ht, fun p hp => ?_, ?_⟩
    · have hrequested := Compose.mem_of_mem_lastPerField hp
      exact ⟨hrequested, (Definition.fit_of_mem_requested hrequested).2⟩
    · exact (Tree.Joined.base hsearched).exists_select fun u => Searched.wellShaped
  · exact ((accounted_after commands).stack t ht).exists_select fun u hu => hu.wellShaped hhanded
  · exact ht.exists_select fun u => Searched.wellShaped

end Workbench

end FilterQuery
