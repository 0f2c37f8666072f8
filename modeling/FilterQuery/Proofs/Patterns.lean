import FilterQuery.Sql.Compile
import FilterQuery.Sql.Pattern

/-!
# Finding a text by a pattern

CONTAINS is compiled to a pattern, and `contains_means_substring` says what becomes of it: the
pattern matches the texts in which the value occurs, whatever characters the value is made of.

The value is in the middle of the pattern, so it is looked at together with the pattern behind it:
`matches_escapeLike_append` takes one character of the value after the other off the text, by
induction on the value.  That the last one is no half of an escape is then no case of its own.
`accepts_iff_matches` brings the matcher in.
-/

namespace FilterQuery.Sql

namespace Pattern

variable {c : Char} {rest text : List Char}

/-! ### One character of a pattern -/

theorem matches_nil : Matches [] text ↔ text = [] := by
  constructor
  · intro h
    cases h
    rfl
  · rintro rfl
    exact .nil

/-- All that a pattern can begin with, and what is then left to match. -/
theorem matches_cons :
    Matches (c :: rest) text ↔
      (c = '%' ∧ ∃ skipped suffix, text = skipped ++ suffix ∧ Matches rest suffix) ∨
      (c = '_' ∧ ∃ d suffix, text = d :: suffix ∧ Matches rest suffix) ∨
      (c = likeEscape ∧ ∃ d tail suffix, rest = d :: tail ∧ text = d :: suffix ∧
        Matches tail suffix) ∨
      (¬ Special c ∧ ∃ suffix, text = c :: suffix ∧ Matches rest suffix) := by
  constructor
  · intro h
    cases h with
    | any skipped h => exact .inl ⟨rfl, skipped, _, rfl, h⟩
    | one d h => exact .inr (.inl ⟨rfl, d, _, rfl, h⟩)
    | escaped d h => exact .inr (.inr (.inl ⟨rfl, d, _, _, rfl, rfl, h⟩))
    | plain hc h => exact .inr (.inr (.inr ⟨hc, _, rfl, h⟩))
  · rintro (⟨rfl, skipped, suffix, rfl, h⟩ | ⟨rfl, d, suffix, rfl, h⟩ |
      ⟨rfl, d, tail, suffix, rfl, rfl, h⟩ | ⟨hc, suffix, rfl, h⟩)
    · exact .any skipped h
    · exact .one d h
    · exact .escaped d h
    · exact .plain hc h

theorem matches_any :
    Matches ('%' :: rest) text ↔
      ∃ skipped suffix, text = skipped ++ suffix ∧ Matches rest suffix := by
  rw [matches_cons]
  simp [Special, likeEscape]

theorem matches_one :
    Matches ('_' :: rest) text ↔ ∃ d suffix, text = d :: suffix ∧ Matches rest suffix := by
  rw [matches_cons]
  simp [Special, likeEscape]

theorem matches_escaped :
    Matches (likeEscape :: c :: rest) text ↔
      ∃ suffix, text = c :: suffix ∧ Matches rest suffix := by
  rw [matches_cons]
  simp [Special, likeEscape, and_assoc]

theorem not_matches_dangling : ¬ Matches [likeEscape] text := by
  rw [matches_cons]
  simp [Special, likeEscape]

theorem matches_plain (hc : ¬ Special c) :
    Matches (c :: rest) text ↔ ∃ suffix, text = c :: suffix ∧ Matches rest suffix := by
  rw [matches_cons]
  simp only [Special, not_or] at hc
  simp [Special, hc]

/-! ### The matcher -/

theorem anySuffix_eq_true {test : List Char → Bool} :
    anySuffix test text = true ↔
      ∃ skipped suffix, text = skipped ++ suffix ∧ test suffix = true := by
  induction text with
  | nil => simp [anySuffix, and_assoc]
  | cons d text ih =>
    rw [anySuffix, Bool.or_eq_true, ih]
    constructor
    · rintro (h | ⟨skipped, suffix, rfl, h⟩)
      · exact ⟨[], d :: text, rfl, h⟩
      · exact ⟨d :: skipped, suffix, rfl, h⟩
    · rintro ⟨skipped, suffix, htext, h⟩
      cases skipped with
      | nil => exact .inl (htext ▸ h)
      | cons e skipped =>
        rw [List.cons_append, List.cons.injEq] at htext
        exact .inr ⟨skipped, suffix, htext.2, h⟩

/-- The first character of a text is the one asked for, and the rest is as asked for. -/
theorem exists_suffix_iff {P : List Char → Prop} {d : Char} :
    (∃ suffix, d :: text = c :: suffix ∧ P suffix) ↔ c = d ∧ P text := by
  simp only [List.cons.injEq]
  constructor
  · rintro ⟨suffix, ⟨rfl, rfl⟩, h⟩
    exact ⟨rfl, h⟩
  · rintro ⟨rfl, h⟩
    exact ⟨text, ⟨rfl, rfl⟩, h⟩

/-- **The matcher finds what the rules say.** -/
theorem accepts_iff_matches {pattern : List Char} :
    accepts pattern text = true ↔ Matches pattern text := by
  fun_induction accepts pattern text with
  | case1 text => rw [List.isEmpty_iff, matches_nil]
  | case2 rest text ih => simp only [anySuffix_eq_true, ih, matches_any]
  | case3 rest d text ih => simp [ih, matches_one, and_assoc]
  | case4 c rest d text ih =>
    rw [Bool.and_eq_true, beq_iff_eq, ih]
    exact (matches_escaped.trans exists_suffix_iff).symm
  | case5 text => exact iff_of_false (by simp) not_matches_dangling
  | case6 c rest d text hany hone hescaped hdangling ih =>
    -- an escape is followed by something or by nothing, and neither is left
    have hplain : ¬ Special c := by
      rintro (rfl | rfl | rfl)
      · exact hany rfl
      · exact hone rfl
      · cases rest with
        | nil => exact hdangling rfl rfl
        | cons e rest => exact hescaped e rest rfl rfl
    rw [Bool.and_eq_true, beq_iff_eq, ih]
    exact ((matches_plain hplain).trans exists_suffix_iff).symm
  | case7 c rest hany hdangling =>
    refine iff_of_false (by simp) fun h => ?_
    rcases matches_cons.mp h with ⟨rfl, -⟩ | ⟨-, d, suffix, htext, -⟩ |
      ⟨-, d, tail, suffix, -, htext, -⟩ | ⟨-, suffix, htext, -⟩
    · exact hany rfl
    · cases htext
    · cases htext
    · cases htext

/-! ### A text behind escapes -/

/-- **A text whose marks are escaped matches only itself**, and then the rest of the pattern has to
match the rest of the text. -/
theorem matches_escapeLike_append (value : List Char) {pattern : List Char} :
    Matches (escapeLike value ++ pattern) text ↔
      ∃ suffix, text = value ++ suffix ∧ Matches pattern suffix := by
  induction value generalizing text with
  | nil => simp [escapeLike]
  | cons c value ih =>
    have hstep : Matches (escapeLike (c :: value) ++ pattern) text ↔
        ∃ suffix, text = c :: suffix ∧ Matches (escapeLike value ++ pattern) suffix := by
      rw [escapeLike]
      split
      · exact matches_escaped
      · next hc => exact matches_plain hc
    rw [hstep]
    constructor
    · rintro ⟨tail, rfl, h⟩
      obtain ⟨suffix, rfl, hsuffix⟩ := ih.mp h
      exact ⟨suffix, rfl, hsuffix⟩
    · rintro ⟨suffix, rfl, hsuffix⟩
      exact ⟨value ++ suffix, rfl, ih.mpr ⟨suffix, rfl, hsuffix⟩⟩

/-- **The texts that match are those in which the value occurs.** -/
theorem matches_containing {value : List Char} :
    Matches (containing value) text ↔ value <:+: text := by
  have hend : ∀ suffix, Matches ['%'] suffix := by
    intro suffix
    simpa using Matches.any suffix .nil
  rw [containing, List.cons_append, matches_any]
  simp only [matches_escapeLike_append]
  constructor
  · rintro ⟨skipped, _, rfl, suffix, rfl, -⟩
    exact ⟨skipped, suffix, List.append_assoc ..⟩
  · rintro ⟨skipped, suffix, rfl⟩
    exact ⟨skipped, value ++ suffix, List.append_assoc .., suffix, rfl, hend suffix⟩

theorem wellEscaped_escapeLike_append (value : List Char) {pattern : List Char}
    (h : WellEscaped pattern) : WellEscaped (escapeLike value ++ pattern) := by
  induction value with
  | nil => exact h
  | cons c value ih =>
    rw [escapeLike]
    split
    · next hc => exact .escape hc ih
    · next hc => exact .char (fun he => hc (.inr (.inr he))) ih

theorem wellEscaped_containing (value : List Char) : WellEscaped (containing value) := by
  have hmark : '%' ≠ likeEscape := by decide
  exact .char hmark (wellEscaped_escapeLike_append value (.char hmark .nil))

end Pattern

/-- **CONTAINS means substring.**  The condition of such a predicate is a pattern that the texts
match in which the value occurs, and no others.  Every escape in it is of use: none is the last
character, and none stands before a character without a meaning. -/
theorem contains_means_substring (field value : String) :
    ofPredicate ⟨field, .contains, .scalar value⟩ =
      .ok (.like (Column.ofPath field) (String.ofList (containing value.toList))) ∧
    (∀ text : String,
      Pattern.accepts (containing value.toList) text.toList = true ↔
        value.toList <:+: text.toList) ∧
    Pattern.WellEscaped (containing value.toList) := by
  refine ⟨rfl, ?_, Pattern.wellEscaped_containing value.toList⟩
  intro text
  exact Pattern.accepts_iff_matches.trans Pattern.matches_containing

example : Pattern.accepts (containing "!_".toList) "a!_b".toList = true ∧
    Pattern.accepts (containing "!_".toList) "a!b".toList = false := by decide

end FilterQuery.Sql
