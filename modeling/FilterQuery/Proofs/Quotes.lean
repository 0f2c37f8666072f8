import FilterQuery.Proofs.Ends
import FilterQuery.Sql.Statement

/-!
# Where quoted names and literals end

As in `FilterQuery.Proofs.Ends`, what is written tells where it ends, whatever follows:
`write a ++ r = write b ++ s → a = b ∧ r = s`.

* `quotedName_append_inj`: names, where a quote ends the name unless another one follows.
* `quotedLiteral_append_inj`: literals, where a backslash guards the quotes inside.
* `columnText_append_inj`, `literalsText_append_inj`: what is made of these.
-/

namespace FilterQuery.Sql

/-! ### Names -/

theorem nameChar_append_inj {a b : Char} {r s : List Char}
    (h : nameChar a ++ r = nameChar b ++ s) : a = b ∧ r = s := by
  unfold nameChar at h
  split at h <;> split at h <;> cases h
  · next ha hb => exact ⟨ha.trans hb.symm, rfl⟩
  · contradiction
  · contradiction
  · exact ⟨rfl, rfl⟩

/-- **A name ends at the first quote that is not doubled.** -/
theorem quotedName_append_inj {a b r s : List Char} (hr : r.head? ≠ some '"')
    (hs : s.head? ≠ some '"') (h : quotedName a ++ r = quotedName b ++ s) : a = b ∧ r = s := by
  have hends : a = b ∧ '"' :: r = '"' :: s := by
    refine Text.flatMap_append_inj (fun t => ∃ rest, t = '"' :: rest ∧ rest.head? ≠ some '"')
      (fun a _ b _ r s => nameChar_append_inj) ?_ ⟨r, rfl, hr⟩ ⟨s, rfl, hs⟩ ?_
    · rintro c t ⟨rest, heq, hrest⟩
      unfold nameChar at heq
      split at heq <;> cases heq
      · exact hrest rfl
      · next hc => exact hc rfl
    · rw [quotedName, List.append_assoc, quotedName, List.append_assoc] at h
      exact List.tail_eq_of_cons_eq h
  exact ⟨hends.1, List.tail_eq_of_cons_eq hends.2⟩

/-! ### Literals -/

/-- The character that is meant by a backslash and this one. -/
def unescaped : Char → Char
  | '0' => '\x00'
  | 'b' => '\x08'
  | 't' => '\t'
  | 'z' => '\x1a'
  | 'n' => '\n'
  | 'r' => '\r'
  | c => c

/-- A character stands for itself, being neither backslash nor quote, or it is written with a
backslash. -/
theorem literalChar_cases (c : Char) :
    (literalChar c = [c] ∧ c ≠ '\\' ∧ c ≠ '\'') ∨
      ∃ e, literalChar c = ['\\', e] ∧ unescaped e = c := by
  unfold literalChar
  split
  case h_10 hbackslash _ hquote _ _ _ _ _ _ => exact .inl ⟨rfl, hbackslash, hquote⟩
  all_goals exact .inr ⟨_, rfl, rfl⟩

theorem literalChar_append_inj {a b : Char} {r s : List Char}
    (h : literalChar a ++ r = literalChar b ++ s) : a = b ∧ r = s := by
  rcases literalChar_cases a with ⟨ha, hane, -⟩ | ⟨e, ha, rfl⟩ <;>
    rcases literalChar_cases b with ⟨hb, hbne, -⟩ | ⟨f, hb, rfl⟩
  all_goals
    rw [ha, hb] at h
    cases h
  · exact ⟨rfl, rfl⟩
  · exact absurd rfl hane
  · exact absurd rfl hbne
  · exact ⟨rfl, rfl⟩

theorem literalChar_head (c : Char) (t : List Char) :
    (literalChar c ++ t).head? ≠ some '\'' := by
  rcases literalChar_cases c with ⟨hw, -, hne⟩ | ⟨e, hw, -⟩
  · rw [hw]
    exact fun h => hne (Option.some.inj h)
  · rw [hw]
    exact fun h => absurd (Option.some.inj h) (by decide)

/-- **A literal ends at the first quote without a backslash**, and an `E` before it is no part of
it. -/
theorem quotedLiteral_append_inj {a b r s : List Char}
    (h : quotedLiteral a ++ r = quotedLiteral b ++ s) : a = b ∧ r = s := by
  have hbody (h : a.flatMap literalChar ++ '\'' :: r = b.flatMap literalChar ++ '\'' :: s) :
      a = b ∧ r = s := by
    have hends := Text.flatMap_append_inj (fun t => t.head? = some '\'')
      (fun a _ b _ r s => literalChar_append_inj) literalChar_head rfl rfl h
    exact ⟨hends.1, List.tail_eq_of_cons_eq hends.2⟩
  unfold quotedLiteral at h
  dsimp only at h
  split at h <;> split at h
  · exact hbody (by simpa using h)
  · cases h
  · cases h
  · exact hbody (by simpa using h)

/-- Every literal begins with a quote or with `E`. -/
theorem quotedLiteral_head (text r : List Char) :
    (quotedLiteral text ++ r).head? = some 'E' ∨ (quotedLiteral text ++ r).head? = some '\'' := by
  unfold quotedLiteral
  dsimp only
  split
  · exact .inl rfl
  · exact .inr rfl

/-! ### Columns and lists of literals -/

/-- A column begins with a double quote. -/
theorem columnText_append_ne {column : Column} {c : Char} {r s : List Char} (h : c ≠ '"') :
    columnText column ++ r ≠ c :: s := by
  intro heq
  obtain ⟨relation, name⟩ := column
  cases relation <;> exact h (List.head_eq_of_cons_eq heq).symm

/-- **A column ends at the blank after it.** -/
theorem columnText_append_inj {a b : Column} {r s : List Char}
    (h : columnText a ++ ' ' :: r = columnText b ++ ' ' :: s) : a = b ∧ r = s := by
  obtain ⟨relation, name⟩ := a
  obtain ⟨relation', name'⟩ := b
  have hblank : ∀ t : List Char, (' ' :: t).head? ≠ some '"' := fun t ht => by cases ht
  have hpoint : ∀ t : List Char, ('.' :: t).head? ≠ some '"' := fun t ht => by cases ht
  cases relation <;> cases relation' <;>
    simp only [columnText, List.append_assoc, List.cons_append] at h
  · obtain ⟨hname, hrest⟩ := quotedName_append_inj (hblank _) (hblank _) h
    cases String.toList_injective hname
    exact ⟨rfl, List.tail_eq_of_cons_eq hrest⟩
  · cases (quotedName_append_inj (hblank _) (hpoint _) h).2
  · cases (quotedName_append_inj (hpoint _) (hblank _) h).2
  · obtain ⟨hrelation, hafter⟩ := quotedName_append_inj (hpoint _) (hpoint _) h
    simp only [List.cons.injEq, true_and] at hafter
    obtain ⟨hname, hrest⟩ := quotedName_append_inj (hblank _) (hblank _) hafter
    cases String.toList_injective hrelation
    cases String.toList_injective hname
    exact ⟨rfl, List.tail_eq_of_cons_eq hrest⟩

/-- **A list of literals ends at the parenthesis after it.** -/
theorem literalsText_append_inj {as bs : List String} {r s : List Char}
    (h : literalsText as ++ ')' :: r = literalsText bs ++ ')' :: s) : as = bs ∧ r = s := by
  have hbegin : ∀ (text : String) (r s : List Char), quotedLiteral text.toList ++ r ≠ ')' :: s := by
    intro text r s heq
    rcases quotedLiteral_head text.toList r with hhead | hhead <;> rw [heq] at hhead <;> cases hhead
  have hliteral : ∀ a ∈ as, ∀ b ∈ bs, ∀ r s,
      quotedLiteral a.toList ++ r = quotedLiteral b.toList ++ s → a = b ∧ r = s := by
    intro a _ b _ r s heq
    obtain ⟨htext, hrest⟩ := quotedLiteral_append_inj heq
    exact ⟨String.toList_injective htext, hrest⟩
  exact Text.listed_append_inj (by decide) hbegin hliteral h

end FilterQuery.Sql
