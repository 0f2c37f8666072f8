import FilterQuery.Proofs.Leaves
import FilterQuery.Proofs.Quoted

/-!
# The printed form of a tree is read in one way

`Tree.display_eq_iff`: two trees of the same printed form are the same tree, if no field has a comma
in it.  Values may hold anything, since they are quoted; a field stands as it is, and the comma
after it is the only sign of its end.

The printed form of a tree begins with a word, that of an operator or a connective, up to the first
parenthesis.  No two of them have the same word, so it tells whether the tree is a leaf, and what
kind of leaf or node.  Behind the parenthesis everything tells where it ends: a field at its comma,
a value at its closing mark, and the children of a node at the parenthesis that closes it, if each
of them tells where it ends, which is the hypothesis of the induction (`Tree.chars_append_inj`).
-/

namespace FilterQuery

/-! ### Values -/

namespace Value

/-- **A value tells which one it is and where it ends.** -/
theorem chars_append_inj {v w : Value} {r s : List Char} (h : v.chars ++ r = w.chars ++ s) :
    v = w ∧ r = s := by
  cases v with
  | scalar text =>
    cases w with
    | scalar text' =>
      obtain ⟨htext, hrest⟩ := Text.quoted_append_inj h
      exact ⟨by rw [String.toList_injective htext], hrest⟩
    | list items => cases h
  | list items =>
    cases w with
    | scalar text => cases h
    | list items' =>
      simp only [chars, List.cons_append, List.append_assoc, List.nil_append, List.cons.injEq,
        true_and] at h
      have hbegin : ∀ (item : String) (r s : List Char),
          Text.quoted item.toList ++ r ≠ ']' :: s := by
        intro item r s heq
        cases heq
      have hitem : ∀ a ∈ items, ∀ b ∈ items', ∀ r s,
          Text.quoted a.toList ++ r = Text.quoted b.toList ++ s → a = b ∧ r = s := by
        intro a _ b _ r s heq
        obtain ⟨htext, hrest⟩ := Text.quoted_append_inj heq
        exact ⟨String.toList_injective htext, hrest⟩
      obtain ⟨rfl, hrest⟩ := Text.listed_append_inj (by decide) hbegin hitem h
      exact ⟨rfl, hrest⟩

end Value

/-! ### Words -/

theorem Operator.name_inj {a b : Operator} (h : a.name = b.name) : a = b := by
  revert h
  cases a <;> cases b <;> decide

theorem Connective.name_inj {a b : Connective} (h : a.name = b.name) : a = b := by
  revert h
  cases a <;> cases b <;> decide

theorem Operator.name_ne_connective (op : Operator) (connective : Connective) :
    op.name ≠ connective.name := by
  cases op <;> cases connective <;> decide

namespace Tree

/-- The word that the printed form begins with. -/
def word : Tree → String
  | .leaf p => p.op.name
  | .node connective _ => connective.name

/-- The printed form behind the word and the parenthesis. -/
def body : Tree → List Char
  | .leaf p => p.field.toList ++ ',' :: ' ' :: p.value.chars ++ [')']
  | .node _ ts => Text.listed (ts.map chars) ++ [')']

theorem charsRest_eq_flatMap (ts : List Tree) :
    charsRest ts = ts.flatMap fun t => ',' :: ' ' :: t.chars := by
  induction ts with
  | nil => rfl
  | cons t ts ih => rw [charsRest, ih, List.flatMap_cons, List.cons_append, List.cons_append]

theorem charsAll_eq_listed (ts : List Tree) : charsAll ts = Text.listed (ts.map chars) := by
  cases ts with
  | nil => rfl
  | cons t ts => rw [charsAll, charsRest_eq_flatMap, Text.listed_cons]

theorem chars_eq (t : Tree) : t.chars = t.word.toList ++ '(' :: t.body := by
  cases t with
  | leaf p => simp [chars, Predicate.chars, word, body]
  | node connective ts => simp [chars, charsAll_eq_listed, word, body]

theorem word_eq (t : Tree) :
    (∃ op : Operator, t.word = op.name) ∨ ∃ connective : Connective, t.word = connective.name := by
  cases t with
  | leaf p => exact .inl ⟨p.op, rfl⟩
  | node connective ts => exact .inr ⟨connective, rfl⟩

theorem paren_not_mem_word (t : Tree) : '(' ∉ t.word.toList := by
  rcases t.word_eq with ⟨op, h⟩ | ⟨connective, h⟩
  · rw [h]
    cases op <;> decide
  · rw [h]
    cases connective <;> decide

/-- No printed form begins with a parenthesis that closes. -/
theorem chars_append_ne (t : Tree) (r s : List Char) : t.chars ++ r ≠ ')' :: s := by
  rw [chars_eq, List.append_assoc]
  rcases t.word_eq with ⟨op, h⟩ | ⟨connective, h⟩
  · rw [h]
    cases op <;> simp [Operator.name]
  · rw [h]
    cases connective <;> simp [Connective.name]

/-- **Two printed forms begin with the same word**, and then go on with what is behind it. -/
theorem word_append_inj {t u : Tree} {r s : List Char} (h : t.chars ++ r = u.chars ++ s) :
    t.word = u.word ∧ t.body ++ r = u.body ++ s := by
  rw [chars_eq, chars_eq, List.append_assoc, List.append_assoc] at h
  obtain ⟨hword, hbody⟩ :=
    Text.stretch_append_inj t.paren_not_mem_word u.paren_not_mem_word h
  exact ⟨String.toList_injective hword, hbody⟩

/-! ### Trees -/

/-- No field has a comma in it. -/
def Plain (t : Tree) : Prop := ∀ p ∈ t.leaves, ',' ∉ p.field.toList

theorem plain_leaf {p : Predicate} : (leaf p).Plain ↔ ',' ∉ p.field.toList := by
  rw [Plain, leaves_eq_predicates, predicates, List.forall_mem_singleton]

theorem Plain.child {connective : Connective} {ts : List Tree} (h : (node connective ts).Plain)
    {t : Tree} (ht : t ∈ ts) : t.Plain :=
  fun p hp => h p (mem_leaves_node.mpr ⟨t, ht, hp⟩)

theorem leaf_append_inj {p q : Predicate} (hp : ',' ∉ p.field.toList) (hq : ',' ∉ q.field.toList)
    {r s : List Char} (h : (leaf p).chars ++ r = (leaf q).chars ++ s) : p = q ∧ r = s := by
  obtain ⟨hop, hbody⟩ := word_append_inj h
  simp only [body, List.append_assoc, List.cons_append, List.nil_append] at hbody
  obtain ⟨hfield, hafter⟩ := Text.stretch_append_inj hp hq hbody
  obtain ⟨hvalue, hrest⟩ := Value.chars_append_inj (List.tail_eq_of_cons_eq hafter)
  refine ⟨?_, List.tail_eq_of_cons_eq hrest⟩
  obtain ⟨field, op, value⟩ := p
  obtain ⟨field', op', value'⟩ := q
  rw [Predicate.mk.injEq]
  exact ⟨String.toList_injective hfield, Operator.name_inj hop, hvalue⟩

/-- **A tree tells which one it is and where it ends.** -/
theorem chars_append_inj {t u : Tree} (ht : t.Plain) (hu : u.Plain) {r s : List Char}
    (h : t.chars ++ r = u.chars ++ s) : t = u ∧ r = s := by
  induction t using Tree.induction generalizing u r s with
  | leaf p =>
    cases u with
    | leaf q =>
      obtain ⟨hpq, hrest⟩ := leaf_append_inj (plain_leaf.mp ht) (plain_leaf.mp hu) h
      exact ⟨congrArg leaf hpq, hrest⟩
    | node connective us =>
      exact absurd (word_append_inj h).1 (Operator.name_ne_connective _ _)
  | node connective ts ih =>
    cases u with
    | leaf q => exact absurd (word_append_inj h).1.symm (Operator.name_ne_connective _ _)
    | node connective' us =>
      obtain ⟨hword, hbody⟩ := word_append_inj h
      simp only [body, List.append_assoc, List.cons_append, List.nil_append] at hbody
      -- the other child may be any of `us`, and so may be what follows it
      have hchild : ∀ a ∈ ts, ∀ b ∈ us, ∀ r s, a.chars ++ r = b.chars ++ s → a = b ∧ r = s :=
        fun a ha b hb r s heq => ih a ha (ht.child ha) (hu.child hb) heq
      obtain ⟨hts, hrest⟩ :=
        Text.listed_append_inj (by decide) chars_append_ne hchild hbody
      exact ⟨by rw [Connective.name_inj hword, hts], hrest⟩

/-- **The printed form of a tree is unambiguous.**  Whatever characters stand in the values, two
trees of the same printed form are the same, if no field of theirs has a comma in it. -/
theorem display_eq_iff {t u : Tree} (ht : ∀ p ∈ t.leaves, ',' ∉ p.field.toList)
    (hu : ∀ p ∈ u.leaves, ',' ∉ p.field.toList) : t.display = u.display ↔ t = u := by
  constructor
  · intro h
    have hchars : t.chars ++ [] = u.chars ++ [] := by rw [String.ofList_injective h]
    exact (chars_append_inj ht hu hchars).1
  · intro h
    rw [h]

/-- A value that is written like the end of its leaf and the beginning of another one. -/
theorem display_eq_iff_forged :
    (∀ p ∈ (all [.leaf ⟨"a", .equals, .scalar "1"⟩, .leaf ⟨"b", .equals, .scalar "2"⟩]).leaves,
      ',' ∉ p.field.toList) ∧
    (∀ p ∈ (all [.leaf ⟨"a", .equals, .scalar "1\"), EQUALS(b, \"2"⟩]).leaves,
      ',' ∉ p.field.toList) ∧
    (all [.leaf ⟨"a", .equals, .scalar "1"⟩, .leaf ⟨"b", .equals, .scalar "2"⟩]).display ≠
      (all [.leaf ⟨"a", .equals, .scalar "1\"), EQUALS(b, \"2"⟩]).display := by
  have htwo : ∀ p ∈ (all [.leaf ⟨"a", .equals, .scalar "1"⟩,
      .leaf ⟨"b", .equals, .scalar "2"⟩]).leaves, ',' ∉ p.field.toList := by
    rw [leaves_eq_predicates]
    decide
  have hone : ∀ p ∈ (all [.leaf ⟨"a", .equals, .scalar "1\"), EQUALS(b, \"2"⟩]).leaves,
      ',' ∉ p.field.toList := by
    rw [leaves_eq_predicates]
    decide
  exact ⟨htwo, hone, fun h => absurd ((display_eq_iff htwo hone).mp h) (by decide)⟩

/-- A field with a comma can be written like the rest of its leaf. -/
example :
    (all [.leaf ⟨"a", .equals, .scalar "1"⟩, .leaf ⟨"b", .equals, .scalar "2"⟩]).display =
      (all [.leaf ⟨"a, \"1\"), EQUALS(b", .equals, .scalar "2"⟩]).display := by
  decide

end Tree

end FilterQuery
