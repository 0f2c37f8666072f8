import FilterQuery.Proofs.Quotes
import FilterQuery.Proofs.Results

/-!
# A statement is read in one way only

* `select_inj`: two statements of the same text select from the same table, and the trees behind
  them are the same condition, whatever characters stand in the names and values.
* `Condition.readsToEnd`: a condition can be told from its text where that text ends.

A join is written without parentheses as far as reading from the left gives it back, so its text is
a chain: operands with one word between them all.  `operands` takes a condition apart in this way,
`joinAll_operands` puts it together again, and `guarded_chars` is its text.  An operand is a single
condition or stands in parentheses, and either way its text says where it ends (`Reads`).  A whole
condition does not say so, since its chain may go on: it is told apart only where the text stops or
a parenthesis closes (`Ends`, `ReadsToEnd`).

The induction is on the condition, and its hypothesis covers all operands of a chain at once: those
of a left side belong to the chain of the whole.
-/

namespace FilterQuery.Sql

namespace Condition

/-- Neither AND nor OR joins the condition. -/
def Single (c : Condition) : Prop := ∀ connective left right, c ≠ .join connective left right

/-- The text of a condition on the right of a join. -/
def operandText (c : Condition) : List Char := guarded c.guardedRight c.chars

/-- The conditions that one word joins from the left; a condition joined otherwise is alone. -/
def operands (connective : Connective) : Condition → List Condition
  | .join inner left right =>
    if inner = connective then operands connective left ++ [right] else [.join inner left right]
  | c => [c]

/-- The word between operands. -/
def joint (connective : Connective) : List Char := ' ' :: connective.name.toList ++ [' ']

/-- Operands with the word before each but the first. -/
def chain (connective : Connective) : List Condition → List Char
  | [] => []
  | first :: rest =>
    first.operandText ++ rest.flatMap fun c => joint connective ++ c.operandText

theorem operands_of_single {c : Condition} (h : c.Single) (connective : Connective) :
    c.operands connective = [c] := by
  cases c with
  | join inner left right => exact absurd rfl (h inner left right)
  | _ => rfl

theorem operands_join (connective : Connective) (left right : Condition) :
    (join connective left right).operands connective = left.operands connective ++ [right] := by
  rw [operands, if_pos rfl]

theorem operands_ne_nil (connective : Connective) (c : Condition) :
    c.operands connective ≠ [] := by
  unfold operands
  split
  · split
    · exact List.append_ne_nil_of_right_ne_nil _ (List.cons_ne_nil _ _)
    · exact List.cons_ne_nil _ _
  · exact List.cons_ne_nil _ _

/-- **A chain of operands joined from the left is the condition they were taken from.** -/
theorem joinAll_operands (connective : Connective) (c : Condition) :
    joinAll connective (c.operands connective) = c := by
  induction c with
  | join inner left right ihl _ =>
    rw [operands]
    split
    · next h =>
      subst h
      obtain ⟨first, rest, heq⟩ := List.exists_cons_of_ne_nil (operands_ne_nil inner left)
      rw [heq, joinAll] at ihl
      rw [heq, List.cons_append, joinAll, List.foldl_append, ihl]
      rfl
    · rfl
  | _ => rfl

theorem chain_concat (connective : Connective) {cs : List Condition} (h : cs ≠ [])
    (c : Condition) :
    chain connective (cs ++ [c]) = chain connective cs ++ (joint connective ++ c.operandText) := by
  cases cs with
  | nil => exact absurd rfl h
  | cons first rest => simp [chain]

/-- **The left side of a join is written as the chain of its operands.** -/
theorem guarded_chars (connective : Connective) (c : Condition) :
    guarded (c.guardedLeft connective) c.chars = chain connective (c.operands connective) := by
  induction c with
  | join inner left right ihl _ =>
    rw [operands, guardedLeft]
    by_cases h : inner = connective
    · -- the same word again: the chain of the left side goes on
      subst h
      rw [if_pos rfl, chain_concat inner (operands_ne_nil inner left), ← ihl]
      simp [guarded, chars, joint, operandText]
    · -- the other word: the whole join is one operand, in parentheses
      rw [if_neg h]
      simp [chain, operandText, guardedRight, guarded, h]
  | _ => simp [operands, chain, operandText, guardedLeft, guardedRight]

theorem chars_join (connective : Connective) (left right : Condition) :
    (join connective left right).chars =
      chain connective (left.operands connective ++ [right]) := by
  rw [← operands_join, ← guarded_chars]
  simp [guarded, guardedLeft]

/-! ### Single comparisons -/

/-- The column that a comparison begins with. -/
def column? : Condition → Option Column
  | .compare column .. | .like column _ | .isIn column _ | .notIn column _
  | .between column .. => some column
  | .constant _ | .join .. => none

/-- The text of a comparison after its column and a blank. -/
def afterColumn : Condition → List Char
  | .compare _ comparison literal =>
    comparison.sign.toList ++ ' ' :: quotedLiteral literal.toList
  | .like _ pattern =>
    "LIKE ".toList ++ quotedLiteral pattern.toList ++ " ESCAPE ".toList
      ++ quotedLiteral [likeEscape]
  | .isIn _ literals => "IN (".toList ++ literalsText literals ++ [')']
  | .notIn _ literals => "NOT IN (".toList ++ literalsText literals ++ [')']
  | .between _ lower upper =>
    "BETWEEN ".toList ++ quotedLiteral lower.toList ++ " AND ".toList
      ++ quotedLiteral upper.toList
  | .constant _ | .join .. => []

theorem Single.constant_or_column {c : Condition} (h : c.Single) :
    (∃ value, c = constant value) ∨ ∃ column, c.column? = some column := by
  cases c with
  | join connective left right => exact absurd rfl (h connective left right)
  | constant value => exact .inl ⟨value, rfl⟩
  | compare | like | isIn | notIn | between => exact .inr ⟨_, rfl⟩

theorem chars_of_column {c : Condition} {column : Column} (h : c.column? = some column) :
    c.chars = columnText column ++ ' ' :: c.afterColumn := by
  cases c with
  | constant | join => cases h
  | compare | like | isIn | notIn | between =>
    obtain rfl := Option.some.inj h
    unfold afterColumn
    simp [chars]

theorem Single.chars_ne_paren {c : Condition} (h : c.Single) (r s : List Char) :
    c.chars ++ r ≠ '(' :: s := by
  obtain ⟨value, rfl⟩ | ⟨column, hcolumn⟩ := h.constant_or_column
  · cases value <;> simp [chars]
  · rw [chars_of_column hcolumn, List.append_assoc]
    exact columnText_append_ne (by decide)

theorem constant_append_inj {value : Bool} {c : Condition} (hc : c.Single) {r s : List Char}
    (h : (constant value).chars ++ r = c.chars ++ s) : constant value = c ∧ r = s := by
  obtain ⟨value', rfl⟩ | ⟨column, hcolumn⟩ := hc.constant_or_column
  · cases value <;> cases value' <;> simp_all [chars]
  · rw [chars_of_column hcolumn, List.append_assoc] at h
    cases value <;> exact absurd h.symm (columnText_append_ne (by decide))

theorem sign_append_inj {a b : Comparison} {r s : List Char}
    (h : a.sign.toList ++ ' ' :: r = b.sign.toList ++ ' ' :: s) : a = b ∧ r = s := by
  cases a <;> cases b <;> simp_all [Comparison.sign]

theorem sign_append_ne {comparison : Comparison} {c : Char} {r s : List Char}
    (h : c = 'L' ∨ c = 'I' ∨ c = 'N' ∨ c = 'B') : comparison.sign.toList ++ r ≠ c :: s := by
  obtain rfl | rfl | rfl | rfl := h <;> cases comparison <;> simp [Comparison.sign]

/-- **After the column, a comparison tells which one it is and where it ends.** -/
theorem afterColumn_append_inj {c c' : Condition} {column : Column}
    (hc : c.column? = some column) (hc' : c'.column? = some column) {r s : List Char}
    (h : c.afterColumn ++ r = c'.afterColumn ++ s) : c = c' ∧ r = s := by
  unfold afterColumn at h
  cases c <;> simp only [column?, Option.some.injEq, reduceCtorEq] at hc <;> subst hc <;>
    cases c' <;> simp only [column?, Option.some.injEq, reduceCtorEq] at hc' <;> subst hc' <;>
    simp only [String.reduceToList, List.append_assoc, List.cons_append, List.nil_append,
      List.cons.injEq, Char.reduceEq, true_and, false_and] at h
  case compare.compare =>
    obtain ⟨rfl, hliteral⟩ := sign_append_inj h
    obtain ⟨hl, rfl⟩ := quotedLiteral_append_inj hliteral
    exact ⟨by rw [String.toList_injective hl], rfl⟩
  case like.like =>
    obtain ⟨hpattern, hafter⟩ := quotedLiteral_append_inj h
    exact ⟨by rw [String.toList_injective hpattern], by simpa using hafter⟩
  case isIn.isIn | notIn.notIn =>
    obtain ⟨rfl, rfl⟩ := literalsText_append_inj h
    exact ⟨rfl, rfl⟩
  case between.between =>
    obtain ⟨hlower, hafter⟩ := quotedLiteral_append_inj h
    simp only [List.cons.injEq, true_and] at hafter
    obtain ⟨hupper, rfl⟩ := quotedLiteral_append_inj hafter
    exact ⟨by rw [String.toList_injective hlower, String.toList_injective hupper], rfl⟩
  -- a sign on one side and a word on the other
  case compare.like | compare.isIn | compare.notIn | compare.between =>
    exact absurd h (sign_append_ne (by decide))
  case like.compare | isIn.compare | notIn.compare | between.compare =>
    exact absurd h.symm (sign_append_ne (by decide))

/-- **The text of a single comparison tells which one it is and where it ends.** -/
theorem Single.chars_append_inj {c c' : Condition} (hc : c.Single) (hc' : c'.Single)
    {r s : List Char} (h : c.chars ++ r = c'.chars ++ s) : c = c' ∧ r = s := by
  obtain ⟨value, rfl⟩ | ⟨column, hcolumn⟩ := hc.constant_or_column
  · exact constant_append_inj hc' h
  obtain ⟨value, rfl⟩ | ⟨column', hcolumn'⟩ := hc'.constant_or_column
  · exact (constant_append_inj hc h.symm).imp Eq.symm Eq.symm
  rw [chars_of_column hcolumn, chars_of_column hcolumn', List.append_assoc, List.append_assoc] at h
  obtain ⟨rfl, hafter⟩ := columnText_append_inj h
  exact afterColumn_append_inj hcolumn hcolumn' hafter

/-! ### Operands and chains -/

/-- The text stops here, or a parenthesis closes. -/
def Ends (r : List Char) : Prop := ∀ c ∈ r.head?, c = ')'

/-- As an operand the condition tells which one it is and where it ends. -/
def Reads (c : Condition) : Prop :=
  ∀ ⦃c' r s⦄, c.operandText ++ r = c'.operandText ++ s → c = c' ∧ r = s

/-- Where the text ends, the condition tells which one it is. -/
def ReadsToEnd (c : Condition) : Prop :=
  ∀ ⦃c' r s⦄, Ends r → Ends s → c.chars ++ r = c'.chars ++ s → c = c' ∧ r = s

theorem Ends.ne_joint {r : List Char} (h : Ends r) (connective : Connective) (s : List Char) :
    r ≠ joint connective ++ s := by
  rintro rfl
  exact absurd (h ' ' rfl) (by decide)

theorem joint_append_inj {a b : Connective} {r s : List Char}
    (h : joint a ++ r = joint b ++ s) : a = b ∧ r = s := by
  cases a <;> cases b <;> simp_all [joint, Connective.name]

theorem exists_join_of_not_single {c : Condition} (h : ¬ c.Single) :
    ∃ connective left right, c = join connective left right := by
  simpa [Single] using h

theorem single_of_not_guardedRight {c : Condition} (h : ¬ c.guardedRight) : c.Single := by
  rintro connective left right rfl
  exact h rfl

/-- **An operand is read if it is read to its end**: its own text ends at its parenthesis. -/
theorem ReadsToEnd.reads {c : Condition} (h : c.ReadsToEnd) : c.Reads := by
  intro c' r s heq
  have hends : ∀ t, Ends (')' :: t) := fun t x hx => (Option.some.inj hx).symm
  unfold operandText guarded at heq
  split at heq <;> split at heq
  · simp only [List.cons_append, List.append_assoc, List.cons.injEq, true_and] at heq
    obtain ⟨hc, hrest⟩ := h (hends _) (hends _) heq
    exact ⟨hc, List.tail_eq_of_cons_eq hrest⟩
  · next hc' =>
    exact absurd heq.symm ((single_of_not_guardedRight hc').chars_ne_paren _ _)
  · next hc _ => exact absurd heq ((single_of_not_guardedRight hc).chars_ne_paren _ _)
  · next hc hc' =>
    exact (single_of_not_guardedRight hc).chars_append_inj (single_of_not_guardedRight hc') heq

/-- The text of a join begins with an operand and the word after it. -/
theorem exists_join_chars (connective : Connective) (left right : Condition) :
    ∃ (first second : Condition) (rest : List Condition),
      left.operands connective ++ [right] = first :: second :: rest ∧
        (join connective left right).chars = chain connective (first :: second :: rest) := by
  obtain ⟨first, rest, heq⟩ := List.exists_cons_of_ne_nil (operands_ne_nil connective left)
  obtain ⟨second, rest', heq'⟩ :=
    List.exists_cons_of_ne_nil (List.append_ne_nil_of_right_ne_nil rest (List.cons_ne_nil right []))
  have hoperands : left.operands connective ++ [right] = first :: second :: rest' := by
    rw [heq, List.cons_append, heq']
  exact ⟨first, second, rest', hoperands, by rw [chars_join, hoperands]⟩

/-- **No single comparison that ends is a join.** -/
theorem Single.chars_ne_join {c : Condition} (h : c.Single) {connective : Connective}
    {left right : Condition} {r s : List Char} (hr : Ends r) :
    c.chars ++ r ≠ (join connective left right).chars ++ s := by
  intro heq
  obtain ⟨first, second, rest, -, hchars⟩ := exists_join_chars connective left right
  rw [hchars, chain, List.append_assoc] at heq
  unfold operandText guarded at heq
  split at heq
  · exact h.chars_ne_paren _ _ heq
  · next hfirst =>
    obtain ⟨-, hrest⟩ := h.chars_append_inj (single_of_not_guardedRight hfirst) heq
    rw [List.flatMap_cons, List.append_assoc, List.append_assoc] at hrest
    exact hr.ne_joint connective _ hrest

/-- **What follows the first operand is read to its end**, one word and one operand at a time. -/
theorem rest_append_inj {connective : Connective} {cs cs' : List Condition}
    (h : ∀ c ∈ cs, c.Reads) {r s : List Char} (hr : Ends r) (hs : Ends s)
    (heq : cs.flatMap (fun c => joint connective ++ c.operandText) ++ r =
      cs'.flatMap (fun c => joint connective ++ c.operandText) ++ s) : cs = cs' ∧ r = s := by
  have hoperand : ∀ c ∈ cs, ∀ c' ∈ cs', ∀ r s,
      (joint connective ++ c.operandText) ++ r = (joint connective ++ c'.operandText) ++ s →
        c = c' ∧ r = s := by
    intro c hc c' _ r s heq
    rw [List.append_assoc, List.append_assoc, List.append_cancel_left_eq] at heq
    exact h c hc heq
  refine Text.flatMap_append_inj Ends hoperand (fun c t hends => ?_) hr hs heq
  exact hends.ne_joint connective (c.operandText ++ t) (List.append_assoc ..)

/-- **A join is read to its end if its operands are read.** -/
theorem readsToEnd_join {connective : Connective} {left right : Condition}
    (h : ∀ c ∈ left.operands connective ++ [right], c.Reads) :
    (join connective left right).ReadsToEnd := by
  intro c' r s hr hs heq
  by_cases hsingle : c'.Single
  · exact absurd heq.symm (hsingle.chars_ne_join hs)
  obtain ⟨connective', left', right', rfl⟩ := exists_join_of_not_single hsingle
  obtain ⟨first, second, rest, hoperands, hchars⟩ := exists_join_chars connective left right
  obtain ⟨first', second', rest', hoperands', hchars'⟩ :=
    exists_join_chars connective' left' right'
  rw [hoperands] at h
  rw [hchars, hchars', chain, chain, List.append_assoc, List.append_assoc] at heq
  obtain ⟨rfl, hafter⟩ := h first List.mem_cons_self heq
  have hword : connective = connective' := by
    simp only [List.flatMap_cons, List.append_assoc] at hafter
    exact (joint_append_inj hafter).1
  subst hword
  obtain ⟨hrest, rfl⟩ :=
    rest_append_inj (fun c hc => h c (List.mem_cons_of_mem first hc)) hr hs hafter
  have hsame : (join connective left right).operands connective =
      (join connective left' right').operands connective := by
    rw [operands_join, operands_join, hoperands, hoperands', hrest]
  exact ⟨by rw [← joinAll_operands connective (join connective left right), hsame,
    joinAll_operands], rfl⟩

theorem Single.readsToEnd {c : Condition} (h : c.Single) : c.ReadsToEnd := by
  intro c' r s hr _ heq
  by_cases hsingle : c'.Single
  · exact h.chars_append_inj hsingle heq
  · obtain ⟨connective, left, right, rfl⟩ := exists_join_of_not_single hsingle
    exact absurd heq (h.chars_ne_join hr)

theorem Single.operands_read {c : Condition} (h : c.Single) (connective : Connective) :
    ∀ operand ∈ c.operands connective, operand.Reads := by
  rw [operands_of_single h]
  exact List.forall_mem_singleton.2 h.readsToEnd.reads

/-- **Every condition is read to its end**, and so are all operands of the chain that it begins. -/
theorem readsToEnd (c : Condition) :
    c.ReadsToEnd ∧ ∀ connective, ∀ operand ∈ c.operands connective, operand.Reads := by
  induction c with
  | join inner left right ihl ihr =>
    have hinner : ∀ operand ∈ (join inner left right).operands inner, operand.Reads := by
      intro operand hoperand
      rw [operands_join, List.mem_append, List.mem_singleton] at hoperand
      obtain hleft | rfl := hoperand
      · exact ihl.2 inner operand hleft
      · exact ihr.1.reads
    have hwhole : (join inner left right).ReadsToEnd :=
      readsToEnd_join (by rwa [operands_join] at hinner)
    refine ⟨hwhole, fun connective operand hoperand => ?_⟩
    -- under its own word the join is a chain of operands, under the other word it is alone
    by_cases h : inner = connective
    · subst h
      exact hinner operand hoperand
    · rw [operands, if_neg h, List.mem_singleton] at hoperand
      exact hoperand ▸ hwhole.reads
  | constant | compare | like | isIn | notIn | between =>
    refine ⟨Single.readsToEnd ?_, fun _ => Single.operands_read ?_ _⟩ <;>
      exact fun _ _ _ h => by cases h

end Condition

/-! ### Statements -/

/-- **A statement tells its table and its condition.** -/
theorem selectText_inj {table table' : String} {c c' : Condition}
    (h : selectText table c = selectText table' c') : table = table' ∧ c = c' := by
  have hchars := String.ofList_injective h
  simp only [List.append_assoc, List.append_cancel_left_eq] at hchars
  obtain ⟨htable, hafter⟩ := quotedName_append_inj (by simp) (by simp) hchars
  simp only [List.append_cancel_left_eq] at hafter
  have hends : Condition.Ends [] := fun _ h => by cases h
  refine ⟨String.toList_injective htable, (c.readsToEnd.1 hends hends ?_).1⟩
  rw [List.append_nil, List.append_nil, hafter]

/-- **A statement is read in one way only.**  Whatever characters stand in the tables, fields and
values, two statements of the same text select from one table, and the trees behind them are the
same condition. -/
theorem select_inj {table table' : String} {t t' : Tree} {text : String}
    (h : select table t = .ok text) (h' : select table' t' = .ok text) :
    table = table' ∧ ∃ c, compile t = .ok c ∧ compile t' = .ok c := by
  obtain ⟨c, hc, htext⟩ := Results.map_eq_ok.1 h
  obtain ⟨c', hc', htext'⟩ := Results.map_eq_ok.1 h'
  obtain ⟨htable, rfl⟩ := selectText_inj (htext.trans htext'.symm)
  exact ⟨htable, c, hc, hc'⟩

/-- A value that tries to close its literal, alone and as the only child of a node. -/
theorem select_inj_hostile :
    "t\"" = "t\"" ∧ ∃ c, compile (.leaf ⟨"a\"", .equals, .scalar "' OR \\'"⟩) = .ok c ∧
      compile (.all [.leaf ⟨"a\"", .equals, .scalar "' OR \\'"⟩]) = .ok c := by
  have hleaf : select "t\"" (.leaf ⟨"a\"", .equals, .scalar "' OR \\'"⟩) =
      .ok "SELECT * FROM \"t\"\"\" WHERE \"a\"\"\" = E'\\' OR \\\\\\''" := rfl
  have hall : select "t\"" (.all [.leaf ⟨"a\"", .equals, .scalar "' OR \\'"⟩]) =
      .ok "SELECT * FROM \"t\"\"\" WHERE \"a\"\"\" = E'\\' OR \\\\\\''" := rfl
  exact select_inj hleaf hall

end FilterQuery.Sql
