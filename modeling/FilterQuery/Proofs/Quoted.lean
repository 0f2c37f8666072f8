import FilterQuery.Proofs.Ends
import FilterQuery.Text.Quoted

/-!
# Where quoted text ends

As in `FilterQuery.Proofs.Ends`, what is written tells where it ends, whatever follows:
`quoted_append_inj`.

A character in a quoted text is written in one of three ways, and the first two characters tell
which (`quotedChar_cases`).  A number between braces tells the character: the number can be read off
its digits (`number_toDigits`), and no digit is a brace (`brace_not_mem_toDigits`).
-/

namespace FilterQuery.Text

/-! ### Numbers -/

/-- The number that a digit stands for. -/
def digitValue (c : Char) : Nat := if c.toNat < 97 then c.toNat - 48 else c.toNat - 87

/-- The number that digits stand for. -/
def number (digits : List Char) : Nat := digits.foldl (fun n c => 16 * n + digitValue c) 0

theorem digitValue_digitChar : ∀ k < 16, digitValue (Nat.digitChar k) = k := by decide

theorem digitChar_ne_brace : ∀ k < 16, Nat.digitChar k ≠ '\x7d' := by decide

theorem number_toDigits (n : Nat) : number (Nat.toDigits 16 n) = n := by
  induction n using Nat.strongRecOn with
  | ind n ih =>
    by_cases hn : n < 16
    · rw [Nat.toDigits_of_lt_base hn, number, List.foldl_cons, List.foldl_nil,
        digitValue_digitChar n hn, Nat.mul_zero, Nat.zero_add]
    · have hdiv := ih (n / 16) (by omega)
      rw [number] at hdiv
      rw [Nat.toDigits_of_base_le (by decide) (by omega), number, List.foldl_append, hdiv,
        List.foldl_cons, List.foldl_nil, digitValue_digitChar _ (Nat.mod_lt n (by decide))]
      omega

theorem brace_not_mem_toDigits (n : Nat) : '\x7d' ∉ Nat.toDigits 16 n := by
  induction n using Nat.strongRecOn with
  | ind n ih =>
    by_cases hn : n < 16
    · rw [Nat.toDigits_of_lt_base hn, List.mem_singleton]
      exact (digitChar_ne_brace n hn).symm
    · rw [Nat.toDigits_of_base_le (by decide) (by omega), List.mem_append, List.mem_singleton,
        not_or]
      exact ⟨ih (n / 16) (by omega), (digitChar_ne_brace _ (Nat.mod_lt n (by decide))).symm⟩

/-- **A character written by its number ends at the brace behind the digits.** -/
theorem numbered_append_inj {a b : Char} {r s : List Char}
    (h : numbered a ++ r = numbered b ++ s) : a = b ∧ r = s := by
  simp only [numbered, List.append_assoc, List.cons_append, List.nil_append, List.cons.injEq,
    true_and] at h
  obtain ⟨hdigits, hrest⟩ :=
    stretch_append_inj (brace_not_mem_toDigits _) (brace_not_mem_toDigits _) h
  have hcode : a.toNat = b.toNat := by
    rw [← number_toDigits a.toNat, hdigits, number_toDigits]
  exact ⟨Char.toNat_inj.mp hcode, hrest⟩

/-! ### Quoted text -/

/-- The character that is meant by a backslash and this one. -/
def meant : Char → Char
  | '0' => '\x00'
  | 't' => '\t'
  | 'n' => '\n'
  | 'r' => '\r'
  | c => c

/-- A character stands for itself, being neither backslash nor quote, or it is written with a
backslash, by a letter other than `u` or by its number. -/
theorem quotedChar_cases (c : Char) :
    (quotedChar c = [c] ∧ c ≠ '\\' ∧ c ≠ '"') ∨
      (∃ e, quotedChar c = ['\\', e] ∧ e ≠ 'u' ∧ meant e = c) ∨ quotedChar c = numbered c := by
  unfold quotedChar
  split
  case h_7 hquote hbackslash =>
    split
    · exact .inr (.inr rfl)
    · exact .inl ⟨rfl, hbackslash, hquote⟩
  all_goals exact .inr (.inl ⟨_, rfl, by decide, rfl⟩)

theorem quotedChar_append_inj {a b : Char} {r s : List Char}
    (h : quotedChar a ++ r = quotedChar b ++ s) : a = b ∧ r = s := by
  rcases quotedChar_cases a with ⟨ha, hane, -⟩ | ⟨e, ha, heu, rfl⟩ | ha <;>
    rcases quotedChar_cases b with ⟨hb, hbne, -⟩ | ⟨f, hb, hfu, rfl⟩ | hb <;>
    rw [ha, hb] at h
  -- both by number
  case inr.inr.inr.inr => exact numbered_append_inj h
  all_goals cases h
  · exact ⟨rfl, rfl⟩
  · exact absurd rfl hane
  · exact absurd rfl hane
  · exact absurd rfl hbne
  · exact ⟨rfl, rfl⟩
  · exact absurd rfl heu
  · exact absurd rfl hbne
  · exact absurd rfl hfu

theorem quotedChar_head (c : Char) (t : List Char) : (quotedChar c ++ t).head? ≠ some '"' := by
  rcases quotedChar_cases c with ⟨hw, -, hne⟩ | ⟨e, hw, -⟩ | hw
  · rw [hw]
    exact fun h => hne (Option.some.inj h)
  · rw [hw]
    exact fun h => absurd (Option.some.inj h) (by decide)
  · rw [hw]
    exact fun h => absurd (Option.some.inj h) (by decide)

/-- **Quoted text ends at the first quote without a backslash.** -/
theorem quoted_append_inj {a b r s : List Char} (h : quoted a ++ r = quoted b ++ s) :
    a = b ∧ r = s := by
  simp only [quoted, List.cons_append, List.append_assoc, List.nil_append, List.cons.injEq,
    true_and] at h
  have hends := flatMap_append_inj (fun t => t.head? = some '"')
    (fun a _ b _ r s => quotedChar_append_inj) quotedChar_head rfl rfl h
  exact ⟨hends.1, List.tail_eq_of_cons_eq hends.2⟩

end FilterQuery.Text
