import FilterQuery.Clause.Basic

/-!
# What a clause can ask

`Clause.read_eq_ok` takes a reading that succeeded apart into its stages.  From it: the value of a
clause always has the shape of its operator (`fits_of_read`), and a clause never asks for a range
unless that is the standard operator (`op_ne_range_of_read`).
-/

namespace FilterQuery

theorem Operator.ne_range_of_ofClauseCode? {code : String} {op : Operator}
    (h : ofClauseCode? code = some op) : op ≠ range := by
  rintro rfl
  have hmem : range ∈ all.erase range := List.mem_of_find?_eq_some h
  exact absurd hmem (by decide)

namespace Clause

theorem read_eq_ok {marks : Punctuation} {standard : Operator} {text : String} {clause : Clause} :
    read marks standard text = .ok clause ↔
      ∃ aliasText code raw, parts text.toList = .ok (aliasText, code, raw) ∧
        Text.trim aliasText ≠ [] ∧ operatorOf standard code = .ok clause.op ∧
        (valueOf marks raw).fits clause.op.arity = true ∧
        clause = ⟨String.ofList (Text.trim aliasText), clause.op, valueOf marks raw⟩ := by
  rw [read]
  cases parts text.toList with
  | error fault => simp
  | ok cut =>
    obtain ⟨aliasText, code, raw⟩ := cut
    simp only [Except.ok.injEq, Prod.mk.injEq]
    by_cases hempty : Text.trim aliasText = []
    · simp [hempty]
    · rw [if_neg (by simpa using hempty)]
      cases hop : operatorOf standard code with
      | error fault =>
        refine iff_of_false (by simp) ?_
        rintro ⟨_, _, _, ⟨rfl, rfl, rfl⟩, -, hop', -⟩
        simp [hop] at hop'
      | ok op =>
        simp only
        by_cases hfits : (valueOf marks raw).fits op.arity = true
        · rw [if_pos hfits, Except.ok.injEq]
          constructor
          · rintro rfl
            exact ⟨_, _, _, ⟨rfl, rfl, rfl⟩, hempty, hop, hfits, rfl⟩
          · rintro ⟨_, _, _, ⟨rfl, rfl, rfl⟩, -, hop', -, hclause⟩
            rw [hclause, Except.ok.inj (hop.symm.trans hop')]
        · rw [if_neg hfits]
          refine iff_of_false (by simp) ?_
          rintro ⟨_, _, _, ⟨rfl, rfl, rfl⟩, -, hop', hfits', -⟩
          rw [← Except.ok.inj (hop.symm.trans hop')] at hfits'
          exact hfits hfits'

variable {marks : Punctuation} {standard : Operator} {text : String} {clause : Clause}

/-- **The value of a clause has the shape of its operator.** -/
theorem fits_of_read (h : read marks standard text = .ok clause) :
    clause.value.fits clause.op.arity = true := by
  obtain ⟨aliasText, code, raw, -, -, -, hfits, hclause⟩ := read_eq_ok.mp h
  rw [hclause]
  exact hfits

/-- **A clause does not ask for a range.** -/
theorem op_ne_range_of_read (hstandard : standard ≠ .range)
    (h : read marks standard text = .ok clause) : clause.op ≠ .range := by
  obtain ⟨aliasText, code, raw, -, -, hop, -⟩ := read_eq_ok.mp h
  cases code with
  | none =>
    rw [operatorOf, Except.ok.injEq] at hop
    exact hop ▸ hstandard
  | some code =>
    rw [operatorOf] at hop
    split at hop
    · next op hcode =>
      rw [← Except.ok.inj hop]
      exact Operator.ne_range_of_ofClauseCode? hcode
    · cases hop

end Clause

end FilterQuery
