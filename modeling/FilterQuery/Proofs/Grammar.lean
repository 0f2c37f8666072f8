import FilterQuery.Clause.Grammar
import FilterQuery.Proofs.Clauses
import FilterQuery.Proofs.Cut
import FilterQuery.Proofs.Results
import FilterQuery.Search
import Mathlib.Logic.ExistsUnique

/-!
# Reading follows the grammar

`Clause.read` finds what the grammar says is there, for any punctuation and any standard operator,
and for any text at all: `Piece.read_classified`.  Every text is read in exactly one way.

The reader is taken apart as it is built.  Each stage has one equivalence with its relation:
`form?_eq_some`, `parts_eq_ok`, `operatorOf_eq_ok`, `listItems?_eq_some`, `valueOf_fits`.  That the
rules exclude each other is then no work of its own, since a text has one reading.
-/

namespace FilterQuery

namespace Clause

/-! ### The first separator -/

theorem form?_cons {c : Char} {rest : List Char} (hcolon : c ≠ ':')
    (hmark : ¬ (c = '_' ∧ rest.head? = some '_')) :
    form? (c :: rest) = (form? rest).map (Form.push c) := by
  refine form?.eq_3 c rest hcolon ?_
  rintro tail rfl rfl
  exact hmark ⟨rfl, rfl⟩

theorem form?_eq_none {text : List Char} :
    form? text = none ↔ ':' ∉ text ∧ ¬ ['_', '_'] <:+: text := by
  fun_induction form? text with
  | case1 rest => simp
  | case2 rest => exact iff_of_false (by simp) fun h => h.2 ⟨[], rest, rfl⟩
  | case3 c rest hcolon hmark ih =>
    have hhead := Text.not_mark_of_pattern hmark
    rw [Option.map_eq_none_iff, ih, List.mem_cons, Text.mark_infix_cons, not_or, not_or]
    constructor
    · rintro ⟨hc, hm⟩
      exact ⟨⟨fun e => hcolon e.symm, hc⟩, hhead, hm⟩
    · rintro ⟨⟨-, hc⟩, -, hm⟩
      exact ⟨hc, hm⟩
  | case4 => simp

/-- A character that is no separator, alone or with the next one, goes to the alias. -/
theorem HasForm.push {c : Char} {rest : List Char} {form : Form} (h : HasForm rest form)
    (hcolon : c ≠ ':') (hmark : ¬ (c = '_' ∧ rest.head? = some '_')) :
    HasForm (c :: rest) (form.push c) := by
  cases h with
  | @plain a value ha hm =>
    refine @HasForm.plain (c :: a) value (by simp [ha, Ne.symm hcolon]) fun hin => ?_
    rcases Text.mark_infix_cons.mp hin with ⟨hc, hnext⟩ | hin
    · exact hmark ⟨hc, by rw [List.head?_append, hnext]; rfl⟩
    · exact hm hin
  | @directive a tail ha hm =>
    refine @HasForm.directive (c :: a) tail (by simp [ha, Ne.symm hcolon]) fun hin => ?_
    rcases Text.mark_infix_cons.mp hin with ⟨hc, hnext⟩ | hin
    · -- what comes next is the same with the whole mark behind the alias as with half of it
      refine hmark ⟨hc, ?_⟩
      rw [← hnext]
      cases a <;> rfl
    · exact hm hin

theorem foldr_push_plain (before aliasText value : List Char) :
    before.foldr Form.push (.plain aliasText value) = .plain (before ++ aliasText) value := by
  induction before with
  | nil => rfl
  | cons c before ih => rw [List.foldr_cons, ih]; rfl

theorem foldr_push_directive (before aliasText rest : List Char) :
    before.foldr Form.push (.directive aliasText rest) = .directive (before ++ aliasText) rest := by
  induction before with
  | nil => rfl
  | cons c before ih => rw [List.foldr_cons, ih]; rfl

/-- Text in which no separator begins goes to the alias. -/
theorem form?_append {before : List Char} {c : Char} {rest : List Char} (hcolon : ':' ∉ before)
    (hmark : ¬ ['_', '_'] <:+: before ++ [c]) :
    form? (before ++ c :: rest) = (form? (c :: rest)).map (before.foldr Form.push) := by
  induction before with
  | nil => exact Option.map_id'.symm
  | cons b before ih =>
    rw [List.mem_cons, not_or] at hcolon
    rw [List.cons_append, Text.mark_infix_cons, not_or] at hmark
    rw [List.cons_append, form?_cons (Ne.symm hcolon.1), ih hcolon.2 hmark.2, Option.map_map]
    · rfl
    · rintro ⟨rfl, hnext⟩
      exact hmark.1 ⟨rfl, by simpa using hnext⟩

theorem HasForm.form? {text : List Char} {form : Form} (h : HasForm text form) :
    form? text = some form := by
  cases h with
  | @plain a value hcolon hmark =>
    have hbefore : ¬ ['_', '_'] <:+: a ++ [':'] := by
      rw [Text.mark_infix_concat]
      rintro (hin | ⟨-, hc⟩)
      · exact hmark hin
      · cases hc
    rw [form?_append hcolon hbefore, Clause.form?, Option.map_some, foldr_push_plain,
      List.append_nil]
  | @directive a rest hcolon hmark =>
    rw [form?_append hcolon hmark, Clause.form?, Option.map_some, foldr_push_directive,
      List.append_nil]

theorem form?_eq_some {text : List Char} {form : Form} :
    form? text = some form ↔ HasForm text form := by
  refine ⟨fun h => ?_, HasForm.form?⟩
  fun_induction form? text generalizing form with
  | case1 rest =>
    cases h
    exact @HasForm.plain [] rest List.not_mem_nil (by decide)
  | case2 rest =>
    cases h
    exact @HasForm.directive [] rest List.not_mem_nil (by decide)
  | case3 c rest hcolon hmark ih =>
    obtain ⟨inner, hinner, rfl⟩ := Option.map_eq_some_iff.mp h
    exact (ih hinner).push hcolon (Text.not_mark_of_pattern hmark)
  | case4 => cases h

/-! ### The parts -/

theorem parts_eq_ok {text : List Char} {cut : List Char × Option (List Char) × List Char} :
    parts text = .ok cut ↔ Cuts text cut := by
  constructor
  · intro h
    rw [parts] at h
    split at h
    · cases h
    · next a value hform =>
      cases h
      exact .plain (form?_eq_some.mp hform)
    · next a rest hform =>
      split at h
      · cases h
      · next code value hcut =>
        cases h
        obtain ⟨rfl, hclosed⟩ := Text.cutMark?_eq_some.mp hcut
        exact .directive (form?_eq_some.mp hform) hclosed
  · intro h
    cases h with
    | plain h => rw [parts, h.form?]
    | directive h hclosed =>
      rw [parts, h.form?]
      simp only [Text.cutMark?_eq_some.mpr ⟨rfl, hclosed⟩]

theorem parts_of_no_separator {text : List Char} (hcolon : ':' ∉ text)
    (hmark : ¬ ['_', '_'] <:+: text) : parts text = .error .missingSeparator := by
  rw [parts, form?_eq_none.mpr ⟨hcolon, hmark⟩]

theorem parts_of_open {text aliasText rest : List Char}
    (hform : HasForm text (.directive aliasText rest)) (hopen : ¬ ['_', '_'] <:+: rest) :
    parts text = .error .unterminatedOperator := by
  rw [parts, hform.form?]
  simp only [Text.cutMark?_eq_none.mpr hopen]

variable {marks : Punctuation} {standard : Operator}

theorem reads_of_parts_eq_error {text : List Char} {fault : Fault}
    (h : parts text = .error fault) : Reads marks standard text (.error fault) := by
  rw [parts] at h
  split at h
  · next hform =>
    cases h
    obtain ⟨hcolon, hmark⟩ := form?_eq_none.mp hform
    exact .missingSeparator hcolon hmark
  · cases h
  · next a rest hform =>
    split at h
    · next hcut =>
      cases h
      exact .unterminatedOperator (form?_eq_some.mp hform) (Text.cutMark?_eq_none.mp hcut)
    · cases h

/-! ### The operator -/

theorem operatorOf_eq_ok {code : Option (List Char)} {op : Operator} :
    operatorOf standard code = .ok op ↔ Names standard code op := by
  constructor
  · intro h
    cases code with
    | none =>
      rw [operatorOf, Except.ok.injEq] at h
      exact h ▸ .standard
    | some code =>
      rw [operatorOf] at h
      split at h
      · next found hfound =>
        cases h
        have hcode : op.code = String.ofList code := by
          simpa using List.find?_some hfound
        have hchars : code = op.code.toList := by rw [hcode, String.toList_ofList]
        exact hchars ▸ .code (Operator.ne_range_of_ofClauseCode? hfound)
      · cases h
  · intro h
    cases h with
    | standard => rfl
    | code h => rw [operatorOf, String.ofList_toList, Operator.ofClauseCode?_code h]

theorem operatorOf_eq_error {code : Option (List Char)} {fault : Fault}
    (h : operatorOf standard code = .error fault) :
    ∃ chars, code = some chars ∧ fault = .unknownOperator (String.ofList chars) ∧
      ∀ op, ¬ Names standard (some chars) op := by
  cases code with
  | none => cases h
  | some chars =>
    refine ⟨chars, rfl, ?_, fun op hop => ?_⟩
    · rw [operatorOf] at h
      split at h
      · cases h
      · exact (Except.error.inj h).symm
    · rw [operatorOf_eq_ok.mpr hop] at h
      cases h

/-! ### The value -/

theorem unbracket?_eq_some {text inner : List Char} :
    unbracket? marks text = some inner ↔ text = marks.listOpen :: inner ++ [marks.listClose] := by
  cases text with
  | nil => simp [unbracket?]
  | cons c rest =>
    rw [unbracket?, List.cons_append, List.cons.injEq]
    split
    · next h =>
      obtain ⟨before, hbefore⟩ := List.getLast?_eq_some_iff.mp h.2
      rw [and_iff_right h.1, hbefore, List.dropLast_concat, Option.some.injEq, List.append_left_inj]
    · next h =>
      refine iff_of_false (by simp) ?_
      rintro ⟨hc, hrest⟩
      exact h ⟨hc, by rw [hrest, List.getLast?_concat]⟩

theorem listItems?_eq_some {text : List Char} {items : List (List Char)} :
    listItems? marks text = some items ↔ Lists marks text items := by
  rw [listItems?, Option.map_eq_some_iff]
  constructor
  · rintro ⟨inner, hinner, hitems⟩
    rw [unbracket?_eq_some] at hinner
    subst hinner
    split at hitems
    · next hblank => exact hitems ▸ .empty hblank
    · next hblank =>
      obtain ⟨-, hfree, hjoin⟩ :=
        Text.split_eq_iff.mp (rfl : Text.split marks.delimiter inner = Text.split _ inner)
      have hlist := Lists.items hfree (by rw [hjoin]; simpa using hblank)
      rw [hjoin] at hlist
      exact hitems ▸ hlist
  · intro h
    cases h with
    | @empty inner hblank => exact ⟨inner, unbracket?_eq_some.mpr rfl, by rw [if_pos hblank]⟩
    | @items stretches hfree hblank =>
      refine ⟨Text.join [marks.delimiter] stretches, unbracket?_eq_some.mpr rfl, ?_⟩
      have hne : stretches ≠ [] := by
        rintro rfl
        cases hblank
      rw [if_neg (by simp [hblank]), Text.split_eq_iff.mpr ⟨hne, hfree, rfl⟩]

theorem listItems?_isSome {text : List Char} :
    (listItems? marks text).isSome ↔ Bracketed marks text := by
  rw [listItems?, Option.isSome_map, Option.isSome_iff_exists, Bracketed]
  exact exists_congr fun inner => unbracket?_eq_some

/-- **A text has a value of the right shape exactly if it gives one.** -/
theorem valueOf_fits {raw : List Char} {arity : Arity} {value : Value} :
    valueOf marks raw = value ∧ value.fits arity = true ↔ Gives marks raw arity value := by
  constructor
  · rintro ⟨rfl, hfits⟩
    cases hitems : listItems? marks raw with
    | none =>
      have hraw : ¬ Bracketed marks raw := by simp [← listItems?_isSome, hitems]
      cases arity with
      | scalar => simpa [valueOf, hitems] using Gives.scalar hraw
      | list | pair => simp [valueOf, hitems, Value.fits] at hfits
    | some items =>
      have hlist := listItems?_eq_some.mp hitems
      cases arity with
      | scalar => simp [valueOf, hitems, Value.fits] at hfits
      | list => simpa [valueOf, hitems] using Gives.list hlist
      | pair =>
        have htwo : items.length = 2 := by simpa [valueOf, hitems, Value.fits] using hfits
        simpa [valueOf, hitems] using Gives.pair hlist htwo
  · intro h
    cases h with
    | scalar h =>
      rw [← listItems?_isSome, Option.not_isSome_iff_eq_none] at h
      simp [valueOf, h, Value.fits]
    | list h => simp [valueOf, listItems?_eq_some.mpr h, Value.fits]
    | pair h htwo => simp [valueOf, listItems?_eq_some.mpr h, Value.fits, htwo]

theorem exists_gives_iff {raw : List Char} {arity : Arity} :
    (∃ value, Gives marks raw arity value) ↔ ¬ Misshapen marks raw arity := by
  cases arity with
  | scalar =>
    constructor
    · rintro ⟨value, hvalue⟩
      cases hvalue with
      | scalar h => exact h
    · exact fun h => ⟨_, .scalar h⟩
  | list =>
    rw [Misshapen, Classical.not_not, ← listItems?_isSome, Option.isSome_iff_exists]
    constructor
    · rintro ⟨value, hvalue⟩
      cases hvalue with
      | list h => exact ⟨_, listItems?_eq_some.mpr h⟩
    · rintro ⟨items, hitems⟩
      exact ⟨_, .list (listItems?_eq_some.mp hitems)⟩
  | pair =>
    rw [Misshapen, Classical.not_not]
    constructor
    · rintro ⟨value, hvalue⟩
      cases hvalue with
      | pair h htwo => exact ⟨_, h, htwo⟩
    · rintro ⟨items, hitems, htwo⟩
      exact ⟨_, .pair hitems htwo⟩

/-! ### The whole clause -/

/-- What is left to look at when the alias is there: first the operator, then the value. -/
theorem read_of_cuts {text : String} {aliasText raw : List Char} {code : Option (List Char)}
    (hcut : Cuts text.toList (aliasText, code, raw))
    (halias : Text.isAllBlank aliasText = false) :
    read marks standard text =
      match operatorOf standard code with
      | .error fault => .error fault
      | .ok op =>
        if (valueOf marks raw).fits op.arity then
          .ok ⟨String.ofList (Text.trim aliasText), op, valueOf marks raw⟩
        else .error (.shapeMismatch op) := by
  have hne : ¬ (Text.trim aliasText).isEmpty = true := by simp [Text.trim_eq_nil, halias]
  rw [read, parts_eq_ok.mpr hcut]
  exact if_neg hne

theorem reads_read (text : String) :
    Reads marks standard text.toList (read marks standard text) := by
  rw [read]
  split
  · next fault hparts => exact reads_of_parts_eq_error hparts
  · next a code raw hparts =>
    have hcut := parts_eq_ok.mp hparts
    simp only [List.isEmpty_iff, Text.trim_eq_nil]
    split
    · next hblank => exact .emptyAlias hcut hblank
    · next hblank =>
      rw [Bool.not_eq_true] at hblank
      split
      · next fault hop =>
        obtain ⟨chars, rfl, rfl, hcode⟩ := operatorOf_eq_error hop
        exact .unknownOperator hcut hblank hcode
      · next op hop =>
        have hnames := operatorOf_eq_ok.mp hop
        split
        · next hfits => exact .clause hcut hblank hnames (valueOf_fits.mp ⟨rfl, hfits⟩)
        · next hfits =>
          refine .shapeMismatch hcut hblank hnames (Classical.not_not.mp fun hshape => ?_)
          obtain ⟨value, hvalue⟩ := exists_gives_iff.mpr hshape
          obtain ⟨rfl, h⟩ := valueOf_fits.mpr hvalue
          exact hfits h

theorem Reads.read {text : String} {result : Except Fault Clause}
    (h : Reads marks standard text.toList result) : read marks standard text = result := by
  cases h with
  | missingSeparator hcolon hmark => rw [Clause.read, parts_of_no_separator hcolon hmark]
  | unterminatedOperator hform hopen => rw [Clause.read, parts_of_open hform hopen]
  | emptyAlias hcut hblank =>
    rw [Clause.read, parts_eq_ok.mpr hcut]
    simp [Text.trim_eq_nil.mpr hblank]
  | unknownOperator hcut halias hcode =>
    rw [read_of_cuts hcut halias]
    cases hop : operatorOf standard (some _) with
    | error fault =>
      obtain ⟨chars, hchars, rfl, -⟩ := operatorOf_eq_error hop
      cases hchars
      rfl
    | ok op => exact absurd (operatorOf_eq_ok.mp hop) (hcode op)
  | shapeMismatch hcut halias hop hshape =>
    rw [read_of_cuts hcut halias, operatorOf_eq_ok.mpr hop]
    refine if_neg fun hfits => ?_
    exact exists_gives_iff.mp ⟨_, valueOf_fits.mp ⟨rfl, hfits⟩⟩ hshape
  | clause hcut halias hop hvalue =>
    obtain ⟨rfl, hfits⟩ := valueOf_fits.mpr hvalue
    rw [read_of_cuts hcut halias, operatorOf_eq_ok.mpr hop]
    exact if_pos hfits

theorem read_eq_iff {text : String} {result : Except Fault Clause} :
    read marks standard text = result ↔ Reads marks standard text.toList result :=
  ⟨fun h => h ▸ reads_read text, Reads.read⟩

end Clause

/-- **Every piece is read in exactly one way, the one that the grammar gives to its text**, and a
fault is reported with the piece it was found in. -/
theorem Piece.read_classified (marks : Punctuation) (standard : Operator) (piece : Piece) :
    (∃! result, Clause.Reads marks standard piece.text.toList result) ∧
    ∀ result, piece.read marks standard = result.mapError (.malformed piece) ↔
      Clause.Reads marks standard piece.text.toList result := by
  constructor
  · refine ⟨Clause.read marks standard piece.text, Clause.reads_read piece.text, ?_⟩
    exact fun result h => h.read.symm
  · intro result
    rw [← Clause.read_eq_iff, Piece.read]
    exact Results.mapError_inj fun a b h => (SearchError.malformed.inj h).2

example : Clause.read {} .equals "a___co__b" = .error (.unknownOperator "_co") := by rfl

end FilterQuery
