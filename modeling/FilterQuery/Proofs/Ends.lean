import FilterQuery.Proofs.Cut

/-!
# Where written text ends

What is written is followed by more text, and a reader has to find its end.  Each statement here has
the form `write a ++ r = write b ++ s → a = b ∧ r = s`: whatever follows, the written form tells
what was written and where it ends.

* `stretch_append_inj`: text without a mark ends at the first mark.
* `flatMap_append_inj`: text written part by part ends where no part goes on.
* `listed_append_inj`: texts with commas between them end at the closing mark.

The parts have to have this property themselves, and nothing that may follow the whole may look like
one more part.
-/

namespace FilterQuery.Text

/-- **Text without a mark ends at the first mark.** -/
theorem stretch_append_inj {mark : Char} {as bs r s : List Char} (has : mark ∉ as)
    (hbs : mark ∉ bs) (h : as ++ mark :: r = bs ++ mark :: s) : as = bs ∧ r = s := by
  induction as generalizing bs with
  | nil =>
    cases bs with
    | nil => exact ⟨rfl, List.tail_eq_of_cons_eq h⟩
    | cons b bs => exact absurd (List.head_eq_of_cons_eq h ▸ List.mem_cons_self) hbs
  | cons a as ih =>
    cases bs with
    | nil => exact absurd (List.head_eq_of_cons_eq h ▸ List.mem_cons_self) has
    | cons b bs =>
      rw [List.mem_cons, not_or] at has hbs
      obtain ⟨hab, hrest⟩ := List.cons.inj h
      obtain ⟨rfl, hrs⟩ := ih has.2 hbs.2 hrest
      exact ⟨by rw [hab], hrs⟩

/-- **What is written part by part ends where no part goes on**, if each part can be told from what
follows it, and no part is written like an end. -/
theorem flatMap_append_inj {α : Type} {write : α → List Char} (End : List Char → Prop)
    {as bs : List α} {r s : List Char}
    (hwrite : ∀ a ∈ as, ∀ b ∈ bs, ∀ r s, write a ++ r = write b ++ s → a = b ∧ r = s)
    (hend : ∀ a r, ¬ End (write a ++ r)) (hr : End r) (hs : End s)
    (h : as.flatMap write ++ r = bs.flatMap write ++ s) : as = bs ∧ r = s := by
  induction as generalizing bs with
  | nil =>
    cases bs with
    | nil => exact ⟨rfl, h⟩
    | cons b bs =>
      rw [List.flatMap_nil, List.nil_append, List.flatMap_cons, List.append_assoc] at h
      exact absurd (h ▸ hr) (hend b _)
  | cons a as ih =>
    cases bs with
    | nil =>
      rw [List.flatMap_nil, List.nil_append, List.flatMap_cons, List.append_assoc] at h
      exact absurd (h.symm ▸ hs) (hend a _)
    | cons b bs =>
      rw [List.flatMap_cons, List.append_assoc, List.flatMap_cons, List.append_assoc] at h
      obtain ⟨rfl, hrest⟩ := hwrite a List.mem_cons_self b List.mem_cons_self _ _ h
      obtain ⟨rfl, heq⟩ := ih (fun x hx y hy =>
        hwrite x (List.mem_cons_of_mem a hx) y (List.mem_cons_of_mem a hy)) hrest
      exact ⟨rfl, heq⟩

/-! ### Texts with commas between them -/

section Listed

variable {α : Type} {write : α → List Char} {close : Char} {as bs : List α} {r s : List Char}

theorem listed_cons (a : α) (as : List α) :
    listed ((a :: as).map write) = write a ++ as.flatMap fun b => ',' :: ' ' :: write b := by
  induction as generalizing a with
  | nil => exact (List.append_nil _).symm
  | cons b as ih =>
    have hjoin : listed ((a :: b :: as).map write) =
        write a ++ [',', ' '] ++ listed ((b :: as).map write) := rfl
    rw [hjoin, ih b, List.append_assoc, List.flatMap_cons]
    rfl

/-- **A list ends at the closing mark** if its members tell where they end, and none of them begins
with that mark. -/
theorem listed_append_inj (hclose : close ≠ ',') (hbegin : ∀ a r s, write a ++ r ≠ close :: s)
    (hwrite : ∀ a ∈ as, ∀ b ∈ bs, ∀ r s, write a ++ r = write b ++ s → a = b ∧ r = s)
    (h : listed (as.map write) ++ close :: r = listed (bs.map write) ++ close :: s) :
    as = bs ∧ r = s := by
  cases as with
  | nil =>
    cases bs with
    | nil => exact ⟨rfl, List.tail_eq_of_cons_eq h⟩
    | cons b bs =>
      rw [listed_cons, List.append_assoc] at h
      exact absurd h.symm (hbegin b _ _)
  | cons a as =>
    cases bs with
    | nil =>
      rw [listed_cons, List.append_assoc] at h
      exact absurd h (hbegin a _ _)
    | cons b bs =>
      rw [listed_cons, listed_cons, List.append_assoc, List.append_assoc] at h
      obtain ⟨rfl, hafter⟩ := hwrite a List.mem_cons_self b List.mem_cons_self _ _ h
      have hcomma : ∀ x ∈ as, ∀ y ∈ bs, ∀ r s,
          ',' :: ' ' :: write x ++ r = ',' :: ' ' :: write y ++ s → x = y ∧ r = s := by
        intro x hx y hy r s heq
        simp only [List.cons_append, List.cons.injEq, true_and] at heq
        exact hwrite x (List.mem_cons_of_mem a hx) y (List.mem_cons_of_mem a hy) r s heq
      have hend : ∀ x t, ¬ ∃ rest, ',' :: ' ' :: write x ++ t = close :: rest := by
        rintro x t ⟨rest, heq⟩
        exact hclose (List.head_eq_of_cons_eq heq).symm
      obtain ⟨rfl, hrest⟩ := flatMap_append_inj (fun t => ∃ rest, t = close :: rest) hcomma hend
        ⟨r, rfl⟩ ⟨s, rfl⟩ hafter
      exact ⟨rfl, List.tail_eq_of_cons_eq hrest⟩

end Listed

end FilterQuery.Text
