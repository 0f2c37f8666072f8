import FilterQuery.Tree.Basic

/-!
# Three truth values

A comparison with a missing value is neither true nor false, so conditions are read with a third
value.  `Truth.and` and `Truth.or` are the tables for two values.  `Connective.gather` reads any
number of values at once, without an order: the decisive value wins, then the unknown one.

`gather_cons` and `foldl_apply` tie the two together, and `not_gather` is De Morgan's law.
-/

namespace FilterQuery

/-- What a condition says of a row. -/
inductive Truth
  | no
  | unknown
  | yes
  deriving DecidableEq, Repr

namespace Truth

/-- Both. -/
protected def and : Truth → Truth → Truth
  | yes, v => v
  | v, yes => v
  | no, _ => no
  | _, no => no
  | unknown, unknown => unknown

/-- At least one. -/
protected def or : Truth → Truth → Truth
  | no, v => v
  | v, no => v
  | yes, _ => yes
  | _, yes => yes
  | unknown, unknown => unknown

/-- The opposite; what is unknown stays so. -/
protected def not : Truth → Truth
  | no => yes
  | unknown => unknown
  | yes => no

end Truth

namespace Connective

/-- Two values joined. -/
def apply : Connective → Truth → Truth → Truth
  | .and => Truth.and
  | .or => Truth.or

/-- The value of no values at all; it changes nothing that it is joined to. -/
def neutral : Connective → Truth
  | .and => .yes
  | .or => .no

/-- The value that settles the matter wherever it occurs. -/
def decisive : Connective → Truth
  | .and => .no
  | .or => .yes

/-- **All values joined**: decisive if one of them is, else unknown if one of them is, and else the
neutral value, also where there are none. -/
def gather (connective : Connective) (vs : List Truth) : Truth :=
  if connective.decisive ∈ vs then connective.decisive
  else if .unknown ∈ vs then .unknown
  else connective.neutral

/-- The other connective. -/
def dual : Connective → Connective
  | .and => .or
  | .or => .and

variable (connective : Connective)

@[simp] theorem gather_nil : connective.gather [] = connective.neutral := rfl

@[simp] theorem neutral_apply (v : Truth) : connective.apply connective.neutral v = v := by
  cases connective <;> cases v <;> rfl

theorem apply_assoc (u v w : Truth) :
    connective.apply (connective.apply u v) w = connective.apply u (connective.apply v w) := by
  cases connective <;> cases u <;> cases v <;> cases w <;> rfl

/-- **Values can be joined one after the other.** -/
theorem gather_cons (v : Truth) (vs : List Truth) :
    connective.gather (v :: vs) = connective.apply v (connective.gather vs) := by
  unfold gather
  by_cases hd : connective.decisive ∈ vs
  · rw [if_pos (List.mem_cons_of_mem _ hd), if_pos hd]
    cases connective <;> cases v <;> rfl
  · by_cases hu : .unknown ∈ vs
    · rw [if_neg hd, if_pos hu, if_pos (List.mem_cons_of_mem _ hu)]
      cases connective <;> cases v <;> simp_all [decisive, apply, Truth.and, Truth.or]
    · rw [if_neg hd, if_neg hu]
      cases connective <;> cases v <;> simp_all [decisive, neutral, apply, Truth.and, Truth.or]

/-- Joining from the left, as the text of a statement does, gives the same. -/
theorem foldl_apply (v : Truth) (vs : List Truth) :
    vs.foldl connective.apply v = connective.apply v (connective.gather vs) := by
  induction vs generalizing v with
  | nil => cases connective <;> cases v <;> rfl
  | cons w vs ih => rw [List.foldl_cons, ih, gather_cons, apply_assoc]

/-- The order of the values does not matter. -/
theorem gather_perm {vs ws : List Truth} (h : vs.Perm ws) :
    connective.gather vs = connective.gather ws := by
  simp only [gather, h.mem_iff]

theorem not_apply (u v : Truth) :
    (connective.apply u v).not = connective.dual.apply u.not v.not := by
  cases connective <;> cases u <;> cases v <;> rfl

/-- **Not all is some not**, and the other way round. -/
theorem not_gather (vs : List Truth) :
    (connective.gather vs).not = connective.dual.gather (vs.map Truth.not) := by
  induction vs with
  | nil => cases connective <;> rfl
  | cons v vs ih => rw [gather_cons, not_apply, ih, List.map_cons, gather_cons]

end Connective

end FilterQuery
