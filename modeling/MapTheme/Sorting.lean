/-! Stable sorting by a key. Sorting loses nothing and keeps what has the same key in
order as it was, so it makes no difference whether one selects before it or after it:
`filter_sortBy`. -/
namespace MapTheme

variable {α : Type}

def insertBy (key : α → Int) (a : α) : List α → List α
  | [] => [a]
  | b :: bs => if key a ≤ key b then a :: b :: bs else b :: insertBy key a bs

def sortBy (key : α → Int) (as : List α) : List α := as.foldr (insertBy key) []

/-- Nothing comes before what stands left of it. -/
def Ascending (key : α → Int) (as : List α) : Prop := as.Pairwise (key · ≤ key ·)

variable {key : α → Int}

theorem insertBy_perm (a : α) (bs : List α) : (insertBy key a bs).Perm (a :: bs) := by
  induction bs with
  | nil => exact .refl _
  | cons b bs ih =>
    rw [insertBy]
    split
    · exact .refl _
    · exact (ih.cons b).trans (.swap a b bs)

theorem sortBy_perm (as : List α) : (sortBy key as).Perm as := by
  induction as with
  | nil => exact .refl _
  | cons a as ih => exact (insertBy_perm a (sortBy key as)).trans (ih.cons a)

@[simp] theorem mem_sortBy {a : α} {as : List α} : a ∈ sortBy key as ↔ a ∈ as :=
  (sortBy_perm as).mem_iff

@[simp] theorem length_sortBy (as : List α) : (sortBy key as).length = as.length :=
  (sortBy_perm as).length_eq

theorem insertBy_ascending (a : α) {bs : List α} (h : Ascending key bs) :
    Ascending key (insertBy key a bs) := by
  induction bs with
  | nil => exact List.pairwise_singleton _ a
  | cons b bs ih =>
    obtain ⟨first, rest⟩ := List.pairwise_cons.mp h
    rw [insertBy]
    split
    · next low =>
      refine List.pairwise_cons.mpr ⟨fun c member => ?_, h⟩
      rcases List.mem_cons.mp member with rfl | inside
      · exact low
      · exact Int.le_trans low (first c inside)
    · next high =>
      refine List.pairwise_cons.mpr ⟨fun c member => ?_, ih rest⟩
      rcases List.mem_cons.mp ((insertBy_perm a bs).mem_iff.mp member) with rfl | inside
      · exact Int.le_of_lt (Int.not_le.mp high)
      · exact first c inside

theorem sortBy_ascending (as : List α) : Ascending key (sortBy key as) := by
  induction as with
  | nil => exact .nil
  | cons a as ih => exact insertBy_ascending a ih

theorem insertBy_of_first {a : α} {bs : List α} (first : ∀ b ∈ bs, key a ≤ key b) :
    insertBy key a bs = a :: bs := by
  cases bs with
  | nil => rfl
  | cons b bs => rw [insertBy, if_pos (first b List.mem_cons_self)]

theorem sortBy_of_ascending {as : List α} (h : Ascending key as) : sortBy key as = as := by
  induction as with
  | nil => rfl
  | cons a as ih =>
    obtain ⟨first, rest⟩ := List.pairwise_cons.mp h
    have tail : List.foldr (insertBy key) [] as = as := ih rest
    rw [sortBy, List.foldr_cons, tail, insertBy_of_first first]

theorem filter_insertBy (keep : α → Bool) (a : α) {bs : List α} (h : Ascending key bs) :
    (insertBy key a bs).filter keep =
      if keep a then insertBy key a (bs.filter keep) else bs.filter keep := by
  induction bs with
  | nil => cases kept : keep a <;> simp [insertBy, kept]
  | cons b bs ih =>
    obtain ⟨first, rest⟩ := List.pairwise_cons.mp h
    rw [insertBy]
    split
    · next low =>
      have all : ∀ c ∈ (b :: bs).filter keep, key a ≤ key c := fun c member => by
        rcases List.mem_cons.mp (List.mem_filter.mp member).1 with rfl | inside
        · exact low
        · exact Int.le_trans low (first c inside)
      rw [insertBy_of_first all, List.filter_cons]
    · next high =>
      rw [List.filter_cons, ih rest, List.filter_cons]
      cases keep b <;> cases keep a <;> simp [insertBy, high]

theorem filter_sortBy (keep : α → Bool) (as : List α) :
    (sortBy key as).filter keep = sortBy key (as.filter keep) := by
  induction as with
  | nil => rfl
  | cons a as ih =>
    have step : (sortBy key (a :: as)).filter keep = (insertBy key a (sortBy key as)).filter keep :=
      rfl
    rw [step, filter_insertBy keep a (sortBy_ascending as), ih, List.filter_cons]
    split <;> rfl

end MapTheme
