import Mathlib.Data.List.Forall2
import Mathlib.Data.List.TakeWhile
import MapTheme.Proofs.Numeral
import MapTheme.Text.Split
import MapTheme.Value

/-! Lists of numbers are read piece by piece: no literal holds a comma or a gap, so the reader
that goes from literal to literal comes to what the pieces between the commas denote, each one
without the gaps around it. -/
namespace MapTheme.Value
open Decimal

private theorem stops_comma : Stops ',' := ⟨by decide, by decide, by decide⟩

private theorem stops_gap {c : Char} (gap : isGap c = true) : Stops c := by
  rw [isGap, Bool.or_eq_true, decide_eq_true_eq, decide_eq_true_eq] at gap
  rcases gap with rfl | rfl <;> exact ⟨by decide, by decide, by decide⟩

section
variable {cs piece : List Char} {l : Literal} {ls : List Literal}

private theorem scan_gaps {gaps : List Char} (all : ∀ c ∈ gaps, isGap c = true) (cs : List Char) :
    scan (cs ++ gaps) = (scan cs).map fun (l, after) => (l, after ++ gaps) := by
  cases gaps with
  | nil => simp
  | cons g gaps => exact scan_stop (stops_gap (all g List.mem_cons_self)) cs

/-- A text is a literal but for the gaps at its end if no more than gaps follow on the literal
that it starts with. -/
theorem read?_trimRight : read? (Text.trimRight isGap cs) = some l ↔
    ∃ after, scan cs = some (l, after) ∧ after.dropWhile isGap = [] := by
  obtain ⟨gaps, whole, all⟩ := Text.trimRight_append isGap cs
  have last : ∀ c, (Text.trimRight isGap cs).getLast? = some c → isGap c = false :=
    fun _ => Text.trimRight_last
  generalize Text.trimRight isGap cs = core at *
  subst whole
  rw [read?_eq_some, scan_gaps all]
  constructor
  · intro scanned
    exact ⟨gaps, by rw [scanned]; rfl, List.dropWhile_eq_nil_iff.mpr all⟩
  · rintro ⟨after, scanned, only⟩
    obtain ⟨⟨_, rest⟩, begun, same⟩ := Option.map_eq_some_iff.mp scanned
    obtain ⟨rfl, rfl⟩ := Prod.mk.inj same
    obtain ⟨text, cut, _⟩ := scan_split begun
    -- What is left over ends with a gap, while the trimmed text does not.
    have ended : rest = [] := by
      by_contra some
      have found := List.getLast?_eq_some_getLast some
      have gap := List.dropWhile_eq_nil_iff.mp only _
        (List.mem_append_left _ (List.mem_of_getLast? found))
      have other := last _ (by rw [cut, List.getLast?_append_of_ne_nil _ some, found])
      rw [gap] at other
      contradiction
    rw [begun, ended]

private theorem shorter_tail {after tail : List Char}
    (scanned : scan (cs.dropWhile isGap) = some (l, after))
    (comma : after.dropWhile isGap = ',' :: tail) : tail.length < cs.length := by
  obtain ⟨text, cut, _⟩ := scan_split scanned
  have gaps := List.length_dropWhile_le isGap cs
  have more := List.length_dropWhile_le isGap after
  rw [comma, List.length_cons] at more
  rw [cut, List.length_append] at gaps
  omega

/-- A list is a literal and either gaps alone or another list after a comma. -/
theorem literals?_eq_some : literals? cs = some ls ↔
    ∃ l after, scan (cs.dropWhile isGap) = some (l, after) ∧
      ((after.dropWhile isGap = [] ∧ ls = [l]) ∨
        ∃ tail more, after.dropWhile isGap = ',' :: tail ∧ literals? tail = some more ∧
          ls = l :: more) := by
  constructor
  · intro read
    rw [literals?] at read
    split at read
    · contradiction
    · next l after scanned =>
      refine ⟨l, after, scanned, ?_⟩
      split at read
      · next only => exact .inl ⟨only, (Option.some.inj read).symm⟩
      · next tail comma =>
        rw [dif_pos (shorter_tail scanned comma)] at read
        obtain ⟨more, others, same⟩ := Option.map_eq_some_iff.mp read
        exact .inr ⟨tail, more, comma, others, same.symm⟩
      · contradiction
  · rintro ⟨l, after, scanned, ⟨only, rfl⟩ | ⟨tail, more, comma, read, rfl⟩⟩
    · rw [literals?, scanned]
      dsimp only
      rw [only]
    · have unfolded : literals? cs =
          if _shorter : tail.length < cs.length then (literals? tail).map (l :: ·) else none := by
        rw [literals?, scanned]
        dsimp only
        rw [comma]
        rfl
      rw [unfolded, dif_pos (shorter_tail scanned comma), read]
      rfl

private theorem mem_of_left {c : Char} {after : List Char}
    (scanned : scan (cs.dropWhile isGap) = some (l, after)) (left : c ∈ after.dropWhile isGap) :
    c ∈ cs := by
  obtain ⟨text, cut, _⟩ := scan_split scanned
  have inside : c ∈ after := (List.dropWhile_sublist isGap).mem left
  have behind : c ∈ cs.dropWhile isGap := cut ▸ List.mem_append_right text inside
  exact (List.dropWhile_sublist isGap).mem behind

private theorem literals?_last (last : ',' ∉ cs) : literals? cs = some ls ↔
    ∃ l, read? (Text.trimBoth isGap cs) = some l ∧ ls = [l] := by
  rw [literals?_eq_some]
  constructor
  · rintro ⟨l, after, scanned, ⟨only, rfl⟩ | ⟨tail, more, comma, _⟩⟩
    · exact ⟨l, read?_trimRight.mpr ⟨after, scanned, only⟩, rfl⟩
    · exact absurd (mem_of_left scanned (comma ▸ List.mem_cons_self)) last
  · rintro ⟨l, read, rfl⟩
    obtain ⟨after, scanned, only⟩ := read?_trimRight.mp read
    exact ⟨l, after, scanned, .inl ⟨only, rfl⟩⟩

private theorem literals?_comma (own : ',' ∉ piece) : literals? (piece ++ ',' :: cs) = some ls ↔
    ∃ l more, read? (Text.trimBoth isGap piece) = some l ∧ literals? cs = some more ∧
      ls = l :: more := by
  have stop : isGap ',' = false := by decide
  rw [literals?_eq_some, dropWhile_stop _ stop, scan_stop stops_comma]
  constructor
  · rintro ⟨l, after, scanned, rest⟩
    obtain ⟨⟨_, before⟩, begun, same⟩ := Option.map_eq_some_iff.mp scanned
    obtain ⟨rfl, rfl⟩ := Prod.mk.inj same
    rw [dropWhile_stop _ stop] at rest
    rcases rest with ⟨only, _⟩ | ⟨tail, more, comma, read, rfl⟩
    · exact absurd only (List.append_ne_nil_of_right_ne_nil _ (List.cons_ne_nil _ _))
    · -- The comma is the one after the piece, since there is none in the piece.
      cases only : before.dropWhile isGap with
      | nil =>
        rw [only] at comma
        obtain ⟨_, rfl⟩ := List.cons.inj comma
        exact ⟨_, more, read?_trimRight.mpr ⟨before, begun, only⟩, read, rfl⟩
      | cons c left =>
        rw [only] at comma
        obtain ⟨rfl, _⟩ := List.cons.inj comma
        exact absurd (mem_of_left begun (only ▸ List.mem_cons_self)) own
  · rintro ⟨l, more, own, read, rfl⟩
    obtain ⟨after, scanned, only⟩ := read?_trimRight.mp own
    refine ⟨l, after ++ ',' :: cs, by rw [scanned]; rfl, .inr ⟨cs, more, ?_, read, rfl⟩⟩
    rw [dropWhile_stop _ stop, only, List.nil_append]

private theorem literals?_pieces : literals? cs = some ls ↔
    List.Forall₂ (fun piece l => read? (Text.trimBoth isGap piece) = some l)
      (Text.split ',' cs) ls := by
  have own : ∀ piece ∈ Text.split ',' cs, ',' ∉ piece := fun _ => Text.not_mem_of_mem_split
  have some := Text.split_ne_nil ',' cs
  have joined := Text.join_split ',' cs
  generalize Text.split ',' cs = pieces at *
  subst joined
  induction pieces generalizing ls with
  | nil => contradiction
  | cons piece pieces ih =>
    obtain ⟨mine, others⟩ := List.forall_mem_cons.mp own
    cases pieces with
    | nil =>
      rw [Text.join, literals?_last mine, List.forall₂_cons_left_iff]
      simp
    | cons next pieces =>
      have ih := fun ls => @ih ls others (List.cons_ne_nil _ _)
      rw [Text.join, literals?_comma mine, List.forall₂_cons_left_iff]
      · simp only [ih]
      · exact List.cons_ne_nil _ _

end

/-- The length that a text denotes: positive, and neither infinite nor no number. -/
def Measures (piece : List Char) (x : Float) : Prop :=
  ∃ l, Denotes piece l ∧ x = l.toFloat ∧ x.isFinite = true ∧ 0 < x

/-- The texts between the commas, without the gaps around them. -/
def pieces (text : String) : List (List Char) :=
  (Text.split ',' (Text.trim text.toList)).map (Text.trimBoth isGap)

private theorem measures_iff {piece : List Char} {x : Float} :
    Measures piece x ↔ ∃ l, read? piece = some l ∧ x = l.toFloat ∧ isLength x = true := by
  have nan : isLength Literal.nan.toFloat = false := by decide +kernel
  simp only [isLength, Bool.and_eq_true, decide_eq_true_eq]
  constructor
  · rintro ⟨l, denoted, rfl, positive⟩
    have number : l ≠ .nan := by
      rintro rfl
      simp [isLength, positive] at nan
    exact ⟨l, (read?_denoted number).mpr denoted, rfl, positive⟩
  · rintro ⟨l, read, rfl, positive⟩
    have number : l ≠ .nan := by
      rintro rfl
      simp [isLength, positive] at nan
    exact ⟨l, (read?_denoted number).mp read, rfl, positive⟩

theorem lengths?_eq_some {text : String} {lengths : List Float} :
    lengths? text = some lengths ↔ List.Forall₂ Measures (pieces text) lengths := by
  rw [lengths?, Option.filter_eq_some_iff, Option.map_eq_some_iff, pieces, List.forall₂_map_left_iff]
  simp only [literals?_pieces, measures_iff]
  generalize Text.split ',' (Text.trim text.toList) = pieces
  constructor
  · rintro ⟨⟨ls, read, rfl⟩, all⟩
    induction read with
    | nil => exact .nil
    | cons first _ ih =>
      rw [List.map_cons, List.all_cons, Bool.and_eq_true] at all
      exact .cons ⟨_, first, rfl, all.1⟩ (ih all.2)
  · intro measured
    induction measured with
    | nil => exact ⟨⟨[], .nil, rfl⟩, rfl⟩
    | cons first _ ih =>
      obtain ⟨l, read, rfl, positive⟩ := first
      obtain ⟨⟨ls, reads, rfl⟩, all⟩ := ih
      exact ⟨⟨l :: ls, .cons read reads, rfl⟩, by rw [List.all_cons, positive, all, Bool.and_self]⟩

private theorem exists_measured {texts : List (List Char)} :
    (∃ lengths, List.Forall₂ Measures texts lengths) ↔ ∀ piece ∈ texts, ∃ x, Measures piece x := by
  constructor
  · rintro ⟨lengths, measured⟩
    induction measured with
    | nil => nofun
    | cons first _ ih => exact List.forall_mem_cons.mpr ⟨⟨_, first⟩, ih⟩
  · intro each
    induction texts with
    | nil => exact ⟨[], .nil⟩
    | cons piece texts ih =>
      obtain ⟨⟨x, measured⟩, others⟩ := List.forall_mem_cons.mp each
      obtain ⟨lengths, rest⟩ := ih others
      exact ⟨x :: lengths, .cons measured rest⟩

/-- A list of lengths is read piece by piece, and one piece that is no length is enough for
nothing to be read. -/
theorem lengths_piecewise (text : String) :
    (∀ lengths, lengths? text = some lengths ↔ List.Forall₂ Measures (pieces text) lengths) ∧
    (lengths? text = none ↔ ∃ piece ∈ pieces text, ∀ x, ¬ Measures piece x) := by
  refine ⟨fun _ => lengths?_eq_some, ?_⟩
  rw [Option.eq_none_iff_forall_ne_some]
  constructor
  · intro nothing
    by_contra every
    push Not at every
    obtain ⟨lengths, measured⟩ := exists_measured.mpr every
    exact nothing lengths (lengths?_eq_some.mpr measured)
  · rintro ⟨piece, here, immeasurable⟩ lengths read
    obtain ⟨x, measured⟩ := exists_measured.mp ⟨lengths, lengths?_eq_some.mp read⟩ piece here
    exact immeasurable x measured

end MapTheme.Value
