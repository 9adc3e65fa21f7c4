import MapTheme.Proofs.Handles

/-! The edition of a theme that a style holds after a run: the document of the last load
that succeeded, with all that it was compiled with, unless a clear came after it. What
the style's sheet is made of are the drawings of this document, in document order. -/
namespace MapTheme

/-- A document, and what it is compiled with. -/
structure Edition where
  workshop : Workshop
  root : Element

namespace Edition

def findings (e : Edition) : List Finding := e.workshop.themeFindings e.root

/-- What the places of the document draw, in document order. -/
def drawn (e : Edition) : List (Selector × Drawing) :=
  e.root.descendants.filterMap e.workshop.drawnAt?

end Edition

/-- The edition that an operation puts in place, if it succeeds. -/
def Operation.edition? : Operation → Option Edition
  | .load keys images settings root => some ⟨root.workshop keys images settings, root⟩
  | .loadText keys images settings text =>
    (Markup.parse text).toOption.map fun root => ⟨root.workshop keys images settings, root⟩
  | .clear => none
  | .query _ => none

namespace Style

/-- The edition that is held after a run, if there was one before it. -/
def edition (s : Style) (held : Option Edition) : List Operation → Option Edition
  | [] => held
  | op :: ops => (s.apply op).edition (if s.replacedBy op then op.edition? else held) ops

/-- Whether a style is that of an edition; without one it is empty. -/
def Holds (s : Style) (held : Option Edition) : Prop :=
  s.sheet = .ofFindings s.generation (held.elim [] Edition.findings)

variable {s : Style} {held : Option Edition} {keys : Dictionary} {images : Images}
  {settings : Settings}

theorem reload_holds (holds : s.Holds held) (root : Element) :
    (s.reload keys images settings root).1.Holds
      (if (s.reload keys images settings root).2.isOk then
        some ⟨root.workshop keys images settings, root⟩ else held) := by
  rw [reload]
  split
  · exact rfl
  · exact holds

/-- One operation keeps the edition, or puts its own in place. -/
theorem apply_holds (holds : s.Holds held) (op : Operation) :
    (s.apply op).Holds (if s.replacedBy op then op.edition? else held) := by
  cases op with
  | load keys images settings root => exact reload_holds holds root
  | loadText keys images settings text =>
    rw [replacedBy, apply, reloadText, Operation.edition?]
    cases Markup.parse text with
    | error fault => exact holds
    | ok root => exact reload_holds holds root
  | clear => rfl
  | query q => exact holds

theorem run_holds (holds : s.Holds held) (ops : List Operation) :
    (s.run ops).Holds (s.edition held ops) := by
  induction ops generalizing s held with
  | nil => exact holds
  | cons op ops ih => exact ih (apply_holds holds op)

theorem new_holds : ({} : Style).Holds none := rfl

/-- The instructions of a style are the drawings of its document, in document order. -/
theorem instructions_drawn (holds : s.Holds held) :
    s.sheet.instructions.toList.map (fun i => (i.selector, i.drawing)) =
      held.elim [] Edition.drawn := by
  rw [instructions_arranged holds, map_arrange]
  cases held with
  | none => rfl
  | some e => exact e.workshop.drawn_themeFindings e.root

end Style
end MapTheme
