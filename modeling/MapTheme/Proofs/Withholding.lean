import MapTheme.Proofs.Counting

/-! What is left out of a theme and counted as such: rules that the menu does not enable, and
labels that no feature can show. Neither images nor sizes have a part in it. -/
namespace MapTheme

/-- The same workshop with other images and sizes. -/
def Workshop.presenting (w : Workshop) (images : Images) (settings : Settings) : Workshop :=
  { w with images, settings }

namespace Finding

/-- Whether a finding is of a rule that is not enabled or of a label that is never shown. -/
def withheld (f : Finding) : Bool := f.isPruned || f.isSkipped

private theorem filter_withheld (findings : List Finding) :
    findings.filter withheld = (findings.filter counted).filter withheld := by
  rw [List.filter_filter]
  refine List.filter_congr fun f _ => ?_
  cases f with
  | notice n => cases n <;> rfl
  | unplaceable => rfl
  | drawn selector drawing => rfl

end Finding

namespace Workshop

variable {w : Workshop} {images : Images} {settings : Settings}

/-- Only labels withhold anything, and that for the sake of their keys and rules. -/
theorem withheld_lack (s : Selector) (e : Element) :
    ((w.presenting images settings).lack? s e).toList.filter Finding.withheld =
      (w.lack? s e).toList.filter Finding.withheld := by
  unfold lack?
  split
  · split <;> split <;> rfl
  · rfl
  · rfl
  · split <;> split <;> rfl
  · rfl

private theorem withheld_loss (p : Place) :
    ((w.presenting images settings).loss? p).toList.filter Finding.withheld =
      (w.loss? p).toList.filter Finding.withheld := by
  let v := w.presenting images settings
  cases ruled : p.ruled w.categories with
  | false =>
    have other : p.ruled v.categories = false := ruled
    simp [loss?, v, other, ruled]
  | true =>
    have other : p.ruled v.categories = true := ruled
    have enabled : v.enables p.element = w.enables p.element := rfl
    simp only [loss?, v, other, ruled, enabled, if_true]
    split
    · rfl
    · split
      · rfl
      · exact withheld_lack (w.selector p.trail) p.element

private theorem withheld_own (w : Workshop) (p : Place) :
    (w.ownFindings p).filter Finding.withheld = (w.loss? p).toList.filter Finding.withheld := by
  have shown : ((w.drawnAt? p).map fun drawn => Finding.drawn drawn.1 drawn.2).toList.filter
      Finding.withheld = [] := by
    cases w.drawnAt? p <;> rfl
  rw [Finding.filter_withheld, counted_own, List.filter_append, shown, List.append_nil]

theorem withheld_theme (root : Element) :
    ((w.presenting images settings).themeFindings root).filter Finding.withheld =
      (w.themeFindings root).filter Finding.withheld := by
  rw [themeFindings_places, themeFindings_places, List.filter_flatMap, List.filter_flatMap]
  simp only [withheld_own, withheld_loss]

theorem counts_presenting {p : Finding → Bool} (kept : ∀ f, p f = true → f.withheld = true)
    (root : Element) :
    (w.themeFindings root).countP p =
      ((w.presenting images settings).themeFindings root).countP p := by
  rw [← countP_kept kept, ← withheld_theme, countP_kept kept]

end Workshop

end MapTheme
