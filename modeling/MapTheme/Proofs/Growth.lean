import MapTheme.Proofs.Handles
import MapTheme.Proofs.Rounding

/-! Which sizes of a path grow with the zoom level. The documentation lets nothing grow, or the
width alone, or the width, the dashes and the offset. The second of these modes is the one that
lines have by default, and there the offset grows with the width. So the sizes are as documented
just where growing leaves the offset as it is, for one thing up to the reference level. -/
namespace MapTheme

private theorem ScaleMode.map_stretchDash (mode : ScaleMode) (scale : ZoomScale) (zoom : Nat)
    (sizes : List Float) :
    sizes.map (mode.stretchDash scale zoom) =
      if mode = .all then sizes.map (· * scale.factor zoom) else sizes := by
  split
  · next whole =>
    apply List.map_congr_left
    intro size _
    rw [stretchDash, if_pos whole]
  · next part =>
    apply List.map_id''
    intro size
    rw [stretchDash, if_neg part]

private theorem ZoomScale.factor_low {scale : ZoomScale} {zoom : Nat}
    (low : zoom ≤ scale.reference) :
    scale.factor zoom = 1.0 := if_pos low

namespace Path

/-- The sizes that the documentation gives a path where what grows does so by a factor. -/
def Documented (p : Path) (factor : Float) (pen : Pen) (offset : Float) : Prop :=
  match p.mode with
  | .fixed => pen.width = p.width ∧ pen.dash = p.dash ∧ offset = p.offset
  | .stroke => pen.width = p.width * factor ∧ pen.dash = p.dash ∧ offset = p.offset
  | .all => pen.width = p.width * factor ∧ pen.dash = p.dash.map (· * factor) ∧
      offset = p.offset * factor

section
variable {p : Path} {zoom : Nat} {pen : Pen}

theorem pen_eq_some : p.pen zoom = some pen ↔
    p.stroke = some pen.color ∧ pen.width = p.mode.stretch p.scale zoom p.width ∧
      pen.dash = p.dash.map (p.mode.stretchDash p.scale zoom) ∧
      pen.cap = p.cap ∧ pen.join = p.join := by
  unfold Path.pen
  constructor
  · intro drawn
    obtain ⟨color, stroked, rfl⟩ := Option.map_eq_some_iff.mp drawn
    exact ⟨stroked, rfl, rfl, rfl, rfl⟩
  · rintro ⟨stroked, width, dash, cap, join⟩
    rw [stroked, ← width, ← dash, ← cap, ← join]
    rfl

theorem documented_iff (drawn : p.pen zoom = some pen) :
    p.Documented (p.scale.factor zoom) pen (p.offsetAt zoom) ↔
      (p.mode = .stroke → p.offset * p.scale.factor zoom = p.offset) := by
  obtain ⟨_, width, dash, _⟩ := pen_eq_some.mp drawn
  rw [ScaleMode.map_stretchDash] at dash
  unfold Documented offsetAt ScaleMode.stretch
  unfold ScaleMode.stretch at width
  -- The documentation and the program differ in the mode of the stroke, and there in the offset.
  cases mode : p.mode with
  | fixed => simp_all
  | stroke => simp_all
  | all => simp_all

end

/-- A path with a stroke has the documented sizes at a level just where its mode is not the one
of the stroke or its offset stays what it is; which any offset does up to the reference level. -/
theorem sizes_grow (p : Path) (zoom : Nat) {color : Color} (stroked : p.stroke = some color) :
    let factor := p.scale.factor zoom
    ∃ pen, p.pen zoom = some pen ∧ pen.color = color ∧ pen.cap = p.cap ∧ pen.join = p.join ∧
      (p.Documented factor pen (p.offsetAt zoom) ↔
        (p.mode = .stroke → p.offset * factor = p.offset)) ∧
      (p.mode = .stroke → pen.width = p.width * factor ∧ pen.dash = p.dash ∧
        p.offsetAt zoom = p.offset * factor) ∧
      (zoom ≤ p.scale.reference → p.Documented factor pen (p.offsetAt zoom)) := by
  intro factor
  have some : (p.pen zoom).isSome = true := by
    rw [Path.pen, stroked]
    rfl
  obtain ⟨pen, drawn⟩ := Option.isSome_iff_exists.mp some
  have sizes := documented_iff drawn
  obtain ⟨inked, width, dash, cap, join⟩ := pen_eq_some.mp drawn
  rw [stroked] at inked
  refine ⟨pen, drawn, (Option.some.inj inked).symm, cap, join, sizes, ?_, ?_⟩
  · intro mode
    rw [mode, ScaleMode.map_stretchDash] at dash
    rw [mode] at width
    rw [offsetAt, mode]
    exact ⟨width, dash, rfl⟩
  · intro low
    apply sizes.mpr
    intro _
    rw [ZoomScale.factor_low low]
    exact Rounding.float_mul_one p.offset

def hedge : Path :=
  { stroke := some .black, width := 2.0, dash := [8.0, 4.0], offset := 4.0, scale := {} }

theorem hedge_grows :
    ∃ low pen whole, hedge.pen 12 = some low ∧ hedge.pen 13 = some pen ∧
      ({ hedge with mode := .all } : Path).pen 13 = some whole ∧
      hedge.Documented 1.0 low (hedge.offsetAt 12) ∧
      pen.width = 3.0 ∧ pen.dash = [8.0, 4.0] ∧ hedge.offsetAt 13 = 6.0 ∧
      whole.width = 3.0 ∧ whole.dash = [12.0, 6.0] := by
  obtain ⟨low, below, _, _, _, _, _, kept⟩ := sizes_grow hedge 12 rfl
  obtain ⟨pen, above, _, _, _, _, grown, _⟩ := sizes_grow hedge 13 rfl
  obtain ⟨whole, all, _, _, _, documented, _⟩ :=
    sizes_grow { hedge with mode := .all } 13 rfl
  obtain ⟨width, dash, offset⟩ := grown rfl
  obtain ⟨wide, dashes, _⟩ := documented.mpr fun mode => by contradiction
  refine ⟨low, pen, whole, below, above, all, kept (by decide), ?_, dash, ?_, ?_, ?_⟩
  · rw [width]
    decide +kernel
  · rw [offset]
    decide +kernel
  · rw [wide]
    decide +kernel
  · rw [dashes]
    decide +kernel

def hedgerow : Element :=
  ⟨"rendertheme", [], [⟨"rule", [],
    [⟨"line", [("stroke", "#ff0000"), ("stroke-width", "2"), ("dy", "4")], []⟩]⟩]⟩

/-- The line has no dashes and an offset of 4, and is drawn one level above the reference. -/
theorem hedgerow_offset_grows :
    ∃ placed ∈ (({} : Style).run [.load {} .none {} hedgerow]).paths 13 false [],
      let p := placed.drawing
      p.mode = .stroke ∧ p.offset = 4.0 ∧ p.offsetAt 13 = 6.0 ∧
        ∃ pen, p.pen 13 = some pen ∧
          ¬ p.Documented (p.scale.factor 13) pen (p.offsetAt 13) := by
  have sizes : ((({} : Style).run [.load {} .none {} hedgerow]).paths 13 false []).map
      (fun q => (q.drawing.mode, q.drawing.offset, q.drawing.offsetAt 13,
        (q.drawing.pen 13).isSome)) = [(.stroke, 4.0, 6.0, true)] := by
    decide +kernel
  obtain ⟨placed, member, same⟩ := List.mem_map.mp (sizes ▸ List.mem_singleton_self _)
  simp only [Prod.mk.injEq] at same
  obtain ⟨mode, base, offset, stroked⟩ := same
  obtain ⟨pen, drawn⟩ := Option.isSome_iff_exists.mp stroked
  refine ⟨placed, member, mode, base, offset, pen, drawn, fun documented => ?_⟩
  rw [Documented, mode] at documented
  have kept : (6.0 : Float) = 4.0 := by rw [← base, ← documented.2.2, offset]
  exact absurd kept (by decide +kernel)

end Path
end MapTheme
