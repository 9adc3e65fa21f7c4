import MapTheme.Proofs.Numeral
import MapTheme.Proofs.Origin
import MapTheme.Proofs.Precedence

/-! Bounds of zoom levels. One that is written with more than 32 bits is no bound, so that a rule
which no level was meant to reach is open at every level instead. Below that it is lowered to the
greatest level, and keeps what stands inside of the rule out of every level under it. -/
namespace MapTheme
namespace Decimal

/-- The number that a text denotes which is made of digits with or without a plus sign. -/
inductive Counts : List Char → Nat → Prop
  | plain {ds : List Char} (digits : Digits ds) : Counts ds (digitsValue ds)
  | plus {ds : List Char} (digits : Digits ds) : Counts ('+' :: ds) (digitsValue ds)

private theorem readDigits?_digits {ds : List Char} (digits : Digits ds) :
    readDigits? ds = some (digitsValue ds) :=
  if_pos ⟨digits.1, List.all_eq_true.mpr digits.2⟩

theorem readNat?_counts {cs : List Char} {n : Nat} (counted : Counts cs n) (bound : Nat) :
    readNat? bound cs = if n < bound then some n else none := by
  have filtered {ds : List Char} (digits : Digits ds) :
      (readDigits? ds).filter (· < bound) =
        if digitsValue ds < bound then some (digitsValue ds) else none := by
    rw [readDigits?_digits digits, Option.filter_some]
    simp only [decide_eq_true_eq]
  cases counted with
  | plus digits => exact filtered digits
  | plain digits =>
    have unsigned : ∀ rest, cs ≠ '+' :: rest := by
      rintro rest rfl
      have digit := digits.2 '+' List.mem_cons_self
      contradiction
    unfold readNat?
    split
    · exact absurd rfl (unsigned _)
    · exact filtered digits

end Decimal

theorem Value.zoom?_counts {text : String} {n : Nat}
    (counted : Decimal.Counts (Text.trim text.toList) n) (max : Nat) :
    zoom? max text = if n < Nat.pow 2 32 then some (min n max) else none := by
  have bound : Nat.pow 2 32 = 0x100000000 := by decide
  rw [zoom?, Decimal.readNat?_counts counted, bound]
  split <;> rfl

namespace Workshop
open Sheet

variable {α : Type} {w : Workshop} {root rule : Element} {text : String} {n level : Nat}

/-- Whether a rule and the rules inside of it are for no feature below a level, whatever other
rules they stand in. -/
def ShutBelow (w : Workshop) (rule : Element) (level : Nat) : Prop :=
  ∀ trail, rule ∈ trail → ∀ zoom < level, ∀ kind closed tags,
    (w.selector trail).accepts zoom kind closed tags = false

/-- Whether an entry is drawn outside of an element. -/
def Outside (w : Workshop) (root rule : Element) (p : Placed α) : Prop :=
  ∃ spot ∈ root.spots, w.source? root p = some spot ∧ rule ∉ spot.1.trail

private theorem containsZoom_selector (w : Workshop) (trail : List Element) (zoom : Nat) :
    (w.selector trail).containsZoom zoom =
      (decide (zoom ≤ maxZoom) && trail.all (·.wantsZoom zoom)) := by
  have each (s : Selector) (e : Element) : (s.refine (w.declared e)).containsZoom zoom =
      (s.containsZoom zoom && e.wantsZoom zoom) := Selector.containsZoom_refine s _ zoom
  have outermost : ({} : Selector).containsZoom zoom = decide (zoom ≤ maxZoom) := by
    simp [Selector.containsZoom, ZoomSpan.contains]
  rw [← outermost]
  exact foldl_asks (Selector.containsZoom · zoom) each {} trail

private theorem shutBelow_least (given : rule.get? "zoom-min" = some text)
    (bound : Value.zoom? maxZoom text = some level) : w.ShutBelow rule level := by
  intro trail inside zoom low kind closed tags
  have unwanted : rule.wantsZoom zoom = false := by
    rw [Element.wantsZoom, given, Option.bind_some, bound, Option.all_some,
      decide_eq_false (Nat.not_le_of_lt low), Bool.false_and]
  rw [Bool.eq_false_iff]
  intro accepted
  have reached := Selector.containsZoom_of_accepts accepted
  rw [containsZoom_selector, Bool.and_eq_true, List.all_eq_true] at reached
  have wanted := reached.2 rule inside
  rw [unwanted] at wanted
  contradiction

/-- A rule with a bound that cannot be used is as open as one without. -/
theorem open_of_unusable (unusable : Value.zoom? maxZoom text = none) (kind : Kind) (closed : Bool)
    (tags : List Tag) :
    (w.selector [⟨"rule", [("zoom-min", text)], []⟩]).accepts 0 kind closed tags = true := by
  have nothing : w.declared ⟨"rule", [("zoom-min", text)], []⟩ = {} := by
    simp [declared, Element.read?, Element.get?, zoom?, unusable, filter?, Element.has]
  rw [selector, List.foldl_cons, List.foldl_nil, nothing, Selector.accepts_refine,
    Selector.accepts_default]
  cases kind <;> rfl

theorem shutBelow_iff (counted : Decimal.Counts (Text.trim text.toList) n) :
    (∀ rule : Element, rule.get? "zoom-min" = some text → w.ShutBelow rule (min n maxZoom)) ↔
      n < Nat.pow 2 32 := by
  have read := Value.zoom?_counts counted maxZoom
  constructor
  · intro shut
    by_contra wide
    rw [if_neg wide] at read
    -- A rule that asks for nothing else is for features of the lowest level as well.
    let rule : Element := ⟨"rule", [("zoom-min", text)], []⟩
    have many : 0 < n := Nat.lt_of_lt_of_le (by decide) (Nat.le_of_not_lt wide)
    have low : 0 < min n maxZoom := Nat.lt_min.mpr ⟨many, by decide⟩
    have shown : (w.selector [rule]).accepts 0 .way false [] = true :=
      open_of_unusable read .way false []
    have hidden := shut rule rfl [rule] List.mem_cons_self 0 low .way false []
    rw [shown] at hidden
    contradiction
  · intro narrow rule given
    rw [if_pos narrow] at read
    exact shutBelow_least given read

private theorem selector_drawn {place : Place} {s : Selector} {d : Drawing}
    (drawn : w.drawnAt? place = some (s, d)) : w.selector place.trail = s := by
  rw [drawnAt?] at drawn
  split at drawn
  · obtain ⟨_, _, same⟩ := Option.map_eq_some_iff.mp drawn
    exact (Prod.mk.inj same).1
  · contradiction

/-- An entry that is shown below a level is not drawn inside of a rule that is shut there. -/
theorem outside_of_shut (shut : w.ShutBelow rule level) {zoom : Nat} (low : zoom < level)
    {kind : Kind} {closed : Bool} {tags : List Tag} {generation : Nat}
    {pick : Selector → Drawing → Option α} {p : Placed α}
    (member : p ∈ (gather generation pick (arrange 0 (w.themeFindings root))).filter
      (·.selector.accepts zoom kind closed tags)) :
    w.Outside root rule p := by
  obtain ⟨listed, accepted⟩ := List.mem_filter.mp member
  obtain ⟨spot, drawing, source, here, drawn, _⟩ := w.source_drawn root listed
  refine ⟨spot, here, source, fun inside => ?_⟩
  rw [← selector_drawn drawn, shut _ inside zoom low] at accepted
  contradiction

end Workshop

namespace Style
open Sheet

/-- Whether no query at a level shows what is drawn inside of a rule. -/
structure Conceals (s : Style) (w : Workshop) (root rule : Element) (zoom : Nat) : Prop where
  paths : ∀ closed tags, ∀ p ∈ s.paths zoom closed tags, w.Outside root rule p
  circles : ∀ tags, ∀ p ∈ s.circles zoom tags, w.Outside root rule p
  labels : ∀ kind closed tags, ∀ p ∈ s.labels zoom kind closed tags, w.Outside root rule p
  symbols : ∀ kind closed tags, ∀ p ∈ s.symbols zoom kind closed tags, w.Outside root rule p

theorem conceals_shut {s : Style} {w : Workshop} {root rule : Element} {level zoom : Nat}
    (sheet : s.sheet = .ofFindings s.generation (w.themeFindings root))
    (shut : w.ShutBelow rule level) (low : zoom < level) : s.Conceals w root rule zoom := by
  constructor
  · intro closed tags p member
    rw [paths_eq sheet] at member
    exact Workshop.outside_of_shut shut low member
  · intro tags p member
    rw [circles_eq sheet false] at member
    exact Workshop.outside_of_shut shut low member
  · intro kind closed tags p member
    have shown := mem_labels sheet member
    rw [textScan, List.mem_filter, Placed.shown, Bool.and_eq_true] at shown
    exact Workshop.outside_of_shut shut low (List.mem_filter.mpr ⟨shown.1, shown.2.1⟩)
  · intro kind closed tags p member
    rw [symbols_eq sheet] at member
    split at member
    · exact Workshop.outside_of_shut shut low (mem_sortBy.mp member)
    · contradiction

/-- A bound is lowered to the greatest level just where 32 bits hold it, and only there do rules
with such a bound stay out of every level below. A greater one is no bound at all. -/
theorem bounds_clamped {text : String} {n : Nat}
    (counted : Decimal.Counts (Text.trim text.toList) n) :
    (∀ max, Value.zoom? max text = some (min n max) ↔ n < Nat.pow 2 32) ∧
    (Nat.pow 2 32 ≤ n → ∀ max, Value.zoom? max text = none) ∧
    (∀ w : Workshop, (∀ rule : Element, rule.get? "zoom-min" = some text →
      w.ShutBelow rule (min n maxZoom)) ↔ n < Nat.pow 2 32) ∧
    (n < Nat.pow 2 32 → ∀ (s : Style) keys images settings root l,
      s.load keys images settings root = .ok l → ∀ rule : Element, rule.get? "zoom-min" = some text →
        ∀ zoom < min n maxZoom,
          l.style.Conceals (root.workshop keys images settings) root rule zoom) := by
  refine ⟨fun max => ?_, fun wide max => ?_, fun w => Workshop.shutBelow_iff counted, ?_⟩
  · rw [Value.zoom?_counts counted]
    split <;> simp_all
  · rw [Value.zoom?_counts counted, if_neg (Nat.not_lt_of_le wide)]
  · intro narrow s keys images settings root l loaded rule given zoom low
    have sheet : l.style.sheet = .ofFindings l.style.generation
        ((root.workshop keys images settings).themeFindings root) := by
      rw [(loaded_theme loaded).2]
      rfl
    exact conceals_shut sheet ((Workshop.shutBelow_iff counted).mpr narrow rule given) low

/-- A rule for levels that no theme can address. -/
def lookout : Element := ⟨"rule", [("zoom-min", " +00300\t")], [⟨"area", [("fill", "#ff0000")], []⟩]⟩

theorem lookout_clamped :
    let theme : Element := ⟨"rendertheme", [], [lookout]⟩
    Decimal.Counts (Text.trim " +00300\t".toList) 300 ∧
      Value.zoom? 127 " +00300\t" = some 127 ∧
      ∃ l, ({} : Style).load {} .none {} theme = .ok l ∧ l.tally.paths = 1 ∧
        ∀ zoom < 127, l.style.Conceals (theme.workshop {} .none {}) theme lookout zoom := by
  intro theme
  have written : Text.trim " +00300\t".toList = '+' :: ['0', '0', '3', '0', '0'] := by decide +kernel
  have digits : Decimal.Digits ['0', '0', '3', '0', '0'] := ⟨by simp, by simp⟩
  have value : Decimal.digitsValue ['0', '0', '3', '0', '0'] = 300 := by decide
  have counted : Decimal.Counts (Text.trim " +00300\t".toList) 300 := by
    rw [written, ← value]
    exact .plus digits
  obtain ⟨clamped, _, _, concealed⟩ := bounds_clamped counted
  have narrow : 300 < Nat.pow 2 32 := by decide
  refine ⟨counted, (clamped 127).mpr narrow, _, rfl, by decide +kernel, fun zoom low => ?_⟩
  exact concealed narrow {} {} .none {} theme _ rfl lookout rfl zoom low

/-- The first number that 32 bits do not hold leaves a rule open at every level. -/
theorem wide_bound_open :
    let rule : Element := ⟨"rule", [("zoom-min", "4294967296")], []⟩
    Decimal.Counts (Text.trim "4294967296".toList) 4294967296 ∧
      Value.zoom? 127 "4294967296" ≠ some (min 4294967296 127) ∧
      ¬ (⟨{}, .none, {}, []⟩ : Workshop).ShutBelow rule (min 4294967296 maxZoom) := by
  intro rule
  have written : Text.trim "4294967296".toList =
      ['4', '2', '9', '4', '9', '6', '7', '2', '9', '6'] := by decide +kernel
  have digits : Decimal.Digits ['4', '2', '9', '4', '9', '6', '7', '2', '9', '6'] :=
    ⟨by simp, by simp⟩
  have value : Decimal.digitsValue ['4', '2', '9', '4', '9', '6', '7', '2', '9', '6'] =
      4294967296 := by decide
  refine ⟨?_, by decide +kernel, fun shut => ?_⟩
  · rw [written, ← value]
    exact .plain digits
  · have hidden := shut [rule] List.mem_cons_self 0 (by decide) .way false []
    have shown : (Workshop.selector ⟨{}, .none, {}, []⟩ [rule]).accepts 0 .way false [] = true := by
      decide +kernel
    rw [shown] at hidden
    contradiction

end Style
end MapTheme
