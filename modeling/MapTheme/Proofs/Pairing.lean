import MapTheme.Proofs.Handles

/-! What a query sees of the tags of a feature: the set of their keys and the set of their
values. In which order tags come, how often and which value stands with which key is not
seen by a filter, and so by no selector and no query either. -/
namespace MapTheme

/-- Tags with the same keys and the same values, however these are paired. -/
structure Tag.Alike (a b : List Tag) : Prop where
  keys : ∀ key, key ∈ a.map (·.key) ↔ key ∈ b.map (·.key)
  values : ∀ value, value ∈ a.map (·.value) ↔ value ∈ b.map (·.value)

section

variable {a b : List Tag}

/-- Whether something is found among items depends only on the set of what they read as. -/
theorem any_eq_of_mem_iff {α β : Type} [DecidableEq β] {read : α → β} {items others : List α}
    (same : ∀ x, x ∈ items.map read ↔ x ∈ others.map read) (wanted : β) :
    items.any (fun item => read item = wanted) = others.any (fun item => read item = wanted) := by
  have found (items : List α) :
      items.any (fun item => read item = wanted) = true ↔ wanted ∈ items.map read := by
    rw [List.any_eq_true, List.mem_map]
    simp only [decide_eq_true_eq]
  apply Bool.eq_iff_iff.mpr
  rw [found items, found others]
  exact same wanted

theorem Tag.Alike.any_key (alike : Tag.Alike a b) (id : Nat) : a.any (·.key = id) = b.any (·.key = id) :=
  any_eq_of_mem_iff alike.keys id

theorem Tag.Alike.any_value (alike : Tag.Alike a b) (value : String) :
    a.any (·.value = value) = b.any (·.value = value) :=
  any_eq_of_mem_iff alike.values value

private theorem TagFilter.keyHit_alike (alike : Tag.Alike a b) (f : TagFilter) :
    f.keyHit a = f.keyHit b := by
  unfold keyHit
  refine congrArg f.keys.any (funext fun pattern => ?_)
  cases pattern with
  | any => rfl
  | key id => exact alike.any_key id

private theorem TagFilter.valueHit_alike (alike : Tag.Alike a b) (f : TagFilter) :
    f.valueHit a = f.valueHit b := by
  unfold valueHit
  refine congrArg f.values.any (funext fun pattern => ?_)
  cases pattern with
  | any => rfl
  | exact value => exact alike.any_value value

theorem TagFilter.accepts_alike (alike : Tag.Alike a b) (f : TagFilter) : f.accepts a = f.accepts b := by
  unfold accepts
  rw [f.keyHit_alike alike, f.valueHit_alike alike]

theorem Selector.accepts_alike (alike : Tag.Alike a b) (s : Selector) (zoom : Nat) (kind : Kind)
    (closed : Bool) : s.accepts zoom kind closed a = s.accepts zoom kind closed b := by
  have tags : s.acceptsTags a = s.acceptsTags b :=
    congrArg s.filters.all (funext (TagFilter.accepts_alike alike))
  unfold accepts
  rw [tags]

end

namespace Style

theorem queries_alike {a b : List Tag} (alike : Tag.Alike a b) (ops : List Operation) (zoom : Nat)
    (kind : Kind) (closed : Bool) :
    let s := ({} : Style).run ops
    s.paths zoom closed a = s.paths zoom closed b ∧
      s.circles zoom a = s.circles zoom b ∧
      s.labels zoom kind closed a = s.labels zoom kind closed b ∧
      s.symbols zoom kind closed a = s.symbols zoom kind closed b := by
  intro s
  refine ⟨?_, ?_, ?_, ?_⟩
  · have selected : (Selector.acceptsWayAt · zoom closed a) = (·.acceptsWayAt zoom closed b) :=
      funext fun r => r.accepts_alike alike zoom .way closed
    rw [paths, paths, selected]
  · have selected : (Selector.acceptsNodeAt · zoom a) = (·.acceptsNodeAt zoom b) :=
      funext fun r => r.accepts_alike alike zoom .node false
    rw [circles, circles, selected]
  · refine List.filter_congr fun p _ => ?_
    rw [p.selector.accepts_alike alike zoom kind closed, alike.any_key p.drawing.key]
  · exact List.filter_congr fun p _ => p.selector.accepts_alike alike zoom kind closed

/-- Rules of which one is negated and one takes any key. -/
def footpaths : Element :=
  ⟨"rendertheme", [], [⟨"rule", [("k", "highway|access"), ("v", "path|~")],
    [⟨"line", [], []⟩, ⟨"symbol", [("src", "boot")], []⟩,
     ⟨"rule", [("k", "*"), ("v", "no|path")], [⟨"pathText", [("k", "name")], []⟩]⟩]⟩]⟩

def footpathTags : List (String × String) :=
  [("highway", "path"), ("access", "no"), ("name", "Mill Lane")]

def footpathKeys : KeyTable := (KeyTable.tags {} footpathTags).1

/-- The same keys and values, some of them twice and none in its place. -/
def scrambledTags : List (String × String) :=
  [("name", "no"), ("access", "path"), ("highway", "no"), ("access", "Mill Lane")]

theorem footpath_scrambled :
    let s := ({} : Style).run [.load footpathKeys (.ofNames ["boot"]) {} footpaths]
    let straight := (footpathKeys.tags footpathTags).2
    let scrambled := (footpathKeys.tags scrambledTags).2
    Tag.Alike straight scrambled ∧
      (s.paths 14 true straight = s.paths 14 true scrambled ∧
        s.circles 14 straight = s.circles 14 scrambled ∧
        s.labels 14 .way true straight = s.labels 14 .way true scrambled ∧
        s.symbols 14 .way true straight = s.symbols 14 .way true scrambled) ∧
      (s.paths 14 true straight).length = 1 ∧ (s.labels 14 .way true straight).length = 1 ∧
      (s.symbols 14 .way true straight).length = 1 := by
  intro s straight scrambled
  have alike : Tag.Alike straight scrambled := by
    have numbered : straight = [⟨1, "path"⟩, ⟨2, "no"⟩, ⟨3, "Mill Lane"⟩] := by decide +kernel
    have renumbered : scrambled = [⟨3, "no"⟩, ⟨2, "path"⟩, ⟨1, "no"⟩, ⟨2, "Mill Lane"⟩] := by
      decide +kernel
    rw [numbered, renumbered]
    constructor
    · intro key
      simp only [List.map_cons, List.map_nil, List.mem_cons, List.not_mem_nil]
      tauto
    · intro value
      simp only [List.map_cons, List.map_nil, List.mem_cons, List.not_mem_nil]
      tauto
  have answers := queries_alike alike [.load footpathKeys (.ofNames ["boot"]) {} footpaths] 14 .way true
  exact ⟨alike, answers, by decide +kernel⟩

end Style
end MapTheme
