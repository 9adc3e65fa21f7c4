import MapTheme.Proofs.Spelling
import MapTheme.Sheet.Workshop

/-! What the rules of a theme ask of a feature, read off their attributes one rule at
a time and on tags as written. The selector of nested rules asks exactly for what
each of them asks for, whatever was narrowed, dropped or numbered on the way. -/
namespace MapTheme

/-- An answer that each step narrows by what the step asks for comes to all that they ask for. -/
theorem foldl_asks {σ α : Type} (answer : σ → Bool) {step : σ → α → σ} {asks : α → Bool}
    (each : ∀ s a, answer (step s a) = (answer s && asks a)) (s : σ) (items : List α) :
    answer (items.foldl step s) = (answer s && items.all asks) := by
  induction items generalizing s with
  | nil => simp
  | cons a items ih => rw [List.foldl_cons, ih, each, List.all_cons, Bool.and_assoc]

/-- A feature as a query is about it, at a zoom level. -/
structure Subject where
  zoom : Nat
  kind : Kind
  closed : Bool
  tags : List (String × String)

namespace Element

def wantsKind (e : Element) (kind : Kind) : Bool :=
  match e.get? "e" with
  | some "node" => kind = .node
  | some "way" => kind = .way
  | _ => true

/-- Nodes are not asked whether they are closed. -/
def wantsOutline (e : Element) (kind : Kind) (closed : Bool) : Bool :=
  match e.get? "closed" with
  | some "yes" => kind = .node || closed
  | some "no" => kind = .node || !closed
  | _ => true

def wantsZoom (e : Element) (zoom : Nat) : Bool :=
  ((e.get? "zoom-min").bind (Value.zoom? maxZoom)).all (· ≤ zoom) &&
    ((e.get? "zoom-max").bind (Value.zoom? maxZoom)).all (zoom ≤ ·)

end Element

/-- Whether tags meet a list of keys and a list of values, of which only keys that are
known count. The value that negates stands for no value. -/
def meets (known : String → Bool) (keys values : List String) (tags : List (String × String)) :
    Bool :=
  let keyHit := keys.contains "*" || tags.any fun tag => known tag.1 && keys.contains tag.1
  let valueHit :=
    values.contains "*" || tags.any fun tag => tag.2 ≠ "~" && values.contains tag.2
  if values.contains "~" then !keyHit || valueHit else keyHit && valueHit

theorem meets_of_known {known : String → Bool} {tags : List (String × String)}
    (all : ∀ tag ∈ tags, known tag.1 = true) (keys values : List String) :
    meets known keys values tags = meets (fun _ => true) keys values tags := by
  have hits : (tags.any fun tag => known tag.1 && keys.contains tag.1) =
      tags.any fun tag => true && keys.contains tag.1 := by
    rw [Bool.eq_iff_iff, List.any_eq_true, List.any_eq_true]
    exact exists_congr fun tag => and_congr_right fun member => by rw [all tag member]
  simp only [meets, hits]

private theorem meets_stars (known : String → Bool) (tags : List (String × String)) :
    meets known ["*"] ["*"] tags = true := by
  simp [meets]

namespace Element

def wantsTags (e : Element) (tags : List (String × String)) : Bool :=
  meets (fun _ => true) (Text.splitText '|' ((e.get? "k").getD "*"))
    (Text.splitText '|' ((e.get? "v").getD "*")) tags

def admits (e : Element) (s : Subject) : Bool :=
  e.wantsKind s.kind && e.wantsOutline s.kind s.closed && e.wantsZoom s.zoom && e.wantsTags s.tags

end Element

namespace TagFilter

private theorem keyHit_parse {later d : Dictionary} {tags : List Tag}
    {pairs : List (String × String)}
    (grown : later.Extends d) (spelled : later.Spells tags pairs) (keys values : String) :
    (parse d keys values).keyHit tags =
      ((Text.splitText '|' keys).contains "*" ||
        pairs.any fun pair => (d.id? pair.1).isSome && (Text.splitText '|' keys).contains pair.1) := by
  generalize listed : Text.splitText '|' keys = alternatives
  simp only [keyHit, parse, listed, List.any_filterMap]
  rw [Bool.eq_iff_iff]
  simp only [List.any_eq_true, Bool.or_eq_true, List.contains_iff_mem, Bool.and_eq_true]
  constructor
  · rintro ⟨key, member, hit⟩
    by_cases star : key = "*"
    · exact .inl (star ▸ member)
    · cases numbered : d.id? key with
      -- A key without a number has not come into the filter.
      | none => simp [keyPattern?, star, numbered] at hit
      | some id =>
        have carried : pairs.any (·.1 = key) = true := by
          rw [← spelled.any_key (grown key id numbered)]
          simpa [keyPattern?, star, numbered] using hit
        obtain ⟨pair, inside, same⟩ := List.any_eq_true.mp carried
        have same : pair.1 = key := by simpa using same
        exact .inr ⟨pair, inside, by simp [same, numbered], same ▸ member⟩
  · rintro (star | ⟨pair, inside, numbered, member⟩)
    · exact ⟨"*", star, by simp [keyPattern?]⟩
    · refine ⟨pair.1, member, ?_⟩
      obtain ⟨id, numbered⟩ := Option.isSome_iff_exists.mp numbered
      by_cases star : pair.1 = "*"
      · simp [keyPattern?, star]
      · have carried : pairs.any (·.1 = pair.1) = true :=
          List.any_eq_true.mpr ⟨pair, inside, by simp⟩
        rw [← spelled.any_key (grown _ id numbered)] at carried
        simpa [keyPattern?, star, numbered] using carried

private theorem valueHit_parse {d later : Dictionary} {tags : List Tag}
    {pairs : List (String × String)} (spelled : later.Spells tags pairs) (keys values : String) :
    (parse d keys values).valueHit tags =
      ((Text.splitText '|' values).contains "*" ||
        pairs.any fun pair => pair.2 ≠ "~" && (Text.splitText '|' values).contains pair.2) := by
  generalize listed : Text.splitText '|' values = alternatives
  simp only [valueHit, parse, listed, List.any_filterMap]
  rw [Bool.eq_iff_iff]
  simp only [List.any_eq_true, Bool.or_eq_true, List.contains_iff_mem, Bool.and_eq_true]
  constructor
  · rintro ⟨value, member, hit⟩
    by_cases negation : value = "~"
    · simp [valuePattern?, negation] at hit
    · by_cases star : value = "*"
      · exact .inl (star ▸ member)
      · have carried : pairs.any (·.2 = value) = true := by
          rw [← spelled.any_value value]
          simpa [valuePattern?, negation, star] using hit
        obtain ⟨pair, inside, same⟩ := List.any_eq_true.mp carried
        have same : pair.2 = value := by simpa using same
        exact .inr ⟨pair, inside, by simpa [same] using negation, same ▸ member⟩
  · rintro (star | ⟨pair, inside, negation, member⟩)
    · exact ⟨"*", star, by simp [valuePattern?]⟩
    · refine ⟨pair.2, member, ?_⟩
      have negation : pair.2 ≠ "~" := by simpa using negation
      by_cases star : pair.2 = "*"
      · simp [valuePattern?, star]
      · have carried : pairs.any (·.2 = pair.2) = true :=
          List.any_eq_true.mpr ⟨pair, inside, by simp⟩
        rw [← spelled.any_value pair.2] at carried
        simpa [valuePattern?, negation, star] using carried

/-- A filter says of tags what its two lists say of them as written, in every dictionary
that extends the one that the filter was read with. -/
theorem accepts_parse {later d : Dictionary} {tags : List Tag} {pairs : List (String × String)}
    (grown : later.Extends d) (spelled : later.Spells tags pairs) (keys values : String) :
    (parse d keys values).accepts tags =
      meets (fun key => (d.id? key).isSome) (Text.splitText '|' keys) (Text.splitText '|' values)
        pairs := by
  rw [accepts, keyHit_parse grown spelled, valueHit_parse spelled]
  rfl

theorem accepts_of_isTautology {f : TagFilter} (h : f.isTautology = true) (tags : List Tag) :
    f.accepts tags = true := by
  simp only [isTautology, Bool.and_eq_true, Bool.not_eq_true', List.contains_iff_mem] at h
  obtain ⟨⟨positive, anyKey⟩, anyValue⟩ := h
  have keys : f.keyHit tags = true := List.any_eq_true.mpr ⟨.any, anyKey, rfl⟩
  have values : f.valueHit tags = true := List.any_eq_true.mpr ⟨.any, anyValue, rfl⟩
  simp [accepts, positive, keys, values]

end TagFilter

def Declared.accepts (d : Declared) (zoom : Nat) (kind : Kind) (closed : Bool) (tags : List Tag) :
    Bool :=
  d.least.all (· ≤ zoom) && d.greatest.all (zoom ≤ ·) && d.geometry.all (·.accepts kind) &&
    (kind = .node || d.outline.all (·.accepts closed)) && d.filter.all (·.accepts tags)

namespace Selector

private theorem acceptsTags_addFilter (s : Selector) (f : TagFilter) (tags : List Tag) :
    (s.addFilter f).acceptsTags tags = (s.acceptsTags tags && f.accepts tags) := by
  rw [addFilter]
  split
  · next h => rw [TagFilter.accepts_of_isTautology h, Bool.and_true]
  · simp [acceptsTags]

@[simp] theorem zooms_addFilter (s : Selector) (f : TagFilter) : (s.addFilter f).zooms = s.zooms := by
  rw [addFilter]
  split <;> rfl

@[simp] theorem geometry_addFilter (s : Selector) (f : TagFilter) :
    (s.addFilter f).geometry = s.geometry := by
  rw [addFilter]
  split <;> rfl

@[simp] theorem outline_addFilter (s : Selector) (f : TagFilter) :
    (s.addFilter f).outline = s.outline := by
  rw [addFilter]
  split <;> rfl

theorem containsZoom_refine (s : Selector) (d : Declared) (zoom : Nat) :
    (s.refine d).containsZoom zoom =
      (s.containsZoom zoom && (d.least.all (· ≤ zoom) && d.greatest.all (zoom ≤ ·))) := by
  have narrowed : (s.refine d).zooms = s.zooms.narrow d.least d.greatest := by
    cases written : d.filter <;>
      simp [refine, written, narrowZooms, narrowOutline, narrowGeometry]
  rw [containsZoom, narrowed, ZoomSpan.contains_narrow, Bool.and_assoc]
  rfl

theorem acceptsKind_refine (s : Selector) (d : Declared) (kind : Kind) :
    (s.refine d).geometry.accepts kind =
      (s.geometry.accepts kind && d.geometry.all (·.accepts kind)) := by
  have narrowed : (s.refine d).geometry = s.geometry.narrow (d.geometry.getD .any) := by
    cases written : d.filter <;>
      simp [refine, written, narrowZooms, narrowOutline, narrowGeometry]
  rw [narrowed, Geometry.accepts_narrow]
  cases d.geometry <;> rfl

theorem acceptsOutline_refine (s : Selector) (d : Declared) (closed : Bool) :
    (s.refine d).outline.accepts closed =
      (s.outline.accepts closed && d.outline.all (·.accepts closed)) := by
  have narrowed : (s.refine d).outline = s.outline.narrow (d.outline.getD .any) := by
    cases written : d.filter <;>
      simp [refine, written, narrowZooms, narrowOutline, narrowGeometry]
  rw [narrowed, Outline.accepts_narrow]
  cases d.outline <;> rfl

theorem acceptsTags_refine (s : Selector) (d : Declared) (tags : List Tag) :
    (s.refine d).acceptsTags tags = (s.acceptsTags tags && d.filter.all (·.accepts tags)) := by
  cases written : d.filter with
  | none => simp [refine, written, acceptsTags, narrowZooms, narrowOutline, narrowGeometry]
  | some f =>
    have added : s.refine d = (s.refine { d with filter := none }).addFilter f := by
      simp [refine, written]
    rw [added, acceptsTags_addFilter]
    rfl

theorem accepts_refine (s : Selector) (d : Declared) (zoom : Nat) (kind : Kind) (closed : Bool)
    (tags : List Tag) :
    (s.refine d).accepts zoom kind closed tags =
      (s.accepts zoom kind closed tags && d.accepts zoom kind closed tags) := by
  simp only [accepts, Declared.accepts, containsZoom_refine, acceptsKind_refine,
    acceptsOutline_refine, acceptsTags_refine]
  rw [Bool.eq_iff_iff]
  simp only [Bool.and_eq_true, Bool.or_eq_true]
  grind

theorem accepts_default (zoom : Nat) (kind : Kind) (closed : Bool) (tags : List Tag) :
    ({} : Selector).accepts zoom kind closed tags = decide (zoom ≤ maxZoom) := by
  cases kind <;> simp [accepts, containsZoom, ZoomSpan.contains, Geometry.accepts, Outline.accepts,
    acceptsTags]

end Selector

namespace Workshop

def selector (w : Workshop) (trail : List Element) : Selector :=
  trail.foldl (fun s e => s.refine (w.declared e)) {}

variable {w : Workshop} {tags : List Tag} {pairs : List (String × String)}

theorem accepts_filter (spelled : w.keys.Spells tags pairs) (e : Element) :
    (w.filter? e).all (·.accepts tags) = e.wantsTags pairs := by
  have known : ∀ pair ∈ pairs, (w.keys.id? pair.1).isSome = true := fun pair member =>
    Option.isSome_iff_exists.mpr (spelled.known_of_mem member)
  rw [filter?, Element.wantsTags]
  split
  · rw [Option.all_some, TagFilter.accepts_parse (.refl w.keys) spelled, meets_of_known known]
  · next missing =>
    -- Both lists are missing, and two stars ask for nothing.
    simp only [Element.has, Bool.or_eq_true, not_or, Bool.not_eq_true, Option.isSome_eq_false_iff,
      Option.isNone_iff_eq_none] at missing
    rw [missing.1, missing.2]
    exact (meets_stars _ pairs).symm

theorem all_geometry (e : Element) (kind : Kind) :
    (e.read? "e" Geometry.read?).all (·.accepts kind) = e.wantsKind kind := by
  rw [Element.read?, Element.wantsKind]
  cases e.get? "e" with
  | none => rfl
  | some text =>
    by_cases node : text = "node"
    · subst node; rfl
    by_cases way : text = "way"
    · subst way; rfl
    by_cases any : text = "any"
    · subst any; rfl
    simp [Geometry.read?, node, way]

private theorem all_outline (e : Element) (kind : Kind) (closed : Bool) :
    (decide (kind = .node) || (e.read? "closed" Outline.read?).all (·.accepts closed)) =
      e.wantsOutline kind closed := by
  rw [Element.read?, Element.wantsOutline]
  cases e.get? "closed" with
  | none => simp
  | some text =>
    by_cases yes : text = "yes"
    · subst yes; rfl
    by_cases no : text = "no"
    · subst no; rfl
    by_cases any : text = "any"
    · subst any; simp [Outline.read?, Outline.accepts]
    simp [Outline.read?, yes, no]

theorem accepts_declared (spelled : w.keys.Spells tags pairs) (e : Element) (zoom : Nat)
    (kind : Kind) (closed : Bool) :
    (w.declared e).accepts zoom kind closed tags = e.admits ⟨zoom, kind, closed, pairs⟩ := by
  have bounds : ((e.read? "zoom-min" zoom?).all (· ≤ zoom) && (e.read? "zoom-max" zoom?).all (zoom ≤ ·)) =
      e.wantsZoom zoom := rfl
  simp only [Declared.accepts, declared, bounds, all_geometry, all_outline, accepts_filter spelled,
    Element.admits]
  rw [Bool.and_comm (e.wantsZoom zoom), Bool.and_right_comm (e.wantsKind kind)]

/-- Rules around one another accept a feature at the levels that there are, if every
single one of them admits it. -/
theorem accepts_selector (spelled : w.keys.Spells tags pairs) (trail : List Element) (zoom : Nat)
    (kind : Kind) (closed : Bool) :
    (w.selector trail).accepts zoom kind closed tags =
      (decide (zoom ≤ maxZoom) && trail.all (·.admits ⟨zoom, kind, closed, pairs⟩)) := by
  have each (s : Selector) (e : Element) : (s.refine (w.declared e)).accepts zoom kind closed tags =
      (s.accepts zoom kind closed tags && e.admits ⟨zoom, kind, closed, pairs⟩) := by
    rw [Selector.accepts_refine, accepts_declared spelled]
  rw [← Selector.accepts_default zoom kind closed tags]
  exact foldl_asks (Selector.accepts · zoom kind closed tags) each {} trail

end Workshop
end MapTheme
