import Mathlib.Data.List.Infix
import MapTheme.Files
import MapTheme.Images

/-! Where images can come from. A source names a path that takes no step upwards, or is not
looked for at all. So each step along the path leads to a place in the directory that it starts
from, and a tree of files yields none but those below that directory. -/
namespace MapTheme

namespace Files

/-- The place that names lead to by themselves, of which an empty first one is the root. -/
def follow : List (List Char) → Location
  | [] :: names => names.foldl step ["/"]
  | names => names.foldl step []

/-- The place that a path names, whatever there may be. The empty path is the folder that the
program runs in. -/
def goal (path : String) : Location := if path = "" then [] else follow (Text.split '/' path.toList)

private theorem follow_append {names : List (List Char)} (some : names ≠ [])
    (more : List (List Char)) :
    follow (names ++ more) = more.foldl step (follow names) := by
  cases names with
  | nil => contradiction
  | cons first names =>
    cases first with
    | nil => exact List.foldl_append
    | cons c cs => exact List.foldl_append (l := (c :: cs) :: names)

private theorem follow_route (path : String) :
    follow (Text.split '/' path.toList) = (route path).2.foldl step (route path).1 := by
  unfold follow route
  split <;> simp_all

private theorem walk_steps {f : Files} {place last : Location} {names : List (List Char)}
    (walked : f.walk place names = some last) : last = names.foldl step place := by
  induction names generalizing place with
  | nil => exact (Option.some.inj walked).symm
  | cons name names ih =>
    rw [walk] at walked
    split at walked
    · exact ih walked
    · contradiction

private theorem locate?_goal {f : Files} {path : String} {place : Location}
    (found : f.locate? path = some place) : place = goal path := by
  rw [locate?] at found
  split at found
  · next isPath =>
    have some : path ≠ "" := (of_decide_eq_true (Bool.and_eq_true_iff.mp isPath).1)
    rw [goal, if_neg some, follow_route]
    exact walk_steps found
  · contradiction

private theorem step_below (place : Location) {name : List Char} (notUp : name ≠ ['.', '.']) :
    place <+: step place name := by
  unfold step
  split
  · exact List.prefix_rfl
  · exact List.prefix_append place _

private theorem steps_below (place : Location) {names : List (List Char)}
    (notUp : ['.', '.'] ∉ names) :
    place <+: names.foldl step place := by
  induction names generalizing place with
  | nil => exact List.prefix_rfl
  | cons name names ih =>
    rw [List.mem_cons, not_or] at notUp
    exact (step_below place (Ne.symm notUp.1)).trans (ih (step place name) notUp.2)

end Files

namespace Images

def scheme : List Char := ['f', 'i', 'l', 'e', ':']

/-- A source names a relative path: that follows on any slashes, which follow on the scheme
if the source starts with it. -/
structure Names (source : String) (path : List Char) : Prop where
  relative : path.head? ≠ some '/'
  spelled : ∃ slashes, (∀ c ∈ slashes, c = '/') ∧
    (source.toList = scheme ++ slashes ++ path ∨
      ¬ scheme <+: source.toList ∧ source.toList = slashes ++ path)

private theorem dropWhile_slashes {cs path : List Char} :
    cs.dropWhile (· = '/') = path ↔
      path.head? ≠ some '/' ∧ ∃ slashes, (∀ c ∈ slashes, c = '/') ∧ cs = slashes ++ path := by
  constructor
  · rintro rfl
    refine ⟨fun first => ?_, cs.takeWhile (· = '/'), fun c member => ?_, ?_⟩
    · have stop := List.head?_dropWhile_not (· = '/') cs
      simp [first] at stop
    · exact of_decide_eq_true (List.all_eq_true.mp List.all_takeWhile c member)
    · exact List.takeWhile_append_dropWhile.symm
  · rintro ⟨relative, slashes, all, rfl⟩
    rw [List.dropWhile_append_of_pos fun c member => decide_eq_true (all c member)]
    cases path with
    | nil => rfl
    | cons c cs =>
      have stop : c ≠ '/' := fun same => relative (congrArg some same)
      simp [stop]

private theorem names_iff {source : String} {path : List Char} :
    Names source path ↔ Images.relative source = path := by
  have schemed : scheme.isPrefixOf source.toList = true ↔ scheme <+: source.toList :=
    List.isPrefixOf_iff_prefix
  have stripped : Images.relative source = (if scheme.isPrefixOf source.toList then
      source.toList.drop scheme.length else source.toList).dropWhile (· = '/') := rfl
  rw [stripped, dropWhile_slashes]
  constructor
  · rintro ⟨relative, slashes, all, whole | ⟨bare, whole⟩⟩
    · have found : scheme.isPrefixOf source.toList = true := by
        rw [schemed, whole, List.append_assoc]
        exact List.prefix_append _ _
      refine ⟨relative, slashes, all, ?_⟩
      rw [if_pos found, whole, List.append_assoc, List.drop_left]
    · have absent : ¬ scheme.isPrefixOf source.toList = true := fun found => bare (schemed.mp found)
      exact ⟨relative, slashes, all, by rw [if_neg absent, whole]⟩
  · rintro ⟨relative, slashes, all, whole⟩
    refine ⟨relative, slashes, all, ?_⟩
    split at whole
    · next found =>
      obtain ⟨rest, same⟩ := schemed.mp found
      rw [← same, List.drop_left] at whole
      exact .inl (by rw [← same, whole, List.append_assoc])
    · next absent => exact .inr ⟨fun found => absent (schemed.mpr found), whole⟩

private theorem goal_slash {path : String} {before after : List Char}
    (cut : path.toList = before ++ '/' :: after) :
    Files.goal path =
      (Text.split '/' after).foldl Files.step (Files.follow (Text.split '/' before)) := by
  have nonempty : path ≠ "" := by
    rintro rfl
    simp at cut
  rw [Files.goal, if_neg nonempty, cut, Text.split_append,
    Files.follow_append (Text.split_ne_nil _ _)]

private theorem follow_relative {path : List Char} (nonempty : path ≠ [])
    (relative : path.head? ≠ some '/') :
    Files.follow (Text.split '/' path) = (Text.split '/' path).foldl Files.step [] := by
  cases path with
  | nil => contradiction
  | cons c cs =>
    have first : c ≠ '/' := fun same => relative (congrArg some same)
    rw [Text.split, if_neg first]
    split <;> rfl

private theorem goal_below (directory : String) {path : List Char} (nonempty : path ≠ [])
    (relative : path.head? ≠ some '/') :
    Files.goal (below directory path) =
      (Text.split '/' path).foldl Files.step (Files.goal directory) := by
  by_cases here : directory = ""
  · subst here
    have joined : below "" path = String.ofList path := by simp [below]
    have some : String.ofList path ≠ "" := by simpa using nonempty
    rw [joined, Files.goal, if_neg some, String.toList_ofList, follow_relative nonempty relative]
    rfl
  by_cases ended : directory.toList.getLast? = some '/'
  · obtain ⟨before, cut⟩ := List.getLast?_eq_some_iff.mp ended
    have joined : (below directory path).toList = before ++ '/' :: path := by
      simp [below, here, cut]
    -- The slash at the end of the directory is followed by an empty name.
    have start : Files.goal directory = Files.follow (Text.split '/' before) := goal_slash cut
    rw [goal_slash joined, start]
  · have joined : (below directory path).toList = directory.toList ++ '/' :: path := by
      simp [below, here, ended]
    rw [goal_slash joined, Files.goal, if_neg here]

theorem locate_eq_some {directory source found : String} {isFile : String → Bool} :
    (ofDirectory directory isFile).locate source = some found ↔
      ∃ path, Names source path ∧ path ≠ [] ∧ ['.', '.'] ∉ Text.split '/' path ∧
        found = below directory path ∧ isFile found = true := by
  have sought : relative source = [] ∨ climbs (relative source) = true ↔
      ¬ (relative source ≠ [] ∧ ['.', '.'] ∉ Text.split '/' (relative source)) := by
    rw [climbs, List.contains_iff_mem, not_and_or, not_not, not_not]
  simp only [ofDirectory, Bool.or_eq_true, decide_eq_true_eq, sought, ite_not]
  constructor
  · intro located
    split at located
    · next kept =>
      obtain ⟨same, isThere⟩ := Option.filter_eq_some_iff.mp located
      exact ⟨_, names_iff.mpr rfl, kept.1, kept.2, (Option.some.inj same).symm, isThere⟩
    · contradiction
  · rintro ⟨path, names, nonempty, notUp, rfl, isThere⟩
    obtain rfl := names_iff.mp names
    rw [if_pos ⟨nonempty, notUp⟩]
    exact Option.filter_eq_some_iff.mpr ⟨rfl, isThere⟩

/-- An image is found at the path that its source names below the directory, just where that
path takes no step upwards and leads to a file. No step along it leaves the directory, and in a
tree of files the image is the file at a place in the directory. -/
theorem located_below (directory : String) (isFile : String → Bool) (source : String) :
    (∀ found, (ofDirectory directory isFile).locate source = some found →
      ∃ path, Names source path ∧ path ≠ [] ∧ ['.', '.'] ∉ Text.split '/' path ∧
        found = below directory path ∧ isFile found = true ∧
        (∀ n, Files.goal directory <+:
          ((Text.split '/' path).take n).foldl Files.step (Files.goal directory)) ∧
        Files.goal found = (Text.split '/' path).foldl Files.step (Files.goal directory)) ∧
    (∀ path, Names source path → path ≠ [] → ['.', '.'] ∉ Text.split '/' path →
      isFile (below directory path) = true →
        (ofDirectory directory isFile).locate source = some (below directory path)) ∧
    ∀ (f : Files) found, (ofDirectory directory f.isFile).locate source = some found →
      ∃ place content, f.locate? found = some place ∧ f.entry? place = some (.file content) ∧
        Files.goal directory <+: place := by
  refine ⟨fun found located => ?_, fun path names nonempty notUp isThere => ?_,
    fun f found located => ?_⟩
  · obtain ⟨path, names, nonempty, notUp, joined, isThere⟩ := locate_eq_some.mp located
    refine ⟨path, names, nonempty, notUp, joined, isThere, fun n => ?_, ?_⟩
    · exact Files.steps_below _ fun member => notUp (List.mem_of_mem_take member)
    · rw [joined, goal_below directory nonempty names.relative]
  · exact locate_eq_some.mpr ⟨path, names, nonempty, notUp, rfl, isThere⟩
  · obtain ⟨path, names, nonempty, notUp, joined, isThere⟩ := locate_eq_some.mp located
    obtain ⟨content, read⟩ := Option.isSome_iff_exists.mp isThere
    obtain ⟨place, walked, stored⟩ := Option.bind_eq_some_iff.mp read
    refine ⟨place, content, walked, ?_, ?_⟩
    · rw [Files.contentAt?] at stored
      split at stored
      · next held => rw [held, Option.some.inj stored]
      · contradiction
    · rw [Files.locate?_goal walked, joined, goal_below directory nonempty names.relative]
      exact Files.steps_below _ notUp

def tavern : Files := Files.empty.addFile ["themes", "symbols", "pub.svg"] []

/-- The source has slashes that count for nothing, after its scheme and inside. -/
theorem tavern_located :
    let images := ofDirectory "themes/" tavern.isFile
    let found := "themes/symbols//./pub.svg"
    images.locate "file://symbols//./pub.svg" = some found ∧
      Files.goal found = ["themes", "symbols", "pub.svg"] ∧
      (∃ path, Names "file://symbols//./pub.svg" path ∧
        Files.goal found = (Text.split '/' path).foldl Files.step ["themes"]) ∧
      (∃ place content, tavern.locate? found = some place ∧
        tavern.entry? place = some (.file content) ∧ ["themes"] <+: place) ∧
      images.locate "file:symbols/../../pub.svg" = .none := by
  intro images found
  obtain ⟨leads, finds, holds⟩ := located_below "themes/" tavern.isFile "file://symbols//./pub.svg"
  have names : Names "file://symbols//./pub.svg" "symbols//./pub.svg".toList :=
    names_iff.mpr (by decide +kernel)
  have located : images.locate "file://symbols//./pub.svg" = some found :=
    finds _ names (by decide +kernel) (by decide +kernel) (by decide +kernel)
  have start : Files.goal "themes/" = ["themes"] := by decide +kernel
  obtain ⟨path, named, _, _, _, _, _, goal⟩ := leads found located
  obtain ⟨place, content, walked, stored, inside⟩ := holds tavern found located
  rw [start] at goal inside
  exact ⟨located, by decide +kernel, ⟨path, named, goal⟩, ⟨place, content, walked, stored, inside⟩,
    by decide +kernel⟩

end Images
end MapTheme
