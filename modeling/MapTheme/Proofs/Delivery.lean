import MapTheme.Proofs.Compact
import MapTheme.Proofs.Reading
import MapTheme.Proofs.Spelling

/-! What a run takes in and what it hands out. Everything is read from the files as they are
before the run, and the output is touched only once all of it is there: so a run that fails
changes nothing, and one that writes over its own input has read it before. -/
namespace MapTheme

private theorem bind_eq_error {ε α β : Type} {first : Except ε α} {next : α → Except ε β} {e : ε} :
    first.bind next = .error e ↔ first = .error e ∨ ∃ a, first = .ok a ∧ next a = .error e := by
  cases first <;> simp [Except.bind]

private theorem mapError_eq_error {ε δ α : Type} {result : Except ε α} {tell : ε → δ} {e : δ} :
    result.mapError tell = .error e ↔ ∃ cause, result = .error cause ∧ tell cause = e := by
  cases result <;> simp [Except.mapError]

namespace Style

variable {s : Style} {keys other : Dictionary} {images others : Images}
  {settings changed : Settings}

/-- Whether a theme can be loaded is for its text alone to say. -/
theorem loadText_error {text : String} {cause : LoadError}
    (failed : s.loadText keys images settings text = .error cause) :
    s.loadText other others changed text = .error cause := by
  rw [loadText, reloadText] at failed ⊢
  cases parsed : Markup.parse text with
  | error fault =>
    rw [parsed] at failed
    exact failed
  | ok root =>
    rw [parsed] at failed
    dsimp only [reload] at failed ⊢
    split at failed
    · contradiction
    · next isNoTheme => rw [if_neg isNoTheme, ← failed]

end Style

/-- Features of descriptions that have been read of lines are features of these lines. -/
theorem forall₂_described {t : KeyTable} {lines : List (List UInt8)} {ds : List Descriptor}
    {features : List Feature} (described : lines.map Descriptor.ofLine? = ds.map some)
    (spelled : List.Forall₂ (Descriptor.Spelled t) ds features) :
    List.Forall₂ (fun line feature => ∃ d, Descriptor.ofLine? line = some d ∧ d.Spelled t feature)
      lines features := by
  induction spelled generalizing lines with
  | nil =>
    obtain rfl := List.map_eq_nil_iff.mp described
    exact .nil
  | cons own _ ih =>
    obtain ⟨line, others, rfl, read, rest⟩ := List.map_eq_cons_iff.mp described
    exact .cons ⟨_, read, own⟩ (ih rest)

/-- What a run takes in, all of it from the files as they are before it. -/
structure Intake (c : CommandLine) (s : Surroundings) where
  settings : Settings
  bytes : List UInt8
  descriptors : List Descriptor
  loaded : Loaded
  configured : c.settings s.files = .ok settings
  fed : c.featureBytes s = .ok bytes
  described : readFeatures Descriptor.ofText? bytes = .ok descriptors
  styled : c.loadStyle s.files (internFeatures {} descriptors).1 settings = .ok loaded

namespace CommandLine

variable {c : CommandLine} {s : Surroundings}

/-- Whether anything of what a run takes in cannot be had. -/
inductive Fails (c : CommandLine) (s : Surroundings) : Prop
  | settings {e : RunError} (failed : c.settings s.files = .error e)
  | features {e : RunError} (failed : c.descriptors s = .error e)
  | theme {keys : KeyTable} {settings : Settings} {e : RunError}
      (failed : c.loadStyle s.files keys settings = .error e)

private theorem loadStyle_eq_error {f : Files} {keys : KeyTable} {settings : Settings}
    {e : RunError} :
    c.loadStyle f keys settings = .error e ↔
      c.themeText f = .error e ∨ ∃ text cause, c.themeText f = .ok text ∧
        ({} : Style).loadText keys (.ofDirectory (PathName.parent c.theme) f.isFile) settings text =
          .error cause ∧ .loadTheme c.theme cause = e := by
  rw [loadStyle, bind_eq_error]
  simp only [mapError_eq_error, exists_and_left]

/-- A theme that cannot be loaded with some keys and settings cannot be loaded with others. -/
theorem loadStyle_error {f : Files} {keys : KeyTable} {settings : Settings} {e : RunError}
    (failed : c.loadStyle f keys settings = .error e) (other : KeyTable) (changed : Settings) :
    c.loadStyle f other changed = .error e := by
  rw [loadStyle_eq_error] at failed ⊢
  rcases failed with unread | ⟨text, cause, read, unloaded, told⟩
  · exact .inl unread
  · exact .inr ⟨text, cause, read, Style.loadText_error unloaded, told⟩

private theorem descriptors_eq_ok {ds : List Descriptor} :
    c.descriptors s = .ok ds ↔ ∃ bytes, c.featureBytes s = .ok bytes ∧
      readFeatures Descriptor.ofText? bytes = .ok ds := by
  rw [descriptors]
  cases c.featureBytes s with
  | error e => simp [Except.bind]
  | ok bytes =>
    cases read : readFeatures Descriptor.ofText? bytes <;> simp [Except.bind, Except.mapError, read]

end CommandLine

namespace Intake

variable {c : CommandLine} {s : Surroundings}

def features (i : Intake c s) : List Feature := (internFeatures {} i.descriptors).2

def lines (i : Intake c s) : List String := c.lines i.loaded.style i.features

theorem succeeded (i : Intake c s) : ¬ c.Fails s := by
  rintro (failed | failed | failed)
  · rw [i.configured] at failed
    contradiction
  · rw [CommandLine.descriptors_eq_ok.mpr ⟨i.bytes, i.fed, i.described⟩] at failed
    contradiction
  · have never := CommandLine.loadStyle_error failed (internFeatures {} i.descriptors).1 i.settings
    rw [i.styled] at never
    contradiction

/-- What is written for a line that describes a feature: the report of the feature that it
describes, a line of its own. -/
def Reports (i : Intake c s) (line written : List UInt8) : Prop :=
  ∃ d feature, Descriptor.ofLine? line = some d ∧
    d.Spelled (internFeatures {} i.descriptors).1 feature ∧
    written = (Report.ofFeature i.loaded.style c.zoom feature).line.toUTF8.toList

theorem lines_bytesOf (i : Intake c s) :
    Text.lines (CommandLine.bytesOf i.lines) = i.lines.map (·.toUTF8.toList) := by
  refine CommandLine.lines_bytesOf fun line member => ?_
  obtain ⟨feature, _, rfl⟩ := List.mem_map.mp member
  exact Json.oneLine_text _

/-- Each line that is not blank is reported on, in order. -/
theorem lines_report (i : Intake c s) :
    List.Forall₂ i.Reports ((Text.lines i.bytes).filter Text.speaks)
      (i.lines.map (·.toUTF8.toList)) := by
  have described := (Text.readDescribed_eq_ok.mp i.described).2
  have spelled := internFeatures_spelled {} i.descriptors
  rw [lines, CommandLine.lines, List.map_map, List.forall₂_map_right_iff]
  refine (forall₂_described described spelled).imp fun line feature told => ?_
  obtain ⟨d, read, own⟩ := told
  exact ⟨d, feature, read, own, rfl⟩

end Intake

namespace CommandLine

variable {c : CommandLine} {s : Surroundings}

/-- A run comes to its output with all that it takes in, or something of it cannot be had. -/
theorem prepare_cases (c : CommandLine) (s : Surroundings) :
    (∃ i : Intake c s, (c.prepare s).2 = .ok i.lines) ∨
      c.Fails s ∧ ∃ e, (c.prepare s).2 = .error e := by
  cases configured : c.settings s.files with
  | error e => exact .inr ⟨.settings configured, e, by simp only [prepare, configured]⟩
  | ok settings =>
    cases described : c.descriptors s with
    | error e => exact .inr ⟨.features described, e, by simp only [prepare, configured, described]⟩
    | ok descriptors =>
      cases styled : c.loadStyle s.files (internFeatures {} descriptors).1 settings with
      | error e =>
        exact .inr ⟨.theme styled, e, by simp only [prepare, configured, described, styled]⟩
      | ok loaded =>
        obtain ⟨bytes, fed, read⟩ := descriptors_eq_ok.mp described
        let i : Intake c s := ⟨settings, bytes, descriptors, loaded, configured, fed, read, styled⟩
        have lines : (c.prepare s).2 = .ok i.lines := by
          simp only [prepare, configured, described, styled]
          rfl
        exact .inl ⟨i, lines⟩

private theorem run_error {e : RunError} (failed : (c.prepare s).2 = .error e) :
    (c.run s).result = .error e ∧ (c.run s).files = s.files ∧ (c.run s).printed = [] := by
  rw [run]
  generalize c.prepare s = preparation at failed ⊢
  obtain ⟨notices, result⟩ := preparation
  obtain rfl : result = .error e := failed
  exact ⟨rfl, rfl, rfl⟩

private theorem run_prepared {lines : List String} (prepared : (c.prepare s).2 = .ok lines) :
    c.run s = c.deliver s.files (c.prepare s).1 lines := by
  rw [run]
  generalize c.prepare s = preparation at prepared ⊢
  obtain ⟨notices, result⟩ := preparation
  obtain rfl : result = .ok lines := prepared
  rfl

private theorem write_of_deliver {f : Files} {notices : List Notice} {lines : List String} {n : Nat}
    (toFile : PathName.isStream c.output = false)
    (delivered : (c.deliver f notices lines).result = .ok n) :
    n = lines.length ∧ f.write? c.output (bytesOf lines) = some (c.deliver f notices lines).files := by
  rw [deliver, toFile] at delivered ⊢
  simp only [Bool.false_eq_true, if_false] at delivered ⊢
  cases written : f.write? c.output (bytesOf lines) with
  | none =>
    rw [written] at delivered
    contradiction
  | some files =>
    rw [written] at delivered
    exact ⟨(Except.ok.inj delivered).symm, rfl⟩

private theorem deliver_ok {f : Files} {lines : List String} {place : Location}
    (toFile : PathName.isStream c.output = false) (found : f.locate? c.output = some place)
    (free : f.isFolder place = false) (notices : List Notice) :
    (c.deliver f notices lines).result = .ok lines.length := by
  have written : f.write? c.output (bytesOf lines) = some (f.put place (bytesOf lines)) := by
    rw [Files.write?, found, Option.bind_some, free, if_neg Bool.false_ne_true]
  simp only [deliver, toFile, written, Bool.false_eq_true, if_false]

/-- A run hands out nothing before it has taken in everything, and then a line for each line
that describes a feature, in a file that may be one of those that it has read. -/
theorem run_delivers (c : CommandLine) (s : Surroundings) :
    (c.Fails s → ∃ e, (c.run s).result = .error e ∧ (c.run s).files = s.files ∧
      (c.run s).printed = []) ∧
    (¬ c.Fails s → PathName.isStream c.output = false → ∀ place,
      s.files.locate? c.output = some place → s.files.isFolder place = false →
        ∃ n, (c.run s).result = .ok n) ∧
    ∀ n, (c.run s).result = .ok n → PathName.isStream c.output = false →
      ∃ (i : Intake c s) (content : List UInt8),
        (c.run s).files.read? c.output = some content ∧
        content = (Text.lines content).flatMap (· ++ [Text.lineFeed]) ∧
        (Text.lines content).length = n ∧
        List.Forall₂ i.Reports ((Text.lines i.bytes).filter Text.speaks) (Text.lines content) ∧
        ∀ place, s.files.locate? c.output ≠ some place →
          (c.run s).files.entry? place = s.files.entry? place := by
  refine ⟨fun fails => ?_, fun succeeds toFile place found free => ?_, fun n result toFile => ?_⟩
  · rcases c.prepare_cases s with ⟨i, _⟩ | ⟨_, e, failed⟩
    · exact absurd fails i.succeeded
    · exact ⟨e, run_error failed⟩
  · rcases c.prepare_cases s with ⟨i, prepared⟩ | ⟨fails, _⟩
    · rw [run_prepared prepared]
      exact ⟨_, deliver_ok toFile found free _⟩
    · exact absurd fails succeeds
  · rcases c.prepare_cases s with ⟨i, prepared⟩ | ⟨_, e, failed⟩
    · rw [run_prepared prepared] at result ⊢
      obtain ⟨rfl, written⟩ := write_of_deliver toFile result
      refine ⟨i, bytesOf i.lines, Files.read?_write written, ?_, ?_, ?_, fun place other =>
        Files.entry?_write written other⟩
      · rw [i.lines_bytesOf, List.flatMap_map]
        rfl
      · rw [i.lines_bytesOf, List.length_map]
      · rw [i.lines_bytesOf]
        exact i.lines_report
    · rw [(run_error failed).1] at result
      contradiction

def asciiBytes (text : String) : List UInt8 := text.toList.map (·.toNat.toUInt8)

/-- A theme that draws nodes, and two features with a blank line between them. -/
def survey : Surroundings where
  files :=
    (Files.empty.addFile ["theme.xml"]
      (asciiBytes "<rendertheme><rule><circle/></rule></rendertheme>")).addFile ["survey.jsonl"]
        (asciiBytes "\x7b\"type\":\"node\"\x7d\n \n\x7b\"type\":\"way\",\"id\":7\x7d\n")

/-- The reports are to take the place of the features that they are about. -/
def surveyWith (theme : String) : CommandLine :=
  { theme, features := "survey.jsonl", zoom := 12, output := "./survey.jsonl" }

theorem survey_rewritten :
    let drawn := surveyWith "theme.xml"
    let misread := surveyWith "survey.jsonl"
    survey.files.locate? drawn.output = survey.files.locate? drawn.features ∧
      (drawn.run survey).result = .ok 2 ∧ PathName.isStream drawn.output = false ∧
      (∃ content, (drawn.run survey).files.read? drawn.output = some content ∧
        (Text.lines content).length = 2 ∧
        (drawn.run survey).files.entry? ["theme.xml"] = survey.files.entry? ["theme.xml"]) ∧
      misread.Fails survey ∧ (misread.run survey).files = survey.files := by
  intro drawn misread
  have alike : survey.files.locate? drawn.output = survey.files.locate? drawn.features := by
    decide +kernel
  have result : (drawn.run survey).result = .ok 2 := by
    have counted : (drawn.run survey).result.toOption = some 2 := by decide +kernel
    cases found : (drawn.run survey).result with
    | error e => simp [found, Except.toOption] at counted
    | ok n => simpa [found, Except.toOption] using counted
  have toFile : PathName.isStream drawn.output = false := by decide +kernel
  have elsewhere : survey.files.locate? drawn.output ≠ some ["theme.xml"] := by decide +kernel
  have fails : misread.Fails survey := by
    have refused : (misread.loadStyle survey.files {} {}).isOk = false := by decide +kernel
    cases failed : misread.loadStyle survey.files {} {} with
    | error e => exact .theme failed
    | ok l => simp [failed, Except.isOk, Except.toBool] at refused
  obtain ⟨_, content, stored, _, two, _, kept⟩ := (run_delivers drawn survey).2.2 2 result toFile
  obtain ⟨_, _, untouched, _⟩ := (run_delivers misread survey).1 fails
  exact ⟨alike, result, toFile, ⟨content, stored, two, kept _ elsewhere⟩, fails, untouched⟩

end CommandLine

end MapTheme
