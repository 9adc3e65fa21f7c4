import MapTheme.Proofs.Writing

/-! Where the sections of a written text end. A comment ends at its own `-->`, and a
tag at the `>` that it is written with, since the quotes in it are closed and its values
are without brackets. What stands between tags is passed over. -/
namespace MapTheme.Markup

/-- What may stand between tags: texts, and comments that are not closed early. -/
inductive Gap : List Char → Prop
  | nil : Gap []
  | text {cs gap : List Char} (plain : '<' ∉ cs) (more : Gap gap) : Gap (cs ++ gap)
  | comment {body gap : List Char} (whole : ¬ ['-', '-', '>'] <:+: body) (more : Gap gap) :
      Gap ('<' :: '!' :: '-' :: '-' :: (body ++ '-' :: '-' :: '>' :: gap))

section Sections

variable {content rest : List Char} {closes : List Char → Bool}

private theorem scan_skip {c : Char} (plain : c ≠ '<') (offset : Nat) (cs : List Char) :
    scan offset (c :: cs) = scan (offset + c.utf8Size) cs := by
  have drop : (c :: cs).dropWhile (· ≠ '<') = cs.dropWhile (· ≠ '<') := by simp [plain]
  have take : (c :: cs).takeWhile (· ≠ '<') = c :: cs.takeWhile (· ≠ '<') := by simp [plain]
  rw [scan, scan.eq_def (offset + c.utf8Size)]
  -- The branches of `scan` depend on what the drop is equal to, so it cannot be rewritten.
  generalize (c :: cs).dropWhile (· ≠ '<') = left at drop
  subst drop
  simp only [take, width_cons, Nat.add_assoc]

private theorem scan_section {kind : Section} (offset : Nat)
    (begun : Section.of? (content ++ '>' :: rest) = some kind)
    (cut : cutAt kind.closes [] (content ++ '>' :: rest) = some (content, rest))
    (fine : kind.fault? offset (offset + width content + 2) content = none) :
    scan offset ('<' :: (content ++ '>' :: rest)) =
      let stop := offset + width content + 2
      (if kind = .tag then ⟨content, offset, stop⟩ :: (scan stop rest).1 else (scan stop rest).1,
        (scan stop rest).2) := by
  have drop : ('<' :: (content ++ '>' :: rest)).dropWhile (· ≠ '<') =
      '<' :: (content ++ '>' :: rest) := rfl
  have take : ('<' :: (content ++ '>' :: rest)).takeWhile (· ≠ '<') = [] := rfl
  rw [scan, take]
  generalize ('<' :: (content ++ '>' :: rest)).dropWhile (· ≠ '<') = left at drop
  subst drop
  simp only [begun]
  generalize cutAt kind.closes [] (content ++ '>' :: rest) = found at cut
  subst cut
  simp [fine]

/-- A section is cut where it closes, if none of its own characters closes it. -/
theorem cutAt_content {seen : List Char}
    (early : ∀ before after, content = before ++ '>' :: after →
      closes (before.reverse ++ seen) = false)
    (late : closes (content.reverse ++ seen) = true) :
    cutAt closes seen (content ++ '>' :: rest) = some (seen.reverse ++ content, rest) := by
  induction content generalizing seen with
  | nil =>
    have closed : closes seen = true := late
    rw [List.nil_append, cutAt, if_pos ⟨rfl, closed⟩, List.append_nil]
  | cons c content ih =>
    have unclosed : ¬ (c = '>' ∧ closes seen = true) := by
      rintro ⟨rfl, closed⟩
      have here : closes seen = false := early [] content rfl
      rw [here] at closed
      contradiction
    have later : ∀ before after, content = before ++ '>' :: after →
        closes (before.reverse ++ c :: seen) = false := by
      intro before after same
      have one := early (c :: before) after (by rw [same, List.cons_append])
      rwa [List.reverse_cons, List.append_assoc] at one
    have last : closes (content.reverse ++ c :: seen) = true := by
      rwa [List.reverse_cons, List.append_assoc] at late
    rw [List.cons_append, cutAt, if_neg unclosed, ih later last, List.reverse_cons,
      List.append_assoc]
    rfl

end Sections

section Comments

variable {body : List Char}

private theorem comment_closes {seen : List Char} (closed : Section.comment.closes seen = true) :
    ∃ inner, seen = '-' :: '-' :: inner ∧ 3 ≤ inner.length := by
  unfold Section.closes at closed
  split at closed
  case h_3 inner _ => exact ⟨inner, rfl, of_decide_eq_true closed⟩
  all_goals contradiction

/-- The hyphens that would close a comment are none of the two that start it, so they
and the `>` after them are in its body. -/
theorem comment_open (whole : ¬ ['-', '-', '>'] <:+: body) {before after : List Char}
    (same : '!' :: '-' :: '-' :: (body ++ ['-', '-']) = before ++ '>' :: after) :
    Section.comment.closes before.reverse = false := by
  rw [Bool.eq_false_iff]
  intro closed
  obtain ⟨seen, ends, enough⟩ := comment_closes closed
  obtain ⟨inner, rfl, long⟩ : ∃ inner, before = inner ++ ['-', '-'] ∧ 3 ≤ inner.length := by
    refine ⟨seen.reverse, ?_, by rwa [List.length_reverse]⟩
    rw [← List.reverse_reverse before, ends, List.reverse_cons, List.reverse_cons,
      List.append_assoc, List.singleton_append]
  match inner, long with
  | _ :: _ :: _ :: inner, _ =>
    have tail : body ++ ['-', '-'] = (inner ++ ['-', '-']) ++ '>' :: after := by
      exact (List.cons.inj (List.cons.inj (List.cons.inj same).2).2).2
    rcases List.append_eq_append_iff.mp tail with ⟨shared, _, hyphens⟩ | ⟨shared, split, bracket⟩
    · have member : '>' ∈ ['-', '-'] := by
        rw [hyphens]
        exact List.mem_append_right _ List.mem_cons_self
      contradiction
    · cases shared with
      | nil => cases bracket
      | cons first more =>
        obtain rfl : '>' = first := (List.cons.inj bracket).1
        exact whole ⟨inner, more, by rw [split]; simp⟩

private theorem cutAt_comment (whole : ¬ ['-', '-', '>'] <:+: body) (rest : List Char) :
    cutAt Section.comment.closes [] ('!' :: '-' :: '-' :: (body ++ ['-', '-']) ++ '>' :: rest) =
      some ('!' :: '-' :: '-' :: (body ++ ['-', '-']), rest) := by
  refine cutAt_content (fun before after same => ?_) ?_
  · rw [List.append_nil]
    exact comment_open whole same
  · have reversed : ('!' :: '-' :: '-' :: (body ++ ['-', '-'])).reverse =
        '-' :: '-' :: (body.reverse ++ ['-', '-', '!']) := by simp
    rw [List.append_nil, reversed]
    simp [Section.closes]

private theorem scan_comment (whole : ¬ ['-', '-', '>'] <:+: body) (offset : Nat)
    (rest : List Char) :
    ∃ stop, scan offset ('<' :: '!' :: '-' :: '-' :: (body ++ '-' :: '-' :: '>' :: rest)) =
      scan stop rest := by
  have shape : '<' :: '!' :: '-' :: '-' :: (body ++ '-' :: '-' :: '>' :: rest) =
      '<' :: ('!' :: '-' :: '-' :: (body ++ ['-', '-']) ++ '>' :: rest) := by simp
  rw [shape, scan_section offset rfl (cutAt_comment whole rest) rfl]
  exact ⟨_, rfl⟩

private theorem scan_text {cs : List Char} (plain : '<' ∉ cs) (offset : Nat) (rest : List Char) :
    ∃ stop, scan offset (cs ++ rest) = scan stop rest := by
  induction cs generalizing offset with
  | nil => exact ⟨offset, rfl⟩
  | cons c cs ih =>
    rw [List.cons_append, scan_skip (List.ne_of_not_mem_cons plain).symm]
    exact ih (List.not_mem_of_not_mem_cons plain) _

/-- What stands between tags leaves no trace but in the offsets after it. -/
theorem scan_gap {gap : List Char} (between : Gap gap) (offset : Nat) (rest : List Char) :
    ∃ stop, scan offset (gap ++ rest) = scan stop rest := by
  induction between generalizing offset with
  | nil => exact ⟨offset, rfl⟩
  | @text cs gap plain _ ih =>
    obtain ⟨middle, passed⟩ := scan_text plain offset (gap ++ rest)
    rw [List.append_assoc, passed]
    exact ih middle
  | @comment body gap whole _ ih =>
    obtain ⟨middle, passed⟩ := scan_comment whole offset (gap ++ rest)
    simp only [List.cons_append, List.append_assoc]
    rw [passed]
    exact ih middle

end Comments

section Quotes

variable {cs : List Char}

/-- The quote that is open after one more character. -/
def quoteAfter (quote : Option Char) (c : Char) : Option Char :=
  match quote with
  | none => if c = '"' ∨ c = '\'' then some c else none
  | some q => if c = q then none else some q

private theorem openQuote_eq (cs : List Char) : openQuote cs = cs.foldl quoteAfter none := rfl

private theorem openQuote_append (closed : openQuote cs = none) (ds : List Char) :
    openQuote (cs ++ ds) = openQuote ds := by
  rw [openQuote_eq, List.foldl_append, ← openQuote_eq, closed, openQuote_eq]

private theorem openQuote_plain (double : '"' ∉ cs) (single : '\'' ∉ cs) : openQuote cs = none := by
  induction cs with
  | nil => rfl
  | cons c cs ih =>
    have closed : quoteAfter none c = none := by
      simp [quoteAfter, (List.ne_of_not_mem_cons double).symm,
        (List.ne_of_not_mem_cons single).symm]
    rw [openQuote_eq, List.foldl_cons, closed, ← openQuote_eq]
    exact ih (List.not_mem_of_not_mem_cons double) (List.not_mem_of_not_mem_cons single)

private theorem quote_kept {quote : Char} (unquoted : quote ∉ cs) :
    cs.foldl quoteAfter (some quote) = some quote := by
  induction cs with
  | nil => rfl
  | cons c cs ih =>
    have kept : quoteAfter (some quote) c = some quote :=
      if_neg (List.ne_of_not_mem_cons unquoted).symm
    rw [List.foldl_cons, kept]
    exact ih (List.not_mem_of_not_mem_cons unquoted)

private theorem openQuote_quoted (unquoted : '"' ∉ cs) :
    openQuote ('"' :: (cs ++ ['"'])) = none := by
  rw [openQuote_eq, List.foldl_cons, List.foldl_append]
  change List.foldl quoteAfter (cs.foldl quoteAfter (some '"')) ['"'] = none
  rw [quote_kept unquoted]
  rfl

private theorem openQuote_name (named : isName cs = true) : openQuote cs = none :=
  openQuote_plain (not_mem_of_isName named (by decide)) (not_mem_of_isName named (by decide))

private theorem openQuote_writeAttributes {attributes : List (String × String)}
    (named : ∀ a ∈ attributes, isName a.1.toList = true) :
    openQuote (writeAttributes attributes) = none := by
  induction attributes with
  | nil => rfl
  | cons a attributes ih =>
    have key : openQuote (' ' :: a.1.toList) = none :=
      (openQuote_append rfl a.1.toList : openQuote ([' '] ++ a.1.toList) = _).trans
        (openQuote_name (named a List.mem_cons_self))
    have value : openQuote ('"' :: (escape a.2.toList ++ ['"'])) = none :=
      openQuote_quoted (not_mem_escape rfl (by decide) a.2.toList)
    have shape : writeAttributes (a :: attributes) = (' ' :: a.1.toList) ++ (['='] ++
        ('"' :: (escape a.2.toList ++ ['"']) ++ writeAttributes attributes)) := by
      rw [writeAttributes_cons]
      simp
    rw [shape, openQuote_append key, openQuote_append rfl, openQuote_append value]
    exact ih fun b member => named b (List.mem_cons_of_mem _ member)

end Quotes

section Tags

variable {name : String} {attributes : List (String × String)}

/-- What stands between the brackets of a tag, if it is closed by the first `>`. -/
structure Enclosed (content : List Char) : Prop where
  opens : ∀ rest, Section.of? (content ++ rest) = some .tag
  unbracketed : '>' ∉ content
  unquoted : openQuote content = none

theorem scan_tag {content : List Char} (enclosed : Enclosed content) (offset : Nat)
    (rest : List Char) :
    scan offset ('<' :: (content ++ '>' :: rest)) =
      let stop := offset + width content + 2
      (⟨content, offset, stop⟩ :: (scan stop rest).1, (scan stop rest).2) := by
  refine scan_section offset (enclosed.opens _) (cutAt_content ?_ ?_) rfl
  · intro before after same
    refine absurd ?_ enclosed.unbracketed
    rw [same]
    exact List.mem_append_right _ List.mem_cons_self
  · simp only [List.append_nil, Section.closes, List.reverse_reverse, enclosed.unquoted,
      decide_true]

private theorem of?_tag {c : Char} (emphasis : c ≠ '!') (question : c ≠ '?') (cs : List Char) :
    Section.of? (c :: cs) = some .tag := by
  unfold Section.of?
  split <;> simp_all

theorem Enclosed.slash {content : List Char} (enclosed : Enclosed content) :
    Enclosed (content ++ ['/']) where
  opens rest := by
    rw [List.append_assoc]
    exact enclosed.opens _
  unbracketed := by simpa using enclosed.unbracketed
  unquoted := by
    rw [openQuote_append enclosed.unquoted]
    rfl

theorem enclosed_closing {cs : List Char} (named : isName cs = true) : Enclosed ('/' :: cs) where
  opens rest := of?_tag (by decide) (by decide) (cs ++ rest)
  unbracketed := by simpa using not_mem_of_isName named (by decide)
  unquoted := (openQuote_append rfl cs : openQuote (['/'] ++ cs) = _).trans (openQuote_name named)

private theorem unbracketed_writeAttributes (named : ∀ a ∈ attributes, isName a.1.toList = true) :
    '>' ∉ writeAttributes attributes := by
  rw [writeAttributes, List.mem_flatMap]
  rintro ⟨a, member, inside⟩
  have key : '>' ∉ a.1.toList := not_mem_of_isName (named a member) (by decide)
  have value : '>' ∉ escape a.2.toList := not_mem_escape rfl (by decide) a.2.toList
  simp [writeAttribute, key, value] at inside

theorem enclosed_writeTag (plain : PlainTag name attributes) :
    Enclosed (writeTag name attributes) where
  opens rest := by
    obtain ⟨c, cs, letter, shape⟩ := writeTag_cons plain.name attributes
    rw [shape]
    exact of?_tag (ne_of_isNameChar letter (by decide)) (ne_of_isNameChar letter (by decide)) _
  unbracketed := by
    rw [writeTag, List.mem_append, not_or]
    exact ⟨not_mem_of_isName plain.name (by decide),
      unbracketed_writeAttributes fun a member => (plain.keys a member).1⟩
  unquoted := by
    rw [writeTag, openQuote_append (openQuote_name plain.name)]
    exact openQuote_writeAttributes fun a member => (plain.keys a member).1

end Tags

end MapTheme.Markup
