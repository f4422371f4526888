import ScriptGraph.Proofs.Source.Nesting
import ScriptGraph.Proofs.Text.Blank

/-! # Lines in the text

What a pass writes is added to the end of the text. The footer of the routine takes no more than
blank lines off it, so that every line that shows anything stands in the text where it was written.
-/

namespace ScriptGraph.Source

open Text (isBlank dropEndWhile)

/-- The step adds to the end of a text. -/
def Step.isAppending : Step → Bool
  | .insert .. | .close _ => false
  | _ => true

theorem Event.isAppending_of_step? {e : Event} {t : Step} (h : e.step? = some t) :
    t.isAppending := by
  cases e <;> cases h <;> rfl

namespace Writer

variable {w : Writer} {ts : List Step} {front back : List Char} {b c : Char}

/-! ### Steps of a writer -/

theorem prefix_apply {t : Step} (h : t.isAppending) (w : Writer) :
    w.buffer.toList <+: (w.apply t).buffer.toList := by
  cases t with
  | line | blank =>
    refine ⟨_, (String.toList_append ..).symm⟩
  | indent | dedent => exact List.prefix_refl _
  | insert | close => cases h

theorem prefix_after (h : ∀ t ∈ ts, t.isAppending) (w : Writer) :
    w.buffer.toList <+: (w.after ts).buffer.toList := by
  induction ts generalizing w with
  | nil => exact List.prefix_refl _
  | cons t ts ih =>
    obtain ⟨first, rest⟩ := List.forall_mem_cons.mp h
    exact (prefix_apply first w).trans (ih rest _)

theorem semicolons_after (w : Writer) (ts : List Step) :
    (w.after ts).semicolons = w.semicolons := by
  induction ts generalizing w with
  | nil => rfl
  | cons t ts ih =>
    rw [after_cons, ih]
    cases t <;> rfl

/-- Blank lines are dropped no further than to the first character behind the last line that shows
anything. The text is given in reverse. -/
theorem dropBlankLines_append (hc : c ≠ '\n') (b : Char) (back front : List Char) :
    ∃ back', dropBlankLines (back ++ b :: c :: front) = back' ++ b :: c :: front := by
  induction back with
  | nil =>
    refine ⟨[], ?_⟩
    rw [List.nil_append, dropBlankLines.eq_def]
    split
    next h => exact absurd (List.cons.inj (List.cons.inj h).2).1 hc
    next => rfl
  | cons x back ih =>
    rw [List.cons_append, dropBlankLines.eq_def]
    split
    next rest h =>
      rw [← (List.cons.inj h).2]
      exact ih
    next => exact ⟨x :: back, rfl⟩

theorem exists_buffer_close (hw : w.buffer.toList = front ++ c :: b :: back) (hc : c ≠ '\n')
    (text : String) : ∃ back', (w.close text).buffer.toList =
      front ++ c :: b :: back' ++ (formatLine w.semicolons w.depth text).toList := by
  obtain ⟨back', kept⟩ := dropBlankLines_append hc b back.reverse front.reverse
  refine ⟨back'.reverse, ?_⟩
  have reversed : w.buffer.toList.reverse = back.reverse ++ b :: c :: front.reverse := by
    simp [hw]
  simp [close, line, reversed, kept]

/-- The brace that closes the routine. -/
theorem exists_formatLine_brace (semicolons : Bool) (depth : Nat) :
    ∃ indent rest, (formatLine semicolons depth "\x7d").toList = indent ++ '\x7d' :: rest := by
  have shown : (Text.trim (cleanLine "\x7d")).isEmpty = false := by decide
  have clean : (cleanLine "\x7d").toList = ['\x7d'] := by decide
  refine ⟨List.replicate (2 * depth) ' ', ?_⟩
  simp [formatLine, shown, clean]

theorem after_footer (w : Writer) : w.after Generator.footer =
    (w.dedent.close "\x7d").after [.blank, .line "main()"] := by
  rw [Generator.footer, after_cons, after_cons]
  rfl

/-- The footer of the routine keeps what has been written, up to a blank that follows it. -/
theorem exists_finish_footer (hw : w.buffer.toList = front ++ c :: b :: back)
    (hc : isBlank c = false) (first : ∀ x ∈ w.buffer.toList.head?, isBlank x = false) :
    ∃ rest, (w.after Generator.footer).finish.toList = front ++ c :: b :: rest := by
  have visible : c ≠ '\n' := by
    rintro rfl
    revert hc
    decide
  obtain ⟨back', closed⟩ := exists_buffer_close (w := w.dedent) hw visible "\x7d"
  obtain ⟨indent, more, brace⟩ := exists_formatLine_brace w.semicolons (w.depth - 1)
  rw [show (w.dedent.semicolons) = w.semicolons from rfl,
    show w.dedent.depth = w.depth - 1 from rfl, brace] at closed
  have last : ∀ t ∈ [Step.blank, .line "main()"], t.isAppending := by decide
  obtain ⟨rest, whole⟩ := prefix_after last (w.dedent.close "\x7d")
  have buffer : (w.after Generator.footer).buffer.toList =
      (front ++ c :: b :: (back' ++ indent)) ++ '\x7d' :: (more ++ rest) := by
    rw [after_footer, ← whole, closed]
    simp
  have start : (w.after Generator.footer).buffer.toList.dropWhile isBlank =
      (w.after Generator.footer).buffer.toList := by
    rw [buffer]
    rw [hw] at first
    cases front with
    | nil => exact List.dropWhile_cons_of_neg (by simpa using hc)
    | cons x front => exact List.dropWhile_cons_of_neg (by simpa using first x rfl)
  refine ⟨back' ++ indent ++ '\x7d' :: dropEndWhile isBlank (more ++ rest), ?_⟩
  rw [finish, Text.trim, String.toList_ofList, start, buffer,
    Text.dropEndWhile_append_of_neg (by decide)]
  simp

/-- A line ends in blanks. -/
theorem exists_formatLine_eq (semicolons : Bool) (depth : Nat) (text : String) :
    ∃ b blanks, isBlank b ∧ (formatLine semicolons depth text).toList =
      (Text.trimEnd (formatLine semicolons depth text)).toList ++ b :: blanks := by
  obtain ⟨shown, line⟩ : ∃ shown, (formatLine semicolons depth text).toList = shown ++ ['\n'] := by
    unfold formatLine
    dsimp only
    split
    · exact ⟨[], rfl⟩
    · exact ⟨_, String.toList_append ..⟩
  obtain ⟨taken, parts, blank⟩ := Text.exists_eq_dropEndWhile_append isBlank shown
  rw [Text.trimEnd, String.toList_ofList, line, Text.dropEndWhile_concat_of_pos (by decide)]
  cases taken with
  | nil => exact ⟨'\n', [], by decide, by rw [List.append_nil] at parts; rw [← parts]⟩
  | cons b taken =>
    refine ⟨b, taken ++ ['\n'], blank b List.mem_cons_self, ?_⟩
    conv => lhs; rw [parts]
    simp

end Writer

/-! ### Texts of graphs -/

namespace Generator

variable {g : Generator} {graph : Graph} {i : Nat} {st : Statement}

/-- The writer of the text of a graph at the time of an event. -/
def writerAt (g : Generator) (graph : Graph) (i : Nat) : Writer :=
  g.writer.after (g.header graph ++ hoistedLine (g.draft graph) ++
    ((g.draft graph).log.toList.take i).filterMap Event.step?)

theorem semicolons_writerAt (g : Generator) (graph : Graph) (i : Nat) :
    (g.writerAt graph i).semicolons = g.options.emitSemicolons :=
  Writer.semicolons_after _ _

theorem isAppending_hoistedLine (d : Draft) : ∀ t ∈ hoistedLine d, t.isAppending := by
  unfold hoistedLine
  split
  · exact List.forall_mem_nil _
  · exact List.forall_mem_singleton.mpr rfl

theorem isAppending_filterMap (es : List Event) :
    ∀ t ∈ es.filterMap Event.step?, t.isAppending := by
  intro t ht
  obtain ⟨e, -, he⟩ := List.mem_filterMap.mp ht
  exact Event.isAppending_of_step? he

/-- The header comes before a line, the footer after it, and all between them adds to the text. -/
theorem exists_generate_of_write (h : (g.draft graph).log.toList[i]? = some (.write st)) :
    ∃ earlier later : List Step, (∀ t ∈ earlier, t.isAppending) ∧ (∀ t ∈ later, t.isAppending) ∧
      g.writerAt graph i = (g.writer.after (g.header graph)).after earlier ∧
      g.generate graph =
        ((((g.writerAt graph i).line st.text).after later).after footer).finish := by
  let log := (g.draft graph).log.toList
  refine ⟨hoistedLine (g.draft graph) ++ (log.take i).filterMap Event.step?,
    (log.drop (i + 1)).filterMap Event.step?, ?earlier, isAppending_filterMap _, ?reached, ?text⟩
  case earlier =>
    exact List.forall_mem_append.mpr ⟨isAppending_hoistedLine _, isAppending_filterMap _⟩
  case reached => simp only [writerAt, List.append_assoc, Writer.after_append, log]
  case text =>
    obtain ⟨hi, he⟩ := List.getElem?_eq_some_iff.mp h
    have parts : log = log.take i ++ .write st :: log.drop (i + 1) := by
      rw [← he, ← List.drop_eq_getElem_cons hi, List.take_append_drop]
    have steps : g.steps graph = g.header graph ++ hoistedLine (g.draft graph) ++
        (log.take i).filterMap Event.step? ++ .line st.text ::
          ((log.drop (i + 1)).filterMap Event.step? ++ footer) := by
      rw [Generator.steps]
      change _ ++ log.filterMap Event.step? ++ _ = _
      conv => lhs; rw [parts]
      simp [Event.step?]
    change (g.writer.after (g.steps graph)).finish = _
    rw [steps, Writer.after_append, Writer.after_cons, Writer.after_append]
    rfl

/-- A text begins with the header of the routine. -/
theorem head?_header (g : Generator) (graph : Graph) :
    (g.writer.after (g.header graph)).buffer.toList.head?.any (!isBlank ·) := by
  unfold header writer
  cases g.options.emitSemicolons <;> cases g.options.emitStrictHeader <;>
    cases (g.setting graph).requiresAsync <;> decide +kernel

/-- So it does when more is written. -/
theorem head?_after (g : Generator) (graph : Graph) {ts : List Step}
    (h : ∀ t ∈ ts, t.isAppending) :
    ∀ x ∈ ((g.writer.after (g.header graph)).after ts).buffer.toList.head?, isBlank x = false := by
  obtain ⟨y, first, visible⟩ := (Option.any_eq_true ..).mp (g.head?_header graph)
  obtain ⟨rest, whole⟩ := Writer.prefix_after h (g.writer.after (g.header graph))
  rw [← whole, List.head?_append, first, Option.some_or]
  rintro x ⟨⟩
  simpa using visible

/-- A line that shows anything stands in the text behind all that was written before it, indented,
and a blank follows. -/
theorem generate_of_write (h : (g.draft graph).log.toList[i]? = some (.write st)) {w : Writer}
    (hw : g.writerAt graph i = w) {line : String}
    (hl : Text.trimEnd (formatLine w.semicolons w.depth st.text) = line) (shown : line ≠ "") :
    ∃ b rest, isBlank b ∧ g.generate graph = w.buffer ++ line ++ String.ofList (b :: rest) := by
  obtain ⟨b, blanks, blank, written⟩ :=
    Writer.exists_formatLine_eq w.semicolons w.depth st.text
  rw [hl] at written
  obtain ⟨front, c, ends⟩ : ∃ front c, line.toList = front ++ [c] := by
    rcases List.eq_nil_or_concat' line.toList with he | he
    · exact absurd (String.toList_eq_nil_iff.mp he) shown
    · exact he
  have visible : isBlank c = false := by
    rw [← hl, Text.trimEnd, String.toList_ofList] at ends
    have last : c ∈ (dropEndWhile isBlank
        (formatLine w.semicolons w.depth st.text).toList).getLast? := by
      rw [ends, List.getLast?_concat]
      rfl
    exact Text.getLast?_dropEndWhile last
  obtain ⟨earlier, later, before, after, reached, text⟩ := exists_generate_of_write h
  rw [hw] at reached text
  obtain ⟨more, whole⟩ := Writer.prefix_after after (w.line st.text)
  have buffer : ((w.line st.text).after later).buffer.toList =
      (w.buffer.toList ++ front) ++ c :: b :: (blanks ++ more) := by
    rw [← whole, Writer.line, String.toList_append, written, ends]
    simp
  have appending : ∀ t ∈ earlier ++ .line st.text :: later, t.isAppending :=
    List.forall_mem_append.mpr ⟨before, List.forall_mem_cons.mpr ⟨rfl, after⟩⟩
  have first := g.head?_after graph appending
  rw [Writer.after_append, ← reached, Writer.after_cons] at first
  obtain ⟨rest, finished⟩ := Writer.exists_finish_footer buffer visible first
  refine ⟨b, rest, blank, ?_⟩
  rw [← String.toList_inj, text, finished]
  simp [ends]

end Generator

end ScriptGraph.Source
