import ScriptGraph.Proofs.Decimal.Characters
import ScriptGraph.Proofs.Source.Lines
import ScriptGraph.Proofs.Source.Variables

/-! # Semicolons

A line that declares a name or assigns it is a statement of its own. Where semicolons are wanted it
is judged by its text nevertheless: by the last character, as if a value could not end like a block,
and where it begins with the name also by the first word.
-/

namespace ScriptGraph.Source

open Text (isBlank dropEndWhile trimEnd)

variable {cs cs' : List Char} {c : Char}

/-! ### What a line keeps -/

/-- What a line keeps of the characters at its end, before it gets a semicolon. -/
def kept (cs : List Char) : List Char :=
  dropEndWhile isBlank (dropEndWhile (· = ';') (dropEndWhile isBlank cs))

/-- The last character that a line keeps of a text at its end. -/
def lastKept? (text : String) : Option Char :=
  (kept text.toList).getLast?

theorem kept_append (hb : isBlank c = false) (hs : c ≠ ';') (cs cs' : List Char) :
    kept (cs ++ c :: cs') = cs ++ c :: kept cs' := by
  unfold kept
  rw [Text.dropEndWhile_append_of_neg hb, Text.dropEndWhile_append_of_neg (decide_eq_false hs),
    Text.dropEndWhile_append_of_neg hb]

/-- A blank is kept if anything behind it is. -/
theorem kept_cons_blank (cs : List Char) :
    kept (' ' :: cs) = if kept cs = [] then [] else ' ' :: kept cs := by
  have blank : isBlank ' ' = true := by decide
  have other (cs : List Char) :
      dropEndWhile (· = ';') (' ' :: cs) = ' ' :: dropEndWhile (· = ';') cs :=
    Text.dropEndWhile_append_of_neg (by decide) [] cs
  unfold kept
  rw [Text.dropEndWhile_cons_of_pos blank]
  split
  next he => rw [he]; rfl
  next => rw [other, Text.dropEndWhile_cons_of_pos blank]

theorem getLast?_kept_cons_blank (cs : List Char) :
    (kept (' ' :: cs)).getLast? = (kept cs).getLast? := by
  rw [kept_cons_blank]
  split
  next he => rw [he]
  next he => rw [List.getLast?_cons, List.getLast?_eq_some_getLast he, Option.getD_some]

/-! ### Plain statements -/

/-- Whether a line that begins so is taken for a comment, or for one that opens or continues a
block. -/
def beginsOther (cs : List Char) : Bool :=
  ['/', '/'].isPrefixOf cs || ['/', '*'].isPrefixOf cs ||
    blockKeywords.contains (String.ofList (cs.takeWhile isWordChar))

/-- What follows a character that is in no word and in no sign of a comment makes no difference. -/
theorem beginsOther_append (hw : isWordChar c = false) (hc : c ≠ '/' ∧ c ≠ '*')
    (cs cs' : List Char) : beginsOther (cs ++ c :: cs') = beginsOther cs := by
  have word : (cs ++ c :: cs').takeWhile isWordChar = cs.takeWhile isWordChar := by
    rw [List.takeWhile_append, List.takeWhile_cons_of_neg (Bool.not_eq_true _ ▸ hw)]
    split
    next he => rw [List.append_nil, (List.takeWhile_prefix isWordChar).eq_of_length he]
    next => rfl
  unfold beginsOther
  rw [word]
  match cs with
  | [] => simp [List.isPrefixOf, hc.1.symm]
  | [x] => simp [List.isPrefixOf, hc.1.symm, hc.2.symm]
  | x :: y :: cs => rfl

theorem toList_cleanLine {text : String} (h : text.toList = cs ++ c :: cs')
    (hb : isBlank c = false) (hs : c ≠ ';') : (cleanLine text).toList =
      cs ++ c :: dropEndWhile (· = ';') (dropEndWhile isBlank cs') := by
  rw [cleanLine, trimEnd, String.toList_ofList, String.toList_ofList, h,
    Text.dropEndWhile_append_of_neg hb, Text.dropEndWhile_append_of_neg (decide_eq_false hs)]

theorem toList_trim_cleanLine {text : String} (h : text.toList = cs ++ c :: cs')
    (hb : isBlank c = false) (hs : c ≠ ';') :
    (Text.trim (cleanLine text)).toList = cs.dropWhile isBlank ++ c :: kept cs' := by
  rw [Text.trim, String.toList_ofList, toList_cleanLine h hb hs, Text.dropWhile_append_of_neg hb,
    Text.dropEndWhile_append_of_neg hb]
  rfl

theorem getLast?_append_cons (cs : List Char) (c : Char) (cs' : List Char) :
    (cs ++ c :: cs').getLast? = some (cs'.getLast?.getD c) := by
  rw [List.getLast?_append, List.getLast?_cons, Option.some_or]

theorem isStatement_cleanLine {text : String} (h : text.toList = cs ++ c :: cs')
    (hb : isBlank c = false) (hs : c ≠ ';') : isStatement (cleanLine text) =
      (!beginsOther (cs.dropWhile isBlank ++ c :: kept cs') &&
        !endsOpen ((kept cs').getLast?.getD c)) := by
  have last := getLast?_append_cons (cs.dropWhile isBlank) c (kept cs')
  unfold isStatement
  dsimp only
  rw [toList_trim_cleanLine h hb hs, last, Option.any_some]
  unfold beginsOther
  simp only [Bool.not_or, Bool.and_assoc, Bool.and_comm, Bool.and_left_comm]

/-! ### Terminated lines -/

/-- The last character of a line in a text with semicolons. -/
theorem getLast?_formatLine {text : String} (h : text.toList = cs ++ c :: cs')
    (hb : isBlank c = false) (hs : c ≠ ';') (depth : Nat) :
    (trimEnd (formatLine true depth text)).toList.getLast? =
      some (if isStatement (cleanLine text) then ';' else (kept cs').getLast?.getD c) := by
  let indent := List.replicate (2 * depth) ' '
  let rest := dropEndWhile (· = ';') (dropEndWhile isBlank cs')
  have shown : (Text.trim (cleanLine text)).isEmpty = false := by
    rw [Bool.eq_false_iff, ne_eq, String.isEmpty_iff, ← String.toList_eq_nil_iff,
      toList_trim_cleanLine h hb hs]
    simp
  have line : (formatLine true depth text).toList = (indent ++ cs) ++ c ::
      (rest ++ (if isStatement (cleanLine text) then [';'] else []) ++ ['\n']) := by
    unfold formatLine
    simp only [shown, Bool.true_and, Bool.false_eq_true, if_false, String.toList_append,
      toList_cleanLine h hb hs, String.toList_ofList, apply_ite String.toList]
    simp [indent, rest]
  rw [trimEnd, String.toList_ofList, line, Text.dropEndWhile_append_of_neg hb,
    Text.dropEndWhile_concat_of_pos (by decide)]
  split
  · rw [Text.dropEndWhile_concat_of_neg (by decide), getLast?_append_cons, List.getLast?_concat]
    rfl
  · rw [List.append_nil]
    exact getLast?_append_cons ..

/-- The end of a text is not taken for the end of a line that is no statement. -/
def Closed (text : String) : Prop :=
  ∀ c ∈ lastKept? text, c = ';' ∨ endsOpen c = false

instance (text : String) : Decidable (Closed text) :=
  decidable_of_iff ((lastKept? text).all fun c => decide (c = ';') || !endsOpen c) <| by
    simp [Closed, Option.all_eq_true]

/-- A text holds a character that is neither blank nor a semicolon, and a blank behind it. Then it
depends on what comes behind them and on how the text begins whether its line is terminated. -/
theorem exists_last {text last : String} (h : text.toList = cs ++ c :: ' ' :: last.toList)
    (hb : isBlank c = false) (hs : c ≠ ';') (hc : endsOpen c = false) (depth : Nat) :
    ∃ l, (trimEnd (formatLine true depth text)).toList.getLast? = some l ∧
      (l = ';' ↔ Closed last ∧ (lastKept? last = some ';' ∨
        beginsOther (cs.dropWhile isBlank ++ c :: kept (' ' :: last.toList)) = false)) := by
  refine ⟨_, getLast?_formatLine h hb hs depth, ?_⟩
  rw [isStatement_cleanLine h hb hs, getLast?_kept_cons_blank]
  generalize beginsOther _ = other
  unfold Closed lastKept?
  cases (kept last.toList).getLast? with
  | none => cases other <;> simp [hs, hc]
  | some l =>
    by_cases hl : l = ';'
    · cases other <;> simp [hl]
    · cases other <;> simp [hl]

/-! ### Declarations and assignments -/

/-- The statement does nothing but declare a name or assign it. -/
inductive Statement.Sets : Statement → String → Prop where
  | declare (keyword : Keyword) (name : String) (value : Option String) :
      Sets (.declare keyword name value) name
  | assign (name value : String) : Sets (.assign name value) name

/-- A declaration or an assignment that is taken for the statement that it is, or has a semicolon
of its own. -/
inductive Statement.Closes : Statement → Prop where
  | declare {keyword : Keyword} {name : String} {value : Option String} :
      Closed (value.getD name) → Closes (.declare keyword name value)
  | assign {name value : String} : Closed value →
      lastKept? value = some ';' ∨ beginsOther (name.toList.dropWhile isBlank) = false →
        Closes (.assign name value)

theorem Statement.closes_declare_iff {keyword : Keyword} {name : String} {value : Option String} :
    (Statement.declare keyword name value).Closes ↔ Closed (value.getD name) :=
  ⟨fun | .declare h => h, .declare⟩

theorem Statement.closes_assign_iff {name value : String} :
    (Statement.assign name value).Closes ↔ Closed value ∧
      (lastKept? value = some ';' ∨ beginsOther (name.toList.dropWhile isBlank) = false) :=
  ⟨fun | .assign h h' => ⟨h, h'⟩, fun ⟨h, h'⟩ => .assign h h'⟩

/-- A line that begins with a keyword of declarations begins nothing else. -/
theorem beginsOther_keyword (keyword : Keyword) (cs : List Char) :
    beginsOther (keyword.text.toList ++ ' ' :: cs) = false := by
  rw [beginsOther_append (by decide) (by decide)]
  cases keyword <;> decide

/-- Neither does what a line keeps of a keyword and a name. -/
theorem beginsOther_keyword_kept (keyword : Keyword) (cs : List Char) :
    beginsOther (keyword.text.toList ++ kept (' ' :: cs)) = false := by
  rw [kept_cons_blank]
  split
  · cases keyword <;> decide
  · exact beginsOther_keyword keyword _

theorem dropWhile_keyword (keyword : Keyword) (cs : List Char) :
    (keyword.text.toList ++ cs).dropWhile isBlank = keyword.text.toList ++ cs := by
  cases keyword <;> exact List.dropWhile_cons_of_neg (by decide)

theorem exists_last_declare (keyword : Keyword) (name : String) (value : Option String)
    (depth : Nat) : ∃ l, (trimEnd (formatLine true depth
        (Statement.declare keyword name value).text)).toList.getLast? = some l ∧
      (l = ';' ↔ Closed (value.getD name)) := by
  cases value with
  | none =>
    obtain ⟨cs, split⟩ : ∃ cs, keyword.text.toList = cs ++ ['t'] := by
      cases keyword with
      | letBinding => exact ⟨['l', 'e'], rfl⟩
      | constBinding => exact ⟨['c', 'o', 'n', 's'], rfl⟩
    have text : (Statement.declare keyword name none).text.toList =
        cs ++ 't' :: ' ' :: name.toList := by
      change (keyword.text ++ " " ++ name).toList = _
      simp [split]
    have word := beginsOther_keyword_kept keyword name.toList
    rw [← dropWhile_keyword, split, List.append_assoc, List.singleton_append,
      Text.dropWhile_append_of_neg (by decide)] at word
    obtain ⟨l, last, closes⟩ := exists_last text (by decide) (by decide) (by decide) depth
    refine ⟨l, last, closes.trans ?_⟩
    simp [word]
  | some value =>
    have text : (Statement.declare keyword name (some value)).text.toList =
        keyword.text.toList ++ ' ' :: (name.toList ++ [' ']) ++ '=' :: ' ' :: value.toList := by
      change (keyword.text ++ " " ++ name ++ " = " ++ value).toList = _
      simp
    obtain ⟨l, last, closes⟩ := exists_last text (by decide) (by decide) (by decide) depth
    refine ⟨l, last, closes.trans ?_⟩
    rw [dropWhile_keyword, List.append_assoc, List.cons_append, beginsOther_keyword]
    simp

theorem exists_last_assign (name value : String) (depth : Nat) :
    ∃ l, (trimEnd (formatLine true depth (Statement.assign name value).text)).toList.getLast? =
        some l ∧
      (l = ';' ↔ Closed value ∧ (lastKept? value = some ';' ∨
        beginsOther (name.toList.dropWhile isBlank) = false)) := by
  have text : (Statement.assign name value).text.toList =
      name.toList ++ [' '] ++ '=' :: ' ' :: value.toList := by
    change (name ++ " = " ++ value).toList = _
    simp
  have word : beginsOther ((name.toList ++ [' ']).dropWhile isBlank) =
      beginsOther (name.toList.dropWhile isBlank) := by
    rw [List.dropWhile_append]
    split
    next he => rw [List.isEmpty_iff.mp he]; rfl
    next => exact beginsOther_append (by decide) (by decide) ..
  obtain ⟨l, last, closes⟩ := exists_last text (by decide) (by decide) (by decide) depth
  rw [beginsOther_append (by decide) (by decide), word] at closes
  exact ⟨l, last, closes⟩

theorem Statement.Sets.exists_last {st : Statement} {x : String} (h : st.Sets x) (depth : Nat) :
    ∃ l, (trimEnd (formatLine true depth st.text)).toList.getLast? = some l ∧
      (l = ';' ↔ st.Closes) := by
  cases h with
  | declare keyword _ value =>
    rw [closes_declare_iff]
    exact exists_last_declare keyword x value depth
  | assign _ value =>
    rw [closes_assign_iff]
    exact exists_last_assign x value depth

/-! ### Literals -/

/-- No character of the text is one after which no semicolon comes. -/
def NeverOpen (text : String) : Prop :=
  ∀ c ∈ text.toList, endsOpen c = false

instance (text : String) : Decidable (NeverOpen text) :=
  decidable_of_iff (text.toList.all fun c => !endsOpen c) (by simp [NeverOpen])

namespace NeverOpen

variable {text : String}

theorem closed (h : NeverOpen text) : Closed text := by
  intro c hc
  have part : kept text.toList <+: text.toList :=
    ((Text.dropEndWhile_isPrefix ..).trans (Text.dropEndWhile_isPrefix ..)).trans
      (Text.dropEndWhile_isPrefix ..)
  exact .inr (h c (part.subset (List.mem_of_getLast? hc)))

theorem endsOpen_of_isDigit (h : c.isDigit) : endsOpen c = false := by
  rw [Bool.eq_false_iff]
  intro hopen
  simp only [endsOpen, Bool.or_eq_true, decide_eq_true_eq] at hopen
  obtain (((rfl | rfl) | rfl) | rfl) | rfl := hopen <;> cases h

theorem digitText (n : Nat) : NeverOpen (Decimal.digitText n) :=
  Decimal.Consists.digitText (fun _ => endsOpen_of_isDigit) n

theorem plain (x : Float) : NeverOpen (Decimal.plain x) := by
  unfold Decimal.plain
  split
  · decide
  have unsigned : NeverOpen (if !x.isFinite then "inf"
      else if x == 0 then "0" else (Decimal.ofFloat x .away).plain) := by
    split
    · decide
    split
    · decide
    · exact Decimal.Consists.plain (fun _ => endsOpen_of_isDigit) rfl _
  unfold Decimal.signed
  split
  · exact Decimal.Consists.append (show NeverOpen "-" by decide) unsigned
  · exact unsigned

theorem formatNumber (x : Float) : NeverOpen (formatNumber x) := by
  have whole (n : Int) : NeverOpen (toString n) := by
    cases n with
    | ofNat n => exact digitText n
    | negSucc n =>
      exact Decimal.Consists.append (show NeverOpen "-" by decide) (digitText (n + 1))
  unfold Source.formatNumber
  split
  · decide
  split
  · split <;> decide
  split
  · split
    · exact whole _
    · exact plain x
  · exact plain x

end NeverOpen

/-- A literal of a type that is not structured is no source text, and it does not end like a
block. -/
theorem closed_typedLiteral {type : String} (h : type ∈ ["string", "number", "boolean"])
    (text : String) : Closed (typedLiteral type text) := by
  simp only [List.mem_cons, List.not_mem_nil, or_false] at h
  obtain rfl | rfl | rfl := h
  · intro c hc
    have quoted : (Json.quote text).toList = '"' :: text.toList.flatMap Json.escape ++ '"' :: [] :=
      String.toList_ofList
    rw [typedLiteral, if_pos rfl, lastKept?, quoted, kept_append (by decide) (by decide),
      getLast?_append_cons] at hc
    cases hc
    decide
  · rw [typedLiteral, if_neg (by decide), if_pos rfl]
    refine NeverOpen.closed ?_
    dsimp only
    split
    · decide
    unfold numberLiteral
    split
    · exact .formatNumber _
    · decide
  · rw [typedLiteral, if_neg (by decide), if_neg (by decide), if_pos rfl]
    split <;> decide

/-! ### Variables of a graph -/

section

variable {s : Setting} {d d' : Draft}

/-- The statement declares a variable, not of a structured type, with its initial value. -/
def Statement.DeclaresScalar (s : Setting) (st : Statement) : Prop :=
  ∃ v keyword value, (s.props v).text "type" ∈ ["string", "number", "boolean"] ∧
    s.declaredValue v none = some value ∧ st = .declare keyword (s.variableName v) (some value)

/-- Such a variable is never left open by its initial value. -/
theorem Statement.DeclaresScalar.closes {st : Statement} (h : st.DeclaresScalar s) :
    st.Closes := by
  obtain ⟨v, keyword, value, scalar, hv, rfl⟩ := h
  rw [Setting.declaredValue, Option.none_or, Option.ite_none_left_eq_some] at hv
  exact .declare (Option.some.inj hv.2 ▸ closed_typedLiteral scalar _)

/-- A line that declares a variable of the graph or assigns it does nothing else. -/
def SetsVariables (s : Setting) (es : List Event) : Prop :=
  ∀ st, .write st ∈ es → ∀ x ∈ s.variableNames, x ∈ st.declared ++ st.assigned → st.Sets x

theorem SetsVariables.append {es es' : List Event} (h : SetsVariables s es)
    (h' : SetsVariables s es') : SetsVariables s (es ++ es') :=
  fun st hst => (List.mem_append.mp hst).elim (h st) (h' st)

/-- Lines that set temporaries at most set no variable. -/
theorem setsVariables_of_temporaries {es : List Event} (ha : Apart s d)
    (h : ∀ st, .write st ∈ es → st.declared ++ st.assigned ⊆ d.names.temporaries) :
    SetsVariables s es :=
  fun st hst x hx hm => absurd hx (ha.temporaries x (h st hst hm))

theorem Statement.Sets.setsVariables {st : Statement} {x : String} (h : st.Sets x) :
    SetsVariables s [.write st] := by
  intro st' hst' y _ hy
  obtain rfl : st' = st := by simpa using hst'
  have only : st'.declared ++ st'.assigned = [x] := by cases h <;> rfl
  rw [only, List.mem_singleton] at hy
  exact hy ▸ h

theorem setsVariables_declaration (s : Setting) (v : Node) (assigned : Option String)
    (depth : Nat) : SetsVariables s (s.declaration v assigned depth) := by
  have silent : SetsVariables s [.declare (s.variableName v)] := by
    intro st hst
    simp at hst
  unfold Setting.declaration
  split
  · cases s.declaredValue v assigned with
    | none => exact silent
    | some value => exact silent.append (Statement.Sets.assign ..).setsVariables
  · exact silent.append (Statement.Sets.declare ..).setsVariables

theorem Act.setsVariables (h : Act s d d') (ha : Apart s d)
    (hs : SetsVariables s d.log.toList) : SetsVariables s d'.log.toList := by
  have silent {e : Event} (he : ∀ st, e ≠ .write st) : SetsVariables s [e] :=
    fun st hst => absurd (List.mem_singleton.mp hst).symm (he st)
  cases h with
  | prose hp hc =>
    rw [Draft.log_logged]
    refine hs.append (setsVariables_of_temporaries ha fun st hst => ?_)
    obtain ⟨declared, assigned⟩ := hp.isProse _ hst
    rw [declared, List.nil_append]
    exact List.Subset.trans assigned hc.taken
  | bind hd hst =>
    rw [Draft.log_logged]
    refine hs.append (setsVariables_of_temporaries ha fun st' hst' => ?_)
    obtain rfl : st' = _ := by simpa using hst'
    rw [hst, List.append_nil]
    exact hd.taken
  | declare assigned =>
    rw [s.log_declared]
    exact hs.append (setsVariables_declaration s _ assigned d.depth)
  | assign =>
    rw [Draft.log_logged]
    exact hs.append (Statement.Sets.assign ..).setsVariables
  | @fresh base =>
    rw [log_freshName]
    exact hs.append (silent nofun)
  | record port expression =>
    rw [log_record]
    exact hs.append (silent nofun)
  | begins | opens | closes | read =>
    exact (show _ = _ from d.log_logged [_]) ▸ hs.append (silent nofun)

theorem setsVariables_draft (options : Options) (registry : Registry) (graph : Graph) :
    SetsVariables ((withRegistry options registry).setting graph)
      ((withRegistry options registry).draft graph).log.toList := by
  have start : Orderly _ _ := orderly_start (withRegistry options registry) graph
  have steps (d d' : Draft) (h : Act ((withRegistry options registry).setting graph) d d') :
      Orderly _ d ∧ SetsVariables _ d.log.toList → Orderly _ d' ∧ SetsVariables _ d'.log.toList :=
    fun ⟨ho, hs⟩ => ⟨ho.act h, h.setsVariables ho.apart hs⟩
  exact (holds_of_acts (acts_draft options registry graph)
    ⟨start, fun _ h => absurd h List.not_mem_nil⟩ steps).2

end

/-- Where semicolons are wanted, every line that declares a variable of the graph or assigns it
stands in the text behind all that was written before, and a blank follows. It ends in a semicolon
exactly if its value, or the name where there is none, is not left open at the end, and if, where it
begins with the name, the name does not begin something else. The line that declares a variable with
an initial value always does, unless the variable is of a structured type. -/
theorem variable_terminated_iff (options : Options) (registry : Registry) (graph : Graph)
    (on : options.emitSemicolons = true) {i : Nat} {st : Statement} {x : String}
    (h : ((withRegistry options registry).draft graph).log.toList[i]? = some (.write st))
    (hx : x ∈ ((withRegistry options registry).setting graph).variableNames)
    (hst : x ∈ st.declared ++ st.assigned) :
    let w := (withRegistry options registry).writerAt graph i
    ∃ line last b rest, line = trimEnd (formatLine true w.depth st.text) ∧
      line.toList.getLast? = some last ∧ isBlank b ∧
      (withRegistry options registry).generate graph =
        w.buffer ++ line ++ String.ofList (b :: rest) ∧
      (last = ';' ↔ st.Closes) ∧
      (st.DeclaresScalar ((withRegistry options registry).setting graph) → last = ';') := by
  intro w
  have sets := setsVariables_draft options registry graph st (List.mem_of_getElem? h) x hx hst
  have wanted : w.semicolons = true :=
    (Generator.semicolons_writerAt (withRegistry options registry) graph i).trans on
  obtain ⟨last, ends, closes⟩ := sets.exists_last w.depth
  have shown : trimEnd (formatLine true w.depth st.text) ≠ "" := by
    intro he
    rw [he] at ends
    cases ends
  obtain ⟨b, rest, blank, text⟩ := Generator.generate_of_write h rfl (by rw [wanted]) shown
  exact ⟨_, last, b, rest, rfl, ends, blank, text, closes,
    fun scalar => closes.mpr scalar.closes⟩

/-- A variable that is set to a number and one that is set to an object. -/
def settings : Graph :=
  .ofLists
    [{ id := .ofNat 1, kind := Kind.onStart.name },
      { id := .ofNat 2, kind := Kind.var.name
        properties := [("name", .string "limit"), ("type", .string "number"),
          ("initialValue", .string "5")] },
      { id := .ofNat 3, kind := Kind.var.name
        properties := [("name", .string "config"), ("type", .string "object"),
          ("initialValue", .string "\x7b\x7d")] }]
    [.between (.ofNat 1) 0 (.ofNat 2) 0, .between (.ofNat 2) 0 (.ofNat 3) 0]

/-- Semicolons and nothing else. -/
def semicolonsOnly : Generator :=
  withRegistry { Options.minimal with emitSemicolons := true } .builtin

/-- The line of the number is terminated. -/
theorem settings_limit_terminated :
    (semicolonsOnly.draft settings).log.toList[4]? =
        some (.write (.declare .letBinding "limit" (some "5"))) ∧
      "limit" ∈ (semicolonsOnly.setting settings).variableNames ∧
      ∃ line b rest, line.toList.getLast? = some ';' ∧ isBlank b ∧
        semicolonsOnly.generate settings =
          (semicolonsOnly.writerAt settings 4).buffer ++ line ++ String.ofList (b :: rest) := by
  have written : (semicolonsOnly.draft settings).log.toList[4]? =
      some (.write (.declare .letBinding "limit" (some "5"))) :=
    write_of_statement? (by decide +kernel)
  have named : "limit" ∈ (semicolonsOnly.setting settings).variableNames := by decide +kernel
  obtain ⟨line, last, b, rest, -, ends, blank, text, -, closed⟩ :=
    variable_terminated_iff { Options.minimal with emitSemicolons := true } .builtin settings rfl
      written named (List.mem_cons_self ..)
  have scalar : (Statement.declare .letBinding "limit" (some "5")).DeclaresScalar
      (semicolonsOnly.setting settings) :=
    ⟨settings.nodes[1], .letBinding, "5", by decide +kernel, by decide +kernel,
      congrArg (Statement.declare _ · _) (by decide +kernel)⟩
  exact ⟨written, named, line, b, rest, closed scalar ▸ ends, blank, text⟩

/-- The line of the object is not, though semicolons are wanted. -/
theorem settings_config_unterminated :
    semicolonsOnly.generate settings =
        "function main() \x7b\n  let limit = 5;\n  let config = \x7b\x7d\n\x7d\n\nmain();" ∧
      ¬ ∀ (options : Options) (registry : Registry) (graph : Graph) (i : Nat) (st : Statement)
        (x : String), options.emitSemicolons = true →
        ((withRegistry options registry).draft graph).log.toList[i]? = some (.write st) →
        x ∈ ((withRegistry options registry).setting graph).variableNames →
        x ∈ st.declared ++ st.assigned →
        (trimEnd (formatLine true ((withRegistry options registry).writerAt graph i).depth
          st.text)).toList.getLast? = some ';' := by
  refine ⟨by decide +kernel, fun h => ?_⟩
  have written : (semicolonsOnly.draft settings).log.toList[8]? =
      some (.write (.declare .letBinding "config" (some "\x7b\x7d"))) :=
    write_of_statement? (by decide +kernel)
  have ends := h { Options.minimal with emitSemicolons := true } .builtin settings 8 _ "config" rfl
    written (by decide +kernel) (List.mem_cons_self ..)
  obtain ⟨last, same, closes⟩ := exists_last_declare .letBinding "config" (some "\x7b\x7d")
    ((semicolonsOnly.writerAt settings 8).depth)
  obtain rfl : last = ';' := Option.some.inj (same.symm.trans ends)
  exact absurd (closes.mp rfl) (by decide)

end ScriptGraph.Source
