import Prepared.Proofs.Console.Interactive

/-!
# What the console hands to the session

Lines of which only the last one ends in a semicolon make up one text. The loop hands it to the session
and goes on behind it (`readText?_chunk`, `interactive_of_readText?`), and the text is the one that the
lines spell, unless one of them is empty: empty lines are passed over behind the first line as well,
where they belong to the text. So a row of line breaks gets to the session as one
(`Chunk.handedOn_eq_squeezed`), also within a quoted text, which is another text then.
-/

namespace Prepared.Console

/-! ## Lines that make up one text -/

/-- Lines of which the first is not empty and only the last ends in a semicolon, and which do not spell
a command of the console. -/
structure Chunk (lines : List String) : Prop where
  first : lines.head? ≠ some ""
  statements : ¬Commands ("\n".intercalate lines)
  last : ∃ ls line, lines = ls ++ [line] ∧ Ends line ∧ ∀ l ∈ ls, ¬Ends l

/-- The text that the loop puts together from the lines of a text. -/
def handedOn (lines : List String) : String :=
  "\n".intercalate (counted lines)

theorem Ends.not_isEmpty {line : String} (h : Ends line) : ¬line.isEmpty = true := by
  intro hempty
  obtain rfl : line = "" := String.isEmpty_iff.1 hempty
  cases h

/-- The last line counts. -/
theorem counted_append_last {line : String} (h : Ends line) (ls : List String) :
    counted (ls ++ [line]) = counted ls ++ [line] := by
  have hlast : counted [line] = [line] := counted_cons h.not_isEmpty []
  rw [counted, List.filter_append]
  exact congrArg (counted ls ++ ·) hlast

/-! ### The first character that is no white space -/

/-- The first character of a text that is no white space. -/
def firstInk (s : List Char) : Option Char :=
  s.find? fun c => !Text.isBlank c

theorem firstInk_of_blank {s : List Char} (h : ∀ c ∈ s, Text.isBlank c = true) :
    firstInk s = none :=
  List.find?_eq_none.2 fun c hc => by simp [h c hc]

theorem firstInk_append (s s' : List Char) : firstInk (s ++ s') = (firstInk s).or (firstInk s') :=
  List.find?_append

/-- A text is a command if it begins with a backslash behind white space. -/
theorem commands_iff {text : String} : Commands text ↔ firstInk text.toList = some '\\' := by
  have htrim := Text.trimmed_trimChars text.toList
  unfold Commands
  generalize text.toList = s at htrim ⊢
  generalize Text.trimChars s = word at htrim ⊢
  obtain ⟨hfront, hback, hfirst, -⟩ := htrim
  rw [firstInk_append, firstInk_append, firstInk_of_blank hfront, firstInk_of_blank hback]
  cases word with
  | nil => simp [firstInk]
  | cons c word =>
    have hc : Text.isBlank c = false := hfirst
    simp [firstInk, hc]

theorem IsCommand.firstInk {line : String} (h : IsCommand line) :
    firstInk line.toList = some '\\' := by
  obtain ⟨s, hs⟩ := List.head?_eq_some_iff.1 h
  rw [hs]
  exact List.find?_cons_of_pos (by decide)

/-- It is found in the first line that has one. -/
theorem firstInk_intercalate (lines : List String) :
    firstInk ("\n".intercalate lines).toList = lines.findSome? fun l => firstInk l.toList := by
  induction lines with
  | nil => rfl
  | cons line lines ih =>
    rw [List.findSome?_cons]
    cases lines with
    | nil =>
      rw [String.intercalate_singleton]
      cases firstInk line.toList <;> rfl
    | cons l ls =>
      have hbreak : firstInk "\n".toList = none := by decide
      rw [String.intercalate_cons_of_ne_nil (List.cons_ne_nil l ls), String.toList_append,
        String.toList_append, firstInk_append, firstInk_append, hbreak, ih]
      cases firstInk line.toList <;> rfl

/-- Empty lines have none, so that passing over them makes no text a command. -/
theorem firstInk_handedOn (lines : List String) :
    firstInk (handedOn lines).toList = firstInk ("\n".intercalate lines).toList := by
  rw [handedOn, firstInk_intercalate, firstInk_intercalate]
  induction lines with
  | nil => rfl
  | cons line lines ih =>
    by_cases hempty : line.isEmpty = true
    · have hnone : firstInk line.toList = none := by
        rw [String.isEmpty_iff.1 hempty]
        rfl
      rw [counted_cons_of_empty hempty, ih, List.findSome?_cons, hnone]
    · rw [counted_cons hempty, List.findSome?_cons, List.findSome?_cons, ih]

theorem Chunk.not_commands {lines : List String} (h : Chunk lines) : ¬Commands (handedOn lines) := by
  rw [commands_iff, firstInk_handedOn, ← commands_iff]
  exact h.statements

/-- The line that a text begins with is no command. -/
theorem Chunk.first_counted {lines : List String} (h : Chunk lines) :
    ∀ line, (counted lines).head? = some line → ¬IsCommand line := by
  intro line hline hcommand
  obtain ⟨ls, hls⟩ := List.head?_eq_some_iff.1 hline
  refine h.not_commands (commands_iff.2 ?_)
  rw [handedOn, hls, firstInk_intercalate, List.findSome?_cons, hcommand.firstInk]

/-! ## Reading -/

/-- Behind lines of a text that are read already, the others are read up to the end of the text. -/
theorem readText?_append {before ls : List String} {line : String}
    (hfirst : ∀ l, (before ++ counted ls ++ [line]).head? = some l → ¬IsCommand l)
    (hls : ∀ l ∈ ls, ¬Ends l) (hline : Ends line) (more : List String) :
    readText? (pendingOf before) (ls ++ line :: more)
      = some ("\n".intercalate (before ++ counted ls ++ [line]), more) := by
  -- only the line that a text begins with is looked at for a command
  have hcommand {before after : List String} {l : String}
      (hfirst : ∀ l', (before ++ l :: after).head? = some l' → ¬IsCommand l') :
      ¬((pendingOf before).isEmpty && l.toList.head? = some '\\') = true := by
    intro h
    obtain ⟨hpending, hl⟩ := Bool.and_eq_true_iff.1 h
    obtain rfl : before = [] := pendingOf_eq_empty_iff.1 (String.isEmpty_iff.1 hpending)
    have hl : l.toList.head? = some '\\' := of_decide_eq_true hl
    exact hfirst l rfl hl
  induction ls generalizing before with
  | nil =>
    have hends : line.toList.getLast? = some ';' := hline
    simp only [counted, List.filter_nil, List.append_nil, List.nil_append] at hfirst ⊢
    unfold readText?
    rw [if_neg hline.not_isEmpty, if_neg (hcommand hfirst), if_pos hends, intercalate_append_line]
  | cons l ls ih =>
    obtain ⟨hl, hls⟩ := List.forall_mem_cons.1 hls
    rw [List.cons_append, readText?]
    by_cases hempty : l.isEmpty = true
    · rw [if_pos hempty]
      rw [counted_cons_of_empty hempty] at hfirst ⊢
      exact ih hfirst hls
    · have hgoesOn : ¬l.toList.getLast? = some ';' := hl
      have hnext : before ++ counted (l :: ls) ++ [line] = before ++ l :: (counted ls ++ [line]) := by
        rw [counted_cons hempty, List.append_assoc, List.cons_append]
      have hread : before ++ counted (l :: ls) ++ [line] = before ++ [l] ++ counted ls ++ [line] := by
        simp [counted_cons hempty]
      rw [if_neg hempty, if_neg (hcommand (hnext ▸ hfirst)), if_neg hgoesOn, ← pendingOf_append_line,
        hread]
      exact ih (hread ▸ hfirst) hls

/-- **The lines of a text are read at once**, and those behind them are left. -/
theorem readText?_chunk {lines : List String} (h : Chunk lines) (more : List String) :
    readText? "" (lines ++ more) = some (handedOn lines, more) := by
  have hfirst := h.first_counted
  obtain ⟨ls, line, rfl, hline, hls⟩ := h.last
  rw [counted_append_last hline] at hfirst
  have hread := @readText?_append [] ls line hfirst hls hline more
  rw [handedOn, counted_append_last hline, List.append_assoc]
  exact hread

/-! ## Carrying out -/

/-- What is printed for what comes of a text. -/
def shown : Except SessionError (List Outcome) → List String
  | .ok outcomes => outcomes.flatMap printed
  | .error e => ["Run Error: " ++ e.message]

theorem runText_eq_shown {text : String} (h : ¬Commands text)
    (hblank : (Text.trimChars text.toList).isEmpty = false) (s : Session) :
    runText s text = (shown (s.run text).1, (s.run text).2) := by
  rw [runText_of_not_commands h hblank]
  rcases s.run text with ⟨e | outcomes, s'⟩ <;> rfl

section

variable {ε : Type} {build : List Field → List ColumnData → Except ε RowSet}

/-- What comes of handing a text to the session at once, and of the loop over the lines after it. -/
def delivered (build : List Field → List ColumnData → Except ε RowSet) (s : Session) (text : String)
    (more : List String) : Run ε :=
  let rest := interactive build (s.run text).2 more
  { rest with printed := shown (s.run text).1 ++ rest.printed, texts := text :: rest.texts }

/-- A text that is read is handed to the session. -/
theorem interactive_of_readText? (hbuild : Builds build) {lines more : List String} {text : String}
    (hread : readText? "" lines = some (text, more)) (hstatements : ¬Commands text) (s : Session) :
    interactive build s lines = delivered build s text more := by
  rw [interactive_of_some hbuild hread, runText_eq_shown hstatements (not_blank_of_readText? hread)]
  rfl

end

/-! ## Empty lines -/

/-- Every row of line breaks made to one. -/
def squeezeBreaks : List Char → List Char
  | [] => []
  | c :: s => if c = '\n' ∧ s.head? = some '\n' then squeezeBreaks s else c :: squeezeBreaks s

theorem squeezeBreaks_append {w : List Char} (hw : '\n' ∉ w) (s : List Char) :
    squeezeBreaks (w ++ s) = w ++ squeezeBreaks s := by
  induction w with
  | nil => rfl
  | cons c w ih =>
    obtain ⟨hc, hw⟩ := not_or.1 (mt List.mem_cons.2 hw)
    rw [List.cons_append, squeezeBreaks, if_neg fun h => hc h.1.symm, ih hw, List.cons_append]

/-- An empty line is a line break too many. -/
theorem squeezeBreaks_break (s : List Char) :
    squeezeBreaks ('\n' :: '\n' :: s) = squeezeBreaks ('\n' :: s) := by
  rw [squeezeBreaks, if_pos ⟨rfl, rfl⟩]

theorem squeezeBreaks_line {line : String} (hbreak : '\n' ∉ line.toList)
    (hempty : ¬line.isEmpty = true) (s : List Char) :
    squeezeBreaks ('\n' :: (line.toList ++ s)) = '\n' :: (line.toList ++ squeezeBreaks s) := by
  have hhead : (line.toList ++ s).head? ≠ some '\n' := by
    cases hline : line.toList with
    | nil => exact absurd (String.isEmpty_iff.2 (String.toList_eq_nil_iff.1 hline)) hempty
    | cons c w =>
      rw [hline] at hbreak
      intro h
      obtain rfl : c = '\n' := Option.some.inj h
      exact hbreak List.mem_cons_self
  rw [squeezeBreaks, if_neg fun h => hhead h.2, squeezeBreaks_append hbreak]

/-- What lines spell behind a line break. -/
def spelled (lines : List String) : List Char :=
  lines.flatMap fun line => '\n' :: line.toList

theorem intercalate_cons (line : String) (lines : List String) :
    ("\n".intercalate (line :: lines)).toList = line.toList ++ spelled lines := by
  induction lines generalizing line with
  | nil => simp [spelled]
  | cons l ls ih =>
    rw [String.intercalate_cons_of_ne_nil (List.cons_ne_nil l ls), String.toList_append,
      String.toList_append, ih, List.append_assoc]
    rfl

/-- Empty lines behind the first one are line breaks too many. -/
theorem squeezeBreaks_spelled {lines : List String} (hbreaks : ∀ line ∈ lines, '\n' ∉ line.toList)
    (hlast : lines.getLast? ≠ some "") :
    squeezeBreaks (spelled lines) = spelled (counted lines) := by
  induction lines with
  | nil => rfl
  | cons line lines ih =>
    obtain ⟨hbreak, hothers⟩ := List.forall_mem_cons.1 hbreaks
    by_cases hempty : line.isEmpty = true
    · obtain rfl : line = "" := String.isEmpty_iff.1 hempty
      cases lines with
      | nil => exact absurd rfl hlast
      | cons l ls =>
        rw [counted_cons_of_empty hempty, ← ih hothers hlast]
        exact squeezeBreaks_break _
    · have hrest : lines.getLast? ≠ some "" := by
        cases lines with
        | nil => nofun
        | cons l ls => exact hlast
      rw [counted_cons hempty]
      exact (squeezeBreaks_line hbreak hempty _).trans
        (congrArg (fun s => '\n' :: (line.toList ++ s)) (ih hothers hrest))

/-- Every empty line is one character. -/
theorem length_spelled (lines : List String) :
    (spelled lines).length = (spelled (counted lines)).length + lines.count "" := by
  induction lines with
  | nil => rfl
  | cons line lines ih =>
    unfold spelled at ih ⊢
    by_cases hempty : line.isEmpty = true
    · obtain rfl : line = "" := String.isEmpty_iff.1 hempty
      rw [counted_cons_of_empty hempty, List.count_cons_self, List.flatMap_cons, List.length_append, ih]
      simp
      omega
    · have hne : line ≠ "" := mt String.isEmpty_iff.2 hempty
      rw [counted_cons hempty, List.count_cons_of_ne hne, List.flatMap_cons, List.flatMap_cons,
        List.length_append, List.length_append, ih]
      omega

theorem Chunk.exists_cons {lines : List String} (h : Chunk lines) :
    ∃ line rest, lines = line :: rest ∧ ¬line.isEmpty = true := by
  obtain ⟨ls, last, hlines, -, -⟩ := h.last
  cases lines with
  | nil => simp at hlines
  | cons line rest =>
    refine ⟨line, rest, rfl, fun hempty => h.first ?_⟩
    rw [String.isEmpty_iff.1 hempty, List.head?_cons]

/-- **The text is what the lines spell exactly if none of them is empty.** -/
theorem Chunk.handedOn_eq_iff {lines : List String} (h : Chunk lines) :
    handedOn lines = "\n".intercalate lines ↔ "" ∉ lines := by
  obtain ⟨line, rest, rfl, hline⟩ := h.exists_cons
  have hne : line ≠ "" := mt String.isEmpty_iff.2 hline
  constructor
  · intro heq
    have hspelled : spelled (counted rest) = spelled rest := by
      have hchars := congrArg String.toList heq
      rw [handedOn, counted_cons hline, intercalate_cons, intercalate_cons] at hchars
      exact List.append_cancel_left hchars
    have hcount : rest.count "" = 0 := by
      have hlength := length_spelled rest
      rw [hspelled] at hlength
      omega
    rw [List.mem_cons]
    exact not_or.2 ⟨hne.symm, List.count_eq_zero.1 hcount⟩
  · intro hnone
    have hall : counted (line :: rest) = line :: rest := by
      refine List.filter_eq_self.2 fun l hl => ?_
      rw [Bool.not_eq_true', Bool.eq_false_iff]
      exact fun hempty => hnone (String.isEmpty_iff.1 hempty ▸ hl)
    rw [handedOn, hall]

/-- **Every row of line breaks is handed on as one.** -/
theorem Chunk.handedOn_eq_squeezed {lines : List String} (h : Chunk lines)
    (hbreaks : ∀ line ∈ lines, '\n' ∉ line.toList) :
    (handedOn lines).toList = squeezeBreaks ("\n".intercalate lines).toList := by
  obtain ⟨ls, last, hlines, hends, -⟩ := h.last
  obtain ⟨line, rest, rfl, hline⟩ := h.exists_cons
  obtain ⟨hbreak, hbreaks⟩ := List.forall_mem_cons.1 hbreaks
  have hlast : rest.getLast? ≠ some "" := by
    cases rest with
    | nil => nofun
    | cons l rest =>
      have hgetLast : (line :: l :: rest).getLast? = some last := by
        rw [hlines, List.getLast?_concat]
      rw [List.getLast?_cons_cons] at hgetLast
      rw [hgetLast]
      rintro ⟨⟩
      exact hends.not_isEmpty rfl
  rw [handedOn, counted_cons hline, intercalate_cons, intercalate_cons, squeezeBreaks_append hbreak,
    squeezeBreaks_spelled hbreaks hlast]

/-! ## The loop over the lines of a text -/

section

variable {ε : Type} {build : List Field → List ColumnData → Except ε RowSet}

/-- **What the console delivers.** Whatever the session, the lines of a text print what the session
gives for the text in one call, and change it in the same way; then the loop goes on with the lines
behind them. The text is the one that the lines spell exactly if none of them is empty. Otherwise
every row of line breaks has become one in it, wherever it stands. -/
theorem interactive_chunk (hbuild : Builds build) {lines : List String} (h : Chunk lines)
    (s : Session) (more : List String) :
    interactive build s (lines ++ more) = delivered build s (handedOn lines) more
      ∧ (handedOn lines = "\n".intercalate lines ↔ "" ∉ lines)
      ∧ ((∀ line ∈ lines, '\n' ∉ line.toList) →
        (handedOn lines).toList = squeezeBreaks ("\n".intercalate lines).toList) :=
  ⟨interactive_of_readText? hbuild (readText?_chunk h more) h.not_commands s, h.handedOn_eq_iff,
    h.handedOn_eq_squeezed⟩

/-- The loop prints what the texts of its lines print. -/
theorem printed_interactive (hbuild : Builds build) (s : Session) (lines : List String) :
    (interactive build s lines).printed = (interact s lines).1 := by
  obtain ⟨_, _, _, _, _, _, _, hrun⟩ := interactive_spec hbuild s lines
  rw [hrun]

end

/-- A text that spans an empty line. -/
def withEmptyLine : List String :=
  ["PREPARE q AS SELECT 'a", "", "b';"]

theorem withEmptyLine_chunk : Chunk withEmptyLine where
  first := by decide
  statements := by
    rw [commands_iff]
    decide
  last := by
    refine ⟨["PREPARE q AS SELECT 'a", ""], "b';", rfl, rfl, ?_⟩
    intro l hl
    show l.toList.getLast? ≠ some ';'
    revert l
    decide

/-- The text that is prepared under a name. -/
def preparedText (s : Session) (name : String) : Option String :=
  (s.statements.find? name).map fun p => p.statement.render

/-- The second of the two line breaks is missing in what is prepared. -/
theorem interactive_chunk_withEmptyLine :
    Builds RowSet.ofFitting ∧ Chunk withEmptyLine
      ∧ handedOn withEmptyLine = "PREPARE q AS SELECT 'a\nb';"
      ∧ (interactive RowSet.ofFitting (Session.new .default) (withEmptyLine ++ ["\\p"])).printed
        = ["+-----------+------+", "| parameter | type |", "+-----------+------+",
          "+-----------+------+", "q(): SELECT 'a\nb'", "Exited"] := by
  obtain ⟨hrun, -, -⟩ := interactive_chunk RowSet.builds_ofFitting withEmptyLine_chunk
    (Session.new .default) ["\\p"]
  refine ⟨RowSet.builds_ofFitting, withEmptyLine_chunk, by decide, ?_⟩
  rw [hrun, delivered, printed_interactive RowSet.builds_ofFitting]
  decide +kernel

/-- **An empty line gets lost.** For the text in one call, the session prepares a statement with both
line breaks. -/
theorem not_delivered_withEmptyLine :
    Chunk withEmptyLine
      ∧ preparedText (interactive RowSet.ofFitting (Session.new .default) withEmptyLine).session "q"
        = some "SELECT 'a\nb'"
      ∧ preparedText ((Session.new .default).run ("\n".intercalate withEmptyLine)).2 "q"
        = some "SELECT 'a\n\nb'" := by
  have hread : readText? "" withEmptyLine = some (handedOn withEmptyLine, []) :=
    readText?_chunk withEmptyLine_chunk []
  rw [interactive_of_readText? RowSet.builds_ofFitting hread withEmptyLine_chunk.not_commands,
    delivered, interactive_of_none rfl]
  exact ⟨withEmptyLine_chunk, by decide +kernel, by decide +kernel⟩

end Prepared.Console
