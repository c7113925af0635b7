import Mathlib.Data.List.TakeWhile
import Prepared.Console.Interactive
import Prepared.Proofs.Session.Rendering
import Prepared.Proofs.Text.Trimming

/-!
# The loop of the console comes to its end

The loop can be left early in one place, where the rows of an outcome are put together, and there it
never is, since every outcome of a session can be shown (`Session.toBatch_of_run`). So it reads until
the input ends, and carries out every text that is complete.

What a text is has two halves. `Group` says which lines make one up, and `readText?_spec` that reading
cuts off the first such lines and leaves the others. `Contributes` says what carrying one out does to
the session. `interactive_clean` puts them together.
-/

namespace Prepared.Console

/-! ## Lines and texts -/

/-- A line that is a command of the console if it stands at the beginning of a text. -/
def IsCommand (line : String) : Prop :=
  line.toList.head? = some '\\'

/-- A line that ends a text. -/
def Ends (line : String) : Prop :=
  line.toList.getLast? = some ';'

/-- The lines of a text that does not end with them. -/
structure Unfinished (ls : List String) : Prop where
  first : ∀ line, ls.head? = some line → ¬IsCommand line
  none_ends : ∀ line ∈ ls, ¬Ends line

/-- The lines of a text: a command in a line of its own, or lines of which the last ends it. -/
inductive Group : List String → Prop where
  | command {line : String} (h : IsCommand line) : Group [line]
  | statements {ls : List String} {line : String} (hls : Unfinished ls)
      (hfirst : ls = [] → ¬IsCommand line) (hline : Ends line) : Group (ls ++ [line])

/-- The lines that count. -/
def counted (lines : List String) : List String :=
  lines.filter fun line => !line.isEmpty

/-- What is read of a text while it does not end. -/
def pendingOf (ls : List String) : String :=
  String.join (ls.map (· ++ "\n"))

theorem Unfinished.nil : Unfinished [] :=
  ⟨nofun, nofun⟩

theorem Unfinished.append_line {ls : List String} {line : String} (h : Unfinished ls)
    (hfirst : ls = [] → ¬IsCommand line) (hline : ¬Ends line) : Unfinished (ls ++ [line]) where
  first := by
    intro l hl
    cases ls with
    | nil =>
      cases hl
      exact hfirst rfl
    | cons a ls => exact h.first l hl
  none_ends := by
    intro l hl
    rcases List.mem_append.1 hl with hl | hl
    · exact h.none_ends l hl
    · rw [List.mem_singleton.1 hl]
      exact hline

theorem pendingOf_append_line (ls : List String) (line : String) :
    pendingOf (ls ++ [line]) = pendingOf ls ++ line ++ "\n" := by
  induction ls with
  | nil => simp [pendingOf, String.join_cons]
  | cons l ls ih =>
    unfold pendingOf at ih ⊢
    rw [List.cons_append, List.map_cons, String.join_cons, ih, List.map_cons, String.join_cons]
    simp only [String.append_assoc]

theorem pendingOf_eq_empty_iff {ls : List String} : pendingOf ls = "" ↔ ls = [] := by
  cases ls with
  | nil => simp [pendingOf]
  | cons l ls =>
    unfold pendingOf
    rw [List.map_cons, String.join_cons]
    simp [String.append_eq_empty_iff]

/-- The last line is put behind the others without a line break. -/
theorem intercalate_append_line (ls : List String) (line : String) :
    "\n".intercalate (ls ++ [line]) = pendingOf ls ++ line := by
  induction ls with
  | nil => simp [pendingOf]
  | cons l ls ih =>
    rw [List.cons_append, String.intercalate_cons_of_ne_nil (by simp), ih]
    unfold pendingOf
    rw [List.map_cons, String.join_cons]
    simp only [String.append_assoc]

/-! ## Reading -/

theorem counted_cons_of_empty {line : String} (h : line.isEmpty = true) (lines : List String) :
    counted (line :: lines) = counted lines := by
  simp [counted, h]

theorem counted_cons {line : String} (h : ¬line.isEmpty = true) (lines : List String) :
    counted (line :: lines) = line :: counted lines := by
  simp [counted, h]

/-- **Reading cuts off the first text.** Behind lines that are read already come those up to the end
of the text, or all of them if it does not end. -/
theorem readText?_spec {ls : List String} (hls : Unfinished ls) (lines : List String) :
    (readText? (pendingOf ls) lines = none ∧ Unfinished (ls ++ counted lines))
      ∨ ∃ group rest, readText? (pendingOf ls) lines = some ("\n".intercalate group, rest)
        ∧ Group group ∧ ls ++ counted lines = group ++ counted rest := by
  induction lines generalizing ls with
  | nil =>
    left
    refine ⟨rfl, ?_⟩
    rw [show counted [] = [] from rfl, List.append_nil]
    exact hls
  | cons line lines ih =>
    unfold readText?
    by_cases hempty : line.isEmpty = true
    · rw [if_pos hempty, counted_cons_of_empty hempty]
      exact ih hls
    rw [if_neg hempty, counted_cons hempty]
    by_cases hcommand : ((pendingOf ls).isEmpty && line.toList.head? = some '\\') = true
    · -- a command, which nothing has been read before
      right
      rw [if_pos hcommand]
      obtain ⟨hpending, hline⟩ := Bool.and_eq_true_iff.1 hcommand
      have hnil : ls = [] := pendingOf_eq_empty_iff.1 (String.isEmpty_iff.1 hpending)
      subst hnil
      have hline : line.toList.head? = some '\\' := of_decide_eq_true hline
      exact ⟨[line], lines, by simp, .command hline, rfl⟩
    rw [if_neg hcommand]
    have hfirst : ls = [] → ¬IsCommand line := by
      rintro rfl hline
      have hline : line.toList.head? = some '\\' := hline
      exact hcommand (Bool.and_eq_true_iff.2 ⟨rfl, decide_eq_true hline⟩)
    -- a line that ends the text goes with those before it; any other one waits for more
    by_cases hends : line.toList.getLast? = some ';'
    · right
      rw [if_pos hends, ← intercalate_append_line]
      refine ⟨ls ++ [line], lines, rfl, .statements hls hfirst hends, ?_⟩
      rw [List.append_assoc]
      rfl
    · rw [if_neg hends, ← pendingOf_append_line]
      have hmore := ih (hls.append_line hfirst hends)
      rwa [List.append_assoc] at hmore

theorem texts_of_none {pending : String} {lines : List String}
    (h : readText? pending lines = none) : (texts pending lines).1 = [] := by
  induction lines generalizing pending with
  | nil => rfl
  | cons line lines ih =>
    rw [readText?] at h
    rw [texts]
    split at h
    · rw [if_pos ‹_›]
      exact ih h
    · rw [if_neg ‹_›]
      split at h
      · cases h
      · rw [if_neg ‹_›]
        split at h
        · cases h
        · rw [if_neg ‹_›]
          exact ih h

/-- The first text, and then the texts of the lines after it. -/
theorem texts_of_some {pending text : String} {lines rest : List String}
    (h : readText? pending lines = some (text, rest)) :
    (texts pending lines).1 = text :: (texts "" rest).1 := by
  induction lines generalizing pending with
  | nil => cases h
  | cons line lines ih =>
    rw [readText?] at h
    rw [texts]
    split at h
    · rw [if_pos ‹_›]
      exact ih h
    · rw [if_neg ‹_›]
      split at h
      · rw [if_pos ‹_›]
        cases h
        rfl
      · rw [if_neg ‹_›]
        split at h
        · rw [if_pos ‹_›]
          cases h
          rfl
        · rw [if_neg ‹_›]
          exact ih h

/-- A text is not blank, as it begins with a backslash or ends with a semicolon. -/
theorem Group.not_blank {group : List String} (h : Group group) :
    (Text.trimChars ("\n".intercalate group).toList).isEmpty = false := by
  rw [List.isEmpty_eq_false_iff]
  intro hblank
  have hall := Text.isBlank_of_trimChars hblank
  cases h with
  | @command line h =>
    rw [String.intercalate_singleton] at hall
    have hslash : Text.isBlank '\\' = true := hall _ (List.mem_of_mem_head? h)
    exact absurd hslash (by decide)
  | @statements ls line hls hfirst hline =>
    rw [intercalate_append_line, String.toList_append] at hall
    have hsemicolon : Text.isBlank ';' = true :=
      hall _ (List.mem_append_right _ (List.mem_of_getLast? hline))
    exact absurd hsemicolon (by decide)

theorem not_blank_of_readText? {lines rest : List String} {text : String}
    (h : readText? "" lines = some (text, rest)) :
    (Text.trimChars text.toList).isEmpty = false := by
  rcases readText?_spec Unfinished.nil lines with ⟨hnone, -⟩ | ⟨group, rest', hsome, hgroup, -⟩
  · have hnone : readText? "" lines = none := hnone
    rw [h] at hnone
    cases hnone
  · have hsome : readText? "" lines = some ("\n".intercalate group, rest') := hsome
    rw [h] at hsome
    cases hsome
    exact hgroup.not_blank

/-! ## Carrying out -/

section

variable {ε : Type} {build : List Field → List ColumnData → Except ε RowSet}

theorem printOutcome_eq {o : Outcome} (h : o.toBatch build = .ok o.rows?) :
    printOutcome build o = .ok (printed o) := by
  cases o with
  | command tag => rfl
  | executed e => rfl
  | prepared p =>
    show ((Outcome.prepared p).toBatch build).map _ = _
    rw [h]
    rfl
  | described d =>
    show ((Outcome.described d).toBatch build).map _ = _
    rw [h]
    rfl

theorem printOutcomes_eq {os : List Outcome} (h : ∀ o ∈ os, o.toBatch build = .ok o.rows?) :
    printOutcomes build os = (os.flatMap printed, .ok ()) := by
  induction os with
  | nil => rfl
  | cons o os ih =>
    obtain ⟨ho, hos⟩ := List.forall_mem_cons.1 h
    rw [printOutcomes, printOutcome_eq ho, ih hos]
    rfl

/-- A text that is a command of the console. -/
def Commands (text : String) : Prop :=
  ∃ command, Text.trimChars text.toList = '\\' :: command

theorem runText_of_not_commands {text : String} (h : ¬Commands text)
    (hblank : (Text.trimChars text.toList).isEmpty = false) (s : Session) :
    runText s text
      = match s.run text with
        | (.ok outcomes, s) => (outcomes.flatMap printed, s)
        | (.error e, s) => (["Run Error: " ++ e.message], s) := by
  unfold runText
  split
  · rename_i hnil
    rw [hnil] at hblank
    cases hblank
  · rename_i command hcommand
    exact absurd ⟨command, hcommand⟩ h
  · rfl

theorem carryOut_of_not_commands {text : String} (h : ¬Commands text) (s : Session) :
    carryOut build s text
      = match s.run text with
        | (.ok outcomes, s) =>
          ((printOutcomes build outcomes).1, (printOutcomes build outcomes).2, s)
        | (.error e, s) => (["Run Error: " ++ e.message], .ok (), s) := by
  unfold carryOut
  split
  · rename_i command hcommand
    exact absurd ⟨command, hcommand⟩ h
  · rfl

/-- **Everything that comes of a text is printed.** -/
theorem carryOut_eq (hbuild : Builds build) {text : String}
    (hblank : (Text.trimChars text.toList).isEmpty = false) (s : Session) :
    carryOut build s text = ((runText s text).1, .ok (), (runText s text).2) := by
  by_cases h : Commands text
  · obtain ⟨command, hcommand⟩ := h
    unfold carryOut runText
    rw [hcommand]
    rfl
  · rw [carryOut_of_not_commands h, runText_of_not_commands h hblank]
    rcases hrun : s.run text with ⟨e | outcomes, s'⟩
    · rfl
    · dsimp only
      rw [printOutcomes_eq (Session.toBatch_of_run hbuild hrun)]

end

/-! ## What a text does to the session -/

/-- The session after a text: commands of the console change nothing. -/
inductive Contributes (s : Session) (text : String) : Session → Prop where
  | command (h : Commands text) : Contributes s text s
  | notSql (h : ¬Commands text) (hparse : Sql.Statement.parse? text = none) : Contributes s text s
  /-- The statements of the text, up to the first that fails. -/
  | statements {before rest : List Sql.Statement} {outcomes : List Outcome} {s' : Session}
      (h : ¬Commands text) (hparse : Sql.Statement.parse? text = some (before ++ rest))
      (hbefore : s.runStatements before = (.ok outcomes, s'))
      (hrest : rest = [] ∨ ∃ statement behind e, rest = statement :: behind
        ∧ s'.runStatement statement = .error e) :
      Contributes s text s'

/-- **A text contributes the effect of its statements before the first that fails.** -/
theorem runText_contributes {text : String}
    (hblank : (Text.trimChars text.toList).isEmpty = false) (s : Session) :
    Contributes s text (runText s text).2 := by
  by_cases h : Commands text
  · obtain ⟨command, hcommand⟩ := h
    have hsame : (runText s text).2 = s := by
      unfold runText
      rw [hcommand]
      rfl
    rw [hsame]
    exact .command ⟨command, hcommand⟩
  have hsession : (runText s text).2 = (s.run text).2 := by
    rw [runText_of_not_commands h hblank]
    rcases s.run text with ⟨e | outcomes, s'⟩ <;> rfl
  rw [hsession]
  cases hparse : Sql.Statement.parse? text with
  | none =>
    have hrun : s.run text = (.error .notSql, s) := by
      unfold Session.run
      rw [hparse]
    rw [hrun]
    exact .notSql h hparse
  | some statements =>
    cases statements with
    | nil =>
      have hrun : s.run text = (.error .noStatement, s) := by
        unfold Session.run
        rw [hparse]
      rw [hrun]
      have hnone : s.runStatements [] = (.ok [], s) := rfl
      exact @Contributes.statements _ _ [] [] _ _ h hparse hnone (Or.inl rfl)
    | cons first others =>
      -- nothing of the text runs unless all of it is parsed
      have hrun : s.run text = s.runStatements (first :: others) := by
        unfold Session.run
        rw [hparse]
      rw [hrun]
      rcases hall : s.runStatements (first :: others) with ⟨e | outcomes, s'⟩
      · -- one fails, and the session is that of the statements before it
        have hfailed := hall
        rw [← Session.InPlace.runStatements_eq] at hfailed
        obtain ⟨before, statement, behind, os, hsplit, hran, hfails⟩ :=
          Session.InPlace.runStatements_eq_error_iff.1 hfailed
        have hbefore : s.runStatements before = (.ok os, s') := by
          rw [← Session.InPlace.runStatements_eq]
          exact Session.InPlace.runStatements_eq_ok_iff.2 hran
        refine .statements h (hparse.trans (congrArg some hsplit)) hbefore ?_
        exact Or.inr ⟨statement, behind, e, rfl, Session.InPlace.runStatement_eq_error hfails⟩
      · rw [← List.append_nil (first :: others)] at hparse
        exact .statements h hparse hall (Or.inl rfl)

/-- Texts lead from one session to another, each by what it contributes. -/
inductive Leads : Session → List String → Session → Prop where
  | nil (s : Session) : Leads s [] s
  | cons {s s₁ s' : Session} {text : String} {texts : List String}
      (h : Contributes s text s₁) (hrest : Leads s₁ texts s') : Leads s (text :: texts) s'

/-! ## The loop -/

section

variable {ε : Type} {build : List Field → List ColumnData → Except ε RowSet}

/-- Without a text there is nothing left to do. -/
theorem interactive_of_none {lines : List String} (h : readText? "" lines = none) (s : Session) :
    interactive build s lines = ⟨.ok (), ["Exited"], s, []⟩ := by
  unfold interactive
  split
  · rfl
  · rename_i hsome
    rw [h] at hsome
    cases hsome

/-- A text is carried out, and the loop goes on behind it. -/
theorem interactive_of_some (hbuild : Builds build) {lines rest : List String} {text : String}
    (h : readText? "" lines = some (text, rest)) (s : Session) :
    interactive build s lines
      = { interactive build (runText s text).2 rest with
          printed := (runText s text).1 ++ (interactive build (runText s text).2 rest).printed
          texts := text :: (interactive build (runText s text).2 rest).texts } := by
  have hblank := not_blank_of_readText? h
  rw [interactive]
  split
  · rename_i hnone
    rw [h] at hnone
    cases hnone
  · rename_i text' rest' hsome
    rw [h] at hsome
    cases hsome
    rw [if_neg (Bool.eq_false_iff.1 hblank), carryOut_eq hbuild hblank]

/-- **The loop is never left early.** It reads all lines, and prints and does what comes of the texts
that they make up. -/
theorem interactive_spec (hbuild : Builds build) (s : Session) (lines : List String) :
    ∃ (groups : List (List String)) (unfinished : List String),
      counted lines = groups.flatten ++ unfinished
      ∧ (∀ group ∈ groups, Group group) ∧ Unfinished unfinished
      ∧ (texts "" lines).1 = groups.map ("\n".intercalate ·)
      ∧ Leads s (groups.map ("\n".intercalate ·)) (interact s lines).2
      ∧ interactive build s lines
        = ⟨.ok (), (interact s lines).1, (interact s lines).2, groups.map ("\n".intercalate ·)⟩ := by
  -- on the number of lines that are left, from one text to the next
  induction hlen : lines.length using Nat.strong_induction_on generalizing s lines with
  | _ n ih =>
    subst hlen
    rcases readText?_spec Unfinished.nil lines with ⟨hnone, hopen⟩ | ⟨group, rest, hsome, hgroup, hsplit⟩
    · have hnone : readText? "" lines = none := hnone
      have htexts : (texts "" lines).1 = [] := texts_of_none hnone
      have hdone : interact s lines = (["Exited"], s) := by
        unfold interact
        rw [htexts]
        rfl
      rw [hdone]
      exact ⟨[], counted lines, rfl, nofun, hopen, htexts, .nil s, interactive_of_none hnone s⟩
    · have hsome : readText? "" lines = some ("\n".intercalate group, rest) := hsome
      have hsplit : counted lines = group ++ counted rest := hsplit
      have hshorter : rest.length < lines.length := length_lt_of_readText? hsome
      obtain ⟨groups, unfinished, hcounted, hgroups, hopen, htexts, hleads, hrest⟩ :=
        ih rest.length hshorter (runText s ("\n".intercalate group)).2 rest rfl
      have hstep : interact s lines
          = ((runText s ("\n".intercalate group)).1
              ++ (interact (runText s ("\n".intercalate group)).2 rest).1,
            (interact (runText s ("\n".intercalate group)).2 rest).2) := by
        unfold interact
        rw [texts_of_some hsome, runTexts]
        exact Prod.ext (List.append_assoc _ _ _) rfl
      rw [hstep]
      refine ⟨group :: groups, unfinished, ?_, List.forall_mem_cons.2 ⟨hgroup, hgroups⟩, hopen, ?_,
        .cons (runText_contributes hgroup.not_blank s) hleads, ?_⟩
      · rw [hsplit, hcounted, List.flatten_cons, List.append_assoc]
      · rw [texts_of_some hsome, htexts, List.map_cons]
      · rw [interactive_of_some hbuild hsome, hrest]
        rfl

/-- **The loop always finishes cleanly.** Whatever the session and the lines, it succeeds and has
printed that it is left; it has carried out every text that is complete, once and in order, however
those before it have fared; the lines of these texts and those of the unfinished one are the lines
that count; and the texts lead from the session at the beginning to that at the end, a failing one by
its statements before the one that fails, and a command of the console not at all. It is what the
console prints, and the session that it leaves. -/
theorem interactive_clean (hbuild : Builds build) (s : Session) (lines : List String) :
    (interactive build s lines).result = .ok ()
      ∧ (∃ printed, (interactive build s lines).printed = printed ++ ["Exited"])
      ∧ (∃ (groups : List (List String)) (unfinished : List String),
        counted lines = groups.flatten ++ unfinished
          ∧ (∀ group ∈ groups, Group group) ∧ Unfinished unfinished
          ∧ (interactive build s lines).texts = groups.map ("\n".intercalate ·))
      ∧ Leads s (interactive build s lines).texts (interactive build s lines).session
      ∧ (interactive build s lines).texts = (texts "" lines).1
      ∧ interact s lines
        = ((interactive build s lines).printed, (interactive build s lines).session) := by
  obtain ⟨groups, unfinished, hcounted, hgroups, hopen, htexts, hleads, hrun⟩ :=
    interactive_spec hbuild s lines
  rw [hrun]
  exact ⟨rfl, ⟨_, rfl⟩, ⟨groups, unfinished, hcounted, hgroups, hopen, rfl⟩, hleads, htexts.symm, rfl⟩

end

/-- The session at the end is the one that the complete texts lead to. -/
theorem interact_session (s : Session) (lines : List String) :
    (interact s lines).2 = (runTexts s (texts "" lines).1).2 :=
  rfl

/-- A text that spans an empty line and fails at its second statement, between one that succeeds and
a command, and before one that does not end. -/
def fourTexts : List String :=
  ["CREATE TABLE t (a INT);", "PREPARE q AS SELECT a", "",
    "FROM t WHERE a = $1; EXECUTE r; DEALLOCATE q;", "\\p", "SELECT 1"]

/-- What is prepared before the failure stays, and the last line is dropped. -/
theorem interactive_clean_fourTexts :
    Builds RowSet.ofFitting
      ∧ (interactive RowSet.ofFitting (Session.new .default) fourTexts).result = .ok ()
      ∧ (interactive RowSet.ofFitting (Session.new .default) fourTexts).texts
        = ["CREATE TABLE t (a INT);",
          "PREPARE q AS SELECT a\nFROM t WHERE a = $1; EXECUTE r; DEALLOCATE q;", "\\p"]
      ∧ (interactive RowSet.ofFitting (Session.new .default)
          fourTexts).session.statements.contains "q" = true := by
  obtain ⟨hresult, -, -, -, htexts, hsame⟩ :=
    interactive_clean RowSet.builds_ofFitting (Session.new .default) fourTexts
  have hcut : (texts "" fourTexts).1
      = ["CREATE TABLE t (a INT);",
        "PREPARE q AS SELECT a\nFROM t WHERE a = $1; EXECUTE r; DEALLOCATE q;", "\\p"] := by
    simp [fourTexts, texts]
  have hsession : (interactive RowSet.ofFitting (Session.new .default) fourTexts).session
      = (runTexts (Session.new .default) (texts "" fourTexts).1).2 := by
    rw [← interact_session, hsame]
  have hkept : (runTexts (Session.new .default)
      ["CREATE TABLE t (a INT);",
        "PREPARE q AS SELECT a\nFROM t WHERE a = $1; EXECUTE r; DEALLOCATE q;",
        "\\p"]).2.statements.contains "q" = true := by
    decide +kernel
  rw [hsession, htexts, hcut]
  exact ⟨RowSet.builds_ofFitting, hresult, rfl, hkept⟩

end Prepared.Console
