import LiveEditor.Editor.Basic
import LiveEditor.Proofs.Session.Interleaving
import LiveEditor.Proofs.Session.Output
import Mathlib.Data.List.Induction

/-! # Where error lines come from

A number is an error line as long as nothing has emptied the error lines since a
line of the output named it.  So the output accounts for all error lines, and if
a change of the text empties them, each of them was named when the text was the
present one.  That need not be the text that the compilation has seen: it may
have been changed before the line came.
-/

namespace LiveEditor

def SessionEvent.started? (event : SessionEvent) : Option Nat :=
  event.bridge?.bind BridgeEvent.started?

namespace Session

/-! ## Naming and emptying -/

def acceptedLine? (session : Session) (event : SessionEvent) : Option StreamLine :=
  event.bridge?.bind session.monitor.acceptedLine?

def ChangesText (session : Session) (event : SessionEvent) : Prop :=
  (session.apply event).workbench.text ≠ session.workbench.text

def EmptiesErrors (session : Session) (event : SessionEvent) : Prop :=
  event.started?.isSome = true ∨
    session.clearErrorsOnEdit = true ∧ session.ChangesText event

theorem not_changesText_bridge (session : Session) (event : BridgeEvent) :
    ¬ session.ChangesText (.bridge event) :=
  fun changes => changes rfl

theorem mem_errors_workbench_iff (session : Session) (event : WorkbenchEvent)
    (number : Nat) :
    number ∈ (session.apply (.workbench event)).errors.lines ↔
      number ∈ session.errors.lines ∧ ¬ session.EmptiesErrors (.workbench event) := by
  have empties : session.EmptiesErrors (.workbench event) ↔
      session.clearErrorsOnEdit = true ∧
        (session.workbench.apply event).text ≠ session.workbench.text := by
    simp [EmptiesErrors, SessionEvent.started?, SessionEvent.bridge?, ChangesText, apply]
  rw [empties, apply]
  dsimp only
  split
  · next cleared => simp [cleared, ErrorLines.empty]
  · next kept => simp [kept]

theorem mem_errors_apply_iff (session : Session) (event : SessionEvent) (number : Nat) :
    number ∈ (session.apply event).errors.lines ↔
      (∃ line ∈ session.acceptedLine? event, number ∈ line.lineNumbers) ∨
        number ∈ session.errors.lines ∧ ¬ session.EmptiesErrors event := by
  cases event with
  | workbench event =>
      rw [mem_errors_workbench_iff]
      simp [acceptedLine?, SessionEvent.bridge?]
  | bridge event =>
      have spared : ¬ session.EmptiesErrors (.bridge event) ↔ event.started? = none := by
        simp [EmptiesErrors, SessionEvent.started?, SessionEvent.bridge?,
          not_changesText_bridge]
      rw [spared]
      exact session.mem_errors_bridge_iff event number

/-! ## Runs -/

/-- No event of a run is of a kind, which may depend on the session it comes to. -/
def Avoids (session : Session) (kind : Session → SessionEvent → Prop) :
    List SessionEvent → Prop
  | [] => True
  | event :: rest => ¬ kind session event ∧ (session.apply event).Avoids kind rest

theorem Avoids.text_applyAll {session : Session} {events : List SessionEvent}
    (avoids : session.Avoids ChangesText events) :
    (session.applyAll events).workbench.text = session.workbench.text := by
  induction events generalizing session with
  | nil => rfl
  | cons event rest induction =>
      exact (induction avoids.2).trans (Classical.not_not.1 avoids.1)

/-- A line that a run accepts names a number, and behind that line no event
empties the error lines. -/
def NamedSinceEmptied (session : Session) (events : List SessionEvent) (number : Nat) :
    Prop :=
  ∃ before event after, events = before ++ event :: after ∧
    (∃ line ∈ (session.applyAll before).acceptedLine? event, number ∈ line.lineNumbers) ∧
    (session.applyAll (before ++ [event])).Avoids EmptiesErrors after

theorem namedSinceEmptied_cons (session : Session) (event : SessionEvent)
    (rest : List SessionEvent) (number : Nat) :
    session.NamedSinceEmptied (event :: rest) number ↔
      (∃ line ∈ session.acceptedLine? event, number ∈ line.lineNumbers) ∧
          (session.apply event).Avoids EmptiesErrors rest ∨
        (session.apply event).NamedSinceEmptied rest number := by
  constructor
  · intro ⟨before, other, after, whole, named, avoids⟩
    cases before with
    | nil =>
        rcases List.cons.inj whole with ⟨rfl, rfl⟩
        exact .inl ⟨named, avoids⟩
    | cons first before =>
        rcases List.cons.inj whole with ⟨rfl, rfl⟩
        exact .inr ⟨before, other, after, rfl, named, avoids⟩
  · intro cases
    rcases cases with ⟨named, avoids⟩ | ⟨before, other, after, rfl, named, avoids⟩
    · exact ⟨[], event, rest, rfl, named, avoids⟩
    · exact ⟨event :: before, other, after, rfl, named, avoids⟩

theorem mem_errors_applyAll_iff (session : Session) (events : List SessionEvent)
    (number : Nat) :
    number ∈ (session.applyAll events).errors.lines ↔
      number ∈ session.errors.lines ∧ session.Avoids EmptiesErrors events ∨
        session.NamedSinceEmptied events number := by
  induction events generalizing session with
  | nil =>
      constructor
      · intro member
        exact .inl ⟨member, trivial⟩
      · intro cases
        rcases cases with ⟨member, _⟩ | ⟨before, event, after, whole, _⟩
        · exact member
        · simp at whole
  | cons event rest induction =>
      rw [applyAll_cons, induction, mem_errors_apply_iff, namedSinceEmptied_cons, Avoids]
      grind

/-! ## The output -/

/-- The output consists of the given lines, and the error lines come from them;
without clearing on edits, all that the lines name are error lines. -/
structure Accounts (session : Session) (lines : List StreamLine) : Prop
    extends session.Shows lines where
  complete : session.clearErrorsOnEdit = false →
    ∀ line ∈ lines, ∀ number ∈ line.lineNumbers, number ∈ session.errors.lines

theorem Accounts.apply {session : Session} {lines : List StreamLine}
    (accounts : session.Accounts lines) {event : SessionEvent}
    (unstarted : event.started? = none) :
    (session.apply event).Accounts (lines ++ (session.acceptedLine? event).toList) := by
  have shows : (session.apply event).Shows
      (lines ++ (session.acceptedLine? event).toList) := by
    cases event with
    | workbench event =>
        rw [acceptedLine?, SessionEvent.bridge?, Option.bind_none, Option.toList_none,
          List.append_nil]
        exact ⟨accounts.output, fun number member =>
          accounts.errors number (session.errors_workbench_subset event member)⟩
    | bridge event => exact accounts.toShows.apply unstarted
  refine ⟨shows, fun keeps line member number named => ?_⟩
  have setup : session.clearErrorsOnEdit = false :=
    (session.clearErrorsOnEdit_applyAll [event]).symm.trans keeps
  have spared : ¬ session.EmptiesErrors event := by
    simp [EmptiesErrors, unstarted, setup]
  rw [mem_errors_apply_iff]
  rcases List.mem_append.1 member with earlier | accepted
  · exact .inr ⟨accounts.complete setup line earlier number named, spared⟩
  · exact .inl ⟨line, Option.mem_toList.1 accepted, named⟩

theorem accounts_of_started {session : Session} {event : SessionEvent}
    (started : event.started? ≠ none) : (session.apply event).Accounts [] := by
  cases event with
  | workbench => exact absurd rfl started
  | bridge event =>
      cases event with
      | compileStarted generation => exact ⟨session.shows_compileStarted generation, by simp⟩
      | connectStarted | connectFinished | compileLine | compileFinished
      | compileCancelled => exact absurd rfl started

theorem exists_of_acceptedLine? {session : Session} {event : SessionEvent}
    {line : StreamLine} (accepted : session.acceptedLine? event = some line) :
    ∃ generation, event = .bridge (.compileLine generation line) ∧
      session.monitor.isCurrent generation = true := by
  cases event with
  | workbench => cases accepted
  | bridge event =>
      cases event with
      | compileLine generation other =>
          change (if session.monitor.isCurrent generation = true then _ else _) = _ at accepted
          split at accepted
          · next current =>
              cases accepted
              exact ⟨generation, rfl, current⟩
          · cases accepted
      | connectStarted | connectFinished | compileStarted | compileFinished
      | compileCancelled => cases accepted

/-- The lines that a run shows are among those that come in it. -/
theorem Accounts.exists_applyAll {session : Session} {lines : List StreamLine}
    (accounts : session.Accounts lines) (events : List SessionEvent) :
    ∃ later, (session.applyAll events).Accounts later ∧
      ∀ line ∈ later, line ∈ lines ∨
        ∃ generation, .bridge (.compileLine generation line) ∈ events := by
  induction events generalizing session lines with
  | nil => exact ⟨lines, accounts, fun line member => .inl member⟩
  | cons event rest induction =>
      by_cases unstarted : event.started? = none
      · rcases induction (accounts.apply unstarted) with ⟨later, accounts, origin⟩
        refine ⟨later, accounts, fun line member => ?_⟩
        rcases origin line member with shown | ⟨generation, comes⟩
        · rcases List.mem_append.1 shown with earlier | accepted
          · exact .inl earlier
          · rcases exists_of_acceptedLine? (Option.mem_toList.1 accepted) with
              ⟨generation, rfl, _⟩
            exact .inr ⟨generation, List.mem_cons_self⟩
        · exact .inr ⟨generation, List.mem_cons_of_mem event comes⟩
      · rcases induction (accounts_of_started unstarted) with ⟨later, accounts, origin⟩
        refine ⟨later, accounts, fun line member => ?_⟩
        rcases origin line member with shown | ⟨generation, comes⟩
        · cases shown
        · exact .inr ⟨generation, List.mem_cons_of_mem event comes⟩

end Session

def Monitor.outputNumbers (monitor : Monitor) : List Nat :=
  (monitor.output.splitOn '\n').dropLast.flatMap fun line =>
    (StreamLine.classify line).lineNumbers

@[simp] theorem StreamLine.text_classify (line : Text) : (classify line).text = line := by
  rw [classify]
  split <;> rfl

theorem Text.splitOn_flatMap_lineFeed {lines : List Text}
    (unbroken : ∀ line ∈ lines, '\n' ∉ line) :
    (lines.flatMap fun line => line ++ ['\n']).splitOn '\n' = lines ++ [[]] := by
  induction lines with
  | nil => exact List.splitOn_nil '\n'
  | cons line rest induction =>
      rcases List.forall_mem_cons.1 unbroken with ⟨here, later⟩
      rw [List.flatMap_cons, List.append_assoc, List.singleton_append,
        List.splitOn_append_cons_self_of_not_mem here, induction later]
      rfl

namespace Session

theorem Shows.mem_outputNumbers_iff {session : Session} {lines : List StreamLine}
    (shows : session.Shows lines)
    (classified : ∀ line ∈ lines, ∃ raw, '\n' ∉ raw ∧ line = .classify raw)
    (number : Nat) :
    number ∈ session.monitor.outputNumbers ↔
      ∃ line ∈ lines, number ∈ line.lineNumbers := by
  have unbroken : ∀ raw ∈ lines.map StreamLine.text, '\n' ∉ raw := by
    intro raw member
    rcases List.mem_map.1 member with ⟨line, lineMember, rfl⟩
    rcases classified line lineMember with ⟨raw, unbroken, rfl⟩
    rwa [StreamLine.text_classify]
  have output : session.monitor.output =
      (lines.map StreamLine.text).flatMap fun line => line ++ ['\n'] := by
    rw [shows.output, List.flatMap_map]
  rw [Monitor.outputNumbers, output, Text.splitOn_flatMap_lineFeed unbroken,
    List.dropLast_concat, List.flatMap_map, List.mem_flatMap]
  refine exists_congr fun line => and_congr_right fun member => ?_
  rcases classified line member with ⟨raw, _, rfl⟩
  rw [StreamLine.text_classify]

theorem accounts_newSession (settings : EditorSettings) :
    settings.newSession.Accounts [] where
  output := rfl
  errors := fun _ member => nomatch member
  complete := fun _ _ member => nomatch member

theorem mem_errors_run_iff (settings : EditorSettings) (events : List SessionEvent)
    (number : Nat) :
    number ∈ (settings.newSession.applyAll events).errors.lines ↔
      settings.newSession.NamedSinceEmptied events number := by
  rw [mem_errors_applyAll_iff]
  exact or_iff_right fun initially => nomatch initially.1

/-- The output accounts for the error lines: they are the numbers that its lines
have named since the latest start of a compilation and, with clearing on edits,
the latest change of the text.  So they are among the numbers that the
diagnostics of the output name.  Without clearing they are all of these, and
with it a change of the text leaves none. -/
theorem errors_accounted_by_output (settings : EditorSettings) (events : List SessionEvent)
    (classified : ∀ generation line, .bridge (.compileLine generation line) ∈ events →
      ∃ raw, '\n' ∉ raw ∧ line = .classify raw) :
    let session := settings.newSession.applyAll events
    (∀ number, number ∈ session.errors.lines ↔
      settings.newSession.NamedSinceEmptied events number) ∧
    (∀ number ∈ session.errors.lines, number ∈ session.monitor.outputNumbers) ∧
    (settings.clearErrorsOnEdit = false →
      ∀ number ∈ session.monitor.outputNumbers, number ∈ session.errors.lines) ∧
    (settings.clearErrorsOnEdit = true →
      ∀ event, session.ChangesText event → (session.apply event).errors = .empty) := by
  intro session
  rcases (accounts_newSession settings).exists_applyAll events with
    ⟨lines, accounts, origin⟩
  have setup : session.clearErrorsOnEdit = settings.clearErrorsOnEdit :=
    settings.newSession.clearErrorsOnEdit_applyAll events
  have shown : ∀ line ∈ lines, ∃ raw, '\n' ∉ raw ∧ line = .classify raw := by
    intro line member
    rcases origin line member with initially | ⟨generation, comes⟩
    · cases initially
    · exact classified generation line comes
  have outputNumbers := accounts.toShows.mem_outputNumbers_iff shown
  refine ⟨mem_errors_run_iff settings events, ?_, ?_, ?_⟩
  · intro number member
    exact (outputNumbers number).2 (accounts.errors number member)
  · intro keeps number member
    rcases (outputNumbers number).1 member with ⟨line, lineMember, named⟩
    exact accounts.complete (setup.trans keeps) line lineMember number named
  · intro clears event changes
    cases event with
    | workbench event => exact if_pos ⟨setup.trans clears, changes⟩
    | bridge event => exact absurd changes (session.not_changesText_bridge event)

def editBetweenLines : List SessionEvent :=
  [ .bridge (.compileStarted 1),
    .bridge (.compileLine 1 (.classify "a:1: b\r:2:".toList)),
    .workbench (.pasted "c".toList),
    .bridge (.compileLine 1 (.classify " \x7b:3:\x7d ".toList)),
    .bridge (.compileLine 1 (.classify "d:4:5: e".toList)),
    .bridge (.compileLine 2 (.classify "f:6:".toList)) ]

theorem errors_accounted_by_output_editBetweenLines :
    let clearing := EditorSettings.standard
    let keeping := { EditorSettings.standard with clearErrorsOnEdit := false }
    (∀ generation line, .bridge (.compileLine generation line) ∈ editBetweenLines →
      ∃ raw, '\n' ∉ raw ∧ line = .classify raw) ∧
    (keeping.newSession.applyAll editBetweenLines).monitor.outputNumbers = [1, 2, 4] ∧
    (∀ number ∈ [1, 2, 4],
      number ∈ (keeping.newSession.applyAll editBetweenLines).errors.lines) ∧
    (clearing.newSession.applyAll editBetweenLines).errors.lines = [4] ∧
    clearing.newSession.NamedSinceEmptied editBetweenLines 4 := by
  intro clearing keeping
  have classified : ∀ generation line,
      .bridge (.compileLine generation line) ∈ editBetweenLines →
        ∃ raw, '\n' ∉ raw ∧ line = .classify raw := by
    intro generation line member
    simp only [editBetweenLines, List.mem_cons, SessionEvent.bridge.injEq, reduceCtorEq,
      BridgeEvent.compileLine.injEq, List.not_mem_nil, or_false, false_or] at member
    rcases member with ⟨_, rfl⟩ | ⟨_, rfl⟩ | ⟨_, rfl⟩ | ⟨_, rfl⟩ <;>
      exact ⟨_, by decide, rfl⟩
  have numbers : (keeping.newSession.applyAll editBetweenLines).monitor.outputNumbers =
      [1, 2, 4] := by decide +kernel
  have kept := (errors_accounted_by_output keeping editBetweenLines classified).2.2.1 rfl
  rw [numbers] at kept
  have cleared : (clearing.newSession.applyAll editBetweenLines).errors.lines = [4] := by
    decide +kernel
  refine ⟨classified, numbers, kept, cleared, ?_⟩
  apply ((errors_accounted_by_output clearing editBetweenLines classified).1 4).1
  rw [cleared]
  exact List.mem_singleton_self 4

end Session

end LiveEditor
