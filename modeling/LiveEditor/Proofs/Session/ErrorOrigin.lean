import LiveEditor.Proofs.Session.ErrorLines
import LiveEditor.Proofs.Session.Rendering

/-! # The text that error lines are about

With clearing on edits, no text is changed behind the line of output that names
an error line.  So error lines are drawn in the text that was present when they
were named.  This is the compiled text if nothing changed it between the start
of the compilation and that line; a line that comes later still names numbers,
and these are about a text that is gone.
-/

namespace LiveEditor

namespace Session

/-! ## The start of the current compilation -/

theorem exists_start_of_isCurrent {session : Session}
    (idle : session.monitor.indicator ≠ .compiling) {events : List SessionEvent}
    {generation : Nat}
    (current : (session.applyAll events).monitor.isCurrent generation = true) :
    ∃ before between, events = before ++ .bridge (.compileStarted generation) :: between ∧
      ∀ event ∈ between, event.started? = none := by
  induction events using List.reverseRecOn with
  | nil => exact absurd (Monitor.isCurrent_iff.1 current).2 idle
  | append_singleton earlier event induction =>
      have goesOn (unstarted : event.started? = none)
          (shown : (session.applyAll earlier).monitor.isCurrent generation = true) :
          ∃ before between,
            earlier ++ [event] = before ++ .bridge (.compileStarted generation) :: between ∧
              ∀ event ∈ between, event.started? = none := by
        rcases induction shown with ⟨before, between, rfl, none⟩
        refine ⟨before, between ++ [event], by simp, ?_⟩
        rw [List.forall_mem_append, List.forall_mem_singleton]
        exact ⟨none, unstarted⟩
      rw [applyAll_append] at current
      cases event with
      | workbench event => exact goesOn rfl current
      | bridge event =>
          rcases Monitor.isCurrent_of_isCurrent_apply current with
            started | ⟨unstarted, _, shown⟩
          · cases event with
            | compileStarted other =>
                cases started
                exact ⟨earlier, [], rfl, fun _ member => nomatch member⟩
            | connectStarted | connectFinished | compileLine | compileFinished
            | compileCancelled => cases started
          · exact goesOn unstarted shown

/-! ## Behind the line -/

theorem Avoids.unstarted {session : Session} {events : List SessionEvent}
    (avoids : session.Avoids EmptiesErrors events) :
    ∀ event ∈ events, event.started? = none := by
  induction events generalizing session with
  | nil => exact fun _ member => nomatch member
  | cons event rest induction =>
      have here : event.started? = none := by
        simpa using (not_or.1 avoids.1).1
      exact List.forall_mem_cons.2 ⟨here, induction avoids.2⟩

theorem Avoids.changesText {session : Session} (clears : session.clearErrorsOnEdit = true)
    {events : List SessionEvent} (avoids : session.Avoids EmptiesErrors events) :
    session.Avoids ChangesText events := by
  induction events generalizing session with
  | nil => trivial
  | cons event rest induction =>
      refine ⟨fun changes => avoids.1 (.inr ⟨clears, changes⟩), induction ?_ avoids.2⟩
      exact (session.clearErrorsOnEdit_applyAll [event]).trans clears

/-! ## How a run names an error line -/

/-- The latest compilation of a run starts, and a line that comes while it is
shown names a number. -/
structure Telling (start : Session) (events : List SessionEvent) (number : Nat) where
  before : List SessionEvent
  generation : Nat
  between : List SessionEvent
  line : StreamLine
  after : List SessionEvent
  whole : events = before ++ .bridge (.compileStarted generation) ::
    (between ++ .bridge (.compileLine generation line) :: after)
  latest : ∀ event ∈ between ++ after, event.started? = none
  current : (start.applyAll
    (before ++ .bridge (.compileStarted generation) :: between)).monitor.isCurrent
      generation = true
  named : number ∈ line.lineNumbers

namespace Telling

variable {start : Session} {events : List SessionEvent} {number : Nat}

def compiled (telling : start.Telling events number) : Session :=
  start.applyAll (telling.before ++ [.bridge (.compileStarted telling.generation)])

def told (telling : start.Telling events number) : Session :=
  telling.compiled.applyAll telling.between

def later (telling : start.Telling events number) : List SessionEvent :=
  .bridge (.compileLine telling.generation telling.line) :: telling.after

theorem applyAll_eq (telling : start.Telling events number) :
    start.applyAll events = telling.told.applyAll telling.later := by
  have whole : events = telling.before ++ [.bridge (.compileStarted telling.generation)] ++
      telling.between ++ telling.later := by
    simp [telling.whole, later]
  exact (congrArg start.applyAll whole).trans (by simp only [told, compiled, applyAll_append])

/-- A text has been there since the line came.  It is also the one that was
compiled, unless it was put there before the line came. -/
structure IsAbout (telling : start.Telling events number) (text : Text) : Prop where
  unchanged : telling.told.Avoids ChangesText telling.later
  told : telling.told.workbench.text = text
  compiled : telling.compiled.Avoids ChangesText telling.between →
    telling.compiled.workbench.text = text

theorem isAbout_of_avoids (telling : start.Telling events number)
    (avoids : telling.told.Avoids ChangesText telling.later) :
    telling.IsAbout (start.applyAll events).workbench.text := by
  have present : telling.told.workbench.text = (start.applyAll events).workbench.text := by
    rw [telling.applyAll_eq]
    exact avoids.text_applyAll.symm
  refine ⟨avoids, present, fun unedited => ?_⟩
  rw [← present]
  exact unedited.text_applyAll.symm

end Telling

theorem exists_telling {start : Session} (idle : start.monitor.indicator ≠ .compiling)
    (clears : start.clearErrorsOnEdit = true) {events : List SessionEvent} {number : Nat}
    (named : start.NamedSinceEmptied events number) :
    ∃ telling : start.Telling events number,
      telling.IsAbout (start.applyAll events).workbench.text := by
  rcases named with ⟨earlier, event, after, whole, ⟨line, accepted, named⟩, avoids⟩
  rcases exists_of_acceptedLine? accepted with ⟨generation, rfl, current⟩
  rcases exists_start_of_isCurrent idle current with ⟨before, between, rfl, unstarted⟩
  let telling : start.Telling events number :=
    { before, generation, between, line, after, current, named
      whole := by simpa using whole
      latest := List.forall_mem_append.2 ⟨unstarted, avoids.unstarted⟩ }
  have setup : (start.applyAll (before ++ .bridge (.compileStarted generation) :: between ++
      [.bridge (.compileLine generation line)])).clearErrorsOnEdit = true :=
    (start.clearErrorsOnEdit_applyAll _).trans clears
  have unchanged := avoids.changesText setup
  have told : telling.told =
      start.applyAll (before ++ .bridge (.compileStarted generation) :: between) := by
    rw [Telling.told, Telling.compiled, ← applyAll_append]
    simp [telling]
  rw [applyAll_append, ← told] at unchanged
  exact ⟨telling, telling.isAbout_of_avoids ⟨not_changesText_bridge _ _, unchanged⟩⟩

/-- With clearing on edits, each error line is named by a line of the latest
compilation, and the text has not changed since that line came.  All error lines
are drawn, over everything else, in this text: the compiled one, unless it was
changed before the line came. -/
theorem errors_about_told_text (defaultExtension : Text) (events : List SessionEvent) :
    let start := initial defaultExtension true
    let final := start.applyAll events
    (∀ number ∈ final.errors.lines, ∃ telling : start.Telling events number,
      telling.IsAbout final.workbench.text) ∧
    ∃ below, final.render.ranges =
        below ++ StyledText.errorRanges final.errors final.workbench.text ∧
      ∀ range ∈ StyledText.errorRanges final.errors final.workbench.text,
        ∃ (number : Nat) (telling : start.Telling events number),
          telling.IsAbout final.workbench.text ∧
          final.workbench.text.lineSpan? number = some range.span := by
  intro start final
  have about : ∀ number ∈ final.errors.lines, ∃ telling : start.Telling events number,
      telling.IsAbout final.workbench.text := by
    intro number member
    rcases (start.mem_errors_applyAll_iff events number).1 member with initially | named
    · cases initially.1
    · exact exists_telling Indicator.noConfusion rfl named
  rcases final.exists_ranges_render with ⟨below, drawn⟩
  refine ⟨about, below, drawn, fun range member => ?_⟩
  rcases List.mem_map.1 member with ⟨span, spanMember, rfl⟩
  rw [Text.lineSpansAt_eq] at spanMember
  rcases List.mem_filterMap.1 spanMember with ⟨number, numberMember, line⟩
  rcases about number numberMember with ⟨telling, isAbout⟩
  exact ⟨number, telling, isAbout, line⟩

def wrongSecondLine : List SessionEvent :=
  [ .workbench (.edited "a\nb".toList (.cursor 0)),
    .bridge (.compileStarted 1),
    .workbench (.selectionChanged (.cursor 3)),
    .bridge (.compileLine 1 (.classify "x.kt:2: e".toList)),
    .bridge (.compileFinished 1 (.ok false)) ]

theorem errors_about_told_text_wrongSecondLine :
    let final := (initial ".kt".toList true).applyAll wrongSecondLine
    2 ∈ final.errors.lines ∧
      ∃ telling : (initial ".kt".toList true).Telling wrongSecondLine 2,
        telling.IsAbout final.workbench.text := by
  intro final
  have member : 2 ∈ final.errors.lines := by decide +kernel
  exact ⟨member, (errors_about_told_text ".kt".toList wrongSecondLine).1 2 member⟩

def lineAbove : List SessionEvent :=
  [ .workbench (.edited "b\na".toList (.cursor 0)),
    .bridge (.compileLine 1 (.classify "x.kt:1: e".toList)) ]

theorem not_text_eq_compiled_lineAbove :
    ¬ ∀ (defaultExtension : Text) (before after : List SessionEvent) (generation : Nat),
      (∀ event ∈ after, event.started? = none) →
      let compiled := (initial defaultExtension true).applyAll
        (before ++ [.bridge (.compileStarted generation)])
      (compiled.applyAll after).errors ≠ .empty →
        (compiled.applyAll after).workbench.text = compiled.workbench.text := by
  intro claim
  let typed : SessionEvent := .workbench (.edited "a".toList (.cursor 0))
  have equal := claim ".kt".toList [typed] lineAbove 1 (by decide) (by decide +kernel)
  exact absurd equal (by decide +kernel)

end Session

end LiveEditor
