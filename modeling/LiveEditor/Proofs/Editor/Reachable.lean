import LiveEditor.Proofs.Editor.Draft
import LiveEditor.Proofs.Session.Selection

/-! # Editors that can be reached

Whatever is done with an editor, and whatever goes on around it, its session becomes
another one by events only.  What holds of a new session after any events therefore
holds of the session of every editor that can be reached.
-/

namespace LiveEditor

def Session.Becomes (before after : Session) : Prop :=
  ∃ events, after = before.applyAll events

namespace Session.Becomes

theorem refl (session : Session) : Becomes session session :=
  ⟨[], rfl⟩

theorem trans {first second third : Session} (front : Becomes first second)
    (back : Becomes second third) : Becomes first third := by
  rcases front with ⟨events, rfl⟩
  rcases back with ⟨more, rfl⟩
  exact ⟨events ++ more, (Session.applyAll_append first events more).symm⟩

theorem apply (session : Session) (event : SessionEvent) :
    Becomes session (session.apply event) :=
  ⟨[event], rfl⟩

end Session.Becomes

namespace Editor

variable {σ : Type} [DocumentStore σ]

/-- An editor that has come about from a new one.  It may have waited for reports between
the operations, and other programs may have changed documents. -/
inductive Reachable : Editor σ → Prop
  | initial (settings : EditorSettings) (store : σ) (grammars : σ → Text → Option Grammar) :
      Reachable (.initial settings store grammars)
  | operate {editor : Editor σ} (before : Reachable editor) (operation : EditorOperation) :
      Reachable (editor.operate operation)
  | awaitNext {editor : Editor σ} (before : Reachable editor) : Reachable editor.awaitNext.2
  | replaceStore {editor : Editor σ} (before : Reachable editor) (store : σ) :
      Reachable { editor with store }

/-! ## What the operations make of a session -/

section

variable (editor : Editor σ)

theorem becomes_dispatch (event : SessionEvent) :
    editor.session.Becomes (editor.dispatch event).session := by
  rw [session_dispatch]
  exact .apply editor.session event

theorem session_dispatchAll (events : List SessionEvent) :
    (editor.dispatchAll events).session = editor.session.applyAll events := by
  induction events generalizing editor with
  | nil => rfl
  | cons event rest induction =>
      rw [dispatchAll, List.foldl_cons, ← dispatchAll, induction, session_dispatch]
      rfl

theorem Prepares.session_eq {editor prepared : Editor σ}
    (prepares : editor.Prepares prepared) : prepared.session = editor.session := by
  cases prepares <;> rfl

theorem becomes_perform (action : UserAction) :
    editor.session.Becomes (editor.perform action).session := by
  rcases editor.perform_cases action with ⟨prepared, prepares, equal | ⟨event, equal⟩⟩
  · rw [equal, prepares.session_eq]
    exact .refl editor.session
  · rw [equal, ← prepares.session_eq]
    exact prepared.becomes_dispatch _

theorem becomes_cancelCompile : editor.session.Becomes editor.cancelCompile.session := by
  rw [session_cancelCompile]
  split
  · exact .apply editor.session _
  · exact .refl editor.session

theorem becomes_operate (operation : EditorOperation) :
    editor.session.Becomes (editor.operate operation).session := by
  cases operation with
  | user action => exact editor.becomes_perform action
  | dispatch event => exact editor.becomes_dispatch event
  | connect result =>
      rw [operate, connect_eq]
      exact editor.becomes_dispatch _
  | compile run =>
      rw [operate, session_compile]
      exact editor.becomes_cancelCompile.trans (.apply _ _)
  | cancelCompile => exact editor.becomes_cancelCompile
  | pump =>
      rw [operate, pump_eq]
      exact ⟨_, session_dispatchAll { editor with queue := [] } _⟩
  | surroundings => exact .refl editor.session

theorem becomes_takeNext : editor.session.Becomes editor.takeNext.2.session := by
  rw [takeNext]
  split
  · exact .refl editor.session
  · next rest _ => exact becomes_dispatch { editor with queue := rest } _

theorem becomes_awaitNext : editor.session.Becomes editor.awaitNext.2.session := by
  rw [awaitNext]
  split
  · split
    · exact .refl editor.session
    · next reported reports =>
        rcases Option.map_eq_some_iff.1 reports with ⟨⟨event, tasks⟩, _, rfl⟩
        exact becomes_takeNext { editor with tasks, queue := editor.queue ++ [event] }
  · exact editor.becomes_takeNext

end

/-! ## Sessions of editors that can be reached -/

theorem Reachable.exists_becomes {editor : Editor σ} (reachable : Reachable editor) :
    ∃ settings : EditorSettings, settings.newSession.Becomes editor.session := by
  induction reachable with
  | initial settings store grammars => exact ⟨settings, .refl _⟩
  | operate _ operation induction =>
      rcases induction with ⟨settings, becomes⟩
      exact ⟨settings, becomes.trans (becomes_operate _ operation)⟩
  | awaitNext _ induction =>
      rcases induction with ⟨settings, becomes⟩
      exact ⟨settings, becomes.trans (becomes_awaitNext _)⟩
  | replaceStore _ store induction => exact induction

theorem Reachable.selectionFits {editor : Editor σ} (reachable : Reachable editor) :
    editor.session.workbench.SelectionFits := by
  rcases reachable.exists_becomes with ⟨settings, events, becomes⟩
  rw [becomes]
  exact Session.selectionFits_run settings events

end Editor

end LiveEditor
