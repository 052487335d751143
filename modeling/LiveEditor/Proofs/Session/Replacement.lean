import LiveEditor.Proofs.Search.Replacement
import LiveEditor.Proofs.Session.Navigation

/-! # Replacing in a session

Replacing a match changes its span and selects what has come there, so one step
after the other goes through the text and never looks at a replacement again,
unless that is a match itself.  A match that was searched for is looked at once
more before it is replaced, and then by itself: a whole word that does not begin
and end with word characters is passed over for the match behind it.
-/

namespace LiveEditor

namespace Workbench

/-! ## One replacement -/

def insertReplacement (bench : Workbench) (before after : Text) : Workbench :=
  { bench with
    text := before ++ bench.replacement ++ after
    selection := ⟨before.byteLength, (before ++ bench.replacement).byteLength⟩ }

def ReplacedAt (bench : Workbench) (span : Span) (replaced : Workbench) : Prop :=
  ∃ before covered after, bench.text = before ++ covered ++ after ∧
    span = ⟨before.byteLength, (before ++ covered).byteLength⟩ ∧
    replaced = bench.insertReplacement before after

theorem cut_insertReplacement (bench : Workbench) (before after : Text) :
    (bench.insertReplacement before after).text.cut
        (bench.insertReplacement before after).selection.span =
      .ok ⟨before, bench.replacement, after⟩ :=
  Text.cut_eq_ok_iff.2 ⟨rfl, rfl, rfl⟩

theorem apply_replaceCurrent {bench : Workbench} {before covered after : Text}
    (whole : bench.text = before ++ covered ++ after)
    (target : (bench.query.search bench.text).replaceTarget bench.selection =
      some ⟨before.byteLength, (before ++ covered).byteLength⟩) :
    bench.apply .replaceCurrent = bench.insertReplacement before after := by
  have cut : bench.text.cut ⟨before.byteLength, (before ++ covered).byteLength⟩ =
      .ok ⟨before, covered, after⟩ := Text.cut_eq_ok_iff.2 ⟨whole, rfl, rfl⟩
  have fits := Selection.fits_of_cut (bench.cut_insertReplacement before after)
  rw [insertReplacement] at fits ⊢
  rw [apply, Search.replaceCurrent_eq target cut]
  simp only [setText, ← Text.byteLength_append, Selection.clampTo_of_fits fits]

theorem replacedAt_apply {bench : Workbench} {span : Span} (fits : span.Fits bench.text)
    (target : (bench.query.search bench.text).replaceTarget bench.selection = some span) :
    bench.ReplacedAt span (bench.apply .replaceCurrent) := by
  rcases Text.exists_pieces_of_isBoundary fits.startsAtBoundary fits.stopsAtBoundary
    fits.ordered with ⟨before, covered, after, whole, start, stop⟩
  have ends : span = ⟨before.byteLength, (before ++ covered).byteLength⟩ := by
    rw [start, stop]
  rw [ends] at target
  exact ⟨before, covered, after, whole, ends, apply_replaceCurrent whole target⟩

theorem ReplacedAt.start_eq {bench replaced : Workbench} {span other : Span}
    (one : bench.ReplacedAt span replaced) (two : bench.ReplacedAt other replaced) :
    span.start = other.start := by
  rcases one with ⟨before, _, _, _, rfl, rfl⟩
  rcases two with ⟨otherBefore, _, _, _, rfl, equal⟩
  exact congrArg (·.selection.start) equal

/-- A match that is selected is replaced if it stands alone, and otherwise the
next match behind it, which may be the same one. -/
theorem replacedAt_selected_iff {bench : Workbench} {span : Span}
    (occurs : bench.query.Occurs bench.text span)
    (selected : bench.selection = ⟨span.start, span.stop⟩) :
    ∃ piece next, bench.text.slice span = .ok piece ∧
      (bench.query.search bench.text).findNext span.stop = some next ∧
      (bench.ReplacedAt span (bench.apply .replaceCurrent) ↔
        bench.query.StandsAlone piece ∨ next = span) ∧
      (¬ bench.query.StandsAlone piece →
        bench.ReplacedAt next (bench.apply .replaceCurrent)) := by
  rcases Query.exists_findNext occurs span.stop with ⟨next, further, nextOccurs⟩
  have ⟨filled, before, covered, after, whole, ends, between⟩ := occurs
  have cut : bench.text.cut span = .ok ⟨before, covered, after⟩ :=
    Text.cut_eq_ok_iff.2 ⟨whole, by rw [ends], by rw [ends]⟩
  have spanSelected : bench.selection.span = span := by rw [selected, Selection.span]
  have target : (bench.query.search bench.text).replaceTarget bench.selection =
      if bench.query.covers covered then some span else some next := by
    rw [← spanSelected] at cut
    rw [Search.replaceTarget_eq cut, spanSelected, selected, further]
    rfl
  have alone := Query.covers_iff_standsAlone filled between
  refine ⟨covered, next, Text.slice_of_cut cut, further, ⟨?_, ?_⟩, ?_⟩
  · intro replaced
    by_cases covers : bench.query.covers covered = true
    · exact .inl (alone.1 covers)
    · rw [if_neg covers] at target
      have start := (replacedAt_apply nextOccurs.2.fits target).start_eq replaced
      exact .inr (nextOccurs.eq_of_start_eq occurs start)
  · intro condition
    apply replacedAt_apply occurs.2.fits
    rw [target]
    rcases condition with standsAlone | same
    · exact if_pos (alone.2 standsAlone)
    · rw [same, ite_self]
  · intro lost
    apply replacedAt_apply nextOccurs.2.fits
    rw [target, if_neg (mt alone.1 lost)]

/-! ## One replacement after the other -/

/-- What is in front has been gone over: the next match to replace is the first
one behind it. -/
structure Passed (bench : Workbench) (front rest : Text) : Prop where
  whole : bench.text = front ++ rest
  target : (bench.query.search bench.text).replaceTarget bench.selection =
    (bench.query.search bench.text).findNext front.byteLength

theorem passed_start {bench : Workbench} (begins : bench.selection = .cursor 0) :
    bench.Passed [] bench.text where
  whole := rfl
  target := by
    have cut : bench.text.cut bench.selection.span = .ok ⟨[], [], bench.text⟩ := by
      rw [begins]
      exact Text.cut_eq_ok_iff.2 ⟨rfl, rfl, rfl⟩
    rw [Search.replaceTarget_eq cut, begins]
    exact if_neg (Bool.eq_false_iff.1 bench.query.covers_nil)

theorem passed_insertReplacement {bench : Workbench}
    (differs : bench.query.covers bench.replacement = false) (before after : Text) :
    (bench.insertReplacement before after).Passed (before ++ bench.replacement) after where
  whole := rfl
  target := by
    rw [Search.replaceTarget_eq (bench.cut_insertReplacement before after)]
    exact if_neg (Bool.eq_false_iff.1 differs)

theorem Passed.apply_replaceCurrent {bench : Workbench} {front gap covered later : Text}
    (passed : bench.Passed front (gap ++ covered ++ later))
    (anywhere : bench.query.wholeWord = false)
    (first : (bench.query.allMatches (gap ++ covered ++ later)).head? =
      some ⟨gap.byteLength, (gap ++ covered).byteLength⟩) :
    bench.apply .replaceCurrent = bench.insertReplacement (front ++ gap) later := by
  have target := passed.target
  rw [passed.whole, Query.findNext_append anywhere first, Span.shift_byteLength,
    ← passed.whole] at target
  have whole : bench.text = front ++ gap ++ covered ++ later := by
    rw [passed.whole]
    simp only [List.append_assoc]
  exact Workbench.apply_replaceCurrent whole target

/-- The steps through the rest of a text replace the matches of the rest. -/
theorem Passed.text_applyAll {bench : Workbench} {front rest : Text}
    (passed : bench.Passed front rest) (anywhere : bench.query.wholeWord = false)
    (differs : bench.query.covers bench.replacement = false) {count : Nat}
    (counted : (bench.query.allMatches rest).length = count) :
    (bench.applyAll (List.replicate count .replaceCurrent)).text =
      front ++ Search.replaceSpans bench.replacement 0 (bench.query.allMatches rest) rest := by
  -- A step goes over the gap and the first match, and the matches behind it are those of
  -- the rest that is left.
  induction count generalizing bench front rest with
  | zero =>
      rw [List.length_eq_zero_iff.1 counted, Search.replaceSpans_nil]
      exact passed.whole
  | succ count induction =>
      rcases List.exists_cons_of_length_eq_add_one counted with ⟨span, spans, matched⟩
      rcases Query.exists_of_allMatches_eq_cons anywhere matched with
        ⟨gap, covered, later, rfl, filled, rfl, rfl⟩
      have step := passed.apply_replaceCurrent anywhere (by rw [matched, List.head?_cons])
      have counted : (bench.query.allMatches later).length = count := by
        rw [matched, List.length_cons, List.length_map] at counted
        exact Nat.succ.inj counted
      have steps := induction (passed_insertReplacement differs (front ++ gap) later)
        anywhere differs counted
      rw [List.replicate_succ, matched, Search.replaceSpans_cons _ _ _ _ filled]
      change ((bench.apply .replaceCurrent).applyAll _).text = _
      rw [step, steps]
      simp only [insertReplacement, List.append_assoc]

end Workbench

namespace Session

/-- From the beginning of a text on, replacing one match after the other, as
often as the query has matches, makes the same text as replacing all of them,
if the query does not ask for whole words and the replacement is no match by
itself. -/
theorem replaceCurrent_repeated_eq_replaceAll (session : Session)
    (begins : session.workbench.selection = .cursor 0)
    (filled : session.workbench.query.isEmpty = false)
    (anywhere : session.workbench.query.wholeWord = false)
    (differs : ¬ session.workbench.query.Occurs session.workbench.replacement
      ⟨0, session.workbench.replacement.byteLength⟩) :
    (session.applyAll
        (List.replicate (session.workbench.query.allMatches session.workbench.text).length
          (.workbench .replaceCurrent))).workbench.text =
      (session.apply (.workbench .replaceAll)).workbench.text := by
  rw [Query.occurs_whole_iff, Bool.not_eq_true] at differs
  have steps := (Workbench.passed_start begins).text_applyAll anywhere differs rfl
  have all : (session.apply (.workbench .replaceAll)).workbench.text =
      Search.replaceSpans session.workbench.replacement 0
        (session.workbench.query.allMatches session.workbench.text)
        session.workbench.text := by
    change (session.workbench.apply .replaceAll).text = _
    rw [Workbench.apply, Query.replaceAll_eq filled]
    rfl
  rw [workbench_applyAll, List.filterMap_replicate, all]
  exact steps

/-- The replacement holds the query, in another case, and so does what comes of
the first step and the text behind it. -/
theorem replaceCurrent_repeated_overlappingWords :
    let bench : Workbench :=
      { Workbench.initial [] with
        text := "xaAaaa".toList
        query := { text := "aa".toList }
        replacement := "AAa".toList }
    let session : Session := { initial [] true with workbench := bench }
    bench.selection = .cursor 0 ∧ bench.query.isEmpty = false ∧
      bench.query.wholeWord = false ∧
      ¬ bench.query.Occurs bench.replacement ⟨0, bench.replacement.byteLength⟩ ∧
      (session.applyAll (List.replicate 2 (.workbench .replaceCurrent))).workbench.text =
        "xAAaAAaa".toList := by
  intro bench session
  have differs : ¬ bench.query.Occurs bench.replacement ⟨0, bench.replacement.byteLength⟩ := by
    rw [Query.occurs_whole_iff]
    decide +kernel
  have steps := replaceCurrent_repeated_eq_replaceAll session rfl rfl rfl differs
  have count : (session.workbench.query.allMatches session.workbench.text).length = 2 := by
    decide +kernel
  refine ⟨rfl, rfl, rfl, differs, ?_⟩
  rw [count] at steps
  rw [steps]
  decide +kernel

/-! ## Replacing what was searched for -/

theorem workbench_apply_findNext {session : Session} {span : Span}
    (found : (session.workbench.query.search session.workbench.text).findNext
      session.workbench.selection.stop = some span) :
    (session.apply (.workbench .findNext)).workbench =
      { session.workbench with selection := ⟨span.start, span.stop⟩ } := by
  have ordered := (Query.occurs_of_findNext found).fits.ordered
  rw [apply_findNext, found, Option.elim_some, Selection.ofSpan,
    Selection.ofEnds_of_le ordered]
  rfl

/-- A match that was searched for is replaced if it stands alone or if the search
for the next match comes back to it, and in no other case: then the match behind
it is replaced. -/
theorem replacedAt_found_iff (session : Session) {span : Span}
    (found : (session.workbench.query.search session.workbench.text).findNext
      session.workbench.selection.stop = some span) :
    let bench := session.workbench
    let search := bench.query.search bench.text
    let searched := session.apply (.workbench .findNext)
    let replaced := searched.apply (.workbench .replaceCurrent)
    searched.workbench.selection = ⟨span.start, span.stop⟩ ∧
      ∃ piece next, bench.text.slice span = .ok piece ∧
        search.findNext span.stop = some next ∧
        (bench.ReplacedAt span replaced.workbench ↔
          bench.query.StandsAlone piece ∨ next = span) ∧
        (¬ bench.query.StandsAlone piece → bench.ReplacedAt next replaced.workbench) := by
  intro bench search searched replaced
  have selected := workbench_apply_findNext found
  have occurs : bench.query.Occurs bench.text span :=
    (bench.query.mem_pattern_iff bench.text span).1 (Search.mem_occurrences_of_findNext found)
  have replaces : replaced.workbench = searched.workbench.apply .replaceCurrent := rfl
  rw [replaces, selected]
  exact ⟨rfl, @Workbench.replacedAt_selected_iff
    { session.workbench with selection := ⟨span.start, span.stop⟩ } span occurs rfl⟩

/-- The Kelvin sign counts as a letter, and as the one that is looked for. -/
theorem replacedAt_found_kelvinSign :
    let bench : Workbench :=
      { Workbench.initial [] with
        text := "ak1.\u212a1 k1".toList
        query := { text := "k1".toList, wholeWord := true }
        replacement := "k".toList }
    let session : Session := { initial [] true with workbench := bench }
    (bench.query.search bench.text).findNext bench.selection.stop = some ⟨4, 8⟩ ∧
      bench.ReplacedAt ⟨4, 8⟩ ((session.apply (.workbench .findNext)).apply
        (.workbench .replaceCurrent)).workbench := by
  intro bench session
  have found : (bench.query.search bench.text).findNext bench.selection.stop =
      some ⟨4, 8⟩ := by decide +kernel
  rcases (replacedAt_found_iff session found).2 with ⟨piece, next, slice, _, replaced, _⟩
  refine ⟨found, replaced.2 (.inl ?_)⟩
  have word : session.workbench.text.slice ⟨4, 8⟩ = .ok "\u212a1".toList := rfl
  rw [word, Except.ok.injEq] at slice
  rw [← slice, Query.StandsAlone]
  decide +kernel

def hyphenSearch : List SessionEvent :=
  [ .workbench (.edited "a-b-c".toList (.cursor 0)),
    .workbench (.queryChanged "-".toList),
    .workbench (.wholeWordChanged true),
    .workbench (.replacementChanged "+".toList) ]

/-- The first hyphen is found and the second one is replaced. -/
theorem not_replacedAt_found_hyphen :
    let session := (initial [] true).applyAll hyphenSearch
    let bench := session.workbench
    (bench.query.search bench.text).findNext bench.selection.stop = some ⟨1, 2⟩ ∧
      ¬ bench.ReplacedAt ⟨1, 2⟩ ((session.apply (.workbench .findNext)).apply
        (.workbench .replaceCurrent)).workbench := by
  intro session bench
  refine ⟨by decide +kernel, ?_⟩
  intro ⟨before, covered, after, _, ends, replaced⟩
  have start : 1 = before.byteLength := congrArg Span.start ends
  have selected := congrArg (·.selection.start) replaced
  have second : ((session.apply (.workbench .findNext)).apply
      (.workbench .replaceCurrent)).workbench.selection.start = 3 := by decide +kernel
  rw [second] at selected
  exact absurd (selected.trans start.symm) (by decide)

end Session

end LiveEditor
