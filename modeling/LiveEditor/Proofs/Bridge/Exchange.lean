import LiveEditor.Bridge.Exchange
import LiveEditor.Proofs.Bridge.LineSplitter

/-! # What a compilation delivers

The splitter hands out all pieces of its text but the last, which it keeps back
until the stream ends.  So a stream that ends well delivers all lines of its
body, and one that breaks off delivers those that were terminated, which any
longer body delivers first.
-/

namespace LiveEditor

namespace LineSplitter

open Text

/-! ## The line that is not complete -/

theorem push_append_pendingText {splitter : LineSplitter} (gathers : Gathers splitter)
    (bytes : List UInt8) :
    (splitter.push bytes).1 ++ [(splitter.push bytes).2.pendingText] =
      pieces (splitter.remainingText bytes) := by
  induction bytes generalizing splitter with
  | nil => exact (pieces_of_unbroken gathers.unbroken).symm
  | cons byte rest induction =>
      rw [push_cons, List.append_assoc, induction (gathers_take gathers byte),
        pieces_remainingText gathers byte rest]

/-- Before the end of a stream its lines are the terminated pieces of its text. -/
theorem terminated_of_chunks (chunks : List (List UInt8)) :
    (start.pushAll chunks).1 = (pieces (Utf8.decodeLossy chunks.flatten)).dropLast := by
  have whole := push_append_pendingText gathers_start chunks.flatten
  rw [remainingText, remaining_of_not_afterReturn rfl] at whole
  change _ = pieces (Utf8.decodeLossy chunks.flatten) at whole
  rw [pushAll_eq_push, ← whole, List.dropLast_concat]

theorem push_prefix {front whole : List UInt8} (longer : front <+: whole)
    (splitter : LineSplitter) : (splitter.push front).1 <+: (splitter.push whole).1 := by
  rcases longer with ⟨back, rfl⟩
  rw [push_append]
  exact List.prefix_append _ _

end LineSplitter

/-! ## Outcomes -/

/-- An outcome counts lines and tells what the last status line among them said. -/
structure CompileOutcome.SumsUp (outcome : CompileOutcome) (lines : List StreamLine) :
    Prop where
  lineCount : outcome.lineCount = lines.length
  statusSeen : outcome.statusSeen = true ↔ ∃ text ok, .status text ok ∈ lines
  last : ∀ before text ok after, lines = before ++ .status text ok :: after →
    (∀ other said, .status other said ∉ after) → outcome.ok = ok
  unseen : outcome.statusSeen = false → outcome.ok = false

theorem StreamLine.mem_filterMap_ok? {lines : List StreamLine} {ok : Bool} :
    ok ∈ lines.filterMap ok? ↔ ∃ text, .status text ok ∈ lines := by
  rw [List.mem_filterMap]
  constructor
  · rintro ⟨line, member, said⟩
    cases line with
    | diagnostic text => cases said
    | status text other =>
        cases said
        exact ⟨text, member⟩
  · rintro ⟨text, member⟩
    exact ⟨.status text ok, member, rfl⟩

namespace CompileOutcome

theorem foldl_deliver (outcome : CompileOutcome) (lines : List StreamLine) :
    lines.foldl deliver outcome =
      { ok := (lines.filterMap StreamLine.ok?).getLast?.getD outcome.ok
        statusSeen := outcome.statusSeen || !(lines.filterMap StreamLine.ok?).isEmpty
        lineCount := outcome.lineCount + lines.length } := by
  induction lines generalizing outcome with
  | nil => simp
  | cons line rest induction =>
      rw [List.foldl_cons, induction]
      cases line with
      | diagnostic text =>
          rw [List.filterMap_cons_none rfl]
          simp [deliver, Nat.add_comm, Nat.add_left_comm]
      | status text ok =>
          have heard : StreamLine.ok? (.status text ok) = some ok := rfl
          rw [List.filterMap_cons_some heard]
          simp [deliver, List.getLast?_cons, Nat.add_comm, Nat.add_left_comm]

/-- Line by line the outcome comes to the number of lines and the last report among
them. -/
theorem ofLines_eq (lines : List StreamLine) :
    ofLines lines =
      { ok := (lines.filterMap StreamLine.ok?).getLast?.getD false
        statusSeen := !(lines.filterMap StreamLine.ok?).isEmpty
        lineCount := lines.length } := by
  rw [ofLines, foldl_deliver]
  simp

theorem sumsUp_ofLines (lines : List StreamLine) : (ofLines lines).SumsUp lines where
  lineCount := by rw [ofLines_eq]
  statusSeen := by
    rw [ofLines_eq, Bool.not_eq_true', List.isEmpty_eq_false_iff_exists_mem, exists_comm]
    exact exists_congr fun _ => StreamLine.mem_filterMap_ok?
  last := by
    rintro before text ok after rfl silent
    have none : after.filterMap StreamLine.ok? = [] := by
      refine List.eq_nil_iff_forall_not_mem.2 fun said member => ?_
      rcases StreamLine.mem_filterMap_ok?.1 member with ⟨other, status⟩
      exact silent other said status
    simp [ofLines_eq, StreamLine.ok?, none]
  unseen := by
    intro unseen
    have empty : lines.filterMap StreamLine.ok? = [] := by
      simpa [ofLines_eq] using unseen
    rw [ofLines_eq, empty]
    rfl

end CompileOutcome

/-! ## Bodies -/

namespace Response

open LineSplitter Text

/-- The terminated lines of a body are delivered first, however it ends. -/
theorem terminated_prefix_stream (response : Response) :
    (start.pushAll response.body).1.map StreamLine.classify <+: response.stream.lines := by
  rw [stream]
  cases response.ending with
  | complete => exact List.prefix_append _ _
  | cutOff | held => exact List.prefix_refl _

theorem stream_of_complete {response : Response} (complete : response.ending = .complete) :
    response.stream =
      let lines := (withoutEmptyEnd (pieces (Utf8.decodeLossy response.body.flatten))).map
        StreamLine.classify
      ⟨lines, some (.ok (.ofLines lines))⟩ := by
  rw [stream, complete, ← (lines_of_chunks response.body).1, List.map_append]

theorem stream_of_cutOff {response : Response} (cutOff : response.ending = .cutOff) :
    response.stream =
      ⟨(pieces (Utf8.decodeLossy response.body.flatten)).dropLast.map StreamLine.classify,
        some (.error (.stream streamCutOff))⟩ := by
  rw [stream, cutOff, ← terminated_of_chunks]

/-- What a body delivers before it breaks off, a longer one delivers first. -/
theorem lines_prefix_of_cutOff {response other : Response}
    (cutOff : response.ending = .cutOff)
    (longer : response.body.flatten <+: other.body.flatten) :
    response.stream.lines <+: other.stream.lines := by
  have terminated : (start.pushAll response.body).1 <+: (start.pushAll other.body).1 := by
    rw [pushAll_eq_push, pushAll_eq_push]
    exact push_prefix longer start
  rw [stream_of_cutOff cutOff, ← terminated_of_chunks]
  exact (terminated.map StreamLine.classify).trans other.terminated_prefix_stream

theorem lines_refusal (response : Response) : response.refusal.lines = [] := by
  rw [refusal]
  cases response.ending <;> rfl

theorem refusal_ne_ok (response : Response) (outcome : CompileOutcome) :
    response.refusal.result ≠ some (.ok outcome) := by
  rw [refusal]
  cases response.ending <;> exact fun claimed => nomatch claimed

theorem exists_result_stream {response : Response} (ends : response.ending ≠ .held) :
    ∃ result, response.stream.result = some result := by
  rw [stream]
  cases ending : response.ending with
  | complete | cutOff => exact ⟨_, rfl⟩
  | held => exact absurd ending ends

theorem exists_result_refusal {response : Response} (ends : response.ending ≠ .held) :
    ∃ result, response.refusal.result = some result := by
  rw [refusal]
  cases ending : response.ending with
  | complete | cutOff => exact ⟨_, rfl⟩
  | held => exact absurd ending ends

end Response

namespace Service

theorem compile_of_isSuccess {response : Response}
    (success : response.status.isSuccess = true) :
    compile (.responding response) = response.stream := if_pos success

theorem compile_of_not_isSuccess {response : Response}
    (failure : response.status.isSuccess = false) :
    compile (.responding response) = response.refusal :=
  if_neg (by rw [failure]; exact Bool.false_ne_true)

theorem exists_result_compile {response : Response} (ends : response.ending ≠ .held) :
    ∃ result, (compile (.responding response)).result = some result := by
  cases success : response.status.isSuccess with
  | true =>
      rw [compile_of_isSuccess success]
      exact Response.exists_result_stream ends
  | false =>
      rw [compile_of_not_isSuccess success]
      exact Response.exists_result_refusal ends

end Service

end LiveEditor
