import Stowage.Command.Output
import Stowage.Proofs.Container.RoundTrip
import Stowage.Proofs.Json.Legible

/-!
What commands print in JSON can be read back.

The text is freed of terminal control sequences before it is printed. A document that is written
holds no escape character, so that nothing of it is lost (`Command.read_echo`).
-/

namespace Stowage

/-! ## Texts without escape characters -/

namespace Text

theorem dropControls_of_notMem {cs : List Char} (h : '\x1b' ∉ cs) (fuel : Nat) :
    dropControls fuel cs = cs := by
  induction fuel generalizing cs with
  | zero => rfl
  | succ fuel ih =>
    cases cs with
    | nil => rfl
    | cons c r =>
      rw [List.mem_cons, not_or] at h
      have hstep : dropControls (fuel + 1) (c :: r) = c :: dropControls fuel r := by
        rw [dropControls.eq_4]
        exact fun r' heq => absurd heq.symm h.1
      rw [hstep, ih h.2]

theorem withoutControls_of_notMem {s : String} (h : '\x1b' ∉ s.toList) : withoutControls s = s := by
  rw [withoutControls, dropControls_of_notMem h, String.ofList_toList]

end Text

/-- A document is written without an escape character, whatever its texts and keys are. -/
theorem Json.escape_notMem_write {style : Style} (hs : style.Ascii) (j : Json) :
    '\x1b' ∉ (j.write style).toList := by
  intro hmem
  rw [write, String.toList_ofList] at hmem
  rcases writes_writeAt hs 0 j _ hmem with hlegible | ⟨-, hbreak⟩
  · exact absurd hlegible (by decide)
  · exact absurd hbreak (by decide)

/-! ## Texts and details of failures -/

namespace Failure

variable {failure : Failure}

theorem text_of_worded (h : failure.isOverlong = false) : failure.text = .ok failure.words := by
  unfold text
  rw [h]
  rfl

theorem normalized_of_worded (h : failure.isOverlong = false) :
    failure.normalized = .ok failure.detail := by
  unfold normalized
  rw [h]
  rfl

end Failure

/-! ## Output -/

namespace Command

variable {style : Json.Style} {j : Json}

/-- Nothing of a document that is written is lost when it is printed. -/
theorem echo_write (hs : style.Ascii) (j : Json) :
    echo (j.write style) = j.write style ++ "\n" := by
  rw [echo, Text.withoutControls_of_notMem (Json.escape_notMem_write hs j)]

/-- A well-formed document that is printed is read back. -/
theorem read_echo (hs : style.Readable) (hascii : style.Ascii) (h : j.WellFormed) :
    Json.read (echo (j.write style)) = .ok (j.arranged style) := by
  have htext : (j.write style).toList = Json.writeAt style 0 j := String.toList_ofList
  have hgap : ∀ c ∈ ['\n'], Json.isGap c = true := List.forall_mem_singleton.2 rfl
  rw [Json.read, echo_write hascii, String.toList_append, htext]
  exact Json.readList_wellFormed hs h hgap

/-- A document that is printed on one line stays on it. -/
theorem lines_echo (hs : style.Ascii) (hline : style.indent = none) (j : Json) :
    Text.lines (echo (j.write style)) = [j.write style] := by
  have hends : ∀ c ∈ (j.write style).toList, Text.endsLine c = false :=
    fun c hc => (Json.legible_write hs hline j c hc).not_endsLine
  have hlines := Text.lines_join (List.forall_mem_singleton.2 hends)
  rw [echo_write hs]
  simpa using hlines

/-- The style in which documents with parts are printed. -/
def shownStyle (asJson : Bool) : Json.Style := if asJson then .compactSorted else .indented

theorem readable_shownStyle (asJson : Bool) : (shownStyle asJson).Readable := by
  cases asJson with
  | true => exact Json.Style.readable_compactSorted
  | false => exact Json.Style.readable_indented

theorem ascii_shownStyle (asJson : Bool) : (shownStyle asJson).Ascii := by
  cases asJson with
  | true => exact Json.Style.ascii_compactSorted
  | false => exact Json.Style.ascii_indented

/-- A result that has a document is printed as its document. -/
theorem output_eq (asJson : Bool) {v : Value} (hj : v.serialize = .ok j)
    (hover : v.isOverlong = false) : output asJson v =
      .ok (echo (if asJson then j.write .compactSorted else plainText j)) := by
  unfold output
  rw [hj, hover]
  rfl

/-- A result with parts that can be printed is read back. -/
theorem read_output (asJson : Bool) {v : Value} (hv : v.Written j) (hover : v.isOverlong = false)
    (hplain : plainText j = j.write .indented) : ∃ text, output asJson v = .ok text ∧
      Json.read text = .ok (j.arranged (shownStyle asJson)) := by
  refine ⟨echo (j.write (shownStyle asJson)), ?_,
    read_echo (readable_shownStyle asJson) (ascii_shownStyle asJson) (hv.plain hover).wellFormed⟩
  rw [output_eq asJson (hv.toJson false) hover, hplain]
  cases asJson <;> rfl

theorem plain_detailJson (d : ErrorDetail) : (Value.detailJson d).Plain := by
  refine .object (by decide : (["code", "message", "category", "retryable", "metadata"] :
    List String).Nodup) fun m hm => ?_
  simp only [List.mem_cons, List.not_mem_nil, or_false] at hm
  rcases hm with rfl | rfl | rfl | rfl | rfl
  · exact .text d.code
  · exact .text d.message
  · exact .text _
  · exact .bool d.retryable
  · exact Json.plain_ofLabels d.metadata

/-! ## Failures -/

section Failures

variable {failure : Failure}

/-- A failure that has a text is told of in either mode. -/
theorem errorOutput_eq (asJson : Bool) (h : failure.isOverlong = false) :
    errorOutput asJson failure = .ok (echo (if asJson then
        (Json.object [("error", Value.detailJson failure.detail)]).write .spaced
      else "error: " ++ failure.words)) := by
  unfold errorOutput
  rw [Failure.normalized_of_worded h, Failure.text_of_worded h]
  cases asJson <;> rfl

/-- A failure that has no text cannot be told of in either mode. -/
theorem errorOutput_overlong (asJson : Bool) (h : failure.isOverlong = true) :
    errorOutput asJson failure = .error .overlongInteger := by
  unfold errorOutput Failure.normalized Failure.text
  rw [if_pos h, if_pos h]
  cases asJson <;> rfl

theorem isOverlong_of_errorOutput {asJson : Bool} {text : String}
    (h : errorOutput asJson failure = .ok text) : failure.isOverlong = false := by
  by_contra hover
  rw [errorOutput_overlong asJson (Bool.not_eq_false _ ▸ hover)] at h
  cases h

/-- A failure that is told of in JSON is read back with its whole detail. -/
theorem read_errorOutput {text : String} (h : errorOutput true failure = .ok text) :
    Json.read text = .ok (.object [("error", Value.detailJson failure.detail)]) := by
  rw [errorOutput_eq true (isOverlong_of_errorOutput h)] at h
  have hplain : (Json.object [("error", Value.detailJson failure.detail)]).Plain := by
    refine .object (List.nodup_singleton _) fun m hm => ?_
    rw [List.mem_singleton.1 hm]
    exact plain_detailJson failure.detail
  have hread := read_echo Json.Style.readable_spaced Json.Style.ascii_spaced hplain.wellFormed
  rw [Json.arranged_of_unsorted rfl] at hread
  rw [← Except.ok.inj h]
  exact hread

end Failures

end Command

end Stowage
