import Stowage.Proofs.Config.Collisions
import Stowage.Proofs.Config.Variables
import Stowage.Proofs.Decimal.Literals
import Stowage.Proofs.Json.Reading
import Stowage.Proofs.Json.Tokens

/-!
What becomes of the text of a variable.

A text has a value, its own characters if none of the readers knows it, with one exception: in text
that begins like JSON, a whole number may have too many digits to be converted (`coerces_iff`). The
text then has a run of so many digits.
-/

namespace Stowage.Config

variable {raw value : String} {cs r : List Char} {j : Json}

/-- The text is a word for a truth value or null, a JSON object or array, or a number literal. -/
def Recognised (value : String) : Prop :=
  Text.lower value ∈ ["true", "false", "null", "none"] ∨
    (∃ items, Json.read value = .ok (.list items)) ∨
    (∃ members, Json.read value = .ok (.object members)) ∨
    (∃ i, Decimal.IntegerLiteral value.toList i) ∨ ∃ x, Decimal.DoubleLiteral value.toList x

/-- The text has a value, and if nothing is recognised in it, that is the whole text with the
blanks around it. -/
def Coerces (raw : String) : Prop :=
  (∃ v, coerce raw = .ok v) ∧
    (¬Recognised (Text.trim raw) → coerce raw = .ok (.text raw))

/-- The text begins like JSON, and reading it comes to a whole number that is not converted. -/
def Overlong (raw : String) : Prop :=
  announcesJson (Text.trim raw).toList = true ∧
    ∃ digits, Json.read (Text.trim raw) = .error (.overlong digits)

/-! ## Trimmed text -/

theorem trimmed_trim (raw : String) : Text.Trimmed Text.isBlank (Text.trim raw).toList := by
  unfold Text.trim
  rw [String.toList_ofList]
  exact Text.trimmed_trimChars _ _

theorem isBlank_of_isWhite {c : Char} (h : Text.isWhite c = true) : Text.isBlank c = true := by
  simp [Text.isBlank, h]

theorem isBlank_of_isGap {c : Char} (h : Json.isGap c = true) : Text.isBlank c = true := by
  simp only [Json.isGap, Bool.or_eq_true, beq_iff_eq] at h
  rcases h with ((rfl | rfl) | rfl) | rfl <;> decide

/-! ## Words -/

/-- A character below the letters with accents stays the first one. -/
theorem head?_lower {c : Char} (h : value.toList.head? = some c) (hc : c.toNat < 0x80) :
    (Text.lower value).toList.head? = some c.toLower := by
  obtain ⟨r, hr⟩ := List.head?_eq_some_iff.1 h
  unfold Text.lower
  rw [String.toList_ofList, hr]
  simp [Text.lowerChars, Text.lowerChar, hc]

theorem wordValue?_eq_none_iff {lowered : String} :
    wordValue? lowered = none ↔ lowered ∉ ["true", "false", "null", "none"] := by
  unfold wordValue?
  simp only [List.mem_cons, List.not_mem_nil, or_false, not_or]
  by_cases htrue : lowered = "true"
  · simp [htrue]
  · by_cases hfalse : lowered = "false"
    · simp [hfalse]
    · by_cases hnull : lowered = "null" ∨ lowered = "none"
      · rcases hnull with rfl | rfl <;> simp
      · simp [htrue, hfalse, not_or.1 hnull]

/-- A text that begins with no letter of the words is none of them. -/
theorem wordValue?_lower_eq_none {c : Char} (h : value.toList.head? = some c)
    (hc : c.toNat < 0x80) (hne : c.toLower ≠ 't' ∧ c.toLower ≠ 'f' ∧ c.toLower ≠ 'n') :
    wordValue? (Text.lower value) = none := by
  have hhead := head?_lower h hc
  rw [wordValue?_eq_none_iff]
  intro hmem
  obtain ⟨ht, hf, hn⟩ := hne
  simp only [List.mem_cons, List.not_mem_nil, or_false] at hmem
  rcases hmem with heq | heq | heq | heq
  all_goals
    rw [heq] at hhead
    have hfirst := (Option.some.inj hhead).symm
    contradiction

/-! ## JSON -/

theorem announcesJson_iff_head : announcesJson cs = true ↔
    cs.head? = some '\x7b' ∨ cs.head? = some '[' := by
  unfold announcesJson
  split
  · simp
  · simp
  · rename_i hbrace hbracket
    simp only [Bool.false_eq_true, List.head?_eq_some_iff, false_iff, not_or, not_exists]
    exact ⟨hbrace, hbracket⟩

theorem wordValue?_of_announcesJson (h : announcesJson value.toList = true) :
    wordValue? (Text.lower value) = none := by
  rcases announcesJson_iff_head.1 h with h | h
  · exact wordValue?_lower_eq_none h (by decide) (by decide)
  · exact wordValue?_lower_eq_none h (by decide) (by decide)

theorem document_of_readValue {fuel : Nat} (hannounces : announcesJson cs = true)
    (h : Json.readValue fuel cs = .ok (j, r)) :
    (∃ items, j = .list items) ∨ ∃ members, j = .object members := by
  cases fuel with
  | zero => cases h
  | succ fuel =>
    unfold Json.readValue at h
    split at h
    · cases hannounces
    · left
      split at h
      · cases h
        exact ⟨_, rfl⟩
      · obtain ⟨_, -, h⟩ := bind_eq_ok.1 h
        cases h
        exact ⟨_, rfl⟩
    · right
      split at h
      · cases h
        exact ⟨_, rfl⟩
      · obtain ⟨_, -, h⟩ := bind_eq_ok.1 h
        cases h
        exact ⟨_, rfl⟩
    · rename_i hbracket hbrace
      rcases announcesJson_iff_head.1 hannounces with hhead | hhead
      · obtain ⟨r, hr⟩ := List.head?_eq_some_iff.1 hhead
        exact absurd hr (hbrace r)
      · obtain ⟨r, hr⟩ := List.head?_eq_some_iff.1 hhead
        exact absurd hr (hbracket r)

/-- What begins like an object or an array is one, if it can be read. -/
theorem document_of_read (hvalue : Text.Trimmed Text.isBlank value.toList)
    (hannounces : announcesJson value.toList = true) (h : Json.read value = .ok j) :
    (∃ items, j = .list items) ∨ ∃ members, j = .object members := by
  have hgap : Json.skipGap value.toList = value.toList := by
    apply Text.dropWhile_of_head
    exact (hvalue.mono fun _ => isBlank_of_isGap).1
  unfold Json.read Json.readList at h
  rw [hgap] at h
  obtain ⟨⟨j', r⟩, hread, h⟩ := bind_eq_ok.1 h
  dsimp only at h
  split at h
  · cases h
    exact document_of_readValue hannounces hread
  · cases h

/-! ## Text that is kept -/

theorem coerce_of_word {v : Value} (h : wordValue? (Text.lower (Text.trim raw)) = some v) :
    coerce raw = .ok v := by
  unfold coerce
  dsimp only
  rw [h]

theorem coerce_of_announcesJson (h : announcesJson (Text.trim raw).toList = true) : coerce raw =
    match Json.read (Text.trim raw) with
    | .ok j => .ok j.toValue
    | .error .malformed => .ok (.text raw)
    | .error (.overlong digits) => .error (.overlongLiteral digits) := by
  unfold coerce
  dsimp only
  rw [wordValue?_of_announcesJson h]
  refine (if_pos h).trans ?_
  cases Json.read (Text.trim raw) with
  | ok j => rfl
  | error refusal => cases refusal <;> rfl

/-- Text that does not begin like JSON is a word, an integer, a number, or kept. -/
theorem coerce_of_not_announcesJson (h : announcesJson (Text.trim raw).toList ≠ true) :
    coerce raw = .ok ((wordValue? (Text.lower (Text.trim raw))).getD
      (((Decimal.integer? (Text.trim raw)).map .int).getD
        (((Decimal.double? (Text.trim raw)).map .float).getD (.text raw)))) := by
  unfold coerce
  dsimp only
  cases wordValue? (Text.lower (Text.trim raw)) with
  | some v => rfl
  | none =>
    dsimp only
    rw [if_neg h]
    cases Decimal.integer? (Text.trim raw) with
    | some i => rfl
    | none => cases Decimal.double? (Text.trim raw) <;> rfl

theorem coerce_overlong (h : Overlong raw) :
    ∃ digits, Json.LongRun digits raw.toList ∧ coerce raw = .error (.overlongLiteral digits) := by
  obtain ⟨hannounces, digits, hread⟩ := h
  refine ⟨digits, ?_, ?_⟩
  · have hrun := Json.longRun_of_readList hread
    unfold Text.trim at hrun
    rw [String.toList_ofList] at hrun
    exact hrun.of_infix (Text.trimChars_infix _ _)
  · rw [coerce_of_announcesJson hannounces, hread]

theorem exists_coerce_iff (raw : String) : (∃ v, coerce raw = .ok v) ↔ ¬Overlong raw := by
  constructor
  · rintro ⟨v, hv⟩ hoverlong
    obtain ⟨digits, -, herror⟩ := coerce_overlong hoverlong
    cases hv.symm.trans herror
  · intro h
    by_cases hannounces : announcesJson (Text.trim raw).toList = true
    · rw [coerce_of_announcesJson hannounces]
      split
      · exact ⟨_, rfl⟩
      · exact ⟨_, rfl⟩
      · rename_i digits hread
        exact absurd ⟨hannounces, digits, hread⟩ h
    · exact ⟨_, coerce_of_not_announcesJson hannounces⟩

/-- Text in which nothing is recognised is kept, if it has a value at all. -/
theorem coerce_of_unrecognised (h : ¬Recognised (Text.trim raw)) (hlong : ¬Overlong raw) :
    coerce raw = .ok (.text raw) := by
  have htrimmed := trimmed_trim raw
  have hwhite := htrimmed.mono fun _ => isBlank_of_isWhite
  unfold Recognised at h
  simp only [not_or, not_exists] at h
  obtain ⟨hword, hlist, hobject, hinteger, hdouble⟩ := h
  by_cases hannounces : announcesJson (Text.trim raw).toList = true
  · rw [coerce_of_announcesJson hannounces]
    cases hread : Json.read (Text.trim raw) with
    | ok j =>
      rcases document_of_read htrimmed hannounces hread with ⟨items, rfl⟩ | ⟨members, rfl⟩
      · exact absurd hread (hlist items)
      · exact absurd hread (hobject members)
    | error refusal =>
      cases refusal with
      | malformed => rfl
      | overlong digits => exact absurd ⟨hannounces, digits, hread⟩ hlong
  · have hi : Decimal.integer? (Text.trim raw) = none := by
      apply Option.eq_none_iff_forall_ne_some.2
      intro i hi
      exact hinteger i ((Decimal.integer?_eq_some hwhite).1 hi)
    have hx : Decimal.double? (Text.trim raw) = none := by
      apply Option.eq_none_iff_forall_ne_some.2
      intro x hx
      exact hdouble x ((Decimal.double?_eq_some hwhite).1 hx)
    rw [coerce_of_not_announcesJson hannounces, wordValue?_eq_none_iff.2 hword, hi, hx]
    rfl

/-! ## All variables -/

/-- Variables stand in the way of loading only if the text of one that matters has no value. -/
theorem exists_load_iff (sources : Sources) : (∃ result, load sources = .ok result) ↔
    (∃ result, load { sources with environment := [] } = .ok result) ∧
      ∀ entry ∈ sources.environment, ∀ path,
        variablePath? sources.start entry.1 = some path → ∃ v, coerce entry.2 = .ok v := by
  have hload : ∀ environment, (∃ result,
      load { sources with environment := environment } = .ok result) ↔
        (∃ file, ofFile sources.path sources.file = .ok file) ∧
          (∃ es, ofVariables sources.start environment = .ok es) ∧
            anyOverlongKey sources.arguments = false := by
    intro environment
    unfold load
    simp only [bind_eq_ok, merge?_eq_ok]
    constructor
    · rintro ⟨_, file, hfile, es, hes, _, -, harguments, -⟩
      exact ⟨⟨file, hfile⟩, ⟨es, hes⟩, harguments⟩
    · rintro ⟨⟨file, hfile⟩, ⟨es, hes⟩, harguments⟩
      have hkeyed := anyOverlongKey_of_keyed es (areKeyed_ofVariables hes)
      exact ⟨_, file, hfile, es, hes, _, ⟨hkeyed, rfl⟩, harguments, rfl⟩
  have hnone : ∃ es, ofVariables sources.start [] = .ok es := ⟨[], rfl⟩
  have hsome := hload sources.environment
  unfold ofVariables at hsome
  rw [foldlM_setVariable_isOk] at hsome
  rw [hsome, hload []]
  constructor
  · rintro ⟨hfile, hvalues, harguments⟩
    exact ⟨⟨hfile, hnone, harguments⟩, hvalues⟩
  · rintro ⟨⟨hfile, -, harguments⟩, hvalues⟩
    exact ⟨hfile, hvalues, harguments⟩

/-- **The text of a variable has a value, and is not damaged**, exactly when reading it as JSON does
not come to a whole number of too many digits. For that a run of so many digits must stand in it,
and the failure names their count. Nothing else about variables stands in the way of loading. -/
theorem coerces_iff (raw : String) (sources : Sources) :
    (Coerces raw ↔ ¬Overlong raw) ∧
    (Overlong raw → ∃ digits, Json.LongRun digits raw.toList ∧
      coerce raw = .error (.overlongLiteral digits)) ∧
    ((∃ result, load sources = .ok result) ↔
      (∃ result, load { sources with environment := [] } = .ok result) ∧
        ∀ entry ∈ sources.environment, ∀ path,
          variablePath? sources.start entry.1 = some path → ¬Overlong entry.2) := by
  refine ⟨?_, coerce_overlong, ?_⟩
  · constructor
    · rintro ⟨hvalue, -⟩
      exact (exists_coerce_iff raw).1 hvalue
    · intro h
      exact ⟨(exists_coerce_iff raw).2 h, fun hunknown => coerce_of_unrecognised hunknown h⟩
  · simp only [exists_load_iff sources, exists_coerce_iff]

/-! ## A list of one long number -/

/-- A long enough number is counted and refused. -/
theorem readNumber_longNumber {m : Nat} (h : Decimal.maxDigits < m + 1)
    (hends : Json.NumberEnds r) :
    Json.readNumber false ('1' :: (List.replicate m '1' ++ r)) = .error (.overlong (m + 1)) := by
  have hdigits : Json.readDigits ('1' :: (List.replicate m '1' ++ r)) =
      (1 :: List.replicate m 1, r) := by
    have hsmall : ∀ d ∈ List.replicate (m + 1) 1, d < 10 := by
      intro d hd
      rw [List.eq_of_mem_replicate hd]
      decide
    have hmap := Json.readDigits_map hsmall hends.noDigit
    rw [List.map_replicate] at hmap
    exact hmap
  have hwhole : Json.readWhole ('1' :: (List.replicate m '1' ++ r)) =
      some (1 :: List.replicate m 1, r) := by
    unfold Json.readWhole
    split
    · rename_i hzero
      exact absurd (List.cons.inj hzero).1 (by decide)
    · rw [hdigits]
  have hlong : ¬(1 :: List.replicate m 1).length ≤ Decimal.maxDigits := by
    rw [List.length_cons, List.length_replicate]
    exact Nat.not_le.2 h
  unfold Json.readNumber
  rw [hwhole]
  simp only [Json.readFraction_of_ends hends, Json.readExponent_of_ends hends]
  rw [if_neg hlong, List.length_cons, List.length_replicate]

theorem readList_longNumber {m : Nat} (h : Decimal.maxDigits < m + 1) :
    Json.readList ('[' :: '1' :: (List.replicate m '1' ++ [']'])) = .error (.overlong (m + 1)) := by
  have hitem : ∀ fuel, Json.readValue (fuel + 1) ('1' :: (List.replicate m '1' ++ [']'])) =
      .error (.overlong (m + 1)) := by
    intro fuel
    unfold Json.readValue
    exact readNumber_longNumber h (Json.numberEnds_cons (by decide))
  have hitems : ∀ fuel, Json.readItems (fuel + 2) ('1' :: (List.replicate m '1' ++ [']'])) =
      .error (.overlong (m + 1)) := by
    intro fuel
    unfold Json.readItems
    rw [hitem]
    rfl
  have hvalue : ∀ fuel, Json.readValue (fuel + 3)
      ('[' :: '1' :: (List.replicate m '1' ++ [']'])) = .error (.overlong (m + 1)) := by
    intro fuel
    unfold Json.readValue
    change (Json.readItems (fuel + 2) _ >>= _) = _
    rw [hitems]
    rfl
  obtain ⟨fuel, hfuel⟩ : ∃ fuel, 2 * ('[' :: '1' :: (List.replicate m '1' ++ [']'])).length + 2 =
      fuel + 3 := ⟨2 * m + 5, by simp; omega⟩
  unfold Json.readList
  change (Json.readValue _ ('[' :: '1' :: (List.replicate m '1' ++ [']'])) >>= _) = _
  rw [hfuel, hvalue]
  rfl

/-- One variable with a long enough number in brackets keeps everything from being loaded. -/
theorem not_coerces_longNumber :
    let raw := String.ofList ('[' :: (List.replicate 4301 '1' ++ [']']))
    ¬Coerces raw ∧ coerce raw = .error (.overlongLiteral 4301) ∧
      ¬∃ result, load { environment := [("STOWAGE_NUMBERS", raw)] } = .ok result := by
  intro raw
  have htrim : Text.trim raw = raw := by
    have hends : Text.Trimmed Text.isBlank raw.toList := by
      rw [String.toList_ofList]
      constructor
      · rintro _ ⟨⟩
        decide
      · intro c hc
        rw [← List.cons_append, List.getLast?_append] at hc
        cases hc
        decide
    unfold Text.trim
    rw [hends.trimChars_eq, String.ofList_toList]
  have hannounces : announcesJson (Text.trim raw).toList = true := by
    rw [htrim, String.toList_ofList]
    rfl
  have hread : Json.read (Text.trim raw) = .error (.overlong 4301) := by
    rw [htrim]
    unfold Json.read
    rw [String.toList_ofList]
    change Json.readList ('[' :: (List.replicate (4300 + 1) '1' ++ [']'])) = _
    rw [List.replicate_succ]
    exact readList_longNumber (by decide)
  have hlong : Overlong raw := ⟨hannounces, 4301, hread⟩
  refine ⟨?_, ?_, ?_⟩
  · rintro ⟨hvalue, -⟩
    exact (exists_coerce_iff raw).1 hvalue hlong
  · rw [coerce_of_announcesJson hannounces, hread]
  · intro hload
    have hpath : variablePath? standardPrefix "STOWAGE_NUMBERS" = some ["numbers"] := by decide
    have hvalue := ((exists_load_iff _).1 hload).2 _ (List.mem_singleton_self _) _ hpath
    exact (exists_coerce_iff raw).1 hvalue hlong

end Stowage.Config
