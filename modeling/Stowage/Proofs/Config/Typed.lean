import Stowage.Proofs.Config.Coerced
import Stowage.Proofs.Container.RoundTrip

/-!
Values that survive the environment.

What is written as JSON is read as the value it was, whichever of the readers comes first for its
text: a word, an integer and a document each begin in their own way (`coerce_write`).
-/

namespace Stowage

namespace Decimal

/-- Digits as they are written are digits of a literal. -/
theorem grouped_map_digitChar {ds : List Nat} (hne : ds ≠ []) (h : ∀ d ∈ ds, d < 10) :
    Grouped (ds.map digitChar) ds := by
  have hdigit : ∀ d < 10, Text.decimalDigit? (digitChar d) = some d := by decide
  induction ds with
  | nil => exact absurd rfl hne
  | cons d r ih =>
    obtain ⟨hd, hr⟩ := List.forall_mem_cons.1 h
    cases r with
    | nil => exact .last (hdigit d hd)
    | cons d' r' => exact .next (hdigit d hd) (ih (List.cons_ne_nil d' r') hr)

/-- An integer as it is written is an integer literal, if it can be written at all. -/
theorem integerLiteral_integerChars {i : Int} (h : isOverlong i = false) :
    IntegerLiteral (integerChars i) i := by
  have hgrouped : ∀ n, Grouped (digits n) (digitValues n) := by
    intro n
    rw [digits_eq]
    exact grouped_map_digitChar (digitValues_ne_nil n) fun d => lt_ten_of_mem
  cases i with
  | ofNat n =>
    have hliteral := IntegerLiteral.intro .none (hgrouped n) (length_digitValues h)
    rwa [ofDigits_digitValues] at hliteral
  | negSucc n =>
    have hliteral := IntegerLiteral.intro .minus (hgrouped (n + 1)) (length_digitValues h)
    rwa [ofDigits_digitValues] at hliteral

end Decimal

namespace Config

open Json (Style)

variable {j : Json} {left right : List Char}

/-! ## Where written documents begin and end -/

theorem trimmed_integerChars (i : Int) : Text.Trimmed Text.isBlank (Decimal.integerChars i) := by
  have hblank : ∀ c ∈ Decimal.integerChars i, Text.isBlank c = false := by
    have hdigits : ∀ n, ∀ c ∈ Decimal.digits n, Text.isBlank c = false := by
      intro n c hc
      have hall : ∀ d < 10, Text.isBlank (Decimal.digitChar d) = false := by decide
      rw [Decimal.digits_eq] at hc
      obtain ⟨d, hd, rfl⟩ := List.mem_map.1 hc
      exact hall d (Decimal.lt_ten_of_mem hd)
    cases i with
    | ofNat n => exact hdigits n
    | negSucc n => exact List.forall_mem_cons.2 ⟨by decide, hdigits (n + 1)⟩
  exact ⟨fun c hc => hblank c (List.mem_of_head? hc), fun c hc => hblank c (List.mem_of_getLast? hc)⟩

/-- What is enclosed begins and ends with its brackets. -/
theorem enclose_ends (style : Style) (first last : Char) (items : List (List Char)) :
    (Json.enclose style 0 first last items).head? = some first ∧
      (Json.enclose style 0 first last items).getLast? = some last := by
  cases items with
  | nil => exact ⟨rfl, rfl⟩
  | cons item rest =>
    refine ⟨rfl, ?_⟩
    unfold Json.enclose
    dsimp only
    rw [← List.cons_append, List.getLast?_append]
    rfl

theorem trimmed_write (h : j.Plain) (htext : ∀ s, j ≠ .text s) :
    Text.Trimmed Text.isBlank (Json.writeAt .spaced 0 j) := by
  have hends : ∀ {cs : List Char} {first last : Char}, Text.isBlank first = false →
      Text.isBlank last = false → cs.head? = some first ∧ cs.getLast? = some last →
        Text.Trimmed Text.isBlank cs := by
    intro cs first last hfirst hlast ⟨hhead, hgetLast⟩
    constructor
    · intro c hc
      cases hhead.symm.trans hc
      exact hfirst
    · intro c hc
      cases hgetLast.symm.trans hc
      exact hlast
  have hn : Text.isBlank 'n' = false := by decide
  have hl : Text.isBlank 'l' = false := by decide
  have ht : Text.isBlank 't' = false := by decide
  have hf : Text.isBlank 'f' = false := by decide
  have he : Text.isBlank 'e' = false := by decide
  cases h with
  | null => exact hends hn hl ⟨rfl, rfl⟩
  | bool b =>
    cases b with
    | true => exact hends ht he ⟨rfl, rfl⟩
    | false => exact hends hf he ⟨rfl, rfl⟩
  | int h => exact trimmed_integerChars _
  | text s => exact absurd rfl (htext s)
  | list _ =>
    rw [Json.writeAt]
    exact hends (by decide) (by decide) (enclose_ends _ _ _ _)
  | object _ _ =>
    rw [Json.writeAt]
    exact hends (by decide) (by decide) (enclose_ends _ _ _ _)

/-- Blanks around a text whose own ends are not blank are taken off. -/
theorem trim_enclosed {cs : List Char} (h : Text.Trimmed Text.isBlank cs)
    (hleft : ∀ c ∈ left, Text.isBlank c = true) (hright : ∀ c ∈ right, Text.isBlank c = true) :
    Text.trim (String.ofList (left ++ cs ++ right)) = String.ofList cs := by
  unfold Text.trim
  rw [String.toList_ofList, Text.trimChars_enclosed h hleft hright]

/-! ## Each kind of value -/

variable {raw : String}

theorem coerce_of_integer {i : Int} (h : Decimal.isOverlong i = false)
    (htrim : Text.trim raw = String.ofList (Decimal.integerChars i)) :
    coerce raw = .ok (.int i) := by
  have hread : Decimal.integer? (Text.trim raw) = some i := by
    have hwhite := (trimmed_trim raw).mono fun _ => isBlank_of_isWhite
    rw [Decimal.integer?_eq_some hwhite, htrim, String.toList_ofList]
    exact Decimal.integerLiteral_integerChars h
  have hlist : (Text.trim raw).toList = Decimal.integerChars i := by
    rw [htrim, String.toList_ofList]
  -- no word and no document begins with a sign or a digit
  have hhead : ∃ c, (Text.trim raw).toList.head? = some c ∧ c.toNat < 0x80 ∧
      (c.toLower ≠ 't' ∧ c.toLower ≠ 'f' ∧ c.toLower ≠ 'n') ∧ c ≠ '\x7b' ∧ c ≠ '[' := by
    rw [hlist]
    cases i with
    | ofNat n =>
      obtain ⟨d, hd, r, hr⟩ := Json.digits_cons n
      have hall : ∀ d < 10, (Decimal.digitChar d).toNat < 0x80 ∧
          ((Decimal.digitChar d).toLower ≠ 't' ∧ (Decimal.digitChar d).toLower ≠ 'f' ∧
            (Decimal.digitChar d).toLower ≠ 'n') ∧
          Decimal.digitChar d ≠ '\x7b' ∧ Decimal.digitChar d ≠ '[' := by decide
      refine ⟨Decimal.digitChar d, ?_, hall d hd⟩
      change (Decimal.digits n).head? = _
      rw [hr]
      rfl
    | negSucc n => exact ⟨'-', rfl, by decide⟩
  obtain ⟨c, hc, hlow, hword, hbrace, hbracket⟩ := hhead
  have hannounces : announcesJson (Text.trim raw).toList ≠ true := by
    rw [Ne, announcesJson_iff_head, hc]
    simp [hbrace, hbracket]
  rw [coerce_of_not_announcesJson hannounces, wordValue?_lower_eq_none hc hlow hword, hread]
  rfl

theorem coerce_of_document (h : j.Plain)
    (hannounces : announcesJson (Json.writeAt .spaced 0 j) = true)
    (htrim : Text.trim raw = String.ofList (Json.writeAt .spaced 0 j)) :
    coerce raw = .ok j.toValue := by
  have hread : Json.read (Text.trim raw) = .ok j := by
    have hback := Json.readList_writeAt Json.Style.readable_spaced h (List.forall_mem_nil _)
    rw [List.append_nil, Json.arranged_of_unsorted rfl] at hback
    unfold Json.read
    rw [htrim, String.toList_ofList]
    exact hback
  rw [coerce_of_announcesJson (by rw [htrim, String.toList_ofList]; exact hannounces), hread]

theorem coerce_of_written (h : j.Plain) (htext : ∀ s, j ≠ .text s)
    (htrim : Text.trim raw = String.ofList (Json.writeAt .spaced 0 j)) :
    coerce raw = .ok j.toValue := by
  cases h with
  | null =>
    have hlower : Text.lower (String.ofList (Json.writeAt .spaced 0 .null)) = "null" := by decide
    apply coerce_of_word
    rw [htrim, hlower]
    rfl
  | bool b =>
    have hlower : Text.lower (String.ofList (Json.writeAt .spaced 0 (.bool b))) =
        if b then "true" else "false" := by cases b <;> decide
    apply coerce_of_word
    rw [htrim, hlower]
    cases b <;> rfl
  | int h => exact coerce_of_integer h htrim
  | text s => exact absurd rfl (htext s)
  | @list items h =>
    have hhead := (enclose_ends .spaced '[' ']' (Json.writeItems .spaced 1 items)).1
    apply coerce_of_document (.list h) (announcesJson_iff_head.2 (.inr ?_)) htrim
    rw [Json.writeAt]
    exact hhead
  | @object members hn h =>
    apply coerce_of_document (.object hn h) (announcesJson_iff_head.2 (.inl ?_)) htrim
    rw [Json.writeAt]
    exact (enclose_ends _ _ _ _).1

/-- **Typed values survive the environment.** Truth values, null, integers that can be written, and
lists and mappings of these and of texts, to any depth and with no key twice, are read as they were
when they come as JSON, whatever white space is around it. A variable with such a text sets the
value at its path, unless a later variable sets something there, above or below. -/
theorem coerce_write (h : j.Plain) (htext : ∀ s, j ≠ .text s)
    (hleft : ∀ c ∈ left, Text.isBlank c = true) (hright : ∀ c ∈ right, Text.isBlank c = true) :
    coerce (String.ofList (left ++ (Json.write .spaced j).toList ++ right)) = .ok j.toValue ∧
    ∀ (start name : String) (path : List String) (before later : List (String × String)),
      variablePath? start name = some path →
      (∃ es, ofVariables start (before ++ later) = .ok es) →
      (∀ e ∈ later, ∀ other, variablePath? start e.1 = some other → Apart path other) →
      ∃ es, ofVariables start (before ++
          (name, String.ofList (left ++ (Json.write .spaced j).toList ++ right)) :: later) = .ok es ∧
        (Value.mapping es).at? path = some j.toValue := by
  have hcoerce : coerce (String.ofList (left ++ (Json.write .spaced j).toList ++ right)) =
      .ok j.toValue := by
    apply coerce_of_written h htext
    unfold Json.write
    rw [String.toList_ofList]
    exact trim_enclosed (trimmed_write h htext) hleft hright
  refine ⟨hcoerce, ?_⟩
  intro start name path before later hpath hothers hlater
  generalize String.ofList (left ++ (Json.write .spaced j).toList ++ right) = text at hcoerce ⊢
  have hset : ∃ es, ofVariables start (before ++ (name, text) :: later) = .ok es := by
    unfold ofVariables at hothers ⊢
    rw [foldlM_setVariable_isOk] at hothers ⊢
    obtain ⟨hbefore, hafter⟩ := List.forall_mem_append.1 hothers
    refine List.forall_mem_append.2 ⟨hbefore, List.forall_mem_cons.2 ⟨?_, hafter⟩⟩
    exact fun _ _ => ⟨_, hcoerce⟩
  obtain ⟨es, hes⟩ := hset
  obtain ⟨v, hv, hat⟩ := at?_ofVariables hes hpath hlater
  cases hcoerce.symm.trans hv
  exact ⟨es, hes, hat⟩

/-- A document with a text beyond the basic plane, a long number and an empty list. -/
theorem coerce_write_nested :
    let j : Json := .object [("é😀", .list [.int (-12), .null, .list []]), ("x", .text " 7 ")]
    let text := String.ofList ([' '] ++ (Json.write .spaced j).toList ++ ['\n'])
    j.Plain ∧ coerce text = .ok j.toValue ∧
      ∃ es, ofVariables standardPrefix
          [("STOWAGE_A", "5"), ("STOWAGE_A__B", text), ("STOWAGE_A__C", "6")] = .ok es ∧
        (Value.mapping es).at? ["a", "b"] = some j.toValue := by
  intro j text
  have hplain : j.Plain := by
    have hshort : Decimal.isOverlong (-12) = false := by decide +kernel
    refine .object (by decide) ?_
    simp only [List.forall_mem_cons, List.not_mem_nil, false_implies, implies_true, and_true]
    refine ⟨.list ?_, .text " 7 "⟩
    simp only [List.forall_mem_cons, List.not_mem_nil, false_implies, implies_true, and_true]
    exact ⟨.int hshort, .null, .list (List.forall_mem_nil _)⟩
  have hpath : variablePath? standardPrefix "STOWAGE_A__B" = some ["a", "b"] := by decide
  have hafter : variablePath? standardPrefix "STOWAGE_A__C" = some ["a", "c"] := by decide
  have hothers : ∃ es, ofVariables standardPrefix
      ([("STOWAGE_A", "5")] ++ [("STOWAGE_A__C", "6")]) = .ok es := ⟨_, rfl⟩
  have hlater : ∀ e ∈ [("STOWAGE_A__C", "6")], ∀ other,
      variablePath? standardPrefix e.1 = some other → Apart ["a", "b"] other := by
    refine List.forall_mem_singleton.2 fun other hother => ?_
    cases hafter.symm.trans hother
    exact ⟨by decide, by decide⟩
  have hblank : ∀ c ∈ [' '], Text.isBlank c = true := List.forall_mem_singleton.2 rfl
  have hbreak : ∀ c ∈ ['\n'], Text.isBlank c = true := List.forall_mem_singleton.2 rfl
  obtain ⟨hcoerce, hset⟩ := coerce_write hplain nofun hblank hbreak
  exact ⟨hplain, hcoerce, hset _ _ _ _ _ hpath hothers hlater⟩

end Config

end Stowage
