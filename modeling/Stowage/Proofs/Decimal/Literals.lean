import Mathlib.Data.List.TakeDrop
import Stowage.Decimal.Literal
import Stowage.Proofs.Flow.Laws
import Stowage.Proofs.Text.Trimmed

/-!
The grammar of number literals.

What counts as an integer or a floating-point number in free text is written down as inductive
predicates on characters, and the readers are shown to accept exactly that, with the value that the
grammar gives (`integer?_eq_some`, `double?_eq_some`).

The readers look ahead: the run of digits before a point is the longest one. In the grammar the
parts stand side by side, and what comes after a run of digits, a point or the letter of an
exponent, is no digit and no underscore (`Ends`).
-/

namespace Stowage.Decimal

open Text (decimalDigit?)

variable {c : Char} {cs body rest : List Char} {ds : List Nat} {negative : Bool} {i e : Int}
  {n : Nat} {x : Double}

/-! ## Digits -/

/-- Digits of any script, and the values of them. A single underscore may stand between two. -/
inductive Grouped : List Char → List Nat → Prop
  | last {c : Char} {d : Nat} : decimalDigit? c = some d → Grouped [c] [d]
  | next {c : Char} {d : Nat} {cs : List Char} {ds : List Nat} : decimalDigit? c = some d →
    Grouped cs ds → Grouped (c :: cs) (d :: ds)
  | apart {c : Char} {d : Nat} {cs : List Char} {ds : List Nat} : decimalDigit? c = some d →
    Grouped cs ds → Grouped (c :: '_' :: cs) (d :: ds)

/-- What may follow a digit of a literal. -/
def Follows (cs : List Char) (ds : List Nat) : Prop :=
  (cs = [] ∧ ds = []) ∨ Grouped cs ds ∨ ∃ r, cs = '_' :: r ∧ Grouped r ds

theorem grouped_cons : Grouped (c :: cs) ds ↔
    ∃ d r, decimalDigit? c = some d ∧ ds = d :: r ∧ Follows cs r := by
  constructor
  · intro h
    cases h with
    | last hc => exact ⟨_, _, hc, rfl, .inl ⟨rfl, rfl⟩⟩
    | next hc hr => exact ⟨_, _, hc, rfl, .inr (.inl hr)⟩
    | apart hc hr => exact ⟨_, _, hc, rfl, .inr (.inr ⟨_, rfl, hr⟩)⟩
  · rintro ⟨d, r, hc, rfl, ⟨rfl, rfl⟩ | hr | ⟨r', rfl, hr⟩⟩
    · exact .last hc
    · exact .next hc hr
    · exact .apart hc hr

theorem groupedDigits?_iff (cs : List Char) (ds : List Nat) :
    (groupedDigits? decimalDigit? false cs = some ds ↔ Grouped cs ds) ∧
    (groupedDigits? decimalDigit? true cs = some ds ↔ Follows cs ds) := by
  induction cs generalizing ds with
  | nil =>
    have hnot : ¬Grouped [] ds := fun h => nomatch h
    simp [groupedDigits?, Follows, hnot, eq_comm]
  | cons c r ih =>
    cases hc : decimalDigit? c with
    | some d =>
      have hne : c ≠ '_' := by
        rintro rfl
        cases hc
      have hmap : ∀ b, groupedDigits? decimalDigit? b (c :: r) = some ds ↔
          ∃ r', groupedDigits? decimalDigit? true r = some r' ∧ d :: r' = ds := by
        intro b
        simp [groupedDigits?, hc]
      have hgrouped : (∃ r', groupedDigits? decimalDigit? true r = some r' ∧ d :: r' = ds) ↔
          Grouped (c :: r) ds := by
        rw [grouped_cons]
        constructor
        · rintro ⟨r', hr, rfl⟩
          exact ⟨d, r', hc, rfl, (ih r').2.1 hr⟩
        · rintro ⟨d', r', hd, rfl, hr⟩
          cases hc.symm.trans hd
          exact ⟨r', (ih r').2.2 hr, rfl⟩
      rw [hmap, hmap, hgrouped]
      simp [Follows, hne]
    | none =>
      have hnot : ¬Grouped (c :: r) ds := by
        intro h
        obtain ⟨d, _, hd, -⟩ := grouped_cons.1 h
        cases hc.symm.trans hd
      by_cases hu : c = '_'
      · subst hu
        simp [groupedDigits?, hc, hnot, Follows, (ih ds).1]
      · simp [groupedDigits?, hc, hnot, Follows, hu]

theorem groupedDigits?_eq_some :
    groupedDigits? decimalDigit? false cs = some ds ↔ Grouped cs ds :=
  (groupedDigits?_iff cs ds).1

theorem Grouped.exists_cons (h : Grouped cs ds) :
    ∃ c r d, cs = c :: r ∧ decimalDigit? c = some d := by
  cases h with
  | last hc | next hc _ | apart hc _ => exact ⟨_, _, _, rfl, hc⟩

theorem Grouped.ne_nil (h : Grouped cs ds) : cs ≠ [] := by
  obtain ⟨c, r, d, rfl, -⟩ := h.exists_cons
  exact List.cons_ne_nil c r

/-! ## Signs -/

/-- An optional sign. -/
inductive Sign : List Char → Bool → Prop
  | none : Sign [] false
  | plus : Sign ['+'] false
  | minus : Sign ['-'] true

/-- A sign is taken for one unless what comes after it begins with another. -/
theorem sign_append {s : List Char} (h : Sign s negative)
    (hbody : ∀ c, body.head? = some c → c ≠ '-' ∧ c ≠ '+') : sign (s ++ body) = (negative, body) := by
  cases h with
  | plus | minus => rfl
  | none =>
    cases body with
    | nil => rfl
    | cons c r =>
      obtain ⟨hminus, hplus⟩ := hbody c rfl
      simp [sign, hminus, hplus]

theorem exists_sign (cs : List Char) : ∃ s, Sign s (sign cs).1 ∧ cs = s ++ (sign cs).2 := by
  unfold sign
  split
  · exact ⟨_, .minus, rfl⟩
  · exact ⟨_, .plus, rfl⟩
  · exact ⟨_, .none, rfl⟩

theorem Grouped.head_ne (h : Grouped cs ds) : ∀ c, cs.head? = some c → c ≠ '-' ∧ c ≠ '+' := by
  obtain ⟨c, r, d, rfl, hc⟩ := h.exists_cons
  rintro _ ⟨⟩
  constructor
  · rintro rfl
    cases hc
  · rintro rfl
    cases hc

/-- An integer literal: an optional sign and digits, not too many of them. -/
inductive IntegerLiteral : List Char → Int → Prop
  | intro {s body : List Char} {negative : Bool} {ds : List Nat} : Sign s negative →
    Grouped body ds → ds.length ≤ maxDigits →
    IntegerLiteral (s ++ body) (signed negative (ofDigits ds))

/-- The reader of integers accepts the integer literals, each with its value. -/
theorem integer?_eq_some {s : String} (h : Text.Trimmed Text.isWhite s.toList) :
    integer? s = some i ↔ IntegerLiteral s.toList i := by
  have hread : integer? s = some i ↔ ∃ ds, Grouped (sign s.toList).2 ds ∧
      ds.length ≤ maxDigits ∧ signed (sign s.toList).1 (ofDigits ds) = i := by
    unfold integer?
    rw [h.trimChars_eq]
    cases hds : groupedDigits? decimalDigit? false (sign s.toList).2 with
    | none =>
      simp only [hds, reduceCtorEq, false_iff]
      rintro ⟨ds, hgrouped, -⟩
      cases hds.symm.trans (groupedDigits?_eq_some.2 hgrouped)
    | some ds =>
      have honly : ∀ ds', Grouped (sign s.toList).2 ds' ↔ ds' = ds := by
        intro ds'
        rw [← groupedDigits?_eq_some, hds, Option.some.injEq, eq_comm]
      simp [hds, honly]
  rw [hread]
  generalize s.toList = cs
  constructor
  · rintro ⟨ds, hgrouped, hlength, rfl⟩
    obtain ⟨s, hs, hcs⟩ := exists_sign cs
    have hliteral := IntegerLiteral.intro hs hgrouped hlength
    rw [← hcs] at hliteral
    exact hliteral
  · rintro ⟨hs, hgrouped, hlength⟩
    rw [sign_append hs hgrouped.head_ne]
    exact ⟨_, hgrouped, hlength, rfl⟩

/-! ## Decimals -/

/-- An optional exponent. -/
inductive Exponent : List Char → Int → Prop
  | none : Exponent [] 0
  | some {c : Char} {s body : List Char} {negative : Bool} {ds : List Nat} : c = 'e' ∨ c = 'E' →
    Sign s negative → Grouped body ds →
    Exponent (c :: (s ++ body)) (signed negative (ofDigits ds))

/-- Digits that may be left out. -/
def Optional (cs : List Char) (ds : List Nat) : Prop := (cs = [] ∧ ds = []) ∨ Grouped cs ds

/-- A decimal without a sign: the digits as one number and the power of ten that scales it. There
is a digit on at least one side of the point, if there is a point. -/
inductive Unsigned : List Char → Nat → Int → Prop
  | whole {cs exponent : List Char} {ds : List Nat} {e : Int} : Grouped cs ds →
    Exponent exponent e → Unsigned (cs ++ exponent) (ofDigits ds) e
  | pointed {cs fraction exponent : List Char} {ds fs : List Nat} {e : Int} : Optional cs ds →
    Optional fraction fs → cs ≠ [] ∨ fraction ≠ [] → Exponent exponent e →
    Unsigned (cs ++ '.' :: (fraction ++ exponent)) (ofDigits (ds ++ fs)) (e - fs.length)

/-- A floating-point literal: an optional sign, and a decimal or one of the words for infinity and
for what is not a number, in any case. -/
inductive DoubleLiteral : List Char → Double → Prop
  | infinite {s body : List Char} {negative : Bool} : Sign s negative →
    String.ofList (body.map Char.toLower) = "inf" ∨
      String.ofList (body.map Char.toLower) = "infinity" →
    DoubleLiteral (s ++ body) (.infinite negative)
  | nan {s body : List Char} {negative : Bool} : Sign s negative →
    String.ofList (body.map Char.toLower) = "nan" → DoubleLiteral (s ++ body) .nan
  | decimal {s body : List Char} {negative : Bool} {n : Nat} {e : Int} : Sign s negative →
    Unsigned body n e → DoubleLiteral (s ++ body) (.ofDecimal negative n e)

/-- Nothing that would go on with a run of digits. -/
def Ends (rest : List Char) : Prop :=
  ∀ c, rest.head? = some c → ((decimalDigit? c).isSome || c == '_') = false

theorem Grouped.isRun (h : Grouped cs ds) :
    ∀ c ∈ cs, ((decimalDigit? c).isSome || c == '_') = true := by
  induction h with
  | last hc => simp [hc]
  | next hc _ ih => simpa [hc] using ih
  | apart hc _ ih => simpa [hc] using ih

theorem digitRun_append (h : ∀ c ∈ cs, ((decimalDigit? c).isSome || c == '_') = true)
    (hrest : Ends rest) : digitRun decimalDigit? (cs ++ rest) = (cs, rest) := by
  unfold digitRun
  rw [List.span_eq_takeWhile_dropWhile, Text.dropWhile_append_of_head h hrest,
    List.takeWhile_append_of_pos h]
  cases rest with
  | nil => simp
  | cons c r => simp [hrest c rfl]

theorem digitRun_spec (cs : List Char) :
    cs = (digitRun decimalDigit? cs).1 ++ (digitRun decimalDigit? cs).2 ∧
      Ends (digitRun decimalDigit? cs).2 := by
  unfold digitRun
  rw [List.span_eq_takeWhile_dropWhile]
  refine ⟨List.takeWhile_append_dropWhile.symm, ?_⟩
  intro c hc
  have hnot := List.head?_dropWhile_not (fun c => (decimalDigit? c).isSome || c == '_') cs
  rw [hc] at hnot
  exact hnot

theorem optionalDigits?_eq_some :
    optionalDigits? decimalDigit? cs = some ds ↔ Optional cs ds := by
  unfold optionalDigits? Optional
  cases cs with
  | nil =>
    have hnot : ¬Grouped [] ds := fun h => nomatch h
    simp [hnot, eq_comm]
  | cons c r => simp [groupedDigits?_eq_some]

theorem Optional.isRun (h : Optional cs ds) :
    ∀ c ∈ cs, ((decimalDigit? c).isSome || c == '_') = true := by
  rcases h with ⟨rfl, -⟩ | h
  · exact List.forall_mem_nil _
  · exact h.isRun

theorem Optional.eq_nil_iff (h : Optional cs ds) : ds = [] ↔ cs = [] := by
  rcases h with ⟨rfl, rfl⟩ | h
  · simp
  · cases h <;> simp

theorem exponentPart?_cons (hc : c = 'e' ∨ c = 'E') (cs : List Char) :
    exponentPart? decimalDigit? (c :: cs) = (groupedDigits? decimalDigit? false (sign cs).2).map
      fun ds => signed (sign cs).1 (ofDigits ds) := by
  simp [exponentPart?, hc]

theorem exponentPart?_eq_some :
    exponentPart? decimalDigit? cs = some e ↔ Exponent cs e := by
  constructor
  · intro h
    cases cs with
    | nil =>
      cases h
      exact .none
    | cons c r =>
      by_cases hc : c = 'e' ∨ c = 'E'
      · rw [exponentPart?_cons hc] at h
        obtain ⟨ds, hds, rfl⟩ := Option.map_eq_some_iff.1 h
        obtain ⟨s, hs, hr⟩ := exists_sign r
        have hexponent := Exponent.some hc hs (groupedDigits?_eq_some.1 hds)
        rw [← hr] at hexponent
        exact hexponent
      · simp [exponentPart?, hc] at h
  · intro h
    cases h with
    | none => rfl
    | some hc hs hgrouped =>
      rw [exponentPart?_cons hc, sign_append hs hgrouped.head_ne,
        groupedDigits?_eq_some.2 hgrouped]
      rfl

theorem Exponent.ends (h : Exponent cs e) : Ends cs := by
  intro c hc
  cases h with
  | none => cases hc
  | some hletter _ _ =>
    cases hc
    rcases hletter with rfl | rfl <;> rfl

theorem Exponent.head_ne_point (h : Exponent cs e) : cs.head? ≠ Option.some '.' := by
  cases h with
  | none => simp
  | some hletter _ _ =>
    rcases hletter with rfl | rfl <;> simp

theorem ends_point (cs : List Char) : Ends ('.' :: cs) := by
  rintro _ ⟨⟩
  rfl

/-- What the reader of unsigned decimals makes of digits before a point, digits after it and the
rest. -/
def assembled (whole fraction rest : List Char) : Option (Nat × Int) := do
  let ds ← optionalDigits? decimalDigit? whole
  let fs ← optionalDigits? decimalDigit? fraction
  if ds.isEmpty && fs.isEmpty then none
  else
    let e ← exponentPart? decimalDigit? rest
    some (ofDigits (ds ++ fs), e - fs.length)

theorem assembled_eq_some {whole fraction : List Char} :
    assembled whole fraction rest = some (n, e) ↔ ∃ ds fs e', Optional whole ds ∧
      Optional fraction fs ∧ (whole ≠ [] ∨ fraction ≠ []) ∧ Exponent rest e' ∧
        n = ofDigits (ds ++ fs) ∧ e = e' - fs.length := by
  unfold assembled
  simp only [Option.bind_eq_bind, Option.bind_eq_some_iff, optionalDigits?_eq_some]
  constructor
  · rintro ⟨ds, hwhole, fs, hfraction, h⟩
    split at h
    · cases h
    · rename_i hne
      obtain ⟨e', hexponent, h⟩ := Option.bind_eq_some_iff.1 h
      cases h
      refine ⟨ds, fs, e', hwhole, hfraction, ?_, exponentPart?_eq_some.1 hexponent, rfl, rfl⟩
      simpa [← hwhole.eq_nil_iff, ← hfraction.eq_nil_iff, imp_iff_not_or] using hne
  · rintro ⟨ds, fs, e', hwhole, hfraction, hne, hexponent, rfl, rfl⟩
    refine ⟨ds, hwhole, fs, hfraction, ?_⟩
    rw [if_neg, exponentPart?_eq_some.2 hexponent]
    · rfl
    · simpa [← hwhole.eq_nil_iff, ← hfraction.eq_nil_iff, imp_iff_not_or] using hne

theorem unsignedDecimal?_pointed {whole fraction : List Char}
    (hrun : digitRun decimalDigit? cs = (whole, '.' :: body))
    (hfraction : digitRun decimalDigit? body = (fraction, rest)) :
    unsignedDecimal? decimalDigit? cs = assembled whole fraction rest := by
  unfold unsignedDecimal? assembled
  simp only [hrun, hfraction]

theorem unsignedDecimal?_whole {whole : List Char}
    (hrun : digitRun decimalDigit? cs = (whole, rest)) (hrest : rest.head? ≠ some '.') :
    unsignedDecimal? decimalDigit? cs = assembled whole [] rest := by
  unfold unsignedDecimal? assembled
  rw [hrun]
  dsimp only
  split
  · exact absurd rfl hrest
  · rfl

/-- The reader of unsigned decimals accepts just these. -/
theorem unsignedDecimal?_eq_some :
    unsignedDecimal? decimalDigit? cs = some (n, e) ↔ Unsigned cs n e := by
  constructor
  · intro h
    obtain ⟨hcs, -⟩ := digitRun_spec cs
    cases hrun : digitRun decimalDigit? cs with | mk whole rest
    rw [hrun] at hcs
    by_cases hpoint : rest.head? = some '.'
    · obtain ⟨body, rfl⟩ := List.head?_eq_some_iff.1 hpoint
      obtain ⟨hbody, -⟩ := digitRun_spec body
      cases hfraction : digitRun decimalDigit? body with | mk fraction rest
      rw [unsignedDecimal?_pointed hrun hfraction] at h
      obtain ⟨ds, fs, e', hds, hfs, hne, hexponent, rfl, rfl⟩ := assembled_eq_some.1 h
      rw [hfraction] at hbody
      rw [hcs, hbody]
      exact .pointed hds hfs hne hexponent
    · rw [unsignedDecimal?_whole hrun hpoint] at h
      obtain ⟨ds, fs, e', hds, hfs, hne, hexponent, rfl, rfl⟩ := assembled_eq_some.1 h
      obtain rfl : fs = [] := hfs.eq_nil_iff.2 rfl
      rcases hds with ⟨rfl, -⟩ | hgrouped
      · simp at hne
      · simpa [hcs] using Unsigned.whole hgrouped hexponent
  · intro h
    cases h with
    | whole hgrouped hexponent =>
      have hrun := digitRun_append hgrouped.isRun hexponent.ends
      rw [unsignedDecimal?_whole hrun hexponent.head_ne_point, assembled_eq_some]
      exact ⟨_, [], _, .inr hgrouped, .inl ⟨rfl, rfl⟩, .inl hgrouped.ne_nil, hexponent,
        by simp, by simp⟩
    | @pointed whole fraction exponent _ _ _ hwhole hfraction hne hexponent =>
      have hrun := digitRun_append hwhole.isRun (ends_point (fraction ++ exponent))
      have hrest := digitRun_append hfraction.isRun hexponent.ends
      rw [unsignedDecimal?_pointed hrun hrest, assembled_eq_some]
      exact ⟨_, _, _, hwhole, hfraction, hne, hexponent, rfl, rfl⟩

/-! ## Words -/

/-- Digits are no letters. -/
theorem toLower_of_digit {d : Nat} (h : decimalDigit? c = some d) : c.toLower = c := by
  unfold Char.toLower
  rw [dif_neg]
  rintro ⟨hfrom, hto⟩
  have hlow : c.toNat < 0x80 := Nat.lt_of_le_of_lt hto (by decide)
  unfold decimalDigit? at h
  rw [if_pos hlow] at h
  unfold Text.asciiDigit? at h
  split at h
  · rename_i hdigit
    have hlarge : 'A'.toNat ≤ c.toNat := hfrom
    have hsmall : c.toNat ≤ '9'.toNat := hdigit.2
    exact absurd (Nat.le_trans hlarge hsmall) (by decide)
  · cases h

/-- An unsigned decimal begins neither with a sign nor with a letter of the words. -/
theorem Unsigned.head_ne (h : Unsigned cs n e) : ∀ c, cs.head? = some c →
    (c ≠ '-' ∧ c ≠ '+') ∧ c.toLower ≠ 'i' ∧ c.toLower ≠ 'n' := by
  have hdigit : ∀ {cs ds} rest, Grouped cs ds → ∀ c, (cs ++ rest).head? = some c →
      (c ≠ '-' ∧ c ≠ '+') ∧ c.toLower ≠ 'i' ∧ c.toLower ≠ 'n' := by
    intro cs ds rest hgrouped
    obtain ⟨c, r, d, rfl, hc⟩ := hgrouped.exists_cons
    rintro _ ⟨⟩
    rw [toLower_of_digit hc]
    refine ⟨hgrouped.head_ne c rfl, ?_, ?_⟩
    · rintro rfl
      cases hc
    · rintro rfl
      cases hc
  cases h with
  | whole hgrouped _ => exact hdigit _ hgrouped
  | pointed hwhole _ _ _ =>
    rcases hwhole with ⟨rfl, -⟩ | hgrouped
    · rintro _ ⟨⟩
      decide
    · exact hdigit _ hgrouped

/-- A word in any case begins with its first letter in some case. -/
theorem head_of_word {w : String} {first : Char} (h : String.ofList (body.map Char.toLower) = w)
    (hw : w.toList.head? = some first) : ∃ c, body.head? = some c ∧ c.toLower = first := by
  rw [← h, String.toList_ofList, List.head?_map] at hw
  exact Option.map_eq_some_iff.1 hw

theorem word_head_ne {w : String} (h : String.ofList (body.map Char.toLower) = w)
    (hw : w = "inf" ∨ w = "infinity" ∨ w = "nan") :
    ∃ c, body.head? = some c ∧ (c.toLower = 'i' ∨ c.toLower = 'n') := by
  rcases hw with rfl | rfl | rfl
  · obtain ⟨c, hc, hlower⟩ := head_of_word h rfl
    exact ⟨c, hc, .inl hlower⟩
  · obtain ⟨c, hc, hlower⟩ := head_of_word h rfl
    exact ⟨c, hc, .inl hlower⟩
  · obtain ⟨c, hc, hlower⟩ := head_of_word h rfl
    exact ⟨c, hc, .inr hlower⟩

theorem sign_append_word {s : List Char} (hs : Sign s negative) {w : String}
    (h : String.ofList (body.map Char.toLower) = w)
    (hw : w = "inf" ∨ w = "infinity" ∨ w = "nan") : sign (s ++ body) = (negative, body) := by
  apply sign_append hs
  intro c hc
  obtain ⟨c', hc', hlower⟩ := word_head_ne h hw
  cases hc.symm.trans hc'
  constructor
  · rintro rfl
    revert hlower
    decide
  · rintro rfl
    revert hlower
    decide

/-- The reader of floating-point numbers accepts the floating-point literals, each with its
value. -/
theorem double?_eq_some {s : String} (h : Text.Trimmed Text.isWhite s.toList) :
    double? s = some x ↔ DoubleLiteral s.toList x := by
  unfold double?
  rw [h.trimChars_eq]
  generalize s.toList = cs
  unfold doubleLiteral?
  constructor
  · intro h
    obtain ⟨s, hs, hcs⟩ := exists_sign cs
    cases hsign : sign cs with | mk negative body
    rw [hsign] at h hs hcs
    subst hcs
    dsimp only at h
    split at h
    · rename_i hword
      cases h
      exact .infinite hs hword
    · split at h
      · rename_i hword
        cases h
        exact .nan hs hword
      · obtain ⟨⟨n, e⟩, hread, rfl⟩ := Option.map_eq_some_iff.1 h
        exact .decimal hs (unsignedDecimal?_eq_some.1 hread)
  · intro h
    cases h with
    | infinite hs hword =>
      have hsign := sign_append_word hs rfl (hword.imp_right .inl)
      rw [hsign]
      exact if_pos hword
    | nan hs hword =>
      rw [sign_append_word hs hword (.inr (.inr rfl))]
      dsimp only
      rw [hword]
      rfl
    | @decimal s body negative n e hs hunsigned =>
      rw [sign_append hs fun c hc => (hunsigned.head_ne c hc).1]
      dsimp only
      have hnot : ∀ w, w = "inf" ∨ w = "infinity" ∨ w = "nan" →
          String.ofList (body.map Char.toLower) ≠ w := by
        intro w hw heq
        obtain ⟨c, hc, hlower⟩ := word_head_ne heq hw
        obtain ⟨-, hi, hn⟩ := hunsigned.head_ne c hc
        exact hlower.elim hi hn
      rw [if_neg, if_neg, unsignedDecimal?_eq_some.2 hunsigned]
      · rfl
      · exact hnot _ (.inr (.inr rfl))
      · rintro (h | h)
        · exact hnot _ (.inl rfl) h
        · exact hnot _ (.inr (.inl rfl)) h

end Stowage.Decimal
