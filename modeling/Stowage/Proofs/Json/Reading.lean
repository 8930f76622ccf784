import Mathlib.Data.List.Induction
import Stowage.Proofs.Decimal.Shortest
import Stowage.Proofs.Flow.Laws
import Stowage.Json.Reader

/-!
What reading a document does.

Whatever is read is made of words, numbers, texts and what else has been read (`Made`), and leaves a
rest that ends the text. What is refused on the way for its length is therefore a run of digits in
the text itself. All this is one specification of the reader, by its recursion (`stays_readValue`).
-/

namespace Stowage

namespace Decimal

theorem ofDigits_concat (ds : List Nat) (d : Nat) :
    ofDigits (ds ++ [d]) = 10 * ofDigits ds + d := by
  rw [ofDigits, List.foldl_append]
  rfl

theorem ofDigits_lt {ds : List Nat} (h : ∀ d ∈ ds, d < 10) : ofDigits ds < 10 ^ ds.length := by
  induction ds using List.reverseRecOn with
  | nil => decide
  | append_singleton ds d ih =>
    have hds := ih fun d hd => h d (List.mem_append_left _ hd)
    have hd := h d (List.mem_append_right _ (List.mem_singleton_self d))
    rw [ofDigits_concat, List.length_append, List.length_singleton, Nat.pow_succ]
    omega

/-- A number with few enough digits is not too long. -/
theorem isOverlong_ofDigits {ds : List Nat} (h : ∀ d ∈ ds, d < 10) (hlength : ds.length ≤ maxDigits)
    (negative : Bool) : isOverlong (signed negative (ofDigits ds)) = false := by
  have habs : (signed negative (ofDigits ds)).natAbs = ofDigits ds := by
    cases negative
    · rfl
    · exact Int.natAbs_neg _
  rw [isOverlong, habs, decide_eq_false_iff_not, Nat.not_le]
  -- the bound is kept from being evaluated
  generalize maxDigits = most at hlength ⊢
  exact Nat.lt_of_lt_of_le (ofDigits_lt h) (Nat.pow_le_pow_right (by decide) hlength)

end Decimal

namespace Json

variable {α β : Type} {cs r : List Char} {n : Nat}

/-- A run of so many digits, more than are converted, stands somewhere in a text. -/
def LongRun (n : Nat) (cs : List Char) : Prop :=
  Decimal.maxDigits < n ∧ ∃ before run after, cs = before ++ run ++ after ∧ run.length = n ∧
    ∀ c ∈ run, (Text.asciiDigit? c).isSome = true

theorem LongRun.of_infix (h : LongRun n r) (hr : r <:+: cs) : LongRun n cs := by
  obtain ⟨hn, before, run, after, rfl, hlength, hrun⟩ := h
  obtain ⟨earlier, later, rfl⟩ := hr
  exact ⟨hn, earlier ++ before, run, after ++ later, by simp, hlength, hrun⟩

theorem LongRun.of_suffix (h : LongRun n r) (hr : r <:+ cs) : LongRun n cs := h.of_infix hr.isInfix

/-! ## What is left -/

theorem suffix_skipGap (cs : List Char) : skipGap cs <:+ cs := List.dropWhile_suffix _

theorem suffix_of_skipGap {c : Char} (h : skipGap cs = c :: r) : r <:+ cs := by
  have hcons : r <:+ skipGap cs := by
    rw [h]
    exact List.suffix_cons c r
  exact hcons.trans (suffix_skipGap cs)

theorem suffix_hexUnit? {unit : Nat} (h : hexUnit? cs = some (unit, r)) : r <:+ cs := by
  unfold hexUnit? at h
  split at h
  · simp only [Option.bind_eq_bind, Option.bind_eq_some_iff, Option.some.injEq,
      Prod.mk.injEq] at h
    obtain ⟨_, _, _, _, _, _, _, _, _, rfl⟩ := h
    exact ⟨[_, _, _, _], rfl⟩
  · cases h

theorem suffix_unitChar (unit : Nat) (rest : List Char) : (unitChar unit rest).2 <:+ rest := by
  unfold unitChar
  split
  · split
    · split
      · rename_i r _ _ hlow
        split
        · exact (suffix_hexUnit? hlow).trans ⟨['\\', 'u'], rfl⟩
        · exact List.suffix_refl _
      · exact List.suffix_refl _
    · exact List.suffix_refl _
  · split
    · exact List.suffix_refl _
    · exact List.suffix_refl _

theorem suffix_readChars {fuel : Nat} {s : List Char} (h : readChars fuel cs = some (s, r)) :
    r <:+ cs := by
  induction fuel generalizing cs s with
  | zero => cases h
  | succ fuel ih =>
    cases cs with
    | nil => cases h
    | cons c rest =>
      unfold readChars at h
      split at h
      · cases h
        exact List.suffix_cons c r
      · split at h
        · split at h
          · rename_i rest
            simp only [Option.bind_eq_bind, Option.bind_eq_some_iff] at h
            obtain ⟨⟨unit, r₁⟩, hunit, ⟨s', r₂⟩, hread, h⟩ := h
            cases h
            have hr₁ := (suffix_unitChar unit r₁).trans (suffix_hexUnit? hunit)
            exact ((ih hread).trans hr₁).trans ⟨[c, 'u'], rfl⟩
          · rename_i e rest _
            simp only [Option.bind_eq_bind, Option.bind_eq_some_iff] at h
            obtain ⟨c', -, ⟨s', r'⟩, hread, h⟩ := h
            cases h
            exact (ih hread).trans ⟨[c, e], rfl⟩
          · cases h
        · split at h
          · cases h
          · simp only [Option.bind_eq_bind, Option.bind_eq_some_iff] at h
            obtain ⟨⟨s', r'⟩, hread, h⟩ := h
            cases h
            exact (ih hread).trans (List.suffix_cons c rest)

theorem asciiDigit?_lt {c : Char} {d : Nat} (h : Text.asciiDigit? c = some d) : d < 10 := by
  unfold Text.asciiDigit? at h
  split at h
  · rename_i hc
    have hle : c.toNat ≤ '9'.toNat := hc.2
    have h9 : '9'.toNat = 57 := rfl
    have hd := Option.some.inj h
    omega
  · cases h

/-- The digits that are read are as many as the characters that are taken for them. -/
theorem readDigits_spec (cs : List Char) : (∀ d ∈ (readDigits cs).1, d < 10) ∧
    ∃ run, cs = run ++ (readDigits cs).2 ∧ run.length = (readDigits cs).1.length ∧
      ∀ c ∈ run, (Text.asciiDigit? c).isSome = true := by
  induction cs with
  | nil => exact ⟨List.forall_mem_nil _, [], rfl, rfl, List.forall_mem_nil _⟩
  | cons c r ih =>
    obtain ⟨hlt, run, hr, hlength, hrun⟩ := ih
    unfold readDigits
    split
    · rename_i d hd
      refine ⟨List.forall_mem_cons.2 ⟨asciiDigit?_lt hd, hlt⟩, c :: run, ?_, ?_, ?_⟩
      · exact congrArg (c :: ·) hr
      · exact congrArg (· + 1) hlength
      · exact List.forall_mem_cons.2 ⟨by rw [hd]; rfl, hrun⟩
    · exact ⟨List.forall_mem_nil _, [], rfl, rfl, List.forall_mem_nil _⟩

theorem suffix_readDigits (cs : List Char) : (readDigits cs).2 <:+ cs := by
  obtain ⟨-, run, hcs, -⟩ := readDigits_spec cs
  exact ⟨run, hcs.symm⟩

theorem readWhole_spec {ds : List Nat} (h : readWhole cs = some (ds, r)) : (∀ d ∈ ds, d < 10) ∧
    ∃ run, cs = run ++ r ∧ run.length = ds.length ∧
      ∀ c ∈ run, (Text.asciiDigit? c).isSome = true := by
  unfold readWhole at h
  split at h
  · cases h
    exact ⟨by decide, ['0'], rfl, rfl, List.forall_mem_singleton.2 rfl⟩
  · have hspec := readDigits_spec cs
    split at h
    · cases h
    · rw [Option.some.inj h] at hspec
      exact hspec

theorem suffix_readFraction {ds : List Nat} (h : readFraction cs = some (ds, r)) : r <:+ cs := by
  unfold readFraction at h
  split at h
  · rename_i rest
    have hsuffix := suffix_readDigits rest
    split at h
    · cases h
    · rw [Option.some.inj h] at hsuffix
      exact hsuffix.trans (List.suffix_cons _ _)
  · cases h

theorem suffix_sign (cs : List Char) : (Decimal.sign cs).2 <:+ cs := by
  unfold Decimal.sign
  split
  · exact List.suffix_cons _ _
  · exact List.suffix_cons _ _
  · exact List.suffix_refl _

theorem suffix_readExponent {e : Int} (h : readExponent cs = some (e, r)) : r <:+ cs := by
  unfold readExponent at h
  split at h
  · rename_i c rest
    split at h
    · have hsign := suffix_sign rest
      generalize Decimal.sign rest = signed at h hsign
      have hsuffix := suffix_readDigits signed.2
      dsimp only at h
      split at h
      · cases h
      · rename_i hread
        cases h
        rw [hread] at hsuffix
        exact (hsuffix.trans hsign).trans (List.suffix_cons c rest)
    · cases h
  · cases h

/-! ## What is read and what is refused -/

/-- Words and numbers. -/
inductive Atomic : Json → Prop
  | null : Atomic .null
  | bool (b : Bool) : Atomic (.bool b)
  | float {x : Double} : x.Canonical → Atomic (.float x)
  | int {i : Int} : Decimal.isOverlong i = false → Atomic (.int i)

/-- What the reader makes. -/
inductive Made : Json → Prop
  | atom {j : Json} : Atomic j → Made j
  | text (s : String) : Made (.text s)
  | list {items : List Json} : (∀ j ∈ items, Made j) → Made (.list items)
  | ofPairs {pairs : List (String × Json)} : (∀ m ∈ pairs, Made m.2) → Made (ofPairs pairs)

/-- Reading takes something off the front of a text, or comes to a run of digits in it that is not
converted, or fails otherwise. -/
def Stays (P : α → Prop) (cs : List Char) : Except Refusal (α × List Char) → Prop
  | .ok (a, r) => P a ∧ r <:+ cs
  | .error (.overlong n) => LongRun n cs
  | .error .malformed => True

variable {P : α → Prop} {Q : β → Prop}

theorem Stays.mono {x : Except Refusal (α × List Char)} (h : Stays P r x) (hr : r <:+ cs) :
    Stays P cs x := by
  cases x with
  | ok found => exact ⟨h.1, h.2.trans hr⟩
  | error refusal =>
    cases refusal with
    | malformed => trivial
    | overlong n => exact LongRun.of_suffix h hr

theorem Stays.imp {R : α → Prop} {x : Except Refusal (α × List Char)} (h : Stays P cs x)
    (hPR : ∀ a, P a → R a) : Stays R cs x := by
  cases x with
  | ok found => exact ⟨hPR _ h.1, h.2⟩
  | error refusal => cases refusal <;> exact h

/-- Readers one after the other, the second on what the first has left. -/
theorem Stays.bind {x : Except Refusal (α × List Char)}
    {f : α × List Char → Except Refusal (β × List Char)} (h : Stays P cs x)
    (hf : ∀ a r, P a → Stays Q r (f (a, r))) : Stays Q cs (x >>= f) := by
  cases x with
  | ok found => exact (hf found.1 found.2 h.1).mono h.2
  | error refusal => cases refusal <;> exact h

theorem stays_readNumber (negative : Bool) (cs : List Char) :
    Stays Atomic cs (readNumber negative cs) := by
  unfold readNumber
  split
  · trivial
  · rename_i ds rest hwhole
    obtain ⟨hlt, run, rfl, hlength, hrun⟩ := readWhole_spec hwhole
    have hrest : rest <:+ run ++ rest := ⟨run, rfl⟩
    split
    · rename_i rest' hfraction
      have hr' := (suffix_readFraction hfraction).trans hrest
      cases hexponent : readExponent rest' with
      | none => exact ⟨.float (Double.canonical_ofDecimal negative _ _), hr'⟩
      | some found =>
        exact ⟨.float (Double.canonical_ofDecimal negative _ _),
          (suffix_readExponent hexponent).trans hr'⟩
    · rename_i hexponent
      exact ⟨.float (Double.canonical_ofDecimal negative _ _),
        (suffix_readExponent hexponent).trans hrest⟩
    · split
      · rename_i hshort
        exact ⟨.int (Decimal.isOverlong_ofDigits hlt hshort negative), hrest⟩
      · rename_i hlong
        exact ⟨Nat.lt_of_not_le hlong, [], run, rest, rfl, hlength, hrun⟩

theorem stays_readAtom (cs : List Char) : Stays Atomic cs (readAtom cs) := by
  unfold readAtom
  split
  · exact ⟨.null, ['n', 'u', 'l', 'l'], rfl⟩
  · exact ⟨.bool true, ['t', 'r', 'u', 'e'], rfl⟩
  · exact ⟨.bool false, ['f', 'a', 'l', 's', 'e'], rfl⟩
  · exact ⟨.float trivial, ['N', 'a', 'N'], rfl⟩
  · exact ⟨.float trivial, ['I', 'n', 'f', 'i', 'n', 'i', 't', 'y'], rfl⟩
  · exact ⟨.float trivial, ['-', 'I', 'n', 'f', 'i', 'n', 'i', 't', 'y'], rfl⟩
  · rename_i r _
    exact (stays_readNumber true r).mono (List.suffix_cons '-' r)
  · exact stays_readNumber false cs

mutual

/-- **What reading does**, for values. -/
theorem stays_readValue : ∀ (fuel : Nat) (cs : List Char), Stays Made cs (readValue fuel cs)
  | 0, _ => trivial
  | fuel + 1, cs => by
    unfold readValue
    split
    · rename_i r
      split
      · rename_i hread
        exact ⟨.text _, (suffix_readChars hread).trans (List.suffix_cons '"' r)⟩
      · trivial
    · rename_i r
      apply Stays.mono _ (List.suffix_cons '[' r)
      split
      · rename_i hclose
        exact ⟨.list (List.forall_mem_nil _), suffix_of_skipGap hclose⟩
      · have hitems := (stays_readItems fuel (skipGap r)).mono (suffix_skipGap r)
        exact hitems.bind fun items r h => ⟨.list h, List.suffix_refl r⟩
    · rename_i r
      apply Stays.mono _ (List.suffix_cons '\x7b' r)
      split
      · rename_i hclose
        exact ⟨.ofPairs (List.forall_mem_nil _), suffix_of_skipGap hclose⟩
      · have hmembers := (stays_readMembers fuel (skipGap r)).mono (suffix_skipGap r)
        exact hmembers.bind fun members r h => ⟨.ofPairs h, List.suffix_refl r⟩
    · exact (stays_readAtom cs).imp fun _ => .atom

theorem stays_readItems :
    ∀ (fuel : Nat) (cs : List Char), Stays (fun items => ∀ j ∈ items, Made j) cs (readItems fuel cs)
  | 0, _ => trivial
  | fuel + 1, cs => by
    unfold readItems
    apply (stays_readValue fuel cs).bind
    intro item r hitem
    dsimp only
    split
    · rename_i hclose
      exact ⟨List.forall_mem_singleton.2 hitem, suffix_of_skipGap hclose⟩
    · rename_i more hcomma
      have hmore := (suffix_skipGap more).trans (suffix_of_skipGap hcomma)
      have hitems := (stays_readItems fuel (skipGap more)).mono hmore
      exact hitems.bind fun items r h => ⟨List.forall_mem_cons.2 ⟨hitem, h⟩, List.suffix_refl r⟩
    · trivial

theorem stays_readMembers : ∀ (fuel : Nat) (cs : List Char),
    Stays (fun members => ∀ m ∈ members, Made m.2) cs (readMembers fuel cs)
  | 0, _ => trivial
  | fuel + 1, cs => by
    unfold readMembers
    split
    · rename_i r
      split
      · trivial
      · rename_i key afterKey hkey
        have hafterKey := (suffix_readChars hkey).trans (List.suffix_cons '"' r)
        split
        · rename_i afterColon hcolon
          have hafterColon := (suffix_of_skipGap hcolon).trans hafterKey
          have hvalue := stays_readValue fuel (skipGap afterColon)
          apply (hvalue.mono ((suffix_skipGap afterColon).trans hafterColon)).bind
          intro value r hmade
          dsimp only
          split
          · rename_i hclose
            exact ⟨List.forall_mem_singleton.2 hmade, suffix_of_skipGap hclose⟩
          · rename_i more hcomma
            have hmore := (suffix_skipGap more).trans (suffix_of_skipGap hcomma)
            have hmembers := (stays_readMembers fuel (skipGap more)).mono hmore
            exact hmembers.bind fun members r h =>
              ⟨List.forall_mem_cons.2 ⟨hmade, h⟩, List.suffix_refl r⟩
          · trivial
        · trivial
    · trivial

end

/-! ## Whole texts -/

theorem made_of_readList {j : Json} (h : readList cs = .ok j) : Made j := by
  have hstays := stays_readValue (2 * cs.length + 2) (skipGap cs)
  obtain ⟨⟨value, rest⟩, hread, h⟩ := bind_eq_ok.1 h
  rw [hread] at hstays
  dsimp only at h
  split at h
  · cases h
    exact hstays.1
  · cases h

/-- A number that is not converted stands in the text as a run of digits. -/
theorem longRun_of_readList (h : readList cs = .error (.overlong n)) : LongRun n cs := by
  have hstays := stays_readValue (2 * cs.length + 2) (skipGap cs)
  rcases bind_eq_error.1 h with h | ⟨⟨value, rest⟩, -, h⟩
  · rw [h] at hstays
    exact hstays.of_suffix (suffix_skipGap cs)
  · dsimp only at h
    split at h
    · cases h
    · cases h

end Json

end Stowage
