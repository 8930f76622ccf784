import Mathlib.Data.List.DropRight
import Stowage.Proofs.Container.Grammar
import Stowage.Proofs.Text.Trimmed
import Stowage.Settings.Component

/-!
The endpoint of the placement service.

An endpoint is stored without the blanks around it and then without the slashes at its end. What is
stored is never empty, begins with no blank and ends in no slash. It may end in a blank, since a
blank can stand before the slashes that are taken off; just where it does, the promise of a normal
form is broken (`promised_iff`).
-/

namespace Stowage

namespace Text

variable {p : Char → Bool} {cs : List Char}

theorem trimCharsEnd_eq (p : Char → Bool) (cs : List Char) : trimCharsEnd p cs = cs.rdropWhile p :=
  rfl

/-- What is taken off the end begins after the last character that is kept. -/
theorem trimCharsEnd_append {front slashes : List Char} {c : Char} (hc : p c = false)
    (h : ∀ x ∈ slashes, p x = true) : trimCharsEnd p (front ++ c :: slashes) = front ++ [c] := by
  have hsplit : front ++ c :: slashes = (front ++ [c]) ++ slashes := by simp
  rw [trimCharsEnd_eq, hsplit]
  clear hsplit
  induction slashes using List.reverseRecOn with
  | nil =>
    rw [List.append_nil]
    apply List.rdropWhile_concat_neg
    simp [hc]
  | append_singleton rest x ih =>
    rw [← List.append_assoc, List.rdropWhile_concat_pos _ _ _ (h x (by simp))]
    apply ih
    intro y hy
    apply h
    simp [hy]

/-- Where something is kept, it is all up to the last character that is not taken off. -/
theorem exists_of_trimCharsEnd_ne_nil (h : trimCharsEnd p cs ≠ []) : ∃ front c slashes,
    cs = front ++ c :: slashes ∧ (∀ x ∈ slashes, p x = true) ∧ p c = false ∧
      trimCharsEnd p cs = front ++ [c] := by
  have hne : cs.rdropWhile p ≠ [] := h
  have hlast := List.rdropWhile_last_not p cs hne
  have hkept := List.dropLast_append_getLast hne
  refine ⟨_, _, cs.rtakeWhile p, ?_, ?_, ?_, hkept.symm⟩
  · have hall : cs.rdropWhile p ++ cs.rtakeWhile p = cs := List.rdropWhile_append_rtakeWhile
    rw [← hkept] at hall
    simpa using hall.symm
  · intro x hx
    exact List.mem_rtakeWhile_imp hx
  · simpa using hlast

end Text

theorem Checked.within_eq_fits {α : Type} {key : String} {x : Checked α} {a : α} :
    x.within key = .fits a ↔ x = .fits a := by
  cases x <;> simp [within]

namespace PlacementSettings

variable {s : String} {p : PlacementSettings}

/-! ## Promises -/

/-- An endpoint in normal form: not empty, without a blank at its ends and a slash at its end. -/
structure Normal (url : String) : Prop where
  nonempty : url ≠ ""
  trimmed : Text.Trimmed Text.isBlank url.toList
  unslashed : url.toList.getLast? ≠ some '/'

/-- The settings are accepted where their endpoint is given by a text. -/
def Given (s : String) (p : PlacementSettings) : Prop :=
  ∃ es : Entries, es.get? "base_url" = some (.text s) ∧
    Model.validate PlacementSettings (.mapping es) = .ok p

/-- What is promised where a text is given as endpoint: what is stored is in normal form, settings
that are dumped are accepted again as they are, and there are none for a text of nothing but blanks
and slashes. -/
structure Promised (s : String) : Prop where
  normal : ∀ p, Given s p → Normal p.baseUrl
  reloaded : ∀ p, Given s p → Model.validate PlacementSettings (Model.toValue p).dump = .ok p
  refused : (∀ c ∈ s.toList, Text.isBlank c = true ∨ c = '/') → ∀ p, ¬Given s p

/-- No blank stands right before the slashes at the end of the text without the blanks around it. -/
def Unspaced (s : String) : Prop :=
  ∀ front c slashes, Text.trimChars Text.isBlank s.toList = front ++ c :: slashes →
    (∀ x ∈ slashes, x = '/') → Text.isBlank c = false

/-! ## What is stored -/

theorem isPositive_timeout : ({} : PlacementSettings).timeoutSeconds.isPositive = true := by
  decide +kernel

theorem isPositive_of_check {v : Value} {x : Double} (h : Checked.positive v = .fits x) :
    x.isPositive = true := by
  obtain ⟨y, -, hy⟩ := Checked.andThen_eq_fits.1 h
  split at hy
  · cases hy
    assumption
  · cases hy

theorem checkUrl_text (s : String) : checkUrl (.text s) =
    if normalizeUrl s = "" then .fail (.refused "base_url must be non-empty")
    else .fits (normalizeUrl s) := rfl

/-- The entries of settings as they are dumped. -/
def dumped (url : String) (x : Double) : Entries :=
  [(.text "base_url", .text url), (.text "timeout_seconds", .float x)]

theorem get?_dumped (url : String) (x : Double) :
    (dumped url x).get? "base_url" = some (.text url) ∧
      (dumped url x).get? "timeout_seconds" = some (.float x) := by
  simp [dumped, Entries.get?, Entries.find?, Value.sameKey, Value.text?]

/-- Settings as they are dumped are accepted if the normal form of their endpoint is not empty. -/
theorem validate_dumped {x : Double} (hs : normalizeUrl s ≠ "") (hx : x.isPositive = true) :
    Model.validate PlacementSettings (.mapping (dumped s x)) = .ok ⟨normalizeUrl s, x⟩ := by
  obtain ⟨hurl, htime⟩ := get?_dumped s x
  have hfirst : Checked.field (dumped s x) "base_url" checkUrl
      (some ({} : PlacementSettings).baseUrl) = .fits (normalizeUrl s) := by
    simp [Checked.field, hurl, checkUrl_text, hs, Checked.within]
  have hsecond : Checked.field (dumped s x) "timeout_seconds" Checked.positive
      (some ({} : PlacementSettings).timeoutSeconds) = .fits x := by
    simp [Checked.field, htime, Checked.positive, Checked.number, Checked.andThen, hx,
      Checked.within]
  have hread : (Model.read (dumped s x) : Checked PlacementSettings) =
      .fits ⟨normalizeUrl s, x⟩ := by
    simp only [Model.read, hfirst, hsecond]
    rfl
  simp only [Model.validate, Model.check, hread]

/-- Settings are accepted with a text as endpoint if its normal form is not empty, which is then what
is stored. -/
theorem given_iff : Given s p ↔
    normalizeUrl s ≠ "" ∧ p.baseUrl = normalizeUrl s ∧ p.timeoutSeconds.isPositive = true := by
  constructor
  · rintro ⟨es, hs, h⟩
    have hread : Model.read es = Checked.fits p := by
      simp only [Model.validate, Model.check] at h
      cases hr : (Model.read es : Checked PlacementSettings) with
      | faulty issues =>
        rw [hr] at h
        cases h
      | fits a =>
        rw [hr] at h
        cases h
        rfl
    simp only [Model.read, Checked.seqLeft_eq_fits, Checked.seq_eq_fits, Checked.map_eq_fits]
      at hread
    obtain ⟨⟨_, ⟨url, hurl, rfl⟩, x, htime, rfl⟩, -⟩ := hread
    have hpositive : x.isPositive = true := by
      unfold Checked.field at htime
      cases hx : es.get? "timeout_seconds" with
      | none =>
        rw [hx] at htime
        cases htime
        exact isPositive_timeout
      | some v =>
        rw [hx] at htime
        exact isPositive_of_check (Checked.within_eq_fits.1 htime)
    have hstored : checkUrl (.text s) = .fits url := by
      unfold Checked.field at hurl
      rw [hs] at hurl
      exact Checked.within_eq_fits.1 hurl
    rw [checkUrl_text] at hstored
    split at hstored
    · cases hstored
    · rename_i hne
      cases hstored
      exact ⟨hne, rfl, hpositive⟩
  · rintro ⟨hs, hurl, htime⟩
    have hp : p = ⟨normalizeUrl s, p.timeoutSeconds⟩ := by
      rw [← hurl]
    rw [hp]
    exact ⟨_, (get?_dumped s _).1, validate_dumped hs htime⟩

/-- There are settings with a text as endpoint, all else being standard, if its normal form is not
empty. -/
theorem given_standard (hs : normalizeUrl s ≠ "") :
    Given s ⟨normalizeUrl s, ({} : PlacementSettings).timeoutSeconds⟩ :=
  given_iff.2 ⟨hs, rfl, isPositive_timeout⟩

/-! ## Normal forms -/

theorem toList_normalizeUrl (s : String) : (normalizeUrl s).toList =
    Text.trimCharsEnd (· == '/') (Text.trimChars Text.isBlank s.toList) := by
  rw [normalizeUrl, String.toList_ofList]

theorem normalizeUrl_eq_empty : normalizeUrl s = "" ↔
    ∀ c ∈ Text.trimChars Text.isBlank s.toList, c = '/' := by
  rw [← String.toList_inj, toList_normalizeUrl, Text.trimCharsEnd_eq]
  simp [List.rdropWhile_eq_nil_iff]

/-- What is stored ends in the last character that is no slash of the text without the blanks around
it, and begins as that text does. -/
theorem exists_of_normalizeUrl (hs : normalizeUrl s ≠ "") : ∃ front c slashes,
    Text.trimChars Text.isBlank s.toList = front ++ c :: slashes ∧ (∀ x ∈ slashes, x = '/') ∧
      c ≠ '/' ∧ (normalizeUrl s).toList = front ++ [c] := by
  have hne : Text.trimCharsEnd (· == '/') (Text.trimChars Text.isBlank s.toList) ≠ [] := by
    intro h
    apply hs
    rw [← String.toList_inj, toList_normalizeUrl, h]
    rfl
  obtain ⟨front, c, slashes, hsplit, hslashes, hc, hkept⟩ := Text.exists_of_trimCharsEnd_ne_nil hne
  refine ⟨front, c, slashes, hsplit, ?_, ?_, (toList_normalizeUrl s).trans hkept⟩
  · simpa using hslashes
  · simpa using hc

theorem head_normalizeUrl {c : Char} (h : (normalizeUrl s).toList.head? = some c) :
    Text.isBlank c = false := by
  apply (Text.trimmed_trimChars Text.isBlank s.toList).1
  have hprefix := List.rdropWhile_prefix (· == '/') (Text.trimChars Text.isBlank s.toList)
  rw [← Text.trimCharsEnd_eq, ← toList_normalizeUrl] at hprefix
  obtain ⟨rest, hrest⟩ := hprefix
  rw [← hrest, List.head?_append, h]
  rfl

/-- What is stored is in normal form, but that it may end in a blank. -/
theorem normal_iff (hs : normalizeUrl s ≠ "") : Normal (normalizeUrl s) ↔ Unspaced s := by
  obtain ⟨front, c, slashes, hsplit, hslashes, hc, hkept⟩ := exists_of_normalizeUrl hs
  have hlast : (normalizeUrl s).toList.getLast? = some c := by
    rw [hkept]
    simp
  constructor
  · intro h front' c' slashes' hsplit' hslashes'
    cases hblank : Text.isBlank c' with
    | false => rfl
    | true =>
      -- the blank is no slash, so that it is the last character to be stored
      have hne : (c' == '/') = false := by
        apply beq_false_of_ne
        rintro rfl
        cases hblank
      have hall : ∀ x ∈ slashes', (x == '/') = true := by simpa using hslashes'
      have hend : Text.trimCharsEnd (· == '/') (front' ++ c' :: slashes') = front' ++ [c'] :=
        Text.trimCharsEnd_append hne hall
      rw [← hsplit', ← toList_normalizeUrl] at hend
      have hnot := h.trimmed.2 c' (by rw [hend]; simp)
      rw [hblank] at hnot
      cases hnot
  · intro h
    refine ⟨hs, ⟨fun _ hhead => head_normalizeUrl hhead, ?_⟩, ?_⟩
    · intro c' hc'
      rw [hlast] at hc'
      cases hc'
      exact h front c slashes hsplit hslashes
    · rw [hlast]
      simpa using hc

theorem Normal.normalizeUrl_eq {url : String} (h : Normal url) : normalizeUrl url = url := by
  rw [← String.toList_inj, toList_normalizeUrl, h.trimmed.trimChars_eq, Text.trimCharsEnd_eq,
    List.rdropWhile_eq_self_iff]
  intro hne hslash
  apply h.unslashed
  rw [List.getLast?_eq_getLast_of_ne_nil hne]
  simpa using hslash

/-- A text of nothing but blanks and slashes has a blank right before the slashes at its end, or
nothing of it is stored. -/
theorem normalizeUrl_of_unspaced (h : Unspaced s)
    (hs : ∀ c ∈ s.toList, Text.isBlank c = true ∨ c = '/') : normalizeUrl s = "" := by
  by_contra hne
  obtain ⟨front, c, slashes, hsplit, hslashes, hc, -⟩ := exists_of_normalizeUrl hne
  have hmem : c ∈ s.toList := by
    apply (Text.trimChars_infix Text.isBlank s.toList).subset
    rw [hsplit]
    simp
  have hnot := h front c slashes hsplit hslashes
  rcases hs c hmem with hblank | hslash
  · rw [hblank] at hnot
    cases hnot
  · exact hc hslash

/-- The promise is broken by a blank right before the slashes at the end. -/
theorem unspaced_of_promised (h : Promised s) : Unspaced s := by
  by_cases hs : normalizeUrl s = ""
  · -- nothing but slashes is left
    intro front c slashes hsplit _
    have hc : c = '/' := by
      apply normalizeUrl_eq_empty.1 hs
      rw [hsplit]
      simp
    rw [hc]
    decide
  · exact (normal_iff hs).1 (h.normal _ (given_standard hs))

theorem promised_of_unspaced (h : Unspaced s) : Promised s := by
  have hnormal : ∀ p, Given s p → Normal p.baseUrl := by
    intro p hp
    obtain ⟨hs, hurl, -⟩ := given_iff.1 hp
    rw [hurl]
    exact (normal_iff hs).2 h
  refine ⟨hnormal, ?_, ?_⟩
  · intro p hp
    obtain ⟨-, -, htime⟩ := given_iff.1 hp
    have hurl := (hnormal p hp).normalizeUrl_eq
    have hne : normalizeUrl p.baseUrl ≠ "" := by
      rw [hurl]
      exact (hnormal p hp).nonempty
    have hread := validate_dumped hne htime
    rw [hurl] at hread
    exact hread
  · intro hall p hp
    exact (given_iff.1 hp).1 (normalizeUrl_of_unspaced h hall)

/-- **When the endpoint is stored in normal form.** What is stored for a text is never empty, begins
with no blank and ends in no slash, and a text is refused just where nothing but slashes is left of
it without the blanks around it. It is in normal form, and stays as it is when it is read again, and
texts of nothing but blanks and slashes are refused, if and only if no blank stands right before the
slashes at the end. -/
theorem promised_iff (s : String) :
    (∀ p, Given s p → p.baseUrl ≠ "" ∧
      (∀ c, p.baseUrl.toList.head? = some c → Text.isBlank c = false) ∧
      p.baseUrl.toList.getLast? ≠ some '/') ∧
    ((∃ p, Given s p) ↔ ¬∀ c ∈ Text.trimChars Text.isBlank s.toList, c = '/') ∧
    (Promised s ↔ Unspaced s) := by
  refine ⟨?_, ?_, unspaced_of_promised, promised_of_unspaced⟩
  · intro p hp
    obtain ⟨hs, hurl, -⟩ := given_iff.1 hp
    obtain ⟨front, c, -, -, -, hc, hkept⟩ := exists_of_normalizeUrl hs
    rw [hurl]
    refine ⟨hs, fun _ hhead => head_normalizeUrl hhead, ?_⟩
    rw [hkept]
    simpa using hc
  · rw [← normalizeUrl_eq_empty]
    constructor
    · rintro ⟨p, hp⟩
      exact (given_iff.1 hp).1
    · intro hs
      exact ⟨_, given_standard hs⟩

/-- Blanks around an endpoint and slashes at its end are taken off, and it keeps its promise. -/
theorem promised_iff_slashes :
    let s := " http://scm:9860// "
    Promised s ∧ ∃ p, Given s p ∧ p.baseUrl = "http://scm:9860" ∧
      p.baseUrl.toList.getLast? ≠ some '/' := by
  intro s
  have hstored : normalizeUrl s = "http://scm:9860" := by decide
  have hgiven : Given s _ := given_standard (by rw [hstored]; decide)
  have hnormal : Normal (normalizeUrl s) := by
    rw [hstored]
    refine ⟨by decide, ⟨?_, ?_⟩, by decide⟩
    · rintro _ ⟨⟩
      decide
    · rintro _ ⟨⟩
      decide
  have hunspaced : Unspaced s := (normal_iff (by rw [hstored]; decide)).1 hnormal
  obtain ⟨hclean, -, hiff⟩ := promised_iff s
  exact ⟨hiff.2 hunspaced, _, hgiven, hstored, (hclean _ hgiven).2.2⟩

/-- A blank before the slash at the end is stored, which is gone when the settings are read again. -/
theorem not_promised_spaced :
    let s := "http://scm:9860 /"
    ¬Promised s ∧ ∃ p q, Given s p ∧ p.baseUrl = "http://scm:9860 " ∧
      Model.validate PlacementSettings (Model.toValue p).dump = .ok q ∧
        q.baseUrl = "http://scm:9860" := by
  intro s
  have hnormal : normalizeUrl s = "http://scm:9860 " := by decide
  have hagain : normalizeUrl "http://scm:9860 " = "http://scm:9860" := by decide
  refine ⟨?_, _, ⟨normalizeUrl "http://scm:9860 ", ({} : PlacementSettings).timeoutSeconds⟩,
    given_standard (by rw [hnormal]; decide), hnormal, ?_, hagain⟩
  · intro h
    have hspace := unspaced_of_promised h "http://scm:9860".toList ' ' ['/'] (by decide)
      (List.forall_mem_singleton.2 rfl)
    cases hspace
  · rw [hnormal]
    exact validate_dumped (by rw [hagain]; decide) isPositive_timeout

end PlacementSettings

end Stowage
