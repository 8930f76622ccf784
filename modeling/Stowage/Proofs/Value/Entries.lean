import Stowage.Value.Text

/-!
Entries of mappings, looked up by text keys.

What a key holds after `Entries.put` is read off its two lookup laws (`Entries.get?_put_self`,
`Entries.get?_put_of_ne`). A value is keyed when every mapping reached through mappings has text
keys, each of them once (`Value.isKeyed`).
-/

namespace Stowage

/-! ## Looking up -/

/-- Only what reads as a text is the same key as that text. -/
theorem Value.sameKey_text (v : Value) (s : String) : v.sameKey (.text s) = (v.text? == some s) := by
  rw [Bool.eq_iff_iff]
  cases v with
  | float x => cases h : x.integer? <;> simp [sameKey, text?, integer?, h]
  | text a => simpa [sameKey, text?] using eq_comm
  | member family name a => simpa [sameKey, text?] using eq_comm
  | _ => simp [sameKey, text?, integer?]

namespace Entries

variable {es : Entries} {key other : String} {v : Value}

theorem get?_cons (k : String) (v : Value) (es : Entries) (key : String) :
    get? ((.text k, v) :: es) key = if key = k then some v else get? es key := by
  by_cases h : key = k <;> simp [get?, find?, Value.sameKey, Value.text?, h]

@[simp] theorem get?_nil (key : String) : get? [] key = none := rfl

@[simp] theorem put_nil (key v : Value) : put key v [] = [(key, v)] := rfl

theorem put_cons (k w : Value) (es : Entries) (key : String) (v : Value) :
    put (.text key) v ((k, w) :: es) =
      if k.text? = some key then (k, v) :: es else (k, w) :: es.put (.text key) v := by
  by_cases h : k.text? = some key <;> simp [put, Value.sameKey_text, h]

theorem get?_put_self (es : Entries) (key : String) (v : Value) :
    (es.put (.text key) v).get? key = some v := by
  induction es with
  | nil => simp [put, get?_cons]
  | cons e r ih =>
    obtain ⟨k, w⟩ := e
    by_cases h : k.sameKey (.text key) = true
    · simp [put, get?, find?, h]
    · simpa [put, get?, find?, h] using ih

theorem get?_put_of_ne (h : other ≠ key) (es : Entries) (v : Value) :
    (es.put (.text key) v).get? other = es.get? other := by
  induction es with
  | nil => simp [put, get?_cons, h]
  | cons e r ih =>
    obtain ⟨k, w⟩ := e
    by_cases hk : k.sameKey (.text key) = true
    · have hother : k.sameKey (.text other) = false := by
        rw [Value.sameKey_text, beq_iff_eq] at hk
        rw [Value.sameKey_text, hk]
        simpa using Ne.symm h
      simp [put, get?, find?, hk, hother]
    · by_cases ho : k.sameKey (.text other) = true
      · simp [put, get?, find?, hk, ho]
      · simpa [put, get?, find?, hk, ho] using ih

theorem get?_put (es : Entries) (key other : String) (v : Value) :
    (es.put (.text key) v).get? other = if other = key then some v else es.get? other := by
  by_cases h : other = key
  · rw [if_pos h, h, get?_put_self]
  · rw [if_neg h, get?_put_of_ne h]

/-- A new key goes to the end. -/
theorem put_of_get?_none (h : es.get? key = none) (v : Value) :
    es.put (.text key) v = es ++ [(.text key, v)] := by
  induction es with
  | nil => rfl
  | cons e r ih =>
    obtain ⟨k, w⟩ := e
    have hk : k.sameKey (.text key) = false := by
      cases hk : k.sameKey (.text key) with
      | false => rfl
      | true => simp [get?, find?, hk] at h
    have hr : get? r key = none := by simpa [get?, find?, hk] using h
    simp [put, hk, ih hr]

theorem get?_append (es more : Entries) (key : String) :
    get? (es ++ more) key = (es.get? key).or (more.get? key) := by
  induction es with
  | nil => rfl
  | cons e r ih =>
    obtain ⟨k, w⟩ := e
    by_cases hk : k.sameKey (.text key) = true
    · simp [get?, find?, hk]
    · simpa [get?, find?, hk] using ih

end Entries

/-! ## Keyed values -/

mutual

/-- Every mapping reached through mappings has text keys, each of them once. -/
def Value.isKeyed : Value → Bool
  | .mapping es => areKeyed es
  | _ => true

def areKeyed : List (Value × Value) → Bool
  | [] => true
  | (k, v) :: r => match k with
    | .text key => v.isKeyed && (Entries.get? r key).isNone && areKeyed r
    | _ => false

end

namespace Entries

variable {es : Entries} {key : String} {v : Value}

theorem areKeyed_cons {k : Value} {r : Entries} : areKeyed ((k, v) :: r) = true ↔
    ∃ key, k = .text key ∧ v.isKeyed = true ∧ r.get? key = none ∧ areKeyed r = true := by
  cases k <;> simp [areKeyed, and_assoc]

/-- What a key of a keyed mapping holds is keyed. -/
theorem isKeyed_of_get? (h : areKeyed es = true) (hv : es.get? key = some v) :
    v.isKeyed = true := by
  induction es with
  | nil => cases hv
  | cons e r ih =>
    obtain ⟨k, w⟩ := e
    obtain ⟨k, rfl, hw, -, hr⟩ := areKeyed_cons.1 h
    rw [get?_cons] at hv
    by_cases hk : key = k
    · rw [if_pos hk, Option.some.injEq] at hv
      exact hv ▸ hw
    · rw [if_neg hk] at hv
      exact ih hr hv

theorem areKeyed_put (h : areKeyed es = true) (key : String) (hv : v.isKeyed = true) :
    areKeyed (es.put (.text key) v) = true := by
  induction es with
  | nil => simp [put, areKeyed, hv]
  | cons e r ih =>
    obtain ⟨k, w⟩ := e
    obtain ⟨k, rfl, hw, hnew, hr⟩ := areKeyed_cons.1 h
    unfold put
    rw [Value.sameKey_text]
    by_cases hk : k = key
    · have hsame : ((Value.text k).text? == some key) = true := by simp [Value.text?, hk]
      rw [if_pos hsame]
      exact areKeyed_cons.2 ⟨k, rfl, hv, hnew, hr⟩
    · have hsame : ¬ ((Value.text k).text? == some key) = true := by simp [Value.text?, hk]
      rw [if_neg hsame]
      exact areKeyed_cons.2 ⟨k, rfl, hw, by rw [get?_put_of_ne hk]; exact hnew, ih hr⟩

end Entries

end Stowage
