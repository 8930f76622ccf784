import Stowage.Proofs.Json.Numbers

/-!
JSON documents, read back as they were written.

A document is well formed when its numbers are such as can be written and no key of an object occurs
twice (`Json.WellFormed`), and plain when it holds no numbers but integers besides (`Json.Plain`). A
document that is written in a readable style is read back as it was, but for the order of members
where the style sorts them (`readList_wellFormed`). The statement about one value (`Reads`) says how
much fuel the reader needs, which is bounded by the length of the text.
-/

namespace Stowage.Json

/-! ## Documents and styles -/

/-- Documents whose integers can be written, without other numbers, and whose objects have no key
twice. -/
inductive Plain : Json → Prop
  | null : Plain .null
  | bool (b : Bool) : Plain (.bool b)
  | int {i : Int} : Decimal.isOverlong i = false → Plain (.int i)
  | text (s : String) : Plain (.text s)
  | list {items : List Json} : (∀ j ∈ items, Plain j) → Plain (.list items)
  | object {members : List (String × Json)} : (members.map Prod.fst).Nodup →
    (∀ m ∈ members, Plain m.2) → Plain (.object members)

/-- Documents whose integers can be written, whose other numbers are in lowest terms, and whose
objects have no key twice. -/
inductive WellFormed : Json → Prop
  | null : WellFormed .null
  | bool (b : Bool) : WellFormed (.bool b)
  | int {i : Int} : Decimal.isOverlong i = false → WellFormed (.int i)
  | float {x : Double} : x.Canonical → WellFormed (.float x)
  | text (s : String) : WellFormed (.text s)
  | list {items : List Json} : (∀ j ∈ items, WellFormed j) → WellFormed (.list items)
  | object {members : List (String × Json)} : (members.map Prod.fst).Nodup →
    (∀ m ∈ members, WellFormed m.2) → WellFormed (.object members)

theorem Plain.wellFormed {j : Json} (h : j.Plain) : j.WellFormed := by
  induction h with
  | null => exact .null
  | bool b => exact .bool b
  | int h => exact .int h
  | text s => exact .text s
  | list _ ih => exact .list ih
  | object hn _ ih => exact .object hn ih

/-- Members in the order in which a style writes them. -/
def inOrder {α : Type} (style : Style) (members : List (String × α)) : List (String × α) :=
  if style.sorted then members.mergeSort fun a b => a.1 ≤ b.1 else members

mutual

/-- The document with the members of all objects in the order in which a style writes them. -/
def arranged (style : Style) : Json → Json
  | .list items => .list (arrangedItems style items)
  | .object members => .object (inOrder style (arrangedMembers style members))
  | j => j

def arrangedItems (style : Style) : List Json → List Json
  | [] => []
  | j :: r => arranged style j :: arrangedItems style r

def arrangedMembers (style : Style) : List (String × Json) → List (String × Json)
  | [] => []
  | (k, j) :: r => (k, arranged style j) :: arrangedMembers style r

end

/-- A style whose separators are a comma and a colon with nothing but white space after them. -/
structure Style.Readable (style : Style) : Prop where
  comma : ∃ gap, style.comma = ',' :: gap ∧ ∀ c ∈ gap, isGap c = true
  colon : ∃ gap, style.colon = ':' :: gap ∧ ∀ c ∈ gap, isGap c = true

theorem isGap_blank : ∀ c ∈ [' '], isGap c = true := List.forall_mem_singleton.2 rfl

theorem Style.readable_spaced : spaced.Readable :=
  ⟨⟨[' '], rfl, isGap_blank⟩, ⟨[' '], rfl, isGap_blank⟩⟩

theorem Style.readable_compact : compact.Readable :=
  ⟨⟨[], rfl, List.forall_mem_nil _⟩, ⟨[], rfl, List.forall_mem_nil _⟩⟩

theorem Style.readable_compactSorted : compactSorted.Readable :=
  ⟨⟨[], rfl, List.forall_mem_nil _⟩, ⟨[], rfl, List.forall_mem_nil _⟩⟩

theorem Style.readable_indented : indented.Readable :=
  ⟨⟨[], rfl, List.forall_mem_nil _⟩, ⟨[' '], rfl, isGap_blank⟩⟩

variable {style : Style}

theorem arrangedItems_eq_map (items : List Json) :
    arrangedItems style items = items.map (arranged style) := by
  induction items with
  | nil => rfl
  | cons j r ih => rw [arrangedItems, ih, List.map_cons]

theorem arrangedMembers_eq_map (members : List (String × Json)) :
    arrangedMembers style members = members.map fun m => (m.1, m.2.arranged style) := by
  induction members with
  | nil => rfl
  | cons m r ih => rw [arrangedMembers, ih, List.map_cons]

theorem writeItems_eq_map (depth : Nat) (items : List Json) :
    writeItems style depth items = items.map (writeAt style depth) := by
  induction items with
  | nil => rfl
  | cons j r ih => rw [writeItems, ih, List.map_cons]

theorem writeMembers_eq_map (depth : Nat) (members : List (String × Json)) :
    writeMembers style depth members = members.map fun m => (m.1, writeAt style depth m.2) := by
  induction members with
  | nil => rfl
  | cons m r ih => rw [writeMembers, ih, List.map_cons]

/-! ## Order of members -/

/-- What is done to the values of members has no influence on their order. -/
theorem inOrder_map {α β : Type} (f : α → β) (members : List (String × α)) :
    inOrder style (members.map fun m => (m.1, f m.2)) =
      (inOrder style members).map fun m => (m.1, f m.2) := by
  unfold inOrder
  split
  · exact (List.map_mergeSort (f := fun m : String × α => (m.1, f m.2)) fun _ _ _ _ => rfl).symm
  · rfl

theorem inOrder_perm {α : Type} (members : List (String × α)) :
    (inOrder style members).Perm members := by
  unfold inOrder
  split
  · exact List.mergeSort_perm members _
  · exact List.Perm.refl members

/-- What a key holds does not depend on the order, if no key occurs twice. -/
theorem lookup_of_perm {α : Type} {ms ms' : List (String × α)} (h : ms.Perm ms')
    (hn : (ms.map Prod.fst).Nodup) (key : String) : ms.lookup key = ms'.lookup key := by
  induction h with
  | nil => rfl
  | cons m _ ih =>
    obtain ⟨k, v⟩ := m
    rw [List.map_cons, List.nodup_cons] at hn
    simp only [List.lookup_cons, ih hn.2]
  | swap a b r =>
    obtain ⟨k, v⟩ := a
    obtain ⟨k', v'⟩ := b
    rw [List.map_cons, List.map_cons, List.nodup_cons] at hn
    have hne : k' ≠ k := fun heq => hn.1 (heq ▸ List.mem_cons_self)
    by_cases hk : key = k
    · have hk' : (key == k') = false := beq_eq_false_iff_ne.2 fun h => hne (h.symm.trans hk)
      simp only [List.lookup_cons, hk']
    · have hk : (key == k) = false := beq_eq_false_iff_ne.2 hk
      simp only [List.lookup_cons, hk]
  | trans h _ ih ih' =>
    exact (ih hn).trans (ih' ((h.map Prod.fst).nodup_iff.1 hn))

/-- Members without a repeated key are those of the object that is made of them. -/
theorem ofPairs_of_nodup {members : List (String × Json)} (h : (members.map Prod.fst).Nodup) :
    ofPairs members = .object members := by
  have hput : ∀ (before : List (String × Json)) (key : String) (j : Json),
      key ∉ before.map Prod.fst → put key j before = before ++ [(key, j)] := by
    intro before key j hnew
    induction before with
    | nil => rfl
    | cons m r ih =>
      rw [List.map_cons, List.mem_cons, not_or] at hnew
      simp only [put, if_neg (Ne.symm hnew.1), ih hnew.2, List.cons_append]
  have hfold : ∀ (ms before : List (String × Json)), ((before ++ ms).map Prod.fst).Nodup →
      ms.foldl (fun ms m => put m.1 m.2 ms) before = before ++ ms := by
    intro ms
    induction ms with
    | nil =>
      intro before _
      rw [List.foldl_nil, List.append_nil]
    | cons m r ih =>
      obtain ⟨k, v⟩ := m
      intro before hn
      have hnew : k ∉ before.map Prod.fst := by
        rw [List.map_append, List.map_cons] at hn
        exact fun hm => (List.nodup_append.1 hn).2.2 k hm k List.mem_cons_self rfl
      have hrest : ((before ++ [(k, v)] ++ r).map Prod.fst).Nodup := by
        rwa [List.append_assoc, List.singleton_append]
      simp only [List.foldl_cons, hput before k v hnew]
      rw [ih _ hrest, List.append_assoc, List.singleton_append]
  exact congrArg Json.object (hfold members [] h)

/-! ## White space -/

theorem skipGap_append {gap : List Char} (h : ∀ c ∈ gap, isGap c = true) {c : Char}
    (hc : isGap c = false) (r : List Char) : skipGap (gap ++ c :: r) = c :: r := by
  unfold skipGap
  rw [List.dropWhile_append_of_pos h]
  exact List.dropWhile_cons_of_neg (by simp [hc])

theorem isGap_lineStart (depth : Nat) : ∀ c ∈ lineStart style depth, isGap c = true := by
  intro c hc
  unfold lineStart at hc
  split at hc
  · cases hc
  · rcases List.mem_cons.1 hc with rfl | hc
    · rfl
    · rw [(List.mem_replicate.1 hc).2]
      rfl

/-- White space ends a number, and so does what follows it if there is none. -/
theorem numberEnds_gap {gap : List Char} (h : ∀ c ∈ gap, isGap c = true) {rest : List Char}
    (hrest : NumberEnds rest) : NumberEnds (gap ++ rest) := by
  cases gap with
  | nil => exact hrest
  | cons c r =>
    have hc := h c List.mem_cons_self
    simp only [isGap, Bool.or_eq_true, beq_iff_eq] at hc
    refine numberEnds_cons ?_
    rcases hc with ((rfl | rfl) | rfl) | rfl <;> decide

/-! ## Single values -/

/-- A text is read as a document wherever it stands, with fuel for twice its length. It begins with
neither white space nor a closing bracket. -/
structure Reads (text : List Char) (j : Json) : Prop where
  starts : ∃ c r, text = c :: r ∧ isGap c = false ∧ c ≠ ']'
  reads : ∀ rest fuel, NumberEnds rest → 2 * text.length ≤ fuel →
    readValue fuel (text ++ rest) = .ok (j, rest)

theorem length_escapeChar_pos (ascii : Bool) (c : Char) : 0 < (escapeChar ascii c).length := by
  have hite : ∀ {p : Prop} [Decidable p] {cs ds : List Char}, cs ≠ [] → ds ≠ [] →
      (if p then cs else ds) ≠ [] := by
    intro p _ cs ds hcs hds
    split <;> assumption
  apply List.length_pos_iff.2
  unfold escapeChar codeEscape
  iterate 7 refine hite (List.cons_ne_nil _ _) ?_
  exact hite (hite (List.cons_ne_nil _ _) (List.cons_ne_nil _ _)) (List.cons_ne_nil _ _)

theorem length_le_flatMap_escapeChar (ascii : Bool) (s : List Char) :
    s.length ≤ (s.flatMap (escapeChar ascii)).length := by
  induction s with
  | nil => exact Nat.le_refl 0
  | cons c r ih =>
    have hc := length_escapeChar_pos ascii c
    rw [List.flatMap_cons, List.length_append, List.length_cons]
    omega

/-- A string at the front is read back. -/
theorem readChars_writeText (ascii : Bool) (s : String) (rest : List Char) :
    readChars ((s.toList.flatMap (escapeChar ascii) ++ '"' :: rest).length + 1)
      (s.toList.flatMap (escapeChar ascii) ++ '"' :: rest) = some (s.toList, rest) := by
  refine readChars_flatMap ascii s.toList rest ?_
  have hlength := length_le_flatMap_escapeChar ascii s.toList
  rw [List.length_append]
  omega

theorem writeText_append (ascii : Bool) (s : String) (rest : List Char) :
    writeText ascii s ++ rest = '"' :: (s.toList.flatMap (escapeChar ascii) ++ '"' :: rest) := by
  simp [writeText]

theorem reads_text (ascii : Bool) (s : String) : Reads (writeText ascii s) (.text s) where
  starts := ⟨'"', _, rfl, rfl, by decide⟩
  reads rest fuel _ hfuel := by
    obtain ⟨fuel, rfl⟩ : ∃ n, fuel = n + 1 :=
      Nat.exists_eq_succ_of_ne_zero (by simp [writeText] at hfuel; omega)
    rw [writeText_append, readValue]
    simp only [readChars_writeText, String.ofList_toList]

/-- What is no string, array or object is read as a word or a number. -/
theorem readValue_atom {c : Char} (hquote : c ≠ '"') (hlist : c ≠ '[') (hobject : c ≠ '\x7b')
    (fuel : Nat) (r : List Char) : readValue (fuel + 1) (c :: r) = readAtom (c :: r) := by
  unfold readValue
  split
  · rename_i heq
    exact absurd (List.cons.inj heq).1 hquote
  · rename_i heq
    exact absurd (List.cons.inj heq).1 hlist
  · rename_i heq
    exact absurd (List.cons.inj heq).1 hobject
  · rfl

theorem starts_digit {d : Nat} (hd : d < 10) : isGap (Decimal.digitChar d) = false ∧
    Decimal.digitChar d ≠ ']' ∧ Decimal.digitChar d ≠ '"' ∧ Decimal.digitChar d ≠ '[' ∧
      Decimal.digitChar d ≠ '\x7b' := by
  have hall : ∀ d < 10, isGap (Decimal.digitChar d) = false ∧ Decimal.digitChar d ≠ ']' ∧
      Decimal.digitChar d ≠ '"' ∧ Decimal.digitChar d ≠ '[' ∧ Decimal.digitChar d ≠ '\x7b' := by
    decide
  exact hall d hd

/-- The first character of an integer is a digit or a minus sign. -/
theorem integerChars_cons (i : Int) : ∃ c r, Decimal.integerChars i = c :: r ∧
    isGap c = false ∧ c ≠ ']' ∧ c ≠ '"' ∧ c ≠ '[' ∧ c ≠ '\x7b' := by
  cases i with
  | ofNat n =>
    obtain ⟨d, hd, r, hr⟩ := digits_cons n
    exact ⟨_, r, hr, starts_digit hd⟩
  | negSucc n => exact ⟨'-', _, rfl, by decide⟩

/-- A word or a number is read as a value. -/
theorem reads_atom {text : List Char} {j : Json}
    (hstarts : ∃ c r, text = c :: r ∧ isGap c = false ∧ c ≠ ']' ∧ c ≠ '"' ∧ c ≠ '[' ∧ c ≠ '\x7b')
    (h : ∀ rest, NumberEnds rest → readAtom (text ++ rest) = .ok (j, rest)) : Reads text j := by
  obtain ⟨c, r, rfl, hgap, hclose, hquote, hlist, hobject⟩ := hstarts
  refine ⟨⟨c, r, rfl, hgap, hclose⟩, fun rest fuel hrest hfuel => ?_⟩
  rw [List.length_cons] at hfuel
  obtain ⟨fuel, rfl⟩ := Nat.exists_eq_succ_of_ne_zero (by omega : fuel ≠ 0)
  have hatom := h rest hrest
  rw [List.cons_append] at hatom ⊢
  rw [readValue_atom hquote hlist hobject, hatom]

theorem reads_integer {i : Int} (h : Decimal.isOverlong i = false) :
    Reads (Decimal.integerChars i) (.int i) :=
  reads_atom (integerChars_cons i) fun _ => readAtom_integer h

/-- The first character of a number is a digit, a minus sign or a letter. -/
theorem float_cons {x : Double} (hx : x.Canonical) : ∃ c r,
    (NumberLayout.json.write x).toList = c :: r ∧
      isGap c = false ∧ c ≠ ']' ∧ c ≠ '"' ∧ c ≠ '[' ∧ c ≠ '\x7b' := by
  cases x with
  | nan => exact ⟨'N', _, rfl, by decide⟩
  | infinite negative =>
    cases negative with
    | false => exact ⟨'I', _, rfl, by decide⟩
    | true => exact ⟨'-', _, rfl, by decide⟩
  | finite negative m q =>
    rcases Nat.eq_zero_or_pos m with rfl | hm
    · rw [NumberLayout.write]
      cases negative with
      | false => exact ⟨'0', _, rfl, by decide⟩
      | true => exact ⟨'-', _, rfl, by decide⟩
    · obtain ⟨hn, -⟩ := Decimal.Shortest.decimal_reads hx hm
      obtain ⟨d, hd, r, hcons⟩ := layoutChars_cons .json hn (Decimal.Shortest.decimal m q).2
      rw [write_finite hm, hcons]
      cases negative with
      | false => exact ⟨_, r, rfl, starts_digit hd⟩
      | true => exact ⟨'-', _, rfl, by decide⟩

theorem reads_float {x : Double} (hx : x.Canonical) :
    Reads (NumberLayout.json.write x).toList (.float x) :=
  reads_atom (float_cons hx) fun _ => readAtom_float hx

/-! ## Items -/

/-- Items between brackets are read one after another. -/
theorem readItems_enclosed {separator gap : List Char}
    (hseparator : ∃ g, separator = ',' :: g ∧ ∀ c ∈ g, isGap c = true)
    (hgap : ∀ c ∈ gap, isGap c = true) {texts : List (List Char)} {js : List Json}
    (h : List.Forall₂ Reads texts js) {text : List Char} {j : Json} (hfirst : Reads text j)
    (rest : List Char) {fuel : Nat}
    (hfuel : 2 * (text ++ texts.flatMap (separator ++ ·) ++ gap ++ [']']).length ≤ fuel) :
    readItems fuel (text ++ texts.flatMap (separator ++ ·) ++ gap ++ ']' :: rest) =
      .ok (j :: js, rest) := by
  obtain ⟨g, rfl, hg⟩ := hseparator
  induction h generalizing text j fuel with
  | nil =>
    simp only [List.flatMap_nil, List.append_nil, List.length_append, List.length_singleton]
      at hfuel ⊢
    obtain ⟨fuel, rfl⟩ := Nat.exists_eq_succ_of_ne_zero (by omega : fuel ≠ 0)
    have hends : NumberEnds (gap ++ ']' :: rest) :=
      numberEnds_gap hgap (numberEnds_cons (by decide))
    have hread := hfirst.reads (gap ++ ']' :: rest) fuel hends (by omega)
    have hskip : skipGap (gap ++ ']' :: rest) = ']' :: rest := skipGap_append hgap rfl rest
    rw [List.append_assoc, readItems, hread]
    simp only [bind, Except.bind, hskip]
  | @cons next j' texts js hnext _ ih =>
    simp only [List.flatMap_cons, List.length_append, List.length_cons, List.length_nil] at hfuel
    obtain ⟨fuel, rfl⟩ := Nat.exists_eq_succ_of_ne_zero (by omega : fuel ≠ 0)
    have hrest : readItems fuel (next ++ texts.flatMap (',' :: g ++ ·) ++ gap ++ ']' :: rest) =
        .ok (j' :: js, rest) := ih hnext (by
      simp only [List.length_append, List.length_cons, List.length_nil]
      omega)
    have hread := hfirst.reads (',' :: (g ++ (next ++ texts.flatMap (',' :: g ++ ·) ++ gap ++
      ']' :: rest))) fuel (numberEnds_cons (by decide)) (by omega)
    have hskip : skipGap (g ++ (next ++ texts.flatMap (',' :: g ++ ·) ++ gap ++ ']' :: rest)) =
        next ++ texts.flatMap (',' :: g ++ ·) ++ gap ++ ']' :: rest := by
      obtain ⟨c, r, rfl, hc, -⟩ := hnext.starts
      exact skipGap_append hg hc _
    have htext : text ++ (next :: texts).flatMap (',' :: g ++ ·) ++ gap ++ ']' :: rest =
        text ++ ',' :: (g ++ (next ++ texts.flatMap (',' :: g ++ ·) ++ gap ++ ']' :: rest)) := by
      simp
    have hcomma : ∀ r, skipGap (',' :: r) = ',' :: r := fun _ => rfl
    rw [htext, readItems, hread]
    simp only [bind, Except.bind, hcomma, hskip, hrest]

/-! ## Members -/

/-- A member as text. -/
def memberText (ascii : Bool) (colon : List Char) (m : String × List Char) : List Char :=
  writeText ascii m.1 ++ colon ++ m.2

/-- The text of the value of a member is read as the value of another with the same key. -/
def MemberReads (m : String × List Char) (m' : String × Json) : Prop :=
  m.1 = m'.1 ∧ Reads m.2 m'.2

/-- What is read after a member: the end, or more members. -/
def readAfterMember (fuel : Nat) (member : String × Json) (rest : List Char) :
    Except Refusal (List (String × Json) × List Char) :=
  match skipGap rest with
  | '\x7d' :: r => .ok ([member], r)
  | ',' :: r => do
    let (members, r) ← readMembers fuel (skipGap r)
    .ok (member :: members, r)
  | _ => .error .malformed

/-- The key and the colon of a member are read, and what follows is read as its value. -/
theorem readMembers_member {ascii : Bool} {colon : List Char}
    (hcolon : ∃ g, colon = ':' :: g ∧ ∀ c ∈ g, isGap c = true) {m : String × List Char}
    {m' : String × Json} (h : MemberReads m m') {rest : List Char} (hrest : NumberEnds rest)
    {fuel : Nat} (hfuel : 2 * m.2.length ≤ fuel) :
    readMembers (fuel + 1) (memberText ascii colon m ++ rest) = readAfterMember fuel m' rest := by
  obtain ⟨g, rfl, hg⟩ := hcolon
  obtain ⟨key, text⟩ := m
  obtain ⟨key', j⟩ := m'
  obtain ⟨hkey, hreads⟩ := h
  have hkey : key = key' := hkey
  subst hkey
  have hvalue := hreads.reads rest fuel hrest hfuel
  have hskip : skipGap (g ++ (text ++ rest)) = text ++ rest := by
    obtain ⟨c, r, hc, hgap, -⟩ := hreads.starts
    have hc : text = c :: r := hc
    rw [hc]
    exact skipGap_append hg hgap _
  have htext : memberText ascii (':' :: g) (key, text) ++ rest =
      writeText ascii key ++ ':' :: (g ++ (text ++ rest)) := by
    simp [memberText]
  have hcolon : ∀ r, skipGap (':' :: r) = ':' :: r := fun _ => rfl
  rw [htext, writeText_append, readMembers]
  simp only [readChars_writeText, hcolon, hskip, hvalue, bind, Except.bind, String.ofList_toList]
  rfl

/-- Members between braces are read one after another. -/
theorem readMembers_enclosed {ascii : Bool} {colon separator gap : List Char}
    (hcolon : ∃ g, colon = ':' :: g ∧ ∀ c ∈ g, isGap c = true)
    (hseparator : ∃ g, separator = ',' :: g ∧ ∀ c ∈ g, isGap c = true)
    (hgap : ∀ c ∈ gap, isGap c = true) {ms : List (String × List Char)}
    {js : List (String × Json)} (h : List.Forall₂ MemberReads ms js) {m : String × List Char}
    {m' : String × Json} (hfirst : MemberReads m m') (rest : List Char) {fuel : Nat}
    (hfuel : 2 * (memberText ascii colon m ++
      ms.flatMap (fun m => separator ++ memberText ascii colon m) ++ gap ++ ['\x7d']).length ≤
        fuel) :
    readMembers fuel (memberText ascii colon m ++
      ms.flatMap (fun m => separator ++ memberText ascii colon m) ++ gap ++ '\x7d' :: rest) =
      .ok (m' :: js, rest) := by
  obtain ⟨g, rfl, hg⟩ := hseparator
  induction h generalizing m m' fuel with
  | nil =>
    simp only [List.flatMap_nil, List.append_nil, List.length_append, List.length_singleton,
      memberText] at hfuel
    obtain ⟨fuel, rfl⟩ := Nat.exists_eq_succ_of_ne_zero (by omega : fuel ≠ 0)
    have hends : NumberEnds (gap ++ '\x7d' :: rest) :=
      numberEnds_gap hgap (numberEnds_cons (by decide))
    have hskip : skipGap (gap ++ '\x7d' :: rest) = '\x7d' :: rest := skipGap_append hgap rfl rest
    rw [List.flatMap_nil, List.append_nil, List.append_assoc,
      readMembers_member hcolon hfirst hends (by omega)]
    simp only [readAfterMember, hskip]
  | @cons next next' ms js hnext _ ih =>
    simp only [List.flatMap_cons, List.length_append, List.length_cons, List.length_nil,
      memberText] at hfuel
    obtain ⟨fuel, rfl⟩ := Nat.exists_eq_succ_of_ne_zero (by omega : fuel ≠ 0)
    have hrest : readMembers fuel (memberText ascii colon next ++
        ms.flatMap (fun m => ',' :: g ++ memberText ascii colon m) ++ gap ++ '\x7d' :: rest) =
        .ok (next' :: js, rest) := ih hnext (by
      simp only [List.length_append, List.length_cons, List.length_nil, memberText]
      omega)
    have hskip : skipGap (g ++ (memberText ascii colon next ++
        ms.flatMap (fun m => ',' :: g ++ memberText ascii colon m) ++ gap ++ '\x7d' :: rest)) =
        memberText ascii colon next ++
          ms.flatMap (fun m => ',' :: g ++ memberText ascii colon m) ++ gap ++ '\x7d' :: rest := by
      exact skipGap_append (c := '"') hg rfl _
    have htext : memberText ascii colon m ++
        (next :: ms).flatMap (fun m => ',' :: g ++ memberText ascii colon m) ++ gap ++
          '\x7d' :: rest =
        memberText ascii colon m ++ ',' :: (g ++ (memberText ascii colon next ++
          ms.flatMap (fun m => ',' :: g ++ memberText ascii colon m) ++ gap ++
            '\x7d' :: rest)) := by
      simp
    have hcomma : ∀ r, skipGap (',' :: r) = ',' :: r := fun _ => rfl
    rw [htext, readMembers_member hcolon hfirst (numberEnds_cons (by decide)) (by omega)]
    simp only [readAfterMember, hcomma, hskip, hrest, bind, Except.bind]

/-! ## Documents -/

/-- What stands between two items at a depth. -/
def Style.separator (style : Style) (depth : Nat) : List Char :=
  style.comma ++ lineStart style (depth + 1)

theorem Style.Readable.separator (hs : style.Readable) (depth : Nat) :
    ∃ g, style.separator depth = ',' :: g ∧ ∀ c ∈ g, isGap c = true := by
  obtain ⟨g, hcomma, hg⟩ := hs.comma
  refine ⟨g ++ lineStart style (depth + 1), ?_, fun c hc => ?_⟩
  · rw [Style.separator, hcomma, List.cons_append]
  · rcases List.mem_append.1 hc with hc | hc
    · exact hg c hc
    · exact isGap_lineStart (depth + 1) c hc

theorem enclose_append (depth : Nat) (first last : Char) (text : List Char)
    (texts : List (List Char)) (rest : List Char) :
    enclose style depth first last (text :: texts) ++ rest =
      first :: (lineStart style (depth + 1) ++ (text ++ texts.flatMap (style.separator depth ++ ·) ++
        lineStart style depth ++ last :: rest)) := by
  simp [enclose, Style.separator]

theorem length_enclose (depth : Nat) (first last : Char) (text : List Char)
    (texts : List (List Char)) :
    (text ++ texts.flatMap (style.separator depth ++ ·) ++ lineStart style depth ++
      [last]).length < (enclose style depth first last (text :: texts)).length := by
  have henclose := congrArg List.length (@enclose_append style depth first last text texts [])
  rw [List.append_nil, List.length_cons, List.length_append] at henclose
  omega

/-- What stands between brackets is read, if it begins with an item. -/
theorem readValue_list {gap body rest : List Char} (hgap : ∀ c ∈ gap, isGap c = true)
    (hbody : ∃ c r, body = c :: r ∧ isGap c = false ∧ c ≠ ']') {items : List Json} {fuel : Nat}
    (hitems : readItems fuel body = .ok (items, rest)) :
    readValue (fuel + 1) ('[' :: (gap ++ body)) = .ok (.list items, rest) := by
  obtain ⟨c, r, rfl, hc, hclose⟩ := hbody
  rw [readValue]
  simp only [skipGap_append hgap hc]
  split
  · rename_i heq
    exact absurd (List.cons.inj heq).1 hclose
  · rw [hitems]
    rfl

/-- What stands between braces is read, if it begins with a member. -/
theorem readValue_object {gap body rest : List Char} (hgap : ∀ c ∈ gap, isGap c = true)
    (hbody : ∃ r, body = '"' :: r) {members : List (String × Json)} {fuel : Nat}
    (hmembers : readMembers fuel body = .ok (members, rest)) :
    readValue (fuel + 1) ('\x7b' :: (gap ++ body)) = .ok (ofPairs members, rest) := by
  obtain ⟨r, rfl⟩ := hbody
  have hskip : skipGap (gap ++ '"' :: r) = '"' :: r := skipGap_append hgap rfl r
  rw [readValue]
  simp only [hskip]
  split
  · rename_i heq
    exact absurd (List.cons.inj heq).1 (by decide)
  · rw [hmembers]
    rfl

/-- An array is read item by item. -/
theorem reads_list (hs : style.Readable) (depth : Nat) {texts : List (List Char)} {js : List Json}
    (h : List.Forall₂ Reads texts js) : Reads (enclose style depth '[' ']' texts) (.list js) := by
  cases h with
  | nil =>
    refine ⟨⟨'[', _, rfl, rfl, by decide⟩, fun rest fuel _ hfuel => ?_⟩
    rw [enclose, List.length_cons] at hfuel
    obtain ⟨fuel, rfl⟩ := Nat.exists_eq_succ_of_ne_zero (by omega : fuel ≠ 0)
    rfl
  | @cons text j texts js hfirst hrest =>
    refine ⟨⟨'[', _, rfl, rfl, by decide⟩, fun rest fuel _ hfuel => ?_⟩
    have hlength := @length_enclose style depth '[' ']' text texts
    obtain ⟨fuel, rfl⟩ := Nat.exists_eq_succ_of_ne_zero (by omega : fuel ≠ 0)
    have hitems : readItems fuel (text ++ texts.flatMap (style.separator depth ++ ·) ++
        lineStart style depth ++ ']' :: rest) = .ok (j :: js, rest) :=
      readItems_enclosed (hs.separator depth) (isGap_lineStart depth) hrest hfirst rest (by omega)
    rw [enclose_append]
    refine readValue_list (isGap_lineStart (depth + 1)) ?_ hitems
    obtain ⟨c, r, rfl, hc⟩ := hfirst.starts
    exact ⟨c, _, rfl, hc⟩

/-- An object is read member by member. -/
theorem reads_object (hs : style.Readable) (depth : Nat) {ms : List (String × List Char)}
    {js : List (String × Json)} (h : List.Forall₂ MemberReads ms js)
    (hn : (js.map Prod.fst).Nodup) :
    Reads (enclose style depth '\x7b' '\x7d' (ms.map (memberText style.ascii style.colon)))
      (.object js) := by
  cases h with
  | nil =>
    refine ⟨⟨'\x7b', _, rfl, rfl, by decide⟩, fun rest fuel _ hfuel => ?_⟩
    rw [List.map_nil, enclose, List.length_cons] at hfuel
    obtain ⟨fuel, rfl⟩ := Nat.exists_eq_succ_of_ne_zero (by omega : fuel ≠ 0)
    rfl
  | @cons m m' ms js hfirst hrest =>
    refine ⟨⟨'\x7b', _, rfl, rfl, by decide⟩, fun rest fuel _ hfuel => ?_⟩
    rw [List.map_cons] at hfuel ⊢
    have hlength := @length_enclose style depth '\x7b' '\x7d'
      (memberText style.ascii style.colon m) (ms.map (memberText style.ascii style.colon))
    have hflat : (ms.map (memberText style.ascii style.colon)).flatMap
        (style.separator depth ++ ·) =
        ms.flatMap fun m => style.separator depth ++ memberText style.ascii style.colon m :=
      List.flatMap_map _ _ ms
    rw [hflat] at hlength
    obtain ⟨fuel, rfl⟩ := Nat.exists_eq_succ_of_ne_zero (by omega : fuel ≠ 0)
    have hmembers : readMembers fuel (memberText style.ascii style.colon m ++
        ms.flatMap (fun m => style.separator depth ++ memberText style.ascii style.colon m) ++
          lineStart style depth ++ '\x7d' :: rest) = .ok (m' :: js, rest) :=
      readMembers_enclosed hs.colon (hs.separator depth) (isGap_lineStart depth) hrest hfirst rest
        (by omega)
    rw [enclose_append, hflat, ← ofPairs_of_nodup hn]
    exact readValue_object (isGap_lineStart (depth + 1)) ⟨_, rfl⟩ hmembers

/-- A document that is written at a depth is read back. -/
theorem reads_writeAt (hs : style.Readable) {j : Json} (h : j.WellFormed) (depth : Nat) :
    Reads (writeAt style depth j) (j.arranged style) := by
  induction h generalizing depth with
  | null => exact reads_atom ⟨'n', _, rfl, by decide⟩ fun _ _ => rfl
  | bool b =>
    cases b with
    | true => exact reads_atom ⟨'t', _, rfl, by decide⟩ fun _ _ => rfl
    | false => exact reads_atom ⟨'f', _, rfl, by decide⟩ fun _ _ => rfl
  | int h => exact reads_integer h
  | float h => exact reads_float h
  | text s => exact reads_text style.ascii s
  | @list items _ ih =>
    have hall : List.Forall₂ Reads (items.map (writeAt style (depth + 1)))
        (items.map (arranged style)) := by
      rw [List.forall₂_map_left_iff, List.forall₂_map_right_iff, List.forall₂_same]
      exact fun j hj => ih j hj (depth + 1)
    rw [writeAt, arranged, writeItems_eq_map, arrangedItems_eq_map]
    exact reads_list hs depth hall
  | @object members hn _ ih =>
    have hkeys : (inOrder style members).Perm members := inOrder_perm members
    have hall : List.Forall₂ MemberReads
        ((inOrder style members).map fun m => (m.1, writeAt style (depth + 1) m.2))
        ((inOrder style members).map fun m => (m.1, m.2.arranged style)) := by
      rw [List.forall₂_map_left_iff, List.forall₂_map_right_iff, List.forall₂_same]
      exact fun m hm => ⟨rfl, ih m (hkeys.mem_iff.1 hm) (depth + 1)⟩
    have hnodup : (((inOrder style members).map fun m => (m.1, m.2.arranged style)).map
        Prod.fst).Nodup := by
      rw [List.map_map]
      exact (hkeys.map Prod.fst).nodup_iff.2 hn
    have htexts : arrange style (writeMembers style (depth + 1) members) =
        (inOrder style members).map fun m => (m.1, writeAt style (depth + 1) m.2) := by
      rw [writeMembers_eq_map]
      exact inOrder_map (writeAt style (depth + 1)) members
    rw [writeAt, arranged, htexts, arrangedMembers_eq_map, inOrder_map]
    exact reads_object hs depth hall hnodup

/-- **A document that is written is read back**, but for the order of members where the style sorts
them. White space may follow it. -/
theorem readList_wellFormed (hs : style.Readable) {j : Json} (h : j.WellFormed) {gap : List Char}
    (hgap : ∀ c ∈ gap, isGap c = true) :
    readList (writeAt style 0 j ++ gap) = .ok (j.arranged style) := by
  obtain ⟨⟨c, r, hc, hcgap, -⟩, hreads⟩ := reads_writeAt hs h 0
  have hends : NumberEnds gap := by
    have hnil := numberEnds_gap hgap numberEnds_nil
    rwa [List.append_nil] at hnil
  have hskip : skipGap (writeAt style 0 j ++ gap) = writeAt style 0 j ++ gap := by
    rw [hc]
    exact List.dropWhile_cons_of_neg (by simp [hcgap])
  have hnone : skipGap gap = [] := by
    rw [← List.append_nil gap]
    exact List.dropWhile_append_of_pos hgap
  unfold readList
  rw [hskip, hreads gap _ hends (by rw [List.length_append]; omega)]
  simp only [bind, Except.bind, hnone]

theorem readList_writeAt (hs : style.Readable) {j : Json} (h : j.Plain) {gap : List Char}
    (hgap : ∀ c ∈ gap, isGap c = true) :
    readList (writeAt style 0 j ++ gap) = .ok (j.arranged style) :=
  readList_wellFormed hs h.wellFormed hgap

end Stowage.Json
