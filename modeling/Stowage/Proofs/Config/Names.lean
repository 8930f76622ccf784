import Stowage.Proofs.Config.Variables
import Stowage.Proofs.Text.LetterCase

/-!
The names of variables that spell a path.

A path is named by its segments in upper case, joined with doubled underscores behind the prefix
(`nameOf`). As underscores may also stand inside of segments and at their ends, not every path is
read back from its name: one of ASCII segments is if and only if it is spellable
(`variablePath?_nameOf_iff`). The variable of a spellable path sets this path to its value, and
nothing else (`ofVariables_nameOf`).
-/

namespace Stowage.Config

variable {start segment : String} {path : List String} {cs piece : List Char}

/-! ## Names -/

/-- A text that a name can hold as one segment of a path: lower-case ASCII, not empty, with no
blanks at its ends and no doubled underscore. -/
structure IsSegment (segment : String) : Prop where
  nonempty : segment ≠ ""
  ascii : Text.IsAscii segment.toList
  lower : Text.lower segment = segment
  trimmed : Text.trim segment = segment
  undoubled : Text.Undoubled '_' segment.toList

/-- A path whose segments a name keeps apart. An underscore at the end of a segment would be taken
for the first half of the separator that follows it. -/
structure Spellable (path : List String) : Prop where
  nonempty : path ≠ []
  segments : ∀ segment ∈ path, IsSegment segment
  ends : ∀ segment ∈ path.dropLast, segment.toList.getLast? ≠ some '_'

/-- The name of the variable that sets a path. -/
def nameOf (start : String) (path : List String) : String :=
  start ++ Text.join "__" (path.map Text.upper)

instance (segment : String) : Decidable (IsSegment segment) :=
  decidable_of_iff (segment ≠ "" ∧ Text.IsAscii segment.toList ∧ Text.lower segment = segment ∧
      Text.trim segment = segment ∧ Text.Undoubled '_' segment.toList)
    ⟨fun ⟨hne, hascii, hlower, htrim, hsingle⟩ => ⟨hne, hascii, hlower, htrim, hsingle⟩,
      fun h => ⟨h.nonempty, h.ascii, h.lower, h.trimmed, h.undoubled⟩⟩

instance (path : List String) : Decidable (Spellable path) :=
  decidable_of_iff (path ≠ [] ∧ (∀ segment ∈ path, IsSegment segment) ∧
      ∀ segment ∈ path.dropLast, segment.toList.getLast? ≠ some '_')
    ⟨fun ⟨hne, hsegments, hends⟩ => ⟨hne, hsegments, hends⟩,
      fun h => ⟨h.nonempty, h.segments, h.ends⟩⟩

/-- A segment as a name holds it. -/
def raised (segment : String) : List Char := segment.toList.map Char.toUpper

/-- What one piece of a name spells, if it spells anything. -/
def segment? (piece : List Char) : Option String :=
  let trimmed := Text.trimChars Text.isBlank piece
  if trimmed.isEmpty then none else some (Text.lower (String.ofList trimmed))

theorem pathOf_eq (name : List Char) :
    pathOf name = (Text.splitAtDouble '_' name).filterMap segment? := by
  unfold pathOf
  rw [List.filterMap_map]
  rfl

theorem toList_nameOf (h : ∀ segment ∈ path, Text.IsAscii segment.toList) (start : String) :
    (nameOf start path).toList = start.toList ++ ['_', '_'].intercalate (path.map raised) := by
  have hraised : (path.map Text.upper).map String.toList = path.map raised := by
    rw [List.map_map]
    exact List.map_congr_left fun segment hmem => Text.toList_upper (h segment hmem)
  unfold nameOf
  rw [String.toList_append, Text.toList_join, hraised]
  rfl

/-! ## Reading a name -/

/-- The raised characters of a segment spell it. -/
theorem IsSegment.segment?_raised (h : IsSegment segment) :
    segment? (raised segment) = some segment := by
  have htrimmed : Text.Trimmed Text.isBlank (raised segment) :=
    (Text.recasing_toUpper.trimmed_map h.ascii).2 (Text.trim_eq_self_iff.1 h.trimmed)
  have hne : raised segment ≠ [] := by
    unfold raised
    rw [ne_eq, List.map_eq_nil_iff, String.toList_eq_nil_iff]
    exact h.nonempty
  have hascii : Text.IsAscii (raised segment) := Text.recasing_toUpper.isAscii_map h.ascii
  have hlower : Text.lower (String.ofList (raised segment)) = segment := by
    rw [← String.toList_inj, Text.toList_lower_ofList hascii, raised,
      Text.recasing_toUpper.map_toLower h.ascii, ← Text.toList_lower h.ascii, h.lower]
  unfold segment?
  rw [htrimmed.trimChars_eq, if_neg (by simpa using hne), hlower]

/-- The separators of a name are found again. -/
theorem Spellable.separable (h : Spellable path) : Text.Separable '_' (path.map raised) where
  nonempty := by simp [h.nonempty]
  undoubled := List.forall_mem_map.2 fun segment hmem =>
    (Text.recasing_toUpper.undoubled_map (h.segments segment hmem).ascii).2
      (h.segments segment hmem).undoubled
  ends := by
    rw [← List.map_dropLast]
    refine List.forall_mem_map.2 fun segment hmem heq => h.ends segment hmem ?_
    have hascii := (h.segments segment (List.mem_of_mem_dropLast hmem)).ascii
    exact (Text.recasing_toUpper.getLast?_map hascii).1 heq

theorem Spellable.pathOf_eq (h : Spellable path) :
    pathOf (['_', '_'].intercalate (path.map raised)) = path := by
  rw [Config.pathOf_eq, Text.splitAtDouble_eq_iff.2 ⟨h.separable, rfl⟩, List.filterMap_map]
  calc path.filterMap (segment? ∘ raised)
      = path.filterMap some :=
        List.filterMap_congr fun segment hmem => (h.segments segment hmem).segment?_raised
    _ = path := List.filterMap_some

/-- A name behind the prefix sets the path that its rest spells, if that has a step. -/
theorem variablePath?_of_append {name : String} {rest : List Char}
    (h : name.toList = start.toList ++ rest) :
    variablePath? start name = some path ↔ path ≠ [] ∧ pathOf rest = path := by
  unfold variablePath?
  rw [h, Text.dropStart?_append]
  dsimp only
  cases pathOf rest with
  | nil =>
    constructor
    · nofun
    · rintro ⟨hne, rfl⟩
      exact absurd rfl hne
  | cons step way =>
    constructor
    · rintro ⟨⟩
      exact ⟨List.cons_ne_nil step way, rfl⟩
    · rintro ⟨-, rfl⟩
      rfl

theorem Spellable.variablePath?_nameOf (h : Spellable path) (start : String) :
    variablePath? start (nameOf start path) = some path :=
  have hascii : ∀ segment ∈ path, Text.IsAscii segment.toList :=
    fun segment hmem => (h.segments segment hmem).ascii
  (variablePath?_of_append (toList_nameOf hascii start)).2 ⟨h.nonempty, h.pathOf_eq⟩

/-! ## Which paths have a name -/

/-- ASCII text in lower case is a segment if it has no blanks at its ends and no doubled
underscore. -/
theorem isSegment_lower (hne : cs ≠ []) (hascii : Text.IsAscii cs)
    (htrimmed : Text.Trimmed Text.isBlank cs) (hundoubled : Text.Undoubled '_' cs) :
    IsSegment (Text.lower (String.ofList cs)) := by
  have hlower := Text.toList_lower_ofList hascii
  have hsegment : Text.IsAscii (Text.lower (String.ofList cs)).toList := by
    rw [hlower]
    exact Text.recasing_toLower.isAscii_map hascii
  exact {
    nonempty := by
      rw [ne_eq, ← String.toList_eq_nil_iff, hlower, List.map_eq_nil_iff]
      exact hne
    ascii := hsegment
    lower := by
      rw [← String.toList_inj, Text.toList_lower hsegment, hlower,
        Text.recasing_toLower.map_toLower hascii]
    trimmed := by
      rw [Text.trim_eq_self_iff, hlower]
      exact (Text.recasing_toLower.trimmed_map hascii).2 htrimmed
    undoubled := by
      rw [hlower]
      exact (Text.recasing_toLower.undoubled_map hascii).2 hundoubled }

/-- What a piece of a name spells is a segment: in lower case, what is left of the piece without its
blanks. -/
theorem isSegment_of_segment? (hascii : Text.IsAscii piece) (hpiece : Text.Undoubled '_' piece)
    (h : segment? piece = some segment) : IsSegment segment ∧
      segment.toList = (Text.trimChars Text.isBlank piece).map Char.toLower := by
  have hinner := Text.trimChars_infix Text.isBlank piece
  have hmiddle : Text.IsAscii (Text.trimChars Text.isBlank piece) :=
    fun c hc => hascii c ( hinner.subset hc)
  unfold segment? at h
  dsimp only at h
  split at h
  · cases h
  · rename_i hne
    obtain rfl := Option.some.inj h
    refine ⟨isSegment_lower (by simpa using hne) hmiddle (Text.trimmed_trimChars _ _) ?_,
      Text.toList_lower_ofList hmiddle⟩
    exact fun hdoubled => hpiece (hdoubled.trans hinner)

/-- The characters that the pieces of a name take up, two for what separates each from the next. -/
def room (pieces : List (List Char)) : Nat := (pieces.map fun piece => piece.length + 2).sum

theorem room_cons (piece : List Char) (pieces : List (List Char)) :
    room (piece :: pieces) = piece.length + 2 + room pieces := by
  simp [room]

theorem room_map {α : Type} {f g : α → List Char} (h : ∀ a, (f a).length = (g a).length)
    (l : List α) : room (l.map f) = room (l.map g) := by
  unfold room
  rw [List.map_map, List.map_map]
  exact congrArg List.sum (List.map_congr_left fun a _ => congrArg (· + 2) (h a))

theorem length_intercalate {pieces : List (List Char)} (hne : pieces ≠ []) :
    (['_', '_'].intercalate pieces).length + 2 = room pieces := by
  induction pieces with
  | nil => exact absurd rfl hne
  | cons piece rest ih =>
    rw [room_cons]
    cases rest with
    | nil => simp [room]
    | cons next rest =>
      have hnext := ih (List.cons_ne_nil next rest)
      rw [List.intercalate_cons_cons, List.length_append, List.length_append, List.length_cons,
        List.length_singleton]
      omega

/-- The segments that pieces spell take up no more room than the pieces, and only those pieces take
up no more that are the segments in another case. -/
theorem room_segments_le {pieces : List (List Char)} (hascii : ∀ piece ∈ pieces, Text.IsAscii piece)
    (hundoubled : ∀ piece ∈ pieces, Text.Undoubled '_' piece) :
    room ((pieces.filterMap segment?).map String.toList) ≤ room pieces ∧
      (room ((pieces.filterMap segment?).map String.toList) = room pieces →
        (pieces.filterMap segment?).map String.toList = pieces.map (·.map Char.toLower)) := by
  induction pieces with
  | nil => exact ⟨Nat.le_refl _, fun _ => rfl⟩
  | cons piece rest ih =>
    obtain ⟨hpiece, hrest⟩ := List.forall_mem_cons.1 hascii
    obtain ⟨hone, hothers⟩ := List.forall_mem_cons.1 hundoubled
    obtain ⟨hle, heq⟩ := ih hrest hothers
    rw [room_cons]
    cases hsegment : segment? piece with
    | none =>
      rw [List.filterMap_cons_none hsegment]
      exact ⟨by omega, fun h => by omega⟩
    | some segment =>
      have hinner := Text.trimChars_infix Text.isBlank piece
      have htext := (isSegment_of_segment? hpiece hone hsegment).2
      have hlength : segment.toList.length = (Text.trimChars Text.isBlank piece).length := by
        rw [htext, List.length_map]
      have hshorter := hinner.length_le
      rw [List.filterMap_cons_some hsegment, List.map_cons, room_cons]
      refine ⟨by omega, fun h => ?_⟩
      have hwhole : Text.trimChars Text.isBlank piece = piece :=
        hinner.eq_of_length (by omega)
      rw [heq (by omega), htext, hwhole, List.map_cons]

theorem isAscii_intercalate {pieces : List (List Char)} :
    Text.IsAscii (['_', '_'].intercalate pieces) ↔ ∀ piece ∈ pieces, Text.IsAscii piece := by
  induction pieces with
  | nil => simp [Text.IsAscii]
  | cons piece rest ih =>
    rw [List.forall_mem_cons, ← ih]
    cases rest with
    | nil => simp [Text.IsAscii]
    | cons next rest =>
      have hmarks : Text.IsAscii ['_', '_'] := by decide
      rw [List.intercalate_cons_cons]
      unfold Text.IsAscii at hmarks ⊢
      rw [List.forall_mem_append, List.forall_mem_append]
      exact and_congr_left fun _ => and_iff_left hmarks

/-- In a name that its path is read back from, all that stands between the separators is segments:
none of it was passed over as blank. -/
theorem exists_pieces (hascii : ∀ segment ∈ path, Text.IsAscii segment.toList) (hne : path ≠ [])
    (h : pathOf (['_', '_'].intercalate (path.map raised)) = path) :
    ∃ pieces, Text.Separable '_' pieces ∧ (∀ piece ∈ pieces, Text.IsAscii piece) ∧
      pieces.filterMap segment? = path ∧
      path.map String.toList = pieces.map (·.map Char.toLower) := by
  rw [pathOf_eq] at h
  generalize hsplit : Text.splitAtDouble '_' _ = pieces at h
  obtain ⟨hseparable, hjoined⟩ := Text.splitAtDouble_eq_iff.1 hsplit
  have hpieces : ∀ piece ∈ pieces, Text.IsAscii piece := by
    rw [← isAscii_intercalate, hjoined, isAscii_intercalate]
    exact List.forall_mem_map.2 fun segment hmem =>
      Text.recasing_toUpper.isAscii_map (hascii segment hmem)
  -- both lists are joined to the same text, so the segments take up all the room of the pieces
  have hroom : room (path.map String.toList) = room pieces := by
    have hraised : path.map raised ≠ [] := by simp [hne]
    rw [← length_intercalate hseparable.nonempty, hjoined, length_intercalate hraised]
    exact room_map (fun segment => by simp [raised]) path
  refine ⟨pieces, hseparable, hpieces, h, ?_⟩
  rw [← h] at hroom ⊢
  exact (room_segments_le hpieces hseparable.undoubled).2 hroom

/-- **Which paths have a name.** An ASCII path is set by the variable of its name if and only if the
path is spellable. -/
theorem variablePath?_nameOf_iff (hascii : ∀ segment ∈ path, Text.IsAscii segment.toList) :
    variablePath? start (nameOf start path) = some path ↔ Spellable path := by
  refine ⟨fun h => ?_, fun h => h.variablePath?_nameOf start⟩
  obtain ⟨hne, hpath⟩ := (variablePath?_of_append (toList_nameOf hascii start)).1 h
  obtain ⟨pieces, hseparable, hpieces, hfound, htexts⟩ := exists_pieces hascii hne hpath
  refine ⟨hne, fun segment hmem => ?_, fun segment hmem hlast => ?_⟩
  · rw [← hfound] at hmem
    obtain ⟨piece, hpiece, hsegment⟩ := List.mem_filterMap.1 hmem
    exact (isSegment_of_segment? (hpieces piece hpiece) (hseparable.undoubled piece hpiece)
      hsegment).1
  · have htext := List.mem_map_of_mem (f := String.toList) hmem
    rw [List.map_dropLast, htexts, ← List.map_dropLast] at htext
    obtain ⟨piece, hpiece, hlower⟩ := List.mem_map.1 htext
    have hplain := hpieces piece (List.mem_of_mem_dropLast hpiece)
    rw [← hlower] at hlast
    exact hseparable.ends piece hpiece ((Text.recasing_toLower.getLast?_map hplain).1 hlast)

/-- An underscore at the end of a segment moves to the next one. -/
example : variablePath? standardPrefix (nameOf standardPrefix ["a_", "b"]) = some ["a", "_b"] := by
  decide

/-! ## What the variable of a path sets -/

/-- The value that holds another one at a path and nothing else. -/
def nest : List String → Value → Value
  | [], v => v
  | step :: path, v => .mapping [(.text step, nest path v)]

theorem mapping_setPath_nil (hne : path ≠ []) (v : Value) :
    Value.mapping (setPath v [] path) = nest path v := by
  induction path with
  | nil => exact absurd rfl hne
  | cons step path ih =>
    rw [setPath_cons]
    cases path with
    | nil => rfl
    | cons next path =>
      change Value.mapping [(.text step, .mapping (setPath v [] (next :: path)))] = _
      rw [ih (List.cons_ne_nil next path)]
      rfl

/-- A single variable sets its path in an empty mapping. -/
theorem ofVariables_singleton {name : String} (h : variablePath? start name = some path)
    (raw : String) : (ofVariables start [(name, raw)]).map Value.mapping =
      (coerce raw).map (nest path) := by
  have hne : path ≠ [] := ne_nil_of_variablePath? h
  unfold ofVariables
  rw [List.foldlM_cons]
  unfold setVariable
  rw [h]
  cases coerce raw with
  | error f => rfl
  | ok v => exact congrArg Except.ok (mapping_setPath_nil hne v)

/-- **A path is read back from its name.** For every prefix, the variable that is named for a
spellable path sets just this path, and no other spellable path has its name. When there is no other
variable, its value stands at the path and nothing stands anywhere else. Beside other variables it
makes no difference to paths apart from its own, which holds its value unless a later variable sets
the same path, one that leads on from it, or one that leads to it. -/
theorem ofVariables_nameOf (start : String) (h : Spellable path) :
    variablePath? start (nameOf start path) = some path ∧
      (∀ other, Spellable other → nameOf start other = nameOf start path → other = path) ∧
      (∀ raw, (ofVariables start [(nameOf start path, raw)]).map Value.mapping =
        (coerce raw).map (nest path)) ∧
      ∀ before raw later es,
        ofVariables start (before ++ (nameOf start path, raw) :: later) = .ok es →
        (∃ without, ofVariables start (before ++ later) = .ok without ∧
          ∀ other, Apart path other →
            (Value.mapping es).at? other = (Value.mapping without).at? other) ∧
        ((∀ e ∈ later, ∀ other, variablePath? start e.1 = some other → Apart path other) →
          ∃ v, coerce raw = .ok v ∧ (Value.mapping es).at? path = some v) := by
  have hpath := h.variablePath?_nameOf start
  refine ⟨hpath, fun other hother hname => ?_, ofVariables_singleton hpath,
    fun before raw later es hes => ?_⟩
  · have hsame := hother.variablePath?_nameOf start
    rw [hname, hpath] at hsame
    exact (Option.some.inj hsame).symm
  · have hvalue := at?_ofVariables hes hpath
    exact ⟨at?_ofVariables_of_apart hes hpath, hvalue⟩

/-- Underscores may stand at the start of any segment, and at the end of the last. -/
theorem ofVariables_nameOf_underscored :
    let path := ["components", "_rack 1", "_"]
    Spellable path ∧ nameOf standardPrefix path = "STOWAGE_COMPONENTS___RACK 1___" ∧
      variablePath? standardPrefix "STOWAGE_COMPONENTS___RACK 1___" = some path ∧
      (ofVariables standardPrefix [("STOWAGE_COMPONENTS___RACK 1___", "9")]).map Value.mapping =
        .ok (nest path (.int 9)) := by
  intro path
  have hspellable : Spellable path := by decide +kernel
  have hname : nameOf standardPrefix path = "STOWAGE_COMPONENTS___RACK 1___" := by decide +kernel
  have hnine : coerce "9" = .ok (.int 9) := rfl
  obtain ⟨hpath, -, halone, -⟩ := ofVariables_nameOf standardPrefix hspellable
  rw [hname] at hpath halone
  refine ⟨hspellable, hname, hpath, ?_⟩
  rw [halone, hnine]
  rfl

end Stowage.Config
