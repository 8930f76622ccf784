import Stowage.Proofs.Flow.Laws
import Stowage.Yaml.Document

/-!
How the reading of YAML fails.

Whatever a text says, reading it gives a value, or it is not understood, or the platform fails
(`Yaml.Reads`, `Yaml.reads_read`). So a failure to read never looks like one of a storage call or of
a precondition.
-/

namespace Stowage.Yaml

variable {α β : Type}

/-- A text that is not understood, or a failure of the platform, with a text. -/
inductive Misread : Failure → Prop
  | badYaml : Misread .badYaml
  | fault {kind : Fault} {argument : Option Value} :
    (Failure.fault kind argument).isOverlong = false → Misread (.fault kind argument)

theorem Misread.isOverlong {f : Failure} (h : Misread f) : f.isOverlong = false := by
  cases h with
  | badYaml => rfl
  | fault hworded => exact hworded

/-- An outcome that fails only as reading does. -/
def Reads (outcome : Except Failure α) : Prop := ∀ f, outcome = .error f → Misread f

namespace Reads

variable {outcome : Except Failure α}

theorem ok (a : α) : Reads (.ok a : Except Failure α) := by
  intro f h
  cases h

theorem error {f : Failure} (h : Misread f) : Reads (.error f : Except Failure α) := by
  intro f' hf
  cases hf
  exact h

theorem badYaml : Reads (.error .badYaml : Except Failure α) := error .badYaml

theorem fault {kind : Fault} {argument : Option Value}
    (h : (Failure.fault kind argument).isOverlong = false) :
    Reads (.error (.fault kind argument) : Except Failure α) := error (.fault h)

theorem bind {next : α → Except Failure β} (h : Reads outcome) (hn : ∀ a, Reads (next a)) :
    Reads (outcome >>= next) := by
  intro f hf
  rcases bind_eq_error.1 hf with hf | ⟨a, -, hf⟩
  · exact h f hf
  · exact hn a f hf

theorem map {g : α → β} (h : Reads outcome) : Reads (outcome.map g) := by
  intro f hf
  cases outcome with
  | ok a => cases hf
  | error reason =>
    cases hf
    exact h _ rfl

theorem mapM {g : α → Except Failure β} (h : ∀ a, Reads (g a)) (as : List α) :
    Reads (as.mapM g) := fun _ hf => mapM_error h hf

theorem ite {c : Prop} [Decidable c] {other : Except Failure α} (h : Reads outcome)
    (h' : Reads other) : Reads (if c then outcome else other) := by
  split
  · exact h
  · exact h'

/-- Two ways to go on in the same way. -/
theorem join {c : Prop} [Decidable c] {next : α → Except Failure β} {other : Except Failure α}
    (hn : ∀ a, Reads (next a)) (h : Reads outcome) (h' : Reads other) :
    Reads (if c then outcome >>= next else other >>= next) :=
  .ite (.bind h hn) (.bind h' hn)

end Reads

/-! ## Scalars -/

namespace Scalar

theorem reads_inBase (base : Nat) (cs : List Char) : Reads (inBase base cs) := by
  unfold inBase
  exact .ite (.fault rfl) (.ite (.fault rfl) (.ok _))

theorem reads_integer (s : String) : Reads (integer s) := by
  have hsign : ∀ cs : List Char, Reads (signOf cs) := fun cs => .ite (.fault rfl) (.ok _)
  refine .bind (hsign _) fun sign => .bind ?_ fun n => .ok _
  unfold unsigned
  split
  · exact .fault rfl
  · exact .ok _
  · exact reads_inBase 2 _
  · exact reads_inBase 16 _
  · exact reads_inBase 8 _
  · exact .bind (.mapM (reads_inBase 10) _) fun parts => .ok _

theorem reads_number (cs : List Char) : Reads (number cs) := by
  unfold number
  split
  · exact .ok _
  · exact .fault rfl

theorem reads_sixties (parts : List Double) (sum : Double) (weight : Nat) :
    Reads (sixties sum weight parts) := by
  induction parts generalizing sum weight with
  | nil => exact .ok sum
  | cons part r ih =>
    unfold sixties
    split
    · exact ih _ _
    · exact .fault rfl

theorem reads_double (s : String) : Reads (double s) := by
  refine .bind (.ite (.fault rfl) (.ok _)) fun sign => .bind ?_ fun x => .ok _
  unfold magnitude
  refine .ite (.ok _) (.ite (.ok _) (.ite ?_ (reads_number _)))
  exact .bind (.mapM reads_number _) fun parts => reads_sixties _ _ _

theorem reads_instant (s : String) : Reads (instant s) := by
  have hchecked : ∀ (fault? : Option String) (v : Value), Reads (checked fault? v) := by
    intro fault? v
    cases fault? with
    | none => exact .ok v
    | some words => exact .fault rfl
  unfold instant
  split
  · exact hchecked _ _
  · exact hchecked _ _
  · exact .fault rfl

theorem reads_ofKind (kind : Kind) (s : String) : Reads (ofKind kind s) := by
  unfold ofKind
  split
  · exact .ok _
  · exact .map (.ite (.ok _) (.ite (.ok _) (.fault rfl)))
  · exact .map (reads_integer s)
  · exact .map (reads_double s)
  · unfold bytes
    split
    · exact .ok _
    · exact .badYaml
  · exact reads_instant s
  · exact .ok _
  · exact .badYaml

end Scalar

/-! ## Trees -/

namespace Node

theorem misread_codeFault (code : Nat) : Misread (codeFault code) := by
  unfold codeFault
  split
  · exact .fault rfl
  · exact .fault rfl

theorem misread_fault (b : Builder) : Misread b.fault := by
  unfold Builder.fault
  split
  · exact misread_codeFault _
  · exact .badYaml

theorem reads_take (b : Builder) (token : Token) : Reads (b.take token) := by
  unfold Builder.take
  split
  · exact .ite (.ok _) (.error (misread_fault b))
  · exact .badYaml

theorem reads_properties (b : Builder) : Reads (properties b) := by
  have htag : ∀ name : TagName, Reads (b.tag name) := by
    intro name
    unfold Builder.tag
    dsimp only
    split
    · exact .ok _
    · exact .badYaml
  unfold properties
  split
  · exact .bind (htag _) fun _ => .ok _
  · exact .bind (htag _) fun _ => .ok _
  · exact .ok _
  · exact .error (misread_codeFault _)
  · exact .bind (htag _) fun _ => .ok _
  · exact .ok _

theorem reads_omitted (props : Properties) (b : Builder) : Reads (omitted props b) :=
  .ite (.ok _) (.error (misread_fault b))

/-- Nodes and what they consist of are read with some fuel. -/
structure ReadsWith (fuel : Nat) : Prop where
  node (place : Place) (b : Builder) : Reads (node fuel place b)
  nodeUnless (place : Place) (enders : List Token) (b : Builder) :
    Reads (nodeUnless fuel place enders b)
  blockItems (b : Builder) : Reads (blockItems fuel b)
  flatItems (b : Builder) : Reads (flatItems fuel b)
  blockEntries (b : Builder) : Reads (blockEntries fuel b)
  flowItems (first : Bool) (b : Builder) : Reads (flowItems fuel first b)
  flowEntries (first : Bool) (b : Builder) : Reads (flowEntries fuel first b)

section Step

variable {fuel : Nat} (h : ReadsWith fuel)

include h

theorem reads_node (place : Place) (b : Builder) : Reads (node (fuel + 1) place b) := by
  unfold node
  split
  · split
    · exact .ok _
    · exact .badYaml
  · refine .bind (reads_properties b) fun found => ?_
    obtain ⟨props, b⟩ := found
    dsimp only
    split
    · exact .error (misread_codeFault _)
    · refine .ite .badYaml ?_
      split
      · exact .ite (.bind (h.flatItems _) fun _ => .ok _) (reads_omitted props b)
      · exact .ok _
      · exact .bind (h.flowItems true _) fun _ => .ok _
      · exact .bind (h.flowEntries true _) fun _ => .ok _
      · exact .ite (reads_omitted props b) (.bind (h.blockItems _) fun _ => .ok _)
      · exact .ite (reads_omitted props b) (.bind (h.blockEntries _) fun _ => .ok _)
      · exact reads_omitted props b
    · exact reads_omitted props b

theorem reads_nodeUnless (place : Place) (enders : List Token) (b : Builder) :
    Reads (nodeUnless (fuel + 1) place enders b) :=
  .ite (.ok _) (h.node place b)

theorem reads_blockItems (b : Builder) : Reads (blockItems (fuel + 1) b) :=
  .ite (.bind (reads_take b _) fun b => .bind (h.nodeUnless _ _ b) fun item =>
    .bind (h.blockItems item.2) fun _ => .ok _) (.map (reads_take b _))

theorem reads_flatItems (b : Builder) : Reads (flatItems (fuel + 1) b) :=
  .ite (.bind (reads_take b _) fun b => .bind (h.nodeUnless _ _ b) fun item =>
    .bind (h.flatItems item.2) fun _ => .ok _) (.ok _)

theorem reads_blockEntries (b : Builder) : Reads (blockEntries (fuel + 1) b) := by
  refine .ite (.bind (reads_take b _) fun b => .bind (h.nodeUnless _ _ b) fun key => ?_)
    (.map (reads_take b _))
  have hrest : ∀ (value : Node) (b : Builder), Reads (blockEntries fuel b >>= fun found =>
      .ok ((key.1, value) :: found.1, found.2)) := fun _ b =>
    .bind (h.blockEntries b) fun _ => .ok _
  exact .ite (.bind (reads_take key.2 _) fun b => .bind (h.nodeUnless _ _ b) fun value =>
    hrest value.1 value.2) (hrest empty key.2)

theorem reads_flowItems (first : Bool) (b : Builder) : Reads (flowItems (fuel + 1) first b) := by
  have hrest : ∀ item : Node × Builder, Reads (flowItems fuel false item.2 >>= fun found =>
      .ok (item.1 :: found.1, found.2)) := fun item =>
    .bind (h.flowItems false item.2) fun _ => .ok _
  refine .ite (.map (reads_take b _)) (.join (fun b => ?_) (.ok b) (reads_take b _))
  refine .ite (.map (reads_take b _)) (.ite ?_ (.bind (h.node _ b) hrest))
  refine .bind (reads_take b _) fun b => .bind (h.nodeUnless _ _ b) fun key => ?_
  exact .ite (.bind (reads_take key.2 _) fun b => .bind (h.nodeUnless _ _ b) fun _ =>
    .bind (.ok _) hrest) (.bind (.ok _) fun _ => .bind (.ok _) hrest)

theorem reads_flowEntries (first : Bool) (b : Builder) :
    Reads (flowEntries (fuel + 1) first b) := by
  have hrest : ∀ entry : (Node × Node) × Builder,
      Reads (flowEntries fuel false entry.2 >>= fun found =>
        .ok (entry.1 :: found.1, found.2)) := fun entry =>
    .bind (h.flowEntries false entry.2) fun _ => .ok _
  refine .ite (.map (reads_take b _)) (.join (fun b => ?_) (.ok b) (reads_take b _))
  refine .ite (.map (reads_take b _)) (.ite ?_ (.bind (h.node _ b) fun _ => .bind (.ok _) hrest))
  refine .bind (reads_take b _) fun b => .bind (h.nodeUnless _ _ b) fun key => ?_
  exact .ite (.bind (reads_take key.2 _) fun b => .bind (h.nodeUnless _ _ b) fun _ =>
    .bind (.ok _) hrest) (.bind (.ok _) fun _ => .bind (.ok _) hrest)

end Step

/-- The induction is on the fuel, which all parts of a tree share. -/
theorem readsWith (fuel : Nat) : ReadsWith fuel := by
  induction fuel with
  | zero =>
    exact ⟨fun _ _ => .badYaml, fun _ _ _ => .badYaml, fun _ => .badYaml, fun _ => .badYaml,
      fun _ => .badYaml, fun _ _ => .badYaml, fun _ _ => .badYaml⟩
  | succ fuel ih =>
    exact ⟨reads_node ih, reads_nodeUnless ih, reads_blockItems ih, reads_flatItems ih,
      reads_blockEntries ih, reads_flowItems ih, reads_flowEntries ih⟩

theorem reads_directives (tokens : List Token) (version : Bool)
    (handles : List (String × String)) : Reads (directives version handles tokens) := by
  induction tokens generalizing version handles with
  | nil => exact .ok _
  | cons token r ih =>
    unfold directives
    split
    · rename_i heq
      cases heq
      exact .ite .badYaml (ih true handles)
    · rename_i heq
      cases heq
      exact .ite .badYaml (ih version _)
    · rename_i heq
      cases heq
      exact ih version handles
    · exact .ok _

theorem reads_ofTokens (tokens : List Token) : Reads (ofTokens tokens) := by
  have hstart : Reads (documentStart tokens) := by
    unfold documentStart
    split
    · exact .bind (reads_directives _ _ _) fun _ => reads_take _ _
    · exact .bind (reads_directives _ _ _) fun _ => reads_take _ _
    · exact .ok _
  refine .ite (.ok none) (.bind hstart fun b => .ite (.ok _) ?_)
  refine .bind ((readsWith _).node .block b) fun found => ?_
  obtain ⟨node, b⟩ := found
  dsimp only
  split
  · exact .ok _
  · exact .error (misread_fault _)

end Node

/-! ## Values -/

/-- What mappings lend to each other is read with some fuel. -/
structure FlattensWith (fuel : Nat) : Prop where
  flatten (entries : List (Node × Node)) : Reads (flatten fuel entries)
  flattenParts (entries : List (Node × Node)) : Reads (flattenParts fuel entries)
  mergedEntries (node : Node) : Reads (mergedEntries fuel node)
  mergedItems (items : List Node) : Reads (mergedItems fuel items)

theorem flattensWith (fuel : Nat) : FlattensWith fuel := by
  -- The four call each other with one less, so that one induction carries them all.
  induction fuel with
  | zero =>
    exact ⟨fun _ => .badYaml, fun _ => .badYaml, fun _ => .badYaml, fun _ => .badYaml⟩
  | succ fuel ih =>
    refine ⟨fun entries => .bind (ih.flattenParts entries) fun _ => .ok _, fun entries => ?_,
      fun node => ?_, fun items => ?_⟩
    · cases entries with
      | nil => exact .ok _
      | cons entry r =>
        have hr : ∀ next : List (Node × Node) × List (Node × Node) →
            List (Node × Node) × List (Node × Node),
            Reads (flattenParts fuel r >>= fun parts => .ok (next parts)) :=
          fun _ => .bind (ih.flattenParts r) fun _ => .ok _
        unfold flattenParts
        dsimp only
        split
        · exact .bind (ih.mergedEntries _) fun taken => hr fun parts => (taken ++ parts.1, parts.2)
        · exact hr fun parts => (parts.1, _ :: parts.2)
        · exact hr fun parts => (parts.1, _ :: parts.2)
    · cases node with
      | mapping _ entries => exact ih.flatten entries
      | sequence _ items => exact ih.mergedItems items
      | enclosing _ isMapping =>
        cases isMapping with
        | true => exact .ok _
        | false => exact .badYaml
      | scalar => exact .badYaml
    · cases items with
      | nil => exact .ok _
      | cons item r =>
        cases item with
        | mapping _ entries =>
          exact .bind (ih.flatten entries) fun _ => .bind (ih.mergedItems r) fun _ => .ok _
        | enclosing _ isMapping =>
          cases isMapping with
          | true => exact ih.mergedItems r
          | false => exact .badYaml
        | scalar => exact .badYaml
        | sequence => exact .badYaml

namespace Node

mutual

theorem reads_scalarText (node : Node) : Reads node.scalarText := by
  cases node with
  | scalar _ text _ => exact .ok text
  | sequence => exact .badYaml
  | enclosing => exact .badYaml
  | mapping _ entries => exact reads_entryText entries

theorem reads_entryText (entries : List (Node × Node)) : Reads (entryText entries) := by
  cases entries with
  | nil => exact .badYaml
  | cons entry r =>
    obtain ⟨key, value⟩ := entry
    exact .ite (reads_scalarText value) (reads_entryText r)

end

theorem reads_scalarValue (node : Node) : Reads node.scalarValue := by
  refine .bind (reads_scalarText node) fun text => ?_
  split
  · exact .fault rfl
  · exact Scalar.reads_ofKind _ text

theorem reads_found (node : Node) : Reads node.found := by
  unfold found
  split
  · exact .ok _
  · exact .ite (.ok _) (.bind (reads_scalarValue node) fun _ => .ok _)

theorem reads_foundInEntry (entry : Node × Node) : Reads (foundInEntry entry) :=
  .bind (reads_found entry.1) fun _ => .ite .badYaml (reads_found entry.2)

theorem reads_onlyEntry (node : Node) : Reads node.onlyEntry := by
  unfold onlyEntry
  split
  · exact .ok _
  · exact .badYaml

theorem reads_fill (node : Node) : Reads node.fill := by
  have hmapping : ∀ entries, Reads (do
      let entries ← flatten node.fuel entries
      return (← entries.mapM foundInEntry).flatten) := fun entries =>
    .bind ((flattensWith _).flatten entries) fun _ => .bind (.mapM reads_foundInEntry _) fun _ =>
      .ok _
  have hentry : ∀ item : Node, Reads (item.onlyEntry >>= fun entry => do
      return (← entry.1.found) ++ (← entry.2.found)) := fun item =>
    .bind (reads_onlyEntry item) fun entry => .bind (reads_found entry.1) fun _ =>
      .bind (reads_found entry.2) fun _ => .ok _
  unfold fill
  split
  · exact .bind (.mapM reads_found _) fun _ => .ok _
  · exact hmapping _
  · exact hmapping _
  · exact .bind (.mapM hentry _) fun _ => .ok _
  · exact .bind (.mapM hentry _) fun _ => .ok _
  · exact .badYaml

theorem reads_fillAll (fuel : Nat) (nodes : List Node) : Reads (fillAll fuel nodes) := by
  induction fuel generalizing nodes with
  | zero =>
    cases nodes with
    | nil => exact .ok ()
    | cons node r => exact .badYaml
  | succ fuel ih =>
    cases nodes with
    | nil => exact .ok ()
    | cons node r => exact .bind (reads_fill node) fun found => ih (r ++ found)

/-- Values are put together with some fuel. -/
structure ValuesWith (fuel : Nat) : Prop where
  value (node : Node) : Reads (value fuel node)
  values (nodes : List Node) : Reads (values fuel nodes)
  entries (pairs : List (Node × Node)) : Reads (entries fuel pairs)

theorem valuesWith (fuel : Nat) : ValuesWith fuel := by
  induction fuel with
  | zero => exact ⟨fun _ => .badYaml, fun _ => .badYaml, fun _ => .badYaml⟩
  | succ fuel ih =>
    refine ⟨fun node => ?_, fun nodes => ?_, fun pairs => ?_⟩
    · unfold value
      split
      · exact .map (ih.values _)
      · exact .bind ((flattensWith _).flatten _) fun _ => .map (ih.entries _)
      · exact .bind ((flattensWith _).flatten _) fun _ => .bind (ih.entries _) fun _ => .ok _
      · exact .bind (.mapM reads_onlyEntry _) fun _ => .bind (ih.entries _) fun _ => .ok _
      · exact .bind (.mapM reads_onlyEntry _) fun _ => .bind (ih.entries _) fun _ => .ok _
      · exact .ok _
      · exact .ite .badYaml (reads_scalarValue _)
    · cases nodes with
      | nil => exact .ok _
      | cons node r =>
        exact .bind (ih.value node) fun _ => .bind (ih.values r) fun _ => .ok _
    · cases pairs with
      | nil => exact .ok _
      | cons pair r =>
        exact .bind (ih.value pair.1) fun _ => .bind (ih.value pair.2) fun _ =>
          .bind (ih.entries r) fun _ => .ok _

end Node

/-- **A text fails to be read as YAML, or the platform fails.** -/
theorem reads_read (s : String) : Reads (read s) := by
  unfold read
  split
  · exact .badYaml
  · rename_i tokens _
    refine .bind (Node.reads_ofTokens tokens) fun found => ?_
    split
    · exact .ok _
    · rename_i node
      have hdenotation : Reads node.denotation :=
        .bind (Node.reads_found node) fun nodes => .bind (Node.reads_fillAll _ nodes) fun _ =>
          (Node.valuesWith _).value node
      exact .bind hdenotation fun _ => .ite (.fault rfl) (.ok _)

end Stowage.Yaml
