import IdlLint.Proofs.TreePlacement
import IdlLint.Schema.OfTree

/-! Trees and documents with other places. A map of places is applied to every token and node; what a
token or a node says apart from its place stays the same. -/
namespace IdlLint

namespace Tree

variable (f : Position → Position)

private theorem relocateForest_eq_map (trees : List Tree) :
    relocateForest f trees = trees.map (relocate f) := by
  induction trees with
  | nil => rfl
  | cons tree rest ih => simp [relocateForest, ih]

mutual

theorem tokens_relocate : ∀ tree : Tree,
    (tree.relocate f).tokens = tree.tokens.map (Token.relocate f)
  | .leaf _ => rfl
  | .node _ _ slots => slotTokens_relocate slots

theorem slotTokens_relocate : ∀ slots : List (List Tree),
    slotTokens (relocateSlots f slots) = (slotTokens slots).map (Token.relocate f)
  | [] => rfl
  | slot :: rest => by
    simp [relocateSlots, slotTokens, forestTokens_relocate slot, slotTokens_relocate rest]

theorem forestTokens_relocate : ∀ trees : List Tree,
    forestTokens (relocateForest f trees) = (forestTokens trees).map (Token.relocate f)
  | [] => rfl
  | tree :: rest => by
    simp [relocateForest, forestTokens, tokens_relocate tree, forestTokens_relocate rest]

end

end Tree

/-- Slots fit the same elements after relocation, if their trees do. -/
theorem fits_relocate {P : Symbol → Tree → Prop} {f : Position → Position} {elements : List Element}
    {slots : List (List Tree)}
    (fits : List.Forall₂ (Fits fun symbol tree => P symbol (tree.relocate f)) elements slots) :
    List.Forall₂ (Fits P) elements (Tree.relocateSlots f slots) := by
  induction fits with
  | nil => exact .nil
  | cons fit _ ih =>
    refine .cons ⟨?_, fun tree member => ?_⟩ ih
    · simpa [Tree.relocateForest_eq_map] using fit.1
    · rw [Tree.relocateForest_eq_map] at member
      obtain ⟨source, inside, rfl⟩ := List.mem_map.mp member
      exact fit.2 source inside

/-- A derivation is one with other places too. Only the document does not start at its first token. -/
theorem Grown.relocate {symbol : Symbol} {tree : Tree} (grown : Grown symbol tree)
    (other : symbol ≠ .rule .document) (f : Position → Position) : Grown symbol (tree.relocate f) := by
  obtain ⟨derived, placed⟩ := grown
  induction derived with
  | leaf token => exact grown_terminal_iff.mpr ⟨token.relocate f, rfl, rfl⟩
  | @node rule start alternative slots chosen count allowed derived ih =>
    have notDocument : rule ≠ .document := fun same => other (congrArg _ same)
    have whole : Derives (.rule rule) (.node rule start slots) := .node chosen count allowed derived
    obtain ⟨token, rest, tokens, -⟩ := whole.startsIn other
    rw [Tree.tokens] at tokens
    cases placed with
    | node below =>
      have fits : List.Forall₂ (Fits fun symbol tree => Grown symbol (tree.relocate f))
          alternative slots := by
        refine List.forall₂_iff_zip.mpr ⟨count, fun {e slot} pair => ⟨allowed _ pair, ?_⟩⟩
        intro tree member
        obtain ⟨listed, present⟩ := List.of_mem_zip pair
        exact ih _ pair tree member (rule.symbol_ne_document alternative chosen e listed)
          (below slot present tree member)
      refine grown_rule_iff.mpr ⟨_, ?_, alternative, chosen, fits_relocate fits⟩
      rw [Tree.relocate, Tree.slotTokens_relocate, tokens, List.map_cons,
        Rule.startOf_cons notDocument, Rule.startOf_cons notDocument]
      rfl

/-- The same for the document, which always starts at the first character. -/
theorem Grown.relocate_document {start : Position} {slots : List (List Tree)}
    (grown : Grown (.rule .document) (.node .document start slots)) (f : Position → Position) :
    Grown (.rule .document) (.node .document .origin (Tree.relocateSlots f slots)) := by
  obtain ⟨_, same, alternative, chosen, fits⟩ := grown_rule_iff.mp grown
  cases same
  refine grown_rule_iff.mpr ⟨_, rfl, alternative, chosen, fits_relocate ?_⟩
  refine List.forall₂_iff_zip.mpr ⟨fits.length_eq, fun {e slot} pair => ?_⟩
  obtain ⟨allowed, each⟩ := List.forall₂_zip fits pair
  refine ⟨allowed, fun tree member => (each tree member).relocate ?_ f⟩
  exact Rule.symbol_ne_document .document alternative chosen e (List.of_mem_zip pair).1

/-! ### Documents -/

namespace Schema

variable (f : Position → Position)

def Note.relocate (note : Note) : Note :=
  { note with position := f note.position }

def TypeExpr.relocate : TypeExpr → TypeExpr
  | .base type annotations p => .base type (annotations.map (Note.relocate f)) (f p)
  | .map key value annotations p =>
    .map key.relocate value.relocate (annotations.map (Note.relocate f)) (f p)
  | .list value annotations p => .list value.relocate (annotations.map (Note.relocate f)) (f p)
  | .set value annotations p => .set value.relocate (annotations.map (Note.relocate f)) (f p)
  | .reference name p => .reference name (f p)

mutual

def Value.relocate : Value → Value
  | .integer value p => .integer value (f p)
  | .double value p => .double value (f p)
  | .string value p => .string value (f p)
  | .boolean value p => .boolean value (f p)
  | .reference name p => .reference name (f p)
  | .list items p => .list (Value.relocateList items) (f p)
  | .map entries p => .map (Entry.relocateList entries) (f p)

def Value.relocateList : List Value → List Value
  | [] => []
  | value :: rest => value.relocate :: Value.relocateList rest

def Entry.relocate : Entry → Entry
  | .mk key value p => .mk key.relocate value.relocate (f p)

def Entry.relocateList : List Entry → List Entry
  | [] => []
  | entry :: rest => entry.relocate :: Entry.relocateList rest

end

def Header.relocate : Header → Header
  | .include header => .include { header with position := f header.position }
  | .cppInclude header => .cppInclude { header with position := f header.position }
  | .scope header => .scope { header with position := f header.position }

def EnumItem.relocate (item : EnumItem) : EnumItem :=
  { item with annotations := item.annotations.map (Note.relocate f), position := f item.position }

def Field.relocate (field : Field) : Field :=
  { field with
    type := field.type.relocate f
    default := field.default.map (Value.relocate f)
    annotations := field.annotations.map (Note.relocate f)
    position := f field.position }

def Function.relocate (function : Function) : Function :=
  { function with
    result := function.result.map (TypeExpr.relocate f)
    parameters := function.parameters.map (Field.relocate f)
    exceptions := function.exceptions.map (Field.relocate f)
    annotations := function.annotations.map (Note.relocate f)
    position := f function.position }

def Definition.relocate : Definition → Definition
  | .constant d => .constant { d with
      type := d.type.relocate f
      value := d.value.relocate f
      annotations := d.annotations.map (Note.relocate f)
      position := f d.position }
  | .typedef d => .typedef { d with
      type := d.type.relocate f
      annotations := d.annotations.map (Note.relocate f)
      position := f d.position }
  | .enum d => .enum { d with
      items := d.items.map (EnumItem.relocate f)
      annotations := d.annotations.map (Note.relocate f)
      position := f d.position }
  | .struct d => .struct { d with
      fields := d.fields.map (Field.relocate f)
      annotations := d.annotations.map (Note.relocate f)
      position := f d.position }
  | .service d => .service { d with
      functions := d.functions.map (Function.relocate f)
      annotations := d.annotations.map (Note.relocate f)
      position := f d.position }

/-- The document with the map applied to all lines and columns. -/
def Document.relocate (d : Document) : Document :=
  ⟨d.headers.map (Header.relocate f), d.definitions.map (Definition.relocate f)⟩

theorem Value.relocateList_eq_map (values : List Value) :
    Value.relocateList f values = values.map (Value.relocate f) := by
  induction values with
  | nil => rfl
  | cons value rest ih => simp [Value.relocateList, ih]

theorem Entry.relocateList_eq_map (entries : List Entry) :
    Entry.relocateList f entries = entries.map (Entry.relocate f) := by
  induction entries with
  | nil => rfl
  | cons entry rest ih => simp [Entry.relocateList, ih]

theorem relocate_ofName (name : String) (annotations : List Note) (start : Position) :
    (TypeExpr.ofName name annotations start).relocate f =
      TypeExpr.ofName name (annotations.map (Note.relocate f)) (f start) := by
  unfold TypeExpr.ofName
  split <;> rfl

theorem relocate_ofToken (token : Token) (start : Position) :
    (Value.ofToken token start).relocate f = Value.ofToken (token.relocate f) (f start) := by
  obtain ⟨terminal, text, position⟩ := token
  simp only [Value.ofToken, Token.relocate]
  split
  · rfl
  · rfl
  · simp only [apply_ite (Value.relocate f), Value.relocate]
    rfl

/-! ### Pieces -/

namespace Piece

def relocate : Piece → Piece
  | .token t => .token (t.relocate f)
  | .integer n => .integer n
  | .type t => .type (t.relocate f)
  | .value v => .value (v.relocate f)
  | .entry e => .entry (e.relocate f)
  | .note a => .note (a.relocate f)
  | .annotations as => .annotations (as.map (Note.relocate f))
  | .enumItem i => .enumItem (i.relocate f)
  | .field x => .field (x.relocate f)
  | .fields xs => .fields (xs.map (Field.relocate f))
  | .function x => .function (x.relocate f)
  | .header h => .header (h.relocate f)
  | .definition d => .definition (d.relocate f)
  | .document d => .document (d.relocate f)
  | .malformed => .malformed

section Parts

variable {f} {β : Type} {get : Piece → Option β} {move : β → β}

private theorem filterMap_relocate
    (natural : ∀ piece : Piece, get (piece.relocate f) = (get piece).map move) (slot : List Piece) :
    (slot.map (relocate f)).filterMap get = (slot.filterMap get).map move := by
  induction slot with
  | nil => rfl
  | cons piece rest ih =>
    simp only [List.map_cons, List.filterMap_cons, natural, ih]
    cases get piece <;> rfl

private theorem head_relocate
    (natural : ∀ piece : Piece, get (piece.relocate f) = (get piece).map move) (slot : List Piece) :
    (slot.map (relocate f)).head?.bind get = (slot.head?.bind get).map move := by
  cases slot with
  | nil => rfl
  | cons piece rest => exact natural piece

end Parts

variable (slot : List Piece)

theorem values_relocate :
    (slot.map (relocate f)).filterMap value? = (slot.filterMap value?).map (Value.relocate f) :=
  filterMap_relocate (fun piece => by cases piece <;> rfl) slot

theorem entries_relocate :
    (slot.map (relocate f)).filterMap entry? = (slot.filterMap entry?).map (Entry.relocate f) :=
  filterMap_relocate (fun piece => by cases piece <;> rfl) slot

theorem notes_relocate :
    (slot.map (relocate f)).filterMap note? = (slot.filterMap note?).map (Note.relocate f) :=
  filterMap_relocate (fun piece => by cases piece <;> rfl) slot

theorem enumItems_relocate :
    (slot.map (relocate f)).filterMap enumItem? =
      (slot.filterMap enumItem?).map (EnumItem.relocate f) :=
  filterMap_relocate (fun piece => by cases piece <;> rfl) slot

theorem fields_relocate :
    (slot.map (relocate f)).filterMap field? = (slot.filterMap field?).map (Field.relocate f) :=
  filterMap_relocate (fun piece => by cases piece <;> rfl) slot

theorem functions_relocate :
    (slot.map (relocate f)).filterMap function? =
      (slot.filterMap function?).map (Function.relocate f) :=
  filterMap_relocate (fun piece => by cases piece <;> rfl) slot

theorem headers_relocate :
    (slot.map (relocate f)).filterMap header? = (slot.filterMap header?).map (Header.relocate f) :=
  filterMap_relocate (fun piece => by cases piece <;> rfl) slot

theorem definitions_relocate :
    (slot.map (relocate f)).filterMap definition? =
      (slot.filterMap definition?).map (Definition.relocate f) :=
  filterMap_relocate (fun piece => by cases piece <;> rfl) slot

theorem annotationsOf_relocate :
    annotationsOf (slot.map (relocate f)) = (annotationsOf slot).map (Note.relocate f) := by
  rcases slot with _ | ⟨piece, _ | ⟨other, rest⟩⟩
  · rfl
  · cases piece <;> rfl
  · cases piece <;> rfl

theorem fieldsOf_relocate :
    fieldsOf (slot.map (relocate f)) = (fieldsOf slot).map (Field.relocate f) := by
  rcases slot with _ | ⟨piece, _ | ⟨other, rest⟩⟩
  · rfl
  · cases piece <;> rfl
  · cases piece <;> rfl

theorem type?_relocate (piece : Piece) :
    (piece.relocate f).type? = piece.type?.map (TypeExpr.relocate f) := by
  cases piece <;> rfl

theorem value_relocate :
    (slot.map (relocate f)).head?.bind value? = (slot.head?.bind value?).map (Value.relocate f) :=
  head_relocate (fun piece => by cases piece <;> rfl) slot

theorem integer_relocate :
    (slot.map (relocate f)).head?.bind integer? = slot.head?.bind integer? := by
  rcases slot with _ | ⟨piece, rest⟩
  · rfl
  · cases piece <;> rfl

theorem name_relocate :
    (slot.map (relocate f)).head?.bind name? = slot.head?.bind name? := by
  rcases slot with _ | ⟨piece, rest⟩
  · rfl
  · cases piece <;> rfl

theorem requiredness_relocate :
    (slot.map (relocate f)).head?.bind requiredness? = slot.head?.bind requiredness? := by
  rcases slot with _ | ⟨piece, rest⟩
  · rfl
  · cases piece with
    | token t =>
      obtain ⟨terminal, text, position⟩ := t
      cases terminal with
      | word keyword => cases keyword <;> rfl
      | _ => rfl
    | _ => rfl

end Piece

theorem textOf_relocate (slot : List Piece) : textOf (slot.map (Piece.relocate f)) = textOf slot := by
  rcases slot with _ | ⟨piece, _ | ⟨other, rest⟩⟩
  · rfl
  · cases piece <;> rfl
  · cases piece <;> rfl

end Schema

end IdlLint
