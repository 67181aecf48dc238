import TickWire.Command.Output
import TickWire.Proofs.Text.Line

/-!
# Diagnostic text is one line

The diagnostic text of a record consists of names of kinds and fields, of numbers, and of what
stands between them.  None of it holds a newline, whatever the record holds: the text of a field
is shown as numbers, too.  So a record that is written as text ends its line, and no record has
more than one.
-/

namespace TickWire

/-- A text without a newline. -/
def IsOneLine (text : String) : Prop := '\n' ∉ text.toList

instance (text : String) : Decidable (IsOneLine text) :=
  inferInstanceAs (Decidable ('\n' ∉ text.toList))

namespace IsOneLine

theorem append {front back : String} (first : IsOneLine front) (second : IsOneLine back) :
    IsOneLine (front ++ back) := by
  rw [IsOneLine, String.toList_append, List.mem_append, not_or]
  exact ⟨first, second⟩

theorem intercalate {separator : String} (between : IsOneLine separator) {texts : List String}
    (each : ∀ text ∈ texts, IsOneLine text) : IsOneLine (separator.intercalate texts) := by
  induction texts with
  | nil =>
      rw [String.intercalate_nil]
      decide
  | cons first others ih =>
      rw [List.forall_mem_cons] at each
      cases others with
      | nil =>
          rw [String.intercalate_singleton]
          exact each.1
      | cons second others =>
          rw [String.intercalate_cons_cons]
          exact (each.1.append between).append (ih each.2)

/-- Encoded, such a text holds no byte that ends a line. -/
theorem notMem_textBytes {text : String} (oneLine : IsOneLine text) : 0x0A ∉ textBytes text :=
  fun member => oneLine (Line.newline_mem_encode_iff.mp member)

theorem natural (number : Nat) : IsOneLine (toString number) := by
  intro newline
  exact absurd (Decimal.isDigit_of_mem_natural newline) (by decide)

theorem integer (number : Int) : IsOneLine (toString number) := by
  cases number with
  | ofNat number => exact natural number
  | negSucc number => exact append (by decide) (natural (number + 1))

theorem bracketed {items : List String} (each : ∀ item ∈ items, IsOneLine item) :
    IsOneLine (TickWire.bracketed items) :=
  ((by decide : IsOneLine "[").append (intercalate (by decide) each)).append (by decide)

theorem braced {name : String} (named : IsOneLine name) {parts : List (String × String)}
    (each : ∀ part ∈ parts, IsOneLine part.1 ∧ IsOneLine part.2) :
    IsOneLine (Diagnostic.braced name parts) := by
  have inner : IsOneLine (", ".intercalate (parts.map fun part => part.1 ++ ": " ++ part.2)) := by
    apply intercalate (by decide)
    intro text listed
    obtain ⟨part, member, rfl⟩ := List.mem_map.mp listed
    exact ((each part member).1.append (by decide)).append (each part member).2
  exact ((named.append (by decide)).append inner).append (by decide)

end IsOneLine

namespace Diagnostic

theorem isOneLine_header (shown : Header) : IsOneLine (header shown) := by
  apply IsOneLine.braced (by decide)
  simp only [List.forall_mem_cons, IsOneLine.natural, and_true]
  decide

theorem isOneLine_level (shown : PriceLevel) : IsOneLine (level shown) := by
  apply IsOneLine.braced (by decide)
  simp only [List.forall_mem_cons, IsOneLine.natural, IsOneLine.integer, and_true]
  decide

theorem isOneLine_value (shown : FieldValue) : IsOneLine (value shown) := by
  have each {α : Type} {text : α → String} (oneLine : ∀ element, IsOneLine (text element))
      (row : List α) : IsOneLine (bracketed (row.map text)) := by
    apply IsOneLine.bracketed
    intro item listed
    obtain ⟨element, -, rfl⟩ := List.mem_map.mp listed
    exact oneLine element
  match shown with
  | ⟨.word _ true, number⟩ => exact IsOneLine.integer _
  | ⟨.word _ false, number⟩ => exact IsOneLine.natural _
  | ⟨.text _, row⟩ => exact each (fun _ => IsOneLine.integer _) row.toList
  | ⟨.filler _, row⟩ => exact each (fun _ => IsOneLine.natural _) row.toList
  | ⟨.levels _, row⟩ => exact each isOneLine_level row.toList

theorem isOneLine_name (kind : RecordKind) : IsOneLine kind.name ∧ IsOneLine kind.variantName := by
  cases kind <;> decide

theorem isOneLine_fieldName (kind : RecordKind) : ∀ field ∈ kind.layout, IsOneLine field.name := by
  cases kind <;> decide +kernel

theorem mem_of_mem_entries {layout : Layout} {values : layout.Values} {field : Field}
    {held : FieldValue} (member : (field, held) ∈ Values.entries layout values) :
    field ∈ layout := by
  induction layout with
  | nil => cases member
  | cons first others ih =>
      rcases List.mem_cons.mp member with same | later
      · cases same
        exact List.mem_cons_self
      · exact List.mem_cons_of_mem _ (ih later)

theorem isOneLine_body {type : RecordType} (shown : Record type) : IsOneLine (body shown) := by
  apply IsOneLine.braced (isOneLine_name _).1
  have headerName : IsOneLine "hd" := by decide
  rw [List.forall_mem_cons]
  refine ⟨⟨headerName, isOneLine_header _⟩, ?_⟩
  intro part listed
  obtain ⟨⟨field, held⟩, member, rfl⟩ := List.mem_map.mp listed
  exact ⟨isOneLine_fieldName _ field (mem_of_mem_entries member), isOneLine_value held⟩

theorem isOneLine_record {type : RecordType} (shown : Record type) :
    IsOneLine (record shown) := by
  unfold record
  split
  next time _ =>
    apply IsOneLine.braced (by decide)
    simp only [List.forall_mem_cons, isOneLine_body, IsOneLine.natural, and_true]
    decide
  next => exact isOneLine_body shown

theorem isOneLine_variant {type : RecordType} (shown : Record type) :
    IsOneLine (variant shown) :=
  (((isOneLine_name _).2.append (by decide)).append (isOneLine_record shown)).append (by decide)

end Diagnostic

/-- Whatever a frame holds, it is shown in one line. -/
theorem RecordOutput.isOneLine_lineOf (frame : Frame) : IsOneLine (lineOf frame) := by
  unfold lineOf
  split
  next found _ => exact Diagnostic.isOneLine_variant found.record
  next => exact Diagnostic.isOneLine_header frame.header

end TickWire
