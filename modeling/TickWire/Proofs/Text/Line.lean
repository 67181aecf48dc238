import TickWire.Proofs.Text.Utf8
import TickWire.Text.Segment

/-!
# Lines of fields

What a client writes is a row of fields with bars between them, and then a newline.  Who
reads it takes everything up to the first newline as the line, and divides that at bars.  So
the fields are read as they were written exactly where none of them holds a bar or a newline.
-/

namespace TickWire

/-- A text that ends neither a field nor a line. -/
structure IsUnbroken (text : List Char) : Prop where
  noBar : '|' ∉ text
  noNewline : '\n' ∉ text

theorem isUnbroken_iff {text : List Char} :
    IsUnbroken text ↔ '|' ∉ text ∧ '\n' ∉ text :=
  ⟨fun unbroken => ⟨unbroken.noBar, unbroken.noNewline⟩,
    fun ⟨noBar, noNewline⟩ => ⟨noBar, noNewline⟩⟩

instance (text : List Char) : Decidable (IsUnbroken text) :=
  decidable_of_iff _ isUnbroken_iff.symm

theorem isUnbroken_append {front back : List Char} :
    IsUnbroken (front ++ back) ↔ IsUnbroken front ∧ IsUnbroken back := by
  simp only [isUnbroken_iff, List.mem_append, not_or]
  exact and_and_and_comm

namespace Line

/-- The line of some fields. -/
def ofFields (fields : List (List Char)) : String :=
  String.ofList (Segment.join '|' fields ++ ['\n'])

/-- Bytes are one line, which ends with its only newline, and bars divide it into fields. -/
def HasFields (bytes : Bytes) (fields : List (List Char)) : Prop :=
  ∃ body, bytes = Utf8.encode body ++ [0x0A] ∧ 0x0A ∉ Utf8.encode body ∧
    Segment.split '|' body = fields

variable {fields others : List (List Char)}

theorem textBytes_ofFields (fields : List (List Char)) :
    textBytes (ofFields fields) = Utf8.encode (Segment.join '|' fields) ++ [0x0A] := by
  rw [textBytes, ofFields, String.toList_ofList, Utf8.encode_append]
  rfl

theorem newline_mem_encode_iff {text : List Char} :
    0x0A ∈ Utf8.encode text ↔ '\n' ∈ text := by
  constructor
  · exact fun member => Utf8.mem_of_mem_encode member (by decide)
  · exact fun member => Utf8.mem_encode_of_mem member (by decide)

/-- Bytes are divided in one way only. -/
theorem hasFields_textBytes_ofFields :
    HasFields (textBytes (ofFields fields)) others ↔
      '\n' ∉ Segment.join '|' fields ∧ Segment.split '|' (Segment.join '|' fields) = others := by
  rw [HasFields, textBytes_ofFields]
  constructor
  · rintro ⟨body, same, oneLine, parts⟩
    obtain rfl := Utf8.encode_injective (List.append_cancel_right same)
    rw [newline_mem_encode_iff] at oneLine
    exact ⟨oneLine, parts⟩
  · rintro ⟨oneLine, parts⟩
    exact ⟨Segment.join '|' fields, rfl, by rwa [newline_mem_encode_iff], parts⟩

/-- A line is read as so many fields as it was made of exactly where none of these is broken,
and then as these. -/
theorem hasFields_iff (nonempty : fields ≠ []) (count : others.length = fields.length) :
    HasFields (textBytes (ofFields fields)) others ↔
      others = fields ∧ ∀ field ∈ fields, IsUnbroken field := by
  rw [hasFields_textBytes_ofFields]
  constructor
  · rintro ⟨oneLine, rfl⟩
    have noBar := Segment.forall_notMem_of_length_split_join count
    refine ⟨Segment.split_join nonempty noBar, fun field listed => ⟨noBar field listed, ?_⟩⟩
    exact fun inField => oneLine (Segment.mem_join_of_mem listed inField)
  · rintro ⟨rfl, unbroken⟩
    refine ⟨?_, Segment.split_join nonempty fun field listed => (unbroken field listed).noBar⟩
    intro member
    rcases Segment.eq_or_mem_of_mem_join member with isBar | ⟨field, listed, inField⟩
    · exact absurd isBar (by decide)
    · exact (unbroken field listed).noNewline inField

end Line

end TickWire
