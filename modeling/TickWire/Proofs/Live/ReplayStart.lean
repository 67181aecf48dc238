import TickWire.Live.Handshake
import TickWire.Proofs.Live.Subscription
import TickWire.Proofs.Text.Line

/-!
# The time that a subscription replays from

A time in the words of the gateway goes into the line as it is.  The other fields of the line
are unbroken whatever they say, since symbols are refused that would break theirs, but the
words of the time are not looked at.  So the line is read as what was asked for exactly where
the words hold neither a bar nor a newline, and otherwise says something else.
-/

namespace TickWire

namespace Subscription

variable {symbols : List String} {schema : Schema} {symbology : Symbology} {text : String}
  {limit : Nat}

theorem isUnbroken_field {name : String} {value : List Char} :
    IsUnbroken (field name value) ↔ IsUnbroken name.toList ∧ IsUnbroken value := by
  have sign : IsUnbroken ['='] := by decide
  rw [field, ← List.singleton_append, isUnbroken_append, isUnbroken_append]
  simp only [sign, true_and]

/-- Names and their values as fields. -/
def fieldsOf (pairs : List (String × List Char)) : List (List Char) :=
  pairs.map fun pair => field pair.1 pair.2

/-- Fields whose names are unbroken are unbroken where their values are. -/
theorem forall_isUnbroken_fieldsOf {pairs : List (String × List Char)}
    (names : ∀ name ∈ pairs.map Prod.fst, IsUnbroken name.toList) :
    (∀ one ∈ fieldsOf pairs, IsUnbroken one) ↔
      ∀ value ∈ pairs.map Prod.snd, IsUnbroken value := by
  simp only [fieldsOf, List.forall_mem_map] at names ⊢
  constructor
  · intro each pair member
    exact (isUnbroken_field.mp (each pair member)).2
  · intro each pair member
    exact isUnbroken_field.mpr ⟨names pair member, each pair member⟩

/-- The fields of a line that asks for data from some time on, in the words of the gateway. -/
def fieldsFrom (symbols : List String) (schema : Schema) (symbology : Symbology)
    (text : String) : List (List Char) :=
  fieldsOf [("schema", (Spelled.spelling schema).toList),
    ("stype_in", (Spelled.spelling symbology).toList),
    ("symbols", symbolList symbols), ("start", text.toList)]

theorem sentStart?_of_text (asked : text ≠ "") :
    sentStart? ⟨symbols, schema, symbology, some (.text text)⟩ = some text := by
  have isSet : ReplayStart.isUnset (.text text) = false := by
    simpa [ReplayStart.isUnset] using asked
  simp [sentStart?, isSet, ReplayStart.spelling]

theorem line_of_text (asked : text ≠ "") :
    line ⟨symbols, schema, symbology, some (.text text)⟩ =
      Line.ofFields (fieldsFrom symbols schema symbology text) := by
  rw [line, body, fields, sentStart?_of_text asked]
  rfl

/-- Of the fields of a line only the time can be broken. -/
theorem forall_isUnbroken_fieldsFrom (listable : AreListable symbols) :
    (∀ one ∈ fieldsFrom symbols schema symbology text, IsUnbroken one) ↔
      IsUnbroken text.toList := by
  have plain {value : List Char} (isPlain : IsPlain value) : IsUnbroken value :=
    ⟨isPlain.notMem rfl, isPlain.notMem rfl⟩
  have listed : IsUnbroken (symbolList symbols) :=
    ⟨listable.notMem_symbolList rfl (by decide), listable.notMem_symbolList rfl (by decide)⟩
  have names : ∀ name ∈ ["schema", "stype_in", "symbols", "start"], IsUnbroken name.toList := by
    decide
  rw [fieldsFrom, forall_isUnbroken_fieldsOf (by exact names)]
  simp [plain (readsSpellings_schema.isPlain schema),
    plain (readsSpellings_symbology.isPlain symbology), listed]

/-- A line with a time in words is read as four fields exactly where the words are unbroken. -/
theorem hasFields_fieldsFrom (listable : AreListable symbols) {parts : List (List Char)}
    (four : parts.length = 4) :
    Line.HasFields (textBytes (Line.ofFields (fieldsFrom symbols schema symbology text))) parts ↔
      parts = fieldsFrom symbols schema symbology text ∧ IsUnbroken text.toList := by
  have nonempty : fieldsFrom symbols schema symbology text ≠ [] := List.cons_ne_nil _ _
  rw [Line.hasFields_iff nonempty four, forall_isUnbroken_fieldsFrom listable]

/-- A subscription from a time in words is refused for nothing but its length.  Its line is
read as the four fields that it is made of where the words hold neither a bar nor a newline,
and otherwise as no four fields. -/
theorem encode_start_text (symbols : List String) (schema : Schema) (symbology : Symbology)
    (text : String) (limit : Nat) (listable : AreListable symbols) (asked : text ≠ "") :
    let fields := fieldsFrom symbols schema symbology text
    let line := Line.ofFields fields
    encode limit ⟨symbols, schema, symbology, some (.text text)⟩ =
        (if limit < textLength line then
          .error (.configuration (.subscriptionTooLong (textLength line) limit))
        else .ok line) ∧
      ∀ parts, parts.length = 4 →
        (Line.HasFields (textBytes line) parts ↔
          parts = fields ∧ '|' ∉ text.toList ∧ '\n' ∉ text.toList) := by
  intro fields line
  constructor
  · rw [encode_of_listable listable, line_of_text asked]
  · intro parts four
    rw [hasFields_fieldsFrom listable four, isUnbroken_iff]

/-- Words that are read back, and words that are refused since the line is too long by one. -/
theorem encode_start_text_of_date :
    let line := "schema=trades|stype_in=raw_symbol|symbols=ESM4|start=2024-01-01\n"
    encode 64 ⟨["ESM4"], .trades, .rawSymbol, some (.text "2024-01-01")⟩ = .ok line ∧
      Line.HasFields (textBytes line) [field "schema" "trades".toList,
        field "stype_in" "raw_symbol".toList, field "symbols" "ESM4".toList,
        field "start" "2024-01-01".toList] ∧
      encode 63 ⟨["ESM4"], .trades, .rawSymbol, some (.text "2024-01-01")⟩ =
        .error (.configuration (.subscriptionTooLong 64 63)) := by
  intro line
  have listable : AreListable ["ESM4"] := ⟨by decide, by decide⟩
  have run (limit : Nat) := encode_start_text ["ESM4"] .trades .rawSymbol "2024-01-01" limit
    listable (by decide)
  refine ⟨(run 64).1, ?_, (run 63).1⟩
  exact ((run 64).2 _ rfl).mpr ⟨rfl, by decide, by decide⟩

/-- Words with a newline make two lines of what is written, and the second starts the session. -/
theorem encode_start_text_injects :
    let line := "schema=trades|stype_in=raw_symbol|symbols=ESM4|start=2024-01-01\n" ++ startLine
    encode 65536 ⟨["ESM4"], .trades, .rawSymbol, some (.text "2024-01-01\nstart_session")⟩ =
        .ok line ∧
      ¬∃ parts, parts.length = 4 ∧ Line.HasFields (textBytes line) parts := by
  intro line
  have listable : AreListable ["ESM4"] := ⟨by decide, by decide⟩
  have asked : "2024-01-01\nstart_session" ≠ "" := by decide
  have made : line = Line.ofFields
      (fieldsFrom ["ESM4"] .trades .rawSymbol "2024-01-01\nstart_session") := by decide
  constructor
  · rw [encode_of_listable listable, line_of_text asked, ← made]
    exact if_neg (by decide)
  · rintro ⟨parts, four, read⟩
    rw [made] at read
    have unbroken := ((hasFields_fieldsFrom listable four).mp read).2
    exact absurd unbroken.noNewline (by decide)

end Subscription

end TickWire
