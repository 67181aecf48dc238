import Mathlib.Data.List.Basic
import TickWire.Live.Subscription
import TickWire.Proofs.Outcome
import TickWire.Proofs.Text.Utf8

/-!
# The line of a subscription

The line says what it was made of.  None of the characters that divide it stands in a symbol
that is accepted, in a spelling or in a number, so dividing the line at bars gives its parts,
and dividing the list of symbols at commas gives the symbols.  A line is refused for its
symbols or for its length, and for nothing else.
-/

namespace TickWire

/-! ## Plain texts -/

/-- A text without characters that would change the shape of a line. -/
def IsPlain (text : List Char) : Prop := ∀ char ∈ text, isReserved char = false

instance (text : List Char) : Decidable (IsPlain text) :=
  decidable_of_iff (text.all fun char => !isReserved char) (by simp [IsPlain])

theorem isReserved_iff_mem {char : Char} :
    isReserved char = true ↔ char ∈ [',', '|', '\n', '\r'] := by
  simp [isReserved, or_assoc]

theorem isPlain_iff {text : List Char} :
    IsPlain text ↔ ∀ char ∈ text, char ∉ [',', '|', '\n', '\r'] := by
  simp only [IsPlain, ← isReserved_iff_mem, Bool.not_eq_true]

theorem IsPlain.notMem {text : List Char} (plain : IsPlain text) {char : Char}
    (reserved : isReserved char = true) : char ∉ text := by
  intro member
  rw [plain char member] at reserved
  cases reserved

theorem isPlain_natural (number : Nat) : IsPlain (Decimal.natural number) := by
  rw [isPlain_iff]
  intro char member reserved
  have digit := Decimal.isDigit_of_mem_natural member
  simp only [List.mem_cons, List.not_mem_nil, or_false] at reserved
  rcases reserved with rfl | rfl | rfl | rfl <;> contradiction

/-- Every member has a plain spelling, which is read as the member. -/
structure ReadsSpellings (α : Type) [Spelled α] : Prop where
  isPlain : ∀ member : α, IsPlain (Spelled.spelling member).toList
  ofSpelling?_spelling : ∀ member : α,
    Spelled.ofSpelling? (Spelled.spelling member) = some member

theorem readsSpellings_schema : ReadsSpellings Schema where
  isPlain member := by cases member <;> decide
  ofSpelling?_spelling member := by cases member <;> decide

theorem readsSpellings_symbology : ReadsSpellings Symbology where
  isPlain member := by cases member <;> decide
  ofSpelling?_spelling member := by cases member <;> decide

/-! ## Symbols -/

/-- Symbols that can be listed: there is one, none is empty, and all are plain. -/
structure AreListable (symbols : List String) : Prop where
  nonempty : symbols ≠ []
  each : ∀ symbol ∈ symbols, symbol ≠ "" ∧ IsPlain symbol.toList

theorem areListable_iff {symbols : List String} :
    AreListable symbols ↔
      symbols ≠ [] ∧ ∀ symbol ∈ symbols, symbol ≠ "" ∧ IsPlain symbol.toList :=
  ⟨fun listable => ⟨listable.nonempty, listable.each⟩, fun ⟨nonempty, each⟩ => ⟨nonempty, each⟩⟩

theorem not_areListable_iff {symbols : List String} :
    ¬AreListable symbols ↔ symbols = [] ∨ ∃ symbol ∈ symbols,
      symbol = "" ∨ ∃ char ∈ symbol.toList, char ∈ [',', '|', '\n', '\r'] := by
  simp only [areListable_iff, isPlain_iff, not_and_or, not_forall, not_not, exists_prop]

theorem checkSymbols_eq_ok_iff (index : Nat) (symbols : List String) :
    checkSymbols index symbols = .ok () ↔
      ∀ symbol ∈ symbols, symbol ≠ "" ∧ IsPlain symbol.toList := by
  induction symbols generalizing index with
  | nil => simp [checkSymbols]
  | cons symbol others ih =>
      rw [checkSymbols, List.forall_mem_cons]
      split
      next empty =>
        have isEmpty : symbol = "" := by simpa using empty
        simp [isEmpty]
      next nonempty =>
        have notEmpty : symbol ≠ "" := by simpa using nonempty
        split
        next reserved =>
          obtain ⟨char, member, isReserved⟩ := List.any_eq_true.mp reserved
          have notPlain : ¬IsPlain symbol.toList := fun plain => plain.notMem isReserved member
          simp [notPlain]
        next unreserved =>
          have plain : IsPlain symbol.toList := by simpa [IsPlain] using unreserved
          simp only [ih, notEmpty, plain, ne_eq, not_false_eq_true, and_self, true_and]

/-- The symbols between commas. -/
def symbolList (symbols : List String) : List Char :=
  Segment.join ',' (symbols.map String.toList)

theorem joinSymbols_eq_ok_iff {symbols : List String} {joined : String} :
    joinSymbols symbols = .ok joined ↔
      AreListable symbols ∧ joined = String.ofList (symbolList symbols) := by
  cases symbols with
  | nil =>
      constructor
      · intro joins
        cases joins
      · exact fun ⟨listable, _⟩ => absurd rfl listable.nonempty
  | cons symbol others =>
      have joins : joinSymbols (symbol :: others) =
          (checkSymbols 0 (symbol :: others)).map
            fun _ => String.ofList (symbolList (symbol :: others)) := rfl
      rw [joins, areListable_iff, ← checkSymbols_eq_ok_iff 0]
      cases checkSymbols 0 (symbol :: others) with
      | error error => simp
      | ok done => simp [eq_comm]

namespace AreListable

variable {symbols : List String}

/-- The symbols are found between the commas of their list. -/
theorem split_symbolList (listable : AreListable symbols) :
    Segment.split ',' (symbolList symbols) = symbols.map String.toList := by
  apply Segment.split_join
  · simpa using listable.nonempty
  · intro text member
    obtain ⟨symbol, listed, rfl⟩ := List.mem_map.mp member
    exact (listable.each symbol listed).2.notMem rfl

/-- A list of symbols holds nothing reserved but commas. -/
theorem notMem_symbolList (listable : AreListable symbols) {char : Char}
    (reserved : isReserved char = true) (noComma : char ≠ ',') :
    char ∉ symbolList symbols := by
  intro member
  rcases Segment.eq_or_mem_of_mem_join member with isComma | ⟨text, inTexts, inText⟩
  · exact noComma isComma
  · obtain ⟨symbol, listed, rfl⟩ := List.mem_map.mp inTexts
    exact (listable.each symbol listed).2.notMem reserved inText

end AreListable

namespace Subscription

/-! ## Fields -/

/-- A field of a line. -/
def field (name : String) (value : List Char) : List Char := name.toList ++ '=' :: value

/-- The time that is sent, if one is. -/
def sentStart? (subscription : Subscription) : Option String :=
  (subscription.start?.filter fun start => !start.isUnset).map ReplayStart.spelling

/-- The fields of the line of a subscription. -/
def fields (subscription : Subscription) : List (List Char) :=
  field "schema" (Spelled.spelling subscription.schema).toList ::
    field "stype_in" (Spelled.spelling subscription.symbology).toList ::
    field "symbols" (symbolList subscription.symbols) ::
    subscription.sentStart?.toList.map fun start => field "start" start.toList

/-- The line of a subscription, without its end. -/
def body (subscription : Subscription) : List Char := Segment.join '|' subscription.fields

/-- The line of a subscription, if nothing stands against it. -/
def line (subscription : Subscription) : String :=
  String.ofList (subscription.body ++ ['\n'])

theorem startText_eq (subscription : Subscription) :
    subscription.startText =
      match subscription.sentStart? with
      | none => ""
      | some start => "|start=" ++ start := by
  unfold startText sentStart?
  cases subscription.start? with
  | none => rfl
  | some start => cases unset : start.isUnset <;> simp [Option.filter_some, unset]

/-- The line is what its pieces make when they are put one after the other. -/
theorem line_eq (subscription : Subscription) :
    subscription.line =
      "schema=" ++ Spelled.spelling subscription.schema
        ++ "|stype_in=" ++ Spelled.spelling subscription.symbology
        ++ "|symbols=" ++ String.ofList (symbolList subscription.symbols)
        ++ subscription.startText ++ "\n" := by
  rw [startText_eq, line, body, fields, ← String.toList_inj]
  cases subscription.sentStart? <;> simp [field, Segment.join]

/-- With symbols that can be listed, only the length stands against a line. -/
theorem encode_of_listable {subscription : Subscription}
    (listable : AreListable subscription.symbols) (limit : Nat) :
    subscription.encode limit =
      if limit < textLength subscription.line then
        .error (.configuration (.subscriptionTooLong (textLength subscription.line) limit))
      else .ok subscription.line := by
  rw [encode, joinSymbols_eq_ok_iff.mpr ⟨listable, rfl⟩, ok_bind]
  simp only [← line_eq]
  rfl

/-- A line is given exactly for symbols that can be listed and within the limit. -/
theorem encode_eq_ok_iff {limit : Nat} {subscription : Subscription} {line : String} :
    subscription.encode limit = .ok line ↔
      AreListable subscription.symbols ∧ textLength subscription.line ≤ limit ∧
        line = subscription.line := by
  constructor
  · intro encoded
    obtain ⟨joined, joins, written⟩ := ok_of_bind encoded
    obtain ⟨listable, rfl⟩ := joinSymbols_eq_ok_iff.mp joins
    simp only [← line_eq] at written
    by_cases long : limit < textLength subscription.line
    · rw [if_pos long] at written
      cases written
    · rw [if_neg long] at written
      cases written
      exact ⟨listable, Nat.le_of_not_lt long, rfl⟩
  · rintro ⟨listable, within, rfl⟩
    rw [encode_of_listable listable, if_neg (Nat.not_lt_of_le within)]

theorem exists_error_iff {limit : Nat} {subscription : Subscription} :
    (∃ error, subscription.encode limit = .error error) ↔
      ¬AreListable subscription.symbols ∨ limit < textLength subscription.line := by
  cases encoded : subscription.encode limit with
  | error error =>
      have refused : ∀ line, subscription.encode limit ≠ .ok line := by simp [encoded]
      simp only [ne_eq, encode_eq_ok_iff, not_and] at refused
      refine iff_of_true ⟨error, rfl⟩ (Decidable.or_iff_not_imp_right.mpr ?_)
      exact fun within listable => refused _ listable (Nat.le_of_not_lt within) rfl
  | ok line =>
      obtain ⟨listable, within, -⟩ := encode_eq_ok_iff.mp encoded
      refine iff_of_false nofun ?_
      exact fun against => against.elim (absurd listable) (Nat.not_lt_of_le within)

/-- No character that ends a line or a field stands in a field, unless it is in the time
that data is replayed from. -/
theorem notMem_of_mem_fields {subscription : Subscription}
    (listable : AreListable subscription.symbols)
    (plain : ∀ start ∈ subscription.sentStart?, IsPlain start.toList)
    {char : Char} (reserved : isReserved char = true) (noComma : char ≠ ',') :
    ∀ text ∈ subscription.fields, char ∉ text := by
  have each : ∀ (name : String) (value : List Char), IsPlain name.toList → char ∉ value →
      char ∉ field name value := by
    intro name value plainName noneInValue
    have noSign : char ≠ '=' := by
      rintro rfl
      cases reserved
    simp [field, plainName.notMem reserved, noSign, noneInValue]
  intro text member
  simp only [fields, List.mem_cons, List.mem_map, Option.mem_toList] at member
  rcases member with rfl | rfl | rfl | ⟨start, sent, rfl⟩
  · exact each _ _ (by decide) ((readsSpellings_schema.isPlain _).notMem reserved)
  · exact each _ _ (by decide) ((readsSpellings_symbology.isPlain _).notMem reserved)
  · exact each _ _ (by decide) (listable.notMem_symbolList reserved noComma)
  · exact each _ _ (by decide) ((plain start sent).notMem reserved)

theorem split_body {subscription : Subscription} (listable : AreListable subscription.symbols)
    (plain : ∀ start ∈ subscription.sentStart?, IsPlain start.toList) :
    Segment.split '|' subscription.body = subscription.fields :=
  Segment.split_join (List.cons_ne_nil _ _)
    (notMem_of_mem_fields listable plain (by decide) (by decide))

/-- The line ends where its first newline is. -/
theorem newline_notMem_body {subscription : Subscription}
    (listable : AreListable subscription.symbols)
    (plain : ∀ start ∈ subscription.sentStart?, IsPlain start.toList) :
    0x0A ∉ Utf8.encode subscription.body := by
  intro member
  rcases Segment.eq_or_mem_of_mem_join (Utf8.mem_of_mem_encode member (by decide)) with
    isBar | ⟨text, listed, inText⟩
  · exact absurd isBar (by decide)
  · exact notMem_of_mem_fields listable plain (by decide) (by decide) text listed inText

/-! ## Lines without a time or with one in nanoseconds -/

/-- A line ends with its only newline, and before that has fields between bars that are read
as symbols, a schema, a symbology and, if there is one, a time. -/
def IsReadAs (line : String) (symbols : List String) (schema : Schema) (symbology : Symbology)
    (time? : Option UInt64) : Prop :=
  ∃ (body schemaText symbologyText symbolsText : List Char) (startTexts : List (List Char)),
    line = String.ofList (body ++ ['\n']) ∧ 0x0A ∉ Utf8.encode body ∧
    Segment.split '|' body =
      field "schema" schemaText :: field "stype_in" symbologyText ::
        field "symbols" symbolsText :: startTexts.map (field "start") ∧
    Spelled.ofSpelling? (String.ofList schemaText) = some schema ∧
    Spelled.ofSpelling? (String.ofList symbologyText) = some symbology ∧
    Segment.split ',' symbolsText = symbols.map String.toList ∧
    startTexts.map (fun text => Decimal.parseU64? (String.ofList text)) = time?.toList.map some

variable {symbols : List String} {schema : Schema} {symbology : Symbology}
  {time? : Option UInt64}

theorem sentStart?_of_time :
    sentStart? ⟨symbols, schema, symbology, time?.map .nanoseconds⟩ =
      (time?.filter (· ≠ 0)).map fun time => toString time.toNat := by
  cases time? with
  | none => rfl
  | some time =>
      by_cases unset : time = 0 <;>
        simp [sentStart?, ReplayStart.isUnset, ReplayStart.spelling, Option.filter_some, unset]

/-- The times that are sent are read back. -/
theorem parseU64?_map_toString (time? : Option UInt64) :
    ((time?.map fun time => toString time.toNat).toList.map String.toList).map
        (fun text => Decimal.parseU64? (String.ofList text)) =
      time?.toList.map some := by
  cases time? with
  | none => rfl
  | some time =>
      have readBack : Decimal.parseU64? (String.ofList (toString time.toNat).toList) =
          some time := by
        rw [String.ofList_toList, Decimal.parseU64?_toString]
      exact congrArg (fun read => [read]) readBack

theorem isReadAs_line (listable : AreListable symbols) (schema : Schema)
    (symbology : Symbology) (time? : Option UInt64) :
    IsReadAs (line ⟨symbols, schema, symbology, time?.map .nanoseconds⟩) symbols schema symbology
      (time?.filter (· ≠ 0)) := by
  let subscription : Subscription := ⟨symbols, schema, symbology, time?.map .nanoseconds⟩
  have sent : subscription.sentStart? =
      (time?.filter (· ≠ 0)).map fun time => toString time.toNat :=
    sentStart?_of_time
  have plain : ∀ start ∈ subscription.sentStart?, IsPlain start.toList := by
    intro start isSent
    rw [sent] at isSent
    obtain ⟨time, -, rfl⟩ := Option.map_eq_some_iff.mp isSent
    exact isPlain_natural time.toNat
  refine ⟨subscription.body, (Spelled.spelling schema).toList,
    (Spelled.spelling symbology).toList, symbolList symbols,
    subscription.sentStart?.toList.map String.toList, rfl,
    newline_notMem_body listable plain, ?_, ?_, ?_, listable.split_symbolList, ?_⟩
  · rw [split_body listable plain, fields, List.map_map]
    rfl
  · rw [String.ofList_toList]
    exact readsSpellings_schema.ofSpelling?_spelling schema
  · rw [String.ofList_toList]
    exact readsSpellings_symbology.ofSpelling?_spelling symbology
  · rw [sent]
    exact parseU64?_map_toString _

theorem field_injective (name : String) : (field name).Injective := by
  intro one two same
  simpa [field] using same

/-- A line is read in one way only. -/
theorem IsReadAs.unique {line : String} {otherSymbols : List String} {otherSchema : Schema}
    {otherSymbology : Symbology} {otherTime? : Option UInt64}
    (one : IsReadAs line symbols schema symbology time?)
    (two : IsReadAs line otherSymbols otherSchema otherSymbology otherTime?) :
    symbols = otherSymbols ∧ schema = otherSchema ∧ symbology = otherSymbology ∧
      time? = otherTime? := by
  obtain ⟨body, schemaText, symbologyText, symbolsText, startTexts, rfl, -, parts, readSchema,
    readSymbology, readSymbols, readTime⟩ := one
  obtain ⟨otherBody, _, _, _, _, same, -, otherParts, readOtherSchema, readOtherSymbology,
    readOtherSymbols, readOtherTime⟩ := two
  obtain rfl : body = otherBody := List.append_cancel_right (String.ofList_injective same)
  rw [parts] at otherParts
  simp only [List.cons.injEq, (field_injective _).eq_iff] at otherParts
  obtain ⟨rfl, rfl, rfl, starts⟩ := otherParts
  obtain rfl := List.map_injective_iff.mpr (field_injective _) starts
  refine ⟨?_, ?_, ?_, ?_⟩
  · apply List.map_injective_iff.mpr fun one two => String.toList_inj.mp
    exact readSymbols.symm.trans readOtherSymbols
  · exact Option.some.inj (readSchema.symm.trans readOtherSchema)
  · exact Option.some.inj (readSymbology.symm.trans readOtherSymbology)
  · have times : time?.toList.map some = otherTime?.toList.map some :=
      readTime.symm.trans readOtherTime
    cases time? <;> cases otherTime? <;> simp_all

/-- What a subscription asks for is read off its line in one way. -/
theorem encode_unambiguous (symbols : List String) (schema : Schema) (symbology : Symbology)
    (time? : Option UInt64) (limit : Nat) :
    let subscription : Subscription := ⟨symbols, schema, symbology, time?.map .nanoseconds⟩
    ((∃ error, subscription.encode limit = .error error) ↔
      symbols = [] ∨
      (∃ symbol ∈ symbols, symbol = "" ∨
        ∃ char ∈ symbol.toList, char ∈ [',', '|', '\n', '\r']) ∨
      limit < textLength subscription.line) ∧
    ∀ line, subscription.encode limit = .ok line →
      line = subscription.line ∧ textLength line ≤ limit ∧
        IsReadAs line symbols schema symbology (time?.filter (· ≠ 0)) ∧
        ∀ otherSymbols otherSchema otherSymbology otherTime?,
          IsReadAs line otherSymbols otherSchema otherSymbology otherTime? →
          otherSymbols = symbols ∧ otherSchema = schema ∧ otherSymbology = symbology ∧
            otherTime? = time?.filter (· ≠ 0) := by
  intro subscription
  constructor
  · rw [exists_error_iff, not_areListable_iff, or_assoc]
  · intro line encoded
    obtain ⟨listable, within, rfl⟩ := encode_eq_ok_iff.mp encoded
    have reads := isReadAs_line listable schema symbology time?
    exact ⟨rfl, within, reads, fun _ _ _ _ readsOther => readsOther.unique reads⟩

theorem encode_unambiguous_two_symbols :
    encode 64 ⟨["ESM4", "É"], .trades, .rawSymbol, some (.nanoseconds 5)⟩ =
        .ok "schema=trades|stype_in=raw_symbol|symbols=ESM4,É|start=5\n" ∧
      IsReadAs "schema=trades|stype_in=raw_symbol|symbols=ESM4,É|start=5\n" ["ESM4", "É"]
        .trades .rawSymbol (some 5) ∧
      ∃ error, encode 64 ⟨["ESM4", "É|"], .trades, .rawSymbol, some (.nanoseconds 5)⟩ =
        .error error := by
  have encoded : encode 64 ⟨["ESM4", "É"], .trades, .rawSymbol, some (.nanoseconds 5)⟩ =
      .ok "schema=trades|stype_in=raw_symbol|symbols=ESM4,É|start=5\n" := by
    rfl
  have reserved : ∃ symbol ∈ ["ESM4", "É|"], symbol = "" ∨
      ∃ char ∈ symbol.toList, char ∈ [',', '|', '\n', '\r'] :=
    ⟨"É|", by decide, .inr ⟨'|', by decide, by decide⟩⟩
  refine ⟨encoded, ?_, ?_⟩
  · exact ((encode_unambiguous ["ESM4", "É"] .trades .rawSymbol (some 5) 64).2 _ encoded).2.2.1
  · exact (encode_unambiguous ["ESM4", "É|"] .trades .rawSymbol (some 5) 64).1.mpr
      (.inr (.inl reserved))

end Subscription

end TickWire
