import TickWire.Metadata.Encode
import TickWire.Proofs.Metadata.Reader
import TickWire.Proofs.Text.Terminated
import TickWire.Proofs.Time.Date

/-!
# Fields of metadata

The bytes that are written for each kind of field, and that they are read back: numbers,
texts, codes and dates, then lists of them.
-/

namespace TickWire

/-! ## Numbers -/

theorem fixedNumber_eq {size number : Nat} (small : number < LittleEndian.capacity size)
    (name : String) :
    fixedNumber size name number = .ok (LittleEndian.encode size number) :=
  if_pos small

theorem small_of_fixedNumber {width number : Nat} {name : String} {bytes : Bytes}
    (accepted : fixedNumber width name number = .ok bytes) :
    number < LittleEndian.capacity width ∧ bytes = LittleEndian.encode width number := by
  unfold fixedNumber at accepted
  split at accepted
  next small =>
    cases accepted
    exact ⟨small, rfl⟩
  next => cases accepted

theorem length_of_fixedNumber {width number : Nat} {name : String} {bytes : Bytes}
    (accepted : fixedNumber width name number = .ok bytes) : bytes.length = width := by
  rw [(small_of_fixedNumber accepted).2, LittleEndian.length_encode]

/-! ## Texts -/

/-- A text in a field of some width, followed by zero bytes. -/
def paddedText (width : Nat) (text : String) : Bytes :=
  textBytes text ++ List.replicate (width - textLength text) 0

/-- A text that a field of some width can hold. -/
structure FitsField (width : Nat) (text : String) : Prop where
  plain : ∀ char ∈ text.toList, 0 < char.toNat ∧ char.toNat < 0x80
  short : textLength text < width

instance (width : Nat) (text : String) : Decidable (FitsField width text) :=
  decidable_of_decidable_of_iff
    (p := text.toList.all (fun char => decide (0 < char.toNat ∧ char.toNat < 0x80)) = true ∧
      textLength text < width)
    ⟨fun ⟨plain, short⟩ =>
        ⟨fun char member => of_decide_eq_true (List.all_eq_true.mp plain char member), short⟩,
      fun ⟨plain, short⟩ =>
        ⟨List.all_eq_true.mpr fun char member => decide_eq_true (plain char member), short⟩⟩

theorem fixedText_eq_ok_iff {width : Nat} {text : String} {bytes : Bytes} :
    fixedText width text = .ok bytes ↔ (∀ char ∈ text.toList, char.toNat < 0x80) ∧
      textLength text < width ∧ bytes = paddedText width text := by
  have ascii : text.toList.all (fun char => decide (char.toNat < 0x80)) = true ↔
      ∀ char ∈ text.toList, char.toNat < 0x80 := by
    simp only [List.all_eq_true, decide_eq_true_eq]
  rw [← ascii]
  unfold fixedText
  split
  next foreign =>
    rw [Bool.not_eq_true'] at foreign
    exact iff_of_false nofun fun ⟨plain, _⟩ => Bool.false_ne_true (foreign.symm.trans plain)
  next plain =>
    rw [Bool.not_eq_true', Bool.not_eq_false] at plain
    rw [and_iff_right plain]
    split
    next long => exact iff_of_false nofun fun ⟨short, _⟩ => Nat.not_le.mpr short long
    next short =>
      rw [Except.ok.injEq, and_iff_right (Nat.lt_of_not_le short)]
      exact eq_comm

/-- Whatever text is written, it fills its field. -/
theorem length_of_fixedText {width : Nat} {text : String} {bytes : Bytes}
    (accepted : fixedText width text = .ok bytes) : bytes.length = width := by
  obtain ⟨-, short, rfl⟩ := fixedText_eq_ok_iff.mp accepted
  rw [paddedText, List.length_append, List.length_replicate, ← textLength]
  omega

/-- A text in a field is read up to its first zero character. -/
theorem BlockReader.textOf_paddedText (field : String) (width : Nat) (text : String) :
    textOf field (paddedText width text) = .ok (Terminated.beforeZero text) := by
  have decoded := Terminated.decode_content_padded text (width - textLength text)
  rw [Terminated.content] at decoded
  rw [textOf, paddedText, decoded]
  rfl

namespace FitsField

variable {width : Nat} {text : String}

theorem fixedText_eq (fits : FitsField width text) :
    fixedText width text = .ok (paddedText width text) :=
  fixedText_eq_ok_iff.mpr ⟨fun char member => (fits.plain char member).2, fits.short, rfl⟩

theorem length_paddedText (fits : FitsField width text) :
    (paddedText width text).length = width :=
  length_of_fixedText fits.fixedText_eq

/-- A text that fits is read back. -/
theorem textOf_eq (fits : FitsField width text) (field : String) :
    BlockReader.textOf field (paddedText width text) = .ok text := by
  rw [BlockReader.textOf_paddedText, Terminated.beforeZero_eq_self_iff.mpr]
  exact fun member => Nat.lt_irrefl 0 (fits.plain _ member).1

end FitsField

namespace BlockReader

theorem reads_number {width number : Nat} (small : number < LittleEndian.capacity width)
    (field : String) :
    Reads (BlockReader.number width field) (LittleEndian.encode width number) number := by
  refine (Reads.take (LittleEndian.length_encode _ _) field).bind_nil ?_
  rw [LittleEndian.decode_encode, Nat.mod_eq_of_lt small]
  exact .pure number

theorem reads_text {width : Nat} {text : String} (fits : FitsField width text)
    (field : String) : Reads (BlockReader.text width field) (paddedText width text) text :=
  (Reads.take fits.length_paddedText field).bind_nil (.lift (fits.textOf_eq field))

/-! ## Codes and dates -/

/-- Every member has a code below that of none, and the code is read as the member. -/
structure ReadsCodes (α : Type) [Coded α] (null : Nat) : Prop where
  code_lt : ∀ member : α, Coded.code member < null
  ofCode?_code : ∀ member : α, Coded.ofCode? (Coded.code member) = some member

theorem readsCodes_schema : ReadsCodes Schema nullSchema where
  code_lt member := by cases member <;> decide
  ofCode?_code member := by cases member <;> rfl

theorem readsCodes_symbology : ReadsCodes Symbology nullSymbology where
  code_lt member := by cases member <;> decide
  ofCode?_code member := by cases member <;> rfl

theorem ReadsCodes.code_lt_of_lt {α : Type} [Coded α] {null bound : Nat}
    (codes : ReadsCodes α null) (small : null < bound) (member : α) :
    Coded.code member < bound :=
  Nat.lt_trans (codes.code_lt member) small

section Codes

variable {α : Type} [Coded α] {null : Nat}

theorem member_eq (codes : ReadsCodes α null) (member : α) :
    BlockReader.member α (Coded.code member) = .ok member := by
  rw [BlockReader.member, codes.ofCode?_code]

theorem reads_optionalMember (codes : ReadsCodes α null) {width : Nat}
    (small : null < LittleEndian.capacity width) (choice : Option α) (field : String) :
    Reads (optionalMember α width null field)
      (LittleEndian.encode width (choice.elim null Coded.code)) choice := by
  cases choice with
  | none =>
      refine (reads_number small field).bind_nil ?_
      rw [if_pos rfl]
      exact .pure none
  | some member =>
      have below := codes.code_lt member
      refine (reads_number (codes.code_lt_of_lt small member) field).bind_nil ?_
      rw [if_neg (Nat.ne_of_lt below)]
      exact (Reads.lift (member_eq codes member)).nil_bind (.pure _)

end Codes

theorem dateOf_packed (date : Date) : dateOf date.packed = .ok date := by
  have month := date.isDate.month_bounds
  have inYear : ¬(date.month < 1 ∨ 12 < date.month) := by omega
  simp only [dateOf, date.month_of_packed, if_neg inYear, date.ofPacked?_packed]

theorem reads_date (date : Date) (field : String) :
    Reads (BlockReader.date field) (LittleEndian.encode 4 date.packed) date :=
  (reads_number (Nat.lt_trans date.packed_lt (by decide)) field).bind_nil
    (.lift (dateOf_packed date))

end BlockReader

/-! ## Lists of texts -/

/-- Texts in fields of some width, one after the other. -/
def paddedTexts (width : Nat) (texts : List String) : Bytes :=
  texts.flatMap (paddedText width)

/-- The number of texts, and the texts. -/
def countedTexts (width : Nat) (texts : List String) : Bytes :=
  LittleEndian.encode 4 texts.length ++ paddedTexts width texts

section Texts

variable {width : Nat} {texts : List String}

theorem fixedTexts_eq (fit : ∀ text ∈ texts, FitsField width text) :
    fixedTexts width texts = .ok (paddedTexts width texts) := by
  induction texts with
  | nil => rfl
  | cons first others ih =>
      rw [List.forall_mem_cons] at fit
      rw [fixedTexts, fit.1.fixedText_eq, ok_bind, ih fit.2, ok_bind]
      rfl

theorem length_of_fixedTexts {bytes : Bytes}
    (accepted : fixedTexts width texts = .ok bytes) : bytes.length = texts.length * width := by
  induction texts generalizing bytes with
  | nil =>
      cases accepted
      simp
  | cons first others ih =>
      obtain ⟨head, acceptedFirst, accepted⟩ := ok_of_bind accepted
      obtain ⟨tail, acceptedOthers, accepted⟩ := ok_of_bind accepted
      cases accepted
      rw [List.length_append, length_of_fixedText acceptedFirst, ih acceptedOthers,
        List.length_cons, Nat.succ_mul, Nat.add_comm]

theorem length_paddedTexts (fit : ∀ text ∈ texts, FitsField width text) :
    (paddedTexts width texts).length = texts.length * width :=
  length_of_fixedTexts (fixedTexts_eq fit)

theorem textList_eq (fit : ∀ text ∈ texts, FitsField width text)
    (few : texts.length < LittleEndian.capacity 4) :
    textList width texts = .ok (countedTexts width texts) := by
  rw [textList, countBytes, fixedNumber_eq few, ok_bind, fixedTexts_eq fit, ok_bind]
  rfl

theorem length_of_textList {bytes : Bytes} (accepted : textList width texts = .ok bytes) :
    bytes.length = 4 + texts.length * width := by
  obtain ⟨count, counted, accepted⟩ := ok_of_bind accepted
  obtain ⟨listed, acceptedTexts, accepted⟩ := ok_of_bind accepted
  cases accepted
  rw [List.length_append, length_of_fixedNumber counted, length_of_fixedTexts acceptedTexts]

theorem BlockReader.textsOf_paddedTexts (fit : ∀ text ∈ texts, FitsField width text)
    (field : String) (index : Nat) :
    textsOf width field texts.length index (paddedTexts width texts) = .ok texts := by
  induction texts generalizing index with
  | nil => rfl
  | cons first others ih =>
      rw [List.forall_mem_cons] at fit
      have length := fit.1.length_paddedText
      have front : (paddedTexts width (first :: others)).take width = paddedText width first := by
        rw [paddedTexts, List.flatMap_cons]
        exact List.take_left' length
      have back : (paddedTexts width (first :: others)).drop width = paddedTexts width others := by
        rw [paddedTexts, List.flatMap_cons]
        exact List.drop_left' length
      rw [List.length_cons, textsOf, front, back, fit.1.textOf_eq, ok_bind, ih fit.2, ok_bind]
      rfl

theorem BlockReader.reads_texts (fit : ∀ text ∈ texts, FitsField width text)
    (few : texts.length < LittleEndian.capacity 4) (field : String) :
    Reads (BlockReader.texts width field) (countedTexts width texts) texts :=
  (reads_number few field).bind ((Reads.take (length_paddedTexts fit) field).bind_nil
    (.lift (textsOf_paddedTexts fit field 0)))

end Texts

end TickWire
