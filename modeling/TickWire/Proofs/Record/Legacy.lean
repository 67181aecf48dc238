import TickWire.Proofs.Record.Upgrade
import TickWire.Proofs.Record.View
import TickWire.Proofs.Text.Terminated
import TickWire.Record.Accessor

/-!
# What an upgrade keeps

A record of version 1 says the same after its upgrade.  Two tables decide it: the layouts,
and the names of the fields that are taken over.  These are the fields of version 1 that
carry information, all of them and no others, and each has a place of its name that it fits
into.  What a longer place holds beyond a text are zero bytes, where the text ends.
-/

namespace TickWire

/-! ## Values by name -/

/-- The first field of a name. -/
def Layout.field? (layout : Layout) (name : String) : Option Field :=
  layout.find? fun field => field.name = name

theorem Layout.mem_of_field? {layout : Layout} {name : String} {field : Field}
    (found : layout.field? name = some field) : field ∈ layout ∧ field.name = name := by
  constructor
  · exact List.mem_of_find?_eq_some found
  · simpa using List.find?_some found

theorem Layout.field?_cons (field : Field) (rest : Layout) (name : String) :
    Layout.field? (field :: rest) name =
      if field.name = name then some field else rest.field? name := by
  rw [field?, List.find?_cons]
  split <;> simp_all [field?]

namespace Values

theorem map_type_get? (name : String) (layout : Layout) (values : layout.Values) :
    (get? name layout values).map (·.type) = (layout.field? name).map (·.type) := by
  induction layout with
  | nil => rfl
  | cons field rest ih =>
      rw [get?, Layout.field?_cons]
      split
      · rfl
      · exact ih values.2

/-- What is carried over stands in the first place of its name. -/
theorem get?_carried (source : String → Option FieldValue) (name : String)
    (layout : Layout) :
    get? name layout (carried source layout) = (layout.field? name).map fun field =>
      ⟨field.type, ((source name).bind (·.fit? field.type)).getD field.initial⟩ := by
  induction layout with
  | nil => rfl
  | cons field rest ih =>
      rw [carried, get?, Layout.field?_cons]
      split
      next named => rw [Option.map_some, named]
      next => exact ih

theorem get?_initial (name : String) (layout : Layout) :
    get? name layout (initial layout) =
      (layout.field? name).map fun field => ⟨field.type, field.initial⟩ := by
  induction layout with
  | nil => rfl
  | cons field rest ih =>
      rw [initial, get?, Layout.field?_cons]
      split
      · rfl
      · exact ih

end Values

/-! ## Values in places that they fit into -/

/-- A place holds a value as it is, or holds a text and zero bytes after it. -/
inductive FieldValue.IsKept : FieldValue → FieldValue → Prop
  | same (held : FieldValue) : IsKept held held
  | padded {size longer padding : Nat} {text : Row UInt8 size} {place : Row UInt8 longer}
      (filled : place.toList = text.toList ++ List.replicate padding 0) :
      IsKept ⟨.text size, text⟩ ⟨.text longer, place⟩

/-- Whether values of one type fit into places of another: the type is the same, or both
are texts and the place is long enough. -/
def FieldType.fitsInto : FieldType → FieldType → Bool
  | text size, text longer => size ≤ longer
  | type, other => type = other

theorem FieldValue.exists_fit? (held : FieldValue) {type : FieldType}
    (fits : held.type.fitsInto type = true) :
    ∃ value, held.fit? type = some value ∧ held.IsKept ⟨type, value⟩ := by
  by_cases same : held.type = type
  · subst same
    exact ⟨held.value, by simp [fit?], .same held⟩
  · obtain ⟨own, value⟩ := held
    rw [fit?, dif_neg same]
    cases own with
    | text size =>
        cases type with
        | text longer =>
            have enough : size ≤ longer := by simpa [FieldType.fitsInto] using fits
            rw [← value.length_toList] at enough
            exact ⟨_, rfl, .padded (Row.toList_ofList 0 enough)⟩
        | _ => simp [FieldType.fitsInto] at fits
    | _ => exact absurd (by simpa [FieldType.fitsInto] using fits) same

/-! ## Texts in longer places -/

namespace FieldValue

theorem isPublic_of_text? (held : FieldValue) {bytes : Bytes}
    (isText : held.text? = some bytes) : held.type.isPublic = true := by
  obtain ⟨type, value⟩ := held
  cases type with
  | text size => rfl
  | _ => cases isText

theorem IsKept.exists_text? {held now : FieldValue} (kept : held.IsKept now) {bytes : Bytes}
    (isText : held.text? = some bytes) :
    ∃ place, now.text? = some place ∧ Terminated.content place = Terminated.content bytes := by
  cases kept with
  | same => exact ⟨bytes, isText, rfl⟩
  | @padded size longer padding text place filled =>
      cases isText
      refine ⟨place.toList, rfl, ?_⟩
      rw [filled, Terminated.content_append_zeros]

end FieldValue

/-! ## The tables -/

namespace RecordKind

/-- The fields that a kind takes over from a kind of version 1 are those that carry
information there, and each fits into a field of the same name. -/
structure TakesOver (target legacy : RecordKind) : Prop where
  listed : ∀ field ∈ legacy.layout, field.type.isPublic = true →
    field.name ∈ target.takenOver ∧
      ∃ place ∈ target.layout.field? field.name, field.type.fitsInto place.type = true
  isPublic : ∀ name ∈ target.takenOver,
    ∃ field ∈ legacy.layout.field? name, field.type.isPublic = true

variable {tag : RecordTag} {legacy target : RecordKind}

theorem takesOver_of_legacyOfTag? (changed : legacyOfTag? tag = some (legacy, target)) :
    target.TakesOver legacy := by
  cases tag <;> cases changed <;> constructor <;> decide +kernel

/-- Version 1 and the current version name a kind by the same tag, which is the only one. -/
theorem tags_of_legacyOfTag? (changed : legacyOfTag? tag = some (legacy, target)) :
    legacy.tags = [tag] ∧ target.tags = [tag] := by
  cases tag <;> cases changed <;> exact ⟨rfl, rfl⟩

/-- Upgraded records have room in the buffer. -/
theorem size_le_of_legacyOfTag? (changed : legacyOfTag? tag = some (legacy, target))
    (stamped : Bool) : RecordType.size ⟨target, stamped⟩ ≤ recordMaximumSize := by
  cases tag <;> cases changed <;> cases stamped <;> decide

end RecordKind

/-! ## Upgraded records -/

namespace Record

/-- The value in the field of a name. -/
def value? {type : RecordType} (record : Record type) (name : String) : Option FieldValue :=
  Values.get? name type.kind.layout record.fields

theorem map_type_value? {type : RecordType} (record : Record type) (name : String) :
    (record.value? name).map (·.type) = (type.kind.layout.field? name).map (·.type) :=
  Values.map_type_get? name type.kind.layout record.fields

variable {legacy target : RecordKind} {stamped : Bool}

/-- A record as one of another kind, with the time of sending if it has one. -/
def upgradedTo (target : RecordKind) :
    {stamped : Bool} → Record ⟨legacy, stamped⟩ → Record ⟨target, stamped⟩
  | false, old => old.convert target
  | true, old => old.convertStamped target

/-- A record of the current version that says what a record of version 1 said: its header
names the same event and its own length, every field that carried information is kept, all
texts are read as before, and what version 1 did not have is as in a new record. -/
structure IsUpgradeOf (new : Record ⟨target, stamped⟩) (old : Record ⟨legacy, stamped⟩) :
    Prop where
  length_eq : new.header.length.toNat = RecordType.size ⟨target, stamped⟩ / 4
  rtype_eq : new.header.rtype = old.header.rtype
  publisherId_eq : new.header.publisherId = old.header.publisherId
  instrumentId_eq : new.header.instrumentId = old.header.instrumentId
  eventTime_eq : new.header.eventTime = old.header.eventTime
  kept : ∀ name held, old.value? name = some held → held.type.isPublic = true →
    ∃ now, new.value? name = some now ∧ held.IsKept now
  readText_eq : ∀ name bytes, old.text? name = some bytes →
    (new.readText name).toOption = (old.readText name).toOption
  initial : ∀ name, (∀ held, old.value? name = some held → held.type.isPublic = false) →
    new.value? name = (Record.initial ⟨target, stamped⟩).value? name
  sendTime_eq : new.sendTime = old.sendTime

theorem fields_upgradedTo (old : Record ⟨legacy, stamped⟩) (target : RecordKind) :
    (old.upgradedTo target).fields =
      Values.carried
        (fun name => if name ∈ target.takenOver then old.value? name else none)
        target.layout := by
  cases stamped <;> rfl

theorem header_upgradedTo (old : Record ⟨legacy, stamped⟩) (target : RecordKind) :
    (old.upgradedTo target).header = Header.new ⟨target, stamped⟩ target.defaultTag
      old.header.publisherId old.header.instrumentId old.header.eventTime := by
  cases stamped <;> rfl

/-- An upgraded record announces its own size. -/
theorem sized_upgradedTo (old : Record ⟨legacy, stamped⟩) (target : RecordKind) :
    Header.sizeOfLength (old.upgradedTo target).header.length =
      RecordType.size ⟨target, stamped⟩ := by
  rw [header_upgradedTo, Header.new, RecordType.sizeOfLength_lengthOfSize]

theorem sendTime_upgradedTo (old : Record ⟨legacy, stamped⟩) (target : RecordKind) :
    (old.upgradedTo target).sendTime = old.sendTime := by
  cases stamped <;> rfl

theorem value?_upgradedTo (old : Record ⟨legacy, stamped⟩) (target : RecordKind)
    (name : String) :
    (old.upgradedTo target).value? name = (target.layout.field? name).map fun field =>
      ⟨field.type, ((if name ∈ target.takenOver then old.value? name else none).bind
        (·.fit? field.type)).getD field.initial⟩ := by
  rw [value?, fields_upgradedTo, Values.get?_carried]

variable {old : Record ⟨legacy, stamped⟩}

/-- A value that carries information is kept under its name. -/
theorem exists_value?_upgradedTo (tables : target.TakesOver legacy) {name : String}
    {held : FieldValue} (has : old.value? name = some held)
    (carrying : held.type.isPublic = true) :
    ∃ now, (old.upgradedTo target).value? name = some now ∧ held.IsKept now := by
  have types := old.map_type_value? name
  rw [has, Option.map_some, eq_comm, Option.map_eq_some_iff] at types
  obtain ⟨field, found, type⟩ := types
  obtain ⟨member, named⟩ := Layout.mem_of_field? found
  rw [← type] at carrying
  obtain ⟨listed, place, there, fits⟩ := tables.listed field member carrying
  rw [named] at listed there
  rw [type] at fits
  obtain ⟨value, fitted, kept⟩ := held.exists_fit? fits
  refine ⟨⟨place.type, value⟩, ?_, kept⟩
  rw [value?_upgradedTo, Option.mem_def.mp there, Option.map_some, if_pos listed, has,
    Option.bind_some, fitted, Option.getD_some]

/-- A text is read as before, and refused where it was refused. -/
theorem readText_upgradedTo (tables : target.TakesOver legacy) {name : String} {bytes : Bytes}
    (isText : old.text? name = some bytes) :
    ((old.upgradedTo target).readText name).toOption = (old.readText name).toOption := by
  obtain ⟨held, has, text⟩ := Option.bind_eq_some_iff.mp isText
  obtain ⟨now, found, kept⟩ :=
    exists_value?_upgradedTo tables has (held.isPublic_of_text? text)
  obtain ⟨place, placed, same⟩ := kept.exists_text? text
  have moved : (old.upgradedTo target).text? name = some place :=
    Option.bind_eq_some_iff.mpr ⟨now, found, placed⟩
  rw [readText, readText, moved, isText]
  exact Terminated.toOption_read_congr same

/-- What version 1 did not have is as in a new record. -/
theorem value?_upgradedTo_of_absent (tables : target.TakesOver legacy) {name : String}
    (absent : ∀ held, old.value? name = some held → held.type.isPublic = false) :
    (old.upgradedTo target).value? name = (initial ⟨target, stamped⟩).value? name := by
  have unlisted : name ∉ target.takenOver := by
    intro listed
    obtain ⟨field, found, carrying⟩ := tables.isPublic name listed
    have types := old.map_type_value? name
    rw [Option.mem_def.mp found, Option.map_some, Option.map_eq_some_iff] at types
    obtain ⟨held, has, type⟩ := types
    rw [← type, absent held has] at carrying
    cases carrying
  rw [value?_upgradedTo, if_neg unlisted, value?, initial, Values.get?_initial]
  rfl

theorem isUpgradeOf_upgradedTo {tag : RecordTag}
    (changed : RecordKind.legacyOfTag? tag = some (legacy, target))
    (tagged : RecordTag.ofByte? old.header.rtype = some tag) :
    (old.upgradedTo target).IsUpgradeOf old := by
  have tables := RecordKind.takesOver_of_legacyOfTag? changed
  constructor
  case length_eq =>
    exact (Nat.div_eq_of_eq_mul_left (by decide) (old.sized_upgradedTo target).symm).symm
  case rtype_eq =>
    rw [header_upgradedTo, Header.new, RecordKind.defaultTag,
      (RecordKind.tags_of_legacyOfTag? changed).2]
    exact RecordTag.byte_of_ofByte? tagged
  case publisherId_eq => rw [header_upgradedTo, Header.new]
  case instrumentId_eq => rw [header_upgradedTo, Header.new]
  case eventTime_eq => rw [header_upgradedTo, Header.new]
  case kept =>
    intro name held has carrying
    exact exists_value?_upgradedTo tables has carrying
  case readText_eq =>
    intro name bytes isText
    exact readText_upgradedTo tables isText
  case initial =>
    intro name absent
    exact value?_upgradedTo_of_absent tables absent
  case sendTime_eq => exact sendTime_upgradedTo old target

/-- A proper record of version 1 has the tag of its kind. -/
theorem IsProper.ofByte?_rtype {tag : RecordTag}
    (changed : RecordKind.legacyOfTag? tag = some (legacy, target)) (proper : old.IsProper) :
    RecordTag.ofByte? old.header.rtype = some tag := by
  have accepted : legacy.accepts old.header.rtype = true := proper.accepted
  rw [RecordKind.accepts, (RecordKind.tags_of_legacyOfTag? changed).1] at accepted
  have byte : tag.byte = old.header.rtype := by simpa using accepted
  rw [← byte, RecordTag.ofByte?_byte]

/-- An upgraded record is a proper record of the current kind. -/
theorem IsProper.upgradedTo {tag : RecordTag}
    (changed : RecordKind.legacyOfTag? tag = some (legacy, target)) (proper : old.IsProper) :
    (old.upgradedTo target).IsProper := by
  have tagged := proper.ofByte?_rtype changed
  have upgrade := isUpgradeOf_upgradedTo changed tagged
  constructor
  · rw [upgrade.rtype_eq]
    apply (RecordKind.accepts_iff_mem_tags tagged).mpr
    rw [(RecordKind.tags_of_legacyOfTag? changed).2]
    exact List.mem_singleton_self tag
  · exact upgrade.length_eq

end Record

/-! ## Decoding -/

section Decoding

variable {legacy target : RecordKind} {stamped : Bool} {frame : Frame}

theorem upgradedBytes_of_get? {old : Record ⟨legacy, stamped⟩}
    (read : frame.get? ⟨legacy, stamped⟩ = some old) :
    upgradedBytes legacy target stamped frame = .ok (old.upgradedTo target).toBytes := by
  have found := Frame.getLong_of_get? read
  cases stamped with
  | false => rw [upgradedBytes, if_neg Bool.false_ne_true, found]; rfl
  | true => rw [upgradedBytes, if_pos rfl, found]; rfl

theorem upgradedBytes_of_lt (short : frame.size < RecordType.size ⟨legacy, stamped⟩) :
    upgradedBytes legacy target stamped frame =
      .error (.recordTooShort frame.size (RecordType.path ⟨legacy, stamped⟩)) := by
  have refused := Frame.getLong_of_lt short
  cases stamped with
  | false => rw [upgradedBytes, if_neg Bool.false_ne_true, refused]; rfl
  | true => rw [upgradedBytes, if_pos rfl, refused]; rfl

/-- A proper record of version 1 is decoded to the frame of its upgrade. -/
theorem Record.IsProper.decodeFrame_toBytes {tag : RecordTag} {old : Record ⟨legacy, stamped⟩}
    (proper : old.IsProper)
    (changed : RecordKind.legacyOfTag? tag = some (legacy, target)) {address : Nat}
    (aligned : address % recordAlignment = 0) (buffer : UpgradeBuffer) :
    decodeFrame 1 .upgrade stamped buffer address old.toBytes =
      .ok (.upgraded (proper.upgradedTo changed).frame,
        buffer.store (old.upgradedTo target).toBytes) := by
  have named : (RecordTag.ofByte? proper.frame.header.rtype).bind RecordKind.legacyOfTag? =
      some (legacy, target) := by
    rw [proper.header_frame, proper.ofByte?_rtype changed, Option.bind_some, changed]
  exact decodeFrame_of_upgraded (Frame.ofBytes_bytes address aligned proper.frame) named
    (upgradedBytes_of_get? proper.get?_frame)

theorem Record.IsProper.decodeAlone_frame {tag : RecordTag} {old : Record ⟨legacy, stamped⟩}
    (proper : old.IsProper)
    (changed : RecordKind.legacyOfTag? tag = some (legacy, target)) :
    proper.frame.decodeAlone 1 .upgrade stamped = .ok (proper.upgradedTo changed).frame := by
  have aligned : 0 % recordAlignment = 0 := rfl
  rw [Frame.decodeAlone]
  exact congrArg (Except.map _) (proper.decodeFrame_toBytes changed aligned {})

/-- An upgrade keeps everything that version 1 said.  A proper record of a kind that has
changed since is decoded to a view of the current type, within the buffer and whatever that
held before.  A frame with the tag of such a kind that is too short for it is refused with
its size.  Every other frame, and every frame of a version or under a policy without
upgrades, is the start of the input itself. -/
theorem upgrade_preserves_records {address : Nat} (aligned : address % recordAlignment = 0)
    (stamped : Bool) (buffer : UpgradeBuffer) :
    (∀ tag legacy target, RecordKind.legacyOfTag? tag = some (legacy, target) →
      (∀ old : Record ⟨legacy, stamped⟩, old.IsProper → ∃ frame new,
        decodeFrame 1 .upgrade stamped buffer address old.toBytes =
            .ok (.upgraded frame, buffer.store new.toBytes) ∧
          frame.bytes = new.toBytes ∧ frame.get? ⟨target, stamped⟩ = some new ∧
          frame.size = RecordType.size ⟨target, stamped⟩ ∧ frame.size ≤ recordMaximumSize ∧
          new.IsUpgradeOf old) ∧
      ∀ input frame, Frame.ofBytes address input = .ok frame →
        RecordTag.ofByte? frame.header.rtype = some tag →
        frame.size < RecordType.size ⟨legacy, stamped⟩ →
        decodeFrame 1 .upgrade stamped buffer address input =
          .error (.recordTooShort frame.size (RecordType.path ⟨legacy, stamped⟩))) ∧
    ∀ version policy input frame, version ≤ formatVersion →
      Frame.ofBytes address input = .ok frame →
      (version ≠ 1 ∨ policy ≠ .upgrade ∨
        (RecordTag.ofByte? frame.header.rtype).bind RecordKind.legacyOfTag? = none) →
      decodeFrame version policy stamped buffer address input =
          .ok (.inPlace frame, buffer) ∧
        frame.bytes = input.take frame.size := by
  constructor
  · intro tag legacy target changed
    constructor
    · intro old proper
      have upgraded := proper.upgradedTo changed
      have size : upgraded.frame.size = RecordType.size ⟨target, stamped⟩ :=
        Record.length_toBytes _
      refine ⟨upgraded.frame, old.upgradedTo target,
        proper.decodeFrame_toBytes changed aligned buffer, rfl, upgraded.get?_frame, size, ?_,
        Record.isUpgradeOf_upgradedTo changed (proper.ofByte?_rtype changed)⟩
      rw [size]
      exact RecordKind.size_le_of_legacyOfTag? changed stamped
    · intro input frame found tagged short
      have named : (RecordTag.ofByte? frame.header.rtype).bind RecordKind.legacyOfTag? =
          some (legacy, target) := by
        rw [tagged, Option.bind_some, changed]
      exact decodeFrame_of_refused found named (upgradedBytes_of_lt short)
  · intro version policy input frame known found kept
    refine ⟨decodeFrame_of_kept known found kept, ?_⟩
    rw [Frame.size_of_ofBytes found, (Frame.isFramed_of_ofBytes found).2]

/-- A message that fills its field and is followed by the time of sending, an error that is
not, and a trade. -/
theorem upgrade_preserves_records_full_message :
    let type : RecordType := ⟨.systemV1, true⟩
    let old := { (Record.initial type).setText "msg" (List.replicate 64 0x41) with sendTime := 7 }
    let buffer : UpgradeBuffer := ⟨List.replicate recordMaximumSize 0xFF⟩
    (∃ frame new, decodeFrame 1 .upgrade true buffer 8 old.toBytes =
          .ok (.upgraded frame, buffer.store new.toBytes) ∧
        frame.get? ⟨.system, true⟩ = some new ∧ frame.size = 328 ∧ new.sendTime = 7 ∧
        (new.readText "msg").toOption = some (String.ofList (List.replicate 64 'A'))) ∧
      decodeFrame 1 .upgrade true buffer 8 (Record.initial ⟨.errorV1, false⟩).toBytes =
        .error (.recordTooShort 80 "dbn::record::WithTsOut<dbn::compat::ErrorMsgV1>") ∧
      ∃ frame, decodeFrame 1 .upgrade true buffer 8 (Record.initial ⟨.trade, true⟩).toBytes =
          .ok (.inPlace frame, buffer) ∧
        frame.bytes = (Record.initial ⟨.trade, true⟩).toBytes := by
  intro type old buffer
  have aligned : 8 % recordAlignment = 0 := rfl
  obtain ⟨changed, kept⟩ := upgrade_preserves_records aligned true buffer
  have proper : old.IsProper := ⟨by decide, by decide⟩
  have short : (Record.initial ⟨.errorV1, false⟩).IsProper := ⟨by decide, by decide⟩
  have trade : (Record.initial ⟨.trade, true⟩).IsProper := ⟨by decide, by decide⟩
  refine ⟨?_, ?_, ?_⟩
  · obtain ⟨frame, new, decoded, -, read, size, -, upgrade⟩ :=
      (changed .system .systemV1 .system rfl).1 old proper
    refine ⟨frame, new, decoded, read, size, upgrade.sendTime_eq, ?_⟩
    rw [upgrade.readText_eq "msg" _ rfl]
    decide
  · have found := Frame.ofBytes_bytes 8 aligned short.frame
    have size : short.frame.size = 80 := Record.length_toBytes _
    exact (changed .error .errorV1 .error rfl).2 _ _ found rfl (size ▸ by decide)
  · have found := Frame.ofBytes_bytes 8 aligned trade.frame
    obtain ⟨decoded, -⟩ := kept 1 .upgrade _ _ (by decide) found (.inr (.inr rfl))
    exact ⟨trade.frame, decoded, rfl⟩

end Decoding

end TickWire
