import TickWire.Live.Handshake
import TickWire.Proofs.Outcome

/-!
# The response of a gateway

A response is a row of segments, each of which gives a value to a key.  Of the values of a
key the last one counts.  Only a response whose segments can all be read lets anybody in, and
then the values of three keys decide; empty segments, other keys and the order of the keys
have no say.
-/

namespace TickWire

namespace Response

/-! ## What a response says -/

/-- The segments of a response, of which the empty ones say nothing. -/
def segmentsOf (line : String) : List (List Char) :=
  (Segment.split '|' line.toList).filter fun segment => !segment.isEmpty

/-- The value that a segment gives to a key: what follows the key and a sign of equality. -/
def valueOf? (key : String) (segment : List Char) : Option (List Char) :=
  Segment.dropOpening? (key.toList ++ ['=']) segment

/-- The value that counts for a key, which is the last one. -/
def lastValue? (key : String) (segments : List (List Char)) : Option (List Char) :=
  (segments.filterMap (valueOf? key)).getLast?

/-- A segment that can be read: it gives a value to a key, and a number to the key of the
session. -/
structure IsPair (segment : List Char) : Prop where
  delimited : '=' ∈ segment
  numbered : ∀ value, valueOf? "session_id" segment = some value →
    ∃ number : UInt64, Decimal.Spells value number.toNat

/-- A response whose segments can all be read. -/
def IsReadable (line : String) : Prop := ∀ segment ∈ segmentsOf line, IsPair segment

/-- The number that a value spells. -/
def number? (value : List Char) : Option UInt64 := Decimal.parseU64? (String.ofList value)

/-- The number of the session, zero where the response gives none. -/
def IsNumbered (line : String) (number : UInt64) : Prop :=
  match lastValue? "session_id" (segmentsOf line) with
  | some value => Decimal.Spells value number.toNat
  | none => number = 0

/-- The reason of a refusal, if the response gives one. -/
def reason? (line : String) : Option String :=
  (lastValue? "error" (segmentsOf line)).map String.ofList

/-- The key of a segment, if it has one. -/
def key? (segment : List Char) : Option (List Char) :=
  (Segment.splitFirst? '=' segment).map Prod.fst

/-- The keys that are looked at. -/
def knownKeys : List String := ["success", "error", "session_id"]

/-- Segments that differ only in empty ones, in pairs of keys that nobody looks at, and in the
order of different keys. -/
inductive Rearranged : List (List Char) → List (List Char) → Prop
  | refl (segments : List (List Char)) : Rearranged segments segments
  | symm {one two : List (List Char)} (same : Rearranged one two) : Rearranged two one
  | trans {one two three : List (List Char)} (first : Rearranged one two)
      (second : Rearranged two three) : Rearranged one three
  | cons (segment : List Char) {one two : List (List Char)} (same : Rearranged one two) :
      Rearranged (segment :: one) (segment :: two)
  | empty (segments : List (List Char)) : Rearranged ([] :: segments) segments
  | unknown {segment key : List Char} (named : key? segment = some key)
      (unknown : ∀ known ∈ knownKeys, key ≠ known.toList) (segments : List (List Char)) :
      Rearranged (segment :: segments) segments
  | swap {one two : List Char} (different : key? one ≠ key? two)
      (segments : List (List Char)) : Rearranged (one :: two :: segments) (two :: one :: segments)

variable {segment value : List Char} {segments : List (List Char)} {key line : String}

/-! ## Keys and values -/

theorem valueOf?_eq_some_iff :
    valueOf? key segment = some value ↔ segment = key.toList ++ '=' :: value := by
  rw [valueOf?, Segment.dropOpening?_eq_some_iff, List.append_assoc, List.singleton_append]

/-- A pair gives its value to its key alone. -/
theorem valueOf?_of_split (key : String) {found : List Char} (plain : '=' ∉ key.toList)
    (divided : Segment.splitFirst? '=' segment = some (found, value)) :
    valueOf? key segment = if found = key.toList then some value else none := by
  obtain ⟨whole, free⟩ := Segment.splitFirst?_eq_some_iff.mp divided
  split
  next same => rw [valueOf?_eq_some_iff, whole, same]
  next different =>
    rw [Option.eq_none_iff_forall_ne_some]
    intro other given
    have again := Segment.splitFirst?_eq_some_iff.mpr ⟨valueOf?_eq_some_iff.mp given, plain⟩
    rw [divided] at again
    cases again
    exact different rfl

theorem key?_of_valueOf? (plain : '=' ∉ key.toList) (given : valueOf? key segment = some value) :
    key? segment = some key.toList := by
  rw [key?, Segment.splitFirst?_eq_some_iff.mpr ⟨valueOf?_eq_some_iff.mp given, plain⟩]
  rfl

theorem lastValue?_cons (key : String) (segment : List Char) (segments : List (List Char)) :
    lastValue? key (segment :: segments) =
      (lastValue? key segments).or (valueOf? key segment) := by
  rw [lastValue?, lastValue?, List.filterMap_cons]
  cases valueOf? key segment with
  | none => rw [Option.or_none]
  | some value =>
      dsimp only
      rw [List.getLast?_cons]
      cases (segments.filterMap (valueOf? key)).getLast? <;> rfl

@[simp] theorem lastValue?_nil (key : String) : lastValue? key [] = none := rfl

@[simp] theorem lastValue?_singleton (key : String) (segment : List Char) :
    lastValue? key [segment] = valueOf? key segment := by
  rw [lastValue?_cons, lastValue?_nil, Option.none_or]

theorem exists_valueOf?_of_lastValue? (last : lastValue? key segments = some value) :
    ∃ segment ∈ segments, valueOf? key segment = some value :=
  List.mem_filterMap.mp (List.mem_of_getLast? last)

theorem number?_eq_some_iff {number : UInt64} :
    number? value = some number ↔ Decimal.Spells value number.toNat := by
  rw [number?, Decimal.parseU64?_eq_some_iff, String.toList_ofList]

/-- The number of the session can be read where all segments can. -/
theorem number?_of_lastValue? (readable : ∀ segment ∈ segments, IsPair segment)
    (last : lastValue? "session_id" segments = some value) :
    ∃ number, number? value = some number := by
  obtain ⟨segment, member, given⟩ := exists_valueOf?_of_lastValue? last
  obtain ⟨number, spelled⟩ := (readable segment member).numbered value given
  exact ⟨number, number?_eq_some_iff.mpr spelled⟩

end Response

/-! ## Taking note -/

namespace ResponseDraft

open Response

variable {line : String} {segment : List Char} {segments : List (List Char)}

/-- What is known after segments that can be read. -/
def heard (draft : ResponseDraft) (segments : List (List Char)) : ResponseDraft where
  success? := ((lastValue? "success" segments).map fun value => decide (value = ['1'])).or
    draft.success?
  sessionId := ((lastValue? "session_id" segments).bind number?).getD
    draft.sessionId
  reason? := ((lastValue? "error" segments).map String.ofList).or draft.reason?

/-- A segment that can be read is taken note of. -/
theorem note_of_isPair (draft : ResponseDraft) (isPair : IsPair segment) :
    draft.note line segment = .ok (draft.heard [segment]) := by
  obtain ⟨⟨key, value⟩, divided⟩ := Segment.exists_splitFirst?_iff.mpr isPair.delimited
  have ofSuccess := valueOf?_of_split "success" (by decide) divided
  have ofError := valueOf?_of_split "error" (by decide) divided
  have ofSession := valueOf?_of_split "session_id" (by decide) divided
  have numbered := isPair.numbered value
  simp only [note, divided, heard, lastValue?_singleton]
  split
  next isSuccess =>
    subst isSuccess
    rw [ofSuccess, ofError, ofSession]
    rfl
  next notSuccess =>
    split
    next isError =>
      subst isError
      rw [ofSuccess, ofError, ofSession]
      rfl
    next notError =>
      split
      next isSession =>
        subst isSession
        obtain ⟨number, spelled⟩ := numbered ofSession
        have read : Decimal.parseU64? (String.ofList value) = some number :=
          number?_eq_some_iff.mpr spelled
        rw [ofSuccess, ofError, ofSession, if_pos rfl, Option.bind_some, number?, read]
        rfl
      next notSession =>
        rw [ofSuccess, ofError, ofSession, if_neg notSuccess, if_neg notError, if_neg notSession]
        rfl

/-- A segment that cannot be read is the end. -/
theorem note_of_not_isPair (line : String) (draft : ResponseDraft) (unreadable : ¬IsPair segment) :
    ∃ fault, draft.note line segment = .error (.protocol fault line) := by
  rw [note]
  split
  · exact ⟨_, rfl⟩
  next key value divided =>
    have delimited := Segment.exists_splitFirst?_iff.mp ⟨_, divided⟩
    have ofSession := valueOf?_of_split "session_id" (by decide) divided
    by_cases isSession : key = "session_id".toList
    · subst isSession
      rw [if_neg (by decide), if_neg (by decide), if_pos rfl]
      split
      next number read =>
        refine absurd ⟨delimited, fun other given => ?_⟩ unreadable
        rw [ofSession, if_pos rfl] at given
        cases given
        exact ⟨number, number?_eq_some_iff.mp read⟩
      next => exact ⟨.malformedSessionId, rfl⟩
    · refine absurd ⟨delimited, fun other given => ?_⟩ unreadable
      rw [ofSession, if_neg isSession] at given
      cases given

/-- What is said later counts. -/
theorem heard_cons (draft : ResponseDraft) (segment : List Char)
    (readable : ∀ other ∈ segments, IsPair other) :
    draft.heard (segment :: segments) = (draft.heard [segment]).heard segments := by
  have numbers : ((lastValue? "session_id" (segment :: segments)).bind number?).getD
      draft.sessionId = ((lastValue? "session_id" segments).bind number?).getD
        (((valueOf? "session_id" segment).bind number?).getD draft.sessionId) := by
    rw [lastValue?_cons]
    cases last : lastValue? "session_id" segments with
    | none => rfl
    | some value =>
        obtain ⟨number, read⟩ := number?_of_lastValue? readable last
        rw [Option.some_or, Option.bind_some, read, Option.getD_some, Option.getD_some]
  simp only [heard, numbers, lastValue?_singleton]
  rw [lastValue?_cons, lastValue?_cons, Option.map_or, Option.map_or, Option.or_assoc,
    Option.or_assoc]

theorem noteAll_of_readable (draft : ResponseDraft)
    (readable : ∀ segment ∈ segments, IsPair segment) :
    noteAll line draft segments = .ok (draft.heard segments) := by
  induction segments generalizing draft with
  | nil => rfl
  | cons segment segments ih =>
      rw [List.forall_mem_cons] at readable
      rw [noteAll, note_of_isPair draft readable.1, ok_bind, ih _ readable.2,
        heard_cons draft segment readable.2]

theorem noteAll_of_unreadable (line : String) (draft : ResponseDraft)
    (unreadable : ¬∀ segment ∈ segments, IsPair segment) :
    ∃ fault, noteAll line draft segments = .error (.protocol fault line) := by
  induction segments generalizing draft with
  | nil => exact absurd (List.forall_mem_nil _) unreadable
  | cons segment segments ih =>
      rw [noteAll]
      by_cases isPair : IsPair segment
      · rw [note_of_isPair draft isPair, ok_bind]
        exact ih _ fun readable => unreadable (List.forall_mem_cons.mpr ⟨isPair, readable⟩)
      · obtain ⟨fault, refused⟩ := note_of_not_isPair line draft isPair
        exact ⟨fault, by rw [refused, error_bind]⟩

end ResponseDraft

/-! ## The verdict -/

namespace Response

variable {key line : String} {one two : List (List Char)}

theorem parseResponse_of_readable (readable : IsReadable line) :
    parseResponse line = (ResponseDraft.heard {} (segmentsOf line)).verdict line := by
  change (ResponseDraft.noteAll line {} (segmentsOf line) >>= _) = _
  rw [ResponseDraft.noteAll_of_readable _ readable, ok_bind]

theorem parseResponse_of_unreadable (unreadable : ¬IsReadable line) :
    ∃ fault, parseResponse line = .error (.protocol fault line) := by
  obtain ⟨fault, refused⟩ := ResponseDraft.noteAll_of_unreadable line {} unreadable
  refine ⟨fault, ?_⟩
  change (ResponseDraft.noteAll line {} (segmentsOf line) >>= _) = _
  rw [refused, error_bind]

/-- The number of the session in a response that can be read. -/
theorem isNumbered_iff (readable : IsReadable line) {number : UInt64} :
    IsNumbered line number ↔
      (ResponseDraft.heard {} (segmentsOf line)).sessionId = number := by
  rw [IsNumbered, ResponseDraft.heard]
  split
  next value last =>
    obtain ⟨found, read⟩ := number?_of_lastValue? readable last
    rw [last, Option.bind_some, read, Option.getD_some, ← number?_eq_some_iff, read,
      Option.some_inj]
  next none =>
    rw [none]
    exact eq_comm

/-- What becomes of a response that can be read depends on what it says of the success. -/
theorem parseResponse_cases (readable : IsReadable line) :
    parseResponse line = match lastValue? "success" (segmentsOf line) with
      | none => .error (.authentication (.noVerdict line))
      | some value =>
        if value = ['1'] then .ok (ResponseDraft.heard {} (segmentsOf line)).sessionId
        else .error (.authentication (.refused (reason? line))) := by
  rw [parseResponse_of_readable readable, ResponseDraft.verdict]
  cases last : lastValue? "success" (segmentsOf line) with
  | none => simp [ResponseDraft.heard, last]
  | some value =>
      by_cases yes : value = ['1']
      · simp [ResponseDraft.heard, last, yes]
      · simp [ResponseDraft.heard, last, yes, reason?]

theorem parseResponse_eq_ok_iff {number : UInt64} :
    parseResponse line = .ok number ↔
      IsReadable line ∧ lastValue? "success" (segmentsOf line) = some ['1'] ∧
        IsNumbered line number := by
  by_cases readable : IsReadable line
  · rw [parseResponse_cases readable, isNumbered_iff readable]
    cases lastValue? "success" (segmentsOf line) with
    | none => simp
    | some value => by_cases yes : value = ['1'] <;> simp [yes, readable]
  · obtain ⟨fault, refused⟩ := parseResponse_of_unreadable readable
    simp [refused, readable]

theorem parseResponse_eq_refused_iff {fault : AuthenticationFault} :
    parseResponse line = .error (.authentication fault) ↔
      IsReadable line ∧
        ((lastValue? "success" (segmentsOf line) = none ∧ fault = .noVerdict line) ∨
          ∃ value, lastValue? "success" (segmentsOf line) = some value ∧ value ≠ ['1'] ∧
            fault = .refused (reason? line)) := by
  by_cases readable : IsReadable line
  · rw [parseResponse_cases readable]
    cases lastValue? "success" (segmentsOf line) with
    | none => simp [readable, eq_comm]
    | some value => by_cases yes : value = ['1'] <;> simp [yes, readable, eq_comm]
  · obtain ⟨fault, refused⟩ := parseResponse_of_unreadable readable
    simp [refused, readable]

theorem parseResponse_eq_protocol_iff :
    (∃ fault, parseResponse line = .error (.protocol fault line)) ↔ ¬IsReadable line := by
  constructor
  · rintro ⟨fault, refused⟩ readable
    rw [parseResponse_cases readable] at refused
    split at refused
    · cases refused
    · split at refused <;> cases refused
  · exact parseResponse_of_unreadable

/-! ## What has no say -/

theorem plain_of_known : ∀ known ∈ knownKeys, '=' ∉ known.toList := by
  decide

theorem valueOf?_nil (key : String) : valueOf? key [] = none := by
  rw [Option.eq_none_iff_forall_ne_some]
  intro value given
  exact absurd (valueOf?_eq_some_iff.mp given) (by simp)

namespace Rearranged

/-- What is rearranged gives the same values to the keys that are looked at. -/
theorem values_eq (same : Rearranged one two) (known : key ∈ knownKeys) :
    one.filterMap (valueOf? key) = two.filterMap (valueOf? key) := by
  have plain := plain_of_known key known
  induction same with
  | refl => rfl
  | symm _ ih => exact ih.symm
  | trans _ _ ihFirst ihSecond => exact ihFirst.trans ihSecond
  | cons segment _ ih => rw [List.filterMap_cons, List.filterMap_cons, ih]
  | empty segments => rw [List.filterMap_cons_none (valueOf?_nil key)]
  | @unknown segment found named unknown segments =>
      cases given : valueOf? key segment with
      | none => rw [List.filterMap_cons_none given]
      | some value =>
          rw [key?_of_valueOf? plain given] at named
          exact absurd (Option.some.inj named).symm (unknown key known)
  | @swap first second different segments =>
      cases ofFirst : valueOf? key first with
      | none => rw [List.filterMap_cons_none ofFirst, List.filterMap_cons, List.filterMap_cons,
          List.filterMap_cons_none ofFirst]
      | some value =>
          cases ofSecond : valueOf? key second with
          | none => rw [List.filterMap_cons, List.filterMap_cons_none ofSecond,
              List.filterMap_cons_none ofSecond, List.filterMap_cons]
          | some other =>
              rw [key?_of_valueOf? plain ofFirst, key?_of_valueOf? plain ofSecond] at different
              exact absurd rfl different

/-- What is rearranged can be read or cannot. -/
theorem readable_iff (same : Rearranged one two) :
    (∀ segment ∈ one, segment ≠ [] → IsPair segment) ↔
      ∀ segment ∈ two, segment ≠ [] → IsPair segment := by
  induction same with
  | refl => rfl
  | symm _ ih => exact ih.symm
  | trans _ _ ihFirst ihSecond => exact ihFirst.trans ihSecond
  | cons segment _ ih => rw [List.forall_mem_cons, List.forall_mem_cons, ih]
  | empty segments =>
      rw [List.forall_mem_cons]
      exact and_iff_right fun nonempty => absurd rfl nonempty
  | @unknown segment found named unknown segments =>
      rw [List.forall_mem_cons]
      refine and_iff_right fun _ => ⟨?_, ?_⟩
      · obtain ⟨parts, divided, -⟩ := Option.map_eq_some_iff.mp named
        exact Segment.exists_splitFirst?_iff.mp ⟨parts, divided⟩
      · intro value given
        rw [key?_of_valueOf? (by decide) given] at named
        exact absurd (Option.some.inj named).symm (unknown "session_id" (by decide))
  | swap different segments =>
      simp only [List.forall_mem_cons]
      exact and_left_comm

end Rearranged

theorem isReadable_iff :
    IsReadable line ↔
      ∀ segment ∈ Segment.split '|' line.toList, segment ≠ [] → IsPair segment := by
  simp [IsReadable, segmentsOf]

/-- Empty segments give no values. -/
theorem lastValue?_segmentsOf (key line : String) :
    lastValue? key (segmentsOf line) =
      ((Segment.split '|' line.toList).filterMap (valueOf? key)).getLast? := by
  rw [lastValue?, segmentsOf, List.filterMap_filter]
  congr 2
  funext segment
  split
  next => rfl
  next empty =>
    have isEmpty : segment = [] := by simpa using empty
    rw [isEmpty, valueOf?_nil]

/-- Rearranging the segments of a response changes nothing of who is let in. -/
theorem parseResponse_of_rearranged {other : String}
    (same : Rearranged (Segment.split '|' line.toList) (Segment.split '|' other.toList))
    {number : UInt64} : parseResponse line = .ok number ↔ parseResponse other = .ok number := by
  have values : ∀ key ∈ knownKeys,
      lastValue? key (segmentsOf line) = lastValue? key (segmentsOf other) := by
    intro key known
    rw [lastValue?_segmentsOf, lastValue?_segmentsOf, same.values_eq known]
  have numbered : IsNumbered line number ↔ IsNumbered other number := by
    rw [IsNumbered, IsNumbered, values "session_id" (by decide)]
  rw [parseResponse_eq_ok_iff, parseResponse_eq_ok_iff, isReadable_iff, isReadable_iff,
    same.readable_iff, values "success" (by decide), numbered]

/-- A response lets the client in exactly where all of its segments can be read and the last
verdict is favourable.  Where they can be read it refuses the client otherwise, for want of a
verdict or for the last reason that it gives; and where one cannot be read it is no response.
What has no say changes nothing of who is let in. -/
theorem parseResponse_decides (line : String) :
    (∀ number, parseResponse line = .ok number ↔
      IsReadable line ∧ lastValue? "success" (segmentsOf line) = some ['1'] ∧
        IsNumbered line number) ∧
    (∀ fault, parseResponse line = .error (.authentication fault) ↔
      IsReadable line ∧
        ((lastValue? "success" (segmentsOf line) = none ∧ fault = .noVerdict line ∧
            fault.message = "did not receive success indicator from authentication attempt: '" ++
              line ++ "'") ∨
          ∃ value, lastValue? "success" (segmentsOf line) = some value ∧ value ≠ ['1'] ∧
            fault = .refused (reason? line) ∧
            fault.message = (reason? line).getD "no details")) ∧
    ((∃ fault, parseResponse line = .error (.protocol fault line)) ↔ ¬IsReadable line) ∧
    ∀ other : String,
      Rearranged (Segment.split '|' line.toList) (Segment.split '|' other.toList) →
        ∀ number, parseResponse line = .ok number ↔ parseResponse other = .ok number := by
  refine ⟨fun number => parseResponse_eq_ok_iff, fun fault => ?_,
    parseResponse_eq_protocol_iff, fun other same number => parseResponse_of_rearranged same⟩
  rw [parseResponse_eq_refused_iff]
  constructor
  · rintro ⟨readable, ⟨silent, rfl⟩ | ⟨value, last, unfavourable, rfl⟩⟩
    · exact ⟨readable, .inl ⟨silent, rfl, rfl⟩⟩
    · exact ⟨readable, .inr ⟨value, last, unfavourable, rfl, rfl⟩⟩
  · rintro ⟨readable, ⟨silent, isFault, -⟩ | ⟨value, last, unfavourable, isFault, -⟩⟩
    · exact ⟨readable, .inl ⟨silent, isFault⟩⟩
    · exact ⟨readable, .inr ⟨value, last, unfavourable, isFault⟩⟩

/-- A response that refuses the client first and lets it in then, and the same response with
the number of the session first and a remark in place of the empty segment. -/
theorem parseResponse_decides_rearranged :
    let line := "success=0|session_id=041||success=1"
    let other := "session_id=041|note=x|success=0|success=1"
    Rearranged (Segment.split '|' line.toList) (Segment.split '|' other.toList) ∧
      parseResponse other = .ok 41 ∧ parseResponse line = .ok 41 ∧
      (IsReadable line ∧ lastValue? "success" (segmentsOf line) = some ['1'] ∧
        IsNumbered line 41) := by
  intro line other
  have swapped : Rearranged
      ["success=0".toList, "session_id=041".toList, [], "success=1".toList]
      ["session_id=041".toList, "success=0".toList, [], "success=1".toList] :=
    .swap (by decide) _
  have shortened : Rearranged [[], "success=1".toList] ["success=1".toList] := .empty _
  have named : key? "note=x".toList = some "note".toList := by decide
  have remarked : Rearranged ["note=x".toList, "success=0".toList, "success=1".toList]
      ["success=0".toList, "success=1".toList] :=
    .unknown named (by decide) _
  have ofLine : Segment.split '|' "success=0|session_id=041||success=1".toList =
      ["success=0".toList, "session_id=041".toList, [], "success=1".toList] := rfl
  have ofOther : Segment.split '|' "session_id=041|note=x|success=0|success=1".toList =
      ["session_id=041".toList, "note=x".toList, "success=0".toList, "success=1".toList] := rfl
  have same : Rearranged (Segment.split '|' line.toList) (Segment.split '|' other.toList) := by
    rw [ofLine, ofOther]
    exact swapped.trans (.cons _ (.trans (.cons _ shortened) remarked.symm))
  have found : parseResponse "session_id=041|note=x|success=0|success=1" = .ok 41 := rfl
  have decides := parseResponse_decides line
  have given := (decides.2.2.2 other same 41).mpr found
  exact ⟨same, found, given, (decides.1 41).mp given⟩

end Response

end TickWire
