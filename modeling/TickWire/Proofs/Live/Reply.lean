import TickWire.Live.Handshake
import TickWire.Proofs.Outcome
import TickWire.Proofs.Text.Utf8

/-!
# The reply to a challenge

A reply is a hash in hexadecimal and the last characters of the key.  What is hashed is the
challenge and the key with a bar between them, and both may hold bars themselves.  Keys that
are accepted all have one length, so that what is hashed can be taken apart in only one way,
and two replies are equal only where challenges and keys are, or where two hashes collide.
-/

namespace TickWire

/-! ## The last characters of a key -/

/-- The offset at which so many last characters begin, counted from the end. -/
theorem Utf8.getElem?_reverse_offsets {front back : List Char} (nonempty : back ≠ []) :
    (offsets 0 (front ++ back)).reverse[back.length - 1]? = some (encode front).length := by
  have positive := List.length_pos_iff.mpr nonempty
  have within : back.length - 1 < (offsets 0 (front ++ back)).length := by
    rw [length_offsets, List.length_append]
    omega
  have index : (offsets 0 (front ++ back)).length - 1 - (back.length - 1) = front.length := by
    rw [length_offsets, List.length_append]
    omega
  rw [List.getElem?_reverse within, index, getElem?_offsets 0 nonempty, Nat.zero_add]

/-- The cut is made where the last characters begin, so it meets no character inside. -/
theorem bucket?_eq (key : String) :
    bucket? key = some (key.toList.drop (key.toList.length - bucketLength)) := by
  rw [bucket?, bucketStart]
  generalize key.toList = chars
  by_cases short : chars.length < bucketLength
  · have beyond : (Utf8.offsets 0 chars).reverse.length ≤ bucketLength - 1 := by
      rw [List.length_reverse, Utf8.length_offsets]
      exact Nat.le_sub_one_of_lt short
    rw [List.getElem?_eq_none beyond, Nat.sub_eq_zero_of_le (Nat.le_of_lt short),
      Option.getD_none, Utf8.dropBytes?, List.drop_zero]
  · have length : (chars.drop (chars.length - bucketLength)).length = bucketLength := by
      rw [List.length_drop]
      omega
    have nonempty : chars.drop (chars.length - bucketLength) ≠ [] := by
      rw [← List.length_pos_iff, length]
      decide
    have start := @Utf8.getElem?_reverse_offsets (chars.take (chars.length - bucketLength)) _
      nonempty
    have cut := Utf8.dropBytes?_length_encode (chars.take (chars.length - bucketLength))
      (chars.drop (chars.length - bucketLength))
    rw [List.take_append_drop] at start cut
    rw [length] at start
    rw [start, Option.getD_some, cut]

theorem bucketOf_eq (key : String) :
    bucketOf key = key.toList.drop (key.toList.length - bucketLength) := by
  rw [bucketOf, bucket?_eq, Option.getD_some]

/-! ## What is hashed -/

theorem challengeMessage_eq (challenge key : String) :
    challengeMessage challenge key = textBytes (challenge ++ "|" ++ key) := by
  rw [challengeMessage, textBytes, String.toList_append, String.toList_append, List.append_assoc]
  rfl

/-- A text of ASCII characters has as many bytes as characters. -/
theorem textLength_of_isAscii {text : String} (ascii : isAscii text = true) :
    textLength text = text.toList.length := by
  rw [isAscii, List.all_eq_true] at ascii
  rw [textLength, textBytes]
  generalize text.toList = chars at ascii
  induction chars with
  | nil => rfl
  | cons char rest ih =>
      rw [List.forall_mem_cons] at ascii
      rw [Utf8.encode_cons, Utf8.encodeChar_of_ascii (of_decide_eq_true ascii.1),
        List.length_append, ih ascii.2, List.length_singleton, List.length_cons, Nat.add_comm]

theorem length_of_checkKey {key : String} (checked : checkKey key = .ok ()) :
    key.toList.length = keyLength := by
  unfold checkKey at checked
  split at checked
  · cases checked
  next ascii =>
    split at checked
    · cases checked
    next length =>
      rw [← textLength_of_isAscii (by simpa using ascii)]
      exact Decidable.of_not_not length

variable {challenge otherChallenge key otherKey : String}

/-- Keys of one length can be taken off what is hashed, whatever the challenges hold. -/
theorem eq_of_challengeMessage_eq (lengths : key.toList.length = otherKey.toList.length)
    (same : challengeMessage challenge key = challengeMessage otherChallenge otherKey) :
    challenge = otherChallenge ∧ key = otherKey := by
  have chars := Utf8.encode_injective same
  obtain ⟨challenges, keys⟩ := List.append_inj' chars (by simp [lengths])
  exact ⟨String.toList_inj.mp challenges, String.toList_inj.mp (List.cons.inj keys).2⟩

/-- Equal replies hold equal hashes. -/
theorem digest_eq_of_challengeReply_eq
    (same : challengeReply challenge key = challengeReply otherChallenge otherKey) :
    Sha256.digest (challengeMessage challenge key) =
      Sha256.digest (challengeMessage otherChallenge otherKey) := by
  rw [challengeReply, challengeReply, String.ofList_inj] at same
  have lengths : (Hex.encode (Sha256.digest (challengeMessage challenge key))).length =
      (Hex.encode (Sha256.digest (challengeMessage otherChallenge otherKey))).length := by
    simp only [Hex.length_encode, Sha256.length_digest]
  have digits := congrArg Hex.decode? (List.append_inj same lengths).1
  rw [Hex.decode?_encode, Hex.decode?_encode] at digits
  exact Option.some.inj digits

/-- A reply is the hash of challenge and key in sixty-four hexadecimal digits, a dash, and the
last five characters of the key, or all of a shorter one.  Of keys that are accepted, whatever
they and the challenges hold, two replies are equal only where challenges and keys are, unless
the two hashes collide. -/
theorem challengeReply_binds :
    (∀ challenge key : String, ∃ digits bucket : List Char,
      (challengeReply challenge key).toList = digits ++ '-' :: bucket ∧
      digits.length = 64 ∧ (∀ digit ∈ digits, digit ∈ "0123456789abcdef".toList) ∧
      Hex.decode? digits = some (Sha256.digest (textBytes (challenge ++ "|" ++ key))) ∧
      bucket? key = some bucket ∧ bucket <:+ key.toList ∧
      bucket.length = min 5 key.toList.length) ∧
    ∀ challenge otherChallenge key otherKey : String,
      checkKey key = .ok () → checkKey otherKey = .ok () →
      (Sha256.digest (textBytes (challenge ++ "|" ++ key)) =
          Sha256.digest (textBytes (otherChallenge ++ "|" ++ otherKey)) →
        textBytes (challenge ++ "|" ++ key) = textBytes (otherChallenge ++ "|" ++ otherKey)) →
      (challengeReply challenge key = challengeReply otherChallenge otherKey ↔
        challenge = otherChallenge ∧ key = otherKey) := by
  constructor
  · intro challenge key
    refine ⟨Hex.encode (Sha256.digest (challengeMessage challenge key)), bucketOf key,
      String.toList_ofList, ?_, fun digit => Hex.mem_lowerDigits_of_mem_encode, ?_, ?_, ?_, ?_⟩
    · rw [Hex.length_encode, Sha256.length_digest]
    · rw [Hex.decode?_encode, challengeMessage_eq]
    · rw [bucket?_eq, bucketOf_eq]
    · rw [bucketOf_eq]
      exact List.drop_suffix _ _
    · rw [bucketOf_eq, List.length_drop, bucketLength]
      omega
  · intro challenge otherChallenge key otherKey checked otherChecked collisionFree
    rw [← challengeMessage_eq, ← challengeMessage_eq] at collisionFree
    constructor
    · intro same
      have lengths := (length_of_checkKey checked).trans (length_of_checkKey otherChecked).symm
      exact eq_of_challengeMessage_eq lengths
        (collisionFree (digest_eq_of_challengeReply_eq same))
    · rintro ⟨rfl, rfl⟩
      rfl

/-- Challenges and keys that hold bars, so that what is hashed of the one begins with all that
is hashed of the other. -/
theorem challengeReply_binds_barred :
    let challenge := "2|db-"
    let otherChallenge := "2"
    let key := "0123456789abcdef0123456789abcde|"
    let otherKey := "db-|0123456789abcdef0123456789ab"
    checkKey key = .ok () ∧ checkKey otherKey = .ok () ∧
      challengeReply challenge key ≠ challengeReply otherChallenge otherKey := by
  intro challenge otherChallenge key otherKey
  have checked : checkKey "0123456789abcdef0123456789abcde|" = .ok () := rfl
  have otherChecked : checkKey "db-|0123456789abcdef0123456789ab" = .ok () := rfl
  have apart : Sha256.digest (textBytes (challenge ++ "|" ++ key)) ≠
      Sha256.digest (textBytes (otherChallenge ++ "|" ++ otherKey)) := by
    decide +kernel
  have binds := challengeReply_binds.2 challenge otherChallenge key otherKey checked otherChecked
    fun collide => absurd collide apart
  refine ⟨checked, otherChecked, fun same => ?_⟩
  exact absurd (binds.mp same).1 (by decide)

end TickWire
