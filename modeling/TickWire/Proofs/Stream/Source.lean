import TickWire.Stream.Source

/-!
# Reading exactly

A steady source never fails and gives at least one byte while it has some.  However it
divides its bytes, `Source.readExact` gives what was asked for, or takes everything and
reports the end.
-/

namespace TickWire.Source

variable {source : Source}

/-- A source without a fault whose reads are never empty before its end. -/
structure IsSteady (source : Source) : Prop where
  faultless : source.fault? = none
  chunk_ne_zero : source.chunk? ≠ some 0

@[simp] theorem advance_zero (source : Source) : source.advance 0 = source := rfl

@[simp] theorem advance_advance (source : Source) (first second : Nat) :
    (source.advance first).advance second = source.advance (first + second) := by
  simp [advance, Nat.add_assoc]

@[simp] theorem rest_advance (source : Source) (count : Nat) :
    (source.advance count).rest = source.rest.drop count := rfl

namespace IsSteady

theorem advance (steady : source.IsSteady) (count : Nat) :
    (source.advance count).IsSteady :=
  ⟨steady.faultless, steady.chunk_ne_zero⟩

theorem failure?_eq_none (steady : source.IsSteady) : source.failure? = none := by
  simp [failure?, steady.faultless]

/-- One read is asked for some bytes, so it may give at least one. -/
theorem allowance_pos (steady : source.IsSteady) (want : Nat) :
    0 < source.allowance (want + 1) := by
  have nonzero := steady.chunk_ne_zero
  cases chunk : source.chunk? with
  | none => simp [allowance, chunk, steady.faultless]
  | some size =>
      have positive : 0 < size := Nat.pos_of_ne_zero fun zero => nonzero (zero ▸ chunk)
      simp only [allowance, chunk, steady.faultless]
      omega

end IsSteady

theorem allowance_le (source : Source) (want : Nat) : source.allowance want ≤ want := by
  unfold allowance
  cases source.chunk? <;> cases source.fault? <;> dsimp only <;> omega

/-- One read of a steady source reports its end or gives bytes from its front, not more
than were asked for. -/
theorem read_cases (steady : source.IsSteady) (want : Nat) :
    (source.rest = [] ∧ source.read (want + 1) = .ok ([], source)) ∨
      ∃ byte bytes later, source.rest = byte :: bytes ++ later ∧ bytes.length ≤ want ∧
        source.read (want + 1) = .ok (byte :: bytes, source.advance (bytes.length + 1)) := by
  have positive := steady.allowance_pos want
  have atMost := source.allowance_le (want + 1)
  rw [read, steady.failure?_eq_none]
  generalize source.allowance (want + 1) = size at positive atMost
  cases taken : source.rest.take size with
  | nil =>
      have empty : source.rest = [] := by
        rcases List.take_eq_nil_iff.mp taken with zero | empty
        · omega
        · exact empty
      exact .inl ⟨empty, by simp⟩
  | cons byte bytes =>
      have length := congrArg List.length taken
      rw [List.length_take, List.length_cons] at length
      refine .inr ⟨byte, bytes, source.rest.drop size, ?_, by omega, by simp⟩
      rw [← taken, List.take_append_drop]

/-- What exact reading gives does not depend on how the source divides its bytes. -/
theorem readExactWithin_eq (steady : source.IsSteady) {bound want : Nat}
    (enough : want ≤ bound) :
    readExactWithin bound want source =
      (if want ≤ source.rest.length then .ok (source.rest.take want)
        else .error .unexpectedEnd,
        source.advance (min want source.rest.length)) := by
  induction bound generalizing want source with
  | zero =>
      obtain rfl : want = 0 := by omega
      simp [readExactWithin]
  | succ bound ih =>
      cases want with
      | zero => simp [readExactWithin]
      | succ want =>
          rw [readExactWithin]
          rcases read_cases steady want with
            ⟨empty, given⟩ | ⟨byte, bytes, later, split, atMost, given⟩
          · simp [given, empty]
          · have length : source.rest.length = bytes.length + 1 + later.length := by
              rw [split, List.length_append, List.length_cons]
            have consumed : bytes.length + 1 + min (want - bytes.length) later.length =
                min (want + 1) source.rest.length := by
              omega
            have behind : source.rest.drop (bytes.length + 1) = later := by simp [split]
            simp only [given]
            rw [ih (steady.advance _) (by omega), rest_advance, behind, advance_advance,
              consumed]
            by_cases whole : want + 1 ≤ source.rest.length
            · have front : source.rest.take (want + 1) =
                  byte :: bytes ++ later.take (want - bytes.length) := by
                rw [split, List.take_append, List.length_cons,
                  List.take_of_length_le (by simpa using atMost), Nat.add_sub_add_right]
              rw [if_pos (by omega), if_pos whole, front]
            · rw [if_neg (by omega), if_neg whole]

/-- Reading exactly takes the bytes off the front, or everything where there are too
few. -/
theorem readExact_eq (steady : source.IsSteady) (want : Nat) :
    source.readExact want =
      (if want ≤ source.rest.length then .ok (source.rest.take want)
        else .error .unexpectedEnd,
        source.advance (min want source.rest.length)) :=
  readExactWithin_eq steady (Nat.le_refl want)

/-- The bytes that a source begins with are read, whatever follows them. -/
theorem readExact_of_rest_eq (steady : source.IsSteady) (bytes : Bytes) {later : Bytes}
    (holds : source.rest = bytes ++ later) :
    source.readExact bytes.length = (.ok bytes, source.advance bytes.length) := by
  rw [readExact_eq steady, holds]
  simp

/-- A source that holds too little is read to its end. -/
theorem readExact_of_lt (steady : source.IsSteady) (want : Nat)
    (short : source.rest.length < want) :
    source.readExact want =
      (.error .unexpectedEnd, source.advance source.rest.length) := by
  rw [readExact_eq steady, if_neg (by omega), Nat.min_eq_right (by omega)]

/-! ## Any source -/

/-- One read takes what it gives off the front, and gives no more than was asked for. -/
theorem rest_of_read {want : Nat} {bytes : Bytes} {after : Source}
    (given : source.read want = .ok (bytes, after)) :
    source.rest = bytes ++ after.rest ∧ bytes.length ≤ want := by
  rw [read] at given
  split at given
  · cases given
  · cases given
    have taken : (source.rest.take (source.allowance want)).length ≤ want :=
      Nat.le_trans (List.length_take_le _ _) (source.allowance_le want)
    exact ⟨(List.prefix_iff_eq_append.mp (List.take_prefix _ _)).symm, taken⟩

theorem rest_of_readExactWithin {bound want : Nat} {bytes : Bytes} {after : Source}
    (given : readExactWithin bound want source = (.ok bytes, after)) :
    source.rest = bytes ++ after.rest ∧ bytes.length = want := by
  induction bound generalizing want source bytes with
  | zero =>
      cases want with
      | zero => cases given; exact ⟨rfl, rfl⟩
      | succ want => cases given
  | succ bound ih =>
      cases want with
      | zero => cases given; exact ⟨rfl, rfl⟩
      | succ want =>
          rw [readExactWithin] at given
          split at given
          · cases given
          · cases given
          next byte front next read =>
            obtain ⟨split, atMost⟩ := rest_of_read read
            split at given
            next more last later =>
              cases given
              obtain ⟨rest, length⟩ := ih later
              rw [List.length_cons] at atMost
              refine ⟨by rw [split, rest, List.append_assoc], ?_⟩
              rw [List.length_append, List.length_cons, length]
              omega
            · cases given

/-- Reading exactly takes what it gives off the front, whatever the source does. -/
theorem rest_of_readExact {want : Nat} {bytes : Bytes} {after : Source}
    (given : source.readExact want = (.ok bytes, after)) :
    source.rest = bytes ++ after.rest ∧ bytes.length = want :=
  rest_of_readExactWithin given

end TickWire.Source
