import Mathlib.Algebra.GroupWithZero.Nat
import TickWire.Proofs.Record.View

/-!
# Walking from header to header

A header is found where its own bytes and those that it announces are there, even if it
announces fewer than its own.  So the headers that are found one after the other stay within
the bytes, but a walk over them ends only if it never comes to a header that announces nothing.
A frame is accepted only if its header announces at least its own bytes.
-/

namespace TickWire.Frame

variable {address : Nat} {bytes middle rest : Bytes} {headers later : List Header}

theorem header?_eq_some_iff {header : Header} :
    header? bytes = some header ↔
      headerSize ≤ bytes.length ∧ header.recordSize ≤ bytes.length ∧
        header = Header.ofBytes bytes := by
  unfold header?
  split
  next short => exact iff_of_false nofun fun ⟨enough, _⟩ => Nat.not_le.mpr short enough
  next enough =>
    dsimp only
    split
    next beyond =>
      refine iff_of_false nofun ?_
      rintro ⟨-, within, rfl⟩
      exact Nat.not_le.mpr beyond within
    next within =>
      rw [Option.some.injEq]
      constructor
      · rintro rfl
        exact ⟨Nat.le_of_not_lt enough, Nat.le_of_not_lt within, rfl⟩
      · rintro ⟨-, -, rfl⟩
        rfl

/-- The header of a frame is the one that the bytes of the frame begin with, whatever follows
them. -/
theorem header_of_ofBytes {frame : Frame} (found : ofBytes address bytes = .ok frame) :
    frame.header = Header.ofBytes bytes := by
  have start := (isFramed_of_ofBytes found).2
  obtain ⟨following, rfl⟩ : frame.bytes <+: bytes := start ▸ List.take_prefix ..
  exact (Header.isCodec.decode_of_append frame.headerSize_le_length following).symm

/-- What is accepted as a frame has a header. -/
theorem header?_of_ofBytes {frame : Frame} (found : ofBytes address bytes = .ok frame) :
    header? bytes = some frame.header := by
  obtain ⟨enough, -, -, within⟩ := (isFramed_of_ofBytes found).1
  rw [header_of_ofBytes found]
  exact header?_eq_some_iff.mpr ⟨enough, within, rfl⟩

theorem isSome_header?_iff :
    (header? bytes).isSome = true ↔
      headerSize ≤ bytes.length ∧ (Header.ofBytes bytes).recordSize ≤ bytes.length := by
  rw [Option.isSome_iff_exists]
  constructor
  · rintro ⟨header, found⟩
    obtain ⟨enough, within, rfl⟩ := header?_eq_some_iff.mp found
    exact ⟨enough, within⟩
  · rintro ⟨enough, within⟩
    exact ⟨_, header?_eq_some_iff.mpr ⟨enough, within, rfl⟩⟩

/-! ## Walks -/

/-- Headers one after the other, each found where the record of the one before it ends. -/
inductive Walk : Bytes → List Header → Bytes → Prop where
  | stop (bytes : Bytes) : Walk bytes [] bytes
  | step {bytes rest : Bytes} {header : Header} {later : List Header}
      (found : header? bytes = some header)
      (walk : Walk (bytes.drop header.recordSize) later rest) :
      Walk bytes (header :: later) rest

namespace Walk

theorem trans (one : Walk bytes headers middle) (two : Walk middle later rest) :
    Walk bytes (headers ++ later) rest := by
  induction one with
  | stop _ => exact two
  | step found _ ih => exact .step found (ih two)

/-- A walk stays within the bytes. -/
theorem sum_add_length (walk : Walk bytes headers rest) :
    (headers.map Header.recordSize).sum + rest.length = bytes.length := by
  induction walk with
  | stop bytes => exact Nat.zero_add _
  | step found _ ih =>
      have within := (header?_eq_some_iff.mp found).2.1
      rw [List.length_drop] at ih
      rw [List.map_cons, List.sum_cons]
      omega

/-- Headers that announce at least so many bytes each are so many times fewer than the bytes. -/
theorem length_mul_le (walk : Walk bytes headers rest) (least : Nat)
    (great : ∀ header ∈ headers, least ≤ header.recordSize) :
    headers.length * least ≤ bytes.length := by
  induction walk with
  | stop bytes => exact (Nat.zero_mul least).symm ▸ Nat.zero_le _
  | step found _ ih =>
      have within := (header?_eq_some_iff.mp found).2.1
      rw [List.forall_mem_cons] at great
      have later := ih great.2
      rw [List.length_drop] at later
      rw [List.length_cons, Nat.succ_mul]
      omega

/-- A walk does not leave the place of a header that announces nothing. -/
theorem replicate {header : Header} (found : header? bytes = some header)
    (empty : header.recordSize = 0) (count : Nat) :
    Walk bytes (List.replicate count header) bytes := by
  induction count with
  | zero => exact .stop bytes
  | succ count ih =>
      refine .step found ?_
      rwa [empty, List.drop_zero]

/-- Where a walk comes to no header that announces nothing, it passed none. -/
theorem recordSize_ne_zero (walk : Walk bytes headers rest)
    (moves : ∀ headers rest header, Walk bytes headers rest → header? rest = some header →
      header.recordSize ≠ 0) : ∀ header ∈ headers, header.recordSize ≠ 0 := by
  induction walk with
  | stop bytes => exact nofun
  | step found _ ih =>
      rw [List.forall_mem_cons]
      refine ⟨moves [] _ _ (.stop _) found, ih ?_⟩
      intro headers rest header further
      exact moves _ rest header (.step found further)

/-- A walk is of bounded length if and only if it comes to no header that announces nothing. -/
theorem bounded_iff (bytes : Bytes) :
    (∃ bound, ∀ headers rest, Walk bytes headers rest → headers.length ≤ bound) ↔
      ∀ headers rest header, Walk bytes headers rest → header? rest = some header →
        header.recordSize ≠ 0 := by
  constructor
  · rintro ⟨bound, bounded⟩ headers rest header walk found empty
    have longer := bounded _ _ (walk.trans (.replicate found empty (bound + 1)))
    rw [List.length_append, List.length_replicate] at longer
    omega
  · intro moves
    refine ⟨bytes.length, fun headers rest walk => ?_⟩
    have passed := walk.length_mul_le 1 fun header member =>
      Nat.pos_of_ne_zero (walk.recordSize_ne_zero moves header member)
    rwa [Nat.mul_one] at passed

end Walk

/-- Headers and frames agree, except that a header is found that announces fewer bytes than its
own.  Exactly then does one check accept what the other refuses.  A walk over the headers stays
within the bytes; where all of them announce at least their own bytes, as the headers of frames
do, it passes one for sixteen bytes at most; and it ends exactly if it comes to no header that
announces nothing. -/
theorem header?_and_walks (aligned : address % recordAlignment = 0) (bytes : Bytes) :
    (∀ header, header? bytes = some header ↔
      headerSize ≤ bytes.length ∧ header.recordSize ≤ bytes.length ∧
        header = Header.ofBytes bytes) ∧
    (∀ frame, ofBytes address bytes = .ok frame → header? bytes = some frame.header) ∧
    (((header? bytes).isSome = true ↔ ∃ frame, ofBytes address bytes = .ok frame) ↔
      (headerSize ≤ bytes.length → headerSize ≤ (Header.ofBytes bytes).recordSize)) ∧
    (∀ headers rest, Walk bytes headers rest →
      (headers.map Header.recordSize).sum + rest.length = bytes.length ∧
        ((∀ header ∈ headers, headerSize ≤ header.recordSize) →
          headers.length * headerSize ≤ bytes.length)) ∧
    ((∃ bound, ∀ headers rest, Walk bytes headers rest → headers.length ≤ bound) ↔
      ∀ headers rest header, Walk bytes headers rest → header? rest = some header →
        header.recordSize ≠ 0) := by
  refine ⟨fun _ => header?_eq_some_iff, fun _ => header?_of_ofBytes, ?_,
    fun _ _ walk => ⟨walk.sum_add_length, walk.length_mul_le headerSize⟩, Walk.bounded_iff bytes⟩
  have accepted : (∃ frame, ofBytes address bytes = .ok frame) ↔
      headerSize ≤ bytes.length ∧ headerSize ≤ (Header.ofBytes bytes).recordSize ∧
        (Header.ofBytes bytes).recordSize ≤ bytes.length := by
    rw [exists_ofBytes_iff, IsFramed, and_iff_right aligned]
    rfl
  rw [isSome_header?_iff, accepted]
  omega

/-- Two headers that announce sixteen bytes each, the last of which ends the bytes. -/
theorem header?_and_walks_two_headers :
    let bytes : Bytes := 4 :: List.replicate 15 0 ++ 4 :: List.replicate 15 0
    8 % recordAlignment = 0 ∧ (∃ frame, ofBytes 8 bytes = .ok frame) ∧
      ∃ headers, Walk bytes headers [] ∧ headers.length = 2 ∧
        headers.length * headerSize ≤ bytes.length := by
  obtain ⟨found, -, agree, walks, -⟩ := @header?_and_walks 8 (by decide)
    (4 :: List.replicate 15 0 ++ 4 :: List.replicate 15 0)
  have first := (found _).mpr ⟨by decide, by decide, rfl⟩
  have second := header?_eq_some_iff.mpr
    ⟨by decide, by decide, (rfl : _ = Header.ofBytes (4 :: List.replicate 15 0))⟩
  have walk := Walk.step first (Walk.step second (Walk.stop _))
  refine ⟨by decide, (agree.mpr fun _ => by decide).mp rfl, _, walk, rfl, ?_⟩
  exact (walks _ _ walk).2 (by decide)

/-- Sixteen zero bytes are refused as a frame, but a header is found in them, and a walk over
headers does not get any further. -/
theorem header?_of_zeros :
    let bytes : Bytes := List.replicate 16 0
    (header? bytes).isSome = true ∧
      ofBytes 0 bytes = .error (.invalidLength (.recordBelowHeader 0)) ∧
      ∀ count, ∃ headers, headers.length = count ∧ Walk bytes headers bytes := by
  have found : header? (List.replicate 16 0) = some (Header.ofBytes (List.replicate 16 0)) := rfl
  refine ⟨rfl, rfl, fun count => ⟨_, List.length_replicate, .replicate found rfl count⟩⟩

end TickWire.Frame
