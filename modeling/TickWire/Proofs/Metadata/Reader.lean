import TickWire.Metadata.Decode
import TickWire.Proofs.Outcome

/-!
# Laws of block readers

A step through a block reads bytes back when it gives their value wherever they stand and
whatever follows them.  Steps that read their parts back read them back one after the
other.
-/

namespace TickWire.BlockReader

variable {α β : Type}

/-- A step gives the value of bytes and takes exactly them. -/
def Reads (step : BlockReader α) (bytes : Bytes) (value : α) : Prop :=
  ∀ offset later, step ⟨offset, bytes ++ later⟩ = .ok (value, ⟨offset + bytes.length, later⟩)

/-- What a step gives, whenever it gives something, has a property. -/
def Ensures (step : BlockReader α) (property : α → Prop) : Prop :=
  ∀ position value after, step position = .ok (value, after) → property value

theorem bind_run (step : BlockReader α) (next : α → BlockReader β) (position : BlockPosition) :
    (step >>= next) position =
      step position >>= fun result => next result.1 result.2 := rfl

namespace Reads

theorem pure (value : α) : Reads (Pure.pure value) [] value := fun _ _ => rfl

theorem lift {result : Except Error α} {value : α} (given : result = .ok value) :
    Reads (liftM result) [] value := by
  subst given
  exact fun _ _ => rfl

theorem bind {step : BlockReader α} {next : α → BlockReader β} {first second : Bytes}
    {value : α} {result : β} (one : Reads step first value)
    (two : Reads (next value) second result) :
    Reads (step >>= next) (first ++ second) result := by
  intro offset later
  rw [bind_run, List.append_assoc, one, ok_bind, two, List.length_append, Nat.add_assoc]

/-- A step that takes nothing does not move what is read after it. -/
theorem nil_bind {step : BlockReader α} {next : α → BlockReader β} {bytes : Bytes}
    {value : α} {result : β} (one : Reads step [] value)
    (two : Reads (next value) bytes result) : Reads (step >>= next) bytes result :=
  one.bind two

theorem bind_nil {step : BlockReader α} {next : α → BlockReader β} {bytes : Bytes}
    {value : α} {result : β} (one : Reads step bytes value)
    (two : Reads (next value) [] result) : Reads (step >>= next) bytes result := by
  simpa using one.bind two

theorem take {bytes : Bytes} {count : Nat} (length : bytes.length = count) (field : String) :
    Reads (BlockReader.take count field) bytes bytes := by
  intro offset later
  subst length
  simp [BlockReader.take]

/-- A step that some blocks need reads nothing in the others. -/
theorem optional {condition : Prop} [Decidable condition] {step : BlockReader α}
    {next : BlockReader β} {first second : Bytes} {value : α} {result : β}
    (one : condition → Reads step first value) (none : ¬condition → first = [])
    (two : Reads next second result) :
    Reads (if condition then step >>= fun _ => next else next) (first ++ second) result := by
  split
  next holds => exact (one holds).bind two
  next fails =>
    rw [none fails]
    exact two

end Reads

namespace Ensures

variable {property : α → Prop}

theorem pure {value : α} (holds : property value) : Ensures (Pure.pure value) property := by
  rintro position _ _ ⟨⟩
  exact holds

/-- What the first step ensures is known of the second. -/
theorem bind_of {step : BlockReader β} {next : β → BlockReader α} {known : β → Prop}
    (one : Ensures step known) (two : ∀ value, known value → Ensures (next value) property) :
    Ensures (step >>= next) property := by
  intro position value after ran
  rw [bind_run] at ran
  obtain ⟨result, first, second⟩ := ok_of_bind ran
  exact two result.1 (one _ _ _ first) _ _ _ second

theorem bind {step : BlockReader β} {next : β → BlockReader α}
    (always : ∀ value, Ensures (next value) property) : Ensures (step >>= next) property := by
  have anything : Ensures step fun _ => True := fun _ _ _ _ => trivial
  exact anything.bind_of fun value _ => always value

theorem lift {result : Except Error α}
    (holds : ∀ value, result = .ok value → property value) :
    Ensures (liftM result) property := by
  intro position value after ran
  cases result with
  | error error => cases ran
  | ok found =>
      cases ran
      exact holds _ rfl

/-- Where a step fails, nothing is left to ensure. -/
theorem throw_bind (error : Error) {next : β → BlockReader α} :
    Ensures (MonadExcept.throw error >>= next) property := by
  intro position value after ran
  cases ran

/-- A step that only some blocks need ensures nothing of its own. -/
theorem optional {condition : Prop} [Decidable condition] {step : BlockReader β}
    {next : BlockReader α} (two : Ensures next property) :
    Ensures (if condition then step >>= fun _ => next else next) property := by
  split
  next => exact .bind fun _ => two
  next => exact two

end Ensures

/-- Metadata has the version of its block. -/
theorem ensures_metadata_version (version : UInt8) :
    Ensures (metadata version) fun found => found.version = version := by
  unfold metadata
  dsimp only
  repeat' first
    | exact .pure rfl
    | refine .bind fun _ => ?_
    | split

end TickWire.BlockReader

namespace TickWire

theorem version_of_decodeMetadata {version : UInt8} {fields : Bytes} {metadata : Metadata}
    (accepted : decodeMetadata version fields = .ok metadata) :
    isSupported version ∧ metadata.version = version := by
  unfold decodeMetadata checkVersion at accepted
  split at accepted
  next supported =>
    cases read : BlockReader.metadata version ⟨0, fields⟩ with
    | error error => simp [read] at accepted
    | ok found =>
        obtain rfl : found.1 = metadata := by simpa [read] using accepted
        exact ⟨supported, BlockReader.ensures_metadata_version _ _ _ _ read⟩
  next => simp at accepted

end TickWire
