import TickWire.Proofs.Metadata.RoundTrip
import TickWire.Proofs.Time.Calendar

/-!
# Resolving a symbol

A symbol may have several mappings, and their intervals may overlap, repeat or come in any
order.  Only the first mapping of a symbol is searched.  What is found there is what a search
of all intervals would find first, but a date that only a later mapping covers is missed.
-/

namespace TickWire

/-! ## Intervals that contain a date -/

namespace MappingInterval

/-- Whether a date is the first day of an interval or a later one before its end. -/
def Contains (interval : MappingInterval) (date : Date) : Prop :=
  interval.startDate.dayNumber ≤ date.dayNumber ∧ date.dayNumber < interval.endDate.dayNumber

instance (interval : MappingInterval) (date : Date) : Decidable (interval.Contains date) :=
  inferInstanceAs (Decidable (_ ∧ _))

theorem covers_iff (interval : MappingInterval) (date : Date) :
    interval.covers date = true ↔ interval.Contains date := by
  rw [covers, Bool.and_eq_true, Date.before_iff, Bool.not_eq_true', ← Bool.not_eq_true,
    Date.before_iff, Nat.not_lt, Contains]

end MappingInterval

/-- Whether the first of some intervals that contains a date is one of a symbol. -/
def FirstContaining (date : Date) (intervals : List MappingInterval) (symbol : String) : Prop :=
  ∃ before interval after, intervals = before ++ interval :: after ∧
    (∀ earlier ∈ before, ¬earlier.Contains date) ∧ interval.Contains date ∧
    interval.symbol = symbol

section Search

variable {date : Date} {intervals : List MappingInterval} {symbol : String}

theorem find?_covers_eq_some_iff :
    (intervals.find? (·.covers date)).map (·.symbol) = some symbol ↔
      FirstContaining date intervals symbol := by
  rw [Option.map_eq_some_iff]
  constructor
  · rintro ⟨interval, found, named⟩
    obtain ⟨covers, before, after, whole, earlier⟩ := List.find?_eq_some_iff_append.mp found
    refine ⟨before, interval, after, whole, fun other member contains => ?_,
      (interval.covers_iff date).mp covers, named⟩
    have uncovered := earlier other member
    rw [(other.covers_iff date).mpr contains] at uncovered
    cases uncovered
  · rintro ⟨before, interval, after, whole, earlier, contains, named⟩
    refine ⟨interval, List.find?_eq_some_iff_append.mpr ⟨(interval.covers_iff date).mpr contains,
      before, after, whole, fun other member => ?_⟩, named⟩
    rw [Bool.not_eq_true', ← Bool.not_eq_true, other.covers_iff]
    exact earlier other member

theorem isSome_find?_covers_iff :
    ((intervals.find? (·.covers date)).map (·.symbol)).isSome = true ↔
      ∃ interval ∈ intervals, interval.Contains date := by
  simp only [Option.isSome_map, List.find?_isSome, MappingInterval.covers_iff]

/-- Intervals behind the first that contains a date do not count. -/
theorem FirstContaining.append (first : FirstContaining date intervals symbol)
    (later : List MappingInterval) : FirstContaining date (intervals ++ later) symbol := by
  obtain ⟨before, interval, after, rfl, earlier, contains, named⟩ := first
  exact ⟨before, interval, after ++ later, by rw [List.append_assoc, List.cons_append], earlier,
    contains, named⟩

end Search

/-! ## The mappings of a symbol -/

namespace Metadata

variable (metadata : Metadata) (rawSymbol : String) (date : Date)

/-- The mappings of a symbol. -/
def mappingsOf : List SymbolMapping :=
  metadata.mappings.filter fun mapping => mapping.rawSymbol == rawSymbol

/-- The intervals of all mappings of a symbol, in the order in which they are listed. -/
def intervalsOf : List MappingInterval := (metadata.mappingsOf rawSymbol).flatMap (·.intervals)

variable {metadata rawSymbol}

theorem resolve_of_nil (unmapped : metadata.mappingsOf rawSymbol = []) :
    metadata.resolve rawSymbol date = none := by
  rw [resolve, ← List.head?_filter, ← mappingsOf, unmapped]
  rfl

theorem resolve_of_cons {mapping : SymbolMapping} {others : List SymbolMapping}
    (mapped : metadata.mappingsOf rawSymbol = mapping :: others) :
    metadata.resolve rawSymbol date =
      (mapping.intervals.find? (·.covers date)).map (·.symbol) := by
  rw [resolve, ← List.head?_filter, ← mappingsOf, mapped]
  rfl

variable (metadata rawSymbol)

/-- A symbol is resolved exactly where its first mapping has an interval that contains the date,
and then to the symbol of the first such interval of all its mappings.  So nothing is missed
of a symbol that has no second mapping, whatever its intervals are. -/
theorem resolve_first_mapping :
    (∀ symbol, metadata.resolve rawSymbol date = some symbol →
      FirstContaining date (metadata.intervalsOf rawSymbol) symbol) ∧
    ((metadata.resolve rawSymbol date).isSome = true ↔
      ∃ mapping, (metadata.mappingsOf rawSymbol).head? = some mapping ∧
        ∃ interval ∈ mapping.intervals, interval.Contains date) ∧
    ((metadata.mappingsOf rawSymbol).length ≤ 1 →
      ((metadata.resolve rawSymbol date).isSome = true ↔
        ∃ interval ∈ metadata.intervalsOf rawSymbol, interval.Contains date) ∧
      ∀ symbol, metadata.resolve rawSymbol date = some symbol ↔
        FirstContaining date (metadata.intervalsOf rawSymbol) symbol) := by
  rw [intervalsOf]
  cases mapped : metadata.mappingsOf rawSymbol with
  | nil =>
      rw [resolve_of_nil date mapped]
      simp [FirstContaining]
  | cons mapping others =>
      rw [resolve_of_cons date mapped, List.flatMap_cons]
      refine ⟨fun symbol found => ?_, ?_, fun only => ?_⟩
      · exact (find?_covers_eq_some_iff.mp found).append _
      · rw [isSome_find?_covers_iff]
        simp
      · have alone : others = [] := List.length_eq_zero_iff.mp (by simpa using only)
        rw [alone, List.flatMap_nil, List.append_nil]
        exact ⟨isSome_find?_covers_iff, fun symbol => find?_covers_eq_some_iff⟩

/-- Metadata with two mappings of one symbol, and between them one of a symbol whose intervals
overlap and are in no order. -/
def ofRepeatedSymbol : Metadata :=
  let first : Date := ⟨2024, 3, 11, by decide⟩
  let second : Date := ⟨2024, 3, 12, by decide⟩
  let third : Date := ⟨2024, 3, 13, by decide⟩
  let fourth : Date := ⟨2024, 3, 14, by decide⟩
  { ofOneDay with mappings := [
      ⟨"ESH4", [⟨first, second, "17077"⟩]⟩,
      ⟨"NQH4", [⟨third, fourth, "21"⟩, ⟨fourth, first, "22"⟩, ⟨first, fourth, "23"⟩]⟩,
      ⟨"ESH4", [⟨second, third, "17078"⟩]⟩] }

/-- Of overlapping intervals the first counts, and one that ends before it begins is passed. -/
theorem resolve_first_mapping_unordered :
    (ofRepeatedSymbol.mappingsOf "NQH4").length ≤ 1 ∧
    ofRepeatedSymbol.resolve "NQH4" ⟨2024, 3, 13, by decide⟩ = some "21" ∧
    ofRepeatedSymbol.resolve "NQH4" ⟨2024, 3, 12, by decide⟩ = some "23" := by
  have only : (ofRepeatedSymbol.mappingsOf "NQH4").length ≤ 1 := by decide
  obtain ⟨-, -, whole⟩ := resolve_first_mapping ofRepeatedSymbol "NQH4" ⟨2024, 3, 13, by decide⟩
  obtain ⟨-, -, gap⟩ := resolve_first_mapping ofRepeatedSymbol "NQH4" ⟨2024, 3, 12, by decide⟩
  refine ⟨only, ((whole only).2 "21").mpr ?_, ((gap only).2 "23").mpr ?_⟩
  · exact ⟨[], _, _, rfl, nofun, by decide +kernel, rfl⟩
  · exact ⟨[_, _], _, [], rfl, by decide +kernel, by decide +kernel, rfl⟩

theorem isStorable_ofRepeatedSymbol : ofRepeatedSymbol.IsStorable :=
  { isStorable_ofOneDay with
    mappings := by
      simp only [ofRepeatedSymbol, List.forall_mem_cons]
      exact ⟨⟨by decide, by decide⟩, ⟨by decide, by decide⟩, ⟨by decide, by decide⟩,
        List.forall_mem_nil _⟩
    fieldsSize_le := by decide }

/-- Metadata that is read may hold a day of a symbol in a mapping that is not searched. -/
theorem resolve_misses_later_mapping :
    (∃ version block, decodeMetadata version block = .ok ofRepeatedSymbol) ∧
    FirstContaining ⟨2024, 3, 12, by decide⟩ (ofRepeatedSymbol.intervalsOf "ESH4") "17078" ∧
    ofRepeatedSymbol.resolve "ESH4" ⟨2024, 3, 12, by decide⟩ = none := by
  refine ⟨⟨_, _, isStorable_ofRepeatedSymbol.decodeMetadata_fieldBytes⟩, ?_, by decide +kernel⟩
  exact ⟨[_], _, [], rfl, by decide +kernel, by decide +kernel, rfl⟩

end Metadata

end TickWire
