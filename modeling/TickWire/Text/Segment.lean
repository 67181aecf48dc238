/-!
# Segments

Text that is divided by a separator.  `Segment.split` gives the parts between
separators, of which there is always at least one; `Segment.join` is its inverse on parts
without separators.
-/

namespace TickWire.Segment

/-- The parts of a text between separators. -/
def split (separator : Char) : List Char → List (List Char)
  | [] => [[]]
  | char :: rest =>
    if char = separator then [] :: split separator rest
    else match split separator rest with
      | [] => [[char]]
      | first :: others => (char :: first) :: others

/-- The parts with a separator between each two of them. -/
def join (separator : Char) : List (List Char) → List Char
  | [] => []
  | [part] => part
  | part :: others => part ++ separator :: join separator others

/-- The text before and after the first separator, if there is one. -/
def splitFirst? (separator : Char) : List Char → Option (List Char × List Char)
  | [] => none
  | char :: rest =>
    if char = separator then some ([], rest)
    else (splitFirst? separator rest).map fun parts => (char :: parts.1, parts.2)

/-- The text before and after the last separator, if there is one. -/
def splitLast? (separator : Char) (text : List Char) : Option (List Char × List Char) :=
  (splitFirst? separator text.reverse).map fun parts => (parts.2.reverse, parts.1.reverse)

/-- The text after an opening, if it begins with that. -/
def dropOpening? : (opening text : List Char) → Option (List Char)
  | [], text => some text
  | _ :: _, [] => none
  | expected :: opening, char :: text =>
    if expected = char then dropOpening? opening text else none

theorem split_ne_nil (separator : Char) (text : List Char) : split separator text ≠ [] := by
  cases text with
  | nil => simp [split]
  | cons char rest =>
      simp only [split]
      split
      · simp
      · split <;> simp

/-! ## Splitting what was joined -/

variable {separator : Char} {part : List Char} {parts : List (List Char)}

theorem join_cons_cons (separator : Char) (first second : List Char)
    (others : List (List Char)) :
    join separator (first :: second :: others) =
      first ++ separator :: join separator (second :: others) := rfl

/-- Splitting takes off a first part that holds no separator. -/
theorem split_append_cons (free : separator ∉ part) (text : List Char) :
    split separator (part ++ separator :: text) = part :: split separator text := by
  induction part with
  | nil => simp [split]
  | cons char rest ih =>
      rw [List.mem_cons, not_or] at free
      simp only [List.cons_append, split, if_neg (Ne.symm free.1), ih free.2]

theorem split_of_not_mem (free : separator ∉ part) : split separator part = [part] := by
  induction part with
  | nil => rfl
  | cons char rest ih =>
      rw [List.mem_cons, not_or] at free
      simp only [split, if_neg (Ne.symm free.1), ih free.2]

/-- Splitting gives the parts that were joined, if there is one and none holds a
separator. -/
theorem split_join (nonempty : parts ≠ []) (free : ∀ part ∈ parts, separator ∉ part) :
    split separator (join separator parts) = parts := by
  induction parts with
  | nil => contradiction
  | cons part others ih =>
      rw [List.forall_mem_cons] at free
      cases others with
      | nil => exact split_of_not_mem free.1
      | cons second others =>
          rw [join_cons_cons, split_append_cons free.1, ih (List.cons_ne_nil _ _) free.2]

/-- What is joined holds the characters of its parts, and separators. -/
theorem eq_or_mem_of_mem_join {char : Char} (member : char ∈ join separator parts) :
    char = separator ∨ ∃ part ∈ parts, char ∈ part := by
  induction parts with
  | nil => cases member
  | cons part others ih =>
      cases others with
      | nil => exact .inr ⟨part, List.mem_singleton_self part, member⟩
      | cons second others =>
          rw [join_cons_cons, List.mem_append, List.mem_cons] at member
          rcases member with inPart | isSeparator | inOthers
          · exact .inr ⟨part, List.mem_cons_self, inPart⟩
          · exact .inl isSeparator
          · obtain isSeparator | ⟨other, listed, inOther⟩ := ih inOthers
            · exact .inl isSeparator
            · exact .inr ⟨other, List.mem_cons_of_mem part listed, inOther⟩

theorem mem_join_of_mem {char : Char} (listed : part ∈ parts) (inPart : char ∈ part) :
    char ∈ join separator parts := by
  induction parts with
  | nil => cases listed
  | cons first others ih =>
      cases others with
      | nil => exact List.mem_singleton.mp listed ▸ inPart
      | cons second others =>
          rw [join_cons_cons, List.mem_append, List.mem_cons]
          rcases List.mem_cons.mp listed with rfl | later
          · exact .inl inPart
          · exact .inr (.inr (ih later))

/-! ## The first separator -/

/-- A text is divided where it holds a separator and none before that. -/
theorem splitFirst?_eq_some_iff {text front back : List Char} :
    splitFirst? separator text = some (front, back) ↔
      text = front ++ separator :: back ∧ separator ∉ front := by
  induction text generalizing front with
  | nil => simp [splitFirst?]
  | cons char rest ih =>
      rw [splitFirst?]
      split
      next same =>
        subst same
        cases front with
        | nil => simp
        | cons first others =>
            simp only [Option.some.injEq, Prod.mk.injEq, List.cons_append, List.cons.injEq,
              List.mem_cons, not_or]
            constructor
            · rintro ⟨impossible, -⟩
              cases impossible
            · rintro ⟨⟨same, -⟩, different, -⟩
              exact absurd same different
      next different =>
        rw [Option.map_eq_some_iff]
        constructor
        · rintro ⟨⟨first, later⟩, found, same⟩
          cases same
          obtain ⟨rfl, free⟩ := ih.mp found
          exact ⟨rfl, List.not_mem_cons_of_ne_of_not_mem (Ne.symm different) free⟩
        · rintro ⟨whole, free⟩
          cases front with
          | nil => exact absurd (List.cons.inj whole).1 different
          | cons first others =>
              obtain ⟨rfl, rest⟩ := List.cons.inj whole
              have found := ih.mpr ⟨rest, List.not_mem_of_not_mem_cons free⟩
              exact ⟨(others, back), found, rfl⟩

theorem exists_splitFirst?_iff {text : List Char} :
    (∃ parts, splitFirst? separator text = some parts) ↔ separator ∈ text := by
  constructor
  · rintro ⟨⟨front, back⟩, found⟩
    rw [(splitFirst?_eq_some_iff.mp found).1]
    simp
  · intro member
    obtain ⟨front, back, whole, free⟩ := List.eq_append_cons_of_mem member
    exact ⟨(front, back), splitFirst?_eq_some_iff.mpr ⟨whole, free⟩⟩

/-! ## Openings -/

theorem dropOpening?_eq_some_iff {opening text rest : List Char} :
    dropOpening? opening text = some rest ↔ text = opening ++ rest := by
  induction opening generalizing text with
  | nil => simp [dropOpening?]
  | cons expected opening ih =>
      cases text with
      | nil => simp [dropOpening?]
      | cons char text =>
          rw [dropOpening?]
          split
          next same => simp [ih, same]
          next different => simp [Ne.symm different]

/-! ## Counting separators -/

/-- There is one part more than there are separators. -/
theorem length_split (separator : Char) (text : List Char) :
    (split separator text).length = text.count separator + 1 := by
  induction text with
  | nil => rfl
  | cons char rest ih =>
      by_cases same : char = separator
      · subst same
        rw [split, if_pos rfl, List.length_cons, ih, List.count_cons_self]
      · rw [split, if_neg same, List.count_cons_of_ne same, ← ih]
        cases parts : split separator rest with
        | nil => exact absurd parts (split_ne_nil separator rest)
        | cons first others => rfl

theorem length_le_count_join (separator : Char) (parts : List (List Char)) :
    parts.length ≤ (join separator parts).count separator + 1 := by
  induction parts with
  | nil => exact Nat.zero_le _
  | cons part others ih =>
      cases others with
      | nil => simp
      | cons second others =>
          rw [join_cons_cons, List.count_append, List.count_cons_self, List.length_cons]
          omega

/-- Joining puts in no more separators than it needs, so any other comes from a part. -/
theorem forall_notMem_of_length_split_join
    (same : (split separator (join separator parts)).length = parts.length) :
    ∀ part ∈ parts, separator ∉ part := by
  rw [length_split] at same
  induction parts with
  | nil => exact List.forall_mem_nil _
  | cons part others ih =>
      cases others with
      | nil =>
          have none : part.count separator = 0 := Nat.succ.inj same
          simpa using List.count_eq_zero.mp none
      | cons second others =>
          have atLeast := length_le_count_join separator (second :: others)
          rw [join_cons_cons, List.count_append, List.count_cons_self, List.length_cons] at same
          have none : part.count separator = 0 := by omega
          exact List.forall_mem_cons.mpr ⟨List.count_eq_zero.mp none, ih (by omega)⟩

end TickWire.Segment
