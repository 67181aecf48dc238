/-!
# Coded enumerations

The wire format and the command line name the members of several small sets.  Each
member has one code, and some sets have a spelling for each member as well.  Reading
a code or a spelling is a search through the members, so reading back what is written
is one lemma for all sets.
-/

namespace TickWire

/-- A finite set of members with codes. -/
class Coded (α : Type) where
  /-- Every member, in the order of declaration. -/
  members : List α
  /-- The number that stands for a member. -/
  code : α → Nat
  /-- The name of a member in diagnostic output. -/
  name : α → String
  /-- The name of the set in diagnostic output. -/
  setName : String
  /-- The qualified name of the set in diagnostic output. -/
  setPath : String

namespace Coded

variable {α : Type} [Coded α]

/-- The member that a code stands for. -/
def ofCode? (raw : Nat) : Option α := members.find? fun member => code member == raw

theorem code_of_ofCode?_eq_some {raw : Nat} {member : α}
    (found : ofCode? raw = some member) : code member = raw := by
  simpa using List.find?_some found

/-- What is said of a code that stands for no member. -/
def unknownCode (α : Type) [Coded α] (raw : Nat) : String :=
  s!"No discriminant in enum `{setName α}` matches the value `{raw}`"

end Coded

/-- A set whose members are spelled on the command line and in requests. -/
class Spelled (α : Type) extends Coded α where
  /-- The spelling that is written. -/
  spelling : α → String
  /-- Further spellings that are read. -/
  aliases : List (String × α)

namespace Spelled

variable {α : Type} [Spelled α]

/-- The member with a given spelling. -/
def ofSpelling? (text : String) : Option α :=
  match Coded.members.find? fun member => spelling member == text with
  | some member => some member
  | none => (aliases.find? fun entry => entry.1 == text).map (·.2)

end Spelled

end TickWire
