/-
TextRoll/Kind.lean

The kinds of value a session can hold, with the word that messages use for each.
-/

namespace TextRoll

/-- What a walk goes over. -/
inductive WalkKind
  /-- A roll, one slot after the other. -/
  | slots
  /-- A list, copied elements or the growths of a tally. -/
  | items
  /-- The characters of a text that are all among the first 128. -/
  | plainCharacters
  | characters
  | octets
  /-- The names in a record. -/
  | names
  /-- The two numbers of a growth. -/
  | pair
deriving DecidableEq, Repr

/-- What kind of thing a value is. -/
inductive Kind
  | null
  | bool
  | int
  | real
  | text
  | bytes
  | list
  | record
  | buffer
  | roll
  | guarded
  | bookmark
  | policy
  | tally
  | growth
  | walk (subject : WalkKind)
deriving DecidableEq, Repr

/-- The word that messages use for a walk. -/
def WalkKind.name : WalkKind → String
  | .slots => "generator"
  | .items => "list_iterator"
  | .plainCharacters => "str_ascii_iterator"
  | .characters => "str_iterator"
  | .octets => "bytes_iterator"
  | .names => "dict_keyiterator"
  | .pair => "tuple_iterator"

/-- The word that messages use for a kind. -/
def Kind.name : Kind → String
  | .null => "NoneType"
  | .bool => "bool"
  | .int => "int"
  | .real => "float"
  | .text => "str"
  | .bytes => "bytes"
  | .list => "list"
  | .record => "dict"
  | .buffer => "StringBuilder"
  | .roll => "StringList"
  | .guarded => "LockedStringList"
  | .bookmark => "CursorRef"
  | .policy => "ListConfig"
  | .tally => "GrowthAccumulator"
  | .growth => "tuple"
  | .walk subject => subject.name

end TextRoll
