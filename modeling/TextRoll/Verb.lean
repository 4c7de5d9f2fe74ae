/-
TextRoll/Verb.lean

What can be asked of a value, and what can be asked of the library itself.

Not every value knows every verb; one that does not is told by the verb's name,
the word that messages use for it.
-/

namespace TextRoll

/-- What can be asked of a value. -/
inductive Verb
  -- of most values
  | length
  | truth
  | written
  | printed
  | hash
  | elements
  | contains
  | walk
  | next
  | assign
  -- of buffers
  | append
  | appendLine
  | extend
  | build
  | clear
  | copy
  -- of rolls
  | add
  | addBuffer
  | reserve
  | remove
  | removeAt
  | current
  | bookmark
  | get
  | texts
  | seek
  | advance
  | retreat
  | rewind
  | cursor
  | capacity
  | generation
  | reallocations
  | policy
  | withCapacity
  -- of bookmarks
  | index
  | isCurrent
  -- of policies
  | defaultCapacity
  | growthFactor
  | maxCapacity
  | releaseOnClear
  | ofRecord
  -- of tallies
  | recordGrowth
  | summary
  | events
  | slotsAllocated
  | peakCapacity
  /-- A word that no value knows. -/
  | other (name : String)
deriving DecidableEq, Repr

namespace Verb

/-- All verbs that some value knows. -/
def all : List Verb :=
  [.length, .truth, .written, .printed, .hash, .elements, .contains, .walk, .next, .assign, .append,
    .appendLine, .extend, .build, .clear, .copy, .add, .addBuffer, .reserve, .remove, .removeAt,
    .current, .bookmark, .get, .texts, .seek, .advance, .retreat, .rewind, .cursor, .capacity,
    .generation, .reallocations, .policy, .withCapacity, .index, .isCurrent, .defaultCapacity,
    .growthFactor, .maxCapacity, .releaseOnClear, .ofRecord, .recordGrowth, .summary, .events,
    .slotsAllocated, .peakCapacity]

/-- The word that messages use for a verb. -/
def name : Verb → String
  | length => "len"
  | truth => "bool"
  | written => "str"
  | printed => "repr"
  | hash => "hash"
  | elements => "to_list"
  | contains => "contains"
  | walk => "iter"
  | next => "next"
  | assign => "setattr"
  | append => "append"
  | appendLine => "append_line"
  | extend => "extend"
  | build => "build"
  | clear => "clear"
  | copy => "copy"
  | add => "add"
  | addBuffer => "add_builder"
  | reserve => "reserve"
  | remove => "remove"
  | removeAt => "remove_at"
  | current => "current"
  | bookmark => "current_ref"
  | get => "get"
  | texts => "strings"
  | seek => "seek"
  | advance => "advance"
  | retreat => "retreat"
  | rewind => "rewind"
  | cursor => "cursor"
  | capacity => "capacity"
  | generation => "generation"
  | reallocations => "reallocations"
  | policy => "config"
  | withCapacity => "with_capacity"
  | index => "index"
  | isCurrent => "is_valid"
  | defaultCapacity => "default_capacity"
  | growthFactor => "growth_factor"
  | maxCapacity => "max_capacity"
  | releaseOnClear => "release_on_clear"
  | ofRecord => "from_dict"
  | recordGrowth => "record_growth"
  | summary => "summary"
  | events => "events"
  | slotsAllocated => "slots_allocated"
  | peakCapacity => "peak_capacity"
  | other name => name

/-- The verb with a name. -/
def ofName (s : String) : Verb := (all.find? (·.name == s)).getD (.other s)

end Verb

/-- What can be asked of the library itself. -/
inductive Service
  | makeBuffer
  | makeRoll
  | makeGuard
  | makeBookmark
  | makeTally
  | activePolicy
  | usePolicy
  | resetPolicy
  | activeTally
  | equal
  | unequal
  | raise
deriving DecidableEq, Repr

/-- The word that messages use for a service. -/
def Service.name : Service → String
  | makeBuffer => "StringBuilder"
  | makeRoll => "StringList"
  | makeGuard => "LockedStringList"
  | makeBookmark => "CursorRef"
  | makeTally => "GrowthAccumulator"
  | activePolicy => "get_list_config"
  | usePolicy => "set_list_config"
  | resetPolicy => "reset_list_config"
  | activeTally => "get_growth_accumulator"
  | equal => "eq"
  | unequal => "ne"
  | raise => "raise"

end TextRoll
