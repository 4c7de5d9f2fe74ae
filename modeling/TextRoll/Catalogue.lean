/-
TextRoll/Catalogue.lean

What the library says about itself: its version, and the names it offers.
-/

namespace TextRoll

namespace Catalogue

/-- The version. -/
def version : String := "0.1.0"

/-- The names on offer, in alphabetical order. -/
def names : List String :=
  ["AllocationFailureError", "CursorRef", "EmptyCollectionError", "GrowthAccumulator",
    "ListConfig", "LockedStringList", "OutOfRangeError", "StaleReferenceError", "StrListError",
    "StringBuilder", "StringList", "__version__", "create", "create_with_capacity",
    "get_growth_accumulator", "get_list_config", "list_config_context", "profiled_growth",
    "reset_list_config", "set_list_config"]

end Catalogue

end TextRoll
