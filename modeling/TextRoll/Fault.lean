/-
TextRoll/Fault.lean

Why a request can fail.

A fault is a cause with the facts that belong to it; `Fault.message` is the one
place where causes are put into words.  Two families matter to callers: the
faults of rolls themselves (`Fault.isOwn`), which carry their facts as
attributes, and those that a general handler for bad indices catches as well
(`Fault.isIndexFault`).

The facts of the first family are values, since anyone may make such a fault from
values of their own; how a value is written is a parameter of the wording.  What
the wording mentions (`Fault.mentioned`) must be possible to write out: a fault
that mentions a number too long for that comes out as `tooManyDigits`.
-/
import TextRoll.Text.Quoted
import TextRoll.Text.Unprintable
import TextRoll.Value

namespace TextRoll

/-- The cause of a failure. -/
inductive Fault
  /-- A failure with a text of its own, if any, and no further facts. -/
  | general (text : Option Value)
  /-- An operation that needs an element met an empty roll. -/
  | emptyRoll (operation : Value)
  /-- An index outside the elements of a roll. -/
  | outOfRange (index length : Value)
  /-- Storage could not grow to the slots asked for: past the limit if there is one, or because
  memory ran out. -/
  | allocation (requested limit : Value) (outOfMemory : Bool)
  /-- A bookmark was used after its roll had changed. -/
  | staleBookmark (created current : Value)
  /-- More new slots than any index can address. -/
  | sizeOverflow
  /-- A number too long to be written out. -/
  | tooManyDigits
  /-- An index too wide for any storage. -/
  | indexOverflow
  /-- A slot that the storage does not have. -/
  | missingSlot
  /-- An index that is no whole number. -/
  | indexExpected (got : Kind)
  /-- A number of slots that is no whole number. -/
  | slotsExpected (got : Kind)
  /-- A slot with nothing in it was asked to do something. -/
  | emptySlot (wanted : String)
  /-- An operation takes texts only. -/
  | textExpected (operation : String) (got : Kind)
  /-- An operation takes buffers only. -/
  | bufferExpected (got : Kind)
  /-- Two values were compared that have no order; `sign` says how. -/
  | notOrdered (sign : String) (left right : Kind)
  /-- Something was added to a figure that is no number. -/
  | cannotAdd (owner added : Kind)
  | cannotSubtract (left right : Kind)
  /-- A whole number past all numbers with a point. -/
  | realOverflow
  /-- A roll was asked for with a capacity below zero. -/
  | negativeCapacity (capacity : Value)
  /-- A field of a policy is not a whole number. -/
  | countExpected (field : String) (got : Kind)
  /-- A field of a policy is below its least value. -/
  | countTooSmall (field : String) (least : Nat) (got : Int)
  /-- A policy has no such field. -/
  | unknownField (name : String)
  /-- A field was given that is not for callers to give. -/
  | reservedField (name : String)
  /-- A field of a policy cannot be assigned. -/
  | frozenField (name : String)
  /-- Something that is no field of a policy cannot be assigned either. -/
  | foreignField
  /-- The name of a field is no text. -/
  | fieldNameExpected (got : Kind)
  | unhashable (got : Kind)
  | notIterable (got : Kind)
  | notIterator (got : Kind)
  | notContainer (got : Kind)
  /-- A text contains texts only. -/
  | pieceExpected (got : Kind)
  /-- Octets contain octets only. -/
  | octetsExpected (got : Kind)
  /-- A number that is no octet. -/
  | octetOutOfRange
  /-- A number that is no octet was written where octets are needed. -/
  | octetsOutOfRange
  | noLength (got : Kind)
  | missingAttribute (owner : Kind) (name : String)
  /-- A walk has nothing left to hand out. -/
  | exhausted
  /-- A failure that a script asked for. -/
  | raised (text : String)
  /-- A script named a register that holds nothing. -/
  | unsetRegister (name : String)
  /-- A request came with arguments it has no use for. -/
  | badArguments (operation : String)

namespace Fault

/-- The wording of an attempt to add something to a figure that is no number. -/
def additionMessage (owner added : Kind) : String :=
  match owner with
  | .text | .growth =>
    "can only concatenate " ++ owner.name ++ " (not \"" ++ added.name ++ "\") to " ++ owner.name
  | .bytes => "can't concat " ++ added.name ++ " to " ++ owner.name
  | .list => "'" ++ added.name ++ "' object is not iterable"
  | _ => "unsupported operand type(s) for +=: '" ++ owner.name ++ "' and '" ++ added.name ++ "'"

/-- The wording of a failure; `written` gives the written form of a fact. -/
def message (written : Value → String) : Fault → String
  | general none => ""
  | general (some text) => written text
  | emptyRoll operation => written operation ++ "() on an empty StringList"
  | outOfRange index length =>
    "index " ++ written index ++ " out of range for StringList of length " ++ written length
  | allocation requested .null _ => "cannot allocate " ++ written requested ++ " slots"
  | allocation requested limit _ =>
    "cannot grow to " ++ written requested ++ " slots (max_capacity=" ++ written limit ++ ")"
  | staleBookmark created current =>
    "reference from generation " ++ written created ++ " used at generation " ++ written current
  | sizeOverflow => "cannot fit 'int' into an index-sized integer"
  | tooManyDigits =>
    "Exceeds the limit (4300 digits) for integer string conversion; "
      ++ "use sys.set_int_max_str_digits() to increase the limit"
  | indexOverflow => "cannot fit 'int' into an index-sized integer"
  | missingSlot => "list index out of range"
  | indexExpected got => "list indices must be integers or slices, not " ++ got.name
  | slotsExpected got => "can't multiply sequence by non-int of type '" ++ got.name ++ "'"
  | emptySlot wanted => "'" ++ Kind.null.name ++ "' object has no attribute '" ++ wanted ++ "'"
  | textExpected operation got => operation ++ "() expects str, got " ++ got.name
  | bufferExpected got => "add_builder() expects StringBuilder, got " ++ got.name
  | notOrdered sign left right =>
    "'" ++ sign ++ "' not supported between instances of '" ++ left.name ++ "' and '"
      ++ right.name ++ "'"
  | cannotAdd owner added => additionMessage owner added
  | cannotSubtract left right =>
    "unsupported operand type(s) for -: '" ++ left.name ++ "' and '" ++ right.name ++ "'"
  | realOverflow => "int too large to convert to float"
  | negativeCapacity capacity => "capacity must be >= 0, got " ++ written capacity
  | countExpected field got => field ++ " must be an int, got " ++ got.name
  | countTooSmall field least got => s!"{field} must be >= {least}, got {got}"
  | unknownField name => "ListConfig.__init__() got an unexpected keyword argument '" ++ name ++ "'"
  | reservedField name =>
    "ListConfig.__init__() got multiple values for argument '" ++ name ++ "'"
  | frozenField name => "cannot assign to field '" ++ name ++ "'"
  | foreignField => "super(type, obj): obj must be an instance or subtype of type"
  | fieldNameExpected got => "attribute name must be string, not '" ++ got.name ++ "'"
  | unhashable got => "unhashable type: '" ++ got.name ++ "'"
  | notIterable got => "'" ++ got.name ++ "' object is not iterable"
  | notIterator got => "'" ++ got.name ++ "' object is not an iterator"
  | notContainer got => "argument of type '" ++ got.name ++ "' is not iterable"
  | pieceExpected got => "'in <string>' requires string as left operand, not " ++ got.name
  | octetsExpected got => "a bytes-like object is required, not '" ++ got.name ++ "'"
  | octetOutOfRange => "byte must be in range(0, 256)"
  | octetsOutOfRange => "bytes must be in range(0, 256)"
  | noLength got => "object of type '" ++ got.name ++ "' has no len()"
  | missingAttribute owner name => "'" ++ owner.name ++ "' object has no attribute '" ++ name ++ "'"
  | exhausted => ""
  | raised text => text
  | unsetRegister name => quoted isUnprintable name
  | badArguments operation => operation ++ "() got arguments it cannot use"

/-- The values that the wording mentions. -/
def mentioned : Fault → List Value
  | general text => text.toList
  | emptyRoll operation => [operation]
  | outOfRange index length => [index, length]
  | allocation requested limit _ => [requested, limit]
  | staleBookmark created current => [created, current]
  | negativeCapacity capacity => [capacity]
  | countTooSmall _ _ got => [.ofInt got]
  | _ => []

/-- The facts that a failure carries for its handlers. -/
def facts : Fault → List Value
  | emptyRoll operation => [operation]
  | outOfRange index length => [index, length]
  | allocation requested limit _ => [requested, limit]
  | staleBookmark created current => [created, current]
  | _ => []

/-- Whether a failure is one of the faults that rolls define for themselves. -/
def isOwn : Fault → Bool
  | general _ | emptyRoll _ | outOfRange .. | allocation .. | staleBookmark .. => true
  | _ => false

/-- Whether a handler for bad indices catches the failure. -/
def isIndexFault : Fault → Bool
  | outOfRange .. | missingSlot | indexOverflow => true
  | _ => false

end Fault

end TextRoll
