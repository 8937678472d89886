import DataGateway.Text.Encoding
import DataGateway.Value.Comparison

/-!
# Misuse of values

What goes wrong when a value of one kind is used as if it were of another: iterating a number,
ordering a text against a list, taking the whole part of an infinity. `Misuse.label` names the class
of the mistake and `Misuse.message` describes it.
-/

namespace DataGateway

/-- A value used as something that it is not. -/
inductive Misuse
  | notIterable (kind : String)
  | notContainer (kind : String)
  | notMapping (kind : String)
  | notSubscriptable (kind : String)
  | textByName
  | itemsByName (kind : String)
  | unhashable (kind : String)
  | unordered (clash : Value.Clash)
  | pairExpected (index : Nat)
  | pairLength (index length : Nat)
  | noNumber (kind : String)
  | octetsForUrl
  | octetsExpected (kind : String)
  | startExpected (kind given : String)
  | startInTuple (given : String)
  | patternOnOctets
  | patternOn (kind : String)
  | noLength (kind : String)
  | documentKind (kind : String)
  | documentKey (kind : String)
  | documentDepth (kind : String)
  | documentNesting
  | copyNesting
  | noMember (kind member : String)
  | missingKey (key : String)
  | missingArgument (call name : String)
  | surplusArguments (call takes : String) (given : Nat)
  | unknownArgument (call name : String)
  | repeatedArgument (call name : String)
  | journalName
  | wholeMalformed (given : String)
  | wholeTooLong (digits : Nat)
  | wholeUnwritable
  | fractionMalformed (given : String)
  | indefiniteWhole
  | infiniteWhole
  | quotientTooLarge
  | dateRange
  | undecodable (fault : Text.Encoding.Fault)
  | exhausted
  | undefined

namespace Misuse

def label : Misuse → String
  | notIterable _ | notContainer _ | notMapping _ | notSubscriptable _ | textByName
  | itemsByName _ | unhashable _ | unordered _ | pairExpected _ | noNumber _ | octetsForUrl
  | octetsExpected _ | startExpected _ _ | startInTuple _ | patternOnOctets | patternOn _
  | noLength _ | documentKind _ | documentKey _ | missingArgument _ _ | surplusArguments _ _ _
  | unknownArgument _ _ | repeatedArgument _ _ | journalName => "TypeError"
  | noMember _ _ => "AttributeError"
  | missingKey _ => "KeyError"
  | pairLength _ _ | wholeMalformed _ | wholeTooLong _ | wholeUnwritable | fractionMalformed _
  | indefiniteWhole => "ValueError"
  | infiniteWhole | quotientTooLarge | dateRange => "OverflowError"
  | undecodable _ => "UnicodeDecodeError"
  | documentDepth _ | documentNesting | copyNesting => "RecursionError"
  | exhausted => "RuntimeError"
  | undefined => "NotImplementedError"

def message : Misuse → String
  | notIterable kind => s!"\x27{kind}\x27 object is not iterable"
  | notContainer kind => s!"argument of type \x27{kind}\x27 is not iterable"
  | notMapping kind => s!"\x27{kind}\x27 object is not a mapping"
  | notSubscriptable kind => s!"\x27{kind}\x27 object is not subscriptable"
  | textByName => "string indices must be integers, not \x27str\x27"
  | itemsByName kind => s!"{kind} indices must be integers or slices, not str"
  | unhashable kind => s!"unhashable type: \x27{kind}\x27"
  | unordered clash =>
    s!"\x27<\x27 not supported between instances of \x27{clash.left}\x27 and \x27{clash.right}\x27"
  | pairExpected index =>
    s!"cannot convert dictionary update sequence element #{index} to a sequence"
  | pairLength index length =>
    s!"dictionary update sequence element #{index} has length {length}; 2 is required"
  | noNumber kind =>
    s!"int() argument must be a string, a bytes-like object or a real number, not \x27{kind}\x27"
  | octetsForUrl => "quote_from_bytes() expected bytes"
  | octetsExpected kind => s!"a bytes-like object is required, not \x27{kind}\x27"
  | startExpected kind given =>
    s!"startswith first arg must be {kind} or a tuple of {kind}, not {given}"
  | startInTuple given => s!"tuple for startswith must only contain str, not {given}"
  | patternOnOctets => "cannot use a string pattern on a bytes-like object"
  | patternOn kind => s!"expected string or bytes-like object, got \x27{kind}\x27"
  | noLength kind => s!"object of type \x27{kind}\x27 has no len()"
  | documentKind kind => s!"the JSON object must be str, bytes or bytearray, not {kind}"
  | documentKey kind => s!"keys must be str, int, float, bool or None, not {kind}"
  | documentDepth kind =>
    s!"maximum recursion depth exceeded while decoding a JSON {kind} from a unicode string"
  | documentNesting => "maximum recursion depth exceeded while encoding a JSON object"
  | copyNesting => "maximum recursion depth exceeded while calling a Python object"
  | noMember kind member => s!"\x27{kind}\x27 object has no attribute \x27{member}\x27"
  | missingKey key => key
  | missingArgument call name => s!"{call}() missing 1 required positional argument: \x27{name}\x27"
  | surplusArguments call takes given =>
    s!"{call}() takes {takes} positional arguments but {given} were given"
  | unknownArgument call name => s!"{call}() got an unexpected keyword argument \x27{name}\x27"
  | repeatedArgument call name => s!"{call}() got multiple values for argument \x27{name}\x27"
  | journalName => "A logger name must be a string"
  | wholeMalformed given => s!"invalid literal for int() with base 10: {given}"
  | wholeTooLong digits =>
    s!"Exceeds the limit (4300 digits) for integer string conversion: value has {digits} digits; " ++
      "use sys.set_int_max_str_digits() to increase the limit"
  | wholeUnwritable =>
    "Exceeds the limit (4300 digits) for integer string conversion; " ++
      "use sys.set_int_max_str_digits() to increase the limit"
  | fractionMalformed given => s!"could not convert string to float: {given}"
  | indefiniteWhole => "cannot convert float NaN to integer"
  | infiniteWhole => "cannot convert float infinity to integer"
  | quotientTooLarge => "integer division result too large for a float"
  | dateRange => "date value out of range"
  | undecodable fault => fault.text
  | exhausted => "coroutine raised StopIteration"
  | undefined => ""

end Misuse

end DataGateway
