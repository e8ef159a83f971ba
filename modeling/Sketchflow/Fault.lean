import Sketchflow.Number.Numeral
import Sketchflow.Value.Text

/-!
# Faults

Why a program, or a call on its host or canvas, stops. A fault is a cause; `Fault.message` puts it
in words and `Fault.kind` sorts the causes into classes.
-/

namespace Sketchflow

inductive ZeroDivision where
  | quotient
  | floatQuotient
  /-- A whole quotient of integers. -/
  | whole
  | remainder
  /-- A whole quotient with a double. -/
  | floatWhole
  | floatRemainder
  /-- Zero to a negative power. -/
  | power
  | complexQuotient
  /-- Zero to a power that is negative or not real. -/
  | complexPower
  deriving Repr, DecidableEq

/-- The number that grew too large. -/
inductive Overflow where
  /-- An infinity that should become an integer. -/
  | infinity
  /-- An integer that should become a double. -/
  | integer
  | quotient
  | power
  /-- An integer that should count items. -/
  | count
  | text
  | complexPower
  /-- The length of a complex number. -/
  | magnitude
  /-- A double rounded to a number of places. -/
  | rounding
  deriving Repr, DecidableEq

/-- What is wrong with a text whose placeholders are filled in. -/
inductive FillFault where
  /-- The placeholders end before the values do. -/
  | leftOver
  /-- The values end before the placeholders do. -/
  | tooFew
  /-- A placeholder that ends with the text. -/
  | incomplete
  /-- The name of an entry that ends with the text. -/
  | incompleteKey
  /-- The name of an entry, but the values are no table. -/
  | noTable
  /-- A width that is taken from the values and is no integer. -/
  | noCount
  | wideWidth
  | wideCount
  | longPrecision
  | longPrecisionCount
  /-- A letter that stands for no conversion, and where it is. -/
  | noConversion (letter : Char) (index : Nat)
  /-- A conversion of numbers on a value of another kind. -/
  | notNumber (letter : Char) (kind : String)
  /-- A conversion of integers on a value of another kind. -/
  | notWhole (letter : Char) (kind : String)
  /-- A character by a code that is none. -/
  | noCode
  | notCharacter
  deriving Repr, DecidableEq

/-- A cause to stop. Texts in the arguments are names of kinds unless said otherwise. -/
inductive Fault where
  /-- The program text is not well formed. -/
  | malformed
  /-- The program text has a character of code zero. -/
  | nullCharacter
  /-- A name that stands for nothing. -/
  | undefined (name : String)
  /-- A name of the function at hand that has no value yet. -/
  | unassigned (name : String)
  /-- A name of the enclosing program that has no value yet. -/
  | unassignedOuter (name : String)
  | noAttribute (kind name : String)
  | noMember (library name : String)
  | noKindAttribute (kind name : String)
  | missingKey (key : Value)
  /-- A position past the end. -/
  | outOfRange (kind : String)
  /-- A position past every end. -/
  | farIndex
  /-- An operator and the kinds of operands it does not take. -/
  | operands (op left right : String)
  | concatenation (kind other : String)
  | repetition (count : String)
  | fill (cause : FillFault)
  | unaryOperand (op kind : String)
  | magnitude (kind : String)
  | order (op left right : String)
  | notReal (kind : String)
  | notFloat (kind : String)
  | notInteger (kind : String)
  | notIndex (kind : String)
  | notPosition (sequence kind : String)
  /-- A limit that counts nothing. -/
  | notLimit
  | notCallable (kind : String)
  | noLength (kind : String)
  | noRounding (kind : String)
  | unhashable (kind : String)
  | textMembership (kind : String)
  | notContainer (kind : String)
  | notText (kind : String)
  /-- Kinds to test for that are no kinds. -/
  | notKinds
  | notIterable (kind : String)
  | notSubscriptable (kind : String)
  /-- An item of a kind itself. -/
  | kindNotSubscriptable (kind : String)
  | notItemAssignable (kind : String)
  /-- A call with too few arguments: the callee and the parameters without one. -/
  | missingArguments (callee : String) (parameters : List String)
  /-- A call with too many arguments: the callee and how many it takes. -/
  | tooManyArguments (callee : String) (least most given : Nat)
  | atLeast (callee : String) (least given : Nat)
  | atMost (callee : String) (most given : Nat)
  | exactlyOne (callee : String) (given : Nat)
  /-- A call with arguments, though the callee takes none. -/
  | noneTaken (callee : String) (given : Nat)
  /-- A call with another number of arguments than the one it takes. -/
  | exactly (callee : String) (taken given : Nat)
  /-- A call with more arguments than parameters: the callee and how many it takes. -/
  | beyond (callee : String) (most given : Nat)
  /-- A call without its first argument: the callee and the parameter. -/
  | withoutFirst (callee parameter : String)
  | zeroDivision (which : ZeroDivision)
  | overflow (which : Overflow)
  | nanToInteger
  | badFloat (text : String)
  | badInteger (base : Nat) (text : String)
  /-- A base that numerals are not read in. -/
  | noBase
  /-- A value that is no text, read in a base. -/
  | baseOfNumber
  /-- An argument for the decoding of a text: the parameter and what is wrong with it. -/
  | notDecoding (parameter kind : String)
  /-- A text that is to be decoded, or a value that cannot be. -/
  | notDecoded (kind : String)
  /-- A numeral of more digits than are read. -/
  | longNumeral (digits : Nat)
  /-- An integer of more digits than are written. -/
  | longInteger
  | mathDomain
  | negativeShift
  | noItems (callee : String)
  /-- A value that no memory can hold. -/
  | tooLarge
  /-- A failure a rehearsal asks for. -/
  | raised (message : String)
  /-- Too many calls stand inside each other. -/
  | exhausted
  /-- A function that every program has and that is left out here: what it does is not told. -/
  | leftOut (name : String)
  /-- A program asks for the end of everything, with a value for what is outside. -/
  | exit (code : Value)

namespace Fault

inductive Kind where
  | malformed
  | name
  | unassigned
  | attribute
  | key
  | index
  | type
  | zeroDivision
  | overflow
  | value
  | memory
  | raised
  | exhausted
  | leftOut
  | exit
  deriving Repr, DecidableEq

/-- The class of a fault in the filling of placeholders. -/
def fillKind : FillFault → Kind
  | .incomplete => .value
  | .incompleteKey => .value
  | .wideWidth => .value
  | .longPrecision => .value
  | .noConversion .. => .value
  | .wideCount => .overflow
  | .longPrecisionCount => .overflow
  | .noCode => .overflow
  | _ => .type

def kind : Fault → Kind
  | .malformed => .malformed
  | .nullCharacter => .value
  | .undefined _ => .name
  | .unassigned _ => .unassigned
  | .unassignedOuter _ => .name
  | .noAttribute .. => .attribute
  | .noMember .. => .attribute
  | .noKindAttribute .. => .attribute
  | .missingKey _ => .key
  | .outOfRange _ => .index
  | .farIndex => .index
  | .fill cause => fillKind cause
  | .zeroDivision _ => .zeroDivision
  | .overflow _ => .overflow
  | .nanToInteger => .value
  | .badFloat _ => .value
  | .badInteger .. => .value
  | .noBase => .value
  | .longNumeral _ => .value
  | .longInteger => .value
  | .mathDomain => .value
  | .negativeShift => .value
  | .noItems _ => .value
  | .tooLarge => .memory
  | .raised _ => .raised
  | .exhausted => .exhausted
  | .leftOut _ => .leftOut
  | .exit _ => .exit
  | _ => .type

/-- Whether a fault ends what called into the program as well: nothing holds it. -/
def isFinal (f : Fault) : Bool :=
  f.kind == .exit

/-- A text between single quotes. -/
def inQuotes (s : String) : String := "'" ++ s ++ "'"

/-- Names in quotes, with commas and an "and" between them. -/
def enumerate : List String → String
  | [] => ""
  | [a] => inQuotes a
  | [a, b] => inQuotes a ++ " and " ++ inQuotes b
  | names =>
    let quoted := names.map inQuotes
    Text.joinWith ", " quoted.dropLast ++ ", and " ++ quoted.getLastD ""

/-- A count and a noun, in the plural unless the count is one. -/
def counted (n : Nat) (noun : String) : String :=
  s!"{n} {noun}" ++ (if n == 1 then "" else "s")

def divisionMessage : ZeroDivision → String
  | .quotient => "division by zero"
  | .floatQuotient => "float division by zero"
  | .whole => "integer division or modulo by zero"
  | .remainder => "integer modulo by zero"
  | .floatWhole => "float floor division by zero"
  | .floatRemainder => "float modulo"
  | .power => "0.0 cannot be raised to a negative power"
  | .complexQuotient => "complex division by zero"
  | .complexPower => "0.0 to a negative or complex power"

def overflowMessage : Overflow → String
  | .infinity => "cannot convert float infinity to integer"
  | .integer => "int too large to convert to float"
  | .quotient => "integer division result too large for a float"
  | .power => "(34, 'Numerical result out of range')"
  | .count => "cannot fit 'int' into an index-sized integer"
  | .text => "repeated string is too long"
  | .complexPower => "complex exponentiation"
  | .magnitude => "absolute value too large"
  | .rounding => "rounded value too large to represent"

/-- How many arguments a callee takes and how many it got, in words. -/
def tooManyMessage (callee : String) (least most given : Nat) : String :=
  let takes :=
    if least == most then counted most "positional argument"
    else s!"from {least} to {most} positional arguments"
  let were := if given == 1 then "was" else "were"
  s!"{callee}() takes {takes} but {given} {were} given"

/-- A character of a message in ASCII, or a question mark. -/
def plainLetter (c : Char) : Char :=
  if 31 ≤ c.toNat && c.toNat ≤ 126 then c else '?'

/-- A fault in the filling of placeholders in words. -/
def fillMessage : FillFault → String
  | .leftOver => "not all arguments converted during string formatting"
  | .tooFew => "not enough arguments for format string"
  | .incomplete => "incomplete format"
  | .incompleteKey => "incomplete format key"
  | .noTable => "format requires a mapping"
  | .noCount => "* wants int"
  | .wideWidth => "width too big"
  | .wideCount => "Python int too large to convert to C ssize_t"
  | .longPrecision => "precision too big"
  | .longPrecisionCount => "Python int too large to convert to C int"
  | .noConversion letter index =>
    let code := String.ofList (Text.hex 1 letter.toNat)
    let shown := plainLetter letter
    s!"unsupported format character '{shown}' (0x{code}) at index {index}"
  | .notNumber letter kind => s!"%{letter} format: a real number is required, not {kind}"
  | .notWhole letter kind => s!"%{letter} format: an integer is required, not {kind}"
  | .noCode => "%c arg not in range(0x110000)"
  | .notCharacter => "%c requires int or char"

/-- The longest text that a message shows of a bad numeral, quotes included. -/
def shownNumeral : Nat := 200

def message : Fault → String
  | .malformed => "invalid syntax"
  | .nullCharacter => "source code string cannot contain null bytes"
  | .undefined name => s!"name '{name}' is not defined"
  | .unassigned name =>
    s!"cannot access local variable '{name}' where it is not associated with a value"
  | .unassignedOuter name =>
    s!"cannot access free variable '{name}' where it is not associated with a value in enclosing scope"
  | .noAttribute kind name => s!"'{kind}' object has no attribute '{name}'"
  | .noMember library name => s!"module '{library}' has no attribute '{name}'"
  | .noKindAttribute kind name => s!"type object '{kind}' has no attribute '{name}'"
  | .missingKey key => key.show
  | .outOfRange kind => s!"{kind} index out of range"
  | .farIndex => overflowMessage .count
  | .operands op left right => s!"unsupported operand type(s) for {op}: '{left}' and '{right}'"
  | .concatenation kind other => s!"can only concatenate {kind} (not \"{other}\") to {kind}"
  | .repetition count => s!"can't multiply sequence by non-int of type '{count}'"
  | .fill cause => fillMessage cause
  | .unaryOperand op kind => s!"bad operand type for unary {op}: '{kind}'"
  | .magnitude kind => s!"bad operand type for abs(): '{kind}'"
  | .order op left right =>
    s!"'{op}' not supported between instances of '{left}' and '{right}'"
  | .notReal kind => s!"must be real number, not {kind}"
  | .notFloat kind => s!"float() argument must be a string or a real number, not '{kind}'"
  | .notInteger kind =>
    s!"int() argument must be a string, a bytes-like object or a real number, not '{kind}'"
  | .notIndex kind => s!"'{kind}' object cannot be interpreted as an integer"
  | .notPosition sequence kind =>
    if sequence == "str" then s!"string indices must be integers, not '{kind}'"
    else s!"{sequence} indices must be integers or slices, not {kind}"
  | .notLimit => "slice indices must be integers or None or have an __index__ method"
  | .notCallable kind => s!"'{kind}' object is not callable"
  | .noLength kind => s!"object of type '{kind}' has no len()"
  | .noRounding kind => s!"type {kind} doesn't define __round__ method"
  | .unhashable kind => s!"unhashable type: '{kind}'"
  | .textMembership kind => s!"'in <string>' requires string as left operand, not {kind}"
  | .notContainer kind => s!"argument of type '{kind}' is not iterable"
  | .notText kind => s!"expected string or bytes-like object, got '{kind}'"
  | .notKinds => "isinstance() arg 2 must be a type, a tuple of types, or a union"
  | .notIterable kind => s!"'{kind}' object is not iterable"
  | .notSubscriptable kind => s!"'{kind}' object is not subscriptable"
  | .kindNotSubscriptable kind => s!"type '{kind}' is not subscriptable"
  | .notItemAssignable kind => s!"'{kind}' object does not support item assignment"
  | .missingArguments callee parameters =>
    s!"{callee}() missing " ++ counted parameters.length "required positional argument" ++ ": "
      ++ enumerate parameters
  | .tooManyArguments callee least most given => tooManyMessage callee least most given
  | .atLeast callee least given =>
    s!"{callee} expected at least " ++ counted least "argument" ++ s!", got {given}"
  | .atMost callee most given =>
    s!"{callee} expected at most " ++ counted most "argument" ++ s!", got {given}"
  | .exactlyOne callee given => s!"{callee}() takes exactly one argument ({given} given)"
  | .noneTaken callee given => s!"{callee}() takes no arguments ({given} given)"
  | .exactly callee taken given =>
    s!"{callee} expected " ++ counted taken "argument" ++ s!", got {given}"
  | .beyond callee most given =>
    s!"{callee}() takes at most " ++ counted most "argument" ++ s!" ({given} given)"
  | .withoutFirst callee parameter =>
    s!"{callee}() missing required argument '{parameter}' (pos 1)"
  | .zeroDivision which => divisionMessage which
  | .overflow which => overflowMessage which
  | .nanToInteger => "cannot convert float NaN to integer"
  | .badFloat text => "could not convert string to float: " ++ Text.quote text
  | .badInteger base text =>
    let shown := String.ofList ((Text.quote text).toList.take shownNumeral)
    s!"invalid literal for int() with base {base}: " ++ shown
  | .noBase => "int() base must be >= 2 and <= 36, or 0"
  | .baseOfNumber => "int() can't convert non-string with explicit base"
  | .notDecoding parameter kind => s!"str() argument '{parameter}' must be str, not {kind}"
  | .notDecoded kind =>
    if kind == "str" then "decoding str is not supported"
    else s!"decoding to str: need a bytes-like object, {kind} found"
  | .longNumeral digits =>
    s!"Exceeds the limit ({Number.maxDigits} digits) for integer string conversion: value has "
      ++ s!"{digits} digits; use sys.set_int_max_str_digits() to increase the limit"
  | .longInteger =>
    s!"Exceeds the limit ({Number.maxDigits} digits) for integer string conversion; "
      ++ "use sys.set_int_max_str_digits() to increase the limit"
  | .mathDomain => "math domain error"
  | .negativeShift => "negative shift count"
  | .noItems callee => s!"{callee}() arg is an empty sequence"
  | .tooLarge => ""
  | .raised message => message
  | .exhausted => "maximum recursion depth exceeded"
  | .leftOut name => name ++ " is left out"
  | .exit code => code.display

end Fault

end Sketchflow
