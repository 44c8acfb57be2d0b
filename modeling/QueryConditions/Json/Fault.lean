import QueryConditions.Text.Basic

/-!
What can be wrong with a JSON document, and where. A fault is noted with the number
of bytes still unread; line and column are worked out from it once reading has stopped.
-/

namespace QueryConditions.Json

inductive Cause where
  | endOfValue
  | endOfList
  | endOfObject
  | endOfString
  | valueExpected
  | literalExpected
  | commaOrListEndExpected
  | commaOrObjectEndExpected
  | colonExpected
  | keyExpected
  | trailingComma
  | trailingText
  | invalidNumber
  | outOfRange
  | controlCharacter
  | invalidEscape
  | hexEscapeUnfinished
  | loneSurrogate
  | tooDeep
  /-- The document is well formed up to here but is not of the form asked for. -/
  | missingField (name : Text)
  | duplicateField (name : Text)
  | unknownVariant (name : Text) (known : List Text)
  | wrongType (found expected : Text)
  | wrongLength (found : Nat) (expected : Text)
  deriving DecidableEq

def inTicks (s : Text) : Text := '\x60' :: s ++ ['\x60']

def Cause.message : Cause → Text
  | .endOfValue => "EOF while parsing a value".toList
  | .endOfList => "EOF while parsing a list".toList
  | .endOfObject => "EOF while parsing an object".toList
  | .endOfString => "EOF while parsing a string".toList
  | .valueExpected => "expected value".toList
  | .literalExpected => "expected ident".toList
  | .commaOrListEndExpected => "expected \x60,\x60 or \x60]\x60".toList
  | .commaOrObjectEndExpected => "expected \x60,\x60 or \x60\x7d\x60".toList
  | .colonExpected => "expected \x60:\x60".toList
  | .keyExpected => "key must be a string".toList
  | .trailingComma => "trailing comma".toList
  | .trailingText => "trailing characters".toList
  | .invalidNumber => "invalid number".toList
  | .outOfRange => "number out of range".toList
  | .controlCharacter =>
      "control character (\\u0000-\\u001F) found while parsing a string".toList
  | .invalidEscape => "invalid escape".toList
  | .hexEscapeUnfinished => "unexpected end of hex escape".toList
  | .loneSurrogate => "lone leading surrogate in hex escape".toList
  | .tooDeep => "recursion limit exceeded".toList
  | .missingField name => "missing field ".toList ++ inTicks name
  | .duplicateField name => "duplicate field ".toList ++ inTicks name
  | .unknownVariant name known =>
      "unknown variant ".toList ++ inTicks name ++ ", expected one of ".toList ++
        [',', ' '].intercalate (known.map inTicks)
  | .wrongType found expected =>
      "invalid type: ".toList ++ found ++ ", expected ".toList ++ expected
  | .wrongLength found expected =>
      "invalid length ".toList ++ Text.ofNat found ++ ", expected ".toList ++ expected

structure Fault where
  cause : Cause
  /-- Bytes of the document after the place of the fault. -/
  left : Nat
  deriving DecidableEq

def Fault.before (cause : Cause) (rest : Text) : Fault := ⟨cause, Text.byteLength rest⟩

def Fault.at (cause : Cause) (rest : Text) : Fault := ⟨cause, Text.byteLength rest - 1⟩

structure Position where
  line : Nat
  column : Nat
  deriving DecidableEq

def Position.advance (position : Position) : Nat → Text → Position
  | 0, _ => position
  | _ + 1, [] => position
  | bytes, c :: rest =>
      if c = '\n' then advance ⟨position.line + 1, 0⟩ (bytes - 1) rest
      else if c.utf8Size ≤ bytes then
        advance ⟨position.line, position.column + c.utf8Size⟩ (bytes - c.utf8Size) rest
      else ⟨position.line, position.column + bytes⟩

structure ReadError where
  cause : Cause
  position : Position
  deriving DecidableEq

def ReadError.message (error : ReadError) : Text :=
  error.cause.message ++ " at line ".toList ++ Text.ofNat error.position.line ++
    " column ".toList ++ Text.ofNat error.position.column

def Fault.locate (fault : Fault) (document : Text) : ReadError :=
  ⟨fault.cause, Position.advance ⟨1, 0⟩ (Text.byteLength document - fault.left) document⟩

end QueryConditions.Json
