/-!
# Faults in JSON text

A `Fault` is the place where JSON text stops being JSON text. The complaint about it
(`SyntaxError`) also depends on what the reader wanted: one who *takes* a value out
of the text asks for more than one who *skips* it, and words some faults otherwise.
-/

namespace PromptChain.Json

/-- A complaint about JSON text. -/
inductive SyntaxError where
  | endInValue
  | endInString
  | endInList
  | endInObject
  | expectedValue
  | expectedWord
  | expectedListComma
  | expectedObjectComma
  | expectedColon
  | invalidNumber
  | outOfRange
  | invalidEscape
  | loneSurrogate
  | halfSurrogatePair
  | controlCharacter
  | keyNotString
  | trailingComma
  | trailingCharacters
  | tooDeep
deriving DecidableEq, Repr

/-- The wording of a complaint. -/
def SyntaxError.message : SyntaxError → String
  | .endInValue => "EOF while parsing a value"
  | .endInString => "EOF while parsing a string"
  | .endInList => "EOF while parsing a list"
  | .endInObject => "EOF while parsing an object"
  | .expectedValue => "expected value"
  | .expectedWord => "expected ident"
  | .expectedListComma => "expected `,` or `]`"
  | .expectedObjectComma => "expected `,` or `\x7d`"
  | .expectedColon => "expected `:`"
  | .invalidNumber => "invalid number"
  | .outOfRange => "number out of range"
  | .invalidEscape => "invalid escape"
  | .loneSurrogate => "lone leading surrogate in hex escape"
  | .halfSurrogatePair => "unexpected end of hex escape"
  | .controlCharacter => "control character (\\u0000-\\u001F) found while parsing a string"
  | .keyNotString => "key must be a string"
  | .trailingComma => "trailing comma"
  | .trailingCharacters => "trailing characters"
  | .tooDeep => "recursion limit exceeded"

/-- A place where a text stops being JSON text. -/
inductive Fault where
  /-- The text ends where a value must stand. -/
  | noValue
  /-- No value starts with what stands here. -/
  | notAValue
  /-- The text ends inside `null`, `true` or `false`. -/
  | wordCut
  /-- What starts like one of these words goes on otherwise. -/
  | wordMisspelt
  /-- The text ends inside a number. -/
  | numberCut
  /-- A number lacks a digit, or has a zero too many in front. -/
  | numberMalformed
  /-- The text ends inside a string. -/
  | stringCut
  /-- A control character stands inside a string. -/
  | controlCharacter
  /-- No escape starts with what follows the backslash. -/
  | unknownEscape
  /-- An escape by number lacks its four hexadecimal digits. -/
  | badHexDigits
  /-- The text ends after an item, or after the opening bracket, of a list. -/
  | listCut
  /-- Neither a comma nor the closing bracket follows an item. -/
  | listWithoutComma
  /-- The closing bracket follows a comma. -/
  | listTrailingComma
  /-- The text ends after a comma of a list. -/
  | listCutAfterComma
  /-- The text ends after a member, or after the opening brace, of an object. -/
  | objectCut
  /-- Neither a comma nor the closing brace follows a member. -/
  | objectWithoutComma
  /-- The closing brace follows a comma. -/
  | objectTrailingComma
  /-- The text ends after a comma of an object. -/
  | objectCutAfterComma
  /-- What stands in the place of a key is no string. -/
  | keyNotString
  /-- No colon follows a key. -/
  | colonMissing
  /-- The text ends after a key. -/
  | colonCut
deriving DecidableEq, Repr

/-- The complaint of a reader who wants the value. -/
def Fault.whenTaken : Fault → SyntaxError
  | .noValue | .wordCut | .numberCut | .listCutAfterComma | .objectCutAfterComma => .endInValue
  | .notAValue => .expectedValue
  | .wordMisspelt => .expectedWord
  | .numberMalformed => .invalidNumber
  | .stringCut => .endInString
  | .controlCharacter => .controlCharacter
  | .unknownEscape | .badHexDigits => .invalidEscape
  | .listCut => .endInList
  | .listWithoutComma => .expectedListComma
  | .listTrailingComma | .objectTrailingComma => .trailingComma
  | .objectCut | .colonCut => .endInObject
  | .objectWithoutComma => .expectedObjectComma
  | .keyNotString => .keyNotString
  | .colonMissing => .expectedColon

/-- The complaint of a reader who only wants to get past the value. -/
def Fault.whenSkipped : Fault → SyntaxError
  | .numberCut => .invalidNumber
  | .listTrailingComma => .expectedValue
  | .objectTrailingComma => .keyNotString
  | .objectCutAfterComma => .endInObject
  | fault => fault.whenTaken

end PromptChain.Json
