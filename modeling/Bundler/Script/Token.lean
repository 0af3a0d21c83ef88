import Bundler.Number.Binary64
import Bundler.Script.Operator
import Bundler.Text.Debug

/-!
The tokens of scripts, and what can be wrong with a script.
-/

namespace Bundler.Script

/-- The words that cannot name a variable. -/
inductive Keyword where
  | awaitWord | breakWord | caseWord | catchWord | continueWord | debuggerWord | defaultWord
  | doWord | elseWord | finallyWord | forWord | functionWord | ifWord | returnWord | switchWord
  | throwWord | tryWord | varWord | letWord | constWord | whileWord | withWord | newWord
  | thisWord | superWord | classWord | extendsWord | exportWord | importWord | yieldWord | inWord
  | instanceofWord | typeofWord | voidWord | deleteWord | nullWord | trueWord | falseWord
  deriving DecidableEq, Repr

namespace Keyword

def all : List Keyword :=
  [awaitWord, breakWord, caseWord, catchWord, continueWord, debuggerWord, defaultWord, doWord,
   elseWord, finallyWord, forWord, functionWord, ifWord, returnWord, switchWord, throwWord,
   tryWord, varWord, letWord, constWord, whileWord, withWord, newWord, thisWord, superWord,
   classWord, extendsWord, exportWord, importWord, yieldWord, inWord, instanceofWord, typeofWord,
   voidWord, deleteWord, nullWord, trueWord, falseWord]

def text : Keyword → String
  | awaitWord => "await" | breakWord => "break" | caseWord => "case" | catchWord => "catch"
  | continueWord => "continue" | debuggerWord => "debugger" | defaultWord => "default"
  | doWord => "do" | elseWord => "else" | finallyWord => "finally" | forWord => "for"
  | functionWord => "function" | ifWord => "if" | returnWord => "return" | switchWord => "switch"
  | throwWord => "throw" | tryWord => "try" | varWord => "var" | letWord => "let"
  | constWord => "const" | whileWord => "while" | withWord => "with" | newWord => "new"
  | thisWord => "this" | superWord => "super" | classWord => "class" | extendsWord => "extends"
  | exportWord => "export" | importWord => "import" | yieldWord => "yield" | inWord => "in"
  | instanceofWord => "instanceof" | typeofWord => "typeof" | voidWord => "void"
  | deleteWord => "delete" | nullWord => "null" | trueWord => "true" | falseWord => "false"

def ofText? (word : String) : Option Keyword := all.find? (·.text == word)

/-- Whether an expression can start with the word. -/
def startsExpression : Keyword → Bool
  | awaitWord | functionWord | throwWord | newWord | thisWord | superWord | classWord
  | importWord | yieldWord | typeofWord | voidWord | deleteWord | nullWord | trueWord | falseWord => true
  | _ => false

end Keyword

/-- Punctuation that is no operator. -/
inductive Mark where
  | openParen | closeParen | openBracket | closeBracket | openBrace | closeBrace
  | semicolon | comma | colon | question | dot | ellipsis | arrow | hash | atSign | backquote
  | dollarBrace | increment | decrement | bang | tilde
  deriving DecidableEq, Repr

namespace Mark

def text : Mark → String
  | openParen => "(" | closeParen => ")" | openBracket => "[" | closeBracket => "]"
  | openBrace => "\x7b" | closeBrace => "\x7d" | semicolon => ";" | comma => "," | colon => ":"
  | question => "?" | dot => "." | ellipsis => "..." | arrow => "=>" | hash => "#" | atSign => "@"
  | backquote => "`" | dollarBrace => "$\x7b"
  | increment => "++" | decrement => "--" | bang => "!" | tilde => "~"

end Mark

/-- What can be wrong with a script. -/
inductive Problem where
  | unexpectedEnd
  | expected (wanted found : String)
  | unexpectedToken (found wanted : String)
  | unexpectedCharacter (c : Char)
  | expressionExpected
  | identifierExpected
  | semicolonExpected
  | statementEndExpected
  | moduleSyntax | importMeta | newTarget
  | badEscape (wanted : String) | badUnicodeEscape | badStringEscape | unicodeEscapeExpected
  | badIdentifierCharacter | escapedReservedWord (word : String)
  | openComment | openString | openTemplate | openRegex
  | unknownRegexFlags | repeatedRegexFlag (flag : Char)
  | numericSeparator | digitExpected (radix : Nat) | exponentExpected | identifierAfterNumber
  | strictOctal | strictDecimal
  | mergeConflict
  | declarationNotAllowed
  | breakOutside | breakLabel | continueOutside | continueLabel
  | returnOutside | repeatedDefault | newlineAfterThrow
  | repeatedLabel (name : String) | labelledSpecial | labelledStrict
  | trailingComma | uninitializedPattern | oneVariable | initializerInLoop
  | asyncLoopTarget | awaitInLoop
  | strictIdentifier (name : String) | reservedShorthand | assignmentProperty
  | getterParameters | setterParameters | setterRest
  | repeatedConstructor | constructorProperty | constructorGenerator | constructorAsync
  | constructorAccessor | privateConstructor | spaceAfterHash | repeatedExtends
  | lastRestParameter | lastRestElement | restInitializer | commaAfterRest | restNotIdentifier
  | optionalMember
  | notPattern | notAssignable | invalidTarget | invalidReference
  | arrowNewline | arrowNotAllowed | emptyParens | spreadInParens | notExpression
  | nullishMixing | unaryPower
  | optionalNew | optionalTemplate | optionalSuper | invalidSuper | invalidSuperCall | invalidImport
  | importTrailingComma
  | awaitName | awaitOutside | awaitInScript | awaitStar | awaitParameter | yieldParameter
  | argumentsInField | strictDirective | constructorModifier | usingNotEnabled
  | exhausted
  deriving DecidableEq, Repr

namespace Problem

def message : Problem → String
  | unexpectedEnd => "Unexpected eof"
  | expected wanted found => s!"Expected '{wanted}', got '{found}'"
  | unexpectedToken found wanted =>
    "Unexpected token `" ++ found ++ "`. Expected " ++ wanted
  | unexpectedCharacter c => "Unexpected character " ++ Text.Debug.quoteChar c
  | expressionExpected => "Expression expected"
  | identifierExpected => "Expected ident"
  | semicolonExpected => "Expected a semicolon"
  | statementEndExpected => "Expected ';', '\x7d' or <eof>"
  | moduleSyntax => "'import', and 'export' cannot be used outside of module code"
  | importMeta => "'import.meta' cannot be used outside of module code."
  | newTarget => "'new.target' is only allowed in the body of a function declaration, function " ++
      "expression, or class."
  | badEscape wanted => "Bad character escape sequence, expected " ++ wanted
  | badUnicodeEscape => "Invalid unicode escape"
  | badStringEscape => "Invalid string escape"
  | unicodeEscapeExpected => "Expected unicode escape"
  | badIdentifierCharacter => "Invalid character in identifier"
  | escapedReservedWord word => "Unexpected escape sequence in reserved word: " ++ word
  | openComment => "Unterminated block comment"
  | openString => "Unterminated string constant"
  | openTemplate => "Unterminated template"
  | openRegex => "Unterminated regexp literal"
  | unknownRegexFlags => "Unknown regular expression flags."
  | repeatedRegexFlag flag => s!"Duplicated regular expression flag '{flag}'."
  | numericSeparator => "A numeric separator is only allowed between two digits"
  | digitExpected radix =>
    match radix with
    | 2 => "Expected a binary digit"
    | 8 => "Expected an octal digit"
    | 16 => "Expected a hexadecimal digit"
    | _ => "Expected a decimal digit"
  | exponentExpected => "Expected +, - or decimal digit after e"
  | identifierAfterNumber => "Identifier cannot follow number"
  | strictOctal => "Legacy octal escape is not permitted in strict mode"
  | strictDecimal => "Legacy decimal escape is not permitted in strict mode"
  | mergeConflict => "Merge conflict marker encountered."
  | declarationNotAllowed => "Declaration is not allowed"
  | breakOutside =>
    "A 'break' statement can only be used within an enclosing iteration or switch statement"
  | breakLabel => "A 'break' statement can only jump to a label of an enclosing statement"
  | continueOutside =>
    "A 'continue' statement can only be used within an enclosing iteration statement"
  | continueLabel => "Jump target cannot cross function boundary"
  | returnOutside => "Return statement is not allowed here"
  | repeatedDefault => "A switch block cannot have multiple defaults"
  | newlineAfterThrow => "LineBreak cannot follow 'throw'"
  | repeatedLabel name => s!"Label {name} is already declared"
  | labelledSpecial => "Generator or async function cannot be labelled"
  | labelledStrict => "Function cannot be labelled in strict mode"
  | trailingComma => "Trailing comma is not allowed"
  | uninitializedPattern => "Destructuring bindings require initializers"
  | oneVariable => "Expected one variable binding"
  | initializerInLoop => "Unexpected initializer in for in/of loop"
  | asyncLoopTarget => "The left-hand side of a `for...of` statement may not be `async`."
  | awaitInLoop => "for await syntax is valid only for for-of statement"
  | strictIdentifier name => "`" ++ name ++ "` cannot be used as an identifier in strict mode"
  | reservedShorthand => "Cannot use a reserved word as a shorthand property"
  | assignmentProperty => "assignment property is invalid syntax"
  | getterParameters => "A `get` accessor cannot have parameters"
  | setterParameters => "A `set` accessor must have exactly one parameter"
  | setterRest => "Rest pattern is not allowed in setter"
  | repeatedConstructor => "A class can only have one constructor"
  | constructorProperty => "Classes may not have a non-static field named 'constructor'"
  | constructorGenerator => "A constructor cannot be generator"
  | constructorAsync => "Constructor can't be an async function"
  | constructorAccessor => "Class constructor can't be an accessor."
  | privateConstructor => "Classes can't have a private field named '#constructor'."
  | spaceAfterHash => "Unexpected space between # and identifier"
  | repeatedExtends => "`extends` clause already seen."
  | lastRestParameter => "A rest parameter must be last in a parameter list"
  | lastRestElement => "Rest element must be final element"
  | restInitializer => "A rest parameter cannot have an initializer"
  | commaAfterRest => "Trailing comma isn't permitted after a rest element"
  | restNotIdentifier => "`...` must be followed by an identifier in declaration contexts"
  | optionalMember => "An object member cannot be declared optional"
  | notPattern => "Not a pattern"
  | notAssignable => "Cannot assign to this"
  | invalidTarget => "Invalid assignment target"
  | invalidReference =>
    "The left-hand side of an assignment expression must be a variable or a property access."
  | arrowNewline => "Unexpected line break between arrow head and arrow"
  | arrowNotAllowed => "An arrow function is not allowed here"
  | emptyParens => "Parenthesized expression cannot be empty"
  | spreadInParens => "Parenthesized expression cannot contain spread operator"
  | notExpression => "Not an expression"
  | nullishMixing =>
    "Nullish coalescing operator(??) requires parens when mixing with logical operators"
  | unaryPower => "** cannot be applied to unary operator"
  | optionalNew => "Constructor in/after an optional chaining is not allowed."
  | optionalTemplate => "Tagged template literals are not allowed in optional chain."
  | optionalSuper => "Super call cannot be optional"
  | invalidSuper => "Invalid access to super"
  | invalidSuperCall => "Invalid `super()`"
  | invalidImport => "Import is not allowed here"
  | importTrailingComma => "Trailing comma is disallowed inside import(...) arguments"
  | awaitName => "`await` cannot be used as an identifier in an async context"
  | awaitOutside => "await isn't allowed in non-async function"
  | awaitInScript => "top level await is only allowed in module"
  | awaitStar => "await* has been removed from the async functions proposal. Use Promise.all() instead."
  | awaitParameter => "`await` expressions cannot be used in a parameter initializer."
  | yieldParameter => "'yield' cannot be used as a parameter within generator"
  | argumentsInField => "'arguments' is only allowed in functions and class methods"
  | strictDirective =>
    "Illegal 'use strict' directive in function with non-simple parameter list."
  | constructorModifier => "'static' modifier cannot appear on a constructor declaration"
  | usingNotEnabled =>
    "Using declaration is not enabled. Set jsc.parser.explicitResourceManagement to true"
  | exhausted => "Source is nested too deeply"

end Problem

structure SyntaxError where
  offset : Nat
  problem : Problem
  deriving DecidableEq, Repr

inductive Token where
  | ident (name : String)
  | keyword (word : Keyword)
  | mark (mark : Mark)
  /-- An operator of two operands that is spelled with marks. -/
  | binary (op : BinaryOp)
  | assign (op : AssignOp)
  /-- A string with its value and its spelling. -/
  | string (value raw : String)
  /-- A number with its spelling. -/
  | number (raw : String) (value : Number.Binary64)
  | bigint (raw : String)
  /-- A piece of a template with its spelling, and what is wrong with its escapes. -/
  | template (raw : String) (flaw : Option SyntaxError)
  | hashbang
  /-- A piece of the source that is no token. -/
  | failed (error : SyntaxError)
  deriving DecidableEq, Repr

namespace Token

/-- How messages show a token. -/
def shown : Token → String
  | ident name => name
  | keyword word => word.text
  | mark m => m.text
  | binary op => op.text
  | assign op => op.text
  | string value raw => s!"string literal ({value}, {raw})"
  | number raw value => s!"numeric literal ({value.text}, {raw})"
  | bigint raw => s!"bigint literal ({raw.dropEnd 1}, {raw})"
  | template raw _ => s!"template token ({raw})"
  | hashbang => "#!"
  | failed _ => "<lexing error>"

/-- Whether an expression can start with the token. -/
def startsExpression : Token → Bool
  | ident _ | string .. | number .. | bigint _ => true
  | keyword word => word.startsExpression
  | mark m => match m with
    | .openParen | .openBracket | .openBrace | .increment | .decrement | .bang | .tilde
    | .backquote | .dollarBrace | .hash => true
    | _ => false
  | binary op => match op with
    | .plus | .minus => true
    | _ => false
  | _ => false

end Token

end Bundler.Script
