import BrowserScript.Text.Quoted

/-!
What can be wrong with a script, with the wording of each fault.
-/

set_option autoImplicit false

namespace BrowserScript.Script

inductive Fault where
  -- Characters and tokens
  | unexpectedChar (c : Char)
  | unexpectedEnd
  | unterminatedString
  | unterminatedComment
  | unterminatedRegex
  | unterminatedTemplate
  | conflictMarker
  | invalidStringEscape
  | badEscape (expected : String)
  | openBraceEscape
  | unicodeEscapeExpected
  | escapedKeyword (word : String)
  | invalidNameChar
  | spaceAfterHash
  | legacyOctal
  | legacyDecimal
  | numericSeparator
  | nameAfterNumber
  | digitExpected (radix : Nat)
  | exponentExpected
  | unknownFlags
  | duplicateFlag (flag : Char)
  -- Tokens out of place
  | expected (wanted got : String)
  | unexpected (got wanted : String)
  | statementEndExpected
  | semicolonExpected
  | nameExpected
  | expressionExpected
  | trailingComma
  | importOrExport
  -- Names
  | strictName (name : String)
  | asyncAwaitName
  | evalOrArguments
  -- Expressions
  | exponentOfUnary
  | mixedNullish
  | deleteName
  | arrowNotAllowed
  | lineBreakBeforeArrow
  | spreadInParens
  | emptyParens
  | optionalConstructor
  | optionalTagged
  | superAccess
  | superCall
  | superPrivateName
  | importNotAllowed
  | newTargetOutside
  | importMetaOutside
  | trailingImportComma
  | awaitStar
  | awaitInFunction
  | awaitInParams
  | topLevelAwait
  | yieldInParams
  | argumentsInField
  | asyncOf
  -- Patterns and targets
  | notAssignable
  | cannotAssign
  | invalidTarget
  | notPattern
  | shorthandValue
  | restNotLast
  | restParamNotLast
  | commaAfterRest
  | restWithValue
  | restNotName
  | optionalMember
  -- Declarations and statements
  | constWithoutValue
  | patternWithoutValue
  | declarationNotAllowed
  | resourceDeclaration
  | oneBindingExpected
  | loopValue
  | awaitLoop
  | breakOutside
  | breakLabel
  | continueOutside
  | continueLabel
  | duplicateLabel (name : String)
  | strictLabeledFunction
  | labeledGenerator
  | returnOutside
  | multipleDefaults
  | lineBreakAfterThrow
  | strictWith
  | lateStrict
  -- Functions and classes
  | getterParams
  | setterParams
  | setterRest
  | accessorConstructor
  | asyncConstructor
  | generatorConstructor
  | duplicateConstructor
  | fieldConstructor
  | privateConstructor
  | secondExtends
  deriving DecidableEq, Repr, Inhabited

def Fault.message : Fault → String
  | .unexpectedChar c => "Unexpected character " ++ Text.quoted '\'' [c]
  | .unexpectedEnd => "Unexpected eof"
  | .unterminatedString => "Unterminated string constant"
  | .unterminatedComment => "Unterminated block comment"
  | .unterminatedRegex => "Unterminated regexp literal"
  | .unterminatedTemplate => "Unterminated template"
  | .conflictMarker => "Merge conflict marker encountered."
  | .invalidStringEscape => "Invalid string escape"
  | .badEscape wanted => "Bad character escape sequence, expected " ++ wanted
  | .openBraceEscape => "Invalid unicode escape"
  | .unicodeEscapeExpected => "Expected unicode escape"
  | .escapedKeyword word => "Unexpected escape sequence in reserved word: " ++ word
  | .invalidNameChar => "Invalid character in identifier"
  | .spaceAfterHash => "Unexpected space between # and identifier"
  | .legacyOctal => "Legacy octal escape is not permitted in strict mode"
  | .legacyDecimal => "Legacy decimal escape is not permitted in strict mode"
  | .numericSeparator => "A numeric separator is only allowed between two digits"
  | .nameAfterNumber => "Identifier cannot follow number"
  | .digitExpected radix =>
    if radix = 2 then "Expected a binary digit"
    else if radix = 8 then "Expected an octal digit"
    else if radix = 16 then "Expected a hexadecimal digit"
    else "Expected a decimal digit"
  | .exponentExpected => "Expected +, - or decimal digit after e"
  | .unknownFlags => "Unknown regular expression flags."
  | .duplicateFlag flag =>
    "Duplicated regular expression flag '" ++ String.singleton flag ++ "'."
  | .expected wanted got => "Expected " ++ wanted ++ ", got '" ++ got ++ "'"
  | .unexpected got wanted => "Unexpected token `" ++ got ++ "`. Expected " ++ wanted
  | .statementEndExpected => "Expected ';', '\x7d' or <eof>"
  | .semicolonExpected => "Expected a semicolon"
  | .nameExpected => "Expected ident"
  | .expressionExpected => "Expression expected"
  | .trailingComma => "Trailing comma is not allowed"
  | .importOrExport => "'import', and 'export' cannot be used outside of module code"
  | .strictName name => "`" ++ name ++ "` cannot be used as an identifier in strict mode"
  | .asyncAwaitName => "`await` cannot be used as an identifier in an async context"
  | .evalOrArguments =>
    "'eval' and 'arguments' cannot be used as a binding identifier in strict mode"
  | .exponentOfUnary => "'**' cannot be applied to unary/await expression."
  | .mixedNullish =>
    "Nullish coalescing operator(??) requires parens when mixing with logical operators"
  | .deleteName => "'delete' cannot be called on an identifier in strict mode"
  | .arrowNotAllowed => "An arrow function is not allowed here"
  | .lineBreakBeforeArrow => "Unexpected line break between arrow head and arrow"
  | .spreadInParens => "Parenthesized expression cannot contain spread operator"
  | .emptyParens => "Parenthesized expression cannot be empty"
  | .optionalConstructor => "Constructor in/after an optional chaining is not allowed."
  | .optionalTagged => "Tagged template literal is not allowed in optional chain."
  | .superAccess => "Invalid access to super"
  | .superCall => "Invalid `super()`"
  | .superPrivateName => "Index super with private name is not allowed"
  | .importNotAllowed => "Import is not allowed here"
  | .newTargetOutside =>
    "'new.target' is only allowed in the body of a function declaration, " ++
      "function expression, or class."
  | .importMetaOutside => "'import.meta' cannot be used outside of module code."
  | .trailingImportComma => "Trailing comma is disallowed inside import(...) arguments"
  | .awaitStar =>
    "await* has been removed from the async functions proposal. Use Promise.all() instead."
  | .awaitInFunction => "await isn't allowed in non-async function"
  | .awaitInParams => "`await` expressions cannot be used in a parameter initializer."
  | .topLevelAwait => "top level await is only allowed in module"
  | .yieldInParams => "'yield' cannot be used as a parameter within generator"
  | .argumentsInField => "'arguments' is only allowed in functions and class methods"
  | .asyncOf => "The left-hand side of a `for...of` statement may not be `async`"
  | .notAssignable =>
    "The left-hand side of an assignment expression must be a variable or a property access."
  | .cannotAssign => "Cannot assign to this"
  | .invalidTarget => "Invalid assignment target"
  | .notPattern => "Not a pattern"
  | .shorthandValue => "assignment property is invalid syntax"
  | .restNotLast => "Rest element must be final element"
  | .restParamNotLast => "A rest parameter must be last in a parameter list"
  | .commaAfterRest => "Trailing comma isn't permitted after a rest element"
  | .restWithValue => "A rest parameter cannot have an initializer"
  | .restNotName => "`...` must be followed by an identifier in declaration contexts"
  | .optionalMember => "An object member cannot be declared optional"
  | .constWithoutValue => "'const' declarations must be initialized"
  | .patternWithoutValue => "Destructuring bindings require initializers"
  | .declarationNotAllowed => "Declaration is not allowed"
  | .resourceDeclaration =>
    "Using declaration is not enabled. Set jsc.parser.explicitResourceManagement to true"
  | .oneBindingExpected => "Expected one variable binding"
  | .loopValue => "Unexpected initializer in for in/of loop"
  | .awaitLoop => "for await syntax is valid only for for-of statement"
  | .breakOutside =>
    "A 'break' statement can only be used within an enclosing iteration or switch statement"
  | .breakLabel => "A 'break' statement can only jump to a label of an enclosing statement"
  | .continueOutside =>
    "A 'continue' statement can only jump to a label of an enclosing iteration statement"
  | .continueLabel => "Jump target cannot cross function boundary"
  | .duplicateLabel name => "Label " ++ name ++ " is already declared"
  | .strictLabeledFunction => "Function cannot be labelled in strict mode"
  | .labeledGenerator => "Generator or async function cannot be labelled"
  | .returnOutside => "Return statement is not allowed here"
  | .multipleDefaults => "A switch block cannot have multiple defaults"
  | .lineBreakAfterThrow => "LineBreak cannot follow 'throw'"
  | .strictWith => "With statement are not allowed in strict mode"
  | .lateStrict =>
    "Illegal 'use strict' directive in function with non-simple parameter list."
  | .getterParams => "A `get` accessor cannot have parameters"
  | .setterParams => "A `set` accessor must have exactly one parameter"
  | .setterRest => "Rest pattern is not allowed in setter"
  | .accessorConstructor => "Class constructor can't be an accessor."
  | .asyncConstructor => "Constructor can't be an async function"
  | .generatorConstructor => "A constructor cannot be generator"
  | .duplicateConstructor => "A class can only have one constructor"
  | .fieldConstructor => "Classes may not have a non-static field named 'constructor'"
  | .privateConstructor => "Classes can't have a private field named '#constructor'."
  | .secondExtends => "`extends` clause already seen."

end BrowserScript.Script
