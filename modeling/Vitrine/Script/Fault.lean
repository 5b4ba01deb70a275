/-!
# What can be wrong with a script

Every reason for which a script is refused, with its wording. Where a reason speaks of a part of the
text, the constructor carries that part.
-/

namespace Vitrine.Script

inductive Fault where
  -- characters and tokens
  | invalidCharacter (c : Char)
  | unexpectedEnd
  | unterminatedString
  | unterminatedComment
  | unterminatedRegex
  | invalidEscape
  | invalidUnicodeEscape
  | badTemplateEscape
  | numberEnd
  | regexFlag (c : Char)
  | regexFlagTwice (c : Char)
  | regexFlagsTogether
  | markupText (c : Char)
  | legacyOctal
  | leadingZero
  -- grammar
  | unexpectedToken
  | expected (wanted found : String)
  | expectedOneOf (separator closing found : String)
  | missingSemicolon
  | escapedKeyword
  | reservedHere (word : String)
  | functionName
  | className
  | catchOrFinally
  | newlineAfter (word : String)
  | newlineBeforeArrow
  | emptyParens
  | cannotAssign
  | coveredInitializer
  | mixedCoalesce
  | unparenthesizedPower
  | restInitializer
  | restNotLast
  | restName
  | spreadNotLast
  | restParameterNotLast
  | restTrailingComma
  | constInitializer
  | patternInitializer
  | usingInitializer
  | loopInitializer (loop : String)
  | loopSeveral (loop : String)
  | loopType (loop : String)
  | loopAsync
  | awaitLoop
  | asyncPlacement
  | generatorPlacement
  | lexicalPlacement
  | taggedChain
  | newChain
  | newImport
  | newMeta
  | privateOperand
  | importMeta
  | yieldPlace
  | superUse
  | superPrivate
  | importArguments
  | importSpecifier
  | exportReserved
  | exportString
  | typeImportShape
  | importAliasType
  | severalParents
  | heritageTwice (word : String)
  | heritageOrder
  | getterParameters
  | setterParameters
  | setterRest
  | constructorTypes
  | constructorThis
  | enumComputed
  | enumNumeric
  | optionalDefinite
  | requiredAfterOptional
  | questionInitializer
  | restOptional
  | typesOnly (what : String)
  | emptyTypeParameters
  | emptyTypeArguments
  | readonlyType
  | markedType (mark : String) (isBefore : Bool)
  | importTypeSource
  | tupleOptionalRest
  | interfaceImplements
  | interfaceParent
  | definiteType
  | definiteInitializer
  | closingTag (name : String)
  | closingFragment
  | emptyAttribute
  | decoratorsTwice
  | decoratorsPlace
  | abstractBody (name : String)
  | abstractInitializer (name : String)
  | arrowThis
  | ambientBody
  | modifierPlace (word place : String)
  | modifierHere (word : String)
  | typeParameterModifier (word : String)
  | varianceModifier (word : String)
  | modifierTwice (word : String)
  | accessTwice
  | modifierOrder (word earlier : String)
  | modifierPair (word other : String)
  | readonlyPlace
  | privateAccess
  | constMember
  | duplicateExport (name : String)
  | severalDefaults
  | awaitParameter
  | yieldParameter
  | staticAwait
  | awaitName
  | yieldName
  | awaitPlace
  -- rules about names and places
  | redeclared (name : String)
  | reservedWord (word : String)
  | strictAssignment (name : String)
  | notTopLevel (what : String)
  | undefinedExport (name : String)
  | privateOutsideClass (name : String)
  | privateUndeclared (name : String)
  | deletePrivate
  | deleteName
  | returnPlace
  | breakPlace
  | continuePlace
  | continueLabel
  | undefinedLabel
  | labelTwice (name : String)
  | severalConstructors
  | superPropertyPlace
  | superCallPlace
  | superCallClass
  | newTargetPlace
  | importMetaPlace
  | classPlacement
  | functionPlacement
  | namespacePlacement
  | compoundTarget
  | strictDirective
  | withStatement
  | staticPrototype
  | constructorAccessor
  | constructorAsync
  | constructorGenerator
  | constructorField
  | privateConstructor
  | argumentsPlace (place : String)
  | jumpCrossing
  | constructorMissing
  | abstractMethodPlace
  | abstractPropertyPlace
  | missingImplementation
  | multipleImplementations
  | exportAssignmentMix
  | enumInitializer
  | accessorBody
  | parameterField
  | typeName (what name : String)
  | markupSequence
  -- rules of the passes
  | namespaceExport
  | markupKey
  | markupNamespace
  | markupPragma
  | markupSource
  deriving DecidableEq, Repr, Inhabited

/-- The wording of a fault. -/
def Fault.message : Fault → String
  | invalidCharacter c => "Invalid Character `" ++ String.ofList [c] ++ "`"
  | unexpectedEnd => "Unexpected end of file"
  | unterminatedString => "Unterminated string"
  | unterminatedComment => "Unterminated multiline comment"
  | unterminatedRegex => "Unterminated regular expression"
  | invalidEscape => "Invalid escape sequence"
  | invalidUnicodeEscape => "Invalid Unicode escape sequence"
  | badTemplateEscape => "Bad escape sequence in untagged template literal"
  | numberEnd => "Invalid characters after number"
  | regexFlag c => "Unexpected flag " ++ String.ofList [c] ++ " in regular expression literal"
  | regexFlagTwice c =>
    "Flag " ++ String.ofList [c] ++ " is mentioned twice in regular expression literal"
  | regexFlagsTogether =>
    "The 'u' and 'v' regular expression flags cannot be enabled at the same time"
  | markupText c =>
    if c = '>' then "Unexpected token. Did you mean `\x7b'>'\x7d` or `&gt;`?"
    else "Unexpected token. Did you mean `\x7b'\x7d'\x7d` or `&rbrace;`?"
  | legacyOctal => "'0'-prefixed octal literals and octal escape sequences are deprecated"
  | leadingZero => "Decimals with leading zeros are not allowed in strict mode."
  | unexpectedToken => "Unexpected token"
  | expected wanted found => "Expected `" ++ wanted ++ "` but found `" ++ found ++ "`"
  | expectedOneOf separator closing found =>
    "Expected `" ++ separator ++ "` or `" ++ closing ++ "` but found `" ++ found ++ "`"
  | missingSemicolon =>
    "Expected a semicolon or an implicit semicolon after a statement, but found none"
  | escapedKeyword => "Keywords cannot contain escape characters"
  | reservedHere word =>
    "Identifier expected. '" ++ word ++ "' is a reserved word that cannot be used here."
  | functionName => "Expected function name"
  | className => "A class name is required."
  | catchOrFinally => "Missing catch or finally clause"
  | newlineAfter word => "Illegal newline after " ++ word
  | newlineBeforeArrow => "Line terminator not permitted before arrow"
  | emptyParens => "Empty parenthesized expression"
  | cannotAssign => "Cannot assign to this expression"
  | coveredInitializer => "Invalid assignment in object literal"
  | mixedCoalesce => "Logical expressions and coalesce expressions cannot be mixed"
  | unparenthesizedPower => "Unexpected exponentiation expression"
  | restInitializer => "A rest element cannot have an initializer."
  | restNotLast => "A rest element must be last in a destructuring pattern"
  | restName => "Invalid rest element"
  | spreadNotLast => "Spread must be last element"
  | restParameterNotLast => "A rest parameter must be last in a parameter list"
  | restTrailingComma => "Unexpected trailing comma after rest element"
  | constInitializer => "Missing initializer in const declaration"
  | patternInitializer => "Missing initializer in destructuring declaration"
  | usingInitializer => "Using declarations must have an initializer."
  | loopInitializer loop => loop ++ " loop variable declaration may not have an initializer"
  | loopSeveral loop =>
    "Only a single declaration is allowed in a `" ++ loop ++ "` statement"
  | loopType loop =>
    "The left-hand side of a '" ++ loop ++ "' statement cannot use a type annotation."
  | loopAsync => "The left-hand side of a `for...of` statement may not be `async`"
  | awaitLoop => "await can only be used in conjunction with `for...of` statements"
  | asyncPlacement => "Async functions can only be declared at the top level or inside a block"
  | generatorPlacement => "Generators can only be declared at the top level or inside a block"
  | lexicalPlacement => "Lexical declaration cannot appear in a single-statement context"
  | taggedChain => "Tagged template expressions are not permitted in an optional chain"
  | newChain => "Invalid optional chain from new expression."
  | newImport => "Cannot use new with dynamic import"
  | privateOperand => "Unexpected left-hand side of private-in expression"
  | newMeta => "The only valid meta property for new is new.target"
  | importMeta => "The only valid meta property for import is import.meta"
  | yieldPlace => "A 'yield' expression is only allowed in a generator body."
  | superUse =>
    "'super' can only be used with function calls or in property accesses"
  | superPrivate => "Unexpected private identifier after super"
  | importArguments =>
    "Dynamic imports can only accept a module specifier and an optional set of attributes as arguments"
  | importSpecifier => "import() requires a specifier."
  | exportReserved => "A reserved word cannot be used as an exported binding without `from`"
  | exportString => "A string literal cannot be used as an exported binding without `from`"
  | typeImportShape =>
    "A type-only import can specify a default import or named bindings, but not both."
  | importAliasType => "An import alias cannot use 'import type'"
  | severalParents => "Classes can only extend a single class."
  | heritageTwice word => "'" ++ word ++ "' clause already seen."
  | heritageOrder => "'extends' clause must precede 'implements' clause."
  | getterParameters => "A 'get' accessor must not have any formal parameters."
  | setterParameters => "A 'set' accessor must have exactly one parameter."
  | setterRest => "A 'set' accessor cannot have rest parameter."
  | constructorTypes => "Type parameters cannot appear on a constructor declaration"
  | constructorThis => "A constructor cannot have a \x60this\x60 parameter."
  | enumComputed => "Computed property names are not allowed in enums."
  | enumNumeric => "An enum member cannot have a numeric name."
  | optionalDefinite => "A property cannot be both optional and definite."
  | requiredAfterOptional => "A required parameter cannot follow an optional parameter."
  | questionInitializer => "Parameter cannot have question mark and initializer."
  | restOptional => "A rest parameter cannot be optional."
  | typesOnly what => what ++ " can only be used in TypeScript files."
  | emptyTypeParameters => "Type parameter list cannot be empty."
  | emptyTypeArguments => "Type argument list cannot be empty."
  | readonlyType =>
    "'readonly' type modifier is only permitted on array and tuple literal types."
  | markedType mark isBefore =>
    "'" ++ mark ++ "' at the " ++ (if isBefore then "start" else "end")
      ++ " of a type is not valid TypeScript syntax."
  | importTypeSource => "String literal expected."
  | tupleOptionalRest => "A tuple member cannot be both optional and rest."
  | interfaceImplements => "Interface declaration cannot have 'implements' clause."
  | interfaceParent =>
    "An interface can only extend an identifier/qualified-name with optional type arguments."
  | definiteType =>
    "Declarations with definite assignment assertions must also have type annotations."
  | definiteInitializer =>
    "Declarations with initializers cannot also have definite assignment assertions."
  | closingTag name => "Expected corresponding JSX closing tag for '" ++ name ++ "'."
  | closingFragment => "Expected corresponding closing tag for JSX fragment."
  | emptyAttribute => "JSX attributes must only be assigned a non-empty 'expression'."
  | decoratorsTwice =>
    "Decorators may not appear after 'export' or 'export default' if they also appear before 'export'."
  | decoratorsPlace => "Decorators are not valid here."
  | abstractBody name =>
    "Method '" ++ name ++ "' cannot have an implementation because it is marked abstract."
  | abstractInitializer name =>
    "Property '" ++ name ++ "' cannot have an initializer because it is marked abstract."
  | arrowThis => "An arrow function cannot have a 'this' parameter."
  | ambientBody => "An implementation cannot be declared in ambient contexts."
  | modifierPlace word place => "'" ++ word ++ "' modifier cannot appear on " ++ place ++ "."
  | modifierHere word => "'" ++ word ++ "' modifier cannot be used here."
  | typeParameterModifier word =>
    "'" ++ word ++ "' modifier cannot be used on a type parameter."
  | varianceModifier word =>
    "'" ++ word
      ++ "' modifier can only be used on a type parameter of a class, interface or type alias."
  | modifierTwice word => "'" ++ word ++ "' modifier already seen."
  | accessTwice => "Accessibility modifier already seen."
  | modifierOrder word earlier =>
    "'" ++ word ++ "' modifier must precede '" ++ earlier ++ "' modifier."
  | modifierPair word other =>
    "'" ++ word ++ "' modifier cannot be used with '" ++ other ++ "' modifier."
  | readonlyPlace =>
    "'readonly' modifier can only appear on a property declaration or index signature."
  | privateAccess => "An accessibility modifier cannot be used with a private identifier."
  | constMember => "A class member cannot have the 'const' keyword."
  | duplicateExport name => "Duplicated export '" ++ name ++ "'"
  | severalDefaults => "A module cannot have multiple default exports."
  | awaitParameter => "await expression not allowed in formal parameter"
  | yieldParameter => "yield expression not allowed in formal parameter"
  | staticAwait => "Cannot use await in class static initialization block"
  | awaitName => "Cannot use `await` as an identifier in an async context"
  | yieldName => "Cannot use `yield` as an identifier in a generator context"
  | awaitPlace =>
    "`await` is only allowed within async functions and at the top levels of modules"
  | redeclared name => "Identifier `" ++ name ++ "` has already been declared"
  | reservedWord word => "The keyword '" ++ word ++ "' is reserved"
  | strictAssignment name => "Cannot assign to '" ++ name ++ "' in strict mode"
  | notTopLevel what =>
    "'" ++ what ++ "' declaration can only be used at the top level of a module"
  | undefinedExport name => "Export '" ++ name ++ "' is not defined"
  | privateOutsideClass name =>
    "Private identifier '#" ++ name ++ "' is not allowed outside class bodies"
  | privateUndeclared name =>
    "Private field '" ++ name ++ "' must be declared in an enclosing class"
  | deletePrivate => "The operand of a 'delete' operator cannot be a private identifier."
  | deleteName => "Delete of an unqualified identifier in strict mode."
  | returnPlace => "A 'return' statement can only be used within a function body."
  | breakPlace => "Illegal break statement"
  | continuePlace => "Illegal continue statement: no surrounding iteration statement"
  | continueLabel =>
    "A `continue` statement can only jump to a label of an enclosing `for`, `while` or `do while` statement."
  | undefinedLabel => "Use of undefined label"
  | labelTwice name => "Label `" ++ name ++ "` has already been declared"
  | severalConstructors => "Multiple constructor implementations are not allowed."
  | superPropertyPlace =>
    "'super' can only be referenced in members of derived classes or object literal expressions."
  | superCallPlace =>
    "Super calls are not permitted outside constructors or in nested functions inside constructors."
  | superCallClass => "'super' can only be referenced in a derived class."
  | newTargetPlace => "Unexpected new.target expression"
  | importMetaPlace => "Unexpected import.meta expression"
  | classPlacement => "Invalid class declaration"
  | functionPlacement => "Invalid function declaration"
  | namespacePlacement =>
    "A namespace declaration is only allowed at the top level of a namespace or module."
  | compoundTarget => "Invalid left-hand side in assignment"
  | strictDirective =>
    "Illegal 'use strict' directive in function with non-simple parameter list"
  | withStatement => "'with' statements are not allowed"
  | staticPrototype => "Classes may not have a static property named 'prototype'"
  | constructorAccessor => "Constructor can't have get/set modifier"
  | constructorAsync => "Constructor can't be an async method"
  | constructorGenerator => "Constructor can't be a generator"
  | constructorField => "Classes can't have a field named 'constructor'"
  | privateConstructor => "Classes can't have an element named '#constructor'"
  | argumentsPlace place => "'arguments' is not allowed in " ++ place
  | jumpCrossing => "Jump target cannot cross function boundary."
  | constructorMissing => "Constructor implementation is missing."
  | abstractMethodPlace => "Abstract methods can only appear within an abstract class."
  | abstractPropertyPlace => "Abstract properties can only appear within an abstract class."
  | missingImplementation =>
    "Function implementation is missing or not immediately following the declaration."
  | multipleImplementations => "Duplicate function implementation."
  | exportAssignmentMix =>
    "An export assignment cannot be used in a module with other exported elements"
  | enumInitializer => "Enum member must have initializer."
  | accessorBody => "Getters and setters must have an implementation."
  | parameterField => "A parameter property is only allowed in a constructor implementation."
  | typeName what name => what ++ " name cannot be '" ++ name ++ "'"
  | markupSequence => "JSX expressions may not use the comma operator"
  | namespaceExport =>
    "Namespaces exporting non-const are not supported by Babel. Change to const or see: https://babeljs.io/docs/en/babel-plugin-transform-typescript"
  | markupKey =>
    "Please provide an explicit key value. Using \"key\" as a shorthand for \"key=\x7btrue\x7d\" is not allowed."
  | markupNamespace =>
    "Namespace tags are not supported by default. React's JSX doesn't support namespace tags. You can set `throwIfNamespace: false` to bypass this warning."
  | markupPragma => "pragma and pragmaFrag cannot be set when runtime is automatic."
  | markupSource => "importSource cannot be set when runtime is classic."

end Vitrine.Script
