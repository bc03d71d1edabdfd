import MarkupTemplate.Error.Excerpt
import MarkupTemplate.Text.Quoted
import MarkupTemplate.Value.Kind

/-!
# Errors

An error is a cause and, where one is known, the place in the source it is about. The wording of
every message is in `Cause.message`.
-/

namespace MarkupTemplate

/-- The categories of errors. -/
inductive ErrorCategory where
  | structuralType | voidBody | malformedIndent | undefinedSymbol | stackUnderflow | type
  | importPath | format
  deriving DecidableEq, Repr

def ErrorCategory.name : ErrorCategory → String
  | .structuralType => "StructuralType"
  | .voidBody => "VoidBody"
  | .malformedIndent => "MalformedIndent"
  | .undefinedSymbol => "UndefinedSymbol"
  | .stackUnderflow => "StackUnderflow"
  | .type => "Type"
  | .importPath => "Import"
  | .format => "Format"

/-- Everything that can go wrong. -/
inductive Cause where
  /-- A value stands where nodes are expected. -/
  | notNodes (found : Kind)
  /-- A tag without a body was given one. -/
  | bodyOfVoid (tag : String)
  | indentWithoutNewline (indent : String)
  /-- A node is not indented at least as far as its parent. -/
  | indentOutsideParent (indent parent : String)
  /-- An element is rendered before it was placed under its parent. -/
  | indentStillAbsolute (indent : String)
  /-- A layout holds something other than blanks. -/
  | indentNotBlank (c : Char)
  | undefined (symbol : String)
  | unknownModule (path : String)
  | popAtBottom
  | setInTrunk (index : Nat)
  | setPastTop (index : Nat)
  | resetAboveTop
  | resetBelowBottom
  | dedentAtMargin
  /-- A positional attribute has no name that could be written for `true`. -/
  | positionalTrue (tag : String)
  | notScalar (found : Kind)
  | notCallable (found : Kind)
  /-- A name is called as a tag and its variable holds something else. -/
  | calledNotCallable (symbol : String) (found : Kind)
  | notFunction (found : Kind)
  | notIterable (found : Kind)
  | indexOutOfBounds (length : Nat)
  | listIndexedByName
  | mapIndexedByNumber
  | keyNotFound (key : String)
  | notIndexable (found : Kind)
  | listIndexedBy (found : Kind)
  | mapIndexedBy (found : Kind)
  | tooManyArguments (name : String) (expected given : Nat)
  | unknownParameter (name parameter : String)
  | repeatedArgument (name parameter : String)
  | missingArgument (name parameter : String)
  | symbolNotCallable (symbol : String) (found : Kind)
  | symbolWithoutSigil (symbol : String)
  | symbolNotIdentifier (symbol : String)
  | wrongArity (f : Builtin) (given : Nat)
  | argumentNotString (f : Builtin) (found : Kind)
  | unsupportedArgument (f : Builtin) (found : Kind)
  | contextNotSerializable (message : String)
  | contextNotMap (found : Kind)
  /-- A formatter refused a value, with a message of its own or without one. -/
  | formatter (message : Option String)
  deriving DecidableEq, Repr

def Cause.category : Cause → ErrorCategory
  | .notNodes _ => .structuralType
  | .bodyOfVoid _ => .voidBody
  | .indentWithoutNewline _ | .indentOutsideParent .. | .indentStillAbsolute _
  | .indentNotBlank _ => .malformedIndent
  | .undefined _ => .undefinedSymbol
  | .unknownModule _ => .importPath
  | .popAtBottom | .setInTrunk _ | .setPastTop _ | .resetAboveTop | .resetBelowBottom
  | .dedentAtMargin => .stackUnderflow
  | .formatter _ => .format
  | _ => .type

def Cause.message : Cause → String
  | .notNodes found => s!"expected a node, found {found.name}"
  | .bodyOfVoid tag => s!"void tag `{tag}` must not have a body"
  | .indentWithoutNewline indent =>
    s!"absolute indentation {Text.quote indent} must start with a newline"
  | .indentOutsideParent indent parent =>
    s!"indentation {Text.quote indent} does not extend the parent's {Text.quote parent}"
  | .indentStillAbsolute indent =>
    s!"element rendered with absolute indentation {Text.quote indent}"
  | .indentNotBlank c => s!"indentation contains non-whitespace character {Text.quoteChar c}"
  | .undefined symbol => s!"undefined symbol `{symbol}`"
  | .unknownModule path => s!"unknown module path `{path}`"
  | .popAtBottom => "cannot pop below the bottom of the stack"
  | .setInTrunk index => s!"cannot write position {index} in the read-only trunk"
  | .setPastTop index => s!"position {index} is past the top of the stack"
  | .resetAboveTop => "cannot reset to a checkpoint above the top of the stack"
  | .resetBelowBottom => "cannot reset below the bottom of the stack"
  | .dedentAtMargin => "cannot dedent below the left margin"
  | .positionalTrue tag => s!"positional attribute of `{tag}` must not be `true`"
  | .notScalar found => s!"expected a scalar value, found {found.name}"
  | .notCallable found => s!"expected hypertag, found {found.name}"
  | .calledNotCallable symbol found => s!"expected hypertag, but `{symbol}` is {found.name}"
  | .notFunction found => s!"expected function, found {found.name}"
  | .notIterable found => s!"expected iterable, but expression evaluated to {found.name}"
  | .indexOutOfBounds length => s!"index out of bounds, the length is {length}"
  | .listIndexedByName => "cannot index list with string"
  | .mapIndexedByNumber => "cannot index map with integer"
  | .keyNotFound key => s!"`{key}` not found in map"
  | .notIndexable found => s!"cannot index into {found.name}"
  | .listIndexedBy found => s!"cannot index into list with {found.name}"
  | .mapIndexedBy found => s!"cannot index into map with {found.name}"
  | .tooManyArguments name expected given =>
    s!"hypertag `{name}` takes {expected} argument(s) but {given} were given"
  | .unknownParameter name parameter => s!"hypertag `{name}` has no parameter `{parameter}`"
  | .repeatedArgument name parameter =>
    s!"hypertag `{name}` got multiple values for parameter `{parameter}`"
  | .missingArgument name parameter => s!"hypertag `{name}` is missing argument `{parameter}`"
  | .symbolNotCallable symbol found =>
    s!"symbol `{symbol}` must hold a hypertag, found {found.name}"
  | .symbolWithoutSigil symbol => s!"symbol `{symbol}` must start with `%` or `$`"
  | .symbolNotIdentifier symbol => s!"symbol `{symbol}` is not a valid identifier"
  | .wrongArity f given =>
    s!"function `{f.name}` expected {f.arity} argument(s), found {given}"
  | .argumentNotString f found =>
    s!"function `{f.name}` expected string argument, found {found.name}"
  | .unsupportedArgument f found => s!"function `{f.name}` does not support {found.name}"
  | .contextNotSerializable message => s!"failed to convert context: {message}"
  | .contextNotMap found => s!"expected the context to serialize to a map, found {found.name}"
  | .formatter message => message.getD "format error"

/-- A cause and the place it is about: the source it stands in and the bytes of it. -/
structure Error where
  cause : Cause
  place : Option (String × Span) := none
  deriving DecidableEq, Repr

namespace Error

def category (e : Error) : ErrorCategory := e.cause.category

/-- The message without the place. -/
def message (e : Error) : String := e.cause.message

/-- The error at a place in the source. A place that is known already is kept, so the innermost one
wins, and an empty source gives none. -/
def placed (e : Error) (source : String) (span : Span) : Error :=
  if e.place.isNone && !source.isEmpty then { e with place := some (source, span) } else e

def display (e : Error) : String :=
  match e.place with
  | some (_, span) => s!"{e.message} between bytes {span.m} and {span.n}"
  | none => e.message

/-- The message under an excerpt of the source, if there is a place. -/
def excerpt? (e : Error) : Option String :=
  e.place.map fun (source, span) => (Excerpt.ofSpan Text.width source.toList span).render e.message

/-- The error with everything that is known of it. -/
def inspect (e : Error) : String :=
  e.excerpt?.getD
    ("Error \x7b kind: " ++ e.category.name ++ ", msg: " ++ Text.quote e.message ++ " \x7d")

end Error

def Cause.toError (c : Cause) : Error := { cause := c }

def fail {α : Type} (c : Cause) : Except Error α := .error c.toError

/-- The result with its error at a place in the source. -/
def locate {α : Type} (source : String) (span : Span) : Except Error α → Except Error α
  | .ok x => .ok x
  | .error e => .error (e.placed source span)

end MarkupTemplate
