import DocStore.Text.Quoted

/-!
# Errors of requests

What can be wrong with a document, a field, a parameter or a URL that a client
hands in, and the wording of each.
-/

namespace DocStore

/-- Why a text is no absolute URL. -/
inductive UrlFailure where
  | relativeWithoutBase
  | emptyHost
  | invalidPort
  | invalidIpv4
  | invalidIpv6
  | invalidInternationalName
  | invalidDomainCharacter
  deriving DecidableEq, Repr

/-- The wording of a failure. -/
def UrlFailure.message : UrlFailure → String
  | .relativeWithoutBase => "relative URL without a base"
  | .emptyHost => "empty host"
  | .invalidPort => "invalid port number"
  | .invalidIpv4 => "invalid IPv4 address"
  | .invalidIpv6 => "invalid IPv6 address"
  | .invalidInternationalName => "invalid international domain name"
  | .invalidDomainCharacter => "invalid domain character"

/-- The type that a reserved field demands. -/
inductive FieldType where
  | string
  | number
  | boolean
  deriving DecidableEq, Repr

/-- The name of a type in messages. -/
def FieldType.name : FieldType → String
  | .string => "string"
  | .number => "number"
  | .boolean => "boolean"

/-- What is wrong with what a client hands in. -/
inductive RequestError where
  /-- A document is not a JSON object. -/
  | notAnObject
  /-- A reserved field is given a value of another type. -/
  | fieldType (field : String) (expected : FieldType)
  /-- A parameter of a listing cannot be read. -/
  | malformedParameter (name : String)
  /-- A URL cannot be read. -/
  | invalidUrl (failure : UrlFailure)
  deriving DecidableEq, Repr

/-- The wording of an error. -/
def RequestError.message : RequestError → String
  | .notAnObject => "invalid object: expected a JSON object"
  | .fieldType field expected =>
    "invalid value for field '" ++ field ++ "': value is not a " ++ expected.name
  | .malformedParameter name => name ++ " has invalid content"
  | .invalidUrl failure => "invalid URL: " ++ failure.message

end DocStore
