import Stowage.Decimal.Integer
import Stowage.Text.Split

/-!
What is wrong with a value that does not fit its model.

An `Issue` says where in the value and in what way; `Issue.report` writes all issues of one value,
each with its place, its message and its code. The validator's own text has three more parts for
every issue, which are left out: the offending value (`input_value`), the name of its type
(`input_type`), and a link to what is written about the code.
-/

namespace Stowage

/-- The ways in which a value can fail to fit. -/
inductive Issue.Kind where
  | missing
  | extraForbidden
  | invalidKey
  | modelType (model : String)
  | stringType
  /-- Bytes that are no text. -/
  | stringUnicode
  | intType
  | intParsing
  | intParsingSize
  | intFromFloat
  | finiteNumber
  | floatType
  | floatParsing
  | negative
  | notPositive
  | boolType
  | boolParsing
  | tupleType
  | dictType
  /-- None of the words of a vocabulary. -/
  | enumeration (words : List String)
  /-- None of the words spelled out in a field's declaration. -/
  | oneOf (words : List String)
  /-- Refused by a rule of the model, in the rule's words. -/
  | refused (reason : String)
  | frozen
  deriving DecidableEq, Repr

/-- One thing that is wrong: the way to the place, from the outside in and as it is shown, and the
kind. -/
structure Issue where
  path : List String
  kind : Issue.Kind
  deriving DecidableEq, Repr

namespace Issue

/-- Words in quotes, the last two joined by "or". -/
def choices : List String → String
  | [] => ""
  | [w] => "'" ++ w ++ "'"
  | [v, w] => "'" ++ v ++ "' or '" ++ w ++ "'"
  | w :: r => "'" ++ w ++ "', " ++ choices r

namespace Kind

/-- The word by which a kind is identified. -/
def code : Kind → String
  | missing => "missing"
  | extraForbidden => "extra_forbidden"
  | invalidKey => "invalid_key"
  | modelType _ => "model_type"
  | stringType => "string_type"
  | stringUnicode => "string_unicode"
  | intType => "int_type"
  | intParsing => "int_parsing"
  | intParsingSize => "int_parsing_size"
  | intFromFloat => "int_from_float"
  | finiteNumber => "finite_number"
  | floatType => "float_type"
  | floatParsing => "float_parsing"
  | negative => "greater_than_equal"
  | notPositive => "greater_than"
  | boolType => "bool_type"
  | boolParsing => "bool_parsing"
  | tupleType => "tuple_type"
  | dictType => "dict_type"
  | enumeration _ => "enum"
  | oneOf _ => "literal_error"
  | refused _ => "value_error"
  | frozen => "frozen_instance"

/-- What a kind says to the reader. -/
def message : Kind → String
  | missing => "Field required"
  | extraForbidden => "Extra inputs are not permitted"
  | invalidKey => "Keys should be strings"
  | modelType model => "Input should be a valid dictionary or instance of " ++ model
  | stringType => "Input should be a valid string"
  | stringUnicode =>
    "Input should be a valid string, unable to parse raw data as a unicode string"
  | intType => "Input should be a valid integer"
  | intParsing => "Input should be a valid integer, unable to parse string as an integer"
  | intParsingSize =>
    "Unable to parse input string as an integer, exceeded maximum size"
  | intFromFloat => "Input should be a valid integer, got a number with a fractional part"
  | finiteNumber => "Input should be a finite number"
  | floatType => "Input should be a valid number"
  | floatParsing => "Input should be a valid number, unable to parse string as a number"
  | negative => "Input should be greater than or equal to 0"
  | notPositive => "Input should be greater than 0"
  | boolType => "Input should be a valid boolean"
  | boolParsing => "Input should be a valid boolean, unable to interpret input"
  | tupleType => "Input should be a valid tuple"
  | dictType => "Input should be a valid dictionary"
  | enumeration words | oneOf words => "Input should be " ++ choices words
  | refused reason => "Value error, " ++ reason
  | frozen => "Instance is frozen"

end Kind

/-- A step to a place, marked off when it holds a point itself. -/
def step (name : String) : String := if name.contains '.' then "\x60" ++ name ++ "\x60" else name

/-- An issue with its place on a line of its own, unless it concerns the whole value. -/
def lines (issue : Issue) : String :=
  (if issue.path.isEmpty then "" else "\n" ++ Text.join "." issue.path) ++
    "\n  " ++ issue.kind.message ++ " [type=" ++ issue.kind.code ++ "]"

/-- All that is wrong with a value for a model. -/
def report (model : String) (issues : List Issue) : String :=
  Decimal.naturalText issues.length ++ " validation error" ++
    (if issues.length = 1 then "" else "s") ++ " for " ++ model ++
    String.join (issues.map lines)

end Issue

end Stowage
