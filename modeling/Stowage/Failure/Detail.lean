import Stowage.Container.Vocabulary
import Stowage.Labels
import Stowage.Text.Blank
import Stowage.Text.LetterCase

/-!
Error details: the shape in which a failure crosses from one component to another.

A detail carries a code, a message, one of six categories, whether a retry may help, and metadata.
The functions at the end build the details of the five specified categories.
-/

namespace Stowage

/-- What kind of thing went wrong. -/
inductive ErrorCategory where
  | unspecified | validation | notFound | precondition | dependency | internal
  deriving DecidableEq, Repr, Inhabited

instance : Vocabulary ErrorCategory where
  family := "ErrorCategory"
  all := [.unspecified, .validation, .notFound, .precondition, .dependency, .internal]
  name
    | .unspecified => "UNSPECIFIED"
    | .validation => "VALIDATION"
    | .notFound => "NOT_FOUND"
    | .precondition => "PRECONDITION"
    | .dependency => "DEPENDENCY"
    | .internal => "INTERNAL"
  value
    | .unspecified => "unspecified"
    | .validation => "validation"
    | .notFound => "not_found"
    | .precondition => "precondition"
    | .dependency => "dependency"
    | .internal => "internal"

/-- The category that a word names, blanks at its ends and case aside; `unspecified` when it names
none. -/
def ErrorCategory.parse (word : String) : ErrorCategory :=
  (Vocabulary.ofValue? (Text.lower (Text.trim word))).getD .unspecified

/-- A failure as components report it to each other. -/
structure ErrorDetail where
  code : String
  message : String
  category : ErrorCategory
  retryable : Bool := false
  metadata : Labels := {}
  deriving DecidableEq, Repr, Inhabited

namespace ErrorDetail

/-! ## Codes -/

def validationError := "VALIDATION_ERROR"
def invalidArgument := "INVALID_ARGUMENT"
def notFoundCode := "NOT_FOUND"
def illegalPipelineState := "ILLEGAL_PIPELINE_STATE"
def missingPipelineName := "MISSING_PIPELINE_NAME"
def dependencyFailure := "DEPENDENCY_FAILURE"
def dependencyTimeout := "DEPENDENCY_TIMEOUT"
def dependencyUnavailable := "DEPENDENCY_UNAVAILABLE"
def invalidResponse := "INVALID_RESPONSE"
def containerSizeUnknown := "CONTAINER_SIZE_UNKNOWN"
def internalError := "INTERNAL_ERROR"
def unexpectedException := "UNEXPECTED_EXCEPTION"

/-! ## Details by category -/

/-- What was given is not acceptable. -/
def validation (message : String) (code : String := validationError) (metadata : Labels := {}) :
    ErrorDetail :=
  ⟨code, message, .validation, false, metadata⟩

/-- What was asked for does not exist. -/
def notFound (message : String) (code : String := notFoundCode) (metadata : Labels := {}) :
    ErrorDetail :=
  ⟨code, message, .notFound, false, metadata⟩

/-- The state of things does not allow the operation; trying again does not help. -/
def precondition (message : String) (code : String) (metadata : Labels := {}) : ErrorDetail :=
  ⟨code, message, .precondition, false, metadata⟩

/-- Something this program depends on failed; trying again may help unless said otherwise. -/
def dependency (message : String) (code : String := dependencyFailure) (retryable : Bool := true)
    (metadata : Labels := {}) : ErrorDetail :=
  ⟨code, message, .dependency, retryable, metadata⟩

/-- A fault of this program. -/
def internal (message : String) (code : String := internalError) (metadata : Labels := {}) :
    ErrorDetail :=
  ⟨code, message, .internal, false, metadata⟩

end ErrorDetail

end Stowage
