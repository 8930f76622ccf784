/-!
Faults: failures raised by the platform that this program runs on or by code that it calls.

Faults form a tree. `Fault.isA` tells whether one kind is a case of another; the rules that map
failures to error details and exit codes ask only that.
-/

namespace Stowage

/-- Kinds of platform failures. `any` is the root; every kind but the interrupts is a case of
`failure`. -/
inductive Fault where
  | any | keyboardInterrupt | systemExit | generatorExit | failure | arithmeticError
  | floatingPointError | overflowError | zeroDivisionError | assertionError | attributeError
  | bufferError | eofError | importError | moduleNotFoundError | lookupError | indexError
  | keyError | memoryError | nameError | unboundLocalError | osError | blockingIOError
  | childProcessError | connectionError | brokenPipeError | connectionAbortedError
  | connectionRefusedError | connectionResetError | fileExistsError | fileNotFoundError
  | interruptedError | isADirectoryError | notADirectoryError | permissionError
  | processLookupError | timeoutError | referenceError | runtimeError | notImplementedError
  | recursionError | stopIteration | stopAsyncIteration | syntaxError | indentationError
  | tabError | systemError | typeError | valueError | unicodeError | unicodeDecodeError
  | unicodeEncodeError | unicodeTranslateError | warning | bytesWarning | deprecationWarning
  | encodingWarning | futureWarning | importWarning | pendingDeprecationWarning
  | resourceWarning | runtimeWarning | syntaxWarning | unicodeWarning | userWarning
  deriving DecidableEq, Repr

namespace Fault

/-- The kind that a kind is a case of; none for the root. -/
def parent? : Fault → Option Fault
  | .any => none
  | .keyboardInterrupt | .systemExit | .generatorExit | .failure => some .any
  | .arithmeticError | .assertionError | .attributeError | .bufferError | .eofError
    | .importError | .lookupError | .memoryError | .nameError | .osError | .referenceError
    | .runtimeError | .stopIteration | .stopAsyncIteration | .syntaxError | .systemError
    | .typeError | .valueError | .warning =>
      some .failure
  | .floatingPointError | .overflowError | .zeroDivisionError => some .arithmeticError
  | .moduleNotFoundError => some .importError
  | .indexError | .keyError => some .lookupError
  | .unboundLocalError => some .nameError
  | .blockingIOError | .childProcessError | .connectionError | .fileExistsError
    | .fileNotFoundError | .interruptedError | .isADirectoryError | .notADirectoryError
    | .permissionError | .processLookupError | .timeoutError =>
      some .osError
  | .brokenPipeError | .connectionAbortedError | .connectionRefusedError
    | .connectionResetError =>
      some .connectionError
  | .notImplementedError | .recursionError => some .runtimeError
  | .indentationError => some .syntaxError
  | .tabError => some .indentationError
  | .unicodeError => some .valueError
  | .unicodeDecodeError | .unicodeEncodeError | .unicodeTranslateError => some .unicodeError
  | .bytesWarning | .deprecationWarning | .encodingWarning | .futureWarning | .importWarning
    | .pendingDeprecationWarning | .resourceWarning | .runtimeWarning | .syntaxWarning
    | .unicodeWarning | .userWarning =>
      some .warning

/-- Whether a kind is `ancestor` or a case of it, looking up to `depth` steps. -/
def isWithin (ancestor : Fault) : Nat → Fault → Bool
  | 0, kind => kind = ancestor
  | depth + 1, kind =>
    kind = ancestor || (match kind.parent? with
      | some p => isWithin ancestor depth p
      | none => false)

/-- Whether a kind is `ancestor` or a case of it; the tree is not deeper than five steps. -/
def isA (kind ancestor : Fault) : Bool := isWithin ancestor 5 kind

/-- The name of a kind. -/
def name : Fault → String
  | .any => "BaseException"
  | .keyboardInterrupt => "KeyboardInterrupt"
  | .systemExit => "SystemExit"
  | .generatorExit => "GeneratorExit"
  | .failure => "Exception"
  | .arithmeticError => "ArithmeticError"
  | .floatingPointError => "FloatingPointError"
  | .overflowError => "OverflowError"
  | .zeroDivisionError => "ZeroDivisionError"
  | .assertionError => "AssertionError"
  | .attributeError => "AttributeError"
  | .bufferError => "BufferError"
  | .eofError => "EOFError"
  | .importError => "ImportError"
  | .moduleNotFoundError => "ModuleNotFoundError"
  | .lookupError => "LookupError"
  | .indexError => "IndexError"
  | .keyError => "KeyError"
  | .memoryError => "MemoryError"
  | .nameError => "NameError"
  | .unboundLocalError => "UnboundLocalError"
  | .osError => "OSError"
  | .blockingIOError => "BlockingIOError"
  | .childProcessError => "ChildProcessError"
  | .connectionError => "ConnectionError"
  | .brokenPipeError => "BrokenPipeError"
  | .connectionAbortedError => "ConnectionAbortedError"
  | .connectionRefusedError => "ConnectionRefusedError"
  | .connectionResetError => "ConnectionResetError"
  | .fileExistsError => "FileExistsError"
  | .fileNotFoundError => "FileNotFoundError"
  | .interruptedError => "InterruptedError"
  | .isADirectoryError => "IsADirectoryError"
  | .notADirectoryError => "NotADirectoryError"
  | .permissionError => "PermissionError"
  | .processLookupError => "ProcessLookupError"
  | .timeoutError => "TimeoutError"
  | .referenceError => "ReferenceError"
  | .runtimeError => "RuntimeError"
  | .notImplementedError => "NotImplementedError"
  | .recursionError => "RecursionError"
  | .stopIteration => "StopIteration"
  | .stopAsyncIteration => "StopAsyncIteration"
  | .syntaxError => "SyntaxError"
  | .indentationError => "IndentationError"
  | .tabError => "TabError"
  | .systemError => "SystemError"
  | .typeError => "TypeError"
  | .valueError => "ValueError"
  | .unicodeError => "UnicodeError"
  | .unicodeDecodeError => "UnicodeDecodeError"
  | .unicodeEncodeError => "UnicodeEncodeError"
  | .unicodeTranslateError => "UnicodeTranslateError"
  | .warning => "Warning"
  | .bytesWarning => "BytesWarning"
  | .deprecationWarning => "DeprecationWarning"
  | .encodingWarning => "EncodingWarning"
  | .futureWarning => "FutureWarning"
  | .importWarning => "ImportWarning"
  | .pendingDeprecationWarning => "PendingDeprecationWarning"
  | .resourceWarning => "ResourceWarning"
  | .runtimeWarning => "RuntimeWarning"
  | .syntaxWarning => "SyntaxWarning"
  | .unicodeWarning => "UnicodeWarning"
  | .userWarning => "UserWarning"

/-- All kinds. -/
def all : List Fault := [
  .any, .keyboardInterrupt, .systemExit, .generatorExit, .failure, .arithmeticError,
  .floatingPointError, .overflowError, .zeroDivisionError, .assertionError, .attributeError,
  .bufferError, .eofError, .importError, .moduleNotFoundError, .lookupError, .indexError,
  .keyError, .memoryError, .nameError, .unboundLocalError, .osError, .blockingIOError,
  .childProcessError, .connectionError, .brokenPipeError, .connectionAbortedError,
  .connectionRefusedError, .connectionResetError, .fileExistsError, .fileNotFoundError,
  .interruptedError, .isADirectoryError, .notADirectoryError, .permissionError,
  .processLookupError, .timeoutError, .referenceError, .runtimeError, .notImplementedError,
  .recursionError, .stopIteration, .stopAsyncIteration, .syntaxError, .indentationError,
  .tabError, .systemError, .typeError, .valueError, .unicodeError, .unicodeDecodeError,
  .unicodeEncodeError, .unicodeTranslateError, .warning, .bytesWarning, .deprecationWarning,
  .encodingWarning, .futureWarning, .importWarning, .pendingDeprecationWarning,
  .resourceWarning, .runtimeWarning, .syntaxWarning, .unicodeWarning, .userWarning]

/-- The kind of a name. -/
def ofName? (s : String) : Option Fault :=
  let s := if s = "IOError" ∨ s = "EnvironmentError" then "OSError" else s
  all.find? fun kind => kind.name == s

end Fault

end Stowage
