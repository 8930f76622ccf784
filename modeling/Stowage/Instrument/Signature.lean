import Stowage.Failure.Basic

/-!
Signatures: which arguments a function takes, and how the arguments of a call are matched to them.

`Signature.bindPartial?` matches what a call supplies and leaves out what it does not;
`Signature.check` says what is wrong with a call that the function cannot take.
-/

namespace Stowage.Instrument

/-- How a parameter can be given. -/
inductive ParameterKind where
  | positionalOnly | either | keywordOnly
  deriving DecidableEq, Repr

/-- A parameter; one that is not required has a default. -/
structure Parameter where
  name : String
  kind : ParameterKind := .either
  required : Bool := true
  deriving DecidableEq, Repr

/-- The parameters of a function, those that can be given by position first. -/
structure Signature where
  function : String
  parameters : List Parameter
  deriving Repr

/-- The arguments of a call, by position and by keyword. -/
structure Arguments where
  positional : List Value := []
  keywords : List (String × Value) := []
  deriving Repr, Inhabited

namespace Signature

/-- The parameters that can be given by position. -/
def positional (sig : Signature) : List Parameter :=
  sig.parameters.filter fun p => p.kind ≠ .keywordOnly

/-- The parameters that can be given by keyword. -/
def named (sig : Signature) : List Parameter :=
  sig.parameters.filter fun p => p.kind ≠ .positionalOnly

/-- The names of the parameters that the call gives by position. -/
def filled (sig : Signature) (call : Arguments) : List String :=
  (sig.positional.take call.positional.length).map Parameter.name

/-- The values that a call supplies, by parameter and in the order of the parameters; none when
there are too many, or a keyword that fits no parameter that is left. -/
def bindPartial? (sig : Signature) (call : Arguments) : Option (List (String × Value)) :=
  let filled := sig.filled call
  let fits (key : String) : Bool :=
    (sig.named.any fun p => p.name == key) && !filled.contains key
  if call.positional.length ≤ sig.positional.length && call.keywords.all fun (k, _) => fits k then
    let byPosition := filled.zip call.positional
    let byKeyword := sig.named.filterMap fun p => (call.keywords.lookup p.name).map (p.name, ·)
    some (byPosition ++ byKeyword)
  else none

/-! ## What is wrong with a call -/

/-- Names in quotes, joined as in a sentence. -/
def listed : List String → String
  | [] => ""
  | [a] => Text.quoted a
  | [a, b] => Text.quoted a ++ " and " ++ Text.quoted b
  | names =>
    Text.join ", " (names.dropLast.map Text.quoted) ++ ", and " ++
      Text.quoted (names.getLast?.getD "")

/-- An ending for more than one. -/
def plural (n : Nat) : String := if n = 1 then "" else "s"

/-- The keywords that name parameters which cannot be given so. -/
def misnamed (sig : Signature) (call : Arguments) : List String :=
  (sig.parameters.filter fun p => p.kind = .positionalOnly &&
    call.keywords.any fun (k, _) => k == p.name).map Parameter.name

/-- What is wrong with the first keyword that does not fit. -/
def keywordFault? (sig : Signature) (call : Arguments) : List (String × Value) → Option String
  | [] => none
  | (key, _) :: r =>
    if sig.named.any fun p => p.name == key then
      if (sig.filled call).contains key then
        some ("got multiple values for argument " ++ Text.quoted key)
      else keywordFault? sig call r
    else match sig.misnamed call with
      | [] => some ("got an unexpected keyword argument " ++ Text.quoted key)
      | names => some ("got some positional-only arguments passed as keyword arguments: '" ++
          Text.join ", " names ++ "'")

/-- More arguments by position than there are parameters for them. -/
def surplus? (sig : Signature) (call : Arguments) : Option String :=
  let most := sig.positional.length
  let least := (sig.positional.filter Parameter.required).length
  let given := call.positional.length
  if given ≤ most then none
  else
    let range := if least < most then
        "from " ++ Decimal.naturalText least ++ " to " ++ Decimal.naturalText most
      else Decimal.naturalText most
    let kept := (sig.parameters.filter fun p => p.kind = .keywordOnly &&
      call.keywords.any fun (k, _) => k == p.name).length
    let more := if kept = 0 then ""
      else " positional argument" ++ plural given ++ " (and " ++ Decimal.naturalText kept ++
        " keyword-only argument" ++ plural kept ++ ")"
    some ("takes " ++ range ++ " positional argument" ++
      (if least < most then "s" else plural most) ++ " but " ++ Decimal.naturalText given ++ more ++
      (if given = 1 ∧ kept = 0 then " was" else " were") ++ " given")

/-- Parameters that are required and not given, of one kind of parameters. -/
def missing? (kind : String) (names : List String) : Option String :=
  if names.isEmpty then none
  else some ("missing " ++ Decimal.naturalText names.length ++ " required " ++ kind ++
    " argument" ++ plural names.length ++ ": " ++ listed names)

/-- The names of required parameters that a call does not give. -/
def absent (sig : Signature) (call : Arguments) (parameters : List Parameter) : List String :=
  (parameters.filter fun p => p.required && !(sig.filled call).contains p.name &&
    !(p.kind ≠ .positionalOnly && call.keywords.any fun (k, _) => k == p.name)).map Parameter.name

/-- What is wrong with a call, if anything. -/
def fault? (sig : Signature) (call : Arguments) : Option String :=
  (sig.keywordFault? call call.keywords).or <| (sig.surplus? call).or <|
    (missing? "positional" (sig.absent call sig.positional)).or
    (missing? "keyword-only"
      (sig.absent call (sig.parameters.filter fun p => p.kind = .keywordOnly)))

/-- Refuse a call that the function cannot take. -/
def check (sig : Signature) (call : Arguments) : Except Failure Unit :=
  match sig.fault? call with
  | none => .ok ()
  | some fault => .error (.badType (sig.function ++ "() " ++ fault))

end Signature

end Stowage.Instrument
