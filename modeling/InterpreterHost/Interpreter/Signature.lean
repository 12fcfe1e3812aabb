import InterpreterHost.Interpreter.Computation

/-!
# Signatures of functions

How the arguments of a call are assigned to the parameters of a function.

## Main definitions

* `Signature` — the parameters of a function
* `Signature.assign` — what each parameter gets, or why the call does not fit
-/

namespace InterpreterHost

/-- The parameters of a function. -/
structure Signature where
  parameters : List String := []
  /-- The defaults of the last parameters. -/
  defaults : List Constant := []
  /-- Whether further positional arguments are collected in a tuple. -/
  rest : Bool := false
  /-- The parameters that no positional argument reaches, with their defaults. -/
  options : List (String × Constant) := []
  /-- Whether further named arguments are collected in a dictionary. -/
  named : Bool := false
deriving DecidableEq, Repr

/-- What the parameters of a function get in a call. -/
structure Assignment where
  /-- What each parameter gets: an argument or its default. -/
  values : List (Ref ⊕ Constant)
  /-- The positional arguments that are left. -/
  rest : List Ref
  /-- The named arguments that are left. -/
  named : List (String × Ref)
deriving Repr

namespace Signature

/-- How many parameters have no default. -/
def required (s : Signature) : Nat := s.parameters.length - s.defaults.length

/-- The names of all parameters. -/
def names (s : Signature) : List String := s.parameters ++ s.options.map (·.1)

/-- Names in words: with commas, and with a conjunction before the last. -/
def enumerate (names : List String) : String :=
  match names.map fun n => s!"'{n}'" with
  | [] => ""
  | [a] => a
  | [a, b] => s!"{a} and {b}"
  | names => ", ".intercalate names.dropLast ++ ", and " ++ names.getLastD ""

def plural (n : Nat) : String := if n = 1 then "" else "s"

/-- The words for too many positional arguments, where `options` are the parameters that got an argument by their
names alone. -/
def tooMany (s : Signature) (function : String) (given options : Nat) : String :=
  let most := s.parameters.length
  let takes :=
    if s.defaults.isEmpty then s!"{most} positional argument{plural most}"
    else s!"from {s.required} to {most} positional arguments"
  let others :=
    if options = 0 then ""
    else s!" positional argument{plural given} (and {options} keyword-only argument{plural options})"
  let verb := if given = 1 ∧ options = 0 then "was" else "were"
  s!"{function}() takes {takes} but {given}{others} {verb} given"

/-- The words for parameters that get nothing. -/
def missing (function : String) (names : List String) : String :=
  s!"{function}() missing {names.length} required positional argument{plural names.length}: {enumerate names}"

/-- Assign one named argument. -/
def assignNamed (s : Signature) (function : String) (values : List (Option Ref)) (named : List (String × Ref))
    (name : String) (value : Ref) : Except String (List (Option Ref) × List (String × Ref)) :=
  match s.names.findIdx? (· = name) with
  | some i =>
    if (values.getD i none).isSome then
      .error s!"{function}() got multiple values for argument '{name}'"
    else .ok (values.set i (some value), named)
  | none =>
    if s.named then .ok (values, named ++ [(name, value)])
    else .error s!"{function}() got an unexpected keyword argument '{name}'"

/-- What each parameter gets: an argument, its default or nothing. -/
def fill (s : Signature) (values : List (Option Ref)) : List (Option (Ref ⊕ Constant)) :=
  let defaults := List.replicate s.required none ++ (s.defaults ++ s.options.map (·.2)).map some
  List.zipWith (fun value default => match value with
    | some r => some (.inl r)
    | none => default.map .inr) values defaults

/-- Assign the arguments of a call to the parameters, or say why they do not fit. -/
def assign (s : Signature) (function : String) (args : List Ref) (named : List (String × Ref)) :
    Except String Assignment := do
  let count := s.parameters.length
  let values := (args.take count).map some ++ List.replicate (count - args.length + s.options.length) none
  let (values, named) ← named.foldlM (fun (values, named) (name, value) =>
    s.assignNamed function values named name value) (values, [])
  if count < args.length ∧ ¬ s.rest then
    throw (s.tooMany function args.length ((values.drop count).filter Option.isSome).length)
  let filled := s.fill values
  let missingNames := (s.names.zip filled).filterMap fun p => if p.2.isNone then some p.1 else none
  if ¬ missingNames.isEmpty then throw (missing function missingNames)
  return ⟨filled.filterMap id, args.drop count, named⟩

end Signature

namespace Computation

/-- What a function gets for its parameters, and which of that was made for the call and ends with it. -/
def bind (s : Signature) (function : String) (args : List Ref) (named : List (String × Ref)) :
    Computation (List Ref × List Ref) := do
  match s.assign function args named with
  | .error message => typeError message
  | .ok a =>
    let values ← a.values.mapM fun
      | .inl r => return (r, [])
      | .inr c => do
        let r ← new c.object
        return (r, [r])
    let rest ← if s.rest then do
        let r ← new (.tuple (← retainAll a.rest))
        pure [r]
      else pure []
    let named ← if s.named then do
        let r ← newDict (← a.named.mapM fun p => return (p.1, ← retain p.2))
        pure [r]
      else pure []
    return (values.map (·.1) ++ rest ++ named, values.flatMap (·.2) ++ rest ++ named)

end Computation

end InterpreterHost
