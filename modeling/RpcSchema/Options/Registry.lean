import RpcSchema.Options.KeyValues

/-!
# Registered options

The options of a program by name. An option takes an argument or none; what it does is a function
on the state of the program. An option that takes an argument either takes all of it as one value
or reads it as keys and values.

## Main definitions

* `ArgumentForm`, `Entry`, `Registry` — how an option takes its argument, an option, all options
* `Registry.register` — adds an option; a name that is known keeps its place
* `Registry.apply` — runs an option
-/

namespace RpcSchema.Options

/-- How an option takes its argument. -/
inductive ArgumentForm
  /-- all of it is one value -/
  | scalar
  /-- keys and values, of which the first key may be implicit -/
  | pairs (implicit : Option String)
  deriving Repr, DecidableEq

/-- The keys and values of an argument. -/
def ArgumentForm.read (form : ArgumentForm) (text : String) : Except RpcError KeyValues :=
  match form with
  | .scalar => .ok (.ofScalar text)
  | .pairs implicit => KeyValues.parse implicit text

/-- What an option does: it changes a state and may fail. -/
abbrev Action (σ : Type) := σ → σ × Except RpcError Unit

/-- An option. -/
inductive Entry (σ : Type)
  | withArgument (form : ArgumentForm) (action : KeyValues → Action σ)
  | bare (action : Action σ)

/-- Whether an option takes an argument. -/
def Entry.takesArgument : Entry σ → Bool
  | .withArgument _ _ => true
  | .bare _ => false

/-- The options of a program, in the order they were registered. -/
abbrev Registry (σ : Type) := List (String × Entry σ)

namespace Registry

/-- The options with one more. A name that is known keeps its place and changes what it does. -/
def register (name : String) (entry : Entry σ) : Registry σ → Registry σ
  | [] => [(name, entry)]
  | (n, e) :: rest =>
    if n = name then (n, entry) :: rest else (n, e) :: register name entry rest

/-- Whether the option of a name takes an argument. -/
def takesArgument? (registry : Registry σ) (name : String) : Option Bool :=
  (registry.lookup name).map Entry.takesArgument

/-- The names of the options. -/
def names (registry : Registry σ) : List String := registry.map (·.1)

/-- Runs the option of a name. An error in the argument as a whole names the option. -/
def apply (registry : Registry σ) (name : String) (argument : Option String) : Action σ :=
  fun state =>
    match registry.lookup name, argument with
    | none, _ => (state, .error (.generic "InvalidParameter" ("Invalid parameter '" ++ name ++ "'")))
    | some (.bare action), none => action state
    | some (.bare _), some _ => (state, .error (.invalidValue name "no argument"))
    | some (.withArgument _ _), none => (state, .error (.missingParameter name))
    | some (.withArgument form action), some text =>
      match form.read text with
      | .error error => (state, .error error)
      | .ok kvs =>
        let (state, result) := action kvs state
        (state, RpcError.atKey name result)

end Registry

end RpcSchema.Options
