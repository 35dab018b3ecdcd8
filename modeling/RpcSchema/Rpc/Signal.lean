/-!
# Signals

A signal has a list of connections, each with what is connected, and a number for each that no
other connection of the signal ever had. Emitting goes through the connections as they were when
it began, in the order they were made; what is connected may meanwhile change the signal.

What is connected is data, so a signal can be looked into. One kind of it is an `Observer`, which
writes down what it saw and may then connect another one or end a connection.

## Main definitions

* `Signal`, `Signal.connect`, `Signal.disconnect` — connections
* `Signal.emit` — what an emission does to a state
* `Observer`, `observe` — observers, and what they see of one emission
-/

namespace RpcSchema

/-- A signal with connections to values of the type `C`. -/
structure Signal (C : Type) where
  /-- the number of the next connection -/
  next : Nat
  /-- the connections with their numbers, oldest first -/
  connections : List (Nat × C)

namespace Signal

/-- A signal without connections. -/
def empty : Signal C := ⟨0, []⟩

/-- The number of connections. -/
def size (s : Signal C) : Nat := s.connections.length

/-- The signal with one more connection, which gets the next number. -/
def connect (s : Signal C) (target : C) : Signal C :=
  ⟨s.next + 1, s.connections ++ [(s.next, target)]⟩

/-- Whether a connection exists. -/
def isConnected (s : Signal C) (number : Nat) : Bool := s.connections.any (·.1 == number)

/-- The signal without a connection. -/
def disconnect (s : Signal C) (number : Nat) : Signal C :=
  { s with connections := s.connections.filter (·.1 != number) }

/-- What is connected, oldest first. -/
def targets (s : Signal C) : List C := s.connections.map (·.2)

/-- What an emission does to a state: it goes through what is connected when it begins. -/
def emit (s : Signal C) (invoke : σ → C → σ) (state : σ) : σ := s.targets.foldl invoke state

/-- A signal as diagnostics show it. -/
def describe (s : Signal C) : String :=
  "Signal \x7b connections: " ++ toString s.size ++ " \x7d"

end Signal

/-! ### Observers -/

/-- What an observer does when it has seen a value. -/
inductive Reaction
  | rest
  /-- connect an observer that only watches -/
  | connect
  /-- end a connection -/
  | disconnect (number : Nat)
  deriving Repr, DecidableEq

/-- An observer of a signal. One that an observer connected carries the same label. -/
structure Observer where
  label : Nat
  isInner : Bool
  reaction : Reaction
  deriving Repr, DecidableEq

/-- What an observer does to the signal it is connected to. -/
def Observer.react (o : Observer) (s : Signal Observer) : Signal Observer :=
  match o.reaction with
  | .rest => s
  | .connect => s.connect ⟨o.label, true, .rest⟩
  | .disconnect number => s.disconnect number

/-- The signal after an emission, and the observers that saw it in order. -/
def observe (s : Signal Observer) : Signal Observer × List Observer :=
  s.emit (fun (signal, seen) o => (o.react signal, seen ++ [o])) (s, [])

end RpcSchema
