import RpcSchema.Proofs.Rpc.Causes
import RpcSchema.Proofs.Rpc.Envelopes

/-!
# Errors and their classes

Only the class and the data of an error cross the wire, and both may come from a peer that makes
them up. Reading goes by the class first and then by the members that the error of this class is
made of, and where one of them is missing or is no text the error is one of that class with a
description only. So an error of a command's own may have the class of another error: its data has
no name, and without a name nothing is read as the other error. Whatever is read has the class that
it came with.

## Main definitions

* `RpcError.namedClasses` — the classes of the errors that need a name only
* `RpcError.Structured` — data with all the members that its class needs
* `RpcError.Stands` — what a class and data stand for

## Main results

* `stands_ofWire` — reading gives what the class and data stand for
* `classes_roundTrip` — errors come back, and what is read is stable
-/

namespace RpcSchema.RpcError

open Json (Members)

/-- The classes of the errors that need a name, and no other text. -/
def namedClasses : List String := ["MissingParameter", "UnionConstraint", "CommandNotFound"]

/-- Data that has, as texts, all the members that the errors of a class need. -/
def Structured (data : Members) (className : String) : Prop :=
  (className ∈ namedClasses ∧ (text? data "name").isSome) ∨
    (className ∈ parameterClasses ∧ (text? data "name").isSome ∧ (text? data "expected").isSome)

/-- The error that a class and data stand for. -/
inductive Stands (data : Members) : String → RpcError → Prop
  | missingParameter {name : String} (hname : text? data "name" = some name) :
    Stands data "MissingParameter" (.missingParameter name)
  | invalidType {name expected : String} (hname : text? data "name" = some name)
    (hexpected : text? data "expected" = some expected) :
    Stands data "InvalidParameterType" (.invalidType name expected)
  | invalidValue {name expected : String} (hname : text? data "name" = some name)
    (hexpected : text? data "expected" = some expected) :
    Stands data "InvalidParameterValue" (.invalidValue name expected)
  /-- items of the list that are no texts are passed over, and no list is an empty one -/
  | unionConstraint {name : String} (hname : text? data "name" = some name) :
    Stands data "UnionConstraint" (.unionConstraint name (texts data "members"))
  | commandNotFound {name : String} (hname : text? data "name" = some name) :
    Stands data "CommandNotFound" (.commandNotFound name)
  /-- a class of a command's own, or data that lacks what its class needs -/
  | generic {className : String} (h : ¬Structured data className) :
    Stands data className (.generic className ((text? data "desc").getD ""))

variable {data : Members} {className : String} {error : RpcError}

/-- Reading gives an error that the class and data stand for. -/
theorem stands_ofWire (className : String) (data : Members) :
    Stands data className (ofWire className data) := by
  unfold ofWire
  split
  · rename_i hname
    refine .generic ?_
    rintro (⟨-, hsome⟩ | ⟨-, hsome, -⟩) <;> simp [hname] at hsome
  · rename_i name hname
    split
    · rename_i hclass
      exact hclass ▸ .missingParameter hname
    split
    · rename_i hclass
      exact hclass ▸ .unionConstraint hname
    split
    · rename_i hclass
      exact hclass ▸ .commandNotFound hname
    -- What is left needs an expectation too.
    rename_i hmissing hunion hcommand
    have hnamed : className ∉ namedClasses := by simp [namedClasses, hmissing, hunion, hcommand]
    split
    · rename_i hnone
      refine .generic ?_
      rintro (⟨hclass, -⟩ | ⟨-, -, hsome⟩)
      · exact hnamed hclass
      · simp [hnone] at hsome
    rename_i expected hexpected
    split
    · rename_i hclass
      exact hclass ▸ .invalidType hname hexpected
    split
    · rename_i hclass
      exact hclass ▸ .invalidValue hname hexpected
    · rename_i htype hvalue
      refine .generic ?_
      rintro (⟨hclass, -⟩ | ⟨hclass, -⟩)
      · exact hnamed hclass
      · simp [parameterClasses, htype, hvalue] at hclass

theorem Stands.className_eq (h : Stands data className error) : error.className = className := by
  cases h <;> rfl

/-- What a class and data stand for has a structure exactly if the data does. -/
theorem Stands.generic_iff (h : Stands data className error) :
    (∃ description, error = .generic className description) ↔ ¬Structured data className := by
  constructor
  · rintro ⟨description, rfl⟩
    cases h with
    | generic hlacks => exact hlacks
  intro hlacks
  cases h with
  | generic => exact ⟨_, rfl⟩
  | missingParameter hname =>
    exact absurd (.inl ⟨by simp [namedClasses], by rw [hname]; rfl⟩) hlacks
  | unionConstraint hname =>
    exact absurd (.inl ⟨by simp [namedClasses], by rw [hname]; rfl⟩) hlacks
  | commandNotFound hname =>
    exact absurd (.inl ⟨by simp [namedClasses], by rw [hname]; rfl⟩) hlacks
  | invalidType hname hexpected =>
    refine absurd (.inr ⟨by simp [parameterClasses], ?_, ?_⟩) hlacks
    · rw [hname]; rfl
    · rw [hexpected]; rfl
  | invalidValue hname hexpected =>
    refine absurd (.inr ⟨by simp [parameterClasses], ?_, ?_⟩) hlacks
    · rw [hname]; rfl
    · rw [hexpected]; rfl

/-- **Errors and classes go round.** Every error comes back from its class and data, whatever class
a command gave it. And whatever class and data come in, the error that is read has that class and
comes back from its own data; it is one with a description only exactly if the data lacks what the
class needs. -/
theorem classes_roundTrip :
    (∀ error : RpcError, ofWire error.className error.data = error) ∧
    ∀ (className : String) (data : Members),
      (ofWire className data).className = className ∧
      ofWire (ofWire className data).className (ofWire className data).data =
        ofWire className data ∧
      ((∃ description, ofWire className data = .generic className description) ↔
        ¬Structured data className) := by
  refine ⟨ofWire_data, fun className data => ?_⟩
  have hstands := stands_ofWire className data
  exact ⟨hstands.className_eq, ofWire_data _, hstands.generic_iff⟩

end RpcSchema.RpcError
