import RpcSchema.Json.Scan
import RpcSchema.Rpc.Envelope

/-!
# What is wrong with a request

A text that is no request is answered with the first thing that is wrong with it: a fault in the
JSON, a part of a wrong type, or a part that is missing or repeated. The text is passed over from
left to right, just as far as is needed.

That a part is missing, or that one is repeated, is noticed where it happens, but told at the end
of the object or array as far as that can still be seen.

## Main definitions

* `Request.fault` — the first fault of a text
* `Request.diagnosis` — its wording
-/

namespace RpcSchema

open Json Json.Scan

namespace Request

/-- A part of a request. -/
inductive Part
  | execute
  | arguments
  | id
  deriving Repr, DecidableEq

/-- The name of a part. -/
def Part.name : Part → String
  | .execute => "execute"
  | .arguments => "arguments"
  | .id => "id"

/-- The part that a key names. -/
def Part.ofKey? : String → Option Part
  | "execute" => some .execute
  | "arguments" | "data" => some .arguments
  | "id" => some .id
  | _ => none

/-- Passes over the value of a part. -/
def Part.scan (part : Part) (cs : List Char) : Scan :=
  match part, blanks cs with
  | _, [] => failHere .endInValue []
  | .execute, '"' :: rest => string .kept rest
  | .execute, rest => .error (wrongType "a string" rest)
  | .arguments, '\x7b' :: rest => value .kept partDepth ('\x7b' :: rest)
  | .arguments, rest => .error (wrongType "a map" rest)
  | .id, rest => value .kept partDepth rest

/-! ### Objects -/

/-- What follows an object as far as its end can be seen. -/
def afterMembers (cs : List Char) : List Char :=
  match blanks cs with
  | '\x7d' :: rest => rest
  | rest => rest

/-- The key of the next member, after its opening quote, or the end of the object. -/
def memberOrEnd (isFirst : Bool) (cs : List Char) : Except Fault (Option (List Char) × List Char) :=
  match blanks cs, isFirst with
  | [], _ => failHere .endInObject []
  | '\x7d' :: rest, _ => .ok (none, rest)
  | '"' :: rest, true => .ok (some rest, [])
  | ',' :: rest, false => (memberStart .kept rest).map fun rest => (some rest, [])
  | rest, true => failNext .keyNotString rest
  | rest, false => failNext .expectedObjectEnd rest

/-- Passes over the members of a request, at most `fuel` of them, after those seen. -/
def members (seen : List Part) (isFirst : Bool) : Nat → List Char → Scan
  | 0, cs => failHere .expectedValue cs
  | fuel + 1, cs => do
    match ← memberOrEnd isFirst cs with
    | (none, rest) =>
      if seen.contains .execute then return rest else failHere (.missingField "execute") rest
    | (some start, _) =>
      let named := (stringText? start).bind Part.ofKey?
      let after ← string .kept start
      if named.any seen.contains then
        failHere (.repeatedField ((named.map Part.name).getD "")) (afterMembers after)
      else
        let value ← key .kept start
        let rest ← match named with
          | some part => part.scan value
          | none => Scan.value .skipped 0 value
        members (named.toList ++ seen) false fuel rest

/-! ### Arrays -/

/-- The next item, or the end of the array. -/
def itemOrEnd (isFirst : Bool) (cs : List Char) : Except Fault (Option (List Char) × List Char) :=
  match blanks cs, isFirst with
  | [], _ => failHere .endInList []
  | ']' :: rest, _ => .ok (none, rest)
  | ',' :: rest, false => (itemStart .kept rest).map fun rest => (some rest, [])
  | rest, true => .ok (some rest, [])
  | rest, false => failNext .expectedListEnd rest

/-- The end of an array that has all of its parts. -/
def listEnd (cs : List Char) : Scan :=
  match blanks cs with
  | [] => failHere .endInList []
  | ']' :: rest => .ok rest
  | ',' :: rest =>
    match blanks rest with
    | ']' :: rest => failNext .trailingComma (']' :: rest)
    | rest => failNext .trailingCharacters rest
  | rest => failNext .trailingCharacters rest

/-- Passes over the items of a request, which are its parts in order. -/
def items (isFirst : Bool) : List Part → List Char → Scan
  | [], cs => listEnd cs
  | part :: more, cs => do
    match ← itemOrEnd isFirst cs with
    | (some item, _) => items false more (← part.scan item)
    | (none, rest) =>
      if isFirst then failHere (.tooShort 0 "struct Request with 3 elements") rest
      else return rest

/-! ### Requests -/

/-- Passes over a request. -/
def scan (cs : List Char) : Scan :=
  match blanks cs with
  | [] => failHere .endInValue []
  | '\x7b' :: rest => members [] true (rest.length + 1) rest
  | '[' :: rest => items true [.execute, .arguments, .id] rest
  | rest => .error (wrongType "struct Request" rest)

/-- The first fault of a text that should be a request, if it has any. -/
def fault (text : String) : Option Fault :=
  match scan text.toList with
  | .error fault => some fault
  | .ok rest =>
    match blanks rest with
    | [] => none
    | rest => some (.next .trailingCharacters rest)

/-- The wording of the first fault of a text. -/
def diagnosis (text : String) : String := ((fault text).map (·.describe text)).getD ""

end Request

end RpcSchema
