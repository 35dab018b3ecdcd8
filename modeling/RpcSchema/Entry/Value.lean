import RpcSchema.Json.Basic

/-!
# Schema values

The values of the schema notation: strings in single quotes, maps and lists. Maps keep their
keys in the order of the text, because the order of declaration has meaning: it numbers the
labels of an enum and orders the fields of a struct. The keys of a map are distinct.

## Main definitions

* `Value` — a value of the notation
* `Value.render` — the value in the notation, on one line
* `Value.toJson` — the value as JSON
* `Value.same` — equality that ignores the order of keys
* `Value.item`, `Value.member` — access that fails with an `AccessError`
-/

namespace RpcSchema.Entry

/-- A value of the schema notation. -/
inductive Value
  | string (text : String)
  | map (members : List (String × Value))
  | list (items : List Value)
  deriving Inhabited

namespace Value

/-! ### Parts -/

/-- The text of a string. -/
def text? : Value → Option String
  | .string text => some text
  | _ => none

/-- The members of a map. -/
def members? : Value → Option (List (String × Value))
  | .map members => some members
  | _ => none

/-- The items of a list. -/
def items? : Value → Option (List Value)
  | .list items => some items
  | _ => none

/-- The value of a key, in a map that has it. -/
def get? (key : String) : Value → Option Value
  | .map members => members.lookup key
  | _ => none

/-- The number of members or items; a string has none. -/
def size : Value → Nat
  | .string _ => 0
  | .map members => members.length
  | .list items => items.length

/-- The word for the shape of a value in messages. -/
def kindName : Value → String
  | .string _ => "string"
  | .map _ => "map"
  | .list _ => "list"

/-- Why a part of a value cannot be had. -/
inductive AccessError
  | notIndexable (kind : String)
  | missingKey (key : String)
  | outOfBounds

/-- The wording of a failed access. -/
def AccessError.message : AccessError → String
  | .notIndexable kind => "cannot index a schema " ++ kind
  | .missingKey key => "missing schema key '" ++ key ++ "'"
  | .outOfBounds => "index out of bounds"

/-- An item of a list, counted from zero. -/
def item (index : Nat) : Value → Except AccessError Value
  | .list items =>
    match items[index]? with
    | some value => .ok value
    | none => .error .outOfBounds
  | value => .error (.notIndexable value.kindName)

/-- The value of a key that must be there. -/
def member (key : String) (value : Value) : Except AccessError Value :=
  match value.get? key with
  | some value => .ok value
  | none => .error (.missingKey key)

/-! ### The notation -/

mutual

/-- A value in the notation, on one line. -/
def render : Value → String
  | .string text => "'" ++ text ++ "'"
  | .list items => "[" ++ ", ".intercalate (renderItems items) ++ "]"
  | .map members => "\x7b" ++ ", ".intercalate (renderMembers members) ++ "\x7d"

/-- The items of a list. -/
def renderItems : List Value → List String
  | [] => []
  | item :: rest => render item :: renderItems rest

/-- The members of a map, each as `'key': value`. -/
def renderMembers : List (String × Value) → List String
  | [] => []
  | (key, value) :: rest => ("'" ++ key ++ "': " ++ render value) :: renderMembers rest

end

/-! ### JSON -/

mutual

/-- The value as JSON, with the keys in their order. -/
def toJson : Value → Json
  | .string text => .string text
  | .list items => .array (itemsToJson items)
  | .map members => .object (membersToJson members)

/-- The items of a list. -/
def itemsToJson : List Value → List Json
  | [] => []
  | item :: rest => toJson item :: itemsToJson rest

/-- The members of a map. -/
def membersToJson : List (String × Value) → List (String × Json)
  | [] => []
  | (key, value) :: rest => (key, toJson value) :: membersToJson rest

end

/-! ### Equality -/

mutual

/-- Whether two values are the same, with the keys in the same order. -/
def decEq : (v w : Value) → Decidable (v = w)
  | .string a, .string b => decidable_of_iff (a = b) (by simp)
  | .map as, .map bs =>
    have := decEqMembers as bs
    decidable_of_iff (as = bs) (by simp)
  | .list as, .list bs =>
    have := decEqItems as bs
    decidable_of_iff (as = bs) (by simp)
  | .string _, .map _ | .string _, .list _ | .map _, .string _ | .map _, .list _
  | .list _, .string _ | .list _, .map _ => .isFalse (by simp)

/-- Whether two lists have the same items. -/
def decEqItems : (as bs : List Value) → Decidable (as = bs)
  | [], [] => .isTrue rfl
  | [], _ :: _ | _ :: _, [] => .isFalse (by simp)
  | a :: as, b :: bs =>
    have := decEq a b
    have := decEqItems as bs
    decidable_of_iff (a = b ∧ as = bs) (by simp)

/-- Whether two maps have the same members. -/
def decEqMembers : (as bs : List (String × Value)) → Decidable (as = bs)
  | [], [] => .isTrue rfl
  | [], _ :: _ | _ :: _, [] => .isFalse (by simp)
  | (key, a) :: as, (key', b) :: bs =>
    have := decEq a b
    have := decEqMembers as bs
    decidable_of_iff ((key = key' ∧ a = b) ∧ as = bs) (by simp)

end

instance : DecidableEq Value := decEq

mutual

/-- Whether two values agree up to the order of keys. -/
def same : Value → Value → Bool
  | .string a, .string b => a = b
  | .list as, .list bs => sameItems as bs
  | .map as, .map bs => as.length = bs.length && sameMembers as bs
  | _, _ => false

/-- Whether two lists agree item by item. -/
def sameItems : List Value → List Value → Bool
  | [], [] => true
  | a :: as, b :: bs => same a b && sameItems as bs
  | _, _ => false

/-- Whether each member has a counterpart of the same key. -/
def sameMembers : List (String × Value) → List (String × Value) → Bool
  | [], _ => true
  | (key, a) :: as, bs =>
    (match bs.lookup key with
      | some b => same a b
      | none => false) && sameMembers as bs

end

end Value

end RpcSchema.Entry
