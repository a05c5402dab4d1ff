import TapeMeasure.Double
import TapeMeasure.JsonString

/-!
# JSON values

Requests and answers are JSON values.  A number is whole or a double, as its text has no point and
no exponent or has one; the members of an object keep their order, and of two members with one
name the last one counts.

* `Json.member?`: the member of an object with a name; `Json.follow` goes down by several names.
* `Json.isStrict`: the values that strict JSON has a text for.
* `Json.withoutMembers`: a value without the members of some names, at every depth.
-/

namespace TapeMeasure

/-- A JSON value. -/
inductive Json where
  | null
  | bool (value : Bool)
  | integer (value : Int)
  | double (value : Double)
  | string (text : JsonString)
  | array (items : List Json)
  | object (members : List (JsonString × Json))

namespace Json

/-- The last of the members with a name. -/
def lastMember? (name : JsonString) : List (JsonString × Json) → Option Json
  | [] => none
  | (key, value) :: members =>
    match lastMember? name members with
    | some later => some later
    | none => if key = name then some value else none

/-- The member of an object with a name; other values have no members. -/
def member? (name : String) : Json → Option Json
  | object members => lastMember? name members
  | _ => none

/-- The value that is reached by names of members; null where there is none. -/
def follow (value : Json) (names : List String) : Json :=
  names.foldl (fun value name => (value.member? name).getD null) value

/-- A text, or null where there is none. -/
def ofOption : Option String → Json
  | none => null
  | some text => string text

/-- The members that have a value. -/
def presentMembers (members : List (String × Option Json)) : List (JsonString × Json) :=
  members.filterMap fun (name, value) => value.map fun value => (.whole name, value)

mutual

/-- Whether strict JSON has a text for a value: its numbers are finite and its strings whole. -/
def isStrict : Json → Bool
  | double value => value.isFinite
  | string text => text.isWhole
  | array items => areStrict items
  | object members => membersAreStrict members
  | _ => true

/-- Whether strict JSON has a text for all items. -/
def areStrict : List Json → Bool
  | [] => true
  | item :: items => isStrict item && areStrict items

/-- Whether strict JSON has a text for all members that count. -/
def membersAreStrict : List (JsonString × Json) → Bool
  | [] => true
  | (name, value) :: members =>
    ((lastMember? name members).isSome || name.isWhole && isStrict value) &&
      membersAreStrict members

end

mutual

/-- A value without the members whose names are left out, at every depth. -/
def withoutMembers (leftOut : JsonString → Bool) : Json → Json
  | array items => array (itemsWithoutMembers leftOut items)
  | object members => object (membersWithout leftOut members)
  | other => other

/-- Items without the members whose names are left out. -/
def itemsWithoutMembers (leftOut : JsonString → Bool) : List Json → List Json
  | [] => []
  | item :: items => withoutMembers leftOut item :: itemsWithoutMembers leftOut items

/-- Members without those whose names are left out. -/
def membersWithout (leftOut : JsonString → Bool) :
    List (JsonString × Json) → List (JsonString × Json)
  | [] => []
  | (name, value) :: members =>
    if leftOut name then membersWithout leftOut members
    else (name, withoutMembers leftOut value) :: membersWithout leftOut members

end

@[simp] theorem lastMember?_nil (name : JsonString) : lastMember? name [] = none := rfl

/-- A member is found unless a later one has its name. -/
theorem lastMember?_cons_self (name : JsonString) (value : Json)
    (members : List (JsonString × Json)) :
    lastMember? name ((name, value) :: members) =
      some ((lastMember? name members).getD value) := by
  simp only [lastMember?]
  split <;> simp [*]

/-- A member with another name does not count. -/
theorem lastMember?_cons_of_ne {name key : JsonString} (ne : key ≠ name) (value : Json)
    (members : List (JsonString × Json)) :
    lastMember? name ((key, value) :: members) = lastMember? name members := by
  simp only [lastMember?, if_neg ne]
  split <;> simp [*]

end Json

end TapeMeasure
