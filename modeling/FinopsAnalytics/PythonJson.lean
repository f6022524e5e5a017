import FinopsAnalytics.ComparisonContexts
import FinopsAnalytics.DistinctKeys

/-!
# Values of JSON in Python

Python compares numbers and truth values by their value, and dictionaries without the
order of their keys. Both are a matter of a canonical form, in which every number is a
float and every dictionary is sorted by key.
-/

namespace FinopsAnalytics.PythonJson

open ComparisonContexts DistinctKeys

section Identity

mutual

/-- Whether two values are the same in kind and content. -/
def identical : Json → Json → Bool
  | .null, .null => true
  | .bool first, .bool second => first = second
  | .int first, .int second => first = second
  | .float first, .float second => first = second
  | .string first, .string second => first = second
  | .array first, .array second => identicalItems first second
  | .object first, .object second => identicalEntries first second
  | _, _ => false

def identicalItems : List Json → List Json → Bool
  | [], [] => true
  | first :: firsts, second :: seconds => identical first second && identicalItems firsts seconds
  | _, _ => false

def identicalEntries : List (String × Json) → List (String × Json) → Bool
  | [], [] => true
  | (firstKey, first) :: firsts, (secondKey, second) :: seconds =>
    decide (firstKey = secondKey) && identical first second && identicalEntries firsts seconds
  | _, _ => false

end

mutual

theorem identical_iff : (first second : Json) → (identical first second = true ↔ first = second)
  | .null, second => by cases second <;> simp [identical]
  | .bool _, second => by cases second <;> simp [identical]
  | .int _, second => by cases second <;> simp [identical]
  | .float _, second => by cases second <;> simp [identical]
  | .string _, second => by cases second <;> simp [identical]
  | .array items, second => by
    cases second <;> simp [identical, identicalItems_iff items]
  | .object entries, second => by
    cases second <;> simp [identical, identicalEntries_iff entries]

theorem identicalItems_iff :
    (firsts seconds : List Json) → (identicalItems firsts seconds = true ↔ firsts = seconds)
  | [], seconds => by cases seconds <;> simp [identicalItems]
  | first :: firsts, seconds => by
    cases seconds <;> simp [identicalItems, identical_iff first, identicalItems_iff firsts]

theorem identicalEntries_iff : (firsts seconds : List (String × Json)) →
    (identicalEntries firsts seconds = true ↔ firsts = seconds)
  | [], seconds => by cases seconds <;> simp [identicalEntries]
  | (key, first) :: firsts, seconds => by
    rcases seconds with _ | ⟨⟨otherKey, second⟩, seconds⟩
    · simp [identicalEntries]
    · simp [identicalEntries, identical_iff first, identicalEntries_iff firsts]

end

instance : DecidableEq Json := fun first second =>
  decidable_of_iff (identical first second = true) (identical_iff first second)

end Identity

section Equality

mutual

def canonical : Json → Json
  | .null => .null
  | .bool value => .float (some (if value then 1 else 0))
  | .int value => .float (some value)
  | .float value => .float value
  | .string value => .string value
  | .array items => .array (canonicalItems items)
  | .object entries => .object (sortByKey Prod.fst (canonicalEntries entries))

def canonicalItems : List Json → List Json
  | [] => []
  | item :: rest => canonical item :: canonicalItems rest

def canonicalEntries : List (String × Json) → List (String × Json)
  | [] => []
  | (key, value) :: rest => (key, canonical value) :: canonicalEntries rest

end

/-- `first == second` -/
def equal (first second : Json) : Bool := decide (canonical first = canonical second)

@[simp] theorem equal_refl (value : Json) : equal value value = true := decide_eq_true rfl

theorem equal_comm (first second : Json) : equal first second = equal second first :=
  decide_eq_decide.mpr eq_comm

end Equality

/-- The exceptions of the operations on values. -/
inductive PythonError where
  | typeError | valueError | attributeError | overflowError
deriving DecidableEq, Repr

section Access

/-- `bool(value)` -/
def truthy : Json → Bool
  | .null => false
  | .bool value => value
  | .int value => value ≠ 0
  | .float value => value ≠ some 0
  | .string value => value ≠ ""
  | .array items => !items.isEmpty
  | .object entries => !entries.isEmpty

/-- `first or second` -/
def orElse (first second : Json) : Json := if truthy first then first else second

/-- `entries.get(key, default)` -/
def getOr (key : String) (default : Json) (entries : List (String × Json)) : Json :=
  (entries.lookup key).getD default

/-- `entries.get(key)` -/
def get (key : String) (entries : List (String × Json)) : Json := getOr key .null entries

/-- The entries of a dictionary; any other value has none. -/
def entriesOf : Json → List (String × Json)
  | .object entries => entries
  | _ => []

/-- The items of a list; any other value has none. -/
def itemsOf : Json → List Json
  | .array items => items
  | _ => []

def isObject : Json → Bool
  | .object _ => true
  | _ => false

/-- Iterating over a value: the items of a list, the characters of a text and the keys of a
dictionary. Other values are not iterable. -/
def iterate : Json → Except PythonError (List Json)
  | .array items => .ok items
  | .string text => .ok (text.toList.map fun c => .string (String.singleton c))
  | .object entries => .ok (entries.map fun entry => .string entry.1)
  | _ => .error .typeError

end Access

end FinopsAnalytics.PythonJson
