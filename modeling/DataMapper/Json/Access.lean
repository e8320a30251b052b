import DataMapper.Json

/-!
# Data in documents

Functions that read one kind of data from a document, and fail on any other.

* An integer of a range is an integer number in it, never a fraction.
* A variant of a sum is its name, or an object of one member whose name is that
  of the variant and whose document holds the variant's data.
* A record is an object or a list.  An object may have members that the record
  does not know, but none that it knows twice.  A list holds the fields in order
  and no more than these.
-/

namespace DataMapper.Json

/-! ## Scalars and lists -/

def text? : Json → Option String
  | .string s => some s
  | _ => none

def truth? : Json → Option Bool
  | .bool b => some b
  | _ => none

/-- An integer between two bounds, both included. -/
def integer? (least most : Int) : Json → Option Int
  | .number (.int n) => if least ≤ n ∧ n ≤ most then some n else none
  | _ => none

/-- A signed integer of a number of bits. -/
def signed? (bits : Nat) (doc : Json) : Option Int :=
  doc.integer? (-(twoPow (bits - 1) : Nat)) ((twoPow (bits - 1) : Nat) - 1)

/-- An unsigned integer of a number of bits. -/
def unsigned? (bits : Nat) (doc : Json) : Option Nat :=
  (doc.integer? 0 ((twoPow bits : Nat) - 1)).map Int.toNat

def byte? (doc : Json) : Option UInt8 := (doc.unsigned? 8).map UInt8.ofNat

def bytes? : Json → Option (List UInt8)
  | .array items => items.mapM byte?
  | _ => none

def double? : Json → Option Binary64
  | .number (.int n) => some (.ofInt n)
  | .number (.float x) => some x
  | _ => none

/-- A single, the number being rounded once more when it is no integer. -/
def single? : Json → Option Binary32
  | .number (.int n) => some (.ofInt n)
  | doc => doc.double?.map Binary64.narrow

/-! ## Variants and records -/

/-- The name of a variant, with the document of its data when there is one. -/
def variant? : Json → Option (String × Option Json)
  | .string name => some (name, none)
  | .object [(name, doc)] => some (name, some doc)
  | _ => none

/-- Whether a variant comes without data. -/
def isBare : Option Json → Bool
  | none | some .null => true
  | some _ => false

/-- The document of a field among members, which may be absent but not repeated. -/
def field? (members : List (String × Json)) (name : String) : Option (Option Json) :=
  match members.filter fun m => m.1 == name with
  | [] => some none
  | [m] => some (some m.2)
  | _ => none

/-- The documents of the fields of a record, in the order of the fields. -/
def record? (names : List String) : Json → Option (List (Option Json))
  | .object members => names.mapM (field? members)
  | .array items =>
      if items.length ≤ names.length then
        some ((List.range names.length).map fun position => items[position]?)
      else none
  | _ => none

/-! ## Checks -/

example : (Json.number (.int 128)).signed? 8 = none := by decide
example : (Json.object [("a", .null), ("b", .bool true), ("a", .null)]).record? ["b"]
    = some [some (.bool true)] := by rfl
example : (Json.object [("b", .null), ("b", .bool true)]).record? ["b"] = none := by rfl

end DataMapper.Json
