import DataSchema.Dict
import DataSchema.Binary64

/-!
# JSON values

Numbers are integers that fit 64 bits, signed or unsigned, or finite binary64 numbers; the two
kinds are never equal to each other. `Json.same` is equality as values: it compares floats by
value, so both zeros are the same, and otherwise compares structure. Objects list their fields;
`Json.SortedKeys` says that every object lists them in increasing order of the keys.
-/

namespace DataSchema

/-- An integer that a JSON number can hold exactly: from `-2 ^ 63` to below `2 ^ 64`. -/
structure WideInt where
  val : Int
  le_val : -9223372036854775808 ≤ val
  val_lt : val < 18446744073709551616
deriving DecidableEq

/-- The JSON integer equal to `n`, if it fits. -/
def WideInt.ofInt? (n : Int) : Option WideInt :=
  if h : -9223372036854775808 ≤ n ∧ n < 18446744073709551616 then some ⟨n, h.1, h.2⟩ else none

/-- A signed 64-bit integer as a JSON integer. -/
def WideInt.ofInt64 (n : Int64) : WideInt :=
  ⟨n.toInt, n.le_toInt, Int.lt_trans n.toInt_lt (by decide)⟩

/-- The signed 64-bit integer equal to `n`, if there is one: from `-2 ^ 63` to below `2 ^ 63`. -/
def int64OfInt? (n : Int) : Option Int64 :=
  if -9223372036854775808 ≤ n ∧ n < 9223372036854775808 then some (Int64.ofInt n) else none

/-- The signed 64-bit integer equal to a finite number, if there is one. -/
def Binary64.toInt64? (x : Binary64) : Option Int64 := x.toInt?.bind int64OfInt?

/-- A JSON number. -/
inductive JsonNumber where
  | int (n : WideInt)
  | float (x : Binary64)
deriving DecidableEq

namespace JsonNumber

/-- The number as a signed 64-bit integer, for an integer in that range. -/
def toInt64? : JsonNumber → Option Int64
  | .int n => int64OfInt? n.val
  | .float _ => none

/-- The nearest binary64 number. -/
def toBinary64 : JsonNumber → Binary64
  | .int n => (Binary64.ofInt? n.val).getD .zero
  | .float x => x

/-- The number equal to `x`, as an integer when `x` is one in the signed 64-bit range. -/
def ofBinary64 (x : Binary64) : JsonNumber :=
  match x.toInt64? with
  | some n => .int (.ofInt64 n)
  | none => .float x

def same : JsonNumber → JsonNumber → Bool
  | .int m, .int n => m == n
  | .float x, .float y => x.sameValue y
  | _, _ => false

end JsonNumber

/-- A JSON value. -/
inductive Json where
  | null
  | bool (b : Bool)
  | num (n : JsonNumber)
  | str (s : String)
  | arr (items : List Json)
  | obj (fields : List (String × Json))
deriving Inhabited

namespace Json

/-- A signed 64-bit integer as a value. -/
def ofInt64 (n : Int64) : Json := .num (.int (.ofInt64 n))

/-- A count as a value. -/
def ofUInt64 (n : UInt64) : Json :=
  .num (.int ⟨n.toNat, by omega, Int.ofNat_lt.2 n.toNat_lt⟩)

/-- A finite number as a value, as an integer where it is one. -/
def ofBinary64 (x : Binary64) : Json := .num (.ofBinary64 x)

/-! ## Equality of values -/

mutual

def same : Json → Json → Bool
  | .null, .null => true
  | .bool a, .bool b => a == b
  | .num m, .num n => m.same n
  | .str s, .str t => s == t
  | .arr xs, .arr ys => sameItems xs ys
  | .obj xs, .obj ys => sameFields xs ys
  | _, _ => false

def sameItems : List Json → List Json → Bool
  | [], [] => true
  | x :: xs, y :: ys => x.same y && sameItems xs ys
  | _, _ => false

def sameFields : List (String × Json) → List (String × Json) → Bool
  | [], [] => true
  | (k, x) :: xs, (l, y) :: ys => k == l && x.same y && sameFields xs ys
  | _, _ => false

end

/-- Equality of optional values. -/
def sameOption : Option Json → Option Json → Bool
  | none, none => true
  | some x, some y => x.same y
  | _, _ => false

/-! ## Parts of a value -/

def isNull : Json → Bool
  | .null => true
  | _ => false

def isArr : Json → Bool
  | .arr _ => true
  | _ => false

def isObj : Json → Bool
  | .obj _ => true
  | _ => false

def str? : Json → Option String
  | .str s => some s
  | _ => none

def obj? : Json → Option (Dict Json)
  | .obj fields => some fields
  | _ => none

/-- A field of an object. -/
def field? (j : Json) (key : String) : Option Json := j.obj?.bind (·.get? key)

/-- A value that is set: neither missing nor `null`. -/
def present : Option Json → Option Json
  | some .null => none
  | j => j

/-- Whether a value is missing or `null`. -/
def isAbsent (j : Option Json) : Bool := (present j).isNone

/-- The name of the type of a value. -/
def typeName : Json → String
  | .null => "null"
  | .bool _ => "boolean"
  | .num (.int _) => "integer"
  | .num (.float _) => "number"
  | .str _ => "string"
  | .arr _ => "array"
  | .obj _ => "object"

/-- The number of values nested in a value, itself included. -/
def size : Json → Nat
  | .arr items => sizeItems items + 1
  | .obj fields => sizeFields fields + 1
  | _ => 1
where
  sizeItems : List Json → Nat
    | [] => 0
    | x :: xs => x.size + sizeItems xs
  sizeFields : List (String × Json) → Nat
    | [] => 0
    | (_, x) :: xs => x.size + sizeFields xs

/-- How many containers and leaves lie on the longest way into a value. -/
def depth : Json → Nat
  | .arr items => depthItems items + 1
  | .obj fields => depthFields fields + 1
  | _ => 1
where
  depthItems : List Json → Nat
    | [] => 0
    | x :: xs => max x.depth (depthItems xs)
  depthFields : List (String × Json) → Nat
    | [] => 0
    | (_, x) :: xs => max x.depth (depthFields xs)

/-- Every object lists its fields in strictly increasing order of the keys. -/
inductive SortedKeys : Json → Prop
  | null : SortedKeys .null
  | bool (b : Bool) : SortedKeys (.bool b)
  | num (n : JsonNumber) : SortedKeys (.num n)
  | str (s : String) : SortedKeys (.str s)
  | arr {items : List Json} (h : ∀ x ∈ items, SortedKeys x) : SortedKeys (.arr items)
  | obj {fields : List (String × Json)} (sorted : Dict.Sorted fields)
      (h : ∀ e ∈ fields, SortedKeys e.2) : SortedKeys (.obj fields)

end Json

/-- The article before a word: `an` before a lower-case vowel. -/
def indefiniteArticle (word : String) : String :=
  match word.toList with
  | c :: _ => if c ∈ ['a', 'e', 'i', 'o', 'u'] then "an" else "a"
  | [] => "a"

end DataSchema
