import DataSchema.Json.Writing

/-!
# YAML values

A YAML value may hold what a JSON value cannot: numbers that are not finite, tags, and keys that are
no texts. `Yaml.same` is the equality by which the keys of a mapping have to differ.
-/

namespace DataSchema

/-- A YAML number. -/
inductive YamlNumber where
  | int (n : WideInt)
  | float (x : Binary64)
  | infinite (negative : Bool)
  | nan
deriving DecidableEq

namespace YamlNumber

/-- Floats in YAML: plain from a hundred-thousandth up to sixteen digits before the point, always
with a fraction there, and a tie goes to the even digit. -/
def floatLayout : Binary64.Layout :=
  { plain := fun place => -5 ≤ place && place ≤ 15, wholeFraction := true, plusSign := false
    tie := .toEven }

def text : YamlNumber → String
  | .int n => toString n.val
  | .float x => x.text floatLayout
  | .infinite false => ".inf"
  | .infinite true => "-.inf"
  | .nan => ".nan"

/-- The number as a JSON number, if it is finite. -/
def toJson? : YamlNumber → Option JsonNumber
  | .int n => some (.int n)
  | .float x => some (.float x)
  | .infinite _ | .nan => none

/-- Equality by value, by which there is one that is not a number. -/
def same : YamlNumber → YamlNumber → Bool
  | .int m, .int n => m == n
  | .float x, .float y => x.sameValue y
  | .infinite a, .infinite b => a == b
  | .nan, .nan => true
  | _, _ => false

end YamlNumber

/-- A YAML value. Mappings list their entries in the order of the text. -/
inductive Yaml where
  | null
  | bool (b : Bool)
  | num (n : YamlNumber)
  | str (s : String)
  | seq (items : List Yaml)
  | map (entries : List (Yaml × Yaml))
  | tagged (tag : String) (value : Yaml)
deriving Inhabited

namespace Yaml

/-- A tag without the mark at its head; a mark alone stays. -/
def bareTag (tag : String) : List Char :=
  match tag.toList with
  | '!' :: c :: rest => c :: rest
  | cs => cs

mutual

def same : Yaml → Yaml → Bool
  | .null, .null => true
  | .bool a, .bool b => a == b
  | .num m, .num n => m.same n
  | .str s, .str t => s == t
  | .seq xs, .seq ys => sameItems xs ys
  | .map xs, .map ys => xs.length == ys.length && includedIn xs ys
  | .tagged t x, .tagged t' y => bareTag t == bareTag t' && x.same y
  | _, _ => false

def sameItems : List Yaml → List Yaml → Bool
  | [], [] => true
  | x :: xs, y :: ys => x.same y && sameItems xs ys
  | _, _ => false

/-- Whether each entry is the same as one of a mapping. -/
def includedIn : List (Yaml × Yaml) → List (Yaml × Yaml) → Bool
  | [], _ => true
  | (k, v) :: rest, ys => ys.any (fun y => k.same y.1 && v.same y.2) && includedIn rest ys

end

end Yaml

end DataSchema
