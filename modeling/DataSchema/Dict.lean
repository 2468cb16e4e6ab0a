/-!
# Dictionaries with text keys

A dictionary is an association list. `insert` keeps the keys in increasing order, so a
dictionary built by insertion has one form only, and its entries are visited by key.

`get?_insert` says what an insertion does to every look-up.
-/

namespace DataSchema

/-- Pairs of a key and a value, in increasing order of the keys when built by `Dict.insert`. -/
abbrev Dict (α : Type) := List (String × α)

namespace Dict

variable {α : Type}

/-- The value of the first entry with this key. -/
def get? : Dict α → String → Option α
  | [], _ => none
  | (k, v) :: rest, key => if k = key then some v else get? rest key

/-- Whether some entry has this key. -/
def contains (d : Dict α) (key : String) : Bool := (d.get? key).isSome

/-- The keys, in the order of the entries. -/
def keys (d : Dict α) : List String := d.map Prod.fst

/-- Sets the value of a key: an entry with the key is replaced where it stands, a new one goes
before the first greater key. -/
def insert : Dict α → String → α → Dict α
  | [], key, value => [(key, value)]
  | (k, v) :: rest, key, value =>
    if key = k then (key, value) :: rest
    else if key < k then (key, value) :: (k, v) :: rest
    else (k, v) :: insert rest key value

/-- The dictionary of a list of entries; of two entries with one key the later wins. -/
def ofList (entries : List (String × α)) : Dict α :=
  entries.foldl (fun d e => d.insert e.1 e.2) []

/-- Applies a function to the value of a key, if there is one. -/
def modify (d : Dict α) (key : String) (f : α → α) : Dict α :=
  d.map fun e => if e.1 = key then (e.1, f e.2) else e

/-- Keys stand in strictly increasing order. -/
def Sorted (d : Dict α) : Prop := d.keys.Pairwise (· < ·)

@[simp] theorem get?_nil (key : String) : get? ([] : Dict α) key = none := rfl

theorem get?_cons (k : String) (v : α) (rest : Dict α) (key : String) :
    get? ((k, v) :: rest) key = if k = key then some v else get? rest key := rfl

theorem get?_insert (d : Dict α) (key : String) (value : α) (other : String) :
    (d.insert key value).get? other = if key = other then some value else d.get? other := by
  induction d with
  | nil => rfl
  | cons e rest ih =>
    obtain ⟨k, v⟩ := e
    simp only [insert]
    split
    · next h => subst h; simp only [get?_cons]; split <;> rfl
    · split
      · simp only [get?_cons]
      · next h _ =>
        simp only [get?_cons, ih]
        by_cases hk : k = other
        · subst hk; simp [h]
        · simp [hk]

end Dict

end DataSchema
