import DataSchema.Proofs.Dict
import DataSchema.Yaml.Conversion

/-!
# Where a conversion fails

**Places.** `Yaml.places` lists the nodes of a value and the keys of its mappings in the order of the
text, tags aside, each with the steps that lead to it. A key comes before its value and after the
entries before it; the steps to it are those to its mapping. A place has a fault if it is a number
that is not finite or a key that is no text (`Place.Faulty`).

**Following.** A conversion `Follows` some places if it fails at the first of them that has a fault,
with the path from the root to it, and otherwise ends at the path where it began. Conversions one
after the other follow their places one after the other (`Follows.bind`), and a step down puts the
step in front of the paths (`Follows.stepping`), so that the path is right again after every part.

**Theorem (`convert_at_places`).** A value is converted if no place of it has a fault, to the same
tree without tags (`SameTree`); otherwise the error is that of the first place with a fault.
-/

namespace DataSchema.Yaml

variable {α β : Type}

/-! ## Places -/

/-- A node of a value, or a key of one of its mappings. -/
inductive Place where
  | node (value : Yaml)
  | key (value : Yaml)

namespace Place

/-- A place that has no JSON form: a number that is not finite, or a key that is no text. -/
inductive Faulty : Place → Prop
  | nan : Faulty (.node (.num .nan))
  | infinite (negative : Bool) : Faulty (.node (.num (.infinite negative)))
  | key {y : Yaml} (h : ∀ text, y ≠ .str text) : Faulty (.key y)

/-- What is wrong with a place, if there is something. -/
def fault? : Place → Option String
  | .node (.num n) =>
    if n.toJson?.isSome then none else some ("number (" ++ n.text ++ ") is not finite")
  | .node _ => none
  | .key (.str _) => none
  | .key y => some ("map key must be a string, but got (" ++ y.keyText ++ ")")

theorem faulty_iff {place : Place} : place.Faulty ↔ ∃ reason, place.fault? = some reason := by
  constructor
  · intro h
    cases h with
    | nan => exact ⟨_, rfl⟩
    | infinite negative => exact ⟨_, rfl⟩
    | @key y h =>
      cases y with
      | str text => exact absurd rfl (h text)
      | _ => exact ⟨_, rfl⟩
  · rintro ⟨reason, h⟩
    cases place with
    | node y =>
      cases y with
      | num n =>
        cases n with
        | nan => exact .nan
        | infinite negative => exact .infinite negative
        | _ => cases h
      | _ => cases h
    | key y =>
      refine .key ?_
      rintro text rfl
      cases h

theorem fault?_eq_none_iff {place : Place} : place.fault? = none ↔ ¬ place.Faulty := by
  rw [faulty_iff, ← Option.isSome_iff_exists, Option.not_isSome_iff_eq_none]

end Place

/-- Places below a step. -/
def placesBelow (step : String) (places : List (List String × Place)) :
    List (List String × Place) :=
  places.map fun p => (step :: p.1, p.2)

mutual

/-- The nodes and keys of a value in the order of the text, tags aside, each with the steps that
lead to it. -/
def places : Yaml → List (List String × Place)
  | .null => [([], .node .null)]
  | .bool b => [([], .node (.bool b))]
  | .num n => [([], .node (.num n))]
  | .str text => [([], .node (.str text))]
  | .seq items => ([], .node (.seq items)) :: placesOfItems 0 items
  | .map entries => ([], .node (.map entries)) :: placesOfEntries entries
  | .tagged _ value => value.places

/-- The places of items from an index on. -/
def placesOfItems : Nat → List Yaml → List (List String × Place)
  | _, [] => []
  | i, item :: rest => placesBelow (toString i) item.places ++ placesOfItems (i + 1) rest

/-- The places of entries: each key, at the mapping, and then its value. -/
def placesOfEntries : List (Yaml × Yaml) → List (List String × Place)
  | [] => []
  | (key, value) :: rest =>
    ([], .key key) :: (placesBelow key.keyText value.places ++ placesOfEntries rest)

end

/-- The first fault, with the steps that lead to it. -/
def firstFault? (places : List (List String × Place)) : Option (List String × String) :=
  places.findSome? fun p => p.2.fault?.map (p.1, ·)

theorem firstFault?_cons (steps : List String) (place : Place)
    (rest : List (List String × Place)) :
    firstFault? ((steps, place) :: rest) =
      (place.fault?.map (steps, ·)).or (firstFault? rest) := by
  rw [firstFault?, List.findSome?_cons]
  cases place.fault? <;> rfl

theorem firstFault?_append (before after : List (List String × Place)) :
    firstFault? (before ++ after) = (firstFault? before).or (firstFault? after) :=
  List.findSome?_append

theorem firstFault?_placesBelow (step : String) (places : List (List String × Place)) :
    firstFault? (placesBelow step places) =
      (firstFault? places).map fun f => (step :: f.1, f.2) := by
  induction places with
  | nil => rfl
  | cons p rest ih =>
    obtain ⟨steps, place⟩ := p
    rw [placesBelow, List.map_cons, ← placesBelow, firstFault?_cons, firstFault?_cons, ih]
    cases place.fault? <;> rfl

theorem firstFault?_eq_none {places : List (List String × Place)} :
    firstFault? places = none ↔ ∀ p ∈ places, ¬ p.2.Faulty := by
  simp only [firstFault?, List.findSome?_eq_none_iff, Option.map_eq_none_iff,
    Place.fault?_eq_none_iff]

/-- The first fault is that of a place before which no place has one. -/
theorem firstFault?_eq_some {places : List (List String × Place)} {steps : List String}
    {reason : String} (h : firstFault? places = some (steps, reason)) :
    ∃ before place after, places = before ++ (steps, place) :: after ∧
      (∀ p ∈ before, ¬ p.2.Faulty) ∧ place.fault? = some reason := by
  obtain ⟨before, ⟨steps', place⟩, after, hplaces, hplace, hbefore⟩ :=
    List.findSome?_eq_some_iff.1 h
  obtain ⟨reason', hfault, heq⟩ := Option.map_eq_some_iff.1 hplace
  obtain ⟨rfl, rfl⟩ := Prod.mk.inj heq
  refine ⟨before, place, after, hplaces, fun p hp => ?_, hfault⟩
  exact Place.fault?_eq_none_iff.1 (Option.map_eq_none_iff.1 (hbefore p hp))

/-! ## Following -/

/-- A conversion fails at the first place that has a fault, and otherwise gives a result with a
property and comes back to the path where it began. -/
structure Follows (places : List (List String × Place)) (Q : α → Prop)
    (conversion : Converting α) : Prop where
  ok : ∀ path, firstFault? places = none → ∃ a, conversion path = .ok (a, path) ∧ Q a
  error : ∀ path {steps reason}, firstFault? places = some (steps, reason) →
    conversion path = .error { path := ".".intercalate (path.reverse ++ steps), reason }

variable {before after : List (List String × Place)} {Q Q' : α → Prop} {R : β → Prop}
  {conversion : Converting α}

theorem converting_bind_apply (conversion : Converting α) (next : α → Converting β)
    (path : List String) :
    (conversion >>= next) path = conversion path >>= fun p => next p.1 p.2 := rfl

theorem follows_pure {a : α} (h : Q a) : Follows [] Q (pure a : Converting α) :=
  ⟨fun _ _ => ⟨a, rfl, h⟩, fun _ _ _ hfault => nomatch hfault⟩

theorem Follows.mono (h : Follows before Q conversion) (hQ : ∀ a, Q a → Q' a) :
    Follows before Q' conversion :=
  ⟨fun path hnone => (h.ok path hnone).imp fun a ha => ⟨ha.1, hQ a ha.2⟩, h.error⟩

theorem Follows.bind {next : α → Converting β} (h : Follows before Q conversion)
    (hnext : ∀ a, Q a → Follows after R (next a)) :
    Follows (before ++ after) R (conversion >>= next) := by
  constructor
  · intro path hnone
    rw [firstFault?_append, Option.or_eq_none_iff] at hnone
    obtain ⟨a, ha, hQ⟩ := h.ok path hnone.1
    rw [converting_bind_apply, ha]
    exact (hnext a hQ).ok path hnone.2
  · intro path steps reason hsome
    rw [firstFault?_append] at hsome
    rw [converting_bind_apply]
    cases hfault : firstFault? before with
    | none =>
      rw [hfault] at hsome
      obtain ⟨a, ha, hQ⟩ := h.ok path hfault
      rw [ha]
      exact (hnext a hQ).error path hsome
    | some fault =>
      rw [hfault] at hsome
      obtain rfl := Option.some.inj hsome
      rw [h.error path hfault]
      rfl

/-- What is done with the result has no places of its own. -/
theorem Follows.bind_pure {f : α → β} (h : Follows before Q conversion)
    (hf : ∀ a, Q a → R (f a)) : Follows before R (conversion >>= fun a => pure (f a)) := by
  have hbind : Follows (before ++ []) R (conversion >>= fun a => pure (f a)) :=
    h.bind fun a ha => follows_pure (hf a ha)
  rwa [List.append_nil] at hbind

/-- **The path is right again after a step down.** -/
theorem Follows.stepping (h : Follows before Q conversion) (step : String) :
    Follows (placesBelow step before) Q (stepping step conversion) := by
  have hstep : ∀ path, Yaml.stepping step conversion path =
      (conversion (step :: path) >>= fun p => .ok (p.1, p.2.tail)) := fun _ => rfl
  constructor
  · intro path hnone
    rw [firstFault?_placesBelow, Option.map_eq_none_iff] at hnone
    obtain ⟨a, ha, hQ⟩ := h.ok (step :: path) hnone
    refine ⟨a, ?_, hQ⟩
    rw [hstep, ha]
    rfl
  · intro path steps reason hsome
    rw [firstFault?_placesBelow, Option.map_eq_some_iff] at hsome
    obtain ⟨⟨steps', reason'⟩, hfault, heq⟩ := hsome
    obtain ⟨rfl, rfl⟩ := Prod.mk.inj heq
    rw [hstep, h.error (step :: path) hfault, List.reverse_cons, List.append_assoc]
    rfl

theorem Follows.cons {place : Place} (h : Follows after Q conversion)
    (hplace : place.fault? = none) : Follows (([], place) :: after) Q conversion := by
  have hfirst : firstFault? (([], place) :: after) = firstFault? after := by
    rw [firstFault?_cons, hplace]
    rfl
  exact ⟨fun path hnone => h.ok path (hfirst ▸ hnone),
    fun path _ _ hsome => h.error path (hfirst ▸ hsome)⟩

theorem follows_failHere {place : Place} {reason : String} (hplace : place.fault? = some reason) :
    Follows (([], place) :: after) Q (failHere reason : Converting α) := by
  have hfirst : firstFault? (([], place) :: after) = some ([], reason) := by
    rw [firstFault?_cons, hplace]
    rfl
  constructor
  · intro path hnone
    cases hfirst.symm.trans hnone
  · intro path steps reason' hsome
    obtain ⟨rfl, rfl⟩ := Prod.mk.inj (Option.some.inj (hfirst.symm.trans hsome))
    rw [List.append_nil]
    rfl

/-! ## The same tree -/

mutual

/-- A JSON value is the same tree as a YAML value, tags aside. -/
inductive SameTree : Yaml → Json → Prop
  | null : SameTree .null .null
  | bool (b : Bool) : SameTree (.bool b) (.bool b)
  | int (n : WideInt) : SameTree (.num (.int n)) (.num (.int n))
  | float (x : Binary64) : SameTree (.num (.float x)) (.num (.float x))
  | str (text : String) : SameTree (.str text) (.str text)
  | seq {items : List Yaml} {values : List Json} (same : SameItems items values) :
      SameTree (.seq items) (.arr values)
  | map {entries : List (Yaml × Yaml)} {fields : List (String × Json)}
      (same : SameEntries entries fields) : SameTree (.map entries) (.obj (Dict.ofList fields))
  | tagged {value : Yaml} {j : Json} (tag : String) (same : SameTree value j) :
      SameTree (.tagged tag value) j

/-- Item by item. -/
inductive SameItems : List Yaml → List Json → Prop
  | nil : SameItems [] []
  | cons {item : Yaml} {value : Json} {items : List Yaml} {values : List Json}
      (head : SameTree item value) (tail : SameItems items values) :
      SameItems (item :: items) (value :: values)

/-- Entry by entry, with the texts that are the keys. -/
inductive SameEntries : List (Yaml × Yaml) → List (String × Json) → Prop
  | nil : SameEntries [] []
  | cons {key : String} {value : Yaml} {j : Json} {entries : List (Yaml × Yaml)}
      {fields : List (String × Json)} (head : SameTree value j)
      (tail : SameEntries entries fields) :
      SameEntries ((.str key, value) :: entries) ((key, j) :: fields)

end

/-! ## Conversion -/

mutual

/-- **A conversion follows the places of the value**, and gives the same tree. -/
theorem follows_convert : ∀ y : Yaml, Follows y.places (SameTree y) y.convert
  | .null => (follows_pure .null).cons rfl
  | .bool b => (follows_pure (.bool b)).cons rfl
  | .num (.int n) => (follows_pure (.int n)).cons rfl
  | .num (.float x) => (follows_pure (.float x)).cons rfl
  | .num (.infinite _) => follows_failHere rfl
  | .num .nan => follows_failHere rfl
  | .str text => (follows_pure (.str text)).cons rfl
  | .seq items => by
    rw [places, convert]
    exact ((follows_convertItems 0 items).bind_pure fun _ => .seq).cons rfl
  | .map entries => by
    rw [places, convert]
    refine ((follows_convertEntries entries []).bind_pure ?_).cons rfl
    rintro _ ⟨fields, hfields, rfl⟩
    exact .map hfields
  | .tagged tag value => by
    rw [places, convert]
    exact (follows_convert value).mono fun _ => .tagged tag

theorem follows_convertItems : ∀ (i : Nat) (items : List Yaml),
    Follows (placesOfItems i items) (SameItems items) (convertItems i items)
  | _, [] => by
    rw [placesOfItems, convertItems]
    exact follows_pure .nil
  | i, item :: rest => by
    rw [placesOfItems, convertItems]
    refine ((follows_convert item).stepping (toString i)).bind fun j hj => ?_
    exact (follows_convertItems (i + 1) rest).bind_pure fun _ => .cons hj

theorem follows_convertEntries : ∀ (entries : List (Yaml × Yaml)) (converted : Dict Json),
    Follows (placesOfEntries entries)
      (fun result => ∃ fields, SameEntries entries fields ∧
        result = fields.foldl (fun d e => d.insert e.1 e.2) converted)
      (convertEntries entries converted)
  | [], converted => by
    rw [placesOfEntries, convertEntries]
    exact follows_pure ⟨[], .nil, rfl⟩
  | (key, value) :: rest, converted => by
    rw [placesOfEntries]
    cases key with
    | str key =>
      rw [convertEntries]
      refine Follows.cons ?_ rfl
      refine ((follows_convert value).stepping key).bind fun j hj => ?_
      refine (follows_convertEntries rest (converted.insert key j)).mono ?_
      rintro _ ⟨fields, hfields, rfl⟩
      exact ⟨(key, j) :: fields, .cons hj hfields, rfl⟩
    | _ => exact follows_failHere rfl

end

/-- A conversion fails with the first fault, and in no other way. -/
theorem convert_eq_error_iff (y : Yaml) (path : List String) (e : ConversionError) :
    y.convert path = .error e ↔ ∃ steps reason, firstFault? y.places = some (steps, reason) ∧
      e = { path := ".".intercalate (path.reverse ++ steps), reason } := by
  constructor
  · intro h
    cases hfault : firstFault? y.places with
    | none =>
      obtain ⟨j, hj, -⟩ := (follows_convert y).ok path hfault
      cases h.symm.trans hj
    | some fault =>
      exact ⟨_, _, rfl, Except.error.inj (h.symm.trans ((follows_convert y).error path hfault))⟩
  · rintro ⟨steps, reason, hfault, rfl⟩
    exact (follows_convert y).error path hfault

/-- A conversion that does not fail has met no fault. -/
theorem firstFault?_of_convert_ok {y : Yaml} {path path' : List String} {j : Json}
    (h : y.convert path = .ok (j, path')) : firstFault? y.places = none := by
  cases hfault : firstFault? y.places with
  | none => rfl
  | some fault => cases h.symm.trans ((follows_convert y).error path hfault)

/-- A conversion that does not fail gives the same tree and leaves the path as it was. -/
theorem sameTree_of_convert {y : Yaml} {path path' : List String} {j : Json}
    (h : y.convert path = .ok (j, path')) : path' = path ∧ SameTree y j := by
  obtain ⟨j', hj', hsame⟩ := (follows_convert y).ok path (firstFault?_of_convert_ok h)
  obtain ⟨rfl, rfl⟩ := Prod.mk.inj (Except.ok.inj (hj'.symm.trans h))
  exact ⟨rfl, hsame⟩

/-- **Faithful conversion, and errors that name the culprit.** A conversion fails if and only if a
number is not finite or a key of a mapping is no text. The error then names the first such number or
key in the order of the text, by the steps that lead to the number or to the mapping of the key. A
value that is converted is the same tree without tags, and the path is what it was. -/
theorem convert_at_places (y : Yaml) (path : List String) :
    ((∃ e, y.convert path = .error e) ↔ ∃ p ∈ y.places, p.2.Faulty) ∧
    (∀ e, y.convert path = .error e → ∃ before steps place after,
      y.places = before ++ (steps, place) :: after ∧ (∀ p ∈ before, ¬ p.2.Faulty) ∧
        place.Faulty ∧ e.path = ".".intercalate (path.reverse ++ steps) ∧
          place.fault? = some e.reason) ∧
    ∀ j path', y.convert path = .ok (j, path') → path' = path ∧ SameTree y j := by
  refine ⟨⟨?_, ?_⟩, fun e he => ?_, fun j path' => sameTree_of_convert⟩
  · rintro ⟨e, he⟩
    obtain ⟨steps, reason, hfault, -⟩ := (convert_eq_error_iff y path e).1 he
    obtain ⟨before, place, after, hplaces, -, hplace⟩ := firstFault?_eq_some hfault
    refine ⟨(steps, place), ?_, Place.faulty_iff.2 ⟨reason, hplace⟩⟩
    rw [hplaces]
    exact List.mem_append_right before List.mem_cons_self
  · rintro ⟨p, hp, hfaulty⟩
    cases hfault : firstFault? y.places with
    | none => exact absurd hfaulty (firstFault?_eq_none.1 hfault p hp)
    | some fault => exact ⟨_, (follows_convert y).error path hfault⟩
  · obtain ⟨steps, reason, hfault, rfl⟩ := (convert_eq_error_iff y path e).1 he
    obtain ⟨before, place, after, hplaces, hbefore, hplace⟩ := firstFault?_eq_some hfault
    exact ⟨before, steps, place, after, hplaces, hbefore,
      Place.faulty_iff.2 ⟨reason, hplace⟩, rfl, hplace⟩

/-- A tagged list, a list with a number that is not finite, and after it a key that is no text. -/
def unusable : Yaml :=
  .map [(.str "tags", .tagged "set" (.seq [.str "a"])),
    (.str "items", .seq [.null, .tagged "ratio" (.num .nan)]), (.null, .str "b")]

theorem convert_at_places_unusable :
    (∃ e, unusable.convert [] = .error e) ∧
      (∃ before steps place after, unusable.places = before ++ (steps, place) :: after ∧
        (∀ p ∈ before, ¬ p.2.Faulty) ∧ place.Faulty ∧ "items.1" = ".".intercalate steps ∧
          place.fault? = some "number (.nan) is not finite") ∧
      (Yaml.tagged "set" (.seq [.str "a"])).convert ["tags"] = .ok (.arr [.str "a"], ["tags"]) ∧
      SameTree (.tagged "set" (.seq [.str "a"])) (.arr [.str "a"]) := by
  obtain ⟨-, hfails, -⟩ := convert_at_places unusable []
  obtain ⟨-, -, hsame⟩ := convert_at_places (.tagged "set" (.seq [.str "a"])) ["tags"]
  exact ⟨⟨_, rfl⟩, hfails { path := "items.1", reason := "number (.nan) is not finite" } rfl, rfl,
    (hsame _ _ rfl).2⟩

end DataSchema.Yaml
