import DataSchema.Proofs.Yaml.Places

/-!
# Tags of YAML values

`Yaml.untagged` is a value without its tags, on values and on keys. A conversion drops the tags of
values, but a key with a tag is no text to it.

**Theorem (`toJson_untagged_iff`).** A value and the value without its tags have the same JSON form
exactly if no key of a mapping has a tag, or there is no JSON form without the tags either. Without
tags on keys the errors are the same too (`convert_untagged`).

The condition on keys cannot be left out: a text with a tag is refused as a key, though the error
names it as a text (`toJson_taggedKey`).
-/

namespace DataSchema.Yaml

/-! ## Values without tags -/

mutual

/-- A value without tags, on values and on keys. -/
def untagged : Yaml → Yaml
  | .null => .null
  | .bool b => .bool b
  | .num n => .num n
  | .str text => .str text
  | .seq items => .seq (untaggedItems items)
  | .map entries => .map (untaggedEntries entries)
  | .tagged _ value => value.untagged

def untaggedItems : List Yaml → List Yaml
  | [] => []
  | item :: rest => item.untagged :: untaggedItems rest

def untaggedEntries : List (Yaml × Yaml) → List (Yaml × Yaml)
  | [] => []
  | (key, value) :: rest => (key.untagged, value.untagged) :: untaggedEntries rest

end

/-- No key among the places has a tag. -/
def KeysUntagged (places : List (List String × Place)) : Prop :=
  ∀ steps tag key, (steps, .key (.tagged tag key)) ∉ places

variable {before after : List (List String × Place)}

theorem KeysUntagged.left (h : KeysUntagged (before ++ after)) : KeysUntagged before :=
  fun steps tag key hmem => h steps tag key (List.mem_append_left after hmem)

theorem KeysUntagged.right (h : KeysUntagged (before ++ after)) : KeysUntagged after :=
  fun steps tag key hmem => h steps tag key (List.mem_append_right before hmem)

theorem KeysUntagged.tail {p : List String × Place} (h : KeysUntagged (p :: after)) :
    KeysUntagged after :=
  fun steps tag key hmem => h steps tag key (List.mem_cons_of_mem p hmem)

theorem KeysUntagged.above {step : String} (h : KeysUntagged (placesBelow step before)) :
    KeysUntagged before :=
  fun steps tag key hmem => h (step :: steps) tag key (List.mem_map.2 ⟨_, hmem, rfl⟩)

/-! ## Conversion without tags -/

mutual

/-- **Tags of values make no difference.** -/
theorem convert_untagged : ∀ y : Yaml, KeysUntagged y.places → y.untagged.convert = y.convert
  | .null, _ | .bool _, _ | .num _, _ | .str _, _ => rfl
  | .seq items, h => by
    rw [places] at h
    rw [untagged, convert, convert, convertItems_untagged 0 items h.tail]
  | .map entries, h => by
    rw [places] at h
    rw [untagged, convert, convert, convertEntries_untagged entries [] h.tail]
  | .tagged _ value, h => by
    rw [places] at h
    rw [untagged, convert, convert_untagged value h]

theorem convertItems_untagged : ∀ (i : Nat) (items : List Yaml),
    KeysUntagged (placesOfItems i items) →
      convertItems i (untaggedItems items) = convertItems i items
  | _, [], _ => rfl
  | i, item :: rest, h => by
    rw [placesOfItems] at h
    rw [untaggedItems, convertItems, convertItems, convert_untagged item h.left.above,
      convertItems_untagged (i + 1) rest h.right]

theorem convertEntries_untagged : ∀ (entries : List (Yaml × Yaml)) (converted : Dict Json),
    KeysUntagged (placesOfEntries entries) →
      convertEntries (untaggedEntries entries) converted = convertEntries entries converted
  | [], _, _ => rfl
  | (key, value) :: rest, converted, h => by
    rw [placesOfEntries] at h
    rw [untaggedEntries]
    cases key with
    | str key =>
      rw [untagged, convertEntries, convertEntries, convert_untagged value h.tail.left.above]
      congr 1
      funext j
      exact convertEntries_untagged rest (converted.insert key j) h.tail.right
    | tagged tag key => exact absurd List.mem_cons_self (h [] tag key)
    -- The error is about the kind of key, and that is the same without tags inside it.
    | _ => rfl

end

/-- A key with a tag is a fault. -/
theorem ne_ok_of_tagged_key {y : Yaml} {steps : List String} {tag : String} {key : Yaml}
    (h : (steps, .key (.tagged tag key)) ∈ y.places) (j : Json) : y.toJson ≠ .ok j := by
  have hfaulty : Place.Faulty (.key (.tagged tag key)) := .key nofun
  cases hfault : firstFault? y.places with
  | none => exact absurd hfaulty (firstFault?_eq_none.1 hfault _ h)
  | some fault =>
    intro hj
    rw [toJson, StateT.run', (follows_convert y).error [] hfault] at hj
    cases hj

/-- **Where tags are dropped.** A value and the value without its tags have the same JSON form, or
both have none, exactly if no key of a mapping has a tag or there is none without the tags. -/
theorem toJson_untagged_iff (y : Yaml) :
    (∀ j, y.toJson = .ok j ↔ y.untagged.toJson = .ok j) ↔
      (∀ steps tag key, (steps, .key (.tagged tag key)) ∉ y.places) ∨
        ∀ j, y.untagged.toJson ≠ .ok j := by
  constructor
  · intro hsame
    by_cases hkeys : KeysUntagged y.places
    · exact .inl hkeys
    · right
      simp only [KeysUntagged, not_forall, not_not] at hkeys
      obtain ⟨steps, tag, key, hmem⟩ := hkeys
      exact fun j hj => ne_ok_of_tagged_key hmem j ((hsame j).2 hj)
  · intro h j
    by_cases hkeys : KeysUntagged y.places
    · rw [toJson, toJson, convert_untagged y hkeys]
    · have hnone := h.resolve_left hkeys j
      simp only [KeysUntagged, not_forall, not_not] at hkeys
      obtain ⟨steps, tag, key, hmem⟩ := hkeys
      exact iff_of_false (ne_ok_of_tagged_key hmem j) hnone

/-- A mapping whose only key is a text with a tag. -/
def taggedKey : Yaml := .map [(.tagged "k" (.str "s"), .str "x")]

/-- Without the tag the key is a text like any other. -/
theorem toJson_taggedKey :
    taggedKey.untagged.toJson = .ok (.obj [("s", .str "x")]) ∧
      taggedKey.toJson =
        .error { path := "", reason := "map key must be a string, but got (s)" } ∧
      ¬ ∀ j, taggedKey.toJson = .ok j ↔ taggedKey.untagged.toJson = .ok j := by
  refine ⟨rfl, rfl, fun h => ?_⟩
  have hj : taggedKey.toJson = .ok (.obj [("s", .str "x")]) := (h _).2 rfl
  cases hj

end DataSchema.Yaml
