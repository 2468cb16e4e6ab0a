import DataSchema.Proofs.Json
import DataSchema.Proofs.Yaml.Places
import DataSchema.Source

/-!
# What is read from a source

**Theorem (`Source.sortedKeys_of_parse`).** In a value that is read, every object lists its fields in
increasing order of the keys, in whatever order and however often the keys stand in the text.

Fields are only ever added to an object by insertion. In JSON text this is an induction on the fuel
of the readers; a YAML value and its JSON value are the same tree.
-/

namespace DataSchema

/-! ## JSON text -/

namespace Json

/-- What a reader gives, if it gives anything, has sorted keys. -/
def GivesSorted (result : Option (Json × List Char)) : Prop :=
  ∀ j rest, result = some (j, rest) → j.SortedKeys

theorem givesSorted_none : GivesSorted none := fun _ _ h => nomatch h

theorem givesSorted_some {j : Json} (h : j.SortedKeys) (rest : List Char) :
    GivesSorted (some (j, rest)) := by
  rintro _ _ ⟨⟩
  exact h

theorem givesSorted_map {α : Type} {f : α → Json × List Char} (h : ∀ a, (f a).1.SortedKeys)
    (result : Option α) : GivesSorted (result.map f) := by
  cases result with
  | none => exact givesSorted_none
  | some a => exact givesSorted_some (h a) _

/-- With so much fuel the three readers give values with sorted keys, from items and fields that
have them. -/
structure ReadersSorted (fuel : Nat) : Prop where
  value (depth : Nat) (text : List Char) : GivesSorted (readValue? fuel depth text)
  items (depth : Nat) {gathered : List Json} (h : ∀ j ∈ gathered, j.SortedKeys)
    (text : List Char) : GivesSorted (readItems? fuel depth gathered text)
  fields (depth : Nat) {gathered : Dict Json} (h : (obj gathered).SortedKeys) (text : List Char) :
    GivesSorted (readFields? fuel depth gathered text)

theorem ReadersSorted.value_succ {fuel : Nat} (ih : ReadersSorted fuel) (depth : Nat)
    (text : List Char) : GivesSorted (readValue? (fuel + 1) depth text) := by
  unfold readValue?
  split
  · exact givesSorted_map (fun _ => .null) _
  · exact givesSorted_map (fun _ => .bool true) _
  · exact givesSorted_map (fun _ => .bool false) _
  · exact givesSorted_map (fun read => .str read.1) _
  · cases depth with
    | zero => exact givesSorted_none
    | succ depth =>
      dsimp only
      split
      · exact givesSorted_some (.arr (List.forall_mem_nil _)) _
      · exact ih.items depth (List.forall_mem_nil _) _
  · cases depth with
    | zero => exact givesSorted_none
    | succ depth =>
      dsimp only
      split
      · exact givesSorted_some (.obj Dict.sorted_nil nofun) _
      · exact ih.fields depth (.obj Dict.sorted_nil nofun) _
  · exact givesSorted_map (fun read => .num read.1) _

theorem ReadersSorted.items_succ {fuel : Nat} (ih : ReadersSorted fuel) (depth : Nat)
    {gathered : List Json} (h : ∀ j ∈ gathered, j.SortedKeys) (text : List Char) :
    GivesSorted (readItems? (fuel + 1) depth gathered text) := by
  unfold readItems?
  split
  · exact givesSorted_none
  · next item rest hitem =>
    have hgathered : ∀ j ∈ item :: gathered, j.SortedKeys :=
      List.forall_mem_cons.2 ⟨ih.value depth _ item rest hitem, h⟩
    split
    · exact ih.items depth hgathered _
    · exact givesSorted_some (.arr fun j hj => hgathered j (List.mem_reverse.1 hj)) _
    · exact givesSorted_none

theorem ReadersSorted.fields_succ {fuel : Nat} (ih : ReadersSorted fuel) (depth : Nat)
    {gathered : Dict Json} (h : (obj gathered).SortedKeys) (text : List Char) :
    GivesSorted (readFields? (fuel + 1) depth gathered text) := by
  unfold readFields?
  split
  · split
    · exact givesSorted_none
    · next key _ _ =>
      split
      · split
        · exact givesSorted_none
        · next value rest hvalue =>
          have hgathered := h.insert key (ih.value depth _ value rest hvalue)
          split
          · exact ih.fields depth hgathered _
          · exact givesSorted_some hgathered _
          · exact givesSorted_none
      · exact givesSorted_none
  · exact givesSorted_none

theorem readersSorted (fuel : Nat) : ReadersSorted fuel := by
  induction fuel with
  | zero =>
    refine ⟨fun _ _ => ?_, fun _ _ _ _ => ?_, fun _ _ _ _ => ?_⟩
    · exact givesSorted_none
    · exact givesSorted_none
    · exact givesSorted_none
  | succ fuel ih => exact ⟨ih.value_succ, ih.items_succ, ih.fields_succ⟩

theorem sortedKeys_of_read? {depth : Nat} {text : String} {j : Json}
    (h : read? depth text = some j) : j.SortedKeys := by
  unfold read? at h
  dsimp only at h
  split at h
  · next value rest hvalue =>
    obtain ⟨-, hsome⟩ := Option.ite_none_right_eq_some.1 h
    obtain rfl := Option.some.inj hsome
    exact (readersSorted _).value depth _ value rest hvalue
  · cases h

end Json

/-! ## YAML -/

namespace Yaml

mutual

/-- The JSON value of a YAML value has sorted keys, whatever the order of its mappings. -/
theorem SameTree.sortedKeys : ∀ {y : Yaml} {j : Json}, SameTree y j → j.SortedKeys
  | _, _, .null => .null
  | _, _, .bool b => .bool b
  | _, _, .int n => .num (.int n)
  | _, _, .float x => .num (.float x)
  | _, _, .str text => .str text
  | _, _, .seq same => .arr same.sortedKeys
  | _, _, .map same => Json.sortedKeys_ofList same.sortedKeys
  | _, _, .tagged _ same => same.sortedKeys

theorem SameItems.sortedKeys : ∀ {items : List Yaml} {values : List Json},
    SameItems items values → ∀ j ∈ values, j.SortedKeys
  | _, _, .nil => nofun
  | _, _, .cons head tail => List.forall_mem_cons.2 ⟨head.sortedKeys, tail.sortedKeys⟩

theorem SameEntries.sortedKeys : ∀ {entries : List (Yaml × Yaml)} {fields : List (String × Json)},
    SameEntries entries fields → ∀ e ∈ fields, e.2.SortedKeys
  | _, _, .nil => nofun
  | _, _, .cons head tail => List.forall_mem_cons.2 ⟨head.sortedKeys, tail.sortedKeys⟩

end

theorem sortedKeys_of_toJson {y : Yaml} {j : Json} (h : y.toJson = .ok j) : j.SortedKeys := by
  have hrun : y.toJson = (y.convert []).map Prod.fst := rfl
  cases hconvert : y.convert [] with
  | error e =>
    rw [hrun, hconvert] at h
    cases h
  | ok result =>
    rw [hrun, hconvert] at h
    obtain rfl := Except.ok.inj h
    exact (sameTree_of_convert hconvert).2.sortedKeys

end Yaml

/-! ## Both formats -/

namespace Source

/-- **What is read has sorted keys.** -/
theorem sortedKeys_of_parse {format : SourceFormat} {text : String} {j : Json}
    (h : parse format text = .ok j) : j.SortedKeys := by
  unfold parse at h
  split at h
  · split at h
    · next read hread =>
      obtain rfl := Except.ok.inj h
      exact Json.sortedKeys_of_read? hread
    · cases h
  · split at h
    · next y _ =>
      cases hjson : y.toJson with
      | error e =>
        rw [hjson] at h
        cases h
      | ok read =>
        rw [hjson] at h
        obtain rfl := Except.ok.inj h
        exact Yaml.sortedKeys_of_toJson hjson
    · cases h

end Source

end DataSchema
