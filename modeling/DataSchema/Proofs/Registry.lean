import DataSchema.Proofs.Dict
import DataSchema.Registry

/-!
# Laws of the registry

**States.** Compiling changes the states of definitions and nothing else about them.
`Registry.unmarked` forgets the states; what a name stands for, and the raw schema and the id behind
a path, do not depend on them.

**Ids.** In a registry that is built by `add` the map of ids holds exactly the ids of the entries
(`Consistent`), so no two entries have the same id.
-/

namespace DataSchema.Registry

/-! ## The registry apart from its states -/

def Entry.unmarked (e : Entry) : Entry := { e with state := .pending }

/-- The registry with every definition pending. -/
def unmarked (r : Registry) : Registry :=
  { r with entries := r.entries.map fun e => (e.1, e.2.unmarked) }

theorem get?_entries_unmarked (r : Registry) (path : String) :
    r.unmarked.entries.get? path = (r.entries.get? path).map Entry.unmarked :=
  Dict.get?_map r.entries Entry.unmarked path

@[simp] theorem unmarked_mark (r : Registry) (path : String) (state : DefinitionState) :
    (r.mark path state).unmarked = r.unmarked := by
  simp only [unmarked, mark, Dict.modify, List.map_map]
  congr 1
  refine List.map_congr_left fun e _ => ?_
  simp only [Function.comp_apply]
  split <;> rfl

theorem resolve_unmarked (r : Registry) (name : String) :
    r.unmarked.resolve name = r.resolve name := by
  simp only [resolve, Dict.contains, get?_entries_unmarked, Option.isSome_map]
  rfl

theorem raw?_unmarked (r : Registry) (path : String) : r.unmarked.raw? path = r.raw? path := by
  simp only [raw?, get?_entries_unmarked, Option.map_map]
  rfl

theorem id?_unmarked (r : Registry) (path : String) : r.unmarked.id? path = r.id? path := by
  simp only [id?, get?_entries_unmarked]
  cases r.entries.get? path <;> rfl

/-! ## Registering -/

/-- What it takes to register a definition, and what every look-up gives afterwards. -/
theorem add_eq_ok {r r' : Registry} {path : String} {raw : Dict Json} {id : Option String}
    (h : r.add path raw id = .ok r') :
    r.entries.get? path = none ∧
      (∀ i ∈ id, r.ids.get? i = none ∧ (i ≠ path → r.entries.get? i = none)) ∧
      (∀ p, r'.entries.get? p =
        if path = p then some { raw, id, state := .pending } else r.entries.get? p) ∧
      ∀ i, r'.ids.get? i = if id = some i then some path else r.ids.get? i := by
  unfold add at h
  split at h
  · cases h
  · next hpath =>
    have hfree : r.entries.get? path = none := by simpa [Dict.contains] using hpath
    cases id with
    | none =>
      obtain rfl := Except.ok.inj h
      exact ⟨hfree, by simp, fun p => Dict.get?_insert _ _ _ p, by simp⟩
    | some i =>
      simp only at h
      split at h
      · cases h
      · next hid =>
        obtain rfl := Except.ok.inj h
        simp only [Bool.or_eq_true, Bool.and_eq_true, decide_eq_true_eq, not_or, not_and,
          Dict.contains, Option.not_isSome_iff_eq_none] at hid
        refine ⟨hfree, fun j hj => ?_, fun p => Dict.get?_insert _ _ _ p, fun j => ?_⟩
        · obtain rfl : i = j := by simpa using hj
          exact hid
        · rw [Dict.get?_insert]
          simp

/-- Where nothing is in the way something can be registered. -/
theorem exists_add {r : Registry} {path : String} {id : Option String}
    (hpath : r.entries.get? path = none)
    (hid : ∀ i ∈ id, r.ids.get? i = none ∧ (i ≠ path → r.entries.get? i = none))
    (raw : Dict Json) : ∃ s, r.add path raw id = .ok s := by
  unfold add Dict.contains
  rw [hpath, if_neg (by simp)]
  cases id with
  | none => exact ⟨_, rfl⟩
  | some i =>
    obtain ⟨hi, hentry⟩ := hid i rfl
    refine ⟨_, if_neg ?_⟩
    simpa [hi] using hentry

/-- A name stands for nothing if it is neither a path nor an id. -/
theorem resolve_eq_none {r : Registry} {name : String} :
    r.resolve name = none ↔ r.entries.get? name = none ∧ r.ids.get? name = none := by
  unfold resolve Dict.contains
  cases r.entries.get? name <;> simp

/-- What stands for nothing after something is registered did not before, and is neither its path
nor its id. -/
theorem resolve_eq_none_of_add {r r' : Registry} {path name : String} {raw : Dict Json}
    {id : Option String} (h : r.add path raw id = .ok r') (hname : r'.resolve name = none) :
    r.resolve name = none ∧ path ≠ name ∧ id ≠ some name := by
  obtain ⟨-, -, hentries, hids⟩ := add_eq_ok h
  obtain ⟨hentry, hid⟩ := resolve_eq_none.1 hname
  rw [hentries] at hentry
  rw [hids] at hid
  split at hentry
  · cases hentry
  · next hpath =>
    split at hid
    · cases hid
    · next hne => exact ⟨resolve_eq_none.2 ⟨hentry, hid⟩, hpath, hne⟩

/-- The map of ids holds exactly the ids of the entries. -/
def Consistent (r : Registry) : Prop := ∀ i path, r.ids.get? i = some path ↔ r.id? path = some i

theorem consistent_empty : empty.Consistent := by
  intro i path
  simp [empty, id?]

theorem Consistent.add {r r' : Registry} (hr : r.Consistent) {path : String} {raw : Dict Json}
    {id : Option String} (h : r.add path raw id = .ok r') : r'.Consistent := by
  obtain ⟨hpath, hid, hentries, hids⟩ := add_eq_ok h
  intro i p
  have hp : r'.id? p = if path = p then id else r.id? p := by
    rw [id?, hentries]
    split <;> rfl
  rw [hids, hp]
  by_cases hi : id = some i
  · have hfree : r.id? p ≠ some i := by
      intro hsome
      have hnone := (hid i hi).1
      rw [(hr i p).2 hsome] at hnone
      cases hnone
    by_cases heq : path = p
    · simp [heq, hi]
    · simp [heq, hi, hfree]
  · by_cases heq : path = p
    · subst heq
      have hnone : r.id? path = none := by rw [id?, hpath]; rfl
      simp [hi, hr i path, hnone]
    · simp [heq, hi, hr i p]

/-- A name stands for the entry whose path it is, and else for the one whose id it is. -/
theorem Consistent.resolve_eq_some {r : Registry} (hr : r.Consistent) {name path : String}
    (h : r.resolve name = some path) :
    r.entries.contains path = true ∧
      (name = path ∨ r.raw? name = none ∧ r.id? path = some name) := by
  unfold resolve at h
  split at h
  · next hname =>
    obtain rfl := Option.some.inj h
    exact ⟨hname, .inl rfl⟩
  · next hname =>
    have hid : r.id? path = some name := (hr _ _).1 h
    obtain ⟨e, he, -⟩ := Option.bind_eq_some_iff.1 hid
    refine ⟨by simp [Dict.contains, he], .inr ⟨?_, hid⟩⟩
    simpa [raw?, Dict.contains] using hname

theorem consistent_unmarked {r : Registry} : r.unmarked.Consistent ↔ r.Consistent := by
  simp only [Consistent, id?_unmarked]
  rfl

end DataSchema.Registry
