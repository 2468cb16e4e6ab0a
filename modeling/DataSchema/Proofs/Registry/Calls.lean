import DataSchema.Proofs.Registry.Changes

/-!
# Calls that change a registry in place

`Registry.add` and `Registry.setState` give another registry or an error. Where one registry is kept
it is changed in place: its two maps one after the other, and a call may be refused on the way. A
`Call` is such a change; what it has changed stays changed when it is refused.

**In place and at once (`called_eq`).** A change in place comes to what `Change.result` gives. It is
refused before anything has changed, so what is refused leaves the registry as it was.

**Theorem (`maps_agree_after`).** After any calls the map of ids holds the id and the path of each
definition that has an id, and nothing else. A call that is refused changes nothing, and registering
adds one definition, which is pending.

The invariant of a run is `Consistent`, which speaks of look-ups, together with `Sorted`, by which
look-ups find the entries of the maps and nothing else.
-/

namespace DataSchema.Registry

/-! ## Calls -/

/-- A change in place that may be refused. -/
abbrev Call := ExceptT RegistryError (StateM Registry)

namespace Call

/-- What a call on a registry returns, and the registry after it. -/
def on {α : Type} (call : Call α) (r : Registry) : Except RegistryError α × Registry :=
  call.run.run r

/-- Registers a definition, under its id first. -/
def add (path : String) (raw : Dict Json) (id : Option String) : Call Unit := do
  if (← get).entries.contains path then throw (.duplicatePath path)
  if let some i := id then
    let r ← get
    if r.ids.contains i || (i ≠ path && r.entries.contains i) then throw (.duplicateId i)
    set { r with ids := r.ids.insert i path }
  modify fun r => { r with entries := r.entries.insert path { raw, id, state := .pending } }

/-- Sets the state of a definition. -/
def setState (path : String) (state : DefinitionState) : Call Unit := do
  if (← get).entries.contains path then modify (·.mark path state) else throw (.notFound path)

/-- Empties one map after the other. -/
def clear : Call Unit := do
  modify fun r => { r with entries := [] }
  modify fun r => { r with ids := [] }

variable {α β : Type} (r : Registry)

@[simp] theorem on_get_bind (f : Registry → Call α) : (get >>= f : Call α).on r = (f r).on r := rfl

@[simp] theorem on_set_bind (r' : Registry) (f : PUnit → Call α) :
    (set r' >>= f : Call α).on r = (f ⟨⟩).on r' := rfl

@[simp] theorem on_throw (e : RegistryError) : (throw e : Call α).on r = (.error e, r) := rfl

@[simp] theorem on_throw_bind (e : RegistryError) (f : β → Call α) :
    (throw e >>= f : Call α).on r = (.error e, r) := rfl

@[simp] theorem on_modify (f : Registry → Registry) : (modify f : Call PUnit).on r = (.ok ⟨⟩, f r) :=
  rfl

end Call

/-- The call that makes a change. -/
def Change.call : Change → Call Unit
  | .add path raw id => .add path raw id
  | .setState path state => .setState path state
  | .finish path => .setState path .finished
  | .clear => .clear

/-- What a change returns when it is made in place, and the registry after it. -/
def called (r : Registry) (change : Change) : Except RegistryError Unit × Registry :=
  change.call.on r

/-- The registry after some changes in place. -/
def after (changes : List Change) : Registry :=
  changes.foldl (fun r change => (r.called change).2) empty

/-! ## In place and at once -/

/-- A change that is made at once: the registry is another one, or there is an error and it stays. -/
def atOnce (r : Registry) (result : Except RegistryError Registry) :
    Except RegistryError Unit × Registry :=
  match result with
  | .ok r' => (.ok (), r')
  | .error e => (.error e, r)

theorem on_add (r : Registry) (path : String) (raw : Dict Json) (id : Option String) :
    (Call.add path raw id).on r = r.atOnce (r.add path raw id) := by
  unfold Registry.add
  by_cases hpath : r.entries.contains path = true
  · simp [Call.add, atOnce, hpath]
  · cases id with
    | none => simp [Call.add, atOnce, hpath]
    | some i =>
      by_cases hid : (r.ids.contains i || (i ≠ path && r.entries.contains i)) = true
      · simp only [Call.add, atOnce, Call.on_get_bind, if_neg hpath, if_pos hid,
          Call.on_throw_bind]
      · simp only [Call.add, atOnce, Call.on_get_bind, if_neg hpath, if_neg hid,
          Call.on_set_bind, Call.on_modify]

theorem on_setState (r : Registry) (path : String) (state : DefinitionState) :
    (Call.setState path state).on r = r.atOnce (r.setState path state) := by
  unfold Registry.setState
  by_cases hpath : r.entries.contains path = true
  · simp [Call.setState, atOnce, hpath]
  · simp [Call.setState, atOnce, hpath]

/-- **A change in place is made at once**: it is refused before anything has changed. -/
theorem called_eq (r : Registry) (change : Change) :
    r.called change = r.atOnce (change.result r) := by
  cases change with
  | add path raw id => exact on_add r path raw id
  | setState path state => exact on_setState r path state
  | finish path => exact on_setState r path .finished
  | clear => rfl

theorem called_snd (r : Registry) (change : Change) : (r.called change).2 = r.apply change := by
  rw [called_eq]
  unfold atOnce apply
  cases change.result r <;> rfl

theorem after_eq_run (changes : List Change) : after changes = run changes := by
  simp only [after, run, called_snd]

/-- A change that is refused leaves the registry as it was. -/
theorem eq_of_called_error {r r' : Registry} {change : Change} {e : RegistryError}
    (h : r.called change = (.error e, r')) : r' = r := by
  rw [called_eq] at h
  unfold atOnce at h
  split at h
  · cases h
  · exact (congrArg Prod.snd h).symm

theorem result_of_called_ok {r r' : Registry} {change : Change}
    (h : r.called change = (.ok (), r')) : change.result r = .ok r' := by
  rw [called_eq] at h
  unfold atOnce at h
  split at h
  · next r'' hresult =>
    obtain rfl : r'' = r' := congrArg Prod.snd h
    exact hresult
  · cases h

/-! ## The entries of the maps -/

/-- The maps after a definition is registered. -/
theorem maps_of_add {r r' : Registry} {path : String} {raw : Dict Json} {id : Option String}
    (h : r.add path raw id = .ok r') :
    r'.entries = r.entries.insert path { raw, id, state := .pending } ∧
      r'.ids = id.elim r.ids (r.ids.insert · path) := by
  unfold add at h
  split at h
  · cases h
  · cases id with
    | none =>
      obtain rfl := Except.ok.inj h
      exact ⟨rfl, rfl⟩
    | some i =>
      simp only at h
      split at h
      · cases h
      · obtain rfl := Except.ok.inj h
        exact ⟨rfl, rfl⟩

/-- Both maps list their keys in increasing order. -/
structure Sorted (r : Registry) : Prop where
  entries : r.entries.Sorted
  ids : r.ids.Sorted

theorem sorted_empty : empty.Sorted := ⟨Dict.sorted_nil, Dict.sorted_nil⟩

theorem Sorted.add {r r' : Registry} (hr : r.Sorted) {path : String} {raw : Dict Json}
    {id : Option String} (h : r.add path raw id = .ok r') : r'.Sorted := by
  obtain ⟨hentries, hids⟩ := maps_of_add h
  refine ⟨hentries ▸ hr.entries.insert _ _, ?_⟩
  rw [hids]
  cases id with
  | none => exact hr.ids
  | some i => exact hr.ids.insert _ _

theorem Sorted.setState {r r' : Registry} (hr : r.Sorted) {path : String}
    {state : DefinitionState} (h : r.setState path state = .ok r') : r'.Sorted := by
  unfold Registry.setState at h
  split at h
  · obtain rfl := Except.ok.inj h
    refine ⟨?_, hr.ids⟩
    rw [mark, Dict.Sorted, Dict.keys_modify]
    exact hr.entries
  · cases h

/-- A change keeps the maps sorted. -/
theorem Sorted.apply {r : Registry} (hr : r.Sorted) (change : Change) :
    (r.apply change).Sorted :=
  apply_keeps sorted_empty (fun hr h => hr.add h) (fun hr h => hr.setState h) hr change

theorem sorted_run (changes : List Change) : (run changes).Sorted :=
  run_keeps sorted_empty (fun hr change => hr.apply change) changes

/-- The entries of the map of ids are the definitions with an id. -/
theorem Consistent.mem_ids_iff {r : Registry} (hr : r.Consistent) (hsorted : r.Sorted)
    {i path : String} :
    (i, path) ∈ r.ids ↔ ∃ e, (path, e) ∈ r.entries ∧ e.id = some i := by
  rw [← Dict.get?_eq_some_iff hsorted.ids.nodup, hr i path, id?, Option.bind_eq_some_iff]
  simp only [Dict.get?_eq_some_iff hsorted.entries.nodup]

/-- Registering adds one entry, which is pending. -/
theorem perm_of_add {r r' : Registry} {path : String} {raw : Dict Json} {id : Option String}
    (h : r.add path raw id = .ok r') :
    path ∉ r.paths ∧
      r'.entries.Perm ((path, { raw, id, state := .pending }) :: r.entries) := by
  obtain ⟨hfree, -, -, -⟩ := add_eq_ok h
  refine ⟨fun hmem => ?_, (maps_of_add h).1 ▸ Dict.perm_insert hfree _⟩
  obtain ⟨e, he, rfl⟩ := List.mem_map.1 hmem
  have hcontains : r.entries.contains e.1 = true := Dict.contains_iff.2 ⟨e.2, he⟩
  rw [Dict.contains, hfree] at hcontains
  cases hcontains

/-- **The two maps agree, and failures change nothing.** After any calls the map of ids holds the
ids and paths of the definitions that have an id, and nothing else. So no two definitions have the
same id, and what a name stands for is registered. What is refused leaves the registry as it was;
registering adds one definition, which is pending. -/
theorem maps_agree_after (changes : List Change) :
    (∀ i path, (i, path) ∈ (after changes).ids ↔
      ∃ e, (path, e) ∈ (after changes).entries ∧ e.id = some i) ∧
    (∀ i path path', (after changes).id? path = some i → (after changes).id? path' = some i →
      path = path') ∧
    (∀ name path, (after changes).resolve name = some path → path ∈ (after changes).paths) ∧
    (∀ change e r, (after changes).called change = (.error e, r) → r = after changes) ∧
    ∀ path raw id r, (after changes).called (.add path raw id) = (.ok (), r) →
      path ∉ (after changes).paths ∧
        r.entries.Perm ((path, { raw, id, state := .pending }) :: (after changes).entries) := by
  have hconsistent : (after changes).Consistent := after_eq_run changes ▸ consistent_run changes
  have hsorted : (after changes).Sorted := after_eq_run changes ▸ sorted_run changes
  refine ⟨fun i path => hconsistent.mem_ids_iff hsorted, fun i path path' h h' => ?_,
    fun name path h => ?_, fun change e r h => eq_of_called_error h,
    fun path raw id r h => perm_of_add (result_of_called_ok h)⟩
  · have hget := (hconsistent i path).2 h
    rw [(hconsistent i path').2 h'] at hget
    exact (Option.some.inj hget).symm
  · obtain ⟨e, he⟩ := Dict.contains_iff.1 (hconsistent.resolve_eq_some h).1
    exact List.mem_map.2 ⟨_, he, rfl⟩

theorem maps_agree_after_page :
    ("page", "#/definitions/page") ∈ (after pageChanges).ids ∧
      (∃ e, ("#/definitions/page", e) ∈ (after pageChanges).entries ∧ e.id = some "page") ∧
      "#/definitions/page" ∈ (after pageChanges).paths ∧
      (after pageChanges).called (.add "#/definitions/text" [] (some "page")) =
        (.error (.duplicateId "page"), after pageChanges) ∧
      ((after pageChanges).called (.add "#/definitions/text" [] (some "text"))).2.entries.Perm
        (("#/definitions/text", { raw := [], id := some "text", state := .pending }) ::
          (after pageChanges).entries) := by
  obtain ⟨hids, -, hresolve, hrefused, hadded⟩ := maps_agree_after pageChanges
  have hmem : ("page", "#/definitions/page") ∈ (after pageChanges).ids := List.mem_cons_of_mem _
    List.mem_cons_self
  refine ⟨hmem, (hids _ _).1 hmem, hresolve "page" _ rfl, ?_, (hadded _ _ _ _ rfl).2⟩
  have hsame := hrefused (.add "#/definitions/text" [] (some "page")) (.duplicateId "page") _ rfl
  exact Prod.ext rfl hsame

end DataSchema.Registry
