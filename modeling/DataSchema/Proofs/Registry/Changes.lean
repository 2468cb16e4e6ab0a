import DataSchema.Proofs.Registry

/-!
# Registries that come about

A registry starts empty and changes one call at a time (`Change`); a call that is refused leaves it
as it is. `run` gives the registry after any calls, and what each call keeps, all of them keep
(`consistent_run`).

**Theorem (`resolve_run`).** In every registry that comes about a path names its own definition. An
id names the definition that was registered with it from then on, and as long as no other definition
has the id as its path.

The last condition cannot be left out. An id is refused if it is a path already, but a path is not
refused if it is an id already: it takes the id over (`resolve_takenOver`), and which of two
definitions are accepted depends on their order.
-/

namespace DataSchema.Registry

/-! ## Changes -/

/-- A call that changes a registry. -/
inductive Change where
  | add (path : String) (raw : Dict Json) (id : Option String)
  | setState (path : String) (state : DefinitionState)
  | finish (path : String)
  | clear

/-- What a call gives, or why it is refused. -/
def Change.result (r : Registry) : Change → Except RegistryError Registry
  | .add path raw id => r.add path raw id
  | .setState path state => r.setState path state
  | .finish path => r.finish path
  | .clear => .ok empty

/-- The registry after a call; one that is refused leaves it as it is. -/
def apply (r : Registry) (change : Change) : Registry :=
  match change.result r with
  | .ok r' => r'
  | .error _ => r

/-- The registry after some calls. -/
def run (changes : List Change) : Registry := changes.foldl apply empty

/-- What an empty registry has, and what registering and setting a state keep, a call keeps. -/
theorem apply_keeps {P : Registry → Prop} (hempty : P empty)
    (hadd : ∀ {r r' path raw id}, P r → r.add path raw id = .ok r' → P r')
    (hset : ∀ {r r' path state}, P r → r.setState path state = .ok r' → P r') {r : Registry}
    (hr : P r) (change : Change) : P (r.apply change) := by
  unfold apply
  split
  · next r' h =>
    cases change with
    | add path raw id => exact hadd hr h
    | setState path state => exact hset hr h
    | finish path => exact hset hr h
    | clear =>
      obtain rfl := Except.ok.inj h
      exact hempty
  · exact hr

/-- What an empty registry has and each call keeps, every registry has that comes about. -/
theorem run_keeps {P : Registry → Prop} (hempty : P empty)
    (happly : ∀ {r}, P r → ∀ change, P (r.apply change)) (changes : List Change) :
    P (run changes) := by
  have hall : ∀ r : Registry, P r → P (changes.foldl apply r) := by
    induction changes with
    | nil => exact fun _ hr => hr
    | cons change rest ih => exact fun r hr => ih _ (happly hr change)
  exact hall empty hempty

theorem unmarked_setState {r r' : Registry} {path : String} {state : DefinitionState}
    (h : r.setState path state = .ok r') : r'.unmarked = r.unmarked := by
  unfold setState at h
  split at h
  · obtain rfl := Except.ok.inj h
    exact unmarked_mark r path state
  · cases h

theorem Consistent.setState {r r' : Registry} (hr : r.Consistent) {path : String}
    {state : DefinitionState} (h : r.setState path state = .ok r') : r'.Consistent := by
  rw [← consistent_unmarked, unmarked_setState h]
  exact consistent_unmarked.2 hr

/-- A call keeps the ids in order. -/
theorem Consistent.apply {r : Registry} (hr : r.Consistent) (change : Change) :
    (r.apply change).Consistent :=
  apply_keeps consistent_empty (fun hr h => hr.add h) (fun hr h => hr.setState h) hr change

theorem consistent_run (changes : List Change) : (run changes).Consistent :=
  run_keeps consistent_empty (fun hr change => hr.apply change) changes

/-! ## What names stand for -/

/-- A path that is registered names its own definition. -/
theorem resolve_path {r : Registry} {path : String} (h : r.entries.contains path = true) :
    r.resolve path = some path := by
  unfold resolve
  rw [if_pos h]

/-- An id names the definition that has it, unless it is the path of another one. -/
theorem Consistent.resolve_id_iff {r : Registry} (hr : r.Consistent) {path i : String}
    (h : r.id? path = some i) :
    r.resolve i = some path ↔ (r.entries.contains i = true → i = path) := by
  have hid : r.ids.get? i = some path := (hr i path).2 h
  unfold resolve
  split
  · next hi => simp [hi]
  · next hi => simp [hi, hid]

/-- An id is not a path when it is registered, so it names its definition. -/
theorem resolve_of_add {r r' : Registry} {path i : String} {raw : Dict Json}
    (h : r.add path raw (some i) = .ok r') : r'.resolve i = some path := by
  obtain ⟨-, hid, hentries, hids⟩ := add_eq_ok h
  obtain ⟨-, hfree⟩ := hid i rfl
  unfold resolve Dict.contains
  rw [hentries, hids, if_pos rfl]
  by_cases hi : path = i
  · rw [if_pos hi, hi]
    rfl
  · rw [if_neg hi, hfree (Ne.symm hi)]
    rfl

/-- **What paths and ids name.** A path names its own definition. An id names the definition that
was registered with it when it is registered, and as long as it is not the path of another one. -/
theorem resolve_run (changes : List Change) :
    (∀ path, (run changes).entries.contains path = true →
      (run changes).resolve path = some path) ∧
    (∀ path i, (run changes).id? path = some i → ((run changes).resolve i = some path ↔
      ((run changes).entries.contains i = true → i = path))) ∧
    ∀ path raw i r, (run changes).add path raw (some i) = .ok r → r.resolve i = some path :=
  ⟨fun _ hpath => resolve_path hpath,
    fun _ _ hid => (consistent_run changes).resolve_id_iff hid,
    fun _ _ _ _ hadd => resolve_of_add hadd⟩

/-- A page with an id, and a title whose path is taken a second time in vain. -/
def pageChanges : List Change :=
  [.add "#/definitions/page" [("type", .str "object")] (some "page"),
    .add "#/definitions/title" [("type", .str "string")] (some "#/definitions/title"),
    .add "#/definitions/title" [] none, .finish "#/definitions/page"]

theorem resolve_run_page :
    (run pageChanges).entries.contains "#/definitions/title" = true ∧
      (run pageChanges).resolve "#/definitions/title" = some "#/definitions/title" ∧
      (run pageChanges).id? "#/definitions/page" = some "page" ∧
      (run pageChanges).resolve "page" = some "#/definitions/page" ∧
      ((run pageChanges).add "#/definitions/text" [] (some "text")).toOption.map
        (·.resolve "text") = some (some "#/definitions/text") := by
  obtain ⟨hpaths, hids, hnew⟩ := resolve_run pageChanges
  refine ⟨rfl, hpaths _ rfl, rfl, (hids _ _ rfl).2 nofun, ?_⟩
  exact congrArg some (hnew _ _ _ _ rfl)

/-- The second definition has the id of the first one as its path. -/
def takenOver : List Change :=
  [.add "#/definitions/a" [("type", .str "string")] (some "#/definitions/b"),
    .add "#/definitions/b" [("type", .str "integer")] none]

/-- The id is still that of the first definition, but it names the second one. In the other order
the id is refused. -/
theorem resolve_takenOver :
    (run takenOver).id? "#/definitions/a" = some "#/definitions/b" ∧
      (run takenOver).resolve "#/definitions/b" ≠ some "#/definitions/a" ∧
      (run takenOver.reverse).paths = ["#/definitions/b"] := by
  decide

end DataSchema.Registry
