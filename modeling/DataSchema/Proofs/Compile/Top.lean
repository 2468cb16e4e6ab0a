import DataSchema.Proofs.Compile.Built
import DataSchema.Proofs.Traverse

/-!
# Compiling whole schemas

Compiling a whole schema without error takes three runs: the definitions are registered
(`registration`), each is compiled, and then the body is. The registry that the first run leaves is
the one in which every reference is resolved, since the other two only change states of entries.

**Theorem (`Compiler.compiledFrom_of_value?`).** If a raw schema compiles, then every definition was
compiled from the entry at its path, and the body from the raw schema itself. `Registered` says which
entries there are.
-/

namespace DataSchema

namespace Compile

open Step

/-- What stands before any schema is compiled: the own id, and name and path of the definitions. -/
def registration (ctx : Context) (raw : RawSchema) :
    Compiling (Option String × List (String × String)) := do
  let id ← ownId raw
  registerTop id raw
  let names ← registerDefinitions ctx raw
  return (id, names)

/-- The id under which a raw schema is registered. -/
def registeredId (raw : RawSchema) : Option String := (raw.get? "$id").bind Json.str?

theorem result_ownId (raw : RawSchema) : (ownId raw).result = registeredId raw := by
  unfold ownId registeredId
  generalize raw.get? "$id" = id
  cases id with
  | none => rfl
  | some id => cases id <;> rfl

theorem yields_ownId {raw : RawSchema} {id : Option String} (h : (ownId raw).Yields id) :
    id = registeredId raw := by
  rw [← result_ownId, h.2]

/-! ## Registering -/

/-- The registry `r'` is `r` with definitions registered, given by name and path. -/
structure Extends (pathPrefix : String) (r : Registry) (names : List (String × String))
    (r' : Registry) : Prop where
  consistent : r.Consistent → r'.Consistent
  kept : ∀ path e, r.entries.get? path = some e → r'.entries.get? path = some e
  nodup : (names.map Prod.fst).Nodup
  path : ∀ e ∈ names, e.2 = pathPrefix ++ e.1
  fresh : ∀ e ∈ names, r.entries.get? e.2 = none
  found : ∀ e ∈ names, ∃ raw, r'.entries.get? e.2 = some ⟨raw, registeredId raw, .pending⟩
  covered : ∀ path e, r'.entries.get? path = some e →
    r.entries.get? path = some e ∨ ∃ name, (name, path) ∈ names

variable {ctx : Context} {r r' : Registry}

theorem Extends.refl (pathPrefix : String) (r : Registry) : Extends pathPrefix r [] r where
  consistent h := h
  kept _ _ h := h
  nodup := List.nodup_nil
  path := by simp
  fresh := by simp
  found := by simp
  covered _ _ h := .inl h

/-- What cannot be registered leaves the registry as it is. -/
theorem result_register (path : String) (raw : RawSchema) (id : Option String)
    (complaint : RegistryError → Diagnostic) (r : Registry) :
    (register path raw id complaint r).result = match r.add path raw id with
      | .ok registry => (true, registry)
      | .error _ => (false, r) := by
  show ((match r.add path raw id with
    | .ok registry => do
      set registry
      return true
    | .error e => do
      noteError (complaint e)
      return false : Compiling Bool) r).result = _
  cases r.add path raw id <;> rfl

/-- One more definition is registered, ahead of the others. -/
theorem Extends.cons {pathPrefix name : String} {raw : RawSchema} {u : Registry}
    {names : List (String × String)}
    (hadd : r.add (pathPrefix ++ name) raw (registeredId raw) = .ok u)
    (h : Extends pathPrefix u names r') :
    Extends pathPrefix r ((name, pathPrefix ++ name) :: names) r' := by
  obtain ⟨hfree, -, hentries, -⟩ := Registry.add_eq_ok hadd
  have hself : u.entries.get? (pathPrefix ++ name) = some ⟨raw, registeredId raw, .pending⟩ := by
    rw [hentries, if_pos rfl]
  have hkept : ∀ path e, r.entries.get? path = some e → u.entries.get? path = some e := by
    intro path e he
    rw [hentries, if_neg (by rintro rfl; rw [hfree] at he; cases he), he]
  have hfresh : ∀ path, u.entries.get? path = none → r.entries.get? path = none := by
    intro path hnone
    cases hr : r.entries.get? path with
    | none => rfl
    | some e => rw [hkept path e hr] at hnone; cases hnone
  constructor
  case consistent => exact fun hr => h.consistent (hr.add hadd)
  case kept => exact fun path e he => h.kept path e (hkept path e he)
  case nodup =>
    refine List.nodup_cons.2 ⟨fun hmem => ?_, h.nodup⟩
    obtain ⟨e, he, rfl⟩ := List.mem_map.1 hmem
    have hfresh := h.fresh e he
    rw [h.path e he, hself] at hfresh
    cases hfresh
  case path =>
    intro e he
    rcases List.mem_cons.1 he with rfl | he
    · rfl
    · exact h.path e he
  case fresh =>
    intro e he
    rcases List.mem_cons.1 he with rfl | he
    · exact hfree
    · exact hfresh e.2 (h.fresh e he)
  case found =>
    intro e he
    rcases List.mem_cons.1 he with rfl | he
    · exact ⟨raw, h.kept _ _ hself⟩
    · exact h.found e he
  case covered =>
    intro path e he
    rcases h.covered path e he with hu | ⟨other, hmem⟩
    · rw [hentries] at hu
      split at hu
      · next heq => exact .inr ⟨name, heq ▸ List.mem_cons_self⟩
      · exact .inl hu
    · exact .inr ⟨other, List.mem_cons_of_mem _ hmem⟩

theorem extends_registerEach (ctx : Context) (fields : List (String × Json)) (r : Registry) :
    Extends ctx.options.definitionPathPrefix r (registerEach ctx fields r).result.1
      (registerEach ctx fields r).result.2 := by
  induction fields generalizing r with
  | nil => exact .refl _ _
  | cons field rest ih =>
    obtain ⟨name, j⟩ := field
    unfold registerEach
    cases hraw : normalize j with
    | error d => exact ih r
    | ok raw =>
      let registering := register (ctx.definitionPath name) raw (registeredId raw) fun e =>
        (Diagnostic.of "definitions" e.message).withProperty name
      have hresult := result_register (ctx.definitionPath name) raw (registeredId raw)
        (fun e => (Diagnostic.of "definitions" e.message).withProperty name) r
      show Extends _ r
        (if (registering r).result.1 then
          (name, ctx.definitionPath name) :: (registerEach ctx rest (registering r).result.2).result.1
        else (registerEach ctx rest (registering r).result.2).result.1)
        (registerEach ctx rest (registering r).result.2).result.2
      rw [hresult]
      cases hadd : r.add (ctx.definitionPath name) raw (registeredId raw) with
      | error e => exact ih r
      | ok u => exact (ih u).cons hadd

theorem extends_registerDefinitions (ctx : Context) (raw : RawSchema) (r : Registry) :
    Extends ctx.options.definitionPathPrefix r (registerDefinitions ctx raw r).result.1
      (registerDefinitions ctx raw r).result.2 := by
  unfold registerDefinitions
  cases raw.get? "definitions" with
  | none => exact .refl _ _
  | some j => cases j with
    | obj fields => exact extends_registerEach ctx fields r
    | null | bool | num | str | arr => exact .refl _ _

/-- What the registry of a whole schema holds: the schema itself under its own id, and the
definitions under their paths and ids. -/
structure Registered (pathPrefix : String) (raw : RawSchema) (id : Option String)
    (names : List (String × String)) (r : Registry) : Prop where
  consistent : r.Consistent
  own : ∀ i ∈ id, r.raw? i = some raw ∧ r.id? i = some i
  nodup : (names.map Prod.fst).Nodup
  path : ∀ e ∈ names, e.2 = pathPrefix ++ e.1
  other : ∀ e ∈ names, id ≠ some e.2
  found : ∀ e ∈ names, ∃ raw, r.raw? e.2 = some raw ∧ r.id? e.2 = registeredId raw
  covered : ∀ path, r.entries.contains path = true → id = some path ∨ ∃ name, (name, path) ∈ names

theorem entries_registerTop (id : Option String) (raw : RawSchema) :
    (registerTop id raw .empty).result.2.Consistent ∧
      ∀ path e, (registerTop id raw .empty).result.2.entries.get? path = some e ↔
        id = some path ∧ e = ⟨raw, some path, .compiling⟩ := by
  cases id with
  | none =>
    exact ⟨Registry.consistent_empty, fun _ _ => ⟨nofun, fun h => nomatch h.1⟩⟩
  | some i =>
    have hadd : Registry.empty.add i raw (some i) =
        .ok { entries := Dict.insert [] i ⟨raw, some i, .pending⟩, ids := Dict.insert [] i i } := by
      simp [Registry.add, Registry.empty, Dict.contains]
    have hresult := result_register i raw (some i) (fun e => .of "$id" e.message) .empty
    rw [hadd] at hresult
    have hstate : (registerTop (some i) raw .empty).result.2 =
        Registry.mark { entries := Dict.insert [] i ⟨raw, some i, .pending⟩
                        ids := Dict.insert [] i i } i .compiling := by
      show ((if (register i raw (some i) (fun e => .of "$id" e.message) .empty).result.1 then
        modify (·.mark i .compiling) else pure () : Compiling Unit)
          (register i raw (some i) (fun e => .of "$id" e.message) .empty).result.2).result.2 = _
      rw [hresult]
      rfl
    obtain ⟨-, -, hentries, -⟩ := Registry.add_eq_ok hadd
    rw [hstate]
    constructor
    · rw [← Registry.consistent_unmarked, Registry.unmarked_mark, Registry.consistent_unmarked]
      exact Registry.consistent_empty.add hadd
    · intro path e
      rw [Registry.mark, Dict.get?_modify, hentries]
      by_cases hi : i = path
      · simp [hi, eq_comm]
      · simp [hi, Registry.empty]

/-- What registering leaves, whether or not it meets errors. -/
theorem registered_registration (ctx : Context) (raw : RawSchema) :
    Registered ctx.options.definitionPathPrefix raw (registeredId raw)
      (registration ctx raw .empty).result.1.2 (registration ctx raw .empty).result.2 := by
  obtain ⟨hconsistent, hentries⟩ := entries_registerTop (registeredId raw) raw
  have hext := extends_registerDefinitions ctx raw
    (registerTop (registeredId raw) raw .empty).result.2
  rw [← result_ownId] at hconsistent hentries hext
  have hown : ∀ path, registeredId raw = some path →
      (registration ctx raw .empty).result.2.entries.get? path =
        some ⟨raw, some path, .compiling⟩ := fun path hpath =>
    hext.kept path _ ((hentries path _).2 ⟨result_ownId raw ▸ hpath, rfl⟩)
  constructor
  case consistent => exact hext.consistent hconsistent
  case own =>
    intro i hi
    simp [Registry.raw?, Registry.id?, hown i hi]
  case nodup => exact hext.nodup
  case path => exact hext.path
  case other =>
    intro e he hid
    have hfresh := hext.fresh e he
    rw [(hentries e.2 _).2 ⟨result_ownId raw ▸ hid, rfl⟩] at hfresh
    cases hfresh
  case found =>
    intro e he
    obtain ⟨raw', hraw'⟩ := hext.found e he
    have hentry : (registration ctx raw .empty).result.2.entries.get? e.2 =
        some ⟨raw', registeredId raw', .pending⟩ := hraw'
    exact ⟨raw', by simp [Registry.raw?, Registry.id?, hentry]⟩
  case covered =>
    intro path hpath
    obtain ⟨e, he⟩ := Option.isSome_iff_exists.1 hpath
    refine (hext.covered path e he).imp_left fun hu => ?_
    rw [← result_ownId]
    exact ((hentries path e).1 hu).1

theorem registered_of_registration {raw : RawSchema} {id : Option String}
    {names : List (String × String)}
    (h : (registration ctx raw).Yields .empty (id, names) r) :
    Registered ctx.options.definitionPathPrefix raw id names r := by
  have hregistered := registered_registration ctx raw
  have hid : (registration ctx raw .empty).result.1.1 = registeredId raw := result_ownId raw
  rw [← hid, h.2] at hregistered
  exact hregistered

theorem registeredId_of_yields {raw : RawSchema} {id : Option String}
    {names : List (String × String)}
    (h : (registration ctx raw).Yields r (id, names) r') : registeredId raw = id := by
  have hid : (registration ctx raw r).result.1.1 = (ownId raw).result := rfl
  rw [← result_ownId, ← hid, h.2]

/-- What is registered one after the other. -/
theorem yields_registration {raw : RawSchema} {id : Option String}
    {names : List (String × String)} :
    (registration ctx raw).Yields r (id, names) r' ↔
      (ownId raw).Yields id ∧ ∃ u, (registerTop id raw).Yields r () u ∧
        (registerDefinitions ctx raw).Yields u names r' := by
  simp only [registration, yields_bind, yields_lift]
  constructor
  · rintro ⟨id', _, ⟨hid, rfl⟩, _, u, htop, names', _, hnames, hpure⟩
    obtain ⟨heq, rfl⟩ := yields_pure.1 hpure
    obtain ⟨rfl, rfl⟩ := Prod.mk.inj heq
    exact ⟨hid, u, htop, hnames⟩
  · rintro ⟨hid, u, htop, hnames⟩
    exact ⟨id, r, ⟨hid, rfl⟩, (), u, htop, names, r', hnames, yields_pure.2 ⟨rfl, rfl⟩⟩

/-! ## Definitions and body -/

/-- A definition is compiled from what is registered under its path. -/
def DefinitionOf (r : Registry) (e : String × String) (d : String × DefinitionSchema) : Prop :=
  d.1 = e.1 ∧ d.2.id = (r.raw? e.2).bind registeredId ∧
    ∃ raw, r.raw? e.2 = some raw ∧ Compiled r raw d.2.schema

/-- A definition is compiled from what is registered under its path, while it is marked. -/
theorem yields_definition {path : String} {o : Option DefinitionSchema} :
    (definition ctx path).Yields r o r' ↔ ∃ raw id body u, r.raw? path = some raw ∧
      (ownId raw).Yields id ∧ (ctx.nested raw).Ends (r.mark path .compiling) body u ∧
        u.mark path .finished = r' ∧ body.map (fun schema => { id, schema }) = o := by
  unfold definition
  simp only [yields_bind, yields_get]
  constructor
  · rintro ⟨_, _, ⟨rfl, rfl⟩, h⟩
    split at h
    · exact absurd h not_yields_noteError_bind
    · next raw hraw =>
      simp only [yields_bind, yields_lift, yields_modify, yields_merge] at h
      obtain ⟨id, _, ⟨hid, rfl⟩, _, _, rfl, body, u, hbody, _, _, rfl, h⟩ := h
      obtain ⟨heq, rfl⟩ := yields_pure.1 h
      exact ⟨raw, id, body, u, hraw, hid, hbody, rfl, heq⟩
  · rintro ⟨raw, id, body, u, hraw, hid, hbody, rfl, rfl⟩
    refine ⟨r, r, ⟨rfl, rfl⟩, ?_⟩
    rw [hraw]
    simp only [yields_bind, yields_lift, yields_modify, yields_merge]
    exact ⟨id, r, ⟨hid, rfl⟩, (), _, rfl, body, u, hbody, (), _, rfl, yields_pure.2 ⟨rfl, rfl⟩⟩

theorem compiled_definition (hn : Sound ctx.nested) (name : String) {path : String}
    {o : Option DefinitionSchema} (h : (definition ctx path).Yields r o r') :
    r'.unmarked = r.unmarked ∧ ∃ d, o = some d ∧ DefinitionOf r.unmarked (name, path) (name, d) := by
  obtain ⟨raw, id, body, u, hraw, hid, hbody, rfl, rfl⟩ := yields_definition.1 h
  obtain ⟨hu, s, rfl, hs⟩ := hn hbody
  rw [Registry.unmarked_mark] at hu hs
  rw [← Registry.raw?_unmarked] at hraw
  refine ⟨by rw [Registry.unmarked_mark, hu], _, rfl, rfl, ?_, raw, hraw, hs⟩
  rw [hraw]
  exact yields_ownId hid

theorem compiled_definitions (hn : Sound ctx.nested) {names : List (String × String)}
    {ds : Dict DefinitionSchema} (h : (definitions ctx names).Yields r ds r') :
    r'.unmarked = r.unmarked ∧ List.Forall₂ (DefinitionOf r.unmarked) names ds := by
  induction names generalizing r ds with
  | nil =>
    obtain ⟨rfl, rfl⟩ := yields_pure.1 h
    exact ⟨rfl, .nil⟩
  | cons e rest ih =>
    obtain ⟨name, path⟩ := e
    simp only [definitions, yields_bind, yields_attach, Run.ends_ofStep] at h
    obtain ⟨o, u, hd, others, _, hothers, h⟩ := h
    obtain ⟨hu, d, rfl, hof⟩ := compiled_definition hn name hd
    obtain ⟨rfl, rfl⟩ := yields_pure.1 h
    obtain ⟨hr, hrest⟩ := ih hothers
    rw [hu] at hr hrest
    exact ⟨hr, .cons hof hrest⟩

theorem top_eq (ctx : Context) (raw : Json) : top ctx raw = match normalize raw with
    | .error d => do
      noteError d
      return none
    | .ok fields => do
      let (id, names) ← registration ctx fields
      let definitions ← definitions ctx names
      let body ← merge (ctx.nested fields)
      return body.map fun schema => { id, definitions, schema } := by
  unfold top registration
  cases normalize raw with
  | error d => rfl
  | ok fields => simp only [bind_assoc, pure_bind]

/-- A whole schema that was compiled from the entries of a registry, given the names and paths of
its definitions. -/
structure CompiledFrom (pathPrefix : String) (raw : RawSchema) (names : List (String × String))
    (r : Registry) (top : TopSchema) : Prop where
  registered : Registered pathPrefix raw top.id names r
  definitions : List.Forall₂ (DefinitionOf r.unmarked) names top.definitions
  body : Compiled r.unmarked raw top.schema

namespace CompiledFrom

variable {pathPrefix : String} {raw : RawSchema} {names : List (String × String)} {r : Registry}
  {top : TopSchema}

/-- A definition stands under the name that belongs to its path, and has the id of its entry. -/
theorem of_mem (h : CompiledFrom pathPrefix raw names r top) {name : String}
    {d : DefinitionSchema} (hd : (name, d) ∈ top.definitions) :
    (name, pathPrefix ++ name) ∈ names ∧ d.id = r.id? (pathPrefix ++ name) ∧
      ∃ raw, r.raw? (pathPrefix ++ name) = some raw ∧ Compiled r.unmarked raw d.schema := by
  obtain ⟨⟨_, path⟩, he, rfl, hid, raw, hraw, hcompiled⟩ :=
    exists_mem_of_forall₂ h.definitions.flip hd
  obtain rfl : path = pathPrefix ++ name := h.registered.path _ he
  obtain ⟨raw', hraw', hid'⟩ := h.registered.found _ he
  rw [Registry.raw?_unmarked] at hraw hid
  obtain rfl : raw' = raw := by rw [hraw'] at hraw; exact Option.some.inj hraw
  exact ⟨he, by rw [hid, hraw', hid']; rfl, _, hraw', hcompiled⟩

/-- All nodes were compiled while the entries were registered. -/
theorem built (h : CompiledFrom pathPrefix raw names r top) {root node : Schema}
    (hroot : root ∈ top.roots) (hnode : node.Within root) : ∃ raw, Node r.unmarked raw node := by
  rcases List.mem_cons.1 hroot with rfl | hroot
  · exact h.body.built node hnode
  · obtain ⟨⟨name, d⟩, hd, rfl⟩ := List.mem_map.1 hroot
    obtain ⟨-, -, raw, -, hcompiled⟩ := h.of_mem hd
    exact hcompiled.built node hnode

end CompiledFrom

/-- The registry in which references are resolved is the one after `registration`. -/
theorem compiledFrom_top (hn : Sound ctx.nested) {raw : Json} {o : Option TopSchema}
    (h : (top ctx raw).Yields .empty o r') :
    ∃ top fields names, o = some top ∧ normalize raw = .ok fields ∧
      CompiledFrom ctx.options.definitionPathPrefix fields names
        (registration ctx fields .empty).result.2 top := by
  rw [top_eq] at h
  split at h
  · exact absurd h not_yields_noteError_bind
  · next fields hfields =>
    simp only [yields_bind, yields_merge] at h
    obtain ⟨⟨id, names⟩, r, hreg, ds, u, hds, body, v, hbody, h⟩ := h
    obtain ⟨hu, hdefs⟩ := compiled_definitions hn hds
    obtain ⟨-, s, rfl, hs⟩ := hn hbody
    obtain ⟨rfl, rfl⟩ := yields_pure.1 h
    rw [hu] at hs
    have hr : (registration ctx fields .empty).result.2 = r := congrArg Prod.snd hreg.2
    subst hr
    exact ⟨_, fields, names, rfl, hfields, registered_of_registration hreg, hdefs, hs⟩

end Compile

namespace Compiler

/-- The registry in which the references of a raw schema are resolved: the one that registering its
definitions leaves. Only states of entries change afterwards. -/
def registry (c : Compiler) (raw : Json) : Registry :=
  match normalize raw with
  | .error _ => .empty
  | .ok fields => (Compile.registration (c.context (compileDepth raw)) fields .empty).result.2

variable {options : CompilerOptions} {raw : Json} {top : TopSchema}

theorem compiledFrom_of_value? (h : ((builtin options).compile raw).value? = some top) :
    ∃ fields names, Compile.CompiledFrom options.definitionPathPrefix fields names
      ((builtin options).registry raw) top := by
  have hyields := Run.ends_ofStep.1 (Run.ends_of_value? h)
  obtain ⟨top', fields, names, heq, hfields, hfrom⟩ :=
    Compile.compiledFrom_top (Compile.sound_compileWithin options _) hyields
  obtain rfl := Option.some.inj heq
  refine ⟨fields, names, ?_⟩
  unfold registry
  simp only [hfields]
  exact hfrom

/-- A whole schema that compiles without error compiles to something. -/
theorem exists_value?_compile (h : ((builtin options).compile raw).errors = []) :
    ∃ top, ((builtin options).compile raw).value? = some top := by
  obtain ⟨top, -, -, hstored, -⟩ := Compile.compiledFrom_top
    (Compile.sound_compileWithin options _) (Run.ends_ofStep.1 ⟨h, rfl, rfl⟩)
  exact ⟨top, Outcome.value?_eq_some.2 ⟨h, hstored⟩⟩

end Compiler

end DataSchema
