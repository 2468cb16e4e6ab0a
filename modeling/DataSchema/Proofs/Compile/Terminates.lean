import DataSchema.Proofs.Compile.Nesting
import DataSchema.Proofs.Compile.Top

/-!
# Compiling always returns

**Theorem (`compile_returns`).** However references lead to one another, a depth that is given
outright is enough to compile a raw schema in any registry, and to compile a whole schema: it makes
no difference how anything nested deeper, or in more references than there are definitions, is
answered. The registry is the one it was, up to what is pending and what is finished, with or
without errors.

For whole schemas two runs are compared from the registry that registering the definitions leaves
(`outcome_top_eq`). How large that registry is, and how high the raw schemas in it are, is bounded
by the size of the whole (`Grows`).
-/

namespace DataSchema

namespace Compile

open Step

/-! ## Whole schemas -/

variable {ctx ctx' : Context} {r r' r₀ : Registry} {view : View}

theorem agree_definitions {R : Registry → Registry → Prop} {names : List (String × String)}
    (h : ∀ e ∈ names, Agree view R (definition ctx e.2) (definition ctx' e.2)) :
    Agree view R (definitions ctx names) (definitions ctx' names) := by
  induction names with
  | nil => exact agree_pure _
  | cons e rest ih =>
    have hdefinition := Run.agree_ofStep (h e List.mem_cons_self)
    have hrest := ih fun e he => h e (List.mem_cons_of_mem _ he)
    exact (agree_attach hdefinition _ _).bind fun _ => hrest.bind fun _ => agree_pure _

/-- Registering has to do with the options, and not with how schemas are compiled. -/
theorem registerEach_congr (h : ctx.options = ctx'.options) (fields : List (String × Json)) :
    registerEach ctx fields = registerEach ctx' fields := by
  induction fields with
  | nil => rfl
  | cons e rest ih => simp only [registerEach, Context.definitionPath, h, ih]

theorem registration_congr (h : ctx.options = ctx'.options) (raw : RawSchema) :
    registration ctx raw = registration ctx' raw := by
  simp only [registration, registerDefinitions, registerEach_congr h]

/-- Whole schemas compile to the same if the definitions and the body do. -/
theorem outcome_top_eq (hoptions : ctx.options = ctx'.options) {raw : Json}
    (hn : ∀ fields, normalize raw = .ok fields →
      ∀ r₀, (registration ctx fields .empty).result.2 = r₀ →
      (∀ path raw, r₀.raw? path = some raw → NestedAgree .whole (Same r₀) ctx ctx' raw raw) ∧
        NestedAgree .whole (Same r₀) ctx ctx' fields fields) :
    (Run.ofStep (top ctx raw) .empty).1 = (Run.ofStep (top ctx' raw) .empty).1 := by
  rw [top_eq, top_eq]
  cases hraw : normalize raw with
  | error d => rfl
  | ok fields =>
    obtain ⟨hdefinitions, hbody⟩ := hn fields hraw _ rfl
    dsimp only
    rw [← registration_congr hoptions]
    have hreg : (registration ctx fields .empty).Agree .whole
        (fun a b => a = b ∧ a.2 = (registration ctx fields .empty).result.2)
        (registration ctx fields .empty) :=
      ⟨⟨rfl, rfl⟩, .refl _ _, .refl _ _⟩
    refine (Noted.Agree.outcome (R := Same (registration ctx fields .empty).result.2) ?_).eq
    rw [bind_apply, bind_apply]
    refine hreg.bind fun a b hab => ?_
    obtain ⟨⟨id, names⟩, r⟩ := a
    obtain ⟨rfl, rfl⟩ := hab
    have hnames : Agree .whole (Same (registration ctx fields .empty).result.2)
        (definitions ctx names) (definitions ctx' names) :=
      agree_definitions fun e _ => agree_definition (hdefinitions e.2)
    have hrest := hnames.bind fun definitions => (agree_merge hbody).bind fun body =>
      agree_pure (body.map fun schema => (⟨id, definitions, schema⟩ : TopSchema))
    exact hrest _ _ ⟨.refl _, rfl⟩


/-! ## What is registered -/

/-- The registry `r'` is `r` with at most so many definitions more, whose raw schemas are of one
kind. -/
structure Grows (P : RawSchema → Prop) (count : Nat) (r r' : Registry) : Prop where
  size : r'.size ≤ r.size + count
  raw : ∀ path raw, r'.raw? path = some raw → r.raw? path = some raw ∨ P raw

variable {P : RawSchema → Prop} {count more : Nat}

theorem Grows.refl (P : RawSchema → Prop) (r : Registry) : Grows P 0 r r where
  size := Nat.le_refl _
  raw _ _ h := .inl h

theorem Grows.trans {s : Registry} (h : Grows P count r s) (h' : Grows P more s r') :
    Grows P (count + more) r r' where
  size := by
    have hs := h.size
    have hr := h'.size
    omega
  raw path raw hraw := by
    rcases h'.raw path raw hraw with hraw | hP
    · exact h.raw path raw hraw
    · exact .inr hP

theorem Grows.le (h : Grows P count r r') (hle : count ≤ more) : Grows P more r r' where
  size := Nat.le_trans h.size (Nat.add_le_add_left hle _)
  raw := h.raw

theorem size_mark (r : Registry) (path : String) (state : DefinitionState) :
    (r.mark path state).size = r.size := by
  simp [Registry.size, Registry.mark, Dict.modify]

theorem grows_add {path : String} {raw : RawSchema} {id : Option String} (hP : P raw)
    (h : r.add path raw id = .ok r') : Grows P 1 r r' where
  size := by
    have hentries : r'.entries = r.entries.insert path ⟨raw, id, .pending⟩ := by
      unfold Registry.add at h
      split at h
      · cases h
      · cases id with
        | none => rw [← Except.ok.inj h]
        | some i =>
          simp only at h
          split at h
          · cases h
          · rw [← Except.ok.inj h]
    rw [Registry.size, Registry.size, hentries]
    exact Dict.length_insert_le _ _ _
  raw other raw' hraw := by
    obtain ⟨-, -, hentries, -⟩ := Registry.add_eq_ok h
    rw [Registry.raw?, hentries] at hraw
    split at hraw
    · obtain rfl : raw = raw' := Option.some.inj hraw
      exact .inr hP
    · exact .inl hraw

/-- The step registers at most so many definitions, whose raw schemas are of one kind. -/
def Registers {α : Type} (P : RawSchema → Prop) (count : Nat) (x : Compiling α) : Prop :=
  ∀ r, Grows P count r (x r).result.2

variable {α β : Type}

theorem registers_pure (a : α) : Registers P 0 (pure a) := fun r => .refl P r

theorem registers_lift (x : Noted α) : Registers P 0 (monadLift x) := fun r => .refl P r

theorem registers_noteError (d : Diagnostic) : Registers P 0 (noteError d) := registers_lift _

theorem Registers.bind {x : Compiling α} {f : α → Compiling β} (h : Registers P count x)
    (hf : ∀ a, Registers P more (f a)) : Registers P (count + more) (x >>= f) :=
  fun r => (h r).trans (hf _ _)

theorem Registers.le {x : Compiling α} (h : Registers P count x) (hle : count ≤ more) :
    Registers P more x :=
  fun r => (h r).le hle

theorem registers_mark (path : String) (state : DefinitionState) :
    Registers P 0 (modify (·.mark path state)) := fun r =>
  { size := Nat.le_of_eq (size_mark r path state)
    raw := fun other raw hraw => .inl (by rwa [← Registry.raw?_mark r path state]) }

theorem state_register (path : String) (raw : RawSchema) (id : Option String)
    (complaint : RegistryError → Diagnostic) (r : Registry) :
    (register path raw id complaint r).result.2 = match r.add path raw id with
      | .ok registry => registry
      | .error _ => r := by
  rw [result_register]
  cases r.add path raw id <;> rfl

theorem registers_register {path : String} {raw : RawSchema} {id : Option String}
    {complaint : RegistryError → Diagnostic} (hP : P raw) :
    Registers P 1 (register path raw id complaint) := by
  intro r
  rw [state_register]
  split
  · next registry hadd => exact grows_add hP hadd
  · exact (Grows.refl P r).le (Nat.zero_le 1)

theorem registers_registerEach {fields : List (String × Json)}
    (hP : ∀ e ∈ fields, ∀ raw, normalize e.2 = .ok raw → P raw) :
    Registers P fields.length (registerEach ctx fields) := by
  induction fields with
  | nil => exact registers_pure _
  | cons e rest ih =>
    obtain ⟨name, j⟩ := e
    have hrest := ih fun e he => hP e (List.mem_cons_of_mem _ he)
    rw [registerEach, List.length_cons, Nat.add_comm]
    split
    · exact ((registers_noteError _).bind fun _ => hrest).le (by omega)
    · next raw hraw =>
      have hhead : P raw := hP _ List.mem_cons_self raw hraw
      exact (registers_register hhead).bind fun _ => hrest.bind fun _ => registers_pure _

theorem registers_registerDefinitions {raw : RawSchema}
    (hP : ∀ part ∈ raw.named "definitions", ∀ fields, normalize part = .ok fields → P fields) :
    Registers P (raw.named "definitions").length (registerDefinitions ctx raw) := by
  unfold registerDefinitions RawSchema.named at *
  cases hget : raw.get? "definitions" with
  | none => exact registers_pure _
  | some j => cases j with
    | null => exact registers_pure _
    | obj fields =>
      simp only [hget, List.length_map] at hP ⊢
      exact registers_registerEach fun e he => hP e.2 (List.mem_map_of_mem he)
    | bool | num | str | arr => exact (registers_noteError _).bind fun _ => registers_pure _

theorem registers_registerTop {id : Option String} {raw : RawSchema} (hP : P raw) :
    Registers P 1 (registerTop id raw) := by
  cases id with
  | none => exact (registers_pure _).le (Nat.zero_le 1)
  | some i =>
    show Registers P (1 + 0) _
    refine (registers_register hP).bind fun registered => ?_
    split
    · exact registers_mark _ _
    · exact registers_pure _

/-- The whole and its definitions are registered, and no more. -/
theorem registers_registration {raw : RawSchema} (hP : P raw)
    (hdefinitions : ∀ part ∈ raw.named "definitions", ∀ fields, normalize part = .ok fields →
      P fields) :
    Registers P (1 + (raw.named "definitions").length) (registration ctx raw) := by
  have htop : ∀ id, Registers P 1 (registerTop id raw) := fun id => registers_registerTop hP
  have hnames : Registers P (raw.named "definitions").length (registerDefinitions ctx raw) :=
    registers_registerDefinitions hdefinitions
  have hregistration := (registers_lift (ownId raw)).bind fun id => (htop id).bind fun _ =>
    hnames.bind fun names => registers_pure (id, names)
  rw [Nat.zero_add] at hregistration
  exact hregistration

theorem normalize_fits {j : Json} {fields : RawSchema} (h : normalize j = .ok fields) :
    Fits j.depth fields :=
  fits_of_normalize h (Nat.le_succ _)

/-- A whole schema is larger than the number of its definitions, and deeper than each of them. -/
theorem definitions_bounded {raw : Json} {fields : RawSchema} (h : normalize raw = .ok fields) :
    1 + (fields.named "definitions").length ≤ raw.size ∧
      ∀ part ∈ fields.named "definitions", part.depth ≤ raw.depth := by
  unfold RawSchema.named
  split
  · next definitions hget =>
    cases raw with
    | str type =>
      obtain rfl := Except.ok.inj h
      simp [Dict.get?] at hget
    | obj fields' =>
      obtain rfl := Except.ok.inj h
      have hmem := Dict.mem_of_get? hget
      have hsize := Json.size_le_sizeFields hmem
      have hdepth := Json.depth_lt_obj hmem
      have hlength := Json.length_le_sizeFields definitions
      simp only [Json.size, List.length_map] at hsize ⊢
      refine ⟨by omega, fun part hpart => ?_⟩
      obtain ⟨e, he, rfl⟩ := List.mem_map.1 hpart
      have he := Json.depth_lt_obj he
      simp only at hdepth
      omega
    | null | bool | num | arr => cases h
  · have hpos := raw.size_pos
    exact ⟨by simp only [List.length_nil]; omega, by simp⟩

/-- What is registered for a whole schema is bounded by its size and its depth. -/
theorem grows_registration {raw : Json} {fields : RawSchema} (h : normalize raw = .ok fields) :
    Grows (Fits raw.depth) raw.size .empty (registration ctx fields .empty).result.2 := by
  obtain ⟨hcount, hdepth⟩ := definitions_bounded h
  have hP : Fits raw.depth fields := normalize_fits h
  have hdefinitions : ∀ part ∈ fields.named "definitions", ∀ fields, normalize part = .ok fields →
      Fits raw.depth fields := fun part hpart fields hfields =>
    (normalize_fits hfields).mono (hdepth part hpart)
  exact (registers_registration hP hdefinitions .empty).le hcount

/-- The keys of all objects are sorted in what is registered if they are in the whole. -/
theorem sorted_registry (c : Compiler) {whole : Json} (h : whole.SortedKeys) {path : String}
    {target : RawSchema} (hfound : (c.registry whole).raw? path = some target) :
    Sorted target := by
  unfold Compiler.registry at hfound
  cases hwhole : normalize whole with
  | error d =>
    rw [hwhole] at hfound
    cases hfound
  | ok fields =>
    rw [hwhole] at hfound
    have hfields : Sorted fields := .normalize h hwhole
    have hparts : ∀ part ∈ fields.named "definitions", ∀ f, normalize part = .ok f → Sorted f :=
      fun _ hpart _ hf => sorted_of_mem_named hfields hpart hf
    exact ((registers_registration hfields hparts .empty).raw path target hfound).resolve_left
      (by simp [Registry.raw?, Registry.empty])

end Compile

namespace Registry

theorem size_congr {r r' : Registry} (h : r.unmarked = r'.unmarked) : r.size = r'.size := by
  have hsize : ∀ r : Registry, r.size = r.unmarked.size := fun r => by simp [size, unmarked]
  rw [hsize, h, ← hsize]

/-- The depth of the highest raw schema that is registered. -/
def depth (r : Registry) : Nat :=
  Json.depth.depthFields (r.entries.map fun e => (e.1, .obj e.2.raw))

theorem rawsFit_depth (r : Registry) : Compile.RawsFit r.depth r := by
  intro path raw hraw
  obtain ⟨e, he, rfl⟩ := Option.map_eq_some_iff.1 hraw
  have hmem : (path, Json.obj e.raw) ∈ r.entries.map fun e => (e.1, Json.obj e.2.raw) :=
    List.mem_map.2 ⟨(path, e), Dict.mem_of_get? he, rfl⟩
  have hdepth : (Json.obj e.raw).depth ≤ r.depth := Json.depth_le_depthFields hmem
  exact Compile.fits_of_depth (by omega)

end Registry

namespace Compiler

open Compile

/-- A depth in which a raw schema can be compiled in a registry. -/
def depthIn (r : Registry) (raw : Json) : Nat :=
  let most := max raw.depth r.depth
  (r.size + 1) * (most + 1)

theorem enough_le_depthIn (r : Registry) (raw : Json) :
    enough r.size (max raw.depth r.depth) (max raw.depth r.depth) ≤ depthIn r raw := by
  unfold enough depthIn
  rw [Nat.succ_mul]
  omega

theorem enough_le_compileDepth {r : Registry} {raw : Json} (h : r.size ≤ raw.size) :
    enough r.size raw.depth raw.depth ≤ compileDepth raw := by
  have hdepth := raw.depth_le_size
  calc enough r.size raw.depth raw.depth
      = (r.size + 1) * (raw.depth + 1) := by rw [enough, Nat.succ_mul]; omega
    _ ≤ (raw.size + 2) * (raw.size + 2) := Nat.mul_le_mul (by omega) (by omega)

/-- The bound on the depth is enough for all that is registered for a whole schema. -/
theorem registry_bounded (options : CompilerOptions) (raw : Json) :
    enough ((builtin options).registry raw).size raw.depth raw.depth ≤ compileDepth raw ∧
      RawsFit raw.depth ((builtin options).registry raw) := by
  have hgrows : Grows (Fits raw.depth) raw.size .empty ((builtin options).registry raw) := by
    unfold registry
    cases hraw : normalize raw with
    | error d => exact (Grows.refl _ _).le (Nat.zero_le _)
    | ok fields => exact grows_registration hraw
  have hsize : ((builtin options).registry raw).size ≤ raw.size := by
    simpa [Registry.size, Registry.empty] using hgrows.size
  refine ⟨enough_le_compileDepth hsize, fun path fields hfields => ?_⟩
  exact (hgrows.raw path fields hfields).resolve_left (by simp [Registry.raw?, Registry.empty])

/-- A depth that is given outright is enough for a raw schema, in any registry. -/
theorem agree_nested (options : CompilerOptions) (beyond : RawSchema → Compile.Run Schema)
    (n m : Nat) (r : Registry) (raw : Json) :
    Run.Agree .whole (Near r r) (((builtin options).context (depthIn r raw + n)).compile raw)
      (((builtin options).nestedContext beyond (depthIn r raw + m) r.size).compile raw) := by
  refine agree_compile (paired_self fun fields hfields => ?_)
  have henough := enough_le_depthIn r raw
  have hfits : RawsFit (max raw.depth r.depth) r := fun path raw hraw =>
    (r.rawsFit_depth path raw hraw).mono (Nat.le_max_right _ _)
  have hraw : Fits (max raw.depth r.depth) fields :=
    (normalize_fits hfields).mono (Nat.le_max_left _ _)
  exact agree_compileNested options beyond (.refl r) hfits hraw (Nat.le_refl _) r.free_le_size
    (by omega) (by omega)

/-- The bound on the depth is enough for a whole schema. -/
theorem outcome_top_nested (options : CompilerOptions) (beyond : RawSchema → Compile.Run Schema)
    (m : Nat) (raw : Json) :
    (Run.ofStep (Compile.top ((builtin options).nestedContext beyond (compileDepth raw + m)
      ((builtin options).registry raw).size) raw) .empty).1 = (builtin options).compile raw := by
  have hoptions : ((builtin options).context (compileDepth raw)).options =
      ((builtin options).nestedContext beyond (compileDepth raw + m)
        ((builtin options).registry raw).size).options := rfl
  refine (outcome_top_eq hoptions fun fields hfields r₀ hr₀ => ?_).symm
  have hregistry : (builtin options).registry raw = r₀ := by
    rw [← hr₀, registry]
    simp only [hfields]
  obtain ⟨henough, hfits⟩ := registry_bounded options raw
  rw [hregistry] at henough hfits
  have hnested : ∀ {raw' : RawSchema}, Fits raw.depth raw' →
      NestedAgree .whole (Same r₀) ((builtin options).context (compileDepth raw))
        ((builtin options).nestedContext beyond (compileDepth raw + m) r₀.size) raw' raw' := by
    intro raw' hraw'
    refine agree_same fun r r' hrr => ?_
    have hfree : r.free ≤ r₀.size := Registry.size_congr hrr.2 ▸ r.free_le_size
    have hfits' : RawsFit raw.depth r := fun path raw' hraw' =>
      hfits path raw' (by rw [← hraw', Registry.raw?_congr hrr.2])
    exact agree_compileNested options beyond hrr.1 hfits' hraw' (Nat.le_refl _) hfree henough
      (by omega)
  rw [hregistry]
  exact ⟨fun path raw' hraw' => hnested (hfits path raw' hraw'), hnested (normalize_fits hfields)⟩

/-- **Compiling returns.** How anything is answered that is nested deeper than a certain depth, or
in more references than there are definitions, makes no difference. -/
theorem compile_returns (options : CompilerOptions) (beyond : RawSchema → Compile.Run Schema)
    (n m : Nat) :
    (∀ (r : Registry) (raw : Json),
      (((builtin options).nestedContext beyond (depthIn r raw + m) r.size).compile raw r).1 =
          (((builtin options).context (depthIn r raw + n)).compile raw r).1 ∧
        (((builtin options).context (depthIn r raw + n)).compile raw r).2.Alike r) ∧
    ∀ raw : Json,
      (Run.ofStep (Compile.top ((builtin options).nestedContext beyond (compileDepth raw + m)
        ((builtin options).registry raw).size) raw) .empty).1 = (builtin options).compile raw := by
  refine ⟨fun r raw => ?_, outcome_top_nested options beyond m⟩
  obtain ⟨hagree, hnear, -⟩ := agree_nested options beyond n m r raw r r ⟨.refl r, .refl r⟩
  exact ⟨hagree.eq.symm, hnear⟩

end Compiler

end DataSchema
