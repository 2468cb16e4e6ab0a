import DataSchema.Proofs.Compile.Annotated
import DataSchema.Proofs.Compile.Complete
import DataSchema.Proofs.Compile.Twin

/-!
# What annotations say

A definition may have an id and a property a type of its name. Both are annotations: what they are
read for is not what the schema is compiled to, but they stand in the same raw schema.

**Theorem (`compile_annotated`).** A whole schema in which a definition is given an id that stands
for nothing (`Json.identified`) compiles to the same, up to this id. A property compiles to the same
in any context whatever type its name has. Either holds exactly if no recursive reference is refused
for it. It may be: a recursive reference rejects all that it overrides, and does not tell an
annotation from what it can override (`annotated_rejected`).

A whole schema and the one with the id are registered step by step beside each other
(`exists_registration`), under the same names and paths. Nothing but the id is resolved differently
then, so what is compiled is akin, in registries that are companions (`exists_ends_akin`).
-/

namespace DataSchema

/-- The schema of a definition, with an id. -/
def withId (id : String) (definition : Json) : Json :=
  match normalize definition with
  | .ok fields => .obj (fields.insert "$id" (.str id))
  | .error _ => definition

namespace Json

/-- What a definition of a whole schema is compiled from. -/
def definition? (whole : Json) (name : String) : Option RawSchema :=
  (whole.field? "definitions").bind fun definitions =>
    (definitions.field? name).bind fun definition => (normalize definition).toOption

/-- Gives an id to one of some definitions. -/
def identifyIn (definitions : Json) (name id : String) : Json :=
  match definitions with
  | .obj fields => .obj (Dict.modify fields name (withId id))
  | other => other

/-- A whole schema in which a definition is given an id. -/
def identified (whole : Json) (name id : String) : Json :=
  match whole with
  | .obj fields => .obj (Dict.modify fields "definitions" (·.identifyIn name id))
  | other => other

end Json

/-- A whole schema in which a definition is given an id. -/
def TopSchema.identified (top : TopSchema) (name id : String) : TopSchema :=
  { top with definitions := top.definitions.modify name fun d => { d with id := some id } }

namespace Compile

open Step

variable {options : CompilerOptions} {ctx : Context} {raw raw' f : RawSchema}
  {r r' s u v w : Registry} {path fresh name : String} {id : Option String} {j : Json} {n : Nat}

theorem normalize_withId (hf : normalize j = .ok f) :
    normalize (withId fresh j) = .ok (f.insert "$id" (.str fresh)) := by
  rw [withId, hf]
  rfl

theorem sortedKeys_withId (hj : j.SortedKeys) : (withId fresh j).SortedKeys := by
  unfold withId
  split
  · next f hf => exact (Sorted.normalize hj hf).insert _ (.str fresh)
  · exact hj

theorem sorted_modify (h : Sorted raw) (field : String) {change : Json → Json}
    (hchange : ∀ j, j.SortedKeys → (change j).SortedKeys) : Sorted (raw.modify field change) := by
  cases h with
  | obj hsorted hfields =>
    refine .obj ?_ fun e he => ?_
    · rw [Dict.Sorted, Dict.keys_modify]
      exact hsorted
    · obtain ⟨entry, hentry, rfl⟩ := List.mem_map.1 he
      split
      · exact hchange _ (hfields entry hentry)
      · exact hfields entry hentry

theorem sortedKeys_identified (hj : j.SortedKeys) (name id : String) :
    (j.identified name id).SortedKeys := by
  have hdefinitions : ∀ j : Json, j.SortedKeys → (j.identifyIn name id).SortedKeys := by
    intro j hj
    cases j with
    | obj definitions => exact sorted_modify hj name fun _ => sortedKeys_withId
    | null | bool | num | str | arr => exact hj
  cases j with
  | obj fields => exact sorted_modify hj "definitions" hdefinitions
  | null | bool | num | str | arr => exact hj

/-! ## Registering -/

/-- A raw schema at a path, and what becomes of it when the one at some path is given an id. -/
structure Identifies (path fresh other : String) (raw raw' : RawSchema) : Prop where
  akin : Akin raw raw'
  id : raw'.get? "$id" = if other = path then some (.str fresh) else raw.get? "$id"

theorem Identifies.registeredId {other : String} (h : Identifies path fresh other raw raw') :
    registeredId raw' = if other = path then some fresh else registeredId raw := by
  unfold Compile.registeredId
  rw [h.id]
  split <;> rfl

/-- The registry `r'` is `r`, but the definition at some path is given an id. -/
structure Identified (path fresh : String) (r r' : Registry) : Prop where
  entries : ∀ other, Option.Rel
    (fun e e' => Identifies path fresh other e.raw e'.raw ∧ e'.state = e.state)
    (r.entries.get? other) (r'.entries.get? other)
  ids : ∀ i, r'.ids.get? i = r.ids.get? i ∨ i = fresh ∧ (r.entries.get? path).isSome = true

theorem identified_empty (path fresh : String) : Identified path fresh .empty .empty where
  entries _ := .none
  ids _ := .inl rfl

theorem Identified.get?_eq_none (h : Identified path fresh r r') {other : String}
    (hnone : r.entries.get? other = none) : r'.entries.get? other = none := by
  rw [← Option.not_isSome_iff_eq_none, Dict.isSome_of_rel (h.entries other), hnone]
  decide

/-- Only the id that is given is new, and only where there is what it is given to. -/
theorem Identified.get?_ids (h : Identified path fresh r r') {i : String}
    (hi : i ≠ fresh ∨ r.entries.get? path = none) : r'.ids.get? i = r.ids.get? i := by
  refine (h.ids i).resolve_right ?_
  rintro ⟨rfl, hsome⟩
  rcases hi with hne | hnone
  · exact hne rfl
  · rw [hnone] at hsome
    cases hsome

/-- What is not taken is not taken beside it either, and no more is the id that is given. -/
theorem Identified.free (h : Identified path fresh r r') {other : String}
    (hfresh : r.resolve fresh = none) (hfree : r.entries.get? other = none)
    (hids : ∀ i ∈ id, r.ids.get? i = none ∧ (i ≠ other → r.entries.get? i = none))
    (hne : id ≠ some fresh) :
    ∀ i ∈ if other = path then some fresh else id,
      r'.ids.get? i = none ∧ (i ≠ other → r'.entries.get? i = none) := by
  obtain ⟨hfreshEntry, hfreshId⟩ := Registry.resolve_eq_none.1 hfresh
  intro i hi
  by_cases hother : other = path
  · obtain rfl : fresh = i := by
      rw [if_pos hother] at hi
      exact Option.some.inj hi
    rw [h.get?_ids (.inr (hother ▸ hfree))]
    exact ⟨hfreshId, fun _ => h.get?_eq_none hfreshEntry⟩
  · rw [if_neg hother] at hi
    obtain ⟨hid, hentry⟩ := hids i hi
    have hi' : i ≠ fresh := by
      rintro rfl
      exact hne hi
    rw [h.get?_ids (.inl hi')]
    exact ⟨hid, fun hne => h.get?_eq_none (hentry hne)⟩

/-- **What is registered can be registered with an id** that stands for nothing. -/
theorem Identified.add (h : Identified path fresh r r') {other : String}
    (hadd : r.add other raw id = .ok s) (hfresh : s.resolve fresh = none)
    (hraw : Identifies path fresh other raw raw') {id' : Option String}
    (hid : id' = if other = path then some fresh else id) (hnone : other = path → id = none) :
    ∃ s', r'.add other raw' id' = .ok s' ∧ Identified path fresh s s' := by
  obtain ⟨hfree, hids, hentries, hids'⟩ := Registry.add_eq_ok hadd
  obtain ⟨hr, -, hne⟩ := Registry.resolve_eq_none_of_add hadd hfresh
  obtain ⟨s', hs'⟩ := Registry.exists_add (h.get?_eq_none hfree) (h.free hr hfree hids hne) raw'
  rw [← hid] at hs'
  obtain ⟨-, -, hentries', hids''⟩ := Registry.add_eq_ok hs'
  refine ⟨s', hs', fun p => ?_, fun i => ?_⟩
  · rw [hentries, hentries']
    split
    · next heq => exact .some ⟨heq ▸ hraw, rfl⟩
    · exact h.entries p
  · rw [hids', hids'', hentries, hid]
    by_cases hother : other = path
    · rw [hnone hother, if_pos hother, if_pos hother]
      by_cases hi : fresh = i
      · exact .inr ⟨hi.symm, rfl⟩
      · left
        rw [if_neg (by simpa using hi), if_neg (by simp)]
        exact h.get?_ids (.inl (Ne.symm hi))
    · rw [if_neg hother, if_neg hother]
      split
      · exact .inl rfl
      · exact h.ids i

theorem Identified.mark (h : Identified path fresh r r') (other : String)
    (state : DefinitionState) :
    Identified path fresh (r.mark other state) (r'.mark other state) where
  entries p := by
    have hentry := h.entries p
    rw [Registry.mark, Registry.mark, Dict.get?_modify, Dict.get?_modify]
    generalize r.entries.get? p = e at hentry
    generalize r'.entries.get? p = e' at hentry
    cases hentry with
    | none => split <;> exact .none
    | some he =>
      split
      · exact .some ⟨he.1, rfl⟩
      · exact .some he
  ids i := by
    refine (h.ids i).imp_right fun hi => ⟨hi.1, ?_⟩
    rw [Registry.mark, Dict.get?_modify]
    split
    · rw [Option.isSome_map]
      exact hi.2
    · exact hi.2

/-- What does not resolve after definitions are registered did not before. -/
theorem resolve_eq_none_of_registerEach {fields : List (String × Json)}
    {names : List (String × String)} (h : (registerEach ctx fields).Yields r names s)
    (hfresh : s.resolve fresh = none) : r.resolve fresh = none := by
  induction fields generalizing r names with
  | nil =>
    obtain ⟨-, rfl⟩ := yields_pure.1 h
    exact hfresh
  | cons e rest ih =>
    unfold registerEach at h
    split at h
    · exact absurd h not_yields_noteError_bind
    · obtain ⟨_, u, hregister, h⟩ := yields_bind.1 h
      obtain ⟨_, _, hrest, h⟩ := yields_bind.1 h
      obtain ⟨-, rfl⟩ := yields_pure.1 h
      exact (Registry.resolve_eq_none_of_add (yields_register.1 hregister).2 (ih hrest)).1

theorem definition?_eq_some {whole : Json} (h : whole.definition? name = some f) :
    ∃ (fields definitions : Dict Json) (j : Json), whole = .obj fields ∧
      fields.get? "definitions" = some (.obj definitions) ∧ definitions.get? name = some j ∧
        normalize j = .ok f := by
  obtain ⟨value, hvalue, hrest⟩ := Option.bind_eq_some_iff.1 h
  obtain ⟨j, hj, hnormal⟩ := Option.bind_eq_some_iff.1 hrest
  obtain ⟨fields, rfl, hdefinitions⟩ := Json.field?_eq_some.1 hvalue
  obtain ⟨definitions, rfl, hget⟩ := Json.field?_eq_some.1 hj
  refine ⟨fields, definitions, j, rfl, hdefinitions, hget, ?_⟩
  cases hn : normalize j with
  | error d => simp [hn, Except.toOption] at hnormal
  | ok f' => simpa [hn, Except.toOption] using hnormal

theorem registeredId_eq_none (h : Json.present (raw.get? "$id") = none) :
    registeredId raw = none := by
  have hempty : registeredId raw = registeredId [] := registeredId_congr h
  rw [hempty]
  rfl

/-- What a definition is registered as if one of them is given an id. -/
theorem identifies_definition (ctx : Context) (name fresh key : String) (hf : normalize j = .ok f) :
    ∃ f', normalize (if key = name then withId fresh j else j) = .ok f' ∧
      Identifies (ctx.definitionPath name) fresh (ctx.definitionPath key) f f' := by
  have hpath : ctx.definitionPath key = ctx.definitionPath name ↔ key = name :=
    String.append_right_inj _
  by_cases hkey : key = name
  · refine ⟨f.insert "$id" (.str fresh), ?_, akin_insert (by decide) f _, ?_⟩
    · rw [if_pos hkey, normalize_withId hf]
    · rw [Dict.get?_insert, if_pos rfl, if_pos (hpath.2 hkey)]
  · refine ⟨f, ?_, .refl f, ?_⟩
    · rw [if_neg hkey, hf]
    · rw [if_neg fun heq => hkey (hpath.1 heq)]

/-- **Definitions that are registered can be with one of them given an id**, under the same names
and paths. -/
theorem exists_registerEach {fields : List (String × Json)} {names : List (String × String)}
    (h : Identified (ctx.definitionPath name) fresh r r')
    (hregistered : (registerEach ctx fields).Yields r names s) (hfresh : s.resolve fresh = none)
    (hnone : ∀ j, (name, j) ∈ fields → ∀ f, normalize j = .ok f → registeredId f = none) :
    ∃ s', (registerEach ctx (Dict.modify fields name (withId fresh))).Yields r' names s' ∧
      Identified (ctx.definitionPath name) fresh s s' := by
  induction fields generalizing r r' names with
  | nil =>
    obtain ⟨rfl, rfl⟩ := yields_pure.1 hregistered
    exact ⟨r', yields_pure.2 ⟨rfl, rfl⟩, h⟩
  | cons e rest ih =>
    obtain ⟨key, j⟩ := e
    have hhead : Dict.modify ((key, j) :: rest) name (withId fresh) =
        (key, if key = name then withId fresh j else j) ::
          Dict.modify rest name (withId fresh) := by
      show (if key = name then (key, withId fresh j) else (key, j)) :: _ = _
      split <;> rfl
    unfold registerEach at hregistered
    split at hregistered
    · exact absurd hregistered not_yields_noteError_bind
    · next f hf =>
      obtain ⟨_, u, hregister, hregistered⟩ := yields_bind.1 hregistered
      obtain ⟨others, _, hrest, hregistered⟩ := yields_bind.1 hregistered
      obtain ⟨rfl, rfl⟩ := yields_pure.1 hregistered
      obtain ⟨rfl, hadd⟩ := yields_register.1 hregister
      obtain ⟨f', hf', hidentifies⟩ := identifies_definition ctx name fresh key hf
      obtain ⟨u', hadd', hu⟩ := h.add hadd (resolve_eq_none_of_registerEach hrest hfresh)
        hidentifies hidentifies.registeredId fun hpath => by
          obtain rfl : key = name := (String.append_right_inj _).1 hpath
          exact hnone j List.mem_cons_self f hf
      obtain ⟨s', hs', hidentified⟩ := ih hu hrest fun j hj => hnone j (List.mem_cons_of_mem _ hj)
      refine ⟨s', ?_, hidentified⟩
      rw [hhead, registerEach, hf']
      exact yields_bind.2 ⟨true, u', yields_register.2 ⟨rfl, hadd'⟩,
        yields_bind.2 ⟨others, s', hs', yields_pure.2 ⟨rfl, rfl⟩⟩⟩

theorem exists_registerTop (raw' : RawSchema) (h : (registerTop id raw).Yields .empty () u)
    (hfresh : u.resolve fresh = none)
    (hidentifies : ∀ own, id = some own → Identifies path fresh own raw raw' ∧ own ≠ path) :
    ∃ u', (registerTop id raw').Yields .empty () u' ∧ Identified path fresh u u' := by
  cases id with
  | none =>
    obtain ⟨-, rfl⟩ := yields_pure.1 h
    exact ⟨.empty, yields_pure.2 ⟨rfl, rfl⟩, identified_empty path fresh⟩
  | some own =>
    obtain ⟨hraw, hne⟩ := hidentifies own rfl
    obtain ⟨_, s, hregister, h⟩ := yields_bind.1 h
    obtain ⟨rfl, hadd⟩ := yields_register.1 hregister
    obtain rfl := yields_modify.1 h
    rw [resolve_mark] at hfresh
    obtain ⟨s', hadd', hs⟩ := (identified_empty path fresh).add hadd hfresh hraw
      (if_neg hne).symm fun heq => absurd heq hne
    exact ⟨_, yields_bind.2 ⟨true, s', yields_register.2 ⟨rfl, hadd'⟩, yields_modify.2 rfl⟩,
      hs.mark own .compiling⟩

/-- The own id of a whole schema is not the path of a definition. -/
theorem id_ne_definitionPath {names : List (String × String)} {definitions : Dict Json}
    (h : (registration ctx raw).Yields .empty (id, names) r)
    (hdefinitions : raw.get? "definitions" = some (.obj definitions))
    (hj : definitions.get? name = some j) : id ≠ some (ctx.definitionPath name) := by
  have hname : name ∈ names.map Prod.fst := by
    rw [names_of_yields_registration h hdefinitions]
    exact List.mem_map_of_mem (Dict.mem_of_get? hj)
  obtain ⟨e, he, rfl⟩ := List.mem_map.1 hname
  have hregistered := registered_of_registration h
  have hother := hregistered.other e he
  rw [hregistered.path e he] at hother
  exact hother

/-- **A whole schema that is registered can be with one of its definitions given an id.** -/
theorem exists_registration {names : List (String × String)} {definitions : Dict Json}
    (h : (registration ctx raw).Yields .empty (id, names) r) (hfresh : r.resolve fresh = none)
    (hdefinitions : raw.get? "definitions" = some (.obj definitions))
    (hnodup : (Dict.keys definitions).Nodup) (hj : definitions.get? name = some j)
    (hf : normalize j = .ok f) (hnone : registeredId f = none) :
    ∃ r', (registration ctx (raw.modify "definitions" (·.identifyIn name fresh))).Yields .empty
        (id, names) r' ∧ Identified (ctx.definitionPath name) fresh r r' := by
  have hown := id_ne_definitionPath h hdefinitions hj
  have hsame : (raw.modify "definitions" (·.identifyIn name fresh)).get? "$id" =
      raw.get? "$id" := by
    rw [Dict.get?_modify, if_neg (by decide)]
  have hdefinitions' : (raw.modify "definitions" (·.identifyIn name fresh)).get? "definitions" =
      some (.obj (Dict.modify definitions name (withId fresh))) := by
    rw [Dict.get?_modify, if_pos rfl, hdefinitions]
    rfl
  obtain ⟨hid, u, htop, hnames⟩ := yields_registration.1 h
  rw [← ownId_congr (congrArg Json.present hsame)] at hid
  unfold registerDefinitions at hnames
  rw [hdefinitions] at hnames
  obtain ⟨u', htop', hu⟩ := exists_registerTop
    (raw.modify "definitions" (·.identifyIn name fresh)) htop
    (resolve_eq_none_of_registerEach hnames hfresh) fun own heq => by
      have hne : own ≠ ctx.definitionPath name := fun h => hown (heq.trans (congrArg _ h))
      exact ⟨⟨akin_modify (by decide) raw _, by rw [if_neg hne, hsame]⟩, hne⟩
  obtain ⟨r', hnames', hidentified⟩ := exists_registerEach hu hnames hfresh fun j' hj' f' hf' => by
    obtain rfl : j = j' := Option.some.inj (hj.symm.trans (Dict.get?_of_mem hnodup hj'))
    obtain rfl : f = f' := Except.ok.inj (hf.symm.trans hf')
    exact hnone
  refine ⟨r', yields_registration.2 ⟨hid, u', htop', ?_⟩, hidentified⟩
  unfold registerDefinitions
  rw [hdefinitions']
  exact hnames'

/-! ## Compiling -/

theorem Identified.companion (h : Identified path fresh r r') (hfresh : r.resolve fresh = none) :
    Companion r r' where
  resolved other found hfound := by
    have hne : other ≠ fresh := by
      rintro rfl
      rw [hfresh] at hfound
      cases hfound
    have hids : r'.ids.get? other = r.ids.get? other := h.get?_ids (.inl hne)
    have hcontains : r'.entries.contains other = r.entries.contains other :=
      Dict.isSome_of_rel (h.entries other)
    unfold Registry.resolve at hfound ⊢
    rw [hcontains, hids]
    exact hfound
  raws other := by
    have hentry := h.entries other
    unfold Registry.raw?
    generalize r.entries.get? other = e at hentry
    generalize r'.entries.get? other = e' at hentry
    cases hentry with
    | none => exact .none
    | some he => exact .some he.1.akin
  busy other := by
    have hentry := h.entries other
    unfold Registry.Busy Registry.state?
    generalize r.entries.get? other = e at hentry
    generalize r'.entries.get? other = e' at hentry
    cases hentry with
    | none => exact Iff.rfl
    | some he => rw [Option.map_some, Option.map_some, he.2]

/-- What stands under a path, and what becomes of it. -/
theorem Identified.exists_raw (h : Identified path fresh r r') {other : String}
    (hraw : r.raw? other = some raw) :
    ∃ raw', r'.raw? other = some raw' ∧ Identifies path fresh other raw raw' := by
  obtain ⟨e, he, rfl⟩ := Option.map_eq_some_iff.1 hraw
  obtain ⟨e', he', hraws, -⟩ := Dict.exists_of_rel (h.entries other) he
  exact ⟨e'.raw, by rw [Registry.raw?, he', Option.map_some], hraws⟩

/-- The id of a definition after one of them is given an id. -/
theorem Identifies.yields_ownId {other : String} (h : Identifies path fresh other raw raw')
    (hid : (ownId raw).Yields id) :
    (ownId raw').Yields (if other = path then some fresh else id) := by
  have hget := h.id
  split
  · next heq =>
    rw [if_pos heq] at hget
    rw [ownId, hget]
    exact ⟨rfl, rfl⟩
  · next hne =>
    rw [if_neg hne] at hget
    rw [ownId_congr (congrArg _ hget)]
    exact hid

/-- Definitions that compile, in any registry that is alike, all do. -/
theorem exists_yields_definitions {names : List (String × String)} {ds : Dict DefinitionSchema}
    (h : List.Forall₂ (fun e d => d.1 = e.1 ∧ ∀ w, w.Alike r →
      ∃ w', (definition ctx e.2).Yields w (some d.2) w' ∧ w'.Alike r) names ds) (hw : w.Alike r) :
    ∃ w', (definitions ctx names).Yields w ds w' ∧ w'.Alike r := by
  induction h generalizing w with
  | nil => exact ⟨w, yields_pure.2 ⟨rfl, rfl⟩, hw⟩
  | @cons e d names ds he _ ih =>
    obtain ⟨name, path⟩ := e
    obtain ⟨_, d⟩ := d
    obtain ⟨rfl, hd⟩ := he
    obtain ⟨u, hu, hur⟩ := hd w hw
    obtain ⟨v, hv, hvr⟩ := ih hur
    refine ⟨v, yields_bind.2 ⟨some d, u, yields_attach.2 (Run.ends_ofStep.2 hu),
      yields_bind.2 ⟨ds, v, hv, yields_pure.2 ⟨rfl, rfl⟩⟩⟩, hvr⟩

/-- What compiles without error has no reference that resolves to nothing or is refused. -/
theorem kept_of_errors
    (h : ((Compiler.builtin options).compileWithin (n + 1) raw r).1.errors = []) :
    Resolves r raw ∧ ¬ Refused r raw := by
  constructor
  · intro htype
    rw [Compiler.compileWithin_succ, compileIn_eq options htype rfl] at h
    have hyields : (reference ((Compiler.builtin options).context n) raw).Yields r _ _ :=
      Run.ends_ofStep.1 ⟨h, rfl, rfl⟩
    obtain ⟨name, path, target, state, hname, hne, htarget, -⟩ := yields_reference hyields
    obtain ⟨hpath, hfound, -⟩ := target?_eq_some htarget
    exact ⟨path, target, .of_resolved htype hname hne hpath hfound⟩
  · intro hrefused
    obtain ⟨leaf, hleaf, -⟩ := rejects_of_refused options n hrefused
    rw [h] at hleaf
    cases hleaf

end Compile

namespace Compiler

open Compile Step

variable {options : CompilerOptions} {whole whole' : Json} {fields raw raw' f node : RawSchema}
  {r r' r₁ u v w : Registry} {name fresh : String} {top : TopSchema} {c : Schema}

/-- While a whole schema is compiled a reference comes up that is refused. -/
def Refuses (c : Compiler) (whole : Json) : Prop :=
  ∃ r raw r' node, Starts c whole r raw ∧ Nests r raw r' node ∧ Refused r' node

theorem exists_compileDepth (whole : Json) : ∃ n, compileDepth whole = n + 1 :=
  Nat.exists_eq_add_one.2 (Nat.mul_pos (Nat.succ_pos _) (Nat.succ_pos _))

theorem rejects_of_refuses (hwhole : whole.SortedKeys) (h : (builtin options).Refuses whole) :
    Rejects ((builtin options).compile whole).errors := by
  obtain ⟨r, raw, r', node, hstarts, hnests, hrefused⟩ := h
  obtain ⟨n, hn⟩ := exists_compileDepth whole
  refine rejects_iff_not_leaves.2 (shows_compile options hstarts
    (shows_of_nests hnests (hstarts.inBounds hwhole) (Nat.le_refl _) ?_))
  rw [hn]
  exact rejects_iff_not_leaves.1 (rejects_of_refused options n hrefused)

theorem kept_of_value? (hwhole : whole.SortedKeys)
    (h : ((builtin options).compile whole).value? = some top)
    (hstarts : Starts (builtin options) whole r raw) (hnests : Nests r raw r₁ node) :
    Resolves r₁ node ∧ ¬ Refused r₁ node := by
  obtain ⟨n, hn⟩ := exists_compileDepth whole
  obtain ⟨_, -, _, hnode, -⟩ := (keepsWhole options hwhole r raw r₁ node hstarts hnests).node
    top.roots (by rw [h]; rfl)
  rw [hn] at hnode
  exact kept_of_errors (Outcome.value?_eq_some.1 hnode).1

/-- What two whole schemas start with compiles to the same if it is akin. -/
theorem exists_ends_akin (hwhole : whole.SortedKeys) (hwhole' : whole'.SortedKeys)
    (hvalue : ((builtin options).compile whole).value? = some top)
    (hkept : ¬ (builtin options).Refuses whole') (hstarts : Starts (builtin options) whole r raw)
    (hstarts' : Starts (builtin options) whole' r' raw') (h : Companion r r')
    (hakin : Akin raw raw') (hu : u.Alike r)
    (hends : ((builtin options).compileWithin (compileDepth whole) raw).Ends u (some c) v)
    (hw : w.Alike r') :
    ∃ w', ((builtin options).compileWithin (compileDepth whole') raw').Ends w (some c) w' ∧
      w'.Alike r' := by
  let n := max (compileDepth whole) (compileDepth whole')
  have hfirst : ((builtin options).compileWithin (compileDepth whole) raw u).1 =
      ((builtin options).compileWithin n raw r).1 :=
    (hstarts.inBounds hwhole).outcome_eq (Nat.le_max_left _ _) hu
  have hsecond : ((builtin options).compileWithin (compileDepth whole') raw' w).1 =
      ((builtin options).compileWithin n raw' r').1 :=
    (hstarts'.inBounds hwhole').outcome_eq (Nat.le_max_right _ _) hw
  have hagree : ((builtin options).compileWithin n raw r).1 =
      ((builtin options).compileWithin n raw' r').1 := by
    refine (agree_akin options n h hakin (hstarts.ordered hwhole) (hstarts'.ordered hwhole')
      (fun r₁ node hnests => kept_of_value? hwhole hvalue hstarts hnests)
      (fun r₁ node hnests hrefused => ?_) r r' ⟨.refl r, .refl r'⟩).1.eq
    exact hkept ⟨r', raw', r₁, node, hstarts', hnests, hrefused⟩
  have hsame := hsecond.trans (hagree.symm.trans hfirst.symm)
  have hends' : ((builtin options).compileWithin (compileDepth whole') raw').Ends w (some c) _ :=
    ⟨hsame ▸ hends.1, hsame ▸ hends.2.1, rfl⟩
  exact ⟨_, hends', (steady_context options _ hends').1.trans hw⟩

/-- A definition of a whole schema has no id, and may be given one that stands for nothing. -/
structure Identifiable (c : Compiler) (whole : Json) (name id : String) : Prop where
  sorted : whole.SortedKeys
  unidentified : ∃ f, whole.definition? name = some f ∧ Json.present (f.get? "$id") = none
  fresh : (c.registry whole).resolve id = none

theorem normalize_identified (hfields : normalize whole = .ok fields)
    (hwhole : (whole.definition? name).isSome = true) :
    normalize (whole.identified name fresh) =
      .ok (fields.modify "definitions" (·.identifyIn name fresh)) := by
  cases whole with
  | obj => rw [← Except.ok.inj hfields]; rfl
  | null | bool | num | str | arr => cases hwhole

theorem wholeId_identified (whole : Json) (name id : String) :
    wholeId (whole.identified name id) = wholeId whole := by
  cases whole with
  | obj fields =>
    show registeredId (Dict.modify fields "definitions" _) = registeredId fields
    rw [registeredId, Dict.get?_modify, if_neg (by decide)]
    rfl
  | null | bool | num | str | arr => rfl

namespace Identifiable

theorem sorted' {c : Compiler} (h : Identifiable c whole name fresh) :
    (whole.identified name fresh).SortedKeys :=
  sortedKeys_identified h.sorted name fresh

theorem normalize {c : Compiler} (h : Identifiable c whole name fresh)
    (hfields : DataSchema.normalize whole = .ok fields) :
    DataSchema.normalize (whole.identified name fresh) =
      .ok (fields.modify "definitions" (·.identifyIn name fresh)) := by
  obtain ⟨f, hf, -⟩ := h.unidentified
  exact normalize_identified hfields (hf ▸ rfl)

/-- The registry in which one of the definitions has an id. -/
theorem registration (h : Identifiable (builtin options) whole name fresh)
    (hfields : DataSchema.normalize whole = .ok fields) {id : Option String}
    {names : List (String × String)}
    (hreg : (Compile.registration ((builtin options).context (compileDepth whole)) fields).Yields
      .empty (id, names) ((builtin options).registry whole)) :
    (Compile.registration
        ((builtin options).context (compileDepth (whole.identified name fresh)))
        (fields.modify "definitions" (·.identifyIn name fresh))).Yields .empty (id, names)
        ((builtin options).registry (whole.identified name fresh)) ∧
      Identified (options.definitionPathPrefix ++ name) fresh ((builtin options).registry whole)
        ((builtin options).registry (whole.identified name fresh)) := by
  obtain ⟨f, hdefinition, hnone⟩ := h.unidentified
  obtain ⟨fields', definitions, j, rfl, hdefinitions, hj, hf⟩ := definition?_eq_some hdefinition
  obtain rfl : fields' = fields := Except.ok.inj hfields
  have hnodup : (Dict.keys definitions).Nodup := by
    cases Sorted.of_get? h.sorted hdefinitions with
    | obj hsorted _ => exact hsorted.nodup
  obtain ⟨r', hreg', hidentified⟩ := exists_registration hreg h.fresh hdefinitions hnodup hj hf
    (registeredId_eq_none hnone)
  have hoptions : ((builtin options).context (compileDepth (.obj fields'))).options =
      ((builtin options).context
        (compileDepth ((Json.obj fields').identified name fresh))).options := rfl
  rw [registration_congr hoptions] at hreg'
  have hregistry : (builtin options).registry ((Json.obj fields').identified name fresh) = r' :=
    (registry_eq _ rfl).trans (congrArg Prod.snd hreg'.2)
  rw [hregistry]
  exact ⟨hreg', hidentified⟩

/-- **A definition compiles to what it did**, with the id if it is the one that was given it. -/
theorem exists_definition (h : Identifiable (builtin options) whole name fresh)
    (hvalue : ((builtin options).compile whole).value? = some top)
    (hkept : ¬ (builtin options).Refuses (whole.identified name fresh))
    (hidentified : Identified (options.definitionPathPrefix ++ name) fresh
      ((builtin options).registry whole)
      ((builtin options).registry (whole.identified name fresh)))
    {path : String} (hother : wholeId whole ≠ some path) {d : DefinitionSchema}
    (hu : u.Alike ((builtin options).registry whole))
    (hd : (definition ((builtin options).context (compileDepth whole)) path).Yields u (some d) v)
    (hw : w.Alike ((builtin options).registry (whole.identified name fresh))) :
    ∃ w', (definition ((builtin options).context
        (compileDepth (whole.identified name fresh))) path).Yields w
          (some { d with
            id := if path = options.definitionPathPrefix ++ name then some fresh else d.id }) w' ∧
      w'.Alike ((builtin options).registry (whole.identified name fresh)) := by
  have hid := wholeId_identified whole name fresh
  obtain ⟨raw, id, body, _, hraw, hownId, hbody, -, heq⟩ := yields_definition.1 hd
  obtain ⟨schema, rfl, rfl⟩ := Option.map_eq_some_iff.1 heq
  rw [Registry.raw?_congr hu.unmarked] at hraw
  obtain ⟨raw', hraw', hidentifies⟩ := hidentified.exists_raw hraw
  obtain ⟨u', hends, hu'⟩ := exists_ends_akin h.sorted h.sorted' hvalue hkept
    (.definition hother hraw) (.definition (hid ▸ hother) hraw')
    ((hidentified.companion h.fresh).mark path) hidentifies.akin (hu.mark path Iff.rfl) hbody
    (hw.mark path Iff.rfl)
  have hfree : ¬ ((builtin options).registry (whole.identified name fresh)).Busy path :=
    fun hbusy => hother (hid ▸ busy_registry.1 hbusy)
  rw [← Registry.raw?_congr hw.unmarked] at hraw'
  exact ⟨_, yields_definition.2 ⟨raw', _, some schema, u', hraw',
    hidentifies.yields_ownId hownId, hends, rfl, rfl⟩, hu'.restored hfree (by decide)⟩

/-- **The definitions compile to what they did**, up to the id, beside each other. -/
theorem exists_definitions (h : Identifiable (builtin options) whole name fresh)
    (hvalue : ((builtin options).compile whole).value? = some top)
    (hkept : ¬ (builtin options).Refuses (whole.identified name fresh))
    (hidentified : Identified (options.definitionPathPrefix ++ name) fresh
      ((builtin options).registry whole)
      ((builtin options).registry (whole.identified name fresh)))
    (hfields : DataSchema.normalize whole = .ok fields) {names : List (String × String)}
    (hreg : (Compile.registration ((builtin options).context (compileDepth whole)) fields).Yields
      .empty (top.id, names) ((builtin options).registry whole))
    (hds : (definitions ((builtin options).context (compileDepth whole)) names).Yields
      ((builtin options).registry whole) top.definitions u) :
    u.Alike ((builtin options).registry whole) ∧
      ∃ w, (definitions ((builtin options).context
          (compileDepth (whole.identified name fresh))) names).Yields
          ((builtin options).registry (whole.identified name fresh))
          (top.identified name fresh).definitions w ∧
        w.Alike ((builtin options).registry (whole.identified name fresh)) := by
  have hregistered := registered_of_registration hreg
  have hfree : ∀ e ∈ names, ¬ ((builtin options).registry whole).Busy e.2 := fun e he hbusy =>
    hregistered.other e he ((busy_registration hreg e.2).1 hbusy)
  have hown : wholeId whole = top.id := wholeId_of_yields hfields hreg
  obtain ⟨hu, hall⟩ := definitions_runs (steady_context options _) hfree hds
  have hboth := (List.forall₂_and_left names top.definitions).2
    ⟨fun e he => And.intro (hregistered.other e he) (hregistered.path e he), hall⟩
  refine ⟨hu, exists_yields_definitions (List.forall₂_map_right_iff.2 (hboth.imp ?_)) (.refl _)⟩
  rintro ⟨key, path⟩ ⟨key', d⟩ ⟨⟨hother, hpath⟩, hkey, u', v', hu', hd⟩
  obtain rfl : key' = key := hkey
  obtain rfl : path = options.definitionPathPrefix ++ key' := hpath
  rw [← hown] at hother
  have hcompiles := fun w hw =>
    h.exists_definition (w := w) hvalue hkept hidentified hother hu' hd hw
  by_cases hkey : key' = name
  · subst hkey
    simp only [if_true] at hcompiles ⊢
    exact ⟨trivial, hcompiles⟩
  · have hne : options.definitionPathPrefix ++ key' ≠ options.definitionPathPrefix ++ name :=
      fun heq => hkey ((String.append_right_inj _).1 heq)
    simp only [if_neg hkey, if_neg hne] at hcompiles ⊢
    exact ⟨trivial, hcompiles⟩

/-- **A whole schema in which a definition is given an id compiles to the same** up to this id,
unless a reference comes up that is refused. -/
theorem compile (h : Identifiable (builtin options) whole name fresh)
    (hvalue : ((builtin options).compile whole).value? = some top)
    (hkept : ¬ (builtin options).Refuses (whole.identified name fresh)) :
    ((builtin options).compile (whole.identified name fresh)).value? =
      some (top.identified name fresh) := by
  obtain ⟨fields, names, u, v, hfields, hreg, hds, hbody⟩ := runs_of_value? hvalue
  obtain ⟨hreg', hidentified⟩ := h.registration hfields hreg
  obtain ⟨hu, w, hds', hw⟩ := h.exists_definitions hvalue hkept hidentified hfields hreg hds
  obtain ⟨w', hbody', -⟩ := exists_ends_akin h.sorted h.sorted' hvalue hkept (.body hfields)
    (.body (h.normalize hfields)) (hidentified.companion h.fresh)
    (akin_modify (by decide) fields _) hu hbody hw
  have hyields : (Compile.top ((builtin options).context
      (compileDepth (whole.identified name fresh))) (whole.identified name fresh)).Yields .empty
        (some (top.identified name fresh)) w' := by
    rw [top_eq, h.normalize hfields]
    exact yields_bind.2 ⟨_, _, hreg', yields_bind.2 ⟨_, w, hds', yields_bind.2 ⟨_, w',
      yields_merge.2 hbody', yields_pure.2 ⟨rfl, rfl⟩⟩⟩⟩
  have hends := Run.ends_ofStep.2 hyields
  exact Outcome.value?_eq_some.2 ⟨hends.1, hends.2.1⟩

end Identifiable

/-- **Annotations say nothing of what is compiled, unless a recursive reference hands one on.** A
whole schema in which a definition is given an id compiles to the same up to that id, exactly if no
reference comes up that is refused. A property whose name is given a type compiles to the same in
any context, exactly if it is not so that one of the two compiles and references alone lead from the
other to one that is refused. -/
theorem compile_annotated (options : CompilerOptions) :
    (∀ (whole : Json) (name id : String) (top : TopSchema),
      Identifiable (builtin options) whole name id →
      ((builtin options).compile whole).value? = some top →
        (((builtin options).compile (whole.identified name id)).value? =
            some (top.identified name id) ↔
          ¬ (builtin options).Refuses (whole.identified name id)) ∧
        ((builtin options).Refuses (whole.identified name id) →
          Rejects ((builtin options).compile (whole.identified name id)).errors)) ∧
    ∀ (n : Nat) (r : Registry) (f : RawSchema) (required : Bool) (kind : String), Ordered r f →
      let raw := asProperty required f
      let raw' := asProperty required (f.insert "nameType" (.str kind))
      let compiled := fun raw => ((builtin options).compileWithin n raw r).1
      SameSchema (compiled raw) (compiled raw') ↔
        ((compiled raw).errors = [] → ¬ LeadsToRefused r raw') ∧
          ((compiled raw').errors = [] → ¬ LeadsToRefused r raw) := by
  constructor
  · intro whole name id top h hvalue
    have hrejects : (builtin options).Refuses (whole.identified name id) →
        Rejects ((builtin options).compile (whole.identified name id)).errors :=
      rejects_of_refuses h.sorted'
    refine ⟨⟨fun hvalue' hrefuses => ?_, h.compile hvalue⟩, hrejects⟩
    obtain ⟨leaf, hleaf, -⟩ := hrejects hrefuses
    rw [(Outcome.value?_eq_some.1 hvalue').1] at hleaf
    cases hleaf
  · intro n r f required kind hf
    have hf' : Sorted (f.insert "nameType" (.str kind)) := hf.sorted.insert _ (.str kind)
    have hakin : Akin f (f.insert "nameType" (.str kind)) := akin_insert (by decide) f _
    exact sameSchema_iff options n (hakin.asProperty hf.sorted hf' required)
      ⟨hf.sorted.asProperty required, hf.sortedRaws⟩ ⟨hf'.asProperty required, hf.sortedRaws⟩

/-- Lists of such lists. -/
def nestedLists : Json :=
  .obj [("$ref", .str "#/definitions/list"),
    ("definitions", .obj [("list", .obj [("items", .obj (referenceTo "list")),
      ("type", .str "array")])]),
    ("type", .str "ref")]

/-- A list of what is a list again. -/
def nestedList : Schema := .ofKind (.array (.ofKind (.ref "#/definitions/list")) false)

set_option maxRecDepth 20000 in
/-- A definition that refers to itself is given an id, and a reference to it a type of its name. -/
theorem compile_annotated_lists :
    ((builtin {}).compile (nestedLists.identified "list" "list")).value? =
        some ⟨none, [("list", ⟨some "list", nestedList⟩)], nestedList⟩ ∧
      SameSchema
        ((builtin {}).compileWithin 3 (asProperty true (referenceTo "list"))
          ((builtin {}).registry nestedLists)).1
        ((builtin {}).compileWithin 3
          (asProperty true (Dict.insert (referenceTo "list") "nameType" (.str "regex")))
          ((builtin {}).registry nestedLists)).1 := by
  have hidentifiable : Identifiable (builtin {}) nestedLists "list" "list" :=
    ⟨by decide, ⟨_, rfl, rfl⟩, rfl⟩
  have hvalue : ((builtin {}).compile nestedLists).value? =
      some ⟨none, [("list", ⟨none, nestedList⟩)], nestedList⟩ := rfl
  have hordered : Ordered ((builtin {}).registry nestedLists) (referenceTo "list") :=
    ⟨(by decide : Json.SortedKeys (.obj (referenceTo "list"))), fun _ _ hfound =>
      sorted_registry (builtin {}) hidentifiable.sorted hfound⟩
  obtain ⟨hwhole, hproperty⟩ := compile_annotated {}
  obtain ⟨hsame, hrejects⟩ := hwhole nestedLists "list" "list" _ hidentifiable hvalue
  refine ⟨hsame.2 fun hrefuses => ?_, (hproperty 3 _ _ true "regex" hordered).2
    ⟨fun _ h => ?_, fun _ h => ?_⟩⟩
  · obtain ⟨leaf, hleaf, -⟩ := hrejects hrefuses
    cases hleaf
  · exact errors_of_leadsToRefused {} 3 h rfl
  · exact errors_of_leadsToRefused {} 3 h rfl

/-- A reference to a node. -/
def toNode : RawSchema := [("$ref", .str "#/node"), ("type", .str "ref")]

/-- A node with a definition that is a reference to the node. -/
def nodeDefining : Json :=
  .obj [("$id", .str "#/node"), ("definitions", .obj [("alias", .obj toNode)]),
    ("type", .str "object")]

set_option maxRecDepth 20000 in
/-- A recursive reference that is a definition is rejected if it is given an id, and one that is a
property if its name is given a type. -/
theorem annotated_rejected :
    (Identifiable (builtin {}) nodeDefining "alias" "fresh" ∧
      ((builtin {}).compile nodeDefining).value?.isSome = true ∧
      ((builtin {}).compile (nodeDefining.identified "alias" "fresh")).value? = none ∧
      Rejects ((builtin {}).compile (nodeDefining.identified "alias" "fresh")).errors) ∧
    let raw' := Dict.insert toNode "nameType" (.str "string")
    ((builtin {}).compileWithin 1 toNode (nodeRegistry toNode)).1.errors = [] ∧
      Rejects ((builtin {}).compileWithin 1 raw' (nodeRegistry toNode)).1.errors ∧
      ((builtin {}).compile (.obj (nodeHolding toNode))).value?.isSome = true ∧
      Rejects ((builtin {}).compile (.obj (nodeHolding raw'))).errors := by
  have hdefinition : Diagnostic.flattenAll
      ((builtin {}).compile (nodeDefining.identified "alias" "fresh")).errors =
        [rejectedError (some "alias") "$id"] := by decide
  have hproperty : Diagnostic.flattenAll ((builtin {}).compile
      (.obj (nodeHolding (Dict.insert toNode "nameType" (.str "string"))))).errors =
        [rejectedError (some "next") "nameType"] := by decide
  have hrefused : Refused (nodeRegistry toNode)
      (Dict.insert toNode "nameType" (.str "string")) :=
    ⟨"#/node", nodeHolding toNode, ⟨rfl, rfl⟩, by decide, by unfold IsReference; decide, by decide⟩
  exact ⟨⟨⟨by decide, ⟨_, rfl, rfl⟩, rfl⟩, rfl, rfl, rejects_of_flatten hdefinition⟩,
    rfl, rejects_of_refused {} 0 hrefused, rfl, rejects_of_flatten hproperty⟩

end Compiler

end DataSchema
