import DataSchema.Proofs.Compile.Expanded
import DataSchema.Proofs.Compile.Terminates

/-!
# Registering expanded definitions

A whole schema and its expansion are registered step by step beside each other: under the same
paths and ids, with the same errors, and with the definitions of one being those of the other,
expanded (`agree_registration`). Expansion changes no id (`present_id_expandWithin`), so a name
stands for the same definition in both registries.
-/

namespace DataSchema

namespace Compile

open Step

variable {r r' : Registry} {raw raw' target : RawSchema} {path : String} {own : Option String}
  {g : RawSchema → RawSchema} {ctx : Context} {view : View}

/-! ## Registering -/

/-- A registry with the definitions of another, expanded. Of the whole schema, which is registered
under its own id, nothing is said. -/
structure Twin (own : Option String) (g : RawSchema → RawSchema) (r r' : Registry) : Prop where
  ids : r'.ids = r.ids
  raws : ∀ path, Option.Rel (fun f f' => own = some path ∨ f' = g f) (r.raw? path) (r'.raw? path)

theorem twin_empty (own : Option String) (g : RawSchema → RawSchema) :
    Twin own g .empty .empty where
  ids := rfl
  raws _ := .none

theorem Twin.contains (h : Twin own g r r') (path : String) :
    r'.entries.contains path = r.entries.contains path := by
  have hcontains : ∀ r : Registry, r.entries.contains path = (r.raw? path).isSome := by
    intro r
    rw [Registry.raw?, Option.isSome_map]
    rfl
  rw [hcontains, hcontains]
  exact Dict.isSome_of_rel (h.raws path)

theorem Twin.raw? (h : Twin own g r r') (hpath : own ≠ some path) :
    r'.raw? path = (r.raw? path).map g := by
  have hraw := h.raws path
  generalize r.raw? path = f at hraw
  generalize r'.raw? path = f' at hraw
  cases hraw with
  | none => rfl
  | some hf => exact congrArg some (hf.resolve_left hpath)

theorem Twin.mark (h : Twin own g r r') (path : String) (state : DefinitionState) :
    Twin own g r (r'.mark path state) where
  ids := h.ids
  raws other := by
    rw [Registry.raw?_mark]
    exact h.raws other

theorem Twin.congr {s : Registry} (h : Twin own g r r') (hs : r.unmarked = s.unmarked) :
    Twin own g s r' where
  ids := by
    have hids : r.unmarked.ids = s.unmarked.ids := congrArg Registry.ids hs
    exact h.ids.trans hids
  raws other := by
    rw [← Registry.raw?_congr hs]
    exact h.raws other

theorem Twin.insert (h : Twin own g r r') (ids : Dict String) (id : Option String)
    (hraw : own = some path ∨ raw' = g raw) :
    Twin own g ⟨r.entries.insert path ⟨raw, id, .pending⟩, ids⟩
      ⟨r'.entries.insert path ⟨raw', id, .pending⟩, ids⟩ where
  ids := rfl
  raws other := by
    rw [Registry.raw?, Registry.raw?, Dict.get?_insert, Dict.get?_insert]
    by_cases hpath : path = other
    · rw [if_pos hpath, if_pos hpath]
      exact .some (hpath ▸ hraw)
    · rw [if_neg hpath, if_neg hpath]
      exact h.raws other

/-- What is registered beside each other succeeds or fails with the same error. -/
theorem Twin.add (h : Twin own g r r') (hraw : own = some path ∨ raw' = g raw)
    (id : Option String) :
    (∃ error, r.add path raw id = .error error ∧ r'.add path raw' id = .error error) ∨
      ∃ s s', r.add path raw id = .ok s ∧ r'.add path raw' id = .ok s' ∧ Twin own g s s' := by
  unfold Registry.add
  rw [h.contains]
  split
  · exact .inl ⟨_, rfl, rfl⟩
  · cases id with
    | none => exact .inr ⟨_, _, rfl, rfl, h.ids ▸ h.insert r'.ids none hraw⟩
    | some id =>
      dsimp only
      rw [h.contains, h.ids]
      split
      · exact .inl ⟨_, rfl, rfl⟩
      · exact .inr ⟨_, _, rfl, rfl, h.insert _ _ hraw⟩

theorem agree_register (hraw : own = some path ∨ raw' = g raw) (id : Option String)
    (complaint : RegistryError → Diagnostic) :
    Agree view (Twin own g) (register path raw id complaint) (register path raw' id complaint) := by
  unfold register
  refine agree_get_bind fun s t hst => ?_
  obtain ⟨error, hs, ht⟩ | ⟨s', t', hs, ht, htwin⟩ := hst.add hraw id
  · rw [hs, ht]
    exact ((agree_noteError _).bind fun _ => agree_pure _) s t hst
  · rw [hs, ht]
    exact Noted.agree_pure ⟨rfl, htwin⟩

theorem registeredId_congr
    (h : Json.present (raw'.get? "$id") = Json.present (raw.get? "$id")) :
    registeredId raw' = registeredId raw := by
  have hpresent : ∀ raw : RawSchema,
      registeredId raw = (Json.present (raw.get? "$id")).bind Json.str? := by
    intro raw
    unfold registeredId
    generalize raw.get? "$id" = id
    cases id with
    | none => rfl
    | some id => cases id <;> rfl
  rw [hpresent, hpresent, h]

theorem ownId_congr (h : Json.present (raw'.get? "$id") = Json.present (raw.get? "$id")) :
    ownId raw' = ownId raw := by
  rw [ownId, ownId, ← coerce_string_present, h, coerce_string_present]

theorem agree_registerEach (hg : KeepsShort g) {fields : List (String × Json)}
    (hid : ∀ e ∈ fields, ∀ f, normalize e.2 = .ok f →
      Json.present ((g f).get? "$id") = Json.present (f.get? "$id")) :
    Agree view (Twin own g) (registerEach ctx fields)
      (registerEach ctx (fields.map fun e => (e.1, RawSchema.mapFields g e.2))) := by
  induction fields with
  | nil => exact agree_pure _
  | cons e rest ih =>
    obtain ⟨name, j⟩ := e
    have hrest := ih fun e he => hid e (List.mem_cons_of_mem _ he)
    rw [List.map_cons, registerEach, registerEach]
    cases hj : normalize j with
    | error d =>
      rw [mapFields_of_error hj, hj]
      exact (agree_noteError _).bind fun _ => hrest
    | ok f =>
      have hsame : registeredId (g f) = registeredId f :=
        registeredId_congr (hid _ List.mem_cons_self f hj)
      rw [normalize_mapFields hg hj]
      refine Agree.bind ?_ fun registered => hrest.bind fun others => agree_pure _
      show Agree view _ (register _ f (registeredId f) _) (register _ (g f) (registeredId (g f)) _)
      rw [hsame]
      exact agree_register (.inr rfl) _ _

theorem registerDefinitions_eq (ctx : Context) (raw : RawSchema) :
    registerDefinitions ctx raw = match Json.present (raw.get? "definitions") with
      | none => return []
      | some (.obj fields) => registerEach ctx fields
      | some other => do
        noteError (.of "definitions"
          ("definitions must be an object, but got (" ++ Json.shown (some other) ++ ")."))
        return [] := by
  unfold registerDefinitions
  generalize raw.get? "definitions" = j
  cases j with
  | none => rfl
  | some j => cases j <;> rfl

/-- Whole schemas are registered alike if the definitions of one are those of the other, expanded.
-/
theorem agree_registration (hg : KeepsShort g)
    (hid : Json.present (raw'.get? "$id") = Json.present (raw.get? "$id"))
    (hdefinitions : Json.present (raw'.get? "definitions") =
      (Json.present (raw.get? "definitions")).map (RawSchema.mapNamed g))
    (hids : ∀ part ∈ raw.named "definitions", ∀ f, normalize part = .ok f →
      Json.present ((g f).get? "$id") = Json.present (f.get? "$id")) :
    Agree view (Twin (registeredId raw) g) (registration ctx raw) (registration ctx raw') := by
  have htop : Agree view (Twin (registeredId raw) g) (registerTop (registeredId raw) raw)
      (registerTop (registeredId raw) raw') := by
    cases registeredId raw with
    | none => exact agree_pure _
    | some id =>
      refine (agree_register (.inl rfl) _ _).bind fun registered => ?_
      split
      · exact agree_modify fun s _ h => (h.mark id .compiling).congr
          (Registry.unmarked_mark s id .compiling).symm
      · exact agree_pure _
  have hdefs : Agree view (Twin (registeredId raw) g) (registerDefinitions ctx raw)
      (registerDefinitions ctx raw') := by
    rw [registerDefinitions_eq, registerDefinitions_eq, hdefinitions]
    cases hj : Json.present (raw.get? "definitions") with
    | none => exact agree_pure _
    | some j => cases j with
      | obj fields =>
        refine agree_registerEach hg fun e he f hf => hids e.2 ?_ f hf
        rw [RawSchema.named, Json.eq_some_of_present hj]
        exact List.mem_map_of_mem he
      | null | bool | num | str | arr => exact (agree_noteError _).bind fun _ => agree_pure _
  unfold registration
  rw [ownId_congr hid]
  refine (agree_lift _).bind_gives fun id hgives => ?_
  obtain rfl : id = registeredId raw := (gives_lift hgives).trans (result_ownId raw)
  exact htop.bind fun _ => hdefs.bind fun names => agree_pure _

/-- Without definitions no more is registered than the schema itself. -/
theorem own_of_registered (h : Json.present (raw.get? "definitions") = none)
    (hfound : (registration ctx raw .empty).result.2.raw? path = some target) :
    registeredId raw = some path := by
  have hregistration : (registration ctx raw .empty).result.2 =
      (registerTop (registeredId raw) raw .empty).result.2 := by
    rw [← result_ownId, registration, registerDefinitions_eq, h]
    rfl
  rw [hregistration] at hfound
  cases hid : registeredId raw with
  | none =>
    rw [hid] at hfound
    cases hfound
  | some id =>
    have hstate : ∀ (registered : Bool) (s : Registry),
        ((if registered then modify (·.mark id .compiling) else pure () : Compiling Unit)
          s).result.2.raw? path = s.raw? path := by
      intro registered s
      cases registered with
      | false => rfl
      | true => exact Registry.raw?_mark s id .compiling path
    rw [hid] at hfound
    have hregister : (register id raw (some id) (fun e => .of "$id" e.message)
        .empty).result.2.raw? path = some target := (hstate _ _).symm.trans hfound
    rw [state_register] at hregister
    split at hregister
    · next registry hadd =>
      obtain ⟨-, -, hentries, -⟩ := Registry.add_eq_ok hadd
      rw [Registry.raw?, hentries] at hregister
      split at hregister
      · next hpath => rw [hpath]
      · cases hregister
    · cases hregister

end Compile

end DataSchema
