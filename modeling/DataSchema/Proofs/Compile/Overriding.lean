import DataSchema.Proofs.Compile.Circular

/-!
# What a recursive reference overrides

A recursive reference stays and carries only whether data is required and what its default is, so
what else it overrides would be lost. `rejectedOverrides` compares the overrides key by key with the
definition; merging them (`inherit`) is the other account of the same thing.

**Theorem (`rejected_iff`).** A recursive reference to a definition of a type of its own is rejected
exactly if merging changes the definition at a key other than `required` and `default`
(`Changes`), or if the reference sets such a key to `null` and the definition has another value, or
none, there (`Clears`). Merging takes a field that is `null` as not set, so what is cleared does not
change: it is rejected nevertheless. Without such fields the two accounts agree.
-/

namespace DataSchema

namespace Compile

variable {raw target more : RawSchema} {r : Registry} {path key name : String}

/-! ## Two accounts of overriding -/

/-- Merging changes the definition at a key that a recursive reference cannot override. -/
def Changes (target more : RawSchema) (key : String) : Prop :=
  key ≠ "required" ∧ key ≠ "default" ∧
    Json.sameOption (target.get? key) ((inherit target more).get? key) = false

/-- A key that a recursive reference cannot override is set to `null`, and is not `null` in the
definition. -/
def Clears (target more : RawSchema) (key : String) : Prop :=
  key ≠ "required" ∧ key ≠ "default" ∧ more.get? key = some .null ∧
    target.get? key ≠ some .null

theorem sameOption_null (j : Option Json) :
    Json.sameOption j (some .null) = true ↔ j = some .null := by
  rcases j with _ | (_ | _ | _ | _ | _ | _) <;> simp [Json.sameOption, Json.same]

theorem mem_rejectedOverrides (hnodup : (Dict.keys more).Nodup) :
    key ∈ rejectedOverrides target more ↔
      key ≠ "required" ∧ key ≠ "default" ∧ ∃ value, more.get? key = some value ∧
        Json.sameOption (target.get? key) (some value) = false := by
  unfold rejectedOverrides Dict.keys
  simp only [List.mem_map, List.mem_filter, Bool.and_eq_true, decide_eq_true_eq, Bool.not_eq_true']
  constructor
  · rintro ⟨⟨_, value⟩, ⟨hmem, ⟨hrequired, hdefault⟩, hsame⟩, rfl⟩
    exact ⟨hrequired, hdefault, value, Dict.get?_of_mem hnodup hmem, hsame⟩
  · rintro ⟨hrequired, hdefault, value, hget, hsame⟩
    exact ⟨(key, value), ⟨Dict.mem_of_get? hget, ⟨hrequired, hdefault⟩, hsame⟩, rfl⟩

/-- **Both accounts, key by key.** A key is rejected if merging changes it, or if it is cleared. -/
theorem mem_rejectedOverrides_iff (hnodup : (Dict.keys more).Nodup) :
    key ∈ rejectedOverrides target more ↔ Changes target more key ∨ Clears target more key := by
  rw [mem_rejectedOverrides hnodup, Changes, Clears, get?_inherit hnodup]
  cases hget : more.get? key with
  | none => simp [Json.present, Json.sameOption_refl]
  | some value =>
    by_cases hnull : value = .null
    · subst hnull
      simp [Json.present, Json.sameOption_refl, ← sameOption_null]
    · rw [Json.present_of_ne_null (by simpa using hnull)]
      simp [hnull]

/-! ## The error -/

/-- An error says that a recursive reference overrides what it cannot. -/
def Rejects (errors : List Diagnostic) : Prop :=
  ∃ leaf ∈ Diagnostic.flattenAll errors, Opens recursiveWords leaf.constraint leaf.reason

theorem rejects_iff_not_leaves {errors : List Diagnostic} :
    Rejects errors ↔ ¬ Diagnostic.Leaves (Avoids recursiveWords) errors := by
  simp only [Rejects, Diagnostic.Leaves, Avoids, not_forall, not_not, exists_prop]

/-- A recursive reference to a definition of a type of its own is rejected exactly if it overrides
what it cannot. -/
theorem rejects_recursive (htarget : ¬ IsReference target) :
    Rejects (recursive name target more).errors ↔ rejectedOverrides target more ≠ [] := by
  rw [rejects_iff_not_leaves]
  unfold recursive
  split
  · next htype => exact absurd (typeName?_eq_some.2 ⟨htype, by decide⟩) htarget
  · cases hrejected : rejectedOverrides target more with
    | nil =>
      have hkept : ∀ make : Bool → Option Schema,
          (required (inherit target more) >>= fun flag => pure (make flag)).Ensures
            (Avoids recursiveWords) fun _ => True := fun make =>
        (ensures_required (onReferences_avoids recursiveWords)).bind fun _ _ =>
          Noted.ensures_pure trivial
      exact iff_of_false (not_not_intro (hkept _).1) (not_not_intro rfl)
    | cons first rest =>
      refine iff_of_true (fun hleaves => Diagnostic.leaves_of.1
        (Diagnostic.leaves_append.1 hleaves).1 ?_) (List.cons_ne_nil _ _)
      rw [String.append_assoc, String.append_assoc, String.append_assoc]
      exact opens_append recursiveWords _

/-- A reference to a definition that is being compiled reports what `recursive` does. -/
theorem errors_reference_busy (ctx : Context) (hrefers : Refers r raw path target)
    (hbusy : r.Busy path) :
    ∃ name, (reference ctx raw r).errors = (recursive name target (overrides raw)).errors := by
  obtain ⟨name, state, hstate, happly⟩ :=
    hrefers.reference_apply ctx (rfl : r.unmarked = r.unmarked)
  obtain rfl : state = .compiling := Option.some.inj (hstate.symm.trans hbusy)
  rw [happly, if_pos rfl]
  exact ⟨name, List.append_nil _⟩

/-- **When a recursive reference is rejected.** It is if merging changes the definition at a key
other than `required` and `default`, or if it clears one; so the two accounts of overriding agree
on references that clear nothing. -/
theorem rejected_iff (ctx : Context) (hnodup : (Dict.keys raw).Nodup)
    (hrefers : Refers r raw path target) (hbusy : r.Busy path) (htarget : ¬ IsReference target) :
    (Rejects (reference ctx raw r).errors ↔
      ∃ key, Changes target (overrides raw) key ∨ Clears target (overrides raw) key) ∧
    ((∀ key, ¬ Clears target (overrides raw) key) →
      (Rejects (reference ctx raw r).errors ↔ ∃ key, Changes target (overrides raw) key)) := by
  have hoverrides : (Dict.keys (overrides raw)).Nodup := hnodup.sublist (List.filter_sublist.map _)
  have hiff : Rejects (reference ctx raw r).errors ↔
      ∃ key, Changes target (overrides raw) key ∨ Clears target (overrides raw) key := by
    obtain ⟨name, herrors⟩ := errors_reference_busy ctx hrefers hbusy
    rw [herrors, rejects_recursive htarget, ← List.isEmpty_eq_false_iff,
      List.isEmpty_eq_false_iff_exists_mem]
    exact exists_congr fun key => mem_rejectedOverrides_iff hoverrides
  refine ⟨hiff, fun hkept => hiff.trans (exists_congr fun key => ?_)⟩
  exact or_iff_left (hkept key)

/-! ## A node that holds itself -/

/-- A reference to a node, with a field that it overrides. -/
def nextNode (field : String) (value : Json) : RawSchema :=
  [("$ref", .str "#/node"), (field, value), ("type", .str "ref")]

/-- A node with a property that refers to the node itself. -/
def nodeHolding (next : RawSchema) : RawSchema :=
  [("$id", .str "#/node"), ("properties", .obj [("next", .obj next)]), ("type", .str "object")]

/-- What is registered when a node that holds itself is compiled. -/
def nodeRegistry (next : RawSchema) : Registry :=
  (Compiler.builtin {}).registry (.obj (nodeHolding next))

/-- How the schemas in a node that holds itself are compiled. -/
def nodeContext (next : RawSchema) : Context :=
  (Compiler.builtin {}).context (Compiler.compileDepth (.obj (nodeHolding next)))

/-- Additional properties are allowed by the reference, and not by the node. -/
theorem rejected_iff_additional :
    let next := nextNode "allowAdditionalProperties" (.bool true)
    Refers (nodeRegistry next) next "#/node" (nodeHolding next) ∧
      (nodeRegistry next).Busy "#/node" ∧ ¬ IsReference (nodeHolding next) ∧
      Rejects (reference (nodeContext next) next (nodeRegistry next)).errors := by
  intro next
  have hrefers : Refers (nodeRegistry next) next "#/node" (nodeHolding next) := ⟨rfl, rfl⟩
  have hbusy : (nodeRegistry next).Busy "#/node" := by decide
  have htype : ¬ IsReference (nodeHolding next) := by
    unfold IsReference
    decide
  have hchanges : Changes (nodeHolding next) (overrides next) "allowAdditionalProperties" :=
    ⟨by decide, by decide, rfl⟩
  exact ⟨hrefers, hbusy, htype,
    (rejected_iff (nodeContext next) (by decide) hrefers hbusy htype).1.2 ⟨_, .inl hchanges⟩⟩

/-- The error on a reference to the node that overrides a field. -/
def rejectedError (property : Option String) (field : String) : FlatDiagnostic :=
  ⟨"$ref", property, recursiveWords ++
    ("#/node) only accepts required and default overrides, but got [" ++ field ++ "].")⟩

theorem rejects_of_flatten {errors : List Diagnostic} {property : Option String} {field : String}
    (h : Diagnostic.flattenAll errors = [rejectedError property field]) : Rejects errors := by
  refine ⟨rejectedError property field, h ▸ List.mem_cons_self, ?_⟩
  exact opens_append recursiveWords _

set_option maxRecDepth 20000 in
/-- The reference sets to `null` what the node does not set. Merging changes nothing, and the
reference is rejected. -/
theorem cleared_rejected :
    let next := nextNode "silentIgnore" .null
    Refers (nodeRegistry next) next "#/node" (nodeHolding next) ∧
      (nodeRegistry next).Busy "#/node" ∧ ¬ IsReference (nodeHolding next) ∧
      (∀ key, ¬ Changes (nodeHolding next) (overrides next) key) ∧
      Rejects (reference (nodeContext next) next (nodeRegistry next)).errors ∧
      Rejects ((Compiler.builtin {}).compile (.obj (nodeHolding next))).errors := by
  intro next
  have hmerged : inherit (nodeHolding next) (overrides next) = nodeHolding next := rfl
  have hreference : Diagnostic.flattenAll
      (reference (nodeContext next) next (nodeRegistry next)).errors =
        [rejectedError none "silentIgnore"] := by
    decide
  have hcompile : Diagnostic.flattenAll
      ((Compiler.builtin {}).compile (.obj (nodeHolding next))).errors =
        [rejectedError (some "next") "silentIgnore"] := by
    decide
  refine ⟨⟨rfl, rfl⟩, by decide, by unfold IsReference; decide, fun key hchanges => ?_,
    rejects_of_flatten hreference, rejects_of_flatten hcompile⟩
  have hsame := hchanges.2.2
  rw [hmerged, Json.sameOption_refl] at hsame
  cases hsame

end Compile

end DataSchema
