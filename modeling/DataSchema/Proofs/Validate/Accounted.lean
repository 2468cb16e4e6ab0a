import DataSchema.Proofs.Agree
import DataSchema.Proofs.Validate.Required

/-!
# What becomes of the properties of an object

**Theorem (`accounted_of_accepted`).** An object is accepted whose schema does not drop properties
in silence. Then each property of the input is in the output, or a warning says that it was dropped,
or it is `null` and takes the place of missing data; and the output has no property that is neither
in the input nor declared.

A property that is declared, or that a pattern matches, is dropped without a word if its schema
gives no value. By `contains_iff_supplied` that happens to `null` only. For the other properties we
follow the warning (`Warns`) from where it is noted up to the outcome, past all that is validated
before.
-/

namespace DataSchema

variable {σ α β : Type}

/-! ## Warnings of steps -/

namespace Step

/-- Some warning of the step satisfies a property. -/
def Warns (P : Diagnostic → Prop) (step : Step σ α) (s : σ) : Prop :=
  ∃ w ∈ (step s).warnings, P w

variable {P : Diagnostic → Prop} {x : Step σ α} {f : α → Step σ β} {s t : σ}

theorem warns_noteWarning {d : Diagnostic} (h : P d) (s : σ) :
    Warns P (noteWarning d : Step σ Unit) s :=
  ⟨d, List.mem_cons_self, h⟩

theorem Warns.bind (h : Warns P x s) (f : α → Step σ β) : Warns P (x >>= f) s := by
  obtain ⟨w, hw, hp⟩ := h
  exact ⟨w, List.mem_append_left _ hw, hp⟩

/-- A warning of a later step is one of the sequence. -/
theorem Yields.warns_bind {a : α} (hx : x.Yields s a t) (h : Warns P (f a) t) :
    Warns P (x >>= f) s := by
  obtain ⟨w, hw, hp⟩ := h
  refine ⟨w, ?_, hp⟩
  rw [bind_apply, Noted.bind_def, hx.2]
  exact List.mem_append_right _ hw

end Step

namespace Validate

open Step

variable {ctx : Context} {s : Schema} {data : Option Json} {depth t : Nat} {o : ObjectSchema}
  {name : String}

/-- A warning that an additional property is dropped. -/
inductive NotesDropped (name : String) : Diagnostic → Prop
  | undefined : NotesDropped name
      { constraint := "properties"
        property := some name
        reason :=
          "property(" ++ name ++ ") is not defined, ignored (allowAdditionalProperties is false)."
        traces := [] }
  | misnamed (traces : List Diagnostic) : NotesDropped name
      { constraint := "propertyNames"
        property := some name
        reason := "property(" ++ name ++ ") does not satisfy propertyNames, ignored."
        traces }

/-- What may become of a property of the input. -/
inductive Accounted (o : ObjectSchema) (output : Dict Json) (warnings : List Diagnostic)
    (name : String) (value : Json) : Prop
  | kept (kept : output.contains name = true)
  | noted {w : Diagnostic} (mem : w ∈ warnings) (dropped : NotesDropped name w)
  | null (null : value = .null)
      (known : isDeclared o name = true ∨ ∃ schema, patternProperty? o name = some schema)

/-! ## Additional properties -/

theorem warns_noteDropped {P : Diagnostic → Prop} {d : Diagnostic} (hloud : o.silentIgnore = false)
    (h : P d) (depth : Nat) : Warns P (noteDropped o d) depth := by
  unfold noteDropped
  rw [if_pos (by simp [hloud])]
  exact warns_noteWarning h depth

/-- What is not kept is noted. -/
theorem warns_keepsAdditional (hloud : o.silentIgnore = false)
    (h : (keepsAdditional ctx o name).Yields depth false t) :
    Warns (NotesDropped name) (keepsAdditional ctx o name) depth := by
  unfold keepsAdditional at *
  split at h
  · next hforbidden =>
    rw [if_pos hforbidden]
    exact (warns_noteDropped hloud .undefined depth).bind _
  · next hallowed =>
    rw [if_neg hallowed]
    split at h
    · cases (yields_pure.1 h).1
    · obtain ⟨checked, u, hchecked, hrest⟩ := yields_bind.1 h
      refine hchecked.warns_bind ?_
      split at hrest
      · cases (yields_pure.1 hrest).1
      · next hfails =>
        rw [if_neg hfails]
        exact (warns_noteDropped hloud (.misnamed checked.errors) u).bind _

theorem keeps_or_warns (hn : ctx.Framed) (hloud : o.silentIgnore = false) {value : Json}
    {entries : List (String × Json)} {output output' : Dict Json} (hmem : (name, value) ∈ entries)
    (hfree : isDeclared o name = false) (hunmatched : patternProperty? o name = none)
    (h : (others ctx o entries output).Yields depth output' t) :
    KeepsAdditional ctx depth o name ∨
      Warns (NotesDropped name) (others ctx o entries output) depth := by
  induction entries generalizing output with
  | nil => cases hmem
  | cons e rest ih =>
    obtain ⟨first, given⟩ := e
    unfold others at h ⊢
    by_cases hdeclared : isDeclared o first = true
    · rw [if_pos hdeclared] at h ⊢
      rcases List.mem_cons.1 hmem with heq | hmem
      · obtain ⟨rfl, rfl⟩ := Prod.mk.inj heq
        rw [hfree] at hdeclared
        cases hdeclared
      · exact ih hmem h
    · rw [if_neg hdeclared] at h ⊢
      obtain ⟨mid, u, hmid, hrest⟩ := yields_bind.1 h
      rcases List.mem_cons.1 hmem with heq | hmem
      · obtain ⟨rfl, rfl⟩ := Prod.mk.inj heq
        unfold undeclared at hmid ⊢
        rw [hunmatched] at hmid ⊢
        obtain ⟨keeps, v, hkeeps, -⟩ := yields_bind.1 hmid
        cases keeps with
        | true => exact .inl ((yields_keepsAdditional hn hkeeps).2.1 rfl)
        | false => exact .inr (((warns_keepsAdditional hloud hkeeps).bind _).bind _)
      · obtain ⟨rfl, -⟩ := yields_undeclared hn hmid
        exact (ih hmem hrest).imp_right hmid.warns_bind

/-! ## Objects -/

theorem given_eq_pure {value : Json} (h : Given s data value) :
    given s data = pure (some value) := by
  unfold given
  rw [show (Json.present data).or (Json.present s.default) = some value from h]

/-- What is done with an object that is given. -/
theorem object_of_given (hk : s.kind = .object o) {input : Dict Json}
    (h : Given s data (.obj input)) :
    object ctx s data = (do
      match ← merge (.ofStep (some <$> fields ctx o input)) with
      | none => return none
      | some output =>
        checkDependencies output (o.dependencies.getD [])
        return some (.obj output)) := by
  unfold object
  rw [hk]
  dsimp only
  rw [given_eq_pure h]
  rfl

/-- An accepted object is what the properties give, and warns of what they warn of. -/
theorem yields_object (hk : s.kind = .object o) {input : Dict Json}
    (hgiven : Given s data (.obj input)) {result : Option Json}
    (h : (object ctx s data).Yields depth result t) :
    ∃ output u, (fields ctx o input).Yields depth output u ∧ result = some (.obj output) ∧
      ∀ {P : Diagnostic → Prop}, Warns P (fields ctx o input) depth →
        Warns P (object ctx s data) depth := by
  rw [object_of_given hk hgiven] at h ⊢
  obtain ⟨_, u, hfields, hrest⟩ := yields_bind.1 h
  rw [yields_merge, Run.ends_ofStep, yields_map] at hfields
  obtain ⟨output, hfields, rfl⟩ := hfields
  obtain ⟨_, v, -, hpure⟩ := yields_bind.1 hrest
  refine ⟨output, u, hfields, (yields_pure.1 hpure).1.symm, fun {P} hwarns => Warns.bind ?_ _⟩
  exact hwarns.bind fun output => pure (some output)

end Validate

namespace Validator

open Validate Step

variable {options : ValidatorOptions} {top : Option TopSchema} {n depth t : Nat} {s : Schema}
  {o : ObjectSchema} {data : Option Json} {input output : Dict Json} {name : String}

theorem accounted_of_fields (hloud : o.silentIgnore = false)
    (h : (fields ((builtin options).context top n) o input).Yields depth output t) {value : Json}
    (hget : input.get? name = some value) :
    Accounted o output (fields ((builtin options).context top n) o input depth).warnings name
      value := by
  have hn : ((builtin options).context top n).Framed := fun s data =>
    framed_validateWithin options top n s data
  obtain ⟨rfl, entries, declared, matched⟩ := yields_fields hn h
  have hcontains : output.contains name = true ↔ o.Supplied (Accepts options top n t) input name :=
    contains_iff_supplied entries declared matched
  have hmem := Dict.mem_of_get? hget
  cases hdeclared : isDeclared o name with
  | true =>
    by_cases hnull : value = .null
    · exact .null hnull (.inl hdeclared)
    · obtain ⟨schema, hschema⟩ := Dict.contains_iff.1 hdeclared
      have hfills : schema.Fills (input.get? name) := hget ▸ fills_of_ne_null hnull
      exact .kept (hcontains.2 (.declared hschema hfills))
  | false =>
    have hundeclared := isDeclared_eq_false.1 hdeclared
    cases hpattern : patternProperty? o name with
    | some schema =>
      by_cases hnull : value = .null
      · exact .null hnull (.inr ⟨schema, hpattern⟩)
      · have hfirst := patternProperty?_eq_some.1 hpattern
        exact .kept (hcontains.2 (.matched hundeclared hmem hfirst (fills_of_ne_null hnull)))
    | none =>
      have hunmatched := patternProperty?_eq_none.1 hpattern
      obtain ⟨mid, u, hmid, hothers⟩ := yields_bind.1 h
      obtain ⟨rfl, -⟩ := yields_declared hn hmid
      rcases keeps_or_warns hn hloud hmem hdeclared hpattern hothers with hkeeps | hwarns
      · obtain ⟨hallowed, hnames⟩ := hkeeps
        exact .kept (hcontains.2 (.additional hundeclared hmem hunmatched hallowed hnames))
      · obtain ⟨w, hw, hdropped⟩ := hmid.warns_bind hwarns
        exact .noted hw hdropped

theorem input_or_declared (h : o.Supplied (Accepts options top n depth) input name) :
    input.contains name = true ∨ isDeclared o name = true := by
  cases h with
  | required mem => exact .inr (Dict.contains_iff.2 ⟨_, mem⟩)
  | declared mem => exact .inr (Dict.contains_iff.2 ⟨_, mem⟩)
  | matched _ mem => exact .inl (Dict.contains_iff.2 ⟨_, mem⟩)
  | additional _ mem => exact .inl (Dict.contains_iff.2 ⟨_, mem⟩)

/-- **No property is lost in silence, and none is made up.** -/
theorem accounted_of_accepted (hk : s.kind = .object o) (hloud : o.silentIgnore = false)
    (hgiven : Given s data (.obj input))
    (haccepted : ((builtin options).validateWithin top n s data depth).1.errors = []) :
    ∃ output : Dict Json,
      ((builtin options).validateWithin top n s data depth).1.value? = some (.obj output) ∧
      (∀ name value, input.get? name = some value → Accounted o output
        ((builtin options).validateWithin top n s data depth).1.warnings name value) ∧
      ∀ name, output.contains name = true →
        input.contains name = true ∨ isDeclared o name = true := by
  cases n with
  | zero => cases haccepted
  | succ n =>
    have hn : ((builtin options).context top n).Framed := fun s data =>
      framed_validateWithin options top n s data
    have ht : (builtin options).types.get? s.typeName =
        some (.composite Validate.object) := by
      rw [Schema.typeName, hk]
      rfl
    rw [validateWithin_succ ht] at haccepted ⊢
    have hyields := Run.ends_ofStep.1 ⟨haccepted, rfl, rfl⟩
    obtain ⟨output, u, hfields, hresult, hwarns⟩ := yields_object hk hgiven hyields
    obtain ⟨-, entries, declared, matched⟩ := yields_fields hn hfields
    refine ⟨output, ?_, fun name value hget => ?_, fun name hname => ?_⟩
    · exact (Outcome.value?_of_errors_eq_nil haccepted).trans hresult
    · cases accounted_of_fields hloud hfields hget with
      | kept kept => exact .kept kept
      | noted mem dropped =>
        obtain ⟨w, hw, hdropped⟩ := hwarns ⟨_, mem, dropped⟩
        exact .noted hw hdropped
      | null null known => exact .null null known
    · exact input_or_declared ((contains_iff_supplied entries declared matched).1 hname)

/-- An object that keeps additional properties if their names are integers. -/
def numbered : ObjectSchema :=
  { properties := some [("size", .ofKind (.integer ⟨none, none, none, none, none⟩))]
    regexNameProperties := none
    propertyNames := some (.ofKind (.integer ⟨none, none, none, none, none⟩))
    dependencies := none
    requiredProperties := []
    allowAdditionalProperties := true
    silentIgnore := false }

/-- Of these properties the first is kept, the second is dropped with a warning, and the third
takes the place of a missing size. -/
def numberedFields : Dict Json := [("7", .bool true), ("note", .str "x"), ("size", .null)]

/-- `numbered` with a default. -/
def numberedDefault : TopSchema := .ofSchema ⟨true, some (.obj numberedFields), .object numbered⟩

set_option maxRecDepth 10000 in
theorem accounted_numbered :
    ((builtin {}).validate numberedDefault none).value? = some (.obj [("7", .bool true)]) ∧
      ∀ name value, numberedFields.get? name = some value →
        Accounted numbered [("7", .bool true)]
          ((builtin {}).validate numberedDefault none).warnings name value := by
  have hvalue : ((builtin {}).validate numberedDefault none).value? =
    some (.obj [("7", .bool true)]) := rfl
  have hgiven : Given numberedDefault.schema none (.obj numberedFields) := rfl
  have haccepted : ((builtin {}).validate numberedDefault none).errors = [] := rfl
  obtain ⟨output, houtput, haccounted, -⟩ := accounted_of_accepted rfl rfl hgiven haccepted
  obtain rfl := Json.obj.inj (Option.some.inj (houtput.symm.trans hvalue))
  exact ⟨hvalue, haccounted⟩

end Validator

end DataSchema
