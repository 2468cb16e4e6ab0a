import DataSchema.Proofs.Json
import DataSchema.Proofs.Validate.Constraint
import DataSchema.Proofs.Validate.Frame
import DataSchema.Proofs.Yields

/-!
# What an accepted validation does

`Validate.Accepted ctx depth s data o` lists the ways in which a validation against the schema `s`
ends without errors and with `o`: the data is missing and need not be there, or it is read, checked
and changed as its kind says. `accepted_of_ends` says that there are no others, so that laws of
accepted data need not open the validators again.

**Objects.** What the validator does with the properties is told by the entries of its output.
`Adds output P output'` says that the entries of `output'` are those of `output` and entries with the
property `P`; the declared properties add entries with `Declared` values, the others add `Other` ones.
-/

namespace DataSchema.Validate

open Step

variable {ctx : Context} {s : Schema} {data : Option Json} {depth t : Nat} {o : Option Json}

/-! ## Data that is given -/

/-- What stands for the data: the data itself, or the default where it is missing. -/
def Given (s : Schema) (data : Option Json) (value : Json) : Prop :=
  (Json.present data).or (Json.present s.default) = some value

/-- There is neither data nor a default, and none is required. -/
structure Missing (s : Schema) (data : Option Json) : Prop where
  data : Json.present data = none
  default : Json.present s.default = none
  required : s.required = false

theorem yields_given (h : (given s data).Yields o) :
    o = none ∧ Missing s data ∨ ∃ value, o = some value ∧ Given s data value := by
  unfold given at h
  split at h
  · next value hvalue =>
    obtain rfl := Noted.yields_pure.1 h
    exact .inr ⟨value, rfl, hvalue⟩
  · next hnone =>
    obtain ⟨hdata, hdefault⟩ := Option.or_eq_none_iff.1 hnone
    dsimp only at h
    by_cases hrequired : s.required = true
    · rw [if_pos hrequired] at h
      exact absurd h Noted.not_yields_error_bind
    · rw [if_neg hrequired] at h
      obtain rfl := Noted.yields_pure.1 h
      exact .inl ⟨rfl, hdata, hdefault, by simpa using hrequired⟩

/-- What follows goes on from missing data, or from what is given. -/
theorem yields_given_bind {f : Option Json → Noted (Option Json)}
    (h : (given s data >>= f).Yields o) :
    Missing s data ∧ (f none).Yields o ∨ ∃ value, Given s data value ∧ (f (some value)).Yields o := by
  obtain ⟨a, ha, hrest⟩ := Noted.yields_bind.1 h
  rcases yields_given ha with ⟨rfl, hmissing⟩ | ⟨value, rfl, hvalue⟩
  · exact .inl ⟨hmissing, hrest⟩
  · exact .inr ⟨value, hvalue, hrest⟩

theorem yields_lift_given_bind {f : Option Json → Validating (Option Json)}
    (h : Yields (monadLift (given s data) >>= f) depth o t) :
    Missing s data ∧ Yields (f none) depth o t ∨
      ∃ value, Given s data value ∧ Yields (f (some value)) depth o t := by
  obtain ⟨a, u, ha, hrest⟩ := yields_bind.1 h
  obtain ⟨hga, rfl⟩ := yields_lift.1 ha
  rcases yields_given hga with ⟨rfl, hmissing⟩ | ⟨value, rfl, hvalue⟩
  · exact .inl ⟨hmissing, hrest⟩
  · exact .inr ⟨value, hvalue, hrest⟩

theorem not_yields_reject {d : Diagnostic} : ¬ (reject d).Yields o :=
  Noted.not_yields_error_bind

/-! ## Entries that are added -/

/-- The entries of `output'` are entries of `output` and entries with the property `P`, and no key is
lost of either. -/
structure Adds (output : Dict Json) (P : String → Json → Prop) (output' : Dict Json) : Prop where
  mem : ∀ e ∈ output', e ∈ output ∨ P e.1 e.2
  contains : ∀ name, output'.contains name = true ↔
    output.contains name = true ∨ ∃ value, P name value

theorem Adds.refl (output : Dict Json) : Adds output (fun _ _ => False) output :=
  ⟨fun _ he => .inl he, by simp⟩

theorem Adds.trans {output mid output' : Dict Json} {P Q : String → Json → Prop}
    (h : Adds output P mid) (h' : Adds mid Q output') :
    Adds output (fun name value => P name value ∨ Q name value) output' := by
  constructor
  · intro e he
    rcases h'.mem e he with he | hq
    · exact (h.mem e he).imp_right .inl
    · exact .inr (.inr hq)
  · intro name
    rw [h'.contains, h.contains, or_assoc, ← exists_or]

theorem Adds.congr {output output' : Dict Json} {P Q : String → Json → Prop}
    (h : Adds output P output') (hpq : ∀ name value, P name value ↔ Q name value) :
    Adds output Q output' := by
  have hfun : P = Q := funext fun name => funext fun value => propext (hpq name value)
  exact hfun ▸ h

theorem adds_insert (output : Dict Json) (name : String) (value : Json) :
    Adds output (fun n v => n = name ∧ v = value) (output.insert name value) := by
  constructor
  · intro e he
    rcases Dict.mem_insert he with rfl | he
    · exact .inr ⟨rfl, rfl⟩
    · exact .inl he
  · intro other
    rw [Dict.contains_insert, Bool.or_eq_true, beq_iff_eq]
    constructor
    · rintro (rfl | hother)
      · exact .inr ⟨value, rfl, rfl⟩
      · exact .inl hother
    · rintro (hother | ⟨_, rfl, -⟩)
      · exact .inr hother
      · exact .inl rfl

theorem adds_enter (output : Dict Json) (name : String) (value : Option Json) :
    Adds output (fun n v => n = name ∧ value = some v) (enter output name value) := by
  cases value with
  | none => exact (Adds.refl output).congr (by simp)
  | some v => exact (adds_insert output name v).congr (by simp [eq_comm])

/-! ## Properties -/

/-- Without errors a validation ends with the count it began with. -/
theorem Context.Framed.ends (hn : ctx.Framed) (h : (ctx.nested s data).Ends depth o t) :
    t = depth := by
  rw [← h.2.2]
  exact hn s data depth

theorem yields_property (hn : ctx.Framed) {name : String} {output output' : Dict Json}
    (h : (property ctx s name data output).Yields depth output' t) :
    t = depth ∧ ∃ o, (ctx.nested s data).Ends depth o depth ∧ output' = enter output name o := by
  obtain ⟨o, u, ho, hpure⟩ := yields_bind.1 h
  rw [yields_attach] at ho
  obtain rfl := hn.ends ho
  obtain ⟨rfl, rfl⟩ := yields_pure.1 hpure
  exact ⟨rfl, o, ho, rfl⟩

/-- The value that a declared property has in the output. -/
def Declared (ctx : Context) (depth : Nat) (input : Dict Json) (ps : List (String × Schema))
    (name : String) (value : Json) : Prop :=
  ∃ schema, (name, schema) ∈ ps ∧
    (ctx.nested schema (input.get? name)).Ends depth (some value) depth

theorem yields_declared (hn : ctx.Framed) {input output output' : Dict Json}
    {ps : List (String × Schema)} (h : (declared ctx input ps output).Yields depth output' t) :
    t = depth ∧ Adds output (Declared ctx depth input ps) output' ∧
      ∀ p ∈ ps, ∃ o, (ctx.nested p.2 (input.get? p.1)).Ends depth o depth := by
  induction ps generalizing output with
  | nil =>
    obtain ⟨rfl, rfl⟩ := yields_pure.1 h
    exact ⟨rfl, (Adds.refl output).congr (by simp [Declared]), by simp⟩
  | cons p rest ih =>
    obtain ⟨name, schema⟩ := p
    obtain ⟨mid, u, hp, hrest⟩ := yields_bind.1 h
    obtain ⟨rfl, o, ho, rfl⟩ := yields_property hn hp
    obtain ⟨rfl, hadds, hall⟩ := ih hrest
    refine ⟨rfl, ((adds_enter output name o).trans hadds).congr fun n v => ?_, fun p hp => ?_⟩
    · constructor
      · rintro (⟨rfl, rfl⟩ | ⟨schema', hmem, hrun⟩)
        · exact ⟨schema, List.mem_cons_self, ho⟩
        · exact ⟨schema', List.mem_cons_of_mem _ hmem, hrun⟩
      · rintro ⟨schema', hmem, hrun⟩
        rcases List.mem_cons.1 hmem with heq | hmem
        · obtain ⟨rfl, rfl⟩ := Prod.mk.inj heq
          exact .inl ⟨rfl, ho.2.1.symm.trans hrun.2.1⟩
        · exact .inr ⟨schema', hmem, hrun⟩
    · rcases List.mem_cons.1 hp with rfl | hp
      · exact ⟨o, ho⟩
      · exact hall p hp

/-- An additional property is kept: they are allowed, and its name is accepted. -/
def KeepsAdditional (ctx : Context) (depth : Nat) (o : ObjectSchema) (name : String) : Prop :=
  o.allowAdditionalProperties = true ∧
    ∀ names ∈ o.propertyNames, (ctx.nested names (some (.str name)) depth).1.errors = []

theorem yields_noteDropped {o : ObjectSchema} {d : Diagnostic} {u : Unit}
    (h : (noteDropped o d).Yields depth u t) : t = depth := by
  unfold noteDropped at h
  split at h
  · exact (yields_noteWarning.1 h).symm
  · exact (yields_pure.1 h).2.symm

theorem yields_keepsAdditional (hn : ctx.Framed) {o : ObjectSchema} {name : String} {b : Bool}
    (h : (keepsAdditional ctx o name).Yields depth b t) :
    t = depth ∧ (b = true ↔ KeepsAdditional ctx depth o name) := by
  unfold keepsAdditional at h
  unfold KeepsAdditional
  split at h
  · next hallow =>
    obtain ⟨_, u, hd, hpure⟩ := yields_bind.1 h
    obtain rfl := yields_noteDropped hd
    obtain ⟨rfl, rfl⟩ := yields_pure.1 hpure
    have hforbidden : o.allowAdditionalProperties = false := by simpa using hallow
    simp [hforbidden]
  · next hallow =>
    have hallowed : o.allowAdditionalProperties = true := by simpa using hallow
    split at h
    · next hnames =>
      obtain ⟨rfl, rfl⟩ := yields_pure.1 h
      simp [hallowed, hnames]
    · next names hnames =>
      obtain ⟨checked, u, hrun, hrest⟩ := yields_bind.1 h
      rw [yields_quietly] at hrun
      obtain rfl : u = depth := by
        rw [← hn names (some (.str name)) depth, hrun]
      have hchecked : (ctx.nested names (some (.str name)) u).1 = checked := by rw [hrun]
      have hkeeps : (o.allowAdditionalProperties = true ∧ ∀ names ∈ o.propertyNames,
          (ctx.nested names (some (.str name)) u).1.errors = []) ↔ checked.hasError = false := by
        simp [hallowed, hnames, hchecked]
      rw [hkeeps]
      split at hrest
      · next hok =>
        obtain ⟨rfl, rfl⟩ := yields_pure.1 hrest
        simpa using hok
      · next hfail =>
        obtain ⟨_, v, hd, hpure⟩ := yields_bind.1 hrest
        obtain rfl := yields_noteDropped hd
        obtain ⟨rfl, rfl⟩ := yields_pure.1 hpure
        simpa using hfail

/-- The value that a property which is not declared has in the output. -/
inductive Undeclared (ctx : Context) (depth : Nat) (o : ObjectSchema) (name : String)
    (given : Json) : Json → Prop
  | matched {schema : Schema} {value : Json} (found : patternProperty? o name = some schema)
      (run : (ctx.nested schema (some given)).Ends depth (some value) depth) :
      Undeclared ctx depth o name given value
  | additional (unmatched : patternProperty? o name = none)
      (keeps : KeepsAdditional ctx depth o name) : Undeclared ctx depth o name given given

theorem yields_undeclared (hn : ctx.Framed) {o : ObjectSchema} {name : String} {given : Json}
    {output output' : Dict Json}
    (h : (undeclared ctx o name given output).Yields depth output' t) :
    t = depth ∧ Adds output (fun n v => n = name ∧ Undeclared ctx depth o name given v) output' ∧
      ∀ schema, patternProperty? o name = some schema →
        ∃ value, (ctx.nested schema (some given)).Ends depth value depth := by
  unfold undeclared at h
  split at h
  · next schema hfound =>
    obtain ⟨rfl, value, hvalue, rfl⟩ := yields_property hn h
    refine ⟨rfl, (adds_enter output name value).congr fun n v => ?_, fun other hother => ?_⟩
    · refine and_congr_right fun _ => ⟨?_, ?_⟩
      · rintro rfl
        exact .matched hfound hvalue
      · rintro (⟨found, run⟩ | ⟨unmatched, -⟩)
        · rw [hfound] at found
          obtain rfl := Option.some.inj found
          exact hvalue.2.1.symm.trans run.2.1
        · rw [hfound] at unmatched
          cases unmatched
    · rw [hfound] at hother
      obtain rfl := Option.some.inj hother
      exact ⟨value, hvalue⟩
  · next hfound =>
    obtain ⟨b, u, hb, hpure⟩ := yields_bind.1 h
    obtain ⟨rfl, hkeeps⟩ := yields_keepsAdditional hn hb
    obtain ⟨rfl, rfl⟩ := yields_pure.1 hpure
    refine ⟨rfl, ?_, fun schema hschema => by rw [hfound] at hschema; cases hschema⟩
    have hvalue : ∀ v, Undeclared ctx u o name given v ↔ b = true ∧ v = given := by
      intro v
      constructor
      · rintro (⟨found, -⟩ | ⟨-, keeps⟩)
        · rw [hfound] at found
          cases found
        · exact ⟨hkeeps.2 keeps, rfl⟩
      · rintro ⟨hb, rfl⟩
        exact .additional hfound (hkeeps.1 hb)
    cases b with
    | false => exact (Adds.refl output).congr (by simp [hvalue])
    | true => exact (adds_insert output name given).congr (by simp [hvalue])

/-- The value in the output of a property that is in the input and not declared. -/
def Other (ctx : Context) (depth : Nat) (o : ObjectSchema) (entries : List (String × Json))
    (name : String) (value : Json) : Prop :=
  isDeclared o name = false ∧
    ∃ given, (name, given) ∈ entries ∧ Undeclared ctx depth o name given value

theorem yields_others (hn : ctx.Framed) {o : ObjectSchema} {entries : List (String × Json)}
    {output output' : Dict Json} (h : (others ctx o entries output).Yields depth output' t) :
    t = depth ∧ Adds output (Other ctx depth o entries) output' ∧
      ∀ e ∈ entries, isDeclared o e.1 = false → ∀ schema, patternProperty? o e.1 = some schema →
        ∃ value, (ctx.nested schema (some e.2)).Ends depth value depth := by
  induction entries generalizing output with
  | nil =>
    obtain ⟨rfl, rfl⟩ := yields_pure.1 h
    exact ⟨rfl, (Adds.refl output).congr (by simp [Other]), by simp⟩
  | cons e rest ih =>
    obtain ⟨name, given⟩ := e
    unfold others at h
    split at h
    · next hdeclared =>
      obtain ⟨rfl, hadds, hall⟩ := ih h
      -- A declared name is passed by, so the entry adds nothing.
      refine ⟨rfl, hadds.congr fun n v => and_congr_right fun hn => ?_, fun e he hfree => ?_⟩
      · have hne : n ≠ name := by rintro rfl; rw [hdeclared] at hn; cases hn
        simp [hne]
      · rcases List.mem_cons.1 he with rfl | he
        · rw [hdeclared] at hfree
          cases hfree
        · exact hall e he hfree
    · next hfree =>
      obtain ⟨mid, u, hmid, hrest⟩ := yields_bind.1 h
      obtain ⟨rfl, hfirst, haccepted⟩ := yields_undeclared hn hmid
      obtain ⟨rfl, hadds, hall⟩ := ih hrest
      refine ⟨rfl, (hfirst.trans hadds).congr fun n v => ?_, fun e he hfree => ?_⟩
      · constructor
        · rintro (⟨rfl, hvalue⟩ | ⟨hn, given', hmem, hvalue⟩)
          · exact ⟨by simpa using hfree, given, List.mem_cons_self, hvalue⟩
          · exact ⟨hn, given', List.mem_cons_of_mem _ hmem, hvalue⟩
        · rintro ⟨hn, given', hmem, hvalue⟩
          rcases List.mem_cons.1 hmem with heq | hmem
          · obtain ⟨rfl, rfl⟩ := Prod.mk.inj heq
            exact .inl ⟨rfl, hvalue⟩
          · exact .inr ⟨hn, given', hmem, hvalue⟩
      · rcases List.mem_cons.1 he with rfl | he
        · exact haccepted
        · exact hall e he hfree

/-- What is entered into a sorted output leaves it sorted. -/
theorem sorted_enter {output : Dict Json} (h : Dict.Sorted output) (name : String)
    (value : Option Json) : Dict.Sorted (enter output name value) := by
  cases value with
  | none => exact h
  | some v => exact h.insert name v

theorem sorted_declared {input output output' : Dict Json} {ps : List (String × Schema)}
    (hsorted : Dict.Sorted output) (h : (declared ctx input ps output).Yields depth output' t) :
    Dict.Sorted output' := by
  induction ps generalizing output depth with
  | nil =>
    obtain ⟨rfl, -⟩ := yields_pure.1 h
    exact hsorted
  | cons p rest ih =>
    obtain ⟨mid, u, hp, hrest⟩ := yields_bind.1 h
    obtain ⟨o, v, -, hpure⟩ := yields_bind.1 hp
    obtain ⟨rfl, rfl⟩ := yields_pure.1 hpure
    exact ih (sorted_enter hsorted p.1 o) hrest

theorem sorted_undeclared {o : ObjectSchema} {name : String} {given : Json}
    {output output' : Dict Json} (hsorted : Dict.Sorted output)
    (h : (undeclared ctx o name given output).Yields depth output' t) : Dict.Sorted output' := by
  unfold undeclared at h
  split at h
  · obtain ⟨value, u, -, hpure⟩ := yields_bind.1 h
    obtain ⟨rfl, rfl⟩ := yields_pure.1 hpure
    exact sorted_enter hsorted name value
  · obtain ⟨b, u, -, hpure⟩ := yields_bind.1 h
    obtain ⟨rfl, rfl⟩ := yields_pure.1 hpure
    cases b with
    | false => exact hsorted
    | true => exact hsorted.insert name given

theorem sorted_others {o : ObjectSchema} {entries : List (String × Json)}
    {output output' : Dict Json} (hsorted : Dict.Sorted output)
    (h : (others ctx o entries output).Yields depth output' t) : Dict.Sorted output' := by
  induction entries generalizing output depth with
  | nil =>
    obtain ⟨rfl, -⟩ := yields_pure.1 h
    exact hsorted
  | cons e rest ih =>
    unfold others at h
    split at h
    · exact ih hsorted h
    · obtain ⟨mid, u, hmid, hrest⟩ := yields_bind.1 h
      exact ih (sorted_undeclared hsorted hmid) hrest

/-- The output lists its keys in increasing order. -/
theorem sorted_fields {o : ObjectSchema} {input output : Dict Json}
    (h : (fields ctx o input).Yields depth output t) : Dict.Sorted output := by
  obtain ⟨mid, u, hdeclared, hothers⟩ := yields_bind.1 h
  have hmid : Dict.Sorted mid := sorted_declared Dict.sorted_nil hdeclared
  exact sorted_others hmid hothers

theorem yields_fields (hn : ctx.Framed) {o : ObjectSchema} {input output : Dict Json}
    (h : (fields ctx o input).Yields depth output t) :
    t = depth ∧
      Adds [] (fun name value => Declared ctx depth input (o.properties.getD []) name value ∨
        Other ctx depth o input name value) output ∧
      (∀ p ∈ o.properties.getD [],
        ∃ value, (ctx.nested p.2 (input.get? p.1)).Ends depth value depth) ∧
      ∀ e ∈ input, isDeclared o e.1 = false → ∀ schema, patternProperty? o e.1 = some schema →
        ∃ value, (ctx.nested schema (some e.2)).Ends depth value depth := by
  obtain ⟨mid, u, hdeclared, hothers⟩ := yields_bind.1 h
  obtain ⟨rfl, hadds, hall⟩ := yields_declared hn hdeclared
  obtain ⟨rfl, hadds', hall'⟩ := yields_others hn hothers
  exact ⟨rfl, hadds.trans hadds', hall, hall'⟩

theorem yields_checkDependencies {output : Dict Json} {dependencies : List (String × List String)}
    {u : Unit} (h : (checkDependencies output dependencies).Yields u) :
    ∀ e ∈ dependencies, Json.isAbsent (output.get? e.1) = false →
      ∀ other ∈ e.2, Json.isAbsent (output.get? other) = false := by
  induction dependencies with
  | nil => exact fun _ he => nomatch he
  | cons e rest ih =>
    obtain ⟨name, needed⟩ := e
    unfold checkDependencies at h
    dsimp only at h
    by_cases habsent : Json.isAbsent (output.get? name) = true
    · rw [if_neg (by simp [habsent])] at h
      intro e he hpresent
      rcases List.mem_cons.1 he with rfl | he
      · rw [habsent] at hpresent
        cases hpresent
      · exact ih h e he hpresent
    · rw [if_pos (by simpa using habsent)] at h
      split at h
      · next hnone =>
        intro e he hpresent
        rcases List.mem_cons.1 he with rfl | he
        · intro other hother
          simpa using List.find?_eq_none.1 hnone other hother
        · exact ih h e he hpresent
      · exact absurd h Noted.not_yields_error_bind

/-! ## Elements -/

theorem yields_elements (hn : ctx.Framed) {items : Schema} {i : Nat} {values outs : List Json}
    (h : (elements ctx items i values).Yields depth outs t) :
    t = depth ∧ List.Forall₂ (fun x y => ∃ o, (ctx.nested items (some x)).Ends depth o depth ∧
      y = o.getD .null) values outs := by
  induction values generalizing i outs with
  | nil =>
    obtain ⟨rfl, rfl⟩ := yields_pure.1 h
    exact ⟨rfl, .nil⟩
  | cons x rest ih =>
    obtain ⟨o, u, ho, hrest⟩ := yields_bind.1 h
    rw [yields_attach] at ho
    obtain rfl := hn.ends ho
    obtain ⟨others, v, hothers, hpure⟩ := yields_bind.1 hrest
    obtain ⟨rfl, rfl⟩ := yields_pure.1 hpure
    obtain ⟨rfl, hall⟩ := ih hothers
    exact ⟨rfl, .cons ⟨o, ho, rfl⟩ hall⟩

/-! ## All kinds -/

/-- The ways in which a validation ends without errors, and what it gives. -/
inductive Accepted (ctx : Context) (depth : Nat) (s : Schema) (data : Option Json) :
    Option Json → Prop
  | missing (missing : Missing s data)
      (null : s.typeName = "null" → data = none ∧ s.default = none) :
      Accepted ctx depth s data none
  | boolean {value : Json} {b : Bool} (type : s.typeName = "boolean") (given : Given s data value)
      (read : Coerce.boolean none (some value) = .of (some b)) :
      Accepted ctx depth s data (some (.bool b))
  | null (type : s.typeName = "null") (given : data.or s.default = some .null) :
      Accepted ctx depth s data (some .null)
  | number {bounds : Bounds Binary64} {value : Json} {n : Binary64} (kind : s.kind = .number bounds)
      (given : Given s data value) (read : Coerce.number none (some value) = .of (some n))
      (holds : bounds.Hold Binary64.signedUnits n) :
      Accepted ctx depth s data (some (.ofBinary64 n))
  | integer {bounds : Bounds Int64} {value : Json} {n : Int64} (kind : s.kind = .integer bounds)
      (given : Given s data value) (read : Coerce.int64 none (some value) = .of (some n))
      (holds : bounds.Hold Int64.toInt n) :
      Accepted ctx depth s data (some (.ofInt64 n))
  | string {c : StringSchema} {text : String} (kind : s.kind = .string c)
      (given : Given s data (.str text)) (holds : c.Holds (c.normalText text)) :
      Accepted ctx depth s data (some (.str (c.normalText text)))
  | array {items : Schema} {unique : Bool} {values outs : List Json}
      (kind : s.kind = .array items unique) (given : Given s data (.arr values))
      (distinct : unique = true → hasDuplicates values = false)
      (elements : List.Forall₂ (fun x y => ∃ o,
        (ctx.nested items (some x)).Ends depth o depth ∧ y = o.getD .null) values outs) :
      Accepted ctx depth s data (some (.arr outs))
  | object {o : ObjectSchema} {input output : Dict Json} (kind : s.kind = .object o)
      (given : Given s data (.obj input))
      (entries : Adds [] (fun name value =>
        Declared ctx depth input (o.properties.getD []) name value ∨
          Other ctx depth o input name value) output)
      (declared : ∀ p ∈ o.properties.getD [],
        ∃ value, (ctx.nested p.2 (input.get? p.1)).Ends depth value depth)
      (matched : ∀ e ∈ input, isDeclared o e.1 = false →
        ∀ schema, patternProperty? o e.1 = some schema →
          ∃ value, (ctx.nested schema (some e.2)).Ends depth value depth)
      (dependencies : o.DependenciesHold output) (sorted : Dict.Sorted output) :
      Accepted ctx depth s data (some (.obj output))
  | combine {c : CombineSchema} {value : Json} {o : Option Json} (kind : s.kind = .combine c)
      (given : Given s data value) (run : Run.Ends (grouped ctx c value) depth o depth) :
      Accepted ctx depth s data o
  | ref {name : String} {target : Schema} {value : Json} {o : Option Json}
      (kind : s.kind = .ref name) (given : Given s data value)
      (limit : depth < ctx.options.maxRefDepth.toNat) (found : ctx.target? name = some target)
      (run : (ctx.nested target (some value)).Ends (depth + 1) o (depth + 1)) :
      Accepted ctx depth s data o

theorem coerced_eq_of {α : Type} {c : Coerced α} {a : α} (herror : c.hasError = false)
    (hvalue : c.value = some a) : c = .of (some a) := by
  obtain ⟨value, errors⟩ := c
  obtain rfl : value = some a := hvalue
  obtain rfl : errors = [] := by simpa [Coerced.hasError] using herror
  rfl

theorem accepted_boolean (ht : s.typeName = "boolean") (h : (boolean s data).Yields o) :
    Accepted ctx depth s data o := by
  rcases yields_given_bind h with ⟨hmissing, hrest⟩ | ⟨value, hvalue, hrest⟩
  · obtain rfl := Noted.yields_pure.1 hrest
    exact .missing hmissing (by simp [ht])
  · dsimp only at hrest
    split at hrest
    · next b herror hb =>
      obtain rfl := Noted.yields_pure.1 hrest
      exact .boolean ht hvalue (coerced_eq_of herror hb)
    · exact absurd hrest not_yields_reject

theorem accepted_null (ht : s.typeName = "null") (h : (null s data).Yields o) :
    Accepted ctx depth s data o := by
  unfold null at h
  dsimp only at h
  split at h
  · next hnull =>
    obtain rfl := Noted.yields_pure.1 h
    exact .null ht hnull
  · next hne =>
    rcases yields_given_bind h with ⟨hmissing, hrest⟩ | ⟨value, -, hrest⟩
    · -- `null` was taken above, so what is missing is missing altogether.
      obtain rfl := Noted.yields_pure.1 hrest
      have hnone : data.or s.default = none := by
        have hpresent := hmissing.data
        rwa [Json.present_of_ne_null hne] at hpresent
      obtain ⟨rfl, hdefault⟩ := Option.or_eq_none_iff.1 hnone
      exact .missing ⟨rfl, hmissing.default, hmissing.required⟩ fun _ => ⟨rfl, hdefault⟩
    · exact absurd hrest not_yields_reject

/-- What a number that is read and found within bounds stands for. -/
theorem yields_within {α : Type} {scale : Scale α} {measure : α → Int}
    (hscale : scale.Measures measure) {read : Coerce.Reader α} {write : α → Json}
    {expected : String} {bounds : Bounds α}
    (h : (within scale read write expected bounds s data).Yields o) :
    o = none ∧ Missing s data ∨ ∃ value n, Given s data value ∧
      read none (some value) = .of (some n) ∧ bounds.Hold measure n ∧
      o = some (write n) := by
  rcases yields_given_bind h with ⟨hmissing, hrest⟩ | ⟨value, hvalue, hrest⟩
  · obtain rfl := Noted.yields_pure.1 hrest
    exact .inl ⟨rfl, hmissing⟩
  · dsimp only at hrest
    split at hrest
    · next n herror hn =>
      split at hrest
      · next hfits =>
        obtain rfl := Noted.yields_pure.1 hrest
        have hholds := (numberFault?_eq_none hscale).1 hfits
        exact .inr ⟨value, n, hvalue, coerced_eq_of herror hn, hholds, rfl⟩
      · exact absurd hrest not_yields_reject
    · exact absurd hrest not_yields_reject

theorem accepted_number (ht : s.typeName = "number") (h : (number s data).Yields o) :
    Accepted ctx depth s data o := by
  unfold number at h
  split at h
  · next bounds hk =>
    rcases yields_within measures_floatScale h with
      ⟨rfl, hmissing⟩ | ⟨value, n, hvalue, hread, hholds, rfl⟩
    · exact .missing hmissing (by simp [ht])
    · exact .number hk hvalue hread hholds
  · exact absurd h not_yields_reject

theorem accepted_integer (ht : s.typeName = "integer") (h : (integer s data).Yields o) :
    Accepted ctx depth s data o := by
  unfold integer at h
  split at h
  · next bounds hk =>
    rcases yields_within measures_integerScale h with
      ⟨rfl, hmissing⟩ | ⟨value, n, hvalue, hread, hholds, rfl⟩
    · exact .missing hmissing (by simp [ht])
    · exact .integer hk hvalue hread hholds
  · exact absurd h not_yields_reject

theorem accepted_string (ht : s.typeName = "string") (h : (string s data).Yields o) :
    Accepted ctx depth s data o := by
  unfold string at h
  split at h
  · next c hk =>
    rcases yields_given_bind h with ⟨hmissing, hrest⟩ | ⟨value, hvalue, hrest⟩
    · obtain rfl := Noted.yields_pure.1 hrest
      exact .missing hmissing (by simp [ht])
    · dsimp only at hrest
      split at hrest
      · cases ‹some value = none›
      · next text heq =>
        obtain rfl := Option.some.inj heq
        split at hrest
        · next hfits =>
          obtain rfl := Noted.yields_pure.1 hrest
          exact .string hk hvalue (textFault?_eq_none.1 hfits)
        · exact absurd hrest not_yields_reject
      · exact absurd hrest not_yields_reject
  · exact absurd h not_yields_reject

theorem accepted_array (hn : ctx.Framed) (ht : s.typeName = "array")
    (h : (array ctx s data).Yields depth o t) : Accepted ctx depth s data o := by
  unfold array at h
  split at h
  · next items unique hk =>
    rcases yields_lift_given_bind h with ⟨hmissing, hrest⟩ | ⟨value, hvalue, hrest⟩
    · obtain ⟨rfl, -⟩ := yields_pure.1 hrest
      exact .missing hmissing (by simp [ht])
    · split at hrest
      · cases ‹some value = none›
      · next values heq =>
        obtain rfl := Option.some.inj heq
        split at hrest
        · exact absurd (yields_lift.1 hrest).1 not_yields_reject
        · next hdistinct =>
          obtain ⟨outs, v, houts, hpure⟩ := yields_bind.1 hrest
          obtain ⟨rfl, rfl⟩ := yields_pure.1 hpure
          obtain ⟨-, hall⟩ := yields_elements hn houts
          exact .array hk hvalue (by simpa using hdistinct) hall
      · exact absurd (yields_lift.1 hrest).1 not_yields_reject
  · exact absurd (yields_lift.1 h).1 not_yields_reject

theorem accepted_object (hn : ctx.Framed) (ht : s.typeName = "object")
    (h : (object ctx s data).Yields depth o t) : Accepted ctx depth s data o := by
  unfold object at h
  split at h
  · next c hk =>
    rcases yields_lift_given_bind h with ⟨hmissing, hrest⟩ | ⟨value, hvalue, hrest⟩
    · obtain ⟨rfl, -⟩ := yields_pure.1 hrest
      exact .missing hmissing (by simp [ht])
    · split at hrest
      · cases ‹some value = none›
      · next input heq =>
        obtain rfl := Option.some.inj heq
        obtain ⟨_, v, houtput, hchecked⟩ := yields_bind.1 hrest
        rw [yields_merge, Run.ends_ofStep, yields_map] at houtput
        obtain ⟨output, hfields, rfl⟩ := houtput
        obtain ⟨rfl, hadds, hdeclared, hmatched⟩ := yields_fields hn hfields
        obtain ⟨_, w, hcheck, hpure⟩ := yields_bind.1 hchecked
        obtain ⟨rfl, -⟩ := yields_pure.1 hpure
        have hdependencies := yields_checkDependencies (yields_lift.1 hcheck).1
        exact .object hk hvalue hadds hdeclared hmatched hdependencies (sorted_fields hfields)
      · exact absurd (yields_lift.1 hrest).1 not_yields_reject
  · exact absurd (yields_lift.1 h).1 not_yields_reject

theorem accepted_combine (hn : ctx.Framed) (ht : s.typeName = "combine")
    (h : (combine ctx s data).Yields depth o t) : Accepted ctx depth s data o := by
  unfold combine at h
  split at h
  · next c hk =>
    rcases yields_lift_given_bind h with ⟨hmissing, hrest⟩ | ⟨value, hvalue, hrest⟩
    · obtain ⟨rfl, -⟩ := yields_pure.1 hrest
      exact .missing hmissing (by simp [ht])
    · have hrun := yields_merge.1 hrest
      have hframed := framed_grouped hn c value depth
      obtain rfl : t = depth := by rw [← hrun.2.2, hframed]
      exact .combine hk hvalue hrun
  · exact absurd (yields_lift.1 h).1 not_yields_reject

theorem accepted_reference (hn : ctx.Framed) (ht : s.typeName = "ref")
    (h : (reference ctx s data).Yields depth o t) : Accepted ctx depth s data o := by
  unfold reference at h
  split at h
  · next name hk =>
    rcases yields_lift_given_bind h with ⟨hmissing, hrest⟩ | ⟨value, hvalue, hrest⟩
    · obtain ⟨rfl, -⟩ := yields_pure.1 hrest
      exact .missing hmissing (by simp [ht])
    · obtain ⟨herrors, hstored, -⟩ := yields_merge.1 hrest
      unfold Context.follow at herrors hstored
      split at herrors
      · cases herrors
      · next hlimit =>
        rw [if_neg hlimit] at hstored
        split at herrors
        · cases herrors
        · next target htarget =>
          simp only [htarget] at hstored
          exact .ref hk hvalue (Nat.lt_of_not_le hlimit) htarget
            ⟨herrors, hstored, hn target (some value) _⟩
  · exact absurd (yields_lift.1 h).1 not_yields_reject

end DataSchema.Validate

namespace DataSchema.Validator

open Validate

/-- **A validation without errors is one of those that `Accepted` lists.** -/
theorem accepted_of_ends {options : ValidatorOptions} {top : Option TopSchema} {n depth t : Nat}
    {s : Schema} {data o : Option Json}
    (h : ((builtin options).validateWithin top (n + 1) s data).Ends depth o t) :
    Accepted ((builtin options).context top n) depth s data o := by
  have hn : ((builtin options).context top n).Framed := fun s data =>
    framed_validateWithin options top n s data
  cases ht : (builtin options).types.get? s.typeName with
  | none =>
    rw [validateWithin] at h
    simp only [ht] at h
    exact absurd h Run.not_ends_failed
  | some v =>
    rw [validateWithin_succ ht] at h
    have hmem := Dict.mem_of_get? ht
    simp only [builtin, TypeValidator.builtin, List.mem_cons, Prod.mk.injEq, List.not_mem_nil,
      or_false] at hmem
    rcases hmem with ⟨hname, rfl⟩ | ⟨hname, rfl⟩ | ⟨hname, rfl⟩ | ⟨hname, rfl⟩ | ⟨hname, rfl⟩ |
      ⟨hname, rfl⟩ | ⟨hname, rfl⟩ | ⟨hname, rfl⟩ | ⟨hname, rfl⟩
    · exact accepted_array hn hname (Run.ends_ofStep.1 h)
    · exact accepted_boolean hname (Run.ends_ofNoted.1 h).1
    · exact accepted_combine hn hname (Run.ends_ofStep.1 h)
    · exact accepted_integer hname (Run.ends_ofNoted.1 h).1
    · exact accepted_null hname (Run.ends_ofNoted.1 h).1
    · exact accepted_number hname (Run.ends_ofNoted.1 h).1
    · exact accepted_object hn hname (Run.ends_ofStep.1 h)
    · exact accepted_reference hn hname (Run.ends_ofStep.1 h)
    · exact accepted_string hname (Run.ends_ofNoted.1 h).1

end DataSchema.Validator
