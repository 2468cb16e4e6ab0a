import DataSchema.Proofs.Validate.Combination

/-!
# Data is never lost

**Theorem (`kept`).** A validation that meets no error and gives no value had nothing to work on:
there was neither data nor a default, and none was required. Data that is there, and meets no error,
gives a value that is there.

The first half is `missing_of_ends_none`. The second takes that a value is `null` only if the schema
is of kind `null` and was given `null` (`null_of_ends`). References and combinations hand over what
is given, which is never `null`, so what they hand it to is never given `null`: not at first, and
not after members of `allOf` have changed it, whose outputs are not `null` by induction
(`Passed.ne_null`).
-/

namespace DataSchema

namespace CombineGroup

open Validate

variable {judge : Judge} {data : Json}

/-- Schemas that accept data that is there make something of it that is there. -/
def Keeps (judge : Judge) : Prop :=
  ∀ member data, data ≠ .null → (judge member data).errors = [] → judge.output data member ≠ .null

theorem Keeps.member? (hjudge : Keeps judge) (hdata : data ≠ .null) {name : String}
    {member : Schema × Nat} {passed : Passed}
    (h : member? judge name data member = some passed) : passed.value ≠ .null := by
  unfold CombineGroup.member? at h
  split at h
  · next haccepts =>
    obtain rfl := Option.some.inj h
    exact hjudge member.1 data hdata (by simpa [Judge.accepts] using haccepts)
  · cases h

theorem Keeps.passedAll? (hjudge : Keeps judge) (hdata : data ≠ .null) {i : Nat}
    {members : List Schema} {passed : Passed}
    (h : passedAll? judge i data members = some passed) : passed.value ≠ .null := by
  induction members generalizing i data passed with
  | nil =>
    obtain rfl := Option.some.inj h
    exact hdata
  | cons member rest ih =>
    obtain ⟨first, hfirst, hothers⟩ := Option.bind_eq_some_iff.1 h
    obtain ⟨others, hrest, rfl⟩ := Option.map_eq_some_iff.1 hothers
    have hvalue : others.value ≠ .null := ih (hjudge.member? hdata hfirst) hrest
    exact hvalue

theorem mem_of_only? {α : Type} {l : List α} {a : α} (h : only? l = some a) : a ∈ l := by
  unfold only? at h
  split at h
  · exact List.mem_singleton.2 (Option.some.inj h).symm
  · cases h

/-- What data gives that is there, and passes a group, is there. -/
theorem Keeps.passed? (hjudge : Keeps judge) (hdata : data ≠ .null) {group : CombineGroup}
    {passed : Passed} (h : group.passed? judge data = some passed) : passed.value ≠ .null := by
  obtain ⟨_ | _ | _, members⟩ := group
  · exact hjudge.passedAll? hdata h
  · obtain ⟨member, -, hmember⟩ := List.exists_of_findSome?_eq_some h
    exact hjudge.member? hdata hmember
  · obtain ⟨member, -, hmember⟩ := List.mem_filterMap.1 (mem_of_only? h)
    exact hjudge.member? hdata hmember

theorem Keeps.joined (hjudge : Keeps judge) (hdata : data ≠ .null) (all : List CombineGroup) :
    (Passed.joined data (all.filterMap (CombineGroup.passed? judge data))).value ≠ .null := by
  unfold Passed.joined
  cases hpassed : all.filterMap (CombineGroup.passed? judge data) with
  | nil => exact hdata
  | cons first rest =>
    have hmem : first ∈ all.filterMap (CombineGroup.passed? judge data) := by
      rw [hpassed]
      exact List.mem_cons_self
    obtain ⟨group, -, hgroup⟩ := List.mem_filterMap.1 hmem
    have hvalue : first.value ≠ .null := hjudge.passed? hdata hgroup
    exact hvalue

end CombineGroup

namespace Validate

variable {ctx : Context} {s : Schema} {data : Option Json} {depth : Nat}

/-- Nested validations give `null` only where `null` is given. -/
def Context.Keeping (ctx : Context) : Prop :=
  ∀ {s : Schema} {data : Option Json} {depth t : Nat},
    (ctx.nested s data).Ends depth (some .null) t →
      s.typeName = "null" ∧ data.or s.default = some .null

theorem Context.Keeping.judge (h : ctx.Keeping) (depth : Nat) :
    CombineGroup.Keeps (ctx.judge depth) := by
  intro member data hdata herrors
  unfold Judge.output
  rw [Outcome.value?_of_errors_eq_nil herrors]
  cases hstored : (ctx.judge depth member data).stored with
  | none => exact hdata
  | some value =>
    rintro rfl
    obtain ⟨-, hnull⟩ := h ⟨herrors, hstored, rfl⟩
    exact hdata (Option.some.inj hnull)

theorem ne_null_of_ends_grouped (hn : ctx.Framed) (hkeeping : ctx.Keeping) {c : CombineSchema}
    {value : Json} (hvalue : value ≠ .null) {t : Nat} :
    ¬ Run.Ends (grouped ctx c value) depth (some .null) t := by
  rintro ⟨herrors, hstored, -⟩
  have hsettles : AllSettle (ctx.judge depth) value c.counted (groups ctx c value depth).1 :=
    settles_groups hn c
  have hjoined := joinGroups_of_settled hsettles c.strategy
  change (joinGroups c.strategy value (groups ctx c value depth).1).errors = [] at herrors
  change (joinGroups c.strategy value (groups ctx c value depth).1).stored = _ at hstored
  split at hjoined
  · rw [hjoined] at hstored
    exact (hkeeping.judge depth).joined hvalue c.counted (Option.some.inj hstored)
  · obtain ⟨before, reason, hreason⟩ := hjoined
    simp [hreason] at herrors

theorem Accepted.null_of_some (hn : ctx.Framed) (hkeeping : ctx.Keeping)
    (h : Accepted ctx depth s data (some .null)) :
    s.typeName = "null" ∧ data.or s.default = some .null := by
  cases h with
  | null type given => exact ⟨type, given⟩
  | combine _ given run => exact absurd run (ne_null_of_ends_grouped hn hkeeping given.ne_null)
  | ref _ given _ _ run => exact absurd (Option.some.inj (hkeeping run).2) given.ne_null

end Validate

namespace Validator

open Validate

variable {options : ValidatorOptions} {top : Option TopSchema} {n depth t : Nat} {s : Schema}
  {data : Option Json}

/-- **A value is `null` only if a schema of kind `null` was given `null`.** -/
theorem null_of_ends
    (h : ((builtin options).validateWithin top n s data).Ends depth (some .null) t) :
    s.typeName = "null" ∧ data.or s.default = some .null := by
  induction n generalizing s data depth t with
  | zero => exact absurd h Run.not_ends_failed
  | succ n ih =>
    have hn : ((builtin options).context top n).Framed :=
      fun s data => framed_validateWithin options top n s data
    exact (accepted_of_ends h).null_of_some hn fun hnested => ih hnested

/-- **Data is never lost.** Without an error and without a value there was nothing to work on; and
data that is there gives a value that is there, unless there is an error. -/
theorem kept (options : ValidatorOptions) (top : Option TopSchema) (n : Nat) (s : Schema)
    (data : Option Json) (depth : Nat) :
    let o := ((builtin options).validateWithin top n s data depth).1
    (o.errors = [] → o.value? = none →
      Missing s data ∧ (s.typeName = "null" → data = none ∧ s.default = none)) ∧
    (∀ value, data = some value → value ≠ .null → o.errors = [] →
      ∃ output, o.value? = some output ∧ output ≠ .null) := by
  intro o
  have hends : o.errors = [] →
      ((builtin options).validateWithin top n s data).Ends depth o.value?
        ((builtin options).validateWithin top n s data depth).2 :=
    fun herrors => ⟨herrors, (Outcome.value?_of_errors_eq_nil herrors).symm, rfl⟩
  refine ⟨fun herrors hnone => ?_, fun value hdata hvalue herrors => ?_⟩
  · have hrun := hends herrors
    rw [hnone] at hrun
    refine ⟨missing_of_ends_none hrun, fun htype => ?_⟩
    have hfills : ¬ s.Fills data := fun hfills => by
      have hsome := (isSome_iff_fills hrun).2 hfills
      cases hsome
    simpa [Schema.Fills, htype, Option.or_eq_none_iff] using hfills
  · subst hdata
    obtain ⟨output, houtput⟩ := exists_of_fills (fills_of_ne_null hvalue) (hends herrors)
    refine ⟨output, houtput, ?_⟩
    rintro rfl
    have hrun := hends herrors
    rw [houtput] at hrun
    exact hvalue (Option.some.inj (null_of_ends hrun).2)

/-- A combination that need not have data: without data it gives nothing, and with data a value. -/
theorem kept_flagsOrInteger :
    let s : Schema := .ofKind (.combine flagsOrInteger)
    ((builtin {}).validateWithin none 2 s (some .null) 0).1 = .empty ∧ Missing s (some .null) ∧
      ((builtin {}).validateWithin none 2 s (some (.str "1")) 0).1.errors = [] ∧
      ∃ output, ((builtin {}).validateWithin none 2 s (some (.str "1")) 0).1.value? = some output ∧
        output ≠ .null := by
  intro s
  have hmissing := (kept {} none 2 s (some .null) 0).1 rfl rfl
  have hvalue := (kept {} none 2 s (some (.str "1")) 0).2 (.str "1") rfl (by simp) rfl
  exact ⟨rfl, hmissing.1, rfl, hvalue⟩

end Validator

end DataSchema
