import DataSchema.Proofs.Validate.Presence
import Mathlib.Data.List.Forall2

/-!
# What combinations accept

A combination counts the groups that have members (`CombineSchema.counted`). `CombineGroup.valid`
says when data passes one: members of `allOf` accept it one after the other, each given what the one
before made of it, some member of `anyOf` does, or exactly one of `oneOf`. `CombineStrategy.content` says
how many groups a strategy wants to pass.

**Theorem (`combine_iff`).** A combination meets no error exactly if its strategy is content with
the groups that data passes. The outcome is then put together from the members that passed, in
groups that passed (`CombineGroup.passed?`): it has the value of the first of these groups and the
warnings of all, and nothing that another member or group said. Else there is no value, and the last
error is on the strategy.

Members are arbitrary schemas. All that is used of them is that they leave the number of references
that are being followed as it was (`Context.Framed`), so that each is judged at the same depth
(`Context.judge`).
-/

namespace DataSchema

/-! ## Groups -/

/-- How many members of a group have to accept data. -/
inductive GroupRule where
  | allOf
  | anyOf
  | oneOf

/-- Members with a rule. -/
structure CombineGroup where
  rule : GroupRule
  members : List Schema

/-- The groups that have members, in the order in which they are validated. -/
def CombineSchema.counted (c : CombineSchema) : List CombineGroup :=
  [⟨.allOf, c.allOf.getD []⟩, ⟨.anyOf, c.anyOf.getD []⟩, ⟨.oneOf, c.oneOf.getD []⟩].filter
    fun group => !group.members.isEmpty

/-- How many of several have to pass. -/
def CombineStrategy.content {α : Type} (passes : α → Bool) (all : List α) : CombineStrategy → Bool
  | .all => all.all passes
  | .any => all.any passes
  | .one => all.countP passes == 1

namespace Validate

/-- What the validation against a schema says of data. -/
abbrev Judge := Schema → Json → Outcome Json

/-- What validating nested schemas says of data, while references are followed to a depth. -/
def Context.judge (ctx : Context) (depth : Nat) : Judge := fun s data =>
  (ctx.nested s (some data) depth).1

namespace Judge

variable (judge : Judge)

def accepts (data : Json) (member : Schema) : Bool := !(judge member data).hasError

/-- What a member makes of data. -/
def output (data : Json) (member : Schema) : Json := (judge member data).value?.getD data

/-- Gives every member what the one before it made of the data, as long as they accept it. -/
def threaded? (data : Json) (members : List Schema) : Option Json :=
  members.foldlM (fun current member =>
    if judge.accepts current member then some (judge.output current member) else none) data

end Judge

end Validate

open Validate

namespace CombineGroup

/-- Whether data passes a group. -/
def valid (judge : Judge) (data : Json) : CombineGroup → Bool
  | ⟨.allOf, members⟩ => (judge.threaded? data members).isSome
  | ⟨.anyOf, members⟩ => members.any (judge.accepts data)
  | ⟨.oneOf, members⟩ => members.countP (judge.accepts data) == 1

/-- What data that passes gives. -/
structure Passed where
  value : Json
  warnings : List Diagnostic

namespace Passed

def outcome (p : Passed) : Outcome Json :=
  { stored := some p.value, errors := [], warnings := p.warnings }

/-- Puts together what groups gave: the first value, or else the data, and all warnings. -/
def joined (data : Json) (passed : List Passed) : Passed :=
  { value := (passed.head?.map (·.value)).getD data
    warnings := passed.flatMap (·.warnings) }

end Passed

/-- What a member gives that accepts data: its warnings count as those of its group. -/
def member? (judge : Judge) (name : String) (data : Json) (member : Schema × Nat) :
    Option Passed :=
  if judge.accepts data member.1 then
    some ⟨judge.output data member.1,
      Outcome.wrap name (some (toString member.2)) none (judge member.1 data).warnings⟩
  else none

/-- What members from an index on give that accept data one after the other. -/
def passedAll? (judge : Judge) : Nat → Json → List Schema → Option Passed
  | _, data, [] => some ⟨data, []⟩
  | i, data, member :: rest =>
    (member? judge "allOf" data (member, i)).bind fun first =>
      (passedAll? judge (i + 1) first.value rest).map fun others =>
        ⟨others.value, first.warnings ++ others.warnings⟩

/-- The only element of a list. -/
def only? {α : Type} : List α → Option α
  | [a] => some a
  | _ => none

/-- What data gives that passes a group: that of all members, of the first member that accepts it,
or of the only one. -/
def passed? (judge : Judge) (data : Json) : CombineGroup → Option Passed
  | ⟨.allOf, members⟩ => passedAll? judge 0 data members
  | ⟨.anyOf, members⟩ => members.zipIdx.findSome? (member? judge "anyOf" data)
  | ⟨.oneOf, members⟩ => only? (members.zipIdx.filterMap (member? judge "oneOf" data))

variable {judge : Judge} {data : Json} {name : String}

@[simp] theorem isSome_member? (member : Schema × Nat) :
    (member? judge name data member).isSome = judge.accepts data member.1 := by
  unfold member?
  split
  · next h => rw [h]; rfl
  · next h => simpa using h

theorem map_value_passedAll? (i : Nat) (data : Json) (members : List Schema) :
    (passedAll? judge i data members).map (·.value) = judge.threaded? data members := by
  induction members generalizing i data with
  | nil => rfl
  | cons member rest ih =>
    unfold Judge.threaded?
    rw [passedAll?, List.foldlM_cons, member?]
    by_cases h : judge.accepts data member = true
    · have hrest := ih (i + 1) (judge.output data member)
      rw [if_pos h, if_pos h, Option.bind_some, Option.map_map]
      exact hrest
    · rw [if_neg h, if_neg h]
      rfl

theorem isSome_only? {α : Type} (l : List α) : (only? l).isSome = (l.length == 1) := by
  match l with
  | [] | [_] | _ :: _ :: _ => simp [only?]

theorem isSome_findSome_member? (members : List Schema) :
    (members.zipIdx.findSome? (member? judge name data)).isSome =
      members.any (judge.accepts data) := by
  rw [List.isSome_findSome?]
  simp only [isSome_member?]
  conv_rhs => rw [← List.zipIdx_map_fst 0 members, List.any_map]
  rfl

theorem length_filterMap_member? (members : List Schema) :
    (members.zipIdx.filterMap (member? judge name data)).length =
      members.countP (judge.accepts data) := by
  rw [List.length_filterMap_eq_countP]
  simp only [isSome_member?]
  conv_rhs => rw [← List.zipIdx_map_fst 0 members, List.countP_map]
  rfl

/-- **Data gives something exactly if it passes.** -/
theorem isSome_passed? (judge : Judge) (data : Json) (group : CombineGroup) :
    (group.passed? judge data).isSome = group.valid judge data := by
  obtain ⟨_ | _ | _, members⟩ := group
  · rw [passed?, valid, ← map_value_passedAll? 0, Option.isSome_map]
  · exact isSome_findSome_member? members
  · rw [passed?, valid, isSome_only?, length_filterMap_member?]

/-- The outcome of a group is what passing data gives, or has an error. -/
def Settles (o : Outcome Json) : Option Passed → Prop
  | some passed => o = passed.outcome
  | none => o.errors ≠ []

end CombineGroup

namespace Validate

open CombineGroup

variable {ctx : Context} {depth : Nat} {data : Json}

/-! ## Members -/

theorem memberOutcome_of_accepted {part : Outcome Json} (h : part.errors = []) (name : String)
    (i : Nat) : memberOutcome name i part =
      ⟨none, [], Outcome.wrap name (some (toString i)) none part.warnings⟩ := by
  simp [memberOutcome, Outcome.attach, Outcome.empty, h, Outcome.wrap]

theorem member?_of_accepted {judge : Judge} {member : Schema} (h : (judge member data).errors = [])
    (name : String) (i : Nat) : member? judge name data (member, i) =
      some ⟨judge.output data member,
        Outcome.wrap name (some (toString i)) none (judge member data).warnings⟩ := by
  simp [member?, Judge.accepts, h]

theorem member?_of_refused {judge : Judge} {member : Schema} (h : (judge member data).errors ≠ [])
    (name : String) (i : Nat) : member? judge name data (member, i) = none := by
  simp [member?, Judge.accepts, Outcome.hasError, h]

/-! ## Each group -/

theorem allOf_cons (hn : ctx.Framed) (i : Nat) (member : Schema) (rest : List Schema) :
    (allOf ctx i data (member :: rest) depth).1 =
      let outcome := memberOutcome "allOf" i (ctx.judge depth member data)
      let others := (allOf ctx (i + 1) ((ctx.judge depth).output data member) rest depth).1
      if (ctx.judge depth member data).errors = [] then
        { others with warnings := outcome.warnings ++ others.warnings }
      else outcome.addError (.of "allOf" "not matched all of the schemas defined in allOf.") := by
  have hpart : (ctx.nested member (some data) depth).1 = ctx.judge depth member data := rfl
  rw [allOf, (hn member (some data)).bind_apply, hpart]
  dsimp only
  split
  · next h =>
    rw [if_neg (by simpa [Outcome.hasError] using h)]
    rfl
  · next h =>
    rw [if_pos (by simpa using h), (framed_allOf hn _ _ _).bind_apply]
    rfl

theorem settles_allOf (hn : ctx.Framed) (i : Nat) (data : Json) (members : List Schema) :
    Settles (allOf ctx i data members depth).1 (passedAll? (ctx.judge depth) i data members) := by
  induction members generalizing i data with
  | nil => rfl
  | cons member rest ih =>
    rw [allOf_cons hn, passedAll?]
    by_cases h : (ctx.judge depth member data).errors = []
    · rw [member?_of_accepted h, memberOutcome_of_accepted h, if_pos h, Option.bind_some]
      have hrest := ih (i + 1) ((ctx.judge depth).output data member)
      cases hothers : passedAll? (ctx.judge depth) (i + 1)
          ((ctx.judge depth).output data member) rest with
      | none =>
        rw [hothers] at hrest
        exact hrest
      | some others =>
        rw [hothers] at hrest
        dsimp only
        rw [show (allOf ctx (i + 1) _ rest depth).1 = others.outcome from hrest]
        rfl
    · rw [member?_of_refused h, if_neg h]
      exact List.append_ne_nil_of_right_ne_nil _ (List.cons_ne_nil _ _)

theorem anyOf_cons (hn : ctx.Framed) (i : Nat) (member : Schema) (rest : List Schema) :
    (anyOf ctx data i (member :: rest) depth).1 =
      let outcome := memberOutcome "anyOf" i (ctx.judge depth member data)
      let others := (anyOf ctx data (i + 1) rest depth).1
      if (ctx.judge depth member data).errors = [] then
        outcome.setValue ((ctx.judge depth).output data member)
      else if others.errors = [] then others else outcome.merge others := by
  have hpart : (ctx.nested member (some data) depth).1 = ctx.judge depth member data := rfl
  rw [anyOf, (hn member (some data)).bind_apply, hpart]
  dsimp only
  split
  · next h =>
    rw [if_neg (by simpa [Outcome.hasError] using h), (framed_anyOf hn _ _ _).bind_apply]
    change (if _ then _ else _ : Outcome Json) = _
    split
    · next h' => rw [if_neg (by simpa [Outcome.hasError] using h')]
    · next h' => rw [if_pos (by simpa using h')]
  · next h =>
    rw [if_pos (by simpa using h)]
    rfl

theorem settles_anyOf (hn : ctx.Framed) (i : Nat) (members : List Schema) :
    Settles (anyOf ctx data i members depth).1
      ((members.zipIdx i).findSome? (member? (ctx.judge depth) "anyOf" data)) := by
  induction members generalizing i with
  | nil => exact List.cons_ne_nil _ _
  | cons member rest ih =>
    rw [anyOf_cons hn, List.zipIdx_cons, List.findSome?_cons]
    by_cases h : (ctx.judge depth member data).errors = []
    · rw [member?_of_accepted h, memberOutcome_of_accepted h, if_pos h]
      rfl
    · rw [member?_of_refused h, if_neg h]
      have hrest := ih (i + 1)
      cases hothers : (rest.zipIdx (i + 1)).findSome?
          (member? (ctx.judge depth) "anyOf" data) with
      | none =>
        rw [hothers] at hrest
        rw [if_neg hrest]
        exact List.append_ne_nil_of_right_ne_nil _ hrest
      | some others =>
        rw [hothers] at hrest
        have hnone : (anyOf ctx data (i + 1) rest depth).1.errors = [] := by rw [hrest]; rfl
        rw [if_pos hnone]
        exact hrest

theorem memberOutcomes_apply (hn : ctx.Framed) (members : List Schema) :
    (memberOutcomes ctx data members depth).1 = members.map (ctx.judge depth · data) := by
  induction members with
  | nil => rfl
  | cons member rest ih =>
    rw [memberOutcomes, (hn member (some data)).bind_apply,
      (framed_memberOutcomes hn _ _).bind_apply, ih]
    rfl

/-- The outcomes that have no error, with their places, are those of the members that accept. -/
theorem filter_zipIdx_judged (judge : Judge) (members : List Schema) :
    (members.map (judge · data)).zipIdx.filter (not ∘ fun part => part.1.hasError) =
      (members.zipIdx.filter fun member => judge.accepts data member.1).map
        (Prod.map (judge · data) id) := by
  rw [List.zipIdx_map, List.filter_map]
  rfl

theorem filterMap_member? (judge : Judge) (name : String) (members : List (Schema × Nat)) :
    members.filterMap (member? judge name data) =
      (members.filter fun member => judge.accepts data member.1).map fun member =>
        ⟨judge.output data member.1,
          Outcome.wrap name (some (toString member.2)) none (judge member.1 data).warnings⟩ := by
  rw [← List.filterMap_eq_map', List.filterMap_filter]
  rfl

theorem settles_exactlyOne (judge : Judge) (members : List Schema) :
    Settles (exactlyOne data (members.map (judge · data)))
      (only? (members.zipIdx.filterMap (member? judge "oneOf" data))) := by
  unfold exactlyOne
  rw [List.partition_eq_filter_filter, filter_zipIdx_judged, filterMap_member?]
  cases hpassing : members.zipIdx.filter fun member => judge.accepts data member.1 with
  | nil => exact List.append_ne_nil_of_right_ne_nil _ (List.cons_ne_nil _ _)
  | cons member others =>
    cases others with
    | nil =>
      obtain ⟨member, i⟩ := member
      have hmem : (member, i) ∈
          members.zipIdx.filter fun member => judge.accepts data member.1 := by
        rw [hpassing]
        exact List.mem_cons_self
      have haccepted : (judge member data).errors = [] := by
        simpa [Judge.accepts] using (List.mem_filter.1 hmem).2
      show (joined [(judge member data, i)]).setValue (judge.output data member) = _
      rw [joined, List.foldl_cons, List.foldl_nil, memberOutcome_of_accepted haccepted]
      rfl
    | cons second rest => exact List.append_ne_nil_of_right_ne_nil _ (List.cons_ne_nil _ _)

theorem settles_oneOf (hn : ctx.Framed) (members : List Schema) :
    Settles (oneOf ctx data members depth).1
      (only? (members.zipIdx.filterMap (member? (ctx.judge depth) "oneOf" data))) := by
  rw [oneOf, (framed_memberOutcomes hn _ _).bind_apply, memberOutcomes_apply hn]
  exact settles_exactlyOne (ctx.judge depth) members

/-! ## All groups -/

/-- Outcomes of groups, in their order. -/
def AllSettle (judge : Judge) (data : Json) (all : List CombineGroup)
    (outcomes : List (Outcome Json)) : Prop :=
  List.Forall₂ (fun group o => Settles o (group.passed? judge data)) all outcomes

theorem settles_groupOutcome {judge : Judge} {rule : GroupRule} {run : List Schema → Run}
    (h : ∀ members, Settles (run members depth).1 (passed? judge data ⟨rule, members⟩))
    (group : Option (List Schema)) :
    AllSettle judge data ([⟨rule, group.getD []⟩].filter fun g => !g.members.isEmpty)
      (groupOutcome group run depth).1 := by
  match group with
  | none | some [] => exact .nil
  | some (member :: rest) => exact .cons (h _) .nil

theorem settles_groups (hn : ctx.Framed) (c : CombineSchema) :
    AllSettle (ctx.judge depth) data c.counted (groups ctx c data depth).1 := by
  have hcounted : ∀ a b c : CombineGroup, [a, b, c].filter (fun g => !g.members.isEmpty) =
      [a].filter (fun g => !g.members.isEmpty) ++ [b].filter (fun g => !g.members.isEmpty) ++
        [c].filter (fun g => !g.members.isEmpty) := by
    intro a b c
    rw [← List.filter_append, ← List.filter_append]
    rfl
  rw [CombineSchema.counted, hcounted, groups,
    (framed_groupOutcome (framed_allOf hn 0 data) _).bind_apply,
    (framed_groupOutcome (framed_anyOf hn data 0) _).bind_apply,
    (framed_groupOutcome (framed_oneOf hn data) _).bind_apply]
  refine List.rel_append (List.rel_append ?_ ?_) ?_
  · exact settles_groupOutcome (settles_allOf hn 0 data) c.allOf
  · exact settles_groupOutcome (settles_anyOf hn 0) c.anyOf
  · exact settles_groupOutcome (settles_oneOf hn) c.oneOf

/-- The outcomes without errors are those of the groups that data passes. -/
theorem AllSettle.filter_eq {judge : Judge} {all : List CombineGroup}
    {outcomes : List (Outcome Json)} (h : AllSettle judge data all outcomes) :
    outcomes.filter (fun o => !o.hasError) =
      (all.filterMap (passed? judge data)).map Passed.outcome := by
  induction h with
  | nil => rfl
  | @cons group o rest others hsettles _ ih =>
    rw [List.filterMap_cons]
    cases hpassed : passed? judge data group with
    | none =>
      rw [hpassed] at hsettles
      rw [List.filter_cons_of_neg (by simpa [Settles, Outcome.hasError] using hsettles), ih]
    | some passed =>
      rw [hpassed] at hsettles
      obtain rfl : o = passed.outcome := hsettles
      rw [List.filter_cons_of_pos (by rfl), ih]
      rfl

theorem strategyFault?_eq_none {α : Type} {strategy : CombineStrategy} {passes : α → Bool}
    {all : List α} :
    strategyFault? strategy all.length (all.countP passes) = none ↔
      strategy.content passes all = true := by
  cases strategy with
  | all => simp [strategyFault?, CombineStrategy.content, List.countP_eq_length]
  | any => simp [strategyFault?, CombineStrategy.content]
  | one => simp [strategyFault?, CombineStrategy.content]

theorem foldl_merge_outcome (passed : List Passed) (warnings : List Diagnostic) :
    (passed.map Passed.outcome).foldl Outcome.merge (⟨none, [], warnings⟩ : Outcome Json) =
      ⟨none, [], warnings ++ passed.flatMap (·.warnings)⟩ := by
  induction passed generalizing warnings with
  | nil => simp
  | cons first rest ih =>
    rw [List.map_cons, List.foldl_cons, List.flatMap_cons, ← List.append_assoc, ← ih]
    rfl

/-- **What groups give together.** If the strategy is content, that is what the groups give that
data passes; else there is an error on the strategy, after all others. -/
theorem joinGroups_of_settled {judge : Judge} {all : List CombineGroup}
    {outcomes : List (Outcome Json)} (h : AllSettle judge data all outcomes)
    (strategy : CombineStrategy) :
    if strategy.content (valid judge data) all then
      joinGroups strategy data outcomes =
        (Passed.joined data (all.filterMap (passed? judge data))).outcome
    else ∃ before reason,
      (joinGroups strategy data outcomes).errors = before ++ [.of "strategy" reason] := by
  have hlength : outcomes.length = all.length := h.length_eq.symm
  have hpassing : (outcomes.filter fun o => !o.hasError).length =
      all.countP (valid judge data) := by
    rw [h.filter_eq, List.length_map, List.length_filterMap_eq_countP]
    simp only [isSome_passed?]
  unfold joinGroups
  dsimp only
  rw [hlength, hpassing]
  cases hfault : strategyFault? strategy all.length (all.countP (valid judge data)) with
  | none =>
    rw [if_pos (strategyFault?_eq_none.1 hfault), h.filter_eq]
    change Outcome.setValue (List.foldl _ ⟨none, [], []⟩ _) _ = _
    rw [foldl_merge_outcome, List.head?_map]
    cases all.filterMap (passed? judge data) <;> rfl
  | some reason =>
    rw [if_neg fun hcontent => by rw [strategyFault?_eq_none.2 hcontent] at hfault; cases hfault]
    exact ⟨_, reason, rfl⟩

/-- A combination gives data that is there to its groups. -/
theorem combine_apply {s : Schema} {c : CombineSchema} (hkind : s.kind = .combine c)
    (hdata : data ≠ .null) :
    (Run.ofStep (combine ctx s (some data)) depth).1 =
      (Noted.merged (grouped ctx c data depth).1).toOutcome := by
  have hgiven : given s (some data) = pure (some data) := by
    have hpresent : Json.present (some data) = some data :=
      Json.present_of_ne_null fun heq => hdata (Option.some.inj heq)
    simp [given, hpresent]
  unfold combine
  rw [hkind]
  simp only [hgiven]
  rfl

end Validate

namespace Validator

/-- **What combinations accept, and what they give.** -/
theorem combine_iff (options : ValidatorOptions) (top : Option TopSchema) (n depth : Nat)
    (required : Bool) (default : Option Json) (c : CombineSchema) {data : Json}
    (hdata : data ≠ .null) :
    let judge := ((builtin options).context top n).judge depth
    let o := ((builtin options).validateWithin top (n + 1) ⟨required, default, .combine c⟩
      (some data) depth).1
    (o.errors = [] ↔ c.strategy.content (CombineGroup.valid judge data) c.counted = true) ∧
      (o.errors = [] → o = (CombineGroup.Passed.joined data
        (c.counted.filterMap (CombineGroup.passed? judge data))).outcome) ∧
      (o.errors ≠ [] → o.value? = none ∧
        ∃ before reason, o.errors = before ++ [.of "strategy" reason]) := by
  intro judge o
  have hn : ((builtin options).context top n).Framed :=
    fun s data => framed_validateWithin options top n s data
  have ho : o = (Noted.merged (joinGroups c.strategy data
      (groups ((builtin options).context top n) c data depth).1)).toOutcome := by
    exact combine_apply (s := ⟨required, default, .combine c⟩) rfl hdata
  have hsettles : AllSettle judge data c.counted
      (groups ((builtin options).context top n) c data depth).1 := settles_groups hn c
  have hjoined := joinGroups_of_settled hsettles c.strategy
  split at hjoined
  · next hcontent =>
    rw [hjoined] at ho
    have herrors : o.errors = [] := by rw [ho]; rfl
    exact ⟨iff_of_true herrors hcontent, fun _ => ho, fun hsome => absurd herrors hsome⟩
  · next hcontent =>
    obtain ⟨before, reason, hreason⟩ := hjoined
    have herrors : o.errors = before ++ [.of "strategy" reason] := by
      rw [ho, ← hreason]
      rfl
    have hsome : o.errors ≠ [] := by simp [herrors]
    refine ⟨iff_of_false hsome hcontent, fun hnone => absurd hnone hsome,
      fun _ => ⟨?_, _, _, herrors⟩⟩
    simp [Outcome.value?, Outcome.hasError, hsome]

/-- A list of flags, or an integer. -/
def flagsOrInteger : CombineSchema :=
  { strategy := .all
    allOf := none
    anyOf := some [.ofKind (.array (.ofKind .boolean) false),
      .ofKind (.integer ⟨none, none, none, none, none⟩)]
    oneOf := some [] }

theorem combine_iff_integer :
    Json.str "1" ≠ .null ∧
      ((builtin {}).validateWithin none 2 ⟨true, none, .combine flagsOrInteger⟩
        (some (.str "1")) 0).1 = .ofValue (.ofInt64 1) := by
  have hne : Json.str "1" ≠ .null := by simp
  obtain ⟨hiff, hvalue, -⟩ := combine_iff {} none 1 0 true none flagsOrInteger hne
  exact ⟨hne, (hvalue (hiff.2 rfl)).trans rfl⟩

end Validator

end DataSchema
