import DataSchema.Binary64.Reading
import DataSchema.Proofs.Regex.Means
import DataSchema.Proofs.Text.Character
import DataSchema.Regex.Parser

/-!
# Rounds of the pattern parser

The parser goes over a pattern in rounds, each of which takes an item, a repetition, a bar or a
parenthesis. `Reaches s s'` says that some rounds lead from one state to another. Since each takes a
character at least, the rounds that the parser has at the start last to the end of the pattern.

States are given as `before outer o rest b`: at offset `o`, before the characters `rest`, in the
modes of the start and with the branches `b`. The characters that one step takes stand in front of
any others, so steps can be put one behind the other.
-/

namespace DataSchema.Regex.Parser

/-- Two characters that are the ends of a range in a class. -/
def IsRange (first last : Char) : Prop :=
  first ∉ ['[', ']', '\\', '-', '^'] ∧ last ∉ [']', '\\', '-'] ∧ first ≤ last

instance (first last : Char) : Decidable (IsRange first last) :=
  inferInstanceAs (Decidable (_ ∧ _))

/-- What the elements of a class are written as, one behind the other, and the sets that they are:
single characters and ranges, where no two characters in a row are an operation. -/
inductive ClassText : List Char → List CharSet → Prop
  | nil : ClassText [] []
  | range {first last : Char} {text : List Char} {sets : List CharSet}
      (hrange : IsRange first last) (h : ClassText text sets) :
      ClassText (first :: '-' :: last :: text) (.range first last :: sets)
  | single {c : Char} {text : List Char} {sets : List CharSet} (hplain : c ∉ ['[', ']', '\\'])
      (hdouble : c ∈ ['&', '-', '~'] → text.head? ≠ some c)
      (hrange : text.head? = some '-' → text = ['-']) (h : ClassText text sets) :
      ClassText (c :: text) (.single c :: sets)

variable {s s' s'' outer : State} {text rest : List Char} {c first last : Char} {o fuel : Nat}
  {t : Tree} {b : Branches} {sets : List CharSet}

/-! ## Rounds -/

/-- The parser comes from one state to another in rounds that take a character each at least. -/
def Reaches (s s' : State) : Prop :=
  ∃ rounds, rounds + s'.rest.length ≤ s.rest.length ∧
    ∀ fuel, body (rounds + fuel) s = body fuel s'

theorem Reaches.refl (s : State) : Reaches s s :=
  ⟨0, by omega, fun fuel => by rw [Nat.zero_add]⟩

theorem Reaches.trans (h : Reaches s s') (h' : Reaches s' s'') : Reaches s s'' := by
  obtain ⟨m, hm, hbody⟩ := h
  obtain ⟨n, hn, hbody'⟩ := h'
  exact ⟨m + n, by omega, fun fuel => by rw [Nat.add_assoc, hbody, hbody']⟩

theorem reaches_of_round (hlt : s'.rest.length < s.rest.length)
    (h : ∀ fuel, body (fuel + 1) s = body fuel s') : Reaches s s' :=
  ⟨1, by omega, fun fuel => by rw [Nat.add_comm, h]⟩

/-! ## States -/

/-- The state of a parser in the modes of the start before the rest of a pattern. -/
def before (outer : State) (offset : Nat) (rest : List Char) (b : Branches) : State :=
  { outer with offset, rest, flags := {}, branches := b }

section

variable {α β : Type}

@[simp] theorem bind_apply (m : Parser α) (f : α → Parser β) (s : State) :
    (m >>= f) s = m s >>= fun p => f p.1 p.2 := rfl

@[simp] theorem ok_bind (a : α) (f : α → Except Fault β) : (.ok a >>= f) = f a := rfl

@[simp] theorem pure_apply (a : α) (s : State) : (pure a : Parser α) s = .ok (a, s) := rfl

@[simp] theorem get_apply (s : State) : (get : Parser State) s = .ok (s, s) := rfl

@[simp] theorem set_apply (s s' : State) : (set s' : Parser PUnit) s = .ok (⟨⟩, s') := rfl

end

@[simp] theorem rest_before : (before outer o rest b).rest = rest := rfl

@[simp] theorem offset_before :
    offset (before outer o rest b) = .ok (o, before outer o rest b) := rfl

@[simp] theorem flags_before :
    flags (before outer o rest b) = .ok ({}, before outer o rest b) := rfl

@[simp] theorem atEnd_before :
    atEnd (before outer o rest b) = .ok (rest.isEmpty, before outer o rest b) := rfl

theorem peek_before_headD :
    peek (before outer o rest b) = .ok (rest.headD '\x00', before outer o rest b) := rfl

@[simp] theorem peek_before :
    peek (before outer o (c :: rest) b) = .ok (c, before outer o (c :: rest) b) := rfl

@[simp] theorem peekSecond_before :
    peekSecond (before outer o (c :: rest) b) = .ok (rest.head?, before outer o (c :: rest) b) :=
  rfl

@[simp] theorem peekSecondSpace_before :
    peekSecondSpace (before outer o (c :: rest) b) =
      .ok (rest.head?, before outer o (c :: rest) b) := rfl

@[simp] theorem bump_before :
    bump (before outer o (c :: rest) b) = .ok (!rest.isEmpty, before outer (o + 1) rest b) := rfl

@[simp] theorem bumpSpace_before :
    bumpSpace (before outer o rest b) = .ok ((), before outer o rest b) := rfl

@[simp] theorem bumpAndSpace_before :
    bumpAndSpace (before outer o (c :: rest) b) =
      .ok (!rest.isEmpty, before outer (o + 1) rest b) := by
  cases rest <;> rfl

/-! ## Characters -/

/-- A character that stands for itself wherever it stands. -/
def IsPlain (c : Char) : Prop :=
  c ∉ ['(', ')', '|', '[', '?', '*', '+', '\x7b', '\\', '.', '^', '$']

instance : DecidablePred IsPlain := fun c => inferInstanceAs (Decidable (c ∉ _))

theorem primitive_before (hc : IsPlain c) :
    primitive (before outer o (c :: rest) b) =
      .ok ((), before outer (o + 1) rest (b.push (.literal {} ⟨c, false, ⟨o, o + 1⟩⟩))) := by
  simp only [primitive, bind_apply, peek_before, offset_before, flags_before, ok_bind]
  split
  · simp [IsPlain] at hc
  · simp [IsPlain] at hc
  · simp [IsPlain] at hc
  · simp [IsPlain] at hc
  · rfl

/-- A round takes a plain character. -/
theorem body_plain (hc : IsPlain c) (fuel : Nat) :
    body (fuel + 1) (before outer o (c :: rest) b) =
      body fuel (before outer (o + 1) rest (b.push (.literal {} ⟨c, false, ⟨o, o + 1⟩⟩))) := by
  have hprimitive : primitive (before outer o (c :: rest) b) = _ := primitive_before hc
  simp only [IsPlain, List.mem_cons, List.not_mem_nil, or_false, not_or] at hc
  simp only [body, bind_apply, bumpSpace_before, atEnd_before, ok_bind, List.isEmpty_cons,
    Bool.false_eq_true, if_false, peek_before]
  split
  all_goals first | simp at hc | rw [bind_apply, hprimitive, ok_bind]

/-! ## Classes -/

theorem classPrimitive_before (hc : c ≠ '\\') :
    classPrimitive (before outer o (c :: rest) b) =
      .ok (.literal ⟨c, false, ⟨o, o + 1⟩⟩, before outer (o + 1) rest b) := by
  unfold classPrimitive
  rw [bind_apply, peek_before, ok_bind, if_neg hc]
  rfl

theorem classRange_range (h : IsRange first last) (frames : List ClassFrame) :
    classRange frames (before outer o (first :: '-' :: last :: rest) b) =
      .ok (.range ⟨first, false, ⟨o, o + 1⟩⟩ ⟨last, false, ⟨o + 2, o + 3⟩⟩,
        before outer (o + 3) rest b) := by
  simp only [IsRange, List.mem_cons, List.not_mem_nil, or_false, not_or] at h
  obtain ⟨⟨-, -, hfirst, -, -⟩, ⟨hbracket, hescape, hhyphen⟩, hle⟩ := h
  have hordered : ¬ last < first := Char.not_lt.2 hle
  simp [classRange, classPrimitive_before, hfirst, hbracket, hescape, hhyphen, rangeEnd, hordered]

theorem classRange_single (hplain : c ≠ '\\') (hrest : rest ≠ [])
    (hrange : rest.head? = some '-' → rest.tail.head? = some ']') (frames : List ClassFrame) :
    classRange frames (before outer o (c :: rest) b) =
      .ok (.literal ⟨c, false, ⟨o, o + 1⟩⟩, before outer (o + 1) rest b) := by
  obtain ⟨next, rest, rfl⟩ := List.exists_cons_of_ne_nil hrest
  simp only [List.head?_cons, List.tail_cons, Option.some.injEq] at hrange
  have hliteral : (decide (next ≠ '-') || decide (rest.head? = some ']') ||
      decide (rest.head? = some '-')) = true := by
    by_cases hnext : next = '-'
    · simp [hrange hnext]
    · simp [hnext]
  simp only [classRange, bind_apply, classPrimitive_before hplain, ok_bind, bumpSpace_before,
    atEnd_before, List.isEmpty_cons, Bool.false_eq_true, if_false, peekSecondSpace_before,
    peek_before, if_pos hliteral]
  rfl

/-- A round of a class takes an element. -/
theorem classBody_succ {element : SetTree} {frames : List ClassFrame} (hplain : c ∉ ['[', ']'])
    (hdouble : c ∈ ['&', '-', '~'] → rest.head? ≠ some c)
    (h : classRange frames (before outer o (c :: rest) b) = .ok (element, s')) (e : Elements)
    (fuel : Nat) :
    classBody (fuel + 1) frames e (before outer o (c :: rest) b) =
      classBody fuel frames (e.push element) s' := by
  simp only [List.mem_cons, List.not_mem_nil, or_false, not_or] at hplain
  have hoperation {x : Char} (hx : x ∈ ['&', '-', '~']) : ¬ (c = x ∧ rest.head? = some x) := by
    rintro ⟨rfl, hhead⟩
    exact hdouble hx hhead
  rw [classBody]
  simp [hplain, hoperation, h]

/-- The last round of a class takes the bracket. -/
theorem classBody_close {outside : Elements} {negated : Bool} {opening : Span} (e : Elements)
    (fuel : Nat) :
    classBody (fuel + 1) [.opened outside negated opening] e (before outer o (']' :: rest) b) =
      .ok (.bracketed negated e.tree ⟨opening.first, o + 1⟩, before outer (o + 1) rest b) := by
  rw [classBody]
  simp only [bind_apply, bumpSpace_before, atEnd_before, peek_before, peekSecond_before, ok_bind,
    closeOp, bump_before, offset_before, List.isEmpty_cons, Bool.false_eq_true, if_false,
    Char.reduceEq, if_true, List.isEmpty_nil, pure_apply]

/-- The elements of a class are read up to its bracket, which is the outermost one. -/
def ReadsElements (text : List Char) (sets : List CharSet) : Prop :=
  ∀ (outside : Elements) (negated : Bool) (opening : Span) (outer : State) (o : Nat)
    (rest : List Char) (b : Branches) (e : Elements) (fuel : Nat), text.length < fuel →
    ∃ items o', List.Forall₂ ElementMeans items sets ∧
      classBody fuel [.opened outside negated opening] e (before outer o (text ++ ']' :: rest) b) =
        .ok (.bracketed negated (.ofItems e.first (e.items.reverse ++ items)) ⟨opening.first, o'⟩,
          before outer o' rest b)

theorem readsElements_nil : ReadsElements [] [] := by
  intro outside negated opening outer o rest b e fuel hfuel
  obtain ⟨fuel, rfl⟩ := Nat.exists_eq_add_of_lt hfuel
  refine ⟨[], o + 1, .nil, ?_⟩
  rw [List.append_nil]
  exact classBody_close ..

/-- An element before others; `row` is what it has after its first character. -/
theorem ReadsElements.cons {set : CharSet} (row : List Char) (h : ReadsElements text sets)
    (hplain : c ∉ ['[', ']']) (hdouble : c ∈ ['&', '-', '~'] → (row ++ text).head? ≠ some c)
    (hrange : ∀ (frames : List ClassFrame) (outer : State) (o : Nat) (rest : List Char)
      (b : Branches), ∃ element o', ElementMeans element set ∧
        classRange frames (before outer o (c :: (row ++ (text ++ ']' :: rest))) b) =
          .ok (element, before outer o' (text ++ ']' :: rest) b)) :
    ReadsElements (c :: (row ++ text)) (set :: sets) := by
  intro outside negated opening outer o rest b e fuel hfuel
  obtain ⟨fuel, rfl⟩ : ∃ n, fuel = n + 1 := ⟨fuel - 1, by omega⟩
  simp only [List.length_cons, List.length_append] at hfuel
  obtain ⟨element, o', hmeans, helement⟩ := hrange [.opened outside negated opening] outer o rest b
  have hdouble' : c ∈ ['&', '-', '~'] → (row ++ (text ++ ']' :: rest)).head? ≠ some c := by
    intro hc heq
    rw [← List.append_assoc] at heq
    cases hrow : row ++ text with
    | nil =>
      rw [hrow] at heq
      obtain rfl : ']' = c := Option.some.inj heq
      simp at hplain
    | cons next tail =>
      rw [hrow] at heq
      exact hdouble hc (hrow ▸ heq)
  obtain ⟨items, o'', hitems, hbody⟩ :=
    h outside negated opening outer o' rest b (e.push element) fuel (by omega)
  refine ⟨element :: items, o'', .cons hmeans hitems, ?_⟩
  rw [List.cons_append, List.append_assoc, classBody_succ hplain hdouble' helement, hbody]
  simp [Elements.push]

theorem ClassText.reads (h : ClassText text sets) : ReadsElements text sets := by
  induction h with
  | nil => exact readsElements_nil
  | @range first last text sets hrange _ ih =>
    have hfirst := hrange.1
    simp only [List.mem_cons, List.not_mem_nil, or_false, not_or] at hfirst
    obtain ⟨hopen, hclose, -, hhyphen, -⟩ := hfirst
    refine ih.cons ['-', last] (by simp [hopen, hclose]) ?_ fun frames outer o rest b => ?_
    · exact fun _ heq => hhyphen (Option.some.inj heq).symm
    · exact ⟨_, _, elementMeans_range _ _, classRange_range hrange frames⟩
  | @single c text sets hplain hdouble hrange _ ih =>
    simp only [List.mem_cons, List.not_mem_nil, or_false, not_or] at hplain
    obtain ⟨hopen, hclose, hescape⟩ := hplain
    refine ih.cons [] (by simp [hopen, hclose]) hdouble fun frames outer o rest b => ?_
    refine ⟨_, _, elementMeans_literal _, classRange_single hescape (by simp) ?_ frames⟩
    cases text with
    | nil => simp
    | cons next text =>
      intro hhead
      obtain ⟨rfl, rfl⟩ := List.cons.inj (hrange hhead)
      rfl

/-- Characters that are elements each. None stands twice, and only the last may be a hyphen. -/
theorem classText_singles (row : List Char) (hplain : ∀ c ∈ row, c ∉ ['[', ']', '\\'])
    (hnodup : row.Nodup) (hhyphen : '-' ∉ row.dropLast) : ClassText row (row.map .single) := by
  induction row with
  | nil => exact .nil
  | cons c row ih =>
    obtain ⟨hc, hplain⟩ := List.forall_mem_cons.1 hplain
    obtain ⟨hnot, hnodup⟩ := List.nodup_cons.1 hnodup
    have htail : '-' ∉ row.dropLast := fun hmem => hhyphen (by
      cases row with
      | nil => simp at hmem
      | cons next row => exact List.mem_cons_of_mem c hmem)
    refine .single hc (fun _ hhead => hnot (List.mem_of_head? hhead)) (fun hhead => ?_)
      (ih hplain hnodup htail)
    obtain ⟨more, rfl⟩ := List.head?_eq_some_iff.1 hhead
    cases more with
    | nil => rfl
    | cons next more => simp at htail

/-- Hyphens that could stand first are passed over, and there are none. -/
theorem leadingHyphens_before (hc : c ≠ '-') (start : Nat) (e : Elements) :
    leadingHyphens start (fuel + 1) e (before outer o (c :: rest) b) =
      .ok (e, before outer o (c :: rest) b) := by
  simp only [leadingHyphens, bind_apply, peek_before, ok_bind, hc, if_false, pure_apply]

theorem openClass_before (hc : c ∉ ['^', '-', ']']) (e : Elements) :
    openClass e (before outer o ('[' :: c :: rest) b) =
      .ok ((.opened e false ⟨o, o + 1⟩, ⟨o + 1, []⟩), before outer (o + 1) (c :: rest) b) := by
  simp only [List.mem_cons, List.not_mem_nil, or_false, not_or] at hc
  obtain ⟨hcaret, hhyphen, hbracket⟩ := hc
  have hhyphens : leadingHyphens o ((c :: rest).length + 1) ⟨o + 1, []⟩
      (before outer (o + 1) (c :: rest) b) = _ := leadingHyphens_before hhyphen o ⟨o + 1, []⟩
  simp only [openClass, bind_apply, offset_before, ok_bind, bumpAndSpace_before, List.isEmpty_cons,
    Bool.not_false, Bool.not_true, Bool.false_eq_true, if_false, peek_before, hcaret, decide_false]
  change (leadingHyphens o ((c :: rest).length + 1) ⟨o + 1, []⟩
    (before outer (o + 1) (c :: rest) b) >>= fun p => _) = _
  rw [hhyphens, ok_bind]
  simp only [List.isEmpty_nil, Bool.true_and, bind_apply, peek_before, ok_bind, hbracket,
    decide_false, Bool.false_eq_true, if_false, pure_apply, offset_before]

/-- A class is read up to its bracket. -/
theorem bracketed_before (hc : c ∉ ['^', '-', ']']) (h : ClassText (c :: text) sets)
    (outer : State) (o : Nat) (rest : List Char) (b : Branches) :
    ∃ items o', List.Forall₂ ElementMeans items sets ∧
      bracketed (before outer o ('[' :: c :: (text ++ ']' :: rest)) b) =
        .ok (.bracketed false (.ofItems (o + 1) items) ⟨o, o'⟩, before outer o' rest b) := by
  let whole := '[' :: c :: (text ++ ']' :: rest)
  obtain ⟨items, o', hitems, hbody⟩ := h.reads ⟨o, []⟩ false ⟨o, o + 1⟩ outer (o + 1) rest b
    ⟨o + 1, []⟩ (whole.length + 1) (by simp [whole]; omega)
  refine ⟨items, o', hitems, ?_⟩
  have hbracketed : bracketed (before outer o whole b) =
      openClass ⟨o, []⟩ (before outer o whole b) >>= fun p =>
        classBody (whole.length + 1) [p.1.1] p.1.2 p.2 := rfl
  rw [hbracketed, openClass_before hc, ok_bind]
  exact hbody

/-! ## Repetitions -/

/-- A tree that a repetition can repeat. -/
def Repeatable (t : Tree) : Prop := t ≠ .modes ∧ t ≠ .empty

/-- No mark follows that would make a repetition lazy. -/
def NoLazyMark (rest : List Char) : Prop := rest.head? ≠ some '?'

theorem noLazyMark_cons (hc : c ≠ '?') (rest : List Char) : NoLazyMark (c :: rest) :=
  fun hhead => hc (Option.some.inj hhead)

theorem NoLazyMark.append (h : NoLazyMark text) (hrest : NoLazyMark rest) :
    NoLazyMark (text ++ rest) := by
  cases text with
  | nil => exact hrest
  | cons c text => exact h

theorem NoLazyMark.test_eq_false (h : NoLazyMark rest) :
    (!rest.isEmpty && decide (rest.headD '\x00' = '?')) = false := by
  cases rest with
  | nil => rfl
  | cons c rest =>
    have hc : c ≠ '?' := fun heq => h (heq ▸ rfl)
    simp [hc]

theorem popRepeated_before (ht : Repeatable t) :
    popRepeated (before outer o rest (b.push t)) = .ok (t, before outer o rest b) := by
  cases t with
  | modes => exact absurd rfl ht.1
  | empty => exact absurd rfl ht.2
  | _ => rfl

theorem skipLazyMark_before (h : NoLazyMark rest) :
    skipLazyMark (before outer o rest b) = .ok ((), before outer o rest b) := by
  unfold skipLazyMark
  rw [bind_apply, atEnd_before, ok_bind, bind_apply, peek_before_headD, ok_bind]
  simp only [h.test_eq_false]
  rfl

theorem simpleRepetition_before (ht : Repeatable t) (h : NoLazyMark rest) (least : Nat)
    (most : Option Nat) :
    simpleRepetition least most (before outer o (c :: rest) (b.push t)) =
      .ok ((), before outer (o + 1) rest
        (b.push (.rep t least most ⟨t.span.first, o + 1⟩))) := by
  unfold simpleRepetition
  rw [bind_apply, popRepeated_before ht, ok_bind, bind_apply, bump_before, ok_bind, bind_apply,
    skipLazyMark_before h, ok_bind]
  rfl

/-! ## Counts -/

/-- A row of digits and the number that it writes. -/
structure IsCount (digits : List Char) (n : Nat) : Prop where
  ne_nil : digits ≠ []
  isDigit : ∀ c ∈ digits, c.isDigit = true
  value : natOfDigits digits = n
  lt : n < UInt32.size

theorem IsCount.exists_cons {digits : List Char} {n : Nat} (h : IsCount digits n) :
    ∃ c more, digits = c :: more ∧ c.isDigit = true := by
  obtain ⟨c, more, rfl⟩ := List.exists_cons_of_ne_nil h.ne_nil
  exact ⟨c, more, rfl, h.isDigit c List.mem_cons_self⟩

theorem isCount_digitChar {n : Nat} (h : n < 10) : IsCount [n.digitChar] n := by
  have hdigit : ∀ n < 10, n.digitChar.isDigit = true := by decide
  have hvalue : ∀ n < 10, natOfDigits [n.digitChar] = n := by decide
  refine ⟨nofun, ?_, hvalue n h, ?_⟩
  · rintro c hc
    rw [List.mem_singleton.1 hc]
    exact hdigit n h
  · rw [UInt32.size]
    omega

theorem isSpace_of_isDigit (hc : c.isDigit = true) : isSpace c = false := by
  rw [Text.isDigit_iff] at hc
  simp [isSpace, Unicode.isWhitespace, Unicode.whitespace, Unicode.Table.contains]
  omega

theorem takeWhile_before {test : Char → Bool} (row : List Char) (hrow : ∀ c ∈ row, test c = true)
    (hrest : ∀ c ∈ rest.head?, test c = false) (hfuel : row.length < fuel) (taken : List Char) :
    takeWhile test fuel taken (before outer o (row ++ rest) b) =
      .ok (taken.reverse ++ row, before outer (o + row.length) rest b) := by
  induction row generalizing o fuel taken with
  | nil =>
    obtain ⟨fuel, rfl⟩ := Nat.exists_eq_add_of_lt hfuel
    cases rest with
    | nil => simp [takeWhile]
    | cons c rest => simp [takeWhile, hrest c rfl]
  | cons c row ih =>
    obtain ⟨fuel, rfl⟩ : ∃ n, fuel = n + 1 := ⟨fuel - 1, by omega⟩
    simp only [List.length_cons] at hfuel
    obtain ⟨hc, hrow⟩ := List.forall_mem_cons.1 hrow
    simp only [takeWhile, List.cons_append, bind_apply, atEnd_before, ok_bind, List.isEmpty_cons,
      Bool.false_eq_true, if_false, peek_before, hc, if_true, bumpAndSpace_before]
    rw [ih hrow (by omega)]
    simp [Nat.add_assoc, Nat.add_comm 1]

/-- A comma or a brace ends a count. -/
theorem count_before {digits : List Char} {n : Nat} (h : IsCount digits n)
    (hc : c = ',' ∨ c = '\x7d') :
    count (before outer o (digits ++ c :: rest) b) =
      .ok (.ok n, before outer (o + digits.length) (c :: rest) b) := by
  obtain ⟨hne, hdigits, rfl, hlt⟩ := h
  have hdigit : c.isDigit = false := by rcases hc with rfl | rfl <;> rfl
  have hspace : isSpace c = false := by rcases hc with rfl | rfl <;> decide
  have hblanks : (digits ++ c :: rest).takeWhile isSpace = [] := by
    obtain ⟨first, digits, rfl⟩ := List.exists_cons_of_ne_nil hne
    rw [List.cons_append, List.takeWhile_cons_of_neg]
    simp [isSpace_of_isDigit (hdigits first List.mem_cons_self)]
  have hrow : takeWhile Char.isDigit (digits ++ c :: rest).length []
      (before outer o (digits ++ c :: rest) b) = _ :=
    takeWhile_before digits hdigits (by simpa using hdigit) (by simp) []
  have hafter : takeWhile isSpace (c :: rest).length []
      (before outer (o + digits.length) (c :: rest) b) = _ :=
    takeWhile_before [] nofun (by simpa using hspace) (by simp) []
  have hfold : digits.foldl (fun n c => 10 * n + (c.toNat - '0'.toNat)) 0 = natOfDigits digits :=
    rfl
  simp only [count, bind_apply, get_apply, set_apply, ok_bind, rest_before, hblanks]
  change (takeWhile Char.isDigit (digits ++ c :: rest).length []
    (before outer o (digits ++ c :: rest) b) >>= fun p => _) = _
  rw [hrow, ok_bind]
  change (takeWhile isSpace (c :: rest).length []
    (before outer (o + digits.length) (c :: rest) b) >>= fun p => _) = _
  rw [hafter, ok_bind]
  simp only [List.reverse_nil, List.nil_append, List.isEmpty_eq_false_iff.2 hne, Bool.false_eq_true,
    if_false, hfold, if_neg (Nat.not_le.2 hlt)]
  rfl

/-- The text between braces that says how often something is repeated. -/
inductive BoundsText : List Char → Nat → Option Nat → Prop
  | exact {digits : List Char} {n : Nat} (h : IsCount digits n) : BoundsText digits n (some n)
  | least {digits : List Char} {n : Nat} (h : IsCount digits n) :
      BoundsText (digits ++ [',']) n none
  | both {digits digits' : List Char} {m n : Nat} (h : IsCount digits m) (h' : IsCount digits' n)
      (hle : m ≤ n) : BoundsText (digits ++ ',' :: digits') m (some n)

variable {least : Nat} {most : Option Nat}

theorem bounds_before (h : BoundsText text least most) (start : Nat) (outer : State) (o : Nat)
    (rest : List Char) (b : Branches) :
    ∃ o', bounds start (before outer o (text ++ '\x7d' :: rest) b) =
      .ok ((least, most), before outer o' ('\x7d' :: rest) b) := by
  cases h with
  | exact h =>
    refine ⟨o + text.length, ?_⟩
    simp only [bounds, bind_apply, count_before h (.inr rfl), ok_bind, atEnd_before,
      List.isEmpty_cons, Bool.false_eq_true, if_false, peek_before, Char.reduceEq, needed,
      pure_apply]
  | @least digits n h =>
    refine ⟨o + digits.length + 1, ?_⟩
    simp only [List.append_assoc, List.singleton_append, bounds, bind_apply,
      count_before h (.inl rfl), ok_bind, atEnd_before, List.isEmpty_cons, Bool.false_eq_true,
      if_false, peek_before, if_true, bumpAndSpace_before, Bool.not_false, Bool.not_true, needed,
      pure_apply]
  | @both digits digits' m n h h' hle =>
    obtain ⟨first, more, hdigits', hfirst⟩ := h'.exists_cons
    have hpeek : peek (before outer (o + digits.length + 1) (digits' ++ '\x7d' :: rest) b) =
        .ok (first, before outer (o + digits.length + 1) (digits' ++ '\x7d' :: rest) b) := by
      rw [hdigits']
      rfl
    have hmore : (digits' ++ '\x7d' :: rest).isEmpty = false := by simp
    have hne : first ≠ '\x7d' := by
      rintro rfl
      cases hfirst
    refine ⟨o + digits.length + 1 + digits'.length, ?_⟩
    simp only [List.append_assoc, List.cons_append, bounds, bind_apply, count_before h (.inl rfl),
      ok_bind, atEnd_before, List.isEmpty_cons, Bool.false_eq_true, if_false, peek_before, if_true,
      bumpAndSpace_before, hmore, Bool.not_false, Bool.not_true, needed, pure_apply, hpeek, hne,
      count_before h' (.inr rfl)]

theorem BoundsText.any_lt (h : BoundsText text least most) : most.any (· < least) = false := by
  cases h with
  | exact h => simp
  | least h => rfl
  | both h h' hle => simpa using hle

theorem countedRepetition_before (ht : Repeatable t) (h : BoundsText text least most)
    (hrest : NoLazyMark rest) (outer : State) (o : Nat) (b : Branches) :
    ∃ o', countedRepetition (before outer o ('\x7b' :: (text ++ '\x7d' :: rest)) (b.push t)) =
      .ok ((), before outer o' rest (b.push (.rep t least most ⟨t.span.first, o'⟩))) := by
  obtain ⟨o', hbounds⟩ := bounds_before h o outer (o + 1) rest b
  have hmore : (text ++ '\x7d' :: rest).isEmpty = false := by simp
  refine ⟨o' + 1, ?_⟩
  simp only [countedRepetition, bind_apply, offset_before, ok_bind, popRepeated_before ht,
    bumpAndSpace_before, hmore, Bool.not_false, Bool.not_true, Bool.false_eq_true, if_false,
    hbounds, atEnd_before, List.isEmpty_cons, peek_before_headD, List.headD_cons, ne_eq, not_true,
    decide_false, Bool.or_self, hrest.test_eq_false, h.any_lt]
  rfl

/-! ## Groups -/

theorem bumpIf_before (row : String) (hrow : row.toList.head? = some '?') (h : NoLazyMark rest) :
    bumpIf row (before outer o rest b) = .ok (false, before outer o rest b) := by
  have hrest : row.toList.isPrefixOf rest = false := by
    obtain ⟨tail, htail⟩ := List.head?_eq_some_iff.1 hrow
    cases rest with
    | nil => rw [htail]; rfl
    | cons c rest =>
      have hc : '?' ≠ c := fun heq => h (heq ▸ rfl)
      simp [htail, List.isPrefixOf, hc]
  change (if row.toList.isPrefixOf rest then _ else _ : Parser Bool) _ = _
  rw [hrest]
  rfl

/-- A parenthesis without a question mark opens a group that captures. -/
theorem openGroup_before (h : NoLazyMark rest) :
    openGroup (before outer o ('(' :: rest) b) =
      .ok ((), before { outer with frames := ⟨o, true, {}, b⟩ :: outer.frames } (o + 1) rest
        ⟨o + 1, [], ⟨o + 1, []⟩⟩) := by
  simp only [openGroup, bind_apply, offset_before, ok_bind, bump_before, bumpSpace_before, bumpAny,
    bumpIf_before "?=" rfl h, bumpIf_before "?!" rfl h,
    bumpIf_before "?<=" rfl h, bumpIf_before "?<!" rfl h,
    bumpIf_before "?P<" rfl h, bumpIf_before "?<" rfl h,
    bumpIf_before "?" rfl h, Bool.false_eq_true, if_false, pure_apply, flags_before]
  rfl

end DataSchema.Regex.Parser
