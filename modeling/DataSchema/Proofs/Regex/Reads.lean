import DataSchema.Proofs.Regex.Rounds
import DataSchema.Regex.Reading

/-!
# Reading a pattern by its parts

**`parse_of_reads`: a pattern that is read as branches is read as one of them.** What the parts of a
pattern are read as goes together to what the whole is:

* `ReadsItem`: a character, a class, a group, or a condition on the place;
* `ReadsRepetition`: how often the item before it is repeated;
* `ReadsRow`: items in a row, some of them repeated;
* `ReadsBranches`: rows with bars between them.

Each holds wherever the part stands. The one exception is a question mark after a repetition, which
would make it lazy; so each of them says too that its text does not start with one (`NoLazyMark`).
Beside the expression each has a bound for how deep its tree is nested.
-/

namespace DataSchema.Regex.Parser

variable {outer : State} {text text' rest : List Char} {c first last : Char} {o d : Nat} {r : Regex}
  {rs rs' : List Regex} {t : Tree} {ts : List Tree} {b : Branches} {sets : List CharSet}
  {least : Nat} {most : Option Nat}

/-! ## Items -/

/-- A text is read as one item, whatever follows it. -/
structure ReadsItem (text : List Char) (d : Nat) (r : Regex) : Prop where
  noLazyMark (rest : List Char) : NoLazyMark (text ++ rest)
  reads (outer : State) (o : Nat) (rest : List Char) (b : Branches) : ∃ o' t,
    Reaches (before outer o (text ++ rest) b) (before outer o' rest (b.push t)) ∧
      Means d t r ∧ Repeatable t

theorem readsItem_literal (hc : IsPlain c) : ReadsItem [c] d (char c) where
  noLazyMark rest := noLazyMark_cons (fun heq => absurd (heq ▸ hc) (by decide)) rest
  reads _ o _ _ :=
    ⟨o + 1, .literal {} ⟨c, false, ⟨o, o + 1⟩⟩,
      reaches_of_round (Nat.lt_succ_self _) fun fuel => body_plain hc fuel,
      means_literal _, nofun, nofun⟩

theorem readsItem_point : ReadsItem ['\\', '.'] d (char '.') where
  noLazyMark _ := noLazyMark_cons (by decide) _
  reads _ o _ _ :=
    ⟨o + 2, .literal {} ⟨'.', false, ⟨o, o + 2⟩⟩,
      reaches_of_round (Nat.lt_succ_of_lt (Nat.lt_succ_self _)) fun _ => rfl,
      means_literal _, nofun, nofun⟩

theorem readsItem_textStart : ReadsItem ['^'] d (.look .textStart) where
  noLazyMark _ := noLazyMark_cons (by decide) _
  reads _ o _ _ :=
    ⟨o + 1, .look .textStart ⟨o, o + 1⟩, reaches_of_round (Nat.lt_succ_self _) fun _ => rfl,
      means_look _ _, nofun, nofun⟩

theorem readsItem_textEnd : ReadsItem ['$'] d (.look .textEnd) where
  noLazyMark _ := noLazyMark_cons (by decide) _
  reads _ o _ _ :=
    ⟨o + 1, .look .textEnd ⟨o, o + 1⟩, reaches_of_round (Nat.lt_succ_self _) fun _ => rfl,
      means_look _ _, nofun, nofun⟩

theorem readsItem_class (hc : c ∉ ['^', '-', ']']) (h : ClassText (c :: text) sets) :
    ReadsItem ('[' :: c :: (text ++ [']'])) (d + 2) (.chars (classSet sets)) := by
  refine ⟨fun _ => noLazyMark_cons (by decide) _, fun outer o rest b => ?_⟩
  obtain ⟨items, o', hitems, hbracketed⟩ := bracketed_before hc h outer o rest b
  refine ⟨o', .set {} (.bracketed false (.ofItems (o + 1) items) ⟨o, o'⟩),
    reaches_of_round (by simp; omega) fun fuel => ?_, means_class hitems _ _, nofun, nofun⟩
  have hround : body (fuel + 1) (before outer o ('[' :: c :: (text ++ ']' :: rest)) b) =
      bracketed (before outer o ('[' :: c :: (text ++ ']' :: rest)) b) >>= fun p =>
        body fuel { p.2 with branches := p.2.branches.push (.set {} p.1) } := rfl
  rw [List.cons_append, List.cons_append, List.append_assoc, List.singleton_append, hround,
    hbracketed, ok_bind]
  rfl

theorem readsItem_range (h : IsRange first last) :
    ReadsItem ['[', first, '-', last, ']'] (d + 2) (.chars (.range first last)) := by
  have hsubset : ['^', '-', ']'] ⊆ ['[', ']', '\\', '-', '^'] := by simp
  exact readsItem_class (fun hmem => h.1 (hsubset hmem)) (ClassText.range h .nil)

/-! ## Repetitions -/

/-- A text is read as a repetition of the item before it. -/
def ReadsRepetition (text : List Char) (least : Nat) (most : Option Nat) : Prop :=
  ∀ (outer : State) (o : Nat) (rest : List Char) (b : Branches) (t : Tree), NoLazyMark rest →
    Repeatable t → ∃ o' span, Reaches (before outer o (text ++ rest) (b.push t))
      (before outer o' rest (b.push (.rep t least most span)))

theorem readsRepetition_of_round
    (h : ∀ (s : State) (b : Branches) (o : Nat) (rest : List Char) (fuel : Nat),
      body (fuel + 1) (before s o (c :: rest) b) =
        simpleRepetition least most (before s o (c :: rest) b) >>= fun p => body fuel p.2) :
    ReadsRepetition [c] least most := by
  intro outer o rest b t hrest ht
  refine ⟨o + 1, ⟨t.span.first, o + 1⟩, reaches_of_round (Nat.lt_succ_self _) fun fuel => ?_⟩
  rw [List.singleton_append, h, simpleRepetition_before ht hrest, ok_bind]

theorem readsRepetition_opt : ReadsRepetition ['?'] 0 (some 1) :=
  readsRepetition_of_round fun _ _ _ _ _ => rfl

theorem readsRepetition_star : ReadsRepetition ['*'] 0 none :=
  readsRepetition_of_round fun _ _ _ _ _ => rfl

theorem readsRepetition_plus : ReadsRepetition ['+'] 1 none :=
  readsRepetition_of_round fun _ _ _ _ _ => rfl

theorem readsRepetition_counted (h : BoundsText text least most) :
    ReadsRepetition ('\x7b' :: (text ++ ['\x7d'])) least most := by
  intro outer o rest b t hrest ht
  obtain ⟨o', hcounted⟩ := countedRepetition_before ht h hrest outer o b
  refine ⟨o', ⟨t.span.first, o'⟩, reaches_of_round (by simp; omega) fun fuel => ?_⟩
  have hround : body (fuel + 1) (before outer o ('\x7b' :: (text ++ '\x7d' :: rest)) (b.push t)) =
      countedRepetition (before outer o ('\x7b' :: (text ++ '\x7d' :: rest)) (b.push t)) >>=
        fun p => body fuel p.2 := rfl
  rw [List.cons_append, List.append_assoc, List.singleton_append, hround, hcounted, ok_bind]

/-! ## Rows -/

/-- A text is read as items in a row, unless what follows makes the last repetition lazy. -/
structure ReadsRow (text : List Char) (d : Nat) (rs : List Regex) : Prop where
  noLazyMark : NoLazyMark text
  reads (outer : State) (o : Nat) (rest : List Char) (b : Branches) : NoLazyMark rest → ∃ o' ts,
    Reaches (before outer o (text ++ rest) b) (before outer o' rest (ts.foldl Branches.push b)) ∧
      List.Forall₂ (Means d) ts rs

theorem ReadsRow.nil : ReadsRow [] d [] where
  noLazyMark := nofun
  reads _ o _ _ _ := ⟨o, [], .refl _, .nil⟩

theorem ReadsRow.single (h : ReadsItem text d r) : ReadsRow text d [r] := by
  refine ⟨List.append_nil text ▸ h.noLazyMark [], fun outer o rest b _ => ?_⟩
  obtain ⟨o', t, hreaches, hmeans, -⟩ := h.reads outer o rest b
  exact ⟨o', [t], hreaches, .cons hmeans .nil⟩

theorem ReadsRow.repeated (h : ReadsItem text d r) (h' : ReadsRepetition text' least most) :
    ReadsRow (text ++ text') (d + 1) [.rep r least most] := by
  refine ⟨h.noLazyMark text', fun outer o rest b hrest => ?_⟩
  obtain ⟨o₁, t, hitem, hmeans, ht⟩ := h.reads outer o (text' ++ rest) b
  obtain ⟨o₂, span, hrepetition⟩ := h' outer o₁ rest b t hrest ht
  rw [List.append_assoc]
  exact ⟨o₂, [.rep t least most span], hitem.trans hrepetition, .cons (hmeans.rep ..) .nil⟩

theorem ReadsRow.append (h : ReadsRow text d rs) (h' : ReadsRow text' d rs') :
    ReadsRow (text ++ text') d (rs ++ rs') := by
  refine ⟨h.noLazyMark.append h'.noLazyMark, fun outer o rest b hrest => ?_⟩
  obtain ⟨o₁, ts, hreaches, hmeans⟩ :=
    h.reads outer o (text' ++ rest) b (h'.noLazyMark.append hrest)
  obtain ⟨o₂, ts', hreaches', hmeans'⟩ :=
    h'.reads outer o₁ rest (ts.foldl Branches.push b) hrest
  rw [List.append_assoc]
  refine ⟨o₂, ts ++ ts', hreaches.trans ?_, List.rel_append hmeans hmeans'⟩
  rwa [List.foldl_append]

/-- An item before a row. -/
theorem ReadsRow.cons (h : ReadsItem text d r) (h' : ReadsRow text' d rs) :
    ReadsRow (text ++ text') d (r :: rs) :=
  (ReadsRow.single h).append h'

theorem readsRow_literals {row : List Char} (hplain : ∀ c ∈ row, IsPlain c) :
    ReadsRow row d (row.map char) := by
  induction row with
  | nil => exact .nil
  | cons c row ih =>
    obtain ⟨hc, hrow⟩ := List.forall_mem_cons.1 hplain
    exact .cons (readsItem_literal hc) (ih hrow)

/-! ## Branches -/

/-- A text is read as branches, from where the first of them starts. -/
structure ReadsBranches (text : List Char) (d : Nat) (rs : List Regex) : Prop where
  noLazyMark : NoLazyMark text
  reads (outer : State) (o : Nat) (rest : List Char) (first start : Nat) (finished : List Tree) :
    NoLazyMark rest → ∃ o' ts row,
      Reaches (before outer o (text ++ rest) ⟨first, finished, ⟨start, []⟩⟩)
          (before outer o' rest ⟨first, ts.reverse ++ finished, row⟩) ∧
        ∀ last, List.Forall₂ (Means d) (ts ++ [row.tree last]) rs

theorem foldl_push (b : Branches) :
    ts.foldl Branches.push b =
      { b with row := { b.row with items := ts.reverse ++ b.row.items } } := by
  induction ts generalizing b with
  | nil => rfl
  | cons t ts ih => simp [ih, Branches.push, Row.push]

theorem means_row (h : List.Forall₂ (Means d) ts rs) (start last : Nat) :
    Means (d + 1) (Row.tree ⟨start, ts.reverse ++ []⟩ last) (inRow rs) := by
  rw [Row.tree, List.append_nil, List.reverse_reverse]
  exact means_ofItems h _

theorem ReadsBranches.single (h : ReadsRow text d rs) :
    ReadsBranches text (d + 1) [inRow rs] := by
  refine ⟨h.noLazyMark, fun outer o rest first start finished hrest => ?_⟩
  obtain ⟨o', ts, hreaches, hmeans⟩ := h.reads outer o rest ⟨first, finished, ⟨start, []⟩⟩ hrest
  rw [foldl_push] at hreaches
  exact ⟨o', [], ⟨start, ts.reverse ++ []⟩, hreaches, fun last =>
    .cons (means_row hmeans start last) .nil⟩

/-- A row before other branches. -/
theorem ReadsBranches.cons (h : ReadsRow text d rs) (h' : ReadsBranches text' (d + 1) rs') :
    ReadsBranches (text ++ '|' :: text') (d + 1) (inRow rs :: rs') := by
  have hmark (rest : List Char) : NoLazyMark ('|' :: rest) := noLazyMark_cons (by decide) rest
  refine ⟨h.noLazyMark.append (hmark text'), fun outer o rest first start finished hrest => ?_⟩
  obtain ⟨o₁, ts, hreaches, hmeans⟩ := h.reads outer o ('|' :: (text' ++ rest))
    ⟨first, finished, ⟨start, []⟩⟩ (hmark _)
  rw [foldl_push] at hreaches
  let row : Row := ⟨start, ts.reverse ++ []⟩
  have hbar : Reaches (before outer o₁ ('|' :: (text' ++ rest)) ⟨first, finished, row⟩)
      (before outer (o₁ + 1) (text' ++ rest)
        ⟨first, row.tree o₁ :: finished, ⟨o₁ + 1, []⟩⟩) :=
    reaches_of_round (Nat.lt_succ_self _) fun _ => rfl
  obtain ⟨o₂, ts', row', hreaches', hmeans'⟩ :=
    h'.reads outer (o₁ + 1) rest first (o₁ + 1) (row.tree o₁ :: finished) hrest
  refine ⟨o₂, row.tree o₁ :: ts', row', ?_, fun last =>
    .cons (means_row hmeans start o₁) (hmeans' last)⟩
  rw [List.append_assoc, List.cons_append, List.reverse_cons, List.append_assoc,
    List.singleton_append]
  exact (hreaches.trans hbar).trans hreaches'

theorem means_tree {row : Row} {last : Nat} (h : List.Forall₂ (Means d) (ts ++ [row.tree last]) rs)
    (first : Nat) : Means (d + 1) (Branches.tree ⟨first, ts.reverse, row⟩ last) (oneOf rs) := by
  cases ts using List.reverseRecOn with
  | nil =>
    obtain ⟨r, rs, hr, hnil, rfl⟩ := List.forall₂_cons_left_iff.1 h
    rw [List.forall₂_nil_left_iff] at hnil
    rw [hnil, oneOf_singleton]
    exact hr.mono (Nat.le_succ d)
  | append_singleton ts t =>
    have htree : Branches.tree ⟨first, (ts ++ [t]).reverse, row⟩ last =
        .alt (ts ++ [t] ++ [row.tree last]) ⟨first, last⟩ := by
      simp [Branches.tree]
    rw [htree]
    exact means_alt h _

/-! ## Groups -/

/-- An opening of a group is read up to where its first branch starts. -/
structure ReadsOpening (text : List Char) (captures : Bool) : Prop where
  noLazyMark (rest : List Char) : NoLazyMark (text ++ rest)
  reads (outer : State) (o : Nat) (rest : List Char) (b : Branches) : NoLazyMark rest → ∃ o',
    Reaches (before outer o (text ++ rest) b)
      (before { outer with frames := ⟨o, captures, {}, b⟩ :: outer.frames } o' rest
        ⟨o', [], ⟨o', []⟩⟩)

theorem readsOpening_capture : ReadsOpening ['('] true := by
  refine ⟨fun _ => noLazyMark_cons (by decide) _, fun outer o rest b hrest => ?_⟩
  refine ⟨o + 1, reaches_of_round (Nat.lt_succ_self _) fun fuel => ?_⟩
  have hround : body (fuel + 1) (before outer o ('(' :: rest) b) =
      openGroup (before outer o ('(' :: rest) b) >>= fun p => body fuel p.2 := rfl
  rw [List.singleton_append, hround, openGroup_before hrest, ok_bind]

theorem readsOpening_plain : ReadsOpening ['(', '?', ':'] false where
  noLazyMark _ := noLazyMark_cons (by decide) _
  reads _ o _ _ _ := ⟨o + 3, reaches_of_round (by simp; omega) fun _ => rfl⟩

theorem ReadsBranches.group {opening : List Char} {captures : Bool} (h : ReadsBranches text d rs)
    (hopening : ReadsOpening opening captures) :
    ReadsItem (opening ++ (text ++ [')'])) (d + 2)
      (if captures then .group (oneOf rs) else oneOf rs) := by
  refine ⟨fun rest => ?_, fun outer o rest b => ?_⟩
  · rw [List.append_assoc]
    exact hopening.noLazyMark _
  have hmark : NoLazyMark (')' :: rest) := noLazyMark_cons (by decide) rest
  let inner : State := { outer with frames := ⟨o, captures, {}, b⟩ :: outer.frames }
  obtain ⟨o₁, hopen⟩ :=
    hopening.reads outer o (text ++ ')' :: rest) b (h.noLazyMark.append hmark)
  obtain ⟨o₂, ts, row, hreaches, hmeans⟩ := h.reads inner o₁ (')' :: rest) o₁ o₁ [] hmark
  rw [List.append_nil] at hreaches
  let t : Tree := .group captures (Branches.tree ⟨o₁, ts.reverse, row⟩ o₂) ⟨o, o₂ + 1⟩
  have hclose : Reaches (before inner o₂ (')' :: rest) ⟨o₁, ts.reverse, row⟩)
      (before outer (o₂ + 1) rest (b.push t)) :=
    reaches_of_round (Nat.lt_succ_self _) fun _ => rfl
  rw [List.append_assoc, List.append_assoc, List.singleton_append]
  exact ⟨o₂ + 1, t, (hopen.trans hreaches).trans hclose, (means_tree (hmeans o₂) o₁).group ..,
    nofun, nofun⟩

/-! ## Whole patterns -/

theorem exists_parse_of_reads {pattern : String} (h : ReadsBranches pattern.toList d rs) :
    ∃ t, Tree.parse pattern = .ok t ∧ Means (d + 1) t (oneOf rs) := by
  let start : State :=
    { offset := 0, rest := pattern.toList, flags := {}, names := [], frames := []
      branches := ⟨0, [], ⟨0, []⟩⟩ }
  obtain ⟨o, ts, row, ⟨rounds, hrounds, hbody⟩, hmeans⟩ :=
    h.reads start 0 [] 0 0 [] nofun
  rw [List.append_nil, List.append_nil] at hbody
  refine ⟨Branches.tree ⟨0, ts.reverse, row⟩ o, ?_, means_tree (hmeans o) 0⟩
  -- There is more fuel than there are characters, so a round is left that finds the end.
  obtain ⟨fuel, hfuel⟩ : ∃ fuel, pattern.toList.length + 1 = rounds + (fuel + 1) := by
    simp only [rest_before, List.append_nil, List.length_nil, Nat.add_zero] at hrounds
    exact ⟨pattern.toList.length - rounds, by omega⟩
  have hrun : body (pattern.toList.length + 1) start =
      .ok ((), before start o [] ⟨0, ts.reverse, row⟩) := by
    rw [hfuel]
    exact hbody (fuel + 1)
  have hpattern : Parser.pattern start = .ok
      (Branches.tree ⟨0, ts.reverse, row⟩ o, before start o [] ⟨0, ts.reverse, row⟩) := by
    unfold Parser.pattern
    change (body (pattern.toList.length + 1) start >>= fun p => _) = _
    rw [hrun]
    rfl
  change (Parser.pattern start).map _ = _
  rw [hpattern]
  rfl

/-- **A pattern is read as its parts.** -/
theorem parse_of_reads {pattern : String} (h : ReadsBranches pattern.toList d rs)
    (hdepth : d + 1 ≤ Tree.depthLimit) (hfits : (oneOf rs).fits = true) :
    Regex.parse pattern = .ok (oneOf rs) := by
  obtain ⟨t, hparse, hmeans⟩ := exists_parse_of_reads h
  have hdeep : t.checkDepth = .ok t := by
    rw [Tree.checkDepth, hmeans.shallow _ hdepth]
  unfold Regex.parse
  rw [hparse]
  change ((t.checkDepth >>= fun t => t.meaning).mapError _ >>= fun r => _) = _
  rw [hdeep]
  change (t.meaning.mapError _ >>= fun r => _) = _
  rw [hmeans.meaning]
  change (if (oneOf rs).fits then _ else _ : Except Error Regex) = _
  rw [if_pos hfits]
  rfl

end DataSchema.Regex.Parser
