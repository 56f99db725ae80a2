import Respecify.Proofs.Order
import Respecify.Proofs.Text.Slice
import Respecify.Source.Substitution

/-!
# Edits made one by one and edits made at once

Edits are made from the end of a text towards its start, and each is checked
against the one made before it only.  Since each ends no later than that one
starts, it overlaps none of those before.  So the edits that are refused are those
of which two overlap or one ends past the end of the text, and all others give the
text with every edit made at once.
-/

namespace Respecify.Edit

variable {source : Text} {edits others ordered : List Edit} {edit one other : Edit}

/-! ## Making one edit -/

/-- An edit leaves alone what stands behind the stretch it ends in. -/
theorem applyOne_take_append (edit : Edit) {source : Text} {offset : Nat}
    (ordered : edit.stop ≤ offset) (inside : offset ≤ source.length) (tail : Text) :
    edit.applyOne (source.take offset ++ tail) =
      source.take edit.start ++ (edit.text ++ source.slice edit.stop offset ++ tail) := by
  have startInside : edit.start ≤ offset := edit.start_le_stop.trans ordered
  have long : (source.take offset).length = offset := List.length_take_of_le inside
  rw [applyOne, List.take_append_of_le_length (by omega), List.take_take,
    Nat.min_eq_left startInside, List.drop_append_of_le_length (by omega), Text.slice]
  simp only [List.append_assoc]

/-- An edit that ends before the bound is made, and its start is the next
bound. -/
theorem applyInOrder_cons {edit : Edit} {bound : Nat} (ordered : edit.stop ≤ bound)
    (rest : List Edit) (source : Text) :
    applyInOrder (edit :: rest) bound source =
      applyInOrder rest edit.start (edit.applyOne source) := by
  rw [applyInOrder, if_neg (Nat.not_lt.mpr ordered)]

/-! ## The order of the edits -/

theorem atMost_iff :
    one.atMost other = true ↔
      one.start < other.start ∨ one.start = other.start ∧ one.stop ≤ other.stop := by
  simp [atMost]

theorem atMost_total (one other : Edit) : one.atMost other = true ∨ other.atMost one = true := by
  rw [atMost_iff, atMost_iff]
  omega

theorem atMost_trans {third : Edit} (first : one.atMost other = true)
    (second : other.atMost third = true) : one.atMost third = true := by
  rw [atMost_iff] at first second ⊢
  omega

/-- Before they are made, edits are listed from the last to the first. -/
theorem pairwise_lastFirst (edits : List Edit) :
    (lastFirst edits).Pairwise fun earlier later => later.atMost earlier = true :=
  Order.pairwise_sort (fun one other => atMost_total other one)
    (fun _ _ _ first second => atMost_trans second first) edits

theorem lastFirst_perm (edits : List Edit) : (lastFirst edits).Perm edits :=
  Order.sort_perm _ _

/-- One edit stands strictly behind another one in the order of edits. -/
def Behind (one other : Edit) : Prop :=
  other.atMost one = true ∧ one.atMost other = false

theorem behind_iff {one other : Edit} :
    Behind one other ↔
      other.start < one.start ∨ other.start = one.start ∧ other.stop < one.stop := by
  simp only [Behind, atMost, Bool.or_eq_true, Bool.and_eq_true, decide_eq_true_eq, beq_iff_eq,
    Bool.or_eq_false_iff, Bool.and_eq_false_iff, decide_eq_false_iff_not, beq_eq_false_iff_ne]
  omega

/-- Edits listed strictly from the last to the first are what every
rearrangement of them is put into before they are made. -/
theorem lastFirst_eq_of_perm {edits ordered : List Edit} (rearranged : edits.Perm ordered)
    (strict : ordered.Pairwise Behind) : lastFirst edits = ordered :=
  Order.sort_eq_of_perm (fun one other => atMost_total other one)
    (fun _ _ _ first second => atMost_trans second first) rearranged strict

/-! ## Edits that overlap -/

/-- The edits cannot all be made: one ends past the end of the text, or two at
different positions of the list overlap. -/
def Conflicting (source : Text) (edits : List Edit) : Prop :=
  (∃ edit ∈ edits, source.length < edit.stop) ∨
    ∃ (i j : Nat) (one other : Edit), i ≠ j ∧ edits[i]? = some one ∧ edits[j]? = some other ∧
      overlaps one other = true

theorem overlaps_iff :
    overlaps one other = true ↔ other.atMost one = true ∧ one.start < other.stop := by
  rw [overlaps, Bool.and_eq_true, decide_eq_true_eq]

/-- Neither of two edits overlaps the other. -/
def Apart (one other : Edit) : Prop :=
  overlaps one other = false ∧ overlaps other one = false

instance (one other : Edit) : Decidable (Apart one other) :=
  inferInstanceAs (Decidable (_ ∧ _))

theorem Apart.symm (apart : Apart one other) : Apart other one :=
  And.symm apart

/-- Of two edits that are apart, the one that is not before the other starts where the
other ends or behind. -/
theorem apart_iff_of_atMost (ordered : other.atMost one = true) :
    Apart one other ↔ other.stop ≤ one.start := by
  have startFirst := one.start_le_stop
  simp only [Apart, ← Bool.not_eq_true, overlaps_iff, atMost_iff] at ordered ⊢
  omega

theorem not_conflicting_iff :
    ¬Conflicting source edits ↔
      (∀ edit ∈ edits, edit.stop ≤ source.length) ∧ edits.Pairwise Apart := by
  have positions : edits.Pairwise Apart ↔
      ¬∃ (i j : Nat) (one other : Edit), i ≠ j ∧ edits[i]? = some one ∧
        edits[j]? = some other ∧ overlaps one other = true := by
    rw [List.pairwise_iff_getElem]
    constructor
    · rintro apart ⟨i, j, one, other, differ, oneAt, otherAt, overlap⟩
      rcases List.getElem?_eq_some_iff.mp oneAt with ⟨iInside, rfl⟩
      rcases List.getElem?_eq_some_iff.mp otherAt with ⟨jInside, rfl⟩
      rcases Nat.lt_or_gt_of_ne differ with before | behind
      · rw [(apart i j iInside jInside before).1] at overlap
        cases overlap
      · rw [(apart j i jInside iInside behind).2] at overlap
        cases overlap
    · intro none i j iInside jInside before
      have oneAt : edits[i]? = some edits[i] := List.getElem?_eq_getElem iInside
      have otherAt : edits[j]? = some edits[j] := List.getElem?_eq_getElem jInside
      constructor <;> rw [← Bool.not_eq_true] <;> intro overlap
      · exact none ⟨i, j, _, _, before.ne, oneAt, otherAt, overlap⟩
      · exact none ⟨j, i, _, _, before.ne', otherAt, oneAt, overlap⟩
  rw [Conflicting, not_or, ← positions]
  simp only [not_exists, not_and, Nat.not_lt]

/-- Of edits that are apart, no other one starts in the stretch that one of them replaces,
if nothing is inserted at its start. -/
theorem eq_of_start_within (apart : edits.Pairwise Apart) (member : edit ∈ edits)
    (otherMember : other ∈ edits) (bare : insertsAt edit.start other = false)
    (behind : edit.start ≤ other.start) (inside : other.start < edit.stop) : other = edit := by
  by_contra differs
  have : Std.Symm Apart := ⟨fun _ _ pair => pair.symm⟩
  have pair := apart.forall otherMember member differs
  have ordered := other.start_le_stop
  simp only [Apart, ← Bool.not_eq_true, overlaps_iff, atMost_iff, insertsAt, Bool.and_eq_true,
    beq_iff_eq] at pair bare
  omega

instance (source : Text) (edits : List Edit) : Decidable (Conflicting source edits) :=
  decidable_of_iff (¬((∀ edit ∈ edits, edit.stop ≤ source.length) ∧ edits.Pairwise Apart)) <| by
    rw [← not_conflicting_iff, not_not]

/-- Edits can be made one after the other exactly if each of them ends within the text
and no later than all those made before it start. -/
theorem exists_applyInOrder_iff {bound : Nat} :
    (∃ result, applyInOrder ordered bound source = .ok result) ↔
      (∀ edit ∈ ordered, edit.stop ≤ bound) ∧
        ordered.Pairwise fun earlier later => later.stop ≤ earlier.start := by
  induction ordered generalizing bound source with
  | nil => simp [applyInOrder]
  | cons edit rest inductionHypothesis =>
      have startFirst := edit.start_le_stop
      rw [List.forall_mem_cons, List.pairwise_cons]
      by_cases inside : edit.stop ≤ bound
      · rw [applyInOrder_cons inside, inductionHypothesis]
        constructor
        · rintro ⟨before, apart⟩
          exact ⟨⟨inside, fun later member => by have := before later member; omega⟩, before, apart⟩
        · rintro ⟨_, before, apart⟩
          exact ⟨before, apart⟩
      · rw [applyInOrder, if_pos (Nat.not_le.mp inside)]
        simp [inside]

theorem exists_apply_iff :
    (∃ result, apply source edits = .ok result) ↔ ¬Conflicting source edits := by
  have perm := lastFirst_perm edits
  rw [apply, exists_applyInOrder_iff, not_conflicting_iff,
    ← perm.pairwise_iff fun {_ _} => Apart.symm]
  refine and_congr (by simp only [perm.mem_iff]) ?_
  have ordered := pairwise_lastFirst edits
  constructor
  · intro before
    exact (ordered.and before).imp fun both => (apart_iff_of_atMost both.1).mpr both.2
  · intro apart
    exact (ordered.and apart).imp fun both => (apart_iff_of_atMost both.1).mp both.2

/-! ## Making edits at once -/

/-- What stands at and behind an offset, with all edits made at once. -/
def textFrom (source : Text) (edits : List Edit) (offset : Nat) : Text :=
  (List.range' offset (source.length + 1 - offset)).flatMap (textAt source edits)

theorem substitute_eq_textFrom : substitute source edits = textFrom source edits 0 := by
  rw [substitute, textFrom, List.range_eq_range', Nat.sub_zero]

theorem range'_split {start stop last : Nat} (ordered : start ≤ stop) (inside : stop ≤ last) :
    List.range' start (last - start) =
      List.range' start (stop - start) ++ List.range' stop (last - stop) := by
  have joined := @List.range'_append_1 start (stop - start) (last - stop)
  rw [Nat.add_sub_cancel' ordered] at joined
  rw [joined]
  congr 1
  omega

theorem textFrom_split {start stop : Nat} (ordered : start ≤ stop)
    (inside : stop ≤ source.length + 1) :
    textFrom source edits start =
      (List.range' start (stop - start)).flatMap (textAt source edits) ++
        textFrom source edits stop := by
  rw [textFrom, range'_split ordered inside, List.flatMap_append, textFrom]

theorem textFrom_succ {offset : Nat} (inside : offset ≤ source.length) :
    textFrom source edits offset =
      textAt source edits offset ++ textFrom source edits (offset + 1) := by
  rw [textFrom_split (Nat.le_succ offset) (Nat.succ_le_succ inside)]
  simp

theorem flatMap_getElem? (source : Text) (start count : Nat) :
    (List.range' start count).flatMap (fun offset => source[offset]?.toList) =
      (source.drop start).take count := by
  induction count with
  | zero => simp
  | succ count inductionHypothesis =>
      rw [List.range'_1_concat, List.flatMap_append, inductionHypothesis, List.take_add_one,
        List.getElem?_drop, List.flatMap_singleton]

/-- The characters behind an offset that stand no earlier than another one are those
from the other one on. -/
theorem flatMap_getElem?_behind {start stop : Nat} (ordered : start ≤ stop)
    (inside : stop ≤ source.length) :
    (List.range' start (source.length + 1 - start)).flatMap (fun offset =>
      if offset < stop then [] else source[offset]?.toList) = source.drop stop := by
  have split : List.range' start (source.length + 1 - start) =
      List.range' start (stop - start) ++ List.range' stop (source.length + 1 - stop) :=
    range'_split ordered (inside.trans (Nat.le_succ _))
  have ahead : (List.range' start (stop - start)).flatMap (fun offset =>
      if offset < stop then [] else source[offset]?.toList) = [] := by
    refine List.flatMap_eq_nil_iff.mpr fun offset member => if_pos ?_
    have inRange := List.mem_range'_1.mp member
    omega
  rw [split, List.flatMap_append, ahead, List.nil_append,
    List.flatMap_congr fun offset member => if_neg (Nat.not_lt.mpr (List.mem_range'_1.mp member).1),
    flatMap_getElem?, List.take_of_length_le (by rw [List.length_drop]; omega)]

/-- Where no edit is made, the characters of the text stand. -/
theorem flatMap_textAt_of_untouched {start count : Nat}
    (untouched : ∀ offset, start ≤ offset → offset < start + count →
      ∀ edit ∈ edits, insertsAt offset edit = false ∧ covers offset edit = false) :
    (List.range' start count).flatMap (textAt source edits) = (source.drop start).take count := by
  rw [← flatMap_getElem?]
  refine List.flatMap_congr fun offset member => ?_
  rcases List.mem_range'_1.mp member with ⟨from_, upTo⟩
  have here := untouched offset from_ upTo
  have inserts : edits.filter (insertsAt offset) = [] :=
    List.filter_eq_nil_iff.mpr fun edit member => by simp [(here edit member).1]
  have replaces : edits.filter (replacesAt offset) = [] := by
    refine List.filter_eq_nil_iff.mpr fun edit member replaced => ?_
    have uncovered := (here edit member).2
    simp only [replacesAt, covers, Bool.and_eq_true, beq_iff_eq, decide_eq_true_eq,
      Bool.and_eq_false_iff, decide_eq_false_iff_not] at replaced uncovered
    omega
  have covered : edits.any (covers offset) = false :=
    List.any_eq_false.mpr fun edit member => by simp [(here edit member).2]
  rw [textAt, newTextAt, inserts, replaces, covered]
  rfl

theorem substitute_nil : substitute source [] = source := by
  rw [substitute, List.range_eq_range', flatMap_textAt_of_untouched]
  · rw [List.drop_zero, List.take_of_length_le (Nat.le_succ _)]
  · exact fun _ _ _ edit member => absurd member List.not_mem_nil

/-! ## Where edits begin -/

/-- Up to an offset before which no edit starts, the text stands as it was. -/
theorem substitute_eq_take_append {offset : Nat} (inside : offset ≤ source.length)
    (behind : ∀ edit ∈ edits, offset ≤ edit.start) :
    substitute source edits = source.take offset ++ textFrom source edits offset := by
  rw [substitute_eq_textFrom, textFrom_split (Nat.zero_le offset) (inside.trans (Nat.le_succ _)),
    Nat.sub_zero, flatMap_textAt_of_untouched, List.drop_zero]
  intro other _ upTo edit member
  have starts := behind edit member
  simp only [insertsAt, covers, Bool.and_eq_false_iff, beq_eq_false_iff_ne,
    decide_eq_false_iff_not]
  omega

/-- Where insertions are made, the text of one of them comes first. -/
theorem exists_textFrom_of_insertsAt {offset : Nat} (inside : offset ≤ source.length)
    (inserted : ∃ edit ∈ edits, insertsAt offset edit = true) :
    ∃ edit ∈ edits, insertsAt offset edit = true ∧
      ∃ rest, textFrom source edits offset = edit.text ++ rest := by
  rcases inserted with ⟨edit, member, inserts⟩
  have here : edit ∈ (edits.filter (insertsAt offset)).reverse := by
    rw [List.mem_reverse]
    exact List.mem_filter.mpr ⟨member, inserts⟩
  cases listed : (edits.filter (insertsAt offset)).reverse with
  | nil =>
      rw [listed] at here
      cases here
  | cons first others =>
      have firstMember : first ∈ (edits.filter (insertsAt offset)).reverse := by
        rw [listed]
        exact List.mem_cons_self
      rcases List.mem_filter.mp (List.mem_reverse.mp firstMember) with ⟨isEdit, firstInserts⟩
      refine ⟨first, isEdit, firstInserts, ?_⟩
      rw [textFrom_succ inside, textAt, newTextAt, listed, List.flatMap_cons]
      simp only [List.append_assoc]
      exact ⟨_, rfl⟩

/-- Nothing stands in the stretch that an edit removes, if no other edit starts there. -/
theorem textFrom_eq_of_removal (member : edit ∈ edits) (removes : edit.text = [])
    (long : edit.start < edit.stop) (inside : edit.stop ≤ source.length)
    (only : ∀ other ∈ edits, edit.start ≤ other.start → other.start < edit.stop → other = edit) :
    textFrom source edits edit.start = textFrom source edits edit.stop := by
  have nothing : (List.range' edit.start (edit.stop - edit.start)).flatMap
      (textAt source edits) = [] := by
    refine List.flatMap_eq_nil_iff.mpr fun offset inRange => ?_
    have bounds := List.mem_range'_1.mp inRange
    have inserts : edits.filter (insertsAt offset) = [] := by
      refine List.filter_eq_nil_iff.mpr fun other isEdit here => ?_
      simp only [insertsAt, Bool.and_eq_true, beq_iff_eq] at here
      have same := only other isEdit (by omega) (by omega)
      rw [same] at here
      omega
    have replaced : (edits.filter (replacesAt offset)).flatMap Edit.text = [] := by
      refine List.flatMap_eq_nil_iff.mpr fun other isFiltered => ?_
      rcases List.mem_filter.mp isFiltered with ⟨isEdit, here⟩
      simp only [replacesAt, Bool.and_eq_true, beq_iff_eq] at here
      rw [only other isEdit (by omega) (by omega), removes]
    have covered : edits.any (covers offset) = true := by
      refine List.any_eq_true.mpr ⟨edit, member, ?_⟩
      rw [covers, Bool.and_eq_true, decide_eq_true_eq, decide_eq_true_eq]
      omega
    rw [textAt, newTextAt, inserts, replaced, covered]
    rfl
  rw [textFrom_split long.le (inside.trans (Nat.le_succ _)), nothing, List.nil_append]

section LastEdit

/-! Behind an edit that is made before all others, and that all others end before,
the text is as it was. -/

variable (before : ∀ other ∈ edits, other.stop ≤ edit.start)

include before

theorem newTextAt_cons_start :
    newTextAt (edit :: edits) edit.start = newTextAt edits edit.start ++ edit.text := by
  have replaces : edits.filter (replacesAt edit.start) = [] := by
    refine List.filter_eq_nil_iff.mpr fun other member replaced => ?_
    have ends := before other member
    simp only [replacesAt, Bool.and_eq_true, decide_eq_true_eq] at replaced
    omega
  have startFirst := edit.start_le_stop
  rw [newTextAt, newTextAt, List.filter_cons, List.filter_cons, replaces]
  by_cases empty : edit.stop = edit.start
  · simp [insertsAt, replacesAt, empty]
  · have long : edit.start < edit.stop := by omega
    simp [insertsAt, replacesAt, empty, long]

theorem newTextAt_cons_behind {offset : Nat} (behind : edit.start < offset) :
    newTextAt (edit :: edits) offset = [] := by
  have startFirst := edit.start_le_stop
  have apart : ∀ other ∈ edit :: edits, other.start ≠ offset := by
    intro other member
    rcases List.mem_cons.mp member with rfl | member
    · exact behind.ne
    · have ends := before other member
      have startFirst := other.start_le_stop
      omega
  have inserts : (edit :: edits).filter (insertsAt offset) = [] :=
    List.filter_eq_nil_iff.mpr fun other member => by simp [insertsAt, apart other member]
  have replaces : (edit :: edits).filter (replacesAt offset) = [] :=
    List.filter_eq_nil_iff.mpr fun other member => by simp [replacesAt, apart other member]
  rw [newTextAt, inserts, replaces]
  rfl

theorem any_covers_cons {offset : Nat} (behind : edit.start ≤ offset) :
    (edit :: edits).any (covers offset) = decide (offset < edit.stop) := by
  have uncovered : edits.any (covers offset) = false := by
    refine List.any_eq_false.mpr fun other member => ?_
    have ends := before other member
    simp only [covers, Bool.and_eq_true, decide_eq_true_eq]
    omega
  rw [List.any_cons, uncovered, Bool.or_false, covers, decide_eq_true behind, Bool.true_and]

/-- Behind the start of the edit stands the text of the edit, and then the text from its
end on. -/
theorem textFrom_cons (inside : edit.stop ≤ source.length) :
    textFrom source (edit :: edits) edit.start =
      newTextAt edits edit.start ++ edit.text ++ source.drop edit.stop := by
  have startInside := edit.start_le_stop.trans inside
  have here : ∀ offset, edit.start ≤ offset →
      textAt source (edit :: edits) offset = newTextAt (edit :: edits) offset ++
        if offset < edit.stop then [] else source[offset]?.toList := by
    intro offset behind
    rw [textAt, any_covers_cons before behind]
    simp only [decide_eq_true_eq]
  have behind : textFrom source (edit :: edits) (edit.start + 1) =
      (List.range' (edit.start + 1) (source.length - edit.start)).flatMap fun offset =>
        if offset < edit.stop then [] else source[offset]?.toList := by
    rw [textFrom, Nat.add_sub_add_right]
    refine List.flatMap_congr fun offset member => ?_
    have ahead : edit.start < offset := (List.mem_range'_1.mp member).1
    rw [here offset ahead.le, newTextAt_cons_behind before ahead, List.nil_append]
  have kept := flatMap_getElem?_behind edit.start_le_stop inside
  rw [Nat.succ_sub startInside, List.range'_succ, List.flatMap_cons] at kept
  rw [textFrom_succ startInside, here _ le_rfl, newTextAt_cons_start before, behind,
    List.append_assoc, kept]

/-- The last edit of a text is made by itself behind the others. -/
theorem substitute_cons (inside : edit.stop ≤ source.length) :
    substitute source (edit :: edits) =
      substitute (source.take edit.start) edits ++ edit.text ++ source.drop edit.stop := by
  have startInside := edit.start_le_stop.trans inside
  have long : (source.take edit.start).length = edit.start := List.length_take_of_le startInside
  have ahead : (List.range' 0 (edit.start - 0)).flatMap (textAt source (edit :: edits)) =
      (List.range' 0 (edit.start - 0)).flatMap (textAt (source.take edit.start) edits) := by
    refine List.flatMap_congr fun offset member => ?_
    have upTo : offset < edit.start := by
      have inRange := List.mem_range'_1.mp member
      omega
    simp [textAt, newTextAt, insertsAt, replacesAt, covers, upTo.ne', Nat.not_le.mpr upTo, upTo]
  have last : textFrom (source.take edit.start) edits edit.start = newTextAt edits edit.start := by
    rw [textFrom, long, Nat.add_sub_cancel_left, List.range'_one, List.flatMap_singleton, textAt,
      List.getElem?_eq_none long.le]
    simp
  rw [substitute_eq_textFrom, substitute_eq_textFrom,
    textFrom_split (Nat.zero_le edit.start) (startInside.trans (Nat.le_succ _)),
    textFrom_split (Nat.zero_le edit.start) (by rw [long]; exact Nat.le_succ _),
    textFrom_cons before inside, last, ahead]
  simp only [List.append_assoc]

end LastEdit

/-! ## One by one is at once -/

/-- Edits that each end no later than all those before start are made at once.  The
induction makes the last edit of the text first; what it writes stands in the tail. -/
theorem applyInOrder_eq_substitute {bound : Nat} (inside : bound ≤ source.length)
    (within : ∀ edit ∈ ordered, edit.stop ≤ bound)
    (apart : ordered.Pairwise fun earlier later => later.stop ≤ earlier.start) (tail : Text) :
    applyInOrder ordered bound (source.take bound ++ tail) =
      .ok (substitute (source.take bound) ordered ++ tail) := by
  induction ordered generalizing bound tail with
  | nil => rw [substitute_nil, applyInOrder]
  | cons edit rest inductionHypothesis =>
      rw [List.pairwise_cons] at apart
      have ends := within edit List.mem_cons_self
      have startInside := edit.start_le_stop.trans ends
      have long : (source.take bound).length = bound := List.length_take_of_le inside
      rw [applyInOrder_cons ends, applyOne_take_append edit ends inside,
        inductionHypothesis (startInside.trans inside) apart.1 apart.2,
        substitute_cons apart.1 (by rwa [long]), List.take_take, Nat.min_eq_left startInside]
      simp only [Text.slice, List.append_assoc]

/-- Edits that are apart mean the same in the order in which they are made: only those
at one offset could change places, and sorting keeps them in theirs. -/
theorem substitute_lastFirst (apart : edits.Pairwise Apart) :
    substitute source (lastFirst edits) = substitute source edits := by
  have inserted : ∀ offset,
      (lastFirst edits).filter (insertsAt offset) = edits.filter (insertsAt offset) := by
    intro offset
    refine Order.filter_sort (List.pairwise_of_forall fun one other here there => ?_)
    simp only [insertsAt, Bool.and_eq_true, beq_iff_eq] at here there
    rw [atMost_iff]
    omega
  have replaced : ∀ offset,
      (lastFirst edits).filter (replacesAt offset) = edits.filter (replacesAt offset) := by
    intro offset
    refine Order.filter_sort (apart.imp fun {one other} pair here there => ?_)
    -- Two edits that replace characters from one offset on overlap.
    simp only [replacesAt, Bool.and_eq_true, beq_iff_eq, decide_eq_true_eq] at here there
    simp only [Apart, ← Bool.not_eq_true, overlaps_iff, atMost_iff] at pair
    omega
  have covered : ∀ offset,
      (lastFirst edits).any (covers offset) = edits.any (covers offset) :=
    fun offset => (lastFirst_perm edits).any_eq
  rw [substitute, substitute]
  refine List.flatMap_congr fun offset _ => ?_
  rw [textAt, newTextAt, inserted, replaced, covered, textAt, newTextAt]

theorem apply_eq_substitute_of_not_conflicting (free : ¬Conflicting source edits) :
    apply source edits = .ok (substitute source edits) := by
  have perm := lastFirst_perm edits
  have made := free
  rw [← exists_apply_iff, apply, exists_applyInOrder_iff] at made
  have done := applyInOrder_eq_substitute le_rfl made.1 made.2 []
  rw [List.take_length, List.append_nil, List.append_nil] at done
  rw [apply, done, substitute_lastFirst (not_conflicting_iff.mp free).2]

/-! ## The order of the list -/

/-- Where the edit starts and where it ends. -/
def ends (edit : Edit) : Nat × Nat :=
  (edit.start, edit.stop)

/-- Which edits are refused does not depend on the texts. -/
theorem applyInOrder_eq_error_congr {ordered' : List Edit} {bound : Nat} {source' : Text}
    {conflict : EditConflict} (same : ordered.map ends = ordered'.map ends)
    (refused : applyInOrder ordered bound source = .error conflict) :
    applyInOrder ordered' bound source' = .error conflict := by
  induction ordered generalizing ordered' bound source source' with
  | nil => cases refused
  | cons edit rest inductionHypothesis =>
      rcases List.map_eq_cons_iff.mp same.symm with ⟨edit', rest', rfl, sameEnds, sameRest⟩
      rcases Prod.mk.inj sameEnds with ⟨startEq, stopEq⟩
      rw [applyInOrder] at refused ⊢
      rw [startEq, stopEq]
      split at refused
      · rename_i outside
        rw [if_pos outside]
        exact refused
      · rename_i inside
        rw [if_neg inside]
        exact inductionHypothesis sameRest.symm refused

/-- Edits in another order are made in the same order, but for the texts of those that
start and end alike. -/
theorem map_ends_lastFirst (rearranged : others.Perm edits) :
    (lastFirst others).map ends = (lastFirst edits).map ends := by
  have perm : ((lastFirst others).map ends).Perm ((lastFirst edits).map ends) :=
    (((lastFirst_perm others).trans rearranged).trans (lastFirst_perm edits).symm).map ends
  have inOrder : ∀ edits : List Edit, ((lastFirst edits).map ends).Pairwise fun one other =>
      other.1 < one.1 ∨ other.1 = one.1 ∧ other.2 ≤ one.2 := fun edits =>
    List.pairwise_map.mpr ((pairwise_lastFirst edits).imp fun ordered => atMost_iff.mp ordered)
  refine perm.eq_of_pairwise ?_ (inOrder others) (inOrder edits)
  intro one other _ _ forward backward
  exact Prod.ext (by omega) (by omega)

/-- No edit is before another one and behind it, but for insertions at one offset. -/
theorem lastFirst_eq_of_untied (apart : edits.Pairwise Apart)
    (untied : edits.Pairwise fun one other =>
      ∀ offset, ¬(insertsAt offset one = true ∧ insertsAt offset other = true))
    (rearranged : others.Perm edits) : lastFirst others = lastFirst edits := by
  refine lastFirst_eq_of_perm (rearranged.trans (lastFirst_perm edits).symm) ?_
  have both := apart.and untied
  rw [← (lastFirst_perm edits).pairwise_iff fun {one other} pair =>
    ⟨pair.1.symm, fun offset inserts => pair.2 offset inserts.symm⟩] at both
  refine ((pairwise_lastFirst edits).and both).imp fun {one other} told => ?_
  rcases told with ⟨ordered, apart, untied⟩
  have ends := (apart_iff_of_atMost ordered).mp apart
  have tied := untied one.start
  have startFirst := one.start_le_stop
  have otherStartFirst := other.start_le_stop
  simp only [insertsAt, Bool.and_eq_true, beq_iff_eq, true_and] at tied
  rw [behind_iff]
  omega

/-- Making edits is simultaneous substitution.  The edits are refused exactly if one
ends past the end of the text or two overlap; otherwise every edit is made at once.
The outcome does not depend on the order of a list without two insertions at one
offset. -/
theorem apply_eq_substitute (source : Text) (edits : List Edit) :
    ((∃ conflict, apply source edits = .error conflict) ↔ Conflicting source edits) ∧
      (¬Conflicting source edits → apply source edits = .ok (substitute source edits)) ∧
      ∀ others : List Edit, others.Perm edits →
        (edits.Pairwise fun one other =>
          ∀ offset, ¬(insertsAt offset one = true ∧ insertsAt offset other = true)) →
        apply source others = apply source edits := by
  have refused : (∃ conflict, apply source edits = .error conflict) ↔
      Conflicting source edits := by
    rw [← not_iff_not, ← exists_apply_iff]
    cases apply source edits <;> simp
  refine ⟨refused, apply_eq_substitute_of_not_conflicting, ?_⟩
  intro others rearranged untied
  by_cases conflicting : Conflicting source edits
  · rcases refused.mpr conflicting with ⟨conflict, failed⟩
    rw [failed]
    exact applyInOrder_eq_error_congr (map_ends_lastFirst rearranged).symm failed
  · rw [apply, lastFirst_eq_of_untied (not_conflicting_iff.mp conflicting).2 untied rearranged]
    rfl

/-- Two insertions before a replacement at the same offset, behind an edit with which
they change places. -/
theorem apply_eq_substitute_tied :
    let first := insertion 2 (Respecify.text "1")
    let second := insertion 2 (Respecify.text "2")
    let written := replacement ⟨2, 4, by decide⟩ (Respecify.text "XYZ")
    let removed := replacement ⟨0, 1, by decide⟩ []
    let overlapping := replacement ⟨3, 5, by decide⟩ []
    apply (Respecify.text "abcdef") [first, written, removed, second] =
        .ok (Respecify.text "b21XYZef") ∧
      apply (Respecify.text "abcdef") [removed, first, written] =
        apply (Respecify.text "abcdef") [first, written, removed] ∧
      ∃ conflict,
        apply (Respecify.text "abcdef") [overlapping, removed, written] = .error conflict := by
  intro first second written removed overlapping
  refine ⟨?_, ?_, ?_⟩
  · rw [(apply_eq_substitute (Respecify.text "abcdef") [first, written, removed, second]).2.1
      (by decide +kernel)]
    exact congrArg Except.ok (by decide +kernel)
  · refine (apply_eq_substitute (Respecify.text "abcdef") [first, written, removed]).2.2 _
      (@List.perm_append_comm _ [removed] [first, written]) ?_
    simp [first, written, removed, insertsAt, insertion, replacement]
  · refine (apply_eq_substitute (Respecify.text "abcdef") [overlapping, removed, written]).1.mpr ?_
    decide +kernel

end Respecify.Edit
