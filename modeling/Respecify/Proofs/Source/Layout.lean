import Respecify.Proofs.Import.Declaration

/-!
# The layout of a script

A script is cut at its import declarations: each passage is the text from the
end of one declaration to the end of the next one, and the rest is the text
behind the last of them.  A layout is what the offsets of import sites mean,
so offsets and passages are related here once.
-/

namespace Respecify

/-- An import declaration, cut at the ends of its specifier, with the text
between the declaration before it and itself. -/
structure Passage where
  before : Text
  opening : Text
  specifier : Text
  closing : Text
deriving DecidableEq

/-- A script, cut at its import declarations. -/
structure Layout where
  passages : List Passage
  rest : Text
deriving DecidableEq

namespace Passage

/-- The declaration of a passage. -/
def declaration (passage : Passage) : Text :=
  passage.opening ++ passage.specifier ++ passage.closing

/-- The text of a passage. -/
def text (passage : Passage) : Text :=
  passage.before ++ passage.declaration

theorem length_text (passage : Passage) :
    passage.text.length = passage.before.length + passage.opening.length +
      passage.specifier.length + passage.closing.length := by
  simp [text, declaration, Nat.add_assoc]

/-- The passage with another text before its declaration. -/
def withBefore (passage : Passage) (before : Text) : Passage :=
  { passage with before := before }

/-- The passage with another specifier. -/
def withSpecifier (passage : Passage) (specifier : Text) : Passage :=
  { passage with specifier := specifier }

@[simp]
theorem withBefore_before (passage : Passage) : passage.withBefore passage.before = passage :=
  rfl

/-- A site is that of the declaration of a passage that starts at an offset. -/
structure IsAt (passage : Passage) (offset : Nat) (site : ImportSite) : Prop where
  start_eq : site.statementRange.start = offset + passage.before.length
  stop_eq : site.statementRange.stop = offset + passage.text.length
  specifier_start_eq : site.specifierRange.start =
    offset + passage.before.length + passage.opening.length
  specifier_stop_eq : site.specifierRange.stop =
    offset + passage.before.length + passage.opening.length + passage.specifier.length
  specifier_eq : site.specifier = passage.specifier

end Passage

namespace Layout

/-- The script of a layout. -/
def text (layout : Layout) : Text :=
  layout.passages.flatMap Passage.text ++ layout.rest

/-- The same layout with every passage changed. -/
def map (change : Passage → Passage) (layout : Layout) : Layout :=
  ⟨layout.passages.map change, layout.rest⟩

/-- The text behind an offset, cut at the import sites there. -/
def cutFrom (source : Text) : Nat → List ImportSite → Layout
  | offset, [] => ⟨[], source.drop offset⟩
  | offset, site :: sites =>
      let others := cutFrom source site.statementRange.stop sites
      ⟨{ before := source.slice offset site.statementRange.start
         opening := source.slice site.statementRange.start site.specifierRange.start
         specifier := site.specifierRange.slice source
         closing := source.slice site.specifierRange.stop site.statementRange.stop } ::
        others.passages, others.rest⟩

/-- A script, cut at its import sites. -/
def cut (source : Text) (sites : List ImportSite) : Layout :=
  cutFrom source 0 sites

end Layout

/-- Sites are those of passages, the first of which starts at an offset. -/
inductive Sited : Nat → List Passage → List ImportSite → Prop where
  | nil (offset : Nat) : Sited offset [] []
  | cons {offset : Nat} {passage : Passage} {passages : List Passage} {site : ImportSite}
      {sites : List ImportSite} (here : passage.IsAt offset site)
      (behind : Sited (offset + passage.text.length) passages sites) :
      Sited offset (passage :: passages) (site :: sites)

/-! ## Cutting a script -/

namespace Layout

variable {source : Text}

/-- The first passage of a text behind an offset is the text up to the end of
the first declaration. -/
theorem passage_text_eq_slice {site : ImportSite} {offset : Nat}
    (ordered : offset ≤ site.statementRange.start) :
    Passage.text
        { before := source.slice offset site.statementRange.start
          opening := source.slice site.statementRange.start site.specifierRange.start
          specifier := site.specifierRange.slice source
          closing := source.slice site.specifierRange.stop site.statementRange.stop } =
      source.slice offset site.statementRange.stop := by
  have first := site.start_le_specifier
  have second := site.specifierRange.start_le_stop
  have third := site.specifier_le_stop
  rw [Passage.text, Passage.declaration, TextRange.slice, List.append_assoc,
    Text.slice_append_slice source second third, Text.slice_append_slice source first
      (second.trans third), Text.slice_append_slice source ordered
      (first.trans (second.trans third))]

/-- Cutting loses nothing, and the sites are those of the passages. -/
theorem cutFrom_spec {sites : List ImportSite} {offset : Nat} (orderly : Orderly source sites)
    (within : offset ≤ source.length)
    (ahead : ∀ site ∈ sites, offset ≤ site.statementRange.start)
    (sliced : ∀ site ∈ sites, site.specifier = site.specifierRange.slice source) :
    (cutFrom source offset sites).text = source.drop offset ∧
      Sited offset (cutFrom source offset sites).passages sites := by
  induction sites generalizing offset with
  | nil => exact ⟨rfl, Sited.nil offset⟩
  | cons site sites inductionHypothesis =>
      have apart := List.pairwise_cons.mp orderly.apart
      have inside := orderly.inside site List.mem_cons_self
      have ordered := ahead site List.mem_cons_self
      have first := site.start_le_specifier
      have second := site.specifierRange.start_le_stop
      have third := site.specifier_le_stop
      have others := inductionHypothesis
        ⟨apart.2, fun other member => orderly.inside other (List.mem_cons_of_mem _ member),
          fun other member => orderly.declared other (List.mem_cons_of_mem _ member)⟩
        inside apart.1 (fun other member => sliced other (List.mem_cons_of_mem _ member))
      have whole := @passage_text_eq_slice source _ _ ordered
      have stopEq : offset + (source.slice offset site.statementRange.stop).length =
          site.statementRange.stop := by
        rw [Text.length_slice source _ inside]
        omega
      refine ⟨?_, Sited.cons ⟨?_, ?_, ?_, ?_, ?_⟩ ?_⟩
      · rw [cutFrom, text, List.flatMap_cons, whole, List.append_assoc]
        change _ ++ (cutFrom source site.statementRange.stop sites).text = _
        rw [others.1, Text.slice_append_drop source (by omega)]
      · rw [Text.length_slice source _ (by omega)]
        omega
      · rw [whole, stopEq]
      · rw [Text.length_slice source _ (by omega), Text.length_slice source _ (by omega)]
        omega
      · rw [TextRange.slice, Text.length_slice source _ (by omega),
          Text.length_slice source _ (by omega), Text.length_slice source _ (by omega)]
        omega
      · exact sliced site List.mem_cons_self
      · rw [whole, stopEq]
        exact others.2

/-- A script is the script of its layout, and its sites are those of the
passages. -/
theorem cut_spec {sites : List ImportSite} (orderly : Orderly source sites)
    (sliced : ∀ site ∈ sites, site.specifier = site.specifierRange.slice source) :
    (cut source sites).text = source ∧ Sited 0 (cut source sites).passages sites := by
  simpa only [cut, List.drop_zero] using
    cutFrom_spec orderly (Nat.zero_le _) (fun _ _ => Nat.zero_le _) sliced

end Layout

/-! ## Slices of a layout -/

namespace Passage

variable {passage : Passage} {done tail : Text} {site : ImportSite}

/-- The text before a declaration is what stands before its passage and what
the passage starts with. -/
theorem IsAt.take_start (here : passage.IsAt done.length site) :
    (done ++ passage.text ++ tail).take site.statementRange.start = done ++ passage.before := by
  rw [here.start_eq, ← List.length_append, Passage.text]
  simp only [List.append_assoc]
  rw [← List.append_assoc]
  exact List.take_left

/-- Between two offsets of a passage stands the part of it between them. -/
theorem slice_append {first second third : Text} {start stop : Nat}
    (startEq : start = first.length) (stopEq : stop = first.length + second.length) :
    (first ++ second ++ third).slice start stop = second := by
  rw [startEq, stopEq, Text.slice_append_append]

theorem IsAt.slice_before (here : passage.IsAt done.length site) :
    (done ++ passage.text ++ tail).slice done.length site.statementRange.start =
      passage.before := by
  have split : done ++ passage.text ++ tail =
      done ++ passage.before ++ (passage.declaration ++ tail) := by
    simp [Passage.text]
  rw [split, slice_append rfl here.start_eq]

theorem IsAt.slice_statement (here : passage.IsAt done.length site) :
    site.statementRange.slice (done ++ passage.text ++ tail) = passage.declaration := by
  have split : done ++ passage.text ++ tail =
      (done ++ passage.before) ++ passage.declaration ++ tail := by
    simp [Passage.text]
  have stopEq : site.statementRange.stop =
      (done ++ passage.before).length + passage.declaration.length := by
    rw [here.stop_eq, Passage.text]
    simp [Nat.add_assoc]
  rw [TextRange.slice, split, slice_append (by rw [here.start_eq]; simp) stopEq]

theorem IsAt.slice_opening (here : passage.IsAt done.length site) :
    (done ++ passage.text ++ tail).slice site.statementRange.start site.specifierRange.start =
      passage.opening := by
  have split : done ++ passage.text ++ tail =
      (done ++ passage.before) ++ passage.opening ++
        (passage.specifier ++ passage.closing ++ tail) := by
    simp [Passage.text, Passage.declaration]
  rw [split, slice_append (by rw [here.start_eq]; simp)
    (by rw [here.specifier_start_eq]; simp)]

theorem IsAt.slice_specifier (here : passage.IsAt done.length site) :
    site.specifierRange.slice (done ++ passage.text ++ tail) = passage.specifier := by
  have split : done ++ passage.text ++ tail =
      (done ++ passage.before ++ passage.opening) ++ passage.specifier ++
        (passage.closing ++ tail) := by
    simp [Passage.text, Passage.declaration]
  rw [TextRange.slice, split, slice_append (by rw [here.specifier_start_eq]; simp [Nat.add_assoc])
    (by rw [here.specifier_stop_eq]; simp [Nat.add_assoc])]

theorem IsAt.slice_closing (here : passage.IsAt done.length site) :
    (done ++ passage.text ++ tail).slice site.specifierRange.stop site.statementRange.stop =
      passage.closing := by
  have split : done ++ passage.text ++ tail =
      (done ++ passage.before ++ passage.opening ++ passage.specifier) ++ passage.closing ++
        tail := by
    simp [Passage.text, Passage.declaration]
  rw [split, slice_append (by rw [here.specifier_stop_eq]; simp [Nat.add_assoc])
    (by rw [here.stop_eq, Passage.length_text]; simp; omega)]

end Passage

/-! ## Sites of a layout -/

namespace Sited

variable {passages : List Passage} {sites : List ImportSite} {offset : Nat}

/-- No site of passages behind an offset starts before the offset. -/
theorem offset_le_start (sited : Sited offset passages sites) :
    ∀ site ∈ sites, offset ≤ site.statementRange.start := by
  induction sited with
  | nil => exact fun _ member => absurd member List.not_mem_nil
  | @cons offset passage passages first sites here behind inductionHypothesis =>
      intro site member
      rcases List.mem_cons.mp member with same | member
      · rw [same, here.start_eq]
        omega
      · have ahead := inductionHypothesis site member
        omega

/-- The sites of passages that hold declarations stand in the text as a parser
finds them. -/
theorem orderly {done tail : Text} (sited : Sited done.length passages sites)
    (declared : ∀ passage ∈ passages, isDeclaration passage.declaration = true) :
    Orderly (done ++ passages.flatMap Passage.text ++ tail) sites := by
  induction passages generalizing done sites with
  | nil =>
      cases sited
      exact ⟨List.Pairwise.nil, fun _ member => absurd member List.not_mem_nil,
        fun _ member => absurd member List.not_mem_nil⟩
  | cons passage passages inductionHypothesis =>
      cases sited with
      | @cons _ _ _ site sites here behind =>
          have longer : done.length + passage.text.length = (done ++ passage.text).length := by
            simp
          have others := inductionHypothesis (longer ▸ behind)
            (fun other member => declared other (List.mem_cons_of_mem _ member))
          have same : done ++ passage.text ++ passages.flatMap Passage.text ++ tail =
              done ++ (passage :: passages).flatMap Passage.text ++ tail := by
            simp
          have split : done ++ (passage :: passages).flatMap Passage.text ++ tail =
              done ++ passage.text ++ (passages.flatMap Passage.text ++ tail) := by
            simp
          rw [same] at others
          refine ⟨List.pairwise_cons.mpr ⟨fun other member => ?_, others.apart⟩, ?_, ?_⟩
          · rw [here.stop_eq]
            exact behind.offset_le_start other member
          · intro other member
            rcases List.mem_cons.mp member with first | member
            · rw [first, here.stop_eq, split]
              simp
            · exact others.inside other member
          · intro other member
            rcases List.mem_cons.mp member with first | member
            · rw [first, split, here.slice_statement]
              exact declared passage List.mem_cons_self
            · exact others.declared other member

/-- Every passage of a text stands somewhere in it, with its site. -/
theorem exists_site {done tail : Text} (sited : Sited done.length passages sites) :
    ∀ passage ∈ passages, ∃ first last, ∃ site ∈ sites,
      done ++ passages.flatMap Passage.text ++ tail = first ++ passage.text ++ last ∧
        passage.IsAt first.length site := by
  induction passages generalizing done sites with
  | nil => exact fun _ member => absurd member List.not_mem_nil
  | cons passage passages inductionHypothesis =>
      cases sited with
      | @cons _ _ _ site sites here behind =>
          intro other member
          rcases List.mem_cons.mp member with rfl | member
          · exact ⟨done, passages.flatMap Passage.text ++ tail, site, List.mem_cons_self,
              by simp, here⟩
          · have longer : done.length + passage.text.length = (done ++ passage.text).length := by
              simp
            rcases inductionHypothesis (longer ▸ behind) other
              member with ⟨first, last, otherSite, siteMember, whole, there⟩
            exact ⟨first, last, otherSite, List.mem_cons_of_mem _ siteMember,
              by rw [← whole]; simp, there⟩

/-- The passages of a text in which a parser finds declarations hold
declarations. -/
theorem declared {done tail : Text} (sited : Sited done.length passages sites)
    (orderly : Orderly (done ++ passages.flatMap Passage.text ++ tail) sites) :
    ∀ passage ∈ passages, isDeclaration passage.declaration = true := by
  intro passage member
  rcases sited.exists_site passage member with
    ⟨first, last, site, siteMember, whole, here⟩
  have isDeclared := orderly.declared site siteMember
  rwa [whole, here.slice_statement] at isDeclared

end Sited

/-! ## Deciding where passages stand -/

instance (passage : Passage) (offset : Nat) (site : ImportSite) :
    Decidable (passage.IsAt offset site) :=
  decidable_of_iff
    (site.statementRange.start = offset + passage.before.length ∧
      site.statementRange.stop = offset + passage.text.length ∧
      site.specifierRange.start = offset + passage.before.length + passage.opening.length ∧
      site.specifierRange.stop =
        offset + passage.before.length + passage.opening.length + passage.specifier.length ∧
      site.specifier = passage.specifier)
    ⟨fun ⟨start, stop, from_, upTo, spelled⟩ => ⟨start, stop, from_, upTo, spelled⟩,
      fun here => ⟨here.start_eq, here.stop_eq, here.specifier_start_eq, here.specifier_stop_eq,
        here.specifier_eq⟩⟩

theorem sited_cons_iff {offset : Nat} {passage : Passage} {passages : List Passage}
    {site : ImportSite} {sites : List ImportSite} :
    Sited offset (passage :: passages) (site :: sites) ↔
      passage.IsAt offset site ∧ Sited (offset + passage.text.length) passages sites := by
  constructor
  · rintro (_ | ⟨here, behind⟩)
    exact ⟨here, behind⟩
  · exact fun ⟨here, behind⟩ => Sited.cons here behind

instance decidableSited : (offset : Nat) → (passages : List Passage) →
    (sites : List ImportSite) → Decidable (Sited offset passages sites)
  | offset, [], [] => isTrue (Sited.nil offset)
  | _, [], _ :: _ => isFalse nofun
  | _, _ :: _, [] => isFalse nofun
  | offset, passage :: passages, site :: sites =>
      have := decidableSited (offset + passage.text.length) passages sites
      decidable_of_iff (passage.IsAt offset site ∧
        Sited (offset + passage.text.length) passages sites) sited_cons_iff.symm

end Respecify
