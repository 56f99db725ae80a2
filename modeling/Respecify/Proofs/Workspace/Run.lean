import Respecify.Proofs.Workspace.Saving

/-!
# Saving scripts one after the other

Scripts are saved in their order up to the first one that cannot be.  Which
scripts a run comes to can be told from the tree before it: what the run has
saved does not bear on what can be saved behind it.
-/

namespace Respecify

/-- A script that is to be saved, and the server for which it is. -/
structure Saving where
  hostname : Text
  script : Script

namespace Saving

/-- The names at which the script is stored below the root. -/
def names (saving : Saving) : List Text :=
  saving.hostname :: Location.namesOf (Path.unrooted saving.script.name)

/-- The place of the script. -/
def place (root : Place) (saving : Saving) : Place :=
  root ++ saving.names

/-- The server and the script have names as files have them. -/
structure IsNamed (saving : Saving) : Prop where
  server : IsName saving.hostname
  script : ∃ names, names ≠ [] ∧ (∀ name ∈ names, IsName name) ∧
    Path.unrooted saving.script.name = Text.join [Path.separator] names

variable {saving : Saving} {root : Place}

theorem place_ne_nil (root : Place) (saving : Saving) : saving.place root ≠ [] := by
  simp [place, names]

theorem IsNamed.ordinary (named : saving.IsNamed) : ∀ name ∈ saving.names, name ≠ FileTree.up := by
  rcases named.script with ⟨others, filled, each, whole⟩
  intro name member
  rw [names, whole, Location.namesOf_join filled each] at member
  rcases List.mem_cons.mp member with rfl | member
  · exact named.server.ne_up
  · exact (each name member).ne_up

/-- A script with a name is stored at its names below the root. -/
theorem IsNamed.scriptLocation_eq (named : saving.IsNamed) (store : Store) :
    store.scriptLocation saving.hostname saving.script.name =
      ⟨store.root.anchor, store.root.names ++ saving.names⟩ := by
  rcases named.script with ⟨others, filled, each, whole⟩
  have joined := Location.join_join store.root (List.cons_ne_nil saving.hostname [])
    (by simpa using named.server)
  change store.root.join saving.hostname = _ at joined
  rw [Store.scriptLocation, whole, joined, Location.join_join _ filled each, names, whole,
    Location.namesOf_join filled each]
  simp

end Saving

namespace FileTree

variable {tree before after : FileTree} {root place : Place} {code : Text} {saving : Saving}
  {savings : List Saving}

/-- A run that saves scripts comes to the one at a place: all before it can be
saved. -/
def Reaches (tree : FileTree) (root place : Place) : List Saving → Prop
  | [] => False
  | saving :: rest =>
      saving.place root = place ∨
        tree.Takes (saving.place root) saving.script.code ∧ Reaches tree root place rest

instance decidableReaches (tree : FileTree) (root place : Place) :
    (savings : List Saving) → Decidable (tree.Reaches root place savings)
  | [] => isFalse id
  | _ :: rest =>
      have := decidableReaches tree root place rest
      inferInstanceAs (Decidable (_ ∨ _ ∧ _))

/-- When a run that saves scripts ends, the text of the script is at its place: it
was there before, or the run comes to it and can save it. -/
def Gets (tree : FileTree) (root : Place) (savings : List Saving) (saving : Saving) : Prop :=
  tree.text? (saving.place root) = some saving.script.code ∨
    tree.Reaches root (saving.place root) savings ∧
      tree.Takes (saving.place root) saving.script.code

instance (tree : FileTree) (root : Place) (savings : List Saving) (saving : Saving) :
    Decidable (tree.Gets root savings saving) :=
  inferInstanceAs (Decidable (_ ∨ _ ∧ _))

theorem exists_of_reaches (reached : tree.Reaches root place savings) :
    ∃ saving ∈ savings, saving.place root = place := by
  induction savings with
  | nil => exact reached.elim
  | cons saving savings inductionHypothesis =>
      rcases reached with here | ⟨_, behind⟩
      · exact ⟨saving, List.mem_cons_self, here⟩
      · rcases inductionHypothesis behind with ⟨other, member, there⟩
        exact ⟨other, List.mem_cons_of_mem _ member, there⟩

/-- A run that can save all scripts comes to each of them. -/
theorem reaches_of_takes (takes : ∀ saving ∈ savings,
    tree.Takes (saving.place root) saving.script.code) (member : saving ∈ savings) :
    tree.Reaches root (saving.place root) savings := by
  induction savings with
  | nil => cases member
  | cons other savings inductionHypothesis =>
      rcases List.mem_cons.mp member with rfl | member
      · exact Or.inl rfl
      · exact Or.inr ⟨takes other List.mem_cons_self, inductionHypothesis
          (fun further furtherMember => takes further (List.mem_cons_of_mem _ furtherMember))
          member⟩

theorem reaches_congr
    (same : ∀ saving ∈ savings, before.Takes (saving.place root) saving.script.code ↔
      after.Takes (saving.place root) saving.script.code) :
    before.Reaches root place savings ↔ after.Reaches root place savings := by
  induction savings with
  | nil => exact Iff.rfl
  | cons saving savings inductionHypothesis =>
      exact or_congr Iff.rfl (and_congr (same saving List.mem_cons_self)
        (inductionHypothesis fun other member => same other (List.mem_cons_of_mem _ member)))

/-! ## What a save leaves alone -/

/-- The scripts are stored at different places; if nothing stands at either of
them, neither is above the other. -/
def Apart (tree : FileTree) (root : Place) (one other : Saving) : Prop :=
  one.place root ≠ other.place root ∧
    (tree.node? (one.place root) = none → tree.node? (other.place root) = none →
      ¬ one.place root <+: other.place root ∧ ¬ other.place root <+: one.place root)

/-- At another place a save at most adds a directory. -/
theorem IsSave.kept_or_added {outcome : Except FileError Unit × FileTree} {other : Place}
    (save : tree.IsSave place code outcome) (apart : other ≠ place) :
    outcome.2.node? other = tree.node? other ∨
      tree.node? other = none ∧ outcome.2.node? other = some .directory := by
  rcases save.elsewhere other apart with kept | ⟨none, directory, _⟩
  · exact Or.inl kept
  · exact Or.inr ⟨none, directory⟩

/-- Saving a script changes nothing at the place of another one. -/
theorem IsSave.node?_of_apart {outcome : Except FileError Unit × FileTree} {other : Saving}
    (save : tree.IsSave (saving.place root) code outcome) (nested : tree.IsNested)
    (apart : tree.Apart root saving other) :
    outcome.2.node? (other.place root) = tree.node? (other.place root) := by
  rcases save.elsewhere _ (Ne.symm apart.1) with kept | ⟨none, _, isAbove⟩
  · exact kept
  · cases here : tree.node? (saving.place root) with
    | none => exact absurd isAbove (apart.2 here none).2
    | some node =>
        have directory := nested.directory_of_prefix isAbove (Ne.symm apart.1) (by rw [here]; rfl)
        rw [none] at directory
        cases directory

/-- Saving a script does not bear on whether another one can be saved. -/
theorem IsSave.takes_of_apart {outcome : Except FileError Unit × FileTree} {other : Saving}
    {otherCode : Text} (save : tree.IsSave (saving.place root) code outcome)
    (nested : tree.IsNested) (takes : tree.Takes (saving.place root) code)
    (apart : tree.Apart root saving other) :
    tree.Takes (other.place root) otherCode ↔ outcome.2.Takes (other.place root) otherCode := by
  have same := save.node?_of_apart nested apart
  have isFile : ∀ above, above <+: (other.place root).dropLast →
      ((∃ bytes, tree.node? above = some (.file bytes)) ↔
        ∃ bytes, outcome.2.node? above = some (.file bytes)) := by
    intro above isAbove
    by_cases here : above = saving.place root
    · subst here
      rcases text?_eq_some_iff.mp (save.taken takes) with ⟨bytes, file, _⟩
      refine iff_of_true ?_ ⟨bytes, file⟩
      have isAbove' := isAbove.trans (List.dropLast_prefix _)
      rcases takes.free with absent | isText
      · exfalso
        cases there : tree.node? (other.place root) with
        | none => exact (apart.2 absent there).1 isAbove'
        | some node =>
            rw [nested.directory_of_prefix isAbove' apart.1 (by rw [there]; rfl)] at absent
            cases absent
      · rcases Option.isSome_iff_exists.mp isText with ⟨source, found⟩
        rcases text?_eq_some_iff.mp found with ⟨old, oldFile, _⟩
        exact ⟨old, oldFile⟩
    · rcases save.kept_or_added here with kept | ⟨none, directory⟩
      · rw [kept]
      · simp [none, directory]
  have way : tree.HasWay (other.place root).dropLast ↔
      outcome.2.HasWay (other.place root).dropLast := by
    rw [hasWay_iff, hasWay_iff]
    refine forall_congr' fun above => forall_congr' fun isAbove => ?_
    rw [← not_exists, ← not_exists]
    exact not_congr (isFile above isAbove)
  constructor
  · intro taken
    exact ⟨way.mp taken.way, by rw [same, text?_congr same]; exact taken.free, taken.scalar⟩
  · intro taken
    exact ⟨way.mpr taken.way, by rw [← same, ← text?_congr same]; exact taken.free, taken.scalar⟩

/-- What happened at a place can be told from any trees that agree there. -/
theorem IsSavedAt.congr {first last : FileTree} (saved : first.IsSavedAt last place code)
    (same : first.node? place = before.node? place)
    (takes : before.Takes place code ↔ first.Takes place code)
    (sameAfter : after.node? place = last.node? place) : before.IsSavedAt after place code where
  taken taken := (text?_congr sameAfter).trans (saved.taken (takes.mp taken))
  held held := by
    rw [sameAfter, saved.held ((text?_congr same).trans held), same]
  refused refused scalar := by
    rw [sameAfter, saved.refused (fun taken => refused (takes.mpr taken)) scalar, same]
  emptied unencodable present := by
    rw [sameAfter, saved.emptied unencodable (by rwa [text?_congr same])]

end FileTree

/-! ## A run -/

namespace Store

open FileTree

/-- Save scripts one after the other. -/
def saveEach (store : Store) : List Saving → Disk Unit
  | [] => pure ()
  | saving :: rest => do
      store.saveScript saving.hostname saving.script
      store.saveEach rest

/-- What each save leaves true is true behind a run of saves. -/
theorem after_saveEach {P : FileTree → Prop} {store : Store} {savings : List Saving}
    {tree : FileTree} (before : P tree)
    (step : ∀ saving ∈ savings, ∀ between, P between →
      P (Disk.perform (store.saveScript saving.hostname saving.script) between).2) :
    P (Disk.perform (store.saveEach savings) tree).2 := by
  induction savings generalizing tree with
  | nil => exact before
  | cons saving savings inductionHypothesis =>
      rw [List.forall_mem_cons] at step
      exact Disk.after_bind (step.1 tree before) fun _ _ held =>
        inductionHypothesis held step.2

/-- What a run that saves scripts does to a tree: what it comes to is saved, and
elsewhere at most directories are added.  It ends well if all can be saved. -/
structure IsRun (tree : FileTree) (root : Place) (savings : List Saving)
    (outcome : Except FileError Unit × FileTree) : Prop where
  ok_iff : outcome.1 = .ok () ↔
    ∀ saving ∈ savings, tree.Takes (saving.place root) saving.script.code
  reached : ∀ saving ∈ savings, tree.Reaches root (saving.place root) savings →
    tree.IsSavedAt outcome.2 (saving.place root) saving.script.code
  missed : ∀ place, ¬ tree.Reaches root place savings →
    outcome.2.node? place = tree.node? place ∨
      tree.node? place = none ∧ outcome.2.node? place = some .directory
  directories : ∀ place, tree.node? place = some .directory →
    outcome.2.node? place = some .directory
  nested : outcome.2.IsNested

variable {store : Store} {tree between : FileTree} {root : Place} {saving : Saving}
  {savings : List Saving} {outcome : Except FileError Unit × FileTree}

/-! ## The first save of a run -/

/-- A run stops at a script that cannot be saved. -/
theorem isRun_of_error {error : FileError}
    (save : tree.IsSave (saving.place root) saving.script.code (.error error, between))
    (apart : ∀ other ∈ savings, tree.Apart root saving other) :
    IsRun tree root (saving :: savings) (.error error, between) := by
  have refused : ¬ tree.Takes (saving.place root) saving.script.code := fun takes => by
    cases save.ok_iff.mpr takes
  have onlyHere : ∀ place, tree.Reaches root place (saving :: savings) ↔
      saving.place root = place := fun place =>
    ⟨fun reached => reached.resolve_right fun behind => refused behind.1, Or.inl⟩
  refine ⟨iff_of_false (fun ok => by cases ok) fun all =>
      refused (all saving List.mem_cons_self),
    fun other member reached => ?_, fun place missed => ?_, save.directories, save.nested⟩
  · rcases List.mem_cons.mp member with rfl | member
    · exact save.toIsSavedAt
    · exact absurd ((onlyHere _).mp reached) (apart other member).1
  · rw [onlyHere] at missed
    exact save.kept_or_added (Ne.symm missed)

section Taken

variable (save : tree.IsSave (saving.place root) saving.script.code (.ok (), between))
  (nested : tree.IsNested) (apart : ∀ other ∈ savings, tree.Apart root saving other)

include save nested apart

/-- Behind a save, the other scripts are still apart. -/
theorem pairwise_apart_of_ok (apartBehind : savings.Pairwise (tree.Apart root)) :
    savings.Pairwise (between.Apart root) := by
  have same : ∀ other ∈ savings,
      between.node? (other.place root) = tree.node? (other.place root) :=
    fun other member => save.node?_of_apart nested (apart other member)
  refine apartBehind.imp_of_mem fun {one other} oneMember otherMember apart => ?_
  rw [Apart, same one oneMember, same other otherMember]
  exact apart

/-- A run goes on behind a script that is saved as it would without it: the tree is
alike where it matters. -/
theorem isRun_of_ok (behind : IsRun between root savings outcome) :
    IsRun tree root (saving :: savings) outcome := by
  have takes := save.ok_iff.mp rfl
  have takesToo : ∀ other ∈ savings, tree.Takes (other.place root) other.script.code ↔
      between.Takes (other.place root) other.script.code :=
    fun other member => save.takes_of_apart nested takes (apart other member)
  have reachesBehind : ∀ place, tree.Reaches root place savings ↔
      between.Reaches root place savings := fun place => reaches_congr takesToo
  have notBehind : ¬ between.Reaches root (saving.place root) savings := fun reached => by
    rcases exists_of_reaches reached with ⟨other, member, there⟩
    exact (apart other member).1 there.symm
  refine ⟨?_, fun other member reached => ?_, fun place missed => ?_,
    fun place directory => behind.directories place (save.directories place directory),
    behind.nested⟩
  · rw [behind.ok_iff, List.forall_mem_cons]
    exact ⟨fun all => ⟨takes, fun other member =>
        (takesToo other member).mpr (all other member)⟩,
      fun all other member => (takesToo other member).mp (all.2 other member)⟩
  · rcases List.mem_cons.mp member with rfl | member
    · refine save.toIsSavedAt.congr rfl Iff.rfl ?_
      rcases behind.missed _ notBehind with kept | ⟨none, _⟩
      · exact kept
      · have text := save.taken takes
        rw [text?, none] at text
        cases text
    · have reached' := (reachesBehind _).mp ((reached.resolve_left (apart other member).1).2)
      exact (behind.reached other member reached').congr
        (save.node?_of_apart nested (apart other member)) (takesToo other member) rfl
  · rw [Reaches, not_or] at missed
    have missedBehind : ¬ between.Reaches root place savings := fun reached =>
      missed.2 ⟨takes, (reachesBehind place).mpr reached⟩
    have here := save.kept_or_added (Ne.symm missed.1)
    dsimp only at here
    rcases behind.missed place missedBehind with kept | ⟨none, directory⟩
    · rwa [kept]
    · rcases here with kept | ⟨_, present⟩
      · exact Or.inr ⟨kept ▸ none, directory⟩
      · rw [none] at present
        cases present

end Taken

/-- A run saves what it comes to. -/
theorem isRun_saveEach (rooted : tree.IsRooted store.root root)
    (named : ∀ saving ∈ savings, saving.IsNamed) (apart : savings.Pairwise (tree.Apart root)) :
    IsRun tree root savings (Disk.perform (store.saveEach savings) tree) := by
  induction savings generalizing tree with
  | nil =>
      exact ⟨iff_of_true rfl (fun _ member => absurd member List.not_mem_nil),
        fun _ member => absurd member List.not_mem_nil, fun _ _ => Or.inl rfl, fun _ => id,
        rooted.nested⟩
  | cons saving savings inductionHypothesis =>
      have isNamed := named saving List.mem_cons_self
      have save := isSave_saveScript rooted isNamed.ordinary (by simp [Saving.names])
        (isNamed.scriptLocation_eq store)
      change tree.IsSave (saving.place root) _ _ at save
      rcases List.pairwise_cons.mp apart with ⟨apartHere, apartBehind⟩
      rw [saveEach, Disk.perform_bind]
      generalize Disk.perform (store.saveScript saving.hostname saving.script) tree = first
        at save
      rcases first with ⟨error | _, between⟩
      · exact isRun_of_error save apartHere
      · refine isRun_of_ok save rooted.nested apartHere (inductionHypothesis ?_ ?_ ?_)
        · exact rooted.of_kept save.nested fun place => save.directories place
        · exact fun other member => named other (List.mem_cons_of_mem _ member)
        · exact pairwise_apart_of_ok save rooted.nested apartHere apartBehind

/-! ## What a run leaves at a place -/

namespace IsRun

variable {code : Text}

/-- A run leaves a text where it is, and saves it where it can be saved if the run
comes to it. -/
theorem text?_eq_iff (run : IsRun tree root savings outcome) (member : saving ∈ savings)
    (scalar : ∀ c ∈ saving.script.code, isScalar c = true) :
    outcome.2.text? (saving.place root) = some saving.script.code ↔
      tree.Gets root savings saving := by
  unfold Gets
  by_cases reached : tree.Reaches root (saving.place root) savings
  · have saved := run.reached saving member reached
    by_cases takes : tree.Takes (saving.place root) saving.script.code
    · exact iff_of_true (saved.taken takes) (Or.inr ⟨reached, takes⟩)
    · rw [text?_congr (saved.refused takes scalar)]
      exact ⟨Or.inl, fun kept => kept.resolve_right fun both => takes both.2⟩
  · rcases run.missed _ reached with kept | ⟨none, directory⟩
    · rw [text?_congr kept]
      exact ⟨Or.inl, fun kept => kept.resolve_right fun both => reached both.1⟩
    · have noText : tree.text? (saving.place root) = Option.none := by rw [text?, none]
      have noTextAfter : outcome.2.text? (saving.place root) = Option.none := by
        rw [text?, directory]
      rw [noText, noTextAfter]
      exact ⟨Or.inl, fun kept => kept.resolve_right fun both => reached both.1⟩

/-- A run that ends well leaves each text where it is to be saved. -/
theorem text?_of_ok {after : FileTree} (run : IsRun tree root savings (.ok (), after))
    (member : saving ∈ savings) : after.text? (saving.place root) = some saving.script.code := by
  have takes := run.ok_iff.mp rfl
  exact (run.reached saving member (reaches_of_takes takes member)).taken (takes saving member)

/-- A run that comes to a file with another text changes the file, be it that its
new text cannot be written. -/
theorem node?_eq_iff (run : IsRun tree root savings outcome) (nested : tree.IsNested)
    (member : saving ∈ savings) (present : tree.text? (saving.place root) = some code)
    (filled : code ≠ []) (differs : saving.script.code ≠ code) :
    outcome.2.node? (saving.place root) = tree.node? (saving.place root) ↔
      ¬ tree.Reaches root (saving.place root) savings := by
  rcases text?_eq_some_iff.mp present with ⟨bytes, file, decoded⟩
  by_cases reached : tree.Reaches root (saving.place root) savings
  · refine iff_of_false (fun same => ?_) (not_not.mpr reached)
    have saved := run.reached saving member reached
    by_cases scalar : ∀ c ∈ saving.script.code, isScalar c = true
    · have takes : tree.Takes (saving.place root) saving.script.code :=
        { way := nested.hasWay_dropLast (saving.place_ne_nil root) (by rw [file]; rfl)
          free := Or.inr (by rw [present]; rfl)
          scalar }
      have text := saved.taken takes
      rw [text?_congr same, present] at text
      exact differs (Option.some.inj text).symm
    · have emptied := saved.emptied scalar (by rw [present]; rfl)
      rw [same, file] at emptied
      cases emptied
      cases decoded
      exact filled rfl
  · refine iff_of_true ?_ reached
    rcases run.missed _ reached with kept | ⟨none, _⟩
    · exact kept
    · rw [file] at none
      cases none

/-- A run leaves a file as it is whose text is to be saved there. -/
theorem node?_of_held (run : IsRun tree root savings outcome) (member : saving ∈ savings)
    (held : tree.text? (saving.place root) = some saving.script.code) :
    outcome.2.node? (saving.place root) = tree.node? (saving.place root) := by
  by_cases reached : tree.Reaches root (saving.place root) savings
  · exact (run.reached saving member reached).held held
  · rcases run.missed _ reached with kept | ⟨none, _⟩
    · exact kept
    · rw [text?, none] at held
      cases held

end IsRun

end Store

end Respecify
