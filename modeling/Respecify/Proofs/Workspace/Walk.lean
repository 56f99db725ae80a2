import Respecify.Proofs.Text.Split
import Respecify.Proofs.Workspace.FileTree

/-!
# Where locations lead

A location that is written with names leads to the place that its names tell,
through directories.  What it leads to depends only on the directories that
there are, and it can be told without them: two dots lead back.
-/

namespace Respecify

/-! ## Names in texts -/

namespace IsName

variable {name : Text}

theorem nonempty (isName : IsName name) : name ≠ [] :=
  isName.1

theorem plain (isName : IsName name) : Path.separator ∉ name :=
  isName.2.1

theorem ne_up (isName : IsName name) : name ≠ FileTree.up :=
  isName.2.2.2

theorem counts (isName : IsName name) : (!name.isEmpty && name != text ".") = true := by
  rw [Bool.and_eq_true, Bool.not_eq_true', List.isEmpty_eq_false_iff, bne_iff_ne]
  exact ⟨isName.1, isName.2.2.1⟩

end IsName

/-- The names before a slash and those behind it all count. -/
theorem Location.namesOf_append_separator (first second : Text) :
    namesOf (first ++ Path.separator :: second) = namesOf first ++ namesOf second := by
  rw [namesOf, Text.splitOn_append_separator, List.filter_append, namesOf, namesOf]

/-- Names that are joined with slashes are found in the text. -/
theorem Location.namesOf_join {names : List Text} (filled : names ≠ [])
    (named : ∀ name ∈ names, IsName name) :
    namesOf (Text.join [Path.separator] names) = names := by
  rw [namesOf, Text.splitOn_join filled fun name member => (named name member).plain,
    List.filter_eq_self]
  exact fun name member => (named name member).counts

/-- A text that is made of names does not start with a slash. -/
theorem Text.startsWith_join {names : List Text} (filled : names ≠ [])
    (named : ∀ name ∈ names, IsName name) :
    (join [Path.separator] names).startsWith [Path.separator] = false := by
  rcases List.exists_cons_of_ne_nil filled with ⟨name, others, rfl⟩
  have isName := named name List.mem_cons_self
  rcases List.exists_cons_of_ne_nil isName.nonempty with ⟨c, rest, rfl⟩
  have differs : (Path.separator == c) = false := by
    rw [beq_eq_false_iff_ne]
    exact fun same => isName.plain (same ▸ List.mem_cons_self)
  have starts : ∃ tail, join [Path.separator] ((c :: rest) :: others) = c :: tail := by
    cases others with
    | nil => exact ⟨rest, rfl⟩
    | cons other others => exact ⟨rest ++ [Path.separator] ++ _, rfl⟩
  rcases starts with ⟨tail, whole⟩
  rw [whole, startsWith, List.isPrefixOf, differs]
  rfl

/-- A location goes on with the names of a text. -/
theorem Location.join_join (location : Location) {names : List Text} (filled : names ≠ [])
    (named : ∀ name ∈ names, IsName name) :
    location.join (Text.join [Path.separator] names) =
      ⟨location.anchor, location.names ++ names⟩ := by
  rw [join, Text.startsWith_join filled named, if_neg (by simp), namesOf_join filled named]

/-! ## Walking through directories -/

namespace FileTree

variable {tree other : FileTree} {start place : Place} {names : List Text}

theorem walk_cons_of_ne_nil (tree : FileTree) (start : Place) (name : Text) (filled : names ≠ []) :
    tree.walk start (name :: names) =
      match tree.enter start name with
      | .ok inner => tree.walk inner names
      | .error error => .error error := by
  rcases List.exists_cons_of_ne_nil filled with ⟨next, rest, rfl⟩
  rfl

theorem enter_of_ne_up {name : Text} (ordinary : name ≠ up) :
    tree.enter start name =
      match tree.node? (start ++ [name]) with
      | none => .error .notFound
      | some (.file _) => .error .notDirectory
      | some .directory => .ok (start ++ [name]) := by
  unfold enter
  exact if_neg ordinary

/-- A directory is entered from above or from one below it. -/
theorem enter_eq_ok_iff {name : Text} {inner : Place} :
    tree.enter start name = .ok inner ↔
      name = up ∧ start ≠ [] ∧ inner = start.dropLast ∨
        name ≠ up ∧ tree.node? (start ++ [name]) = some .directory ∧ inner = start ++ [name] := by
  by_cases isUp : name = up
  · rw [enter, if_pos isUp]
    cases start <;> simp [isUp, eq_comm]
  · rw [enter_of_ne_up isUp]
    rcases tree.node? (start ++ [name]) with _ | _ | _ <;> simp [isUp, eq_comm]

/-- Behind a directory that is entered, a walk goes on from there. -/
theorem walk_of_enter {name : Text} {inner : Place} (entered : tree.enter start name = .ok inner) :
    tree.walk start (name :: names) = tree.walk inner names := by
  cases names with
  | nil =>
      rcases enter_eq_ok_iff.mp entered with ⟨isUp, _⟩ | ⟨ordinary, _, rfl⟩
      · exact (if_pos isUp).trans entered
      · exact if_neg ordinary
  | cons next rest =>
      rw [walk_cons_of_ne_nil _ _ _ (List.cons_ne_nil next rest), entered]

/-- What holds of no names, of one name that need not be there, and of a directory that
is entered if it holds behind it, holds of every walk that ends at the place. -/
theorem walk_induction {motive : Place → List Text → Prop} (nil : motive place [])
    (last : ∀ {start name}, name ≠ up → place = start ++ [name] → motive start [name])
    (entered : ∀ {start inner name names}, tree.enter start name = .ok inner →
      motive inner names → motive start (name :: names))
    (walked : tree.walk start names = .ok place) : motive start names := by
  induction names generalizing start with
  | nil =>
      cases walked
      exact nil
  | cons name names inductionHypothesis =>
      cases here : tree.enter start name with
      | ok inner =>
          rw [walk_of_enter here] at walked
          exact entered here (inductionHypothesis walked)
      | error error =>
          cases names with
          | nil =>
              rw [walk] at walked
              split at walked
              · rw [here] at walked
                cases walked
              · rename_i ordinary
                exact last ordinary (Except.ok.inj walked).symm
          | cons next rest =>
              rw [walk_cons_of_ne_nil _ _ _ (List.cons_ne_nil next rest), here] at walked
              cases walked

/-- Names that lead to a directory can be followed by others. -/
theorem walk_append {first second : List Text} (walked : tree.walk start first = .ok place)
    (directory : tree.node? place = some .directory) :
    tree.walk start (first ++ second) = tree.walk place second := by
  refine walk_induction (motive := fun start first =>
    tree.walk start (first ++ second) = tree.walk place second) rfl ?last ?entered walked
  case last =>
    intro start name ordinary here
    rw [List.singleton_append]
    exact walk_of_enter (enter_eq_ok_iff.mpr (Or.inr ⟨ordinary, here ▸ directory, here⟩))
  case entered =>
    intro start inner name first here inductionHypothesis
    rw [List.cons_append, walk_of_enter here, inductionHypothesis]

/-- Names lead where they led as long as the directories on the way stay. -/
theorem walk_mono (kept : ∀ place, tree.node? place = some .directory →
      other.node? place = some .directory)
    (walked : tree.walk start names = .ok place) : other.walk start names = .ok place := by
  refine walk_induction (motive := fun start names => other.walk start names = .ok place)
    rfl ?last ?entered walked
  case last =>
    rintro start name ordinary rfl
    exact if_neg ordinary
  case entered =>
    intro start inner name names here inductionHypothesis
    have still : other.enter start name = .ok inner :=
      enter_eq_ok_iff.mpr ((enter_eq_ok_iff.mp here).imp_right fun ⟨ordinary, directory, same⟩ =>
        ⟨ordinary, kept _ directory, same⟩)
    rw [walk_of_enter still, inductionHypothesis]

/-- Below a directory, names lead to the place that they tell if all but the last
one are those of directories. -/
theorem walk_of_directory (nested : tree.IsNested) {last : Text}
    (ordinary : ∀ name ∈ names ++ [last], name ≠ up)
    (directory : tree.node? (start ++ names) = some .directory) :
    tree.walk start (names ++ [last]) = .ok (start ++ names ++ [last]) := by
  induction names generalizing start with
  | nil =>
      have notUp := ordinary last (by simp)
      rw [List.nil_append, List.append_nil, walk, if_neg notUp]
  | cons name names inductionHypothesis =>
      have notUp := ordinary name (by simp)
      have whole : start ++ name :: names = start ++ [name] ++ names := by simp
      rw [whole] at directory ⊢
      have entered : tree.node? (start ++ [name]) = some .directory := by
        rcases eq_or_ne names [] with rfl | filled
        · rwa [List.append_nil] at directory
        · exact nested.directory_of_append filled (by rw [directory]; rfl)
      rw [List.cons_append, walk_of_enter (enter_eq_ok_iff.mpr (Or.inr ⟨notUp, entered, rfl⟩))]
      exact inductionHypothesis
        (fun other member => ordinary other (List.mem_cons_of_mem _ member)) directory

/-- A walk along names that finds no file in its way goes on to the last one, or
something is missing. -/
theorem walk_of_not_directory {last : Text}
    (ordinary : ∀ name ∈ names ++ [last], name ≠ up)
    (begins : tree.node? start = some .directory)
    (noDirectory : tree.node? (start ++ names) ≠ some .directory) :
    tree.walk start (names ++ [last]) = .error .notFound ∨
      tree.walk start (names ++ [last]) = .error .notDirectory ∧
        ∃ above bytes, above <+: start ++ names ∧ tree.node? above = some (.file bytes) := by
  induction names generalizing start with
  | nil => exact absurd (by rwa [List.append_nil]) noDirectory
  | cons name names inductionHypothesis =>
      have notUp := ordinary name (by simp)
      have whole : start ++ name :: names = start ++ [name] ++ names := by simp
      rw [whole] at noDirectory ⊢
      rw [List.cons_append, walk_cons_of_ne_nil _ _ _ (by simp), enter_of_ne_up notUp]
      cases found : tree.node? (start ++ [name]) with
      | none => exact Or.inl rfl
      | some node =>
          cases node with
          | file bytes => exact Or.inr ⟨rfl, _, bytes, List.prefix_append _ _, found⟩
          | directory =>
              exact inductionHypothesis
                (fun other member => ordinary other (List.mem_cons_of_mem _ member)) found
                noDirectory

end FileTree

/-! ## Walking without a tree -/

namespace Location

/-- Where names lead from a place through directories, whichever there are. -/
def leads : Place → List Text → Option Place
  | place, [] => some place
  | place, name :: rest =>
      if name = FileTree.up then
        if place.isEmpty then none else leads place.dropLast rest
      else
        leads (place ++ [name]) rest

/-- The place that a location stands for, whichever directories there are. -/
def target? (location : Location) : Option Place :=
  if location.anchor.isEmpty then leads [] location.names else none

theorem leads_append {start place : Place} {first : List Text} (second : List Text)
    (led : leads start first = some place) :
    leads start (first ++ second) = leads place second := by
  induction first generalizing start with
  | nil =>
      cases led
      rfl
  | cons name first inductionHypothesis =>
      rw [List.cons_append, leads]
      rw [leads] at led
      split
      · rename_i isUp
        rw [if_pos isUp] at led
        split
        · rename_i none
          rw [if_pos none] at led
          cases led
        · rename_i some
          rw [if_neg some] at led
          exact inductionHypothesis led
      · rename_i ordinary
        rw [if_neg ordinary] at led
        exact inductionHypothesis led

theorem leads_ordinary (start : Place) {names : List Text}
    (ordinary : ∀ name ∈ names, name ≠ FileTree.up) : leads start names = some (start ++ names) := by
  induction names generalizing start with
  | nil => rw [List.append_nil, leads]
  | cons name names inductionHypothesis =>
      rw [leads, if_neg (ordinary name List.mem_cons_self),
        inductionHypothesis _ fun other member => ordinary other (List.mem_cons_of_mem _ member)]
      simp

theorem leads_of_walk {tree : FileTree} {start place : Place} {names : List Text}
    (walked : tree.walk start names = .ok place) : leads start names = some place := by
  refine FileTree.walk_induction (motive := fun start names => leads start names = some place)
    rfl ?last ?entered walked
  case last =>
    rintro start name ordinary rfl
    rw [leads, if_neg ordinary, leads]
  case entered =>
    intro start inner name names here inductionHypothesis
    rcases FileTree.enter_eq_ok_iff.mp here with ⟨isUp, below, rfl⟩ | ⟨ordinary, _, rfl⟩
    · rw [leads, if_pos isUp, if_neg (by simpa using below), inductionHypothesis]
    · rw [leads, if_neg ordinary, inductionHypothesis]

/-- A location leads nowhere but to the place that it stands for. -/
theorem target?_of_place? {tree : FileTree} {location : Location} {place : Place}
    (led : tree.place? location = .ok place) : location.target? = some place := by
  rw [FileTree.place?] at led
  rw [target?]
  split at led
  · rename_i bare
    rw [if_pos bare]
    exact leads_of_walk led
  · cases led

end Location

end Respecify
