import Respecify.Proofs.Path.Normal
import Respecify.Proofs.Text.Blank
import Respecify.Proofs.Text.Slice

/-!
# The directories above a script

A path without a slash at its start is tried from the directory of its script and then
from each directory above.  Where the names of these directories are segments, the first
try decides: a path that leaves the root, or comes back to it, or holds what names
nothing, does so from every directory further up as well.
-/

namespace Respecify.Path

variable {path base : Text} {place parent down names segments found : List Text}

/-! ## Following segments -/

theorem follow_above_nil (rest : List Text) : follow [] (above :: rest) = none := by
  rw [follow.eq_def]
  exact if_neg (by decide)

theorem follow_above_cons (last : Text) (parent rest : List Text) :
    follow (last :: parent) (above :: rest) = follow parent rest := by
  rw [follow.eq_def]
  exact if_neg (by decide)

theorem follow_cons_of_isSegment {segment : Text} (isOne : isSegment segment = true)
    (place rest : List Text) :
    follow place (segment :: rest) = follow (segment :: place) rest := by
  rw [follow.eq_def]
  dsimp only
  rw [if_neg (ne_here_of_isSegment isOne), if_neg (ne_above_of_isSegment isOne),
    if_pos (isName_of_isSegment isOne)]

/-- Names lead down. -/
theorem follow_append (each : ∀ segment ∈ names, isSegment segment = true)
    (place rest : List Text) :
    follow place (names ++ rest) = follow (names.reverse ++ place) rest := by
  induction names generalizing place with
  | nil => rfl
  | cons segment names inductionHypothesis =>
      have isOne := each segment List.mem_cons_self
      have others := fun other member => each other (List.mem_cons_of_mem segment member)
      rw [List.cons_append, follow_cons_of_isSegment isOne, inductionHypothesis others,
        List.reverse_cons, List.append_assoc, List.singleton_append]

/-- What leads somewhere from a place leads below the root from any place one step
further down.  In between, what has been added since is the same for both. -/
theorem exists_follow_of_follow (step : Text) (down place : List Text)
    (followed : follow (down ++ place) segments = some found) :
    ∃ deeper, deeper ≠ [] ∧ follow (down ++ step :: place) segments = some deeper := by
  induction segments generalizing step down place with
  | nil => exact ⟨down ++ step :: place, by simp, rfl⟩
  | cons segment segments inductionHypothesis =>
      rw [follow.eq_def] at followed ⊢
      dsimp only at followed ⊢
      by_cases isHere : segment = here
      · rw [if_pos isHere] at followed ⊢
        exact inductionHypothesis step down place followed
      · rw [if_neg isHere] at followed ⊢
        by_cases isAbove : segment = above
        · rw [if_pos isAbove] at followed ⊢
          cases down with
          | cons _ down => exact inductionHypothesis step down place followed
          | nil =>
              cases place with
              | nil => cases followed
              | cons last parent => exact inductionHypothesis last [] parent followed
        · rw [if_neg isAbove] at followed ⊢
          by_cases named : isName segment = true
          · rw [if_pos named] at followed ⊢
            exact inductionHypothesis step (segment :: down) place followed
          · rw [if_neg named] at followed
            cases followed

/-- The way up, and then one step down. -/
theorem follow_climb {segment : Text} (isOne : isSegment segment = true) (count : Nat)
    (place : List Text) :
    follow place (List.replicate count above ++ [segment]) =
      if count ≤ place.length then some (segment :: place.drop count) else none := by
  induction count generalizing place with
  | zero => simpa [follow] using follow_cons_of_isSegment isOne place []
  | succ count inductionHypothesis =>
      rw [List.replicate_succ, List.cons_append]
      cases place with
      | nil => exact follow_above_nil _
      | cons last parent => simp [follow_above_cons, inductionHypothesis]

/-! ## Paths that lead somewhere -/

theorem resolve?_of_follow (filled : found ≠ [])
    (followed : follow [] (Path.segments path) = some found) :
    resolve? path = some (ofSegments found.reverse) := by
  rw [resolve?, followed]
  cases found with
  | nil => exact absurd rfl filled
  | cons last parent => rfl

theorem exists_follow_of_resolve? {normal : Text} (resolved : resolve? path = some normal) :
    ∃ found, follow [] (Path.segments path) = some found := by
  unfold resolve? at resolved
  split at resolved
  · cases resolved
  · cases resolved
  · rename_i found _ followed
    exact ⟨found, followed⟩

/-! ## Directories by their segments -/

/-- The directory with the given segments, the deepest first. -/
def folder (place : List Text) : Text :=
  ofSegments place.reverse ++ [separator]

/-- The segments of the directory in which a script lies.  Empty ones do not count. -/
def folderSegments (name : Text) : List Text :=
  (Text.splitOn separator (unrooted name.strip)).dropLast.filter (!·.isEmpty)

theorem directoriesAbove_eq_map (place : List Text) :
    directoriesAbove place = place.tails.map folder := by
  induction place with
  | nil => rfl
  | cons last parent inductionHypothesis =>
      rw [directoriesAbove, inductionHypothesis, List.tails, List.map_cons, folder]

theorem enclosingDirectories_eq_map (name : Text) :
    enclosingDirectories name = (folderSegments name).reverse.tails.map folder :=
  directoriesAbove_eq_map _

/-- A directory has its slashes. -/
theorem directory_folder (place : List Text) : directory (folder place) = folder place := by
  have slashed : rooted (folder place) = folder place := by
    rw [folder]
    cases place.reverse with
    | nil => rfl
    | cons first others => exact rooted_cons_separator _
  have ends : (folder place).endsWith [separator] = true := by
    rw [Text.endsWith_iff]
    exact List.suffix_append _ _
  simp only [directory, slashed, ends, if_true]

theorem folder_append_eq (place : List Text) (segment : Text) :
    folder place ++ segment = ofSegments (segment :: place).reverse := by
  simp [folder, ofSegments]

/-- The segments before the last slash are found one by one. -/
theorem splitOn_ofSegments_append (plain : ∀ segment ∈ names, separator ∉ segment)
    (rest : Text) :
    Text.splitOn separator ((ofSegments names ++ separator :: rest).drop 1) =
      names ++ Text.splitOn separator rest := by
  induction names with
  | nil => rfl
  | cons segment names inductionHypothesis =>
      have others := fun other member => plain other (List.mem_cons_of_mem segment member)
      have whole : (ofSegments (segment :: names) ++ separator :: rest).drop 1 =
          segment ++ separator :: (ofSegments names ++ separator :: rest).drop 1 := by
        cases names <;> simp [ofSegments]
      rw [whole, Text.splitOn_append_cons (plain segment List.mem_cons_self),
        inductionHypothesis others, List.cons_append]

/-- The segments of a path are those of the directory from which it is taken and its
own. -/
theorem segments_ofSegments_append (plain : ∀ segment ∈ names, separator ∉ segment)
    (filled : path ≠ []) :
    Path.segments (ofSegments names ++ separator :: path) =
      names ++ Path.segments (separator :: path) := by
  have tail : separator :: path <:+ ofSegments names ++ separator :: path :=
    List.suffix_append _ _
  have ends : Text.endsWith (ofSegments names ++ separator :: path) [separator] =
      Text.endsWith (separator :: path) [separator] := by
    rw [Bool.eq_iff_iff, Text.endsWith_iff, Text.endsWith_iff]
    refine ⟨fun whole => ?_, fun inside => inside.trans tail⟩
    exact List.suffix_of_suffix_length_le whole tail (by simp)
  have long : ofSegments names ++ separator :: path ≠ [separator] := by
    intro same
    have lengths := congrArg List.length same
    have positive : 0 < path.length := List.length_pos_iff.mpr filled
    rw [List.length_append, List.length_cons, List.length_singleton] at lengths
    omega
  have long' : separator :: path ≠ [separator] := fun same => filled (List.cons.inj same).2
  have cut : (ofSegments names ++ separator :: path).dropLast =
      ofSegments names ++ separator :: path.dropLast := by
    rw [List.dropLast_append_of_ne_nil (List.cons_ne_nil _ _), List.dropLast_cons_of_ne_nil filled]
  have cut' : (separator :: path).dropLast = separator :: path.dropLast :=
    List.dropLast_cons_of_ne_nil filled
  simp only [Path.segments, ends, bne_iff_ne.mpr long, bne_iff_ne.mpr long', Bool.and_true]
  split
  · rw [cut, cut', splitOn_ofSegments_append plain]
    rfl
  · rw [splitOn_ofSegments_append plain]
    rfl

/-! ## Where relative paths lead -/

section Relative

variable (each : ∀ segment ∈ place, isSegment segment = true ∧ separator ∉ segment)
  (filled : path ≠ [])

include each filled

/-- A path that is taken from a directory is followed from the place of the directory. -/
theorem follow_folder_append :
    follow [] (Path.segments (folder place ++ path)) =
      follow place (Path.segments (separator :: path)) := by
  have names : ∀ segment ∈ place.reverse, isSegment segment = true := fun segment member =>
    (each segment (List.mem_reverse.mp member)).1
  have plain : ∀ segment ∈ place.reverse, separator ∉ segment := fun segment member =>
    (each segment (List.mem_reverse.mp member)).2
  rw [folder, List.append_assoc, List.singleton_append, segments_ofSegments_append plain filled,
    follow_append names, List.reverse_reverse, List.append_nil]

/-- A path that leads nowhere from a directory leads nowhere from those above it. -/
theorem resolve?_folder_eq_none_of_suffix (above : parent <:+ place)
    (nowhere : resolve? (folder place ++ path) = none) :
    resolve? (folder parent ++ path) = none := by
  induction place with
  | nil => rw [List.suffix_nil.mp above, nowhere]
  | cons last rest inductionHypothesis =>
      rcases List.suffix_cons_iff.mp above with rfl | above
      · exact nowhere
      · have eachRest := fun segment member => each segment (List.mem_cons_of_mem last member)
        apply inductionHypothesis eachRest above
        by_contra somewhere
        rcases Option.ne_none_iff_exists'.mp somewhere with ⟨normal, resolved⟩
        rcases exists_follow_of_resolve? resolved with ⟨found, followed⟩
        rw [follow_folder_append eachRest filled] at followed
        rcases exists_follow_of_follow last [] rest followed with ⟨deeper, belowRoot, reached⟩
        rw [List.nil_append, ← follow_folder_append each filled] at reached
        rw [resolve?_of_follow belowRoot reached] at nowhere
        cases nowhere

end Relative

/-! ## The nearest directory decides -/

theorem normalize_eq_none_of_empty (empty : path.strip = []) (bases : List Text) :
    normalize path bases = none := by
  simp [normalize, empty]

/-- The directories do not matter to a path with its slash. -/
theorem normalize_of_startsWith (slashed : path.strip.startsWith [separator] = true)
    (bases : List Text) : normalize path bases = resolve? path.strip := by
  have filled : path.strip ≠ [] := by
    intro empty
    rw [empty] at slashed
    cases slashed
  simp [normalize, slashed, filled]

theorem normalize_of_relative (filled : path.strip ≠ [])
    (unslashed : path.strip.startsWith [separator] = false) (bases : List Text)
    (given : bases ≠ []) :
    normalize path bases = bases.findSome? fun base => resolve? (directory base ++ path.strip) := by
  simp [normalize, unslashed, filled, given]

/-- From several directories a path leads where it leads from the first one, if it leads
nowhere from the others where it leads nowhere from the first. -/
theorem normalize_cons_eq {nearest : Text} {farther : List Text}
    (worse : normalize path [nearest] = none → ∀ base ∈ farther, normalize path [base] = none) :
    normalize path (nearest :: farther) = normalize path [nearest] := by
  by_cases filled : path.strip = []
  · rw [normalize_eq_none_of_empty filled, normalize_eq_none_of_empty filled]
  · cases slashed : path.strip.startsWith [separator] with
    | true => rw [normalize_of_startsWith slashed, normalize_of_startsWith slashed]
    | false =>
        have single : ∀ base, normalize path [base] = resolve? (directory base ++ path.strip) := by
          intro base
          rw [normalize_of_relative filled slashed _ (List.cons_ne_nil _ _),
            List.findSome?_singleton]
        rw [single] at worse ⊢
        rw [normalize_of_relative filled slashed _ (List.cons_ne_nil _ _), List.findSome?_cons]
        cases first : resolve? (directory nearest ++ path.strip) with
        | some normal => rfl
        | none =>
            rw [List.findSome?_eq_none_iff]
            intro base member
            rw [← single]
            exact worse first base member

section Nearest

variable (each : ∀ segment ∈ place, isSegment segment = true ∧ separator ∉ segment)

include each

/-- What has no normal form from a directory has none from those above it. -/
theorem normalize_folder_eq_none_of_suffix (above : parent <:+ place)
    (nowhere : normalize path [folder place] = none) : normalize path [folder parent] = none := by
  by_cases filled : path.strip = []
  · exact normalize_eq_none_of_empty filled _
  · cases slashed : path.strip.startsWith [separator] with
    | true => rwa [normalize_of_startsWith slashed] at nowhere ⊢
    | false =>
        rw [normalize_of_relative filled slashed _ (by simp), List.findSome?_singleton,
          directory_folder] at nowhere ⊢
        exact resolve?_folder_eq_none_of_suffix each filled above nowhere

end Nearest

/-- The same paths are candidates if each spelling has the same normal form. -/
theorem candidates_congr {specifier : Text} {bases others : List Text}
    (same : ∀ path, normalize path bases = normalize path others) :
    candidates specifier bases = candidates specifier others := by
  simp only [candidates, same]

/-! ## The way up -/

/-- The path that goes up so many directories. -/
def climb (count : Nat) : Text :=
  (List.replicate count (above ++ [separator])).flatten

theorem splitOn_climb_append {segment : Text} (plain : separator ∉ segment) (count : Nat) :
    Text.splitOn separator (climb count ++ segment) = List.replicate count above ++ [segment] := by
  have dots : separator ∉ above := by decide
  induction count with
  | zero => exact Text.splitOn_of_not_mem plain
  | succ count inductionHypothesis =>
      have step : climb (count + 1) ++ segment =
          above ++ separator :: (climb count ++ segment) := by
        simp [climb, List.replicate_succ]
      rw [step, Text.splitOn_append_cons dots, inductionHypothesis, List.replicate_succ,
        List.cons_append]

section Climb

variable {segment : Text} (isOne : isSegment segment = true) (plain : separator ∉ segment)

include isOne

theorem isBlank_of_mem_segment {c : Nat} (member : c ∈ segment) : isBlank c = false :=
  isBlank_of_isForbidden (isForbidden_of_isSegment isOne c member)

theorem strip_climb_append (count : Nat) :
    Text.strip (climb count ++ segment) = climb count ++ segment := by
  have nonempty := ne_nil_of_isSegment isOne
  apply Text.strip_eq_self
  · intro c first
    cases count with
    | zero => exact isBlank_of_mem_segment isOne (List.mem_of_mem_head? first)
    | succ count =>
        have dot : (climb (count + 1) ++ segment).head? = some 0x2E := by
          simp [climb, List.replicate_succ, above, text]
        rw [dot] at first
        cases first
        decide
  · intro c last
    rw [List.getLast?_append_of_ne_nil _ nonempty] at last
    exact isBlank_of_mem_segment isOne (List.mem_of_getLast? last)

include plain

omit isOne in
theorem startsWith_climb_append (count : Nat) :
    Text.startsWith (climb count ++ segment) [separator] = false := by
  rw [Bool.eq_false_iff, ne_eq, Text.startsWith_iff]
  rintro ⟨rest, whole⟩
  cases count with
  | zero =>
      apply plain
      rw [← show climb 0 ++ segment = segment from rfl, ← whole]
      exact List.mem_cons_self
  | succ count =>
      have slash := congrArg List.head? whole
      simp [climb, List.replicate_succ, above, text, separator] at slash

theorem segments_climb_append (count : Nat) :
    Path.segments (separator :: (climb count ++ segment)) =
      List.replicate count above ++ [segment] := by
  have unslashed : Text.endsWith (separator :: (climb count ++ segment)) [separator] = false := by
    rw [Bool.eq_false_iff, ne_eq, Text.endsWith_iff]
    intro ends
    have nonempty := ne_nil_of_isSegment isOne
    have inside : [separator] <:+ segment :=
      List.suffix_of_suffix_length_le ends
        ((List.suffix_append (climb count) segment).trans (List.suffix_cons _ _))
        (List.length_pos_iff.mpr nonempty)
    exact plain (inside.subset List.mem_cons_self)
  simp only [Path.segments, unslashed, Bool.false_and, Bool.false_eq_true, if_false,
    List.drop_succ_cons, List.drop_zero]
  exact splitOn_climb_append plain count

/-- The way up from the nearest directory leads to those above it, one after the other. -/
theorem normalize_climb_append
    (each : ∀ segment ∈ place, isSegment segment = true ∧ separator ∉ segment) (count : Nat) :
    normalize (climb count ++ segment) [folder place] =
      (place.tails.map folder)[count]?.map (· ++ segment) := by
  have filled : climb count ++ segment ≠ [] := fun empty =>
    ne_nil_of_isSegment isOne (List.append_eq_nil_iff.mp empty).2
  have followed := follow_folder_append each filled
  rw [segments_climb_append isOne plain, follow_climb isOne] at followed
  rw [normalize_of_relative (by rwa [strip_climb_append isOne])
    (by rw [strip_climb_append isOne, startsWith_climb_append plain]) _ (by simp),
    List.findSome?_singleton, directory_folder, strip_climb_append isOne]
  by_cases inside : count ≤ place.length
  · rw [if_pos inside] at followed
    rw [resolve?_of_follow (List.cons_ne_nil _ _) followed, ← folder_append_eq]
    have entry : place.tails[count]? = some (place.drop count) := by
      rw [List.getElem?_eq_getElem (by rw [List.length_tails]; omega), List.getElem_tails]
    rw [List.getElem?_map, entry]
    rfl
  · rw [if_neg inside] at followed
    rw [resolve?, followed, List.getElem?_eq_none (by rw [List.length_map, List.length_tails]; omega)]
    rfl

end Climb

/-- The directories above a script are the nearest one and those above that. -/
theorem exists_enclosingDirectories_eq (importer : Text) :
    ∃ parents : List (List Text),
      enclosingDirectories importer =
          folder (folderSegments importer).reverse :: parents.map folder ∧
        (folderSegments importer).reverse.tails = (folderSegments importer).reverse :: parents := by
  rw [enclosingDirectories_eq_map]
  cases (folderSegments importer).reverse with
  | nil => exact ⟨[], rfl, rfl⟩
  | cons last parent => exact ⟨parent.tails, rfl, rfl⟩

theorem separator_notMem_of_mem_folderSegments {name segment : Text}
    (member : segment ∈ folderSegments name) : separator ∉ segment :=
  Text.not_mem_of_mem_splitOn (List.dropLast_subset _ (List.mem_filter.mp member).1)

/-- From the directories above a script only the nearest one matters, if their names are
segments: what leads nowhere from it leads nowhere from the others, and so a specifier
has the same candidates without them.  And a path that goes up so many directories leads
into the directory with that number, the nearest one being the first, if there is one. -/
theorem enclosingDirectories_nearest {importer : Text}
    (each : ∀ segment ∈ folderSegments importer, isSegment segment = true) :
    ∃ nearest farther, enclosingDirectories importer = nearest :: farther ∧
      (∀ specifier, candidates specifier (nearest :: farther) = candidates specifier [nearest]) ∧
      (∀ path, normalize path [nearest] = none → ∀ base ∈ farther, normalize path [base] = none) ∧
      ∀ segment, isSegment segment = true → separator ∉ segment → ∀ count,
        normalize (climb count ++ segment) (nearest :: farther) =
          (nearest :: farther)[count]?.map (· ++ segment) := by
  rcases exists_enclosingDirectories_eq importer with ⟨parents, directories, above⟩
  have eachPlain : ∀ segment ∈ (folderSegments importer).reverse,
      isSegment segment = true ∧ separator ∉ segment := by
    intro segment member
    have inside := List.mem_reverse.mp member
    exact ⟨each segment inside, separator_notMem_of_mem_folderSegments inside⟩
  have worse : ∀ path, normalize path [folder (folderSegments importer).reverse] = none →
      ∀ base ∈ parents.map folder, normalize path [base] = none := by
    intro path nowhere base member
    rcases List.mem_map.mp member with ⟨parent, isParent, rfl⟩
    have isAbove : parent <:+ (folderSegments importer).reverse := by
      rw [← List.mem_tails, above]
      exact List.mem_cons_of_mem _ isParent
    exact normalize_folder_eq_none_of_suffix eachPlain isAbove nowhere
  have same := fun path => normalize_cons_eq (worse path)
  refine ⟨_, _, directories, fun specifier => candidates_congr same, worse, ?_⟩
  intro segment isOne plain count
  rw [same, normalize_climb_append isOne plain eachPlain, above, List.map_cons]

/-- Two directories up from `/scripts/lib` is the root, and there is nothing above it. -/
theorem enclosingDirectories_nearest_root :
    let importer := text "scripts//lib/main.js"
    (∀ segment ∈ folderSegments importer, isSegment segment = true) ∧
      enclosingDirectories importer = [text "/scripts/lib/", text "/scripts/", text "/"] ∧
      candidates (text "../a") (enclosingDirectories importer) =
        candidates (text "../a") [text "/scripts/lib/"] ∧
      normalize (climb 2 ++ text "a.js") (enclosingDirectories importer) = some (text "/a.js") ∧
      normalize (climb 3 ++ text "a.js") (enclosingDirectories importer) = none := by
  intro importer
  have each : ∀ segment ∈ folderSegments importer, isSegment segment = true := by decide
  have directories : enclosingDirectories importer =
      [text "/scripts/lib/", text "/scripts/", text "/"] := by decide
  rcases enclosingDirectories_nearest each with ⟨nearest, farther, whole, same, _, up⟩
  have climbed := up (text "a.js") (by decide) (by decide)
  rw [directories] at whole ⊢
  obtain ⟨rfl, rfl⟩ := List.cons.inj whole
  refine ⟨each, rfl, same (text "../a"), ?_, climbed 3⟩
  rw [climbed 2]
  decide

end Respecify.Path
