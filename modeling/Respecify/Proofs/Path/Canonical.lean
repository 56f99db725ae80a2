import Respecify.Proofs.Path.Enclosing

/-!
# Normal forms are canonical

The paths in normal form are those that bringing into normal form leaves alone, from
whatever directories it is done.  Segments that lead back to the place where they start
may be left out of a path anywhere: the dot of the directory itself, and a name with the
two dots behind it.  What a path leads to does not depend on them, nor whether it leads
anywhere.
-/

namespace Respecify.Path

variable {path : Text} {names detour : List Text}

/-! ## Paths cut into segments -/

/-- The segments between the slashes of a path make up the path. -/
theorem ofSegments_splitOn (rest : Text) :
    ofSegments (Text.splitOn separator rest) = separator :: rest := by
  induction rest with
  | nil => rfl
  | cons c rest inductionHypothesis =>
      obtain ⟨first, others, split⟩ :=
        List.exists_cons_of_ne_nil (Text.splitOn_ne_nil separator rest)
      rw [split] at inductionHypothesis
      by_cases slash : c = separator <;>
        simp_all [Text.splitOn, ofSegments]

theorem splitOn_ofSegments (filled : names ≠ [])
    (plain : ∀ segment ∈ names, separator ∉ segment) :
    Text.splitOn separator ((ofSegments names).drop 1) = names := by
  obtain ⟨before, last, rfl⟩ := (List.eq_nil_or_concat names).resolve_left filled
  rw [List.concat_eq_append] at plain ⊢
  have whole : ofSegments (before ++ [last]) = ofSegments before ++ separator :: last := by
    simp [ofSegments]
  rw [whole, splitOn_ofSegments_append fun segment member => plain segment (by simp [member]),
    Text.splitOn_of_not_mem (plain last (by simp))]

/-- A path that is empty or starts with a slash is made of segments. -/
theorem exists_eq_ofSegments (begins : path = [] ∨ path.startsWith [separator] = true) :
    ∃ names, (∀ segment ∈ names, separator ∉ segment) ∧ path = ofSegments names := by
  rcases begins with rfl | begins
  · exact ⟨[], by simp, rfl⟩
  · obtain ⟨rest, rfl⟩ := Text.startsWith_iff.mp begins
    exact ⟨Text.splitOn separator rest, fun _ member => Text.not_mem_of_mem_splitOn member,
      (ofSegments_splitOn rest).symm⟩

/-- A path is in normal form exactly if there is a slash in front and what stands between
the slashes is a segment. -/
theorem isNormal_iff :
    IsNormal path ↔ ∃ rest, path = separator :: rest ∧
      ∀ segment ∈ Text.splitOn separator rest, isSegment segment = true := by
  constructor
  · intro normal
    obtain ⟨rest, _, rfl⟩ := normal.exists_cons
    obtain ⟨names, filled, each, whole⟩ := normal
    refine ⟨rest, rfl, ?_⟩
    have cut := splitOn_ofSegments filled fun segment member => (each segment member).2
    rw [← whole, List.drop_one, List.tail_cons] at cut
    rw [cut]
    exact fun segment member => (each segment member).1
  · rintro ⟨rest, rfl, each⟩
    exact ⟨_, Text.splitOn_ne_nil separator rest,
      fun segment member => ⟨each segment member, Text.not_mem_of_mem_splitOn member⟩,
      (ofSegments_splitOn rest).symm⟩

/-! ## Normal forms stay -/

namespace IsNormal

variable {rest : Text}

/-- There is one slash in front of a path in normal form. -/
theorem startsWith_eq_false (normal : IsNormal (separator :: rest)) :
    rest.startsWith [separator] = false := by
  obtain ⟨_, same, each⟩ := isNormal_iff.mp normal
  obtain rfl := (List.cons.inj same).2
  rw [← Bool.not_eq_true, Text.startsWith_iff]
  rintro ⟨behind, rfl⟩
  exact ne_nil_of_isSegment (each [] (by simp [Text.splitOn])) rfl

/-- There is none behind it. -/
theorem endsWith_eq_false (normal : IsNormal (separator :: rest)) :
    rest.endsWith [separator] = false := by
  obtain ⟨_, same, each⟩ := isNormal_iff.mp normal
  obtain rfl := (List.cons.inj same).2
  rw [← Bool.not_eq_true, Text.endsWith_iff]
  rintro ⟨before, rfl⟩
  apply ne_nil_of_isSegment (each [] _) rfl
  rw [Text.splitOn_append_separator]
  simp [Text.splitOn]

/-- There are no blanks around it. -/
theorem strip_eq (normal : IsNormal path) : path.strip = path := by
  have visible : ∀ c ∈ path, isBlank c = false := fun c member =>
    isBlank_of_isForbidden (normal.isForbidden_eq_false c member)
  apply Text.strip_eq_self
  · exact fun c first => visible c (List.mem_of_mem_head? first)
  · exact fun c last => visible c (List.mem_of_getLast? last)

theorem segments_eq (normal : IsNormal (separator :: rest)) :
    Path.segments (separator :: rest) = Text.splitOn separator rest := by
  have unslashed : Text.endsWith (separator :: rest) [separator] = false := by
    rw [← Bool.not_eq_true, Text.endsWith_iff, List.suffix_cons_iff, ← Text.endsWith_iff,
      normal.endsWith_eq_false]
    obtain ⟨other, filled, same⟩ := normal.exists_cons
    rintro (root | slash)
    · exact filled ((List.cons.inj same).2.symm.trans (List.cons.inj root).2.symm)
    · cases slash
  simp [Path.segments, unslashed]

theorem resolve?_eq (normal : IsNormal path) : resolve? path = some path := by
  obtain ⟨rest, rfl, each⟩ := isNormal_iff.mp normal
  have followed : follow [] (Path.segments (separator :: rest)) =
      some (Text.splitOn separator rest).reverse := by
    have down := follow_append each [] []
    rw [List.append_nil, List.append_nil] at down
    rw [normal.segments_eq, down, follow]
  rw [resolve?_of_follow _ followed, List.reverse_reverse, ofSegments_splitOn]
  simpa using Text.splitOn_ne_nil separator rest

end IsNormal

/-- The paths in normal form are those that have themselves for a normal form. -/
theorem normalize_eq_self_iff {bases : List Text} :
    normalize path bases = some path ↔ IsNormal path := by
  constructor
  · exact isNormal_of_normalize
  · intro normal
    obtain ⟨rest, _, rfl⟩ := normal.exists_cons
    rw [normalize_of_startsWith, normal.strip_eq, normal.resolve?_eq]
    rw [normal.strip_eq, Text.startsWith_iff]
    exact List.prefix_append [separator] rest

/-! ## Ways that lead back -/

/-- Whatever comes behind them, the segments lead back to the place where they start. -/
def Returns (detour : List Text) : Prop :=
  ∀ place rest, follow place (detour ++ rest) = follow place rest

/-- The directory itself is where it is. -/
theorem returns_here : Returns [here] := by
  intro place rest
  rw [List.singleton_append, follow.eq_def]
  exact if_pos rfl

/-- What is above a segment of a directory is the directory. -/
theorem returns_above {segment : Text} (isOne : isSegment segment = true) :
    Returns [segment, above] := by
  intro place rest
  rw [List.cons_append, List.singleton_append, follow_cons_of_isSegment isOne, follow_above_cons]

/-- A detour may start anywhere on a way. -/
theorem follow_append_detour (returns : Returns detour) (place names rest : List Text) :
    follow place (names ++ detour ++ rest) = follow place (names ++ rest) := by
  induction names generalizing place with
  | nil => exact returns place rest
  | cons segment names inductionHypothesis =>
      simp only [List.cons_append] at inductionHypothesis ⊢
      rw [follow.eq_def, follow.eq_def place (segment :: (names ++ rest))]
      dsimp only
      simp only [inductionHypothesis]

/-- The path to a place, which is below the root. -/
def pathTo? : List Text → Option Text
  | [] => none
  | place => some (ofSegments place.reverse)

theorem resolve?_eq_bind (path : Text) :
    resolve? path = (follow [] (Path.segments path)).bind pathTo? := by
  unfold resolve?
  cases follow [] (Path.segments path) with
  | none => rfl
  | some place => cases place <;> rfl

/-- The slash at the end of a directory does not count. -/
theorem segments_ofSegments_append_separator (filled : names ≠ [])
    (plain : ∀ segment ∈ names, separator ∉ segment) :
    Path.segments (ofSegments names ++ [separator]) = names := by
  have nonempty : ofSegments names ≠ [] := by
    obtain ⟨first, others, rfl⟩ := List.exists_cons_of_ne_nil filled
    simp [ofSegments]
  have slashed : (ofSegments names ++ [separator]).endsWith [separator] = true := by
    rw [Text.endsWith_iff]
    exact List.suffix_append _ _
  have cut : Path.segments (ofSegments names ++ [separator]) =
      Text.splitOn separator ((ofSegments names).drop 1) := by
    simp [Path.segments, slashed, nonempty]
  rw [cut, splitOn_ofSegments filled plain]

/-- The segments that a path adds to those of the directory from which it is taken. -/
def addedSegments (path : Text) : List Text :=
  if path = [] then [] else Path.segments (separator :: path)

/-- A path leads where its segments lead behind those of its directory. -/
theorem resolve?_ofSegments_append (plain : ∀ segment ∈ names, separator ∉ segment)
    (path : Text) :
    resolve? (ofSegments names ++ separator :: path) =
      (follow [] (names ++ addedSegments path)).bind pathTo? := by
  by_cases empty : path = []
  · subst empty
    by_cases root : names = []
    · subst root
      rfl
    · rw [resolve?_eq_bind, segments_ofSegments_append_separator root plain, addedSegments,
        if_pos rfl, List.append_nil]
  · rw [resolve?_eq_bind, segments_ofSegments_append plain empty, addedSegments, if_neg empty]

/-- A path leads where it leads without a detour. -/
theorem resolve?_append_detour (plain : ∀ segment ∈ names ++ detour, separator ∉ segment)
    (returns : Returns detour) (path : Text) :
    resolve? (ofSegments (names ++ detour) ++ separator :: path) =
      resolve? (ofSegments names ++ separator :: path) := by
  rw [resolve?_ofSegments_append plain, follow_append_detour returns,
    resolve?_ofSegments_append fun segment member => plain segment (by simp [member])]

/-- What has a normal form has one slash in front and none behind, and segments between
its slashes that are neither empty nor one of the two dotted ones and hold no character
that none may hold; it is its own normal form from every directory.  And a path leads to
the same place, or nowhere, with the dot of a directory in it or without, and with a
segment and the way back up or without. -/
theorem normalize_canonical :
    (∀ path bases found, normalize path bases = some found →
      (∃ rest : Text, found = separator :: rest ∧ rest.startsWith [separator] = false ∧
        rest.endsWith [separator] = false ∧
        ∀ segment ∈ Text.splitOn separator rest, segment ≠ [] ∧ segment ≠ here ∧
          segment ≠ above ∧ ∀ c ∈ segment, isForbidden c = false) ∧
      ∀ others, normalize found others = some found) ∧
    ∀ before behind : Text, before = [] ∨ before.startsWith [separator] = true →
      resolve? (before ++ separator :: (here ++ separator :: behind)) =
          resolve? (before ++ separator :: behind) ∧
        ∀ segment, isSegment segment = true → separator ∉ segment →
          resolve? (before ++ separator :: (segment ++ separator :: (above ++ separator :: behind))) =
            resolve? (before ++ separator :: behind) := by
  constructor
  · intro path bases found normalized
    have normal := isNormal_of_normalize normalized
    refine ⟨?_, fun others => normalize_eq_self_iff.mpr normal⟩
    obtain ⟨rest, rfl, each⟩ := isNormal_iff.mp normal
    refine ⟨rest, rfl, normal.startsWith_eq_false, normal.endsWith_eq_false, ?_⟩
    intro segment member
    have isOne := each segment member
    exact ⟨ne_nil_of_isSegment isOne, ne_here_of_isSegment isOne, ne_above_of_isSegment isOne,
      isForbidden_of_isSegment isOne⟩
  · intro before behind begins
    obtain ⟨names, plain, rfl⟩ := exists_eq_ofSegments begins
    constructor
    · have dotted : ∀ segment ∈ names ++ [here], separator ∉ segment := by
        simp only [List.mem_append, List.mem_singleton]
        rintro segment (member | rfl)
        · exact plain segment member
        · decide
      have led := resolve?_append_detour dotted returns_here behind
      simpa [ofSegments] using led
    · intro segment isOne own
      have dotted : ∀ other ∈ names ++ [segment, above], separator ∉ other := by
        simp only [List.mem_append, List.mem_cons, List.not_mem_nil, or_false]
        rintro other (member | rfl | rfl)
        · exact plain other member
        · exact own
        · decide
      have led := resolve?_append_detour dotted (returns_above isOne) behind
      simpa [ofSegments] using led

/-- From `a/b` a path with blanks around it leads up and down to what stays `/a/c`.  And
`/x` is where `../x/` leads from `/a`, where `./../x/` does, and where `s/../../x/` does. -/
theorem normalize_canonical_detours :
    let found := text "/a/c"
    normalize (text " ../c/ ") [text "a/b"] = some found ∧
      (∀ others, normalize found others = some found) ∧
      (text "/a").startsWith [separator] = true ∧
      isSegment (text "s") = true ∧ separator ∉ text "s" ∧
      resolve? (text "/a/../x/") = some (text "/x") ∧
      resolve? (text "/a/./../x/") = some (text "/x") ∧
      resolve? (text "/a/s/../../x/") = some (text "/x") := by
  intro found
  have normalized : normalize (text " ../c/ ") [text "a/b"] = some found := by decide +kernel
  have begins : (text "/a").startsWith [separator] = true := by decide
  have isOne : isSegment (text "s") = true := by decide
  have own : separator ∉ text "s" := by decide
  have direct : resolve? (text "/a/../x/") = some (text "/x") := by decide +kernel
  obtain ⟨canonical, detours⟩ := normalize_canonical
  obtain ⟨dot, name⟩ := detours (text "/a") (text "../x/") (Or.inr begins)
  exact ⟨normalized, (canonical _ _ _ normalized).2, begins, isOne, own, direct,
    dot.trans direct, (name _ isOne own).trans direct⟩

end Respecify.Path
