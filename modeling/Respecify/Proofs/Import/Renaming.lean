import Respecify.Proofs.Import.Resolution

/-!
# The specifiers that imports get

An import that is found gets the name of its script: with its slash if the script was
found from the root, and as it is known if it was found from a directory.  Either name
is found from the root when it is resolved in its turn, so renaming an import comes to
an end, and it never leaves an import as it was.

A name is written between the quotes of the old specifier as it is.  What is found from
the root is spelled like the old specifier, and what is found from a directory is a path
in normal form, so no name brings in a character that ends a string.
-/

namespace Respecify

/-- A script that is known from the root decides the outcome. -/
def Resolution.isFromRoot : Resolution → Bool
  | .root .. | .unresolved .upToDate => true
  | .directory .. | .unresolved _ => false

/-- A character that can end a string or change what is written behind it: a quote, a
backslash or a blank, the ends of lines among them. -/
def isDelicate (c : Nat) : Bool :=
  isBlank c || (text "\x22\x27\x60\\").contains c

namespace Known

variable {known : Known} {specifier importer new target other : Text}

/-! ## Names found from a directory -/

/-- A name that is a path in normal form, with its slash or without it, is no URL. -/
theorem isUrl_of_isNormal (normal : Path.IsNormal (Path.rooted target)) :
    Path.isUrl target = false := by
  refine Bool.eq_false_iff.mpr fun isUrl => ?_
  have colon : Path.isForbidden 0x3A = false :=
    normal.isForbidden_eq_false _ (Path.mem_rooted (Path.mem_of_isUrl isUrl))
  exact absurd colon (by decide)

/-- As a specifier, a name that is a path in normal form names its own module. -/
theorem rootModule_of_isNormal (normal : Path.IsNormal (Path.rooted target)) :
    Path.rootModule target = Path.modulePath target := by
  rw [Path.rootModule, normal.dropStart_rootMarker, normal.dropStart_rootMarker]

/-- A known name that is a path in normal form is found from the root, or another name
of its module is. -/
theorem exists_rootMatch?_of_isNormal (isKnown : target ∈ known)
    (normal : Path.IsNormal (Path.rooted target)) :
    ∃ name, known.rootMatch? target = some name := by
  rw [← Option.isSome_iff_exists, rootMatch?_eq_find?, List.find?_isSome]
  exact ⟨target, isKnown, by rw [rootModule_of_isNormal normal, beq_self_eq_true]⟩

/-- The first name of its module is found itself. -/
theorem rootMatch?_of_isNormal {earlier later : Known}
    (normal : Path.IsNormal (Path.rooted target))
    (first : ∀ name ∈ earlier, Path.namesModule name target = false) :
    rootMatch? (earlier ++ target :: later) target = some target := by
  have missed : earlier.rootMatch? target = none := by
    rw [rootMatch?, List.find?_eq_none]
    intro name member names
    rw [normal.dropStart_rootMarker, first name member] at names
    cases names
  rw [rootMatch?_append, missed, Option.none_or, rootMatch?_eq_find?]
  exact List.find?_cons_of_pos (by rw [rootModule_of_isNormal normal, beq_self_eq_true])

/-! ## Resolving a new specifier -/

/-- A name with its slash is up to date if the name is found from the root. -/
theorem resolve_rooted_of_rootMatch? (found : known.rootMatch? specifier = some target)
    (other : Text) :
    known.resolve (Path.rooted target) other = .unresolved .upToDate := by
  have same : Path.rootModule (Path.rooted target) = Path.rootModule specifier := by
    rw [Path.rootModule_rooted, modulePath_of_rootMatch? found]
  rw [resolve_eq_upToDate_iff, rootMatch?_congr same]
  exact ⟨Path.isUrl_rooted target, target, found, rfl⟩

/-- Where the first name of its module is a path in normal form, it is up to date
exactly if it has its slash. -/
theorem resolve_eq_upToDate_iff_of_rootMatch? (normal : Path.IsNormal (Path.rooted target))
    (found : known.rootMatch? target = some target) (other : Text) :
    known.resolve target other = .unresolved .upToDate ↔
      target.startsWith [Path.separator] = true := by
  rw [resolve_of_rootMatch? (isUrl_of_isNormal normal) found, ← Path.rooted_eq_self_iff]
  split <;> simp [*]

/-- A new specifier is settled where it was found from the root.  Where it was found
from a directory, it is found from the root from now on: it names the same script, if no
script before that one is of the same module, and it is settled if it has its slash. -/
theorem resolve_newSpecifier_settles (known : Known) (specifier importer new target other : Text) :
    (known.resolve specifier importer = .root new target →
        known.resolve new other = .unresolved .upToDate) ∧
      (known.resolve specifier importer = .directory new target →
        (known.resolve new other).isFromRoot = true ∧
          ∀ earlier later, known = earlier ++ target :: later →
            (∀ name ∈ earlier, Path.namesModule name target = false) →
            known.rootMatch? new = some target ∧
              (known.resolve new other = .unresolved .upToDate ↔
                new.startsWith [Path.separator] = true)) := by
  constructor
  · intro resolved
    rcases resolve_eq_root_iff.mp resolved with ⟨_, found, rfl, _⟩
    exact resolve_rooted_of_rootMatch? found other
  · intro resolved
    rcases resolve_eq_directory_iff.mp resolved with ⟨_, _, found, rfl⟩
    rcases isNormal_of_directoryMatch? found with ⟨isKnown, normal⟩
    constructor
    · rcases exists_rootMatch?_of_isNormal isKnown normal with ⟨name, fromRoot⟩
      rw [resolve_of_rootMatch? (isUrl_of_isNormal normal) fromRoot]
      split <;> rfl
    · rintro earlier later rfl first
      have fromRoot : rootMatch? (earlier ++ target :: later) target = some target :=
        rootMatch?_of_isNormal normal first
      exact ⟨fromRoot, resolve_eq_upToDate_iff_of_rootMatch? normal fromRoot other⟩

/-- A name found from the root is settled at once; one found from a directory without
its slash gets it the next time. -/
theorem resolve_newSpecifier_settles_later :
    let known : Known := [text "util.js", text "lib/tool.js"]
    (known.resolve (text "././util") (text "lib/m.js") = .root (text "/util.js") (text "util.js") ∧
        known.resolve (text "/util.js") (text "m.js") = .unresolved .upToDate) ∧
      known.resolve (text "./tool") (text "lib/m.js") =
          .directory (text "lib/tool.js") (text "lib/tool.js") ∧
        (known.resolve (text "lib/tool.js") (text "m.js")).isFromRoot = true ∧
        known.rootMatch? (text "lib/tool.js") = some (text "lib/tool.js") ∧
        known.resolve (text "lib/tool.js") (text "m.js") ≠ .unresolved .upToDate := by
  intro known
  have fromRoot : known.resolve (text "././util") (text "lib/m.js") =
      .root (text "/util.js") (text "util.js") := by decide
  have fromDirectory : known.resolve (text "./tool") (text "lib/m.js") =
      .directory (text "lib/tool.js") (text "lib/tool.js") := by decide
  have settled := (resolve_newSpecifier_settles known _ _ _ _ (text "m.js")).1 fromRoot
  rcases (resolve_newSpecifier_settles known _ _ _ _ (text "m.js")).2 fromDirectory with
    ⟨decided, same⟩
  rcases same [text "util.js"] [] rfl (by decide) with ⟨found, upToDate⟩
  exact ⟨⟨fromRoot, settled⟩, fromDirectory, decided, found,
    fun again => absurd (upToDate.mp again) (by decide)⟩

/-! ## New specifiers differ from old ones -/

/-- A new specifier is the name of a script with its slash, found from the root, or a
known name that is a path in normal form, where none is found from the root. -/
theorem cases_of_newSpecifier?
    (renamed : (known.resolve specifier importer).newSpecifier? = some new) :
    (∃ target, known.rootMatch? specifier = some target ∧ Path.rooted target = new ∧
        new ≠ specifier) ∨
      known.rootMatch? specifier = none ∧ new ∈ known ∧ Path.IsNormal (Path.rooted new) := by
  cases resolved : known.resolve specifier importer with
  | root rooted target =>
      rw [resolved] at renamed
      cases renamed
      rcases resolve_eq_root_iff.mp resolved with ⟨_, found, whole, differs⟩
      exact Or.inl ⟨target, found, whole, differs⟩
  | directory name target =>
      rw [resolved] at renamed
      cases renamed
      rcases resolve_eq_directory_iff.mp resolved with ⟨_, missed, found, rfl⟩
      exact Or.inr ⟨missed, isNormal_of_directoryMatch? found⟩
  | unresolved reason =>
      rw [resolved] at renamed
      cases renamed

/-- The specifier that an import gets is not empty. -/
theorem newSpecifier_ne_nil
    (renamed : (known.resolve specifier importer).newSpecifier? = some new) : new ≠ [] := by
  rintro rfl
  rcases cases_of_newSpecifier? renamed with ⟨target, _, whole, _⟩ | ⟨_, _, normal⟩
  · rcases Path.exists_rooted_eq target with ⟨rest, slash⟩
    exact List.cons_ne_nil _ _ (slash.symm.trans whole)
  · rcases normal.exists_cons with ⟨rest, filled, whole⟩
    exact filled (List.cons.inj whole).2.symm

/-- The specifier that an import gets is not the one that it has.  For a name that is
found from a directory nothing checks that; but as a specifier it would have been found
from the root. -/
theorem newSpecifier_ne_specifier
    (renamed : (known.resolve specifier importer).newSpecifier? = some new) :
    new ≠ specifier := by
  rcases cases_of_newSpecifier? renamed with ⟨_, _, _, differs⟩ | ⟨missed, isKnown, normal⟩
  · exact differs
  · rintro rfl
    rcases exists_rootMatch?_of_isNormal isKnown normal with ⟨name, found⟩
    cases missed.symm.trans found

/-- A blank before a name is enough for it to be found from a directory only. -/
theorem newSpecifier_ne_specifier_blank :
    (resolve [text "b.js"] (text " b.js") (text "m.js")).newSpecifier? = some (text "b.js") ∧
      text "b.js" ≠ text " b.js" := by
  have renamed : (resolve [text "b.js"] (text " b.js") (text "m.js")).newSpecifier? =
      some (text "b.js") := by decide
  exact ⟨renamed, newSpecifier_ne_specifier renamed⟩

/-! ## New specifiers between quotes -/

/-- What is found from the root is spelled, with its extension, as the module that the
specifier names. -/
theorem withExtension_of_rootMatch? (found : known.rootMatch? specifier = some target) :
    Path.withExtension (Path.rooted target) = Path.rootModule specifier := by
  rw [← Path.modulePath_eq_withExtension_rooted, modulePath_of_rootMatch? found]

/-- No delicate character comes with the slash or the extension of a module. -/
theorem mem_of_mem_rootModule {c : Nat} (delicate : isDelicate c = true)
    (member : c ∈ Path.rootModule specifier) : c ∈ specifier := by
  have plain : ∀ c ∈ Path.separator :: Path.moduleExtension, isDelicate c = false := by
    decide
  rcases Path.mem_of_mem_modulePath member with inside | added
  · exact Text.mem_of_mem_dropStart (Text.mem_of_mem_dropStart inside)
  · rw [plain c added] at delicate
    cases delicate

/-- A delicate character cannot be in a segment. -/
theorem isForbidden_of_isDelicate {c : Nat} (delicate : isDelicate c = true) :
    Path.isForbidden c = true := by
  have quotes : ∀ c ∈ text "\x22\x27\x60\\", Path.isForbidden c = true := by decide
  rcases Bool.or_eq_true_iff.mp delicate with blank | quote
  · rw [Path.isForbidden, blank, Bool.true_or]
  · exact quotes c (List.contains_iff_mem.mp quote)

/-- A name brings no character into an import that ends its string or changes how it is
read: such a character of the new specifier is one of the old specifier.  A name found
from the root is the old specifier, apart from the marker of the root, the slash and the
extension; one found from a directory holds no such character at all, nor a colon. -/
theorem newSpecifier_brings_nothing
    (renamed : (known.resolve specifier importer).newSpecifier? = some new) :
    (∀ c ∈ new, isDelicate c = true → c ∈ specifier) ∧
      (∀ target, known.resolve specifier importer = .root new target →
        Path.withExtension new = Path.rooted (Path.withExtension
          ((specifier.dropStart Path.rootMarker).dropStart Path.rootMarker))) ∧
      (∀ target, known.resolve specifier importer = .directory new target →
        ∀ c ∈ new, isDelicate c = false ∧ c ≠ 0x3A) := by
  have ofNormal : Path.IsNormal (Path.rooted new) → ∀ c ∈ new, Path.isForbidden c = false :=
    fun normal c member => normal.isForbidden_eq_false c (Path.mem_rooted member)
  refine ⟨fun c member delicate => ?_, fun target resolved => ?_, fun target resolved c member => ?_⟩
  · rcases cases_of_newSpecifier? renamed with ⟨target, found, rfl, _⟩ | ⟨_, _, normal⟩
    · refine mem_of_mem_rootModule delicate ?_
      rw [← withExtension_of_rootMatch? found]
      exact Path.mem_withExtension member
    · cases (isForbidden_of_isDelicate delicate).symm.trans (ofNormal normal c member)
  · rcases resolve_eq_root_iff.mp resolved with ⟨_, found, rfl, _⟩
    exact withExtension_of_rootMatch? found
  · rcases resolve_eq_directory_iff.mp resolved with ⟨_, _, found, rfl⟩
    have plain := ofNormal (isNormal_of_directoryMatch? found).2 c member
    constructor
    · refine Bool.eq_false_iff.mpr fun delicate => ?_
      cases (isForbidden_of_isDelicate delicate).symm.trans plain
    · rintro rfl
      exact absurd plain (by decide)

/-- A quote of a name is written where the specifier has it; a name that is found from a
directory has none. -/
theorem newSpecifier_brings_nothing_quoted :
    let known : Known := [text "a\x27b.js", text "lib/b.js"]
    let quoted := text "././a\x27b"
    ((known.resolve quoted (text "lib/m.js")).newSpecifier? = some (text "/a\x27b.js") ∧
        (∀ c ∈ text "/a\x27b.js", isDelicate c = true → c ∈ quoted) ∧
        Path.withExtension (text "/a\x27b.js") =
          Path.rooted (Path.withExtension
            ((quoted.dropStart Path.rootMarker).dropStart Path.rootMarker))) ∧
      (known.resolve (text "b") (text "lib/m.js")).newSpecifier? = some (text "lib/b.js") ∧
        ∀ c ∈ text "lib/b.js", isDelicate c = false ∧ c ≠ 0x3A := by
  intro known quoted
  have fromRoot : known.resolve quoted (text "lib/m.js") =
      .root (text "/a\x27b.js") (text "a\x27b.js") := by decide
  have fromDirectory : known.resolve (text "b") (text "lib/m.js") =
      .directory (text "lib/b.js") (text "lib/b.js") := by decide
  have renamed : (known.resolve quoted (text "lib/m.js")).newSpecifier? =
      some (text "/a\x27b.js") := by rw [fromRoot]; rfl
  have renamed' : (known.resolve (text "b") (text "lib/m.js")).newSpecifier? =
      some (text "lib/b.js") := by rw [fromDirectory]; rfl
  have plain := newSpecifier_brings_nothing renamed
  exact ⟨⟨renamed, plain.1, plain.2.1 _ fromRoot⟩, renamed',
    (newSpecifier_brings_nothing renamed').2.2 _ fromDirectory⟩

end Known

end Respecify
