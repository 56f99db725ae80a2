import Mathlib.Data.List.Basic
import Respecify.JavaScript.Bindings

/-!
# Which names of a tree are bound at its top

A name is bound at the top of a script if what it stands in passes it on, from one tree
to the next, up to the root.  A pattern passes on the names of its parts, but not those
of default values and keys; a declaration passes on its own name or the targets of its
variables, and an import the names that it binds here.  In the tree of a script such
names, in source order, are the ones that are collected from its statements.
-/

namespace Respecify.JavaScript

/-- The declarations that bind names. -/
def Kind.declares : Kind → Bool
  | .importStatement | .variableDeclaration | .lexicalDeclaration | .classDeclaration
  | .functionDeclaration | .generatorDeclaration => true
  | _ => false

namespace Tree

/-! ## Names and what they stand in -/

/-- The tree is a name: one that is bound as it stands, or a property that is bound under
its own name. -/
def isName (tree : Tree) : Bool :=
  tree.kind = .identifier || tree.kind = .shorthandPattern

/-- The tree passes on the names that this part of it binds. -/
def passes (tree part : Tree) : Bool :=
  match tree.kind with
  | .program => part.kind.declares || part.kind = .exportStatement
  | .exportStatement => part.role = .declaration && part.kind.declares
  -- Declarations.
  | .variableDeclaration | .lexicalDeclaration => part.kind = .variableDeclarator
  | .variableDeclarator | .classDeclaration | .functionDeclaration | .generatorDeclaration =>
      part.role = .name
  -- Imports; an imported name counts only where it is not renamed.
  | .importStatement => part.kind = .importClause
  | .importClause =>
      part.kind = .identifier || part.kind = .namespaceImport || part.kind = .namedImports
  | .namespaceImport => part.kind = .identifier
  | .namedImports => part.kind = .importSpecifier
  | .importSpecifier =>
      part.role = .renamed || (part.role = .name && (tree.child? .renamed).isNone)
  -- Patterns.
  | .objectPattern | .arrayPattern | .restPattern => true
  | .assignmentPattern | .objectAssignmentPattern => part.role = .left
  | .pairPattern => part.role = .value
  | _ => false

/-- Each tree is passed on by the next one, and the last one is a script. -/
def isPassedOn : List Tree → Bool
  | [] => false
  | [root] => root.kind = .program
  | part :: tree :: above => tree.passes part && isPassedOn (tree :: above)

/-- A tree where it stands: `above` holds the trees that it stands in, from its parent to
the root.  Their kinds would not do: an imported name is passed on or not according to
what stands beside it. -/
structure Occurrence where
  above : List Tree
  tree : Tree

/-- The occurrence is that of a name which is bound at the top of the script. -/
def Occurrence.isBound (occurrence : Occurrence) : Bool :=
  occurrence.tree.isName && isPassedOn (occurrence.tree :: occurrence.above)

/-- What stands in these trees is declared by `var`. -/
def areByVar (above : List Tree) : Bool :=
  above.any fun tree => tree.kind = .variableDeclaration

/-- The binding of a name. -/
def bindingOf (source : Source) (repeatable : Bool) (name : Tree) : Binding :=
  ⟨source.textOf name.span, repeatable, name⟩

/-- The binding of the name that stands at this place. -/
def Occurrence.binding (source : Source) (occurrence : Occurrence) : Binding :=
  bindingOf source (areByVar occurrence.above) occurrence.tree

mutual

/-- The occurrences in a tree that stands in others, in source order, parents before
children. -/
def occurrencesFrom (above : List Tree) : Tree → List Occurrence
  | .node kind role span children =>
      ⟨above, .node kind role span children⟩ ::
        occurrencesIn (.node kind role span children :: above) children

/-- The occurrences in several trees that stand in others. -/
def occurrencesIn (above : List Tree) : List Tree → List Occurrence
  | [] => []
  | tree :: others => occurrencesFrom above tree ++ occurrencesIn above others

end

/-- The names bound in a tree that stands in others. -/
def boundFrom (source : Source) (above : List Tree) (tree : Tree) : List Binding :=
  ((occurrencesFrom above tree).filter Occurrence.isBound).map (Occurrence.binding source)

/-- All names that are bound at the top of a script, in source order. -/
def bound (source : Source) (program : Tree) : List Binding :=
  boundFrom source [] program

/-! ## Trees of declarations -/

mutual

/-- The tree is a pattern: a name, parts in braces, in brackets or behind dots, a target
with a default value, or a target for the value of a key. -/
def isPattern : Tree → Bool
  | .node .identifier _ _ _ => true
  | .node .shorthandPattern _ _ _ => true
  | .node .objectPattern _ _ parts => arePatterns parts
  | .node .arrayPattern _ _ parts => arePatterns parts
  | .node .restPattern _ _ parts => arePatterns parts
  | .node .assignmentPattern _ _ parts => hasPattern .left parts
  | .node .objectAssignmentPattern _ _ parts => hasPattern .left parts
  | .node .pairPattern _ _ parts => hasPattern .value parts
  | _ => false

/-- All of the trees are patterns. -/
def arePatterns : List Tree → Bool
  | [] => true
  | tree :: others => isPattern tree && arePatterns others

/-- No more than one of the trees has the role, and that one is a pattern. -/
def hasPattern (role : Role) : List Tree → Bool
  | [] => true
  | tree :: others =>
      if tree.role = role then isPattern tree && others.all (·.role ≠ role)
      else hasPattern role others

end

/-- One of the trees has the role, and that one is a plain name. -/
def hasName (role : Role) (trees : List Tree) : Bool :=
  match trees.filter (·.role = role) with
  | [tree] => tree.kind = .identifier
  | _ => false

/-- An imported name is bound under one name: the new one, if there is one. -/
def isImported (specifier : Tree) : Bool :=
  specifier.kind ≠ .importSpecifier ||
    if (specifier.child? .renamed).isSome then hasName .renamed specifier.children
    else hasName .name specifier.children

/-- The parts of a declaration are what its kind asks: each variable has a pattern, a
function and a class have a name, and so has what is imported. -/
def isComplete (declaration : Tree) : Bool :=
  match declaration.kind with
  | .variableDeclaration | .lexicalDeclaration =>
      declaration.children.all fun child =>
        child.role ≠ .name &&
          (child.kind ≠ .variableDeclarator || hasPattern .name child.children)
  | .classDeclaration | .functionDeclaration | .generatorDeclaration =>
      hasName .name declaration.children
  | .importStatement =>
      declaration.children.all fun clause =>
        clause.kind ≠ .importClause ||
          clause.children.all fun part =>
            part.kind ≠ .namedImports || part.children.all isImported
  | _ => true

/-- A statement is a proper declaration, or exports at most one, or is neither of them. -/
def isStatement (statement : Tree) : Bool :=
  if statement.kind = .exportStatement then
    match statement.children.filter (·.role = .declaration) with
    | [] => true
    | [declaration] => declaration.isComplete
    | _ => false
  else statement.isComplete

/-- The tree is that of a script, and its declarations are proper ones. -/
def IsDeclaring (program : Tree) : Prop :=
  program.kind = .program ∧ ∀ statement ∈ program.children, statement.isStatement = true

instance (program : Tree) : Decidable program.IsDeclaring :=
  inferInstanceAs (Decidable (_ ∧ _))

/-! ## What is passed on -/

variable {source : Source} {above : List Tree} {tree part : Tree}

theorem isPassedOn_cons_cons (part tree : Tree) (above : List Tree) :
    isPassedOn (part :: tree :: above) = (tree.passes part && isPassedOn (tree :: above)) :=
  rfl

theorem boundFrom_occurrencesIn (source : Source) (above trees : List Tree) :
    ((occurrencesIn above trees).filter Occurrence.isBound).map (Occurrence.binding source) =
      trees.flatMap (boundFrom source above) := by
  induction trees with
  | nil => rfl
  | cons tree others inductionHypothesis =>
      rw [occurrencesIn, List.filter_append, List.map_append, inductionHypothesis,
        List.flatMap_cons, boundFrom]

/-- The names bound in a tree are the tree itself, if it is one, and those bound in its
parts. -/
theorem boundFrom_eq (source : Source) (above : List Tree) (tree : Tree) :
    boundFrom source above tree =
      (if Occurrence.isBound ⟨above, tree⟩ then [Occurrence.binding source ⟨above, tree⟩]
        else []) ++
      tree.children.flatMap (boundFrom source (tree :: above)) := by
  rcases tree with ⟨kind, role, span, children⟩
  rw [boundFrom, occurrencesFrom, List.filter_cons]
  split
  · rw [List.map_cons, boundFrom_occurrencesIn]
    rfl
  · rw [boundFrom_occurrencesIn]
    rfl

mutual

/-- No name is bound in a tree that is not passed on. -/
theorem boundFrom_eq_nil (above : List Tree) : (tree : Tree) →
    isPassedOn (tree :: above) = false → boundFrom source above tree = []
  | .node kind role span children => by
      intro lost
      have itself : Occurrence.isBound ⟨above, .node kind role span children⟩ = false := by
        rw [Occurrence.isBound, lost, Bool.and_false]
      rw [boundFrom_eq, itself, Tree.children,
        List.flatMap_eq_nil_iff.mpr (boundFrom_parts_eq_nil lost children)]
      rfl

theorem boundFrom_parts_eq_nil {tree : Tree} {above : List Tree}
    (lost : isPassedOn (tree :: above) = false) : (parts : List Tree) →
    ∀ part ∈ parts, boundFrom source (tree :: above) part = []
  | [] => fun _ member => nomatch member
  | first :: others => by
      intro part member
      rcases List.mem_cons.mp member with same | member
      · rw [same]
        apply boundFrom_eq_nil (tree :: above) first
        rw [isPassedOn_cons_cons, lost, Bool.and_false]
      · exact boundFrom_parts_eq_nil lost others part member

end

/-- Nor is one bound in a part that a tree keeps to itself. -/
theorem boundFrom_of_not_passes (kept : tree.passes part = false) :
    boundFrom source (tree :: above) part = [] := by
  apply boundFrom_eq_nil
  rw [isPassedOn_cons_cons, kept, Bool.false_and]

/-- A tree that is no name binds those of its parts. -/
theorem boundFrom_of_not_isName (compound : tree.isName = false) :
    boundFrom source above tree = tree.children.flatMap (boundFrom source (tree :: above)) := by
  rw [boundFrom_eq, Occurrence.isBound, compound, Bool.false_and]
  rfl

/-- A name that is passed on binds itself and nothing else. -/
theorem boundFrom_of_isName (isName : tree.isName = true)
    (passed : isPassedOn (tree :: above) = true) :
    boundFrom source above tree = [Occurrence.binding source ⟨above, tree⟩] := by
  have closed : ∀ part, tree.passes part = false := by
    intro part
    rw [Tree.isName, Bool.or_eq_true, decide_eq_true_eq, decide_eq_true_eq] at isName
    rcases isName with isIdentifier | isShorthand
    · rw [passes, isIdentifier]
    · rw [passes, isShorthand]
  have parts : tree.children.flatMap (boundFrom source (tree :: above)) = [] :=
    List.flatMap_eq_nil_iff.mpr fun part _ => boundFrom_of_not_passes (closed part)
  rw [boundFrom_eq, Occurrence.isBound, isName, passed, parts]
  rfl

/-- Of a tree that passes on no more than one part, the names bound are those of this
part. -/
theorem flatMap_boundFrom_of_role {role : Role} {parts : List Tree}
    (kept : ∀ part ∈ parts, part.role ≠ role → boundFrom source above part = []) :
    parts.flatMap (boundFrom source above) =
      (parts.filter (·.role = role)).flatMap (boundFrom source above) := by
  induction parts with
  | nil => rfl
  | cons part parts inductionHypothesis =>
      have later := inductionHypothesis fun other member =>
        kept other (List.mem_cons_of_mem part member)
      by_cases same : part.role = role
      · rw [List.filter_cons_of_pos (by simpa using same), List.flatMap_cons, List.flatMap_cons,
          later]
      · rw [List.filter_cons_of_neg (by simpa using same), List.flatMap_cons,
          kept part List.mem_cons_self same, List.nil_append, later]

/-- Of a tree that passes on the parts of one kind, the names bound are those of these
parts. -/
theorem boundFrom_of_kind {kind : Kind} {names : Tree → List Tree} {repeatable : Bool}
    (compound : tree.isName = false)
    (passes : ∀ part, tree.passes part = decide (part.kind = kind))
    (passed : isPassedOn (tree :: above) = true)
    (each : ∀ part ∈ tree.children, part.kind = kind →
      isPassedOn (part :: tree :: above) = true →
      boundFrom source (tree :: above) part = (names part).map (bindingOf source repeatable)) :
    boundFrom source above tree =
      (tree.children.flatMap fun part => if part.kind = kind then names part else []).map
        (bindingOf source repeatable) := by
  rw [boundFrom_of_not_isName compound, List.map_flatMap]
  refine List.flatMap_congr fun part member => ?_
  by_cases same : part.kind = kind
  · rw [if_pos same]
    apply each part member same
    rw [isPassedOn_cons_cons, passes, decide_eq_true same, passed, Bool.and_true]
  · rw [if_neg same, boundFrom_of_not_passes (by rw [passes, decide_eq_false same])]
    rfl

/-! ## Names in patterns -/

theorem areByVar_cons (declares : tree.kind ≠ .variableDeclaration) (above : List Tree) :
    areByVar (tree :: above) = areByVar above := by
  rw [areByVar, List.any_cons, decide_eq_false declares, Bool.false_or, areByVar]

mutual

/-- The names bound in a pattern that is passed on are those that are collected from
it. -/
theorem boundFrom_of_isPattern {above : List Tree} : (tree : Tree) → tree.isPattern = true →
    isPassedOn (tree :: above) = true →
    boundFrom source above tree = tree.boundNames.map (bindingOf source (areByVar above))
  | .node kind role span parts => by
      intro pattern passed
      cases kind with
      | identifier | shorthandPattern => exact boundFrom_of_isName rfl passed
      -- Of a group each part is passed on, of the other patterns only the target.
      | objectPattern | arrayPattern | restPattern =>
          rw [boundFrom_of_not_isName rfl, Tree.children,
            flatMap_boundFrom_of_arePatterns parts pattern fun part _ => by
              rw [isPassedOn_cons_cons, passed, Bool.and_true]
              rfl,
            areByVar_cons (by simp [Tree.kind])]
          rfl
      | assignmentPattern | objectAssignmentPattern =>
          rw [boundFrom_of_not_isName rfl, Tree.children,
            flatMap_boundFrom_of_hasPattern .left parts pattern fun part _ => by
              rw [isPassedOn_cons_cons, passed, Bool.and_true]
              rfl,
            areByVar_cons (by simp [Tree.kind])]
          rfl
      | pairPattern =>
          rw [boundFrom_of_not_isName rfl, Tree.children,
            flatMap_boundFrom_of_hasPattern .value parts pattern fun part _ => by
              rw [isPassedOn_cons_cons, passed, Bool.and_true]
              rfl,
            areByVar_cons (by simp [Tree.kind])]
          rfl
      | _ => cases pattern

/-- So it is with patterns of which each one is passed on. -/
theorem flatMap_boundFrom_of_arePatterns {above : List Tree} : (parts : List Tree) →
    arePatterns parts = true → (∀ part ∈ parts, isPassedOn (part :: above) = true) →
    parts.flatMap (boundFrom source above) =
      (boundNamesIn parts).map (bindingOf source (areByVar above))
  | [] => fun _ _ => rfl
  | part :: others => by
      intro patterns passed
      rw [arePatterns, Bool.and_eq_true] at patterns
      rw [List.flatMap_cons, boundNamesIn, List.map_append,
        boundFrom_of_isPattern part patterns.1 (passed part List.mem_cons_self),
        flatMap_boundFrom_of_arePatterns others patterns.2 fun other member =>
          passed other (List.mem_cons_of_mem part member)]

/-- And so it is where the only part that is passed on is a pattern. -/
theorem flatMap_boundFrom_of_hasPattern {above : List Tree} (role : Role) :
    (parts : List Tree) → hasPattern role parts = true →
    (∀ part ∈ parts, isPassedOn (part :: above) = decide (part.role = role)) →
    parts.flatMap (boundFrom source above) =
      (boundNamesOf role parts).map (bindingOf source (areByVar above))
  | [] => fun _ _ => rfl
  | part :: others => by
      intro has passed
      have here := passed part List.mem_cons_self
      have behind := fun other member => passed other (List.mem_cons_of_mem part member)
      rw [hasPattern] at has
      rw [List.flatMap_cons, boundNamesOf]
      split at has
      · rename_i same
        rw [Bool.and_eq_true] at has
        have kept : others.flatMap (boundFrom source above) = [] := by
          rw [List.flatMap_eq_nil_iff]
          intro other member
          apply boundFrom_eq_nil
          have differs := List.all_eq_true.mp has.2 other member
          rw [behind other member, decide_eq_false (by simpa using differs)]
        rw [if_pos same, boundFrom_of_isPattern part has.1 (by rw [here, decide_eq_true same]),
          kept, List.append_nil]
      · rename_i differs
        rw [if_neg differs, boundFrom_eq_nil above part (by rw [here, decide_eq_false differs]),
          List.nil_append]
        exact flatMap_boundFrom_of_hasPattern role others has behind

end

/-! ## Names in declarations -/

/-- The names that are collected from a part of some role are those of the first one. -/
theorem boundNamesOf_eq (role : Role) (trees : List Tree) :
    boundNamesOf role trees =
      match trees.find? fun tree => tree.role = role with
      | some tree => tree.boundNames
      | none => [] := by
  induction trees with
  | nil => rfl
  | cons tree others inductionHypothesis =>
      rw [boundNamesOf, List.find?_cons]
      by_cases same : tree.role = role
      · rw [if_pos same, decide_eq_true same]
      · rw [if_neg same, decide_eq_false same, inductionHypothesis]

/-- Where the only part that is passed on is a plain name, this one is bound. -/
theorem flatMap_boundFrom_of_hasName {role : Role} {parts : List Tree}
    (has : hasName role parts = true)
    (passed : ∀ part ∈ parts, isPassedOn (part :: above) = decide (part.role = role)) :
    parts.flatMap (boundFrom source above) =
      (parts.find? fun part => part.role = role).toList.map
        (bindingOf source (areByVar above)) := by
  rw [flatMap_boundFrom_of_role fun part member differs =>
      boundFrom_eq_nil above part (by rw [passed part member, decide_eq_false differs]),
    ← List.head?_filter]
  unfold hasName at has
  split at has
  · rename_i name only
    have member : name ∈ parts.filter (·.role = role) := by
      rw [only]
      exact List.mem_singleton_self name
    rw [List.mem_filter, decide_eq_true_eq] at member
    rw [decide_eq_true_eq] at has
    rw [only, List.flatMap_singleton, boundFrom_of_isName (by rw [isName, has]; rfl)
      (by rw [passed name member.1, decide_eq_true member.2])]
    rfl
  · cases has

/-- The variables of a declaration bind the names of their patterns. -/
theorem boundFrom_of_variables
    (declares : tree.kind = .variableDeclaration ∨ tree.kind = .lexicalDeclaration)
    (proper : tree.isComplete = true) (passed : isPassedOn (tree :: above) = true) :
    boundFrom source above tree =
      tree.introducedNames.map (bindingOf source (areByVar (tree :: above))) := by
  have shapes : ∀ child ∈ tree.children, child.role ≠ .name ∧
      (child.kind = .variableDeclarator → hasPattern .name child.children = true) := by
    intro child member
    have holds : (child.role ≠ .name && (child.kind ≠ .variableDeclarator ||
        hasPattern .name child.children)) = true := by
      unfold isComplete at proper
      rcases declares with kind | kind <;> rw [kind] at proper <;>
        exact List.all_eq_true.mp proper child member
    simpa [Decidable.imp_iff_not_or] using holds
  have passes : ∀ child, tree.passes child = decide (child.kind = .variableDeclarator) := by
    intro child
    rcases declares with kind | kind <;> rw [Tree.passes, kind]
  have nameless : tree.child? .name = none := by
    rw [child?, List.find?_eq_none]
    intro child member
    simpa using (shapes child member).1
  have compound : tree.isName = false := by
    rcases declares with kind | kind <;> rw [isName, kind] <;> rfl
  rw [introducedNames, nameless]
  refine boundFrom_of_kind compound passes passed fun child member isVariable inside => ?_
  rw [boundFrom_of_not_isName (by rw [isName, isVariable]; rfl),
    flatMap_boundFrom_of_hasPattern .name child.children ((shapes child member).2 isVariable)
      fun part _ => by rw [isPassedOn_cons_cons, inside, Bool.and_true, Tree.passes, isVariable],
    areByVar_cons (by rw [isVariable]; decide), boundNamesOf_eq]
  rfl

/-- A function and a class bind their own name. -/
theorem boundFrom_of_named
    (declares : tree.kind = .classDeclaration ∨ tree.kind = .functionDeclaration ∨
      tree.kind = .generatorDeclaration)
    (proper : tree.isComplete = true) (passed : isPassedOn (tree :: above) = true) :
    boundFrom source above tree =
      tree.introducedNames.map (bindingOf source (areByVar above)) := by
  have has : hasName .name tree.children = true := by
    unfold isComplete at proper
    rcases declares with kind | kind | kind <;> rwa [kind] at proper
  have passes : ∀ part, tree.passes part = decide (part.role = .name) := by
    intro part
    rcases declares with kind | kind | kind <;> rw [Tree.passes, kind]
  have named : ∃ name, tree.child? .name = some name := by
    unfold hasName at has
    split at has
    · rename_i name only
      exact ⟨name, by rw [child?, ← List.head?_filter, only]; rfl⟩
    · cases has
  rcases named with ⟨name, found⟩
  rw [boundFrom_of_not_isName
      (by rcases declares with kind | kind | kind <;> rw [isName, kind] <;> rfl),
    flatMap_boundFrom_of_hasName has
      fun part _ => by rw [isPassedOn_cons_cons, passes, passed, Bool.and_true],
    areByVar_cons (by rcases declares with kind | kind | kind <;> rw [kind] <;> decide),
    introducedNames, found]
  rw [child?] at found
  rw [found]
  rfl

/-! ## Names in imports -/

/-- An imported name is bound under its new name, if it has one. -/
theorem boundFrom_of_specifier (isSpecifier : tree.kind = .importSpecifier)
    (proper : tree.isImported = true) (passed : isPassedOn (tree :: above) = true) :
    boundFrom source above tree =
      tree.importedName?.toList.map (bindingOf source (areByVar above)) := by
  rw [isImported, isSpecifier] at proper
  rw [boundFrom_of_not_isName (by rw [isName, isSpecifier]; rfl), importedName?,
    if_pos isSpecifier, ← areByVar_cons (by rw [isSpecifier]; decide) above]
  cases renamed : tree.child? .renamed with
  | some new =>
      rw [renamed] at proper
      have has : hasName .renamed tree.children = true := proper
      rw [flatMap_boundFrom_of_hasName has]
      · rw [child?] at renamed
        rw [renamed]
        rfl
      · intro part _
        rw [isPassedOn_cons_cons, passed, Tree.passes, isSpecifier, renamed]
        simp
  | none =>
      rw [renamed] at proper
      have has : hasName .name tree.children = true := proper
      rw [flatMap_boundFrom_of_hasName has]
      · rfl
      · intro part member
        have original : part.role ≠ .renamed := by
          rw [child?, List.find?_eq_none] at renamed
          simpa using renamed part member
        rw [isPassedOn_cons_cons, passed, Tree.passes, isSpecifier, renamed]
        simp [original]

/-- The names that a part of an import clause binds. -/
def clauseNames (part : Tree) : List Tree :=
  match part.kind with
  | .identifier => [part]
  | .namespaceImport => part.children.filter fun child => child.kind = .identifier
  | .namedImports => part.children.filterMap importedName?
  | _ => []

/-- A name for all that is imported is bound as it stands. -/
theorem boundFrom_of_namespaceImport (isNamespace : tree.kind = .namespaceImport)
    (passed : isPassedOn (tree :: above) = true) :
    boundFrom source above tree =
      (tree.children.filter fun child => child.kind = .identifier).map
        (bindingOf source (areByVar above)) := by
  have chosen : (tree.children.filter fun child => child.kind = .identifier) =
      tree.children.flatMap fun child => if child.kind = .identifier then [child] else [] := by
    rw [← List.filterMap_eq_filter, List.filterMap_eq_flatMap_toList]
    refine List.flatMap_congr fun child _ => ?_
    by_cases isIdentifier : child.kind = .identifier <;> simp [Option.guard, isIdentifier]
  rw [chosen, ← areByVar_cons (by rw [isNamespace]; decide) above]
  refine boundFrom_of_kind (by rw [isName, isNamespace]; rfl)
    (fun part => by rw [Tree.passes, isNamespace]) passed fun child _ isIdentifier inside => ?_
  exact boundFrom_of_isName (by rw [isName, isIdentifier]; rfl) inside

/-- Names in braces are bound one by one. -/
theorem boundFrom_of_namedImports (isBraced : tree.kind = .namedImports)
    (proper : tree.children.all isImported = true) (passed : isPassedOn (tree :: above) = true) :
    boundFrom source above tree =
      (tree.children.filterMap importedName?).map (bindingOf source (areByVar above)) := by
  have chosen : tree.children.filterMap importedName? =
      tree.children.flatMap fun specifier =>
        if specifier.kind = .importSpecifier then specifier.importedName?.toList else [] := by
    rw [List.filterMap_eq_flatMap_toList]
    refine List.flatMap_congr fun specifier _ => ?_
    by_cases isSpecifier : specifier.kind = .importSpecifier <;> simp [importedName?, isSpecifier]
  rw [chosen, ← areByVar_cons (by rw [isBraced]; decide) above]
  refine boundFrom_of_kind (by rw [isName, isBraced]; rfl)
    (fun part => by rw [Tree.passes, isBraced]) passed
    fun specifier member isSpecifier inside => ?_
  exact boundFrom_of_specifier isSpecifier (List.all_eq_true.mp proper specifier member) inside

/-- So are the parts of an import clause. -/
theorem boundFrom_of_clausePart
    (proper : (tree.kind ≠ .namedImports || tree.children.all isImported) = true)
    {clause : Tree} (isClause : clause.kind = .importClause)
    (passed : isPassedOn (clause :: above) = true) :
    boundFrom source (clause :: above) tree =
      tree.clauseNames.map (bindingOf source (areByVar (clause :: above))) := by
  have onward : isPassedOn (tree :: clause :: above) = clause.passes tree := by
    rw [isPassedOn_cons_cons, passed, Bool.and_true]
  rw [Tree.passes, isClause] at onward
  unfold clauseNames
  split
  · rename_i isIdentifier
    exact boundFrom_of_isName (by rw [isName, isIdentifier]; rfl)
      (by rw [onward, isIdentifier]; rfl)
  · rename_i isNamespace
    rw [isNamespace] at onward
    exact boundFrom_of_namespaceImport isNamespace onward
  · rename_i isBraced
    rw [isBraced] at proper onward
    exact boundFrom_of_namedImports isBraced proper onward
  · rename_i noIdentifier noNamespace noBraced
    have kept : isPassedOn (tree :: clause :: above) = false := by
      rw [onward]
      simpa using ⟨⟨noIdentifier, noNamespace⟩, noBraced⟩
    rw [boundFrom_eq_nil _ tree kept]
    rfl

/-- The names that an import binds are those of the parts of its clause. -/
theorem boundFrom_of_import (imports : tree.kind = .importStatement)
    (proper : tree.isComplete = true) (passed : isPassedOn (tree :: above) = true) :
    boundFrom source above tree =
      tree.importedNames.map (bindingOf source (areByVar above)) := by
  rw [isComplete, imports] at proper
  rw [importedNames, ← areByVar_cons (by rw [imports]; decide) above]
  refine boundFrom_of_kind (by rw [isName, imports]; rfl)
    (fun part => by rw [Tree.passes, imports]) passed fun clause member isClause inside => ?_
  have shapes := List.all_eq_true.mp proper clause member
  rw [isClause] at shapes
  rw [boundFrom_of_not_isName (by rw [isName, isClause]; rfl), List.map_flatMap,
    ← areByVar_cons (by rw [isClause]; decide) (tree :: above)]
  exact List.flatMap_congr fun part within =>
    boundFrom_of_clausePart (List.all_eq_true.mp shapes part within) isClause inside

/-! ## Names in statements -/

/-- The names that a declaration binds, and whether `var` binds them. -/
def declaredNames (declaration : Tree) : Bool × List Tree :=
  match declaration.kind with
  | .variableDeclaration => (true, declaration.introducedNames)
  | .importStatement => (false, declaration.importedNames)
  | .lexicalDeclaration | .classDeclaration | .functionDeclaration | .generatorDeclaration =>
      (false, declaration.introducedNames)
  | _ => (false, [])

/-- What a statement binds, its declaration binds. -/
theorem statementNames_eq (statement : Tree) :
    statement.statementNames = (statement.declared?.map declaredNames).getD (false, []) := by
  rw [statementNames]
  cases statement.declared? <;> rfl

/-- The names bound in a declaration are those that are collected from it. -/
theorem boundFrom_of_isComplete (proper : tree.isComplete = true)
    (passed : isPassedOn (tree :: above) = tree.kind.declares)
    (direct : areByVar above = false) :
    boundFrom source above tree =
      tree.declaredNames.2.map (bindingOf source tree.declaredNames.1) := by
  unfold declaredNames
  split <;> rename_i kind
  · rw [kind] at passed
    rw [boundFrom_of_variables (.inl kind) proper passed, areByVar, List.any_cons,
      decide_eq_true kind, Bool.true_or]
  · rw [kind] at passed
    rw [boundFrom_of_import kind proper passed, direct]
  · rw [kind] at passed
    rw [boundFrom_of_variables (.inr kind) proper passed,
      areByVar_cons (by rw [kind]; decide), direct]
  · rw [kind] at passed
    rw [boundFrom_of_named (.inl kind) proper passed, direct]
  · rw [kind] at passed
    rw [boundFrom_of_named (.inr (.inl kind)) proper passed, direct]
  · rw [kind] at passed
    rw [boundFrom_of_named (.inr (.inr kind)) proper passed, direct]
  · rw [boundFrom_eq_nil above tree]
    · rfl
    · rw [passed]
      unfold Kind.declares
      split <;> first | contradiction | rfl

/-- The names bound in a statement at the top of a script are those that are collected
from it. -/
theorem boundFrom_of_isStatement {program statement : Tree}
    (isProgram : program.kind = .program) (proper : statement.isStatement = true) :
    boundFrom source [program] statement =
      statement.statementNames.2.map (bindingOf source statement.statementNames.1) := by
  have root : isPassedOn [program] = true := by
    rw [isPassedOn, isProgram]
    rfl
  have direct : areByVar [program] = false := by
    rw [areByVar, List.any_cons, isProgram]
    rfl
  have passed : isPassedOn [statement, program] =
      (statement.kind.declares || statement.kind = .exportStatement) := by
    rw [isPassedOn_cons_cons, root, Bool.and_true, Tree.passes, isProgram]
  unfold isStatement at proper
  rw [statementNames_eq, declared?]
  split at proper
  · rename_i exports
    have inside : isPassedOn [statement, program] = true := by
      rw [passed, decide_eq_true exports, Bool.or_true]
    have passes : ∀ part, statement.passes part =
        (part.role = .declaration && part.kind.declares) := by
      intro part
      rw [Tree.passes, exports]
    rw [if_pos exports, child?, ← List.head?_filter,
      boundFrom_of_not_isName (by rw [isName, exports]; rfl),
      flatMap_boundFrom_of_role fun part _ differs => boundFrom_of_not_passes
        (by rw [passes, decide_eq_false differs, Bool.false_and])]
    split at proper
    · rename_i nothing
      rw [nothing]
      rfl
    · rename_i declaration only
      have member : declaration ∈ statement.children.filter (·.role = .declaration) := by
        rw [only]
        exact List.mem_singleton_self declaration
      rw [only, List.flatMap_singleton]
      refine boundFrom_of_isComplete proper ?_ ?_
      · rw [isPassedOn_cons_cons, inside, Bool.and_true, passes, (List.mem_filter.mp member).2,
          Bool.true_and]
      · rw [areByVar_cons (by rw [exports]; decide), direct]
    · cases proper
  · rename_i other
    rw [if_neg other]
    refine boundFrom_of_isComplete proper ?_ direct
    rw [passed, decide_eq_false other, Bool.or_false]

/-- The bindings that are collected from a script are those of the names which are bound at
its top. -/
theorem bindings_eq_bound (source : Source) {program : Tree} (shaped : program.IsDeclaring) :
    bindings source program = program.bound source := by
  have statements : ∀ statement ∈ program.children,
      boundFrom source [program] statement =
        statement.statementNames.2.map (bindingOf source statement.statementNames.1) :=
    fun statement member => boundFrom_of_isStatement shaped.1 (shaped.2 statement member)
  rw [bound, boundFrom_of_not_isName (by rw [isName, shaped.1]; rfl),
    List.flatMap_congr statements]
  rfl

end Tree

end Respecify.JavaScript
