import Mathlib.Tactic.ByContra
import Respecify.Proofs.JavaScript.Outline

/-!
# Walks over the tree of a script

A walk keeps the trees that it has still to look at on a stack.  It takes the one on top
and puts the trees below that one in its place, the first of them on top.  So it comes
by the places of a tree in source order, parents before children, and a tree is done
before anything that lay beneath it on the stack.

A script is checked by two such walks.  One of them looks for a node that breaks a rule,
the other one collects the import declarations, and between them the names bound at the
top are looked at.
-/

namespace Respecify.JavaScript

namespace Tree

/-! ## Walks with a stack -/

section Stacks

variable {α : Type}

/-- Put items on a stack one after the other, beginning with the last. -/
def pushAll (items stack : List α) : List α :=
  items.reverse.foldl (fun rest item => item :: rest) stack

theorem pushAll_eq_append (items stack : List α) : pushAll items stack = items ++ stack := by
  rw [pushAll, List.foldl_reverse, List.foldr_cons_eq_append, List.map_id']

/-- The size of the trees on a stack. -/
noncomputable def weight : List (α × Tree) → Nat
  | [] => 0
  | (_, tree) :: stack => sizeOf tree + weight stack

/-- A tree weighs more than nothing. -/
theorem weight_lt_cons (mark : α) (tree : Tree) (stack : List (α × Tree)) :
    weight stack < weight ((mark, tree) :: stack) := by
  have positive : 0 < sizeOf tree := by
    rcases tree with ⟨kind, role, span, children⟩
    rw [Tree.node.sizeOf_spec]
    omega
  rw [weight]
  omega

/-- The trees below a tree weigh less than it does. -/
theorem weight_pushAll_lt (mark mark' : α) (tree : Tree) (stack : List (α × Tree)) :
    weight (pushAll (tree.children.map fun child => (mark, child)) stack) <
      weight ((mark', tree) :: stack) := by
  have listed : ∀ trees : List Tree,
      weight (trees.map (fun child => (mark, child)) ++ stack) < sizeOf trees + weight stack := by
    intro trees
    induction trees with
    | nil => simp
    | cons tree others inductionHypothesis =>
        rw [List.map_cons, List.cons_append, weight, List.cons.sizeOf_spec]
        omega
  rcases tree with ⟨kind, role, span, trees⟩
  have below := listed trees
  rw [pushAll_eq_append, weight, Tree.node.sizeOf_spec]
  exact Nat.lt_of_lt_of_le below (by omega)

end Stacks

/-- Walk over the trees of a stack, each with whether it stands in a function, to the
first node that breaks a rule. -/
def walkViolation? : List (Bool × Tree) → Option Violation
  | [] => none
  | (inFunction, tree) :: stack =>
      match tree.kind.fault? inFunction with
      | some fault => some ⟨fault, tree⟩
      | none =>
          let nested := inFunction || tree.kind.isFunction
          walkViolation? (pushAll (tree.children.map fun child => (nested, child)) stack)
termination_by stack => weight stack
decreasing_by exact weight_pushAll_lt _ _ _ _

/-- Walk over the trees of a stack, each with what it stands directly below, and put
the import declarations behind those found so far.  One that does not stand directly
below the root of a script is refused.  What is below a declaration is passed over. -/
def collectImports (found : List Tree) : List (Option Kind × Tree) → Except Tree (List Tree)
  | [] => .ok found
  | (parent?, tree) :: stack =>
      if tree.kind = .importStatement then
        if parent?.all (· = .program) then collectImports (found ++ [tree]) stack else .error tree
      else
        collectImports found
          (pushAll (tree.children.map fun child => (some tree.kind, child)) stack)
termination_by stack => weight stack
decreasing_by
  · exact weight_lt_cons _ _ _
  · exact weight_pushAll_lt _ _ _ _

/-- Check a script by walks over its tree: no node that breaks a rule, no name bound
twice, and each import declaration directly below the root.  The import declarations
are collected. -/
def walkModule (source : Source) (program : Tree) : Except Violation (List Tree) := do
  if let some violation := walkViolation? [(false, program)] then
    throw violation
  if let some binding := firstClash? (bindings source program) then
    throw ⟨.redeclared binding.name, binding.tree⟩
  match collectImports [] [(none, program)] with
  | .error tree => throw ⟨.nestedImport, tree⟩
  | .ok imports => return imports

/-! ## Places of a tree -/

/-- A tree where it stands: `above` tells what it stands in, from its parent to the
root. -/
structure Place where
  above : List Kind
  tree : Tree

namespace Place

/-- The place breaks a rule of module code. -/
inductive Breaks (place : Place) : Fault → Prop where
  /-- A `return` stands in no function. -/
  | strayReturn (returns : place.tree.kind = .returnStatement)
      (outside : ∀ kind ∈ place.above, kind.isFunction = false) : Breaks place .strayReturn
  /-- There is a `with` statement. -/
  | withStatement (widens : place.tree.kind = .withStatement) : Breaks place .withStatement
  /-- There is markup. -/
  | markup (marked : place.tree.kind.isMarkup = true) : Breaks place .markup

/-- The rule that the place breaks. -/
def fault? (place : Place) : Option Fault :=
  place.tree.kind.fault? (place.above.any Kind.isFunction)

/-- The place with the rule that it breaks. -/
def violation? (place : Place) : Option Violation :=
  place.fault?.map fun fault => ⟨fault, place.tree⟩

/-- The place is that of an import declaration, and its parent is no script. -/
def isNested (place : Place) : Bool :=
  place.tree.kind = .importStatement && place.above.head? != some .program

variable {place : Place}

theorem fault?_eq_some_iff {fault : Fault} :
    place.fault? = some fault ↔ place.Breaks fault := by
  unfold fault?
  constructor
  · intro found
    unfold Kind.fault? at found
    split at found
    · rename_i returns
      split at found
      · cases found
      · rename_i outside
        cases found
        exact .strayReturn returns (by simpa using outside)
    · rename_i widens
      cases found
      exact .withStatement widens
    · split at found
      · rename_i marked
        cases found
        exact .markup marked
      · cases found
  · rintro (⟨returns, outside⟩ | widens | marked)
    · have unscoped : place.above.any Kind.isFunction = false := by simpa using outside
      rw [returns, unscoped]
      rfl
    · rw [widens]
      rfl
    · revert marked
      cases place.tree.kind <;> simp [Kind.isMarkup, Kind.fault?]

theorem fault?_eq_none_iff : place.fault? = none ↔ ∀ fault, ¬place.Breaks fault := by
  simp only [Option.eq_none_iff_forall_ne_some, ne_eq, fault?_eq_some_iff]

end Place

mutual

/-- The places of a tree that stands in something, in source order, parents before
children. -/
def placesFrom (above : List Kind) : Tree → List Place
  | .node kind role span children =>
      ⟨above, .node kind role span children⟩ :: placesIn (kind :: above) children

/-- The places of several trees that stand in something. -/
def placesIn (above : List Kind) : List Tree → List Place
  | [] => []
  | tree :: others => placesFrom above tree ++ placesIn above others

end

/-- All places of a tree, in source order, parents before children. -/
def places (program : Tree) : List Place :=
  program.placesFrom []

mutual

/-- What a tree stands in, the trees below it stand in as well. -/
theorem suffix_of_mem_placesFrom {place : Place} (above : List Kind) :
    (tree : Tree) → place ∈ placesFrom above tree → above <:+ place.above
  | .node kind role span children => by
      rw [placesFrom, List.mem_cons]
      rintro (rfl | below)
      · exact List.suffix_rfl
      · exact (List.suffix_cons kind above).trans (suffix_of_mem_placesIn _ children below)

theorem suffix_of_mem_placesIn {place : Place} (above : List Kind) :
    (trees : List Tree) → place ∈ placesIn above trees → above <:+ place.above
  | [] => fun member => nomatch member
  | tree :: others => by
      rw [placesIn, List.mem_append]
      rintro (here | behind)
      · exact suffix_of_mem_placesFrom above tree here
      · exact suffix_of_mem_placesIn above others behind

end

mutual

/-- A place is that of the whole tree, or its parent has a place. -/
theorem exists_parent_of_mem_placesFrom {place : Place} (above : List Kind) :
    (tree : Tree) → place ∈ placesFrom above tree →
      place = ⟨above, tree⟩ ∨
        ∃ parent ∈ placesFrom above tree, place.above = parent.tree.kind :: parent.above
  | .node kind role span children => by
      rw [placesFrom, List.mem_cons]
      rintro (rfl | below)
      · exact Or.inl rfl
      · right
        rcases exists_parent_of_mem_placesIn _ children below with
          direct | ⟨parent, member, same⟩
        · exact ⟨_, List.mem_cons_self, direct⟩
        · exact ⟨parent, List.mem_cons_of_mem _ member, same⟩

theorem exists_parent_of_mem_placesIn {place : Place} (above : List Kind) :
    (trees : List Tree) → place ∈ placesIn above trees →
      place.above = above ∨
        ∃ parent ∈ placesIn above trees, place.above = parent.tree.kind :: parent.above
  | [] => fun member => nomatch member
  | tree :: others => by
      rw [placesIn, List.mem_append]
      rintro (here | behind)
      · rcases exists_parent_of_mem_placesFrom above tree here with rfl | ⟨parent, member, same⟩
        · exact Or.inl rfl
        · exact Or.inr ⟨parent, List.mem_append_left _ member, same⟩
      · rcases exists_parent_of_mem_placesIn above others behind with
          direct | ⟨parent, member, same⟩
        · exact Or.inl direct
        · exact Or.inr ⟨parent, List.mem_append_right _ member, same⟩

end

/-! ## The walk of the rules -/

mutual

/-- The walk is done with a tree before it looks at what lay beneath it. -/
theorem walkViolation?_cons (inFunction : Bool) (stack : List (Bool × Tree)) : (tree : Tree) →
    walkViolation? ((inFunction, tree) :: stack) =
      (firstViolation? inFunction tree).or (walkViolation? stack)
  | .node kind role span children => by
      rw [walkViolation?, firstViolation?, Tree.kind, Tree.children]
      cases kind.fault? inFunction with
      | some fault => rfl
      | none =>
          dsimp only
          rw [pushAll_eq_append]
          exact walkViolation?_append (inFunction || kind.isFunction) stack children

theorem walkViolation?_append (inFunction : Bool) (stack : List (Bool × Tree)) :
    (trees : List Tree) →
      walkViolation? (trees.map (fun tree => (inFunction, tree)) ++ stack) =
        (firstViolationIn? inFunction trees).or (walkViolation? stack)
  | [] => rfl
  | tree :: others => by
      rw [List.map_cons, List.cons_append, walkViolation?_cons, walkViolation?_append,
        firstViolationIn?]
      cases firstViolation? inFunction tree <;> rfl

end

mutual

/-- The first node that breaks a rule is that of the first place that does. -/
theorem firstViolation?_eq_findSome? (above : List Kind) : (tree : Tree) →
    firstViolation? (above.any Kind.isFunction) tree =
      (placesFrom above tree).findSome? Place.violation?
  | .node kind role span children => by
      have below := firstViolationIn?_eq_findSome? (kind :: above) children
      rw [List.any_cons, Bool.or_comm] at below
      rw [firstViolation?, placesFrom, List.findSome?_cons, Place.violation?, Place.fault?,
        Tree.kind, below]
      cases kind.fault? (above.any Kind.isFunction) <;> rfl

theorem firstViolationIn?_eq_findSome? (above : List Kind) : (trees : List Tree) →
    firstViolationIn? (above.any Kind.isFunction) trees =
      (placesIn above trees).findSome? Place.violation?
  | [] => rfl
  | tree :: others => by
      rw [firstViolationIn?, placesIn, List.findSome?_append,
        ← firstViolation?_eq_findSome? above tree, ← firstViolationIn?_eq_findSome? above others]
      cases firstViolation? (above.any Kind.isFunction) tree <;> rfl

end

theorem firstViolation?_false (program : Tree) :
    program.firstViolation? false = program.places.findSome? Place.violation? :=
  firstViolation?_eq_findSome? [] program

/-! ## The walk that collects the import declarations -/

mutual

/-- Below a statement of a script nothing is collected, since what is there would be
refused. -/
theorem collectImports_cons {found : List Tree} {parent : Kind} {above : List Kind}
    {stack : List (Option Kind × Tree)} (inside : parent ≠ .program) : (tree : Tree) →
    (∀ place ∈ placesFrom above tree, place.tree.kind ≠ .program) →
    collectImports found ((some parent, tree) :: stack) =
      match firstNestedImport? parent tree with
      | some nested => .error nested
      | none => collectImports found stack
  | .node kind role span children => by
      intro inner
      have deeper : kind ≠ .program := inner _ List.mem_cons_self
      rw [collectImports, firstNestedImport?, Tree.kind, Tree.children]
      by_cases declares : kind = .importStatement
      · rw [if_pos declares, if_pos declares, if_neg (by simpa using inside), if_neg inside]
      · rw [if_neg declares, if_neg declares, pushAll_eq_append]
        exact collectImports_append deeper children fun place member =>
          inner place (List.mem_cons_of_mem _ member)

theorem collectImports_append {found : List Tree} {parent : Kind} {above : List Kind}
    {stack : List (Option Kind × Tree)} (inside : parent ≠ .program) : (trees : List Tree) →
    (∀ place ∈ placesIn above trees, place.tree.kind ≠ .program) →
    collectImports found (trees.map (fun tree => (some parent, tree)) ++ stack) =
      match firstNestedImportIn? parent trees with
      | some nested => .error nested
      | none => collectImports found stack
  | [] => fun _ => rfl
  | tree :: others => by
      intro inner
      rw [List.map_cons, List.cons_append, firstNestedImportIn?,
        collectImports_cons inside tree fun place member =>
          inner place (List.mem_append_left _ member)]
      cases firstNestedImport? parent tree with
      | some nested => rfl
      | none =>
          exact collectImports_append inside others fun place member =>
            inner place (List.mem_append_right _ member)

end

/-- Of the statements of a script the import declarations are collected. -/
theorem collectImports_statements {statements : List Tree}
    (inner : ∀ place ∈ placesIn [.program] statements, place.tree.kind ≠ .program)
    (found : List Tree) :
    collectImports found (statements.map fun tree => (some .program, tree)) =
      match firstNestedImportIn? .program statements with
      | some nested => .error nested
      | none => .ok (found ++ statements.filter fun tree => tree.kind = .importStatement) := by
  induction statements generalizing found with
  | nil => simp [collectImports, firstNestedImportIn?]
  | cons tree others inductionHypothesis =>
      have later := inductionHypothesis fun place member =>
        inner place (List.mem_append_right _ member)
      rcases tree with ⟨kind, role, span, children⟩
      rw [List.map_cons, collectImports, firstNestedImportIn?, firstNestedImport?, Tree.kind,
        Tree.children]
      by_cases declares : kind = .importStatement
      · rw [if_pos declares, if_pos declares, if_pos (by simp), if_pos rfl, later]
        simp [Tree.kind, declares]
      · have deeper : kind ≠ .program := inner _ (List.mem_append_left _ List.mem_cons_self)
        rw [if_neg declares, if_neg declares, pushAll_eq_append,
          collectImports_append deeper children fun place member =>
            inner place (List.mem_append_left _ (List.mem_cons_of_mem _ member))]
        cases firstNestedImportIn? kind children with
        | some nested => rfl
        | none => simpa [Tree.kind, declares] using later found

mutual

/-- The first import declaration that is nested is that of the first such place, where
no declaration stands in another one. -/
theorem firstNestedImport?_eq_find? {parent : Kind} {above : List Kind} : (tree : Tree) →
    (∀ place ∈ placesFrom (parent :: above) tree,
      place.tree.kind = .importStatement → .importStatement ∉ place.above) →
    firstNestedImport? parent tree =
      ((placesFrom (parent :: above) tree).find? Place.isNested).map Place.tree
  | .node kind role span children => by
      intro flat
      rw [firstNestedImport?, placesFrom, List.find?_cons]
      by_cases declares : kind = .importStatement
      · have bare : (placesIn (kind :: parent :: above) children).find? Place.isNested = none := by
          rw [List.find?_eq_none]
          intro place member nested
          rw [Place.isNested, Bool.and_eq_true, decide_eq_true_eq] at nested
          refine flat place (List.mem_cons_of_mem _ member) nested.1 ?_
          refine (suffix_of_mem_placesIn _ children member).subset ?_
          rw [declares]
          exact List.mem_cons_self
        rw [if_pos declares, bare]
        by_cases direct : parent = .program
        · simp [Place.isNested, Tree.kind, declares, direct]
        · have apart : (some parent != some Kind.program) = true :=
            bne_iff_ne.mpr (mt Option.some.inj direct)
          simp [Place.isNested, Tree.kind, declares, direct, apart]
      · have unnested : Place.isNested ⟨parent :: above, .node kind role span children⟩ =
            false := by
          simp [Place.isNested, Tree.kind, declares]
        rw [if_neg declares, unnested]
        exact firstNestedImportIn?_eq_find? children fun place member =>
          flat place (List.mem_cons_of_mem _ member)

theorem firstNestedImportIn?_eq_find? {parent : Kind} {above : List Kind} :
    (trees : List Tree) →
    (∀ place ∈ placesIn (parent :: above) trees,
      place.tree.kind = .importStatement → .importStatement ∉ place.above) →
    firstNestedImportIn? parent trees =
      ((placesIn (parent :: above) trees).find? Place.isNested).map Place.tree
  | [] => fun _ => rfl
  | tree :: others => by
      intro flat
      have here := firstNestedImport?_eq_find? tree fun place member =>
        flat place (List.mem_append_left _ member)
      have behind := firstNestedImportIn?_eq_find? others fun place member =>
        flat place (List.mem_append_right _ member)
      rw [firstNestedImportIn?, placesIn, List.find?_append, here, behind]
      cases (placesFrom (parent :: above) tree).find? Place.isNested <;> rfl

end

/-! ## What the walks come to -/

/-- The tree is that of a script: its root is one, nothing below the root is, and
declarations of imports do not stand in one another. -/
structure IsScript (program : Tree) : Prop where
  root : program.kind = .program
  only : ∀ place ∈ program.places, place.tree.kind = .program → place.above = []
  flat : ∀ place ∈ program.places,
    place.tree.kind = .importStatement → .importStatement ∉ place.above

instance (program : Tree) : Decidable program.IsScript :=
  decidable_of_iff
    (program.kind = .program ∧
      (∀ place ∈ program.places, place.tree.kind = .program → place.above = []) ∧
      ∀ place ∈ program.places,
        place.tree.kind = .importStatement → .importStatement ∉ place.above)
    ⟨fun ⟨root, only, flat⟩ => ⟨root, only, flat⟩,
      fun script => ⟨script.root, script.only, script.flat⟩⟩

/-- The tree is one of module code. -/
structure IsModule (source : Source) (program : Tree) : Prop where
  /-- Every `return` stands in a function. -/
  returns : ∀ place ∈ program.places, place.tree.kind = .returnStatement →
    ∃ kind ∈ place.above, kind.isFunction = true
  /-- There is no `with` statement. -/
  narrow : ∀ place ∈ program.places, place.tree.kind ≠ .withStatement
  /-- There is no markup. -/
  unmarked : ∀ place ∈ program.places, place.tree.kind.isMarkup = false
  /-- No name is bound twice at the top. -/
  unrepeated : firstClash? (bindings source program) = none
  /-- Every import declaration stands directly below the root. -/
  direct : ∀ place ∈ program.places, place.tree.kind = .importStatement →
    place.above = [.program]

instance (source : Source) (program : Tree) : Decidable (IsModule source program) :=
  decidable_of_iff
    ((∀ place ∈ program.places, place.tree.kind = .returnStatement →
        ∃ kind ∈ place.above, kind.isFunction = true) ∧
      (∀ place ∈ program.places, place.tree.kind ≠ .withStatement) ∧
      (∀ place ∈ program.places, place.tree.kind.isMarkup = false) ∧
      (firstClash? (bindings source program)).isNone = true ∧
      ∀ place ∈ program.places, place.tree.kind = .importStatement → place.above = [.program])
    ⟨fun ⟨returns, narrow, unmarked, unrepeated, direct⟩ =>
        ⟨returns, narrow, unmarked, Option.isNone_iff_eq_none.mp unrepeated, direct⟩,
      fun modular => ⟨modular.returns, modular.narrow, modular.unmarked,
        Option.isNone_iff_eq_none.mpr modular.unrepeated, modular.direct⟩⟩

/-- The node which shows that the tree is not one of module code. -/
inductive IsRefused (source : Source) (program : Tree) : Violation → Prop where
  /-- The first of all nodes that break a rule. -/
  | broken {before behind : List Place} {place : Place} {fault : Fault}
      (split : program.places = before ++ place :: behind)
      (first : ∀ other ∈ before, ∀ fault, ¬other.Breaks fault) (breaks : place.Breaks fault) :
      IsRefused source program ⟨fault, place.tree⟩
  /-- Where none does, the name that is bound a second time. -/
  | redeclared {binding : Binding}
      (kept : ∀ place ∈ program.places, ∀ fault, ¬place.Breaks fault)
      (clash : firstClash? (bindings source program) = some binding) :
      IsRefused source program ⟨.redeclared binding.name, binding.tree⟩
  /-- Where no name is either, the first of the import declarations that do not stand
  directly below the root. -/
  | nestedImport {before behind : List Place} {place : Place}
      (kept : ∀ place ∈ program.places, ∀ fault, ¬place.Breaks fault)
      (unrepeated : firstClash? (bindings source program) = none)
      (split : program.places = before ++ place :: behind)
      (first : ∀ other ∈ before, other.tree.kind = .importStatement → other.above = [.program])
      (declares : place.tree.kind = .importStatement) (inside : place.above ≠ [.program]) :
      IsRefused source program ⟨.nestedImport, place.tree⟩

variable {source : Source} {program : Tree}

/-- An import declaration is nested if it stands anywhere but directly below the root. -/
theorem isNested_iff (script : program.IsScript) {place : Place}
    (member : place ∈ program.places) :
    place.isNested = true ↔
      place.tree.kind = .importStatement ∧ place.above ≠ [.program] := by
  rw [Place.isNested, Bool.and_eq_true, decide_eq_true_eq, bne_iff_ne]
  refine and_congr_right fun declares => not_congr ⟨fun parent => ?_, fun direct => ?_⟩
  · rcases exists_parent_of_mem_placesFrom [] program member with rfl | ⟨above, isPlace, same⟩
    · cases parent
    · rw [same, List.head?_cons, Option.some.injEq] at parent
      rw [same, parent, script.only above isPlace parent]
  · rw [direct, List.head?_cons]

/-- The first nested import of a script is that of the first such place. -/
theorem firstNestedImport?_program (script : program.IsScript) :
    firstNestedImport? .program program =
      (program.places.find? Place.isNested).map Place.tree := by
  rcases program with ⟨kind, role, span, statements⟩
  obtain rfl : kind = .program := script.root
  have unnested : Place.isNested ⟨[], .node .program role span statements⟩ = false := by
    simp [Place.isNested, Tree.kind]
  rw [firstNestedImport?, if_neg (by decide), places, placesFrom, List.find?_cons, unnested]
  exact firstNestedImportIn?_eq_find? statements fun place member =>
    script.flat place (List.mem_cons_of_mem _ member)

/-- The import declarations of a script are collected, unless there is a nested one. -/
theorem collectImports_program (script : program.IsScript) :
    collectImports [] [(none, program)] =
      match firstNestedImport? .program program with
      | some nested => .error nested
      | none => .ok program.imports := by
  rcases program with ⟨kind, role, span, statements⟩
  obtain rfl : kind = .program := script.root
  have inner : ∀ place ∈ placesIn [.program] statements, place.tree.kind ≠ .program := by
    intro place member isProgram
    have below := suffix_of_mem_placesIn _ statements member
    rw [script.only place (List.mem_cons_of_mem _ member) isProgram] at below
    cases List.suffix_nil.mp below
  rw [collectImports, Tree.kind, if_neg (by decide), pushAll_eq_append, List.append_nil,
    Tree.children, collectImports_statements inner, firstNestedImport?, if_neg (by decide)]
  rfl

/-- The walks refuse a tree, or collect its import declarations. -/
theorem walkModule_eq (source : Source) (script : program.IsScript) :
    walkModule source program =
      match program.places.findSome? Place.violation? with
      | some violation => .error violation
      | none =>
          match firstClash? (bindings source program) with
          | some binding => .error ⟨.redeclared binding.name, binding.tree⟩
          | none =>
              match program.places.find? Place.isNested with
              | some place => .error ⟨.nestedImport, place.tree⟩
              | none => .ok program.imports := by
  have rules : walkViolation? [(false, program)] = program.places.findSome? Place.violation? := by
    rw [walkViolation?_cons, walkViolation?, Option.or_none, firstViolation?_false]
  unfold walkModule
  rw [rules, collectImports_program script, firstNestedImport?_program script]
  cases program.places.findSome? Place.violation? with
  | some violation => rfl
  | none =>
      cases firstClash? (bindings source program) with
      | some binding => rfl
      | none => cases program.places.find? Place.isNested <;> rfl

/-- No place breaks a rule exactly if no node of the tree does. -/
theorem findSome?_violation?_eq_none_iff {places : List Place} :
    places.findSome? Place.violation? = none ↔
      ∀ place ∈ places, ∀ fault, ¬place.Breaks fault := by
  simp only [List.findSome?_eq_none_iff, Place.violation?, Option.map_eq_none_iff,
    Place.fault?_eq_none_iff]

/-- Module code breaks no rule, binds no name twice and has no nested import. -/
theorem isModule_iff (script : program.IsScript) :
    IsModule source program ↔
      (∀ place ∈ program.places, ∀ fault, ¬place.Breaks fault) ∧
        firstClash? (bindings source program) = none ∧
        ∀ place ∈ program.places, place.isNested = false := by
  have nested : ∀ place ∈ program.places, place.isNested = false ↔
      (place.tree.kind = .importStatement → place.above = [.program]) := by
    intro place member
    rw [← Bool.not_eq_true, isNested_iff script member, not_and, not_not]
  constructor
  · intro modular
    refine ⟨?_, modular.unrepeated, fun place member =>
      (nested place member).mpr (modular.direct place member)⟩
    rintro place member fault (⟨returns, outside⟩ | widens | marked)
    · rcases modular.returns place member returns with ⟨kind, above, isFunction⟩
      rw [outside kind above] at isFunction
      cases isFunction
    · exact modular.narrow place member widens
    · rw [modular.unmarked place member] at marked
      cases marked
  · rintro ⟨kept, unrepeated, direct⟩
    refine ⟨?_, ?_, ?_, unrepeated, fun place member =>
      (nested place member).mp (direct place member)⟩
    · intro place member returns
      by_contra outside
      refine kept place member _ (.strayReturn returns fun kind above => ?_)
      rw [← Bool.not_eq_true]
      exact fun isFunction => outside ⟨kind, above, isFunction⟩
    · exact fun place member widens => kept place member _ (.withStatement widens)
    · intro place member
      rw [← Bool.not_eq_true]
      exact fun marked => kept place member _ (.markup marked)

/-- The first place of a nested import, and what comes before it. -/
theorem find?_isNested_eq_some_iff (script : program.IsScript) {place : Place} :
    program.places.find? Place.isNested = some place ↔
      ∃ before behind, program.places = before ++ place :: behind ∧
        (∀ other ∈ before, other.tree.kind = .importStatement → other.above = [.program]) ∧
        place.tree.kind = .importStatement ∧ place.above ≠ [.program] := by
  rw [List.find?_eq_some_iff_append]
  constructor
  · rintro ⟨nested, before, behind, split, first⟩
    refine ⟨before, behind, split, fun other member declares => ?_,
      (isNested_iff script (by rw [split]; simp)).mp nested⟩
    by_contra inside
    have found := (isNested_iff script (by rw [split]; simp [member])).mpr ⟨declares, inside⟩
    simpa [found] using first other member
  · rintro ⟨before, behind, split, first, declares, inside⟩
    refine ⟨(isNested_iff script (by rw [split]; simp)).mpr ⟨declares, inside⟩, before, behind,
      split, fun other member => ?_⟩
    rw [Bool.not_eq_true', ← Bool.not_eq_true, isNested_iff script (by rw [split]; simp [member])]
    exact fun nested => nested.2 (first other member nested.1)

/-- A tree is refused with the first place that breaks a rule, with the first clash, or
with the first nested import. -/
theorem isRefused_iff (script : program.IsScript) {violation : Violation} :
    IsRefused source program violation ↔
      program.places.findSome? Place.violation? = some violation ∨
        program.places.findSome? Place.violation? = none ∧
          ((∃ binding, firstClash? (bindings source program) = some binding ∧
              violation = ⟨.redeclared binding.name, binding.tree⟩) ∨
            firstClash? (bindings source program) = none ∧
              ∃ place, program.places.find? Place.isNested = some place ∧
                violation = ⟨.nestedImport, place.tree⟩) := by
  constructor
  · rintro (⟨split, first, breaks⟩ | ⟨kept, clash⟩ |
      ⟨kept, unrepeated, split, first, declares, inside⟩)
    · left
      rw [List.findSome?_eq_some_iff]
      refine ⟨_, _, _, split, ?_, fun other member => ?_⟩
      · rw [Place.violation?, Place.fault?_eq_some_iff.mpr breaks]
        rfl
      · rw [Place.violation?, Place.fault?_eq_none_iff.mpr (first other member)]
        rfl
    · exact Or.inr ⟨findSome?_violation?_eq_none_iff.mpr kept, Or.inl ⟨_, clash, rfl⟩⟩
    · exact Or.inr ⟨findSome?_violation?_eq_none_iff.mpr kept, Or.inr ⟨unrepeated, _,
        (find?_isNested_eq_some_iff script).mpr ⟨_, _, split, first, declares, inside⟩, rfl⟩⟩
  · rintro (broken | ⟨kept, ⟨binding, clash, rfl⟩ | ⟨unrepeated, place, found, rfl⟩⟩)
    · rcases List.findSome?_eq_some_iff.mp broken with
        ⟨before, place, behind, split, here, first⟩
      rcases Option.map_eq_some_iff.mp here with ⟨fault, breaks, rfl⟩
      exact .broken split (fun other member => Place.fault?_eq_none_iff.mp
        (Option.map_eq_none_iff.mp (first other member))) (Place.fault?_eq_some_iff.mp breaks)
    · exact .redeclared (findSome?_violation?_eq_none_iff.mp kept) clash
    · rcases (find?_isNested_eq_some_iff script).mp found with
        ⟨before, behind, split, first, declares, inside⟩
      exact .nestedImport (findSome?_violation?_eq_none_iff.mp kept) unrepeated split first
        declares inside

/-- The walks over the tree of a script collect its import declarations exactly if it is
one of module code, and then those directly below the root, in source order.  Otherwise
they come to the first node that breaks a rule, or else to the name that is bound a
second time, or else to the first nested import.  A survey checks the tree alike. -/
theorem walkModule_decides (source : Source) (script : program.IsScript) :
    (∀ imports, walkModule source program = .ok imports ↔
        IsModule source program ∧ imports = program.imports) ∧
      (∀ violation, walkModule source program = .error violation ↔
        IsRefused source program violation) ∧
      (walkModule source program).mapError
          (fun violation => source.failure violation.fault violation.tree) =
        (checkModule source program).map fun _ => program.imports := by
  have checked : (walkModule source program).mapError
        (fun violation => source.failure violation.fault violation.tree) =
      (checkModule source program).map fun _ => program.imports := by
    rw [walkModule_eq source script, checkModule, firstViolation?_false,
      firstNestedImport?_program script]
    cases program.places.findSome? Place.violation? with
    | some violation => rfl
    | none =>
        cases firstClash? (bindings source program) with
        | some binding => rfl
        | none => cases program.places.find? Place.isNested <;> rfl
  refine ⟨fun imports => ?_, fun violation => ?_, checked⟩
  · rw [walkModule_eq source script, isModule_iff script, ← findSome?_violation?_eq_none_iff]
    have unnested : (∀ place ∈ program.places, place.isNested = false) ↔
        program.places.find? Place.isNested = none := by simp
    rw [unnested]
    cases program.places.findSome? Place.violation? with
    | some violation => simp
    | none =>
        cases firstClash? (bindings source program) with
        | some binding => simp
        | none => cases program.places.find? Place.isNested <;> simp [eq_comm]
  · rw [walkModule_eq source script, isRefused_iff script]
    cases program.places.findSome? Place.violation? with
    | some other => simp
    | none =>
        cases firstClash? (bindings source program) with
        | some binding => simp [eq_comm]
        | none => cases program.places.find? Place.isNested <;> simp [eq_comm]

/-- Two imports around a function that returns are collected.  Of an import and a
`return` in a block it is the `return` that is refused, since the rules come first. -/
theorem walkModule_decides_return :
    let accepted :=
      text "import a from './a.js';\nlet f = () => \x7breturn a;\x7d;\nimport './b.js';\n"
    let refused := text "if (x) \x7bimport './a.js'; return 1;\x7d"
    (∃ program, parseScriptBy parse? accepted = .ok program ∧ program.IsScript ∧
      walkModule (Source.ofText accepted) program = .ok program.imports ∧
        program.imports.length = 2) ∧
      ∃ program violation, parseScriptBy parse? refused = .ok program ∧ program.IsScript ∧
        walkModule (Source.ofText refused) program = .error violation ∧
          violation.fault = .strayReturn := by
  intro accepted refused
  have first : (parseScriptBy parse? accepted).toOption.any (fun program =>
      program.IsScript ∧ IsModule (Source.ofText accepted) program ∧
        program.imports.length = 2) = true := by decide +kernel
  have second : (parseScriptBy parse? refused).toOption.any (fun program =>
      program.IsScript ∧
        (program.firstViolation? false).map Violation.fault = some .strayReturn) = true := by
    decide +kernel
  constructor
  · cases parsed : parseScriptBy parse? accepted with
    | error failure =>
        rw [parsed] at first
        cases first
    | ok program =>
        rw [parsed] at first
        rcases decide_eq_true_eq.mp first with ⟨script, modular, two⟩
        have walked := (walkModule_decides (Source.ofText accepted) script).1
        exact ⟨program, rfl, script, (walked _).mpr ⟨modular, rfl⟩, two⟩
  · cases parsed : parseScriptBy parse? refused with
    | error failure =>
        rw [parsed] at second
        cases second
    | ok program =>
        rw [parsed] at second
        rcases decide_eq_true_eq.mp second with ⟨script, broken⟩
        rcases Option.map_eq_some_iff.mp broken with ⟨violation, found, fault⟩
        have shown : IsRefused (Source.ofText refused) program violation :=
          (isRefused_iff script).mpr (Or.inl ((firstViolation?_false program).symm.trans found))
        have walked := (walkModule_decides (Source.ofText refused) script).2.1
        exact ⟨program, violation, rfl, script, (walked violation).mpr shown, fault⟩

end Tree

end Respecify.JavaScript
