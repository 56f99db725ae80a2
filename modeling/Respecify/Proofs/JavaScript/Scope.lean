import Respecify.Import.Survey
import Respecify.Proofs.JavaScript.Binding

/-!
# Names bound twice

The names at the top of a script go into its scope one by one, in two collections: those
bound by `var`, and all others.  A name is refused if it is among the others, or if it is
among either and is not bound by `var` itself.  So the scope tells of the bindings before
a name all that decides on it, and the name refused is the first one that an earlier
binding excludes.
-/

namespace Respecify.JavaScript

/-! ## Bindings that exclude each other -/

namespace Binding

/-- Both bindings may stand at the top of one script: they are of different names, or both
are by `var`. -/
def Agrees (earlier later : Binding) : Prop :=
  earlier.name = later.name → earlier.repeatable = true ∧ later.repeatable = true

instance (earlier later : Binding) : Decidable (earlier.Agrees later) :=
  inferInstanceAs (Decidable (_ → _))

theorem clashes_eq_true_iff {earlier later : Binding} :
    earlier.clashes later = true ↔ ¬earlier.Agrees later := by
  rw [clashes, Bool.and_eq_true, Agrees, Classical.not_imp, beq_iff_eq, Bool.not_eq_true',
    ← Bool.and_eq_true, Bool.not_eq_true]

end Binding

/-- The binding is the first one that an earlier binding excludes. -/
def IsFirstClash (bindings : List Binding) (binding : Binding) : Prop :=
  ∃ before behind, bindings = before ++ binding :: behind ∧ before.Pairwise Binding.Agrees ∧
    ∃ earlier ∈ before, ¬earlier.Agrees binding

variable {earlier later : List Binding} {binding : Binding}

theorem any_clashes_eq_true_iff :
    earlier.any (·.clashes binding) = true ↔ ∃ other ∈ earlier, ¬other.Agrees binding := by
  simp only [List.any_eq_true, Binding.clashes_eq_true_iff]

theorem any_clashes_eq_false_iff :
    earlier.any (·.clashes binding) = false ↔ ∀ other ∈ earlier, other.Agrees binding := by
  rw [← Bool.not_eq_true, any_clashes_eq_true_iff]
  simp

/-- There is no clash exactly if all bindings may stand together. -/
theorem firstClashAfter?_eq_none_iff :
    firstClashAfter? earlier later = none ↔
      later.Pairwise Binding.Agrees ∧
        ∀ binding ∈ later, ∀ other ∈ earlier, other.Agrees binding := by
  induction later generalizing earlier with
  | nil => simp [firstClashAfter?]
  | cons binding later inductionHypothesis =>
      rw [firstClashAfter?, List.pairwise_cons, List.forall_mem_cons]
      split
      · rename_i clash
        rcases any_clashes_eq_true_iff.mp clash with ⟨other, member, excludes⟩
        simp only [reduceCtorEq, false_iff]
        exact fun agree => excludes (agree.2.1 other member)
      · rename_i agree
        rw [Bool.not_eq_true, any_clashes_eq_false_iff] at agree
        rw [inductionHypothesis]
        constructor
        · rintro ⟨apart, outside⟩
          exact ⟨⟨fun next member => outside next member binding List.mem_cons_self, apart⟩,
            agree, fun next member other before =>
              outside next member other (List.mem_cons_of_mem binding before)⟩
        · rintro ⟨⟨here, apart⟩, _, outside⟩
          exact ⟨apart, fun next member =>
            List.forall_mem_cons.mpr ⟨here next member, outside next member⟩⟩

/-- The clash that is found is the first one. -/
theorem firstClashAfter?_eq_some_iff :
    firstClashAfter? earlier later = some binding ↔
      ∃ before behind, later = before ++ binding :: behind ∧
        firstClashAfter? earlier before = none ∧
        ∃ other ∈ before.reverse ++ earlier, ¬other.Agrees binding := by
  induction later generalizing earlier with
  | nil => simp [firstClashAfter?]
  | cons first later inductionHypothesis =>
      constructor
      · intro found
        rw [firstClashAfter?] at found
        split at found
        · rename_i clash
          cases found
          exact ⟨[], later, rfl, rfl, any_clashes_eq_true_iff.mp clash⟩
        · rename_i agrees
          rcases inductionHypothesis.mp found with ⟨before, behind, split, apart, clash⟩
          refine ⟨first :: before, behind, by rw [split]; rfl, ?_, by simpa using clash⟩
          rw [firstClashAfter?, if_neg agrees, apart]
      · rintro ⟨before, behind, split, apart, clash⟩
        cases before with
        | nil =>
            cases split
            exact if_pos (any_clashes_eq_true_iff.mpr clash)
        | cons other before =>
            cases split
            rw [firstClashAfter?] at apart ⊢
            split at apart
            · cases apart
            · rename_i agrees
              rw [if_neg agrees]
              exact inductionHypothesis.mpr ⟨before, behind, rfl, apart, by simpa using clash⟩

theorem firstClash?_eq_none_iff :
    firstClash? later = none ↔ later.Pairwise Binding.Agrees := by
  rw [firstClash?, firstClashAfter?_eq_none_iff]
  simp

theorem firstClash?_eq_some_iff :
    firstClash? later = some binding ↔ IsFirstClash later binding := by
  simp only [firstClash?, firstClashAfter?_eq_some_iff, IsFirstClash,
    firstClashAfter?_eq_none_iff, List.append_nil, List.mem_reverse]
  simp

/-! ## Scopes -/

/-- The names bound so far. -/
structure Scope where
  /-- The names bound by `var`. -/
  byVar : List Text
  /-- The names bound in any other way. -/
  fixed : List Text

namespace Scope

/-- The scope with one more name, unless it must not be bound again. -/
def bind? (scope : Scope) (binding : Binding) : Option Scope :=
  if scope.fixed.contains binding.name then none
  else if binding.repeatable then some { scope with byVar := binding.name :: scope.byVar }
  else if scope.byVar.contains binding.name then none
  else some { scope with fixed := binding.name :: scope.fixed }

/-- Bind a name, or fail where it stands. -/
def bind (source : Source) (scope : Scope) (binding : Binding) : Except Failure Scope :=
  match scope.bind? binding with
  | some after => .ok after
  | none => .error (source.failure (.redeclared binding.name) binding.tree)

/-- Bind the names of a statement. -/
def bindStatement (source : Source) (scope : Scope) (statement : Tree) : Except Failure Scope :=
  let (repeatable, names) := statement.statementNames
  names.foldlM (fun scope name => scope.bind source (Tree.bindingOf source repeatable name)) scope

/-- The scope tells which names the bindings so far bind, and how. -/
structure Holds (scope : Scope) (earlier : List Binding) : Prop where
  byVar : ∀ name, name ∈ scope.byVar ↔
    ∃ binding ∈ earlier, binding.name = name ∧ binding.repeatable = true
  fixed : ∀ name, name ∈ scope.fixed ↔
    ∃ binding ∈ earlier, binding.name = name ∧ binding.repeatable = false

variable {scope : Scope}

theorem holds_nil : Holds ⟨[], []⟩ [] := by
  constructor <;> simp

/-- A name is refused exactly if an earlier binding excludes it. -/
theorem Holds.bind?_eq_none_iff (holds : scope.Holds earlier) :
    scope.bind? binding = none ↔ earlier.any (·.clashes binding) = true := by
  have excluded : (∃ other ∈ earlier, ¬other.Agrees binding) ↔
      binding.name ∈ scope.fixed ∨ binding.repeatable = false ∧ binding.name ∈ scope.byVar := by
    rw [holds.fixed, holds.byVar]
    constructor
    · rintro ⟨other, member, excludes⟩
      rw [Binding.Agrees, Classical.not_imp, not_and_or, Bool.not_eq_true, Bool.not_eq_true]
        at excludes
      rcases excludes with ⟨same, once | once⟩
      · exact Or.inl ⟨other, member, same, once⟩
      · cases again : other.repeatable with
        | true => exact Or.inr ⟨once, other, member, same, again⟩
        | false => exact Or.inl ⟨other, member, same, again⟩
    · rintro (⟨other, member, same, once⟩ | ⟨once, other, member, same, _⟩)
      · exact ⟨other, member, fun agrees => by simp [(agrees same).1] at once⟩
      · exact ⟨other, member, fun agrees => by simp [(agrees same).2] at once⟩
  rw [any_clashes_eq_true_iff, excluded, bind?]
  cases binding.repeatable <;> by_cases fixed : binding.name ∈ scope.fixed <;>
    by_cases byVar : binding.name ∈ scope.byVar <;> simp [fixed, byVar]

/-- A name that is bound belongs to the bindings so far. -/
theorem Holds.cons {after : Scope} (holds : scope.Holds earlier)
    (bound : scope.bind? binding = some after) : after.Holds (binding :: earlier) := by
  rw [bind?] at bound
  split at bound
  · cases bound
  · split at bound
    · rename_i repeatable
      cases bound
      constructor <;> intro name
      · simp [holds.byVar, repeatable, @eq_comm _ name]
      · simp [holds.fixed, repeatable]
    · rename_i once
      split at bound
      · cases bound
      · cases bound
        constructor <;> intro name
        · simp [holds.byVar, once]
        · simp [holds.fixed, once, @eq_comm _ name]

/-- Names are bound one by one up to the first clash, with the scope telling of all names
before. -/
theorem Holds.foldlM_bind (source : Source) (holds : scope.Holds earlier)
    (later : List Binding) :
    match firstClashAfter? earlier later with
    | some binding =>
        later.foldlM (bind source) scope =
          .error (source.failure (.redeclared binding.name) binding.tree)
    | none =>
        ∃ after, later.foldlM (bind source) scope = .ok after ∧
          after.Holds (later.reverse ++ earlier) := by
  induction later generalizing scope earlier with
  | nil => exact ⟨scope, rfl, holds⟩
  | cons binding later inductionHypothesis =>
      rw [firstClashAfter?, List.foldlM_cons, bind]
      cases bound : scope.bind? binding with
      | none =>
          rw [if_pos (holds.bind?_eq_none_iff.mp bound)]
          rfl
      | some after =>
          have agrees : ¬earlier.any (·.clashes binding) = true := by
            rw [← holds.bind?_eq_none_iff, bound]
            simp
          rw [if_neg agrees, List.reverse_cons, List.append_assoc]
          exact inductionHypothesis (holds.cons bound)

end Scope

/-- Bind the names of a script statement by statement, and fail at the first one that
must not be bound again. -/
def checkBindings (source : Source) (program : Tree) : Except Failure Unit := do
  let _ ← program.children.foldlM (Scope.bindStatement source) ⟨[], []⟩

/-- Statement by statement the bindings of a script are bound. -/
theorem foldlM_bindStatement (source : Source) (scope : Scope) (statements : List Tree) :
    statements.foldlM (Scope.bindStatement source) scope =
      (statements.flatMap fun statement => statement.statementNames.2.map
        (Tree.bindingOf source statement.statementNames.1)).foldlM (Scope.bind source) scope := by
  induction statements generalizing scope with
  | nil => rfl
  | cons statement statements inductionHypothesis =>
      rw [List.flatMap_cons, List.foldlM_append, List.foldlM_cons, List.foldlM_map]
      congr 1
      funext after
      exact inductionHypothesis after

/-- Binding the names of a script fails at the first clash of its bindings. -/
theorem checkBindings_eq (source : Source) (program : Tree) :
    checkBindings source program =
      match firstClash? (bindings source program) with
      | some binding => .error (source.failure (.redeclared binding.name) binding.tree)
      | none => .ok () := by
  have bound := Scope.holds_nil.foldlM_bind source (bindings source program)
  have collected : program.children.foldlM (Scope.bindStatement source) ⟨[], []⟩ =
      (bindings source program).foldlM (Scope.bind source) ⟨[], []⟩ :=
    foldlM_bindStatement source ⟨[], []⟩ program.children
  rw [checkBindings, collected]
  unfold firstClash?
  split at bound
  · rw [bound]
    rfl
  · rcases bound with ⟨after, bound, _⟩
    rw [bound]
    rfl

/-- The names bound at the top of a script may stand together exactly if each two of them
are different or both by `var`.  Otherwise the check fails where the first of them stands
that an earlier one excludes.  A survey finds the same clash. -/
theorem checkBindings_decides (source : Source) {program : Tree}
    (shaped : program.IsDeclaring) :
    (checkBindings source program = .ok () ↔
        (program.bound source).Pairwise Binding.Agrees) ∧
      (∀ failure, checkBindings source program = .error failure ↔
        ∃ binding, IsFirstClash (program.bound source) binding ∧
          failure = source.failure (.redeclared binding.name) binding.tree) ∧
      checkBindings source program =
        match firstClash? (bindings source program) with
        | some binding => .error (source.failure (.redeclared binding.name) binding.tree)
        | none => .ok () := by
  refine ⟨?_, fun failure => ?_, checkBindings_eq source program⟩
  · rw [checkBindings_eq, ← firstClash?_eq_none_iff, ← Tree.bindings_eq_bound source shaped]
    cases firstClash? (bindings source program) <;> simp
  · rw [checkBindings_eq]
    simp only [← firstClash?_eq_some_iff, ← Tree.bindings_eq_bound source shaped]
    cases firstClash? (bindings source program) <;> simp [eq_comm]

/-- A name may be bound by `var` several times, and the original name of an import, keys
and default values bind nothing.  Of two clashes the one that shows first is refused. -/
theorem checkBindings_decides_two_scripts :
    let accepted := text ("import d, \x7ba as b\x7d from './a.js'; var [x, ...y] = d; " ++
      "export var \x7bk: x, [b]: z = b\x7d = y; let \x7ba\x7d = z;")
    let refused := text "var x; let y = x; export function x() \x7b\x7d let y;"
    (∃ program, parseScriptBy parse? accepted = .ok program ∧ program.IsDeclaring ∧
      (program.bound (Source.ofText accepted)).map Binding.name =
        [text "d", text "b", text "x", text "y", text "x", text "z", text "a"] ∧
      checkBindings (Source.ofText accepted) program = .ok ()) ∧
      ∃ program failure, parseScriptBy parse? refused = .ok program ∧ program.IsDeclaring ∧
        checkBindings (Source.ofText refused) program = .error failure ∧
          failure.fault = .redeclared (text "x") := by
  intro accepted refused
  have first : (parseScriptBy parse? accepted).toOption.any (fun program =>
      program.IsDeclaring ∧
        (program.bound (Source.ofText accepted)).map Binding.name =
          [text "d", text "b", text "x", text "y", text "x", text "z", text "a"] ∧
        (program.bound (Source.ofText accepted)).Pairwise Binding.Agrees) = true := by
    decide +kernel
  have second : (parseScriptBy parse? refused).toOption.any (fun program =>
      program.IsDeclaring ∧
        (firstClash? (bindings (Source.ofText refused) program)).map Binding.name =
          some (text "x")) = true := by
    decide +kernel
  constructor
  · cases parsed : parseScriptBy parse? accepted with
    | error failure =>
        rw [parsed] at first
        cases first
    | ok program =>
        rw [parsed] at first
        rcases decide_eq_true_eq.mp first with ⟨shaped, names, agree⟩
        exact ⟨program, rfl, shaped, names,
          (checkBindings_decides (Source.ofText accepted) shaped).1.mpr agree⟩
  · cases parsed : parseScriptBy parse? refused with
    | error failure =>
        rw [parsed] at second
        cases second
    | ok program =>
        rw [parsed] at second
        rcases decide_eq_true_eq.mp second with ⟨shaped, clash⟩
        rcases Option.map_eq_some_iff.mp clash with ⟨binding, found, name⟩
        have checked := (checkBindings_decides (Source.ofText refused) shaped).2.2
        rw [found] at checked
        exact ⟨program, _, rfl, shaped, checked, by rw [Source.failure, name]⟩

end Respecify.JavaScript
