import Respecify.Proofs.Order
import Respecify.Proofs.Workspace.Proper

/-!
# Texts that are saved and loaded again

Saving scripts that were loaded replaces the bytes of files in their places.  So the
workspace is walked in the same order when it is loaded again, and each script is found
under its name with the text that it was given.  What is no such file is not touched,
and a script that has its text is not written.  Loaded scripts have relative names, so
that none is looked for outside of the tree, and none is refused for a reason of which
the tree knows nothing, such as a missing permission.
-/

namespace Respecify

/-! ## Files that are replaced -/

namespace FileTree

variable {tree before between after : FileTree} {root place : Place} {location : Location}

theorem putIn_putIn (place : Place) (first last : Node) (entries : List (Place × Node)) :
    putIn place last (putIn place first entries) = putIn place last entries := by
  induction entries with
  | nil => exact if_pos rfl
  | cons entry entries inductionHypothesis =>
      rw [putIn, putIn]
      split
      · exact if_pos rfl
      · rename_i elsewhere
        rw [putIn, if_neg elsewhere, inductionHypothesis]

theorem put_put (tree : FileTree) (place : Place) (first last : Node) :
    (tree.put place first).put place last = tree.put place last := by
  rw [put, put, put, putIn_putIn]

/-- Replacing what stands at a place leaves the places in their order. -/
theorem map_fst_put (filled : place ≠ []) (present : (tree.node? place).isSome = true)
    (node : Node) : (tree.put place node).entries.map Prod.fst = tree.entries.map Prod.fst := by
  rcases Option.isSome_iff_exists.mp present with ⟨old, found⟩
  have member : place ∈ tree.entries.map Prod.fst :=
    List.mem_map.mpr ⟨(place, old), mem_entries_of_node? filled found, rfl⟩
  change (putIn place node tree.entries).map Prod.fst = _
  rw [map_fst_putIn, if_pos member]

/-- A directory below a location is one that can be started from. -/
theorem IsRooted.below {below : List Text} (rooted : tree.IsRooted location root)
    (ordinary : ∀ name ∈ below, name ≠ up)
    (directory : tree.node? (root ++ below) = some .directory) :
    tree.IsRooted ⟨location.anchor, location.names ++ below⟩ (root ++ below) := by
  refine ⟨?_, directory, rooted.nested⟩
  rcases List.eq_nil_or_concat below with rfl | ⟨middle, last, rfl⟩
  · rw [List.append_nil, List.append_nil]
    exact rooted.place
  · rw [List.concat_eq_append] at ordinary directory ⊢
    refine rooted.place?_of_directory ordinary (rooted.nested _ last ?_)
    rw [List.append_assoc, directory]
    rfl

/-- From one tree to the other, scripts were saved by replacing the texts of their files,
as far as those had other texts. -/
structure IsRewritten (before : FileTree) (root : Place) (savings : List Saving)
    (after : FileTree) : Prop where
  held : ∀ saving ∈ savings, (before.text? (saving.place root)).isSome = true
  places : after.entries.map Prod.fst = before.entries.map Prod.fst
  written : ∀ saving ∈ savings, after.text? (saving.place root) = some saving.script.code
  kept : ∀ place,
    (∀ saving ∈ savings, saving.place root = place →
      before.text? place = some saving.script.code) →
    after.node? place = before.node? place

namespace IsRewritten

variable {saving : Saving} {savings : List Saving}

theorem nil (tree : FileTree) (root : Place) : tree.IsRewritten root [] tree :=
  ⟨fun _ member => absurd member List.not_mem_nil, rfl,
    fun _ member => absurd member List.not_mem_nil, fun _ _ => rfl⟩

/-- A script is saved, and then others in other places. -/
theorem cons (first : before.IsRewritten root [saving] between)
    (others : between.IsRewritten root savings after)
    (apart : saving.place root ∉ savings.map (Saving.place root)) :
    before.IsRewritten root (saving :: savings) after := by
  have elsewhere : ∀ other ∈ savings, saving.place root ≠ other.place root :=
    fun other member same => apart (List.mem_map.mpr ⟨other, member, same.symm⟩)
  constructor
  · rw [List.forall_mem_cons]
    refine ⟨first.held saving (List.mem_singleton_self saving), fun other member => ?_⟩
    have same := first.kept (other.place root) fun here hereMember there => by
      cases List.mem_singleton.mp hereMember
      exact absurd there (elsewhere other member)
    rw [← text?_congr same]
    exact others.held other member
  · exact others.places.trans first.places
  · rw [List.forall_mem_cons]
    refine ⟨?_, others.written⟩
    have same := others.kept (saving.place root) fun other member there =>
      absurd there.symm (elsewhere other member)
    rw [text?_congr same]
    exact first.written saving (List.mem_singleton_self saving)
  · intro place unchanged
    rw [List.forall_mem_cons] at unchanged
    have here := first.kept place fun other member there => by
      cases List.mem_singleton.mp member
      exact unchanged.1 there
    rw [others.kept place fun other member there => ?_, here]
    rw [text?_congr here]
    exact unchanged.2 other member there

/-- What holds no text stays as it is. -/
theorem node?_of_text?_eq_none (rewritten : before.IsRewritten root savings after)
    (none : before.text? place = none) : after.node? place = before.node? place := by
  refine rewritten.kept place fun saving member there => ?_
  have some := rewritten.held saving member
  rw [there, none] at some
  cases some

theorem directory_iff (rewritten : before.IsRewritten root savings after) :
    after.node? place = some .directory ↔ before.node? place = some .directory := by
  by_cases saved : ∃ saving ∈ savings, saving.place root = place
  · rcases saved with ⟨saving, member, rfl⟩
    refine iff_of_false (fun directory => ?_) fun directory => ?_
    · have text := rewritten.written saving member
      rw [text?, directory] at text
      cases text
    · have text := rewritten.held saving member
      rw [text?, directory] at text
      cases text
  · rw [rewritten.kept place fun saving member there => absurd ⟨saving, member, there⟩ saved]

end IsRewritten

/-! ## The order of places -/

/-- The entry of a place below another one, with what stands there in the tree. -/
def renew (tree : FileTree) (place : Place) (entry : Place × Node) : Place × Node :=
  (entry.1, (tree.node? (place ++ entry.1)).getD entry.2)

theorem eq_map_renew {entries others : List (Place × Node)}
    (places : others.map Prod.fst = entries.map Prod.fst)
    (there : ∀ entry ∈ others, tree.node? entry.1 = some entry.2) :
    others = entries.map (tree.renew []) := by
  induction entries generalizing others with
  | nil => exact List.map_eq_nil_iff.mp places
  | cons entry entries inductionHypothesis =>
      rw [List.map_cons] at places
      rcases List.map_eq_cons_iff.mp places with ⟨other, behind, rfl, here, same⟩
      rw [List.forall_mem_cons] at there
      rw [List.map_cons, ← inductionHypothesis same there.2, renew, List.nil_append, ← here,
        there.1]
      rfl

/-- Trees of the same places are walked in the same order. -/
theorem sortedBelow_of_places (proper : after.IsProper)
    (places : after.entries.map Prod.fst = before.entries.map Prod.fst) (place : Place) :
    after.sortedBelow place = (before.sortedBelow place).map (after.renew place) := by
  have entries := eq_map_renew places fun entry => proper.node?_of_mem
  have sameBelow : after.below place = (before.below place).map (after.renew place) := by
    rw [below, entries, List.filterMap_map, below, List.map_filterMap]
    refine List.filterMap_congr fun entry _ => ?_
    rw [Function.comp_apply, renew, List.nil_append]
    split
    · rename_i within
      rw [Bool.and_eq_true, List.isPrefixOf_iff_prefix] at within
      rcases within.1 with ⟨rest, whole⟩
      rw [Option.map_some, renew, ← whole, List.drop_left]
    · rfl
  rw [sortedBelow, sortedBelow, sameBelow]
  exact Order.sort_map (fun _ _ => rfl) _

end FileTree

namespace Disk

open FileTree

variable {tree : FileTree} {location : Location} {root : Place} {below : List Text} {last : Text}

/-- A directory that is there need not be made for a file in it. -/
theorem perform_ensureParent_of_directory (rooted : tree.IsRooted location root)
    (ordinary : ∀ name ∈ below ++ [last], name ≠ up)
    (directory : tree.node? (root ++ below) = some .directory) :
    perform (ensureParent ⟨location.anchor, location.names ++ (below ++ [last])⟩) tree =
      (.ok (), tree) := by
  rw [ensureParent, Location.parent]
  dsimp only
  rw [← List.append_assoc, List.dropLast_concat]
  exact perform_ensureDirectories_of_rooted (rooted.below
    (fun name member => ordinary name (List.mem_append_left _ member)) directory)

/-- Writing a text in a file that is there replaces its bytes. -/
theorem perform_writeText_of_file {bytes : List Nat} {code : Text}
    (rooted : tree.IsRooted location root) (ordinary : ∀ name ∈ below ++ [last], name ≠ up)
    (file : tree.node? (root ++ (below ++ [last])) = some (.file bytes))
    (scalar : ∀ c ∈ code, isScalar c = true) :
    perform (writeText ⟨location.anchor, location.names ++ (below ++ [last])⟩ code) tree =
      (.ok (), tree.put (root ++ (below ++ [last])) (.file (Utf8.encode code))) := by
  have directory : tree.node? (root ++ below) = some .directory := by
    refine rooted.nested _ last ?_
    rw [List.append_assoc, file]
    rfl
  rw [perform_writeText, rooted.place?_of_directory ordinary directory]
  dsimp only
  rw [file, if_neg (by simp), Utf8.encode?, if_pos (List.all_eq_true.mpr scalar)]
  exact congrArg (Prod.mk (Except.ok ())) (put_put tree _ _ _)

end Disk

/-! ## Scripts with other texts -/

/-- The script with the text that is told for it. -/
def Script.recoded (code : Script → Text) (script : Script) : Script :=
  { script with code := code script }

/-- The server with the texts that are told for its scripts. -/
def Server.recoded (code : Script → Text) (server : Server) : Server :=
  { server with scripts := server.scripts.map (Script.recoded code) }

/-- The scripts of servers with the texts that are told for them, as they are saved. -/
def Saving.recoded (code : Script → Text) (servers : List Server) : List Saving :=
  servers.flatMap fun server =>
    server.scripts.map fun script => ⟨server.hostname, script.recoded code⟩

theorem Saving.mem_recoded_iff {code : Script → Text} {servers : List Server} {saving : Saving} :
    saving ∈ Saving.recoded code servers ↔
      ∃ server ∈ servers, ∃ script ∈ server.scripts,
        saving = ⟨server.hostname, script.recoded code⟩ := by
  simp only [Saving.recoded, List.mem_flatMap, List.mem_map, eq_comm]

/-- The place of a stored script tells its key. -/
theorem Server.IsStored.key_eq_of_place {tree : FileTree} {root : Place} {server : Server}
    {one other : Script} (stored : server.IsStored tree root) (member : one ∈ server.scripts)
    (otherMember : other ∈ server.scripts)
    (same : Saving.place root ⟨server.hostname, one⟩ =
      Saving.place root ⟨server.hostname, other⟩) : one.key = other.key := by
  rcases stored.scripts one member with ⟨names, there⟩
  rcases stored.scripts other otherMember with ⟨others, thereToo⟩
  have first : Saving.names ⟨server.hostname, one⟩ = server.hostname :: names :=
    Saving.names_of_key there.filled there.named there.key_eq
  have second : Saving.names ⟨server.hostname, other⟩ = server.hostname :: others :=
    Saving.names_of_key thereToo.filled thereToo.named thereToo.key_eq
  have sameNames : server.hostname :: names = server.hostname :: others :=
    first.symm.trans ((List.append_cancel_left same).trans second)
  rw [there.key_eq, thereToo.key_eq, List.tail_eq_of_cons_eq sameNames]

namespace Store

open FileTree

variable {store : Store} {tree after : FileTree} {root : Place} {servers : List Server}
  {server : Server} {saving : Saving} {savings : List Saving} {code : Script → Text}

/-! ## Saves that replace texts -/

/-- A script that has a file is stored if the file holds its text. -/
theorem perform_isStored_of_text? {old : Text} (rooted : tree.IsRooted store.root root)
    (named : saving.IsNamed) (held : tree.text? (saving.place root) = some old) :
    Disk.perform (store.isStored saving.hostname saving.script) tree =
      (.ok (decide (old = saving.script.code)), tree) := by
  have present : (tree.at? (store.scriptLocation saving.hostname saving.script.name)).isSome =
      true := by
    rcases text?_eq_some_iff.mp held with ⟨bytes, file, _⟩
    rw [at?_scriptLocation rooted named, file]
    rfl
  rw [perform_isStored, if_pos present, (readText_scriptLocation_iff rooted named).mpr held]
  rfl

/-- Saving a script that has a file compares the texts first. -/
theorem perform_saveScript_of_text? {old : Text} (rooted : tree.IsRooted store.root root)
    (named : saving.IsNamed) (held : tree.text? (saving.place root) = some old) :
    Disk.perform (store.saveScript saving.hostname saving.script) tree =
      if old = saving.script.code then (.ok (), tree)
      else
        Disk.perform (do
          Disk.ensureParent (store.scriptLocation saving.hostname saving.script.name)
          Disk.writeText (store.scriptLocation saving.hostname saving.script.name)
            saving.script.code) tree := by
  rw [saveScript, Disk.perform_bind, perform_isStored_of_text? rooted named held]
  by_cases same : old = saving.script.code
  · simp only [same, decide_true, if_true]
    rfl
  · simp only [same, decide_false, if_false]
    rfl

/-- A script is not written where its text is. -/
theorem perform_saveScript_of_held (rooted : tree.IsRooted store.root root)
    (named : saving.IsNamed) (held : tree.text? (saving.place root) = some saving.script.code) :
    Disk.perform (store.saveScript saving.hostname saving.script) tree = (.ok (), tree) := by
  rw [perform_saveScript_of_text? rooted named held, if_pos rfl]

/-- A script whose file has another text replaces it. -/
theorem perform_saveScript_of_differs {old : Text} (rooted : tree.IsRooted store.root root)
    (named : saving.IsNamed) (held : tree.text? (saving.place root) = some old)
    (differs : old ≠ saving.script.code) (scalar : ∀ c ∈ saving.script.code, isScalar c = true) :
    Disk.perform (store.saveScript saving.hostname saving.script) tree =
      (.ok (), tree.put (saving.place root) (.file (Utf8.encode saving.script.code))) := by
  rcases text?_eq_some_iff.mp held with ⟨bytes, file, _⟩
  rw [perform_saveScript_of_text? rooted named held, if_neg differs, Disk.perform_bind]
  rcases List.eq_nil_or_concat saving.names with none | ⟨middle, last, whole⟩
  · exact absurd none (List.cons_ne_nil _ _)
  · rw [List.concat_eq_append] at whole
    have ordinary := named.ordinary
    have located := named.scriptLocation_eq store
    rw [whole] at ordinary located
    rw [Saving.place, whole] at file ⊢
    have directory : tree.node? (root ++ middle) = some .directory := by
      refine rooted.nested _ last ?_
      rw [List.append_assoc, file]
      rfl
    rw [located, Disk.perform_ensureParent_of_directory rooted ordinary directory]
    exact Disk.perform_writeText_of_file rooted ordinary file scalar

/-- Saving a script that has a file replaces its text at most. -/
theorem exists_isRewritten_of_saveScript (rooted : tree.IsRooted store.root root)
    (named : saving.IsNamed) (held : (tree.text? (saving.place root)).isSome = true)
    (scalar : ∀ c ∈ saving.script.code, isScalar c = true) :
    ∃ after, Disk.perform (store.saveScript saving.hostname saving.script) tree =
        (.ok (), after) ∧ tree.IsRewritten root [saving] after := by
  rcases Option.isSome_iff_exists.mp held with ⟨old, found⟩
  have isHeld : ∀ other ∈ [saving], (tree.text? (other.place root)).isSome = true := by
    intro other member
    rwa [List.mem_singleton.mp member]
  by_cases same : old = saving.script.code
  · refine ⟨tree, perform_saveScript_of_held rooted named (same ▸ found), isHeld, rfl, ?_,
      fun _ _ => rfl⟩
    intro other member
    rw [List.mem_singleton.mp member, found, same]
  · have filled := saving.place_ne_nil root
    refine ⟨_, perform_saveScript_of_differs rooted named found same scalar, isHeld, ?_, ?_, ?_⟩
    · rcases text?_eq_some_iff.mp found with ⟨bytes, file, _⟩
      exact map_fst_put filled (by rw [file]; rfl) _
    · intro other member
      rw [List.mem_singleton.mp member]
      refine text?_eq_some_iff.mpr ⟨_, ?_, Utf8.decode?_encode scalar⟩
      rw [node?_put _ _ _ filled, if_pos rfl]
    · intro place unchanged
      rw [node?_put _ _ _ filled, if_neg]
      rintro rfl
      have told := unchanged saving (List.mem_singleton_self saving) rfl
      rw [found, Option.some.injEq] at told
      exact same told

/-- Saving scripts that have files in different places replaces their texts at most. -/
theorem exists_isRewritten_of_saveEach (rooted : tree.IsRooted store.root root)
    (named : ∀ saving ∈ savings, saving.IsNamed)
    (held : ∀ saving ∈ savings, (tree.text? (saving.place root)).isSome = true)
    (scalar : ∀ saving ∈ savings, ∀ c ∈ saving.script.code, isScalar c = true)
    (apart : (savings.map (Saving.place root)).Nodup) :
    ∃ after, Disk.perform (store.saveEach savings) tree = (.ok (), after) ∧
      tree.IsRewritten root savings after := by
  induction savings generalizing tree with
  | nil => exact ⟨tree, rfl, .nil tree root⟩
  | cons saving savings inductionHypothesis =>
      rw [List.forall_mem_cons] at named held scalar
      rw [List.map_cons, List.nodup_cons] at apart
      rcases exists_isRewritten_of_saveScript rooted named.1 held.1 scalar.1 with
        ⟨between, saved, first⟩
      have evolves := evolves_saveScript store saving.hostname saving.script tree
      rw [saved] at evolves
      rcases inductionHypothesis
        (rooted.of_kept (evolves.nested rooted.nested) fun _ => evolves.directory) named.2
        (fun other member => evolves.text?_isSome (held.2 other member)) scalar.2 apart.2 with
        ⟨after, savedToo, others⟩
      refine ⟨after, ?_, first.cons others apart.1⟩
      rw [saveEach, Disk.perform_bind, saved]
      exact savedToo

/-- Saving scripts whose files hold their texts writes nothing. -/
theorem perform_saveEach_of_held (rooted : tree.IsRooted store.root root)
    (named : ∀ saving ∈ savings, saving.IsNamed)
    (held : ∀ saving ∈ savings, tree.text? (saving.place root) = some saving.script.code) :
    Disk.perform (store.saveEach savings) tree = (.ok (), tree) := by
  induction savings with
  | nil => rfl
  | cons saving savings inductionHypothesis =>
      rw [List.forall_mem_cons] at named held
      rw [saveEach, Disk.perform_bind, perform_saveScript_of_held rooted named.1 held.1]
      exact inductionHypothesis named.2 held.2

/-! ## Loading again -/

theorem scriptOf?_file {settings : Settings} {hostname : Text} {names : List Text}
    (isScript : Path.isScript (names.getLastD []) settings.extensions = true) (bytes : List Nat) :
    scriptOf? settings hostname names (.file bytes) =
      (Utf8.decode? bytes).map fun code =>
        ⟨Text.join [Path.separator] names, code, hostname⟩ :=
  if_pos isScript

theorem scriptOf?_eq_none {settings : Settings} {hostname : Text} {names : List Text}
    (noScript : ¬ Path.isScript (names.getLastD []) settings.extensions = true) (node : Node) :
    scriptOf? settings hostname names node = none := by
  cases node with
  | directory => rfl
  | file bytes => exact if_neg noScript

theorem serverOf?_directory (settings : Settings) (tree : FileTree) (root : Place)
    (hostname : Text) :
    serverOf? settings tree root [hostname] .directory =
      if hostname.startsWith (text ".") then none
      else
        some ⟨hostname, (tree.sortedBelow (root ++ [hostname])).filterMap fun entry =>
          scriptOf? settings hostname entry.1 entry.2⟩ :=
  rfl

theorem serverOf?_eq_none {settings : Settings} {place : Place} {node : Node}
    (noDirectory : node ≠ .directory) : serverOf? settings tree root place node = none := by
  unfold serverOf?
  split
  · exact absurd rfl noDirectory
  · rfl

section Stored

variable (stored : ∀ server ∈ servers, server.IsStored tree root)

include stored

theorem isNamed_of_mem_recoded (member : saving ∈ Saving.recoded code servers) :
    saving.IsNamed := by
  rcases Saving.mem_recoded_iff.mp member with ⟨server, serverMember, script, scriptMember, rfl⟩
  have named := isNamed_of_stored (stored server serverMember) scriptMember
  exact ⟨named.server, named.script⟩

theorem text?_of_mem_recoded (member : saving ∈ Saving.recoded code servers) :
    (tree.text? (saving.place root)).isSome = true := by
  rcases Saving.mem_recoded_iff.mp member with ⟨server, serverMember, script, scriptMember, rfl⟩
  have text := text?_of_stored (stored server serverMember) scriptMember
  exact Option.isSome_iff_exists.mpr ⟨_, text⟩

/-- The scripts of loaded servers are stored in different places. -/
theorem nodup_place_recoded (different : (servers.map Server.hostname).Nodup) :
    ((Saving.recoded code servers).map (Saving.place root)).Nodup := by
  rw [List.Nodup, List.pairwise_map, Saving.recoded, List.pairwise_flatMap]
  constructor
  · intro server member
    have isStored := stored server member
    have distinct := isStored.distinct
    rw [List.Nodup, List.pairwise_map] at distinct
    rw [List.pairwise_map]
    refine distinct.imp_of_mem fun {one other} oneMember otherMember differs same => differs ?_
    exact isStored.key_eq_of_place oneMember otherMember same
  · rw [List.Nodup, List.pairwise_map] at different
    refine different.imp fun {one other} differs saving member saving' member' same => differs ?_
    rcases List.mem_map.mp member with ⟨script, _, rfl⟩
    rcases List.mem_map.mp member' with ⟨script', _, rfl⟩
    exact Saving.hostname_of_place same

end Stored

/-- A file below the directory of a loaded server is loaded again: with the text that is
told for its script, or as the same file. -/
theorem scriptOf?_of_isRewritten {names : List Text} {node : Node} (proper : tree.IsProper)
    (rewritten : tree.IsRewritten root (Saving.recoded code servers) after)
    (member : server ∈ servers) (below : (names, node) ∈ tree.below (root ++ [server.hostname]))
    (isLoaded : ∀ script, scriptOf? store.settings server.hostname names node = some script →
      script ∈ server.scripts) :
    scriptOf? store.settings server.hostname names
        ((after.node? (root ++ [server.hostname] ++ names)).getD node) =
      (scriptOf? store.settings server.hostname names node).map (Script.recoded code) := by
  have isThere : tree.node? (root ++ [server.hostname] ++ names) = some node :=
    proper.node?_of_mem (mem_below_iff.mp below).2
  cases node with
  | directory =>
      rw [rewritten.node?_of_text?_eq_none (by rw [text?, isThere]), isThere]
      rfl
  | file bytes =>
      by_cases isScript : Path.isScript (names.getLastD []) store.settings.extensions = true
      · cases decoded : Utf8.decode? bytes with
        | none =>
            rw [rewritten.node?_of_text?_eq_none (by rw [text?, isThere]; exact decoded),
              isThere, Option.getD_some, scriptOf?_file isScript, decoded]
            rfl
        | some old =>
            have found : scriptOf? store.settings server.hostname names (.file bytes) =
                some ⟨Text.join [Path.separator] names, old, server.hostname⟩ := by
              rw [scriptOf?_file isScript, decoded]
              rfl
            have there := isStoredAt_of_scriptOf? proper below found
            have text := rewritten.written _ (Saving.mem_recoded_iff.mpr
              ⟨server, member, _, isLoaded _ found, rfl⟩)
            rw [Saving.place, Saving.names_of_key there.filled there.named there.key_eq,
              ← List.singleton_append, ← List.append_assoc] at text
            rcases text?_eq_some_iff.mp text with ⟨bytes', file, decoded'⟩
            rw [file, found, Option.getD_some, scriptOf?_file isScript, decoded']
            rfl
      · rw [scriptOf?_eq_none isScript, scriptOf?_eq_none isScript]
        rfl

/-- A directory below the root of a rewritten workspace is loaded as the server with the
texts that are told for its scripts. -/
theorem serverOf?_of_isRewritten {place : Place} {node : Node} (proper : tree.IsProper)
    (properAfter : after.IsProper)
    (rewritten : tree.IsRewritten root (Saving.recoded code servers) after)
    (below : (place, node) ∈ tree.below root)
    (isLoaded : ∀ server, serverOf? store.settings tree root place node = some server →
      server ∈ servers) :
    serverOf? store.settings after root place ((after.node? (root ++ place)).getD node) =
      (serverOf? store.settings tree root place node).map (Server.recoded code) := by
  have isThere : tree.node? (root ++ place) = some node :=
    proper.node?_of_mem (mem_below_iff.mp below).2
  have directory : after.node? (root ++ place) = some .directory ↔
      tree.node? (root ++ place) = some .directory := rewritten.directory_iff
  rw [isThere, Option.some.injEq] at directory
  cases node with
  | file bytes =>
      have noDirectory : (after.node? (root ++ place)).getD (.file bytes) ≠ .directory := by
        cases found : after.node? (root ++ place) with
        | none => simp
        | some node =>
            rintro rfl
            cases directory.mp found
      rw [serverOf?_eq_none noDirectory, serverOf?_eq_none (by simp)]
      rfl
  | directory =>
      rw [directory.mpr rfl, Option.getD_some]
      rcases place with _ | ⟨hostname, _ | ⟨next, rest⟩⟩
      · rfl
      · rw [serverOf?_directory] at isLoaded
        rw [serverOf?_directory, serverOf?_directory]
        split
        · rfl
        · rename_i visible
          have member := isLoaded _ (if_neg visible)
          refine congrArg (some <| Server.mk hostname ·) ?_
          rw [sortedBelow_of_places properAfter rewritten.places, List.filterMap_map,
            List.map_filterMap]
          refine List.filterMap_congr fun entry isBelow => ?_
          exact scriptOf?_of_isRewritten proper rewritten member
            ((sortedBelow_perm tree _).mem_iff.mp isBelow)
            fun script isScript => List.mem_filterMap.mpr ⟨entry, isBelow, isScript⟩
      · rfl

/-- What is loaded from the rewritten workspace are the servers with the texts that are
told for their scripts. -/
theorem load_of_isRewritten (rooted : tree.IsRooted store.root root) (proper : tree.IsProper)
    (properAfter : after.IsProper) (loaded : store.load tree = .ok servers)
    (rewritten : tree.IsRewritten root (Saving.recoded code servers) after) :
    store.load after = .ok (servers.map (Server.recoded code)) := by
  have directory : after.node? root = some .directory :=
    rewritten.directory_iff.mpr rooted.directory
  have led : after.place? store.root = .ok root :=
    (rooted.of_kept properAfter.isNested fun _ => rewritten.directory_iff.mpr).place
  rw [load, rooted.place] at loaded
  dsimp only at loaded
  rw [if_pos rooted.directory, Except.ok.injEq] at loaded
  rw [load, led]
  dsimp only
  rw [if_pos directory, sortedBelow_of_places properAfter rewritten.places, List.filterMap_map]
  refine congrArg Except.ok ?_
  conv_rhs => rw [← loaded, List.map_filterMap]
  refine List.filterMap_congr fun entry isBelow => ?_
  exact serverOf?_of_isRewritten proper properAfter rewritten
    ((sortedBelow_perm tree root).mem_iff.mp isBelow)
    fun server isServer => loaded ▸ List.mem_filterMap.mpr ⟨entry, isBelow, isServer⟩

/-- Servers that are loaded, given other texts, saved and loaded again are what they were,
in their order, with just those texts.  No file is changed but those of scripts that were
given another text.  If each script was given its own, then all of them are found to be
stored already, so that no file is written. -/
theorem callAll_saves_load (proper : tree.IsProper) (loaded : store.load tree = .ok servers)
    (scalar : ∀ server ∈ servers, ∀ script ∈ server.scripts,
      ∀ c ∈ code script, isScalar c = true) :
    ∃ after,
      Disk.perform (store.callAll ((servers.map (Server.recoded code)).map .save)) tree =
        (.ok (), after) ∧
      store.load after = .ok (servers.map (Server.recoded code)) ∧
      (∀ place, after.node? place ≠ tree.node? place →
        ∃ server ∈ servers, ∃ script ∈ server.scripts, code script ≠ script.code ∧
          (store.scriptLocation server.hostname script.name).target? = some place) ∧
      ((∀ server ∈ servers, ∀ script ∈ server.scripts, code script = script.code) →
        after = tree ∧ ∀ server ∈ servers, ∀ script ∈ server.scripts,
          Disk.perform (store.isStored server.hostname script) tree = (.ok true, tree)) := by
  rcases exists_isRooted_of_load proper loaded with ⟨root, rooted⟩
  rcases isStored_of_load proper rooted.place loaded with ⟨_, stored, different⟩
  have named : ∀ saving ∈ Saving.recoded code servers, saving.IsNamed := fun saving =>
    isNamed_of_mem_recoded stored
  have scalarHere : ∀ saving ∈ Saving.recoded code servers,
      ∀ c ∈ saving.script.code, isScalar c = true := by
    intro saving member
    rcases Saving.mem_recoded_iff.mp member with ⟨server, serverMember, script, scriptMember, rfl⟩
    exact scalar server serverMember script scriptMember
  rcases exists_isRewritten_of_saveEach rooted named (fun saving => text?_of_mem_recoded stored)
    scalarHere (nodup_place_recoded stored different) with ⟨after, saved, rewritten⟩
  have properAfter := isProper_saveEach (proper.isWritten_of_isRooted rooted)
    (Saving.recoded code servers) proper
  rw [saved] at properAfter
  refine ⟨after, ?_, load_of_isRewritten rooted proper properAfter loaded rewritten, ?_, ?_⟩
  · rw [callAll_saves, List.flatMap_map]
    refine Eq.trans ?_ saved
    simp only [Saving.recoded, Server.recoded, List.map_map, Function.comp_def]
  · intro place differs
    have changed := mt (rewritten.kept place) differs
    simp only [not_forall] at changed
    rcases changed with ⟨saving, member, there, notHeld⟩
    rcases Saving.mem_recoded_iff.mp member with ⟨server, serverMember, script, scriptMember, rfl⟩
    have isStored := stored server serverMember
    refine ⟨server, serverMember, script, scriptMember, fun same => notHeld ?_, ?_⟩
    · rw [← there]
      refine (text?_of_stored isStored scriptMember).trans ?_
      exact congrArg some same.symm
    · rw [← there]
      exact target?_scriptLocation rooted (isNamed_of_stored isStored scriptMember)
  · intro same
    have held : ∀ saving ∈ Saving.recoded code servers,
        tree.text? (saving.place root) = some saving.script.code := by
      intro saving member
      rcases Saving.mem_recoded_iff.mp member with
        ⟨server, serverMember, script, scriptMember, rfl⟩
      refine (text?_of_stored (stored server serverMember) scriptMember).trans ?_
      exact congrArg some (same server serverMember script scriptMember).symm
    have unchanged := perform_saveEach_of_held rooted named held
    rw [saved] at unchanged
    refine ⟨congrArg Prod.snd unchanged, fun server serverMember script scriptMember => ?_⟩
    have isStored := stored server serverMember
    have found := perform_isStored_of_text? rooted (isNamed_of_stored isStored scriptMember)
      (text?_of_stored isStored scriptMember)
    rwa [decide_eq_true rfl] at found

/-- A text with a byte order mark, a letter beyond the first half of Latin and a lone carriage
return is read as it was saved, beside a file without a text. -/
theorem callAll_saves_load_marked :
    let store : Store := ⟨Location.ofText (text "."), Settings.default⟩
    let tree : FileTree := ⟨[([text "h"], .directory), ([text "h", text "lib"], .directory),
      ([text "h", text "lib", text "b.js"], .file (text "b\r\n")),
      ([text "h", text "c.js"], .file [0xFF]), ([text "h", text "a.js"], .file (text "a"))]⟩
    let servers : List Server := [⟨text "h",
      [⟨text "a.js", text "a", text "h"⟩, ⟨text "lib/b.js", text "b\r\n", text "h"⟩]⟩]
    let code : Script → Text := fun script =>
      if script.name = text "a.js" then [0xFEFF, 0xFC, 0x0D] else script.code
    ∃ after,
      Disk.perform (store.callAll ((servers.map (Server.recoded code)).map .save)) tree =
        (.ok (), after) ∧
      store.load after = .ok [⟨text "h",
        [⟨text "a.js", [0xFEFF, 0xFC, 0x0D], text "h"⟩,
          ⟨text "lib/b.js", text "b\r\n", text "h"⟩]⟩] := by
  intro store tree servers code
  have proper : tree.IsProper := by decide +kernel
  have loaded : store.load tree = .ok servers := by decide +kernel
  have scalar : ∀ server ∈ servers, ∀ script ∈ server.scripts,
      ∀ c ∈ code script, isScalar c = true := by decide +kernel
  have recoded : servers.map (Server.recoded code) = [⟨text "h",
      [⟨text "a.js", [0xFEFF, 0xFC, 0x0D], text "h"⟩,
        ⟨text "lib/b.js", text "b\r\n", text "h"⟩]⟩] := by decide +kernel
  rcases callAll_saves_load proper loaded scalar with ⟨after, saved, loadedAgain, _, _⟩
  exact ⟨after, saved, recoded ▸ loadedAgain⟩

end Store

end Respecify
