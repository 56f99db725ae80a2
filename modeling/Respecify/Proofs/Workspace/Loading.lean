import Mathlib.Data.List.Perm.Basic
import Respecify.Proofs.Server.Migration
import Respecify.Proofs.Workspace.Walk
import Respecify.Workspace.Store

/-!
# Where loaded scripts are stored

The servers of a workspace have different names, and the scripts of a server are
different files.  The text of each script is the one at the place that its name
tells.
-/

namespace Respecify

namespace Path

/-- A path goes without its slash as it goes with it. -/
theorem unrooted_of_rooted {name rest : Text} (slashed : rooted name = separator :: rest) :
    unrooted name = rest := by
  rw [rooted] at slashed
  rw [unrooted, Text.dropStart]
  split
  · rename_i starts
    rw [if_pos starts] at slashed
    rw [slashed]
    rfl
  · rename_i starts
    rw [if_neg starts] at slashed
    exact List.tail_eq_of_cons_eq slashed

/-- A path that is made of names is told from the root by a slash. -/
theorem rooted_join {names : List Text} (filled : names ≠ [])
    (named : ∀ name ∈ names, IsName name) :
    rooted (Text.join [separator] names) = separator :: Text.join [separator] names := by
  rw [rooted, Text.startsWith_join filled named, if_neg (by simp)]

end Path

/-- Different names make different texts. -/
theorem Text.join_injective {names others : List Text} (filled : names ≠ [])
    (named : ∀ name ∈ names, IsName name) (filledToo : others ≠ [])
    (namedToo : ∀ name ∈ others, IsName name)
    (same : join [Path.separator] names = join [Path.separator] others) : names = others := by
  rw [← splitOn_join filled fun name member => (named name member).plain, same,
    splitOn_join filledToo fun name member => (namedToo name member).plain]

/-- The script is stored below a directory at these names. -/
structure Script.IsStoredAt (tree : FileTree) (server : Place) (names : List Text)
    (script : Script) : Prop where
  filled : names ≠ []
  named : ∀ name ∈ names, IsName name
  name : script.name = Text.join [Path.separator] names
  text : tree.text? (server ++ names) = some script.code

theorem Script.IsStoredAt.key_eq {tree : FileTree} {server : Place} {names : List Text}
    {script : Script} (stored : script.IsStoredAt tree server names) :
    script.key = Path.separator :: Text.join [Path.separator] names := by
  rw [Script.key, stored.name, Path.rooted_join stored.filled stored.named]

/-- The scripts of the server are stored in its directory. -/
structure Server.IsStored (tree : FileTree) (root : Place) (server : Server) : Prop where
  named : IsName server.hostname
  scripts : ∀ script ∈ server.scripts,
    ∃ names, script.IsStoredAt tree (root ++ [server.hostname]) names
  distinct : (server.scripts.map Script.key).Nodup

namespace Store

open FileTree

variable {settings : Settings} {tree : FileTree} {root place : Place} {node : Node}
  {hostname : Text} {script : Script} {server : Server}

/-- A file that holds a script is where the script is stored. -/
theorem isStoredAt_of_scriptOf? (proper : tree.IsProper)
    (member : (place, node) ∈ tree.below root)
    (found : scriptOf? settings hostname place node = some script) :
    script.IsStoredAt tree root place := by
  rcases mem_below_iff.mp member with ⟨filled, isEntry⟩
  unfold scriptOf? at found
  split at found
  · cases found
  · rename_i bytes
    split at found
    · rcases Option.map_eq_some_iff.mp found with ⟨code, decoded, rfl⟩
      exact
        { filled := filled
          named := fun name nameMember =>
            (proper.named _ isEntry).2 name (List.mem_append_right _ nameMember)
          name := rfl
          text := text?_eq_some_iff.mpr ⟨bytes, proper.node?_of_mem isEntry, decoded⟩ }
    · cases found

/-- A directory that holds a server is where its scripts are stored. -/
theorem isStored_of_serverOf? (proper : tree.IsProper) (member : (place, node) ∈ tree.below root)
    (found : serverOf? settings tree root place node = some server) :
    place = [server.hostname] ∧ server.IsStored tree root := by
  have isEntry := (mem_below_iff.mp member).2
  unfold serverOf? at found
  split at found
  · rename_i host
    split at found
    · cases found
    · cases found
      refine ⟨rfl, ?_, fun script scriptMember => ?_, ?_⟩
      · exact (proper.named _ isEntry).2 _ (List.mem_append_right _ (List.mem_singleton_self _))
      · rcases List.mem_filterMap.mp scriptMember with ⟨⟨names, file⟩, isBelow, isScript⟩
        exact ⟨names, isStoredAt_of_scriptOf? proper
          ((sortedBelow_perm tree _).mem_iff.mp isBelow) isScript⟩
      · have apart := proper.nodup_sortedBelow (root ++ [host])
        rw [List.Nodup, List.pairwise_map] at apart ⊢
        rw [List.pairwise_filterMap]
        refine apart.imp_of_mem fun {one other} oneMember otherMember different first isFirst
          second isSecond same => different ?_
        have stored := isStoredAt_of_scriptOf? proper
          ((sortedBelow_perm tree _).mem_iff.mp oneMember) isFirst
        have storedToo := isStoredAt_of_scriptOf? proper
          ((sortedBelow_perm tree _).mem_iff.mp otherMember) isSecond
        rw [stored.key_eq, storedToo.key_eq] at same
        exact Text.join_injective stored.filled stored.named storedToo.filled storedToo.named
          (List.tail_eq_of_cons_eq same)
  · cases found

/-- What is loaded is stored below the root of the workspace. -/
theorem isStored_of_load {store : Store} {servers : List Server} (proper : tree.IsProper)
    (led : tree.place? store.root = .ok root) (loaded : store.load tree = .ok servers) :
    tree.node? root = some .directory ∧ (∀ server ∈ servers, server.IsStored tree root) ∧
      (servers.map Server.hostname).Nodup := by
  rw [load, led] at loaded
  dsimp only at loaded
  split at loaded
  · rename_i directory
    cases loaded
    refine ⟨directory, fun server member => ?_, ?_⟩
    · rcases List.mem_filterMap.mp member with ⟨⟨place, node⟩, isBelow, isServer⟩
      exact (isStored_of_serverOf? proper ((sortedBelow_perm tree _).mem_iff.mp isBelow)
        isServer).2
    · have apart := proper.nodup_sortedBelow root
      rw [List.Nodup, List.pairwise_map] at apart ⊢
      rw [List.pairwise_filterMap]
      refine apart.imp_of_mem fun {one other} oneMember otherMember different first isFirst
        second isSecond same => different ?_
      have stored := isStored_of_serverOf? proper
        ((sortedBelow_perm tree _).mem_iff.mp oneMember) isFirst
      have storedToo := isStored_of_serverOf? proper
        ((sortedBelow_perm tree _).mem_iff.mp otherMember) isSecond
      rw [stored.1, storedToo.1, same]
  · cases loaded

/-- A visible directory below the root is a server, and each of its files that is a
script with a text is loaded. -/
theorem exists_script_of_load {store : Store} {servers : List Server} {names : List Text}
    {code : Text} (nested : tree.IsNested) (led : tree.place? store.root = .ok root)
    (loaded : store.load tree = .ok servers)
    (visible : hostname.startsWith (text ".") = false) (filled : names ≠ [])
    (isScript : Path.isScript (names.getLastD []) store.settings.extensions = true)
    (held : tree.text? (root ++ hostname :: names) = some code) :
    ∃ server ∈ servers, server.hostname = hostname ∧
      ⟨Text.join [Path.separator] names, code, hostname⟩ ∈ server.scripts := by
  have whole : root ++ hostname :: names = root ++ [hostname] ++ names := by simp
  rw [whole] at held
  rcases text?_eq_some_iff.mp held with ⟨bytes, file, decoded⟩
  have directory : tree.node? (root ++ [hostname]) = some .directory :=
    nested.directory_of_append filled (by rw [file]; rfl)
  have isServer : ([hostname], .directory) ∈ tree.sortedBelow root :=
    (sortedBelow_perm tree root).mem_iff.mpr
      (mem_below_iff.mpr ⟨by simp, mem_entries_of_node? (by simp) directory⟩)
  have isBelow : (names, .file bytes) ∈ tree.sortedBelow (root ++ [hostname]) :=
    (sortedBelow_perm tree _).mem_iff.mpr
      (mem_below_iff.mpr ⟨filled, mem_entries_of_node? (by simp) file⟩)
  rw [load, led] at loaded
  dsimp only at loaded
  split at loaded
  · cases loaded
    refine ⟨⟨hostname, (tree.sortedBelow (root ++ [hostname])).filterMap fun entry =>
        scriptOf? store.settings hostname entry.1 entry.2⟩,
      List.mem_filterMap.mpr ⟨_, isServer, ?_⟩, rfl, List.mem_filterMap.mpr ⟨_, isBelow, ?_⟩⟩
    · simp only [serverOf?, visible, Bool.false_eq_true, if_false]
    · simp only [scriptOf?, isScript, if_true, decoded, Option.map_some]
  · cases loaded

/-- A directory of a workspace can be loaded. -/
theorem exists_servers_of_load {store : Store} (led : tree.place? store.root = .ok root)
    (directory : tree.node? root = some .directory) : ∃ servers, store.load tree = .ok servers := by
  rw [load, led]
  dsimp only
  rw [if_pos directory]
  exact ⟨_, rfl⟩

/-- A loaded script is in a visible directory, and its file has a name of a script. -/
theorem exists_isStoredAt_of_load {store : Store} {servers : List Server} (proper : tree.IsProper)
    (led : tree.place? store.root = .ok root) (loaded : store.load tree = .ok servers)
    (member : server ∈ servers) (scriptMember : script ∈ server.scripts) :
    server.hostname.startsWith (text ".") = false ∧
      ∃ names, script.IsStoredAt tree (root ++ [server.hostname]) names ∧
        Path.isScript (names.getLastD []) store.settings.extensions = true := by
  rw [load, led] at loaded
  dsimp only at loaded
  split at loaded
  · cases loaded
    rcases List.mem_filterMap.mp member with ⟨⟨place, node⟩, _, isServer⟩
    unfold serverOf? at isServer
    split at isServer
    · rename_i host
      split at isServer
      · cases isServer
      · rename_i visible
        cases isServer
        refine ⟨Bool.not_eq_true _ ▸ visible, ?_⟩
        rcases List.mem_filterMap.mp scriptMember with ⟨⟨names, file⟩, isBelow, isScript⟩
        refine ⟨names, isStoredAt_of_scriptOf? proper
          ((sortedBelow_perm tree _).mem_iff.mp isBelow) isScript, ?_⟩
        unfold scriptOf? at isScript
        split at isScript
        · cases isScript
        · split at isScript
          · rename_i named
            exact named
          · cases isScript
    · cases isServer
  · cases loaded

end Store

end Respecify
