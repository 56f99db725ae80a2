import Respecify.Proofs.Workspace.Loading
import Respecify.Proofs.Workspace.Run

/-!
# The scripts that a migration saves

A migration of loaded servers saves their scripts and their backups.  These are
different files, and no backup that is new stands above another one.
-/

namespace Respecify

/-- The text is made of ordinary segments: names with a slash between each two. -/
def IsFolder (folder : Text) : Prop :=
  ∃ names, names ≠ [] ∧ (∀ name ∈ names, IsName name) ∧
    folder = Text.join [Path.separator] names

namespace Saving

variable {saving one other : Saving} {names : List Text} {tree : FileTree} {root : Place}

/-- The key of a script tells where it is stored. -/
theorem names_of_key (filled : names ≠ []) (named : ∀ name ∈ names, IsName name)
    (key : saving.script.key = Path.separator :: Text.join [Path.separator] names) :
    saving.names = saving.hostname :: names := by
  rw [Saving.names, Path.unrooted_of_rooted key, Location.namesOf_join filled named]

theorem isNamed_of_key (server : IsName saving.hostname) (filled : names ≠ [])
    (named : ∀ name ∈ names, IsName name)
    (key : saving.script.key = Path.separator :: Text.join [Path.separator] names) :
    saving.IsNamed :=
  ⟨server, names, filled, named, Path.unrooted_of_rooted key⟩

/-- Scripts of one key are stored at one place. -/
theorem place_congr (root : Place) {hostname : Text} {script same : Script}
    (key : script.key = same.key) :
    place root ⟨hostname, script⟩ = place root ⟨hostname, same⟩ := by
  rcases Path.exists_rooted_eq script.name with ⟨rest, slashed⟩
  have slashedToo : Path.rooted same.name = Path.separator :: rest := key.symm.trans slashed
  rw [place, place, Saving.names, Saving.names, Path.unrooted_of_rooted slashed,
    Path.unrooted_of_rooted slashedToo]

theorem hostname_of_place (same : one.place root = other.place root) :
    one.hostname = other.hostname :=
  (List.cons.inj (List.append_cancel_left same)).1

/-- Scripts of different servers are stored apart. -/
theorem apart_of_hostname (different : one.hostname ≠ other.hostname) :
    tree.Apart root one other := by
  have noPrefix : ∀ {one other : Saving}, one.hostname ≠ other.hostname →
      ¬ one.place root <+: other.place root := by
    intro one other different isAbove
    rw [place, place, List.prefix_append_right_inj, Saving.names, Saving.names,
      List.cons_prefix_cons] at isAbove
    exact different isAbove.1
  refine ⟨fun same => noPrefix different (same ▸ List.prefix_rfl), fun _ _ =>
    ⟨noPrefix different, noPrefix (Ne.symm different)⟩⟩

end Saving

namespace Server

open FileTree

variable {parser : JavaScript.ScriptParser} {settings : Settings} {tree : FileTree} {root : Place}
  {server : Server} {segments : List Text} {script : Script}

/-- Where a script of a migrated server is stored: at the place of a script that
was loaded, or below the backup folder. -/
theorem IsStored.exists_names (stored : server.IsStored tree root) (filled : segments ≠ [])
    (folder : settings.backupFolder = Text.join [Path.separator] segments)
    (member : script ∈ (server.migrateBy parser settings).after.scripts) :
    ∃ old ∈ server.scripts, ∃ names, old.IsStoredAt tree (root ++ [server.hostname]) names ∧
      (script.key = Path.separator :: Text.join [Path.separator] names ∨
        script.key = Path.separator :: Text.join [Path.separator] (segments ++ names)) := by
  rcases key_mem_of_mem_after stored.distinct member with
    ⟨old, oldMember, same⟩ | ⟨old, oldMember, same⟩
  · rcases stored.scripts old oldMember with ⟨names, there⟩
    exact ⟨old, oldMember, names, there, Or.inl (same.trans there.key_eq)⟩
  · rcases stored.scripts old oldMember with ⟨names, there⟩
    refine ⟨old, oldMember, names, there, Or.inr ?_⟩
    rw [same, there.key_eq, folder, Text.join_append filled there.filled]
    simp

/-- Whatever is saved for a server has names as files have them. -/
theorem IsStored.isNamed (stored : server.IsStored tree root) (filled : segments ≠ [])
    (named : ∀ name ∈ segments, IsName name)
    (folder : settings.backupFolder = Text.join [Path.separator] segments)
    (member : script ∈ (server.migrateBy parser settings).after.scripts) :
    (Saving.mk server.hostname script).IsNamed := by
  rcases stored.exists_names filled folder member with ⟨_, _, names, there, key | key⟩
  · exact Saving.isNamed_of_key stored.named there.filled there.named key
  · refine Saving.isNamed_of_key stored.named (by simp [filled]) (fun name nameMember => ?_) key
    exact (List.mem_append.mp nameMember).elim (named name) (there.named name)

/-- The place where a script of a migrated server is stored.  A file is there, unless
the script is a new backup, which has a file of the workspace for its original. -/
theorem IsStored.exists_place (stored : server.IsStored tree root) (filled : segments ≠ [])
    (named : ∀ name ∈ segments, IsName name)
    (folder : settings.backupFolder = Text.join [Path.separator] segments)
    (member : script ∈ (server.migrateBy parser settings).after.scripts) :
    ∃ names, script.key = Path.separator :: Text.join [Path.separator] names ∧
      Saving.place root ⟨server.hostname, script⟩ = root ++ server.hostname :: names ∧
      (tree.node? (root ++ server.hostname :: names) = none → ∃ others bytes,
        names = segments ++ others ∧
          tree.node? (root ++ server.hostname :: others) = some (.file bytes)) := by
  rcases stored.exists_names filled folder member with ⟨old, _, names, there, key⟩
  rcases text?_eq_some_iff.mp there.text with ⟨bytes, file, _⟩
  rw [List.append_assoc, List.singleton_append] at file
  rcases key with key | key
  · refine ⟨names, key, ?_, fun absent => ?_⟩
    · rw [Saving.place, Saving.names_of_key there.filled there.named key]
    · rw [absent] at file
      cases file
  · refine ⟨segments ++ names, key, ?_, fun _ => ⟨names, bytes, rfl, file⟩⟩
    rw [Saving.place, Saving.names_of_key (by simp [filled]) (fun name nameMember =>
      (List.mem_append.mp nameMember).elim (named name) (there.named name)) key]

/-- No backup stands above the backup of another file. -/
theorem not_prefix_of_file {hostname : Text} {names others : List Text}
    {bytes bytes' : List Nat} (nested : tree.IsNested)
    (file : tree.node? (root ++ hostname :: names) = some (.file bytes))
    (file' : tree.node? (root ++ hostname :: others) = some (.file bytes'))
    (differ : segments ++ names ≠ segments ++ others) :
    ¬ root ++ hostname :: (segments ++ names) <+: root ++ hostname :: (segments ++ others) := by
  intro isAbove
  rw [List.prefix_append_right_inj, List.cons_prefix_cons, List.prefix_append_right_inj]
    at isAbove
  have fileAbove : root ++ hostname :: names <+: root ++ hostname :: others := by
    rw [List.prefix_append_right_inj, List.cons_prefix_cons]
    exact isAbove
  have same := nested.eq_of_prefix fileAbove file (by rw [file']; rfl)
  exact differ (congrArg (segments ++ ·) (List.tail_eq_of_cons_eq (List.append_cancel_left same)))

/-- The scripts of a migrated server are stored apart. -/
theorem IsStored.pairwise_apart (stored : server.IsStored tree root) (nested : tree.IsNested)
    (filled : segments ≠ []) (named : ∀ name ∈ segments, IsName name)
    (folder : settings.backupFolder = Text.join [Path.separator] segments) :
    ((server.migrateBy parser settings).after.scripts.map (Saving.mk server.hostname)).Pairwise
      (tree.Apart root) := by
  rw [List.pairwise_map]
  have distinct := nodup_after stored.distinct parser settings
  rw [List.Nodup, List.pairwise_map] at distinct
  refine distinct.imp_of_mem fun {one other} oneMember otherMember different => ?_
  rcases stored.exists_place filled named folder oneMember with ⟨names, key, place, isNew⟩
  rcases stored.exists_place filled named folder otherMember with ⟨names', key', place', isNew'⟩
  have namesDiffer : names ≠ names' := by
    rintro rfl
    exact different (key.trans key'.symm)
  rw [Apart, place, place']
  refine ⟨fun same => namesDiffer ?_, fun absent absent' => ?_⟩
  · exact List.tail_eq_of_cons_eq (List.append_cancel_left same)
  · rcases isNew absent with ⟨others, bytes, rfl, file⟩
    rcases isNew' absent' with ⟨others', bytes', rfl, file'⟩
    exact ⟨not_prefix_of_file nested file file' namesDiffer,
      not_prefix_of_file nested file' file (Ne.symm namesDiffer)⟩

end Server

namespace BatchMigration

open FileTree

/-- The scripts that a migration saves, in their order. -/
def savings (batch : BatchMigration) : List Saving :=
  (batch.filter ServerMigration.isChanged).flatMap fun migration =>
    migration.after.scripts.map (Saving.mk migration.before.hostname)

variable {parser : JavaScript.ScriptParser} {settings : Settings} {tree : FileTree} {root : Place}
  {servers : List Server} {saving : Saving}

theorem mem_savings_iff :
    saving ∈ (ofServersBy parser settings servers).savings ↔
      ∃ server ∈ servers, (server.migrateBy parser settings).isChanged = true ∧
        saving.hostname = server.hostname ∧
        saving.script ∈ (server.migrateBy parser settings).after.scripts := by
  simp only [savings, ofServersBy, List.mem_flatMap, List.mem_filter, List.mem_map]
  constructor
  · rintro ⟨_, ⟨⟨server, member, rfl⟩, changed⟩, script, scriptMember, rfl⟩
    exact ⟨server, member, changed, rfl, scriptMember⟩
  · rintro ⟨server, member, changed, hostname, scriptMember⟩
    refine ⟨_, ⟨⟨server, member, rfl⟩, changed⟩, saving.script, scriptMember, ?_⟩
    rcases saving with ⟨_, _⟩
    cases hostname
    rfl

variable (stored : ∀ server ∈ servers, server.IsStored tree root)
  (folder : IsFolder settings.backupFolder)

include stored folder

theorem isNamed_of_mem_savings (member : saving ∈ (ofServersBy parser settings servers).savings) :
    saving.IsNamed := by
  rcases folder with ⟨segments, filled, named, whole⟩
  rcases mem_savings_iff.mp member with ⟨server, serverMember, _, hostname, scriptMember⟩
  have isNamed := (stored server serverMember).isNamed filled named whole scriptMember
  rwa [← hostname] at isNamed

/-- Whatever a migration saves is stored apart. -/
theorem pairwise_apart_savings (nested : tree.IsNested)
    (different : (servers.map Server.hostname).Nodup) :
    (ofServersBy parser settings servers).savings.Pairwise (tree.Apart root) := by
  rcases folder with ⟨segments, filled, named, whole⟩
  rw [savings, List.pairwise_flatMap]
  constructor
  · intro migration member
    rcases List.mem_map.mp (List.mem_filter.mp member).1 with ⟨server, serverMember, rfl⟩
    exact (stored server serverMember).pairwise_apart nested filled named whole
  · refine List.Pairwise.filter _ ?_
    rw [ofServersBy, List.pairwise_map]
    rw [List.Nodup, List.pairwise_map] at different
    refine different.imp fun {one other} differ saving member saving' member' => ?_
    rcases List.mem_map.mp member with ⟨script, _, rfl⟩
    rcases List.mem_map.mp member' with ⟨script', _, rfl⟩
    exact Saving.apart_of_hostname differ

end BatchMigration

end Respecify
