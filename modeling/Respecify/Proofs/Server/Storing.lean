import Mathlib.Data.List.Induction
import Mathlib.Data.List.Nodup
import Respecify.Server.Migration

/-!
# Keeping and storing backups

The scripts of a server are files, told apart by their keys.  Of the backups with
one key the last one is kept.  A backup that is stored changes the text of the first
script with its key, or is put behind all scripts, and leaves the others alone.
-/

namespace Respecify

namespace Script

/-- The name of the script with its slash; scripts with one key are one file. -/
def key (script : Script) : Text :=
  Path.rooted script.name

variable {script backup : Script} {scripts backups : List Script} {file : Text}

theorem sameFile_iff (one other : Script) :
    Path.sameFile one.name other.name = true ↔ one.key = other.key :=
  beq_iff_eq

/-! ## Scripts by their keys -/

/-- The first script that is the file with a key. -/
def ofKey? (scripts : List Script) (file : Text) : Option Script :=
  scripts.find? fun script => script.key == file

theorem ofKey?_cons (first : Script) (rest : List Script) (file : Text) :
    ofKey? (first :: rest) file = if first.key = file then some first else ofKey? rest file := by
  rw [ofKey?, ofKey?, List.find?_cons]
  by_cases own : first.key = file
  · simp [own]
  · rw [beq_false_of_ne own, if_neg own]

theorem ofKey?_eq_none_iff : ofKey? scripts file = none ↔ file ∉ scripts.map key := by
  simp [ofKey?]

theorem mem_and_key_of_ofKey? (found : ofKey? scripts file = some script) :
    script ∈ scripts ∧ script.key = file := by
  have own := List.find?_some found
  exact ⟨List.mem_of_find?_eq_some found, beq_iff_eq.mp own⟩

/-- Where scripts are different files, each is the one with its key. -/
theorem ofKey?_eq_some_of_mem (distinct : (scripts.map key).Nodup) (member : script ∈ scripts) :
    ofKey? scripts script.key = some script := by
  induction scripts with
  | nil => cases member
  | cons first rest inductionHypothesis =>
      rw [List.map_cons, List.nodup_cons] at distinct
      rw [ofKey?_cons]
      rcases List.mem_cons.mp member with rfl | member
      · exact if_pos rfl
      · have different : first.key ≠ script.key := fun same =>
          distinct.1 (same ▸ List.mem_map_of_mem member)
        rw [if_neg different, inductionHypothesis distinct.2 member]

/-- Leaving out the scripts with one key leaves the others. -/
theorem ofKey?_filter_of_ne {other : Text} (different : file ≠ other) (scripts : List Script) :
    ofKey? (scripts.filter fun script => script.key != other) file = ofKey? scripts file := by
  induction scripts with
  | nil => rfl
  | cons first rest inductionHypothesis =>
      rw [List.filter_cons, ofKey?_cons, ← inductionHypothesis]
      by_cases own : first.key = file
      · have stays : (first.key != other) = true := by simpa [own] using different
        rw [if_pos own, if_pos stays, ofKey?_cons, if_pos own]
      · rw [if_neg own]
        split
        · rw [ofKey?_cons, if_neg own]
        · rfl

/-! ## Changing the first script with a key -/

theorem changeFirst_cons (change : Script → Script) (other : List Script) (first : Script)
    (rest : List Script) :
    changeFirst backup.name change other (first :: rest) =
      if first.key = backup.key then change first :: rest
      else first :: changeFirst backup.name change other rest := by
  rw [changeFirst]
  exact if_congr (sameFile_iff first backup) rfl rfl

/-- Where no script is the file of that name, another one is put behind. -/
theorem changeFirst_of_absent (change : Script → Script) (other : List Script)
    (absent : ∀ script ∈ scripts, script.key ≠ backup.key) :
    changeFirst backup.name change other scripts = scripts ++ other := by
  induction scripts with
  | nil => rfl
  | cons first rest inductionHypothesis =>
      rw [changeFirst_cons, if_neg (absent first List.mem_cons_self),
        inductionHypothesis fun script member => absent script (List.mem_cons_of_mem _ member)]
      rfl

/-- A change that keeps files what they are adds at most one file. -/
theorem map_key_changeFirst (change : Script → Script)
    (keeps : ∀ script, script.key = backup.key → (change script).key = backup.key)
    (scripts : List Script) :
    (changeFirst backup.name change [backup] scripts).map key =
      if backup.key ∈ scripts.map key then scripts.map key else scripts.map key ++ [backup.key] := by
  induction scripts with
  | nil => rfl
  | cons first rest inductionHypothesis =>
      rw [changeFirst_cons]
      by_cases same : first.key = backup.key
      · rw [if_pos same, if_pos (by rw [← same]; exact List.mem_cons_self), List.map_cons,
          keeps first same, List.map_cons, same]
      · rw [if_neg same, List.map_cons, inductionHypothesis, List.map_cons]
        by_cases behind : backup.key ∈ rest.map key
        · rw [if_pos behind, if_pos (List.mem_cons_of_mem _ behind)]
        · rw [if_neg behind, if_neg (by simp [Ne.symm same, behind]), List.cons_append]

/-- Where each step adds at most one file that is not there, files stay apart. -/
theorem nodup_map_key_foldl {put : List Script → Script → List Script}
    (puts : ∀ scripts backup, (put scripts backup).map key =
      if backup.key ∈ scripts.map key then scripts.map key
      else scripts.map key ++ [backup.key])
    (distinct : (scripts.map key).Nodup) : ((backups.foldl put scripts).map key).Nodup := by
  induction backups generalizing scripts with
  | nil => exact distinct
  | cons backup backups inductionHypothesis =>
      refine inductionHypothesis ?_
      rw [puts]
      split
      · exact distinct
      · rename_i absent
        rw [List.nodup_append]
        refine ⟨distinct, List.nodup_singleton _, fun one member other otherMember same => ?_⟩
        rw [List.mem_singleton.mp otherMember] at same
        exact absent (same ▸ member)

/-- Scripts that are different files are all put behind those that are there. -/
theorem foldl_changeFirst_of_absent (change : Script → Script → Script) (present : List Script)
    (distinct : ((present ++ backups).map key).Nodup) :
    backups.foldl (fun scripts backup => changeFirst backup.name (change backup) [backup] scripts)
        present =
      present ++ backups := by
  induction backups generalizing present with
  | nil => exact (List.append_nil present).symm
  | cons backup backups inductionHypothesis =>
      have absent : ∀ script ∈ present, script.key ≠ backup.key := by
        intro script member same
        rw [List.map_append, List.nodup_append] at distinct
        exact distinct.2.2 _ (List.mem_map_of_mem member) _
          (List.mem_map_of_mem List.mem_cons_self) same
      rw [List.foldl_cons, changeFirst_of_absent _ _ absent,
        inductionHypothesis _ (by simpa using distinct), List.append_assoc, List.singleton_append]

/-! ## Keeping backups -/

/-- Different backups are all kept. -/
theorem foldl_keep (kept : List Script) (distinct : ((kept ++ backups).map key).Nodup) :
    backups.foldl keep kept = kept ++ backups :=
  foldl_changeFirst_of_absent (fun backup _ => backup) kept distinct

/-- A backup that is kept is the one with its key. -/
theorem ofKey?_keep (backups : List Script) (backup : Script) (file : Text) :
    ofKey? (keep backups backup) file =
      if backup.key = file then some backup else ofKey? backups file := by
  induction backups with
  | nil => exact ofKey?_cons backup [] file
  | cons first rest inductionHypothesis =>
      unfold keep at inductionHypothesis ⊢
      rw [changeFirst_cons]
      by_cases same : first.key = backup.key
      · rw [if_pos same, ofKey?_cons, ofKey?_cons, same]
        split <;> rfl
      · rw [if_neg same, ofKey?_cons, ofKey?_cons, inductionHypothesis]
        by_cases own : first.key = file
        · rw [if_pos own, if_pos own, if_neg fun kept => same (own.trans kept.symm)]
        · rw [if_neg own, if_neg own]

theorem map_key_keep (backups : List Script) (backup : Script) :
    (keep backups backup).map key =
      if backup.key ∈ backups.map key then backups.map key
      else backups.map key ++ [backup.key] :=
  map_key_changeFirst (fun _ => backup) (fun _ _ => rfl) backups

/-- Of the backups with one key, the last one is kept. -/
theorem ofKey?_foldl_keep (backups : List Script) (file : Text) :
    ofKey? (backups.foldl keep []) file = ofKey? backups.reverse file := by
  induction backups using List.reverseRecOn with
  | nil => rfl
  | append_singleton backups backup inductionHypothesis =>
      rw [List.foldl_append, List.foldl_cons, List.foldl_nil, ofKey?_keep, inductionHypothesis,
        List.reverse_append, List.reverse_singleton, List.singleton_append, ofKey?_cons]

theorem mem_of_mem_foldl_keep (distinct : ((backups.foldl keep []).map key).Nodup)
    (member : backup ∈ backups.foldl keep []) : backup ∈ backups := by
  have found := ofKey?_eq_some_of_mem distinct member
  rw [ofKey?_foldl_keep] at found
  exact List.mem_reverse.mp (mem_and_key_of_ofKey? found).1

/-- Backups are kept in the order in which their keys come up first. -/
theorem map_key_foldl_keep (backups : List Script) :
    (backups.foldl keep []).map key = (backups.map key).eraseDups := by
  induction backups using List.reverseRecOn with
  | nil => rfl
  | append_singleton backups backup inductionHypothesis =>
      rw [List.foldl_append, List.foldl_cons, List.foldl_nil, map_key_keep, inductionHypothesis,
        List.map_append, List.eraseDups_append, List.map_singleton]
      generalize backups.map key = files
      by_cases kept : backup.key ∈ files <;> simp [kept, List.removeAll, List.eraseDups_cons]

/-! ## Storing one backup -/

/-- The script with the text of another one that takes its place. -/
def withCodeOf (other? : Option Script) (script : Script) : Script :=
  { script with code := (other?.map Script.code).getD script.code }

@[simp]
theorem key_withCodeOf (other? : Option Script) (script : Script) :
    (script.withCodeOf other?).key = script.key :=
  rfl

@[simp]
theorem withCodeOf_none (script : Script) : script.withCodeOf none = script :=
  rfl

theorem store_cons (first : Script) (rest : List Script) (backup : Script) :
    store (first :: rest) backup =
      if first.key = backup.key then withCodeOf (some backup) first :: rest
      else first :: store rest backup :=
  changeFirst_cons _ _ first rest

theorem map_key_store (scripts : List Script) (backup : Script) :
    (store scripts backup).map key =
      if backup.key ∈ scripts.map key then scripts.map key
      else scripts.map key ++ [backup.key] :=
  map_key_changeFirst (fun script => { script with code := backup.code }) (fun _ same => same)
    scripts

/-- Scripts that are other files stay as they are. -/
theorem mem_store_of_ne (member : script ∈ scripts) (different : backup.key ≠ script.key) :
    script ∈ store scripts backup := by
  induction scripts with
  | nil => cases member
  | cons first rest inductionHypothesis =>
      rw [store_cons]
      split
      · rename_i same
        rcases List.mem_cons.mp member with rfl | member
        · exact absurd same.symm different
        · exact List.mem_cons_of_mem _ member
      · rcases List.mem_cons.mp member with rfl | member
        · exact List.mem_cons_self
        · exact List.mem_cons_of_mem _ (inductionHypothesis member)

/-! ## Storing all backups -/

/-- Storing backups keeps files apart. -/
theorem nodup_foldl_store (distinct : (scripts.map key).Nodup) :
    ((backups.foldl store scripts).map key).Nodup :=
  nodup_map_key_foldl map_key_store distinct

theorem mem_foldl_store_of_ne (member : script ∈ scripts)
    (different : ∀ backup ∈ backups, backup.key ≠ script.key) :
    script ∈ backups.foldl store scripts := by
  induction backups generalizing scripts with
  | nil => exact member
  | cons backup backups inductionHypothesis =>
      exact inductionHypothesis (mem_store_of_ne member (different backup List.mem_cons_self))
        fun other otherMember => different other (List.mem_cons_of_mem _ otherMember)

/-- Among backups of different files, the first script takes the one with its key,
and the other backups go to the scripts behind it. -/
theorem foldl_store_cons (distinct : (backups.map key).Nodup) (first : Script)
    (rest : List Script) :
    backups.foldl store (first :: rest) =
      first.withCodeOf (ofKey? backups first.key) ::
        (backups.filter fun backup => backup.key != first.key).foldl store rest := by
  induction backups generalizing first rest with
  | nil => rfl
  | cons backup backups inductionHypothesis =>
      rw [List.map_cons, List.nodup_cons] at distinct
      rw [List.foldl_cons, store_cons, ofKey?_cons, List.filter_cons]
      by_cases same : first.key = backup.key
      · -- No other backup has the key of this one, so the script keeps its new text.
        have absent : ofKey? backups first.key = none := by
          rw [ofKey?_eq_none_iff, same]
          exact distinct.1
        have others : ∀ other ∈ backups, (other.key != first.key) = true := by
          intro other member
          have different : other.key ≠ backup.key := fun sameKey =>
            distinct.1 (sameKey ▸ List.mem_map_of_mem member)
          simpa [same] using different
        have dropped : ¬(backup.key != first.key) = true := by simp [same]
        rw [if_pos same, if_pos same.symm, if_neg dropped, inductionHypothesis distinct.2,
          key_withCodeOf, absent, List.filter_eq_self.mpr others, withCodeOf_none]
      · have stays : (backup.key != first.key) = true := by simpa using Ne.symm same
        rw [if_neg same, if_neg (Ne.symm same), if_pos stays, List.foldl_cons,
          inductionHypothesis distinct.2]

theorem foldl_store_nil (distinct : (backups.map key).Nodup) : backups.foldl store [] = backups :=
  foldl_changeFirst_of_absent (fun backup script => { script with code := backup.code }) []
    distinct

theorem nodup_filter_key (distinct : (backups.map key).Nodup) (keep : Script → Bool) :
    ((backups.filter keep).map key).Nodup :=
  distinct.sublist (List.filter_sublist.map key)

/-- A script takes the backup with its key if it is the first one with it. -/
theorem getElem?_foldl_store (distinct : (backups.map key).Nodup) (earlier later : List Script)
    (script : Script) :
    (backups.foldl store (earlier ++ script :: later))[earlier.length]? =
      some (if script.key ∈ earlier.map key then script
        else script.withCodeOf (ofKey? backups script.key)) := by
  induction earlier generalizing backups with
  | nil =>
      rw [List.nil_append, foldl_store_cons distinct, List.length_nil, List.getElem?_cons_zero,
        List.map_nil, if_neg List.not_mem_nil]
  | cons first earlier inductionHypothesis =>
      rw [List.cons_append, foldl_store_cons distinct, List.length_cons, List.getElem?_cons_succ,
        inductionHypothesis (nodup_filter_key distinct _), List.map_cons]
      by_cases same : script.key = first.key
      · have absent : ofKey? (backups.filter fun backup => backup.key != first.key) script.key =
            none := by
          simp [ofKey?_eq_none_iff, same]
        rw [absent, withCodeOf_none, ite_self, same, if_pos List.mem_cons_self]
      · rw [ofKey?_filter_of_ne same]
        simp [same]

/-- Behind the scripts come the backups that take the place of none of them. -/
theorem drop_foldl_store (distinct : (backups.map key).Nodup) (scripts : List Script) :
    (backups.foldl store scripts).drop scripts.length =
      backups.filter fun backup => backup.key ∉ scripts.map key := by
  induction scripts generalizing backups with
  | nil =>
      simp [foldl_store_nil distinct]
  | cons first rest inductionHypothesis =>
      rw [foldl_store_cons distinct, List.length_cons, List.drop_succ_cons,
        inductionHypothesis (nodup_filter_key distinct _), List.filter_filter]
      refine List.filter_congr fun backup _ => ?_
      by_cases same : backup.key = first.key <;> simp [same]

/-- The first script with the key of a backup has the text of the backup. -/
theorem exists_ofKey?_foldl_store (distinct : (backups.map key).Nodup)
    (member : backup ∈ backups) (scripts : List Script) :
    ∃ stored, ofKey? (backups.foldl store scripts) backup.key = some stored ∧
      stored.code = backup.code := by
  induction scripts generalizing backups with
  | nil =>
      rw [foldl_store_nil distinct]
      exact ⟨backup, ofKey?_eq_some_of_mem distinct member, rfl⟩
  | cons first rest inductionHypothesis =>
      rw [foldl_store_cons distinct, ofKey?_cons, key_withCodeOf]
      by_cases same : first.key = backup.key
      · rw [if_pos same, same, ofKey?_eq_some_of_mem distinct member]
        exact ⟨_, rfl, rfl⟩
      · rw [if_neg same]
        apply inductionHypothesis (nodup_filter_key distinct _)
        rw [List.mem_filter]
        exact ⟨member, by simpa using Ne.symm same⟩

/-- All backups are stored. -/
theorem exists_mem_foldl_store (distinct : (backups.map key).Nodup) (member : backup ∈ backups)
    (scripts : List Script) :
    ∃ stored ∈ backups.foldl store scripts,
      stored.key = backup.key ∧ stored.code = backup.code := by
  rcases exists_ofKey?_foldl_store distinct member scripts with ⟨stored, found, code⟩
  rcases mem_and_key_of_ofKey? found with ⟨storedMember, same⟩
  exact ⟨stored, storedMember, same, code⟩

theorem mem_of_mem_store (member : script ∈ store scripts backup) :
    script ∈ scripts ∨ script.key = backup.key ∧ script.code = backup.code := by
  induction scripts with
  | nil => exact Or.inr (by rw [List.mem_singleton.mp member]; exact ⟨rfl, rfl⟩)
  | cons first rest inductionHypothesis =>
      rw [store_cons] at member
      split at member
      · rename_i same
        rcases List.mem_cons.mp member with rfl | member
        · exact Or.inr ⟨same, rfl⟩
        · exact Or.inl (List.mem_cons_of_mem _ member)
      · rcases List.mem_cons.mp member with rfl | member
        · exact Or.inl List.mem_cons_self
        · exact (inductionHypothesis member).imp_left (List.mem_cons_of_mem _)

/-- What is on the server after backups are stored was there, or has the key and the
text of a backup. -/
theorem mem_of_mem_foldl_store (member : script ∈ backups.foldl store scripts) :
    script ∈ scripts ∨
      ∃ backup ∈ backups, script.key = backup.key ∧ script.code = backup.code := by
  induction backups generalizing scripts with
  | nil => exact Or.inl member
  | cons backup backups inductionHypothesis =>
      rcases inductionHypothesis member with found | ⟨other, otherMember, same⟩
      · rcases mem_of_mem_store found with found | same
        · exact Or.inl found
        · exact Or.inr ⟨backup, List.mem_cons_self, same⟩
      · exact Or.inr ⟨other, List.mem_cons_of_mem _ otherMember, same⟩

theorem key_mem_of_mem_foldl_store (member : script ∈ backups.foldl store scripts) :
    script.key ∈ scripts.map key ∨ script.key ∈ backups.map key := by
  rcases mem_of_mem_foldl_store member with found | ⟨backup, backupMember, same, _⟩
  · exact Or.inl (List.mem_map_of_mem found)
  · exact Or.inr (same ▸ List.mem_map_of_mem backupMember)

end Script

end Respecify
