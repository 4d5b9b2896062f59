import SchemaHistory.Migration.Backup
import SchemaHistory.Proofs.Files.Unlinked
import SchemaHistory.Proofs.Migration.Reading

/-!
What a backup leaves.

A backup makes its directory, moves the folders one by one and copies the lock file. Of two paths that
are free of links and lead to directories apart from each other, the folders of the one are afterwards
found at the other as they were, and no other folder there has a file.
-/

namespace SchemaHistory

open FileSystem SchemaHistory.Path Action

namespace FileSystem

variable {fs fs' fs'' : FileSystem} {l k : Location} {name : Bytes} {names : List Bytes}

theorem Apart.append {k : Location} (apart : Apart l k) (r r' : Location) : Apart (l ++ r) (k ++ r') := by
  constructor <;> rintro ⟨s, same⟩ <;> rw [List.append_assoc] at same
  · exact apart.append_ne _ _ same
  · exact apart.append_ne _ _ same.symm

/-! ### Names that are moved one by one -/

/-- What is where after entries with some names were moved from one directory to another. -/
structure MovedAll (names : List Bytes) (source target : Location) (fs fs' : FileSystem) : Prop where
  workingDirectory : fs'.workingDirectory = fs.workingDirectory
  arrived : ∀ name ∈ names, ∀ r, fs'.entry? (target ++ name :: r) = fs.entry? (source ++ name :: r)
  others : ∀ k, (∀ name ∈ names, ¬ source ++ [name] <+: k) → (∀ name ∈ names, ¬ target ++ [name] <+: k) →
    fs'.entry? k = fs.entry? k

theorem MovedAll.nil (source target : Location) (fs : FileSystem) : MovedAll [] source target fs fs :=
  ⟨rfl, fun _ member => absurd member List.not_mem_nil, fun _ _ _ => rfl⟩

theorem concat_prefix_append_cons_iff {x y : Bytes} {r : Location} : l ++ [x] <+: l ++ y :: r ↔ x = y := by
  rw [List.prefix_append_right_inj, List.cons_prefix_cons]
  exact and_iff_left List.nil_prefix

theorem MovedAll.cons {source target : Location} (apart : Apart source target) (fresh : name ∉ names)
    (first : Moved (source ++ [name]) (target ++ [name]) fs fs')
    (rest : MovedAll names source target fs' fs'') :
    MovedAll (name :: names) source target fs fs'' := by
  have others : ∀ k, ¬ source ++ [name] <+: k → ¬ target ++ [name] <+: k → fs'.entry? k = fs.entry? k :=
    fun k outside outside' => by rw [first.others k outside', if_neg outside]
  refine ⟨rest.workingDirectory.trans first.workingDirectory, fun x member r => ?_,
    fun k outside outside' => ?_⟩
  · rcases List.mem_cons.1 member with rfl | later
    · rw [rest.others _ (fun y _ => (apart.append [y] (x :: r)).1) fun y there same =>
        fresh (concat_prefix_append_cons_iff.1 same ▸ there)]
      have arrived := first.arrived r
      rwa [List.append_assoc, List.append_assoc] at arrived
    · rw [rest.arrived x later, others _ (fun same => fresh (concat_prefix_append_cons_iff.1 same ▸ later))
        (apart.append (x :: r) [name]).2]
  · rw [List.forall_mem_cons] at outside outside'
    rw [rest.others k outside.2 outside'.2, others k outside.1 outside'.1]

/-- What is there stays, but for what is moved away, if nothing is at the new places. -/
theorem MovedAll.kept {source target : Location} {e : Entry} (moved : MovedAll names source target fs fs')
    (wf : fs.WellFormed) (free : ∀ name ∈ names, fs.entry? (target ++ [name]) = none)
    (there : fs.entry? k = some e) (outside : ∀ name ∈ names, ¬ source ++ [name] <+: k) :
    fs'.entry? k = some e := by
  rw [moved.others k outside fun name member => wf.not_prefix_of_eq_none (free name member) there, there]

/-- Entries that were moved, of which nothing is left at their old places. -/
structure Transferred (names : List Bytes) (source target : Location) (fs fs' : FileSystem) : Prop extends
    MovedAll names source target fs fs' where
  gone : ∀ name ∈ names, ∀ r, fs'.entry? (source ++ name :: r) = none

theorem Transferred.nil (source target : Location) (fs : FileSystem) : Transferred [] source target fs fs :=
  ⟨.nil _ _ _, fun _ member => absurd member List.not_mem_nil⟩

theorem Transferred.cons {source target : Location} (apart : Apart source target) (fresh : name ∉ names)
    (first : Moved (source ++ [name]) (target ++ [name]) fs fs')
    (rest : Transferred names source target fs' fs'') :
    Transferred (name :: names) source target fs fs'' := by
  refine ⟨.cons apart fresh first rest.toMovedAll, fun x member r => ?_⟩
  rcases List.mem_cons.1 member with rfl | later
  · rw [rest.others (source ++ x :: r)
        (fun y there same => fresh (concat_prefix_append_cons_iff.1 same ▸ there))
        fun y _ => (apart.append (x :: r) [y]).2,
      first.others _ (apart.append (x :: r) [x]).2, if_pos (concat_prefix_append_cons_iff.2 rfl)]
  · exact rest.gone x later r

end FileSystem

namespace Backup

variable {fs fs' : FileSystem} {p q : Path} {name : Bytes} {names : List Bytes}

/-- Two paths free of links, to directories of which none is in the other. -/
structure Parted (p q : Path) (fs : FileSystem) : Prop where
  wellFormed : fs.WellFormed
  unlinked : fs.Unlinked p
  unlinked' : fs.Unlinked q
  apart : Apart (fs.goalOf p) (fs.goalOf q)

theorem Parted.congr (parted : Parted p q fs) (same : fs'.workingDirectory = fs.workingDirectory)
    (wellFormed : fs'.WellFormed) (unlinked : fs'.Unlinked p) (unlinked' : fs'.Unlinked q) :
    Parted p q fs' := by
  refine ⟨wellFormed, unlinked, unlinked', ?_⟩
  rw [goalOf_congr same, goalOf_congr same]
  exact parted.apart

theorem Parted.of_grown (parted : Parted p q fs) (grown : Grown fs fs') : Parted p q fs' :=
  parted.congr grown.workingDirectory (grown.wellFormed parted.wellFormed) (grown.unlinked parted.unlinked)
    (grown.unlinked parted.unlinked')

/-- Two paths free of links, to directories of which none is in the other, such that the way of the second
does not lead through the entries of the first with some names. -/
structure Ready (p q : Path) (names : List Bytes) (fs : FileSystem) : Prop where
  wellFormed : fs.WellFormed
  unlinked : fs.Unlinked p
  unlinked' : fs.Unlinked q
  apart : Apart (fs.goalOf p) (fs.goalOf q)
  clear : ∀ name ∈ names, ∀ k ∈ fs.wayOf q, ¬ fs.goalOf p ++ [name] <+: k

theorem Ready.parted (ready : Ready p q names fs) : Parted p q fs :=
  ⟨ready.wellFormed, ready.unlinked, ready.unlinked', ready.apart⟩

theorem Ready.congr (ready : Ready p q names fs) (same : fs'.workingDirectory = fs.workingDirectory)
    (parted : Parted p q fs') : Ready p q names fs' := by
  refine ⟨parted.wellFormed, parted.unlinked, parted.unlinked', parted.apart, ?_⟩
  rw [goalOf_congr same, wayOf_congr same]
  exact ready.clear

/-- A directory that is there, at a path behind which names can be looked up. -/
structure Target (q : Path) (names : List Bytes) (fs : FileSystem) : Prop where
  opens : fs.Opens q
  home : fs.entry? (fs.goalOf q) = some .directory
  fits : ∀ name ∈ names, (q.join ⟨name⟩).Fits ∧ name.length ≤ nameLimit

theorem moved_of_move {u : Unit} (parted : Parted p q fs) (isName : IsName name)
    (valid : name.text?.isSome = true) (done : move q (Folder.inDirectory p name) fs = .ok u fs') :
    Moved (fs.goalOf p ++ [name]) (fs.goalOf q ++ [name]) fs fs' ∧ Parted p q fs' ∧ Target q [name] fs := by
  have renamed : fs.rename (p.join ⟨name⟩) (q.join ⟨name⟩) = .ok fs' := by
    have := change_eq_ok_iff.1 (adaptExcept_eq_ok_iff.1 done)
    rwa [destination, Path.ofString, Folder.inDirectory, Bytes.ofString_shown valid] at this
  obtain ⟨fits, short, opens, home, moved, -⟩ := moved_of_rename
    parted.unlinked.onWay parted.unlinked'.onWay isName isName (parted.apart.append_ne _ _) renamed
  have noLink : ∀ r t, fs.entry? (fs.goalOf p ++ [name] ++ r) ≠ some (.link t) := fun r => by
    rw [List.append_assoc]
    exact parted.unlinked.below _
  refine ⟨moved, ?_, opens, home, List.forall_mem_singleton.2 ⟨fits, short⟩⟩
  exact parted.congr moved.workingDirectory (parted.wellFormed.rename renamed)
    (moved.unlinked noLink parted.unlinked) (moved.unlinked noLink parted.unlinked')

theorem transferred_of_forM {u : Unit} (parted : Parted p q fs) (nodup : names.Nodup)
    (areNames : ∀ name ∈ names, IsName name) (valid : ∀ name ∈ names, name.text?.isSome = true)
    (done : (names.map (Folder.inDirectory p)).forM (move q) fs = .ok u fs') :
    Transferred names (fs.goalOf p) (fs.goalOf q) fs fs' ∧ Parted p q fs' ∧
      (names ≠ [] → Target q names fs) := by
  induction names generalizing fs with
  | nil =>
    cases done
    exact ⟨.nil _ _ _, parted, fun some => absurd rfl some⟩
  | cons name rest ih =>
    rw [List.map_cons, forM_cons_eq_ok_iff] at done
    obtain ⟨_, fs₁, first, later⟩ := done
    rw [List.nodup_cons] at nodup
    rw [List.forall_mem_cons] at areNames valid
    obtain ⟨moved, parted₁, target⟩ := moved_of_move parted areNames.1 valid.1 first
    obtain ⟨transferred, parted', targetRest⟩ := ih parted₁ nodup.2 areNames.2 valid.2 later
    rw [goalOf_congr moved.workingDirectory, goalOf_congr moved.workingDirectory] at transferred
    refine ⟨.cons parted.apart nodup.1 moved transferred, parted', fun _ => ⟨target.opens, target.home, ?_⟩⟩
    refine List.forall_mem_cons.2 ⟨target.fits name List.mem_cons_self, fun x member => ?_⟩
    exact (targetRest (List.ne_nil_of_mem member)).fits x member

/-! ### The checks -/

theorem check_apply (q : Path) (f : Folder) (fs : FileSystem) : check q f fs =
    if fs.pathExists (destination q f) then .error (.backupExists (destination q f)) fs
    else .ok () fs := by
  change (if fs.pathExists (destination q f) then throw _ else pure () : Action Failure Unit) fs = _
  split <;> rfl

/-- The checks pass if no destination leads to an entry. -/
theorem forM_check_eq_ok_iff {folders : List Folder} {u : Unit} : folders.forM (check q) fs = .ok u fs' ↔
    (∀ f ∈ folders, fs.pathExists (destination q f) = false) ∧ fs' = fs := by
  induction folders with
  | nil =>
    constructor
    · rintro ⟨⟩
      exact ⟨fun _ member => absurd member List.not_mem_nil, rfl⟩
    · rintro ⟨-, rfl⟩
      rfl
  | cons f rest ih =>
    rw [forM_cons_eq_ok_iff, List.forall_mem_cons, check_apply]
    constructor
    · rintro ⟨_, _, first, later⟩
      split at first
      · exact nomatch first
      · rename_i free
        cases first
        obtain ⟨others, rfl⟩ := ih.1 later
        exact ⟨⟨Bool.eq_false_iff.2 free, others⟩, rfl⟩
    · rintro ⟨⟨free, others⟩, rfl⟩
      exact ⟨(), fs', by rw [if_neg (by simp [free])], ih.2 ⟨others, rfl⟩⟩

/-- A destination that does not exist is free if it can be looked up. -/
theorem Target.free (target : Target q names fs) (unlinked' : fs.Unlinked q)
    (areNames : ∀ name ∈ names, IsName name) (valid : ∀ name ∈ names, name.text?.isSome = true)
    (checked : ∀ f ∈ names.map (Folder.inDirectory p), fs.pathExists (destination q f) = false) :
    ∀ name ∈ names, fs.entry? (fs.goalOf q ++ [name]) = none := by
  intro name member
  cases there : fs.entry? (fs.goalOf q ++ [name]) with
  | none => rfl
  | some e =>
    obtain ⟨fits, short⟩ := target.fits name member
    have resolved := (unlinked'.resolve_join_iff (areNames name member)).2
      ⟨target.opens, fits, short, rfl, there⟩
    have missing := checked _ (List.mem_map_of_mem member)
    rw [pathExists, destination, Path.ofString, Folder.inDirectory, Bytes.ofString_shown (valid name member),
      resolved] at missing
    cases missing

/-! ### The whole backup -/

/-- The checks before the moves leave everything as it is. -/
theorem leftBy_forM_check (folders : List Folder) (q : Path) (fs : FileSystem) :
    leftBy (folders.forM (check q) fs) = fs := by
  suffices Keeps Eq (folders.forM (check q)) from (this fs).symm
  refine .forM fun f _ => .bind .get fun fs => ?_
  split
  · exact .throw _
  · exact .pure _

/-- The steps of a backup that succeeds. -/
theorem make_eq_ok {folders : List Folder} {lockFile : String} {b : Backup}
    (made : make folders p q lockFile fs = .ok b fs') :
    ∃ u u' fs₁ fs₂, makeDirectories q fs = .ok u fs₁ ∧
      (∀ f ∈ folders, fs₁.pathExists (destination q f) = false) ∧ folders.forM (move q) fs₁ = .ok u' fs₂ ∧
        b = ⟨folders.map (·.name), fs₂.isFile (p.join (.ofString lockFile))⟩ ∧
          (b.lockFileCopied = false ∧ fs' = fs₂ ∨ b.lockFileCopied = true ∧
            ∃ u, copy (p.join (.ofString lockFile)) (q.join (.ofString lockFile)) fs₂ = .ok u fs') := by
  rw [make] at made
  simp only [bind_eq_ok_iff] at made
  obtain ⟨u, fs₁, directories, _, fs₂, passed, u', fs₃, moves, _, _, ⟨⟩, made⟩ := made
  obtain ⟨checked, rfl⟩ := forM_check_eq_ok_iff.1 passed
  refine ⟨u, u', fs₂, fs₃, adaptExcept_eq_ok_iff.1 directories, checked, moves, ?_⟩
  split at made
  · rename_i there
    obtain ⟨_, _, copied, made⟩ := bind_eq_ok_iff.1 made
    cases made
    exact ⟨rfl, Or.inr ⟨there, _, adaptExcept_eq_ok_iff.1 copied⟩⟩
  · rename_i missing
    cases made
    exact ⟨rfl, Or.inl ⟨Bool.eq_false_iff.2 missing, rfl⟩⟩

theorem makeDirectories_empty (fs : FileSystem) : makeDirectories ⟨[]⟩ fs = .ok () fs := rfl

/-- Folders with some names are at the second path as they were at the first one, and nothing else there
has a file. -/
structure BackedUp (p q : Path) (names : List Bytes) (fs fs' : FileSystem) : Prop where
  workingDirectory : fs'.workingDirectory = fs.workingDirectory
  ready : Ready p q names fs'
  opens : fs'.Opens q
  fits : q.Fits
  fitsBehind : ∀ name ∈ names, (q.join ⟨name⟩).Fits ∧ name.length ≤ nameLimit
  folder : ∀ name ∈ names, fs'.entry? (fs.goalOf q ++ [name]) = some .directory
  file : ∀ name ∈ names, ∀ x c, fs'.entry? (fs.goalOf q ++ [name, x]) = some (.file c) ↔
    fs.entry? (fs.goalOf p ++ [name, x]) = some (.file c)
  noFile : ∀ name, name ∉ names → ∀ x c, fs'.entry? (fs.goalOf q ++ [name, x]) ≠ some (.file c)

/-- What was changed is free of links and outside of the second directory, and the way to that is as
it was. -/
structure Spared (p q : Path) (fs fs' : FileSystem) : Prop where
  workingDirectory : fs'.workingDirectory = fs.workingDirectory
  wellFormed : fs'.WellFormed
  unlinked : fs'.Unlinked p
  unlinked' : fs'.Unlinked q
  way : ∀ k ∈ fs.wayOf q, fs.entry? k = some .directory → fs'.entry? k = some .directory
  untouched : ∀ r, fs'.entry? (fs.goalOf q ++ r) = fs.entry? (fs.goalOf q ++ r)

namespace Spared

theorem refl (wf : fs.WellFormed) (unlinked : fs.Unlinked p) (unlinked' : fs.Unlinked q) :
    Spared p q fs fs :=
  ⟨rfl, wf, unlinked, unlinked', fun _ _ there => there, fun _ => rfl⟩

theorem trans {fs'' : FileSystem} (first : Spared p q fs fs') (second : Spared p q fs' fs'') :
    Spared p q fs fs'' := by
  have way := second.way
  have untouched := second.untouched
  rw [wayOf_congr first.workingDirectory] at way
  rw [goalOf_congr first.workingDirectory] at untouched
  exact ⟨second.workingDirectory.trans first.workingDirectory, second.wellFormed, second.unlinked,
    second.unlinked', fun k onWay there => way k onWay (first.way k onWay there),
    fun r => (untouched r).trans (first.untouched r)⟩

/-- A new file or directory elsewhere leaves the backup alone. -/
theorem put {d : Location} {e : Entry} (wf : fs.WellFormed) (unlinked : fs.Unlinked p)
    (unlinked' : fs.Unlinked q) (isName : IsName name) (home : fs.entry? d = some .directory)
    (free : fs.entry? (d ++ [name]) = none) (noLink : ∀ t, e ≠ .link t)
    (outside : ¬ fs.goalOf q <+: d ++ [name]) : Spared p q fs (fs.put (d ++ [name]) e) := by
  refine ⟨workingDirectory_put .., wf.put isName home fun there => ?_, unlinked.put (by simp) noLink,
    unlinked'.put (by simp) noLink, fun k _ there => ?_, fun r => ?_⟩
  · exact nomatch free.symm.trans there
  · rw [entry?_put (by simp), if_neg, there]
    rintro rfl
    exact nomatch free.symm.trans there
  · rw [entry?_put (by simp), if_neg]
    exact fun same => outside (same ▸ List.prefix_append _ r)

end Spared

/-- What is backed up stays so if it is spared. -/
theorem BackedUp.of_spared {fs₂ : FileSystem} (backedUp : BackedUp p q names fs fs₂)
    (spared : Spared p q fs₂ fs') : BackedUp p q names fs fs' := by
  have untouched := spared.untouched
  rw [goalOf_congr backedUp.workingDirectory] at untouched
  exact {
    workingDirectory := spared.workingDirectory.trans backedUp.workingDirectory
    ready := backedUp.ready.congr spared.workingDirectory
      (backedUp.ready.parted.congr spared.workingDirectory spared.wellFormed spared.unlinked
        spared.unlinked')
    opens := backedUp.opens.congr spared.workingDirectory spared.way
    fits := backedUp.fits
    fitsBehind := backedUp.fitsBehind
    folder := fun name member => by rw [untouched, backedUp.folder name member]
    file := fun name member x c => by rw [untouched]; exact backedUp.file name member x c
    noFile := fun name other x c => by rw [untouched]; exact backedUp.noFile name other x c }

/-- A lock file that is copied changes none of this. -/
theorem BackedUp.of_written {fs₂ : FileSystem} {lock content : Bytes} (backedUp : BackedUp p q names fs fs₂)
    (written : Written (fs₂.goalOf q ++ [lock]) content fs₂ fs') : BackedUp p q names fs fs' := by
  have goals := goalOf_congr backedUp.workingDirectory q
  have others : ∀ name x, fs'.entry? (fs.goalOf q ++ [name, x]) = fs₂.entry? (fs.goalOf q ++ [name, x]) :=
    fun name x => written.others _ fun same => by simp [goals] at same
  exact {
    workingDirectory := written.workingDirectory.trans backedUp.workingDirectory
    ready := backedUp.ready.congr written.workingDirectory
      (backedUp.ready.parted.congr written.workingDirectory (written.wellFormed backedUp.ready.wellFormed)
        (written.unlinked backedUp.ready.unlinked) (written.unlinked backedUp.ready.unlinked'))
    opens := written.opens backedUp.opens
    fits := backedUp.fits
    fitsBehind := backedUp.fitsBehind
    folder := fun name member => written.directory (backedUp.folder name member)
    file := fun name member x c => by rw [others]; exact backedUp.file name member x c
    noFile := fun name other x c => by rw [others]; exact backedUp.noFile name other x c }

section Make

variable (ready : Ready p q names fs) (fresh : fs.entry? (fs.goalOf q) = none) (nonempty : names ≠ [])
  (nodup : names.Nodup) (areNames : ∀ name ∈ names, IsName name)
  (valid : ∀ name ∈ names, name.text?.isSome = true)
  (folders : ∀ name ∈ names, fs.entry? (fs.goalOf p ++ [name]) = some .directory)

include ready fresh nonempty nodup areNames valid folders

/-- What is there when the folders have been moved. -/
theorem backedUp_of_moves {fs₁ : FileSystem} {u u' : Unit} (made : makeDirectories q fs = .ok u fs₁)
    (checked : ∀ f ∈ names.map (Folder.inDirectory p), fs₁.pathExists (destination q f) = false)
    (moves : (names.map (Folder.inDirectory p)).forM (move q) fs₁ = .ok u' fs') :
    BackedUp p q names fs fs' := by
  have grown := Grown.of_makeDirectories made
  have goals := goalOf_congr grown.workingDirectory
  have ready₁ := ready.congr grown.workingDirectory (ready.parted.of_grown grown)
  obtain ⟨transferred, parted', target⟩ := transferred_of_forM ready₁.parted nodup areNames valid moves
  have target := target nonempty
  have free := target.free ready₁.unlinked' areNames valid checked
  have opens : fs'.Opens q := target.opens.congr transferred.workingDirectory fun k onWay directory =>
    transferred.kept ready₁.wellFormed free directory fun name member => ready₁.clear name member k onWay
  have ready' := ready₁.congr transferred.workingDirectory parted'
  have noFile : ∀ r c, fs₁.entry? (fs.goalOf q ++ r) ≠ some (.file c) := fun r c there => by
    have there := grown.of_entry? there (by simp)
    exact ready.wellFormed.not_prefix_of_eq_none fresh there (List.prefix_append _ r)
  rw [goals, goals] at transferred
  refine ⟨transferred.workingDirectory.trans grown.workingDirectory, ready', opens, ?fits, target.fits,
    fun name member => ?folder, fun name member x c => ?file, fun name other x c => ?noFile⟩
  case fits =>
    obtain ⟨name, member⟩ := List.exists_mem_of_ne_nil names nonempty
    refine (target.fits name member).1.of_join (areNames name member) fun empty => ?_
    -- no directory is made for the empty path
    obtain rfl : q = ⟨[]⟩ := congrArg Path.mk empty
    rw [makeDirectories_empty] at made
    cases made
    exact nomatch fresh.symm.trans target.home
  case folder =>
    rw [transferred.arrived name member]
    exact grown.entry?_of_some (folders name member)
  case file =>
    rw [transferred.arrived name member]
    exact ⟨fun there => grown.of_entry? there (by simp), fun there => grown.entry?_of_some there⟩
  case noFile =>
    rw [transferred.others _ (fun y _ => (ready.apart.append [y] _).1) fun y there same => ?_]
    · exact noFile _ c
    · exact other (concat_prefix_append_cons_iff.1 same ▸ there)

theorem backedUp_of_make {lockFile : String} {b : Backup} (isLock : IsName (.ofString lockFile))
    (done : make (names.map (Folder.inDirectory p)) p q lockFile fs = .ok b fs') :
    BackedUp p q names fs fs' := by
  obtain ⟨u, u', fs₁, fs₂, made, checked, moves, -, ⟨-, rfl⟩ | ⟨-, u'', copied⟩⟩ := make_eq_ok done
  · exact backedUp_of_moves ready fresh nonempty nodup areNames valid folders made checked moves
  · have backedUp := backedUp_of_moves ready fresh nonempty nodup areNames valid folders made checked moves
    obtain ⟨name, member⟩ := List.exists_mem_of_ne_nil names nonempty
    have home : fs₂.entry? (fs₂.goalOf q) = some .directory := by
      rw [goalOf_congr backedUp.workingDirectory]
      exact backedUp.ready.wellFormed.directory_of_entry (List.cons_ne_nil _ _)
        (backedUp.folder name member)
    obtain ⟨content, written⟩ := written_of_copy backedUp.opens home isLock
      (backedUp.ready.unlinked'.below [_]) copied
    exact backedUp.of_written written

end Make

end Backup

end SchemaHistory
