import SchemaHistory.Proofs.Action
import SchemaHistory.Proofs.Files.Entry

/-!
What a change does that takes place.

For each single change: the conditions under which it is not refused, and the files that it leaves.
-/

namespace SchemaHistory

/-- A question is answered where both of its parts are. -/
theorem except_bind_eq_ok_iff {ε α β : Type} {x : Except ε α} {f : α → Except ε β} {b : β} :
    (x >>= f) = .ok b ↔ ∃ a, x = .ok a ∧ f a = .ok b := by
  cases x with
  | error e => simp [bind, Except.bind]
  | ok a => simp [bind, Except.bind]

/-- An answer whose refusals are given another form. -/
theorem mapError_eq_ok_iff {ε ε' α : Type} {x : Except ε α} {f : ε → ε'} {a : α} :
    x.mapError f = .ok a ↔ x = .ok a := by
  cases x <;> simp [Except.mapError]

/-- What is refused under a condition is answered if the condition does not hold. -/
theorem guarded_eq_ok_iff {ε α : Type} {c : Prop} [Decidable c] {e : ε} {x : Except ε α} {a : α} :
    (if c then throw e else x) = .ok a ↔ ¬ c ∧ x = .ok a := by
  by_cases held : c
  · rw [if_pos held]
    exact iff_of_false (fun refused => nomatch refused) fun answered => answered.1 held
  · simp [held]

theorem eq_ok_of_toOption {ε α : Type} {x : Except ε α} {a : α} (found : x.toOption = some a) :
    x = .ok a := by
  cases x with
  | error e => exact nomatch found
  | ok b => exact congrArg Except.ok (Option.some.inj found)

namespace FileSystem

variable {fs fs' : FileSystem} {p old new : Path} {content : Bytes} {l : Location} {e : Entry}

/-! ### Questions -/

theorem resolve_eq_ok_iff :
    fs.resolve p = .ok (l, e) ↔ fs.locate true p = .ok l ∧ fs.entry? l = some e := by
  rw [resolve, except_bind_eq_ok_iff]
  constructor
  · rintro ⟨at_, located, found⟩
    split at found
    · rename_i there
      obtain ⟨rfl, rfl⟩ := Prod.mk.inj (Except.ok.inj found)
      exact ⟨located, there⟩
    · exact nomatch found
  · rintro ⟨located, there⟩
    refine ⟨l, located, ?_⟩
    rw [there]
    rfl

theorem readBytes_eq_ok_iff :
    fs.readBytes p = .ok content ↔ ∃ l, fs.resolve p = .ok (l, .file content) := by
  rw [readBytes, except_bind_eq_ok_iff]
  constructor
  · rintro ⟨⟨l, e⟩, resolved, read⟩
    cases e with
    | file c =>
      obtain rfl := Except.ok.inj read
      exact ⟨l, resolved⟩
    | directory => exact nomatch read
    | link target => exact nomatch read
  · rintro ⟨l, resolved⟩
    exact ⟨_, resolved, rfl⟩

/-! ### Changes -/

theorem makeDirectory_eq_ok (made : fs.makeDirectory p = .ok fs') :
    ∃ slot, fs.slotOf p = .ok slot ∧ slot.isNamed = true ∧ fs.entry? slot.location = none ∧
      fs' = fs.put slot.location .directory := by
  rw [makeDirectory, except_bind_eq_ok_iff] at made
  obtain ⟨slot, found, made⟩ := made
  obtain ⟨free, made⟩ := guarded_eq_ok_iff.1 made
  rw [Bool.or_eq_true, not_or, Bool.not_eq_true', Bool.not_eq_false, Option.not_isSome_iff_eq_none]
    at free
  exact ⟨slot, found, free.1, free.2, (Except.ok.inj made).symm⟩

theorem writeBytes_eq_ok (written : fs.writeBytes p content = .ok fs') :
    p.endsInSlash = false ∧ ∃ l, fs.locate true p = .ok l ∧ fs.entry? l ≠ some .directory ∧
      fs' = fs.put l (.file content) := by
  rw [writeBytes] at written
  split at written
  · obtain ⟨_, _, refused⟩ := except_bind_eq_ok_iff.1 written
    exact nomatch refused
  · rename_i noSlash
    obtain ⟨l, located, written⟩ := except_bind_eq_ok_iff.1 written
    refine ⟨Bool.eq_false_iff.2 noSlash, l, located, ?_⟩
    split at written
    · exact nomatch written
    · rename_i other
      obtain ⟨-, written⟩ := guarded_eq_ok_iff.1 written
      exact ⟨other, (Except.ok.inj written).symm⟩

/-- What may stand where an entry is moved to: nothing, an empty directory for a directory, and what is no
directory for what is none. -/
def MayReplace (fs : FileSystem) (e : Entry) (goal : Location) : Prop :=
  ∀ there, fs.entry? goal = some there →
    (there = .directory ↔ e = .directory) ∧ (there = .directory → fs.below goal = [])

/-- An entry that is renamed is moved with all that is below it, or it has the new name already. -/
theorem rename_eq_ok (renamed : fs.rename old new = .ok fs') :
    ∃ source target e, fs.slotOf old = .ok source ∧ fs.slotOf new = .ok target ∧
      source.isNamed = true ∧ target.isNamed = true ∧ fs.entry? source.location = some e ∧
      (e ≠ .directory → source.slashed = false ∧ target.slashed = false) ∧
      ¬ source.location <+: target.directory ∧ ¬ target.location <+: source.directory ∧
      (source.location = target.location ∧ fs' = fs ∨
        source.location ≠ target.location ∧ fs.MayReplace e target.location ∧
          fs' = (fs.cut target.location).relocate source.location target.location) := by
  rw [rename, except_bind_eq_ok_iff] at renamed
  obtain ⟨source, sourceFound, renamed⟩ := renamed
  obtain ⟨target, targetFound, renamed⟩ := except_bind_eq_ok_iff.1 renamed
  obtain ⟨named, renamed⟩ := guarded_eq_ok_iff.1 renamed
  rw [Bool.or_eq_true, not_or, Bool.not_eq_true', Bool.not_eq_true', Bool.not_eq_false,
    Bool.not_eq_false] at named
  simp only at renamed
  split at renamed
  case h_1 => exact nomatch renamed
  case h_2 e there =>
    obtain ⟨plain, renamed⟩ := guarded_eq_ok_iff.1 renamed
    obtain ⟨notInside, renamed⟩ := guarded_eq_ok_iff.1 renamed
    obtain ⟨notAbove, renamed⟩ := guarded_eq_ok_iff.1 renamed
    rw [List.isPrefixOf_iff_prefix] at notInside notAbove
    rw [Bool.and_eq_true, bne_iff_ne, not_and, Bool.or_eq_true, not_or, Bool.not_eq_true, Bool.not_eq_true]
      at plain
    refine ⟨source, target, e, sourceFound, targetFound, named.1, named.2, there, plain, notInside,
      notAbove, ?_⟩
    split at renamed
    · rename_i same
      exact Or.inl ⟨eq_of_beq same, (Except.ok.inj renamed).symm⟩
    · rename_i other
      refine Or.inr ⟨fun same => other (beq_iff_eq.2 same), ?_⟩
      -- what is there: nothing, a directory, or a file or a link
      split at renamed
      case h_1 nothing =>
        refine ⟨fun _ found => ?_, (Except.ok.inj renamed).symm⟩
        exact nomatch nothing.symm.trans found
      case h_2 directory =>
        obtain ⟨isDirectory, renamed⟩ := guarded_eq_ok_iff.1 renamed
        split at renamed
        · rename_i empty
          refine ⟨fun there found => ?_, (Except.ok.inj renamed).symm⟩
          obtain rfl := Option.some.inj (directory.symm.trans found)
          exact ⟨iff_of_true rfl (by simpa using isDirectory), fun _ => List.isEmpty_iff.1 empty⟩
        · exact nomatch renamed
      case h_3 there' noDirectory found =>
        obtain ⟨alike, renamed⟩ := guarded_eq_ok_iff.1 renamed
        refine ⟨fun there found' => ?_, (Except.ok.inj renamed).symm⟩
        obtain rfl := Option.some.inj (found.symm.trans found')
        exact ⟨iff_of_false noDirectory fun same => alike (beq_iff_eq.2 same),
          fun directory => (noDirectory directory).elim⟩

/-- An entry is moved to a free place, if that is not inside of the entry. -/
theorem rename_of_free {source target : Slot} (found : fs.slotOf old = .ok source)
    (found' : fs.slotOf new = .ok target) (named : source.isNamed = true) (named' : target.isNamed = true)
    (plain : source.slashed = false) (plain' : target.slashed = false)
    (there : fs.entry? source.location = some e) (inside : ¬ source.location <+: target.directory)
    (above : ¬ target.location <+: source.directory) (free : fs.entry? target.location = none) :
    fs.rename old new = .ok ((fs.cut target.location).relocate source.location target.location) := by
  have other : (source.location == target.location) = false :=
    beq_eq_false_iff_ne.2 fun same => nomatch (same ▸ there).symm.trans free
  rw [← List.isPrefixOf_iff_prefix] at inside above
  rw [rename, found, found']
  simp [bind, Except.bind, named, named', plain, plain', there, inside, above, other, free]
  rfl

/-! ### Steps -/

namespace Action

theorem change_eq_ok_iff {ε : Type} {f : FileSystem → Except ε FileSystem} {u : Unit} :
    change f fs = .ok u fs' ↔ f fs = .ok fs' := by
  rw [change]
  cases f fs <;> simp

theorem change_eq_error_iff {ε : Type} {f : FileSystem → Except ε FileSystem} {e : ε} :
    change f fs = .error e fs' ↔ f fs = .error e ∧ fs' = fs := by
  rw [change]
  cases f fs <;> simp [eq_comm]

theorem ask_eq_ok_iff {ε α : Type} {f : FileSystem → Except ε α} {a : α} :
    ask f fs = .ok a fs' ↔ f fs = .ok a ∧ fs' = fs := by
  rw [ask]
  cases f fs with
  | ok b => simp [eq_comm]
  | error e => simp

/-- A file is filled with the whole text unless the system stops. -/
theorem fill_eq_ok_iff {text : String} {stop : Option Stop} {u : Unit} :
    fill stop p text fs = .ok u fs' ↔ stop = none ∧ fs.writeText p text = .ok fs' := by
  cases stop with
  | none => simp only [fill, change_eq_ok_iff, true_and]
  | some stop =>
    simp only [fill, bind_eq_ok_iff, reduceCtorEq, false_and, iff_false]
    rintro ⟨_, _, -, thrown⟩
    cases thrown

/-- A file that is not filled is left with a part of the text, if it was changed at all. -/
theorem fill_eq_error {text : String} {stop : Option Stop} {e : SystemError}
    (failed : fill stop p text fs = .error e fs') :
    fs' = fs ∨ ∃ part, part <+: Bytes.ofString text ∧ fs.writeBytes p part = .ok fs' := by
  cases stop with
  | none =>
    rw [fill] at failed
    exact Or.inl (change_eq_error_iff.1 failed).2
  | some stop =>
    rw [fill] at failed
    rcases bind_eq_error_iff.1 failed with refused | ⟨_, fs₁, begun, thrown⟩
    · exact Or.inl (change_eq_error_iff.1 refused).2
    · cases thrown
      exact Or.inr ⟨_, List.take_prefix stop.after _, change_eq_ok_iff.1 begun⟩

section Relation

variable {R : FileSystem → FileSystem → Prop} [IsPreorder FileSystem R]

theorem keeps_change {ε : Type} {f : FileSystem → Except ε FileSystem}
    (each : ∀ fs fs', f fs = .ok fs' → R fs fs') : Keeps R (change f) := by
  intro fs
  rw [change]
  cases made : f fs with
  | ok fs' => exact each fs fs' made
  | error e => exact refl_of R fs

theorem keeps_ask {ε α : Type} (f : FileSystem → Except ε α) : Keeps R (ask f) := by
  intro fs
  rw [ask]
  cases f fs <;> exact refl_of R fs

theorem keeps_ifDirectory {ε α : Type} (p : Path) {x y : Action ε α} (there : Keeps R x)
    (notThere : Keeps R y) : Keeps R (do if (← get).isDirectory p then x else y) := by
  refine .bind .get fun fs => ?_
  split
  · exact there
  · exact notThere

theorem keeps_attempt {p : Path} (each : ∀ fs fs', fs.makeDirectory p = .ok fs' → R fs fs') {α β : Type}
    {f : Unit → Action SystemError α} {handle : SystemError → Action SystemError α}
    {next : α → Action SystemError β} (done : ∀ u, Keeps R (f u)) (failed : ∀ e, Keeps R (handle e))
    (after : ∀ a, Keeps R (next a)) :
    Keeps R (tryCatch (change (makeDirectory · p) >>= f) handle >>= next) :=
  .bind (.tryCatch (.bind (keeps_change each) done) failed) after

/-- What is kept by making the directory of each of some paths is kept when those above one of them are made
as well. -/
theorem keeps_makeDirectoryIn (above : List Path) (p : Path)
    (each : ∀ p' ∈ p :: above, ∀ fs fs', fs.makeDirectory p' = .ok fs' → R fs fs') :
    Keeps R (makeDirectoryIn above p) := by
  induction above generalizing p with
  | nil =>
    rw [makeDirectoryIn]
    split
    · exact .pure _
    · refine keeps_attempt (each p List.mem_cons_self) (fun _ => .pure _) (fun e => ?_) fun r => ?_
      · split
        · exact .throw _
        · exact keeps_ifDirectory p (.pure _) (.throw _)
      · cases r <;> exact .pure _
  | cons parent rest ih =>
    rw [List.forall_mem_cons] at each
    rw [makeDirectoryIn]
    split
    · exact .pure _
    · refine keeps_attempt each.1 (fun _ => .pure _) (fun e => ?_) fun r => ?_
      · split
        · refine .bind (ih parent each.2) fun _ => ?_
          refine keeps_attempt each.1 (fun _ => .pure _) (fun e => ?_) fun r => ?_
          · exact keeps_ifDirectory p (.pure _) (.throw _)
          · cases r <;> exact .pure _
        · exact keeps_ifDirectory p (.pure _) (.throw _)
      · cases r <;> exact .pure _

theorem keeps_makeDirectories (each : ∀ fs fs' p, fs.makeDirectory p = .ok fs' → R fs fs') (p : Path) :
    Keeps R (makeDirectories p) :=
  keeps_makeDirectoryIn _ _ fun p' _ fs fs' => each fs fs' p'

end Relation

end Action

end FileSystem

end SchemaHistory
