import Signpost.Proofs.Files.Ancestors
import Signpost.Site.Load

/-!
# Searching upward

A search goes from a path to the one above it, as the path is written, until a file of the name is
there. The paths above get shorter, so there is an end of them, and the search passes all of them:
it finds the nearest file and misses none. A directory of the name is passed like nothing.
-/

namespace Signpost

open FilePath (parent? ancestors join isAbsolute)

variable {disk : Disk} {start name path above : Text} {n : Nat}

/-! ## The paths above -/

namespace FilePath

/-- The path that is `n` times above another, if there are so many. -/
def nthParent? : (n : Nat) → (path : Text) → Option Text
  | 0, path => some path
  | n + 1, path => (parent? path).bind (nthParent? n)

theorem length_nthParent (h : nthParent? n path = some above) :
    above.length + n ≤ path.length := by
  induction n generalizing path with
  | zero => exact (Option.some.inj h ▸ Nat.le_refl _)
  | succ n ih =>
      obtain ⟨parent, hparent, hrest⟩ := Option.bind_eq_some_iff.mp h
      have hshorter := length_parent hparent
      have hle := ih hrest
      omega

/-- A path has not more paths above it than characters. -/
theorem nthParent?_length (path : Text) : nthParent? (path.length + 1) path = none := by
  cases h : nthParent? (path.length + 1) path with
  | none => rfl
  | some above =>
      have hle := length_nthParent h
      omega

end FilePath

open FilePath (nthParent? nthParent?_length ancestors_eq)

/-! ## The search -/

theorem Disk.not_isDirectory_of_isFile (h : disk.isFile path = true) :
    disk.isDirectory path = false := by
  rw [Disk.isFile] at h
  rw [Disk.isDirectory]
  split at h
  next hlocate => rw [hlocate]
  next => cases h

/-- One step of the search: a file of the name ends it, and else it goes on above. -/
theorem Disk.findUpward_step (hname : isAbsolute name = false) :
    disk.findUpward start name = if disk.isFile (join start name) then some (join start name)
      else (parent? start).bind fun parent => disk.findUpward parent name := by
  have hsearch (start : Text) : disk.findUpward start name =
      ((ancestors start).map (join · name)).find? disk.isFile := by
    rw [Disk.findUpward, if_neg (by simp [hname])]
  rw [hsearch, ancestors_eq, List.map_cons, List.find?_cons]
  cases disk.isFile (join start name) with
  | true => rfl
  | false =>
      cases parent? start with
      | none => rfl
      | some parent => exact (hsearch parent).symm

/-- The file that is found is the nearest: at no path before the one that it is found at is there a
file of the name. -/
def Disk.Nearest (disk : Disk) (start name found : Text) : Prop :=
  ∃ n directory, nthParent? n start = some directory ∧ found = join directory name ∧
    disk.isFile found = true ∧
    ∀ m < n, ∀ nearer, nthParent? m start = some nearer → disk.isFile (join nearer name) = false

/-- Nowhere on the way up is there a file of the name. -/
def Disk.Nowhere (disk : Disk) (start name : Text) : Prop :=
  ∀ n directory, nthParent? n start = some directory → disk.isFile (join directory name) = false

theorem Disk.nearest_iff {found : Text} : disk.Nearest start name found ↔
    (found = join start name ∧ disk.isFile found = true) ∨
      disk.isFile (join start name) = false ∧
        ∃ parent, parent? start = some parent ∧ disk.Nearest parent name found := by
  constructor
  · rintro ⟨n, directory, hdirectory, rfl, hfile, hnearer⟩
    cases n with
    | zero =>
        obtain rfl := Option.some.inj hdirectory
        exact .inl ⟨rfl, hfile⟩
    | succ n =>
        obtain ⟨parent, hparent, hrest⟩ := Option.bind_eq_some_iff.mp hdirectory
        refine .inr ⟨hnearer 0 (Nat.succ_pos n) start rfl, parent, hparent, n, directory, hrest, rfl,
          hfile, fun m hm nearer hm' => ?_⟩
        exact hnearer (m + 1) (Nat.succ_lt_succ hm) nearer (by rw [nthParent?, hparent]; exact hm')
  · rintro (⟨rfl, hfile⟩ | ⟨hstart, parent, hparent, n, directory, hdirectory, rfl, hfile, hnearer⟩)
    · exact ⟨0, start, rfl, rfl, hfile, fun m hm => absurd hm (Nat.not_lt_zero m)⟩
    · refine ⟨n + 1, directory, by rw [nthParent?, hparent]; exact hdirectory, rfl, hfile, ?_⟩
      rintro (_ | m) hm nearer hm'
      · exact Option.some.inj hm' ▸ hstart
      · rw [nthParent?, hparent] at hm'
        exact hnearer m (Nat.lt_of_succ_lt_succ hm) nearer hm'

theorem Disk.nowhere_iff : disk.Nowhere start name ↔ disk.isFile (join start name) = false ∧
    ∀ parent, parent? start = some parent → disk.Nowhere parent name := by
  constructor
  · intro h
    refine ⟨h 0 start rfl, fun parent hparent n directory hdirectory => ?_⟩
    exact h (n + 1) directory (by rw [nthParent?, hparent]; exact hdirectory)
  · rintro ⟨hstart, hrest⟩ (_ | n) directory hdirectory
    · exact Option.some.inj hdirectory ▸ hstart
    · obtain ⟨parent, hparent, hn⟩ := Option.bind_eq_some_iff.mp hdirectory
      exact hrest parent hparent n directory hn

theorem Disk.findUpward_eq_some {found : Text} (hname : isAbsolute name = false) :
    disk.findUpward start name = some found ↔ disk.Nearest start name found := by
  induction hlength : start.length using Nat.strongRecOn generalizing start with
  | ind length ih =>
      subst hlength
      rw [Disk.findUpward_step hname, Disk.nearest_iff]
      cases hfile : disk.isFile (join start name) with
      | true =>
          rw [if_pos rfl, Option.some.injEq]
          constructor
          · rintro rfl
            exact .inl ⟨rfl, hfile⟩
          · rintro (⟨rfl, -⟩ | ⟨hnot, -⟩)
            · rfl
            · exact absurd hnot Bool.noConfusion
      | false =>
          rw [if_neg Bool.false_ne_true, Option.bind_eq_some_iff, or_iff_right, and_iff_right rfl]
          · refine exists_congr fun parent => and_congr_right fun hparent => ?_
            exact ih parent.length (FilePath.length_parent hparent) rfl
          · rintro ⟨rfl, h⟩
            exact Bool.false_ne_true (hfile.symm.trans h)

theorem Disk.findUpward_eq_none (hname : isAbsolute name = false) :
    disk.findUpward start name = none ↔ disk.Nowhere start name := by
  induction hlength : start.length using Nat.strongRecOn generalizing start with
  | ind length ih =>
      subst hlength
      rw [Disk.findUpward_step hname, Disk.nowhere_iff]
      cases disk.isFile (join start name) with
      | true => exact iff_of_false (Option.some_ne_none _) fun h => Bool.noConfusion h.1
      | false =>
          rw [if_neg Bool.false_ne_true, Option.bind_eq_none_iff, and_iff_right rfl]
          refine forall_congr' fun parent => forall_congr' fun hparent => ?_
          exact ih parent.length (FilePath.length_parent hparent) rfl

/-- The search ends, and it finds the nearest file of the name: nothing is found exactly when there
is none on the whole way up. A directory of the name is not found, and the search goes on above it. -/
theorem Disk.findUpward_nearest (hname : isAbsolute name = false) :
    nthParent? (start.length + 1) start = none ∧
      (∀ found, disk.findUpward start name = some found ↔ disk.Nearest start name found) ∧
      (disk.findUpward start name = none ↔ disk.Nowhere start name) ∧
      (∀ found, disk.findUpward start name = some found → disk.isDirectory found = false) ∧
      (disk.isDirectory (join start name) = true → disk.findUpward start name =
        (parent? start).bind fun parent => disk.findUpward parent name) := by
  refine ⟨nthParent?_length start, fun found => Disk.findUpward_eq_some hname,
    Disk.findUpward_eq_none hname, fun found h => ?_, fun h => ?_⟩
  · obtain ⟨_, _, _, _, hfile, _⟩ := (Disk.findUpward_eq_some hname).mp h
    exact Disk.not_isDirectory_of_isFile hfile
  · have hnot : disk.isFile (join start name) = false := by
      rw [← Bool.not_eq_true]
      intro hfile
      exact Bool.noConfusion (h.symm.trans (Disk.not_isDirectory_of_isFile hfile))
    rw [Disk.findUpward_step hname, if_neg (by simp [hnot])]

/-- A directory of the name stands nearer than the file, and the way is spelled with a dot and a
slash at its end. -/
theorem Disk.findUpward_nearest_past_directory :
    let disk : Disk := ⟨⟨[(["a".toList], .directory), (["a".toList, "b".toList], .directory),
      (["a".toList, "b".toList, "c.toml".toList], .directory), (["c.toml".toList], .file [])]⟩, []⟩
    isAbsolute "c.toml".toList = false ∧
      disk.isDirectory (join "a/./b/".toList "c.toml".toList) = true ∧
      disk.Nearest "a/./b/".toList "c.toml".toList "c.toml".toList ∧
      disk.findUpward "a/./b/".toList "c.toml".toList =
        (parent? "a/./b/".toList).bind fun parent => disk.findUpward parent "c.toml".toList := by
  intro disk
  obtain ⟨-, hsome, -, -, hpassed⟩ :=
    @Disk.findUpward_nearest disk "a/./b/".toList "c.toml".toList rfl
  exact ⟨rfl, rfl, (hsome _).mp rfl, hpassed rfl⟩

end Signpost
