import Signpost.Proofs.Command.Agreement
import Signpost.Proofs.Command.Traces
import Signpost.Proofs.Site.Accepted
import Signpost.Proofs.Text.Utf8

/-!
# What starting a site announces

A run that starts a site and does not fail has written the starter file, and all else is as it was
but for the directories of the target and of what is above it. The starter file is a config without
faults and unknown keys, by whatever path it is found.
-/

namespace Signpost

/-! ## The format of a file -/

/-- The name of a path is the last name of the place that it leads to. -/
theorem Disk.placeOf_of_name? (disk : Disk) {path name : Text}
    (h : FilePath.name? path = some name) : ∃ parent, disk.placeOf path = parent ++ [name] := by
  obtain ⟨hlast, hdots⟩ := Option.filter_eq_some_iff.mp h
  rw [Bool.and_eq_true, bne_iff_ne, bne_iff_ne] at hdots
  obtain ⟨front, htrim, hne, hslash, hfront⟩ := FilePath.last?_eq_some hlast
  have hname : IsName name := ⟨hne, hdots.1, hdots.2⟩
  have hstep : FilePath.isStep name = true := by simp [FilePath.isStep, hne, hdots.1]
  refine ⟨(disk.origin path).walk (FilePath.steps front), ?_⟩
  rw [Disk.placeOf_eq_walk, ← FilePath.steps_trim, htrim,
    FilePath.steps_append_unslashed hslash hfront, List.filter_singleton, hstep, cond_true,
    Place.walk_concat, hname.enter]

/-- A path to a place with the name of the config file is not taken for one of a JSON file. -/
theorem Format.ofPath_of_placeOf {disk : Disk} {path : Text} {parent : Place}
    (h : disk.placeOf path = parent ++ [Site.fileName]) : Format.ofPath path = .toml := by
  cases hname : FilePath.name? path with
  | none => rw [Format.ofPath, FilePath.extension?, hname, Option.bind_none]
  | some name =>
      obtain ⟨parent', hplace⟩ := disk.placeOf_of_name? hname
      obtain rfl : Site.fileName = name :=
        (List.append_singleton_inj.mp (h.symm.trans hplace)).2
      rw [Format.ofPath, FilePath.extension?, hname]
      rfl

theorem Disk.readText_of_encoded {disk : Disk} {path content : Text} {place : Place}
    (h : disk.locate path = .ok (place, .file (Utf8.encode content))) :
    disk.readText path = .ok content := by
  rw [readText, h]
  simp only [Utf8.decode?_eq_some.mpr rfl]

theorem Site.loadFile_of_read [Pattern.SizeTest] {disk : Disk} {path content : Text} {site : Site}
    {ignored : List FieldPath} (hcontent : disk.readText path = .ok content)
    (hread : Site.read (.ofPath path) content = .ok (site, ignored)) :
    Site.loadFile disk path = .ok ⟨path, site, ignored⟩ := by
  simp only [Site.read, bind_eq_ok, mapError_eq_ok] at hread
  obtain ⟨⟨draft, ignored'⟩, hdraft, site', hsite, hpair⟩ := hread
  cases hpair
  simp only [Site.loadFile, Draft.readFile, LoadedSite.ofDraft, bind_eq_ok, mapError_eq_ok]
  exact ⟨_, ⟨_, hcontent, hdraft⟩, _, hsite, rfl⟩

/-- A text is still read as a site, and as the same one, when the size test gets laxer. -/
theorem Site.read_of_le {strict lax : Pattern.SizeTest} {format : Format} {content : Text}
    {site : Site} {ignored : List FieldPath}
    (h : @Site.read strict format content = .ok (site, ignored)) (hle : strict ≤ lax) :
    @Site.read lax format content = .ok (site, ignored) := by
  simp only [Site.read, bind_eq_ok, mapError_eq_ok] at h ⊢
  obtain ⟨found, hdraft, site, hsite, hpair⟩ := h
  exact ⟨found, hdraft, site, Site.resolve_of_le hsite hle, hpair⟩

namespace Command

variable {disk : Disk} {directory path : Text} {force : Bool} {left : Progress} {place : Place}

/-! ## The starter file -/

/-- The starter file is a config without unknown keys. Its one pattern is a short row. -/
theorem exists_site_of_starterText [Pattern.SizeTest] :
    ∃ site, Site.read .toml starterText = .ok (site, []) := by
  have hread : ((@Site.read .strictest .toml starterText).toOption.map (·.2)) = some [] := by
    decide +kernel
  cases hsite : @Site.read .strictest .toml starterText with
  | error error =>
      rw [hsite] at hread
      cases hread
  | ok found =>
      obtain ⟨site, ignored⟩ := found
      rw [hsite] at hread
      obtain rfl : ignored = [] := Option.some.inj hread
      exact ⟨site, Site.read_of_le hsite Pattern.SizeTest.strictest_le⟩

/-- The starter file is loaded by every path that leads to it. -/
theorem loadFile_of_starter [Pattern.SizeTest]
    (h : disk.locate path = .ok (place ++ [Site.fileName], .file (Utf8.encode starterText))) :
    ∃ site, Site.loadFile disk path = .ok ⟨path, site, []⟩ := by
  obtain ⟨site, hsite⟩ := exists_site_of_starterText
  obtain ⟨-, -, hplace, -⟩ := Disk.locate_eq_ok.mp h
  refine ⟨site, Site.loadFile_of_read (Disk.readText_of_encoded h) ?_⟩
  rw [Format.ofPath_of_placeOf hplace.symm]
  exact hsite

/-- A strict check of the starter file by an absolute path passes. -/
theorem check_starter_passes [Pattern.SizeTest] {arguments : List Text}
    {invocation : Invocation} (habsolute : FilePath.isAbsolute path = true)
    (h : disk.locate path = .ok (place ++ [Site.fileName], .file (Utf8.encode starterText)))
    (hparse : Invocation.parse Site.fileName arguments = .ok invocation)
    (hconfig : invocation.config = path) (htask : invocation.task = .check true) :
    (run arguments disk).code = 0 := by
  obtain ⟨site, hload⟩ := loadFile_of_starter h
  obtain ⟨hne, hpassable, hplace, hnode⟩ := Disk.locate_eq_ok.mp h
  have hthere : disk.exists? path = true :=
    Disk.exists?_eq_true.mpr ⟨hne, hpassable, _, hplace ▸ hnode⟩
  have hfound : configPath path disk = .ok path := by
    rw [configPath_eq_ok, Disk.findUpward, if_pos habsolute, if_pos hthere]
  obtain ⟨failure?, messages, hrun, hpasses⟩ := runCheck_perform path disk true
  have hnone : failure? = none :=
    hpasses.mpr ⟨_, configOf_eq_ok.mpr ⟨_, hfound, hload⟩, fun _ => rfl⟩
  subst hconfig
  have hcode : (invocation.outcome disk (.check true)).code = 0 :=
    (Invocation.outcome_of_perform (.check true) hrun).1.mpr hnone
  rw [run, hparse]
  rw [Invocation.outcome, ← htask] at hcode
  exact hcode

/-! ## Runs that succeed -/

/-- A run that does not fail has made the directories and written the file. -/
theorem runInit_succeeded (h : (runInit directory force).perform disk = (none, left)) :
    ∃ made, disk.makeDirectories directory = (.ok (), made) ∧
      made.write (starterPath directory) (Utf8.encode starterText) = .ok left.disk ∧
        left.messages = [.notice "init".toList ("wrote ".toList ++ starterPath directory)] := by
  rw [runInit_perform] at h
  split at h
  · cases h
  split at h
  · cases h
  split at h
  · cases h
  next made hmade =>
    split at h
    · cases h
    next written hwrite =>
      cases h
      exact ⟨made, hmade, hwrite, rfl⟩

/-- The second disk is the first one with the starter file in the directory. All else is as it was,
and nothing is new besides but directories to which the path of the directory or one above it
leads. -/
structure Started (before after : Disk) (directory : Text) : Prop where
  workplace : after.workplace = before.workplace
  starter : after.locate (starterPath directory) =
    .ok (before.placeOf (starterPath directory), .file (Utf8.encode starterText))
  kept : ∀ place node, before.tree.node? place = some node →
    after.tree.node? place = some node ∨
      (place = before.placeOf (starterPath directory) ∧ ∃ bytes, node = .file bytes)
  new : ∀ place node, after.tree.node? place = some node →
    before.tree.node? place = some node ∨ place = before.placeOf (starterPath directory) ∨
      ∃ path ∈ FilePath.ancestors directory, after.locate path = .ok (place, .directory)

/-- What is where behind such a run: the starter file is where its path leads, whatever directories
were made for it. -/
theorem node?_of_written {made written : Disk}
    (hmade : disk.makeDirectories directory = (.ok (), made))
    (hwrite : made.write (starterPath directory) (Utf8.encode starterText) = .ok written) :
    written.tree.node? place =
      if place = disk.placeOf (starterPath directory) then some (.file (Utf8.encode starterText))
      else made.tree.node? place := by
  rw [← (Disk.makeDirectories_grown hmade).placeOf]
  exact Disk.node?_write hwrite

theorem started_of_succeeded (h : (runInit directory force).perform disk = (none, left)) :
    Started disk left.disk directory := by
  obtain ⟨made, hmade, hwrite, -⟩ := runInit_succeeded h
  have grown := Disk.makeDirectories_grown hmade
  have hplace : made.placeOf (starterPath directory) = disk.placeOf (starterPath directory) :=
    grown.placeOf
  refine ⟨(Disk.write_workplace hwrite).trans grown.workplace, ?_, ?_, ?_⟩
  · rw [← hplace]
    exact Disk.write_locate hwrite
  · intro place node hold
    by_cases hstarter : place = disk.placeOf (starterPath directory)
    · refine .inr ⟨hstarter, ?_⟩
      obtain ⟨-, -, hfile, -⟩ := Disk.write_eq_put hwrite
      rw [hplace, ← hstarter, grown.kept hold] at hfile
      cases node with
      | directory => exact absurd rfl hfile
      | file bytes => exact ⟨bytes, rfl⟩
    · rw [node?_of_written hmade hwrite, if_neg hstarter]
      exact .inl (grown.kept hold)
  · intro place node hnew
    rw [node?_of_written hmade hwrite] at hnew
    split at hnew
    next hstarter => exact .inr (.inl hstarter)
    next =>
      refine (Disk.makeDirectories_newAt hmade place node hnew).imp_right fun hdir => .inr ?_
      obtain ⟨path, hpath, hlocate⟩ := hdir
      exact ⟨path, hpath, Disk.locate_directory_write hwrite hlocate⟩

theorem parse_check_strict (h : FilePath.isAbsolute path = true) :
    Invocation.parse Site.fileName ["check".toList, "--strict".toList, "-C".toList, path] =
      .ok ⟨.auto, path, false, .check true⟩ := by
  obtain ⟨rest, rfl⟩ := List.isPrefixOf_iff_prefix.mp h
  rfl

/-- What a run that starts a site and does not fail leaves: the starter file in the directory, all
else as it was, no new directories but those of the path, and one notice. A strict check by any
absolute path that leads to the file passes then, from whatever directory it is run and however its
command line is written. -/
theorem runInit_starts [Pattern.SizeTest]
    (h : (runInit directory force).perform disk = (none, left)) :
    Started disk left.disk directory ∧
    left.messages = [.notice "init".toList ("wrote ".toList ++ starterPath directory)] ∧
    ∀ (workplace : Place) (path : Text) (node : FileNode),
      FilePath.isAbsolute path = true →
      Disk.locate ⟨left.disk.tree, workplace⟩ path =
        .ok (disk.placeOf (starterPath directory), node) →
      (run ["check".toList, "--strict".toList, "-C".toList, path]
        ⟨left.disk.tree, workplace⟩).code = 0 ∧
      ∀ arguments invocation, Invocation.parse Site.fileName arguments = .ok invocation →
        invocation.config = path → invocation.task = .check true →
          (run arguments ⟨left.disk.tree, workplace⟩).code = 0 := by
  have hstarted := started_of_succeeded h
  obtain ⟨-, -, -, hmessages⟩ := runInit_succeeded h
  refine ⟨hstarted, hmessages, fun workplace path node habsolute hlocate => ?_⟩
  obtain ⟨-, -, -, hstarter⟩ := Disk.locate_eq_ok.mp hstarted.starter
  obtain ⟨-, -, -, hnode⟩ := Disk.locate_eq_ok.mp hlocate
  -- whatever path leads to the place finds the starter file there
  obtain rfl : .file (Utf8.encode starterText) = node :=
    Option.some.inj (hstarter.symm.trans hnode)
  rw [placeOf_starterPath] at hlocate
  have hpasses {arguments : List Text} {invocation : Invocation}
      (hparse : Invocation.parse Site.fileName arguments = .ok invocation) :=
    check_starter_passes habsolute hlocate hparse
  exact ⟨hpasses (parse_check_strict habsolute) rfl rfl, fun _ _ => hpasses⟩

/-- A target behind a directory that is missing and left again. -/
theorem runInit_starts_behind_missing :
    let notes : Place := ["notes".toList]
    let docs : Place := ["docs".toList]
    let disk : Disk := ⟨⟨[(notes, .file [0x41])]⟩, []⟩
    let left := (runInit "/new/../docs".toList false).perform disk
    left.1 = none ∧ left.2.disk.tree.node? notes = some (.file [0x41]) ∧
      (run ["check".toList, "--strict".toList, "-C".toList, "/docs/docsite.toml".toList]
        ⟨left.2.disk.tree, docs⟩).code = 0 := by
  intro notes docs disk left
  have hnone : left.1 = none := rfl
  obtain ⟨hstarted, -, hcheck⟩ := runInit_starts (Prod.ext hnone rfl : _ = (none, left.2))
  refine ⟨hnone, ?_, ?_⟩
  · refine (hstarted.kept notes _ rfl).resolve_right ?_
    rintro ⟨hplace, -⟩
    exact absurd hplace (by decide)
  · have hlocate : Disk.locate ⟨left.2.disk.tree, docs⟩ "/docs/docsite.toml".toList =
        .ok (["docs".toList, "docsite.toml".toList], .file (Utf8.encode starterText)) := rfl
    exact (hcheck docs _ _ rfl hlocate).1

end Command

end Signpost
