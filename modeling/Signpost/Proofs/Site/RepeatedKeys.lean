import Mathlib.Data.List.Infix
import Signpost.Proofs.Checks
import Signpost.Site.Sidebar

/-!
# Keys that declare an area again

An area belongs to the first entry whose key declares it, where a refused key declares nothing. Each
entry is judged by itself and the entries before it: it is kept with the groups written under its
own key, or exactly one problem is met at its key. `Sidebar.resolve_eq` says so for all entries at
once, so nothing is merged or left out in silence.
-/

namespace Signpost

variable {sizeTest : Pattern.SizeTest} {α β : Type} {field : FieldPath}

/-! ## Problems of the groups -/

/-- The problem is that an area is declared again. -/
def Problem.isRepeat : Problem → Bool
  | .repeatedArea _ _ => true
  | _ => false

/-- No area is found to be declared again. -/
def Checked.NoRepeat (c : Checked α) : Prop := ∀ d ∈ c.problems, d.problem.isRepeat = false

namespace Checked

variable {c : Checked α} {f : α → Checked β} {problem : Problem}

theorem noRepeat_pure {a : α} : NoRepeat (pure a) := fun _ h => nomatch h

theorem noRepeat_report (h : problem.isRepeat = false) : NoRepeat (report field problem) :=
  List.forall_mem_singleton.mpr h

theorem noRepeat_reportIf {broken : Bool} (h : problem.isRepeat = false) :
    NoRepeat (reportIf broken field problem) := by
  cases broken with
  | true => exact noRepeat_report h
  | false => exact noRepeat_pure

theorem NoRepeat.bind (hc : NoRepeat c) (hf : ∀ a, NoRepeat (f a)) : NoRepeat (c >>= f) :=
  fun d hd => (mem_problems_bind.mp hd).elim (hc d) (hf _ d)

theorem noRepeat_each {check : Nat → α → Checked β} {as : List α}
    (h : ∀ i a, NoRepeat (check i a)) : NoRepeat (each check as) := by
  intro d hd
  obtain ⟨i, a, -, hd⟩ := mem_problems_each.mp hd
  exact h i a d hd

end Checked

open Checked (NoRepeat noRepeat_pure noRepeat_report noRepeat_reportIf noRepeat_each)

theorem requireText_noRepeat {raw : Option Text} : NoRepeat (requireText raw field) := by
  rw [requireText]
  split
  · exact (noRepeat_report rfl).bind fun _ => noRepeat_pure
  · exact (noRepeat_reportIf rfl).bind fun _ => noRepeat_pure

theorem Link.problem?_isRepeat {link : Text} {problem : Problem}
    (h : problem? link = some problem) : problem.isRepeat = false := by
  unfold problem? at h
  repeat' split at h
  all_goals cases h <;> rfl

theorem Link.check_noRepeat {raw : Option Text} : NoRepeat (Link.check raw field) := by
  rw [Link.check]
  split
  · exact (noRepeat_report rfl).bind fun _ => noRepeat_pure
  · split
    · exact noRepeat_pure
    · next h => exact (noRepeat_report (problem?_isRepeat h)).bind fun _ => noRepeat_pure

theorem NavItem.resolvePattern_noRepeat {raw : Option Text} :
    NoRepeat (NavItem.resolvePattern field raw) := by
  rw [NavItem.resolvePattern]
  split
  · exact noRepeat_pure
  · split
    · exact noRepeat_pure
    · exact (noRepeat_report rfl).bind fun _ => noRepeat_pure

theorem NavItem.resolve_noRepeat {raw : Draft.Nav} : NoRepeat (NavItem.resolve field raw) := by
  refine requireText_noRepeat.bind fun _ => Link.check_noRepeat.bind fun _ => ?_
  exact NavItem.resolvePattern_noRepeat.bind fun _ => noRepeat_pure

theorem SidebarGroup.resolve_noRepeat {raw : Draft.Group} :
    NoRepeat (SidebarGroup.resolve field raw) := by
  refine requireText_noRepeat.bind fun _ => ?_
  exact (noRepeat_each fun _ _ => NavItem.resolve_noRepeat).bind fun _ => noRepeat_pure

namespace Sidebar

variable {key area : Text} {seen : List (Text × Text)} {groups : List Draft.Group}
  {earlier raw : Entries (List Draft.Group)} {problem : Problem}

theorem area?_isRepeat (h : area? key = .error problem) : problem.isRepeat = false := by
  unfold area? at h
  dsimp only at h
  repeat' split at h
  all_goals cases h <;> rfl

/-! ## What becomes of an entry -/

/-- The key of the first entry that declares an area. -/
def firstKey? (raw : Entries (List Draft.Group)) (area : Text) : Option Text :=
  (raw.find? fun declared => area? declared.1 = .ok area).map Prod.fst

/-- Each entry together with the entries before it. -/
def withEarlier (raw : Entries (List Draft.Group)) :
    List (Entries (List Draft.Group) × (Text × List Draft.Group)) :=
  raw.inits.zip raw

/-- The groups of an entry, resolved at its key. -/
def resolveGroups [Pattern.SizeTest] (field : FieldPath) (declared : Text × List Draft.Group) :
    Checked (List SidebarGroup) :=
  Checked.each (fun i group =>
    SidebarGroup.resolve ((field.push (.key declared.1)).push (.index i)) group) declared.2

/-- The entry that is kept: the first to declare its area, with its own groups. -/
def kept? [Pattern.SizeTest] (field : FieldPath) (earlier : Entries (List Draft.Group))
    (declared : Text × List Draft.Group) : Option SidebarEntry :=
  match area? declared.1 with
  | .error _ => none
  | .ok area =>
    match firstKey? earlier area with
    | some _ => none
    | none => some ⟨area, (resolveGroups field declared).value⟩

/-- The problem met at the key of an entry whose area is declared before. -/
def repeat? (field : FieldPath) (earlier : Entries (List Draft.Group))
    (declared : Text × List Draft.Group) : Option Diagnostic := do
  let area ← (area? declared.1).toOption
  let firstKey ← firstKey? earlier area
  return ⟨field.push (.key declared.1), .repeatedArea area firstKey⟩

/-- The problems of an entry: that its key is refused, that its area is declared before, or those of
its groups. -/
def problemsOf [Pattern.SizeTest] (field : FieldPath) (earlier : Entries (List Draft.Group))
    (declared : Text × List Draft.Group) : List Diagnostic :=
  match area? declared.1 with
  | .error problem => [⟨field.push (.key declared.1), problem⟩]
  | .ok area =>
    match firstKey? earlier area with
    | some firstKey => [⟨field.push (.key declared.1), .repeatedArea area firstKey⟩]
    | none => (resolveGroups field declared).problems

/-! ## One entry after the other -/

/-- What is remembered of the entries before are the areas they declare, each with its first key. -/
def Remembers (seen : List (Text × Text)) (earlier : Entries (List Draft.Group)) : Prop :=
  ∀ area, (seen.find? (·.1 == area)).map Prod.snd = firstKey? earlier area

theorem firstKey?_append (earlier : Entries (List Draft.Group)) (key : Text)
    (groups : List Draft.Group) (area : Text) :
    firstKey? (earlier ++ [(key, groups)]) area =
      (firstKey? earlier area).or (if area? key = .ok area then some key else none) := by
  rw [firstKey?, List.find?_append, Option.map_or, ← firstKey?, List.find?_singleton]
  split <;> simp_all

theorem Remembers.skip (h : Remembers seen earlier) (groups : List Draft.Group)
    (hknown : ∀ area, area? key = .ok area → firstKey? earlier area ≠ none) :
    Remembers seen (earlier ++ [(key, groups)]) := by
  intro area
  rw [firstKey?_append, h area]
  split
  next harea =>
    obtain ⟨firstKey, hfirst⟩ := Option.ne_none_iff_exists'.mp (hknown area harea)
    rw [hfirst, Option.some_or]
  next => exact (Option.or_none ..).symm

theorem Remembers.add (h : Remembers seen earlier) (groups : List Draft.Group)
    (harea : area? key = .ok area)
    (hnew : firstKey? earlier area = none) :
    Remembers ((area, key) :: seen) (earlier ++ [(key, groups)]) := by
  intro other
  rw [firstKey?_append, List.find?_cons]
  by_cases hsame : area = other
  · subst hsame
    rw [hnew, if_pos harea, BEq.rfl]
    rfl
  · rw [beq_eq_false_iff_ne.mpr hsame, h other, if_neg, Option.or_none]
    intro hother
    exact hsame (Except.ok.inj (harea.symm.trans hother))

theorem zip_inits_cons (earlier : Entries (List Draft.Group)) (declared : Text × List Draft.Group)
    (rest : Entries (List Draft.Group)) :
    ((declared :: rest).inits.map (earlier ++ ·)).zip (declared :: rest) =
      (earlier, declared) :: (rest.inits.map ((earlier ++ [declared]) ++ ·)).zip rest := by
  rw [List.inits_cons, List.map_cons, List.zip_cons_cons, List.append_nil, List.map_map]
  simp only [Function.comp_def, List.append_assoc, List.singleton_append]

/-- A run is as good as judging each entry by the entries before it. -/
theorem resolveFrom_eq (field : FieldPath) (raw : Entries (List Draft.Group))
    (h : Remembers seen earlier) :
    resolveFrom field seen raw =
      ⟨((raw.inits.map (earlier ++ ·)).zip raw).filterMap fun e => kept? field e.1 e.2,
        ((raw.inits.map (earlier ++ ·)).zip raw).flatMap fun e => problemsOf field e.1 e.2⟩ := by
  induction raw generalizing seen earlier with
  | nil => rfl
  | cons declared rest ih =>
      obtain ⟨key, groups⟩ := declared
      rw [zip_inits_cons, resolveFrom, List.filterMap_cons, List.flatMap_cons]
      cases harea : area? key with
      | error problem =>
          have hrest := h.skip groups fun _ hother => by
            rw [harea] at hother
            cases hother
          simp only [kept?, problemsOf, harea, ih hrest]
          rfl
      | ok area =>
          have hseen := h area
          cases hfind : seen.find? (·.1 == area) with
          | some found =>
              rw [hfind] at hseen
              -- the key declares no other area than the one that is known
              have hrest := h.skip groups fun other hother => by
                obtain rfl := Except.ok.inj (harea.symm.trans hother)
                rw [← hseen]
                exact Option.some_ne_none _
              simp only [kept?, problemsOf, harea, ← hseen, hfind, ih hrest]
              rfl
          | none =>
              rw [hfind] at hseen
              have hrest := h.add groups harea hseen.symm
              simp only [kept?, problemsOf, harea, ← hseen, hfind, ih hrest]
              exact congrArg (Checked.mk _) (congrArg (_ ++ ·) (List.append_nil _))

/-! ## The whole sidebar -/

theorem resolve_eq (field : FieldPath) (raw : Entries (List Draft.Group)) :
    resolve field raw =
      ⟨(withEarlier raw).filterMap fun e => kept? field e.1 e.2,
        (withEarlier raw).flatMap fun e => problemsOf field e.1 e.2⟩ := by
  have hnone : Remembers [] [] := fun _ => rfl
  rw [resolve, withEarlier, resolveFrom_eq field raw hnone]
  simp only [List.nil_append, List.map_id']

theorem filter_problemsOf (field : FieldPath) (earlier : Entries (List Draft.Group))
    (declared : Text × List Draft.Group) :
    (problemsOf field earlier declared).filter (·.problem.isRepeat) =
      (repeat? field earlier declared).toList := by
  rw [problemsOf, repeat?]
  cases harea : area? declared.1 with
  | error problem => exact List.filter_eq_nil_iff.mpr (by simp [area?_isRepeat harea])
  | ok area =>
      cases hfirst : firstKey? earlier area with
      | some firstKey => simp [Except.toOption, hfirst, Problem.isRepeat]
      | none =>
          have hgroups : NoRepeat (resolveGroups field declared) :=
            noRepeat_each fun _ _ => SidebarGroup.resolve_noRepeat
          simp only [Except.toOption, Option.bind_eq_bind, Option.bind_some, hfirst,
            Option.bind_none]
          exact List.filter_eq_nil_iff.mpr fun d hd => by simp [hgroups d hd]

theorem filter_problems_resolve [Pattern.SizeTest] (field : FieldPath)
    (raw : Entries (List Draft.Group)) :
    (resolve field raw).problems.filter (·.problem.isRepeat) =
      (withEarlier raw).filterMap fun e => repeat? field e.1 e.2 := by
  rw [resolve_eq, List.filter_flatMap, List.filterMap_eq_flatMap_toList]
  exact List.flatMap_congr fun e _ => filter_problemsOf field e.1 e.2

/-- The first entry that declares an area stays the first when more entries follow. -/
theorem firstKey?_of_prefix {firstKey : Text} (h : earlier <+: raw)
    (hfirst : firstKey? earlier area = some firstKey) : firstKey? raw area = some firstKey := by
  obtain ⟨rest, rfl⟩ := h
  rw [firstKey?, List.find?_append, Option.map_or, ← firstKey?, hfirst, Option.some_or]

theorem repeat?_eq_some {declared : Text × List Draft.Group} {d : Diagnostic} :
    repeat? field earlier declared = some d ↔ ∃ area firstKey, area? declared.1 = .ok area ∧
      firstKey? earlier area = some firstKey ∧
        d = ⟨field.push (.key declared.1), .repeatedArea area firstKey⟩ := by
  rw [repeat?]
  cases harea : area? declared.1 with
  | error problem => exact ⟨nofun, fun ⟨_, _, h, _⟩ => nomatch h⟩
  | ok area =>
      simp only [Except.toOption, Option.bind_eq_bind, Option.bind_some, Option.bind_eq_some_iff,
        Except.ok.injEq, exists_and_left, exists_eq_left']
      exact exists_congr fun firstKey => and_congr_right fun _ => by
        rw [Option.pure_def, Option.some.injEq, eq_comm]

/-- Of the entries that declare an area the first is kept with its own groups, in order, and each
later one is met by exactly one problem at its key, which names the key of the first. An entry with
a refused key declares nothing. -/
theorem repeated_areas_found [Pattern.SizeTest] (field : FieldPath)
    (raw : Entries (List Draft.Group)) :
    (resolve field raw).value = (withEarlier raw).filterMap (fun e => kept? field e.1 e.2) ∧
      (resolve field raw).problems = (withEarlier raw).flatMap (fun e => problemsOf field e.1 e.2) ∧
      (resolve field raw).problems.filter (·.problem.isRepeat) =
        (withEarlier raw).filterMap (fun e => repeat? field e.1 e.2) ∧
      ∀ d ∈ (resolve field raw).problems, d.problem.isRepeat = true →
        ∃ key area firstKey, d.field = field.push (.key key) ∧ area? key = .ok area ∧
          firstKey? raw area = some firstKey ∧
          d.problem.hint = some ("already declared as \"".toList ++ firstKey ++
            "\"; merge the two entries".toList) := by
  have hrepeats := filter_problems_resolve field raw
  refine ⟨by rw [resolve_eq], by rw [resolve_eq], hrepeats, fun d hd hrepeat => ?_⟩
  obtain ⟨e, he, hd⟩ := List.mem_filterMap.mp (hrepeats ▸ List.mem_filter.mpr ⟨hd, hrepeat⟩)
  obtain ⟨area, firstKey, harea, hfirst, rfl⟩ := repeat?_eq_some.mp hd
  have hearlier : e.1 <+: raw := (List.mem_inits ..).mp (List.of_mem_zip he).1
  exact ⟨e.2.1, area, firstKey, rfl, harea, firstKey?_of_prefix hearlier hfirst, rfl⟩

end Sidebar

end Signpost
