import Signpost.Pattern.Size
import Signpost.Proofs.PagePath
import Signpost.Proofs.Site.Rules
import Signpost.Proofs.Site.SidebarLookup
import Signpost.Proofs.Url.Segments

/-!
# Dot segments of page paths

The segments of a path are settled before its escapes are resolved. Escapes that spell dots are
known to the settling, so they leave no dot segment; an escape that spells a slash can bring one in.
A text that is not read as a path of segments keeps its dots: one whose scheme takes the path as a
whole, and one that is no reference.
-/

namespace Signpost

namespace PagePath

open Url (Kept Cut NamesWhole isPathEnd)

variable {s t u : Text} {parts texts : List Text}

/-! ## Dot segments -/

/-- Between its slashes a part of the text is a dot or two dots. -/
def HasDotSegment (t : Text) : Prop := ∃ part ∈ Text.splitOn '/' t, part = ['.'] ∨ part = ['.', '.']

instance : Decidable (HasDotSegment t) :=
  inferInstanceAs (Decidable (∃ part ∈ Text.splitOn '/' t, part = ['.'] ∨ part = ['.', '.']))

theorem hasDotSegment_append_slash :
    HasDotSegment (s ++ '/' :: t) ↔ HasDotSegment s ∨ HasDotSegment t := by
  simp only [HasDotSegment, Text.splitOn_append_cons, List.mem_append, or_and_right, exists_or]

theorem not_hasDotSegment_nil : ¬HasDotSegment [] := by decide

theorem hasDotSegment_slash : HasDotSegment ('/' :: t) ↔ HasDotSegment t := by
  rw [← List.nil_append ('/' :: t), hasDotSegment_append_slash]
  exact or_iff_right not_hasDotSegment_nil

theorem hasDotSegment_withTrailingSlash :
    HasDotSegment (Text.withTrailingSlash t) ↔ HasDotSegment t := by
  rcases Text.withTrailingSlash_eq (t := t) with h | h
  · rw [h]
  · rw [h, hasDotSegment_append_slash]
    exact or_iff_left not_hasDotSegment_nil

theorem hasDotSegment_of_unslashed (h : '/' ∉ t) :
    HasDotSegment t ↔ t = ['.'] ∨ t = ['.', '.'] := by
  rw [HasDotSegment, Text.splitOn_eq_singleton h]
  simp

theorem hasDotSegment_render :
    HasDotSegment (UrlPath.segments parts).render ↔ ∃ part ∈ parts, HasDotSegment part := by
  induction parts with
  | nil => simp [UrlPath.render, not_hasDotSegment_nil]
  | cons part parts ih =>
      have hrender : (UrlPath.segments (part :: parts)).render =
          '/' :: part ++ (UrlPath.segments parts).render := rfl
      rw [hrender, List.cons_append, hasDotSegment_slash, List.exists_mem_cons_iff, ← ih]
      cases parts with
      | nil =>
          change HasDotSegment (part ++ []) ↔ _ ∨ HasDotSegment []
          rw [List.append_nil, or_iff_left not_hasDotSegment_nil]
      | cons next parts =>
          change HasDotSegment (part ++ '/' :: (next ++ _)) ↔
            _ ∨ HasDotSegment ('/' :: (next ++ _))
          rw [hasDotSegment_append_slash, hasDotSegment_slash]

/-! ## Resolving the escapes of a path -/

theorem hasDotSegment_normalize : HasDotSegment (normalize t) ↔
    HasDotSegment (unescaped (undecoded (Text.trim t))) := by
  rw [normalize_eq, absolute]
  split
  · rfl
  · exact hasDotSegment_slash

/-- A dot segment in the path of a page that is cut into segments comes from an escape that spells a
slash. -/
theorem hasDotSegment_unescaped_render (hkept : ∀ part ∈ parts, Kept part) :
    HasDotSegment (unescaped (UrlPath.segments parts).render) ↔
      ∃ texts, parts.mapM Percent.decode? = some texts ∧
        ∃ text ∈ texts, '/' ∈ text ∧ HasDotSegment text := by
  rw [unescaped, Url.decode?_render]
  cases hmap : parts.mapM Percent.decode? with
  | none =>
      -- a segment that stays as it is would resolve to itself
      refine iff_of_false ?_ (by simp)
      intro hdots
      obtain ⟨part, hpart, hdots⟩ := hasDotSegment_render.mp hdots
      have hpart := hkept part hpart
      rcases (hasDotSegment_of_unslashed hpart.uncut).mp hdots with rfl | rfl
      · exact hpart.here rfl
      · exact hpart.above rfl
  | some texts =>
      change HasDotSegment (UrlPath.segments texts).render ↔ _
      simp only [hasDotSegment_render, Option.some.injEq, exists_eq_left']
      refine exists_congr fun text => and_congr_right fun htext => ?_
      refine ⟨fun hdots => ⟨?_, hdots⟩, And.right⟩
      obtain ⟨part, hpart, hdecode⟩ := Url.exists_decode?_of_mapM hmap text htext
      by_contra hslash
      rcases (hasDotSegment_of_unslashed hslash).mp hdots with rfl | rfl
      · exact (hkept part hpart).here hdecode
      · exact (hkept part hpart).above hdecode

theorem hasDotSegment_encode :
    HasDotSegment (Percent.encode Url.isEscapedAlways t) ↔ HasDotSegment t := by
  have hdots (part : Text) (hpart : part = ['.'] ∨ part = ['.', '.']) {u : Text} :
      Percent.encode Url.isEscapedAlways u = part ↔ u = part := by
    constructor
    · intro h
      have hplain : '%' ∉ Percent.encode Url.isEscapedAlways u := by
        rw [h]
        rcases hpart with rfl | rfl <;> decide
      rw [← Percent.encode_eq_self_of_not_mem hplain, h]
    · rintro rfl
      rcases hpart with rfl | rfl <;> rfl
  rw [HasDotSegment, Percent.splitOn_encode (by decide)]
  simp only [List.mem_map, exists_exists_and_eq_and, hdots ['.'] (.inl rfl),
    hdots ['.', '.'] (.inr rfl)]
  rfl

theorem hasDotSegment_unescaped_encode :
    HasDotSegment (unescaped (Percent.encode Url.isEscapedAlways t)) ↔
      HasDotSegment (unescaped t) := by
  rw [unescaped, unescaped, Percent.decode?_encode Url.leavesEscapes_isEscapedAlways]
  cases Percent.decode? t with
  | none => exact hasDotSegment_encode
  | some u => rfl

/-! ## Page paths that keep dot segments -/

/-- How a dot segment gets into the path of a page, or stays there; white space around the text is
dropped already. -/
inductive KeepsDots (t : Text) : Prop
  /-- An escape spells a slash, so that a segment has parts; they are not settled again. -/
  | slash {url : Url} {parts texts : List Text} {text : Text} (hjoin : Url.join root t = .ok url)
      (hpath : url.path = .segments parts) (hescapes : parts.mapM Percent.decode? = some texts)
      (hmem : text ∈ texts) (hslash : '/' ∈ text) (hdots : HasDotSegment text)
  /-- A path that is taken as a whole is not cut into segments. -/
  | whole {scheme rest : Text} (hnames : NamesWhole t scheme rest)
      (hdots : HasDotSegment (unescaped (rest.takeWhile (!isPathEnd ·))))
  /-- A text that is no reference is not cut either. -/
  | unread {e : UrlError} (hjoin : Url.join root t = .error e)
      (hdots : HasDotSegment (unescaped (t.takeWhile (!isPathEnd ·))))

theorem cut_root : Cut root.path := ⟨[[]], rfl, List.forall_mem_singleton.mpr .nil⟩

theorem undecoded_whole {scheme rest : Text} (h : NamesWhole t scheme rest) :
    undecoded t = Percent.encode Url.isEscapedAlways (rest.takeWhile (!isPathEnd ·)) := by
  rw [undecoded, h.join (by decide)]
  rfl

theorem hasDotSegment_undecoded : HasDotSegment (unescaped (undecoded t)) ↔ KeepsDots t := by
  constructor
  · intro h
    cases hjoin : Url.join root t with
    | error e =>
        rw [undecoded, hjoin] at h
        exact .unread hjoin h
    | ok url =>
        rcases Url.cut_join cut_root hjoin with ⟨parts, hpath, hkept⟩ | ⟨scheme, rest, hnames⟩
        · rw [undecoded, hjoin] at h
          dsimp only at h
          rw [hpath, hasDotSegment_unescaped_render hkept] at h
          obtain ⟨texts, hescapes, text, hmem, hslash, hdots⟩ := h
          exact .slash hjoin hpath hescapes hmem hslash hdots
        · rw [undecoded_whole hnames, hasDotSegment_unescaped_encode] at h
          exact .whole hnames h
  · intro h
    cases h with
    | slash hjoin hpath hescapes hmem hslash hdots =>
        rw [undecoded, hjoin]
        dsimp only
        rw [hpath, unescaped, Url.decode?_render, hescapes]
        exact hasDotSegment_render.mpr ⟨_, hmem, hdots⟩
    | whole hnames hdots =>
        rw [undecoded_whole hnames, hasDotSegment_unescaped_encode]
        exact hdots
    | unread hjoin hdots =>
        rw [undecoded, hjoin]
        exact hdots

end PagePath

/-- Every page path starts with a slash, and which of them have a dot segment. The area of a sidebar
has one exactly when its key is such a path. -/
theorem PagePath.dots_settled_iff [Pattern.SizeTest] (t : Text) (field : FieldPath)
    (raw : Entries (List Draft.Group)) :
    Text.startsWith ['/'] (PagePath.normalize t) = true ∧
    (PagePath.HasDotSegment (PagePath.normalize t) ↔ PagePath.KeepsDots (Text.trim t)) ∧
    ∀ sidebar : Sidebar, (Sidebar.resolve field raw).result = .ok sidebar →
      List.Forall₂ (fun declared entry => PagePath.HasDotSegment entry.area ↔
        PagePath.KeepsDots (Text.trim declared.1)) raw sidebar := by
  have hpage {t : Text} : PagePath.HasDotSegment (PagePath.normalize t) ↔
      PagePath.KeepsDots (Text.trim t) :=
    PagePath.hasDotSegment_normalize.trans PagePath.hasDotSegment_undecoded
  refine ⟨PagePath.startsWith_normalize t, hpage, fun sidebar h => ?_⟩
  have hacc := Sidebar.resolve_eq_pure.mp (Checked.result_eq_ok.mp h)
  refine hacc.entries.imp fun declared entry hentry => ?_
  rw [← (Sidebar.area?_eq_ok.mp hentry.area).2, Sidebar.areaOf,
    PagePath.hasDotSegment_withTrailingSlash, hpage, Text.trim_trim]

/-- A key whose escapes spell slashes around two dots. -/
theorem Sidebar.resolve_escapedSlashes :
    (Sidebar.resolve [] [("/a%2F..%2Fb".toList, [])]).result = .ok [⟨"/a/../b/".toList, []⟩] := rfl

theorem PagePath.keepsDots_escapedSlashes :
    (Sidebar.resolve [] [("/a%2F..%2Fb".toList, [])]).result = .ok [⟨"/a/../b/".toList, []⟩] ∧
      PagePath.KeepsDots "/a%2F..%2Fb".toList := by
  refine ⟨Sidebar.resolve_escapedSlashes, ?_⟩
  have hentries := (PagePath.dots_settled_iff [] [] _).2.2 _ Sidebar.resolve_escapedSlashes
  exact (List.forall₂_cons.mp hentries).1.mp (by decide)

/-- So not every dot segment is settled. -/
theorem PagePath.not_dots_settled :
    ¬∀ t, Text.startsWith ['/'] (PagePath.normalize t) = true ∧
      ∀ part ∈ Text.splitOn '/' (PagePath.normalize t), part ≠ ['.'] ∧ part ≠ ['.', '.'] := by
  intro h
  exact absurd (h "/a%2F..%2Fb".toList) (by decide)

end Signpost
