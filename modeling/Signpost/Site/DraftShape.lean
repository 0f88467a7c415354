import Signpost.Document.Decode
import Signpost.Site.Draft
import Signpost.Site.Icon

/-!
# The shape of drafts

How the parts of a draft are taken in. Unknown keys are passed over and listed, but a tag table
must not have any.
-/

namespace Signpost

open Document

def Icon.decode : Decoder Icon
  | _, .text name after =>
    match Icon.ofName? name with
    | some icon => pure icon
    | none => .fail (.misfit (.unknownVariant name (Icon.all.map Icon.name)) after)
  | _, node => .fail (node.refuse "variant identifier".toList)

namespace Draft

/-- A field that may be absent or null. -/
def optionalField {ρ α : Type} (name : String) (value : Decoder α) (set : Option α → ρ → ρ) :
    Slot ρ :=
  Slot.of name (Decoder.optional value) set

def Nav.shape : Shape Nav where
  wanted := "struct RawNavItem".toList
  strict := false
  blank := {}
  fields := [
    optionalField "text" .text fun v d => { d with text := v },
    optionalField "link" .text fun v d => { d with link := v },
    optionalField "activeMatch" .text fun v d => { d with activeMatch := v }]

def Group.shape : Shape Group where
  wanted := "struct RawSidebarGroup".toList
  strict := false
  blank := {}
  fields := [
    optionalField "text" .text fun v d => { d with text := v },
    optionalField "items" (.list Nav.shape.decode) fun v d => { d with items := v },
    optionalField "collapsed" .flag fun v d => { d with collapsed := v }]

/-- The members of a tag table. -/
structure HeadTable where
  tag : Option Text := none
  attributes : Entries Text := []
  content : Option Text := none

def HeadTable.shape : Shape HeadTable where
  wanted := "struct RawHeadTable".toList
  strict := true
  blank := {}
  fields := [
    optionalField "tagName" .text fun v d => { d with tag := v },
    .of "attributes" (.entries .text) fun v d => { d with attributes := v },
    optionalField "content" .text fun v d => { d with content := v }]

def Head.wanted : Text :=
  "[tag, attributes], [tag, attributes, content] or \x7b tagName, attributes, content \x7d".toList

/-- The failure of a tag list of the wrong length. -/
def Head.wrongLength (n : Nat) (after : Spot) : Failure :=
  .misfit (.wrongLength n Head.wanted) after

def Head.listEnd (path : FieldPath) (tag : Text) (attributes : Entries Text) (content : Text) :
    Items → Decoded Head
  | .close _ => pure (.withContent tag attributes content)
  | .cut fault _ => .fail (.broken fault)
  | .item node follow _ =>
    match node.passing with
    | some fault => .fail (.broken fault)
    | none => do
      Decoder.skip (path.push (.index 3)) node
      .fail (Head.wrongLength 4 follow.after)

def Head.listContent (path : FieldPath) (tag : Text) (attributes : Entries Text) :
    Items → Decoded Head
  | .close _ => pure (.simple tag attributes)
  | .cut fault _ => .fail (.broken fault)
  | .item node _ rest => do
    let content ← Decoder.text (path.push (.index 2)) node
    Head.listEnd path tag attributes content rest

def Head.listAttributes (path : FieldPath) (tag : Text) : Items → Decoded Head
  | .close after => .fail (Head.wrongLength 1 after)
  | .cut fault _ => .fail (.broken fault)
  | .item node _ rest => do
    let attributes ← Decoder.entries Decoder.text (path.push (.index 1)) node
    Head.listContent path tag attributes rest

def Head.ofList (path : FieldPath) : Items → Decoded Head
  | .close after => .fail (Head.wrongLength 0 after)
  | .cut fault _ => .fail (.broken fault)
  | .item node _ rest => do
    let tag ← Decoder.text (path.push (.index 0)) node
    Head.listAttributes path tag rest

/-- A tag: a list of two or three elements, or a table. -/
def Head.decode : Decoder Head
  | path, .list _ items => Head.ofList path items
  | path, .table _ members => do
    let t ← HeadTable.shape.ofMembers path [] HeadTable.shape.blank members
    return .table t.tag t.attributes t.content
  | _, node => .fail (node.refuse Head.wanted)

def Social.shape : Shape Social where
  wanted := "struct RawSocialLink".toList
  strict := false
  blank := {}
  fields := [
    optionalField "icon" .text fun v d => { d with icon := v },
    optionalField "link" .text fun v d => { d with link := v },
    optionalField "ariaLabel" .text fun v d => { d with ariaLabel := v }]

def Footer.shape : Shape Footer where
  wanted := "struct RawFooter".toList
  strict := false
  blank := {}
  fields := [
    optionalField "message" .text fun v d => { d with message := v },
    optionalField "copyright" .text fun v d => { d with copyright := v }]

def Edit.shape : Shape Edit where
  wanted := "struct RawEditLink".toList
  strict := false
  blank := {}
  fields := [
    optionalField "pattern" .text fun v d => { d with pattern := v },
    optionalField "text" .text fun v d => { d with text := v }]

/-- The key of a sidebar that is written as a bare list of groups. -/
def rootKey : Text := ['/']

/-- A sidebar: groups by key, or one list of groups for every page. -/
def sidebarDecode : Decoder (Entries (List Group))
  | path, .list opening items => do
    let groups ← Decoder.list Group.shape.decode path (.list opening items)
    return [(rootKey, groups)]
  | path, .table opening members =>
    Decoder.entries (Decoder.list Group.shape.decode) path (.table opening members)
  | _, node => .fail (node.refuse
      "a map of path prefixes to sidebar groups, or an array of sidebar groups".toList)

def Theme.shape : Shape Theme where
  wanted := "struct RawThemeConfig".toList
  strict := false
  blank := {}
  fields := [
    optionalField "logo" .text fun v d => { d with logo := v },
    optionalField "nav" (.list Nav.shape.decode) fun v d => { d with nav := v },
    optionalField "sidebar" sidebarDecode fun v d => { d with sidebar := v },
    optionalField "socialLinks" (.list Social.shape.decode) fun v d => { d with socialLinks := v },
    optionalField "footer" Footer.shape.decode fun v d => { d with footer := v },
    optionalField "editLink" Edit.shape.decode fun v d => { d with editLink := v }]

def shape : Shape Draft where
  wanted := "struct UserConfig".toList
  strict := false
  blank := {}
  fields := [
    optionalField "lang" .text fun v d => { d with lang := v },
    optionalField "title" .text fun v d => { d with title := v },
    optionalField "description" .text fun v d => { d with description := v },
    optionalField "base" .text fun v d => { d with base := v },
    optionalField "lastUpdated" .flag fun v d => { d with lastUpdated := v },
    optionalField "cleanUrls" .flag fun v d => { d with cleanUrls := v },
    optionalField "head" (.list Head.decode) fun v d => { d with head := v },
    optionalField "themeConfig" Theme.shape.decode fun v d => { d with theme := v }]

end Draft

end Signpost
