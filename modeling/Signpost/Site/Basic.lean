import Signpost.Site.Head
import Signpost.Site.Theme

/-!
# Sites

A site is a config with every rule kept and every default filled in. Resolving a draft gives the
site, or every problem of the draft in one list; the problems of the fields follow each other in a
fixed order. A site can be turned back into a draft that spells out its defaults.
-/

namespace Signpost

open Document (Value)

/-- A resolved site config. -/
structure Site where
  lang : Text
  title : Text
  description : Text
  base : Text
  lastUpdated : Bool
  cleanUrls : Bool
  head : List HeadTag
  theme : Theme
deriving DecidableEq, Repr

namespace Site

def defaultLang : Text := "en-US".toList

def defaultBase : Text := ['/']

/-- The title, which must be there and not blank. -/
def resolveTitle (raw : Option Text) : Checked Text :=
  let field := FieldPath.field [] "title"
  match raw.map Text.trim with
  | none => do
    Checked.report field .titleMissing
    return []
  | some title => do
    Checked.reportIf title.isEmpty field .titleBlank
    return title

def letters : Pattern.CharSet := ⟨[(0x41, 0x5A), (0x61, 0x7A)]⟩

def alphanumerics : Pattern.CharSet := ⟨[(0x30, 0x39), (0x41, 0x5A), (0x61, 0x7A)]⟩

/-- A part of a language tag: one to eight of the characters. -/
def subtagOf (chars : Pattern.CharSet) : Pattern.Expr := .repetition (.chars chars) 1 (some 8)

/-- A language tag: parts between hyphens, the first of letters, the others of letters and
digits. -/
def languageTag : Pattern where
  source := "^[A-Za-z]{1,8}(-[A-Za-z0-9]{1,8})*$".toList
  expr := .seq (.look .textStart) <| .seq (subtagOf letters) <|
    .seq (.repetition (.seq (.chars (.single '-')) (.seq (subtagOf alphanumerics) .empty)) 0 none) <|
    .seq (.look .textEnd) .empty

def isLanguageTag (tag : Text) : Bool := languageTag.occursIn tag

/-- The language; a blank one counts as absent. -/
def resolveLang (raw : Option Text) : Checked Text :=
  match optionalText raw with
  | none => pure defaultLang
  | some lang => do
    Checked.reportIf (!isLanguageTag lang) (FieldPath.field [] "lang") (.badLanguage lang)
    return lang

/-- The path that the site is served under: absolute, without white space, and given a slash at its
end. -/
def resolveBase (raw : Option Text) : Checked Text :=
  match raw.map Text.trim with
  | none => pure defaultBase
  | some base =>
    if !Text.startsWith ['/'] base || base.any Text.isBlank then do
      Checked.report (FieldPath.field [] "base") (.baseNotAbsolute base)
      return base
    else pure (Text.withTrailingSlash base)

def check [Pattern.SizeTest] (raw : Draft) : Checked Site := do
  let title ← resolveTitle raw.title
  let lang ← resolveLang raw.lang
  let base ← resolveBase raw.base
  let head ← Checked.each
    (fun i tag => HeadTag.resolve ((FieldPath.field [] "head").push (.index i)) tag)
    (raw.head.getD [])
  let theme ← Theme.resolve (FieldPath.field [] "themeConfig") (raw.theme.getD {})
  return {
    lang, title, base, head, theme
    description := (raw.description.map Text.trim).getD []
    lastUpdated := raw.lastUpdated.getD false
    cleanUrls := raw.cleanUrls.getD false }

def resolve [Pattern.SizeTest] (raw : Draft) : Except (List Diagnostic) Site := (check raw).result

def toDraft (site : Site) : Draft where
  lang := some site.lang
  title := some site.title
  description := some site.description
  base := some site.base
  lastUpdated := some site.lastUpdated
  cleanUrls := some site.cleanUrls
  head := some (site.head.map HeadTag.toDraft)
  theme := some site.theme.toDraft

def toValue (site : Site) : Value :=
  .table [("lang".toList, .text site.lang), ("title".toList, .text site.title),
    ("description".toList, .text site.description), ("base".toList, .text site.base),
    ("lastUpdated".toList, .flag site.lastUpdated), ("cleanUrls".toList, .flag site.cleanUrls),
    ("head".toList, .list (site.head.map HeadTag.toValue)),
    ("themeConfig".toList, site.theme.toValue)]

def draftOf (title lang : Text) : Draft := { title := some title, lang := some lang }

end Site

end Signpost
