import Signpost.Url.Authority

/-!
# Reading URLs

A text is read as a URL of its own when it names a scheme; else it is a reference that needs the
URL of the page it stands on. Controls and spaces around the text and line breaks and tabs inside
do not count.
-/

namespace Signpost.Url

/-- The text without controls and spaces around it and without line breaks and tabs. -/
def clean (t : Text) : Text :=
  (Text.trimBy (·.toNat ≤ 0x20) t).filter fun c => c != '\t' && c != '\n' && c != '\r'

/-- A character of a scheme behind the first. -/
def isSchemeChar (c : Char) : Bool := Text.isAlphanumeric c || c = '+' || c = '-' || c = '.'

/-- The scheme of a text in small letters, and what follows its colon. -/
def splitScheme? (t : Text) : Option (Text × Text) :=
  let scheme := t.takeWhile isSchemeChar
  match scheme, t.dropWhile isSchemeChar with
  | c :: _, ':' :: rest => if Text.isLetter c then some (Text.lower scheme, rest) else none
  | _, _ => none

/-- A file URL, `t` being the text behind the colon. The host `localhost` is the same as none, and
so is a drive letter, which belongs to the path. -/
def readFile (t : Text) : Except UrlError Url := do
  let url (host : Option Host) (path : UrlPath) : Url :=
    { scheme := "file".toList, host, port := none, path }
  match t with
  | c :: d :: rest =>
    if isSlash .file c && isSlash .file d then
      let hostText := rest.takeWhile (!isAuthorityEnd .file ·)
      let behind := rest.drop hostText.length
      if isDrive hostText then return url none (.segments (readSegments .file [] rest))
      else if hostText.isEmpty then return url none (.segments (readSegments .file [] behind))
      else
        let host ← readHost hostText
        if host = .domain "localhost".toList then
          return url none (.segments (readSegments .file [] behind))
        else return url (some host) (readPath .file behind)
    else return url none (readPath .file t)
  | _ => return url none (readPath .file t)

/-- The URL with a scheme, `t` being the text behind the colon. -/
def readBehindScheme (scheme t : Text) : Except UrlError Url :=
  match SchemeKind.of scheme with
  | .file => readFile t
  | .web => readAuthority scheme (t.dropWhile (isSlash .web))
  | .other =>
    match t with
    | '/' :: '/' :: rest => readAuthority scheme rest
    | '/' :: rest =>
      .ok { scheme, host := none, port := none, path := .segments (readSegments .other [] rest) }
    | _ =>
      let path := Percent.encode isEscapedAlways (t.takeWhile (!isPathEnd ·))
      .ok { scheme, host := none, port := none, path := .whole path }

def parse (t : Text) : Except UrlError Url :=
  match splitScheme? (clean t) with
  | some (scheme, rest) => readBehindScheme scheme rest
  | none => .error .relativeWithoutBase

/-- The URL with a path that a reference without a scheme leads to from a page of the web. -/
def follow (base : Url) (t : Text) : Except UrlError Url :=
  let segments := match base.path with
    | .segments parts => parts
    | .whole _ => []
  match t with
  | [] => .ok base
  | '?' :: _ => .ok base
  | '#' :: _ => .ok base
  | c :: rest =>
    if isSlash .web c then
      match rest with
      | d :: _ =>
        if isSlash .web d then
          readAuthority base.scheme <| match t with
            | '/' :: '/' :: rest => rest
            | _ => t.dropWhile (isSlash .web)
        else .ok { base with path := .segments (readSegments .web [] rest) }
      | [] => .ok { base with path := .segments (readSegments .web [] rest) }
    else .ok { base with path := .segments (readSegments .web segments.reverse.tail t) }

/-- The URL that a text leads to when it stands on a page of the web, whose URL is `base`. A text
that repeats the scheme of the page, with less than two slashes behind it, is a reference too. -/
def join (base : Url) (t : Text) : Except UrlError Url :=
  match splitScheme? (clean t) with
  | none => follow base (clean t)
  | some (scheme, rest) =>
    if scheme = base.scheme && (rest.takeWhile (isSlash .web)).length < 2 then follow base rest
    else readBehindScheme scheme rest

end Signpost.Url
