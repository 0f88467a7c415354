import Signpost.Text.Percent

/-!
# URLs

The parts of a URL that decide where it leads: scheme, host, port and path. The user information,
query and fragment are checked while reading and then left out.
-/

namespace Signpost

/-- Where a URL is served. -/
inductive Host where
  /-- A domain name in its ASCII form. -/
  | domain (name : Text)
  | version4 (address : Nat)
  | version6 (groups : List Nat)
  /-- The host of a scheme without rules of its own, escapes left as they are. -/
  | named (name : Text)
deriving DecidableEq, Repr

/-- Why a text is no URL. -/
inductive UrlError where
  | emptyHost
  | badDomain
  | badPort
  | badVersion4
  | badVersion6
  | badHostCharacter
  | relativeWithoutBase
deriving DecidableEq, Repr

def UrlError.message : UrlError → Text
  | .emptyHost => "empty host".toList
  | .badDomain => "invalid international domain name".toList
  | .badPort => "invalid port number".toList
  | .badVersion4 => "invalid IPv4 address".toList
  | .badVersion6 => "invalid IPv6 address".toList
  | .badHostCharacter => "invalid domain character".toList
  | .relativeWithoutBase => "relative URL without a base".toList

/-- The path of a URL: its segments, or a text that is not cut at slashes. -/
inductive UrlPath where
  | segments (parts : List Text)
  | whole (t : Text)
deriving DecidableEq, Repr

/-- The text of a path; a slash precedes each segment. -/
def UrlPath.render : UrlPath → Text
  | .segments parts => parts.flatMap ('/' :: ·)
  | .whole t => t

/-- A URL without user information, query and fragment. The port is left out when it is the usual
one of the scheme. -/
structure Url where
  scheme : Text
  host : Option Host
  port : Option Nat
  path : UrlPath
deriving DecidableEq, Repr

namespace Url

/-- How the part behind the colon is read. -/
inductive SchemeKind where
  /-- Files: the host may be missing, and a drive letter stays in the path. -/
  | file
  /-- Schemes of the web: a host is needed, and a backslash counts as a slash. -/
  | web
  | other
deriving DecidableEq, Repr

/-- The kind of a scheme in small letters. -/
def SchemeKind.of (scheme : Text) : SchemeKind :=
  if scheme = "file".toList then .file
  else if ["http".toList, "https".toList, "ws".toList, "wss".toList, "ftp".toList].contains scheme
  then .web
  else .other

def SchemeKind.isSpecial (kind : SchemeKind) : Bool := kind != .other

/-- The usual port of a scheme. -/
def usualPort? (scheme : Text) : Option Nat :=
  if scheme = "http".toList ∨ scheme = "ws".toList then some 80
  else if scheme = "https".toList ∨ scheme = "wss".toList then some 443
  else if scheme = "ftp".toList then some 21
  else none

def isSlash (kind : SchemeKind) (c : Char) : Bool := c = '/' || (kind.isSpecial && c = '\\')

def isPathEnd (c : Char) : Bool := c = '?' || c = '#'

def isAuthorityEnd (kind : SchemeKind) (c : Char) : Bool := isSlash kind c || isPathEnd c

/-- Where a URL is served: two URLs of one origin belong to one site. -/
def origin (u : Url) : Text × Option Host × Option Nat := (u.scheme, u.host, u.port)

end Url

end Signpost
