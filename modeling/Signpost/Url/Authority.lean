import Signpost.Url.Address
import Signpost.Url.Domain
import Signpost.Url.Path

/-!
# The authority of a URL

Behind two slashes stand user information up to an at sign, a host and a port.
-/

namespace Signpost.Url

/-- A host between brackets. -/
def readBracketed (t : Text) : Except UrlError Host :=
  match Text.stripEnd? [']'] t with
  | none => .error .badVersion6
  | some inside =>
    match Address.version6? inside with
    | some groups => .ok (.version6 groups)
    | none => .error .badVersion6

/-- The host of a scheme with rules for hosts: escapes are resolved, and the name is brought into
its ASCII form. A name that ends in a number is an address. -/
def readHost (t : Text) : Except UrlError Host :=
  match t with
  | '[' :: inside => readBracketed inside
  | _ =>
    match (Percent.decode? t).bind Domain.toAscii? with
    | none => .error .badDomain
    | some name =>
      if name.isEmpty then .error .emptyHost
      else if Address.endsInNumber name then
        match Address.version4? name with
        | some address => .ok (.version4 address)
        | none => .error .badVersion4
      else .ok (.domain name)

/-- The characters that no host may hold. -/
def isForbiddenInHost (c : Char) : Bool :=
  c.toNat = 0 || "\t\n\r #/:<>?@[\\]^|".toList.contains c

/-- The host of any other scheme; none for an empty text. -/
def readNamedHost (t : Text) : Except UrlError (Option Host) :=
  match t with
  | '[' :: inside => (readBracketed inside).map some
  | [] => .ok none
  | _ =>
    if t.any isForbiddenInHost then .error .badHostCharacter
    else .ok (some (.named (Percent.encode isEscapedAlways t)))

/-- What follows the user information, and whether there is any to be kept. The last at sign before
the end of the authority ends it. -/
def dropUser (kind : SchemeKind) (t : Text) : Except UrlError (Bool × Text) :=
  let authority := t.takeWhile (!isAuthorityEnd kind ·)
  if !authority.contains '@' then .ok (false, t)
  else
    let host := (authority.reverse.takeWhile (· != '@')).reverse
    let user := authority.take (authority.length - host.length - 1)
    let rest := t.drop (user.length + 1)
    if user.isEmpty then
      match rest with
      | c :: _ => if isAuthorityEnd kind c then .error .emptyHost else .ok (false, rest)
      | [] => .ok (false, rest)
    else .ok (user != [':'], rest)

/-- Cuts a text at the end of its host; a colon between brackets does not end it. -/
def cutHost (kind : SchemeKind) : (bracketed : Bool) → Text → Text × Text
  | _, [] => ([], [])
  | bracketed, c :: t =>
    if isAuthorityEnd kind c || (c = ':' && !bracketed) then ([], c :: t)
    else
      let (host, rest) := cutHost kind (c = '[' || (bracketed && c != ']')) t
      (c :: host, rest)

def readPort (t : Text) : Except UrlError (Option Nat × Text) :=
  let digits := t.takeWhile Text.isDigit
  let rest := t.dropWhile Text.isDigit
  let n := digits.foldl (fun n c => n * 10 + (c.toNat - 48)) 0
  if 65535 < n then .error .badPort
  else match rest with
    | [] => .ok (if digits.isEmpty then none else some n, rest)
    | c :: _ =>
      if c = '/' || c = '\\' || isPathEnd c then .ok (if digits.isEmpty then none else some n, rest)
      else .error .badPort

def readAuthority (scheme : Text) (t : Text) : Except UrlError Url := do
  let kind := SchemeKind.of scheme
  let (hasUser, rest) ← dropUser kind t
  let (hostText, rest) := cutHost kind false rest
  let host ← match kind with
    | .other => readNamedHost hostText
    | _ => if hostText.isEmpty then throw .emptyHost else (readHost hostText).map some
  let (port, rest) ← match rest with
    | ':' :: digits => if host.isNone then throw .emptyHost else readPort digits
    | _ => pure (none, rest)
  if host.isNone && hasUser then throw .emptyHost
  return {
    scheme, host
    port := if port = usualPort? scheme then none else port
    path := readPath kind rest }

end Signpost.Url
