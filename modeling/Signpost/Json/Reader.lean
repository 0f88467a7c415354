import Signpost.Json.Number
import Signpost.Json.Quoted

/-!
# Reading JSON

A JSON text is read into a tree of found values. Objects keep their members in source order with
repetitions. Of two calls inside each other at least one uses up a character, so twice the length of
the text bounds their depth.
-/

namespace Signpost.Json

open Document

def isSpace (c : Char) : Bool := c = ' ' || c = '\n' || c = '\t' || c = '\r'

def skipSpace (t : Text) : Text := t.dropWhile isSpace

/-- The fault of a character that must not stand at the head of `t`. -/
def faultOn (breach : Breach) (t : Text) : Fault :=
  match t with
  | [] => ⟨breach, ⟨[], 0⟩⟩
  | _ => ⟨breach, ⟨t, 1⟩⟩

def Broken (fault : Fault) : Node := .cut fault fault

def readWord (node : Spot → Node) : (letters t : Text) → Node × Text
  | [], t => (node ⟨t, 0⟩, t)
  | _ :: _, [] => (Broken ⟨.endInValue, ⟨[], 0⟩⟩, [])
  | a :: letters, c :: t =>
    if a = c then readWord node letters t else (Broken ⟨.expectedWord, ⟨c :: t, 1⟩⟩, [])

/-- The number at the head of `t`, its sign taken off. -/
def numberNode (negative : Bool) (t : Text) : Node × Text :=
  match readNumber negative t with
  | .ok (.integer n, rest) => (.integer n ⟨rest, 0⟩, rest)
  | .ok (.float x, rest) => (.float x ⟨rest, 0⟩, rest)
  | .error reading =>
    match passNumber t with
    | .ok rest => (.unreadable reading, rest)
    | .error passing => (.cut reading passing, [])

def textNode (t : Text) : Node × Text :=
  match readQuoted 0 t with
  | .ok (text, rest) => (.text text ⟨rest, 0⟩, rest)
  | .error reading =>
    match passQuoted 0 t with
    | .ok rest => (.unreadable reading, rest)
    | .error passing => (.cut reading passing, [])

/-- What comes behind an element, `t` being the text behind it. -/
def followOf (t : Text) : Follow :=
  match skipSpace t with
  | [] => ⟨⟨[], 0⟩, some (faultOn .endInList [])⟩
  | ']' :: rest => ⟨⟨rest, 0⟩, none⟩
  | ',' :: rest =>
    let next := skipSpace rest
    let breach : Breach := match next with
      | ']' :: _ => .trailingComma
      | _ => .trailingCharacters
    ⟨⟨next, 0⟩, some (faultOn breach next)⟩
  | t => ⟨⟨t, 0⟩, some (faultOn .trailingCharacters t)⟩

/-- The place behind a key; an object that ends there is left. -/
def behindKey (t : Text) : Spot :=
  match skipSpace t with
  | '}' :: rest => ⟨rest, 0⟩
  | t => ⟨t, 0⟩

mutual

/-- The value at the head of a text without leading white space. -/
def readValue : Nat → Text → Node × Text
  | 0, t => (Broken (faultOn .expectedValue t), [])
  | fuel + 1, t =>
    match t with
    | [] => (Broken (faultOn .endInValue []), [])
    | 'n' :: rest => readWord .null "ull".toList rest
    | 't' :: rest => readWord (.flag true) "rue".toList rest
    | 'f' :: rest => readWord (.flag false) "alse".toList rest
    | '"' :: rest => textNode rest
    | '-' :: rest => numberNode true rest
    | '[' :: rest =>
      let inside := skipSpace rest
      let (items, rest) := match inside with
        | [] => (.cut (faultOn .endInList []) (faultOn .endInList []), [])
        | ']' :: rest => (.close ⟨rest, 0⟩, rest)
        | _ => readItems fuel inside
      (.list ⟨t, 0⟩ items, rest)
    | '{' :: rest =>
      let inside := skipSpace rest
      let (members, rest) := match inside with
        | [] => (.cut (faultOn .endInTable []) (faultOn .endInTable []), [])
        | '}' :: rest => (.close ⟨rest, 0⟩, rest)
        | '"' :: rest => readMembers fuel rest
        | _ => (.cut (faultOn .keyNotText inside) (faultOn .keyNotText inside), [])
      (.table ⟨t, 0⟩ members, rest)
    | c :: _ =>
      if Text.isDigit c then numberNode false t else (Broken (faultOn .expectedValue t), [])

/-- The elements from the one at the head of a text on. -/
def readItems : Nat → Text → Items × Text
  | 0, t => (.cut (faultOn .expectedValue t) (faultOn .expectedValue t), [])
  | fuel + 1, t =>
    let (value, behind) := readValue fuel t
    let (items, rest) := match skipSpace behind with
      | [] => (.cut (faultOn .endInList []) (faultOn .endInList []), [])
      | ']' :: rest => (.close ⟨rest, 0⟩, rest)
      | ',' :: rest =>
        let next := skipSpace rest
        match next with
        | [] => (.cut (faultOn .endInValue []) (faultOn .endInValue []), [])
        | ']' :: _ => (.cut (faultOn .trailingComma next) (faultOn .expectedValue next), [])
        | _ => readItems fuel next
      | t => (.cut (faultOn .expectedCommaOrListEnd t) (faultOn .expectedCommaOrListEnd t), [])
    (.item value (followOf behind) items, rest)

def readMembers : Nat → Text → Members × Text
  | 0, t => (.cut (faultOn .keyNotText t) (faultOn .keyNotText t), [])
  | fuel + 1, t =>
    let key : Except (Fault × Fault) (Except Fault Text × Text) :=
      match readQuoted 0 t with
      | .ok (text, rest) => .ok (.ok text, rest)
      | .error reading =>
        match passQuoted 0 t with
        | .ok rest => .ok (.error reading, rest)
        | .error passing => .error (reading, passing)
    match key with
    | .error (reading, passing) => (.cut reading passing, [])
    | .ok (text, behind) =>
      let (value, behindValue) := match skipSpace behind with
        | [] => (Broken (faultOn .endInTable []), [])
        | ':' :: rest => readValue fuel (skipSpace rest)
        | t => (Broken (faultOn .expectedColon t), [])
      let (members, rest) := match skipSpace behindValue with
        | [] => (.cut (faultOn .endInTable []) (faultOn .endInTable []), [])
        | '}' :: rest => (.close ⟨rest, 0⟩, rest)
        | ',' :: rest =>
          let next := skipSpace rest
          match next with
          | [] => (.cut (faultOn .endInValue []) (faultOn .endInTable []), [])
          | '"' :: rest => readMembers fuel rest
          | '}' :: _ => (.cut (faultOn .trailingComma next) (faultOn .keyNotText next), [])
          | _ => (.cut (faultOn .keyNotText next) (faultOn .keyNotText next), [])
        | t =>
          (.cut (faultOn .expectedCommaOrTableEnd t) (faultOn .expectedCommaOrTableEnd t), [])
      (.member ⟨text, behindKey behind⟩ value members, rest)

end

/-- The value of a text, and the fault of anything but white space behind it. -/
def read (t : Text) : Node × Option Fault :=
  let (node, rest) := readValue (2 * t.length + 1) (skipSpace t)
  match skipSpace rest with
  | [] => (node, none)
  | rest => (node, some (faultOn .trailingCharacters rest))

end Signpost.Json
