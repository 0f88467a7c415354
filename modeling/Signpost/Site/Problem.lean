import Signpost.FieldPath
import Signpost.Pattern
import Signpost.Site.Icon
import Signpost.Url.Basic

/-!
# Problems

The rules that a draft can break. Each problem has a reason, which says what is wrong, and may have
a hint, which says what to write instead.
-/

namespace Signpost

/-- A broken rule. -/
inductive Problem where
  | titleMissing
  | titleBlank
  | badLanguage (tag : Text)
  | baseNotAbsolute (base : Text)
  | textMissing
  | textBlank
  | linkMissing
  | linkBlank
  | linkHasSpace (link : Text)
  | linkUnreadable (link : Text) (error : UrlError)
  | linkWithoutLead (link : Text)
  | tagNameBlank
  | badTagName (name : Text)
  | badAttributeName (name : Text)
  | repeatedAttribute (name : Text)
  | badPattern (error : Pattern.Error)
  | keyNotAbsolute (key : Text)
  | keyNotPlain (key : Text)
  | keyUnmatchable (key : Text) (area : Text)
  | repeatedArea (area : Text) (firstKey : Text)
  | iconMissing
  | iconUnknown (name : Text)
  | patternWithoutPlace
  /-- A problem that is worded by whoever reports it. -/
  | worded (reason : Text) (hint : Option Text)
deriving DecidableEq, Repr

namespace Problem

/-- The place in the pattern of an edit link where the path of the source goes. -/
def editPlace : Text := ":path".toList

/-- What a sidebar key may have meant: the key without dots and slashes in front, behind a slash. -/
def absoluteKey (key : Text) : Text :=
  '/' :: Text.trimStartBy (fun c => c = '.' || c = '/') (Text.trim key)

/-- What is wrong. -/
def reason : Problem → Text
  | .titleMissing => "title is required".toList
  | .titleBlank => "title must not be empty".toList
  | .badLanguage tag => '\'' :: tag ++ "' is not a valid language tag".toList
  | .baseNotAbsolute base => "base '".toList ++ base ++ "' must be an absolute path".toList
  | .textMissing => "text is required".toList
  | .textBlank => "text must not be empty".toList
  | .linkMissing => "link is required".toList
  | .linkBlank => "link must not be empty".toList
  | .linkHasSpace link => "link '".toList ++ link ++ "' contains whitespace".toList
  | .linkUnreadable link error => "invalid URL '".toList ++ link ++ "': ".toList ++ error.message
  | .linkWithoutLead link => "relative link '".toList ++ link ++ "' has no leading path".toList
  | .tagNameBlank => "tag name must not be empty".toList
  | .badTagName name => '\'' :: name ++ "' is not a valid tag name".toList
  | .badAttributeName name => '\'' :: name ++ "' is not a valid attribute name".toList
  | .repeatedAttribute name => "duplicate attribute '".toList ++ name ++ ['\'']
  | .badPattern error => "invalid regular expression: ".toList ++ error.message
  | .keyNotAbsolute key => "sidebar prefix '".toList ++ key ++ "' must be an absolute path".toList
  | .keyNotPlain key =>
    "sidebar prefix '".toList ++ key ++ "' must be a plain path without query or fragment".toList
  | .keyUnmatchable key area =>
    "sidebar prefix '".toList ++ key ++ "' decodes to '".toList ++ area ++
      "', which no page path can match".toList
  | .repeatedArea area _ => "duplicate sidebar prefix '".toList ++ area ++ ['\'']
  | .iconMissing => "icon is required".toList
  | .iconUnknown name => Icon.unknownMessage name
  | .patternWithoutPlace => "pattern has no `".toList ++ editPlace ++ "` placeholder".toList
  | .worded reason _ => reason

def hint : Problem → Option Text
  | .titleMissing => some "set title = \"My Docs\"".toList
  | .badLanguage _ => some "use a BCP 47 tag such as \"en-US\" or \"zh-Hans\"".toList
  | .baseNotAbsolute _ => some "use format like \"/\" or \"/docs/\"".toList
  | .linkHasSpace _ => some "percent-encode spaces as %20".toList
  | .linkUnreadable _ _ => some "use format like https://example.com".toList
  | .linkWithoutLead link =>
    some ("start it with `/`, e.g. \"/".toList ++ link ++ ['"'])
  | .tagNameBlank => some "use an element name such as \"link\" or \"meta\"".toList
  | .repeatedAttribute _ => some "each attribute may appear only once per tag".toList
  | .keyNotAbsolute key => some ("use \"".toList ++ absoluteKey key ++ ['"'])
  | .repeatedArea _ firstKey =>
    some ("already declared as \"".toList ++ firstKey ++ "\"; merge the two entries".toList)
  | .iconMissing => some ("expected one of: ".toList ++ Icon.knownList)
  | .iconUnknown _ => some ("expected one of: ".toList ++ Icon.knownList)
  | .patternWithoutPlace =>
    some "e.g. \"https://github.com/org/repo/edit/main/docs/:path\"".toList
  | .worded _ hint => hint
  | _ => none

end Problem

/-- A problem and the field it was found at. -/
structure Diagnostic where
  field : FieldPath
  problem : Problem
deriving DecidableEq, Repr

/-- Whether one of the diagnostics is found at the field with this text or below it. -/
def Diagnostic.mentions (diagnostics : List Diagnostic) (field : Text) : Bool :=
  diagnostics.any fun d => d.field.isUnder field

/-- A value together with the problems met on the way to it, in the order in which they were met. -/
structure Checked (α : Type) where
  value : α
  problems : List Diagnostic
deriving DecidableEq, Repr

namespace Checked

def report (field : FieldPath) (problem : Problem) : Checked Unit := ⟨(), [⟨field, problem⟩]⟩

def reportIf (broken : Bool) (field : FieldPath) (problem : Problem) : Checked Unit :=
  if broken then report field problem else ⟨(), []⟩

def andThen {α β : Type} (first : Checked α) (second : α → Checked β) : Checked β :=
  let next := second first.value
  ⟨next.value, first.problems ++ next.problems⟩

instance : Monad Checked where
  pure a := ⟨a, []⟩
  bind := andThen

/-- Checks the elements of a list in order, each with its position; `i` is the first position. -/
def eachFrom {α β : Type} (check : Nat → α → Checked β) : Nat → List α → Checked (List β)
  | _, [] => pure []
  | i, a :: rest => do
    let b ← check i a
    let bs ← eachFrom check (i + 1) rest
    return b :: bs

/-- Checks the elements of a list in order, each with its position. -/
def each {α β : Type} (check : Nat → α → Checked β) (items : List α) : Checked (List β) :=
  eachFrom check 0 items

/-- Checks a value that may be absent. -/
def optional {α β : Type} (check : α → Checked β) : Option α → Checked (Option β)
  | none => pure none
  | some a => do
    let b ← check a
    return some b

def result {α : Type} (c : Checked α) : Except (List Diagnostic) α :=
  if c.problems.isEmpty then .ok c.value else .error c.problems

end Checked

end Signpost
