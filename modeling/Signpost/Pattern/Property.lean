import Signpost.Pattern.Property.Age
import Signpost.Pattern.Property.Script
import Signpost.Pattern.Property.Trait

/-!
# Character properties by name

A property is asked for by one name, which may be that of a trait, of a general category or of a
script, or by the name of a property and a value of it. Case, blanks, underscores and hyphens in
names do not count, and neither does a leading `is`.
-/

namespace Signpost.Pattern.Property

/-- Why there is no set of characters behind a name. -/
inductive Missing where
  /-- No property has the name. -/
  | name
  /-- The property has no characters with this value. -/
  | value
deriving DecidableEq, Repr

/-- A name as it is compared: ASCII only, in small letters, without blanks, underscores, hyphens and
a leading `is`. The abbreviation `isc` keeps its first two letters. -/
def normalize (name : Text) : Text :=
  let plain (t : Text) : Text :=
    (t.filter fun c => c.toNat ≤ 0x7F && c != ' ' && c != '_' && c != '-').map Char.toLower
  match name with
  | a :: b :: rest =>
    if Text.lower [a, b] = "is".toList then
      if plain rest = ['c'] then "isc".toList else plain rest
    else plain name
  | _ => plain name

/-- Names of properties that are no traits and have no values here. -/
def otherNames : String :=
  "kaccountingnumeric cjkaccountingnumeric kothernumeric cjkothernumeric kprimarynumeric
  cjkprimarynumeric nv numericvalue bmg bidimirroringglyph bpb bidipairedbracket cf casefolding
  kcompatibilityvariant cjkcompatibilityvariant dm decompositionmapping equideo
  equivalentunifiedideograph fcnfkc fcnfkcclosure lc lowercasemapping nfkccf nfkccasefold nfkcscf
  nfkcsimplecasefold scf sfc simplecasefolding slc simplelowercasemapping stc
  simpletitlecasemapping suc simpleuppercasemapping tc titlecasemapping uc uppercasemapping
  kiicore cjkiicore kirggsource cjkirggsource kirghsource cjkirghsource kirgjsource cjkirgjsource
  kirgkpsource cjkirgkpsource kirgksource cjkirgksource kirgmsource cjkirgmsource kirgssource
  cjkirgssource kirgtsource cjkirgtsource kirguksource cjkirguksource kirgusource cjkirgusource
  kirgvsource cjkirgvsource krsunicode cjkrsunicode unicoderadicalstroke urs isc isocomment jsn
  jamoshortname kehcat kehdesc kehhg kehifao kehjsesh kehnomirror kehnorotate na name na1
  unicode1name namealias blk block bc bidiclass bpt bidipairedbrackettype ccc
  canonicalcombiningclass dt decompositiontype ea eastasianwidth gcb graphemeclusterbreak hst
  hangulsyllabletype incb indicconjunctbreak inpc indicpositionalcategory insc
  indicsyllabiccategory jg joininggroup jt joiningtype lb linebreak nfcqc nfcquickcheck nfdqc
  nfdquickcheck nfkcqc nfkcquickcheck nfkdqc nfkdquickcheck nt numerictype sb sentencebreak vo
  verticalorientation wb wordbreak ce compositionexclusion compex fullcompositionexclusion cwkcf
  changeswhennfkccasefolded xonfc expandsonnfc xonfd expandsonnfd xonfkc expandsonnfkc xonfkd
  expandsonnfkd"

def hasValues (name : Text) : Bool :=
  ["age", "gc", "generalcategory", "sc", "script", "scx", "scriptextensions"].any
    (·.toList == name)

/-- Whether a name is that of a property without a set of characters of its own. -/
def isOther (name : Text) : Bool := (Text.words otherNames.toList).any (· == name)

def require (missing : Missing) : Option CharSet → Except Missing CharSet
  | some set => .ok set
  | none => .error missing

/-- The characters behind a single name: of a trait, else of a general category, else of a script.
`cf`, `sc` and `lc` are categories here although properties have these abbreviations. -/
def find (name : Text) : Except Missing CharSet :=
  let name := normalize name
  let category := ["cf", "sc", "lc"].any (·.toList == name)
  if !category && (hasValues name || isOther name) then .error .name
  else match if category then none else Trait.find? name with
    | some set => .ok set
    | none =>
      if name = "cs".toList ∨ name = "surrogate".toList then .error .value
      else match Category.find? name with
        | some set => .ok set
        | none =>
          if Script.isVacant name then .error .value else require .name (Script.find? name)

def findValue (name value : Text) : Except Missing CharSet :=
  let name := normalize name
  let value := normalize value
  if name = "gc".toList ∨ name = "generalcategory".toList then
    require .value (Category.find? value)
  else if name = "sc".toList ∨ name = "script".toList then require .value (Script.find? value)
  else if name = "scx".toList ∨ name = "scriptextensions".toList then
    require .value (Script.findExtended? value)
  else if name = "age".toList then require .value (Age.find? value)
  else if isOther name || (Trait.find? name).isSome then .error .value
  else .error .name

end Signpost.Pattern.Property
