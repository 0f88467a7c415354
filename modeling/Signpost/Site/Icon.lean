import Signpost.Text.Basic

/-!
# Icons

The closed set of icons that a theme can show beside a profile link.
-/

namespace Signpost

/-- An icon of the set. -/
inductive Icon where
  | github
  | gitlab
  | discord
  | twitter
  | x
  | mastodon
  | bluesky
  | facebook
  | instagram
  | linkedin
  | slack
  | youtube
  | npm
deriving DecidableEq, Repr

namespace Icon

/-- The version of the set; it grows with every icon that is added. -/
def setVersion : Nat := 1

def all : List Icon :=
  [.github, .gitlab, .discord, .twitter, .x, .mastodon, .bluesky, .facebook, .instagram, .linkedin,
    .slack, .youtube, .npm]

def name : Icon → Text
  | .github => "github".toList
  | .gitlab => "gitlab".toList
  | .discord => "discord".toList
  | .twitter => "twitter".toList
  | .x => "x".toList
  | .mastodon => "mastodon".toList
  | .bluesky => "bluesky".toList
  | .facebook => "facebook".toList
  | .instagram => "instagram".toList
  | .linkedin => "linkedin".toList
  | .slack => "slack".toList
  | .youtube => "youtube".toList
  | .npm => "npm".toList

def label : Icon → Text
  | .github => "GitHub".toList
  | .gitlab => "GitLab".toList
  | .discord => "Discord".toList
  | .twitter => "Twitter".toList
  | .x => "X".toList
  | .mastodon => "Mastodon".toList
  | .bluesky => "Bluesky".toList
  | .facebook => "Facebook".toList
  | .instagram => "Instagram".toList
  | .linkedin => "LinkedIn".toList
  | .slack => "Slack".toList
  | .youtube => "YouTube".toList
  | .npm => "npm".toList

def knownList : Text := Text.join ", ".toList (all.map name)

def ofName? (t : Text) : Option Icon := all.find? (·.name == t)

/-- The text of the error for a name that no icon has. -/
def unknownMessage (t : Text) : Text := "unknown icon '".toList ++ t ++ ['\'']

end Icon

end Signpost
