import Signpost.Text.Basic

/-!
# The starter file

The config file that a new site begins with. It resolves without a problem as it stands.
-/

namespace Signpost.Command

def programName : Text := "docsite".toList

def version : Text := "0.1.0".toList

/-- The lines of the starter file behind its head. -/
def starterLines : List String := [
  "title = \"My Docs\"",
  "lang = \"en-US\"",
  "description = \"\"",
  "# Public path the site is served under",
  "base = \"/\"",
  "lastUpdated = false",
  "cleanUrls = false",
  "",
  "# Tags injected into every page's <head>: [tag, \x7b attributes \x7d, content?]",
  "head = [",
  "    [\"link\", \x7b rel = \"icon\", href = \"/favicon.ico\" \x7d],",
  "]",
  "",
  "[themeConfig]",
  "# logo = \"/logo.svg\"",
  "",
  "[[themeConfig.nav]]",
  "text = \"Guide\"",
  "link = \"/guide/\"",
  "activeMatch = \"^/guide/\"",
  "",
  "# Sidebar keys are path prefixes; the longest matching prefix wins.",
  "[[themeConfig.sidebar.\"/guide/\"]]",
  "text = \"Introduction\"",
  "items = [",
  "    \x7b text = \"Getting Started\", link = \"/guide/getting-started\" \x7d,",
  "]",
  "",
  "# Icons: github, gitlab, discord, twitter, x, mastodon, bluesky,",
  "# facebook, instagram, linkedin, slack, youtube, npm",
  "[[themeConfig.socialLinks]]",
  "icon = \"github\"",
  "link = \"https://github.com/\"",
  "",
  "# [themeConfig.footer]",
  "# message = \"Released under the MIT License.\"",
  "# copyright = \"Copyright © 2024\"",
  "",
  "# [themeConfig.editLink]",
  "# pattern = \"https://github.com/org/repo/edit/main/docs/:path\"",
  "# text = \"Edit this page\""]

def starterText : Text :=
  "# ".toList ++ programName ++ " configuration file (v".toList ++ version ++ ")\n\n".toList ++
    starterLines.flatMap fun line => line.toList ++ ['\n']

end Signpost.Command
