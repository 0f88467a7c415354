import Signpost.Json.Writer
import Signpost.Site.Source
import Signpost.Toml.Writer

/-!
# Rendering sites

The written form of a site is itself a config text.
-/

namespace Signpost

/-- A value in a format. Pretty JSON has a line for each member; TOML has one layout. -/
def Format.write (format : Format) (pretty : Bool) (value : Document.Value) : Text :=
  match format with
  | .json => if pretty then Json.pretty 0 value else Json.compact value
  | .toml => Toml.write value

def Site.render (site : Site) (format : Format) (pretty : Bool) : Text :=
  format.write pretty site.toValue

end Signpost
