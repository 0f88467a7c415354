import Signpost.Url.Reference

/-!
# Page paths

The path of a page as the site engine sees it: the path of the URL that a text leads to from the
root of a site, with its escapes resolved.
-/

namespace Signpost.PagePath

def root : Url := ⟨"http".toList, some (.domain ['x']), none, .segments [[]]⟩

/-- The path before escapes are resolved; of a text that is no reference, what stands before its
query and fragment. -/
def undecoded (t : Text) : Text :=
  match Url.join root t with
  | .ok url => url.path.render
  | .error _ => t.takeWhile (!Url.isPathEnd ·)

/-- The path of a page: query and fragment are dropped, dot segments and escapes resolved, and a
slash stands in front. Escapes stay when they do not resolve to a text. -/
def normalize (t : Text) : Text :=
  let trimmed := Text.trim t
  if trimmed.isEmpty then ['/']
  else
    let path := undecoded trimmed
    let decoded := (Percent.decode? path).getD path
    if Text.startsWith ['/'] decoded then decoded else '/' :: decoded

end Signpost.PagePath
