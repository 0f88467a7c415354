import Signpost.Proofs.Json.Spelling
import Signpost.Proofs.Site.DraftTaking
import Signpost.Site.Render
import Signpost.Site.Source

/-!
# Drafts and sites written as JSON

Taking in the JSON text of a draft gives the draft, and taking in the text of a site gives the draft
of the site. No key of such a text is unknown.
-/

namespace Signpost

open Document (Value)

theorem Format.spells_write_json (pretty : Bool) (v : Value) :
    Json.Spells v (Format.json.write pretty v) := by
  cases pretty with
  | false => exact Json.spells_compact v
  | true => exact Json.spells_pretty 0 v

theorem Draft.read_json {d : Draft} {v : Value} {t : Text} (h : Json.Spells v t)
    (taken : Draft.shape.decode.Takes v d) : Draft.read .json t = .ok (d, []) := by
  have hdecode := Json.decode_spells h Json.gap_nil Json.gap_nil taken
  rw [List.append_nil, List.nil_append] at hdecode
  rw [Draft.read, hdecode]
  rfl

/-- A draft is read back from its JSON text as it was written: what is absent, empty or repeated in
it stays so, and each tag keeps its form. -/
theorem Draft.read_write_json (d : Draft) (pretty : Bool) :
    Draft.read .json (Format.json.write pretty d.toValue) = .ok (d, []) :=
  Draft.read_json (Format.spells_write_json pretty d.toValue) (Draft.takes d)

/-- A site is read back from its JSON text as its draft, in both layouts. -/
theorem Site.read_render_json (site : Site) (pretty : Bool) :
    Draft.read .json (site.render .json pretty) = .ok (site.toDraft, []) :=
  Draft.read_json (Format.spells_write_json pretty site.toValue) (Site.takes site)

end Signpost
