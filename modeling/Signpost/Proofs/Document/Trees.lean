import Signpost.Document.Node

/-!
# The tree of a config text

A tree is what a config text says, without places. A found value mirrors a tree when it is that tree
with places added. A number is mirrored by any number or by one that cannot be taken in, and a text
that cannot be taken in has no content in the tree.
-/

namespace Signpost.Document

/-- A value of a config text, with its members in source order and with repetitions. -/
inductive Tree where
  | null
  | flag (value : Bool)
  | number (spelling : Text)
  | text (content : Option Text)
  | list (elements : List Tree)
  | table (members : List (Option Text × Tree))

/-- The key was read as the name, or could only be passed over. -/
inductive Key.Names : Key → Option Text → Prop where
  | readable (name : Text) (after : Spot) : Key.Names ⟨.ok name, after⟩ (some name)
  | unreadable (fault : Fault) (after : Spot) : Key.Names ⟨.error fault, after⟩ none

mutual

/-- The found value is the tree with places added. -/
inductive Node.Mirrors : Node → Tree → Prop where
  | null (after : Spot) : Node.Mirrors (.null after) .null
  | flag (b : Bool) (after : Spot) : Node.Mirrors (.flag b after) (.flag b)
  | integer (n : Int) (after : Spot) (spelling : Text) :
      Node.Mirrors (.integer n after) (.number spelling)
  | float (x : Binary64) (after : Spot) (spelling : Text) :
      Node.Mirrors (.float x after) (.number spelling)
  | number (fault : Fault) (spelling : Text) : Node.Mirrors (.unreadable fault) (.number spelling)
  | text (t : Text) (after : Spot) : Node.Mirrors (.text t after) (.text (some t))
  | unreadable (fault : Fault) : Node.Mirrors (.unreadable fault) (.text none)
  | list (opening : Spot) {items : Items} {trees : List Tree}
      (inside : Items.Mirrors items trees) : Node.Mirrors (.list opening items) (.list trees)
  | table (opening : Spot) {members : Members} {pairs : List (Option Text × Tree)}
      (inside : Members.Mirrors members pairs) : Node.Mirrors (.table opening members) (.table pairs)

/-- The found elements are the trees; ending the list behind an element is a fault unless it is the
last one. -/
inductive Items.Mirrors : Items → List Tree → Prop where
  | close (after : Spot) : Items.Mirrors (.close after) []
  | item {node : Node} {tree : Tree} {follow : Follow} {rest : Items} {trees : List Tree}
      (first : Node.Mirrors node tree) (others : Items.Mirrors rest trees)
      (hlast : follow.surplus = none ↔ trees = []) :
      Items.Mirrors (.item node follow rest) (tree :: trees)

/-- The found members are the named trees. -/
inductive Members.Mirrors : Members → List (Option Text × Tree) → Prop where
  | close (after : Spot) : Members.Mirrors (.close after) []
  | member {key : Key} {name : Option Text} {node : Node} {tree : Tree} {rest : Members}
      {pairs : List (Option Text × Tree)} (hkey : key.Names name) (first : Node.Mirrors node tree)
      (others : Members.Mirrors rest pairs) :
      Members.Mirrors (.member key node rest) ((name, tree) :: pairs)

end

mutual

/-- What mirrors a tree can be passed over. -/
theorem Node.Mirrors.passing {node : Node} {tree : Tree} (h : Node.Mirrors node tree) :
    node.passing = none := by
  match h with
  | .null _ | .flag _ _ | .integer _ _ _ | .float _ _ _ | .number _ _ | .text _ _
  | .unreadable _ => rfl
  | .list _ inside => exact inside.passing
  | .table _ inside => exact inside.passing

theorem Items.Mirrors.passing {items : Items} {trees : List Tree} (h : Items.Mirrors items trees) :
    items.passing = none := by
  match h with
  | .close _ => rfl
  | .item first others _ => rw [Items.passing, first.passing, others.passing, Option.none_or]

theorem Members.Mirrors.passing {members : Members} {pairs : List (Option Text × Tree)}
    (h : Members.Mirrors members pairs) : members.passing = none := by
  match h with
  | .close _ => rfl
  | .member _ first others => rw [Members.passing, first.passing, others.passing, Option.none_or]

end

mutual

/-- Only behind the last element of a list is it no fault to end the list. -/
def Node.Coherent : Node → Prop
  | .list _ items => items.Coherent
  | .table _ members => members.Coherent
  | _ => True

def Items.Coherent : Items → Prop
  | .item value follow rest =>
    value.Coherent ∧ rest.Coherent ∧ (follow.surplus = none → rest.passing = none)
  | _ => True

def Members.Coherent : Members → Prop
  | .member _ value rest => value.Coherent ∧ rest.Coherent
  | _ => True

end

end Signpost.Document
