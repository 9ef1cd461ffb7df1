import Reckon.Pattern.Reader
import Reckon.Pattern.Meaning
import Reckon.Pattern.Room

/-!
Regular expressions: Unicode classes, leftmost matches with the first alternative preferred, no
look-around and no back-references.
-/

namespace Reckon

/-- A pattern that is well formed: its text and what it matches. -/
structure Pattern where
  source : String
  node : Pattern.Node

namespace Pattern

/-- The pattern of a text, if it is well formed and not too large. -/
def compile? (source : String) : Option Pattern :=
  (Tree.read? source).bind fun tree =>
    (tree.meaning? {}).bind fun (node, _) =>
      if node.fits then some ⟨source, node⟩ else none

def isMatch (pattern : Pattern) (text : String) : Bool :=
  pattern.node.matchesIn text.toList

end Pattern

end Reckon
