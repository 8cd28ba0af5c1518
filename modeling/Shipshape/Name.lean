import Shipshape.SortedSet
import Shipshape.Text.Blank
import Shipshape.Text.Pieces

/-!
# Names

The spellings of a name, and the one that stands for all of them: for the capabilities and the limits of a
container, which engines write with a beginning that others leave out, and for the user that it runs as.
-/

namespace Shipshape

/-- A name in lower case, without blanks around it and without a beginning that some spellings have. -/
def Name.canonical (start : List Char) (name : String) : String :=
  let lower := Text.lower (Text.trim name)
  (Text.dropStart? start lower.toList).elim lower .ofList

namespace Capability

def canonicalName (name : String) : String := Name.canonical "cap_".toList name

/-- The set of the capabilities in a list; blank names are dropped. -/
def canonicalSet (names : List String) : List String :=
  SortedSet.ofList ((names.map canonicalName).filter (· != ""))

/-- Whether the live capabilities are the desired ones. What the engine adds on its own (`implicit`) only
counts when it was asked for. -/
def equivalent (desired live implicit : List String) : Bool :=
  let desired := canonicalSet desired
  let implicit := canonicalSet implicit
  desired == (canonicalSet live).filter fun c => !implicit.contains c || desired.contains c

end Capability

namespace User

def rootNames : List String := ["", "root", "0", "0:0", "root:root"]

/-- The user without blanks around it; every spelling of root, and no user at all, is `root`. -/
def canonical (user : Option String) : String :=
  let name := Text.trim (user.getD "")
  if name ∈ rootNames then "root" else name

end User

end Shipshape
