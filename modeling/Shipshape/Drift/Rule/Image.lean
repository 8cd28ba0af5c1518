import Shipshape.CommandLine
import Shipshape.Drift.Comparison
import Shipshape.Text.Pieces

/-!
# Rules on what comes from the image

The image itself, labels and the command, both of which an image may bring along.
-/

namespace Shipshape.Comparison

/-! ## Image -/

/-- What stands behind the last slash of a reference. -/
def lastSegment (reference : String) : String :=
  match Text.splitLast? '/' reference.toList with
  | some (_, last) => .ofList last
  | none => reference

/-- Whether the container is not made from the local image of that name. -/
def imageDiffers (c : Comparison) : Bool :=
  match c.spec.image, c.image with
  | none, _ => false
  | some _, none => true
  | some desired, some image =>
    c.live.imageId? != some image.id ||
      lastSegment desired != lastSegment (((c.live.configValue? "Image").bind Json.string?).getD "")

def imageSnapshot (c : Comparison) : Snapshot :=
  ⟨(c.live.configValue? "Image").getD .null, .ofString? c.spec.image⟩

/-! ## Labels -/

/-- The live labels without those that only the image brings along. -/
def ownLabels (c : Comparison) : Dict String :=
  let inherited := (c.image.map (·.labels.keys)).getD []
  c.live.labels.filter fun e => !inherited.contains e.1 || c.spec.labels.contains e.1

/-- Whether a label of the image is declared with another value. -/
def labelOverridden (c : Comparison) : Bool :=
  ((c.image.map Image.labels).getD ∅).entries.any fun e => (c.spec.labels.get? e.1).any (· != e.2)

def labelsDiffer (c : Comparison) : Bool :=
  c.labelOverridden || c.spec.labels != c.ownLabels

def labelsSnapshot (c : Comparison) : Snapshot :=
  ⟨.ofStringDict c.ownLabels, .ofStringDict c.spec.labels⟩

/-! ## Command -/

/-- The words that the live container runs. -/
def liveArguments (c : Comparison) : List String :=
  c.live.path?.toList ++ c.live.arguments

/-- The entrypoint that the engine puts in front of the command: that of the image, unless another one is
declared. -/
def inheritedEntrypoint (c : Comparison) : List String :=
  if c.spec.entrypoint.isNone then (c.image.map (·.entrypoint)).getD [] else []

/-- Whether the command differs. Words that only differ in how they are kept apart do not count. -/
def commandDiffers (c : Comparison) : Except Error Bool :=
  match c.spec.command with
  | none => .ok false
  | some desired => do
    let words ← CommandLine.split desired
    let live := c.liveArguments
    return !(words == live || c.inheritedEntrypoint ++ words == live ||
      CommandLine.sameWords desired (" ".intercalate live))

def commandSnapshot (c : Comparison) : Snapshot :=
  ⟨.str (" ".intercalate c.liveArguments), .ofString? c.spec.command⟩

end Shipshape.Comparison
