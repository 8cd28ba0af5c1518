import Shipshape.Drift.Attribute
import Shipshape.Drift.Comparison

/-!
# Secrets

Values of the environment whose names look like those of secrets are never shown. Their names are, and
whether a secret differs.
-/

namespace Shipshape.Secret

/-- A letter regardless of its case: the long s and the Kelvin sign are cases of `s` and `k`. -/
def foldCase (c : Char) : Char :=
  if c.toNat = 0x17F then 's' else if c.toNat = 0x212A then 'k' else c.toLower

/-- The words that mark a name as that of a secret. -/
def markers : List (List Char) :=
  ["pass", "token", "secret", "credential", "apikey", "api_key", "privatekey", "private_key"].map
    String.toList

def containsMarker : List Char → Bool
  | [] => false
  | c :: cs => markers.any (·.isPrefixOf (c :: cs)) || containsMarker cs

def isSecretName (name : String) : Bool :=
  containsMarker (name.toList.map foldCase)

def hidden : Json := .str "[REDACTED]"

/-- What stands for a desired secret that differs from the live one. -/
def hiddenChanged : Json := .str "[REDACTED:changed]"

mutual

/-- A value that may be a secret: of an object only the fields with names of secrets are hidden, and
`null` hides nothing. -/
def mask : Json → Json
  | .null => .null
  | .obj fields => .obj (maskFields fields)
  | .bool _ | .int _ | .float _ | .str _ | .arr _ => hidden

def maskFields : List (String × Json) → List (String × Json)
  | [] => []
  | (k, v) :: rest => (k, if isSecretName k then mask v else v) :: maskFields rest

end

def desiredMark (live : Option Json) (desired : Json) : Json :=
  match live with
  | some old => if !old.same desired && !old.isNull then hiddenChanged else hidden
  | none => hidden

/-- A value of a desired environment with a secret hidden; a secret that differs from the live one is marked
as such. -/
def hideDesired (live : Dict Json) (k : String) (v : Json) : Json :=
  if !isSecretName k || v.isNull then v else desiredMark (live.get? k) v

/-- The two sides of an attribute with the secrets hidden. Only the environment holds any. -/
def redact (a : Attribute) (s : Snapshot) : Snapshot :=
  if a ≠ .environment then s
  else match s.current, s.desired with
    | .obj live, .obj desired =>
      ⟨.obj (maskFields live), .obj (desired.map fun e => (e.1, hideDesired (.ofList live) e.1 e.2))⟩
    | current, desired => ⟨mask current, mask desired⟩

end Shipshape.Secret
