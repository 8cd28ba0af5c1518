import Shipshape.Drift.Comparator

/-!
# Decisions

What is to be done about a container, given how it differs from its specification.
-/

namespace Shipshape

/-- What is to be done about a container. -/
inductive Decision where
  | noOp
  | create
  | recreate
  | restart
  | startOnly
  deriving DecidableEq, Repr

namespace Decision

def name : Decision → String
  | noOp => "no-op"
  | create => "create"
  | recreate => "recreate"
  | restart => "restart"
  | startOnly => "start-only"

/-- The strategy under which a restart takes over a changed configuration. -/
def copyAlways : String := "COPY_ALWAYS"

/-- Decides; without a drift there is no container. A changed configuration alone is taken over by a restart
where the strategy says so, and a container that only has to run is started. -/
def decide (drift : Option Drift) (configChanged : Bool) (strategy : Option String)
    (state : DesiredState) : Decision :=
  match drift with
  | none => create
  | some d =>
    if d.needsRecreate then recreate
    else if !d.changed then
      if !configChanged then noOp
      else if strategy == some copyAlways then restart
      else recreate
    else if d.only .state && (state = .running || state = .started) && !configChanged then startOnly
    else recreate

end Decision

end Shipshape
