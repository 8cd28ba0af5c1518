/-!
# Attributes

What a live container is compared with its specification by.
-/

namespace Shipshape

/-- A compared property of a container. -/
inductive Attribute where
  | capAdd
  | securityOpt
  | image
  | ipcMode
  | labels
  | privileged
  | pidMode
  | cgroupnsMode
  | tmpfs
  | volumes
  | volumesFrom
  | environment
  | state
  | dimensions
  | command
  | healthcheck
  | restartPolicy
  | user
  deriving DecidableEq, Repr

namespace Attribute

def name : Attribute → String
  | capAdd => "cap_add"
  | securityOpt => "security_opt"
  | image => "image"
  | ipcMode => "ipc_mode"
  | labels => "labels"
  | privileged => "privileged"
  | pidMode => "pid_mode"
  | cgroupnsMode => "cgroupns_mode"
  | tmpfs => "tmpfs"
  | volumes => "volumes"
  | volumesFrom => "volumes_from"
  | environment => "environment"
  | state => "state"
  | dimensions => "dimensions"
  | command => "command"
  | healthcheck => "healthcheck"
  | restartPolicy => "restart_policy"
  | user => "user"

/-- All attributes, in the order in which they are compared. -/
def all : List Attribute :=
  [capAdd, securityOpt, image, ipcMode, labels, privileged, pidMode, cgroupnsMode, tmpfs, volumes,
    volumesFrom, environment, state, dimensions, command, healthcheck, restartPolicy, user]

theorem mem_all (a : Attribute) : a ∈ all := by
  cases a <;> decide

def ofName? (s : String) : Option Attribute :=
  all.find? (·.name == s)

theorem ofName?_name (a : Attribute) : ofName? a.name = some a := by
  cases a <;> decide +kernel

end Attribute

end Shipshape
