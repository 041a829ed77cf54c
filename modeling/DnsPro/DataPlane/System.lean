import DnsPro.EventLoop.Sound
import DnsPro.Publication.Locals

/-!
# The workers over the publication

Many event loops and one `FilterPublicationState`.  An instance enters its event loop with
the snapshot that `register_worker` or a refresh at its gates left it, and in the loop it asks
the publication for the active one when its generation counter rings.  Every other step is one
of a single loop, or one of the publication: of the publisher, the reclaimer, the supervisor,
or an instance that is not in its loop.

`contents` is the blocklist of a `FilterContext`; the object never changes.
-/

namespace DnsPro.DataPlane

open DnsPro.EventLoop DnsPro.Filter DnsPro.Publication DnsPro.Upstream

/-- A worker instance in its event loop. -/
structure Instance where
  instanceId : Nat
  loop : Loop

structure Plane where
  publication : Publication.System
  instances : Nat → Option Instance := fun _ => none

namespace Plane

variable (env : Server.Environment) (contents : FilterSnapshot → DomainBlocklist)

def setInstance (plane : Plane) (workerId : Nat) (entry : Option Instance) : Plane :=
  { plane with instances := Function.update plane.instances workerId entry }

/-- The event loop of the instance. -/
def loopOf (plane : Plane) (workerId instanceId : Nat) : Option Loop :=
  (plane.instances workerId).bind fun entry =>
    if entry.instanceId = instanceId then some entry.loop else none

/-- The instance is in its event loop. -/
def inLoop (plane : Plane) (workerId instanceId : Nat) : Bool :=
  (plane.instances workerId).any fun entry => entry.instanceId == instanceId

/-- What `refresh_filter_snapshot` makes of the snapshot of an instance; `none` where it
returns false. -/
def refreshed (plane : Plane) (workerId instanceId : Nat) : Option (Option DomainBlocklist) :=
  let result := plane.publication.publication.refreshWorkerSnapshot
    (plane.publication.localSnapshot workerId instanceId) workerId instanceId
  if result.ok then some (result.localSnapshot.map contents) else none

/-- `run` refreshes the snapshot in this step. -/
def refreshes (loop : Loop) : Loop.Label → Bool
  | .refreshed _ => loop.generationPending
  | _ => false

inductive Label where
  | publication (label : Publication.System.Label)
  | enter (workerId instanceId : Nat) (cache : Cache.CacheShard) (socketFd : Int)
      (config : ChannelConfig)
  | loop (workerId : Nat) (label : Loop.Label)
  | refresh (workerId : Nat)
  | leave (workerId : Nat)

def step (plane : Plane) : Label → Option Plane
  | .publication label =>
    if label.caller.all fun caller => !plane.inLoop caller.1 caller.2 then
      (plane.publication.step label).map fun publication =>
        { plane with publication := publication }
    else none
  | .enter workerId instanceId cache socketFd config =>
    if (plane.instances workerId).isNone ∧ Loop.Started env socketFd config then
      (plane.publication.localSnapshot workerId instanceId).map fun snapshot =>
        plane.setInstance workerId (some ⟨instanceId,
          Loop.initial env cache (some (contents snapshot)) socketFd config⟩)
    else none
  | .loop workerId label =>
    match plane.instances workerId with
    | none => none
    | some ⟨instanceId, loop⟩ =>
      if refreshes loop label then none
      else (loop.step env label).map fun next =>
        plane.setInstance workerId (some ⟨instanceId, next⟩)
  | .refresh workerId =>
    match plane.instances workerId with
    | none => none
    | some ⟨instanceId, loop⟩ =>
      if loop.generationPending then
        (loop.step env (.refreshed (plane.refreshed contents workerId instanceId))).map fun next =>
          { plane.setInstance workerId (some ⟨instanceId, next⟩) with
            publication := plane.publication.refresh workerId instanceId }
      else none
  | .leave workerId =>
    match plane.instances workerId with
    | none => none
    | some ⟨_, loop⟩ => if loop.point.ended then some (plane.setInstance workerId none) else none

/-- The data plane after a list of steps, from a new publication without workers. -/
def run (initialSnapshot : FilterSnapshot) (maximumWorkers graceTimeout : Nat)
    (labels : List Label) : Option Plane :=
  (Publication.System.new initialSnapshot maximumWorkers graceTimeout).bind fun publication =>
    Transition.run (step env contents) { publication := publication } labels

end Plane

end DnsPro.DataPlane
