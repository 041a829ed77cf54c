import DnsPro.Lib.Algorithms
import DnsPro.Protocol.Validation
import DnsPro.Protocol.Writer
import DnsPro.Runtime.TimerQueue

/-!
# The upstream channel and its transaction ids

The state of `upstream/UpstreamChannel.h` and the operations on its id pool.
Pending queries are named by numbers, and `slots_` maps an id to the query that
waits for it.  The two tables have one entry for each sixteen-bit id, so they
are functions.  `draws` counts the numbers taken from `random_engine_`.

What the channel gets from outside is an `Environment`: the readings of the
clock in the order they are taken, the heap algorithms of the library, and the
random choices.
-/

namespace DnsPro.Upstream

open DnsPro.Protocol DnsPro.Runtime

abbrev QueryId := Nat

inductive QueryOutcome where
  | response
  | timeout
  | sendError
  | socketError
  | overloaded
  | invalidQuery
  | cancelled
  deriving DecidableEq, Repr

structure QueryResult where
  outcome : QueryOutcome := .invalidQuery
  response : Bytes := []
  errorNumber : Int := 0
  deriving DecidableEq, Repr

/-- Two and four seconds, in nanoseconds, are the defaults of the two
durations. -/
structure ChannelConfig where
  queryTimeout : Duration := 2000000000
  idReuseGuard : Duration := 4000000000
  transactionIdCapacity : Nat := 65536
  initialTransactionId : UInt16 := 0
  randomizeTransactionIds : Bool := true
  deriving DecidableEq, Repr

structure ChannelStats where
  queriesSent : Nat := 0
  responsesCompleted : Nat := 0
  timeouts : Nat := 0
  cancellations : Nat := 0
  sendErrors : Nat := 0
  socketErrors : Nat := 0
  overloaded : Nat := 0
  invalidResponses : Nat := 0
  unmatchedResponses : Nat := 0
  invariantFailures : Nat := 0
  deriving DecidableEq, Repr

/-- The counter that `finish` increments. -/
def ChannelStats.countOutcome (stats : ChannelStats) : QueryOutcome → ChannelStats
  | .response => { stats with responsesCompleted := stats.responsesCompleted + 1 }
  | .timeout => { stats with timeouts := stats.timeouts + 1 }
  | .cancelled => { stats with cancellations := stats.cancellations + 1 }
  | .socketError => { stats with socketErrors := stats.socketErrors + 1 }
  | .sendError => { stats with sendErrors := stats.sendErrors + 1 }
  | .overloaded => { stats with overloaded := stats.overloaded + 1 }
  | .invalidQuery => stats

inductive IdState where
  | unavailable
  | free
  | pending
  | retired
  deriving DecidableEq, Repr

structure RetiredId where
  reusableAt : TimePoint
  id : UInt16
  deriving DecidableEq, Repr

/-- `RetiredLater`. -/
def retiredLater (left right : RetiredId) : Bool :=
  if left.reusableAt ≠ right.reusableAt then decide (left.reusableAt > right.reusableAt)
  else decide (left.id > right.id)

/-- `kTransactionIdSpace`. -/
def transactionIdSpace : Nat := 65536

structure Environment where
  clock : Nat → TimePoint
  heaps : HeapAlgorithms retiredLater
  random : Randomness UInt16

/-- `scheduler_` and `timers_` are set together, and `attached` is whether they
are. -/
structure UpstreamChannel where
  slots : UInt16 → Option QueryId := fun _ => none
  idStates : UInt16 → IdState := fun _ => .unavailable
  freeIds : List UInt16 := []
  retiredIds : List RetiredId := []
  draws : Nat := 0
  attached : Bool := false
  config : ChannelConfig := {}
  stats : ChannelStats := {}
  socketFd : Int := -1
  pendingCount : Nat := 0
  running : Bool := false
  accepting : Bool := false
  hasStarted : Bool := false

namespace UpstreamChannel

variable (env : Environment)

/-- `++stats_.invariant_failures`. -/
def recordFailure (channel : UpstreamChannel) : UpstreamChannel :=
  { channel with
    stats := { channel.stats with invariantFailures := channel.stats.invariantFailures + 1 } }

def setIdState (channel : UpstreamChannel) (id : UInt16) (state : IdState) : UpstreamChannel :=
  { channel with idStates := Function.update channel.idStates id state }

/-- `insert_free_id`: the new id changes places with a random one. -/
def insertFreeId (channel : UpstreamChannel) (id : UInt16) : UpstreamChannel :=
  let ids := channel.freeIds ++ [id]
  if channel.config.randomizeTransactionIds = false ∨ ids.length < 2 then
    { channel with freeIds := ids }
  else
    { channel with
      freeIds := swapEntries ids (ids.length - 1) (env.random.draw channel.draws ids.length)
      draws := channel.draws + 1 }

/-- `guarded_reuse_time`. -/
def guardedReuseTime (channel : UpstreamChannel) (now : TimePoint) : TimePoint :=
  let guard := channel.config.idReuseGuard
  if guard ≤ 0 then now
  else if now > 0 ∧ guard > durationMax - now then durationMax
  else now + guard

/-- One pass of the loop of `reclaim_ids`: the id at the front of the heap may
be used again. -/
def reclaimFront (channel : UpstreamChannel) : UpstreamChannel :=
  let popped := env.heaps.popHeap channel.retiredIds
  match popped.getLast? with
  | none => channel
  | some retired =>
    let channel := { channel with retiredIds := popped.dropLast }
    if channel.config.transactionIdCapacity ≤ retired.id.toNat ∨
        channel.idStates retired.id ≠ .retired ∨ channel.slots retired.id ≠ none then
      channel.recordFailure
    else insertFreeId env (channel.setIdState retired.id .free) retired.id

/-- The loop of `reclaim_ids`.  A pass shortens the heap by one. -/
def reclaimLoop (now : TimePoint) : Nat → UpstreamChannel → UpstreamChannel
  | 0, channel => channel
  | fuel + 1, channel =>
    match channel.retiredIds with
    | [] => channel
    | front :: _ =>
      if front.reusableAt ≤ now then reclaimLoop now fuel (reclaimFront env channel) else channel

/-- `reclaim_ids`. -/
def reclaimIds (now : TimePoint) (channel : UpstreamChannel) : UpstreamChannel :=
  reclaimLoop env now channel.retiredIds.length channel

/-- The loop of `allocate_id`.  A pass shortens `free_ids_` by one. -/
def takeFreeId : Nat → UpstreamChannel → Option UInt16 × UpstreamChannel
  | 0, channel => (none, channel)
  | fuel + 1, channel =>
    match channel.freeIds.getLast? with
    | none => (none, channel)
    | some id =>
      let channel := { channel with freeIds := channel.freeIds.dropLast }
      if channel.config.transactionIdCapacity ≤ id.toNat ∨ channel.idStates id ≠ .free ∨
          channel.slots id ≠ none then
        takeFreeId fuel channel.recordFailure
      else (some id, channel.setIdState id .pending)

/-- `allocate_id`. -/
def allocateId (now : TimePoint) (channel : UpstreamChannel) : Option UInt16 × UpstreamChannel :=
  let channel := reclaimIds env now channel
  takeFreeId channel.freeIds.length channel

/-- `release_id`. -/
def releaseId (id : UInt16) (now : TimePoint) (quarantine : Bool) (channel : UpstreamChannel) :
    UpstreamChannel :=
  if channel.config.transactionIdCapacity ≤ id.toNat ∨ channel.idStates id ≠ .pending then
    channel.recordFailure
  else if quarantine = false ∨ channel.config.idReuseGuard ≤ 0 then
    insertFreeId env (channel.setIdState id .free) id
  else
    let channel := channel.setIdState id .retired
    { channel with
      retiredIds :=
        env.heaps.pushHeap (channel.retiredIds ++ [⟨channel.guardedReuseTime now, id⟩]) }

/-- The ids in the order in which `initialize_id_pool` appends them. -/
def initialIds (config : ChannelConfig) : List UInt16 :=
  let capacity := config.transactionIdCapacity
  if config.randomizeTransactionIds then
    env.random.shuffle ((List.range capacity).map UInt16.ofNat)
  else
    let first := config.initialTransactionId.toNat % capacity
    (List.range capacity).reverse.map fun index => UInt16.ofNat ((first + index) % capacity)

/-- `initialize_id_pool` up to the point where reserving memory or reading
the entropy source can fail. -/
def clearIdPool (channel : UpstreamChannel) : UpstreamChannel :=
  { channel with idStates := fun _ => .unavailable, freeIds := [], retiredIds := [] }

/-- `initialize_id_pool`. -/
def initializeIdPool (config : ChannelConfig) (channel : UpstreamChannel) : UpstreamChannel :=
  let ids := initialIds env config
  { channel.clearIdPool with
    freeIds := ids
    idStates := fun id => if id ∈ ids then .free else .unavailable }

/-- One of the two loops of `validate_id_pool` that mark the ids they see. -/
def markIds (channel : UpstreamChannel) (capacity : Nat) (state : IdState) :
    List UInt16 → Finset UInt16 → Option (Finset UInt16)
  | [], seen => some seen
  | id :: ids, seen =>
    if capacity ≤ id.toNat ∨ id ∈ seen ∨ channel.idStates id ≠ state ∨ channel.slots id ≠ none then
      none
    else channel.markIds capacity state ids (insert id seen)

/-- The last loop of `validate_id_pool`, over the whole id space. -/
def auditIds (channel : UpstreamChannel) (capacity : Nat) (seen : Finset UInt16) : Bool :=
  (List.range transactionIdSpace).all fun index =>
    let id := UInt16.ofNat index
    if capacity ≤ index then
      decide (channel.idStates id = .unavailable) && (channel.slots id).isNone
    else decide (id ∈ seen) && decide (channel.idStates id ≠ .pending) && (channel.slots id).isNone

/-- `validate_id_pool`. -/
def validateIdPool (channel : UpstreamChannel) (capacity : Nat) : Bool :=
  if capacity = 0 ∨ transactionIdSpace < capacity ∨ channel.pendingCount ≠ 0 ∨
      channel.freeIds.length + channel.retiredIds.length ≠ capacity ∨
      isHeap retiredLater channel.retiredIds = false then
    false
  else
    match channel.markIds capacity .free channel.freeIds ∅ with
    | none => false
    | some seen =>
      match channel.markIds capacity .retired (channel.retiredIds.map RetiredId.id) seen with
      | none => false
      | some seen => channel.auditIds capacity seen && decide (seen.card = capacity)

end UpstreamChannel

end DnsPro.Upstream
