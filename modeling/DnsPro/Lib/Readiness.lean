import Mathlib.Tactic

/-!
# Readiness of descriptors

What an event loop is told about the descriptors that it watches.

A `Source` is watched edge-triggered: what arrives raises the edge, and the report of the
event lowers it, whether or not anything is read afterwards.  The reader keeps a note that
there may be more to read.  `Announced` says that what can be read is announced, by the
edge or by the note; the note may be dropped only where the source was found empty.

A `Bell` is a counter that is watched level-triggered: its event is reported as long as it
is not zero, and reading it makes it zero.  It is rung for requests, and an answer meets
every request made before it.  `Heard` says that a request is met, counted or noted.
-/

namespace DnsPro.Readiness

variable {α : Type}

/-- `arrived` is a ghost: everything that was ever put into the queue. -/
structure Source (α : Type) where
  queue : List α := []
  edge : Bool := false
  arrived : List α := []

namespace Source

/-- Something arrives. -/
def arrive (source : Source α) (item : α) : Source α :=
  { queue := source.queue ++ [item], edge := true, arrived := source.arrived ++ [item] }

/-- An event without input, such as an error. -/
def raise (source : Source α) : Source α := { source with edge := true }

/-- The event is reported. -/
def report (source : Source α) : Source α := { source with edge := false }

/-- The first item is read. -/
def take (source : Source α) : Option (α × Source α) :=
  match source.queue with
  | [] => none
  | item :: rest => some (item, { source with queue := rest })

/-- The descriptor is closed, and what it still held is gone. -/
def close (source : Source α) : Source α := { source with queue := [], edge := false }

/-- What can be read is announced, by the edge or by the note of the reader. -/
def Announced (source : Source α) (noted : Bool) : Prop :=
  source.queue ≠ [] → source.edge = true ∨ noted = true

variable {source rest : Source α} {item : α} {noted : Bool}

theorem take_eq_some (h : source.take = some (item, rest)) :
    source.queue = item :: rest.queue ∧ rest.edge = source.edge ∧
      rest.arrived = source.arrived := by
  unfold take at h
  split at h
  · cases h
  · rename_i item' tail hqueue
    obtain ⟨rfl, rfl⟩ := Prod.mk.inj (Option.some.inj h)
    exact ⟨hqueue, rfl, rfl⟩

theorem announced_arrive (source : Source α) (item : α) (noted : Bool) :
    (source.arrive item).Announced noted := fun _ => .inl rfl

theorem announced_raise (source : Source α) (noted : Bool) : source.raise.Announced noted :=
  fun _ => .inl rfl

theorem announced_noted (source : Source α) : source.Announced true := fun _ => .inr rfl

theorem announced_empty (h : source.queue = []) (noted : Bool) : source.Announced noted :=
  fun hqueue => absurd h hqueue

theorem announced_close (source : Source α) (noted : Bool) : source.close.Announced noted :=
  announced_empty rfl noted

theorem Announced.mono (h : source.Announced noted) {noted' : Bool}
    (hnoted : noted = true → noted' = true) : source.Announced noted' :=
  fun hqueue => (h hqueue).imp id hnoted

/-- What is read arrived before. -/
theorem mem_arrived_of_take (hqueue : ∀ item ∈ source.queue, item ∈ source.arrived)
    (h : source.take = some (item, rest)) :
    item ∈ source.arrived ∧ ∀ item ∈ rest.queue, item ∈ rest.arrived := by
  obtain ⟨hfirst, -, harrived⟩ := take_eq_some h
  rw [hfirst] at hqueue
  rw [harrived]
  exact List.forall_mem_cons.mp hqueue

theorem mem_arrived_arrive (hqueue : ∀ item ∈ source.queue, item ∈ source.arrived) (item : α) :
    ∀ other ∈ (source.arrive item).queue, other ∈ (source.arrive item).arrived := by
  intro other hother
  rcases List.mem_append.mp hother with hold | hnew
  · exact List.mem_append_left _ (hqueue other hold)
  · exact List.mem_append_right _ hnew

/-- A source that announces nothing is empty. -/
theorem Announced.empty (h : source.Announced noted) (hedge : source.edge = false)
    (hnoted : noted = false) : source.queue = [] := by
  by_contra hqueue
  rcases h hqueue with hraised | hnote
  · rw [hedge] at hraised
    cases hraised
  · rw [hnoted] at hnote
    cases hnote

end Source

/-- `made` and `met` are ghosts: how many requests there were, and how many of them were
there at the last answer. -/
structure Bell where
  count : Nat := 0
  made : Nat := 0
  met : Nat := 0
  deriving DecidableEq

/-- One more signal; a full counter stays as it is. -/
def ring (limit count : Nat) : Nat := if count < limit then count + 1 else count

theorem ring_pos {limit : Nat} (h : 0 < limit) (count : Nat) : 0 < ring limit count := by
  unfold ring
  split <;> omega

namespace Bell

def request (bell : Bell) (limit : Nat) : Bell :=
  { bell with count := ring limit bell.count, made := bell.made + 1 }

/-- The counter is read. -/
def silence (bell : Bell) : Bell := { bell with count := 0 }

def answer (bell : Bell) : Bell := { bell with met := bell.made }

/-- A request that is not met is counted, or noted by the reader. -/
def Heard (bell : Bell) (noted : Bool) : Prop :=
  bell.met ≤ bell.made ∧ (bell.met < bell.made → 0 < bell.count ∨ noted = true)

variable {bell : Bell} {noted : Bool}

theorem Heard.request (h : bell.Heard noted) {limit : Nat} (hlimit : 0 < limit) :
    (bell.request limit).Heard noted :=
  ⟨h.1.trans (Nat.le_succ _), fun _ => .inl (ring_pos hlimit _)⟩

theorem Heard.silence (h : bell.Heard noted) : bell.silence.Heard true :=
  ⟨h.1, fun _ => .inr rfl⟩

theorem heard_answer (bell : Bell) (noted : Bool) : bell.answer.Heard noted :=
  ⟨Nat.le_refl _, fun h => absurd h (Nat.lt_irrefl _)⟩

/-- A silent bell that nobody noted has no request that is not met. -/
theorem Heard.all_met (h : bell.Heard noted) (hcount : bell.count = 0) (hnoted : noted = false) :
    bell.met = bell.made := by
  rcases h.1.lt_or_eq with hless | hequal
  · rcases h.2 hless with hcounted | hnote
    · omega
    · rw [hnoted] at hnote
      cases hnote
  · exact hequal

end Bell

end DnsPro.Readiness
