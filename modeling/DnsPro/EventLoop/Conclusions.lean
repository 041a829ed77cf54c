import DnsPro.EventLoop.Intake
import DnsPro.Server.Conclusions

/-!
# No packet is lost in silence

A step of the loop ends a coroutine only where the coroutine acts, and then for one of the reasons
in `Finishes`.  `Recorded` carries this along a run: every coroutine that has returned did so in a
step of the run, for a reason.
-/

namespace DnsPro.EventLoop

open DnsPro.Cache DnsPro.Filter DnsPro.Protocol DnsPro.Runtime DnsPro.Server DnsPro.Upstream

variable {env : Server.Environment} {stop : Bool} {worker next : Worker} {task : TaskId}
  {frame : Frame}

/-- Why the step ends the coroutine. -/
inductive Finishes (stop : Bool) (worker next : Worker) (task : TaskId) (frame : Frame) :
    Prop where
  | sent {entry : Sent} (hentry : entry ∈ next.sent) (htask : entry.task = task)
      (haddress : entry.clientAddress = frame.datagram.clientAddress)
  | silent (h : frame.datagram.Silent)
  | stopped (h : stop = true)
  | oversized (h : worker.stats.oversizedResponses < next.stats.oversizedResponses)
  | failed (h : worker.stats.internalErrors < next.stats.internalErrors)
  | cancelled {request : Message} {question : Question} {cacheKey : Option CacheKey}
      {query : QueryId} (hstage : frame.stage = .awaiting request question cacheKey query)
      (hstate : (worker.upstream.queries query).state = .completed)
      (houtcome : (worker.upstream.queries query).result.outcome = .cancelled)

theorem observed_stats (stop : Bool) (worker : Worker) :
    (observed stop worker).stats = worker.stats ∧ (observed stop worker).frames = worker.frames ∧
      (observed stop worker).upstream.queries = worker.upstream.queries := by
  unfold observed
  split
  · exact ⟨rfl, rfl, rfl⟩
  · exact ⟨rfl, rfl, rfl⟩

theorem finishes_of_concluded {before : Worker} (h : Steady stop before)
    (hbefore : before = worker ∨ before = observed stop worker) {action : Worker.Label}
    (hactor : action.actor = some task) (hstep : before.step env action = some next)
    (hframe : before.frames task = some frame)
    (hconcluded : Worker.Concluded before next task frame) :
    Finishes stop worker next task frame := by
  have hsame : before.stats = worker.stats ∧ before.upstream.queries = worker.upstream.queries := by
    rcases hbefore with rfl | rfl
    · exact ⟨rfl, rfl⟩
    · exact ⟨(observed_stats stop worker).1, (observed_stats stop worker).2.2⟩
  obtain ⟨hstats, hqueries⟩ := hsame
  cases hconcluded with
  | @sent entry hentry htask =>
    subst htask
    obtain ⟨after, hafter, -, haddress, -⟩ :=
      (Worker.inv_step env action h.inv hstep).sent entry hentry
    obtain ⟨frame', hframe', hdatagram, -⟩ := Worker.step_keeps_frame h.inv hstep hframe
    obtain rfl := Option.some.inj (hafter.symm.trans hframe')
    exact .sent hentry rfl (by rw [haddress, hdatagram])
  | silent hsilent => exact .silent hsilent
  | stopped hstopped => exact .stopped (h.stopped hstopped)
  | oversized hless => exact .oversized (hstats ▸ hless)
  | failed hless => exact .failed (hstats ▸ hless)
  | cancelled hstage hstate houtcome =>
    rw [hqueries] at hstate houtcome
    exact .cancelled hstage hstate houtcome

/-- Every coroutine keeps something to send, or has ended for a reason. -/
def Carries (stop : Bool) (worker next : Worker) : Prop :=
  ∀ task frame', next.frames task = some frame' → Worker.Prepared frame' ∧
    (frame'.stage = .returned → ∃ frame, worker.frames task = some frame ∧
      frame.datagram = frame'.datagram ∧
      (frame.stage = .returned ∨ Finishes stop worker next task frame))

def AllPrepared (worker : Worker) : Prop :=
  ∀ task frame, worker.frames task = some frame → Worker.Prepared frame

theorem carries_of_eq (h : AllPrepared worker) (hframes : next.frames = worker.frames) :
    Carries stop worker next := by
  intro task frame hframe
  rw [hframes] at hframe
  exact ⟨h task frame hframe, fun hreturned => ⟨frame, hframe, rfl, .inl hreturned⟩⟩

theorem carries_of_driven (h : Steady stop worker) (hprepared : AllPrepared worker)
    {label : Loop.Label} (hdriven : Driven env stop worker label next) :
    Carries stop worker next := by
  cases hdriven with
  | same | refreshed | lost | upstream | hangup => exact carries_of_eq hprepared rfl
  | observed => exact carries_of_eq hprepared (observed_stats stop worker).2.1
  | resumed hstep =>
    cases Worker.step_eq_some.mp hstep with
    | upstream => exact carries_of_eq hprepared rfl
  | @spawned task datagram _ hstep =>
    have hframes := (observed_stats stop worker).2.1
    generalize EventLoop.observed stop worker = before at hstep hframes
    cases Worker.step_eq_some.mp hstep with
    | receive =>
      intro other frame hframe
      by_cases hself : other = task
      · subst hself
        have hnew : (before.receiveDatagram other datagram).frames other =
            some { datagram := datagram } := Function.update_self _ _ _
        obtain rfl := Option.some.inj (hnew.symm.trans hframe)
        exact ⟨fun _ hresponding => (by cases hresponding), fun hreturned => (by cases hreturned)⟩
      · have hold : worker.frames other = some frame := by
          rw [← hframes]
          exact (Function.update_of_ne hself _ _).symm.trans hframe
        exact ⟨hprepared other frame hold, fun hreturned => ⟨frame, hold, rfl, .inl hreturned⟩⟩
  | @acted before next task action hbefore hactor hstep =>
    have hsteady : Steady stop before := by
      rcases hbefore with rfl | rfl
      · exact h
      · exact h.observed
    have hframes : before.frames = worker.frames := by
      rcases hbefore with rfl | rfl
      · rfl
      · exact (observed_stats stop worker).2.1
    obtain ⟨frame, frame', hframe, hnext, hdatagram, -, -⟩ :=
      Worker.step_actor hsteady.inv hstep hactor
    have hold := hframes ▸ hframe
    have hconcludes :=
      Worker.step_concludes hsteady.inv hstep hactor hframe (hprepared task frame hold)
    intro other after hafter
    by_cases hself : other = task
    · subst hself
      obtain ⟨hconcluded, hready⟩ := hconcludes after hafter
      rw [hnext, Function.update_self] at hafter
      obtain rfl := Option.some.inj hafter
      refine ⟨hready, fun hreturned => ⟨frame, hold, hdatagram.symm, .inr ?_⟩⟩
      exact finishes_of_concluded hsteady hbefore hactor hstep hframe (hconcluded hreturned)
    · rw [hnext, Function.update_of_ne hself, hframes] at hafter
      exact ⟨hprepared other after hafter, fun hreturned => ⟨after, hafter, rfl, .inl hreturned⟩⟩

namespace Loop

variable {loop next : Loop} {label : Label}

/-- The coroutine returned in a step of the run, for a reason. -/
def EndedIn (env : Server.Environment) (start : Loop) (labels : List Label) (task : TaskId)
    (datagram : ClientDatagram) : Prop :=
  ∃ past label future before after frame ended, labels = past ++ label :: future ∧
    Transition.run (step env) start past = some before ∧ before.step env label = some after ∧
    before.worker.frames task = some frame ∧ frame.datagram = datagram ∧
    frame.stage ≠ .returned ∧
    after.worker.frames task = some ended ∧ ended.stage = .returned ∧
    Finishes before.stop before.worker after.worker task frame

/-- What a run keeps. -/
structure Recorded (env : Server.Environment) (start : Loop) (labels : List Label) (loop : Loop) :
    Prop where
  run : Transition.run (step env) start labels = some loop
  sound : loop.Sound
  prepared : AllPrepared loop.worker
  ended : ∀ task frame, loop.worker.frames task = some frame → frame.stage = .returned →
    EndedIn env start labels task frame.datagram

theorem EndedIn.append {start : Loop} {labels : List Label} {datagram : ClientDatagram}
    (h : EndedIn env start labels task datagram) (label : Label) :
    EndedIn env start (labels ++ [label]) task datagram := by
  obtain ⟨past, last, future, before, after, frame, ended, rfl, hrest⟩ := h
  exact ⟨past, last, future ++ [label], before, after, frame, ended, by simp, hrest⟩

theorem recorded_step {start : Loop} {labels : List Label} (h : Recorded env start labels loop)
    (hstep : loop.step env label = some next) : Recorded env start (labels ++ [label]) next := by
  have hcarries := carries_of_driven h.sound.steady h.prepared
    (driven_of_stepped h.sound.steady.inv (stepped_of_step hstep))
  have hrun := Transition.run_append.mpr
    ⟨loop, h.run, Transition.run_cons.mpr ⟨next, hstep, Transition.run_nil next⟩⟩
  refine ⟨hrun, sound_step h.sound hstep, fun task frame hframe => (hcarries task frame hframe).1,
    fun task frame hframe hreturned => ?_⟩
  obtain ⟨before, hbefore, hdatagram, hcases⟩ := (hcarries task frame hframe).2 hreturned
  by_cases hended : before.stage = .returned
  · exact hdatagram ▸ (h.ended task before hbefore hended).append label
  · have hfinishes := hcases.resolve_left hended
    exact ⟨labels, label, [], loop, next, before, frame, rfl, h.run, hstep, hbefore, hdatagram,
      hended, hframe, hreturned, hfinishes⟩

end Loop

end DnsPro.EventLoop
