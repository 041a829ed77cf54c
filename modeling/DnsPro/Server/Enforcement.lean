import DnsPro.Server.Asking
import DnsPro.Server.Sent

/-!
# While the filter blocks a set of names

`Enforces` is what a worker keeps while its snapshot blocks some names: it asks the upstream
server for none of them, and a client that asks for one of them is refused or gets nothing.
The queries that were asked before, and the coroutines that had begun before, are excepted.
-/

namespace DnsPro.Server

open DnsPro.Cache DnsPro.Filter DnsPro.Protocol DnsPro.Runtime DnsPro.Upstream

/-- The datagram is accepted, and asks for one of the names. -/
def ClientDatagram.AsksFor (names : DomainName → Prop) (datagram : ClientDatagram) : Prop :=
  ∃ request question, datagram.Accepts request ∧ request.questions = [question] ∧
    names question.name

namespace Worker

variable {env : Environment} {names : DomainName → Prop} {asked : QueryId → Prop}
  {began : TaskId → Prop} {worker next third : Worker} {task : TaskId} {frame : Frame}

def Blocks (env : Environment) (names : DomainName → Prop) (worker : Worker) : Prop :=
  ∀ name, names name → worker.matchesFilter env name = true

structure Enforces (names : DomainName → Prop) (asked : QueryId → Prop) (began : TaskId → Prop)
    (worker : Worker) : Prop where
  queries : ∀ query, query < worker.upstream.queryCount →
    names (worker.upstream.queries query).question.name → asked query
  frames : ∀ task frame, worker.frames task = some frame → frame.datagram.AsksFor names →
    ¬ began task → frame.stage = .created ∨ frame.blocked = true ∨
      frame.stage = .returned ∧ task ∉ worker.sent.map Sent.task

/-! ## The queries -/

/-- A query that was not there before is not for one of the names. -/
theorem Enforces.queries_step (h : Enforces names asked began worker)
    (hblocks : worker.Blocks env names)
    (hasks : System.Unsent worker.upstream next.upstream ∨ Asks env worker next) :
    ∀ query, query < next.upstream.queryCount →
      names (next.upstream.queries query).question.name → asked query := by
  intro query hmade hname
  rcases hasks with hunsent | hasks
  · rw [hunsent.queryCount] at hmade
    rw [hunsent.questions query] at hname
    exact h.queries query hmade hname
  · by_cases hnew : query = worker.upstream.queryCount
    · subst hnew
      have hmatches := hblocks _ hname
      rw [hasks.passes] at hmatches
      cases hmatches
    · have hcount := hasks.queryCount
      rw [hasks.questions query hnew] at hname
      exact h.queries query (by omega) hname

/-! ## The frames -/

/-- The first piece of a coroutine whose datagram asks for one of the names. -/
theorem Acting.processDatagram_enforced (h : Acting worker task frame)
    (hblocks : worker.Blocks env names) (hasks : frame.datagram.AsksFor names)
    (cacheNow : TimePoint) (writeFails armFails : Bool)
    (sent : SendOutcome) {frame' : Frame}
    (hframe : (worker.processDatagram env task frame cacheNow writeFails armFails sent).frames task =
      some frame') :
    frame'.blocked = true ∨ frame'.stage = .returned ∧ task ∉ worker.sent.map Sent.task := by
  obtain ⟨request, question, haccepts, hquestions, hname⟩ := hasks
  by_cases hstop : worker.upstream.scheduler.stopRequested = true
  · unfold Worker.processDatagram at hframe
    dsimp only at hframe
    rw [if_pos hstop] at hframe
    change Function.update worker.frames task _ task = _ at hframe
    rw [Function.update_self] at hframe
    obtain rfl := Option.some.inj hframe
    exact .inr ⟨rfl, h.not_sent⟩
  · have hprocess := processDatagram_accepted env worker haccepts hquestions (by simpa using hstop)
      task cacheNow writeFails armFails sent
    dsimp only at hprocess
    rw [if_pos (hblocks _ hname)] at hprocess
    obtain ⟨refused, -, -, hframes⟩ := hprocess.frames
    rw [hframes, Function.update_self] at hframe
    obtain rfl := Option.some.inj hframe
    exact .inl rfl

theorem failDatagram_returned (env : Environment) (worker : Worker) (task : TaskId)
    (frame : Frame) :
    (worker.failDatagram env task frame).frames task = some { frame with stage := .returned } ∧
      (worker.failDatagram env task frame).sent = worker.sent := by
  unfold failDatagram
  dsimp only
  split
  · exact ⟨Function.update_self _ _ _, rfl⟩
  · exact ⟨Function.update_self _ _ _, rfl⟩

/-- The first step of a coroutine that asks for one of the names. -/
theorem enforced_of_created (hinv : Inv worker) (hblocks : worker.Blocks env names) {label : Label}
    (hstep : step env worker label = some next) (hactor : label.actor = some task)
    (hframe : worker.frames task = some frame) (hcreated : frame.stage = .created)
    (hasks : frame.datagram.AsksFor names) {frame' : Frame}
    (hframe' : next.frames task = some frame') :
    frame'.blocked = true ∨ frame'.stage = .returned ∧ task ∉ next.sent.map Sent.task := by
  cases step_eq_some.mp hstep with
  | upstream | receive | refresh | hangup => cases hactor
  | process cacheNow writeFails armFails sent hrunning =>
    obtain rfl := Option.some.inj hactor
    obtain rfl := Option.some.inj (hframe.symm.trans (running_eq_some hrunning).2)
    rw [sent_processDatagram]
    exact (hinv.acting hrunning (by simp)).processDatagram_enforced hblocks hasks cacheNow
      writeFails armFails sent hframe'
  | resume _ _ _ hrunning | respond _ hrunning =>
    obtain rfl := Option.some.inj hactor
    obtain rfl := Option.some.inj (hframe.symm.trans (running_eq_some hrunning).2)
    cases hcreated
  | @fail actor failed hrunning hstage =>
    obtain rfl := Option.some.inj hactor
    obtain ⟨hreturned, hsent⟩ := failDatagram_returned env worker actor failed
    rw [hreturned] at hframe'
    obtain rfl := Option.some.inj hframe'
    rw [hsent]
    exact .inr ⟨rfl, (hinv.acting hrunning hstage).not_sent⟩

/-- The coroutine that acts has not returned. -/
theorem not_returned_of_step {label : Label} (hstep : step env worker label = some next)
    (hactor : label.actor = some task) (hframe : worker.frames task = some frame) :
    frame.stage ≠ .returned := by
  cases step_eq_some.mp hstep with
  | upstream | receive | refresh | hangup => cases hactor
  | process _ _ _ _ hrunning | resume _ _ _ hrunning | respond _ hrunning =>
    obtain rfl := Option.some.inj hactor
    obtain rfl := Option.some.inj (hframe.symm.trans (running_eq_some hrunning).2)
    simp
  | fail hrunning hstage =>
    obtain rfl := Option.some.inj hactor
    obtain rfl := Option.some.inj (hframe.symm.trans (running_eq_some hrunning).2)
    exact hstage

/-- What a step sends, it sends for the coroutine that acts. -/
theorem sent_of_other {label : Label} (hstep : step env worker label = some next)
    (hactor : label.actor ≠ some task) (hsent : task ∉ worker.sent.map Sent.task) :
    task ∉ next.sent.map Sent.task := by
  rcases step_sent hstep with heq | ⟨actor, _, frame, response, rfl, -, -, heq⟩
  · rw [heq]
    exact hsent
  · rw [heq, List.map_append, List.mem_append, not_or]
    refine ⟨hsent, fun hmem => hactor ?_⟩
    rw [List.map_singleton, List.mem_singleton] at hmem
    exact congrArg some hmem.symm

/-- A step of a coroutine. -/
theorem Enforces.step (h : Enforces names asked began worker) (hinv : Inv worker)
    (hblocks : worker.Blocks env names) {label : Label} {actor : TaskId}
    (hstep : Worker.step env worker label = some next) (hactor : label.actor = some actor) :
    Enforces names asked began next where
  queries := h.queries_step hblocks (step_asks hinv hstep hactor)
  frames task frame' hframe' hasks hbegan := by
    obtain ⟨frame, after, hframe, hnext, hdatagram, hblocked, -⟩ := step_actor hinv hstep hactor
    by_cases hself : task = actor
    · subst hself
      rw [hnext, Function.update_self] at hframe'
      obtain rfl := Option.some.inj hframe'
      rw [hdatagram] at hasks
      rcases h.frames task frame hframe hasks hbegan with hcreated | hrefused | ⟨hreturned, -⟩
      · refine .inr (enforced_of_created hinv hblocks hstep hactor hframe hcreated hasks ?_)
        rw [hnext, Function.update_self]
      · exact .inr (.inl (hblocked hrefused))
      · exact absurd hreturned (not_returned_of_step hstep hactor hframe)
    · rw [hnext, Function.update_of_ne hself] at hframe'
      rcases h.frames task frame' hframe' hasks hbegan with hcreated | hrefused | ⟨hreturned, hsent⟩
      · exact .inl hcreated
      · exact .inr (.inl hrefused)
      · refine .inr (.inr ⟨hreturned, sent_of_other hstep ?_ hsent⟩)
        rw [hactor]
        exact fun heq => hself (Option.some.inj heq).symm

/-- A datagram that is received asks for nothing yet. -/
theorem Enforces.receive (h : Enforces names asked began worker) {datagram : ClientDatagram}
    (task : TaskId) : Enforces names asked began (worker.receiveDatagram task datagram) where
  queries := h.queries
  frames other frame hframe hasks hbegan := by
    change Function.update worker.frames task _ other = _ at hframe
    by_cases hself : other = task
    · subst hself
      rw [Function.update_self] at hframe
      obtain rfl := Option.some.inj hframe
      exact .inl rfl
    · rw [Function.update_of_ne hself] at hframe
      exact h.frames other frame hframe hasks hbegan

/-- A response to a client that asked for one of the names refuses it. -/
theorem Enforces.refused (h : Enforces names asked began worker) (hinv : Inv worker) {entry : Sent}
    (hentry : entry ∈ worker.sent) (hframe : worker.frames entry.task = some frame)
    (hbegan : ¬ began entry.task) {request : Message} {question : Question}
    (haccepts : frame.datagram.Accepts request) (hquestions : request.questions = [question])
    (hname : names question.name) :
    ∃ message, RespondsTo request entry.response message ∧
      message.header.responseCode = ResponseCode.refused.code := by
  obtain ⟨other, hother, hreturned, -, hgood⟩ := hinv.sent entry hentry
  obtain rfl := Option.some.inj (hframe.symm.trans hother)
  obtain ⟨message, hresponds, hrefused⟩ := hgood request haccepts
  refine ⟨message, hresponds, hrefused ?_⟩
  rcases h.frames entry.task frame hframe ⟨request, question, haccepts, hquestions, hname⟩ hbegan
    with hcreated | hblocked | ⟨-, hsent⟩
  · rw [hreturned] at hcreated
    cases hcreated
  · exact hblocked
  · exact absurd (List.mem_map_of_mem hentry) hsent

end Worker

end DnsPro.Server
