import DnsPro.Server.Asking
import DnsPro.Server.Progress

/-!
# One query for each coroutine

A coroutine makes at most one upstream query, for the question of its client, and a query is sent
at most once.  `MadeBy` says which coroutine made a query, and `Attributed` that no two queries
have the same one.  The coroutine that makes a query is at its beginning before and past it
afterwards, and none goes back there.
-/

namespace DnsPro.Server

open DnsPro.Protocol DnsPro.Runtime DnsPro.Upstream

namespace Worker

variable {env : Environment} {worker next : Worker} {task : TaskId} {query : QueryId}
  {frame : Frame} {request : Message} {question : Question}

/-- The query is the one of this coroutine, for the question of its client. -/
structure MadeBy (worker : Worker) (query : QueryId) (task : TaskId) (frame : Frame)
    (request : Message) (question : Question) : Prop where
  frame_eq : worker.frames task = some frame
  begun : frame.stage ≠ .created
  accepts : frame.datagram.Accepts request
  questions : request.questions = [question]
  asked : System.Asked query task request.header question worker.upstream

/-- Every query has its coroutine, and no coroutine has two. -/
structure Attributed (worker : Worker) : Prop where
  sent : worker.upstream.channel.stats.queriesSent ≤ worker.upstream.queryCount
  made : ∀ query, query < worker.upstream.queryCount →
    ∃ task frame request question, MadeBy worker query task frame request question
  apart : ∀ query other, query < worker.upstream.queryCount →
    other < worker.upstream.queryCount →
    (worker.upstream.queries query).frame = (worker.upstream.queries other).frame → query = other

/-- The coroutines that are past their beginning stay there, and keep their datagrams. -/
def Retains (worker next : Worker) : Prop :=
  ∀ task frame, worker.frames task = some frame → frame.stage ≠ .created →
    ∃ frame', next.frames task = some frame' ∧ frame'.stage ≠ .created ∧
      frame'.datagram = frame.datagram

theorem retains_of_eq (hframes : next.frames = worker.frames) : Retains worker next := by
  intro task frame hframe hbegun
  exact ⟨frame, by rw [hframes, hframe], hbegun, rfl⟩

theorem MadeBy.keep (h : MadeBy worker query task frame request question)
    (hretains : Retains worker next) (hasked : KeepsAsked worker.upstream next.upstream) :
    ∃ frame', MadeBy next query task frame' request question := by
  obtain ⟨frame', hframe', hbegun, hdatagram⟩ := hretains task frame h.frame_eq h.begun
  exact ⟨frame', hframe', hbegun, hdatagram ▸ h.accepts, h.questions, hasked _ _ _ _ h.asked⟩

/-! ## What a step does to the queries -/

namespace Attributed

theorem frame_eq (h : Attributed worker) (hasked : KeepsAsked worker.upstream next.upstream)
    (hquery : query < worker.upstream.queryCount) :
    (next.upstream.queries query).frame = (worker.upstream.queries query).frame := by
  obtain ⟨task, frame, request, question, hmade⟩ := h.made query hquery
  rw [hmade.asked.frame_eq, (hasked _ _ _ _ hmade.asked).frame_eq]

/-- No query is made. -/
theorem unsent (h : Attributed worker) (hretains : Retains worker next)
    (hasked : KeepsAsked worker.upstream next.upstream)
    (hunsent : System.Unsent worker.upstream next.upstream) : Attributed next where
  sent := by
    rw [hunsent.queriesSent, hunsent.queryCount]
    exact h.sent
  made query hquery := by
    rw [hunsent.queryCount] at hquery
    obtain ⟨task, frame, request, question, hmade⟩ := h.made query hquery
    obtain ⟨frame', hmade'⟩ := hmade.keep hretains hasked
    exact ⟨task, frame', request, question, hmade'⟩
  apart query other hquery hother hsame := by
    rw [hunsent.queryCount] at hquery hother
    rw [h.frame_eq hasked hquery, h.frame_eq hasked hother] at hsame
    exact h.apart query other hquery hother hsame

/-- A coroutine at its beginning has made none. -/
theorem unmade (h : Attributed worker) (hframe : worker.frames task = some frame)
    (hcreated : frame.stage = .created) (hquery : query < worker.upstream.queryCount) :
    (worker.upstream.queries query).frame ≠ task := by
  rintro rfl
  obtain ⟨task, other, request, question, hmade⟩ := h.made query hquery
  rw [hmade.asked.frame_eq, hmade.frame_eq] at hframe
  obtain rfl := Option.some.inj hframe
  exact hmade.begun hcreated

/-- One query is made, by a coroutine that was at its beginning. -/
theorem asks (h : Attributed worker) {before : Frame} (hbefore : worker.frames task = some before)
    (hcreated : before.stage = .created) (hretains : Retains worker next)
    (hasked : KeepsAsked worker.upstream next.upstream)
    (hcount : next.upstream.queryCount = worker.upstream.queryCount + 1)
    (hsent : next.upstream.channel.stats.queriesSent ≤
      worker.upstream.channel.stats.queriesSent + 1)
    (hmade : MadeBy next worker.upstream.queryCount task frame request question) :
    Attributed next where
  sent := by
    rw [hcount]
    exact hsent.trans (Nat.succ_le_succ h.sent)
  made query hquery := by
    rw [hcount] at hquery
    rcases Nat.lt_succ_iff_lt_or_eq.mp hquery with hold | rfl
    · obtain ⟨task, frame, request, question, hmade⟩ := h.made query hold
      obtain ⟨frame', hmade'⟩ := hmade.keep hretains hasked
      exact ⟨task, frame', request, question, hmade'⟩
    · exact ⟨task, frame, request, question, hmade⟩
  apart query other hquery hother hsame := by
    have hfresh : ∀ old, old < worker.upstream.queryCount →
        (next.upstream.queries old).frame ≠ task := by
      intro old hold
      rw [h.frame_eq hasked hold]
      exact h.unmade hbefore hcreated hold
    rw [hcount] at hquery hother
    rcases Nat.lt_succ_iff_lt_or_eq.mp hquery with hquery | rfl
    · rcases Nat.lt_succ_iff_lt_or_eq.mp hother with hother | rfl
      · rw [h.frame_eq hasked hquery, h.frame_eq hasked hother] at hsame
        exact h.apart query other hquery hother hsame
      · rw [hmade.asked.frame_eq] at hsame
        exact absurd hsame (hfresh query hquery)
    · rcases Nat.lt_succ_iff_lt_or_eq.mp hother with hother | rfl
      · rw [hmade.asked.frame_eq] at hsame
        exact absurd hsame.symm (hfresh other hother)
      · rfl

end Attributed

/-! ## A coroutine acts -/

/-- The coroutine that acts is past its beginning afterwards. -/
theorem begun_of_step (h : Inv worker) {label : Label} (hstep : step env worker label = some next)
    (hactor : label.actor = some task) :
    ∃ frame frame', worker.frames task = some frame ∧
      next.frames = Function.update worker.frames task (some frame') ∧
      frame'.datagram = frame.datagram ∧ frame'.stage ≠ .created := by
  obtain ⟨frame, frame', hbefore, hnext, hdatagram, -, -⟩ := step_actor h hstep hactor
  obtain ⟨before, hbefore', -, after, hafter, hless, -⟩ := step_advances h hstep hactor
  rw [hnext, Function.update_self] at hafter
  obtain rfl := Option.some.inj hafter
  refine ⟨frame, frame', hbefore, hnext, hdatagram, fun hcreated => ?_⟩
  rw [hcreated] at hless
  exact absurd hless (Nat.not_lt.mpr before.stage.rank_le)

theorem retains_of_step (h : Inv worker) {label : Label} (hstep : step env worker label = some next)
    (hactor : label.actor = some task) : Retains worker next := by
  obtain ⟨frame, frame', hbefore, hnext, hdatagram, hbegun⟩ := begun_of_step h hstep hactor
  intro other before hother hopen
  by_cases hself : other = task
  · subst hself
    obtain rfl := Option.some.inj (hbefore.symm.trans hother)
    exact ⟨frame', by rw [hnext, Function.update_self], hbegun, hdatagram⟩
  · exact ⟨before, by rw [hnext, Function.update_of_ne hself, hother], hopen, rfl⟩

theorem keepsAsked_destroyQuery (h : Inv worker) (query : QueryId) :
    KeepsAsked worker.upstream (worker.upstream.destroyQuery env.upstream query) :=
  fun _ _ _ _ hasked => hasked.destroyQuery h.upstream

theorem attributed_actor (hinv : Inv worker) (h : Attributed worker) {label : Label}
    (hstep : step env worker label = some next) (hactor : label.actor = some task) :
    Attributed next := by
  have hretains := retains_of_step hinv hstep hactor
  obtain ⟨before, after, hbefore, hnext, hdatagram, hbegun⟩ := begun_of_step hinv hstep hactor
  have hdrives := step_drives hinv hstep hactor
  generalize hupstream : next.upstream = system at hdrives
  have hquiet (hasked : KeepsAsked worker.upstream system)
      (hunsent : System.Unsent worker.upstream system) : Attributed next := by
    rw [← hupstream] at hasked hunsent
    exact h.unsent hretains hasked hunsent
  cases hdrives with
  | kept => exact hquiet (fun _ _ _ _ hasked => hasked) (System.Unsent.refl _)
  | completed => exact hquiet (keepsAsked_setScheduler _ _) (System.unsent_setScheduler _ _)
  | destroyed hended => exact hquiet (keepsAsked_destroyQuery hinv _) hended.unsent
  | returned hended =>
    refine hquiet (fun query owner header asked hold => ?_)
      (hended.unsent.trans (System.unsent_setScheduler _ _))
    exact keepsAsked_setScheduler _ _ _ _ _ _ (keepsAsked_destroyQuery hinv _ _ _ _ _ hold)
  | @awaited frame request question writeFails armFails sent hframe hcreated haccepts hquestions =>
    obtain rfl := Option.some.inj (hbefore.symm.trans hframe)
    have hmade := System.asked_query env.upstream worker.upstream task request.header question
    have hasked :=
      hmade.awaitQuery env.upstream worker.upstream.queryCount writeFails armFails sent
    have hspares := System.awaitQuery_spares env.upstream
      (worker.upstream.query env.upstream task request.header question) worker.upstream.queryCount
      writeFails armFails sent
    have hsent := System.awaitQuery_queriesSent env.upstream
      (worker.upstream.query env.upstream task request.header question) worker.upstream.queryCount
      writeFails armFails sent
    rw [← hupstream] at hasked hspares hsent
    have hown : MadeBy next worker.upstream.queryCount task after request question :=
      ⟨by rw [hnext, Function.update_self], hbegun, hdatagram ▸ haccepts, hquestions, hasked⟩
    refine h.asks hbefore hcreated hretains ?_ hspares.queryCount hsent hown
    rw [hupstream]
    intro other owner header asked hold
    have hkept : System.Asked other owner header asked
        (worker.upstream.query env.upstream task request.header question) :=
      hold.frame (Nat.le_succ _) (Function.update_of_ne (Nat.ne_of_lt hold.made) _ _)
    exact hkept.awaitQuery env.upstream worker.upstream.queryCount writeFails armFails sent

end Worker

end DnsPro.Server
