import DnsPro.Server.Store

/-!
# The response that is sent

Nothing is sent before the last piece of a coroutine, and this piece sends what the
coroutine has decided on.
-/

namespace DnsPro.Server

open DnsPro.Cache DnsPro.Filter DnsPro.Protocol DnsPro.Runtime DnsPro.Upstream DnsPro.Transition

namespace Worker

variable {env : Environment} {worker next : Worker} {task : TaskId} {frame : Frame}

theorem sent_orServFail (worker : Worker) (task : TaskId) (frame : Frame) (request : Message)
    (response : Bytes) : (worker.orServFail task frame request response).sent = worker.sent := by
  unfold orServFail
  split
  · split
    · rfl
    · rfl
  · rfl

theorem sent_lookupCache (worker : Worker) (request : Message) (question : Question)
    (cacheNow : TimePoint) :
    (worker.lookupCache request question cacheNow).2.sent = worker.sent := by
  unfold lookupCache
  dsimp only
  split
  · split
    · split
      · rfl
      · rfl
      · rfl
    · rfl
  · rfl

theorem sent_processQuery (env : Environment) (worker : Worker) (task : TaskId) (frame : Frame)
    (request : Message) (question : Question) (cacheNow : TimePoint) (writeFails armFails : Bool)
    (sent : SendOutcome) :
    (worker.processQuery env task frame request question cacheNow writeFails armFails sent).sent =
      worker.sent := by
  have hfilter : (worker.filterQuery env frame request question).2.1.sent = worker.sent := by
    unfold filterQuery
    split
    · dsimp only
      split
      · rfl
      · rfl
    · rfl
  unfold processQuery
  generalize worker.filterQuery env frame request question = result at hfilter
  obtain ⟨_ | response, filtered, frame'⟩ := result
  · exact hfilter
  dsimp only at hfilter ⊢
  rw [← hfilter]
  split
  · have hlooked := sent_lookupCache filtered request question cacheNow
    generalize filtered.lookupCache request question cacheNow = result at hlooked
    obtain ⟨_ | ⟨found, cacheKey⟩, looked⟩ := result
    · exact hlooked
    dsimp only at hlooked ⊢
    rw [← hlooked]
    split
    · rfl
    · exact sent_orServFail _ _ _ _ _
  · exact sent_orServFail _ _ _ _ _

theorem sent_processDatagram (env : Environment) (worker : Worker) (task : TaskId) (frame : Frame)
    (cacheNow : TimePoint) (writeFails armFails : Bool) (sent : SendOutcome) :
    (worker.processDatagram env task frame cacheNow writeFails armFails sent).sent =
      worker.sent := by
  unfold processDatagram
  dsimp only
  split
  · rfl
  split
  · rfl
  · rfl
  · rfl
  · rfl
  · rfl
  split
  · rfl
  split
  · exact sent_processQuery _ _ _ _ _ _ _ _ _ _
  · rfl

theorem sent_resumeDatagram (env : Environment) (worker : Worker) (task : TaskId) (frame : Frame)
    (request : Message) (question : Question) (cacheKey : Option CacheKey) (query : QueryId)
    (cacheNow : TimePoint) (cachingFails emplaceFails : Bool) :
    (worker.resumeDatagram env task frame request question cacheKey query cacheNow cachingFails
      emplaceFails).sent = worker.sent := by
  unfold resumeDatagram
  dsimp only
  split
  · rfl
  split
  · rfl
  · rw [sent_orServFail]
    cases cacheKey with
    | none => rfl
    | some key =>
      dsimp only
      unfold storeResponse
      split
      · rfl
      split
      · rfl
      split
      · rfl
      split
      · rfl
      · dsimp only
        split
        · rfl
        · rfl
  · exact sent_orServFail _ _ _ _ _

/-- What a step adds to the datagrams that were sent. -/
theorem step_sent {label : Label} (hstep : step env worker label = some next) :
    next.sent = worker.sent ∨ ∃ task sent frame response, label = .respond task sent ∧
      worker.frames task = some frame ∧ frame.stage = .responding response ∧
      next.sent = worker.sent ++ [⟨task, frame.datagram.clientAddress, response⟩] := by
  cases step_eq_some.mp hstep with
  | upstream | receive | refresh | hangup => exact Or.inl rfl
  | process => exact Or.inl (sent_processDatagram _ _ _ _ _ _ _ _)
  | resume => exact Or.inl (sent_resumeDatagram _ _ _ _ _ _ _ _ _ _ _)
  | @respond task datagram response blocked sent hrunning =>
    unfold finishDatagram
    split
    · unfold sendResponse
      dsimp only
      split
      · exact Or.inl rfl
      · exact Or.inr ⟨task, sent, _, response, rfl, (running_eq_some hrunning).2, rfl, rfl⟩
    · exact Or.inl rfl
  | fail =>
    refine Or.inl ?_
    unfold failDatagram
    dsimp only
    split
    · rfl
    · rfl

/-- The coroutine has nothing else to send than the response. -/
structure Sends (worker : Worker) (task : TaskId) (response : Bytes) : Prop where
  inv : Inv worker
  sent : ∀ entry ∈ worker.sent, entry.task = task → entry.response = response
  frame : ∃ frame, worker.frames task = some frame ∧
    (frame.stage = .responding response ∨ frame.stage = .returned)

/-- A coroutine that is about to respond, or has returned, ends with the step that it
takes. -/
theorem returned_of_step {label : Label} (hstep : step env worker label = some next)
    (hactor : label.actor = some task) (hframe : worker.frames task = some frame)
    (hstage : (∃ response, frame.stage = .responding response) ∨ frame.stage = .returned) :
    ∃ frame', next.frames task = some frame' ∧ frame'.stage = .returned := by
  cases step_eq_some.mp hstep with
  | upstream | receive | refresh | hangup => cases hactor
  | process _ _ _ _ hrunning =>
    obtain rfl := Option.some.inj hactor
    obtain rfl := Option.some.inj (hframe.symm.trans (running_eq_some hrunning).2)
    simp at hstage
  | resume _ _ _ hrunning =>
    obtain rfl := Option.some.inj hactor
    obtain rfl := Option.some.inj (hframe.symm.trans (running_eq_some hrunning).2)
    simp at hstage
  | respond =>
    obtain rfl := Option.some.inj hactor
    unfold finishDatagram
    split
    · exact ⟨_, Function.update_self _ _ _, rfl⟩
    · exact ⟨_, Function.update_self _ _ _, rfl⟩
  | fail =>
    obtain rfl := Option.some.inj hactor
    exact ⟨_, Function.update_self _ _ _, rfl⟩

theorem Sends.step {response : Bytes} (h : Sends worker task response) {label : Label}
    (hstep : step env worker label = some next) : Sends next task response := by
  obtain ⟨frame, hframe, hstage⟩ := h.frame
  refine ⟨inv_step env label h.inv hstep, ?_, ?_⟩
  · rcases step_sent hstep
      with hsent | ⟨actor, sent, other, sentResponse, -, hother, hresponding, hsent⟩
    · rw [hsent]
      exact h.sent
    · intro entry hentry htask
      rw [hsent] at hentry
      rcases List.mem_append.mp hentry with hold | hnew
      · exact h.sent entry hold htask
      · obtain rfl := List.mem_singleton.mp hnew
        change actor = task at htask
        subst htask
        obtain rfl := Option.some.inj (hframe.symm.trans hother)
        rcases hstage with hsame | hreturned
        · rw [hsame] at hresponding
          injection hresponding with hresponse
          exact hresponse.symm
        · rw [hreturned] at hresponding
          cases hresponding
  · by_cases hactor : label.actor = some task
    · obtain ⟨frame', hframe', hreturned⟩ := returned_of_step hstep hactor hframe
        (hstage.imp (fun hresponding => ⟨response, hresponding⟩) id)
      exact ⟨frame', hframe', Or.inr hreturned⟩
    · rcases step_frames h.inv hstep hactor with hsame | ⟨hnone, -⟩
      · exact ⟨frame, hsame.trans hframe, hstage⟩
      · rw [hnone] at hframe
        cases hframe

/-- A coroutine that is about to respond sends this response, if it sends one. -/
theorem sent_of_responding (h : Inv worker) {response : Bytes}
    (hframe : worker.frames task = some frame)
    (hstage : frame.stage = .responding response) {labels : List Label} {final : Worker}
    (hrun : Transition.run (step env) worker labels = some final) :
    ∀ entry ∈ final.sent, entry.task = task → entry.response = response := by
  have hstart : Sends worker task response := by
    refine ⟨h, ?_, frame, hframe, Or.inl hstage⟩
    rintro entry hentry rfl
    obtain ⟨other, hother, hreturned, -⟩ := h.sent entry hentry
    obtain rfl := Option.some.inj (hframe.symm.trans hother)
    rw [hstage] at hreturned
    cases hreturned
  have hfinal := run_invariant (fun worker => Sends worker task response)
    (fun _ _ _ h hstep => h.step hstep) hstart hrun
  exact hfinal.sent

end Worker

end DnsPro.Server
