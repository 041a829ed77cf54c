import DnsPro.EventLoop.Intake
import DnsPro.EventLoop.Waiting
import DnsPro.Server.Amplification

/-!
# No more queries than packets

What the loop does to its worker keeps `Attributed`: operations of the channel make no query, a
new coroutine is at its beginning, and the coroutines that act keep it.  Every coroutine owns a
packet, so there are no more queries than packets that the loop has read.
-/

namespace DnsPro.EventLoop

open DnsPro.Cache DnsPro.Filter DnsPro.Protocol DnsPro.Runtime DnsPro.Server DnsPro.Upstream

variable {env : Server.Environment} {stop : Bool} {worker next : Worker}

theorem attributed_observed (h : worker.Attributed) (stop : Bool) :
    (observed stop worker).Attributed := by
  unfold observed
  split
  · exact h.unsent (Worker.retains_of_eq rfl) (Worker.keepsAsked_setScheduler _ _)
      (System.unsent_setScheduler _ _)
  · exact h

theorem attributed_driven (hsteady : Steady stop worker) (h : worker.Attributed)
    {label : Loop.Label} (hdriven : Driven env stop worker label next) : next.Attributed := by
  cases hdriven with
  | same => exact h
  | observed => exact attributed_observed h stop
  | refreshed | lost =>
    exact h.unsent (Worker.retains_of_eq rfl) (fun _ _ _ _ hasked => hasked) (System.Unsent.refl _)
  | upstream call hstep hended | hangup call hstep hended =>
    exact h.unsent (Worker.retains_of_eq rfl)
      (fun _ _ _ _ hasked => hasked.step hsteady.inv.upstream call hstep) hended.unsent
  | @spawned task datagram _ hstep =>
    have hobserved := attributed_observed h stop
    generalize EventLoop.observed stop worker = before at hstep hobserved
    cases Worker.step_eq_some.mp hstep with
    | receive _ hfresh hnone =>
      refine hobserved.unsent ?_ (Worker.keepsAsked_setScheduler _ _)
        (System.unsent_setScheduler _ _)
      intro other frame hframe hbegun
      have hne : other ≠ task := by
        rintro rfl
        rw [hnone] at hframe
        cases hframe
      exact ⟨frame, (Function.update_of_ne hne _ _).trans hframe, hbegun, rfl⟩
  | resumed hstep =>
    cases Worker.step_eq_some.mp hstep with
    | upstream hexternal hsystem =>
      obtain ⟨scheduler, hfront, rfl⟩ := Option.map_eq_some_iff.mp hsystem
      exact h.unsent (Worker.retains_of_eq rfl) (Worker.keepsAsked_setScheduler _ _)
        (System.unsent_setScheduler _ _)
  | acted hbefore hactor hstep =>
    rcases hbefore with rfl | rfl
    · exact Worker.attributed_actor hsteady.inv h hstep hactor
    · exact Worker.attributed_actor hsteady.observed.inv (attributed_observed h stop) hstep hactor

namespace Loop

variable {loop next : Loop} {label : Label}

theorem attributed_step (hsound : loop.Sound) (h : loop.worker.Attributed)
    (hstep : loop.step env label = some next) : next.worker.Attributed :=
  attributed_driven hsound.steady h (driven_of_stepped hsound.steady.inv (stepped_of_step hstep))

/-- Starting the channel makes no query. -/
theorem attributed_initial (env : Server.Environment) (cache : CacheShard)
    (snapshot : Option DomainBlocklist) (socketFd : Int) (config : ChannelConfig) :
    (initial env cache snapshot socketFd config).worker.Attributed := by
  have hstart : (System.initial.start env.upstream socketFd config true false).2.queryCount = 0 ∧
      (System.initial.start env.upstream socketFd config true
        false).2.channel.stats.queriesSent = 0 := by
    rw [System.inv_initial.start_eq]
    split
    · exact ⟨rfl, rfl⟩
    split
    · exact ⟨rfl, rfl⟩
    · exact ⟨rfl, rfl⟩
  obtain ⟨hcount, hsent⟩ := hstart
  refine ⟨(hsent.trans hcount.symm).le, fun query hquery => ?_, fun query other hquery => ?_⟩
  · exact absurd (hcount ▸ hquery) (Nat.not_lt_zero query)
  · exact absurd (hcount ▸ hquery) (Nat.not_lt_zero query)

/-- The coroutine of a query owns a packet, and no two queries have the same one. -/
theorem queries_le_owned (h : loop.worker.Attributed) (htaken : loop.Taken) :
    loop.worker.upstream.queryCount ≤ (loop.owned.filterMap Prod.snd).length := by
  let owners := (List.range loop.worker.upstream.queryCount).map fun query =>
    (loop.worker.upstream.queries query).frame
  have hnodup : owners.Nodup :=
    List.Nodup.map_on (fun query hquery other hother hsame =>
      h.apart query other (List.mem_range.mp hquery) (List.mem_range.mp hother) hsame)
      List.nodup_range
  have hsubset : owners ⊆ loop.owned.filterMap Prod.snd := by
    intro task htask
    obtain ⟨query, hquery, rfl⟩ := List.mem_map.mp htask
    obtain ⟨task, frame, request, question, hmade⟩ := h.made query (List.mem_range.mp hquery)
    obtain ⟨packet, howned⟩ := htaken.owner task frame hmade.frame_eq
    exact List.mem_filterMap.mpr ⟨(packet, some task), howned, by rw [hmade.asked.frame_eq]⟩
  have hlength := hnodup.length_le_of_subset hsubset
  simpa [owners] using hlength

/-- No amplification.  In every run of the loop with the network and the other threads, in every
order: no more queries were sent to the upstream server than were made, no more were made than
packets were read from the listener, and no more were read than arrived.  Each query has the
header and the one question of a packet that its coroutine owns and that is accepted, and no two
queries have the same coroutine. -/
theorem no_amplification {cache : CacheShard} {snapshot : Option DomainBlocklist} {socketFd : Int}
    {config : ChannelConfig} {labels : List Label} (hstarted : Started env socketFd config)
    (hrun : run env cache snapshot socketFd config labels = some loop) :
    loop.worker.upstream.channel.stats.queriesSent ≤ loop.worker.upstream.queryCount ∧
      loop.worker.upstream.queryCount ≤ loop.worker.stats.receivedDatagrams ∧
      loop.worker.stats.receivedDatagrams ≤ loop.listener.arrived.length ∧
      (∀ query, query < loop.worker.upstream.queryCount →
        ∃ packet request question,
          (packet, some (loop.worker.upstream.queries query).frame) ∈ loop.owned ∧
          packet.datagram.Accepts request ∧ request.questions = [question] ∧
          (loop.worker.upstream.queries query).header = request.header ∧
          (loop.worker.upstream.queries query).question = question) ∧
      ∀ query other, query < loop.worker.upstream.queryCount →
        other < loop.worker.upstream.queryCount →
        (loop.worker.upstream.queries query).frame = (loop.worker.upstream.queries other).frame →
        query = other := by
  have htaken := taken_run hstarted hrun
  have h : loop.worker.Attributed := run_invariant_sound (fun loop => loop.worker.Attributed)
    (attributed_initial env cache snapshot socketFd config)
    (fun _ _ _ hsound h hstep => attributed_step hsound h hstep) hstarted hrun
  refine ⟨h.sent, ?_, ?_, ?_, h.apart⟩
  · rw [htaken.count]
    exact (queries_le_owned h htaken).trans (List.length_filterMap_le _ _)
  · rw [htaken.count, htaken.order, List.length_append, List.length_append, List.length_map]
    omega
  · intro query hquery
    obtain ⟨task, frame, request, question, hmade⟩ := h.made query hquery
    obtain ⟨packet, howned⟩ := htaken.owner task frame hmade.frame_eq
    obtain ⟨frame', hframe', hdatagram⟩ := htaken.frame packet task howned
    obtain rfl := Option.some.inj (hmade.frame_eq.symm.trans hframe')
    exact ⟨packet, request, question, hmade.asked.frame_eq ▸ howned, hdatagram ▸ hmade.accepts,
      hmade.questions, hmade.asked.header_eq, hmade.asked.question_eq⟩

/-- The one query is for the packet of the client. -/
theorem query_for_packet_when_forwarded : ∃ loop,
    run Worker.sampleEnvironment { capacity := 8 } none 3 System.sampleConfig sampleForwarded =
        some loop ∧
      loop.worker.upstream.channel.stats.queriesSent = 1 ∧
      1 ≤ loop.worker.stats.receivedDatagrams ∧
      ∃ request question, samplePacket.datagram.Accepts request ∧
        request.questions = [question] ∧
        (loop.worker.upstream.queries 0).question = question := by
  rw [run_sample]
  obtain ⟨loop, hrun, hsent, hcount, howned⟩ : ∃ loop,
      Transition.run (step Worker.sampleEnvironment) (sampleLoop none) sampleForwarded = some loop ∧
        loop.worker.upstream.channel.stats.queriesSent = 1 ∧
        loop.worker.upstream.queryCount = 1 ∧ loop.owned = [(samplePacket, some 0)] :=
    ⟨_, rfl, rfl, rfl, rfl⟩
  obtain ⟨-, hread, -, hqueries, -⟩ :=
    no_amplification sample_started ((run_sample none sampleForwarded).trans hrun)
  obtain ⟨packet, request, question, hpacket, haccepts, hquestions, -, hquestion⟩ :=
    hqueries 0 (by simp [hcount])
  obtain ⟨rfl, -⟩ : packet = samplePacket ∧ _ := by simpa [howned] using hpacket
  exact ⟨loop, hrun, hsent, hcount ▸ hread, request, question, haccepts, hquestions, hquestion⟩

end Loop

end DnsPro.EventLoop
