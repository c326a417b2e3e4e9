import Vtb.Construction.Teardown
import Vtb.Proof.Controller.Workers

namespace Vtb
open Library

/-- The handler that a stage destroys. -/
def DestructorStage.handler : DestructorStage → Option Nat
  | .freeObjects handler => some handler
  | .stopHandler handler => some handler
  | .joinThreads handler => some handler
  | _ => none

/-- The array holds eight handlers. -/
theorem handler_of_stage : ∀ stage ∈ destructorStages, stage.handler.all (· < 8) = true := by
  decide

/-- The handlers are destroyed behind the join of the epoll worker, each from its objects to its threads. -/
theorem stages_in_order : ∀ rest ∈ destructorStages.tails, ∀ handler < 8,
    (DestructorStage.joinWorker ∈ rest → DestructorStage.freeObjects handler ∈ rest) ∧
      (DestructorStage.freeObjects handler ∈ rest → DestructorStage.joinThreads handler ∈ rest) := by
  decide

/-- A worker of one of the eight handlers can move until it has exited. -/
theorem ControllerThreads.move_defined (settings : HandlerSettings) {system : ControllerThreads}
    {index : Nat} {thread : Thread WorkerTag} (found : system.threads[index]? = some thread)
    (inside : thread.tag.handler < 8) (alive : thread.phase ≠ .exited) :
    ∃ move result, ControllerThreads.step settings system (.move index move) = some result := by
  obtain ⟨move, result, ran⟩ :=
    exists_run system.controller.portHandler[thread.tag.handler].isRunning alive
  refine ⟨move, ?_⟩
  simp only [ControllerThreads.step, PortHandlerLoopback.work, found, Option.bind_some, readCell_natCast,
    Vector.getElem?_eq_getElem inside, ran, Option.map_some, writeCell_natCast _ _ inside]
  exact ⟨_, rfl⟩

namespace ControllerLife

/-- The epoll worker was never launched, or it has exited. -/
def EpollDone (life : ControllerLife) : Prop := life.epoll = none ∨ life.epoll = some .exited

/-- An event of a worker comes before the join with which the destructor of its object ends, and the destructor
of a handler frees its objects while no worker of the handler is inside its loop. -/
def StaysAlive (life : ControllerLife) : LifeEvent → Prop
  | .start => True
  | .epollTest => .joinWorker ∈ life.remaining
  | .epollEvent _ => .joinWorker ∈ life.remaining
  | .epollNext => .joinWorker ∈ life.remaining
  | .move index _ => ∀ thread, life.system.threads[index]? = some thread →
      .joinThreads thread.tag.handler ∈ life.remaining
  | .destruct => ∀ handler, life.remaining.head? = some (.freeObjects handler) →
      ∀ thread ∈ life.system.threads, thread.tag.handler = handler → thread.phase ≠ .looping

/-- The destructor of the controller leaves its join when the epoll worker is done, and the destructor of
a handler begins when every worker that the handler launched has exited. -/
def AwaitsWorkers (life : ControllerLife) : LifeEvent → Prop
  | .destruct => (life.remaining.head? = some .joinWorker → life.EpollDone) ∧
      ∀ handler, life.remaining.head? = some (.freeObjects handler) →
        ∀ thread ∈ life.system.threads, thread.tag.handler = handler → thread.phase = .exited
  | _ => True

instance (life : ControllerLife) : Decidable life.EpollDone := inferInstanceAs (Decidable (_ ∨ _))

instance (life : ControllerLife) : ∀ event, Decidable (life.AwaitsWorkers event)
  | .destruct => decidable_of_iff ((life.remaining.head? = some .joinWorker → life.EpollDone) ∧
      ∀ stage ∈ life.remaining.head?, ∀ thread ∈ life.system.threads,
        stage = .freeObjects thread.tag.handler → thread.phase = .exited) (by simp [AwaitsWorkers]; grind)
  | .start => inferInstanceAs (Decidable True)
  | .epollTest => inferInstanceAs (Decidable True)
  | .epollEvent _ => inferInstanceAs (Decidable True)
  | .epollNext => inferInstanceAs (Decidable True)
  | .move _ _ => inferInstanceAs (Decidable True)

/-- The parts of the state that a destructor stage leaves alone. -/
structure SameThreads (life next : ControllerLife) : Prop where
  threads : next.system.threads = life.system.threads
  pmap : next.system.controller.pmap = life.system.controller.pmap
  epoll : next.epoll = life.epoll
  worker : next.worker = life.worker
  handlerThread : next.handlerThread = life.handlerThread

/-- The tables have their sizes, the threads belong to handlers, the stages come in their order,
and no thread object is joinable. -/
structure Ordered (life : ControllerLife) : Prop where
  sized : life.system.controller.Sized
  tagged : ∀ thread ∈ life.system.threads, thread.tag.handler < 8
  suffix : life.remaining <:+ destructorStages
  worker : life.worker = .empty
  handlerThread : ∀ tag, life.handlerThread tag = .empty

/-- The epoll worker is done behind its join, and the workers of a handler have exited behind the start of
its destructor. -/
structure Awaited (life : ControllerLife) : Prop where
  epoll : .joinWorker ∉ life.remaining → life.EpollDone
  workers : ∀ thread ∈ life.system.threads, .freeObjects thread.tag.handler ∉ life.remaining →
    thread.phase = .exited

section
variable {settings : HandlerSettings} {life next : ControllerLife} {later : List HandlerCall}

theorem updateHandler_sameThreads {handler : Nat} {change : StartState → StartState}
    (updated : life.updateHandler handler change = some next) : SameThreads life next := by
  simp only [updateHandler, Option.bind_eq_some_iff, Option.map_eq_some_iff] at updated
  obtain ⟨_, _, _, _, rfl⟩ := updated
  exact ⟨rfl, rfl, rfl, rfl, rfl⟩

/-- A stage changes flags and handlers only. -/
theorem perform_sameThreads {stage : DestructorStage} (performed : life.perform stage = some next) :
    SameThreads life next := by
  cases stage with
  | closeFd =>
      obtain rfl := Option.some.inj performed
      exact ⟨rfl, rfl, rfl, rfl, rfl⟩
  | clearRunning =>
      obtain rfl := Option.some.inj performed
      exact ⟨rfl, rfl, rfl, rfl, rfl⟩
  | joinWorker =>
      simp only [perform] at performed
      split_ifs at performed <;> obtain rfl := Option.some.inj performed
      · exact ⟨rfl, rfl, rfl, rfl, rfl⟩
      · exact ⟨rfl, rfl, rfl, rfl, rfl⟩
  | freeObjects handler =>
      rw [perform] at performed
      exact updateHandler_sameThreads performed
  | stopHandler handler =>
      rw [perform] at performed
      exact updateHandler_sameThreads performed
  | joinThreads handler =>
      simp only [perform] at performed
      split_ifs at performed
      obtain rfl := Option.some.inj performed
      exact ⟨rfl, rfl, rfl, rfl, rfl⟩

/-- A destruction step performs the first stage that remains. -/
theorem step_destruct (stepped : step settings life .destruct = some (next, later)) :
    ∃ stage rest, life.remaining = stage :: rest ∧ next.remaining = rest ∧ SameThreads life next := by
  simp only [step] at stepped
  cases stages : life.remaining with
  | nil => simp [stages] at stepped
  | cons stage rest =>
      rw [stages] at stepped
      obtain ⟨performed, own, same⟩ := Option.map_eq_some_iff.mp stepped
      obtain ⟨rfl, _⟩ := Prod.mk.inj same
      have kept := perform_sameThreads own
      exact ⟨stage, rest, rfl, rfl, kept.threads, kept.pmap, kept.epoll, kept.worker, kept.handlerThread⟩

/-- A move of a worker moves one thread that had not exited, and touches no stage. -/
theorem step_move {index : Nat} {move : ThreadMove}
    (stepped : step settings life (.move index move) = some (next, later)) :
    ∃ thread phase, life.system.threads[index]? = some thread ∧ thread.phase ≠ .exited ∧
      next.system.threads = reach life.system.threads index phase ∧
      next.system.controller.pmap = life.system.controller.pmap ∧
      next = { life with system := next.system } := by
  obtain ⟨⟨system, calls⟩, moved, same⟩ := Option.map_eq_some_iff.mp stepped
  obtain ⟨rfl, _⟩ := Prod.mk.inj same
  obtain ⟨thread, handler, raised, phase, portHandler, found, _, ran, rfl⟩ :=
    ControllerThreads.step_move moved
  exact ⟨thread, phase, found, run_ne_exited ran, rfl, rfl, rfl⟩

/-- A processed notification may launch workers of one handler of the array. -/
theorem step_epollEvent {notification : Notification} (ordered : Ordered life)
    (stepped : step settings life (.epollEvent (some notification)) = some (next, later)) :
    next.remaining = life.remaining ∧ next.worker = life.worker ∧ next.system.controller.Sized ∧
      (∀ thread ∈ next.system.threads, thread ∈ life.system.threads ∨ thread.tag.handler < 8) ∧
      ∃ tags, next.handlerThread = detachLaunched life.handlerThread life.system.threads.length tags := by
  simp only [step, Option.ite_none_right_eq_some, Option.map_eq_some_iff] at stepped
  obtain ⟨_, ⟨system, calls⟩, processed, same⟩ := stepped
  obtain ⟨rfl, rfl⟩ := Prod.mk.inj same
  obtain ⟨sized, launched⟩ := ControllerThreads.notify_cases ordered.sized processed
  refine ⟨rfl, rfl, sized, ?_, _, rfl⟩
  intro thread member
  rcases launched with ⟨pair, launches, threads⟩ | ⟨_, threads⟩
  · rw [threads, mem_launch] at member
    rcases member with old | ⟨fresh, _⟩
    · exact Or.inl old
    · obtain ⟨worker, _, tag⟩ := List.mem_map.mp fresh
      rw [← tag]
      exact Or.inr (launches.inside ordered.sized)
  · exact Or.inl (threads ▸ member)

/-- A detached thread leaves its thread object empty. -/
theorem detachLaunched_empty {objects : WorkerTag → ThreadObject} (empty : ∀ tag, objects tag = .empty)
    (first : Nat) (tags : List WorkerTag) (tag : WorkerTag) :
    detachLaunched objects first tags tag = .empty := by
  unfold detachLaunched
  induction tags.zipIdx first generalizing objects with
  | nil => exact empty tag
  | cons tagged rest ih =>
      refine ih ?_
      intro other
      dsimp only
      rw [ThreadObject.detach_eq_empty, Function.update_apply, empty other, ite_self]

/-- The size of the tables is a property of the stored tables. -/
theorem sized_of_pmap {controller other : PortControllerLoopback} (sized : controller.Sized)
    (same : other.pmap = controller.pmap) : other.Sized := by
  intro deviceId rings found
  rw [same] at found
  exact sized deviceId rings found

/-- Every step keeps the order. -/
theorem Ordered.step (ordered : Ordered life) {event : LifeEvent}
    (stepped : ControllerLife.step settings life event = some (next, later)) : Ordered next := by
  cases event with
  | start =>
      simp only [ControllerLife.step, Option.ite_none_right_eq_some] at stepped
      obtain ⟨rfl, _⟩ := Prod.mk.inj (Option.some.inj stepped.2)
      unfold launchWorker
      split_ifs
      · exact ordered
      · exact ⟨ordered.sized, ordered.tagged, ordered.suffix, rfl, ordered.handlerThread⟩
  | epollTest =>
      simp only [ControllerLife.step, Option.ite_none_right_eq_some] at stepped
      obtain ⟨rfl, _⟩ := Prod.mk.inj (Option.some.inj stepped.2)
      exact ⟨ordered.sized, ordered.tagged, ordered.suffix, ordered.worker, ordered.handlerThread⟩
  | epollNext =>
      simp only [ControllerLife.step, Option.ite_none_right_eq_some] at stepped
      obtain ⟨rfl, _⟩ := Prod.mk.inj (Option.some.inj stepped.2)
      exact ⟨ordered.sized, ordered.tagged, ordered.suffix, ordered.worker, ordered.handlerThread⟩
  | epollEvent received =>
      cases received with
      | none =>
          simp only [ControllerLife.step, Option.ite_none_right_eq_some] at stepped
          obtain ⟨rfl, _⟩ := Prod.mk.inj (Option.some.inj stepped.2)
          exact ordered
      | some notification =>
          obtain ⟨remaining, worker, sized, threads, tags, objects⟩ := step_epollEvent ordered stepped
          refine ⟨sized, ?_, remaining ▸ ordered.suffix, worker.trans ordered.worker, ?_⟩
          · intro thread member
            rcases threads thread member with old | inside
            · exact ordered.tagged thread old
            · exact inside
          · intro tag
            rw [objects]
            exact detachLaunched_empty ordered.handlerThread _ _ tag
  | move index move =>
      obtain ⟨thread, phase, found, _, threads, pmap, same⟩ := step_move stepped
      rw [same]
      refine ⟨sized_of_pmap ordered.sized pmap, ?_, ordered.suffix, ordered.worker, ordered.handlerThread⟩
      intro other member
      rw [threads] at member
      rcases mem_reach found member with old | rfl
      · exact ordered.tagged other old
      · exact ordered.tagged thread (List.mem_of_getElem? found)
  | destruct =>
      obtain ⟨stage, rest, stages, remaining, kept⟩ := step_destruct stepped
      refine ⟨sized_of_pmap ordered.sized kept.pmap, kept.threads ▸ ordered.tagged, ?_,
        kept.worker.trans ordered.worker, kept.handlerThread ▸ ordered.handlerThread⟩
      rw [remaining]
      exact (List.suffix_cons stage rest).trans (stages ▸ ordered.suffix)

/-- The stages that follow a stage remain as long as it does. -/
theorem Ordered.follows (ordered : Ordered life) {handler : Nat} (inside : handler < 8) :
    (.joinWorker ∈ life.remaining → .freeObjects handler ∈ life.remaining) ∧
      (.freeObjects handler ∈ life.remaining → .joinThreads handler ∈ life.remaining) :=
  stages_in_order life.remaining ((List.mem_tails _ _).mpr ordered.suffix) handler inside

/-- An epoll worker that is not done has its join ahead. -/
theorem Awaited.joinWorker (awaited : Awaited life) (active : ¬ life.EpollDone) :
    .joinWorker ∈ life.remaining := by
  by_contra gone
  exact active (awaited.epoll gone)

/-- A worker that has not exited has the destructor of its handler ahead. -/
theorem Awaited.freeObjects (awaited : Awaited life) {thread : Thread WorkerTag}
    (member : thread ∈ life.system.threads) (alive : thread.phase ≠ .exited) :
    .freeObjects thread.tag.handler ∈ life.remaining := by
  by_contra gone
  exact alive (awaited.workers thread member gone)

/-- An epoll worker that takes a step is not done. -/
theorem not_epollDone {phase : EpollPhase} (here : life.epoll = some phase) (active : phase ≠ .exited) :
    ¬ life.EpollDone := by
  rintro (none | exited)
  · rw [here] at none
    simp at none
  · rw [here] at exited
    exact active (Option.some.inj exited)

/-- The events of the epoll worker. -/
def ofEpoll : LifeEvent → Prop
  | .epollTest => True
  | .epollEvent _ => True
  | .epollNext => True
  | _ => False

/-- The epoll worker takes its steps at its test or inside its loop, and it performs no stage. -/
theorem step_epoll (event : LifeEvent) (worker : ofEpoll event)
    (stepped : step settings life event = some (next, later)) :
    ¬ life.EpollDone ∧ next.remaining = life.remaining := by
  cases event with
  | epollTest =>
      simp only [step, Option.ite_none_right_eq_some] at stepped
      obtain ⟨rfl, _⟩ := Prod.mk.inj (Option.some.inj stepped.2)
      exact ⟨not_epollDone stepped.1 (by decide), rfl⟩
  | epollNext =>
      simp only [step, Option.ite_none_right_eq_some] at stepped
      obtain ⟨rfl, _⟩ := Prod.mk.inj (Option.some.inj stepped.2)
      exact ⟨not_epollDone stepped.1 (by decide), rfl⟩
  | epollEvent received =>
      cases received with
      | none =>
          simp only [step, Option.ite_none_right_eq_some] at stepped
          obtain ⟨rfl, _⟩ := Prod.mk.inj (Option.some.inj stepped.2)
          exact ⟨not_epollDone stepped.1 (by decide), rfl⟩
      | some notification =>
          simp only [step, Option.ite_none_right_eq_some, Option.map_eq_some_iff] at stepped
          obtain ⟨here, result, _, same⟩ := stepped
          obtain ⟨rfl, _⟩ := Prod.mk.inj same
          exact ⟨not_epollDone here (by decide), rfl⟩
  | start => exact worker.elim
  | move index move => exact worker.elim
  | destruct => exact worker.elim

/-- While the join of the epoll worker is ahead, the destructor of every handler is ahead too. -/
theorem awaited_of_ahead (ordered : Ordered life) (ahead : .joinWorker ∈ life.remaining) : Awaited life := by
  refine ⟨fun gone => absurd ahead gone, ?_⟩
  intro thread member gone
  exact absurd ((ordered.follows (ordered.tagged thread member)).1 ahead) gone

/-- A step of the epoll worker keeps the workers awaited: its own join is still ahead. -/
theorem Awaited.epoll_step (awaited : Awaited life) (ordered : Ordered life) (event : LifeEvent)
    (worker : ofEpoll event) (stepped : step settings life event = some (next, later)) : Awaited next := by
  obtain ⟨active, remaining⟩ := step_epoll event worker stepped
  exact awaited_of_ahead (ordered.step stepped) (remaining ▸ awaited.joinWorker active)

/-- An allowed stage keeps the workers awaited: it is no stage that a worker depends on, or the worker
has exited. -/
theorem Awaited.destruct_step (awaited : Awaited life) (allowed : life.AwaitsWorkers .destruct)
    (stepped : step settings life .destruct = some (next, later)) : Awaited next := by
  obtain ⟨stage, rest, stages, remaining, kept⟩ := step_destruct stepped
  obtain ⟨join, free⟩ := allowed
  rw [stages, List.head?_cons] at join free
  constructor
  · intro gone
    rw [EpollDone, kept.epoll]
    by_cases first : stage = .joinWorker
    · exact join (by rw [first])
    · refine awaited.epoll ?_
      rw [stages, List.mem_cons, ← remaining]
      exact not_or.mpr ⟨Ne.symm first, gone⟩
  · intro thread member gone
    rw [kept.threads] at member
    by_cases first : stage = .freeObjects thread.tag.handler
    · exact free thread.tag.handler (by rw [first]) thread member rfl
    · refine awaited.workers thread member ?_
      rw [stages, List.mem_cons, ← remaining]
      exact not_or.mpr ⟨Ne.symm first, gone⟩

/-- An allowed step keeps the workers awaited. -/
theorem Awaited.step (awaited : Awaited life) (ordered : Ordered life) {event : LifeEvent}
    (allowed : life.AwaitsWorkers event)
    (stepped : ControllerLife.step settings life event = some (next, later)) : Awaited next := by
  cases event with
  | start =>
      have kept := ordered.step stepped
      simp only [ControllerLife.step, Option.ite_none_right_eq_some] at stepped
      obtain ⟨alive, same⟩ := stepped
      obtain ⟨rfl, _⟩ := Prod.mk.inj (Option.some.inj same)
      have ahead : life.launchWorker.remaining = destructorStages := by
        unfold launchWorker
        split_ifs <;> exact alive
      exact awaited_of_ahead kept (by rw [ahead]; decide)
  | epollTest => exact awaited.epoll_step ordered .epollTest trivial stepped
  | epollNext => exact awaited.epoll_step ordered .epollNext trivial stepped
  | epollEvent received => exact awaited.epoll_step ordered (.epollEvent received) trivial stepped
  | destruct => exact awaited.destruct_step allowed stepped
  | move index move =>
      obtain ⟨thread, phase, found, alive, threads, _, same⟩ := step_move stepped
      rw [same]
      refine ⟨awaited.epoll, ?_⟩
      intro other member gone
      rw [threads] at member
      rcases mem_reach found member with old | rfl
      · exact awaited.workers other old gone
      · exact absurd (awaited.freeObjects (List.mem_of_getElem? found) alive) gone

/-- With all workers awaited, an allowed step finds its object alive. -/
theorem Awaited.staysAlive (awaited : Awaited life) (ordered : Ordered life) {event : LifeEvent}
    (allowed : life.AwaitsWorkers event)
    (stepped : ControllerLife.step settings life event = some (next, later)) : life.StaysAlive event := by
  cases event with
  | start => trivial
  | epollTest => exact awaited.joinWorker (step_epoll .epollTest trivial stepped).1
  | epollNext => exact awaited.joinWorker (step_epoll .epollNext trivial stepped).1
  | epollEvent received => exact awaited.joinWorker (step_epoll (.epollEvent received) trivial stepped).1
  | move index move =>
      obtain ⟨thread, phase, found, alive, _⟩ := step_move stepped
      intro other here
      obtain rfl := Option.some.inj (found.symm.trans here)
      have member := List.mem_of_getElem? found
      exact (ordered.follows (ordered.tagged thread member)).2 (awaited.freeObjects member alive)
  | destruct =>
      intro handler first thread member own
      rw [allowed.2 handler first thread member own]
      decide

theorem updateHandler_defined (life : ControllerLife) {handler : Nat} (inside : handler < 8)
    (change : StartState → StartState) : ∃ next, life.updateHandler handler change = some next := by
  simp only [updateHandler, readCell_natCast, Vector.getElem?_eq_getElem inside, Option.bind_some,
    writeCell_natCast _ _ inside, Option.map_some]
  exact ⟨_, rfl⟩

/-- Without joinable threads no stage waits. -/
theorem perform_defined (ordered : Ordered life) {stage : DestructorStage}
    (member : stage ∈ life.remaining) : ∃ next, life.perform stage = some next := by
  have bound := handler_of_stage stage (ordered.suffix.subset member)
  cases stage with
  | closeFd => exact ⟨_, rfl⟩
  | clearRunning => exact ⟨_, rfl⟩
  | joinWorker => exact ⟨life, by simp [perform, ordered.worker]⟩
  | freeObjects handler =>
      rw [perform]
      exact updateHandler_defined life (by simpa [DestructorStage.handler] using bound) _
  | stopHandler handler =>
      rw [perform]
      exact updateHandler_defined life (by simpa [DestructorStage.handler] using bound) _
  | joinThreads handler => exact ⟨life, by simp [perform, ordered.handlerThread]⟩

/-- The destructors run to their end whatever the workers do. -/
theorem destructors_finish (settings : HandlerSettings) {stages : List DestructorStage}
    (ordered : Ordered life) (ahead : life.remaining = stages) :
    ∃ final calls, (machine settings).run life (List.replicate stages.length .destruct) =
        some (final, calls) ∧ Ordered final ∧ final.remaining = [] ∧
      final.system.threads = life.system.threads ∧ final.epoll = life.epoll := by
  induction stages generalizing life with
  | nil => exact ⟨life, [], rfl, ordered, ahead, rfl, rfl⟩
  | cons stage rest ih =>
      obtain ⟨performed, own⟩ := perform_defined ordered (ahead ▸ List.mem_cons_self)
      have stepped : step settings life .destruct = some ({ performed with remaining := rest }, []) := by
        simp only [step, ahead, own, Option.map_some]
      have kept := perform_sameThreads own
      obtain ⟨final, calls, ran, last, done, threads, epoll⟩ := ih (ordered.step stepped) rfl
      refine ⟨final, [] ++ calls, ?_, last, done, threads.trans kept.threads, epoll.trans kept.epoll⟩
      exact (machine settings).run_cons_eq_some.mpr ⟨_, [], calls, stepped, ran, rfl⟩

/-- A worker that is left behind the destructors takes a step without its object. -/
theorem late_step (ordered : Ordered life) (settings : HandlerSettings) (done : life.remaining = [])
    (active : ¬ life.EpollDone ∨ ∃ thread ∈ life.system.threads, thread.phase ≠ .exited) :
    ∃ event result, step settings life event = some result ∧ ¬ life.StaysAlive event := by
  rcases active with busy | ⟨thread, member, alive⟩
  · cases here : life.epoll with
    | none => exact absurd (Or.inl here) busy
    | some phase =>
        cases phase with
        | testing =>
            exact ⟨.epollTest, _, by simp only [step, here, if_true]; rfl, by simp [StaysAlive, done]⟩
        | handling =>
            exact ⟨.epollNext, _, by simp only [step, here, if_true]; rfl, by simp [StaysAlive, done]⟩
        | exited => exact absurd (Or.inr here) busy
  · obtain ⟨index, found⟩ := List.mem_iff_getElem?.mp member
    obtain ⟨move, result, moved⟩ :=
      ControllerThreads.move_defined settings found (ordered.tagged thread member) alive
    refine ⟨.move index move, _, by simp only [step, moved, Option.map_some]; rfl, ?_⟩
    intro stays
    have ahead := stays thread found
    simp [done] at ahead

/-- A destructor that does not await its workers leaves one of them active. -/
theorem active_of_not_awaits {event : LifeEvent} (forbidden : ¬ life.AwaitsWorkers event) :
    event = .destruct ∧ (¬ life.EpollDone ∨ ∃ thread ∈ life.system.threads, thread.phase ≠ .exited) := by
  cases event with
  | destruct =>
      refine ⟨rfl, ?_⟩
      by_contra idle
      rw [not_or, not_not] at idle
      refine forbidden ⟨fun _ => idle.1, ?_⟩
      intro handler _ thread member _
      by_contra alive
      exact idle.2 ⟨thread, member, alive⟩
  | start => exact absurd trivial forbidden
  | epollTest => exact absurd trivial forbidden
  | epollEvent received => exact absurd trivial forbidden
  | epollNext => exact absurd trivial forbidden
  | move index move => exact absurd trivial forbidden

end

/-- The destructors of a run await their workers. -/
def awaits (settings : HandlerSettings) (past : List LifeEvent) (event : LifeEvent) : Prop :=
  ∀ life calls, (machine settings).run initial past = some (life, calls) → life.AwaitsWorkers event

instance (settings : HandlerSettings) (past : List LifeEvent) (event : LifeEvent) :
    Decidable (awaits settings past event) :=
  decidable_of_iff (∀ result ∈ (machine settings).run initial past, result.1.AwaitsWorkers event) (by
    simp [awaits])

/-- No worker of a run outlives its object. -/
def staysAlive (settings : HandlerSettings) (past : List LifeEvent) (event : LifeEvent) : Prop :=
  ∀ life calls, (machine settings).run initial past = some (life, calls) → life.StaysAlive event

section
variable {settings : HandlerSettings} {life : ControllerLife} {calls : List HandlerCall}
  {history : List LifeEvent}

theorem ordered_run (ran : (machine settings).run initial history = some (life, calls)) : Ordered life :=
  (machine settings).run_invariant Ordered
    ⟨PortControllerLoopback.sized_initial, by simp [initial, ControllerThreads.initial],
      List.suffix_refl _, rfl, fun _ => rfl⟩
    (fun _ _ _ _ ordered stepped => ordered.step stepped) ran

/-- The workers are awaited in every state of a run whose destructors await them. -/
theorem awaited_run (ran : (machine settings).run initial history = some (life, calls))
    (admitted : Admits (awaits settings) history) : Awaited life := by
  have fresh : Awaited initial := by
    refine ⟨fun gone => absurd (by decide) gone, by simp [initial, ControllerThreads.initial]⟩
  have both := (machine settings).run_history
    (fun past state _ => Admits (awaits settings) past → Awaited state) (fun _ => fresh)
    (by
      intro past state emitted event next later before held stepped admits
      obtain ⟨earlier, last⟩ := admits_concat.mp admits
      exact (held earlier).step (ordered_run before) (last state emitted before) stepped)
    ran
  exact both admitted

/-- The steps that remain of the destructors and one more step of a worker that they did not await. -/
theorem outlives_later {past : List LifeEvent} {event : LifeEvent} {next : ControllerLife}
    {later : List HandlerCall} (reached : (machine settings).run initial past = some (life, calls))
    (stepped : step settings life event = some (next, later)) (forbidden : ¬ life.AwaitsWorkers event) :
    ∃ rest, ((machine settings).run initial (past ++ event :: rest)).isSome = true ∧
      ¬ Admits (staysAlive settings) (past ++ event :: rest) := by
  obtain ⟨rfl, active⟩ := active_of_not_awaits forbidden
  obtain ⟨stage, rest, _, _, kept⟩ := step_destruct stepped
  have ordered := (ordered_run reached).step stepped
  obtain ⟨final, more, ran, last, done, threads, epoll⟩ := destructors_finish settings ordered rfl
  have left : ¬ final.EpollDone ∨ ∃ thread ∈ final.system.threads, thread.phase ≠ .exited := by
    rw [EpollDone, epoll, kept.epoll, threads, kept.threads]
    exact active
  obtain ⟨late, ⟨after, emitted⟩, moved, dead⟩ := late_step last settings done left
  have before : (machine settings).run initial
      ((past ++ [.destruct]) ++ List.replicate next.remaining.length .destruct) =
        some (final, (calls ++ later) ++ more) :=
    (machine settings).run_append_eq_some.mpr
      ⟨next, _, more, (machine settings).run_concat_of_step reached stepped, ran, rfl⟩
  have whole : past ++ .destruct :: (List.replicate next.remaining.length .destruct ++ [late]) =
      ((past ++ [.destruct]) ++ List.replicate next.remaining.length .destruct) ++ [late] := by
    simp
  refine ⟨List.replicate next.remaining.length .destruct ++ [late], ?_, ?_⟩
  · rw [whole, (machine settings).run_concat_of_step before moved]
    rfl
  · rw [whole, admits_concat]
    exact fun both => dead (both.2 final _ before)

end

/-- In a run whose destructors await their workers no worker outlives its object.
After the first destructor step that does not, the run can go on so that a worker does. -/
theorem workers_within_lifetimes (settings : HandlerSettings) {history : List LifeEvent}
    {final : ControllerLife} {calls : List HandlerCall}
    (ran : (machine settings).run initial history = some (final, calls)) :
    (Admits (awaits settings) history → Admits (staysAlive settings) history) ∧
      ∀ past event rest, history = past ++ event :: rest → ¬ awaits settings past event →
        ∃ later, ((machine settings).run initial (past ++ event :: later)).isSome = true ∧
          ¬ Admits (staysAlive settings) (past ++ event :: later) := by
  have reaches : ∀ past event rest, history = past ++ event :: rest →
      ∃ life emitted next later, (machine settings).run initial past = some (life, emitted) ∧
        (machine settings).step life event = some (next, later) := by
    rintro past event rest rfl
    obtain ⟨life, emitted, _, reached, continued, _⟩ := (machine settings).run_append_eq_some.mp ran
    obtain ⟨next, later, _, stepped, _, _⟩ := (machine settings).run_cons_eq_some.mp continued
    exact ⟨life, emitted, next, later, reached, stepped⟩
  constructor
  · intro admitted past event rest split
    obtain ⟨life, emitted, next, later, reached, stepped⟩ := reaches past event rest split
    rw [staysAlive, (machine settings).forall_run_iff reached fun state => state.StaysAlive event]
    have earlier : Admits (awaits settings) past := Admits.of_append (split ▸ admitted)
    exact (awaited_run reached earlier).staysAlive (ordered_run reached)
      (admitted past event rest split life emitted reached) stepped
  · intro past event rest split forbidden
    obtain ⟨life, emitted, next, later, reached, stepped⟩ := reaches past event rest split
    rw [awaits, (machine settings).forall_run_iff reached fun state => state.AwaitsWorkers event]
      at forbidden
    exact outlives_later reached stepped forbidden

/-- The controller is started, its destructor runs to the end of its join, and its epoll worker tests `is_running_`
afterwards. -/
def testAfterDestruction : List LifeEvent := .start :: List.replicate 3 .destruct ++ [.epollTest]

/-- The epoll worker outlives the controller. -/
theorem epoll_worker_outlives_controller :
    ¬ ∀ (settings : HandlerSettings) (history : List LifeEvent) (life : ControllerLife)
        (calls : List HandlerCall), (machine settings).run initial history = some (life, calls) →
      Admits (staysAlive settings) history := by
  intro claimed
  obtain ⟨⟨last, calls⟩, ran⟩ := Option.isSome_iff_exists.mp (show ((machine
    PortControllerLoopback.loopbackSettings).run initial testAfterDestruction).isSome = true by decide +kernel)
  have stays := (admits_concat.mp (claimed PortControllerLoopback.loopbackSettings testAfterDestruction
    last calls ran)).2
  obtain ⟨life, emitted, _, before, _, _⟩ := (machine
    PortControllerLoopback.loopbackSettings).run_concat_eq_some.mp ran
  have destroyed : ((machine PortControllerLoopback.loopbackSettings).run initial
      (.start :: List.replicate 3 .destruct)).map
        (fun result => decide (DestructorStage.joinWorker ∈ result.1.remaining)) = some false := by decide +kernel
  rw [before, Option.map_some, Option.some.injEq, decide_eq_false_iff_not] at destroyed
  exact destroyed (stays life emitted before)

/-- A worker is launched, stopped and gone before the destructor begins, and the epoll worker leaves its
loop before the destructor passes its join. -/
def orderlyShutdown : List LifeEvent :=
  [.start, .epollTest, .epollEvent none,
    .epollEvent (some (PortControllerLoopback.ringNotification 0 0 1)),
    .epollEvent (some (PortControllerLoopback.ringNotification 0 1 1)), .move 0 .enter,
    .epollEvent (some (PortControllerLoopback.destroyNotification 0)), .move 0 .test, .move 0 .exit,
    .destruct, .destruct, .epollNext, .epollTest] ++ List.replicate 25 .destruct

/-- In this order no worker outlives its object. -/
theorem workers_within_lifetimes_in_order :
    Admits (awaits PortControllerLoopback.loopbackSettings) orderlyShutdown ∧
      Admits (staysAlive PortControllerLoopback.loopbackSettings) orderlyShutdown := by
  have awaited : Admits (awaits PortControllerLoopback.loopbackSettings) orderlyShutdown := by decide +kernel
  obtain ⟨⟨final, calls⟩, ran⟩ := Option.isSome_iff_exists.mp (show ((machine
    PortControllerLoopback.loopbackSettings).run initial orderlyShutdown).isSome = true by decide +kernel)
  exact ⟨awaited, (workers_within_lifetimes PortControllerLoopback.loopbackSettings ran).1 awaited⟩

end ControllerLife

end Vtb
