import Vtb.Proof.Socket.SharedEndpoint

namespace Vtb
open Library

/-- The instance has the server socket, and its port controller exists. -/
structure VtbInstance.Serves (entry : VtbInstance) (descriptor : Descriptor) : Prop where
  server : entry.server = descriptor
  present : entry.stage ≠ .controllerReset

/-- The worker of the port controller accepts connections. -/
def VtbInstance.Accepts (entry : VtbInstance) : Prop := entry.stage = .dispatching ∨ entry.stage = .constructed

instance (entry : VtbInstance) : Decidable entry.Accepts := inferInstanceAs (Decidable (_ ∨ _))

namespace Host

/-- The process holds the server socket. -/
def Serving (host : Host) (pid : Nat) (descriptor : Descriptor) : Prop :=
  ∃ entry, host.instances pid = some entry ∧ entry.Serves descriptor

/-- The process holds the server socket and accepts on it. -/
def Accepting (host : Host) (pid : Nat) (descriptor : Descriptor) : Prop :=
  ∃ entry, host.instances pid = some entry ∧ entry.Serves descriptor ∧ entry.Accepts

/-- The kernel and the instances agree on who serves, who listens and who is connected. -/
structure Accounted (host : Host) : Prop where
  names : ∀ node, host.kernel.names sharedEndpoint = some node ↔
    ∃ pid descriptor, host.Serving pid descriptor ∧ node = .socket descriptor
  listening : ∀ descriptor, descriptor ∈ host.kernel.listening ↔ ∃ pid, host.Accepting pid descriptor
  fresh : ∀ pid entry, host.instances pid = some entry →
    entry.server < host.kernel.nextDescriptor ∧ entry.client < host.kernel.nextDescriptor
  serverless : ∀ pid entry, host.instances pid = some entry →
    entry.stage = .configured ∨ entry.mode ≠ .loopback → entry.server = -1
  clientless : ∀ pid entry, host.instances pid = some entry →
    entry.stage ≠ .constructed → entry.stage ≠ .controllerReset → entry.client = -1
  distinct : ∀ first second one two, host.instances first = some one → host.instances second = some two →
    one.server = two.server → one.server ≠ -1 → first = second
  connected : ∀ connection ∈ host.kernel.connections,
    (∃ pid entry, host.instances pid = some entry ∧ entry.client = connection.1) ∧
      ∃ pid entry, host.instances pid = some entry ∧ entry.server = connection.2

section
variable {host next : Host} {pid : Nat} {entry : VtbInstance}

theorem inStage_eq_some {stage : MainStage} :
    host.inStage pid stage = some entry ↔ host.instances pid = some entry ∧ entry.stage = stage := by
  rw [inStage, Option.filter_eq_some_iff, decide_eq_true_eq]

theorem instances_put (changed : VtbInstance) (kernel : Kernel) (other : Nat) :
    (host.put pid changed kernel).instances other =
      if other = pid then some changed else host.instances other :=
  Function.update_apply ..

/-- One entry changes, and the other processes serve as before. -/
theorem serving_put (changed : VtbInstance) (kernel : Kernel) (other : Nat) (descriptor : Descriptor) :
    (host.put pid changed kernel).Serving other descriptor ↔
      if other = pid then changed.Serves descriptor else host.Serving other descriptor := by
  simp only [Serving, instances_put]
  split <;> simp

theorem accepting_put (changed : VtbInstance) (kernel : Kernel) (other : Nat) (descriptor : Descriptor) :
    (host.put pid changed kernel).Accepting other descriptor ↔
      if other = pid then changed.Serves descriptor ∧ changed.Accepts else host.Accepting other descriptor := by
  simp only [Accepting, instances_put]
  split <;> simp

/-- What an entry that replaces the one of its process must keep. -/
structure Replaces (host : Host) (pid : Nat) (changed : VtbInstance) (kernel : Kernel) : Prop where
  before : ∀ entry, host.instances pid = some entry →
    (entry.server = changed.server ∨ entry.server = -1) ∧ (entry.client = changed.client ∨ entry.client = -1)
  grown : host.kernel.nextDescriptor ≤ kernel.nextDescriptor
  fits : changed.server < kernel.nextDescriptor ∧ changed.client < kernel.nextDescriptor
  serverless : changed.stage = .configured ∨ changed.mode ≠ .loopback → changed.server = -1
  clientless : changed.stage ≠ .constructed → changed.stage ≠ .controllerReset → changed.client = -1
  apart : ∀ other entry, host.instances other = some entry → other ≠ pid → entry.server = changed.server →
    changed.server = -1
  connections : ∀ connection ∈ kernel.connections, connection ∈ host.kernel.connections ∨
    (changed.client = connection.1 ∧ ∃ other, host.Serving other connection.2)

/-- A client socket still belongs to a running instance. -/
theorem Replaces.client {changed : VtbInstance} {kernel : Kernel} (replaces : host.Replaces pid changed kernel)
    {descriptor : Descriptor} (owned : ∃ other entry, host.instances other = some entry ∧
      entry.client = descriptor) :
    ∃ other entry, (host.put pid changed kernel).instances other = some entry ∧ entry.client = descriptor := by
  obtain ⟨other, entry, own, client⟩ := owned
  by_cases here : other = pid
  · subst here
    refine ⟨other, changed, by rw [instances_put, if_pos rfl], ?_⟩
    have kept := (replaces.before entry own).2
    omega
  · exact ⟨other, entry, by rw [instances_put, if_neg here, own], client⟩

/-- A server socket still belongs to a running instance. -/
theorem Replaces.server {changed : VtbInstance} {kernel : Kernel} (replaces : host.Replaces pid changed kernel)
    {descriptor : Descriptor} (owned : ∃ other entry, host.instances other = some entry ∧
      entry.server = descriptor) :
    ∃ other entry, (host.put pid changed kernel).instances other = some entry ∧ entry.server = descriptor := by
  obtain ⟨other, entry, own, server⟩ := owned
  by_cases here : other = pid
  · subst here
    refine ⟨other, changed, by rw [instances_put, if_pos rfl], ?_⟩
    have kept := (replaces.before entry own).1
    omega
  · exact ⟨other, entry, by rw [instances_put, if_neg here, own], server⟩

/-- A replaced entry keeps the account when it serves as the names and the listening sockets say. -/
theorem Accounted.put (held : host.Accounted) {changed : VtbInstance} {kernel : Kernel}
    (replaces : host.Replaces pid changed kernel)
    (names : ∀ node, kernel.names sharedEndpoint = some node ↔ ∃ other descriptor,
      (host.put pid changed kernel).Serving other descriptor ∧ node = .socket descriptor)
    (listening : ∀ descriptor, descriptor ∈ kernel.listening ↔
      ∃ other, (host.put pid changed kernel).Accepting other descriptor) :
    (host.put pid changed kernel).Accounted where
  names := names
  listening := listening
  fresh other entry own := by
    rw [instances_put] at own
    split at own
    · obtain rfl := Option.some.inj own
      exact replaces.fits
    · have grown : (host.kernel.nextDescriptor : Int) ≤ kernel.nextDescriptor := Int.ofNat_le.mpr replaces.grown
      obtain ⟨server, client⟩ := held.fresh other entry own
      exact ⟨server.trans_le grown, client.trans_le grown⟩
  serverless other entry own := by
    rw [instances_put] at own
    split at own
    · obtain rfl := Option.some.inj own
      exact replaces.serverless
    · exact held.serverless other entry own
  clientless other entry own := by
    rw [instances_put] at own
    split at own
    · obtain rfl := Option.some.inj own
      exact replaces.clientless
    · exact held.clientless other entry own
  distinct first second one two ownFirst ownSecond same opened := by
    rw [instances_put] at ownFirst ownSecond
    split at ownFirst
    · next firstHere =>
        obtain rfl := Option.some.inj ownFirst
        split at ownSecond
        · next secondHere => exact firstHere.trans secondHere.symm
        · next away => exact absurd (replaces.apart second two ownSecond away same.symm) opened
    · next firstAway =>
        split at ownSecond
        · obtain rfl := Option.some.inj ownSecond
          exact absurd (same.trans (replaces.apart first one ownFirst firstAway same)) opened
        · exact held.distinct first second one two ownFirst ownSecond same opened
  connected connection member := by
    rcases replaces.connections connection member with old | ⟨client, other, entry, own, serves⟩
    · obtain ⟨client, server⟩ := held.connected connection old
      exact ⟨replaces.client client, replaces.server server⟩
    · exact ⟨⟨pid, changed, by rw [instances_put, if_pos rfl], client⟩,
        replaces.server ⟨other, entry, own, serves.server⟩⟩

/-- An entry without a server socket serves on no descriptor. -/
theorem not_serves (closed : entry.server = -1) (descriptor : Descriptor) : ¬ entry.Serves descriptor := by
  intro serves
  have own := serves.server
  omega

/-- The account stays when the process serves and accepts as before. -/
theorem Accounted.quiet (held : host.Accounted) {changed : VtbInstance} {kernel : Kernel}
    (replaces : host.Replaces pid changed kernel) (same : host.kernel.SameName kernel)
    (serving : ∀ descriptor, changed.Serves descriptor ↔ host.Serving pid descriptor)
    (accepting : ∀ descriptor, changed.Serves descriptor ∧ changed.Accepts ↔ host.Accepting pid descriptor) :
    (host.put pid changed kernel).Accounted := by
  apply held.put replaces
  · intro node
    have kept : ∀ other descriptor, (host.put pid changed kernel).Serving other descriptor ↔
        host.Serving other descriptor := by
      intro other descriptor
      rw [serving_put]
      split
      · next here => rw [serving, here]
      · rfl
    simp only [kept, same.names, held.names]
  · intro descriptor
    have kept : ∀ other, (host.put pid changed kernel).Accepting other descriptor ↔
        host.Accepting other descriptor := by
      intro other
      rw [accepting_put]
      split
      · next here => rw [accepting, here]
      · rfl
    simp only [kept, same.listening, held.listening]

/-- The entry of a process decides whether it serves and accepts. -/
theorem serving_iff (own : host.instances pid = some entry) (descriptor : Descriptor) :
    host.Serving pid descriptor ↔ entry.Serves descriptor := by
  simp [Serving, own]

theorem accepting_iff (own : host.instances pid = some entry) (descriptor : Descriptor) :
    host.Accepting pid descriptor ↔ entry.Serves descriptor ∧ entry.Accepts := by
  simp [Accepting, own]

/-- A later stage with the same two sockets is a replacement. -/
theorem Accounted.later (held : host.Accounted) (own : host.instances pid = some entry) {stage : MainStage}
    (left : stage ≠ .configured)
    (client : stage ≠ .constructed → stage ≠ .controllerReset → entry.client = -1) {kernel : Kernel}
    (next : kernel.nextDescriptor = host.kernel.nextDescriptor)
    (connections : kernel.connections = host.kernel.connections) :
    host.Replaces pid { entry with stage } kernel where
  before other same := by
    rw [own, Option.some.injEq] at same
    rw [← same]
    exact ⟨.inl rfl, .inl rfl⟩
  grown := next.ge
  fits := by
    rw [next]
    exact held.fresh pid entry own
  serverless plain := held.serverless pid entry own (.inr (plain.resolve_left left))
  clientless := client
  apart other two found away same := by
    by_contra opened
    exact away (held.distinct other pid two entry found own same (same ▸ opened))
  connections connection member := .inl (connections ▸ member)

/-- A new process holds no socket. -/
theorem Accounted.main (held : host.Accounted) (unused : host.instances pid = none) (mode : ControllerKind)
    (name : List UInt8) : (host.put pid ⟨mode, name, .configured, -1, -1⟩ host.kernel).Accounted := by
  have silent (descriptor : Descriptor) : ¬ host.Serving pid descriptor := by simp [Serving, unused]
  have deaf (descriptor : Descriptor) : ¬ host.Accepting pid descriptor := by simp [Accepting, unused]
  apply held.quiet
  · exact {
      before := by simp [unused]
      grown := le_rfl
      fits := by simp only; omega
      serverless := fun _ => rfl
      clientless := fun _ _ => rfl
      apart := fun _ _ _ _ _ => rfl
      connections := fun _ member => .inl member }
  · exact ⟨rfl, rfl⟩
  · intro descriptor
    exact iff_of_false (not_serves rfl descriptor) (silent descriptor)
  · intro descriptor
    exact iff_of_false (fun both => not_serves rfl descriptor both.1) (deaf descriptor)

/-- A controller that gets no server socket serves nobody. -/
theorem Accounted.unserved (held : host.Accounted) (own : host.instances pid = some entry)
    (stage : entry.stage = .configured) {kernel : Kernel} (same : host.kernel.SameName kernel)
    (connections : kernel.connections = host.kernel.connections)
    (grown : host.kernel.nextDescriptor ≤ kernel.nextDescriptor) :
    (host.put pid { entry with stage := .serverCreated, server := -1 } kernel).Accounted := by
  have closed := held.serverless pid entry own (.inl stage)
  have alone := held.clientless pid entry own (by simp [stage]) (by simp [stage])
  apply held.quiet
  · exact {
      before := by
        intro other same
        rw [own, Option.some.injEq] at same
        rw [← same]
        exact ⟨.inl closed, .inl rfl⟩
      grown
      fits := by
        simp only [alone]
        omega
      serverless := fun _ => rfl
      clientless := fun _ _ => alone
      apart := fun _ _ _ _ _ => rfl
      connections := fun _ member => .inl (connections ▸ member) }
  · exact same
  · intro descriptor
    rw [serving_iff own]
    exact iff_of_false (not_serves rfl descriptor) (not_serves closed descriptor)
  · intro descriptor
    rw [accepting_iff own]
    exact iff_of_false (fun both => not_serves rfl descriptor both.1)
      (fun both => not_serves closed descriptor both.1)

/-- A controller that takes the free endpoint is the only one that serves. -/
theorem Accounted.served (held : host.Accounted) (own : host.instances pid = some entry)
    (stage : entry.stage = .configured) (mode : entry.mode = .loopback) {kernel : Kernel}
    (free : host.kernel.names sharedEndpoint = none)
    (taken : kernel.names sharedEndpoint = some (.socket host.kernel.nextDescriptor))
    (listening : kernel.listening = host.kernel.listening)
    (connections : kernel.connections = host.kernel.connections)
    (grown : kernel.nextDescriptor = host.kernel.nextDescriptor + 1) :
    (host.put pid { entry with stage := .serverCreated, server := (host.kernel.nextDescriptor : Int) }
      kernel).Accounted := by
  have closed := held.serverless pid entry own (.inl stage)
  have alone := held.clientless pid entry own (by simp [stage]) (by simp [stage])
  have nobody : ∀ other descriptor, ¬ host.Serving other descriptor := by
    intro other descriptor serving
    have named := (held.names (.socket descriptor)).mpr ⟨other, descriptor, serving, rfl⟩
    rw [free] at named
    simp at named
  apply held.put
  · exact {
      before := by
        intro other same
        rw [own, Option.some.injEq] at same
        rw [← same]
        exact ⟨.inr closed, .inl rfl⟩
      grown := by
        rw [grown]
        exact Nat.le_succ _
      fits := by
        simp only [alone, grown]
        push_cast
        omega
      serverless := by simp [mode]
      clientless := fun _ _ => alone
      apart := by
        intro other two found _ same
        have bound := (held.fresh other two found).1
        simp only at same
        omega
      connections := fun _ member => .inl (connections ▸ member) }
  · intro node
    rw [taken, Option.some.injEq]
    constructor
    · intro named
      refine ⟨pid, host.kernel.nextDescriptor, ?_, named.symm⟩
      rw [serving_put, if_pos rfl]
      exact ⟨rfl, by simp⟩
    · intro ⟨other, descriptor, serving, named⟩
      rw [serving_put] at serving
      split at serving
      · have same := serving.server
        simp only [Nat.cast_inj] at same
        rw [named, same]
      · exact absurd serving (nobody other descriptor)
  · intro descriptor
    rw [listening, held.listening]
    apply exists_congr
    intro other
    rw [accepting_put]
    split
    · next here =>
        rw [here, accepting_iff own]
        refine iff_of_false (fun both => not_serves closed descriptor both.1) ?_
        simp [VtbInstance.Accepts]
    · rfl

/-- A server takes the free endpoint, or the controller serves nobody. -/
theorem Accounted.createServer (held : host.Accounted) (own : host.instances pid = some entry)
    (stage : entry.stage = .configured) (granted bindable : Bool) :
    (host.createServer pid entry granted bindable).Accounted := by
  have closed := held.serverless pid entry own (.inl stage)
  have plain : { entry with stage := MainStage.serverCreated } =
      { entry with stage := MainStage.serverCreated, server := -1 } := by rw [← closed]
  unfold Host.createServer
  split
  · next mode =>
      have called := createServer_called entry.abstractSockname granted bindable host.kernel
      generalize PortControllerLoopback.createServer entry.abstractSockname granted bindable host.kernel = result
        at called ⊢
      cases called with
      | refused after same connections grown => exact held.unserved own stage same connections grown
      | bound after free taken listening connections grown =>
          exact held.served own stage mode free taken listening connections grown
  · rw [plain]
    exact held.unserved own stage ⟨rfl, rfl⟩ rfl le_rfl
  · rw [plain]
    exact held.unserved own stage ⟨rfl, rfl⟩ rfl le_rfl

/-- The worker of a controller with a server accepts from now on. -/
theorem Accounted.listens (held : host.Accounted) (own : host.instances pid = some entry)
    (stage : entry.stage = .serverCreated) :
    (host.put pid { entry with stage := .dispatching } (host.kernel.listenOn entry.server)).Accounted := by
  have alone := held.clientless pid entry own (by simp [stage]) (by simp [stage])
  have same : (host.kernel.listenOn entry.server).names = host.kernel.names ∧
      (host.kernel.listenOn entry.server).nextDescriptor = host.kernel.nextDescriptor ∧
      (host.kernel.listenOn entry.server).connections = host.kernel.connections := by
    unfold Kernel.listenOn
    split <;> exact ⟨rfl, rfl, rfl⟩
  have kept (descriptor : Descriptor) :
      { entry with stage := MainStage.dispatching }.Serves descriptor ↔ entry.Serves descriptor :=
    ⟨fun serves => ⟨serves.server, by simp [stage]⟩, fun serves => ⟨serves.server, by simp⟩⟩
  apply held.put (held.later own (by simp) (fun _ _ => alone) same.2.1 same.2.2)
  · intro node
    rw [same.1, held.names]
    apply exists_congr
    intro other
    apply exists_congr
    intro descriptor
    rw [serving_put]
    split
    · next here => rw [here, serving_iff own, kept]
    · rfl
  · intro descriptor
    have before : descriptor ∈ (host.kernel.listenOn entry.server).listening ↔
        entry.server = descriptor ∨ descriptor ∈ host.kernel.listening := by
      unfold Kernel.listenOn
      split
      · next opened =>
          rw [Kernel.listen, List.mem_cons]
          apply or_congr _ Iff.rfl
          constructor
          · intro here
            rw [here, Int.toNat_of_nonneg opened]
          · intro server
            rw [server, Int.toNat_natCast]
      · next closed =>
          have apart : entry.server ≠ descriptor := by omega
          simp [apart]
    rw [before, held.listening]
    constructor
    · intro listens
      rcases listens with server | ⟨other, two, found, serves, accepts⟩
      · refine ⟨pid, ?_⟩
        rw [accepting_put, if_pos rfl, kept]
        exact ⟨⟨server, by simp [stage]⟩, .inl rfl⟩
      · have away : other ≠ pid := by
          intro here
          rw [here, own, Option.some.injEq] at found
          rw [← found, VtbInstance.Accepts, stage] at accepts
          simp at accepts
        refine ⟨other, ?_⟩
        rw [accepting_put, if_neg away]
        exact ⟨two, found, serves, accepts⟩
    · intro ⟨other, accepting⟩
      rw [accepting_put] at accepting
      split at accepting
      · exact .inl ((kept descriptor).mp accepting.1).server
      · exact .inr ⟨other, accepting⟩

theorem Accounted.monitorAndDispatchHandler (held : host.Accounted) (own : host.instances pid = some entry)
    (stage : entry.stage = .serverCreated) : (host.monitorAndDispatchHandler pid entry).Accounted := by
  have listens := held.listens own stage
  have silent (plain : entry.mode ≠ .loopback) : host.kernel.listenOn entry.server = host.kernel := by
    rw [held.serverless pid entry own (.inr plain)]
    rfl
  unfold Host.monitorAndDispatchHandler
  split
  · exact listens
  · next mode =>
      rw [silent (by simp [mode])] at listens
      exact listens
  · next mode =>
      rw [silent (by simp [mode])] at listens
      exact listens

/-- A constructed vhost side has a client, which is connected to the socket that accepts, if any. -/
theorem Accounted.connects (held : host.Accounted) (own : host.instances pid = some entry)
    (stage : entry.stage = .dispatching) {result : Int × Kernel} (called : ClientCalled host.kernel result) :
    (host.put pid { entry with stage := .constructed, client := result.1 } result.2).Accounted := by
  have alone := held.clientless pid entry own (by simp [stage]) (by simp [stage])
  have fresh := (held.fresh pid entry own).1
  have kept (client : Int) (descriptor : Descriptor) :
      { entry with stage := MainStage.constructed, client := client }.Serves descriptor ↔
        host.Serving pid descriptor := by
    rw [serving_iff own]
    exact ⟨fun serves => ⟨serves.server, by simp [stage]⟩, fun serves => ⟨serves.server, by simp⟩⟩
  have accepts (client : Int) (descriptor : Descriptor) :
      { entry with stage := MainStage.constructed, client := client }.Serves descriptor ∧
        { entry with stage := MainStage.constructed, client := client }.Accepts ↔
        host.Accepting pid descriptor := by
    rw [kept, serving_iff own, accepting_iff own]
    simp [VtbInstance.Accepts, stage]
  have replaces {client : Int} {kernel : Kernel} (grown : host.kernel.nextDescriptor ≤ kernel.nextDescriptor)
      (fits : client < kernel.nextDescriptor)
      (connections : ∀ connection ∈ kernel.connections, connection ∈ host.kernel.connections ∨
        (client = connection.1 ∧ ∃ other, host.Serving other connection.2)) :
      host.Replaces pid { entry with stage := .constructed, client := client } kernel := {
    before := by
      intro other same
      rw [own, Option.some.injEq] at same
      rw [← same]
      exact ⟨.inl rfl, .inr alone⟩
    grown
    fits := ⟨fresh.trans_le (Int.ofNat_le.mpr grown), fits⟩
    serverless := fun plain => held.serverless pid entry own (.inr (plain.resolve_left (by simp)))
    clientless := by simp
    apart := by
      intro other two found away same
      by_contra opened
      exact away (held.distinct other pid two entry found own same (same ▸ opened))
    connections }
  cases called with
  | refused after same connections grown =>
      exact held.quiet (replaces grown (by omega) (fun _ member => .inl (connections ▸ member))) same
        (kept _) (accepts _)
  | alone after same connections grown silent =>
      exact held.quiet (replaces (by rw [grown]; exact Nat.le_succ _) (by simp only [grown]; push_cast; omega)
        (fun _ member => .inl (connections ▸ member))) same (kept _) (accepts _)
  | joined after server same owner listens connections grown =>
      apply held.quiet (replaces (by rw [grown]; exact Nat.le_succ _) (by simp only [grown]; push_cast; omega) _)
        same (kept _) (accepts _)
      intro connection member
      rw [connections, List.mem_cons] at member
      rcases member with rfl | old
      · obtain ⟨other, descriptor, serving, named⟩ := (held.names _).mp owner
        rw [Node.socket.injEq] at named
        exact .inr ⟨rfl, other, named ▸ serving⟩
      · exact .inl old

theorem Accounted.constructVhostController (held : host.Accounted) (own : host.instances pid = some entry)
    (stage : entry.stage = .dispatching) (granted : Bool) :
    (host.constructVhostController pid entry granted).Accounted := by
  have alone := held.clientless pid entry own (by simp [stage]) (by simp [stage])
  unfold Host.constructVhostController
  split
  · exact held.connects own stage (createClient_called ..)
  · have called := held.connects own stage (.refused host.kernel ⟨rfl, rfl⟩ rfl le_rfl)
    rw [← alone] at called
    exact called

/-- When a server socket is closed, the other processes serve and accept as before. -/
theorem Accounted.release (held : host.Accounted) (own : host.instances pid = some entry) :
    (∀ node, (host.kernel.release entry.server).names sharedEndpoint = some node ↔
      ∃ other descriptor, (other ≠ pid ∧ host.Serving other descriptor) ∧ node = .socket descriptor) ∧
    ∀ descriptor, descriptor ∈ (host.kernel.release entry.server).listening ↔
      ∃ other, other ≠ pid ∧ host.Accepting other descriptor := by
  have apart : ∀ other descriptor, host.Serving other descriptor →
      ((descriptor : Int) ≠ entry.server ↔ other ≠ pid) := by
    intro other descriptor ⟨two, found, serves⟩
    constructor
    · intro different here
      rw [here, own, Option.some.injEq] at found
      rw [found, serves.server] at different
      exact different rfl
    · intro away same
      have server := serves.server
      exact away (held.distinct other pid two entry found own (server.trans same) (by omega))
  constructor
  · intro node
    constructor
    · intro named
      obtain ⟨other, descriptor, serving, rfl⟩ := (held.names node).mp (Kernel.release_shared_le named)
      have different := ((Kernel.release_shared ..).mp named).2
      exact ⟨other, descriptor, ⟨(apart other descriptor serving).mp different, serving⟩, rfl⟩
    · intro ⟨other, descriptor, ⟨away, serving⟩, named⟩
      rw [named, Kernel.release_shared]
      exact ⟨(held.names _).mpr ⟨other, descriptor, serving, rfl⟩, (apart other descriptor serving).mpr away⟩
  · intro descriptor
    rw [Kernel.mem_release_listening, held.listening]
    constructor
    · intro ⟨⟨other, accepting⟩, different⟩
      obtain ⟨two, found, serves, accepts⟩ := accepting
      exact ⟨other, (apart other descriptor ⟨two, found, serves⟩).mp different, two, found, serves, accepts⟩
    · intro ⟨other, away, two, found, serves, accepts⟩
      exact ⟨⟨other, two, found, serves, accepts⟩, (apart other descriptor ⟨two, found, serves⟩).mpr away⟩

/-- The destructor of a port controller ends its service. -/
theorem Accounted.closes (held : host.Accounted) (own : host.instances pid = some entry) :
    (host.put pid { entry with stage := .controllerReset } (host.kernel.release entry.server)).Accounted := by
  obtain ⟨names, listening⟩ := held.release own
  have replaces : host.Replaces pid { entry with stage := .controllerReset } (host.kernel.release entry.server) :=
    held.later own (by simp) (by simp) rfl rfl
  apply held.put replaces
  · intro node
    rw [names]
    apply exists_congr
    intro other
    apply exists_congr
    intro descriptor
    rw [serving_put]
    split
    · next here =>
        apply and_congr_left'
        exact iff_of_false (fun both => both.1 here) (fun serves => serves.present rfl)
    · next away => simp [away]
  · intro descriptor
    rw [listening]
    apply exists_congr
    intro other
    rw [accepting_put]
    split
    · next here => exact iff_of_false (fun both => both.1 here) (fun both => both.1.present rfl)
    · next away => simp [away]

theorem Accounted.resetPortController (held : host.Accounted) (own : host.instances pid = some entry) :
    (host.resetPortController pid entry).Accounted := by
  have closes := held.closes own
  have kept (plain : entry.mode ≠ .loopback) : host.kernel.release entry.server = host.kernel := by
    rw [held.serverless pid entry own (.inr plain), Kernel.release_closed]
  unfold Host.resetPortController
  split
  · exact closes
  · next mode =>
      rw [kept (by simp [mode])] at closes
      exact closes
  · next mode =>
      rw [kept (by simp [mode])] at closes
      exact closes

/-- The end of a process ends its service and its connections. -/
theorem Accounted.exit (held : host.Accounted) (own : host.instances pid = some entry) :
    (host.exit pid entry).Accounted := by
  obtain ⟨names, listening⟩ := held.release own
  have instances (other : Nat) : (host.exit pid entry).instances other =
      if other = pid then none else host.instances other := Function.update_apply ..
  have serving (other : Nat) (descriptor : Descriptor) : (host.exit pid entry).Serving other descriptor ↔
      other ≠ pid ∧ host.Serving other descriptor := by
    simp only [Serving, instances]
    split
    · next here => simp [here]
    · next away => simp [away]
  have accepting (other : Nat) (descriptor : Descriptor) : (host.exit pid entry).Accepting other descriptor ↔
      other ≠ pid ∧ host.Accepting other descriptor := by
    simp only [Accepting, instances]
    split
    · next here => simp [here]
    · next away => simp [away]
  have before {other : Nat} {two : VtbInstance} (found : (host.exit pid entry).instances other = some two) :
      other ≠ pid ∧ host.instances other = some two := by
    rw [instances] at found
    split at found
    · simp at found
    · next away => exact ⟨away, found⟩
  exact {
    names := fun node => by
      simp only [serving]
      exact names node
    listening := fun descriptor => by
      simp only [accepting]
      exact listening descriptor
    fresh := fun other two found => held.fresh other two (before found).2
    serverless := fun other two found => held.serverless other two (before found).2
    clientless := fun other two found => held.clientless other two (before found).2
    distinct := fun first second one two ownFirst ownSecond =>
      held.distinct first second one two (before ownFirst).2 (before ownSecond).2
    connected := by
      intro connection member
      rw [Host.exit, Kernel.mem_hangUp, Kernel.mem_hangUp] at member
      obtain ⟨⟨old, _, serverKept⟩, clientKept, _⟩ := member
      obtain ⟨⟨client, one, ownClient, clientSocket⟩, server, two, ownServer, serverSocket⟩ :=
        held.connected connection old
      have clientAway : client ≠ pid := by
        intro here
        rw [here, own, Option.some.injEq] at ownClient
        rw [← ownClient] at clientSocket
        exact clientKept clientSocket.symm
      have serverAway : server ≠ pid := by
        intro here
        rw [here, own, Option.some.injEq] at ownServer
        rw [← ownServer] at serverSocket
        exact serverKept serverSocket.symm
      exact ⟨⟨client, one, by rw [instances, if_neg clientAway, ownClient], clientSocket⟩,
        server, two, by rw [instances, if_neg serverAway, ownServer], serverSocket⟩ }

/-- Every step of every process keeps the account. -/
theorem Accounted.step (held : host.Accounted) {event : HostEvent} (stepped : host.step event = some next) :
    next.Accounted := by
  cases event with
  | main pid mode name =>
      rw [Host.step, Option.ite_none_right_eq_some] at stepped
      obtain ⟨unused, same⟩ := stepped
      obtain rfl := Option.some.inj same
      exact held.main unused mode name
  | createServer pid granted bindable =>
      obtain ⟨entry, found, rfl⟩ := Option.map_eq_some_iff.mp stepped
      obtain ⟨own, stage⟩ := inStage_eq_some.mp found
      exact held.createServer own stage granted bindable
  | monitorAndDispatchHandler pid =>
      obtain ⟨entry, found, rfl⟩ := Option.map_eq_some_iff.mp stepped
      obtain ⟨own, stage⟩ := inStage_eq_some.mp found
      exact held.monitorAndDispatchHandler own stage
  | constructVhostController pid granted =>
      obtain ⟨entry, found, rfl⟩ := Option.map_eq_some_iff.mp stepped
      obtain ⟨own, stage⟩ := inStage_eq_some.mp found
      exact held.constructVhostController own stage granted
  | resetPortController pid =>
      obtain ⟨entry, found, rfl⟩ := Option.map_eq_some_iff.mp stepped
      exact held.resetPortController (inStage_eq_some.mp found).1
  | exit pid =>
      obtain ⟨entry, own, rfl⟩ := Option.map_eq_some_iff.mp stepped
      exact held.exit own

/-- A machine without instances has free names. -/
theorem accounted_empty : Host.empty.Accounted where
  names node := by simp [Host.empty, Kernel.empty, Serving]
  listening descriptor := by simp [Host.empty, Kernel.empty, Accepting]
  fresh pid entry own := by simp [Host.empty] at own
  serverless pid entry own := by simp [Host.empty] at own
  clientless pid entry own := by simp [Host.empty] at own
  distinct first second one two own := by simp [Host.empty] at own
  connected connection member := by simp [Host.empty, Kernel.empty] at member

/-- Every reachable state is accounted for. -/
theorem accounted_run {events : List HostEvent} {outputs : List Unit}
    (ran : machine.run empty events = some (host, outputs)) : host.Accounted :=
  machine.run_invariant Accounted accounted_empty
    (by
      intro before event after emitted held stepped
      obtain ⟨next, moved, same⟩ := Option.map_eq_some_iff.mp stepped
      obtain ⟨rfl, _⟩ := Prod.mk.inj same
      exact held.step moved) ran

/-- A socket that listens holds the shared endpoint. -/
theorem Accounted.names_of_listening (held : host.Accounted) {descriptor : Descriptor}
    (listens : descriptor ∈ host.kernel.listening) :
    host.kernel.names sharedEndpoint = some (.socket descriptor) := by
  obtain ⟨pid, entry, own, serves, _⟩ := (held.listening descriptor).mp listens
  exact (held.names _).mpr ⟨pid, descriptor, ⟨entry, own, serves⟩, rfl⟩

/-- Whatever names the instances of a machine are given, at most one of them has a server at any time,
and every connection leads from the client of a running instance to the server of a running instance. -/
theorem one_controller_serves {events : List HostEvent} {outputs : List Unit}
    (ran : machine.run empty events = some (host, outputs)) :
    (∀ first second one two, host.Serving first one → host.Serving second two → first = second ∧ one = two) ∧
      ∀ connection ∈ host.kernel.connections,
        (∃ client entry, host.instances client = some entry ∧ entry.client = connection.1) ∧
          ∃ server entry, host.instances server = some entry ∧ entry.server = connection.2 := by
  have held := accounted_run ran
  apply And.intro _ held.connected
  intro first second one two servingFirst servingSecond
  have named := (held.names (.socket one)).mpr ⟨first, one, servingFirst, rfl⟩
  rw [(held.names (.socket two)).mpr ⟨second, two, servingSecond, rfl⟩, Option.some.injEq,
    Node.socket.injEq] at named
  obtain ⟨entry, own, serves⟩ := servingFirst
  obtain ⟨other, found, otherServes⟩ := servingSecond
  have server := serves.server
  refine ⟨held.distinct first second entry other own found ?_ (by omega), named.symm⟩
  rw [server, otherServes.server, named]

/-- In every reachable state, a vhost side that is constructed gets a socket, and this socket is connected to
the instance that accepts, if there is one: to its own controller only when that one is the acceptor. -/
theorem clients_reach_acceptor {events : List HostEvent} {outputs : List Unit}
    (ran : machine.run empty events = some (host, outputs)) (own : host.instances pid = some entry)
    (mode : entry.mode ≠ .emulator) (fits : entry.abstractSockname.length + 1 < sunPathSize)
    (stepped : host.step (.constructVhostController pid true) = some next) :
    (∃ after, next.instances pid = some after ∧ after.client = host.kernel.nextDescriptor) ∧
      ∀ connection, connection ∈ next.kernel.connections ↔ connection ∈ host.kernel.connections ∨
        (connection.1 = host.kernel.nextDescriptor ∧ ∃ acceptor, host.Accepting acceptor connection.2) := by
  have held := accounted_run ran
  obtain ⟨same, found, rfl⟩ := Option.map_eq_some_iff.mp stepped
  obtain rfl : entry = same := by
    rw [(inStage_eq_some.mp found).1, Option.some.injEq] at own
    exact own.symm
  have client : entry.mode = .loopback ∨ entry.mode = .back2Back := by
    cases kind : entry.mode <;> simp_all
  have socket := createClient_fits fits host.kernel
  have called := createClient_called entry.abstractSockname true host.kernel
  rw [constructVhostController, if_pos client]
  generalize VhostController.createClient entry.abstractSockname true host.kernel = result at socket called ⊢
  constructor
  · exact ⟨_, by rw [instances_put, if_pos rfl], socket⟩
  · have accepting (descriptor : Descriptor) : (∃ acceptor, host.Accepting acceptor descriptor) ↔
        descriptor ∈ host.kernel.listening := (held.listening descriptor).symm
    intro connection
    rw [accepting]
    cases called with
    | refused after same connections grown =>
        simp only at socket
        omega
    | alone after same connections grown silent =>
        rw [put, connections]
        constructor
        · exact Or.inl
        · intro member
          rcases member with old | ⟨_, listens⟩
          · exact old
          · exact absurd (held.names_of_listening listens) (silent _ listens)
    | joined after server same owner listens connections grown =>
        rw [put, connections, List.mem_cons]
        constructor
        · intro member
          rcases member with rfl | old
          · exact .inr ⟨rfl, listens⟩
          · exact .inl old
        · intro member
          rcases member with old | ⟨socket, reached⟩
          · exact .inr old
          · have named := held.names_of_listening reached
            rw [owner, Option.some.injEq, Node.socket.injEq] at named
            exact .inl (Prod.ext socket named.symm)

end

/-- Two Loopback instances under the names `a` and `b`: the first one accepts, and the second one comes up to
the constructor of its vhost side. -/
def twoInstances : List HostEvent :=
  [.main 1 .loopback [97], .createServer 1 true true, .monitorAndDispatchHandler 1,
    .main 2 .loopback [98], .createServer 2 true true, .monitorAndDispatchHandler 2]

/-- The second instance gets no server and joins the first one. -/
theorem one_controller_serves_two_instances :
    ∃ host outputs, machine.run empty (twoInstances ++ [.constructVhostController 2 true]) = some (host, outputs) ∧
      (host.kernel.connections = [(2, 0)] ∧ (host.instances 1).map VtbInstance.server = some 0 ∧
        (host.instances 2).map VtbInstance.server = some (-1)) ∧
      (∀ first second one two, host.Serving first one → host.Serving second two → first = second ∧ one = two) ∧
      ∀ connection ∈ host.kernel.connections,
        (∃ client entry, host.instances client = some entry ∧ entry.client = connection.1) ∧
          ∃ server entry, host.instances server = some entry ∧ entry.server = connection.2 := by
  have outcome : (machine.run empty (twoInstances ++ [.constructVhostController 2 true])).map
      (fun result => (result.1.kernel.connections, (result.1.instances 1).map VtbInstance.server,
        (result.1.instances 2).map VtbInstance.server)) = some ([(2, 0)], some 0, some (-1)) := by
    decide +kernel
  obtain ⟨⟨host, outputs⟩, ran, seen⟩ := Option.map_eq_some_iff.mp outcome
  simp only [Prod.mk.injEq] at seen
  exact ⟨host, outputs, ran, seen, one_controller_serves ran⟩

/-- The client of the second instance is the third socket, and only the first instance accepts. -/
theorem clients_reach_acceptor_two_instances :
    ∃ host next outputs, machine.run empty twoInstances = some (host, outputs) ∧
      host.step (.constructVhostController 2 true) = some next ∧
      (∃ after, next.instances 2 = some after ∧ after.client = host.kernel.nextDescriptor) ∧
        ∀ connection, connection ∈ next.kernel.connections ↔ connection ∈ host.kernel.connections ∨
          (connection.1 = host.kernel.nextDescriptor ∧ ∃ acceptor, host.Accepting acceptor connection.2) := by
  have outcome : (machine.run empty twoInstances).map
      (fun result => (result.1.instances 2, (result.1.step (.constructVhostController 2 true)).isSome)) =
        some (some ⟨.loopback, [98], .dispatching, -1, -1⟩, true) := by decide +kernel
  obtain ⟨⟨host, outputs⟩, ran, seen⟩ := Option.map_eq_some_iff.mp outcome
  simp only [Prod.mk.injEq] at seen
  obtain ⟨next, stepped⟩ := Option.isSome_iff_exists.mp seen.2
  exact ⟨host, next, outputs, ran, stepped,
    clients_reach_acceptor ran seen.1 (by decide) (by decide) stepped⟩

end Host

end Vtb
