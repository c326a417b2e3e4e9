import Vtb.Construction.Instances
import Vtb.Proof.Socket.FileEndpoints

namespace Vtb
open Library

/-- The endpoint of every server and every client, whatever `-absn` says. -/
def sharedEndpoint : Endpoint := (unixAddress []).endpoint

/-- The endpoint is an abstract socket, so it goes with its owner. -/
theorem sharedEndpoint_eq : ∃ name, sharedEndpoint = .abstractSocket name := by
  have whole : (unixAddress []).sunPath.toList.take ((unixAddress []).length - sunPathOffset) =
      0 :: List.replicate (sunPathSize - 1) 0 := by
    rw [unixAddress, show (cString []).take (sunPathSize - 1) = [] from rfl, sunPathOf_toList (by simp)]
    rfl
  refine ⟨List.replicate (sunPathSize - 1) 0, ?_⟩
  unfold sharedEndpoint SocketAddress.endpoint
  rw [whole]
  rfl

/-- A path that starts with NUL has no C string. -/
theorem cString_nul (name : List UInt8) : cString (0 :: name) = [] := by simp [cString]

/-- The address of a path that starts with NUL is the shared one. -/
theorem unixAddress_nul (name : List UInt8) : (unixAddress (0 :: name)).endpoint = sharedEndpoint := by
  simp [sharedEndpoint, unixAddress, cString]

/-- A kernel whose shared endpoint and listening sockets are those of another one. -/
structure Kernel.SameName (kernel after : Kernel) : Prop where
  names : after.names sharedEndpoint = kernel.names sharedEndpoint
  listening : after.listening = kernel.listening

/-- A call of `create_server` fails, or it takes the free endpoint. -/
inductive ServerCall (kernel : Kernel) : Int × Kernel → Prop where
  | refused (after : Kernel) (same : kernel.SameName after) (connections : after.connections = kernel.connections)
      (grown : kernel.nextDescriptor ≤ after.nextDescriptor) : ServerCall kernel (-1, after)
  | bound (after : Kernel) (free : kernel.names sharedEndpoint = none)
      (taken : after.names sharedEndpoint = some (.socket kernel.nextDescriptor))
      (listening : after.listening = kernel.listening) (connections : after.connections = kernel.connections)
      (grown : after.nextDescriptor = kernel.nextDescriptor + 1) :
      ServerCall kernel ((kernel.nextDescriptor : Int), after)

/-- A call of `create_client` fails, stays alone, or joins the socket that listens on the endpoint. -/
inductive ClientCalled (kernel : Kernel) : Int × Kernel → Prop where
  | refused (after : Kernel) (same : kernel.SameName after) (connections : after.connections = kernel.connections)
      (grown : kernel.nextDescriptor ≤ after.nextDescriptor) : ClientCalled kernel (-1, after)
  | alone (after : Kernel) (same : kernel.SameName after) (connections : after.connections = kernel.connections)
      (grown : after.nextDescriptor = kernel.nextDescriptor + 1)
      (silent : ∀ server ∈ kernel.listening, kernel.names sharedEndpoint ≠ some (.socket server)) :
      ClientCalled kernel ((kernel.nextDescriptor : Int), after)
  | joined (after : Kernel) (server : Descriptor) (same : kernel.SameName after)
      (owner : kernel.names sharedEndpoint = some (.socket server)) (listens : server ∈ kernel.listening)
      (connections : after.connections = (kernel.nextDescriptor, server) :: kernel.connections)
      (grown : after.nextDescriptor = kernel.nextDescriptor + 1) :
      ClientCalled kernel ((kernel.nextDescriptor : Int), after)

/-- Removing a path of the file system keeps the shared endpoint. -/
theorem Kernel.unlink_shared (kernel : Kernel) (path : List UInt8) :
    (kernel.unlink path).names sharedEndpoint = kernel.names sharedEndpoint := by
  obtain ⟨name, shared⟩ := sharedEndpoint_eq
  rw [shared]
  change Function.update kernel.names (.filePath path) none (.abstractSocket name) = _
  rw [Function.update_of_ne (by simp)]

/-- The server takes the shared endpoint when it is free. -/
theorem createServer_called (name : List UInt8) (granted bindable : Bool) (kernel : Kernel) :
    ServerCall kernel (PortControllerLoopback.createServer name granted bindable kernel) := by
  simp only [PortControllerLoopback.createServer, createServerSocket, SocketSystem.createServerSocket, Kernel.system,
    Kernel.socket]
  rw [if_neg (by simp)]
  cases granted with
  | false => exact .refused kernel ⟨rfl, rfl⟩ rfl le_rfl
  | true =>
      have plain : ¬ (0 :: name).head? = some atSign := by simp [atSign]
      simp only [if_true, plain, if_false, cString_nul]
      split
      · exact .refused _ ⟨rfl, rfl⟩ rfl (Nat.le_succ _)
      · have kept := Kernel.unlink_shared { kernel with nextDescriptor := kernel.nextDescriptor + 1 } []
        simp only [Kernel.bind, unixAddress_nul, kept]
        by_cases free : bindable = true ∧ kernel.names sharedEndpoint = none
        · simp only [if_pos free, if_true]
          exact .bound _ free.2 (by simp) rfl rfl rfl
        · simp only [if_neg free, Bool.false_eq_true, if_false]
          exact .refused _ ⟨kept, rfl⟩ rfl (Nat.le_succ _)

/-- The client joins the socket that listens on the shared endpoint. -/
theorem createClient_called (name : List UInt8) (granted : Bool) (kernel : Kernel) :
    ClientCalled kernel (VhostController.createClient name granted kernel) := by
  simp only [VhostController.createClient, createClientSocket, SocketSystem.createClientSocket, Kernel.system,
    Kernel.socket]
  rw [if_neg (by simp)]
  cases granted with
  | false => exact .refused kernel ⟨rfl, rfl⟩ rfl le_rfl
  | true =>
      have plain : ¬ (0 :: name).head? = some atSign := by simp [atSign]
      simp only [if_true, plain, if_false, cString_nul]
      split
      · exact .refused _ ⟨rfl, rfl⟩ rfl (Nat.le_succ _)
      · have kept := Kernel.unlink_shared { kernel with nextDescriptor := kernel.nextDescriptor + 1 } []
        simp only [Kernel.connect, unixAddress_nul, kept]
        cases node : kernel.names sharedEndpoint with
        | none => exact .alone _ ⟨kept, rfl⟩ rfl rfl (by simp [node])
        | some found =>
            cases found with
            | file => exact .alone _ ⟨kept, rfl⟩ rfl rfl (by simp [node])
            | socket server =>
                simp only
                split
                · next listens => exact .joined _ server ⟨kept, rfl⟩ node listens rfl rfl
                · next idle =>
                    have silent : ∀ other ∈ kernel.listening,
                        kernel.names sharedEndpoint ≠ some (.socket other) := by
                      intro other listens owner
                      rw [node, Option.some.injEq, Node.socket.injEq] at owner
                      exact idle (owner ▸ listens)
                    exact .alone _ ⟨kept, rfl⟩ rfl rfl silent

/-- A name that does not fit is refused, and every other name is not. -/
theorem createClient_fits {name : List UInt8} (fits : name.length + 1 < sunPathSize) (kernel : Kernel) :
    (VhostController.createClient name true kernel).1 = kernel.nextDescriptor := by
  have short : ¬ (0 :: name).length ≥ sunPathSize := by
    rw [List.length_cons]
    omega
  have plain : ¬ (0 :: name).head? = some atSign := by simp [atSign]
  simp only [VhostController.createClient, createClientSocket, SocketSystem.createClientSocket, Kernel.system, Kernel.socket, if_true, plain, short, if_false,
    reduceCtorEq]

namespace Kernel

/-- A release keeps the shared endpoint of every other socket. -/
theorem release_shared (kernel : Kernel) (fd : Int) (descriptor : Descriptor) :
    (kernel.release fd).names sharedEndpoint = some (.socket descriptor) ↔
      kernel.names sharedEndpoint = some (.socket descriptor) ∧ (descriptor : Int) ≠ fd := by
  obtain ⟨name, shared⟩ := sharedEndpoint_eq
  rw [shared, release]
  simp only [Option.filter_eq_some_iff, decide_eq_true_eq]

/-- A release adds nothing to the shared endpoint. -/
theorem release_shared_le {kernel : Kernel} {fd : Int} {node : Node}
    (named : (kernel.release fd).names sharedEndpoint = some node) :
    kernel.names sharedEndpoint = some node := by
  obtain ⟨name, shared⟩ := sharedEndpoint_eq
  rw [shared, release] at named
  rw [shared]
  exact (Option.filter_eq_some_iff.mp named).1

/-- No socket has the descriptor -1. -/
theorem release_closed (kernel : Kernel) : kernel.release (-1) = kernel := by
  have opened (descriptor : Descriptor) : (descriptor : Int) ≠ -1 := by omega
  obtain ⟨names, listening, connections, nextDescriptor, trace⟩ := kernel
  simp only [release, Kernel.mk.injEq, and_true]
  constructor
  · funext endpoint
    cases endpoint with
    | filePath path => rfl
    | abstractSocket name =>
        cases held : names (.abstractSocket name) with
        | none => simp only [held, Option.filter_none]
        | some node => cases node <;> simp [held, opened]
  · simp [opened]

@[simp] theorem mem_release_listening {kernel : Kernel} {fd : Int} {descriptor : Descriptor} :
    descriptor ∈ (kernel.release fd).listening ↔ descriptor ∈ kernel.listening ∧ (descriptor : Int) ≠ fd := by
  simp [release]

@[simp] theorem mem_hangUp {kernel : Kernel} {fd : Int} {connection : Descriptor × Descriptor} :
    connection ∈ (kernel.hangUp fd).connections ↔
      connection ∈ kernel.connections ∧ (connection.1 : Int) ≠ fd ∧ (connection.2 : Int) ≠ fd := by
  simp [hangUp]

end Kernel

end Vtb
