import Vtb.Construction.Socket

namespace Vtb

/-- A name that an argument of the command line can give and that `sun_path` can hold. -/
structure AbstractName (name : List UInt8) : Prop where
  nulFree : 0 ∉ name
  fits : name.length + 1 < sunPathSize

instance (name : List UInt8) : Decidable (AbstractName name) :=
  decidable_of_iff (0 ∉ name ∧ name.length + 1 < sunPathSize)
    ⟨fun both => ⟨both.1, both.2⟩, fun valid => ⟨valid.nulFree, valid.fits⟩⟩

/-- A process that has made no system call yet. -/
def Kernel.untraced (kernel : Kernel) : Kernel := { kernel with trace := [] }

def SystemCall.boundTo : SystemCall → Option SocketAddress
  | .bind _ address => some address
  | _ => none

def SystemCall.connectedTo : SystemCall → Option SocketAddress
  | .connect _ address => some address
  | _ => none

/-- The address that a call passes to `bind`. -/
def passedToBind (outcome : Int × Kernel) : Option SocketAddress :=
  outcome.2.trace.findSome? SystemCall.boundTo

/-- The address that a call passes to `connect`. -/
def passedToConnect (outcome : Int × Kernel) : Option SocketAddress :=
  outcome.2.trace.findSome? SystemCall.connectedTo

/-- The address of a path that `sun_path` can hold. -/
def pathAddress (path : List UInt8) : SocketAddress :=
  if path.head? = some atSign then abstractAddress path else unixAddress path

@[simp] theorem Kernel.record_trace (kernel : Kernel) (call : SystemCall) :
    (kernel.record call).trace = kernel.trace ++ [call] := rfl

@[simp] theorem Kernel.unlink_trace (kernel : Kernel) (path : List UInt8) :
    (kernel.unlink path).trace = kernel.trace ++ [.unlink path] := rfl

@[simp] theorem Kernel.bind_trace (kernel : Kernel) (descriptor : Descriptor) (address : SocketAddress)
    (granted : Bool) :
    (kernel.bind descriptor address granted).2.trace = kernel.trace ++ [.bind descriptor address] := by
  unfold Kernel.bind
  split <;> rfl

@[simp] theorem Kernel.connect_trace (kernel : Kernel) (descriptor : Descriptor) (address : SocketAddress) :
    (kernel.connect descriptor address).2.trace = kernel.trace ++ [.connect descriptor address] := by
  unfold Kernel.connect
  split
  · split <;> rfl
  · rfl

/-- A server binds to the address of its path. -/
theorem server_binds (path : List UInt8) (nonempty : path ≠ []) (fits : path.length < sunPathSize)
    (bindable : Bool) (kernel : Kernel) :
    passedToBind (createServerSocket path true bindable kernel.untraced) = some (pathAddress path) := by
  have short : ¬ path.length ≥ sunPathSize := by omega
  simp only [createServerSocket, SocketSystem.createServerSocket, Kernel.system, nonempty, Kernel.socket, short, if_false, if_true, pathAddress]
  split
  · split <;> simp [passedToBind, Kernel.untraced, Kernel.close, List.findSome?, SystemCall.boundTo]
  · split <;> simp [passedToBind, Kernel.untraced, Kernel.close, List.findSome?, SystemCall.boundTo]

/-- A client connects to the address of its path. -/
theorem client_connects (path : List UInt8) (nonempty : path ≠ []) (fits : path.length < sunPathSize)
    (kernel : Kernel) :
    passedToConnect (createClientSocket path true kernel.untraced) = some (pathAddress path) := by
  have short : ¬ path.length ≥ sunPathSize := by omega
  simp only [createClientSocket, SocketSystem.createClientSocket, Kernel.system, nonempty, Kernel.socket, short, if_false, if_true, pathAddress]
  split <;> simp [passedToConnect, Kernel.untraced, List.findSome?, SystemCall.connectedTo]

/-- A path that starts with NUL loses its whole name. -/
theorem pathAddress_nul (name : List UInt8) : pathAddress (0 :: name) = unixAddress [] := by
  simp [pathAddress, unixAddress, cString, atSign]

theorem getElem_sunPathOf (bytes : List UInt8) {index : Nat} (inside : index < sunPathSize) :
    (sunPathOf bytes)[index] = bytes.getD index 0 := by
  simp only [sunPathOf, Vector.getElem_ofFn]

/-- The form with `@` keeps the name, and so it identifies the endpoint. -/
theorem pathAddress_at (name other : List UInt8) (fits : (atSign :: name).length < sunPathSize) :
    pathAddress (atSign :: name) = pathAddress (atSign :: other) ↔ name = other := by
  simp only [pathAddress, List.head?_cons, if_true, abstractAddress, List.tail_cons,
    SocketAddress.mk.injEq, Nat.add_left_cancel_iff]
  constructor
  · rintro ⟨bytes, length⟩
    have size : name.length = other.length := by simpa using length
    apply List.ext_getElem size
    intro index inside within
    have position : index + 1 < sunPathSize := by
      simp only [List.length_cons] at fits
      omega
    have cell : (sunPathOf (0 :: name))[index + 1] = (sunPathOf (0 :: other))[index + 1] := by
      rw [bytes]
    rw [getElem_sunPathOf _ position, getElem_sunPathOf _ position] at cell
    simpa [inside, within] using cell
  · rintro rfl
    exact ⟨rfl, rfl⟩

/-- Servers and clients of the form with `@` meet exactly under the same name. -/
theorem at_names_identify (kernel other : Kernel) (bindable : Bool) (name target : List UInt8)
    (valid : AbstractName name) (validTarget : AbstractName target) :
    passedToBind (createServerSocket (atSign :: name) true bindable kernel.untraced) =
      passedToConnect (createClientSocket (atSign :: target) true other.untraced) ↔ name = target := by
  rw [server_binds (atSign :: name) (by simp) valid.fits,
    client_connects (atSign :: target) (by simp) validTarget.fits, Option.some.injEq,
    pathAddress_at name target valid.fits]

/-- Every server binds to one address, whatever its name is. -/
theorem createServer_binds {name : List UInt8} (valid : AbstractName name) (bindable : Bool)
    (kernel : Kernel) :
    passedToBind (PortControllerLoopback.createServer name true bindable kernel.untraced) =
      some (unixAddress []) := by
  rw [PortControllerLoopback.createServer, server_binds (0 :: name) (by simp) valid.fits, pathAddress_nul]

/-- Every client connects to that address as well. -/
theorem createClient_connects {name : List UInt8} (valid : AbstractName name) (kernel : Kernel) :
    passedToConnect (VhostController.createClient name true kernel.untraced) =
      some (unixAddress []) := by
  rw [VhostController.createClient, client_connects (0 :: name) (by simp) valid.fits, pathAddress_nul]

/-- The socket names of the callers identify the endpoints of two names exactly when the names are equal:
every name is encoded to the same address. -/
theorem socket_names_identify_iff (kernel other : Kernel) (bindable rebindable : Bool)
    (name target : List UInt8) (valid : AbstractName name) (validTarget : AbstractName target) :
    ((passedToBind (PortControllerLoopback.createServer name true bindable kernel.untraced) =
          passedToConnect (VhostController.createClient target true other.untraced) ↔ name = target) ∧
      (passedToBind (PortControllerLoopback.createServer name true bindable kernel.untraced) =
          passedToBind (PortControllerLoopback.createServer target true rebindable other.untraced) ↔
        name = target)) ↔ name = target := by
  rw [createServer_binds valid, createServer_binds validTarget, createClient_connects validTarget]
  simp

/-- A controller named `a` and a client named `b` use one address. -/
theorem socket_names_collide :
    ¬ ∀ name target, AbstractName name → AbstractName target →
      (passedToBind (PortControllerLoopback.createServer name true true Kernel.empty) =
        passedToConnect (VhostController.createClient target true Kernel.empty) ↔ name = target) := by
  intro claimed
  have same := (claimed [97] [98] (by decide) (by decide)).mp (by decide)
  exact absurd same (by decide)

/-- Two parties under the name `a` meet, and two servers under it take one address. -/
theorem socket_names_identify_one_name :
    passedToBind (PortControllerLoopback.createServer [97] true true Kernel.empty.untraced) =
        passedToConnect (VhostController.createClient [97] true Kernel.empty.untraced) ∧
      passedToBind (PortControllerLoopback.createServer [97] true true Kernel.empty.untraced) =
        passedToBind (PortControllerLoopback.createServer [97] true true Kernel.empty.untraced) := by
  have valid : AbstractName [97] := by decide
  obtain ⟨meets, binds⟩ := (socket_names_identify_iff Kernel.empty Kernel.empty true true [97] [97]
    valid valid).mpr rfl
  exact ⟨meets.mpr rfl, binds.mpr rfl⟩

end Vtb
