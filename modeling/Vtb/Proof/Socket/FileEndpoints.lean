import Vtb.Proof.Socket.AbstractNames

namespace Vtb

/-- A path of the file system that `sun_path` can hold. -/
structure FilePath (path : List UInt8) : Prop where
  nonempty : path ≠ []
  nulFree : 0 ∉ path
  plain : path.head? ≠ some atSign
  fits : path.length < sunPathSize

instance (path : List UInt8) : Decidable (FilePath path) :=
  decidable_of_iff (path ≠ [] ∧ 0 ∉ path ∧ path.head? ≠ some atSign ∧ path.length < sunPathSize)
    ⟨fun all => ⟨all.1, all.2.1, all.2.2.1, all.2.2.2⟩,
      fun valid => ⟨valid.nonempty, valid.nulFree, valid.plain, valid.fits⟩⟩

/-- A call of `create_client_socket` and the answer of `socket` to it. -/
structure ClientCall where
  path : List UInt8
  granted : Bool
deriving DecidableEq

namespace Kernel

/-- The clients call one after the other. -/
def clients (kernel : Kernel) (calls : List ClientCall) : Kernel :=
  calls.foldl (fun state call => (createClientSocket call.path call.granted state).2) kernel

/-- The name `path` refers to the socket `server`. -/
def EndpointKept (kernel : Kernel) (path : List UInt8) (server : Descriptor) : Prop :=
  kernel.names (.filePath path) = some (.socket server)

/-- A client call on `path` reaches the socket `server`. -/
def ConnectsTo (kernel : Kernel) (path : List UInt8) (granted : Bool) (server : Descriptor) : Prop :=
  (createClientSocket path granted kernel).2.connections =
    (kernel.nextDescriptor, server) :: kernel.connections

end Kernel

/-- The zeros behind a path do not belong to it. -/
theorem cString_append {path : List UInt8} (nulFree : 0 ∉ path) (count : Nat) :
    cString (path ++ List.replicate count 0) = path := by
  have inside : ∀ byte ∈ path, (byte != 0) = true := by
    intro byte member
    have nonzero : byte ≠ 0 := fun zero => nulFree (zero ▸ member)
    simpa using nonzero
  rw [cString, List.takeWhile_append_of_pos inside, List.takeWhile_replicate]
  simp

/-- The bytes that `sun_path` can hold are followed by zeros. -/
theorem sunPathOf_toList {bytes : List UInt8} (fits : bytes.length ≤ sunPathSize) :
    (sunPathOf bytes).toList = bytes ++ List.replicate (sunPathSize - bytes.length) 0 := by
  apply List.ext_getElem
  · simp only [Vector.length_toList, List.length_append, List.length_replicate]
    omega
  · intro index inside within
    simp only [sunPathOf, Vector.getElem_toList, Vector.getElem_ofFn, List.getElem_append,
      List.getElem_replicate]
    split
    · next here => simp [here]
    · next past => simp [Nat.not_lt.mp past]

/-- The address of a path with `@` names the abstract socket of the bytes behind it. -/
theorem abstractAddress_endpoint {name : List UInt8} (fits : (atSign :: name).length < sunPathSize) :
    (abstractAddress (atSign :: name)).endpoint = .abstractSocket name := by
  have whole : (abstractAddress (atSign :: name)).sunPath.toList.take
      ((abstractAddress (atSign :: name)).length - sunPathOffset) = 0 :: name := by
    rw [abstractAddress, List.tail_cons, sunPathOf_toList (by simpa using fits.le)]
    simp
  unfold SocketAddress.endpoint
  rw [whole]
  rfl

section
variable {path : List UInt8} (valid : FilePath path)
include valid

theorem FilePath.cString_eq : cString path = path := by
  simpa using cString_append valid.nulFree 0

/-- The address of a path of the file system names that path. -/
theorem FilePath.endpoint : (unixAddress path).endpoint = .filePath path := by
  have whole : (unixAddress path).sunPath.toList.take ((unixAddress path).length - sunPathOffset) =
      path ++ List.replicate (sunPathSize - path.length) 0 := by
    have short : path.length ≤ sunPathSize - 1 := Nat.le_sub_one_of_lt valid.fits
    rw [unixAddress, valid.cString_eq, List.take_of_length_le short, ← sunPathOf_toList valid.fits.le]
    apply List.take_of_length_le
    simp
  unfold SocketAddress.endpoint
  rw [whole]
  split
  · next name leading =>
      cases path with
      | nil => exact absurd rfl valid.nonempty
      | cons first rest =>
          obtain ⟨rfl, _⟩ := List.cons.inj leading
          exact absurd List.mem_cons_self valid.nulFree
  · rw [cString_append valid.nulFree]

/-- A client call that gets a socket removes the path before it connects. -/
theorem FilePath.createClientSocket_eq (kernel : Kernel) :
    createClientSocket path true kernel =
      ((kernel.nextDescriptor : Int),
        ({ kernel with nextDescriptor := kernel.nextDescriptor + 1 }.unlink path).connect
          kernel.nextDescriptor (unixAddress path) |>.2) := by
  have short : ¬ path.length ≥ sunPathSize := Nat.not_le.mpr valid.fits
  simp only [createClientSocket, SocketSystem.createClientSocket, Kernel.system, Kernel.socket, valid.nonempty, short, valid.plain, valid.cString_eq,
    if_false, if_true]

/-- A client call without a socket changes nothing. -/
theorem FilePath.createClientSocket_refused (kernel : Kernel) :
    createClientSocket path false kernel = (-1, kernel) := by
  simp [createClientSocket, SocketSystem.createClientSocket, Kernel.system, Kernel.socket, valid.nonempty]

end

namespace Kernel

@[simp] theorem connect_names (kernel : Kernel) (descriptor : Descriptor) (address : SocketAddress) :
    (kernel.connect descriptor address).2.names = kernel.names := by
  unfold connect
  split
  · split <;> rfl
  · rfl

@[simp] theorem connect_listeners (kernel : Kernel) (descriptor : Descriptor) (address : SocketAddress) :
    (kernel.connect descriptor address).2.listening = kernel.listening := by
  unfold connect
  split
  · split <;> rfl
  · rfl

/-- A connection to a missing name is refused. -/
theorem connect_missing {kernel : Kernel} {address : SocketAddress}
    (missing : kernel.names address.endpoint = none) (descriptor : Descriptor) :
    (kernel.connect descriptor address).2.connections = kernel.connections := by
  unfold connect
  rw [missing]
  rfl

/-- A bound socket that listens accepts a connection to its address. -/
theorem connect_listening (kernel : Kernel) {address : SocketAddress} {server : Descriptor}
    (bound : kernel.names address.endpoint = some (.socket server)) (listens : server ∈ kernel.listening)
    (descriptor : Descriptor) :
    (kernel.connect descriptor address).2.connections = (descriptor, server) :: kernel.connections := by
  unfold connect
  rw [bound]
  simp [listens]

/-- A client call removes the name of its path and keeps the other names. -/
theorem createClientSocket_names {call : ClientCall} (valid : FilePath call.path) (kernel : Kernel)
    (path : List UInt8) :
    (createClientSocket call.path call.granted kernel).2.names (.filePath path) =
      if call.path = path ∧ call.granted = true then none else kernel.names (.filePath path) := by
  cases answer : call.granted with
  | false => simp [valid.createClientSocket_refused]
  | true =>
      rw [valid.createClientSocket_eq]
      by_cases same : call.path = path
      · subst same
        simp [unlink]
      · have other : Endpoint.filePath path ≠ .filePath call.path := by
          intro equal
          exact same (Endpoint.filePath.inj equal).symm
        simp [unlink, record, Function.update_of_ne other, same]

/-- The clients keep the name of a path when none of them gets a socket for it. -/
theorem clients_names {calls : List ClientCall} (valid : ∀ call ∈ calls, FilePath call.path)
    (kernel : Kernel) (path : List UInt8) :
    (kernel.clients calls).names (.filePath path) =
      if ∃ call ∈ calls, call.path = path ∧ call.granted = true then none
      else kernel.names (.filePath path) := by
  induction calls using List.reverseRecOn with
  | nil => simp [clients]
  | append_singleton past call ih =>
      have before := ih fun call member => valid call (by simp [member])
      have last := valid call (by simp)
      rw [clients, List.foldl_append, List.foldl_cons, List.foldl_nil, createClientSocket_names last,
        ← clients, before]
      simp only [List.mem_append, List.mem_singleton, or_and_right, exists_or, exists_eq_left]
      by_cases hit : call.path = path ∧ call.granted = true
      · simp [hit]
      · simp [hit]

/-- No client call on a path reaches a server, because the call removes the path first. -/
theorem not_connectsTo {path : List UInt8} (valid : FilePath path) (kernel : Kernel) (granted : Bool)
    (server : Descriptor) : ¬ kernel.ConnectsTo path granted server := by
  intro connects
  have grown := congrArg List.length connects
  cases granted with
  | false =>
      rw [valid.createClientSocket_refused] at grown
      simp at grown
  | true =>
      have missing : ({ kernel with nextDescriptor := kernel.nextDescriptor + 1 }.unlink path).names
          (unixAddress path).endpoint = none := by
        rw [valid.endpoint]
        exact Function.update_self ..
      rw [valid.createClientSocket_eq] at grown
      dsimp only at grown
      rw [connect_missing missing] at grown
      simp [unlink, record] at grown

end Kernel

/-- A successful `bind` gives the name to the socket. -/
theorem Kernel.bind_success {kernel : Kernel} {descriptor : Descriptor} {address : SocketAddress}
    {granted : Bool} (bound : (kernel.bind descriptor address granted).1 = true) :
    (kernel.bind descriptor address granted).2.names address.endpoint = some (.socket descriptor) := by
  unfold Kernel.bind at bound ⊢
  split at bound
  · next free =>
      rw [if_pos free]
      exact Function.update_self ..
  · exact absurd bound (by simp)

/-- A server call that returns its socket has given it the name. -/
theorem Kernel.bind_served {kernel after : Kernel} {sockFd server : Descriptor} {address : SocketAddress}
    {granted : Bool} (served : (if (kernel.bind sockFd address granted).1 = true then
        ((sockFd : Int), (kernel.bind sockFd address granted).2)
      else (-1, (kernel.bind sockFd address granted).2.close sockFd)) = ((server : Int), after)) :
    after.names address.endpoint = some (.socket server) := by
  by_cases bound : (kernel.bind sockFd address granted).1 = true
  · rw [if_pos bound] at served
    obtain ⟨same, rfl⟩ := Prod.mk.inj served
    rw [← Int.natCast_inj.mp same]
    exact Kernel.bind_success bound
  · rw [if_neg bound] at served
    have code := (Prod.mk.inj served).1
    omega

/-- A successful server call binds the address of its path to its socket. -/
theorem createServerSocket_bound {path : List UInt8} (nonempty : path ≠ [])
    (fits : path.length < sunPathSize) {granted bindable : Bool} {before kernel : Kernel}
    {server : Descriptor}
    (served : createServerSocket path granted bindable before = ((server : Int), kernel)) :
    kernel.names (pathAddress path).endpoint = some (.socket server) := by
  have short : ¬ path.length ≥ sunPathSize := Nat.not_le.mpr fits
  simp only [createServerSocket, SocketSystem.createServerSocket, Kernel.system, nonempty, if_false] at served
  cases granted with
  | false =>
      have code := (Prod.mk.inj served).1
      omega
  | true =>
      simp only [Kernel.socket, if_true, short, if_false] at served
      rw [pathAddress]
      by_cases leading : path.head? = some atSign
      · rw [if_pos leading] at served ⊢
        exact Kernel.bind_served served
      · rw [if_neg leading] at served ⊢
        exact Kernel.bind_served served

/-- A successful server call on a path of the file system binds that path to its socket. -/
theorem createServerSocket_binds {path : List UInt8} (valid : FilePath path) {granted bindable : Bool}
    {before kernel : Kernel} {server : Descriptor}
    (served : createServerSocket path granted bindable before = ((server : Int), kernel)) :
    kernel.EndpointKept path server := by
  have bound := createServerSocket_bound valid.nonempty valid.fits served
  rw [pathAddress, if_neg valid.plain, valid.endpoint] at bound
  exact bound

/-- After the server listens, its path refers to it exactly until a client call on the path gets a
socket, and no client call on the path ever reaches it. The first half takes each file to have one path:
a call on another path of the same file would remove the endpoint as well. -/
theorem client_destroys_endpoint {path : List UInt8} (valid : FilePath path) {granted bindable : Bool}
    {before kernel : Kernel} {server : Descriptor}
    (served : createServerSocket path granted bindable before = ((server : Int), kernel))
    (calls : List ClientCall) (validCalls : ∀ call ∈ calls, FilePath call.path) (answer : Bool) :
    (((kernel.listen server).clients calls).EndpointKept path server ↔
        ∀ call ∈ calls, call.path = path → call.granted = false) ∧
      ¬ (((kernel.listen server).clients calls).EndpointKept path server ∧
        ((kernel.listen server).clients calls).ConnectsTo path answer server) := by
  have bound : kernel.EndpointKept path server := createServerSocket_binds valid served
  have listened : (kernel.listen server).names (.filePath path) = some (.socket server) := bound
  refine ⟨?_, fun both => Kernel.not_connectsTo valid _ answer server both.2⟩
  rw [Kernel.EndpointKept, Kernel.clients_names validCalls]
  by_cases hit : ∃ call ∈ calls, call.path = path ∧ call.granted = true
  · rw [if_pos hit]
    obtain ⟨call, member, same, got⟩ := hit
    simp only [reduceCtorEq, false_iff]
    intro refused
    simp [refused call member same] at got
  · rw [if_neg hit, listened]
    simp only [true_iff]
    intro call member same
    cases got : call.granted with
    | false => rfl
    | true => exact absurd ⟨call, member, same, got⟩ hit

/-- A client call leaves every abstract socket and every listening server as it was. -/
theorem Kernel.createClientSocket_abstract (path : List UInt8) (granted : Bool) (kernel : Kernel) :
    (∀ name, (createClientSocket path granted kernel).2.names (.abstractSocket name) =
        kernel.names (.abstractSocket name)) ∧
      (createClientSocket path granted kernel).2.listening = kernel.listening := by
  simp only [createClientSocket, SocketSystem.createClientSocket, Kernel.system]
  split
  · exact ⟨fun _ => rfl, rfl⟩
  · cases granted with
    | false => exact ⟨fun _ => rfl, rfl⟩
    | true =>
        simp only [Kernel.socket, if_true]
        split
        · exact ⟨fun _ => rfl, rfl⟩
        · split
          · simp only [connect_names, connect_listeners, implies_true, and_self]
          · simp only [connect_names, connect_listeners, Kernel.unlink, Kernel.record, and_true]
            intro name
            exact Function.update_of_ne (by simp) ..

theorem Kernel.clients_abstract (kernel : Kernel) (calls : List ClientCall) :
    (∀ name, (kernel.clients calls).names (.abstractSocket name) = kernel.names (.abstractSocket name)) ∧
      (kernel.clients calls).listening = kernel.listening := by
  induction calls generalizing kernel with
  | nil => exact ⟨fun _ => rfl, rfl⟩
  | cons call rest ih =>
      obtain ⟨names, listening⟩ := Kernel.createClientSocket_abstract call.path call.granted kernel
      obtain ⟨laterNames, laterListening⟩ := ih (createClientSocket call.path call.granted kernel).2
      exact ⟨fun name => (laterNames name).trans (names name), laterListening.trans listening⟩

/-- A client call with `@` reaches the server that listens under its name. -/
theorem Kernel.connectsTo_abstract {kernel : Kernel} {name : List UInt8}
    (fits : (atSign :: name).length < sunPathSize) {server : Descriptor}
    (kept : kernel.names (.abstractSocket name) = some (.socket server))
    (listens : server ∈ kernel.listening) : kernel.ConnectsTo (atSign :: name) true server := by
  have short : ¬ (atSign :: name).length ≥ sunPathSize := Nat.not_le.mpr fits
  rw [← abstractAddress_endpoint fits] at kept
  simp only [Kernel.ConnectsTo, createClientSocket, SocketSystem.createClientSocket, Kernel.system, Kernel.socket, short, List.head?_cons, if_true,
    if_false, reduceCtorEq]
  exact Kernel.connect_listening { kernel with nextDescriptor := kernel.nextDescriptor + 1 } kept listens
    kernel.nextDescriptor

/-- The abstract branch does what the branch of the file system misses: after any client calls the
server still has its name, and a client on the name reaches it. -/
theorem abstract_endpoint_serves_clients {name : List UInt8}
    (fits : (atSign :: name).length < sunPathSize) {granted bindable : Bool} {before kernel : Kernel}
    {server : Descriptor}
    (served : createServerSocket (atSign :: name) granted bindable before = ((server : Int), kernel))
    (calls : List ClientCall) :
    ((kernel.listen server).clients calls).names (.abstractSocket name) = some (.socket server) ∧
      ((kernel.listen server).clients calls).ConnectsTo (atSign :: name) true server := by
  have bound := createServerSocket_bound (by simp) fits served
  rw [pathAddress, if_pos List.head?_cons, abstractAddress_endpoint fits] at bound
  obtain ⟨names, listening⟩ := (kernel.listen server).clients_abstract calls
  have kept : ((kernel.listen server).clients calls).names (.abstractSocket name) =
      some (.socket server) := (names name).trans bound
  have listens : server ∈ ((kernel.listen server).clients calls).listening := by
    rw [listening]
    exact List.mem_cons_self
  exact ⟨kept, Kernel.connectsTo_abstract fits kept listens⟩

/-- The path `/s` of a server. -/
def samplePath : List UInt8 := [47, 115]

/-- The state of a server on `/s` that listens. -/
def sampleServer : Int × Kernel := createServerSocket samplePath true true Kernel.empty

/-- A first client on `/s` does not reach the server that listens there. -/
theorem client_misses_server :
    ¬ ∀ path : List UInt8, FilePath path → ∀ (before kernel : Kernel) (server : Descriptor),
      createServerSocket path true true before = ((server : Int), kernel) →
      ∀ calls : List ClientCall, (∀ call ∈ calls, FilePath call.path) →
        ((kernel.listen server).clients calls).EndpointKept path server ∧
          ((kernel.listen server).clients calls).ConnectsTo path true server := by
  intro claimed
  have connects := (claimed samplePath (by decide) Kernel.empty sampleServer.2 0 rfl [] (by simp)).2
  have refused : (createClientSocket samplePath true ((sampleServer.2.listen 0).clients [])).2.connections =
      [] := by decide
  rw [Kernel.ConnectsTo, refused] at connects
  exact absurd connects (by simp)

/-- A client on another path leaves the server of `/s` in place, and a client on `/s` still misses it. -/
theorem client_destroys_endpoint_sample :
    ((sampleServer.2.listen 0).clients [⟨[47, 116], true⟩]).EndpointKept samplePath 0 ∧
      ¬ ((sampleServer.2.listen 0).clients [⟨[47, 116], true⟩]).ConnectsTo samplePath true 0 := by
  have served : createServerSocket samplePath true true Kernel.empty = (((0 : Descriptor) : Int), sampleServer.2) :=
    rfl
  obtain ⟨keeps, fails⟩ := client_destroys_endpoint (by decide) served [⟨[47, 116], true⟩] (by decide) true
  have kept := keeps.mpr (by decide)
  exact ⟨kept, fun connects => fails ⟨kept, connects⟩⟩

end Vtb
