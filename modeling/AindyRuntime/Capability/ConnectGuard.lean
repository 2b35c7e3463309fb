import AindyRuntime.Capability.Egress
import AindyRuntime.Lib.StepSystem

/-! # Where an egress scope connects to

`_guarded_getaddrinfo` records the addresses that it returns, and
`_check_connect_allowed` trusts every host that is not an address.
-/

namespace AindyRuntime.Capability

open List

inductive HostArg where
  | absent
  | text (host : String)
  | bytes (host : String)

/-- `str(host)`, and empty where the host is false. -/
def HostArg.shown : HostArg → String
  | .absent | .bytes "" => ""
  | .text host => host
  | .bytes host => "b'" ++ host ++ "'"

/-- What is below the guard: `ipaddress.ip_address`, and where the unguarded
`connect` goes, which looks up by itself whatever is not an address. -/
structure Network (Address : Type) where
  ipAddress : String → Option Address
  connect : HostArg → Option Address
  connect_address : ∀ host address, ipAddress host = some address → connect (.text host) = some address

/-- A scope with an allowlist: its resolved addresses, those of them that a
permitted hostname was resolved to, and the connections that went through. -/
structure EgressScope (Address : Type) where
  resolvedIps : List String
  (vouched connections : List Address)

/-- `answer` is what the unguarded `getaddrinfo` returns. -/
inductive SocketCall where
  | getaddrinfo (host : HostArg) (answer : List String)
  | connect (host : HostArg)

variable {Address : Type} (hostCase : HostCase) (network : Network Address) (allowlist : List String)

def checkConnectAllowed (scope : EgressScope Address) (host : HostArg) : Bool :=
  host.shown == "" || (network.ipAddress host.shown).isNone || decide (host.shown ∈ scope.resolvedIps)

def egressScope : StepSystem (EgressScope Address) SocketCall where
  step scope
    | .getaddrinfo host answer =>
      if resolves hostCase (some allowlist) host.shown then
        some { scope with
          resolvedIps := scope.resolvedIps ++ answer.filter (· ≠ "")
          vouched := scope.vouched ++ if host.shown = "" then [] else answer.filterMap network.ipAddress }
      else some scope
    | .connect host =>
      if checkConnectAllowed network scope host then
        some { scope with connections := scope.connections ++ (network.connect host).toList }
      else some scope

/-- A resolution names a host, and a connect an address. -/
def SocketCall.Plain : SocketCall → Prop
  | .getaddrinfo host _ => host.shown ≠ ""
  | .connect host => ∃ text address, host = .text text ∧ text ≠ "" ∧ network.ipAddress text = some address

structure Vouched (scope : EgressScope Address) : Prop where
  resolved : ∀ text ∈ scope.resolvedIps, ∀ address, network.ipAddress text = some address → address ∈ scope.vouched
  connected : scope.connections ⊆ scope.vouched

variable {hostCase network allowlist} {scope next : EgressScope Address} {call : SocketCall}

theorem step_vouched (plain : call.Plain network) (vouched : Vouched network scope)
    (stepped : (egressScope hostCase network allowlist).step scope call = some next) : Vouched network next := by
  cases call with
  | getaddrinfo host answer =>
    simp only [egressScope, if_neg (show host.shown ≠ "" from plain)] at stepped
    split at stepped <;> cases stepped
    · refine ⟨fun text member address parsed => ?_, fun _ old => mem_append_left _ (vouched.connected old)⟩
      rcases mem_append.mp member with old | new
      · exact mem_append_left _ (vouched.resolved text old address parsed)
      · exact mem_append_right _ (mem_filterMap.mpr ⟨text, (mem_filter.mp new).1, parsed⟩)
    · exact vouched
  | connect host =>
    obtain ⟨text, address, rfl, named, parsed⟩ := plain
    simp only [egressScope, network.connect_address text address parsed] at stepped
    split at stepped
    case isTrue allowed =>
      cases stepped
      simp only [checkConnectAllowed, HostArg.shown, beq_eq_false_iff_ne.mpr named, parsed] at allowed
      have resolved : text ∈ scope.resolvedIps := of_decide_eq_true allowed
      refine ⟨vouched.resolved, append_subset.mpr ⟨vouched.connected, ?_⟩⟩
      simpa using vouched.resolved text resolved address parsed
    · cases stepped
      exact vouched

/-- If every resolution names a host and every connect an address, the connections
of a scope go to addresses that permitted hostnames were resolved to. -/
theorem connections_vouched {calls : List SocketCall} (plain : ∀ call ∈ calls, call.Plain network)
    (ran : (egressScope hostCase network allowlist).run ⟨[], [], []⟩ calls = some scope) :
    scope.connections ⊆ scope.vouched := by
  have start : Vouched network ⟨[], [], []⟩ := ⟨by simp, by simp⟩
  exact (StepSystem.invariant step_vouched (.of_mem fun call member _ => plain call member) start ran).connected

def twoHosts : Network Nat where
  ipAddress
    | "192.0.2.1" => some 1
    | "192.0.2.2" => some 2
    | _ => none
  connect
    | .text "api.example" | .text "192.0.2.1" => some 1
    | .text "evil.example" | .text "192.0.2.2" => some 2
    | _ => none
  connect_address := by
    intro host address parsed
    split at parsed <;> cases parsed <;> rfl

def apiScope : StepSystem (EgressScope Nat) SocketCall := egressScope .ascii twoHosts ["api.example"]

theorem connections_vouched_api :
    ∃ scope, apiScope.run ⟨[], [], []⟩
        [.getaddrinfo (.text "api.example") ["192.0.2.1"], .connect (.text "192.0.2.1")] = some scope ∧
      scope.connections = [1] ∧ scope.connections ⊆ scope.vouched := by
  refine ⟨_, rfl, rfl, @connections_vouched _ .ascii twoHosts ["api.example"] _
    [.getaddrinfo (.text "api.example") ["192.0.2.1"], .connect (.text "192.0.2.1")] ?_ rfl⟩
  simp [SocketCall.Plain, HostArg.shown, twoHosts]

/-- A hostname is not an address: `connect` looks it up itself, past both guards. -/
theorem hostname_connected : apiScope.run ⟨[], [], []⟩ [.connect (.text "evil.example")] = some ⟨[], [], [2]⟩ := rfl

end AindyRuntime.Capability
