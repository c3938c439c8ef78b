/-
Ipmx.Host.Addresses — the addresses of the sender's host: `parse_ipv4`,
`resolve_ipv4_source_address` and `local_mac_reference` of `udp_multicast.cpp`.

What the system answers is `Windows`. A call that fails there throws with a text of
the system, which is part of the answer. Addresses are the 32-bit numbers of
`in_addr`.
-/
import Ipmx.Host.Arguments
import Ipmx.Sdp.TextTheorems

namespace Ipmx.Host

open Ipmx.Lib
open Sdp

/-- The clock reference of an EUI-48. -/
def macText (physicalAddress : Bytes) : Bytes :=
  ascii "localmac=" ++ (ascii "-").intercalate (physicalAddress.map hexByte)

/-- What `GetAdaptersAddresses` tells of an adapter: whether it is up, its physical address, and
its IPv4 unicast addresses. -/
structure Adapter where
  operStatusUp : Bool
  physicalAddress : Bytes
  unicastAddresses : List UInt32
deriving DecidableEq, Repr

/-- What the system answers. `inetPton` and `inetNtop` are `InetPtonA` and `InetNtopA` for IPv4;
`sourceAddress` is the local address of a socket that was connected to a destination; `adapters`
is `none` if they cannot be enumerated. -/
structure Windows where
  inetPton : Bytes → Option UInt32
  inetNtop : UInt32 → Bytes
  sourceAddress : UInt32 → UInt16 → Except Bytes UInt32
  adapters : Option (List Adapter)

namespace Windows

variable (windows : Windows)

def parseIpv4 (address : Bytes) : Except Stop UInt32 :=
  match windows.inetPton address with
  | some result => .ok result
  | none => .error (.thrown (ascii "invalid IPv4 address: " ++ address))

/-- An interface address other than 0.0.0.0 is the source address itself. -/
def resolveIpv4SourceAddress (destinationAddress : Bytes) (destinationPort : UInt16)
    (interfaceAddress : Bytes) : Except Stop Bytes := do
  let requested ← windows.parseIpv4 interfaceAddress
  if requested ≠ 0 then return interfaceAddress
  let destination ← windows.parseIpv4 destinationAddress
  let source ← (windows.sourceAddress destination destinationPort).mapError .thrown
  return windows.inetNtop source

/-! ## `local_mac_reference` -/

/-- The adapter that is selected: the first one that is up, has an EUI-48 and the address. -/
def selectAdapter (requested : UInt32) (adapters : List Adapter) : Option Adapter :=
  adapters.find? fun adapter =>
    adapter.operStatusUp && adapter.physicalAddress.length = 6
      && (requested = 0 || adapter.unicastAddresses.contains requested)

def localMacReference (interfaceAddress : Bytes) : Except Stop Bytes := do
  let requested ← windows.parseIpv4 interfaceAddress
  match windows.adapters with
  | none => throw (.text "cannot enumerate network interfaces")
  | some adapters =>
    match selectAdapter requested adapters with
    | none => throw (.text "no active EUI-48 interface matches --interface")
    | some adapter => return macText adapter.physicalAddress

end Windows

/-! ## The clock reference -/

theorem intercalate_plain {separator : Bytes} (hseparator : Plain separator) {tokens : List Bytes}
    (htokens : ∀ token ∈ tokens, Plain token) : Plain (separator.intercalate tokens) := by
  intro b hb
  rcases mem_of_mem_intercalate hb with h | ⟨token, htoken, h⟩
  · exact hseparator b h
  · exact htokens token htoken b h

theorem length_macText {physicalAddress : Bytes} (h : physicalAddress.length = 6) :
    (macText physicalAddress).length = 26 := by
  match physicalAddress, h with
  | [a, b, c, d, e, f], _ => rfl

/-- The clock reference of an adapter is a plain text of 26 bytes. -/
theorem Windows.localMacReference_ok {windows : Windows} {interfaceAddress reference : Bytes}
    (h : windows.localMacReference interfaceAddress = .ok reference) :
    Plain reference ∧ reference.length = 26 := by
  unfold localMacReference at h
  obtain ⟨requested, _, h⟩ := bind_eq_ok.mp h
  split at h
  · cases h
  · split at h
    · cases h
    · next adapter hselected =>
      obtain rfl := Except.ok.inj h
      have hlength : adapter.physicalAddress.length = 6 := by
        have hfound := List.find?_some hselected
        simp only [Bool.and_eq_true, decide_eq_true_eq] at hfound
        exact hfound.1.2
      refine ⟨?_, length_macText hlength⟩
      refine Plain.append (by decide) (intercalate_plain (by decide) ?_)
      intro token htoken
      obtain ⟨b, _, rfl⟩ := List.mem_map.mp htoken
      exact plain_hexByte b

/-! ## The source address -/

/-- A dotted-decimal text. -/
def Dotted (text : Bytes) : Prop :=
  text ≠ [] ∧ ∀ b ∈ text, isDigit b = true ∨ b = asciiByte '.'

instance (text : Bytes) : Decidable (Dotted text) := inferInstanceAs (Decidable (_ ∧ _))

theorem Dotted.not_mem {text : Bytes} (h : Dotted text) {b : UInt8} (hdigit : isDigit b = false)
    (hdot : b ≠ asciiByte '.') : b ∉ text := by
  intro hmem
  rcases h.2 b hmem with hb | hb
  · rw [hdigit] at hb
    cases hb
  · exact hdot hb

/-- `InetPtonA` takes dotted-decimal texts only, and `InetNtopA` writes them. -/
structure Windows.DottedDecimal (windows : Windows) : Prop where
  pton : ∀ text address, windows.inetPton text = some address → Dotted text
  ntop : ∀ address, Dotted (windows.inetNtop address)

theorem dotted_of_resolveIpv4SourceAddress {windows : Windows} (hdotted : windows.DottedDecimal)
    {destination : Bytes} {port : UInt16} {interfaceAddress source : Bytes}
    (h : windows.resolveIpv4SourceAddress destination port interfaceAddress = .ok source) :
    Dotted source := by
  unfold Windows.resolveIpv4SourceAddress at h
  obtain ⟨requested, hrequested, h⟩ := bind_eq_ok.mp h
  split at h
  · obtain rfl := Except.ok.inj h
    unfold Windows.parseIpv4 at hrequested
    split at hrequested
    · next address haddress => exact hdotted.pton _ _ haddress
    · cases hrequested
  · obtain ⟨_, _, h⟩ := bind_eq_ok.mp h
    obtain ⟨_, _, h⟩ := bind_eq_ok.mp h
    obtain rfl := Except.ok.inj h
    exact hdotted.ntop _

end Ipmx.Host
