import GatedRelay.Expr.Library
import GatedRelay.Proofs.AddressTexts
import GatedRelay.Proofs.HostPorts
import GatedRelay.Web.Request

/-!
# Addresses of peers

A request that comes from a peer is taken up with the host of the peer's address. The host is an
address again unless a scope is written after it.
-/

namespace GatedRelay

open GatedRelay.Numeral (decimal)

namespace PeerAddress

def scope : PeerAddress → UInt32
  | v4 _ _ => 0
  | v6 _ scope _ => scope

/-- What is written after an address: nothing, or a scope other than zero. -/
def scopeText (p : PeerAddress) : List Char :=
  if p.scope = 0 then [] else '%' :: decimal p.scope.toNat

lemma scopeText_eq_nil_iff {p : PeerAddress} : p.scopeText = [] ↔ p.scope = 0 := by
  rw [scopeText]
  split <;> simp_all

lemma mem_scopeText {p : PeerAddress} {c : Char} (hc : c ∈ p.scopeText) :
    Numeral.isDigit c = true ∨ c = '%' := by
  rw [scopeText] at hc
  split at hc
  · cases hc
  · rcases List.mem_cons.mp hc with hc | hc
    · exact .inr hc
    · exact .inl (Numeral.isDigit_of_mem_decimal hc)

lemma endsGroups_scopeText (p : PeerAddress) : IpAddress.EndsGroups p.scopeText := by
  rw [scopeText]
  split
  · exact .nil
  · exact .other _ rfl (by decide) (by decide)

end PeerAddress

/-! ### Hosts -/

namespace HostPort

open GatedRelay.IpAddress (textV4 textV6)

lemma colon_notMem_decimal (n : Nat) : ':' ∉ decimal n := by
  intro hmem
  exact absurd (Numeral.isDigit_of_mem_decimal hmem) (by decide)

lemma notMem_textV4 {bits : BitVec 32} {c : Char} (hhex : IpAddress.isHexDigit c = false)
    (hpoint : c ≠ '.') : c ∉ textV4 bits := by
  intro hmem
  rcases IpAddress.mem_textV4 hmem with hc | hc
  · exact absurd hc (by simp [hhex])
  · exact hpoint hc

lemma textV6_ne_nil (bits : BitVec 128) : textV6 bits ≠ [] := by
  intro hnil
  have hparse := IpAddress.parse?_textV6_append bits .nil
  rw [hnil] at hparse
  cases hparse

lemma isPeer_textV4 (bits : BitVec 32) (port : UInt16) :
    IsPeer (PeerAddress.v4 bits port).text (textV4 bits) := by
  have hcolon : ':' ∉ textV4 bits := notMem_textV4 rfl (by decide)
  have hopen : '[' ∉ textV4 bits := notMem_textV4 rfl (by decide)
  have hclose : ']' ∉ textV4 bits := notMem_textV4 rfl (by decide)
  exact .inl ⟨_, rfl, hcolon, hopen, hclose, colon_notMem_decimal _⟩

lemma isPeer_textV6 (bits : BitVec 128) (scope : UInt32) (port : UInt16) :
    IsPeer (PeerAddress.v6 bits scope port).text
      (textV6 bits ++ (PeerAddress.v6 bits scope port).scopeText) := by
  have hclose : ']' ∉ textV6 bits ++ (PeerAddress.v6 bits scope port).scopeText := by
    intro hmem
    rcases List.mem_append.mp hmem with hmem | hmem
    · rcases IpAddress.mem_textV6 hmem with hc | hc | hc <;> exact absurd hc (by decide)
    · rcases PeerAddress.mem_scopeText hmem with hc | hc <;> exact absurd hc (by decide)
  refine .inr ⟨_, rfl, ?_, hclose, colon_notMem_decimal _⟩
  simp [textV6_ne_nil]

/-- The host of a peer's address is its IP address, with the scope if there is one. -/
lemma host?_text (p : PeerAddress) : host? p.text = some (p.ip.text ++ p.scopeText) := by
  rw [host?_eq_some_iff]
  cases p with
  | v4 bits port =>
    have hpeer := isPeer_textV4 bits port
    rw [← List.append_nil (textV4 bits)] at hpeer
    exact hpeer
  | v6 bits scope port => exact isPeer_textV6 bits scope port

end HostPort

/-! ### Origins -/

namespace RequestContext

variable {r : Request} {now : Int}

lemma split?_of_build {c : RequestContext} (h : build r now = .ok c) :
    HostPort.split? r.remoteAddr = some c.originIp := by
  obtain ⟨_, _, _, hip, -, -, -, rfl⟩ := build_eq_ok_iff.mp h
  exact hip

lemma readBody_ne_badPeer (kind : BodyKind) (body : Bytes) (addr : String) :
    readBody kind body ≠ .error (.badPeer addr) := by
  unfold readBody
  split
  · simp
  · split <;> simp
  · split <;> simp

lemma build_ne_badPeer {ip : String} (h : HostPort.split? r.remoteAddr = some ip)
    (addr : String) : build r now ≠ .error (.badPeer addr) := by
  unfold build
  rw [h]
  dsimp only
  split_ifs
  · simp
  · simp
  · split
    · next e he =>
      intro heq
      cases heq
      exact readBody_ne_badPeer _ _ _ he
    · simp

end RequestContext

/-! ### Ranges -/

lemma parse?_host (p : PeerAddress) :
    IpAddress.parse? (p.ip.text ++ p.scopeText) = if p.scope = 0 then some p.ip else none := by
  cases p with
  | v4 bits port =>
    have hparse := IpAddress.parse?_textV4 bits
    rw [← List.append_nil (IpAddress.textV4 bits)] at hparse
    exact hparse
  | v6 bits scope port =>
    have hparse := IpAddress.parse?_textV6_append bits
      (PeerAddress.endsGroups_scopeText (.v6 bits scope port))
    simp only [PeerAddress.scopeText_eq_nil_iff] at hparse
    exact hparse

/-- Whatever the range is, a test fails on its address if and only if the text is none. -/
lemma rangeTest_eq_badAddress_iff {addr range : String} :
    Expr.Library.rangeTest addr range = .refused (.badAddress addr) ↔
      IpAddress.parse? addr.toList = none := by
  rw [Expr.Library.rangeTest]
  cases IpAddress.parse? addr.toList with
  | none => simp
  | some ip =>
    cases IpRange.parse? range.toList with
    | none => simp
    | some range => simp

/-- A request from a peer is taken up with the text of its address as far as that goes, and tests
of the origin fail on it for peers with a scope. -/
theorem origin_of_peer (p : PeerAddress) (r : Request) (now : Int) (time : Expr.Moment)
    (range : String) :
    let request := { r with remoteAddr := String.ofList p.text }
    let ip := String.ofList (p.ip.text ++ p.scopeText)
    (∀ addr, RequestContext.build request now ≠ .error (.badPeer addr)) ∧
    (∀ c, RequestContext.build request now = .ok c → c.originIp = ip) ∧
    IpAddress.parse? ip.toList = (if p.scope = 0 then some p.ip else none) ∧
    (Expr.Library.apply time .ipInRange [.string ip, .string range] = .refused (.badAddress ip) ↔
      p.scope ≠ 0) := by
  intro request ip
  have hsplit : HostPort.split? request.remoteAddr = some ip := by
    rw [HostPort.split?, String.toList_ofList, HostPort.host?_text]
    rfl
  have hparse : IpAddress.parse? ip.toList = if p.scope = 0 then some p.ip else none := by
    rw [String.toList_ofList, parse?_host]
  refine ⟨RequestContext.build_ne_badPeer hsplit, fun c hc => ?_, hparse, ?_⟩
  · have horigin := RequestContext.split?_of_build hc
    rw [hsplit] at horigin
    exact (Option.some.inj horigin).symm
  · rw [Expr.Library.apply, rangeTest_eq_badAddress_iff, hparse]
    simp

/-- The origin of a link-local peer is no address, and no range can be tested for it. -/
theorem origin_with_scope :
    let p := PeerAddress.v6 0xfe800000000000000000000000000001 3 4000
    HostPort.split? (String.ofList p.text) = some "fe80::1%3" ∧
      IpAddress.parse? "fe80::1%3".toList = none ∧
      Expr.Library.apply (0 : Int) .ipInRange [.string "fe80::1%3", .string "fe80::/10"] =
        .refused (.badAddress "fe80::1%3") := by
  intro p
  have htext : p.ip.text ++ p.scopeText = "fe80::1%3".toList := by decide +kernel
  have hparse : IpAddress.parse? "fe80::1%3".toList = none := by
    rw [← htext, parse?_host]
    rfl
  refine ⟨?_, hparse, ?_⟩
  · rw [HostPort.split?, String.toList_ofList, HostPort.host?_text, htext, Option.map_some,
      String.ofList_toList]
  · rw [Expr.Library.apply]
    exact rangeTest_eq_badAddress_iff.mpr hparse

end GatedRelay
