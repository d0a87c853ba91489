import Rohccxx.Chains

/-!
# Parsing and capturing packets

`protocols/*.hpp`, `core/classify.hpp` and the capture functions of the C API: the IP header views, the choice of a
profile, and copying header fields into a context. A header view is a window on the packet, so fields are read at their
offsets; every read stands behind the length check the source makes.
-/

set_option autoImplicit false

namespace Rohccxx

open Octets

def u8At (bs : Bytes) (i : Nat) : UInt8 := bs.getD i 0

@[simp] theorem u8At_cons_zero (b : UInt8) (bs : Bytes) : u8At (b :: bs) 0 = b := rfl

@[simp] theorem u8At_cons_succ (b : UInt8) (bs : Bytes) (i : Nat) : u8At (b :: bs) (i + 1) = u8At bs i := rfl

theorem u8At_append_length (front : Bytes) (b : UInt8) (rest : Bytes) : u8At (front ++ b :: rest) front.length = b := by
  simp [u8At]

def u16At (bs : Bytes) (i : Nat) : UInt16 := ofBe16 (u8At bs i) (u8At bs (i + 1))

def u32At (bs : Bytes) (i : Nat) : UInt32 := ofBe32 (u8At bs i) (u8At bs (i + 1)) (u8At bs (i + 2)) (u8At bs (i + 3))

theorem u8At_drop (bs : Bytes) (n i : Nat) : u8At (bs.drop n) i = u8At bs (n + i) := by simp [u8At]

theorem u16At_drop (bs : Bytes) (n i : Nat) : u16At (bs.drop n) i = u16At bs (n + i) := by
  simp only [u16At, u8At_drop, Nat.add_assoc]

theorem u32At_drop (bs : Bytes) (n i : Nat) : u32At (bs.drop n) i = u32At bs (n + i) := by
  simp only [u32At, u8At_drop, Nat.add_assoc]

/-! ## IPv4 and IPv6 -/

namespace Ipv4

/-- MF or a fragment offset; the reserved flag is left out on purpose. -/
def isFragmented (flagsFragment : UInt16) : Bool := flagsFragment &&& 0x3FFF ≠ 0

/-- `ipv4::parse`: the header length. -/
def parse (data : Bytes) : Option Nat :=
  if data.length < 20 then none
  else
    let vihl := u8At data 0
    if vihl >>> 4 ≠ 4 then none
    else
      let headerLen := (vihl &&& 0x0F).toNat * 4
      if headerLen < 20 ∨ headerLen > data.length then none else some headerLen

end Ipv4

namespace Ipv6

def isExtensionHeader (nextHeader : UInt8) : Bool :=
  nextHeader = 0 || nextHeader = 43 || nextHeader = 44 || nextHeader = 60

def extensionHeaderLen (data : Bytes) (nextHeader : UInt8) : Option Nat :=
  if nextHeader = 44 then if data.length ≥ 8 then some 8 else none
  else if data.length < 2 then none
  else
    let headerLen := ((u8At data 1).toNat + 1) * 8
    if data.length ≥ headerLen then some headerLen else none

/-- The extension header loop of `ipv6::parse`: the terminal protocol and the length of all extension headers. Every
round takes at least eight octets, so as many rounds as octets are enough. -/
def parseExtensions : Nat → UInt8 → Bytes → Option (UInt8 × Nat)
  | 0, _, _ => none
  | fuel + 1, next, data =>
    if !isExtensionHeader next then some (next, 0)
    else do
      let extLen ← extensionHeaderLen data next
      let (terminal, len) ← parseExtensions fuel (u8At data 0) (data.drop extLen)
      return (terminal, extLen + len)

structure View where
  headerLen : Nat
  terminalNextHeader : UInt8
  extensionLen : Nat

def parse (data : Bytes) : Option View :=
  if data.length < 40 then none
  else if u8At data 0 >>> 4 ≠ 6 then none
  else
    let totalLen := 40 + (u16At data 4).toNat
    if totalLen > data.length then none
    else do
      let upper := (data.take totalLen).drop 40
      let (terminal, extensionLen) ← parseExtensions (upper.length + 1) (u8At data 6) upper
      return ⟨40 + extensionLen, terminal, extensionLen⟩

end Ipv6

/-! ## UDP, RTP and the choice of a profile -/

/-- `udp::parse` at an offset. -/
def udpFits (pkt : Bytes) (offset : Nat) : Bool := offset + 8 ≤ pkt.length

/-- `rtp::parse` at an offset: twelve octets and version 2. -/
def rtpFits (pkt : Bytes) (offset : Nat) : Bool := offset + 12 ≤ pkt.length && u8At pkt offset >>> 6 = 2

/-- `ParsedIpView`. -/
structure ParsedIpView where
  isIpv6 : Bool
  headerLen : Nat
  extensionLen : Nat
  terminalProtocol : UInt8
deriving DecidableEq, Repr

def parseIpView (packet : Bytes) : Option ParsedIpView :=
  match Ipv4.parse packet with
  | some headerLen => some ⟨false, headerLen, 0, u8At packet 9⟩
  | none =>
    match Ipv6.parse packet with
    | some view => some ⟨true, view.headerLen, view.extensionLen, view.terminalNextHeader⟩
    | none => none

/-- `classify_packet` behind the IP header. -/
def classifyTransport (pkt : Bytes) (transport : Nat) (protocol : UInt8) : Profile :=
  if protocol = 17 then
    if !udpFits pkt transport then .uncompressed else if rtpFits pkt (transport + 8) then .rtp else .udp
  else if protocol = 50 then .esp
  else if protocol = 136 then
    if !udpFits pkt transport then .uncompressed
    else if rtpFits pkt (transport + 8) then .rtpUdpLite else .udpLite
  else .ip

def classifyPacket (pkt : Bytes) : Profile :=
  match Ipv4.parse pkt with
  | some ipHlen =>
    if Ipv4.isFragmented (u16At pkt 6) then .uncompressed else classifyTransport pkt ipHlen (u8At pkt 9)
  | none =>
    match Ipv6.parse pkt with
    | some view => classifyTransport pkt view.headerLen view.terminalNextHeader
    | none => .uncompressed

/-! ## Capturing header fields -/

/-- `capture_ipv4_options`; `none` stands for a list that does not fit, the context then stays. -/
def captureIpv4Options (ctx : Context) (packet : Bytes) (ipHlen : Nat) : Option Context :=
  if ipHlen < 20 then none
  else
    let optionsLen := ipHlen - 20
    if optionsLen > 40 ∨ optionsLen % 4 ≠ 0 then none
    else some { ctx with ipv4OptionsLen := optionsLen, ipv4Options := fillCopy 40 ((packet.drop 20).take optionsLen) }

def captureIpv4 (ctx : Context) (packet : Bytes) : Context :=
  { ctx with
    ipv4Tos := u8At packet 1, ipv4Ttl := u8At packet 8, ipv4Id := u16At packet 4
    ipv4Flags := ((u16At packet 6 >>> 13) &&& 0x07).toUInt8
    ipv4Saddr := u32At packet 12, ipv4Daddr := u32At packet 16
    ipv4IdBehavior := if u16At packet 4 = 0 then 3 else 2, ipv4IdSequential := false }

def captureIpv6 (ctx : Context) (packet : Bytes) : Context :=
  let firstWord := u32At packet 0
  { ctx with
    ipv6TrafficClass := (firstWord >>> 20).toUInt8, ipv6FlowLabel := firstWord &&& 0x000FFFFF
    ipv6NextHeader := u8At packet 6, ipv6HopLimit := u8At packet 7
    ipv6Saddr := fillCopy 16 ((packet.drop 8).take 16), ipv6Daddr := fillCopy 16 ((packet.drop 24).take 16) }

/-- `capture_ip_context`: whether it succeeds, and the context as it is then, written in place. -/
def captureIpContext (ctx : Context) (packet : Bytes) (view : ParsedIpView) : Bool × Context :=
  let ctx := { ctx with
    ipVersion := if view.isIpv6 then 6 else 4, ipv4Protocol := view.terminalProtocol
    ipv4OptionsLen := 0, ipv4Options := Vector.replicate 40 0
    ipv6ExtensionLen := 0, ipv6Extensions := Vector.replicate 128 0 }
  if !view.isIpv6 then
    let ctx := captureIpv4 ctx packet
    match captureIpv4Options ctx packet view.headerLen with
    | some ctx => (true, ctx)
    | none => (false, ctx)
  else
    let ctx := captureIpv6 ctx packet
    if view.extensionLen > 128 then (false, ctx)
    else (true, { ctx with
      ipv6ExtensionLen := view.extensionLen
      ipv6Extensions := fillCopy 128 ((packet.drop 40).take view.extensionLen) })

/-- `RtpPayloadView`. -/
structure RtpPayloadView where
  payloadOffset : Nat
  payloadLen : Nat
deriving DecidableEq, Repr

/-- The CSRC list, the header extension and the padding of an RTP packet, taken into a cleared record; failure keeps
what was taken so far. -/
def captureRtpExtras (rtp : RtpContext) (rtpPacket : Bytes) : Option RtpPayloadView × RtpContext :=
  let csrcLen := (u8At rtpPacket 0 &&& 0x0F).toNat * 4
  if rtpPacket.length < 12 + csrcLen ∨ csrcLen > 60 then (none, rtp)
  else
    let rtp := { rtp with csrcListLen := csrcLen, csrcList := fillCopy 60 ((rtpPacket.drop 12).take csrcLen) }
    let pos := 12 + csrcLen
    let extensionLen :=
      if u8At rtpPacket 0 &&& 0x10 ≠ 0 then 4 + (u16At rtpPacket (pos + 2)).toNat * 4 else 0
    if u8At rtpPacket 0 &&& 0x10 ≠ 0 ∧
        (rtpPacket.length < pos + 4 ∨ extensionLen > 256 ∨ rtpPacket.length < pos + extensionLen) then (none, rtp)
    else
      let rtp := { rtp with
        extensionLen := extensionLen, extensionBytes := fillCopy 256 ((rtpPacket.drop pos).take extensionLen) }
      let pos := pos + extensionLen
      let paddingLen := if u8At rtpPacket 0 &&& 0x20 ≠ 0 then (u8At rtpPacket (rtpPacket.length - 1)).toNat else 0
      if u8At rtpPacket 0 &&& 0x20 ≠ 0 ∧ (paddingLen = 0 ∨ paddingLen > 255 ∨ paddingLen > rtpPacket.length - pos) then
        (none, rtp)
      else
        let rtp := { rtp with
          paddingLen := paddingLen, paddingBytes := fillCopy 255 (rtpPacket.drop (rtpPacket.length - paddingLen)) }
        (some ⟨pos, rtpPacket.length - pos - paddingLen⟩, rtp)

/-- `capture_rtp_context`. The final consistency check is made against the first RTP octet of the context, whatever
packet it came from. -/
def captureRtpContext (ctx : Context) (rtpPacket : Bytes) : Option RtpPayloadView × Context :=
  if rtpPacket.length < 12 then (none, ctx)
  else
    match captureRtpExtras ctx.rtp.clearExtras rtpPacket with
    | (some view, rtp) => (if (rtpExtrasBodyLen rtp).isSome then some view else none, { ctx with rtp := rtp })
    | (none, rtp) => (none, { ctx with rtp := rtp })

end Rohccxx
