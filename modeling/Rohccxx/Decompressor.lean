import Rohccxx.DecodeIr
import Rohccxx.Feedback
import Rohccxx.Icv
import Rohccxx.Reconstruct

/-!
# The decompressor's handle and the state of a call

A call of `rohc_decompress4` works on the handle and on the caller's buffer in place. `Live` is what it can write to,
`Frame` what it fixes once the context of a unit is known. Octets of a rebuilt packet go straight to the caller's buffer
unless the call stages them; `finishDecoding` is the one place that takes context and mode back.
-/

set_option autoImplicit false

namespace Rohccxx

open Octets

/-! ## The handle -/

/-- `rohccxx_internal::Decompressor`; `reassembly` holds the octets collected so far. -/
structure Decompressor where
  mode : Mode := .optimistic
  contexts : ContextTable
  largeCidSpace : Bool
  lastFeedback : Feedback := {}
  acknowledgeContextRefresh : Bool := false
  hasFeedback : Bool := false
  mrru : Nat := 0
  reassemblyActive : Bool := false
  reassembly : Bytes := []
  expectedSegmentSequence : UInt16 := 0
  integrity : Option Integrity := none

namespace Decompressor

/-- `rohc_decomp_new2`. -/
def new2 (maxCid : Nat) : Option Decompressor :=
  if maxCid > Cid.largeCidMax then none
  else some { contexts := .init maxCid, largeCidSpace := maxCid > Cid.smallCidMax }

def setMode (decomp : Decompressor) (mode : Mode) : Decompressor := { decomp with mode := mode }

def setMrru (decomp : Decompressor) (mrru : Nat) : Option Decompressor :=
  if mrru > segmentBufferMax then none else some { decomp with mrru := mrru }

/-- `set_feedback`: the slot is filled for a CID, with the MSN its context has now. -/
def setFeedback (decomp : Decompressor) (cid : Nat) (type : FeedbackType) : Decompressor :=
  let feedback : Feedback := match decomp.contexts.get cid with
    | some ctx =>
      { cid := cid, type := type, acknowledgmentNumber := ctx.msn, acknowledgmentBits := 14
        acknowledgmentValid := true }
    | none => { cid := cid, type := type }
  { decomp with lastFeedback := feedback, hasFeedback := true }

/-- The octets collected so far; a first segment starts over. -/
def collected (decomp : Decompressor) : Bytes := if decomp.reassemblyActive then decomp.reassembly else []

/-- The sequence number the next segment must have. -/
def expectedSequence (decomp : Decompressor) : UInt16 :=
  if decomp.reassemblyActive then decomp.expectedSegmentSequence else 0

/-- Collected octets are dropped. -/
def dropReassembly (decomp : Decompressor) : Decompressor :=
  { decomp with reassemblyActive := false, reassembly := [] }

end Decompressor

/-! ## What a call can write to -/

/-- The handle, the caller's buffer and `*ip_packet_len`. -/
structure Live where
  handle : Decompressor
  out : Bytes
  outLen : Nat

/-- A return code and what the call has written by then. -/
abbrev Return := Int × Live

namespace Live

def setCtx (live : Live) (cid : Nat) (ctx : Context) : Live :=
  { live with handle := { live.handle with contexts := live.handle.contexts.set cid ctx } }

def setMode (live : Live) (mode : Mode) : Live := { live with handle := { live.handle with mode := mode } }

/-- `fail_with_feedback`. -/
def failWithFeedback (live : Live) (cid : Nat) : Return :=
  (-1, { live with handle := live.handle.setFeedback cid .nack })

end Live

/-! ## What a call fixes -/

/-- `max_reconstructed_ip_packet`. -/
def maxReconstructedIpPacket : Nat := 40 + 0xFFFF

/-- `before` is the context as the call found it, `ctx` the same with its labels written, `cap` the room for the packet,
`icv` what was taken off the end of the unit, `pending` the feedback nobody has read yet. -/
structure Frame where
  parsed : ParsedRohcPacket
  cid : Nat
  before : Context
  ctx : Context
  modeBefore : Mode
  largeCidSpace : Bool
  cap : Nat
  icv : Bytes
  integrity : Option Integrity
  pending : Option Feedback

namespace Frame

def packet (f : Frame) : Bytes := f.parsed.packet

/-- `stage_authenticated_output`. -/
def staged (f : Frame) : Bool := decide (0 < f.icv.length)

/-- The PT-0 gate on the context as the call found it. -/
def livePt0 (f : Frame) : Bool := livePt0ContextSupported f.before f.largeCidSpace f.cid f.parsed.hasAddCid

/-- Octets written through `reconstruction_packet`. -/
def writeReconstruction (staged : Bool) (live : Live) (octets : Bytes) : Live :=
  if staged then live else { live with out := overwrite live.out octets }

/-- `verify_rohcoipsec_icv(0)` on the rebuilt packet. -/
def verifyIcv (f : Frame) (live : Live) (octets : Bytes) : Return :=
  match f.integrity with
  | none => (0, live)
  | some integrity =>
    if f.icv.length = 0 then (0, live)
    else
      match computeIcv integrity.algorithm integrity.key octets f.icv.length with
      | none => live.failWithFeedback f.parsed.cid
      | some computed =>
        -- The source compares with a cleared array, so a short digest counts as padded with zeros.
        if (computed ++ List.replicate f.icv.length 0).take f.icv.length = f.icv then (0, live)
        else live.failWithFeedback f.parsed.cid

/-- A refresh of a formal profile is acknowledged when the handle asks for it; older feedback goes first. -/
def acknowledgeRefresh (f : Frame) (live : Live) : Live :=
  match live.handle.contexts.get f.cid with
  | none => live
  | some ctx =>
    if (f.parsed.type = .ir ∨ f.parsed.type = .irDyn) ∧ profileUsesFormalPt0 ctx.profile ∧
        live.handle.acknowledgeContextRefresh then
      match f.pending with
      | some feedback => { live with handle := { live.handle with lastFeedback := feedback, hasFeedback := true } }
      | none => { live with handle := live.handle.setFeedback f.cid .ack }
    else live

/-- `finish_decoding`: take back context and mode, or hand the packet over. -/
def finishDecoding (f : Frame) (staged : Bool) (octets : Bytes) (ret : Return) : Return :=
  if ret.1 ≠ 0 then (ret.1, (ret.2.setCtx f.cid f.before).setMode f.modeBefore)
  else
    let live := if staged then { ret.2 with out := overwrite ret.2.out octets } else ret.2
    (0, f.acknowledgeRefresh { live with outLen := octets.length })

/-- `return finish_decoding(fail_with_feedback(cid))`. -/
def fail (f : Frame) (live : Live) : Return := f.finishDecoding f.staged [] (live.failWithFeedback f.cid)

/-- The rebuilt octets written, checked against the ICV and handed over. -/
def deliver (f : Frame) (live : Live) (octets : Bytes) : Return :=
  let live := writeReconstruction f.staged live octets
  f.finishDecoding f.staged octets (f.verifyIcv live octets)

/-- The tail of every fixed-header path: room first, then context, mode and octets. -/
def commit (f : Frame) (live : Live) (ctx : Context) (octets : Bytes) : Return :=
  if f.cap < octets.length then f.fail live
  else f.deliver ((live.setCtx f.cid ctx).setMode ctx.mode) octets

end Frame

end Rohccxx
