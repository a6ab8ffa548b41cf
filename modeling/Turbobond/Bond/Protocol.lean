import Turbobond.Util.Crypto
import Mathlib.Data.Nat.Bitwise

/-!
# Wire format of the bonding tunnel

The codec and the replay window of `turbobond/bond/protocol.py`.  A datagram is a header of
20 bytes, authenticated as associated data, and the sealed sequence number and payload.
-/

namespace Turbobond.Bond

open Util

/-- `turbobond/version.py`. -/
def protocolVersion : ℕ := 1

/-- `MAGIC`, the bytes `TB`. -/
def magic : Bytes := [0x54, 0x42]

def headerLen : ℕ := 20
def seqLen : ℕ := 8
def tagLen : ℕ := 16
/-- Largest inner IP packet a datagram carries. -/
def maxPayload : ℕ := 1600
def maxDatagram : ℕ := headerLen + seqLen + maxPayload + tagLen

inductive FrameType where
  | data
  | keepalive
  | handshake
  | handshakeAck
  | linkStats
  | close
  deriving DecidableEq, Repr

namespace FrameType

def toNat : FrameType → ℕ
  | data => 1
  | keepalive => 2
  | handshake => 3
  | handshakeAck => 4
  | linkStats => 5
  | close => 6

/-- `FrameType(raw_type)`. -/
def ofNat? : ℕ → Option FrameType
  | 1 => some data
  | 2 => some keepalive
  | 3 => some handshake
  | 4 => some handshakeAck
  | 5 => some linkStats
  | 6 => some close
  | _ => none

@[simp] lemma ofNat?_toNat (t : FrameType) : ofNat? t.toNat = some t := by cases t <;> rfl

lemma toNat_of_ofNat? {n : ℕ} {t : FrameType} (h : ofNat? n = some t) : n = t.toNat := by
  match n, h with
  | 1, h | 2, h | 3, h | 4, h | 5, h | 6, h => obtain rfl := Option.some.inj h; rfl

lemma toNat_lt (t : FrameType) : t.toNat < 256 := by cases t <;> decide

end FrameType

/-- A tunnel datagram's contents: what `decode_frame` returns, and what `encode_frame` is
asked to seal. -/
structure Frame where
  type : FrameType
  sessionId : ℕ
  linkId : ℕ
  counter : ℕ
  seq : ℕ := 0
  payload : Bytes := []
  deriving DecidableEq, Repr

/-- The frame with every number cut down to its field's width. -/
def Frame.masked (f : Frame) : Frame :=
  { f with
    sessionId := f.sessionId % 2 ^ 32
    linkId := f.linkId % 2 ^ 32
    counter := f.counter % 2 ^ 64
    seq := f.seq % 2 ^ 64 }

/-- `pack_header`. -/
def packHeader (frameType : FrameType) (sessionId linkId counter : ℕ) : Bytes :=
  magic ++ Bytes.toBE 1 protocolVersion ++ Bytes.toBE 1 frameType.toNat ++
    Bytes.toBE 4 (sessionId % 2 ^ 32) ++ Bytes.toBE 4 (linkId % 2 ^ 32) ++
    Bytes.toBE 8 (counter % 2 ^ 64)

/-- `parse_header`: type, session id, link id and counter.  The version it also returns is
always the one it has checked for. -/
def parseHeader (data : Bytes) : Except PyError (FrameType × ℕ × ℕ × ℕ) :=
  if data.length < headerLen then
    .error (.bond s!"datagram too short: {data.length} < {headerLen}")
  else if data.take 2 ≠ magic then
    .error (.bond "bad magic; not a turbobond datagram")
  else
    let version := Bytes.ofBE ((data.drop 2).take 1)
    let rawType := Bytes.ofBE ((data.drop 3).take 1)
    if version ≠ protocolVersion then
      .error (.bond s!"unsupported protocol version {version} (expected {protocolVersion})")
    else
      match FrameType.ofNat? rawType with
      | none => .error (.bond s!"unknown frame type {rawType}")
      | some frameType =>
        .ok (frameType, Bytes.ofBE ((data.drop 4).take 4), Bytes.ofBE ((data.drop 8).take 4),
          Bytes.ofBE ((data.drop 12).take 8))

/-- `encode_frame`. -/
def encodeFrame (sealer : Sealer) (f : Frame) : Except PyError Bytes := do
  if f.payload.length > maxPayload then
    throw (.bond s!"payload of {f.payload.length} bytes exceeds the {maxPayload} byte limit")
  let header := packHeader f.type f.sessionId f.linkId f.counter
  let plaintext := Bytes.toBE 8 (f.seq % 2 ^ 64) ++ f.payload
  let ciphertext ← sealer.seal plaintext f.linkId f.counter header
  return header ++ ciphertext

/-- `decode_frame`: `none` if the datagram is not genuine. -/
def decodeFrame (sealer : Sealer) (data : Bytes) : Option Frame :=
  match parseHeader data with
  | .error _ => none
  | .ok (frameType, sessionId, linkId, counter) =>
    let header := data.take headerLen
    let ciphertext := data.drop headerLen
    if ciphertext.length < seqLen + tagLen then none
    else
      match sealer.open ciphertext linkId counter header with
      | none => none
      | some plaintext =>
        if plaintext.length < seqLen then none
        else
          some { type := frameType, sessionId, linkId, counter
                 seq := Bytes.ofBE (plaintext.take seqLen), payload := plaintext.drop seqLen }

/-- Sliding window that rejects replayed or badly stale counters.  Bit `i` of the bitmap
stands for the counter `highest - i`. -/
structure ReplayWindow where
  size : ℕ := 4096
  highest : ℕ := 0
  bitmap : ℕ := 0
  deriving DecidableEq, Repr

/-- `check_and_update`: whether the counter is fresh; it is recorded as seen. -/
def ReplayWindow.checkAndUpdate (w : ReplayWindow) (counter : ℕ) : Bool × ReplayWindow :=
  if counter = 0 then (false, w)
  else if counter > w.highest then
    let shift := counter - w.highest
    let bitmap :=
      if shift ≥ w.size then 1
      else ((w.bitmap <<< shift) ||| 1) &&& ((1 <<< w.size) - 1)
    (true, { w with bitmap, highest := counter })
  else
    let offset := w.highest - counter
    if offset ≥ w.size then (false, w)
    else
      let mask := 1 <<< offset
      if w.bitmap &&& mask ≠ 0 then (false, w)
      else (true, { w with bitmap := w.bitmap ||| mask })

end Turbobond.Bond
