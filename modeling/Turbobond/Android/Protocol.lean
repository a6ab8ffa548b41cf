import Turbobond.Bond.Codec

/-!
# The wire format on Android

The codec of `Protocol.kt` and `Crypto.kt` of the Android client, and that it is the one of
`turbobond/bond/protocol.py`.  An `Int` is a bit vector of 32 bits and a `Long` one of 64;
a signed value stands for its bit pattern.  The cipher is the one of both ends.
-/

namespace Turbobond.Android

open Util

inductive FrameType where
  | data
  | keepalive
  | handshake
  | handshakeAck
  | linkStats
  | close
  deriving DecidableEq, Repr

namespace FrameType

def value : FrameType → BitVec 32
  | data => 1
  | keepalive => 2
  | handshake => 3
  | handshakeAck => 4
  | linkStats => 5
  | close => 6

def entries : List FrameType := [data, keepalive, handshake, handshakeAck, linkStats, close]

/-- `fromValue`. -/
def fromValue (value : BitVec 32) : Option FrameType :=
  entries.find? fun type => type.value = value

/-- The frame type of the same name in `protocol.py`. -/
def toBond : FrameType → Bond.FrameType
  | data => .data
  | keepalive => .keepalive
  | handshake => .handshake
  | handshakeAck => .handshakeAck
  | linkStats => .linkStats
  | close => .close

end FrameType

structure Frame where
  type : FrameType
  sessionId : BitVec 32
  linkId : BitVec 32
  counter : BitVec 64
  seq : BitVec 64
  payload : Bytes
  deriving DecidableEq

/-- The frame with its numbers read as unsigned. -/
def Frame.toBond (f : Frame) : Bond.Frame :=
  { type := f.type.toBond
    sessionId := f.sessionId.toNat
    linkId := f.linkId.toNat
    counter := f.counter.toNat
    seq := f.seq.toNat
    payload := f.payload }

/-! ### `java.nio.ByteBuffer`, big endian -/

/-- `(x ushr shift).toByte()`. -/
def byteAt {w : ℕ} (x : BitVec w) (shift : ℕ) : UInt8 := ⟨(x >>> shift).setWidth 8⟩

def putInt (x : BitVec 32) : Bytes := [byteAt x 24, byteAt x 16, byteAt x 8, byteAt x 0]

def putLong (x : BitVec 64) : Bytes :=
  [byteAt x 56, byteAt x 48, byteAt x 40, byteAt x 32, byteAt x 24, byteAt x 16, byteAt x 8,
    byteAt x 0]

/-- `getInt` at a position. -/
def getInt (data : Bytes) (position : ℕ) : BitVec 32 :=
  BitVec.ofNat 32 (Bytes.ofBE ((data.drop position).take 4))

/-- `getLong` at a position. -/
def getLong (data : Bytes) (position : ℕ) : BitVec 64 :=
  BitVec.ofNat 64 (Bytes.ofBE ((data.drop position).take 8))

/-! ### `Sealer` -/

/-- `Sealer.nonce`. -/
def nonce (linkId : BitVec 32) (counter : BitVec 64) : Bytes :=
  (List.range 4).map (fun i => byteAt linkId (8 * (3 - i))) ++
    (List.range 8).map fun i => byteAt counter (8 * (7 - i))

/-- `Sealer.seal`. -/
def «seal» (s : Sealer) (plaintext : Bytes) (linkId : BitVec 32) (counter : BitVec 64)
    (aad : Bytes) : Bytes := s.aead.encrypt (nonce linkId counter) plaintext aad

/-- `Sealer.open`. -/
def «open» (s : Sealer) (ciphertext : Bytes) (linkId : BitVec 32) (counter : BitVec 64)
    (aad : Bytes) : Option Bytes := s.aead.decrypt (nonce linkId counter) ciphertext aad

/-! ### `Protocol` -/

/-- `MAGIC`. -/
def magic : Bytes := [0x54, 0x42]

/-- `VERSION`. -/
def version : UInt8 := 1

def headerLen : ℕ := 20
def seqLen : ℕ := 8
def maxPayload : ℕ := 1600

/-- `packHeader`. -/
def packHeader (type : FrameType) (sessionId linkId : BitVec 32) (counter : BitVec 64) : Bytes :=
  magic ++ [version] ++ [byteAt type.value 0] ++ putInt sessionId ++ putInt linkId ++
    putLong counter

/-- `encode`; the error is the message of the `BondException`. -/
def encode (s : Sealer) (f : Frame) : Except String Bytes :=
  if f.payload.length > maxPayload then
    .error s!"payload of {f.payload.length} bytes exceeds the {maxPayload} byte limit"
  else
    let header := packHeader f.type f.sessionId f.linkId f.counter
    let plaintext := putLong f.seq ++ f.payload
    .ok (header ++ «seal» s plaintext f.linkId f.counter header)

/-- `decode`. -/
def decode (s : Sealer) (data : Bytes) : Option Frame :=
  if data.length < headerLen then none
  else if data.take 2 ≠ magic then none
  else if (data.drop 2).head? ≠ some version then none
  else
    -- `buf.get().toInt() and 0xFF`
    let value := (((data.drop 3).headD 0).toBitVec.signExtend 32) &&& 0xFF
    match FrameType.fromValue value with
    | none => none
    | some type =>
      let sessionId := getInt data 4
      let linkId := getInt data 8
      let counter := getLong data 12
      let header := data.take headerLen
      let ciphertext := data.drop headerLen
      match «open» s ciphertext linkId counter header with
      | none => none
      | some plaintext =>
        if plaintext.length < seqLen then none
        else
          some { type, sessionId, linkId, counter
                 seq := getLong plaintext 0, payload := plaintext.drop seqLen }

/-! ### The bytes of a number -/

lemma byteAt_eq {w : ℕ} (x : BitVec w) (k : ℕ) :
    byteAt x (8 * k) = UInt8.ofNat (x.toNat / 256 ^ k) := by
  have hpow : (256 : ℕ) ^ k = 2 ^ (8 * k) := by rw [pow_mul]; norm_num
  apply UInt8.toNat_inj.1
  simp only [byteAt, UInt8.toNat, BitVec.toNat_setWidth, BitVec.toNat_ushiftRight,
    Nat.shiftRight_eq_div_pow, hpow]
  simp

lemma putInt_eq (x : BitVec 32) : putInt x = Bytes.toBE 4 x.toNat := by
  rw [Bytes.toBE_eq_map]
  simp only [← byteAt_eq]
  rfl

lemma putLong_eq (x : BitVec 64) : putLong x = Bytes.toBE 8 x.toNat := by
  rw [Bytes.toBE_eq_map]
  simp only [← byteAt_eq]
  rfl

lemma nonce_eq (linkId : BitVec 32) (counter : BitVec 64) :
    nonce linkId counter = Bond.nonceBytes linkId.toNat counter.toNat := by
  rw [Bond.nonceBytes, Nat.mod_eq_of_lt counter.isLt, Bytes.toBE_eq_map, Bytes.toBE_eq_map, nonce]
  simp only [← byteAt_eq]

lemma toNat_getInt {data : Bytes} (position : ℕ) :
    (getInt data position).toNat = Bytes.ofBE ((data.drop position).take 4) := by
  rw [getInt, BitVec.toNat_ofNat]
  exact Nat.mod_eq_of_lt (by simpa using Bond.ofBE_field_lt data position 4)

lemma toNat_getLong {data : Bytes} (position : ℕ) :
    (getLong data position).toNat = Bytes.ofBE ((data.drop position).take 8) := by
  rw [getLong, BitVec.toNat_ofNat]
  exact Nat.mod_eq_of_lt (by simpa using Bond.ofBE_field_lt data position 8)

/-! ### Frame types -/

/-- A byte stands for the same frame type at both ends. -/
lemma fromValue_eq (b : UInt8) :
    (FrameType.fromValue ((b.toBitVec.signExtend 32) &&& 0xFF)).map FrameType.toBond =
      Bond.FrameType.ofNat? b.toNat := by
  obtain ⟨v⟩ := b
  revert v
  decide

/-! ### Agreement -/

lemma packHeader_eq (f : Frame) :
    packHeader f.type f.sessionId f.linkId f.counter = f.toBond.header := by
  have htype : Bytes.toBE 1 f.type.toBond.toNat = [byteAt f.type.value 0] := by
    cases f.type <;> rfl
  simp only [Bond.Frame.header, Frame.toBond, Bond.packHeader, htype, packHeader, putInt_eq,
    putLong_eq, Nat.mod_eq_of_lt f.sessionId.isLt, Nat.mod_eq_of_lt f.linkId.isLt,
    Nat.mod_eq_of_lt f.counter.isLt]
  rfl

lemma encode_eq_ok_iff (s : Sealer) (f : Frame) (data : Bytes) :
    encode s f = .ok data ↔ Bond.encodeFrame s f.toBond = .ok data := by
  rw [Bond.encodeFrame_eq_ok_iff, encode]
  have hpayload : f.toBond.payload = f.payload := rfl
  have hplain : putLong f.seq ++ f.payload = Bond.plaintext f.toBond := by
    rw [putLong_eq, Bond.plaintext, hpayload]
    simp only [Frame.toBond, Nat.mod_eq_of_lt f.seq.isLt]
  by_cases hp : f.payload.length > maxPayload
  · rw [if_pos hp]
    exact ⟨fun h => absurd h (by simp), fun h => absurd h.1 (not_le.2 hp)⟩
  · rw [if_neg hp]
    simp only [packHeader_eq, hplain, «seal», nonce_eq]
    constructor
    · intro h
      exact ⟨not_lt.1 hp, f.linkId.isLt, (Except.ok.inj h).symm⟩
    · rintro ⟨-, -, rfl⟩
      rfl

/-- What is left once the header is read; the check for short datagrams that only one end
makes has no effect. -/
lemma open_eq (s : Sealer) (t : FrameType) (data : Bytes) :
    (match «open» s (data.drop headerLen) (getInt data 8) (getLong data 12) (data.take headerLen)
      with
      | none => none
      | some plaintext =>
        if plaintext.length < seqLen then none
        else
          some ({ type := t, sessionId := getInt data 4, linkId := getInt data 8
                  counter := getLong data 12, seq := getLong plaintext 0
                  payload := plaintext.drop seqLen } : Frame)).map Frame.toBond =
      if (data.drop headerLen).length < Bond.seqLen + Bond.tagLen then none
      else
        match s.open (data.drop headerLen) (Bytes.ofBE ((data.drop 8).take 4))
          (Bytes.ofBE ((data.drop 12).take 8)) (data.take headerLen) with
        | none => none
        | some plaintext =>
          if plaintext.length < Bond.seqLen then none
          else
            some { type := t.toBond, sessionId := Bytes.ofBE ((data.drop 4).take 4)
                   linkId := Bytes.ofBE ((data.drop 8).take 4)
                   counter := Bytes.ofBE ((data.drop 12).take 8)
                   seq := Bytes.ofBE (plaintext.take Bond.seqLen)
                   payload := plaintext.drop Bond.seqLen } := by
  have hl : Bytes.ofBE ((data.drop 8).take 4) < 2 ^ 32 := by
    simpa using Bond.ofBE_field_lt data 8 4
  have hopen : s.open (data.drop headerLen) (Bytes.ofBE ((data.drop 8).take 4))
      (Bytes.ofBE ((data.drop 12).take 8)) (data.take headerLen) =
      «open» s (data.drop headerLen) (getInt data 8) (getLong data 12) (data.take headerLen) := by
    rw [Sealer.open, Bond.nonce_ok hl, «open», nonce_eq, toNat_getInt, toNat_getLong]
    rfl
  rw [hopen]
  cases hdec : «open» s (data.drop headerLen) (getInt data 8) (getLong data 12)
      (data.take headerLen) with
  | none => exact (ite_self _).symm
  | some plaintext =>
    have hlen : (data.drop headerLen).length = plaintext.length + 16 := by
      rw [s.aead.encrypt_of_decrypt hdec, s.aead.length_encrypt]
    by_cases hp : plaintext.length < 8
    · have hshort : (data.drop headerLen).length < Bond.seqLen + Bond.tagLen := by
        rw [hlen, Bond.seqLen, Bond.tagLen]
        omega
      rw [if_pos hshort]
      exact congrArg (Option.map Frame.toBond) (if_pos hp)
    · have hlong : ¬ (data.drop headerLen).length < Bond.seqLen + Bond.tagLen := by
        rw [hlen, Bond.seqLen, Bond.tagLen]
        omega
      rw [if_neg hlong]
      refine (congrArg (Option.map Frame.toBond) (if_neg hp)).trans (Eq.trans ?_ (if_neg hp).symm)
      simp only [seqLen, Bond.seqLen, Option.map_some, Frame.toBond, toNat_getInt, toNat_getLong,
        List.drop_zero]

lemma decode_eq (s : Sealer) (data : Bytes) :
    (decode s data).map Frame.toBond = Bond.decodeFrame s data := by
  rw [decode, Bond.decodeFrame, Bond.parseHeader]
  by_cases hlen : data.length < headerLen
  · rw [if_pos hlen, if_pos (show data.length < Bond.headerLen from hlen)]
    rfl
  rw [if_neg hlen, if_neg (show ¬ data.length < Bond.headerLen from hlen)]
  by_cases hm : data.take 2 ≠ magic
  · rw [if_pos hm, if_pos (show data.take 2 ≠ Bond.magic from hm)]
    rfl
  rw [if_neg hm, if_neg (show ¬ data.take 2 ≠ Bond.magic from hm)]
  -- the bytes of the version and of the type
  rw [headerLen] at hlen
  obtain ⟨v, hv⟩ : ∃ v, (data.drop 2).take 1 = [v] := by
    refine List.length_eq_one_iff.1 ?_
    rw [List.length_take, List.length_drop]
    omega
  obtain ⟨b, hb⟩ : ∃ b, (data.drop 3).take 1 = [b] := by
    refine List.length_eq_one_iff.1 ?_
    rw [List.length_take, List.length_drop]
    omega
  have hfirst : ∀ (l : Bytes) (x : UInt8), l.take 1 = [x] → l.head? = some x := fun l x h => by
    simpa [h] using (List.head?_take (l := l) (i := 1)).symm
  have hhead := hfirst _ v hv
  have htype : (data.drop 3).headD 0 = b := by
    rw [List.headD_eq_head?_getD, hfirst _ b hb]
    rfl
  have hone : ∀ x : UInt8, Bytes.ofBE [x] = x.toNat := fun x => by simp [Bytes.ofBE]
  simp only [hhead, htype, hv, hb, hone]
  by_cases hversion : v = version
  · have hver : ¬ v.toNat ≠ Bond.protocolVersion := by
      rw [hversion]
      decide
    rw [if_neg (by simp [hversion]), if_neg hver, ← fromValue_eq]
    cases FrameType.fromValue ((b.toBitVec.signExtend 32) &&& 0xFF) with
    | none => rfl
    | some t => exact open_eq s t data
  · have hver : v.toNat ≠ Bond.protocolVersion := fun h => hversion (UInt8.toNat_inj.1 h)
    rw [if_pos (by simpa using hversion), if_pos hver]
    rfl

/-- **The two implementations of the wire format.** -/
theorem codecs_agree (s : Sealer) :
    (∀ (f : Frame) (data : Bytes),
        encode s f = .ok data ↔ Bond.encodeFrame s f.toBond = .ok data) ∧
      ∀ data, (decode s data).map Frame.toBond = Bond.decodeFrame s data :=
  ⟨encode_eq_ok_iff s, decode_eq s⟩

end Turbobond.Android
