import Turbobond.Bond.Protocol

/-!
# The codec's round trips

A datagram that `encode_frame` makes decodes to the frame it was made from, with every
number cut down to its field; and a byte string that decodes is what `encode_frame` makes
of the decoded frame.
-/

namespace Turbobond.Bond

open Util

lemma nonce_ok {linkId : ℕ} (h : linkId < 2 ^ 32) (counter : ℕ) :
    Sealer.nonce linkId counter =
      .ok (Bytes.toBE 4 linkId ++ Bytes.toBE 8 (counter % 2 ^ 64)) := if_pos h

/-- The nonce of a link id and a counter, when the link id fits. -/
def nonceBytes (linkId counter : ℕ) : Bytes :=
  Bytes.toBE 4 linkId ++ Bytes.toBE 8 (counter % 2 ^ 64)

lemma nonceBytes_inj {l l' c c' : ℕ} (hl : l < 2 ^ 32) (hl' : l' < 2 ^ 32)
    (h : nonceBytes l c = nonceBytes l' c') : l = l' ∧ c % 2 ^ 64 = c' % 2 ^ 64 := by
  obtain ⟨h₁, h₂⟩ := List.append_inj h (by simp)
  have h₁ := Bytes.toBE_inj h₁
  have h₂ := Bytes.toBE_inj h₂
  norm_num at h₁ h₂ hl hl' ⊢
  omega

lemma nonce_eq_iff {l l' c c' : ℕ} (hl : l < 2 ^ 32) (hl' : l' < 2 ^ 32) :
    Sealer.nonce l c = Sealer.nonce l' c' ↔ l = l' ∧ c % 2 ^ 64 = c' % 2 ^ 64 := by
  rw [nonce_ok hl, nonce_ok hl']
  constructor
  · exact fun h => nonceBytes_inj hl hl' (Except.ok.inj h)
  · rintro ⟨rfl, hc⟩
    rw [hc]

/-! ### The header -/

@[simp] lemma length_packHeader (t : FrameType) (s l c : ℕ) :
    (packHeader t s l c).length = headerLen := by
  simp [packHeader, magic, headerLen]

lemma parseHeader_packHeader (t : FrameType) (s l c : ℕ) (rest : Bytes) :
    parseHeader (packHeader t s l c ++ rest) =
      .ok (t, s % 2 ^ 32, l % 2 ^ 32, c % 2 ^ 64) := by
  have hlen : ¬ (packHeader t s l c ++ rest).length < headerLen := by simp
  have hver : Bytes.ofBE (Bytes.toBE 1 protocolVersion) = protocolVersion := by simp [protocolVersion]
  have htype : Bytes.ofBE (Bytes.toBE 1 t.toNat) = t.toNat := by
    rw [Bytes.ofBE_toBE, pow_one, Nat.mod_eq_of_lt t.toNat_lt]
  -- cut the header at its field boundaries
  have h₁ : Bytes.toBE 1 protocolVersion = [1] := rfl
  obtain ⟨x, hx⟩ := List.length_eq_one_iff.1 (Bytes.length_toBE 1 t.toNat)
  obtain ⟨s₁, s₂, s₃, s₄, hs⟩ : ∃ a b c d, Bytes.toBE 4 (s % 2 ^ 32) = [a, b, c, d] := by
    simp [Bytes.toBE]
  obtain ⟨l₁, l₂, l₃, l₄, hl⟩ : ∃ a b c d, Bytes.toBE 4 (l % 2 ^ 32) = [a, b, c, d] := by
    simp [Bytes.toBE]
  obtain ⟨c₁, c₂, c₃, c₄, c₅, c₆, c₇, c₈, hc⟩ : ∃ a b c' d e f g h,
      Bytes.toBE 8 (c % 2 ^ 64) = [a, b, c', d, e, f, g, h] := by
    simp [Bytes.toBE]
  have hs' : Bytes.ofBE [s₁, s₂, s₃, s₄] = s % 2 ^ 32 := by
    rw [← hs, Bytes.ofBE_toBE]; norm_num
  have hl' : Bytes.ofBE [l₁, l₂, l₃, l₄] = l % 2 ^ 32 := by
    rw [← hl, Bytes.ofBE_toBE]; norm_num
  have hc' : Bytes.ofBE [c₁, c₂, c₃, c₄, c₅, c₆, c₇, c₈] = c % 2 ^ 64 := by
    rw [← hc, Bytes.ofBE_toBE]; norm_num
  rw [hx] at htype
  rw [parseHeader, if_neg hlen]
  simp only [packHeader, magic, h₁, hx, hs, hl, hc, List.cons_append, List.nil_append,
    List.take_succ_cons, List.take_zero, List.drop_succ_cons, List.drop_zero,
    ne_eq, not_true_eq_false, if_false, hs', hl', hc', htype, FrameType.ofNat?_toNat]
  rfl

/-- The field of `w` bytes at an offset is the big-endian form of the number read there. -/
lemma toBE_field {data : Bytes} {i w : ℕ} (h : i + w ≤ data.length) :
    Bytes.toBE w (Bytes.ofBE ((data.drop i).take w)) = (data.drop i).take w := by
  have hlen : ((data.drop i).take w).length = w := by
    rw [List.length_take, List.length_drop]; omega
  have := Bytes.toBE_ofBE ((data.drop i).take w)
  rwa [hlen] at this

lemma ofBE_field_lt (data : Bytes) (i w : ℕ) :
    Bytes.ofBE ((data.drop i).take w) < 256 ^ w := by
  refine (Bytes.ofBE_lt _).trans_le (Nat.pow_le_pow_right (by norm_num) ?_)
  exact List.length_take_le _ _

/-- A header that parses is what `pack_header` makes of its fields. -/
lemma packHeader_of_parseHeader {data : Bytes} {t : FrameType} {s l c : ℕ}
    (h : parseHeader data = .ok (t, s, l, c)) :
    data.take headerLen = packHeader t s l c ∧ s < 2 ^ 32 ∧ l < 2 ^ 32 ∧ c < 2 ^ 64 := by
  unfold parseHeader at h
  split at h
  · exact absurd h (by simp)
  rename_i hlen
  split at h
  · exact absurd h (by simp)
  rename_i hmagic
  simp only at h
  split at h
  · exact absurd h (by simp)
  rename_i hver
  split at h
  · exact absurd h (by simp)
  rename_i t' htype
  simp only [Except.ok.injEq, Prod.mk.injEq] at h
  obtain ⟨rfl, rfl, rfl, rfl⟩ := h
  have hlen : 20 ≤ data.length := not_lt.1 hlen
  have hs := ofBE_field_lt data 4 4
  have hl := ofBE_field_lt data 8 4
  have hc := ofBE_field_lt data 12 8
  refine ⟨?_, by simpa using hs, by simpa using hl, by simpa using hc⟩
  have htake : data.take 20 = data.take 2 ++ (data.drop 2).take 1 ++ (data.drop 3).take 1 ++
      (data.drop 4).take 4 ++ (data.drop 8).take 4 ++ (data.drop 12).take 8 := by
    simp only [← List.take_add]
  rw [headerLen, htake, packHeader, not_not.1 hmagic, ← not_not.1 hver,
    ← FrameType.toNat_of_ofNat? htype, toBE_field (by omega), toBE_field (by omega),
    Nat.mod_eq_of_lt (by simpa using hs), Nat.mod_eq_of_lt (by simpa using hl),
    Nat.mod_eq_of_lt (by simpa using hc), toBE_field (by omega), toBE_field (by omega),
    toBE_field (by omega)]

/-! ### Whole datagrams -/

/-- The bytes under the seal. -/
def plaintext (f : Frame) : Bytes := Bytes.toBE 8 (f.seq % 2 ^ 64) ++ f.payload

/-- The header of a frame's datagram. -/
def Frame.header (f : Frame) : Bytes := packHeader f.type f.sessionId f.linkId f.counter

/-- The datagram of a frame whose link id fits. -/
def datagram (sealer : Sealer) (f : Frame) : Bytes :=
  f.header ++ sealer.aead.encrypt (nonceBytes f.linkId f.counter) (plaintext f) f.header

lemma encodeFrame_eq_ok_iff {sealer : Sealer} {f : Frame} {d : Bytes} :
    encodeFrame sealer f = .ok d ↔
      f.payload.length ≤ maxPayload ∧ f.linkId < 2 ^ 32 ∧ d = datagram sealer f := by
  unfold encodeFrame
  by_cases hp : f.payload.length > maxPayload
  · simp only [if_pos hp, throw, throwThe, MonadExceptOf.throw, bind, Except.bind]
    refine ⟨fun h => absurd h (by simp), fun h => absurd h.1 (not_le.2 hp)⟩
  · by_cases hl : f.linkId < 2 ^ 32
    · simp only [if_neg hp, Sealer.seal, nonce_ok hl, bind, Except.bind, pure, Except.pure,
        Except.ok.injEq]
      refine ⟨fun h => ⟨not_lt.1 hp, hl, h.symm⟩, fun h => h.2.2.symm⟩
    · have hn : Sealer.nonce f.linkId f.counter = .error .overflow := if_neg hl
      simp only [if_neg hp, Sealer.seal, hn, bind, Except.bind]
      exact ⟨fun h => absurd h (by simp), fun h => absurd h.2.1 hl⟩

lemma take_datagram (sealer : Sealer) (f : Frame) :
    (datagram sealer f).take headerLen = f.header :=
  List.take_left' (length_packHeader _ _ _ _)

lemma drop_datagram (sealer : Sealer) (f : Frame) :
    (datagram sealer f).drop headerLen =
      sealer.aead.encrypt (nonceBytes f.linkId f.counter) (plaintext f) f.header :=
  List.drop_left' (length_packHeader _ _ _ _)

/-- What is under the seal opens with the numbers that the header carries. -/
lemma open_datagram (sealer : Sealer) (f : Frame) (hl : f.linkId < 2 ^ 32) :
    sealer.open ((datagram sealer f).drop headerLen) (f.linkId % 2 ^ 32) (f.counter % 2 ^ 64)
      ((datagram sealer f).take headerLen) = some (plaintext f) := by
  rw [take_datagram, drop_datagram, Nat.mod_eq_of_lt hl, Sealer.open, nonce_ok hl, Nat.mod_mod]
  exact sealer.aead.decrypt_encrypt _ _ _

lemma parseHeader_datagram (sealer : Sealer) (f : Frame) :
    parseHeader (datagram sealer f) =
      .ok (f.type, f.sessionId % 2 ^ 32, f.linkId % 2 ^ 32, f.counter % 2 ^ 64) :=
  parseHeader_packHeader _ _ _ _ _

lemma decodeFrame_datagram (sealer : Sealer) (f : Frame) (hl : f.linkId < 2 ^ 32) :
    decodeFrame sealer (datagram sealer f) = some f.masked := by
  have hopen := open_datagram sealer f hl
  have hlen : ¬ (sealer.aead.encrypt (nonceBytes f.linkId f.counter) (plaintext f)
      f.header).length < seqLen + tagLen := by
    rw [sealer.aead.length_encrypt, plaintext, List.length_append, Bytes.length_toBE, seqLen, tagLen]
    omega
  have hplain : ¬ (plaintext f).length < seqLen := by
    rw [plaintext, List.length_append, Bytes.length_toBE, seqLen]
    omega
  have hseq : Bytes.ofBE ((plaintext f).take seqLen) = f.seq % 2 ^ 64 := by
    rw [plaintext, seqLen, List.take_left' (Bytes.length_toBE 8 _), Bytes.ofBE_toBE]
    norm_num
  have hpay : (plaintext f).drop seqLen = f.payload := List.drop_left' (Bytes.length_toBE 8 _)
  rw [← drop_datagram] at hlen
  rw [decodeFrame, parseHeader_datagram]
  simp only [if_neg hlen, hopen, if_neg hplain, hseq, hpay]
  rfl

/-- A datagram keeps of a frame what fits its fields. -/
lemma datagram_masked (sealer : Sealer) {f : Frame} (hl : f.linkId < 2 ^ 32) :
    datagram sealer f.masked = datagram sealer f := by
  have hheader : f.masked.header = f.header := by
    simp only [Frame.header, packHeader, Frame.masked, Nat.mod_mod]
  have hplain : plaintext f.masked = plaintext f := by
    simp only [plaintext, Frame.masked, Nat.mod_mod]
  have hnonce : nonceBytes f.masked.linkId f.masked.counter = nonceBytes f.linkId f.counter := by
    simp only [nonceBytes, Frame.masked, Nat.mod_mod, Nat.mod_eq_of_lt hl]
  rw [datagram, datagram, hheader, hplain, hnonce]

/-- What a byte string that decodes is: the datagram of the decoded frame. -/
lemma eq_datagram_of_decodeFrame {sealer : Sealer} {data : Bytes} {f : Frame}
    (h : decodeFrame sealer data = some f) :
    data = datagram sealer f ∧ f.masked = f ∧ f.linkId < 2 ^ 32 := by
  unfold decodeFrame at h
  split at h
  · exact absurd h (by simp)
  rename_i t s l c hparse
  obtain ⟨hhead, hs, hl, hc⟩ := packHeader_of_parseHeader hparse
  simp only at h
  split at h
  · exact absurd h (by simp)
  split at h
  · exact absurd h (by simp)
  rename_i p hopen
  split at h
  · exact absurd h (by simp)
  rename_i hlen
  obtain rfl := Option.some.inj h
  rw [Sealer.open, nonce_ok hl] at hopen
  have hct := sealer.aead.encrypt_of_decrypt hopen
  have hseqlt : Bytes.ofBE (p.take seqLen) < 2 ^ 64 := by
    have := ofBE_field_lt p 0 seqLen
    simpa [seqLen] using this
  have hplain : Bytes.toBE 8 (Bytes.ofBE (p.take seqLen) % 2 ^ 64) ++ p.drop seqLen = p := by
    have hfield : Bytes.toBE 8 (Bytes.ofBE (p.take seqLen)) = p.take seqLen :=
      toBE_field (i := 0) (by rw [seqLen] at hlen; omega)
    rw [Nat.mod_eq_of_lt hseqlt, hfield]
    exact List.take_append_drop seqLen p
  refine ⟨?_, ?_, hl⟩
  · rw [datagram, Frame.header, plaintext, hplain, ← hhead, nonceBytes, ← hct]
    exact (List.take_append_drop headerLen data).symm
  · simp only [Frame.masked, Nat.mod_eq_of_lt hs, Nat.mod_eq_of_lt hl, Nat.mod_eq_of_lt hc,
      Nat.mod_eq_of_lt hseqlt]

/-! ### What a datagram determines -/

lemma packHeader_inj {t t' : FrameType} {s s' l l' c c' : ℕ}
    (h : packHeader t s l c = packHeader t' s' l' c') :
    t = t' ∧ s % 2 ^ 32 = s' % 2 ^ 32 ∧ l % 2 ^ 32 = l' % 2 ^ 32 ∧ c % 2 ^ 64 = c' % 2 ^ 64 := by
  have h₁ := parseHeader_packHeader t s l c []
  rw [h, parseHeader_packHeader] at h₁
  simpa [eq_comm] using h₁

lemma plaintext_inj {f g : Frame} (h : plaintext f = plaintext g) :
    f.seq % 2 ^ 64 = g.seq % 2 ^ 64 ∧ f.payload = g.payload := by
  obtain ⟨hseq, hpay⟩ := List.append_inj h (by simp)
  refine ⟨?_, hpay⟩
  have := Bytes.toBE_inj hseq
  norm_num at this ⊢
  exact this

/-- A header and a plaintext determine a frame up to the widths of its fields. -/
lemma masked_eq {f g : Frame} (hh : f.header = g.header) (hp : plaintext f = plaintext g) :
    f.masked = g.masked := by
  obtain ⟨ht, hs, hl, hc⟩ := packHeader_inj hh
  obtain ⟨hseq, hpay⟩ := plaintext_inj hp
  simp only [Frame.masked, ht, hs, hl, hc, hseq, hpay]

/-! ### Exceptions

`parse_header` and `decode_frame` once more, with everything their calls can raise. -/

inductive DecodeError where
  | bond (message : String)
  | value
  | struct
  deriving DecidableEq, Repr

/-- `struct.unpack(HEADER_FMT, data)`. -/
def unpackHeader (data : Bytes) : Except DecodeError (Bytes × ℕ × ℕ × ℕ × ℕ × ℕ) :=
  if data.length ≠ headerLen then .error .struct
  else
    .ok (data.take 2, Bytes.ofBE ((data.drop 2).take 1), Bytes.ofBE ((data.drop 3).take 1),
      Bytes.ofBE ((data.drop 4).take 4), Bytes.ofBE ((data.drop 8).take 4),
      Bytes.ofBE ((data.drop 12).take 8))

/-- `struct.unpack("!Q", data)`. -/
def unpackSeq (data : Bytes) : Except DecodeError ℕ :=
  if data.length ≠ seqLen then .error .struct else .ok (Bytes.ofBE data)

/-- `FrameType(raw_type)`. -/
def frameTypeOf (rawType : ℕ) : Except DecodeError FrameType :=
  match FrameType.ofNat? rawType with
  | none => .error .value
  | some frameType => .ok frameType

/-- `parse_header`. -/
def parseHeaderRaising (data : Bytes) : Except DecodeError (FrameType × ℕ × ℕ × ℕ) :=
  if data.length < headerLen then
    .error (.bond s!"datagram too short: {data.length} < {headerLen}")
  else
    match unpackHeader (data.take headerLen) with
    | .error e => .error e
    | .ok (mark, version, rawType, sessionId, linkId, counter) =>
      if mark ≠ magic then .error (.bond "bad magic; not a turbobond datagram")
      else if version ≠ protocolVersion then
        .error (.bond s!"unsupported protocol version {version} (expected {protocolVersion})")
      else
        match frameTypeOf rawType with
        | .error .value => .error (.bond s!"unknown frame type {rawType}")
        | .error e => .error e
        | .ok frameType => .ok (frameType, sessionId, linkId, counter)

/-- `decode_frame`, which catches a `BondError` of `parse_header` and nothing else. -/
def decodeFrameRaising (sealer : Sealer) (data : Bytes) : Except DecodeError (Option Frame) :=
  match parseHeaderRaising data with
  | .error (.bond _) => .ok none
  | .error e => .error e
  | .ok (frameType, sessionId, linkId, counter) =>
    let header := data.take headerLen
    let ciphertext := data.drop headerLen
    if ciphertext.length < seqLen + tagLen then .ok none
    else
      match sealer.open ciphertext linkId counter header with
      | none => .ok none
      | some plaintext =>
        if plaintext.length < seqLen then .ok none
        else
          match unpackSeq (plaintext.take seqLen) with
          | .error e => .error e
          | .ok seq =>
            .ok (some { type := frameType, sessionId, linkId, counter, seq
                        payload := plaintext.drop seqLen })

/-- A field of the header, read from the header alone. -/
lemma field_take (data : Bytes) (i w : ℕ) (h : i + w ≤ headerLen) :
    ((data.take headerLen).drop i).take w = (data.drop i).take w := by
  rw [List.drop_take, List.take_take, min_eq_left (by omega)]

/-- `parse_header` raises nothing but a `BondError`. -/
lemma parseHeaderRaising_cases (data : Bytes) :
    (∃ e message, parseHeader data = .error e ∧
        parseHeaderRaising data = .error (.bond message)) ∨
      ∃ fields, parseHeader data = .ok fields ∧ parseHeaderRaising data = .ok fields := by
  rw [parseHeaderRaising, parseHeader]
  by_cases hlen : data.length < headerLen
  · rw [if_pos hlen, if_pos hlen]
    exact Or.inl ⟨_, _, rfl, rfl⟩
  have hhead : (data.take headerLen).length = headerLen := List.length_take_of_le (not_lt.1 hlen)
  have hmark : (data.take headerLen).take 2 = data.take 2 := by
    rw [List.take_take, min_eq_left (by decide)]
  rw [if_neg hlen, if_neg hlen, unpackHeader, if_neg (not_not.2 hhead)]
  simp only [hmark, field_take data 2 1 (by decide),
    field_take data 3 1 (by decide),
    field_take data 4 4 (by decide),
    field_take data 8 4 (by decide),
    field_take data 12 8 (by decide)]
  by_cases hm : data.take 2 ≠ magic
  · rw [if_pos hm, if_pos hm]
    exact Or.inl ⟨_, _, rfl, rfl⟩
  rw [if_neg hm, if_neg hm]
  by_cases hv : Bytes.ofBE ((data.drop 2).take 1) ≠ protocolVersion
  · rw [if_pos hv, if_pos hv]
    exact Or.inl ⟨_, _, rfl, rfl⟩
  rw [if_neg hv, if_neg hv, frameTypeOf]
  cases FrameType.ofNat? (Bytes.ofBE ((data.drop 3).take 1)) with
  | none => exact Or.inl ⟨_, _, rfl, rfl⟩
  | some frameType => exact Or.inr ⟨_, rfl, rfl⟩

/-- `decode_frame` raises nothing. -/
lemma decodeFrameRaising_eq (sealer : Sealer) (data : Bytes) :
    decodeFrameRaising sealer data = .ok (decodeFrame sealer data) := by
  rw [decodeFrameRaising, decodeFrame]
  rcases parseHeaderRaising_cases data with ⟨e, message, he, hraising⟩ | ⟨⟨t, s, l, c⟩, hok, hraising⟩
  · rw [he, hraising]
  · rw [hok, hraising]
    by_cases hlen : (data.drop headerLen).length < seqLen + tagLen
    · simp only [if_pos hlen]
    simp only [if_neg hlen]
    cases sealer.open (data.drop headerLen) l c (data.take headerLen) with
    | none => rfl
    | some plaintext =>
      by_cases hplain : plaintext.length < seqLen
      · simp only [if_pos hplain]
      · have hseq : unpackSeq (plaintext.take seqLen) = .ok (Bytes.ofBE (plaintext.take seqLen)) :=
          if_neg (not_not.2 (List.length_take_of_le (not_lt.1 hplain)))
        simp only [if_neg hplain, hseq]

/-! ### The codec -/

lemma encodeFrame_of_masked {sealer : Sealer} {f : Frame} (hm : f.masked = f)
    (hl : f.linkId < 2 ^ 32) (hp : f.payload.length ≤ maxPayload) :
    encodeFrame sealer f = .ok (datagram sealer f) ∧
      decodeFrame sealer (datagram sealer f) = some f := by
  refine ⟨encodeFrame_eq_ok_iff.2 ⟨hp, hl, rfl⟩, ?_⟩
  rw [decodeFrame_datagram sealer f hl, hm]

lemma length_datagram (sealer : Sealer) (f : Frame) :
    (datagram sealer f).length = headerLen + seqLen + f.payload.length + tagLen := by
  rw [datagram, List.length_append, sealer.aead.length_encrypt, plaintext, List.length_append,
    Bytes.length_toBE, Frame.header, length_packHeader, seqLen, tagLen]
  omega

/-- **The codec.**  Frames whose fields fit come back from their datagrams, and datagrams of at
most `MAX_DATAGRAM` bytes from their frames.  Any byte string is answered without an exception,
by `None` unless it is the datagram of a frame; one that `encode_frame` did not make carries
more than `MAX_PAYLOAD` bytes. -/
theorem codec_bijection (sealer : Sealer) :
    (∀ f : Frame, f.sessionId < 2 ^ 32 → f.linkId < 2 ^ 32 → f.counter < 2 ^ 64 →
        f.seq < 2 ^ 64 → f.payload.length ≤ maxPayload →
        ∃ data, encodeFrame sealer f = .ok data ∧ decodeFrame sealer data = some f) ∧
      (∀ data f, data.length ≤ maxDatagram → decodeFrame sealer data = some f →
        encodeFrame sealer f = .ok data) ∧
      ∀ data, decodeFrameRaising sealer data = .ok (decodeFrame sealer data) ∧
        (decodeFrame sealer data = none ∨ ∃ f, decodeFrame sealer data = some f ∧
          (encodeFrame sealer f = .ok data ∨
            data = datagram sealer f ∧ maxPayload < f.payload.length)) := by
  refine ⟨fun f hs hl hc hseq hp => ?_, fun data f hlen hf => ?_, fun data => ⟨?_, ?_⟩⟩
  · have hm : f.masked = f := by
      simp only [Frame.masked, Nat.mod_eq_of_lt hs, Nat.mod_eq_of_lt hl, Nat.mod_eq_of_lt hc,
        Nat.mod_eq_of_lt hseq]
    exact ⟨_, encodeFrame_of_masked hm hl hp⟩
  · obtain ⟨rfl, -, hl⟩ := eq_datagram_of_decodeFrame hf
    rw [length_datagram, maxDatagram] at hlen
    exact encodeFrame_eq_ok_iff.2 ⟨by omega, hl, rfl⟩
  · exact decodeFrameRaising_eq sealer data
  · cases hf : decodeFrame sealer data with
    | none => exact Or.inl rfl
    | some f =>
      refine Or.inr ⟨f, rfl, ?_⟩
      obtain ⟨hd, -, hl⟩ := eq_datagram_of_decodeFrame hf
      by_cases hp : f.payload.length ≤ maxPayload
      · exact Or.inl (encodeFrame_eq_ok_iff.2 ⟨hp, hl, hd⟩)
      · exact Or.inr ⟨hd, not_le.1 hp⟩

/-- A frame with one byte too many. -/
def overlong : Frame :=
  { type := .data, sessionId := 7, linkId := 1, counter := 1, seq := 1
    payload := List.replicate (maxPayload + 1) 0 }

/-- `decode_frame` itself does not bound the length: what the key's holder seals it opens. -/
theorem decodeFrame_overlong :
    ¬ ∀ (sealer : Sealer) (data : Bytes),
      ¬ (data.length ≤ maxDatagram ∧ (decodeFrame sealer data).isSome) →
        decodeFrame sealer data = none := by
  intro h
  have hsome := decodeFrame_datagram ⟨Aead.plain⟩ overlong (by decide)
  have hlen : ¬ (datagram ⟨Aead.plain⟩ overlong).length ≤ maxDatagram := by
    rw [length_datagram, overlong, List.length_replicate, maxDatagram]
    omega
  have hnone := h ⟨Aead.plain⟩ (datagram ⟨Aead.plain⟩ overlong) fun hc => hlen hc.1
  exact absurd (hsome.symm.trans hnone) (by simp)

end Turbobond.Bond
