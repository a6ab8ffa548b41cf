import Turbobond.Lib.Stream
import Mathlib.Data.Vector.Basic

/-!
# The greeting and the request of a SOCKS client

`greet` and `readRequest` of `SocksProxy.kt`.  A result of `false` or `null` is a program that gives
up.  The two of them take exactly a greeting that offers to go without authentication and a request to
connect, and nothing of what follows.
-/

namespace Turbobond.Android.Socks

def version : UInt8 := 5
def methodNoAuth : UInt8 := 0
def methodNoneAcceptable : UInt8 := 0xFF
def cmdConnect : UInt8 := 1
def atypIpv4 : UInt8 := 1
def atypDomain : UInt8 := 3
def atypIpv6 : UInt8 := 4
def replyCommandUnsupported : UInt8 := 7
def replyAddressUnsupported : UInt8 := 8

/-- `InputStream.readOrNull`. -/
def readOrNull : StateM Conn (Option UInt8) := fun c =>
  let (b, input) := readByte c.input
  (b, { c with input })

/-- The loop of `InputStream.readFully`, with `n` bytes still to come. -/
def fill (n : ℕ) (pieces : List Bytes) : Option Bytes × List Bytes :=
  if _hn : n = 0 then (some [], pieces)
  else
    match _hread : readSome n pieces with
    | (none, rest) => (none, rest)
    | (some got, rest) =>
      let (more, rest) := fill (n - got.length) rest
      (more.map (got ++ ·), rest)
  termination_by n
  decreasing_by
    have h := readSome_flatten (Nat.pos_of_ne_zero _hn) pieces
    rw [_hread] at h
    omega

/-- `InputStream.readFully` into an array of `n` bytes. -/
def readFully (n : ℕ) : Dialogue Bytes := OptionT.mk fun c =>
  let (bytes, input) := fill n c.input
  (bytes, { c with input })

/-- `output.write` and `output.flush`. -/
def write (bytes : Bytes) : Dialogue Unit :=
  OptionT.lift fun c => ((), { c with output := c.output ++ bytes })

def reply (code : UInt8) : Bytes := [version, code, 0, atypIpv4, 0, 0, 0, 0, 0, 0]

structure Target where
  host : String
  port : ℕ
  deriving DecidableEq

/-- Method negotiation: only "no authentication" is offered. -/
def greet : Dialogue Unit := do
  if (← OptionT.lift readOrNull) ≠ some version then failure
  else
    let methodCount ← OptionT.mk readOrNull
    let methods ← readFully methodCount.toNat
    if methodNoAuth ∉ methods then
      write [version, methodNoneAcceptable]
      failure
    else write [version, methodNoAuth]

/-- `joinToString(".")`, of the bytes as numbers. -/
def dotted (bytes : Bytes) : String := ".".intercalate (bytes.map fun b => toString b.toNat)

/-- `String(name, Charsets.US_ASCII)`: other bytes become the replacement character. -/
def asciiString (name : Bytes) : String :=
  String.ofList (name.map fun b => if b < 128 then Char.ofNat b.toNat else Char.ofNat 0xFFFD)

variable (hostAddress : Bytes → String)

/-- The host of a request.  What `InetAddress.getByAddress(it).hostAddress` is for an IPv6 address
depends on the platform; it is never `null`. -/
def readHost (addressType : UInt8) : Dialogue String :=
  if addressType = atypIpv4 then do
    let bytes ← readFully 4
    return dotted bytes
  else if addressType = atypDomain then do
    let length ← OptionT.mk readOrNull
    let name ← readFully length.toNat
    return asciiString name
  else if addressType = atypIpv6 then do
    let bytes ← readFully 16
    return hostAddress bytes
  else do
    write (reply replyAddressUnsupported)
    failure

def readRequest : Dialogue Target := do
  if (← OptionT.lift readOrNull) ≠ some version then failure
  else
    let command ← OptionT.mk readOrNull
    let _ ← OptionT.lift readOrNull -- reserved
    let addressType ← OptionT.mk readOrNull
    let host ← readHost hostAddress addressType
    let portBytes ← readFully 2
    let port := ((portBytes.getD 0 0).toNat <<< 8) ||| (portBytes.getD 1 0).toNat
    if command ≠ cmdConnect then
      write (reply replyCommandUnsupported)
      failure
    else return { host, port }

/-- What `serve` does before it connects. -/
def negotiate : Dialogue Target := do
  greet
  readRequest hostAddress

/-! ### What they read -/

/-- The loop of `readFully` fills the array unless the stream ends before. -/
lemma fill_flatten (n : ℕ) (pieces : List Bytes) :
    match fill n pieces with
    | (none, _) => pieces.flatten.length < n
    | (some bytes, rest) => pieces.flatten = bytes ++ rest.flatten ∧ bytes.length = n := by
  induction n using Nat.strong_induction_on generalizing pieces with
  | _ n ih =>
    rw [fill]
    by_cases hn : n = 0
    · simp [hn]
    rw [dif_neg hn]
    have hsome := readSome_flatten (Nat.pos_of_ne_zero hn) pieces
    rcases hread : readSome n pieces with ⟨_ | got, rest⟩
    · rw [hread] at hsome
      simp only [hsome.1, List.length_nil]
      omega
    · rw [hread] at hsome
      obtain ⟨hflat, hpos, hle⟩ := hsome
      have hmore := ih (n - got.length) (by omega) rest
      rcases hfill : fill (n - got.length) rest with ⟨_ | more, rest'⟩
      · rw [hfill] at hmore
        simp only [hfill, Option.map_none, hflat, List.length_append]
        omega
      · rw [hfill] at hmore
        obtain ⟨hflat', hlen⟩ := hmore
        simp only [hfill, Option.map_some, hflat, hflat', List.append_assoc, List.length_append,
          true_and]
        omega

/-- A byte, or the end of the stream. -/
lemma realises_readOrNull : Realises (OptionT.lift readOrNull) fun v r w =>
    match r with
    | some b => v = ⟨b :: w.rest, w.written⟩
    | none => v.rest = [] ∧ w = v := by
  refine .of_run fun c => Or.inl ?_
  have h := readByte_flatten c.input
  have hrun : (OptionT.lift readOrNull).run.run c =
      (some (readByte c.input).1, { c with input := (readByte c.input).2 }) := rfl
  rw [hrun]
  rcases hread : readByte c.input with ⟨_ | b, rest⟩
  · rw [hread] at h
    refine ⟨_, _, rfl, fun r w => ?_⟩
    obtain ⟨hnil, hrest⟩ := h
    cases r with
    | none => simp [Conn.wire, hnil, hrest, eq_comm]
    | some b => simp [Conn.wire, hnil]
  · rw [hread] at h
    refine ⟨_, _, rfl, fun r w => ?_⟩
    have hcons : c.input.flatten = b :: rest.flatten := h
    cases r with
    | none => simp [Conn.wire, hcons]
    | some b' => simp [Conn.wire, hcons, Wire.ext_iff, and_assoc]

/-- A byte, where the end of the stream is the end of the program. -/
lemma realises_readOrNull_else : Realises (OptionT.mk readOrNull) fun v b w =>
    v = ⟨b :: w.rest, w.written⟩ := by
  refine .of_run fun c => ?_
  have h := readByte_flatten c.input
  have hrun : (OptionT.mk readOrNull).run.run c =
      ((readByte c.input).1, { c with input := (readByte c.input).2 }) := rfl
  rw [hrun]
  rcases hread : readByte c.input with ⟨_ | b, rest⟩
  · rw [hread] at h
    have hnil : c.input.flatten = [] := h.1
    exact Or.inr ⟨_, rfl, fun b w => by simp [Conn.wire, hnil]⟩
  · rw [hread] at h
    have hcons : c.input.flatten = b :: rest.flatten := h
    exact Or.inl ⟨b, _, rfl, fun b' w => by simp [Conn.wire, hcons, Wire.ext_iff, and_assoc]⟩

lemma realises_readFully (n : ℕ) : Realises (readFully n) fun v bytes w =>
    v = ⟨bytes ++ w.rest, w.written⟩ ∧ bytes.length = n := by
  refine .of_run fun c => ?_
  have h := fill_flatten n c.input
  have hrun : (readFully n).run.run c =
      ((fill n c.input).1, { c with input := (fill n c.input).2 }) := rfl
  rw [hrun]
  rcases hfill : fill n c.input with ⟨_ | bytes, rest⟩
  · rw [hfill] at h
    refine Or.inr ⟨_, rfl, ?_⟩
    rintro bytes w ⟨hw, hlen⟩
    have hflat : c.input.flatten = bytes ++ w.rest := congrArg Wire.rest hw
    have hshort : c.input.flatten.length < n := h
    rw [hflat, List.length_append] at hshort
    omega
  · rw [hfill] at h
    obtain ⟨hflat, hlen⟩ := h
    refine Or.inl ⟨bytes, _, rfl, fun bytes' w => ?_⟩
    constructor
    · rintro ⟨hw, hlen'⟩
      have hflat' : c.input.flatten = bytes' ++ w.rest := congrArg Wire.rest hw
      obtain ⟨rfl, hrest⟩ := List.append_inj (hflat.symm.trans hflat') (hlen.trans hlen'.symm)
      exact ⟨rfl, Wire.ext hrest (show c.output = w.written from congrArg Wire.written hw)⟩
    · rintro ⟨rfl, rfl⟩
      exact ⟨Wire.ext hflat rfl, hlen⟩

lemma realises_write (bytes : Bytes) : Realises (write bytes) fun v _ w =>
    w = ⟨v.rest, v.written ++ bytes⟩ :=
  .of_run fun c => Or.inl ⟨(), { c with output := c.output ++ bytes }, rfl, fun _ w => by
    simp [Conn.wire, eq_comm]⟩

/-! ### The grammar -/

/-- An address as a request has it. -/
inductive Address where
  | ipv4 (bytes : List.Vector UInt8 4)
  | domain (name : { name : Bytes // name.length < 256 })
  | ipv6 (bytes : List.Vector UInt8 16)

namespace Address

def encode : Address → Bytes
  | .ipv4 bytes => atypIpv4 :: bytes.toList
  | .domain name => atypDomain :: UInt8.ofNat name.1.length :: name.1
  | .ipv6 bytes => atypIpv6 :: bytes.toList

def host : Address → String
  | .ipv4 bytes => dotted bytes.toList
  | .domain name => asciiString name.1
  | .ipv6 bytes => hostAddress bytes.toList

end Address

/-- A greeting that offers to go without authentication, and a request to connect. -/
structure Opening where
  methods : { methods : Bytes // methods.length < 256 ∧ methodNoAuth ∈ methods }
  reserved : UInt8
  address : Address
  port : Fin 65536

namespace Opening

def greeting (o : Opening) : Bytes := version :: UInt8.ofNat o.methods.1.length :: o.methods.1

def request (o : Opening) : Bytes :=
  [version, cmdConnect, o.reserved] ++ o.address.encode ++ Bytes.toBE 2 o.port

def target (o : Opening) : Target := ⟨o.address.host hostAddress, o.port⟩

end Opening

/-- A byte counts what it counts. -/
lemma ofNat_length {b : UInt8} {bytes : Bytes} :
    bytes.length = b.toNat ↔ bytes.length < 256 ∧ b = UInt8.ofNat bytes.length := by
  constructor
  · intro h
    have hb := b.toNat_lt
    exact ⟨by omega, by rw [h]; simp⟩
  · rintro ⟨hlen, rfl⟩
    simp only [UInt8.toNat_ofNat']
    omega

lemma realises_greet : Realises greet fun v _ w =>
    ∃ methods : Bytes, methods.length < 256 ∧ methodNoAuth ∈ methods ∧
      v.rest = version :: UInt8.ofNat methods.length :: methods ++ w.rest ∧
      w.written = v.written ++ [version, methodNoAuth] := by
  refine (Realises.bind realises_readOrNull fun r => .ite (fun _ => .failure) fun _ =>
    .bind realises_readOrNull_else fun methodCount => .bind (realises_readFully _) fun methods =>
    .ite (fun _ => .bind (realises_write _) fun _ => .failure) fun _ => realises_write _).congr ?_
  intro v _ w
  constructor
  · rintro ⟨r, u, hr, ⟨-, h⟩ | ⟨hversion, n, u, rfl, methods, u', ⟨rfl, hlen⟩, hmethods⟩⟩
    · exact h.elim
    rcases hmethods with ⟨-, _, _, _, h⟩ | ⟨hmem, rfl⟩
    · exact h.elim
    obtain rfl := not_not.1 hversion
    obtain ⟨hlt, hn⟩ := ofNat_length.1 hlen
    have hv : v = ⟨version :: n :: (methods ++ u'.rest), u'.written⟩ := hr
    subst hv
    exact ⟨methods, hlt, not_not.1 hmem, by rw [← hn]; rfl, rfl⟩
  · rintro ⟨methods, hlt, hmem, hrest, hwritten⟩
    refine ⟨some version, ⟨UInt8.ofNat methods.length :: (methods ++ w.rest), v.written⟩,
      Wire.ext hrest rfl, Or.inr ⟨not_not.2 rfl, UInt8.ofNat methods.length,
        ⟨methods ++ w.rest, v.written⟩, rfl, methods, ⟨w.rest, v.written⟩,
        ⟨rfl, ofNat_length.2 ⟨hlt, rfl⟩⟩, Or.inr ⟨not_not.2 hmem, Wire.ext rfl hwritten⟩⟩⟩

/-- The host of an address, when its type has been read. -/
lemma realises_readHost (addressType : UInt8) :
    Realises (readHost hostAddress addressType) fun v host w =>
      ∃ address : Address, addressType :: v.rest = address.encode ++ w.rest ∧
        host = address.host hostAddress ∧ w.written = v.written := by
  refine (Realises.ite (fun _ => .bind (realises_readFully 4) fun _ => .pure _) fun _ =>
    .ite (fun _ => .bind realises_readOrNull_else fun length =>
      .bind (realises_readFully _) fun name => .pure _) fun _ =>
    .ite (fun _ => .bind (realises_readFully 16) fun _ => .pure _) fun _ =>
    .bind (realises_write _) fun _ => .failure).congr ?_
  intro v host w
  constructor
  · rintro (⟨rfl, bytes, u, ⟨rfl, hlen⟩, rfl, rfl⟩ | ⟨-, h⟩)
    · exact ⟨.ipv4 ⟨bytes, hlen⟩, rfl, rfl, rfl⟩
    rcases h with ⟨rfl, n, u, rfl, name, u', ⟨rfl, hlen⟩, rfl, rfl⟩ | ⟨-, h⟩
    · obtain ⟨hlt, hn⟩ := ofNat_length.1 hlen
      exact ⟨.domain ⟨name, hlt⟩, by rw [hn]; rfl, rfl, rfl⟩
    rcases h with ⟨rfl, bytes, u, ⟨rfl, hlen⟩, rfl, rfl⟩ | ⟨-, _, _, _, h⟩
    · exact ⟨.ipv6 ⟨bytes, hlen⟩, rfl, rfl, rfl⟩
    · exact h.elim
  · rintro ⟨address, hrest, rfl, hwritten⟩
    cases address with
    | ipv4 bytes =>
      obtain ⟨rfl, hbytes⟩ := List.cons.inj hrest
      exact Or.inl ⟨rfl, bytes.toList, w, ⟨Wire.ext hbytes hwritten.symm, bytes.toList_length⟩,
        rfl, rfl⟩
    | domain name =>
      obtain ⟨rfl, hbytes⟩ := List.cons.inj hrest
      refine Or.inr ⟨by decide, Or.inl ⟨rfl, UInt8.ofNat name.1.length, ⟨name.1 ++ w.rest, w.written⟩,
        Wire.ext hbytes hwritten.symm, name.1, w, ⟨rfl, ofNat_length.2 ⟨name.2, rfl⟩⟩, rfl, rfl⟩⟩
    | ipv6 bytes =>
      obtain ⟨rfl, hbytes⟩ := List.cons.inj hrest
      exact Or.inr ⟨by decide, Or.inr ⟨by decide, Or.inl ⟨rfl, bytes.toList, w,
        ⟨Wire.ext hbytes hwritten.symm, bytes.toList_length⟩, rfl, rfl⟩⟩⟩

/-- The two bytes of a port, put together by shifting. -/
lemma port_eq {bytes : Bytes} (h : bytes.length = 2) :
    (bytes.getD 0 0).toNat <<< 8 ||| (bytes.getD 1 0).toNat = Bytes.ofBE bytes := by
  obtain ⟨b₁, b₂, rfl⟩ := List.length_eq_two.1 h
  change b₁.toNat <<< 8 ||| b₂.toNat = _
  rw [← Nat.shiftLeft_add_eq_or_of_lt b₂.toNat_lt, Nat.shiftLeft_eq]
  simp [Bytes.ofBE]

lemma realises_readRequest : Realises (readRequest hostAddress) fun v target w =>
    ∃ (reserved : UInt8) (address : Address) (port : Fin 65536),
      v.rest = version :: cmdConnect :: reserved ::
        (address.encode ++ (Bytes.toBE 2 port ++ w.rest)) ∧
      target = ⟨address.host hostAddress, port⟩ ∧ w.written = v.written := by
  refine (Realises.bind realises_readOrNull fun r => .ite (fun _ => .failure) fun _ =>
    .bind realises_readOrNull_else fun command => .bind realises_readOrNull fun _ =>
    .bind realises_readOrNull_else fun addressType =>
    .bind (realises_readHost hostAddress addressType) fun host =>
    .bind (realises_readFully 2) fun portBytes =>
    .ite (fun _ => .bind (realises_write _) fun _ => .failure) fun _ => .pure _).congr ?_
  intro v target w
  constructor
  · rintro ⟨r, u₁, hr, ⟨-, h⟩ | ⟨hversion, command, u₂, rfl, reserved, u₃, hreserved, addressType, u₄,
      rfl, host, u₅, ⟨address, haddress, rfl, hwritten⟩, portBytes, u₆, ⟨rfl, hlen⟩, hcommand⟩⟩
    · exact h.elim
    rcases hcommand with ⟨-, _, _, _, h⟩ | ⟨hconnect, rfl, rfl⟩
    · exact h.elim
    obtain rfl := not_not.1 hversion
    obtain rfl := not_not.1 hconnect
    cases reserved with
    | none =>
      -- the stream had ended at the reserved byte, so there was no address type
      obtain ⟨hend, heq⟩ := hreserved
      rw [← heq] at hend
      cases hend
    | some reserved =>
      have hv : v = ⟨version :: cmdConnect :: u₂.rest, u₂.written⟩ := hr
      have hu : u₂ = ⟨reserved :: addressType :: u₄.rest, u₄.written⟩ := hreserved
      subst hv hu
      have hport : Bytes.ofBE portBytes < 65536 := by simpa [hlen] using Bytes.ofBE_lt portBytes
      refine ⟨reserved, address, ⟨Bytes.ofBE portBytes, hport⟩, ?_, by rw [port_eq hlen], hwritten⟩
      have hbytes : Bytes.toBE 2 (Bytes.ofBE portBytes) = portBytes := by
        rw [← hlen, Bytes.toBE_ofBE]
      rw [hbytes, ← haddress]
  · rintro ⟨reserved, address, port, hrest, rfl, hwritten⟩
    obtain ⟨addressType, body, hencode⟩ : ∃ addressType body, address.encode = addressType :: body := by
      cases address with
      | ipv4 bytes => exact ⟨_, _, rfl⟩
      | domain name => exact ⟨_, _, rfl⟩
      | ipv6 bytes => exact ⟨_, _, rfl⟩
    have hlen : (Bytes.toBE 2 port).length = 2 := Bytes.length_toBE 2 port
    have hport : Bytes.ofBE (Bytes.toBE 2 port) = port := by
      rw [Bytes.ofBE_toBE]
      exact Nat.mod_eq_of_lt port.2
    refine ⟨some version, ⟨_, v.written⟩, Wire.ext hrest rfl, Or.inr ⟨not_not.2 rfl, cmdConnect,
      ⟨_, v.written⟩, rfl, some reserved, ⟨address.encode ++ (Bytes.toBE 2 port ++ w.rest), v.written⟩,
      rfl, addressType, ⟨body ++ (Bytes.toBE 2 port ++ w.rest), v.written⟩, by rw [hencode]; rfl,
      address.host hostAddress, ⟨Bytes.toBE 2 port ++ w.rest, v.written⟩,
      ⟨address, by rw [hencode]; rfl, rfl, rfl⟩, Bytes.toBE 2 port, w,
      ⟨Wire.ext rfl hwritten.symm, hlen⟩, Or.inr ⟨not_not.2 rfl, ?_, rfl⟩⟩⟩
    rw [port_eq hlen, hport]

/-- Whatever the client sends and however it arrives: the proxy has a target exactly when the stream
starts with a greeting that offers to go without authentication and a request to connect.  The target
is the one of the request, just the two messages have been read, and the choice of the method has
been written. -/
theorem negotiate_iff (hostAddress : Bytes → String) (pieces : List Bytes) (target : Target)
    (rest written : Bytes) :
    (∃ c, (negotiate hostAddress).run.run { input := pieces } = (some target, c) ∧
        c.input.flatten = rest ∧ c.output = written) ↔
      ∃ o : Opening, pieces.flatten = o.greeting ++ o.request ++ rest ∧
        target = o.target hostAddress ∧ written = [version, methodNoAuth] := by
  have hrealises : Realises (negotiate hostAddress) _ :=
    .bind realises_greet fun _ => realises_readRequest hostAddress
  have hiff := hrealises { input := pieces } target ⟨rest, written⟩
  simp only [Conn.wire, Wire.mk.injEq] at hiff
  rw [hiff]
  constructor
  · rintro ⟨-, u, ⟨methods, hlen, hmem, hgreet, hwrote⟩, reserved, address, port, hrequest, rfl, rfl⟩
    refine ⟨⟨⟨methods, hlen, hmem⟩, reserved, address, port⟩, ?_, rfl, hwrote⟩
    rw [hgreet, hrequest]
    simp [Opening.greeting, Opening.request]
  · rintro ⟨⟨⟨methods, hlen, hmem⟩, reserved, address, port⟩, hpieces, rfl, rfl⟩
    refine ⟨(), ⟨_, _⟩, ⟨methods, hlen, hmem, ?_, rfl⟩, reserved, address, port, rfl, rfl, rfl⟩
    rw [hpieces]
    simp [Opening.greeting, Opening.request]

end Turbobond.Android.Socks
