import Turbobond.Bond.Protocol
import Turbobond.Bond.Reorder
import Turbobond.Lib.Ledger

/-!
# What the datapath puts out

Both ends of the bond write packets to a TUN device and send sealed datagrams.
-/

namespace Turbobond.Bond

/-- The address a datagram came from or goes to: host and port. -/
abbrev Addr : Type := String × ℕ

/-- A datagram on its way out: what `encode_frame` was asked to seal, for which `LinkSocket`
or `PeerLink`, and where the datagram was sent; and from a concentrator, in which `Session`. -/
structure Sealed where
  holder : ℕ
  stream : ℕ := 0
  frame : Frame
  datagram : Bytes
  addr : Addr
  deriving DecidableEq

/-- What a step of the datapath puts out. -/
inductive Effect where
  /-- A packet written to the TUN device, for a session. -/
  | write (sessionId : ℕ) (packet : Bytes)
  | send (sent : Sealed)
  /-- An exception that `encode_frame` or `start` raises. -/
  | raise (error : PyError)
  deriving DecidableEq

def Effect.isRaise : Effect → Bool
  | .raise _ => true
  | _ => false

/-- What was sent, among some effects. -/
def sends (out : List Effect) : List Sealed :=
  out.filterMap fun
    | .send sent => some sent
    | _ => none

/-- The packets written to the TUN device for a session, among some effects. -/
def writes (sessionId : ℕ) (out : List Effect) : List Bytes :=
  out.filterMap fun
    | .write sid packet => if sid = sessionId then some packet else none
    | _ => none

/-! ### The datagrams of a list of effects -/

/-- The log entry of what was sent. -/
def Sealed.entry (sent : Sealed) : Entry ℕ ℕ := ⟨sent.holder, sent.frame.linkId, sent.frame.counter⟩

/-- A counter was used up without a datagram. -/
def Lost (out : List Effect) : Prop := ∃ e, Effect.raise e ∈ out

@[simp] lemma sends_nil : sends [] = [] := rfl

@[simp] lemma sends_append (out out' : List Effect) :
    sends (out ++ out') = sends out ++ sends out' := List.filterMap_append

@[simp] lemma sends_write (sid : ℕ) (out : List (ℤ × Bytes)) :
    sends (out.map fun e => .write sid e.2) = [] := by
  simp [sends, List.filterMap_map]

/-! ### The packets of a list of effects -/

@[simp] lemma writes_nil (sid : ℕ) : writes sid [] = [] := rfl

@[simp] lemma writes_append (sid : ℕ) (out out' : List Effect) :
    writes sid (out ++ out') = writes sid out ++ writes sid out' := List.filterMap_append

lemma writes_write (sid sid' : ℕ) (out : List (ℤ × Bytes)) :
    writes sid (out.map fun e => .write sid' e.2) = if sid' = sid then payloads out else [] := by
  rw [writes, List.filterMap_map]
  split
  · rename_i h
    rw [payloads, ← List.filterMap_eq_map]
    exact List.filterMap_congr fun e _ => if_pos h
  · rename_i h
    exact List.filterMap_eq_nil_iff.2 fun e _ => if_neg h

/-- The packets sealed for a session, among some effects. -/
def dataOf (sid : ℕ) (out : List Effect) : List Sealed :=
  (sends out).filter fun sent => sent.frame.type = .data ∧ sent.frame.sessionId = sid

lemma mem_dataOf {sid : ℕ} {out : List Effect} {sent : Sealed} :
    sent ∈ dataOf sid out ↔
      sent ∈ sends out ∧ sent.frame.type = .data ∧ sent.frame.sessionId = sid := by
  rw [dataOf, List.mem_filter, decide_eq_true_eq]

lemma dataOf_eq_nil {sid : ℕ} {out : List Effect}
    (h : ∀ sent ∈ sends out, sent.frame.type = .data → sent.frame.sessionId ≠ sid) :
    dataOf sid out = [] := by
  refine List.eq_nil_iff_forall_not_mem.2 fun sent hsent => ?_
  obtain ⟨hmem, htype, hsid⟩ := mem_dataOf.1 hsent
  exact h sent hmem htype hsid

end Turbobond.Bond
