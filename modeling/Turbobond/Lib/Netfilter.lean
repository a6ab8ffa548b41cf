import Turbobond.Lib.Firewall
import Mathlib.Data.Fintype.Prod

/-!
# Packets and the rules they meet

The part of the rule language of `netfilter` that a gateway needs: a rule is a list of tests and a
statement, and a packet of IPv4 goes through the rules of a chain in order until a verdict is
reached.  Tests read the header of a packet; statements change its marks.  `iptables` and `nft`
write the same rules in two ways.
-/

namespace Turbobond.Netfilter

inductive Table where
  | filter
  | nat
  | mangle
  | raw
  deriving DecidableEq

instance : Fintype Table := ⟨{.filter, .nat, .mangle, .raw}, by intro t; cases t <;> decide⟩

inductive Hook where
  | prerouting
  | input
  | forward
  | output
  | postrouting
  deriving DecidableEq

instance : Fintype Hook :=
  ⟨{.prerouting, .input, .forward, .output, .postrouting}, by intro t; cases t <;> decide⟩

inductive Protocol where
  | udp
  | tcp
  | sctp
  | icmp
  | other (number : ℕ)
  deriving DecidableEq

/-- What connection tracking knows of a packet. -/
inductive CtState where
  | new
  | established
  | related
  | invalid
  | untracked
  deriving DecidableEq

/-- One of the two ends of a packet. -/
inductive End where
  | source
  | destination
  deriving DecidableEq

/-- A set of ports: one, a range, a list, or a set that is defined under a name. -/
inductive Ports where
  | one (port : ℤ)
  | range (first last : ℤ)
  | list (ports : List ℤ)
  | named (name : String)
  deriving DecidableEq

inductive Test where
  /-- The interfaces the packet comes in and goes out by. -/
  | inInterface (name : String)
  | outInterface (name : String)
  /-- One of its addresses is in a network or in a set of networks. -/
  | address (e : End) (set : String)
  | protocol (p : Protocol)
  /-- It is of a protocol, and one of its ports is in a set. -/
  | port (p : Protocol) (e : End) (ports : Ports)
  | ctState (states : List CtState)
  | icmpType (types : List ℕ)
  /-- Of the flags `SYN` and `RST` of TCP the first alone is set. -/
  | syn
  deriving DecidableEq

inductive Statement (υ : Type) where
  | accept
  /-- Back to the chain that was left by a jump, or out of a chain that is built in. -/
  | return
  | jump (u : υ)
  | redirect (port : ℤ)
  | masquerade
  /-- Statements after which the packet goes on to the next rule. -/
  | notrack
  | setDscp (value : ℤ)
  | setMark (value : ℕ)
  | clampMss
  deriving DecidableEq

structure Rule (υ : Type) where
  tests : List Test
  statement : Statement υ
  deriving DecidableEq

/-- What tests read of a packet, with addresses of any type. -/
structure Header (α : Type) where
  inInterface : String := ""
  outInterface : String := ""
  source : α
  destination : α
  protocol : Protocol
  sport : ℕ := 0
  dport : ℕ := 0
  icmpType : ℕ := 0
  ctState : CtState := .new
  syn : Bool := false
  deriving DecidableEq

/-- What statements change of a packet. -/
structure Marks where
  mark : ℕ := 0
  /-- The value that the field has been given, if it has. -/
  dscp : Option ℤ := none
  tracked : Bool := true
  deriving DecidableEq

inductive Verdict where
  | accept
  | redirect (port : ℤ)
  | masquerade
  deriving DecidableEq

/-- What the names of sets stand for. -/
structure Sets (α : Type) where
  ports : String → ℕ → Bool := fun _ _ => false
  addresses : String → α → Bool := fun _ _ => false

/-! ### How rules are written -/

def Protocol.name : Protocol → String
  | .udp => "udp"
  | .tcp => "tcp"
  | .sctp => "sctp"
  | .icmp => "icmp"
  | .other number => toString number

def CtState.name : CtState → String
  | .new => "new"
  | .established => "established"
  | .related => "related"
  | .invalid => "invalid"
  | .untracked => "untracked"

def icmpTypeName (type : ℕ) : String :=
  if type = 3 then "destination-unreachable"
  else if type = 11 then "time-exceeded"
  else toString type

/-- A number with its prefix, in base 16. -/
def hex (n : ℕ) : String := "0x" ++ String.ofList (Nat.toDigits 16 n)

def braces (items : List String) : String := "\x7b " ++ ", ".intercalate items ++ " \x7d"

section Nft

def Ports.nft : Ports → String
  | .one port => toString port
  | .range first last => toString first ++ "-" ++ toString last
  | .list ports => braces (ports.map toString)
  | .named name => "@" ++ name

def Test.nft : Test → String
  | .inInterface name => "iifname \"" ++ name ++ "\""
  | .outInterface name => "oifname \"" ++ name ++ "\""
  | .address .source set => "ip saddr @" ++ set
  | .address .destination set => "ip daddr @" ++ set
  | .protocol p => "meta l4proto " ++ p.name
  | .port p .source ports => p.name ++ " sport " ++ ports.nft
  | .port p .destination ports => p.name ++ " dport " ++ ports.nft
  | .ctState states => "ct state " ++ ",".intercalate (states.map CtState.name)
  | .icmpType types => "meta l4proto icmp icmp type " ++ braces (types.map icmpTypeName)
  | .syn => "tcp flags & (syn | rst) == syn"

def Statement.nft : Statement String → String
  | .accept => "accept"
  | .return => "return"
  | .jump u => "jump " ++ u
  | .redirect port => "redirect to :" ++ toString port
  | .masquerade => "masquerade"
  | .notrack => "notrack"
  | .setDscp value => "ip dscp set " ++ toString value
  | .setMark value => "meta mark set " ++ hex value
  | .clampMss => "tcp option maxseg size set rt mtu"

/-- A rule as a line of a ruleset. -/
def Rule.nft (r : Rule String) : String :=
  "    " ++ " ".intercalate (r.tests.map Test.nft ++ [r.statement.nft])

end Nft

section Iptables

def CtState.arg : CtState → String
  | .new => "NEW"
  | .established => "ESTABLISHED"
  | .related => "RELATED"
  | .invalid => "INVALID"
  | .untracked => "UNTRACKED"

def Ports.args : End → Ports → List String
  | .source, .one port => ["--sport", toString port]
  | .destination, .one port => ["--dport", toString port]
  | .source, .range first last => ["--sport", toString first ++ ":" ++ toString last]
  | .destination, .range first last => ["--dport", toString first ++ ":" ++ toString last]
  | .source, .list ports => ["-m", "multiport", "--sports", ",".intercalate (ports.map toString)]
  | .destination, .list ports =>
    ["-m", "multiport", "--dports", ",".intercalate (ports.map toString)]
  | .source, .named name => ["-m", "set", "--match-set", name, "src"]
  | .destination, .named name => ["-m", "set", "--match-set", name, "dst"]

def Test.args : Test → List String
  | .inInterface name => ["-i", name]
  | .outInterface name => ["-o", name]
  | .address .source set => ["-s", set]
  | .address .destination set => ["-d", set]
  | .protocol p => ["-p", p.name]
  | .port p e ports => ["-p", p.name] ++ ports.args e
  | .ctState states =>
    ["-m", "conntrack", "--ctstate", ",".intercalate (states.map CtState.arg)]
  | .icmpType types => ["-p", "icmp"] ++ types.flatMap fun t => ["--icmp-type", icmpTypeName t]
  | .syn => ["--tcp-flags", "SYN,RST", "SYN"]

def Statement.args : Statement String → List String
  | .accept => ["-j", "ACCEPT"]
  | .return => ["-j", "RETURN"]
  | .jump u => ["-j", u]
  | .redirect port => ["-j", "REDIRECT", "--to-ports", toString port]
  | .masquerade => ["-j", "MASQUERADE"]
  | .notrack => ["-j", "NOTRACK"]
  | .setDscp value => ["-j", "DSCP", "--set-dscp", toString value]
  | .setMark value => ["-j", "MARK", "--set-mark", hex value]
  | .clampMss => ["-j", "TCPMSS", "--clamp-mss-to-pmtu"]

def Rule.args (r : Rule String) : List String := r.tests.flatMap Test.args ++ r.statement.args

/-- The table of a command; `filter` is not named. -/
def Table.args : Table → List String
  | .filter => []
  | .nat => ["-t", "nat"]
  | .mangle => ["-t", "mangle"]
  | .raw => ["-t", "raw"]

def Hook.chain : Hook → String
  | .prerouting => "PREROUTING"
  | .input => "INPUT"
  | .forward => "FORWARD"
  | .output => "OUTPUT"
  | .postrouting => "POSTROUTING"

/-- The rules that `iptables` keeps: chains are made in `filter` only. -/
abbrev Iptables : Type := Firewall (Table × Hook) String (Rule String)

abbrev Iptables.Command : Type := FirewallCommand (Table × Hook) String (Rule String)

/-- The arguments of a command on a chain. -/
def chainArgs (action : String) : Chain (Table × Hook) String → List String
  | .builtin (table, hook) => "iptables" :: table.args ++ [action, hook.chain]
  | .user u => ["iptables", action, u]

def Iptables.Command.args : Iptables.Command → List String
  | .new u => ["iptables", "-N", u]
  | .flush c => chainArgs "-F" c
  | .append c r => chainArgs "-A" c ++ r.args
  | .insert c r => chainArgs "-I" c ++ "1" :: r.args
  | .delete c r => chainArgs "-D" c ++ r.args
  | .check c r => chainArgs "-C" c ++ r.args
  | .remove u => ["iptables", "-X", u]

/-- `multiport` takes up to fifteen ports. -/
def Test.wellFormed : Test → Bool
  | .port _ _ (.list ports) => ports ≠ [] ∧ ports.length ≤ 15
  | _ => true

def Rule.target (r : Rule String) : Option String :=
  match r.statement with
  | .jump u => some u
  | _ => none

instance : RuleSyntax (Rule String) String where
  wellFormed r := r.tests.all Test.wellFormed
  target := Rule.target

end Iptables

/-! ### What rules do -/

section Semantics

variable {α υ : Type} (sets : Sets α) (h : Header α)

def Ports.has : Ports → ℕ → Bool
  | .one p, port => (port : ℤ) = p
  | .range first last, port => first ≤ port && (port : ℤ) ≤ last
  | .list ports, port => (port : ℤ) ∈ ports
  | .named name, port => sets.ports name port

def Header.port : End → ℕ
  | .source => h.sport
  | .destination => h.dport

def Header.address : End → α
  | .source => h.source
  | .destination => h.destination

def Test.holds : Test → Bool
  | .inInterface name => h.inInterface = name
  | .outInterface name => h.outInterface = name
  | .address e set => sets.addresses set (h.address e)
  | .protocol p => h.protocol = p
  | .port p e ports => h.protocol = p && ports.has sets (h.port e)
  | .ctState states => h.ctState ∈ states
  | .icmpType types => h.protocol = .icmp && h.icmpType ∈ types
  | .syn => h.protocol = .tcp && h.syn

def Rule.applies (r : Rule υ) : Bool := r.tests.all fun t => t.holds sets h

/-- What a statement does to a packet that has passed the tests: it goes on to the next rule, it
leaves the chain, or it goes through another one first. -/
inductive Effect (υ : Type) where
  | goOn (m : Marks)
  | leave (v : Option Verdict)
  | call (u : υ)

def Statement.effect (m : Marks) : Statement υ → Effect υ
  | .accept => .leave (some .accept)
  | .return => .leave none
  | .jump u => .call u
  | .redirect port => .leave (some (.redirect port))
  | .masquerade => .leave (some .masquerade)
  | .notrack => .goOn { m with tracked := false }
  | .setDscp value => .goOn { m with dscp := some value }
  | .setMark value => .goOn { m with mark := value }
  | .clampMss => .goOn m

/-- A packet goes through rules; `call` is what becomes of it in the chains that are jumped to. -/
def walk (call : υ → Marks → Marks × Option Verdict) :
    List (Rule υ) → Marks → Marks × Option Verdict
  | [], m => (m, none)
  | r :: rs, m =>
    if r.applies sets h then
      match r.statement.effect m with
      | .goOn m => walk call rs m
      | .leave v => (m, v)
      | .call u =>
        match call u m with
        | (m, some v) => (m, some v)
        | (m, none) => walk call rs m
    else walk call rs m

/-- What becomes of a packet in a chain that was made, with at most so many jumps from there. -/
def follow [DecidableEq υ] (user : Dict υ (List (Rule υ))) : ℕ → υ → Marks → Marks × Option Verdict
  | 0, _, m => (m, none)
  | n + 1, u, m => walk sets h (follow user n) ((user.get? u).getD []) m

/-- What becomes of a packet in a chain that is built in.  Jumps do not come back to a chain, so
they are no more than there are chains. -/
def pass {β : Type} [DecidableEq υ] (fw : Firewall β υ (Rule υ)) (b : β) (m : Marks) :
    Marks × Option Verdict :=
  walk sets h (follow sets h fw.user fw.user.size) (fw.builtin b) m

variable {sets h} {call : υ → Marks → Marks × Option Verdict} {r : Rule υ} {l l' : List (Rule υ)}
  {m m' : Marks} {v : Option Verdict}

lemma walk_cons_of_not_applies (hr : r.applies sets h = false) :
    walk sets h call (r :: l) m = walk sets h call l m := by
  rw [walk, hr]
  rfl

lemma walk_cons_of_goOn (hr : r.applies sets h = true) (heff : r.statement.effect m = .goOn m') :
    walk sets h call (r :: l) m = walk sets h call l m' := by
  rw [walk, if_pos hr, heff]

lemma walk_cons_of_leave (hr : r.applies sets h = true) (heff : r.statement.effect m = .leave v) :
    walk sets h call (r :: l) m = (m, v) := by
  rw [walk, if_pos hr, heff]

/-- A chain that is nothing but a jump. -/
lemma walk_jump {u : υ} (hr : r.applies sets h = true) (heff : r.statement.effect m = .call u) :
    walk sets h call [r] m = call u m := by
  rw [walk, if_pos hr, heff]
  simp only []
  split
  · rename_i heq
    exact heq.symm
  · rename_i heq
    exact heq.symm

/-- Among rules that all leave the chain in one way, the first that applies does. -/
lemma walk_append_of_leave (hl : ∀ r ∈ l, r.statement.effect m = .leave v) :
    walk sets h call (l ++ l') m =
      if l.any (Rule.applies sets h) then (m, v) else walk sets h call l' m := by
  induction l with
  | nil => rfl
  | cons r l ih =>
    rw [List.cons_append, List.any_cons]
    cases hr : r.applies sets h with
    | true =>
      rw [walk_cons_of_leave hr (hl r List.mem_cons_self)]
      rfl
    | false =>
      rw [walk_cons_of_not_applies hr, ih fun r hr => hl r (List.mem_cons_of_mem _ hr)]
      rfl

/-- Rules that all make one change make it once, if one of them applies. -/
lemma walk_append_of_goOn {s : Statement υ} (f : Marks → Marks) (hf : ∀ m, f (f m) = f m)
    (hs : ∀ m, s.effect m = .goOn (f m)) (hl : ∀ r ∈ l, r.statement = s) :
    walk sets h call (l ++ l') m =
      walk sets h call l' (if l.any (Rule.applies sets h) then f m else m) := by
  induction l generalizing m with
  | nil => rfl
  | cons r l ih =>
    have hrest := fun r hr => hl r (List.mem_cons_of_mem _ hr)
    rw [List.cons_append, List.any_cons]
    cases hr : r.applies sets h with
    | true =>
      have heff : r.statement.effect m = .goOn (f m) := by rw [hl r List.mem_cons_self, hs]
      rw [walk_cons_of_goOn hr heff, ih hrest, hf]
      simp
    | false =>
      rw [walk_cons_of_not_applies hr, ih hrest]
      rfl

end Semantics

end Turbobond.Netfilter
