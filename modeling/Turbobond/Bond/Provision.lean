import Turbobond.Config.Validate
import Turbobond.Lib.Text

/-!
# Installing the concentrator again

The unit file of `turbobond/bond/provision.py`, how it is read back, and `_provision` of
`turbobond/bond/server.py`.  The kernel tuning and the commands that start the service are left out.
-/

namespace Turbobond.Bond.Provision

open Config

/-- `int`, of a text, which reads back what `str` has written. -/
structure IntText where
  read : List Char → Option ℤ
  read_toString (n : ℤ) : read (toString n).toList = some n

/-- Floating-point numbers, as far as they are written: on one line. -/
class FloatText (R : Type) where
  text : R → String
  ninety : R
  endsLine_text : ∀ r, ∀ c ∈ (text r).toList, Text.endsLine c = false

variable {R : Type} [FloatText R]

structure ConcentratorSettings (R : Type) [FloatText R] where
  psk : String
  port : ℤ := 5310
  serverIp : String := "10.77.0.1"
  peerIp : String := "10.77.0.2"
  mtu : ℤ := 1380
  reorderMs : R := FloatText.ninety

def serverBin : String := "/usr/local/bin/turbobond-server"

namespace ConcentratorSettings

variable (s : ConcentratorSettings R)

/-- The lines of `unit_text`. -/
def unitLines : List String :=
  ["[Unit]",
    "Description=turbobond bonding concentrator",
    "Documentation=https://github.com/aegisdigitalsolutions/turbobond",
    "After=network-online.target",
    "Wants=network-online.target",
    "",
    "[Service]",
    "Type=simple",
    "Environment=TURBOBOND_PSK=" ++ s.psk,
    "ExecStart=" ++ serverBin ++ " \\",
    "    --listen 0.0.0.0:" ++ toString s.port ++ " \\",
    "    --local-cidr " ++ s.serverIp ++ "/30 \\",
    "    --peer-ip " ++ s.peerIp ++ " \\",
    "    --mtu " ++ toString s.mtu ++ " \\",
    "    --reorder-ms " ++ FloatText.text s.reorderMs,
    "Restart=always",
    "RestartSec=3",
    "AmbientCapabilities=CAP_NET_ADMIN CAP_NET_RAW",
    "CapabilityBoundingSet=CAP_NET_ADMIN CAP_NET_RAW",
    "LimitNOFILE=131072",
    "",
    "[Install]",
    "WantedBy=multi-user.target"]

/-- `unit_text`. -/
def unitText : List Char := Text.unlines (s.unitLines.map String.toList)

end ConcentratorSettings

/-! ### Reading the unit -/

/-- The unit, as it is found. -/
inductive UnitFile where
  | missing
  | unreadable
  | text (content : List Char)

inductive ProvisionError where
  | needsRoot
  /-- `PermissionError`, on which nothing is installed. -/
  | unreadable
  /-- `ValueError` or `IndexError`, which nothing catches. -/
  | malformed
  deriving DecidableEq

/-- What the lines read so far say. -/
structure Found where
  psk : List Char := []
  port : ℤ := 5310
  serverIp : List Char := "10.77.0.1".toList
  peerIp : List Char := "10.77.0.2".toList

/-- `str.startswith`. -/
def startsWith (line : List Char) (pre : String) : Bool := pre.toList.isPrefixOf line

/-- One line of `installed_settings`. -/
def readLine (int : IntText) (found : Found) (line : List Char) : Except ProvisionError Found :=
  let line := strip line
  if startsWith line "Environment=TURBOBOND_PSK=" then
    .ok { found with psk := Text.after '=' (Text.after '=' line) }
  else if startsWith line "--listen" then
    match int.read ((Text.afterLast ':' line).rdropWhile fun c => c = ' ' ∨ c = '\\') with
    | some port => .ok { found with port }
    | none => .error .malformed
  else if startsWith line "--local-cidr" then
    match (Text.words isSpace line)[1]? with
    | some word => .ok { found with serverIp := Text.before '/' word }
    | none => .error .malformed
  else if startsWith line "--peer-ip" then
    match (Text.words isSpace line)[1]? with
    | some word => .ok { found with peerIp := word.rdropWhile fun c => c = ' ' ∨ c = '\\' }
    | none => .error .malformed
  else .ok found

/-- `installed_settings`; `read_text` and `splitlines` take the same characters for ends of lines. -/
def installedSettings (int : IntText) :
    UnitFile → Except ProvisionError (Option (ConcentratorSettings R))
  | .missing => .ok none
  | .unreadable => .error .unreadable
  | .text content => do
    let found ← (Text.splitlines content).foldlM (readLine int) {}
    if found.psk = [] then return none
    return some
      { psk := String.ofList found.psk, port := found.port, serverIp := String.ofList found.serverIp
        peerIp := String.ofList found.peerIp }

/-! ### Installing -/

/-- `secrets.token_hex`, of 32 random bytes. -/
def generatePsk (random : Fin 32 → Fin 256) : String :=
  String.ofList <| (List.ofFn random).flatMap fun b =>
    [Nat.digitChar (b.val / 16), Nat.digitChar (b.val % 16)]

/-- The arguments of `turbobond-server` that matter here, with their defaults; that of the key is the
variable `TURBOBOND_PSK` of the environment, if it is set. -/
structure Arguments (R : Type) [FloatText R] where
  listen : String := "0.0.0.0:5310"
  psk : String := ""
  mtu : ℤ := 1380
  localCidr : String := "10.77.0.1/30"
  peerIp : String := "10.77.0.2"
  reorderMs : R := FloatText.ninety

/-- The key that is installed, or a new one. -/
def keyOf (random : Fin 32 → Fin 256) : Option (ConcentratorSettings R) → String
  | some existing => if existing.psk ≠ "" then existing.psk else generatePsk random
  | none => generatePsk random

/-- `_provision`: the settings that `provision_host` writes. -/
def provision (int : IntText) (isRoot : Bool) (unit : UnitFile) (random : Fin 32 → Fin 256)
    (args : Arguments R) : Except ProvisionError (ConcentratorSettings R) := do
  if !isRoot then throw .needsRoot
  let existing : Option (ConcentratorSettings R) ← installedSettings int unit
  let psk := if args.psk ≠ "" then args.psk else keyOf random existing
  let portText := Text.afterLast ':' args.listen.toList
  let port ← if portText = [] then pure 5310 else (int.read portText).elim (throw .malformed) pure
  return { psk, port, serverIp := String.ofList (Text.before '/' args.localCidr.toList)
           peerIp := args.peerIp, mtu := args.mtu, reorderMs := args.reorderMs }

/-- The unit that `provision_host` leaves. -/
def ConcentratorSettings.unit (s : ConcentratorSettings R) : UnitFile := .text s.unitText

/-- A key that is read back from a unit: it is there, it is on one line, and its last character is not
a space. -/
structure KeptKey (psk : List Char) : Prop where
  ne_nil : psk ≠ []
  oneLine : ∀ c ∈ psk, Text.endsLine c = false
  last : psk.rdropWhile isSpace = psk

lemma isDigit_of_mem_toString {n : ℤ} {c : Char} (h : c ∈ (toString n).toList) :
    c.isDigit = true ∨ c = '-' := by
  cases n with
  | ofNat n =>
    left
    have hrepr : (toString (Int.ofNat n)) = n.repr := rfl
    rw [hrepr, Nat.toList_repr] at h
    exact Nat.isDigit_of_mem_toDigits (by decide) (by decide) h
  | negSucc n =>
    have hrepr : (toString (Int.negSucc n)) = "-" ++ (n + 1).repr := rfl
    rw [hrepr, String.toList_append, Nat.toList_repr, List.mem_append] at h
    rcases h with h | h
    · right
      simpa using h
    · left
      exact Nat.isDigit_of_mem_toDigits (by decide) (by decide) h

lemma plain_of_mem_toString {n : ℤ} {c : Char} (h : c ∈ (toString n).toList) :
    isSpace c = false ∧ Text.endsLine c = false ∧ c ≠ ':' ∧ c ≠ '\\' := by
  have hspace : ∀ c : Char, isSpace c = true → ¬ c.isDigit := by
    intro c hc hd
    simp [isSpace, Char.isDigit, UInt32.le_iff_toNat_le] at hc hd
    omega
  have hline : ∀ c : Char, Text.endsLine c = true → ¬ c.isDigit := by
    intro c hc hd
    simp [Text.endsLine, Char.isDigit, UInt32.le_iff_toNat_le] at hc hd
    omega
  rcases isDigit_of_mem_toString h with hdigit | rfl
  · refine ⟨?_, ?_, ?_, ?_⟩
    · cases hc : isSpace c with
      | true => exact absurd hdigit (hspace c hc)
      | false => rfl
    · cases hc : Text.endsLine c with
      | true => exact absurd hdigit (hline c hc)
      | false => rfl
    · rintro rfl
      exact absurd hdigit (by decide)
    · rintro rfl
      exact absurd hdigit (by decide)
  · decide

/-! ### What is read of a line -/

variable {int : IntText} {found : Found} {s t : List Char} {p : Char → Bool}

lemma dropWhile_append_of_first (hne : s ≠ []) (hs : s.dropWhile p = s) (t : List Char) :
    (s ++ t).dropWhile p = s ++ t := by
  cases s with
  | nil => exact absurd rfl hne
  | cons c s =>
    rw [List.cons_append, List.dropWhile_cons_of_neg]
    rw [List.dropWhile_eq_self_iff] at hs
    exact hs (Nat.succ_pos _)

lemma rdropWhile_append_of_last (s : List Char) (hne : t ≠ []) (ht : t.rdropWhile p = t) :
    (s ++ t).rdropWhile p = s ++ t := by
  rw [List.rdropWhile_eq_self_iff] at ht ⊢
  intro hl
  rw [List.getLast_append_of_ne_nil _ hne]
  exact ht hne

/-- What is between the spaces at both ends of a line. -/
lemma strip_append (lead : List Char) (hlead : ∀ c ∈ lead, isSpace c = true) (hs : s ≠ [])
    (hfirst : s.dropWhile isSpace = s) (ht : t ≠ []) (hlast : t.rdropWhile isSpace = t) :
    strip (lead ++ (s ++ t)) = s ++ t := by
  rw [strip, List.dropWhile_append_of_pos hlead, dropWhile_append_of_first hs hfirst,
    rdropWhile_append_of_last s ht hlast]

lemma startsWith_append {pre : String} (h : pre.toList <+: s) : startsWith (s ++ t) pre = true :=
  List.isPrefixOf_iff_prefix.2 (h.trans (List.prefix_append s t))

/-- A text does not start with one that neither starts with its first part nor begins it. -/
lemma startsWith_append_eq_false {pre : String} (h : ¬ pre.toList <+: s) (h' : ¬ s <+: pre.toList) :
    startsWith (s ++ t) pre = false := by
  rw [Bool.eq_false_iff]
  intro hpre
  rcases List.prefix_or_prefix_of_prefix (List.isPrefixOf_iff_prefix.1 hpre)
    (List.prefix_append s t) with hle | hle
  · exact h hle
  · exact h' hle

/-- The prefixes of the lines that are read. -/
def prefixes : List String :=
  ["Environment=TURBOBOND_PSK=", "--listen", "--local-cidr", "--peer-ip"]

lemma readLine_of_other {line : List Char} (h : ∀ pre ∈ prefixes, startsWith (strip line) pre = false) :
    readLine int found line = .ok found := by
  simp only [prefixes, List.forall_mem_cons] at h
  obtain ⟨hpsk, hlisten, hcidr, hpeer, -⟩ := h
  simp only [readLine, hpsk, hlisten, hcidr, hpeer, Bool.false_eq_true, if_false]

/-- A line with a value that is not read. -/
lemma readLine_append_of_other {l : List Char} (hs : ∀ pre ∈ prefixes, ¬ pre.toList <+: s ∧ ¬ s <+: pre.toList)
    (hne : s ≠ []) (hfirst : s.dropWhile isSpace = s) {lead : List Char}
    (hlead : ∀ c ∈ lead, isSpace c = true) : readLine int found (lead ++ (s ++ l)) = .ok found := by
  refine readLine_of_other fun pre hpre => ?_
  rw [Bool.eq_false_iff]
  intro hstart
  have hprefix : pre.toList <+: s ++ l := by
    refine (List.isPrefixOf_iff_prefix.1 hstart).trans ?_
    rw [strip, List.dropWhile_append_of_pos hlead, dropWhile_append_of_first hne hfirst]
    exact List.rdropWhile_prefix _ _
  obtain ⟨hno, hno'⟩ := hs pre hpre
  rcases List.prefix_or_prefix_of_prefix hprefix (List.prefix_append s l) with hle | hle
  · exact hno hle
  · exact hno' hle

lemma readLine_psk {psk : String} (h : KeptKey psk.toList) :
    readLine int found ("Environment=TURBOBOND_PSK=" ++ psk).toList =
      .ok { found with psk := psk.toList } := by
  have hstrip : strip ("Environment=TURBOBOND_PSK=" ++ psk).toList =
      "Environment=TURBOBOND_PSK=".toList ++ psk.toList := by
    rw [String.toList_append]
    exact strip_append [] (s := "Environment=TURBOBOND_PSK=".toList) (by simp) (by decide) (by decide)
      h.ne_nil h.last
  have hcut : "Environment=TURBOBOND_PSK=".toList ++ psk.toList =
      "Environment".toList ++ '=' :: ("TURBOBOND_PSK".toList ++ '=' :: psk.toList) := by
    rw [← List.cons_append, ← List.append_assoc]
    rfl
  simp only [readLine, hstrip, startsWith_append (List.prefix_refl _), if_true]
  rw [hcut, Text.after_append (by decide), Text.after_append (by decide)]

/-- A line of `ExecStart`, taken apart. -/
lemma toList_argument {argument : String} (lead name : String) (h : argument = lead ++ name)
    (value rest : String) : (argument ++ value ++ rest).toList =
      lead.toList ++ (name.toList ++ (value.toList ++ rest.toList)) := by
  rw [h]
  simp only [String.toList_append, List.append_assoc]

lemma readLine_listen (port : ℤ) :
    readLine int found ("    --listen 0.0.0.0:" ++ toString port ++ " \\").toList =
      .ok { found with port } := by
  have hline : ("    --listen 0.0.0.0:" ++ toString port ++ " \\").toList =
      "    ".toList ++ ("--listen 0.0.0.0:".toList ++ ((toString port).toList ++ " \\".toList)) :=
    toList_argument "    " "--listen 0.0.0.0:" rfl _ _
  have hlast : ((toString port).toList ++ " \\".toList).rdropWhile isSpace =
      (toString port).toList ++ " \\".toList :=
    rdropWhile_append_of_last _ (by decide) (by decide)
  have hcut : "--listen 0.0.0.0:".toList ++ ((toString port).toList ++ " \\".toList) =
      "--listen 0.0.0.0".toList ++ ':' :: ((toString port).toList ++ " \\".toList) := by
    rw [show "--listen 0.0.0.0:".toList = "--listen 0.0.0.0".toList ++ [':'] by decide,
      List.append_assoc, List.singleton_append]
  have hcolon : ':' ∉ (toString port).toList ++ " \\".toList := by
    rw [List.mem_append, not_or]
    exact ⟨fun h => (plain_of_mem_toString h).2.2.1 rfl, by decide⟩
  have hport : ((toString port).toList ++ " \\".toList).rdropWhile (fun c => c = ' ' ∨ c = '\\') =
      (toString port).toList := by
    refine Text.rdropWhile_append_self (Text.forall_mem (by decide))
      (List.rdropWhile_eq_self_iff.2 fun hne => ?_)
    have hplain := plain_of_mem_toString (List.getLast_mem hne)
    have hspace : (toString port).toList.getLast hne ≠ ' ' := fun heq =>
      absurd hplain.1 (by rw [heq]; decide)
    simpa using ⟨hspace, hplain.2.2.2⟩
  have hpsk : startsWith ("--listen 0.0.0.0:".toList ++ ((toString port).toList ++ " \\".toList))
      "Environment=TURBOBOND_PSK=" = false := startsWith_append_eq_false (by decide) (by decide)
  have hlisten : startsWith ("--listen 0.0.0.0:".toList ++ ((toString port).toList ++ " \\".toList))
      "--listen" = true := startsWith_append (by decide)
  rw [hline, readLine, strip_append _ (Text.forall_mem (by decide)) (by decide) (by decide)
    (by simp) hlast]
  simp only [hpsk, hlisten, Bool.false_eq_true, if_false, if_true]
  rw [hcut, Text.afterLast_append _ hcolon, hport, int.read_toString]

lemma readLine_localCidr {serverIp : String} (hspace : ∀ c ∈ serverIp.toList, isSpace c = false)
    (hslash : '/' ∉ serverIp.toList) :
    readLine int found ("    --local-cidr " ++ serverIp ++ "/30 \\").toList =
      .ok { found with serverIp := serverIp.toList } := by
  have hline : ("    --local-cidr " ++ serverIp ++ "/30 \\").toList =
      "    ".toList ++ ("--local-cidr ".toList ++ (serverIp.toList ++ "/30 \\".toList)) :=
    toList_argument "    " "--local-cidr " rfl _ _
  have hlast : (serverIp.toList ++ "/30 \\".toList).rdropWhile isSpace =
      serverIp.toList ++ "/30 \\".toList := rdropWhile_append_of_last _ (by decide) (by decide)
  have hwords : Text.words isSpace
      ("--local-cidr ".toList ++ (serverIp.toList ++ "/30 \\".toList)) =
      ["--local-cidr".toList, serverIp.toList ++ "/30".toList, "\\".toList] := by
    have hcut : "--local-cidr ".toList ++ (serverIp.toList ++ "/30 \\".toList) =
        "--local-cidr".toList ++ ' ' :: ((serverIp.toList ++ "/30".toList) ++ ' ' :: "\\".toList) := by
      rw [show "--local-cidr ".toList = "--local-cidr".toList ++ [' '] by decide,
        show "/30 \\".toList = "/30".toList ++ ' ' :: "\\".toList by decide]
      simp only [List.append_assoc, List.singleton_append]
    have hword : ∀ c ∈ serverIp.toList ++ "/30".toList, isSpace c = false :=
      List.forall_mem_append.2 ⟨hspace, Text.forall_mem (by decide)⟩
    rw [hcut, Text.words_append (by decide) (Text.forall_mem (by decide)) (by decide),
      Text.words_append (by simp) hword (by decide),
      Text.words_of_word (by decide) (Text.forall_mem (by decide))]
  have hpsk : startsWith ("--local-cidr ".toList ++ (serverIp.toList ++ "/30 \\".toList))
      "Environment=TURBOBOND_PSK=" = false := startsWith_append_eq_false (by decide) (by decide)
  have hlisten : startsWith ("--local-cidr ".toList ++ (serverIp.toList ++ "/30 \\".toList))
      "--listen" = false := startsWith_append_eq_false (by decide) (by decide)
  have hcidr : startsWith ("--local-cidr ".toList ++ (serverIp.toList ++ "/30 \\".toList))
      "--local-cidr" = true := startsWith_append (by decide)
  rw [hline, readLine, strip_append _ (Text.forall_mem (by decide)) (by decide) (by decide)
    (by simp) hlast]
  simp only [hpsk, hlisten, hcidr, hwords, Bool.false_eq_true, if_false, if_true]
  rw [show "/30".toList = '/' :: "30".toList by decide]
  simp only [List.getElem?_cons_succ, List.getElem?_cons_zero, Text.before_append hslash]

lemma readLine_peerIp {peerIp : String} (hne : peerIp.toList ≠ [])
    (hspace : ∀ c ∈ peerIp.toList, isSpace c = false)
    (hlast : peerIp.toList.rdropWhile (fun c => c = ' ' ∨ c = '\\') = peerIp.toList) :
    readLine int found ("    --peer-ip " ++ peerIp ++ " \\").toList =
      .ok { found with peerIp := peerIp.toList } := by
  have hline : ("    --peer-ip " ++ peerIp ++ " \\").toList =
      "    ".toList ++ ("--peer-ip ".toList ++ (peerIp.toList ++ " \\".toList)) :=
    toList_argument "    " "--peer-ip " rfl _ _
  have hend : (peerIp.toList ++ " \\".toList).rdropWhile isSpace = peerIp.toList ++ " \\".toList :=
    rdropWhile_append_of_last _ (by decide) (by decide)
  have hwords : Text.words isSpace ("--peer-ip ".toList ++ (peerIp.toList ++ " \\".toList)) =
      ["--peer-ip".toList, peerIp.toList, "\\".toList] := by
    have hcut : "--peer-ip ".toList ++ (peerIp.toList ++ " \\".toList) =
        "--peer-ip".toList ++ ' ' :: (peerIp.toList ++ ' ' :: "\\".toList) := by
      rw [show "--peer-ip ".toList = "--peer-ip".toList ++ [' '] by decide,
        show " \\".toList = ' ' :: "\\".toList by decide]
      simp only [List.append_assoc, List.singleton_append]
    rw [hcut, Text.words_append (by decide) (Text.forall_mem (by decide)) (by decide),
      Text.words_append hne hspace (by decide),
      Text.words_of_word (by decide) (Text.forall_mem (by decide))]
  have hpsk : startsWith ("--peer-ip ".toList ++ (peerIp.toList ++ " \\".toList))
      "Environment=TURBOBOND_PSK=" = false := startsWith_append_eq_false (by decide) (by decide)
  have hlisten : startsWith ("--peer-ip ".toList ++ (peerIp.toList ++ " \\".toList))
      "--listen" = false := startsWith_append_eq_false (by decide) (by decide)
  have hcidr : startsWith ("--peer-ip ".toList ++ (peerIp.toList ++ " \\".toList))
      "--local-cidr" = false := startsWith_append_eq_false (by decide) (by decide)
  have hpeer : startsWith ("--peer-ip ".toList ++ (peerIp.toList ++ " \\".toList))
      "--peer-ip" = true := startsWith_append (by decide)
  rw [hline, readLine, strip_append _ (Text.forall_mem (by decide)) (by decide) (by decide)
    (by simp) hend]
  simp only [hpsk, hlisten, hcidr, hpeer, hwords, Bool.false_eq_true, if_false, if_true]
  simp only [List.getElem?_cons_succ, List.getElem?_cons_zero, hlast]

/-! ### The unit is read back -/

/-- Settings that are read back as they were written. -/
structure ConcentratorSettings.Readable (s : ConcentratorSettings R) : Prop where
  psk : KeptKey s.psk.toList
  serverIp : ∀ c ∈ s.serverIp.toList, isSpace c = false
  noSlash : '/' ∉ s.serverIp.toList
  peerIp : ∀ c ∈ s.peerIp.toList, isSpace c = false
  peerIp_ne : s.peerIp.toList ≠ []
  last : s.peerIp.toList.rdropWhile (fun c => c = ' ' ∨ c = '\\') = s.peerIp.toList

lemma endsLine_of_not_isSpace {c : Char} (h : isSpace c = false) : Text.endsLine c = false := by
  simp [isSpace, Text.endsLine] at h ⊢
  omega

lemma endsLine_of_mem_unitLines {s : ConcentratorSettings R} (h : s.Readable) :
    ∀ line ∈ s.unitLines.map String.toList, ∀ c ∈ line, Text.endsLine c = false := by
  have hpsk := h.psk.oneLine
  have hserver := fun c hc => endsLine_of_not_isSpace (h.serverIp c hc)
  have hpeer := fun c hc => endsLine_of_not_isSpace (h.peerIp c hc)
  have hport : ∀ n : ℤ, ∀ c ∈ (toString n).toList, Text.endsLine c = false :=
    fun n c hc => (plain_of_mem_toString hc).2.1
  have hreorder := FloatText.endsLine_text s.reorderMs
  rw [ConcentratorSettings.unitLines]
  simp only [List.map_cons, List.map_nil, List.forall_mem_cons, String.toList_append,
    List.forall_mem_append, serverBin]
  and_intros
  all_goals first | exact Text.forall_mem (by decide) | decide | exact hport _ | assumption

lemma foldlM_readLine_of_other {lines : List (List Char)}
    (h : ∀ line ∈ lines, ∀ pre ∈ prefixes, startsWith (strip line) pre = false) :
    lines.foldlM (readLine int) found = .ok found := by
  induction lines with
  | nil => rfl
  | cons line lines ih =>
    rw [List.foldlM_cons, readLine_of_other (h line List.mem_cons_self)]
    exact ih fun l hl => h l (List.mem_cons_of_mem _ hl)

lemma foldlM_unitLines {s : ConcentratorSettings R} (h : s.Readable) :
    (s.unitLines.map String.toList).foldlM (readLine int) {} =
      .ok { psk := s.psk.toList, port := s.port, serverIp := s.serverIp.toList
            peerIp := s.peerIp.toList } := by
  have hbefore : ∀ found, (["[Unit]", "Description=turbobond bonding concentrator",
      "Documentation=https://github.com/aegisdigitalsolutions/turbobond",
      "After=network-online.target", "Wants=network-online.target", "", "[Service]",
      "Type=simple"].map String.toList).foldlM (readLine int) found = .ok found :=
    fun found => foldlM_readLine_of_other (by decide +kernel)
  have hafter : ∀ found, (["Restart=always", "RestartSec=3",
      "AmbientCapabilities=CAP_NET_ADMIN CAP_NET_RAW",
      "CapabilityBoundingSet=CAP_NET_ADMIN CAP_NET_RAW", "LimitNOFILE=131072", "", "[Install]",
      "WantedBy=multi-user.target"].map String.toList).foldlM (readLine int) found = .ok found :=
    fun found => foldlM_readLine_of_other (by decide +kernel)
  have hexec : ∀ found, readLine int found ("ExecStart=" ++ serverBin ++ " \\").toList = .ok found :=
    fun found => readLine_of_other (by decide +kernel)
  have hmtu : ∀ found, readLine int found ("    --mtu " ++ toString s.mtu ++ " \\").toList =
      .ok found := by
    intro found
    have hline : ("    --mtu " ++ toString s.mtu ++ " \\").toList =
        "    ".toList ++ ("--mtu ".toList ++ ((toString s.mtu).toList ++ " \\".toList)) :=
      toList_argument "    " "--mtu " rfl _ _
    rw [hline]
    exact readLine_append_of_other (by decide) (by decide) (by decide) (Text.forall_mem (by decide))
  have hreorder : ∀ found, readLine int found
      ("    --reorder-ms " ++ FloatText.text s.reorderMs).toList = .ok found := by
    intro found
    have hline : ("    --reorder-ms " ++ FloatText.text s.reorderMs).toList =
        "    ".toList ++ ("--reorder-ms ".toList ++ (FloatText.text s.reorderMs).toList) := by
      simp only [String.toList_append, ← List.append_assoc]
      rfl
    rw [hline]
    exact readLine_append_of_other (by decide) (by decide) (by decide) (Text.forall_mem (by decide))
  have hlines : s.unitLines.map String.toList =
      ["[Unit]", "Description=turbobond bonding concentrator",
        "Documentation=https://github.com/aegisdigitalsolutions/turbobond",
        "After=network-online.target", "Wants=network-online.target", "", "[Service]",
        "Type=simple"].map String.toList ++
      [("Environment=TURBOBOND_PSK=" ++ s.psk).toList, ("ExecStart=" ++ serverBin ++ " \\").toList,
        ("    --listen 0.0.0.0:" ++ toString s.port ++ " \\").toList,
        ("    --local-cidr " ++ s.serverIp ++ "/30 \\").toList,
        ("    --peer-ip " ++ s.peerIp ++ " \\").toList,
        ("    --mtu " ++ toString s.mtu ++ " \\").toList,
        ("    --reorder-ms " ++ FloatText.text s.reorderMs).toList] ++
      ["Restart=always", "RestartSec=3", "AmbientCapabilities=CAP_NET_ADMIN CAP_NET_RAW",
        "CapabilityBoundingSet=CAP_NET_ADMIN CAP_NET_RAW", "LimitNOFILE=131072", "", "[Install]",
        "WantedBy=multi-user.target"].map String.toList := rfl
  rw [hlines, List.foldlM_append, List.foldlM_append, hbefore]
  simp only [List.foldlM_cons, List.foldlM_nil, readLine_psk h.psk, hexec, readLine_listen,
    readLine_localCidr h.serverIp h.noSlash, readLine_peerIp h.peerIp_ne h.peerIp h.last, hmtu,
    hreorder, bind, Except.bind, pure, Except.pure, hafter]

/-- The unit is read back, but for the MTU and the reorder time, which are not read. -/
theorem installedSettings_unit {s : ConcentratorSettings R} (h : s.Readable) :
    installedSettings int s.unit =
      .ok (some ({ psk := s.psk, port := s.port, serverIp := s.serverIp, peerIp := s.peerIp } :
        ConcentratorSettings R)) := by
  rw [ConcentratorSettings.unit, installedSettings, ConcentratorSettings.unitText,
    Text.splitlines_unlines (endsLine_of_mem_unitLines h), foldlM_unitLines h]
  simp [bind, Except.bind, h.psk.ne_nil, pure, Except.pure]

/-! ### The key that is read -/

lemma after_suffix (c : Char) (s : List Char) : Text.after c s <:+ s :=
  (List.drop_suffix _ _).trans (List.dropWhile_suffix _)

lemma strip_isInfix (s : List Char) : strip s <:+: s :=
  (List.rdropWhile_prefix _ _).isInfix.trans (List.dropWhile_suffix _).isInfix

/-- The end of a text whose last character is not a space. -/
lemma rdropWhile_of_suffix (h : s <:+ t) (ht : t.rdropWhile p = t) : s.rdropWhile p = s := by
  rw [List.rdropWhile_eq_self_iff] at ht ⊢
  intro hne
  obtain ⟨r, rfl⟩ := h
  have hlast := ht (List.append_ne_nil_of_right_ne_nil r hne)
  rwa [List.getLast_append_of_ne_nil _ hne] at hlast

/-- Only keys that are kept are read of lines. -/
lemma keptKey_of_readLine {found' : Found} {line : List Char}
    (hline : ∀ c ∈ line, Text.endsLine c = false)
    (hfound : found.psk ≠ [] → KeptKey found.psk) (h : readLine int found line = .ok found')
    (hne : found'.psk ≠ []) : KeptKey found'.psk := by
  rw [readLine] at h
  split_ifs at h with hpsk hlisten hcidr hpeer
  · obtain rfl := (Except.ok.inj h).symm
    have hsuffix : Text.after '=' (Text.after '=' (strip line)) <:+ strip line :=
      (after_suffix _ _).trans (after_suffix _ _)
    exact ⟨hne, fun c hc => hline c ((strip_isInfix line).subset (hsuffix.subset hc)),
      rdropWhile_of_suffix hsuffix (List.rdropWhile_idempotent _ _)⟩
  · split at h
    · obtain rfl := (Except.ok.inj h).symm
      exact hfound hne
    · exact absurd h (by simp)
  · split at h
    · obtain rfl := (Except.ok.inj h).symm
      exact hfound hne
    · exact absurd h (by simp)
  · split at h
    · obtain rfl := (Except.ok.inj h).symm
      exact hfound hne
    · exact absurd h (by simp)
  · obtain rfl := (Except.ok.inj h).symm
    exact hfound hne

lemma keptKey_of_foldlM {found' : Found} {lines : List (List Char)}
    (hlines : ∀ line ∈ lines, ∀ c ∈ line, Text.endsLine c = false)
    (hfound : found.psk ≠ [] → KeptKey found.psk)
    (h : lines.foldlM (readLine int) found = .ok found') (hne : found'.psk ≠ []) :
    KeptKey found'.psk := by
  induction lines generalizing found with
  | nil =>
    obtain rfl := Except.ok.inj h
    exact hfound hne
  | cons line lines ih =>
    rw [List.foldlM_cons] at h
    cases hnext : readLine int found line with
    | error e =>
      rw [hnext] at h
      exact absurd h (by simp [bind, Except.bind])
    | ok next =>
      rw [hnext] at h
      exact ih (fun l hl => hlines l (List.mem_cons_of_mem _ hl))
        (keptKey_of_readLine (hlines line List.mem_cons_self) hfound hnext) h

lemma keptKey_of_installedSettings {content : List Char} {s : ConcentratorSettings R}
    (h : installedSettings int (.text content) = .ok (some s)) : KeptKey s.psk.toList := by
  rw [installedSettings] at h
  cases hfound : (Text.splitlines content).foldlM (readLine int) {} with
  | error e =>
    rw [hfound] at h
    exact absurd h (by simp [bind, Except.bind])
  | ok found =>
    rw [hfound] at h
    by_cases hnil : found.psk = []
    · simp [bind, Except.bind, hnil, pure, Except.pure] at h
    · simp only [bind, Except.bind, hnil, if_false, pure, Except.pure, Except.ok.injEq,
        Option.some.injEq] at h
      rw [← h, String.toList_ofList]
      exact keptKey_of_foldlM (fun _ => Text.endsLine_of_mem_splitlines) (fun hne => absurd rfl hne)
        hfound hnil

/-- A new key is kept. -/
lemma keptKey_generatePsk (random : Fin 32 → Fin 256) : KeptKey (generatePsk random).toList := by
  have hdigit : ∀ d : Fin 16, isSpace (Nat.digitChar d) = false := by decide
  have hspace : ∀ c ∈ (generatePsk random).toList, isSpace c = false := by
    intro c hc
    rw [generatePsk, String.toList_ofList] at hc
    obtain ⟨b, -, hc⟩ := List.mem_flatMap.1 hc
    simp only [List.mem_cons, List.not_mem_nil, or_false] at hc
    rcases hc with rfl | rfl
    · exact hdigit ⟨b / 16, Nat.div_lt_of_lt_mul b.2⟩
    · exact hdigit ⟨b % 16, Nat.mod_lt _ (by decide)⟩
  refine ⟨?_, fun c hc => endsLine_of_not_isSpace (hspace c hc), ?_⟩
  · rw [generatePsk, String.toList_ofList, List.ofFn_succ]
    exact List.cons_ne_nil _ _
  · rw [List.rdropWhile_eq_self_iff]
    intro hne
    simp [hspace _ (List.getLast_mem hne)]

/-! ### Installing again -/

/-- Without options the settings are the defaults, with the key that is there or a new one. -/
lemma provision_default {unit : UnitFile} {random : Fin 32 → Fin 256}
    {existing : Option (ConcentratorSettings R)}
    (h : installedSettings int unit = .ok existing) :
    provision int true unit random ({} : Arguments R) =
      .ok { psk := keyOf random existing } := by
  have hport : int.read (Text.afterLast ':' "0.0.0.0:5310".toList) = some 5310 := by
    have htext : Text.afterLast ':' "0.0.0.0:5310".toList = (toString (5310 : ℤ)).toList := by decide
    rw [htext, int.read_toString]
  have hne : Text.afterLast ':' "0.0.0.0:5310".toList ≠ [] := by decide
  have hserver : String.ofList (Text.before '/' "10.77.0.1/30".toList) = "10.77.0.1" := by decide
  rw [provision, h]
  simp only [Bool.not_true, Bool.false_eq_true, if_false, bind, Except.bind, pure, Except.pure, hne,
    hport, hserver, Option.elim_some, ne_eq, not_true_eq_false]

/-- Installing again without options writes the same settings if and only if the key is one that is
kept and all else is as the defaults have it. -/
theorem keepsPaired_iff (int : IntText) (random : Fin 32 → Fin 256) (s : ConcentratorSettings R) :
    provision int true s.unit random {} = .ok s ↔
      KeptKey s.psk.toList ∧ s.port = 5310 ∧ s.serverIp = "10.77.0.1" ∧ s.peerIp = "10.77.0.2" ∧
        s.mtu = 1380 ∧ s.reorderMs = FloatText.ninety := by
  constructor
  · intro h
    cases hinstalled : installedSettings (R := R) int s.unit with
    | error e =>
      rw [provision, hinstalled] at h
      exact absurd h (by simp [bind, Except.bind])
    | ok existing =>
      rw [provision_default hinstalled] at h
      obtain rfl := Except.ok.inj h
      refine ⟨?_, rfl, rfl, rfl, rfl, rfl⟩
      cases existing with
      | none => exact keptKey_generatePsk random
      | some settings =>
        by_cases hne : settings.psk = ""
        · simpa [keyOf, hne] using keptKey_generatePsk random
        · simpa [keyOf, hne] using keptKey_of_installedSettings hinstalled
  · intro ⟨hkey, hport, hserver, hpeer, hmtu, hreorder⟩
    have hreadable : s.Readable := by
      refine ⟨hkey, ?_, ?_, ?_, ?_, ?_⟩
      · rw [hserver]; exact Text.forall_mem (by decide)
      · rw [hserver]; decide
      · rw [hpeer]; exact Text.forall_mem (by decide)
      · rw [hpeer]; decide
      · rw [hpeer]; decide
    have hne : s.psk ≠ "" := fun heq => hkey.ne_nil (by rw [heq]; rfl)
    rw [provision_default (installedSettings_unit hreadable)]
    simp only [keyOf, hne, ne_eq, not_false_eq_true, if_true, Except.ok.injEq]
    rw [← hport, ← hserver, ← hpeer, ← hmtu, ← hreorder]

/-- What is installed first without options is kept. -/
theorem provision_again {random random' : Fin 32 → Fin 256} {s : ConcentratorSettings R}
    (h : provision int true .missing random {} = .ok s) :
    provision int true s.unit random' {} = .ok s := by
  have hinstalled : installedSettings int .missing = .ok (none : Option (ConcentratorSettings R)) := rfl
  rw [provision_default hinstalled] at h
  obtain rfl := Except.ok.inj h
  exact (keepsPaired_iff int random' _).2 ⟨keptKey_generatePsk random, rfl, rfl, rfl, rfl, rfl⟩

/-- `int`, of numerals. -/
def readNumeral (s : List Char) : Option ℤ :=
  if s ≠ [] ∧ s.all Char.isDigit then some (Nat.ofDigitChars 10 s 0 : ℕ) else none

lemma readNumeral_toDigits (n : ℕ) : readNumeral (Nat.toDigits 10 n) = some (n : ℤ) := by
  have hall : (Nat.toDigits 10 n).all Char.isDigit = true :=
    List.all_eq_true.2 fun c hc => Nat.isDigit_of_mem_toDigits (by decide) (by decide) hc
  rw [readNumeral, if_pos ⟨Nat.toDigits_ne_nil, hall⟩, Nat.ofDigitChars_ten_toDigits]

/-- `int`, of numerals with or without a sign. -/
def numerals : IntText where
  read s := if s.head? = some '-' then (readNumeral s.tail).map fun n => -n else readNumeral s
  read_toString n := by
    cases n with
    | ofNat n =>
      have hhead : (Nat.toDigits 10 n).head? ≠ some '-' := by
        intro h
        have hdigit := Nat.isDigit_of_mem_toDigits (by decide) (by decide)
          (List.mem_of_head? h)
        exact absurd hdigit (by decide)
      rw [show (toString (Int.ofNat n)).toList = Nat.toDigits 10 n from Nat.toList_repr, if_neg hhead,
        readNumeral_toDigits]
      rfl
    | negSucc n =>
      rw [show toString (Int.negSucc n) = "-" ++ (n + 1).repr from rfl, String.toList_append,
        Nat.toList_repr, show "-".toList = ['-'] by decide, List.singleton_append,
        List.head?_cons, if_pos rfl, List.tail_cons, readNumeral_toDigits]
      rfl

/-- One number with a point. -/
instance : FloatText Unit where
  text _ := "90.0"
  ninety := ()
  endsLine_text _ := Text.forall_mem (by decide)

/-- A server with a key of zeros that listens on a port of its own. -/
def onPort9999 : ConcentratorSettings Unit := { psk := generatePsk fun _ => 0, port := 9999 }

lemma readable_onPort9999 : onPort9999.Readable where
  psk := keptKey_generatePsk _
  serverIp := Text.forall_mem (by decide)
  noSlash := by decide
  peerIp := Text.forall_mem (by decide)
  peerIp_ne := by decide
  last := by decide

/-- It is installed again with its key on the port of the defaults, where no client looks for it. -/
theorem not_keepsPaired_port :
    ∃ s : ConcentratorSettings Unit,
      provision numerals true onPort9999.unit (fun _ => 1) {} = .ok s ∧
        s.psk = onPort9999.psk ∧ s.port ≠ onPort9999.port := by
  have hne : onPort9999.psk ≠ "" := fun heq =>
    readable_onPort9999.psk.ne_nil (by rw [heq]; rfl)
  refine ⟨_, provision_default (installedSettings_unit readable_onPort9999), ?_, by decide⟩
  simp [keyOf, hne]

end Turbobond.Bond.Provision
