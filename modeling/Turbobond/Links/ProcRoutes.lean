import Turbobond.Lib.Bytes
import Turbobond.Lib.Numeral
import Turbobond.Lib.Text
import Turbobond.Config.Validate
import Turbobond.Links.Autodiscovery

/-!
# The two ways to read the routes

`read_routes` reads the answer of `ip -j route show`, and `/proc/net/route` where there is none.  The
kernel writes both out of one table.  The file has the mask of a destination in a field that
`_read_proc_routes` does not read, and one line for a route of several hops.
-/

namespace Turbobond.Links

open Config (isSpace)

/-- `socket.inet_ntoa`, of four bytes. -/
def inetNtoa (bytes : Bytes) : String :=
  String.ofList (Text.joined '.' (bytes.map fun b => Nat.toDigits 10 b.toNat))

/-- `struct.pack("<L", n)`, where it does not raise. -/
def packL (n : ℤ) : Option Bytes :=
  if 0 ≤ n ∧ n < 2 ^ 32 then some (Bytes.toBE 4 n.toNat).reverse else none

/-- The route that the fields of a line say. -/
def readFields (fields : List (List Char)) (hne : ∀ w ∈ fields, w ≠ []) : Option Route :=
  match fields, hne with
  | iface :: destHex :: gwHex :: _ :: _ :: _ :: metric :: _ :: _, hne => do
    let dest ← (Numeral.int 16 destHex).bind packL
    let gateway ← (Numeral.int 16 gwHex).bind packL
    let metric ← Numeral.int 10 metric
    return {
      dst := if inetNtoa dest = "0.0.0.0" then "default" else inetNtoa dest
      dev := String.ofList iface
      gateway := if inetNtoa gateway = "0.0.0.0" then "" else inetNtoa gateway
      metric
      dev_ne := fun _ hdev =>
        hne iface List.mem_cons_self (by simpa using congrArg String.toList hdev) }
  -- fewer than eight fields
  | _, _ => none

/-- A line of `/proc/net/route`. -/
def readProcRoute (line : List Char) : Option Route :=
  readFields (Text.words isSpace line) fun _ hw => by simpa using (List.mem_filter.1 hw).2

/-- `_read_proc_routes`, of the text of the file. -/
def readProcRoutes (text : List Char) : List Route :=
  ((Text.splitlines text).drop 1).filterMap readProcRoute

/-! ### The table of the kernel -/

/-- A hop of a route; the gateway is 0.0.0.0 if there is none. -/
structure Hop where
  dev : String
  gateway : Bytes
  /-- The name of a device is a word. -/
  dev_ne : dev.toList ≠ []
  dev_word : ∀ c ∈ dev.toList, isSpace c = false
  gateway_length : gateway.length = 4

/-- A unicast route of the main table.  The numbers that no reader uses are there as well. -/
structure KernelRoute where
  dst : Bytes
  prefixLen : ℕ
  hop : Hop
  /-- The other hops of a multipath route. -/
  others : List Hop := []
  prefsrc : Option Bytes := none
  metric : ℕ := 0
  flags : ℕ := 3
  mask : ℕ := 0
  mtu : ℕ := 0
  window : ℕ := 0
  irtt : ℕ := 0
  dst_length : dst.length = 4
  prefsrc_length : ∀ bytes ∈ prefsrc, bytes.length = 4
  /-- The bits after the prefix are zero. -/
  dst_of_prefixLen : prefixLen = 0 → dst = [0, 0, 0, 0]

namespace KernelRoute

/-- `%08X` of an address, on a machine that stores the low byte of a number first. -/
def hex (address : Bytes) : List Char := Numeral.fixed 16 8 (Bytes.ofBE address.reverse)

/-- The words of the line for a route. -/
def fields (r : KernelRoute) : List (List Char) :=
  [r.hop.dev.toList, hex r.dst, hex r.hop.gateway, Numeral.fixed 16 4 r.flags, ['0'], ['0'],
    Nat.toDigits 10 r.metric, Numeral.fixed 16 8 r.mask, Nat.toDigits 10 r.mtu,
    Nat.toDigits 10 r.window, Nat.toDigits 10 r.irtt]

/-- The line for a route, with spaces up to its width. -/
def line (r : KernelRoute) : List Char :=
  Text.joined '\t' r.fields ++ List.replicate (127 - (Text.joined '\t' r.fields).length) ' '

def header : List Char :=
  ("Iface\tDestination\tGateway \tFlags\tRefCnt\tUse\tMetric\tMask\t\tMTU\tWindow\tIRTT" ++
    "                                                       ").toList

/-- `/proc/net/route`. -/
def procFile (table : List KernelRoute) : List Char := Text.unlines (header :: table.map line)

/-- The text of an address, with the length of the prefix if it is not that of one host. -/
def dstText (r : KernelRoute) : String :=
  if r.prefixLen = 0 then "default"
  else if r.prefixLen = 32 then inetNtoa r.dst
  else inetNtoa r.dst ++ "/" ++ toString r.prefixLen

/-- A gateway, empty if there is none. -/
def gatewayText (gateway : Bytes) : String := if gateway = [0, 0, 0, 0] then "" else inetNtoa gateway

/-- What `ip -j route show` says of a route: the hops of a multipath route are in a list of their
own. -/
def shown (r : KernelRoute) : Route :=
  match r.others with
  | [] =>
    { dst := r.dstText
      dev := r.hop.dev
      gateway := gatewayText r.hop.gateway
      prefsrc := (r.prefsrc.map inetNtoa).getD ""
      metric := r.metric
      dev_ne := fun _ hdev => r.hop.dev_ne (by rw [hdev]; rfl) }
  | _ =>
    { dst := r.dstText, prefsrc := (r.prefsrc.map inetNtoa).getD "", metric := r.metric }

/-- What the line for a route says. -/
def read (r : KernelRoute) : Route where
  dst := if r.dst = [0, 0, 0, 0] then "default" else inetNtoa r.dst
  dev := r.hop.dev
  gateway := gatewayText r.hop.gateway
  metric := r.metric
  dev_ne _ hdev := r.hop.dev_ne (by rw [hdev]; rfl)

end KernelRoute

/-! ### What the texts say -/

lemma toNat_of_isSome_digit {b : ℕ} {c : Char} (h : (Numeral.digit b c).isSome) :
    48 ≤ c.toNat ∧ c.toNat ≤ 57 ∨ 65 ≤ c.toNat ∧ c.toNat ≤ 90 ∨ 97 ≤ c.toNat ∧ c.toNat ≤ 122 := by
  obtain ⟨d, hd⟩ := Option.isSome_iff_exists.1 h
  have hvalue := (Option.filter_eq_some_iff.1 hd).1
  rw [Numeral.digitValue] at hvalue
  split_ifs at hvalue <;> simp_all

lemma isSpace_of_isSome_digit {b : ℕ} {c : Char} (h : (Numeral.digit b c).isSome) :
    isSpace c = false := by
  have hc : 48 ≤ c.val.toNat ∧ c.val.toNat ≤ 122 := by
    have := toNat_of_isSome_digit h
    rw [Char.toNat] at this
    omega
  rw [isSpace]
  simp only [decide_eq_false_iff_not, List.mem_cons, List.not_mem_nil, or_false]
  omega

/-- A character that ends a line is a space. -/
lemma isSpace_of_endsLine {c : Char} (h : Text.endsLine c = true) : isSpace c = true := by
  rw [Text.endsLine, decide_eq_true_eq] at h
  rw [isSpace, decide_eq_true_eq]
  simp only [List.mem_cons, List.not_mem_nil, or_false] at h ⊢
  omega

/-- The digits of the bytes of an address. -/
def octets (bytes : Bytes) : List (List Char) := bytes.map fun b => Nat.toDigits 10 b.toNat

lemma words_octets (bytes : Bytes) :
    Text.words (fun c => decide (c = '.')) (Text.joined '.' (octets bytes)) = octets bytes := by
  have hjoined : Text.words (fun c => decide (c = '.')) (Text.joined '.' (octets bytes) ++ []) =
      octets bytes := by
    refine Text.words_joined (by simp) (fun w hw => ?_) (fun w hw x hx => ?_) (by simp)
    · obtain ⟨b, -, rfl⟩ := List.mem_map.1 hw
      exact Nat.toDigits_ne_nil
    · obtain ⟨b, -, rfl⟩ := List.mem_map.1 hw
      have hdigit := toNat_of_isSome_digit
        (Numeral.allDigits_toDigits (by decide) (by decide) _ x hx)
      have hne : x ≠ '.' := by
        rintro rfl
        simp at hdigit
      simpa using hne
  rwa [List.append_nil] at hjoined

/-- An address is known by its text. -/
lemma inetNtoa_inj {a a' : Bytes} : inetNtoa a = inetNtoa a' ↔ a = a' := by
  refine ⟨fun h => ?_, fun h => by rw [h]⟩
  have hoctets : octets a = octets a' := by
    rw [← words_octets a, ← words_octets a']
    exact congrArg (Text.words fun c => decide (c = '.')) (String.ofList_injective h)
  refine List.map_injective_iff.2 (fun b b' hb => ?_) hoctets
  have hint : (b.toNat : ℤ) = b'.toNat := by
    have := congrArg (Numeral.int 10) hb
    rwa [Numeral.int_toDigits, Numeral.int_toDigits, Option.some.injEq] at this
  exact UInt8.toNat_inj.1 (by exact_mod_cast hint)

namespace KernelRoute

/-- A number in a field is a word. -/
lemma word_fixed {b w : ℕ} (hb : 0 < b) (hb' : b ≤ 16) (hw : 0 < w) (n : ℕ) :
    Numeral.fixed b w n ≠ [] ∧ ∀ c ∈ Numeral.fixed b w n, isSpace c = false := by
  refine ⟨?_, fun c hc => isSpace_of_isSome_digit (Numeral.allDigits_fixed hb hb' w n c hc)⟩
  rw [← List.length_pos_iff, Numeral.length_fixed]
  exact hw

lemma word_toDigits (n : ℕ) :
    Nat.toDigits 10 n ≠ [] ∧ ∀ c ∈ Nat.toDigits 10 n, isSpace c = false :=
  ⟨Nat.toDigits_ne_nil, fun c hc =>
    isSpace_of_isSome_digit (Numeral.allDigits_toDigits (by decide) (by decide) n c hc)⟩

lemma word_fields (r : KernelRoute) :
    ∀ w ∈ r.fields, w ≠ [] ∧ ∀ c ∈ w, isSpace c = false := by
  have hzero : (['0'] : List Char) ≠ [] ∧ ∀ c ∈ ['0'], isSpace c = false :=
    ⟨by decide, Text.forall_mem rfl⟩
  have hhex : ∀ n w, 0 < w → Numeral.fixed 16 w n ≠ [] ∧
      ∀ c ∈ Numeral.fixed 16 w n, isSpace c = false :=
    fun n w hw => word_fixed (by decide) (by decide) hw n
  intro w hw
  simp only [fields, hex, List.mem_cons, List.not_mem_nil, or_false] at hw
  rcases hw with rfl | rfl | rfl | rfl | rfl | rfl | rfl | rfl | rfl | rfl | rfl
  · exact ⟨r.hop.dev_ne, r.hop.dev_word⟩
  · exact hhex _ 8 (by decide)
  · exact hhex _ 8 (by decide)
  · exact hhex _ 4 (by decide)
  · exact hzero
  · exact hzero
  · exact word_toDigits _
  · exact hhex _ 8 (by decide)
  · exact word_toDigits _
  · exact word_toDigits _
  · exact word_toDigits _

lemma words_line (r : KernelRoute) : Text.words isSpace r.line = r.fields := by
  refine Text.words_joined (by decide) (fun w hw => (r.word_fields w hw).1)
    (fun w hw => (r.word_fields w hw).2) fun x hx => ?_
  rw [(List.mem_replicate.1 hx).2]
  decide

/-- An address is read back. -/
lemma packL_hex {address : Bytes} (h : address.length = 4) :
    (Numeral.int 16 (hex address)).bind packL = some address := by
  have hlt : Bytes.ofBE address.reverse < 16 ^ 8 := by
    have := Bytes.ofBE_lt address.reverse
    rw [List.length_reverse, h] at this
    exact this
  rw [hex, Numeral.int_fixed (by decide) (by decide) (by decide) hlt, Option.bind_some, packL,
    if_pos ⟨by omega, by omega⟩, Int.toNat_natCast]
  have hback := Bytes.toBE_ofBE address.reverse
  rw [List.length_reverse, h] at hback
  rw [hback, List.reverse_reverse]

/-- The text of an address against that of 0.0.0.0. -/
lemma inetNtoa_eq_zero_iff {a : Bytes} : inetNtoa a = "0.0.0.0" ↔ a = [0, 0, 0, 0] := by
  have h : inetNtoa a = inetNtoa [0, 0, 0, 0] ↔ a = [0, 0, 0, 0] := inetNtoa_inj
  exact h

lemma readProcRoute_line (r : KernelRoute) : readProcRoute r.line = some r.read := by
  have hread : ∀ ws hne, ws = r.fields → readFields ws hne = some r.read := by
    rintro _ hne rfl
    simp only [fields, readFields, packL_hex r.dst_length, packL_hex r.hop.gateway_length,
      Numeral.int_toDigits, Option.bind_eq_bind, Option.bind_some, inetNtoa_eq_zero_iff,
      String.ofList_toList]
    rfl
  exact hread _ _ r.words_line

/-- The file says every route, in order. -/
lemma readProcRoutes_procFile (table : List KernelRoute) :
    readProcRoutes (procFile table) = table.map read := by
  have hlines : Text.splitlines (procFile table) = header :: table.map line := by
    refine Text.splitlines_unlines ?_
    rw [List.forall_mem_cons, List.forall_mem_map]
    refine ⟨Text.forall_mem (by decide +kernel), fun r _ c hc => ?_⟩
    cases hends : Text.endsLine c with
    | false => rfl
    | true =>
      rcases List.mem_append.1 hc with hc | hc
      · rcases Text.mem_joined hc with rfl | ⟨w, hw, hcw⟩
        · exact absurd hends (by decide)
        · have := (r.word_fields w hw).2 c hcw
          rw [isSpace_of_endsLine hends] at this
          exact this
      · rw [(List.mem_replicate.1 hc).2] at hends
        exact absurd hends (by decide)
  have hread : ∀ r ∈ table, (readProcRoute ∘ line) r = some r.read :=
    fun r _ => r.readProcRoute_line
  rw [readProcRoutes, hlines, List.drop_one, List.tail_cons, List.filterMap_map,
    List.filterMap_congr hread]
  exact congrFun List.filterMap_eq_map table

/-! ### Default routes -/

/-- No character of an address is a slash. -/
lemma slash_not_mem_inetNtoa (a : Bytes) : '/' ∉ (inetNtoa a).toList := by
  rw [inetNtoa, String.toList_ofList]
  intro h
  obtain h | ⟨w, hw, hmem⟩ := Text.mem_joined h
  · exact absurd h (by decide)
  · obtain ⟨b, -, rfl⟩ := List.mem_map.1 hw
    have := toNat_of_isSome_digit (Numeral.allDigits_toDigits (by decide) (by decide) _ _ hmem)
    simp at this

/-- An address is not the text of a default route. -/
lemma inetNtoa_ne_default {a : Bytes} (h : a.length = 4) :
    inetNtoa a ≠ "default" ∧ inetNtoa a ≠ "0.0.0.0/0" := by
  constructor
  · intro heq
    have hwords := words_octets a
    have htext : Text.joined '.' (octets a) = "default".toList := by
      rw [← heq, inetNtoa, String.toList_ofList]
      rfl
    rw [htext] at hwords
    have hlen := congrArg List.length hwords
    rw [octets, List.length_map, h] at hlen
    exact absurd hlen (by decide)
  · intro heq
    have hslash := slash_not_mem_inetNtoa a
    rw [heq] at hslash
    exact hslash (by decide)

lemma isDefault_shown (r : KernelRoute) : r.shown.isDefault = decide (r.prefixLen = 0) := by
  have hdst : r.shown.dst = r.dstText := by
    rw [shown]
    split <;> rfl
  obtain ⟨hdefault, hzero⟩ := inetNtoa_ne_default r.dst_length
  rw [Route.isDefault, hdst, dstText]
  by_cases h0 : r.prefixLen = 0
  · simp [h0]
  · rw [if_neg h0]
    by_cases h32 : r.prefixLen = 32
    · simp [h32, hdefault, hzero]
    · rw [if_neg h32]
      -- what stands after the slash is not a zero
      have hcut : Text.after '/' (inetNtoa r.dst ++ "/" ++ toString r.prefixLen).toList =
          Nat.toDigits 10 r.prefixLen := by
        rw [String.toList_append, String.toList_append, List.append_assoc]
        exact (Text.after_append (slash_not_mem_inetNtoa r.dst) _).trans Nat.toList_repr
      have hne : inetNtoa r.dst ++ "/" ++ toString r.prefixLen ≠ "default" := by
        intro heq
        rw [heq] at hcut
        exact Nat.toDigits_ne_nil hcut.symm
      have hne' : inetNtoa r.dst ++ "/" ++ toString r.prefixLen ≠ "0.0.0.0/0" := by
        intro heq
        rw [heq] at hcut
        have hint := congrArg (Numeral.int 10) hcut.symm
        rw [Numeral.int_toDigits] at hint
        have hread : Numeral.int 10 (Text.after '/' "0.0.0.0/0".toList) = some 0 := by decide
        rw [hread, Option.some.injEq] at hint
        exact h0 (by exact_mod_cast hint)
      simp only [hne, hne', h0, decide_false, Bool.or_self]

lemma isDefault_read (r : KernelRoute) : r.read.isDefault = decide (r.dst = [0, 0, 0, 0]) := by
  obtain ⟨hdefault, hzero⟩ := inetNtoa_ne_default r.dst_length
  rw [Route.isDefault, read]
  by_cases h : r.dst = [0, 0, 0, 0]
  · simp [h]
  · simp [h, hdefault, hzero]

/-- What a reader says of a route to any address is what the other says: it has one hop, and the bits
of its destination are zero because there are none. -/
def Plain (r : KernelRoute) : Prop :=
  r.dst = [0, 0, 0, 0] → r.prefixLen = 0 ∧ r.others = []

end KernelRoute

/-! ### What discovery makes of them -/

/-- A route without its source, which the file does not say. -/
def Route.forget (route : Route) : Route := { route with prefsrc := "" }

/-- The hops and metrics of the default routes. -/
def defaultHops (routes : List Route) : List (String × String × ℤ) :=
  (routes.filter Route.isDefault).map fun route => (route.dev, route.gateway, route.metric)

lemma Route.keepLowest_forget (exclude : List String) (defaults : Dict String Route) (route : Route) :
    keepLowest exclude (defaults.mapValues forget) route.forget =
      (keepLowest exclude defaults route).mapValues forget := by
  have hoffers : route.forget.offers exclude = route.offers exclude := rfl
  rw [keepLowest, keepLowest, hoffers]
  split
  · rw [Dict.get?_mapValues]
    have hdev : route.forget.dev = route.dev := rfl
    rw [hdev]
    cases defaults.get? route.dev with
    | none => exact (Dict.mapValues_set defaults forget route.dev route).symm
    | some existing =>
      simp only [Option.map_some]
      have hmetric : route.forget.metric < existing.forget.metric ↔ route.metric < existing.metric :=
        Iff.rfl
      simp only [hmetric]
      split
      · exact (Dict.mapValues_set defaults forget route.dev route).symm
      · rfl
  · rfl

namespace KernelRoute

variable {r : KernelRoute} {table : List KernelRoute} {host : HostNetwork}

/-- A plain route is a default route in both or in neither. -/
lemma Plain.prefixLen_eq_zero_iff (h : r.Plain) : r.prefixLen = 0 ↔ r.dst = [0, 0, 0, 0] :=
  ⟨r.dst_of_prefixLen, fun hdst => (h hdst).1⟩

lemma Plain.isDefault_eq (h : r.Plain) : r.read.isDefault = r.shown.isDefault := by
  rw [isDefault_read, isDefault_shown]
  exact decide_eq_decide.2 h.prefixLen_eq_zero_iff.symm

/-- A plain default route is read with all but its source. -/
lemma Plain.read_eq (h : r.Plain) (hdefault : r.shown.isDefault = true) :
    r.read = r.shown.forget := by
  rw [isDefault_shown, decide_eq_true_eq] at hdefault
  have hdst := r.dst_of_prefixLen hdefault
  rw [read, shown, (h hdst).2]
  simp [Route.forget, hdst, dstText, hdefault]

/-- The loop of `_autodiscover` keeps the same routes of both. -/
lemma foldl_read (hplain : ∀ r ∈ table, r.Plain) (exclude : List String)
    (defaults : Dict String Route) :
    (table.map read).foldl (Route.keepLowest exclude) (defaults.mapValues Route.forget) =
      ((table.map shown).foldl (Route.keepLowest exclude) defaults).mapValues Route.forget := by
  induction table generalizing defaults with
  | nil => rfl
  | cons r table ih =>
    rw [List.forall_mem_cons] at hplain
    have hstep : Route.keepLowest exclude (defaults.mapValues Route.forget) r.read =
        (Route.keepLowest exclude defaults r.shown).mapValues Route.forget := by
      cases hdefault : r.shown.isDefault with
      | true =>
        rw [hplain.1.read_eq hdefault]
        exact Route.keepLowest_forget exclude defaults r.shown
      | false =>
        have hread : r.read.isDefault = false := hplain.1.isDefault_eq.trans hdefault
        simp [Route.keepLowest, Route.offers, hdefault, hread]
    rw [List.map_cons, List.map_cons, List.foldl_cons, List.foldl_cons, hstep, ih hplain.2]

lemma defaultRoutes_read (hplain : ∀ r ∈ table, r.Plain) (host : HostNetwork)
    (exclude : List String) :
    ({ host with routes := table.map read } : HostNetwork).defaultRoutes exclude =
      (({ host with routes := table.map shown } : HostNetwork).defaultRoutes exclude).map
        fun e => (e.1, e.2.forget) := by
  have hfold := foldl_read hplain exclude Dict.empty
  have hempty : (Dict.empty : Dict String Route).mapValues Route.forget = Dict.empty := rfl
  rw [hempty] at hfold
  rw [HostNetwork.defaultRoutes, HostNetwork.defaultRoutes, hfold]
  exact (List.map_insertionSort _ _ (fun e : String × Route => (e.1, e.2.forget)) _
    fun _ _ _ _ => Iff.rfl).symm

/-- The source of a route, where it has one, is the address of its device. -/
def Sourced (host : HostNetwork) (r : KernelRoute) : Prop :=
  ∀ bytes ∈ r.prefsrc, host.address r.hop.dev = inetNtoa bytes

lemma prefsrc_shown (hsourced : r.Sourced host) (hplain : r.Plain)
    (hdefault : r.shown.isDefault = true) :
    r.shown.prefsrc = "" ∨ r.shown.prefsrc = host.address r.shown.dev := by
  rw [isDefault_shown, decide_eq_true_eq] at hdefault
  have hothers := (hplain (r.dst_of_prefixLen hdefault)).2
  rw [shown, hothers]
  cases hsrc : r.prefsrc with
  | none => exact .inl rfl
  | some bytes =>
    have haddress := hsourced bytes hsrc
    exact .inr haddress.symm

lemma autodiscover_read (hplain : ∀ r ∈ table, r.Plain) (hsourced : ∀ r ∈ table, r.Sourced host)
    (exclude : List String) :
    ({ host with routes := table.map read } : HostNetwork).autodiscover exclude =
      ({ host with routes := table.map shown } : HostNetwork).autodiscover exclude := by
  rw [HostNetwork.autodiscover, HostNetwork.autodiscover, defaultRoutes_read hplain host,
    List.filter_map, List.map_map]
  refine List.map_congr_left fun e he => ?_
  obtain ⟨dev, route⟩ := e
  obtain ⟨hdev, hlowest⟩ := HostNetwork.mem_defaultRoutes.1 (List.mem_filter.1 he).1
  obtain ⟨r, hr, rfl⟩ := List.mem_map.1 hlowest.mem
  have hdefault : r.shown.isDefault = true := by
    have hoffers := hlowest.1
    simp only [Route.offers, Bool.and_eq_true] at hoffers
    exact hoffers.1.1.1
  have hsrc := prefsrc_shown (hsourced r hr) (hplain r hr) hdefault
  rw [hdev] at hsrc
  change ({ host with routes := table.map read } : HostNetwork).autoLink dev r.shown.forget =
    ({ host with routes := table.map shown } : HostNetwork).autoLink dev r.shown
  have hsource : (if r.shown.prefsrc ≠ "" then r.shown.prefsrc else host.address dev) =
      host.address dev := by
    rcases hsrc with hsrc | hsrc
    · simp [hsrc]
    · rw [hsrc, ite_self]
  simp only [HostNetwork.autoLink, Route.forget, hsource]
  simp [HostNetwork.interfaceSpeedMbps, HostNetwork.linkState]

lemma gatewayOf_read (hplain : ∀ r ∈ table, r.Plain) (host : HostNetwork) (interface : String) :
    ({ host with routes := table.map read } : HostNetwork).gatewayOf interface =
      ({ host with routes := table.map shown } : HostNetwork).gatewayOf interface := by
  rw [HostNetwork.gatewayOf, HostNetwork.gatewayOf]
  induction table with
  | nil => rfl
  | cons r table ih =>
    rw [List.forall_mem_cons] at hplain
    have ih := ih hplain.2
    simp only [List.map_cons, List.find?_cons] at ih ⊢
    cases hdefault : r.shown.isDefault with
    | true =>
      have hread := hplain.1.read_eq hdefault
      have hisDefault : r.read.isDefault = true := hplain.1.isDefault_eq.trans hdefault
      have hgateway : r.read.gateway = r.shown.gateway := by rw [hread]; rfl
      have hdev : r.read.dev = r.shown.dev := by rw [hread]; rfl
      rw [hisDefault, hgateway, hdev]
      cases true && decide (r.shown.gateway ≠ "") && decide (r.shown.dev = interface) with
      | true => exact hgateway
      | false => exact ih
    | false =>
      have hisDefault : r.read.isDefault = false := hplain.1.isDefault_eq.trans hdefault
      rw [hisDefault]
      exact ih

lemma discoverLinks_read (hplain : ∀ r ∈ table, r.Plain) (hsourced : ∀ r ∈ table, r.Sourced host)
    (cfg : Config.AppConfig) :
    ({ host with routes := table.map read } : HostNetwork).discoverLinks cfg =
      ({ host with routes := table.map shown } : HostNetwork).discoverLinks cfg := by
  have hfill : ({ host with routes := table.map read } : HostNetwork).fillMissing =
      ({ host with routes := table.map shown } : HostNetwork).fillMissing := by
    funext link
    simp only [HostNetwork.fillMissing, gatewayOf_read hplain]
  rw [HostNetwork.discoverLinks, HostNetwork.discoverLinks, hfill]
  simp only [autodiscover_read hplain hsourced]
  rfl

lemma defaultHops_cons (route : Route) (routes : List Route) :
    defaultHops (route :: routes) =
      (if route.isDefault then [(route.dev, route.gateway, route.metric)] else []) ++
        defaultHops routes := by
  rw [defaultHops, List.filter_cons]
  split <;> rfl

lemma length_defaultHops_le (table : List KernelRoute) :
    (defaultHops (table.map shown)).length ≤ (defaultHops (table.map read)).length := by
  induction table with
  | nil => exact le_rfl
  | cons r table ih =>
    rw [List.map_cons, List.map_cons, defaultHops_cons, defaultHops_cons, List.length_append,
      List.length_append, isDefault_shown, isDefault_read]
    by_cases h : r.prefixLen = 0
    · simpa [h, r.dst_of_prefixLen h] using ih
    · simp only [h, decide_false, Bool.false_eq_true, if_false, List.length_nil, Nat.zero_add]
      omega

/-- A reader that sees no more than the other can see the same only if every route is plain. -/
lemma plain_of_defaultHops (h : defaultHops (table.map read) = defaultHops (table.map shown)) :
    ∀ r ∈ table, r.Plain := by
  induction table with
  | nil => simp
  | cons r table ih =>
    rw [List.map_cons, List.map_cons, defaultHops_cons, defaultHops_cons, isDefault_shown,
      isDefault_read] at h
    rw [List.forall_mem_cons]
    by_cases hdst : r.dst = [0, 0, 0, 0]
    · by_cases hlen : r.prefixLen = 0
      · simp only [hdst, hlen, decide_true, if_true, List.singleton_append, List.cons.injEq,
          Prod.mk.injEq] at h
        refine ⟨fun _ => ⟨hlen, ?_⟩, ih h.2⟩
        by_contra hothers
        obtain ⟨other, others, hcons⟩ := List.exists_cons_of_ne_nil hothers
        have hdev : r.shown.dev = "" := by rw [shown, hcons]
        exact r.hop.dev_ne (by rw [show r.hop.dev = "" from h.1.1.trans hdev]; rfl)
      · -- the file has one more
        simp only [hdst, hlen, decide_true, decide_false, if_true, Bool.false_eq_true, if_false,
          List.singleton_append, List.nil_append] at h
        have hlength := congrArg List.length h
        have := length_defaultHops_le table
        rw [List.length_cons] at hlength
        omega
    · have hlen : r.prefixLen ≠ 0 := fun h0 => hdst (r.dst_of_prefixLen h0)
      simp only [hdst, hlen, decide_false, Bool.false_eq_true, if_false, List.nil_append] at h
      exact ⟨fun h0 => absurd h0 hdst, ih h⟩

lemma defaultHops_read (hplain : ∀ r ∈ table, r.Plain) :
    defaultHops (table.map read) = defaultHops (table.map shown) := by
  induction table with
  | nil => rfl
  | cons r table ih =>
    rw [List.forall_mem_cons] at hplain
    rw [List.map_cons, List.map_cons, defaultHops_cons, defaultHops_cons, ih hplain.2,
      hplain.1.isDefault_eq]
    cases hdefault : r.shown.isDefault with
    | true =>
      rw [hplain.1.read_eq hdefault]
      rfl
    | false => rfl

end KernelRoute

/-- **The fallback.**  What `/proc/net/route` says of the default routes is what `ip -j route show`
says of them if and only if no route to a longer prefix starts at 0.0.0.0 and no default route has
several hops; and then discovery finds the same links with either, as long as a source that a route
has is the address of its device. -/
theorem fallback_agrees_iff (table : List KernelRoute) :
    (defaultHops (readProcRoutes (KernelRoute.procFile table)) =
        defaultHops (table.map KernelRoute.shown) ↔ ∀ r ∈ table, r.Plain) ∧
      ((∀ r ∈ table, r.Plain) → ∀ (host : HostNetwork) (cfg : Config.AppConfig),
        (∀ r ∈ table, r.Sourced host) →
        ({ host with
            routes := readProcRoutes (KernelRoute.procFile table) } : HostNetwork).discoverLinks cfg =
          ({ host with routes := table.map KernelRoute.shown } : HostNetwork).discoverLinks cfg) := by
  rw [KernelRoute.readProcRoutes_procFile]
  exact ⟨⟨KernelRoute.plain_of_defaultHops, KernelRoute.defaultHops_read⟩,
    fun hplain host cfg hsourced => KernelRoute.discoverLinks_read hplain hsourced cfg⟩

/-- The route that a VPN puts over one half of all addresses, which the file gives for a default
route. -/
def halfRoute : KernelRoute where
  dst := [0, 0, 0, 0]
  prefixLen := 1
  hop :=
    { dev := "vpn0", gateway := [10, 8, 0, 1], dev_ne := by decide, dev_word := Text.forall_mem rfl,
      gateway_length := rfl }
  dst_length := rfl
  prefsrc_length := by simp
  dst_of_prefixLen := by simp

example : ¬ halfRoute.Plain := fun h => absurd (h rfl).1 (by decide)

example : defaultHops [halfRoute.read] = [("vpn0", "10.8.0.1", 0)] := by decide +kernel

end Turbobond.Links
