import Turbobond.App.PatchFrame
import Turbobond.Lib.Machine

/-!
# The command line and the file

`--log-level`, `--dry-run` and `--no-activate` change the configuration in memory.  It is the one
that everything writes to the file, from the first sign-in to the end of every activation.
-/

namespace Turbobond.App

open Config Links Codec

/-- The commands that keep running. -/
inductive Command where
  | serve (noActivate : Bool)
  | up
  deriving DecidableEq

/-- The command line, as far as it changes the configuration. -/
structure Args where
  logLevel : String := ""
  dryRun : Bool := false
  command : Command

/-- `_load`, of the configuration that was read. -/
def load (args : Args) (cfg : AppConfig) : AppConfig :=
  let cfg := if args.logLevel ≠ "" then { cfg with logLevel := args.logLevel } else cfg
  if args.dryRun then { cfg with dryRun := true } else cfg

/-- The configuration that `cmd_serve` and `cmd_up` begin with. -/
def started (args : Args) (stored : AppConfig) : AppConfig :=
  let cfg := load args stored
  match args.command with
  | .serve true => { cfg with autoActivateOnLogin := false }
  | _ => cfg

/-- What happens to the configuration while a command runs. -/
inductive Event where
  | operation (operation : Operation)
  /-- `_persist`, at the end of an activation. -/
  | persist
  /-- `download_concentrator`, with a new key. -/
  | download (key : String)

/-- `cmd_up` runs an activation and answers no requests. -/
def Command.Does : Command → Event → Prop
  | .serve _, _ => True
  | .up, .operation (.persistLinks _) => True
  | .up, .operation (.ensurePsk _) => True
  | .up, .persist => True
  | .up, _ => False

/-- The form of the sign-in changes a setting. -/
def SignInRequest.changes (payload : SignInRequest) : Bool :=
  [text payload.routerPassword, text payload.routerHost, text payload.concentratorHost,
    text payload.concentratorPsk, text payload.shadowsocksHost, text payload.shadowsocksPassword,
    text payload.shadowsocksMethod].any Option.isSome ||
  [number payload.concentratorPort, number payload.shadowsocksPort].any Option.isSome

/-- What an event leaves in memory. -/
def next (p : Pydantic) (cfg : AppConfig) : Event → AppConfig
  | .operation operation => apply p cfg operation
  | .persist => cfg
  | .download key => apply p cfg (.ensurePsk key)

/-- An event ends with `save_config`. -/
def saves (p : Pydantic) (cfg : AppConfig) : Event → Bool
  | .operation (.ensureSecret _) => false
  | .operation (.enrol _ _) => cfg.auth.passwordHash = ""
  | .operation (.changePassword _) => true
  | .operation (.signin payload) => payload.changes
  | .operation (.patch values) => (patchConfig p cfg values).toOption.isSome
  | .operation (.selectRoute _) => true
  | .operation (.setDeviceRoute _ _) => true
  | .operation (.persistLinks _) => false
  | .operation (.ensurePsk _) => false
  | .persist => true
  | .download _ => true

/-- An event, and the file that it writes; the writing may fail, and a route that is not usable is
preferred and not written. -/
def step (p : Pydantic) (cfg : AppConfig) (e : Event × Bool) : List File × AppConfig :=
  let cfg' := next p cfg e.1
  (if saves p cfg e.1 ∧ e.2 then [saveConfig p cfg'] else [], cfg')

/-- The settings that the command line changes. -/
def overridable (p : Pydantic) : List (Slot AppConfig) := [
  ⟨"log_level", p.str, AppConfig.logLevel⟩, ⟨"dry_run", p.bool, AppConfig.dryRun⟩,
  ⟨"auto_activate_on_login", p.bool, AppConfig.autoActivateOnLogin⟩]

/-- What a file says under a key. -/
def setting (file : File) (key : String) : Option Value :=
  match file with
  | .text (.dict fields) => fields.lookup key
  | _ => none

/-- A patch names a key. -/
def Event.Names (key : String) : Event → Prop
  | .operation (.patch values) => (values.lookup key).isSome
  | _ => False

/-- Every file that is written holds the stored values of the three settings, unless a patch has
named them. -/
def KeepsStored (p : Pydantic) (args : Args) (stored : AppConfig) : Prop :=
  ∀ events e, (∀ x ∈ events ++ [e], args.command.Does x.1) →
    ∀ file ∈ (step p (Machine.run (step p) events (started args stored)).2 e).1,
      ∀ slot ∈ overridable p, (∀ x ∈ events ++ [e], ¬ x.1.Names slot.key) →
        setting file slot.key = some (slot.dump stored)

/-- The command line says what is stored, or nothing. -/
def Args.Agrees (args : Args) (stored : AppConfig) : Prop :=
  (args.logLevel = "" ∨ args.logLevel = stored.logLevel) ∧
    (args.dryRun = true → stored.dryRun = true) ∧
    (args.command = .serve true → stored.autoActivateOnLogin = false)

variable {p : Pydantic} {args : Args} {cfg stored : AppConfig}

lemma overridable_subset : ∀ slot ∈ overridable p, slot ∈ AppConfig.slots p := by
  simp [overridable, AppConfig.slots]

/-- The settings that the command line changes. -/
def overrides (cfg : AppConfig) : String × Bool × Bool :=
  (cfg.logLevel, cfg.dryRun, cfg.autoActivateOnLogin)

lemma overrides_started : overrides (started args stored) =
    (if args.logLevel ≠ "" then args.logLevel else stored.logLevel, args.dryRun || stored.dryRun,
      if args.command = .serve true then false else stored.autoActivateOnLogin) := by
  obtain ⟨logLevel, dryRun, command⟩ := args
  by_cases hlevel : logLevel = ""
  · rcases command with ⟨_ | _⟩ | _ <;> cases dryRun <;> simp [overrides, started, load, hlevel]
  · rcases command with ⟨_ | _⟩ | _ <;> cases dryRun <;> simp [overrides, started, load, hlevel]

/-- The command line changes nothing if and only if it agrees. -/
lemma agrees_iff : args.Agrees stored ↔
    ∀ slot ∈ overridable p, slot.get (started args stored) = slot.get stored := by
  have hstarted := @overrides_started args stored
  simp only [overrides, Prod.mk.injEq] at hstarted
  simp only [overridable, List.forall_mem_cons, List.not_mem_nil, false_imp_iff, implies_true,
    and_true, hstarted]
  refine and_congr ?_ (and_congr ?_ ?_)
  · by_cases hempty : args.logLevel = ""
    · simp [hempty]
    · simp [hempty]
  · cases args.dryRun <;> cases stored.dryRun <;> simp
  · by_cases hcommand : args.command = .serve true
    · simp only [hcommand, if_true, true_imp_iff]
      exact eq_comm
    · simp [hcommand]

/-! ### What an event keeps -/

lemma given_eq {α β : Type} {value : Option α} {update : AppConfig → α → AppConfig}
    (f : AppConfig → β) (hupdate : ∀ cfg a, f (update cfg a) = f cfg) (cfg : AppConfig) :
    f (given value update cfg) = f cfg := by
  cases value with
  | none => rfl
  | some a => exact hupdate cfg a

lemma overrides_applySigninSettings (cfg : AppConfig) (payload : SignInRequest) :
    overrides (applySigninSettings cfg payload) = overrides cfg := by
  rw [applySigninSettings]
  iterate 9 refine (given_eq overrides ?_ _).trans ?_; · exact fun _ _ => rfl
  rfl

lemma overrides_apply (cfg : AppConfig) {operation : Operation}
    (h : ∀ values, operation ≠ .patch values) :
    overrides (apply p cfg operation) = overrides cfg := by
  cases operation with
  | ensureSecret secret => rw [apply]; split <;> rfl
  | enrol username passwordHash => rw [apply]; split <;> rfl
  | changePassword passwordHash => rfl
  | signin payload => exact overrides_applySigninSettings cfg payload
  | patch values => exact absurd rfl (h values)
  | selectRoute route => rfl
  | setDeviceRoute device route => rfl
  | persistLinks found => rw [apply, persistLinks]; split <;> rfl
  | ensurePsk key => rw [apply]; split <;> rfl

lemma get_eq_of_overrides_eq {slot : Slot AppConfig} (hslot : slot ∈ overridable p)
    {c c' : AppConfig} (h : overrides c = overrides c') : slot.get c = slot.get c' := by
  simp only [overrides, Prod.mk.injEq] at h
  simp only [overridable, List.mem_cons, List.not_mem_nil, or_false] at hslot
  rcases hslot with rfl | rfl | rfl
  · exact h.1
  · exact h.2.1
  · exact h.2.2

/-- A patch keeps the settings that it does not name. -/
lemma get_patch {slot : Slot AppConfig} (hslot : slot ∈ overridable p) {values : Fields}
    (hnamed : values.lookup slot.key = none) (cfg : AppConfig) :
    slot.get (apply p cfg (.patch values)) = slot.get cfg := by
  rw [apply]
  cases hpatch : patchConfig p cfg values with
  | error exc => rfl
  | ok after =>
    obtain ⟨read, hread, -, host, -, rfl⟩ := patchConfig_eq_ok.1 hpatch
    have hkept := get_read_of_not_named hread (overridable_subset slot hslot) hnamed
    refine Eq.trans ?_ hkept
    exact get_eq_of_overrides_eq hslot rfl

/-- An event keeps the settings that it does not name in a patch. -/
lemma get_next {slot : Slot AppConfig} (hslot : slot ∈ overridable p) {e : Event}
    (hnamed : ¬ e.Names slot.key) (cfg : AppConfig) : slot.get (next p cfg e) = slot.get cfg := by
  cases e with
  | operation operation =>
    cases operation with
    | patch values =>
      rw [Event.Names, Option.not_isSome_iff_eq_none] at hnamed
      exact get_patch hslot hnamed cfg
    | _ => exact get_eq_of_overrides_eq hslot (overrides_apply cfg (by rintro values ⟨⟩))
  | persist => rfl
  | download key =>
    exact get_eq_of_overrides_eq hslot (overrides_apply cfg (by rintro values ⟨⟩))

/-- So does a run. -/
lemma get_run {slot : Slot AppConfig} (hslot : slot ∈ overridable p) {events : List (Event × Bool)}
    (hnamed : ∀ x ∈ events, ¬ x.1.Names slot.key) (cfg : AppConfig) :
    slot.get (Machine.run (step p) events cfg).2 = slot.get cfg := by
  induction events using List.reverseRecOn with
  | nil => rfl
  | append_singleton events e ih =>
    rw [Machine.run_concat]
    have hlast := get_next hslot (hnamed e (by simp)) (Machine.run (step p) events cfg).2
    exact hlast.trans (ih fun x hx => hnamed x (by simp [hx]))

/-- What a file says that an event writes. -/
lemma setting_of_mem {slot : Slot AppConfig} (hslot : slot ∈ overridable p) {e : Event × Bool}
    {file : File} (hfile : file ∈ (step p cfg e).1) :
    setting file slot.key = some (slot.dump (next p cfg e.1)) := by
  rw [step] at hfile
  simp only [] at hfile
  split at hfile
  · obtain rfl := List.mem_singleton.1 hfile
    exact lookup_slots (AppConfig.nodup_slots p) (overridable_subset slot hslot) _
  · exact absurd hfile (by simp)

/-- An uplink, as a dry run finds it. -/
def uplink : Link ℚ :=
  { name := "eth0", interface := "eth0", gateway := "192.168.1.1", sourceIp := "192.168.1.50" }

/-- An activation writes what it began with. -/
lemma get_started_of_keepsStored {slot : Slot AppConfig} (hslot : slot ∈ overridable p)
    (h : KeepsStored p args stored) : slot.get (started args stored) = slot.get stored := by
  let events : List (Event × Bool) := [(.operation (.persistLinks [uplink]), true)]
  let cfg := (Machine.run (step p) events (started args stored)).2
  have hdoes : ∀ x ∈ events ++ [(.persist, true)], args.command.Does x.1 := by
    cases args.command <;> simp [events, Command.Does]
  have hfile : saveConfig p cfg ∈ (step p cfg (.persist, true)).1 := by
    simp [step, saves, next]
  have hstored := h events (.persist, true) hdoes _ hfile slot hslot (by simp [events, Event.Names])
  have hrun : slot.get cfg = slot.get (started args stored) :=
    get_run hslot (by simp [events, Event.Names]) _
  rw [setting_of_mem hslot hfile] at hstored
  rw [← hrun]
  exact slot.codec.dump_injective (Option.some.inj hstored)

/-- **Overrides.**  Whatever happens while a command runs, the files that it writes hold the stored
log level, dry run and activation, unless a patch has named them, if and only if the command line
says of them what is stored, or nothing. -/
theorem keepsStored_iff (p : Pydantic) (args : Args) (stored : AppConfig) :
    KeepsStored p args stored ↔ args.Agrees stored := by
  rw [agrees_iff (p := p)]
  constructor
  · exact fun h slot hslot => get_started_of_keepsStored hslot h
  · intro hsame events e _ file hfile slot hslot hnamed
    rw [setting_of_mem hslot hfile, Slot.dump, get_next hslot (hnamed e (by simp)),
      get_run hslot fun x hx => hnamed x (by simp [hx]), hsame slot hslot, Slot.dump]

/-- A dry run that goes as far as an activation makes the installation one that is always dry. -/
theorem not_keepsStored_dryRun : ¬ ∀ args stored, KeepsStored strict args stored := by
  intro h
  have hdry : (⟨"dry_run", strict.bool, AppConfig.dryRun⟩ : Slot AppConfig) ∈ overridable strict := by
    simp [overridable]
  have hsame := get_started_of_keepsStored hdry (h { dryRun := true, command := .up } installed)
  exact absurd hsame (by decide +kernel)

end Turbobond.App
