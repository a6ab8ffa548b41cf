import Turbobond.App.Settings
import Turbobond.Lib.Dict
import Turbobond.Lib.Files
import Turbobond.Lib.Machine

/-!
# Saving a configuration, byte by byte

`save_config` writes a file of its own and puts it in the place of the configuration, with the
permissions of neither.  A save stops anywhere, because a call of the system fails or because the
process ends, and other processes read the configuration while it is saved.
-/

namespace Turbobond.App

open Config

/-- The path of the configuration, and the same with the suffix `.tmp`. -/
inductive FileName where
  | path
  | tmp
  deriving DecidableEq

/-- `save_config`, once it has opened its file. -/
structure Saving where
  config : AppConfig
  file : ℕ
  /-- How much of the text has reached the file. -/
  written : ℕ := 0
  secured : Bool := false

/-- `load_config`, once it has opened the configuration. -/
structure Loading where
  file : ℕ
  got : Bytes := []

/-- `config_dir`, and what is going on in it. -/
structure ConfigDir where
  files : Files FileName
  saves : Dict ℕ Saving := .empty
  loads : Dict ℕ Loading := .empty

namespace ConfigDir

inductive Event where
  | save (id : ℕ) (cfg : AppConfig)
  /-- So many bytes of the text reach the file. -/
  | write (id n : ℕ)
  | chmod (id : ℕ)
  | replace (id : ℕ)
  /-- A call of the save fails, or its process ends. -/
  | stop (id : ℕ)
  | load (id : ℕ)
  /-- A load asks for so many bytes and one more. -/
  | read (id n : ℕ)

inductive Output where
  /-- A save has opened its file, which was there or not. -/
  | opened (created : Bool)
  | secured
  | replaced (cfg : AppConfig)
  | missing (id : ℕ)
  | reading (id : ℕ)
  | loaded (id : ℕ) (text : Bytes)

/-- What `safe_dump` makes of `model_dump`, and the mode of a file that the process creates. -/
structure Process where
  pydantic : Pydantic
  safeDump : Fields → Bytes
  mode : ℕ

/-- `0o600`. -/
def ownerOnly : ℕ := 0o600

variable (proc : Process)

/-- What `save_config` writes. -/
def Process.text (cfg : AppConfig) : Bytes := proc.safeDump (cfg.fields proc.pydantic)

def step (s : ConfigDir) : Event → List Output × ConfigDir
  | .save id cfg =>
    let (file, files) := s.files.openW .tmp proc.mode
    ([.opened (s.files.dir .tmp).isNone], { s with files, saves := s.saves.set id { config := cfg, file } })
  | .write id n =>
    match s.saves.get? id with
    | some sv =>
      let chunk := ((proc.text sv.config).drop sv.written).take n
      ([], { s with
        files := s.files.write sv.file sv.written chunk
        saves := s.saves.set id { sv with written := sv.written + chunk.length } })
    | none => ([], s)
  | .chmod id =>
    match s.saves.get? id with
    | some sv =>
      if sv.secured = false ∧ sv.written = (proc.text sv.config).length then
        match s.files.chmod .tmp ownerOnly with
        | some files => ([.secured], { s with files, saves := s.saves.set id { sv with secured := true } })
        | none => ([], { s with saves := s.saves.erase id })
      else ([], s)
    | none => ([], s)
  | .replace id =>
    match s.saves.get? id with
    | some sv =>
      if sv.secured then
        match s.files.rename .tmp .path with
        | some files => ([.replaced sv.config], { s with files, saves := s.saves.erase id })
        | none => ([], { s with saves := s.saves.erase id })
      else ([], s)
    | none => ([], s)
  | .stop id => ([], { s with saves := s.saves.erase id })
  | .load id =>
    match s.files.dir .path with
    | some file => ([.reading id], { s with loads := s.loads.set id { file } })
    | none => ([.missing id], s)
  | .read id n =>
    match s.loads.get? id with
    | some ld =>
      let chunk := ((s.files.data ld.file).content.drop ld.got.length).take (n + 1)
      if chunk = [] then ([.loaded id ld.got], { s with loads := s.loads.erase id })
      else ([], { s with loads := s.loads.set id { ld with got := ld.got ++ chunk } })
    | none => ([], s)

def run (events : List Event) (s : ConfigDir) : List Output × ConfigDir :=
  Machine.run (step proc) events s

/-- A save begins when none is under way, as they do in one process. -/
def Alone (s : ConfigDir) : Event → Prop
  | .save _ _ => s.saves.size = 0
  | _ => True

instance (s : ConfigDir) : (e : Event) → Decidable (s.Alone e)
  | .save _ _ => inferInstanceAs (Decidable (_ = _))
  | .write _ _ | .chmod _ | .replace _ | .stop _ | .load _ | .read _ _ => inferInstanceAs (Decidable True)

/-- The configuration after a step, as it ought to be. -/
def placed (file : Option FileData) : Output → Option FileData
  | .replaced cfg => some { content := proc.text cfg, mode := ownerOnly }
  | _ => file

/-- The permissions of the other file after a step. -/
def leftover (mode : Option ℕ) : Output → Option ℕ
  | .opened true => some proc.mode
  | .secured => some ownerOnly
  | .replaced _ => none
  | _ => mode

/-- The configuration after a history. -/
def current (start : Option FileData) (history : List Output) : Option FileData :=
  history.foldl (placed proc) start

/-- A load returns the whole of a configuration that was in its place when the load began. -/
def Whole (start : Option FileData) (history : List Output) : Output → Prop
  | .loaded id text => ∃ before after, history = before ++ .reading id :: after ∧
      Output.reading id ∉ after ∧ (current proc start before).map FileData.content = some text
  | .missing _ => current proc start history = none
  | _ => True

/-- The file of a save holds what the save has written, and nobody else may look at it once that is
all. -/
structure Sound (files : Files FileName) (sv : Saving) : Prop where
  named : files.dir .tmp = some sv.file
  content : (files.data sv.file).content = (proc.text sv.config).take sv.written
  le : sv.written ≤ (proc.text sv.config).length
  whole : sv.secured = true → sv.written = (proc.text sv.config).length ∧
    (files.data sv.file).mode = ownerOnly

/-- A load reads a file that no save writes, and that was the configuration when it was opened. -/
structure Opened (start : Option FileData) (files : Files FileName) (history : List Output) (id : ℕ)
    (ld : Loading) : Prop where
  lt : ld.file < files.next
  spared : files.dir .tmp ≠ some ld.file
  got : ld.got <+: (files.data ld.file).content
  since : ∃ before after, history = before ++ .reading id :: after ∧ Output.reading id ∉ after ∧
    (current proc start before).map FileData.content = some (files.data ld.file).content

structure Inv (start : Option FileData) (mode : Option ℕ) (s : ConfigDir) (history : List Output) :
    Prop where
  placed : s.files.file? .path = current proc start history
  leftover : (s.files.file? .tmp).map FileData.mode = history.foldl (leftover proc) mode
  single : ∀ id id' sv sv', s.saves.get? id = some sv → s.saves.get? id' = some sv' → id = id'
  sound : ∀ id sv, s.saves.get? id = some sv → Sound proc s.files sv
  opened : ∀ id ld, s.loads.get? id = some ld → Opened proc start s.files history id ld
  audited : Machine.Audited (Whole proc start) history

variable {proc} {s : ConfigDir} {files files' : Files FileName} {history out : List Output} {start : Option FileData}
  {mode : Option ℕ} {id : ℕ} {sv : Saving} {ld : Loading}

@[simp] lemma current_concat (o : Output) :
    current proc start (history ++ [o]) = ConfigDir.placed proc (current proc start history) o := by
  simp [current]

/-- A load goes on as long as its file is not touched. -/
lemma Opened.mono (h : Opened proc start files history id ld)
    (hspares : Files.Spares .tmp files files') (hout : Output.reading id ∉ out) :
    Opened proc start files' (history ++ out) id ld := by
  obtain ⟨hlt, hspared, hdata⟩ := hspares ld.file h.lt h.spared
  obtain ⟨before, after, rfl, hafter, hcurrent⟩ := h.since
  refine ⟨hlt, hspared, hdata ▸ h.got, before, after ++ out, by simp, ?_, hdata ▸ hcurrent⟩
  rw [List.mem_append]
  exact not_or.2 ⟨hafter, hout⟩

/-- The save that is under way is the only one. -/
lemma Inv.eq_of_set (h : Inv proc start mode s history) (hget : s.saves.get? id = some sv)
    {sv₁ sv₂ : Saving} {id' : ℕ} (hset : (s.saves.set id sv₁).get? id' = some sv₂) : sv₂ = sv₁ := by
  rcases Dict.of_get?_set hset with ⟨-, rfl⟩ | ⟨hne, hget'⟩
  · rfl
  · exact absurd (h.single id' id sv₂ sv hget' hget) hne

lemma Inv.single_set (h : Inv proc start mode s history) (hget : s.saves.get? id = some sv)
    (sv' : Saving) : ∀ id₁ id₂ sv₁ sv₂, (s.saves.set id sv').get? id₁ = some sv₁ →
      (s.saves.set id sv').get? id₂ = some sv₂ → id₁ = id₂ := by
  have hid : ∀ id₁ sv₁, (s.saves.set id sv').get? id₁ = some sv₁ → id₁ = id := by
    intro id₁ sv₁ h₁
    rcases Dict.of_get?_set h₁ with ⟨heq, -⟩ | ⟨-, hget₁⟩
    · exact heq
    · exact h.single id₁ id sv₁ sv hget₁ hget
  intro id₁ id₂ sv₁ sv₂ h₁ h₂
  rw [hid id₁ sv₁ h₁, hid id₂ sv₂ h₂]

lemma inv_save (h : Inv proc start mode s history) (halone : s.saves.size = 0) (cfg : AppConfig) :
    Inv proc start mode (step proc s (.save id cfg)).2
      (history ++ (step proc s (.save id cfg)).1) := by
  have hnone : ∀ id', s.saves.get? id' = none := Dict.get?_of_size_eq_zero halone
  have hfile := s.files.file?_openW_self .tmp proc.mode
  have hdir := s.files.dir_openW .tmp proc.mode
  have hdata : (s.files.openW .tmp proc.mode).2.data (s.files.openW .tmp proc.mode).1 =
      { mode := ((s.files.file? .tmp).map FileData.mode).getD proc.mode } := by
    rw [Files.file?, hdir, Option.map_some, Option.some.injEq] at hfile
    exact hfile
  refine ⟨?_, ?_, ?_, ?_, ?_, h.audited.concat trivial⟩
  · rw [step, current_concat]
    exact (Files.file?_openW_of_ne (by decide) _).trans h.placed
  · rw [step, List.foldl_concat, ← h.leftover]
    refine (congrArg (Option.map FileData.mode) hfile).trans ?_
    cases htmp : s.files.dir .tmp with
    | none => simp [Files.file?, htmp, ConfigDir.leftover]
    | some i => simp [Files.file?, htmp, ConfigDir.leftover]
  · intro id₁ id₂ sv₁ sv₂ h₁ h₂
    rcases Dict.of_get?_set h₁ with ⟨rfl, -⟩ | ⟨-, h₁⟩
    · rcases Dict.of_get?_set h₂ with ⟨rfl, -⟩ | ⟨-, h₂⟩
      · rfl
      · rw [hnone] at h₂
        exact absurd h₂ (by simp)
    · rw [hnone] at h₁
      exact absurd h₁ (by simp)
  · intro id' sv' hget
    rcases Dict.of_get?_set hget with ⟨-, rfl⟩ | ⟨-, hget⟩
    · refine ⟨hdir, ?_, Nat.zero_le _, fun hsecured => absurd hsecured (by simp)⟩
      rw [List.take_zero]
      exact congrArg FileData.content hdata
    · rw [hnone] at hget
      exact absurd hget (by simp)
  · intro id' ld hget
    exact (h.opened id' ld hget).mono (Files.spares_openW _ _) (by simp [step])

lemma inv_write (h : Inv proc start mode s history) (n : ℕ) :
    Inv proc start mode (step proc s (.write id n)).2 (history ++ (step proc s (.write id n)).1) := by
  rw [step]
  cases hget : s.saves.get? id with
  | none => rwa [List.append_nil]
  | some sv =>
    have hsv := h.sound id sv hget
    have hspares := Files.spares_put hsv.named { s.files.data sv.file with
      content := Files.overlay (s.files.data sv.file).content sv.written
        (((proc.text sv.config).drop sv.written).take n) }
    rw [List.append_nil]
    refine ⟨?_, ?_, h.single_set hget _, ?_, ?_, h.audited⟩
    · exact (Files.file?_put_of_ne hsv.named (by decide) _).trans h.placed
    · exact (Files.mode_write _ _ _ _).trans h.leftover
    · intro id' sv' hset
      obtain rfl := h.eq_of_set hget hset
      have hdata := s.files.data_write sv.file sv.written
        (((proc.text sv.config).drop sv.written).take n)
      refine ⟨hsv.named, ?_, ?_, ?_⟩
      · rw [hdata, hsv.content]
        exact Files.overlay_take hsv.le n
      · have hle : (((proc.text sv.config).drop sv.written).take n).length ≤
            (proc.text sv.config).length - sv.written := by
          rw [← List.length_drop]
          exact List.length_take_le' n _
        have := hsv.le
        show sv.written + (((proc.text sv.config).drop sv.written).take n).length ≤
          (proc.text sv.config).length
        omega
      · intro hsecured
        obtain ⟨hwritten, hmode⟩ := hsv.whole hsecured
        refine ⟨?_, hdata ▸ hmode⟩
        simp [hwritten]
    · intro id' ld hld
      have hmono := (h.opened id' ld hld).mono hspares List.not_mem_nil
      rwa [List.append_nil] at hmono

lemma inv_erase (h : Inv proc start mode s history) (id : ℕ) :
    Inv proc start mode { s with saves := s.saves.erase id } history where
  placed := h.placed
  leftover := h.leftover
  single id₁ id₂ sv₁ sv₂ h₁ h₂ :=
    h.single id₁ id₂ sv₁ sv₂ (Dict.of_get?_erase h₁).2 (Dict.of_get?_erase h₂).2
  sound id' sv' hget := h.sound id' sv' (Dict.of_get?_erase hget).2
  opened := h.opened
  audited := h.audited

lemma inv_chmod (h : Inv proc start mode s history) :
    Inv proc start mode (step proc s (.chmod id)).2 (history ++ (step proc s (.chmod id)).1) := by
  rw [step]
  cases hget : s.saves.get? id with
  | none => rwa [List.append_nil]
  | some sv =>
    have hsv := h.sound id sv hget
    by_cases hdone : sv.secured = false ∧ sv.written = (proc.text sv.config).length
    · have hchmod : s.files.chmod .tmp ownerOnly =
          some (s.files.put sv.file { s.files.data sv.file with mode := ownerOnly }) := by
        rw [Files.chmod, hsv.named, Option.map_some]
      have hdata : (s.files.put sv.file { s.files.data sv.file with mode := ownerOnly }).data sv.file =
          { s.files.data sv.file with mode := ownerOnly } := Function.update_self _ _ _
      simp only [if_pos hdone, hchmod]
      refine ⟨?_, ?_, h.single_set hget _, ?_, ?_, h.audited.concat trivial⟩
      · rw [current_concat]
        exact (Files.file?_put_of_ne hsv.named (by decide) _).trans h.placed
      · rw [List.foldl_concat, Files.file?_put_self hsv.named]
        rfl
      · intro id' sv' hset
        obtain rfl := h.eq_of_set hget hset
        exact ⟨hsv.named, (congrArg FileData.content hdata).trans hsv.content, hsv.le,
          fun _ => ⟨hdone.2, congrArg FileData.mode hdata⟩⟩
      · intro id' ld hld
        exact (h.opened id' ld hld).mono (Files.spares_put hsv.named _) (by simp)
    · simp only [if_neg hdone]
      rwa [List.append_nil]

lemma inv_replace (h : Inv proc start mode s history) :
    Inv proc start mode (step proc s (.replace id)).2
      (history ++ (step proc s (.replace id)).1) := by
  rw [step]
  cases hget : s.saves.get? id with
  | none => rwa [List.append_nil]
  | some sv =>
    have hsv := h.sound id sv hget
    by_cases hsecured : sv.secured = true
    · obtain ⟨hwritten, hmode⟩ := hsv.whole hsecured
      have hdata : s.files.data sv.file = { content := proc.text sv.config, mode := ownerOnly } := by
        have hcontent := hsv.content
        rw [hwritten, List.take_length] at hcontent
        rw [← hcontent, ← hmode]
      simp only [if_pos hsecured, Files.rename_eq hsv.named]
      refine ⟨?_, ?_, ?_, ?_, ?_, h.audited.concat trivial⟩
      · rw [current_concat, Files.file?_move hsv.named (by decide), hdata]
        rfl
      · rw [List.foldl_concat, Files.file?_move_self hsv.named]
        rfl
      · intro id₁ id₂ sv₁ sv₂ h₁ h₂
        exact h.single id₁ id₂ sv₁ sv₂ (Dict.of_get?_erase h₁).2 (Dict.of_get?_erase h₂).2
      · -- no save is left
        intro id' sv' herase
        obtain ⟨hne, hget'⟩ := Dict.of_get?_erase herase
        exact absurd (h.single id' id sv' sv hget' hget) hne
      · intro id' ld hld
        exact (h.opened id' ld hld).mono (Files.spares_move hsv.named) (by simp)
    · simp only [if_neg hsecured]
      rwa [List.append_nil]

lemma inv_load (h : Inv proc start mode s history) :
    Inv proc start mode (step proc s (.load id)).2 (history ++ (step proc s (.load id)).1) := by
  have hplaced := h.placed
  cases hpath : s.files.dir .path with
  | none =>
    rw [Files.file?, hpath, Option.map_none] at hplaced
    simp only [step, hpath]
    refine ⟨?_, ?_, h.single, h.sound, ?_, h.audited.concat hplaced.symm⟩
    · rw [current_concat]
      exact h.placed
    · rw [List.foldl_concat]
      exact h.leftover
    · intro id' ld hld
      exact (h.opened id' ld hld).mono (Files.Spares.refl _ _) (by simp)
  | some file =>
    rw [Files.file?, hpath, Option.map_some] at hplaced
    simp only [step, hpath]
    refine ⟨?_, ?_, h.single, h.sound, ?_, h.audited.concat trivial⟩
    · rw [current_concat]
      exact h.placed
    · rw [List.foldl_concat]
      exact h.leftover
    · intro id' ld hld
      rcases Dict.of_get?_set hld with ⟨rfl, rfl⟩ | ⟨hne, hld⟩
      · refine ⟨s.files.fresh .path file hpath, ?_, List.nil_prefix, history, [], rfl, by simp, ?_⟩
        · -- the temporary file is another one
          intro htmp
          exact absurd (s.files.apart .path .tmp file hpath htmp) (by decide)
        · rw [← hplaced]
          rfl
      · exact (h.opened id' ld hld).mono (Files.Spares.refl _ _) (by simpa using hne)

lemma inv_read (h : Inv proc start mode s history) (n : ℕ) :
    Inv proc start mode (step proc s (.read id n)).2 (history ++ (step proc s (.read id n)).1) := by
  rw [step]
  cases hget : s.loads.get? id with
  | none => rwa [List.append_nil]
  | some ld =>
    have hld := h.opened id ld hget
    obtain ⟨rest, hrest⟩ := hld.got
    have hdrop : (s.files.data ld.file).content.drop ld.got.length = rest := by
      rw [← hrest, List.drop_left]
    simp only [hdrop]
    by_cases hend : rest.take (n + 1) = []
    · have hall : ld.got = (s.files.data ld.file).content := by
        have hrest' : rest = [] := by simpa using hend
        rw [← hrest, hrest', List.append_nil]
      obtain ⟨before, after, hhist, hafter, hcurrent⟩ := hld.since
      simp only [if_pos hend]
      refine ⟨?_, ?_, h.single, h.sound, ?_,
        h.audited.concat ⟨before, after, hhist, hafter, hall ▸ hcurrent⟩⟩
      · rw [current_concat]
        exact h.placed
      · rw [List.foldl_concat]
        exact h.leftover
      · intro id' ld' herase
        exact (h.opened id' ld' (Dict.of_get?_erase herase).2).mono (Files.Spares.refl _ _) (by simp)
    · simp only [if_neg hend]
      rw [List.append_nil]
      refine ⟨h.placed, h.leftover, h.single, h.sound, ?_, h.audited⟩
      intro id' ld' hset
      rcases Dict.of_get?_set hset with ⟨rfl, rfl⟩ | ⟨-, hget'⟩
      · refine ⟨hld.lt, hld.spared, ?_, hld.since⟩
        rw [← hrest]
        exact (List.prefix_append_right_inj _).2 (List.take_prefix _ _)
      · exact h.opened id' ld' hget'

lemma step_inv (e : Event) (h : Inv proc start mode s history) (halone : s.Alone e) :
    Inv proc start mode (step proc s e).2 (history ++ (step proc s e).1) := by
  cases e with
  | save id cfg => exact inv_save h halone cfg
  | write id n => exact inv_write h n
  | chmod id => exact inv_chmod h
  | replace id => exact inv_replace h
  | stop id => simpa [step] using inv_erase h id
  | load id => exact inv_load h
  | read id n => exact inv_read h n

/-- **Saving is atomic.**  In every run, whatever stops the saves, the configuration is the last one
that was put in its place, with permissions for its owner only, and every load returns the whole of one
that was in its place when the load began, or that there is none.  The other file can be looked at by
others from when it is created until its permissions are set, and for as long as it is left over if they
never are. -/
theorem saved_whole (proc : Process) (files : Files FileName) (events : List Event)
    (h : Machine.Meets (step proc) (fun s _ e => s.Alone e) events { files } []) :
    (run proc events { files }).2.files.file? .path =
        current proc (files.file? .path) (run proc events { files }).1 ∧
      Machine.Audited (Whole proc (files.file? .path)) (run proc events { files }).1 ∧
      ((run proc events { files }).2.files.file? .tmp).map FileData.mode =
        (run proc events { files }).1.foldl (leftover proc) ((files.file? .tmp).map FileData.mode) := by
  have hstart : Inv proc (files.file? .path) ((files.file? .tmp).map FileData.mode) { files } [] :=
    ⟨rfl, rfl, fun _ _ _ _ hget => absurd hget (by simp), fun _ _ hget => absurd hget (by simp),
      fun _ _ hget => absurd hget (by simp), Machine.audited_nil⟩
  have hrun := Machine.run_invariant_of_meets (step proc)
    (fun s hist e hs he => step_inv e hs he) events hstart h
  rw [List.nil_append] at hrun
  exact ⟨hrun.placed, hrun.audited, hrun.leftover⟩

/-- A writer of the names of the sections. -/
def outline : Process where
  pydantic := strict
  safeDump fields := (String.join (fields.map fun f => f.1 ++ ":\n")).toUTF8.data.toList
  mode := 0o644

/-- A directory with nothing in it. -/
def unused : Files FileName where
  dir _ := none
  data _ := { mode := 0 }
  next := 0
  fresh _ _ h := absurd h (by simp)
  apart _ _ _ h := absurd h (by simp)

/-- A save that is stopped after a while, and one that is not, with a load after each. -/
def stoppedAndSaved : List Event :=
  [.save 0 {}, .write 0 100, .load 0, .stop 0, .save 1 {}, .write 1 100, .write 1 100, .chmod 1,
    .replace 1, .load 1, .read 1 100, .save 2 {}, .read 1 100, .read 1 100]

theorem saved_whole_stoppedAndSaved :
    (run outline stoppedAndSaved { files := unused }).2.files.file? .path =
        current outline (unused.file? .path) (run outline stoppedAndSaved { files := unused }).1 ∧
      Machine.Audited (Whole outline (unused.file? .path))
        (run outline stoppedAndSaved { files := unused }).1 ∧
      ((run outline stoppedAndSaved { files := unused }).2.files.file? .tmp).map FileData.mode =
        (run outline stoppedAndSaved { files := unused }).1.foldl (leftover outline)
          ((unused.file? .tmp).map FileData.mode) :=
  saved_whole outline unused stoppedAndSaved (by decide +kernel)

/-- Of two processes that save at a time, one puts in place what the other has emptied. -/
example : (run outline [.save 0 {}, .write 0 200, .chmod 0, .save 1 {}, .replace 0]
    { files := unused }).2.files.file? .path = some { content := [], mode := 0o600 } := by
  decide +kernel

end ConfigDir

end Turbobond.App
