import Mathlib.Data.List.DropRight

/-!
# Pieces of text

Text cut at a character, into lines or into words, as `split`, `rsplit` and `splitlines` of Python
cut it.
-/

namespace Turbobond.Text

/-- What stands before the first of a character, or all. -/
def before (c : Char) (s : List Char) : List Char := s.takeWhile (· ≠ c)

/-- What stands after the first of a character. -/
def after (c : Char) (s : List Char) : List Char := (s.dropWhile (· ≠ c)).drop 1

/-- What stands before the last of a character, or all. -/
def beforeLast (c : Char) (s : List Char) : List Char :=
  if c ∈ s then (s.rdropWhile (· ≠ c)).dropLast else s

/-- What stands after the last of a character, or all. -/
def afterLast (c : Char) (s : List Char) : List Char := s.rtakeWhile (· ≠ c)

/-- The words of a text, between characters that are spaces. -/
def words (isSpace : Char → Bool) (s : List Char) : List (List Char) :=
  (s.splitOnP isSpace).filter (· ≠ [])

/-- A character that ends a line. -/
def endsLine (c : Char) : Bool :=
  let n := c.val.toNat
  10 ≤ n ∧ n ≤ 13 ∨ 28 ≤ n ∧ n ≤ 30 ∨ n ∈ [133, 8232, 8233]

/-- The lines of a text; a line feed after a carriage return does not end another line. -/
def splitlines : List Char → List (List Char)
  | [] => []
  | '\r' :: '\n' :: s => [] :: splitlines s
  | c :: s =>
    if endsLine c then [] :: splitlines s
    else
      match splitlines s with
      | [] => [[c]]
      | line :: lines => (c :: line) :: lines

/-- Words as one text, with a character between them. -/
def joined (c : Char) : List (List Char) → List Char
  | [] => []
  | [w] => w
  | w :: ws => w ++ c :: joined c ws

/-- Lines as one text, each with its end. -/
def unlines (lines : List (List Char)) : List Char := lines.flatMap (· ++ ['\n'])

/-! ### Cutting -/

variable {c : Char} {s t : List Char} {isSpace : Char → Bool}

/-- A check over the characters of a text decides what holds of each of them. -/
lemma forall_mem {p : Char → Prop} [DecidablePred p] (h : s.all (fun x => decide (p x)) = true) :
    ∀ x ∈ s, p x := by
  simpa only [List.all_eq_true, decide_eq_true_eq] using h

lemma before_append (h : c ∉ s) (t : List Char) : before c (s ++ c :: t) = s := by
  have hall : ∀ x ∈ s, decide (x ≠ c) = true := fun x hx => by
    simpa using fun heq : x = c => h (heq ▸ hx)
  rw [before, List.takeWhile_append_of_pos hall, List.takeWhile_cons_of_neg (by simp), List.append_nil]

lemma after_append (h : c ∉ s) (t : List Char) : after c (s ++ c :: t) = t := by
  have hall : ∀ x ∈ s, decide (x ≠ c) = true := fun x hx => by
    simpa using fun heq : x = c => h (heq ▸ hx)
  rw [after, List.dropWhile_append_of_pos hall, List.dropWhile_cons_of_neg (by simp)]
  rfl

lemma afterLast_append (s : List Char) (h : c ∉ t) : afterLast c (s ++ c :: t) = t := by
  have hcut : s ++ c :: t = (s ++ [c]) ++ t := by simp
  rw [afterLast, hcut]
  induction t using List.reverseRecOn with
  | nil => rw [List.append_nil, List.rtakeWhile_concat_neg _ _ _ (by simp)]
  | append_singleton t x ih =>
    have hx : x ≠ c := fun heq => h (by simp [heq])
    have ht : c ∉ t := fun hmem => h (List.mem_append_left _ hmem)
    rw [← List.append_assoc, List.rtakeWhile_concat_pos _ _ _ (by simpa using hx), ih ht (by simp)]

/-- What ends with another character ends so after a cut at the right. -/
lemma rdropWhile_append_self {α : Type} {p : α → Bool} {s t : List α} (h : ∀ x ∈ t, p x = true)
    (hs : s.rdropWhile p = s) : (s ++ t).rdropWhile p = s := by
  induction t using List.reverseRecOn with
  | nil => rw [List.append_nil, hs]
  | append_singleton t x ih =>
    rw [← List.append_assoc, List.rdropWhile_concat_pos _ _ _ (h x (by simp)),
      ih fun y hy => h y (List.mem_append_left _ hy)]

/-- A word and the words after it. -/
lemma words_append (hs : s ≠ []) (hword : ∀ x ∈ s, isSpace x = false) (hc : isSpace c = true)
    (t : List Char) : words isSpace (s ++ c :: t) = s :: words isSpace t := by
  rw [words, List.splitOnP_append_cons_of_forall_mem hword c hc, List.filter_cons_of_pos (by simpa)]
  rfl

lemma words_of_word (hs : s ≠ []) (hword : ∀ x ∈ s, isSpace x = false) :
    words isSpace s = [s] := by
  rw [words, List.splitOnP_eq_singleton hword]
  simp [hs]

lemma words_cons_of_space (hc : isSpace c = true) (s : List Char) :
    words isSpace (c :: s) = words isSpace s := by
  rw [words, List.splitOnP_cons_eq_if_modifyHead, if_pos hc, List.filter_cons_of_neg (by simp)]
  rfl

/-- A text is empty, or begins with a space, or with a word that ends it or that a space ends. -/
theorem words_induction (isSpace : Char → Bool) {motive : List Char → Prop} (nil : motive [])
    (space : ∀ c s, isSpace c = true → motive s → motive (c :: s))
    (last : ∀ w, w ≠ [] → (∀ x ∈ w, isSpace x = false) → motive w)
    (word : ∀ w c s, w ≠ [] → (∀ x ∈ w, isSpace x = false) → isSpace c = true → motive s →
      motive (w ++ c :: s)) (s : List Char) : motive s := by
  induction h : s.length using Nat.strong_induction_on generalizing s with
  | _ n ih =>
  subst h
  cases s with
  | nil => exact nil
  | cons c s =>
    cases hc : isSpace c with
    | true => exact space c s hc (ih s.length (by simp) s rfl)
    | false =>
      have hcut := List.takeWhile_append_dropWhile (p := fun x => !isSpace x) (l := c :: s)
      have hword : ∀ x ∈ (c :: s).takeWhile fun x => !isSpace x, isSpace x = false :=
        fun x hx => by simpa using List.mem_takeWhile_imp hx
      have hne : (c :: s).takeWhile (fun x => !isSpace x) ≠ [] := by
        rw [List.takeWhile_cons_of_pos (by simp [hc])]
        simp
      rw [← hcut]
      cases hrest : (c :: s).dropWhile fun x => !isSpace x with
      | nil =>
        rw [List.append_nil]
        exact last _ hne hword
      | cons d rest =>
        have hd : isSpace d = true := by
          have := List.head_dropWhile_not (fun x => !isSpace x) (by rw [hrest]; simp)
          simpa [hrest] using this
        refine word _ d rest hne hword hd (ih rest.length ?_ rest rfl)
        have hlen := congrArg List.length hcut
        rw [hrest, List.length_append, List.length_cons (a := d)] at hlen
        omega

/-- A text without words is made of spaces. -/
lemma isSpace_of_words_eq_nil (h : words isSpace s = []) : ∀ x ∈ s, isSpace x = true := by
  induction s using words_induction isSpace with
  | nil => simp
  | space c s hc ih =>
    exact List.forall_mem_cons.2 ⟨hc, ih (words_cons_of_space hc s ▸ h)⟩
  | last w hne hword => exact absurd (words_of_word hne hword ▸ h) (by simp)
  | word w c s hne hword hc ih => exact absurd (words_append hne hword hc s ▸ h) (by simp)

/-- What is not a space belongs to a word. -/
lemma exists_mem_words {x : Char} (hx : x ∈ s) (hspace : isSpace x = false) :
    ∃ w ∈ words isSpace s, x ∈ w := by
  induction s using words_induction isSpace with
  | nil => exact absurd hx List.not_mem_nil
  | space c s hc ih =>
    rw [words_cons_of_space hc]
    refine ih ((List.mem_cons.1 hx).resolve_left fun heq => ?_)
    exact absurd (heq ▸ hc) (by simp [hspace])
  | last w hne hword => exact ⟨w, by rw [words_of_word hne hword]; simp, hx⟩
  | word w c s hne hword hc ih =>
    rw [words_append hne hword hc]
    rcases List.mem_append.1 hx with hw | hs
    · exact ⟨w, List.mem_cons_self, hw⟩
    · have hs' := (List.mem_cons.1 hs).resolve_left fun heq => by simp [← heq, hspace] at hc
      obtain ⟨w', hw', hmem⟩ := ih hs'
      exact ⟨w', List.mem_cons_of_mem _ hw', hmem⟩

/-- A text of one word is that word with spaces around it. -/
lemma eq_of_words_eq_singleton {w : List Char} (h : words isSpace s = [w]) :
    ∃ lead trail, (∀ x ∈ lead, isSpace x = true) ∧ (∀ x ∈ trail, isSpace x = true) ∧
      (∀ x ∈ w, isSpace x = false) ∧ s = lead ++ w ++ trail := by
  induction s using words_induction isSpace with
  | nil => exact absurd h (by simp [words])
  | space c s hc ih =>
    obtain ⟨lead, trail, hlead, htrail, hword, heq⟩ := ih (words_cons_of_space hc s ▸ h)
    exact ⟨c :: lead, trail, List.forall_mem_cons.2 ⟨hc, hlead⟩, htrail, hword, by simp [heq]⟩
  | last v hne hword =>
    obtain rfl : v = w := List.singleton_inj.1 ((words_of_word hne hword).symm.trans h)
    exact ⟨[], [], by simp, by simp, hword, by simp⟩
  | word v c s hne hword hc ih =>
    rw [words_append hne hword hc] at h
    obtain ⟨rfl, hnil⟩ := List.cons_eq_cons.1 h
    exact ⟨[], c :: s, by simp,
      List.forall_mem_cons.2 ⟨hc, isSpace_of_words_eq_nil hnil⟩, hword, by simp⟩

/-- A word with spaces around it. -/
lemma words_of_surrounded {lead w trail : List Char} (hlead : ∀ x ∈ lead, isSpace x = true)
    (hne : w ≠ []) (hword : ∀ x ∈ w, isSpace x = false) (htrail : ∀ x ∈ trail, isSpace x = true) :
    words isSpace (lead ++ w ++ trail) = [w] := by
  have hnil : ∀ t : List Char, (∀ x ∈ t, isSpace x = true) → words isSpace t = [] := by
    intro t ht
    induction t with
    | nil => simp [words]
    | cons c t ih =>
      rw [List.forall_mem_cons] at ht
      rw [words_cons_of_space ht.1, ih ht.2]
  induction lead with
  | nil =>
    cases trail with
    | nil => simpa using words_of_word hne hword
    | cons c t =>
      rw [List.forall_mem_cons] at htrail
      rw [List.nil_append, words_append hne hword htrail.1, hnil t htrail.2]
  | cons c lead ih =>
    rw [List.forall_mem_cons] at hlead
    rw [List.cons_append, List.cons_append, words_cons_of_space hlead.1, ih hlead.2]

/-- Words are read as they were written, with spaces after them. -/
theorem words_joined {ws : List (List Char)} {trail : List Char} (hc : isSpace c = true)
    (hne : ∀ w ∈ ws, w ≠ []) (hword : ∀ w ∈ ws, ∀ x ∈ w, isSpace x = false)
    (htrail : ∀ x ∈ trail, isSpace x = true) : words isSpace (joined c ws ++ trail) = ws := by
  induction ws with
  | nil =>
    rw [joined, List.nil_append]
    induction trail with
    | nil => rfl
    | cons x trail ih =>
      rw [List.forall_mem_cons] at htrail
      rw [words_cons_of_space htrail.1, ih htrail.2]
  | cons w ws ih =>
    rw [List.forall_mem_cons] at hne hword
    cases ws with
    | nil =>
      have hone : words isSpace ([] ++ w ++ trail) = [w] :=
        words_of_surrounded (by simp) hne.1 hword.1 htrail
      exact hone
    | cons v ws =>
      rw [joined, List.append_assoc, List.cons_append, words_append hne.1 hword.1 hc,
        ih hne.2 hword.2]
      simp

lemma mem_joined {ws : List (List Char)} {x : Char} (h : x ∈ joined c ws) :
    x = c ∨ ∃ w ∈ ws, x ∈ w := by
  induction ws with
  | nil => exact absurd h List.not_mem_nil
  | cons w ws ih =>
    cases ws with
    | nil => exact .inr ⟨w, List.mem_cons_self, h⟩
    | cons v ws =>
      rw [joined, List.mem_append, List.mem_cons] at h
      · rcases h with h | rfl | h
        · exact .inr ⟨w, List.mem_cons_self, h⟩
        · exact .inl rfl
        · obtain rfl | ⟨u, hu, hx⟩ := ih h
          · exact .inl rfl
          · exact .inr ⟨u, List.mem_cons_of_mem _ hu, hx⟩
      · simp

/-! ### Lines -/

lemma splitlines_cons (h : endsLine c = false) :
    splitlines (c :: s) = match splitlines s with
      | [] => [[c]]
      | line :: lines => (c :: line) :: lines := by
  rw [splitlines.eq_3, h]
  · simp
  · rintro rest rfl -
    exact absurd h (by decide)

/-- No line has a character that ends one. -/
lemma endsLine_of_mem_splitlines {line : List Char} (h : line ∈ splitlines s) :
    ∀ c ∈ line, endsLine c = false := by
  induction s using splitlines.induct generalizing line with
  | case1 => exact absurd h List.not_mem_nil
  | case2 s ih =>
    rw [splitlines] at h
    rcases List.mem_cons.1 h with rfl | h
    · simp
    · exact ih h
  | case3 c s hne hends ih =>
    rw [splitlines.eq_3 _ _ hne, if_pos hends] at h
    rcases List.mem_cons.1 h with rfl | h
    · simp
    · exact ih h
  | case4 c s hne hends hnil ih =>
    have hc : endsLine c = false := by simpa using hends
    rw [splitlines_cons hc, hnil] at h
    obtain rfl := List.mem_singleton.1 h
    simpa using hc
  | case5 c s hne hends first lines hlines ih =>
    have hc : endsLine c = false := by simpa using hends
    rw [splitlines_cons hc, hlines] at h
    rw [hlines] at ih
    rcases List.mem_cons.1 h with rfl | h
    · exact List.forall_mem_cons.2 ⟨hc, ih List.mem_cons_self⟩
    · exact ih (List.mem_cons_of_mem _ h)

lemma splitlines_append_newline (h : ∀ c ∈ s, endsLine c = false) (t : List Char) :
    splitlines (s ++ '\n' :: t) = s :: splitlines t := by
  induction s with
  | nil => rw [List.nil_append, splitlines.eq_3 _ _ (by simp), if_pos (by decide)]
  | cons c s ih =>
    rw [List.cons_append, splitlines_cons (h c List.mem_cons_self),
      ih fun x hx => h x (List.mem_cons_of_mem _ hx)]

/-- Lines are read as they were written. -/
theorem splitlines_unlines {lines : List (List Char)}
    (h : ∀ line ∈ lines, ∀ c ∈ line, endsLine c = false) : splitlines (unlines lines) = lines := by
  induction lines with
  | nil => rfl
  | cons line lines ih =>
    rw [unlines, List.flatMap_cons, List.append_assoc, List.singleton_append,
      splitlines_append_newline (h line List.mem_cons_self)]
    exact congrArg (line :: ·) (ih fun l hl => h l (List.mem_cons_of_mem _ hl))

end Turbobond.Text
