import Agenda.Text.Blank
import Mathlib.Data.List.Basic
import Mathlib.Data.List.DropRight
import Mathlib.Data.List.TakeWhile

/-!
# Words of a text

`fields` is the split of a list at each element that satisfies a predicate
(`fields_eq_splitOnP`), so all that is known of such splits holds of it. The words of a text are
non-empty and have no blanks in them (`isWord_of_mem_words`), and such words are read back from the
text that `unwords` makes of them (`words_unwords`).
-/

namespace Agenda.Text

variable {isSeparator : Char → Bool} {text w : List Char} {ws : List (List Char)} {c : Char}

/-! ### Fields -/

theorem fields_eq_splitOnP (isSeparator : Char → Bool) (text : List Char) :
    fields isSeparator text = text.splitOnP isSeparator := by
  induction text with
  | nil => rfl
  | cons c cs ih =>
    unfold fields
    rw [List.splitOnP_cons_eq_if_modifyHead, ← ih]
    obtain ⟨field, rest, hfields⟩ := List.exists_cons_of_ne_nil (fields_ne_nil isSeparator cs)
    rw [hfields]
    rfl

/-- A separator cuts the fields apart. -/
theorem fields_append_cons (hc : isSeparator c = true) (before text : List Char) :
    fields isSeparator (before ++ c :: text)
      = fields isSeparator before ++ fields isSeparator text := by
  simp only [fields_eq_splitOnP]
  exact List.splitOnP_append_cons before text hc

theorem fields_beq_append_cons (sign : Char) (before text : List Char) :
    fields (· == sign) (before ++ sign :: text)
      = fields (· == sign) before ++ fields (· == sign) text := by
  refine fields_append_cons ?_ before text
  exact beq_self_eq_true sign

theorem fields_of_not_mem (h : ∀ c ∈ text, isSeparator c = false) :
    fields isSeparator text = [text] := by
  rw [fields_eq_splitOnP]
  exact List.splitOnP_eq_singleton h

theorem fields_beq_of_notMem {sign : Char} (h : sign ∉ text) :
    fields (· == sign) text = [text] :=
  fields_of_not_mem fun _ hc => beq_eq_false_iff_ne.mpr fun heq => h (heq ▸ hc)

/-- What stands before the first separator belongs to the first field. -/
theorem fields_append_of_not_mem (hw : ∀ c ∈ w, isSeparator c = false) (text : List Char) :
    fields isSeparator (w ++ text) = (fields isSeparator text).modifyHead (w ++ ·) := by
  induction w with
  | nil =>
    obtain ⟨field, rest, hfields⟩ := List.exists_cons_of_ne_nil (fields_ne_nil isSeparator text)
    rw [List.nil_append, hfields]
    rfl
  | cons c cs ih =>
    obtain ⟨hc, hcs⟩ := List.forall_mem_cons.mp hw
    obtain ⟨field, rest, hfields⟩ := List.exists_cons_of_ne_nil (fields_ne_nil isSeparator text)
    have hrest := ih hcs
    rw [hfields] at hrest
    rw [List.cons_append, fields, hrest, hc, hfields]
    rfl

theorem not_isSeparator_of_mem_fields (hw : w ∈ fields isSeparator text) :
    ∀ c ∈ w, isSeparator c = false := by
  induction text generalizing w with
  | nil =>
    obtain rfl := List.mem_singleton.mp hw
    intro c hc
    cases hc
  | cons d ds ih =>
    obtain ⟨field, rest, hfields⟩ :=
      List.exists_cons_of_ne_nil (fields_ne_nil isSeparator ds)
    unfold fields at hw
    rw [hfields] at ih hw
    split at hw
    · rcases List.mem_cons.mp hw with rfl | hw
      · intro c hc
        cases hc
      · exact ih hw
    -- the first character belongs to the first field
    · rename_i hd
      rcases List.mem_cons.mp hw with rfl | hw
      · intro c hc
        rcases List.mem_cons.mp hc with rfl | hc
        · exact Bool.eq_false_iff.mpr hd
        · exact ih (List.mem_cons_self ..) c hc
      · exact ih (List.mem_cons_of_mem _ hw)

/-- Fields are made of the characters of the text. -/
theorem mem_of_mem_fields (hw : w ∈ fields isSeparator text) (hc : c ∈ w) : c ∈ text := by
  induction text generalizing w with
  | nil =>
    rw [List.mem_singleton.mp hw] at hc
    cases hc
  | cons d ds ih =>
    obtain ⟨field, rest, hfields⟩ :=
      List.exists_cons_of_ne_nil (fields_ne_nil isSeparator ds)
    unfold fields at hw
    rw [hfields] at ih hw
    split at hw
    · rcases List.mem_cons.mp hw with rfl | hw
      · cases hc
      · exact List.mem_cons_of_mem _ (ih hw hc)
    · rcases List.mem_cons.mp hw with rfl | hw
      · rcases List.mem_cons.mp hc with rfl | hc
        · exact List.mem_cons_self ..
        · exact List.mem_cons_of_mem _ (ih (List.mem_cons_self ..) hc)
      · exact List.mem_cons_of_mem _ (ih (List.mem_cons_of_mem _ hw) hc)

/-- Only a text of separators has no pieces between them. -/
theorem pieces_eq_nil_iff : pieces isSeparator text = [] ↔ text.all isSeparator = true := by
  induction text with
  | nil => exact iff_of_true rfl rfl
  | cons c cs ih =>
    obtain ⟨field, rest, hfields⟩ := List.exists_cons_of_ne_nil (fields_ne_nil isSeparator cs)
    unfold pieces at ih ⊢
    rw [fields, List.all_cons]
    cases hc : isSeparator c with
    | true => exact ih
    | false =>
      rw [hfields]
      exact iff_of_false (List.cons_ne_nil _ _) Bool.false_ne_true

/-- A separator cuts the pieces apart. -/
theorem pieces_append_cons (hc : isSeparator c = true) (before text : List Char) :
    pieces isSeparator (before ++ c :: text)
      = pieces isSeparator before ++ pieces isSeparator text := by
  unfold pieces
  rw [fields_append_cons hc, List.filter_append]

theorem mem_pieces : w ∈ pieces isSeparator text ↔ w ∈ fields isSeparator text ∧ w ≠ [] := by
  unfold pieces
  rw [List.mem_filter, Bool.not_eq_true', List.isEmpty_eq_false_iff]

/-- A text begins with a piece, unless it begins with a separator. -/
theorem exists_first_piece (hc : isSeparator c = false) (text : List Char) :
    ∃ w ∈ pieces isSeparator (c :: text), w.head? = some c := by
  obtain ⟨field, rest, hfields⟩ := List.exists_cons_of_ne_nil (fields_ne_nil isSeparator text)
  refine ⟨c :: field, mem_pieces.mpr ⟨?_, List.cons_ne_nil _ _⟩, rfl⟩
  rw [fields, hc, hfields]
  exact List.mem_cons_self ..

/-- A text ends with a piece, unless it ends with a separator. -/
theorem exists_last_piece (hc : isSeparator c = false) (text : List Char) :
    ∃ w ∈ pieces isSeparator (text ++ [c]), w.getLast? = some c := by
  induction text with
  | nil =>
    refine ⟨[c], mem_pieces.mpr ⟨?_, List.cons_ne_nil _ _⟩, rfl⟩
    rw [List.nil_append, fields_of_not_mem (by simpa using hc)]
    exact List.mem_singleton_self _
  | cons d ds ih =>
    obtain ⟨w, hw, hlast⟩ := ih
    obtain ⟨hfield, hne⟩ := mem_pieces.mp hw
    obtain ⟨field, rest, hfields⟩ :=
      List.exists_cons_of_ne_nil (fields_ne_nil isSeparator (ds ++ [c]))
    rw [hfields] at hfield
    have hcons : fields isSeparator (d :: (ds ++ [c]))
        = if isSeparator d then [] :: field :: rest else (d :: field) :: rest := by
      rw [fields, hfields]
    cases hd : isSeparator d with
    | true =>
      refine ⟨w, mem_pieces.mpr ⟨?_, hne⟩, hlast⟩
      rw [List.cons_append, hcons, hd]
      exact List.mem_cons_of_mem _ hfield
    -- the first field grows by a character
    | false =>
      rw [hd, if_neg Bool.false_ne_true] at hcons
      rcases List.mem_cons.mp hfield with rfl | hrest
      · refine ⟨d :: w, mem_pieces.mpr ⟨?_, List.cons_ne_nil _ _⟩, ?_⟩
        · rw [List.cons_append, hcons]
          exact List.mem_cons_self ..
        · rw [List.getLast?_cons_of_ne_nil hne, hlast]
      · refine ⟨w, mem_pieces.mpr ⟨?_, hne⟩, hlast⟩
        rw [List.cons_append, hcons]
        exact List.mem_cons_of_mem _ hrest

/-! ### Words -/

/-- A text that can be a word: it is not empty, and no blank is in it. -/
structure IsWord (w : List Char) : Prop where
  ne_nil : w ≠ []
  not_blank : ∀ c ∈ w, isBlank c = false

theorem isWord_iff : IsWord w ↔ w.isEmpty = false ∧ w.all (!isBlank ·) = true := by
  rw [List.isEmpty_eq_false_iff, List.all_eq_true]
  simp only [Bool.not_eq_true']
  exact ⟨fun h => ⟨h.ne_nil, h.not_blank⟩, fun h => ⟨h.1, h.2⟩⟩

instance (w : List Char) : Decidable (IsWord w) :=
  decidable_of_iff' _ isWord_iff

theorem isWord_of_mem_words (h : w ∈ words text) : IsWord w := by
  obtain ⟨hfield, hne⟩ := mem_pieces.mp h
  exact ⟨hne, not_isSeparator_of_mem_fields hfield⟩

theorem mem_of_mem_words (hw : w ∈ words text) (hc : c ∈ w) : c ∈ text :=
  mem_of_mem_fields (List.mem_of_mem_filter hw) hc

theorem IsWord.cons (hw : IsWord w) (hc : isBlank c = false) : IsWord (c :: w) :=
  ⟨List.cons_ne_nil _ _, List.forall_mem_cons.mpr ⟨hc, hw.not_blank⟩⟩

/-- A blank cuts the words apart. -/
theorem words_append_cons (hc : isBlank c = true) (before text : List Char) :
    words (before ++ c :: text) = words before ++ words text :=
  pieces_append_cons hc before text

theorem words_of_isWord (hw : IsWord w) : words w = [w] := by
  unfold words pieces
  rw [fields_of_not_mem hw.not_blank]
  exact List.filter_cons_of_pos (by simpa using hw.ne_nil)

theorem isBlank_space : isBlank ' ' = true := by
  decide

theorem unwords_singleton (w : List Char) : unwords [w] = w :=
  List.intercalate_singleton

theorem unwords_cons_cons (w next : List Char) (rest : List (List Char)) :
    unwords (w :: next :: rest) = w ++ ' ' :: unwords (next :: rest) := by
  rw [unwords, List.intercalate_cons_cons, List.append_assoc]
  rfl

/-- The first word of a text goes on until a blank. -/
theorem words_append (hw : IsWord w) (text : List Char) : words (w ++ text) =
    (w ++ text.takeWhile (!isBlank ·)) :: words (text.dropWhile (!isBlank ·)) := by
  have hfirst : IsWord (w ++ text.takeWhile (!isBlank ·)) := by
    refine ⟨List.append_ne_nil_of_left_ne_nil hw.ne_nil _, ?_⟩
    refine List.forall_mem_append.mpr ⟨hw.not_blank, fun c hc => ?_⟩
    simpa using List.mem_takeWhile_imp hc
  have htext := List.takeWhile_append_dropWhile (p := (!isBlank ·)) (l := text)
  have hblank := List.head?_dropWhile_not (!isBlank ·) text
  cases hrest : text.dropWhile (!isBlank ·) with
  | nil =>
    rw [hrest, List.append_nil] at htext
    rw [htext] at hfirst ⊢
    exact words_of_isWord hfirst
  | cons c cs =>
    rw [hrest] at htext hblank
    have hc : isBlank c = true := by simpa using hblank
    have hcut : words (w ++ text) = words (w ++ text.takeWhile (!isBlank ·)) ++ words cs := by
      rw [← words_append_cons hc, List.append_assoc, htext]
    rw [hcut, words_of_isWord hfirst]
    exact congrArg (_ :: ·) (words_append_cons hc [] cs).symm

theorem unwords_append (w : List Char) (next : List Char) (ws : List (List Char)) :
    unwords ((w ++ next) :: ws) = w ++ unwords (next :: ws) := by
  cases ws with
  | nil => rw [unwords_singleton, unwords_singleton]
  | cons _ _ => rw [unwords_cons_cons, unwords_cons_cons, List.append_assoc]

/-- **Words are read back from the text that they make up.** -/
theorem words_unwords (h : ∀ w ∈ ws, IsWord w) : words (unwords ws) = ws := by
  induction ws with
  | nil => rfl
  | cons w rest ih =>
    obtain ⟨hw, hrest⟩ := List.forall_mem_cons.mp h
    cases rest with
    | nil =>
      rw [unwords_singleton]
      exact words_of_isWord hw
    | cons next rest =>
      rw [unwords_cons_cons, words_append_cons isBlank_space, words_of_isWord hw, ih hrest]
      rfl

theorem mem_unwords {c : Char} (h : c ∈ unwords ws) : c = ' ' ∨ ∃ w ∈ ws, c ∈ w := by
  induction ws with
  | nil => cases h
  | cons w rest ih =>
    cases rest with
    | nil =>
      rw [unwords_singleton] at h
      exact Or.inr ⟨w, List.mem_cons_self .., h⟩
    | cons next rest =>
      rw [unwords_cons_cons, List.mem_append, List.mem_cons] at h
      rcases h with h | h | h
      · exact Or.inr ⟨w, List.mem_cons_self .., h⟩
      · exact Or.inl h
      · rcases ih h with h | ⟨w', hw', h⟩
        · exact Or.inl h
        · exact Or.inr ⟨w', List.mem_cons_of_mem _ hw', h⟩

/-! ### The ends of a text -/

theorem trimLeft_cons_of_blank (hc : isBlank c = true) (text : List Char) :
    trimLeft (c :: text) = trimLeft text :=
  List.dropWhile_cons_of_pos hc

theorem trimLeft_cons_of_not_blank (hc : isBlank c = false) (text : List Char) :
    trimLeft (c :: text) = c :: text :=
  List.dropWhile_cons_of_neg (by simp [hc])

theorem trimRight_concat_of_blank (hc : isBlank c = true) (text : List Char) :
    trimRight (text ++ [c]) = trimRight text :=
  List.rdropWhile_concat_pos _ _ _ hc

theorem trimRight_concat_of_not_blank (hc : isBlank c = false) (text : List Char) :
    trimRight (text ++ [c]) = text ++ [c] :=
  List.rdropWhile_concat_neg _ _ _ (by simp [hc])

section Transfer

variable {α : Type} {f : List Char → α}

/-- What is the same without a blank at the beginning is the same without all of them. -/
theorem apply_trimLeft (h : ∀ c text, isBlank c = true → f (c :: text) = f text)
    (text : List Char) : f (trimLeft text) = f text := by
  induction text with
  | nil => rfl
  | cons c cs ih =>
    cases hc : isBlank c with
    | true => rw [trimLeft_cons_of_blank hc, ih, h c cs hc]
    | false => rw [trimLeft_cons_of_not_blank hc]

/-- What is the same without a blank at the end is the same without all of them. -/
theorem apply_trimRight (h : ∀ text c, isBlank c = true → f (text ++ [c]) = f text)
    (text : List Char) : f (trimRight text) = f text := by
  induction text using List.reverseRecOn with
  | nil => rfl
  | append_singleton cs c ih =>
    cases hc : isBlank c with
    | true => rw [trimRight_concat_of_blank hc, ih, h cs c hc]
    | false => rw [trimRight_concat_of_not_blank hc]

end Transfer

theorem trim_of_ends (hhead : ∀ c ∈ text.head?, isBlank c = false)
    (hlast : ∀ c ∈ text.getLast?, isBlank c = false) : trim text = text := by
  have hkeep : ∀ text : List Char, (∀ c ∈ text.head?, isBlank c = false) →
      text.dropWhile isBlank = text := by
    intro text h
    cases text with
    | nil => rfl
    | cons c cs => exact List.dropWhile_cons_of_neg (by simp [h c rfl])
  unfold trim trimRight trimLeft
  rw [hkeep text hhead, hkeep, List.reverse_reverse]
  rw [List.head?_reverse]
  exact hlast

theorem head?_unwords (hw : IsWord w) : (unwords (w :: ws)).head? = w.head? := by
  cases ws with
  | nil => rw [unwords_singleton]
  | cons next rest => rw [unwords_cons_cons, List.head?_append_of_ne_nil _ hw.ne_nil]

theorem unwords_ne_nil (hw : IsWord w) : unwords (w :: ws) ≠ [] := by
  intro hnil
  have hhead : (unwords (w :: ws)).head? = w.head? := head?_unwords hw
  rw [hnil] at hhead
  exact hw.ne_nil (List.head?_eq_none_iff.mp hhead.symm)

theorem not_blank_of_mem_getLast?_unwords (h : ∀ w ∈ ws, IsWord w) :
    ∀ c ∈ (unwords ws).getLast?, isBlank c = false := by
  induction ws with
  | nil =>
    intro c hc
    cases hc
  | cons w rest ih =>
    obtain ⟨hw, hrest⟩ := List.forall_mem_cons.mp h
    cases rest with
    | nil =>
      intro c hc
      rw [unwords_singleton] at hc
      exact hw.not_blank c (List.mem_of_getLast? hc)
    | cons next rest =>
      have hne : unwords (next :: rest) ≠ [] := unwords_ne_nil (List.forall_mem_cons.mp hrest).1
      intro c hc
      rw [unwords_cons_cons, List.getLast?_append_of_ne_nil _ (List.cons_ne_nil _ _),
        List.getLast?_cons_of_ne_nil hne] at hc
      exact ih hrest c hc

theorem trim_unwords (h : ∀ w ∈ ws, IsWord w) : trim (unwords ws) = unwords ws := by
  refine trim_of_ends ?_ (not_blank_of_mem_getLast?_unwords h)
  cases ws with
  | nil =>
    intro c hc
    cases hc
  | cons w rest =>
    have hw := (List.forall_mem_cons.mp h).1
    intro c hc
    rw [head?_unwords hw] at hc
    exact hw.not_blank c (List.mem_of_head? hc)

/-- Blanks at the ends of a text make no difference to a property that blanks have. -/
theorem all_trim {p : Char → Bool} (hp : ∀ c, isBlank c = true → p c = true) (text : List Char) :
    (trim text).all p = text.all p := by
  have hright : (trim text).all p = (trimLeft text).all p :=
    apply_trimRight (f := (List.all · p)) (fun text c hc => by simp [hp c hc]) (trimLeft text)
  have hleft : (trimLeft text).all p = text.all p :=
    apply_trimLeft (f := (List.all · p)) (fun c text hc => by simp [hp c hc]) text
  rw [hright, hleft]

theorem trim_sublist (text : List Char) : (trim text).Sublist text := by
  have hright : (trim text).Sublist (trimLeft text) := by
    have := (List.dropWhile_sublist (l := (trimLeft text).reverse) isBlank).reverse
    rwa [List.reverse_reverse] at this
  exact hright.trans (List.dropWhile_sublist _)

theorem trim_cons_of_isBlank (hc : isBlank c = true) (text : List Char) :
    trim (c :: text) = trim text := by
  unfold trim
  rw [trimLeft_cons_of_blank hc]

theorem trim_space_cons (text : List Char) : trim (' ' :: text) = trim text :=
  trim_cons_of_isBlank isBlank_space text

theorem trim_append_of_blank {blanks : List Char} (h : ∀ c ∈ blanks, isBlank c = true)
    (text : List Char) : trim (blanks ++ text) = trim text := by
  induction blanks with
  | nil => rfl
  | cons c cs ih =>
    obtain ⟨hc, hcs⟩ := List.forall_mem_cons.mp h
    rw [List.cons_append, trim_cons_of_isBlank hc, ih hcs]

theorem trimRight_cons (c : Char) (text : List Char) : trimRight (c :: text) =
    if isBlank c && (trimRight text).isEmpty then [] else c :: trimRight text := by
  unfold trimRight
  rw [List.reverse_cons, List.dropWhile_append, List.isEmpty_reverse]
  cases htext : (text.reverse.dropWhile isBlank).isEmpty with
  | true => cases hc : isBlank c <;> simp_all
  | false => simp

theorem trimRight_append_of_not_blank (hw : ∀ c ∈ w, isBlank c = false) (text : List Char) :
    trimRight (w ++ text) = w ++ trimRight text := by
  induction w with
  | nil => rfl
  | cons c cs ih =>
    obtain ⟨hc, hcs⟩ := List.forall_mem_cons.mp hw
    rw [List.cons_append, trimRight_cons, hc, Bool.false_and, if_neg Bool.false_ne_true, ih hcs,
      List.cons_append]

theorem trimLeft_append_of_isWord (hw : IsWord w) (text : List Char) :
    trimLeft (w ++ text) = w ++ text := by
  obtain ⟨c, cs, rfl⟩ := List.exists_cons_of_ne_nil hw.ne_nil
  exact trimLeft_cons_of_not_blank (hw.not_blank c (List.mem_cons_self ..)) _

/-- A text that begins with a word loses blanks at its other end only. -/
theorem trim_append_of_isWord (hw : IsWord w) (text : List Char) :
    trim (w ++ text) = w ++ trimRight text := by
  rw [← trimRight_append_of_not_blank hw.not_blank, trim, trimLeft_append_of_isWord hw]

/-- Blanks taken off the end of a text before are of no account. -/
theorem trim_trimRight (text : List Char) : trim (trimRight text) = trim text := by
  induction text with
  | nil => rfl
  | cons c cs ih =>
    cases hc : isBlank c with
    | true =>
      rw [trim_cons_of_isBlank hc, ← ih, trimRight_cons, hc, Bool.true_and]
      split
      · rename_i hempty
        rw [List.isEmpty_iff.mp hempty]
      · exact trim_cons_of_isBlank hc _
    | false =>
      have hword : IsWord [c] := ⟨List.cons_ne_nil _ _, by simpa using hc⟩
      have hcons : ∀ text, trim (c :: text) = c :: trimRight text := trim_append_of_isWord hword
      rw [trimRight_cons, hc, Bool.false_and, if_neg Bool.false_ne_true, hcons, hcons]
      exact congrArg (c :: ·) (List.rdropWhile_idempotent isBlank cs)

/-! ### Words and blanks -/

theorem words_cons_of_isBlank (hc : isBlank c = true) (text : List Char) :
    words (c :: text) = words text :=
  words_append_cons hc [] text

theorem words_append_of_blank {blanks : List Char} (h : ∀ c ∈ blanks, isBlank c = true)
    (text : List Char) : words (text ++ blanks) = words text := by
  cases blanks with
  | nil => rw [List.append_nil]
  | cons c cs =>
    obtain ⟨hc, hcs⟩ := List.forall_mem_cons.mp h
    have hnone : words cs = [] := pieces_eq_nil_iff.mpr (List.all_eq_true.mpr hcs)
    rw [words_append_cons hc, hnone, List.append_nil]

theorem words_of_blank_append {blanks : List Char} (h : ∀ c ∈ blanks, isBlank c = true)
    (text : List Char) : words (blanks ++ text) = words text := by
  induction blanks with
  | nil => rfl
  | cons c cs ih =>
    obtain ⟨hc, hcs⟩ := List.forall_mem_cons.mp h
    rw [List.cons_append, words_cons_of_isBlank hc, ih hcs]

/-- **The blanks around a text are no part of its words.** -/
theorem words_trim (text : List Char) : words (trim text) = words text := by
  have hleft : words (trimLeft text) = words text :=
    apply_trimLeft (fun _ text hc => words_cons_of_isBlank hc text) text
  have hright : words (trim text) = words (trimLeft text) := by
    apply apply_trimRight
    intro text c hc
    exact words_append_of_blank (by simpa using hc) text
  rw [hright, hleft]

/-- A text that has words has something between its blanks. -/
theorem isEmpty_trim_of_words (h : words text ≠ []) : (trim text).isEmpty = false := by
  rw [List.isEmpty_eq_false_iff]
  intro hnil
  rw [← words_trim, hnil] at h
  exact h rfl

/-- A text of words goes on after its first word with a space, if it goes on. -/
theorem exists_tail_of_unwords (w : List Char) (ws : List (List Char)) :
    ∃ tail, unwords (w :: ws) = w ++ tail ∧ (∀ c ∈ tail.head?, c = ' ') ∧
      trim tail = trim (unwords ws) := by
  cases ws with
  | nil =>
    refine ⟨[], by rw [unwords_singleton, List.append_nil], ?_, rfl⟩
    intro c hc
    cases hc
  | cons next rest =>
    refine ⟨' ' :: unwords (next :: rest), unwords_cons_cons .., ?_, trim_space_cons _⟩
    intro c hc
    exact (Option.some.inj hc).symm

theorem takeWhile_append_of_head? {p : Char → Bool} {tail : List Char} (hw : ∀ c ∈ w, p c = true)
    (htail : ∀ c ∈ tail.head?, p c = false) : (w ++ tail).takeWhile p = w := by
  rw [List.takeWhile_append_of_pos hw]
  cases tail with
  | nil => rw [List.takeWhile_nil, List.append_nil]
  | cons c cs => rw [List.takeWhile_cons_of_neg (by simp [htail c rfl]), List.append_nil]

theorem dropWhile_append_of_head? {p : Char → Bool} {tail : List Char} (hw : ∀ c ∈ w, p c = true)
    (htail : ∀ c ∈ tail.head?, p c = false) : (w ++ tail).dropWhile p = tail := by
  rw [List.dropWhile_append_of_pos hw]
  cases tail with
  | nil => rfl
  | cons c cs => exact List.dropWhile_cons_of_neg (by simp [htail c rfl])

end Agenda.Text
