import Agenda.Language.Body
import Agenda.Proofs.Text.Words
import Mathlib.Data.List.Forall2

/-!
# Bodies of commands

What a word of a body can stand for is known from its signs (`piecesOfWord_cases`). The changes of
tags in a body come of words that are written for them, so their names are not empty and have no
blanks in them (`isNamed_of_mem_tags`).

In the other direction, escaped words, words without signs, tags and at signs each stand for one
piece (`StandsFor`). Together they make up the body that they are written for (`ofText_words`).
-/

namespace Agenda

open Text

namespace Body

/-! ### Words and what they stand for -/

/-- A name of a tag: a word that does not begin with a dash. -/
structure IsTagName (name : List Char) : Prop extends IsWord name where
  head?_ne : name.head? ≠ some '-'

instance (name : List Char) : Decidable (IsTagName name) :=
  decidable_of_iff (IsWord name ∧ name.head? ≠ some '-')
    ⟨fun h => ⟨h.1, h.2⟩, fun h => ⟨h.toIsWord, h.head?_ne⟩⟩

end Body

namespace TagChange

/-- The word that asks for a change of tags. -/
def word : TagChange → List Char
  | add name => '#' :: name.toList
  | remove name => '#' :: '-' :: name.toList
  | clear => ['-', '#']

/-- The name in a change of tags can be written behind the sign. -/
def IsNamed : TagChange → Prop
  | add name => Body.IsTagName name.toList
  | remove name => IsWord name.toList
  | clear => True

instance : DecidablePred IsNamed
  | add name => inferInstanceAs (Decidable (Body.IsTagName name.toList))
  | remove name => inferInstanceAs (Decidable (IsWord name.toList))
  | clear => inferInstanceAs (Decidable True)

end TagChange

namespace Body

variable {word : List Char} {ws : List (List Char)} {pieces : List Piece} {name : String}

theorem mem_literal {text text' : List Char} :
    .word text' ∈ literal text ↔ text' = text ∧ text ≠ [] := by
  unfold literal
  split <;> simp_all

theorem tag_notMem_literal {change : TagChange} (text : List Char) :
    .tag change ∉ literal text := by
  unfold literal
  split <;> simp

/-- The words in a word with at signs are its fields, apart from empty ones. -/
theorem mem_cutAtSigns {text : List Char} (h : .word text ∈ cutAtSigns word) :
    text ∈ fields (· == '@') word ∧ text ≠ [] := by
  unfold cutAtSigns at h
  split at h
  · cases h
  · rename_i first rest hfields
    rw [hfields]
    simp only [List.mem_append, List.mem_flatMap, List.mem_cons, reduceCtorEq, false_or,
      mem_literal] at h
    rcases h with ⟨rfl, hne⟩ | ⟨field, hfield, rfl, hne⟩
    · exact ⟨List.mem_cons_self .., hne⟩
    · exact ⟨List.mem_cons_of_mem _ hfield, hne⟩

theorem tag_notMem_cutAtSigns {change : TagChange} (word : List Char) :
    .tag change ∉ cutAtSigns word := by
  unfold cutAtSigns
  split
  · simp
  · simp [tag_notMem_literal]

theorem tagChange_spec {text : List Char} {change : TagChange} (h : tagChange text = .ok change)
    (hblank : ∀ c ∈ text, isBlank c = false) :
    change.word = '#' :: text ∧ change.IsNamed := by
  unfold tagChange at h
  split at h
  · cases h
  · cases h
  · rename_i name hname
    cases h
    simp only [TagChange.word, TagChange.IsNamed, String.toList_ofList, true_and]
    exact ⟨hname, fun c hc => hblank c (List.mem_cons_of_mem _ hc)⟩
  · rename_i hempty _ hdash
    cases h
    simp only [TagChange.word, TagChange.IsNamed, String.toList_ofList, true_and]
    refine ⟨⟨hempty, hblank⟩, fun hhead => ?_⟩
    obtain ⟨name, rfl⟩ := List.head?_eq_some_iff.mp hhead
    exact hdash name rfl

/-- **What a word of a body stands for**: itself without the backslash before it, the time that is
to be dropped, a change of tags that it is the word for, or the parts between its at signs. -/
theorem piecesOfWord_cases (h : piecesOfWord word = .ok pieces)
    (hblank : ∀ c ∈ word, isBlank c = false) :
    (∃ text, word = '\\' :: text ∧ pieces = literal text) ∨
    (word = ['-', '@'] ∧ pieces = [.dropTime]) ∨
    (∃ change : TagChange, change.word = word ∧ change.IsNamed ∧ pieces = [.tag change]) ∨
    pieces = cutAtSigns word := by
  unfold piecesOfWord at h
  split at h
  · -- an escaped word
    cases h
    exact Or.inl ⟨_, rfl, rfl⟩
  · -- `-@`
    cases h
    exact Or.inr (Or.inl ⟨rfl, rfl⟩)
  · -- `-#`
    cases h
    exact Or.inr (Or.inr (Or.inl ⟨.clear, rfl, trivial, rfl⟩))
  · -- a word that begins with `#`: one that is refused has no pieces
    rename_i text
    cases hchange : tagChange text with
    | error cause =>
      rw [hchange] at h
      cases h
    | ok change =>
      rw [hchange] at h
      cases h
      obtain ⟨hword, hnamed⟩ := tagChange_spec hchange fun c hc =>
        hblank c (List.mem_cons_of_mem _ hc)
      exact Or.inr (Or.inr (Or.inl ⟨change, hword, hnamed, rfl⟩))
  · -- any other word
    cases h
    exact Or.inr (Or.inr (Or.inr rfl))

/-- A word that a piece of a word without blanks stands for has none either. -/
theorem isWord_of_mem_piecesOfWord {text : List Char} (h : piecesOfWord word = .ok pieces)
    (hblank : ∀ c ∈ word, isBlank c = false) (hmem : .word text ∈ pieces) : IsWord text := by
  rcases piecesOfWord_cases h hblank with ⟨_, rfl, rfl⟩ | ⟨rfl, rfl⟩ | ⟨_, rfl, -, rfl⟩ | rfl
  · obtain ⟨rfl, hne⟩ := mem_literal.mp hmem
    exact ⟨hne, fun c hc => hblank c (List.mem_cons_of_mem _ hc)⟩
  · cases List.mem_singleton.mp hmem
  · cases List.mem_singleton.mp hmem
  · obtain ⟨hfield, hne⟩ := mem_cutAtSigns hmem
    exact ⟨hne, fun c hc => hblank c (mem_of_mem_fields hfield hc)⟩

theorem isNamed_of_mem_piecesOfWord {change : TagChange} (h : piecesOfWord word = .ok pieces)
    (hblank : ∀ c ∈ word, isBlank c = false) (hmem : .tag change ∈ pieces) : change.IsNamed := by
  rcases piecesOfWord_cases h hblank with ⟨_, rfl, rfl⟩ | ⟨rfl, rfl⟩ | ⟨_, -, hnamed, rfl⟩ | rfl
  · exact absurd hmem (tag_notMem_literal _)
  · cases List.mem_singleton.mp hmem
  · cases List.mem_singleton.mp hmem
    exact hnamed
  · exact absurd hmem (tag_notMem_cutAtSigns _)

theorem exists_of_mem_piecesOfWords {piece : Piece} (h : piecesOfWords ws = .ok pieces)
    (hmem : piece ∈ pieces) :
    ∃ word ∈ ws, ∃ some, piecesOfWord word = .ok some ∧ piece ∈ some := by
  induction ws generalizing pieces with
  | nil =>
    cases h
    cases hmem
  | cons word rest ih =>
    unfold piecesOfWords at h
    split at h
    · cases h
    rename_i some hsome
    split at h
    · cases h
    rename_i more hmore
    cases h
    rcases List.mem_append.mp hmem with hmem | hmem
    · exact ⟨word, List.mem_cons_self .., some, hsome, hmem⟩
    · obtain ⟨word', hword', result⟩ := ih hmore hmem
      exact ⟨word', List.mem_cons_of_mem _ hword', result⟩

theorem mem_tagChanges {change : TagChange} :
    change ∈ tagChanges pieces ↔ .tag change ∈ pieces := by
  unfold tagChanges
  rw [List.mem_filterMap]
  constructor
  · rintro ⟨piece, hpiece, htag⟩
    split at htag
    · cases htag
      exact hpiece
    · cases htag
  · exact fun h => ⟨_, h, rfl⟩

/-- A body is made up of the pieces of its words. -/
theorem exists_of_ofText {text : String} {body : Body} (h : ofText text = .ok body) :
    ∃ pieces, piecesOfWords (words text.toList) = .ok pieces ∧ body = ofPieces pieces := by
  unfold ofText at h
  cases hpieces : piecesOfWords (words text.toList) with
  | error cause =>
    rw [hpieces] at h
    cases h
  | ok pieces =>
    rw [hpieces] at h
    cases h
    exact ⟨pieces, rfl, rfl⟩

/-- **The changes of tags in a body have names that can be written.** -/
theorem isNamed_of_mem_tags {text : String} {body : Body} {change : TagChange}
    (h : ofText text = .ok body) (hmem : change ∈ body.tags) : change.IsNamed := by
  obtain ⟨pieces, hpieces, rfl⟩ := exists_of_ofText h
  obtain ⟨word, hword, some, hsome, htag⟩ :=
    exists_of_mem_piecesOfWords hpieces (mem_tagChanges.mp hmem)
  exact isNamed_of_mem_piecesOfWord hsome (isWord_of_mem_words hword).not_blank htag

/-- **The tags that a body adds have names without blanks.** -/
theorem isWord_of_mem_tags {text : String} {body : Body} (h : ofText text = .ok body)
    (hmem : .add name ∈ body.tags) : IsWord name.toList :=
  (isNamed_of_mem_tags h hmem).toIsWord

/-! ### Words that stand for one piece -/

/-- A word stands for one piece. -/
def StandsFor (word : List Char) (piece : Piece) : Prop :=
  IsWord word ∧ piecesOfWord word = .ok [piece]

theorem piecesOfWords_of_forall₂ (h : List.Forall₂ StandsFor ws pieces) :
    piecesOfWords ws = .ok pieces := by
  induction h with
  | nil => rfl
  | cons hword _ ih =>
    rw [piecesOfWords, hword.2, ih]
    rfl

theorem isWord_of_forall₂ (h : List.Forall₂ StandsFor ws pieces) : ∀ w ∈ ws, IsWord w := by
  induction h with
  | nil => exact List.forall_mem_nil _
  | cons hword _ ih => exact List.forall_mem_cons.mpr ⟨hword.1, ih⟩

theorem forall₂_map {α : Type} {xs : List α} {write : α → List Char} {piece : α → Piece}
    (h : ∀ x ∈ xs, StandsFor (write x) (piece x)) :
    List.Forall₂ StandsFor (xs.map write) (xs.map piece) := by
  rw [List.forall₂_map_left_iff, List.forall₂_map_right_iff, List.forall₂_same]
  exact h

/-- A word that stands for itself. -/
structure IsLiteral (w : List Char) : Prop extends IsWord w where
  pieces : piecesOfWord w = .ok [.word w]

/-- A word without signs stands for itself. -/
theorem isLiteral_of_not_mem {w : List Char} (hw : IsWord w) (hbackslash : '\\' ∉ w)
    (hhash : '#' ∉ w) (hat : '@' ∉ w) : IsLiteral w := by
  have hfields : fields (· == '@') w = [w] := by
    refine fields_of_not_mem fun c hc => beq_eq_false_iff_ne.mpr ?_
    rintro rfl
    exact hat hc
  refine ⟨hw, ?_⟩
  unfold piecesOfWord
  split
  · exact absurd (List.mem_cons_self ..) hbackslash
  · exact absurd (List.mem_of_getLast? rfl) hat
  · exact absurd (List.mem_of_getLast? rfl) hhash
  · exact absurd (List.mem_cons_self ..) hhash
  · have hempty : w.isEmpty = false := List.isEmpty_eq_false_iff.mpr hw.ne_nil
    simp only [cutAtSigns, hfields, literal, hempty, if_neg Bool.false_ne_true]
    rfl

theorem forall₂_of_isLiteral (h : ∀ w ∈ ws, IsLiteral w) :
    List.Forall₂ StandsFor ws (ws.map .word) := by
  rw [List.forall₂_map_right_iff, List.forall₂_same]
  exact fun w hw => ⟨(h w hw).toIsWord, (h w hw).pieces⟩

theorem standsFor_escaped {w : List Char} (hw : IsWord w) : StandsFor ('\\' :: w) (.word w) := by
  refine ⟨hw.cons (by decide), ?_⟩
  have hne : w.isEmpty = false := List.isEmpty_eq_false_iff.mpr hw.ne_nil
  show Except.ok (literal w) = _
  rw [literal, hne, if_neg Bool.false_ne_true]

/-- **The word for a change of tags** stands for this change. -/
theorem piecesOfWord_word {change : TagChange} (h : change.IsNamed) :
    piecesOfWord change.word = .ok [.tag change] := by
  cases change with
  | add name =>
    -- the name is neither empty nor begins with a dash, so it is not read as a removal
    have hchange : tagChange name.toList = .ok (.add name) := by
      unfold tagChange
      split
      · rename_i heq
        exact absurd heq h.ne_nil
      · rename_i heq
        exact absurd (congrArg List.head? heq) h.head?_ne
      · rename_i heq
        exact absurd (congrArg List.head? heq) h.head?_ne
      · rw [String.ofList_toList]
    show (tagChange name.toList).map _ = _
    rw [hchange]
    rfl
  | remove name =>
    obtain ⟨c, rest, hname⟩ := List.exists_cons_of_ne_nil (IsWord.ne_nil h)
    have hchange : tagChange ('-' :: name.toList) = .ok (.remove name) := by
      rw [hname, tagChange, ← hname, String.ofList_toList]
      simp
    show (tagChange ('-' :: name.toList)).map _ = _
    rw [hchange]
    rfl
  | clear => rfl

theorem standsFor_word {change : TagChange} (h : change.IsNamed) :
    StandsFor change.word (.tag change) := by
  refine ⟨?_, piecesOfWord_word h⟩
  cases change with
  | add name => exact h.toIsWord.cons (by decide)
  | remove name => exact (IsWord.cons h (by decide)).cons (by decide)
  | clear => decide

theorem standsFor_tag {name : List Char} (hname : IsTagName name) :
    StandsFor ('#' :: name) (.tag (.add (String.ofList name))) := by
  have hnamed : (TagChange.add (String.ofList name)).IsNamed := by
    rw [TagChange.IsNamed, String.toList_ofList]
    exact hname
  have hword := standsFor_word hnamed
  rw [TagChange.word, String.toList_ofList] at hword
  exact hword

theorem standsFor_at : StandsFor ['@'] .cut :=
  ⟨by decide, rfl⟩

/-! ### Writing bodies -/

theorem segments_word_append (ws : List (List Char)) (rest : List Piece) :
    segments (ws.map .word ++ rest) = (ws ++ (segments rest).1, (segments rest).2) := by
  induction ws with
  | nil => rfl
  | cons w more ih =>
    rw [List.map_cons, List.cons_append, segments, ih]
    rfl

theorem segments_tag_append (changes : List TagChange) (rest : List Piece) :
    segments (changes.map .tag ++ rest) = segments rest := by
  induction changes with
  | nil => rfl
  | cons change more ih => exact ih

/-- The words of a body: escaped words, tags, and the words of a time behind an `@`. -/
def writtenWords (words names times : List (List Char)) : List (List Char) :=
  words.map ('\\' :: ·) ++ names.map ('#' :: ·) ++ if times = [] then [] else ['@'] :: times

/-- The pieces of the words of a body. -/
def writtenPieces (ws names times : List (List Char)) : List Piece :=
  ws.map .word ++ ((names.map fun name => .add (String.ofList name)).map .tag ++
    if times = [] then [] else .cut :: times.map .word)

theorem standsFor_writtenWords {ws names times : List (List Char)}
    (hws : ∀ w ∈ ws, IsWord w) (hnames : ∀ name ∈ names, IsTagName name)
    (htimes : ∀ w ∈ times, IsLiteral w) :
    List.Forall₂ StandsFor (writtenWords ws names times) (writtenPieces ws names times) := by
  have hwords := forall₂_map fun w hw => standsFor_escaped (hws w hw)
  have htags := forall₂_map fun name hname => standsFor_tag (hnames name hname)
  have htime : List.Forall₂ StandsFor (if times = [] then [] else ['@'] :: times)
      (if times = [] then [] else .cut :: times.map .word) := by
    split
    · exact .nil
    · exact .cons standsFor_at (forall₂_of_isLiteral htimes)
  rw [writtenWords, writtenPieces, List.append_assoc, List.map_map]
  exact List.rel_append hwords (List.rel_append htags htime)

theorem isWord_of_mem_writtenWords {ws names times : List (List Char)} (hws : ∀ w ∈ ws, IsWord w)
    (hnames : ∀ name ∈ names, IsTagName name) (htimes : ∀ w ∈ times, IsLiteral w) :
    ∀ w ∈ writtenWords ws names times, IsWord w :=
  isWord_of_forall₂ (standsFor_writtenWords hws hnames htimes)

theorem ofPieces_writtenPieces (ws names times : List (List Char)) :
    ofPieces (writtenPieces ws names times) =
      { description := String.ofList (unwords ws)
        times := if times = [] then [] else [String.ofList (unwords times)]
        tags := names.map fun name => .add (String.ofList name)
        dropsTime := false } := by
  have hsegments : segments (writtenPieces ws names times)
      = (ws, if times = [] then [] else [times]) := by
    rw [writtenPieces, segments_word_append, segments_tag_append]
    -- the cut begins a second segment, which is there only for a time
    split
    · exact congrArg (·, _) (List.append_nil ws)
    · have htimes := segments_word_append times []
      rw [List.append_nil] at htimes
      rw [segments, htimes]
      exact congrArg₂ Prod.mk (List.append_nil ws) (congrArg (· :: []) (List.append_nil times))
  have htags : tagChanges (writtenPieces ws names times)
      = names.map fun name => .add (String.ofList name) := by
    unfold tagChanges writtenPieces
    split <;> simp [List.filterMap_append, List.filterMap_map, Function.comp_def]
  have hdrop : (writtenPieces ws names times).contains .dropTime = false := by
    unfold writtenPieces
    split <;> simp
  unfold ofPieces
  rw [hsegments, htags, hdrop]
  by_cases hnil : times = []
  · simp only [if_pos hnil]
    rfl
  · simp only [if_neg hnil]
    rfl

/-- **A body is read back from its words.** -/
theorem ofText_words {ws names times : List (List Char)} (hws : ∀ w ∈ ws, IsWord w)
    (hnames : ∀ name ∈ names, IsTagName name) (htimes : ∀ w ∈ times, IsLiteral w) :
    ofText (String.ofList (unwords (writtenWords ws names times))) = .ok
      { description := String.ofList (unwords ws)
        times := if times = [] then [] else [String.ofList (unwords times)]
        tags := names.map fun name => .add (String.ofList name)
        dropsTime := false } := by
  have hpieces := standsFor_writtenWords hws hnames htimes
  unfold ofText
  rw [String.toList_ofList, words_unwords (isWord_of_forall₂ hpieces),
    piecesOfWords_of_forall₂ hpieces, ← ofPieces_writtenPieces]
  rfl

end Body

end Agenda
