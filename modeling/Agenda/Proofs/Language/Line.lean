import Agenda.Language.Action
import Agenda.Proofs.Language.StandardForm

/-!
# Lines that begin with a command word

A line that begins with a command word is cut behind it (`Line.ofText_word_append`): the rest is the
argument, with its connectors marked. Nothing is marked in words of which none begins like a
connector, so such words are an argument as they stand (`Line.ofText_words`).
-/

namespace Agenda

open Text

namespace Line

variable {w rest text : List Char} {args : List (List Char)}

/-- A mark begins with a blank, as what it stands for does. -/
theorem isBlank_of_head?_marked (h : ∀ c ∈ text.head?, isBlank c = true) :
    ∀ c ∈ (marked text).head?, isBlank c = true := by
  cases text with
  | nil => rwa [marked_nil]
  | cons c cs =>
    intro d hd
    rw [marked] at hd
    split at hd
    · rw [← Option.some.inj hd]
      exact isBlank_space
    · rw [← Option.some.inj hd]
      exact h c rfl

theorem head?_trimRight (text : List Char) :
    ∀ c ∈ (trimRight text).head?, c ∈ text.head? := by
  cases text with
  | nil => exact fun c hc => hc
  | cons c cs =>
    intro d hd
    rw [trimRight_cons] at hd
    split at hd
    · cases hd
    · exact hd

/-- **A line of a command word and something that a blank divides from it is cut after the command
word.** -/
theorem ofText_word_append (verb : Verb) (hrest : ∀ c ∈ rest.head?, isBlank c = true) :
    ofText (String.ofList (verb.word.toList ++ rest)) =
      { keyword := verb.word
        argument := String.ofList (trim (marked rest))
        text := String.ofList (verb.word.toList ++ trimRight (marked rest)) } := by
  have hword := isWord_word verb
  -- the command word goes up to the first blank, and the rest begins with one
  have hletters : ∀ c ∈ verb.word.toList, (!isBlank c) = true := by
    intro c hc
    rw [hword.not_blank c hc]
    rfl
  have hblank : ∀ c ∈ (trimRight (marked rest)).head?, (!isBlank c) = false := by
    intro c hc
    rw [isBlank_of_head?_marked hrest c (head?_trimRight _ c hc)]
    rfl
  unfold ofText
  dsimp only
  rw [String.toList_ofList,
    standardForm_word_append verb fun c hc => isWordChar_of_isBlank (hrest c hc),
    trim_append_of_isWord hword, takeWhile_append_of_head? hletters hblank,
    dropWhile_append_of_head? hletters hblank, lower_word, String.ofList_toList, trim_trimRight]

/-! ### Any text behind a command word -/

/-- **A line of a command word and any text is cut after the command word.** A connector at the
beginning of the text is marked, since a space stands before it. -/
theorem ofText_verb (verb : Verb) (s : String) :
    (ofText (verb.word ++ " " ++ s)).verb? = some verb ∧
      (ofText (verb.word ++ " " ++ s)).argument
        = String.ofList (trim (marked (' ' :: s.toList))) := by
  have htext : verb.word ++ " " ++ s = String.ofList (verb.word.toList ++ ' ' :: s.toList) := by
    rw [← String.toList_inj, String.toList_ofList, String.toList_append, String.toList_append,
      List.append_assoc]
    rfl
  have hrest : ∀ c ∈ (' ' :: s.toList).head?, isBlank c = true := by
    intro c hc
    rw [← Option.some.inj hc]
    exact isBlank_space
  rw [htext, ofText_word_append verb hrest]
  exact ⟨ofWord?_word verb, rfl⟩

/-! ### Words behind a command word -/

/-- A character with which no word begins that introduces a time. -/
def OpensNoConnector (c : Char) : Prop :=
  ∀ name ∈ connectors, name.toList.head? ≠ some (foldLetter c)

instance (c : Char) : Decidable (OpensNoConnector c) :=
  inferInstanceAs (Decidable (∀ name ∈ connectors, name.toList.head? ≠ some (foldLetter c)))

theorem isOneOf_connectors {c : Char} {cs : List Char} (h : OpensNoConnector c) :
    isOneOf connectors (c :: cs) = false := by
  unfold isOneOf
  rw [List.any_eq_false]
  intro name hname heq
  have hlist : name.toList = (c :: cs).map foldLetter := eq_of_beq heq
  refine h name hname ?_
  rw [hlist]
  rfl

theorem not_connector_of_head? (h : ∀ c ∈ text.head?, OpensNoConnector c) :
    isOneOf connectors (text.takeWhile isWordChar) = false := by
  cases text with
  | nil => exact not_isOneOf_connectors_nil
  | cons c cs =>
    rw [List.takeWhile_cons]
    split
    · exact isOneOf_connectors (h c rfl)
    · exact not_isOneOf_connectors_nil

theorem hasConnector_append_of_not_blank (hw : ∀ c ∈ w, isBlank c = false) (rest : List Char) :
    hasConnector (w ++ rest) = hasConnector rest := by
  induction w with
  | nil => rfl
  | cons c cs ih =>
    obtain ⟨hc, hcs⟩ := List.forall_mem_cons.mp hw
    rw [List.cons_append, hasConnector, hc, Bool.false_and, Bool.false_or, ih hcs]

/-- In a text of words, what comes after a blank is the beginning of a word. -/
theorem not_hasConnector_unwords (hw : IsWord w) (hargs : ∀ a ∈ args, IsWord a)
    (hopens : ∀ a ∈ args, ∀ c ∈ a.head?, OpensNoConnector c) :
    hasConnector (unwords (w :: args)) = false := by
  induction args generalizing w with
  | nil =>
    have halone := hasConnector_append_of_not_blank hw.not_blank []
    rw [List.append_nil] at halone
    rwa [unwords_singleton]
  | cons next rest ih =>
    obtain ⟨hnext, hrest⟩ := List.forall_mem_cons.mp hargs
    obtain ⟨hfirst, hmore⟩ := List.forall_mem_cons.mp hopens
    -- what follows the blank is the next word, and it opens no connector
    have hhead : (unwords (next :: rest)).head? = next.head? := head?_unwords hnext
    rw [← hhead] at hfirst
    rw [unwords_cons_cons, hasConnector_append_of_not_blank hw.not_blank, hasConnector,
      not_connector_of_head? hfirst, Bool.and_false, ih hnext hrest hmore, Bool.or_false]

/-- **A line of a command word and words that are no connectors is cut after the command word.** -/
theorem ofText_words (verb : Verb) (hargs : ∀ a ∈ args, IsWord a)
    (hopens : ∀ a ∈ args, ∀ c ∈ a.head?, OpensNoConnector c) :
    ofText (String.ofList (unwords (verb.word.toList :: args))) =
      { keyword := verb.word
        argument := String.ofList (unwords args)
        text := String.ofList (unwords (verb.word.toList :: args)) } := by
  obtain ⟨tail, htext, hspace, htrim⟩ := exists_tail_of_unwords verb.word.toList args
  have hword := isWord_word verb
  have hall : ∀ w ∈ verb.word.toList :: args, IsWord w := List.forall_mem_cons.mpr ⟨hword, hargs⟩
  have hwhole := trim_unwords hall
  -- there is no connector to be marked, so the words behind the command word stay
  have hmarked : marked tail = tail := by
    have hnone := not_hasConnector_unwords hword hargs hopens
    rw [htext, hasConnector_append_of_not_blank hword.not_blank] at hnone
    exact marked_of_not_hasConnector hnone
  have hblank : ∀ c ∈ tail.head?, isBlank c = true := by
    intro c hc
    rw [hspace c hc]
    exact isBlank_space
  rw [htext, trim_append_of_isWord hword] at hwhole
  rw [htext, ofText_word_append verb hblank, hmarked, htrim, trim_unwords hargs, hwhole]

end Line

/-- **A line of a command word and any text asks for what the command word says**, whether or not
lines without one add tasks. -/
theorem Action.ofText_verb (implicitAdd : Bool) (l : TaskList) (verb : Verb) (s : String)
    (now : DateTime) : ofText implicitAdd l (verb.word ++ " " ++ s) now
      = ofVerb verb l (String.ofList (trim (Line.marked (' ' :: s.toList)))) now := by
  obtain ⟨hverb, hargument⟩ := Line.ofText_verb verb s
  unfold ofText
  dsimp only
  rw [hverb, hargument]

end Agenda
