import Agenda.Proofs.Language.Line
import Mathlib.Data.List.Forall2

/-!
# Synonyms of command words

A word is compared with the names of a list letter by letter, and each letter stands for all its
forms (`IsFormOf`), so a name counts in any mixture of capitals and small letters
(`isOneOf_iff`). A synonym at the beginning of a line has the standard form of the command word in
its place (`Line.standardForm_of_synonym`), whatever follows it; and since nothing is to be replaced
in a standard form, putting a line into it once is enough (`Line.synonyms_standardized_once`).
-/

namespace Agenda

namespace Text

variable {letter c : Char} {w : List Char} {names : List String}

/-! ### Letters of any case -/

/-- The letters that stand for a small one, case disregarded: the letter itself and its capital, and
besides those the long s and the kelvin sign. -/
def IsFormOf (letter c : Char) : Prop :=
  c = letter ∨ c = letter.toUpper ∨ letter = 's' ∧ c = '\u017F' ∨ letter = 'k' ∧ c = '\u212A'

instance (letter c : Char) : Decidable (IsFormOf letter c) :=
  inferInstanceAs (Decidable (_ ∨ _))

/-- A small letter from a to z. -/
def IsSmallLetter (c : Char) : Prop :=
  97 ≤ c.toNat ∧ c.toNat < 123

instance (c : Char) : Decidable (IsSmallLetter c) :=
  inferInstanceAs (Decidable (_ ∧ _))

/-- **A character is folded to a small letter exactly when it is a form of it.** -/
theorem foldLetter_eq_iff (h : IsSmallLetter letter) :
    foldLetter c = letter ↔ IsFormOf letter c := by
  constructor
  · rintro rfl
    unfold foldLetter at *
    split_ifs at * with hcapital hlong hkelvin
    · -- a capital comes 32 places before its small letter
      have hall : ∀ c : Char, 65 ≤ c.toNat → c.toNat < 91 →
          c = (Char.ofNat (c.toNat + 32)).toUpper := forall_of_codes (by decide)
      exact Or.inr (Or.inl (hall c hcapital.1 (Nat.lt_succ_of_le hcapital.2)))
    · exact Or.inr (Or.inr (Or.inl ⟨rfl, hlong⟩))
    · exact Or.inr (Or.inr (Or.inr ⟨rfl, hkelvin⟩))
    · exact Or.inl rfl
  · have hall : ∀ letter : Char, 97 ≤ letter.toNat → letter.toNat < 123 →
        foldLetter letter = letter ∧ foldLetter letter.toUpper = letter :=
      forall_of_codes (by decide)
    obtain ⟨hsmall, hcapital⟩ := hall letter h.1 h.2
    rintro (rfl | rfl | ⟨rfl, rfl⟩ | ⟨rfl, rfl⟩)
    · exact hsmall
    · exact hcapital
    · decide
    · decide

/-- All forms of a letter belong to words. -/
theorem isWordChar_of_isFormOf (h : IsSmallLetter letter) (hc : IsFormOf letter c) :
    isWordChar c = true := by
  have hall : ∀ letter : Char, 97 ≤ letter.toNat → letter.toNat < 123 →
      isWordChar letter = true ∧ isWordChar letter.toUpper = true :=
    forall_of_codes (by decide +kernel)
  obtain ⟨hsmall, hcapital⟩ := hall letter h.1 h.2
  rcases hc with rfl | rfl | ⟨-, rfl⟩ | ⟨-, rfl⟩
  · exact hsmall
  · exact hcapital
  · decide +kernel
  · decide +kernel

/-- A word is a name written in letters of any case. -/
def InAnyCase (name w : List Char) : Prop :=
  List.Forall₂ IsFormOf name w

instance (name w : List Char) : Decidable (InAnyCase name w) :=
  inferInstanceAs (Decidable (List.Forall₂ IsFormOf name w))

theorem eq_map_foldLetter_iff {name : List Char} (h : ∀ letter ∈ name, IsSmallLetter letter) :
    name = w.map foldLetter ↔ InAnyCase name w := by
  unfold InAnyCase
  induction name generalizing w with
  | nil => rw [List.forall₂_nil_left_iff, eq_comm, List.map_eq_nil_iff]
  | cons letter rest ih =>
    obtain ⟨hletter, hrest⟩ := List.forall_mem_cons.mp h
    cases w with
    | nil => exact iff_of_false (List.cons_ne_nil _ _) nofun
    | cons c cs =>
      rw [List.map_cons, List.cons_eq_cons, List.forall₂_cons, eq_comm, foldLetter_eq_iff hletter,
        ih hrest]

/-- **A word is one of some names exactly when it is one of them in letters of any case.** -/
theorem isOneOf_iff (h : ∀ name ∈ names, ∀ letter ∈ name.toList, IsSmallLetter letter) :
    isOneOf names w = true ↔ ∃ name ∈ names, InAnyCase name.toList w := by
  unfold isOneOf
  rw [List.any_eq_true]
  refine exists_congr fun name => and_congr_right fun hname => ?_
  rw [beq_iff_eq, eq_map_foldLetter_iff (h name hname)]

end Text

open Text

namespace Line

variable {verb other : Verb} {blanks w rest : List Char}

/-! ### Synonyms -/

/-- The synonyms, each with the command word in whose place it can stand. -/
def synonymTable : List (String × String) :=
  [("do", "add"), ("create", "add"), ("change", "edit"), ("rm", "remove"), ("delete", "remove"),
    ("ls", "show"), ("search", "show"), ("find", "show"), ("quit", "exit")]

theorem mem_synonymTable {name word : String} :
    (name, word) ∈ synonymTable ↔ ∃ verb : Verb, verb.word = word ∧ name ∈ verb.synonyms := by
  constructor
  · have hall : ∀ entry ∈ synonymTable, ∃ verb ∈ Verb.all,
        verb.word = entry.2 ∧ entry.1 ∈ verb.synonyms := by
      decide
    intro h
    obtain ⟨verb, -, hverb⟩ := hall _ h
    exact ⟨verb, hverb⟩
  · rintro ⟨verb, rfl, hname⟩
    have hall : ∀ name ∈ verb.synonyms, (name, verb.word) ∈ synonymTable := by
      cases verb <;> decide
    exact hall name hname

theorem isSmallLetter_of_synonym (verb : Verb) :
    ∀ name ∈ verb.synonyms, ∀ letter ∈ name.toList, IsSmallLetter letter := by
  have hall : ∀ name ∈ verb.synonyms, name.toList.all (decide <| IsSmallLetter ·) = true := by
    cases verb <;> decide
  intro name hname letter hletter
  exact of_decide_eq_true (List.all_eq_true.mp (hall name hname) letter hletter)

theorem isOneOf_synonyms_iff :
    isOneOf verb.synonyms w = true ↔ ∃ name ∈ verb.synonyms, InAnyCase name.toList w :=
  isOneOf_iff (isSmallLetter_of_synonym verb)

/-- No word is a synonym of two command words. -/
theorem eq_of_synonym (h : isOneOf verb.synonyms w = true) (h' : isOneOf other.synonyms w = true) :
    other = verb := by
  have hfind : ∀ verb : Verb, ∀ name ∈ verb.synonyms,
      Verb.all.find? (·.synonyms.contains name) = some verb := by
    intro verb
    cases verb <;> decide
  obtain ⟨name, hname, heq⟩ := List.any_eq_true.mp h
  obtain ⟨name', hname', heq'⟩ := List.any_eq_true.mp h'
  -- both names are the word with its letters folded
  obtain rfl : name = name' :=
    String.toList_inj.mp ((eq_of_beq heq).trans (eq_of_beq heq').symm)
  have hsome := hfind verb name hname
  rw [hfind other name hname'] at hsome
  exact Option.some.inj hsome

theorem isWordChar_of_synonym (h : isOneOf verb.synonyms w = true) :
    ∀ c ∈ w, isWordChar c = true := by
  obtain ⟨name, hname, heq⟩ := List.any_eq_true.mp h
  intro c hc
  have hletter : foldLetter c ∈ name.toList := by
    rw [eq_of_beq heq]
    exact List.mem_map_of_mem hc
  have hsmall := isSmallLetter_of_synonym verb name hname _ hletter
  exact isWordChar_of_isFormOf hsmall ((foldLetter_eq_iff hsmall).mp rfl)

/-- **A synonym at the beginning of a line becomes the command word**, together with the blanks
before it. -/
theorem standardForm_of_synonym (hblanks : ∀ c ∈ blanks, isBlank c = true)
    (hw : isOneOf verb.synonyms w = true) (hrest : ∀ c ∈ rest.head?, isWordChar c = false) :
    standardForm (blanks ++ (w ++ rest)) = verb.word.toList ++ marked rest := by
  have hletters := isWordChar_of_synonym hw
  have hword : IsWord w :=
    ⟨ne_nil_of_synonym hw, fun c hc => not_blank_of_isWordChar (hletters c hc)⟩
  have hstart : trimLeft (blanks ++ (w ++ rest)) = w ++ rest := by
    rw [trimLeft, List.dropWhile_append_of_pos hblanks]
    exact trimLeft_append_of_isWord hword rest
  have hopening : opening (blanks ++ (w ++ rest)) = w := by
    rw [opening, hstart, takeWhile_append_of_head? hletters hrest]
  have hafter : afterOpening (blanks ++ (w ++ rest)) = rest := by
    rw [afterOpening, hstart, dropWhile_append_of_head? hletters hrest]
  rcases standardForm_cases (blanks ++ (w ++ rest)) with ⟨hnone, -⟩ | ⟨other, hother, hform⟩
  · -- the word is a synonym, so the line does not stay as it is
    have hfalse := hnone verb
    rw [hopening, hw] at hfalse
    cases hfalse
  · rw [hopening] at hother
    rw [hform, hafter, eq_of_synonym hw hother]

/-- A line is read by its standard form. -/
theorem ofText_congr {line line' : String}
    (h : standardForm line.toList = standardForm line'.toList) : ofText line = ofText line' := by
  unfold ofText
  rw [h]

/-- **Lines are put into standard form once and for all, and a synonym does as well as the command
word.** The standard form of a standard form is the same. A line that begins with a synonym in
letters of any case, perhaps behind blanks, and does not go on with a word character, has the
standard form of the line that begins with the command word instead; so both lines ask for the same,
on every list and at every time. -/
theorem synonyms_standardized_once :
    (∀ text, standardForm (standardForm text) = standardForm text) ∧
    ∀ name word blanks w rest : String, (name, word) ∈ synonymTable →
      (∀ c ∈ blanks.toList, isBlank c = true) → InAnyCase name.toList w.toList →
      (∀ c ∈ rest.toList.head?, isWordChar c = false) →
      standardForm (blanks ++ w ++ rest).toList = standardForm (word ++ rest).toList ∧
      ∀ implicitAdd l now, Action.ofText implicitAdd l (blanks ++ w ++ rest) now
        = Action.ofText implicitAdd l (word ++ rest) now := by
  refine ⟨fun text => standardForm_eq_self_iff.mpr (isStandard_standardForm text), ?_⟩
  intro name word blanks w rest htable hblanks hcase hrest
  obtain ⟨verb, rfl, hname⟩ := mem_synonymTable.mp htable
  have hw : isOneOf verb.synonyms w.toList = true := isOneOf_synonyms_iff.mpr ⟨name, hname, hcase⟩
  have hform : standardForm (blanks ++ w ++ rest).toList
      = standardForm (verb.word ++ rest).toList := by
    rw [String.toList_append, String.toList_append, String.toList_append, List.append_assoc,
      standardForm_of_synonym hblanks hw hrest, standardForm_word_append verb hrest]
  refine ⟨hform, fun implicitAdd l now => ?_⟩
  unfold Action.ofText
  rw [ofText_congr hform]

/-- A synonym with a long s in it behind different blanks, and a connector next to it. -/
theorem search_by_noon_asked_alike :
    let line := "\t\u00A0 ſeArCh by noon at home"
    ("search", "show") ∈ synonymTable ∧ (∀ c ∈ "\t\u00A0 ".toList, isBlank c = true) ∧
      InAnyCase "search".toList "ſeArCh".toList ∧
      (∀ c ∈ " by noon at home".toList.head?, isWordChar c = false) ∧
      standardForm line.toList = "show @ noon @ home".toList ∧
      standardForm (standardForm line.toList) = standardForm line.toList ∧
      ∀ implicitAdd l now, Action.ofText implicitAdd l line now
        = Action.ofText implicitAdd l "show by noon at home" now := by
  intro line
  obtain ⟨hidem, hsynonym⟩ := synonyms_standardized_once
  have htable : ("search", "show") ∈ synonymTable := by decide
  have hblanks : ∀ c ∈ "\t\u00A0 ".toList, isBlank c = true := List.all_eq_true.mp (by decide)
  have hcase : InAnyCase "search".toList "ſeArCh".toList := by decide
  have hrest : ∀ c ∈ " by noon at home".toList.head?, isWordChar c = false := by
    rintro _ ⟨⟩
    exact isWordChar_space
  obtain ⟨hform, hasks⟩ := hsynonym "search" "show" "\t\u00A0 " "ſeArCh" " by noon at home"
    htable hblanks hcase hrest
  exact ⟨htable, hblanks, hcase, hrest, by decide +kernel, hidem _, hasks⟩

end Line

end Agenda
