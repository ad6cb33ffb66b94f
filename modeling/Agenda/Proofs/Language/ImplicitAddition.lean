import Agenda.Proofs.Language.Command
import Agenda.Proofs.Language.Edit
import Agenda.Proofs.Language.Line

/-!
# Lines without a command word

A line that begins with no command word can be an addition as it stands. It is read like `add` and
the line behind it, unless its first word is a synonym or a connector (`Line.KeepsFirstWord`), which
change on one of the two ways only: a synonym becomes the command word at the beginning of a line,
also where a sign behind it keeps it from being a command, and a connector becomes `@` behind a
blank, which `add` puts before it. `Action.ofText_implicit_addition` says that a line that adds a
task is read alike on both ways exactly when its first word is neither.
-/

namespace Agenda

open Text

/-! ### The first word of a body -/

namespace Body

variable {body : Body} {w : List Char}

/-- A word that begins with a word character has no meaning but its pieces between at signs. -/
theorem piecesOfWord_of_isWordChar {c : Char} (hc : isWordChar c = true) (cs : List Char) :
    piecesOfWord (c :: cs) = .ok (cutAtSigns (c :: cs)) := by
  have hne : ∀ sign : Char, isWordChar sign = false → c ≠ sign := by
    rintro sign hsign rfl
    rw [hc] at hsign
    cases hsign
  have hbackslash := hne '\\' (by decide +kernel)
  have hdash := hne '-' (by decide +kernel)
  have hhash := hne '#' (by decide +kernel)
  unfold piecesOfWord
  split
  · rename_i h
    exact absurd (List.cons_eq_cons.mp h).1 hbackslash
  · rename_i h
    exact absurd (List.cons_eq_cons.mp h).1 hdash
  · rename_i h
    exact absurd (List.cons_eq_cons.mp h).1 hdash
  · rename_i h
    exact absurd (List.cons_eq_cons.mp h).1 hhash
  · rfl

/-- **Word characters at the beginning of a text are the beginning of its description**, and they
have no part in anything else. -/
theorem exists_body_of_append (text : List Char) :
    ∃ rest : Except Refusal (List Char × Body), ∀ w : List Char, w ≠ [] →
      (∀ c ∈ w, isWordChar c = true) → ofText (String.ofList (w ++ text)) =
        rest.map fun (more, body) => { body with description := String.ofList (w ++ more) } := by
  obtain ⟨first, others, hfields⟩ := List.exists_cons_of_ne_nil
    (fields_ne_nil (· == '@') (text.takeWhile (!isBlank ·)))
  let cuts : List Piece := others.flatMap fun text => .cut :: literal text
  refine ⟨(piecesOfWords (words (text.dropWhile (!isBlank ·)))).map fun pieces =>
    (unwords (first :: (segments (cuts ++ pieces)).1), ofPieces (cuts ++ pieces)), ?_⟩
  intro w hne hw
  have hword : IsWord w := ⟨hne, fun c hc => not_blank_of_isWordChar (hw c hc)⟩
  have hat : ∀ c ∈ w, (c == '@') = false := by
    intro c hc
    refine beq_eq_false_iff_ne.mpr ?_
    rintro rfl
    have hword := hw '@' hc
    rw [isWordChar_at] at hword
    cases hword
  have hpieces : piecesOfWord (w ++ text.takeWhile (!isBlank ·))
      = .ok (.word (w ++ first) :: cuts) := by
    have hcut : cutAtSigns (w ++ text.takeWhile (!isBlank ·)) = .word (w ++ first) :: cuts := by
      have hempty : (w ++ first).isEmpty = false :=
        List.isEmpty_eq_false_iff.mpr (List.append_ne_nil_of_left_ne_nil hne _)
      rw [cutAtSigns, fields_append_of_not_mem hat, hfields]
      simp only [List.modifyHead_cons, literal, hempty, if_neg Bool.false_ne_true]
      rfl
    obtain ⟨c, cs, rfl⟩ := List.exists_cons_of_ne_nil hne
    rw [← hcut]
    exact piecesOfWord_of_isWordChar (hw c (List.mem_cons_self ..)) _
  unfold ofText
  rw [String.toList_ofList, words_append hword, piecesOfWords, hpieces]
  dsimp only
  cases piecesOfWords (words (text.dropWhile (!isBlank ·))) with
  | error cause => rfl
  | ok pieces =>
    show Except.ok (ofPieces (.word (w ++ first) :: (cuts ++ pieces))) = _
    simp only [Except.map, ofPieces, segments, unwords_append]
    rfl

/-- A body that begins with an at sign has no description. -/
theorem description_of_at {text : List Char} (h : ofText (String.ofList ('@' :: text)) = .ok body) :
    body.description = "" := by
  have hword : IsWord ['@'] := by decide
  obtain ⟨pieces, hpieces⟩ : ∃ pieces,
      piecesOfWord ('@' :: text.takeWhile (!isBlank ·)) = .ok (.cut :: pieces) := by
    obtain ⟨first, others, hfields⟩ := List.exists_cons_of_ne_nil
      (fields_ne_nil (· == '@') (text.takeWhile (!isBlank ·)))
    have hcut : fields (· == '@') ('@' :: text.takeWhile (!isBlank ·)) = [] :: first :: others := by
      rw [← hfields]
      exact fields_beq_append_cons '@' [] _
    refine ⟨literal first ++ others.flatMap fun text => .cut :: literal text, ?_⟩
    show Except.ok (cutAtSigns _) = _
    rw [cutAtSigns, hcut]
    rfl
  have hwords : words ('@' :: text) = _ := words_append hword text
  unfold ofText at h
  rw [String.toList_ofList, hwords, List.singleton_append, piecesOfWords, hpieces] at h
  dsimp only at h
  split at h
  · cases h
  · cases h
    rfl

end Body

/-! ### The first word of a line -/

namespace Line

/-- The first word of a line is no synonym of a command word and, unless a blank stands before it,
no connector. -/
structure KeepsFirstWord (text : List Char) : Prop where
  not_synonym : ∀ verb : Verb, isOneOf verb.synonyms (opening text) = false
  not_connector : isOneOf connectors (text.takeWhile isWordChar) = false

theorem keepsFirstWord_iff {text : List Char} : KeepsFirstWord text ↔
    (∀ verb ∈ Verb.all, isOneOf verb.synonyms (opening text) = false) ∧
      isOneOf connectors (text.takeWhile isWordChar) = false :=
  ⟨fun h => ⟨fun verb _ => h.not_synonym verb, h.not_connector⟩,
    fun h => ⟨fun verb => h.1 verb (Verb.mem_all verb), h.2⟩⟩

instance (text : List Char) : Decidable (KeepsFirstWord text) :=
  decidable_of_iff' _ keepsFirstWord_iff

variable {s : String} {verb : Verb}

/-- No word is both a synonym and a connector. -/
theorem not_connector_of_synonym {word : List Char} (h : isOneOf verb.synonyms word = true) :
    isOneOf connectors word = false := by
  have hapart : ∀ synonym ∈ verb.synonyms, ∀ connector ∈ connectors,
      connector.toList ≠ synonym.toList := by
    cases verb <;> decide
  obtain ⟨synonym, hsynonym, heq⟩ := List.any_eq_true.mp h
  refine List.any_eq_false.mpr fun connector hconnector heq' => ?_
  exact hapart synonym hsynonym connector hconnector ((eq_of_beq heq').trans (eq_of_beq heq).symm)

/-- A line that keeps its first word has the same text behind `add` as alone. -/
theorem argument_of_keepsFirstWord (h : KeepsFirstWord s.toList) :
    String.ofList (trim (marked (' ' :: s.toList))) = (ofText s).text := by
  rcases standardForm_cases s.toList with ⟨-, hstandard⟩ | ⟨verb, hverb, -⟩
  · unfold ofText
    dsimp only
    rw [hstandard, marked_space_cons, h.not_connector, if_neg Bool.false_ne_true, trim_space_cons]
  · rw [h.not_synonym verb] at hverb
    cases hverb

/-- Behind `add` a connector at the beginning of a line is an at sign. -/
theorem argument_of_connector (h : isOneOf connectors (s.toList.takeWhile isWordChar) = true) :
    ∃ rest, trim (marked (' ' :: s.toList)) = '@' :: rest := by
  rw [marked_space_cons, if_pos h, trim_space_cons]
  have hword : IsWord ['@'] := by decide
  exact ⟨_, trim_append_of_isWord hword _⟩

/-- **A synonym at the beginning of a line is a command word in the line alone**, and behind `add`
it stays as it is; all that follows is the same. -/
theorem argument_of_synonym (h : isOneOf verb.synonyms (opening s.toList) = true) :
    ∃ (word : Verb) (rest : List Char), isOneOf word.synonyms (opening s.toList) = true ∧
      (ofText s).text = String.ofList (word.word.toList ++ rest) ∧
      trim (marked (' ' :: s.toList)) = opening s.toList ++ rest := by
  rcases standardForm_cases s.toList with ⟨hnone, -⟩ | ⟨word, hone, hstandard⟩
  · rw [hnone verb] at h
    cases h
  refine ⟨word, trimRight (marked (afterOpening s.toList)), hone, ?_, ?_⟩
  · unfold ofText
    dsimp only
    rw [hstandard, trim_append_of_isWord (isWord_word word)]
  · have hletters : ∀ c ∈ opening s.toList, isWordChar c = true :=
      fun c hc => List.mem_takeWhile_imp hc
    have hword : IsWord (opening s.toList) :=
      ⟨ne_nil_of_synonym h, fun c hc => not_blank_of_isWordChar (hletters c hc)⟩
    have hblanks : ∀ c ∈ ' ' :: s.toList.takeWhile isBlank, isBlank c = true :=
      List.forall_mem_cons.mpr ⟨isBlank_space, fun c hc => List.mem_takeWhile_imp hc⟩
    -- the synonym is no connector, so nothing is marked before what follows it
    have hconnector : isOneOf connectors
        ((opening s.toList ++ afterOpening s.toList).takeWhile isWordChar) = false := by
      rw [takeWhile_append_of_head? hletters (not_isWordChar_of_afterOpening _)]
      exact not_connector_of_synonym h
    conv_lhs => rw [eq_append_opening s.toList, ← List.cons_append]
    rw [marked_append_of_blank hblanks hconnector, marked_append_of_not_blank hword.not_blank,
      trim_append_of_blank hblanks, trim_append_of_isWord hword]

end Line

namespace Action

variable {l : TaskList} {line : String} {now : DateTime} {c c' : Command} {text text' : String}

/-! ### Additions -/

/-- Texts with different first words add different tasks. -/
theorem add_ne_of_append {w w' rest : List Char} (hne : w ≠ []) (hne' : w' ≠ [])
    (hw : ∀ c ∈ w, isWordChar c = true) (hw' : ∀ c ∈ w', isWordChar c = true) (hdiffer : w ≠ w')
    (h : add (String.ofList (w ++ rest)) now = .read c)
    (h' : add (String.ofList (w' ++ rest)) now = .read c') : c ≠ c' := by
  obtain ⟨body, task, period, hbody, htask, -, rfl⟩ := add_spec h
  obtain ⟨body', task', period', hbody', htask', -, rfl⟩ := add_spec h'
  obtain ⟨read, hread⟩ := Body.exists_body_of_append rest
  obtain ⟨-, tags, -, rfl⟩ := newTask_spec htask
  obtain ⟨-, tags', -, rfl⟩ := newTask_spec htask'
  rw [hread w hne hw] at hbody
  rw [hread w' hne' hw'] at hbody'
  cases read with
  | error cause => cases hbody
  | ok read =>
    obtain ⟨more, both⟩ := read
    cases hbody
    cases hbody'
    intro heq
    have hdescription := congrArg Task.description (Command.add.inj heq)
    rw [description_withPeriod, description_withPeriod] at hdescription
    exact hdiffer (List.append_cancel_right (String.ofList_injective hdescription))

/-- A text that begins with an at sign adds no task. -/
theorem add_ne_read_of_at {rest : List Char} : add (String.ofList ('@' :: rest)) now ≠ .read c := by
  intro h
  obtain ⟨body, task, period, hbody, htask, -, -⟩ := add_spec h
  exact (newTask_spec htask).1 (Body.description_of_at hbody)

/-- **A line without a command word is read like `add` and the line, as far as its first word stays
what it is.** A line that keeps its first word has the same outcome on both ways, a refusal as well
as an addition. A line that does not keep it, and adds a task as it stands, does not add the same
task behind `add`. -/
theorem ofText_implicit_addition (implicitAdd : Bool) (hverb : (Line.ofText line).verb? = none)
    (htext : (Line.ofText line).text ≠ "") :
    (Line.KeepsFirstWord line.toList →
      ofText true l line now = ofText implicitAdd l ("add " ++ line) now) ∧
    (¬Line.KeepsFirstWord line.toList → ∀ c, ofText true l line now = .read (.execute c) →
      ofText implicitAdd l ("add " ++ line) now ≠ .read (.execute c)) := by
  have hline : ofText true l line now = execute <$> add (Line.ofText line).text now := by
    have hnonempty : (true && (Line.ofText line).text != "") = true := by simpa using htext
    unfold ofText
    dsimp only
    rw [hverb]
    dsimp only
    rw [if_pos hnonempty]
  have hadd : ofText implicitAdd l ("add " ++ line) now = execute <$>
      add (String.ofList (trim (Line.marked (' ' :: line.toList)))) now :=
    ofText_verb implicitAdd l .add line now
  rw [hline, hadd]
  constructor
  · intro hkeeps
    rw [Line.argument_of_keepsFirstWord hkeeps]
  · intro hnot c hread hread'
    simp only [Reading.map_eq_read_iff, Action.execute.injEq, exists_eq_right] at hread hread'
    cases hconnector : isOneOf Line.connectors (line.toList.takeWhile isWordChar) with
    | true =>
      -- a connector is an at sign behind `add`, so there is no description
      obtain ⟨rest, hrest⟩ := Line.argument_of_connector hconnector
      rw [hrest] at hread'
      exact add_ne_read_of_at hread'
    | false =>
      -- a synonym is a command word in the line alone, so the descriptions differ in it
      obtain ⟨verb, hsynonym⟩ : ∃ verb : Verb,
          isOneOf verb.synonyms (Line.opening line.toList) = true := by
        by_contra hnone
        rw [not_exists] at hnone
        exact hnot ⟨fun verb => Bool.eq_false_iff.mpr (hnone verb), hconnector⟩
      obtain ⟨word, rest, hone, hbare, hbehind⟩ := Line.argument_of_synonym hsynonym
      rw [hbare] at hread
      rw [hbehind] at hread'
      refine add_ne_of_append (Line.isWord_word word).ne_nil (Line.ne_nil_of_synonym hone)
        (Line.isWordChar_of_mem_word word) (fun c hc => List.mem_takeWhile_imp hc) ?_ hread
        hread' rfl
      -- no command word is a synonym of itself
      intro heq
      rw [← heq, Line.not_isOneOf_synonyms word word (Verb.mem_all word)] at hone
      cases hone

/-- A line with a connector further on, which is marked on both ways. -/
theorem eggs_added_either_way :
    let now : DateTime := ⟨⟨20000, by decide, by decide⟩, .midnight⟩
    let line := "  buy-in: eggs by 2/1/2030 #home"
    (Line.ofText line).verb? = none ∧ (Line.ofText line).text ≠ "" ∧
      Line.KeepsFirstWord line.toList ∧
      ofText true { tasks := [] } line now = ofText false { tasks := [] } ("add " ++ line) now := by
  intro now line
  have hverb : (Line.ofText line).verb? = none := by decide +kernel
  have htext : (Line.ofText line).text ≠ "" := by decide +kernel
  have hkeeps : Line.KeepsFirstWord line.toList := by decide +kernel
  exact ⟨hverb, htext, hkeeps, (ofText_implicit_addition false hverb htext).1 hkeeps⟩

/-- A synonym with a dash behind it makes no command of a line, but the line alone loses it to the
command word. -/
theorem shelf_renamed_without_add :
    let now : DateTime := ⟨⟨20000, by decide, by decide⟩, .midnight⟩
    let line := "do-it-yourself shelf"
    (Line.ofText line).verb? = none ∧ (Line.ofText line).text ≠ "" ∧
      ofText true { tasks := [] } line now
        = .read (.execute (.add { description := "add-it-yourself shelf" })) ∧
      ofText true { tasks := [] } ("add " ++ line) now
        = .read (.execute (.add { description := "do-it-yourself shelf" })) := by
  decide +kernel

end Action

end Agenda
