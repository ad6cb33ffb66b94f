import Agenda.Proofs.Language.Body
import Agenda.Proofs.Language.Edit
import Agenda.Proofs.Language.Figures
import Agenda.Proofs.Language.Line

/-!
# Lines that add a task

Every task whose times figures can name has a line that adds it (`additionLine`). Each word of the
description stands behind a backslash, so that it means nothing else, each tag behind a `#`, and the
times stand in figures behind an `@`. No layer of reading touches what another one is to read: no
word of the line begins like a connector, so the line is in standard form, the body is read back
from its words, and the times from their figures (`Action.ofText_additionLine`).
-/

namespace Agenda

open Text

/-! ### Times in figures -/

/-- The times of a task that figures can name: none, an end, or a beginning and an end that is not
before it. -/
inductive NamedByFigures : Option DateTime → Option DateTime → Prop
  | none : NamedByFigures none none
  | deadline {ends : DateTime} (h : ends.HasFigures) : NamedByFigures none (some ends)
  | period {starts ends : DateTime} (hstarts : starts.HasFigures) (hends : ends.HasFigures)
    (hle : starts ≤ ends) : NamedByFigures (some starts) (some ends)

/-- The words for the times of a task. -/
def timeWords : Option DateTime → Option DateTime → List String
  | none, some ends => ["@", ends.date.slashed, ends.time.clock]
  | some starts, some ends =>
    ["@", starts.date.slashed, starts.time.clock, "-", ends.date.slashed, ends.time.clock]
  | _, none => []

/-- The line that adds a task. -/
def additionLine (description tags : List String) (starts ends : Option DateTime) : String :=
  " ".intercalate ("add" :: description.map ("\\" ++ ·) ++ tags.map ("#" ++ ·) ++
    timeWords starts ends)

/-- The words of the times behind the at sign. -/
def figureWords : Option DateTime → Option DateTime → List (List Char)
  | none, some ends => Period.deadlineWords ends
  | some starts, some ends => Period.periodWords starts ends
  | _, none => []

variable {starts ends : Option DateTime} {now : DateTime}

theorem toList_timeWords (starts ends : Option DateTime) : (timeWords starts ends).map String.toList
    = if figureWords starts ends = [] then [] else ['@'] :: figureWords starts ends := by
  cases starts <;> cases ends <;> rfl

theorem figures_or_dash_of_mem (h : NamedByFigures starts ends) :
    ∀ w ∈ figureWords starts ends, IsFigures w ∨ w = ['-'] := by
  cases h with
  | none =>
    intro w hw
    cases hw
  | deadline hends => exact fun w hw => Or.inl (Period.isFigures_of_mem_deadlineWords hends w hw)
  | period hstarts hends hle =>
    show ∀ w ∈ Period.deadlineWords _ ++ ['-'] :: Period.deadlineWords _, _
    rw [List.forall_mem_append, List.forall_mem_cons]
    exact ⟨fun w hw => Or.inl (Period.isFigures_of_mem_deadlineWords hstarts w hw), Or.inr rfl,
      fun w hw => Or.inl (Period.isFigures_of_mem_deadlineWords hends w hw)⟩

/-- **The times of a task are read back from their figures.** -/
theorem Period.ofSegments_figureWords (h : NamedByFigures starts ends)
    (hbefore : (now.date.addDays? (-1)).isSome) (hafter : (now.date.addDays? 7).isSome) :
    ofSegments (if figureWords starts ends = [] then []
      else [String.ofList (unwords (figureWords starts ends))]) now
      = .read (ends.map fun ends => ⟨starts, ends⟩) := by
  have htext := lt_of_mem_unwords (figures_or_dash_of_mem h)
  cases h with
  | none => rfl
  | @deadline ends hends =>
    have hne : figureWords none (some ends) ≠ [] := List.cons_ne_nil _ _
    rw [if_neg hne]
    exact ofSegments_of_figures hbefore hafter htext fun phrase =>
      ofFigures_deadline now.date phrase hends
  | @period starts ends hstarts hends hle =>
    have hne : figureWords (some starts) (some ends) ≠ [] := List.cons_ne_nil _ _
    rw [if_neg hne]
    exact ofSegments_of_figures hbefore hafter htext fun phrase =>
      ofFigures_period now.date phrase hstarts hends hle

/-! ### Words that pass through the line and the body -/

theorem Line.opensNoConnector_cons {first : Char} {rest : List Char}
    (h : OpensNoConnector first) : ∀ c ∈ (first :: rest).head?, OpensNoConnector c := by
  intro c hc
  rwa [← Option.some.inj hc]

theorem Line.opensNoConnector_of_isFigure {c : Char} (h : IsFigure c) : OpensNoConnector c := by
  have hall : ∀ c : Char, 47 ≤ c.toNat → c.toNat < 59 → OpensNoConnector c :=
    forall_of_codes (by decide)
  exact hall c h.1 (Nat.lt_succ_of_le h.2)

theorem Body.isLiteral_of_isFigures {w : List Char} (h : IsFigures w) : IsLiteral w := by
  have hne : ∀ c : Char, ¬IsFigure c → c ∉ w := fun c hc hmem => hc (h.isFigure c hmem)
  exact isLiteral_of_not_mem h.isWord (hne '\\' (by decide)) (hne '#' (by decide))
    (hne '@' (by decide))

theorem Body.isLiteral_of_mem_figureWords (h : NamedByFigures starts ends) :
    ∀ w ∈ figureWords starts ends, IsLiteral w := by
  intro w hw
  rcases figures_or_dash_of_mem h w hw with hfigures | rfl
  · exact isLiteral_of_isFigures hfigures
  · exact ⟨by decide, rfl⟩

/-- No word of a body that is written for a task begins like a connector. -/
theorem Line.opensNoConnector_of_mem_writtenWords {ws names : List (List Char)}
    (h : NamedByFigures starts ends) :
    ∀ w ∈ Body.writtenWords ws names (figureWords starts ends),
      ∀ c ∈ w.head?, OpensNoConnector c := by
  intro w hw
  simp only [Body.writtenWords, List.mem_append, List.mem_map] at hw
  rcases hw with (⟨word, -, rfl⟩ | ⟨name, -, rfl⟩) | hw
  · exact opensNoConnector_cons (by decide)
  · exact opensNoConnector_cons (by decide)
  · split at hw
    · cases hw
    · rcases List.mem_cons.mp hw with rfl | hw
      · exact opensNoConnector_cons (by decide)
      · rcases figures_or_dash_of_mem h w hw with hfigures | rfl
        · intro c hc
          exact opensNoConnector_of_isFigure (hfigures.isFigure c (List.mem_of_head? hc))
        · exact opensNoConnector_cons (by decide)

/-! ### The whole line -/

theorem toList_additionLine (description tags : List String) (starts ends : Option DateTime) :
    additionLine description tags starts ends = String.ofList (unwords (Verb.add.word.toList ::
      Body.writtenWords (description.map String.toList) (tags.map String.toList)
        (figureWords starts ends))) := by
  rw [← String.toList_inj, String.toList_ofList, additionLine, String.toList_intercalate]
  show [' '].intercalate _ = [' '].intercalate _
  congr 1
  rw [List.cons_append, List.cons_append, List.map_cons, List.map_append, List.map_append,
    toList_timeWords, Body.writtenWords, List.map_map, List.map_map, List.map_map, List.map_map]
  simp only [Function.comp_def, String.toList_append]
  rfl

namespace Action

variable {description names : List String} {tags : TagSet}

theorem newTask_of_body {body : Body} (hdrop : body.dropsTime = false)
    (hdescription : body.description ≠ "") (htags : newTags ∅ body.tags = .ok tags) :
    newTask body = .ok { description := body.description, tags } := by
  unfold newTask
  rw [hdrop, htags]
  simp only [if_neg Bool.false_ne_true, if_neg hdescription]
  rfl

theorem add_of_body {argument : String} {body : Body} {period : Option Period}
    (hbody : Body.ofText argument = .ok body) (hdrop : body.dropsTime = false)
    (hdescription : body.description ≠ "") (htags : newTags ∅ body.tags = .ok tags)
    (hperiod : Period.ofSegments body.times now = .read period) :
    add argument now
      = .read (.add (withPeriod { description := body.description, tags } period)) := by
  have htask := newTask_of_body hdrop hdescription htags
  unfold add
  simp only [hbody, htask, hperiod, Reading.ofExcept, Reading.read_bind, Reading.pure_eq_read]

/-- A line that is cut after a command word asks for what the word stands for. -/
theorem ofText_of_line {implicitAdd : Bool} {l : TaskList} {text argument whole : String}
    {verb : Verb} (hline : Line.ofText text = ⟨verb.word, argument, whole⟩) :
    ofText implicitAdd l text now = ofVerb verb l argument now := by
  have hverb : (⟨verb.word, argument, whole⟩ : Line).verb? = some verb := Line.ofWord?_word verb
  unfold ofText
  simp only [hline, hverb]

/-- **Every task whose times figures can name has a line that adds it.** For all words of a
description, all names of tags and all times that figures can name, the line that is made of them
asks for adding the task with just this description, these tags and these times, whatever is in the
list. The names of the tags can come in any order, and words and names can be in any script. -/
theorem ofText_additionLine (implicitAdd : Bool) (l : TaskList)
    (hne : description ≠ []) (hwords : ∀ w ∈ description, IsWord w.toList)
    (hnames : ∀ name, name ∈ names ↔ name ∈ tags)
    (htags : ∀ name ∈ tags, Body.IsTagName name.toList)
    (htimes : NamedByFigures starts ends)
    (hbefore : (now.date.addDays? (-1)).isSome) (hafter : (now.date.addDays? 7).isSome) :
    ofText implicitAdd l (additionLine description names starts ends) now =
      .read (.execute (.add
        { description := " ".intercalate description, tags, starts, ends, done := false })) := by
  have hws : ∀ w ∈ description.map String.toList, IsWord w :=
    List.forall_mem_map.mpr hwords
  have hns : ∀ name ∈ names.map String.toList, Body.IsTagName name :=
    List.forall_mem_map.mpr fun name hname => htags name ((hnames name).mp hname)
  have hts := Body.isLiteral_of_mem_figureWords htimes
  -- the line is cut into the command word and a body
  have hline := Line.ofText_words .add (Body.isWord_of_mem_writtenWords hws hns hts)
    (Line.opensNoConnector_of_mem_writtenWords htimes)
  rw [← toList_additionLine] at hline
  -- the body is cut into its parts
  have hbody := Body.ofText_words hws hns hts
  have hdescription : String.ofList (unwords (description.map String.toList))
      = " ".intercalate description := by
    rw [← String.toList_inj, String.toList_ofList, String.toList_intercalate]
    rfl
  have hchanges : (names.map String.toList).map (fun name => TagChange.add (String.ofList name))
      = names.map .add := by
    rw [List.map_map]
    exact List.map_congr_left fun name _ => congrArg TagChange.add String.ofList_toList
  rw [hdescription, hchanges] at hbody
  have hnonempty : " ".intercalate description ≠ "" := by
    obtain ⟨w, rest, rfl⟩ := List.exists_cons_of_ne_nil hne
    rw [← hdescription, Ne, String.ofList_eq_empty_iff]
    exact unwords_ne_nil (hwords w (List.mem_cons_self ..))
  -- the parts make up the task
  have hadd := add_of_body hbody rfl hnonempty (newTags_eq hnames)
    (Period.ofSegments_figureWords htimes hbefore hafter)
  have htask : withPeriod { description := " ".intercalate description, tags }
      (ends.map fun ends => ⟨starts, ends⟩)
      = { description := " ".intercalate description, tags, starts, ends, done := false } := by
    cases htimes <;> rfl
  rw [htask] at hadd
  rw [ofText_of_line hline]
  show execute <$> add _ now = _
  rw [hadd]
  rfl

/-- Words that would mean something without a backslash, a tag with an at sign in it, and a leap
day. -/
theorem ofText_by_the_leap_day :
    let now : DateTime := ⟨⟨20000, by decide, by decide⟩, .midnight⟩
    let starts : DateTime := ⟨⟨21243, by decide, by decide⟩, ⟨34200000000000, by decide⟩⟩
    let ends : DateTime := ⟨⟨21244, by decide, by decide⟩, ⟨64800000000000, by decide⟩⟩
    let tags : TagSet := ⟨["a@b", "cold"], by decide, by decide⟩
    ofText false { tasks := [] }
        "add \\by \\#2 \\-@ #cold #a@b @ 29/02/2028 09:30 - 01/03/2028 18:00" now =
      .read (.execute (.add { description := "by #2 -@", tags, starts, ends })) := by
  intro now starts ends tags
  have hline : additionLine ["by", "#2", "-@"] ["cold", "a@b"] (some starts) (some ends)
      = "add \\by \\#2 \\-@ #cold #a@b @ 29/02/2028 09:30 - 01/03/2028 18:00" := by
    decide +kernel
  have hdescription : " ".intercalate ["by", "#2", "-@"] = "by #2 -@" := by
    decide +kernel
  have hnames : ∀ name, name ∈ ["cold", "a@b"] ↔ name ∈ tags := by
    intro name
    show name ∈ ["cold", "a@b"] ↔ name ∈ ["a@b", "cold"]
    simp only [List.mem_cons, List.not_mem_nil, or_false]
    exact or_comm
  have htags : ∀ name ∈ tags, Body.IsTagName name.toList := by
    show ∀ name ∈ ["a@b", "cold"], Body.IsTagName name.toList
    decide +kernel
  have htimes : NamedByFigures (some starts) (some ends) :=
    .period (by decide +kernel) (by decide +kernel) (by decide +kernel)
  rw [← hline, ← hdescription]
  exact ofText_additionLine false _ (List.cons_ne_nil _ _) (by decide +kernel) hnames htags htimes
    (by decide +kernel) (by decide +kernel)

end Action

end Agenda
