import Agenda.Proofs.Command.Named
import Agenda.Proofs.Language.Addition
import Agenda.Proofs.Language.Line

/-!
# Id lists with blanks in them

A written id list is a first word and links, each of a comma or a dash, with any blanks on both
sides of it, and another word (`IdList.written`). Removing takes its whole argument for such a list.
Editing has to find the end of the list first: it goes on over the links with no blank before a
comma (`Link.IsTight`) and stops at the first other link (`Action.idListStart?_written`), which
belongs to the new description with all that follows. So the same list means the same tasks to both
exactly when all its links are tight (`Action.edit_takes_ids_of_remove`).
-/

namespace Agenda

open Text

namespace IdList

/-! ### Written lists -/

/-- The words that stand for ids. -/
def keywords : List String := ["last", "max", "all", "everything"]

/-- A word of an id list: a decimal numeral or a keyword. -/
def IsIdWord (w : List Char) : Prop :=
  (w ≠ [] ∧ ∀ c ∈ w, c.isDigit = true) ∨ ∃ name ∈ keywords, name.toList = w

theorem isIdWord_iff {w : List Char} : IsIdWord w ↔
    (w.isEmpty = false ∧ w.all Char.isDigit = true) ∨ ∃ name ∈ keywords, name.toList = w := by
  rw [List.isEmpty_eq_false_iff, List.all_eq_true]
  rfl

instance (w : List Char) : Decidable (IsIdWord w) :=
  decidable_of_iff' _ isIdWord_iff

/-- What goes on with an id list after a word: a sign between blanks, and the next word. -/
structure Link where
  before : List Char := []
  sign : Char
  after : List Char := []
  word : List Char
  deriving DecidableEq, Repr

namespace Link

/-- The text of a link. -/
def text (link : Link) : List Char :=
  link.before ++ link.sign :: (link.after ++ link.word)

/-- A link whose sign joins two words to an id list. -/
structure IsSound (link : Link) : Prop where
  before : ∀ c ∈ link.before, isBlank c = true
  sign : link.sign = ',' ∨ link.sign = '-'
  after : ∀ c ∈ link.after, isBlank c = true
  word : IsIdWord link.word

theorem isSound_iff {link : Link} : link.IsSound ↔
    link.before.all isBlank = true ∧ (link.sign = ',' ∨ link.sign = '-') ∧
      link.after.all isBlank = true ∧ IsIdWord link.word := by
  rw [List.all_eq_true, List.all_eq_true]
  exact ⟨fun h => ⟨h.before, h.sign, h.after, h.word⟩, fun h => ⟨h.1, h.2.1, h.2.2.1, h.2.2.2⟩⟩

instance (link : Link) : Decidable link.IsSound :=
  decidable_of_iff' _ isSound_iff

/-- No blank stands before a comma. -/
def IsTight (link : Link) : Prop :=
  link.sign = ',' → link.before = []

instance (link : Link) : Decidable link.IsTight :=
  inferInstanceAs (Decidable (link.sign = ',' → link.before = []))

end Link

/-- An id list of a first word and links. -/
def written (first : List Char) (links : List Link) : List Char :=
  first ++ links.flatMap Link.text

variable {w first tail : List Char} {link : Link} {links : List Link} {c : Char}

/-! ### Words of id lists -/

theorem IsIdWord.isWordChar (h : IsIdWord w) : ∀ c ∈ w, isWordChar c = true := by
  rcases h with ⟨-, hdigits⟩ | ⟨name, hname, rfl⟩
  · exact fun c hc => (isWordChar_of_isDigit (hdigits c hc)).1
  · have hall : ∀ name ∈ keywords, name.toList.all Text.isWordChar = true := by
      decide +kernel
    exact List.all_eq_true.mp (hall name hname)

theorem IsIdWord.ne_nil (h : IsIdWord w) : w ≠ [] := by
  rcases h with ⟨hne, -⟩ | ⟨name, hname, rfl⟩
  · exact hne
  · have hall : ∀ name ∈ keywords, name.toList ≠ [] := by decide
    exact hall name hname

theorem IsIdWord.isWord (h : IsIdWord w) : IsWord w :=
  ⟨h.ne_nil, fun c hc => not_blank_of_isWordChar (h.isWordChar c hc)⟩

/-- No word of an id list introduces a time. -/
theorem IsIdWord.not_connector (h : IsIdWord w) : isOneOf Line.connectors w = false := by
  rcases h with ⟨hne, hdigits⟩ | ⟨name, hname, rfl⟩
  · obtain ⟨c, cs, rfl⟩ := List.exists_cons_of_ne_nil hne
    have hdigit := hdigits c (List.mem_cons_self ..)
    exact Line.isOneOf_connectors (Line.opensNoConnector_of_isFigure (isFigure_of_isDigit hdigit))
  · have hall : ∀ name ∈ keywords, isOneOf Line.connectors name.toList = false := by decide
    exact hall name hname

/-! ### Links -/

theorem Link.IsSound.not_isWordChar_sign (h : link.IsSound) :
    Text.isWordChar link.sign = false := by
  rcases h.sign with hsign | hsign
  · rw [hsign]
    decide +kernel
  · rw [hsign]
    decide +kernel

theorem Link.IsSound.not_isBlank_sign (h : link.IsSound) : isBlank link.sign = false := by
  rcases h.sign with hsign | hsign
  · rw [hsign]
    decide
  · rw [hsign]
    decide

theorem Link.text_append (link : Link) (rest : List Char) :
    link.text ++ rest = link.before ++ link.sign :: (link.after ++ (link.word ++ rest)) := by
  unfold text
  simp only [List.append_assoc, List.cons_append]

theorem flatMap_text_cons (link : Link) (links : List Link) (tail : List Char) :
    (link :: links).flatMap Link.text ++ tail = link.before ++
      link.sign :: (link.after ++ (link.word ++ (links.flatMap Link.text ++ tail))) := by
  rw [List.flatMap_cons, List.append_assoc, Link.text_append]

/-- A word ends where a link begins. -/
theorem not_isWordChar_of_links (hlinks : ∀ link ∈ links, link.IsSound)
    (htail : ∀ c ∈ tail.head?, isWordChar c = false) :
    ∀ c ∈ (links.flatMap Link.text ++ tail).head?, isWordChar c = false := by
  cases links with
  | nil => exact htail
  | cons link rest =>
    have hlink := hlinks link (List.mem_cons_self ..)
    rw [flatMap_text_cons]
    intro c hc
    cases hbefore : link.before with
    | nil =>
      rw [hbefore] at hc
      rw [← Option.some.inj hc]
      exact hlink.not_isWordChar_sign
    | cons b bs =>
      have hblank := hlink.before b (hbefore ▸ List.mem_cons_self ..)
      rw [hbefore] at hc
      rw [← Option.some.inj hc]
      exact isWordChar_of_isBlank hblank

/-- Nothing in the links of an id list is marked. -/
theorem marked_links (hlinks : ∀ link ∈ links, link.IsSound)
    (htail : ∀ c ∈ tail.head?, isWordChar c = false) :
    Line.marked (links.flatMap Link.text ++ tail)
      = links.flatMap Link.text ++ Line.marked tail := by
  induction links with
  | nil => rfl
  | cons link rest ih =>
    obtain ⟨hlink, hrest⟩ := List.forall_mem_cons.mp hlinks
    have hword := hlink.word
    have hnext := not_isWordChar_of_links hrest htail
    -- behind the blanks before the sign no word begins, and behind those after it an id does
    have hsign : isOneOf Line.connectors ((link.sign ::
        (link.after ++ (link.word ++ (rest.flatMap Link.text ++ tail)))).takeWhile isWordChar)
        = false := by
      rw [List.takeWhile_cons_of_neg (by simp [hlink.not_isWordChar_sign])]
      exact Line.not_isOneOf_connectors_nil
    have hid : isOneOf Line.connectors
        ((link.word ++ (rest.flatMap Link.text ++ tail)).takeWhile isWordChar) = false := by
      rw [takeWhile_append_of_head? hword.isWordChar hnext]
      exact hword.not_connector
    have hsigned : ∀ c ∈ [link.sign], isBlank c = false := by
      intro c hc
      rw [List.mem_singleton.mp hc]
      exact hlink.not_isBlank_sign
    have hcons : ∀ text, Line.marked (link.sign :: text) = link.sign :: Line.marked text :=
      Line.marked_append_of_not_blank hsigned
    rw [flatMap_text_cons, flatMap_text_cons, Line.marked_append_of_blank hlink.before hsign, hcons,
      Line.marked_append_of_blank hlink.after hid,
      Line.marked_append_of_not_blank hword.isWord.not_blank, ih hrest]

/-- The last character of a written list belongs to a word. -/
theorem not_blank_of_mem_getLast?_written (hfirst : IsIdWord first)
    (hlinks : ∀ link ∈ links, link.IsSound) :
    ∀ c ∈ (written first links).getLast?, isBlank c = false := by
  obtain ⟨text, w, hw, hwritten⟩ : ∃ text w, IsIdWord w ∧ written first links = text ++ w := by
    rcases List.eq_nil_or_concat links with rfl | ⟨init, link, rfl⟩
    · exact ⟨[], first, hfirst, List.append_nil first⟩
    · refine ⟨written first init ++ (link.before ++ link.sign :: link.after), link.word, ?_, ?_⟩
      · exact (hlinks link (by simp)).word
      · simp [written, Link.text]
  intro c hc
  rw [hwritten, List.getLast?_append_of_ne_nil _ hw.ne_nil] at hc
  exact hw.isWord.not_blank c (List.mem_of_getLast? hc)

/-- **An id list behind a command word is in standard form**, up to what follows it. -/
theorem trim_marked_written (hfirst : IsIdWord first) (hlinks : ∀ link ∈ links, link.IsSound)
    (htail : ∀ c ∈ tail.head?, isWordChar c = false) (hmarked : Line.marked tail = tail)
    (hlast : ∀ c ∈ tail.getLast?, isBlank c = false) :
    trim (Line.marked (' ' :: (written first links ++ tail))) = written first links ++ tail := by
  have hnext := not_isWordChar_of_links hlinks htail
  have hconnector : isOneOf Line.connectors
      ((first ++ (links.flatMap Link.text ++ tail)).takeWhile isWordChar) = false := by
    rw [takeWhile_append_of_head? hfirst.isWordChar hnext]
    exact hfirst.not_connector
  unfold written
  rw [List.append_assoc, Line.marked_space_cons, hconnector, if_neg Bool.false_ne_true,
    trim_space_cons, Line.marked_append_of_not_blank hfirst.isWord.not_blank,
    marked_links hlinks htail, hmarked]
  -- a word stands at the beginning, and a word or the text behind the list at the end
  refine trim_of_ends ?_ ?_
  · intro c hc
    rw [List.head?_append_of_ne_nil _ hfirst.ne_nil] at hc
    exact hfirst.isWord.not_blank c (List.mem_of_head? hc)
  · rw [← List.append_assoc]
    by_cases hnil : tail = []
    · rw [hnil, List.append_nil]
      exact not_blank_of_mem_getLast?_written hfirst hlinks
    · rw [List.getLast?_append_of_ne_nil _ hnil]
      exact hlast

/-- A written id list names some task, if it is not refused. -/
theorem ne_nil_of_resolve_written {context : IdScope} {ids : List ℕ} (hfirst : IsIdWord first)
    (h : resolve (String.ofList (written first links)) context = .ok ids) : ids ≠ [] := by
  rintro rfl
  have hnothing := resolve_eq_nil_iff.mp h
  obtain ⟨c, cs, rfl⟩ := List.exists_cons_of_ne_nil hfirst.ne_nil
  have hword := hfirst.isWordChar c (List.mem_cons_self ..)
  rw [NamesNothing, String.toList_ofList] at hnothing
  rcases hnothing c (List.mem_cons_self ..) with rfl | hblank
  · revert hword
    decide +kernel
  · rw [not_blank_of_isWordChar hword] at hblank
    cases hblank

end IdList

namespace Action

open IdList

variable {first x : List Char} {link : Link} {links : List Link} {body : Body}

/-! ### The end of an id list -/

/-- A description behind an id list: one escaped word. -/
def escaped (x : List Char) : List Char :=
  ' ' :: '\\' :: x

theorem not_isWordChar_of_escaped : ∀ c ∈ (escaped x).head?, isWordChar c = false := by
  intro c hc
  rw [← Option.some.inj hc]
  exact isWordChar_space

/-- **Behind a word an id list goes on over its tight links**, and ends before the first link with a
blank before a comma. -/
theorem idListTail_links (hlinks : ∀ link ∈ links, link.IsSound) {fuel : ℕ}
    (hfuel : links.length ≤ fuel) : idListTail fuel (links.flatMap Link.text ++ escaped x)
      = (links.takeWhile (·.IsTight)).flatMap Link.text := by
  -- one round per link, so that as much fuel as there are links will do
  induction links generalizing fuel with
  | nil =>
    cases fuel with
    | zero => rfl
    | succ fuel =>
      have hsign : isBlank '\\' = false := by decide
      have hgap : (escaped x).takeWhile isBlank = [' '] := by
        rw [escaped, List.takeWhile_cons_of_pos isBlank_space,
          List.takeWhile_cons_of_neg (by simp [hsign])]
      have hrest : (escaped x).dropWhile isBlank = '\\' :: x := by
        rw [escaped, List.dropWhile_cons_of_pos isBlank_space,
          List.dropWhile_cons_of_neg (by simp [hsign])]
      rw [List.flatMap_nil, List.nil_append, idListTail]
      simp only [hgap, hrest]
      rfl
  | cons link rest ih =>
    obtain ⟨hlink, hrest⟩ := List.forall_mem_cons.mp hlinks
    obtain ⟨fuel, rfl⟩ := Nat.exists_eq_add_of_le' (Nat.one_le_of_lt hfuel)
    have hword := hlink.word
    have hnext := not_isWordChar_of_links hrest (not_isWordChar_of_escaped (x := x))
    have hletter : ∀ c ∈ (link.word ++ (rest.flatMap Link.text ++ escaped x)).head?,
        isBlank c = false := by
      intro c hc
      rw [List.head?_append_of_ne_nil _ hword.ne_nil] at hc
      exact hword.isWord.not_blank c (List.mem_of_head? hc)
    have hsign : ∀ text : List Char, ∀ c ∈ (link.sign :: text).head?, isBlank c = false := by
      intro text c hc
      rw [← Option.some.inj hc]
      exact hlink.not_isBlank_sign
    rw [flatMap_text_cons, idListTail]
    simp only [takeWhile_append_of_head? hlink.before (hsign _),
      dropWhile_append_of_head? hlink.before (hsign _),
      takeWhile_append_of_head? hlink.after hletter, dropWhile_append_of_head? hlink.after hletter,
      takeWhile_append_of_head? hword.isWordChar hnext,
      dropWhile_append_of_head? hword.isWordChar hnext, if_neg hword.ne_nil]
    have htight : (link.sign = '-' ∨ link.sign = ',' ∧ link.before = []) ↔ link.IsTight := by
      unfold Link.IsTight
      rcases hlink.sign with hsign | hsign
      · simp [hsign]
      · simp [hsign]
    by_cases h : link.IsTight
    · rw [if_pos (htight.mpr h), ih hrest (Nat.le_of_succ_le_succ hfuel),
        List.takeWhile_cons_of_pos (p := fun k : Link => decide k.IsTight) (decide_eq_true h),
        List.flatMap_cons, Link.text]
      simp only [List.append_assoc, List.cons_append, List.nil_append]
    · rw [if_neg fun hcond => h (htight.mp hcond),
        List.takeWhile_cons_of_neg (by simpa using h), List.flatMap_nil]

theorem length_le_of_links (links : List Link) :
    links.length ≤ (links.flatMap Link.text).length := by
  induction links with
  | nil => exact Nat.le_refl _
  | cons link rest ih =>
    have hpos : 1 ≤ link.text.length := by
      unfold Link.text
      rw [List.length_append, List.length_cons]
      omega
    rw [List.flatMap_cons, List.length_append, List.length_cons]
    omega

/-- **The id list at the beginning of a text ends before the first link that is not tight.** -/
theorem idListStart?_written (hfirst : IsIdWord first) (hlinks : ∀ link ∈ links, link.IsSound) :
    idListStart? (written first links ++ escaped x)
      = some (written first (links.takeWhile (·.IsTight))) := by
  have hnext := not_isWordChar_of_links hlinks (not_isWordChar_of_escaped (x := x))
  have hfuel : links.length ≤ (first ++ (links.flatMap Link.text ++ escaped x)).length := by
    have := length_le_of_links links
    rw [List.length_append, List.length_append]
    omega
  unfold idListStart? written
  rw [List.append_assoc]
  simp only [takeWhile_append_of_head? hfirst.isWordChar hnext,
    dropWhile_append_of_head? hfirst.isWordChar hnext, if_neg hfirst.ne_nil,
    idListTail_links hlinks hfuel]

/-- What follows the id list that an edit takes. -/
theorem drop_written (first : List Char) (links : List Link) (p : Link → Bool)
    (tail : List Char) :
    (written first links ++ tail).drop (written first (links.takeWhile p)).length
      = (links.dropWhile p).flatMap Link.text ++ tail := by
  have hsplit : written first links
      = written first (links.takeWhile p) ++ (links.dropWhile p).flatMap Link.text := by
    unfold written
    rw [List.append_assoc, ← List.flatMap_append, List.takeWhile_append_dropWhile]
  rw [hsplit, List.append_assoc]
  exact List.drop_left ..

/-! ### What follows an id list -/

/-- Links are more than blanks. -/
theorem words_links_ne_nil (hlinks : ∀ link ∈ links, link.IsSound) (hne : links ≠ []) :
    words (links.flatMap Link.text) ≠ [] := by
  obtain ⟨link, rest, rfl⟩ := List.exists_cons_of_ne_nil hne
  have hlink := hlinks link (List.mem_cons_self ..)
  have hsign : IsWord [link.sign] := by
    refine ⟨List.cons_ne_nil _ _, fun c hc => ?_⟩
    rw [List.mem_singleton.mp hc]
    exact hlink.not_isBlank_sign
  have hcons := flatMap_text_cons link rest []
  have hwords : ∀ text, words (link.sign :: text) ≠ [] := by
    intro text
    have hfirst := words_append hsign text
    rw [List.singleton_append] at hfirst
    rw [hfirst]
    exact List.cons_ne_nil _ _
  rw [List.append_nil] at hcons
  rw [hcons, ← words_trim, trim_append_of_blank hlink.before, words_trim]
  exact hwords _

/-- No word of links has a meaning in a body. -/
theorem isLiteral_of_mem_words_links (hlinks : ∀ link ∈ links, link.IsSound) :
    ∀ w ∈ words (links.flatMap Link.text), Body.IsLiteral w := by
  intro w hw
  have hnotMem : ∀ sign : Char, isWordChar sign = false → isBlank sign = false → sign ≠ ',' →
      sign ≠ '-' → sign ∉ w := by
    intro sign hword hblank hcomma hdash hmem
    obtain ⟨link, hlink, htext⟩ := List.mem_flatMap.mp (mem_of_mem_words hw hmem)
    have hsound := hlinks link hlink
    simp only [Link.text, List.mem_append, List.mem_cons] at htext
    rcases htext with htext | rfl | htext | htext
    · rw [hsound.before sign htext] at hblank
      cases hblank
    · exact hsound.sign.elim hcomma hdash
    · rw [hsound.after sign htext] at hblank
      cases hblank
    · rw [hsound.word.isWordChar sign htext] at hword
      cases hword
  have hbackslash := hnotMem '\\' (by decide +kernel) (by decide) (by decide) (by decide)
  have hhash := hnotMem '#' (by decide +kernel) (by decide) (by decide) (by decide)
  have hat := hnotMem '@' (by decide +kernel) (by decide) (by decide) (by decide)
  exact Body.isLiteral_of_not_mem (isWord_of_mem_words hw) hbackslash hhash hat

/-- **Links that an edit leaves over are a part of the new description.** -/
theorem description_of_links (hlinks : ∀ link ∈ links, link.IsSound) (hx : IsWord x)
    (h : Body.ofText (String.ofList (trim (links.flatMap Link.text ++ escaped x))) = .ok body) :
    body.description = String.ofList (unwords (words (links.flatMap Link.text) ++ [x])) := by
  have hliteral := isLiteral_of_mem_words_links hlinks
  have hwords : words (trim (links.flatMap Link.text ++ escaped x))
      = words (links.flatMap Link.text) ++ ['\\' :: x] := by
    have hescaped : words ('\\' :: x) = ['\\' :: x] := words_of_isWord (hx.cons (by decide))
    rw [words_trim, escaped, words_append_cons isBlank_space, hescaped]
  have hpieces : Body.piecesOfWords (words (links.flatMap Link.text) ++ ['\\' :: x])
      = .ok ((words (links.flatMap Link.text) ++ [x]).map .word) := by
    have hlast := List.Forall₂.cons (Body.standsFor_escaped hx) .nil
    rw [List.map_append]
    exact Body.piecesOfWords_of_forall₂ (List.rel_append (Body.forall₂_of_isLiteral hliteral) hlast)
  have hsegments := Body.segments_word_append (words (links.flatMap Link.text) ++ [x]) []
  unfold Body.ofText at h
  rw [String.toList_ofList, hwords, hpieces] at h
  cases h
  rw [List.append_nil] at hsegments
  unfold Body.ofPieces
  rw [hsegments]
  exact congrArg (String.ofList ∘ unwords) (List.append_nil _)

/-- A description with more words than one is another one. -/
theorem unwords_append_ne {ws : List (List Char)} (hws : ∀ w ∈ ws, IsWord w) (hne : ws ≠ [])
    (hx : IsWord x) : unwords (ws ++ [x]) ≠ [] ∧ unwords (ws ++ [x]) ≠ x := by
  have hback : words (unwords (ws ++ [x])) = ws ++ [x] :=
    words_unwords (List.forall_mem_append.mpr ⟨hws, List.forall_mem_singleton.mpr hx⟩)
  obtain ⟨first, others, rfl⟩ := List.exists_cons_of_ne_nil hne
  constructor
  · intro hnil
    rw [hnil] at hback
    cases hback
  · intro hsame
    rw [hsame, words_of_isWord hx] at hback
    have hlength := congrArg List.length hback
    simp at hlength

/-! ### Edits of a description -/

/-- An edit of the description leaves all else as it is. -/
theorem edited_described (t : Task) {description : String} (h : description ≠ "") :
    edited t { description } none = .ok { t with description } := by
  unfold edited
  simp only [if_neg h]
  rfl

theorem edits_described {description : String} (h : description ≠ "") (targets : List Target) :
    edits { description } none targets = .ok (targets.map fun target =>
      ⟨target.position, target.task, { target.task with description }⟩) := by
  induction targets with
  | nil => rfl
  | cons target rest ih =>
    rw [edits, edited_described target.task h, ih]
    rfl

/-! ### Edits and removals -/

variable {implicitAdd : Bool} {l : TaskList} {targets : List Target} {description : String}
  {now : DateTime}

/-- A written id list is the argument of any verb before it. -/
theorem ofText_written (verb : Verb) (hfirst : IsIdWord first)
    (hlinks : ∀ link ∈ links, link.IsSound) :
    ofText implicitAdd l (verb.word ++ " " ++ String.ofList (written first links)) now
      = ofVerb verb l (String.ofList (written first links)) now := by
  have hargument : trim (Line.marked (' ' :: (written first links ++ [])))
      = written first links ++ [] :=
    trim_marked_written hfirst hlinks (by simp) Line.marked_nil (by simp)
  rw [List.append_nil] at hargument
  rw [ofText_verb, String.toList_ofList, hargument]

theorem ofText_remove_written (hfirst : IsIdWord first) (hlinks : ∀ link ∈ links, link.IsSound) :
    ofText implicitAdd l ("remove " ++ String.ofList (written first links)) now
      = execute <$> .ofExcept (remove l (String.ofList (written first links))) :=
  ofText_written .remove hfirst hlinks

theorem ofText_edit_written (hfirst : IsIdWord first) (hlinks : ∀ link ∈ links, link.IsSound)
    (hx : IsWord description.toList) :
    ofText implicitAdd l
        ("edit " ++ String.ofList (written first links) ++ " \\" ++ description) now
      = execute <$>
        edit l (String.ofList (written first links ++ escaped description.toList)) now := by
  have hnotBlank : ∀ c ∈ '\\' :: description.toList, isBlank c = false :=
    (hx.cons (by decide)).not_blank
  have hmarked : Line.marked (escaped description.toList) = escaped description.toList := by
    have hsame := Line.marked_append_of_not_blank hnotBlank []
    rw [List.append_nil] at hsame
    have hsign : isOneOf Line.connectors (('\\' :: description.toList).takeWhile isWordChar)
        = false := by
      rw [List.takeWhile_cons_of_neg (by decide +kernel)]
      exact Line.not_isOneOf_connectors_nil
    rw [escaped, Line.marked_space_cons, hsign, if_neg Bool.false_ne_true, hsame,
      Line.marked_nil, List.append_nil]
  have hlast : ∀ c ∈ (escaped description.toList).getLast?, isBlank c = false := by
    intro c hc
    rw [escaped, List.getLast?_cons_of_ne_nil (List.cons_ne_nil _ _)] at hc
    exact hnotBlank c (List.mem_of_getLast? hc)
  have hargument := trim_marked_written hfirst hlinks not_isWordChar_of_escaped hmarked hlast
  have hline := ofText_verb implicitAdd l .edit
    (String.ofList (written first links ++ escaped description.toList)) now
  have hsame : "edit " ++ String.ofList (written first links) ++ " \\" ++ description
      = Verb.edit.word ++ " "
        ++ String.ofList (written first links ++ escaped description.toList) := by
    refine String.toList_injective ?_
    simp [escaped, Verb.word]
  rw [hsame, hline, String.toList_ofList, hargument]
  rfl

/-- An edit takes a list of tight links as a removal does, and what follows is the description. -/
theorem edit_of_tight (hfirst : IsIdWord first) (hlinks : ∀ link ∈ links, link.IsSound)
    (hx : IsWord description.toList) (htight : ∀ link ∈ links, link.IsTight)
    (h : remove l (String.ofList (written first links)) = .ok (.remove targets)) :
    edit l (String.ofList (written first links ++ escaped description.toList)) now
      = .read (.edit (targets.map fun target =>
        ⟨target.position, target.task, { target.task with description }⟩)) := by
  have hne : description ≠ "" := by
    rintro rfl
    exact hx.ne_nil rfl
  have hids := idListStart?_written hfirst hlinks (x := description.toList)
  have hdrop := drop_written first links (·.IsTight) (escaped description.toList)
  have hall : links.takeWhile (·.IsTight) = links :=
    List.takeWhile_eq_self_iff.mpr fun link hlink => decide_eq_true (htight link hlink)
  have hnone : links.dropWhile (·.IsTight) = [] :=
    List.dropWhile_eq_nil_iff.mpr fun link hlink => decide_eq_true (htight link hlink)
  rw [hall, hnone] at hdrop
  rw [hall] at hids
  have hbody : Body.ofText (String.ofList (trim (escaped description.toList)))
      = .ok { description } := by
    have hescaped : IsWord ('\\' :: description.toList) := hx.cons (by decide)
    have htrim : trim (escaped description.toList) = unwords ['\\' :: description.toList] := by
      rw [escaped, trim_space_cons, ← trim_unwords (List.forall_mem_singleton.mpr hescaped),
        unwords_singleton]
    have htext := Body.ofText_words (List.forall_mem_singleton.mpr hx) (List.forall_mem_nil _)
      (List.forall_mem_nil _)
    rw [htrim]
    rw [unwords_singleton, String.ofList_toList] at htext
    exact htext
  obtain ⟨ids, hresolve, htargets⟩ : ∃ ids,
      resolve (String.ofList (written first links)) l.idScope = .ok ids ∧
        targetsAt l ids = .ok targets := by
    unfold remove at h
    split at h
    · cases h
    unfold Action.targets at h
    cases hresolve : resolve (String.ofList (written first links)) l.idScope with
    | error cause =>
      rw [hresolve] at h
      cases h
    | ok ids =>
      rw [hresolve] at h
      refine ⟨ids, rfl, ?_⟩
      cases htargets : targetsAt l ids with
      | error cause => simp [bind, Except.bind, Except.map, htargets] at h
      | ok targets' => simpa [bind, Except.bind, Except.map, htargets] using h
  have hnotEmpty : ¬Body.isEmpty { description } = true := by
    simp [Body.isEmpty, hne]
  unfold edit
  rw [String.toList_ofList, hids]
  simp only [Reading.bind_eq_read_iff, Reading.ofExcept_eq_read_iff, hdrop, List.flatMap_nil,
    List.nil_append]
  refine ⟨ids, hresolve, { description }, hbody, ?_⟩
  rw [if_neg hnotEmpty]
  simp only [Reading.bind_eq_read_iff, Reading.ofExcept_eq_read_iff, Reading.pure_eq_read]
  exact ⟨none, rfl, targets, htargets, _, edits_described hne targets, rfl⟩

/-- A list with a blank before a comma is cut there, so the description gets more than one word. -/
theorem description_of_edit (hfirst : IsIdWord first) (hlinks : ∀ link ∈ links, link.IsSound)
    (hx : IsWord description.toList) {revisions : List Revision}
    (hloose : ¬∀ link ∈ links, link.IsTight)
    (h : edit l (String.ofList (written first links ++ escaped description.toList)) now
      = .read (.edit revisions)) : ∀ r ∈ revisions, r.after.description ≠ description := by
  obtain ⟨ids, body, period, targets, revisions', hids, -, hbody, -, hedits, heq⟩ := edit_spec h
  obtain rfl := Command.edit.inj heq
  rw [String.toList_ofList, idListStart?_written hfirst hlinks] at hids
  obtain rfl := Option.some.inj hids
  -- some link is left over, and its words come before the description
  have hrest : links.dropWhile (·.IsTight) ≠ [] := by
    intro hnil
    exact hloose fun link hlink => of_decide_eq_true (List.dropWhile_eq_nil_iff.mp hnil link hlink)
  have hsound : ∀ link ∈ links.dropWhile (·.IsTight), link.IsSound :=
    fun link hlink => hlinks link ((List.dropWhile_sublist _).subset hlink)
  have hdrop := drop_written first links (·.IsTight) (escaped description.toList)
  rw [String.toList_ofList, hdrop] at hbody
  obtain ⟨hne, hother⟩ := unwords_append_ne
    (fun w hw => (isLiteral_of_mem_words_links hsound w hw).toIsWord)
    (words_links_ne_nil hsound hrest) hx
  have hbodyNe : body.description ≠ "" := by
    rw [description_of_links hsound hx hbody]
    exact fun hempty => hne (String.ofList_injective hempty)
  intro r hr hsame
  have hafter := edited_spec ((Command.targetsOf_of_edits hedits).2 r hr)
  rw [hafter.description, if_neg hbodyNe, description_of_links hsound hx hbody] at hsame
  refine hother ?_
  conv_rhs => rw [← hsame, String.toList_ofList]

/-- **An edit takes the tasks that a removal with the same id list takes exactly when no blank
stands before a comma of the list.** With such a blank the list of the edit ends there, and the rest
of it becomes a part of the description. -/
theorem edit_takes_ids_of_remove (hfirst : IsIdWord first) (hlinks : ∀ link ∈ links, link.IsSound)
    (hx : IsWord description.toList)
    (h : ofText implicitAdd l ("remove " ++ String.ofList (written first links)) now
      = .read (.execute (.remove targets))) :
    (∃ revisions, ofText implicitAdd l
        ("edit " ++ String.ofList (written first links) ++ " \\" ++ description) now
          = .read (.execute (.edit revisions)) ∧
        Command.targetsOf revisions = targets ∧
        ∀ r ∈ revisions, r.after = { r.before with description }) ↔
      ∀ link ∈ links, link.IsTight := by
  rw [ofText_remove_written hfirst hlinks] at h
  simp only [Reading.map_eq_read_iff, Reading.ofExcept_eq_read_iff, Action.execute.injEq,
    exists_eq_right] at h
  rw [ofText_edit_written hfirst hlinks hx]
  simp only [Reading.map_eq_read_iff, Action.execute.injEq, exists_eq_right]
  constructor
  · rintro ⟨revisions, hedit, htargets, hafter⟩
    by_contra hloose
    -- there is a task to be described, and it gets another description
    obtain ⟨r, rest, hcons⟩ : ∃ r rest, revisions = r :: rest := by
      refine List.exists_cons_of_ne_nil ?_
      rintro rfl
      obtain ⟨_, hnamed, heq⟩ := remove_spec h
      obtain rfl := Command.remove.inj heq
      subst htargets
      exact ne_nil_of_resolve_written hfirst hnamed.resolve rfl
    have hr : r ∈ revisions := hcons ▸ List.mem_cons_self ..
    refine description_of_edit hfirst hlinks hx hloose hedit r hr ?_
    rw [hafter r hr]
  · intro htight
    refine ⟨_, edit_of_tight hfirst hlinks hx htight h, ?_, ?_⟩
    · simp [Command.targetsOf, Function.comp_def]
    · intro r hr
      obtain ⟨target, -, rfl⟩ := List.mem_map.mp hr
      rfl

/-- A range with blanks around its dash and a keyword behind a comma. -/
theorem milk_to_tea_described :
    let now : DateTime := ⟨⟨20000, by decide, by decide⟩, .midnight⟩
    let l : TaskList := { tasks :=
      [{ description := "milk" }, { description := "bread" }, { description := "tea" }] }
    let links : List Link := [{ before := [' '], sign := '-', after := [' '], word := ['2'] },
      { sign := ',', after := [' '], word := "max".toList }]
    let targets : List Target := [⟨0, { description := "milk" }⟩, ⟨1, { description := "bread" }⟩,
      ⟨2, { description := "tea" }⟩]
    String.ofList (written ['1'] links) = "1 - 2, max" ∧ IsIdWord ['1'] ∧
      (∀ link ∈ links, link.IsSound) ∧ IsWord "later".toList ∧
      ofText false l ("remove " ++ String.ofList (written ['1'] links)) now
        = .read (.execute (.remove targets)) ∧
      ∃ revisions,
        ofText false l ("edit " ++ String.ofList (written ['1'] links) ++ " \\" ++ "later") now
          = .read (.execute (.edit revisions)) ∧
        Command.targetsOf revisions = targets ∧
        ∀ r ∈ revisions, r.after = { r.before with description := "later" } := by
  intro now l links targets
  have hfirst : IsIdWord ['1'] := by decide
  have hlinks : ∀ link ∈ links, link.IsSound := by decide
  have hx : IsWord "later".toList := by decide
  have htight : ∀ link ∈ links, link.IsTight := by decide
  have hremove : ofText false l ("remove " ++ String.ofList (written ['1'] links)) now
      = .read (.execute (.remove targets)) := by
    decide +kernel
  exact ⟨by decide, hfirst, hlinks, hx, hremove,
    (edit_takes_ids_of_remove hfirst hlinks hx hremove).mpr htight⟩

/-- A blank before a comma cuts the list of an edit, but not the list of a removal. -/
theorem bread_left_out_of_edit :
    let now : DateTime := ⟨⟨20000, by decide, by decide⟩, .midnight⟩
    let l : TaskList := { tasks := [{ description := "milk" }, { description := "bread" }] }
    ofText false l "remove 1 ,2" now = .read (.execute (.remove
        [⟨0, { description := "milk" }⟩, ⟨1, { description := "bread" }⟩])) ∧
      ofText false l "edit 1 ,2 \\x" now = .read (.execute (.edit
        [⟨0, { description := "milk" }, { description := ",2 x" }⟩])) := by
  decide +kernel

end Action

end Agenda
