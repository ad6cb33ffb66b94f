import Agenda.Proofs.Language.Body

/-!
# Bodies read back from their words

A body can be written down word by word: the words of the description, then an `@` and the words of
each time, all of them after a backslash, and anywhere between them the words for the changes of
tags and for the time that is to be dropped (`Body.IsArranged`). Whatever the arrangement, the body
is read back from it, and a body that is read from any text at all can be written in this way, since
its parts are made of words (`Body.IsRegular`). `ofText_arranged` says both.

Each of the words stands for one piece. The pieces of tags and dropped times mean the same wherever
they stand, and the segments of a body do not see them (`segments_of_interleaved`).
-/

namespace Agenda

open Text

/-! ### Interleaved lists -/

/-- A list has the items of two other lists in it, each of them in its order. -/
inductive Interleaved {α : Type} : List α → List α → List α → Prop
  | nil : Interleaved [] [] []
  | left {x : α} {xs ys zs : List α} (h : Interleaved xs ys zs) : Interleaved (x :: xs) ys (x :: zs)
  | right {y : α} {xs ys zs : List α} (h : Interleaved xs ys zs) :
    Interleaved xs (y :: ys) (y :: zs)

namespace Interleaved

variable {α β : Type} {xs ys zs : List α}

/-- Lists are interleaved in the order in which they stand for interleaved lists. -/
theorem exists_forall₂ {R : α → β → Prop} {ps qs : List β} (h : Interleaved xs ys zs)
    (hxs : List.Forall₂ R xs ps) (hys : List.Forall₂ R ys qs) :
    ∃ rs, List.Forall₂ R zs rs ∧ Interleaved ps qs rs := by
  -- what the items stand for is put together side by side with the items
  induction h generalizing ps qs with
  | nil =>
    cases hxs
    cases hys
    exact ⟨[], .nil, .nil⟩
  | left _ ih =>
    cases hxs with
    | cons hx hxs =>
      obtain ⟨rs, hzs, hrs⟩ := ih hxs hys
      exact ⟨_, .cons hx hzs, hrs.left⟩
  | right _ ih =>
    cases hys with
    | cons hy hys =>
      obtain ⟨rs, hzs, hrs⟩ := ih hxs hys
      exact ⟨_, .cons hy hzs, hrs.right⟩

theorem symm (h : Interleaved xs ys zs) : Interleaved ys xs zs := by
  induction h with
  | nil => exact .nil
  | left _ ih => exact ih.right
  | right _ ih => exact ih.left

/-- Lists are interleaved when one of them comes before the other. -/
theorem append (xs ys : List α) : Interleaved xs ys (xs ++ ys) := by
  induction xs with
  | cons x xs ih => exact ih.left
  | nil =>
    induction ys with
    | nil => exact .nil
    | cons y ys ih => exact ih.right

theorem mem_iff {x : α} (h : Interleaved xs ys zs) : x ∈ zs ↔ x ∈ xs ∨ x ∈ ys := by
  induction h with
  | nil => simp
  | left _ ih => simp only [List.mem_cons, ih, or_assoc]
  | right _ ih => simp only [List.mem_cons, ih, or_left_comm]

/-- What a filter drops in the first list makes no difference to it. -/
theorem filterMap_eq_right {f : α → Option β} (h : Interleaved xs ys zs)
    (hxs : ∀ x ∈ xs, f x = none) : zs.filterMap f = ys.filterMap f := by
  induction h with
  | nil => rfl
  | left _ ih =>
    obtain ⟨hx, hxs⟩ := List.forall_mem_cons.mp hxs
    rw [List.filterMap_cons, hx]
    exact ih hxs
  | right _ ih => rw [List.filterMap_cons, List.filterMap_cons, ih hxs]

theorem filterMap_eq_left {f : α → Option β} (h : Interleaved xs ys zs)
    (hys : ∀ y ∈ ys, f y = none) : zs.filterMap f = xs.filterMap f :=
  h.symm.filterMap_eq_right hys

end Interleaved

namespace Body

/-! ### Writing bodies word by word -/

/-- A text is made of words with single spaces between them. -/
def IsJoined (s : String) : Prop :=
  ∃ ws, (∀ w ∈ ws, IsWord w) ∧ s = String.ofList (unwords ws)

/-- The parts of a body are made of words, and its tags have names that can be written. -/
structure IsRegular (body : Body) : Prop where
  description : IsJoined body.description
  times : ∀ time ∈ body.times, IsJoined time
  tags : ∀ change ∈ body.tags, change.IsNamed

/-- The words of a text, each after a backslash. -/
def escaped (s : String) : List (List Char) :=
  (words s.toList).map ('\\' :: ·)

/-- The words for the description and the times of a body. -/
def spelled (body : Body) : List (List Char) :=
  escaped body.description ++ body.times.flatMap fun time => ['@'] :: escaped time

/-- Words are those of a body, with the words for the changes of tags and the dropped time anywhere
between the others. -/
def IsArranged (body : Body) (ws : List (List Char)) : Prop :=
  ∃ marks,
    Interleaved (body.tags.map TagChange.word) (if body.dropsTime then [['-', '@']] else []) marks ∧
    Interleaved body.spelled marks ws

/-- The marks can all be written at the end. -/
theorem exists_isArranged (body : Body) : ∃ ws, body.IsArranged ws :=
  ⟨_, _, .append _ _, .append _ _⟩

variable {body : Body} {ws : List (List Char)} {pieces : List Piece}

theorem IsJoined.unwords_words {s : String} (h : IsJoined s) :
    String.ofList (unwords (words s.toList)) = s := by
  obtain ⟨ws, hws, rfl⟩ := h
  rw [String.toList_ofList, words_unwords hws]

/-! ### From words to pieces -/

theorem forall₂_escaped (s : String) :
    List.Forall₂ StandsFor (escaped s) ((words s.toList).map .word) :=
  forall₂_map fun _ hw => standsFor_escaped (isWord_of_mem_words hw)

/-- The pieces for the description and the times of a body. -/
def spelledPieces (body : Body) : List Piece :=
  (words body.description.toList).map .word ++
    body.times.flatMap fun time => .cut :: (words time.toList).map .word

theorem forall₂_spelled (body : Body) :
    List.Forall₂ StandsFor body.spelled body.spelledPieces := by
  have htimes : ∀ times : List String, List.Forall₂ StandsFor
      (times.flatMap fun time => ['@'] :: escaped time)
      (times.flatMap fun time => .cut :: (words time.toList).map .word) := by
    intro times
    induction times with
    | nil => exact .nil
    | cons time rest ih =>
      rw [List.flatMap_cons, List.flatMap_cons]
      exact List.rel_append (.cons standsFor_at (forall₂_escaped time)) ih
  exact List.rel_append (forall₂_escaped body.description) (htimes body.times)

/-! ### From pieces to the body -/

/-- The segments do not see what is only between their words. -/
theorem segments_of_interleaved {ps qs rs : List Piece} (h : Interleaved ps qs rs)
    (hqs : ∀ q ∈ qs, ∀ rest, segments (q :: rest) = segments rest) : segments rs = segments ps := by
  induction h with
  | nil => rfl
  | @left p ps qs rs _ ih =>
    cases p <;> simp only [segments, ih hqs]
  | right _ ih =>
    obtain ⟨hq, hqs⟩ := List.forall_mem_cons.mp hqs
    rw [hq, ih hqs]

theorem segments_spelledPieces (body : Body) : segments body.spelledPieces =
    (words body.description.toList, body.times.map fun time => words time.toList) := by
  have htimes : ∀ times : List String,
      segments (times.flatMap fun time => .cut :: (words time.toList).map .word)
        = ([], times.map fun time => words time.toList) := by
    intro times
    induction times with
    | nil => rfl
    | cons time rest ih =>
      rw [List.flatMap_cons, List.cons_append, segments, segments_word_append, ih, List.append_nil]
      rfl
  rw [spelledPieces, segments_word_append, htimes, List.append_nil]

theorem tagChanges_arranged {marks : List Piece}
    (hmarks : Interleaved (body.tags.map .tag) (if body.dropsTime then [.dropTime] else []) marks)
    (h : Interleaved body.spelledPieces marks pieces) : tagChanges pieces = body.tags := by
  unfold tagChanges
  rw [h.filterMap_eq_right, hmarks.filterMap_eq_left, List.filterMap_map]
  · exact List.filterMap_some
  · intro piece hpiece
    split at hpiece
    · rw [List.mem_singleton.mp hpiece]
    · cases hpiece
  · intro piece hpiece
    simp only [spelledPieces, List.mem_append, List.mem_map, List.mem_flatMap, List.mem_cons]
      at hpiece
    rcases hpiece with ⟨_, -, rfl⟩ | ⟨_, -, rfl | ⟨_, -, rfl⟩⟩ <;> rfl

theorem dropsTime_arranged {marks : List Piece}
    (hmarks : Interleaved (body.tags.map .tag) (if body.dropsTime then [.dropTime] else []) marks)
    (h : Interleaved body.spelledPieces marks pieces) :
    pieces.contains .dropTime = body.dropsTime := by
  have hmem : .dropTime ∈ pieces ↔ body.dropsTime = true := by
    -- only the marks can hold the dropped time
    rw [h.mem_iff, hmarks.mem_iff]
    cases body.dropsTime <;> simp [spelledPieces]
  rw [Bool.eq_iff_iff, List.contains_iff_mem, hmem]

/-- **Arranged pieces make up the body.** -/
theorem ofPieces_arranged {marks : List Piece} (hregular : body.IsRegular)
    (hmarks : Interleaved (body.tags.map .tag) (if body.dropsTime then [.dropTime] else []) marks)
    (h : Interleaved body.spelledPieces marks pieces) : ofPieces pieces = body := by
  have hsegments : segments pieces = segments body.spelledPieces := by
    refine segments_of_interleaved h fun piece hpiece rest => ?_
    rcases hmarks.mem_iff.mp hpiece with hpiece | hpiece
    · obtain ⟨_, -, rfl⟩ := List.mem_map.mp hpiece
      rfl
    · split at hpiece
      · rw [List.mem_singleton.mp hpiece]
        rfl
      · cases hpiece
  have htimes : (body.times.map fun time => words time.toList).map
      (fun segment => String.ofList (unwords segment)) = body.times := by
    rw [List.map_map]
    conv_rhs => rw [← List.map_id body.times]
    exact List.map_congr_left fun time htime => (hregular.times time htime).unwords_words
  unfold ofPieces
  rw [hsegments, segments_spelledPieces, tagChanges_arranged hmarks h, dropsTime_arranged hmarks h]
  simp only [hregular.description.unwords_words, htimes]

/-! ### From bodies to words -/

/-- The words in segments are pieces. -/
theorem mem_of_mem_segments : (∀ w ∈ (segments pieces).1, .word w ∈ pieces) ∧
    ∀ segment ∈ (segments pieces).2, ∀ w ∈ segment, .word w ∈ pieces := by
  induction pieces with
  | nil => simp [segments]
  | cons piece rest ih =>
    obtain ⟨hfirst, hmore⟩ := ih
    cases piece with
    | word text =>
      refine ⟨fun w hw => ?_, fun segment hsegment w hw =>
        List.mem_cons_of_mem _ (hmore segment hsegment w hw)⟩
      rcases List.mem_cons.mp hw with rfl | hw
      · exact List.mem_cons_self ..
      · exact List.mem_cons_of_mem _ (hfirst w hw)
    | cut =>
      refine ⟨List.forall_mem_nil _, fun segment hsegment w hw => List.mem_cons_of_mem _ ?_⟩
      rcases List.mem_cons.mp hsegment with rfl | hsegment
      · exact hfirst w hw
      · exact hmore segment hsegment w hw
    | tag change =>
      exact ⟨fun w hw => List.mem_cons_of_mem _ (hfirst w hw),
        fun segment hsegment w hw => List.mem_cons_of_mem _ (hmore segment hsegment w hw)⟩
    | dropTime =>
      exact ⟨fun w hw => List.mem_cons_of_mem _ (hfirst w hw),
        fun segment hsegment w hw => List.mem_cons_of_mem _ (hmore segment hsegment w hw)⟩

/-- **A body that is read from a text is regular.** -/
theorem isRegular_of_ofText {text : String} (h : ofText text = .ok body) : body.IsRegular := by
  have htags : ∀ change ∈ body.tags, change.IsNamed := fun _ => isNamed_of_mem_tags h
  obtain ⟨pieces, hpieces, rfl⟩ := exists_of_ofText h
  -- no word without blanks has a piece with a blank in it
  have hword : ∀ w, .word w ∈ pieces → IsWord w := by
    intro w hw
    obtain ⟨word, hmem, some, hsome, hw⟩ := exists_of_mem_piecesOfWords hpieces hw
    exact isWord_of_mem_piecesOfWord hsome (isWord_of_mem_words hmem).not_blank hw
  obtain ⟨hfirst, hmore⟩ := @mem_of_mem_segments pieces
  refine ⟨⟨_, fun w hw => hword w (hfirst w hw), rfl⟩, ?_, htags⟩
  intro time htime
  obtain ⟨segment, hsegment, rfl⟩ := List.mem_map.mp htime
  exact ⟨segment, fun w hw => hword w (hmore segment hsegment w hw), rfl⟩

/-- **Bodies are read back from their words, and all bodies have words.** The words of a regular
body, in any arrangement and with any blanks between them, are read as this body, and every body
that is read from a text is regular, so that it can be written in this way. -/
theorem ofText_arranged :
    (∀ (body : Body) (ws : List (List Char)), body.IsRegular → body.IsArranged ws →
      ofText (String.ofList (unwords ws)) = .ok body ∧
      ∀ text : String, words text.toList = ws → ofText text = .ok body) ∧
    ∀ (text : String) (body : Body), ofText text = .ok body →
      body.IsRegular ∧ ∃ ws, body.IsArranged ws := by
  refine ⟨?_, fun _ body h => ⟨isRegular_of_ofText h, exists_isArranged body⟩⟩
  rintro body ws hregular ⟨marks, hmarks, hws⟩
  have hdrop : List.Forall₂ StandsFor (if body.dropsTime then [['-', '@']] else [])
      (if body.dropsTime then [.dropTime] else []) := by
    split
    · exact .cons ⟨by decide, rfl⟩ .nil
    · exact .nil
  have htags : List.Forall₂ StandsFor (body.tags.map TagChange.word) (body.tags.map .tag) :=
    forall₂_map fun change hchange => standsFor_word (hregular.tags change hchange)
  -- each word stands for one piece, and the pieces are arranged like the words
  obtain ⟨ps, hps, hmarkPieces⟩ := hmarks.exists_forall₂ htags hdrop
  obtain ⟨pieces, hpieces, harranged⟩ := hws.exists_forall₂ (forall₂_spelled body) hps
  have hread : ∀ text : String, words text.toList = ws → ofText text = .ok body := by
    intro text htext
    unfold ofText
    rw [htext, piecesOfWords_of_forall₂ hpieces]
    exact congrArg _ (ofPieces_arranged hregular hmarkPieces harranged)
  refine ⟨hread _ ?_, hread⟩
  rw [String.toList_ofList]
  exact words_unwords (isWord_of_forall₂ hpieces)

/-- A body with signs in its words, an empty time and all kinds of marks, some of them before the
words and some between them. -/
theorem noon_read_back :
    let body : Body :=
      { description := "by @noon"
        times := ["2pm #x", ""]
        tags := [.remove "old", .clear, .add "c#"]
        dropsTime := true }
    let ws := ["#-old", "\\by", "-#", "\\@noon", "@", "\\2pm", "-@", "\\#x", "#c#", "@"].map
      String.toList
    body.IsRegular ∧ body.IsArranged ws ∧
      ofText "#-old \\by -# \\@noon @ \\2pm -@ \\#x #c# @" = .ok body := by
  intro body ws
  have hdescription : IsJoined "by @noon" :=
    ⟨[['b', 'y'], ['@', 'n', 'o', 'o', 'n']], by decide, by decide⟩
  have htime : IsJoined "2pm #x" := ⟨[['2', 'p', 'm'], ['#', 'x']], by decide, by decide⟩
  have hempty : IsJoined "" := ⟨[], by decide, by decide⟩
  have htimes : ∀ time ∈ ["2pm #x", ""], IsJoined time :=
    List.forall_mem_cons.mpr ⟨htime, List.forall_mem_singleton.mpr hempty⟩
  have hregular : body.IsRegular := ⟨hdescription, htimes, by decide⟩
  have hspelled : body.spelled
      = ["\\by", "\\@noon", "@", "\\2pm", "\\#x", "@"].map String.toList := by
    decide
  have harranged : body.IsArranged ws := by
    refine ⟨["#-old", "-#", "-@", "#c#"].map String.toList, ?_, ?_⟩
    · exact .left (.left (.right (.left .nil)))
    · rw [hspelled]
      exact .right (.left (.right (.left (.left (.left (.right (.left (.right (.left .nil)))))))))
  exact ⟨hregular, harranged, (ofText_arranged.1 body ws hregular harranged).2 _ (by decide)⟩

end Body

end Agenda
