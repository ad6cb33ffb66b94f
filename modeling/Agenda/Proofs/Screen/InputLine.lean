import Agenda.Proofs.Screen.Run
import Agenda.Proofs.Session.Answers
import Agenda.Proofs.Text.Bytes
import Agenda.Screen.Keyboard

/-!
# The input line

The input line of a console is a text with a cursor in it, and it is edited as such a text is. What
this means is said by an editor that keeps the characters before the cursor apart from those behind
it (`Editor`). An event of a console presses one key of the editor or none (`Console.Event.key?`),
and the input line and its cursor are those of the editor at any time (`Console.showsLine_after`).

The cursor counts characters, while a text in UTF-8 is changed by bytes. A character that is typed
or deleted by bytes, at the byte that the cursor stands for, gives the same line
(`Console.typeInBytes?_eq`, `Console.backspaceInBytes?_eq`), since that byte never lies within a
character. The keys of a terminal edit by bytes, so whatever is typed there makes a run of the
console (`Console.pressAll_eq_after`).
-/

namespace Agenda

open Text

/-! ### An editor -/

/-- A line with a cursor in it: the characters before the cursor, the nearest one first, and those
behind the cursor. -/
structure Editor where
  before : List Char := []
  behind : List Char := []

namespace Editor

/-- What can be done to a line. -/
inductive Key where
  /-- A character is put in before the cursor. -/
  | insert (ch : Char)
  /-- The character before the cursor is deleted. -/
  | delete
  /-- The cursor moves over the character before it. -/
  | left
  /-- The cursor moves over the character behind it. -/
  | right
  /-- The line is emptied. -/
  | clear

/-- The line after a key. -/
def press (e : Editor) : Key → Editor
  | .insert ch => { e with before := ch :: e.before }
  | .delete => { e with before := e.before.tail }
  | .left =>
    match e.before with
    | ch :: rest => ⟨rest, ch :: e.behind⟩
    | [] => e
  | .right =>
    match e.behind with
    | ch :: rest => ⟨ch :: e.before, rest⟩
    | [] => e
  | .clear => {}

/-- The whole line. -/
def text (e : Editor) : List Char :=
  e.before.reverse ++ e.behind

/-- The number of characters before the cursor. -/
def cursor (e : Editor) : ℕ :=
  e.before.length

theorem cursor_le_length (e : Editor) : e.cursor ≤ e.text.length := by
  unfold cursor text
  rw [List.length_append, List.length_reverse]
  exact Nat.le_add_right _ _

end Editor

namespace Console

variable {c c' : Console} {e : Editor} {now : DateTime}

/-! ### Keys of a console -/

/-- The key of the editor that an event presses. To escape empties the line unless it closes a
panel, and to submit the line empties it unless there is no answer, which leaves all as it was. -/
def Event.key? (c : Console) : Event → Option Editor.Key
  | .typeChar ch => some (.insert ch)
  | .backspace => some .delete
  | .left => some .left
  | .right => some .right
  | .escape => if c.panel.isNone then some .clear else none
  | .submit now => if (c.submit now).isSome then some .clear else none
  | _ => none

/-- The keys that events press, one after the other. -/
def keys (c : Console) : List Event → List Editor.Key
  | [] => []
  | event :: rest => (event.key? c).toList ++ (c.step event).keys rest

/-- The input line and its cursor are those of an editor. -/
structure ShowsLine (c : Console) (e : Editor) : Prop where
  input : c.input = e.text
  cursor : c.cursor = e.cursor

theorem ShowsLine.congr (h : c.ShowsLine e) (hinput : c'.input = c.input)
    (hcursor : c'.cursor = c.cursor) : c'.ShowsLine e :=
  ⟨hinput.trans h.input, hcursor.trans h.cursor⟩

theorem ShowsLine.cursor_le (h : c.ShowsLine e) : c.cursor ≤ c.input.length := by
  rw [h.input, h.cursor]
  exact e.cursor_le_length

/-! ### Each key -/

theorem insertIdx_length_append (before behind : List Char) (ch : Char) :
    (before ++ behind).insertIdx before.length ch = before ++ ch :: behind := by
  induction before with
  | nil => rfl
  | cons first rest ih => exact congrArg (first :: ·) ih

theorem showsLine_typeChar (h : c.ShowsLine e) (ch : Char) :
    (c.typeChar ch).ShowsLine (e.press (.insert ch)) where
  input := by
    show c.input.insertIdx c.cursor ch = (ch :: e.before).reverse ++ e.behind
    rw [h.input, h.cursor, Editor.text, Editor.cursor, ← List.length_reverse,
      insertIdx_length_append, List.reverse_cons, List.append_assoc]
    rfl
  cursor := congrArg (· + 1) h.cursor

theorem showsLine_backspace (h : c.ShowsLine e) : c.backspace.ShowsLine (e.press .delete) := by
  obtain ⟨before, behind⟩ := e
  have hcursor : c.cursor = before.length := h.cursor
  unfold backspace
  cases before with
  | nil =>
    have hzero : c.cursor = 0 := hcursor
    rw [if_pos hzero]
    exact h
  | cons ch rest =>
    rw [if_neg (hcursor.trans_ne (Nat.succ_ne_zero _))]
    refine ⟨?_, congrArg (· - 1) hcursor⟩
    show c.input.eraseIdx (c.cursor - 1) = rest.reverse ++ behind
    -- the character before the cursor is the last one of those before it
    have hlast : c.cursor - 1 = rest.reverse.length := by
      rw [hcursor, List.length_reverse]
      rfl
    have hinput : c.input = rest.reverse ++ ch :: behind := by
      rw [h.input, Editor.text, List.reverse_cons, List.append_assoc]
      rfl
    rw [hinput, hlast, List.eraseIdx_append_of_length_le le_rfl, Nat.sub_self]
    rfl

theorem showsLine_left (h : c.ShowsLine e) : c.left.ShowsLine (e.press .left) := by
  obtain ⟨before, behind⟩ := e
  have hcursor : c.cursor = before.length := h.cursor
  cases before with
  | nil => exact ⟨h.input, congrArg (· - 1) hcursor⟩
  | cons ch rest =>
    refine ⟨?_, congrArg (· - 1) hcursor⟩
    show c.input = rest.reverse ++ ch :: behind
    rw [h.input, Editor.text, List.reverse_cons, List.append_assoc]
    rfl

theorem showsLine_right (h : c.ShowsLine e) : c.right.ShowsLine (e.press .right) := by
  obtain ⟨before, behind⟩ := e
  have hcursor : c.cursor = before.length := h.cursor
  have hlength : c.input.length = before.length + behind.length := by
    rw [h.input, Editor.text, List.length_append, List.length_reverse]
  unfold right
  cases behind with
  | nil =>
    rw [if_neg (by rw [hcursor, hlength]; exact Nat.lt_irrefl _)]
    exact h
  | cons ch rest =>
    rw [if_pos (by rw [hcursor, hlength]; exact Nat.lt_add_of_pos_right (Nat.succ_pos _))]
    refine ⟨?_, congrArg (· + 1) hcursor⟩
    show c.input = (ch :: before).reverse ++ rest
    rw [h.input, Editor.text, List.reverse_cons, List.append_assoc]
    rfl

theorem showsLine_clearInput (c : Console) : c.clearInput.ShowsLine {} :=
  ⟨rfl, rfl⟩

theorem showsLine_escape (h : c.ShowsLine e) :
    c.escape.ShowsLine (((Event.escape.key? c).map e.press).getD e) := by
  unfold escape Event.key?
  cases c.panel with
  | none => exact c.showsLine_clearInput
  | some panel => exact h.congr rfl rfl

/-! ### Lines -/

theorem showsLine_react (h : c.ShowsLine e) (now : DateTime) (request : Option Request) :
    (c.react now request).ShowsLine e := by
  cases request with
  | none => exact h
  | some request =>
    cases request with
    | showTasks title views => exact h.congr (input_setRows _ _) (cursor_setRows _ _)
    | hide | help | about | settings | exit => exact h.congr rfl rfl

/-- An answer leaves the input line alone. -/
theorem showsLine_answer (h : c.ShowsLine e) (now : DateTime) (reply : Reply) :
    (c.answer now reply).ShowsLine e := by
  obtain ⟨status, title, hidden, hanswer⟩ := c.exists_answer_eq now reply
  rw [hanswer]
  refine showsLine_react ?_ now reply.request
  exact h.congr rfl rfl

theorem showsLine_submitLine {text : String} (h : c.ShowsLine e)
    (hanswer : c.submitLine text now = some c') : c'.ShowsLine e := by
  obtain ⟨⟨reply, session⟩, -, rfl⟩ := Option.map_eq_some_iff.mp hanswer
  have hsession : ({ c with session } : Console).ShowsLine e := h.congr rfl rfl
  exact showsLine_answer hsession now reply

/-- A line that is submitted and answered leaves the input line empty. -/
theorem showsLine_submit (hanswer : c.submit now = some c') : c'.ShowsLine {} := by
  unfold submit at hanswer
  dsimp only at hanswer
  split at hanswer
  · cases hanswer
    exact c.showsLine_clearInput
  · exact showsLine_submitLine c.showsLine_clearInput hanswer

/-- Every line is answered on days with a day before and seven days after them. -/
theorem isSome_submit (c : Console) (hbefore : (now.date.addDays? (-1)).isSome)
    (hafter : (now.date.addDays? 7).isSome) : (c.submit now).isSome := by
  unfold submit
  dsimp only
  split
  · rfl
  · obtain ⟨reply, session, hrun⟩ :=
      c.session.exists_run (String.ofList (trim c.input)) hbefore hafter
    unfold submitLine
    rw [Option.isSome_map]
    exact Option.isSome_iff_exists.mpr ⟨_, hrun⟩

/-! ### Runs -/

theorem showsLine_sync (h : c.ShowsLine e) (now : DateTime) : (c.sync now).ShowsLine e := by
  rcases c.sync_cases now with ⟨entries, hsync⟩ | hsync
  · rw [hsync]
    exact h.congr (input_setRows _ _) (cursor_setRows _ _)
  · rw [hsync]
    exact h.congr rfl rfl

/-- **An event does to the input line what its key does to the editor.** -/
theorem showsLine_step (h : c.ShowsLine e) (event : Event) :
    (c.step event).ShowsLine (((event.key? c).map e.press).getD e) := by
  cases event with
  | typeChar ch => exact showsLine_typeChar h ch
  | backspace => exact showsLine_backspace h
  | left => exact showsLine_left h
  | right => exact showsLine_right h
  | escape => exact showsLine_escape h
  | submit now =>
    have hkey : (Event.submit now).key? c
        = if (c.submit now).isSome then some .clear else none := rfl
    show ((c.submit now).getD c).ShowsLine _
    rw [hkey]
    -- a line without an answer stays, so no key is pressed
    cases hanswer : c.submit now with
    | none => exact h
    | some c' => exact showsLine_submit hanswer
  | line text now =>
    show ((c.submitLine text now).getD c).ShowsLine e
    cases hanswer : c.submitLine text now with
    | none => exact h
    | some c' => exact showsLine_submitLine h hanswer
  | next =>
    show c.next.ShowsLine e
    unfold next
    split
    · exact h
    · split <;> exact h.congr rfl rfl
  | previous =>
    show c.previous.ShowsLine e
    unfold previous
    split
    · exact h
    · split <;> exact h.congr rfl rfl
  | sync now => exact showsLine_sync h now
  | remind now =>
    rw [step_remind]
    split
    · exact h.congr rfl rfl
    · exact h
  | draw width height => exact h.congr rfl rfl
  | outside change => exact h.congr rfl rfl

/-- **The input line is that of the editor after the keys of a run.** -/
theorem showsLine_after (h : c.ShowsLine e) (events : List Event) :
    (c.after events).ShowsLine ((c.keys events).foldl Editor.press e) := by
  -- the editor goes along, and an event without a key leaves it where it is
  induction events generalizing c e with
  | nil => exact h
  | cons event rest ih =>
    have hrest := ih (showsLine_step h event)
    show ((c.step event).after rest).ShowsLine (List.foldl _ _ (_ ++ _))
    rw [List.foldl_append]
    cases hkey : event.key? c with
    | none =>
      rw [hkey] at hrest
      exact hrest
    | some key =>
      rw [hkey] at hrest
      exact hrest

/-! ### Editing by bytes -/

theorem typeInBytes?_eq (h : c.cursor ≤ c.input.length) (ch : Char) :
    c.typeInBytes? ch = some (c.typeChar ch) := by
  have hinsert : c.input.insertIdx c.cursor ch
      = c.input.take c.cursor ++ ch :: c.input.drop c.cursor := by
    have hlength : (c.input.take c.cursor).length = c.cursor := List.length_take_of_le h
    have happend := insertIdx_length_append (c.input.take c.cursor) (c.input.drop c.cursor) ch
    rw [List.take_append_drop, hlength] at happend
    exact happend
  unfold typeInBytes? typeChar
  rw [insertAt?_byteIndex, Option.map_some, String.toList_ofList, hinsert]

theorem backspaceInBytes?_eq (h : c.cursor ≤ c.input.length) :
    c.backspaceInBytes? = some c.backspace := by
  unfold backspaceInBytes? backspace
  split
  · rfl
  · -- the cursor is behind a character, so there is one to be removed
    have hlt : c.cursor - 1 < c.input.length := by omega
    rw [removeAt?_byteIndex, if_pos hlt, Option.map_some, String.toList_ofList,
      List.eraseIdx_eq_take_drop_succ]

/-! ### The keys of a terminal -/

/-- The event of a key that is pressed at some time. -/
def keyEvent (now : DateTime) : Key → Event
  | .char ch => .typeChar ch
  | .enter => .submit now
  | .backspace => .backspace
  | .left => .left
  | .right => .right
  | .up => .previous
  | .down => .next
  | .escape => .escape

/-- The console after keys; one that has no answer leaves it as it was. -/
def pressAll (c : Console) (keys : List (Key × DateTime)) : Console :=
  keys.foldl (fun c key => (c.press? key.2 key.1).getD c) c

theorem getD_press? (h : c.cursor ≤ c.input.length) (now : DateTime) (key : Key) :
    (c.press? now key).getD c = c.step (keyEvent now key) := by
  cases key with
  | char ch => exact congrArg (·.getD c) (typeInBytes?_eq h ch)
  | backspace => exact congrArg (·.getD c) (backspaceInBytes?_eq h)
  | enter | left | right | up | down | escape => rfl

/-- **What is typed at a terminal makes a run of the console.** -/
theorem pressAll_eq_after (h : c.ShowsLine e) (keys : List (Key × DateTime)) :
    c.pressAll keys = c.after (keys.map fun key => keyEvent key.2 key.1) := by
  -- an editor goes along here as well, since editing by bytes needs the cursor within the line
  induction keys generalizing c e with
  | nil => rfl
  | cons key rest ih =>
    have hrest := ih (showsLine_step h (keyEvent key.2 key.1))
    rw [← getD_press? h.cursor_le] at hrest
    rw [pressAll, List.foldl_cons, ← pressAll, hrest, getD_press? h.cursor_le]
    rfl

/-- **The input line is a text editor.** After any run, the input line and its cursor are those of
the editor after the keys of the run, so the cursor is never behind the end. The byte of any number
of characters does not lie within a character, and typing and deleting by bytes at the cursor go
well and do what they do by characters. A submitted line is answered as well, on days with a day
before and seven days after them. -/
theorem input_line_edited (session : Session) (settings : Settings) (opened : DateTime)
    (events : List Event) :
    let c := (start session settings opened).after events
    let e := ((start session settings opened).keys events).foldl Editor.press {}
    c.input = e.text ∧ c.cursor = e.cursor ∧ c.cursor ≤ c.input.length ∧
      (∀ chars, (byteIndex c.input chars).IsValid (String.ofList c.input)) ∧
      (∀ ch, c.typeInBytes? ch = some (c.typeChar ch)) ∧
      c.backspaceInBytes? = some c.backspace ∧
      ∀ now : DateTime, (now.date.addDays? (-1)).isSome → (now.date.addDays? 7).isSome →
        (c.submit now).isSome := by
  intro c e
  have hstart : (start session settings opened).ShowsLine {} := ⟨rfl, rfl⟩
  have h : c.ShowsLine e := showsLine_after hstart events
  exact ⟨h.input, h.cursor, h.cursor_le, isValid_byteIndex c.input,
    typeInBytes?_eq h.cursor_le, backspaceInBytes?_eq h.cursor_le,
    fun now hbefore hafter => c.isSome_submit hbefore hafter⟩

/-- A character of two bytes is deleted before one of three bytes, and the line is submitted. -/
theorem umlaut_deleted_before_euro :
    let today : Date := ⟨20745, by decide, by decide⟩
    let now : DateTime := today.at ⟨43200 * nanosPerSecond, by decide⟩
    let session : Session :=
      { store := { list := { tasks := [] }, repository := .memory [] false } }
    let events : List Event := [.typeChar 'ü', .typeChar '€', .left, .backspace]
    let c := (start session {} now).after events
    c.input = ['€'] ∧ c.cursor = 0 ∧ c.typeInBytes? 'ö' = some (c.typeChar 'ö') ∧
      (now.date.addDays? (-1)).isSome ∧ (now.date.addDays? 7).isSome ∧ (c.submit now).isSome := by
  intro today now session events c
  have hbefore : (now.date.addDays? (-1)).isSome := by decide
  have hafter : (now.date.addDays? 7).isSome := by decide
  obtain ⟨hinput, hcursor, -, -, htype, -, hsubmit⟩ := input_line_edited session {} now events
  exact ⟨hinput, hcursor, htype 'ö', hbefore, hafter, hsubmit now hbefore hafter⟩

end Console

end Agenda
