import Agenda.Language.Refusal
import Agenda.Text.Decimal
import Agenda.Text.LowerCase
import Agenda.Text.Word

/-!
# Lists of ids

Tasks are named by their numbers in the current list, counted from one: single ids such as `3`,
ranges such as `4-6`, and the words `last`, `max`, `all` and `everything`. A list of such tokens
names a set of tasks, which is answered in ascending order.
-/

namespace Agenda

open Text

/-- What ids can refer to: the number of tasks and the place of the task added last. -/
structure IdScope where
  total : Nat
  /-- The position, counted from zero, of the task added last. -/
  last : Option Nat := none
  deriving DecidableEq, Repr

namespace IdList

/-- The text without the blanks before each dash. -/
def dropBeforeDashes (text : List Char) : List Char :=
  text.foldr (fun c rest => if isBlank c && rest.head? == some '-' then rest else c :: rest) []

/-- The text without the blanks after each dash. `afterDash` says that only blanks lie between the
text and a dash before it. -/
def dropAfterDashes (afterDash : Bool) : List Char → List Char
  | [] => []
  | c :: cs =>
    if isBlank c && afterDash then dropAfterDashes true cs
    else c :: dropAfterDashes (c = '-') cs

/-- The text without the blanks on both sides of each dash. -/
def tightenDashes (text : List Char) : List Char :=
  dropAfterDashes false (dropBeforeDashes text)

/-- The tokens of an id list, in lower case. -/
def tokens (s : String) : List (List Char) :=
  pieces (fun c => c == ',' || isBlank c) (lower (tightenDashes (trim s.toList)))

/-- The id that a single token names, whether or not there is such a task. -/
def number (context : IdScope) (token : List Char) : Except Refusal Nat :=
  if token = "last".toList then
    match context.last with
    | some position => .ok (position + 1)
    | none => .error .nothingAdded
  else if token = "max".toList then
    if context.total = 0 then .error .emptyList else .ok context.total
  else
    match readWord? token with
    | some n => .ok n
    | none => .error (.malformedId (String.ofList token))

/-- The id of a task that a single token names. -/
def single (context : IdScope) (token : List Char) : Except Refusal Nat :=
  match number context token with
  | .error cause => .error cause
  | .ok id =>
    if id = 0 ∨ context.total < id then .error (.unknownId id context.total) else .ok id

/-- The ids that a token names, as a first and a last one. -/
def range (context : IdScope) (token : List Char) : Except Refusal (Nat × Nat) :=
  if token = "all".toList ∨ token = "everything".toList then
    if context.total = 0 then .error .emptyList else .ok (1, context.total)
  else
    match fields (· == '-') token with
    | [id] => (single context id).map fun id => (id, id)
    | [first, last] =>
      if first.isEmpty || last.isEmpty then .error (.malformedRange (String.ofList token))
      else
        match single context first with
        | .error cause => .error cause
        | .ok first =>
          match single context last with
          | .error cause => .error cause
          | .ok last =>
            if last < first then .error (.descendingRange first last) else .ok (first, last)
    | _ => .error (.malformedRange (String.ofList token))

/-- The ranges that the tokens name; the first token that names none refuses the list. -/
def ranges (context : IdScope) : List (List Char) → Except Refusal (List (Nat × Nat))
  | [] => .ok []
  | token :: rest =>
    match range context token with
    | .error cause => .error cause
    | .ok first =>
      match ranges context rest with
      | .error cause => .error cause
      | .ok more => .ok (first :: more)

/-- The union of two ascending lists, each number once. -/
def union : List Nat → List Nat → List Nat
  | [], ys => ys
  | x :: xs, [] => x :: xs
  | x :: xs, y :: ys =>
    if x < y then x :: union xs (y :: ys)
    else if y < x then y :: union (x :: xs) ys
    else x :: union xs ys
  termination_by xs ys => xs.length + ys.length

/-- The ids that ranges hold, ascending and each once. -/
def members (named : List (Nat × Nat)) : List Nat :=
  named.foldr (fun (first, last) ids => union (List.range' first (last + 1 - first)) ids) []

/-- The ids that a list names, ascending and each once. -/
def resolve (s : String) (context : IdScope) : Except Refusal (List Nat) :=
  (ranges context (tokens s)).map members

/-! ### Unions -/

/-- A union holds what one of the lists holds. -/
theorem mem_union {i : Nat} (xs ys : List Nat) : i ∈ union xs ys ↔ i ∈ xs ∨ i ∈ ys := by
  fun_induction union xs ys with
  | case1 => simp
  | case2 => simp
  | case3 x xs y ys h ih => simp [ih, or_assoc]
  | case4 x xs y ys h h' ih => simp [ih]; grind
  | case5 x xs y ys h h' ih =>
    have : x = y := by omega
    subst this
    simp [ih]; grind

/-- The union of ascending lists is ascending. -/
theorem pairwise_union (xs ys : List Nat) (hx : xs.Pairwise (· < ·)) (hy : ys.Pairwise (· < ·)) :
    (union xs ys).Pairwise (· < ·) := by
  fun_induction union xs ys with
  | case1 => exact hy
  | case2 => exact hx
  | case3 x xs y ys h ih =>
    refine List.pairwise_cons.2 ⟨fun i hi => ?_, ih (List.pairwise_cons.1 hx).2 hy⟩
    rcases (mem_union _ _).1 hi with hi | hi
    · exact (List.pairwise_cons.1 hx).1 i hi
    · rcases List.mem_cons.1 hi with rfl | hi
      · exact h
      · exact Nat.lt_trans h ((List.pairwise_cons.1 hy).1 i hi)
  | case4 x xs y ys h h' ih =>
    refine List.pairwise_cons.2 ⟨fun i hi => ?_, ih hx (List.pairwise_cons.1 hy).2⟩
    rcases (mem_union _ _).1 hi with hi | hi
    · rcases List.mem_cons.1 hi with rfl | hi
      · exact h'
      · exact Nat.lt_trans h' ((List.pairwise_cons.1 hx).1 i hi)
    · exact (List.pairwise_cons.1 hy).1 i hi
  | case5 x xs y ys h h' ih =>
    have hxy : x = y := by omega
    refine List.pairwise_cons.2
      ⟨fun i hi => ?_, ih (List.pairwise_cons.1 hx).2 (List.pairwise_cons.1 hy).2⟩
    rcases (mem_union _ _).1 hi with hi | hi
    · exact (List.pairwise_cons.1 hx).1 i hi
    · exact hxy ▸ (List.pairwise_cons.1 hy).1 i hi

end IdList

end Agenda
