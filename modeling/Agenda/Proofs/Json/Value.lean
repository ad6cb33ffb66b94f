import Agenda.Proofs.Json.Number

/-!
# Reading back what was written

A value that has a meaning throughout is read back from its document (`parse?_print`). The proof is
by induction on the value: `Reads` says of a value that it is read back at any depth, whatever
follows, as long as there is more fuel than its text has bytes; arrays and objects get this from
their parts (`items?_render`, `members?_render`).
-/

namespace Agenda.Json

/-- Values without a part that has no meaning. -/
inductive IsMeaningful : Json → Prop
  | null : IsMeaningful null
  | bool (value : Bool) : IsMeaningful (bool value)
  | integer (value : Int) : IsMeaningful (integer value)
  | text (value : String) : IsMeaningful (text value)
  | array {items : List Json} (h : ∀ item ∈ items, IsMeaningful item) : IsMeaningful (array items)
  | object {members : List (String × Json)} (h : ∀ member ∈ members, IsMeaningful member.2) :
    IsMeaningful (object members)

/-- A value is read back from its text at any depth. -/
def Reads (value : Json) : Prop :=
  ∀ (depth fuel : ℕ) (rest : Bytes), (utf8 (render depth value)).length < fuel → EndsNumber rest →
    value? fuel (utf8 (render depth value) ++ rest) = some (value, rest)

variable {fuel : ℕ} {b : UInt8} {bytes bytes' more rest : Bytes}

/-! ### White space -/

theorem skipSpace_cons (hb : isSpace b = false) : skipSpace (b :: more) = b :: more := by
  rw [skipSpace, List.dropWhile_cons, hb]
  rfl

/-- The beginning of a line is white space. -/
theorem skipSpace_newLine (depth : ℕ) (bytes : Bytes) :
    skipSpace (utf8 (newLine depth) ++ bytes) = skipSpace bytes := by
  have hblank : ∀ n, ∀ b ∈ utf8 (List.replicate n ' '), isSpace b = true := by
    intro n
    induction n with
    | zero =>
      intro b hb
      cases hb
    | succ n ih =>
      intro b hb
      rw [List.replicate_succ, utf8_cons, List.mem_append] at hb
      rcases hb with hb | hb
      · rw [List.mem_singleton.mp hb]
        decide
      · exact ih b hb
  have hall : ∀ b ∈ utf8 (newLine depth), isSpace b = true := by
    intro b hb
    rw [newLine, utf8_cons, List.mem_append] at hb
    rcases hb with hb | hb
    · rw [List.mem_singleton.mp hb]
      decide
    · exact hblank _ b hb
  rw [skipSpace, List.dropWhile_append_of_pos hall]
  rfl

theorem value?_congr (h : skipSpace bytes = skipSpace bytes') :
    value? fuel bytes = value? fuel bytes' := by
  cases fuel with
  | zero => rw [value?, value?]
  | succ fuel => rw [value?, value?, h]

theorem value?_space : value? fuel (0x20 :: bytes) = value? fuel bytes :=
  value?_congr rfl

theorem items?_congr (h : skipSpace bytes = skipSpace bytes') :
    items? fuel bytes = items? fuel bytes' := by
  cases fuel with
  | zero => rw [items?, items?]
  | succ fuel => rw [items?, items?, value?_congr h]

theorem members?_congr (h : skipSpace bytes = skipSpace bytes') :
    members? fuel bytes = members? fuel bytes' := by
  cases fuel with
  | zero => rw [members?, members?]
  | succ fuel => rw [members?, members?, h]

/-! ### What follows a value -/

theorem endsNumber_nil : EndsNumber [] := by
  intro b hb
  cases hb

theorem endsNumber_comma (more : Bytes) : EndsNumber (0x2C :: more) := by
  intro b hb
  cases hb
  decide

theorem endsNumber_newLine (depth : ℕ) (more : Bytes) :
    EndsNumber (utf8 (newLine depth) ++ more) := by
  intro b hb
  cases hb
  decide

/-! ### Beginnings of values -/

theorem exists_utf8_toDigits (n : ℕ) :
    ∃ b more, utf8 (Nat.toDigits 10 n) = b :: more ∧ isDigit b = true := by
  cases h : utf8 (Nat.toDigits 10 n) with
  | nil =>
    rw [utf8_toDigits, List.map_eq_nil_iff] at h
    exact absurd h Nat.toDigits_ne_nil
  | cons b more =>
    refine ⟨b, more, rfl, isDigit_of_mem_utf8 (n := n) ?_⟩
    rw [h]
    exact List.mem_cons_self ..

theorem ne_of_isDigit {b' : UInt8} (h : isDigit b = true) (h' : isDigit b' = false) : b ≠ b' := by
  rintro rfl
  rw [h] at h'
  cases h'

theorem isSpace_of_isDigit (h : isDigit b = true) : isSpace b = false := by
  unfold isSpace
  simp only [Bool.or_eq_false_iff, beq_eq_false_iff_ne]
  exact ⟨⟨⟨ne_of_isDigit h (by decide), ne_of_isDigit h (by decide)⟩,
    ne_of_isDigit h (by decide)⟩, ne_of_isDigit h (by decide)⟩

theorem toList_integer (value : Int) : (toString value).toList
    = if value < 0 then '-' :: Nat.toDigits 10 value.natAbs else Nat.toDigits 10 value.natAbs := by
  cases value with
  | ofNat n =>
    have hnot : ¬ Int.ofNat n < 0 := Int.not_lt.mpr (Int.natCast_nonneg n)
    rw [if_neg hnot]
    exact Nat.toList_repr
  | negSucc n =>
    rw [if_pos (Int.negSucc_lt_zero n)]
    show ("-" ++ Nat.repr (n + 1)).toList = _
    rw [String.toList_append, Nat.toList_repr]
    rfl

/-- The text of a value begins with neither white space nor a closing bracket. -/
theorem exists_utf8_render (depth : ℕ) (value : Json) :
    ∃ b more, utf8 (render depth value) = b :: more ∧ isSpace b = false ∧ b ≠ 0x5D := by
  cases value with
  | null => exact ⟨_, _, rfl, by decide, by decide⟩
  | bool value => cases value <;> exact ⟨_, _, rfl, by decide, by decide⟩
  | integer value =>
    obtain ⟨b, more, hdigits, hb⟩ := exists_utf8_toDigits value.natAbs
    -- a minus sign or a digit
    rw [render, toList_integer]
    split
    · exact ⟨_, _, rfl, by decide, by decide⟩
    · exact ⟨b, more, hdigits, isSpace_of_isDigit hb, ne_of_isDigit hb (by decide)⟩
  | text value => exact ⟨_, _, by rw [render]; exact utf8_quoted value, by decide, by decide⟩
  | array items =>
    cases items with
    | nil => exact ⟨_, _, by rw [render]; rfl, by decide, by decide⟩
    | cons item items => exact ⟨_, _, by rw [render]; rfl, by decide, by decide⟩
  | object members =>
    cases members with
    | nil => exact ⟨_, _, by rw [render]; rfl, by decide, by decide⟩
    | cons member members => exact ⟨_, _, by rw [render]; rfl, by decide, by decide⟩
  | other => exact ⟨_, _, rfl, by decide, by decide⟩

/-! ### Single values -/

theorem value?_cons (hb : isSpace b = false) : value? (fuel + 1) (b :: more) =
    if b == byte 'n' then (expect "ull".toList more).map fun rest => (null, rest)
    else if b == byte 't' then (expect "rue".toList more).map fun rest => (bool true, rest)
    else if b == byte 'f' then (expect "alse".toList more).map fun rest => (bool false, rest)
    else if b == byte '-' then number? true more
    else if b == byte '"' then
      (string? more).map fun (contents, rest) => ((contents.map text).getD other, rest)
    else if b == byte '[' then
      match skipSpace more with
      | 0x5D :: rest => some (array [], rest)
      | _ => (items? fuel more).map fun (items, rest) => (array items, rest)
    else if b == byte '\x7b' then
      match skipSpace more with
      | 0x7D :: rest => some (object [], rest)
      | _ => (members? fuel more).map fun (members, rest) => (ofMembers members, rest)
    else number? false (b :: more) := by
  rewrite [value?, skipSpace_cons hb]
  rfl

theorem value?_digit (hb : isDigit b = true) :
    value? (fuel + 1) (b :: more) = number? false (b :: more) := by
  have hne : ∀ b', isDigit b' = false → (b == b') = false := fun b' hb' =>
    beq_eq_false_iff_ne.mpr (ne_of_isDigit hb hb')
  rw [value?_cons (isSpace_of_isDigit hb), hne _ (by decide), hne _ (by decide),
    hne _ (by decide), hne _ (by decide), hne _ (by decide), hne _ (by decide),
    hne _ (by decide)]
  rfl

theorem reads_integer (value : Int) : Reads (integer value) := by
  intro depth fuel rest hfuel hrest
  obtain ⟨fuel, rfl⟩ : ∃ n, fuel = n + 1 := ⟨fuel - 1, by omega⟩
  rw [render, toList_integer]
  split
  · rename_i hneg
    have hread := number?_toDigits true value.natAbs hrest
      fun _ => Int.natAbs_ne_zero.mpr (Int.ne_of_lt hneg)
    have hvalue : -(value.natAbs : Int) = value := by omega
    rw [if_pos rfl, hvalue] at hread
    exact hread
  · rename_i hpos
    have hread := number?_toDigits false value.natAbs hrest
      fun h => absurd h Bool.false_ne_true
    have hvalue : (value.natAbs : Int) = value := by omega
    -- without a sign the first digit is what tells that it is a number
    obtain ⟨b, more, hdigits, hb⟩ := exists_utf8_toDigits value.natAbs
    rw [if_neg Bool.false_ne_true, hvalue] at hread
    rw [hdigits, List.cons_append] at hread ⊢
    rw [value?_digit hb, hread]

theorem reads_text (value : String) : Reads (text value) := by
  intro depth fuel rest hfuel _
  obtain ⟨fuel, rfl⟩ : ∃ n, fuel = n + 1 := ⟨fuel - 1, by omega⟩
  rw [render, utf8_quoted, List.cons_append, List.append_assoc, List.singleton_append]
  show (string? _).map _ = _
  rw [string?_quoted]
  rfl

/-! ### Arrays -/

theorem length_utf8_newLine (depth : ℕ) : 1 ≤ (utf8 (newLine depth)).length := by
  rw [newLine, utf8_cons, List.length_append, String.length_utf8EncodeChar]
  have : (1 : ℕ) ≤ Char.utf8Size '\n' := by decide
  omega

/-- Items that are read back one by one are read back as the items of an array. -/
theorem items?_render {item : Json} {items : List Json} (h : ∀ i ∈ item :: items, Reads i)
    (depth inner : ℕ) (rest : Bytes)
    (hfuel : (utf8 (render inner item ++ renderItems inner items)).length + 1 < fuel) :
    items? fuel
        (utf8 (render inner item ++ renderItems inner items ++ newLine depth) ++ 0x5D :: rest)
      = some (item :: items, rest) := by
  induction items generalizing item fuel with
  | nil =>
    obtain ⟨fuel, rfl⟩ : ∃ n, fuel = n + 1 := ⟨fuel - 1, by omega⟩
    rw [renderItems, List.append_nil] at hfuel ⊢
    have hread := h item (List.mem_cons_self ..) inner fuel
      (utf8 (newLine depth) ++ 0x5D :: rest) (by omega) (endsNumber_newLine _ _)
    rw [utf8_append, List.append_assoc, items?, hread]
    dsimp only
    rw [skipSpace_newLine, skipSpace_cons (by decide)]
    rfl
  | cons next items ih =>
    obtain ⟨fuel, rfl⟩ : ∃ n, fuel = n + 1 := ⟨fuel - 1, by omega⟩
    have hnl := length_utf8_newLine inner
    rw [renderItems] at hfuel
    simp only [utf8_append, utf8_cons, List.length_append, List.cons_append] at hfuel
    -- each item costs one unit of fuel and has at least one byte, so there is enough for the rest
    have hrest := @ih fuel next (fun i hi => h i (List.mem_cons_of_mem _ hi)) (by
      rw [utf8_append, List.length_append]
      omega)
    have hread := h item (List.mem_cons_self ..) inner fuel (0x2C :: (utf8 (newLine inner)
      ++ (utf8 (render inner next ++ renderItems inner items ++ newLine depth) ++ 0x5D :: rest)))
      (by omega) (endsNumber_comma _)
    have htext : utf8 (render inner item ++ renderItems inner (next :: items) ++ newLine depth)
        ++ 0x5D :: rest = utf8 (render inner item) ++ 0x2C :: (utf8 (newLine inner)
        ++ (utf8 (render inner next ++ renderItems inner items ++ newLine depth)
        ++ 0x5D :: rest)) := by
      rw [renderItems]
      simp only [utf8_append, utf8_cons, List.append_assoc, List.cons_append]
      rfl
    rw [htext, items?, hread]
    dsimp only
    rw [skipSpace_cons (by decide)]
    show (items? fuel _).map _ = _
    rw [items?_congr (skipSpace_newLine ..), hrest]
    rfl

/-- A bracket that no other one closes at once opens an array of the items behind it. -/
theorem value?_items {items : List Json} {rest' : Bytes} (hskip : skipSpace more = b :: rest')
    (hclose : b ≠ 0x5D) (hitems : items? fuel more = some (items, rest)) :
    value? (fuel + 1) (0x5B :: more) = some (array items, rest) := by
  rw [value?_cons (by decide), if_neg (by decide), if_neg (by decide), if_neg (by decide),
    if_neg (by decide), if_neg (by decide), if_pos (by decide), hskip]
  split
  · rename_i heq
    exact absurd (List.cons.inj heq).1 hclose
  · rw [hitems]
    rfl

theorem reads_array {items : List Json} (h : ∀ item ∈ items, Reads item) :
    Reads (array items) := by
  intro depth fuel rest hfuel _
  obtain ⟨fuel, rfl⟩ : ∃ n, fuel = n + 1 := ⟨fuel - 1, by omega⟩
  cases items with
  | nil =>
    rw [render]
    rfl
  | cons item items =>
    have hnl := length_utf8_newLine (depth + 1)
    have htext : utf8 (render depth (array (item :: items))) ++ rest
        = 0x5B :: (utf8 (newLine (depth + 1)) ++ (utf8 (render (depth + 1) item
          ++ renderItems (depth + 1) items ++ newLine depth) ++ 0x5D :: rest)) := by
      rw [render]
      simp only [utf8_append, utf8_cons, utf8_nil, List.append_assoc, List.cons_append]
      rfl
    have hlength : (utf8 (render (depth + 1) item ++ renderItems (depth + 1) items)).length + 1
        < fuel := by
      rw [render] at hfuel
      simp only [utf8_append, utf8_cons, utf8_nil, List.length_append, List.cons_append,
        String.length_utf8EncodeChar] at hfuel ⊢
      have hbracket : Char.utf8Size '[' = 1 := by decide
      have hbracket' : Char.utf8Size ']' = 1 := by decide
      omega
    have hread := items?_render h depth (depth + 1) rest hlength
    rw [← items?_congr (skipSpace_newLine ..)] at hread
    rw [htext]
    -- the first item does not begin with a bracket that would close the array
    obtain ⟨b, more, hb, hspace, hclose⟩ := exists_utf8_render (depth + 1) item
    have hskip : ∃ more', skipSpace (utf8 (newLine (depth + 1)) ++ (utf8 (render (depth + 1) item
        ++ renderItems (depth + 1) items ++ newLine depth) ++ 0x5D :: rest)) = b :: more' := by
      rw [skipSpace_newLine, utf8_append, utf8_append, hb, List.cons_append, List.cons_append,
        List.cons_append, skipSpace_cons hspace]
      exact ⟨_, rfl⟩
    obtain ⟨more', hskip⟩ := hskip
    exact value?_items hskip hclose hread

/-! ### Objects -/

/-- The bytes of a member with the bytes of its value. -/
def memberBytes (name : String) (value : Bytes) : Bytes :=
  0x22 :: (utf8 (name.toList.flatMap escapeChar) ++ 0x22 :: 0x3A :: 0x20 :: value)

theorem expect_quote (name : String) (value : Bytes) :
    expect ['"'] (skipSpace (memberBytes name value))
      = some (utf8 (name.toList.flatMap escapeChar) ++ 0x22 :: 0x3A :: 0x20 :: value) := by
  rw [memberBytes, skipSpace_cons (by decide)]
  rfl

theorem expect_colon (value : Bytes) :
    expect [':'] (skipSpace (0x3A :: 0x20 :: value)) = some (0x20 :: value) := by
  rw [skipSpace_cons (by decide)]
  rfl

variable {name : String} {value : Json} {members : List (Option String × Json)} {rest' : Bytes}

/-- The last member of an object. -/
theorem members?_last (hvalue : value? fuel bytes = some (value, rest'))
    (hrest : skipSpace rest' = 0x7D :: rest) :
    members? (fuel + 1) (memberBytes name bytes) = some ([(some name, value)], rest) := by
  rw [members?, expect_quote]
  dsimp only
  rw [string?_quoted]
  dsimp only
  rw [expect_colon]
  dsimp only
  rw [value?_space, hvalue]
  dsimp only
  rw [hrest]
  rfl

/-- A member that others follow. -/
theorem members?_next (hvalue : value? fuel bytes = some (value, rest'))
    (hrest : skipSpace rest' = 0x2C :: more) (hmore : members? fuel more = some (members, rest)) :
    members? (fuel + 1) (memberBytes name bytes) = some ((some name, value) :: members, rest) := by
  rw [members?, expect_quote]
  dsimp only
  rw [string?_quoted]
  dsimp only
  rw [expect_colon]
  dsimp only
  rw [value?_space, hvalue]
  dsimp only
  rw [hrest]
  show (members? fuel more).map _ = _
  rw [hmore]
  rfl

theorem utf8_renderMember (depth : ℕ) (member : String × Json) (bytes : Bytes) :
    utf8 (renderMember depth member) ++ bytes
      = memberBytes member.1 (utf8 (render depth member.2) ++ bytes) := by
  obtain ⟨name, value⟩ := member
  rw [renderMember, memberBytes]
  simp only [utf8_append, utf8_quoted, List.append_assoc, List.cons_append]
  rfl

theorem length_utf8_renderMember (depth : ℕ) (member : String × Json) :
    (utf8 (render depth member.2)).length < (utf8 (renderMember depth member)).length := by
  have h := utf8_renderMember depth member []
  rw [List.append_nil, List.append_nil] at h
  rw [h, memberBytes]
  simp only [List.length_cons, List.length_append]
  omega

/-- Members whose values are read back one by one are read back as the members of an object. -/
theorem members?_render {member : String × Json} {members : List (String × Json)}
    (h : ∀ m ∈ member :: members, Reads m.2) (depth inner : ℕ) (rest : Bytes)
    (hfuel : (utf8 (renderMember inner member ++ renderMembers inner members)).length + 1 < fuel) :
    members? fuel
        (utf8 (renderMember inner member ++ renderMembers inner members ++ newLine depth)
          ++ 0x7D :: rest)
      = some ((member :: members).map fun m => (some m.1, m.2), rest) := by
  have hlt := length_utf8_renderMember inner member
  obtain ⟨fuel, rfl⟩ : ∃ n, fuel = n + 1 := ⟨fuel - 1, by omega⟩
  induction members generalizing member fuel with
  | nil =>
    rw [renderMembers, List.append_nil] at hfuel ⊢
    have hread := h member (List.mem_cons_self ..) inner fuel
      (utf8 (newLine depth) ++ 0x7D :: rest) (by omega) (endsNumber_newLine _ _)
    rw [utf8_append, List.append_assoc, utf8_renderMember]
    refine members?_last hread ?_
    rw [skipSpace_newLine, skipSpace_cons (by decide)]
  | cons next members ih =>
    have hnl := length_utf8_newLine inner
    rw [renderMembers] at hfuel
    simp only [utf8_append, utf8_cons, List.length_append, List.cons_append] at hfuel
    have hread := h member (List.mem_cons_self ..) inner fuel (0x2C :: (utf8 (newLine inner)
      ++ (utf8 (renderMember inner next ++ renderMembers inner members ++ newLine depth)
      ++ 0x7D :: rest))) (by omega) (endsNumber_comma _)
    have htext : utf8 (renderMember inner member ++ renderMembers inner (next :: members)
        ++ newLine depth) ++ 0x7D :: rest = utf8 (renderMember inner member)
        ++ 0x2C :: (utf8 (newLine inner) ++ (utf8 (renderMember inner next
        ++ renderMembers inner members ++ newLine depth) ++ 0x7D :: rest)) := by
      rw [renderMembers]
      simp only [utf8_append, utf8_cons, List.append_assoc, List.cons_append]
      rfl
    obtain ⟨fuel, rfl⟩ : ∃ n, fuel = n + 1 := ⟨fuel - 1, by omega⟩
    have hrest := ih (fun m hm => h m (List.mem_cons_of_mem _ hm))
      (length_utf8_renderMember inner next) fuel (by
        rw [utf8_append, List.length_append]
        omega)
    rw [htext, utf8_renderMember, List.map_cons]
    refine members?_next hread (skipSpace_cons (by decide)) ?_
    rw [members?_congr (skipSpace_newLine ..), hrest]

/-- What is read back one by one is read back as a list. -/
theorem mapM_map_of_forall {α β : Type} {f : α → β} {g : β → Option α}
    (h : ∀ a, g (f a) = some a) (xs : List α) : (xs.map f).mapM g = some xs := by
  induction xs with
  | nil => rfl
  | cons x rest ih =>
    rw [List.map_cons, List.mapM_cons, h x, ih]
    rfl

theorem ofMembers_map (members : List (String × Json)) :
    ofMembers (members.map fun m => (some m.1, m.2)) = object members := by
  have h := mapM_map_of_forall (f := fun m : String × Json => (some m.1, m.2))
    (g := fun m : Option String × Json => m.1.map fun name => (name, m.2)) (fun _ => rfl) members
  unfold ofMembers
  rw [h]

theorem reads_object {members : List (String × Json)} (h : ∀ m ∈ members, Reads m.2) :
    Reads (object members) := by
  intro depth fuel rest hfuel _
  obtain ⟨fuel, rfl⟩ : ∃ n, fuel = n + 1 := ⟨fuel - 1, by omega⟩
  cases members with
  | nil =>
    rw [render]
    rfl
  | cons member members =>
    have hnl := length_utf8_newLine (depth + 1)
    have htext : utf8 (render depth (object (member :: members))) ++ rest
        = 0x7B :: (utf8 (newLine (depth + 1)) ++ (utf8 (renderMember (depth + 1) member
          ++ renderMembers (depth + 1) members ++ newLine depth) ++ 0x7D :: rest)) := by
      rw [render]
      simp only [utf8_append, utf8_cons, utf8_nil, List.append_assoc, List.cons_append]
      rfl
    have hlength : (utf8 (renderMember (depth + 1) member
        ++ renderMembers (depth + 1) members)).length + 1 < fuel := by
      rw [render] at hfuel
      simp only [utf8_append, utf8_cons, utf8_nil, List.length_append, List.cons_append,
        String.length_utf8EncodeChar] at hfuel ⊢
      have hbrace : Char.utf8Size '\x7b' = 1 := by decide
      have hbrace' : Char.utf8Size '\x7d' = 1 := by decide
      omega
    have hread := members?_render h depth (depth + 1) rest hlength
    -- the first member begins with a quote, not with a brace that would close the object
    rw [htext, value?_cons (by decide), members?_congr (skipSpace_newLine ..), hread]
    have hskip : skipSpace (utf8 (newLine (depth + 1)) ++ (utf8 (renderMember (depth + 1) member
        ++ renderMembers (depth + 1) members ++ newLine depth) ++ 0x7D :: rest))
        = utf8 (renderMember (depth + 1) member) ++ (utf8 (renderMembers (depth + 1) members
          ++ newLine depth) ++ 0x7D :: rest) := by
      rw [skipSpace_newLine, List.append_assoc, utf8_append, List.append_assoc, utf8_renderMember,
        memberBytes, skipSpace_cons (by decide)]
    rw [hskip, utf8_renderMember, memberBytes]
    show some (ofMembers _, rest) = _
    rw [ofMembers_map]

/-! ### Documents -/

theorem reads_of_isMeaningful {value : Json} (h : value.IsMeaningful) : Reads value := by
  induction h with
  | null =>
    intro depth fuel rest hfuel _
    obtain ⟨fuel, rfl⟩ : ∃ n, fuel = n + 1 := ⟨fuel - 1, by omega⟩
    rfl
  | bool value =>
    intro depth fuel rest hfuel _
    obtain ⟨fuel, rfl⟩ : ∃ n, fuel = n + 1 := ⟨fuel - 1, by omega⟩
    cases value <;> rfl
  | integer value => exact reads_integer value
  | text value => exact reads_text value
  | array _ ih => exact reads_array ih
  | object _ ih => exact reads_object ih

/-- **A value is read back from the document that was written for it.** -/
theorem parse?_print {value : Json} (h : value.IsMeaningful) :
    parse? (print value).toUTF8.toList = some value := by
  rw [toList_toUTF8, print, String.toList_ofList]
  have hread := reads_of_isMeaningful h 0 (2 * (utf8 (render 0 value)).length + 1) [] (by omega)
    endsNumber_nil
  rw [List.append_nil] at hread
  unfold parse?
  rw [hread]
  rfl

end Agenda.Json
