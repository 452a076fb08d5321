import Mathlib.Data.List.Chain
import Mathlib.Data.List.Infix

/-! Byte stuffing with a doubled end mark.

A frame is the header, the payload with every mark preceded by the escape, and
the footer twice. The receiver cuts the stream behind two consecutive footers
and does not look at escapes, so a payload that ends in a footer is cut one
element early and the last footer is carried into the next message.
-/

set_option autoImplicit false

namespace TvcHopper.Machine.Stuffing

variable {α : Type}

structure Marks (α : Type) where
  header : α
  escape : α
  footer : α
  header_ne_escape : header ≠ escape
  header_ne_footer : header ≠ footer
  escape_ne_footer : escape ≠ footer

variable [DecidableEq α] (marks : Marks α)

def Marks.IsMark (symbol : α) : Prop :=
  symbol = marks.escape ∨ symbol = marks.footer ∨ symbol = marks.header

instance (symbol : α) : Decidable (marks.IsMark symbol) :=
  inferInstanceAs (Decidable (_ ∨ _ ∨ _))

def stuff : List α → List α
  | [] => []
  | symbol :: rest =>
    if marks.IsMark symbol then marks.escape :: symbol :: stuff rest else symbol :: stuff rest

def frame (payload : List α) : List α :=
  marks.header :: stuff marks payload ++ [marks.footer, marks.footer]

/-- Undo the stuffing, up to the last two elements. -/
def unstuff : List α → List α
  | first :: second :: third :: rest =>
    if first = marks.escape then second :: unstuff (third :: rest)
    else first :: unstuff (second :: third :: rest)
  | _ => []

/-- The payload of a message: its first element is skipped, not checked. -/
def extract (message : List α) : List α := unstuff marks (message.drop 1)

/-- Cut a stream into messages; the second component is what is still buffered. -/
def cut : List α → List α → List (List α) × List α
  | buffered, [] => ([], buffered)
  | buffered, symbol :: rest =>
    if buffered.getLast? = some marks.footer ∧ symbol = marks.footer then
      ((buffered ++ [symbol]) :: (cut [] rest).1, (cut [] rest).2)
    else cut (buffered ++ [symbol]) rest

variable {marks}

theorem stuff_append (first rest : List α) :
    stuff marks (first ++ rest) = stuff marks first ++ stuff marks rest := by
  induction first with
  | nil => rfl
  | cons symbol first ih =>
    by_cases special : marks.IsMark symbol <;> simp [stuff, special, ih]

theorem getLast?_stuff (payload : List α) : (stuff marks payload).getLast? = payload.getLast? := by
  -- from the end, since an escape stands in front of its mark
  induction payload using List.reverseRecOn with
  | nil => rfl
  | append_singleton payload symbol _ =>
    by_cases special : marks.IsMark symbol <;> simp [stuff_append, stuff, special]

theorem length_stuff (payload : List α) :
    (stuff marks payload).length = payload.length + payload.countP (marks.IsMark ·) := by
  induction payload with
  | nil => rfl
  | cons symbol payload ih =>
    by_cases special : marks.IsMark symbol <;> simp [stuff, special, ih] <;> omega

theorem length_frame (payload : List α) :
    (frame marks payload).length = payload.length + payload.countP (marks.IsMark ·) + 3 := by
  simp [frame, length_stuff]

/-! ## Extraction -/

theorem unstuff_escape (symbol : α) {tail : List α} (more : tail ≠ []) :
    unstuff marks (marks.escape :: symbol :: tail) = symbol :: unstuff marks tail := by
  cases tail with
  | nil => exact absurd rfl more
  | cons third rest => simp [unstuff]

theorem unstuff_plain {symbol : α} {tail : List α} (plain : symbol ≠ marks.escape)
    (more : 2 ≤ tail.length) : unstuff marks (symbol :: tail) = symbol :: unstuff marks tail := by
  match tail, more with
  | second :: third :: rest, _ => simp [unstuff, plain]

theorem unstuff_stuff (payload tail : List α) (more : 2 ≤ tail.length) :
    unstuff marks (stuff marks payload ++ tail) = payload ++ unstuff marks tail := by
  induction payload with
  | nil => rfl
  | cons symbol payload ih =>
    -- the decoder takes an element only when two more follow
    have long : 2 ≤ (stuff marks payload ++ tail).length := by
      rw [List.length_append]
      omega
    by_cases special : marks.IsMark symbol
    · have nonempty : stuff marks payload ++ tail ≠ [] := List.ne_nil_of_length_pos (by omega)
      simp only [stuff, if_pos special, List.cons_append]
      rw [unstuff_escape symbol nonempty, ih]
    · have plain : symbol ≠ marks.escape := fun same => special (Or.inl same)
      simp only [stuff, if_neg special, List.cons_append]
      rw [unstuff_plain plain long, ih]

theorem extract_frame (payload : List α) : extract marks (frame marks payload) = payload := by
  have body : unstuff marks (stuff marks payload ++ [marks.footer, marks.footer]) = payload ++ _ :=
    unstuff_stuff payload _ (by simp)
  simpa [extract, frame, unstuff] using body

variable (marks) in
theorem length_unstuff_le (message : List α) : (unstuff marks message).length ≤ message.length := by
  induction message using unstuff.induct marks with
  | case1 second third rest ih =>
    simp only [unstuff, if_true, List.length_cons] at ih ⊢
    omega
  | case2 first second third rest plain ih =>
    simp only [unstuff, if_neg plain, List.length_cons] at ih ⊢
    omega
  | case3 => simp [unstuff]

/-! ## Messages of any content -/

variable (marks) in
/-- How many symbols come out: an escape counts together with the symbol behind it. -/
def units : List α → Nat
  | [] => 0
  | [_] => 1
  | first :: second :: rest =>
    if first = marks.escape then units rest + 1 else units (second :: rest) + 1

variable (marks) in
/-- The last symbol is an escape, and no symbol is left for it. -/
def dangling : List α → Bool
  | [] => false
  | [last] => decide (last = marks.escape)
  | first :: second :: rest => if first = marks.escape then dangling rest else dangling (second :: rest)

/-- The symbols between the first and the last two. -/
def stuffedPart (message : List α) : List α := (message.drop 1).take (message.length - 3)

theorem length_unstuff (symbols : List α) (first second : α) :
    (unstuff marks (symbols ++ [first, second])).length = units marks symbols := by
  induction symbols using units.induct marks with
  | case1 => rfl
  | case2 last =>
    by_cases escape : last = marks.escape <;> simp [unstuff, units, escape]
  | case3 symbol rest ih =>
    have more : rest ++ [first, second] ≠ [] := by simp
    rw [List.cons_append, List.cons_append, unstuff_escape symbol more, List.length_cons, ih, units, if_pos rfl]
  | case4 symbol next rest plain ih =>
    have more : 2 ≤ (next :: rest ++ [first, second]).length := by simp
    rw [List.cons_append, unstuff_plain plain more, List.length_cons, ih, units, if_neg plain]

variable (marks) in
/-- What comes out was there in this order; an escape that dangles takes the first symbol behind. -/
theorem unstuff_dangling (symbols : List α) (first second : α) :
    ∃ front, front.Sublist symbols ∧ unstuff marks (symbols ++ [first, second]) =
      front ++ if dangling marks symbols then [first] else [] := by
  induction symbols using dangling.induct marks with
  | case1 => exact ⟨[], .slnil, by simp [unstuff, dangling]⟩
  | case2 last =>
    by_cases escape : last = marks.escape
    · exact ⟨[], List.nil_sublist _, by simp [unstuff, dangling, escape]⟩
    · exact ⟨[last], .refl _, by simp [unstuff, dangling, escape]⟩
  | case3 symbol rest ih =>
    obtain ⟨front, sublist, same⟩ := ih
    have more : rest ++ [first, second] ≠ [] := by simp
    refine ⟨symbol :: front, (sublist.cons_cons symbol).cons _, ?_⟩
    rw [List.cons_append, List.cons_append, unstuff_escape symbol more, same, dangling, if_pos rfl, List.cons_append]
  | case4 symbol next rest plain ih =>
    obtain ⟨front, sublist, same⟩ := ih
    have more : 2 ≤ (next :: rest ++ [first, second]).length := by simp
    refine ⟨symbol :: front, sublist.cons_cons symbol, ?_⟩
    rw [List.cons_append, unstuff_plain plain more, same, dangling, if_neg plain, List.cons_append]

variable (marks) in
theorem units_le (symbols : List α) : units marks symbols ≤ symbols.length := by
  induction symbols using units.induct marks with
  | case1 => exact Nat.le_refl _
  | case2 last => exact Nat.le_refl _
  | case3 symbol rest ih =>
    simp only [units, if_true, List.length_cons]
    omega
  | case4 symbol next rest plain ih =>
    simp only [units, if_neg plain, List.length_cons] at ih ⊢
    omega

theorem units_plain {symbols : List α} (plain : marks.escape ∉ symbols) : units marks symbols = symbols.length := by
  induction symbols using units.induct marks with
  | case1 => rfl
  | case2 last => rfl
  | case3 symbol rest ih => exact absurd (List.mem_cons_self ..) plain
  | case4 symbol next rest other ih =>
    rw [units, if_neg other, ih fun member => plain (List.mem_cons_of_mem _ member)]
    rfl

omit [DecidableEq α] in
theorem length_stuffedPart (message : List α) : (stuffedPart message).length = message.length - 3 := by
  simp only [stuffedPart, List.length_take, List.length_drop]
  omega

omit [DecidableEq α] in
theorem drop_one_eq_stuffedPart {message : List α} (long : 3 ≤ message.length) :
    ∃ last, message.drop 1 = stuffedPart message ++ [message[message.length - 2], last] := by
  have rest : (message.drop 1).drop (message.length - 3) =
      [message[message.length - 2], message[message.length - 1]] := by
    have place : 1 + (message.length - 3) = message.length - 2 := by omega
    have next : message.length - 2 + 1 = message.length - 1 := by omega
    have done : message.length - 1 + 1 = message.length := by omega
    rw [List.drop_drop, place, List.drop_eq_getElem_cons (by omega)]
    simp only [next]
    rw [List.drop_eq_getElem_cons (by omega), done, List.drop_length]
  exact ⟨_, by rw [stuffedPart, ← rest, List.take_append_drop]⟩

theorem unstuff_short {symbols : List α} (short : symbols.length < 3) : unstuff marks symbols = [] := by
  match symbols, short with
  | [], _ | [_], _ | [_, _], _ => rfl

theorem length_extract (message : List α) : (extract marks message).length = units marks (stuffedPart message) := by
  by_cases long : 3 ≤ message.length
  · obtain ⟨last, same⟩ := drop_one_eq_stuffedPart long
    rw [extract, same, length_unstuff]
  · have nothing : stuffedPart message = [] := List.eq_nil_of_length_eq_zero (by rw [length_stuffedPart]; omega)
    rw [extract, unstuff_short (by rw [List.length_drop]; omega), nothing]
    rfl

/-! ## Cutting -/

variable (marks) in
/-- No footer directly behind a footer. -/
def Single (symbols : List α) : Prop :=
  symbols.IsChain fun first second => ¬(first = marks.footer ∧ second = marks.footer)

theorem single_stuff (first : α) (payload : List α) :
    Single marks (first :: stuff marks payload) := by
  induction payload generalizing first with
  | nil => exact .singleton first
  | cons symbol payload ih =>
    -- an escape separates a mark from what is in front of it
    by_cases special : marks.IsMark symbol
    · simp only [stuff, if_pos special]
      refine .cons_cons (fun both => marks.escape_ne_footer both.2) (.cons_cons ?_ (ih symbol))
      exact fun both => marks.escape_ne_footer both.1
    · have plain : symbol ≠ marks.footer := fun same => special (Or.inr (Or.inl same))
      simp only [stuff, if_neg special]
      exact .cons_cons (fun both => plain both.2) (ih symbol)

omit [DecidableEq α] in
theorem single_append {first rest : List α} :
    Single marks (first ++ rest) ↔ Single marks first ∧ Single marks rest ∧
      ¬(first.getLast? = some marks.footer ∧ rest.head? = some marks.footer) := by
  simp only [Single, List.isChain_append, Option.mem_def]
  refine and_congr_right fun _ => and_congr_right fun _ => ⟨?_, ?_⟩
  · rintro apart ⟨last, head⟩
    exact apart _ last _ head ⟨rfl, rfl⟩
  · rintro apart _ last _ head ⟨rfl, rfl⟩
    exact apart ⟨last, head⟩

theorem cut_through {buffered first : List α} (rest : List α)
    (single : Single marks (buffered ++ first)) :
    cut marks buffered (first ++ rest) = cut marks (buffered ++ first) rest := by
  induction first generalizing buffered with
  | nil => simp
  | cons symbol first ih =>
    have grown : Single marks (buffered ++ [symbol] ++ first) := by simpa using single
    have apart : ¬(buffered.getLast? = some marks.footer ∧ symbol = marks.footer) := by
      simpa using (single_append.mp single).2.2
    simp only [List.cons_append, cut, if_neg apart]
    simpa using ih grown

variable (marks) in
/-- Every symbol of the stream finds fewer than `limit` symbols in the buffer. -/
def Within (limit : Nat) : List α → List α → Prop
  | _, [] => True
  | buffered, symbol :: rest => buffered.length < limit ∧
    if buffered.getLast? = some marks.footer ∧ symbol = marks.footer then Within limit [] rest
    else Within limit (buffered ++ [symbol]) rest

theorem within_through {limit : Nat} {buffered first rest : List α}
    (single : Single marks (buffered ++ first)) (room : (buffered ++ first).length ≤ limit)
    (later : Within marks limit (buffered ++ first) rest) :
    Within marks limit buffered (first ++ rest) := by
  induction first generalizing buffered with
  | nil => simpa using later
  | cons symbol first ih =>
    have grown : Single marks (buffered ++ [symbol] ++ first) := by simpa using single
    have apart : ¬(buffered.getLast? = some marks.footer ∧ symbol = marks.footer) := by
      simpa using (single_append.mp single).2.2
    simp only [List.cons_append, Within, if_neg apart]
    simp only [List.length_append, List.length_cons] at room
    exact ⟨by omega, ih grown (by simp; omega) (by simpa using later)⟩

theorem within_rest {limit : Nat} {buffered first rest : List α} (single : Single marks (buffered ++ first))
    (within : Within marks limit buffered (first ++ rest)) : Within marks limit (buffered ++ first) rest := by
  induction first generalizing buffered with
  | nil => simpa using within
  | cons symbol first ih =>
    have grown : Single marks (buffered ++ [symbol] ++ first) := by simpa using single
    have apart : ¬(buffered.getLast? = some marks.footer ∧ symbol = marks.footer) := by
      simpa using (single_append.mp single).2.2
    simp only [List.cons_append, Within, if_neg apart] at within
    simpa using ih grown within.2

variable (marks) in
def endsInFooter (payload : List α) : Bool := decide (payload.getLast? = some marks.footer)

variable (marks) in
/-- What is buffered when a frame starts: nothing, or the footer its predecessor left. -/
def opening (carry : Bool) : List α := if carry then [marks.footer] else []

/-- `body` is a frame up to the place where the receiver sees its end: a footer is missing,
and behind a payload that ends in a footer one more. -/
structure Split (marks : Marks α) (payload body : List α) : Prop where
  whole : frame marks payload = body ++ marks.footer :: opening marks (endsInFooter marks payload)
  last : body.getLast? = some marks.footer
  head : body.head? = some marks.header
  single : Single marks body
  extracted : extract marks (body ++ [marks.footer]) = payload

theorem split_footer (payload : List α) : Split marks (payload ++ [marks.footer])
    (marks.header :: stuff marks payload ++ [marks.escape, marks.footer]) where
  whole := by
    simp [frame, stuff_append, stuff, Marks.IsMark, endsInFooter, opening]
  last := by simp [List.getLast?_cons]
  head := by simp
  single := by
    have stuffed : stuff marks [marks.footer] = [marks.escape, marks.footer] := by
      simp [stuff, Marks.IsMark]
    rw [List.cons_append, ← stuffed, ← stuff_append]
    exact single_stuff _ _
  extracted := by
    have body : unstuff marks (stuff marks payload ++ [marks.escape, marks.footer, marks.footer]) =
        payload ++ _ := unstuff_stuff payload _ (by simp)
    simpa [extract, unstuff] using body

theorem split_plain {payload : List α} (plain : payload.getLast? ≠ some marks.footer) :
    Split marks payload (marks.header :: stuff marks payload ++ [marks.footer]) where
  whole := by simp [frame, endsInFooter, opening, plain]
  last := by simp [List.getLast?_cons]
  head := by simp
  single := by
    refine single_append.mpr ⟨single_stuff _ _, .singleton _, ?_⟩
    -- the stuffed payload ends as the payload does, or else with the header
    rintro ⟨last, -⟩
    rw [List.getLast?_cons, getLast?_stuff, Option.some.injEq] at last
    cases ends : payload.getLast? with
    | none => exact marks.header_ne_footer (by simpa [ends] using last)
    | some symbol => exact plain (by simpa [ends] using last)
  extracted := by
    have body : unstuff marks (stuff marks payload ++ [marks.footer, marks.footer]) = payload ++ _ :=
      unstuff_stuff payload _ (by simp)
    simpa [extract, unstuff] using body

variable (marks) in
theorem exists_split (payload : List α) : ∃ body, Split marks payload body := by
  by_cases ends : payload.getLast? = some marks.footer
  · obtain ⟨init, rfl⟩ := List.getLast?_eq_some_iff.mp ends
    exact ⟨_, split_footer init⟩
  · exact ⟨_, split_plain ends⟩

theorem Split.extracted_carried {payload body : List α} (split : Split marks payload body) :
    extract marks (marks.footer :: (body ++ [marks.footer])) = marks.header :: payload := by
  obtain ⟨inner, rfl⟩ : ∃ inner, body = marks.header :: inner := by
    simpa [List.head?_eq_some_iff] using split.head
  have long : 2 ≤ (inner ++ [marks.footer]).length := by
    cases inner with
    | nil => exact absurd (by simpa using split.last) marks.header_ne_footer
    | cons _ _ => simp
  -- the carried footer is skipped in place of the header
  have extracted := split.extracted
  simp only [extract, List.cons_append, List.drop_succ_cons, List.drop_zero] at extracted ⊢
  rw [unstuff_plain marks.header_ne_escape long, extracted]

theorem Split.extracted_opening {payload body : List α} (split : Split marks payload body) (carry : Bool) :
    extract marks (opening marks carry ++ body ++ [marks.footer]) =
      if carry then marks.header :: payload else payload := by
  cases carry with
  | false => simpa [opening] using split.extracted
  | true => simpa [opening] using split.extracted_carried

theorem Split.single_opening {payload body : List α} (split : Split marks payload body) (carry : Bool) :
    Single marks (opening marks carry ++ body) := by
  refine single_append.mpr ⟨?_, split.single, ?_⟩
  · cases carry <;> simp [opening, Single]
  · rintro ⟨-, head⟩
    exact marks.header_ne_footer (Option.some.inj (split.head.symm.trans head))

theorem Split.ended {payload body : List α} (split : Split marks payload body) (carry : Bool) :
    (opening marks carry ++ body).getLast? = some marks.footer := by
  rw [List.getLast?_append, split.last, Option.some_or]

omit [DecidableEq α] in
theorem single_opening (carry : Bool) : Single marks ([] ++ opening marks carry) := by
  cases carry <;> simp [opening, Single]

theorem cut_frame {payload body : List α} (split : Split marks payload body) (carry : Bool)
    (rest : List α) :
    cut marks (opening marks carry) (frame marks payload ++ rest) =
      ((opening marks carry ++ body ++ [marks.footer]) ::
          (cut marks (opening marks (endsInFooter marks payload)) rest).1,
        (cut marks (opening marks (endsInFooter marks payload)) rest).2) := by
  rw [split.whole, List.append_assoc, cut_through _ (split.single_opening carry), List.cons_append, cut,
    if_pos ⟨split.ended carry, rfl⟩, cut_through rest (single_opening _), List.nil_append]

theorem within_frame {limit : Nat} {payload rest : List α} {carry : Bool}
    (room : (frame marks payload).length < limit)
    (later : Within marks limit (opening marks (endsInFooter marks payload)) rest) :
    Within marks limit (opening marks carry) (frame marks payload ++ rest) := by
  obtain ⟨body, split⟩ := exists_split marks payload
  have short (carry : Bool) : (opening marks carry).length ≤ 1 := by cases carry <;> simp [opening]
  have fits : (opening marks carry ++ body).length < limit := by
    have whole := congrArg List.length split.whole
    have carried := short carry
    simp only [List.length_append, List.length_cons] at whole ⊢
    omega
  rw [split.whole, List.append_assoc]
  refine within_through (split.single_opening carry) (Nat.le_of_lt fits) ?_
  simp only [List.cons_append, Within, fits, true_and]
  rw [if_pos ⟨split.ended carry, trivial⟩]
  -- behind the end of the message at most one footer is left of the frame
  refine within_through (single_opening _) ?_ (by simpa using later)
  have carried := short (endsInFooter marks payload)
  rw [List.nil_append]
  omega

/-! ## Streams of frames -/

variable (marks) in
/-- The payloads the receiver extracts, given whether a footer was carried into the first. -/
def received : Bool → List (List α) → List (List α)
  | _, [] => []
  | carry, payload :: payloads =>
    (if carry then marks.header :: payload else payload) ::
      received (endsInFooter marks payload) payloads

theorem extract_cut_frames (carry : Bool) (payloads : List (List α)) :
    (cut marks (opening marks carry) (payloads.flatMap (frame marks))).1.map (extract marks) =
      received marks carry payloads := by
  induction payloads generalizing carry with
  | nil => cases carry <;> rfl
  | cons payload payloads ih =>
    obtain ⟨body, split⟩ := exists_split marks payload
    rw [List.flatMap_cons, cut_frame split, List.map_cons, ih, split.extracted_opening, received]

theorem within_frames {limit : Nat} (carry : Bool) (payloads : List (List α))
    (room : ∀ payload ∈ payloads, (frame marks payload).length < limit) :
    Within marks limit (opening marks carry) (payloads.flatMap (frame marks)) := by
  induction payloads generalizing carry with
  | nil => cases carry <;> trivial
  | cons payload payloads ih =>
    rw [List.flatMap_cons]
    exact within_frame (room payload (by simp)) (ih _ fun other member => room other (by simp [member]))

variable (marks) in
theorem received_eq_iff (carry : Bool) (payloads : List (List α)) :
    received marks carry payloads = payloads ↔
      (payloads ≠ [] → carry = false) ∧
        ∀ payload ∈ payloads.dropLast, payload.getLast? ≠ some marks.footer := by
  induction payloads generalizing carry with
  | nil => simp [received]
  | cons payload payloads ih =>
    have first : (if carry then marks.header :: payload else payload) = payload ↔ carry = false := by
      cases carry <;> simp
    simp only [received, List.cons.injEq, first, ih, ne_eq, reduceCtorEq, not_false_eq_true,
      forall_const, endsInFooter, decide_eq_false_iff_not]
    cases payloads with
    | nil => simp
    | cons second payloads => simp [List.dropLast]

end TvcHopper.Machine.Stuffing
