import TvcHopper.Machine.Stuffing
import TvcHopper.Machine.Memory

/-! The STCP encoder and decoder of `stcp.c`, over its two static buffers.

The abstract code is byte stuffing with the three STCP bytes as marks; the
loops of the C code compute it as long as the static buffers have room.
-/

set_option autoImplicit false

namespace TvcHopper.Stcp
open Machine Machine.Stuffing

abbrev stcpHeaderByte : UInt8 := 0x7A
abbrev stcpEscapeByte : UInt8 := 0x7B
abbrev stcpFooterByte : UInt8 := 0x7F

abbrev StcpStatus := UInt8

abbrev maxPayloadLength : Nat := 128

/-- The static storage for escaped sequences. -/
structure StcpBuffers where
  writePayloadBuffer : Vector UInt8 maxPayloadLength
  readPayloadBuffer : Vector UInt8 maxPayloadLength
  deriving DecidableEq, Repr

/-- The application callbacks, by the status they return. -/
structure StcpCallbacks where
  send : List UInt8 → StcpStatus
  handleMessage : List UInt8 → UInt16 → StcpStatus

variable {n : Nat}

/-- The loop of `StcpEscape`: `remaining` payload bytes from `i` on. -/
def stcpEscapeLoop (buffer : List UInt8) :
    Nat → Nat → Vector UInt8 n → Nat → Except Fault (Vector UInt8 n × Nat)
  | 0, _, output, outputIdx => .ok (output, outputIdx)
  | remaining + 1, i, output, outputIdx => do
    let symbol ← load buffer i
    if symbol = stcpEscapeByte ∨ symbol = stcpFooterByte ∨ symbol = stcpHeaderByte then
      let output ← storeCell output outputIdx stcpEscapeByte
      let output ← storeCell output (outputIdx + 1) symbol
      stcpEscapeLoop buffer remaining (i + 1) output (outputIdx + 2)
    else
      let output ← storeCell output outputIdx symbol
      stcpEscapeLoop buffer remaining (i + 1) output (outputIdx + 1)

/-- Returns the updated size; the escaped bytes are at the start of `writePayloadBuffer`. -/
def stcpEscape (buffers : StcpBuffers) (buffer : List UInt8) (size : UInt16) :
    Except Fault (StcpBuffers × UInt16) := do
  let output ← storeCell buffers.writePayloadBuffer 0 stcpHeaderByte
  let (output, outputIdx) ← stcpEscapeLoop buffer size.toNat 0 output 1
  let output ← storeCell output outputIdx stcpFooterByte
  let output ← storeCell output (outputIdx + 1) stcpFooterByte
  return ({ buffers with writePayloadBuffer := output }, UInt16.ofNat (outputIdx + 2))

/-- The loop of `StcpUnEscape`. The comparison `i < *size - 2` is made in `int`. -/
def stcpUnEscapeLoop (buffer : List UInt8) (size : Nat) :
    Nat → Nat → Vector UInt8 n → Nat → Except Fault (Vector UInt8 n × Nat)
  | 0, _, _, _ => .error .diverges
  | fuel + 1, i, output, outputIdx =>
    if i + 2 < size then do
      let symbol ← load buffer i
      if symbol = stcpEscapeByte then
        -- skip the escape; the byte behind it is not looked at
        let escaped ← load buffer (i + 1)
        let output ← storeCell output outputIdx escaped
        stcpUnEscapeLoop buffer size fuel (i + 2) output (outputIdx + 1)
      else
        let output ← storeCell output outputIdx symbol
        stcpUnEscapeLoop buffer size fuel (i + 1) output (outputIdx + 1)
    else .ok (output, outputIdx)

def stcpUnEscape (buffers : StcpBuffers) (buffer : List UInt8) (size : UInt16) :
    Except Fault (StcpBuffers × UInt16) := do
  let (output, outputIdx) ←
    stcpUnEscapeLoop buffer size.toNat (size.toNat + 1) 1 buffers.readPayloadBuffer 0
  return ({ buffers with readPayloadBuffer := output }, UInt16.ofNat outputIdx)

/-- Returns what is handed to `Send`, and its status. -/
def stcpWrite (callbacks : StcpCallbacks) (buffers : StcpBuffers) (buffer : List UInt8) (size : UInt16) :
    Except Fault (StcpBuffers × List UInt8 × StcpStatus) := do
  let (buffers, size) ← stcpEscape buffers buffer size
  let sent := buffers.writePayloadBuffer.toList.take size.toNat
  return (buffers, sent, callbacks.send sent)

/-- A call of the `HandleMessage` callback: the buffer it can read and the size it is told. -/
structure Handled where
  buffer : List UInt8
  size : UInt16
  deriving DecidableEq, Repr

def Handled.payload (handled : Handled) : List UInt8 := handled.buffer.take handled.size.toNat

def stcpHandleMessage (callbacks : StcpCallbacks) (buffers : StcpBuffers) (buffer : List UInt8)
    (size : UInt16) : Except Fault (StcpBuffers × Handled × StcpStatus) := do
  let (buffers, size) ← stcpUnEscape buffers buffer size
  let handled : Handled := ⟨buffers.readPayloadBuffer.toList, size⟩
  return (buffers, handled, callbacks.handleMessage handled.buffer handled.size)

/-! ## The code as byte stuffing -/

def stcpMarks : Marks UInt8 where
  header := stcpHeaderByte
  escape := stcpEscapeByte
  footer := stcpFooterByte
  header_ne_escape := by decide
  header_ne_footer := by decide
  escape_ne_footer := by decide

theorem isMark_iff (symbol : UInt8) : stcpMarks.IsMark symbol ↔
    symbol = stcpEscapeByte ∨ symbol = stcpFooterByte ∨ symbol = stcpHeaderByte := Iff.rfl

theorem remaining_cons {buffer : List UInt8} {i remaining : Nat} (bound : i < buffer.length) :
    (buffer.drop i).take (remaining + 1) = buffer[i] :: (buffer.drop (i + 1)).take remaining := by
  rw [List.drop_eq_getElem_cons bound, List.take_succ_cons]

theorem stcpEscapeLoop_spec (buffer : List UInt8) (remaining i : Nat) {output : Vector UInt8 n}
    {written : List UInt8} (start : written <+: output.toList) (inside : i + remaining ≤ buffer.length)
    (room : (written ++ stuff stcpMarks ((buffer.drop i).take remaining)).length ≤ n) :
    ∃ output', stcpEscapeLoop buffer remaining i output written.length =
        .ok (output', (written ++ stuff stcpMarks ((buffer.drop i).take remaining)).length) ∧
      written ++ stuff stcpMarks ((buffer.drop i).take remaining) <+: output'.toList := by
  -- `written` is what the passes so far put at the front of the output
  induction remaining generalizing i output written with
  | zero => exact ⟨output, by simp [stcpEscapeLoop, stuff], by simpa [stuff] using start⟩
  | succ remaining ih =>
    have bound : i < buffer.length := by omega
    have symbol := load_of_lt buffer i bound
    rw [remaining_cons bound] at room ⊢
    simp only [stcpEscapeLoop, symbol, ok_bind]
    by_cases special : stcpMarks.IsMark buffer[i]
    · rw [if_pos ((isMark_iff _).mp special)]
      simp only [stuff, if_pos special] at room ⊢
      have space : written.length + 2 + (stuff stcpMarks ((buffer.drop (i + 1)).take remaining)).length ≤ n := by
        simp only [List.length_append, List.length_cons] at room
        omega
      obtain ⟨escaped, first, start⟩ := storeCell_extends stcpEscapeByte start (by omega)
      obtain ⟨both, second, start⟩ := storeCell_extends buffer[i] start (by simp; omega)
      obtain ⟨output', rest, done⟩ := ih (i + 1) start (by omega) (by simp; omega)
      refine ⟨output', ?_, by simpa [stcpMarks] using done⟩
      simp only [List.length_append, List.length_singleton] at second rest
      rw [first, ok_bind, second, ok_bind, rest]
      simp only [List.length_append, List.length_cons, Except.ok.injEq, Prod.mk.injEq, true_and]
      omega
    · rw [if_neg (fun mark => special ((isMark_iff _).mpr mark))]
      simp only [stuff, if_neg special] at room ⊢
      have space : written.length + 1 + (stuff stcpMarks ((buffer.drop (i + 1)).take remaining)).length ≤ n := by
        simp only [List.length_append, List.length_cons] at room
        omega
      obtain ⟨one, first, start⟩ := storeCell_extends buffer[i] start (by omega)
      obtain ⟨output', rest, done⟩ := ih (i + 1) start (by omega) (by simp; omega)
      refine ⟨output', ?_, by simpa using done⟩
      simp only [List.length_append, List.length_singleton] at rest
      rw [first, ok_bind, rest]
      simp only [List.length_append, List.length_cons, Except.ok.injEq, Prod.mk.injEq, true_and]
      omega

/-! What is left of a message at index `i`, up to its last two bytes. -/

section Rest
variable {buffer : List UInt8} {size i : Nat} {symbol : UInt8}

theorem rest_cons (here : load buffer i = .ok symbol) (inside : i < size) :
    (buffer.take size).drop i = symbol :: (buffer.take size).drop (i + 1) := by
  obtain ⟨bound, rfl⟩ := List.getElem?_eq_some_iff.mp (load_eq_ok.mp here)
  have within : i < (buffer.take size).length := by
    rw [List.length_take]
    omega
  rw [List.drop_eq_getElem_cons within, List.getElem_take]

theorem unstuff_rest_done (done : ¬i + 2 < size) : unstuff stcpMarks ((buffer.take size).drop i) = [] := by
  apply unstuff_short
  rw [List.length_drop, List.length_take]
  omega

theorem unstuff_rest_plain (inside : size ≤ buffer.length) (more : i + 2 < size) (here : load buffer i = .ok symbol)
    (plain : symbol ≠ stcpEscapeByte) : unstuff stcpMarks ((buffer.take size).drop i) =
      symbol :: unstuff stcpMarks ((buffer.take size).drop (i + 1)) := by
  have long : 2 ≤ ((buffer.take size).drop (i + 1)).length := by
    rw [List.length_drop, List.length_take]
    omega
  rw [rest_cons here (by omega), unstuff_plain plain long]

/-- An escape takes the byte behind it, also the first of the last two. -/
theorem unstuff_rest_escape (inside : size ≤ buffer.length) (more : i + 2 < size)
    (here : load buffer i = .ok stcpEscapeByte) (behind : load buffer (i + 1) = .ok symbol) :
    unstuff stcpMarks ((buffer.take size).drop i) =
      symbol :: unstuff stcpMarks ((buffer.take size).drop (i + 2)) := by
  have left : (buffer.take size).drop (i + 2) ≠ [] := by
    apply List.ne_nil_of_length_pos
    rw [List.length_drop, List.length_take]
    omega
  rw [rest_cons here (by omega), rest_cons behind (by omega)]
  exact unstuff_escape symbol left

end Rest

theorem stcpUnEscapeLoop_spec (buffer : List UInt8) (size fuel i : Nat) {output : Vector UInt8 n}
    {written : List UInt8} (start : written <+: output.toList) (inside : size ≤ buffer.length)
    (positive : 0 < fuel) (enough : size ≤ i + fuel)
    (room : (written ++ unstuff stcpMarks ((buffer.take size).drop i)).length ≤ n) :
    ∃ output', stcpUnEscapeLoop buffer size fuel i output written.length =
        .ok (output', (written ++ unstuff stcpMarks ((buffer.take size).drop i)).length) ∧
      written ++ unstuff stcpMarks ((buffer.take size).drop i) <+: output'.toList := by
  induction fuel generalizing i output written with
  | zero => omega
  | succ fuel ih =>
    by_cases more : i + 2 < size
    · have here := load_of_lt buffer i (by omega)
      have behind := load_of_lt buffer (i + 1) (by omega)
      simp only [stcpUnEscapeLoop, if_pos more, here, ok_bind]
      by_cases escape : buffer[i] = stcpEscapeByte
      · -- the pass takes two bytes
        rw [if_pos escape, behind, ok_bind]
        rw [escape] at here
        rw [unstuff_rest_escape inside more here behind] at room ⊢
        simp only [List.length_append, List.length_cons] at room
        obtain ⟨one, stored, start⟩ := storeCell_extends buffer[i + 1] start (by omega)
        obtain ⟨output', later, done⟩ := ih (i + 2) start (by omega) (by omega) (by simp; omega)
        refine ⟨output', ?_, by simpa using done⟩
        simp only [List.length_append, List.length_singleton] at later
        rw [stored, ok_bind, later]
        simp only [List.length_append, List.length_cons, Except.ok.injEq, Prod.mk.injEq, true_and]
        omega
      · rw [if_neg escape]
        rw [unstuff_rest_plain inside more here escape] at room ⊢
        simp only [List.length_append, List.length_cons] at room
        obtain ⟨one, stored, start⟩ := storeCell_extends buffer[i] start (by omega)
        obtain ⟨output', later, done⟩ := ih (i + 1) start (by omega) (by omega) (by simp; omega)
        refine ⟨output', ?_, by simpa using done⟩
        simp only [List.length_append, List.length_singleton] at later
        rw [stored, ok_bind, later]
        simp only [List.length_append, List.length_cons, Except.ok.injEq, Prod.mk.injEq, true_and]
        omega
    · rw [unstuff_rest_done more]
      exact ⟨output, by simp [stcpUnEscapeLoop, more], by simpa using start⟩

theorem stcpEscape_spec (buffers : StcpBuffers) (buffer : List UInt8) (size : UInt16)
    (inside : size.toNat ≤ buffer.length)
    (room : (frame stcpMarks (buffer.take size.toNat)).length ≤ maxPayloadLength) :
    ∃ buffers' size', stcpEscape buffers buffer size = .ok (buffers', size') ∧
      size'.toNat = (frame stcpMarks (buffer.take size.toNat)).length ∧
      buffers'.writePayloadBuffer.toList.take size'.toNat = frame stcpMarks (buffer.take size.toNat) := by
  have space : (stuff stcpMarks (buffer.take size.toNat)).length + 3 ≤ maxPayloadLength := by
    rwa [length_frame, ← length_stuff] at room
  obtain ⟨headed, head, start⟩ := storeCell_extends stcpHeaderByte
    (List.nil_prefix (l := buffers.writePayloadBuffer.toList)) (by simp)
  obtain ⟨stuffed, loop, start⟩ := stcpEscapeLoop_spec buffer size.toNat 0 start (by omega)
    (by simp only [List.drop_zero, List.length_append, List.length_cons, List.length_nil]; omega)
  simp only [List.drop_zero] at loop start
  obtain ⟨one, first, start⟩ := storeCell_extends stcpFooterByte start (by simp; omega)
  obtain ⟨two, second, start⟩ := storeCell_extends stcpFooterByte start (by simp; omega)
  have built : [] ++ [stcpHeaderByte] ++ stuff stcpMarks (buffer.take size.toNat) ++ [stcpFooterByte] ++
      [stcpFooterByte] = frame stcpMarks (buffer.take size.toNat) := by
    simp [frame, stcpMarks]
  rw [built] at start
  refine ⟨{ buffers with writePayloadBuffer := two },
    UInt16.ofNat (frame stcpMarks (buffer.take size.toNat)).length, ?_, ?_, ?_⟩
  · simp only [List.nil_append, List.length_append, List.length_cons, List.length_nil] at head loop first second
    simp only [stcpEscape, head, loop, first, second, ok_bind, pure_eq_ok]
    simp [frame, Nat.add_comm, Nat.add_left_comm]
  · exact toNat_ofNat16 (Nat.lt_of_le_of_lt room (by decide))
  · rw [toNat_ofNat16 (Nat.lt_of_le_of_lt room (by decide))]
    exact (List.prefix_iff_eq_take.mp start).symm

/-! A message that is escaped has fitted, and nothing behind its frame is written. -/

theorem stcpEscapeLoop_ok {buffer : List UInt8} {remaining i outputIdx outputIdx' : Nat}
    {output output' : Vector UInt8 n}
    (done : stcpEscapeLoop buffer remaining i output outputIdx = .ok (output', outputIdx')) :
    (remaining = 0 ∨ i + remaining ≤ buffer.length) ∧
      outputIdx' = outputIdx + (stuff stcpMarks ((buffer.drop i).take remaining)).length ∧
      ∀ j, outputIdx' ≤ j → output'.toList[j]? = output.toList[j]? := by
  induction remaining generalizing i output outputIdx with
  | zero =>
    obtain ⟨rfl, rfl⟩ := Prod.mk.inj (Except.ok.inj done)
    exact ⟨.inl rfl, by simp [stuff], fun _ _ => rfl⟩
  | succ remaining ih =>
    obtain ⟨symbol, loaded, rest⟩ := bind_eq_ok.mp done
    obtain ⟨bound, rfl⟩ := List.getElem?_eq_some_iff.mp (load_eq_ok.mp loaded)
    rw [remaining_cons bound]
    by_cases special : stcpMarks.IsMark buffer[i]
    · rw [if_pos ((isMark_iff _).mp special)] at rest
      obtain ⟨first, escape, rest⟩ := bind_eq_ok.mp rest
      obtain ⟨second, plain, rest⟩ := bind_eq_ok.mp rest
      obtain ⟨inside, index, behind⟩ := ih rest
      refine ⟨.inr (by omega), ?_, ?_⟩
      · simp only [stuff, if_pos special, List.length_cons]
        omega
      · intro j later
        rw [behind j later, storeCell_elsewhere plain (by omega), storeCell_elsewhere escape (by omega)]
    · rw [if_neg (fun mark => special ((isMark_iff _).mpr mark))] at rest
      obtain ⟨first, plain, rest⟩ := bind_eq_ok.mp rest
      obtain ⟨inside, index, behind⟩ := ih rest
      refine ⟨.inr (by omega), ?_, ?_⟩
      · simp only [stuff, if_neg special, List.length_cons]
        omega
      · intro j later
        rw [behind j later, storeCell_elsewhere plain (by omega)]

theorem stcpEscape_ok {buffers buffers' : StcpBuffers} {buffer : List UInt8} {size size' : UInt16}
    (escapes : stcpEscape buffers buffer size = .ok (buffers', size')) :
    size'.toNat = (frame stcpMarks (buffer.take size.toNat)).length ∧
      buffers'.writePayloadBuffer.toList.take size'.toNat = frame stcpMarks (buffer.take size.toNat) ∧
      ∀ i, size'.toNat ≤ i → buffers'.writePayloadBuffer.toList[i]? = buffers.writePayloadBuffer.toList[i]? := by
  obtain ⟨headed, head, rest⟩ := bind_eq_ok.mp escapes
  obtain ⟨⟨stuffed, outputIdx⟩, loop, rest⟩ := bind_eq_ok.mp rest
  obtain ⟨one, first, rest⟩ := bind_eq_ok.mp rest
  obtain ⟨two, second, rest⟩ := bind_eq_ok.mp rest
  obtain ⟨inside, index, behind⟩ := stcpEscapeLoop_ok loop
  obtain ⟨room, -⟩ := storeCell_eq_ok.mp second
  have whole : (frame stcpMarks (buffer.take size.toNat)).length = outputIdx + 2 := by
    rw [length_frame, ← length_stuff, index, List.drop_zero]
    omega
  -- what was written is known of every message that fits
  obtain ⟨final, size'', escapes', length, written⟩ := stcpEscape_spec buffers buffer size (by omega) (by omega)
  obtain ⟨rfl, rfl⟩ := Prod.mk.inj (Except.ok.inj (escapes'.symm.trans escapes))
  refine ⟨length, written, ?_⟩
  intro i later
  obtain rfl := (Prod.mk.inj (Except.ok.inj rest)).1
  rw [storeCell_elsewhere second (by omega), storeCell_elsewhere first (by omega), behind i (by omega),
    storeCell_elsewhere head (by omega)]

theorem stcpUnEscape_spec (buffers : StcpBuffers) (buffer : List UInt8) (size : UInt16)
    (inside : size.toNat ≤ buffer.length)
    (room : (extract stcpMarks (buffer.take size.toNat)).length ≤ maxPayloadLength) :
    ∃ buffers' size', stcpUnEscape buffers buffer size = .ok (buffers', size') ∧
      size'.toNat = (extract stcpMarks (buffer.take size.toNat)).length ∧
      buffers'.readPayloadBuffer.toList.take size'.toNat = extract stcpMarks (buffer.take size.toNat) := by
  obtain ⟨output, loop, done⟩ := stcpUnEscapeLoop_spec buffer size.toNat (size.toNat + 1) 1
    (List.nil_prefix (l := buffers.readPayloadBuffer.toList)) inside (by omega) (by omega)
    (by simpa [extract] using room)
  rw [List.nil_append] at loop done
  refine ⟨{ buffers with readPayloadBuffer := output },
    UInt16.ofNat (extract stcpMarks (buffer.take size.toNat)).length, ?_, ?_, ?_⟩
  · simp only [List.length_nil] at loop
    simp only [stcpUnEscape, loop, ok_bind, pure_eq_ok, extract]
  · exact toNat_ofNat16 (Nat.lt_of_le_of_lt room (by decide))
  · rw [toNat_ofNat16 (Nat.lt_of_le_of_lt room (by decide))]
    exact (List.prefix_iff_eq_take.mp done).symm

/-- The frame size in terms of the payload: three bytes more, and one for every special byte. -/
def escapedLength (payload : List UInt8) : Nat :=
  payload.length + payload.countP (stcpMarks.IsMark ·) + 3

theorem stcpUnEscape_stcpEscape (buffers : StcpBuffers) (payload rest : List UInt8)
    (fits : escapedLength payload ≤ maxPayloadLength) :
    ∃ escaped size unescaped size',
      stcpEscape buffers (payload ++ rest) (UInt16.ofNat payload.length) = .ok (escaped, size) ∧
      stcpUnEscape escaped escaped.writePayloadBuffer.toList size = .ok (unescaped, size') ∧
      size'.toNat = payload.length ∧
      unescaped.readPayloadBuffer.toList.take size'.toNat = payload := by
  have framed : (frame stcpMarks payload).length ≤ maxPayloadLength := by
    rwa [length_frame]
  have count : (UInt16.ofNat payload.length).toNat = payload.length :=
    toNat_ofNat16 (Nat.lt_of_le_of_lt (m := escapedLength payload) (by simp only [escapedLength]; omega)
      (Nat.lt_of_le_of_lt fits (by decide)))
  have taken : (payload ++ rest).take (UInt16.ofNat payload.length).toNat = payload := by
    rw [count, List.take_left]
  obtain ⟨escaped, size, escapes, length, written⟩ := stcpEscape_spec buffers
    (payload ++ rest) (UInt16.ofNat payload.length) (by simp [count]) (by rwa [taken])
  rw [taken] at length written
  have extracted : extract stcpMarks (escaped.writePayloadBuffer.toList.take size.toNat) = payload := by
    rw [written, extract_frame]
  obtain ⟨unescaped, size', unescapes, length', read⟩ := stcpUnEscape_spec escaped
    escaped.writePayloadBuffer.toList size (by rw [length, Vector.length_toList]; exact framed)
    (by rw [extracted]; simp only [escapedLength] at fits; omega)
  rw [extracted] at length' read
  exact ⟨escaped, size, unescaped, size', escapes, unescapes, length', read⟩

/-- An escaped byte at either end of the payload, and one in the middle. -/
theorem stcpUnEscape_stcpEscape_marks :
    ∃ escaped size unescaped size',
      stcpEscape ⟨.replicate 128 0, .replicate 128 0⟩ ([0x7B, 0x7A, 0x7F] ++ []) 3 = .ok (escaped, size) ∧
      stcpUnEscape escaped escaped.writePayloadBuffer.toList size = .ok (unescaped, size') ∧
      size'.toNat = 3 ∧ unescaped.readPayloadBuffer.toList.take size'.toNat = [0x7B, 0x7A, 0x7F] :=
  stcpUnEscape_stcpEscape ⟨.replicate 128 0, .replicate 128 0⟩ [0x7B, 0x7A, 0x7F] [] (by decide)

end TvcHopper.Stcp
