import Mathlib.Data.List.Infix
import HexOS.Console.Echo
import HexOS.Console.LineEditing

/-!
The screen shows the line.

Buffer, cursor and framebuffer are three stores that only the echo ties together.
`Echoed` says how, counting from the cell the session starts at, with the highest
cell typed into so far; one keystroke keeps it. `screen_agrees` reads the agreement
of screen and buffer off it, after every keystroke of a session.
-/

namespace HexOS.Console

/-! ### One keystroke -/

theorem index_pos_iff {line : List UInt8} {t : Terminal} (holding : Holding line t) :
    t.keyboard.bufferIndex > 0 ↔ line ≠ [] := by
  rw [gt_iff_lt, UInt8.lt_iff_toNat_lt, holding.index, show (0 : UInt8).toNat = 0 from rfl,
    List.length_pos_iff]

/-- A character goes behind the line. -/
theorem holding_character {line : List UInt8} {t : Terminal} (holding : Holding line t)
    (key : Keystroke) (char : key.char ≠ newline) (other : key.char ≠ backspace)
    (short : line.length + 1 ≤ 255) :
    Holding (line ++ [key.char]) (deliver t (.keystroke key)) ∧
      (deliver t (.keystroke key)).makeCode = false := by
  have edit : editLine key.char line = line ++ [key.char] := if_neg other
  have typed := refines_keystroke holding key fun _ => by
    rw [edit, List.length_append]
    exact short
  rwa [Editor.edit, if_neg char, edit] at typed

/-- A keystroke other than Enter, as the screen sees it. -/
theorem keystroke_screen {line : List UInt8} {t : Terminal} (holding : Holding line t)
    (key : Keystroke) (other : key.char ≠ newline) :
    (deliver t (.keystroke key)).screen =
      if key.char = backspace then
        if line ≠ [] then eraseEcho t.screen else (framebufferGetCursor t.screen).2.2
      else typeEcho key.char t.screen := by
  obtain ⟨made, noted, pending⟩ := holding_make holding key
  have same : (keyboardIsr key.make t).screen = t.screen := by
    rw [isr_make _ holding.inputOn]
    exact wipeBuffer_screen t
  have echo := @commitKey_screen (wipeBuffer (keyboardIsr key.make t))
  simp only [wipeBuffer_lastKeyPressed, wipeBuffer_screen, wipeBuffer_bufferIndex, noted, same,
    index_pos_iff made] at echo
  rw [deliver, isr_break _ made.inputOn pending]
  exact echo other

/-! ### What the screen shows -/

/-- From the cell `p0` on the screen shows the line, and blanks up to the cell
`p0 + high`. The rest is as in `before`, and the cursor is behind the line. -/
structure Echoed (p0 : Nat) (before : Nat → UInt8) (high : Nat) (typed : List UInt8) (t : Terminal) :
    Prop where
  holding : Holding typed t
  noKey : t.makeCode = false
  cursor : t.screen.position = p0 + typed.length
  reached : typed.length ≤ high
  shown : ∀ (i : Nat) (inside : i < typed.length), t.screen.memory (2 * (p0 + i)) = typed[i]
  erased : ∀ i, typed.length ≤ i → i < high → t.screen.memory (2 * (p0 + i)) = 0x20
  others : ∀ offset, offset < 2 * p0 ∨ 2 * (p0 + high) ≤ offset →
    t.screen.memory offset = before offset

section

variable {p0 high : Nat} {before : Nat → UInt8} {line : List UInt8} {t : Terminal}

theorem Echoed.type (echoed : Echoed p0 before high line t) {key : Keystroke}
    (char : key.char ≠ newline) (other : key.char ≠ backspace) (short : line.length + 1 ≤ 255)
    (room : p0 + line.length + 1 ≤ 1999) :
    Echoed p0 before (max high (line.length + 1)) (line ++ [key.char])
      (deliver t (.keystroke key)) := by
  have cursor := echoed.cursor
  have reached := echoed.reached
  have screen := keystroke_screen echoed.holding key char
  rw [if_neg other] at screen
  have typed := holding_character echoed.holding key char other short
  have inside : t.screen.position < 80 * 255 := by omega
  have memory := memory_typeEcho key.char inside
  rw [← screen, cursor] at memory
  refine ⟨typed.1, typed.2, ?_, ?_, fun i below => ?_, fun i behind below => ?_,
    fun offset outside => ?_⟩
  · rw [screen, position_typeEcho _ inside, cursor, List.length_append, List.length_singleton]
    omega
  · rw [List.length_append, List.length_singleton]
    omega
  · rw [List.length_append, List.length_singleton] at below
    rw [memory, if_neg (by omega)]
    split
    · rw [List.getElem_append_right (by omega)]
      simp
    · rw [List.getElem_append_left (by omega)]
      exact echoed.shown i (by omega)
  · rw [List.length_append, List.length_singleton] at behind
    rw [memory, if_neg (by omega), if_neg (by omega)]
    exact echoed.erased i (by omega) (by omega)
  · rw [memory, if_neg (by omega), if_neg (by omega)]
    exact echoed.others offset (by omega)

theorem Echoed.erase (echoed : Echoed p0 before high line t) {key : Keystroke}
    (erase : key.char = backspace) (room : p0 + line.length ≤ 1999) :
    Echoed p0 before high line.dropLast (deliver t (.keystroke key)) := by
  have char : key.char ≠ newline := by
    rw [erase]
    decide
  have cursor := echoed.cursor
  have reached := echoed.reached
  have shorter : line.dropLast.length = line.length - 1 := List.length_dropLast
  have index := echoed.holding.index
  have bound := t.keyboard.bufferIndex.toNat_lt
  have edit : editLine key.char line = line.dropLast := if_pos erase
  have screen := keystroke_screen echoed.holding key char
  rw [if_pos erase] at screen
  have erased := refines_keystroke echoed.holding key fun _ => by
    rw [edit, shorter]
    omega
  rw [Editor.edit, if_neg char, edit] at erased
  by_cases empty : line = []
  · rw [if_neg (not_not.mpr empty)] at screen
    subst empty
    refine ⟨erased.1, erased.2, ?_, reached, fun i below => absurd below (Nat.not_lt_zero i),
      fun i behind below => ?_, fun offset outside => ?_⟩
    · rw [screen, position_getCursor]
      exact cursor
    · rw [screen, memory_getCursor]
      exact echoed.erased i behind below
    · rw [screen, memory_getCursor]
      exact echoed.others offset outside
  · have some := List.length_pos_iff.mpr empty
    rw [if_pos empty] at screen
    have inside : t.screen.position < 80 * 256 := by omega
    have memory := memory_eraseEcho inside (by omega)
    rw [← screen, cursor] at memory
    refine ⟨erased.1, erased.2, ?_, by omega, fun i below => ?_, fun i behind below => ?_,
      fun offset outside => ?_⟩
    · rw [screen, position_eraseEcho inside (by omega), cursor]
      omega
    · rw [memory, if_neg (by omega), if_neg (by omega), List.getElem_dropLast]
      exact echoed.shown i (by omega)
    · rw [memory, if_neg (by omega)]
      split
      · rfl
      · exact echoed.erased i (by omega) below
    · rw [memory, if_neg (by omega), if_neg (by omega)]
      exact echoed.others offset outside

end

/-! ### A session -/

def typeKeys (keys : List Keystroke) (t : Terminal) : Terminal :=
  keys.foldl (fun t key => deliver t (.keystroke key)) t

/-- The line the keys leave. -/
def lineOf (keys : List Keystroke) : List UInt8 :=
  keys.foldl (fun line key => editLine key.char line) []

/-- One of the keys was a character, and came when the cursor was at `cell`. -/
def TypedInto (t : Terminal) (keys : List Keystroke) (cell : Nat) : Prop :=
  ∃ typed key, typed ++ [key] <+: keys ∧ key.char ≠ backspace ∧
    cell = (typeKeys typed t).screen.position

/-- The screen after the keys, against the buffer and the screen before. -/
structure ScreenAgrees (p0 : Nat) (t : Terminal) (keys : List Keystroke) : Prop where
  cursor : (typeKeys keys t).screen.position =
    p0 + (typeKeys keys t).keyboard.bufferIndex.toNat
  shows : ∀ i : Fin 256, i.val < (typeKeys keys t).keyboard.bufferIndex.toNat →
    (typeKeys keys t).screen.memory (2 * (p0 + i.val)) = getKeyboardBuffer (typeKeys keys t) i
  blank : ∀ cell, p0 + (typeKeys keys t).keyboard.bufferIndex.toNat ≤ cell →
    TypedInto t keys cell → (typeKeys keys t).screen.memory (2 * cell) = 0x20
  others : ∀ cell, cell < p0 ∨ ¬ TypedInto t keys cell →
    (typeKeys keys t).screen.memory (2 * cell) = t.screen.memory (2 * cell) ∧
    (typeKeys keys t).screen.memory (2 * cell + 1) = t.screen.memory (2 * cell + 1)

/-- No key is Enter, and the line stays below 256 characters and on the screen. -/
structure LineFits (p0 : Nat) (keys : List Keystroke) : Prop where
  noEnter : ∀ key ∈ keys, key.char ≠ newline
  short : ∀ typed, typed <+: keys → (lineOf typed).length ≤ 255
  room : ∀ typed, typed <+: keys → p0 + (lineOf typed).length ≤ 1999

theorem typeKeys_concat (typed : List Keystroke) (key : Keystroke) (t : Terminal) :
    typeKeys (typed ++ [key]) t = deliver (typeKeys typed t) (.keystroke key) :=
  List.foldl_concat _ _ _ _

theorem lineOf_concat (typed : List Keystroke) (key : Keystroke) :
    lineOf (typed ++ [key]) = editLine key.char (lineOf typed) :=
  List.foldl_concat _ _ _ _

theorem typedInto_concat {t : Terminal} {typed : List Keystroke} {key : Keystroke} {cell : Nat} :
    TypedInto t (typed ++ [key]) cell ↔ TypedInto t typed cell ∨
      key.char ≠ backspace ∧ cell = (typeKeys typed t).screen.position := by
  constructor
  · rintro ⟨first, last, start, char, place⟩
    rcases List.prefix_concat_iff.mp start with whole | earlier
    · obtain ⟨rfl, same⟩ := List.append_inj' whole rfl
      obtain rfl := List.singleton_inj.mp same
      exact .inr ⟨char, place⟩
    · exact .inl ⟨first, last, earlier, char, place⟩
  · rintro (⟨first, last, start, char, place⟩ | ⟨char, place⟩)
    · exact ⟨first, last, start.trans (List.prefix_append _ _), char, place⟩
    · exact ⟨typed, key, List.prefix_rfl, char, place⟩

theorem not_typedInto_nil (t : Terminal) (cell : Nat) : ¬ TypedInto t [] cell := by
  rintro ⟨first, last, start, -⟩
  have length := start.length_le
  simp at length

theorem LineFits.initial {p0 : Nat} {keys typed : List Keystroke} (fits : LineFits p0 keys)
    (first : typed <+: keys) : LineFits p0 typed :=
  ⟨fun key member => fits.noEnter key (first.subset member),
    fun _ start => fits.short _ (start.trans first), fun _ start => fits.room _ (start.trans first)⟩

/-- After any keys the screen is as `Echoed` says, and the cells typed into are
those up to the highest. -/
theorem echoed_typeKeys {p0 : Nat} {t : Terminal} (start : Holding [] t) (none : t.makeCode = false)
    (cursor : t.screen.position = p0) {keys : List Keystroke} (fits : LineFits p0 keys) :
    ∃ high, Echoed p0 t.screen.memory high (lineOf keys) (typeKeys keys t) ∧
      ∀ cell, TypedInto t keys cell ↔ p0 ≤ cell ∧ cell < p0 + high := by
  induction keys using List.reverseRecOn with
  | nil =>
      refine ⟨0, ⟨start, none, cursor, le_rfl, fun i below => absurd below (Nat.not_lt_zero i),
        fun i _ below => absurd below (Nat.not_lt_zero i), fun _ _ => rfl⟩, fun cell => ?_⟩
      exact iff_of_false (not_typedInto_nil t cell) (by omega)
  | append_singleton typed key ih =>
      obtain ⟨high, echoed, cells⟩ := ih (fits.initial (List.prefix_append _ _))
      have place := echoed.cursor
      have reached := echoed.reached
      have char := fits.noEnter key (List.mem_append_right _ (List.mem_singleton_self _))
      have room := fits.room typed (List.prefix_append _ _)
      rw [typeKeys_concat, lineOf_concat]
      by_cases erase : key.char = backspace
      · refine ⟨high, ?_, fun cell => ?_⟩
        · rw [editLine, if_pos erase]
          exact echoed.erase erase room
        · rw [typedInto_concat, cells]
          exact or_iff_left fun typed => typed.1 erase
      · have edit : editLine key.char (lineOf typed) = lineOf typed ++ [key.char] := if_neg erase
        have short := fits.short (typed ++ [key]) List.prefix_rfl
        have inside := fits.room (typed ++ [key]) List.prefix_rfl
        rw [lineOf_concat, edit, List.length_append, List.length_singleton] at short inside
        refine ⟨max high ((lineOf typed).length + 1), ?_, fun cell => ?_⟩
        · rw [edit]
          exact echoed.type char erase short inside
        · rw [typedInto_concat, cells, and_iff_right erase, place]
          omega

/-- **Screen and buffer agree** after every keystroke. -/
theorem screen_agrees {p0 : Nat} {t : Terminal} (start : Holding [] t) (none : t.makeCode = false)
    (cursor : t.screen.position = p0) {keys : List Keystroke} (fits : LineFits p0 keys) :
    ∀ typed, typed <+: keys → ScreenAgrees p0 t typed := by
  intro typed first
  obtain ⟨high, echoed, cells⟩ := echoed_typeKeys start none cursor (fits.initial first)
  have index := echoed.holding.index
  refine ⟨?_, fun i below => ?_, fun cell behind reached => ?_, fun cell untouched => ?_⟩
  · rw [index]
    exact echoed.cursor
  · rw [index] at below
    rw [echoed.shown i.val below]
    exact (echoed.holding.buffer.holds i below).symm
  · obtain ⟨low, below⟩ := (cells cell).mp reached
    rw [index] at behind
    have blank := echoed.erased (cell - p0) (by omega) (by omega)
    rwa [Nat.add_sub_cancel' low] at blank
  · rw [cells] at untouched
    exact ⟨echoed.others _ (by omega), echoed.others _ (by omega)⟩

theorem position_freshSession : freshSession.screen.position = 0 := by
  rw [freshSession, keyboardStateActivate, cleared, position_setCursor]
  rfl

/-- A session in the last column of the first row. -/
def edgeSession : Terminal :=
  { freshSession with screen := framebufferSetCursor 0 79 freshSession.screen }

theorem Holding.on_screen {line : List UInt8} {t : Terminal} (holding : Holding line t)
    (screen : Framebuffer) : Holding line { t with screen } :=
  ⟨holding.inputOn, holding.index, holding.buffer⟩

theorem holding_edgeSession : Holding [] edgeSession ∧ edgeSession.makeCode = false := by
  obtain ⟨holding, none⟩ := holding_freshSession
  rw [edgeSession]
  generalize freshSession = t at holding none
  exact ⟨holding.on_screen _, none⟩

theorem position_edgeSession : edgeSession.screen.position = 79 := by
  rw [edgeSession, position_setCursor]
  rfl

theorem backspace_mapped : keyboardScancode1ToAsciiMap 0x0E ≠ 0 := by decide

/-- Two characters, on both sides of the edge, and the backspaces that take them away. -/
def erasedKeys : List Keystroke :=
  [keystrokeA, keystrokeA, ⟨0x0E, backspace_mapped⟩, ⟨0x0E, backspace_mapped⟩]

theorem erasedKeys_fit : LineFits 79 erasedKeys := by
  have each : ∀ typed ∈ erasedKeys.inits, (lineOf typed).length ≤ 2 := by decide
  have short : ∀ typed, typed <+: erasedKeys → (lineOf typed).length ≤ 2 := fun typed first =>
    each typed ((List.mem_inits _ _).mpr first)
  refine ⟨by decide, fun typed first => (short typed first).trans (by decide), fun typed first => ?_⟩
  have := short typed first
  omega

theorem screen_agrees_erasedKeys :
    ScreenAgrees 79 edgeSession [keystrokeA, keystrokeA] ∧ ScreenAgrees 79 edgeSession erasedKeys := by
  have agrees := screen_agrees holding_edgeSession.1 holding_edgeSession.2 position_edgeSession
    erasedKeys_fit
  exact ⟨agrees _ (List.prefix_append [keystrokeA, keystrokeA] _), agrees _ List.prefix_rfl⟩

end HexOS.Console
