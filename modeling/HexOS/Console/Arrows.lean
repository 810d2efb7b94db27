import HexOS.Console.TypedLine

/-!
Arrow keys and the typed line.

The arrow keys work with rows, columns and the length of the line, but not with
the cell the line starts at. `position_handleArrow` says when they move the
cursor. `cursorStays_iff` compares that with the line, which the left key can leave
at its first cell and the right key at its end.
-/

namespace HexOS.Console

open PartialRuns

/-! ### When an arrow key moves the cursor -/

/-- The left key stops at column 0 only while the line has at most 80 characters. -/
def LeftMoves (index position : Nat) : Prop := 80 < index ∨ position % 80 ≠ 0

/-- Up to 79 characters the right key stops at the column given by the length of
the line, beyond that in the rows that are too few for the line and in the last
cell of row 24. -/
def RightMoves (index position : Nat) : Prop :=
  if 79 < index then index / 80 ≤ position / 80 ∧ (position % 80 = 79 → position / 80 < 24)
  else position % 80 < index

instance (index position : Nat) : Decidable (LeftMoves index position) :=
  inferInstanceAs (Decidable (80 < index ∨ position % 80 ≠ 0))

instance (index position : Nat) : Decidable (RightMoves index position) :=
  inferInstanceAs (Decidable (if 79 < index then
    index / 80 ≤ position / 80 ∧ (position % 80 = 79 → position / 80 < 24)
    else position % 80 < index))

section

variable {fb : Framebuffer}

theorem position_same (inside : fb.position < 80 * 256) :
    (framebufferSetCursor (framebufferGetCursor fb).1 (framebufferGetCursor fb).2.1
      (framebufferGetCursor fb).2.2).position = fb.position := by
  rw [position_setCursor, toNat_row inside, toNat_col]
  omega

theorem position_nextCol (inside : fb.position < 80 * 256) (inner : fb.position % 80 < 79) :
    (framebufferSetCursor (framebufferGetCursor fb).1 ((framebufferGetCursor fb).2.1 + 1)
      (framebufferGetCursor fb).2.2).position = fb.position + 1 := by
  have col := toNat_col fb
  rw [position_setCursor, toNat_succ (by omega), toNat_row inside, col]
  omega

theorem position_previousCol (inside : fb.position < 80 * 256) (inner : fb.position % 80 ≠ 0) :
    (framebufferSetCursor (framebufferGetCursor fb).1 ((framebufferGetCursor fb).2.1 - 1)
      (framebufferGetCursor fb).2.2).position = fb.position - 1 := by
  have col := toNat_col fb
  have nonzero : (framebufferGetCursor fb).2.1 ≠ 0 := fun zero => by
    rw [zero] at col
    exact inner col.symm
  rw [position_setCursor, toNat_pred nonzero, toNat_row inside, col]
  omega

/-- Taking the line's rows off the cursor's row wraps when there are not as many. -/
theorem row_ge_sub {row rows : UInt8} : row ≥ row - rows ↔ rows.toNat ≤ row.toNat := by
  have rowBound := row.toNat_lt
  have rowsBound := rows.toNat_lt
  rw [ge_iff_le, UInt8.le_iff_toNat_le, UInt8.toNat_sub]
  omega

theorem position_arrowLeft (index : UInt8) (inside : fb.position < 80 * 256) :
    (arrowLeft index fb).position =
      if LeftMoves index.toNat fb.position then fb.position - 1 else fb.position := by
  have row := toNat_row inside
  have col := toNat_col fb
  have left : (framebufferGetCursor fb).2.1 = 0 ↔ fb.position % 80 = 0 := by
    rw [← UInt8.toNat_inj, col]
    rfl
  by_cases long : index > 80
  · have many : 80 < index.toNat := UInt8.lt_iff_toNat_lt.mp long
    -- the line has a full row, so `barisL` is another row
    have other : (framebufferGetCursor fb).1 ≠ (framebufferGetCursor fb).1 - index / 80 := by
      intro same
      have rows := congrArg UInt8.toNat same
      rw [UInt8.toNat_sub, UInt8.toNat_div, show (80 : UInt8).toNat = 80 from rfl] at rows
      have := index.toNat_lt
      omega
    rw [if_pos (.inl many)]
    simp only [arrowLeft, if_pos long, if_pos other]
    by_cases first : fb.position % 80 = 0
    · rw [if_pos (left.mpr first)]
      split
      · rename_i above
        have positive : 0 < (framebufferGetCursor fb).1.toNat := UInt8.lt_iff_toNat_lt.mp above
        rw [position_setCursor, toNat_pred (positive_iff.mp above), row,
          show (79 : UInt8).toNat = 79 from rfl]
        omega
      · rename_i top
        rw [position_getCursor]
        have zero : (framebufferGetCursor fb).1.toNat ≤ 0 :=
          UInt8.le_iff_toNat_le.mp (UInt8.not_lt.mp top)
        omega
    · rw [if_neg (left.not.mpr first)]
      exact position_previousCol inside first
  · have few : index.toNat ≤ 80 := UInt8.le_iff_toNat_le.mp (UInt8.not_lt.mp long)
    simp only [arrowLeft, if_neg long]
    by_cases first : fb.position % 80 = 0
    · have edge : ¬ (framebufferGetCursor fb).2.1 > 0 := by
        rw [left.mpr first]
        decide
      rw [if_neg edge, if_neg (by simp only [LeftMoves]; omega)]
      exact position_same inside
    · have inner : (framebufferGetCursor fb).2.1 > 0 := positive_iff.mpr (left.not.mpr first)
      rw [if_pos inner, if_pos (.inr first)]
      exact position_previousCol inside first

theorem position_arrowRight (index : UInt8) (inside : fb.position < 80 * 256) :
    (arrowRight index fb).position =
      if RightMoves index.toNat fb.position then fb.position + 1 else fb.position := by
  have row := toNat_row inside
  have col := toNat_col fb
  have eighty : (80 : UInt8).toNat = 80 := rfl
  have last : (framebufferGetCursor fb).2.1 = 79 ↔ fb.position % 80 = 79 := by
    rw [← UInt8.toNat_inj, col]
    rfl
  by_cases long : index > 79
  · have many : 79 < index.toNat := UInt8.lt_iff_toNat_lt.mp long
    simp only [arrowRight, if_pos long, RightMoves, if_pos many, row_ge_sub, UInt8.toNat_div, row,
      eighty, UInt8.le_refl, true_and]
    by_cases rows : index.toNat / 80 ≤ fb.position / 80
    · rw [if_pos rows]
      by_cases edge : fb.position % 80 = 79
      · rw [if_pos (last.mpr edge)]
        simp only [UInt8.lt_iff_toNat_lt, row, show (24 : UInt8).toNat = 24 from rfl, rows, edge,
          true_and, true_implies]
        split
        · rw [position_setCursor, toNat_succ (by omega), row, show (0 : UInt8).toNat = 0 from rfl]
          omega
        · exact position_getCursor fb
      · have inner : (framebufferGetCursor fb).2.1 < 79 := by
          rw [UInt8.lt_iff_toNat_lt, col, show (79 : UInt8).toNat = 79 from rfl]
          omega
        rw [if_neg (last.not.mpr edge), if_pos inner, if_pos ⟨rows, fun same => absurd same edge⟩]
        exact position_nextCol inside (by omega)
    · rw [if_neg rows, if_neg (by omega), if_neg fun moves => rows moves.1]
      exact position_getCursor fb
  · have few : index.toNat ≤ 79 := UInt8.le_iff_toNat_le.mp (UInt8.not_lt.mp long)
    simp only [arrowRight, if_neg long, RightMoves, if_neg (Nat.not_lt.mpr few)]
    simp only [UInt8.lt_iff_toNat_lt, col]
    split
    · exact position_nextCol inside (by omega)
    · exact position_same inside

theorem position_handleArrow (scancode index : UInt8) (inside : fb.position < 80 * 256) :
    (handleArrow scancode index fb).position =
      if scancode = extScancodeRight ∧ RightMoves index.toNat fb.position then fb.position + 1
      else if scancode = extScancodeLeft ∧ LeftMoves index.toNat fb.position then fb.position - 1
      else fb.position := by
  have vertical : (arrowVertical fb).position = fb.position := position_same inside
  by_cases right : scancode = extScancodeRight
  · have other : scancode ≠ extScancodeLeft := by
      rw [right]
      decide
    simp only [handleArrow, right, if_true, true_and, position_arrowRight index inside]
    split
    · rfl
    · rw [if_neg fun left => absurd left.1 (by decide)]
  · rw [handleArrow, if_neg right, if_neg (not_and_of_not_left _ right)]
    by_cases left : scancode = extScancodeLeft
    · rw [if_pos left, position_arrowLeft index inside]
      simp only [left, true_and]
    · rw [if_neg left, if_neg (not_and_of_not_left _ left)]
      split
      · exact vertical
      · split
        · exact vertical
        · rfl

/-- Arrow keys store nothing. -/
theorem memory_handleArrow (scancode index : UInt8) :
    (handleArrow scancode index fb).memory = fb.memory := by
  simp only [handleArrow, arrowRight, arrowLeft, arrowVertical]
  split_ifs <;> rfl

end

/-! ### On the line -/

/-- The cursor is on the line or right behind it. -/
structure OnLine (p0 : Nat) (t : Terminal) : Prop where
  low : p0 ≤ t.screen.position
  high : t.screen.position ≤ p0 + t.keyboard.bufferIndex.toNat

/-- The cursor is on the line after every code of the event, and cells off the line
are left alone. -/
structure StaysOnLine (p0 : Nat) (t : Terminal) (event : Event) : Prop where
  made : ∀ key, event = .keystroke key → OnLine p0 (keyboardIsr key.make t)
  after : OnLine p0 (deliver t event)
  untouched : ∀ offset, offset < 2 * p0 ∨
      2 * (p0 + (deliver t event).keyboard.bufferIndex.toNat) ≤ offset →
    (deliver t event).screen.memory offset = t.screen.memory offset

/-- A left key at the first cell finds it at the start of a row and the line no
longer than a row; cell 0 the cursor cannot leave. A right key behind the line
finds the line short of the end of its first row, or the cursor in the last cell
of the screen. -/
structure KeepsToLine (p0 : Nat) (t : Terminal) (event : Event) : Prop where
  left : event = .interrupt extScancodeLeft → t.screen.position = p0 →
    p0 = 0 ∨ p0 % 80 = 0 ∧ t.keyboard.bufferIndex.toNat ≤ 80
  right : event = .interrupt extScancodeRight →
    t.screen.position = p0 + t.keyboard.bufferIndex.toNat →
    p0 % 80 + t.keyboard.bufferIndex.toNat < 80 ∨
      80 ≤ t.keyboard.bufferIndex.toNat ∧ p0 + t.keyboard.bufferIndex.toNat = 1999

/-- Character keystrokes, and codes without a character: the arrows are such. -/
def CharacterOrArrow : Event → Prop
  | .activate => False
  | .keystroke key => key.char ≠ newline ∧ key.char ≠ backspace
  | .interrupt scancode => keyboardScancode1ToAsciiMap scancode = 0

def Event.characters : Event → Nat
  | .keystroke _ => 1
  | _ => 0

def characters (events : List Event) : Nat := (events.map Event.characters).sum

/-- The line of the stream has at most 255 characters and fits on the screen. -/
structure StreamFits (p0 : Nat) (events : List Event) : Prop where
  keys : ∀ event ∈ events, CharacterOrArrow event
  short : characters events ≤ 255
  room : p0 + characters events ≤ 80 * 25

/-- The event is one of the stream, and there is room for it. -/
structure Admitted (p0 : Nat) (t : Terminal) (event : Event) : Prop where
  key : CharacterOrArrow event
  short : t.keyboard.bufferIndex.toNat + event.characters ≤ 255
  room : p0 + t.keyboard.bufferIndex.toNat + event.characters ≤ 80 * 25

/-! ### One event -/

section

variable {line : List UInt8} {t : Terminal} {p0 : Nat}

theorem isr_unmapped {scancode : UInt8} (on : t.keyboard.keyboardInputOn = true)
    (none : t.makeCode = false) (unmapped : keyboardScancode1ToAsciiMap scancode = 0) :
    keyboardIsr scancode t =
      { wipeBuffer t with screen := handleArrow scancode t.keyboard.bufferIndex t.screen } := by
  simp [keyboardIsr, on, isKeyboardBlocking, unmapped, none]

/-- An event makes the line longer by the characters it has. -/
theorem holding_event (holding : Holding line t) (none : t.makeCode = false) {event : Event}
    (admitted : Admitted p0 t event) :
    ∃ line', line'.length = line.length + event.characters ∧ Holding line' (deliver t event) ∧
      (deliver t event).makeCode = false := by
  have key := admitted.key
  have short := admitted.short
  rw [holding.index] at short
  cases event with
  | activate => exact absurd key id
  | keystroke key' =>
      obtain ⟨enter, erase⟩ := key
      exact ⟨_, List.length_append, holding_character holding key' enter erase short⟩
  | interrupt scancode => exact ⟨line, rfl, holding_unmapped holding none key⟩

theorem admitted_stream (holding : Holding line t) (none : t.makeCode = false)
    {events : List Event} (keys : ∀ event ∈ events, CharacterOrArrow event)
    (short : line.length + characters events ≤ 255)
    (room : p0 + line.length + characters events ≤ 80 * 25) :
    Throughout deliver (Admitted p0) t events := by
  induction events generalizing line t with
  | nil => trivial
  | cons event rest ih =>
      have total : characters (event :: rest) = event.characters + characters rest := by
        simp only [characters, List.map_cons, List.sum_cons]
      rw [total] at short room
      have index := holding.index
      have here : Admitted p0 t event :=
        ⟨keys event List.mem_cons_self, by omega, by omega⟩
      obtain ⟨line', longer, holding', none'⟩ := holding_event holding none here
      refine ⟨here, ih holding' none' (fun other member => ?_) (by omega) (by omega)⟩
      exact keys other (List.mem_cons_of_mem event member)

/-- A character stays on the line. -/
theorem staysOnLine_keystroke (holding : Holding line t) (none : t.makeCode = false)
    (onLine : OnLine p0 t) {key : Keystroke} (admitted : Admitted p0 t (.keystroke key)) :
    StaysOnLine p0 t (.keystroke key) := by
  obtain ⟨enter, erase⟩ := admitted.key
  have low := onLine.low
  have high := onLine.high
  have room := admitted.room
  have index := holding.index
  obtain ⟨line', longer, holding', -⟩ := holding_event holding none admitted
  have index' := holding'.index
  have one : (Event.keystroke key).characters = 1 := rfl
  have screen := keystroke_screen holding key enter
  rw [if_neg erase] at screen
  have inside : t.screen.position < 80 * 255 := by omega
  refine ⟨fun key' same => ?_, ⟨?_, ?_⟩, fun offset outside => ?_⟩
  · cases same
    rw [isr_make key holding.inputOn]
    exact ⟨by rwa [wipeBuffer_screen], by rwa [wipeBuffer_screen, wipeBuffer_bufferIndex]⟩
  · rw [screen, position_typeEcho _ inside]
    omega
  · rw [screen, position_typeEcho _ inside]
    omega
  · rw [screen, memory_typeEcho _ inside, if_neg (by omega), if_neg (by omega)]

theorem not_leftMoves {index position : Nat} :
    ¬ LeftMoves index position ↔ position % 80 = 0 ∧ index ≤ 80 := by
  rw [LeftMoves, not_or, not_not, Nat.not_lt, and_comm]

/-- Behind the line the right key stops at the edge the line has not reached, or
in the last cell of the screen. -/
theorem not_rightMoves {index : Nat} (room : p0 + index ≤ 80 * 25) :
    ¬ RightMoves index (p0 + index) ↔
      p0 % 80 + index < 80 ∨ 80 ≤ index ∧ p0 + index = 1999 := by
  rw [RightMoves]
  split
  · omega
  · omega

/-- What an arrow key does to a cursor on the line. -/
theorem onLine_interrupt (onLine : OnLine p0 t) (inside : t.screen.position < 80 * 256)
    (scancode : UInt8) {t' : Terminal} (index : t'.keyboard.bufferIndex = t.keyboard.bufferIndex)
    (moved : t'.screen.position =
      (handleArrow scancode t.keyboard.bufferIndex t.screen).position) :
    OnLine p0 t' ↔
      (scancode = extScancodeLeft → t.screen.position = p0 →
        p0 = 0 ∨ ¬ LeftMoves t.keyboard.bufferIndex.toNat p0) ∧
      (scancode = extScancodeRight → t.screen.position = p0 + t.keyboard.bufferIndex.toNat →
        ¬ RightMoves t.keyboard.bufferIndex.toNat (p0 + t.keyboard.bufferIndex.toNat)) := by
  have low := onLine.low
  have high := onLine.high
  rw [position_handleArrow scancode _ inside] at moved
  constructor
  · rintro ⟨low', high'⟩
    rw [moved] at low' high'
    rw [index] at high'
    constructor
    · intro left first
      by_contra leaves
      obtain ⟨later, moves⟩ := not_or.mp leaves
      have other : scancode ≠ extScancodeRight := by
        rw [left]
        decide
      rw [first, if_neg (not_and_of_not_left _ other), if_pos ⟨left, not_not.mp moves⟩] at low'
      omega
    · intro right last moves
      rw [last, if_pos ⟨right, moves⟩] at high'
      omega
  · rintro ⟨left, right⟩
    constructor
    · rw [moved]
      split
      · omega
      · split
        · rename_i moves
          by_cases first : t.screen.position = p0
          · rcases left moves.1 first with zero | stops
            · omega
            · exact absurd (first ▸ moves.2) stops
          · omega
        · exact low
    · rw [moved, index]
      split
      · rename_i moves
        by_cases last : t.screen.position = p0 + t.keyboard.bufferIndex.toNat
        · exact absurd (last ▸ moves.2) (right moves.1 last)
        · omega
      · split
        · omega
        · exact high

/-- An arrow key stays on the line exactly when it keeps to it. -/
theorem staysOnLine_interrupt (holding : Holding line t) (none : t.makeCode = false)
    (onLine : OnLine p0 t) {scancode : UInt8} (admitted : Admitted p0 t (.interrupt scancode)) :
    StaysOnLine p0 t (.interrupt scancode) ↔ KeepsToLine p0 t (.interrupt scancode) := by
  have high := onLine.high
  have room : p0 + t.keyboard.bufferIndex.toNat ≤ 80 * 25 := by
    have := admitted.room
    omega
  have same := isr_unmapped holding.inputOn none admitted.key
  have index : (keyboardIsr scancode t).keyboard.bufferIndex = t.keyboard.bufferIndex := by
    rw [same]
    exact wipeBuffer_bufferIndex t
  have memory : (keyboardIsr scancode t).screen.memory = t.screen.memory := by
    rw [same]
    exact memory_handleArrow scancode t.keyboard.bufferIndex
  have exactly := onLine_interrupt onLine (by omega) scancode index (by rw [same])
  rw [not_leftMoves, not_rightMoves room] at exactly
  constructor
  · intro stays
    obtain ⟨left, right⟩ := exactly.mp stays.after
    exact ⟨fun arrow => left (Event.interrupt.inj arrow),
      fun arrow => right (Event.interrupt.inj arrow)⟩
  · intro keeps
    have after := exactly.mpr ⟨fun arrow => keeps.left (congrArg Event.interrupt arrow),
      fun arrow => keeps.right (congrArg Event.interrupt arrow)⟩
    exact ⟨fun key other => Event.noConfusion other, after, fun offset _ => congrFun memory offset⟩

end

/-! ### A session -/

/-- **The cursor stays on the line exactly when** every arrow key keeps to it. -/
theorem cursorStays_iff {p0 : Nat} {t : Terminal} (start : Holding [] t)
    (none : t.makeCode = false) (cursor : t.screen.position = p0) {events : List Event}
    (fits : StreamFits p0 events) :
    Throughout deliver (StaysOnLine p0) t events ↔ Throughout deliver (KeepsToLine p0) t events := by
  have admitted : Throughout deliver (Admitted p0) t events :=
    admitted_stream start none fits.keys (by simpa using fits.short) fits.room
  have exactly : ∀ t event, (∃ line, Holding line t ∧ t.makeCode = false ∧ OnLine p0 t) →
      Admitted p0 t event → (StaysOnLine p0 t event ↔ KeepsToLine p0 t event) := by
    rintro t event ⟨line, holding, none, onLine⟩ allowed
    cases event with
    | activate => exact absurd allowed.key id
    | keystroke key =>
        exact iff_of_true (staysOnLine_keystroke holding none onLine allowed)
          ⟨fun arrow => Event.noConfusion arrow, fun arrow => Event.noConfusion arrow⟩
    | interrupt scancode => exact staysOnLine_interrupt holding none onLine allowed
  refine throughout_iff exactly ?_ ⟨[], start, none, cursor.ge, by omega⟩ admitted
  rintro t event inv allowed keeps
  have stays := (exactly t event inv allowed).mpr keeps
  obtain ⟨line, holding, none, -⟩ := inv
  obtain ⟨line', -, holding', none'⟩ := holding_event holding none allowed
  exact ⟨line', holding', none', stays.after⟩

/-- A character at the top left of the screen, and both arrow keys. -/
def walkedKeys : List Event :=
  [.keystroke keystrokeA, .interrupt extScancodeRight, .interrupt extScancodeLeft]

theorem walkedKeys_fit : StreamFits 0 walkedKeys := by
  refine ⟨fun event member => ?_, by decide, by decide⟩
  simp only [walkedKeys, List.mem_cons, List.not_mem_nil, or_false] at member
  rcases member with rfl | rfl | rfl
  · exact ⟨by decide, by decide⟩
  · rfl
  · rfl

theorem cursorStays_iff_walkedKeys :
    Throughout deliver (StaysOnLine 0) freshSession walkedKeys := by
  refine (cursorStays_iff holding_freshSession.1 holding_freshSession.2 position_freshSession
    walkedKeys_fit).mpr ⟨⟨fun _ _ => .inl rfl, fun arrow => Event.noConfusion arrow⟩,
      ⟨fun _ _ => .inl rfl, fun _ _ => .inl ?_⟩,
      ⟨fun _ _ => .inl rfl, fun arrow => absurd (Event.interrupt.inj arrow) (by decide)⟩, trivial⟩
  have one : (deliver freshSession (.keystroke keystrokeA)).keyboard.bufferIndex = 1 := rfl
  rw [one]
  decide

/-! ### Into the prompt -/

/-- A session behind the 22 characters of the shell's prompt. -/
def promptSession : Terminal :=
  { freshSession with screen := framebufferSetCursor 0 22 freshSession.screen }

/-- The left key, then A. -/
def intoPrompt : List Event := [.interrupt extScancodeLeft, .keystroke keystrokeA]

theorem position_promptSession : promptSession.screen.position = 22 :=
  position_setCursor 0 22 freshSession.screen

/-- The left key takes the cursor into the prompt, and the next character is
stored there. -/
theorem cursorStays_counterexample :
    Holding [] promptSession ∧ promptSession.makeCode = false ∧
      promptSession.screen.position = 22 ∧ StreamFits 22 intoPrompt ∧
      (deliver promptSession (.interrupt extScancodeLeft)).screen.position = 21 ∧
      (intoPrompt.foldl deliver promptSession).screen.memory (2 * 21) = 0x61 ∧
      ¬ Throughout deliver (StaysOnLine 22) promptSession intoPrompt := by
  have start : Holding [] promptSession :=
    holding_congr (by simp only [promptSession]) holding_freshSession.1
  have none : promptSession.makeCode = false := holding_freshSession.2
  have cursor := position_promptSession
  generalize promptSession = t at start none cursor ⊢
  have unmapped : keyboardScancode1ToAsciiMap extScancodeLeft = 0 := rfl
  have index := start.index
  have moved : (keyboardIsr extScancodeLeft t).screen.position = 21 := by
    rw [isr_unmapped start.inputOn none unmapped, position_handleArrow _ _ (by omega),
      if_neg fun right => absurd right.1 (by decide), cursor, if_pos ⟨rfl, .inr (by decide)⟩]
  obtain ⟨left, -⟩ := holding_unmapped start none unmapped
  refine ⟨start, none, cursor, ⟨?_, by decide, by decide⟩, moved, ?_, fun stays => ?_⟩
  · simp only [intoPrompt, List.forall_mem_cons, CharacterOrArrow]
    exact ⟨rfl, ⟨by decide, by decide⟩, fun event member => absurd member List.not_mem_nil⟩
  · have screen := keystroke_screen left keystrokeA (by decide)
    rw [if_neg (by decide)] at screen
    have stored := @memory_typeEcho (keyboardIsr extScancodeLeft t).screen 0x61
      (by omega) (2 * 21)
    rw [moved] at stored
    exact (congrFun (congrArg Framebuffer.memory screen) (2 * 21)).trans stored
  · have low : 22 ≤ (keyboardIsr extScancodeLeft t).screen.position := stays.1.after.low
    omega

end HexOS.Console
