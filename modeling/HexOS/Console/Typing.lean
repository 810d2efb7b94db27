import Mathlib.Data.List.Chain
import HexOS.Console.LineEditing

/-!
Fast and long typing.

The driver remembers one key that waits for its break code, so a make code that
follows another make code takes its place. `typedChars` says which characters a
stream of presses and releases leaves; `keysInOrder_iff` that all of them arrive
exactly when no two presses follow each other. The index of the buffer has 8
bits, and `keepsLine_iff` shows that a line is safe up to 255 characters and gone
with the next one.
-/

namespace HexOS.Console

/-! ### Presses and releases -/

structure PrintableKey extends Keystroke where
  printable : 0x20 ≤ toKeystroke.char ∧ toKeystroke.char ≤ 0x7E

deriving instance DecidableEq for Keystroke
deriving instance DecidableEq for PrintableKey

inductive KeyEvent where
  | press (key : PrintableKey)
  | release (key : PrintableKey)

def KeyEvent.code : KeyEvent → UInt8
  | .press key => key.make
  | .release key => key.breakCode

def KeyEvent.isPress : KeyEvent → Bool
  | .press _ => true
  | .release _ => false

/-- A key is pressed while it is up and released while it is down, and all keys
are up at the end. -/
def Playable : List PrintableKey → List KeyEvent → Prop
  | held, [] => held = []
  | held, .press key :: rest => key ∉ held ∧ Playable (key :: held) rest
  | held, .release key :: rest => key ∈ held ∧ Playable (held.erase key) rest

instance decidablePlayable : (held : List PrintableKey) → (events : List KeyEvent) →
    Decidable (Playable held events)
  | held, [] => inferInstanceAs (Decidable (held = []))
  | held, .press key :: rest =>
      have := decidablePlayable (key :: held) rest
      inferInstanceAs (Decidable (key ∉ held ∧ Playable (key :: held) rest))
  | held, .release key :: rest =>
      have := decidablePlayable (held.erase key) rest
      inferInstanceAs (Decidable (key ∈ held ∧ Playable (held.erase key) rest))

/-- The characters of the keys that are pressed, in order. -/
def pressedChars : List KeyEvent → List UInt8
  | [] => []
  | .press key :: rest => key.char :: pressedChars rest
  | .release _ :: rest => pressedChars rest

def play (events : List KeyEvent) (t : Terminal) : Terminal :=
  events.foldl (fun t event => keyboardIsr event.code t) t

/-- The buffer holds each pressed character once, in order. -/
structure KeysInOrder (events : List KeyEvent) (t : Terminal) : Prop where
  index : (play events t).keyboard.bufferIndex.toNat = (pressedChars events).length
  buffer : BeginsWith (getKeyboardBuffer (play events t)) (pressedChars events)

/-- No press directly behind a press. -/
def NoOverlap (events : List KeyEvent) : Prop :=
  events.IsChain fun a b => a.isPress = false ∨ b.isPress = false

instance (events : List KeyEvent) : Decidable (NoOverlap events) :=
  inferInstanceAs (Decidable (List.IsChain _ _))

/-! ### What the driver takes from a stream -/

/-- The characters of the presses that are directly followed by a release. -/
def typedChars : List KeyEvent → List UInt8
  | [] => []
  | .release _ :: rest => typedChars rest
  | [.press _] => []
  | .press _ :: .press key :: rest => typedChars (.press key :: rest)
  | .press key :: .release _ :: rest => key.char :: typedChars rest

/-- Nothing is added and nothing reordered. -/
theorem typedChars_sublist (events : List KeyEvent) :
    (typedChars events).Sublist (pressedChars events) := by
  induction events using typedChars.induct with
  | case1 => exact List.Sublist.refl _
  | case2 _ rest ih => exact ih
  | case3 => exact List.nil_sublist _
  | case4 _ key rest ih => exact ih.cons _
  | case5 key _ rest ih => exact ih.cons_cons _

/-- A stream that ends with all keys up does not end with a press. -/
theorem Playable.ends {held : List PrintableKey} {events : List KeyEvent}
    (playable : Playable held events) (key : PrintableKey) :
    events.getLast? ≠ some (.press key) := by
  induction events generalizing held with
  | nil => simp
  | cons event rest ih =>
      cases event with
      | press other =>
          obtain ⟨-, next⟩ := playable
          cases rest with
          | nil => cases next
          | cons event' rest' => exact ih next
      | release other =>
          obtain ⟨-, next⟩ := playable
          cases rest with
          | nil => simp
          | cons event' rest' => exact ih next

theorem ends_tail {event : KeyEvent} {rest : List KeyEvent} {key : PrintableKey}
    (ends : (event :: rest).getLast? ≠ some (.press key)) : rest.getLast? ≠ some (.press key) := by
  intro last
  rw [List.getLast?_cons, last, Option.getD_some] at ends
  exact ends rfl

theorem noOverlap_release (key : PrintableKey) (rest : List KeyEvent) :
    NoOverlap (.release key :: rest) ↔ NoOverlap rest := by
  simp [NoOverlap, List.isChain_cons, KeyEvent.isPress]

theorem noOverlap_press_release (key other : PrintableKey) (rest : List KeyEvent) :
    NoOverlap (.press key :: .release other :: rest) ↔ NoOverlap rest := by
  rw [← noOverlap_release other rest]
  simp [NoOverlap, KeyEvent.isPress]

/-- Each press counts exactly when no two follow each other. -/
theorem typedChars_eq_iff {events : List KeyEvent}
    (ends : ∀ key, events.getLast? ≠ some (.press key)) :
    typedChars events = pressedChars events ↔ NoOverlap events := by
  induction events using typedChars.induct with
  | case1 => exact iff_of_true rfl List.IsChain.nil
  | case2 key rest ih =>
      rw [noOverlap_release]
      exact ih fun k => ends_tail (ends k)
  | case3 key => exact absurd rfl (ends key)
  | case4 first key rest ih =>
      refine iff_of_false (fun same => ?_) fun alone => ?_
      · have fewer := (typedChars_sublist (.press key :: rest)).length_le
        have length := congrArg List.length same
        simp only [typedChars, pressedChars, List.length_cons] at fewer length
        omega
      · simp [NoOverlap, KeyEvent.isPress] at alone
  | case5 key other rest ih =>
      rw [noOverlap_press_release, ← ih fun k => ends_tail (ends_tail (ends k))]
      simp only [typedChars, pressedChars, List.cons.injEq, true_and]

/-! ### What the driver does with it -/

theorem printable_ne {key : PrintableKey} : key.char ≠ newline ∧ key.char ≠ backspace := by
  have low := UInt8.le_iff_toNat_le.mp key.printable.1
  constructor
  · intro same
    rw [same] at low
    exact absurd low (by decide)
  · intro same
    rw [same] at low
    exact absurd low (by decide)

/-- Of two make codes in a row the first is forgotten. -/
theorem isr_make_make (first second : Keystroke) {t : Terminal}
    (on : t.keyboard.keyboardInputOn = true) :
    keyboardIsr second.make (keyboardIsr first.make t) = keyboardIsr second.make t := by
  have still : (keyboardIsr first.make t).keyboard.keyboardInputOn = true := by
    rw [isr_make first on]
    exact (wipeBuffer_inputOn t).trans on
  rw [isr_make second still, isr_make first on, isr_make second on]
  unfold wipeBuffer
  by_cases zero : t.keyboard.bufferIndex = 0
  · simp only [zero, if_true]
  · simp only [if_neg zero]

/-- A press and a release behind it append the character pressed, whichever key is
released. -/
theorem holding_press_release {line : List UInt8} {t : Terminal} (holding : Holding line t)
    (key other : PrintableKey) (short : line.length + 1 ≤ 255) :
    Holding (line ++ [key.char]) (keyboardIsr other.breakCode (keyboardIsr key.make t)) ∧
      (keyboardIsr other.breakCode (keyboardIsr key.make t)).makeCode = false := by
  obtain ⟨made, noted, pending⟩ := holding_make holding key.toKeystroke
  obtain ⟨enter, erase⟩ := @printable_ne key
  have edit : editLine key.char line = line ++ [key.char] := if_neg erase
  rw [← edit, ← noted]
  refine holding_commit made pending (breakCode_unmapped _) (by rwa [noted]) ?_
  rw [noted, edit, List.length_append]
  exact short

/-- The buffer holds what the stream leaves. -/
theorem holding_play {events : List KeyEvent}
    (ends : ∀ key, events.getLast? ≠ some (.press key)) {line : List UInt8} {t : Terminal}
    (holding : Holding line t) (none : t.makeCode = false)
    (short : line.length + (typedChars events).length ≤ 255) :
    Holding (line ++ typedChars events) (play events t) := by
  induction events using typedChars.induct generalizing line t with
  | case1 => rwa [typedChars, List.append_nil]
  | case2 key rest ih =>
      obtain ⟨still, none'⟩ := holding_unmapped holding none (breakCode_unmapped key.toKeystroke)
      exact ih (fun k => ends_tail (ends k)) still none' short
  | case3 key => exact absurd rfl (ends key)
  | case4 first key rest ih =>
      have same : play (.press first :: .press key :: rest) t = play (.press key :: rest) t := by
        simp only [play, List.foldl_cons, KeyEvent.code]
        rw [isr_make_make _ _ holding.inputOn]
      rw [same]
      exact ih (fun k => ends_tail (ends k)) holding none short
  | case5 key other rest ih =>
      rw [typedChars, List.length_cons] at short
      obtain ⟨typed, none'⟩ := holding_press_release holding key other (by omega)
      rw [typedChars, ← List.singleton_append, ← List.append_assoc]
      refine ih (fun k => ends_tail (ends_tail (ends k))) typed none' ?_
      rw [List.length_append, List.length_singleton]
      omega

/-- **No key is lost exactly when** no key is pressed before the one pressed last
is released. -/
theorem keysInOrder_iff {t : Terminal} (start : Holding [] t) (none : t.makeCode = false)
    {events : List KeyEvent} (playable : Playable [] events)
    (few : (pressedChars events).length ≤ 255) : KeysInOrder events t ↔ NoOverlap events := by
  have ends := playable.ends
  have sublist := typedChars_sublist events
  have holding := holding_play ends start none (by
    have fewer := sublist.length_le
    simp only [List.length_nil]
    omega)
  rw [← typedChars_eq_iff ends]
  constructor
  · intro inOrder
    exact sublist.eq_of_length (holding.index.symm.trans inOrder.index)
  · intro same
    rw [List.nil_append, same] at holding
    exact ⟨holding.index, holding.buffer⟩

/-! ### Two keys down at once -/

def keyA : PrintableKey := ⟨keystrokeA, by decide⟩

def keyB : PrintableKey := ⟨⟨0x30, by decide⟩, by decide⟩

theorem keysInOrder_iff_apart :
    KeysInOrder [.press keyA, .release keyA, .press keyB, .release keyB] freshSession :=
  (@keysInOrder_iff freshSession holding_freshSession.1 holding_freshSession.2
    [.press keyA, .release keyA, .press keyB, .release keyB]
    (by decide) (by decide)).mpr (by decide)

/-- B is pressed before A is released. -/
def rolledKeys : List KeyEvent := [.press keyA, .press keyB, .release keyA, .release keyB]

theorem rolledKeys_playable : Playable [] rolledKeys := by decide

/-- Of the two characters only the second arrives. -/
theorem keysInOrder_counterexample :
    Playable [] rolledKeys ∧ pressedChars rolledKeys = [0x61, 0x62] ∧
      Holding [0x62] (play rolledKeys freshSession) ∧ ¬ KeysInOrder rolledKeys freshSession := by
  have holding : Holding [0x62] (play rolledKeys freshSession) :=
    holding_play rolledKeys_playable.ends holding_freshSession.1 holding_freshSession.2 (by decide)
  refine ⟨rolledKeys_playable, by decide, holding, fun inOrder => ?_⟩
  exact absurd (holding.index.symm.trans inOrder.index) (by decide)

/-! ### Long lines -/

def strike (t : Terminal) (key : PrintableKey) : Terminal := deliver t (.keystroke key.toKeystroke)

def strikes (keys : List PrintableKey) (t : Terminal) : Terminal := keys.foldl strike t

def charsOf (keys : List PrintableKey) : List UInt8 := keys.map fun key => key.char

/-- After every keystroke the first 255 characters are there, the index has not
gone down, and Enter would deliver them. -/
structure KeepsLine (keys : List PrintableKey) (t : Terminal) : Prop where
  kept : ∀ typed, typed <+: keys →
    BeginsWith (getKeyboardBuffer (strikes typed t)) ((charsOf typed).take 255)
  grows : ∀ typed key, typed ++ [key] <+: keys →
    (strikes typed t).keyboard.bufferIndex ≤ (strikes (typed ++ [key]) t).keyboard.bufferIndex
  delivers : ∀ typed, typed <+: keys → ∀ enter : Keystroke, enter.char = newline →
    BeginsWith (getKeyboardBuffer (deliver (strikes typed t) (.keystroke enter)))
      ((charsOf typed).take 255 ++ [0])

section

variable {line : List UInt8} {t : Terminal}

theorem holding_strike (holding : Holding line t) (key : PrintableKey)
    (short : line.length + 1 ≤ 255) :
    Holding (line ++ [key.char]) (strike t key) ∧ (strike t key).makeCode = false :=
  holding_press_release holding key key short

theorem holding_strikes (holding : Holding line t) {keys : List PrintableKey}
    (short : line.length + keys.length ≤ 255) : Holding (line ++ charsOf keys) (strikes keys t) := by
  induction keys generalizing line t with
  | nil =>
      rw [charsOf, List.map_nil, List.append_nil]
      exact holding
  | cons key rest ih =>
      rw [List.length_cons] at short
      have typed := (holding_strike holding key (by omega)).1
      have next := ih typed (by rw [List.length_append, List.length_singleton]; omega)
      rwa [List.append_assoc, List.singleton_append] at next

/-- The 256th character takes the index back to 0. -/
theorem strike_wraps (holding : Holding line t) (full : line.length = 255) (key : PrintableKey) :
    (strike t key).keyboard.keyboardInputOn = true ∧ (strike t key).keyboard.bufferIndex = 0 := by
  obtain ⟨made, noted, pending⟩ := holding_make holding key.toKeystroke
  obtain ⟨enter, erase⟩ := @printable_ne key
  have last : (keyboardIsr key.make t).keyboard.bufferIndex = 255 :=
    UInt8.toNat_inj.mp (made.index.trans full)
  rw [strike, deliver, isr_break _ made.inputOn pending]
  simp only [commitKey, wipeBuffer_lastKeyPressed, noted, if_neg enter, if_neg erase,
    wipeBuffer_bufferIndex, last]
  exact ⟨(wipeBuffer_inputOn _).trans made.inputOn, rfl⟩

theorem strikes_concat (typed : List PrintableKey) (key : PrintableKey) (t : Terminal) :
    strikes (typed ++ [key]) t = strike (strikes typed t) key :=
  List.foldl_concat _ _ _ _

theorem strikes_replicate (key : PrintableKey) (n : Nat) (t : Terminal) :
    strikes (List.replicate (n + 1) key) t = strike (strikes (List.replicate n key) t) key := by
  rw [List.replicate_succ', strikes_concat]

theorem length_charsOf (keys : List PrintableKey) : (charsOf keys).length = keys.length :=
  List.length_map _

theorem take_charsOf {typed : List PrintableKey} (short : typed.length ≤ 255) :
    (charsOf typed).take 255 = charsOf typed :=
  List.take_of_length_le (by rwa [length_charsOf])

theorem holding_typed (start : Holding [] t) {typed : List PrintableKey}
    (short : typed.length ≤ 255) : Holding (charsOf typed) (strikes typed t) :=
  holding_strikes start (by rwa [List.length_nil, Nat.zero_add])

theorem KeepsLine.short (start : Holding [] t) {keys : List PrintableKey}
    (keeps : KeepsLine keys t) : keys.length ≤ 255 := by
  by_contra long
  -- the first 255 keys, and the one behind them
  have split : keys.take 255 ++ [keys[255]] = keys.take 256 := List.take_append_getElem (by omega)
  have full : (keys.take 255).length = 255 := by
    rw [List.length_take]
    omega
  have holding := holding_typed start full.le
  have length := (length_charsOf (keys.take 255)).trans full
  have less := keeps.grows (keys.take 255) keys[255] (split ▸ List.take_prefix 256 keys)
  rw [strikes_concat, (strike_wraps holding length _).2, UInt8.le_iff_toNat_le, holding.index,
    length] at less
  exact absurd less (by decide)

/-- **The line is kept exactly** up to 255 characters. -/
theorem keepsLine_iff (start : Holding [] t) (keys : List PrintableKey) :
    KeepsLine keys t ↔ keys.length ≤ 255 := by
  constructor
  · exact fun keeps => keeps.short start
  · intro short
    refine ⟨fun typed first => ?_, fun typed key first => ?_, fun typed first enter isEnter => ?_⟩
    · have fits := first.length_le.trans short
      rw [take_charsOf fits]
      exact (holding_typed start fits).buffer
    · have fits := first.length_le.trans short
      have before : typed.length ≤ 255 := by
        rw [List.length_append] at fits
        omega
      rw [UInt8.le_iff_toNat_le, (holding_typed start fits).index,
        (holding_typed start before).index, length_charsOf, length_charsOf, List.length_append]
      omega
    · have fits := first.length_le.trans short
      rw [take_charsOf fits]
      have finished := refines_keystroke (holding_typed start fits) enter (absurd isEnter)
      rw [Editor.edit, if_pos isEnter] at finished
      exact finished.2

end

theorem keepsLine_iff_keyA : KeepsLine [keyA, keyA] freshSession :=
  (keepsLine_iff holding_freshSession.1 _).mpr (by decide)

/-- 256 times A: the index is back at 0, and the next make code wipes the buffer. -/
theorem keepsLine_counterexample :
    (strikes (List.replicate 256 keyA) freshSession).keyboard.bufferIndex = 0 ∧
      (∀ i, getKeyboardBuffer
        (keyboardIsr keyA.make (strikes (List.replicate 256 keyA) freshSession)) i = 0) ∧
      ¬ KeepsLine (List.replicate 256 keyA) freshSession := by
  have start := holding_freshSession.1
  generalize freshSession = t at start
  have length : (List.replicate 255 keyA).length = 255 := List.length_replicate
  obtain ⟨on, wrapped⟩ := strike_wraps (holding_typed start length.le)
    ((length_charsOf _).trans length) keyA
  rw [← strikes_replicate keyA 255 t] at on wrapped
  simp only [Nat.reduceAdd] at on wrapped
  refine ⟨wrapped, fun i => ?_, fun keeps => ?_⟩
  · rw [isr_make _ on, getKeyboardBuffer, wipeBuffer, if_pos wrapped]
  · have short := keeps.short start
    rw [List.length_replicate] at short
    exact absurd short (by decide)

end HexOS.Console
