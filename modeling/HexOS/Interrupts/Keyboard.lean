import HexOS.Interrupts.Liveness

/-!
What arrives from the keyboard.

A machine that a step has killed stays as `Doomed` says: the timer is never taken
out of service, or the scancode nobody reads keeps the controller from asking
again. A live one can always be made to read. So the keyboard is dead exactly
behind a step that kills (`dead_iff`). What the driver reads before is what was
typed, in order (`scancodes_in_order`), and behind the boot no other device
interrupts (`serving_accepts`).
-/

namespace HexOS.Interrupts

open Console

inductive Doomed (m : Machine) : Prop where
  /-- The timer is in service for ever, and blocks every line. -/
  | timer : m.pics.master.service 0 = true → m.handling ≠ some keyboardVector → Doomed m
  /-- Nobody reads the scancode, and nobody asks for it to be read. -/
  | unread : m.controller.output.isSome → m.pics.master.request 1 = false →
      (m.handling = some keyboardVector → m.terminal.keyboard.keyboardInputOn = false) → Doomed m

section

variable {m : Machine}

/-! ### A doomed machine -/

theorem next_none_of_timer (serving : m.pics.master.service 0 = true) : m.next = none := by
  have silent : m.pics.master.pending m.pics.lines = none := by
    cases pending : m.pics.master.pending m.pics.lines with
    | none => rfl
    | some i =>
        have free := (pending_spec pending).2.2 0 (Fin.zero_le i)
        rw [serving] at free
        cases free
  unfold Machine.next Pics.acknowledge
  rw [silent]
  exact ite_self _

/-- With input off the handler acknowledges what it does not read. -/
theorem finish_unread (handling : m.handling = some keyboardVector)
    (off : m.terminal.keyboard.keyboardInputOn = false) :
    m.finish = (none, { m with
      terminal := Console.keyboardIsr 0 m.terminal
      pics := { m.pics with master := m.pics.master.endOfInterrupt }
      handling := none }) := by
  simp only [Machine.finish, handling, Machine.mainInterruptHandler, keyboardVector, if_true,
    Machine.keyboardIsr, off, Bool.false_eq_true, if_false, picAck_keyboard]

theorem endOfInterrupt_request (p : Pic) : p.endOfInterrupt.request = p.request := by
  unfold Pic.endOfInterrupt
  split <;> rfl

theorem load_full (full : m.controller.output.isSome) : m.load = m := by
  unfold Machine.load
  split
  · rename_i scancode queue room
    rw [room] at full
    cases full
  · rfl

theorem load_kept (m : Machine) : m.load.pics.master.service = m.pics.master.service ∧
    m.load.handling = m.handling ∧ m.load.phase = m.phase ∧ m.load.terminal = m.terminal := by
  unfold Machine.load
  split <;> exact ⟨rfl, rfl, rfl, rfl⟩

theorem doomed_timer (serving : m.pics.master.service 0 = true)
    (other : m.handling ≠ some keyboardVector) (event : Event) :
    (step m event).1 = none ∧ Doomed (step m event).2 := by
  cases event with
  | press scancode => exact ⟨rfl, .timer serving other⟩
  | load =>
      obtain ⟨service, handling, -, -⟩ := load_kept m
      refine ⟨rfl, .timer ?_ ?_⟩
      · rw [step, service]
        exact serving
      · rw [step, handling]
        exact other
  | raise irq _ =>
      refine ⟨rfl, .timer ?_ other⟩
      exact (congrFun (raise_service m.pics irq) 0).trans serving
  | accept =>
      have same : m.accept = m := by
        rw [Machine.accept, next_none_of_timer serving]
      refine ⟨rfl, ?_⟩
      rw [step, same]
      exact .timer serving other
  | finish =>
      rw [step, finish_other other]
      exact ⟨rfl, .timer serving (by simp)⟩
  | boot =>
      obtain ⟨-, service, -, handling, -⟩ := boot_kept m
      refine ⟨rfl, ?_⟩
      simp only [step]
      split
      · exact .timer serving other
      · exact .timer (by rwa [service]) (by rwa [handling])
  | readLine =>
      refine ⟨rfl, ?_⟩
      simp only [step]
      split
      · exact .timer serving other
      · exact .timer serving other

theorem doomed_unread (masks : Masks m) (full : m.controller.output.isSome)
    (silent : m.pics.master.request 1 = false)
    (off : m.handling = some keyboardVector → m.terminal.keyboard.keyboardInputOn = false)
    (event : Event) : (step m event).1 = none ∧ Doomed (step m event).2 := by
  cases event with
  | press scancode => exact ⟨rfl, .unread full silent off⟩
  | load =>
      refine ⟨rfl, ?_⟩
      rw [step, load_full full]
      exact .unread full silent off
  | raise irq other => exact ⟨rfl, .unread full ((raise_request other m.pics).trans silent) off⟩
  | accept =>
      refine ⟨rfl, ?_⟩
      simp only [step, Machine.accept]
      split
      · rename_i vector pics next
        obtain ⟨-, i, pending, taken, -, -, -, keyboard⟩ := next_spec masks next
        have apart : i ≠ 1 := by
          rintro rfl
          have asked := (pending_spec pending).1
          rw [lines_one, silent] at asked
          cases asked
        refine .unread full ?_ fun handling => ?_
        · rw [taken, take_request, Function.update_of_ne apart.symm]
          exact silent
        · exact absurd (keyboard.mp (Option.some.inj handling)) apart
      · exact .unread full silent off
  | finish =>
      by_cases handling : m.handling = some keyboardVector
      · rw [step, finish_unread handling (off handling)]
        refine ⟨rfl, .unread full ?_ (by simp)⟩
        exact (congrFun (endOfInterrupt_request _) 1).trans silent
      · rw [step, finish_other handling]
        exact ⟨rfl, .unread full silent (by simp)⟩
  | boot =>
      obtain ⟨request, -, controller, handling, terminal⟩ := boot_kept m
      refine ⟨rfl, ?_⟩
      simp only [step]
      split
      · exact .unread full silent off
      · exact .unread (by rwa [controller]) (by rwa [request]) (by rwa [handling, terminal])
  | readLine =>
      refine ⟨rfl, ?_⟩
      simp only [step]
      split
      · exact .unread full silent off
      · rename_i free
        rw [not_or, Option.not_isSome_iff_eq_none] at free
        exact .unread full silent fun handling => by simp [free.1] at handling

theorem doomed_step (masks : Masks m) (doomed : Doomed m) (event : Event) :
    (step m event).1 = none ∧ Doomed (step m event).2 := by
  cases doomed with
  | timer serving other => exact doomed_timer serving other event
  | unread full silent off => exact doomed_unread masks full silent off event

theorem dead_of_doomed (masks : Masks m) (doomed : Doomed m) : Dead m := by
  intro events
  induction events generalizing m with
  | nil => rfl
  | cons event rest ih =>
      obtain ⟨silent, next⟩ := doomed_step masks doomed event
      rw [reads, silent, ih (masks_step masks event) next]
      rfl

theorem doomed_of_kills (masks : Masks m) (live : Live m) {event : Event} (kills : Kills m event) :
    Doomed (step m event).2 := by
  obtain ⟨rfl, vector, pics, next, deadly⟩ := kills
  obtain ⟨-, i, pending, taken, -, -, timer, keyboard⟩ := next_spec masks next
  simp only [step, Machine.accept, next]
  rcases deadly with tick | ⟨key, off⟩
  · obtain rfl := timer.mp tick
    refine .timer ?_ fun handling => ?_
    · rw [taken, masks.master.take_service, Function.update_self]
    · have same : pic1Offset = keyboardVector := tick.symm.trans (Option.some.inj handling)
      exact absurd same (by decide)
  · obtain rfl := keyboard.mp key
    have asked := (pending_spec pending).1
    rw [lines_one] at asked
    refine .unread (live.requested asked) ?_ fun _ => off
    rw [taken, take_request, Function.update_self]

/-! ### A live machine reads -/

theorem reads_later {event : Event} {rest : List Event}
    (later : reads (step m event).2 rest ≠ []) : reads m (event :: rest) ≠ [] :=
  fun none => later (List.append_eq_nil_iff.mp none).2

/-- A scancode in the controller, input on and nothing to wait for: the next
interrupt is the keyboard's. -/
theorem next_keyboard (masks : Masks m) (live : Live m) (serving : m.phase = .serving)
    (idle : m.handling = none) (full : m.controller.output.isSome) :
    ∃ pics, m.next = some (keyboardVector, pics) := by
  have asked : m.pics.lines 1 = true := by
    rw [lines_one]
    exact (live.announced full).resolve_right (by simp [idle])
  have mask := masks.mask (.inr serving)
  have free : ∀ j ≤ (1 : Fin 8), m.pics.master.service j = false := by
    intro j below
    have first : j = 0 ∨ j = 1 := by omega
    rcases first with rfl | rfl
    · exact live.timer
    · simpa [idle] using live.served
  have others : ∀ j < (1 : Fin 8), m.pics.master.masked j = true := by
    rw [show m.pics.master.masked = fun j => (0xFD : UInt8).toNat.testBit j.val from
      funext fun j => by rw [Pic.masked, mask]]
    decide
  have pending : m.pics.master.pending m.pics.lines = some 1 := by
    refine pending_of_first asked ?_ others free
    rw [Pic.masked, mask]
    decide
  have direct : ¬ (m.pics.master.cascade.toNat.testBit (1 : Fin 8).val = true ∧
      m.pics.slave.cascade.toNat = (1 : Fin 8).val) := by
    rw [masks.master.cascade]
    exact fun cascade => absurd cascade.1 (by decide)
  refine ⟨{ m.pics with master := m.pics.master.take 1 }, ?_⟩
  unfold Machine.next Pics.acknowledge
  rw [if_neg (by simp [serving, idle]), pending]
  simp only
  rw [if_neg direct, masks.master.vector]
  rfl

theorem load_fills {scancode : UInt8} {queue : List UInt8}
    (some : m.controller.queue = scancode :: queue) :
    m.load.controller.output.isSome := by
  by_cases full : m.controller.output.isSome
  · rwa [load_full full]
  · have empty : m.controller = ⟨none, scancode :: queue⟩ := by
      rw [← some, ← Option.not_isSome_iff_eq_none.mp full]
    unfold Machine.load
    rw [empty]
    rfl

theorem boot_serves (m : Machine) : m.boot.boot.boot.phase = .serving := by
  unfold Machine.boot
  cases phase : m.phase <;> simp [phase]

/-- With the boot finished, no handler running and input on, one more key is read. -/
theorem reads_key (masks : Masks m) (live : Live m) (serving : m.phase = .serving)
    (idle : m.handling = none) (on : m.terminal.keyboard.keyboardInputOn = true) (key : UInt8) :
    reads m [.press key, .load, .accept, .finish] ≠ [] := by
  refine reads_later (reads_later ?_)
  let pressed := (step m (.press key)).2
  have masks₂ : Masks pressed.load := masks_step (masks_step masks (.press key)) .load
  have live₂ : Live pressed.load := live_load
    ⟨live.timer, live.served, live.announced, live.requested, live.held⟩
  have full : pressed.load.controller.output.isSome := by
    obtain ⟨first, rest, queue⟩ : ∃ first rest, m.controller.queue ++ [key] = first :: rest :=
      List.exists_cons_of_ne_nil (by simp)
    exact load_fills (m := pressed) queue
  obtain ⟨-, handling, phase, terminal⟩ := load_kept pressed
  change reads pressed.load [.accept, .finish] ≠ []
  generalize pressed.load = loaded at masks₂ live₂ full handling phase terminal ⊢
  have on₂ : loaded.terminal.keyboard.keyboardInputOn = true := terminal ▸ on
  obtain ⟨pics, next⟩ := next_keyboard masks₂ live₂ (phase.trans serving) (handling.trans idle) full
  have harmless : ¬ Kills loaded .accept := by
    rintro ⟨-, vector, pics', next', tick | ⟨-, off⟩⟩
    · rw [next] at next'
      cases next'
      exact absurd tick (by decide)
    · rw [on₂] at off
      cases off
  have live₃ := live_accept masks₂ live₂ harmless
  have runs : loaded.accept.handling = some keyboardVector := by
    rw [Machine.accept, next]
  obtain ⟨scancode, -, finish⟩ := finish_keyboard live₃ runs
  refine reads_later ?_
  simp only [reads, step, finish]
  exact List.cons_ne_nil _ _

theorem boot_step (idle : m.handling = none) : (step m .boot).2 = m.boot := by
  rw [step, if_neg (by simp [idle])]

/-- The boot is carried on, a line is opened and a key is pressed. -/
theorem not_dead_of_live (masks : Masks m) (live : Live m) : ¬ Dead m := by
  intro dead
  by_cases keyboard : m.handling = some keyboardVector
  · obtain ⟨scancode, -, finish⟩ := finish_keyboard live keyboard
    have none := dead [.finish]
    simp only [reads, step, finish] at none
    cases none
  · let idle : Machine := { m with handling := none }
    have finish : (step m .finish).2 = idle := by rw [step, finish_other keyboard]
    have masks₁ : Masks idle := finish ▸ masks_step masks .finish
    have live₁ : Live idle := by
      have kept := live_finish live
      rwa [finish_other keyboard] at kept
    have handling : ∀ n : Machine, n.boot.handling = n.handling := fun n => (boot_kept n).2.2.2.1
    have serves := boot_serves idle
    have masks₂ := masks₁.boot.boot.boot
    have live₂ := live_boot (live_boot (live_boot live₁))
    have idle₂ : idle.boot.boot.boot.handling = none := by rw [handling, handling, handling]
    refine reads_later ?_ (dead [.finish, .boot, .boot, .boot, .readLine, .press 0x1E, .load, .accept,
      .finish])
    rw [finish]
    refine reads_later (reads_later (reads_later (reads_later ?_)))
    have first : (step idle .boot).2 = idle.boot := boot_step rfl
    rw [first, boot_step (handling idle), boot_step (by rw [handling, handling])]
    generalize idle.boot.boot.boot = booted at serves masks₂ live₂ idle₂ ⊢
    have reading : (step booted .readLine).2 =
        { booted with terminal := keyboardStateActivate booted.terminal } := by
      simp only [step]
      exact if_neg (by simp [idle₂, serves])
    rw [reading]
    have masks₃ : Masks { booted with terminal := keyboardStateActivate booted.terminal } :=
      masks₂.congr rfl rfl
    have live₃ : Live { booted with terminal := keyboardStateActivate booted.terminal } :=
      ⟨live₂.timer, live₂.served, live₂.announced, live₂.requested,
        fun running => by simp [idle₂] at running⟩
    exact reads_key masks₃ live₃ serves idle₂ rfl 0x1E

/-! ### Runs -/

theorem after_cons (m : Machine) (event : Event) (rest : List Event) :
    after m (event :: rest) = after (step m event).2 rest := rfl

theorem masks_after (masks : Masks m) (events : List Event) : Masks (after m events) := by
  induction events generalizing m with
  | nil => exact masks
  | cons event rest ih => exact ih (masks_step masks event)

theorem doomed_after (masks : Masks m) (doomed : Doomed m) (events : List Event) :
    Doomed (after m events) := by
  induction events generalizing m with
  | nil => exact doomed
  | cons event rest ih => exact ih (masks_step masks event) (doomed_step masks doomed event).2

/-- A run leaves the machine live, or one of its steps has killed it. -/
theorem live_or_killed (masks : Masks m) (live : Live m) (events : List Event) :
    (Live (after m events) ∧ ∀ before event later, events = before ++ event :: later →
      ¬ Kills (after m before) event) ∨
    (Doomed (after m events) ∧ ∃ before event later, events = before ++ event :: later ∧
      Kills (after m before) event) := by
  induction events generalizing m with
  | nil => exact .inl ⟨live, fun before event later split => by simp at split⟩
  | cons event rest ih =>
      have next := masks_step masks event
      by_cases kills : Kills m event
      · exact .inr ⟨doomed_after next (doomed_of_kills masks live kills) rest,
          [], event, rest, rfl, kills⟩
      · rcases ih next (live_step masks live kills) with ⟨still, none⟩ |
          ⟨doomed, before, e, later, split, killed⟩
        · refine .inl ⟨still, fun before e later split => ?_⟩
          rcases List.cons_eq_append_iff.mp split with ⟨rfl, same⟩ | ⟨front, rfl, tail⟩
          · cases same
            exact kills
          · exact none front e later tail
        · exact .inr ⟨doomed, event :: before, e, later, by rw [split]; rfl, killed⟩

end

/-- **The keyboard dies exactly** when the processor accepts a timer interrupt, or
a keyboard interrupt while input is off. -/
theorem dead_iff (firmware : Pics) (events : List Event) :
    Dead (after (remappedMachine firmware) events) ↔
      ∃ before event later, events = before ++ event :: later ∧
        Kills (after (remappedMachine firmware) before) event := by
  have masks := masks_after (masks_remapped firmware) events
  rcases live_or_killed (masks_remapped firmware) (live_remapped firmware) events with
    ⟨live, none⟩ | ⟨doomed, killed⟩
  · refine iff_of_false (not_dead_of_live masks live) ?_
    rintro ⟨before, event, later, split, kills⟩
    exact none before event later split kills
  · exact iff_of_true (dead_of_doomed masks doomed) killed

/-! ### The scancodes -/

/-- What is pressed over a run. -/
def pressed : List Event → List UInt8
  | [] => []
  | .press scancode :: rest => scancode :: pressed rest
  | _ :: rest => pressed rest

/-- What is on its way to the driver. -/
def Controller.underway (c : Controller) : List UInt8 := c.output.toList ++ c.queue

theorem underway_load (m : Machine) : m.load.controller.underway = m.controller.underway := by
  unfold Machine.load
  split
  · rename_i scancode queue room
    rw [room]
    rfl
  · rfl

theorem underway_step {m : Machine} (state : Live m ∨ Doomed m) (event : Event) :
    (step m event).1.toList ++ (step m event).2.controller.underway =
      m.controller.underway ++ pressed [event] := by
  cases event with
  | press scancode =>
      simp only [step, Controller.underway, pressed, Option.toList_none, List.nil_append,
        List.append_assoc]
  | load =>
      simp only [step, underway_load, pressed, Option.toList_none, List.nil_append, List.append_nil]
  | accept =>
      have same : m.accept.controller = m.controller := by
        unfold Machine.accept
        split <;> rfl
      simp only [step, same, pressed, Option.toList_none, List.nil_append, List.append_nil]
  | finish =>
      simp only [step, pressed, List.append_nil]
      by_cases keyboard : m.handling = some keyboardVector
      · rcases state with live | doomed
        · obtain ⟨scancode, output, finish⟩ := finish_keyboard live keyboard
          rw [finish, Controller.underway, Controller.underway, output]
          rfl
        · cases doomed with
          | timer _ other => exact absurd keyboard other
          | unread _ _ off =>
              rw [finish_unread keyboard (off keyboard)]
              rfl
      · rw [finish_other keyboard]
        rfl
  | boot =>
      obtain ⟨-, -, controller, -, -⟩ := boot_kept m
      simp only [step, pressed, Option.toList_none, List.nil_append, List.append_nil]
      split
      · rfl
      · rw [controller]
  | readLine =>
      simp only [step, pressed, Option.toList_none, List.nil_append, List.append_nil]
      split <;> rfl
  | raise irq other =>
      simp only [step, pressed, Option.toList_none, List.nil_append, List.append_nil]

theorem underway_run {m : Machine} (masks : Masks m) (state : Live m ∨ Doomed m)
    (events : List Event) :
    reads m events ++ (after m events).controller.underway =
      m.controller.underway ++ pressed events := by
  induction events generalizing m with
  | nil => exact (List.append_nil _).symm
  | cons event rest ih =>
      have next : Live (step m event).2 ∨ Doomed (step m event).2 := by
        rcases state with live | doomed
        · by_cases kills : Kills m event
          · exact .inr (doomed_of_kills masks live kills)
          · exact .inl (live_step masks live kills)
        · exact .inr (doomed_step masks doomed event).2
      have split : pressed (event :: rest) = pressed [event] ++ pressed rest := by
        cases event <;> rfl
      rw [reads, after_cons, List.append_assoc, ih (masks_step masks event) next, ← List.append_assoc,
        underway_step state event, List.append_assoc, split]

/-- **No scancode is lost, doubled or reordered** on its way: what the driver has
read and what is underway is what was pressed. -/
theorem scancodes_in_order (firmware : Pics) (events : List Event) :
    reads (remappedMachine firmware) events ++
        (after (remappedMachine firmware) events).controller.underway = pressed events :=
  underway_run (masks_remapped firmware) (.inl (live_remapped firmware)) events

/-- **No other device interrupts.** Behind `activate_keyboard_interrupt` the
processor accepts the keyboard's interrupt or none. -/
theorem serving_accepts (firmware : Pics) (events : List Event)
    (serving : (after (remappedMachine firmware) events).phase = .serving) :
    (after (remappedMachine firmware) events).next = none ∨
      ∃ pics, (after (remappedMachine firmware) events).next = some (keyboardVector, pics) := by
  have masks := masks_after (masks_remapped firmware) events
  generalize after (remappedMachine firmware) events = m at serving masks ⊢
  cases next : m.next with
  | none => exact .inl rfl
  | some accepted =>
      obtain ⟨vector, pics⟩ := accepted
      obtain ⟨-, i, pending, -, -, -, -, keyboard⟩ := next_spec masks next
      have unmasked := (pending_spec pending).2.1
      rw [Pic.masked, masks.mask (.inr serving)] at unmasked
      have only : ∀ i : Fin 8, (0xFD : UInt8).toNat.testBit i.val = false → i = 1 := by decide
      exact .inr ⟨pics, by rw [keyboard.mpr (only i unmasked)]⟩

/-- The controllers as a firmware may leave them: all lines open. -/
def openPics : Pics := ⟨remapped 0x08 4 0, remapped 0x70 2 0⟩

/-- The timer ticks when the boot is over. -/
def tickWhileServing : List Event := [.boot, .boot, .boot, .raise ⟨0, Nat.succ_pos 15⟩ Nat.zero_ne_one]

theorem serving_accepts_tick :
    (after (remappedMachine openPics) tickWhileServing).next = none ∨
      ∃ pics, (after (remappedMachine openPics) tickWhileServing).next =
        some (keyboardVector, pics) :=
  serving_accepts openPics tickWhileServing rfl

end HexOS.Interrupts
