import HexOS.Interrupts.Delivery

/-!
When the keyboard dies: the steps.

`Masks` says how the boot has programmed the controllers, and every step keeps
it. `Live` says what has to hold between the keyboard, the controllers and the
handler for the next scancode to arrive; a step keeps it unless it kills.
-/

namespace HexOS.Interrupts

open Console

/-- The vector of the keyboard. -/
def keyboardVector : UInt8 := pic1Offset + irqKeyboard

/-- Both controllers are programmed, and masked once the boot has come to it. -/
structure Masks (m : Machine) : Prop where
  master : Programmed pic1Offset 4 m.pics.master
  slave : Programmed pic2Offset 2 m.pics.slave
  mask : m.phase = .half ∨ m.phase = .serving → m.pics.master.mask = 0xFD
  slaveMask : m.phase = .serving → m.pics.slave.mask = 0xFF

/-- A scancode in the controller has been announced, and will be read when its
interrupt is handled. -/
structure Live (m : Machine) : Prop where
  timer : m.pics.master.service 0 = false
  served : m.pics.master.service 1 = true ↔ m.handling = some keyboardVector
  announced : m.controller.output.isSome →
    m.pics.master.request 1 = true ∨ m.handling = some keyboardVector
  requested : m.pics.master.request 1 = true → m.controller.output.isSome
  held : m.handling = some keyboardVector → m.controller.output.isSome ∧
    m.pics.master.request 1 = false ∧ m.terminal.keyboard.keyboardInputOn = true

theorem masks_remapped (firmware : Pics) : Masks (remappedMachine firmware) := by
  constructor
  · exact programmed_remapped _ _ _
  · exact programmed_remapped _ _ _
  · intro late
    rcases late with half | serving <;> contradiction
  · intro late
    contradiction

theorem live_remapped (firmware : Pics) : Live (remappedMachine firmware) := by
  constructor
  · rfl
  · exact ⟨fun serving => absurd serving Bool.false_ne_true, fun handling => by cases handling⟩
  · exact fun output => by cases output
  · exact fun requested => absurd requested Bool.false_ne_true
  · exact fun handling => by cases handling

section

variable {m : Machine}

/-! ### Accepting an interrupt -/

/-- What the processor accepts is the request the first controller passes on. The
vectors of the timer and of the keyboard belong to its lines 0 and 1 alone. -/
theorem next_spec (masks : Masks m) {vector : UInt8} {pics : Pics}
    (next : m.next = some (vector, pics)) :
    m.handling = none ∧ ∃ i, m.pics.master.pending m.pics.lines = some i ∧
      pics.master = m.pics.master.take i ∧ Programmed pic2Offset 2 pics.slave ∧
      pics.slave.mask = m.pics.slave.mask ∧
      (vector = pic1Offset ↔ i = 0) ∧ (vector = keyboardVector ↔ i = 1) := by
  have vectors : ∀ i : Fin 8, (pic1Offset + UInt8.ofNat i.val = pic1Offset ↔ i = 0) ∧
      (pic1Offset + UInt8.ofNat i.val = keyboardVector ↔ i = 1) := by decide
  have others : ∀ k : Fin 8, pic2Offset + UInt8.ofNat k.val ≠ pic1Offset ∧
      pic2Offset + UInt8.ofNat k.val ≠ keyboardVector := by decide
  have cascades : ∀ i : Fin 8, (4 : UInt8).toNat.testBit i.val = true → i = 2 := by decide
  obtain ⟨master, slave, -, -⟩ := masks
  unfold Machine.next at next
  split at next
  · cases next
  · rename_i ready
    rw [not_or, Option.not_isSome_iff_eq_none] at ready
    refine ⟨ready.2, ?_⟩
    unfold Pics.acknowledge at next
    split at next
    · cases next
    · rename_i i pending
      refine ⟨i, pending, ?_⟩
      split at next
      · rename_i cascade
        rw [master.cascade] at cascade
        obtain rfl := cascades i cascade.1
        split at next
        · rename_i k _
          cases next
          have other := others k
          rw [slave.vector]
          exact ⟨rfl, slave.take k, rfl, iff_of_false other.1 (by decide),
            iff_of_false other.2 (by decide)⟩
        · cases next
          rw [master.vector]
          exact ⟨rfl, slave, rfl, vectors 2⟩
      · cases next
        rw [master.vector]
        exact ⟨rfl, slave, rfl, vectors i⟩

/-- The keyboard's line requests what it requests. -/
theorem lines_one (p : Pics) : p.lines 1 = p.master.request 1 := by
  simp [Pics.lines]

/-! ### What the steps leave alone -/

theorem raise_service (p : Pics) (irq : Fin 16) :
    (p.raise irq).master.service = p.master.service := by
  unfold Pics.raise
  split <;> rfl

theorem raise_request {irq : Fin 16} (other : irq.val ≠ 1) (p : Pics) :
    (p.raise irq).master.request 1 = p.master.request 1 := by
  unfold Pics.raise
  split
  · have apart : (1 : Fin 8) ≠ Fin.ofNat 8 irq.val := by
      intro same
      have value : 1 = irq.val % 8 := congrArg Fin.val same
      omega
    exact Function.update_of_ne apart _ _
  · rfl

/-- A statement of the boot touches neither requests nor interrupts in service. -/
theorem boot_kept (m : Machine) :
    m.boot.pics.master.request = m.pics.master.request ∧
      m.boot.pics.master.service = m.pics.master.service ∧ m.boot.controller = m.controller ∧
      m.boot.handling = m.handling ∧ m.boot.terminal = m.terminal := by
  have data : ∀ (p : Pic) (byte : UInt8), (p.data byte).request = p.request ∧
      (p.data byte).service = p.service := by
    intro p byte
    unfold Pic.data
    split <;> exact ⟨rfl, rfl⟩
  unfold Machine.boot
  split
  · exact ⟨rfl, rfl, rfl, rfl, rfl⟩
  · exact ⟨(data _ _).1, (data _ _).2, rfl, rfl, rfl⟩
  · exact ⟨rfl, rfl, rfl, rfl, rfl⟩
  · exact ⟨rfl, rfl, rfl, rfl, rfl⟩

/-- A handler does nothing to the controllers but end an interrupt. -/
theorem finish_pics (m : Machine) :
    (m.finish.2.pics = m.pics ∨
      m.finish.2.pics = { m.pics with master := m.pics.master.endOfInterrupt }) ∧
      m.finish.2.phase = m.phase := by
  unfold Machine.finish Machine.mainInterruptHandler Machine.keyboardIsr
  split
  · simp only
    split
    · split
      · exact ⟨.inr rfl, rfl⟩
      · exact ⟨.inr rfl, rfl⟩
    · exact ⟨.inl rfl, rfl⟩
  · exact ⟨.inl rfl, rfl⟩

/-! ### The masks -/

theorem Masks.raise (masks : Masks m) (irq : Fin 16) : Masks { m with pics := m.pics.raise irq } := by
  obtain ⟨master, slave, mask, slaveMask⟩ := masks
  unfold Pics.raise
  split
  · exact ⟨master.raise _, slave, mask, slaveMask⟩
  · exact ⟨master, slave.raise _, mask, slaveMask⟩

theorem Masks.endOfInterrupt (masks : Masks m) :
    Masks { m with pics := { m.pics with master := m.pics.master.endOfInterrupt } } := by
  have same : m.pics.master.endOfInterrupt.mask = m.pics.master.mask := by
    unfold Pic.endOfInterrupt
    split <;> rfl
  exact ⟨masks.master.endOfInterrupt, masks.slave, fun late => same.trans (masks.mask late),
    masks.slaveMask⟩

theorem Masks.boot (masks : Masks m) : Masks m.boot := by
  obtain ⟨master, slave, mask, slaveMask⟩ := masks
  unfold Machine.boot
  split
  · refine ⟨master, slave, fun late => ?_, fun late => ?_⟩
    · rcases late with half | serving <;> contradiction
    · contradiction
  · refine ⟨?_, slave, fun _ => congrArg Pic.mask (master.data _), fun late => ?_⟩
    · rw [maskMaster, Pics.portOut]
      exact master.data _ ▸ master.setMask _
    · contradiction
  · rename_i half
    refine ⟨master, ?_, fun _ => mask (.inl half), fun _ => congrArg Pic.mask (slave.data _)⟩
    rw [maskSlave, Pics.portOut]
    exact slave.data _ ▸ slave.setMask _
  · exact ⟨master, slave, mask, slaveMask⟩

/-- Programming and masks do not depend on anything else of the machine. -/
theorem Masks.congr {m' : Machine} (masks : Masks m) (pics : m'.pics = m.pics)
    (phase : m'.phase = m.phase) : Masks m' := by
  constructor
  · rw [pics]
    exact masks.master
  · rw [pics]
    exact masks.slave
  · rw [pics, phase]
    exact masks.mask
  · rw [pics, phase]
    exact masks.slaveMask

/-- Every step keeps the programming and the masks. -/
theorem masks_step (masks : Masks m) (event : Event) : Masks (step m event).2 := by
  cases event with
  | press scancode => exact masks.congr rfl rfl
  | load =>
      simp only [step, Machine.load]
      split
      · exact (masks.raise 1).congr rfl rfl
      · exact masks
  | raise irq other => exact masks.raise irq
  | accept =>
      simp only [step, Machine.accept]
      split
      · rename_i vector pics next
        obtain ⟨-, i, -, taken, slave, slaveMask, -⟩ := next_spec masks next
        constructor
        · exact taken ▸ masks.master.take i
        · exact slave
        · exact fun late => taken ▸ masks.mask late
        · exact fun late => slaveMask.trans (masks.slaveMask late)
      · exact masks
  | finish =>
      obtain ⟨same | ended, phase⟩ := finish_pics m
      · exact masks.congr same phase
      · exact masks.endOfInterrupt.congr ended phase
  | boot =>
      simp only [step]
      split
      · exact masks
      · exact masks.boot
  | readLine =>
      simp only [step]
      split
      · exact masks
      · exact masks.congr rfl rfl

/-! ### A live machine -/

theorem live_load (live : Live m) : Live m.load := by
  unfold Machine.load
  split
  · rename_i scancode queue room
    have idle : m.handling ≠ some keyboardVector := by
      intro handling
      have full := (live.held handling).1
      rw [room] at full
      cases full
    constructor
    · exact live.timer
    · exact live.served
    · exact fun _ => .inl rfl
    · exact fun _ => rfl
    · exact fun handling => absurd handling idle
  · exact live

theorem live_raise (live : Live m) {irq : Fin 16} (other : irq.val ≠ 1) :
    Live { m with pics := m.pics.raise irq } := by
  have request := raise_request other m.pics
  have service := raise_service m.pics irq
  constructor
  · exact (congrFun service 0).trans live.timer
  · exact service ▸ live.served
  · exact request ▸ live.announced
  · exact request ▸ live.requested
  · exact request ▸ live.held

theorem live_accept (masks : Masks m) (live : Live m) (harmless : ¬ Kills m .accept) :
    Live m.accept := by
  unfold Machine.accept
  split
  · rename_i vector pics next
    obtain ⟨idle, i, pending, taken, -, -, timer, keyboard⟩ := next_spec masks next
    have apart : (0 : Fin 8) ≠ i := by
      intro same
      exact harmless ⟨rfl, vector, pics, next, .inl (timer.mpr same.symm)⟩
    have service : pics.master.service = Function.update m.pics.master.service i true := by
      rw [taken, masks.master.take_service]
    have request : pics.master.request = Function.update m.pics.master.request i false := by
      rw [taken, take_request]
    have notServed : m.pics.master.service 1 = false := by
      simpa [idle] using live.served
    constructor
    · rw [service, Function.update_of_ne apart, live.timer]
    · rw [service, Option.some.injEq, keyboard]
      by_cases here : i = 1
      · rw [here, Function.update_self]
        exact iff_of_true rfl rfl
      · rw [Function.update_of_ne fun same => here same.symm, notServed]
        exact iff_of_false Bool.false_ne_true here
    · intro output
      rw [request, Option.some.injEq, keyboard]
      by_cases here : i = 1
      · exact .inr here
      · rw [Function.update_of_ne fun same => here same.symm]
        exact .inl ((live.announced output).resolve_right (by simp [idle]))
    · intro asked
      by_cases here : i = 1
      · rw [request, here, Function.update_self] at asked
        cases asked
      · rw [request, Function.update_of_ne fun same => here same.symm] at asked
        exact live.requested asked
    · intro handling
      have here : i = 1 := keyboard.mp (Option.some.inj handling)
      subst here
      have asked := (pending_spec pending).1
      rw [lines_one] at asked
      refine ⟨live.requested asked, by rw [request, Function.update_self], ?_⟩
      by_contra off
      exact harmless ⟨rfl, vector, pics, next, .inr ⟨keyboard.mpr rfl, by simpa using off⟩⟩
  · exact live

/-- The handler of the keyboard reads the scancode and ends the interrupt. -/
theorem finish_keyboard (live : Live m) (handling : m.handling = some keyboardVector) :
    ∃ scancode, m.controller.output = some scancode ∧
      m.finish = (some scancode, { m with
        controller := { m.controller with output := none }
        terminal := Console.keyboardIsr scancode m.terminal
        pics := { m.pics with master :=
          { m.pics.master with service := Function.update m.pics.master.service 1 false } }
        handling := none }) := by
  obtain ⟨full, -, on⟩ := live.held handling
  obtain ⟨scancode, output⟩ := Option.isSome_iff_exists.mp full
  have first : ∀ j < (1 : Fin 8), m.pics.master.service j = false := by
    intro j less
    have zero : j = 0 := by omega
    rw [zero]
    exact live.timer
  have ended := endOfInterrupt_service (live.served.mpr handling) first
  refine ⟨scancode, output, ?_⟩
  simp only [Machine.finish, handling, Machine.mainInterruptHandler, keyboardVector, if_true,
    Machine.keyboardIsr, on, output, Option.getD_some, picAck_keyboard, ended]

/-- A handler that does not know its vector does nothing. -/
theorem finish_other (other : m.handling ≠ some keyboardVector) :
    m.finish = (none, { m with handling := none }) := by
  unfold Machine.finish
  split
  · rename_i vector handling
    have unknown : ¬ vector = keyboardVector := by
      intro same
      exact other (handling.trans (congrArg some same))
    have quiet : m.mainInterruptHandler vector = (none, m) := if_neg unknown
    rw [quiet]
  · rename_i idle
    rw [← idle]

theorem live_finish (live : Live m) : Live m.finish.2 := by
  by_cases keyboard : m.handling = some keyboardVector
  · obtain ⟨scancode, -, finish⟩ := finish_keyboard live keyboard
    have none : m.pics.master.request 1 = false := (live.held keyboard).2.1
    rw [finish]
    constructor
    · exact live.timer
    · exact iff_of_false (by simp) (by simp)
    · exact fun output => by cases output
    · exact fun asked => absurd (none.symm.trans asked) Bool.false_ne_true
    · exact fun handling => by cases handling
  · have notServed : m.pics.master.service 1 = false := by
      simpa [keyboard] using live.served
    rw [finish_other keyboard]
    constructor
    · exact live.timer
    · exact iff_of_false (by simp [notServed]) (by simp)
    · exact fun output => .inl ((live.announced output).resolve_right keyboard)
    · exact live.requested
    · exact fun handling => by cases handling

theorem live_boot (live : Live m) : Live m.boot := by
  obtain ⟨request, service, controller, handling, terminal⟩ := boot_kept m
  constructor
  · rw [service]
    exact live.timer
  · rw [service, handling]
    exact live.served
  · rw [controller, request, handling]
    exact live.announced
  · rw [controller, request]
    exact live.requested
  · rw [controller, request, handling, terminal]
    exact live.held

/-- **A step that does not kill** keeps the machine live. -/
theorem live_step (masks : Masks m) (live : Live m) {event : Event}
    (harmless : ¬ Kills m event) : Live (step m event).2 := by
  cases event with
  | press scancode =>
      exact ⟨live.timer, live.served, live.announced, live.requested, live.held⟩
  | load => exact live_load live
  | raise irq other => exact live_raise live other
  | accept => exact live_accept masks live harmless
  | finish => exact live_finish live
  | boot =>
      simp only [step]
      split
      · exact live
      · exact live_boot live
  | readLine =>
      simp only [step]
      split
      · exact live
      · exact ⟨live.timer, live.served, live.announced, live.requested,
          fun handling => ⟨(live.held handling).1, (live.held handling).2.1, rfl⟩⟩

end

end HexOS.Interrupts
