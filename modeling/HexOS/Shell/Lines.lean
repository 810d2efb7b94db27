import HexOS.Library.PartialRuns
import HexOS.Shell.System

/-!
No line is lost.

A zipper editor reads the reports of a run: the scancodes as they came, and when
input was turned on. `typedLines` are the lines it finishes. `lines_echoed` shows
that the buffers the shell echoes are these lines, in order, however interrupts
and turns of the shell follow each other; `shell_advances` counts its turns, and
shows that nothing but an unfinished line ever holds it up.
-/

namespace HexOS.Shell

open Console LineZipper PartialRuns

/-! ### Reading the reports -/

def Report.event : Report → Option RawEvent
  | .key scancode => some (.code scancode)
  | .activated => some .activate
  | _ => none

def editorAfter (editor : RawEditor) (report : Report) : RawEditor :=
  match report.event with
  | some event => editor.step event
  | none => editor

/-- The buffer an event finishes. -/
def finished : RawEditor → RawEditor → List (List UInt8)
  | .editing _ _, .off bytes => [bytes]
  | _, _ => []

/-- The buffers of the finished lines, in order. -/
def typedLines : RawEditor → List Report → List (List UInt8)
  | _, [] => []
  | editor, report :: rest =>
      finished editor (editorAfter editor report) ++ typedLines (editorAfter editor report) rest

def Report.echo : Report → List (Bytes 16)
  | .echoed line => [line]
  | _ => []

def echoes (reports : List Report) : List (Bytes 16) := reports.flatMap Report.echo

/-- The first 16 bytes of a buffer, which is 0 behind its bytes. -/
def shown (bytes : List UInt8) : Bytes 16 := fun i => bytes.getD i.val 0

/-! ### The shell and the editor -/

/-- Where the shell is, with the lines that are finished and not yet echoed. -/
def Stage (waitingLines : List (List UInt8)) (editor : RawEditor) (s : System) : Prop :=
  match s.place with
  | .waiting =>
      (waitingLines = [] ∧ ∃ z pending, editor = .editing z pending) ∨
        ∃ bytes, waitingLines = [bytes] ∧ editor = .off bytes
  | .fetching i =>
      ∃ bytes, waitingLines = [bytes] ∧ editor = .off bytes ∧
        ∀ j : Fin 256, j.val < i → s.kernelBuf j = bytes.getD j.val 0
  | .handing i =>
      ∃ bytes, waitingLines = [bytes] ∧ editor = .off bytes ∧
        (∀ j : Fin 256, s.kernelBuf j = bytes.getD j.val 0) ∧
        ∀ j : Fin 16, j.val < i → s.shellBuf j = bytes.getD j.val 0
  | .echo => ∃ bytes, waitingLines = [bytes] ∧ editor = .off bytes ∧ s.shellBuf = shown bytes
  | _ => waitingLines = [] ∧ ∃ bytes, editor = .off bytes

structure Follows (waitingLines : List (List UInt8)) (editor : RawEditor) (s : System) : Prop where
  tracks : Tracks editor s.kernel.terminal
  stage : Stage waitingLines editor s

theorem follows_entered (filesystem : Fat32.Driver) (kernelBuf : Bytes 256)
    (shellBuf : Bytes 16) :
    Follows [] (.off []) (entered filesystem kernelBuf shellBuf) :=
  ⟨tracks_cleared, rfl, [], rfl⟩

theorem tracks_congr {editor : RawEditor} {t t' : Terminal} (same : SameKeyboard t t')
    (tracks : Tracks editor t) : Tracks editor t' := by
  obtain ⟨keyboard, key, make⟩ := same
  cases editor with
  | off bytes =>
      obtain ⟨⟨off, index, none⟩, buffer⟩ := tracks
      exact ⟨⟨by rwa [keyboard], by rwa [keyboard], by rwa [make]⟩, by rwa [keyboard]⟩
  | editing z pending =>
      obtain ⟨on, index, buffer, noted, last⟩ := tracks
      exact ⟨by rwa [keyboard], by rwa [keyboard], by rwa [keyboard], by rwa [make], by rwa [key]⟩

@[simp] theorem finished_self (editor : RawEditor) : finished editor editor = [] := by
  cases editor <;> rfl

/-- What one turn owes: the lines waiting before and the one it finishes are those
it echoes and those that wait behind it. -/
structure Owes (waitingLines : List (List UInt8)) (editor : RawEditor) (report : Report)
    (s' : System) (echoed left : List (List UInt8)) : Prop where
  balance : waitingLines ++ finished editor (editorAfter editor report) = echoed ++ left
  echoed : echoed.map shown = report.echo
  follows : Follows left (editorAfter editor report) s'

section

variable {waitingLines : List (List UInt8)} {editor : RawEditor} {s : System}

/-- An interrupt: a key for the line that is open, and none otherwise. -/
theorem stage_interrupt (stage : Stage waitingLines editor s) (scancode : UInt8) (kernel : Kernel) :
    Stage (waitingLines ++ finished editor (editor.step (.code scancode)))
      (editor.step (.code scancode)) { s with kernel } := by
  obtain ⟨old, place, kernelBuf, shellBuf⟩ := s
  have still : ∀ bytes, editor = .off bytes → editor.step (.code scancode) = editor := by
    intro bytes off
    rw [off]
    rfl
  by_cases off : ∃ bytes, editor = .off bytes
  · obtain ⟨bytes, closed⟩ := off
    rw [still bytes closed, finished_self, List.append_nil]
    exact stage
  · -- a line is open, so the kernel waits
    have waits : place = .waiting ∧ waitingLines = [] := by
      cases place with
      | waiting =>
          rcases stage with ⟨none, -⟩ | ⟨bytes, -, closed⟩
          · exact ⟨rfl, none⟩
          · exact absurd ⟨bytes, closed⟩ off
      | fetching i =>
          obtain ⟨bytes, -, closed, -⟩ := stage
          exact absurd ⟨bytes, closed⟩ off
      | handing i =>
          obtain ⟨bytes, -, closed, -⟩ := stage
          exact absurd ⟨bytes, closed⟩ off
      | echo =>
          obtain ⟨bytes, -, closed, -⟩ := stage
          exact absurd ⟨bytes, closed⟩ off
      | _ => exact absurd stage.2 off
    obtain ⟨rfl, rfl⟩ := waits
    cases editor with
    | off bytes => exact absurd ⟨bytes, rfl⟩ off
    | editing z pending =>
        rw [List.nil_append]
        generalize RawEditor.step (.editing z pending) (.code scancode) = next
        cases next with
        | off bytes => exact .inr ⟨bytes, rfl, rfl⟩
        | editing z' pending' => exact .inl ⟨rfl, z', pending', rfl⟩

theorem owes_interrupt (follows : Follows waitingLines editor s) (scancode : UInt8) :
    ∃ report s', turn s (.interrupt scancode) = .ok (report, s') ∧
      ∃ echoed left, Owes waitingLines editor report s' echoed left := by
  refine ⟨.key scancode, _, rfl, [], _, (List.nil_append _).symm, rfl, ?_, ?_⟩
  · exact tracks_step follows.tracks (.code scancode)
  · exact stage_interrupt follows.stage scancode _

/-- A turn that neither finishes nor echoes a line. -/
theorem owes_quiet {report : Report} {s' : System} (quiet : report.event = none)
    (silent : report.echo = []) (tracks : Tracks editor s'.kernel.terminal)
    (stage : Stage waitingLines editor s') :
    ∃ echoed left, Owes waitingLines editor report s' echoed left := by
  have same : editorAfter editor report = editor := by rw [editorAfter, quiet]
  refine ⟨[], waitingLines, ?_, silent.symm, ?_⟩
  · rw [same, finished_self, List.append_nil, List.nil_append]
  · rw [same]
    exact ⟨tracks, stage⟩

/-- One of the four calls that print the prompt. -/
theorem owes_prompt (tracks : Tracks editor s.kernel.terminal) (text : Text) (color : UInt32)
    {next : Place} (stage : ∀ kernel, Stage waitingLines editor { s with kernel, place := next }) :
    ∃ report s', s.call (.puts text color) next .moved = .ok (report, s') ∧
      ∃ echoed left, Owes waitingLines editor report s' echoed left := by
  obtain ⟨status, kernel, done, called⟩ := call_returns s (.puts text color) next .moved
  exact ⟨_, _, called, owes_quiet rfl rfl (tracks_congr (puts_keyboard done) tracks) (stage kernel)⟩

/-- System call 4 opens a line. -/
theorem owes_read (follows : Follows waitingLines editor s) (place : s.place = .read) :
    ∃ report s', turn s .shell = .ok (report, s') ∧
      ∃ echoed left, Owes waitingLines editor report s' echoed left := by
  obtain ⟨tracks, stage⟩ := follows
  simp only [Stage, place] at stage
  obtain ⟨rfl, bytes, rfl⟩ := stage
  simp only [turn, place, System.call, kernelStep, Console.syscall]
  refine ⟨_, _, rfl, [], [], rfl, rfl, ?_, .inl ⟨rfl, _, _, rfl⟩⟩
  have same : SameKeyboard s.kernel.terminal
      { s.kernel.terminal with screen := (framebufferGetCursor s.kernel.terminal.screen).2.2 } :=
    ⟨rfl, rfl, rfl⟩
  exact tracks_step (tracks_congr same tracks) .activate

/-- The loop of system call 4 leaves when the line is finished. -/
theorem owes_wait (follows : Follows waitingLines editor s) (place : s.place = .waiting) :
    ∃ report s', turn s .shell = .ok (report, s') ∧
      ∃ echoed left, Owes waitingLines editor report s' echoed left := by
  obtain ⟨tracks, stage⟩ := follows
  have here := stage
  simp only [Stage, place] at here
  simp only [turn, place]
  rcases here with ⟨rfl, z, pending, rfl⟩ | ⟨bytes, rfl, rfl⟩
  · have blocks : isKeyboardBlocking s.kernel.terminal = true := tracks.inputOn
    rw [if_pos blocks]
    exact ⟨_, _, rfl, owes_quiet rfl rfl tracks stage⟩
  · have free : isKeyboardBlocking s.kernel.terminal = false := tracks.off.inputOff
    rw [free, if_neg Bool.false_ne_true]
    exact ⟨_, _, rfl, owes_quiet rfl rfl tracks
      ⟨bytes, rfl, rfl, fun j below => absurd below (Nat.not_lt_zero _)⟩⟩

/-- One more byte of a copy. -/
theorem copied_next {n i : Nat} {copy : Fin n → UInt8} (source : Nat → UInt8)
    (copied : ∀ j : Fin n, j.val < i → copy j = source j.val) {inside : i < n} {byte : UInt8}
    (next : byte = source i) (j : Fin n) (below : j.val < i + 1) :
    Function.update copy ⟨i, inside⟩ byte j = source j.val := by
  by_cases here : j = ⟨i, inside⟩
  · rw [here, Function.update_self, next]
  · have before : j.val ≠ i := fun same => here (Fin.ext same)
    rw [Function.update_of_ne here]
    exact copied j (by omega)

/-- `get_keyboard_buffer` copies a buffer that no interrupt changes. -/
theorem owes_fetch (follows : Follows waitingLines editor s) {i : Nat}
    (place : s.place = .fetching i) :
    ∃ report s', turn s .shell = .ok (report, s') ∧
      ∃ echoed left, Owes waitingLines editor report s' echoed left := by
  obtain ⟨tracks, stage⟩ := follows
  simp only [Stage, place] at stage
  obtain ⟨bytes, rfl, rfl, fetched⟩ := stage
  simp only [turn, place]
  split
  · rename_i inside
    exact ⟨_, _, rfl, owes_quiet rfl rfl tracks
      ⟨bytes, rfl, rfl, copied_next (fun k => bytes.getD k 0) fetched
        (tracks.buffer.cells ⟨i, inside⟩)⟩⟩
  · rename_i beyond
    refine ⟨_, _, rfl, owes_quiet rfl rfl tracks ⟨bytes, rfl, rfl, fun j => ?_, fun j below =>
      absurd below (Nat.not_lt_zero _)⟩⟩
    exact fetched j (by omega)

/-- The second copy takes the first 16 bytes. -/
theorem owes_hand (follows : Follows waitingLines editor s) {i : Nat}
    (place : s.place = .handing i) :
    ∃ report s', turn s .shell = .ok (report, s') ∧
      ∃ echoed left, Owes waitingLines editor report s' echoed left := by
  obtain ⟨tracks, stage⟩ := follows
  simp only [Stage, place] at stage
  obtain ⟨bytes, rfl, rfl, fetched, handed⟩ := stage
  simp only [turn, place]
  split
  · rename_i inside
    have index : (Fin.ofNat 256 i).val = i := Nat.mod_eq_of_lt (by omega)
    have byte := fetched (Fin.ofNat 256 i)
    rw [index] at byte
    exact ⟨_, _, rfl, owes_quiet rfl rfl tracks
      ⟨bytes, rfl, rfl, fetched, copied_next (fun k => bytes.getD k 0) handed byte⟩⟩
  · rename_i beyond
    refine ⟨_, _, rfl, owes_quiet rfl rfl tracks ⟨bytes, rfl, rfl, funext fun j => ?_⟩⟩
    exact handed j (by omega)

theorem owes_echo (follows : Follows waitingLines editor s) (place : s.place = .echo) :
    ∃ report s', turn s .shell = .ok (report, s') ∧
      ∃ echoed left, Owes waitingLines editor report s' echoed left := by
  obtain ⟨tracks, stage⟩ := follows
  simp only [Stage, place] at stage
  obtain ⟨bytes, rfl, rfl, held⟩ := stage
  obtain ⟨status, kernel, done, called⟩ :=
    call_returns s (.putsLine (bufText s.shellBuf) 0xE) .user (.echoed s.shellBuf)
  simp only [turn, place]
  refine ⟨_, _, called, [bytes], [], rfl, ?_, tracks_congr (putsLine_keyboard done) tracks, rfl, bytes,
    rfl⟩
  rw [held]
  rfl

end

/-- **One turn.** -/
theorem owes_turn {waitingLines : List (List UInt8)} {editor : RawEditor} {s : System}
    (follows : Follows waitingLines editor s) (t : Turn) :
    ∃ report s', turn s t = .ok (report, s') ∧
      ∃ echoed left, Owes waitingLines editor report s' echoed left := by
  cases t with
  | interrupt scancode => exact owes_interrupt follows scancode
  | shell =>
      obtain ⟨tracks, stage⟩ := follows
      cases place : s.place with
      | waiting => exact owes_wait ⟨tracks, stage⟩ place
      | fetching i => exact owes_fetch ⟨tracks, stage⟩ place
      | handing i => exact owes_hand ⟨tracks, stage⟩ place
      | echo => exact owes_echo ⟨tracks, stage⟩ place
      | read => exact owes_read ⟨tracks, stage⟩ place
      | _ =>
          simp only [turn, place]
          simp only [Stage, place] at stage
          exact owes_prompt tracks _ _ fun _ => stage

/-- Over a run, the lines waiting at its start and the lines typed are those
echoed and at most one that waits. -/
theorem owes_run {waitingLines : List (List UInt8)} {editor : RawEditor} {s : System}
    (follows : Follows waitingLines editor s) (turns : List Turn) :
    ∃ reports s', run turn s turns = .ok (reports, s') ∧
      ∃ echoed left, waitingLines ++ typedLines editor reports = echoed ++ left ∧
        echoed.map shown = echoes reports ∧
        Follows left (reports.foldl editorAfter editor) s' := by
  induction turns generalizing waitingLines editor s with
  | nil =>
      refine ⟨[], s, rfl, [], waitingLines, ?_, rfl, follows⟩
      rw [typedLines, List.append_nil, List.nil_append]
  | cons t rest ih =>
      obtain ⟨report, s₁, first, echoed, left, owes⟩ := owes_turn follows t
      obtain ⟨reports, s₂, done, echoed', left', balance, shows, final⟩ := ih owes.follows
      refine ⟨report :: reports, s₂, by simp only [run, first, done], echoed ++ echoed', left', ?_, ?_,
        final⟩
      · rw [typedLines, ← List.append_assoc, owes.balance, List.append_assoc, balance,
          List.append_assoc]
      · rw [List.map_append, owes.echoed, shows, echoes, echoes, List.flatMap_cons]

theorem Stage.few {waitingLines : List (List UInt8)} {editor : RawEditor} {s : System}
    (stage : Stage waitingLines editor s) : waitingLines.length ≤ 1 := by
  unfold Stage at stage
  split at stage
  · rcases stage with ⟨rfl, -⟩ | ⟨bytes, rfl, -⟩
    · exact Nat.zero_le _
    · exact le_rfl
  · obtain ⟨bytes, rfl, -⟩ := stage
    exact le_rfl
  · obtain ⟨bytes, rfl, -⟩ := stage
    exact le_rfl
  · obtain ⟨bytes, rfl, -⟩ := stage
    exact le_rfl
  · rw [stage.1]
    exact Nat.zero_le _

/-- **No line is lost, doubled or reordered.** However interrupts and turns of the
shell follow each other, the shell goes on, and the buffers it has echoed are the
lines typed, in order; one more line may be finished and not yet echoed. -/
theorem lines_echoed (filesystem : Fat32.Driver) (kernelBuf : Bytes 256) (shellBuf : Bytes 16)
    (turns : List Turn) :
    ∃ reports s, run turn (entered filesystem kernelBuf shellBuf) turns = .ok (reports, s) ∧
      ∃ left, (typedLines (.off []) reports).map shown = echoes reports ++ left ∧
        left.length ≤ 1 := by
  obtain ⟨reports, s, done, echoed, left, balance, shows, follows⟩ :=
    owes_run (follows_entered filesystem kernelBuf shellBuf) turns
  refine ⟨reports, s, done, left.map shown, ?_, ?_⟩
  · rw [← shows, ← List.map_append, ← balance, List.nil_append]
  · rw [List.length_map]
    exact follows.stage.few

end HexOS.Shell
