import HexOS.Shell.Lines

/-!
What holds the shell up.

A turn of the shell either spins in system call 4 or goes on. `moves_run` counts
the turns that go on against the lines echoed: one round of the loop has 281 of
them, wherever the interrupts fall. `shell_advances` adds that a turn only spins
while a line is open.
-/

namespace HexOS.Shell

open Console PartialRuns

/-- The turns of a round that lie behind a place. -/
def Place.moves : Place → Nat
  | .user => 0
  | .colon => 1
  | .cwd => 2
  | .dollar => 3
  | .read => 4
  | .waiting => 5
  | .fetching i => 6 + i
  | .handing i => 263 + i
  | .echo => 280

/-- The copies stay inside their buffers. -/
def Place.Valid : Place → Prop
  | .fetching i => i ≤ 256
  | .handing i => i ≤ 16
  | _ => True

theorem Place.Valid.moves_le {place : Place} (valid : place.Valid) : place.moves ≤ 280 := by
  cases place <;> simp only [Place.Valid, Place.moves] at valid ⊢ <;> omega

def Report.advances : Report → Bool
  | .key _ => false
  | .spun => false
  | _ => true

def Report.spins : Report → Bool
  | .spun => true
  | _ => false

def Turn.isShell : Turn → Bool
  | .shell => true
  | .interrupt _ => false

/-- The books of one turn, or of a run. -/
structure Books (s : System) (turns : List Turn) (reports : List Report) (s' : System) : Prop where
  moves : s.place.moves + reports.countP Report.advances =
    281 * (echoes reports).length + s'.place.moves
  turns : turns.countP Turn.isShell =
    reports.countP Report.advances + reports.countP Report.spins
  valid : s'.place.Valid

theorem call_ok {s s' : System} {input : Input} {next : Place} {report shows : Report}
    (called : s.call input next report = .ok (shows, s')) : shows = report ∧ s'.place = next := by
  obtain ⟨status, kernel, -, returns⟩ := call_returns s input next report
  rw [returns] at called
  cases called
  exact ⟨rfl, rfl⟩

/-- A turn that takes the shell one move on. -/
theorem books_next {s s' : System} {report : Report} (quiet : report.echo = [])
    (advances : report.advances = true) (spins : report.spins = false) (valid : s'.place.Valid)
    (moves : s'.place.moves = s.place.moves + 1) : Books s [.shell] [report] s' := by
  constructor
  · simp [echoes, quiet, advances, moves]
  · simp [advances, spins, Turn.isShell]
  · exact valid

theorem books_call {s s' : System} {input : Input} {next : Place} {report shows : Report}
    (called : s.call input next report = .ok (shows, s')) (quiet : report.echo = [])
    (advances : report.advances = true) (spins : report.spins = false) (valid : next.Valid)
    (moves : next.moves = s.place.moves + 1) : Books s [.shell] [shows] s' := by
  obtain ⟨rfl, place⟩ := call_ok called
  rw [← place] at valid moves
  exact books_next quiet advances spins valid moves

theorem books_turn {s s' : System} {t : Turn} {report : Report} (valid : s.place.Valid)
    (taken : turn s t = .ok (report, s')) : Books s [t] [report] s' := by
  cases t with
  | interrupt scancode =>
      rw [turn] at taken
      obtain ⟨rfl, place⟩ := call_ok taken
      exact ⟨by simp [echoes, Report.echo, Report.advances, place], rfl, by rwa [place]⟩
  | shell =>
      cases place : s.place with
      | waiting =>
          simp only [turn, place] at taken
          split at taken
          · cases taken
            exact ⟨by simp [echoes, Report.echo, Report.advances], rfl, valid⟩
          · cases taken
            exact books_next rfl rfl rfl (Nat.zero_le _) (by rw [place]; rfl)
      | fetching i =>
          simp only [turn, place, Place.Valid] at taken valid
          split at taken
          · rename_i inside
            cases taken
            exact books_next rfl rfl rfl inside (by rw [place]; rfl)
          · rename_i beyond
            obtain rfl : i = 256 := by omega
            cases taken
            exact books_next rfl rfl rfl (Nat.zero_le _) (by rw [place]; rfl)
      | handing i =>
          simp only [turn, place, Place.Valid] at taken valid
          split at taken
          · rename_i inside
            cases taken
            exact books_next rfl rfl rfl inside (by rw [place]; rfl)
          · rename_i beyond
            obtain rfl : i = 16 := by omega
            cases taken
            exact books_next rfl rfl rfl trivial (by rw [place]; rfl)
      | echo =>
          simp only [turn, place] at taken
          obtain ⟨rfl, next⟩ := call_ok taken
          exact ⟨by simp [echoes, Report.echo, Report.advances, place, next, Place.moves], rfl,
            by rw [next]; trivial⟩
      | _ =>
          simp only [turn, place] at taken
          exact books_call taken rfl rfl rfl trivial (by rw [place]; rfl)

theorem books_run {s s' : System} {turns : List Turn} {reports : List Report}
    (valid : s.place.Valid) (done : run turn s turns = .ok (reports, s')) :
    Books s turns reports s' := by
  induction turns generalizing s reports with
  | nil =>
      simp only [run, Except.ok.injEq, Prod.mk.injEq] at done
      obtain ⟨rfl, rfl⟩ := done
      exact ⟨by simp [echoes], rfl, valid⟩
  | cons t rest ih =>
      obtain ⟨report, s₁, reports', first, later, rfl⟩ := run_cons_ok done
      have head := books_turn valid first
      have tail := ih head.valid later
      have moves := head.moves
      have moves' := tail.moves
      have turns := head.turns
      have turns' := tail.turns
      simp only [List.countP_cons, List.countP_nil, echoes, List.flatMap_cons, List.flatMap_nil,
        List.length_append, List.length_nil] at moves moves' turns turns' ⊢
      refine ⟨?_, ?_, tail.valid⟩
      · simp only [List.countP_cons, echoes, List.flatMap_cons, List.length_append]
        omega
      · simp only [List.countP_cons]
        omega

/-! ### Spinning -/

/-- A turn spins only when a line is open. -/
theorem spun_open {waitingLines : List (List UInt8)} {editor : RawEditor} {s s' : System} {t : Turn}
    (follows : Follows waitingLines editor s) (taken : turn s t = .ok (.spun, s')) :
    ∃ z pending, editor = .editing z pending := by
  obtain ⟨tracks, stage⟩ := follows
  cases t with
  | interrupt scancode =>
      rw [turn] at taken
      obtain ⟨other, -⟩ := call_ok taken
      cases other
  | shell =>
      cases place : s.place with
      | waiting =>
          simp only [Stage, place] at stage
          rcases stage with ⟨-, line⟩ | ⟨bytes, -, rfl⟩
          · exact line
          · have free : isKeyboardBlocking s.kernel.terminal = false := tracks.off.inputOff
            simp only [turn, place, free, Bool.false_eq_true, if_false] at taken
            cases taken
      | fetching i =>
          simp only [turn, place] at taken
          split at taken
          · cases taken
          · cases taken
      | handing i =>
          simp only [turn, place] at taken
          split at taken
          · cases taken
          · cases taken
      | _ =>
          simp only [turn, place] at taken
          obtain ⟨other, -⟩ := call_ok taken
          cases other

theorem spun_run {waitingLines : List (List UInt8)} {editor : RawEditor} {s s' : System}
    {turns : List Turn} {reports before later : List Report}
    (follows : Follows waitingLines editor s) (done : run turn s turns = .ok (reports, s'))
    (split : reports = before ++ .spun :: later) :
    ∃ z pending, before.foldl editorAfter editor = .editing z pending := by
  induction before generalizing waitingLines editor s turns reports with
  | nil =>
      cases turns with
      | nil =>
          simp only [run, Except.ok.injEq, Prod.mk.injEq] at done
          rw [← done.1] at split
          cases split
      | cons t rest =>
          obtain ⟨report, s₁, reports', first, -, rfl⟩ := run_cons_ok done
          obtain ⟨rfl, -⟩ := List.cons.inj split
          exact spun_open follows first
  | cons report before ih =>
      cases turns with
      | nil =>
          simp only [run, Except.ok.injEq, Prod.mk.injEq] at done
          rw [← done.1] at split
          cases split
      | cons t rest =>
          obtain ⟨report', s₁, reports', first, later, rfl⟩ := run_cons_ok done
          obtain ⟨rfl, same⟩ := List.cons.inj split
          obtain ⟨r, s₂, taken, echoed, left, owes⟩ := owes_turn follows t
          rw [first] at taken
          cases taken
          exact ih owes.follows later same

/-- **Only an open line holds the shell up.** In every run each of the shell's
turns either spins, which it only does while Enter is still to come, or is one of
the 281 turns that echo a line. -/
theorem shell_advances (filesystem : Fat32.Driver) (kernelBuf : Bytes 256) (shellBuf : Bytes 16)
    (turns : List Turn) :
    ∃ reports s, run turn (entered filesystem kernelBuf shellBuf) turns = .ok (reports, s) ∧
      turns.countP Turn.isShell =
        281 * (echoes reports).length + s.place.moves + reports.countP Report.spins ∧
      s.place.moves ≤ 280 ∧
      ∀ before later, reports = before ++ .spun :: later →
        ∃ z pending, before.foldl editorAfter (.off []) = .editing z pending := by
  have start := follows_entered filesystem kernelBuf shellBuf
  obtain ⟨reports, s, done, -⟩ := owes_run start turns
  have books := books_run (s := entered filesystem kernelBuf shellBuf) trivial done
  have moves := books.moves
  have counted := books.turns
  have none : (entered filesystem kernelBuf shellBuf).place.moves = 0 := rfl
  refine ⟨reports, s, done, by omega, books.valid.moves_le, fun before later split => ?_⟩
  exact spun_run start done split

end HexOS.Shell
