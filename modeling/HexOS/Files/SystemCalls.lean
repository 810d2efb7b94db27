import HexOS.Console.Mkdir
import HexOS.Console.Screen
import HexOS.Files.Refinement

/-!
The system calls on a file system that follows a store.

System calls 0 and 10 read and write, and are answered as the store says; what they
store for the program has to lie in its page, or the call never returns. System call
9 prints all names of the root at one place, so the last one is left on the screen:
the name of the newest write into the root, whatever the kernel has done before.
-/

namespace HexOS.Files

open BoundedScan Extents PartialRuns HexOS.Fat32 HexOS.Console

/-! ### Printing over -/

def characters (name : Bytes 8) (j : Nat) : UInt8 := if h : j < 8 then name ⟨j, h⟩ else 0

/-- The eight cells from `start` on show a name in white. -/
def overprint (start : Nat) (memory : Nat → UInt8) (name : Bytes 8) : Nat → UInt8 := fun offset =>
  if 2 * start ≤ offset ∧ offset < 2 * (start + 8) then
    if offset % 2 = 0 then characters name ((offset - 2 * start) / 2) else 0xF
  else memory offset

/-- Only the last name is left. -/
theorem foldl_overprint (start : Nat) (names : List (Bytes 8)) (memory : Nat → UInt8)
    (first : Bytes 8) :
    names.foldl (overprint start) (overprint start memory first) =
      overprint start memory (names.getLastD first) := by
  have again : ∀ memory old new, overprint start (overprint start memory old) new =
      overprint start memory new := by
    intro memory old new
    funext offset
    simp only [overprint]
    split
    · rfl
    · rfl
  induction names generalizing first with
  | nil => rfl
  | cons name rest ih => rw [List.foldl_cons, again, ih, List.getLastD_cons]

theorem memory_printed {name : Bytes 8} {start : Nat} {before after : Framebuffer}
    (printed : Printed (characters name) 0xF start 8 before after) :
    after.memory = overprint start before.memory name := by
  funext offset
  rw [overprint]
  by_cases inside : 2 * start ≤ offset ∧ offset < 2 * (start + 8)
  · rw [if_pos inside]
    by_cases even : offset % 2 = 0
    · have char := printed.chars ((offset - 2 * start) / 2) (by omega)
      rw [if_pos even, ← char]
      congr 1
      omega
    · have colour := printed.colours ((offset - 2 * start) / 2) (by omega)
      rw [if_neg even, ← colour]
      congr 1
      omega
  · rw [if_neg inside]
    exact printed.others offset (by omega)

def named (name : Bytes 8) : Bool := name 0 ≠ 0

theorem lsLoop_memory (table : FAT32DirectoryTable) (row col : UInt8) (inside : col.toNat + 8 < 256)
    (slots : List (Fin 64)) (screen : Framebuffer) :
    ∃ screen', lsLoop table row col slots screen = .ok screen' ∧
      screen'.memory = ((slots.map fun i => (table i).name).filter named).foldl
        (overprint (row.toNat * 80 + col.toNat)) screen.memory := by
  induction slots generalizing screen with
  | nil => exact ⟨screen, rfl, rfl⟩
  | cons i rest ih =>
      rw [List.map_cons, List.filter_cons]
      by_cases shown : named (table i).name
      · have printed := @printed_writeCells (characters (table i).name) 0xF row col 8 (by omega) screen
        have returned := @puts_eq (fun j => if h : j < 8 then (table i).name ⟨j, h⟩ else 0) 8 0xF
          row col (by decide) screen
        obtain ⟨screen', done, memory⟩ := ih
          (framebufferSetCursor row (col + UInt8.ofNat 8)
            (writeCells (characters (table i).name) 0xF row col 8 screen))
        refine ⟨screen', ?_, ?_⟩
        · have here : (table i).name 0 ≠ 0 := of_decide_eq_true shown
          rw [lsLoop, if_pos here, returned]
          exact done
        · rw [if_pos shown, List.foldl_cons, ← memory_printed printed, memory, memory_setCursor]
      · obtain ⟨screen', done, memory⟩ := ih screen
        refine ⟨screen', ?_, ?_⟩
        · have here : ¬ (table i).name 0 ≠ 0 := fun other => shown (decide_eq_true other)
          rw [lsLoop, if_neg here, done]
        · rw [if_neg shown, memory]

/-! ### The names of the root -/

/-- The newest write into the root, unless its name starts with a NUL byte. -/
def Store.newest (s : Store) : Bytes 8 :=
  (((entriesOf s.log 2).map fun p => p.2.name).filter named).getLastD rootName

namespace Store

variable {s : Store} {x : Nat} {f : Folder}

theorem names_table : ((List.finRange 64).map fun i => (s.table x f i).name).filter named =
    (f.name :: (entriesOf s.log x).map fun p => p.2.name).filter named := by
  have room := s.room x
  have fits : (f.header :: (entriesOf s.log x).map Record.entry).length ≤ 64 := by
    rw [List.length_cons, List.length_map]
    exact room
  have slots := @map_getD_finRange 64 _ _ FAT32DirectoryEntry.empty fits
  have names := congrArg (List.map FAT32DirectoryEntry.name) slots
  rw [List.map_map, List.map_append, List.map_replicate, List.map_cons, List.map_map] at names
  have blank : named FAT32DirectoryEntry.empty.name = false := rfl
  calc
    ((List.finRange 64).map fun i => (s.table x f i).name).filter named
      = (f.header.name :: (entriesOf s.log x).map (FAT32DirectoryEntry.name ∘ Record.entry) ++
          List.replicate (64 - (f.header :: (entriesOf s.log x).map Record.entry).length)
            FAT32DirectoryEntry.empty.name).filter named := congrArg (List.filter named) names
    _ = (f.name :: (entriesOf s.log x).map fun p => p.2.name).filter named := by
      rw [List.filter_append, List.filter_replicate_of_neg (by simp [blank]), List.append_nil]
      rfl

end Store

/-! ### The kernel -/

inductive Event where
  | input (input : Input)
  /-- System call 0, with the addresses of its buffer and its result. -/
  | read (request : FAT32DriverRequest) (buf ecx : UInt32)

/-- The addresses that an event stores to for the program. -/
def storesTo (k : Kernel) : Event → List UInt32
  | .input (.mkdir _ ecx) => [ecx]
  | .read request buf ecx =>
      (List.range (HexOS.Fat32.read request k.filesystem).1.length).map
        (fun j => buf + UInt32.ofNat j) ++ [ecx]
  | _ => []

/-- The reply to a read is what it returns and what it copies to its buffer. -/
def systemStep (k : Kernel) (event : Event) : Except HexOS.Console.Fault (Reply × Kernel) :=
  match (storesTo k event).find? (fun address => !mapped address) with
  | some address => .error (.pageFault address)
  | none =>
      match event with
      | .input input =>
          match kernelStep k input with
          | .ok (code, k) => .ok (.status code, k)
          | .error fault => .error fault
      | .read request _ _ =>
          let screen := (framebufferGetCursor k.terminal.screen).2.2
          let outcome := HexOS.Fat32.read request k.filesystem
          .ok (outcome.1, ⟨{ k.terminal with screen }, outcome.2⟩)

/-- The program's addresses lie in its page. -/
def InPage : Event → Prop
  | .input (.mkdir _ ecx) => InUserPage ecx
  | .read _ buf ecx => buf.toNat + 512 ≤ 2 ^ 22 ∧ InUserPage ecx
  | _ => True

theorem read_length_le (request : FAT32DriverRequest) (d : Driver) :
    (HexOS.Fat32.read request d).1.length ≤ 512 := by
  have outcome := read_outcome request d
  generalize (HexOS.Fat32.read request d).1 = reply at outcome
  cases outcome with
  | invalidParent => exact Nat.zero_le _
  | notFound => exact Nat.zero_le _
  | tooLarge => exact Nat.zero_le _
  | delivered => exact le_rfl

theorem stores_mapped (k : Kernel) {event : Event} (inside : InPage event) :
    (storesTo k event).find? (fun address => !mapped address) = none := by
  refine List.find?_eq_none.mpr fun address member => ?_
  suffices user : InUserPage address by
    rw [mapped_of_user user]
    decide
  cases event with
  | read request buf ecx =>
      obtain ⟨room, result⟩ := inside
      rcases List.mem_append.mp member with byte | last
      · obtain ⟨j, below, rfl⟩ := List.mem_map.mp byte
        have length := read_length_le request k.filesystem
        rw [List.mem_range] at below
        rw [inUserPage_iff, UInt32.toNat_add, UInt32.toNat_ofNat']
        omega
      · rwa [List.mem_singleton.mp last]
  | input input =>
      cases input with
      | mkdir request ecx => rwa [List.mem_singleton.mp member]
      | keyboard => exact absurd member List.not_mem_nil
      | readLine => exact absurd member List.not_mem_nil
      | putsLine => exact absurd member List.not_mem_nil
      | puts => exact absurd member List.not_mem_nil
      | ls => exact absurd member List.not_mem_nil

/-- What an event asks of the file system. -/
def callOf : Event → Option Call
  | .input (.mkdir request _) => some (.write request)
  | .read request _ _ => some (.read request)
  | _ => none

/-- The replies to the events that ask something of the file system. -/
def answers : List Event → List Reply → List Reply
  | event :: events, reply :: replies =>
      if (callOf event).isSome then reply :: answers events replies else answers events replies
  | _, _ => []

/-- An input leaves the file system alone, or makes the call that it asks for. -/
theorem kernelStep_filesystem {k k' : Kernel} {input : Input} {code : Int}
    (done : kernelStep k input = .ok (code, k')) :
    (callOf (.input input) = none ∧ k'.filesystem = k.filesystem) ∨
      ∃ request, callOf (.input input) = some (.write request) ∧
        code = (write request k.filesystem).1 ∧ k'.filesystem = (write request k.filesystem).2 := by
  cases input with
  | keyboard =>
      cases done
      exact .inl ⟨rfl, rfl⟩
  | readLine =>
      cases done
      exact .inl ⟨rfl, rfl⟩
  | putsLine =>
      simp only [kernelStep, syscall] at done
      split at done
      · cases done
        exact .inl ⟨rfl, rfl⟩
      · cases done
  | puts =>
      simp only [kernelStep, syscall] at done
      split at done
      · cases done
        exact .inl ⟨rfl, rfl⟩
      · cases done
  | ls =>
      simp only [kernelStep, syscall, cmdLs] at done
      split at done
      · rename_i listed
        split at listed
        · cases listed
          cases done
          exact .inl ⟨rfl, rfl⟩
        · cases listed
      · cases done
  | mkdir request =>
      simp only [kernelStep, syscall, cmdMkdir] at done
      split at done
      · cases done
        exact .inr ⟨request, rfl, rfl, rfl⟩
      · cases done

/-- **One event**: the file system follows the store, and answers as the store does. -/
theorem systemStep_follows {k k' : Kernel} {s : Store} {event : Event} {reply : Reply}
    (follows : Follows s k.filesystem) (done : systemStep k event = .ok (reply, k')) :
    match callOf event with
    | none => Follows s k'.filesystem
    | some call => ∀ answer t, s.step call = .ok (answer, t) →
        reply = answer ∧ Follows t k'.filesystem := by
  unfold systemStep at done
  split at done
  · cases done
  · cases event with
    | read request =>
        cases done
        intro answer t taken
        obtain ⟨d, stepped, followed, -⟩ :=
          @Store.step_follows _ _ _ 0 _ _ follows (fun _ _ other => Call.noConfusion other) taken
        obtain ⟨rfl, rfl⟩ := Prod.mk.inj (Except.ok.inj stepped)
        exact ⟨rfl, followed⟩
    | input input =>
        simp only at done
        split at done
        · rename_i code next stepped
          cases done
          rcases kernelStep_filesystem stepped with ⟨none, kept⟩ | ⟨request, asked, rfl, written⟩
          · rw [none]
            exact kept.symm ▸ follows
          · rw [asked]
            intro answer t taken
            obtain ⟨d, made, followed, -⟩ :=
              @Store.step_follows _ _ _ 0 _ _ follows (fun _ _ other => Call.noConfusion other) taken
            obtain ⟨rfl, rfl⟩ := Prod.mk.inj (Except.ok.inj made)
            exact ⟨rfl, written.symm ▸ followed⟩
        · cases done

theorem system_follows {k k' : Kernel} {s t : Store} {events : List Event}
    {replies returned : List Reply} (follows : Follows s k.filesystem)
    (made : run Store.step s (events.filterMap callOf) = .ok (replies, t))
    (done : run systemStep k events = .ok (returned, k')) :
    answers events returned = replies ∧ Follows t k'.filesystem := by
  induction events generalizing k s replies returned with
  | nil =>
      simp only [List.filterMap_nil, run, Except.ok.injEq, Prod.mk.injEq] at made done
      obtain ⟨rfl, rfl⟩ := made
      obtain ⟨rfl, rfl⟩ := done
      exact ⟨rfl, follows⟩
  | cons event rest ih =>
      obtain ⟨reply, next, later, first, more, rfl⟩ := run_cons_ok done
      have step := systemStep_follows follows first
      cases asked : callOf event with
      | none =>
          rw [List.filterMap_cons_none asked] at made
          rw [asked] at step
          rw [answers, asked, if_neg (by decide)]
          exact ih step made more
      | some call =>
          rw [List.filterMap_cons_some asked] at made
          obtain ⟨answer, u, replies, taken, others, rfl⟩ := run_cons_ok made
          rw [asked] at step
          obtain ⟨rfl, followed⟩ := step answer u taken
          obtain ⟨same, ends⟩ := ih followed others more
          rw [answers, asked, if_pos Option.isSome_some, same]
          exact ⟨rfl, ends⟩

theorem system_returns (k : Kernel) {events : List Event} (inside : ∀ event ∈ events, InPage event) :
    ∃ r, run systemStep k events = .ok r := by
  induction events generalizing k with
  | nil => exact ⟨_, rfl⟩
  | cons event rest ih =>
      have first : ∃ reply next, systemStep k event = .ok (reply, next) := by
        have stored := stores_mapped k (inside event List.mem_cons_self)
        cases event with
        | read request =>
            simp only [systemStep, stored]
            exact ⟨_, _, rfl⟩
        | input input =>
            obtain ⟨⟨code, next⟩, stepped⟩ := kernelStep_returns k input
            exact ⟨.status code, next, by simp only [systemStep, stored, stepped]⟩
      obtain ⟨reply, next, stepped⟩ := first
      obtain ⟨⟨replies, last⟩, done⟩ := ih next fun e member =>
        inside e (List.mem_cons_of_mem _ member)
      exact ⟨(reply :: replies, last), by simp only [run, stepped, done]⟩

/-- **The system calls refine the store.** Whatever keys, prints and listings come
between them, reads and writes of user programs whose addresses lie in their page are
answered as the store answers them, and leave its volume. -/
theorem system_refines_store {k : Kernel} {s t : Store} {events : List Event}
    {replies : List Reply} (follows : Follows s k.filesystem)
    (inside : ∀ event ∈ events, InPage event)
    (made : run Store.step s (events.filterMap callOf) = .ok (replies, t)) :
    ∃ returned k', run systemStep k events = .ok (returned, k') ∧
      answers events returned = replies ∧
      k'.filesystem.fatTable = t.fat ∧ k'.filesystem.disk = t.image := by
  obtain ⟨⟨returned, k'⟩, done⟩ := system_returns k inside
  obtain ⟨same, ends⟩ := system_follows follows made done
  exact ⟨returned, k', done, same, congrArg Volume.fat ends, ends.disk⟩

/-- **`ls` shows the newest name.** After any run of the kernel over a file system that
follows a store, `ls` leaves the screen as it was but for eight cells at the cursor,
which show the name of the newest write into the root. -/
theorem ls_shows_newest {k k' : Kernel} {s t : Store} {events : List Event}
    {replies returned : List Reply} (follows : Follows s k.filesystem)
    (made : run Store.step s (events.filterMap callOf) = .ok (replies, t))
    (done : run systemStep k events = .ok (returned, k'))
    (low : k'.terminal.screen.position < 80 * 256) :
    ∃ k'', kernelStep k' .ls = .ok (0, k'') ∧ k''.filesystem = k'.filesystem ∧
      k''.terminal.screen.position = k'.terminal.screen.position + 8 ∧
      k''.terminal.screen.memory =
        overprint k'.terminal.screen.position k'.terminal.screen.memory t.newest := by
  have followed := (system_follows follows made done).2
  have found : t.folder 2 = some ⟨rootName, rootClusterNumber⟩ := rfl
  have root : tableOf (readClusters k'.filesystem.disk rootClusterNumber) =
      t.table 2 ⟨rootName, rootClusterNumber⟩ := by
    rw [readClusters_root, followed.disk, Store.image_folder found, tableOf_tableBytes]
  have row := toNat_row low
  have col := toNat_col k'.terminal.screen
  obtain ⟨screen, listed, moved, -, -⟩ := lsLoop_spec (t.table 2 ⟨rootName, rootClusterNumber⟩)
    (framebufferGetCursor k'.terminal.screen).1 (framebufferGetCursor k'.terminal.screen).2.1
    (by omega) (List.finRange 64) (framebufferGetCursor k'.terminal.screen).2.2
  obtain ⟨screen', again, memory⟩ := lsLoop_memory (t.table 2 ⟨rootName, rootClusterNumber⟩)
    (framebufferGetCursor k'.terminal.screen).1 (framebufferGetCursor k'.terminal.screen).2.1
    (by omega) (List.finRange 64) (framebufferGetCursor k'.terminal.screen).2.2
  obtain rfl := Except.ok.inj (listed.symm.trans again)
  have place : (framebufferGetCursor k'.terminal.screen).1.toNat * 80 +
      (framebufferGetCursor k'.terminal.screen).2.1.toNat = k'.terminal.screen.position := by omega
  have rootNamed : named rootName = true := rfl
  refine ⟨⟨{ k'.terminal with screen }, k'.filesystem⟩, ?_, rfl, ?_, ?_⟩
  · simp only [kernelStep, syscall, cmdLs, root, listed]
  · rw [← place]
    refine moved ⟨0, List.mem_finRange 0, ?_⟩
    rw [Store.table_zero]
    exact of_decide_eq_true rootNamed
  · rw [place, Store.names_table, List.filter_cons_of_pos rootNamed, List.foldl_cons,
      foldl_overprint] at memory
    exact memory

/-! ### An instance -/

def blankKernel : Kernel := ⟨cleared, booted blankDisk⟩

theorem blankKernel_follows : Follows Store.empty blankKernel.filesystem := by
  have filesystem : blankKernel.filesystem = booted blankDisk := by rw [blankKernel]
  rw [filesystem]
  exact Store.empty_follows

/-- A folder is made, listed, and its note is read. -/
def docsEvents : List Event :=
  [.input (.mkdir docs 0x1000), .input .ls, .read innerNote 0x2000 0x1000]

theorem docsEvents_inside : ∀ event ∈ docsEvents, InPage event := by
  have result : InUserPage 0x1000 := (inUserPage_iff 0x1000).mpr (by decide)
  intro event member
  rcases List.mem_cons.mp member with rfl | member
  · exact result
  rcases List.mem_cons.mp member with rfl | member
  · trivial
  rcases List.mem_singleton.mp member with rfl
  exact ⟨by decide, result⟩

def docsReplies : List Reply := [.status 0, .status 3]

theorem docsEvents_made : run Store.step Store.empty (docsEvents.filterMap callOf) =
    .ok (docsReplies, docsStore) := by
  have asked : docsEvents.filterMap callOf = [.write docs, .read innerNote] := rfl
  rw [asked]
  rfl

theorem system_refines_store_docs : ∃ returned k',
    run systemStep blankKernel docsEvents = .ok (returned, k') ∧
      answers docsEvents returned = docsReplies ∧
      k'.filesystem.fatTable = docsStore.fat ∧ k'.filesystem.disk = docsStore.image :=
  @system_refines_store blankKernel Store.empty docsStore docsEvents docsReplies blankKernel_follows
    docsEvents_inside docsEvents_made

theorem ls_shows_newest_docs : ∃ returned k' k'',
    run systemStep blankKernel [.input (.mkdir docs 0x1000)] = .ok (returned, k') ∧
      kernelStep k' .ls = .ok (0, k'') ∧
      k''.terminal.screen.memory =
        overprint k'.terminal.screen.position k'.terminal.screen.memory docs.name := by
  have start : blankKernel.terminal.screen.position = 0 := position_setCursor _ _ _
  obtain ⟨code, k', made, stays⟩ := @stays_step_iff blankKernel stays_cleared (.mkdir docs 0x1000)
  have room : Room blankKernel (.mkdir docs 0x1000) := by
    rw [Room, if_neg (by decide), start]
    decide
  have low := (stays.mpr room).cursor
  have stored := stores_mapped blankKernel (docsEvents_inside _ List.mem_cons_self)
  have done : run systemStep blankKernel [.input (.mkdir docs 0x1000)] = .ok ([.status code], k') := by
    simp only [run, systemStep, stored, made]
  have asked : [Event.input (.mkdir docs 0x1000)].filterMap callOf = [.write docs] := rfl
  have called : run Store.step Store.empty ([Event.input (.mkdir docs 0x1000)].filterMap callOf) =
      .ok ([.status 0], docsStore) := by
    rw [asked]
    rfl
  obtain ⟨k'', listed, -, -, memory⟩ := @ls_shows_newest blankKernel k' Store.empty docsStore
    [.input (.mkdir docs 0x1000)] [.status 0] [.status code] blankKernel_follows called done (by omega)
  exact ⟨[.status code], k', k'', done, listed, memory⟩

end HexOS.Files
