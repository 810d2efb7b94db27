import HexOS.Fat32.RoundTrip
import HexOS.Fat32.Reboot

/-!
The inserter and the boot that loads what it has inserted.

Each run of `external-inserter.c` is a process of its own: it initializes the file
system on the image, writes one file and saves the image; the kernel initializes the
file system on what the last one has saved. `Bench` is a process behind its
initialization, with the ledger of what earlier ones have stored. `files_survive`
and `shell_loads` are about any number of runs: what they have stored is there at the
boot, and `kernel_setup` finds its shell, of which it loads 512 bytes.
-/

namespace HexOS.Boot

open HexOS.Fat32

/-! ### `main` of the inserter -/

/-- The white space of `sscanf`. -/
def isSpace (b : UInt8) : Bool := b == 0x20 || (0x09 ≤ b && b ≤ 0x0D)

/-- `sscanf` with `%8s`. -/
def scanName (string : List UInt8) : List UInt8 :=
  ((string.dropWhile isSpace).takeWhile fun b => !isSpace b).take 8

/-- One run of the inserter. `target` is the file, if there is one, `fileBuffer` what
`malloc` returns, and `parentClusterNumber` the number read from the second argument. -/
structure Insertion where
  argv1 : List UInt8
  target : Option (List UInt8)
  parentClusterNumber : UInt32
  fileBuffer : Nat → UInt8

def Insertion.filesize (i : Insertion) : Nat :=
  match i.target with
  | none => 0
  | some bytes => bytes.length

/-- `fread` into the buffer. -/
def Insertion.buf (i : Insertion) : Nat → UInt8 :=
  match i.target with
  | none => i.fileBuffer
  | some bytes => fun j => bytes.getD j (i.fileBuffer j)

def Insertion.request (i : Insertion) : FAT32DriverRequest where
  buf := i.buf
  name := fun j => (scanName i.argv1).getD j.val 0
  ext := fun _ => 0
  parentClusterNumber := i.parentClusterNumber
  bufferSize := UInt32.ofNat i.filesize

def message (retcode : Int) : String :=
  if retcode = 0 then "Write success"
  else if retcode = 1 then "Error: File/folder name already exist"
  else if retcode = 2 then "Error: Invalid parent cluster"
  else "Error: Unknown error"

/-- `main`, from the image it reads to the message and the image it saves. -/
def main (image : Disk) (i : Insertion) : String × Disk :=
  let written := write i.request (booted image)
  (message written.1, written.2.disk)

/-- The image behind some runs. -/
def inserted (image : Disk) (runs : List Insertion) : Disk :=
  runs.foldl (fun image i => (main image i).2) image

/-- The file system of `kernel_setup`, and its read of the shell to address 0. -/
def loadShell (memory : Nat → UInt8) (image : Disk) : Int × (Nat → UInt8) :=
  let reply := (read (kernelRequest memory) (booted image)).1
  (reply.code, delivered memory reply)

theorem message_success {retcode : Int} (success : message retcode = "Write success") :
    retcode = 0 := by
  unfold message at success
  split at success
  · assumption
  · split at success
    · exact absurd success (by decide)
    · split at success
      · exact absurd success (by decide)
      · exact absurd success (by decide)

/-! ### The ledger of several processes -/

/-- The next process initializes on the disk. -/
def reboot (s : Session) : Session := { s with driver := booted s.driver.disk }

theorem reboot_files (s : Session) : (reboot s).files = s.files := by rw [reboot]

theorem reboot_directories (s : Session) : (reboot s).directories = s.directories := by rw [reboot]

/-- A process writes and ends, and the next one initializes. -/
def Bench.next (s : Session) (i : Insertion) : Session :=
  let written := write i.request s.driver
  reboot (s.record i.request written.1 written.2)

/-- What the first process starts with, and every later one. -/
def bench (image : Disk) (runs : List Insertion) : Session :=
  runs.foldl Bench.next (formatted image)

/-- Each run's parent is a live directory, or is refused. -/
def Admissible (image : Disk) (runs : List Insertion) : Prop :=
  ∀ before i after, runs = before ++ i :: after →
    Admitted (bench image before) (.write i.request)

theorem bench_snoc (image : Disk) (runs : List Insertion) (i : Insertion) :
    bench image (runs ++ [i]) = Bench.next (bench image runs) i := by
  rw [bench, List.foldl_append]
  rfl

theorem inserted_snoc (image : Disk) (runs : List Insertion) (i : Insertion) :
    inserted image (runs ++ [i]) = (main (inserted image runs) i).2 := by
  rw [inserted, List.foldl_append]
  rfl

/-- The ledger's driver is that of a process on the image. -/
theorem bench_driver (image : Disk) (runs : List Insertion) :
    (bench image runs).driver = booted (inserted image runs) := by
  induction runs using List.reverseRecOn with
  | nil => exact formatted_driver image
  | append_singleton runs i ih =>
      simp only [bench_snoc, inserted_snoc, Bench.next, reboot, record_driver, ih, main]

/-! ### What the ledger of a process is worth to the next one -/

/-- The next process finds the volume as it was. -/
theorem booted_same {directories : List (Fin 512)} {d : Driver}
    (grounded : Grounded directories d.volume) :
    (booted d.disk).volume = d.volume ∧ (booted d.disk).disk = d.disk := by
  obtain ⟨ram, image⟩ := @booted_of_signed d.disk grounded.signed
  have synced : d.fatTable = fatOf (d.disk 1) := grounded.synced
  rw [Driver.volume, ram, image, Driver.volume, synced]
  exact ⟨rfl, rfl⟩

theorem readable_congr {s : Session} (readable : Readable s) {d : Driver}
    (volume : d.volume = s.driver.volume) : Readable ⟨d, s.directories, s.files⟩ := by
  have disk : d.disk = s.driver.disk := congrArg Volume.disk volume
  obtain ⟨sound, headers, leads⟩ := readable
  refine ⟨⟨?_, ?_, ?_⟩, ?_, ?_⟩
  · rw [volume]
    exact sound.grounded
  · rw [disk]
    exact sound.files
  · rw [disk]
    exact sound.apart
  · rw [disk]
    exact headers
  · rw [disk]
    exact leads

/-- So the ledger is as good for it. -/
theorem readable_reboot {s : Session} (readable : Readable s) :
    Readable (reboot s) ∧ (reboot s).driver.disk = s.driver.disk := by
  obtain ⟨volume, disk⟩ := booted_same readable.sound.grounded
  exact ⟨readable_congr readable volume, disk⟩

theorem write_taken (s : Session) (i : Insertion) :
    sessionStep 0 s (.write i.request) = .ok (.status (write i.request s.driver).1,
      s.record i.request (write i.request s.driver).1 (write i.request s.driver).2) := rfl

/-- One run keeps every file of the ledger, and slot 0 of every directory. -/
structure Keeps (s t : Session) : Prop where
  files : ∀ f ∈ s.files, f ∈ t.files
  directories : ∀ p ∈ s.directories, p ∈ t.directories ∧
    tableOf (t.driver.disk p.val) 0 = tableOf (s.driver.disk p.val) 0

theorem Keeps.refl (s : Session) : Keeps s s := ⟨fun _ member => member, fun _ member => ⟨member, rfl⟩⟩

theorem Keeps.trans {s t u : Session} (first : Keeps s t) (second : Keeps t u) : Keeps s u := by
  constructor
  · exact fun f member => second.files f (first.files f member)
  · intro p member
    obtain ⟨kept, slot⟩ := first.directories p member
    obtain ⟨kept', slot'⟩ := second.directories p kept
    exact ⟨kept', slot'.trans slot⟩

theorem keeps_write {s t : Session} {reply : Reply} {request : FAT32DriverRequest}
    (readable : Readable s) (admitted : Admitted s (.write request))
    (taken : sessionStep 0 s (.write request) = .ok (reply, t)) : Keeps s t := by
  obtain ⟨extend, advanced⟩ := sessionStep_extends readable.sound.grounded admitted taken
  have tables : ∀ p ∈ s.directories,
      tableOf (t.driver.disk p.val) 0 = tableOf (s.driver.disk p.val) 0 :=
    fun p member => extend.tables p member 0 (.inl rfl)
  obtain ⟨driver, directories, files⟩ := t
  simp only at advanced tables ⊢
  generalize driver.volume = v' at advanced
  cases advanced with
  | same => exact ⟨fun _ member => member, fun p member => ⟨member, tables p member⟩⟩
  | folder => exact ⟨fun _ member => member,
      fun p member => ⟨List.mem_append_left _ member, tables p member⟩⟩
  | file => exact ⟨fun _ member => List.mem_append_left _ member,
      fun p member => ⟨member, tables p member⟩⟩

theorem next_keeps {s : Session} {i : Insertion} (readable : Readable s)
    (admitted : Admitted s (.write i.request)) :
    Readable (Bench.next s i) ∧ Keeps s (Bench.next s i) := by
  have taken := write_taken s i
  have next : Bench.next s i =
      reboot (s.record i.request (write i.request s.driver).1 (write i.request s.driver).2) := rfl
  rw [next]
  generalize s.record i.request (write i.request s.driver).1 (write i.request s.driver).2 = t
    at taken ⊢
  obtain ⟨rebooted, disk⟩ := readable_reboot (readable_step readable admitted taken)
  obtain ⟨files, directories⟩ := keeps_write readable admitted taken
  refine ⟨rebooted, ?_, ?_⟩
  · rw [reboot_files]
    exact files
  · rw [disk, reboot_directories]
    exact directories

/-! ### Any number of runs -/

section

variable {image : Disk} (unformatted : Unformatted image)

theorem Admissible.front {runs : List Insertion} {after : List Insertion}
    (admissible : Admissible image (runs ++ after)) : Admissible image runs := by
  intro before i later split
  refine admissible before i (later ++ after) ?_
  rw [split, List.append_assoc]
  rfl

theorem Admissible.last {runs : List Insertion} {i : Insertion}
    (admissible : Admissible image (runs ++ [i])) : Admitted (bench image runs) (.write i.request) :=
  admissible runs i [] rfl

include unformatted

theorem readable_bench {runs : List Insertion} (admissible : Admissible image runs) :
    Readable (bench image runs) := by
  induction runs using List.reverseRecOn with
  | nil => exact readable_formatted unformatted
  | append_singleton runs i ih =>
      rw [bench_snoc]
      exact (next_keeps (ih admissible.front) admissible.last).1

theorem keeps_bench {before after : List Insertion} (admissible : Admissible image (before ++ after)) :
    Keeps (bench image before) (bench image (before ++ after)) := by
  induction after using List.reverseRecOn with
  | nil =>
      rw [List.append_nil]
      exact .refl _
  | append_singleton after i ih =>
      rw [← List.append_assoc] at admissible ⊢
      rw [bench_snoc]
      exact (ih admissible.front).trans
        (next_keeps (readable_bench unformatted admissible.front) admissible.last).2

/-- A run that has stored a file has entered it in the ledger, for good. -/
theorem stored_run {before after : List Insertion} {i : Insertion}
    (admissible : Admissible image (before ++ i :: after)) (size : i.request.bufferSize ≠ 0)
    (success : (main (inserted image before) i).1 = "Write success") :
    ∃ f ∈ (bench image (before ++ i :: after)).files, f.request = i.request := by
  have code : (write i.request (bench image before).driver).1 = 0 := by
    rw [bench_driver]
    exact message_success success
  have split : before ++ i :: after = before ++ [i] ++ after := by simp
  let f : StoredFile := ⟨findEmptyEntry (parentTable (bench image before).driver.disk
    i.request.parentClusterNumber), findEmptyCluster (bench image before).driver.fatTable, i.request⟩
  have entered : f ∈ (bench image (before ++ [i])).files := by
    rw [bench_snoc, Bench.next, reboot_files, code, Session.record, if_neg (fun failed => failed rfl),
      if_neg size]
    exact List.mem_append_right _ (List.mem_singleton_self f)
  rw [split] at admissible ⊢
  exact ⟨f, (keeps_bench unformatted admissible).files f entered, rfl⟩

/-- The root keeps its name. -/
theorem root_bench {runs : List Insertion} (admissible : Admissible image runs) :
    tableOf ((bench image runs).driver.disk 2) 0 = rootTable 0 := by
  have kept := (@keeps_bench image unformatted [] runs admissible).directories 2
    (List.mem_singleton_self 2)
  have start : bench image [] = formatted image := rfl
  have two : (2 : Fin 512).val = 2 := rfl
  rw [start, formatted_driver, two, (booted_volume unformatted).2, freshDisk_root] at kept
  exact kept.2

end

/-- The root is a directory throughout. -/
theorem root_listed (image : Disk) (runs : List Insertion) : 2 ∈ (bench image runs).directories := by
  induction runs using List.reverseRecOn with
  | nil => exact List.mem_singleton_self 2
  | append_singleton runs i ih =>
      rw [bench_snoc, Bench.next, reboot_directories, Session.record]
      split
      · exact ih
      · split
        · exact List.mem_append_left _ ih
        · exact ih

/-- Runs that insert into the root. -/
theorem admissible_root (image : Disk) {runs : List Insertion}
    (root : ∀ i ∈ runs, i.parentClusterNumber = rootClusterNumber) : Admissible image runs := by
  intro before i after split _
  exact ⟨2, root_listed image before, root i (by rw [split]; simp)⟩

/-! ### What the kernel reads -/

/-- The bytes that the inserter has read. -/
theorem request_target {i : Insertion} {bytes : List UInt8} (target : i.target = some bytes)
    (short : bytes.length ≤ 4 * 1024 * 1024) :
    i.request.bufferSize.toNat = bytes.length ∧
      ∀ j < bytes.length, i.request.buf j = bytes.getD j 0 := by
  have size : i.filesize = bytes.length := by rw [Insertion.filesize, target]
  have buffer : i.buf = fun j => bytes.getD j (i.fileBuffer j) := by rw [Insertion.buf, target]
  constructor
  · rw [Insertion.request, size]
    exact UInt32.toNat_ofNat_of_lt' (by simp only [UInt32.size]; omega)
  · intro j inside
    change i.buf j = bytes.getD j 0
    rw [buffer]
    simp only [List.getD, List.getElem?_eq_getElem inside, Option.getD_some]

/-- Reading a stored file gives its first block, and leaves the buffer behind it alone. -/
theorem read_first_block {s : Session} (readable : Readable s) {f : StoredFile} (member : f ∈ s.files)
    (differs : carries f.request (parentTable s.driver.disk f.request.parentClusterNumber 0) = false)
    (buf : Nat → UInt8) {size : UInt32} (enough : f.request.bufferSize ≤ size) :
    (read (f.request.withBuffer buf size) s.driver).1.code = 0 ∧
      (∀ j < f.request.bufferSize.toNat, j < 512 →
        delivered buf (read (f.request.withBuffer buf size) s.driver).1 j = f.request.buf j) ∧
      ∀ j, 512 ≤ j → delivered buf (read (f.request.withBuffer buf size) s.driver).1 j = buf j := by
  obtain ⟨-, chain, stored, -⟩ := readable.sound.files f member
  have other : ¬ carries f.request
      (parentTable s.driver.disk f.request.parentClusterNumber 0) = true := by
    rw [differs]
    exact Bool.false_ne_true
  rw [read_stored readable member buf enough, if_neg other]
  refine ⟨rfl, fun j inside block => ?_, fun j beyond => ?_⟩
  · rw [delivered, if_pos block]
    exact stored.head block inside
  · rw [delivered, if_neg (Nat.not_lt.mpr beyond)]

section

variable {image : Disk} {before after : List Insertion} {i : Insertion} {bytes : List UInt8}

/-- The kernel reads the first block of what a run has stored. -/
theorem read_run (unformatted : Unformatted image)
    (admissible : Admissible image (before ++ i :: after)) (target : i.target = some bytes)
    (nonempty : bytes ≠ []) (short : bytes.length ≤ 4 * 1024 * 1024)
    (success : (main (inserted image before) i).1 = "Write success")
    (differs : carries i.request (parentTable (booted (inserted image (before ++ i :: after))).disk
      i.parentClusterNumber 0) = false) (buf : Nat → UInt8) {size : UInt32}
    (enough : bytes.length ≤ size.toNat) :
    let reply := (read (i.request.withBuffer buf size)
      (booted (inserted image (before ++ i :: after)))).1
    reply.code = 0 ∧
      (∀ j < bytes.length, j < 512 → delivered buf reply j = bytes.getD j 0) ∧
      ∀ j, 512 ≤ j → delivered buf reply j = buf j := by
  obtain ⟨length, content⟩ := request_target target short
  have size' : i.request.bufferSize ≠ 0 := by
    intro zero
    rw [zero] at length
    exact nonempty (List.eq_nil_of_length_eq_zero length.symm)
  obtain ⟨f, member, request⟩ := stored_run unformatted admissible size' success
  have readable := readable_bench unformatted admissible
  rw [← bench_driver] at differs ⊢
  have fits : f.request.bufferSize ≤ size := by
    rw [request, UInt32.le_iff_toNat_le, length]
    exact enough
  rw [← request] at length content ⊢
  obtain ⟨code, block, behind⟩ := read_first_block readable member
    (by rw [request]; exact differs) buf fits
  refine ⟨code, fun j inside small => ?_, behind⟩
  rw [block j (by rw [length]; exact inside) small, content j inside]

/-- What the inserter makes of the name of the shell. -/
theorem shell_request (name : scanName i.argv1 = [0x73, 0x68, 0x65, 0x6C, 0x6C])
    (root : i.parentClusterNumber = rootClusterNumber) (memory : Nat → UInt8) :
    i.request.withBuffer memory 0x100000 = kernelRequest memory := by
  have letters : (fun j : Fin 8 => (scanName i.argv1).getD j.val 0) = shellName := by
    rw [name]
    decide
  rw [FAT32DriverRequest.withBuffer, Insertion.request, letters, root, kernelRequest]

/-- **The shell that is run.** Once an insertion of a file `shell` into the root has
succeeded, then whatever is inserted later, the kernel loads the first block of the
file to address 0, and nothing behind it. -/
theorem shell_loads (unformatted : Unformatted image)
    (admissible : Admissible image (before ++ i :: after))
    (name : scanName i.argv1 = [0x73, 0x68, 0x65, 0x6C, 0x6C])
    (root : i.parentClusterNumber = rootClusterNumber) (target : i.target = some bytes)
    (nonempty : bytes ≠ []) (short : bytes.length ≤ 0x100000)
    (success : (main (inserted image before) i).1 = "Write success") (memory : Nat → UInt8) :
    let loaded := loadShell memory (inserted image (before ++ i :: after))
    loaded.1 = 0 ∧ (∀ j < bytes.length, j < 512 → loaded.2 j = bytes.getD j 0) ∧
      ∀ j, 512 ≤ j → loaded.2 j = memory j := by
  have request := shell_request name root memory
  have differs : carries i.request (parentTable (booted (inserted image (before ++ i :: after))).disk
      i.parentClusterNumber 0) = false := by
    have slot := root_bench unformatted admissible
    have two : rootClusterNumber.toNat = 2 := rfl
    have same : carries i.request = carries (i.request.withBuffer memory 0x100000) := rfl
    rw [same, request, ← bench_driver, parentTable, root, two, slot]
    rfl
  have enough : bytes.length ≤ (0x100000 : UInt32).toNat := short
  have reads := read_run unformatted admissible target nonempty (by omega) success differs memory
    enough
  rw [request] at reads
  simp only [loadShell]
  exact reads

end

/-! ### An instance -/

/-- `inserter shell 2`, for a shell of a few bytes. -/
def smallShell : Insertion :=
  ⟨[0x73, 0x68, 0x65, 0x6C, 0x6C], some [0xEB, 0xFE], rootClusterNumber, fun _ => 0⟩

/-- A file that is not there becomes a folder. -/
def missing : Insertion := ⟨[0x64, 0x6F, 0x63, 0x73], none, rootClusterNumber, fun _ => 0⟩

theorem smallShell_success : (main blankDisk smallShell).1 = "Write success" := by
  have written : (write smallShell.request (booted blankDisk)).1 = 0 := by
    refine booted_write_small blankDisk_unformatted rfl (fun same => ?_) (by decide)
    exact absurd (congrFun same 0) (by decide)
  rw [main, written, message, if_pos rfl]

theorem shell_loads_small :
    let loaded := loadShell (fun _ => 0) (inserted blankDisk ([] ++ smallShell :: [missing]))
    loaded.1 = 0 ∧ (∀ j < [0xEB, 0xFE].length, j < 512 → loaded.2 j = [0xEB, 0xFE].getD j 0) ∧
      ∀ j, 512 ≤ j → loaded.2 j = 0 := by
  have admissible : Admissible blankDisk ([] ++ smallShell :: [missing]) :=
    admissible_root blankDisk (by decide)
  have success : (main (inserted blankDisk []) smallShell).1 = "Write success" := smallShell_success
  exact @shell_loads blankDisk [] [missing] smallShell [0xEB, 0xFE] blankDisk_unformatted admissible
    (by decide) rfl rfl (List.cons_ne_nil _ _) (by decide) success fun _ => 0

end HexOS.Boot
