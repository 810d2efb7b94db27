import HexOS.Console.Printing
import HexOS.Fat32.Parents
import HexOS.Memmove
import HexOS.Mmu.Updates

/-!
What system call 10 reports.

`cmd_mkdir` stores the status where `ecx` points and then looks at `ecx` instead
of the status. The message follows the caller's choice of an address, and tells
the truth exactly when that agrees with what `write` did (`mkdir_reports_iff`). At
an address that is not mapped the store faults: the handler ignores the exception
and the store is made again, so the call never comes to the message.
-/

namespace HexOS.Console

open Fat32

/-! ### The call -/

/-- The kernel may store there, once `kernel_setup` has mapped the page at 0. -/
def mapped (address : UInt32) : Bool := (Paging.intended [0] ⟨false, true⟩ address).isSome

/-- A running program may store there. -/
def InUserPage (address : UInt32) : Prop := (Paging.intended [0] ⟨true, true⟩ address).isSome

instance (address : UInt32) : Decidable (InUserPage address) :=
  inferInstanceAs (Decidable (_ = _))

/-- `*((int8_t*) cpu.ecx) = status`. In the kernel's own page this would hit no
memory of the caller's; such addresses are left out where it matters. -/
def storeStatus (ecx : UInt32) (status : Int) (memory : FlatMemory) : Except Fault FlatMemory :=
  if mapped ecx then .ok (Function.update memory ecx (UInt8.ofInt status))
  else .error (.pageFault ecx)

/-- System call 10 with the caller's memory. -/
def mkdirCall (request : FAT32DriverRequest) (ecx : UInt32) (k : Kernel) (memory : FlatMemory) :
    Except Fault (FlatMemory × Kernel) :=
  match kernelStep k (.mkdir request ecx) with
  | .ok (status, k) =>
      match storeStatus ecx status memory with
      | .ok memory => .ok (memory, k)
      | .error fault => .error fault
  | .error fault => .error fault

/-! ### The promise -/

/-- The write returned 0 and the parent's table on disk gained the folder's entry. -/
structure Created (request : FAT32DriverRequest) (d : Driver) : Prop where
  status : (write request d).1 = 0
  gained : ∃ i, ¬ Live (parentTable d.disk request.parentClusterNumber i) ∧
    Live (parentTable (write request d).2.disk request.parentClusterNumber i) ∧
    (parentTable (write request d).2.disk request.parentClusterNumber i).name = request.name

/-- `message` is what was printed where the cursor stood. -/
def Reported (message : List UInt8) (before after : Framebuffer) : Prop :=
  Printed (fun i => message.getD i 0) 0xF
    ((framebufferGetCursor before).1.toNat * 80 + (framebufferGetCursor before).2.1.toNat)
    message.length before after

/-- The status is stored, and the message is the one for what happened. -/
structure MkdirReports (k : Kernel) (request : FAT32DriverRequest) (ecx : UInt32) : Prop where
  stored : ∀ memory, ∃ k', mkdirCall request ecx k memory =
    .ok (Function.update memory ecx (UInt8.ofInt (write request k.filesystem).1), k')
  success : ∀ memory memory' k', mkdirCall request ecx k memory = .ok (memory', k') →
    (Reported createdMessage k.terminal.screen k'.terminal.screen ↔ Created request k.filesystem)
  failure : ∀ memory memory' k', mkdirCall request ecx k memory = .ok (memory', k') →
    (Reported errorMessage k.terminal.screen k'.terminal.screen ↔ ¬ Created request k.filesystem)

/-! ### The program's page -/

theorem pageIndex_val (address : UInt32) : (Paging.pageIndex address).val = address.toNat / 2 ^ 22 :=
  Paging.toNat_frame_field address

theorem first_page_iff (address : UInt32) :
    (∃ c ∈ [(0 : UInt32)], Paging.pageIndex c = Paging.pageIndex address) ↔
      address.toNat < 2 ^ 22 := by
  have zero : (0 : UInt32).toNat = 0 := rfl
  simp only [List.mem_singleton, exists_eq_left, Fin.ext_iff, pageIndex_val, zero]
  omega

theorem inUserPage_iff (address : UInt32) : InUserPage address ↔ address.toNat < 2 ^ 22 := by
  rw [InUserPage, Paging.intended]
  by_cases first : address.toNat < 2 ^ 22
  · rw [if_pos ((first_page_iff address).mpr first)]
    exact iff_of_true rfl first
  · rw [if_neg (mt (first_page_iff address).mp first), if_neg fun kernel => Bool.noConfusion kernel.2]
    exact iff_of_false (by decide) first

theorem mapped_of_user {address : UInt32} (user : InUserPage address) : mapped address = true := by
  rw [inUserPage_iff, ← first_page_iff] at user
  rw [mapped, Paging.intended, if_pos user]
  rfl

/-- Outside the kernel's page only the program's is mapped. -/
theorem mapped_iff {address : UInt32} (outside : (Paging.pageIndex address).val ≠ 0x300) :
    mapped address = true ↔ InUserPage address := by
  refine ⟨fun stores => ?_, mapped_of_user⟩
  by_contra other
  rw [inUserPage_iff, ← first_page_iff] at other
  rw [mapped, Paging.intended, if_neg other, if_neg fun kernel => outside kernel.1] at stores
  cases stores

/-! ### When a folder is created -/

/-- The new entry stands in the parent's table, even when the folder takes the
parent's own cluster. -/
theorem makeFolder_entry {request : FAT32DriverRequest} {v : Volume} {c : Fin 512} {i : Fin 64}
    (accepts : Accepts v.disk request.parentClusterNumber) (first : FirstFree v.fat c)
    (slot : FirstSlot (parentTable v.disk request.parentClusterNumber) i) :
    parentTable (Volume.makeFolder request c ⟨v.fat, storeEntry request v.disk c i⟩).disk
        request.parentClusterNumber i =
      writeEntry request (parentTable v.disk request.parentClusterNumber) (num c) i i := by
  have above := accepts.1
  have behind : i ≠ 0 := BoundedScan.ne_zero_of_one_le slot.spec.1
  by_cases own : request.parentClusterNumber.toNat = c.val
  · rw [parentTable, own, makeFolder_own request first.spec.1, initDirectoryTable_of_ne behind,
      ← own, storeEntry_parent]
  · simp only [parentTable, Volume.makeFolder]
    rw [Function.update_of_ne (by omega), Function.update_of_ne own, storeEntry_parent]

theorem created_iff {request : FAT32DriverRequest} (folder : request.bufferSize = 0) (d : Driver) :
    Created request d ↔ FindsPlace request d.volume := by
  have outcome := write_outcome request d
  have same : Created request d ↔ (write request d).1 = 0 ∧
      ∃ i, ¬ Live (parentTable d.volume.disk request.parentClusterNumber i) ∧
        Live (parentTable (write request d).2.volume.disk request.parentClusterNumber i) ∧
        (parentTable (write request d).2.volume.disk request.parentClusterNumber i).name =
          request.name :=
    ⟨fun created => ⟨created.1, created.2⟩, fun created => ⟨created.1, created.2⟩⟩
  rw [same]
  generalize (write request d).1 = code at outcome
  generalize (write request d).2.volume = v' at outcome
  cases outcome with
  | invalidParent rejected =>
      exact ⟨fun created => absurd created.1 (by decide), fun place => absurd place.parent rejected⟩
  | taken _ exist =>
      exact ⟨fun created => absurd created.1 (by decide), fun place => absurd place.absent exist⟩
  | full _ _ none =>
      refine ⟨fun created => absurd created.1 (by decide), fun place => ?_⟩
      rcases none with noCluster | noSlot
      · exact absurd place.cluster noCluster
      · exact absurd place.slot noSlot
  | @folder c i accepts absent first slot =>
      refine ⟨fun _ => ⟨accepts, absent, ⟨c, first⟩, ⟨i, slot⟩⟩, fun _ => ⟨rfl, i, slot.spec.2.1, ?_⟩⟩
      rw [makeFolder_entry accepts first slot]
      exact ⟨writeEntry_live _ _ _ _, writeEntry_name _ _ _ _⟩
  | file _ _ _ _ size => exact absurd folder size

/-! ### What is printed -/

/-- A short message at the cursor. -/
theorem reported_puts (message : List UInt8) {len : UInt32} (length : len.toNat = message.length)
    (short : len.toNat ≤ 80) (screen : Framebuffer) :
    ∃ screen', puts (fun i => message.getD i 0) len 0xF (framebufferGetCursor screen).1
        (framebufferGetCursor screen).2.1 (framebufferGetCursor screen).2.2 = .ok screen' ∧
      Reported message screen screen' := by
  have col : (framebufferGetCursor screen).2.1.toNat < 80 := by
    rw [(getCursor_eq screen).2, UInt8.toNat_ofNat']
    omega
  have cells := @printed_writeCells (fun i => message.getD i 0) 0xF (framebufferGetCursor screen).1
    (framebufferGetCursor screen).2.1 len.toNat (by omega) (framebufferGetCursor screen).2.2
  refine ⟨_, puts_eq _ _ _ _ (by omega) _, ?_⟩
  rw [length] at cells ⊢
  exact ⟨(stores_setCursor _ _ _).trans cells.stores, cells.chars, cells.colours, cells.others⟩

/-- The two messages are not mistaken for each other: they differ in length. -/
theorem reported_length {message message' : List UInt8} {before after : Framebuffer}
    (reported : Reported message before after) (reported' : Reported message' before after) :
    message.length = message'.length := by
  have stores := reported.stores
  rw [reported'.stores] at stores
  omega

/-- Where the result can be stored the call returns; what it prints depends on
`ecx` alone. -/
theorem mkdirCall_eq (request : FAT32DriverRequest) {ecx : UInt32} (stores : mapped ecx = true)
    (k : Kernel) (memory : FlatMemory) :
    ∃ k', mkdirCall request ecx k memory =
        .ok (Function.update memory ecx (UInt8.ofInt (write request k.filesystem).1), k') ∧
      if ecx = 0 then Reported createdMessage k.terminal.screen k'.terminal.screen
      else Reported errorMessage k.terminal.screen k'.terminal.screen := by
  by_cases zero : ecx = 0
  · obtain ⟨screen, done, reported⟩ :=
      @reported_puts createdMessage 24 rfl (by decide) k.terminal.screen
    refine ⟨⟨{ k.terminal with screen }, (write request k.filesystem).2⟩, ?_, ?_⟩
    · simp only [mkdirCall, kernelStep, syscall, cmdMkdir, if_pos zero, done, storeStatus,
        if_pos stores]
    · rw [if_pos zero]
      exact reported
  · obtain ⟨screen, done, reported⟩ :=
      @reported_puts errorMessage 5 rfl (by decide) k.terminal.screen
    refine ⟨⟨{ k.terminal with screen }, (write request k.filesystem).2⟩, ?_, ?_⟩
    · simp only [mkdirCall, kernelStep, syscall, cmdMkdir, if_neg zero, done, storeStatus,
        if_pos stores]
    · rw [if_neg zero]
      exact reported

/-- Elsewhere it never does. -/
theorem mkdirCall_unmapped (request : FAT32DriverRequest) {ecx : UInt32}
    (faults : mapped ecx = false) (k : Kernel) (memory : FlatMemory) :
    ∃ fault, mkdirCall request ecx k memory = .error fault := by
  have never : ¬ mapped ecx = true := Bool.eq_false_iff.mp faults
  simp only [mkdirCall, storeStatus, if_neg never]
  split
  · exact ⟨_, rfl⟩
  · exact ⟨_, rfl⟩

theorem reported_iff {request : FAT32DriverRequest} {ecx : UInt32} (stores : mapped ecx = true)
    {k k' : Kernel} {memory memory' : FlatMemory}
    (done : mkdirCall request ecx k memory = .ok (memory', k')) :
    (Reported createdMessage k.terminal.screen k'.terminal.screen ↔ ecx = 0) ∧
      (Reported errorMessage k.terminal.screen k'.terminal.screen ↔ ecx ≠ 0) := by
  obtain ⟨k'', done', reported⟩ := mkdirCall_eq request stores k memory
  rw [done] at done'
  cases done'
  by_cases zero : ecx = 0
  · rw [if_pos zero] at reported
    refine ⟨iff_of_true reported zero, iff_of_false (fun other => ?_) (not_not.mpr zero)⟩
    exact absurd (reported_length reported other) (by decide)
  · rw [if_neg zero] at reported
    refine ⟨iff_of_false (fun other => ?_) zero, iff_of_true reported zero⟩
    exact absurd (reported_length reported other) (by decide)

/-- **The report is right exactly when** the result address lies in the program's
page, and is 0 for the folders that are created and not 0 for those that are not. -/
theorem mkdir_reports_iff (k : Kernel) {request : FAT32DriverRequest}
    (folder : request.bufferSize = 0) {ecx : UInt32}
    (outside : (Paging.pageIndex ecx).val ≠ 0x300) :
    MkdirReports k request ecx ↔
      InUserPage ecx ∧ (ecx = 0 ↔ FindsPlace request k.filesystem.volume) := by
  rw [← created_iff folder, ← mapped_iff outside]
  constructor
  · intro reports
    cases stores : mapped ecx with
    | true =>
        obtain ⟨k', done, -⟩ := mkdirCall_eq request stores k fun _ => 0
        exact ⟨rfl, (reported_iff stores done).1.symm.trans (reports.success _ _ k' done)⟩
    | false =>
        obtain ⟨k', done⟩ := reports.stored fun _ => 0
        obtain ⟨fault, never⟩ := mkdirCall_unmapped request stores k fun _ => 0
        rw [never] at done
        cases done
  · rintro ⟨stores, agree⟩
    refine ⟨fun memory => ?_, fun _ _ _ done => ?_, fun _ _ _ done => ?_⟩
    · obtain ⟨k', done, -⟩ := mkdirCall_eq request stores k memory
      exact ⟨k', done⟩
    · exact (reported_iff stores done).1.trans agree
    · exact (reported_iff stores done).2.trans (not_congr agree)

/-! ### A folder that is there and said not to be -/

/-- There is a place for the folder `docs` on the freshly formatted disk. -/
theorem docs_findsPlace : FindsPlace docs (booted blankDisk).volume :=
  findsPlace_booted blankDisk_unformatted rfl (by decide)

/-- With its result at address 0 the call says that the folder was created. -/
theorem mkdir_reports_docs : MkdirReports ⟨cleared, booted blankDisk⟩ docs 0 := by
  have place := docs_findsPlace
  generalize booted blankDisk = d at place ⊢
  exact (@mkdir_reports_iff ⟨cleared, d⟩ docs rfl 0 (by decide)).mpr
    ⟨(inUserPage_iff 0).mpr (by decide), iff_of_true rfl place⟩

/-- Anywhere else in the page it says "Error", and the folder is there. -/
theorem mkdir_counterexample :
    InUserPage 0x1000 ∧ Created docs (booted blankDisk) ∧
      (∃ k', mkdirCall docs 0x1000 ⟨cleared, booted blankDisk⟩ (fun _ => 0) =
          .ok (Function.update (fun _ => 0) 0x1000 0, k') ∧
        Reported errorMessage cleared.screen k'.terminal.screen) ∧
      ¬ MkdirReports ⟨cleared, booted blankDisk⟩ docs 0x1000 := by
  have user : InUserPage 0x1000 := (inUserPage_iff 0x1000).mpr (by decide)
  have created := (@created_iff docs rfl (booted blankDisk)).mpr docs_findsPlace
  generalize booted blankDisk = d at created ⊢
  obtain ⟨k', done, reported⟩ :=
    mkdirCall_eq docs (mapped_of_user user) ⟨cleared, d⟩ fun _ => 0
  rw [if_neg (by decide)] at reported
  refine ⟨user, created, ⟨k', ?_, reported⟩, fun reports => ?_⟩
  · rw [done, created.status]
    rfl
  · exact (reports.failure _ _ k' done).mp reported created

end HexOS.Console
