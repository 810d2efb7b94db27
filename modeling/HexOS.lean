import HexOS.Library.ByteWords
import HexOS.Library.BoundedScan
import HexOS.Library.WhileLoop
import HexOS.Library.PartialRuns
import HexOS.Library.LinkTable
import HexOS.Library.Splice
import HexOS.Library.InPlaceCopy
import HexOS.Library.LineZipper
import HexOS.Library.StackWords
import HexOS.Library.BitFields
import HexOS.Library.CachedTable
import HexOS.Library.Clients
import HexOS.Library.Extents
import HexOS.Stdmem
import HexOS.Memmove
import HexOS.Memcpy
import HexOS.Console.Framebuffer
import HexOS.Console.Keyboard
import HexOS.Interrupts.Pic
import HexOS.Interrupts.Delivery
import HexOS.Interrupts.Liveness
import HexOS.Interrupts.Keyboard
import HexOS.Fat32.Layout
import HexOS.Fat32.Driver
import HexOS.Fat32.Volume
import HexOS.Fat32.Outcome
import HexOS.Fat32.Chains
import HexOS.Fat32.System
import HexOS.Fat32.TestTable
import HexOS.Fat32.Acyclic
import HexOS.Fat32.Reserved
import HexOS.Fat32.Reboot
import HexOS.Fat32.Ledger
import HexOS.Fat32.Durability
import HexOS.Fat32.RoundTrip
import HexOS.Fat32.Names
import HexOS.Fat32.Parents
import HexOS.Fat32.FileWrites
import HexOS.Fat32.FailedWrites
import HexOS.Fat32.Deletion
import HexOS.Fat32.Removals
import HexOS.Fat32.UnusedFields
import HexOS.Fat32.Lookup
import HexOS.Fat32.Directories
import HexOS.Fat32.Buffers
import HexOS.Fat32.NewFolders
import HexOS.Fat32.Decoding
import HexOS.Console.Echo
import HexOS.Console.LineEditing
import HexOS.Console.Typing
import HexOS.Console.TypedLine
import HexOS.Console.RawKeys
import HexOS.Console.Arrows
import HexOS.Console.Syscall
import HexOS.Console.Printing
import HexOS.Console.Mkdir
import HexOS.Console.Observed
import HexOS.Console.Screen
import HexOS.Shell.System
import HexOS.Shell.Lines
import HexOS.Shell.Progress
import HexOS.Traps.Processor
import HexOS.Traps.Stubs
import HexOS.Traps.Statics
import HexOS.Traps.Interleaving
import HexOS.Traps.Descriptors
import HexOS.Traps.SoftwareInterrupts
import HexOS.Traps.UserMode
import HexOS.Blocks.Ata
import HexOS.Blocks.Backends
import HexOS.Blocks.BlockLayer
import HexOS.Blocks.FileSystem
import HexOS.Paging
import HexOS.Mmu.Entries
import HexOS.Mmu.Updates
import HexOS.Boot.Inserter
import HexOS.Files.WriteLog
import HexOS.Files.Image
import HexOS.Files.Growth
import HexOS.Files.Refinement
import HexOS.Files.Recovery
import HexOS.Files.Capacity
import HexOS.Files.SystemCalls
