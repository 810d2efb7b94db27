import HexOS.Console.Syscall

/-!
What `puts` prints, and when it returns.

The loop counts to a 32-bit length in 8 bits, and the column it prints at is cut
to 8 bits too. `puts_eq` says what is left of the loop when the length fits its
counter, and `puts_hangs` that it never ends otherwise. `puts_prints_iff` puts
the two together: printing keeps its promise exactly when the length fits the
counter and the line it prints fits the column.
-/

namespace HexOS.Console

open WhileLoop

/-! ### The loop -/

/-- The screen after the first `n` rounds. -/
def writeCells (str : Nat → UInt8) (color : UInt32) (row col : UInt8) : Nat → Framebuffer → Framebuffer
  | 0, screen => screen
  | n + 1, screen =>
      framebufferWrite row (col + UInt8.ofNat n) (str n) color.toUInt8 0
        (writeCells str color row col n screen)

section

variable (str : Nat → UInt8) {len : UInt32} (color : UInt32) (row col : UInt8)

/-- A string of more than 255 characters is printed for ever. -/
theorem puts_hangs (long : 256 ≤ len.toNat) (screen : Framebuffer) (fuel : Nat) :
    iterate (putsRound str len color row col) fuel (0, screen) = none := by
  refine iterate_diverges (I := fun _ => True) (fun s _ => ?_) trivial fuel
  obtain ⟨i, fb⟩ := s
  have below : i.toUInt32 < len := by
    have := i.toNat_lt
    rw [UInt32.lt_iff_toNat_lt, UInt8.toNat_toUInt32]
    omega
  exact ⟨_, if_pos below, trivial⟩

/-- With `m` rounds left, the screen has all cells before the counter written. -/
theorem iterate_putsRound (short : len.toNat < 256) (screen : Framebuffer) {m i fuel : Nat}
    (left : i + m = len.toNat) (enough : m < fuel) :
    iterate (putsRound str len color row col) fuel
        (UInt8.ofNat i, writeCells str color row col i screen) =
      some (UInt8.ofNat len.toNat, writeCells str color row col len.toNat screen) := by
  have counter : (UInt8.ofNat i).toNat = i := by
    rw [UInt8.toNat_ofNat']
    omega
  induction m generalizing i fuel with
  | zero =>
      obtain ⟨fuel, rfl⟩ : ∃ k, fuel = k + 1 := ⟨fuel - 1, by omega⟩
      have reached : ¬ (UInt8.ofNat i).toUInt32 < len := by
        rw [UInt32.lt_iff_toNat_lt, UInt8.toNat_toUInt32, counter]
        omega
      simp only [iterate, putsRound, if_neg reached]
      rw [← left, Nat.add_zero]
  | succ m ih =>
      obtain ⟨fuel, rfl⟩ : ∃ k, fuel = k + 1 := ⟨fuel - 1, by omega⟩
      have more : (UInt8.ofNat i).toUInt32 < len := by
        rw [UInt32.lt_iff_toNat_lt, UInt8.toNat_toUInt32, counter]
        omega
      have next : UInt8.ofNat i + 1 = UInt8.ofNat (i + 1) := by
        apply UInt8.toNat_inj.mp
        rw [UInt8.toNat_add, counter, UInt8.toNat_ofNat']
        rfl
      simp only [iterate, putsRound, if_pos more, counter, next]
      exact ih (by omega) (by omega) (by rw [UInt8.toNat_ofNat']; omega)

theorem puts_eq (short : len.toNat < 256) (screen : Framebuffer) :
    puts str len color row col screen =
      .ok (framebufferSetCursor row (col + UInt8.ofNat len.toNat)
        (writeCells str color row col len.toNat screen)) := by
  have rounds := iterate_putsRound str color row col short screen (Nat.zero_add _) short
  rw [writeCells] at rounds
  simp only [puts, show (0 : UInt8) = UInt8.ofNat 0 from rfl, rounds]

/-! ### The cells -/

theorem toNat_column {col : UInt8} {n : Nat} (inside : col.toNat + n < 256) :
    (col + UInt8.ofNat n).toNat = col.toNat + n := by
  rw [UInt8.toNat_add, UInt8.toNat_ofNat']
  omega

/-- The `n` characters of `str` stand in the cells from `start` on, and no other
cell has changed. -/
structure Printed (str : Nat → UInt8) (colour : UInt8) (start n : Nat)
    (before after : Framebuffer) : Prop where
  stores : after.stores = before.stores + 2 * n
  chars : ∀ i < n, after.memory (2 * (start + i)) = str i
  colours : ∀ i < n, after.memory (2 * (start + i) + 1) = colour
  others : ∀ offset, offset < 2 * start ∨ 2 * (start + n) ≤ offset →
    after.memory offset = before.memory offset

theorem zero_shiftLeft_or (fg : UInt8) : (0 : UInt8) <<< 4 ||| fg = fg := by
  rw [UInt8.zero_shiftLeft, UInt8.zero_or]

/-- One more character at the next cell. -/
theorem Printed.write {str : Nat → UInt8} {colour : UInt8} {start n : Nat}
    {before after : Framebuffer} (printed : Printed str colour start n before after)
    {row col : UInt8} (next : row.toNat * 80 + col.toNat = start + n) :
    Printed str colour start (n + 1) before (framebufferWrite row col (str n) colour 0 after) := by
  constructor
  · rw [stores_write, printed.stores]
    omega
  · intro i inside
    rw [memory_write, next, if_neg (by omega)]
    split
    · rw [show i = n by omega]
    · exact printed.chars i (by omega)
  · intro i inside
    rw [memory_write, next]
    split
    · exact zero_shiftLeft_or colour
    · rw [if_neg (by omega)]
      exact printed.colours i (by omega)
  · intro offset outside
    rw [memory_write, next, if_neg (by omega), if_neg (by omega)]
    exact printed.others offset (by omega)

theorem printed_writeCells {col : UInt8} {n : Nat} (inside : col.toNat + n ≤ 256)
    (screen : Framebuffer) :
    Printed str color.toUInt8 (row.toNat * 80 + col.toNat) n screen
      (writeCells str color row col n screen) := by
  induction n with
  | zero =>
      constructor
      · rfl
      · exact fun i none => absurd none (Nat.not_lt_zero i)
      · exact fun i none => absurd none (Nat.not_lt_zero i)
      · exact fun offset _ => rfl
  | succ n ih =>
      refine (ih (by omega)).write ?_
      rw [toNat_column (by omega)]
      omega

/-! ### The promise -/

/-- What a caller of `puts` is promised: it returns, and prints all of a string
that leaves the cursor on the screen. -/
structure Prints (len : UInt32) (screen : Framebuffer) : Prop where
  returns : ∃ screen', puts str len color row col screen = .ok screen'
  prints : row.toNat * 80 + col.toNat + len.toNat ≤ 1999 →
    ∀ screen', puts str len color row col screen = .ok screen' →
      Printed str color.toUInt8 (row.toNat * 80 + col.toNat) len.toNat screen screen' ∧
        screen'.position = row.toNat * 80 + col.toNat + len.toNat

variable {str color row col}

theorem Prints.short {screen : Framebuffer} (promise : Prints str color row col len screen) :
    len.toNat < 256 := by
  by_contra long
  obtain ⟨screen', done⟩ := promise.returns
  have hangs := @puts_hangs str len color row col (by omega) screen 256
  simp only [puts, hangs] at done
  cases done

theorem Prints.column {screen : Framebuffer} (promise : Prints str color row col len screen)
    (room : row.toNat * 80 + col.toNat + len.toNat ≤ 1999) : col.toNat + len.toNat < 256 := by
  obtain ⟨-, position⟩ := promise.prints room _ (puts_eq str color row col promise.short screen)
  have colBound := (col + UInt8.ofNat len.toNat).toNat_lt
  rw [position_setCursor] at position
  omega

/-- **Printing keeps its promise exactly when** the length fits its 8-bit counter
and, if there is room on the screen, the column behind the string fits 8 bits. -/
theorem puts_prints_iff (len : UInt32) (screen : Framebuffer) :
    Prints str color row col len screen ↔
      len.toNat < 256 ∧
        (row.toNat * 80 + col.toNat + len.toNat ≤ 1999 → col.toNat + len.toNat < 256) := by
  constructor
  · exact fun promise => ⟨promise.short, promise.column⟩
  · rintro ⟨short, fits⟩
    have returned := puts_eq str color row col short screen
    refine ⟨⟨_, returned⟩, fun room screen' done => ?_⟩
    have inside := fits room
    have cells := @printed_writeCells str color row col len.toNat (by omega) screen
    rw [returned] at done
    cases done
    constructor
    · exact ⟨(stores_setCursor _ _ _).trans cells.stores, cells.chars, cells.colours, cells.others⟩
    · rw [position_setCursor, toNat_column inside]
      omega

end

/-- A string of 300 characters at the top of the screen has room and is printed
for ever. One of 200 characters that starts in the last column leaves the cursor
in column 23 of the row it started in. -/
theorem puts_counterexample :
    (∀ fuel, iterate (putsRound (fun _ => 0x61) 300 0xF 0 0) fuel (0, cleared.screen) = none) ∧
      ¬ Prints (fun _ => 0x61) 0xF 0 0 300 cleared.screen ∧
      ¬ Prints (fun _ => 0x61) 0xF 0 79 200 cleared.screen := by
  refine ⟨puts_hangs _ _ _ _ (by decide) _, fun promise => ?_, fun promise => ?_⟩
  · exact absurd promise.short (by decide)
  · exact absurd (promise.column (by decide)) (by decide)

end HexOS.Console
