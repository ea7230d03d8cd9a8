import SimpleRV.Memory.RamAccess
import SimpleRV.Pipeline.WellFormed

namespace SimpleRV
namespace Translation

open MemorySystem CPUCore Memory Pipeline Iteration

/-!
# Bounds checks on 32-bit sums

Every check compares `addr + n` with the size of RAM.  The sum wraps for the
last addresses of the address space, the wrapped sum passes, and the bytes are
then taken from outside the vector.  Nothing else gets past the checks.
-/

/-! ## One check -/

/-- The last byte of the access is below the top of the address space. -/
def EndsBelowTop (addr : Addr) (n : Nat) : Prop := addr.toNat + n < 2 ^ 32

instance (addr : Addr) (n : Nat) : Decidable (EndsBelowTop addr n) :=
  inferInstanceAs (Decidable (addr.toNat + n < 2 ^ 32))

theorem memorySize_toNat : MEMORY_SIZE.toNat = 0x08000000 := rfl

theorem add_ofNat_toNat (addr : Addr) {n : Nat} (small : n < 2 ^ 32) :
    (addr + BitVec.ofNat 32 n).toNat = (addr.toNat + n) % 2 ^ 32 := by
  rw [BitVec.toNat_add, BitVec.toNat_ofNat, Nat.mod_eq_of_lt small]

/-- An access whose check passes is inside the vector unless its end wraps. -/
theorem inRange_iff_of_checked {addr : Addr} {n : Nat} (nonempty : 0 < n) (small : n < 2 ^ 16)
    (checked : ¬addr + BitVec.ofNat 32 n > MEMORY_SIZE) : inRange addr n = true ↔ EndsBelowTop addr n := by
  rw [gt_iff_lt, BitVec.lt_def, add_ofNat_toNat addr (by omega), memorySize_toNat] at checked
  have bound := addr.isLt
  unfold EndsBelowTop
  constructor
  · intro inside
    have first := of_decide_eq_true inside 0 nonempty
    rw [BitVec.lt_def, add_ofNat_toNat addr (by decide), memorySize_toNat] at first
    omega
  · intro ends
    apply inRange_of_inRam
    rw [memorySize_toNat]
    omega

/-- A sum that is refused has not wrapped. -/
theorem endsBelowTop_of_refused {addr : Addr} {n : Nat} (small : n < 2 ^ 16)
    (refused : addr + BitVec.ofNat 32 n > MEMORY_SIZE) : EndsBelowTop addr n := by
  rw [gt_iff_lt, BitVec.lt_def, add_ofNat_toNat addr (by omega), memorySize_toNat] at refused
  have bound := addr.isLt
  unfold EndsBelowTop
  omega

/-- An access to RAM behind its check: what it does is in bounds exactly if
its end does not wrap. -/
theorem checked_iff {α β : Type} {access : Except Crash α} {bytes : Except Crash β} {value : β} {f : β -> α}
    {message : String} {addr : Addr} {n : Nat} (nonempty : 0 < n) (small : n < 2 ^ 16)
    (bytesEq : bytes = if inRange addr n then .ok value else .error .outOfRange)
    (accessEq : access = if addr + BitVec.ofNat 32 n > MEMORY_SIZE then .error (.runtimeError message)
      else bytes.map f) :
    ((Exists fun out => access = .ok out ∧ inRange addr n = true) ∨ access = .error (.runtimeError message)) ↔
      EndsBelowTop addr n := by
  by_cases refused : addr + BitVec.ofNat 32 n > MEMORY_SIZE
  · rw [if_pos refused] at accessEq
    exact ⟨fun _ => endsBelowTop_of_refused small refused, fun _ => .inr accessEq⟩
  · rw [if_neg refused, bytesEq] at accessEq
    rw [← inRange_iff_of_checked nonempty small refused]
    cases inside : inRange addr n with
    | true =>
        rw [inside] at accessEq
        exact ⟨fun _ => rfl, fun _ => .inl ⟨_, accessEq, rfl⟩⟩
    | false =>
        rw [inside] at accessEq
        constructor
        · rintro (⟨out, ran, impossible⟩ | failed)
          · cases impossible
          · rw [accessEq] at failed
            cases failed
        · exact Bool.false_ne_true.elim

/-! ## Data and pair accesses -/

/-- The widths of loads and stores. -/
def IsWidth (n : Nat) : Prop := n = 1 ∨ n = 2 ∨ n = 4

/-- Addresses that `read` sends to a device. -/
def readsDevice (addr : Addr) : Bool :=
  inClint addr || decide (addr = UART_LSR_ADDR) || decide (addr = UART_TX_ADDR)

/-- Addresses that `write` sends to a device. -/
def writesDevice (addr : Addr) : Bool := inClint addr || decide (addr = UART_TX_ADDR)

/-- A read is served by a device, or takes bytes of the vector, or is refused. -/
def ReadInBounds (mem : MemorySystem) (addr : Addr) (n : Nat) : Prop :=
  (Exists fun out => mem.read addr n = .ok out ∧ (readsDevice addr = true ∨ inRange addr n = true)) ∨
    mem.read addr n = .error (.runtimeError "Memory read access out of bounds")

def WriteInBounds (mem : MemorySystem) (addr : Addr) (n : Nat) (data : Word) : Prop :=
  (Exists fun out => mem.write addr n data = .ok out ∧ (writesDevice addr = true ∨ inRange addr n = true)) ∨
    mem.write addr n data = .error (.runtimeError "Memory write access out of bounds")

def PairInBounds (mem : MemorySystem) (pc : Addr) : Prop :=
  (Exists fun out => mem.readDoubleInstr pc = .ok out ∧ inRange pc 8 = true) ∨
    mem.readDoubleInstr pc = .error (.runtimeError "Instruction fetch out of bounds")

theorem IsWidth.bounds {n : Nat} (width : IsWidth n) : 0 < n ∧ n <= 4 := by
  rcases width with same | same | same <;> subst same <;> decide

theorem loadWidth_isWidth (funct3 : BitVec 3) : IsWidth (loadWidth funct3) := by
  unfold loadWidth
  split
  · exact .inl rfl
  · split
    · exact .inr (.inl rfl)
    · exact .inr (.inr rfl)

theorem storeWidth_isWidth (funct3 : BitVec 3) : IsWidth (storeWidth funct3) := by
  unfold storeWidth
  split
  · exact .inl rfl
  · split
    · exact .inr (.inl rfl)
    · exact .inr (.inr rfl)

/-- No device is near the top of the address space. -/
theorem endsBelowTop_of_device {addr : Addr} {n : Nat} (width : IsWidth n) (device : readsDevice addr = true) :
    EndsBelowTop addr n := by
  have bounds := width.bounds
  unfold EndsBelowTop
  simp only [readsDevice, inClint, Bool.or_eq_true, Bool.and_eq_true, decide_eq_true_eq, BitVec.lt_def] at device
  rcases device with (⟨_, clint⟩ | lsr) | tx
  · have limit : (CLINT_BASE + 0x10000#32).toNat = 0x02010000 := rfl
    omega
  · rw [lsr]
    have place : UART_LSR_ADDR.toNat = 0x10000005 := rfl
    omega
  · rw [tx]
    have place : UART_TX_ADDR.toNat = 0x10000000 := rfl
    omega

theorem read_device {mem : MemorySystem} {addr : Addr} (device : readsDevice addr = true) (n : Nat) :
    Exists fun out => mem.read addr n = .ok out := by
  unfold MemorySystem.read
  simp only [readsDevice, Bool.or_eq_true, decide_eq_true_eq] at device
  by_cases clint : inClint addr = true
  · exact ⟨_, if_pos clint⟩
  · simp only [if_neg clint]
    by_cases lsr : addr = UART_LSR_ADDR
    · exact ⟨_, if_pos lsr⟩
    · have tx : addr = UART_TX_ADDR := by
        rcases device with (inClint | isLsr) | isTx
        · exact absurd inClint clint
        · exact absurd isLsr lsr
        · exact isTx
      simp only [if_neg lsr, if_pos tx]
      split
      · exact ⟨_, rfl⟩
      · exact ⟨_, rfl⟩

theorem read_ram {mem : MemorySystem} {addr : Addr} (ram : readsDevice addr = false) (n : Nat) :
    mem.read addr n =
      if addr + BitVec.ofNat 32 n > MEMORY_SIZE then .error (.runtimeError "Memory read access out of bounds")
      else (mem.loadBytes addr n).map (fun data =>
        (data, { mem with keyboard := mem.keyboard.checkHostKeyboard })) := by
  simp only [readsDevice, Bool.or_eq_false_iff, decide_eq_false_iff_not] at ram
  unfold MemorySystem.read
  simp only [ram.1.1, Bool.false_eq_true, if_false, if_neg ram.1.2, if_neg ram.2]
  rfl

theorem readInBounds_iff (mem : MemorySystem) (addr : Addr) {n : Nat} (width : IsWidth n) :
    ReadInBounds mem addr n ↔ EndsBelowTop addr n := by
  have bounds := width.bounds
  unfold ReadInBounds
  cases device : readsDevice addr with
  | true =>
      rcases read_device device n with ⟨out, ran⟩
      exact ⟨fun _ => endsBelowTop_of_device width device, fun _ => .inl ⟨out, ran, .inl rfl⟩⟩
  | false =>
      simp only [Bool.false_eq_true, false_or]
      exact checked_iff bounds.1 (by omega) (rfl : mem.loadBytes addr n = _) (read_ram device n)

theorem write_device {mem : MemorySystem} {addr : Addr} (device : writesDevice addr = true) (n : Nat) (data : Word) :
    Exists fun out => mem.write addr n data = .ok out := by
  unfold MemorySystem.write
  simp only [writesDevice, Bool.or_eq_true, decide_eq_true_eq] at device
  by_cases clint : inClint addr = true
  · rw [if_pos clint]
    split
    · exact ⟨_, rfl⟩
    · split
      · exact ⟨_, rfl⟩
      · exact ⟨_, rfl⟩
  · rw [if_neg clint, if_pos (device.resolve_left clint)]
    exact ⟨_, rfl⟩

theorem write_ram {mem : MemorySystem} {addr : Addr} (ram : writesDevice addr = false) (n : Nat) (data : Word) :
    mem.write addr n data =
      if addr + BitVec.ofNat 32 n > MEMORY_SIZE then .error (.runtimeError "Memory write access out of bounds")
      else (mem.storeBytes addr n data).map id := by
  simp only [writesDevice, Bool.or_eq_false_iff, decide_eq_false_iff_not] at ram
  have same : (mem.storeBytes addr n data).map id = mem.storeBytes addr n data := by
    cases mem.storeBytes addr n data <;> rfl
  unfold MemorySystem.write
  rw [if_neg (ne_true_of_eq_false ram.1), if_neg ram.2, same]

theorem writesDevice_readsDevice {addr : Addr} (device : writesDevice addr = true) : readsDevice addr = true := by
  simp only [writesDevice, Bool.or_eq_true] at device
  simp only [readsDevice, Bool.or_eq_true]
  rcases device with clint | tx
  · exact .inl (.inl clint)
  · exact .inr tx

theorem writeInBounds_iff (mem : MemorySystem) (addr : Addr) {n : Nat} (width : IsWidth n) (data : Word) :
    WriteInBounds mem addr n data ↔ EndsBelowTop addr n := by
  have bounds := width.bounds
  unfold WriteInBounds
  cases device : writesDevice addr with
  | true =>
      rcases write_device device n data with ⟨out, ran⟩
      have readable := writesDevice_readsDevice device
      exact ⟨fun _ => endsBelowTop_of_device width readable, fun _ => .inl ⟨out, ran, .inl rfl⟩⟩
  | false =>
      simp only [Bool.false_eq_true, false_or]
      exact checked_iff bounds.1 (by omega) (rfl : mem.storeBytes addr n data = _) (write_ram device n data)

theorem pairInBounds_iff (mem : MemorySystem) (pc : Addr) : PairInBounds mem pc ↔ EndsBelowTop pc 8 := by
  have same : (mem.loadBytes pc 8 : Except Crash (BitVec 64)).map id = mem.loadBytes pc 8 := by
    cases (mem.loadBytes pc 8 : Except Crash (BitVec 64)) <;> rfl
  apply @checked_iff _ _ (mem.readDoubleInstr pc) (mem.loadBytes pc 8) _ id _ pc 8 (by decide) (by decide) rfl
  rw [same]
  rfl

/-! ## Page-table entries -/

/-- `VA[31:22]` and `VA[21:12]`. -/
def vpn1Of (vaddr : Addr) : Word := (vaddr >>> 22) &&& 0x3FF#32

def vpn0Of (vaddr : Addr) : Word := (vaddr >>> 12) &&& 0x3FF#32

/-- The page number of the root table. -/
def rootPpn (satp : Word) : Word := satp &&& 0x003FFFFF#32

/-- The address of an entry as the code computes it. -/
def entryAddr (ppn index : Word) : Addr := (ppn <<< 12) + index * 4

/-- The address at which the walk reads its first entry. -/
def pte1Addr (satp : Word) (vaddr : Addr) : Addr := entryAddr (rootPpn satp) (vpn1Of vaddr)

/-- The address at which the walk reads its second entry. -/
def pte0Addr (pte1 : PTE) (vaddr : Addr) : Addr := entryAddr pte1.ppn (vpn0Of vaddr)

/-- The entry stored in RAM at an address. -/
def pteAt (ram : Addr -> Byte) (addr : Addr) : PTE := ⟨LittleEndian.load ram addr 4⟩

/-- An entry that ends the walk. -/
def isLeaf (pte : PTE) : Bool := pte.r || pte.x

/-- The load of an entry behind its check. -/
theorem loadEntry (ram : Addr -> Byte) {addr : Addr} (checked : ¬addr + 4 > MEMORY_SIZE) :
    (MemorySystem.loadBytes { memory := ram } addr 4 : Except Crash Word) =
      if EndsBelowTop addr 4 then .ok (pteAt ram addr).raw else .error .outOfRange := by
  have inside := @inRange_iff_of_checked addr 4 (by decide) (by decide) checked
  unfold loadBytes
  by_cases ends : EndsBelowTop addr 4
  · rw [if_pos ends, if_pos (inside.mpr ends)]
    rfl
  · rw [if_neg ends, if_neg (fun inRange => ends (inside.mp inRange))]

/-- The second half of the walk, behind a pointer. -/
def walkSecond (ram : Addr -> Byte) (addr : Addr) : Except Crash (Option Leaf) :=
  if addr + 4 > MEMORY_SIZE then .ok none
  else if EndsBelowTop addr 4 then .ok (if (pteAt ram addr).v then some ⟨pteAt ram addr, false⟩ else none)
  else .error .outOfRange

theorem walkSecond_eq (ram : Addr -> Byte) (addr : Addr) : walkSecond ram addr =
    if addr + 4 > MEMORY_SIZE then .ok none
    else (MemorySystem.loadBytes { memory := ram } addr 4).bind (fun raw =>
      if !(PTE.mk raw).v then .ok none else .ok (some ⟨PTE.mk raw, false⟩)) := by
  unfold walkSecond
  by_cases outside : addr + 4 > MEMORY_SIZE
  · rw [if_pos outside, if_pos outside]
  rw [if_neg outside, if_neg outside, loadEntry ram outside]
  by_cases ends : EndsBelowTop addr 4
  · rw [if_pos ends, if_pos ends]
    change _ = if !(pteAt ram addr).v then _ else _
    cases (pteAt ram addr).v <;> rfl
  · rw [if_neg ends, if_neg ends]
    rfl

/-- The walk, with the two ways for a check to end made explicit. -/
theorem walkLeaf_eq (ram : Addr -> Byte) (satp : Word) (vaddr : Addr) : walkLeaf ram satp vaddr =
    if pte1Addr satp vaddr + 4 > MEMORY_SIZE then .ok none
    else if EndsBelowTop (pte1Addr satp vaddr) 4 then
      if !(pteAt ram (pte1Addr satp vaddr)).v then .ok none
      else if isLeaf (pteAt ram (pte1Addr satp vaddr)) then
        .ok (some ⟨pteAt ram (pte1Addr satp vaddr), true⟩)
      else walkSecond ram (pte0Addr (pteAt ram (pte1Addr satp vaddr)) vaddr)
    else .error .outOfRange := by
  change (if pte1Addr satp vaddr + 4 > MEMORY_SIZE then .ok none
    else (MemorySystem.loadBytes { memory := ram } (pte1Addr satp vaddr) 4).bind _) = _
  by_cases outside : pte1Addr satp vaddr + 4 > MEMORY_SIZE
  · rw [if_pos outside, if_pos outside]
  rw [if_neg outside, if_neg outside, loadEntry ram outside]
  by_cases ends : EndsBelowTop (pte1Addr satp vaddr) 4
  · rw [if_pos ends, if_pos ends, walkSecond_eq]
    rfl
  · rw [if_neg ends, if_neg ends]
    rfl

/-- The second entry is read in bounds, or not at all. -/
theorem walkSecond_inBounds_iff (ram : Addr -> Byte) (addr : Addr) :
    (Exists fun found => walkSecond ram addr = .ok found) ↔ EndsBelowTop addr 4 := by
  unfold walkSecond
  by_cases outside : addr + 4 > MEMORY_SIZE
  · rw [if_pos outside]
    exact ⟨fun _ => endsBelowTop_of_refused (by decide) outside, fun _ => ⟨none, rfl⟩⟩
  rw [if_neg outside]
  by_cases ends : EndsBelowTop addr 4
  · rw [if_pos ends]
    exact ⟨fun _ => ends, fun _ => ⟨_, rfl⟩⟩
  · rw [if_neg ends]
    constructor
    · rintro ⟨found, impossible⟩
      cases impossible
    · intro holds
      exact absurd holds ends

/-- The entries that the walk comes to read are below the top of the address
space. -/
def EntriesBelowTop (ram : Addr -> Byte) (satp : Word) (vaddr : Addr) : Prop :=
  let first := pte1Addr satp vaddr
  let pte1 := pteAt ram first
  EndsBelowTop first 4 ∧
    (¬first + 4 > MEMORY_SIZE -> pte1.v = true -> isLeaf pte1 = false ->
      EndsBelowTop (pte0Addr pte1 vaddr) 4)

/-- The walk goes wrong in one way only. -/
theorem walkLeaf_inBounds_iff (ram : Addr -> Byte) (satp : Word) (vaddr : Addr) :
    (Exists fun found => walkLeaf ram satp vaddr = .ok found) ↔ EntriesBelowTop ram satp vaddr := by
  rw [walkLeaf_eq]
  unfold EntriesBelowTop
  by_cases outside : pte1Addr satp vaddr + 4 > MEMORY_SIZE
  · rw [if_pos outside]
    exact ⟨fun _ => ⟨endsBelowTop_of_refused (by decide) outside, fun inside => absurd outside inside⟩,
      fun _ => ⟨none, rfl⟩⟩
  rw [if_neg outside]
  by_cases ends : EndsBelowTop (pte1Addr satp vaddr) 4
  · rw [if_pos ends]
    cases valid : (pteAt ram (pte1Addr satp vaddr)).v with
    | false =>
        refine ⟨fun _ => ⟨ends, fun _ isValid => ?_⟩, fun _ => ⟨none, rfl⟩⟩
        exact absurd isValid (ne_true_of_eq_false valid)
    | true =>
        cases leaf : isLeaf (pteAt ram (pte1Addr satp vaddr)) with
        | true =>
            refine ⟨fun _ => ⟨ends, fun _ _ pointer => ?_⟩, fun _ => ⟨_, rfl⟩⟩
            exact absurd leaf (ne_true_of_eq_false pointer)
        | false =>
            change (Exists fun found => walkSecond ram _ = .ok found) ↔ _
            rw [walkSecond_inBounds_iff]
            exact ⟨fun second => ⟨ends, fun _ _ _ => second⟩, fun both => both.2 outside valid leaf⟩
  · rw [if_neg ends]
    constructor
    · rintro ⟨found, impossible⟩
      cases impossible
    · intro both
      exact absurd both.1 ends

/-! ## Translations -/

/-- `translate` comes to walk: translation is on and the TLB does not serve. -/
def Walks (mem : MemorySystem) (vaddr : Addr) (isWrite isFetch : Bool) (satp : Word) (privilege : Byte) : Prop :=
  privilege ≠ PRV_M ∧ (satp >>> 31) &&& 1#32 ≠ 0 ∧
    (mem.tlbLookup (vpnOf vaddr) { paddr := vaddr } isWrite isFetch).1 = false

/-- A translation comes to an end, having read entries in the vector only. -/
def TranslateInBounds (mem : MemorySystem) (vaddr : Addr) (isWrite isFetch : Bool) (satp : Word)
    (privilege : Byte) : Prop :=
  Exists fun out => mem.translate vaddr isWrite isFetch satp privilege = .ok out

theorem translateInBounds_iff (mem : MemorySystem) (vaddr : Addr) (isWrite isFetch : Bool) (satp : Word)
    (privilege : Byte) : TranslateInBounds mem vaddr isWrite isFetch satp privilege ↔
      (Walks mem vaddr isWrite isFetch satp privilege -> EntriesBelowTop mem.memory satp vaddr) := by
  unfold TranslateInBounds MemorySystem.translate Walks
  simp only [vpnFull_eq]
  by_cases machine : privilege = PRV_M
  · rw [if_pos machine]
    exact ⟨fun _ walks => absurd machine walks.1, fun _ => ⟨_, rfl⟩⟩
  rw [if_neg machine]
  by_cases bare : (satp >>> 31) &&& 1#32 = 0
  · rw [if_pos bare]
    exact ⟨fun _ walks => absurd bare walks.2.1, fun _ => ⟨_, rfl⟩⟩
  rw [if_neg bare]
  rcases looked : mem.tlbLookup (vpnOf vaddr) { paddr := vaddr } isWrite isFetch with ⟨served, result⟩
  cases served with
  | true => exact ⟨fun _ walks => absurd walks.2.2.symm Bool.false_ne_true, fun _ => ⟨_, rfl⟩⟩
  | false =>
      change (Exists fun out => mem.walk result vaddr isWrite isFetch satp privilege = .ok out) ↔ _
      rw [← walkLeaf_inBounds_iff, walk_eq]
      constructor
      · rintro ⟨out, walked⟩ _
        rcases map_eq_ok.mp walked with ⟨found, walked, _⟩
        exact ⟨found, walked⟩
      · intro inBounds
        rcases inBounds ⟨machine, bare, rfl⟩ with ⟨found, walked⟩
        exact ⟨_, map_eq_ok.mpr ⟨found, walked, rfl⟩⟩

/-! ## All five checks -/

/-- Which accesses of each kind stay inside RAM, go to a device or are
refused: those of which the 32-bit sum that is checked has not wrapped. -/
theorem physical_bounds_iff (mem : MemorySystem) :
    (forall addr n, IsWidth n -> (ReadInBounds mem addr n ↔ EndsBelowTop addr n)) ∧
      (forall addr n data, IsWidth n -> (WriteInBounds mem addr n data ↔ EndsBelowTop addr n)) ∧
      (forall pc, PairInBounds mem pc ↔ EndsBelowTop pc 8) ∧
      (forall vaddr isWrite isFetch satp privilege,
        TranslateInBounds mem vaddr isWrite isFetch satp privilege ↔
          (Walks mem vaddr isWrite isFetch satp privilege -> EntriesBelowTop mem.memory satp vaddr)) := by
  refine ⟨?_, ?_, ?_, ?_⟩
  · intro addr n width
    exact readInBounds_iff mem addr width
  · intro addr n data width
    exact writeInBounds_iff mem addr width data
  · exact pairInBounds_iff mem
  · exact translateInBounds_iff mem

/-- The last aligned word below the top of RAM, the first one above it, and
the pair fetch at the end of RAM. -/
theorem physical_bounds_iff_at_limit : ReadInBounds {} 0x07FFFFFC#32 4 ∧ WriteInBounds {} 0x08000000#32 4 7 ∧
    PairInBounds {} 0x07FFFFF8#32 := by
  rcases physical_bounds_iff {} with ⟨reads, writes, pairs, _⟩
  exact ⟨(reads _ 4 (.inr (.inr rfl))).mpr (by decide), (writes _ 4 7 (.inr (.inr rfl))).mpr (by decide),
    (pairs _).mpr (by decide)⟩

/-- `lw x1, -4(x0)` gets past its check and reads above RAM. -/
theorem load_below_top_escapes : Exists fun s => Reachable s ∧ s.tick = .error .outOfRange ∧
    ¬ReadInBounds s.memory 0xFFFFFFFC#32 4 := by
  have passed : passes (iterate tick 3 (init .default128MB (ramImage [(0, 0xFFC02083#32)]) {}))
      (fun s => fails s.tick (fun crash => decide (crash = .outOfRange))) = true := by
    decide +kernel
  rcases exists_of_passes passed with ⟨s, run, test⟩
  rcases exists_of_fails test with ⟨crash, crashed, isOutOfRange⟩
  refine ⟨s, ⟨_, _, _, 3, run⟩, ?_, ?_⟩
  · rw [crashed, of_decide_eq_true isOutOfRange]
  · rw [readInBounds_iff s.memory _ (.inr (.inr rfl))]
    decide

end Translation
end SimpleRV
