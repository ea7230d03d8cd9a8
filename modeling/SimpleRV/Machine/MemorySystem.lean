import SimpleRV.Library.LittleEndian
import SimpleRV.Library.RoundRobin
import SimpleRV.Machine.RegisterFile

namespace SimpleRV

/-!
# Physical memory, MMIO and the Sv32 translation

`MemorySystem.h`/`.cpp`.  The global keyboard buffer of that file and the
characters sent to the UART belong to the memory system here.  The host is
modelled by the stream of answers that polling standard input gives.
-/

structure TranslationResult where
  fault : Bool := false
  paddr : Addr := 0
  cause : Word := 0
deriving DecidableEq, Repr

/-- `flags`: R is bit 0, W bit 1, X bit 2. -/
structure TLBEntry where
  vpn : Word := 0
  ppn : Word := 0
  flags : Byte := 0
  valid : Bool := false
deriving DecidableEq, Repr

abbrev TLB_SIZE : Nat := 8

/-- The statics `buffered_char` and `has_buffered_char`, and the host behind
them: `answers i` is what the `i`-th poll of standard input returns. -/
structure HostKeyboard where
  answers : Nat -> Option Byte := fun _ => none
  polled : Nat := 0
  bufferedChar : Byte := 0
  hasBufferedChar : Bool := false

structure MemorySystem where
  memory : Addr -> Byte := fun _ => 0
  mtime : BitVec 64 := 0
  mtimecmp : BitVec 64 := 0
  tlb : Fin TLB_SIZE -> TLBEntry := fun _ => {}
  tlbReplaceIdx : Nat := 0
  keyboard : HostKeyboard := {}
  /-- Characters written to the UART, the latest first. -/
  uartOutput : List Byte := []

/-- `check_host_keyboard`: poll the host unless a character is waiting. -/
def HostKeyboard.checkHostKeyboard (keyboard : HostKeyboard) : HostKeyboard :=
  if keyboard.hasBufferedChar then keyboard
  else
    match keyboard.answers keyboard.polled with
    | some char =>
        { keyboard with polled := keyboard.polled + 1, bufferedChar := char, hasBufferedChar := true }
    | none => { keyboard with polled := keyboard.polled + 1 }

namespace MemorySystem

/-- Are the `n` vector elements from `addr` on inside the vector? -/
def inRange (addr : Addr) (n : Nat) : Bool :=
  decide (forall i, i < n -> addr + BitVec.ofNat 32 i < MEMORY_SIZE)

/-- The loop `data |= memory[addr + i] << (8 * i)` over `i < n`. -/
def loadBytes {w : Nat} (mem : MemorySystem) (addr : Addr) (n : Nat) : Except Crash (BitVec w) :=
  if inRange addr n then .ok (LittleEndian.load mem.memory addr n) else .error .outOfRange

/-- The loop `memory[addr + i] = (data >> (8 * i)) & 0xFF` over `i < n`. -/
def storeBytes (mem : MemorySystem) (addr : Addr) (n : Nat) (data : Word) : Except Crash MemorySystem :=
  if inRange addr n then .ok { mem with memory := LittleEndian.store mem.memory addr data n }
  else .error .outOfRange

/-- Addresses that `read` and `write` route to the CLINT. -/
def inClint (addr : Addr) : Bool :=
  decide (CLINT_BASE <= addr) && decide (addr < CLINT_BASE + 0x10000#32)

/-- The CLINT registers; every other address of the window reads as zero. -/
def readClint (mem : MemorySystem) (addr : Addr) (n : Nat) : Word :=
  if addr = CLINT_MTIME && n == 4 then (mem.mtime &&& 0xFFFFFFFF#64).setWidth 32
  else if addr = CLINT_MTIME + 4 && n == 4 then ((mem.mtime >>> 32) &&& 0xFFFFFFFF#64).setWidth 32
  else if addr = CLINT_MTIMECMP && n == 4 then (mem.mtimecmp &&& 0xFFFFFFFF#64).setWidth 32
  else if addr = CLINT_MTIMECMP + 4 && n == 4 then ((mem.mtimecmp >>> 32) &&& 0xFFFFFFFF#64).setWidth 32
  else 0

/-- `MemorySystem::read`.  `char` is signed, so a received byte is extended
with its sign. -/
def read (mem : MemorySystem) (addr : Addr) (n : Nat) : Except Crash (Word × MemorySystem) :=
  let mem := { mem with keyboard := mem.keyboard.checkHostKeyboard }
  if inClint addr then .ok (mem.readClint addr n, mem)
  else if addr = UART_LSR_ADDR then
    .ok (if mem.keyboard.hasBufferedChar then 0x21#32 else 0x20#32, mem)
  else if addr = UART_TX_ADDR then
    if mem.keyboard.hasBufferedChar then
      .ok (mem.keyboard.bufferedChar.signExtend 32,
        { mem with keyboard := { mem.keyboard with hasBufferedChar := false } })
    else .ok (0, mem)
  else if addr + BitVec.ofNat 32 n > MEMORY_SIZE then
    .error (.runtimeError "Memory read access out of bounds")
  else (mem.loadBytes addr n).map (fun data => (data, mem))

/-- `read_double_instr`, on a little-endian host. -/
def readDoubleInstr (mem : MemorySystem) (pc : Addr) : Except Crash (BitVec 64) :=
  if pc + 8 > MEMORY_SIZE then .error (.runtimeError "Instruction fetch out of bounds")
  else mem.loadBytes pc 8

/-- `MemorySystem::write`. -/
def write (mem : MemorySystem) (addr : Addr) (n : Nat) (data : Word) : Except Crash MemorySystem :=
  if inClint addr then
    if addr = CLINT_MTIMECMP && n == 4 then
      .ok { mem with mtimecmp := (mem.mtimecmp &&& 0xFFFFFFFF00000000#64) ||| data.setWidth 64 }
    else if addr = CLINT_MTIMECMP + 4 && n == 4 then
      .ok { mem with mtimecmp := (mem.mtimecmp &&& 0xFFFFFFFF#64) ||| (data.setWidth 64 <<< 32) }
    else .ok mem
  else if addr = UART_TX_ADDR then .ok { mem with uartOutput := data.setWidth 8 :: mem.uartOutput }
  else if addr + BitVec.ofNat 32 n > MEMORY_SIZE then
    .error (.runtimeError "Memory write access out of bounds")
  else mem.storeBytes addr n data

def incrementTimer (mem : MemorySystem) : MemorySystem :=
  { mem with mtime := mem.mtime + 1 }

def timerInterruptPending (mem : MemorySystem) : Bool :=
  decide (mem.mtime >= mem.mtimecmp) && mem.mtimecmp != 0

/-! ## The TLB and the two-level page walk -/

def tlbInsert (mem : MemorySystem) (vpn ppn : Word) (flags : Byte) : MemorySystem :=
  { mem with
    tlb := RoundRobin.insert mem.tlb mem.tlbReplaceIdx ⟨vpn, ppn, flags, true⟩
    tlbReplaceIdx := (mem.tlbReplaceIdx + 1) % TLB_SIZE }

def tlbFlush (mem : MemorySystem) : MemorySystem :=
  { mem with tlb := fun i => { mem.tlb i with valid := false }, tlbReplaceIdx := 0 }

/-- The first valid entry for `vpn`. -/
def tlbMatch (mem : MemorySystem) (vpn : Word) : Option TLBEntry :=
  RoundRobin.search mem.tlb (fun entry => entry.valid && entry.vpn == vpn)

/-- The page-fault cause for an access kind. -/
def pageFaultCause (isWrite isFetch : Bool) : Word :=
  if isFetch then MCAUSE_INST_PAGE_FAULT
  else if isWrite then MCAUSE_STORE_PAGE_FAULT
  else MCAUSE_LOAD_PAGE_FAULT

/-- Does the access kind lack its permission?  Shared by the TLB flags and by
the bits of a leaf PTE: fetches need X, stores W, loads R. -/
def lacksPermission (isWrite isFetch r w x : Bool) : Bool :=
  (isFetch && !x) || (isWrite && !w) || (!isWrite && !isFetch && !r)

/-- The cause set by the permission checks, made in the order X, W, R. -/
def permissionCause (isWrite isFetch w x : Bool) : Word :=
  if isFetch && !x then MCAUSE_INST_PAGE_FAULT
  else if isWrite && !w then MCAUSE_STORE_PAGE_FAULT
  else MCAUSE_LOAD_PAGE_FAULT

/-- `tlb_lookup`: whether the access is served, and the updated result.  The
low bits of the physical address are taken from `vpn`, as in the source. -/
def tlbLookup (mem : MemorySystem) (vpn : Word) (result : TranslationResult) (isWrite isFetch : Bool) :
    Bool × TranslationResult :=
  match mem.tlbMatch vpn with
  | none => (false, result)
  | some entry =>
      let r := RegisterFile.hasBit (entry.flags.setWidth 32) 1
      let w := RegisterFile.hasBit (entry.flags.setWidth 32) 2
      let x := RegisterFile.hasBit (entry.flags.setWidth 32) 4
      if lacksPermission isWrite isFetch r w x then
        (false, { result with fault := true, cause := permissionCause isWrite isFetch w x })
      else (true, { result with paddr := (entry.ppn <<< 12) ||| (vpn &&& 0xFFF#32), fault := false })

/-- The bits of a page-table entry. -/
structure PTE where
  raw : Word

namespace PTE

def v (pte : PTE) : Bool := RegisterFile.hasBit pte.raw 0x01#32
def r (pte : PTE) : Bool := RegisterFile.hasBit pte.raw 0x02#32
def w (pte : PTE) : Bool := RegisterFile.hasBit pte.raw 0x04#32
def x (pte : PTE) : Bool := RegisterFile.hasBit pte.raw 0x08#32
def u (pte : PTE) : Bool := RegisterFile.hasBit pte.raw 0x10#32
def ppn (pte : PTE) : Word := (pte.raw >>> 10) &&& 0x003FFFFF#32

/-- The permission byte that `tlb_insert` stores: no U bit among them. -/
def flags (pte : PTE) : Byte :=
  (if pte.r then 1#8 else 0) ||| (if pte.w then 2#8 else 0) ||| (if pte.x then 4#8 else 0)

end PTE

/-- The end of a walk at a leaf: permission check, U check, TLB insertion.
The two leaf levels differ in the address they deliver only. -/
def finishWalk (mem : MemorySystem) (result : TranslationResult) (pte : PTE) (vpnFull paddr : Word)
    (isWrite isFetch : Bool) (privilege : Byte) : TranslationResult × MemorySystem :=
  if lacksPermission isWrite isFetch pte.r pte.w pte.x then
    ({ result with fault := true, cause := permissionCause isWrite isFetch pte.w pte.x }, mem)
  else if privilege = PRV_U && !pte.u then
    ({ result with fault := true, cause := pageFaultCause isWrite isFetch }, mem)
  else
    ({ result with paddr := paddr, fault := false }, mem.tlbInsert vpnFull pte.ppn pte.flags)

/-- The page walk of `translate`, from the root table named by `satp`. -/
def walk (mem : MemorySystem) (result : TranslationResult) (vaddr : Addr) (isWrite isFetch : Bool)
    (satp : Word) (privilege : Byte) : Except Crash (TranslationResult × MemorySystem) := do
  let pageFault := { result with fault := true, cause := pageFaultCause isWrite isFetch }
  let vpn1 := (vaddr >>> 22) &&& 0x3FF#32
  let vpn0 := (vaddr >>> 12) &&& 0x3FF#32
  let offset := vaddr &&& 0xFFF#32
  let vpnFull := (vpn1 <<< 10) ||| vpn0
  let rootAddr := (satp &&& 0x003FFFFF#32) <<< 12
  if rootAddr + vpn1 * 4 + 4 > MEMORY_SIZE then return (pageFault, mem)
  let pte1 := PTE.mk (← mem.loadBytes (rootAddr + vpn1 * 4) 4)
  if !pte1.v then return (pageFault, mem)
  if pte1.r || pte1.x then
    -- 4 MB page: the offset is VA[21:0]
    return mem.finishWalk result pte1 vpnFull ((pte1.ppn <<< 12) ||| (vaddr &&& 0x003FFFFF#32))
      isWrite isFetch privilege
  let l0Addr := (pte1.ppn <<< 12) + vpn0 * 4
  if l0Addr + 4 > MEMORY_SIZE then return (pageFault, mem)
  let pte0 := PTE.mk (← mem.loadBytes l0Addr 4)
  if !pte0.v then return (pageFault, mem)
  return mem.finishWalk result pte0 vpnFull ((pte0.ppn <<< 12) ||| offset) isWrite isFetch privilege

/-- `MemorySystem::translate`. -/
def translate (mem : MemorySystem) (vaddr : Addr) (isWrite isFetch : Bool) (satp : Word)
    (privilege : Byte) : Except Crash (TranslationResult × MemorySystem) :=
  let result : TranslationResult := { paddr := vaddr, fault := false }
  if privilege = PRV_M then .ok (result, mem)
  else if (satp >>> 31) &&& 1#32 = 0 then .ok (result, mem)
  else
    let vpnFull := (((vaddr >>> 22) &&& 0x3FF#32) <<< 10) ||| ((vaddr >>> 12) &&& 0x3FF#32)
    match mem.tlbLookup vpnFull result isWrite isFetch with
    | (true, served) => .ok (served, mem)
    | (false, result) => mem.walk result vaddr isWrite isFetch satp privilege

end MemorySystem

end SimpleRV
